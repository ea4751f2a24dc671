import Solvent.Routing.ExactIn
import Solvent.Routing.Groups

/-! # The bracket around a level

    The bisection keeps a low end that meets the target and a high end that does
    not, with what each fills on record. That takes no more than a fill that meets
    the target at zero and misses it at `top_level`, which every book does.
-/

namespace Solvent

/-- The ends are apart, on either side of the target, and their fills recorded. -/
structure Brackets (fill : Ratio → U256) (target : U256) (b : LevelBracket) : Prop where
  apart : b.lo < b.hi
  meets : target ≤ fill b.lo
  under : fill b.hi < target
  m_lo : b.m_lo = fill b.lo
  m_hi : b.m_hi = fill b.hi

variable {fill : Ratio → U256} {target : U256}

theorem brackets_start (seed : Option Ratio) (upper : Ratio) (hzero : target ≤ fill 0)
    (htop : fill top_level < target) :
    Brackets fill target (bracket_start fill target seed upper) := by
  obtain ⟨hrecord, hunder⟩ := bracket_start_under seed upper htop
  refine ⟨?_, hzero, hunder, rfl, hrecord⟩
  -- The high end under-fills and zero does not, so it is not zero.
  have hne : (bracket_start fill target seed upper).hi ≠ 0 := by
    intro heq
    rw [heq] at hunder
    exact absurd hzero (not_le.mpr hunder)
  exact pos_iff_ne_zero.mpr hne

theorem brackets_step {tol : U256} {b b' : LevelBracket} (hb : Brackets fill target b)
    (h : bracket_step fill target tol b = some b') : Brackets fill target b' := by
  rcases bracket_step_cases h with ⟨hm, rfl⟩ | ⟨hm, rfl⟩
  · exact { hb with apart := Ratio.midpoint_lt hb.apart, meets := hm, m_lo := rfl }
  · exact { hb with apart := Ratio.lt_midpoint hb.apart, under := hm, m_hi := rfl }

/-- **Bracketing is sound** for any fill, seed and upper level. Its condition at the
    top holds of every leg, book and maker group. -/
theorem bracket_level_sound (hzero : target ≤ fill 0) (htop : fill top_level < target)
    (seed : Option Ratio) (upper : Ratio) :
    Brackets fill target (bracket_level fill target seed upper) ∧
    (∀ (c : Candidate) (bound : U256), fill_output c bound top_level = 0 ∧
      ∀ quote, c.net_quote_with_limit bound top_level = .ok quote → quote.amount_in = 0) ∧
    (∀ (book : Book) (amount : U256), amount ≠ 0 → book.measure top_level < amount) ∧
    ∀ (candidates : List Candidate) (bounds : List U256) (group : MakerGroup),
      group.wallet_cap ≠ 0 →
      group_output_at_level candidates bounds group top_level < group.wallet_cap := by
  refine ⟨?_, ?_, ?_, ?_⟩
  · exact Loop.iterate_invariant (fun b b' hb hstep => brackets_step hb hstep) MAX_ITERS
      (brackets_start seed upper hzero htop)
  · intro c bound
    exact ⟨fill_output_top c bound, fun quote hquote => (Candidate.fill_at_top le_rfl hquote).1⟩
  · intro book amount hne
    exact book.measure_top hne
  · intro candidates bounds group hwallet
    exact group_output_top candidates bounds hwallet

/-- A fill that rises before it falls, and a seed of three. -/
theorem bracket_level_sound_sample :
    let fill : Ratio → U256 := fun l => if l ≤ 1 then 5 else if l ≤ 2 then 9 else 0
    Brackets fill 4 (bracket_level fill 4 (some 3) 7) := by
  intro fill
  exact (bracket_level_sound (by decide +kernel) (by decide +kernel) (some 3) 7).1

end Solvent
