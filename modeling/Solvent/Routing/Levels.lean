import Mathlib
import Solvent.Registry.Quotes
import Solvent.Routing.Waterfill

/-! # Levels and fills

    What a candidate fills at a level, and what the bisection of the level
    ends with. Two facts carry the solver:

    * a fill is a real quote of its candidate, within the input offered, and
      is zero at `top_level`;
    * a bracket of any fill function that under-fills at `top_level` ends with
      an under-filling `hi`, and, where level zero meets the target, with a
      `lo` that still meets it. Neither needs the fill to be monotone, and the
      seed may be anything.
-/

namespace Solvent

/-! ## Fees as a fraction -/

theorem fee_factor_eq_ok {f : U32} {r : Ratio} :
    fee_factor f = .ok r ↔ f.val < BPS ∧ ((BPS - f.val : ℕ) : Ratio) / BPS = r := by
  unfold fee_factor
  split <;> simp_all

theorem fee_factor_bounds {f : U32} {r : Ratio} (h : fee_factor f = .ok r) : 0 < r ∧ r ≤ 1 := by
  obtain ⟨hf, hr⟩ := fee_factor_eq_ok.1 h
  have hbps : (0 : Ratio) < BPS := by norm_num [BPS]
  rw [← hr]
  constructor
  · have hpos : 0 < BPS - f.val := by omega
    have hpos' : (0 : Ratio) < ((BPS - f.val : ℕ) : Ratio) := by exact_mod_cast hpos
    positivity
  · rw [div_le_one hbps]
    exact_mod_cast Nat.sub_le _ _

theorem gamma_fold_bounds {fees : List U32} {start g : Ratio}
    (h : fees.foldlM (fun g f => do return g * (← fee_factor f)) start = Except.ok g)
    (hpos : 0 < start) : 0 < g ∧ g ≤ start := by
  induction fees generalizing start with
  | nil =>
    cases h
    exact ⟨hpos, le_rfl⟩
  | cons f fees ih =>
    rw [List.foldlM_cons] at h
    obtain ⟨next, hnext, hrest⟩ := Except.bind_eq_ok.1 h
    obtain ⟨r, hr, hmul⟩ := Except.bind_eq_ok.1 hnext
    cases hmul
    obtain ⟨hr0, hr1⟩ := fee_factor_bounds hr
    obtain ⟨hg0, hg1⟩ := ih hrest (mul_pos hpos hr0)
    exact ⟨hg0, hg1.trans (mul_le_of_le_one_right hpos.le hr1)⟩

theorem gamma_fold_ok {fees : List U32} (h : ∀ f ∈ fees, f.val < BPS) (start : Ratio) :
    ∃ g, fees.foldlM (fun g f => do return g * (← fee_factor f)) start =
      (Except.ok g : Except CurveError Ratio) := by
  induction fees generalizing start with
  | nil => exact ⟨start, rfl⟩
  | cons f fees ih =>
    have hfactor := fee_factor_eq_ok.2 ⟨h f (by simp), rfl⟩
    obtain ⟨g, hg⟩ := ih (fun f' hf' => h f' (List.mem_cons_of_mem f hf'))
      (start * (((BPS - f.val : ℕ) : Ratio) / BPS))
    refine ⟨g, ?_⟩
    rw [List.foldlM_cons, hfactor]
    exact hg

theorem gamma_fold_lt {fees : List U32} {start g : Ratio}
    (h : fees.foldlM (fun g f => do return g * (← fee_factor f)) start = Except.ok g) :
    ∀ f ∈ fees, f.val < BPS := by
  induction fees generalizing start with
  | nil => simp
  | cons f fees ih =>
    rw [List.foldlM_cons] at h
    obtain ⟨next, hnext, hrest⟩ := Except.bind_eq_ok.1 h
    obtain ⟨r, hr, -⟩ := Except.bind_eq_ok.1 hnext
    intro f' hf'
    rcases List.mem_cons.1 hf' with rfl | hf'
    · exact (fee_factor_eq_ok.1 hr).1
    · exact ih hrest f' hf'

namespace Candidate

/-- The fraction fees leave is positive and at most one. -/
theorem gamma_bounds {c : Candidate} {g : Ratio} (h : c.gamma = .ok g) : 0 < g ∧ g ≤ 1 :=
  gamma_fold_bounds h one_pos

/-- **Constant product with fees.** Away from the pegged curve, net exact-out is
    the least inverse of net exact-in. -/
theorem leastInverse {c : Candidate} (h : ∀ p, c.pool ≠ .Pegged p) :
    LeastInverse c.net_quote_exact_in c.net_quote_exact_out := by
  have hpool : LeastInverse c.pool.quote_exact_in c.pool.quote_exact_out := by
    cases hc : c.pool with
    | Xyc p => exact p.leastInverse
    | Concentrate p => exact p.leastInverse
    | Pegged p => exact absurd hc (h p)
  exact (fees_leastInverse c.fees_in_bps).comp hpool

/-! ## Fills of a candidate -/

/-- A net fill is the fee-free fill at the scaled limit, its input grossed up. -/
theorem net_fill_eq {c : Candidate} {b : U256} {l : Ratio} {q : LimitedQuote}
    (h : c.net_quote_with_limit b l = .ok q) :
    ∃ g nb net gross, c.gamma = .ok g ∧ shrink_by_fees b c.fees_in_bps = .ok nb ∧
      c.pool.quote_with_limit nb (l * g⁻¹) = .ok net ∧
      gross_up_by_fees net.amount_in c.fees_in_bps = .ok gross ∧
      q = { amount_in := min gross b, amount_out := net.amount_out, limited := net.limited } := by
  unfold net_quote_with_limit at h
  obtain ⟨g, hg, h⟩ := Except.bind_eq_ok.1 h
  obtain ⟨inv, hinv, h⟩ := Except.bind_eq_ok.1 h
  obtain ⟨nb, hnb, h⟩ := Except.bind_eq_ok.1 h
  obtain ⟨net, hnet, h⟩ := Except.bind_eq_ok.1 h
  obtain ⟨gross, hgross, h⟩ := Except.bind_eq_ok.1 h
  cases h
  have hg0 : g ≠ 0 := (gamma_bounds hg).1.ne'
  rw [ok_or_eq_ok, Ratio.invert, if_neg hg0, Option.some.injEq] at hinv
  subst hinv
  exact ⟨g, nb, net, gross, hg, hnb, hnet, hgross, rfl⟩

/-- What a net fill is made of. -/
theorem net_fill_cases {c : Candidate} {b : U256} {l : Ratio} {q : LimitedQuote}
    (h : c.net_quote_with_limit b l = .ok q) :
    ∃ g nb net gross, c.gamma = .ok g ∧ shrink_by_fees b c.fees_in_bps = .ok nb ∧
      c.pool.quote_with_limit nb (l * g⁻¹) = .ok net ∧
      gross_up_by_fees net.amount_in c.fees_in_bps = .ok gross ∧
      q.amount_in = min gross b ∧ q.amount_out = net.amount_out := by
  obtain ⟨g, nb, net, gross, hg, hnb, hnet, hgross, rfl⟩ := net_fill_eq h
  exact ⟨g, nb, net, gross, hg, hnb, hnet, hgross, rfl, rfl⟩

/-- **A fill is a quote.** Its output is what the candidate quotes for its
    input, unless both are zero. -/
theorem fill_quotes {c : Candidate} {b : U256} {l : Ratio} {q : LimitedQuote}
    (h : c.net_quote_with_limit b l = .ok q) :
    q.amount_in ≤ b ∧
      (c.net_quote_exact_in q.amount_in = .ok q.amount_out ∨
        (q.amount_in = 0 ∧ q.amount_out = 0)) := by
  obtain ⟨g, nb, net, gross, -, hnb, hnet, hgross, hin, hout⟩ := net_fill_cases h
  refine ⟨by rw [hin]; exact min_le_right _ _, ?_⟩
  obtain ⟨hle, hquote⟩ := CurvePool.fill_quotes hnet
  -- Grossing the consumed input back up never exceeds what was offered.
  have hgb : gross ≤ b := by
    by_cases hzero : net.amount_in = 0
    · rw [hzero] at hgross
      rw [gross_up_zero hgross]
      exact Fin.zero_le _
    · obtain ⟨g', hg', hle'⟩ := (fees_leastInverse c.fees_in_bps).least hnb hzero hle
      rw [hgross] at hg'
      cases hg'
      exact hle'
  rw [hin, min_eq_left hgb, hout]
  rcases hquote with hquote | ⟨hi0, ho0⟩
  · obtain ⟨n, hn, -⟩ := (fees_leastInverse c.fees_in_bps).down hnb hgb
    have hsame := shrink_gross_up hgross hn
    subst hsame
    exact .inl (Except.bind_eq_ok.2 ⟨_, hn, hquote⟩)
  · rw [hi0] at hgross
    exact .inr ⟨gross_up_zero hgross, ho0⟩

/-- A zero bound fills nothing. -/
theorem fill_of_zero {c : Candidate} {l : Ratio} {q : LimitedQuote}
    (h : c.net_quote_with_limit 0 l = .ok q) : q.amount_out = 0 := by
  obtain ⟨g, nb, net, gross, -, hnb, hnet, -, -, hout⟩ := net_fill_cases h
  rw [shrink_zero hnb] at hnet
  rw [hout]
  exact CurvePool.fill_of_zero hnet

/-- At `top_level` and above nothing is filled. -/
theorem fill_at_top {c : Candidate} {b : U256} {l : Ratio} {q : LimitedQuote}
    (hl : top_level ≤ l) (h : c.net_quote_with_limit b l = .ok q) :
    q.amount_in = 0 ∧ q.amount_out = 0 := by
  obtain ⟨g, nb, net, gross, hg, -, hnet, hgross, hin, hout⟩ := net_fill_cases h
  obtain ⟨hg0, hg1⟩ := gamma_bounds hg
  have hlimit : (U256.MAX.val : Ratio) < l * g⁻¹ := by
    have hmax : (0 : Ratio) < U256.MAX.val := by
      rw [U256.MAX_val]
      exact_mod_cast (by norm_num)
    have htop : (U256.MAX.val : Ratio) < top_level := by
      show (U256.MAX.val : Ratio) < U256.MAX.val * 2
      exact lt_mul_of_one_lt_right hmax (by norm_num)
    have hscale : l ≤ l * g⁻¹ := le_mul_of_one_le_right zero_le ((one_le_inv₀ hg0).2 hg1)
    exact (htop.trans_le hl).trans_le hscale
  obtain ⟨hi0, ho0⟩ := CurvePool.fill_at_top hlimit hnet
  rw [hi0] at hgross
  rw [hin, hout, ho0, gross_up_zero hgross]
  exact ⟨min_eq_left (Fin.zero_le _), rfl⟩

end Candidate

theorem fill_output_top (c : Candidate) (bound : U256) : fill_output c bound top_level = 0 := by
  unfold fill_output
  split
  · rename_i quote hquote
    exact (Candidate.fill_at_top le_rfl hquote).2
  · rfl

/-! ## Brackets -/

section Bracket

variable {fill : Ratio → U256} {target : U256}

/-- `hi` under-fills, and what it fills is recorded. -/
def Under (fill : Ratio → U256) (target : U256) (b : LevelBracket) : Prop :=
  b.m_hi = fill b.hi ∧ fill b.hi < target

/-- `lo` meets the target. -/
def Meets (fill : Ratio → U256) (target : U256) (b : LevelBracket) : Prop :=
  target ≤ fill b.lo

theorem bracket_step_cases {tol : U256} {b b' : LevelBracket}
    (h : bracket_step fill target tol b = some b') :
    (target ≤ fill (Ratio.midpoint b.lo b.hi) ∧
      b' = { b with lo := Ratio.midpoint b.lo b.hi, m_lo := fill (Ratio.midpoint b.lo b.hi) }) ∨
    (fill (Ratio.midpoint b.lo b.hi) < target ∧
      b' = { b with hi := Ratio.midpoint b.lo b.hi, m_hi := fill (Ratio.midpoint b.lo b.hi) }) := by
  unfold bracket_step at h
  split at h
  · cases h
  · simp only at h
    split at h
    · rename_i hm
      cases h
      exact .inl ⟨hm, rfl⟩
    · rename_i hm
      cases h
      exact .inr ⟨not_le.1 hm, rfl⟩

theorem bracket_start_under (seed : Option Ratio) (upper : Ratio) (htop : fill top_level < target) :
    Under fill target (bracket_start fill target seed upper) := by
  refine ⟨rfl, ?_⟩
  -- Whatever the first two tries were, the last one falls back to `top_level`.
  have hlast : ∀ hi : Ratio, fill (if target ≤ fill hi then top_level else hi) < target := by
    intro hi
    by_cases h : target ≤ fill hi
    · rw [if_pos h]
      exact htop
    · rw [if_neg h]
      exact not_le.1 h
  exact hlast _

/-- **Bracketing.** Whatever the seed, the bracket ends with an under-filling
    high side. -/
theorem bracket_level_under (seed : Option Ratio) (upper : Ratio) (htop : fill top_level < target) :
    fill (bracket_level fill target seed upper).hi < target := by
  refine (Loop.iterate_invariant (P := Under fill target) ?_ MAX_ITERS
    (bracket_start_under seed upper htop)).2
  intro b b' hb hstep
  rcases bracket_step_cases hstep with ⟨-, rfl⟩ | ⟨hm, rfl⟩
  · exact hb
  · exact ⟨rfl, hm⟩

/-- Where level zero meets the target, so does the low side. -/
theorem bracket_level_meets (seed : Option Ratio) (upper : Ratio) (hzero : target ≤ fill 0) :
    target ≤ fill (bracket_level fill target seed upper).lo := by
  refine Loop.iterate_invariant (P := Meets fill target) ?_ MAX_ITERS hzero
  intro b b' hb hstep
  rcases bracket_step_cases hstep with ⟨hm, rfl⟩ | ⟨-, rfl⟩
  · exact hm
  · exact hb

/-- The high side stays positive. -/
theorem bracket_level_hi_pos {upper : Ratio} (hupper : 0 < upper) :
    0 < (bracket_level fill target none upper).hi := by
  refine Loop.iterate_invariant (P := fun b : LevelBracket => 0 < b.hi) ?_ MAX_ITERS ?_
  · intro b b' hb hstep
    rcases bracket_step_cases hstep with ⟨-, rfl⟩ | ⟨-, rfl⟩
    · exact hb
    · exact Ratio.midpoint_pos hb
  · have htop : 0 < top_level := by
      show (0 : Ratio) < U256.MAX.val * 2
      rw [U256.MAX_val]
      positivity
    show 0 < if target ≤ fill (if target ≤ fill upper then upper else upper) then top_level
      else if target ≤ fill upper then upper else upper
    rw [ite_self]
    split <;> assumption

end Bracket

end Solvent
