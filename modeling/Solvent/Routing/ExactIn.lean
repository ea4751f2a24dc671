import Mathlib
import Solvent.Routing.Legs

/-! # Exact-in splits

    The level search hands the assembly an under-filling level, so the fills
    there spend less than the target; the top-up loop then moves the remainder
    onto legs unit for unit. What the legs spend together with what is left
    over is the target at every round, and every round takes something off the
    remainder.
-/

namespace Solvent

/-! ## Fills at a level -/

namespace Book

theorem length_fills (book : Book) (l : Ratio) :
    (book.fills l).length = book.candidates.length := by
  simp [fills]

/-- A leg's fill at `top_level` is nothing, whatever its floor. -/
theorem leg_at_top (book : Book) (entry : Candidate × ℕ) :
    (book.leg top_level entry).amount_in = 0 ∧ (book.leg top_level entry).amount_out = 0 := by
  unfold leg
  split
  · rename_i quote hquote
    exact Candidate.fill_at_top (le_max_right _ _) hquote
  · exact ⟨rfl, rfl⟩

/-- The book under-fills any non-zero target at `top_level`. -/
theorem measure_top (book : Book) {target : U256} (h : target ≠ 0) :
    book.measure top_level < target := by
  have hzero : total ((book.fills top_level).map book.kind.toward_target) = 0 := by
    have hall : ∀ q ∈ (book.fills top_level).map book.kind.toward_target, q = 0 := by
      intro q hq
      simp only [fills, List.map_map, List.mem_map] at hq
      obtain ⟨entry, -, rfl⟩ := hq
      obtain ⟨hin, hout⟩ := book.leg_at_top entry
      cases hk : book.kind with
      | ExactIn => simpa [FillKind.toward_target, hk] using hin
      | ExactOut => simpa [FillKind.toward_target, hk] using hout
    unfold total
    rw [List.sum_eq_zero_iff]
    intro n hn
    obtain ⟨q, hq, rfl⟩ := List.mem_map.1 hn
    rw [hall q hq]
    rfl
  have htarget : target.val ≠ 0 := fun h0 => h (U256.eq_zero_iff.2 h0)
  show (U256.saturating_sum _).val < target.val
  rw [saturating_sum_total, hzero]
  omega

end Book

/-! ## The top-up loop -/

/-- What a round of the top-up does: it pours `add` into one candidate's leg. -/
theorem topup_step_cases {book : Book} {t t' : TopUp} (h : topup_step book t = some t') :
    ∃ c i, (c, i) ∈ book.candidates.zipIdx ∧
      ∃ add, add ≠ 0 ∧ add ≤ t.remainder ∧ add ≤ book.topup_room t.ins t.outs (c, i) ∧
        t'.ins = t.ins.set i ((at_leg t.ins i).saturating_add add) ∧
        t'.outs = t.outs.set i
          ((c.net_quote_exact_in ((at_leg t.ins i).saturating_add add)).toOption.getD
            (at_leg t.outs i)) ∧
        t'.remainder = t.remainder.saturating_sub add := by
  unfold topup_step at h
  split at h
  · cases h
  · split at h
    · cases h
    · rename_i c i hbest
      simp only at h
      split at h
      · cases h
      · rename_i hadd
        cases h
        have hmem := List.mem_of_mem_filter (Vec.max_by_key_mem hbest)
        exact ⟨c, i, hmem, _, hadd, min_le_left _ _, min_le_right _ _, rfl, rfl, rfl⟩

/-- **Termination.** A round takes at least one unit off the remainder, so the
    loop leaves by its own test within as many rounds. -/
theorem topup_exits (book : Book) (t : TopUp) {fuel : ℕ} (h : t.remainder.val ≤ fuel) :
    topup_step book (Loop.iterate (topup_step book) fuel t) = none := by
  refine Loop.iterate_exits (P := fun _ => True) (fun t => t.remainder.val)
    (fun _ _ _ _ => trivial) ?_ trivial h
  intro t t' _ hstep
  obtain ⟨c, i, -, add, hne, hle, -, -, -, hrem⟩ := topup_step_cases hstep
  have hle' : add.val ≤ t.remainder.val := hle
  have hpos : add.val ≠ 0 := fun h0 => hne (U256.eq_zero_iff.2 h0)
  rw [hrem, U256.saturating_sub_val]
  omega

/-- What is spent and what remains make up the target. -/
def Spends (book : Book) (target : U256) (t : TopUp) : Prop :=
  t.ins.length = book.candidates.length ∧ total t.ins + t.remainder.val = target.val

/-- **Step lemma.** A round moves input from the remainder to one leg. -/
theorem spends_step {book : Book} {target : U256} {t t' : TopUp} (ht : Spends book target t)
    (h : topup_step book t = some t') : Spends book target t' := by
  obtain ⟨hlen, hsum⟩ := ht
  obtain ⟨c, i, hmem, add, -, hadd, -, hins, -, hrem⟩ := topup_step_cases h
  have hi : i < t.ins.length := by
    have := (List.mem_zipIdx hmem).2.1
    omega
  have hadd' : add.val ≤ t.remainder.val := hadd
  have hslot := at_leg_le_total t.ins i
  have hset := total_set t.ins hi ((at_leg t.ins i).saturating_add add)
  have hlt := target.isLt
  refine ⟨by rw [hins, List.length_set, hlen], ?_⟩
  rw [hins, hrem, U256.saturating_sub_val]
  -- The slot and what is poured stay within the target, so nothing saturates.
  simp only [U256.saturating_add_val] at hset
  omega

/-- **Run lemma.** Fills within the target stay within it through the loop. -/
theorem spends_topup {book : Book} {level : Ratio} {target : U256}
    (h : total ((book.fills level).map LimitedQuote.amount_in) ≤ target.val) (fuel : ℕ) :
    Spends book target
      (Loop.iterate (topup_step book) fuel (topup_start book level target)) := by
  refine Loop.iterate_invariant (P := Spends book target)
    (fun t t' ht hstep => spends_step ht hstep) fuel ?_
  refine ⟨by simp [topup_start, book.length_fills], ?_⟩
  have hlt := target.isLt
  simp only [topup_start, U256.saturating_sub_val, saturating_sum_total]
  omega

/-! ## Exact-in splits -/

/-- A split that keeps within the request: exact totals, at most the requested
    input, and one real quote per leg, each from a candidate of its own. -/
structure SpendsWithin (candidates : List Candidate) (request : RouteRequest) (split : Split) :
    Prop where
  within : split.amount_in ≤ request.amount
  amount_in : split.amount_in.val = legs_in split.legs
  amount_out : split.amount_out.val = legs_out split.legs
  legs : ∃ chosen, chosen.Subperm candidates ∧
    List.Forall₂ (QuotedLeg .ExactIn) chosen split.legs

theorem assemble_exact_in_spends {book : Book} {level : Ratio} {request : RouteRequest}
    {split : Split} (hfill : book.measure level < request.amount) (hkind : book.kind = .ExactIn)
    (h : assemble_exact_in book level request.amount = some split) :
    SpendsWithin book.candidates request split := by
  have hbuilt := build_spec h
  have hfills : total ((book.fills level).map LimitedQuote.amount_in) ≤ request.amount.val := by
    unfold Book.measure at hfill
    rw [hkind] at hfill
    exact (total_lt_of_saturating_sum hfill).le
  obtain ⟨hlen, hsum⟩ := spends_topup hfills (topup_start book level request.amount).remainder.val
  refine ⟨?_, hbuilt.amount_in, hbuilt.amount_out, ?_⟩
  · rw [Fin.le_def, hbuilt.amount_in, hbuilt.legs]
    refine (legs_in_le_total _).trans ?_
    rw [List.map_snd_zip (by omega)]
    omega
  · obtain ⟨chosen, hsub, hlegs⟩ := legs_of_sublist .ExactIn (book.candidates.zip
      (Loop.iterate (topup_step book) (topup_start book level request.amount).remainder.val
        (topup_start book level request.amount)).ins)
    rw [List.map_fst_zip (by omega)] at hsub
    exact ⟨chosen, hsub.subperm, by rw [hbuilt.legs]; exact hlegs⟩

/-- What `solve` does with an exact-in request it can meet. -/
theorem solve_exact_in {candidates : List Candidate} {request : RouteRequest}
    {warm : Option Ratio} {split : Split} (hin : request.exact_in = true)
    (h : solve candidates request warm = some split) :
    request.amount ≠ 0 ∧
    assemble_exact_in (Book.new candidates request.amount .ExactIn)
      (bracket_level (Book.new candidates request.amount .ExactIn).measure request.amount warm
        (price_upper candidates)).hi request.amount = some split := by
  have hkind : FillKind.from_request request = .ExactIn := by simp [FillKind.from_request, hin]
  unfold solve at h
  simp only [hkind] at h
  split at h
  · cases h
  · rename_i hne
    rw [not_or] at hne
    split at h
    · cases h
    · exact ⟨hne.2, h⟩

theorem solve_spends {candidates : List Candidate} {request : RouteRequest} {warm : Option Ratio}
    {split : Split} (hin : request.exact_in = true)
    (h : solve candidates request warm = some split) :
    SpendsWithin candidates request split := by
  obtain ⟨hne, hassemble⟩ := solve_exact_in hin h
  refine assemble_exact_in_spends ?_ rfl hassemble
  exact bracket_level_under warm (price_upper candidates) (Book.measure_top _ hne)

/-! ## Sparsification -/

/-- What one drop does: the best split becomes a solution over fewer of the
    candidates, kept for being no worse or for the legs of the one before it. -/
theorem sparse_step_cases {request : RouteRequest} {per_leg_cost : U256} {max_legs : ℕ}
    {s s' : Sparse} (h : sparse_step request per_leg_cost max_legs s = some s') :
    s'.active.Subperm s.active ∧ s'.active.length < s.active.length ∧
      solve s'.active request (some s.best.lambda) = some s'.best ∧
      (max_legs < s.best.legs.length ∨
        (FillKind.from_request request).is_no_worse s'.best s.best per_leg_cost = true) := by
  unfold sparse_step at h
  split at h
  · cases h
  · simp only at h
    split at h
    · cases h
    · split at h
      · rename_i hpos
        split at h
        · rename_i next hnext
          split at h
          · rename_i hkept
            cases h
            refine ⟨Vec.swap_remove_subperm _ _ hpos, ?_, hnext, hkept⟩
            rw [Vec.length_swap_remove]
            omega
          · cases h
        · cases h
      · cases h

/-- The active list is drawn from the candidates, and the best split solves the
    request over such a list. -/
def SolvesSome (candidates : List Candidate) (request : RouteRequest) (s : Sparse) : Prop :=
  s.active.Subperm candidates ∧
    ∃ active seed, active.Subperm candidates ∧ solve active request seed = some s.best

theorem solvesSome_step {candidates : List Candidate} {request : RouteRequest}
    {per_leg_cost : U256} {max_legs : ℕ} {s s' : Sparse} (hs : SolvesSome candidates request s)
    (hstep : sparse_step request per_leg_cost max_legs s = some s') :
    SolvesSome candidates request s' := by
  obtain ⟨hsub, -, hsolve, -⟩ := sparse_step_cases hstep
  exact ⟨hsub.trans hs.1, s'.active, _, hsub.trans hs.1, hsolve⟩

/-- Every split the sparsity pass can return solves the request over some of
    the candidates. -/
theorem solve_sparse_solves {candidates : List Candidate} {request : RouteRequest}
    {per_leg_cost : U256} {max_legs : ℕ} {warm : Option Ratio} {split : Split}
    (h : solve_sparse candidates request per_leg_cost max_legs warm = some split) :
    ∃ active seed, active.Subperm candidates ∧ solve active request seed = some split := by
  unfold solve_sparse at h
  obtain ⟨best, hbest, rfl⟩ := Option.map_eq_some_iff.1 h
  have hstart : SolvesSome candidates request { active := candidates, best } :=
    ⟨List.Subperm.refl _, candidates, warm, List.Subperm.refl _, hbest⟩
  have hinv : ∀ s s', SolvesSome candidates request s →
      sparse_step request per_leg_cost max_legs s = some s' → SolvesSome candidates request s' :=
    fun s s' hs hstep => solvesSome_step hs hstep
  exact (Loop.iterate_invariant hinv candidates.length hstart).2

/-- The sparsity pass leaves by its own test: each kept drop shortens the
    active list. -/
theorem sparse_exits (request : RouteRequest) (per_leg_cost : U256) (max_legs : ℕ) (s : Sparse) :
    sparse_step request per_leg_cost max_legs
      (Loop.iterate (sparse_step request per_leg_cost max_legs) s.active.length s) = none :=
  Loop.iterate_exits (P := fun _ => True) (fun s : Sparse => s.active.length)
    (fun _ _ _ _ => trivial) (fun _ _ _ hstep => (sparse_step_cases hstep).2.1) trivial le_rfl

/-- **Exact-in never over-spends.** Every split of `solve` and `solve_sparse`,
    for any candidates and any warm start, spends at most the request, adds its
    legs up exactly and quotes each from its own candidate; and the top-up loop
    leaves by its own test from any state. -/
theorem exact_in_spends_within (candidates : List Candidate) (request : RouteRequest)
    (hin : request.exact_in = true) :
    (∀ warm split, solve candidates request warm = some split →
      SpendsWithin candidates request split) ∧
    (∀ per_leg_cost max_legs warm split,
      solve_sparse candidates request per_leg_cost max_legs warm = some split →
      SpendsWithin candidates request split) ∧
    (∀ (book : Book) (t : TopUp) (fuel : ℕ), t.remainder.val ≤ fuel →
      topup_step book (Loop.iterate (topup_step book) fuel t) = none) := by
  refine ⟨fun warm split h => solve_spends hin h, ?_, fun book t fuel h => topup_exits book t h⟩
  intro per_leg_cost max_legs warm split h
  obtain ⟨active, seed, hsub, hsolve⟩ := solve_sparse_solves h
  have hsplit := solve_spends hin hsolve
  obtain ⟨chosen, hchosen, hlegs⟩ := hsplit.legs
  exact ⟨hsplit.within, hsplit.amount_in, hsplit.amount_out, chosen, hchosen.trans hsub, hlegs⟩

/-- A constant-product venue with one fee, for a request of both kinds. -/
def sample_venue : Candidate :=
  { key := { maker := ⟨1⟩, app := 0, strategy_hash := ⟨1⟩ }
    token_in := 1
    token_out := 2
    cap_out := 900
    wallet_cap := 900
    pool := .Xyc { balance_in := 1000, balance_out := 1000 }
    fees_in_bps := [3000000] }

def sample_exact_in : RouteRequest :=
  { intent := ⟨0⟩, token_in := 1, token_out := 2, amount := 100, exact_in := true }

theorem exact_in_spends_within_sample :
    ∃ split, solve [sample_venue] sample_exact_in none = some split ∧
      SpendsWithin [sample_venue] sample_exact_in split := by
  have hsome : (solve [sample_venue] sample_exact_in none).isSome := by decide +kernel
  obtain ⟨split, hsplit⟩ := Option.isSome_iff_exists.1 hsome
  exact ⟨split, hsplit, (exact_in_spends_within _ sample_exact_in rfl).1 none split hsplit⟩

end Solvent
