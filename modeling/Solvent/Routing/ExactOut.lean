import Mathlib
import Solvent.Routing.ExactIn

/-! # Exact-out splits

    The level search hands the assembly an over-filling level; trimming then
    takes the overshoot off the largest legs, so the working amounts sum to the
    target exactly. `build` prices each of them and drops the ones whose price
    is zero, and only that can make a split under-deliver.
-/

namespace Solvent

/-! ## Trimming -/

/-- The exact sum of the amounts at `indices`. -/
def total_at (amounts : List U256) (indices : List ℕ) : ℕ :=
  (indices.map fun i => (at_leg amounts i).val).sum

theorem total_at_range (amounts : List U256) :
    total_at amounts (List.range amounts.length) = total amounts := by
  unfold total_at total
  congr 1
  refine List.ext_getElem (by simp) ?_
  intro i h₁ h₂
  simp only [List.length_map, List.length_range] at h₁
  simp [at_leg, h₁]

theorem total_at_perm {amounts : List U256} {is js : List ℕ} (h : is.Perm js) :
    total_at amounts is = total_at amounts js :=
  (h.map _).sum_eq

/-- Slots that are zero do not count. -/
theorem total_at_filter {amounts : List U256} {is : List ℕ} {p : ℕ → Bool}
    (h : ∀ i ∈ is, p i = false → at_leg amounts i = 0) :
    total_at amounts (is.filter p) = total_at amounts is := by
  induction is with
  | nil => rfl
  | cons i is ih =>
    have hrest := ih fun j hj => h j (List.mem_cons_of_mem i hj)
    by_cases hp : p i = true
    · rw [List.filter_cons_of_pos hp]
      simp only [total_at, List.map_cons, List.sum_cons] at hrest ⊢
      omega
    · have hzero := h i (by simp) (by simpa using hp)
      rw [List.filter_cons_of_neg hp]
      simp only [total_at, List.map_cons, List.sum_cons, hzero] at hrest ⊢
      have h0 : (0 : U256).val = 0 := rfl
      omega

theorem total_at_congr {as bs : List U256} {is : List ℕ}
    (h : ∀ i ∈ is, at_leg as i = at_leg bs i) : total_at as is = total_at bs is := by
  unfold total_at
  congr 1
  refine List.map_congr_left ?_
  intro i hi
  rw [h i hi]

/-- What `retain` keeps: nothing grows, slots outside the order are untouched,
    and the order keeps as much as fits of what it is given. -/
theorem retain_spec {order : List ℕ} (hnodup : order.Nodup) :
    ∀ (amounts : List U256) (remaining : U256), (∀ i ∈ order, i < amounts.length) →
      (retain order amounts remaining).length = amounts.length ∧
      (∀ j, at_leg (retain order amounts remaining) j ≤ at_leg amounts j) ∧
      (∀ j, j ∉ order → at_leg (retain order amounts remaining) j = at_leg amounts j) ∧
      total_at (retain order amounts remaining) order =
        min (total_at amounts order) remaining.val := by
  induction order with
  | nil =>
    intro amounts remaining _
    exact ⟨rfl, fun _ => le_rfl, fun _ _ => rfl, by simp [total_at]⟩
  | cons i order ih =>
    intro amounts remaining hrange
    obtain ⟨hi, hnodup'⟩ := List.nodup_cons.1 hnodup
    have hilen : i < amounts.length := hrange i (by simp)
    set kept := min (at_leg amounts i) remaining with hkept
    have hrange' : ∀ j ∈ order, j < (amounts.set i kept).length := by
      intro j hj
      rw [List.length_set]
      exact hrange j (List.mem_cons_of_mem i hj)
    obtain ⟨hlen, hle, hout, hsum⟩ :=
      ih hnodup' (amounts.set i kept) (remaining.saturating_sub kept) hrange'
    have hres : retain (i :: order) amounts remaining =
      retain order (amounts.set i kept) (remaining.saturating_sub kept) := rfl
    rw [hres]
    have hslot : ∀ j, at_leg (amounts.set i kept) j = if i = j then kept else at_leg amounts j := by
      intro j
      rw [at_leg_set]
      simp [hilen]
    -- The head slot is written once and never touched again.
    have hhead : at_leg (retain order (amounts.set i kept) (remaining.saturating_sub kept)) i =
        kept := by
      rw [hout i hi, hslot, if_pos rfl]
    refine ⟨by rw [hlen, List.length_set], ?_, ?_, ?_⟩
    · intro j
      refine (hle j).trans ?_
      rw [hslot]
      split
      · rename_i hij
        rw [← hij]
        exact min_le_left _ _
      · exact le_rfl
    · intro j hj
      rw [List.mem_cons, not_or] at hj
      rw [hout j hj.2, hslot, if_neg fun hij => hj.1 hij.symm]
    · have hrest : total_at (amounts.set i kept) order = total_at amounts order := by
        refine total_at_congr ?_
        intro j hj
        rw [hslot, if_neg]
        rintro rfl
        exact hi hj
      rw [hrest, U256.saturating_sub_val] at hsum
      have hkval : kept.val = min (at_leg amounts i).val remaining.val := by
        rw [hkept]
        rcases le_total (at_leg amounts i) remaining with h | h
        · have h' : (at_leg amounts i).val ≤ remaining.val := h
          rw [min_eq_left h]
          omega
        · have h' : remaining.val ≤ (at_leg amounts i).val := h
          rw [min_eq_right h]
          omega
      simp only [total_at, List.map_cons, List.sum_cons, hhead] at hsum ⊢
      omega

/-- **Trimming.** What is kept at the indices is the target where the amounts
    reach it; no leg grows and no other leg changes. -/
theorem trim_at_spec (candidates : List Candidate) {amounts : List U256} (target : U256)
    {indices : List ℕ} (hindices : indices.Nodup) (hrange : ∀ i ∈ indices, i < amounts.length) :
    (trim_to_total candidates amounts target indices).length = amounts.length ∧
      (∀ j, at_leg (trim_to_total candidates amounts target indices) j ≤ at_leg amounts j) ∧
      (∀ j, j ∉ indices →
        at_leg (trim_to_total candidates amounts target indices) j = at_leg amounts j) ∧
      total_at (trim_to_total candidates amounts target indices) indices =
        min (total_at amounts indices) target.val := by
  set trimmed := trim_to_total candidates amounts target indices
  set kept := indices.filter fun i => decide (at_leg amounts i ≠ 0) with hkeptdef
  set order := (kept.insertionSort (trim_order candidates amounts)).reverse with horder
  have hperm : order.Perm kept :=
    (List.reverse_perm _).trans (List.perm_insertionSort _ kept)
  have hnodup : order.Nodup := hperm.nodup_iff.2 (hindices.filter _)
  have hmem : ∀ i ∈ order, i ∈ indices := fun i hi => List.mem_of_mem_filter (hperm.mem_iff.1 hi)
  obtain ⟨hlen', hle, hout, hsum⟩ :=
    retain_spec hnodup amounts target fun i hi => hrange i (hmem i hi)
  have htrim : trimmed = retain order amounts target := rfl
  rw [htrim]
  refine ⟨hlen', hle, fun j hj => hout j fun h => hj (hmem j h), ?_⟩
  -- Zero slots are in neither sum, so summing over the order is summing over the indices.
  have hall : ∀ as : List U256, (∀ j, at_leg as j ≤ at_leg amounts j) →
      total_at as order = total_at as indices := by
    intro as hasle
    rw [total_at_perm hperm, hkeptdef, total_at_filter]
    intro i _ hi
    have hzero : at_leg amounts i = 0 := by simpa using hi
    have h := hasle i
    rw [hzero] at h
    exact le_antisymm h (Fin.zero_le _)
  rw [← hall _ hle, ← hall amounts fun _ => le_rfl, hsum]

/-- Over all legs, what is kept is the target where the amounts reach it. -/
theorem trim_spec (candidates : List Candidate) {amounts : List U256} (target : U256)
    (hlen : amounts.length = candidates.length) :
    (trim_to_total candidates amounts target (List.range candidates.length)).length =
        amounts.length ∧
      (∀ j, at_leg (trim_to_total candidates amounts target (List.range candidates.length)) j ≤
        at_leg amounts j) ∧
      total (trim_to_total candidates amounts target (List.range candidates.length)) =
        min (total amounts) target.val := by
  have hrange : ∀ i ∈ List.range candidates.length, i < amounts.length := by
    intro i hi
    rw [List.mem_range] at hi
    omega
  obtain ⟨hlen', hle, -, hsum⟩ := trim_at_spec candidates target List.nodup_range hrange
  refine ⟨hlen', hle, ?_⟩
  rw [← total_at_range, hlen', ← total_at_range amounts, hlen]
  exact hsum

/-! ## What is dropped -/

/-- One amount's share of the exact-out total: itself where it becomes a leg. -/
theorem legs_out_cons (p : Candidate × U256) (ps : List (Candidate × U256)) :
    legs_out ((p :: ps).filterMap (leg_at .ExactOut)) =
      (if (leg_at .ExactOut p).isSome then p.2.val else 0) +
        legs_out (ps.filterMap (leg_at .ExactOut)) := by
  obtain ⟨c, amount⟩ := p
  cases hleg : leg_at .ExactOut (c, amount) with
  | none => simp [List.filterMap_cons_none hleg]
  | some leg =>
    have hout : leg.amount_out = amount := (leg_at_eq_some hleg).2
    rw [List.filterMap_cons_some hleg]
    simp [legs_out, hout]

theorem legs_out_le_total (ps : List (Candidate × U256)) :
    legs_out (ps.filterMap (leg_at .ExactOut)) ≤ total (ps.map Prod.snd) := by
  induction ps with
  | nil => simp [legs_out]
  | cons p ps ih =>
    rw [legs_out_cons, List.map_cons, total_cons]
    split <;> omega

/-- A dropped amount is missing from the total. -/
theorem legs_out_add_le {ps : List (Candidate × U256)} {p : Candidate × U256} (hp : p ∈ ps)
    (hdrop : leg_at .ExactOut p = none) :
    legs_out (ps.filterMap (leg_at .ExactOut)) + p.2.val ≤ total (ps.map Prod.snd) := by
  induction ps with
  | nil => simp at hp
  | cons q ps ih =>
    rw [legs_out_cons, List.map_cons, total_cons]
    rcases List.mem_cons.1 hp with rfl | hp
    · have := legs_out_le_total ps
      simp only [hdrop, Option.isSome_none, Bool.false_eq_true, if_false]
      omega
    · have := ih hp
      split <;> omega

theorem legs_out_eq_total {ps : List (Candidate × U256)}
    (h : ∀ p ∈ ps, p.2 ≠ 0 → leg_at .ExactOut p ≠ none) :
    legs_out (ps.filterMap (leg_at .ExactOut)) = total (ps.map Prod.snd) := by
  induction ps with
  | nil => simp [legs_out]
  | cons p ps ih =>
    rw [legs_out_cons, List.map_cons, total_cons, ih fun q hq => h q (List.mem_cons_of_mem p hq)]
    by_cases hzero : p.2 = 0
    · rw [hzero]
      simp
    · have hsome := Option.isSome_iff_ne_none.2 (h p (by simp) hzero)
      rw [if_pos hsome]

theorem legs_out_pos {ps : List (Candidate × U256)}
    (h : ps.filterMap (leg_at .ExactOut) ≠ []) :
    0 < legs_out (ps.filterMap (leg_at .ExactOut)) := by
  obtain ⟨leg, legs, hlegs⟩ := List.exists_cons_of_ne_nil h
  have hmem : leg ∈ ps.filterMap (leg_at .ExactOut) := by simp [hlegs]
  obtain ⟨⟨c, amount⟩, -, hleg⟩ := List.mem_filterMap.1 hmem
  have hne : leg.amount_out.val ≠ 0 :=
    fun h0 => (leg_at_eq_some hleg).1.out_ne_zero (U256.eq_zero_iff.2 h0)
  rw [hlegs]
  simp only [legs_out, List.map_cons, total_cons]
  omega

/-! ## Exact-out splits -/

/-- A candidate that is either offered no input for the request, or charges for
    every output below it. -/
def ChargesBelow (target : U256) (c : Candidate) : Prop :=
  input_bound target .ExactOut c = 0 ∨
    ∀ o, o ≠ 0 → o < target → c.net_quote_exact_out o ≠ .ok 0

/-- Constant-product curves always charge. -/
theorem chargesBelow_of_constant_product {c : Candidate} (h : ∀ p, c.pool ≠ .Pegged p)
    (target : U256) : ChargesBelow target c := by
  refine .inr ?_
  intro o ho _ hquote
  exact (Candidate.leastInverse h).ne_zero hquote ho rfl

/-- A split that delivers the request to the unit: exact totals, and one real
    quote per leg, each from a candidate of its own. -/
structure DeliversExactly (candidates : List Candidate) (request : RouteRequest) (split : Split) :
    Prop where
  legs_out : legs_out split.legs = request.amount.val
  amount_out : split.amount_out = request.amount
  amount_in : split.amount_in.val = legs_in split.legs
  legs : ∃ chosen, chosen.Subperm candidates ∧
    List.Forall₂ (QuotedLeg .ExactOut) chosen split.legs

/-- Slot `i` of the outputs at a level is leg `i`'s fill. -/
theorem at_leg_outs {book : Book} {level : Ratio} {i : ℕ} {c : Candidate}
    (h : book.candidates[i]? = some c) :
    at_leg ((book.fills level).map LimitedQuote.amount_out) i =
      (book.leg level (c, i)).amount_out := by
  unfold at_leg Book.fills
  rw [List.getD_eq_getElem?_getD, List.getElem?_map, List.getElem?_map, List.getElem?_zipIdx, h]
  simp

theorem mem_zip_iff {candidates : List Candidate} {amounts : List U256} {p : Candidate × U256}
    (h : p ∈ candidates.zip amounts) :
    ∃ i, candidates[i]? = some p.1 ∧ at_leg amounts i = p.2 := by
  obtain ⟨i, hi, hp⟩ := List.mem_iff_getElem.1 h
  rw [List.length_zip] at hi
  rw [List.getElem_zip] at hp
  refine ⟨i, ?_, ?_⟩
  · rw [← hp, List.getElem?_eq_getElem (by omega)]
  · rw [← hp]
    simp [at_leg, show i < amounts.length by omega]

/-- An offered zero fills zero. -/
theorem leg_of_zero_bound {book : Book} {level : Ratio} {i : ℕ} {c : Candidate}
    (h : at_leg book.bounds i = 0) : (book.leg level (c, i)).amount_out = 0 := by
  unfold Book.leg
  simp only [h]
  split
  · rename_i q hq
    exact Candidate.fill_of_zero hq
  · rfl

theorem at_leg_bounds {candidates : List Candidate} {target : U256} {kind : FillKind} {i : ℕ}
    {c : Candidate} (h : candidates[i]? = some c) :
    at_leg (Book.new candidates target kind).bounds i = input_bound target kind c := by
  show at_leg (candidates.map (input_bound target kind)) i = _
  unfold at_leg
  rw [List.getD_eq_getElem?_getD, List.getElem?_map, h]
  rfl

theorem assemble_exact_out_delivers {candidates : List Candidate} {level : Ratio}
    {request : RouteRequest} {split : Split}
    (hfill : request.amount ≤ (Book.new candidates request.amount .ExactOut).measure level)
    (hcharges : ∀ c ∈ candidates, ChargesBelow request.amount c)
    (h : assemble_exact_out (Book.new candidates request.amount .ExactOut) level request.amount =
      some split) :
    DeliversExactly candidates request split := by
  set book := Book.new candidates request.amount .ExactOut with hbook
  set outs := (book.fills level).map LimitedQuote.amount_out with houts
  set trimmed := trim_to_total candidates outs request.amount (List.range candidates.length)
    with htrimmed
  have hbuilt : Built .ExactOut (candidates.zip trimmed) split := build_spec h
  have hlen : outs.length = candidates.length := by
    rw [houts, List.length_map, book.length_fills]
    rfl
  have hspec := trim_spec candidates request.amount hlen
  rw [← htrimmed] at hspec
  obtain ⟨hlen', hle, htotal⟩ := hspec
  -- The level over-fills, so trimming leaves exactly the request.
  have hreach : total trimmed = request.amount.val := by
    have hsum : request.amount.val ≤ (U256.saturating_sum outs).val := hfill
    rw [saturating_sum_total] at hsum
    rw [htotal]
    omega
  have hsnd : total ((candidates.zip trimmed).map Prod.snd) = request.amount.val := by
    rw [List.map_snd_zip (by omega), hreach]
  have hkept : ∀ p ∈ candidates.zip trimmed, p.2 ≠ 0 → leg_at .ExactOut p ≠ none := by
    rintro ⟨c, amount⟩ hp hne hdrop
    obtain ⟨i, hi, hamount⟩ := mem_zip_iff hp
    obtain ⟨⟨input, out⟩, hquote⟩ := hbuilt.prices _ hp hne
    simp only [quote_leg, Option.map_eq_some_iff, Except.toOption_eq_some, Prod.mk.injEq] at hquote
    obtain ⟨input, hquote, rfl, rfl⟩ := hquote
    -- A priced amount is dropped only at a zero input.
    have hzero : input = 0 := by
      by_contra hin
      rw [leg_at_exact_out hne hquote hin] at hdrop
      cases hdrop
    subst hzero
    rcases hcharges c (List.mem_of_getElem? hi) with hbound | hcharge
    · -- No input was offered, so the leg filled nothing and kept nothing.
      have hfilled : at_leg outs i = 0 := by
        rw [houts, at_leg_outs hi, leg_of_zero_bound]
        rw [hbook, at_leg_bounds hi, hbound]
      have hslot := hle i
      rw [hfilled] at hslot
      simp only at hamount
      rw [← hamount] at hne
      exact hne (le_antisymm hslot (Fin.zero_le _))
    · -- The amount is the whole request, and then there is no leg at all.
      have hge : request.amount ≤ amount := by
        by_contra hlt
        exact hcharge amount hne (not_le.1 hlt) hquote
      have hge' : request.amount.val ≤ amount.val := hge
      have hmissing := legs_out_add_le hp hdrop
      rw [hsnd] at hmissing
      have hpos : 0 < legs_out ((candidates.zip trimmed).filterMap (leg_at .ExactOut)) := by
        refine legs_out_pos ?_
        rw [← hbuilt.legs]
        exact hbuilt.ne_nil
      simp only at hmissing
      omega
  have hout : legs_out split.legs = request.amount.val := by
    rw [hbuilt.legs, legs_out_eq_total hkept, hsnd]
  obtain ⟨chosen, hsub, hlegs⟩ := legs_of_sublist .ExactOut (candidates.zip trimmed)
  rw [List.map_fst_zip (by omega)] at hsub
  refine ⟨hout, Fin.ext (by rw [hbuilt.amount_out, hout]), hbuilt.amount_in, chosen,
    hsub.subperm, ?_⟩
  rw [hbuilt.legs]
  exact hlegs

/-- What `solve` does with an exact-out request it can meet. -/
theorem solve_exact_out {candidates : List Candidate} {request : RouteRequest}
    {warm : Option Ratio} {split : Split} (hin : request.exact_in = false)
    (h : solve candidates request warm = some split) :
    request.amount ≤ (Book.new candidates request.amount .ExactOut).measure 0 ∧
    assemble_exact_out (Book.new candidates request.amount .ExactOut)
      (bracket_level (Book.new candidates request.amount .ExactOut).measure request.amount warm
        (price_upper candidates)).lo request.amount = some split := by
  have hkind : FillKind.from_request request = .ExactOut := by simp [FillKind.from_request, hin]
  unfold solve at h
  simp only [hkind] at h
  split at h
  · cases h
  · split at h
    · cases h
    · rename_i hreach
      exact ⟨not_lt.1 hreach, h⟩

theorem solve_delivers {candidates : List Candidate} {request : RouteRequest}
    {warm : Option Ratio} {split : Split} (hin : request.exact_in = false)
    (hcharges : ∀ c ∈ candidates, ChargesBelow request.amount c)
    (h : solve candidates request warm = some split) :
    DeliversExactly candidates request split := by
  obtain ⟨hreach, hassemble⟩ := solve_exact_out hin h
  exact assemble_exact_out_delivers (bracket_level_meets warm _ hreach) hcharges hassemble

def sample_exact_out : RouteRequest :=
  { intent := ⟨0⟩, token_in := 1, token_out := 2, amount := 100, exact_in := false }

/-- A pegged venue whose committed reserves sit above its invariant: the first
    500 units of output are quoted at no input. -/
def free_venue : Candidate :=
  { key := { maker := ⟨2⟩, app := 0, strategy_hash := ⟨2⟩ }
    token_in := 1
    token_out := 2
    cap_out := ⟨10 ^ 20, by norm_num⟩
    wallet_cap := ⟨10 ^ 20, by norm_num⟩
    pool := .from_curve
      (.Pegged {
        x0 := ⟨10 ^ 27, ten_pow_27_lt⟩
        y0 := ⟨10 ^ 30, ten_pow_30_lt⟩
        linear_width := 0
        rate_lt := 1
        rate_gt := 1 })
      1 2 ⟨10 ^ 27, ten_pow_27_lt⟩ ⟨10 ^ 30 + 500, ten_pow_30_add_lt⟩
    fees_in_bps := [] }

/-- A constant-product venue with room for one unit. -/
def one_unit_venue : Candidate :=
  { sample_venue with cap_out := 1, wallet_cap := 1, fees_in_bps := [] }

def free_output_request : RouteRequest :=
  { intent := ⟨0⟩, token_in := 1, token_out := 2, amount := 501, exact_in := false }

end Solvent
