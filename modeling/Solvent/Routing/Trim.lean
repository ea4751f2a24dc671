import Solvent.Routing.ExactOut

/-! # Trimming is exact

    The loop goes through the amounts in ascending order and keeps what still
    fits. So it cuts once: what comes before the cut is kept whole, the amount at
    the cut is reduced, and nothing is left of what comes after it.
-/

namespace Solvent

/-! ## The loop with its subtraction -/

/-- `retain` with the subtraction it takes from `remaining`; `none` where it would
    underflow. -/
def try_retain : List ℕ → List U256 → U256 → Option (List U256)
  | [], amounts, _ => some amounts
  | i :: order, amounts, remaining => do
    let kept := min (at_leg amounts i) remaining
    let left ← remaining.checked_sub kept
    try_retain order (amounts.set i kept) left

def try_trim_to_total (candidates : List Candidate) (amounts : List U256) (target : U256)
    (indices : List ℕ) : Option (List U256) :=
  let order := (indices.filter fun i => at_leg amounts i ≠ 0).insertionSort
    (trim_order candidates amounts)
  try_retain order.reverse amounts target

/-- What is kept never exceeds what remains. -/
theorem try_retain_eq (order : List ℕ) (amounts : List U256) (remaining : U256) :
    try_retain order amounts remaining = some (retain order amounts remaining) := by
  induction order generalizing amounts remaining with
  | nil => rfl
  | cons i order ih =>
    have hfits : remaining.checked_sub (min (at_leg amounts i) remaining) =
        some (remaining.saturating_sub (min (at_leg amounts i) remaining)) :=
      if_pos (min_le_right _ _)
    rw [try_retain, hfits]
    exact ih _ _

/-! ## The cut -/

/-- Nothing is kept once nothing remains. -/
theorem retain_zero {order : List ℕ} (hnodup : order.Nodup) {amounts : List U256}
    (hrange : ∀ i ∈ order, i < amounts.length) {i : ℕ} (hi : i ∈ order) :
    at_leg (retain order amounts 0) i = 0 := by
  obtain ⟨-, -, -, hsum⟩ := retain_spec hnodup amounts 0 hrange
  rw [Fin.val_zero, Nat.min_zero] at hsum
  have hmem : (at_leg (retain order amounts 0) i).val ∈
      order.map fun i => (at_leg (retain order amounts 0) i).val := List.mem_map_of_mem hi
  have hle := List.le_sum_of_mem hmem
  exact Fin.ext (by rw [Fin.val_zero]; exact Nat.le_zero.mp (hle.trans hsum.le))

/-- The amounts of an order, kept whole or cut at one index. -/
inductive Cut (order : List ℕ) (before after : ℕ → U256) : Prop where
  | whole (h : ∀ i ∈ order, after i = before i)
  | cut_at (kept : List ℕ) (cut : ℕ) (dropped : List ℕ) (order_eq : order = kept ++ cut :: dropped)
      (whole : ∀ i ∈ kept, after i = before i) (reduced : after cut < before cut)
      (zero : ∀ i ∈ dropped, after i = 0)

/-- **The cut.** The loop keeps amounts whole up to the first that does not fit. -/
theorem retain_cut {order : List ℕ} (hnodup : order.Nodup) {amounts : List U256}
    {remaining : U256} (hrange : ∀ i ∈ order, i < amounts.length) :
    Cut order (at_leg amounts) (at_leg (retain order amounts remaining)) := by
  induction order generalizing amounts remaining with
  | nil => exact .whole (by simp)
  | cons i order ih =>
    obtain ⟨hi, hnodup'⟩ := List.nodup_cons.mp hnodup
    have hilen : i < amounts.length := hrange i (by simp)
    have hslot : ∀ kept j, at_leg (amounts.set i kept) j = if i = j then kept else at_leg amounts j := by
      intro kept j
      rw [at_leg_set]
      simp [hilen]
    have hother : ∀ kept, ∀ j ∈ order, at_leg (amounts.set i kept) j = at_leg amounts j := by
      intro kept j hj
      have hne : i ≠ j := fun hij => hi (hij ▸ hj)
      rw [hslot, if_neg hne]
    have hrange' : ∀ kept, ∀ j ∈ order, j < (amounts.set i kept).length := by
      intro kept j hj
      rw [List.length_set]
      exact hrange j (List.mem_cons_of_mem i hj)
    -- The head is written once.
    have hhead : ∀ kept left, at_leg (retain order (amounts.set i kept) left) i = kept := by
      intro kept left
      obtain ⟨-, -, hout, -⟩ := retain_spec hnodup' (amounts.set i kept) left (hrange' kept)
      rw [hout i hi, hslot, if_pos rfl]
    by_cases hfits : at_leg amounts i ≤ remaining
    · have hretain : retain (i :: order) amounts remaining = retain order
          (amounts.set i (at_leg amounts i)) (remaining.saturating_sub (at_leg amounts i)) := by
        rw [retain, min_eq_left hfits]
      rw [hretain]
      set left := remaining.saturating_sub (at_leg amounts i)
      have hkept := hhead (at_leg amounts i) left
      have hrest : Cut order (at_leg (amounts.set i (at_leg amounts i)))
          (at_leg (retain order (amounts.set i (at_leg amounts i)) left)) :=
        ih hnodup' (hrange' (at_leg amounts i))
      match hrest with
      | .whole h =>
        refine .whole ?_
        intro j hj
        rcases List.mem_cons.mp hj with rfl | hj
        · exact hkept
        · exact (h j hj).trans (hother _ j hj)
      | .cut_at kept cut dropped heq hwhole hreduced hzero =>
        have hsub : ∀ j ∈ kept, j ∈ order := fun j hj => heq ▸ List.mem_append_left _ hj
        have hcut : cut ∈ order := heq ▸ List.mem_append_right _ (List.mem_cons_self ..)
        refine .cut_at (i :: kept) cut dropped (by rw [heq]; rfl) ?_ ?_ hzero
        · intro j hj
          rcases List.mem_cons.mp hj with rfl | hj
          · exact hkept
          · exact (hwhole j hj).trans (hother _ j (hsub j hj))
        · rw [← hother (at_leg amounts i) cut hcut]
          exact hreduced
    · have hover : remaining < at_leg amounts i := not_le.mp hfits
      have hretain : retain (i :: order) amounts remaining =
          retain order (amounts.set i remaining) 0 := by
        rw [retain, min_eq_right hover.le,
          show remaining.saturating_sub remaining = 0 from Fin.ext (Nat.sub_self _)]
      rw [hretain]
      refine .cut_at [] i order rfl (by simp) ?_ ?_
      · rw [hhead]
        exact hover
      · intro j hj
        exact retain_zero hnodup' (hrange' remaining) hj

/-! ## The order of the cut -/

/-- What the trim sorts by: the amount downwards, then the hash. -/
def trim_key (cs : List Candidate) (amounts : List U256) (i : ℕ) : U256ᵒᵈ ×ₗ ℕ :=
  toLex (OrderDual.toDual (at_leg amounts i),
    (cs[i]?.map (·.key.strategy_hash.hash.val)).getD 0)

theorem trim_order_iff (cs : List Candidate) (amounts : List U256) (a b : ℕ) :
    trim_order cs amounts a b ↔ trim_key cs amounts a ≤ trim_key cs amounts b := by
  rw [trim_order, trim_key, trim_key, Prod.Lex.toLex_le_toLex]
  rfl

instance (cs : List Candidate) (amounts : List U256) : Std.Total (trim_order cs amounts) where
  total a b := by
    rw [trim_order_iff, trim_order_iff]
    exact le_total _ _

instance (cs : List Candidate) (amounts : List U256) : IsTrans ℕ (trim_order cs amounts) where
  trans a b c := by
    rw [trim_order_iff, trim_order_iff, trim_order_iff]
    exact le_trans

/-- The loop meets the amounts in ascending order. -/
theorem trim_ascending (candidates : List Candidate) (amounts : List U256) (indices : List ℕ) :
    ((indices.insertionSort (trim_order candidates amounts)).reverse).Pairwise
      fun i j => at_leg amounts i ≤ at_leg amounts j := by
  rw [List.pairwise_reverse]
  refine (List.pairwise_insertionSort (trim_order candidates amounts) indices).imp ?_
  intro i j hij
  rcases hij with hlt | ⟨heq, -⟩
  · exact hlt.le
  · exact heq.ge

/-- **Trimming is exact.** Nothing underflows, the kept amounts sum to what fits of
    the target, only amounts at the indices shrink, one of them to something other
    than zero, and the larger ones before the smaller. -/
theorem trim_exact (candidates : List Candidate) {amounts : List U256} (target : U256)
    {indices : List ℕ} (hindices : indices.Nodup) (hrange : ∀ i ∈ indices, i < amounts.length) :
    let trimmed := trim_to_total candidates amounts target indices
    try_trim_to_total candidates amounts target indices = some trimmed ∧
    trimmed.length = amounts.length ∧
    total_at trimmed indices = min (total_at amounts indices) target.val ∧
    (∀ j, at_leg trimmed j ≤ at_leg amounts j) ∧
    (∀ j, j ∉ indices → at_leg trimmed j = at_leg amounts j) ∧
    (∀ i ∈ indices, ∀ j ∈ indices, at_leg trimmed i < at_leg amounts i → at_leg trimmed i ≠ 0 →
      at_leg trimmed j < at_leg amounts j → at_leg trimmed j ≠ 0 → i = j) ∧
    (∀ i ∈ indices, at_leg trimmed i < at_leg amounts i →
      ∀ j ∈ indices, at_leg amounts i < at_leg amounts j → at_leg trimmed j = 0) := by
  intro trimmed
  obtain ⟨hlength, hle, hout, hsum⟩ := trim_at_spec candidates target hindices hrange
  set kept := indices.filter fun i => decide (at_leg amounts i ≠ 0) with hkept
  set order := (kept.insertionSort (trim_order candidates amounts)).reverse with horder
  have hperm : order.Perm kept :=
    (List.reverse_perm _).trans (List.perm_insertionSort _ kept)
  have hnodup : order.Nodup := hperm.nodup_iff.mpr (hindices.filter _)
  have hmem : ∀ {i}, i ∈ indices → at_leg amounts i ≠ 0 → i ∈ order := fun hi hne =>
    hperm.mem_iff.mpr (List.mem_filter.mpr ⟨hi, by simpa using hne⟩)
  have hrange' : ∀ i ∈ order, i < amounts.length := fun i hi =>
    hrange i (List.mem_of_mem_filter (hperm.mem_iff.mp hi))
  have hascending : order.Pairwise fun i j => at_leg amounts i ≤ at_leg amounts j :=
    trim_ascending candidates amounts kept
  have hne : ∀ {i}, at_leg trimmed i < at_leg amounts i → at_leg amounts i ≠ 0 := fun hlt hzero =>
    not_lt_of_ge (Fin.zero_le _) (hzero ▸ hlt)
  refine ⟨try_retain_eq _ _ _, hlength, hsum, hle, hout, ?_⟩
  match (retain_cut hnodup hrange' : Cut order (at_leg amounts) (at_leg trimmed)) with
  | .whole h =>
    have hwhole : ∀ {i}, i ∈ indices → ¬at_leg trimmed i < at_leg amounts i := fun hi hlt =>
      hlt.ne (h _ (hmem hi (hne hlt)))
    exact ⟨fun i hi _ _ hlt => absurd hlt (hwhole hi), fun i hi hlt => absurd hlt (hwhole hi)⟩
  | .cut_at pre cut post heq hwhole hreduced hzero =>
    rw [heq] at hascending
    obtain ⟨-, hcut, hbefore⟩ := List.pairwise_append.mp hascending
    obtain ⟨hafter, -⟩ := List.pairwise_cons.mp hcut
    -- A reduced amount stands at the cut or after it.
    have hplace : ∀ {i}, i ∈ indices → at_leg trimmed i < at_leg amounts i → i = cut ∨ i ∈ post := by
      intro i hi hlt
      have hi' := hmem hi (hne hlt)
      rw [heq, List.mem_append, List.mem_cons] at hi'
      exact hi'.resolve_left fun hpre => hlt.ne (hwhole i hpre)
    refine ⟨?_, ?_⟩
    · intro i hi j hj hlt hnz hlt' hnz'
      have hi' : i = cut := (hplace hi hlt).resolve_right fun hpost => hnz (hzero i hpost)
      have hj' : j = cut := (hplace hj hlt').resolve_right fun hpost => hnz' (hzero j hpost)
      rw [hi', hj']
    · intro i hi hlt j hj hlarger
      have hj' := hmem hj (fun h0 => not_lt_of_ge (Fin.zero_le _) (h0 ▸ hlarger))
      rw [heq, List.mem_append, List.mem_cons] at hj'
      -- What stands before the cut, and the cut itself, is no larger.
      have hcut_le : at_leg amounts cut ≤ at_leg amounts i := by
        rcases hplace hi hlt with rfl | hpost
        · exact le_rfl
        · exact hafter i hpost
      rcases hj' with hpre | rfl | hpost
      · exact absurd hlarger (not_lt_of_ge ((hbefore j hpre cut (List.mem_cons_self ..)).trans hcut_le))
      · exact absurd hlarger (not_lt_of_ge hcut_le)
      · exact hzero j hpost

/-- Of 5, 2^256 − 1 and 7, trimmed to 9, the smallest is kept and the next cut. -/
theorem trim_exact_sample :
    trim_to_total [] [5, U256.MAX, 7] 9 [0, 1, 2] = [5, 0, 4] ∧
      total_at [5, 0, 4] [0, 1, 2] = 9 := by
  have htrimmed : trim_to_total [] [5, U256.MAX, 7] 9 [0, 1, 2] = [5, 0, 4] := by decide +kernel
  obtain ⟨-, -, hsum, -⟩ := trim_exact [] (9 : U256) (by decide : [0, 1, 2].Nodup)
    (by decide : ∀ i ∈ [0, 1, 2], i < [5, U256.MAX, 7].length)
  rw [htrimmed] at hsum
  exact ⟨htrimmed, hsum.trans (by decide +kernel)⟩

end Solvent
