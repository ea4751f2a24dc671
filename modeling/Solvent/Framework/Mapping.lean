import Mathlib

/-! # Mappings with a total

    A mapping holds a value at every key and starts from a default everywhere.
    Over finitely many keys the values have a `total`, and writing one key moves
    the total by what that key's share moved: `total_set` says so without
    subtraction, so it holds whether the share grew or shrank.
-/

namespace Mapping

variable {K V : Type} [DecidableEq K]

/-- The mapping with one key written. -/
def set (m : K → V) (k : K) (v : V) : K → V := fun j => if j = k then v else m j

@[simp] theorem set_self (m : K → V) (k : K) (v : V) : set m k v k = v := by
  simp [set]

theorem set_ne {m : K → V} {j k : K} (v : V) (h : j ≠ k) : set m k v j = m j := by
  simp [set, h]

theorem set_apply (m : K → V) (j k : K) (v : V) :
    set m k v j = if j = k then v else m j := rfl

section Total

variable [Fintype K]

/-- The shares of all keys together. -/
def total (share : V → ℕ) (m : K → V) : ℕ := ∑ k, share (m k)

omit [DecidableEq K] in
/-- No share exceeds the total. -/
theorem share_le_total (share : V → ℕ) (m : K → V) (k : K) : share (m k) ≤ total share m :=
  Finset.single_le_sum (f := fun j => share (m j)) (fun _ _ => Nat.zero_le _) (Finset.mem_univ k)

omit [DecidableEq K] in
theorem total_const {share : V → ℕ} {v : V} (h : share v = 0) :
    total share (fun _ : K => v) = 0 := by
  simp [total, h]

/-- **Write rule.** One key moves the total by its own share. -/
theorem total_set (share : V → ℕ) (m : K → V) (k : K) (v : V) :
    total share (set m k v) + share (m k) = total share m + share v := by
  have hsplit : ∀ m' : K → V,
      total share m' = share (m' k) + ∑ j ∈ Finset.univ.erase k, share (m' j) := by
    intro m'
    exact (Finset.add_sum_erase Finset.univ (fun j => share (m' j)) (Finset.mem_univ k)).symm
  -- Away from the key the two mappings agree.
  have hrest : ∑ j ∈ Finset.univ.erase k, share (set m k v j) =
      ∑ j ∈ Finset.univ.erase k, share (m j) := by
    refine Finset.sum_congr rfl fun j hj => ?_
    rw [set_ne v (Finset.ne_of_mem_erase hj)]
  rw [hsplit (set m k v), hsplit m, hrest, set_self]
  omega

/-- A write that keeps the key's share keeps the total. -/
theorem total_set_same {share : V → ℕ} {m : K → V} {k : K} {v : V} (h : share v = share (m k)) :
    total share (set m k v) = total share m := by
  have := total_set share m k v
  omega

end Total

end Mapping
