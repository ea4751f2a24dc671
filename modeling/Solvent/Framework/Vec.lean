import Mathlib

/-! # Vectors

    The operations on growable vectors and iterators that the list library
    does not have under the same name: choosing an element by its key, removing
    one by swapping in the last, and reading or writing a slot.
-/

namespace Vec

variable {α κ : Type}

/-! ## Choosing by key -/

/-- The last element of greatest key, starting from `best`. -/
def max_from [LinearOrder κ] (key : α → κ) (best : α) : List α → α
  | [] => best
  | a :: as => max_from key (if key best ≤ key a then a else best) as

/-- `Iterator::max_by_key`: the last element of greatest key. -/
def max_by_key [LinearOrder κ] (key : α → κ) : List α → Option α
  | [] => none
  | a :: as => some (max_from key a as)

/-- The first element of least key, starting from `best`. -/
def min_from [LinearOrder κ] (key : α → κ) (best : α) : List α → α
  | [] => best
  | a :: as => min_from key (if key a < key best then a else best) as

/-- `Iterator::min_by_key`: the first element of least key. -/
def min_by_key [LinearOrder κ] (key : α → κ) : List α → Option α
  | [] => none
  | a :: as => some (min_from key a as)

theorem max_from_mem [LinearOrder κ] (key : α → κ) (best : α) (as : List α) :
    max_from key best as ∈ best :: as := by
  induction as generalizing best with
  | nil => simp [max_from]
  | cons a as ih =>
    simp only [max_from]
    by_cases hkey : key best ≤ key a
    · rw [if_pos hkey]
      exact List.mem_cons_of_mem best (ih a)
    · rw [if_neg hkey]
      exact (List.cons_subset_cons best (List.subset_cons_self a as)) (ih best)

theorem max_by_key_mem [LinearOrder κ] {key : α → κ} {as : List α} {a : α}
    (h : max_by_key key as = some a) : a ∈ as := by
  cases as with
  | nil => simp [max_by_key] at h
  | cons b as =>
    simp only [max_by_key, Option.some.injEq] at h
    subst h
    exact max_from_mem key b as

/-! ## Removing -/

/-- `Vec::swap_remove`: the last element takes the place of the removed one. -/
def swap_remove (as : List α) (pos : ℕ) : List α :=
  match as.getLast? with
  | none => []
  | some last => (as.set pos last).dropLast

theorem set_subperm (as : List α) (pos : ℕ) (a : α) (h : pos < as.length) :
    (as.set pos a).Subperm (a :: as) := by
  rw [List.set_eq_take_append_cons_drop, if_pos h]
  -- The written slot comes first; the rest is `as` without that slot.
  refine (List.perm_middle.subperm).trans ?_
  rw [List.subperm_cons]
  refine List.Sublist.subperm ?_
  conv_rhs => rw [← List.take_append_drop pos as]
  refine List.Sublist.append_left ?_ _
  rw [← List.drop_drop]
  exact List.drop_sublist 1 _

/-- Removing a slot leaves the other elements, in some order. -/
theorem swap_remove_subperm (as : List α) (pos : ℕ) (h : pos < as.length) :
    (swap_remove as pos).Subperm as := by
  cases as using List.reverseRecOn with
  | nil => simp at h
  | append_singleton as last =>
    simp only [swap_remove, List.getLast?_append, List.getLast?_singleton, Option.some_or]
    by_cases hpos : pos < as.length
    · rw [List.set_append_left _ _ hpos, List.dropLast_concat]
      exact (set_subperm as pos last hpos).trans (List.perm_append_singleton last as).symm.subperm
    · have hlast : pos = as.length := by
        simp only [List.length_append, List.length_singleton] at h
        omega
      subst hlast
      simpa using (List.sublist_append_left as [last]).subperm

theorem length_swap_remove (as : List α) (pos : ℕ) :
    (swap_remove as pos).length = as.length - 1 := by
  unfold swap_remove
  cases as using List.reverseRecOn with
  | nil => rfl
  | append_singleton as a => simp

/-! ## Writing slots -/

theorem getD_foldl_set (slots : List ℕ) (f : ℕ → α) (d : α) (v : List α) (j : ℕ) :
    (slots.foldl (fun v i => v.set i (f i)) v).getD j d =
      if j ∈ slots ∧ j < v.length then f j else v.getD j d := by
  induction slots generalizing v with
  | nil => simp
  | cons i slots ih =>
    rw [List.foldl_cons, ih, List.length_set]
    by_cases hj : j < v.length
    · by_cases hmem : j ∈ slots
      · simp [hj, hmem]
      · by_cases hij : i = j
        · subst hij
          simp [hj, hmem]
        · simp [hj, hmem, hij, Ne.symm hij, List.getD_eq_getElem?_getD]
    · simp [hj, List.getD_eq_getElem?_getD]

theorem length_foldl_set (slots : List ℕ) (f : ℕ → α) (v : List α) :
    (slots.foldl (fun v i => v.set i (f i)) v).length = v.length := by
  induction slots generalizing v with
  | nil => rfl
  | cons i slots ih => rw [List.foldl_cons, ih, List.length_set]

/-- A pass in which each element writes its own slots: a slot holds what an element
    that wrote it wrote there, or was never written. -/
theorem getD_foldl_writes {β : Type} (slots : β → List ℕ) (value : β → ℕ → α) (d : α) (es : List β)
    (v : List α) {j : ℕ} (hj : j < v.length) :
    (∃ e ∈ es, j ∈ slots e ∧
      (es.foldl (fun v e => (slots e).foldl (fun v i => v.set i (value e i)) v) v).getD j d =
        value e j) ∨
    ((∀ e ∈ es, j ∉ slots e) ∧
      (es.foldl (fun v e => (slots e).foldl (fun v i => v.set i (value e i)) v) v).getD j d =
        v.getD j d) := by
  induction es generalizing v with
  | nil => exact .inr ⟨by simp, rfl⟩
  | cons e es ih =>
    rw [List.foldl_cons]
    have hj' : j < ((slots e).foldl (fun v i => v.set i (value e i)) v).length := by
      rw [length_foldl_set]
      exact hj
    rcases ih _ hj' with ⟨e', he', hslot, hvalue⟩ | ⟨hnone, hvalue⟩
    · exact .inl ⟨e', List.mem_cons_of_mem e he', hslot, hvalue⟩
    · rw [getD_foldl_set] at hvalue
      by_cases hslot : j ∈ slots e
      · rw [if_pos ⟨hslot, hj⟩] at hvalue
        exact .inl ⟨e, by simp, hslot, hvalue⟩
      · rw [if_neg fun h => hslot h.1] at hvalue
        refine .inr ⟨?_, hvalue⟩
        intro e' he'
        rcases List.mem_cons.1 he' with rfl | he'
        · exact hslot
        · exact hnone e' he'

end Vec
