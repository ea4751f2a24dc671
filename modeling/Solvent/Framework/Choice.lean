import Mathlib
import Solvent.Framework.Vec

/-! # Choices that do not depend on the order

    Two lists that hold the same elements, one named through `f` in the other,
    agree on everything a key decides: the element of greatest or least key, and
    the sorted list. The only thing asked of the keys is that no two elements
    share one.
-/

namespace Choice

open Vec

variable {α β κ : Type} [LinearOrder κ]

/-! ## Extrema -/

theorem le_max_from (key : α → κ) (best : α) (as : List α) :
    ∀ b ∈ best :: as, key b ≤ key (max_from key best as) := by
  induction as generalizing best with
  | nil => simp [max_from]
  | cons a as ih =>
    intro b hb
    simp only [max_from]
    by_cases hkey : key best ≤ key a
    · rw [if_pos hkey]
      rcases List.mem_cons.mp hb with rfl | hb
      · exact hkey.trans (ih a a (by simp))
      · exact ih a b hb
    · rw [if_neg hkey]
      rcases List.mem_cons.mp hb with rfl | hb
      · exact ih b b (by simp)
      · rcases List.mem_cons.mp hb with rfl | hb
        · exact (not_le.mp hkey).le.trans (ih best best (by simp))
        · exact ih best b (by simp [hb])

theorem min_from_mem (key : α → κ) (best : α) (as : List α) :
    min_from key best as ∈ best :: as := by
  induction as generalizing best with
  | nil => simp [min_from]
  | cons a as ih =>
    simp only [min_from]
    by_cases hkey : key a < key best
    · rw [if_pos hkey]
      exact List.mem_cons_of_mem best (ih a)
    · rw [if_neg hkey]
      exact (List.cons_subset_cons best (List.subset_cons_self a as)) (ih best)

theorem min_from_le (key : α → κ) (best : α) (as : List α) :
    ∀ b ∈ best :: as, key (min_from key best as) ≤ key b := by
  induction as generalizing best with
  | nil => simp [min_from]
  | cons a as ih =>
    intro b hb
    simp only [min_from]
    by_cases hkey : key a < key best
    · rw [if_pos hkey]
      rcases List.mem_cons.mp hb with rfl | hb
      · exact (ih a a (by simp)).trans hkey.le
      · exact ih a b hb
    · rw [if_neg hkey]
      rcases List.mem_cons.mp hb with rfl | hb
      · exact ih b b (by simp)
      · rcases List.mem_cons.mp hb with rfl | hb
        · exact (ih best best (by simp)).trans (not_lt.mp hkey)
        · exact ih best b (by simp [hb])

/-- What a choice by key returns: an element of the list, of extreme key. -/
theorem max_by_key_spec {key : α → κ} {as : List α} {a : α} (h : max_by_key key as = some a) :
    a ∈ as ∧ ∀ b ∈ as, key b ≤ key a := by
  match as, h with
  | first :: rest, h =>
    obtain rfl := Option.some.inj h
    exact ⟨max_from_mem key first rest, le_max_from key first rest⟩

theorem min_by_key_spec {key : α → κ} {as : List α} {a : α} (h : min_by_key key as = some a) :
    a ∈ as ∧ ∀ b ∈ as, key a ≤ key b := by
  match as, h with
  | first :: rest, h =>
    obtain rfl := Option.some.inj h
    exact ⟨min_from_mem key first rest, min_from_le key first rest⟩

theorem max_by_key_eq_none {key : α → κ} {as : List α} : max_by_key key as = none ↔ as = [] := by
  cases as <;> simp [max_by_key]

theorem min_by_key_eq_none {key : α → κ} {as : List α} : min_by_key key as = none ↔ as = [] := by
  cases as <;> simp [min_by_key]

section Renamed

variable {as : List α} {bs : List β} {f : β → α} {key : α → κ} {key' : β → κ}
variable (hperm : (bs.map f).Perm as) (hkey : ∀ b ∈ bs, key (f b) = key' b)
variable (hinj : ∀ a ∈ as, ∀ a' ∈ as, key a = key a' → a = a')

include hperm hkey hinj

/-- **The greatest element** is the same one. -/
theorem max_by_key_renamed : max_by_key key as = (max_by_key key' bs).map f := by
  match hb : max_by_key key' bs with
  | none =>
    rw [max_by_key_eq_none] at hb
    subst hb
    rw [Option.map_none, max_by_key_eq_none]
    exact (List.nil_perm.mp hperm)
  | some b =>
    obtain ⟨hmem, hmax⟩ := max_by_key_spec hb
    match ha : max_by_key key as with
    | none =>
      rw [max_by_key_eq_none] at ha
      subst ha
      rw [List.map_eq_nil_iff.mp (List.perm_nil.mp hperm)] at hmem
      cases hmem
    | some a =>
      obtain ⟨hmem', hmax'⟩ := max_by_key_spec ha
      have hfb : f b ∈ as := hperm.subset (List.mem_map_of_mem hmem)
      obtain ⟨b', hb', rfl⟩ := List.mem_map.mp (hperm.symm.subset hmem')
      have hle : key (f b') ≤ key (f b) := by
        rw [hkey b' hb', hkey b hmem]
        exact hmax b' hb'
      rw [Option.map_some, hinj _ hmem' _ hfb (le_antisymm hle (hmax' _ hfb))]

/-- **The least element** is the same one. -/
theorem min_by_key_renamed : min_by_key key as = (min_by_key key' bs).map f := by
  match hb : min_by_key key' bs with
  | none =>
    rw [min_by_key_eq_none] at hb
    subst hb
    rw [Option.map_none, min_by_key_eq_none]
    exact (List.nil_perm.mp hperm)
  | some b =>
    obtain ⟨hmem, hmin⟩ := min_by_key_spec hb
    match ha : min_by_key key as with
    | none =>
      rw [min_by_key_eq_none] at ha
      subst ha
      rw [List.map_eq_nil_iff.mp (List.perm_nil.mp hperm)] at hmem
      cases hmem
    | some a =>
      obtain ⟨hmem', hmin'⟩ := min_by_key_spec ha
      have hfb : f b ∈ as := hperm.subset (List.mem_map_of_mem hmem)
      obtain ⟨b', hb', rfl⟩ := List.mem_map.mp (hperm.symm.subset hmem')
      have hle : key (f b) ≤ key (f b') := by
        rw [hkey b' hb', hkey b hmem]
        exact hmin b' hb'
      rw [Option.map_some, hinj _ hmem' _ hfb (le_antisymm (hmin' _ hfb) hle)]

end Renamed

/-! ## Sorting -/

/-- **The sorted list** is the same one: `r` ranks any two elements of the list
    one way or the other and never both. -/
theorem insertionSort_renamed {as : List α} {bs : List β} {f : β → α} {r : α → α → Prop}
    {r' : β → β → Prop} [DecidableRel r] [DecidableRel r'] [Std.Total r] [IsTrans α r]
    (hperm : (bs.map f).Perm as) (hrank : ∀ b ∈ bs, ∀ b' ∈ bs, r (f b) (f b') ↔ r' b b')
    (hanti : ∀ a ∈ as, ∀ a' ∈ as, r a a' → r a' a → a = a') [Std.Total r'] [IsTrans β r'] :
    as.insertionSort r = (bs.insertionSort r').map f := by
  refine List.Perm.eq_of_pairwise ?_ (List.pairwise_insertionSort r as) ?_ ?_
  · intro a a' ha ha' hle hle'
    refine hanti a ((List.mem_insertionSort r).mp ha) a' ?_ hle hle'
    obtain ⟨b, hb, rfl⟩ := List.mem_map.mp ha'
    exact hperm.subset (List.mem_map_of_mem ((List.mem_insertionSort r').mp hb))
  · rw [List.pairwise_map]
    refine List.Pairwise.imp_of_mem ?_ (List.pairwise_insertionSort r' bs)
    intro b b' hb hb' hle
    exact (hrank b ((List.mem_insertionSort r').mp hb) b'
      ((List.mem_insertionSort r').mp hb')).mpr hle
  · exact ((List.perm_insertionSort r as).trans hperm.symm).trans
      ((List.perm_insertionSort r' bs).map f).symm

/-! ## Removing -/

/-- Removing a slot and putting the element back gives the list. -/
theorem swap_remove_perm {as : List α} {pos : ℕ} {a : α} (h : as[pos]? = some a) :
    (a :: swap_remove as pos).Perm as := by
  cases as using List.reverseRecOn with
  | nil => simp at h
  | append_singleton as last =>
    simp only [swap_remove, List.getLast?_append, List.getLast?_singleton, Option.some_or]
    by_cases hpos : pos < as.length
    · rw [List.set_append_left _ _ hpos, List.dropLast_concat]
      rw [List.getElem?_append_left hpos, List.getElem?_eq_getElem hpos] at h
      obtain rfl := Option.some.inj h
      -- `last` takes the slot, so what is left is `last` and the rest.
      have hset : (as.set pos last).Perm (last :: as.eraseIdx pos) :=
        List.set_perm_cons_eraseIdx hpos last
      have hback : (as[pos] :: as.eraseIdx pos).Perm as := List.getElem_cons_eraseIdx_perm hpos
      refine (hset.cons _).trans ((List.Perm.swap _ _ _).trans ?_)
      exact (hback.cons last).trans (List.perm_append_singleton last as).symm
    · rw [List.getElem?_append_right (by omega)] at h
      obtain ⟨hzero, rfl⟩ := List.getElem?_eq_some_iff.mp h
      have hlast : pos = as.length := by
        simp only [List.length_singleton] at hzero
        omega
      subst hlast
      simpa using (List.perm_append_singleton last as).symm

end Choice
