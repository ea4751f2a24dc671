import Mathlib

/-! # Ordered finite maps

    `BTreeMap K V` is the standard library's extensional tree map over a
    linear order: two maps with the same bindings are equal, and iteration is
    in key order. What this module adds is

    * the lookup laws with `k = k'` in place of a comparison result,
    * `get_or`, `entry` (read or update a binding that may be missing),
    * `total f m`, the sum of a natural-valued function over the bindings,
      and how it changes when one binding is added or replaced. An accounting
      invariant "the counter is the sum over the records" is proved with these.
-/

/-- A finite map iterated in the order of its keys. -/
abbrev BTreeMap (K V : Type) [LinearOrder K] : Type := Std.ExtTreeMap K V compare

/-- A finite set iterated in order. -/
abbrev BTreeSet (K : Type) [LinearOrder K] : Type := Std.ExtTreeSet K compare

namespace BTreeMap

variable {K V : Type} [LinearOrder K]

/-! ## Lookup -/

theorem get_insert (m : BTreeMap K V) (k a : K) (v : V) :
    (m.insert k v)[a]? = if k = a then some v else m[a]? := by
  rw [Std.ExtTreeMap.getElem?_insert]
  simp only [compare_eq_iff_eq]

theorem get_insert_ne (m : BTreeMap K V) {k a : K} (v : V) (h : k ≠ a) :
    (m.insert k v)[a]? = m[a]? := by
  simp [get_insert, h]

theorem get_erase (m : BTreeMap K V) (k a : K) :
    (m.erase k)[a]? = if k = a then none else m[a]? := by
  rw [Std.ExtTreeMap.getElem?_erase]
  simp only [compare_eq_iff_eq]

/-- The value at `k`, or `d` when `k` is not bound. -/
def get_or (m : BTreeMap K V) (k : K) (d : V) : V :=
  m[k]?.getD d

/-- Update the value at `k`, starting from `d` when `k` is not bound. -/
def entry (m : BTreeMap K V) (k : K) (d : V) (f : V → V) : BTreeMap K V :=
  m.insert k (f (get_or m k d))

@[simp] theorem get_or_empty (k : K) (d : V) : get_or (∅ : BTreeMap K V) k d = d := by
  simp [get_or]

theorem get_or_insert (m : BTreeMap K V) (k a : K) (v d : V) :
    get_or (m.insert k v) a d = if k = a then v else get_or m a d := by
  unfold get_or
  rw [get_insert]
  split <;> rfl

theorem get_or_entry (m : BTreeMap K V) (k a : K) (d : V) (f : V → V) :
    get_or (entry m k d f) a d = if k = a then f (get_or m a d) else get_or m a d := by
  unfold entry
  rw [get_or_insert]
  split
  · rename_i h
    rw [h]
  · rfl

/-- A pass of `entry` updates binds the keys it visits and no others. -/
theorem isSome_foldl_entry {A : Type} (key : A → K) (d : V) (f : A → V → V) (as : List A)
    (m : BTreeMap K V) (k : K) :
    ((as.foldl (fun m a => entry m (key a) d (f a)) m)[k]?).isSome ↔
      (m[k]?).isSome ∨ ∃ a ∈ as, key a = k := by
  induction as generalizing m with
  | nil => simp
  | cons a as ih =>
    rw [List.foldl_cons, ih, entry, get_insert]
    by_cases hk : key a = k
    · simp [hk]
    · simp [hk]

/-- Tabulating `f` over a list of keys. -/
theorem get_foldl_insert (keys : List K) (f : K → V) (m : BTreeMap K V) (a : K) :
    (keys.foldl (fun m k => m.insert k (f k)) m)[a]? =
      if a ∈ keys then some (f a) else m[a]? := by
  induction keys generalizing m with
  | nil => simp
  | cons k keys ih =>
    rw [List.foldl_cons, ih, get_insert]
    by_cases hk : k = a
    · subst hk
      simp
    · have hak : ¬ a = k := fun e => hk e.symm
      simp [hk, hak]

/-- The values in the order of their keys. -/
def values (m : BTreeMap K V) : List V :=
  m.toList.map Prod.snd

/-! ## Keys -/

/-- The keys depend only on which keys are bound. -/
theorem keys_congr {W : Type} {m : BTreeMap K V} {m' : BTreeMap K W}
    (h : ∀ k : K, (m[k]?).isSome ↔ (m'[k]?).isSome) : m.keys = m'.keys := by
  have hsorted : ∀ {W : Type} (m : BTreeMap K W), m.keys.Pairwise (· < ·) := by
    intro W m
    refine (Std.ExtTreeMap.ordered_keys (t := m)).imp ?_
    intro a b hab
    exact compare_lt_iff_lt.mp hab
  have hperm : m.keys.Perm m'.keys := by
    rw [List.perm_ext_iff_of_nodup ((hsorted m).imp ne_of_lt) ((hsorted m').imp ne_of_lt)]
    intro k
    rw [Std.ExtTreeMap.mem_keys, Std.ExtTreeMap.mem_keys, Std.ExtTreeMap.mem_iff_isSome_getElem?,
      Std.ExtTreeMap.mem_iff_isSome_getElem?]
    exact h k
  exact hperm.eq_of_pairwise (fun a b _ _ hab hba => absurd hba (lt_asymm hab)) (hsorted m)
    (hsorted m')

theorem keys_insert {m : BTreeMap K V} {k : K} {old : V} (h : m[k]? = some old) (v : V) :
    (m.insert k v).keys = m.keys := by
  apply keys_congr
  intro a
  rw [get_insert]
  split
  · rename_i hka
    rw [← hka, h]
    simp
  · exact Iff.rfl

/-! ## Sums over the bindings -/

/-- The sum of `f` over the bindings of `m`. -/
def total (f : K → V → ℕ) (m : BTreeMap K V) : ℕ :=
  (m.toList.map fun b => f b.1 b.2).sum

theorem nodup_toList (m : BTreeMap K V) : m.toList.Nodup := by
  have h := Std.ExtTreeMap.distinct_keys_toList (t := m)
  refine List.Pairwise.imp ?_ h
  intro a b hab heq
  exact hab (by simp [heq])

/-- Adding a new binding puts it among the old ones. -/
theorem toList_insert_perm (m : BTreeMap K V) {k : K} (v : V) (h : m[k]? = none) :
    (m.insert k v).toList.Perm ((k, v) :: m.toList) := by
  have hnot : (k, v) ∉ m.toList := by
    rw [Std.ExtTreeMap.mem_toList_iff_getElem?_eq_some, h]
    simp
  rw [List.perm_ext_iff_of_nodup (nodup_toList _)
    (List.nodup_cons.mpr ⟨hnot, nodup_toList m⟩)]
  intro b
  obtain ⟨a, w⟩ := b
  rw [Std.ExtTreeMap.mem_toList_iff_getElem?_eq_some, get_insert, List.mem_cons,
    Std.ExtTreeMap.mem_toList_iff_getElem?_eq_some]
  by_cases hka : k = a
  · subst hka
    simp only [if_true, Option.some.injEq, Prod.mk.injEq, true_and, h]
    constructor
    · intro hv
      exact Or.inl hv.symm
    · intro hv
      rcases hv with hv | hv
      · exact hv.symm
      · simp at hv
  · have hak : ¬ a = k := fun e => hka e.symm
    simp [hka, hak]

/-- Maps that agree on the bindings `p` keeps iterate over them alike. -/
theorem filter_toList_congr {m m' : BTreeMap K V} {p : K × V → Bool}
    (h : ∀ k v, p (k, v) = true → (m'[k]? = some v ↔ m[k]? = some v)) :
    m'.toList.filter p = m.toList.filter p := by
  have hsorted : ∀ m : BTreeMap K V,
      (m.toList.filter p).Pairwise fun a b => compare a.1 b.1 = .lt :=
    fun m => (Std.ExtTreeMap.ordered_keys_toList (t := m)).filter p
  refine List.Perm.eq_of_pairwise ?_ (hsorted m') (hsorted m) ?_
  · -- No two keys are each before the other.
    intro a b _ _ hab hba
    rw [compare_lt_iff_lt] at hab hba
    exact absurd hba (lt_asymm hab)
  · rw [List.perm_ext_iff_of_nodup ((nodup_toList m').filter p) ((nodup_toList m).filter p)]
    rintro ⟨k, v⟩
    simp only [List.mem_filter, Std.ExtTreeMap.mem_toList_iff_getElem?_eq_some]
    constructor
    · rintro ⟨hk, hp⟩
      exact ⟨(h k v hp).1 hk, hp⟩
    · rintro ⟨hk, hp⟩
      exact ⟨(h k v hp).2 hk, hp⟩

/-- The bindings of one key, read off the iteration order. -/
theorem filter_toList (m : BTreeMap K V) (a : K) :
    m.toList.filter (fun b => b.1 = a) = (m[a]?.map fun v => (a, v)).toList := by
  cases h : m[a]? with
  | none =>
    simp only [Option.map_none, Option.toList_none, List.filter_eq_nil_iff, decide_eq_true_eq]
    intro b hb hba
    obtain ⟨k, v⟩ := b
    rw [Std.ExtTreeMap.mem_toList_iff_getElem?_eq_some] at hb
    simp only at hba
    rw [hba, h] at hb
    simp at hb
  | some v =>
    show _ = [(a, v)]
    apply List.perm_singleton.mp
    rw [List.perm_ext_iff_of_nodup ((nodup_toList m).filter _) (List.nodup_singleton _)]
    intro b
    obtain ⟨k, w⟩ := b
    simp only [List.mem_filter, Std.ExtTreeMap.mem_toList_iff_getElem?_eq_some,
      decide_eq_true_eq, List.mem_singleton, Prod.mk.injEq]
    constructor
    · intro hb
      obtain ⟨hkw, hka⟩ := hb
      rw [hka, h] at hkw
      exact ⟨hka, (Option.some.inj hkw).symm⟩
    · intro hb
      obtain ⟨hka, hwv⟩ := hb
      rw [hka, hwv]
      exact ⟨h, rfl⟩

@[simp] theorem total_empty (f : K → V → ℕ) : total f (∅ : BTreeMap K V) = 0 := by
  have hnil : (∅ : BTreeMap K V).toList = [] := by
    rw [List.eq_nil_iff_forall_not_mem]
    intro b hmem
    obtain ⟨k, v⟩ := b
    rw [Std.ExtTreeMap.mem_toList_iff_getElem?_eq_some] at hmem
    simp at hmem
  simp [total, hnil]

theorem total_insert (f : K → V → ℕ) (m : BTreeMap K V) {k : K} (v : V)
    (h : m[k]? = none) : total f (m.insert k v) = f k v + total f m := by
  unfold total
  rw [((toList_insert_perm m v h).map _).sum_eq]
  simp

theorem total_congr {f g : K → V → ℕ} (m : BTreeMap K V)
    (h : ∀ k v, m[k]? = some v → f k v = g k v) : total f m = total g m := by
  unfold total
  congr 1
  apply List.map_congr_left
  intro b hmem
  obtain ⟨k, v⟩ := b
  exact h k v (Std.ExtTreeMap.mem_toList_iff_getElem?_eq_some.mp hmem)

theorem total_mono {f g : K → V → ℕ} (m : BTreeMap K V)
    (h : ∀ k v, m[k]? = some v → f k v ≤ g k v) : total f m ≤ total g m := by
  unfold total
  apply List.sum_le_sum
  intro b hmem
  obtain ⟨k, v⟩ := b
  exact h k v (Std.ExtTreeMap.mem_toList_iff_getElem?_eq_some.mp hmem)

/-- Taking one binding out of the sum. -/
theorem total_erase (f : K → V → ℕ) (m : BTreeMap K V) {k : K} {v : V}
    (h : m[k]? = some v) : total f m = f k v + total f (m.erase k) := by
  have hnone : (m.erase k)[k]? = none := by simp
  have hback : (m.erase k).insert k v = m := by
    apply Std.ExtTreeMap.ext_getElem?
    intro a
    rw [get_insert, get_erase]
    by_cases hka : k = a
    · subst hka
      simp [h]
    · simp [hka]
  conv_lhs => rw [← hback]
  exact total_insert f (m.erase k) v hnone

/-- Replacing one binding moves the sum by the difference of its two values. The
    summed function may change with the binding, at its key only. -/
theorem total_update {f g : K → V → ℕ} (m : BTreeMap K V) {k : K} {v : V} (w : V)
    (h : m[k]? = some v) (hfg : ∀ a u, a ≠ k → g a u = f a u) :
    total g (m.insert k w) + f k v = total f m + g k w := by
  have hrest : total g (m.erase k) = total f (m.erase k) := by
    apply total_congr
    intro a u hau
    apply hfg
    intro hak
    subst hak
    simp at hau
  have h₁ := total_erase f m h
  have h₂ := total_erase g (m.insert k w) (k := k) (v := w) (by simp)
  have hsame : (m.insert k w).erase k = m.erase k := by
    apply Std.ExtTreeMap.ext_getElem?
    intro a
    simp only [get_insert, get_erase]
    split <;> simp_all
  rw [hsame, hrest] at h₂
  omega

/-- Dropping bindings that count for nothing keeps the sum. -/
theorem total_filter {f : K → V → ℕ} {p : V → Bool} {m m' : BTreeMap K V}
    (h : ∀ k : K, m'[k]? = (m[k]?).filter p) (hzero : ∀ k v, p v = false → f k v = 0) :
    total f m' = total f m := by
  have hkept : m'.toList.filter (fun b => p b.2) = m'.toList := by
    rw [List.filter_eq_self]
    rintro ⟨k, v⟩ hb
    rw [Std.ExtTreeMap.mem_toList_iff_getElem?_eq_some, h, Option.filter_eq_some_iff] at hb
    exact hb.2
  have hsame : m'.toList = m.toList.filter fun b => p b.2 := by
    rw [← hkept]
    refine filter_toList_congr ?_
    intro k v hp
    rw [h, Option.filter_eq_some_iff]
    exact and_iff_left hp
  unfold total
  rw [hsame]
  generalize m.toList = bs
  induction bs with
  | nil => rfl
  | cons b bs ih =>
    rw [List.filter_cons]
    by_cases hb : p b.2 = true
    · simp [hb, ih]
    · simp [hb, ih, hzero b.1 b.2 (by simpa using hb)]

/-- One binding is part of the sum. -/
theorem le_total (f : K → V → ℕ) (m : BTreeMap K V) {k : K} {v : V}
    (h : m[k]? = some v) : f k v ≤ total f m := by
  have := total_erase f m h
  omega

end BTreeMap

/-! ## Sets -/

namespace BTreeSet

variable {K : Type} [LinearOrder K]

theorem mem_insert (s : BTreeSet K) {k a : K} : a ∈ s.insert k ↔ a = k ∨ a ∈ s := by
  rw [Std.ExtTreeSet.mem_insert, compare_eq_iff_eq, eq_comm]

theorem mem_erase (s : BTreeSet K) {k a : K} : a ∈ s.erase k ↔ a ≠ k ∧ a ∈ s := by
  rw [Std.ExtTreeSet.mem_erase, ne_eq, compare_eq_iff_eq, eq_comm]

theorem nodup_toList (s : BTreeSet K) : s.toList.Nodup := by
  refine List.Pairwise.imp ?_ (Std.ExtTreeSet.distinct_toList (t := s))
  intro a b hab heq
  exact hab (by simp [heq])

end BTreeSet
