import Mathlib
import Solvent.Framework.Word

/-! # Sums by key

    A list of keyed amounts added up into one sum for each key, by a linear search
    for the key. Every sum is checked. `Tallies` says what such sums are: one for
    each key that occurs, and the exact total of its amounts.
-/

namespace Tally

variable {K : Type} [DecidableEq K]

/-- Add to the sum of a key, or start one. -/
def add : List (K × U256) → K → U256 → Option (List (K × U256))
  | [], key, amount => some [(key, amount)]
  | (k, sum) :: sums, key, amount =>
    if k = key then (sum.checked_add amount).map fun sum => (k, sum) :: sums
    else (add sums key amount).map ((k, sum) :: ·)

/-- The amounts of a key. -/
def total (key : K) (entries : List (K × U256)) : ℕ :=
  (entries.map fun e => if e.1 = key then e.2.val else 0).sum

@[simp] theorem total_nil (key : K) : total key [] = 0 := rfl

@[simp] theorem total_append (key : K) (entries entries' : List (K × U256)) :
    total key (entries ++ entries') = total key entries + total key entries' := by
  simp [total]

theorem total_singleton (key : K) (e : K × U256) :
    total key [e] = if e.1 = key then e.2.val else 0 := by
  simp [total]

theorem total_eq_zero {key : K} {entries : List (K × U256)} (h : key ∉ entries.map Prod.fst) :
    total key entries = 0 := by
  unfold total
  refine List.sum_eq_zero fun n hn => ?_
  obtain ⟨e, he, rfl⟩ := List.mem_map.mp hn
  refine if_neg ?_
  rintro rfl
  exact h (List.mem_map_of_mem he)

/-- One exact sum for each key that occurs. -/
structure Tallies (entries sums : List (K × U256)) : Prop where
  nodup : (sums.map Prod.fst).Nodup
  exact : ∀ p ∈ sums, p.2.val = total p.1 entries
  keys : ∀ key, key ∈ sums.map Prod.fst ↔ key ∈ entries.map Prod.fst

theorem tallies_nil : Tallies ([] : List (K × U256)) [] :=
  ⟨List.nodup_nil, nofun, fun _ => Iff.rfl⟩

/-- Adding starts a sum at the end, or grows the one there is. -/
theorem add_cases {sums sums' : List (K × U256)} {key : K} {amount : U256}
    (h : add sums key amount = some sums') :
    (key ∉ sums.map Prod.fst ∧ sums' = sums ++ [(key, amount)]) ∨
      ∃ before sum after sum', sums = before ++ (key, sum) :: after ∧
        key ∉ before.map Prod.fst ∧ sum.val + amount.val = sum'.val ∧
        sums' = before ++ (key, sum') :: after := by
  induction sums generalizing sums' with
  | nil =>
    obtain rfl := Option.some.inj h
    exact .inl ⟨List.not_mem_nil, rfl⟩
  | cons p sums ih =>
    obtain ⟨k, sum⟩ := p
    rw [add] at h
    split at h
    · rename_i hkey
      subst hkey
      obtain ⟨sum', hsum, rfl⟩ := Option.map_eq_some_iff.mp h
      exact .inr ⟨[], sum, sums, sum', rfl, List.not_mem_nil, U256.checked_add_eq_some.mp hsum, rfl⟩
    · rename_i hkey
      have hne : key ≠ k := fun heq => hkey heq.symm
      obtain ⟨rest, hrest, rfl⟩ := Option.map_eq_some_iff.mp h
      rcases ih hrest with ⟨hnew, rfl⟩ | ⟨before, old, after, sum', rfl, hnew, hsum, rfl⟩
      · exact .inl ⟨by simp [hne, hnew], rfl⟩
      · exact .inr ⟨(k, sum) :: before, old, after, sum', rfl, by simp [hne, hnew], hsum, rfl⟩

/-- **Step lemma.** -/
theorem Tallies.add {entries sums sums' : List (K × U256)} {key : K} {amount : U256}
    (h : Tallies entries sums) (hadd : Tally.add sums key amount = some sums') :
    Tallies (entries ++ [(key, amount)]) sums' := by
  have hentries : ∀ k, k ∈ (entries ++ [(key, amount)]).map Prod.fst ↔
      k ∈ entries.map Prod.fst ∨ k = key := by
    intro k
    simp
  rcases add_cases hadd with ⟨hnew, rfl⟩ | ⟨before, sum, after, sum', rfl, hbefore, hsum, rfl⟩
  · refine ⟨?_, ?_, ?_⟩
    · rw [List.map_append]
      exact List.nodup_append.mpr ⟨h.nodup, List.nodup_singleton _, by
        intro a ha b hb
        obtain rfl : b = key := by simpa using hb
        rintro rfl
        exact hnew ha⟩
    · intro p hp
      rw [total_append, total_singleton]
      rcases List.mem_append.mp hp with hold | hnewest
      · have hne : key ≠ p.1 := by
          rintro rfl
          exact hnew (List.mem_map_of_mem hold)
        rw [h.exact p hold, if_neg hne]
        rfl
      · obtain rfl : p = (key, amount) := by simpa using hnewest
        have hnone : key ∉ entries.map Prod.fst := fun hmem => hnew ((h.keys key).mpr hmem)
        rw [total_eq_zero hnone, if_pos rfl, Nat.zero_add]
    · intro k
      rw [hentries, ← h.keys]
      simp
  · have hkeys : (before ++ (key, sum') :: after).map Prod.fst =
        (before ++ (key, sum) :: after).map Prod.fst := by simp
    refine ⟨hkeys ▸ h.nodup, ?_, ?_⟩
    · -- The other keys keep their sums, and are not the key.
      have hnodup := h.nodup
      rw [List.map_append, List.map_cons, List.nodup_append, List.nodup_cons] at hnodup
      have hother : ∀ p ∈ before ++ after, p.1 ≠ key := by
        intro p hp heq
        rcases List.mem_append.mp hp with hin | hin
        · exact hbefore (List.mem_map.mpr ⟨p, hin, heq⟩)
        · exact hnodup.2.1.1 (List.mem_map.mpr ⟨p, hin, heq⟩)
      intro p hp
      rw [total_append, total_singleton]
      by_cases hkey : p.1 = key
      · obtain rfl : p = (key, sum') := by
          rcases List.mem_append.mp hp with hin | hin
          · exact absurd hkey (hother p (List.mem_append_left _ hin))
          · rcases List.mem_cons.mp hin with rfl | hin
            · rfl
            · exact absurd hkey (hother p (List.mem_append_right _ hin))
        rw [if_pos rfl, ← h.exact (key, sum) (by simp)]
        exact hsum.symm
      · have hold : p ∈ before ++ (key, sum) :: after := by
          rcases List.mem_append.mp hp with hin | hin
          · exact List.mem_append_left _ hin
          · rcases List.mem_cons.mp hin with rfl | hin
            · exact absurd rfl hkey
            · exact List.mem_append_right _ (List.mem_cons_of_mem _ hin)
        rw [h.exact p hold, if_neg fun heq => hkey heq.symm]
        rfl
    · intro k
      rw [hkeys, h.keys, hentries]
      constructor
      · exact .inl
      · rintro (hmem | rfl)
        · exact hmem
        · exact (h.keys k).mp (by simp)

/-- **Run lemma.** -/
theorem Tallies.collect {entries entries' sums sums' : List (K × U256)} (h : Tallies entries sums)
    (hcollect : entries'.foldlM (fun sums e => Tally.add sums e.1 e.2) sums = some sums') :
    Tallies (entries ++ entries') sums' := by
  induction entries' generalizing entries sums with
  | nil =>
    obtain rfl := Option.some.inj hcollect
    rwa [List.append_nil]
  | cons e entries' ih =>
    rw [List.foldlM_cons] at hcollect
    obtain ⟨next, hadd, hrest⟩ := Option.bind_eq_some_iff.mp hcollect
    rw [List.append_cons]
    exact ih (h.add hadd) hrest

end Tally
