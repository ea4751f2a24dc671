import Mathlib

/-! # Frontiers

    A list of samples, in the order of their sizes, pruned to a frontier in two
    measures: what a sample gives, and what it costs. The samples kept so far are
    a stack with the latest on top. A new sample pops those that give no more
    than it at a greater cost, and is pushed where it gives more than what is
    left.

    One pass suffices. Popping leaves a top that either gives more than the new
    sample or costs no more, so a pushed sample is above the whole stack in both
    measures.
-/

namespace Frontier

variable {α G C : Type} [LinearOrder G] [LinearOrder C] (gives : α → G) (costs : α → C)

/-- `a` displaces an earlier sample that gives no more at a greater cost. -/
def displaces (a earlier : α) : Bool :=
  gives earlier ≤ gives a ∧ costs a < costs earlier

/-- One sample onto the stack. -/
def push (stack : List α) (a : α) : List α :=
  match stack.dropWhile (displaces gives costs a) with
  | [] => [a]
  | top :: rest => if gives top < gives a then a :: top :: rest else top :: rest

/-- The samples that stay, in their order. -/
def prune (samples : List α) : List α :=
  (samples.foldl (push gives costs) []).reverse

/-- `b` gives more than `a` and costs no less. -/
structure Below (a b : α) : Prop where
  gives : gives a < gives b
  costs : costs a ≤ costs b

variable {gives costs}

theorem Below.trans {a b c : α} (hab : Below gives costs a b) (hbc : Below gives costs b c) :
    Below gives costs a c :=
  ⟨hab.gives.trans hbc.gives, hab.costs.trans hbc.costs⟩

variable (gives costs) in
/-- A push keeps a suffix of the stack, with or without the sample on top; with
    it, the sample gives more than the top left and costs no less. -/
theorem push_cases (stack : List α) (a : α) :
    ∃ kept, kept <:+ stack ∧
      (push gives costs stack a = kept ∨
        (push gives costs stack a = a :: kept ∧ ∀ top ∈ kept.head?, Below gives costs top a)) := by
  refine ⟨stack.dropWhile (displaces gives costs a), List.dropWhile_suffix _, ?_⟩
  have hhead := List.head?_dropWhile_not (displaces gives costs a) stack
  unfold push
  match hkept : stack.dropWhile (displaces gives costs a) with
  | [] => exact .inr ⟨rfl, nofun⟩
  | top :: rest =>
    rw [hkept] at hhead
    simp only [List.head?_cons] at hhead
    by_cases hmore : gives top < gives a
    · -- The top was not displaced, although it gives less: it costs no more.
      refine .inr ⟨if_pos hmore, fun b hb => ?_⟩
      obtain rfl := Option.some.inj hb
      have hcosts : ¬costs a < costs top := by
        intro hlt
        simp [displaces, hmore.le, hlt] at hhead
      exact ⟨hmore, not_lt.mp hcosts⟩
    · exact .inl (if_neg hmore)

/-- **Step lemma.** A push keeps the stack in order, top first. -/
theorem push_ordered {stack : List α} (a : α)
    (h : stack.Pairwise fun later earlier => Below gives costs earlier later) :
    (push gives costs stack a).Pairwise fun later earlier => Below gives costs earlier later := by
  obtain ⟨kept, hsuffix, hpush | ⟨hpush, htop⟩⟩ := push_cases gives costs stack a
  · rw [hpush]
    exact h.sublist hsuffix.sublist
  · rw [hpush]
    have hkept := h.sublist hsuffix.sublist
    refine List.pairwise_cons.mpr ⟨fun b hb => ?_, hkept⟩
    match kept with
    | top :: rest =>
      have hbelow := htop top rfl
      rcases List.mem_cons.mp hb with rfl | hrest
      · exact hbelow
      · exact ((List.pairwise_cons.mp hkept).1 b hrest).trans hbelow

/-- A push adds nothing but the sample. -/
theorem push_sublist {stack before : List α} (a : α) (h : stack.reverse.Sublist before) :
    (push gives costs stack a).reverse.Sublist (before ++ [a]) := by
  obtain ⟨kept, hsuffix, hpush⟩ := push_cases gives costs stack a
  have hkept : kept.reverse.Sublist before := hsuffix.sublist.reverse.trans h
  rcases hpush with hpush | ⟨hpush, -⟩
  · rw [hpush]
    exact hkept.trans (List.sublist_append_left _ _)
  · rw [hpush, List.reverse_cons]
    exact hkept.append_right [a]

/-- Samples in order whose neighbours differ are in strict order. -/
theorem pairwise_lt {K : Type} [LinearOrder K] {size : α → K} {samples : List α}
    (hle : samples.Pairwise fun a b => size a ≤ size b)
    (hne : samples.IsChain fun a b => size a ≠ size b) :
    samples.Pairwise fun a b => size a < size b := by
  have : IsTrans α fun a b => size a < size b := ⟨fun _ _ _ => lt_trans⟩
  rw [← List.isChain_iff_pairwise, List.isChain_iff_getElem]
  intro i hi
  have hstep := List.pairwise_iff_getElem.mp hle i (i + 1) (by omega) hi (by omega)
  exact lt_of_le_of_ne hstep (List.isChain_iff_getElem.mp hne i hi)

variable (gives costs) in
/-- **Run lemma.** What is left is ordered in both measures. -/
theorem prune_ordered (samples : List α) :
    (prune gives costs samples).Pairwise (Below gives costs) := by
  have hstack : (samples.foldl (push gives costs) []).Pairwise
      fun later earlier => Below gives costs earlier later := by
    induction samples using List.reverseRecOn with
    | nil => exact .nil
    | append_singleton samples a ih =>
      rw [List.foldl_append, List.foldl_cons, List.foldl_nil]
      exact push_ordered a ih
  exact List.pairwise_reverse.mpr hstack

variable (gives costs) in
/-- What is left was sampled, in the same order. -/
theorem prune_sublist (samples : List α) : (prune gives costs samples).Sublist samples := by
  unfold prune
  induction samples using List.reverseRecOn with
  | nil => exact List.Sublist.slnil
  | append_singleton samples a ih =>
    rw [List.foldl_append, List.foldl_cons, List.foldl_nil]
    exact push_sublist a ih

end Frontier
