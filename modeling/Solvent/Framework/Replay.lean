import Mathlib

/-! # Late entries of an ordered log

    A log is meant to be folded in the order of its positions. Entries that
    arrive late are folded on top of the state already there. `Fits` is the
    condition under which this is the state of the ordered fold: every late entry
    can be passed over the entries that come after it.

    `swaps s e f` says that `e` and `f` may change places in the state `s`; what
    is asked of it is a premise of the rules.
-/

namespace Replay

variable {σ α κ : Type} [LinearOrder κ]

section Order

variable (pos : α → κ)

/-- The log in the order of its positions. -/
def ordered (log : List α) : List α := log.insertionSort fun a b => pos a ≤ pos b

/-- At most one entry a position. -/
def Distinct (log : List α) : Prop := (log.map pos).Nodup

/-- The entries before the position of `e`. -/
def earlier (log : List α) (e : α) : List α := (ordered pos log).filter (pos · < pos e)

/-- The entries after the position of `e`. -/
def later (log : List α) (e : α) : List α := (ordered pos log).filter (pos e < pos ·)

variable {pos} {log log' : List α} {e : α}

theorem perm_ordered (log : List α) : (ordered pos log).Perm log :=
  List.perm_insertionSort _ log

omit [LinearOrder κ] in
theorem Distinct.perm (h : Distinct pos log) (hperm : log.Perm log') : Distinct pos log' :=
  (hperm.map pos).nodup_iff.mp h

/-- A strictly increasing log is determined by its entries. -/
theorem eq_of_increasing (h : log.Pairwise (pos · < pos ·)) (h' : log'.Pairwise (pos · < pos ·))
    (hperm : log.Perm log') : log = log' :=
  hperm.eq_of_pairwise (fun _ _ _ _ hab hba => absurd hba (lt_asymm hab)) h h'

theorem Distinct.increasing (h : Distinct pos log) :
    (ordered pos log).Pairwise (pos · < pos ·) := by
  have hsorted : (ordered pos log).Pairwise (pos · ≤ pos ·) :=
    have : Std.Total fun a b : α => pos a ≤ pos b := ⟨fun a b => le_total (pos a) (pos b)⟩
    have : IsTrans α fun a b => pos a ≤ pos b := ⟨fun _ _ _ hab hbc => le_trans hab hbc⟩
    List.pairwise_insertionSort _ log
  have hdistinct : (ordered pos log).Pairwise (pos · ≠ pos ·) :=
    List.pairwise_map.mp (h.perm (perm_ordered log).symm)
  refine (hsorted.and hdistinct).imp ?_
  intro a b hab
  exact lt_of_le_of_ne hab.1 hab.2

/-- The order of arrival does not matter. -/
theorem Distinct.ordered_congr (h : Distinct pos log) (hperm : log.Perm log') :
    ordered pos log = ordered pos log' := by
  refine eq_of_increasing h.increasing (h.perm hperm).increasing ?_
  exact (perm_ordered log).trans (hperm.trans (perm_ordered log').symm)

/-- Around a position that is not taken. -/
theorem earlier_append_later (h : Distinct pos log) (he : ∀ f ∈ log, pos f ≠ pos e) :
    earlier pos log e ++ later pos log e = ordered pos log := by
  have hinc := h.increasing
  have hsplit : (earlier pos log e ++ later pos log e).Pairwise (pos · < pos ·) := by
    rw [List.pairwise_append]
    refine ⟨hinc.filter _, hinc.filter _, ?_⟩
    intro a ha b hb
    have hae : pos a < pos e := by simpa using (List.mem_filter.mp ha).2
    have heb : pos e < pos b := by simpa using (List.mem_filter.mp hb).2
    exact hae.trans heb
  have hlater : later pos log e = (ordered pos log).filter fun f => !decide (pos f < pos e) := by
    refine List.filter_congr ?_
    intro f hf
    have hne := he f ((perm_ordered log).mem_iff.mp hf)
    simp only [← decide_not, not_lt]
    exact decide_eq_decide.mpr ⟨le_of_lt, fun hle => lt_of_le_of_ne hle hne.symm⟩
  refine eq_of_increasing hsplit hinc ?_
  rw [hlater]
  exact List.filter_append_perm _ _

/-- One more entry takes its place. -/
theorem ordered_concat (h : Distinct pos (log ++ [e])) :
    ordered pos (log ++ [e]) = earlier pos log e ++ e :: later pos log e := by
  obtain ⟨hlog, _, hnew⟩ := List.nodup_append.mp (show (log.map pos ++ [pos e]).Nodup by
    simpa [Distinct] using h)
  have hne : ∀ f ∈ log, pos f ≠ pos e := by
    intro f hf
    exact hnew (pos f) (List.mem_map_of_mem hf) (pos e) (by simp)
  have hinc : (ordered pos log).Pairwise (pos · < pos ·) := Distinct.increasing hlog
  refine eq_of_increasing h.increasing ?_ ?_
  · rw [List.pairwise_append, List.pairwise_cons]
    refine ⟨hinc.filter _, ⟨?_, hinc.filter _⟩, ?_⟩
    · intro b hb
      simpa using (List.mem_filter.mp hb).2
    · intro a ha b hb
      have hae : pos a < pos e := by simpa using (List.mem_filter.mp ha).2
      rcases List.mem_cons.mp hb with rfl | hb
      · exact hae
      · have heb : pos e < pos b := by simpa using (List.mem_filter.mp hb).2
        exact hae.trans heb
  · calc (ordered pos (log ++ [e])).Perm (log ++ [e]) := perm_ordered _
      List.Perm _ (e :: log) := List.perm_append_singleton e log
      List.Perm _ (e :: (earlier pos log e ++ later pos log e)) := by
        rw [earlier_append_later hlog hne]
        exact (perm_ordered log).symm.cons e
      List.Perm _ (earlier pos log e ++ e :: later pos log e) := List.perm_middle.symm

end Order

/-! ## Folding late entries -/

variable (apply : σ → α → σ) (swaps : σ → α → α → Prop) (pos : α → κ)

/-- From `s`, the entry `e` changes places with each of the entries in turn. -/
def Passes : σ → α → List α → Prop
  | _, _, [] => True
  | s, e, f :: fs => swaps s e f ∧ Passes (apply s f) e fs

/-- Each new entry, in turn, passes over the entries of the log after it. -/
def Fits (s : σ) : List α → List α → Prop
  | _, [] => True
  | log, e :: es =>
    Passes apply swaps ((earlier pos log e).foldl apply s) e (later pos log e) ∧
      Fits s (log ++ [e]) es

instance decidablePasses [∀ s e f, Decidable (swaps s e f)] (s : σ) (e : α) :
    ∀ fs : List α, Decidable (Passes apply swaps s e fs)
  | [] => isTrue trivial
  | f :: fs =>
    have := decidablePasses (apply s f) e fs
    inferInstanceAs (Decidable (swaps s e f ∧ Passes apply swaps (apply s f) e fs))

instance decidableFits [∀ s e f, Decidable (swaps s e f)] (s : σ) :
    ∀ log es : List α, Decidable (Fits apply swaps pos s log es)
  | _, [] => isTrue trivial
  | log, e :: es =>
    have := decidableFits s (log ++ [e]) es
    inferInstanceAs (Decidable (Passes apply swaps _ e _ ∧ Fits apply swaps pos s (log ++ [e]) es))

variable {apply swaps pos} {good : σ → Prop}
variable (hgood : ∀ s e, good s → good (apply s e))
variable (hswaps : ∀ s e f, good s → swaps s e f → apply (apply s e) f = apply (apply s f) e)

include hgood in
theorem good_foldl {s : σ} (hs : good s) (es : List α) : good (es.foldl apply s) := by
  induction es generalizing s with
  | nil => exact hs
  | cons e es ih => exact ih (hgood s e hs)

include hgood hswaps

theorem foldl_passes {s : σ} {e : α} {fs : List α} (hs : good s)
    (h : Passes apply swaps s e fs) : fs.foldl apply (apply s e) = apply (fs.foldl apply s) e := by
  induction fs generalizing s with
  | nil => rfl
  | cons f fs ih =>
    obtain ⟨hswap, hrest⟩ := h
    calc (f :: fs).foldl apply (apply s e)
        = fs.foldl apply (apply (apply s f) e) := by
          rw [List.foldl_cons, hswaps s e f hs hswap]
      _ = apply (fs.foldl apply (apply s f)) e := ih (hgood s f hs) hrest

/-- **Late entries.** Folded on top in their own order, entries that fit give the
    fold of the whole log. -/
theorem foldl_ordered_append {s : σ} (hs : good s) {log es : List α}
    (hdistinct : Distinct pos (log ++ es)) (h : Fits apply swaps pos s log es) :
    (ordered pos (log ++ es)).foldl apply s = es.foldl apply ((ordered pos log).foldl apply s) := by
  induction es generalizing log with
  | nil => rw [List.append_nil, List.foldl_nil]
  | cons e es ih =>
    obtain ⟨hpasses, hrest⟩ := h
    have hsplit : log ++ e :: es = (log ++ [e]) ++ es := by simp
    rw [hsplit] at hdistinct ⊢
    have hone : Distinct pos (log ++ [e]) := by
      unfold Distinct at hdistinct ⊢
      rw [List.map_append] at hdistinct
      exact (List.nodup_append.mp hdistinct).1
    have hlog : Distinct pos log := by
      unfold Distinct at hone ⊢
      rw [List.map_append] at hone
      exact (List.nodup_append.mp hone).1
    have hne : ∀ f ∈ log, pos f ≠ pos e := by
      unfold Distinct at hone
      rw [List.map_append, List.nodup_append] at hone
      intro f hf
      exact hone.2.2 (pos f) (List.mem_map_of_mem hf) (pos e) (by simp)
    rw [ih hdistinct hrest, ordered_concat hone, List.foldl_append, List.foldl_cons, List.foldl_cons,
      foldl_passes hgood hswaps (good_foldl hgood hs _) hpasses, ← List.foldl_append,
      earlier_append_later hlog hne]

end Replay
