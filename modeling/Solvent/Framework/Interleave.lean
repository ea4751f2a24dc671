import Mathlib
import Solvent.Framework.Run

/-! # Interleaved calls

    Calls run against a shared state, one atomic access at a time. A world is
    the shared state and the pool of the calls in progress; a call that ends
    leaves an empty slot, so every call keeps its place. Any call may go next, a
    call may stop before any of its accesses, and a crash loses every call and
    restarts the shared state.

    `next` is a step function, so the runs and the invariant rules are those of
    `Run`. `keeps` is the rule for one step: it hands each obligation the call
    that moved.
-/

namespace Interleave

/-- The code under interleaving: `α` requests, `π` calls in progress, `ρ` what a
    call reads from outside, `κ` what a restart reads, `ε` outside events. -/
structure Machine (σ α π ρ κ ε : Type) where
  entry : α → π
  /-- One access: the state it leaves and how the call goes on, if it does. -/
  access : ρ → σ → π → σ × Option π
  restart : κ → σ → σ
  outside : ε → σ → σ

structure World (σ π : Type) where
  shared : σ
  calls : List (Option π)

inductive Action (α ρ κ ε : Type) where
  /-- A request arrives. -/
  | start (a : α)
  /-- The call in slot `i` makes its next access. -/
  | access (i : ℕ) (reads : ρ)
  /-- The call in slot `i` ends before its next access. -/
  | stop (i : ℕ)
  | crash (reads : κ)
  | outside (event : ε)

variable {σ α π ρ κ ε : Type}

namespace World

/-- The world with its calls seen through `f`. -/
def map {π' : Type} (f : π → π') (w : World σ π) : World σ π' :=
  { shared := w.shared, calls := w.calls.map (Option.map f) }

/-- The call in progress in slot `i`. -/
def At (w : World σ π) (i : ℕ) (p : π) : Prop := w.calls[i]? = some (some p)

/-- No call is in progress. -/
def Idle (w : World σ π) : Prop := ∀ i p, ¬ w.At i p

theorem at_iff_mem {w : World σ π} {i : ℕ} {p : π} : w.At i p ↔ p ∈ (w.calls[i]?).join := by
  unfold At
  cases w.calls[i]? with
  | none => simp
  | some slot => simp [Option.mem_def]

theorem exists_at_iff {w : World σ π} {p : π} : (∃ i, w.At i p) ↔ p ∈ w.calls.reduceOption := by
  unfold At
  rw [List.reduceOption_mem_iff, List.mem_iff_getElem?]

/-- A property of the call in one slot can be checked. -/
instance {P : π → Prop} [DecidablePred P] (w : World σ π) (i : ℕ) :
    Decidable (∀ p, w.At i p → P p) :=
  decidable_of_iff (∀ p ∈ (w.calls[i]?).join, P p) (by simp only [at_iff_mem])

/-- A property of every call in progress can be checked. -/
instance {P : π → Prop} [DecidablePred P] (w : World σ π) :
    Decidable (∀ i p, w.At i p → P p) :=
  decidable_of_iff (∀ p ∈ w.calls.reduceOption, P p) (by
    constructor
    · intro h i p hat
      exact h p (exists_at_iff.mp ⟨i, hat⟩)
    · intro h p hp
      obtain ⟨i, hat⟩ := exists_at_iff.mpr hp
      exact h i p hat)

instance (w : World σ π) : Decidable w.Idle :=
  inferInstanceAs (Decidable (∀ i p, w.At i p → False))

theorem at_unique {w : World σ π} {i : ℕ} {p q : π} (hp : w.At i p) (hq : w.At i q) : p = q := by
  unfold At at hp hq
  rw [hp] at hq
  exact Option.some.inj (Option.some.inj hq)

theorem at_append {s : σ} {calls : List (Option π)} {p q : π} {i : ℕ} :
    (World.mk s (calls ++ [some p])).At i q ↔
      (World.mk s calls).At i q ∨ (i = calls.length ∧ q = p) := by
  unfold At
  simp only [List.getElem?_append]
  split
  · rename_i hlt
    have hne : i ≠ calls.length := by omega
    simp [hne]
  · rename_i hge
    have hnone : calls[i]? = none := by
      rw [List.getElem?_eq_none_iff]
      omega
    by_cases hi : i = calls.length
    · subst hi
      simp [eq_comm]
    · have hpos : i - calls.length ≠ 0 := by omega
      cases hk : i - calls.length with
      | zero => exact absurd hk hpos
      | succ k => simp [hi, hnone]

theorem at_set {s : σ} {calls : List (Option π)} {p' : Option π} {i j : ℕ} {q : π} :
    (World.mk s (calls.set i p')).At j q ↔
      (i = j ∧ i < calls.length ∧ p' = some q) ∨ (i ≠ j ∧ (World.mk s calls).At j q) := by
  unfold At
  simp only [List.getElem?_set]
  by_cases hij : i = j
  · subst hij
    by_cases hlen : i < calls.length
    · simp [hlen]
    · simp [hlen]
  · simp [hij]

/-- A call in progress has a slot. -/
theorem lt_of_at {w : World σ π} {i : ℕ} {p : π} (h : w.At i p) : i < w.calls.length := by
  unfold At at h
  by_contra hge
  rw [List.getElem?_eq_none_iff.mpr (by omega)] at h
  cases h

theorem not_at_nil {s : σ} {i : ℕ} {p : π} : ¬ (World.mk s ([] : List (Option π))).At i p := by
  simp [At]

end World

namespace Machine

variable (m : Machine σ α π ρ κ ε)

def next (w : World σ π) : Action α ρ κ ε → World σ π
  | .start a => { w with calls := w.calls ++ [some (m.entry a)] }
  | .access i reads =>
    match w.calls[i]? with
    | some (some p) =>
      { shared := (m.access reads w.shared p).1, calls := w.calls.set i (m.access reads w.shared p).2 }
    | _ => w
  | .stop i => { w with calls := w.calls.set i none }
  | .crash reads => { shared := m.restart reads w.shared, calls := [] }
  | .outside event => { w with shared := m.outside event w.shared }

/-- The world before the first call. -/
def initial (s : σ) : World σ π := { shared := s, calls := [] }

/-- The state after an access, and who is in progress then: the call that moved,
    if it goes on, and the others. -/
structure Moved (w w' : World σ π) (i : ℕ) (p' : Option π) : Prop where
  moved : ∀ q, w'.At i q ↔ p' = some q
  others : ∀ j q, j ≠ i → (w'.At j q ↔ w.At j q)

theorem moved_set {w : World σ π} {i : ℕ} (hlen : i < w.calls.length) (s : σ) (p' : Option π) :
    Moved w { shared := s, calls := w.calls.set i p' } i p' where
  moved := by
    intro q
    rw [World.at_set]
    simp [hlen]
  others := by
    intro j q hj
    rw [World.at_set]
    have hij : i ≠ j := fun e => hj e.symm
    simp only [hij, false_and, ne_eq, not_false_eq_true, true_and, false_or]
    exact Iff.rfl

/-- **One step keeps `P`**, about the pool as it stands. One obligation per
    action; `Q` is what the step may assume of the action in the world it is
    taken in. -/
theorem keeps_pool {P : World σ π → Prop} {Q : World σ π → Action α ρ κ ε → Prop}
    (hstart : ∀ w a, P w → Q w (.start a) →
      P { w with calls := w.calls ++ [some (m.entry a)] })
    (haccess : ∀ w i reads p, P w → Q w (.access i reads) → w.At i p →
      P { shared := (m.access reads w.shared p).1
          calls := w.calls.set i (m.access reads w.shared p).2 })
    (hstop : ∀ w i p, P w → Q w (.stop i) → w.At i p →
      P { w with calls := w.calls.set i none })
    (hcrash : ∀ w reads, P w → Q w (.crash reads) →
      P { shared := m.restart reads w.shared, calls := [] })
    (houtside : ∀ w event, P w → Q w (.outside event) →
      P { w with shared := m.outside event w.shared })
    (w : World σ π) (a : Action α ρ κ ε) (hp : P w) (hq : Q w a) : P (m.next w a) := by
  cases a with
  | start a => exact hstart w a hp hq
  | access i reads =>
    simp only [next]
    split
    · rename_i p hslot
      exact haccess w i reads p hp hq hslot
    · exact hp
  | stop i =>
    by_cases hslot : ∃ p, w.At i p
    · obtain ⟨p, hat⟩ := hslot
      exact hstop w i p hp hq hat
    · -- The slot was empty or absent: nothing changes.
      have hsame : w.calls.set i none = w.calls := by
        apply List.ext_getElem?
        intro j
        rw [List.getElem?_set]
        by_cases hij : i = j
        · subst hij
          cases hget : w.calls[i]? with
          | none =>
            have hlen : ¬ i < w.calls.length := by
              have := List.getElem?_eq_none_iff.mp hget
              omega
            simp [hlen]
          | some slot =>
            cases slot with
            | some p => exact absurd ⟨p, hget⟩ hslot
            | none =>
              have hlen : i < w.calls.length := (List.getElem?_eq_some_iff.mp hget).1
              simp [hlen]
        · simp [hij]
      show P { w with calls := w.calls.set i none }
      rw [hsame]
      exact hp
  | crash reads => exact hcrash w reads hp hq
  | outside event => exact houtside w event hp hq

/-- **One step keeps `P`**, about who is in progress: an access says which call
    moved and leaves the others in place. -/
theorem keeps {P : World σ π → Prop} {Q : World σ π → Action α ρ κ ε → Prop}
    (hstart : ∀ w a, P w → Q w (.start a) →
      P { w with calls := w.calls ++ [some (m.entry a)] })
    (haccess : ∀ w w' i reads p, P w → Q w (.access i reads) → w.At i p →
      w'.shared = (m.access reads w.shared p).1 →
      Moved w w' i (m.access reads w.shared p).2 → P w')
    (hstop : ∀ w w' i p, P w → Q w (.stop i) → w.At i p → w'.shared = w.shared →
      Moved w w' i none → P w')
    (hcrash : ∀ w reads, P w → Q w (.crash reads) →
      P { shared := m.restart reads w.shared, calls := [] })
    (houtside : ∀ w event, P w → Q w (.outside event) →
      P { w with shared := m.outside event w.shared })
    (w : World σ π) (a : Action α ρ κ ε) (hp : P w) (hq : Q w a) : P (m.next w a) := by
  refine m.keeps_pool (P := P) (Q := Q) hstart ?_ ?_ hcrash houtside w a hp hq
  · intro w i reads p hp hq hat
    exact haccess w _ i reads p hp hq hat rfl (moved_set (World.lt_of_at hat) _ _)
  · intro w i p hp hq hat
    exact hstop w _ i p hp hq hat rfl (moved_set (World.lt_of_at hat) _ _)

/-! ## One call at a time -/

/-- No call is in progress and the state is as `inv` says, or one call is and the
    state is as it needs it. -/
def Single (inv : σ → Prop) (busy : σ → π → Prop) (w : World σ π) : Prop :=
  (w.Idle ∧ inv w.shared) ∨ ∃ i p, (∀ j q, w.At j q ↔ j = i ∧ q = p) ∧ busy w.shared p

section Single

variable {inv : σ → Prop} {busy : σ → π → Prop} {w w' : World σ π}

theorem single_initial {s : σ} (hs : inv s) : Single inv busy (initial s) :=
  .inl ⟨fun _ _ => World.not_at_nil, hs⟩

theorem Single.unique {i : ℕ} {p : π} (h : Single inv busy w) (hat : w.At i p) :
    (∀ j q, w.At j q ↔ j = i ∧ q = p) ∧ busy w.shared p := by
  rcases h with ⟨hnone, _⟩ | ⟨i', p', honly, hp⟩
  · exact absurd hat (hnone i p)
  · obtain ⟨rfl, rfl⟩ := (honly i p).mp hat
    exact ⟨honly, hp⟩

/-- The call that moved was the only one. -/
theorem Single.of_moved {i : ℕ} {p : π} {p' : Option π}
    (honly : ∀ j q, w.At j q ↔ j = i ∧ q = p) (hmoved : Moved w w' i p')
    (hnone : p' = none → inv w'.shared) (hsome : ∀ q, p' = some q → busy w'.shared q) :
    Single inv busy w' := by
  have hothers : ∀ j q, w'.At j q → j = i := by
    intro j q hat
    by_contra hj
    exact hj ((honly j q).mp ((hmoved.others j q hj).mp hat)).1
  match hp' : p' with
  | none =>
    left
    refine ⟨?_, hnone rfl⟩
    intro j q hat
    obtain rfl := hothers j q hat
    exact absurd ((hmoved.moved q).mp hat) (by simp)
  | some q =>
    right
    refine ⟨i, q, ?_, hsome q rfl⟩
    intro j q'
    constructor
    · intro hat
      obtain rfl := hothers j q' hat
      exact ⟨rfl, (Option.some.inj ((hmoved.moved q').mp hat)).symm⟩
    · rintro ⟨rfl, rfl⟩
      exact (hmoved.moved q').mpr rfl

variable {Q : World σ π → Action α ρ κ ε → Prop}
variable (hidle : ∀ w a, Q w (.start a) → w.Idle)
variable (hentry : ∀ a s, inv s → busy s (m.entry a))
variable (haccess : ∀ w i reads p, Q w (.access i reads) → w.At i p → busy w.shared p →
  ((m.access reads w.shared p).2 = none → inv (m.access reads w.shared p).1) ∧
    ∀ q, (m.access reads w.shared p).2 = some q → busy (m.access reads w.shared p).1 q)
variable (hstop : ∀ w i p, Q w (.stop i) → w.At i p → busy w.shared p → inv w.shared)
variable (hlost : ∀ w reads i p, Q w (.crash reads) → w.At i p → busy w.shared p → inv w.shared)
variable (hrestart : ∀ reads s, inv s → inv (m.restart reads s))
variable (hinv : ∀ event s, inv s → inv (m.outside event s))
variable (hbusy : ∀ event s p, busy s p → busy (m.outside event s) p)

include hidle hentry haccess hstop hlost hrestart hinv hbusy

/-- **One step** of a run in which a call starts when no other is in progress. -/
theorem single_next (w : World σ π) (a : Action α ρ κ ε) (hw : Single inv busy w) (ha : Q w a) :
    Single inv busy (m.next w a) := by
  refine m.keeps (P := Single inv busy) (Q := Q) ?_ ?_ ?_ ?_ ?_ w a hw ha
  · -- A call starts in an idle pool.
    intro w a hw hq
    have hpool := hidle w a hq
    rcases hw with ⟨_, hs⟩ | ⟨i, p, honly, _⟩
    · right
      refine ⟨w.calls.length, m.entry a, ?_, hentry a w.shared hs⟩
      intro j q
      show (World.mk w.shared (w.calls ++ [some (m.entry a)])).At j q ↔ _
      rw [World.at_append]
      exact or_iff_right (hpool j q)
    · exact absurd ((honly i p).mpr ⟨rfl, rfl⟩) (hpool i p)
  · intro w w' i reads p hw hq hat hshared hmoved
    obtain ⟨honly, hp⟩ := hw.unique hat
    obtain ⟨hnone, hsome⟩ := haccess w i reads p hq hat hp
    rw [← hshared] at hnone hsome
    exact Single.of_moved honly hmoved hnone hsome
  · intro w w' i p hw hq hat hshared hmoved
    obtain ⟨honly, hp⟩ := hw.unique hat
    refine Single.of_moved honly hmoved ?_ ?_
    · intro _
      rw [hshared]
      exact hstop w i p hq hat hp
    · intro q hq'
      cases hq'
  · intro w reads hw hq
    left
    refine ⟨fun i p => World.not_at_nil, ?_⟩
    rcases hw with ⟨_, hs⟩ | ⟨i, p, honly, hp⟩
    · exact hrestart reads _ hs
    · exact hrestart reads _ (hlost w reads i p hq ((honly i p).mpr ⟨rfl, rfl⟩) hp)
  · intro w event hw _
    rcases hw with ⟨hpool, hs⟩ | ⟨i, p, honly, hp⟩
    · exact .inl ⟨hpool, hinv event _ hs⟩
    · exact .inr ⟨i, p, honly, hbusy event _ p hp⟩

/-- **Run rule** for one call at a time. -/
theorem single_run {s : σ} (hs : inv s) {actions : List (Action α ρ κ ε)}
    (hq : Run.Along m.next Q (initial s) actions) :
    Single inv busy (Run.run m.next (initial s) actions) :=
  Run.invariant (P := Single inv busy) (Q := Q)
    (m.single_next hidle hentry haccess hstop hlost hrestart hinv hbusy) (single_initial hs) hq

end Single

/-! ## Two machines -/

section Map

variable {π' : Type} {m : Machine σ α π ρ κ ε} {m' : Machine σ α π' ρ κ ε} {f : π → π'}
variable (hentry : ∀ a, m'.entry a = f (m.entry a))
variable (haccess : ∀ reads s p,
  m'.access reads s (f p) = ((m.access reads s p).1, (m.access reads s p).2.map f))
variable (hrestart : m'.restart = m.restart) (houtside : m'.outside = m.outside)

include hentry haccess hrestart houtside

/-- Calls that correspond take corresponding steps. -/
theorem next_map (w : World σ π) (a : Action α ρ κ ε) :
    m'.next (w.map f) a = (m.next w a).map f := by
  match a with
  | .start a => simp [next, World.map, hentry]
  | .access i reads =>
    have hslot : (w.map f).calls[i]? = (w.calls[i]?).map (Option.map f) := by
      simp [World.map]
    simp only [next, hslot]
    match hget : w.calls[i]? with
    | some (some p) =>
      simp only [Option.map_some]
      rw [show (w.map f).shared = w.shared from rfl, haccess]
      simp [World.map, List.map_set]
    | some none => rfl
    | none => rfl
  | .stop i => simp [next, World.map, List.map_set]
  | .crash reads => simp [next, World.map, hrestart]
  | .outside event => simp [next, World.map, houtside]

theorem run_map (w : World σ π) (actions : List (Action α ρ κ ε)) :
    Run.run m'.next (w.map f) actions = (Run.run m.next w actions).map f := by
  induction actions generalizing w with
  | nil => rfl
  | cons a actions ih =>
    rw [Run.run_cons, Run.run_cons, next_map hentry haccess hrestart houtside]
    exact ih (m.next w a)

end Map

end Machine

end Interleave
