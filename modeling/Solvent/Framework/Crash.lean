import Mathlib

/-! # Calls that fail and processes that die

    A process is a sequence of calls to its ports, with steps of its own in
    between. Each call goes through, fails without an effect, or is never made
    because the process died before it; a list of faults says which, call by call.

    `wp` is the weakest precondition of a process under every list of allowed
    faults: what holds where it ends, where it fails and where it dies. With no
    fault allowed it says that the process ends, which is how a recovery is proved
    to succeed by the proof that shows it safe.
-/

inductive Process.Fault (ε : Type) where
  /-- The call fails and has no effect. -/
  | fail (e : ε)
  /-- The process dies before the call. -/
  | crash

/-- What becomes of the calls, in order. `none` lets a call through, and so does the
    end of the list. -/
abbrev Process.Faults (ε : Type) : Type := List (Option (Process.Fault ε))

/-- How a process ends, with the faults still to come. -/
inductive Process.Outcome (σ ε α : Type) where
  | done (a : α) (s : σ) (faults : Process.Faults ε)
  | failed (e : ε) (s : σ) (faults : Process.Faults ε)
  | crashed (s : σ)

def Process (σ ε α : Type) : Type := σ → Process.Faults ε → Process.Outcome σ ε α

namespace Process

variable {σ ε α β : Type}

def bind (p : Process σ ε α) (f : α → Process σ ε β) : Process σ ε β := fun s faults =>
  match p s faults with
  | .done a s faults => f a s faults
  | .failed e s faults => .failed e s faults
  | .crashed s => .crashed s

instance : Monad (Process σ ε) where
  pure a := fun s faults => .done a s faults
  bind := bind

def read : Process σ ε σ := fun s faults => .done s s faults

/-- A step of the process's own. -/
def modify (f : σ → σ) : Process σ ε Unit := fun s faults => .done () (f s) faults

/-- The value, or the failure there is in its place. -/
def lift (value : Except ε α) : Process σ ε α := fun s faults =>
  match value with
  | .ok a => .done a s faults
  | .error e => .failed e s faults

/-- A failure as a value. -/
def attempt (p : Process σ ε α) : Process σ ε (Except ε α) := fun s faults =>
  match p s faults with
  | .done a s faults => .done (.ok a) s faults
  | .failed e s faults => .done (.error e) s faults
  | .crashed s => .crashed s

/-- One call. -/
def call (port : σ → Except ε α × σ) : Process σ ε α := fun s faults =>
  match faults with
  | some .crash :: _ => .crashed s
  | some (.fail e) :: faults => .failed e s faults
  | none :: faults => lift (port s).1 (port s).2 faults
  | [] => lift (port s).1 (port s).2 []

/-! ## Weakest preconditions -/

end Process

/-- What holds where a process ends. -/
structure Process.Post (σ ε α : Type) where
  done : α → σ → Prop
  failed : ε → σ → Prop
  crashed : σ → Prop

namespace Process

variable {σ ε α β : Type} {allowed : Option (Fault ε) → Prop} {s : σ}

/-- The outcome meets the postcondition, and every fault still to come is allowed. -/
def Meets (allowed : Option (Fault ε) → Prop) (Q : Post σ ε α) : Outcome σ ε α → Prop
  | .done a s faults => Q.done a s ∧ ∀ f ∈ faults, allowed f
  | .failed e s faults => Q.failed e s ∧ ∀ f ∈ faults, allowed f
  | .crashed s => Q.crashed s

def wp (allowed : Option (Fault ε) → Prop) (p : Process σ ε α) (Q : Post σ ε α) (s : σ) : Prop :=
  ∀ faults : Faults ε, (∀ f ∈ faults, allowed f) → Meets allowed Q (p s faults)

theorem wp_pure {Q : Post σ ε α} {a : α} (h : Q.done a s) :
    wp allowed (pure a : Process σ ε α) Q s :=
  fun _ hfaults => ⟨h, hfaults⟩

theorem wp_bind {p : Process σ ε α} {f : α → Process σ ε β} {Q : Post σ ε β}
    (h : wp allowed p ⟨fun a s => wp allowed (f a) Q s, Q.failed, Q.crashed⟩ s) :
    wp allowed (p >>= f) Q s := by
  intro faults hfaults
  have hp := h faults hfaults
  show Meets allowed Q (bind p f s faults)
  unfold bind
  cases hrun : p s faults with
  | done a s' faults' =>
    rw [hrun] at hp
    exact hp.1 faults' hp.2
  | failed e s' faults' =>
    rw [hrun] at hp
    exact hp
  | crashed s' =>
    rw [hrun] at hp
    exact hp

/-- **Consequence rule.** -/
theorem wp.mono {p : Process σ ε α} {Q Q' : Post σ ε α} (h : wp allowed p Q s)
    (hdone : ∀ a s', Q.done a s' → Q'.done a s') (hfailed : ∀ e s', Q.failed e s' → Q'.failed e s')
    (hcrashed : ∀ s', Q.crashed s' → Q'.crashed s') : wp allowed p Q' s := by
  intro faults hfaults
  have hp := h faults hfaults
  cases hrun : p s faults with
  | done a s' faults' =>
    rw [hrun] at hp
    exact ⟨hdone a s' hp.1, hp.2⟩
  | failed e s' faults' =>
    rw [hrun] at hp
    exact ⟨hfailed e s' hp.1, hp.2⟩
  | crashed s' =>
    rw [hrun] at hp
    exact hcrashed s' hp

theorem wp_read {Q : Post σ ε σ} (h : Q.done s s) : wp allowed read Q s :=
  fun _ hfaults => ⟨h, hfaults⟩

theorem wp_modify {Q : Post σ ε Unit} {f : σ → σ} (h : Q.done () (f s)) :
    wp allowed (modify f) Q s :=
  fun _ hfaults => ⟨h, hfaults⟩

theorem wp_lift {Q : Post σ ε α} {value : Except ε α} (hok : ∀ a, value = .ok a → Q.done a s)
    (herror : ∀ e, value = .error e → Q.failed e s) : wp allowed (lift value) Q s := by
  intro faults hfaults
  cases value with
  | ok a => exact ⟨hok a rfl, hfaults⟩
  | error e => exact ⟨herror e rfl, hfaults⟩

theorem wp_attempt {p : Process σ ε α} {Q : Post σ ε (Except ε α)}
    (h : wp allowed p ⟨fun a => Q.done (.ok a), fun e => Q.done (.error e), Q.crashed⟩ s) :
    wp allowed (attempt p) Q s := by
  intro faults hfaults
  have hp := h faults hfaults
  unfold attempt
  cases hrun : p s faults with
  | done a s' faults' =>
    rw [hrun] at hp
    exact hp
  | failed e s' faults' =>
    rw [hrun] at hp
    exact hp
  | crashed s' =>
    rw [hrun] at hp
    exact hp

/-- **Call rule.** A call that goes through answers as its port does; one that is hit by
    a fault leaves the state as it was. -/
theorem wp_call {port : σ → Except ε α × σ} {Q : Post σ ε α}
    (hok : ∀ a s', port s = (.ok a, s') → Q.done a s')
    (herror : ∀ e s', port s = (.error e, s') → Q.failed e s')
    (hfail : ∀ e, allowed (some (.fail e)) → Q.failed e s)
    (hcrash : allowed (some .crash) → Q.crashed s) : wp allowed (call port) Q s := by
  have hport : ∀ faults : Faults ε, (∀ f ∈ faults, allowed f) →
      Meets allowed Q (lift (port s).1 (port s).2 faults) := by
    intro faults hfaults
    cases hanswer : port s with
    | mk value s' =>
      cases value with
      | ok a => exact ⟨hok a s' hanswer, hfaults⟩
      | error e => exact ⟨herror e s' hanswer, hfaults⟩
  intro faults hfaults
  match faults with
  | some .crash :: _ => exact hcrash (hfaults _ List.mem_cons_self)
  | some (.fail e) :: faults =>
    exact ⟨hfail e (hfaults _ List.mem_cons_self), fun f hf => hfaults f (List.mem_cons_of_mem _ hf)⟩
  | none :: faults => exact hport faults fun f hf => hfaults f (List.mem_cons_of_mem _ hf)
  | [] => exact hport [] hfaults

theorem wp_ite {c : Prop} [Decidable c] {p q : Process σ ε α} {Q : Post σ ε α}
    (hp : c → wp allowed p Q s) (hq : ¬c → wp allowed q Q s) :
    wp allowed (if c then p else q) Q s := by
  split
  · exact hp ‹_›
  · exact hq ‹_›

/-- **Loop rule.** `I` speaks of the items still to come. -/
theorem wp_foldlM {f : β → α → Process σ ε β} {I : List α → β → σ → Prop}
    {failed : ε → σ → Prop} {crashed : σ → Prop}
    (hstep : ∀ a as b s, I (a :: as) b s → wp allowed (f b a) ⟨I as, failed, crashed⟩ s) :
    ∀ {as : List α} {b : β} {s : σ}, I as b s →
      wp allowed (as.foldlM f b) ⟨I [], failed, crashed⟩ s := by
  intro as
  induction as with
  | nil => exact fun h => wp_pure h
  | cons a as ih =>
    intro b s h
    rw [List.foldlM_cons]
    exact wp_bind ((hstep a as b s h).mono (fun b s h => ih h) (fun _ _ h => h) fun _ h => h)

/-! ## Runs without faults -/

/-- No fault at all. -/
def Healthy (f : Option (Fault ε)) : Prop := f = none

/-- Some fault is allowed. -/
def Faulty (allowed : Option (Fault ε) → Prop) : Prop := ∃ f, allowed (some f)

theorem not_faulty_healthy : ¬Faulty (Healthy (ε := ε)) := by
  rintro ⟨f, hf⟩
  cases hf

/-- **A process that fails only under faults succeeds without them.** -/
theorem wp.succeeds {p : Process σ ε α} {Q : Post σ ε α} (h : wp Healthy p Q s)
    (hfailed : ∀ e s', Q.failed e s' → Faulty (Healthy (ε := ε)))
    (hcrashed : ∀ s', Q.crashed s' → Faulty (Healthy (ε := ε))) :
    ∃ a s' faults, p s [] = .done a s' faults ∧ Q.done a s' := by
  have hp := h [] nofun
  cases hrun : p s [] with
  | done a s' faults =>
    rw [hrun] at hp
    exact ⟨a, s', faults, rfl, hp.1⟩
  | failed e s' faults =>
    rw [hrun] at hp
    exact absurd (hfailed e s' hp.1) not_faulty_healthy
  | crashed s' =>
    rw [hrun] at hp
    exact absurd (hcrashed s' hp) not_faulty_healthy

end Process
