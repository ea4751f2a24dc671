import Mathlib
import Solvent.Framework.Interleave

/-! # Programs that ask

    A program asks one query at a time and goes on with the answer. The same
    program can be run against a state that answers at once (`run`), have its
    queries refined into programs of smaller queries (`interpret`), or be put in
    a pool of calls that interleave (`Environment.machine`).

    For the last, `wp` is a weakest precondition under interference: it holds of
    a state where, whatever else changes the state before each query and
    whatever is answered, the state meets `point` at every query and the
    postcondition at the end. `sound` is the rule for whole runs in which one
    program runs at a time.
-/

inductive Program (Q : Type) (A : Q → Type) (α : Type) where
  | ret (a : α)
  | ask (q : Q) (k : A q → Program Q A α)

namespace Program

variable {Q Q' : Type} {A : Q → Type} {A' : Q' → Type} {α β γ σ : Type}

def bind : Program Q A α → (α → Program Q A β) → Program Q A β
  | ret a, f => f a
  | ask q k, f => ask q fun a => (k a).bind f

instance : Monad (Program Q A) where
  pure := ret
  bind := bind

/-- One query. -/
def query (q : Q) : Program Q A (A q) := ask q ret

@[simp] theorem pure_eq (a : α) : (pure a : Program Q A α) = ret a := rfl

@[simp] theorem bind_eq (p : Program Q A α) (f : α → Program Q A β) : p >>= f = p.bind f := rfl

@[simp] theorem ret_bind (a : α) (f : α → Program Q A β) : (ret a).bind f = f a := rfl

@[simp] theorem ask_bind (q : Q) (k : A q → Program Q A α) (f : α → Program Q A β) :
    (ask q k).bind f = ask q fun a => (k a).bind f := rfl

@[simp] theorem query_bind (q : Q) (f : A q → Program Q A β) :
    (query (A := A) q).bind f = ask q f := rfl

theorem bind_assoc (p : Program Q A α) (f : α → Program Q A β) (g : β → Program Q A γ) :
    (p.bind f).bind g = p.bind fun a => (f a).bind g := by
  induction p with
  | ret a => rfl
  | ask q k ih => exact congrArg (ask q) (funext ih)

/-- The query the program asks next. -/
def asking : Program Q A α → Option Q
  | ret _ => none
  | ask q _ => some q

/-! ## Running alone -/

/-- Run against a state that answers each query at once. -/
def run (answer : (q : Q) → σ → A q × σ) : Program Q A α → σ → α × σ
  | ret a, s => (a, s)
  | ask q k, s => (k (answer q s).1).run answer (answer q s).2

@[simp] theorem run_ret (answer : (q : Q) → σ → A q × σ) (a : α) (s : σ) :
    (ret a : Program Q A α).run answer s = (a, s) := rfl

@[simp] theorem run_ask (answer : (q : Q) → σ → A q × σ) (q : Q) (k : A q → Program Q A α)
    (s : σ) : (ask q k).run answer s = (k (answer q s).1).run answer (answer q s).2 := rfl

theorem run_bind (answer : (q : Q) → σ → A q × σ) (p : Program Q A α) (f : α → Program Q A β)
    (s : σ) :
    (p.bind f).run answer s = (f (p.run answer s).1).run answer (p.run answer s).2 := by
  induction p generalizing s with
  | ret a => rfl
  | ask q k ih => exact ih _ _

/-! ## Refining the queries -/

/-- Answer each query by a program of smaller queries. -/
def interpret (f : (q : Q) → Program Q' A' (A q)) : Program Q A α → Program Q' A' α
  | ret a => ret a
  | ask q k => (f q).bind fun a => (k a).interpret f

/-- Answer each query by a program that may give up; the whole gives up with it. -/
def attempt (f : (q : Q) → Program Q' A' (Option (A q))) :
    Program Q A α → Program Q' A' (Option α)
  | ret a => ret (some a)
  | ask q k => (f q).bind fun answer => answer.elim (ret none) fun a => (k a).attempt f

theorem interpret_bind (f : (q : Q) → Program Q' A' (A q)) (p : Program Q A α)
    (g : α → Program Q A β) :
    (p.bind g).interpret f = (p.interpret f).bind fun a => (g a).interpret f := by
  induction p with
  | ret a => rfl
  | ask q k ih =>
    show (f q).bind (fun a => ((k a).bind g).interpret f) =
      ((f q).bind fun a => (k a).interpret f).bind fun a => (g a).interpret f
    rw [bind_assoc]
    exact congrArg (f q).bind (funext ih)

theorem attempt_bind (f : (q : Q) → Program Q' A' (Option (A q))) (p : Program Q A α)
    (g : α → Program Q A β) :
    (p.bind g).attempt f =
      (p.attempt f).bind fun answer => answer.elim (ret none) fun a => (g a).attempt f := by
  induction p with
  | ret a => rfl
  | ask q k ih =>
    simp only [ask_bind, attempt, bind_assoc]
    apply congrArg (f q).bind
    funext answer
    match answer with
    | none => rfl
    | some a => exact ih a

/-- Refining and then running is running against the refined answers. -/
theorem run_interpret (answer : (q : Q') → σ → A' q × σ) (f : (q : Q) → Program Q' A' (A q))
    (p : Program Q A α) (s : σ) :
    (p.interpret f).run answer s = p.run (fun q s => (f q).run answer s) s := by
  induction p generalizing s with
  | ret a => rfl
  | ask q k ih =>
    show ((f q).bind fun a => (k a).interpret f).run answer s = _
    rw [run_bind]
    exact ih _ _

/-- Where no refinement gives up, the whole does not. -/
theorem run_attempt {answer : (q : Q') → σ → A' q × σ}
    {f : (q : Q) → Program Q' A' (Option (A q))} {inner : (q : Q) → σ → A q × σ}
    (h : ∀ q s, (f q).run answer s = (some (inner q s).1, (inner q s).2)) (p : Program Q A α)
    (s : σ) : (p.attempt f).run answer s = (some (p.run inner s).1, (p.run inner s).2) := by
  induction p generalizing s with
  | ret a => rfl
  | ask q k ih =>
    show ((f q).bind fun answer => answer.elim (ret none) fun a => (k a).attempt f).run answer s = _
    rw [run_bind, h]
    exact ih _ _

/-- Answers that only look at a part of the state run on that part. -/
theorem run_part {τ : Type} {get : σ → τ} {put : σ → τ → σ} (hget : ∀ s t, get (put s t) = t)
    (hput : ∀ s t t', put (put s t) t' = put s t') (hself : ∀ s, put s (get s) = s)
    {part : (q : Q) → τ → A q × τ} {whole : (q : Q) → σ → A q × σ}
    (h : ∀ q s, whole q s = ((part q (get s)).1, put s (part q (get s)).2)) (p : Program Q A α)
    (s : σ) : p.run whole s = ((p.run part (get s)).1, put s (p.run part (get s)).2) := by
  induction p generalizing s with
  | ret a => simp [hself]
  | ask q k ih => simp [h, ih, hget, hput]

/-! ## Every query -/

/-- Every query the program can ask satisfies `P`. -/
def All (P : Q → Prop) : Program Q A α → Prop
  | ret _ => True
  | ask q k => P q ∧ ∀ a, (k a).All P

@[simp] theorem all_ret (P : Q → Prop) (a : α) : (ret a : Program Q A α).All P := trivial

theorem all_bind {P : Q → Prop} {p : Program Q A α} {f : α → Program Q A β} (hp : p.All P)
    (hf : ∀ a, (f a).All P) : (p.bind f).All P := by
  induction p with
  | ret a => exact hf a
  | ask q k ih => exact ⟨hp.1, fun a => ih a (hp.2 a)⟩

theorem all_of_forall {P : Q → Prop} (h : ∀ q, P q) (p : Program Q A α) : p.All P := by
  induction p with
  | ret a => trivial
  | ask q k ih => exact ⟨h q, ih⟩

theorem All.mono {P P' : Q → Prop} (h : ∀ q, P q → P' q) {p : Program Q A α} (hp : p.All P) :
    p.All P' := by
  induction p with
  | ret a => trivial
  | ask q k ih => exact ⟨h q hp.1, fun a => ih a (hp.2 a)⟩

/-! ## Programs that fail -/

variable {E : Type}

/-- A failure ends the sequence. -/
theorem except_bind (x : ExceptT E (Program Q A) α) (f : α → ExceptT E (Program Q A) β) :
    (x >>= f).run = x.run.bind fun
      | .ok a => (f a).run
      | .error e => ret (.error e) := by
  show x.run.bind _ = x.run.bind _
  apply congrArg x.run.bind
  funext answer
  match answer with
  | .ok a => rfl
  | .error e => rfl

/-- Go on from the outcome of a run that did not fail. -/
def thread (outcome : Except E α × σ) (f : α → σ → Except E β × σ) : Except E β × σ :=
  match outcome with
  | (.ok a, s) => f a s
  | (.error e, s) => (.error e, s)

@[simp] theorem thread_ok (a : α) (s : σ) (f : α → σ → Except E β × σ) :
    thread (.ok a, s) f = f a s := rfl

@[simp] theorem thread_error (e : E) (s : σ) (f : α → σ → Except E β × σ) :
    thread (.error e, s) f = (.error e, s) := rfl

theorem run_except_bind (answer : (q : Q) → σ → A q × σ) (x : ExceptT E (Program Q A) α)
    (f : α → ExceptT E (Program Q A) β) (s : σ) :
    (x >>= f).run.run answer s =
      thread (x.run.run answer s) fun a s => (f a).run.run answer s := by
  rw [except_bind, run_bind]
  match x.run.run answer s with
  | (.ok a, s) => rfl
  | (.error e, s) => rfl

theorem all_except_bind {P : Q → Prop} {x : ExceptT E (Program Q A) α}
    {f : α → ExceptT E (Program Q A) β} (hx : x.run.All P) (hf : ∀ a, (f a).run.All P) :
    (x >>= f).run.All P := by
  rw [except_bind]
  apply all_bind hx
  intro answer
  match answer with
  | .ok a => exact hf a
  | .error e => trivial

end Program

/-! ## Interleaving -/

open Interleave

/-- What the programs talk to: how a query is answered from the shared state and
    from what is read outside, and what else changes the state. -/
structure Environment (Q : Type) (A : Q → Type) (σ ρ ε : Type) where
  answer : ρ → (q : Q) → σ → A q × σ
  outside : ε → σ → σ

namespace Environment

variable {Q : Type} {A : Q → Type} {α β σ ρ ε : Type}

/-- A program that has returned leaves the pool. -/
def remaining : Program Q A Unit → Option (Program Q A Unit)
  | .ret () => none
  | .ask q k => some (.ask q k)

def access (env : Environment Q A σ ρ ε) (reads : ρ) (s : σ) :
    Program Q A Unit → σ × Option (Program Q A Unit)
  | .ret () => (s, none)
  | .ask q k => ((env.answer reads q s).2, remaining (k (env.answer reads q s).1))

/-- The programs as calls of an interleaved machine. A crash loses the programs
    and nothing of the state they share. -/
def machine (env : Environment Q A σ ρ ε) (entry : α → Program Q A Unit) :
    Machine σ α (Program Q A Unit) ρ Unit ε where
  entry := entry
  access := env.access
  restart := fun _ s => s
  outside := env.outside

/-- Any number of outside events. -/
def drift (env : Environment Q A σ ρ ε) (s : σ) (events : List ε) : σ :=
  Run.run (fun s event => env.outside event s) s events

/-- A property that no outside event can end. -/
def Stable (env : Environment Q A σ ρ ε) (Φ : σ → Prop) : Prop :=
  ∀ event s, Φ s → Φ (env.outside event s)

theorem Stable.drift {env : Environment Q A σ ρ ε} {Φ : σ → Prop} (h : env.Stable Φ) {s : σ}
    (hs : Φ s) (events : List ε) : Φ (env.drift s events) :=
  Run.invariant (P := Φ) (Q := fun _ _ => True) (fun s event hs _ => h event s hs) hs
    (Run.along_of_forall (fun _ _ _ => trivial) s)

theorem Stable.and {env : Environment Q A σ ρ ε} {Φ Ψ : σ → Prop} (hΦ : env.Stable Φ)
    (hΨ : env.Stable Ψ) : env.Stable fun s => Φ s ∧ Ψ s :=
  fun event s h => ⟨hΦ event s h.1, hΨ event s h.2⟩

end Environment

/-- An environment with the terms programs run on: the reads a query may be
    answered with, what holds whenever a query is about to be asked, and the
    queries no program may stop at. -/
structure Terms (Q : Type) (A : Q → Type) (σ ρ ε : Type) extends Environment Q A σ ρ ε where
  allowed : Q → ρ → Prop
  point : Q → σ → Prop
  critical : Q → Prop

namespace Terms

variable {Q : Type} {A : Q → Type} {α β σ ρ ε : Type} (t : Terms Q A σ ρ ε)

/-- **Weakest precondition under interference.** -/
def wp : Program Q A α → (α → σ → Prop) → σ → Prop
  | .ret a, Ψ, s => Ψ a s
  | .ask q k, Ψ, s => ∀ events,
    t.point q (t.drift s events) ∧ ∀ reads, t.allowed q reads →
      wp (k (t.answer reads q (t.drift s events)).1) Ψ (t.answer reads q (t.drift s events)).2

theorem wp_mono {p : Program Q A α} {Ψ Ψ' : α → σ → Prop} (h : ∀ a s, Ψ a s → Ψ' a s) {s : σ}
    (hp : t.wp p Ψ s) : t.wp p Ψ' s := by
  induction p generalizing s with
  | ret a => exact h a s hp
  | ask q k ih =>
    intro events
    obtain ⟨hpoint, hreads⟩ := hp events
    exact ⟨hpoint, fun reads hallowed => ih _ (hreads reads hallowed)⟩

/-- **Sequence rule.** -/
theorem wp_bind {p : Program Q A α} {f : α → Program Q A β} {Ψ : β → σ → Prop} {s : σ}
    (hp : t.wp p (fun a => t.wp (f a) Ψ) s) : t.wp (p.bind f) Ψ s := by
  induction p generalizing s with
  | ret a => exact hp
  | ask q k ih =>
    intro events
    obtain ⟨hpoint, hreads⟩ := hp events
    exact ⟨hpoint, fun reads hallowed => ih _ (hreads reads hallowed)⟩

/-- **Query rule.** What holds before a query holds stably and gives its point. -/
theorem wp_ask {q : Q} {k : A q → Program Q A α} {Ψ : α → σ → Prop} {Φ : σ → Prop}
    (hstable : t.Stable Φ) (hpoint : ∀ s, Φ s → t.point q s)
    (hanswer : ∀ reads s, Φ s → t.allowed q reads →
      t.wp (k (t.answer reads q s).1) Ψ (t.answer reads q s).2)
    {s : σ} (hs : Φ s) : t.wp (.ask q k) Ψ s := by
  intro events
  have hdrift := hstable.drift hs events
  exact ⟨hpoint _ hdrift, fun reads hallowed => hanswer reads _ hdrift hallowed⟩

/-! ## Whole runs -/

/-- A program starts when none is in progress, is answered as the terms allow,
    and does not stop at a critical query. -/
def Orderly (w : World σ (Program Q A Unit)) : Action α ρ Unit ε → Prop
  | .start _ => w.Idle
  | .access i reads => ∀ p, w.At i p → ∀ q ∈ p.asking, t.allowed q reads
  | .stop i => ∀ p, w.At i p → ∀ q ∈ p.asking, ¬ t.critical q
  | .crash _ => ∀ i p, w.At i p → ∀ q ∈ Program.asking p, ¬ t.critical q
  | .outside _ => True

section Sound

variable {t} {idle : σ → Prop} (hidle : t.Stable idle)
variable (hstop : ∀ q s, t.point q s → ¬ t.critical q → idle s)

include hidle in
theorem wp_outside {p : Program Q A Unit} {s : σ} (hp : t.wp p (fun _ => idle) s) (event : ε) :
    t.wp p (fun _ => idle) (t.outside event s) := by
  match p with
  | .ret () => exact hidle event s hp
  | .ask q k => exact fun events => hp (event :: events)

include hstop in
theorem idle_of_stop {p : Program Q A Unit} {s : σ} (hp : t.wp p (fun _ => idle) s)
    (hfree : ∀ q ∈ p.asking, ¬ t.critical q) : idle s := by
  match p with
  | .ret () => exact hp
  | .ask q k => exact hstop q s (hp []).1 (hfree q rfl)

include hidle hstop in
/-- **Run rule.** In every orderly run of programs that take an idle state to an
    idle state, the state is idle, or a query is about to be asked at its point. -/
theorem sound {entry : α → Program Q A Unit}
    (hentry : ∀ a s, idle s → t.wp (entry a) (fun _ => idle) s) {s : σ} (hs : idle s)
    {actions : List (Action α ρ Unit ε)}
    (horderly : Run.Along (t.machine entry).next t.Orderly (Machine.initial s) actions) :
    let w := Run.run (t.machine entry).next (Machine.initial s) actions
    idle w.shared ∨ ∃ q, t.point q w.shared := by
  intro w
  let busy : σ → Program Q A Unit → Prop := fun s p => t.wp p (fun _ => idle) s
  have hbusy : ∀ event s p, busy s p → busy (t.outside event s) p :=
    fun event s p hp => wp_outside hidle hp event
  have hstopped : ∀ (w : World σ (Program Q A Unit)) i p, t.Orderly w (.stop i : Action α ρ Unit ε) →
      w.At i p → busy w.shared p → idle w.shared :=
    fun w i p hfree hat hp => idle_of_stop hstop hp (hfree p hat)
  have hlost : ∀ (w : World σ (Program Q A Unit)) reads i p,
      t.Orderly w (.crash reads : Action α ρ Unit ε) → w.At i p → busy w.shared p →
      idle w.shared :=
    fun w reads i p hfree hat hp => idle_of_stop hstop hp (hfree i p hat)
  have hsingle : Machine.Single idle busy w := by
    refine (t.machine entry).single_run (Q := t.Orderly) (fun _ _ h => h) hentry ?_ hstopped hlost
      (fun _ _ hs => hs) hidle hbusy hs horderly
    intro w i reads p hallowed hat hp
    match p with
    | .ret () =>
      refine ⟨fun _ => hp, ?_⟩
      intro q hq
      cases hq
    | .ask q k =>
      obtain ⟨_, hreads⟩ := hp []
      have hnext : t.wp (k (t.answer reads q w.shared).1) (fun _ => idle)
          (t.answer reads q w.shared).2 := hreads reads (hallowed _ hat q rfl)
      show (Environment.remaining (k (t.answer reads q w.shared).1) = none → idle _) ∧
        ∀ p, Environment.remaining (k (t.answer reads q w.shared).1) = some p → _
      match hk : k (t.answer reads q w.shared).1 with
      | .ret () =>
        rw [hk] at hnext
        refine ⟨fun _ => hnext, ?_⟩
        intro p hp
        cases hp
      | .ask q' k' =>
        rw [hk] at hnext
        refine ⟨(fun hdone => nomatch hdone), ?_⟩
        intro p hp
        obtain rfl := Option.some.inj hp
        exact hnext
  rcases hsingle with ⟨_, hidle'⟩ | ⟨i, p, _, hp⟩
  · exact .inl hidle'
  · match p with
    | .ret () => exact .inl hp
    | .ask q k => exact .inr ⟨q, (hp []).1⟩

end Sound

end Terms
