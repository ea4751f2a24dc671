import Mathlib
import Solvent.Framework.Program

/-! # Programs that keep to a protocol

    A protocol says what a program may ask next, from what it has seen so far.
    A program obeys it when each of its queries is permitted, whatever it is
    answered. That is a fact about the program alone: it holds in every
    interleaving, and invariants of the shared state are then proved of the
    protocol and not of the programs.

    `track` puts programs in a pool together with what they have seen.
    `concurrent` is the rule for every interleaving, `alone` the rule for runs in
    which one program runs at a time.
-/

open Interleave

/-- `permits` a query after `τ` was seen, `answers` that may come, and what has
    been seen then. -/
structure Protocol (Q : Type) (A : Q → Type) (τ : Type) where
  permits : τ → Q → Prop
  answers : τ → (q : Q) → A q → Prop
  next : τ → (q : Q) → A q → τ

namespace Protocol

variable {Q : Type} {A : Q → Type} {τ α β σ ρ ε : Type} (P : Protocol Q A τ)

/-- The program keeps to the protocol after `t`, and returns as `Ψ` says. -/
def Obeys : Program Q A α → (α → τ → Prop) → τ → Prop
  | .ret a, Ψ, t => Ψ a t
  | .ask q k, Ψ, t => P.permits t q ∧ ∀ a, P.answers t q a → Obeys (k a) Ψ (P.next t q a)

theorem obeys_mono {p : Program Q A α} {Ψ Ψ' : α → τ → Prop} (h : ∀ a t, Ψ a t → Ψ' a t) {t : τ}
    (hp : P.Obeys p Ψ t) : P.Obeys p Ψ' t := by
  induction p generalizing t with
  | ret a => exact h a t hp
  | ask q k ih => exact ⟨hp.1, fun a ha => ih a (hp.2 a ha)⟩

/-- **Sequence rule.** -/
theorem obeys_bind {p : Program Q A α} {f : α → Program Q A β} {Ψ : β → τ → Prop} {t : τ}
    (hp : P.Obeys p (fun a => P.Obeys (f a) Ψ) t) : P.Obeys (p.bind f) Ψ t := by
  induction p generalizing t with
  | ret a => exact hp
  | ask q k ih => exact ⟨hp.1, fun a ha => ih a (hp.2 a ha)⟩

/-! ## Tracked programs -/

/-- What a program has seen, and the rest of it. -/
abbrev Tracked (Q : Type) (A : Q → Type) (τ : Type) : Type := τ × Program Q A Unit

/-- What is left of a tracked program after an answer. -/
def follow (t : τ) (q : Q) (k : A q → Program Q A Unit) (a : A q) : Option (Tracked Q A τ) :=
  (Environment.remaining (k a)).map fun p => (P.next t q a, p)

/-- Programs as calls that keep what they have seen. -/
def track (env : Environment Q A σ ρ ε) (start : τ) (entry : α → Program Q A Unit) :
    Machine σ α (Tracked Q A τ) ρ Unit ε where
  entry := fun a => (start, entry a)
  access := fun reads s c =>
    match c.2 with
    | .ret () => (s, none)
    | .ask q k => ((env.answer reads q s).2, P.follow c.1 q k (env.answer reads q s).1)
  restart := fun _ s => s
  outside := env.outside

/-- What the programs do does not depend on what they are said to have seen. -/
theorem track_run (env : Environment Q A σ ρ ε) (start : τ) (entry : α → Program Q A Unit) (s : σ)
    (actions : List (Action α ρ Unit ε)) :
    Run.run (env.machine entry).next (Machine.initial s) actions =
      (Run.run (P.track env start entry).next (Machine.initial s) actions).map Prod.snd := by
  have haccess : ∀ reads s (c : Tracked Q A τ), (env.machine entry).access reads s c.2 =
      (((P.track env start entry).access reads s c).1,
        ((P.track env start entry).access reads s c).2.map Prod.snd) := by
    intro reads s c
    obtain ⟨t, p⟩ := c
    match p with
    | .ret () => rfl
    | .ask q k =>
      simp [track, follow, Environment.machine, Environment.access, Function.comp_def]
  exact Machine.run_map (m := P.track env start entry) (fun _ => rfl) haccess rfl rfl
    (Machine.initial s) actions

/-- What a program that has asked goes on with, or that it is done. -/
theorem follow_cases {ends : τ → Prop} {t : τ} {q : Q} {k : A q → Program Q A Unit} {a : A q}
    (hk : P.Obeys (k a) (fun _ t => ends t) (P.next t q a)) :
    (P.follow t q k a = none ∧ ends (P.next t q a)) ∨
      ∃ p, P.follow t q k a = some (P.next t q a, p) ∧
        P.Obeys p (fun _ t => ends t) (P.next t q a) := by
  unfold follow
  match hp : k a with
  | .ret () =>
    rw [hp] at hk
    exact .inl ⟨rfl, hk⟩
  | .ask q' k' =>
    rw [hp] at hk
    exact .inr ⟨_, rfl, hk⟩

section Rules

variable {P} {env : Environment Q A σ ρ ε} {start : τ} {entry : α → Program Q A Unit}
variable {ends : τ → Prop} {inv : σ → Prop} {local_inv : σ → τ → Prop}
variable {condition : ρ → Q → τ → σ → Prop}

/-- What one access may assume: the condition of the query about to be asked. -/
def Meets (condition : ρ → Q → τ → σ → Prop) (w : World σ (Tracked Q A τ)) :
    Action α ρ Unit ε → Prop
  | .access i reads => ∀ c, w.At i c → ∀ q ∈ c.2.asking, condition reads q c.1 w.shared
  | _ => True

instance [∀ reads q t s, Decidable (condition reads q t s)] (w : World σ (Tracked Q A τ))
    (a : Action α ρ Unit ε) : Decidable (Meets condition w a) :=
  match a with
  | .access i reads => inferInstanceAs
      (Decidable (∀ c : Tracked Q A τ, w.At i c →
        ∀ q ∈ c.2.asking, condition reads q c.1 w.shared))
  | .start _ | .stop _ | .crash _ | .outside _ => inferInstanceAs (Decidable True)

theorem meets_mono {condition' : ρ → Q → τ → σ → Prop}
    (h : ∀ reads q t s, condition reads q t s → condition' reads q t s)
    (w : World σ (Tracked Q A τ)) (a : Action α ρ Unit ε) (ha : Meets condition w a) :
    Meets condition' w a := by
  match a with
  | .access i reads => exact fun c hat q hq => h reads q c.1 w.shared (ha c hat q hq)
  | .start _ | .stop _ | .crash _ | .outside _ => trivial

theorem meets_and {condition' : ρ → Q → τ → σ → Prop} (w : World σ (Tracked Q A τ))
    (a : Action α ρ Unit ε) (ha : Meets condition w a) (ha' : Meets condition' w a) :
    Meets (fun reads q t s => condition reads q t s ∧ condition' reads q t s) w a := by
  match a with
  | .access i reads => exact fun c hat q hq => ⟨ha c hat q hq, ha' c hat q hq⟩
  | .start _ | .stop _ | .crash _ | .outside _ => trivial

/-- The shared state is as `inv` says, and every call in progress keeps to the
    protocol in it. -/
def Pool (P : Protocol Q A τ) (ends : τ → Prop) (inv : σ → Prop) (local_inv : σ → τ → Prop)
    (w : World σ (Tracked Q A τ)) : Prop :=
  inv w.shared ∧ ∀ i c, w.At i c → local_inv w.shared c.1 ∧ P.Obeys c.2 (fun _ t => ends t) c.1

section Concurrent

variable (hentry : ∀ a, P.Obeys (entry a) (fun _ t => ends t) start)
variable (hstart : ∀ s, inv s → local_inv s start)
variable (hstep : ∀ reads q t s, inv s → local_inv s t → P.permits t q → condition reads q t s →
  P.answers t q (env.answer reads q s).1 ∧ inv (env.answer reads q s).2 ∧
    local_inv (env.answer reads q s).2 (P.next t q (env.answer reads q s).1) ∧
    ∀ u, local_inv s u → local_inv (env.answer reads q s).2 u)
variable (houtside : ∀ event s, inv s → inv (env.outside event s) ∧
  ∀ u, local_inv s u → local_inv (env.outside event s) u)

include hentry hstart hstep houtside

/-- **Step lemma** of the rule for every interleaving. -/
theorem pool_next (w : World σ (Tracked Q A τ)) (a : Action α ρ Unit ε)
    (hw : Pool P ends inv local_inv w) (ha : Meets condition w a) :
    Pool P ends inv local_inv ((P.track env start entry).next w a) := by
  refine Machine.keeps (P.track env start entry) (P := Pool P ends inv local_inv)
    (Q := Meets condition) ?_ ?_ ?_ ?_ ?_ w a hw ha
  · intro w a hw _
    refine ⟨hw.1, ?_⟩
    intro i c hat
    rcases World.at_append.mp hat with hold | ⟨_, rfl⟩
    · exact hw.2 i c hold
    · exact ⟨hstart w.shared hw.1, hentry a⟩
  · intro w w' i reads c hw hmeets hat hshared hmoved
    obtain ⟨hlocal, hobeys⟩ := hw.2 i c hat
    obtain ⟨t, p⟩ := c
    match p with
    | .ret () =>
      have hs : w'.shared = w.shared := hshared
      refine ⟨by rw [hs]; exact hw.1, ?_⟩
      intro j c' hat'
      by_cases hj : j = i
      · rw [hj] at hat'
        exact absurd ((hmoved.moved c').mp hat') (by simp [track])
      · rw [hs]
        exact hw.2 j c' ((hmoved.others j c' hj).mp hat')
    | .ask q k =>
      -- The call that moved goes on from the answer; the others see a step of it.
      obtain ⟨hanswers, hinv, hnext, hothers⟩ :=
        hstep reads q t w.shared hw.1 hlocal hobeys.1 (hmeets _ hat q rfl)
      have hs : w'.shared = (env.answer reads q w.shared).2 := hshared
      rw [Pool, hs]
      refine ⟨hinv, ?_⟩
      intro j c' hat'
      by_cases hj : j = i
      · rw [hj] at hat'
        have hsome : P.follow t q k (env.answer reads q w.shared).1 = some c' :=
          (hmoved.moved c').mp hat'
        rcases P.follow_cases (hobeys.2 _ hanswers) with ⟨hnone, _⟩ | ⟨p, hp, hobeys'⟩
        · rw [hnone] at hsome
          cases hsome
        · rw [hp] at hsome
          obtain rfl := Option.some.inj hsome
          exact ⟨hnext, hobeys'⟩
      · obtain ⟨hlocal', hobeys'⟩ := hw.2 j c' ((hmoved.others j c' hj).mp hat')
        exact ⟨hothers _ hlocal', hobeys'⟩
  · intro w w' i c hw _ _ hshared hmoved
    rw [Pool, hshared]
    refine ⟨hw.1, ?_⟩
    intro j c' hat'
    by_cases hj : j = i
    · rw [hj] at hat'
      cases (hmoved.moved c').mp hat'
    · exact hw.2 j c' ((hmoved.others j c' hj).mp hat')
  · intro w reads hw _
    exact ⟨hw.1, fun i c hat => absurd hat World.not_at_nil⟩
  · intro w event hw _
    obtain ⟨hinv, hlocal⟩ := houtside event w.shared hw.1
    refine ⟨hinv, ?_⟩
    intro i c hat
    obtain ⟨hc, hobeys⟩ := hw.2 i c hat
    exact ⟨hlocal _ hc, hobeys⟩

/-- **Run rule for every interleaving.** -/
theorem concurrent {s : σ} (hs : inv s) {actions : List (Action α ρ Unit ε)}
    (hmeets : Run.Along (P.track env start entry).next (Meets condition) (Machine.initial s)
      actions) :
    inv (Run.run (P.track env start entry).next (Machine.initial s) actions).shared := by
  have hinit : Pool P ends inv local_inv (Machine.initial s) :=
    ⟨hs, fun i c hat => absurd hat World.not_at_nil⟩
  have hpool : Pool P ends inv local_inv
      (Run.run (P.track env start entry).next (Machine.initial s) actions) :=
    Run.invariant (P := Pool P ends inv local_inv) (Q := Meets condition)
      (pool_next hentry hstart hstep houtside) hinit hmeets
  exact hpool.1

end Concurrent

end Rules

/-! ## One program at a time -/

section Alone

variable {P} {env : Environment Q A σ ρ ε} {start : τ} {entry : α → Program Q A Unit}
variable {ends : τ → Prop} {inv : σ → Prop} {local_inv : σ → τ → Prop}
variable {condition : ρ → Q → σ → Prop} {stops : Prop}

/-- A program starts when none is in progress, and is cut short only where
    `stops`. -/
def Orderly (condition : ρ → Q → σ → Prop) (stops : Prop) (w : World σ (Program Q A Unit)) :
    Action α ρ Unit ε → Prop
  | .start _ => w.Idle
  | .access i reads => ∀ p, w.At i p → ∀ q ∈ p.asking, condition reads q w.shared
  | .stop _ | .crash _ => stops
  | .outside _ => True

instance [Decidable stops] [∀ reads q s, Decidable (condition reads q s)]
    (w : World σ (Program Q A Unit)) (a : Action α ρ Unit ε) :
    Decidable (Orderly condition stops w a) :=
  match a with
  | .start _ => inferInstanceAs (Decidable w.Idle)
  | .access i reads => inferInstanceAs
      (Decidable (∀ p, w.At i p → ∀ q ∈ p.asking, condition reads q w.shared))
  | .stop _ | .crash _ => inferInstanceAs (Decidable stops)
  | .outside _ => inferInstanceAs (Decidable True)

variable (hentry : ∀ a, P.Obeys (entry a) (fun _ t => ends t) start)
variable (hstart : ∀ s, inv s → local_inv s start)
variable (hstep : ∀ reads q t s, local_inv s t → P.permits t q → condition reads q s →
  P.answers t q (env.answer reads q s).1 ∧
    local_inv (env.answer reads q s).2 (P.next t q (env.answer reads q s).1))
variable (hend : ∀ s t, local_inv s t → ends t → inv s)
variable (hstop : stops → ∀ s t, local_inv s t → inv s)
variable (hinv : env.Stable inv) (hlocal : ∀ t, env.Stable fun s => local_inv s t)

include hentry hstart hstep hend hstop hinv hlocal

/-- **Run rule for one program at a time.** The state is as `inv` says, or as a
    call in progress needs it. -/
theorem alone {s : σ} (hs : inv s) {actions : List (Action α ρ Unit ε)}
    (horderly : Run.Along (env.machine entry).next (Orderly condition stops)
      (Machine.initial s) actions) :
    let w := Run.run (env.machine entry).next (Machine.initial s) actions
    inv w.shared ∨ ∃ t, local_inv w.shared t := by
  intro w
  -- What the call in progress has seen is not part of the machine: there is some
  -- such thing, and the rest of the program keeps to the protocol after it.
  let busy : σ → Program Q A Unit → Prop := fun s p =>
    ∃ t, local_inv s t ∧ P.Obeys p (fun _ t => ends t) t
  have hsingle : Machine.Single inv busy w := by
    refine (env.machine entry).single_run (Q := Orderly condition stops)
      (fun _ _ h => h) (fun a s hs => ⟨start, hstart s hs, hentry a⟩) ?_
      (fun _ _ _ hstops _ ⟨t, hc, _⟩ => hstop hstops _ t hc)
      (fun _ _ _ _ hstops _ ⟨t, hc, _⟩ => hstop hstops _ t hc) (fun _ _ hs => hs) hinv
      (fun event s p ⟨t, hc, hp⟩ => ⟨t, hlocal t event s hc, hp⟩) hs horderly
    intro w i reads p hmeets hat ⟨t, hc, hp⟩
    match p with
    | .ret () =>
      refine ⟨fun _ => hend _ t hc hp, ?_⟩
      intro d hd
      cases hd
    | .ask q k =>
      obtain ⟨hanswers, hnext⟩ := hstep reads q t w.shared hc hp.1 (hmeets _ hat q rfl)
      have hk := hp.2 _ hanswers
      show (Environment.remaining (k (env.answer reads q w.shared).1) = none → inv _) ∧
        ∀ p, Environment.remaining (k (env.answer reads q w.shared).1) = some p → _
      match hrest : k (env.answer reads q w.shared).1 with
      | .ret () =>
        rw [hrest] at hk
        refine ⟨fun _ => hend _ _ hnext hk, ?_⟩
        intro d hd
        cases hd
      | .ask q' k' =>
        rw [hrest] at hk
        refine ⟨(fun hnone => nomatch hnone), ?_⟩
        intro d hd
        obtain rfl := Option.some.inj hd
        exact ⟨_, hnext, hk⟩
  rcases hsingle with ⟨_, hidle⟩ | ⟨i, p, _, t, hc, _⟩
  · exact .inl hidle
  · exact .inr ⟨t, hc⟩

end Alone

end Protocol
