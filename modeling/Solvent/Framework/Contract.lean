import Mathlib

/-! # Calls that revert

    A contract call either succeeds with a result or reverts with an error and
    changes nothing. `require` is the guard every check of a contract goes
    through; a call that succeeds has passed each of its guards, in order, which
    is what the lemmas here read off.
-/

namespace Contract

variable {ε α β : Type}

/-- Revert unless `p` holds. -/
def require (p : Prop) [Decidable p] (e : ε) : Except ε Unit :=
  if p then .ok () else .error e

/-- The value, or a revert where there is none. -/
def expect (x : Option α) (e : ε) : Except ε α :=
  match x with
  | some a => .ok a
  | none => .error e

@[simp] theorem require_eq_ok {p : Prop} [Decidable p] {e : ε} {u : Unit} :
    require p e = .ok u ↔ p := by
  unfold require
  split <;> simp_all

@[simp] theorem expect_eq_ok {x : Option α} {e : ε} {a : α} : expect x e = .ok a ↔ x = some a := by
  cases x <;> simp [expect]

/-- **Guard rule.** What follows a guard runs only past it. -/
theorem require_bind {p : Prop} [Decidable p] {e : ε} {f : Unit → Except ε β} {b : β} :
    (require p e >>= f) = .ok b ↔ p ∧ f () = .ok b := by
  unfold require
  split <;> simp_all [bind, Except.bind]

theorem expect_bind {x : Option α} {e : ε} {f : α → Except ε β} {b : β} :
    (expect x e >>= f) = .ok b ↔ ∃ a, x = some a ∧ f a = .ok b := by
  cases x <;> simp [expect, bind, Except.bind]

theorem require_of {p : Prop} [Decidable p] (h : p) (e : ε) : require p e = .ok () :=
  if_pos h

/-- What follows a guard that passes. -/
theorem pass_bind {p : Prop} [Decidable p] (h : p) (e : ε) (f : Unit → Except ε β) :
    (require p e >>= f) = f () := by
  rw [require_of h]
  rfl

@[simp] theorem expect_some_bind (a : α) (e : ε) (f : α → Except ε β) :
    (expect (some a) e >>= f) = f a := rfl

/-- **Blame rule.** A guarded call reverts with its guard's error where the guard
    fails, and with what follows where it passes. -/
theorem require_bind_error {p : Prop} [Decidable p] {e e' : ε} {f : Unit → Except ε β} :
    (require p e >>= f) = .error e' ↔ (¬p ∧ e = e') ∨ (p ∧ f () = .error e') := by
  unfold require
  split <;> simp_all [bind, Except.bind]

theorem require_eq_error {p : Prop} [Decidable p] {e e' : ε} :
    require p e = .error e' ↔ ¬p ∧ e = e' := by
  unfold require
  split <;> simp_all

theorem expect_bind_error {x : Option α} {e e' : ε} {f : α → Except ε β} :
    (expect x e >>= f) = .error e' ↔
      (x = none ∧ e = e') ∨ ∃ a, x = some a ∧ f a = .error e' := by
  cases x <;> simp [expect, bind, Except.bind]

/-- **Sequence rule.** -/
theorem bind_eq_ok {x : Except ε α} {f : α → Except ε β} {b : β} :
    (x >>= f) = .ok b ↔ ∃ a, x = .ok a ∧ f a = .ok b := by
  cases x <;> simp [bind, Except.bind]

theorem bind_eq_error {x : Except ε α} {f : α → Except ε β} {e : ε} :
    (x >>= f) = .error e ↔ x = .error e ∨ ∃ a, x = .ok a ∧ f a = .error e := by
  cases x <;> simp [bind, Except.bind]

/-- What follows a check that returns nothing. -/
theorem check_bind {x : Except ε Unit} {f : Unit → Except ε β} {b : β} :
    (x >>= f) = .ok b ↔ x = .ok () ∧ f () = .ok b := by
  cases x <;> simp [bind, Except.bind]

theorem check_bind_error {x : Except ε Unit} {f : Unit → Except ε β} {e : ε} :
    (x >>= f) = .error e ↔ x = .error e ∨ (x = .ok () ∧ f () = .error e) := by
  cases x <;> simp [bind, Except.bind]

/-- A call to another contract whose error is seen through `f`. -/
def bubble {ε' : Type} (f : ε → ε') : Except ε α → Except ε' α
  | .ok a => .ok a
  | .error e => .error (f e)

@[simp] theorem bubble_eq_ok {ε' : Type} {f : ε → ε'} {x : Except ε α} {a : α} :
    bubble f x = .ok a ↔ x = .ok a := by
  cases x <;> simp [bubble]

theorem bubble_bind {ε' : Type} {g : ε → ε'} {x : Except ε α} {f : α → Except ε' β} {b : β} :
    (bubble g x >>= f) = .ok b ↔ ∃ a, x = .ok a ∧ f a = .ok b := by
  cases x <;> simp [bubble, bind, Except.bind]

theorem bubble_bind_error {ε' : Type} {g : ε → ε'} {x : Except ε α} {f : α → Except ε' β}
    {e' : ε'} :
    (bubble g x >>= f) = .error e' ↔
      (∃ e, x = .error e ∧ g e = e') ∨ ∃ a, x = .ok a ∧ f a = .error e' := by
  cases x <;> simp [bubble, bind, Except.bind]

/-- A call that reverts changes nothing. -/
def attempt {σ : Type} (call : σ → Except ε σ) (s : σ) : σ :=
  match call s with
  | .ok s' => s'
  | .error _ => s

theorem attempt_ok {σ : Type} {call : σ → Except ε σ} {s s' : σ} (h : call s = .ok s') :
    attempt call s = s' := by
  unfold attempt
  rw [h]

theorem attempt_cases {σ : Type} (call : σ → Except ε σ) (s : σ) :
    (∃ s', call s = .ok s' ∧ attempt call s = s') ∨ attempt call s = s := by
  unfold attempt
  split
  · rename_i s' h
    exact .inl ⟨s', h, rfl⟩
  · exact .inr rfl

/-- **Frame rule.** What a call that succeeds keeps, an attempt keeps. -/
theorem attempt_keeps {σ : Type} {P : σ → Prop} {call : σ → Except ε σ} {s : σ} (hs : P s)
    (hcall : ∀ s', call s = .ok s' → P s') : P (attempt call s) := by
  rcases attempt_cases call s with ⟨s', hok, heq⟩ | heq
  · rw [heq]
    exact hcall s' hok
  · rwa [heq]

end Contract
