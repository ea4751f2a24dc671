import Mathlib

/-! # Loops and fallible computations

    A `while` loop whose body returns `none` to leave and the next state
    otherwise. `iterate step fuel` runs it for at most `fuel` rounds: with a
    measure that every round lowers, the fuel only has to cover the measure of
    the first state, and from there on more fuel changes nothing.
-/

namespace Loop

variable {σ : Type}

/-- The loop, for at most `fuel` rounds. -/
def iterate (step : σ → Option σ) : ℕ → σ → σ
  | 0, s => s
  | fuel + 1, s =>
    match step s with
    | none => s
    | some s' => iterate step fuel s'

theorem iterate_of_none {step : σ → Option σ} {s : σ} (h : step s = none) (fuel : ℕ) :
    iterate step fuel s = s := by
  cases fuel with
  | zero => rfl
  | succ fuel => simp [iterate, h]

theorem iterate_of_some {step : σ → Option σ} {s s' : σ} (h : step s = some s') (fuel : ℕ) :
    iterate step (fuel + 1) s = iterate step fuel s' := by
  simp [iterate, h]

/-- **Invariant rule.** What every round preserves holds when the loop is left,
    whatever the fuel. -/
theorem iterate_invariant {step : σ → Option σ} {P : σ → Prop}
    (hstep : ∀ s s', P s → step s = some s' → P s')
    (fuel : ℕ) {s : σ} (hs : P s) : P (iterate step fuel s) := by
  induction fuel generalizing s with
  | zero => exact hs
  | succ fuel ih =>
    cases h : step s with
    | none => rwa [iterate_of_none h]
    | some s' =>
      rw [iterate_of_some h]
      exact ih (hstep s s' hs h)

/-- **Simulation rule.** Two loops whose rounds keep their states related, and
    that leave together, end in related states. -/
theorem iterate_related {τ : Type} {step : σ → Option σ} {step' : τ → Option τ}
    {R : σ → τ → Prop} (hstep : ∀ s t, R s t → Option.Rel R (step s) (step' t)) (fuel : ℕ)
    {s : σ} {t : τ} (h : R s t) : R (iterate step fuel s) (iterate step' fuel t) := by
  induction fuel generalizing s t with
  | zero => exact h
  | succ fuel ih =>
    have hround := hstep s t h
    match hs : step s, ht : step' t, hround with
    | none, none, _ =>
      rw [iterate_of_none hs, iterate_of_none ht]
      exact h
    | some s', some t', hround =>
      rw [iterate_of_some hs, iterate_of_some ht]
      exact ih (Option.rel_some_some.mp hround)

/-- The states a round is taken from. -/
def visited (step : σ → Option σ) : ℕ → σ → List σ
  | 0, _ => []
  | fuel + 1, s =>
    match step s with
    | none => []
    | some s' => s :: visited step fuel s'

theorem visited_of_some {step : σ → Option σ} {s s' : σ} (h : step s = some s') (fuel : ℕ) :
    visited step (fuel + 1) s = s :: visited step fuel s' := by
  simp [visited, h]

/-- What every round preserves holds of every state a round is taken from. -/
theorem visited_invariant {step : σ → Option σ} {P : σ → Prop}
    (hstep : ∀ s s', P s → step s = some s' → P s') (fuel : ℕ) {s : σ} (hs : P s) :
    ∀ t ∈ visited step fuel s, P t := by
  induction fuel generalizing s with
  | zero => simp [visited]
  | succ fuel ih =>
    match h : step s with
    | none => simp [visited, h]
    | some s' =>
      intro t ht
      rw [visited_of_some h] at ht
      obtain rfl | ht := List.mem_cons.mp ht
      · exact hs
      · exact ih (hstep s s' hs h) t ht

/-- **Ordering rule.** When the rounds a run takes each go along a preorder, so
    does the run. -/
theorem iterate_ordered {step : σ → Option σ} {R : σ → σ → Prop} (hrefl : ∀ s, R s s)
    (htrans : ∀ s t u, R s t → R t u → R s u) (fuel : ℕ) {s : σ}
    (hround : ∀ t ∈ visited step fuel s, ∀ t', step t = some t' → R t t') :
    R s (iterate step fuel s) := by
  induction fuel generalizing s with
  | zero => exact hrefl s
  | succ fuel ih =>
    match h : step s with
    | none =>
      rw [iterate_of_none h]
      exact hrefl s
    | some s' =>
      rw [visited_of_some h] at hround
      rw [iterate_of_some h]
      have hfirst : R s s' := hround s List.mem_cons_self s' h
      have hrest : R s' (iterate step fuel s') :=
        ih fun t ht => hround t (List.mem_cons_of_mem _ ht)
      exact htrans _ _ _ hfirst hrest

/-- **Termination rule.** When every round from an invariant state lowers a
    measure, fuel for that measure lets the loop leave by its own test. -/
theorem iterate_exits {step : σ → Option σ} {P : σ → Prop} (measure : σ → ℕ)
    (hstep : ∀ s s', P s → step s = some s' → P s')
    (hdec : ∀ s s', P s → step s = some s' → measure s' < measure s)
    {fuel : ℕ} {s : σ} (hs : P s) (hfuel : measure s ≤ fuel) :
    step (iterate step fuel s) = none := by
  induction fuel generalizing s with
  | zero =>
    cases h : step s with
    | none => exact h
    | some s' =>
      have := hdec s s' hs h
      omega
  | succ fuel ih =>
    cases h : step s with
    | none => rwa [iterate_of_none h]
    | some s' =>
      have hlt := hdec s s' hs h
      rw [iterate_of_some h]
      exact ih (hstep s s' hs h) (by omega)

/-! ## Normal forms -/

/-- The loop goes round by round. -/
theorem reaches_iterate (step : σ → Option σ) (fuel : ℕ) (s : σ) :
    Relation.ReflTransGen (fun s s' => step s = some s') s (iterate step fuel s) := by
  induction fuel generalizing s with
  | zero => exact .refl
  | succ fuel ih =>
    match h : step s with
    | none =>
      rw [iterate_of_none h]
    | some s' =>
      rw [iterate_of_some h]
      exact .head h (ih s')

/-- A loop that exits does so in the only state rounds lead to and none leads on
    from. -/
theorem iterate_unique {step : σ → Option σ} {fuel : ℕ} {s t : σ}
    (hreach : Relation.ReflTransGen (fun s s' => step s = some s') s t) (hstop : step t = none)
    (hexit : step (iterate step fuel s) = none) : iterate step fuel s = t := by
  induction hreach using Relation.ReflTransGen.head_induction_on generalizing fuel with
  | refl => exact iterate_of_none hstop fuel
  | head hstep _ ih =>
    match fuel with
    | 0 => exact absurd (hexit.symm.trans hstep) (by simp)
    | fuel + 1 =>
      rw [iterate_of_some hstep] at hexit ⊢
      exact ih hexit

end Loop

namespace Except

variable {ε α β : Type}

/-- A bind succeeds exactly when both halves do. -/
theorem bind_eq_ok {x : Except ε α} {f : α → Except ε β} {b : β} :
    (x >>= f) = .ok b ↔ ∃ a, x = .ok a ∧ f a = .ok b := by
  cases x <;> simp [bind, Except.bind]

theorem toOption_eq_some {x : Except ε α} {a : α} : x.toOption = some a ↔ x = .ok a := by
  cases x <;> simp [Except.toOption]

end Except
