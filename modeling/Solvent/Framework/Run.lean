import Mathlib

/-! # Runs of a command machine

    A machine is a step function `step : σ → α → σ`; a run applies a list of
    commands to a state, one after another. `Along Q` says that `Q` holds of
    every state and the command issued there. The invariant rules below are
    the only inductions over runs the developments on top of this module use.
-/

namespace Run

variable {σ α : Type}

/-- The state after the commands `as`, from `s`. -/
def run (step : σ → α → σ) (s : σ) (as : List α) : σ :=
  as.foldl step s

@[simp] theorem run_nil (step : σ → α → σ) (s : σ) : run step s [] = s := rfl

@[simp] theorem run_cons (step : σ → α → σ) (s : σ) (a : α) (as : List α) :
    run step s (a :: as) = run step (step s a) as := rfl

theorem run_append (step : σ → α → σ) (s : σ) (as bs : List α) :
    run step s (as ++ bs) = run step (run step s as) bs := by
  simp [run]

/-- `Q` holds at every step of the run: of each state it passes and the
    command issued in that state. -/
def Along (step : σ → α → σ) (Q : σ → α → Prop) : σ → List α → Prop
  | _, [] => True
  | s, a :: as => Q s a ∧ Along step Q (step s a) as

/-- A condition that can be checked can be checked along a run. -/
instance decidableAlong (step : σ → α → σ) (Q : σ → α → Prop) [∀ s a, Decidable (Q s a)] :
    ∀ (s : σ) (as : List α), Decidable (Along step Q s as)
  | _, [] => isTrue trivial
  | s, a :: as =>
    have := decidableAlong step Q (step s a) as
    inferInstanceAs (Decidable (Q s a ∧ Along step Q (step s a) as))

theorem along_append (step : σ → α → σ) (Q : σ → α → Prop) (s : σ) (as bs : List α) :
    Along step Q s (as ++ bs) ↔ Along step Q s as ∧ Along step Q (run step s as) bs := by
  induction as generalizing s with
  | nil => simp [Along]
  | cons a as ih => simp [Along, ih, and_assoc]

/-- A condition on commands alone holds along every run of such commands. -/
theorem along_of_forall {step : σ → α → σ} {Q : σ → α → Prop} {as : List α}
    (h : ∀ a ∈ as, ∀ s, Q s a) (s : σ) : Along step Q s as := by
  induction as generalizing s with
  | nil => trivial
  | cons a as ih =>
    refine ⟨h a (by simp) s, ?_⟩
    exact ih (fun b hb => h b (by simp [hb])) (step s a)

theorem along_and {step : σ → α → σ} {Q R : σ → α → Prop} {s : σ} {as : List α}
    (hq : Along step Q s as) (hr : Along step R s as) :
    Along step (fun s a => Q s a ∧ R s a) s as := by
  induction as generalizing s with
  | nil => trivial
  | cons a as ih => exact ⟨⟨hq.1, hr.1⟩, ih hq.2 hr.2⟩

/-- **Invariant rule.** What every step meeting `Q` preserves holds at the end
    of every run along which `Q` holds. -/
theorem invariant {step : σ → α → σ} {P : σ → Prop} {Q : σ → α → Prop}
    (hstep : ∀ s a, P s → Q s a → P (step s a))
    {s : σ} {as : List α} (hs : P s) (hq : Along step Q s as) :
    P (run step s as) := by
  induction as generalizing s with
  | nil => exact hs
  | cons a as ih => exact ih (hstep s a hs hq.1) hq.2

/-- **Step rule.** Under the same premises, what holds of a step from an
    invariant state holds of every step of the run. -/
theorem along_of_invariant {step : σ → α → σ} {P : σ → Prop} {Q R : σ → α → Prop}
    (hstep : ∀ s a, P s → Q s a → P (step s a))
    (hconc : ∀ s a, P s → Q s a → R s a)
    {s : σ} {as : List α} (hs : P s) (hq : Along step Q s as) :
    Along step R s as := by
  induction as generalizing s with
  | nil => trivial
  | cons a as ih => exact ⟨hconc s a hs hq.1, ih (hstep s a hs hq.1) hq.2⟩

/-- **Backward rule.** A condition that holds of a state whenever it holds after
    a step holds after every step of a run that ends with it. -/
theorem along_of_final {step : σ → α → σ} {P : σ → Prop} (hback : ∀ s a, P (step s a) → P s)
    {s : σ} {as : List α} (h : P (run step s as)) : Along step (fun s a => P (step s a)) s as := by
  have hstart : ∀ (as : List α) (s : σ), P (run step s as) → P s := by
    intro as
    induction as with
    | nil => exact fun s h => h
    | cons a as ih => exact fun s h => hback s a (ih (step s a) h)
  induction as generalizing s with
  | nil => trivial
  | cons a as ih => exact ⟨hstart as (step s a) h, ih h⟩

/-! ## Logs -/

/-- Every entry of the log is allowed by the entries before it. -/
def Justified (allowed : List α → α → Prop) (log : List α) : Prop :=
  ∀ before a after, log = before ++ a :: after → allowed before a

theorem justified_nil (allowed : List α → α → Prop) : Justified allowed [] := by
  intro before a after h
  simp at h

/-- An entry of the log is allowed by entries of the log. -/
theorem Justified.of_mem {allowed : List α → α → Prop} {log : List α} {a : α}
    (hlog : Justified allowed log) (ha : a ∈ log) : ∃ before, before ⊆ log ∧ allowed before a := by
  obtain ⟨before, after, rfl⟩ := List.append_of_mem ha
  exact ⟨before, List.subset_append_left _ _, hlog before a after rfl⟩

/-- Of two different entries, one stands before the other. -/
theorem Justified.order {allowed : List α → α → Prop} {log : List α} {a b : α}
    (hlog : Justified allowed log) (ha : a ∈ log) (hb : b ∈ log) (hne : a ≠ b) :
    (∃ before, a ∈ before ∧ allowed before b) ∨ ∃ before, b ∈ before ∧ allowed before a := by
  obtain ⟨before, after, rfl⟩ := List.append_of_mem ha
  rcases List.mem_append.mp hb with hearlier | hlater
  · exact .inr ⟨before, hearlier, hlog before a after rfl⟩
  · have hafter : b ∈ after := (List.mem_cons.mp hlater).resolve_left hne.symm
    obtain ⟨between, rest, rfl⟩ := List.append_of_mem hafter
    refine .inl ⟨before ++ a :: between, by simp, hlog _ b rest ?_⟩
    rw [List.append_assoc, List.cons_append]

theorem Justified.of_append {allowed : List α → α → Prop} {log as : List α}
    (h : Justified allowed (log ++ as)) : Justified allowed log := by
  rintro before a after rfl
  exact h before a (after ++ as) (by simp)

/-- What an entry's permission says of each entry before it holds of every pair. -/
theorem Justified.pairwise {allowed : List α → α → Prop} {R : α → α → Prop} {log : List α}
    (hlog : Justified allowed log) (h : ∀ before b, allowed before b → ∀ a ∈ before, R a b) :
    log.Pairwise R := by
  induction log using List.reverseRecOn with
  | nil => exact List.Pairwise.nil
  | append_singleton log b ih =>
    refine List.pairwise_append.mpr ⟨ih hlog.of_append, List.pairwise_singleton _ _, ?_⟩
    intro a ha b' hb'
    obtain rfl := List.mem_singleton.mp hb'
    exact h log b' (hlog log b' [] rfl) a ha

/-- **Log rule.** -/
theorem justified_concat {allowed : List α → α → Prop} {log : List α} {a : α}
    (hlog : Justified allowed log) (ha : allowed log a) : Justified allowed (log ++ [a]) := by
  intro before b after h
  rcases List.eq_nil_or_concat after with rfl | ⟨after', c, rfl⟩
  · obtain ⟨rfl, hb⟩ := List.append_inj' h rfl
    obtain rfl : a = b := by simpa using hb
    exact ha
  · rw [List.concat_eq_append, ← List.cons_append, ← List.append_assoc] at h
    obtain ⟨rfl, _⟩ := List.append_inj' h rfl
    exact hlog before b after' rfl

/-- Entries that are always allowed can be added. -/
theorem justified_append {allowed : List α → α → Prop} {log as : List α}
    (hlog : Justified allowed log) (has : ∀ a ∈ as, ∀ before, allowed before a) :
    Justified allowed (log ++ as) := by
  induction as generalizing log with
  | nil => rwa [List.append_nil]
  | cons a as ih =>
    rw [List.append_cons]
    exact ih (justified_concat hlog (has a (by simp) log)) fun b hb => has b (by simp [hb])

end Run
