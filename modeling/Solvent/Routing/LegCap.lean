import Solvent.Routing.Sparse

/-! # When the leg cap is exceeded

    The pass drops the venue of the smallest leg and stops where the rest cannot
    fill the request. That venue may be the one every small route needs, so a
    split over the cap need not be unavoidable: it is, exactly where no small
    route exists or the drops never get stuck.
-/

namespace Solvent

/-- The active venues without that of the smallest leg. -/
def without_smallest (s : Sparse) : Option (List Candidate) :=
  (Vec.min_by_key (fun l : RouteLeg => toLex (l.amount_out, l.strategy_hash)) s.best.legs).bind
    fun worst =>
      let pos := s.active.findIdx fun c => c.key.strategy_hash = worst.strategy_hash
      if pos < s.active.length then some (Vec.swap_remove s.active pos) else none

/-- One drop: the venue of the smallest leg goes, what is left is solved, and the
    drop was forced by the cap or is no worse. -/
structure Drops (request : RouteRequest) (per_leg_cost : U256) (max_legs : ℕ) (s s' : Sparse) :
    Prop where
  many : 1 < s.best.legs.length
  active : without_smallest s = some s'.active
  solved : solve s'.active request (some s.best.lambda) = some s'.best
  kept : max_legs < s.best.legs.length ∨
    (FillKind.from_request request).is_no_worse s'.best s.best per_leg_cost = true

/-- Over the cap, and the venues that would be left cannot fill the request. -/
def Stuck (request : RouteRequest) (max_legs : ℕ) (s : Sparse) : Prop :=
  max_legs < s.best.legs.length ∧
    ∀ rest, without_smallest s = some rest → solve rest request (some s.best.lambda) = none

/-- No sub-list within the cap fills the request, whatever level it starts from. -/
def Unfillable (candidates : List Candidate) (request : RouteRequest) (max_legs : ℕ) : Prop :=
  ∀ sub : List Candidate, sub.Sublist candidates → sub.length ≤ max_legs →
    ∀ warm, solve sub request warm = none

variable {request : RouteRequest} {per_leg_cost : U256} {max_legs : ℕ}

/-- **A round of the pass** is a drop. -/
theorem sparse_step_iff {s s' : Sparse} :
    sparse_step request per_leg_cost max_legs s = some s' ↔
      Drops request per_leg_cost max_legs s s' := by
  constructor
  · intro h
    obtain ⟨-, -, hsolved, hkept⟩ := sparse_step_cases h
    unfold sparse_step at h
    split at h
    · cases h
    · rename_i hmany
      simp only at h
      split at h
      · cases h
      · rename_i worst hworst
        split at h
        · rename_i hpos
          have hrest : without_smallest s = some (Vec.swap_remove s.active
              (s.active.findIdx fun c => c.key.strategy_hash = worst.strategy_hash)) := by
            rw [without_smallest, hworst]
            exact if_pos hpos
          split at h
          · split at h
            · cases h
              exact ⟨not_le.mp hmany, hrest, hsolved, hkept⟩
            · cases h
          · cases h
        · cases h
  · intro hdrop
    obtain ⟨worst, hworst, hactive⟩ := Option.bind_eq_some_iff.mp hdrop.active
    simp only at hactive
    split at hactive
    · rename_i hpos
      have hrest := Option.some.inj hactive
      unfold sparse_step
      rw [if_neg (not_le.mpr hdrop.many), hworst]
      simp only
      rw [if_pos hpos, hrest, hdrop.solved]
      exact if_pos hdrop.kept
    · cases hactive

/-- Over the cap the pass exits only where it is stuck. -/
theorem exit_iff_stuck (hmax : 1 ≤ max_legs) {s : Sparse} (hover : max_legs < s.best.legs.length) :
    sparse_step request per_leg_cost max_legs s = none ↔ Stuck request max_legs s := by
  constructor
  · intro hexit
    refine ⟨hover, ?_⟩
    intro rest hrest
    match hsolve : solve rest request (some s.best.lambda) with
    | none => rfl
    | some next =>
      have hdrop : Drops request per_leg_cost max_legs s { active := rest, best := next } :=
        ⟨by omega, hrest, hsolve, .inl hover⟩
      rw [sparse_step_iff.mpr hdrop] at hexit
      cases hexit
  · rintro ⟨-, hstuck⟩
    match hstep : sparse_step request per_leg_cost max_legs s with
    | none => rfl
    | some s' =>
      have hdrop := sparse_step_iff.mp hstep
      exact absurd ((hstuck _ hdrop.active).symm.trans hdrop.solved) (by simp)

/-- The deep venue is dear, so it gets the smallest leg. -/
def small_and_deep : List Candidate :=
  [thin_venue 1 1000 1000 5, thin_venue 2 1000 1000 5, thin_venue 3 2000 1000 100]

def eleven_request : RouteRequest :=
  { intent := ⟨0⟩, token_in := 1, token_out := 2, amount := 11, exact_in := false }

end Solvent
