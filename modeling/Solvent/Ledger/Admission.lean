import Mathlib
import Solvent.Ledger.Conservation

/-! # Admission

    What the two-ceiling check of `reserve` buys. An admitted reservation is
    within the budget at every account it really draws on, whatever the sums
    saturate to; afterwards nothing but another placement can raise what an
    account owes. So as long as budgets do not drop and nothing is restored
    unchecked, every account owes at most its budget and `available` is the
    plain difference.
-/

namespace Solvent

open BTreeMap

namespace Ledger

/-! ## What an account owes -/

/-- The exact sum of an account's two compartments. -/
def owed (l : Ledger) (a : AccountKey) : ℕ :=
  (l.pending a).val + (l.consumed a).val

/-- Every budget the command feeds is below the greatest word. -/
def FeedsBelowMax : Command → Prop
  | .set_budget _ budget => budget < U256.MAX
  | .set_budgets budgets => ∀ a, get_or budgets a 0 < U256.MAX
  | _ => True

def BudgetsBelowMax (l : Ledger) : Prop :=
  ∀ a, l.budget a < U256.MAX

/-- The command lowers no account's budget. -/
def LowersNoBudget (l : Ledger) (c : Command) : Prop :=
  ∀ a, l.budget a ≤ (l.next c).budget a

def IsRestore : Command → Prop
  | .restore _ => True
  | _ => False

/-! ## Budgets -/

@[simp] theorem restore_budgets (l : Ledger) (r : Reservation) :
    (l.restore r).budgets = l.budgets := by
  unfold restore
  split <;> rfl

theorem reserve_budgets (l : Ledger) (r : Reservation) :
    (l.reserve r).2.budgets = l.budgets := by
  unfold reserve
  split
  · rfl
  · exact restore_budgets l r

/-- Only the two feeds touch the budgets. -/
theorem next_budgets (l : Ledger) (c : Command) :
    (l.next c).budgets = match c with
      | .set_budget account budget => l.budgets.insert account budget
      | .set_budgets budgets => budgets
      | _ => l.budgets := by
  unfold next
  cases c with
  | set_budget account budget => rfl
  | set_budgets budgets => rfl
  | reserve r => exact reserve_budgets l r
  | restore r => exact restore_budgets l r
  | commit id =>
    rcases commit_cases l id with ⟨r, _, _, heq⟩ | ⟨heq, _⟩ <;> simp only [exec, heq]
  | post id filled =>
    rcases post_cases l id filled with ⟨r, _, _, _, heq⟩ | ⟨⟨e, heq⟩, _⟩ <;> simp only [exec, heq]
  | void id =>
    rcases void_cases l id with ⟨r, _, _, heq⟩ | ⟨⟨e, heq⟩, _⟩ <;> simp only [exec, heq]
  | expire id =>
    rcases expire_cases l id with ⟨r, _, _, heq⟩ | ⟨⟨e, heq⟩, _⟩ <;> simp only [exec, heq]
  | void_reorg id =>
    rcases void_reorg_cases l id with ⟨r, _, _, heq⟩ | ⟨⟨e, heq⟩, _⟩ <;> simp only [exec, heq]

theorem budgetsBelowMax_next {l : Ledger} (hl : l.BudgetsBelowMax) {c : Command}
    (hc : FeedsBelowMax c) : (l.next c).BudgetsBelowMax := by
  intro a
  unfold budget
  rw [next_budgets]
  cases c with
  | set_budget account budget =>
    simp only [get_or_insert]
    split
    · exact hc
    · exact hl a
  | set_budgets budgets => exact hc a
  | _ => exact hl a

theorem budgetsBelowMax_empty : empty.BudgetsBelowMax := by
  intro a
  simp only [budget, empty, get_or_empty]
  decide

/-! ## An admitted reservation fits -/

/-- Admission found room for the whole demand, clamped or not, at every account. -/
theorem room_of_can_reserve {l : Ledger} {r : Reservation} (h : l.can_reserve r = .ok ())
    (a : AccountKey) : min (demand r.sources a) (2 ^ 256 - 1) ≤ (l.available a).val := by
  have hnone := (can_reserve_ok h).2
  rw [← get_or_aggregate_demand]
  unfold first_shortfall at hnone
  rw [List.findSome?_eq_none_iff] at hnone
  unfold get_or
  cases hd : (aggregate_demand r.sources)[a]? with
  | none => simp
  | some d =>
    have hroom := hnone (a, d) (Std.ExtTreeMap.mem_toList_iff_getElem?_eq_some.mpr hd)
    by_cases hlt : l.available a < d
    · simp [hlt] at hroom
    · simpa using hlt

theorem reserve_of_ok {l : Ledger} {r : Reservation} (h : (l.reserve r).1 = .ok ()) :
    l.can_reserve r = .ok () ∧ (l.reserve r).2 = l.restore r := by
  unfold reserve at h ⊢
  cases hc : l.can_reserve r with
  | error e => simp [hc] at h
  | ok u => exact ⟨rfl, rfl⟩

theorem owed_place (l : Ledger) {r : Reservation} (hnew : l.reservations[r.id]? = none)
    (a : AccountKey) :
    ((l.restore r).pending a).val = min ((l.pending a).val + demand r.sources a) (2 ^ 256 - 1) ∧
      (l.restore r).consumed a = l.consumed a := by
  rw [restore_of_none hnew]
  exact restore_held l.held r.sources a

/-- An admitted reservation leaves every account it draws on within its budget,
    and the accounts it names without drawing on them as they were. -/
theorem owed_le_budget_of_reserve {l : Ledger} (hb : l.BudgetsBelowMax) {r : Reservation}
    (h : (l.reserve r).1 = .ok ()) (a : AccountKey) :
    (l.reserve r).2.owed a ≤ ((l.reserve r).2.budget a).val ∨
      (demand r.sources a = 0 ∧ (l.reserve r).2.owed a = l.owed a) := by
  obtain ⟨hok, hnext⟩ := reserve_of_ok h
  obtain ⟨hpend, hcons⟩ := owed_place l (can_reserve_ok hok).1 a
  have hroom := room_of_can_reserve hok a
  have hmax : (l.budget a).val < U256.MAX.val := hb a
  have hbud : (l.restore r).budget a = l.budget a := by
    unfold budget
    rw [restore_budgets]
  have hlt := (l.pending a).isLt
  unfold available at hroom
  simp only [U256.saturating_sub_val, U256.saturating_add_val, U256.MAX_val] at hroom hmax
  rw [hnext, hbud]
  unfold owed
  rw [hpend, hcons]
  by_cases hzero : demand r.sources a = 0
  · right
    exact ⟨hzero, by omega⟩
  · -- Room for one unit already means that the saturated sum is the exact one.
    left
    omega

/-! ## Nothing else raises what an account owes -/

/-- **Step lemma.** A command that places nothing raises no account's debt. A
    settlement moves at most what its own hold releases, which is all there
    when `pending` is exact. -/
theorem owed_le_of_move {l l' : Ledger} (hl : ∀ a, (l.pending a).val = l.open_demand a)
    (h : Move l l') (a : AccountKey) : l'.owed a ≤ l.owed a := by
  cases h with
  | idle => exact le_refl _
  | budgets budgets => exact le_refl _
  | commit id r hr hstate => exact le_refl _
  | post id r filled hr hopen hfills =>
    have hlen : filled.length = r.sources.length := ((fillsWithin_iff _ _ 0).mp hfills).1
    obtain ⟨hpend, hcons⟩ := post_held l.held filled hlen a
    have hle := fill_demand_le_demand hfills a
    have hheld : demand r.sources a ≤ (get_or l.held a Held.default).pending.val :=
      demand_le_pending hl hr hopen a
    show (get_or (apply_steps l.held _) a Held.default).pending.val +
      (get_or (apply_steps l.held _) a Held.default).consumed.val ≤
        (get_or l.held a Held.default).pending.val + (get_or l.held a Held.default).consumed.val
    omega
  | release id r terminal hr hopen hterm =>
    obtain ⟨hpend, hcons⟩ := release_held l.held r.sources a
    show (get_or (apply_steps l.held _) a Held.default).pending.val +
      (get_or (apply_steps l.held _) a Held.default).consumed.val ≤
        (get_or l.held a Held.default).pending.val + (get_or l.held a Held.default).consumed.val
    rw [hcons]
    omega
  | reorg id r hr hstate =>
    obtain ⟨hpend, hcons⟩ := reorg_held l.held r.sources (get_or l.filled id []) a
    show (get_or (apply_steps l.held _) a Held.default).pending.val +
      (get_or (apply_steps l.held _) a Held.default).consumed.val ≤
        (get_or l.held a Held.default).pending.val + (get_or l.held a Held.default).consumed.val
    rw [hpend]
    omega

/-! ## The open sums stay words -/

/-- Admission under budgets below the greatest word keeps the open sums words. -/
theorem openFits_of_reserve {l : Ledger} (hb : l.BudgetsBelowMax)
    (hpend : ∀ a, (l.pending a).val = l.open_demand a) {r : Reservation}
    (hstate : r.state = .Pending) (hok : l.can_reserve r = .ok ()) :
    (l.restore r).OpenFits := by
  intro a
  have hroom := room_of_can_reserve hok a
  have hmax : (l.budget a).val < U256.MAX.val := hb a
  have hold := hpend a
  have hlt := (l.pending a).isLt
  have hnew := (can_reserve_ok hok).1
  rw [restore_of_none hnew,
    open_demand_insert _ hnew (by simp [hstate, ReservationState.is_open])]
  unfold available at hroom
  simp only [U256.saturating_sub_val, U256.saturating_add_val, U256.MAX_val] at hroom hmax
  omega

/-- A command that places nothing does not raise the open sums. -/
theorem openFits_of_move {l l' : Ledger} (hpend : ∀ a, (l.pending a).val = l.open_demand a)
    (h : Move l l') : l'.OpenFits := by
  intro a
  have hlt := (l.pending a).isLt
  have hold := hpend a
  have hle : l'.open_demand a ≤ l.open_demand a := by
    cases h with
    | idle => exact le_refl _
    | budgets budgets => exact le_refl _
    | commit id r hr hstate =>
      have := open_demand_set_state hr .Committed l.held l.filled a
      rw [hstate, if_pos (by decide), if_pos (by decide)] at this
      exact le_of_eq (by omega)
    | post id r filled hr hopen hfills =>
      have := open_demand_set_state hr .Posted
        (apply_steps l.held (post_steps r.sources filled)) (l.filled.insert id filled) a
      rw [if_pos hopen, if_neg (by decide)] at this
      omega
    | release id r terminal hr hopen hterm =>
      have hclosed : terminal.is_open = false := by
        rcases hterm with h | h <;> simp [h, ReservationState.is_open]
      have := open_demand_set_state hr terminal
        (apply_steps l.held (release_steps r.sources)) l.filled a
      rw [if_pos hopen, hclosed, if_neg (by decide)] at this
      omega
    | reorg id r hr hstate =>
      have := open_demand_set_state hr .ReorgOpen
        (apply_steps l.held (reorg_steps r.sources (get_or l.filled id [])))
        (l.filled.erase id) a
      rw [hstate, if_neg (by decide), if_neg (by decide)] at this
      exact le_of_eq (by omega)
  omega

/-- What a restored reservation adds still fits; every other command is checked. -/
def RestoresFit (l : Ledger) : Command → Prop
  | .restore r => (l.restore r).OpenFits
  | _ => True

/-- Exact holds under budgets below the greatest word. -/
structure Exact (l : Ledger) : Prop where
  below : l.BudgetsBelowMax
  pending : ∀ a, (l.pending a).val = l.open_demand a

theorem exact_empty : empty.Exact :=
  ⟨budgetsBelowMax_empty, conserves_empty.pending⟩

/-- **Exactness step.** Of all commands only `restore` can push the open sums
    out of range. -/
theorem exact_next {l : Ledger} (hl : l.Exact) {c : Command} (hc : c.Admissible)
    (hfeed : FeedsBelowMax c) (hfit : l.RestoresFit c) : (l.next c).Exact := by
  refine ⟨budgetsBelowMax_next hl.below hfeed, ?_⟩
  apply pending_of_effect hl.pending (effect_next l hc)
  by_cases hplaces : c.Places = true
  · cases c with
    | restore r => exact hfit
    | reserve r =>
      show (l.reserve r).2.OpenFits
      cases hok : l.can_reserve r with
      | error e =>
        have hsame : (l.reserve r).2 = l := by simp [reserve, hok]
        rw [hsame]
        intro a
        rw [← hl.pending a]
        exact (l.pending a).isLt
      | ok u =>
        have hnext : (l.reserve r).2 = l.restore r := by simp [reserve, hok]
        rw [hnext]
        exact openFits_of_reserve hl.below hl.pending hc hok
    | _ => simp [Command.Places] at hplaces
  · exact openFits_of_move hl.pending (move_next l (by simpa using hplaces))

/-! ## Runs that check every placement -/

/-- **Coverage step.** Without `restore` and without a falling budget, what is
    owed stays within the budgets. -/
theorem within_next {l : Ledger} (hl : l.Exact) (hwithin : ∀ a, l.owed a ≤ (l.budget a).val)
    {c : Command} (hkeep : l.LowersNoBudget c) (hno : ¬ IsRestore c) :
    ∀ a, (l.next c).owed a ≤ ((l.next c).budget a).val := by
  intro a
  have hgrow := hkeep a
  rw [Fin.le_def] at hgrow
  by_cases hplaces : c.Places = true
  · -- The only placement left is `reserve`.
    cases c with
    | restore r => exact absurd trivial hno
    | reserve r =>
      show (l.reserve r).2.owed a ≤ ((l.reserve r).2.budget a).val
      cases hok : l.can_reserve r with
      | error e =>
        have hsame : (l.reserve r).2 = l := by simp [reserve, hok]
        rw [hsame]
        exact hwithin a
      | ok u =>
        rcases owed_le_budget_of_reserve hl.below (r := r) (by simp [reserve, hok]) a with
          hle | ⟨_, hsame⟩
        · exact hle
        · rw [hsame]
          exact le_trans (hwithin a) hgrow
    | _ => simp [Command.Places] at hplaces
  · calc (l.next c).owed a ≤ l.owed a :=
        owed_le_of_move hl.pending (move_next l (by simpa using hplaces)) a
      _ ≤ (l.budget a).val := hwithin a
      _ ≤ ((l.next c).budget a).val := hgrow

/-- `available` is the plain difference: neither its addition nor its
    subtraction clamps. -/
def AvailableExact (l : Ledger) (a : AccountKey) : Prop :=
  l.owed a < 2 ^ 256 ∧ l.owed a ≤ (l.budget a).val ∧
    (l.available a).val = (l.budget a).val - (l.pending a).val - (l.consumed a).val

theorem available_exact {l : Ledger} {a : AccountKey} (h : l.owed a ≤ (l.budget a).val) :
    l.AvailableExact a := by
  have hlt := (l.budget a).isLt
  refine ⟨by omega, h, ?_⟩
  unfold available
  unfold owed at h
  simp only [U256.saturating_sub_val, U256.saturating_add_val]
  omega

/-! ## Over whole runs -/

/-- A command as the callers issue it, feeding budgets below the greatest word. -/
def Issued (c : Command) : Prop :=
  c.Admissible ∧ FeedsBelowMax c

theorem budgetsBelowMax_run {cmds : List Command} (hcmds : ∀ c ∈ cmds, Issued c) :
    (Run.run next empty cmds).BudgetsBelowMax := by
  have hstep : ∀ (l : Ledger) (c : Command), l.BudgetsBelowMax → Issued c →
      (l.next c).BudgetsBelowMax := fun _ _ hl hc => budgetsBelowMax_next hl hc.2
  exact Run.invariant hstep budgetsBelowMax_empty
    (Run.along_of_forall (fun c hc _ => hcmds c hc) _)

theorem exact_run {cmds : List Command} (hcmds : ∀ c ∈ cmds, Issued c)
    (hfit : Run.Along next RestoresFit empty cmds) : (Run.run next empty cmds).Exact := by
  have hstep : ∀ (l : Ledger) (c : Command), l.Exact → Issued c ∧ l.RestoresFit c →
      (l.next c).Exact := fun _ _ hl h => exact_next hl h.1.1 h.1.2 h.2
  exact Run.invariant hstep exact_empty
    (Run.along_and (Run.along_of_forall (fun c hc _ => hcmds c hc) _) hfit)

/-- A run that restores nothing and lowers no budget keeps every account within
    its budget. -/
theorem within_run {cmds : List Command} (hcmds : ∀ c ∈ cmds, Issued c ∧ ¬ IsRestore c)
    (hkeep : Run.Along next LowersNoBudget empty cmds) (a : AccountKey) :
    (Run.run next empty cmds).owed a ≤ ((Run.run next empty cmds).budget a).val := by
  have hstep : ∀ (l : Ledger) (c : Command),
      (l.Exact ∧ ∀ a, l.owed a ≤ (l.budget a).val) →
      (Issued c ∧ ¬ IsRestore c) ∧ l.LowersNoBudget c →
      ((l.next c).Exact ∧ ∀ a, (l.next c).owed a ≤ ((l.next c).budget a).val) := by
    intro l c hl h
    obtain ⟨⟨hissued, hno⟩, hkeepc⟩ := h
    refine ⟨exact_next hl.1 hissued.1 hissued.2 ?_, within_next hl.1 hl.2 hkeepc hno⟩
    cases c with
    | restore r => exact absurd trivial hno
    | _ => trivial
  have hstart : empty.Exact ∧ ∀ a, empty.owed a ≤ (empty.budget a).val := by
    refine ⟨exact_empty, ?_⟩
    intro a
    simp [owed, Ledger.pending, consumed, held_at, empty, Held.default]
  exact (Run.invariant hstep hstart
    (Run.along_and (Run.along_of_forall (fun c hc _ => hcmds c hc) _) hkeep)).2 a

/-- **No over-promise.** In every reachable ledger: an admitted reservation is
    within the budget at each account it draws on and a refused one changes
    nothing; a command that places nothing raises no debt, provided the restored
    promises fitted; and in a run without `restore` that lowers no budget,
    `available` is exact at every account. -/
theorem no_over_promise :
    (∀ cmds : List Command, (∀ c ∈ cmds, Issued c) →
      ∀ r : Reservation, r.state = .Pending →
        let l := Run.run next empty cmds
        ((l.reserve r).1 = .ok () → ∀ s ∈ r.sources, ∀ a ∈ s.accounts,
          (l.reserve r).2.owed a ≤ ((l.reserve r).2.budget a).val ∨
            (demand r.sources a = 0 ∧ (l.reserve r).2.owed a = l.owed a)) ∧
        (∀ e, (l.reserve r).1 = .error e → (l.reserve r).2 = l)) ∧
    (∀ cmds : List Command, (∀ c ∈ cmds, Issued c) → Run.Along next RestoresFit empty cmds →
      ∀ c : Command, c.Places = false → ∀ a,
        ((Run.run next empty cmds).next c).owed a ≤ (Run.run next empty cmds).owed a) ∧
    (∀ cmds : List Command, (∀ c ∈ cmds, Issued c ∧ ¬ IsRestore c) →
      Run.Along next LowersNoBudget empty cmds →
      ∀ a, (Run.run next empty cmds).AvailableExact a) := by
  refine ⟨?_, ?_, ?_⟩
  · intro cmds hcmds r _ l
    refine ⟨fun hok s _ a _ => owed_le_budget_of_reserve (budgetsBelowMax_run hcmds) hok a, ?_⟩
    intro e he
    exact next_of_error (c := .reserve r) he
  · intro cmds hcmds hfit c hc a
    exact owed_le_of_move (exact_run hcmds hfit).pending (move_next _ hc) a
  · intro cmds hcmds hkeep a
    exact available_exact (within_run hcmds hkeep a)

/-- A ledger with both ceilings of the sample source fed. -/
def sample_funding : List Command :=
  [.set_budget (.WalletBudget ⟨1⟩ 1) 10, .set_budget (.StrategyVirtual ⟨1⟩ ⟨1⟩ 1) 10]

theorem sample_funding_issued : ∀ c ∈ sample_funding, Issued c ∧ ¬ IsRestore c := by
  intro c hc
  simp only [sample_funding, List.mem_cons, List.not_mem_nil, or_false] at hc
  rcases hc with rfl | rfl
  · exact ⟨⟨trivial, show (10 : U256) < U256.MAX by decide⟩, id⟩
  · exact ⟨⟨trivial, show (10 : U256) < U256.MAX by decide⟩, id⟩

theorem sample_funding_lowers_nothing :
    Run.Along next LowersNoBudget empty sample_funding := by
  refine ⟨?_, ?_, trivial⟩
  · intro a
    simp [budget, empty]
  · intro a
    simp only [budget, next_budgets, get_or_insert]
    by_cases hv : AccountKey.StrategyVirtual ⟨1⟩ ⟨1⟩ 1 = a
    · subst hv
      simp [empty]
    · simp [hv]

theorem no_over_promise_sample_funding :
    let l := Run.run next empty sample_funding
    (l.reserve (sample_reservation 1 10)).1 = .ok () ∧
      ((l.reserve (sample_reservation 1 10)).2.owed (.WalletBudget ⟨1⟩ 1) ≤
          ((l.reserve (sample_reservation 1 10)).2.budget (.WalletBudget ⟨1⟩ 1)).val ∨
        (demand (sample_reservation 1 10).sources (.WalletBudget ⟨1⟩ 1) = 0 ∧
          (l.reserve (sample_reservation 1 10)).2.owed (.WalletBudget ⟨1⟩ 1) =
            l.owed (.WalletBudget ⟨1⟩ 1))) ∧
      (l.next (.void ⟨1⟩)).owed (.WalletBudget ⟨1⟩ 1) ≤ l.owed (.WalletBudget ⟨1⟩ 1) ∧
      l.AvailableExact (.WalletBudget ⟨1⟩ 1) := by
  obtain ⟨hadmission, hmoves, havail⟩ := no_over_promise
  have hissued : ∀ c ∈ sample_funding, Issued c := fun c hc => (sample_funding_issued c hc).1
  have hok : ((Run.run next empty sample_funding).reserve (sample_reservation 1 10)).1 = .ok () := by
    decide +kernel
  refine ⟨hok, ?_, ?_, ?_⟩
  · exact (hadmission sample_funding hissued (sample_reservation 1 10) rfl).1 hok
      (sample_source 10) (by simp [sample_reservation, Reservation.for_swap, Reservation.new]) _
      (by simp [sample_source, ReservationSource.accounts])
  · exact hmoves sample_funding hissued ⟨trivial, trivial, trivial⟩ (.void ⟨1⟩) rfl _
  · exact havail sample_funding sample_funding_issued sample_funding_lowers_nothing _

/-- Two ways a reachable ledger departs from "every account of an admitted
    reservation is within budget, and only placements raise debts". A source of
    amount zero is admitted on a wallet that already owes more than its lowered
    budget; and after two restored promises whose sum leaves the word, releasing
    the first also drops the hold of the second, so settling that one raises
    what the wallet owes. -/
theorem zero_draw_and_restored_overflow :
    let wallet : AccountKey := .WalletBudget ⟨1⟩ 1
    let virtual : AccountKey := .StrategyVirtual ⟨1⟩ ⟨1⟩ 1
    let lowered := Run.run next empty [.set_budget wallet 10, .set_budget virtual 10,
      .reserve (sample_reservation 1 10), .set_budget wallet 5]
    let restored := Run.run next empty [.restore (sample_reservation 1 U256.MAX),
      .restore (sample_reservation 2 5), .void ⟨1⟩]
    ((lowered.reserve (sample_reservation 2 0)).1 = .ok () ∧
      (lowered.reserve (sample_reservation 2 0)).2.owed wallet = 10 ∧
      (lowered.reserve (sample_reservation 2 0)).2.budget wallet = 5) ∧
    restored.owed wallet = 0 ∧ (restored.next (.post ⟨2⟩ [5])).owed wallet = 5 := by
  decide +kernel

end Ledger

end Solvent
