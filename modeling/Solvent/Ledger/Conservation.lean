import Mathlib
import Solvent.Ledger.Commands

/-! # Conservation

    The two compartments are exact: `pending` at an account is the sum of what
    the open reservations draw on it, `consumed` is the sum of the fills the
    posted ones recorded, and a fill record exists for exactly the posted
    reservations. The sums are over natural numbers, so nothing is hidden by
    saturation; the only premise is that the sums fit in a word.

    `Conserves` is the invariant, `conserves_of_effect` its step lemma.
-/

namespace Solvent

open BTreeMap

namespace Ledger

/-! ## The exact sums -/

/-- What the open reservations draw on `account`. -/
def open_demand (l : Ledger) (account : AccountKey) : ℕ :=
  total (fun _ r => if r.state.is_open then demand r.sources account else 0) l.reservations

/-- The recorded fills of the posted reservations on `account`. -/
def posted_fills (l : Ledger) (account : AccountKey) : ℕ :=
  total (fun id r =>
    if r.state = .Posted then fill_demand r.sources (get_or l.filled id []) account else 0)
    l.reservations

/-- What the open reservations draw is a word at every account. -/
def OpenFits (l : Ledger) : Prop :=
  ∀ a, l.open_demand a < 2 ^ 256

/-- Both sums are words at every account. -/
def Fits (l : Ledger) : Prop :=
  ∀ a, l.open_demand a < 2 ^ 256 ∧ l.posted_fills a < 2 ^ 256

/-- A fill record exists for exactly the posted reservations. -/
def RecordsPosted (l : Ledger) : Prop :=
  ∀ id : ReservationId, (l.filled[id]?).isSome ↔
    ∃ r : Reservation, l.reservations[id]? = some r ∧ r.state = .Posted

structure Conserves (l : Ledger) : Prop where
  pending : ∀ a, (l.pending a).val = l.open_demand a
  consumed : ∀ a, (l.consumed a).val = l.posted_fills a
  filled : l.RecordsPosted

theorem ne_posted_of_open {state : ReservationState} (h : state.is_open = true) :
    state ≠ .Posted := by
  intro hp
  simp [hp, ReservationState.is_open] at h

theorem conserves_empty : Ledger.empty.Conserves where
  pending := by
    intro a
    simp [Ledger.pending, held_at, open_demand, empty, Held.default]
  consumed := by
    intro a
    simp [Ledger.consumed, held_at, posted_fills, empty, Held.default]
  filled := by
    intro id
    simp [empty]

/-! ## How the sums move

    One lemma per effect on a reservation: recording a new one, and moving a
    known one to another state. -/

theorem open_demand_insert {l : Ledger} {r : Reservation} (held : BTreeMap AccountKey Held)
    (hnew : l.reservations[r.id]? = none) (hopen : r.state.is_open = true) (a : AccountKey) :
    open_demand { l with held, reservations := l.reservations.insert r.id r } a =
      l.open_demand a + demand r.sources a := by
  unfold open_demand
  rw [total_insert _ _ _ hnew, if_pos hopen]
  omega

theorem posted_fills_insert {l : Ledger} {r : Reservation} (held : BTreeMap AccountKey Held)
    (hnew : l.reservations[r.id]? = none) (hopen : r.state.is_open = true) (a : AccountKey) :
    posted_fills { l with held, reservations := l.reservations.insert r.id r } a =
      l.posted_fills a := by
  unfold posted_fills
  rw [total_insert _ _ _ hnew]
  rw [if_neg (ne_posted_of_open hopen), Nat.zero_add]

/-- Moving one reservation moves `open_demand` by what it held before and after. -/
theorem open_demand_set_state {l : Ledger} {id : ReservationId} {r : Reservation}
    (hr : l.reservations[id]? = some r) (state : ReservationState)
    (held : BTreeMap AccountKey Held) (filled : BTreeMap ReservationId (List U256))
    (a : AccountKey) :
    open_demand { l with held, filled, reservations := l.set_state id r state } a +
        (if r.state.is_open then demand r.sources a else 0) =
      l.open_demand a + (if state.is_open then demand r.sources a else 0) := by
  unfold open_demand set_state
  exact total_update l.reservations { r with state } hr (fun _ _ _ => rfl)

/-- The same for `posted_fills`, when no other fill record changes. -/
theorem posted_fills_set_state {l : Ledger} {id : ReservationId} {r : Reservation}
    (hr : l.reservations[id]? = some r) (state : ReservationState)
    (held : BTreeMap AccountKey Held) (filled : BTreeMap ReservationId (List U256))
    (hfilled : ∀ k, k ≠ id → filled[k]? = l.filled[k]?) (a : AccountKey) :
    posted_fills { l with held, filled, reservations := l.set_state id r state } a +
        (if r.state = .Posted then fill_demand r.sources (get_or l.filled id []) a else 0) =
      l.posted_fills a +
        (if state = .Posted then fill_demand r.sources (get_or filled id []) a else 0) := by
  unfold posted_fills set_state
  apply total_update l.reservations { r with state } hr
  intro k u hk
  have hsame : get_or filled k [] = get_or l.filled k [] := by
    unfold get_or
    rw [hfilled k hk]
  simp only [hsame]

/-- The fill records follow the posted reservations when one reservation moves. -/
theorem filled_set_state {l : Ledger} (hl : l.RecordsPosted) {id : ReservationId} {r : Reservation}
    (state : ReservationState) (filled : BTreeMap ReservationId (List U256))
    (hfilled : ∀ k, k ≠ id → filled[k]? = l.filled[k]?)
    (hid : (filled[id]?).isSome ↔ state = .Posted) (k : ReservationId) :
    (filled[k]?).isSome ↔ ∃ q : Reservation, (l.set_state id r state)[k]? = some q ∧ q.state = .Posted := by
  unfold set_state
  rw [get_insert]
  by_cases hk : id = k
  · subst hk
    rw [if_pos rfl, hid]
    simp
  · rw [if_neg hk, hfilled k (fun e => hk e.symm)]
    exact hl k

/-! ## Step lemmas -/

/-- **Pending step.** Every effect keeps `pending` exact as long as what the
    open reservations draw still fits. -/
theorem pending_of_effect {l l' : Ledger} (hl : ∀ a, (l.pending a).val = l.open_demand a)
    (h : Effect l l') (hfit : l'.OpenFits) : ∀ a, (l'.pending a).val = l'.open_demand a := by
  intro a
  have hold : (get_or l.held a Held.default).pending.val = l.open_demand a := hl a
  cases h with
  | place r hnew hopen =>
    have hsum := open_demand_insert (apply_steps l.held (restore_steps r.sources)) hnew hopen a
    have hword := hfit a
    obtain ⟨hpend, _⟩ := restore_held l.held r.sources a
    rw [hsum] at hword ⊢
    show (get_or (apply_steps l.held _) a Held.default).pending.val = _
    omega
  | move h =>
    cases h with
    | idle => exact hl a
    | budgets budgets => exact hl a
    | commit id r hr hstate =>
      have hsum := open_demand_set_state hr .Committed l.held l.filled a
      rw [hstate, if_pos (by decide), if_pos (by decide)] at hsum
      show (get_or l.held a Held.default).pending.val = _
      omega
    | post id r filled hr hopen hfills =>
      have hlen : filled.length = r.sources.length := ((fillsWithin_iff _ _ 0).mp hfills).1
      have hsum := open_demand_set_state hr .Posted
        (apply_steps l.held (post_steps r.sources filled)) (l.filled.insert id filled) a
      obtain ⟨hpend, _⟩ := post_held l.held filled hlen a
      rw [if_pos hopen, if_neg (by decide)] at hsum
      show (get_or (apply_steps l.held _) a Held.default).pending.val = _
      omega
    | release id r terminal hr hopen hterm =>
      have hclosed : terminal.is_open = false := by
        rcases hterm with h | h <;> simp [h, ReservationState.is_open]
      have hsum := open_demand_set_state hr terminal
        (apply_steps l.held (release_steps r.sources)) l.filled a
      obtain ⟨hpend, _⟩ := release_held l.held r.sources a
      rw [if_pos hopen, hclosed, if_neg (by decide)] at hsum
      show (get_or (apply_steps l.held _) a Held.default).pending.val = _
      omega
    | reorg id r hr hstate =>
      have hsum := open_demand_set_state hr .ReorgOpen
        (apply_steps l.held (reorg_steps r.sources (get_or l.filled id []))) (l.filled.erase id) a
      obtain ⟨hpend, _⟩ := reorg_held l.held r.sources (get_or l.filled id []) a
      rw [hstate, if_neg (by decide), if_neg (by decide)] at hsum
      show (get_or (apply_steps l.held _) a Held.default).pending.val = _
      rw [hpend]
      omega

/-- **Consumed step.** Every effect keeps `consumed` exact as long as the
    recorded fills still fit. -/
theorem consumed_of_effect {l l' : Ledger} (hl : ∀ a, (l.consumed a).val = l.posted_fills a)
    (h : Effect l l') (hfit : ∀ a, l'.posted_fills a < 2 ^ 256) :
    ∀ a, (l'.consumed a).val = l'.posted_fills a := by
  intro a
  have hold : (get_or l.held a Held.default).consumed.val = l.posted_fills a := hl a
  cases h with
  | place r hnew hopen =>
    rw [posted_fills_insert _ hnew hopen, ← hl a]
    exact congrArg Fin.val (restore_held l.held r.sources a).2
  | move h =>
    cases h with
    | idle => exact hl a
    | budgets budgets => exact hl a
    | commit id r hr hstate =>
      have hsum := posted_fills_set_state hr .Committed l.held l.filled (fun _ _ => rfl) a
      rw [hstate, if_neg (by decide), if_neg (by decide)] at hsum
      show (get_or l.held a Held.default).consumed.val = _
      omega
    | post id r filled hr hopen hfills =>
      have hlen : filled.length = r.sources.length := ((fillsWithin_iff _ _ 0).mp hfills).1
      have hsum := posted_fills_set_state hr .Posted
        (apply_steps l.held (post_steps r.sources filled)) (l.filled.insert id filled)
        (fun k hk => get_insert_ne _ _ (fun e => hk e.symm)) a
      have hword := hfit a
      obtain ⟨_, hcons⟩ := post_held l.held filled hlen a
      rw [get_or_insert, if_pos rfl, if_neg (ne_posted_of_open hopen), if_pos rfl] at hsum
      show (get_or (apply_steps l.held _) a Held.default).consumed.val = _
      omega
    | release id r terminal hr hopen hterm =>
      have hne : terminal ≠ .Posted := by
        rcases hterm with h | h <;> simp [h]
      have hsum := posted_fills_set_state hr terminal
        (apply_steps l.held (release_steps r.sources)) l.filled (fun _ _ => rfl) a
      obtain ⟨_, hcons⟩ := release_held l.held r.sources a
      rw [if_neg (ne_posted_of_open hopen), if_neg hne] at hsum
      show (get_or (apply_steps l.held _) a Held.default).consumed.val = _
      rw [hcons]
      omega
    | reorg id r hr hstate =>
      have hsum := posted_fills_set_state hr .ReorgOpen
        (apply_steps l.held (reorg_steps r.sources (get_or l.filled id []))) (l.filled.erase id)
        (fun k hk => by rw [get_erase, if_neg (fun e => hk e.symm)]) a
      obtain ⟨_, hcons⟩ := reorg_held l.held r.sources (get_or l.filled id []) a
      rw [hstate, if_pos rfl, if_neg (by decide)] at hsum
      show (get_or (apply_steps l.held _) a Held.default).consumed.val = _
      omega

/-- **Record step.** A fill record exists for exactly the posted reservations,
    after every effect. -/
theorem filled_of_effect {l l' : Ledger} (hl : l.RecordsPosted) (h : Effect l l') :
    l'.RecordsPosted := by
  cases h with
  | place r hnew hopen =>
    intro id
    show (l.filled[id]?).isSome ↔ _
    rw [hl id, get_insert]
    by_cases hid : r.id = id
    · subst hid
      simp [hnew, ne_posted_of_open hopen]
    · simp [hid]
  | move h =>
    cases h with
    | idle => exact hl
    | budgets budgets => exact hl
    | commit id r hr hstate =>
      apply filled_set_state hl .Committed l.filled (fun _ _ => rfl)
      rw [hl id, hr]
      simp [hstate]
    | post id r filled hr hopen hfills =>
      exact filled_set_state hl .Posted _
        (fun k hk => get_insert_ne _ _ (fun e => hk e.symm)) (by simp)
    | release id r terminal hr hopen hterm =>
      have hne : terminal ≠ .Posted := by
        rcases hterm with h | h <;> simp [h]
      apply filled_set_state hl terminal l.filled (fun _ _ => rfl)
      rw [hl id, hr]
      simp [ne_posted_of_open hopen, hne]
    | reorg id r hr hstate =>
      exact filled_set_state hl .ReorgOpen _
        (fun k hk => by rw [get_erase, if_neg (fun e => hk e.symm)]) (by simp)

/-- **Conservation step.** Every effect keeps the sums exact as long as they fit. -/
theorem conserves_of_effect {l l' : Ledger} (hl : l.Conserves) (h : Effect l l')
    (hfit : l'.Fits) : l'.Conserves where
  pending := pending_of_effect hl.pending h (fun a => (hfit a).1)
  consumed := consumed_of_effect hl.consumed h (fun a => (hfit a).2)
  filled := filled_of_effect hl.filled h

/-! ## Along a whole run -/

/-- No saturating update the command performs clamps: neither the compartment
    updates nor, where a reservation is placed, the demand sums. -/
def ClampsNowhere (l : Ledger) : Command → Prop
  | .restore r => l.reservations[r.id]? = none →
      DemandClampFree ∅ (demand_entries r.sources) ∧ ClampFree l.held (restore_steps r.sources)
  | .reserve r => l.can_reserve r = .ok () →
      DemandClampFree ∅ (demand_entries r.sources) ∧ ClampFree l.held (restore_steps r.sources)
  | .post id filled => ∀ sources, l.active_sources id = .ok sources →
      FillsWithin sources filled → ClampFree l.held (post_steps sources filled)
  | .void id => ∀ sources, l.active_sources id = .ok sources →
      ClampFree l.held (release_steps sources)
  | .expire id => ∀ sources, l.pending_sources id = .ok sources →
      ClampFree l.held (release_steps sources)
  | .void_reorg id => ∀ r : Reservation, l.reservations[id]? = some r → r.state = .Posted →
      ClampFree l.held (reorg_steps r.sources (get_or l.filled id []))
  | .set_budget _ _ | .set_budgets _ | .commit _ => True

/-- What an open reservation draws is part of the open demand. -/
theorem demand_le_open_demand {l : Ledger} {id : ReservationId} {r : Reservation}
    (hr : l.reservations[id]? = some r) (hopen : r.state.is_open = true) (a : AccountKey) :
    demand r.sources a ≤ l.open_demand a := by
  have hle := le_total (fun _ q => if q.state.is_open then demand q.sources a else 0)
    l.reservations hr
  simp only [hopen, if_true] at hle
  exact hle

theorem demand_le_pending {l : Ledger} (hl : ∀ a, (l.pending a).val = l.open_demand a) {id : ReservationId}
    {r : Reservation} (hr : l.reservations[id]? = some r) (hopen : r.state.is_open = true)
    (a : AccountKey) : demand r.sources a ≤ (l.pending a).val := by
  rw [hl a]
  exact demand_le_open_demand hr hopen a

theorem placing_clampFree {l : Ledger} (hl : l.Conserves) {r : Reservation}
    (hnew : l.reservations[r.id]? = none) (hopen : r.state.is_open = true)
    (hfit : (l.restore r).Fits) :
    DemandClampFree ∅ (demand_entries r.sources) ∧
      ClampFree l.held (restore_steps r.sources) := by
  apply restore_clampFree
  intro a
  have hword := (hfit a).1
  rw [restore_of_none hnew, open_demand_insert _ hnew hopen] at hword
  have hold : (get_or l.held a Held.default).pending.val = l.open_demand a := hl.pending a
  omega

/-- In a conserving state, a command after which the sums still fit clamps
    nowhere. -/
theorem clampsNowhere_of_fits {l : Ledger} (hl : l.Conserves) {c : Command}
    (hc : c.Admissible) (hfit : (l.next c).Fits) : l.ClampsNowhere c := by
  cases c with
  | set_budget account budget => trivial
  | set_budgets budgets => trivial
  | commit id => trivial
  | restore r =>
    intro hnew
    apply placing_clampFree hl hnew _ hfit
    rcases hc with hstate | hstate <;> simp [hstate, ReservationState.is_open]
  | reserve r =>
    intro hok
    have hstate : r.state = .Pending := hc
    have hplaced : l.next (.reserve r) = l.restore r := by
      simp [next, exec, reserve, hok]
    rw [hplaced] at hfit
    exact placing_clampFree hl (can_reserve_ok hok).1
      (by simp [hstate, ReservationState.is_open]) hfit
  | post id filled =>
    intro sources hs hfills
    obtain ⟨r, hr, hopen, hsrc⟩ := active_sources_ok.mp hs
    subst hsrc
    apply post_clampFree
    · exact demand_le_pending hl.pending hr hopen
    · intro a
      -- The fills are part of the sum the next state is assumed to fit.
      have hrec : ∀ k, k ≠ id → (l.filled.insert id filled)[k]? = l.filled[k]? :=
        fun k hk => get_insert_ne _ _ (fun e => hk e.symm)
      have hsum := posted_fills_set_state hr .Posted
        (apply_steps l.held (post_steps r.sources filled)) (l.filled.insert id filled) hrec a
      rw [get_or_insert, if_pos rfl, if_neg (ne_posted_of_open hopen), if_pos rfl] at hsum
      have hword := (hfit a).2
      have hnext : l.next (.post id filled) = { l with
          held := apply_steps l.held (post_steps r.sources filled)
          filled := l.filled.insert id filled
          reservations := l.set_state id r .Posted } := by
        rcases post_cases l id filled with ⟨r', hr', _, _, heq⟩ | ⟨_, hnone⟩
        · rw [hr] at hr'
          obtain rfl := Option.some.inj hr'
          simp [next, exec, heq]
        · exact absurd hfills (hnone r hr hopen)
      rw [hnext] at hword
      have hold : (get_or l.held a Held.default).consumed.val = l.posted_fills a := hl.consumed a
      omega
  | void id =>
    intro sources hs
    obtain ⟨r, hr, hopen, hsrc⟩ := active_sources_ok.mp hs
    subst hsrc
    exact release_clampFree _ _ (demand_le_pending hl.pending hr hopen)
  | expire id =>
    intro sources hs
    obtain ⟨r, hr, hstate, hsrc⟩ := pending_sources_ok.mp hs
    subst hsrc
    exact release_clampFree _ _
      (demand_le_pending hl.pending hr (by simp [hstate, ReservationState.is_open]))
  | void_reorg id =>
    intro r hr hstate
    apply reorg_clampFree
    intro a
    have := le_total (fun k q =>
      if q.state = .Posted then fill_demand q.sources (get_or l.filled k []) a else 0)
      l.reservations hr
    simp only [hstate, if_true] at this
    have hold : (get_or l.held a Held.default).consumed.val = l.posted_fills a := hl.consumed a
    rw [hold]
    exact this

/-- **Conservation over whole runs.** Along every run of admissible commands
    from the empty ledger whose sums fit at each state, the compartments are
    exactly the sums and no saturating update clamps. -/
theorem ledger_conserves (cmds : List Command) (hadm : ∀ c ∈ cmds, c.Admissible)
    (hfit : Run.Along next (fun l c => (l.next c).Fits) empty cmds) :
    (Run.run next empty cmds).Conserves ∧ Run.Along next ClampsNowhere empty cmds := by
  have hboth : Run.Along next (fun l c => c.Admissible ∧ (l.next c).Fits) empty cmds :=
    Run.along_and (Run.along_of_forall (fun c hc _ => hadm c hc) _) hfit
  have hstep : ∀ (l : Ledger) (c : Command), l.Conserves →
      c.Admissible ∧ (l.next c).Fits → (l.next c).Conserves :=
    fun l c hl h => conserves_of_effect hl (effect_next l h.1) h.2
  constructor
  · exact Run.invariant hstep conserves_empty hboth
  · exact Run.along_of_invariant hstep
      (fun l c hl h => clampsNowhere_of_fits hl h.1 h.2) conserves_empty hboth

/-! ## A run that fits

    `Fits` quantifies over every account; `gross`, the sum of everything the
    ledger has on record, bounds each of the sums and can be evaluated. -/

/-- Everything on record: the amounts of all sources and all recorded fills. -/
def gross (l : Ledger) : ℕ :=
  total (fun id r => (r.sources.map fun s => s.amount.val).sum +
    ((get_or l.filled id []).map Fin.val).sum) l.reservations

theorem fits_of_gross {l : Ledger} (h : l.gross < 2 ^ 256) : l.Fits := by
  intro a
  constructor
  · refine lt_of_le_of_lt (total_mono l.reservations ?_) h
    intro id r _
    have := demand_le_sum r.sources a
    split
    · omega
    · omega
  · refine lt_of_le_of_lt (total_mono l.reservations ?_) h
    intro id r _
    have := fill_demand_le_sum r.sources (get_or l.filled id []) a
    split
    · omega
    · omega

/-- One source of the first maker's first strategy, drawing `amount` of token 1. -/
def sample_source (amount : U256) : ReservationSource :=
  { maker := ⟨1⟩, strategy_hash := ⟨1⟩, token := 1, amount }

/-- A swap reservation of one such source. -/
def sample_reservation (id : B256) (amount : U256) : Reservation :=
  .for_swap ⟨id⟩ ⟨id⟩ [sample_source amount] 100

/-- Fund both ceilings, hold 10, settle 4 of it and take the settlement back. -/
def sample_run : List Command :=
  [.set_budget (.WalletBudget ⟨1⟩ 1) 10, .set_budget (.StrategyVirtual ⟨1⟩ ⟨1⟩ 1) 10,
    .reserve (sample_reservation 1 10), .commit ⟨1⟩, .post ⟨1⟩ [4], .void_reorg ⟨1⟩]

theorem ledger_conserves_sample_run :
    (Run.run next empty sample_run).Conserves ∧ Run.Along next ClampsNowhere empty sample_run :=
  ledger_conserves sample_run
    (by
      intro c hc
      simp only [sample_run, List.mem_cons, List.not_mem_nil, or_false] at hc
      rcases hc with rfl | rfl | rfl | rfl | rfl | rfl
      all_goals trivial)
    (by
      refine ⟨fits_of_gross ?_, fits_of_gross ?_, fits_of_gross ?_, fits_of_gross ?_,
        fits_of_gross ?_, fits_of_gross ?_, trivial⟩
      all_goals decide +kernel)

/-- The admission check itself saturates: the demand of a reservation that asks
    twice for the greatest word is summed with a clamp before it is refused, on
    a ledger whose own sums are all zero. -/
theorem refused_reserve_clamps_its_demand :
    let r : Reservation := .for_swap ⟨1⟩ ⟨1⟩ [sample_source U256.MAX, sample_source U256.MAX] 100
    Command.Admissible (.reserve r) ∧
      (∃ shortfall, (empty.exec (.reserve r)).1 = .error (.Insufficient shortfall)) ∧
      Run.Along next (fun l c => (l.next c).Fits) empty [.reserve r] ∧
      ¬ DemandClampFree ∅ (demand_entries r.sources) := by
  refine ⟨rfl, ⟨⟨.WalletBudget ⟨1⟩ 1, U256.MAX, 0⟩, ?_⟩, ⟨fits_of_gross ?_, trivial⟩, ?_⟩
  · decide +kernel
  · decide +kernel
  · intro h
    have hwallet := h.2.2.1
    revert hwallet
    decide +kernel

end Ledger

end Solvent
