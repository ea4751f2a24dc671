import Solvent.Rebate.Promises

/-! # Memory against the tables

    How the invariant fares under each single change: a save, a change of memory, a
    hold that goes or comes, a guard, a batch that closes.
-/

namespace Solvent

open Abi BTreeMap Contract SqliteRebateStore

/-- The state in memory against the row's: the same, or that of an interrupted
    transition whose undoing is not written yet. -/
inductive Lags (stored : ReservationId → Option Reservation) (row : RebateBatchState) :
    RebateBatchState → Prop where
  | same : Lags stored row row
  | invalidating (id : ReservationId) (h : RebateService.interrupted row = some id) :
      Lags stored row (.Invalidating id)
  | guarded (id : ReservationId) (h : RebateService.interrupted row = some id)
      (hgone : stored id = none) : Lags stored row .Guarded

/-- What a method may do since it began, at `origin` and `holds`: open the batches of
    `opens`, publish what `publishes` allows, name and hold for a batch what `claims`
    allows, and end the published work of the batches of `except`. -/
structure Frame where
  origin : SqliteRebateStore
  holds : LedgerService
  except : RebateBatchId → Prop
  opens : RebateBatchId → Prop
  publishes : RebateExecution → Prop
  claims : RebateBatchId → ReservationId → Prop

/-- Published work stays as it is, settlements too, and no leg is lost. -/
structure Calm (F : Frame) (store : SqliteRebateStore) : Prop where
  settlements : ∀ b, ¬F.except b → store.rebate_settlement[b]? = F.origin.rebate_settlement[b]?
  ready : ∀ b execution, ¬F.except b → F.origin.state_of b = some (.Ready execution) →
    store.state_of b = some (.Ready execution)
  published : ∀ b execution, store.state_of b = some (.Ready execution) →
    F.origin.state_of b = some (.Ready execution) ∨ F.publishes execution
  opened : ∀ b state, store.state_of b = some state →
    F.opens b ∨ ∃ state', F.origin.state_of b = some state'
  legs : ∀ (b : RebateBatchId) (row : BatchRow), F.origin.rebate_batch[b]? = some row →
    ∃ row', store.rebate_batch[b]? = some row' ∧ row'.strategy = row.strategy ∧
      ∀ (t : TradeId) (a : MinedAccrual), row.accruals[t]? = some a → row'.accruals[t]? = some a
  cursor : store.rebate_scan_cursor = F.origin.rebate_scan_cursor
  recorded : Retains F.origin store

theorem Calm.refl (F : Frame) : Calm F F.origin where
  settlements _ _ := rfl
  ready _ _ _ h := h
  published _ _ h := .inl h
  opened _ state h := .inr ⟨state, h⟩
  legs _ row hrow := ⟨row, hrow, rfl, fun _ _ h => h⟩
  cursor := rfl
  recorded := .of_eq fun _ => rfl

/-- **A row is written** that was not published, or may change anyway. -/
theorem Calm.write {F : Frame} {store store' : SqliteRebateStore} {batch : RebateBatch}
    (h : Calm F store) (hwrites : Writes batch.id (batch.row batch.accruals) store store')
    (hlegs : ∀ row, store.rebate_batch[batch.id]? = some row → row.strategy = batch.strategy ∧
      ∀ (t : TradeId) (a : MinedAccrual), row.accruals[t]? = some a → batch.accruals[t]? = some a)
    (hready : F.except batch.id ∨ ∀ execution, store.state_of batch.id ≠ some (.Ready execution))
    (hopens : F.opens batch.id ∨ ∃ state, store.state_of batch.id = some state)
    (hpublishes : ∀ execution, batch.state = .Ready execution → F.publishes execution) :
    Calm F store' where
  settlements b hb := by
    rw [hwrites.settlements]
    exact h.settlements b hb
  ready b execution hb horigin := by
    have hnow := h.ready b execution hb horigin
    rw [hwrites.state_of, if_neg]
    · exact hnow
    · rintro rfl
      exact hready.elim hb fun hne => hne execution hnow
  published b execution hstate := by
    rw [hwrites.state_of] at hstate
    split at hstate
    · exact .inr (hpublishes execution (Option.some.inj hstate))
    · exact h.published b execution hstate
  opened b state hstate := by
    rw [hwrites.state_of] at hstate
    split at hstate
    · subst b
      exact hopens.elim .inl fun ⟨state', hstate'⟩ => h.opened _ state' hstate'
    · exact h.opened b state hstate
  legs b row hrow := by
    obtain ⟨row', hrow', hkey, hkept⟩ := h.legs b row hrow
    by_cases hb : b = batch.id
    · subst hb
      obtain ⟨hstrategy, hmore⟩ := hlegs row' hrow'
      exact ⟨_, hwrites.row, hstrategy.symm.trans hkey, fun t a ha => hmore t a (hkept t a ha)⟩
    · exact ⟨row', (hwrites.others b hb).trans hrow', hkey, hkept⟩
  cursor := hwrites.cursor.trans h.cursor
  recorded := h.recorded.trans (.of_eq fun b => by rw [hwrites.settlements])

/-- **A batch closes** that was not published, or may change anyway. -/
theorem Calm.close {F : Frame} {store store' : SqliteRebateStore} {b : RebateBatchId} (h : Calm F store)
    (hrows : ∀ a : RebateBatchId, store'.rebate_batch[a]? = (store.close b).rebate_batch[a]?)
    (hsettlements : ∀ a, ¬F.except a → store'.rebate_settlement[a]? = store.rebate_settlement[a]?)
    (hretains : Retains store store') (hcursor : store'.rebate_scan_cursor = store.rebate_scan_cursor)
    (hready : F.except b ∨ ∀ execution, store.state_of b ≠ some (.Ready execution)) :
    Calm F store' := by
  have hstate : ∀ a, store'.state_of a = if a = b then none else store.state_of a := by
    intro a
    rw [← state_of_close]
    exact congrArg (Option.bind · BatchRow.state) (hrows a)
  refine ⟨fun a ha => (hsettlements a ha).trans (h.settlements a ha), fun a execution ha horigin => ?_,
    fun a execution hnow => ?_, fun a state hnow => ?_, fun a row hrow => ?_, hcursor.trans h.cursor,
    h.recorded.trans hretains⟩
  · have hnow := h.ready a execution ha horigin
    rw [hstate, if_neg]
    · exact hnow
    · rintro rfl
      exact hready.elim ha fun hne => hne execution hnow
  · rw [hstate] at hnow
    split at hnow
    · cases hnow
    · exact h.published a execution hnow
  · rw [hstate] at hnow
    split at hnow
    · cases hnow
    · exact h.opened a state hnow
  · obtain ⟨row', hrow', hkey, hkept⟩ := h.legs a row hrow
    refine ⟨_, by rw [hrows, close_row, hrow']; rfl, ?_, ?_⟩
    · split
      · exact hkey
      · exact hkey
    · split
      · exact hkept
      · exact hkept

/-- **A settlement is recorded** of a batch that may change. -/
theorem Calm.record {F : Frame} {store store' : SqliteRebateStore} {settlement : RebateSettlement}
    (h : Calm F store) (hrecords : Records settlement store store')
    (hexcept : F.except settlement.plan.batch_id) : Calm F store' := by
  have hstate : ∀ a, store'.state_of a = store.state_of a := by
    intro a
    unfold SqliteRebateStore.state_of
    rw [hrecords.rows]
  refine ⟨fun a ha => ?_, fun a execution ha horigin => ?_, fun a execution hnow => ?_,
    fun a state hnow => h.opened a state ((hstate a).symm.trans hnow), fun a row hrow => ?_,
    hrecords.cursor.trans h.cursor, h.recorded.trans hrecords.retains⟩
  · rw [hrecords.others a]
    · exact h.settlements a ha
    · rintro rfl
      exact ha hexcept
  · rw [hstate]
    exact h.ready a execution ha horigin
  · rw [hstate] at hnow
    exact h.published a execution hnow
  · rw [hrecords.rows]
    exact h.legs a row hrow

namespace RebateService

variable {keccak256 : Bytes → B256} {F : Frame} {s s' : RebateService} {key : StrategyKey} {batch : RebateBatch}
  {id : ReservationId}

/-- What holds wherever the process dies. -/
structure Durable (keccak256 : Bytes → B256) (s : RebateService) : Prop where
  tables : Tables keccak256 s.store
  promised : Promised s.store.state_of s.ledger.stored s.store.Settling

/-- A batch in memory is its open row, up to a state that lags. -/
structure Mirrors (store : SqliteRebateStore) (stored : ReservationId → Option Reservation)
    (key : StrategyKey) (batch : RebateBatch) : Prop where
  key : batch.strategy = key
  row : ∃ row state, store.rebate_batch[batch.id]? = some row ∧ row.state = some state ∧
    row.batch batch.id batch.state = batch ∧ Lags stored state batch.state

/-- Nothing names or holds a reservation that did not, but what is claimed. -/
structure Unclaiming (F : Frame) (store : SqliteRebateStore) (ledger : LedgerService) : Prop where
  names : ∀ b st id, store.state_of b = some st → st.active_reservation = some id →
    F.claims b id ∨ ∃ st', F.origin.state_of b = some st' ∧ st'.active_reservation = some id
  held : ∀ id r, ledger.held id = some r → F.holds.held id = some r ∨
    ∃ b, r.owner = .Rebate b ∧ F.claims b id
  stored : ∀ id r, ledger.stored id = some r → F.holds.stored id = some r ∨
    ∃ b, r.owner = .Rebate b ∧ F.claims b id

/-- Rows name what they named, or what is claimed. -/
theorem Unclaiming.store {F : Frame} {store store' : SqliteRebateStore} {ledger : LedgerService}
    (h : Unclaiming F store ledger)
    (hnames : ∀ b st id, store'.state_of b = some st → st.active_reservation = some id →
      F.claims b id ∨ ∃ st', store.state_of b = some st' ∧ st'.active_reservation = some id) :
    Unclaiming F store' ledger := by
  refine ⟨fun b st id hst hid => ?_, h.held, h.stored⟩
  rcases hnames b st id hst hid with hclaimed | ⟨st', hst', hid'⟩
  · exact .inl hclaimed
  · exact h.names b st' id hst' hid'

/-- A batch changes its state, or closes. -/
theorem Unclaiming.update {F : Frame} {store store' : SqliteRebateStore} {ledger : LedgerService}
    (h : Unclaiming F store ledger) {b : RebateBatchId} {state : Option RebateBatchState}
    (hstate : ∀ a, store'.state_of a = if a = b then state else store.state_of a)
    (hnames : ∀ st id, state = some st → st.active_reservation = some id →
      F.claims b id ∨ ∃ st', store.state_of b = some st' ∧ st'.active_reservation = some id) :
    Unclaiming F store' ledger := by
  refine h.store fun a st id hst hid => ?_
  rw [hstate] at hst
  split at hst
  · subst a
    exact hnames st id hst hid
  · exact .inr ⟨st, hst, hid⟩

theorem Unclaiming.release {F : Frame} {store : SqliteRebateStore} {ledger ledger' : LedgerService}
    {id : ReservationId} (h : Unclaiming F store ledger)
    (hcloses : LedgerService.Closes id ledger ledger') : Unclaiming F store ledger' where
  names := h.names
  held k r hr := h.held k r (hcloses.held_of hr)
  stored k r hr := h.stored k r (hcloses.stored_of hr)

/-- What holds between calls. -/
structure Consistent (keccak256 : Bytes → B256) (F : Frame) (s : RebateService) : Prop
    extends Durable keccak256 s where
  calm : Calm F s.store
  unclaiming : Unclaiming F s.store s.ledger
  mirrors : ∀ (key : StrategyKey) (batch : RebateBatch), s.batches[key]? = some batch →
    Mirrors s.store s.ledger.stored key batch
  loaded : ∀ (b : RebateBatchId) (row : BatchRow), s.store.rebate_batch[b]? = some row →
    row.state.isSome = true → ∃ batch, s.batches[row.strategy]? = some batch ∧ batch.id = b
  guarded : ∀ (key : StrategyKey) (batch : RebateBatch), s.batches[key]? = some batch →
    batch.state ≠ .Accumulating → key ∈ s.guards
  agree : ∀ b st id, s.store.state_of b = some st → st.active_reservation = some id →
    s.ledger.held id = s.ledger.stored id
  owned_held : ∀ id r b, s.ledger.held id = some r → r.owner = .Rebate b →
    ∃ st, s.store.state_of b = some st ∧ st.active_reservation = some id
  keyed : s.ledger.ledger.Keyed

theorem active_of_interrupted {state : RebateBatchState} (h : interrupted state = some id) :
    state.active_reservation = some id := by
  cases state with
  | Preparing plan reservation => exact h
  | Invalidating reservation => exact h
  | _ => cases h

/-! ## Reading the invariant -/

theorem Mirrors.state_of (h : Mirrors s.store s.ledger.stored key batch) :
    ∃ state, s.store.state_of batch.id = some state ∧ Lags s.ledger.stored state batch.state := by
  obtain ⟨row, state, hrow, hstate, -, hlags⟩ := h.row
  exact ⟨state, state_of_eq_some.mpr ⟨row, hrow, hstate⟩, hlags⟩

/-- Published work is published in the table. -/
theorem Mirrors.ready (h : Mirrors s.store s.ledger.stored key batch) {execution : RebateExecution}
    (hready : batch.state = .Ready execution) : s.store.state_of batch.id = some (.Ready execution) := by
  obtain ⟨state, hstate, hlags⟩ := h.state_of
  rw [hready] at hlags
  cases hlags
  exact hstate

theorem Mirrors.not_ready (h : Mirrors s.store s.ledger.stored key batch) (hready : batch.state.is_ready = false)
    {state : RebateBatchState} (hstate : s.store.state_of batch.id = some state)
    (execution : RebateExecution) : state ≠ .Ready execution := by
  obtain ⟨state', hstate', hlags⟩ := h.state_of
  obtain rfl := Option.some.inj (hstate'.symm.trans hstate)
  rintro rfl
  generalize batch.state = memory at hlags hready
  cases hlags with
  | same => cases hready
  | invalidating id h => cases h
  | guarded id h => cases h

/-- What memory names is what the row names. -/
theorem Mirrors.names (h : Mirrors s.store s.ledger.stored key batch) (hid : batch.state.active_reservation = some id)
    {state : RebateBatchState} (hstate : s.store.state_of batch.id = some state) :
    state.active_reservation = some id := by
  obtain ⟨state', hstate', hlags⟩ := h.state_of
  obtain rfl := Option.some.inj (hstate'.symm.trans hstate)
  generalize batch.state = memory at hlags hid
  cases hlags with
  | same => exact hid
  | invalidating id' h =>
    obtain rfl := Option.some.inj hid
    exact active_of_interrupted h
  | guarded id' h => cases hid

/-- Where memory names nothing, nothing is held. -/
theorem Consistent.unheld (h : Consistent keccak256 F s) (hbatch : s.batches[key]? = some batch)
    (hnone : batch.state.active_reservation = none) {r : Reservation}
    (hr : s.ledger.stored id = some r) : r.owner ≠ .Rebate batch.id := by
  intro howner
  obtain ⟨-, st, hst, hactive⟩ := h.promised.owned id r _ hr howner
  obtain ⟨state, hstate, hlags⟩ := (h.mirrors key batch hbatch).state_of
  obtain rfl := Option.some.inj (hstate.symm.trans hst)
  generalize batch.state = memory at hlags hnone
  cases hlags with
  | same =>
    rw [hnone] at hactive
    cases hactive
  | invalidating id' h => cases hnone
  | guarded id' hinterrupted hgone =>
    rw [active_of_interrupted hinterrupted] at hactive
    obtain rfl := Option.some.inj hactive
    rw [hgone] at hr
    cases hr

/-- Where memory names a reservation, nothing else is held. -/
theorem Consistent.holds_only (h : Consistent keccak256 F s) (hbatch : s.batches[key]? = some batch)
    {id' : ReservationId} (hid : batch.state.active_reservation = some id') {r : Reservation}
    (hr : s.ledger.stored id = some r) (howner : r.owner = .Rebate batch.id) : id = id' := by
  obtain ⟨-, st, hst, hactive⟩ := h.promised.owned id r _ hr howner
  have hnamed := (h.mirrors key batch hbatch).names hid hst
  exact Option.some.inj (hactive.symm.trans hnamed)

/-- An open row is in memory, under its strategy. -/
theorem Consistent.batch_of_row (h : Consistent keccak256 F s) {row : BatchRow} {b : RebateBatchId}
    (hrow : s.store.rebate_batch[b]? = some row) (hbatch : s.batches[key]? = some batch)
    (hid : batch.id = b) : row.strategy = key := by
  subst hid
  obtain ⟨hkey, row', state, hrow', -, heq, -⟩ := h.mirrors key batch hbatch
  obtain rfl := Option.some.inj (hrow'.symm.trans hrow)
  exact (congrArg RebateBatch.strategy heq).trans hkey

/-- A batch is in memory once. -/
theorem Consistent.key_of_id (h : Consistent keccak256 F s) (hbatch : s.batches[key]? = some batch)
    {k : StrategyKey} {other : RebateBatch} (hother : s.batches[k]? = some other)
    (hid : other.id = batch.id) : k = key := by
  obtain ⟨-, row, state, hrow, -⟩ := h.mirrors key batch hbatch
  exact (h.batch_of_row hrow hother hid).symm.trans (h.batch_of_row hrow hbatch rfl)

/-- A hold in memory that a batch names is that batch's, pending. -/
theorem Consistent.held_named (h : Consistent keccak256 F s) {b : RebateBatchId} {st : RebateBatchState}
    (hstate : s.store.state_of b = some st) (hid : st.active_reservation = some id) {r : Reservation}
    (hr : s.ledger.held id = some r) :
    s.ledger.stored id = some r ∧ r.owner = .Rebate b ∧ r.state = .Pending := by
  have hstored := (h.agree b st id hstate hid).symm.trans hr
  have howner := h.promised.named b st id r hstate hid hstored
  exact ⟨hstored, howner, (h.promised.owned id r b hstored howner).1⟩

/-! ## Memory -/

theorem Consistent.guard (h : Consistent keccak256 F s) (key : StrategyKey) :
    Consistent keccak256 F { s with guards := s.guards.insert key } :=
  { h with
    guarded := fun k batch hbatch hstate => (BTreeSet.mem_insert _).mpr (.inr (h.guarded k batch hbatch hstate)) }

/-- A strategy that quotes, or has no batch, loses its guard. -/
theorem Consistent.unguard (h : Consistent keccak256 F s)
    (hquotes : ∀ batch, s.batches[key]? = some batch → batch.state = .Accumulating) :
    Consistent keccak256 F { s with guards := s.guards.erase key } :=
  { h with
    guarded := fun k batch hbatch hstate => by
      refine (BTreeSet.mem_erase _).mpr ⟨?_, h.guarded k batch hbatch hstate⟩
      rintro rfl
      exact hstate (hquotes batch hbatch) }

/-- **Memory moves ahead of the table.** -/
theorem Consistent.put (h : Consistent keccak256 F s) (hbatch : s.batches[key]? = some batch)
    {state row_state : RebateBatchState} (hstate : s.store.state_of batch.id = some row_state)
    (hlags : Lags s.ledger.stored row_state state) (hguard : state ≠ .Accumulating → key ∈ s.guards) :
    Consistent keccak256 F { s with batches := s.batches.insert key (batch.enter state) } := by
  refine { h with mirrors := fun k next hnext => ?_, loaded := fun b row hrow hopen => ?_,
                  guarded := fun k next hnext hne => ?_ }
  · rw [get_insert] at hnext
    split at hnext
    · subst k
      obtain rfl := Option.some.inj hnext
      obtain ⟨hkey, row, state', hrow, hrowstate, heq, -⟩ := h.mirrors key batch hbatch
      obtain rfl := Option.some.inj (hstate.symm.trans (state_of_eq_some.mpr ⟨row, hrow, hrowstate⟩))
      refine ⟨hkey, row, row_state, hrow, hrowstate, ?_, hlags⟩
      rw [← heq]
      rfl
    · obtain ⟨hkey, hrow⟩ := h.mirrors k next hnext
      exact ⟨hkey, hrow⟩
  · obtain ⟨old, hold, hid⟩ := h.loaded b row hrow hopen
    by_cases hk : key = row.strategy
    · subst hk
      obtain rfl := Option.some.inj (hold.symm.trans hbatch)
      exact ⟨_, (get_insert _ _ _ _).trans (if_pos rfl), hid⟩
    · exact ⟨old, (get_insert_ne _ _ hk).trans hold, hid⟩
  · rw [get_insert] at hnext
    split at hnext
    · subst k
      obtain rfl := Option.some.inj hnext
      exact hguard hne
    · exact h.guarded k next hnext hne

/-! ## Saves -/

/-- **A batch is saved, and memory has it.** -/
theorem Consistent.save (h : Consistent keccak256 F s) {store : SqliteRebateStore}
    (hsave : s.store.save batch = .ok store) (hvalid : validate_batch batch = .ok ())
    (hloads : stored_state keccak256 batch.state = .ok batch.state)
    (hreservation : ∀ id, batch.state.active_reservation = some id → id.hash ≠ 0)
    (hlegs : ∀ row, s.store.rebate_batch[batch.id]? = some row → ∀ (t : TradeId) (a : MinedAccrual),
      row.accruals[t]? = some a → batch.accruals[t]? = some a)
    (hsettlement : s.store.rebate_settlement[batch.id]? = none)
    (hready : F.except batch.id ∨ ∀ execution, s.store.state_of batch.id ≠ some (.Ready execution))
    (hopens : F.opens batch.id ∨ ∃ state, s.store.state_of batch.id = some state)
    (hpublishes : ∀ execution, batch.state = .Ready execution → F.publishes execution)
    (hclaims : ∀ id, batch.state.active_reservation = some id → F.claims batch.id id ∨
      ∃ st, s.store.state_of batch.id = some st ∧ st.active_reservation = some id)
    (hguard : batch.state ≠ .Accumulating → batch.strategy ∈ s.guards)
    (hkeeps : ∀ id r, s.ledger.stored id = some r → r.owner = .Rebate batch.id →
      batch.state.active_reservation = some id)
    (howns : ∀ id r, batch.state.active_reservation = some id → s.ledger.stored id = some r →
      r.owner = .Rebate batch.id)
    (hagree : ∀ id, batch.state.active_reservation = some id → s.ledger.held id = s.ledger.stored id)
    (hbacked : ∀ execution, batch.state = .Ready execution →
      ∃ r, s.ledger.stored execution.reservation = some r ∧
        r.sources = [execution.plan.source execution.plan.strategy])
    (hstore : s'.store = store) (hledger : s'.ledger = s.ledger) (hguards : s'.guards = s.guards)
    (hbatches : ∀ k : StrategyKey, s'.batches[k]? =
      if k = batch.strategy then some batch else s.batches[k]?) :
    Consistent keccak256 F s' := by
  obtain ⟨htables, hwrites⟩ := h.tables.save hsave hvalid hloads hreservation hlegs hsettlement
  have hrow_key : ∀ row, s.store.rebate_batch[batch.id]? = some row → row.strategy = batch.strategy := by
    intro row hrow
    obtain ⟨old, legs, hfinds, -⟩ := save_ok h.tables.schema (validate_batch_ok.mp hvalid).1.keyed hsave
    rcases hfinds with ⟨hnone, -⟩ | ⟨row', hrow', hstrategy, -⟩
    · cases hnone.symm.trans hrow
    · obtain rfl := Option.some.inj (hrow'.symm.trans hrow)
      exact hstrategy
  have hfinds : ∀ (k : StrategyKey) (other : RebateBatch), s.batches[k]? = some other →
      other.id = batch.id → k = batch.strategy := by
    intro k other hother hid
    obtain ⟨-, row, state, hrow, -, -, -⟩ := h.mirrors k other hother
    rw [hid] at hrow
    exact (h.batch_of_row hrow hother hid).symm.trans (hrow_key row hrow)
  have hstate : ∀ a, s'.store.state_of a =
      if a = batch.id then some batch.state else s.store.state_of a := by
    rw [hstore]
    exact hwrites.state_of
  have hsettling : ∀ a, a ≠ batch.id → s.store.Settling a → s'.store.Settling a := by
    rintro a - ⟨entry, hentry, hstatus⟩
    refine ⟨entry, ?_, hstatus⟩
    rw [hstore, hwrites.settlements]
    exact hentry
  have hcalm := h.calm.write hwrites (fun row hrow => ⟨hrow_key row hrow, hlegs row hrow⟩) hready
    hopens hpublishes
  refine ⟨⟨hstore ▸ htables, ?_⟩, hstore ▸ hcalm, ?_,
    fun k other hother => ?_, fun b row hrow hopen => ?_,
    fun k other hother hne => ?_, fun b st id hst hid => ?_, fun id r b hr howner => ?_,
    hledger ▸ h.keyed⟩
  · rw [hledger]
    exact h.promised.update hstate hsettling hkeeps howns hbacked
  · rw [hledger]
    refine h.unclaiming.update hstate fun st id hst hid => ?_
    obtain rfl := Option.some.inj hst
    exact hclaims id hid
  · rw [hbatches] at hother
    split at hother
    · subst k
      obtain rfl := Option.some.inj hother
      refine ⟨rfl, _, batch.state, ?_, rfl, row_batch batch, .same⟩
      rw [hstore]
      exact hwrites.row
    · obtain ⟨hkey, row, state, hrow, hrest⟩ := h.mirrors k other hother
      have hid : other.id ≠ batch.id := fun hid => ‹¬k = batch.strategy› (hfinds k other hother hid)
      refine ⟨hkey, row, state, ?_, by rw [hledger]; exact hrest⟩
      rw [hstore, hwrites.others _ hid]
      exact hrow
  · rw [hbatches]
    split
    · refine ⟨batch, rfl, ?_⟩
      have hrow' : s'.store.rebate_batch[batch.id]? = some (batch.row batch.accruals) :=
        hstore ▸ hwrites.row
      exact (hstore ▸ htables).schema.one_open hrow' hrow (Eq.symm ‹_›) rfl hopen
    · have hb : b ≠ batch.id := by
        rintro rfl
        rw [hstore, hwrites.row] at hrow
        obtain rfl := Option.some.inj hrow
        exact ‹¬_› rfl
      rw [hstore, hwrites.others b hb] at hrow
      exact h.loaded b row hrow hopen
  · rw [hguards]
    rw [hbatches] at hother
    split at hother
    · subst k
      obtain rfl := Option.some.inj hother
      exact hguard hne
    · exact h.guarded k other hother hne
  · rw [hledger]
    rw [hstate] at hst
    split at hst
    · obtain rfl := Option.some.inj hst
      exact hagree id hid
    · exact h.agree b st id hst hid
  · rw [hledger] at hr
    obtain ⟨st, hst, hid⟩ := h.owned_held id r b hr howner
    rw [hstate]
    split
    · subst b
      exact ⟨_, rfl, hkeeps id r ((h.agree _ st id hst hid).symm.trans hr) howner⟩
    · exact ⟨st, hst, hid⟩

/-! ## Holds -/

theorem Lags.mono {stored stored' : ReservationId → Option Reservation} {row memory : RebateBatchState}
    (h : Lags stored row memory) (hgone : ∀ k, stored k = none → stored' k = none) :
    Lags stored' row memory := by
  cases h with
  | same => exact .same
  | invalidating id h => exact .invalidating id h
  | guarded id h hnone => exact .guarded id h (hgone id hnone)

/-- **A hold goes** that no unsettled published work needs. -/
theorem Consistent.release (h : Consistent keccak256 F s) {ledger : LedgerService}
    (hcloses : LedgerService.Closes id s.ledger ledger)
    (hsafe : ∀ b execution, s.store.state_of b = some (.Ready execution) →
      execution.reservation = id → s.store.Settling b ∨ s.ledger.stored id = none) :
    Consistent keccak256 F { s with ledger } := by
  have hstored : ∀ k, k ≠ id → ledger.stored k = s.ledger.stored k := fun k hk =>
    (hcloses.others k hk).stored
  have hheld : ∀ k, k ≠ id → ledger.held k = s.ledger.held k := fun k hk =>
    (hcloses.others k hk).held
  refine ⟨⟨h.tables, h.promised.release hcloses.stored hstored hsafe⟩, h.calm,
    h.unclaiming.release hcloses, fun key batch hbatch => ?_, h.loaded, h.guarded,
    fun b st k hst hk => ?_, fun k r b hr howner => h.owned_held k r b (hcloses.held_of hr) howner,
    hcloses.keyed h.keyed⟩
  · obtain ⟨hkey, row, state, hrow, hstate, heq, hlags⟩ := h.mirrors key batch hbatch
    refine ⟨hkey, row, state, hrow, hstate, heq, Lags.mono hlags fun k hk => ?_⟩
    by_cases hid : k = id
    · exact hid ▸ hcloses.stored
    · exact (hstored k hid).trans hk
  · by_cases hid : k = id
    · subst hid
      exact hcloses.held.trans hcloses.stored.symm
    · rw [hheld k hid, hstored k hid]
      exact h.agree b st k hst hk

/-- **A hold comes** for the batch that alone names it. -/
theorem Consistent.reserve (h : Consistent keccak256 F s) {ledger : LedgerService} {b : RebateBatchId}
    {plan : RebatePlan} {r : Reservation} (hstate : s.store.state_of b = some (.Preparing plan id))
    (halone : ∀ a st, s.store.state_of a = some st → st.active_reservation = some id → a = b)
    (hlags : ∀ (key : StrategyKey) (batch : RebateBatch), s.batches[key]? = some batch →
      batch.id = b → batch.state = .Preparing plan id)
    (howner : r.owner = .Rebate b) (hpending : r.state = .Pending) (hclaims : F.claims b id)
    (hheld : ledger.held id = some r) (hstored : ledger.stored id = some r)
    (hothers : LedgerService.Touches id s.ledger ledger) (hkeyed : ledger.ledger.Keyed) :
    Consistent keccak256 F { s with ledger } := by
  refine ⟨⟨h.tables, h.promised.reserve hstate halone hstored howner hpending fun k hk =>
      (hothers k hk).stored⟩, h.calm,
    ⟨h.unclaiming.names, fun k r' hr' => ?_, fun k r' hr' => ?_⟩, fun key batch hbatch => ?_, h.loaded, h.guarded, fun a st k hst hk => ?_,
    fun k r' a hr' howner' => ?_, hkeyed⟩
  · by_cases hid : k = id
    · subst hid
      obtain rfl := Option.some.inj (hheld.symm.trans hr')
      exact .inr ⟨b, howner, hclaims⟩
    · exact h.unclaiming.held k r' ((hothers k hid).held.symm.trans hr')
  · by_cases hid : k = id
    · subst hid
      obtain rfl := Option.some.inj (hstored.symm.trans hr')
      exact .inr ⟨b, howner, hclaims⟩
    · exact h.unclaiming.stored k r' ((hothers k hid).stored.symm.trans hr')
  · obtain ⟨hkey, row, state, hrow, hrowstate, heq, hlag⟩ := h.mirrors key batch hbatch
    refine ⟨hkey, row, state, hrow, hrowstate, heq, ?_⟩
    have hof := state_of_eq_some.mpr ⟨row, hrow, hrowstate⟩
    generalize hmemory : batch.state = memory at hlag
    cases hlag with
    | same => exact .same
    | invalidating k hk => exact .invalidating k hk
    | guarded k hk hgone =>
      refine .guarded k hk ?_
      have hne : k ≠ id := by
        rintro rfl
        have hb := halone _ _ hof (active_of_interrupted hk)
        rw [hlags key batch hbatch hb] at hmemory
        cases hmemory
      exact (hothers k hne).stored.trans hgone
  · by_cases hid : k = id
    · subst hid
      exact hheld.trans hstored.symm
    · exact ((hothers k hid).held.trans (h.agree a st k hst hk)).trans (hothers k hid).stored.symm
  · by_cases hid : k = id
    · subst hid
      obtain rfl := Option.some.inj (hheld.symm.trans hr')
      obtain rfl := ReservationOwner.Rebate.inj (howner.symm.trans howner')
      exact ⟨_, hstate, rfl⟩
    · exact h.owned_held k r' a ((hothers k hid).held.symm.trans hr') howner'

/-! ## Closing -/

/-- **A batch without a hold closes**, and memory and the guards let it go. -/
theorem Consistent.close (h : Consistent keccak256 F s) (hbatch : s.batches[key]? = some batch)
    (hnone : ∀ id r, s.ledger.stored id = some r → r.owner ≠ .Rebate batch.id)
    (htables : Tables keccak256 s'.store)
    (hrows : ∀ a : RebateBatchId,
      s'.store.rebate_batch[a]? = (s.store.close batch.id).rebate_batch[a]?)
    (hsettling : ∀ a, a ≠ batch.id → s.store.Settling a → s'.store.Settling a)
    (hsettlements : ∀ a, ¬F.except a →
      s'.store.rebate_settlement[a]? = s.store.rebate_settlement[a]?)
    (hretains : Retains s.store s'.store)
    (hcursor : s'.store.rebate_scan_cursor = s.store.rebate_scan_cursor)
    (hready : F.except batch.id ∨ ∀ execution, s.store.state_of batch.id ≠ some (.Ready execution))
    (hledger : s'.ledger = s.ledger) (hbatches : s'.batches = s.batches.erase key)
    (hguards : s'.guards = s.guards.erase key) : Consistent keccak256 F s' := by
  have hstate : ∀ a, s'.store.state_of a = if a = batch.id then none else s.store.state_of a := by
    intro a
    rw [← state_of_close]
    exact congrArg (Option.bind · BatchRow.state) (hrows a)
  have hkey := (h.mirrors key batch hbatch).key
  have hopen : ∀ (a : RebateBatchId) (row : BatchRow), s'.store.rebate_batch[a]? = some row →
      row.state.isSome = true → a ≠ batch.id ∧ s.store.rebate_batch[a]? = some row := by
    intro a row hrow hsome
    rw [hrows, close_row] at hrow
    obtain ⟨row', hrow', rfl⟩ := Option.map_eq_some_iff.mp hrow
    split at hsome
    · cases hsome
    · exact ⟨‹_›, by rw [if_neg ‹_›]; exact hrow'⟩
  have hother : ∀ (k : StrategyKey) (other : RebateBatch), k ≠ key → s.batches[k]? = some other →
      other.id ≠ batch.id := by
    exact fun k other hk hother hid => hk (h.key_of_id hbatch hother hid)
  refine ⟨⟨htables, ?_⟩, h.calm.close hrows hsettlements hretains hcursor hready,
    ?_, fun k other hk => ?_,
    fun a row hrow hsome => ?_, fun k other hk hne => ?_,
    fun a st id hst hid => ?_, fun id r a hr howner => ?_, hledger ▸ h.keyed⟩
  · rw [hledger]
    exact h.promised.close hstate hsettling hnone
  · rw [hledger]
    exact h.unclaiming.update hstate nofun
  · rw [hbatches, get_erase] at hk
    split at hk
    · cases hk
    · have hne : k ≠ key := Ne.symm ‹_›
      obtain ⟨hstrategy, row, state, hrow, hrest⟩ := h.mirrors k other hk
      refine ⟨hstrategy, row, state, ?_, by rw [hledger]; exact hrest⟩
      rw [hrows, close_row, hrow, Option.map_some, if_neg (hother k other hne hk)]
  · obtain ⟨hne, hrow'⟩ := hopen a row hrow hsome
    obtain ⟨other, hfound, hid⟩ := h.loaded a row hrow' hsome
    refine ⟨other, ?_, hid⟩
    rw [hbatches, get_erase, if_neg]
    · exact hfound
    · rintro rfl
      obtain rfl := Option.some.inj (hfound.symm.trans hbatch)
      exact hne hid.symm
  · rw [hbatches, get_erase] at hk
    split at hk
    · cases hk
    · rw [hguards]
      exact (BTreeSet.mem_erase _).mpr ⟨Ne.symm ‹_›, h.guarded k other hk hne⟩
  · rw [hledger]
    rw [hstate] at hst
    split at hst
    · cases hst
    · exact h.agree a st id hst hid
  · rw [hledger] at hr
    obtain ⟨st, hst, hid⟩ := h.owned_held id r a hr howner
    refine ⟨st, ?_, hid⟩
    rw [hstate, if_neg]
    · exact hst
    · rintro rfl
      exact hnone id r ((h.agree _ st id hst hid).symm.trans hr) howner

/-- **A settlement of published work is recorded.** -/
theorem Consistent.record (h : Consistent keccak256 F s) {settlement : RebateSettlement}
    {store : SqliteRebateStore} (hrecords : Records settlement s.store store)
    (htables : Tables keccak256 store) (hexcept : F.except settlement.plan.batch_id) :
    Consistent keccak256 F { s with store } := by
  have hstate : ∀ a, store.state_of a = s.store.state_of a := by
    intro a
    unfold SqliteRebateStore.state_of
    rw [hrecords.rows]
  have hsettling : ∀ a, s.store.Settling a → store.Settling a := by
    rintro a ⟨entry, hentry, hstatus⟩
    refine ⟨entry, ?_, hstatus⟩
    rcases hrecords.entry with ⟨-, rfl⟩ | ⟨hnone, -⟩
    · exact hentry
    · rw [hrecords.others a]
      · exact hentry
      · rintro rfl
        rw [hnone] at hentry
        cases hentry
  have hpromised := h.promised
  refine ⟨⟨htables, ?_⟩, h.calm.record hrecords hexcept,
    h.unclaiming.store fun b st id hst hid => .inr ⟨st, (hstate b).symm.trans hst, hid⟩,
    fun key batch hbatch => ?_,
    fun b row hrow hopen => ?_, h.guarded, fun b st id hst hid => ?_, fun id r b hr howner => ?_,
    h.keyed⟩
  · rw [show store.state_of = s.store.state_of from funext hstate]
    exact { hpromised with
      backed := fun b execution hst => (hpromised.backed b execution hst).imp_left (hsettling b) }
  · obtain ⟨hkey, row, state, hrow, hrest⟩ := h.mirrors key batch hbatch
    exact ⟨hkey, row, state, by rw [hrecords.rows]; exact hrow, hrest⟩
  · rw [hrecords.rows] at hrow
    exact h.loaded b row hrow hopen
  · rw [hstate] at hst
    exact h.agree b st id hst hid
  · rw [hstate]
    exact h.owned_held id r b hr howner

end RebateService

end Solvent
