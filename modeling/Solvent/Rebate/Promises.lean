import Solvent.Rebate.Conserved
import Solvent.Rebate.Service
import Solvent.Rebate.Tables

/-! # What the rebate service promises

    The invariant is in two halves. The durable half holds wherever the process may
    die: open batches load again, every open hold of a batch is named by its row, and
    published work has its hold unless its execution is being settled. The memory
    half holds between calls: memory mirrors the open rows, but for an undone
    transition that is not written yet, and everything but quotable strategies is
    guarded.
-/

namespace Solvent

open Abi BTreeMap Contract

/-! ## Valid batches -/

structure ValidLegs (batch : RebateBatch) : Prop where
  nonempty : batch.accruals.isEmpty = false
  belong : ∀ (t : TradeId) (a : MinedAccrual), batch.accruals[t]? = some a →
    accrual_belongs batch t a = true

theorem accrual_belongs_iff {batch : RebateBatch} {t : TradeId} {a : MinedAccrual} :
    accrual_belongs batch t a = true ↔ t = a.trade_id ∧ a.strategy = batch.strategy ∧
      TokenPair.new a.token_in a.token_out = batch.pair ∧ validate_accrual a = .ok () := by
  unfold accrual_belongs
  rw [decide_eq_true_eq]
  cases validate_accrual a <;> simp [Except.isOk, Except.toBool]

theorem ValidLegs.keyed {batch : RebateBatch} (h : ValidLegs batch) :
    SqliteRebateStore.Keyed batch.accruals :=
  fun t a ha => (accrual_belongs_iff.mp (h.belong t a ha)).1.symm

theorem validate_batch_ok {batch : RebateBatch} :
    validate_batch batch = .ok () ↔ ValidLegs batch ∧
      (∀ plan ∈ batch.state.plan, plan_matches_batch plan batch = true) ∧
      ∀ execution, batch.state = .Ready execution → execution_matches batch execution = true := by
  have hlegs : (batch.accruals.isEmpty = false ∧
      ∀ entry ∈ batch.accruals.toList, accrual_belongs batch entry.1 entry.2 = true) ↔
      ValidLegs batch := by
    constructor
    · rintro ⟨hne, hall⟩
      exact ⟨hne, fun t a ha => hall (t, a) (Std.ExtTreeMap.mem_toList_iff_getElem?_eq_some.mpr ha)⟩
    · rintro ⟨hne, hall⟩
      exact ⟨hne, fun e he => hall e.1 e.2 (Std.ExtTreeMap.mem_toList_iff_getElem?_eq_some.mp he)⟩
  unfold validate_batch
  rw [require_bind, hlegs, require_bind]
  cases hstate : batch.state with
  | Ready execution => simp
  | _ => simp

/-! ## Tables -/

namespace SqliteRebateStore

variable {keccak256 : Bytes → B256} {store store' : SqliteRebateStore} {b : RebateBatchId}
  {row : BatchRow} {state : RebateBatchState}

/-- The state of an open batch. -/
def state_of (store : SqliteRebateStore) (b : RebateBatchId) : Option RebateBatchState :=
  (store.rebate_batch[b]?).bind BatchRow.state

/-- The leg is in the batch, open or closed. -/
def has_leg (store : SqliteRebateStore) (b : RebateBatchId) (accrual : MinedAccrual) : Prop :=
  ∃ row, store.rebate_batch[b]? = some row ∧ row.accruals[accrual.trade_id]? = some accrual

/-- An execution is recorded that is not finished. -/
def Settling (store : SqliteRebateStore) (b : RebateBatchId) : Prop :=
  ∃ entry ∈ store.rebate_settlement[b]?, entry.status = .Settling

theorem state_of_eq_some :
    store.state_of b = some state ↔
      ∃ row, store.rebate_batch[b]? = some row ∧ row.state = some state :=
  Option.bind_eq_some_iff

/-- A settlement is of the plan of its batch: of the published one until it is
    finished, and of a closed batch from then on. -/
structure Settles (store : SqliteRebateStore) (b : RebateBatchId) (entry : SettlementRow) : Prop where
  batch : entry.settlement.plan.batch_id = b
  valid : validate_settlement entry.settlement = .ok ()
  paid : ∃ row, store.rebate_batch[b]? = some row ∧
    plan_matches_batch entry.settlement.plan (row.batch b .Guarded) = true ∧
    match entry.status with
    | .Executed => row.state = none
    | .Settling => ∃ execution, row.state = some (.Ready execution) ∧
        execution.plan = entry.settlement.plan ∧
        execution.reservation = entry.settlement.reservation

/-- What the tables hold wherever the process dies. -/
structure Tables (keccak256 : Bytes → B256) (store : SqliteRebateStore) : Prop where
  schema : store.Schema
  legs : ∀ (b : RebateBatchId) (row : BatchRow), store.rebate_batch[b]? = some row →
    ValidLegs (row.batch b .Guarded)
  loads : ∀ (b : RebateBatchId) (row : BatchRow) (state : RebateBatchState),
    store.rebate_batch[b]? = some row → row.state = some state →
    stored_state keccak256 state = .ok state ∧ validate_batch (row.batch b state) = .ok ()
  reservations : ∀ (b : RebateBatchId) (state : RebateBatchState) (id : ReservationId),
    store.state_of b = some state → state.active_reservation = some id → id.hash ≠ 0
  settlements : ∀ (b : RebateBatchId) (entry : SettlementRow),
    store.rebate_settlement[b]? = some entry → Settles store b entry

/-- The row a batch is saved to describes that batch. -/
theorem row_batch (batch : RebateBatch) : (batch.row batch.accruals).batch batch.id batch.state = batch :=
  rfl

/-! ## States -/

theorem Writes.state_of {store'' : SqliteRebateStore} {id : RebateBatchId}
    (h : Writes id row store store'') (a : RebateBatchId) :
    store''.state_of a = if a = id then row.state else store.state_of a := by
  unfold SqliteRebateStore.state_of
  split
  · subst a
    rw [h.row]
    rfl
  · rw [h.others a ‹_›]

theorem state_of_close (store : SqliteRebateStore) (id a : RebateBatchId) :
    (store.close id).state_of a = if a = id then none else store.state_of a := by
  unfold state_of
  rw [close_row]
  cases store.rebate_batch[a]? with
  | none => simp
  | some row => split <;> simp_all

/-! ## Keeping the tables -/

/-- **Saving keeps the tables**, where the batch is valid, has the legs of its row and
    is not being settled. -/
theorem Tables.save (h : Tables keccak256 store) {batch : RebateBatch}
    (hsave : store.save batch = .ok store') (hvalid : validate_batch batch = .ok ())
    (hstate : stored_state keccak256 batch.state = .ok batch.state)
    (hreservation : ∀ id, batch.state.active_reservation = some id → id.hash ≠ 0)
    (hlegs : ∀ row, store.rebate_batch[batch.id]? = some row → ∀ (t : TradeId) (a : MinedAccrual),
      row.accruals[t]? = some a → batch.accruals[t]? = some a)
    (hsettlement : store.rebate_settlement[batch.id]? = none) :
    Tables keccak256 store' ∧ Writes batch.id (batch.row batch.accruals) store store' := by
  have hlegs_valid := (validate_batch_ok.mp hvalid).1
  obtain ⟨old, legs, hfinds, hmerged, hwrites, hschema⟩ := save_ok h.schema hlegs_valid.keyed hsave
  have hold : ∀ (t : TradeId) (a : MinedAccrual), old[t]? = some a → batch.accruals[t]? = some a := by
    rcases hfinds with ⟨-, rfl, -⟩ | ⟨row, hrow, -, -, -, rfl⟩
    · exact fun t a ha => by simp at ha
    · exact hlegs row hrow
  obtain rfl := hmerged.eq_of_subset hold
  refine ⟨⟨hschema, fun b row hrow => ?_, fun b row state hrow hrowstate => ?_,
    fun b state id hb hid => ?_, fun b entry hentry => ?_⟩, hwrites⟩
  · by_cases hb : b = batch.id
    · subst hb
      obtain rfl := Option.some.inj (hwrites.row.symm.trans hrow)
      exact ⟨hlegs_valid.nonempty, hlegs_valid.belong⟩
    · exact h.legs b row (hwrites.others b hb ▸ hrow)
  · by_cases hb : b = batch.id
    · subst hb
      obtain rfl := Option.some.inj (hwrites.row.symm.trans hrow)
      obtain rfl := Option.some.inj hrowstate
      exact ⟨hstate, hvalid⟩
    · exact h.loads b row state (hwrites.others b hb ▸ hrow) hrowstate
  · rw [hwrites.state_of] at hb
    split at hb
    · obtain rfl := Option.some.inj hb
      exact hreservation id hid
    · exact h.reservations b state id hb hid
  · rw [hwrites.settlements] at hentry
    have hb : b ≠ batch.id := by
      rintro rfl
      rw [hsettlement] at hentry
      cases hentry
    obtain ⟨hid, hsettlement_valid, row, hrow, hpaid⟩ := h.settlements b entry hentry
    exact ⟨hid, hsettlement_valid, row, (hwrites.others b hb).trans hrow, hpaid⟩

/-- A settled batch is ready until it is closed. -/
theorem Tables.settlement_none (h : Tables keccak256 store) (hstate : store.state_of b = some state)
    (hready : ∀ execution, state ≠ .Ready execution) : store.rebate_settlement[b]? = none := by
  obtain ⟨row, hrow, hrowstate⟩ := state_of_eq_some.mp hstate
  cases hentry : store.rebate_settlement[b]? with
  | none => rfl
  | some entry =>
    obtain ⟨-, -, row', hrow', -, hpaid⟩ := h.settlements b entry hentry
    obtain rfl := Option.some.inj (hrow'.symm.trans hrow)
    cases hstatus : entry.status with
    | Settling =>
      simp only [hstatus] at hpaid
      obtain ⟨execution, hexecution, -⟩ := hpaid
      rw [hrowstate] at hexecution
      exact absurd (Option.some.inj hexecution) (hready execution)
    | Executed =>
      simp only [hstatus] at hpaid
      rw [hrowstate] at hpaid
      cases hpaid

/-- **Closing an unsettled batch keeps the tables.** -/
theorem Tables.close (h : Tables keccak256 store) (hsettlement : store.rebate_settlement[b]? = none) :
    Tables keccak256 (store.close b) where
  schema := h.schema.close b
  legs a row hrow := by
    rw [close_row] at hrow
    obtain ⟨row', hrow', rfl⟩ := Option.map_eq_some_iff.mp hrow
    split
    · exact ⟨(h.legs a row' hrow').nonempty, (h.legs a row' hrow').belong⟩
    · exact h.legs a row' hrow'
  loads a row state hrow hrowstate := by
    rw [close_row] at hrow
    obtain ⟨row', hrow', rfl⟩ := Option.map_eq_some_iff.mp hrow
    split at hrowstate
    · cases hrowstate
    · rw [if_neg ‹_›]
      exact h.loads a row' state hrow' hrowstate
  reservations a state id ha hid := by
    rw [state_of_close] at ha
    split at ha
    · cases ha
    · exact h.reservations a state id ha hid
  settlements a entry hentry := by
    rw [close_settlement] at hentry
    obtain ⟨hid, hvalid, row, hrow, hmatches, hpaid⟩ := h.settlements a entry hentry
    have ha : a ≠ b := by
      rintro rfl
      rw [hsettlement] at hentry
      cases hentry
    refine ⟨hid, hvalid, row, ?_, hmatches, hpaid⟩
    rw [close_row, hrow, Option.map_some, if_neg ha]

/-- No record of an execution is lost or changed, and none that is finished is reopened. -/
def Retains (store store' : SqliteRebateStore) : Prop :=
  ∀ (b : RebateBatchId) (entry : SettlementRow), store.rebate_settlement[b]? = some entry →
    ∃ entry', store'.rebate_settlement[b]? = some entry' ∧ entry'.settlement = entry.settlement ∧
      (entry.status = .Executed → entry'.status = .Executed)

theorem Retains.of_eq (h : ∀ b : RebateBatchId, store'.rebate_settlement[b]? = store.rebate_settlement[b]?) :
    Retains store store' :=
  fun b entry hentry => ⟨entry, (h b).trans hentry, rfl, id⟩

theorem Retains.trans {store'' : SqliteRebateStore} (h : Retains store store')
    (h' : Retains store' store'') : Retains store store'' := by
  intro b entry hentry
  obtain ⟨entry', hentry', hsame, hstatus⟩ := h b entry hentry
  obtain ⟨entry'', hentry'', hsame', hstatus'⟩ := h' b entry' hentry'
  exact ⟨entry'', hentry'', hsame'.trans hsame, hstatus' ∘ hstatus⟩

/-- What finishing a settlement writes. -/
structure Finishes (b : RebateBatchId) (store store' : SqliteRebateStore) : Prop where
  rows : ∀ a : RebateBatchId, store'.rebate_batch[a]? = (store.close b).rebate_batch[a]?
  settlement : ∃ entry, store.rebate_settlement[b]? = some entry ∧
    store'.rebate_settlement[b]? = some { entry with status := .Executed }
  others : ∀ a : RebateBatchId, a ≠ b → store'.rebate_settlement[a]? = store.rebate_settlement[a]?
  cursor : store'.rebate_scan_cursor = store.rebate_scan_cursor

theorem finish_settlement_ok (h : store.finish_settlement b = .ok store') : Finishes b store store' := by
  obtain ⟨entry, hentry, h⟩ := expect_bind.mp h
  obtain rfl := Except.ok.inj h
  refine ⟨fun a => ?_, ⟨entry, hentry, ?_⟩, fun a ha => ?_, ?_⟩
  · rw [close_row, close_row]
  · rw [close_settlement, get_insert, if_pos rfl]
  · rw [close_settlement, get_insert_ne _ _ (Ne.symm ha)]
  · rw [close_cursor]

theorem Finishes.retains (h : Finishes b store store') : Retains store store' := by
  intro a entry hentry
  by_cases ha : a = b
  · subst ha
    obtain ⟨entry', hentry', hnew⟩ := h.settlement
    obtain rfl := Option.some.inj (hentry.symm.trans hentry')
    exact ⟨_, hnew, rfl, fun _ => rfl⟩
  · exact ⟨entry, (h.others a ha).trans hentry, rfl, id⟩

theorem finish_settlement_of_entry {entry : SettlementRow}
    (h : store.rebate_settlement[b]? = some entry) : ∃ store', store.finish_settlement b = .ok store' := by
  unfold finish_settlement
  rw [h]
  exact ⟨_, rfl⟩

/-- **Finishing a settlement keeps the tables.** -/
theorem Tables.finish (h : Tables keccak256 store) (hfinish : Finishes b store store') :
    Tables keccak256 store' where
  schema := (h.schema.close b).map (f := fun _ row => row)
    (fun a => (hfinish.rows a).trans Option.map_id'.symm) (fun _ _ => rfl) (fun _ _ => rfl)
    fun _ _ h => h
  legs a row hrow := by
    rw [hfinish.rows, close_row] at hrow
    obtain ⟨row', hrow', rfl⟩ := Option.map_eq_some_iff.mp hrow
    split
    · exact ⟨(h.legs a row' hrow').nonempty, (h.legs a row' hrow').belong⟩
    · exact h.legs a row' hrow'
  loads a row state hrow hrowstate := by
    rw [hfinish.rows, close_row] at hrow
    obtain ⟨row', hrow', rfl⟩ := Option.map_eq_some_iff.mp hrow
    split at hrowstate
    · cases hrowstate
    · rw [if_neg ‹_›]
      exact h.loads a row' state hrow' hrowstate
  reservations a state id ha hid := by
    have hstate : store'.state_of a = (store.close b).state_of a :=
      congrArg (Option.bind · BatchRow.state) (hfinish.rows a)
    rw [hstate, state_of_close] at ha
    split at ha
    · cases ha
    · exact h.reservations a state id ha hid
  settlements a entry hentry := by
    by_cases ha : a = b
    · subst ha
      obtain ⟨entry', hentry', hnew⟩ := hfinish.settlement
      obtain rfl := Option.some.inj (hnew.symm.trans hentry)
      obtain ⟨hid, hvalid, row, hrow, hmatches, -⟩ := h.settlements a entry' hentry'
      refine ⟨hid, hvalid, { row with state := none }, ?_, hmatches, rfl⟩
      rw [hfinish.rows, close_row, hrow, Option.map_some, if_pos rfl]
    · rw [hfinish.others a ha] at hentry
      obtain ⟨hid, hvalid, row, hrow, hmatches, hpaid⟩ := h.settlements a entry hentry
      refine ⟨hid, hvalid, row, ?_, hmatches, hpaid⟩
      rw [hfinish.rows, close_row, hrow, Option.map_some, if_neg ha]

/-- What recording a settlement writes: nothing if there is a record, else a new one. -/
structure Records (settlement : RebateSettlement) (store store' : SqliteRebateStore) : Prop where
  rows : store'.rebate_batch = store.rebate_batch
  entry : (store.rebate_settlement[settlement.plan.batch_id]?.isSome = true ∧ store' = store) ∨
    (store.rebate_settlement[settlement.plan.batch_id]? = none ∧
      store'.rebate_settlement[settlement.plan.batch_id]? =
        some { status := .Settling, settlement := settlement })
  others : ∀ a : RebateBatchId, a ≠ settlement.plan.batch_id →
    store'.rebate_settlement[a]? = store.rebate_settlement[a]?
  cursor : store'.rebate_scan_cursor = store.rebate_scan_cursor

theorem insert_settlement_ok {settlement : RebateSettlement}
    (h : store.insert_settlement settlement = .ok store') : Records settlement store store' := by
  obtain ⟨-, h⟩ := require_bind.mp h
  split at h
  · obtain rfl := Except.ok.inj h
    exact ⟨rfl, .inl ⟨‹_›, rfl⟩, fun _ _ => rfl, rfl⟩
  · rename_i habsent
    obtain ⟨-, h⟩ := require_bind.mp h
    obtain rfl := Except.ok.inj h
    refine ⟨rfl, .inr ⟨by simpa using habsent, ?_⟩, fun a ha => ?_, rfl⟩
    · exact (get_insert _ _ _ _).trans (if_pos rfl)
    · exact get_insert_ne _ _ (Ne.symm ha)

theorem Records.retains {settlement : RebateSettlement} (h : Records settlement store store') :
    Retains store store' := by
  intro a entry hentry
  rcases h.entry with ⟨-, rfl⟩ | ⟨hnone, -⟩
  · exact ⟨entry, hentry, rfl, id⟩
  · refine ⟨entry, (h.others a ?_).trans hentry, rfl, id⟩
    rintro rfl
    cases hnone.symm.trans hentry

/-- **Recording the settlement of published work keeps the tables.** -/
theorem Tables.record (h : Tables keccak256 store) {settlement : RebateSettlement}
    {execution : RebateExecution} (hrecords : Records settlement store store')
    (hstate : store.state_of settlement.plan.batch_id = some (.Ready execution))
    (hplan : execution.plan = settlement.plan)
    (hreservation : execution.reservation = settlement.reservation)
    (hvalid : validate_settlement settlement = .ok ()) : Tables keccak256 store' := by
  obtain ⟨row, hrow, hrowstate⟩ := state_of_eq_some.mp hstate
  rcases hrecords.entry with ⟨-, rfl⟩ | ⟨-, hnew⟩
  · exact h
  refine ⟨?_, ?_, ?_, ?_, fun a entry hentry => ?_⟩
  · exact h.schema.map (f := fun _ row => row)
      (fun a => by rw [hrecords.rows, Option.map_id']) (fun _ _ => rfl) (fun _ _ => rfl) fun _ _ h => h
  · rw [hrecords.rows]
    exact h.legs
  · rw [hrecords.rows]
    exact h.loads
  · unfold SqliteRebateStore.state_of
    rw [hrecords.rows]
    exact h.reservations
  · by_cases ha : a = settlement.plan.batch_id
    · subst ha
      obtain rfl := Option.some.inj (hnew.symm.trans hentry)
      have hplans := (validate_batch_ok.mp (h.loads _ row _ hrow hrowstate).2).2.1
      refine ⟨rfl, hvalid, row, by rw [hrecords.rows]; exact hrow, ?_, execution, hrowstate, hplan,
        hreservation⟩
      exact hplan ▸ hplans execution.plan rfl
    · rw [hrecords.others a ha] at hentry
      obtain ⟨hid, hvalid', row', hrow', hpaid⟩ := h.settlements a entry hentry
      exact ⟨hid, hvalid', row', by rw [hrecords.rows]; exact hrow', hpaid⟩

end SqliteRebateStore

/-! ## Promises -/

/-- The open reservations against the open batches. `hold` is what a ledger half has
    open under an id, `state` what the table has open under a batch. -/
structure Promised (state : RebateBatchId → Option RebateBatchState)
    (hold : ReservationId → Option Reservation) (settling : RebateBatchId → Prop) : Prop where
  /-- No hold is left behind: its batch names it. -/
  owned : ∀ id r b, hold id = some r → r.owner = .Rebate b → r.state = .Pending ∧
    ∃ st, state b = some st ∧ st.active_reservation = some id
  /-- What a batch names is its own. -/
  named : ∀ b st id r, state b = some st → st.active_reservation = some id → hold id = some r →
    r.owner = .Rebate b
  /-- Published work has its hold until its settlement begins. -/
  backed : ∀ b execution, state b = some (.Ready execution) → settling b ∨
    ∃ r, hold execution.reservation = some r
  /-- And the hold is for what the plan takes. -/
  sources : ∀ b execution r, state b = some (.Ready execution) →
    hold execution.reservation = some r →
    r.sources = [execution.plan.source execution.plan.strategy]

namespace Promised

variable {state state' : RebateBatchId → Option RebateBatchState}
  {hold hold' : ReservationId → Option Reservation} {settling settling' : RebateBatchId → Prop}
  {b : RebateBatchId} {id : ReservationId}

/-- A hold has one batch that names it. -/
theorem unique (h : Promised state hold settling) {a : RebateBatchId} {st st' : RebateBatchState}
    {r : Reservation} (hr : hold id = some r) (ha : state a = some st)
    (hst : st.active_reservation = some id) (hb : state b = some st')
    (hst' : st'.active_reservation = some id) : a = b := by
  have howner := (h.named a st id r ha hst hr).symm.trans (h.named b st' id r hb hst' hr)
  exact ReservationOwner.Rebate.inj howner

/-- **One batch changes its state**, which still names its hold. -/
theorem update (h : Promised state hold settling) {st : RebateBatchState}
    (hstate : ∀ a, state' a = if a = b then some st else state a)
    (hsettling : ∀ a, a ≠ b → settling a → settling' a)
    (hkeeps : ∀ id r, hold id = some r → r.owner = .Rebate b → st.active_reservation = some id)
    (howns : ∀ id r, st.active_reservation = some id → hold id = some r → r.owner = .Rebate b)
    (hbacked : ∀ execution, st = .Ready execution → ∃ r, hold execution.reservation = some r ∧
      r.sources = [execution.plan.source execution.plan.strategy]) :
    Promised state' hold settling' where
  owned id r a hr howner := by
    by_cases ha : a = b
    · subst ha
      refine ⟨(h.owned id r a hr howner).1, st, by rw [hstate, if_pos rfl], hkeeps id r hr howner⟩
    · rw [hstate, if_neg ha]
      exact h.owned id r a hr howner
  named a st' id r ha hst hr := by
    rw [hstate] at ha
    split at ha
    · subst a
      obtain rfl := Option.some.inj ha
      exact howns id r hst hr
    · exact h.named a st' id r ha hst hr
  backed a execution ha := by
    rw [hstate] at ha
    split at ha
    · obtain ⟨r, hr, -⟩ := hbacked execution (Option.some.inj ha)
      exact .inr ⟨r, hr⟩
    · exact (h.backed a execution ha).imp_left (hsettling a ‹_›)
  sources a execution r ha hr := by
    rw [hstate] at ha
    split at ha
    · obtain ⟨r', hr', hsources⟩ := hbacked execution (Option.some.inj ha)
      obtain rfl := Option.some.inj (hr'.symm.trans hr)
      exact hsources
    · exact h.sources a execution r ha hr

/-- **One batch closes**, which has no hold any more. -/
theorem close (h : Promised state hold settling)
    (hstate : ∀ a, state' a = if a = b then none else state a)
    (hsettling : ∀ a, a ≠ b → settling a → settling' a)
    (hnone : ∀ id r, hold id = some r → r.owner ≠ .Rebate b) : Promised state' hold settling' where
  owned id r a hr howner := by
    have ha : a ≠ b := by
      rintro rfl
      exact hnone id r hr howner
    rw [hstate, if_neg ha]
    exact h.owned id r a hr howner
  named a st id r ha hst hr := by
    rw [hstate] at ha
    split at ha
    · cases ha
    · exact h.named a st id r ha hst hr
  backed a execution ha := by
    rw [hstate] at ha
    split at ha
    · cases ha
    · exact (h.backed a execution ha).imp_left (hsettling a ‹_›)
  sources a execution r ha hr := by
    rw [hstate] at ha
    split at ha
    · cases ha
    · exact h.sources a execution r ha hr

/-- **One hold goes**, which no unsettled published work needs. -/
theorem release (h : Promised state hold settling) (hgone : hold' id = none)
    (hothers : ∀ k, k ≠ id → hold' k = hold k)
    (hsafe : ∀ b execution, state b = some (.Ready execution) → execution.reservation = id →
      settling b ∨ hold id = none) : Promised state hold' settling := by
  have hback : ∀ k r, hold' k = some r → hold k = some r := by
    intro k r hr
    by_cases hk : k = id
    · rw [hk, hgone] at hr
      cases hr
    · exact (hothers k hk).symm.trans hr
  refine ⟨fun k r b hr => h.owned k r b (hback k r hr),
    fun b st k r hst hk hr => h.named b st k r hst hk (hback k r hr), fun b execution hst => ?_,
    fun b execution r hst hr => h.sources b execution r hst (hback _ r hr)⟩
  by_cases hid : execution.reservation = id
  · rcases hsafe b execution hst hid with hsettling | hnone
    · exact .inl hsettling
    · refine (h.backed b execution hst).imp_right fun ⟨r, hr⟩ => ?_
      rw [hid, hnone] at hr
      cases hr
  · rw [hothers _ hid]
    exact h.backed b execution hst

/-- **One hold comes**, for the batch that alone names it. -/
theorem reserve (h : Promised state hold settling) {plan : RebatePlan} {r : Reservation}
    (hstate : state b = some (.Preparing plan id))
    (halone : ∀ a st, state a = some st → st.active_reservation = some id → a = b)
    (hnew : hold' id = some r) (howner : r.owner = .Rebate b) (hpending : r.state = .Pending)
    (hothers : ∀ k, k ≠ id → hold' k = hold k) : Promised state hold' settling where
  owned k r' a hr' howner' := by
    by_cases hk : k = id
    · subst hk
      obtain rfl := Option.some.inj (hnew.symm.trans hr')
      obtain rfl := ReservationOwner.Rebate.inj (howner.symm.trans howner')
      exact ⟨hpending, _, hstate, rfl⟩
    · exact h.owned k r' a ((hothers k hk).symm.trans hr') howner'
  named a st k r' ha hst hr' := by
    by_cases hk : k = id
    · subst hk
      obtain rfl := Option.some.inj (hnew.symm.trans hr')
      obtain rfl := halone a st ha hst
      exact howner
    · exact h.named a st k r' ha hst ((hothers k hk).symm.trans hr')
  backed a execution ha := by
    by_cases hk : execution.reservation = id
    · exact .inr ⟨r, hk ▸ hnew⟩
    · rw [hothers _ hk]
      exact h.backed a execution ha
  sources a execution r' ha hr' := by
    have hk : execution.reservation ≠ id := by
      intro hk
      obtain rfl := halone a _ ha (congrArg some hk)
      cases hstate.symm.trans ha
    exact h.sources a execution r' ha ((hothers _ hk).symm.trans hr')

end Promised

end Solvent
