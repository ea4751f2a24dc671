import Solvent.Rebate.Recovery
import Solvent.Rebate.Worker

/-! # Executions on chain

    Anyone may execute published work: once, and up to its deadline. The filler
    reports it in an event of its authorization's fields. What the tables know of the
    events is followed here against the chain: an execution is settled, or its work is
    still published and its block is still to be scanned.
-/

namespace Solvent

open Abi BTreeMap Contract Process SqliteRebateStore

/-! ## The filler's chain -/

/-- Every execution the open rows publish. -/
def SqliteRebateStore.published (store : SqliteRebateStore) : List RebateExecution :=
  (BTreeMap.values store.rebate_batch).filterMap fun row =>
    match row.state with
    | some (.Ready execution) => some execution
    | _ => none

structure FillerChain where
  /-- The last complete block. -/
  head : U64
  /-- Every execution published so far: what is public stays known. -/
  exposed : List RebateExecution
  /-- What was executed, with the event that reports it. -/
  mined : List (RebateExecution × RebateExecutedEvent)

namespace FillerChain

def spent (chain : FillerChain) : List U256 := chain.mined.map (·.1.authorization.nonce)

/-- The block being built may execute it: `_authorize` refuses a used nonce and a block
    past the deadline. -/
def Executable (chain : FillerChain) (execution : RebateExecution) : Prop :=
  execution.authorization.nonce ∉ chain.spent ∧
    chain.head < execution.authorization.deadlineBlock

instance (chain : FillerChain) (execution : RebateExecution) :
    Decidable (chain.Executable execution) := by
  unfold Executable
  infer_instance

/-- `RebateExecuted`. The filler's own balances are as before, so the router took the
    whole input limit. -/
def executed (execution : RebateExecution) (executor : Address) (tx_hash : B256)
    (block_number log_index : U64) : RebateExecutedEvent where
  batch_id := ⟨execution.authorization.contextHash⟩
  strategy_hash := ⟨execution.authorization.strategyHash⟩
  executor
  maker := ⟨execution.authorization.maker⟩
  token_in := execution.authorization.tokenIn
  token_out := execution.authorization.tokenOut
  amount_in := execution.authorization.amountInLimit
  amount_out := execution.authorization.amountOut
  maker_rebate := execution.authorization.rebateAmount
  tx_hash
  block_number
  log_index

/-- What the tables publish is seen. -/
def expose (chain : FillerChain) (store : SqliteRebateStore) : FillerChain :=
  { chain with exposed := chain.exposed ++ store.published }

/-- Somebody executes published work, in the block after the head. -/
def execute (chain : FillerChain) (execution : RebateExecution) (executor : Address)
    (tx_hash : B256) (log_index : U64) : FillerChain :=
  if execution ∈ chain.exposed ∧ chain.Executable execution then
    { chain with
      mined := chain.mined ++
        [(execution, executed execution executor tx_hash (chain.head.saturating_add 1) log_index)] }
  else chain

/-- The block after the head is complete. -/
def advance (chain : FillerChain) : FillerChain :=
  { chain with head := chain.head.saturating_add 1 }

end FillerChain

/-! ## What the tables know of it -/

/-- The published work an event reports, not settled by any other. -/
structure SqliteRebateStore.Awaits (store : SqliteRebateStore) (execution : RebateExecution)
    (event : RebateExecutedEvent) : Prop where
  ready : store.state_of event.batch_id = some (.Ready execution)
  valid : validate_execution_event event execution = .ok ()
  alone : ∀ entry ∈ store.rebate_settlement[event.batch_id]?, entry.settlement.event = event

/-- The block is still to be scanned. -/
def SqliteRebateStore.Unscanned (store : SqliteRebateStore) (block_number : U64) : Prop :=
  ∀ block ∈ store.rebate_scan_cursor, block.val < block_number.val

/-- The tables against the chain, for a worker that scans from `start_block`. -/
structure Tracked (start_block : U64) (chain : FillerChain) (store : SqliteRebateStore) : Prop where
  started : start_block.val ≤ chain.head.val + 1
  scanned : ∀ block ∈ store.rebate_scan_cursor, block.val ≤ chain.head.val
  numbered : ∀ m ∈ chain.mined, start_block.val ≤ m.2.block_number.val
  once : chain.spent.Nodup
  /-- No execution is lost. -/
  reported : ∀ m ∈ chain.mined, store.Finished m.2 ∨
    (store.Awaits m.1 m.2 ∧ store.Unscanned m.2.block_number)
  /-- And none is made up. -/
  recorded : ∀ (b : RebateBatchId) (entry : SettlementRow), store.rebate_settlement[b]? = some entry →
    ∃ m ∈ chain.mined, m.2 = entry.settlement.event
  /-- What can still be executed is still published. -/
  executable : ∀ execution ∈ chain.exposed, chain.Executable execution →
    store.state_of execution.plan.batch_id = some (.Ready execution)

namespace SqliteRebateStore

variable {keccak256 : Bytes → B256} {store store' : SqliteRebateStore} {b : RebateBatchId}
  {execution : RebateExecution} {event : RebateExecutedEvent}

theorem mem_published : execution ∈ store.published ↔ ∃ b, store.state_of b = some (.Ready execution) := by
  unfold published BTreeMap.values
  rw [List.mem_filterMap]
  constructor
  · rintro ⟨row, hrow, hready⟩
    obtain ⟨e, he, rfl⟩ := List.mem_map.mp hrow
    refine ⟨e.1, state_of_eq_some.mpr ⟨e.2, Std.ExtTreeMap.mem_toList_iff_getElem?_eq_some.mp he, ?_⟩⟩
    split at hready
    · rename_i hstate
      obtain rfl := Option.some.inj hready
      exact hstate
    · cases hready
  · rintro ⟨b, hstate⟩
    obtain ⟨row, hrow, hready⟩ := state_of_eq_some.mp hstate
    refine ⟨row, List.mem_map.mpr ⟨(b, row), Std.ExtTreeMap.mem_toList_iff_getElem?_eq_some.mpr hrow, rfl⟩, ?_⟩
    rw [hready]

/-- Published work is of its batch's plan and says so. -/
theorem Tables.ready_matches (h : Tables keccak256 store) (hstate : store.state_of b = some (.Ready execution)) :
    execution.plan.batch_id = b ∧ ∃ batch : RebateBatch, batch.id = b ∧
      batch.strategy = execution.plan.strategy ∧ execution_matches batch execution = true := by
  obtain ⟨row, hrow, hready⟩ := state_of_eq_some.mp hstate
  obtain ⟨-, hplan, hexecution⟩ := validate_batch_ok.mp (h.loads b row _ hrow hready).2
  have hmatches := hplan execution.plan rfl
  unfold plan_matches_batch at hmatches
  rw [decide_eq_true_eq] at hmatches
  exact ⟨hmatches.1, _, rfl, hmatches.2.1.symm, hexecution execution rfl⟩

/-- A batch whose settlement is finished is closed. -/
theorem Tables.closed_of_finished (h : Tables keccak256 store) (hfinished : store.Finished event) :
    store.state_of event.batch_id = none := by
  obtain ⟨entry, hentry, hstatus, -⟩ := hfinished
  obtain ⟨-, -, row, hrow, -, hpaid⟩ := h.settlements _ entry hentry
  simp only [hstatus] at hpaid
  unfold state_of
  rw [hrow]
  exact hpaid

/-- A record that is kept is finished, or of work that is still published. -/
theorem Tables.finished_or_settling (h : Tables keccak256 store) (hsettled : store.Settled event) :
    store.Finished event ∨ ∃ execution, store.state_of event.batch_id = some (.Ready execution) := by
  obtain ⟨entry, hentry, hsame⟩ := hsettled
  obtain ⟨-, -, row, hrow, -, hpaid⟩ := h.settlements _ entry hentry
  cases hstatus : entry.status with
  | Executed => exact .inl ⟨entry, hentry, hstatus, hsame⟩
  | Settling =>
    simp only [hstatus] at hpaid
    obtain ⟨execution, hready, -⟩ := hpaid
    exact .inr ⟨execution, state_of_eq_some.mpr ⟨row, hrow, hready⟩⟩

theorem Finished.retained (h : store.Finished event) (hretains : Retains store store') :
    store'.Finished event := by
  obtain ⟨entry, hentry, hstatus, hsame⟩ := h
  obtain ⟨entry', hentry', hsettlement, hexecuted⟩ := hretains _ entry hentry
  exact ⟨entry', hentry', hexecuted hstatus, hsettlement ▸ hsame⟩

end SqliteRebateStore

namespace Tracked

variable {keccak256 : Bytes → B256} {start_block : U64} {chain : FillerChain}
  {store store' : SqliteRebateStore} {execution : RebateExecution}
  {m m' : RebateExecution × RebateExecutedEvent}

theorem mem_spent (hm : m ∈ chain.mined) : m.1.authorization.nonce ∈ chain.spent :=
  List.mem_map.mpr ⟨m, hm, rfl⟩

/-- **One event a batch.** -/
theorem event_unique (h : Tracked start_block chain store) (htables : Tables keccak256 store)
    (hm : m ∈ chain.mined) (hm' : m' ∈ chain.mined) (hid : m.2.batch_id = m'.2.batch_id) :
    m.2 = m'.2 := by
  rcases h.reported m hm with hfinished | ⟨hawaits, -⟩
  · rcases h.reported m' hm' with ⟨entry', hentry', -, hsame'⟩ | ⟨hawaits', -⟩
    · obtain ⟨entry, hentry, -, hsame⟩ := hfinished
      rw [hid] at hentry
      obtain rfl := Option.some.inj (hentry.symm.trans hentry')
      exact hsame.symm.trans hsame'
    · have hclosed := htables.closed_of_finished hfinished
      rw [hid, hawaits'.ready] at hclosed
      cases hclosed
  · rcases h.reported m' hm' with hfinished' | ⟨hawaits', -⟩
    · have hclosed := htables.closed_of_finished hfinished'
      rw [← hid, hawaits.ready] at hclosed
      cases hclosed
    · -- Both are of the work that is published, whose nonce was used once.
      have hready := hawaits.ready
      rw [hid, hawaits'.ready] at hready
      have hsame : m'.1 = m.1 := RebateBatchState.Ready.inj (Option.some.inj hready)
      exact congrArg Prod.snd (List.inj_on_of_nodup_map h.once hm hm' (by rw [hsame]))

/-- **What can still be executed has no record yet.** -/
theorem settlement_none (h : Tracked start_block chain store) (htables : Tables keccak256 store)
    (hexposed : execution ∈ chain.exposed) (hexecutable : chain.Executable execution) :
    store.rebate_settlement[execution.plan.batch_id]? = none := by
  cases hentry : store.rebate_settlement[execution.plan.batch_id]? with
  | none => rfl
  | some entry =>
    obtain ⟨m, hm, hevent⟩ := h.recorded _ entry hentry
    obtain ⟨hbatch, hvalid, -⟩ := htables.settlements _ entry hentry
    have hmatches := (require_eq_ok.mp hvalid).2
    unfold event_matches at hmatches
    rw [decide_eq_true_eq] at hmatches
    have hid : m.2.batch_id = execution.plan.batch_id := by
      rw [hevent, hmatches.1, hbatch]
    have hready := h.executable execution hexposed hexecutable
    rw [← hid] at hready
    rcases h.reported m hm with hfinished | ⟨hawaits, -⟩
    · rw [htables.closed_of_finished hfinished] at hready
      cases hready
    · have hsame := RebateBatchState.Ready.inj (Option.some.inj (hawaits.ready.symm.trans hready))
      exact absurd (hsame ▸ mem_spent hm) hexecutable.1

/-! ## Steps of the chain -/

theorem expose_of (h : Tracked start_block chain store) (htables : Tables keccak256 store) :
    Tracked start_block (chain.expose store) store := by
  refine { h with executable := fun execution hmem hexecutable => ?_ }
  rcases List.mem_append.mp hmem with hold | hnew
  · exact h.executable execution hold hexecutable
  · obtain ⟨b, hstate⟩ := mem_published.mp hnew
    rw [(htables.ready_matches hstate).1]
    exact hstate

/-- **The event of published work is the one its batch waits for.** -/
theorem executed_valid {batch : RebateBatch} {executor : Address} {tx_hash : B256}
    {block_number log_index : U64} (hbatch : execution.plan.batch_id = batch.id)
    (hstrategy : batch.strategy = execution.plan.strategy)
    (hmatches : execution_matches batch execution = true) (hexecutor : executor ≠ 0)
    (htx : tx_hash ≠ 0) (hblock : block_number ≠ 0)
    (hdeadline : block_number ≤ execution.authorization.deadlineBlock) :
    validate_execution_event (FillerChain.executed execution executor tx_hash block_number log_index)
      execution = .ok () := by
  simp only [execution_matches, decide_eq_true_eq] at hmatches
  obtain ⟨-, hcontext, hhash, hmaker, hin, hout, hamount_out, hamount_in, hrebate, -⟩ := hmatches
  refine require_of ⟨?_, hdeadline⟩ _
  unfold event_matches FillerChain.executed
  rw [decide_eq_true_eq]
  refine ⟨?_, ?_, ?_, hin, hout, hamount_in, hamount_out, hrebate, hexecutor, htx, hblock⟩
  · show (⟨execution.authorization.contextHash⟩ : RebateBatchId) = _
    rw [hcontext, hbatch]
  · show (⟨execution.authorization.strategyHash⟩ : StrategyHash) = _
    rw [hhash, hstrategy]
  · show (⟨execution.authorization.maker⟩ : MakerId) = _
    rw [hmaker, hstrategy]

theorem execute (h : Tracked start_block chain store) (htables : Tables keccak256 store)
    {executor : Address} {tx_hash : B256} {log_index : U64} (hexecutor : executor ≠ 0)
    (htx : tx_hash ≠ 0) :
    Tracked start_block (chain.execute execution executor tx_hash log_index) store := by
  unfold FillerChain.execute
  split
  · obtain ⟨hexposed, hexecutable⟩ := ‹_ ∧ _›
    have hready := h.executable execution hexposed hexecutable
    obtain ⟨hplan, batch, hbatch, hstrategy, hmatches⟩ := htables.ready_matches hready
    have hlt : chain.head.val < execution.authorization.deadlineBlock.val := hexecutable.2
    have hnext : (chain.head.saturating_add 1).val = chain.head.val + 1 := by
      have hbound := execution.authorization.deadlineBlock.isLt
      rw [U64.saturating_add_val]
      show min (chain.head.val + 1) (2 ^ 64 - 1) = _
      omega
    have hvalid : validate_execution_event (FillerChain.executed execution executor tx_hash
        (chain.head.saturating_add 1) log_index) execution = .ok () := by
      refine executed_valid hbatch.symm hstrategy hmatches hexecutor htx (fun hzero => ?_) ?_
      · rw [hzero] at hnext
        cases hnext
      · rw [Fin.le_def, hnext]
        omega
    have hevent_id : (FillerChain.executed execution executor tx_hash (chain.head.saturating_add 1)
        log_index).batch_id = execution.plan.batch_id := by
      have hmatched := (require_eq_ok.mp hvalid).1
      unfold event_matches at hmatched
      rw [decide_eq_true_eq] at hmatched
      exact hmatched.1
    refine ⟨h.started, h.scanned, fun m hm => ?_, ?_, fun m hm => ?_, fun b entry hentry => ?_,
      fun other hother hcan => h.executable other hother ⟨fun hspent => hcan.1 ?_, hcan.2⟩⟩
    · rcases List.mem_append.mp hm with hold | hnew
      · exact h.numbered m hold
      · rw [List.mem_singleton.mp hnew]
        show start_block.val ≤ (chain.head.saturating_add 1).val
        rw [hnext]
        exact h.started
    · unfold FillerChain.spent
      rw [List.map_append, List.nodup_append]
      refine ⟨h.once, List.nodup_singleton _, fun a ha b hb => ?_⟩
      obtain rfl := List.mem_singleton.mp hb
      rintro rfl
      exact hexecutable.1 ha
    · rcases List.mem_append.mp hm with hold | hnew
      · exact h.reported m hold
      · rw [List.mem_singleton.mp hnew]
        refine .inr ⟨⟨hevent_id.symm ▸ hready, hvalid, fun entry hentry => ?_⟩, fun block hblock => ?_⟩
        · dsimp only at hentry
          rw [hevent_id, h.settlement_none htables hexposed hexecutable] at hentry
          cases hentry
        · show block.val < (chain.head.saturating_add 1).val
          rw [hnext]
          exact Nat.lt_succ_of_le (h.scanned block hblock)
    · obtain ⟨m, hm, hevent⟩ := h.recorded b entry hentry
      exact ⟨m, List.mem_append_left _ hm, hevent⟩
    · unfold FillerChain.spent at hspent ⊢
      rw [List.map_append]
      exact List.mem_append_left _ hspent
  · exact h

theorem advance (h : Tracked start_block chain store) : Tracked start_block chain.advance store := by
  have hle : chain.head.val ≤ chain.advance.head.val := by
    show _ ≤ (chain.head.saturating_add 1).val
    have hbound := chain.head.isLt
    rw [U64.saturating_add_val]
    omega
  refine { h with started := ?_, scanned := fun block hblock => (h.scanned block hblock).trans hle,
                  executable := fun execution hexposed hcan => ?_ }
  · have hstarted := h.started
    omega
  · exact h.executable execution hexposed ⟨hcan.1, lt_of_le_of_lt (Fin.le_def.mpr hle) hcan.2⟩

/-- **What was mined in a scanned block is settled.** -/
theorem finished (h : Tracked start_block chain store)
    {config : RebateWorkerConfig} (hconfig : config.start_block = start_block)
    {m : RebateExecution × RebateExecutedEvent} (hm : m ∈ chain.mined)
    (hscanned : m.2.block_number < RebateWorker.next_block config store.rebate_scan_cursor) :
    store.Finished m.2 := by
  refine (h.reported m hm).resolve_right fun ⟨_, hunscanned⟩ => ?_
  rcases RebateWorker.scanned_of_lt hscanned with ⟨block, hcursor, hle⟩ | hstart
  · have hbefore := hunscanned block hcursor
    omega
  · have hnumbered := h.numbered m hm
    rw [hconfig] at hstart
    omega

/-! ## Steps of the service -/

/-- **The tables move on.** What ends the work of a batch leaves the events of that
    batch finished or waiting, and does not touch what can still be executed. -/
theorem follow (h : Tracked start_block chain store) (htables : Tables keccak256 store') {F : Frame}
    (horigin : F.origin = store) (hcalm : Calm F store')
    (hended : ∀ m ∈ chain.mined, F.except m.2.batch_id → store.Awaits m.1 m.2 →
      store'.Finished m.2 ∨ store'.Awaits m.1 m.2)
    (hrecorded : ∀ (b : RebateBatchId) (entry : SettlementRow), F.except b →
      store'.rebate_settlement[b]? = some entry → ∃ m ∈ chain.mined, m.2 = entry.settlement.event)
    (hlive : ∀ execution ∈ chain.exposed, chain.Executable execution →
      ¬F.except execution.plan.batch_id) : Tracked start_block (chain.expose store') store' := by
  subst horigin
  refine expose_of ⟨h.started, fun block hblock => h.scanned block (hcalm.cursor ▸ hblock), h.numbered,
    h.once, fun m hm => ?_, fun b entry hentry => ?_, fun execution hexposed hcan => ?_⟩ htables
  · rcases h.reported m hm with hfinished | ⟨hawaits, hunscanned⟩
    · exact .inl (hfinished.retained hcalm.recorded)
    · have hunscanned' : store'.Unscanned m.2.block_number := fun block hblock =>
        hunscanned block (hcalm.cursor ▸ hblock)
      by_cases hexcept : F.except m.2.batch_id
      · exact (hended m hm hexcept hawaits).imp_right fun hawaits' => ⟨hawaits', hunscanned'⟩
      · refine .inr ⟨⟨hcalm.ready _ _ hexcept hawaits.ready, hawaits.valid, fun entry hentry => ?_⟩,
          hunscanned'⟩
        rw [hcalm.settlements _ hexcept] at hentry
        exact hawaits.alone entry hentry
  · by_cases hexcept : F.except b
    · exact hrecorded b entry hexcept hentry
    · rw [hcalm.settlements b hexcept] at hentry
      exact h.recorded b entry hentry
  · exact hcalm.ready _ _ (hlive execution hexposed hcan) (h.executable execution hexposed hcan)

/-- **Recovery** ends only the work that is being settled, whose event is mined. -/
theorem recovered (h : Tracked start_block chain store) (htables : Tables keccak256 store)
    (htables' : Tables keccak256 store') {F : Frame} (horigin : F.origin = store)
    (hcalm : Calm F store') (hexcept : ∀ b, F.except b → store.Settling b)
    (hpublishes : ∀ execution, ¬F.publishes execution) :
    Tracked start_block (chain.expose store') store' := by
  refine h.follow htables' horigin hcalm (fun m hm hb hawaits => ?_) (fun b entry hb hentry => ?_)
    fun execution hexposed hcan hb => ?_
  · obtain ⟨entry, hentry, -⟩ := hexcept _ hb
    have hsame := hawaits.alone entry hentry
    obtain ⟨entry', hentry', hkept, -⟩ := hcalm.recorded _ entry (horigin ▸ hentry)
    have hevent : entry'.settlement.event = m.2 := hkept ▸ hsame
    rcases htables'.finished_or_settling ⟨entry', hentry', hevent⟩ with hfinished | ⟨execution, hready⟩
    · exact .inl hfinished
    · have hbefore := (hcalm.published _ execution hready).resolve_right (hpublishes execution)
      rw [horigin] at hbefore
      obtain rfl := RebateBatchState.Ready.inj (Option.some.inj (hbefore.symm.trans hawaits.ready))
      refine .inr ⟨hready, hawaits.valid, fun other hother => ?_⟩
      obtain rfl := Option.some.inj (hentry'.symm.trans hother)
      exact hevent
  · obtain ⟨before, hbefore, -⟩ := hexcept b hb
    obtain ⟨entry', hentry', hkept, -⟩ := hcalm.recorded b before (horigin ▸ hbefore)
    obtain rfl := Option.some.inj (hentry.symm.trans hentry')
    obtain ⟨m, hm, hevent⟩ := h.recorded b before hbefore
    exact ⟨m, hm, hevent.trans (congrArg RebateSettlement.event hkept).symm⟩
  · obtain ⟨entry, hentry, -⟩ := hexcept _ hb
    cases (h.settlement_none htables hexposed hcan).symm.trans hentry

end Tracked

end Solvent
