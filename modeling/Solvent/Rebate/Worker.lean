import Solvent.Rebate.Service

/-! # The rebate worker

    One tick scans the filler's events up to a block the registry has folded, takes in
    the confirmed legs, and then processes every open batch, whether or not another of
    them fails. What its ports answer is fixed for the tick.
-/

namespace Solvent

open Abi BTreeMap Contract Process

/-! ## Sources -/

/-- A leg of a confirmed trade, as the trade tables have it. -/
structure PendingRow where
  trade_id : TradeId
  token_in : Address
  token_out : Address
  block_number : I64
  maker : MakerId
  strategy_hash : StrategyHash
  amount_in : U256
  amount_out : U256

/-- The weight of a leg is its amount of the pair's lower token. -/
def PendingRow.into_domain (row : PendingRow) (app : Address) : MinedAccrual where
  trade_id := row.trade_id
  strategy := { maker := row.maker, app, strategy_hash := row.strategy_hash }
  token_in := row.token_in
  token_out := row.token_out
  amount_in := row.amount_in
  amount_out := row.amount_out
  allocation_weight :=
    if row.token_in = (TokenPair.new row.token_in row.token_out).lo then row.amount_in
    else row.amount_out
  confirmed_block := ⟨row.block_number.val, by omega⟩

namespace SqliteRebateStore

/-- Published work is open for the strategy. -/
def is_published (store : SqliteRebateStore) (strategy : StrategyKey) : Bool :=
  ((store.open_row strategy).bind fun e => e.2.state).any RebateBatchState.is_ready

end SqliteRebateStore

/-- The confirmed legs that are in no batch yet. Later fills stay in the trade tables
    until the current public authorization is closed. -/
def SqliteRebateAccrualSource.pending (confirmed : List MinedAccrual) (store : SqliteRebateStore)
    (limit : ℕ) : List MinedAccrual :=
  (confirmed.filter fun accrual =>
    (store.find_accrual accrual.strategy accrual.trade_id).isNone ∧
      store.is_published accrual.strategy = false).take limit

/-- The filler's logs between two blocks, in the order they were emitted. -/
def AlloyRebateChainSource.fetch (logs : List RebateExecutedEvent) (from_block to_block : U64) :
    List RebateExecutedEvent :=
  (logs.filter fun event => from_block ≤ event.block_number ∧ event.block_number ≤ to_block).mergeSort
    fun a b => a.block_number < b.block_number ∨
      (a.block_number = b.block_number ∧ a.log_index ≤ b.log_index)

/-! ## The worker -/

structure RebateWorkerConfig where
  start_block : U64
  authorization_ttl_blocks : U64
  reservation_ttl_secs : U64

structure RebateWorkerReport where
  accrued : ℕ
  evaluated : ℕ
  settled : ℕ
  expired : ℕ

def RebateWorkerReport.default : RebateWorkerReport := ⟨0, 0, 0, 0⟩

inductive BatchOutcome where
  | Unchanged
  | Evaluated
  | Expired

/-- What the worker's ports answer during one tick. -/
structure RebateTick where
  current_head : U64
  registry_cursor : Option U64
  logs : List RebateExecutedEvent
  confirmed : List MinedAccrual
  has_unsettled : StrategyKey → Bool
  snapshot : Snapshot
  /-- `strategy.program` -/
  program : StrategyKey → Bytes
  now_unix : U64

def INTAKE_BATCH_LIMIT : ℕ := 256

namespace RebateWorker

open RebateService

/-- A call to a port of the worker's own. -/
def port {α : Type} (answer : α) : Method α := call fun s => (.ok answer, s)

section

variable (keccak256 : Bytes → B256) (policy : RebatePolicyConfig) (service : RebateServiceConfig)
  (config : RebateWorkerConfig) (ports : RebatePorts) (answers : RebateTick)

/-- The first block that is not scanned. -/
def next_block (cursor : Option I64) : U64 :=
  match cursor with
  | some block => U64.saturating_add ⟨block.val, by omega⟩ 1
  | none => config.start_block

def reconcile_executions (safe_head : U64) : Method ℕ := do
  let cursor ← query fun store => .ok store.rebate_scan_cursor
  if safe_head < next_block config cursor then pure 0
  else do
    let events ← port (AlloyRebateChainSource.fetch answers.logs (next_block config cursor) safe_head)
    let settled ← events.foldlM (fun settled event => do
      let done ← settle event answers.now_unix
      pure (settled + done.toNat)) 0
    transact fun store => store.save_scan_cursor safe_head
    pure settled

/-- The intake loop. It ends at the first page that is not full. -/
def intake : ℕ → ℕ → Method ℕ
  | 0, accrued => pure accrued
  | rounds + 1, accrued => do
    let pending ← query fun store =>
      .ok (SqliteRebateAccrualSource.pending answers.confirmed store INTAKE_BATCH_LIMIT)
    let accrued ← pending.foldlM (fun accrued accrual => do
      let _ ← accrue keccak256 accrual
      pure (accrued + 1)) accrued
    if pending.length < INTAKE_BATCH_LIMIT then pure accrued else intake rounds accrued

def deadline_block : U64 := U64.saturating_add answers.current_head config.authorization_ttl_blocks

/-- The id a batch reserves under, for one deadline. -/
def reservation_id (batch : RebateBatchId) : ReservationId :=
  ⟨keccak256 (words [batch.hash, Fin.ofNat _ (deadline_block config answers).val])⟩

def evaluation_input (caps : AvailableSnapshot) (batch : RebateBatch) (strategy : MakerStrategy) :
    RebateEvaluationInput where
  strategy
  program := answers.program batch.strategy
  caps
  minimums := [⟨batch.pair.lo, 1, 1⟩, ⟨batch.pair.hi, 1, 1⟩]
  reservation_id := reservation_id keccak256 config answers batch.id
  reservation_ttl_secs := config.reservation_ttl_secs
  deadline_block := deadline_block config answers
  published_at := answers.now_unix

def process_batch (caps : AvailableSnapshot) (safe_head : U64) (batch : RebateBatch) :
    Method BatchOutcome :=
  match batch.state with
  | .Ready _ => do
    let expired ← expire_ready batch.strategy safe_head
    pure (if expired then .Expired else .Unchanged)
  | _ =>
    if (BTreeMap.values batch.accruals).any fun accrual => safe_head < accrual.confirmed_block then
      pure .Unchanged
    else do
      if ← port (answers.has_unsettled batch.strategy) then pure .Unchanged
      else
        match answers.snapshot.strategies[batch.strategy]? with
        | none => pure .Unchanged
        | some strategy =>
          if strategy.active then do
            let _ ← evaluate keccak256 policy service ports
              (evaluation_input keccak256 config answers caps batch strategy)
            pure .Evaluated
          else do
            let _ ← discard batch.strategy
            pure .Unchanged

/-- What a pass over the batches has come to: the report, and the first error. -/
structure Pass where
  report : RebateWorkerReport
  first_error : Option RebateServiceError

def Pass.add (pass : Pass) : Except RebateServiceError BatchOutcome → Pass
  | .ok .Unchanged => pass
  | .ok .Evaluated =>
    { pass with report := { pass.report with evaluated := pass.report.evaluated + 1 } }
  | .ok .Expired => { pass with report := { pass.report with expired := pass.report.expired + 1 } }
  | .error e => { pass with first_error := some (pass.first_error.getD e) }

/-- Independent strategies still make progress when one batch fails. -/
def process_batches (caps : AvailableSnapshot) (safe_head : U64) (batches : List RebateBatch)
    (report : RebateWorkerReport) : Method Pass :=
  batches.foldlM (fun pass batch => do
    let outcome ← attempt (process_batch keccak256 policy service config ports answers caps safe_head batch)
    pure (pass.add outcome)) ⟨report, none⟩

/-- Process only blocks already folded into the registry snapshot, then evaluate complete
    batches. -/
def tick : Method RebateWorkerReport := do
  match ← port answers.registry_cursor with
  | none => pure .default
  | some registry_cursor => do
    let safe_head := min answers.current_head registry_cursor
    let settled ← reconcile_executions config answers safe_head
    -- Every full page takes in a leg, so no more rounds are needed than there are legs.
    let accrued ← intake keccak256 answers (answers.confirmed.length + 1) 0
    let s ← read
    let pass ← process_batches keccak256 policy service config ports answers s.ledger.snapshot safe_head
      (BTreeMap.values s.batches) { RebateWorkerReport.default with settled, accrued }
    match pass.first_error with
    | some e => lift (.error e)
    | none => pure pass.report

end

/-! ## The scan -/

theorem next_block_val (config : RebateWorkerConfig) (cursor : Option I64) :
    (next_block config cursor).val =
      match cursor with
      | some block => block.val + 1
      | none => config.start_block.val := by
  cases cursor with
  | none => rfl
  | some block =>
    have hbound := block.isLt
    show min (block.val + 1) (2 ^ 64 - 1) = block.val + 1
    omega

/-- A block before the next one is scanned, or nothing is looked for there. -/
theorem scanned_of_lt {config : RebateWorkerConfig} {cursor : Option I64} {block_number : U64}
    (h : block_number < next_block config cursor) :
    (∃ block ∈ cursor, block_number.val ≤ block.val) ∨ block_number.val < config.start_block.val := by
  have hlt : block_number.val < (next_block config cursor).val := h
  rw [next_block_val] at hlt
  cases cursor with
  | none => exact .inr hlt
  | some block => exact .inl ⟨block, rfl, Nat.lt_succ_iff.mp hlt⟩

end RebateWorker

end Solvent
