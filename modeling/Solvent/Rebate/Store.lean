import Solvent.Contracts.Continuation
import Solvent.Rebate.Batch

/-! # The rebate store

    The tables `rebate_batch` and `rebate_settlement`, and the scan cursor of the
    configured chain. The legs of `rebate_accrual` are kept with the batch they
    reference; `find_accrual` is the unique index over strategy and trade.

    A call here is one transaction, so one that answers with an error has written
    nothing. `begin_settlement` is two: the row is inserted, then read back.
-/

namespace Solvent

open Abi Contract BTreeMap
open Contracts (Authorization SwapOrder address_word)

/-! ## Rows -/

/-- `state` is `none` where the batch is closed: the columns `state`, `state_payload`
    and `is_open` are only ever written together. -/
structure BatchRow where
  strategy : StrategyKey
  pair : TokenPair
  accruals : BTreeMap TradeId MinedAccrual
  state : Option RebateBatchState

/-- The row of a batch that is saved with these legs. -/
def RebateBatch.row (batch : RebateBatch) (legs : BTreeMap TradeId MinedAccrual) : BatchRow where
  strategy := batch.strategy
  pair := batch.pair
  accruals := legs
  state := some batch.state

/-- The batch an open row describes. -/
def BatchRow.batch (row : BatchRow) (id : RebateBatchId) (state : RebateBatchState) : RebateBatch where
  id
  strategy := row.strategy
  pair := row.pair
  accruals := row.accruals
  state

inductive SettlementStatus where
  | Settling
  | Executed
  deriving DecidableEq

structure SettlementRow where
  status : SettlementStatus
  settlement : RebateSettlement

structure SqliteRebateStore where
  rebate_batch : BTreeMap RebateBatchId BatchRow
  rebate_settlement : BTreeMap RebateBatchId SettlementRow
  rebate_scan_cursor : Option I64

/-! ## Payloads -/

/-- `Order::abi_encode` -/
def order_abi_encode (order : SwapOrder) : Bytes := tuple [.behind (tuple order.parts)]

def EXECUTE_REBATE : Bytes :=
  "executeRebate((address,uint256,bytes),(uint8,uint256,bytes32,bytes32,address,address,address,uint256,uint256,uint256,uint64),bytes)".toUTF8.data.toList

/-- `executeRebateCall::abi_encode` -/
def execute_rebate_call (keccak256 : Bytes → B256) (order : SwapOrder)
    (authorization : Authorization) (signature : Bytes) : Bytes :=
  (word (keccak256 EXECUTE_REBATE)).take 4 ++
    tuple [.behind (tuple order.parts), .here authorization.to_words, .bytes signature]

/-- `StoredExecution::into_domain` -/
def stored_execution (keccak256 : Bytes → B256) (execution : RebateExecution) :
    Except RebateStoreError RebateExecution := do
  require (execution.authorization.kind = .Rebate)
    (.Db "stored rebate authorization has the wrong execution kind")
  require (execution.policy_signature.length = 65)
    (.Db "stored rebate signature must be 65 bytes")
  let order ← expect (order_abi_decode execution.order) (.Db "stored rebate order")
  require (order.maker = execution.authorization.maker ∧
      keccak256 (order_abi_encode order) = execution.authorization.strategyHash)
    (.Db "stored rebate order does not match its authorization")
  require (execute_rebate_call keccak256 order execution.authorization
      execution.policy_signature = execution.calldata)
    (.Db "stored rebate calldata does not match its signed payload")
  .ok execution

/-- `StoredState::into_domain` -/
def stored_state (keccak256 : Bytes → B256) :
    RebateBatchState → Except RebateStoreError RebateBatchState
  | .Ready execution => (stored_execution keccak256 execution).map .Ready
  | state => .ok state

namespace SqliteRebateStore

/-! ## Batches -/

/-- The open row of a strategy. -/
def open_row (store : SqliteRebateStore) (strategy : StrategyKey) :
    Option (RebateBatchId × BatchRow) :=
  store.rebate_batch.toList.find? fun e => e.2.strategy = strategy ∧ e.2.state.isSome

/-- The leg of a trade on a strategy, with the batch it is in. -/
def find_accrual (store : SqliteRebateStore) (strategy : StrategyKey) (trade : TradeId) :
    Option (RebateBatchId × MinedAccrual) :=
  store.rebate_batch.toList.findSome? fun e =>
    if e.2.strategy = strategy then (e.2.accruals[trade]?).map fun a => (e.1, a) else none

def persist_accrual (id : RebateBatchId) (strategy : StrategyKey) (store : SqliteRebateStore)
    (accrual : MinedAccrual) : Except RebateStoreError SqliteRebateStore :=
  match store.find_accrual strategy accrual.trade_id with
  | none => do
    let row ← expect store.rebate_batch[id]? (.Db "FOREIGN KEY constraint failed")
    .ok { store with
      rebate_batch := store.rebate_batch.insert id
        { row with accruals := row.accruals.insert accrual.trade_id accrual } }
  | some (id', stored) =>
    if id' = id ∧ stored = accrual then .ok store else .error (.Conflict strategy.strategy_hash)

/-- `INSERT … ON CONFLICT DO NOTHING`: the id is the primary key, and a strategy has
    one open row. -/
def insert_batch (store : SqliteRebateStore) (batch : RebateBatch) : SqliteRebateStore :=
  if (store.rebate_batch[batch.id]?).isSome ∨ (store.open_row batch.strategy).isSome then store
  else
    { store with
      rebate_batch := store.rebate_batch.insert batch.id
        { strategy := batch.strategy, pair := batch.pair, accruals := ∅
          state := some .Accumulating } }

/-- Atomically persist the complete open batch. -/
def save (store : SqliteRebateStore) (batch : RebateBatch) :
    Except RebateStoreError SqliteRebateStore := do
  let store := store.insert_batch batch
  let (id, row) ← expect (store.open_row batch.strategy) (.Conflict batch.strategy.strategy_hash)
  require (id = batch.id ∧ row.pair = batch.pair) (.Conflict batch.strategy.strategy_hash)
  let store ← (BTreeMap.values batch.accruals).foldlM (persist_accrual batch.id batch.strategy)
    store
  let row ← expect ((store.rebate_batch[batch.id]?).filter fun row => row.state.isSome)
    (.Conflict batch.strategy.strategy_hash)
  .ok { store with
    rebate_batch := store.rebate_batch.insert batch.id { row with state := some batch.state } }

/-- `BatchRow::into_batch` -/
def into_batch (keccak256 : Bytes → B256) (e : RebateBatchId × BatchRow) :
    Except RebateStoreError RebateBatch := do
  let state ← expect e.2.state (.Db "open batch has no state payload")
  let state ← stored_state keccak256 state
  require (∀ a ∈ e.2.accruals.toList, a.2.strategy = e.2.strategy)
    (.Db "accrual strategy does not match its batch")
  .ok (e.2.batch e.1 state)

/-- Every still-open batch, in the order of the ids. -/
def open_batches (store : SqliteRebateStore) (keccak256 : Bytes → B256) :
    Except RebateStoreError (List RebateBatch) :=
  (store.rebate_batch.toList.filter fun e => e.2.state.isSome).mapM (into_batch keccak256)

/-- Close a batch without erasing its accrual history. -/
def close (store : SqliteRebateStore) (id : RebateBatchId) : SqliteRebateStore :=
  match store.rebate_batch[id]? with
  | some row => { store with rebate_batch := store.rebate_batch.insert id { row with state := none } }
  | none => store

/-! ## Settlements -/

/-- `begin_settlement` up to its insert: an execution is persisted before its inventory
    reservation is consumed. -/
def insert_settlement (store : SqliteRebateStore) (settlement : RebateSettlement) :
    Except RebateStoreError SqliteRebateStore := do
  let id := settlement.plan.batch_id
  require ((i64_of settlement.executed_at).isOk = true) (.Db "executed_at exceeds i64")
  if (store.rebate_settlement[id]?).isSome then .ok store
  else do
    require ((store.rebate_batch[id]?).isSome = true) (.Db "FOREIGN KEY constraint failed")
    .ok { store with
      rebate_settlement := store.rebate_settlement.insert id { status := .Settling, settlement } }

/-- The rest of `begin_settlement`: what is stored must be this execution. -/
def settles_exactly (store : SqliteRebateStore) (settlement : RebateSettlement) :
    Except RebateStoreError Unit :=
  require (∃ row ∈ store.rebate_settlement[settlement.plan.batch_id]?,
      row.settlement.plan = settlement.plan ∧ row.settlement.reservation = settlement.reservation ∧
        row.settlement.event = settlement.event)
    (.Conflict settlement.plan.strategy.strategy_hash)

/-- Settlements interrupted after their on-chain event was observed. -/
def pending_settlements (store : SqliteRebateStore) : List RebateSettlement :=
  (store.rebate_settlement.toList.filter fun e => e.2.status = .Settling).map (·.2.settlement)

/-- Atomically retain executed history and close its open batch. -/
def finish_settlement (store : SqliteRebateStore) (id : RebateBatchId) :
    Except RebateStoreError SqliteRebateStore := do
  let row ← expect store.rebate_settlement[id]? (.Db "rebate settlement does not exist")
  .ok ({ store with
    rebate_settlement := store.rebate_settlement.insert id { row with status := .Executed } }.close
      id)

/-! ## The scan cursor -/

/-- The cursor never goes back. -/
def save_scan_cursor (store : SqliteRebateStore) (block_number : U64) :
    Except RebateStoreError SqliteRebateStore :=
  match i64_of block_number with
  | .error e => .error (.Db e)
  | .ok block =>
    match store.rebate_scan_cursor with
    | none => .ok { store with rebate_scan_cursor := some block }
    | some cursor =>
      .ok (if cursor ≤ block then { store with rebate_scan_cursor := some block } else store)

/-! ## Executed history -/

/-- A page of the history: one maker's or everyone's, before a cursor, so many. -/
structure ExecutedRebateQuery where
  maker : Option MakerId
  before : Option (U64 × RebateBatchId)
  limit : ℕ

/-- Newer first: by the time executed, then by the batch. -/
def newer (a b : RebateSettlement) : Bool :=
  b.executed_at < a.executed_at ∨ (b.executed_at = a.executed_at ∧ b.plan.batch_id ≤ a.plan.batch_id)

def in_page (query : ExecutedRebateQuery) (s : RebateSettlement) : Bool :=
  (∀ maker ∈ query.maker, s.plan.strategy.maker = maker) ∧
    ∀ cursor ∈ query.before, s.executed_at < cursor.1 ∨
      (s.executed_at = cursor.1 ∧ s.plan.batch_id < cursor.2)

/-- Executed rebates ordered newest first. -/
def executed_rebates (store : SqliteRebateStore) (query : ExecutedRebateQuery) :
    Except RebateStoreError (List RebateSettlement) := do
  require (∀ cursor ∈ query.before, (i64_of cursor.1).isOk = true) (.Db "executed_at exceeds i64")
  .ok ((((BTreeMap.values store.rebate_settlement).filter fun row =>
    row.status = .Executed ∧ in_page query row.settlement).map (·.settlement)
    |>.mergeSort newer).take query.limit)

def executed_rebate (store : SqliteRebateStore) (id : RebateBatchId) : Option RebateSettlement :=
  ((store.rebate_settlement[id]?).filter fun row => row.status = .Executed).map (·.settlement)

end SqliteRebateStore

end Solvent
