import Solvent.Ingest.Aqua
import Solvent.Rebate.Policy

/-! # Rebate batches

    One batch gathers the mined legs that displaced a strategy until a restoration
    of it is published and executed. The transitional states let a restart undo an
    interrupted change of the reservation before any authorization is exposed.
-/

namespace Solvent

open Abi Contract BTreeMap
open Contracts (Authorization address_word)

theorem RebateBatchId.hash_injective : Function.Injective RebateBatchId.hash := by
  intro a b h
  cases a
  cases b
  exact congrArg RebateBatchId.mk h

instance : LinearOrder RebateBatchId := LinearOrder.lift' _ RebateBatchId.hash_injective

instance rebateBatchId_transCmp :
    Std.TransCmp (compare : RebateBatchId → RebateBatchId → Ordering) := inferInstance

instance : Std.LawfulEqCmp (compare : RebateBatchId → RebateBatchId → Ordering) :=
  ⟨compare_eq_iff_eq.mp⟩

deriving instance DecidableEq for RebateAllocation, RebatePlan

/-! ## Values -/

/-- A mined leg with what the policy does not read of it. -/
structure MinedAccrual extends RebateAccrual where
  amount_in : U256
  amount_out : U256
  /-- Block containing the confirmed fill. -/
  confirmed_block : U64

deriving instance DecidableEq for RebateAccrual, MinedAccrual

/-- The signed, immutable transaction payload exposed to public executors. -/
structure RebateExecution where
  plan : RebatePlan
  reservation : ReservationId
  authorization : Authorization
  order : Bytes
  policy_signature : Bytes
  calldata : Bytes
  published_at : U64
  deriving DecidableEq

/-- One mined filler event proving a public rebate execution completed on chain. -/
structure RebateExecutedEvent where
  batch_id : RebateBatchId
  strategy_hash : StrategyHash
  executor : Address
  maker : MakerId
  token_in : Address
  token_out : Address
  amount_in : U256
  amount_out : U256
  maker_rebate : U256
  tx_hash : B256
  block_number : U64
  log_index : U64
  deriving DecidableEq

/-- Crash-recoverable record written before the rebate reservation is posted. -/
structure RebateSettlement where
  plan : RebatePlan
  reservation : ReservationId
  event : RebateExecutedEvent
  executed_at : U64

/-- The record of an execution's event. -/
def RebateExecution.settlement (execution : RebateExecution) (event : RebateExecutedEvent)
    (executed_at : U64) : RebateSettlement where
  plan := execution.plan
  reservation := execution.reservation
  event
  executed_at

inductive RebateBatchState where
  | Accumulating
  | Guarded
  | Preparing (plan : RebatePlan) (reservation : ReservationId)
  | Ready (execution : RebateExecution)
  | Invalidating (reservation : ReservationId)

/-- One strategy's only open restoration batch. -/
structure RebateBatch where
  id : RebateBatchId
  strategy : StrategyKey
  pair : TokenPair
  accruals : BTreeMap TradeId MinedAccrual
  state : RebateBatchState

def RebateBatch.new (id : RebateBatchId) (pair : TokenPair) (accrual : MinedAccrual) :
    RebateBatch where
  id
  strategy := accrual.strategy
  pair
  accruals := (∅ : BTreeMap TradeId MinedAccrual).insert accrual.trade_id accrual
  state := .Accumulating

namespace RebateBatch

/-- The batch in another state. -/
def enter (batch : RebateBatch) (state : RebateBatchState) : RebateBatch := { batch with state }

/-- The batch with one more leg. -/
def append (batch : RebateBatch) (accrual : MinedAccrual) : RebateBatch :=
  { batch with accruals := batch.accruals.insert accrual.trade_id accrual }

@[simp] theorem enter_id (batch : RebateBatch) (state : RebateBatchState) :
    (batch.enter state).id = batch.id := rfl

@[simp] theorem enter_strategy (batch : RebateBatch) (state : RebateBatchState) :
    (batch.enter state).strategy = batch.strategy := rfl

@[simp] theorem enter_pair (batch : RebateBatch) (state : RebateBatchState) :
    (batch.enter state).pair = batch.pair := rfl

@[simp] theorem enter_accruals (batch : RebateBatch) (state : RebateBatchState) :
    (batch.enter state).accruals = batch.accruals := rfl

@[simp] theorem enter_state (batch : RebateBatch) (state : RebateBatchState) :
    (batch.enter state).state = state := rfl

@[simp] theorem enter_enter (batch : RebateBatch) (state state' : RebateBatchState) :
    (batch.enter state).enter state' = batch.enter state' := rfl

end RebateBatch

/-! ## Errors -/

inductive RebateStoreError where
  | Conflict (strategy_hash : StrategyHash)
  | Db (message : String)

inductive RebateCallBuilderError where
  | InvalidPlan (reason : String)
  | StrategyMismatch
  | StrategyHashMismatch
  | UndecodableProgram
  | StrategyMakerMismatch
  | UnprotectedStrategy
  | Signing

/-- What the rebate service reports. -/
inductive RebateServiceError where
  | Rebate (e : RebateError)
  /-- `RebateError::InvalidExecution` -/
  | InvalidExecution (reason : String)
  | RebateStore (e : RebateStoreError)
  | RebateCallBuilder (e : RebateCallBuilderError)
  | MarketBook (message : String)
  | GasPrice (message : String)
  | Ledger (e : SolventError)
  /-- What the worker's own ports report. -/
  | Port (message : String)

/-! ## Reservations -/

namespace RebateBatchState

/-- The reservation a batch in this state has promised or is giving back. -/
def active_reservation : RebateBatchState → Option ReservationId
  | Preparing _ reservation | Invalidating reservation => some reservation
  | Ready execution => some execution.reservation
  | Accumulating | Guarded => none

/-- The plan a batch in this state carries. -/
def plan : RebateBatchState → Option RebatePlan
  | Preparing plan _ => some plan
  | Ready execution => some execution.plan
  | _ => none

/-- Published. -/
def is_ready : RebateBatchState → Bool
  | Ready _ => true
  | _ => false

end RebateBatchState

/-- What a plan takes from a strategy. -/
def RebatePlan.source (plan : RebatePlan) (key : StrategyKey) : ReservationSource where
  maker := key.maker
  strategy_hash := key.strategy_hash
  token := plan.token_out
  amount := plan.amount_out

/-! ## Validation -/

def validate_accrual (accrual : MinedAccrual) : Except RebateServiceError Unit := do
  require (accrual.token_in ≠ accrual.token_out) (.Rebate (.InvalidAccrual "tokens are identical"))
  require (accrual.amount_in ≠ 0 ∧ accrual.amount_out ≠ 0 ∧ accrual.allocation_weight ≠ 0 ∧
      accrual.confirmed_block ≠ 0)
    (.Rebate (.InvalidAccrual
      "amounts, allocation weight, and confirmed block must be non-zero"))

/-- The trades a plan pays, each once. -/
def allocation_trades (plan : RebatePlan) : BTreeSet TradeId :=
  Std.ExtTreeSet.ofList (plan.allocations.map (·.trade_id)) compare

def plan_matches_batch (plan : RebatePlan) (batch : RebateBatch) : Bool :=
  plan.batch_id = batch.id ∧ plan.strategy = batch.strategy ∧
    TokenPair.new plan.token_in plan.token_out = batch.pair ∧
    plan.amount_in ≠ 0 ∧ plan.amount_out ≠ 0 ∧ plan.maker_rebate ≠ 0 ∧
    (allocation_trades plan).size = plan.allocations.length ∧
    (allocation_trades plan).size = batch.accruals.size ∧
    (∀ trade ∈ (allocation_trades plan).toList, (batch.accruals[trade]?).isSome) ∧
    plan.allocations.foldlM (fun sum allocation => sum.checked_add allocation.amount) 0 =
      some plan.maker_rebate

/-- A persisted leg belongs where it was found. -/
def accrual_belongs (batch : RebateBatch) (trade : TradeId) (accrual : MinedAccrual) : Bool :=
  trade = accrual.trade_id ∧ accrual.strategy = batch.strategy ∧
    TokenPair.new accrual.token_in accrual.token_out = batch.pair ∧
    (validate_accrual accrual).isOk

/-- Published work says what its plan says. -/
def execution_matches (batch : RebateBatch) (execution : RebateExecution) : Bool :=
  let authorization := execution.authorization
  let plan := execution.plan
  authorization.kind = .Rebate ∧ authorization.contextHash = batch.id.hash ∧
    authorization.strategyHash = batch.strategy.strategy_hash.hash ∧
    authorization.maker = batch.strategy.maker.address ∧
    authorization.tokenIn = plan.token_in ∧ authorization.tokenOut = plan.token_out ∧
    authorization.amountOut = plan.amount_out ∧ authorization.amountInLimit = plan.amount_in ∧
    authorization.rebateAmount = plan.maker_rebate ∧ authorization.deadlineBlock ≠ 0 ∧
    execution.order ≠ [] ∧ execution.policy_signature.length = 65 ∧ execution.calldata ≠ []

def validate_batch (batch : RebateBatch) : Except RebateServiceError Unit := do
  require (batch.accruals.isEmpty = false ∧
      ∀ entry ∈ batch.accruals.toList, accrual_belongs batch entry.1 entry.2 = true)
    (.Rebate (.InvalidAccrual "persisted batch contains invalid accruals"))
  require (∀ plan ∈ batch.state.plan, plan_matches_batch plan batch = true)
    (.Rebate (.InvalidAccrual "persisted plan does not match its batch"))
  match batch.state with
  | .Ready execution =>
    require (execution_matches batch execution = true)
      (.Rebate (.InvalidAccrual "persisted execution does not match its plan"))
  | _ => .ok ()

/-- The event reports the plan. -/
def event_matches (event : RebateExecutedEvent) (plan : RebatePlan) : Bool :=
  event.batch_id = plan.batch_id ∧ event.strategy_hash = plan.strategy.strategy_hash ∧
    event.maker = plan.strategy.maker ∧ event.token_in = plan.token_in ∧
    event.token_out = plan.token_out ∧ event.amount_in = plan.amount_in ∧
    event.amount_out = plan.amount_out ∧ event.maker_rebate = plan.maker_rebate ∧
    event.executor ≠ 0 ∧ event.tx_hash ≠ 0 ∧ event.block_number ≠ 0

def validate_execution_event (event : RebateExecutedEvent) (execution : RebateExecution) :
    Except RebateServiceError Unit :=
  require (event_matches event execution.plan = true ∧
      event.block_number ≤ execution.authorization.deadlineBlock)
    (.InvalidExecution "event does not match the signed plan")

def validate_settlement (settlement : RebateSettlement) : Except RebateServiceError Unit :=
  require (settlement.reservation.hash ≠ 0 ∧ event_matches settlement.event settlement.plan = true)
    (.InvalidExecution "persisted settlement does not match its plan")

/-- Stable batch identity makes replaying the first accrual idempotent after persistence. -/
def batch_id (keccak256 : Bytes → B256) (accrual : MinedAccrual) : RebateBatchId :=
  ⟨keccak256 (words [address_word accrual.strategy.maker.address, address_word accrual.strategy.app,
    accrual.strategy.strategy_hash.hash, Fin.ofNat _ (accrual.trade_id.ulid.val * 2 ^ 128)])⟩

end Solvent
