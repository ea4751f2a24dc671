import Mathlib
import Solvent.Crosschain.Preparation

/-! # Orders across two chains

    The aggregate quote a client accepts, the calls staged on each chain, and the
    proxy's durable record of one order, its saga. The saga's state says which
    remote command comes next; the evidence fields say what was proven so far.

    `SqliteSagaStore` is the table `crosschain_saga`. As with the preparations,
    `update` overwrites the row whatever it holds.
-/

namespace Solvent

open BTreeMap SwapService

/-! ## Identifiers -/

structure CrossChainOrderId where
  hash : B256

theorem CrossChainOrderId.hash_injective : Function.Injective CrossChainOrderId.hash := by
  intro a b h
  cases a
  cases b
  exact congrArg CrossChainOrderId.mk h

instance : LinearOrder CrossChainOrderId :=
  LinearOrder.lift' _ CrossChainOrderId.hash_injective

instance crossChainOrderId_transCmp :
    Std.TransCmp (compare : CrossChainOrderId → CrossChainOrderId → Ordering) := inferInstance

structure CrossChainStepId where
  hash : B256
  deriving DecidableEq

/-! ## Commands and plans -/

inductive RemoteCommand where
  | Deliver
  | DispatchFillProof
  | ClaimOrigin
  | DispatchRepayment
  | CloseDestination
  deriving DecidableEq

namespace RemoteCommand

/-- `command as u8` -/
def as_u8 : RemoteCommand → UInt8
  | Deliver => 0
  | DispatchFillProof => 1
  | ClaimOrigin => 2
  | DispatchRepayment => 3
  | CloseDestination => 4

def name : RemoteCommand → String
  | Deliver => "Deliver"
  | DispatchFillProof => "DispatchFillProof"
  | ClaimOrigin => "ClaimOrigin"
  | DispatchRepayment => "DispatchRepayment"
  | CloseDestination => "CloseDestination"

end RemoteCommand

/-- The id of one command of an order on one chain. -/
def step_id (keccak256 : List UInt8 → B256) (order_id : CrossChainOrderId) (chain_id : ChainId)
    (command : RemoteCommand) : CrossChainStepId :=
  ⟨keccak256 (to_be_bytes 32 order_id.hash ++ to_be_bytes 8 chain_id.id ++ [command.as_u8])⟩

/-- One pre-authorized call. -/
structure PreparedStep where
  command : RemoteCommand
  target : Address
  value : U256
  calldata : List UInt8
  deriving DecidableEq

/-- The immutable quote accepted by the client and prepared on both chains. -/
structure AggregateQuote where
  id : AggregateQuoteId
  origin : LegQuote
  destination : LegQuote
  amount_in : U256
  amount_out : U256
  bridge_fee : U256
  cctp_finality_threshold : Option U32
  expires_at_unix : U64
  deriving DecidableEq

/-- The leg of a role. -/
def AggregateQuote.leg (quote : AggregateQuote) : LegRole → LegQuote
  | .Origin => quote.origin
  | .Destination => quote.destination

/-- Calls staged on one chain before capital is committed. -/
structure ChainExecutionPlan where
  aggregate_id : AggregateQuoteId
  chain_id : ChainId
  steps : List PreparedStep
  deriving DecidableEq

structure StepValidationContext where
  order_id : CrossChainOrderId
  quote : AggregateQuote
  role : LegRole
  deriving DecidableEq

def StepValidationContext.local_quote (context : StepValidationContext) : LegQuote :=
  context.quote.leg context.role

def aggregate_id (keccak256 : List UInt8 → B256) (origin destination : LegQuote)
    (bridge_fee : U256) (cctp_finality_threshold : Option U32) : AggregateQuoteId :=
  ⟨keccak256 (to_be_bytes 32 origin.quote_id ++ to_be_bytes 32 destination.quote_id ++
    to_be_bytes 32 bridge_fee ++ to_be_bytes 4 (cctp_finality_threshold.getD 0))⟩

/-- The checks on the terms of one route. -/
def validate_route (quote : AggregateQuote) : Except SolventError Unit :=
  match quote.origin.route with
  | .Direct =>
    if quote.bridge_fee ≠ 0 ∨ quote.cctp_finality_threshold.isSome then
      .error (.InvalidCrossChain "direct quote contains CCTP terms")
    else .ok ()
  | .Cctp =>
    match quote.destination.amount_in.checked_add quote.bridge_fee with
    | none => .error (.InvalidCrossChain "CCTP repayment plus fee exceeds uint256")
    | some required =>
      if quote.cctp_finality_threshold.isNone ∨ quote.origin.amount_out < required then
        .error (.InvalidCrossChain "CCTP aggregate terms are inconsistent")
      else .ok ()

def validate_aggregate_binding (keccak256 : List UInt8 → B256) (quote : AggregateQuote)
    (now_unix : U64) : Except SolventError Unit :=
  if ¬ (quote.id = aggregate_id keccak256 quote.origin quote.destination quote.bridge_fee
          quote.cctp_finality_threshold ∧
      quote.origin.quote_id = leg_quote_id keccak256 quote.origin ∧
      quote.destination.quote_id = leg_quote_id keccak256 quote.destination ∧
      quote.origin.role = .Origin ∧ quote.destination.role = .Destination ∧
      quote.origin.local_chain ≠ quote.destination.local_chain ∧
      quote.origin.local_chain = quote.destination.remote_chain ∧
      quote.origin.remote_chain = quote.destination.local_chain ∧
      quote.origin.request_id = quote.destination.request_id ∧
      quote.origin.route = quote.destination.route ∧
      quote.amount_in = quote.origin.amount_in ∧ quote.amount_out = quote.destination.amount_out ∧
      quote.expires_at_unix =
        min quote.origin.expires_at_unix quote.destination.expires_at_unix ∧
      quote.amount_in ≠ 0 ∧ quote.amount_out ≠ 0) then
    .error (.InvalidCrossChain "aggregate quote context is inconsistent")
  else match validate_route quote with
    | .error e => .error e
    | .ok () =>
      if quote.expires_at_unix ≤ now_unix then
        .error (.InvalidCrossChain "aggregate quote expired before order admission")
      else .ok ()

/-- The commands a plan stages before delivery. -/
def initial_commands : CrossChainRoute → LegRole → List RemoteCommand
  | .Direct, .Origin => [.ClaimOrigin, .DispatchRepayment]
  | .Direct, .Destination => [.Deliver, .DispatchFillProof, .CloseDestination]
  | .Cctp, .Origin => [.ClaimOrigin]
  | .Cctp, .Destination => [.Deliver, .DispatchFillProof]

/-- The steps are the commands `expected`, each once, in any order. -/
def has_commands (steps : List PreparedStep) (expected : List RemoteCommand) : Bool :=
  let actual := steps.map PreparedStep.command
  decide (actual.Nodup ∧ (∀ c ∈ actual, c ∈ expected) ∧ ∀ c ∈ expected, c ∈ actual)

def validate_plan (quote : AggregateQuote) (plan : ChainExecutionPlan) (role : LegRole) :
    Except SolventError Unit :=
  if plan.aggregate_id ≠ quote.id ∨ plan.chain_id ≠ (quote.leg role).local_chain ∨
      plan.steps.isEmpty then
    .error (.InvalidCrossChain "execution plan does not match the aggregate quote")
  else if ¬ has_commands plan.steps (initial_commands quote.origin.route role) then
    .error (.InvalidCrossChain
      "execution plan has the wrong commands for its route and chain role")
  else .ok ()

/-! ## The saga -/

inductive SagaState where
  | Quoted
  | Preparing
  | Prepared
  | DestinationPending
  | DestinationFinalized
  | FillProofPending
  | OriginPending
  | OriginFinalized
  | RepaymentPending
  | Complete
  | FailedBeforeDelivery
  | NeedsReconcile
  deriving DecidableEq

namespace SagaState

def name : SagaState → String
  | Quoted => "Quoted"
  | Preparing => "Preparing"
  | Prepared => "Prepared"
  | DestinationPending => "DestinationPending"
  | DestinationFinalized => "DestinationFinalized"
  | FillProofPending => "FillProofPending"
  | OriginPending => "OriginPending"
  | OriginFinalized => "OriginFinalized"
  | RepaymentPending => "RepaymentPending"
  | Complete => "Complete"
  | FailedBeforeDelivery => "FailedBeforeDelivery"
  | NeedsReconcile => "NeedsReconcile"

def permits (state next : SagaState) : Bool :=
  (match state, next with
    | Quoted, Preparing => true
    | Preparing, Prepared | Preparing, FailedBeforeDelivery => true
    | Prepared, DestinationPending | Prepared, FailedBeforeDelivery => true
    | DestinationPending, DestinationFinalized | DestinationPending, FailedBeforeDelivery
    | DestinationPending, NeedsReconcile => true
    | DestinationFinalized, FillProofPending | DestinationFinalized, NeedsReconcile => true
    | FillProofPending, OriginPending | FillProofPending, NeedsReconcile => true
    | OriginPending, OriginFinalized | OriginPending, NeedsReconcile => true
    | OriginFinalized, RepaymentPending | OriginFinalized, Complete
    | OriginFinalized, NeedsReconcile => true
    | RepaymentPending, Complete | RepaymentPending, NeedsReconcile => true
    | NeedsReconcile, DestinationPending | NeedsReconcile, FillProofPending
    | NeedsReconcile, OriginPending | NeedsReconcile, RepaymentPending
    | NeedsReconcile, Complete => true
    | _, _ => false) || decide (state = next)

end SagaState

/-- User-visible milestones. -/
inductive CrossChainLifecycleStage where
  | Quoted
  | DestinationFill
  | ProofRelay
  | OriginClaim
  | Repayment
  | Complete
  deriving DecidableEq

structure CrossChainLifecycleEvent where
  stage : CrossChainLifecycleStage
  at_unix : U64
  deriving DecidableEq

/-- Evidence for an idempotent remote command. -/
structure StepEvidence where
  command_id : CrossChainStepId
  transaction_hash : Option B256
  block_number : Option U64
  message_id : Option B256
  deriving DecidableEq

/-- The proxy's recoverable record for one end-to-end order. -/
structure CrossChainSaga where
  order_id : CrossChainOrderId
  taker : Option Address
  quote : AggregateQuote
  state : SagaState
  lifecycle : List CrossChainLifecycleEvent
  origin_prepare : Option PrepareToken
  destination_prepare : Option PrepareToken
  destination : Option StepEvidence
  fill_proof : Option StepEvidence
  origin : Option StepEvidence
  repayment : Option StepEvidence
  failure : Option String
  deriving DecidableEq

namespace CrossChainSaga

def transition (saga : CrossChainSaga) (next : SagaState) : Except SolventError CrossChainSaga :=
  if saga.state.permits next then .ok { saga with state := next }
  else .error (.InvalidCrossChain
    s!"invalid saga transition from {saga.state.name} to {next.name}")

/-- Record a milestone the first time it is reached. -/
def record_lifecycle (saga : CrossChainSaga) (stage : CrossChainLifecycleStage) (at_unix : U64) :
    CrossChainSaga :=
  if saga.lifecycle.all fun event => event.stage ≠ stage then
    { saga with lifecycle := saga.lifecycle ++ [{ stage, at_unix }] }
  else saga

/-- The preparation of a role. -/
def prepared (saga : CrossChainSaga) : LegRole → Option PrepareToken
  | .Origin => saga.origin_prepare
  | .Destination => saga.destination_prepare

end CrossChainSaga

/-! ## The saga store -/

abbrev SqliteSagaStore : Type := BTreeMap CrossChainOrderId CrossChainSaga

namespace SqliteSagaStore

def load (store : SqliteSagaStore) (order_id : CrossChainOrderId) : Option CrossChainSaga :=
  store[order_id]?

/-- `INSERT … ON CONFLICT(order_id) DO NOTHING`, then read the row back. -/
def insert_new (store : SqliteSagaStore) (saga : CrossChainSaga) :
    Except SagaStoreError CrossChainSaga × SqliteSagaStore :=
  match store.load saga.order_id with
  | some stored => if stored = saga then (.ok stored, store) else (.error .Conflict, store)
  | none => (.ok saga, store.insert saga.order_id saga)

/-- `UPDATE … WHERE order_id = ?` -/
def update (store : SqliteSagaStore) (saga : CrossChainSaga) :
    Except SagaStoreError Unit × SqliteSagaStore :=
  match store.load saga.order_id with
  | none => (.error (.Backend "saga disappeared during update"), store)
  | some _ => (.ok (), store.insert saga.order_id saga)

end SqliteSagaStore

end Solvent
