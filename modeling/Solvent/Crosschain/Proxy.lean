import Mathlib
import Solvent.Crosschain.Steps
import Solvent.Crosschain.Direct

/-! # The proxy

    The proxy drives a saga to its end by requests to the two chain services. It
    owns no chain state: between two requests it has the saga it loaded, and what
    it learns it writes back with `update`. `start_with_taker` and `advance` are
    programs whose queries are the saga store's calls, the requests, and the CCTP
    port.

    Where the source awaits two inspections together, the origin's comes first
    here; both only read.
-/

namespace Solvent

structure CctpQuoteTerms where
  max_fee : U256
  finality_threshold : U32
  deriving DecidableEq

structure CctpPreparedStep where
  step : PreparedStep
  message_id : B256
  deriving DecidableEq

inductive ProxyQuery where
  | load (order_id : CrossChainOrderId)
  | insert (saga : CrossChainSaga)
  | update (saga : CrossChainSaga)
  | remote (role : LegRole) (request : RemoteRequest)
  | quote_terms (repayment : U256)
  | close_step (order_id : CrossChainOrderId) (origin_transaction : B256)
  | author_direct (authorization : DirectOrderAuthorization)

def ProxyQuery.Answer : ProxyQuery → Type
  | load _ => Except SagaStoreError (Option CrossChainSaga)
  | insert _ => Except SagaStoreError CrossChainSaga
  | update _ => Except SagaStoreError Unit
  | remote _ request => Except RemoteSolventError request.Reply
  | quote_terms _ => Except CctpCompletionError CctpQuoteTerms
  | close_step _ _ => Except CctpCompletionError CctpPreparedStep
  | author_direct _ => Except RemoteSolventError DirectExecutionPlans

abbrev Proxy (α : Type) : Type :=
  ExceptT SolventError (Program ProxyQuery ProxyQuery.Answer) α

namespace Proxy

/-! ## Queries -/

def ask (q : ProxyQuery) : Program ProxyQuery ProxyQuery.Answer q.Answer :=
  Program.query q

def load (order_id : CrossChainOrderId) : Proxy (Option CrossChainSaga) :=
  ExceptT.mk do return (← ask (.load order_id)).mapError .SagaStore

def insert (saga : CrossChainSaga) : Proxy CrossChainSaga :=
  ExceptT.mk do return (← ask (.insert saga)).mapError .SagaStore

def update (saga : CrossChainSaga) : Proxy Unit :=
  ExceptT.mk do return (← ask (.update saga)).mapError .SagaStore

/-- Write the saga and return it. -/
def save (saga : CrossChainSaga) : Proxy CrossChainSaga := do
  update saga
  return saga

/-- A request whose failure the caller looks at. -/
def remote (role : LegRole) (request : RemoteRequest) :
    Proxy (Except RemoteSolventError request.Reply) :=
  ExceptT.lift (ask (.remote role request))

/-- A request whose failure ends the call. -/
def request (role : LegRole) (request : RemoteRequest) : Proxy request.Reply :=
  ExceptT.mk do return (← ask (.remote role request)).mapError .RemoteSolvent

/-- The current state of a preparation. -/
def inspect (role : LegRole) (token : PrepareToken) : Proxy Preparation :=
  request role (.inspect token)

/-! ## Checks -/

def required_token (token : Option PrepareToken) : Except SolventError PrepareToken :=
  match token with
  | none => .error (.InvalidCrossChain "saga is missing a committed preparation")
  | some token => .ok token

/-- The preparation is the one the saga expects for the role, committed. -/
def confirms (saga : CrossChainSaga) (p : Preparation) (role : LegRole) : Prop :=
  some p.token = saga.prepared role ∧ p.quote_id = saga.quote.id ∧ p.role = role ∧
    p.chain_id = (saga.quote.leg role).local_chain ∧ p.state = .Committed

instance (saga : CrossChainSaga) (p : Preparation) (role : LegRole) :
    Decidable (confirms saga p role) :=
  inferInstanceAs (Decidable (_ ∧ _))

def unconfirmed : String := "remote service did not confirm the expected committed preparation"

def validate_committed (saga : CrossChainSaga) (p : Preparation) (role : LegRole) :
    Except SolventError Unit :=
  if confirms saga p role then .ok () else .error (.InvalidCrossChain unconfirmed)

/-! ## Compensation -/

/-- Release the preparation of a role, if there is one; the failure, if any. -/
def release (role : LegRole) (saga : CrossChainSaga) : Proxy (Option RemoteSolventError) :=
  match saga.prepared role with
  | none => return none
  | some token => do
    match ← remote role (.release token) with
    | .ok _ => return none
    | .error e => return some e

/-- Release both preparations. The first failure is recorded and reported, and
    the saga keeps its state. -/
def compensate (saga : CrossChainSaga) (reason : String) : Proxy CrossChainSaga := do
  let origin_error ← release .Origin saga
  let destination_error ← release .Destination saga
  match origin_error.or destination_error with
  | some error =>
    update { saga with failure := some s!"{reason}; compensation pending: {error.to_string}" }
    throw (.RemoteSolvent error)
  | none =>
    let saga ← ExceptT.mk (pure
      ({ saga with failure := some reason }.transition .FailedBeforeDelivery))
    save saga

/-! ## Preparation -/

/-- What a leg of the preparation does with an answer: go on with it, compensate
    where the service refused, fail otherwise. -/
def or_compensate {α : Type} (saga : CrossChainSaga) (answer : Except RemoteSolventError α)
    (k : α → Proxy CrossChainSaga) : Proxy CrossChainSaga :=
  match answer with
  | .ok a => k a
  | .error (.Rejected reason) => compensate saga reason
  | .error e => throw (.RemoteSolvent e)

/-- Inspect the preparation of a role, or make it. -/
def preparation (role : LegRole) (saga : CrossChainSaga) :
    Proxy (Except RemoteSolventError Preparation) :=
  match saga.prepared role with
  | some token => remote role (.inspect token)
  | none => remote role (.prepare saga.quote.id (saga.quote.leg role))

def set_prepared (saga : CrossChainSaga) (role : LegRole) (token : PrepareToken) :
    CrossChainSaga :=
  match role with
  | .Origin => { saga with origin_prepare := some token }
  | .Destination => { saga with destination_prepare := some token }

/-- Record the token of a preparation the first time it is seen. -/
def record_token (role : LegRole) (saga : CrossChainSaga) (p : Preparation) :
    Proxy CrossChainSaga :=
  if (saga.prepared role).isNone then save (set_prepared saga role p.token) else return saga

def unusable : LegRole → String
  | .Origin => "origin preparation is no longer usable"
  | .Destination => "destination preparation is no longer usable"

def InvalidCrossChain_text (message : String) : String :=
  s!"invalid cross-chain request: {message}"

/-- Commit a preparation that is not committed yet, and check the result. -/
def commit_leg (role : LegRole) (saga : CrossChainSaga) (p : Preparation)
    (k : Proxy CrossChainSaga) : Proxy CrossChainSaga :=
  let check (p : Preparation) : Proxy CrossChainSaga :=
    if confirms saga p role then k else compensate saga (InvalidCrossChain_text unconfirmed)
  match p.state with
  | .Prepared => do
    let answer ← remote role (.commit p.token)
    or_compensate saga answer check
  | .Committed => check p
  | .Executed | .Released => compensate saga (unusable role)

/-- The end of the preparation: both legs are committed. -/
def finish_preparation (saga : CrossChainSaga) : Proxy CrossChainSaga := do
  let saga ← ExceptT.mk (pure (saga.transition .Prepared))
  save saga

def continue_preparation (saga : CrossChainSaga) : Proxy CrossChainSaga := do
  let answer ← preparation .Origin saga
  or_compensate saga answer fun origin => do
    let saga ← record_token .Origin saga origin
    let answer ← preparation .Destination saga
    or_compensate saga answer fun destination => do
      let saga ← record_token .Destination saga destination
      commit_leg .Origin saga origin
        (commit_leg .Destination saga destination (finish_preparation saga))

/-! ## Starting an order -/

/-- The route's terms at admission. -/
def check_terms (cctp : Bool) (quote : AggregateQuote) : Proxy Unit :=
  match quote.origin.route with
  | .Direct =>
    if quote.bridge_fee ≠ 0 ∨ quote.cctp_finality_threshold.isSome then
      throw (.InvalidCrossChain "direct quote contains CCTP terms")
    else return
  | .Cctp =>
    if ¬ cctp then throw (.InvalidCrossChain "CCTP route is not configured")
    else do
      match ← (ExceptT.lift (ask (.quote_terms quote.destination.amount_in)) :
        Proxy (Except CctpCompletionError CctpQuoteTerms)) with
      | .error e => throw (.CctpCompletion e)
      | .ok current =>
        if quote.bridge_fee ≠ current.max_fee ∨
            quote.cctp_finality_threshold ≠ some current.finality_threshold then
          throw (.InvalidCrossChain "CCTP capacity or fee changed; request a fresh quote")
        else return

/-- The saga of a new order. -/
def new_saga (order_id : CrossChainOrderId) (taker : Option Address) (quote : AggregateQuote)
    (now_unix : U64) : CrossChainSaga :=
  CrossChainSaga.record_lifecycle
    { order_id, taker, quote
      state := .Quoted
      lifecycle := []
      origin_prepare := none
      destination_prepare := none
      destination := none
      fill_proof := none
      origin := none
      repayment := none
      failure := none } .Quoted now_unix

def start_with_taker (keccak256 : List UInt8 → B256) (cctp : Bool) (order_id : CrossChainOrderId)
    (taker : Option Address) (quote : AggregateQuote)
    (origin_plan destination_plan : ChainExecutionPlan) (now_unix : U64) :
    Proxy CrossChainSaga := do
  match ← load order_id with
  | some existing =>
    if existing.quote = quote then return existing
    else throw (.InvalidCrossChain "order id already belongs to a different quote")
  | none =>
    ExceptT.mk (pure (validate_aggregate_binding keccak256 quote now_unix))
    check_terms cctp quote
    ExceptT.mk (pure (validate_plan quote origin_plan .Origin))
    ExceptT.mk (pure (validate_plan quote destination_plan .Destination))
    request .Origin (.stage { order_id, quote, role := .Origin } origin_plan)
    request .Destination (.stage { order_id, quote, role := .Destination } destination_plan)
    let saga ← insert (new_saga order_id taker quote now_unix)
    let saga ← ExceptT.mk (pure (saga.transition .Preparing))
    update saga
    continue_preparation saga

def start_direct (keccak256 : List UInt8 → B256) (cctp : Bool)
    (authorization : DirectOrderAuthorization) (now_unix : U64) : Proxy CrossChainSaga := do
  let plans ← ExceptT.mk do
    return (← ask (.author_direct authorization)).mapError SolventError.RemoteSolvent
  start_with_taker keccak256 cctp authorization.order_id (some authorization.order.user)
    authorization.quote plans.origin plans.destination now_unix

/-! ## Advancing -/

/-- The command of a step, sent to the service of its role. -/
def command (keccak256 : List UInt8 → B256) (role : LegRole) (saga : CrossChainSaga)
    (order_id : CrossChainOrderId) (c : RemoteCommand) : Proxy RemoteProgress := do
  let token ← ExceptT.mk (pure (required_token (saga.prepared role)))
  request role
    (.command order_id (step_id keccak256 order_id (saga.quote.leg role).local_chain c) c token)

def apply_post_delivery (saga : CrossChainSaga) (progress : RemoteProgress)
    (pending finalized : SagaState) (stage : CrossChainLifecycleStage) (now_unix : U64)
    (record : CrossChainSaga → StepEvidence → CrossChainSaga) : CrossChainSaga :=
  match progress with
  | .Pending => { saga with state := pending }
  | .Finalized evidence =>
    CrossChainSaga.record_lifecycle { record saga evidence with state := finalized } stage now_unix
  | .Failed reason => { saga with failure := some reason, state := .NeedsReconcile }

/-- `Prepared` and `DestinationPending`: deliver. -/
def deliver (keccak256 : List UInt8 → B256) (order_id : CrossChainOrderId) (saga : CrossChainSaga)
    (now_unix : U64) : Proxy CrossChainSaga := do
  let origin_token ← ExceptT.mk (pure (required_token saga.origin_prepare))
  let destination_token ← ExceptT.mk (pure (required_token saga.destination_prepare))
  let origin ← inspect .Origin origin_token
  let destination ← inspect .Destination destination_token
  ExceptT.mk (pure (validate_committed saga origin .Origin))
  ExceptT.mk (pure (validate_committed saga destination .Destination))
  match ← command keccak256 .Destination saga order_id .Deliver with
  | .Pending => save { saga with state := .DestinationPending }
  | .Finalized evidence =>
    save (CrossChainSaga.record_lifecycle
      { saga with destination := some evidence, state := .DestinationFinalized }
      .DestinationFill now_unix)
  | .Failed reason => compensate saga reason

/-- The evidence that the repayment of a CCTP order was staged. -/
def repayment_evidence (keccak256 : List UInt8 → B256) (order_id : CrossChainOrderId)
    (saga : CrossChainSaga) (origin_transaction : B256) (message_id : B256) : StepEvidence :=
  { command_id := step_id keccak256 order_id saga.quote.destination.local_chain .CloseDestination
    transaction_hash := some origin_transaction
    block_number := saga.origin.bind StepEvidence.block_number
    message_id := some message_id }

/-- The request that stages the close step on the destination. -/
def stage_cctp_completion (order_id : CrossChainOrderId) (saga : CrossChainSaga)
    (step : PreparedStep) (token : PrepareToken) : Proxy Unit :=
  request .Destination (.stage_cctp_completion
    { order_id, quote := saga.quote, role := .Destination }
    { aggregate_id := saga.quote.id, chain_id := saga.quote.destination.local_chain,
      steps := [step] } token)

/-- `OriginFinalized` of a CCTP order: stage the completion on the destination. -/
def complete_cctp (keccak256 : List UInt8 → B256) (cctp : Bool) (order_id : CrossChainOrderId)
    (saga : CrossChainSaga) (now_unix : U64) : Proxy CrossChainSaga :=
  match saga.origin.bind StepEvidence.transaction_hash with
  | none => throw (.InvalidCrossChain "origin burn finalized without a transaction hash")
  | some origin_transaction =>
    if ¬ cctp then throw (.InvalidCrossChain "CCTP completion is not configured")
    else do
      match ← (ExceptT.lift (ask (.close_step order_id origin_transaction)) :
        Proxy (Except CctpCompletionError CctpPreparedStep)) with
      | .ok prepared =>
        let token ← ExceptT.mk (pure (required_token saga.destination_prepare))
        stage_cctp_completion order_id saga prepared.step token
        save (CrossChainSaga.record_lifecycle
          { saga with
            repayment := some (repayment_evidence keccak256 order_id saga origin_transaction
              prepared.message_id)
            state := .RepaymentPending } .Repayment now_unix)
      | .error .Pending | .error (.RateLimited _) => return saga
      | .error (.Transport message) => throw (.CctpCompletion (.Transport message))
      | .error (.Invalid message) =>
        save { saga with failure := some message, state := .NeedsReconcile }

/-- The one remote command the saga's state asks for. -/
def step (keccak256 : List UInt8 → B256) (cctp : Bool) (order_id : CrossChainOrderId)
    (saga : CrossChainSaga) (now_unix : U64) : Proxy CrossChainSaga :=
  match saga.state with
  | .Preparing => continue_preparation saga
  | .Prepared | .DestinationPending => deliver keccak256 order_id saga now_unix
  | .DestinationFinalized | .FillProofPending => do
    let progress ← command keccak256 .Destination saga order_id .DispatchFillProof
    save (apply_post_delivery saga progress .FillProofPending .OriginPending .ProofRelay now_unix
      fun saga evidence => { saga with fill_proof := some evidence })
  | .OriginPending => do
    let progress ← command keccak256 .Origin saga order_id .ClaimOrigin
    save (apply_post_delivery saga progress .OriginPending .OriginFinalized .OriginClaim now_unix
      fun saga evidence => { saga with origin := some evidence })
  | .OriginFinalized =>
    match saga.quote.origin.route with
    | .Direct => do
      let progress ← command keccak256 .Origin saga order_id .DispatchRepayment
      save (apply_post_delivery saga progress .OriginFinalized .RepaymentPending .Repayment
        now_unix fun saga evidence => { saga with repayment := some evidence })
    | .Cctp => complete_cctp keccak256 cctp order_id saga now_unix
  | .RepaymentPending => do
    let progress ← command keccak256 .Destination saga order_id .CloseDestination
    save (apply_post_delivery saga progress .RepaymentPending .Complete .Complete now_unix
      fun saga _ => saga)
  | .Quoted | .Complete | .FailedBeforeDelivery | .NeedsReconcile => return saga

/-- The state a saga resumes in, by the evidence it has. -/
def reconciled (saga : CrossChainSaga) : Option SagaState :=
  if saga.repayment.isSome then some .RepaymentPending
  else if saga.origin.isSome then some .OriginFinalized
  else if saga.fill_proof.isSome then some .OriginPending
  else if saga.destination.isSome then some .DestinationFinalized
  else none

def advance (keccak256 : List UInt8 → B256) (cctp : Bool) (order_id : CrossChainOrderId)
    (now_unix : U64) : Proxy CrossChainSaga := do
  match ← load order_id with
  | none => throw (.InvalidCrossChain "unknown cross-chain order")
  | some saga =>
    if saga.state = .NeedsReconcile then
      match reconciled saga with
      | none => return saga
      | some state =>
        update { saga with state }
        step keccak256 cctp order_id { saga with state } now_unix
    else step keccak256 cctp order_id saga now_unix

end Proxy

end Solvent
