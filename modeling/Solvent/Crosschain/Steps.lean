import Mathlib
import Solvent.Framework.Program
import Solvent.Execution.Executor
import Solvent.Crosschain.Saga
import Solvent.Crosschain.Local

/-! # A chain's service and the requests it serves

    One chain's service is the local service with its preparations and ledger,
    the table of staged calls, and the executor. The proxy reaches it over HTTP;
    each request is served by a sequence of calls to the stores, the ledger and
    the transaction engine, so a request is a program of such calls, and a crash
    can fall between any two of them.
-/

namespace Solvent

open BTreeMap

/-! ## The step store -/

/-- A row of `crosschain_step`. -/
structure StagedStep where
  order_id : CrossChainOrderId
  aggregate_id : AggregateQuoteId
  step : PreparedStep
  deriving DecidableEq

structure SqliteStepStore where
  /-- The table `crosschain_order_binding`: both columns are unique. -/
  bindings : List (CrossChainOrderId × AggregateQuoteId)
  rows : List StagedStep

namespace SqliteStepStore

def empty : SqliteStepStore := { bindings := [], rows := [] }

def row (store : SqliteStepStore) (order_id : CrossChainOrderId) (command : RemoteCommand) :
    Option StagedStep :=
  store.rows.find? fun r => r.order_id = order_id ∧ r.step.command = command

def load (store : SqliteStepStore) (order_id : CrossChainOrderId) (command : RemoteCommand) :
    Option PreparedStep :=
  (store.row order_id command).map StagedStep.step

def aggregate_id (store : SqliteStepStore) (order_id : CrossChainOrderId)
    (command : RemoteCommand) : Option AggregateQuoteId :=
  (store.row order_id command).map StagedStep.aggregate_id

/-- `INSERT OR IGNORE INTO crosschain_order_binding` -/
def bind_order (store : SqliteStepStore) (order_id : CrossChainOrderId)
    (aggregate_id : AggregateQuoteId) : SqliteStepStore :=
  if store.bindings.any fun b => b.1 = order_id ∨ b.2 = aggregate_id then store
  else { store with bindings := store.bindings ++ [(order_id, aggregate_id)] }

def bound (store : SqliteStepStore) (order_id : CrossChainOrderId) : Option AggregateQuoteId :=
  (store.bindings.find? fun b => b.1 = order_id).map Prod.snd

/-- Insert the row of one step, or find it there already. -/
def stage_row (order_id : CrossChainOrderId) (aggregate_id : AggregateQuoteId)
    (store : SqliteStepStore) (step : PreparedStep) : Except StepStoreError SqliteStepStore :=
  match store.row order_id step.command with
  | none => .ok { store with rows := store.rows ++ [{ order_id, aggregate_id, step }] }
  | some stored =>
    if stored.aggregate_id = aggregate_id ∧ stored.step = step then .ok store
    else .error .Conflict

/-- One transaction: the binding and every row, or nothing. -/
def stage (store : SqliteStepStore) (order_id : CrossChainOrderId) (plan : ChainExecutionPlan) :
    Except StepStoreError SqliteStepStore :=
  let store := store.bind_order order_id plan.aggregate_id
  if store.bound order_id ≠ some plan.aggregate_id then .error .Conflict
  else plan.steps.foldlM (stage_row order_id plan.aggregate_id) store

end SqliteStepStore

/-! ## The service -/

structure ChainService where
  local_service : LocalCrossChainService
  /-- The contract each command may call. -/
  targets : RemoteCommand → Option Address
  steps : SqliteStepStore
  executor : WalletkitExecutor
  /-- The transactions of the wallet that the chain has executed successfully. -/
  landed : List HandleId

namespace ChainService

def new (chain_id : ChainId) (targets : RemoteCommand → Option Address) : ChainService :=
  { local_service := .new chain_id, targets, steps := .empty, executor := .empty, landed := [] }

def command_is_valid_for : CrossChainRoute → LegRole → RemoteCommand → Bool
  | .Direct, .Origin, .ClaimOrigin | .Direct, .Origin, .DispatchRepayment => true
  | .Direct, .Destination, .Deliver | .Direct, .Destination, .DispatchFillProof
  | .Direct, .Destination, .CloseDestination => true
  | .Cctp, .Origin, .ClaimOrigin => true
  | .Cctp, .Destination, .Deliver | .Cctp, .Destination, .DispatchFillProof
  | .Cctp, .Destination, .CloseDestination => true
  | _, _, _ => false

/-- The checks on each step in turn; `seen` are the commands before it. -/
def check_steps (s : ChainService) (context : StepValidationContext) (seen : List RemoteCommand) :
    List PreparedStep → Except SolventError Unit
  | [] => .ok ()
  | step :: steps =>
    if ¬ command_is_valid_for context.quote.origin.route context.role step.command then
      .error (.InvalidCrossChain "execution command does not belong to this route and chain role")
    else match s.targets step.command with
      | none => .error (.InvalidCrossChain
          s!"command {step.command.name} is not enabled on chain {s.local_service.chain_id.id}")
      | some target =>
        if target ≠ step.target then
          .error (.InvalidCrossChain "execution target is not allow-listed for its command")
        else if step.command ∈ seen then
          .error (.InvalidCrossChain "execution plan repeats a command")
        else s.check_steps context (step.command :: seen) steps

/-- The checks of `stage_validated` before the validator is asked. -/
def check_stage (s : ChainService) (context : StepValidationContext) (plan : ChainExecutionPlan) :
    Except SolventError Unit :=
  if plan.aggregate_id ≠ context.quote.id ∨ plan.chain_id ≠ s.local_service.chain_id ∨
      context.local_quote.local_chain ≠ s.local_service.chain_id then
    .error (.InvalidCrossChain "execution plan does not match its aggregate validation context")
  else match s.check_steps context [] plan.steps with
    | .error e => .error e
    | .ok () =>
      if plan.steps.isEmpty then .error (.InvalidCrossChain "execution plan has no commands")
      else .ok ()

def validate_stage_context (keccak256 : List UInt8 → B256) (s : ChainService)
    (context : StepValidationContext) (now_unix : U64) : Except SolventError Unit :=
  match validate_aggregate_binding keccak256 context.quote now_unix with
  | .error e => .error e
  | .ok () =>
    let quote := context.local_quote
    if quote.local_chain ≠ s.local_service.chain_id ∨
        quote.quote_id ≠ leg_quote_id keccak256 quote then
      .error (.InvalidCrossChain "stage context does not contain this service's quote")
    else match s.local_service.quotes[quote.quote_id]? with
      | none => .error (.InvalidCrossChain "stage context quote was not issued by this service")
      | some issued =>
        if issued ≠ quote then
          .error (.InvalidCrossChain "stage context differs from the locally issued quote")
        else .ok ()

/-! ## The chain and the engine -/

/-- A pending transaction is executed by the chain. -/
def mine (s : ChainService) (handle : HandleId) : ChainService :=
  if s.executor.wallet.status[handle]? = some .Pending then
    { s with landed := s.landed ++ [handle] }
  else s

/-- What the engine may say of a transaction: a final state is true of the chain. -/
def truthful (s : ChainService) (handle : HandleId) : ExecStatus → Prop
  | .Pending => True
  | .Confirmed _ _ => handle ∈ s.landed
  | .Failed _ | .Dropped => handle ∉ s.landed

instance (s : ChainService) (handle : HandleId) (status : ExecStatus) :
    Decidable (s.truthful handle status) := by
  cases status <;> unfold truthful <;> infer_instance

def report (s : ChainService) (handle : HandleId) (status : ExecStatus) : ChainService :=
  if s.truthful handle status then
    { s with executor := s.executor.report handle (some status) }
  else s

/-- A transaction of the intent has landed. -/
def Landed (s : ChainService) (intent : IntentId) : Prop :=
  ∃ handle ∈ s.landed, s.executor.wallet.sent[handle]? = some intent

instance (s : ChainService) (intent : IntentId) : Decidable (s.Landed intent) :=
  inferInstanceAs (Decidable (∃ handle ∈ s.landed, _))

end ChainService

/-! ## Calls -/

/-- What a call reads from outside: clocks, budgets, the validator, the
    materializer, the simulator and the engine. -/
structure ServiceReads where
  prepare : LocalCrossChainService.PrepareReads
  committed_at : U64
  staged_at : U64
  validate : Except SolventError Unit
  materialize : PreparedStep → Except SolventError PreparedStep
  verdict : SimVerdict
  /-- What the engine finds out in a tick. -/
  tick : List (HandleId × ExecStatus)

/-- A call a request makes to a store, the ledger, a port or the engine. -/
inductive ServiceCall where
  | validate_stage_context (context : StepValidationContext)
  | validate_plan (context : StepValidationContext) (plan : ChainExecutionPlan)
  | stage (order_id : CrossChainOrderId) (plan : ChainExecutionPlan)
  | check_quote (quote : LegQuote)
  | load_for_quote (aggregate_id : AggregateQuoteId) (role : LegRole)
  | reserve (aggregate_id : AggregateQuoteId) (quote : LegQuote)
  | insert (aggregate_id : AggregateQuoteId) (quote : LegQuote)
  | load_owned (token : PrepareToken)
  | now_unix
  | commit (token : PrepareToken)
  | void (token : PrepareToken)
  | sources (token : PrepareToken)
  | post (token : PrepareToken) (filled : List U256)
  | update (p : Preparation)
  | aggregate_id (order_id : CrossChainOrderId) (command : RemoteCommand)
  | load_step (order_id : CrossChainOrderId) (command : RemoteCommand)
  | materialize (step : PreparedStep)
  | status (intent : IntentId)
  | simulate (intent : IntentId)
  | lookup (intent : IntentId)
  | send (intent : IntentId)
  | track (intent : IntentId) (reservation : ReservationId) (handle : HandleId)
  | tick

namespace ServiceCall

def Answer : ServiceCall → Type
  | validate_stage_context _ | validate_plan _ _ | stage _ _ | check_quote _
  | reserve _ _ | commit _ | void _ | post _ _ => Except SolventError Unit
  | load_for_quote _ _ => Option Preparation
  | insert _ _ | load_owned _ | update _ => Except SolventError Preparation
  | now_unix => U64
  | sources _ => Except SolventError (List U256)
  | aggregate_id _ _ => Option AggregateQuoteId
  | load_step _ _ => Option PreparedStep
  | materialize _ => Except SolventError PreparedStep
  | status _ => Option ExecStatus
  | simulate _ => SimVerdict
  | lookup _ => Option HandleId
  | send _ => HandleId
  | track _ _ _ | tick => Unit

end ServiceCall

namespace ChainService

open LocalCrossChainService in
/-- Serve one call. The simulation of a delivery that has landed rejects. -/
def answer (keccak256 : List UInt8 → B256) (reads : ServiceReads) (s : ChainService) :
    (c : ServiceCall) → c.Answer × ChainService
  | .validate_stage_context context =>
    (s.validate_stage_context keccak256 context reads.staged_at, s)
  | .validate_plan context plan =>
    match s.check_stage context plan with
    | .error e => (.error e, s)
    | .ok () => (reads.validate, s)
  | .stage order_id plan =>
    match s.steps.stage order_id plan with
    | .error .Conflict => (.error (.InvalidCrossChain
        "order or aggregate quote conflicts with an existing staged plan"), s)
    | .error e => (.error (.StepStore e), s)
    | .ok steps => (.ok (), { s with steps })
  | .check_quote quote =>
    (s.local_service.check_quote keccak256 reads.prepare.checked_at quote, s)
  | .load_for_quote aggregate_id role =>
    (s.local_service.preparations.load_for_quote aggregate_id role, s)
  | .reserve aggregate_id quote =>
    let p := s.local_service.preparation_of keccak256 aggregate_id quote
    let (answer, local_service) := s.local_service.reserve reads.prepare p quote
    (answer, { s with local_service })
  | .insert aggregate_id quote =>
    let p := s.local_service.preparation_of keccak256 aggregate_id quote
    let (answer, local_service) := s.local_service.insert p
    (answer, { s with local_service })
  | .load_owned token => (s.local_service.load_owned token, s)
  | .now_unix => (reads.committed_at, s)
  | .commit token =>
    let (answer, ledger) := s.local_service.ledger.commit token.reservation
    (answer, { s with local_service := { s.local_service with ledger } })
  | .void token =>
    let (answer, ledger) := void s.local_service.ledger token
    (answer, { s with local_service := { s.local_service with ledger } })
  | .sources token => (settlement s.local_service.ledger token, s)
  | .post token filled =>
    let (answer, ledger) := post s.local_service.ledger token filled
    (answer, { s with local_service := { s.local_service with ledger } })
  | .update p =>
    let (answer, local_service) := s.local_service.finish p
    (answer, { s with local_service })
  | .aggregate_id order_id command => (s.steps.aggregate_id order_id command, s)
  | .load_step order_id command => (s.steps.load order_id command, s)
  | .materialize step => (reads.materialize step, s)
  | .status intent => (s.executor.status intent, s)
  | .simulate intent =>
    (if s.Landed intent then .Reject "already executed" else reads.verdict, s)
  | .lookup intent => (s.executor.handle intent, s)
  | .send intent =>
    (s.executor.wallet.sent.length, { s with executor := s.executor.send_with intent })
  | .track intent reservation handle =>
    ((), { s with executor := s.executor.track intent reservation handle })
  | .tick => ((), reads.tick.foldl (fun s r => s.report r.1 r.2) s)

end ChainService

/-! ## Requests -/

inductive RemoteProgress where
  | Pending
  | Finalized (evidence : StepEvidence)
  | Failed (reason : String)
  deriving DecidableEq

/-- A request of the proxy to a chain's service. -/
inductive RemoteRequest where
  | stage (context : StepValidationContext) (plan : ChainExecutionPlan)
  | stage_cctp_completion (context : StepValidationContext) (plan : ChainExecutionPlan)
      (preparation : PrepareToken)
  | prepare (aggregate_id : AggregateQuoteId) (quote : LegQuote)
  | commit (token : PrepareToken)
  | inspect (token : PrepareToken)
  | release (token : PrepareToken)
  | command (order_id : CrossChainOrderId) (command_id : CrossChainStepId)
      (command : RemoteCommand) (preparation : PrepareToken)

namespace RemoteRequest

def Reply : RemoteRequest → Type
  | stage _ _ | stage_cctp_completion _ _ _ => Unit
  | prepare _ _ | commit _ | inspect _ | release _ => Preparation
  | command _ _ _ _ => RemoteProgress

end RemoteRequest

/-- The serving of a request: a program of calls that may fail. -/
abbrev Handler (α : Type) : Type :=
  ExceptT SolventError (Program ServiceCall ServiceCall.Answer) α

namespace Handler

def ask (c : ServiceCall) : Program ServiceCall ServiceCall.Answer c.Answer :=
  Program.query c

/-- A call that is never refused. -/
def get (c : ServiceCall) : Handler c.Answer :=
  ExceptT.lift (ask c)

def load_owned (token : PrepareToken) : Handler Preparation :=
  ExceptT.mk (ask (.load_owned token))

def update (p : Preparation) : Handler Preparation :=
  ExceptT.mk (ask (.update p))

def validate_stage_context (context : StepValidationContext) : Handler Unit :=
  ExceptT.mk (ask (.validate_stage_context context))

def stage_validated (context : StepValidationContext) (plan : ChainExecutionPlan) :
    Handler Unit := do
  ExceptT.mk (ask (.validate_plan context plan))
  ExceptT.mk (ask (.stage context.order_id plan))

def stage (context : StepValidationContext) (plan : ChainExecutionPlan) : Handler Unit := do
  validate_stage_context context
  if ¬ has_commands plan.steps (initial_commands context.quote.origin.route context.role) then
    throw (.InvalidCrossChain
      "execution plan does not contain the complete initial command set")
  else stage_validated context plan

/-- The checks of `stage_cctp_completion` on the executed preparation. -/
def completion_authorized (chain_id : ChainId) (context : StepValidationContext)
    (step : PreparedStep) (p : Preparation) : Prop :=
  context.quote.origin.route = .Cctp ∧ context.role = .Destination ∧
    step.command = .CloseDestination ∧ p.quote_id = context.quote.id ∧ p.chain_id = chain_id ∧
    p.role = .Destination ∧ p.state = .Executed

instance (chain_id : ChainId) (context : StepValidationContext) (step : PreparedStep)
    (p : Preparation) : Decidable (completion_authorized chain_id context step p) :=
  inferInstanceAs (Decidable (_ ∧ _))

def stage_cctp_completion (chain_id : ChainId) (context : StepValidationContext)
    (plan : ChainExecutionPlan) (token : PrepareToken) : Handler Unit := do
  validate_stage_context context
  let p ← load_owned token
  match plan.steps with
  | [step] =>
    if ¬ completion_authorized chain_id context step p then
      throw (.InvalidCrossChain
        "CCTP completion is not authorized by the executed destination preparation")
    else stage_validated context plan
  | _ => throw (.InvalidCrossChain "CCTP completion plan must contain only the close command")

def prepare (aggregate_id : AggregateQuoteId) (quote : LegQuote) : Handler Preparation := do
  ExceptT.mk (ask (.check_quote quote))
  match ← get (.load_for_quote aggregate_id quote.role) with
  | some existing => return existing
  | none =>
    ExceptT.mk (ask (.reserve aggregate_id quote))
    ExceptT.mk (ask (.insert aggregate_id quote))

def commit (token : PrepareToken) : Handler Preparation := do
  let p ← load_owned token
  let now ← get .now_unix
  let q ← ExceptT.mk (pure (LocalCrossChainService.check_commit now p))
  ExceptT.mk (ask (.commit token))
  update q

/-- The ledger call of a release: none where it is already recorded. -/
def void (p : Preparation) (token : PrepareToken) : Handler Unit :=
  if p.state = .Released then pure ()
  else ExceptT.mk (ask (.void token))

def release (token : PrepareToken) : Handler Preparation := do
  let p ← load_owned token
  let q ← ExceptT.mk (pure (LocalCrossChainService.invariant p.release))
  void p token
  update q

/-- The ledger calls of an execution: none where it is already recorded. -/
def post (p : Preparation) (token : PrepareToken) : Handler Unit :=
  if p.state = .Executed then pure ()
  else do
    let filled ← ExceptT.mk (ask (.sources token))
    ExceptT.mk (ask (.post token filled))

def mark_executed (token : PrepareToken) : Handler Preparation := do
  let p ← load_owned token
  let q ← ExceptT.mk (pure (LocalCrossChainService.invariant p.execute))
  post p token
  update q

/-! ## Commands -/

def expected_role : RemoteCommand → LegRole
  | .Deliver | .DispatchFillProof | .CloseDestination => .Destination
  | .ClaimOrigin | .DispatchRepayment => .Origin

/-- The states of a preparation that authorize a command. -/
def authorizing_states : RemoteCommand → List PreparationState
  | .Deliver | .ClaimOrigin => [.Committed, .Executed]
  | .DispatchFillProof | .DispatchRepayment | .CloseDestination => [.Executed]

/-- The preparation authorizes the command of the order bound to `aggregate_id`. -/
def authorizes (chain_id : ChainId) (command : RemoteCommand) (aggregate_id : AggregateQuoteId)
    (p : Preparation) : Prop :=
  p.quote_id = aggregate_id ∧ p.chain_id = chain_id ∧ p.role = expected_role command ∧
    p.state ∈ authorizing_states command

instance (chain_id : ChainId) (command : RemoteCommand) (aggregate_id : AggregateQuoteId)
    (p : Preparation) : Decidable (authorizes chain_id command aggregate_id p) :=
  inferInstanceAs (Decidable (_ ∧ _))

/-- Submitting is a lookup, a send and a track. -/
def submit (intent : IntentId) : Handler Unit := do
  match ← get (.lookup intent) with
  | some _ => pure ()
  | none =>
    let handle ← get (.send intent)
    get (.track intent ⟨intent.hash⟩ handle)

def progress_of (command_id : CrossChainStepId) : Option ExecStatus → RemoteProgress
  | none | some .Pending => .Pending
  | some (.Confirmed block tx) => .Finalized
      { command_id, transaction_hash := some tx, block_number := some block, message_id := none }
  | some (.Failed reason) => .Failed reason
  | some .Dropped => .Failed "transaction dropped before confirmation"

/-- The end of `command`: tick, and read the status once more. -/
def progress (command_id : CrossChainStepId) : Handler RemoteProgress := do
  get .tick
  let status ← get (.status ⟨command_id.hash⟩)
  return progress_of command_id status

/-- `command` past its checks. -/
def execute (command_id : CrossChainStepId) : Handler RemoteProgress := do
  match ← get (.status ⟨command_id.hash⟩) with
  | some _ => progress command_id
  | none =>
    match ← get (.simulate ⟨command_id.hash⟩) with
    | .Reject reason => return .Failed reason
    | .Ok =>
      submit ⟨command_id.hash⟩
      progress command_id

/-- `LocalStepService::command` -/
def step_command (keccak256 : List UInt8 → B256) (chain_id : ChainId)
    (order_id : CrossChainOrderId) (command_id : CrossChainStepId) (command : RemoteCommand)
    (p : Preparation) : Handler RemoteProgress := do
  if step_id keccak256 order_id chain_id command ≠ command_id then
    throw (.InvalidCrossChain "command id does not bind the order and step")
  else
    match ← get (.aggregate_id order_id command) with
    | none => throw (.InvalidCrossChain "command has no durable aggregate-quote binding")
    | some aggregate_id =>
      if ¬ authorizes chain_id command aggregate_id p then
        throw (.InvalidCrossChain "preparation does not authorize this order and command")
      else
        match ← get (.load_step order_id command) with
        | none => throw (.InvalidCrossChain "command was not staged")
        | some step =>
          let _ ← ExceptT.mk (ask (.materialize step))
          execute command_id

/-- The answer finalizes a preparation. -/
def finalizes (command : RemoteCommand) : RemoteProgress → Bool
  | .Finalized _ => command = .Deliver ∨ command = .ClaimOrigin
  | _ => false

/-- The HTTP handler `command`. -/
def command (keccak256 : List UInt8 → B256) (chain_id : ChainId) (order_id : CrossChainOrderId)
    (command_id : CrossChainStepId) (command : RemoteCommand) (token : PrepareToken) :
    Handler RemoteProgress := do
  let p ← load_owned token
  let progress ← step_command keccak256 chain_id order_id command_id command p
  if finalizes command progress then
    let _ ← mark_executed token
    return progress
  else return progress

/-- The program that serves a request. -/
def serve (keccak256 : List UInt8 → B256) (chain_id : ChainId) :
    (r : RemoteRequest) → Handler r.Reply
  | .stage context plan => stage context plan
  | .stage_cctp_completion context plan token =>
    stage_cctp_completion chain_id context plan token
  | .prepare aggregate_id quote => prepare aggregate_id quote
  | .commit token => commit token
  | .inspect token => load_owned token
  | .release token => release token
  | .command order_id command_id c token => command keccak256 chain_id order_id command_id c token

end Handler

/-- The HTTP status a failure is reported with, as the client sees it. -/
def internal_error : SolventError → RemoteSolventError
  | .InvalidCrossChain _ | .StepValidator _ =>
    .Rejected "chain-local Solvent returned HTTP 400 Bad Request"
  | _ => .Unavailable "chain-local Solvent returned HTTP 500 Internal Server Error"

end Solvent
