import Mathlib
import Solvent.Framework.Protocol
import Solvent.Crosschain.Proxy

/-! # The protocol of an order

    What a call of the proxy may ask, from the saga it last loaded or wrote and
    the last command it heard of. The protocol is the proxy's state machine with
    the store, the services and the control flow of the code left out: which
    command is due in which state, which writes follow which answers, and when a
    preparation may be released.
-/

namespace Solvent

/-! ## Commands -/

/-- The evidence field a command's finality is recorded in. -/
def CrossChainSaga.record (saga : CrossChainSaga) (c : RemoteCommand) (evidence : StepEvidence) :
    CrossChainSaga :=
  match c with
  | .Deliver => { saga with destination := some evidence }
  | .DispatchFillProof => { saga with fill_proof := some evidence }
  | .ClaimOrigin => { saga with origin := some evidence }
  | .DispatchRepayment => { saga with repayment := some evidence }
  | .CloseDestination => saga

namespace RemoteCommand

/-- The states in which a command is sent. -/
def sent_in : RemoteCommand → List SagaState
  | Deliver => [.Prepared, .DestinationPending]
  | DispatchFillProof => [.DestinationFinalized, .FillProofPending]
  | ClaimOrigin => [.OriginPending]
  | DispatchRepayment => [.OriginFinalized]
  | CloseDestination => [.RepaymentPending]

/-- The state while the command is pending. -/
def pending : RemoteCommand → SagaState
  | Deliver => .DestinationPending
  | DispatchFillProof => .FillProofPending
  | ClaimOrigin => .OriginPending
  | DispatchRepayment => .OriginFinalized
  | CloseDestination => .RepaymentPending

/-- The state when the command is final. -/
def finalized : RemoteCommand → SagaState
  | Deliver => .DestinationFinalized
  | DispatchFillProof => .OriginPending
  | ClaimOrigin => .OriginFinalized
  | DispatchRepayment => .RepaymentPending
  | CloseDestination => .Complete

end RemoteCommand

/-- The command is the next one of the order. A CCTP order is repaid by Circle
    and sends no repayment proof. -/
def Due (saga : CrossChainSaga) (c : RemoteCommand) : Prop :=
  saga.state ∈ c.sent_in ∧ (c = .DispatchRepayment → saga.quote.origin.route = .Direct)

/-- The CCTP completion is next. -/
def CompletionDue (saga : CrossChainSaga) : Prop :=
  saga.state = .OriginFinalized ∧ saga.quote.origin.route = .Cctp

/-! ## What a call has seen -/

/-- What a call has seen: nothing, that the order is new, or the version of the
    saga it last loaded or wrote, with the command answered since. -/
inductive Turn where
  | unread
  | absent
  | at_saga (saga : CrossChainSaga) (heard : Option (RemoteCommand × RemoteProgress))

/-- The preparations may be released: the order is not prepared yet, or its
    delivery has failed. -/
def Releasing (saga : CrossChainSaga) (heard : Option (RemoteCommand × RemoteProgress)) : Prop :=
  (saga.state = .Preparing ∧ heard = none) ∨
    (Due saga .Deliver ∧ ∃ reason, heard = some (.Deliver, .Failed reason))

/-- **The writes** of a call. -/
inductive Write (saga : CrossChainSaga) :
    Option (RemoteCommand × RemoteProgress) → CrossChainSaga → Prop where
  | begin_preparing (hstate : saga.state = .Quoted) : Write saga none { saga with state := .Preparing }
  | token (role : LegRole) (token : PrepareToken) (hstate : saga.state = .Preparing)
      (hnew : saga.prepared role = none) :
      Write saga none (Proxy.set_prepared saga role token)
  | prepare (hstate : saga.state = .Preparing) (horigin : saga.origin_prepare.isSome)
      (hdestination : saga.destination_prepare.isSome) :
      Write saga none { saga with state := .Prepared }
  | compensating {heard : Option (RemoteCommand × RemoteProgress)} (failure : String)
      (hreleasing : Releasing saga heard) :
      Write saga heard { saga with failure := some failure }
  | compensate {heard : Option (RemoteCommand × RemoteProgress)} (failure : String)
      (hreleasing : Releasing saga heard) :
      Write saga heard { saga with failure := some failure, state := .FailedBeforeDelivery }
  | pend (c : RemoteCommand) (hdue : Due saga c) :
      Write saga (some (c, .Pending)) { saga with state := c.pending }
  | finalize (c : RemoteCommand) (evidence : StepEvidence)
      (lifecycle : List CrossChainLifecycleEvent) (hdue : Due saga c) :
      Write saga (some (c, .Finalized evidence))
        { saga.record c evidence with state := c.finalized, lifecycle }
  | refuse (c : RemoteCommand) (reason : String) (hdue : Due saga c) (hlate : c ≠ .Deliver) :
      Write saga (some (c, .Failed reason))
        { saga with failure := some reason, state := .NeedsReconcile }
  | complete (evidence : StepEvidence) (lifecycle : List CrossChainLifecycleEvent)
      (hdue : CompletionDue saga) :
      Write saga none
        { saga with repayment := some evidence, state := .RepaymentPending, lifecycle }
  | invalid (failure : String) (hdue : CompletionDue saga) :
      Write saga none { saga with failure := some failure, state := .NeedsReconcile }
  | resume {state : SagaState} (hstate : saga.state = .NeedsReconcile)
      (hevidence : Proxy.reconciled saga = some state) : Write saga none { saga with state }

/-- **The requests** of a call for the order `order_id`. -/
def Asks (order_id : CrossChainOrderId) (saga : CrossChainSaga)
    (heard : Option (RemoteCommand × RemoteProgress)) (role : LegRole) : RemoteRequest → Prop
  | .stage _ _ => False
  | .prepare _ _ | .commit _ => saga.state = .Preparing ∧ heard = none
  | .inspect _ => (saga.state = .Preparing ∨ Due saga .Deliver) ∧ heard = none
  | .release _ => Releasing saga heard
  | .command id _ c _ =>
    id = order_id ∧ role = Handler.expected_role c ∧ Due saga c ∧ heard = none
  | .stage_cctp_completion _ _ _ => CompletionDue saga ∧ heard = none

/-- The saga of a new order. -/
structure New (order_id : CrossChainOrderId) (saga : CrossChainSaga) : Prop where
  order_id : saga.order_id = order_id
  state : saga.state = .Quoted
  tokens : saga.origin_prepare = none ∧ saga.destination_prepare = none
  evidence : saga.destination = none ∧ saga.fill_proof = none ∧ saga.origin = none ∧
    saga.repayment = none

namespace Turn

/-- **The queries** of a call for the order `order_id`. -/
inductive Permits (order_id : CrossChainOrderId) : Turn → ProxyQuery → Prop where
  | load : Permits order_id unread (.load order_id)
  | author_direct (authorization : DirectOrderAuthorization) :
      Permits order_id unread (.author_direct authorization)
  | quote_terms (repayment : U256) : Permits order_id absent (.quote_terms repayment)
  | stage (role : LegRole) (context : StepValidationContext) (plan : ChainExecutionPlan) :
      Permits order_id absent (.remote role (.stage context plan))
  | insert {saga : CrossChainSaga} (hnew : New order_id saga) :
      Permits order_id absent (.insert saga)
  | update {saga saga' : CrossChainSaga} {heard : Option (RemoteCommand × RemoteProgress)}
      (hwrite : Write saga heard saga') : Permits order_id (at_saga saga heard) (.update saga')
  | remote {saga : CrossChainSaga} {heard : Option (RemoteCommand × RemoteProgress)}
      {role : LegRole} {r : RemoteRequest} (hasks : Asks order_id saga heard role r) :
      Permits order_id (at_saga saga heard) (.remote role r)
  | close_step {saga : CrossChainSaga} (origin_transaction : B256) (hdue : CompletionDue saga) :
      Permits order_id (at_saga saga none) (.close_step order_id origin_transaction)

/-- A store that applies its writes: an insertion gives back what it wrote, and
    the row of the order is the order's. -/
def answers (order_id : CrossChainOrderId) : Turn → (q : ProxyQuery) → q.Answer → Prop
  | _, .load _, answer => ∀ saga, answer = .ok (some saga) → saga.order_id = order_id
  | _, .insert saga, answer => ∀ stored, answer = .ok stored → stored = saga
  | _, .update _, answer => answer = .ok ()
  | _, _, _ => True

def next : Turn → (q : ProxyQuery) → q.Answer → Turn
  | t, .load _, answer =>
    match answer with
    | .ok (some saga) => at_saga saga none
    | .ok none => absent
    | .error _ => t
  | t, .insert _, answer =>
    match answer with
    | .ok saga => at_saga saga none
    | .error _ => t
  | t, .update saga, answer =>
    match answer with
    | .ok () => at_saga saga none
    | .error _ => t
  | at_saga saga heard, .remote _ (.command _ _ c _), answer =>
    match answer with
    | .ok progress => at_saga saga (some (c, progress))
    | .error _ => at_saga saga heard
  | t, _, _ => t

/-- The version a call last loaded or wrote. -/
def version : Turn → Option CrossChainSaga
  | at_saga saga _ => some saga
  | unread | absent => none

/-- The command answered since. -/
def heard : Turn → Option (RemoteCommand × RemoteProgress)
  | at_saga _ heard => heard
  | unread | absent => none

/-- A call that returns has recorded what was finalized. -/
def Settled : Turn → Prop
  | at_saga _ (some (_, .Finalized _)) => False
  | _ => True

end Turn

/-- The protocol of the order `order_id`. -/
def order_protocol (order_id : CrossChainOrderId) :
    Protocol ProxyQuery ProxyQuery.Answer Turn where
  permits := Turn.Permits order_id
  answers := Turn.answers order_id
  next := Turn.next

end Solvent
