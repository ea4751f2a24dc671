import Mathlib
import Solvent.Execution.Submissions
import Solvent.Crosschain.Proxy

/-! # The proxy and the two services

    A request of the proxy becomes the calls its handler makes at the service,
    followed by the reply. A call can be lost: the service crashed, or the
    connection broke, before it was made. Then the handler goes no further and
    the proxy sees the service as unavailable. A reply can be lost after the
    handler has done its work.

    The programs of one order interleave with each other, with what the chains
    and the engines do, and with what the services do for other orders.
-/

namespace Solvent

open BTreeMap Interleave

structure CrossChainWorld where
  sagas : SqliteSagaStore
  services : LegRole → ChainService

namespace CrossChainWorld

/-- The world after the service of `role` has become `s`. -/
def set (w : CrossChainWorld) (role : LegRole) (s : ChainService) : CrossChainWorld :=
  { w with services := Function.update w.services role s }

@[simp] theorem set_sagas (w : CrossChainWorld) (role : LegRole) (s : ChainService) :
    (w.set role s).sagas = w.sagas := rfl

@[simp] theorem set_same (w : CrossChainWorld) (role : LegRole) (s : ChainService) :
    (w.set role s).services role = s := by
  simp [set]

theorem set_other (w : CrossChainWorld) {role other : LegRole} (s : ChainService)
    (h : other ≠ role) : (w.set role s).services other = w.services other := by
  simp [set, h]

@[simp] theorem set_set (w : CrossChainWorld) (role : LegRole) (s s' : ChainService) :
    (w.set role s).set role s' = w.set role s' := by
  simp [set]

@[simp] theorem set_get (w : CrossChainWorld) (role : LegRole) :
    w.set role (w.services role) = w := by
  simp [set]

end CrossChainWorld

/-! ## Queries -/

inductive SystemQuery where
  | load (order_id : CrossChainOrderId)
  | insert (saga : CrossChainSaga)
  | update (saga : CrossChainSaga)
  | quote_terms (repayment : U256)
  | close_step (order_id : CrossChainOrderId) (origin_transaction : B256)
  | author_direct (authorization : DirectOrderAuthorization)
  /-- A call of a handler at the service of `role`. -/
  | call (role : LegRole) (c : ServiceCall)
  /-- The reply of the service of `role` on its way to the proxy. -/
  | reply (role : LegRole)

def SystemQuery.Answer : SystemQuery → Type
  | load _ => Except SagaStoreError (Option CrossChainSaga)
  | insert _ => Except SagaStoreError CrossChainSaga
  | update _ => Except SagaStoreError Unit
  | quote_terms _ => Except CctpCompletionError CctpQuoteTerms
  | close_step _ _ => Except CctpCompletionError CctpPreparedStep
  | author_direct _ => Except RemoteSolventError DirectExecutionPlans
  | call _ c => Option c.Answer
  | reply _ => Bool

abbrev SystemProgram (α : Type) : Type := Program SystemQuery SystemQuery.Answer α

namespace SystemProgram

def ask (q : SystemQuery) : SystemProgram q.Answer := Program.query q

/-- A call at the service of `role`; no answer where it is lost. -/
def call (role : LegRole) (c : ServiceCall) : SystemProgram (Option c.Answer) :=
  ask (.call role c)

/-- A handler at the service of `role`. -/
def at_service {α : Type} (role : LegRole) (h : Handler α) :
    SystemProgram (Option (Except SolventError α)) :=
  Program.attempt (call role) h.run

def lost : RemoteSolventError := .Unavailable "connection lost"

/-- One request: the handler's calls, then the reply. -/
def request (keccak256 : List UInt8 → B256) (chains : LegRole → ChainId) (role : LegRole)
    (r : RemoteRequest) : SystemProgram (Except RemoteSolventError r.Reply) :=
  (at_service role (Handler.serve keccak256 (chains role) r)).bind fun
    | none => .ret (.error lost)
    | some answer => .ask (.reply role) fun
      | true => .ret (answer.mapError internal_error)
      | false => .ret (.error lost)

def refine (keccak256 : List UInt8 → B256) (chains : LegRole → ChainId) :
    (q : ProxyQuery) → SystemProgram q.Answer
  | .load order_id => ask (.load order_id)
  | .insert saga => ask (.insert saga)
  | .update saga => ask (.update saga)
  | .remote role r => request keccak256 chains role r
  | .quote_terms repayment => ask (.quote_terms repayment)
  | .close_step order_id origin_transaction => ask (.close_step order_id origin_transaction)
  | .author_direct authorization => ask (.author_direct authorization)

end SystemProgram

/-! ## Answers -/

/-- What a query reads from outside, and whether it is lost. -/
structure SystemReads where
  lost : Bool
  service : ServiceReads
  quote_terms : Except CctpCompletionError CctpQuoteTerms
  close_step : Except CctpCompletionError CctpPreparedStep
  author_direct : Except RemoteSolventError DirectExecutionPlans

def unreachable_store : SagaStoreError := .Backend "saga store is unreachable"

namespace CrossChainWorld

def answer (keccak256 : List UInt8 → B256) (reads : SystemReads) :
    (q : SystemQuery) → CrossChainWorld → q.Answer × CrossChainWorld
  | .load order_id, w =>
    if reads.lost then (.error unreachable_store, w) else (.ok (w.sagas.load order_id), w)
  | .insert saga, w =>
    if reads.lost then (.error unreachable_store, w)
    else ((w.sagas.insert_new saga).1, { w with sagas := (w.sagas.insert_new saga).2 })
  | .update saga, w =>
    if reads.lost then (.error unreachable_store, w)
    else ((w.sagas.update saga).1, { w with sagas := (w.sagas.update saga).2 })
  | .quote_terms _, w => (reads.quote_terms, w)
  | .close_step _ _, w => (reads.close_step, w)
  | .author_direct _, w => (reads.author_direct, w)
  | .call role c, w =>
    if reads.lost then (none, w)
    else
      (some ((w.services role).answer keccak256 reads.service c).1,
        w.set role ((w.services role).answer keccak256 reads.service c).2)
  | .reply _, w => (!reads.lost, w)

end CrossChainWorld

/-! ## Outside events -/

inductive SystemEvent where
  /-- A service restarts: its stores stay, its ledger is recovered. -/
  | restart (role : LegRole) (budget : AccountKey → U256)
  /-- The work of a service for other orders: its local state and its steps. -/
  | elsewhere (role : LegRole) (local_service : LocalCrossChainService) (steps : SqliteStepStore)
  /-- The proxy's work for other orders. -/
  | saga (saga : CrossChainSaga)
  | mine (role : LegRole) (handle : HandleId)
  | report (role : LegRole) (handle : HandleId) (status : ExecStatus)
  /-- The reconcile loop forgets a settled intent in two calls. -/
  | record_terminal (role : LegRole) (intent : IntentId)
  | untrack (role : LegRole) (intent : IntentId)
  /-- A submission for another order or a swap. -/
  | send (role : LegRole) (intent : IntentId)
  | track (role : LegRole) (intent : IntentId) (reservation : ReservationId) (handle : HandleId)

namespace CrossChainWorld

/-- The intent of a command of the order. -/
def intent_of (keccak256 : List UInt8 → B256) (chains : LegRole → ChainId)
    (order_id : CrossChainOrderId) (role : LegRole) (command : RemoteCommand) : IntentId :=
  ⟨(step_id keccak256 order_id (chains role) command).hash⟩

/-- The intents of the order's commands. -/
def own_intents (keccak256 : List UInt8 → B256) (chains : LegRole → ChainId)
    (order_id : CrossChainOrderId) (role : LegRole) : List IntentId :=
  [.Deliver, .DispatchFillProof, .ClaimOrigin, .DispatchRepayment, .CloseDestination].map
    (intent_of keccak256 chains order_id role)

/-- The preparation of a role that the order's saga names. -/
def own_token (w : CrossChainWorld) (order_id : CrossChainOrderId) (role : LegRole) :
    Option PrepareToken :=
  (w.sagas.load order_id).bind fun saga => saga.prepared role

/-- The order's own preparation is the same in `local_service`. -/
def Untouched (w : CrossChainWorld) (order_id : CrossChainOrderId) (role : LegRole)
    (local_service : LocalCrossChainService) : Prop :=
  ∀ token ∈ w.own_token order_id role, local_service.preparations.load token =
    (w.services role).local_service.preparations.load token

instance (w : CrossChainWorld) (order_id : CrossChainOrderId) (role : LegRole)
    (local_service : LocalCrossChainService) :
    Decidable (w.Untouched order_id role local_service) :=
  inferInstanceAs (Decidable (∀ token ∈ _, _ = _))

def recorded (s : ChainService) (intent : IntentId) : ChainService :=
  { s with executor := s.executor.record_terminal intent }

def untracked (s : ChainService) (intent : IntentId) : ChainService :=
  { s with executor := s.executor.untrack intent }

/-- An outside event. Other orders have other preparations and other intents:
    an event on this order's own has no effect. An intent is dropped only after
    its outcome was recorded. -/
def outside (keccak256 : List UInt8 → B256) (chains : LegRole → ChainId)
    (order_id : CrossChainOrderId) (event : SystemEvent) (w : CrossChainWorld) :
    CrossChainWorld :=
  match event with
  | .restart role budget =>
    let s := w.services role
    w.set role { s with local_service := s.local_service.restart budget }
  | .elsewhere role local_service steps =>
    if w.Untouched order_id role local_service then
      w.set role { w.services role with local_service, steps }
    else w
  | .saga saga =>
    if saga.order_id = order_id then w
    else { w with sagas := w.sagas.insert saga.order_id saga }
  | .mine role handle => w.set role ((w.services role).mine handle)
  | .report role handle status => w.set role ((w.services role).report handle status)
  | .record_terminal role intent => w.set role (recorded (w.services role) intent)
  | .untrack role intent =>
    if ((w.services role).executor.terminal[intent]?).isSome then
      w.set role (untracked (w.services role) intent)
    else w
  | .send role intent =>
    if intent ∈ own_intents keccak256 chains order_id role then w
    else
      w.set role { w.services role with executor := (w.services role).executor.send_with intent }
  | .track role intent reservation handle =>
    if intent ∈ own_intents keccak256 chains order_id role then w
    else
      w.set role { w.services role with
        executor := (w.services role).executor.track intent reservation handle }

/-- The world the programs of one order run in. -/
def environment (keccak256 : List UInt8 → B256) (chains : LegRole → ChainId)
    (order_id : CrossChainOrderId) :
    Environment SystemQuery SystemQuery.Answer CrossChainWorld SystemReads SystemEvent where
  answer := answer keccak256
  outside := outside keccak256 chains order_id

end CrossChainWorld

/-! ## The calls of the proxy -/

inductive ProxyCall where
  | start (taker : Option Address) (quote : AggregateQuote)
      (origin_plan destination_plan : ChainExecutionPlan) (now_unix : U64)
  /-- The authorization is for the order of the calls. -/
  | start_direct (authorization : DirectOrderAuthorization) (now_unix : U64)
  | advance (now_unix : U64)

namespace ProxyCall

def program (keccak256 : List UInt8 → B256) (cctp : Bool) (order_id : CrossChainOrderId) :
    ProxyCall → Proxy CrossChainSaga
  | .start taker quote origin_plan destination_plan now_unix =>
    Proxy.start_with_taker keccak256 cctp order_id taker quote origin_plan destination_plan now_unix
  | .start_direct authorization now_unix =>
    Proxy.start_direct keccak256 cctp { authorization with order_id } now_unix
  | .advance now_unix => Proxy.advance keccak256 cctp order_id now_unix

/-- A call of the proxy down to the calls of the services. -/
def system (keccak256 : List UInt8 → B256) (chains : LegRole → ChainId) (cctp : Bool)
    (order_id : CrossChainOrderId) (c : ProxyCall) :
    SystemProgram (Except SolventError CrossChainSaga) :=
  (c.program keccak256 cctp order_id).run.interpret (SystemProgram.refine keccak256 chains)

def entry (keccak256 : List UInt8 → B256) (chains : LegRole → ChainId) (cctp : Bool)
    (order_id : CrossChainOrderId) (c : ProxyCall) : SystemProgram Unit :=
  (c.system keccak256 chains cctp order_id).bind fun _ => .ret ()

end ProxyCall

/-! ## Undisturbed runs -/

namespace CrossChainWorld

/-- What one call of the proxy reads when nothing is lost: each service's reads,
    and the CCTP port's. -/
structure Answers where
  service : LegRole → ServiceReads
  quote_terms : Except CctpCompletionError CctpQuoteTerms
  close_step : Except CctpCompletionError CctpPreparedStep
  author_direct : Except RemoteSolventError DirectExecutionPlans

/-- The reads of a query at the service of `role`. -/
def Answers.at_role (answers : Answers) (role : LegRole) : SystemReads :=
  { lost := false, service := answers.service role, quote_terms := answers.quote_terms,
    close_step := answers.close_step, author_direct := answers.author_direct }

def respond (keccak256 : List UInt8 → B256) (answers : Answers) (q : SystemQuery)
    (w : CrossChainWorld) : q.Answer × CrossChainWorld :=
  match q with
  | .call role c => w.answer keccak256 (answers.at_role role) (.call role c)
  | q => w.answer keccak256 (answers.at_role .Origin) q

/-- A call of the proxy during which both services answer. -/
def call (keccak256 : List UInt8 → B256) (chains : LegRole → ChainId) (cctp : Bool)
    (order_id : CrossChainOrderId) (answers : Answers) (w : CrossChainWorld) (c : ProxyCall) :
    Except SolventError CrossChainSaga × CrossChainWorld :=
  (c.system keccak256 chains cctp order_id).run (respond keccak256 answers) w

end CrossChainWorld

end Solvent
