import Mathlib
import Solvent.Crosschain.Lifecycle
import Solvent.Crosschain.System

/-! # Undisturbed calls

    A call of the proxy that is not interleaved with anything, and during which
    both services answer. Its requests are then served at once, so the call is a
    run of the proxy's own program, and a handler is the operation of the local
    service it is named after.
-/

namespace Solvent

open BTreeMap LocalCrossChainService

namespace Handler

variable (keccak256 : List UInt8 → B256) (reads : ServiceReads) (s : ChainService)

/-- A handler that runs with nothing lost. -/
def run_alone {α : Type} (h : Handler α) : Except SolventError α × ChainService :=
  h.run.run (fun c s => s.answer keccak256 reads c) s

theorem alone_bind {α β : Type} (x : Handler α) (f : α → Handler β) :
    run_alone keccak256 reads s (x >>= f) =
      Program.thread (run_alone keccak256 reads s x)
        fun a s => run_alone keccak256 reads s (f a) := by
  unfold run_alone
  rw [Program.run_except_bind]

@[simp] theorem alone_pure {α : Type} (a : α) :
    run_alone keccak256 reads s (pure a) = (.ok a, s) := rfl

@[simp] theorem alone_throw {α : Type} (e : SolventError) :
    run_alone keccak256 reads s (throw e : Handler α) = (.error e, s) := rfl

@[simp] theorem alone_except {α : Type} (x : Except SolventError α) :
    run_alone keccak256 reads s (ExceptT.mk (pure x)) = (x, s) := rfl

@[simp] theorem alone_load_owned (token : PrepareToken) :
    run_alone keccak256 reads s (load_owned token) = (s.local_service.load_owned token, s) := rfl

@[simp] theorem alone_get (c : ServiceCall) :
    run_alone keccak256 reads s (get c) =
      (.ok (s.answer keccak256 reads c).1, (s.answer keccak256 reads c).2) := rfl

@[simp] theorem alone_update (p : Preparation) :
    run_alone keccak256 reads s (update p) =
      ((s.local_service.finish p).1,
        { s with local_service := (s.local_service.finish p).2 }) := rfl

@[simp] theorem alone_ledger_commit (token : PrepareToken) :
    run_alone keccak256 reads s (ExceptT.mk (ask (.commit token))) =
      ((s.local_service.ledger.commit token.reservation).1,
        { s with local_service := { s.local_service with
            ledger := (s.local_service.ledger.commit token.reservation).2 } }) := rfl

@[simp] theorem alone_ledger_void (token : PrepareToken) :
    run_alone keccak256 reads s (ExceptT.mk (ask (.void token))) =
      ((LocalCrossChainService.void s.local_service.ledger token).1,
        { s with local_service := { s.local_service with
            ledger := (LocalCrossChainService.void s.local_service.ledger token).2 } }) := rfl

/-- The service after an operation on a preparation. -/
def operated (op : Operation) (token : PrepareToken) :
    Except SolventError Preparation × ChainService :=
  ((s.local_service.perform op token).1,
    { s with local_service := (s.local_service.perform op token).2 })

/-- The `release` handler is the local service's `release`. -/
theorem alone_release (token : PrepareToken) :
    run_alone keccak256 reads s (release token) = operated s .release token := by
  unfold release operated LocalCrossChainService.perform LocalCrossChainService.half
  simp only [alone_bind, alone_load_owned]
  cases s.local_service.load_owned token with
  | error e => rfl
  | ok p =>
    simp only [Program.thread_ok, alone_except, Operation.check]
    cases LocalCrossChainService.invariant p.release with
    | error e => rfl
    | ok q =>
      simp only [Program.thread_ok, void, Operation.settle]
      by_cases hreleased : p.state = .Released
      · simp only [hreleased, if_true]
        rfl
      · simp only [hreleased, if_false, alone_ledger_void]
        rcases LocalCrossChainService.void s.local_service.ledger token with ⟨e | ⟨⟩, ledger⟩
        · rfl
        · rfl

/-- The `commit` handler is the local service's `commit` at the service's clock. -/
theorem alone_commit (token : PrepareToken) :
    run_alone keccak256 reads s (commit token) = operated s (.commit reads.committed_at) token := by
  unfold commit operated LocalCrossChainService.perform LocalCrossChainService.half
  simp only [alone_bind, alone_load_owned]
  cases s.local_service.load_owned token with
  | error e => rfl
  | ok p =>
    show Program.thread (LocalCrossChainService.check_commit reads.committed_at p, s)
      (fun q s => Program.thread (run_alone keccak256 reads s (ExceptT.mk (ask (.commit token))))
        fun _ s => run_alone keccak256 reads s (update q)) = _
    simp only [Operation.check]
    cases LocalCrossChainService.check_commit reads.committed_at p with
    | error e => rfl
    | ok q =>
      simp only [Program.thread_ok, alone_ledger_commit, Operation.settle]
      rcases s.local_service.ledger.commit token.reservation with ⟨e | ⟨⟩, ledger⟩
      · rfl
      · rfl

end Handler

namespace CrossChainWorld

variable (keccak256 : List UInt8 → B256) (chains : LegRole → ChainId) (answers : Answers)

/-! ## The proxy's queries -/

/-- A query of the proxy with nothing lost. -/
def served (q : ProxyQuery) (w : CrossChainWorld) : q.Answer × CrossChainWorld :=
  match q with
  | .load order_id => (.ok (w.sagas.load order_id), w)
  | .insert saga => ((w.sagas.insert_new saga).1, { w with sagas := (w.sagas.insert_new saga).2 })
  | .update saga => ((w.sagas.update saga).1, { w with sagas := (w.sagas.update saga).2 })
  | .remote role r =>
    let outcome := (Handler.serve keccak256 (chains role) r).run_alone keccak256
      (answers.service role) (w.services role)
    (outcome.1.mapError internal_error, w.set role outcome.2)
  | .quote_terms _ => (answers.quote_terms, w)
  | .close_step _ _ => (answers.close_step, w)
  | .author_direct _ => (answers.author_direct, w)

theorem run_at_service {α : Type} (role : LegRole) (h : Handler α) (w : CrossChainWorld) :
    (SystemProgram.at_service role h).run (respond keccak256 answers) w =
      (some (h.run_alone keccak256 (answers.service role) (w.services role)).1,
        w.set role (h.run_alone keccak256 (answers.service role) (w.services role)).2) := by
  unfold SystemProgram.at_service
  -- The calls of the handler see and change only the service of `role`.
  let whole := fun (c : ServiceCall) (w : CrossChainWorld) =>
    (((w.services role).answer keccak256 (answers.service role) c).1,
      w.set role ((w.services role).answer keccak256 (answers.service role) c).2)
  have hwhole : ∀ c w, (SystemProgram.call role c).run (respond keccak256 answers) w =
      (some (whole c w).1, (whole c w).2) := fun c w => rfl
  rw [Program.run_attempt hwhole h.run w]
  have hpart : h.run.run whole w =
      ((h.run_alone keccak256 (answers.service role) (w.services role)).1,
        w.set role (h.run_alone keccak256 (answers.service role) (w.services role)).2) := by
    apply Program.run_part (fun w s => w.set_same role s) (fun w s s' => w.set_set role s s')
      (fun w => w.set_get role)
    intro c w
    rfl
  rw [hpart]

theorem run_refine (q : ProxyQuery) (w : CrossChainWorld) :
    (SystemProgram.refine keccak256 chains q).run (respond keccak256 answers) w =
      served keccak256 chains answers q w := by
  match q with
  | .load order_id => rfl
  | .insert saga => rfl
  | .update saga => rfl
  | .quote_terms repayment => rfl
  | .close_step order_id tx => rfl
  | .author_direct authorization => rfl
  | .remote role r =>
    show (SystemProgram.request keccak256 chains role r).run _ w = _
    unfold SystemProgram.request
    rw [Program.run_bind, run_at_service]
    rfl

/-- **An undisturbed call** is a run of the proxy's program. -/
theorem call_eq (cctp : Bool) (order_id : CrossChainOrderId) (w : CrossChainWorld)
    (c : ProxyCall) :
    call keccak256 chains cctp order_id answers w c =
      (c.program keccak256 cctp order_id).run.run (served keccak256 chains answers) w := by
  unfold call ProxyCall.system
  rw [Program.run_interpret]
  congr 1
  funext q w
  exact run_refine keccak256 chains answers q w

end CrossChainWorld

namespace Proxy

variable (keccak256 : List UInt8 → B256) (chains : LegRole → ChainId)
variable (answers : CrossChainWorld.Answers) (w : CrossChainWorld)

/-- A part of the proxy's program that runs with nothing lost. -/
def run_alone {α : Type} (x : Proxy α) : Except SolventError α × CrossChainWorld :=
  x.run.run (CrossChainWorld.served keccak256 chains answers) w

theorem alone_bind {α β : Type} (x : Proxy α) (f : α → Proxy β) :
    run_alone keccak256 chains answers w (x >>= f) =
      Program.thread (run_alone keccak256 chains answers w x)
        fun a w => run_alone keccak256 chains answers w (f a) := by
  unfold run_alone
  rw [Program.run_except_bind]

@[simp] theorem alone_pure {α : Type} (a : α) :
    run_alone keccak256 chains answers w (pure a) = (.ok a, w) := rfl

@[simp] theorem alone_throw {α : Type} (e : SolventError) :
    run_alone keccak256 chains answers w (throw e : Proxy α) = (.error e, w) := rfl

@[simp] theorem alone_except {α : Type} (x : Except SolventError α) :
    run_alone keccak256 chains answers w (ExceptT.mk (pure x)) = (x, w) := rfl

@[simp] theorem alone_load (order_id : CrossChainOrderId) :
    run_alone keccak256 chains answers w (load order_id) = (.ok (w.sagas.load order_id), w) := rfl

/-- Writing a saga that is stored. -/
theorem alone_update {saga stored : CrossChainSaga}
    (hstored : w.sagas.load saga.order_id = some stored) :
    run_alone keccak256 chains answers w (update saga) =
      (.ok (), { w with sagas := w.sagas.insert saga.order_id saga }) := by
  show (((w.sagas.update saga).1.mapError SolventError.SagaStore),
    ({ w with sagas := (w.sagas.update saga).2 } : CrossChainWorld)) = _
  simp [SqliteSagaStore.update, hstored, Except.mapError]

theorem alone_save {saga stored : CrossChainSaga}
    (hstored : w.sagas.load saga.order_id = some stored) :
    run_alone keccak256 chains answers w (save saga) =
      (.ok saga, { w with sagas := w.sagas.insert saga.order_id saga }) := by
  unfold save
  rw [alone_bind, alone_update keccak256 chains answers w hstored]
  rfl

/-- What the service of `role` does with a request. -/
abbrev outcome (role : LegRole) (r : RemoteRequest) :
    Except SolventError r.Reply × ChainService :=
  (Handler.serve keccak256 (chains role) r).run_alone keccak256 (answers.service role)
    (w.services role)

theorem alone_remote (role : LegRole) (r : RemoteRequest) :
    run_alone keccak256 chains answers w (remote role r) =
      (.ok ((outcome keccak256 chains answers w role r).1.mapError internal_error),
        w.set role (outcome keccak256 chains answers w role r).2) := rfl

theorem alone_request (role : LegRole) (r : RemoteRequest) :
    run_alone keccak256 chains answers w (request role r) =
      (((outcome keccak256 chains answers w role r).1.mapError internal_error).mapError
        SolventError.RemoteSolvent, w.set role (outcome keccak256 chains answers w role r).2) := rfl

/-- A failure of the local service as the proxy's caller sees it. -/
def remote_error (e : SolventError) : SolventError := .RemoteSolvent (internal_error e)

/-- An inspection answers with the row and changes nothing. -/
@[simp] theorem alone_inspect (role : LegRole) (token : PrepareToken) :
    run_alone keccak256 chains answers w (inspect role token) =
      (((w.services role).local_service.load_owned token).mapError remote_error, w) := by
  show ((((w.services role).local_service.load_owned token).mapError internal_error).mapError
    SolventError.RemoteSolvent, w.set role (w.services role)) = _
  rw [w.set_get role]
  match (w.services role).local_service.load_owned token with
  | .error e => rfl
  | .ok p => rfl

end Proxy

end Solvent
