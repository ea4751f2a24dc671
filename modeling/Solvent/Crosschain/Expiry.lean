import Mathlib
import Solvent.Crosschain.Retry

/-! # Closing a CCTP order

    A CCTP order that was delivered and claimed is closed by a step the proxy
    stages at the destination late. The handler checks it with the context
    checks of a first staging, the quote's expiry among them.
-/

namespace Solvent

open BTreeMap LocalCrossChainService Interleave

namespace CrossChainWorld

variable {keccak256 : List UInt8 → B256} {chains : LegRole → ChainId}
variable {answers : CrossChainWorld.Answers} {w : CrossChainWorld}
variable {order_id : CrossChainOrderId} {saga : CrossChainSaga}

/-- The binding of a quote accepted once is accepted exactly until it expires. -/
theorem validate_aggregate_binding_iff {keccak256 : List UInt8 → B256} {quote : AggregateQuote}
    {admitted_at : U64} (hadmitted : validate_aggregate_binding keccak256 quote admitted_at = .ok ())
    (now_unix : U64) :
    validate_aggregate_binding keccak256 quote now_unix =
      if quote.expires_at_unix ≤ now_unix then
        .error (.InvalidCrossChain "aggregate quote expired before order admission")
      else .ok () := by
  unfold validate_aggregate_binding at hadmitted ⊢
  split at hadmitted
  · cases hadmitted
  · rename_i hcompatible
    rw [if_neg hcompatible]
    match hroute : validate_route quote with
    | .error e =>
      rw [hroute] at hadmitted
      cases hadmitted
    | .ok () => rfl

/-- A CCTP order whose origin is claimed, as its admission and its delivery left
    it: the quote was bound and issued, and the destination preparation is
    executed. -/
structure Claimed (keccak256 : List UInt8 → B256) (w : CrossChainWorld)
    (order_id : CrossChainOrderId) (saga : CrossChainSaga) (token : PrepareToken) (p : Preparation)
    (origin_transaction : B256) : Prop where
  stored : w.sagas.load order_id = some saga
  keyed : saga.order_id = order_id
  state : saga.state = .OriginFinalized
  route : saga.quote.origin.route = .Cctp
  evidence : saga.origin.bind StepEvidence.transaction_hash = some origin_transaction
  bound : ∃ admitted_at, validate_aggregate_binding keccak256 saga.quote admitted_at = .ok ()
  issued : (w.services .Destination).local_service.quotes[saga.quote.destination.quote_id]? =
    some saga.quote.destination
  chain : saga.quote.destination.local_chain = (w.services .Destination).local_service.chain_id
  named : saga.destination_prepare = some token
  row : (w.services .Destination).local_service.preparations.load token = some p
  owned : p.chain_id = (w.services .Destination).local_service.chain_id
  own : p.quote_id = saga.quote.id ∧ p.role = .Destination
  executed : p.state = .Executed

/-- The plan that closes the destination. -/
def close_plan (saga : CrossChainSaga) (step : PreparedStep) : ChainExecutionPlan :=
  { aggregate_id := saga.quote.id, chain_id := saga.quote.destination.local_chain,
    steps := [step] }

/-- The targets, the validator and the step store take the close step. -/
structure AcceptsClose (s : ChainService) (reads : ServiceReads) (order_id : CrossChainOrderId)
    (saga : CrossChainSaga) (step : PreparedStep) : Prop where
  command : step.command = .CloseDestination
  target : s.targets .CloseDestination = some step.target
  validator : reads.validate = .ok ()
  store : ∃ steps, s.steps.stage order_id (close_plan saga step) = .ok steps

/-- The order waits for its destination to be closed. -/
def Repaying (w : CrossChainWorld) (order_id : CrossChainOrderId) : Prop :=
  ∃ saga, w.sagas.load order_id = some saga ∧ saga.state = .RepaymentPending

instance (w : CrossChainWorld) (order_id : CrossChainOrderId) : Decidable (w.Repaying order_id) :=
  decidable_of_iff (∃ saga ∈ w.sagas.load order_id, saga.state = .RepaymentPending)
    (by simp [Repaying])

section Completion

variable {token : PrepareToken} {p : Preparation} {tx : B256} {step : PreparedStep}

/-- The context the proxy stages the close step in. -/
def close_context (order_id : CrossChainOrderId) (saga : CrossChainSaga) : StepValidationContext :=
  { order_id, quote := saga.quote, role := .Destination }

/-- The destination's checks on the context come down to the expiry. -/
theorem Claimed.validate_stage_context (h : w.Claimed keccak256 order_id saga token p tx)
    (now_unix : U64) :
    (w.services .Destination).validate_stage_context keccak256 (close_context order_id saga)
        now_unix =
      if saga.quote.expires_at_unix ≤ now_unix then
        .error (.InvalidCrossChain "aggregate quote expired before order admission")
      else .ok () := by
  obtain ⟨admitted_at, hadmitted⟩ := h.bound
  have hquote : saga.quote.destination.quote_id = leg_quote_id keccak256 saga.quote.destination := by
    by_contra hne
    unfold validate_aggregate_binding at hadmitted
    rw [if_pos (fun hc => hne hc.2.2.1)] at hadmitted
    cases hadmitted
  have hlocal : (close_context order_id saga).local_quote = saga.quote.destination := rfl
  unfold ChainService.validate_stage_context
  have hbinding := validate_aggregate_binding_iff hadmitted now_unix
  rw [show (close_context order_id saga).quote = saga.quote from rfl, hbinding]
  split
  · rename_i e heq
    split at heq
    · obtain rfl := Except.error.inj heq
      rw [if_pos ‹_›]
    · cases heq
  · rename_i heq
    split at heq
    · cases heq
    · rename_i hlive
      simp only [hlocal, h.chain, h.issued, ← hquote]
      simp [hlive]

/-- The checks on the plan pass. -/
theorem Claimed.check_stage (h : w.Claimed keccak256 order_id saga token p tx)
    {reads : ServiceReads}
    (haccepts : AcceptsClose (w.services .Destination) reads order_id saga step) :
    (w.services .Destination).check_stage (close_context order_id saga) (close_plan saga step) =
      .ok () := by
  have hlocal : (close_context order_id saga).local_quote = saga.quote.destination := rfl
  have hvalid : ChainService.command_is_valid_for (close_context order_id saga).quote.origin.route
      (close_context order_id saga).role step.command = true := by
    show ChainService.command_is_valid_for saga.quote.origin.route .Destination step.command = true
    rw [h.route, haccepts.command]
    rfl
  have htarget : (w.services .Destination).targets step.command = some step.target := by
    rw [haccepts.command]
    exact haccepts.target
  have hsteps : (w.services .Destination).check_steps (close_context order_id saga) []
      (close_plan saga step).steps = .ok () := by
    show (w.services .Destination).check_steps (close_context order_id saga) [] [step] = .ok ()
    unfold ChainService.check_steps
    simp [hvalid, htarget, ChainService.check_steps]
  unfold ChainService.check_stage
  rw [hlocal, hsteps]
  simp [close_plan, close_context, h.chain]

/-- **The handler** accepts the completion exactly until the quote expires. -/
theorem Claimed.alone_completion (h : w.Claimed keccak256 order_id saga token p tx)
    {reads : ServiceReads}
    (haccepts : AcceptsClose (w.services .Destination) reads order_id saga step) :
    ∃ steps, Handler.run_alone keccak256 reads (w.services .Destination)
        (Handler.stage_cctp_completion saga.quote.destination.local_chain
          (close_context order_id saga) (close_plan saga step) token) =
      if saga.quote.expires_at_unix ≤ reads.staged_at then
        (.error (.InvalidCrossChain "aggregate quote expired before order admission"),
          w.services .Destination)
      else (.ok (), { w.services .Destination with steps }) := by
  obtain ⟨steps, hstage⟩ := haccepts.store
  refine ⟨steps, ?_⟩
  have hcontext : Handler.run_alone keccak256 reads (w.services .Destination)
      (Handler.validate_stage_context (close_context order_id saga)) =
      (if saga.quote.expires_at_unix ≤ reads.staged_at then
        .error (.InvalidCrossChain "aggregate quote expired before order admission")
      else .ok (), w.services .Destination) := by
    rw [← h.validate_stage_context]
    rfl
  have hauthorized : Handler.completion_authorized saga.quote.destination.local_chain
      (close_context order_id saga) step p :=
    ⟨h.route, rfl, haccepts.command, h.own.1, h.owned.trans h.chain.symm, h.own.2, h.executed⟩
  have hplan : Handler.run_alone keccak256 reads (w.services .Destination)
      (ExceptT.mk (Handler.ask (.validate_plan (close_context order_id saga)
        (close_plan saga step)))) = (.ok (), w.services .Destination) := by
    show (w.services .Destination).answer keccak256 reads
      (.validate_plan (close_context order_id saga) (close_plan saga step)) = _
    simp only [ChainService.answer, h.check_stage haccepts, haccepts.validator]
    rfl
  have hstore : Handler.run_alone keccak256 reads (w.services .Destination)
      (ExceptT.mk (Handler.ask (.stage order_id (close_plan saga step)))) =
      (.ok (), { w.services .Destination with steps }) := by
    show (w.services .Destination).answer keccak256 reads (.stage order_id (close_plan saga step)) =
      _
    simp only [ChainService.answer, hstage]
    rfl
  unfold Handler.stage_cctp_completion
  rw [Handler.alone_bind, hcontext]
  by_cases hexpired : saga.quote.expires_at_unix ≤ reads.staged_at
  · simp only [hexpired, if_true, Program.thread_error]
  · simp only [hexpired, if_false, Program.thread_ok]
    rw [Handler.alone_bind, Handler.alone_load_owned,
      LocalCrossChainService.load_owned_eq h.row h.owned, Program.thread_ok]
    simp only [close_plan, hauthorized, not_true, if_false]
    unfold Handler.stage_validated
    rw [Handler.alone_bind]
    show Program.thread (Handler.run_alone keccak256 reads (w.services .Destination)
      (ExceptT.mk (Handler.ask (.validate_plan (close_context order_id saga)
        (close_plan saga step))))) _ = _
    rw [hplan, Program.thread_ok]
    exact hstore

end Completion

/-- **A delivered order is closed before its quote expires, and only then**: with
    everything else answering, an advance of a claimed CCTP order stages the
    completion exactly while the quote the order was admitted with is live at the
    destination's clock. -/
theorem completion_staged_iff (keccak256 : List UInt8 → B256) (chains : LegRole → ChainId)
    (order_id : CrossChainOrderId) (answers : Answers) (w : CrossChainWorld)
    (saga : CrossChainSaga) (token : PrepareToken) (p : Preparation) (tx : B256)
    (prepared : CctpPreparedStep) (hchain : chains .Destination = saga.quote.destination.local_chain)
    (h : w.Claimed keccak256 order_id saga token p tx)
    (hclose : answers.close_step = .ok prepared)
    (haccepts : AcceptsClose (w.services .Destination) (answers.service .Destination) order_id saga
      prepared.step) (now_unix : U64) :
    (call keccak256 chains true order_id answers w (.advance now_unix)).2.Repaying order_id ↔
      (answers.service .Destination).staged_at < saga.quote.expires_at_unix := by
  have hcall : call keccak256 chains true order_id answers w (.advance now_unix) =
      Proxy.run_alone keccak256 chains answers w
        (Proxy.complete_cctp keccak256 true order_id saga now_unix) := by
    rw [call_eq keccak256 chains answers true order_id w (.advance now_unix)]
    have hstep : Proxy.step keccak256 true order_id saga now_unix =
        Proxy.complete_cctp keccak256 true order_id saga now_unix := by
      unfold Proxy.step
      simp only [h.state, h.route]
    rw [← hstep]
    exact Proxy.alone_advance true now_unix h.stored (by simp [h.state])
  obtain ⟨steps, hhandler⟩ := h.alone_completion haccepts
  have houtcome : Proxy.outcome keccak256 chains answers w .Destination
      (.stage_cctp_completion (close_context order_id saga) (close_plan saga prepared.step) token) =
      if saga.quote.expires_at_unix ≤ (answers.service .Destination).staged_at then
        (.error (.InvalidCrossChain "aggregate quote expired before order admission"),
          w.services .Destination)
      else (.ok (), { w.services .Destination with steps }) := by
    show Handler.run_alone keccak256 (answers.service .Destination) (w.services .Destination)
      (Handler.stage_cctp_completion (chains .Destination) (close_context order_id saga)
        (close_plan saga prepared.step) token) = _
    rw [hchain]
    exact hhandler
  have hport : Proxy.run_alone keccak256 chains answers w
      (ExceptT.lift (Proxy.ask (.close_step order_id tx)) :
        Proxy (Except CctpCompletionError CctpPreparedStep)) = (.ok (.ok prepared), w) := by
    rw [← hclose]
    rfl
  rw [hcall]
  unfold Proxy.complete_cctp
  rw [h.evidence]
  simp only [not_true, if_false]
  rw [Proxy.alone_bind, hport, Program.thread_ok]
  simp only
  have hrequired : Proxy.required_token saga.destination_prepare = .ok token := by
    rw [h.named]
    rfl
  have hrequest : Proxy.run_alone keccak256 chains answers w
      (Proxy.stage_cctp_completion order_id saga prepared.step token) =
      (((Proxy.outcome keccak256 chains answers w .Destination
          (.stage_cctp_completion (close_context order_id saga) (close_plan saga prepared.step)
            token)).1.mapError internal_error).mapError SolventError.RemoteSolvent,
        w.set .Destination (Proxy.outcome keccak256 chains answers w .Destination
          (.stage_cctp_completion (close_context order_id saga) (close_plan saga prepared.step)
            token)).2) := rfl
  rw [Proxy.alone_bind, Proxy.alone_except, hrequired, Program.thread_ok, Proxy.alone_bind,
    hrequest, houtcome]
  by_cases hexpired : saga.quote.expires_at_unix ≤ (answers.service .Destination).staged_at
  · -- The handler refuses, and the saga stays as it is.
    simp only [hexpired, if_true, Except.mapError]
    constructor
    · rintro ⟨saga', hsaga', hstate⟩
      obtain rfl : saga = saga' := Option.some.inj (h.stored.symm.trans hsaga')
      rw [h.state] at hstate
      cases hstate
    · intro hlive
      exact absurd hexpired (not_le.mpr hlive)
  · simp only [hexpired, if_false, Except.mapError]
    refine iff_of_true ?_ (not_le.mp hexpired)
    generalize hafter : w.set .Destination { w.services .Destination with steps } = after
    have hsagas : after.sagas = w.sagas := by
      rw [← hafter]
      rfl
    generalize hsaga' : CrossChainSaga.record_lifecycle
      { saga with
        repayment := some (Proxy.repayment_evidence keccak256 order_id saga tx
          prepared.message_id)
        state := .RepaymentPending } .Repayment now_unix = saga'
    obtain ⟨lifecycle, hrecord⟩ := record_lifecycle_eq
      { saga with
        repayment := some (Proxy.repayment_evidence keccak256 order_id saga tx
          prepared.message_id)
        state := .RepaymentPending } .Repayment now_unix
    rw [hsaga'] at hrecord
    have hkeyed : saga'.order_id = order_id := by
      rw [hrecord]
      exact h.keyed
    have hrow : after.sagas.load saga'.order_id = some saga := by
      rw [hsagas, hkeyed, h.stored]
    show (Proxy.run_alone keccak256 chains answers after (Proxy.save saga')).2.Repaying order_id
    rw [Proxy.alone_save keccak256 chains answers after hrow]
    refine ⟨saga', ?_, by rw [hrecord]⟩
    show SqliteSagaStore.load (after.sagas.insert saga'.order_id saga') order_id = some saga'
    rw [hkeyed]
    exact load_insert_same _ _ _

/-! ### A CCTP order -/

def cctp_leg (role : LegRole) : LegQuote :=
  let quote : LegQuote := { sample_quote.leg role with
    quote_id := 0, route := .Cctp, amount_out := if role = .Origin then 200 else 90 }
  { quote with quote_id := leg_quote_id sample_hash quote }

def cctp_quote : AggregateQuote :=
  { id := aggregate_id sample_hash (cctp_leg .Origin) (cctp_leg .Destination) 1 (some 1000)
    origin := cctp_leg .Origin
    destination := cctp_leg .Destination
    amount_in := 100
    amount_out := 90
    bridge_fee := 1
    cctp_finality_threshold := some 1000
    expires_at_unix := 100 }

def cctp_plan (role : LegRole) : ChainExecutionPlan :=
  { aggregate_id := cctp_quote.id
    chain_id := sample_chains role
    steps := (initial_commands .Cctp role).map fun command =>
      { command, target := 77, value := 0, calldata := [] } }

def close_step : CctpPreparedStep :=
  { step := { command := .CloseDestination, target := 77, value := 0, calldata := [] }
    message_id := 8 }

/-- Everything answers; the destination stages at `staged_at`. -/
def cctp_answers (staged_at : U64) : Answers :=
  { service := fun _ => { sample_service_reads with staged_at }
    quote_terms := .ok { max_fee := 1, finality_threshold := 1000 }
    close_step := .ok close_step
    author_direct := .error (.Unavailable "not configured") }

/-- Both services have issued their quotes. -/
def cctp_world : CrossChainWorld :=
  { sagas := ∅
    services := fun role =>
      { ChainService.new (sample_chains role) (fun _ => some 77) with
        local_service := { LocalCrossChainService.new (sample_chains role) with
          quotes := (∅ : BTreeMap B256 LegQuote).insert (cctp_leg role).quote_id
            (cctp_leg role) } } }

def cctp_reads : SystemReads := (cctp_answers 10).at_role .Destination

/-- The engine finds the transaction `handle` confirmed. -/
def cctp_confirms (handle : HandleId) : SystemReads :=
  { cctp_reads with
    service := { sample_service_reads with tick := [(handle, .Confirmed 5 6)] } }

/-- The call in slot `i` is answered `n` times. -/
def cctp_steps (n i : ℕ) : List SystemAction :=
  List.replicate n (.access i cctp_reads)

/-- An advance in slot `i` whose transaction `handle` is sent after `n` answers
    and lands at once; `m` answers follow. -/
def cctp_advance (i : ℕ) (role : LegRole) (handle : HandleId) (n m : ℕ) : List SystemAction :=
  .start (.advance 20) :: cctp_steps n i ++ .outside (.mine role handle) ::
    .access i (cctp_confirms handle) :: cctp_steps m i

/-- The order is started, delivered, proven and claimed. -/
def claimed_actions : List SystemAction :=
  .start (.start none cctp_quote (cctp_plan .Origin) (cctp_plan .Destination) 10) ::
    cctp_steps 35 0 ++ cctp_advance 1 .Destination 0 14 7 ++
    cctp_advance 2 .Destination 1 10 3 ++ cctp_advance 3 .Origin 0 10 7

def claimed_world : CrossChainWorld :=
  (Run.run (machine sample_hash sample_chains true sample_order).next
    (Machine.initial cctp_world) claimed_actions).shared

set_option maxRecDepth 8000 in
/-- What the run leaves, read off one evaluation of it. -/
theorem claimed_run :
    (∃ saga ∈ claimed_world.sagas.load sample_order,
    saga.order_id = sample_order ∧ saga.state = .OriginFinalized ∧
      saga.quote.origin.route = .Cctp ∧
      validate_aggregate_binding sample_hash saga.quote 10 = .ok ()) ∧
    (∀ saga ∈ claimed_world.sagas.load sample_order,
    saga.origin.bind StepEvidence.transaction_hash = some 6) ∧
    (∀ saga ∈ claimed_world.sagas.load sample_order,
    saga.quote.expires_at_unix = 100 ∧ saga.quote.destination.local_chain = ⟨10⟩ ∧
      (claimed_world.services .Destination).local_service.quotes[
        saga.quote.destination.quote_id]? = some saga.quote.destination) ∧
    ((claimed_world.services .Destination).local_service.chain_id = ⟨10⟩ ∧
      (claimed_world.services .Destination).targets .CloseDestination = some 77) ∧
    (∀ saga ∈ claimed_world.sagas.load sample_order,
    ∃ token ∈ saga.destination_prepare,
      ∃ p ∈ (claimed_world.services .Destination).local_service.preparations.load token,
        p.chain_id = ⟨10⟩ ∧ p.quote_id = saga.quote.id ∧ p.role = .Destination ∧
          p.state = .Executed) ∧
    (∀ saga ∈ claimed_world.sagas.load sample_order,
    ((claimed_world.services .Destination).steps.stage sample_order
      (close_plan saga close_step.step)).isOk = true) ∧
    (¬ (call sample_hash sample_chains true sample_order (cctp_answers 200) claimed_world
      (.advance 210)).2.Repaying sample_order) := by
  decide +kernel

/-- The saga is claimed, and was admitted at 10. -/
theorem claimed_saga : ∃ saga ∈ claimed_world.sagas.load sample_order,
    saga.order_id = sample_order ∧ saga.state = .OriginFinalized ∧
      saga.quote.origin.route = .Cctp ∧
      validate_aggregate_binding sample_hash saga.quote 10 = .ok () :=
  claimed_run.1

theorem claimed_evidence : ∀ saga ∈ claimed_world.sagas.load sample_order,
    saga.origin.bind StepEvidence.transaction_hash = some 6 :=
  claimed_run.2.1

theorem claimed_quote : ∀ saga ∈ claimed_world.sagas.load sample_order,
    saga.quote.expires_at_unix = 100 ∧ saga.quote.destination.local_chain = ⟨10⟩ ∧
      (claimed_world.services .Destination).local_service.quotes[
        saga.quote.destination.quote_id]? = some saga.quote.destination :=
  claimed_run.2.2.1

theorem claimed_service :
    (claimed_world.services .Destination).local_service.chain_id = ⟨10⟩ ∧
      (claimed_world.services .Destination).targets .CloseDestination = some 77 :=
  claimed_run.2.2.2.1

theorem claimed_row : ∀ saga ∈ claimed_world.sagas.load sample_order,
    ∃ token ∈ saga.destination_prepare,
      ∃ p ∈ (claimed_world.services .Destination).local_service.preparations.load token,
        p.chain_id = ⟨10⟩ ∧ p.quote_id = saga.quote.id ∧ p.role = .Destination ∧
          p.state = .Executed :=
  claimed_run.2.2.2.2.1

theorem claimed_world_claimed :
    ∃ saga token p, claimed_world.Claimed sample_hash sample_order saga token p 6 := by
  obtain ⟨saga, hstored, hkeyed, hstate, hroute, hbound⟩ := claimed_saga
  obtain ⟨_, hlocal, hissued⟩ := claimed_quote saga hstored
  obtain ⟨hchain, _⟩ := claimed_service
  obtain ⟨token, htoken, p, hp, howned, hquote, hrole, hexecuted⟩ := claimed_row saga hstored
  exact ⟨saga, token, p, hstored, hkeyed, hstate, hroute, claimed_evidence saga hstored,
    ⟨10, hbound⟩, hissued, hlocal.trans hchain.symm, htoken, hp, howned.trans hchain.symm,
    ⟨hquote, hrole⟩, hexecuted⟩

theorem claimed_stage : ∀ saga ∈ claimed_world.sagas.load sample_order,
    ((claimed_world.services .Destination).steps.stage sample_order
      (close_plan saga close_step.step)).isOk = true :=
  claimed_run.2.2.2.2.2.1

theorem claimed_accepts {saga : CrossChainSaga}
    (hstored : claimed_world.sagas.load sample_order = some saga) (staged_at : U64) :
    AcceptsClose (claimed_world.services .Destination)
      ((cctp_answers staged_at).service .Destination) sample_order saga close_step.step where
  command := rfl
  target := claimed_service.2
  validator := rfl
  store := by
    have hstage := claimed_stage saga hstored
    match hsteps : (claimed_world.services .Destination).steps.stage sample_order
        (close_plan saga close_step.step) with
    | .ok steps => exact ⟨steps, rfl⟩
    | .error e => simp [hsteps, Except.isOk, Except.toBool] at hstage

theorem claimed_order_is_closed :
    (∃ saga token p, claimed_world.Claimed sample_hash sample_order saga token p 6) ∧
      (call sample_hash sample_chains true sample_order (cctp_answers 50) claimed_world
        (.advance 60)).2.Repaying sample_order := by
  obtain ⟨saga, token, p, h⟩ := claimed_world_claimed
  obtain ⟨hexpires, hlocal, _⟩ := claimed_quote saga h.stored
  refine ⟨⟨saga, token, p, h⟩, ?_⟩
  have hlive : ((cctp_answers 50).service .Destination).staged_at < saga.quote.expires_at_unix := by
    rw [hexpires]
    decide
  exact (completion_staged_iff sample_hash sample_chains sample_order (cctp_answers 50)
    claimed_world saga token p 6 close_step hlocal.symm h rfl (claimed_accepts h.stored 50)
    60).mpr hlive

theorem expired_call_open :
    ¬ (call sample_hash sample_chains true sample_order (cctp_answers 200) claimed_world
      (.advance 210)).2.Repaying sample_order :=
  claimed_run.2.2.2.2.2.2

/-- The port returns the close step, the targets, the validator and the store
    take it, and the order is not closed: its quote has expired. -/
theorem expired_order_stays_open :
    (∃ saga token p, claimed_world.Claimed sample_hash sample_order saga token p 6 ∧
      AcceptsClose (claimed_world.services .Destination)
        ((cctp_answers 200).service .Destination) sample_order saga close_step.step) ∧
      ¬ (call sample_hash sample_chains true sample_order (cctp_answers 200) claimed_world
        (.advance 210)).2.Repaying sample_order := by
  obtain ⟨saga, token, p, h⟩ := claimed_world_claimed
  exact ⟨⟨saga, token, p, h, claimed_accepts h.stored 200⟩, expired_call_open⟩

end CrossChainWorld

end Solvent
