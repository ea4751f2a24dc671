import Mathlib
import Solvent.Crosschain.Order
import Solvent.Crosschain.System

/-! # The proxy keeps to the protocol

    Every call of the proxy obeys the protocol of its order, whatever the
    services and the CCTP port answer. One lemma for each function of the proxy,
    in the order of the source.
-/

namespace Solvent

namespace Proxy

variable {order_id : CrossChainOrderId} {saga : CrossChainSaga}
variable {heard : Option (RemoteCommand × RemoteProgress)} {t : Turn} {α β : Type}

/-- A failure ends the call; a success goes on as `Ψ` says. -/
def Outcome (Ψ : α → Turn → Prop) : Except SolventError α → Turn → Prop
  | .ok a, t => Ψ a t
  | .error _, t => t.Settled

/-- The part `x` of a call obeys the protocol after `t`, and goes on as `Ψ` says. -/
def Conforms (order_id : CrossChainOrderId) (x : Proxy α) (Ψ : α → Turn → Prop) (t : Turn) :
    Prop :=
  (order_protocol order_id).Obeys x.run (Outcome Ψ) t

/-! ## Rules -/

theorem conforms_pure {Ψ : α → Turn → Prop} {a : α} (h : Ψ a t) :
    Conforms order_id (pure a) Ψ t := h

theorem conforms_throw {Ψ : α → Turn → Prop} {e : SolventError} (h : t.Settled) :
    Conforms order_id (throw e) Ψ t := h

theorem conforms_mono {x : Proxy α} {Ψ Ψ' : α → Turn → Prop} (h : ∀ a t, Ψ a t → Ψ' a t)
    (hx : Conforms order_id x Ψ t) : Conforms order_id x Ψ' t := by
  refine Protocol.obeys_mono _ ?_ hx
  intro answer t ht
  match answer with
  | .ok a => exact h a t ht
  | .error e => exact ht

theorem conforms_bind {x : Proxy α} {f : α → Proxy β} {Ψ : β → Turn → Prop}
    (hx : Conforms order_id x (fun a => Conforms order_id (f a) Ψ) t) :
    Conforms order_id (x >>= f) Ψ t := by
  unfold Conforms
  rw [Program.except_bind]
  apply Protocol.obeys_bind
  refine Protocol.obeys_mono _ ?_ hx
  intro answer t ht
  match answer with
  | .ok a => exact ht
  | .error e => exact ht

/-- A check that asks nothing. -/
theorem conforms_except {x : Except SolventError α} {Ψ : α → Turn → Prop} (hsettled : t.Settled)
    (hok : ∀ a, x = .ok a → Ψ a t) : Conforms order_id (ExceptT.mk (pure x)) Ψ t := by
  match x with
  | .ok a => exact hok a rfl
  | .error e => exact hsettled

/-- A write the protocol permits. -/
theorem conforms_update {saga' : CrossChainSaga} {Ψ : Unit → Turn → Prop}
    (hwrite : Write saga heard saga') (hnext : Ψ () (.at_saga saga' none)) :
    Conforms order_id (update saga') Ψ (.at_saga saga heard) := by
  refine ⟨.update hwrite, ?_⟩
  intro answer hanswer
  obtain rfl : answer = .ok () := hanswer
  exact hnext

theorem conforms_save {saga' : CrossChainSaga} {Ψ : CrossChainSaga → Turn → Prop}
    (hwrite : Write saga heard saga') (hnext : Ψ saga' (.at_saga saga' none)) :
    Conforms order_id (save saga') Ψ (.at_saga saga heard) :=
  conforms_bind (conforms_update hwrite hnext)

/-- A request that is not a command leaves what was seen as it was. -/
theorem next_request {role : LegRole} {r : RemoteRequest}
    (hr : ∀ id command_id c token, r ≠ .command id command_id c token)
    (answer : Except RemoteSolventError r.Reply) :
    Turn.next t (.remote role r) answer = t := by
  match r with
  | .command id command_id c token => exact absurd rfl (hr id command_id c token)
  | .stage _ _ | .stage_cctp_completion _ _ _ | .prepare _ _ | .commit _ | .inspect _
  | .release _ =>
    cases t <;> rfl

theorem conforms_remote {role : LegRole} {r : RemoteRequest}
    {Ψ : Except RemoteSolventError r.Reply → Turn → Prop}
    (hr : ∀ id command_id c token, r ≠ .command id command_id c token)
    (hasks : Turn.Permits order_id t (.remote role r)) (hnext : ∀ answer, Ψ answer t) :
    Conforms order_id (remote role r) Ψ t := by
  refine ⟨hasks, ?_⟩
  intro answer _
  have hsame : Turn.next t (.remote role r) answer = t := next_request hr answer
  show Ψ answer (Turn.next t (.remote role r) answer)
  exact hsame.symm ▸ hnext answer

theorem conforms_request {role : LegRole} {r : RemoteRequest} {Ψ : r.Reply → Turn → Prop}
    (hr : ∀ id command_id c token, r ≠ .command id command_id c token)
    (hasks : Turn.Permits order_id t (.remote role r)) (hsettled : t.Settled)
    (hnext : ∀ reply, Ψ reply t) : Conforms order_id (request role r) Ψ t := by
  refine ⟨hasks, ?_⟩
  intro answer _
  have hsame : Turn.next t (.remote role r) answer = t := next_request hr answer
  have houtcome : ∀ answer : Except RemoteSolventError r.Reply,
      Outcome Ψ (answer.mapError SolventError.RemoteSolvent) t := by
    intro answer
    match answer with
    | .ok reply => exact hnext reply
    | .error e => exact hsettled
  have hdone := houtcome answer
  rw [← hsame] at hdone
  exact hdone

/-- A command that is due, and what was heard of it. -/
theorem conforms_command {keccak256 : List UInt8 → B256} (c : RemoteCommand)
    {Ψ : RemoteProgress → Turn → Prop} (hdue : Due saga c)
    (hnext : ∀ progress, Ψ progress (.at_saga saga (some (c, progress)))) :
    Conforms order_id (command keccak256 (Handler.expected_role c) saga order_id c) Ψ
      (.at_saga saga none) := by
  apply conforms_bind
  refine conforms_except (show Turn.Settled _ from trivial) ?_
  intro token _
  refine ⟨.remote ⟨rfl, rfl, hdue, rfl⟩, ?_⟩
  intro answer _
  match answer with
  | .ok progress => exact hnext progress
  | .error e => exact trivial

/-! ## Compensation -/

theorem conforms_release (role : LegRole) (hreleasing : Releasing saga heard) :
    Conforms order_id (release role saga) (fun _ t => t = .at_saga saga heard)
      (.at_saga saga heard) := by
  unfold release
  match saga.prepared role with
  | none => exact conforms_pure rfl
  | some token =>
    apply conforms_bind
    apply conforms_remote
    · simp
    · exact .remote hreleasing
    intro answer
    match answer with
    | .ok _ => exact conforms_pure rfl
    | .error _ => exact conforms_pure rfl

/-- A released order has not heard of a finalized command. -/
theorem settled_of_releasing (h : Releasing saga heard) : (Turn.at_saga saga heard).Settled := by
  rcases h with ⟨_, rfl⟩ | ⟨_, reason, rfl⟩ <;> trivial

theorem conforms_compensate (reason : String) (hreleasing : Releasing saga heard) :
    Conforms order_id (compensate saga reason) (fun _ t => t.Settled) (.at_saga saga heard) := by
  apply conforms_bind
  apply conforms_mono _ (conforms_release .Origin hreleasing)
  rintro origin_error t rfl
  apply conforms_bind
  apply conforms_mono _ (conforms_release .Destination hreleasing)
  rintro destination_error t rfl
  match origin_error.or destination_error with
  | some error =>
    apply conforms_bind
    exact conforms_update (.compensating _ hreleasing) (conforms_throw trivial)
  | none =>
    apply conforms_bind
    apply conforms_except (settled_of_releasing hreleasing)
    intro saga' hsaga'
    unfold CrossChainSaga.transition at hsaga'
    split at hsaga'
    · obtain rfl := Except.ok.inj hsaga'
      exact conforms_save (.compensate reason hreleasing) trivial
    · cases hsaga'

/-! ## Preparation -/

section Preparing

variable (hstate : saga.state = .Preparing)

include hstate

theorem releasing_preparing : Releasing saga none := .inl ⟨hstate, rfl⟩

theorem conforms_or_compensate {answer : Except RemoteSolventError α}
    {k : α → Proxy CrossChainSaga}
    (hk : ∀ a, Conforms order_id (k a) (fun _ t => t.Settled) (.at_saga saga none)) :
    Conforms order_id (or_compensate saga answer k) (fun _ t => t.Settled)
      (.at_saga saga none) := by
  match answer with
  | .ok a => exact hk a
  | .error (.Rejected reason) => exact conforms_compensate reason (releasing_preparing hstate)
  | .error (.Unavailable message) => exact conforms_throw trivial
  | .error (.InvalidResponse message) => exact conforms_throw trivial

theorem conforms_preparation (role : LegRole) :
    Conforms order_id (preparation role saga) (fun _ t => t = .at_saga saga none)
      (.at_saga saga none) := by
  unfold preparation
  match saga.prepared role with
  | some token => exact conforms_remote (by simp) (.remote ⟨.inl hstate, rfl⟩) (fun _ => rfl)
  | none => exact conforms_remote (by simp) (.remote ⟨hstate, rfl⟩) (fun _ => rfl)

/-- Recording a token: the saga then names the preparation, and what it named
    before. -/
theorem conforms_record_token (role : LegRole) (p : Preparation) :
    Conforms order_id (record_token role saga p)
      (fun saga' t => t = .at_saga saga' none ∧ saga'.state = .Preparing ∧
        (saga'.prepared role).isSome ∧
        ∀ other, (saga.prepared other).isSome → (saga'.prepared other).isSome)
      (.at_saga saga none) := by
  unfold record_token
  by_cases hnew : (saga.prepared role).isNone
  · rw [if_pos hnew]
    apply conforms_save (.token role p.token hstate (Option.isNone_iff_eq_none.mp hnew))
    refine ⟨rfl, ?_, ?_, ?_⟩
    · cases role <;> exact hstate
    · cases role <;> rfl
    · intro other hother
      cases role <;> cases other <;>
        simp_all [set_prepared, CrossChainSaga.prepared]
  · rw [if_neg hnew]
    have hsome : (saga.prepared role).isSome := by simpa [Option.isSome_iff_ne_none] using hnew
    exact conforms_pure ⟨rfl, hstate, hsome, fun _ h => h⟩

theorem conforms_commit_leg (role : LegRole) (p : Preparation) {k : Proxy CrossChainSaga}
    (hk : Conforms order_id k (fun _ t => t.Settled) (.at_saga saga none)) :
    Conforms order_id (commit_leg role saga p k) (fun _ t => t.Settled) (.at_saga saga none) := by
  have hcheck : ∀ q : Preparation, Conforms order_id
      (if confirms saga q role then k
      else compensate saga (InvalidCrossChain_text unconfirmed)) (fun _ t => t.Settled)
      (.at_saga saga none) := by
    intro q
    split
    · exact hk
    · exact conforms_compensate _ (releasing_preparing hstate)
  unfold commit_leg
  match p.state with
  | .Prepared =>
    apply conforms_bind
    apply conforms_remote
    · simp
    · exact .remote ⟨hstate, rfl⟩
    intro answer
    exact conforms_or_compensate hstate hcheck
  | .Committed => exact hcheck p
  | .Executed | .Released => exact conforms_compensate _ (releasing_preparing hstate)

theorem conforms_finish_preparation (horigin : saga.origin_prepare.isSome)
    (hdestination : saga.destination_prepare.isSome) :
    Conforms order_id (finish_preparation saga) (fun _ t => t.Settled) (.at_saga saga none) := by
  apply conforms_bind
  refine conforms_except (show Turn.Settled _ from trivial) ?_
  intro saga' hsaga'
  unfold CrossChainSaga.transition at hsaga'
  split at hsaga'
  · obtain rfl := Except.ok.inj hsaga'
    exact conforms_save (.prepare hstate horigin hdestination) trivial
  · cases hsaga'

theorem conforms_continue_preparation :
    Conforms order_id (continue_preparation saga) (fun _ t => t.Settled)
      (.at_saga saga none) := by
  apply conforms_bind
  apply conforms_mono _ (conforms_preparation hstate .Origin)
  rintro answer t rfl
  apply conforms_or_compensate hstate
  intro origin
  apply conforms_bind
  apply conforms_mono _ (conforms_record_token hstate .Origin origin)
  rintro saga₁ t ⟨rfl, hstate₁, horigin, _⟩
  apply conforms_bind
  apply conforms_mono _ (conforms_preparation hstate₁ .Destination)
  rintro answer t rfl
  apply conforms_or_compensate hstate₁
  intro destination
  apply conforms_bind
  apply conforms_mono _ (conforms_record_token hstate₁ .Destination destination)
  rintro saga₂ t ⟨rfl, hstate₂, hdestination, hkept⟩
  exact conforms_commit_leg hstate₂ .Origin origin
    (conforms_commit_leg hstate₂ .Destination destination
      (conforms_finish_preparation hstate₂ (hkept .Origin horigin) hdestination))

end Preparing

/-! ## Advancing -/

theorem record_lifecycle_eq (saga : CrossChainSaga) (stage : CrossChainLifecycleStage)
    (now_unix : U64) : ∃ lifecycle, saga.record_lifecycle stage now_unix = { saga with lifecycle } := by
  unfold CrossChainSaga.record_lifecycle
  split
  · exact ⟨_, rfl⟩
  · exact ⟨saga.lifecycle, rfl⟩

/-- What follows a command that finalizes: its evidence is written. -/
theorem conforms_finalize (c : RemoteCommand) (evidence : StepEvidence)
    (stage : CrossChainLifecycleStage) (now_unix : U64) (hdue : Due saga c) :
    Conforms order_id
      (save (CrossChainSaga.record_lifecycle { saga.record c evidence with state := c.finalized }
        stage now_unix))
      (fun _ t => t.Settled) (.at_saga saga (some (c, .Finalized evidence))) := by
  obtain ⟨lifecycle, hlifecycle⟩ := record_lifecycle_eq
    { saga.record c evidence with state := c.finalized } stage now_unix
  rw [hlifecycle]
  exact conforms_save (.finalize c evidence lifecycle hdue) trivial

/-- A command after delivery, and the write of its progress. -/
theorem conforms_post_delivery (keccak256 : List UInt8 → B256) (c : RemoteCommand)
    (stage : CrossChainLifecycleStage) (now_unix : U64) (hdue : Due saga c)
    (hlate : c ≠ .Deliver) :
    Conforms order_id (do
      let progress ← command keccak256 (Handler.expected_role c) saga order_id c
      save (apply_post_delivery saga progress c.pending c.finalized stage now_unix
        fun saga evidence => saga.record c evidence))
      (fun _ t => t.Settled) (.at_saga saga none) := by
  apply conforms_bind
  apply conforms_command c hdue
  intro progress
  match progress with
  | .Pending => exact conforms_save (.pend c hdue) trivial
  | .Finalized evidence => exact conforms_finalize c evidence stage now_unix hdue
  | .Failed reason => exact conforms_save (.refuse c reason hdue hlate) trivial

theorem conforms_inspect (role : LegRole) (token : PrepareToken) (hdue : Due saga .Deliver) :
    Conforms order_id (inspect role token) (fun _ t => t = .at_saga saga none)
      (.at_saga saga none) := by
  apply conforms_request
  · simp
  · exact .remote ⟨.inr hdue, rfl⟩
  · trivial
  · exact fun _ => rfl

theorem conforms_deliver (keccak256 : List UInt8 → B256) (now_unix : U64)
    (hdue : Due saga .Deliver) :
    Conforms order_id (deliver keccak256 order_id saga now_unix) (fun _ t => t.Settled)
      (.at_saga saga none) := by
  have hsettled : (Turn.at_saga saga none).Settled := trivial
  apply conforms_bind
  refine conforms_except hsettled fun origin_token _ => ?_
  apply conforms_bind
  refine conforms_except hsettled fun destination_token _ => ?_
  apply conforms_bind
  apply conforms_mono _ (conforms_inspect .Origin origin_token hdue)
  rintro origin t rfl
  apply conforms_bind
  apply conforms_mono _ (conforms_inspect .Destination destination_token hdue)
  rintro destination t rfl
  apply conforms_bind
  refine conforms_except hsettled fun _ _ => ?_
  apply conforms_bind
  refine conforms_except hsettled fun _ _ => ?_
  apply conforms_bind
  apply conforms_command .Deliver hdue
  intro progress
  match progress with
  | .Pending => exact conforms_save (.pend .Deliver hdue) trivial
  | .Finalized evidence =>
    exact conforms_finalize .Deliver evidence .DestinationFill now_unix hdue
  | .Failed reason => exact conforms_compensate reason (.inr ⟨hdue, reason, rfl⟩)

theorem conforms_complete_cctp (keccak256 : List UInt8 → B256) (cctp : Bool) (now_unix : U64)
    (hdue : CompletionDue saga) :
    Conforms order_id (complete_cctp keccak256 cctp order_id saga now_unix)
      (fun _ t => t.Settled) (.at_saga saga none) := by
  have hsettled : (Turn.at_saga saga none).Settled := trivial
  unfold complete_cctp
  match saga.origin.bind StepEvidence.transaction_hash with
  | none => exact conforms_throw hsettled
  | some origin_transaction =>
    dsimp only
    split
    · exact conforms_throw hsettled
    · apply conforms_bind
      refine ⟨.close_step origin_transaction hdue, ?_⟩
      intro (answer : Except CctpCompletionError CctpPreparedStep) _
      match answer with
      | .ok prepared =>
        apply conforms_bind
        refine conforms_except hsettled fun token _ => ?_
        apply conforms_bind
        apply conforms_request
        · simp
        · exact .remote ⟨hdue, rfl⟩
        · exact hsettled
        intro _
        obtain ⟨lifecycle, hlifecycle⟩ := record_lifecycle_eq
          { saga with
            repayment := some (repayment_evidence keccak256 order_id saga origin_transaction
              prepared.message_id)
            state := .RepaymentPending } .Repayment now_unix
        show Conforms order_id (save _) _ _
        rw [hlifecycle]
        exact conforms_save (.complete _ lifecycle hdue) trivial
      | .error .Pending => exact conforms_pure hsettled
      | .error (.RateLimited _) => exact conforms_pure hsettled
      | .error (.Transport message) => exact hsettled
      | .error (.Invalid message) => exact conforms_save (.invalid message hdue) trivial

theorem due {c : RemoteCommand} {state : SagaState} (hstate : saga.state = state)
    (hc : state ∈ c.sent_in) (hlate : c ≠ .DispatchRepayment) : Due saga c :=
  ⟨hstate ▸ hc, fun h => absurd h hlate⟩

/-- The command of the saga's state. -/
theorem conforms_step (keccak256 : List UInt8 → B256) (cctp : Bool) (now_unix : U64) :
    Conforms order_id (step keccak256 cctp order_id saga now_unix) (fun _ t => t.Settled)
      (.at_saga saga none) := by
  unfold step
  match hstate : saga.state with
  | .Preparing => exact conforms_continue_preparation hstate
  | .Prepared =>
    exact conforms_deliver keccak256 now_unix (due hstate (by decide) (by decide))
  | .DestinationPending =>
    exact conforms_deliver keccak256 now_unix (due hstate (by decide) (by decide))
  | .DestinationFinalized =>
    exact conforms_post_delivery keccak256 .DispatchFillProof .ProofRelay now_unix
      (due hstate (by decide) (by decide)) (by decide)
  | .FillProofPending =>
    exact conforms_post_delivery keccak256 .DispatchFillProof .ProofRelay now_unix
      (due hstate (by decide) (by decide)) (by decide)
  | .OriginPending =>
    exact conforms_post_delivery keccak256 .ClaimOrigin .OriginClaim now_unix
      (due hstate (by decide) (by decide)) (by decide)
  | .OriginFinalized =>
    dsimp only
    match hroute : saga.quote.origin.route with
    | .Direct =>
      have hdue : Due saga .DispatchRepayment := ⟨by rw [hstate]; decide, fun _ => hroute⟩
      exact conforms_post_delivery keccak256 .DispatchRepayment .Repayment now_unix hdue
        (by decide)
    | .Cctp => exact conforms_complete_cctp keccak256 cctp now_unix ⟨hstate, hroute⟩
  | .RepaymentPending =>
    exact conforms_post_delivery keccak256 .CloseDestination .Complete now_unix
      (due hstate (by decide) (by decide)) (by decide)
  | .Quoted => exact conforms_pure trivial
  | .Complete => exact conforms_pure trivial
  | .FailedBeforeDelivery => exact conforms_pure trivial
  | .NeedsReconcile => exact conforms_pure trivial

theorem conforms_load {Ψ : Option CrossChainSaga → Turn → Prop}
    (habsent : Ψ none .absent)
    (hsome : ∀ saga, saga.order_id = order_id → Ψ (some saga) (.at_saga saga none)) :
    Conforms order_id (load order_id) Ψ .unread := by
  refine ⟨.load, ?_⟩
  intro (answer : Except SagaStoreError (Option CrossChainSaga)) hanswer
  match answer, hanswer with
  | .ok none, _ => exact habsent
  | .ok (some saga), hanswer => exact hsome saga (hanswer saga rfl)
  | .error e, _ => exact trivial

theorem conforms_advance (keccak256 : List UInt8 → B256) (cctp : Bool) (now_unix : U64) :
    Conforms order_id (advance keccak256 cctp order_id now_unix) (fun _ t => t.Settled)
      .unread := by
  apply conforms_bind
  apply conforms_load
  · exact conforms_throw trivial
  intro saga _
  dsimp only
  split
  case isTrue hreconcile =>
    -- The state is rebuilt from the evidence and written before the next command.
    match hevidence : reconciled saga with
    | none => exact conforms_pure trivial
    | some state =>
      apply conforms_bind
      exact conforms_update (.resume hreconcile hevidence)
        (conforms_step keccak256 cctp now_unix)
  case isFalse => exact conforms_step keccak256 cctp now_unix

/-! ## Starting -/

theorem conforms_check_terms (cctp : Bool) (quote : AggregateQuote) :
    Conforms order_id (check_terms cctp quote) (fun _ t => t = .absent) .absent := by
  unfold check_terms
  match quote.origin.route with
  | .Direct =>
    dsimp only
    split
    · exact conforms_throw trivial
    · exact conforms_pure rfl
  | .Cctp =>
    dsimp only
    split
    · exact conforms_throw trivial
    · apply conforms_bind
      refine ⟨.quote_terms _, ?_⟩
      intro (answer : Except CctpCompletionError CctpQuoteTerms) _
      match answer with
      | .error e => exact (show Turn.absent.Settled from trivial)
      | .ok current =>
        show Conforms order_id (if _ then _ else _) _ .absent
        split
        · exact conforms_throw trivial
        · exact conforms_pure rfl

theorem conforms_stage (role : LegRole) (context : StepValidationContext)
    (plan : ChainExecutionPlan) :
    Conforms order_id (request role (.stage context plan)) (fun _ t => t = .absent) .absent := by
  apply conforms_request
  · simp
  · exact .stage role context plan
  · trivial
  · exact fun _ => rfl

theorem new_saga_new (taker : Option Address) (quote : AggregateQuote) (now_unix : U64) :
    New order_id (new_saga order_id taker quote now_unix) :=
  ⟨rfl, rfl, ⟨rfl, rfl⟩, ⟨rfl, rfl, rfl, rfl⟩⟩

theorem conforms_start_with_taker (keccak256 : List UInt8 → B256) (cctp : Bool)
    (taker : Option Address) (quote : AggregateQuote)
    (origin_plan destination_plan : ChainExecutionPlan) (now_unix : U64) :
    Conforms order_id
      (start_with_taker keccak256 cctp order_id taker quote origin_plan destination_plan now_unix)
      (fun _ t => t.Settled) .unread := by
  have hsettled : Turn.absent.Settled := trivial
  apply conforms_bind
  apply conforms_load
  · apply conforms_bind
    refine conforms_except hsettled fun _ _ => ?_
    apply conforms_bind
    apply conforms_mono _ (conforms_check_terms cctp quote)
    rintro _ t rfl
    apply conforms_bind
    refine conforms_except hsettled fun _ _ => ?_
    apply conforms_bind
    refine conforms_except hsettled fun _ _ => ?_
    apply conforms_bind
    apply conforms_mono _ (conforms_stage .Origin _ origin_plan)
    rintro _ t rfl
    apply conforms_bind
    apply conforms_mono _ (conforms_stage .Destination _ destination_plan)
    rintro _ t rfl
    apply conforms_bind
    have hnew : New order_id (new_saga order_id taker quote now_unix) :=
      new_saga_new taker quote now_unix
    refine ⟨.insert hnew, ?_⟩
    intro (answer : Except SagaStoreError CrossChainSaga) hanswer
    match answer, hanswer with
    | .error e, _ => exact hsettled
    | .ok stored, hanswer =>
      obtain rfl : stored = new_saga order_id taker quote now_unix := hanswer stored rfl
      apply conforms_bind (t := .at_saga (new_saga order_id taker quote now_unix) none)
      refine conforms_except trivial ?_
      intro saga' hsaga'
      unfold CrossChainSaga.transition at hsaga'
      split at hsaga'
      · obtain rfl := Except.ok.inj hsaga'
        apply conforms_bind
        exact conforms_update (.begin_preparing hnew.state) (conforms_continue_preparation rfl)
      · cases hsaga'
  · intro existing _
    dsimp only
    split
    · exact conforms_pure trivial
    · exact conforms_throw trivial

theorem conforms_start_direct (keccak256 : List UInt8 → B256) (cctp : Bool)
    (authorization : DirectOrderAuthorization) (now_unix : U64)
    (horder : authorization.order_id = order_id) :
    Conforms order_id (start_direct keccak256 cctp authorization now_unix)
      (fun _ t => t.Settled) .unread := by
  apply conforms_bind
  refine ⟨.author_direct authorization, ?_⟩
  intro (answer : Except RemoteSolventError DirectExecutionPlans) _
  match answer with
  | .ok plans =>
    rw [← horder]
    exact conforms_start_with_taker keccak256 cctp _ _ _ _ now_unix
  | .error e => exact (show Turn.unread.Settled from trivial)

end Proxy

/-- **Every call of the proxy keeps to the protocol of its order.** -/
theorem ProxyCall.conforms (keccak256 : List UInt8 → B256) (cctp : Bool)
    (order_id : CrossChainOrderId) (c : ProxyCall) :
    Proxy.Conforms order_id (c.program keccak256 cctp order_id) (fun _ t => t.Settled)
      .unread := by
  match c with
  | .start taker quote origin_plan destination_plan now_unix =>
    exact Proxy.conforms_start_with_taker keccak256 cctp taker quote origin_plan
      destination_plan now_unix
  | .start_direct authorization now_unix =>
    exact Proxy.conforms_start_direct keccak256 cctp _ now_unix rfl
  | .advance now_unix => exact Proxy.conforms_advance keccak256 cctp now_unix

end Solvent
