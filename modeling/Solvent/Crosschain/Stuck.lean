import Mathlib
import Solvent.Crosschain.Evidence

/-! # Orders an advance cannot move

    A crash can leave any prefix of a call's writes. Here the next advance runs
    with every request answered with success, and the stored saga moves exactly
    when `Continuable` says so: not from `Quoted`, and not past a preparation that
    is no longer committed.
-/

namespace Solvent

open Interleave

/-! ## Running a call on the store -/

/-- A call that runs alone, each query answered from `answers`. -/
def perform {α : Type} (answers : ProxyQuery → ProxyReads) (x : Proxy α)
    (sagas : SqliteSagaStore) : Except SolventError α × SqliteSagaStore :=
  x.run.run (fun q s => ProxyWorld.respond (answers q) q s) sagas

section Perform

variable {α β : Type} {answers : ProxyQuery → ProxyReads} {sagas : SqliteSagaStore}

theorem perform_bind (x : Proxy α) (f : α → Proxy β) :
    perform answers (x >>= f) sagas =
      Program.thread (perform answers x sagas) fun a s => perform answers (f a) s :=
  Program.run_except_bind _ x f sagas

@[simp] theorem perform_pure (a : α) : perform answers (pure a) sagas = (.ok a, sagas) := rfl

@[simp] theorem perform_throw (e : SolventError) :
    perform answers (throw e : Proxy α) sagas = (.error e, sagas) := rfl

@[simp] theorem perform_except (x : Except SolventError α) :
    perform answers (ExceptT.mk (pure x)) sagas = (x, sagas) := rfl

@[simp] theorem perform_remote (role : LegRole) (r : RemoteRequest) :
    perform answers (Proxy.remote role r) sagas =
      (.ok ((answers (.remote role r)).remote r), sagas) := rfl

@[simp] theorem perform_request (role : LegRole) (r : RemoteRequest) :
    perform answers (Proxy.request role r) sagas =
      (((answers (.remote role r)).remote r).mapError .RemoteSolvent, sagas) := rfl

theorem perform_update {saga stored : CrossChainSaga}
    (hstored : sagas.load saga.order_id = some stored) :
    perform answers (Proxy.update saga) sagas =
      (.ok (), sagas.insert saga.order_id saga) := by
  have hrespond : ProxyWorld.respond (answers (.update saga)) (.update saga) sagas =
      (.ok (), sagas.insert saga.order_id saga) := ProxyWorld.respond_update hstored
  show (((ProxyWorld.respond (answers (.update saga)) (.update saga) sagas).1).mapError
    SolventError.SagaStore, (ProxyWorld.respond (answers (.update saga)) (.update saga) sagas).2) = _
  rw [hrespond]
  rfl

theorem perform_save {saga stored : CrossChainSaga}
    (hstored : sagas.load saga.order_id = some stored) :
    perform answers (Proxy.save saga) sagas =
      (.ok saga, sagas.insert saga.order_id saga) := by
  unfold Proxy.save
  rw [perform_bind, perform_update hstored]
  rfl

end Perform

/-! ## Success -/

/-- Everything the proxy asks is answered with success. -/
structure Succeeds (answers : ProxyQuery → ProxyReads) : Prop where
  readable : ∀ q, (answers q).unreadable = false
  remote : ∀ q r, ∃ reply, (answers q).remote r = .ok reply
  final : ∀ q id command_id c token,
    ∃ evidence, (answers q).remote (.command id command_id c token) = .ok (.Finalized evidence)
  close_step : ∀ q, ∃ prepared, (answers q).close_step = .ok prepared

/-- The service of the role says that the preparation of the saga is committed. -/
def Confirmed (answers : ProxyQuery → ProxyReads) (saga : CrossChainSaga) (role : LegRole) :
    Prop :=
  ∀ token ∈ saga.prepared role, ∀ p,
    (answers (.remote role (.inspect token))).remote (.inspect token) = .ok p →
      Proxy.confirms saga p role

/-- The sagas that the next advance moves. -/
def Continuable (cctp : Bool) (answers : ProxyQuery → ProxyReads) (saga : CrossChainSaga) :
    Prop :=
  match saga.state with
  | .Quoted => False
  | .Prepared | .DestinationPending => Confirmed answers saga .Origin ∧
      Confirmed answers saga .Destination
  | .OriginFinalized => saga.quote.origin.route = .Cctp →
      cctp ∧ (saga.origin.bind StepEvidence.transaction_hash).isSome
  | _ => True

/-- The state or a piece of evidence changed. -/
def Changed (saga saga' : CrossChainSaga) : Prop :=
  saga'.state ≠ saga.state ∨ saga'.destination ≠ saga.destination ∨
    saga'.fill_proof ≠ saga.fill_proof ∨ saga'.origin ≠ saga.origin ∨
    saga'.repayment ≠ saga.repayment

/-- The row of the order has left the state, and does not need reconciling. -/
def Left (order_id : CrossChainOrderId) (state : SagaState) (sagas : SqliteSagaStore) : Prop :=
  ∃ saga', sagas.load order_id = some saga' ∧ saga'.state ≠ state ∧
    saga'.state ≠ .NeedsReconcile

section Advance

variable {keccak256 : List UInt8 → B256} {cctp : Bool} {order_id : CrossChainOrderId}
variable {answers : ProxyQuery → ProxyReads} {sagas : SqliteSagaStore} {saga : CrossChainSaga}
variable {now_unix : U64} {state : SagaState}

/-- A saga written in another state. -/
theorem left_save {saga' : CrossChainSaga} (hid : saga'.order_id = order_id)
    (hrow : sagas.load order_id = some saga) (hstate : saga'.state ≠ state)
    (hreconciled : saga'.state ≠ .NeedsReconcile) :
    Left order_id state (perform answers (Proxy.save saga') sagas).2 := by
  rw [perform_save (by rw [hid]; exact hrow)]
  refine ⟨saga', ?_, hstate, hreconciled⟩
  rw [ProxyWorld.load_insert, if_pos hid]

/-- A command that is answered with success. -/
theorem perform_command (keccak256 : List UInt8 → B256) (order_id : CrossChainOrderId)
    (sagas : SqliteSagaStore) (hsucceeds : Succeeds answers) (role : LegRole) (c : RemoteCommand)
    (htoken : (saga.prepared role).isSome) :
    ∃ evidence, perform answers (Proxy.command keccak256 role saga order_id c) sagas =
      (.ok (.Finalized evidence), sagas) := by
  obtain ⟨token, htoken⟩ := Option.isSome_iff_exists.mp htoken
  obtain ⟨evidence, hfinal⟩ := hsucceeds.final (.remote role (.command order_id
    (step_id keccak256 order_id (saga.quote.leg role).local_chain c) c token)) order_id
    (step_id keccak256 order_id (saga.quote.leg role).local_chain c) c token
  refine ⟨evidence, ?_⟩
  let ask : PrepareToken → Proxy RemoteProgress := fun token =>
    Proxy.request role (.command order_id
      (step_id keccak256 order_id (saga.quote.leg role).local_chain c) c token)
  have hask : perform answers (ask token) sagas = (.ok (.Finalized evidence), sagas) := by
    show (((answers _).remote _).mapError SolventError.RemoteSolvent, sagas) = _
    rw [hfinal]
    rfl
  calc perform answers (Proxy.command keccak256 role saga order_id c) sagas
      = Program.thread (perform answers
          (ExceptT.mk (pure (Proxy.required_token (saga.prepared role)))) sagas)
          fun token s => perform answers (ask token) s := perform_bind _ ask
    _ = perform answers (ask token) sagas := by
        rw [htoken]
        rfl
    _ = (.ok (.Finalized evidence), sagas) := hask

theorem perform_release (hsucceeds : Succeeds answers) (role : LegRole) :
    perform answers (Proxy.release role saga) sagas = (.ok none, sagas) := by
  unfold Proxy.release
  match saga.prepared role with
  | none => rfl
  | some token =>
    obtain ⟨p, hp⟩ := hsucceeds.remote (.remote role (.release token)) (.release token)
    dsimp only
    rw [perform_bind, perform_remote, hp]
    rfl

/-- Both releases succeed, and the order fails. -/
theorem left_compensate (hsucceeds : Succeeds answers) (hid : saga.order_id = order_id)
    (hrow : sagas.load order_id = some saga) (reason : String)
    (hpermits : saga.state.permits .FailedBeforeDelivery)
    (hstate : state ≠ .FailedBeforeDelivery) :
    Left order_id state (perform answers (Proxy.compensate saga reason) sagas).2 := by
  unfold Proxy.compensate
  rw [perform_bind, perform_release hsucceeds, Program.thread_ok, perform_bind,
    perform_release hsucceeds, Program.thread_ok]
  show Left order_id state (perform answers (_ >>= _) sagas).2
  rw [perform_bind, perform_except]
  unfold CrossChainSaga.transition
  rw [if_pos (by exact hpermits), Program.thread_ok]
  exact left_save hid hrow (Ne.symm hstate) (by simp)

/-! ### Preparation -/

theorem perform_preparation (hsucceeds : Succeeds answers) (saga : CrossChainSaga)
    (sagas : SqliteSagaStore) (role : LegRole) :
    ∃ p, perform answers (Proxy.preparation role saga) sagas = (.ok (.ok p), sagas) := by
  unfold Proxy.preparation
  match saga.prepared role with
  | some token =>
    obtain ⟨p, hp⟩ := hsucceeds.remote (.remote role (.inspect token)) (.inspect token)
    exact ⟨p, congrArg (fun answer => (Except.ok answer, sagas)) hp⟩
  | none =>
    obtain ⟨p, hp⟩ := hsucceeds.remote
      (.remote role (.prepare saga.quote.id (saga.quote.leg role)))
      (.prepare saga.quote.id (saga.quote.leg role))
    exact ⟨p, congrArg (fun answer => (Except.ok answer, sagas)) hp⟩

theorem perform_record_token (answers : ProxyQuery → ProxyReads) (hid : saga.order_id = order_id)
    (hrow : sagas.load order_id = some saga) (role : LegRole) (p : Preparation) :
    ∃ saga' sagas', perform answers (Proxy.record_token role saga p) sagas = (.ok saga', sagas') ∧
      saga'.order_id = order_id ∧ saga'.state = saga.state ∧
      sagas'.load order_id = some saga' := by
  unfold Proxy.record_token
  split
  · have hid' : (Proxy.set_prepared saga role p.token).order_id = order_id := by
      cases role <;> exact hid
    refine ⟨_, _, perform_save (by rw [hid']; exact hrow), hid', ?_, ?_⟩
    · cases role <;> rfl
    · rw [ProxyWorld.load_insert, if_pos hid']
  · exact ⟨saga, sagas, rfl, hid, rfl, hrow⟩

theorem left_commit_leg (hsucceeds : Succeeds answers) (hid : saga.order_id = order_id)
    (hrow : sagas.load order_id = some saga) (hstate : saga.state = .Preparing) (role : LegRole)
    (p : Preparation) {k : Proxy CrossChainSaga}
    (hk : Left order_id .Preparing (perform answers k sagas).2) :
    Left order_id .Preparing (perform answers (Proxy.commit_leg role saga p k) sagas).2 := by
  have hcompensate : ∀ reason, Left order_id .Preparing
      (perform answers (Proxy.compensate saga reason) sagas).2 :=
    fun reason => left_compensate hsucceeds hid hrow reason (by rw [hstate]; rfl) (by decide)
  have hcheck : ∀ q : Preparation, Left order_id .Preparing (perform answers
      (if Proxy.confirms saga q role then k
        else Proxy.compensate saga (Proxy.InvalidCrossChain_text Proxy.unconfirmed)) sagas).2 := by
    intro q
    split
    · exact hk
    · exact hcompensate _
  unfold Proxy.commit_leg
  match p.state with
  | .Prepared =>
    obtain ⟨q, hq⟩ := hsucceeds.remote (.remote role (.commit p.token)) (.commit p.token)
    dsimp only
    rw [perform_bind, perform_remote, hq]
    exact hcheck q
  | .Committed => exact hcheck p
  | .Executed | .Released => exact hcompensate _

/-- **A preparation that is answered ends**: both legs are committed, or both are
    released. -/
theorem left_continue_preparation (hsucceeds : Succeeds answers) (hid : saga.order_id = order_id)
    (hrow : sagas.load order_id = some saga) (hstate : saga.state = .Preparing) :
    Left order_id .Preparing (perform answers (Proxy.continue_preparation saga) sagas).2 := by
  obtain ⟨origin, horigin⟩ := perform_preparation hsucceeds saga sagas .Origin
  unfold Proxy.continue_preparation
  rw [perform_bind, horigin]
  show Left order_id .Preparing (perform answers (_ >>= _) sagas).2
  obtain ⟨saga₁, sagas₁, hrecord₁, hid₁, hstate₁, hrow₁⟩ :=
    perform_record_token answers hid hrow .Origin origin
  obtain ⟨destination, hdestination⟩ :=
    perform_preparation hsucceeds saga₁ sagas₁ .Destination
  rw [perform_bind, hrecord₁, Program.thread_ok, perform_bind, hdestination]
  show Left order_id .Preparing (perform answers (_ >>= _) sagas₁).2
  obtain ⟨saga₂, sagas₂, hrecord₂, hid₂, hstate₂, hrow₂⟩ :=
    perform_record_token answers hid₁ hrow₁ .Destination destination
  rw [perform_bind, hrecord₂, Program.thread_ok]
  have hpreparing : saga₂.state = .Preparing := by rw [hstate₂, hstate₁, hstate]
  apply left_commit_leg hsucceeds hid₂ hrow₂ hpreparing
  apply left_commit_leg hsucceeds hid₂ hrow₂ hpreparing
  unfold Proxy.finish_preparation
  rw [perform_bind, perform_except]
  unfold CrossChainSaga.transition
  rw [if_pos (by rw [hpreparing]; rfl), Program.thread_ok]
  exact left_save hid₂ hrow₂ (by simp) (by simp)

/-! ### Commands -/

/-- A command after delivery that is answered moves the saga on. -/
theorem left_post_delivery (hsucceeds : Succeeds answers) (hid : saga.order_id = order_id)
    (hrow : sagas.load order_id = some saga) (role : LegRole) (c : RemoteCommand)
    (htoken : (saga.prepared role).isSome) (pending finalized : SagaState)
    (stage : CrossChainLifecycleStage) (record : CrossChainSaga → StepEvidence → CrossChainSaga)
    (hrecord : ∀ evidence, (record saga evidence).order_id = saga.order_id)
    (hstate : finalized ≠ state) (hreconciled : finalized ≠ .NeedsReconcile) :
    Left order_id state (perform answers (do
      let progress ← Proxy.command keccak256 role saga order_id c
      Proxy.save (Proxy.apply_post_delivery saga progress pending finalized stage now_unix record))
      sagas).2 := by
  obtain ⟨evidence, hcommand⟩ := perform_command keccak256 order_id sagas hsucceeds role c htoken
  rw [perform_bind, hcommand, Program.thread_ok]
  obtain ⟨lifecycle, hlifecycle⟩ := Proxy.record_lifecycle_eq
    { record saga evidence with state := finalized } stage now_unix
  show Left order_id state (perform answers (Proxy.save (CrossChainSaga.record_lifecycle
    { record saga evidence with state := finalized } stage now_unix)) sagas).2
  rw [hlifecycle]
  exact left_save ((hrecord evidence).trans hid) hrow hstate hreconciled

theorem perform_inspect (sagas : SqliteSagaStore) (hsucceeds : Succeeds answers) (role : LegRole) (token : PrepareToken) :
    ∃ p : Preparation, (answers (.remote role (.inspect token))).remote (.inspect token) = .ok p ∧
      perform answers (Proxy.inspect role token) sagas = (.ok p, sagas) := by
  obtain ⟨p, hp⟩ := hsucceeds.remote (.remote role (.inspect token)) (.inspect token)
  refine ⟨p, hp, ?_⟩
  show (((answers _).remote _).mapError SolventError.RemoteSolvent, sagas) = _
  rw [hp]
  rfl

/-- **The delivery** moves a saga whose preparations are both committed, and no
    other. -/
theorem deliver_left (hsucceeds : Succeeds answers) (hid : saga.order_id = order_id)
    (hrow : sagas.load order_id = some saga) (horigin : saga.origin_prepare.isSome)
    (hdestination : saga.destination_prepare.isSome)
    (hstate : state ≠ .DestinationFinalized) :
    (Confirmed answers saga .Origin ∧ Confirmed answers saga .Destination →
      Left order_id state
        (perform answers (Proxy.deliver keccak256 order_id saga now_unix) sagas).2) ∧
    (¬ (Confirmed answers saga .Origin ∧ Confirmed answers saga .Destination) →
      (perform answers (Proxy.deliver keccak256 order_id saga now_unix) sagas).2 = sagas) := by
  obtain ⟨origin_token, horigin⟩ := Option.isSome_iff_exists.mp horigin
  obtain ⟨destination_token, hdestination⟩ := Option.isSome_iff_exists.mp hdestination
  obtain ⟨origin, horigin_read, horigin_inspect⟩ :=
    perform_inspect sagas hsucceeds .Origin origin_token
  obtain ⟨destination, hdestination_read, hdestination_inspect⟩ :=
    perform_inspect sagas hsucceeds .Destination destination_token
  have hconfirmed : ∀ role token p, saga.prepared role = some token →
      (answers (.remote role (.inspect token))).remote (.inspect token) = .ok p →
      (Confirmed answers saga role ↔ Proxy.confirms saga p role) := by
    intro role token p htoken hread
    constructor
    · intro h
      exact h token htoken p hread
    · intro h token' htoken' p' hread'
      obtain rfl : token = token' := by
        rw [htoken] at htoken'
        exact Option.some.inj htoken'
      have hsame : (.ok p : Except RemoteSolventError Preparation) = .ok p' := hread.symm.trans hread'
      obtain rfl := Except.ok.inj hsame
      exact h
  rw [hconfirmed .Origin origin_token origin horigin horigin_read,
    hconfirmed .Destination destination_token destination hdestination hdestination_read]
  have hvalidate : ∀ p role, Proxy.validate_committed saga p role =
      if Proxy.confirms saga p role then .ok () else .error (.InvalidCrossChain Proxy.unconfirmed) :=
    fun _ _ => rfl
  have horigin_required : Proxy.required_token saga.origin_prepare = .ok origin_token := by
    rw [horigin]
    rfl
  have hdestination_required :
      Proxy.required_token saga.destination_prepare = .ok destination_token := by
    rw [hdestination]
    rfl
  obtain ⟨evidence, hcommand⟩ := perform_command keccak256 order_id sagas hsucceeds .Destination
    .Deliver (Option.isSome_iff_exists.mpr ⟨destination_token, hdestination⟩)
  unfold Proxy.deliver
  rw [perform_bind, perform_except, horigin_required, Program.thread_ok, perform_bind,
    perform_except, hdestination_required, Program.thread_ok, perform_bind, horigin_inspect,
    Program.thread_ok, perform_bind, hdestination_inspect, Program.thread_ok, perform_bind,
    perform_except, hvalidate]
  by_cases horigin_confirms : Proxy.confirms saga origin .Origin
  · rw [if_pos horigin_confirms, Program.thread_ok, perform_bind, perform_except, hvalidate]
    by_cases hdestination_confirms : Proxy.confirms saga destination .Destination
    · rw [if_pos hdestination_confirms, Program.thread_ok, perform_bind, hcommand,
        Program.thread_ok]
      refine ⟨fun _ => ?_, fun h => absurd ⟨horigin_confirms, hdestination_confirms⟩ h⟩
      obtain ⟨lifecycle, hlifecycle⟩ := Proxy.record_lifecycle_eq
        { saga with destination := some evidence, state := .DestinationFinalized }
        .DestinationFill now_unix
      show Left order_id state (perform answers (Proxy.save (CrossChainSaga.record_lifecycle
        { saga with destination := some evidence, state := .DestinationFinalized }
        .DestinationFill now_unix)) sagas).2
      rw [hlifecycle]
      exact left_save hid hrow (Ne.symm hstate) (by simp)
    · rw [if_neg hdestination_confirms]
      exact ⟨fun h => absurd h.2 hdestination_confirms, fun _ => rfl⟩
  · rw [if_neg horigin_confirms]
    exact ⟨fun h => absurd h.1 horigin_confirms, fun _ => rfl⟩

/-- **The completion of a CCTP order** moves a saga whose burn has a transaction. -/
theorem complete_cctp_left (keccak256 : List UInt8 → B256) (cctp : Bool) (now_unix : U64)
    (hsucceeds : Succeeds answers) (hid : saga.order_id = order_id)
    (hrow : sagas.load order_id = some saga) (hdestination : saga.destination_prepare.isSome)
    (hstate : state ≠ .RepaymentPending) :
    (cctp ∧ (saga.origin.bind StepEvidence.transaction_hash).isSome →
      Left order_id state
        (perform answers (Proxy.complete_cctp keccak256 cctp order_id saga now_unix) sagas).2) ∧
    (¬ (cctp ∧ (saga.origin.bind StepEvidence.transaction_hash).isSome) →
      (perform answers (Proxy.complete_cctp keccak256 cctp order_id saga now_unix) sagas).2 =
        sagas) := by
  unfold Proxy.complete_cctp
  cases hburn : saga.origin.bind StepEvidence.transaction_hash with
  | none =>
    refine ⟨?_, fun _ => rfl⟩
    rintro ⟨_, hsome⟩
    cases hsome
  | some origin_transaction =>
    by_cases hcctp : cctp
    · refine ⟨fun _ => ?_, fun h => absurd ⟨hcctp, rfl⟩ h⟩
      obtain ⟨prepared, hprepared⟩ := hsucceeds.close_step (.close_step order_id origin_transaction)
      obtain ⟨token, htoken⟩ := Option.isSome_iff_exists.mp hdestination
      have hrequired : Proxy.required_token saga.destination_prepare = .ok token := by
        rw [htoken]
        rfl
      have hstage : perform answers (Proxy.stage_cctp_completion order_id saga prepared.step token)
          sagas = (.ok (), sagas) := by
        obtain ⟨reply, hreply⟩ := hsucceeds.remote (.remote .Destination (.stage_cctp_completion
          { order_id, quote := saga.quote, role := .Destination }
          { aggregate_id := saga.quote.id, chain_id := saga.quote.destination.local_chain,
            steps := [prepared.step] } token)) (.stage_cctp_completion
          { order_id, quote := saga.quote, role := .Destination }
          { aggregate_id := saga.quote.id, chain_id := saga.quote.destination.local_chain,
            steps := [prepared.step] } token)
        show (((answers _).remote _).mapError SolventError.RemoteSolvent, sagas) = _
        rw [hreply]
        rfl
      dsimp only
      rw [if_neg (by simpa using hcctp), perform_bind]
      have hclose : perform answers (ExceptT.lift (Proxy.ask (.close_step order_id origin_transaction)) :
          Proxy (Except CctpCompletionError CctpPreparedStep)) sagas =
          (.ok (.ok prepared), sagas) := by
        show (Except.ok (answers (.close_step order_id origin_transaction)).close_step, sagas) = _
        rw [hprepared]
      rw [hclose, Program.thread_ok]
      show Left order_id state (perform answers (_ >>= _) sagas).2
      rw [perform_bind, perform_except, hrequired, Program.thread_ok, perform_bind, hstage,
        Program.thread_ok]
      obtain ⟨lifecycle, hlifecycle⟩ := Proxy.record_lifecycle_eq
        { saga with
          repayment := some (Proxy.repayment_evidence keccak256 order_id saga origin_transaction
            prepared.message_id)
          state := .RepaymentPending } .Repayment now_unix
      rw [hlifecycle]
      exact left_save hid hrow (Ne.symm hstate) (by simp)
    · refine ⟨fun h => absurd h.1 hcctp, fun _ => ?_⟩
      dsimp only
      rw [if_pos hcctp]
      rfl

/-! ### One advance -/

/-- **A step that is answered** moves a saga that is continuable, and leaves any
    other as it is. -/
theorem step_left (keccak256 : List UInt8 → B256) (cctp : Bool) (now_unix : U64)
    (hsucceeds : Succeeds answers) (hevidenced : Evidenced saga)
    (hid : saga.order_id = order_id) (hrow : sagas.load order_id = some saga)
    (hopen : saga.state ∉ SagaState.terminal) (hreconciled : saga.state ≠ .NeedsReconcile) :
    (Continuable cctp answers saga → Left order_id saga.state
      (perform answers (Proxy.step keccak256 cctp order_id saga now_unix) sagas).2) ∧
    (¬ Continuable cctp answers saga →
      (perform answers (Proxy.step keccak256 cctp order_id saga now_unix) sagas).2 = sagas) := by
  have htokens := hevidenced.tokens
  unfold Proxy.step Continuable
  match hstate : saga.state with
  | .Quoted => exact ⟨fun h => h.elim, fun _ => rfl⟩
  | .Preparing =>
    exact ⟨fun _ => left_continue_preparation hsucceeds hid hrow hstate, fun h => absurd trivial h⟩
  | .Prepared | .DestinationPending =>
    obtain ⟨horigin, hdestination⟩ := htokens (by rw [hstate]; decide)
    exact deliver_left hsucceeds hid hrow horigin hdestination (by decide)
  | .DestinationFinalized | .FillProofPending =>
    obtain ⟨_, hdestination⟩ := htokens (by rw [hstate]; decide)
    exact ⟨fun _ => left_post_delivery hsucceeds hid hrow .Destination .DispatchFillProof
      hdestination _ _ _ _ (fun _ => rfl) (by decide) (by decide), fun h => absurd trivial h⟩
  | .OriginPending =>
    obtain ⟨horigin, _⟩ := htokens (by rw [hstate]; decide)
    exact ⟨fun _ => left_post_delivery hsucceeds hid hrow .Origin .ClaimOrigin
      horigin _ _ _ _ (fun _ => rfl) (by decide) (by decide), fun h => absurd trivial h⟩
  | .OriginFinalized =>
    obtain ⟨horigin, hdestination⟩ := htokens (by rw [hstate]; decide)
    dsimp only
    match hroute : saga.quote.origin.route with
    | .Direct =>
      refine ⟨fun _ => left_post_delivery hsucceeds hid hrow .Origin .DispatchRepayment
        horigin _ _ _ _ (fun _ => rfl) (by decide) (by decide), fun h => ?_⟩
      exact absurd (fun hcctp => nomatch hcctp) h
    | .Cctp =>
      have hcompletes := complete_cctp_left keccak256 cctp now_unix hsucceeds hid hrow
        hdestination (show SagaState.OriginFinalized ≠ .RepaymentPending by decide)
      exact ⟨fun h => hcompletes.1 (h rfl), fun h => hcompletes.2 (fun hcctp => h fun _ => hcctp)⟩
  | .RepaymentPending =>
    obtain ⟨_, hdestination⟩ := htokens (by rw [hstate]; decide)
    exact ⟨fun _ => left_post_delivery hsucceeds hid hrow .Destination .CloseDestination
      hdestination _ _ _ _ (fun _ => rfl) (by decide) (by decide), fun h => absurd trivial h⟩
  | .Complete | .FailedBeforeDelivery => exact absurd (by rw [hstate]; decide) hopen
  | .NeedsReconcile => exact absurd hstate hreconciled

theorem perform_load (hsucceeds : Succeeds answers) :
    perform answers (Proxy.load order_id) sagas = (.ok (sagas.load order_id), sagas) := by
  have hreadable := hsucceeds.readable (.load order_id)
  have hrespond : ProxyWorld.respond (answers (.load order_id)) (.load order_id) sagas =
      (.ok (sagas.load order_id), sagas) := by
    simp only [ProxyWorld.respond, hreadable, Bool.false_eq_true, if_false]
  show ((ProxyWorld.respond (answers (.load order_id)) (.load order_id) sagas).1.mapError
    SolventError.SagaStore, (ProxyWorld.respond _ (.load order_id) sagas).2) = _
  rw [hrespond]
  rfl

/-- What `Proxy.advance` does with the row it loaded. -/
def advance_loaded (keccak256 : List UInt8 → B256) (cctp : Bool) (order_id : CrossChainOrderId)
    (saga : CrossChainSaga) (now_unix : U64) : Proxy CrossChainSaga :=
  if saga.state = .NeedsReconcile then
    match Proxy.reconciled saga with
    | none => pure saga
    | some state => do
      Proxy.update { saga with state }
      Proxy.step keccak256 cctp order_id { saga with state } now_unix
  else Proxy.step keccak256 cctp order_id saga now_unix

/-- **An advance that is answered** changes the stored saga exactly when it is
    continuable. -/
theorem advance_changes_iff (keccak256 : List UInt8 → B256) (cctp : Bool) (now_unix : U64)
    (hsucceeds : Succeeds answers) (hevidenced : Evidenced saga) (hid : saga.order_id = order_id)
    (hrow : sagas.load order_id = some saga) (hopen : saga.state ∉ SagaState.terminal) :
    (∃ saga', (perform answers (Proxy.advance keccak256 cctp order_id now_unix) sagas).2.load
      order_id = some saga' ∧ Changed saga saga') ↔ Continuable cctp answers saga := by
  have hadvance : perform answers (Proxy.advance keccak256 cctp order_id now_unix) sagas =
      perform answers (advance_loaded keccak256 cctp order_id saga now_unix) sagas := by
    unfold Proxy.advance
    rw [perform_bind, perform_load hsucceeds, hrow]
    rfl
  rw [hadvance, advance_loaded]
  by_cases hreconcile : saga.state = .NeedsReconcile
  · -- There is evidence to resume by, and the resumed state is written first.
    have hcontinuable : Continuable cctp answers saga := by
      unfold Continuable
      rw [hreconcile]
      trivial
    have hshows := hevidenced.state
    rw [hreconcile] at hshows
    have hdestination : saga.destination.isSome := hshows
    obtain ⟨state, hstate⟩ : ∃ state, Proxy.reconciled saga = some state := by
      unfold Proxy.reconciled
      split_ifs
      all_goals exact ⟨_, rfl⟩
    have hresumed : state ∉ SagaState.terminal ∧ state ≠ .NeedsReconcile := by
      unfold Proxy.reconciled at hstate
      split_ifs at hstate
      all_goals
        obtain rfl := Option.some.inj hstate
        decide
    rw [if_pos hreconcile, hstate]
    refine ⟨fun _ => hcontinuable, fun _ => ?_⟩
    show ∃ saga', (perform answers (_ >>= _) sagas).2.load order_id = some saga' ∧ _
    rw [perform_bind, perform_update (by exact hid.symm ▸ hrow), Program.thread_ok]
    have hrow' : SqliteSagaStore.load
        (sagas.insert saga.order_id { saga with state }) order_id = some { saga with state } := by
      exact (ProxyWorld.load_insert sagas { saga with state } order_id).trans (if_pos hid)
    obtain ⟨hmoves, hstays⟩ := step_left keccak256 cctp now_unix hsucceeds
      (hevidenced.write (.resume hreconcile hstate)) hid hrow' hresumed.1 hresumed.2
    have hchanged : ∀ saga' : CrossChainSaga, saga'.state ≠ .NeedsReconcile →
        Changed saga saga' := by
      intro saga' h
      left
      rw [hreconcile]
      exact h
    by_cases hcontinues : Continuable cctp answers { saga with state }
    · obtain ⟨saga', hsaga', _, hleft⟩ := hmoves hcontinues
      exact ⟨saga', hsaga', hchanged saga' hleft⟩
    · refine ⟨{ saga with state }, ?_, hchanged _ hresumed.2⟩
      show SqliteSagaStore.load (perform answers (Proxy.step keccak256 cctp order_id
        { saga with state } now_unix) (sagas.insert saga.order_id { saga with state })).2 _ = _
      rw [hstays hcontinues]
      exact hrow'
  · rw [if_neg hreconcile]
    obtain ⟨hmoves, hstays⟩ := step_left keccak256 cctp now_unix hsucceeds hevidenced hid hrow
      hopen hreconcile
    constructor
    · rintro ⟨saga', hsaga', hchanged⟩
      by_contra hcontinuable
      rw [hstays hcontinuable, hrow] at hsaga'
      obtain rfl := Option.some.inj hsaga'
      simp [Changed] at hchanged
    · intro hcontinuable
      obtain ⟨saga', hsaga', hleft, _⟩ := hmoves hcontinuable
      exact ⟨saga', hsaga', .inl hleft⟩

end Advance

/-- **No stored saga is stuck** exactly where it is continuable: in every run of
    calls cut short anywhere, for every saga that is not at an end. -/
theorem recoverable_saga_moves_iff (keccak256 : List UInt8 → B256) (cctp : Bool)
    (order_id : CrossChainOrderId) (sagas : SqliteSagaStore) (hnew : sagas.load order_id = none)
    (actions : List (Action ProxyCall ProxyReads Unit CrossChainSaga))
    (horderly : Run.Along (ProxyWorld.machine keccak256 cctp order_id).next
      (ProxyWorld.OneByOne True) (Machine.initial (ProxyWorld.before sagas)) actions)
    (saga : CrossChainSaga)
    (hrow : (Run.run (ProxyWorld.machine keccak256 cctp order_id).next
      (Machine.initial (ProxyWorld.before sagas)) actions).shared.sagas.load order_id = some saga)
    (hrecoverable : saga.state ∉ SagaState.terminal) (answers : ProxyQuery → ProxyReads)
    (hsucceeds : Succeeds answers) (now_unix : U64) :
    let w := (Run.run (ProxyWorld.machine keccak256 cctp order_id).next
      (Machine.initial (ProxyWorld.before sagas)) actions).shared
    (∃ saga', (perform answers (Proxy.advance keccak256 cctp order_id now_unix) w.sagas).2.load
      order_id = some saga' ∧ Changed saga saga') ↔ Continuable cctp answers saga := by
  have hlinked := linked_run keccak256 cctp hnew horderly
  obtain ⟨hevidenced, hid⟩ := hlinked.evidenced saga (hlinked.row_mem hrow)
  exact advance_changes_iff keccak256 cctp now_unix hsucceeds hevidenced hid hrow hrecoverable

namespace ProxyWorld

open CrossChainWorld LocalCrossChainService

/-- Everything succeeds, and the services report what is committed. -/
def sample_success : ProxyQuery → ProxyReads := fun _ =>
  { sample_answers (sample_finality 9) with
    close_step := .ok
      { step := { command := .CloseDestination, target := 77, value := 0, calldata := [] }
        message_id := 8 } }

theorem sample_success_succeeds : Succeeds sample_success where
  readable := fun _ => rfl
  remote := by
    intro q r
    match r with
    | .stage _ _ | .stage_cctp_completion _ _ _ | .prepare _ _ | .commit _ | .inspect _
    | .release _ | .command _ _ _ _ => exact ⟨_, rfl⟩
  final := fun _ _ _ _ _ => ⟨_, rfl⟩
  close_step := fun _ => ⟨_, rfl⟩

def sample_new_saga : CrossChainSaga := Proxy.new_saga sample_order none sample_quote 10

def sample_prepared_saga : CrossChainSaga :=
  { sample_new_saga with
    state := .Prepared
    origin_prepare := some ⟨1⟩
    destination_prepare := some ⟨2⟩ }

/-- The proxy crashes after it has inserted the saga. -/
def crashed_start_actions : List ProxyAction :=
  .start (.start none sample_quote (sample_plan .Origin) (sample_plan .Destination) 10) ::
    List.replicate 4 (.access 0 (sample_answers .Pending)) ++ [.crash ()]

/-- The crash leaves the saga in `Quoted`, which no advance moves. -/
theorem quoted_order_is_stuck :
    Run.Along (machine sample_hash false sample_order).next (OneByOne True)
      (Machine.initial (before ∅)) crashed_start_actions ∧
    (sample_proxy_run crashed_start_actions).sagas.load sample_order = some sample_new_saga ∧
    sample_new_saga.state ∉ SagaState.terminal ∧ Succeeds sample_success ∧
    ¬ ∃ saga', (perform sample_success (Proxy.advance sample_hash false sample_order 20)
      (sample_proxy_run crashed_start_actions).sagas).2.load sample_order = some saga' ∧
        Changed sample_new_saga saga' := by
  have hrow : (sample_proxy_run crashed_start_actions).sagas.load sample_order =
      some sample_new_saga := by
    decide +kernel
  have hnew : New sample_order sample_new_saga := Proxy.new_saga_new none sample_quote 10
  refine ⟨by decide +kernel, hrow, by decide, sample_success_succeeds, ?_⟩
  rw [advance_changes_iff sample_hash false 20 sample_success_succeeds hnew.evidenced
    hnew.order_id hrow (by decide)]
  exact fun h => h

theorem started_in_turn :
    Run.Along (machine sample_hash false sample_order).next (OneByOne True)
      (Machine.initial (before ∅)) sample_started := by
  decide +kernel

theorem started_row :
    (sample_proxy_run sample_started).sagas.load sample_order = some sample_prepared_saga := by
  decide +kernel

theorem sample_confirmed (role : LegRole) :
    Confirmed sample_success sample_prepared_saga role := by
  intro token htoken p hp
  have hsame : sample_inspection token .Committed = p := Except.ok.inj hp
  rw [← hsame]
  cases role with
  | Origin =>
    obtain rfl : (⟨1⟩ : PrepareToken) = token := Option.some.inj htoken
    decide +kernel
  | Destination =>
    obtain rfl : (⟨2⟩ : PrepareToken) = token := Option.some.inj htoken
    decide +kernel

theorem prepared_order_moves :
    ∃ saga', (perform sample_success (Proxy.advance sample_hash false sample_order 20)
      (sample_proxy_run sample_started).sagas).2.load sample_order = some saga' ∧
        Changed sample_prepared_saga saga' := by
  have hrow := started_row
  unfold sample_proxy_run at hrow ⊢
  exact (recoverable_saga_moves_iff sample_hash false sample_order ∅ (by decide) sample_started
    started_in_turn sample_prepared_saga hrow (by decide) sample_success
    sample_success_succeeds 20).mpr ⟨sample_confirmed .Origin, sample_confirmed .Destination⟩

end ProxyWorld

end Solvent
