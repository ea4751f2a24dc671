import Mathlib
import Solvent.Crosschain.Lifecycle
import Solvent.Crosschain.Rules

/-! # A delivered order is not compensated

    The proxy infers from a status or from a simulation that a delivery failed,
    and then releases both preparations. That is right as long as the service
    knows of every delivery it sent. It does not when it stops between the
    wallet's send and the row that tracks it, and two calls of the proxy for one
    order can work against each other. In every run without either, an order
    whose delivery landed is neither failed nor released.
-/

namespace Solvent

open BTreeMap Interleave

/-! ## Handlers that neither deliver nor release -/

/-- The request neither releases a preparation nor asks for the intent. -/
def RemoteRequest.Tame (keccak256 : List UInt8 → B256) (chain_id : ChainId) (intent : IntentId) :
    RemoteRequest → Prop
  | .release _ => False
  | .command order_id _ c _ =>
    (⟨(step_id keccak256 order_id chain_id c).hash⟩ : IntentId) ≠ intent
  | _ => True

namespace Handler

variable {P : ServiceCall → Prop}

theorem all_get {c : ServiceCall} (h : P c) : (get c).run.All P := ⟨h, fun _ => trivial⟩

section Benign

variable {intent : IntentId} {keccak256 : List UInt8 → B256} {chain_id : ChainId}

theorem benign_stage_validated (context : StepValidationContext) (plan : ChainExecutionPlan) :
    (stage_validated context plan).run.All (ServiceCall.Benign intent) := by
  apply Program.all_except_bind
  · exact ⟨trivial, fun _ => trivial⟩
  · intro _
    exact ⟨trivial, fun _ => trivial⟩

theorem benign_stage (context : StepValidationContext) (plan : ChainExecutionPlan) :
    (stage context plan).run.All (ServiceCall.Benign intent) := by
  apply Program.all_except_bind
  · exact ⟨trivial, fun _ => trivial⟩
  · intro _
    split
    · trivial
    · exact benign_stage_validated context plan

theorem benign_stage_cctp_completion (context : StepValidationContext)
    (plan : ChainExecutionPlan) (token : PrepareToken) :
    (stage_cctp_completion chain_id context plan token).run.All (ServiceCall.Benign intent) := by
  apply Program.all_except_bind
  · exact ⟨trivial, fun _ => trivial⟩
  intro _
  apply Program.all_except_bind
  · exact ⟨trivial, fun _ => trivial⟩
  intro p
  split
  · split
    · trivial
    · exact benign_stage_validated context plan
  · trivial

theorem benign_prepare (aggregate_id : AggregateQuoteId) (quote : LegQuote) :
    (prepare aggregate_id quote).run.All (ServiceCall.Benign intent) := by
  apply Program.all_except_bind
  · exact ⟨trivial, fun _ => trivial⟩
  intro _
  apply Program.all_except_bind (all_get trivial)
  intro existing
  match existing with
  | some p => trivial
  | none =>
    apply Program.all_except_bind
    · exact ⟨trivial, fun _ => trivial⟩
    · intro _
      exact ⟨trivial, fun _ => trivial⟩

/-- The row an operation writes is in the operation's final state. -/
theorem state_of_check {op : LocalCrossChainService.Operation} {p q : Preparation}
    (h : op.check p = .ok q) : q.state = op.final := by
  rw [LocalCrossChainService.check_ok h]

/-- A check followed by a ledger call and the row write. -/
theorem benign_write (op : LocalCrossChainService.Operation) (hop : op.final ≠ .Released)
    {p : Preparation} {ledger : Handler Unit}
    (hledger : ledger.run.All (ServiceCall.Benign intent)) :
    ((do
      let q ← ExceptT.mk (pure (op.check p))
      ledger
      update q) : Handler Preparation).run.All (ServiceCall.Benign intent) := by
  match hcheck : op.check p with
  | .error e => trivial
  | .ok q =>
    show ((do
      ledger
      update q) : Handler Preparation).run.All (ServiceCall.Benign intent)
    apply Program.all_except_bind hledger
    intro _
    refine ⟨?_, fun _ => trivial⟩
    show q.state ≠ .Released
    rw [state_of_check hcheck]
    exact hop

theorem benign_commit (token : PrepareToken) :
    (commit token).run.All (ServiceCall.Benign intent) := by
  apply Program.all_except_bind
  · exact ⟨trivial, fun _ => trivial⟩
  intro p
  apply Program.all_except_bind (all_get trivial)
  intro now
  exact benign_write (.commit now) (by simp [LocalCrossChainService.Operation.final])
    ⟨trivial, fun _ => trivial⟩

theorem benign_post (p : Preparation) (token : PrepareToken) :
    (post p token).run.All (ServiceCall.Benign intent) := by
  unfold post
  split
  · trivial
  · apply Program.all_except_bind
    · exact ⟨trivial, fun _ => trivial⟩
    · intro _
      exact ⟨trivial, fun _ => trivial⟩

theorem benign_mark_executed (token : PrepareToken) :
    (mark_executed token).run.All (ServiceCall.Benign intent) := by
  apply Program.all_except_bind
  · exact ⟨trivial, fun _ => trivial⟩
  intro p
  exact benign_write .mark_executed (by simp [LocalCrossChainService.Operation.final])
    (benign_post p token)

theorem benign_progress (command_id : CrossChainStepId) :
    (progress command_id).run.All (ServiceCall.Benign intent) := by
  apply Program.all_except_bind (all_get trivial)
  intro _
  apply Program.all_except_bind (all_get trivial)
  intro _
  trivial

theorem benign_submit {k : IntentId} (hk : k ≠ intent) :
    (submit k).run.All (ServiceCall.Benign intent) := by
  apply Program.all_except_bind (all_get trivial)
  intro handle
  match handle with
  | some h => trivial
  | none =>
    apply Program.all_except_bind (all_get (show ServiceCall.Benign intent (.send k) from hk))
    intro h
    exact all_get (show ServiceCall.Benign intent (.track k _ h) from hk)

theorem benign_execute {command_id : CrossChainStepId}
    (hid : (⟨command_id.hash⟩ : IntentId) ≠ intent) :
    (execute command_id).run.All (ServiceCall.Benign intent) := by
  apply Program.all_except_bind (all_get trivial)
  intro status
  match status with
  | some _ => exact benign_progress command_id
  | none =>
    apply Program.all_except_bind (all_get trivial)
    intro verdict
    match verdict with
    | .Reject reason => trivial
    | .Ok => exact Program.all_except_bind (benign_submit hid) fun _ => benign_progress command_id

theorem benign_step_command {order_id : CrossChainOrderId} {command_id : CrossChainStepId}
    {c : RemoteCommand} {p : Preparation}
    (hid : (⟨(step_id keccak256 order_id chain_id c).hash⟩ : IntentId) ≠ intent) :
    (step_command keccak256 chain_id order_id command_id c p).run.All
      (ServiceCall.Benign intent) := by
  unfold step_command
  split
  · trivial
  rename_i hbound
  rw [not_not.mp hbound] at hid
  apply Program.all_except_bind (all_get trivial)
  intro aggregate_id
  match aggregate_id with
  | none => trivial
  | some aggregate_id =>
    simp only
    split
    · trivial
    apply Program.all_except_bind (all_get trivial)
    intro step
    match step with
    | none => trivial
    | some step =>
      apply Program.all_except_bind
      · exact ⟨trivial, fun _ => trivial⟩
      · intro _
        exact benign_execute hid

theorem benign_command {order_id : CrossChainOrderId} {command_id : CrossChainStepId}
    {c : RemoteCommand} {token : PrepareToken}
    (hid : (⟨(step_id keccak256 order_id chain_id c).hash⟩ : IntentId) ≠ intent) :
    (command keccak256 chain_id order_id command_id c token).run.All
      (ServiceCall.Benign intent) := by
  apply Program.all_except_bind
  · exact ⟨trivial, fun _ => trivial⟩
  intro p
  apply Program.all_except_bind (benign_step_command hid)
  intro progress
  split
  · exact Program.all_except_bind (benign_mark_executed token) fun _ => trivial
  · trivial

/-- **Tame requests make benign calls.** -/
theorem benign_serve {r : RemoteRequest} (hr : r.Tame keccak256 chain_id intent) :
    (serve keccak256 chain_id r).run.All (ServiceCall.Benign intent) := by
  match r with
  | .stage context plan => exact benign_stage context plan
  | .stage_cctp_completion context plan token =>
    exact benign_stage_cctp_completion context plan token
  | .prepare aggregate_id quote => exact benign_prepare aggregate_id quote
  | .commit token => exact benign_commit token
  | .inspect token => exact ⟨trivial, fun _ => trivial⟩
  | .release token => exact hr.elim
  | .command order_id command_id c token => exact benign_command hr

end Benign

end Handler

/-! ## The delivery request -/

/-- The service answers that the command failed. -/
def RemoteProgress.IsFailed : RemoteProgress → Prop
  | .Failed _ => True
  | _ => False

namespace CrossChainWorld

variable {keccak256 : List UInt8 → B256} {chains : LegRole → ChainId}
  {order_id : CrossChainOrderId} {w : CrossChainWorld} {Φ : CrossChainWorld → Prop}

/-- The saga is past its preparation and not failed: a delivery may be asked for. -/
def Delivering (saga : CrossChainSaga) : Prop :=
  saga.state = .Prepared ∨ saga.state = .DestinationPending

/-- What a delivery leaves: the saga as it was, and where the service answers
    that it failed, no delivery that can still land. -/
def Delivered (keccak256 : List UInt8 → B256) (chains : LegRole → ChainId)
    (order_id : CrossChainOrderId) (saga : CrossChainSaga) (progress : RemoteProgress)
    (w : CrossChainWorld) : Prop :=
  Stored order_id saga w ∧ (progress.IsFailed → Doomed keccak256 chains order_id w)

theorem inert_delivered (saga : CrossChainSaga) (progress : RemoteProgress) :
    Inert keccak256 chains order_id
      (Delivered keccak256 chains order_id saga progress) :=
  (inert_stored saga).and inert_doomed.imp

section Deliver

variable {saga : CrossChainSaga} (hsaga : Delivering saga)

/-- A call that reads, and what it read. -/
theorem serves_load_owned (hΦ : Inert keccak256 chains order_id Φ) {role : LegRole}
    {token : PrepareToken} {Ψ : Preparation → CrossChainWorld → Prop}
    (hanswer : ∀ w p, Holding keccak256 chains order_id Φ w →
      (w.services role).local_service.load_owned token = .ok p → Ψ p w)
    (hw : Holding keccak256 chains order_id Φ w) :
    Serves keccak256 chains order_id role (Handler.load_owned token) Ψ w := by
  show (terms keccak256 chains order_id).wp (.ask (.call role (.load_owned token)) _) _ w
  apply wp_query hΦ _ hw
  intro reads w hw
  by_cases hlost : reads.lost = true
  · simp only [answer, hlost]
    exact hw.1
  · simp only [answer, hlost, ChainService.answer]
    cases hload : (w.services role).local_service.load_owned token with
    | error e =>
      show Quiescent keccak256 chains order_id (w.set role (w.services role))
      rw [set_get]
      exact hw.1
    | ok p =>
      show Ψ p (w.set role (w.services role))
      rw [set_get]
      exact hanswer w p hw hload

/-- The delivery's status, and what follows from it. -/
theorem serves_status (hΦ : Inert keccak256 chains order_id Φ)
    {Ψ : Option ExecStatus → CrossChainWorld → Prop}
    (hanswer : ∀ w, Holding keccak256 chains order_id Φ w →
      Ψ ((w.services .Destination).executor.status (delivery keccak256 chains order_id)) w)
    (hw : Holding keccak256 chains order_id Φ w) :
    Serves keccak256 chains order_id .Destination
      (Handler.get (.status (delivery keccak256 chains order_id))) Ψ w := by
  apply serves_get hΦ _ hw
  intro reads w hw
  show Ψ _ (w.set .Destination (w.services .Destination))
  rw [set_get]
  exact hanswer w hw

/-- The end of the delivery: a failed status is the failure of every send. -/
theorem serves_progress {command_id : CrossChainStepId}
    (hid : (⟨command_id.hash⟩ : IntentId) = delivery keccak256 chains order_id)
    (hw : Holding keccak256 chains order_id (Stored order_id saga) w) :
    Serves keccak256 chains order_id .Destination (Handler.progress command_id)
      (fun progress => Holding keccak256 chains order_id
        (Delivered keccak256 chains order_id saga progress)) w := by
  unfold Handler.progress
  rw [hid]
  refine serves_benign (inert_stored saga) (Handler.all_get ?_) ?_ hw
  · trivial
  intro _ w hw
  apply serves_bind
  apply serves_status (inert_stored saga) _ hw
  intro w hw
  apply serves_pure
  refine ⟨hw.1, hw.2, ?_⟩
  intro hfailed
  match hstatus : (w.services .Destination).executor.status
      (delivery keccak256 chains order_id) with
  | none => simp [hstatus, Handler.progress_of, RemoteProgress.IsFailed] at hfailed
  | some .Pending => simp [hstatus, Handler.progress_of, RemoteProgress.IsFailed] at hfailed
  | some (.Confirmed block tx) =>
    simp [hstatus, Handler.progress_of, RemoteProgress.IsFailed] at hfailed
  | some (.Failed reason) =>
    exact ChainService.doomed_of_status hw.1.2 hstatus (.inr ⟨reason, rfl⟩)
  | some .Dropped => exact ChainService.doomed_of_status hw.1.2 hstatus (.inl rfl)

/-- A delivery may be sent: the saga waits for it and its preparation is held. -/
def Ready (order_id : CrossChainOrderId) (saga : CrossChainSaga) (w : CrossChainWorld) : Prop :=
  Stored order_id saga w ∧ ¬ w.Released order_id

theorem inert_ready (saga : CrossChainSaga) :
    Inert keccak256 chains order_id (Ready order_id saga) :=
  (inert_stored saga).and inert_held

/-- The world right after the wallet took the delivery. -/
structure Sending (keccak256 : List UInt8 → B256) (chains : LegRole → ChainId)
    (order_id : CrossChainOrderId) (saga : CrossChainSaga) (handle : HandleId)
    (w : CrossChainWorld) : Prop where
  safe : w.Safe keccak256 chains order_id
  untracked : Untracked keccak256 chains order_id handle w
  stored : Stored order_id saga w

theorem stable_sending (saga : CrossChainSaga) (handle : HandleId) :
    (terms keccak256 chains order_id).Stable
      (Sending keccak256 chains order_id saga handle) := by
  intro event w h
  have hquiet : Quiet keccak256 chains order_id w (outside keccak256 chains order_id event w) :=
    quiet_outside event w
  exact ⟨h.safe.quiet hquiet, inert_untracked handle w _ h.safe h.untracked hquiet,
    inert_stored saga w _ h.safe h.stored hquiet⟩

/-- The track: every delivery sent is known again. -/
theorem holding_track {handle : HandleId} (reservation : ReservationId)
    (h : Sending keccak256 chains order_id saga handle w) :
    Holding keccak256 chains order_id (Stored order_id saga)
      (w.set .Destination { w.services .Destination with
        executor := (w.services .Destination).executor.track
          (delivery keccak256 chains order_id) reservation handle }) := by
  refine ⟨⟨⟨h.safe.keyed, ?_, ?_, ?_⟩, ?_⟩, h.stored⟩
  · rw [set_same]
    exact ChainService.sound_track h.untracked reservation h.safe.sound
  · intro hearly
    rw [set_same]
    exact h.safe.early hearly
  · intro hclosed
    rw [set_same]
    apply h.safe.closed
    rcases hclosed with hfailed | ⟨token, htoken, p, hp, hstate⟩
    · exact .inl hfailed
    · rw [set_same] at hp
      exact .inr ⟨token, htoken, p, hp, hstate⟩
  · rw [set_same]
    exact ChainService.known_track h.untracked reservation

theorem serves_track {handle : HandleId} {reservation : ReservationId}
    (h : Sending keccak256 chains order_id saga handle w) :
    Serves keccak256 chains order_id .Destination
      (Handler.get (.track (delivery keccak256 chains order_id) reservation handle))
      (fun _ => Holding keccak256 chains order_id (Stored order_id saga)) w := by
  show (terms keccak256 chains order_id).wp (.ask (.call .Destination
    (.track (delivery keccak256 chains order_id) reservation handle)) _) _ w
  refine Terms.wp_ask _ (stable_sending saga handle) ?_ ?_ h
  · intro w hw
    exact ⟨hw.safe, .inl rfl⟩
  intro reads w h hallowed
  -- The terms exclude that this query is lost.
  have hlost : reads.lost = false := hallowed rfl
  show (terms keccak256 chains order_id).wp _ _ (w.answer keccak256 reads _).2
  simp only [terms, environment, answer, hlost]
  exact holding_track reservation h

include hsaga

/-- The send. Nothing compensates an order that waits for its delivery. -/
theorem sending_send
    (hw : Holding keccak256 chains order_id
      (fun w => Ready order_id saga w ∧ Unheard keccak256 chains order_id w) w) :
    Sending keccak256 chains order_id saga (w.services .Destination).executor.wallet.sent.length
      (w.set .Destination { w.services .Destination with
        executor := (w.services .Destination).executor.send_with
          (delivery keccak256 chains order_id) }) := by
  obtain ⟨⟨hsafe, hknown⟩, ⟨hstored, hheld⟩, hunsent, hunrecorded⟩ := hw
  refine ⟨⟨hsafe.keyed, ?_, ?_, ?_⟩, ?_, hstored⟩
  · rw [set_same]
    exact ChainService.sound_send hsafe.sound hunsent
  · -- The saga is past its early states.
    intro hearly
    have hearly' : Early (w.sagas.load order_id) := hearly
    rw [show w.sagas.load order_id = some saga from hstored] at hearly'
    rcases hsaga with h | h <;> rcases hearly' with h' | h' <;> rw [h] at h' <;> cases h'
  · intro hclosed
    exfalso
    rcases hclosed with ⟨saga', hload, hstate⟩ | ⟨token, htoken, p, hp, hstate⟩
    · have hload' : w.sagas.load order_id = some saga' := hload
      rw [show w.sagas.load order_id = some saga from hstored] at hload'
      obtain rfl := Option.some.inj hload'
      rcases hsaga with h | h <;> rw [h] at hstate <;> cases hstate
    · rw [set_same] at hp
      exact hheld ⟨token, htoken, p, hp, hstate⟩
  · show ChainService.Untracked _ _ _
    rw [set_same]
    exact ChainService.untracked_send hsafe.sound hunsent hunrecorded

theorem serves_submit
    (hw : Holding keccak256 chains order_id
      (fun w => Ready order_id saga w ∧ Unheard keccak256 chains order_id w) w) :
    Serves keccak256 chains order_id .Destination
      (Handler.submit (delivery keccak256 chains order_id))
      (fun _ => Holding keccak256 chains order_id (Stored order_id saga)) w := by
  have hinert : Inert keccak256 chains order_id fun w =>
      Ready order_id saga w ∧ Unheard keccak256 chains order_id w :=
    (inert_ready saga).and inert_unheard
  refine serves_benign hinert (Handler.all_get ?_) ?_ hw
  · trivial
  intro tracked w hw
  match tracked with
  | some _ => exact serves_pure ⟨hw.1, hw.2.1.1⟩
  | none =>
    apply serves_bind
    apply serves_get hinert _ hw
    intro reads w hw
    exact serves_track (sending_send hsaga hw)

/-- The status, the simulation and the submission. -/
theorem serves_execute {command_id : CrossChainStepId}
    (hid : (⟨command_id.hash⟩ : IntentId) = delivery keccak256 chains order_id)
    (hw : Holding keccak256 chains order_id (Ready order_id saga) w) :
    Serves keccak256 chains order_id .Destination (Handler.execute command_id)
      (fun progress => Holding keccak256 chains order_id
        (Delivered keccak256 chains order_id saga progress)) w := by
  unfold Handler.execute
  rw [hid]
  apply serves_bind
  apply serves_status (inert_ready saga) _ hw
  intro w hw
  match hstatus : (w.services .Destination).executor.status
      (delivery keccak256 chains order_id) with
  | some status => exact serves_progress hid ⟨hw.1, hw.2.1⟩
  | none =>
    -- Without a status nothing was sent.
    have hunheard : Unheard keccak256 chains order_id w :=
      ⟨ChainService.unsent_of_no_status hw.1.2 hstatus,
        ChainService.unrecorded_of_no_status hstatus⟩
    have hinert : Inert keccak256 chains order_id fun w =>
        Ready order_id saga w ∧ Unheard keccak256 chains order_id w :=
      (inert_ready saga).and inert_unheard
    refine serves_benign hinert (Handler.all_get ?_) ?_ ⟨hw.1, hw.2, hunheard⟩
    · trivial
    intro verdict w hw
    match verdict with
    | .Reject reason =>
      apply serves_pure
      exact ⟨hw.1, hw.2.1.1, fun _ => ChainService.doomed_of_unsent hw.2.2.1⟩
    | .Ok =>
      apply serves_bind
      apply Terms.wp_mono _ _ (serves_submit hsaga hw)
      intro answer w hw
      match answer with
      | none => exact hw
      | some (.error e) => exact hw
      | some (.ok _) => exact serves_progress hid hw

/-- The inspected preparation, if it is not released, is the saga's own and held. -/
def Inspected (order_id : CrossChainOrderId) (saga : CrossChainSaga) (p : Preparation)
    (w : CrossChainWorld) : Prop :=
  Stored order_id saga w ∧ (p.state ≠ .Released → ¬ w.Released order_id)

omit hsaga in
theorem inert_inspected (saga : CrossChainSaga) (p : Preparation) :
    Inert keccak256 chains order_id (Inspected order_id saga p) :=
  (inert_stored saga).and inert_held.imp

theorem serves_step_command {command_id : CrossChainStepId} {p : Preparation}
    (hw : Holding keccak256 chains order_id (Inspected order_id saga p) w) :
    Serves keccak256 chains order_id .Destination
      (Handler.step_command keccak256 (chains .Destination) order_id command_id .Deliver p)
      (fun progress => Holding keccak256 chains order_id
        (Delivered keccak256 chains order_id saga progress)) w := by
  unfold Handler.step_command
  split
  · exact serves_throw hw.1
  rename_i hbound
  have hid : (⟨command_id.hash⟩ : IntentId) = delivery keccak256 chains order_id := by
    rw [← not_not.mp hbound]
    rfl
  refine serves_benign (inert_inspected saga p) (Handler.all_get ?_) ?_ hw
  · trivial
  intro aggregate_id w hw
  match aggregate_id with
  | none => exact serves_throw hw.1
  | some aggregate_id =>
    simp only
    split
    · exact serves_throw hw.1
    rename_i hauthorized
    have hstate : p.state ≠ .Released := by
      have hmem := (not_not.mp hauthorized).2.2.2
      intro h
      rw [h] at hmem
      simp [Handler.authorizing_states] at hmem
    refine serves_benign (inert_inspected saga p) (Handler.all_get ?_) ?_ hw
    · trivial
    intro step w hw
    match step with
    | none => exact serves_throw hw.1
    | some step =>
      refine serves_benign (inert_inspected saga p) ⟨trivial, fun _ => trivial⟩ ?_ hw
      intro _ w hw
      exact serves_execute hsaga hid ⟨hw.1, hw.2.1, hw.2.2 hstate⟩

omit hsaga in
/-- What loading the saga's own preparation tells. -/
theorem inspected_of_load {token : PrepareToken} {p : Preparation}
    (htoken : saga.destination_prepare = some token)
    (hload : (w.services .Destination).local_service.load_owned token = .ok p)
    (hstored : Stored order_id saga w) : Inspected order_id saga p w := by
  refine ⟨hstored, ?_⟩
  rintro hstate ⟨token', htoken', q, hq, hreleased⟩
  have howned : w.own_token order_id .Destination = some token := by
    unfold own_token
    rw [show w.sagas.load order_id = some saga from hstored]
    exact htoken
  rw [howned] at htoken'
  obtain rfl := Option.some.inj htoken'
  rw [(LocalCrossChainService.load_owned_ok hload).1] at hq
  obtain rfl := Option.some.inj hq
  exact hstate hreleased

/-- **The delivery request.** Where it answers that the delivery failed, none can
    land any more. -/
theorem serves_deliver {command_id : CrossChainStepId} {token : PrepareToken}
    (htoken : saga.destination_prepare = some token)
    (hw : Holding keccak256 chains order_id (Stored order_id saga) w) :
    Serves keccak256 chains order_id .Destination
      (Handler.command keccak256 (chains .Destination) order_id command_id .Deliver token)
      (fun progress => Holding keccak256 chains order_id
        (Delivered keccak256 chains order_id saga progress)) w := by
  apply serves_bind
  apply serves_load_owned (inert_stored saga) _ hw
  intro w p hw hload
  apply serves_bind
  apply Terms.wp_mono _ _
    (serves_step_command hsaga ⟨hw.1, inspected_of_load htoken hload hw.2⟩)
  intro answer w hw
  match answer with
  | none => exact hw
  | some (.error e) => exact hw
  | some (.ok progress) =>
    simp only
    split
    · refine serves_benign (inert_delivered saga progress)
        (Handler.benign_mark_executed token) ?_ hw
      intro _ w hw
      exact serves_pure hw
    · exact serves_pure hw

end Deliver

/-! ## Releasing a preparation -/

/-- The order can be closed: no delivery of it can land, and where its saga is
    early none was sent. -/
def Closing (keccak256 : List UInt8 → B256) (chains : LegRole → ChainId)
    (order_id : CrossChainOrderId) (saga : CrossChainSaga) (w : CrossChainWorld) : Prop :=
  Doomed keccak256 chains order_id w ∧
    (Early (some saga) → Unsent keccak256 chains order_id w)

theorem inert_closing (saga : CrossChainSaga) :
    Inert keccak256 chains order_id (Closing keccak256 chains order_id saga) :=
  inert_doomed.and inert_unsent.imp

theorem closing_of_unsent (saga : CrossChainSaga) (h : Unsent keccak256 chains order_id w) :
    Closing keccak256 chains order_id saga w :=
  ⟨ChainService.doomed_of_unsent h, fun _ => h⟩

/-- A row write at the destination, for an order that can be closed. -/
theorem keeps_update (saga : CrossChainSaga) (p : Preparation) :
    Keeps keccak256 chains order_id (Closing keccak256 chains order_id saga) .Destination
      (.update p) := by
  intro reads w hw
  have hmoves : ChainService.Moves (delivery keccak256 chains order_id)
      (w.services .Destination)
      ((w.services .Destination).answer keccak256 reads (.update p)).2 :=
    ChainService.moves_of_same rfl rfl
  refine ⟨⟨⟨hw.1.1.keyed, ?_, ?_, ?_⟩, ?_⟩, ?_, ?_⟩
  · rw [set_same]
    exact hmoves.sound hw.1.1.sound
  · intro hearly
    rw [set_same]
    exact hmoves.unsent (hw.1.1.early hearly)
  · intro _
    rw [set_same]
    exact hmoves.doomed hw.2.1
  · rw [set_same]
    exact hmoves.known hw.1.2
  · show ChainService.Doomed _ _
    rw [set_same]
    exact hmoves.doomed hw.2.1
  · intro hearly
    show ChainService.Unsent _ _
    rw [set_same]
    exact hmoves.unsent (hw.2.2 hearly)

theorem keeps_release (saga : CrossChainSaga) (role : LegRole) (token : PrepareToken) :
    (Handler.serve keccak256 (chains role) (.release token)).run.All
      (Keeps keccak256 chains order_id (Closing keccak256 chains order_id saga) role) := by
  match role with
  | .Origin =>
    apply Program.all_of_forall
    intro c
    exact keeps_of_benign (inert_closing saga) (by simp)
  | .Destination =>
    have hbenign : ∀ {c : ServiceCall}, c.Benign (delivery keccak256 chains order_id) →
        Keeps keccak256 chains order_id (Closing keccak256 chains order_id saga) .Destination c :=
      fun hc => keeps_of_benign (inert_closing saga) fun _ => hc
    apply Program.all_except_bind
    · exact ⟨hbenign trivial, fun _ => trivial⟩
    intro p
    apply Program.all_except_bind
    · trivial
    intro q
    apply Program.all_except_bind
    · unfold Handler.void
      split
      · trivial
      · exact ⟨hbenign trivial, fun _ => trivial⟩
    · intro _
      exact ⟨keeps_update saga q, fun _ => trivial⟩

/-- A tame request keeps every inert fact. -/
theorem keeps_tame (hΦ : Inert keccak256 chains order_id Φ) {role : LegRole} {r : RemoteRequest}
    (hr : role = .Destination →
      r.Tame keccak256 (chains role) (delivery keccak256 chains order_id)) :
    (Handler.serve keccak256 (chains role) r).run.All (Keeps keccak256 chains order_id Φ role) := by
  match role with
  | .Origin =>
    apply Program.all_of_forall
    intro c
    exact keeps_of_benign hΦ (by simp)
  | .Destination =>
    apply (Handler.benign_serve (hr rfl)).mono
    intro c hc
    exact keeps_of_benign hΦ fun _ => hc

theorem proceeds_tame (hΦ : Inert keccak256 chains order_id Φ) (role : LegRole)
    (r : RemoteRequest)
    (hr : role = .Destination → r.Tame keccak256 (chains role) (delivery keccak256 chains order_id))
    (hw : Holding keccak256 chains order_id Φ w) :
    Proceeds keccak256 chains order_id (Proxy.remote role r)
      (fun _ => Holding keccak256 chains order_id Φ) w :=
  proceeds_remote_all hΦ (keeps_tame hΦ hr) hw

theorem proceeds_tame_request (hΦ : Inert keccak256 chains order_id Φ) (role : LegRole)
    (r : RemoteRequest)
    (hr : role = .Destination → r.Tame keccak256 (chains role) (delivery keccak256 chains order_id))
    (hw : Holding keccak256 chains order_id Φ w) :
    Proceeds keccak256 chains order_id (Proxy.request role r)
      (fun _ => Holding keccak256 chains order_id Φ) w :=
  proceeds_request_all hΦ (keeps_tame hΦ hr) hw

/-! ## Writing the saga -/

/-- The world after the saga was written. -/
def written (w : CrossChainWorld) (saga : CrossChainSaga) : CrossChainWorld :=
  { w with sagas := w.sagas.insert saga.order_id saga }

theorem load_written (w : CrossChainWorld) {saga : CrossChainSaga}
    (hkey : saga.order_id = order_id) : (w.written saga).sagas.load order_id = some saga := by
  unfold written SqliteSagaStore.load
  rw [← hkey]
  exact Std.ExtTreeMap.getElem?_insert_self

/-- **Writing the saga of an order that can be closed.** -/
theorem holding_closed {saga : CrossChainSaga} (hkey : saga.order_id = order_id)
    (hw : Holding keccak256 chains order_id (Closing keccak256 chains order_id saga) w) :
    Holding keccak256 chains order_id (Closing keccak256 chains order_id saga)
      (w.written saga) := by
  have hload := load_written w hkey
  refine ⟨⟨⟨?_, hw.1.1.sound, ?_, ?_⟩, hw.1.2⟩, hw.2⟩
  · intro saga' hsaga'
    rw [hload] at hsaga'
    obtain rfl := Option.some.inj hsaga'
    exact hkey
  · rw [hload]
    exact hw.2.2
  · exact fun _ => hw.2.1

/-- **Writing the saga of an order on its way**: its destination preparation and
    that it is neither early nor failed are as before. -/
theorem holding_written {saga saga' : CrossChainSaga} (hkey : saga'.order_id = order_id)
    (hprepare : saga'.destination_prepare = saga.destination_prepare)
    (hearly : ¬ Early (some saga')) (hfailed : saga'.state ≠ .FailedBeforeDelivery)
    (hw : Holding keccak256 chains order_id (Stored order_id saga) w) :
    Holding keccak256 chains order_id (Stored order_id saga') (w.written saga') := by
  have hload := load_written w hkey
  refine ⟨⟨⟨?_, hw.1.1.sound, ?_, ?_⟩, hw.1.2⟩, hload⟩
  · intro saga'' hsaga''
    rw [hload] at hsaga''
    obtain rfl := Option.some.inj hsaga''
    exact hkey
  · rw [hload]
    exact fun h => absurd h hearly
  · intro hclosed
    apply hw.1.1.closed
    rcases hclosed with ⟨saga'', hsaga'', hstate⟩ | ⟨token, htoken, p, hp, hstate⟩
    · rw [hload] at hsaga''
      obtain rfl := Option.some.inj hsaga''
      exact absurd hstate hfailed
    · right
      refine ⟨token, ?_, p, hp, hstate⟩
      unfold own_token at htoken ⊢
      rw [hload] at htoken
      rw [show w.sagas.load order_id = some saga from hw.2]
      have htoken' : token ∈ saga'.destination_prepare := htoken
      rw [hprepare] at htoken'
      exact htoken'

theorem proceeds_update (hΦ : Inert keccak256 chains order_id Φ) {saga : CrossChainSaga}
    {Ψ : Unit → CrossChainWorld → Prop}
    (hwritten : ∀ w, Holding keccak256 chains order_id Φ w → Ψ () (w.written saga))
    (hw : Holding keccak256 chains order_id Φ w) :
    Proceeds keccak256 chains order_id (Proxy.update saga) Ψ w := by
  show (terms keccak256 chains order_id).wp (.ask (.update saga) _) _ w
  apply wp_query hΦ _ hw
  intro reads w hw
  by_cases hlost : reads.lost = true
  · simp only [answer, hlost]
    exact hw.1
  · simp only [answer, hlost]
    cases hrow : w.sagas.load saga.order_id with
    | none =>
      simp only [SqliteSagaStore.update, hrow]
      exact hw.1
    | some stored =>
      simp only [SqliteSagaStore.update, hrow]
      exact hwritten w hw

theorem proceeds_save (hΦ : Inert keccak256 chains order_id Φ) {saga : CrossChainSaga}
    {Ψ : CrossChainSaga → CrossChainWorld → Prop}
    (hwritten : ∀ w, Holding keccak256 chains order_id Φ w → Ψ saga (w.written saga))
    (hw : Holding keccak256 chains order_id Φ w) :
    Proceeds keccak256 chains order_id (Proxy.save saga) Ψ w := by
  apply proceeds_bind
  apply proceeds_update hΦ _ hw
  intro w hw
  exact proceeds_pure (hwritten w hw)

/-! ## Compensating -/

theorem proceeds_release (saga : CrossChainSaga) (role : LegRole)
    (hw : Holding keccak256 chains order_id (Closing keccak256 chains order_id saga) w) :
    Proceeds keccak256 chains order_id (Proxy.release role saga)
      (fun _ => Holding keccak256 chains order_id (Closing keccak256 chains order_id saga)) w := by
  unfold Proxy.release
  split
  · exact proceeds_pure hw
  · rename_i token _
    apply proceeds_bind
    apply proceeds_mono _ (proceeds_remote_all (inert_closing saga) (keeps_release saga role token)
      hw)
    intro answer w hw
    match answer with
    | .ok _ => exact proceeds_pure hw
    | .error e => exact proceeds_pure hw

/-- **Compensation**, of an order that can be closed. -/
theorem proceeds_compensate {saga : CrossChainSaga} (hkey : saga.order_id = order_id)
    (reason : String)
    (hw : Holding keccak256 chains order_id (Closing keccak256 chains order_id saga) w) :
    Proceeds keccak256 chains order_id (Proxy.compensate saga reason)
      (fun _ => Quiescent keccak256 chains order_id) w := by
  apply proceeds_bind
  apply proceeds_mono _ (proceeds_release saga .Origin hw)
  intro origin_error w hw
  apply proceeds_bind
  apply proceeds_mono _ (proceeds_release saga .Destination hw)
  intro destination_error w hw
  match origin_error.or destination_error with
  | some e =>
    apply proceeds_bind
    apply proceeds_update (inert_closing saga) _ hw
    intro w hw
    apply proceeds_throw
    refine (holding_closed ?_ ⟨hw.1, ?_⟩).1
    · exact hkey
    · exact hw.2
  | none =>
    apply proceeds_bind
    apply proceeds_except _ hw.1
    intro saga' hsaga'
    have hstate : saga'.state = .FailedBeforeDelivery ∧ saga'.order_id = order_id := by
      unfold CrossChainSaga.transition at hsaga'
      split at hsaga'
      · obtain rfl := Except.ok.inj hsaga'
        exact ⟨rfl, hkey⟩
      · cases hsaga'
    apply proceeds_save (inert_closing saga) _ hw
    intro w hw
    refine (holding_closed hstate.2 ⟨hw.1, hw.2.1, ?_⟩).1
    intro hearly
    rcases hearly with h | h <;> rw [hstate.1] at h <;> cases h

/-! ## Preparing -/

section Prepare

variable {saga : CrossChainSaga} (hkey : saga.order_id = order_id)

/-- While nothing was sent, any saga can be written. -/
theorem holding_unsent {saga : CrossChainSaga} (hkey : saga.order_id = order_id)
    (hw : Holding keccak256 chains order_id (Unsent keccak256 chains order_id) w) :
    Holding keccak256 chains order_id (Unsent keccak256 chains order_id) (w.written saga) :=
  ⟨(holding_closed hkey ⟨hw.1, closing_of_unsent saga hw.2⟩).1, hw.2⟩

theorem proceeds_preparation (role : LegRole)
    (hw : Holding keccak256 chains order_id (Unsent keccak256 chains order_id) w) :
    Proceeds keccak256 chains order_id (Proxy.preparation role saga)
      (fun _ => Holding keccak256 chains order_id (Unsent keccak256 chains order_id)) w := by
  unfold Proxy.preparation
  split
  · exact proceeds_tame inert_unsent role (.inspect _) (fun _ => trivial) hw
  · exact proceeds_tame inert_unsent role (.prepare _ _) (fun _ => trivial) hw

include hkey

theorem proceeds_compensate_unsent (reason : String)
    (hw : Holding keccak256 chains order_id (Unsent keccak256 chains order_id) w) :
    Proceeds keccak256 chains order_id (Proxy.compensate saga reason)
      (fun _ => Quiescent keccak256 chains order_id) w :=
  proceeds_compensate hkey reason ⟨hw.1, closing_of_unsent saga hw.2⟩

theorem proceeds_or_compensate {α : Type} {k : α → Proxy CrossChainSaga}
    {answer : Except RemoteSolventError α}
    (hk : ∀ a, Proceeds keccak256 chains order_id (k a)
      (fun _ => Quiescent keccak256 chains order_id) w)
    (hw : Holding keccak256 chains order_id (Unsent keccak256 chains order_id) w) :
    Proceeds keccak256 chains order_id (Proxy.or_compensate saga answer k)
      (fun _ => Quiescent keccak256 chains order_id) w := by
  unfold Proxy.or_compensate
  split
  · exact hk _
  · exact proceeds_compensate_unsent hkey _ hw
  · exact proceeds_throw hw.1

theorem proceeds_record_token (role : LegRole) (p : Preparation)
    (hw : Holding keccak256 chains order_id (Unsent keccak256 chains order_id) w) :
    Proceeds keccak256 chains order_id (Proxy.record_token role saga p)
      (fun saga w => saga.order_id = order_id ∧
        Holding keccak256 chains order_id (Unsent keccak256 chains order_id) w) w := by
  have hset : (Proxy.set_prepared saga role p.token).order_id = order_id := by
    cases role <;> exact hkey
  unfold Proxy.record_token
  split
  · apply proceeds_save inert_unsent _ hw
    intro w hw
    exact ⟨hset, holding_unsent hset hw⟩
  · exact proceeds_pure ⟨hkey, hw⟩

theorem proceeds_commit_leg (role : LegRole) (p : Preparation) {k : Proxy CrossChainSaga}
    (hk : ∀ w, Holding keccak256 chains order_id (Unsent keccak256 chains order_id) w →
      Proceeds keccak256 chains order_id k (fun _ => Quiescent keccak256 chains order_id) w)
    (hw : Holding keccak256 chains order_id (Unsent keccak256 chains order_id) w) :
    Proceeds keccak256 chains order_id (Proxy.commit_leg role saga p k)
      (fun _ => Quiescent keccak256 chains order_id) w := by
  have hcheck : ∀ p w, Holding keccak256 chains order_id (Unsent keccak256 chains order_id) w →
      Proceeds keccak256 chains order_id
        (if Proxy.confirms saga p role then k
          else Proxy.compensate saga (Proxy.InvalidCrossChain_text Proxy.unconfirmed))
        (fun _ => Quiescent keccak256 chains order_id) w := by
    intro p w hw
    split
    · exact hk w hw
    · exact proceeds_compensate_unsent hkey _ hw
  unfold Proxy.commit_leg
  simp only
  split
  · apply proceeds_bind
    apply proceeds_mono _
      (proceeds_tame inert_unsent role (.commit p.token) (fun _ => trivial) hw)
    intro answer w hw
    exact proceeds_or_compensate hkey (fun p => hcheck p w hw) hw
  · exact hcheck p w hw
  · exact proceeds_compensate_unsent hkey _ hw
  · exact proceeds_compensate_unsent hkey _ hw

theorem proceeds_finish_preparation
    (hw : Holding keccak256 chains order_id (Unsent keccak256 chains order_id) w) :
    Proceeds keccak256 chains order_id (Proxy.finish_preparation saga)
      (fun _ => Quiescent keccak256 chains order_id) w := by
  apply proceeds_bind
  apply proceeds_except _ hw.1
  intro saga' hsaga'
  have hkey' : saga'.order_id = order_id := by
    unfold CrossChainSaga.transition at hsaga'
    split at hsaga'
    · obtain rfl := Except.ok.inj hsaga'
      exact hkey
    · cases hsaga'
  apply proceeds_save inert_unsent _ hw
  intro w hw
  exact (holding_unsent hkey' hw).1

/-- **Preparation.** No delivery is asked for before it is over. -/
theorem proceeds_continue_preparation
    (hw : Holding keccak256 chains order_id (Unsent keccak256 chains order_id) w) :
    Proceeds keccak256 chains order_id (Proxy.continue_preparation saga)
      (fun _ => Quiescent keccak256 chains order_id) w := by
  apply proceeds_bind
  apply proceeds_mono _ (proceeds_preparation .Origin hw)
  intro answer w hw
  apply proceeds_or_compensate hkey _ hw
  intro origin
  apply proceeds_bind
  apply proceeds_mono _ (proceeds_record_token hkey .Origin origin hw)
  rintro saga w ⟨hkey, hw⟩
  apply proceeds_bind
  apply proceeds_mono _ (proceeds_preparation .Destination hw)
  intro answer w hw
  apply proceeds_or_compensate hkey _ hw
  intro destination
  apply proceeds_bind
  apply proceeds_mono _ (proceeds_record_token hkey .Destination destination hw)
  rintro saga w ⟨hkey, hw⟩
  apply proceeds_commit_leg hkey .Origin origin _ hw
  intro w hw
  apply proceeds_commit_leg hkey .Destination destination _ hw
  intro w hw
  exact proceeds_finish_preparation hkey hw

end Prepare

/-! ## Sagas on their way -/

theorem record_lifecycle_eq (saga : CrossChainSaga) (stage : CrossChainLifecycleStage)
    (at_unix : U64) :
    ∃ lifecycle, saga.record_lifecycle stage at_unix = { saga with lifecycle } := by
  unfold CrossChainSaga.record_lifecycle
  split
  · exact ⟨_, rfl⟩
  · exact ⟨saga.lifecycle, rfl⟩

/-- The saga after a step of the order: the destination preparation stays, and
    the order is neither early nor failed. -/
structure Follows (order_id : CrossChainOrderId) (saga saga' : CrossChainSaga) : Prop where
  key : saga'.order_id = order_id
  prepare : saga'.destination_prepare = saga.destination_prepare
  early : ¬ Early (some saga')
  failed : saga'.state ≠ .FailedBeforeDelivery

/-- The states of an order on its way. -/
def Underway (state : SagaState) : Prop :=
  state ≠ .Quoted ∧ state ≠ .Preparing ∧ state ≠ .FailedBeforeDelivery

theorem follows_of {saga saga' : CrossChainSaga} (hkey : saga'.order_id = order_id)
    (hprepare : saga'.destination_prepare = saga.destination_prepare)
    (hstate : Underway saga'.state) : Follows order_id saga saga' := by
  refine ⟨hkey, hprepare, ?_, hstate.2.2⟩
  rintro (h | h)
  · exact hstate.1 h
  · exact hstate.2.1 h

theorem follows_apply {saga : CrossChainSaga} (hkey : saga.order_id = order_id)
    (progress : RemoteProgress) {pending finalized : SagaState} (hpending : Underway pending)
    (hfinalized : Underway finalized) (stage : CrossChainLifecycleStage) (now_unix : U64)
    {record : CrossChainSaga → StepEvidence → CrossChainSaga}
    (hrecord : ∀ evidence, (record saga evidence).order_id = saga.order_id ∧
      (record saga evidence).destination_prepare = saga.destination_prepare) :
    Follows order_id saga
      (Proxy.apply_post_delivery saga progress pending finalized stage now_unix record) := by
  match progress with
  | .Pending =>
    refine follows_of ?_ ?_ ?_
    · exact hkey
    · rfl
    · exact hpending
  | .Finalized evidence =>
    obtain ⟨lifecycle, heq⟩ := record_lifecycle_eq
      { record saga evidence with state := finalized } stage now_unix
    show Follows order_id saga (CrossChainSaga.record_lifecycle _ stage now_unix)
    rw [heq]
    exact follows_of ((hrecord evidence).1.trans hkey) (hrecord evidence).2 hfinalized
  | .Failed reason =>
    refine follows_of ?_ ?_ ?_
    · exact hkey
    · rfl
    · exact ⟨by simp [Proxy.apply_post_delivery], by simp [Proxy.apply_post_delivery],
        by simp [Proxy.apply_post_delivery]⟩

theorem proceeds_follow {saga saga' : CrossChainSaga} (h : Follows order_id saga saga')
    (hw : Holding keccak256 chains order_id (Stored order_id saga) w) :
    Proceeds keccak256 chains order_id (Proxy.save saga')
      (fun _ => Quiescent keccak256 chains order_id) w := by
  apply proceeds_save (inert_stored saga) _ hw
  intro w hw
  exact (holding_written h.key h.prepare h.early h.failed hw).1

/-! ## Delivering -/

theorem required_token_ok {token : Option PrepareToken} {t : PrepareToken}
    (h : Proxy.required_token token = .ok t) : token = some t := by
  match token with
  | none => cases h
  | some _ =>
    obtain rfl := Except.ok.inj h
    rfl

/-- What an answer to the delivery shows: a delivery that was acknowledged is recorded. -/
def Acknowledged (keccak256 : List UInt8 → B256) (chains : LegRole → ChainId)
    (order_id : CrossChainOrderId) (saga : CrossChainSaga) :
    Option (Except SolventError RemoteProgress) → CrossChainWorld → Prop
  | some (.ok progress) => Delivered keccak256 chains order_id saga progress
  | _ => fun _ => True

/-- The command for a delivery. -/
theorem proceeds_command_deliver {saga : CrossChainSaga} (hsaga : Delivering saga)
    (hw : Holding keccak256 chains order_id (Stored order_id saga) w) :
    Proceeds keccak256 chains order_id
      (Proxy.command keccak256 .Destination saga order_id .Deliver)
      (fun progress => Holding keccak256 chains order_id
        (Delivered keccak256 chains order_id saga progress)) w := by
  apply proceeds_bind
  apply proceeds_except _ hw.1
  intro token htoken
  apply proceeds_request
  have hΦ : ∀ answer, Inert keccak256 chains order_id
      (Acknowledged keccak256 chains order_id saga answer) := by
    intro answer
    rcases answer with _ | e | progress
    · exact inert_true
    · exact inert_true
    · exact inert_delivered saga progress
  refine wp_request hΦ ?_ (fun _ _ h => h) (fun _ _ _ h => h.1)
  apply Terms.wp_mono _ _ (serves_deliver hsaga (required_token_ok htoken) hw)
  intro answer w hw
  rcases answer with _ | e | progress
  · exact ⟨hw, trivial⟩
  · exact ⟨hw, trivial⟩
  · exact hw

theorem not_early {saga : CrossChainSaga} (hsaga : Delivering saga) : ¬ Early (some saga) := by
  intro hearly
  rcases hsaga with h | h <;> rcases hearly with h' | h' <;> rw [h] at h' <;> cases h'

/-- **Delivery.** -/
theorem proceeds_deliver {saga : CrossChainSaga} (hkey : saga.order_id = order_id)
    (hsaga : Delivering saga) (now_unix : U64)
    (hw : Holding keccak256 chains order_id (Stored order_id saga) w) :
    Proceeds keccak256 chains order_id (Proxy.deliver keccak256 order_id saga now_unix)
      (fun _ => Quiescent keccak256 chains order_id) w := by
  apply proceeds_bind
  apply proceeds_except _ hw.1
  intro origin_token _
  apply proceeds_bind
  apply proceeds_except _ hw.1
  intro destination_token _
  apply proceeds_bind
  apply proceeds_mono _ (proceeds_tame_request (inert_stored saga) .Origin
    (.inspect origin_token) (fun _ => trivial) hw)
  intro origin w hw
  apply proceeds_bind
  apply proceeds_mono _ (proceeds_tame_request (inert_stored saga) .Destination
    (.inspect destination_token) (fun _ => trivial) hw)
  intro destination w hw
  apply proceeds_bind
  apply proceeds_except _ hw.1
  intro _ _
  apply proceeds_bind
  apply proceeds_except _ hw.1
  intro _ _
  apply proceeds_bind
  apply proceeds_mono _ (proceeds_command_deliver hsaga hw)
  intro progress w hw
  match progress with
  | .Pending =>
    refine proceeds_follow (follows_of ?_ ?_ ?_) ⟨hw.1, hw.2.1⟩
    · exact hkey
    · rfl
    · exact ⟨by simp, by simp, by simp⟩
  | .Finalized evidence =>
    obtain ⟨lifecycle, heq⟩ := record_lifecycle_eq
      { saga with destination := some evidence, state := .DestinationFinalized }
      .DestinationFill now_unix
    simp only [heq]
    refine proceeds_follow (follows_of ?_ ?_ ?_) ⟨hw.1, hw.2.1⟩
    · exact hkey
    · rfl
    · exact ⟨by simp, by simp, by simp⟩
  | .Failed reason =>
    apply proceeds_compensate hkey
    exact ⟨hw.1, hw.2.2 trivial, fun hearly => absurd hearly (not_early hsaga)⟩

/-! ## After the delivery -/

section Advance

variable {saga : CrossChainSaga}
  (hdistinct : ∀ c, c ≠ .Deliver → intent_of keccak256 chains order_id .Destination c ≠
    delivery keccak256 chains order_id)

include hdistinct

/-- A command other than the delivery. -/
theorem proceeds_command {role : LegRole} {c : RemoteCommand} (hc : c ≠ .Deliver)
    (hw : Holding keccak256 chains order_id (Stored order_id saga) w) :
    Proceeds keccak256 chains order_id (Proxy.command keccak256 role saga order_id c)
      (fun _ => Holding keccak256 chains order_id (Stored order_id saga)) w := by
  apply proceeds_bind
  apply proceeds_except _ hw.1
  intro token _
  apply proceeds_tame_request (inert_stored saga) role _ _ hw
  intro hrole
  subst hrole
  exact hdistinct c hc

/-- A command after the delivery, and the saga it leaves. -/
theorem proceeds_after {role : LegRole} {c : RemoteCommand} (hc : c ≠ .Deliver)
    {next : RemoteProgress → CrossChainSaga}
    (hnext : ∀ progress, Follows order_id saga (next progress))
    (hw : Holding keccak256 chains order_id (Stored order_id saga) w) :
    Proceeds keccak256 chains order_id
      (do
        let progress ← Proxy.command keccak256 role saga order_id c
        Proxy.save (next progress))
      (fun _ => Quiescent keccak256 chains order_id) w := by
  apply proceeds_bind
  apply proceeds_mono _ (proceeds_command hdistinct hc hw)
  intro progress w hw
  exact proceeds_follow (hnext progress) hw

omit hdistinct in
/-- A query of a port that changes nothing. -/
theorem proceeds_close_step (hΦ : Inert keccak256 chains order_id Φ) (tx : B256)
    {Ψ : Except CctpCompletionError CctpPreparedStep → CrossChainWorld → Prop}
    (hanswer : ∀ answer w, Holding keccak256 chains order_id Φ w → Ψ answer w)
    (hw : Holding keccak256 chains order_id Φ w) :
    Proceeds keccak256 chains order_id
      (ExceptT.lift (Proxy.ask (.close_step order_id tx)) :
        Proxy (Except CctpCompletionError CctpPreparedStep)) Ψ w := by
  show (terms keccak256 chains order_id).wp (.ask (.close_step order_id tx) _) _ w
  apply wp_query hΦ _ hw
  intro reads w hw
  exact hanswer reads.close_step w hw

omit hdistinct in
theorem proceeds_complete_cctp (cctp : Bool) (hkey : saga.order_id = order_id) (now_unix : U64)
    (hw : Holding keccak256 chains order_id (Stored order_id saga) w) :
    Proceeds keccak256 chains order_id
      (Proxy.complete_cctp keccak256 cctp order_id saga now_unix)
      (fun _ => Quiescent keccak256 chains order_id) w := by
  unfold Proxy.complete_cctp
  split
  · exact proceeds_throw hw.1
  split
  · exact proceeds_throw hw.1
  rename_i tx _ _
  apply proceeds_bind
  apply proceeds_close_step (inert_stored saga) tx _ hw
  intro answer w hw
  match answer with
  | .ok prepared =>
    apply proceeds_bind
    apply proceeds_except _ hw.1
    intro token _
    apply proceeds_bind
    apply proceeds_mono _ (proceeds_tame_request (inert_stored saga) .Destination
      (.stage_cctp_completion _ _ token) (fun _ => trivial) hw)
    intro _ w hw
    obtain ⟨lifecycle, heq⟩ := record_lifecycle_eq
      { saga with
        repayment := some (Proxy.repayment_evidence keccak256 order_id saga tx
          prepared.message_id)
        state := .RepaymentPending } .Repayment now_unix
    simp only [heq]
    refine proceeds_follow (follows_of ?_ ?_ ?_) hw
    · exact hkey
    · rfl
    · exact ⟨by simp, by simp, by simp⟩
  | .error .Pending => exact proceeds_pure hw.1
  | .error (.RateLimited _) => exact proceeds_pure hw.1
  | .error (.Transport message) => exact proceeds_throw hw.1
  | .error (.Invalid message) =>
    refine proceeds_follow (follows_of ?_ ?_ ?_) hw
    · exact hkey
    · rfl
    · exact ⟨by simp, by simp, by simp⟩

/-- **One step of an order.** -/
theorem proceeds_step (cctp : Bool) (hkey : saga.order_id = order_id) (now_unix : U64)
    (hw : Holding keccak256 chains order_id (Stored order_id saga) w) :
    Proceeds keccak256 chains order_id (Proxy.step keccak256 cctp order_id saga now_unix)
      (fun _ => Quiescent keccak256 chains order_id) w := by
  unfold Proxy.step
  split
  case h_1 hstate =>
    -- A saga that is preparing has sent nothing.
    apply proceeds_continue_preparation hkey
    refine ⟨hw.1, hw.1.1.early ?_⟩
    rw [show w.sagas.load order_id = some saga from hw.2]
    exact .inr hstate
  case h_2 hstate => exact proceeds_deliver hkey (.inl hstate) now_unix hw
  case h_3 hstate => exact proceeds_deliver hkey (.inr hstate) now_unix hw
  case h_4 hstate =>
    apply proceeds_after hdistinct (by simp) _ hw
    intro progress
    exact follows_apply hkey progress ⟨by simp, by simp, by simp⟩ ⟨by simp, by simp, by simp⟩ _ _
      fun _ => ⟨rfl, rfl⟩
  case h_5 hstate =>
    apply proceeds_after hdistinct (by simp) _ hw
    intro progress
    exact follows_apply hkey progress ⟨by simp, by simp, by simp⟩ ⟨by simp, by simp, by simp⟩ _ _
      fun _ => ⟨rfl, rfl⟩
  case h_6 hstate =>
    apply proceeds_after hdistinct (by simp) _ hw
    intro progress
    exact follows_apply hkey progress ⟨by simp, by simp, by simp⟩ ⟨by simp, by simp, by simp⟩ _ _
      fun _ => ⟨rfl, rfl⟩
  case h_7 hstate =>
    split
    · apply proceeds_after hdistinct (by simp) _ hw
      intro progress
      exact follows_apply hkey progress ⟨by simp, by simp, by simp⟩ ⟨by simp, by simp, by simp⟩ _ _
        fun _ => ⟨rfl, rfl⟩
    · exact proceeds_complete_cctp cctp hkey now_unix hw
  case h_8 hstate =>
    apply proceeds_after hdistinct (by simp) _ hw
    intro progress
    exact follows_apply hkey progress ⟨by simp, by simp, by simp⟩ ⟨by simp, by simp, by simp⟩ _ _
      fun _ => ⟨rfl, rfl⟩
  all_goals exact proceeds_pure hw.1

omit hdistinct in
/-- Loading the saga. -/
theorem proceeds_load {Ψ : Option CrossChainSaga → CrossChainWorld → Prop}
    (hanswer : ∀ w, Quiescent keccak256 chains order_id w → Ψ (w.sagas.load order_id) w)
    (hw : Quiescent keccak256 chains order_id w) :
    Proceeds keccak256 chains order_id (Proxy.load order_id) Ψ w := by
  show (terms keccak256 chains order_id).wp (.ask (.load order_id) _) _ w
  have hholding : Holding keccak256 chains order_id (fun _ => True) w := ⟨hw, trivial⟩
  apply wp_query inert_true _ hholding
  intro reads w hw
  by_cases hlost : reads.lost = true
  · simp only [answer, hlost]
    exact hw.1
  · simp only [answer, hlost]
    exact hanswer w hw.1

/-- **An advance** takes a quiescent world to a quiescent world. -/
theorem proceeds_advance (cctp : Bool) (now_unix : U64)
    (hw : Quiescent keccak256 chains order_id w) :
    Proceeds keccak256 chains order_id (Proxy.advance keccak256 cctp order_id now_unix)
      (fun _ => Quiescent keccak256 chains order_id) w := by
  apply proceeds_bind
  apply proceeds_load _ hw
  intro w hw
  match hload : w.sagas.load order_id with
  | none => exact proceeds_throw hw
  | some saga =>
    have hkey := hw.1.keyed saga hload
    simp only
    split
    · rename_i hreconcile
      match hresume : Proxy.reconciled saga with
      | none => exact proceeds_pure hw
      | some state =>
        -- The evidence leads to a state past the delivery.
        have hstate : Underway state := by
          unfold Proxy.reconciled at hresume
          split at hresume
          · obtain rfl := Option.some.inj hresume
            exact ⟨by simp, by simp, by simp⟩
          split at hresume
          · obtain rfl := Option.some.inj hresume
            exact ⟨by simp, by simp, by simp⟩
          split at hresume
          · obtain rfl := Option.some.inj hresume
            exact ⟨by simp, by simp, by simp⟩
          split at hresume
          · obtain rfl := Option.some.inj hresume
            exact ⟨by simp, by simp, by simp⟩
          · cases hresume
        have hfollows : Follows order_id saga { saga with state } := by
          refine follows_of ?_ ?_ ?_
          · exact hkey
          · rfl
          · exact hstate
        have hstored : Holding keccak256 chains order_id (Stored order_id saga) w := ⟨hw, hload⟩
        apply proceeds_bind
        apply proceeds_update (inert_stored saga) _ hstored
        intro w hw
        apply proceeds_step hdistinct cctp hfollows.key
        exact holding_written hfollows.key hfollows.prepare hfollows.early hfollows.failed hw
    · exact proceeds_step hdistinct cctp hkey now_unix ⟨hw, hload⟩

end Advance

/-! ## Starting an order -/

theorem proceeds_check_terms (hΦ : Inert keccak256 chains order_id Φ) (cctp : Bool)
    (quote : AggregateQuote) (hw : Holding keccak256 chains order_id Φ w) :
    Proceeds keccak256 chains order_id (Proxy.check_terms cctp quote)
      (fun _ => Holding keccak256 chains order_id Φ) w := by
  unfold Proxy.check_terms
  split
  · split
    · exact proceeds_throw hw.1
    · exact proceeds_pure hw
  split
  · exact proceeds_throw hw.1
  · apply proceeds_bind
    show (terms keccak256 chains order_id).wp (.ask (.quote_terms _) _) _ w
    apply wp_query hΦ _ hw
    intro reads w hw
    simp only [answer]
    cases reads.quote_terms with
    | error e =>
      show Proceeds keccak256 chains order_id (throw (.CctpCompletion e) : Proxy Unit)
        (fun _ => Holding keccak256 chains order_id Φ) w
      exact proceeds_throw hw.1
    | ok current =>
      show Proceeds keccak256 chains order_id (if _ then _ else _ : Proxy Unit)
        (fun _ => Holding keccak256 chains order_id Φ) w
      split
      · exact proceeds_throw hw.1
      · exact proceeds_pure hw

theorem proceeds_insert {saga : CrossChainSaga} (hkey : saga.order_id = order_id)
    (hw : Holding keccak256 chains order_id (Unsent keccak256 chains order_id) w) :
    Proceeds keccak256 chains order_id (Proxy.insert saga)
      (fun saga w => saga.order_id = order_id ∧
        Holding keccak256 chains order_id (Unsent keccak256 chains order_id) w) w := by
  show (terms keccak256 chains order_id).wp (.ask (.insert saga) _) _ w
  apply wp_query inert_unsent _ hw
  intro reads w hw
  by_cases hlost : reads.lost = true
  · simp only [answer, hlost]
    exact hw.1
  · simp only [answer, hlost]
    cases hrow : w.sagas.load saga.order_id with
    | none =>
      simp only [SqliteSagaStore.insert_new, hrow]
      exact ⟨hkey, holding_unsent hkey hw⟩
    | some stored =>
      by_cases hsame : stored = saga
      · simp only [SqliteSagaStore.insert_new, hrow, hsame]
        exact ⟨hkey, hw⟩
      · simp only [SqliteSagaStore.insert_new, hrow, hsame]
        exact hw.1

/-- **A start** takes a quiescent world to a quiescent world. -/
theorem proceeds_start (cctp : Bool) (taker : Option Address) (quote : AggregateQuote)
    (origin_plan destination_plan : ChainExecutionPlan) (now_unix : U64)
    (hw : Quiescent keccak256 chains order_id w) :
    Proceeds keccak256 chains order_id
      (Proxy.start_with_taker keccak256 cctp order_id taker quote origin_plan destination_plan
        now_unix)
      (fun _ => Quiescent keccak256 chains order_id) w := by
  apply proceeds_bind
  apply proceeds_load _ hw
  intro w hw
  match hload : w.sagas.load order_id with
  | some existing =>
    simp only
    split
    · exact proceeds_pure hw
    · exact proceeds_throw hw
  | none =>
    have hunsent : Holding keccak256 chains order_id (Unsent keccak256 chains order_id) w := by
      refine ⟨hw, hw.1.early ?_⟩
      rw [hload]
      trivial
    apply proceeds_bind
    apply proceeds_except _ hw
    intro _ _
    apply proceeds_bind
    apply proceeds_mono _ (proceeds_check_terms inert_unsent cctp quote hunsent)
    intro _ w hw
    apply proceeds_bind
    apply proceeds_except _ hw.1
    intro _ _
    apply proceeds_bind
    apply proceeds_except _ hw.1
    intro _ _
    apply proceeds_bind
    apply proceeds_mono _
      (proceeds_tame_request inert_unsent .Origin (.stage _ _) (fun _ => trivial) hw)
    intro _ w hw
    apply proceeds_bind
    apply proceeds_mono _
      (proceeds_tame_request inert_unsent .Destination (.stage _ _) (fun _ => trivial) hw)
    intro _ w hw
    apply proceeds_bind
    apply proceeds_mono _ (proceeds_insert _ hw)
    · rintro saga w ⟨hkey, hw⟩
      apply proceeds_bind
      apply proceeds_except _ hw.1
      intro saga' hsaga'
      have hkey' : saga'.order_id = order_id := by
        unfold CrossChainSaga.transition at hsaga'
        split at hsaga'
        · obtain rfl := Except.ok.inj hsaga'
          exact hkey
        · cases hsaga'
      apply proceeds_bind
      apply proceeds_update inert_unsent _ hw
      intro w hw
      exact proceeds_continue_preparation hkey' (holding_unsent hkey' hw)
    · obtain ⟨lifecycle, heq⟩ := record_lifecycle_eq
        { order_id, taker, quote
          state := .Quoted
          lifecycle := []
          origin_prepare := none
          destination_prepare := none
          destination := none
          fill_proof := none
          origin := none
          repayment := none
          failure := none } .Quoted now_unix
      unfold Proxy.new_saga
      rw [heq]

/-- **A direct start**: the plans are authored without a change of the world. -/
theorem proceeds_start_direct (cctp : Bool) (authorization : DirectOrderAuthorization)
    (now_unix : U64) (hw : Quiescent keccak256 chains order_id w) :
    Proceeds keccak256 chains order_id
      (Proxy.start_direct keccak256 cctp { authorization with order_id } now_unix)
      (fun _ => Quiescent keccak256 chains order_id) w := by
  apply proceeds_bind
  show (terms keccak256 chains order_id).wp (.ask (.author_direct _) _) _ w
  have hholding : Holding keccak256 chains order_id (fun _ => True) w := ⟨hw, trivial⟩
  apply wp_query inert_true _ hholding
  intro reads w hw
  match hplans : reads.author_direct with
  | .error e =>
    simp only [answer, hplans]
    exact hw.1
  | .ok plans =>
    simp only [answer, hplans]
    exact proceeds_start cctp _ _ plans.origin plans.destination now_unix hw.1

end CrossChainWorld

/-! ## Whole runs -/

abbrev SystemAction : Type := Action ProxyCall SystemReads Unit SystemEvent

abbrev SystemWorld : Type := World CrossChainWorld (SystemProgram Unit)

namespace CrossChainWorld

/-- The calls of the proxy for one order, with all that goes on around them. -/
def machine (keccak256 : List UInt8 → B256) (chains : LegRole → ChainId) (cctp : Bool)
    (order_id : CrossChainOrderId) :
    Machine CrossChainWorld ProxyCall (SystemProgram Unit) SystemReads Unit SystemEvent :=
  (environment keccak256 chains order_id).machine (ProxyCall.entry keccak256 chains cctp order_id)

/-- The condition on a run: a call of the proxy for the order starts when no
    other is in progress, and once the wallet has a delivery of the order, the
    track of it is neither lost nor stopped at. -/
def Orderly (keccak256 : List UInt8 → B256) (chains : LegRole → ChainId)
    (order_id : CrossChainOrderId) : SystemWorld → SystemAction → Prop :=
  (terms keccak256 chains order_id).Orderly

/-- Nothing of the order exists yet, and what landed is not reported as failed. -/
structure Fresh (keccak256 : List UInt8 → B256) (chains : LegRole → ChainId)
    (order_id : CrossChainOrderId) (w : CrossChainWorld) : Prop where
  saga : w.sagas.load order_id = none
  unsent : (w.services .Destination).Unsent (delivery keccak256 chains order_id)
  handle : (w.services .Destination).executor.handle (delivery keccak256 chains order_id) = none
  landed : ∀ h ∈ (w.services .Destination).landed, ¬ (w.services .Destination).Dead h

variable {keccak256 : List UInt8 → B256} {chains : LegRole → ChainId}
  {order_id : CrossChainOrderId} {w : CrossChainWorld}

theorem quiescent_of_fresh (h : Fresh keccak256 chains order_id w) :
    Quiescent keccak256 chains order_id w := by
  refine ⟨⟨?_, ⟨?_, h.landed⟩, fun _ => h.unsent, ?_⟩, ?_⟩
  · intro saga hsaga
    rw [h.saga] at hsaga
    cases hsaga
  · intro k hk
    rw [h.handle] at hk
    cases hk
  · exact fun _ => ChainService.doomed_of_unsent h.unsent
  · refine ⟨?_, ?_, ?_⟩
    · exact fun k hk => absurd hk (h.unsent k)
    · exact fun k _ hk => absurd hk (h.unsent k)
    · exact fun k hk => absurd hk (h.unsent k)

/-- A landed delivery leaves the order open. -/
theorem open_of_safe (h : w.Safe keccak256 chains order_id)
    (hlanded : (w.services .Destination).Landed (delivery keccak256 chains order_id)) :
    ¬ w.Failed order_id ∧ ¬ w.Released order_id := by
  constructor
  · intro hfailed
    exact ChainService.not_landed_of_doomed h.sound (h.closed (.inl hfailed)) hlanded
  · intro hreleased
    exact ChainService.not_landed_of_doomed h.sound (h.closed (.inr hreleased)) hlanded

theorem wp_entry
    (hdistinct : ∀ c, c ≠ .Deliver → intent_of keccak256 chains order_id .Destination c ≠
      delivery keccak256 chains order_id) (cctp : Bool) (c : ProxyCall)
    (hw : Quiescent keccak256 chains order_id w) :
    (terms keccak256 chains order_id).wp (ProxyCall.entry keccak256 chains cctp order_id c)
      (fun _ => Quiescent keccak256 chains order_id) w := by
  apply Terms.wp_bind
  match c with
  | .start taker quote origin_plan destination_plan now_unix =>
    apply Terms.wp_mono _ _
      (proceeds_start cctp taker quote origin_plan destination_plan now_unix hw)
    intro answer w hw
    match answer with
    | .ok _ => exact hw
    | .error _ => exact hw
  | .start_direct authorization now_unix =>
    apply Terms.wp_mono _ _ (proceeds_start_direct cctp authorization now_unix hw)
    intro answer w hw
    match answer with
    | .ok _ => exact hw
    | .error _ => exact hw
  | .advance now_unix =>
    apply Terms.wp_mono _ _ (proceeds_advance hdistinct cctp now_unix hw)
    intro answer w hw
    match answer with
    | .ok _ => exact hw
    | .error _ => exact hw

/-- **A delivered order is never compensated**, in every orderly run: however the
    proxy's calls, lost requests and replies, crashes and restarts of the
    services, and outside events follow each other, once a delivery landed the
    saga is not failed and its destination preparation not released. -/
theorem delivered_never_compensated (keccak256 : List UInt8 → B256) (chains : LegRole → ChainId)
    (cctp : Bool) (order_id : CrossChainOrderId)
    (hdistinct : ∀ c, c ≠ .Deliver → intent_of keccak256 chains order_id .Destination c ≠
      delivery keccak256 chains order_id)
    (start : CrossChainWorld) (hfresh : Fresh keccak256 chains order_id start)
    (actions : List SystemAction)
    (horderly : Run.Along (machine keccak256 chains cctp order_id).next
      (Orderly keccak256 chains order_id) (Machine.initial start) actions) :
    let w := (Run.run (machine keccak256 chains cctp order_id).next (Machine.initial start)
      actions).shared
    (w.services .Destination).Landed (delivery keccak256 chains order_id) →
      ¬ w.Failed order_id ∧ ¬ w.Released order_id := by
  intro w
  have hstable : (terms keccak256 chains order_id).Stable (Quiescent keccak256 chains order_id) :=
    fun event w h => h.quiet (quiet_outside event w)
  have hstop : ∀ q w, (terms keccak256 chains order_id).point q w →
      ¬ (terms keccak256 chains order_id).critical q → Quiescent keccak256 chains order_id w :=
    fun q w hpoint hfree => ⟨hpoint.1, hpoint.2.resolve_left hfree⟩
  have hrun : Quiescent keccak256 chains order_id w ∨
      ∃ q, (terms keccak256 chains order_id).point q w :=
    Terms.sound hstable hstop (fun c w hw => wp_entry hdistinct cctp c hw)
      (quiescent_of_fresh hfresh) horderly
  rcases hrun with hquiescent | ⟨q, hpoint⟩
  · exact open_of_safe hquiescent.1
  · exact open_of_safe hpoint.1

/-! ## Sample runs -/

instance (order_id : CrossChainOrderId) (w : CrossChainWorld) : Decidable (w.Failed order_id) :=
  decidable_of_iff ((w.sagas.load order_id).map CrossChainSaga.state = some .FailedBeforeDelivery)
    (by
      unfold Failed
      simp [Option.map_eq_some_iff])

instance (order_id : CrossChainOrderId) (w : CrossChainWorld) : Decidable (w.Released order_id) :=
  decidable_of_iff
    (((w.own_token order_id .Destination).bind fun token =>
      (w.services .Destination).local_service.preparations.load token).map Preparation.state =
        some .Released)
    (by
      unfold Released
      simp only [Option.map_eq_some_iff, Option.bind_eq_some_iff, Option.mem_def]
      constructor
      · rintro ⟨p, ⟨token, htoken, hp⟩, hstate⟩
        exact ⟨token, htoken, p, hp, hstate⟩
      · rintro ⟨token, htoken, p, hp, hstate⟩
        exact ⟨p, ⟨token, htoken, hp⟩, hstate⟩)

instance (keccak256 : List UInt8 → B256) (chains : LegRole → ChainId)
    (order_id : CrossChainOrderId) (w : SystemWorld) (a : SystemAction) :
    Decidable (Orderly keccak256 chains order_id w a) :=
  match a with
  | .start _ => inferInstanceAs (Decidable w.Idle)
  | .access i reads => inferInstanceAs (Decidable (∀ p, w.At i p → ∀ q ∈ p.asking,
      q.TracksDelivery keccak256 chains order_id → reads.lost = false))
  | .stop i => inferInstanceAs (Decidable (∀ p, w.At i p → ∀ q ∈ p.asking,
      ¬ q.TracksDelivery keccak256 chains order_id))
  | .crash _ => inferInstanceAs (Decidable (∀ i p, w.At i p → ∀ q ∈ Program.asking p,
      ¬ q.TracksDelivery keccak256 chains order_id))
  | .outside _ => inferInstanceAs (Decidable True)

open LocalCrossChainService

/-- An origin leg to go with `sample_leg`. -/
def sample_origin_leg : LegQuote :=
  let quote : LegQuote :=
    { quote_id := 0, request_id := 9, role := .Origin, local_chain := ⟨1⟩, remote_chain := ⟨10⟩,
      input_token := 5, output_token := 6, amount_in := 100, amount_out := 95, route := .Direct,
      block_number := 10, expires_at_unix := 100,
      sources := [{ maker := ⟨1⟩, strategy_hash := ⟨1⟩, token := 6, amount := 10 }] }
  { quote with quote_id := leg_quote_id sample_hash quote }

def sample_quote : AggregateQuote :=
  { id := aggregate_id sample_hash sample_origin_leg LocalCrossChainService.sample_leg 0 none
    origin := sample_origin_leg
    destination := LocalCrossChainService.sample_leg
    amount_in := 100
    amount_out := 90
    bridge_fee := 0
    cctp_finality_threshold := none
    expires_at_unix := 100 }

def sample_chains : LegRole → ChainId
  | .Origin => ⟨1⟩
  | .Destination => ⟨10⟩

def sample_plan (role : LegRole) : ChainExecutionPlan :=
  { aggregate_id := sample_quote.id
    chain_id := sample_chains role
    steps := (initial_commands .Direct role).map fun command =>
      { command, target := 77, value := 0, calldata := [] } }

def sample_order : CrossChainOrderId := ⟨3⟩

/-- Both services have issued their quotes. -/
def sample_world : CrossChainWorld :=
  { sagas := ∅
    services := fun role =>
      { ChainService.new (sample_chains role) (fun _ => some 77) with
        local_service := { LocalCrossChainService.new (sample_chains role) with
          quotes := (∅ : BTreeMap B256 LegQuote).insert (sample_quote.leg role).quote_id
            (sample_quote.leg role) } } }

def sample_service_reads : ServiceReads :=
  { prepare := { checked_at := 10, ttl_at := 10, ledger := sample_ledger_reads 10 }
    committed_at := 10
    staged_at := 10
    validate := .ok ()
    materialize := .ok
    verdict := .Ok
    tick := [] }

def sample_reads (lost : Bool) : SystemReads :=
  { lost, service := sample_service_reads, quote_terms := .error .Pending,
    close_step := .error .Pending, author_direct := .error (.Unavailable "not configured") }

def sample_start : SystemAction :=
  .start (.start none sample_quote (sample_plan .Origin) (sample_plan .Destination) 10)

def sample_advance : SystemAction := .start (.advance 20)

/-- The call in slot `i` is answered `n` times. -/
def sample_steps (n i : ℕ) : List SystemAction :=
  List.replicate n (.access i (sample_reads false))

def sample_run (actions : List SystemAction) : World CrossChainWorld (SystemProgram Unit) :=
  Run.run (machine sample_hash sample_chains false sample_order).next
    (Machine.initial sample_world) actions

theorem sample_distinct (c : RemoteCommand) (hc : c ≠ .Deliver) :
    intent_of sample_hash sample_chains sample_order .Destination c ≠
      delivery sample_hash sample_chains sample_order := by
  cases c with
  | Deliver => exact absurd rfl hc
  | DispatchFillProof => decide +kernel
  | ClaimOrigin => decide +kernel
  | DispatchRepayment => decide +kernel
  | CloseDestination => decide +kernel

theorem sample_fresh : Fresh sample_hash sample_chains sample_order sample_world where
  saga := by decide +kernel
  unsent := by
    intro h
    simp [sample_world, ChainService.new, WalletkitExecutor.empty, Wallet.empty]
  handle := by decide +kernel
  landed := by
    intro h hh
    simp [sample_world, ChainService.new] at hh

/-- The order is started, delivered, and the delivery lands. -/
def delivered_actions : List SystemAction :=
  sample_start :: sample_steps 34 0 ++ sample_advance :: sample_steps 18 1 ++
    [.outside (.mine .Destination 0), .outside (.report .Destination 0 (.Confirmed 5 6))] ++
    sample_advance :: sample_steps 30 2

set_option maxRecDepth 8000 in
theorem delivered_orderly :
    Run.Along (machine sample_hash sample_chains false sample_order).next
      (Orderly sample_hash sample_chains sample_order) (Machine.initial sample_world)
      delivered_actions := by
  decide +kernel

set_option maxRecDepth 8000 in
theorem delivered_landed :
    ((sample_run delivered_actions).shared.services .Destination).Landed
      (delivery sample_hash sample_chains sample_order) := by
  decide +kernel

theorem delivered_order_stays_open :
    let w := (sample_run delivered_actions).shared
    (w.services .Destination).Landed (delivery sample_hash sample_chains sample_order) ∧
      ¬ w.Failed sample_order ∧ ¬ w.Released sample_order := by
  have hlanded := delivered_landed
  unfold sample_run at hlanded ⊢
  exact ⟨hlanded, delivered_never_compensated sample_hash sample_chains false sample_order
    sample_distinct sample_world sample_fresh delivered_actions delivered_orderly hlanded⟩

/-- The destination crashes between the send and the track, and the delivery
    lands. The next advance finds no status, the simulation rejects, and the
    order is compensated. -/
def crashed_actions : List SystemAction :=
  sample_start :: sample_steps 34 0 ++ sample_advance :: sample_steps 13 1 ++
    [.access 1 (sample_reads true), .outside (.restart .Destination fun _ => 100),
      .outside (.mine .Destination 0)] ++
    sample_advance :: sample_steps 30 2

theorem delivered_order_is_compensated :
    let w := (sample_run crashed_actions).shared
    (w.services .Destination).Landed (delivery sample_hash sample_chains sample_order) ∧
      w.Failed sample_order ∧ w.Released sample_order := by
  decide +kernel

end CrossChainWorld

end Solvent
