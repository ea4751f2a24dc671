import Mathlib
import Solvent.Crosschain.Alone
import Solvent.Crosschain.Delivery

/-! # Advancing again

    What a later, undisturbed advance makes of a saga that an earlier call left
    behind: after a delivery whose answer was lost, after a compensation one of
    whose releases failed, and after the quote of a delivered order expired.
-/

namespace Solvent

open BTreeMap LocalCrossChainService Interleave

namespace Proxy

variable {keccak256 : List UInt8 → B256} {chains : LegRole → ChainId}
variable {answers : CrossChainWorld.Answers} {w : CrossChainWorld}
variable {order_id : CrossChainOrderId} {saga : CrossChainSaga}

/-- An advance of a saga that is not to be reconciled takes its step. -/
theorem alone_advance (cctp : Bool) (now_unix : U64) (hsaga : w.sagas.load order_id = some saga)
    (hstate : saga.state ≠ .NeedsReconcile) :
    run_alone keccak256 chains answers w (advance keccak256 cctp order_id now_unix) =
      run_alone keccak256 chains answers w (step keccak256 cctp order_id saga now_unix) := by
  unfold advance
  rw [alone_bind, alone_load, hsaga, Program.thread_ok]
  simp only [hstate, if_false]

/-- A preparation that is not committed is not confirmed. -/
theorem not_confirms {p : Preparation} {role : LegRole} (hp : p.state ≠ .Committed) :
    ¬ confirms saga p role :=
  fun h => hp h.2.2.2.2

/-- **A delivery is refused** where either preparation is not committed: the
    advance fails and changes nothing. -/
theorem deliver_refused (role : LegRole) {token : PrepareToken} {p : Preparation} (now_unix : U64)
    (htoken : saga.prepared role = some token)
    (hrow : (w.services role).local_service.preparations.load token = some p)
    (hp : p.state ≠ .Committed) :
    ∃ e, run_alone keccak256 chains answers w (deliver keccak256 order_id saga now_unix) =
      (.error e, w) := by
  unfold deliver
  rw [alone_bind, alone_except]
  match horigin : saga.origin_prepare with
  | none => exact ⟨_, rfl⟩
  | some origin_token =>
  rw [required_token, Program.thread_ok, alone_bind, alone_except]
  match hdestination : saga.destination_prepare with
  | none => exact ⟨_, rfl⟩
  | some destination_token =>
  rw [required_token, Program.thread_ok, alone_bind, alone_inspect]
  match hleft : (w.services .Origin).local_service.load_owned origin_token with
  | .error e => exact ⟨_, rfl⟩
  | .ok origin =>
  simp only [Except.mapError, Program.thread_ok, alone_bind, alone_inspect]
  match hright : (w.services .Destination).local_service.load_owned destination_token with
  | .error e => exact ⟨_, rfl⟩
  | .ok destination =>
  simp only [Program.thread_ok, alone_except]
  -- The row of `role` is the one inspected, so one of the two checks fails.
  match role with
  | .Origin =>
    obtain rfl : origin_token = token := Option.some.inj (horigin.symm.trans htoken)
    obtain rfl : origin = p :=
      Option.some.inj ((load_owned_ok hleft).1.symm.trans hrow)
    simp only [validate_committed, not_confirms hp, if_false]
    exact ⟨_, rfl⟩
  | .Destination =>
    obtain rfl : destination_token = token := Option.some.inj (hdestination.symm.trans htoken)
    obtain rfl : destination = p :=
      Option.some.inj ((load_owned_ok hright).1.symm.trans hrow)
    simp only [validate_committed, not_confirms hp, if_false]
    by_cases hconfirms : confirms saga origin .Origin
    · simp only [hconfirms, if_true, Program.thread_ok]
      exact ⟨_, rfl⟩
    · simp only [hconfirms, if_false]
      exact ⟨_, rfl⟩

/-- The same for the whole advance of a saga about to deliver. -/
theorem advance_refused (cctp : Bool) (role : LegRole) {token : PrepareToken} {p : Preparation}
    (now_unix : U64) (hsaga : w.sagas.load order_id = some saga)
    (hstate : saga.state = .Prepared ∨ saga.state = .DestinationPending)
    (htoken : saga.prepared role = some token)
    (hrow : (w.services role).local_service.preparations.load token = some p)
    (hp : p.state ≠ .Committed) :
    ∃ e, run_alone keccak256 chains answers w (advance keccak256 cctp order_id now_unix) =
      (.error e, w) := by
  have hopen : saga.state ≠ .NeedsReconcile := by
    rcases hstate with h | h <;> simp [h]
  have hstep : step keccak256 cctp order_id saga now_unix =
      deliver keccak256 order_id saga now_unix := by
    unfold step
    rcases hstate with h | h <;> simp only [h]
  rw [alone_advance cctp now_unix hsaga hopen, hstep]
  exact deliver_refused role now_unix htoken hrow hp

end Proxy

namespace CrossChainWorld

variable {keccak256 : List UInt8 → B256} {chains : LegRole → ChainId}
variable {answers : CrossChainWorld.Answers} {w : CrossChainWorld}
variable {order_id : CrossChainOrderId} {saga : CrossChainSaga}

/-! ## A lost delivery -/

/-- The delivery is recorded: its evidence is stored and the saga has moved on. -/
def Resumed (w : CrossChainWorld) (order_id : CrossChainOrderId) : Prop :=
  ∃ saga, w.sagas.load order_id = some saga ∧ saga.state = .DestinationFinalized ∧
    saga.destination.isSome

instance (w : CrossChainWorld) (order_id : CrossChainOrderId) : Decidable (w.Resumed order_id) :=
  decidable_of_iff (∃ saga ∈ w.sagas.load order_id, saga.state = .DestinationFinalized ∧
    saga.destination.isSome) (by simp [Resumed])

/-- The saga is about to deliver, and the destination has executed it already. -/
structure DeliveredUnseen (w : CrossChainWorld) (order_id : CrossChainOrderId)
    (saga : CrossChainSaga) (token : PrepareToken) (p : Preparation) : Prop where
  stored : w.sagas.load order_id = some saga
  state : saga.state = .Prepared ∨ saga.state = .DestinationPending
  named : saga.destination_prepare = some token
  row : (w.services .Destination).local_service.preparations.load token = some p
  executed : p.state = .Executed

instance (w : CrossChainWorld) (order_id : CrossChainOrderId) :
    Decidable (∃ saga token p, w.DeliveredUnseen order_id saga token p) :=
  decidable_of_iff (∃ saga ∈ w.sagas.load order_id,
      (saga.state = .Prepared ∨ saga.state = .DestinationPending) ∧
      ∃ token ∈ saga.destination_prepare,
        ∃ p ∈ (w.services .Destination).local_service.preparations.load token,
          p.state = .Executed) (by
    constructor
    · rintro ⟨saga, hsaga, hstate, token, htoken, p, hp, hexecuted⟩
      exact ⟨saga, token, p, hsaga, hstate, htoken, hp, hexecuted⟩
    · rintro ⟨saga, token, p, h⟩
      exact ⟨saga, h.stored, h.state, token, h.named, p, h.row, h.executed⟩)

/-- **A lost delivery is never resumed**: whatever the services answer, a later
    advance fails and leaves everything as it is. The proxy asks for a committed
    preparation, and the delivery has made it an executed one. -/
theorem lost_delivery_never_resumed (keccak256 : List UInt8 → B256) (chains : LegRole → ChainId)
    (cctp : Bool) (order_id : CrossChainOrderId) (answers : Answers) (w : CrossChainWorld)
    (saga : CrossChainSaga) (token : PrepareToken) (p : Preparation)
    (h : w.DeliveredUnseen order_id saga token p) (now_unix : U64) :
    let outcome := call keccak256 chains cctp order_id answers w (.advance now_unix)
    (∃ e, outcome.1 = .error e) ∧ outcome.2 = w ∧ ¬ outcome.2.Resumed order_id := by
  intro outcome
  have hp : p.state ≠ .Committed := by simp [h.executed]
  obtain ⟨e, hrun⟩ : ∃ e, Proxy.run_alone keccak256 chains answers w
      (Proxy.advance keccak256 cctp order_id now_unix) = (.error e, w) :=
    Proxy.advance_refused cctp .Destination now_unix h.stored h.state h.named h.row hp
  have houtcome : outcome = (.error e, w) := by
    rw [← hrun]
    exact call_eq keccak256 chains answers cctp order_id w (.advance now_unix)
  rw [houtcome]
  refine ⟨⟨e, rfl⟩, rfl, ?_⟩
  rintro ⟨saga', hsaga', hfinal, _⟩
  obtain rfl : saga = saga' := Option.some.inj (h.stored.symm.trans hsaga')
  rcases h.state with hstate | hstate <;> simp [hstate] at hfinal

/-- The destination finalizes the delivery, and its answer is lost. -/
def lost_answer_actions : List SystemAction :=
  sample_start :: sample_steps 34 0 ++ sample_advance :: sample_steps 18 1 ++
    [.outside (.mine .Destination 0), .outside (.report .Destination 0 (.Confirmed 5 6))] ++
    sample_advance :: sample_steps 16 2 ++ [.access 2 (sample_reads true)]

def sample_answers : Answers :=
  { service := fun _ => sample_service_reads, quote_terms := .error .Pending,
    close_step := .error .Pending, author_direct := .error (.Unavailable "not configured") }

def lost_answer_world : CrossChainWorld := (sample_run lost_answer_actions).shared

set_option maxRecDepth 8000 in
/-- The run is evaluated once. -/
theorem lost_answer_run :
    (∃ saga token p, lost_answer_world.DeliveredUnseen sample_order saga token p) ∧
    (¬ (call sample_hash sample_chains false sample_order sample_answers lost_answer_world
      (.advance 30)).2.Resumed sample_order) := by
  decide +kernel

theorem lost_answer_unseen :
    ∃ saga token p, lost_answer_world.DeliveredUnseen sample_order saga token p :=
  lost_answer_run.1

theorem lost_delivery_stays_unseen :
    ∃ saga token p, lost_answer_world.DeliveredUnseen sample_order saga token p ∧
      ¬ (call sample_hash sample_chains false sample_order sample_answers lost_answer_world
        (.advance 30)).2.Resumed sample_order := by
  obtain ⟨saga, token, p, h⟩ := lost_answer_unseen
  exact ⟨saga, token, p, h, (lost_delivery_never_resumed sample_hash sample_chains false
    sample_order sample_answers lost_answer_world saga token p h 30).2.2⟩

theorem lost_answer_unresumed :
    ¬ (call sample_hash sample_chains false sample_order sample_answers lost_answer_world
      (.advance 30)).2.Resumed sample_order :=
  lost_answer_run.2

/-- Everything answers, and the order is not resumed. -/
theorem lost_delivery_is_stuck :
    (∃ saga token p, lost_answer_world.DeliveredUnseen sample_order saga token p) ∧
      ¬ (call sample_hash sample_chains false sample_order sample_answers lost_answer_world
        (.advance 30)).2.Resumed sample_order :=
  ⟨lost_answer_unseen, lost_answer_unresumed⟩

/-! ## A compensation that was half done -/

/-- One preparation is released, and the release of the other failed: the saga
    still names both, and the row of the other is as it was, or released without
    an answer. -/
structure HalfReleased (w : CrossChainWorld) (order_id : CrossChainOrderId) (saga : CrossChainSaga)
    (token : LegRole → PrepareToken) (p : LegRole → Preparation) (failed : LegRole) : Prop where
  stored : w.sagas.load order_id = some saga
  keyed : saga.order_id = order_id
  state : saga.state = .Preparing ∨ saga.state = .Prepared ∨ saga.state = .DestinationPending
  named : ∀ role, saga.prepared role = some (token role)
  row : ∀ role, (w.services role).local_service.preparations.load (token role) = some (p role)
  owned : ∀ role, (p role).chain_id = (w.services role).local_service.chain_id
  own : ∀ role, (p role).quote_id = saga.quote.id ∧ (p role).role = role ∧
    (p role).chain_id = (saga.quote.leg role).local_chain
  released : ∀ role, role ≠ failed → (p role).state = .Released
  unexecuted : (p failed).state ≠ .Executed

/-- The answers of a call during which every request to `failed` is lost. -/
def served_without (keccak256 : List UInt8 → B256) (chains : LegRole → ChainId)
    (answers : Answers) (failed : LegRole) (q : ProxyQuery) (w : CrossChainWorld) :
    q.Answer × CrossChainWorld :=
  match q with
  | .remote role r =>
    if role = failed then (.error SystemProgram.lost, w)
    else served keccak256 chains answers (.remote role r) w
  | q => served keccak256 chains answers q w

/-- The compensation is complete: the saga has failed, and both preparations it
    names are released. -/
def Compensated (w : CrossChainWorld) (order_id : CrossChainOrderId) : Prop :=
  ∃ saga, w.sagas.load order_id = some saga ∧ saga.state = .FailedBeforeDelivery ∧
    ∀ role, ∃ token, saga.prepared role = some token ∧
      ∃ p, (w.services role).local_service.preparations.load token = some p ∧
        p.state = .Released

/-- The ledger can void the reservation of the preparation `p`. -/
def Voidable (s : ChainService) (token : PrepareToken) (p : Preparation) : Prop :=
  p.state = .Released ∨
    ∃ b, s.local_service.ledger.memory token.reservation = some b ∧ b.2 ∈ releasable

/-- The ledger can commit the reservation first, where the retry does that: the
    origin's preparation is not committed yet and has not expired. -/
def Committable (s : ChainService) (now_unix : U64) (role : LegRole) (token : PrepareToken)
    (p : Preparation) : Prop :=
  role = .Origin → p.state = .Prepared → now_unix < p.expires_at_unix →
    ∃ b, s.local_service.ledger.memory token.reservation = some b ∧ b.2.is_open = true

section Compensation

variable {token : LegRole → PrepareToken} {p : LegRole → Preparation}

/-- A release of an unexecuted preparation succeeds where it can be voided. -/
theorem release_ok_iff {s : ChainService} {t : PrepareToken} {q : Preparation}
    (hrow : s.local_service.preparations.load t = some q)
    (howned : q.chain_id = s.local_service.chain_id) (hstate : q.state ≠ .Executed) :
    (∃ a, (Handler.operated s .release t).1 = .ok a) ↔ Voidable s t q := by
  have hcheck : Operation.release.check q = .ok { q with state := .Released } := by
    cases hq : q.state with
    | Executed => exact absurd hq hstate
    | Prepared | Committed | Released =>
      simp [Operation.check, invariant, Preparation.release, Preparation.move, hq, Except.mapError]
  unfold Handler.operated Voidable
  rw [perform_eq hrow howned, hcheck]
  by_cases hreleased : q.state = .Released
  · simp [Operation.settle, hreleased]
  · simp only [Operation.settle, hreleased, if_false, false_or]
    rw [← void_ok_iff]
    rcases void s.local_service.ledger t with ⟨e | ⟨⟩, ledger⟩
    · simp
    · simp

/-- The row of the other side, after its release. -/
theorem released_row {s : ChainService} {t : PrepareToken} {q a : Preparation}
    (hrow : s.local_service.preparations.load t = some q)
    (h : (Handler.operated s .release t).1 = .ok a) :
    (Handler.operated s .release t).2.local_service.preparations.load t =
        some { q with state := .Released } ∧
      (Handler.operated s .release t).2.local_service.chain_id = s.local_service.chain_id := by
  obtain ⟨q', hrow', _, hcheck, _, hafter⟩ := perform_ok h
  obtain rfl : q = q' := Option.some.inj (hrow.symm.trans hrow')
  have ha : a = { q with state := .Released } := check_ok hcheck
  have hkey : a.token = t := by
    rw [ha]
    exact s.local_service.preparations.keyed t q hrow
  have hservice : (Handler.operated s .release t).2.local_service =
      (s.local_service.perform .release t).2 := rfl
  rw [hservice, hafter]
  refine ⟨?_, rfl⟩
  rw [SqlitePreparationStore.load_write, if_pos hkey, ha]

/-- The failure of a release, as the proxy keeps it. -/
def release_error (answer : Except SolventError Preparation) : Option RemoteSolventError :=
  match answer with
  | .ok _ => none
  | .error e => some (internal_error e)

theorem alone_release {role : LegRole} {t : PrepareToken} (htoken : saga.prepared role = some t) :
    Proxy.run_alone keccak256 chains answers w (Proxy.release role saga) =
      (.ok (release_error (Handler.operated (w.services role) .release t).1),
        w.set role (Handler.operated (w.services role) .release t).2) := by
  unfold Proxy.release
  rw [htoken]
  simp only
  rw [Proxy.alone_bind, Proxy.alone_remote, Program.thread_ok]
  have hserve : Proxy.outcome keccak256 chains answers w role (.release t) =
      Handler.operated (w.services role) .release t :=
    Handler.alone_release keccak256 (answers.service role) (w.services role) t
  rw [hserve]
  match (Handler.operated (w.services role) .release t).1 with
  | .ok a => rfl
  | .error e => rfl

/-- The world after both releases. -/
def released_world (w : CrossChainWorld) (token : LegRole → PrepareToken) : CrossChainWorld :=
  (w.set .Origin (Handler.operated (w.services .Origin) .release (token .Origin)).2).set
    .Destination (Handler.operated (w.services .Destination) .release (token .Destination)).2

theorem released_world_services (w : CrossChainWorld) (token : LegRole → PrepareToken)
    (role : LegRole) :
    (w.released_world token).services role =
      (Handler.operated (w.services role) .release (token role)).2 := by
  match role with
  | .Destination => exact set_same _ .Destination _
  | .Origin => exact (set_other _ _ (by decide)).trans (set_same w .Origin _)

/-- **Compensation**, run alone. -/
theorem alone_compensate (reason : String) (hkeyed : saga.order_id = order_id)
    {stored : CrossChainSaga} (hstored : w.sagas.load order_id = some stored)
    (hpermits : saga.state.permits .FailedBeforeDelivery)
    (hnamed : ∀ role, saga.prepared role = some (token role)) :
    (Proxy.run_alone keccak256 chains answers w (Proxy.compensate saga reason)).2 =
      { w.released_world token with
        sagas := w.sagas.insert order_id
          (match (release_error (Handler.operated (w.services .Origin) .release
              (token .Origin)).1).or (release_error (Handler.operated (w.services .Destination)
              .release (token .Destination)).1) with
          | some error =>
            { saga with failure := some s!"{reason}; compensation pending: {error.to_string}" }
          | none =>
            { saga with failure := some reason, state := .FailedBeforeDelivery }) } := by
  have hother : (w.set .Origin (Handler.operated (w.services .Origin) .release
      (token .Origin)).2).services .Destination = w.services .Destination :=
    set_other _ _ (by decide)
  unfold Proxy.compensate
  rw [Proxy.alone_bind, alone_release (hnamed .Origin), Program.thread_ok, Proxy.alone_bind,
    alone_release (hnamed .Destination), Program.thread_ok, hother]
  generalize hfirst : (release_error (Handler.operated (w.services .Origin) .release
    (token .Origin)).1).or (release_error (Handler.operated (w.services .Destination) .release
    (token .Destination)).1) = first
  match first with
  | some error =>
    simp only
    have hrow : (w.released_world token).sagas.load
        ({ saga with
          failure := some s!"{reason}; compensation pending: {error.to_string}" } :
            CrossChainSaga).order_id = some stored := by
      show w.sagas.load saga.order_id = some stored
      rw [hkeyed, hstored]
    rw [Proxy.alone_bind]
    have hupdate := Proxy.alone_update keccak256 chains answers (w.released_world token) hrow
    unfold released_world at hupdate
    rw [hupdate, Program.thread_ok, Proxy.alone_throw]
    show _ = ({ w.released_world token with sagas := _ } : CrossChainWorld)
    simp only [hkeyed, released_world, set_sagas]
  | none =>
    simp only
    have hrow : (w.released_world token).sagas.load
        ({ saga with failure := some reason, state := .FailedBeforeDelivery } :
          CrossChainSaga).order_id = some stored := by
      show w.sagas.load saga.order_id = some stored
      rw [hkeyed, hstored]
    have htransition : ({ saga with failure := some reason } : CrossChainSaga).transition
        .FailedBeforeDelivery =
        .ok { saga with failure := some reason, state := .FailedBeforeDelivery } := by
      simp [CrossChainSaga.transition, hpermits]
    rw [Proxy.alone_bind, Proxy.alone_except, htransition, Program.thread_ok]
    have hsave := Proxy.alone_save keccak256 chains answers (w.released_world token) hrow
    unfold released_world at hsave
    rw [hsave]
    simp only [hkeyed, released_world, set_sagas]

theorem release_error_none (answer : Except SolventError Preparation) :
    release_error answer = none ↔ ∃ a, answer = .ok a := by
  match answer with
  | .ok a => simp [release_error]
  | .error e => simp [release_error]

theorem load_insert_same (sagas : SqliteSagaStore) (order_id : CrossChainOrderId)
    (saga : CrossChainSaga) :
    SqliteSagaStore.load (sagas.insert order_id saga) order_id = some saga := by
  simp [SqliteSagaStore.load]

/-- A world whose saga has not failed is not compensated. -/
theorem not_compensated (hstored : w.sagas.load order_id = some saga)
    (hstate : saga.state ≠ .FailedBeforeDelivery) : ¬ w.Compensated order_id := by
  rintro ⟨saga', hsaga', hfailed, _⟩
  obtain rfl : saga = saga' := Option.some.inj (hstored.symm.trans hsaga')
  exact hstate hfailed

/-- **A compensation completes** exactly where both reservations can be voided. -/
theorem compensated_iff (reason : String) (hkeyed : saga.order_id = order_id)
    {stored : CrossChainSaga} (hstored : w.sagas.load order_id = some stored)
    (hpermits : saga.state.permits .FailedBeforeDelivery)
    (hopen : saga.state ≠ .FailedBeforeDelivery)
    (hnamed : ∀ role, saga.prepared role = some (token role))
    (hrow : ∀ role, (w.services role).local_service.preparations.load (token role) =
      some (p role))
    (howned : ∀ role, (p role).chain_id = (w.services role).local_service.chain_id)
    (hunexecuted : ∀ role, (p role).state ≠ .Executed) :
    (Proxy.run_alone keccak256 chains answers w
        (Proxy.compensate saga reason)).2.Compensated order_id ↔
      ∀ role, Voidable (w.services role) (token role) (p role) := by
  rw [alone_compensate reason hkeyed hstored hpermits hnamed]
  have hok : ∀ role, Voidable (w.services role) (token role) (p role) ↔
      release_error (Handler.operated (w.services role) .release (token role)).1 = none := by
    intro role
    rw [release_error_none, release_ok_iff (hrow role) (howned role) (hunexecuted role)]
  generalize hfirst : (release_error (Handler.operated (w.services .Origin) .release
    (token .Origin)).1).or (release_error (Handler.operated (w.services .Destination) .release
    (token .Destination)).1) = first
  match first with
  | some error =>
    -- A release failed: the saga keeps its state.
    constructor
    · intro h
      exact absurd h (not_compensated (load_insert_same _ _ _) hopen)
    · intro h
      rw [(hok .Origin).mp (h .Origin), (hok .Destination).mp (h .Destination)] at hfirst
      cases hfirst
  | none =>
    obtain ⟨horigin, hdestination⟩ := Option.or_eq_none_iff.mp hfirst
    have hnone : ∀ role,
        release_error (Handler.operated (w.services role) .release (token role)).1 = none := by
      intro role
      match role with
      | .Origin => exact horigin
      | .Destination => exact hdestination
    constructor
    · intro _ role
      exact (hok role).mpr (hnone role)
    · intro _
      refine ⟨_, load_insert_same _ _ _, rfl, ?_⟩
      intro role
      obtain ⟨a, ha⟩ := (release_error_none _).mp (hnone role)
      refine ⟨token role, hnamed role, { p role with state := .Released }, ?_, rfl⟩
      show ((w.released_world token).services role).local_service.preparations.load _ = _
      rw [released_world_services]
      exact (released_row (hrow role) ha).1

section Lost

variable (failed : LegRole)

/-- The release that is lost. -/
theorem without_release_failed {t : PrepareToken} (htoken : saga.prepared failed = some t) :
    (Proxy.release failed saga).run.run (served_without keccak256 chains answers failed) w =
      (.ok (some SystemProgram.lost), w) := by
  unfold Proxy.release
  rw [htoken]
  simp only
  have hremote : (Proxy.remote failed (.release t)).run.run
      (served_without keccak256 chains answers failed) w = (.ok (.error SystemProgram.lost), w) := by
    show (Except.ok (served_without keccak256 chains answers failed (.remote failed (.release t))
      w).1, (served_without keccak256 chains answers failed (.remote failed (.release t)) w).2) = _
    simp only [served_without, if_true]
    rfl
  rw [Program.run_except_bind, hremote]
  rfl

/-- The release that is answered. -/
theorem without_release_other {role : LegRole} (hrole : role ≠ failed) {t : PrepareToken}
    {a : Preparation} (htoken : saga.prepared role = some t)
    (hok : (Handler.operated (w.services role) .release t).1 = .ok a) :
    (Proxy.release role saga).run.run (served_without keccak256 chains answers failed) w =
      (.ok none, w.set role (Handler.operated (w.services role) .release t).2) := by
  unfold Proxy.release
  rw [htoken]
  simp only
  have hserve : Proxy.outcome keccak256 chains answers w role (.release t) =
      Handler.operated (w.services role) .release t :=
    Handler.alone_release keccak256 (answers.service role) (w.services role) t
  have hremote : (Proxy.remote role (.release t)).run.run
      (served_without keccak256 chains answers failed) w =
      (.ok (.ok a), w.set role (Handler.operated (w.services role) .release t).2) := by
    show (Except.ok (served_without keccak256 chains answers failed (.remote role (.release t))
      w).1, (served_without keccak256 chains answers failed (.remote role (.release t)) w).2) = _
    simp only [served_without, hrole, if_false, served, hserve, hok]
    rfl
  rw [Program.run_except_bind, hremote]
  rfl

/-- The row the world keeps of a role: the other side's is released. -/
theorem half_released_rows {other : LegRole} (hrole : other ≠ failed)
    (hrow : ∀ role, (w.services role).local_service.preparations.load (token role) =
      some (p role))
    (howned : ∀ role, (p role).chain_id = (w.services role).local_service.chain_id)
    {a : Preparation}
    (hok : (Handler.operated (w.services other) .release (token other)).1 = .ok a) (role : LegRole) :
    let services := (w.set other (Handler.operated (w.services other) .release
      (token other)).2).services
    let q := Function.update p other { p other with state := .Released } role
    (services role).local_service.preparations.load (token role) = some q ∧
      q.chain_id = (services role).local_service.chain_id := by
  intro services q
  obtain ⟨hafter, hchain⟩ := released_row (hrow other) hok
  by_cases hother : role = other
  · subst hother
    have hq : q = { p role with state := .Released } := Function.update_self _ _ _
    have hservice : services role = (Handler.operated (w.services role) .release (token role)).2 :=
      set_same _ _ _
    rw [hq, hservice, hchain]
    exact ⟨hafter, howned role⟩
  · have hq : q = p role := Function.update_of_ne hother _ _
    have hservice : services role = w.services role := set_other _ _ hother
    rw [hq, hservice]
    exact ⟨hrow role, howned role⟩

end Lost

/-- **A compensation one of whose releases is lost** leaves the order half
    released, in the state it was in. -/
theorem half_released_of_lost_release (failed : LegRole) (reason : String)
    (hkeyed : saga.order_id = order_id) {stored : CrossChainSaga}
    (hstored : w.sagas.load order_id = some stored)
    (hstate : saga.state = .Preparing ∨ saga.state = .Prepared ∨
      saga.state = .DestinationPending)
    (hnamed : ∀ role, saga.prepared role = some (token role))
    (hrow : ∀ role, (w.services role).local_service.preparations.load (token role) =
      some (p role))
    (howned : ∀ role, (p role).chain_id = (w.services role).local_service.chain_id)
    (hown : ∀ role, (p role).quote_id = saga.quote.id ∧ (p role).role = role ∧
      (p role).chain_id = (saga.quote.leg role).local_chain)
    (hunexecuted : ∀ role, (p role).state ≠ .Executed)
    (hvoidable : ∀ role, role ≠ failed → Voidable (w.services role) (token role) (p role)) :
    ∃ saga' p', ((Proxy.compensate saga reason).run.run
        (served_without keccak256 chains answers failed) w).2.HalfReleased order_id saga' token p'
        failed ∧ saga'.state = saga.state ∧ p' failed = p failed := by
  obtain ⟨other, hother, honly⟩ : ∃ other, other ≠ failed ∧
      ∀ role, role ≠ failed → role = other := by
    cases failed with
    | Origin => exact ⟨.Destination, by decide, fun role h => by cases role <;> simp_all⟩
    | Destination => exact ⟨.Origin, by decide, fun role h => by cases role <;> simp_all⟩
  obtain ⟨a, hok⟩ := (release_ok_iff (hrow other) (howned other) (hunexecuted other)).mpr
    (hvoidable other hother)
  let pending : CrossChainSaga := { saga with
    failure := some s!"{reason}; compensation pending: {SystemProgram.lost.to_string}" }
  have hend : ((Proxy.compensate saga reason).run.run
      (served_without keccak256 chains answers failed) w).2 =
      { w.set other (Handler.operated (w.services other) .release (token other)).2 with
        sagas := w.sagas.insert order_id pending } := by
    have hsaved : ∀ (failed : LegRole) (after : CrossChainWorld), after.sagas = w.sagas → (Proxy.update pending >>= fun _ =>
        (throw (.RemoteSolvent SystemProgram.lost) : Proxy CrossChainSaga)).run.run
          (served_without keccak256 chains answers failed) after =
        (.error (.RemoteSolvent SystemProgram.lost),
          { after with sagas := w.sagas.insert order_id pending }) := by
      intro failed after hafter
      have hupdate : after.sagas.update pending = (.ok (), w.sagas.insert order_id pending) := by
        rw [hafter]
        simp only [SqliteSagaStore.update, pending, hkeyed, hstored]
      rw [Program.run_except_bind]
      show Program.thread ((after.sagas.update pending).1.mapError SolventError.SagaStore,
        ({ after with sagas := (after.sagas.update pending).2 } : CrossChainWorld)) _ = _
      rw [hupdate]
      rfl
    unfold Proxy.compensate
    rw [Program.run_except_bind]
    cases failed with
    | Origin =>
      cases other with
      | Origin => exact absurd rfl hother
      | Destination =>
        rw [without_release_failed .Origin (hnamed .Origin), Program.thread_ok,
          Program.run_except_bind,
          without_release_other .Origin hother (hnamed .Destination) hok, Program.thread_ok]
        exact congrArg Prod.snd (hsaved .Origin (w.set .Destination _) rfl)
    | Destination =>
      cases other with
      | Origin =>
        rw [without_release_other .Destination hother (hnamed .Origin) hok, Program.thread_ok,
          Program.run_except_bind, without_release_failed .Destination (hnamed .Destination),
          Program.thread_ok]
        exact congrArg Prod.snd (hsaved .Destination (w.set .Origin _) rfl)
      | Destination => exact absurd rfl hother
  refine ⟨pending, Function.update p other { p other with state := .Released }, ?_, rfl,
    Function.update_of_ne hother.symm _ _⟩
  rw [hend]
  refine ⟨load_insert_same _ _ _, hkeyed, hstate, hnamed, ?_, ?_, ?_, ?_, ?_⟩
  · intro role
    exact (half_released_rows failed hother hrow howned hok role).1
  · intro role
    exact (half_released_rows failed hother hrow howned hok role).2
  · intro role
    by_cases hrole : role = other
    · subst hrole
      rw [Function.update_self]
      exact hown role
    · rw [Function.update_of_ne hrole]
      exact hown role
  · intro role hrole
    obtain rfl := honly role hrole
    rw [Function.update_self]
  · rw [Function.update_of_ne hother.symm]
    exact hunexecuted failed

/-- Inspecting a preparation the saga names. -/
theorem alone_preparation {role : LegRole} {t : PrepareToken} {q : Preparation}
    (htoken : saga.prepared role = some t)
    (hrow : (w.services role).local_service.preparations.load t = some q)
    (howned : q.chain_id = (w.services role).local_service.chain_id) :
    Proxy.run_alone keccak256 chains answers w (Proxy.preparation role saga) =
      (.ok (.ok q), w) := by
  unfold Proxy.preparation
  rw [htoken]
  show (Except.ok (((w.services role).local_service.load_owned t).mapError internal_error),
    w.set role (w.services role)) = _
  rw [load_owned_eq hrow howned, set_get]
  rfl

/-- Continuing the preparation of a saga that names both goes on to commit. -/
theorem alone_continue_preparation (hnamed : ∀ role, saga.prepared role = some (token role))
    (hrow : ∀ role, (w.services role).local_service.preparations.load (token role) =
      some (p role))
    (howned : ∀ role, (p role).chain_id = (w.services role).local_service.chain_id) :
    Proxy.run_alone keccak256 chains answers w (Proxy.continue_preparation saga) =
      Proxy.run_alone keccak256 chains answers w
        (Proxy.commit_leg .Origin saga (p .Origin)
          (Proxy.commit_leg .Destination saga (p .Destination)
            (Proxy.finish_preparation saga))) := by
  have hrecord : ∀ role, Proxy.record_token role saga (p role) = pure saga := by
    intro role
    unfold Proxy.record_token
    simp [hnamed role]
  unfold Proxy.continue_preparation
  rw [Proxy.alone_bind, alone_preparation (hnamed .Origin) (hrow .Origin) (howned .Origin),
    Program.thread_ok]
  simp only [Proxy.or_compensate]
  rw [hrecord .Origin, Proxy.alone_bind, Proxy.alone_pure, Program.thread_ok, Proxy.alone_bind,
    alone_preparation (hnamed .Destination) (hrow .Destination) (howned .Destination),
    Program.thread_ok]
  simp only
  rw [hrecord .Destination, Proxy.alone_bind, Proxy.alone_pure, Program.thread_ok]

/-- A leg that was released sends the order to compensation. -/
theorem commit_leg_released {role : LegRole} {q : Preparation} (hq : q.state = .Released)
    (k : Proxy CrossChainSaga) :
    Proxy.commit_leg role saga q k = Proxy.compensate saga (Proxy.unusable role) := by
  unfold Proxy.commit_leg
  simp only [hq]

/-- A leg that is committed as the saga expects lets the order go on. -/
theorem commit_leg_committed {role : LegRole} {q : Preparation} (hq : q.state = .Committed)
    (hconfirms : Proxy.confirms saga q role) (k : Proxy CrossChainSaga) :
    Proxy.commit_leg role saga q k = k := by
  unfold Proxy.commit_leg
  simp only [hq, hconfirms, if_true]

/-- A leg that is only prepared is committed first. -/
theorem alone_commit_leg {role : LegRole} {q : Preparation} (hq : q.state = .Prepared)
    (k : Proxy CrossChainSaga) :
    Proxy.run_alone keccak256 chains answers w (Proxy.commit_leg role saga q k) =
      let outcome := Handler.operated (w.services role)
        (.commit (answers.service role).committed_at) q.token
      Proxy.run_alone keccak256 chains answers (w.set role outcome.2)
        (Proxy.or_compensate saga (outcome.1.mapError internal_error) fun a =>
          if Proxy.confirms saga a role then k
          else Proxy.compensate saga (Proxy.InvalidCrossChain_text Proxy.unconfirmed)) := by
  unfold Proxy.commit_leg
  simp only [hq]
  rw [Proxy.alone_bind, Proxy.alone_remote, Program.thread_ok]
  have hserve : Proxy.outcome keccak256 chains answers w role (.commit q.token) =
      Handler.operated (w.services role) (.commit (answers.service role).committed_at) q.token :=
    Handler.alone_commit keccak256 (answers.service role) (w.services role) q.token
  rw [hserve]
  rfl

/-- What committing a prepared row does, by the clock and the ledger. -/
theorem operated_commit {s : ChainService} {t : PrepareToken} {q : Preparation} (now_unix : U64)
    (hrow : s.local_service.preparations.load t = some q)
    (howned : q.chain_id = s.local_service.chain_id) (hq : q.state = .Prepared) :
    Handler.operated s (.commit now_unix) t =
      if q.expires_at_unix ≤ now_unix then
        (.error (.InvalidCrossChain "preparation expired before commit"), s)
      else match s.local_service.ledger.commit t.reservation with
        | (.error e, ledger) =>
          (.error e, { s with local_service := { s.local_service with ledger } })
        | (.ok (), ledger) =>
          (.ok { q with state := .Committed },
            { s with local_service := { s.local_service with
                ledger
                preparations := s.local_service.preparations.write
                  { q with state := .Committed } } }) := by
  unfold Handler.operated
  rw [perform_eq hrow howned]
  by_cases hexpired : q.expires_at_unix ≤ now_unix
  · simp only [Operation.check, check_commit, hexpired, if_true]
  · have hcheck : Operation.check (.commit now_unix) q = .ok { q with state := .Committed } := by
      simp [Operation.check, check_commit, hexpired, invariant, Preparation.commit,
        Preparation.move, hq, Except.mapError]
    simp only [hcheck, hexpired, if_false, Operation.settle]
    rcases s.local_service.ledger.commit t.reservation with ⟨e | ⟨⟩, ledger⟩
    · rfl
    · rfl

/-- The ledger commits an open reservation, and no other. -/
theorem commit_ok_iff (ledger : LedgerService) (t : PrepareToken) :
    (ledger.commit t.reservation).1 = .ok () ↔
      ∃ b, ledger.memory t.reservation = some b ∧ b.2.is_open = true := by
  rw [ledger.commit_answer]
  match ledger.memory t.reservation with
  | none => simp [LedgerService.active_answer]
  | some (owner, state) => simp [LedgerService.active_answer]

/-- What the ledger refuses to commit is reported as unavailable. -/
theorem commit_unavailable {ledger : LedgerService} {t : PrepareToken} {e : SolventError}
    (h : (ledger.commit t.reservation).1 = .error e) :
    ∃ message, internal_error e = .Unavailable message := by
  rw [ledger.commit_answer] at h
  match hmemory : ledger.memory t.reservation with
  | none =>
    rw [hmemory] at h
    obtain rfl := Except.error.inj h
    exact ⟨_, rfl⟩
  | some (owner, state) =>
    simp only [hmemory, LedgerService.active_answer] at h
    split at h
    · cases h
    · obtain rfl := Except.error.inj h
      exact ⟨_, rfl⟩

/-- A committed reservation is known to memory as one that can be voided. -/
theorem committed_releasable {ledger : LedgerService} {t : PrepareToken}
    (h : (ledger.commit t.reservation).1 = .ok ()) :
    ∃ b, (ledger.commit t.reservation).2.memory t.reservation = some b ∧ b.2 ∈ releasable := by
  obtain ⟨⟨owner, state⟩, hmemory, hopen⟩ := (commit_ok_iff ledger t).mp h
  rw [(ledger.shifts_commit t.reservation).memory, if_pos (List.mem_singleton.mpr rfl), hmemory]
  have hmem := LedgerService.open_iff_mem.mp hopen
  simp only [List.mem_cons, List.not_mem_nil, or_false] at hmem
  rcases hmem with rfl | rfl <;> simp [LedgerService.shift, releasable]

theorem HalfReleased.none_executed {failed : LegRole}
    (h : w.HalfReleased order_id saga token p failed) (role : LegRole) :
    (p role).state ≠ .Executed := by
  by_cases hrole : role = failed
  · rw [hrole]
    exact h.unexecuted
  · simp [h.released role hrole]

/-- A compensation of a half released order, where the other side can be voided. -/
theorem HalfReleased.compensated_iff {failed : LegRole}
    (h : w.HalfReleased order_id saga token p failed) (hpreparing : saga.state = .Preparing)
    (reason : String) :
    (Proxy.run_alone keccak256 chains answers w
        (Proxy.compensate saga reason)).2.Compensated order_id ↔
      Voidable (w.services failed) (token failed) (p failed) := by
  have hpermits : saga.state.permits .FailedBeforeDelivery := by
    rw [hpreparing]
    rfl
  have hopen : saga.state ≠ .FailedBeforeDelivery := by simp [hpreparing]
  rw [CrossChainWorld.compensated_iff reason h.keyed h.stored hpermits hopen h.named h.row h.owned
    h.none_executed]
  constructor
  · intro hall
    exact hall failed
  · intro hfailed role
    by_cases hrole : role = failed
    · rw [hrole]
      exact hfailed
    · exact .inl (h.released role hrole)

/-- The destination's release failed: the origin is found released, and both
    releases are made again. -/
theorem HalfReleased.completes_destination
    (h : w.HalfReleased order_id saga token p .Destination)
    (hpreparing : saga.state = .Preparing) :
    (Proxy.run_alone keccak256 chains answers w
        (Proxy.continue_preparation saga)).2.Compensated order_id ↔
      Voidable (w.services .Destination) (token .Destination) (p .Destination) := by
  rw [alone_continue_preparation h.named h.row h.owned,
    commit_leg_released (h.released .Origin (by decide))]
  exact h.compensated_iff hpreparing _

/-- Committing the origin's row leaves the order half released. -/
theorem HalfReleased.after_commit (h : w.HalfReleased order_id saga token p .Origin)
    (ledger : LedgerService) :
    (w.set .Origin { w.services .Origin with
      local_service := { (w.services .Origin).local_service with
        ledger
        preparations := (w.services .Origin).local_service.preparations.write
          { p .Origin with state := .Committed } } }).HalfReleased order_id saga token
      (Function.update p .Origin { p .Origin with state := .Committed }) .Origin := by
  have hkey : (p .Origin).token = token .Origin :=
    (w.services .Origin).local_service.preparations.keyed _ _ (h.row .Origin)
  have hother : LegRole.Destination ≠ LegRole.Origin := by decide
  refine ⟨h.stored, h.keyed, h.state, h.named, ?_, ?_, ?_, ?_, ?_⟩
  · intro role
    match role with
    | .Origin =>
      rw [set_same, Function.update_self]
      exact (SqlitePreparationStore.load_write _ _ _).trans (if_pos hkey)
    | .Destination =>
      rw [set_other _ _ hother, Function.update_of_ne hother]
      exact h.row .Destination
  · intro role
    match role with
    | .Origin =>
      rw [set_same, Function.update_self]
      exact h.owned .Origin
    | .Destination =>
      rw [set_other _ _ hother, Function.update_of_ne hother]
      exact h.owned .Destination
  · intro role
    match role with
    | .Origin =>
      rw [Function.update_self]
      exact h.own .Origin
    | .Destination =>
      rw [Function.update_of_ne hother]
      exact h.own .Destination
  · intro role hrole
    rw [Function.update_of_ne hrole]
    exact h.released role hrole
  · rw [Function.update_self]
    simp

/-- The origin's release failed: its preparation is committed again before the
    destination is found released. -/
theorem HalfReleased.completes_origin (h : w.HalfReleased order_id saga token p .Origin)
    (hpreparing : saga.state = .Preparing) :
    (Proxy.run_alone keccak256 chains answers w
        (Proxy.continue_preparation saga)).2.Compensated order_id ↔
      Voidable (w.services .Origin) (token .Origin) (p .Origin) ∧
        Committable (w.services .Origin) (answers.service .Origin).committed_at .Origin
          (token .Origin) (p .Origin) := by
  rw [alone_continue_preparation h.named h.row h.owned,
    commit_leg_released (h.released .Destination (by decide))]
  have hkey : (p .Origin).token = token .Origin :=
    (w.services .Origin).local_service.preparations.keyed _ _ (h.row .Origin)
  match hstate : (p .Origin).state with
  | .Executed => exact absurd hstate h.unexecuted
  | .Released =>
    rw [commit_leg_released hstate, h.compensated_iff hpreparing]
    simp [Committable, hstate]
  | .Committed =>
    have hconfirms : Proxy.confirms saga (p .Origin) .Origin := by
      obtain ⟨hquote, hrole, hchain⟩ := h.own .Origin
      exact ⟨by rw [hkey, h.named], hquote, hrole, hchain, hstate⟩
    rw [commit_leg_committed hstate hconfirms, h.compensated_iff hpreparing]
    simp [Committable, hstate]
  | .Prepared =>
    rw [alone_commit_leg hstate, hkey]
    simp only
    rw [operated_commit _ (h.row .Origin) (h.owned .Origin) hstate]
    by_cases hexpired : (p .Origin).expires_at_unix ≤ (answers.service .Origin).committed_at
    · -- The service refuses, and the order is compensated from where it is.
      simp only [hexpired, if_true, Except.mapError, internal_error, Proxy.or_compensate, set_get]
      rw [h.compensated_iff hpreparing]
      have hlate : ¬ (answers.service .Origin).committed_at < (p .Origin).expires_at_unix :=
        not_lt.mpr hexpired
      simp [Committable, hlate]
    · simp only [hexpired, if_false]
      have hearly : (answers.service .Origin).committed_at < (p .Origin).expires_at_unix :=
        not_le.mp hexpired
      match hcommit : (w.services .Origin).local_service.ledger.commit
          (token .Origin).reservation with
      | (.error e, ledger) =>
        obtain ⟨message, hmessage⟩ := commit_unavailable (congrArg Prod.fst hcommit)
        simp only [Except.mapError, hmessage, Proxy.or_compensate, Proxy.alone_throw]
        constructor
        · intro hdone
          exact absurd hdone (not_compensated h.stored (by simp [hpreparing]))
        · rintro ⟨_, hcommittable⟩
          have hok := (commit_ok_iff _ _).mpr (hcommittable rfl hstate hearly)
          rw [hcommit] at hok
          cases hok
      | (.ok (), ledger) =>
        have hok : ((w.services .Origin).local_service.ledger.commit
            (token .Origin).reservation).1 = .ok () := congrArg Prod.fst hcommit
        obtain ⟨b, hmemory, hopen⟩ := (commit_ok_iff _ _).mp hok
        have hvoidable : Voidable (w.services .Origin) (token .Origin) (p .Origin) := by
          refine .inr ⟨b, hmemory, ?_⟩
          have hmem := LedgerService.open_iff_mem.mp hopen
          simp only [List.mem_cons, List.not_mem_nil, or_false] at hmem
          rcases hmem with hb | hb <;> simp [hb, releasable]
        have hright : Voidable (w.services .Origin) (token .Origin) (p .Origin) ∧
            Committable (w.services .Origin) (answers.service .Origin).committed_at .Origin
              (token .Origin) (p .Origin) :=
          ⟨hvoidable, fun _ _ _ => ⟨b, hmemory, hopen⟩⟩
        refine iff_of_true ?_ hright
        -- The commit went through: the same half released order, one row later.
        have hafter := h.after_commit ledger
        have hconfirms : Proxy.confirms saga { p .Origin with state := .Committed } .Origin := by
          obtain ⟨hquote, hrole, hchain⟩ := h.own .Origin
          exact ⟨by rw [hkey, h.named], hquote, hrole, hchain, rfl⟩
        simp only [Except.mapError, Proxy.or_compensate, hconfirms, if_true]
        rw [hafter.compensated_iff hpreparing]
        right
        rw [set_same]
        have hreleasable := committed_releasable hok
        rw [hcommit] at hreleasable
        exact hreleasable

end Compensation

/-- **A half done compensation completes** at a later undisturbed advance exactly
    where the order is still preparing and the side whose release failed can be
    voided, after the commit the retry makes first. An order that was about to
    deliver is refused for good: a released preparation is not committed. -/
theorem compensation_completes_iff (keccak256 : List UInt8 → B256) (chains : LegRole → ChainId)
    (cctp : Bool) (order_id : CrossChainOrderId) (answers : Answers) (w : CrossChainWorld)
    (saga : CrossChainSaga) (token : LegRole → PrepareToken) (p : LegRole → Preparation)
    (failed : LegRole) (h : w.HalfReleased order_id saga token p failed) (now_unix : U64) :
    (call keccak256 chains cctp order_id answers w (.advance now_unix)).2.Compensated order_id ↔
      saga.state = .Preparing ∧ Voidable (w.services failed) (token failed) (p failed) ∧
        Committable (w.services failed) (answers.service failed).committed_at failed
          (token failed) (p failed) := by
  have hcall : call keccak256 chains cctp order_id answers w (.advance now_unix) =
      Proxy.run_alone keccak256 chains answers w
        (Proxy.advance keccak256 cctp order_id now_unix) :=
    call_eq keccak256 chains answers cctp order_id w (.advance now_unix)
  rw [hcall]
  rcases h.state with hstate | hdelivering
  · -- Preparing: the retry continues the preparation and finds a released leg.
    have hstep : Proxy.step keccak256 cctp order_id saga now_unix =
        Proxy.continue_preparation saga := by
      unfold Proxy.step
      simp only [hstate]
    rw [Proxy.alone_advance cctp now_unix h.stored (by simp [hstate]), hstep]
    match failed with
    | .Destination =>
      rw [h.completes_destination hstate]
      simp [hstate, Committable]
    | .Origin =>
      rw [h.completes_origin hstate]
      simp [hstate]
  · -- About to deliver: the released leg is not the committed one the proxy asks for.
    have hnot : saga.state ≠ .Preparing := by
      rcases hdelivering with hs | hs <;> simp [hs]
    have hunfailed : saga.state ≠ .FailedBeforeDelivery := by
      rcases hdelivering with hs | hs <;> simp [hs]
    obtain ⟨role, hrole⟩ : ∃ role, role ≠ failed := by
      match failed with
      | .Origin => exact ⟨.Destination, by decide⟩
      | .Destination => exact ⟨.Origin, by decide⟩
    have huncommitted : (p role).state ≠ .Committed := by simp [h.released role hrole]
    obtain ⟨e, hrun⟩ : ∃ e, Proxy.run_alone keccak256 chains answers w
        (Proxy.advance keccak256 cctp order_id now_unix) = (.error e, w) :=
      Proxy.advance_refused cctp role now_unix h.stored hdelivering (h.named role) (h.row role)
        huncommitted
    rw [hrun]
    constructor
    · intro hdone
      exact absurd hdone (not_compensated h.stored hunfailed)
    · rintro ⟨hpreparing, _⟩
      exact absurd hpreparing hnot

/-- The half released worlds, by their parts. -/
theorem exists_half_released_iff (w : CrossChainWorld) (order_id : CrossChainOrderId)
    (failed : LegRole) :
    (∃ saga token p, w.HalfReleased order_id saga token p failed) ↔
      ∃ saga ∈ w.sagas.load order_id, saga.order_id = order_id ∧
        (saga.state = .Preparing ∨ saga.state = .Prepared ∨ saga.state = .DestinationPending) ∧
        ∀ role ∈ [LegRole.Origin, .Destination], ∃ t ∈ saga.prepared role,
          ∃ q ∈ (w.services role).local_service.preparations.load t,
            q.chain_id = (w.services role).local_service.chain_id ∧ q.quote_id = saga.quote.id ∧
            q.role = role ∧ q.chain_id = (saga.quote.leg role).local_chain ∧
            (role ≠ failed → q.state = .Released) ∧
            (role = failed → q.state ≠ .Executed) := by
  constructor
  · rintro ⟨saga, token, p, h⟩
    refine ⟨saga, h.stored, h.keyed, h.state, ?_⟩
    intro role _
    obtain ⟨hquote, hrole, hchain⟩ := h.own role
    refine ⟨token role, h.named role, p role, h.row role, h.owned role, hquote, hrole, hchain,
      h.released role, ?_⟩
    rintro rfl
    exact h.unexecuted
  · rintro ⟨saga, hstored, hkeyed, hstate, hroles⟩
    have hall : ∀ role, ∃ t ∈ saga.prepared role,
        ∃ q ∈ (w.services role).local_service.preparations.load t,
          q.chain_id = (w.services role).local_service.chain_id ∧ q.quote_id = saga.quote.id ∧
          q.role = role ∧ q.chain_id = (saga.quote.leg role).local_chain ∧
          (role ≠ failed → q.state = .Released) ∧ (role = failed → q.state ≠ .Executed) := by
      intro role
      exact hroles role (by cases role <;> simp)
    choose token hnamed p hrow howned hquote hrole hchain hreleased hunexecuted using hall
    exact ⟨saga, token, p, hstored, hkeyed, hstate, hnamed, hrow, howned,
      fun role => ⟨hquote role, hrole role, hchain role⟩, hreleased, hunexecuted failed rfl⟩

instance (w : CrossChainWorld) (order_id : CrossChainOrderId) (failed : LegRole) :
    Decidable (∃ saga token p, w.HalfReleased order_id saga token p failed) :=
  decidable_of_iff _ (exists_half_released_iff w order_id failed).symm

theorem compensated_iff_roles (w : CrossChainWorld) (order_id : CrossChainOrderId) :
    w.Compensated order_id ↔
      ∃ saga ∈ w.sagas.load order_id, saga.state = .FailedBeforeDelivery ∧
        ∀ role ∈ [LegRole.Origin, .Destination], ∃ t ∈ saga.prepared role,
          ∃ q ∈ (w.services role).local_service.preparations.load t, q.state = .Released := by
  constructor
  · rintro ⟨saga, hstored, hfailed, hroles⟩
    exact ⟨saga, hstored, hfailed, fun role _ => hroles role⟩
  · rintro ⟨saga, hstored, hfailed, hroles⟩
    exact ⟨saga, hstored, hfailed, fun role => hroles role (by cases role <;> simp)⟩

instance (w : CrossChainWorld) (order_id : CrossChainOrderId) :
    Decidable (w.Compensated order_id) :=
  decidable_of_iff _ (compensated_iff_roles w order_id).symm

/-- The destination's clock is past the preparation's expiry. -/
def late_reads : SystemReads :=
  { sample_reads false with service := { sample_service_reads with committed_at := 200 } }

/-- The simulation of the delivery rejects. -/
def rejecting_reads : SystemReads :=
  { sample_reads false with service := { sample_service_reads with verdict := .Reject "reverts" } }

/-- The destination refuses to commit, and its release is lost. -/
def half_prepared_world : CrossChainWorld :=
  (sample_run (sample_start :: sample_steps 29 0 ++ .access 0 late_reads :: sample_steps 5 0 ++
    .access 0 (sample_reads true) :: sample_steps 1 0)).shared

/-- The delivery would revert, and the destination's release is lost. -/
def half_delivered_world : CrossChainWorld :=
  (sample_run (sample_start :: sample_steps 34 0 ++ sample_advance :: sample_steps 10 1 ++
    .access 1 rejecting_reads :: sample_steps 5 1 ++
    .access 1 (sample_reads true) :: sample_steps 1 1)).shared

set_option maxRecDepth 8000 in
/-- The run is evaluated once. -/
theorem half_prepared_run :
    (∃ saga token p,
    half_prepared_world.HalfReleased sample_order saga token p .Destination) ∧
    ((half_prepared_world.sagas.load sample_order).map CrossChainSaga.state = some .Preparing) ∧
    (∀ saga ∈ half_prepared_world.sagas.load sample_order, ∀ t ∈ saga.destination_prepare,
      ∃ b ∈ (half_prepared_world.services .Destination).local_service.ledger.memory t.reservation,
        b.2 ∈ releasable) := by
  decide +kernel

theorem half_prepared : ∃ saga token p,
    half_prepared_world.HalfReleased sample_order saga token p .Destination :=
  half_prepared_run.1

set_option maxRecDepth 8000 in
/-- The run is evaluated once. -/
theorem half_delivered_run :
    (∃ saga token p,
    half_delivered_world.HalfReleased sample_order saga token p .Destination) ∧
    (¬ (call sample_hash sample_chains false sample_order sample_answers half_delivered_world
      (.advance 30)).2.Compensated sample_order) := by
  decide +kernel

theorem half_delivered : ∃ saga token p,
    half_delivered_world.HalfReleased sample_order saga token p .Destination :=
  half_delivered_run.1

theorem half_prepared_state :
    (half_prepared_world.sagas.load sample_order).map CrossChainSaga.state = some .Preparing :=
  half_prepared_run.2.1

theorem half_prepared_voidable :
    ∀ saga ∈ half_prepared_world.sagas.load sample_order, ∀ t ∈ saga.destination_prepare,
      ∃ b ∈ (half_prepared_world.services .Destination).local_service.ledger.memory t.reservation,
        b.2 ∈ releasable :=
  half_prepared_run.2.2

theorem half_prepared_completes :
    ∃ saga token p, half_prepared_world.HalfReleased sample_order saga token p .Destination ∧
      (call sample_hash sample_chains false sample_order sample_answers half_prepared_world
        (.advance 30)).2.Compensated sample_order := by
  obtain ⟨saga, token, p, h⟩ := half_prepared
  have hpreparing : saga.state = .Preparing := by
    have hstate := half_prepared_state
    rw [h.stored] at hstate
    exact Option.some.inj hstate
  have hvoidable : Voidable (half_prepared_world.services .Destination) (token .Destination)
      (p .Destination) :=
    .inr (half_prepared_voidable saga h.stored (token .Destination) (h.named .Destination))
  have hcommittable : Committable (half_prepared_world.services .Destination)
      (sample_answers.service .Destination).committed_at .Destination (token .Destination)
      (p .Destination) := by
    intro hrole
    cases hrole
  exact ⟨saga, token, p, h, (compensation_completes_iff sample_hash sample_chains false
    sample_order sample_answers half_prepared_world saga token p .Destination h 30).mpr
    ⟨hpreparing, hvoidable, hcommittable⟩⟩

theorem half_delivered_uncompensated :
    ¬ (call sample_hash sample_chains false sample_order sample_answers half_delivered_world
      (.advance 30)).2.Compensated sample_order :=
  half_delivered_run.2

/-- Everything answers, and the compensation is not completed. -/
theorem half_delivered_is_stuck :
    (∃ saga token p, half_delivered_world.HalfReleased sample_order saga token p .Destination) ∧
      ¬ (call sample_hash sample_chains false sample_order sample_answers half_delivered_world
        (.advance 30)).2.Compensated sample_order :=
  ⟨half_delivered, half_delivered_uncompensated⟩

end CrossChainWorld

end Solvent
