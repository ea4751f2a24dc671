import Mathlib
import Solvent.Crosschain.History
import Solvent.Crosschain.Delivery

/-! # The evidence of an order

    Each finalized step leaves its evidence in the saga. The evidence is a ladder
    of four rungs, and the state says how far up the saga is: `Evidenced`. Every
    write of the protocol keeps that, and keeps the evidence there was. Whole
    runs follow from the chain of writes.
-/

namespace Solvent

open Interleave

/-! ## The ladder -/

/-- The rung a state stands on. A saga that needs reconciling is on any rung
    after the first. -/
def SagaState.Shows (state : SagaState) (saga : CrossChainSaga) : Prop :=
  match state with
  | .Quoted | .Preparing | .Prepared | .DestinationPending | .FailedBeforeDelivery =>
    saga.destination = none
  | .DestinationFinalized | .FillProofPending =>
    saga.destination.isSome ∧ saga.fill_proof = none
  | .OriginPending => saga.fill_proof.isSome ∧ saga.origin = none
  | .OriginFinalized => saga.origin.isSome ∧ saga.repayment = none
  | .RepaymentPending | .Complete => saga.repayment.isSome
  | .NeedsReconcile => saga.destination.isSome

/-- States in which the order may lack a preparation. -/
def SagaState.unprepared : List SagaState := [.Quoted, .Preparing, .FailedBeforeDelivery]

/-- No more is done for the order. -/
def SagaState.terminal : List SagaState := [.Complete, .FailedBeforeDelivery]

structure Evidenced (saga : CrossChainSaga) : Prop where
  fill_proof : saga.fill_proof.isSome → saga.destination.isSome
  origin : saga.origin.isSome → saga.fill_proof.isSome
  repayment : saga.repayment.isSome → saga.origin.isSome
  state : saga.state.Shows saga
  tokens : saga.state ∉ SagaState.unprepared →
    saga.origin_prepare.isSome ∧ saga.destination_prepare.isSome

/-- `b` has what `a` has. -/
def Keeps {α : Type} (a b : Option α) : Prop := ∀ x, a = some x → b = some x

instance {α : Type} [DecidableEq α] (a b : Option α) : Decidable (Keeps a b) :=
  inferInstanceAs (Decidable (∀ x ∈ a, b = some x))

theorem Keeps.refl {α : Type} (a : Option α) : Keeps a a := fun _ h => h

theorem Keeps.trans {α : Type} {a b c : Option α} (hab : Keeps a b) (hbc : Keeps b c) :
    Keeps a c := fun x h => hbc x (hab x h)

theorem keeps_of_none {α : Type} {a : Option α} (h : a = none) (b : Option α) : Keeps a b := by
  intro x hx
  rw [h] at hx
  cases hx

/-- A later version of the order: nothing it had is lost, and an order that has
    ended stays as it is. -/
structure Later (saga later : CrossChainSaga) : Prop where
  order_id : later.order_id = saga.order_id
  quote : later.quote = saga.quote
  destination : Keeps saga.destination later.destination
  fill_proof : Keeps saga.fill_proof later.fill_proof
  origin : Keeps saga.origin later.origin
  repayment : Keeps saga.repayment later.repayment
  origin_prepare : Keeps saga.origin_prepare later.origin_prepare
  destination_prepare : Keeps saga.destination_prepare later.destination_prepare
  ended : saga.state ∈ SagaState.terminal → later = saga

namespace Later

theorem refl (saga : CrossChainSaga) : Later saga saga :=
  ⟨rfl, rfl, .refl _, .refl _, .refl _, .refl _, .refl _, .refl _, fun _ => rfl⟩

theorem trans {a b c : CrossChainSaga} (hab : Later a b) (hbc : Later b c) : Later a c where
  order_id := hbc.order_id.trans hab.order_id
  quote := hbc.quote.trans hab.quote
  destination := hab.destination.trans hbc.destination
  fill_proof := hab.fill_proof.trans hbc.fill_proof
  origin := hab.origin.trans hbc.origin
  repayment := hab.repayment.trans hbc.repayment
  origin_prepare := hab.origin_prepare.trans hbc.origin_prepare
  destination_prepare := hab.destination_prepare.trans hbc.destination_prepare
  ended := by
    intro hended
    obtain rfl := hab.ended hended
    exact hbc.ended hended

instance : Trans Later Later Later := ⟨trans⟩

end Later

/-! ## One write -/

variable {saga saga' : CrossChainSaga} {heard : Option (RemoteCommand × RemoteProgress)}

theorem New.evidenced {order_id : CrossChainOrderId} (h : New order_id saga) : Evidenced saga := by
  obtain ⟨_, hstate, _, hdestination, hfill_proof, horigin, hrepayment⟩ := h
  refine ⟨?_, ?_, ?_, ?_, ?_⟩
  · simp [hfill_proof]
  · simp [horigin]
  · simp [hrepayment]
  · rw [hstate]
    exact hdestination
  · simp [hstate, SagaState.unprepared]

/-- A write that leaves the evidence alone. -/
theorem Evidenced.with_state (h : Evidenced saga) {state : SagaState} {failure : Option String}
    (hstate : state.Shows saga)
    (htokens : state ∉ SagaState.unprepared →
      saga.origin_prepare.isSome ∧ saga.destination_prepare.isSome) :
    Evidenced { saga with state, failure } where
  fill_proof := h.fill_proof
  origin := h.origin
  repayment := h.repayment
  state := by
    cases state <;> exact hstate
  tokens := htokens

/-- The evidence of a command that is due is not there yet, and the evidence
    before it is. -/
theorem Evidenced.due (h : Evidenced saga) {c : RemoteCommand} (hdue : Due saga c) :
    c.pending.Shows saga ∧ c.pending ∉ SagaState.unprepared ∧
      saga.state ∉ SagaState.unprepared ∧ saga.state ∉ SagaState.terminal := by
  have hshows := h.state
  have hin := hdue.1
  cases c <;> simp only [RemoteCommand.sent_in, List.mem_cons, List.not_mem_nil, or_false] at hin
  case Deliver =>
    rcases hin with hin | hin <;> rw [hin] at hshows ⊢ <;> exact ⟨hshows, by decide⟩
  case DispatchFillProof =>
    rcases hin with hin | hin <;> rw [hin] at hshows ⊢ <;> exact ⟨hshows, by decide⟩
  all_goals
    rw [hin] at hshows ⊢
    exact ⟨hshows, by decide⟩

theorem Evidenced.record (h : Evidenced saga) {c : RemoteCommand} (hdue : Due saga c)
    (evidence : StepEvidence) (lifecycle : List CrossChainLifecycleEvent) :
    Evidenced { saga.record c evidence with state := c.finalized, lifecycle } := by
  obtain ⟨hpending, _, hprepared, _⟩ := h.due hdue
  have htokens := h.tokens hprepared
  obtain ⟨hfill_proof, horigin, hrepayment, _, _⟩ := h
  cases c <;>
    simp only [RemoteCommand.pending, SagaState.Shows] at hpending <;>
    constructor <;>
    simp_all [CrossChainSaga.record, RemoteCommand.finalized, SagaState.Shows]

/-- **Step lemma.** Every write of the protocol keeps the ladder. -/
theorem Evidenced.write (h : Evidenced saga) (hwrite : Write saga heard saga') :
    Evidenced saga' := by
  have hshows := h.state
  cases hwrite with
  | begin_preparing hstate =>
    rw [hstate] at hshows
    exact h.with_state hshows (by simp [SagaState.unprepared])
  | token role token hstate hnew =>
    rw [hstate] at hshows
    cases role <;>
      exact ⟨h.fill_proof, h.origin, h.repayment, by simpa [Proxy.set_prepared, hstate],
        by simp [Proxy.set_prepared, hstate, SagaState.unprepared]⟩
  | prepare hstate horigin hdestination =>
    rw [hstate] at hshows
    exact h.with_state hshows (fun _ => ⟨horigin, hdestination⟩)
  | compensating failure hreleasing => exact h.with_state hshows h.tokens
  | compensate failure hreleasing =>
    refine h.with_state ?_ (by simp [SagaState.unprepared])
    show saga.destination = none
    rcases hreleasing with ⟨hstate, _⟩ | ⟨hdue, _⟩
    · rw [hstate] at hshows
      exact hshows
    · exact (h.due hdue).1
  | pend c hdue =>
    obtain ⟨hpending, _, hprepared, _⟩ := h.due hdue
    exact h.with_state hpending (fun _ => h.tokens hprepared)
  | finalize c evidence lifecycle hdue => exact h.record hdue evidence lifecycle
  | refuse c reason hdue hlate =>
    -- Past the delivery, every state stands above the first rung.
    obtain ⟨hpending, _, hprepared, _⟩ := h.due hdue
    refine h.with_state ?_ (fun _ => h.tokens hprepared)
    have hfill_proof := h.fill_proof
    have horigin := h.origin
    have hrepayment := h.repayment
    show saga.destination.isSome
    cases c <;> simp_all [RemoteCommand.pending, SagaState.Shows]
  | complete evidence lifecycle hdue =>
    obtain ⟨hstate, _⟩ := hdue
    rw [hstate] at hshows
    have htokens := h.tokens (by simp [hstate, SagaState.unprepared])
    exact ⟨h.fill_proof, h.origin, fun _ => hshows.1, rfl, fun _ => htokens⟩
  | invalid failure hdue =>
    obtain ⟨hstate, _⟩ := hdue
    rw [hstate] at hshows
    refine h.with_state (h.fill_proof (h.origin hshows.1)) (fun _ => ?_)
    exact h.tokens (by simp [hstate, SagaState.unprepared])
  | resume hstate hevidence =>
    have htokens := h.tokens (by simp [hstate, SagaState.unprepared])
    refine h.with_state ?_ (fun _ => htokens)
    unfold Proxy.reconciled at hevidence
    split at hevidence
    · obtain rfl := Option.some.inj hevidence
      assumption
    · split at hevidence
      · obtain rfl := Option.some.inj hevidence
        simp_all [SagaState.Shows]
      · split at hevidence
        · obtain rfl := Option.some.inj hevidence
          simp_all [SagaState.Shows]
        · split at hevidence
          · obtain rfl := Option.some.inj hevidence
            simp_all [SagaState.Shows]
          · cases hevidence

/-- The same version with another state. -/
theorem Later.with_state (hopen : saga.state ∉ SagaState.terminal) (state : SagaState)
    (failure : Option String) : Later saga { saga with state, failure } :=
  ⟨rfl, rfl, .refl _, .refl _, .refl _, .refl _, .refl _, .refl _, fun h => absurd h hopen⟩

/-- **Step lemma.** Every write of the protocol keeps what the saga had. -/
theorem Evidenced.later (h : Evidenced saga) (hwrite : Write saga heard saga') :
    Later saga saga' := by
  have hopen : ∀ {state : SagaState}, saga.state = state → state ∉ SagaState.terminal →
      saga.state ∉ SagaState.terminal := by
    rintro state rfl hstate
    exact hstate
  cases hwrite with
  | begin_preparing hstate => exact .with_state (hopen hstate (by decide)) _ _
  | token role token hstate hnew =>
    have hnot := hopen hstate (by decide)
    cases role with
    | Origin =>
      exact ⟨rfl, rfl, .refl _, .refl _, .refl _, .refl _, keeps_of_none hnew _, .refl _,
        fun h => absurd h hnot⟩
    | Destination =>
      exact ⟨rfl, rfl, .refl _, .refl _, .refl _, .refl _, .refl _, keeps_of_none hnew _,
        fun h => absurd h hnot⟩
  | prepare hstate => exact .with_state (hopen hstate (by decide)) _ _
  | compensating failure hreleasing | compensate failure hreleasing =>
    rcases hreleasing with ⟨hstate, _⟩ | ⟨hdue, _⟩
    · exact .with_state (hopen hstate (by decide)) _ _
    · exact .with_state (h.due hdue).2.2.2 _ _
  | pend c hdue => exact .with_state (h.due hdue).2.2.2 _ _
  | finalize c evidence lifecycle hdue =>
    obtain ⟨hpending, _, _, hnot⟩ := h.due hdue
    have hrepayment := h.repayment
    cases c with
    | Deliver =>
      exact ⟨rfl, rfl, keeps_of_none hpending _, .refl _, .refl _, .refl _, .refl _, .refl _,
        fun h => absurd h hnot⟩
    | DispatchFillProof =>
      exact ⟨rfl, rfl, .refl _, keeps_of_none hpending.2 _, .refl _, .refl _, .refl _, .refl _,
        fun h => absurd h hnot⟩
    | ClaimOrigin =>
      exact ⟨rfl, rfl, .refl _, .refl _, keeps_of_none hpending.2 _, .refl _, .refl _, .refl _,
        fun h => absurd h hnot⟩
    | DispatchRepayment =>
      exact ⟨rfl, rfl, .refl _, .refl _, .refl _, keeps_of_none hpending.2 _, .refl _, .refl _,
        fun h => absurd h hnot⟩
    | CloseDestination =>
      exact ⟨rfl, rfl, .refl _, .refl _, .refl _, .refl _, .refl _, .refl _,
        fun h => absurd h hnot⟩
  | refuse c reason hdue hlate => exact .with_state (h.due hdue).2.2.2 _ _
  | complete evidence lifecycle hdue =>
    have hnot := hopen hdue.1 (by decide)
    have hshows := h.state
    rw [hdue.1] at hshows
    exact ⟨rfl, rfl, .refl _, .refl _, .refl _, keeps_of_none hshows.2 _, .refl _, .refl _,
      fun h => absurd h hnot⟩
  | invalid failure hdue => exact .with_state (hopen hdue.1 (by decide)) _ _
  | resume hstate hevidence => exact .with_state (hopen hstate (by decide)) _ _

/-! ## Whole histories -/

namespace Linked

variable {C : Occasion} {order_id : CrossChainOrderId} {w : ProxyWorld} {reads : ProxyReads}

/-- Every saga written stands on its rung, and is the order's. -/
theorem evidenced (h : Linked C order_id w) :
    ∀ saga ∈ writes w.history, Evidenced saga ∧ saga.order_id = order_id := by
  refine h.chain.induction (fun saga => Evidenced saga ∧ saga.order_id = order_id) _ ?_ ?_
  · intro a b hab ⟨ha, hid⟩
    rcases hab with rfl | ⟨heard, hwrite, _⟩
    · exact ⟨ha, hid⟩
    · exact ⟨ha.write hwrite, (ha.later hwrite).order_id.trans hid⟩
  · intro hne
    have hnew := h.new _ (List.head?_eq_some_head hne)
    exact ⟨hnew.evidenced, hnew.order_id⟩

/-- Of two sagas written, the second has what the first had. -/
theorem later (h : Linked C order_id w) : (writes w.history).Pairwise Later := by
  have hchain : (writes w.history).IsChain Later := by
    refine h.chain.imp_of_mem_imp ?_
    intro a b ha _ hab
    rcases hab with rfl | ⟨heard, hwrite, _⟩
    · exact Later.refl _
    · exact (h.evidenced a ha).1.later hwrite
  exact List.isChain_iff_pairwise.mp hchain

theorem row_mem (h : Linked C order_id w) {saga : CrossChainSaga}
    (hrow : w.sagas.load order_id = some saga) : saga ∈ writes w.history := by
  rw [h.row] at hrow
  exact List.mem_of_getLast? hrow

theorem row_later (h : Linked C order_id w) {saga earlier : CrossChainSaga}
    (hrow : w.sagas.load order_id = some saga) (hearlier : earlier ∈ writes w.history) :
    Later earlier saga := by
  rw [h.row] at hrow
  obtain ⟨before, hbefore⟩ := List.getLast?_eq_some_iff.mp hrow
  have hlater := h.later
  rw [hbefore] at hlater hearlier
  rcases List.mem_append.mp hearlier with hin | hlast
  · exact (List.pairwise_append.mp hlater).2.2 earlier hin saga (by simp)
  · obtain rfl : earlier = saga := by simpa using hlast
    exact Later.refl _

end Linked

/-! ## One call after another -/

/-- What a call has seen is what is stored, while no other call runs. -/
def Seen (order_id : CrossChainOrderId) (w : ProxyWorld) : Turn → Prop
  | .unread => True
  | .absent => w.sagas.load order_id = none
  | .at_saga saga _ => w.sagas.load order_id = some saga

/-- Writes on any occasion. -/
def always : Occasion := fun _ _ => True

section Sequential

variable {order_id : CrossChainOrderId} {w : ProxyWorld} {t : Turn} {q : ProxyQuery}

/-- **Step lemma** for one call at a time: the history goes on as a chain, and the
    call has seen the row as it is. -/
theorem seen_step (reads : ProxyReads) (hlinked : Linked always order_id w)
    (hseen : Seen order_id w t) (hpermits : t.Permits order_id q) :
    Turn.answers order_id t q (w.answer reads q).1 ∧
      Linked always order_id (w.answer reads q).2 ∧
      Seen order_id (w.answer reads q).2 (t.next q (w.answer reads q).1) := by
  cases hpermits with
  | load =>
    refine ⟨?_, hlinked.read_only trivial, ?_⟩
    · intro saga hanswer
      by_cases hlost : reads.unreadable
      · simp [ProxyWorld.answer, ProxyWorld.respond, hlost] at hanswer
      · have hrow : w.sagas.load order_id = some saga := by
          simp [ProxyWorld.answer, ProxyWorld.respond, hlost] at hanswer
          exact Except.ok.inj hanswer
        exact (hlinked.evidenced saga (hlinked.row_mem hrow)).2
    · by_cases hlost : reads.unreadable
      · simp [ProxyWorld.answer, ProxyWorld.respond, hlost, Turn.next, Seen]
      · cases hrow : w.sagas.load order_id with
        | none => simp [ProxyWorld.answer, ProxyWorld.respond, hlost, Turn.next, Seen, hrow]
        | some saga => simp [ProxyWorld.answer, ProxyWorld.respond, hlost, Turn.next, Seen, hrow]
  | author_direct _ => exact ⟨trivial, hlinked.read_only trivial, trivial⟩
  | quote_terms _ => exact ⟨trivial, hlinked.read_only trivial, hseen⟩
  | stage role context plan => exact ⟨trivial, hlinked.read_only trivial, hseen⟩
  | insert hnew =>
    rename_i saga
    have hrow : w.sagas.load saga.order_id = none := by
      rw [hnew.order_id]
      exact hseen
    have hinsert : ProxyWorld.respond reads (.insert saga) w.sagas =
        (.ok saga, w.sagas.insert saga.order_id saga) := by
      rcases ProxyWorld.respond_insert reads saga w.sagas with ⟨_, h⟩ | ⟨h, _⟩ | h
      · exact h
      · rw [hrow] at h
        cases h
      · have hconflict : w.sagas.insert_new saga = (.error .Conflict, w.sagas) := h
        simp only [SqliteSagaStore.insert_new, hrow] at hconflict
        cases hconflict
    have hanswer : (w.answer reads (.insert saga)).1 = .ok saga := by
      show (ProxyWorld.respond reads (.insert saga) w.sagas).1 = _
      rw [hinsert]
    refine ⟨?_, hlinked.insert hnew, ?_⟩
    · intro stored hstored
      rw [hanswer] at hstored
      exact (Except.ok.inj hstored).symm
    · rw [hanswer]
      show SqliteSagaStore.load (ProxyWorld.respond reads (.insert saga) w.sagas).2 order_id = _
      rw [hinsert, ProxyWorld.load_insert, if_pos hnew.order_id]
  | update hwrite =>
    rename_i saga saga' heard
    obtain ⟨hevidenced, hid⟩ := hlinked.evidenced saga (hlinked.row_mem hseen)
    have hid' : saga'.order_id = order_id := (hevidenced.later hwrite).order_id.trans hid
    have hrow : w.sagas.load saga'.order_id = some saga := by
      rw [hid']
      exact hseen
    have hanswer : (w.answer reads (.update saga')).1 = .ok () := by
      show (ProxyWorld.respond reads (.update saga') w.sagas).1 = _
      rw [ProxyWorld.respond_update hrow]
    refine ⟨hanswer, hlinked.update hseen hid' hwrite trivial, ?_⟩
    rw [hanswer]
    show SqliteSagaStore.load (ProxyWorld.respond reads (.update saga') w.sagas).2 order_id = _
    rw [ProxyWorld.respond_update hrow, ProxyWorld.load_insert, if_pos hid']
  | remote hasks =>
    rename_i saga heard role r
    refine ⟨trivial, hlinked.read_only trivial, ?_⟩
    -- Only a command changes what the call has seen, and not the version.
    have hsame : ∃ heard', Turn.next (.at_saga saga heard) (.remote role r)
        (w.answer reads (.remote role r)).1 = .at_saga saga heard' :=
      Turn.next_remote _
    obtain ⟨heard', hnext⟩ := hsame
    rw [hnext]
    exact hseen
  | close_step origin_transaction hdue => exact ⟨trivial, hlinked.read_only trivial, hseen⟩

theorem seen_outside (hseen : Seen order_id w t) (saga : CrossChainSaga) :
    Seen order_id ((ProxyWorld.environment order_id).outside saga w) t := by
  show Seen order_id (if _ then _ else _) t
  split
  case isTrue => exact hseen
  case isFalse hother =>
    have hload : SqliteSagaStore.load (w.sagas.insert saga.order_id saga) order_id =
        w.sagas.load order_id := by
      rw [ProxyWorld.load_insert, if_neg hother]
    match t with
    | .unread => trivial
    | .absent => exact hload.trans hseen
    | .at_saga saga heard => exact hload.trans hseen

/-- **Run lemma.** One call after another, the history of an order is a chain. -/
theorem linked_run (keccak256 : List UInt8 → B256) (cctp : Bool) {sagas : SqliteSagaStore}
    (hnew : sagas.load order_id = none)
    {actions : List (Action ProxyCall ProxyReads Unit CrossChainSaga)}
    (horderly : Run.Along (ProxyWorld.machine keccak256 cctp order_id).next
      (ProxyWorld.OneByOne True) (Machine.initial (ProxyWorld.before sagas)) actions) :
    Linked always order_id (Run.run (ProxyWorld.machine keccak256 cctp order_id).next
      (Machine.initial (ProxyWorld.before sagas)) actions).shared := by
  let local_inv : ProxyWorld → Turn → Prop := fun w t =>
    Linked always order_id w ∧ Seen order_id w t
  have hstart : ∀ w, Linked always order_id w → local_inv w .unread := fun w hw => ⟨hw, trivial⟩
  have hstep : ∀ reads q t w, local_inv w t → t.Permits order_id q → True →
      Turn.answers order_id t q ((ProxyWorld.environment order_id).answer reads q w).1 ∧
        local_inv ((ProxyWorld.environment order_id).answer reads q w).2
          (t.next q ((ProxyWorld.environment order_id).answer reads q w).1) :=
    fun reads q t w hlocal hpermits _ => seen_step reads hlocal.1 hlocal.2 hpermits
  have hend : ∀ w t, local_inv w t → Turn.Settled t → Linked always order_id w :=
    fun _ _ hlocal _ => hlocal.1
  have hstop : True → ∀ w t, local_inv w t → Linked always order_id w :=
    fun _ _ _ hlocal => hlocal.1
  have hlocal : ∀ t, (ProxyWorld.environment order_id).Stable fun w => local_inv w t :=
    fun t saga w hw => ⟨hw.1.outside saga, seen_outside hw.2 saga⟩
  have hrun := Protocol.alone (P := order_protocol order_id)
    (ProxyCall.obeys keccak256 cctp order_id) hstart hstep hend hstop
    (fun saga _ hs => hs.outside saga) hlocal (Linked.before hnew) horderly
  rcases hrun with hidle | ⟨_, hlocal⟩
  · exact hidle
  · exact hlocal.1

end Sequential

/-! ## The evidence invariant -/

/-- The evidence a state promises. -/
def HasEvidence (saga : CrossChainSaga) : Prop :=
  match saga.state with
  | .DestinationFinalized | .FillProofPending | .NeedsReconcile => saga.destination.isSome
  | .OriginPending => saga.destination.isSome ∧ saga.fill_proof.isSome
  | .OriginFinalized => saga.destination.isSome ∧ saga.fill_proof.isSome ∧ saga.origin.isSome
  | .RepaymentPending | .Complete =>
    saga.destination.isSome ∧ saga.fill_proof.isSome ∧ saga.origin.isSome ∧ saga.repayment.isSome
  | .FailedBeforeDelivery => saga.destination = none
  | .Quoted | .Preparing | .Prepared | .DestinationPending => True

/-- The preparations a state promises: both from `Prepared` on. An order that
    failed before it was prepared may lack them. -/
def HasTokens (saga : CrossChainSaga) : Prop :=
  saga.state ∉ SagaState.unprepared →
    saga.origin_prepare.isSome ∧ saga.destination_prepare.isSome

/-- Evidence that is set stays set to the same. -/
def KeepsEvidence (saga later : CrossChainSaga) : Prop :=
  Keeps saga.destination later.destination ∧ Keeps saga.fill_proof later.fill_proof ∧
    Keeps saga.origin later.origin ∧ Keeps saga.repayment later.repayment

instance (saga later : CrossChainSaga) : Decidable (KeepsEvidence saga later) :=
  inferInstanceAs (Decidable (_ ∧ _))

/-- So do the preparations. -/
def KeepsTokens (saga later : CrossChainSaga) : Prop :=
  Keeps saga.origin_prepare later.origin_prepare ∧
    Keeps saga.destination_prepare later.destination_prepare

theorem Evidenced.has_evidence (h : Evidenced saga) : HasEvidence saga := by
  obtain ⟨hfill_proof, horigin, hrepayment, hstate, _⟩ := h
  unfold HasEvidence
  match hcase : saga.state with
  | .Quoted | .Preparing | .Prepared | .DestinationPending => trivial
  | .DestinationFinalized | .FillProofPending =>
    rw [hcase] at hstate
    exact hstate.1
  | .NeedsReconcile | .FailedBeforeDelivery =>
    rw [hcase] at hstate
    exact hstate
  | .OriginPending =>
    rw [hcase] at hstate
    exact ⟨hfill_proof hstate.1, hstate.1⟩
  | .OriginFinalized =>
    rw [hcase] at hstate
    exact ⟨hfill_proof (horigin hstate.1), horigin hstate.1, hstate.1⟩
  | .RepaymentPending | .Complete =>
    rw [hcase] at hstate
    have hclaimed := hrepayment hstate
    exact ⟨hfill_proof (horigin hclaimed), horigin hclaimed, hclaimed, hstate⟩

theorem Later.keeps_evidence {later : CrossChainSaga} (h : Later saga later) :
    KeepsEvidence saga later :=
  ⟨h.destination, h.fill_proof, h.origin, h.repayment⟩

/-- **Saga evidence invariant.** -/
theorem stored_sagas_have_evidence (keccak256 : List UInt8 → B256) (cctp : Bool)
    (order_id : CrossChainOrderId) (sagas : SqliteSagaStore) (hnew : sagas.load order_id = none)
    (actions : List (Action ProxyCall ProxyReads Unit CrossChainSaga))
    (horderly : Run.Along (ProxyWorld.machine keccak256 cctp order_id).next
      (ProxyWorld.OneByOne True) (Machine.initial (ProxyWorld.before sagas)) actions) :
    let w := (Run.run (ProxyWorld.machine keccak256 cctp order_id).next
      (Machine.initial (ProxyWorld.before sagas)) actions).shared
    (∀ saga, w.sagas.load order_id = some saga → saga ∈ writes w.history) ∧
      (∀ saga ∈ writes w.history, HasEvidence saga ∧ HasTokens saga) ∧
      (writes w.history).Pairwise fun saga later =>
        KeepsEvidence saga later ∧ KeepsTokens saga later := by
  have hlinked := linked_run keccak256 cctp hnew horderly
  refine ⟨fun saga => hlinked.row_mem, ?_, ?_⟩
  · intro saga hsaga
    have hevidenced := (hlinked.evidenced saga hsaga).1
    exact ⟨hevidenced.has_evidence, hevidenced.tokens⟩
  · refine hlinked.later.imp ?_
    intro a b hab
    exact ⟨hab.keeps_evidence, hab.origin_prepare, hab.destination_prepare⟩

namespace ProxyWorld

open CrossChainWorld LocalCrossChainService

def sample_prepare_token : LegRole → PrepareToken
  | .Origin => ⟨1⟩
  | .Destination => ⟨2⟩

def sample_proxy_preparation (role : LegRole) (state : PreparationState) : Preparation :=
  { token := sample_prepare_token role, quote_id := sample_quote.id, role,
    chain_id := sample_chains role, state, expires_at_unix := 100 }

/-- The preparation of a token, in the state `state`. -/
def sample_inspection (token : PrepareToken) (state : PreparationState) : Preparation :=
  sample_proxy_preparation (if token = ⟨1⟩ then .Origin else .Destination) state

/-- Everything is answered as asked; the commands as `progress` says. -/
def sample_answers (progress : RemoteProgress) : ProxyReads :=
  { unreadable := false
    remote := fun
      | .stage _ _ | .stage_cctp_completion _ _ _ => .ok ()
      | .prepare _ quote => .ok (sample_proxy_preparation quote.role .Prepared)
      | .commit token | .inspect token => .ok (sample_inspection token .Committed)
      | .release token => .ok (sample_inspection token .Released)
      | .command _ _ _ _ => .ok progress
    quote_terms := .error .Pending
    close_step := .error .Pending
    author_direct := .error (.Unavailable "not configured") }

def sample_finality (transaction_hash : B256) : RemoteProgress :=
  .Finalized
    { command_id := ⟨transaction_hash⟩, transaction_hash := some transaction_hash,
      block_number := some 5, message_id := none }

abbrev ProxyAction : Type := Action ProxyCall ProxyReads Unit CrossChainSaga

def sample_started : List ProxyAction :=
  .start (.start none sample_quote (sample_plan .Origin) (sample_plan .Destination) 10) ::
    List.replicate 12 (.access 0 (sample_answers .Pending))

/-- An advance in slot `i` whose command is answered `progress`, with `n` queries. -/
def sample_advanced (i n : ℕ) (progress : RemoteProgress) : List ProxyAction :=
  .start (.advance 20) :: List.replicate n (.access i (sample_answers progress))

/-- The order is started and driven to its end. -/
def completed_actions : List ProxyAction :=
  sample_started ++ sample_advanced 1 5 .Pending ++ sample_advanced 2 5 (sample_finality 1) ++
    sample_advanced 3 3 (sample_finality 2) ++ sample_advanced 4 3 (sample_finality 3) ++
    sample_advanced 5 3 (sample_finality 4) ++ sample_advanced 6 3 (sample_finality 5)

def sample_proxy_run (actions : List ProxyAction) : ProxyWorld :=
  (Run.run (machine sample_hash false sample_order).next
    (Machine.initial (before ∅)) actions).shared

set_option maxRecDepth 8000 in
theorem completed_in_turn :
    Run.Along (machine sample_hash false sample_order).next (OneByOne True)
      (Machine.initial (before ∅)) completed_actions := by
  decide +kernel

set_option maxRecDepth 8000 in
theorem completed_row :
    ((sample_proxy_run completed_actions).sagas.load sample_order).map CrossChainSaga.state =
      some .Complete := by
  decide +kernel

theorem completed_saga_has_evidence :
    let w := sample_proxy_run completed_actions
    (w.sagas.load sample_order).map CrossChainSaga.state = some .Complete ∧
      ∀ saga ∈ writes w.history, HasEvidence saga ∧ HasTokens saga := by
  have hrow := completed_row
  unfold sample_proxy_run at hrow ⊢
  exact ⟨hrow, (stored_sagas_have_evidence sample_hash false sample_order ∅ (by decide)
    completed_actions completed_in_turn).2.1⟩

end ProxyWorld

end Solvent
