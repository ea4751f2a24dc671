import Mathlib
import Solvent.Crosschain.Evidence

/-! # The order of the commands

    What the proxy asks for an order is justified by what was answered before:
    origin funds are claimed after the delivery and its proof are final, repaid
    after the claim is, and nothing is released once the delivery is final. The
    evidence in the saga is the proxy's memory of these answers, so each call has
    to end with what it heard written down. A call cut short between an answer and
    its write loses it, and the runs here are runs of whole calls.
-/

namespace Solvent

open Interleave

variable {order_id : CrossChainOrderId} {w : ProxyWorld} {reads : ProxyReads} {t : Turn}
variable {q : ProxyQuery} {saga saga' : CrossChainSaga}
variable {heard : Option (RemoteCommand × RemoteProgress)}

/-! ## Justified exchanges -/

/-- The command that an exchange made final, at the service it belongs to. -/
def Exchange.finalized : Exchange → Option RemoteCommand
  | ⟨.remote role (.command _ _ c _), .ok (.Finalized _)⟩ =>
    if role = Handler.expected_role c then some c else none
  | _ => none

/-- The command was answered `Finalized`. -/
def Final (history : List Exchange) (c : RemoteCommand) : Prop :=
  ∃ e ∈ history, Exchange.finalized e = some c

/-- Repayment evidence was stored. -/
def Repaid (history : List Exchange) : Prop := ∃ saga ∈ writes history, saga.repayment.isSome

/-- The order was stored as complete or failed. -/
def Ended (history : List Exchange) : Prop :=
  ∃ saga ∈ writes history, saga.state ∈ SagaState.terminal

/-- What must have happened before a request. -/
def RemoteRequest.Justified (before : List Exchange) : RemoteRequest → Prop
  | .command _ _ .ClaimOrigin _ => Final before .Deliver ∧ Final before .DispatchFillProof
  | .command _ _ .DispatchRepayment _ => Final before .ClaimOrigin
  | .command _ _ .CloseDestination _ => Repaid before
  | .stage_cctp_completion _ _ _ => Final before .ClaimOrigin
  | .release _ => ¬ Final before .Deliver
  | _ => True

/-- What must have happened before an exchange. Nothing is asked of the services or
    of the CCTP port after the order has ended. -/
def Exchange.Justified (before : List Exchange) : Exchange → Prop
  | ⟨.remote _ r, _⟩ => ¬ Ended before ∧ r.Justified before
  | ⟨.close_step _ _, _⟩ => ¬ Ended before ∧ Final before .ClaimOrigin
  | ⟨.quote_terms _, _⟩ => ¬ Ended before
  | _ => True

/-! ## What the saga remembers -/

/-- The saga remembers what was made final, with what the call has heard since. -/
structure Remembers (order_id : CrossChainOrderId) (w : ProxyWorld)
    (heard : Option (RemoteCommand × RemoteProgress)) : Prop where
  justified : Run.Justified Exchange.Justified w.history
  delivered : Final w.history .Deliver →
    (∃ saga, w.sagas.load order_id = some saga ∧ saga.destination.isSome) ∨
      ∃ evidence, heard = some (.Deliver, .Finalized evidence)
  destination : ∀ saga, w.sagas.load order_id = some saga → saga.destination.isSome →
    Final w.history .Deliver
  fill_proof : ∀ saga, w.sagas.load order_id = some saga → saga.fill_proof.isSome →
    Final w.history .DispatchFillProof
  origin : ∀ saga, w.sagas.load order_id = some saga → saga.origin.isSome →
    Final w.history .ClaimOrigin
  heard_final : ∀ c evidence, heard = some (c, .Finalized evidence) → Final w.history c

/-- A write takes new evidence from what the call has heard. -/
theorem Write.evidence_heard (h : Write saga heard saga') :
    (saga'.destination = saga.destination ∨ ∃ e, heard = some (.Deliver, .Finalized e)) ∧
      (saga'.fill_proof = saga.fill_proof ∨
        ∃ e, heard = some (.DispatchFillProof, .Finalized e)) ∧
      (saga'.origin = saga.origin ∨ ∃ e, heard = some (.ClaimOrigin, .Finalized e)) := by
  cases h with
  | finalize c evidence lifecycle hdue =>
    cases c with
    | Deliver => exact ⟨.inr ⟨evidence, rfl⟩, .inl rfl, .inl rfl⟩
    | DispatchFillProof => exact ⟨.inl rfl, .inr ⟨evidence, rfl⟩, .inl rfl⟩
    | ClaimOrigin => exact ⟨.inl rfl, .inl rfl, .inr ⟨evidence, rfl⟩⟩
    | DispatchRepayment | CloseDestination => exact ⟨.inl rfl, .inl rfl, .inl rfl⟩
  | token role token hstate hnew => cases role <;> exact ⟨.inl rfl, .inl rfl, .inl rfl⟩
  | begin_preparing _ | prepare _ _ _ | compensating _ _ | compensate _ _ | pend _ _
  | refuse _ _ _ _ | complete _ _ _ | invalid _ _ | resume _ _ =>
    exact ⟨.inl rfl, .inl rfl, .inl rfl⟩

/-- The write after a final delivery records it. -/
theorem Write.delivered {evidence : StepEvidence}
    (h : Write saga (some (.Deliver, .Finalized evidence)) saga') :
    saga'.destination = some evidence := by
  cases h with
  | finalize c evidence lifecycle hdue => rfl
  | compensating failure hreleasing | compensate failure hreleasing =>
    rcases hreleasing with ⟨_, hnone⟩ | ⟨_, reason, hfailed⟩
    · cases hnone
    · cases hfailed

/-! ## The log -/

theorem final_concat {history : List Exchange} {e : Exchange} {c : RemoteCommand} :
    Final (history ++ [e]) c ↔ Final history c ∨ Exchange.finalized e = some c := by
  simp [Final, or_and_right, exists_or]

/-- An exchange that makes nothing final. -/
theorem final_concat_none {history : List Exchange} {e : Exchange} {c : RemoteCommand}
    (he : Exchange.finalized e = none) : Final (history ++ [e]) c ↔ Final history c := by
  rw [final_concat, he]
  simp

section Terminal

variable {C : Occasion}

/-- While the row is not at an end, the order has not ended. -/
theorem not_ended (hlinked : Linked C order_id w) (hrow : w.sagas.load order_id = some saga)
    (hopen : saga.state ∉ SagaState.terminal) : ¬ Ended w.history := by
  rintro ⟨earlier, hearlier, hterminal⟩
  have hlater := hlinked.row_later hrow hearlier
  rw [hlater.ended hterminal] at hopen
  exact hopen hterminal

theorem not_ended_of_none (hlinked : Linked C order_id w)
    (hrow : w.sagas.load order_id = none) : ¬ Ended w.history := by
  rintro ⟨earlier, hearlier, _⟩
  rw [hlinked.row, List.getLast?_eq_none_iff] at hrow
  rw [hrow] at hearlier
  cases hearlier

end Terminal

/-- Requests are made of an order that is not at an end. -/
theorem Asks.not_terminal (h : Evidenced saga) {role : LegRole} {r : RemoteRequest}
    (hasks : Asks order_id saga heard role r) : saga.state ∉ SagaState.terminal := by
  have hpreparing : saga.state = .Preparing → saga.state ∉ SagaState.terminal := by
    intro hstate
    rw [hstate]
    decide
  have hdue : ∀ c, Due saga c → saga.state ∉ SagaState.terminal :=
    fun c hc => (h.due hc).2.2.2
  match r with
  | .prepare _ _ | .commit _ => exact hpreparing hasks.1
  | .inspect _ =>
    rcases hasks.1 with hstate | hc
    · exact hpreparing hstate
    · exact hdue _ hc
  | .release _ =>
    rcases hasks with ⟨hstate, _⟩ | ⟨hc, _⟩
    · exact hpreparing hstate
    · exact hdue _ hc
  | .command _ _ c _ => exact hdue c hasks.2.2.1
  | .stage_cctp_completion _ _ _ =>
    rw [hasks.1.1]
    decide

/-- A request of the protocol is justified. -/
theorem Asks.justified (h : Evidenced saga) (hlinked : Linked always order_id w)
    (hrow : w.sagas.load order_id = some saga) (hremembers : Remembers order_id w heard)
    {role : LegRole} {r : RemoteRequest} (hasks : Asks order_id saga heard role r) :
    r.Justified w.history := by
  have hshows := h.state
  match r with
  | .command _ _ .ClaimOrigin _ =>
    have hstate : saga.state = .OriginPending := by
      simpa [RemoteCommand.sent_in] using hasks.2.2.1.1
    rw [hstate] at hshows
    exact ⟨hremembers.destination saga hrow (h.fill_proof hshows.1),
      hremembers.fill_proof saga hrow hshows.1⟩
  | .command _ _ .DispatchRepayment _ =>
    have hstate : saga.state = .OriginFinalized := by
      simpa [RemoteCommand.sent_in] using hasks.2.2.1.1
    rw [hstate] at hshows
    exact hremembers.origin saga hrow hshows.1
  | .command _ _ .CloseDestination _ =>
    have hstate : saga.state = .RepaymentPending := by
      simpa [RemoteCommand.sent_in] using hasks.2.2.1.1
    rw [hstate] at hshows
    exact ⟨saga, hlinked.row_mem hrow, hshows⟩
  | .stage_cctp_completion _ _ _ =>
    rw [hasks.1.1] at hshows
    exact hremembers.origin saga hrow hshows.1
  | .release _ =>
    -- The delivery is not final in the saga, and the call has not heard that it is.
    intro hfinal
    rcases hremembers.delivered hfinal with ⟨stored, hstored, hsome⟩ | ⟨evidence, hheard⟩
    · rw [hrow] at hstored
      obtain rfl := Option.some.inj hstored
      have hnone : saga.destination = none := by
        rcases hasks with ⟨hstate, _⟩ | ⟨hdue, _⟩
        · rw [hstate] at hshows
          exact hshows
        · exact (h.due hdue).1
      rw [hnone] at hsome
      cases hsome
    · rcases hasks with ⟨_, hnone⟩ | ⟨_, reason, hfailed⟩
      · rw [hnone] at hheard
        cases hheard
      · rw [hfailed] at hheard
        cases hheard
  | .command _ _ .Deliver _ | .command _ _ .DispatchFillProof _ | .prepare _ _ | .commit _
  | .inspect _ => trivial

/-! ## One exchange -/

/-- The call has heard of nothing final. -/
def Quiet (heard : Option (RemoteCommand × RemoteProgress)) : Prop :=
  ∀ c evidence, heard ≠ some (c, .Finalized evidence)

theorem quiet_none : Quiet none := by
  intro c evidence h
  cases h

theorem quiet_of_settled (h : t.Settled) : Quiet t.heard := by
  match t with
  | .unread | .absent => exact quiet_none
  | .at_saga saga none => exact quiet_none
  | .at_saga saga (some (c, .Pending)) =>
    intro c evidence h
    cases h
  | .at_saga saga (some (c, .Failed _)) =>
    intro c evidence h
    cases h
  | .at_saga saga (some (c, .Finalized _)) => exact h.elim

namespace Remembers

theorem of_quiet (h : Remembers order_id w heard) (hquiet : Quiet heard)
    {heard' : Option (RemoteCommand × RemoteProgress)} (hquiet' : Quiet heard') :
    Remembers order_id w heard' where
  justified := h.justified
  delivered := by
    intro hfinal
    rcases h.delivered hfinal with hstored | ⟨evidence, hheard⟩
    · exact .inl hstored
    · exact absurd hheard (hquiet _ _)
  destination := h.destination
  fill_proof := h.fill_proof
  origin := h.origin
  heard_final := fun c evidence hheard => absurd hheard (hquiet' c evidence)

/-- An exchange that writes nothing and makes nothing final. -/
theorem read (h : Remembers order_id w heard) (hq : ProxyWorld.ReadOnly q)
    (hjustified : Exchange.Justified w.history ⟨q, (w.answer reads q).1⟩)
    (hnone : Exchange.finalized ⟨q, (w.answer reads q).1⟩ = none) :
    Remembers order_id (w.answer reads q).2 heard := by
  have hrow : (w.answer reads q).2.sagas = w.sagas := ProxyWorld.respond_read_only hq w.sagas
  have hfinal : ∀ c, Final (w.answer reads q).2.history c ↔ Final w.history c :=
    fun c => final_concat_none hnone
  refine ⟨Run.justified_concat h.justified hjustified, ?_, ?_, ?_, ?_, ?_⟩
  · rw [hfinal, hrow]
    exact h.delivered
  · intro saga
    rw [hfinal, hrow]
    exact h.destination saga
  · intro saga
    rw [hfinal, hrow]
    exact h.fill_proof saga
  · intro saga
    rw [hfinal, hrow]
    exact h.origin saga
  · intro c evidence hheard
    rw [hfinal]
    exact h.heard_final c evidence hheard

/-- A command that is made final, by a call that has heard of none. -/
theorem hear {role : LegRole} {id : CrossChainOrderId} {command_id : CrossChainStepId}
    {c : RemoteCommand} {token : PrepareToken} {evidence : StepEvidence}
    (h : Remembers order_id w none) (hrole : role = Handler.expected_role c)
    (hjustified : Exchange.Justified w.history
      ⟨.remote role (.command id command_id c token),
        (w.answer reads (.remote role (.command id command_id c token))).1⟩)
    (hread : reads.remote (.command id command_id c token) = .ok (.Finalized evidence)) :
    Remembers order_id (w.answer reads (.remote role (.command id command_id c token))).2
      (some (c, .Finalized evidence)) := by
  have hexchange : Exchange.finalized ⟨.remote role (.command id command_id c token),
      (ProxyWorld.respond reads (.remote role (.command id command_id c token)) w.sagas).1⟩ =
        some c := by
    show Exchange.finalized ⟨.remote role (.command id command_id c token),
      reads.remote (.command id command_id c token)⟩ = some c
    rw [hread]
    exact if_pos hrole
  have hfinal : ∀ c', Final
      (w.answer reads (.remote role (.command id command_id c token))).2.history c' ↔
        Final w.history c' ∨ c = c' := by
    intro c'
    refine final_concat.trans ?_
    rw [hexchange, Option.some_inj]
  refine ⟨Run.justified_concat h.justified hjustified, ?_, ?_, ?_, ?_, ?_⟩
  · rw [hfinal]
    rintro (hbefore | rfl)
    · rcases h.delivered hbefore with hstored | ⟨_, hheard⟩
      · exact .inl hstored
      · cases hheard
    · exact .inr ⟨evidence, rfl⟩
  · intro saga hrow hsome
    exact (hfinal _).mpr (.inl (h.destination saga hrow hsome))
  · intro saga hrow hsome
    exact (hfinal _).mpr (.inl (h.fill_proof saga hrow hsome))
  · intro saga hrow hsome
    exact (hfinal _).mpr (.inl (h.origin saga hrow hsome))
  · intro c' evidence' hheard
    obtain ⟨rfl, _⟩ := Prod.mk.inj (Option.some.inj hheard)
    exact (hfinal _).mpr (.inr rfl)

/-- An update writes down what the call has heard. -/
theorem update (h : Remembers order_id w heard) (hevidenced : Evidenced saga)
    (hrow : w.sagas.load order_id = some saga) (hid : saga'.order_id = order_id)
    (hwrite : Write saga heard saga') :
    Remembers order_id (w.answer reads (.update saga')).2 none := by
  have hrow' : (w.answer reads (.update saga')).2.sagas.load order_id = some saga' := by
    show SqliteSagaStore.load (ProxyWorld.respond reads (.update saga') w.sagas).2 order_id = _
    rw [ProxyWorld.respond_update (by rw [hid]; exact hrow), ProxyWorld.load_insert, if_pos hid]
  have hfinal : ∀ c, Final (w.answer reads (.update saga')).2.history c ↔ Final w.history c :=
    fun c => final_concat_none rfl
  obtain ⟨hdestination, hfill_proof, horigin⟩ := hwrite.evidence_heard
  have hstored : ∀ stored,
      (w.answer reads (.update saga')).2.sagas.load order_id = some stored → saga' = stored := by
    intro stored hstored
    rw [hrow'] at hstored
    exact Option.some.inj hstored
  refine ⟨Run.justified_concat h.justified trivial, ?_, ?_, ?_, ?_, ?_⟩
  · rw [hfinal]
    intro hdelivered
    refine .inl ⟨saga', hrow', ?_⟩
    rcases h.delivered hdelivered with ⟨stored, hstored, hsome⟩ | ⟨evidence, rfl⟩
    · rw [hrow] at hstored
      obtain rfl := Option.some.inj hstored
      obtain ⟨evidence, hevidence⟩ := Option.isSome_iff_exists.mp hsome
      rw [(hevidenced.later hwrite).destination evidence hevidence]
      rfl
    · rw [hwrite.delivered]
      rfl
  · intro stored hload hsome
    obtain rfl := hstored stored hload
    rw [hfinal]
    rcases hdestination with hsame | ⟨evidence, hheard⟩
    · exact h.destination saga hrow (hsame ▸ hsome)
    · exact h.heard_final _ evidence hheard
  · intro stored hload hsome
    obtain rfl := hstored stored hload
    rw [hfinal]
    rcases hfill_proof with hsame | ⟨evidence, hheard⟩
    · exact h.fill_proof saga hrow (hsame ▸ hsome)
    · exact h.heard_final _ evidence hheard
  · intro stored hload hsome
    obtain rfl := hstored stored hload
    rw [hfinal]
    rcases horigin with hsame | ⟨evidence, hheard⟩
    · exact h.origin saga hrow (hsame ▸ hsome)
    · exact h.heard_final _ evidence hheard
  · intro c evidence hheard
    cases hheard

/-- A new saga has nothing to remember. -/
theorem insert (h : Remembers order_id w none) (hrow : w.sagas.load order_id = none)
    (hnew : New order_id saga) : Remembers order_id (w.answer reads (.insert saga)).2 none := by
  have hfinal : ∀ c, Final (w.answer reads (.insert saga)).2.history c ↔ Final w.history c := by
    intro c
    apply final_concat_none
    match (ProxyWorld.respond reads (.insert saga) w.sagas).1 with
    | .ok _ => rfl
    | .error _ => rfl
  have hundelivered : ¬ Final w.history .Deliver := by
    intro hdelivered
    rcases h.delivered hdelivered with ⟨stored, hstored, _⟩ | ⟨_, hheard⟩
    · rw [hrow] at hstored
      cases hstored
    · cases hheard
  have hstored : ∀ stored,
      (w.answer reads (.insert saga)).2.sagas.load order_id = some stored → saga = stored := by
    intro stored hload
    have hload' : SqliteSagaStore.load (w.sagas.insert_new saga).2 order_id = some stored := hload
    have hnone : w.sagas.load saga.order_id = none := by
      rw [hnew.order_id]
      exact hrow
    simp only [SqliteSagaStore.insert_new, hnone] at hload'
    rw [ProxyWorld.load_insert, if_pos hnew.order_id] at hload'
    exact Option.some.inj hload'
  obtain ⟨_, _, _, hdestination, hfill_proof, horigin, _⟩ := hnew
  refine ⟨Run.justified_concat h.justified trivial, ?_, ?_, ?_, ?_, ?_⟩
  · rw [hfinal]
    exact fun hdelivered => absurd hdelivered hundelivered
  · intro stored hload hsome
    obtain rfl := hstored stored hload
    simp [hdestination] at hsome
  · intro stored hload hsome
    obtain rfl := hstored stored hload
    simp [hfill_proof] at hsome
  · intro stored hload hsome
    obtain rfl := hstored stored hload
    simp [horigin] at hsome
  · intro c evidence hheard
    cases hheard

end Remembers

/-- **Step lemma.** Each exchange of a call is justified, and the saga with what the
    call has heard remembers what was made final. -/
theorem remembers_step (hlinked : Linked always order_id w) (hseen : Seen order_id w t)
    (hremembers : Remembers order_id w t.heard) (hpermits : t.Permits order_id q) :
    Remembers order_id (w.answer reads q).2 (t.next q (w.answer reads q).1).heard := by
  cases hpermits with
  | load =>
    have hread : Remembers order_id (w.answer reads (.load order_id)).2 none :=
      Remembers.read hremembers trivial trivial rfl
    have hnext : ∀ answer : Except SagaStoreError (Option CrossChainSaga),
        Remembers order_id (w.answer reads (.load order_id)).2
          (Turn.next .unread (.load order_id) answer).heard := by
      intro answer
      match answer with
      | .ok none | .ok (some _) | .error _ => exact hread
    exact hnext _
  | author_direct authorization => exact Remembers.read hremembers trivial trivial rfl
  | quote_terms repayment =>
    exact Remembers.read hremembers trivial (not_ended_of_none hlinked hseen) rfl
  | stage role context plan =>
    exact Remembers.read hremembers trivial ⟨not_ended_of_none hlinked hseen, trivial⟩ rfl
  | insert hnew =>
    rename_i saga
    have hnext : ∀ answer : Except SagaStoreError CrossChainSaga,
        Remembers order_id (w.answer reads (.insert saga)).2
          (Turn.next .absent (.insert saga) answer).heard := by
      intro answer
      match answer with
      | .ok _ | .error _ => exact Remembers.insert hremembers hseen hnew
    exact hnext _
  | update hwrite =>
    rename_i saga saga' heard
    obtain ⟨hevidenced, hid⟩ := hlinked.evidenced saga (hlinked.row_mem hseen)
    have hid' : saga'.order_id = order_id := (hevidenced.later hwrite).order_id.trans hid
    have hanswer : (w.answer reads (.update saga')).1 = .ok () := by
      show (ProxyWorld.respond reads (.update saga') w.sagas).1 = _
      rw [ProxyWorld.respond_update (by rw [hid']; exact hseen)]
    rw [hanswer]
    exact Remembers.update hremembers hevidenced hseen hid' hwrite
  | remote hasks =>
    rename_i saga heard role r
    have hevidenced := (hlinked.evidenced saga (hlinked.row_mem hseen)).1
    have hjustified : ¬ Ended w.history ∧ r.Justified w.history :=
      ⟨not_ended hlinked hseen (Asks.not_terminal hevidenced hasks),
        Asks.justified hevidenced hlinked hseen hremembers hasks⟩
    match r with
    | .command id command_id c token =>
      obtain ⟨_, hrole, _, hnone⟩ := hasks
      subst hnone
      -- Only a final answer adds to what was made final, and the call hears of it.
      have hread : ∀ answer, reads.remote (.command id command_id c token) = answer →
          (∀ evidence, answer ≠ .ok (.Finalized evidence)) →
          Remembers order_id (w.answer reads (.remote role (.command id command_id c token))).2
            none := by
        intro answer hanswer hquiet
        refine Remembers.read hremembers (by trivial) hjustified ?_
        show Exchange.finalized ⟨.remote role (.command id command_id c token),
          reads.remote (.command id command_id c token)⟩ = none
        rw [hanswer]
        match answer with
        | .ok .Pending | .ok (.Failed _) | .error _ => rfl
        | .ok (.Finalized evidence) => exact absurd rfl (hquiet evidence)
      have hnext : ∀ answer, reads.remote (.command id command_id c token) = answer →
          Remembers order_id (w.answer reads (.remote role (.command id command_id c token))).2
            (Turn.next (.at_saga saga none) (.remote role (.command id command_id c token))
              answer).heard := by
        intro answer hanswer
        match answer with
        | .ok (.Finalized evidence) => exact Remembers.hear hremembers hrole hjustified hanswer
        | .ok .Pending =>
          refine (hread _ hanswer (fun _ h => nomatch h)).of_quiet quiet_none ?_
          intro c evidence h
          cases h
        | .ok (.Failed reason) =>
          refine (hread _ hanswer (fun _ h => nomatch h)).of_quiet quiet_none ?_
          intro c evidence h
          cases h
        | .error e => exact hread _ hanswer (fun _ h => nomatch h)
      exact hnext _ rfl
    | .stage _ _ | .stage_cctp_completion _ _ _ | .prepare _ _ | .commit _ | .inspect _
    | .release _ => exact Remembers.read hremembers trivial hjustified rfl
  | close_step origin_transaction hdue =>
    rename_i saga
    have hevidenced := (hlinked.evidenced saga (hlinked.row_mem hseen)).1
    have hshows := hevidenced.state
    rw [hdue.1] at hshows
    have hopen : saga.state ∉ SagaState.terminal := by
      rw [hdue.1]
      decide
    exact Remembers.read hremembers trivial
      ⟨not_ended hlinked hseen hopen, hremembers.origin saga hseen hshows.1⟩ rfl

/-! ## Whole runs -/

/-- **Origin funds are claimed only after proven delivery.** In every run of whole
    calls, each exchange of the order is justified by the ones before it. -/
theorem commands_are_justified (keccak256 : List UInt8 → B256) (cctp : Bool)
    (order_id : CrossChainOrderId) (sagas : SqliteSagaStore) (hnew : sagas.load order_id = none)
    (actions : List (Action ProxyCall ProxyReads Unit CrossChainSaga))
    (horderly : Run.Along (ProxyWorld.machine keccak256 cctp order_id).next
      (ProxyWorld.OneByOne False) (Machine.initial (ProxyWorld.before sagas)) actions) :
    Run.Justified Exchange.Justified (Run.run (ProxyWorld.machine keccak256 cctp order_id).next
      (Machine.initial (ProxyWorld.before sagas)) actions).shared.history := by
  let inv : ProxyWorld → Prop := fun w => Linked always order_id w ∧ Remembers order_id w none
  let local_inv : ProxyWorld → Turn → Prop := fun w t =>
    Linked always order_id w ∧ Seen order_id w t ∧ Remembers order_id w t.heard
  have hstart : ∀ w, inv w → local_inv w .unread := fun w hw => ⟨hw.1, trivial, hw.2⟩
  have hstep : ∀ reads q t w, local_inv w t → t.Permits order_id q → True →
      Turn.answers order_id t q ((ProxyWorld.environment order_id).answer reads q w).1 ∧
        local_inv ((ProxyWorld.environment order_id).answer reads q w).2
          (t.next q ((ProxyWorld.environment order_id).answer reads q w).1) := by
    intro reads q t w hlocal hpermits _
    obtain ⟨hlinked, hseen, hremembers⟩ := hlocal
    obtain ⟨hanswers, hlinked', hseen'⟩ := seen_step reads hlinked hseen hpermits
    exact ⟨hanswers, hlinked', hseen', remembers_step hlinked hseen hremembers hpermits⟩
  have hend : ∀ w t, local_inv w t → Turn.Settled t → inv w :=
    fun w t hlocal hsettled =>
      ⟨hlocal.1, hlocal.2.2.of_quiet (quiet_of_settled hsettled) quiet_none⟩
  have houtside : ∀ {heard} saga w, Remembers order_id w heard →
      Remembers order_id ((ProxyWorld.environment order_id).outside saga w) heard := by
    intro heard saga w hremembers
    show Remembers order_id (if _ then _ else _) heard
    split
    case isTrue => exact hremembers
    case isFalse hother =>
      have hload : SqliteSagaStore.load (w.sagas.insert saga.order_id saga) order_id =
          w.sagas.load order_id := by
        rw [ProxyWorld.load_insert, if_neg hother]
      obtain ⟨hjustified, hdelivered, hdestination, hfill_proof, horigin, hheard⟩ := hremembers
      rw [← hload] at hdelivered hdestination hfill_proof horigin
      exact ⟨hjustified, hdelivered, hdestination, hfill_proof, horigin, hheard⟩
  have hbefore : inv (ProxyWorld.before sagas) := by
    have hrow : ∀ saga, (ProxyWorld.before sagas).sagas.load order_id ≠ some saga := by
      intro saga hsaga
      have hsome : sagas.load order_id = some saga := hsaga
      rw [hnew] at hsome
      cases hsome
    refine ⟨Linked.before hnew, Run.justified_nil _, ?_, ?_, ?_, ?_, ?_⟩
    · rintro ⟨e, he, _⟩
      cases he
    · exact fun saga hsaga => absurd hsaga (hrow saga)
    · exact fun saga hsaga => absurd hsaga (hrow saga)
    · exact fun saga hsaga => absurd hsaga (hrow saga)
    · intro c evidence hheard
      cases hheard
  have hrun := Protocol.alone (P := order_protocol order_id)
    (ProxyCall.obeys keccak256 cctp order_id) hstart hstep hend (fun h => h.elim)
    (fun saga w hw => ⟨hw.1.outside saga, houtside saga w hw.2⟩)
    (fun t saga w hw => ⟨hw.1.outside saga, seen_outside hw.2.1 saga, houtside saga w hw.2.2⟩)
    hbefore horderly
  rcases hrun with hidle | ⟨_, hlocal⟩
  · exact hidle.2.justified
  · exact hlocal.2.2.justified

namespace ProxyWorld

open CrossChainWorld LocalCrossChainService

set_option maxRecDepth 8000 in
theorem completed_calls_return :
    Run.Along (machine sample_hash false sample_order).next (OneByOne False)
      (Machine.initial (before ∅)) completed_actions := by
  decide +kernel

set_option maxRecDepth 8000 in
theorem completed_claim :
    Final (sample_proxy_run completed_actions).history .ClaimOrigin := by
  unfold Final
  decide +kernel

theorem completed_order_is_justified :
    let w := sample_proxy_run completed_actions
    Final w.history .ClaimOrigin ∧ Run.Justified Exchange.Justified w.history := by
  have hclaim := completed_claim
  unfold sample_proxy_run at hclaim ⊢
  exact ⟨hclaim, commands_are_justified sample_hash false sample_order ∅ (by decide)
    completed_actions completed_calls_return⟩

end ProxyWorld

end Solvent
