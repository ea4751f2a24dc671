import Mathlib
import Solvent.Crosschain.Evidence

/-! # Overlapping calls

    Calls of one order that overlap: the recovery worker, the HTTP route, a
    restarted worker. A call loads the saga, asks, and writes the whole saga
    back, so the last writer wins with the version it loaded. While no call writes
    over a version it has not seen, the history of the order is a chain whatever
    the interleaving, and nothing is lost.
-/

namespace Solvent

open Interleave

variable {order_id : CrossChainOrderId} {w : ProxyWorld} {reads : ProxyReads} {t : Turn}
variable {q : ProxyQuery} {C : Occasion}

/-! ## What a call may assume -/

def ProxyQuery.updates : ProxyQuery → Bool
  | .update _ => true
  | _ => false

/-- The progress a command is answered with. -/
def ProxyReads.hears (reads : ProxyReads) : ProxyQuery → Option (RemoteCommand × RemoteProgress)
  | .remote _ (.command id command_id c token) =>
    match reads.remote (.command id command_id c token) with
    | .ok progress => some (c, progress)
    | .error _ => none
  | _ => none

/-- No call writes over a version it has not seen: when a call updates the saga,
    the stored version is the one it last loaded or wrote. -/
def Current (order_id : CrossChainOrderId) (_ : ProxyReads) (q : ProxyQuery) (t : Turn)
    (w : ProxyWorld) : Prop :=
  q.updates → ∀ saga ∈ t.version, w.sagas.load order_id = some saga

/-- A command is answered as `C` says, and an update with no command is made as
    `C` says. -/
def Answered (C : Occasion) (reads : ProxyReads) (q : ProxyQuery) (t : Turn)
    (_ : ProxyWorld) : Prop :=
  ∀ saga ∈ t.version,
    (q.updates → t.heard = none → C saga none) ∧ ∀ heard ∈ reads.hears q, C saga (some heard)

/-- The occasions of the writes: current, and answered as `C` says. -/
def OnOccasion (C : Occasion) (order_id : CrossChainOrderId) (reads : ProxyReads)
    (q : ProxyQuery) (t : Turn) (w : ProxyWorld) : Prop :=
  Current order_id reads q t w ∧ Answered C reads q t w

/-- What holds of a version a call has seen, whatever the other calls do. -/
def Versioned (C : Occasion) (order_id : CrossChainOrderId) (w : ProxyWorld) : Turn → Prop
  | .unread | .absent => True
  | .at_saga saga heard =>
    Evidenced saga ∧ saga.order_id = order_id ∧ (w.sagas.load order_id).isSome ∧
      (heard ≠ none → C saga heard)

/-- A row is never deleted. -/
theorem row_stays (hrow : (w.sagas.load order_id).isSome) :
    ((w.answer reads q).2.sagas.load order_id).isSome := by
  have hinsert : ∀ saga : CrossChainSaga,
      (SqliteSagaStore.load (w.sagas.insert saga.order_id saga) order_id).isSome := by
    intro saga
    rw [ProxyWorld.load_insert]
    split
    · rfl
    · exact hrow
  match q with
  | .load _ | .remote _ _ | .quote_terms _ | .close_step _ _ | .author_direct _ =>
    show ((ProxyWorld.respond reads _ w.sagas).2.load order_id).isSome
    rw [ProxyWorld.respond_read_only (by exact trivial)]
    exact hrow
  | .insert saga =>
    show ((ProxyWorld.respond reads (.insert saga) w.sagas).2.load order_id).isSome
    rcases ProxyWorld.respond_insert reads saga w.sagas with ⟨_, h⟩ | ⟨_, h⟩ | h
    · rw [h]
      exact hinsert saga
    · rw [h]
      exact hrow
    · rw [h]
      exact hrow
  | .update saga =>
    show (SqliteSagaStore.load (w.sagas.update saga).2 order_id).isSome
    unfold SqliteSagaStore.update
    split
    · exact hrow
    · exact hinsert saga

theorem Versioned.stays {w' : ProxyWorld}
    (hstays : (w.sagas.load order_id).isSome → (w'.sagas.load order_id).isSome)
    (h : Versioned C order_id w t) : Versioned C order_id w' t := by
  match t with
  | .unread | .absent => trivial
  | .at_saga saga heard =>
    obtain ⟨hevidenced, hid, hrow, hheard⟩ := h
    exact ⟨hevidenced, hid, hstays hrow, hheard⟩

/-- **Step lemma** for overlapping calls. -/
theorem overlap_step (hlinked : Linked C order_id w) (hversion : Versioned C order_id w t)
    (hpermits : t.Permits order_id q) (hoccasion : OnOccasion C order_id reads q t w) :
    Turn.answers order_id t q (w.answer reads q).1 ∧ Linked C order_id (w.answer reads q).2 ∧
      Versioned C order_id (w.answer reads q).2 (t.next q (w.answer reads q).1) ∧
      ∀ u, Versioned C order_id w u → Versioned C order_id (w.answer reads q).2 u := by
  have hothers : ∀ u, Versioned C order_id w u → Versioned C order_id (w.answer reads q).2 u :=
    fun u hu => hu.stays row_stays
  cases hpermits with
  | load =>
    refine ⟨?_, hlinked.read_only trivial, ?_, hothers⟩
    · intro saga hanswer
      by_cases hlost : reads.unreadable
      · simp [ProxyWorld.answer, ProxyWorld.respond, hlost] at hanswer
      · have hrow : w.sagas.load order_id = some saga := by
          simp [ProxyWorld.answer, ProxyWorld.respond, hlost] at hanswer
          exact Except.ok.inj hanswer
        exact (hlinked.evidenced saga (hlinked.row_mem hrow)).2
    · by_cases hlost : reads.unreadable
      · simp [ProxyWorld.answer, ProxyWorld.respond, hlost, Turn.next, Versioned]
      · cases hrow : w.sagas.load order_id with
        | none => simp [ProxyWorld.answer, ProxyWorld.respond, hlost, Turn.next, Versioned, hrow]
        | some saga =>
          have hsaga := hlinked.evidenced saga (hlinked.row_mem hrow)
          simp [ProxyWorld.answer, ProxyWorld.respond, hlost, Turn.next, Versioned, hrow, hsaga]
  | author_direct _ => exact ⟨trivial, hlinked.read_only trivial, trivial, hothers⟩
  | quote_terms _ => exact ⟨trivial, hlinked.read_only trivial, trivial, hothers⟩
  | stage role context plan => exact ⟨trivial, hlinked.read_only trivial, trivial, hothers⟩
  | insert hnew =>
    rename_i saga
    have hid : saga.order_id = order_id := hnew.order_id
    have hanswer : (w.answer reads (.insert saga)).1 = .ok saga ∧
          (w.answer reads (.insert saga)).2.sagas.load order_id = some saga ∨
        (w.answer reads (.insert saga)).1 = .error .Conflict := by
      show (ProxyWorld.respond reads (.insert saga) w.sagas).1 = _ ∧
        (ProxyWorld.respond reads (.insert saga) w.sagas).2.load order_id = _ ∨
          (ProxyWorld.respond reads (.insert saga) w.sagas).1 = _
      rcases ProxyWorld.respond_insert reads saga w.sagas with ⟨_, h⟩ | ⟨hrow, h⟩ | h
      · left
        rw [h, ProxyWorld.load_insert, if_pos hid]
        exact ⟨rfl, rfl⟩
      · left
        rw [h, ← hid]
        exact ⟨rfl, hrow⟩
      · right
        rw [h]
    refine ⟨?_, hlinked.insert hnew, ?_, hothers⟩
    · intro stored hstored
      rcases hanswer with ⟨hok, _⟩ | herror
      · rw [hok] at hstored
        exact (Except.ok.inj hstored).symm
      · rw [herror] at hstored
        cases hstored
    · rcases hanswer with ⟨hok, hrow⟩ | herror
      · rw [hok]
        refine ⟨hnew.evidenced, hid, ?_, fun h => absurd rfl h⟩
        rw [hrow]
        rfl
      · rw [herror]
        trivial
  | update hwrite =>
    rename_i saga saga' heard
    obtain ⟨hevidenced, hid, _, hheard⟩ := hversion
    -- The row is the version the call has: the write follows it.
    have hrow : w.sagas.load order_id = some saga := hoccasion.1 rfl saga rfl
    have hC : C saga heard := by
      by_cases hnone : heard = none
      · rw [hnone]
        exact (hoccasion.2 saga rfl).1 rfl hnone
      · exact hheard hnone
    have hid' : saga'.order_id = order_id := (hevidenced.later hwrite).order_id.trans hid
    have hstored : w.sagas.load saga'.order_id = some saga := by
      rw [hid']
      exact hrow
    have hanswer : (w.answer reads (.update saga')).1 = .ok () := by
      show (ProxyWorld.respond reads (.update saga') w.sagas).1 = _
      rw [ProxyWorld.respond_update hstored]
    refine ⟨hanswer, hlinked.update hrow hid' hwrite hC, ?_, hothers⟩
    rw [hanswer]
    refine ⟨hevidenced.write hwrite, hid', ?_, fun h => absurd rfl h⟩
    exact row_stays (by rw [hrow]; rfl)
  | remote hasks =>
    rename_i saga heard role r
    refine ⟨trivial, hlinked.read_only trivial, ?_, hothers⟩
    obtain ⟨hevidenced, hid, hrow, hheard⟩ := hversion
    have hunmoved : Versioned C order_id (w.answer reads (.remote role r)).2
        (.at_saga saga heard) := ⟨hevidenced, hid, row_stays hrow, hheard⟩
    cases r with
    | command id command_id c token =>
      have hnext : ∀ answer : Except RemoteSolventError RemoteProgress,
          (∀ progress, answer = .ok progress → C saga (some (c, progress))) →
          Versioned C order_id (w.answer reads (.remote role (.command id command_id c token))).2
            (Turn.next (.at_saga saga heard) (.remote role (.command id command_id c token))
              answer) := by
        intro answer hanswer
        cases answer with
        | ok progress => exact ⟨hevidenced, hid, row_stays hrow, fun _ => hanswer progress rfl⟩
        | error _ => exact hunmoved
      apply hnext
      intro progress hprogress
      have hread : reads.remote (.command id command_id c token) = .ok progress := hprogress
      have hhears : reads.hears (.remote role (.command id command_id c token)) =
          some (c, progress) := by
        simp only [ProxyReads.hears, hread]
      exact (hoccasion.2 saga rfl).2 (c, progress) hhears
    | _ => exact hunmoved
  | close_step origin_transaction hdue =>
    exact ⟨trivial, hlinked.read_only trivial, hothers _ hversion, hothers⟩

/-! ## Every interleaving -/

/-- The calls of the proxy with the versions they have seen. -/
def ProxyWorld.tracked (keccak256 : List UInt8 → B256) (cctp : Bool)
    (order_id : CrossChainOrderId) :
    Machine ProxyWorld ProxyCall (Protocol.Tracked ProxyQuery ProxyQuery.Answer Turn) ProxyReads
      Unit CrossChainSaga :=
  (order_protocol order_id).track (ProxyWorld.environment order_id) .unread
    (ProxyCall.proxy_entry keccak256 cctp order_id)

/-- **Run lemma.** In every interleaving with writes on occasions in `C`, the
    history of an order is a chain. -/
theorem overlap_run (keccak256 : List UInt8 → B256) (cctp : Bool) {sagas : SqliteSagaStore}
    (hnew : sagas.load order_id = none)
    {actions : List (Action ProxyCall ProxyReads Unit CrossChainSaga)}
    (hmeets : Run.Along (ProxyWorld.tracked keccak256 cctp order_id).next
      (Protocol.Meets (OnOccasion C order_id)) (Machine.initial (ProxyWorld.before sagas))
      actions) :
    Linked C order_id (Run.run (ProxyWorld.machine keccak256 cctp order_id).next
      (Machine.initial (ProxyWorld.before sagas)) actions).shared := by
  have hstart : ∀ w, Linked C order_id w → Versioned C order_id w .unread := fun _ _ => trivial
  have hstep : ∀ reads q t w, Linked C order_id w → Versioned C order_id w t →
      t.Permits order_id q → OnOccasion C order_id reads q t w →
      Turn.answers order_id t q ((ProxyWorld.environment order_id).answer reads q w).1 ∧
        Linked C order_id ((ProxyWorld.environment order_id).answer reads q w).2 ∧
        Versioned C order_id ((ProxyWorld.environment order_id).answer reads q w).2
          (t.next q ((ProxyWorld.environment order_id).answer reads q w).1) ∧
        ∀ u, Versioned C order_id w u →
          Versioned C order_id ((ProxyWorld.environment order_id).answer reads q w).2 u :=
    fun reads q t w hlinked hversion hpermits hoccasion =>
      overlap_step hlinked hversion hpermits hoccasion
  have houtside : ∀ saga w, Linked C order_id w →
      Linked C order_id ((ProxyWorld.environment order_id).outside saga w) ∧
        ∀ u, Versioned C order_id w u →
          Versioned C order_id ((ProxyWorld.environment order_id).outside saga w) u := by
    intro saga w hlinked
    refine ⟨hlinked.outside saga, fun u hu => hu.stays ?_⟩
    intro hrow
    show ((if _ then _ else _ : ProxyWorld).sagas.load order_id).isSome
    split
    case isTrue => exact hrow
    case isFalse hother =>
      show (SqliteSagaStore.load (w.sagas.insert saga.order_id saga) order_id).isSome
      rw [ProxyWorld.load_insert, if_neg hother]
      exact hrow
  have hrun := Protocol.concurrent (P := order_protocol order_id)
    (ProxyCall.obeys keccak256 cctp order_id) hstart hstep houtside (Linked.before hnew) hmeets
  have hsame := (order_protocol order_id).track_run (ProxyWorld.environment order_id) .unread
    (ProxyCall.proxy_entry keccak256 cctp order_id) (ProxyWorld.before sagas) actions
  show Linked C order_id (Run.run ((ProxyWorld.environment order_id).machine
    (ProxyCall.proxy_entry keccak256 cctp order_id)).next _ actions).shared
  rw [hsame]
  exact hrun

/-! ## Lost updates -/

/-- A call starts when none is in progress. -/
def StartsIdle (w : World ProxyWorld (Protocol.Tracked ProxyQuery ProxyQuery.Answer Turn)) :
    Action ProxyCall ProxyReads Unit CrossChainSaga → Prop
  | .start _ => w.Idle
  | _ => True

instance (w : World ProxyWorld (Protocol.Tracked ProxyQuery ProxyQuery.Answer Turn))
    (a : Action ProxyCall ProxyReads Unit CrossChainSaga) : Decidable (StartsIdle w a) :=
  match a with
  | .start _ => inferInstanceAs (Decidable w.Idle)
  | .access _ _ | .stop _ | .crash _ | .outside _ => isTrue trivial

/-- One access of the only call in progress. -/
theorem alone_access {c : Protocol.Tracked ProxyQuery ProxyQuery.Answer Turn}
    (keccak256 : List UInt8 → B256) (cctp : Bool) (reads : ProxyReads)
    (hlinked : Linked always order_id w) (hseen : Seen order_id w c.1)
    (hobeys : (order_protocol order_id).Obeys c.2 (fun _ t => t.Settled) c.1) :
    let after := (ProxyWorld.tracked keccak256 cctp order_id).access reads w c
    Linked always order_id after.1 ∧ ∀ d, after.2 = some d → Seen order_id after.1 d.1 ∧
      (order_protocol order_id).Obeys d.2 (fun _ t => t.Settled) d.1 := by
  obtain ⟨t, p⟩ := c
  match p with
  | .ret () =>
    refine ⟨hlinked, ?_⟩
    intro d hd
    cases hd
  | .ask q k =>
    obtain ⟨hanswers, hlinked', hseen'⟩ := seen_step reads hlinked hseen hobeys.1
    refine ⟨hlinked', ?_⟩
    intro d hd
    have hfollow : (order_protocol order_id).follow t q k (w.answer reads q).1 = some d := hd
    rcases (order_protocol order_id).follow_cases (hobeys.2 _ hanswers) with
      ⟨hnone, _⟩ | ⟨p, hp, hrest⟩
    · rw [hnone] at hfollow
      cases hfollow
    · rw [hp] at hfollow
      obtain rfl := Option.some.inj hfollow
      exact ⟨hseen', hrest⟩

/-- **Calls one after another are current.** -/
theorem one_by_one_current (keccak256 : List UInt8 → B256) (cctp : Bool)
    {sagas : SqliteSagaStore} (hnew : sagas.load order_id = none)
    {actions : List (Action ProxyCall ProxyReads Unit CrossChainSaga)}
    (hidle : Run.Along (ProxyWorld.tracked keccak256 cctp order_id).next StartsIdle
      (Machine.initial (ProxyWorld.before sagas)) actions) :
    Run.Along (ProxyWorld.tracked keccak256 cctp order_id).next
      (Protocol.Meets (Current order_id)) (Machine.initial (ProxyWorld.before sagas)) actions := by
  let busy : ProxyWorld → Protocol.Tracked ProxyQuery ProxyQuery.Answer Turn → Prop := fun w c =>
    Linked always order_id w ∧ Seen order_id w c.1 ∧
      (order_protocol order_id).Obeys c.2 (fun _ t => t.Settled) c.1
  refine Run.along_of_invariant (P := Machine.Single (Linked always order_id) busy)
    (Q := StartsIdle) ?_ ?_ (Machine.single_initial (Linked.before hnew)) hidle
  · refine Machine.single_next _ (fun _ _ h => h) ?_ ?_ (fun _ _ _ _ _ hc => hc.1)
      (fun _ _ _ _ _ _ hc => hc.1) (fun _ _ hs => hs) (fun saga _ hs => hs.outside saga)
      (fun saga _ _ hc => ⟨hc.1.outside saga, seen_outside hc.2.1 saga, hc.2.2⟩)
    · exact fun c w hw => ⟨hw, trivial, c.obeys keccak256 cctp order_id⟩
    · intro w i reads c _ _ ⟨hlinked, hseen, hobeys⟩
      obtain ⟨hafter, hrest⟩ := alone_access keccak256 cctp reads hlinked hseen hobeys
      exact ⟨fun _ => hafter, fun d hd => ⟨hafter, hrest d hd⟩⟩
  · intro w a hw _
    match a with
    | .access i reads =>
      -- The version of the call in progress is the row.
      intro c hat q _ _ saga hversion
      obtain ⟨_, _, hseen, _⟩ := hw.unique hat
      match hturn : c.1 with
      | .at_saga version heard =>
        rw [hturn] at hseen hversion
        obtain rfl := Option.some.inj hversion
        exact hseen
      | .unread | .absent =>
        rw [hturn] at hversion
        cases hversion
    | .start _ | .stop _ | .crash _ | .outside _ => trivial

theorem Current.on_occasion (h : Current order_id reads q t w) :
    OnOccasion always order_id reads q t w :=
  ⟨h, fun _ _ => ⟨fun _ _ => trivial, fun _ _ => trivial⟩⟩

/-- How many rungs of evidence a state comes after. A saga that needs reconciling
    comes before none. -/
def SagaState.rung : SagaState → ℕ
  | .Quoted | .Preparing | .Prepared | .DestinationPending | .FailedBeforeDelivery => 0
  | .DestinationFinalized | .FillProofPending => 1
  | .OriginPending => 2
  | .OriginFinalized => 3
  | .RepaymentPending | .Complete | .NeedsReconcile => 4

/-- The highest rung of the evidence of a saga. -/
def CrossChainSaga.reached (saga : CrossChainSaga) : ℕ :=
  if saga.repayment.isSome then 4
  else if saga.origin.isSome then 3
  else if saga.fill_proof.isSome then 2
  else if saga.destination.isSome then 1
  else 0

/-- The state comes before a piece of the saga's evidence. -/
def Precedes (state : SagaState) (saga : CrossChainSaga) : Prop := state.rung < saga.reached

/-- Of two sagas stored one after the other: the evidence stays, the state does not
    return to one before it, and an order that has ended stays ended. -/
def LosesNothing (saga later : CrossChainSaga) : Prop :=
  KeepsEvidence saga later ∧ ¬ Precedes later.state saga ∧
    (saga.state ∈ SagaState.terminal → later.state = saga.state)

instance (saga later : CrossChainSaga) : Decidable (LosesNothing saga later) :=
  inferInstanceAs (Decidable (_ ∧ ¬ _ < _ ∧ (_ → _)))

theorem reached_le {saga later : CrossChainSaga} (h : KeepsEvidence saga later) :
    saga.reached ≤ later.reached := by
  have hsome : ∀ {a b : Option StepEvidence}, Keeps a b → a.isSome → b.isSome := by
    intro a b hab ha
    obtain ⟨x, hx⟩ := Option.isSome_iff_exists.mp ha
    rw [hab x hx]
    rfl
  obtain ⟨hdestination, hfill_proof, horigin, hrepayment⟩ := h
  have hd := hsome hdestination
  have hf := hsome hfill_proof
  have ho := hsome horigin
  have hr := hsome hrepayment
  unfold CrossChainSaga.reached
  split_ifs
  all_goals simp_all

/-- The state of a stored saga comes after all its evidence. -/
theorem Evidenced.reached_le_rung {saga : CrossChainSaga} (h : Evidenced saga) :
    saga.reached ≤ saga.state.rung := by
  obtain ⟨hfill_proof, horigin, hrepayment, hstate, _⟩ := h
  unfold CrossChainSaga.reached
  match hcase : saga.state with
  | .RepaymentPending | .Complete | .NeedsReconcile =>
    show _ ≤ 4
    split_ifs <;> omega
  | .OriginFinalized =>
    rw [hcase] at hstate
    obtain ⟨_, hnone⟩ := hstate
    simp only [hnone, Option.isSome_none, Bool.false_eq_true, if_false]
    show _ ≤ 3
    split_ifs
    all_goals omega
  | .OriginPending =>
    rw [hcase] at hstate
    have hrep : ¬ saga.repayment.isSome := fun h => by simp_all [SagaState.Shows]
    have hori : ¬ saga.origin.isSome := by simp [hstate.2]
    rw [if_neg hrep, if_neg hori]
    show _ ≤ 2
    split_ifs <;> omega
  | .DestinationFinalized | .FillProofPending =>
    rw [hcase] at hstate
    have hfill : ¬ saga.fill_proof.isSome := by simp [hstate.2]
    have hori : ¬ saga.origin.isSome := fun h => hfill (horigin h)
    have hrep : ¬ saga.repayment.isSome := fun h => hori (hrepayment h)
    rw [if_neg hrep, if_neg hori, if_neg hfill]
    show _ ≤ 1
    split_ifs <;> omega
  | .Quoted | .Preparing | .Prepared | .DestinationPending | .FailedBeforeDelivery =>
    rw [hcase] at hstate
    have hdest : ¬ saga.destination.isSome := by
      have hnone : saga.destination = none := hstate
      simp [hnone]
    have hfill : ¬ saga.fill_proof.isSome := fun h => hdest (hfill_proof h)
    have hori : ¬ saga.origin.isSome := fun h => hfill (horigin h)
    have hrep : ¬ saga.repayment.isSome := fun h => hori (hrepayment h)
    rw [if_neg hrep, if_neg hori, if_neg hfill, if_neg hdest]
    exact Nat.zero_le _

/-- **Overlapping calls lose nothing** while none writes over a version it has not
    seen. The stored saga is the last one written. -/
theorem overlapping_calls_lose_nothing (keccak256 : List UInt8 → B256) (cctp : Bool)
    (order_id : CrossChainOrderId) (sagas : SqliteSagaStore) (hnew : sagas.load order_id = none)
    (actions : List (Action ProxyCall ProxyReads Unit CrossChainSaga))
    (hcurrent : Run.Along (ProxyWorld.tracked keccak256 cctp order_id).next
      (Protocol.Meets (Current order_id)) (Machine.initial (ProxyWorld.before sagas)) actions) :
    let w := (Run.run (ProxyWorld.machine keccak256 cctp order_id).next
      (Machine.initial (ProxyWorld.before sagas)) actions).shared
    w.sagas.load order_id = (writes w.history).getLast? ∧
      (writes w.history).Pairwise LosesNothing := by
  have hmeets : Run.Along (ProxyWorld.tracked keccak256 cctp order_id).next
      (Protocol.Meets (OnOccasion always order_id))
      (Machine.initial (ProxyWorld.before sagas)) actions :=
    Run.along_of_invariant (P := fun _ => True) (fun _ _ _ _ => trivial)
      (fun w a _ => Protocol.meets_mono (fun _ _ _ _ => Current.on_occasion) w a) trivial
      hcurrent
  have hlinked := overlap_run keccak256 cctp hnew hmeets
  refine ⟨hlinked.row, ?_⟩
  refine hlinked.later.imp_of_mem ?_
  intro saga later hsaga hlater hkept
  refine ⟨hkept.keeps_evidence, ?_, ?_⟩
  · have hrung := (hlinked.evidenced later hlater).1.reached_le_rung
    have hreached := reached_le hkept.keeps_evidence
    exact Nat.not_lt.mpr (hreached.trans hrung)
  · intro hended
    rw [hkept.ended hended]

instance (order_id : CrossChainOrderId) (reads : ProxyReads) (q : ProxyQuery) (t : Turn)
    (w : ProxyWorld) : Decidable (Current order_id reads q t w) :=
  inferInstanceAs (Decidable (_ → ∀ saga ∈ _, _ = some saga))

namespace ProxyWorld

open CrossChainWorld LocalCrossChainService

/-- Two advances of a prepared order. The delivery is pending for the second, then
    final for the first, and the second writes last. -/
def stale_actions : List ProxyAction :=
  sample_started ++ [.start (.advance 20), .start (.advance 20)] ++
    List.replicate 4 (.access 2 (sample_answers .Pending)) ++
    List.replicate 5 (.access 1 (sample_answers (sample_finality 1))) ++
    [.access 2 (sample_answers .Pending)]

theorem stale_write_loses_evidence :
    ¬ (writes (sample_proxy_run stale_actions).history).Pairwise LosesNothing := by
  decide +kernel

/-- The same two advances, one answered after the other has written. -/
def overlapping_actions : List ProxyAction :=
  sample_started ++ [.start (.advance 20), .start (.advance 20)] ++
    List.replicate 5 (.access 2 (sample_answers .Pending)) ++
    List.replicate 5 (.access 1 (sample_answers (sample_finality 1)))

set_option maxRecDepth 8000 in
theorem overlapping_current :
    Run.Along (tracked sample_hash false sample_order).next
      (Protocol.Meets (Current sample_order)) (Machine.initial (before ∅))
      overlapping_actions := by
  decide +kernel

theorem overlapping_advances_keep_evidence :
    (writes (sample_proxy_run overlapping_actions).history).Pairwise LosesNothing := by
  unfold sample_proxy_run
  exact (overlapping_calls_lose_nothing sample_hash false sample_order ∅ (by decide)
    overlapping_actions overlapping_current).2

end ProxyWorld

/-! ## The declared state machine -/

/-- Occasions on which the next state is a declared one. A command is final only
    when the saga is already in the command's pending state, and a saga that needs
    reconciling does not resume in `DestinationFinalized` or `OriginFinalized`. -/
def Declared : Occasion := fun saga heard =>
  match heard with
  | some (c, .Finalized _) => saga.state = c.pending
  | some _ => True
  | none => saga.state = .NeedsReconcile →
      Proxy.reconciled saga ≠ some .DestinationFinalized ∧
        Proxy.reconciled saga ≠ some .OriginFinalized

instance (saga : CrossChainSaga) (heard : Option (RemoteCommand × RemoteProgress)) :
    Decidable (Declared saga heard) :=
  match heard with
  | some (c, .Finalized _) => inferInstanceAs (Decidable (saga.state = c.pending))
  | some (_, .Pending) | some (_, .Failed _) => isTrue trivial
  | none => inferInstanceAs (Decidable (_ → _ ∧ _))

instance (reads : ProxyReads) (q : ProxyQuery) (t : Turn) (w : ProxyWorld) :
    Decidable (Answered Declared reads q t w) :=
  inferInstanceAs (Decidable (∀ saga ∈ t.version,
    (q.updates → t.heard = none → Declared saga none) ∧
      ∀ heard ∈ reads.hears q, Declared saga (some heard)))

/-- A write on a declared occasion makes a declared transition. -/
theorem permits_of_declared {saga saga' : CrossChainSaga}
    {heard : Option (RemoteCommand × RemoteProgress)} (hwrite : Write saga heard saga')
    (hdeclared : Declared saga heard) : saga.state.permits saga'.state := by
  cases hwrite with
  | begin_preparing hstate =>
    rw [hstate]
    rfl
  | token role token hstate hnew =>
    cases role <;> simp [Proxy.set_prepared, SagaState.permits]
  | prepare hstate horigin hdestination =>
    rw [hstate]
    rfl
  | compensating failure hreleasing => simp [SagaState.permits]
  | compensate failure hreleasing =>
    rcases hreleasing with ⟨hstate, _⟩ | ⟨⟨hin, _⟩, _⟩
    · rw [hstate]
      rfl
    · simp only [RemoteCommand.sent_in, List.mem_cons, List.not_mem_nil, or_false] at hin
      rcases hin with hstate | hstate <;> rw [hstate] <;> rfl
  | pend c hdue =>
    have hin := hdue.1
    cases c <;>
      simp only [RemoteCommand.sent_in, List.mem_cons, List.not_mem_nil, or_false] at hin
    case Deliver => rcases hin with hstate | hstate <;> rw [hstate] <;> rfl
    case DispatchFillProof => rcases hin with hstate | hstate <;> rw [hstate] <;> rfl
    all_goals
      rw [hin]
      rfl
  | finalize c evidence lifecycle hdue =>
    -- The pending state of the command was stored before.
    have hpending : saga.state = c.pending := hdeclared
    show saga.state.permits c.finalized
    rw [hpending]
    cases c <;> rfl
  | refuse c reason hdue hlate =>
    have hin := hdue.1
    cases c <;>
      simp only [RemoteCommand.sent_in, List.mem_cons, List.not_mem_nil, or_false] at hin
    case Deliver => exact absurd rfl hlate
    case DispatchFillProof => rcases hin with hstate | hstate <;> rw [hstate] <;> rfl
    all_goals
      rw [hin]
      rfl
  | complete evidence lifecycle hdue =>
    rw [hdue.1]
    rfl
  | invalid failure hdue =>
    rw [hdue.1]
    rfl
  | resume hstate hevidence =>
    obtain ⟨hdestination, horigin⟩ := hdeclared hstate
    rename_i state
    show saga.state.permits state
    rw [hstate]
    rw [hevidence] at hdestination horigin
    unfold Proxy.reconciled at hevidence
    split_ifs at hevidence <;> obtain rfl := Option.some.inj hevidence
    · rfl
    · exact absurd rfl horigin
    · rfl
    · exact absurd rfl hdestination

/-- **Stored sagas follow the declared state machine** in every run with writes on
    declared occasions, of calls one after another or of overlapping calls that are
    current. -/
theorem stored_states_are_permitted (keccak256 : List UInt8 → B256) (cctp : Bool)
    (order_id : CrossChainOrderId) (sagas : SqliteSagaStore) (hnew : sagas.load order_id = none)
    (actions : List (Action ProxyCall ProxyReads Unit CrossChainSaga))
    (hturns : Run.Along (ProxyWorld.tracked keccak256 cctp order_id).next StartsIdle
        (Machine.initial (ProxyWorld.before sagas)) actions ∨
      Run.Along (ProxyWorld.tracked keccak256 cctp order_id).next
        (Protocol.Meets (Current order_id)) (Machine.initial (ProxyWorld.before sagas)) actions)
    (hdeclared : Run.Along (ProxyWorld.tracked keccak256 cctp order_id).next
      (Protocol.Meets (Answered Declared)) (Machine.initial (ProxyWorld.before sagas)) actions) :
    let w := (Run.run (ProxyWorld.machine keccak256 cctp order_id).next
      (Machine.initial (ProxyWorld.before sagas)) actions).shared
    (writes w.history).IsChain fun saga next => saga.state.permits next.state := by
  have hcurrent : Run.Along (ProxyWorld.tracked keccak256 cctp order_id).next
      (Protocol.Meets (Current order_id)) (Machine.initial (ProxyWorld.before sagas)) actions := by
    rcases hturns with hidle | hcurrent
    · exact one_by_one_current keccak256 cctp hnew hidle
    · exact hcurrent
  have hmeets : Run.Along (ProxyWorld.tracked keccak256 cctp order_id).next
      (Protocol.Meets (OnOccasion Declared order_id))
      (Machine.initial (ProxyWorld.before sagas)) actions :=
    Run.along_of_invariant (P := fun _ => True) (fun _ _ _ _ => trivial)
      (fun w a _ h => Protocol.meets_and w a h.1 h.2) trivial
      (Run.along_and hcurrent hdeclared)
  have hlinked := overlap_run keccak256 cctp hnew hmeets
  refine hlinked.chain.imp ?_
  intro saga next hfollows
  rcases hfollows with rfl | ⟨heard, hwrite, hoccasion⟩
  · simp [SagaState.permits]
  · exact permits_of_declared hwrite hoccasion

namespace ProxyWorld

open CrossChainWorld LocalCrossChainService

/-- The delivery of a prepared order is final at once. -/
def undeclared_actions : List ProxyAction :=
  sample_started ++ sample_advanced 1 5 (sample_finality 1)

theorem prepared_order_skips_pending :
    ¬ (writes (sample_proxy_run undeclared_actions).history).IsChain
      fun saga next => saga.state.permits next.state := by
  decide +kernel

/-- Each command is pending before it is final. -/
def declared_actions : List ProxyAction :=
  sample_started ++ sample_advanced 1 5 .Pending ++ sample_advanced 2 5 (sample_finality 1) ++
    sample_advanced 3 3 .Pending ++ sample_advanced 4 3 (sample_finality 2)

set_option maxRecDepth 8000 in
/-- The run is evaluated once. -/
theorem declared_run :
    (Run.Along (tracked sample_hash false sample_order).next
      (Protocol.Meets (Answered Declared)) (Machine.initial (before ∅)) declared_actions) ∧
    (Run.Along (tracked sample_hash false sample_order).next StartsIdle
      (Machine.initial (before ∅)) declared_actions) := by
  decide +kernel

theorem declared_answered :
    Run.Along (tracked sample_hash false sample_order).next
      (Protocol.Meets (Answered Declared)) (Machine.initial (before ∅)) declared_actions :=
  declared_run.1

theorem declared_in_turn :
    Run.Along (tracked sample_hash false sample_order).next StartsIdle
      (Machine.initial (before ∅)) declared_actions :=
  declared_run.2

theorem pending_commands_are_permitted :
    (writes (sample_proxy_run declared_actions).history).IsChain
      fun saga next => saga.state.permits next.state := by
  unfold sample_proxy_run
  exact stored_states_are_permitted sample_hash false sample_order ∅ (by decide)
    declared_actions (.inl declared_in_turn) declared_answered

end ProxyWorld

end Solvent
