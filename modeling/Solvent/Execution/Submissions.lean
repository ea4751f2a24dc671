import Mathlib
import Solvent.Framework.Interleave
import Solvent.Swap.Service

/-! # One transaction per intent

    Two paths submit to the executor: the fill of a swap, which simulates and
    then submits, and a cross-chain command, which reads the intent's status
    first and submits only where there is none. Submitting is a lookup, a send
    and a track, three calls with nothing tying them together. A reconcile pass
    forgets the intents it found terminal: it records the outcome and drops the
    row.

    An intent is sent twice when two submissions are between lookup and track
    together, when a submission dies between send and track, and when a lookup
    comes after the intent was forgotten: the lookup reads the in-flight table
    and not the recorded outcomes. Otherwise it is sent once.
-/

namespace Solvent

open BTreeMap Interleave

namespace WalletkitExecutor

inductive Request where
  /-- A swap's fill. -/
  | fill (intent : IntentId) (reservation : ReservationId)
  /-- A cross-chain command; its reservation id is its intent. -/
  | command (intent : IntentId)
  | reconcile

/-- Where a call stands: the port call it makes next. -/
inductive Call where
  | status (intent : IntentId)
  | simulate (intent : IntentId) (reservation : ReservationId)
  | lookup (intent : IntentId) (reservation : ReservationId)
  | send (intent : IntentId) (reservation : ReservationId)
  | track (intent : IntentId) (reservation : ReservationId) (handle : HandleId)
  /-- List the tracked fills. -/
  | list
  /-- Read the status of the next tracked fill; `settled` are the terminal ones. -/
  | read (intent : IntentId) (intents : List IntentId) (settled : List IntentId)
  | record (intent : IntentId) (settled : List IntentId)
  | untrack (intent : IntentId) (settled : List IntentId)

def entry : Request → Call
  | .fill intent reservation => .simulate intent reservation
  | .command intent => .status intent
  | .reconcile => .list

/-- The pass forgets the settled intents one after another. -/
def forget_next : List IntentId → Option Call
  | [] => none
  | intent :: settled => some (.record intent settled)

/-- The pass reads the tracked intents one after another, then forgets. -/
def read_next (settled : List IntentId) : List IntentId → Option Call
  | [] => forget_next settled
  | intent :: intents => some (.read intent intents settled)

/-- The engine answers with a final outcome. -/
def is_settled : Option ExecStatus → Bool
  | none | some .Pending => false
  | _ => true

/-- One port call; `verdict` is what the simulator answers. -/
def access (verdict : SimVerdict) (e : WalletkitExecutor) : Call → WalletkitExecutor × Option Call
  | .status intent =>
    match e.status intent with
    | some _ => (e, none)
    | none => (e, some (.simulate intent ⟨intent.hash⟩))
  | .simulate intent reservation =>
    match verdict with
    | .Ok => (e, some (.lookup intent reservation))
    | .Reject _ => (e, none)
  | .lookup intent reservation =>
    match e.handle intent with
    | some _ => (e, none)
    | none => (e, some (.send intent reservation))
  | .send intent reservation =>
    (e.send_with intent, some (.track intent reservation e.wallet.sent.length))
  | .track intent reservation handle => (e.track intent reservation handle, none)
  | .list => (e, read_next [] (e.fills.rows.map TrackedFill.intent))
  | .read intent intents settled =>
    (e, read_next (if is_settled (e.status intent) then settled ++ [intent] else settled) intents)
  | .record intent settled => (e.record_terminal intent, some (.untrack intent settled))
  | .untrack intent settled => (e.untrack intent, forget_next settled)

/-- What the transaction engine reports. -/
structure Report where
  handle : HandleId
  answer : Option ExecStatus

/-- The executor under concurrent calls. Its tables and the wallet are durable:
    a crash loses the calls only. -/
def machine : Machine WalletkitExecutor Request Call SimVerdict Unit Report where
  entry := entry
  access := access
  restart := fun _ e => e
  outside := fun event e => e.report event.handle event.answer

end WalletkitExecutor

abbrev ExecutorWorld : Type := World WalletkitExecutor WalletkitExecutor.Call

abbrev ExecutorAction : Type :=
  Action WalletkitExecutor.Request SimVerdict Unit WalletkitExecutor.Report

namespace WalletkitExecutor

/-! ## The condition -/

/-- The intent the call is about to look up. -/
def Call.looking : Call → Option IntentId
  | .lookup intent _ => some intent
  | _ => none

/-- The intent the call has looked up and not yet tracked. -/
def Call.sending : Call → Option IntentId
  | .send intent _ | .track intent _ _ => some intent
  | _ => none

/-- The intent the call has sent and not yet tracked. -/
def Call.unrecorded : Call → Option IntentId
  | .track intent _ _ => some intent
  | _ => none

/-- An untracked intent is looked up only while no outcome is recorded for it and
    no other submission of it is between lookup and track; and no submission
    stops between send and track. -/
def Serialized (w : ExecutorWorld) : ExecutorAction → Prop
  | .access i _ => ∀ c, w.At i c → ∀ intent ∈ c.looking, ¬ w.shared.Tracks intent →
      w.shared.terminal[intent]? = none ∧ ∀ j d, w.At j d → Call.sending d ≠ some intent
  | .stop i => ∀ c, w.At i c → c.unrecorded = none
  | .crash _ => ∀ i c, w.At i c → Call.unrecorded c = none
  | .start _ | .outside _ => True

instance (w : ExecutorWorld) (a : ExecutorAction) : Decidable (Serialized w a) := by
  cases a <;> unfold Serialized <;> infer_instance

/-! ## The invariant -/

/-- The intent is sent already. -/
def Sent (e : WalletkitExecutor) (intent : IntentId) : Prop := intent ∈ e.wallet.sent

/-- The outcome of the intent is recorded, or the engine has it. -/
def Settled (e : WalletkitExecutor) (intent : IntentId) : Prop :=
  (e.terminal[intent]?).isSome ∨
    ∃ h status, e.handle intent = some h ∧ e.wallet.status[h]? = some status ∧ status ≠ .Pending

/-- What a call in progress knows. -/
def CallSound (e : WalletkitExecutor) : Call → Prop
  | .send intent _ => ¬ e.Sent intent
  | .track _ _ handle => handle < e.wallet.sent.length
  | .read _ _ settled => ∀ intent ∈ settled, e.Settled intent
  | .record intent settled => e.Settled intent ∧ ∀ intent ∈ settled, e.Settled intent
  | .untrack intent settled =>
      (e.terminal[intent]?).isSome ∧ ∀ intent ∈ settled, e.Settled intent
  | .status _ | .simulate _ _ | .lookup _ _ | .list => True

structure Once (w : ExecutorWorld) : Prop where
  count : ∀ intent, w.shared.wallet.sent.count intent ≤ 1
  handles : ∀ intent h, w.shared.handle intent = some h → h < w.shared.wallet.sent.length
  /-- A sent intent is tracked, its outcome recorded, or about to be tracked. -/
  known : ∀ intent, w.shared.Sent intent → w.shared.Tracks intent ∨
    (w.shared.terminal[intent]?).isSome ∨ ∃ i c, w.At i c ∧ Call.unrecorded c = some intent
  calls : ∀ i c, w.At i c → CallSound w.shared c
  alone : ∀ i j c d intent, w.At i c → w.At j d → Call.sending c = some intent →
    Call.sending d = some intent → i = j

/-! ## What a port call keeps -/

/-- The executor after a port call that sent `new`, if anything: nothing sent,
    recorded or settled is lost, and a tracked row goes only with its outcome
    recorded. -/
structure Grows (new : Option IntentId) (e e' : WalletkitExecutor) : Prop where
  sent : e'.wallet.sent = e.wallet.sent ++ new.toList
  terminal : ∀ intent : IntentId, (e.terminal[intent]?).isSome → (e'.terminal[intent]?).isSome
  settled : ∀ intent, e.Settled intent → e'.Settled intent
  tracks : ∀ intent, e.Tracks intent → e'.Tracks intent ∨ (e'.terminal[intent]?).isSome

theorem Grows.refl (e : WalletkitExecutor) : Grows none e e where
  sent := by simp
  terminal := fun _ h => h
  settled := fun _ h => h
  tracks := fun _ h => .inl h

theorem grows_send {e : WalletkitExecutor} (intent : IntentId)
    (hhandles : ∀ k h, e.handle k = some h → h < e.wallet.sent.length) :
    Grows (some intent) e (e.send_with intent) where
  sent := rfl
  terminal := fun _ h => h
  settled := by
    intro k hk
    rcases hk with hterminal | ⟨h, status, hhandle, hstatus, hfinal⟩
    · exact .inl hterminal
    · -- The new handle is past every known one.
      refine .inr ⟨h, status, hhandle, ?_, hfinal⟩
      show (e.wallet.status.insert e.wallet.sent.length .Pending)[h]? = some status
      rw [get_insert_ne _ _ (Nat.ne_of_gt (hhandles k h hhandle))]
      exact hstatus
  tracks := fun _ h => .inl h

theorem grows_track (e : WalletkitExecutor) (intent : IntentId) (reservation : ReservationId)
    (handle : HandleId) : Grows none e (e.track intent reservation handle) where
  sent := by simp [track]
  terminal := fun _ h => h
  settled := by
    intro k hk
    rcases hk with hterminal | ⟨h, status, hhandle, hstatus, hfinal⟩
    · exact .inl hterminal
    · refine .inr ⟨h, status, ?_, hstatus, hfinal⟩
      rw [handle_track, if_neg]
      · exact hhandle
      · intro hnew
        apply hnew.2
        rw [hnew.1]
        unfold Tracks
        rw [hhandle]
        rfl
  tracks := by
    intro k hk
    left
    unfold Tracks at hk ⊢
    rw [handle_track]
    split
    · rfl
    · exact hk

theorem terminal_record (e : WalletkitExecutor) (intent k : IntentId) :
    (e.terminal[k]?).isSome → ((e.record_terminal intent).terminal[k]?).isSome := by
  intro h
  unfold record_terminal
  split
  · exact h
  · exact h
  · rw [get_insert]
    split
    · rfl
    · exact h

/-- A settled intent has its outcome recorded afterwards. -/
theorem terminal_of_record {e : WalletkitExecutor} {intent : IntentId} (h : e.Settled intent) :
    ((e.record_terminal intent).terminal[intent]?).isSome := by
  rcases h with hterminal | ⟨h, status, hhandle, hstatus, hfinal⟩
  · exact terminal_record e intent intent hterminal
  · unfold record_terminal
    rw [hhandle]
    simp only [Option.bind_some, hstatus]
    cases status with
    | Pending => exact absurd rfl hfinal
    | Confirmed block tx => simp
    | Failed reason => simp
    | Dropped => simp

theorem grows_record (e : WalletkitExecutor) (intent : IntentId) :
    Grows none e (e.record_terminal intent) := by
  obtain ⟨terminal, heq⟩ := record_terminal_eq e intent
  refine ⟨by rw [heq]; simp, fun k => terminal_record e intent k, ?_, ?_⟩
  · intro k hk
    rcases hk with hterminal | hengine
    · exact .inl (terminal_record e intent k hterminal)
    · rw [heq]
      exact .inr hengine
  · intro k hk
    rw [heq]
    exact .inl hk

theorem grows_untrack {e : WalletkitExecutor} {intent : IntentId}
    (hterminal : (e.terminal[intent]?).isSome) : Grows none e (e.untrack intent) where
  sent := by simp [untrack]
  terminal := fun _ h => h
  settled := by
    intro k hk
    rcases hk with hrecorded | ⟨h, status, hhandle, hstatus, hfinal⟩
    · exact .inl hrecorded
    · by_cases hkey : intent = k
      · subst hkey
        exact .inl hterminal
      · refine .inr ⟨h, status, ?_, hstatus, hfinal⟩
        rw [handle_untrack, if_neg hkey]
        exact hhandle
  tracks := by
    intro k hk
    by_cases hkey : intent = k
    · subst hkey
      exact .inr hterminal
    · left
      unfold Tracks at hk ⊢
      rw [handle_untrack, if_neg hkey]
      exact hk

theorem grows_report (e : WalletkitExecutor) (handle : HandleId) (answer : Option ExecStatus) :
    Grows none e (e.report handle answer) := by
  have hsent : (e.wallet.report handle answer).sent = e.wallet.sent := by
    unfold Wallet.report
    split <;> rfl
  refine ⟨by show (e.wallet.report handle answer).sent = _; simp [hsent], fun _ h => h, ?_,
    fun _ h => .inl h⟩
  intro k hk
  rcases hk with hrecorded | ⟨h, status, hhandle, hstatus, hfinal⟩
  · exact .inl hrecorded
  · -- Only a pending handle is reported on, and this one is final.
    refine .inr ⟨h, status, hhandle, ?_, hfinal⟩
    show (e.wallet.report handle answer).status[h]? = some status
    unfold Wallet.report
    split
    · rename_i hpending
      have hne : handle ≠ h := by
        intro heq
        rw [heq, hstatus] at hpending
        exact hfinal (Option.some.inj hpending)
      cases answer with
      | some reported =>
        show (e.wallet.status.insert handle reported)[h]? = some status
        rw [get_insert_ne _ _ hne]
        exact hstatus
      | none =>
        show (e.wallet.status.erase handle)[h]? = some status
        rw [get_erase, if_neg hne]
        exact hstatus
    · exact hstatus

/-! ## One step -/

section Step

variable {w w' : ExecutorWorld} {i : ℕ} {c : Call} {next : Option Call} {new : Option IntentId}

theorem callSound_of_grows {e e' : WalletkitExecutor} (h : Grows new e e') {d : Call}
    (hd : CallSound e d) (hsending : ∀ intent, d.sending = some intent → new ≠ some intent) :
    CallSound e' d := by
  match d with
  | .status _ | .simulate _ _ | .lookup _ _ | .list => trivial
  | .send intent reservation =>
    show intent ∉ e'.wallet.sent
    rw [h.sent, List.mem_append]
    intro hmem
    rcases hmem with hold | hnew
    · exact hd hold
    · exact hsending intent rfl (by simpa using hnew)
  | .track intent reservation handle =>
    show handle < e'.wallet.sent.length
    rw [h.sent, List.length_append]
    exact Nat.lt_of_lt_of_le hd (Nat.le_add_right _ _)
  | .read _ _ settled => exact fun k hk => h.settled k (hd k hk)
  | .record intent settled => exact ⟨h.settled intent hd.1, fun k hk => h.settled k (hd.2 k hk)⟩
  | .untrack intent settled =>
    exact ⟨h.terminal intent hd.1, fun k hk => h.settled k (hd.2 k hk)⟩

/-- **Access rule.** What is left to show for a port call: how the executor
    grows, what the next call knows, and who stands between lookup and track. -/
theorem once_of_access (h : Once w) (hmoved : Machine.Moved w w' i next) (hat : w.At i c)
    (hgrows : Grows new w.shared w'.shared)
    (hnew : ∀ intent, new = some intent →
      c.sending = some intent ∧ ¬ w.shared.Sent intent ∧
        ∃ d, next = some d ∧ Call.unrecorded d = some intent)
    (hhandles : ∀ intent k, w'.shared.handle intent = some k → k < w'.shared.wallet.sent.length)
    (htracked : ∀ intent, c.unrecorded = some intent → w'.shared.Tracks intent)
    (hnext : ∀ d, next = some d → CallSound w'.shared d)
    (hsending : ∀ d intent, next = some d → Call.sending d = some intent →
      c.sending = some intent ∨ ∀ j b, w.At j b → Call.sending b ≠ some intent) : Once w' where
  count := by
    intro intent
    rw [hgrows.sent, List.count_append]
    match hn : new with
    | none => simpa using h.count intent
    | some k =>
      by_cases hk : k = intent
      · subst hk
        have hzero : w.shared.wallet.sent.count k = 0 := List.count_eq_zero.mpr (hnew k rfl).2.1
        rw [hzero]
        simp
      · have hother : [k].count intent = 0 := List.count_eq_zero.mpr (by simpa using Ne.symm hk)
        show w.shared.wallet.sent.count intent + [k].count intent ≤ 1
        rw [hother]
        exact h.count intent
  handles := hhandles
  known := by
    intro intent hsent
    unfold Sent at hsent
    rw [hgrows.sent, List.mem_append] at hsent
    rcases hsent with hold | hmine
    · rcases h.known intent hold with htracks | hterminal | ⟨j, d, hd, hunrecorded⟩
      · rcases hgrows.tracks intent htracks with hkept | hrecorded
        · exact .inl hkept
        · exact .inr (.inl hrecorded)
      · exact .inr (.inl (hgrows.terminal intent hterminal))
      · by_cases hj : j = i
        · subst hj
          rw [World.at_unique hd hat] at hunrecorded
          exact .inl (htracked intent hunrecorded)
        · exact .inr (.inr ⟨j, d, (hmoved.others j d hj).mpr hd, hunrecorded⟩)
    · obtain ⟨_, _, d, hd, hunrecorded⟩ := hnew intent (by simpa using hmine)
      exact .inr (.inr ⟨i, d, (hmoved.moved d).mpr hd, hunrecorded⟩)
  calls := by
    intro j d hd
    by_cases hj : j = i
    · subst hj
      exact hnext d ((hmoved.moved d).mp hd)
    · have hold := (hmoved.others j d hj).mp hd
      apply callSound_of_grows hgrows (h.calls j d hold)
      intro intent hdsending hn
      -- The sender is alone with its intent.
      exact hj (h.alone j i d c intent hold hat hdsending (hnew intent hn).1)
  alone := by
    -- Two calls between lookup and track: both old, or the one that moved and an old one.
    have hmine : ∀ j d b intent, j ≠ i → w'.At i d → w'.At j b → Call.sending d = some intent →
        Call.sending b ≠ some intent := by
      intro j d b intent hj hd hb hdsending hbsending
      have hold := (hmoved.others j b hj).mp hb
      rcases hsending d intent ((hmoved.moved d).mp hd) hdsending with hc | hnone
      · exact hj (h.alone j i b c intent hold hat hbsending hc)
      · exact hnone j b hold hbsending
    intro j k d b intent hd hb hdsending hbsending
    by_cases hj : j = i
    · by_cases hk : k = i
      · rw [hj, hk]
      · subst hj
        exact absurd hbsending (hmine k d b intent hk hd hb hdsending)
    · by_cases hk : k = i
      · subst hk
        exact absurd hdsending (hmine j b d intent hj hb hd hbsending)
      · exact h.alone j k d b intent ((hmoved.others j d hj).mp hd)
          ((hmoved.others k b hk).mp hb) hdsending hbsending

/-- A port call that sends and tracks nothing. -/
theorem once_of_quiet (h : Once w) (hmoved : Machine.Moved w w' i next) (hat : w.At i c)
    (hgrows : Grows none w.shared w'.shared) (hunrecorded : c.unrecorded = none)
    (hhandles : ∀ intent k, w'.shared.handle intent = some k → w.shared.handle intent = some k)
    (hnext : ∀ d, next = some d → CallSound w'.shared d)
    (hsending : ∀ d intent, next = some d → Call.sending d = some intent →
      ∀ j b, w.At j b → Call.sending b ≠ some intent) : Once w' := by
  apply once_of_access h hmoved hat hgrows (by simp) _ _ hnext
  · intro d intent hd hdsending
    exact .inr (hsending d intent hd hdsending)
  · intro intent k hk
    rw [hgrows.sent]
    simpa using h.handles intent k (hhandles intent k hk)
  · intro intent hc
    rw [hunrecorded] at hc
    cases hc

/-- A call of a reconcile pass is in none of the windows. -/
theorem sending_forget_next (settled : List IntentId) (d : Call)
    (hd : forget_next settled = some d) : d.sending = none := by
  match settled with
  | [] => cases hd
  | _ :: _ =>
    obtain rfl := Option.some.inj hd
    rfl

theorem sending_read_next (settled intents : List IntentId) (d : Call)
    (hd : read_next settled intents = some d) : d.sending = none := by
  match intents with
  | [] => exact sending_forget_next settled d hd
  | _ :: _ =>
    obtain rfl := Option.some.inj hd
    rfl

theorem callSound_forget_next {e : WalletkitExecutor} {settled : List IntentId}
    (h : ∀ intent ∈ settled, e.Settled intent) (d : Call) (hd : forget_next settled = some d) :
    CallSound e d := by
  match settled with
  | [] => cases hd
  | intent :: settled =>
    obtain rfl := Option.some.inj hd
    exact ⟨h intent (by simp), fun k hk => h k (by simp [hk])⟩

theorem callSound_read_next {e : WalletkitExecutor} {settled intents : List IntentId}
    (h : ∀ intent ∈ settled, e.Settled intent) (d : Call)
    (hd : read_next settled intents = some d) : CallSound e d := by
  match intents with
  | [] => exact callSound_forget_next h d hd
  | _ :: _ =>
    obtain rfl := Option.some.inj hd
    exact h

/-- What a final answer of `status` rests on. -/
theorem settled_of_status {e : WalletkitExecutor} {intent : IntentId}
    (h : is_settled (e.status intent) = true) : e.Settled intent := by
  unfold status at h
  split at h
  · left
    cases hterminal : e.terminal[intent]? with
    | none => simp [hterminal, is_settled] at h
    | some status => rfl
  · rename_i handle hhandle
    split at h
    · rename_i status hstatus
      right
      refine ⟨handle, status, hhandle, hstatus, ?_⟩
      intro hpending
      rw [hpending] at h
      cases h
    · left
      cases hterminal : e.terminal[intent]? with
      | none => simp [hterminal, is_settled] at h
      | some status => rfl

/-- **Access lemma.** -/
theorem once_access {verdict : SimVerdict} (h : Once w) (hcond : Serialized w (.access i verdict))
    (hat : w.At i c) (hshared : w'.shared = (access verdict w.shared c).1)
    (hmoved : Machine.Moved w w' i (access verdict w.shared c).2) : Once w' := by
  have hcall := h.calls i c hat
  -- Reads outside the windows: nothing is written and nobody enters one.
  have hread : ∀ next', c.unrecorded = none → w'.shared = w.shared →
      Machine.Moved w w' i next' → (∀ d, next' = some d → CallSound w.shared d) →
      (∀ d, next' = some d → Call.sending d = none) → Once w' := by
    intro next' hunrecorded hsame hmoved' hnext hnone
    apply once_of_quiet h hmoved' hat (by rw [hsame]; exact Grows.refl _) hunrecorded
    · rw [hsame]
      exact fun _ _ hk => hk
    · rw [hsame]
      exact hnext
    · intro d intent hd hsending
      rw [hnone d hd] at hsending
      cases hsending
  match c with
  | .status intent =>
    simp only [access] at hshared hmoved
    split at hshared <;> rename_i hstatus <;> simp only [hstatus] at hmoved
    · exact hread _ rfl hshared hmoved (by simp) (by simp)
    · exact hread _ rfl hshared hmoved (by simp [CallSound]) (by simp [Call.sending])
  | .simulate intent reservation =>
    simp only [access] at hshared hmoved
    match verdict with
    | .Ok => exact hread _ rfl hshared hmoved (by simp [CallSound]) (by simp [Call.sending])
    | .Reject _ => exact hread _ rfl hshared hmoved (by simp) (by simp)
  | .lookup intent reservation =>
    simp only [access] at hshared hmoved
    split at hshared <;> rename_i hhandle <;> simp only [hhandle] at hmoved
    · exact hread _ rfl hshared hmoved (by simp) (by simp)
    · have huntracked : ¬ w.shared.Tracks intent := by
        unfold Tracks
        rw [hhandle]
        simp
      obtain ⟨hterminal, hothers⟩ := hcond _ hat intent rfl huntracked
      apply once_of_quiet h hmoved hat (by rw [hshared]; exact Grows.refl _) rfl
      · rw [hshared]
        exact fun _ _ hk => hk
      · intro d hd
        rw [← Option.some.inj hd, hshared]
        -- Were it sent, it would be tracked, recorded, or on its way to be tracked.
        intro hsent
        rcases h.known intent hsent with htracks | hrecorded | ⟨j, d', hd', hunrecorded⟩
        · exact huntracked htracks
        · rw [hterminal] at hrecorded
          cases hrecorded
        · apply hothers j d' hd'
          match d' with
          | .track _ _ _ => exact hunrecorded
      · intro d k hd hsending
        rw [← Option.some.inj hd] at hsending
        obtain rfl := Option.some.inj hsending
        exact hothers
  | .send intent reservation =>
    have hgrows : Grows (some intent) w.shared w'.shared := by
      rw [hshared]
      exact grows_send intent h.handles
    apply once_of_access h hmoved hat hgrows
    · intro k hk
      obtain rfl := Option.some.inj hk
      exact ⟨rfl, hcall, _, rfl, rfl⟩
    · intro k handle hk
      rw [hgrows.sent, List.length_append]
      rw [hshared] at hk
      exact Nat.lt_of_lt_of_le (h.handles k handle hk) (Nat.le_add_right _ _)
    · intro k hk
      cases hk
    · intro d hd
      rw [← Option.some.inj hd]
      show w.shared.wallet.sent.length < w'.shared.wallet.sent.length
      rw [hgrows.sent]
      simp
    · intro d k hd hsending
      rw [← Option.some.inj hd] at hsending
      exact .inl hsending
  | .track intent reservation handle =>
    have hgrows : Grows none w.shared w'.shared := by
      rw [hshared]
      exact grows_track w.shared intent reservation handle
    apply once_of_access h hmoved hat hgrows (by simp) _ _ (by simp [access]) (by simp [access])
    · intro k h' hk
      rw [hgrows.sent]
      simp only [Option.toList_none, List.append_nil]
      rw [hshared] at hk
      simp only [access, handle_track] at hk
      split at hk
      · obtain rfl := Option.some.inj hk
        exact hcall
      · exact h.handles k h' hk
    · intro k hk
      obtain rfl := Option.some.inj hk
      rw [hshared]
      unfold Tracks
      simp only [access, handle_track]
      by_cases htracks : w.shared.Tracks intent
      · simp only [htracks, not_true_eq_false, and_false, if_false]
        exact htracks
      · simp [htracks]
  | .list =>
    exact hread _ rfl hshared hmoved (callSound_read_next (by simp)) (sending_read_next _ _)
  | .read intent intents settled =>
    apply hread _ rfl hshared hmoved _ (sending_read_next _ _)
    apply callSound_read_next
    intro k hk
    split at hk
    · rename_i hsettled
      rw [List.mem_append, List.mem_singleton] at hk
      rcases hk with hold | rfl
      · exact hcall k hold
      · exact settled_of_status hsettled
    · exact hcall k hk
  | .record intent settled =>
    have hgrows := grows_record w.shared intent
    apply once_of_quiet h hmoved hat (by rw [hshared]; exact hgrows) rfl
    · intro k handle hk
      rw [hshared] at hk
      obtain ⟨terminal, heq⟩ := record_terminal_eq w.shared intent
      simp only [access, heq] at hk
      exact hk
    · intro d hd
      rw [← Option.some.inj hd, hshared]
      exact ⟨terminal_of_record hcall.1, fun k hk => hgrows.settled k (hcall.2 k hk)⟩
    · intro d k hd hsending
      rw [← Option.some.inj hd] at hsending
      cases hsending
  | .untrack intent settled =>
    have hgrows := grows_untrack hcall.1
    apply once_of_quiet h hmoved hat (by rw [hshared]; exact hgrows) rfl
    · intro k handle hk
      rw [hshared] at hk
      simp only [access, handle_untrack] at hk
      split at hk
      · cases hk
      · exact hk
    · rw [hshared]
      exact callSound_forget_next fun k hk => hgrows.settled k (hcall.2 k hk)
    · intro d k hd hsending
      rw [sending_forget_next settled d hd] at hsending
      cases hsending

theorem once_start (h : Once w) (request : Request) :
    Once { w with calls := w.calls ++ [some (entry request)] } := by
  have hentry : CallSound w.shared (entry request) ∧ (entry request).sending = none := by
    match request with
    | .fill _ _ => exact ⟨trivial, rfl⟩
    | .command _ => exact ⟨trivial, rfl⟩
    | .reconcile => exact ⟨trivial, rfl⟩
  -- A call in a window is an old one.
  have hold : ∀ j d intent, (World.mk w.shared (w.calls ++ [some (entry request)])).At j d →
      Call.sending d = some intent → w.At j d := by
    intro j d intent hd hsending
    rcases World.at_append.mp hd with hd | ⟨_, rfl⟩
    · exact hd
    · rw [hentry.2] at hsending
      cases hsending
  refine { count := h.count, handles := h.handles, known := ?_, calls := ?_, alone := ?_ }
  · intro intent hsent
    rcases h.known intent hsent with htracks | hterminal | ⟨j, d, hd, hunrecorded⟩
    · exact .inl htracks
    · exact .inr (.inl hterminal)
    · exact .inr (.inr ⟨j, d, World.at_append.mpr (.inl hd), hunrecorded⟩)
  · intro j d hd
    rcases World.at_append.mp hd with hd | ⟨_, rfl⟩
    · exact h.calls j d hd
    · exact hentry.1
  · intro j k d b intent hd hb hdsending hbsending
    exact h.alone j k d b intent (hold j d intent hd hdsending) (hold k b intent hb hbsending)
      hdsending hbsending

theorem once_stop (h : Once w) (hcond : Serialized w (.stop i)) (hat : w.At i c)
    (hshared : w'.shared = w.shared) (hmoved : Machine.Moved w w' i none) : Once w' := by
  apply once_of_quiet h hmoved hat (by rw [hshared]; exact Grows.refl _) (hcond c hat)
  · rw [hshared]
    exact fun _ _ hk => hk
  · simp
  · simp

theorem once_crash (h : Once w) (hcond : Serialized w (.crash ())) :
    Once { shared := w.shared, calls := [] } where
  count := h.count
  handles := h.handles
  known := by
    intro intent hsent
    rcases h.known intent hsent with htracks | hterminal | ⟨j, d, hd, hunrecorded⟩
    · exact .inl htracks
    · exact .inr (.inl hterminal)
    · rw [hcond j d hd] at hunrecorded
      cases hunrecorded
  calls := fun _ _ hd => absurd hd World.not_at_nil
  alone := fun _ _ _ _ _ hd => absurd hd World.not_at_nil

theorem once_report (h : Once w) (handle : HandleId) (answer : Option ExecStatus) :
    Once { w with shared := w.shared.report handle answer } := by
  have hgrows := grows_report w.shared handle answer
  have hsent : (w.shared.report handle answer).wallet.sent = w.shared.wallet.sent := by
    simpa using hgrows.sent
  refine { count := ?_, handles := ?_, known := ?_, calls := ?_, alone := h.alone }
  · intro intent
    show (w.shared.report handle answer).wallet.sent.count intent ≤ 1
    rw [hsent]
    exact h.count intent
  · intro intent k hk
    show k < (w.shared.report handle answer).wallet.sent.length
    rw [hsent]
    exact h.handles intent k hk
  · intro intent hmem
    have hmem' : w.shared.Sent intent := by
      unfold Sent at hmem ⊢
      rw [← hsent]
      exact hmem
    exact h.known intent hmem'
  · intro j d hd
    exact callSound_of_grows hgrows (h.calls j d hd) (by simp)

/-- **Step lemma.** -/
theorem once_next (w : ExecutorWorld) (a : ExecutorAction) (h : Once w) (hcond : Serialized w a) :
    Once (machine.next w a) := by
  apply Machine.keeps machine (P := Once) (Q := Serialized) _ _ _ _ _ w a h hcond
  · intro w request h _
    exact once_start h request
  · intro w w' i verdict c h hcond hat hshared hmoved
    exact once_access h hcond hat hshared hmoved
  · intro w w' i c h hcond hat hshared hmoved
    exact once_stop h hcond hat hshared hmoved
  · intro w _ h hcond
    exact once_crash h hcond
  · intro w event h _
    exact once_report h event.handle event.answer

end Step

theorem once_initial : Once (Machine.initial empty) where
  count := fun intent => Nat.zero_le 1
  handles := by
    intro intent h hh
    simp [Machine.initial, empty, handle] at hh
  known := by
    intro intent hsent
    simp [Machine.initial, empty, Sent, Wallet.empty] at hsent
  calls := fun _ _ hd => absurd hd World.not_at_nil
  alone := fun _ _ _ _ _ hd => absurd hd World.not_at_nil

/-- **One transaction per intent.** In every run of fills, commands and reconcile
    passes whose submissions of an intent take their turns, every intent is sent
    at most once. -/
theorem one_transaction_per_intent (actions : List ExecutorAction)
    (h : Run.Along machine.next Serialized (Machine.initial empty) actions) (intent : IntentId) :
    (Run.run machine.next (Machine.initial empty) actions).shared.wallet.sent.count intent ≤ 1 := by
  have hinv : Once (Run.run machine.next (Machine.initial empty) actions) :=
    Run.invariant once_next once_initial h
  exact hinv.count intent

/-! ## Sample runs -/

/-- The transactions sent by a run. -/
def sample_sent (actions : List ExecutorAction) : List IntentId :=
  (Run.run machine.next (Machine.initial empty) actions).shared.wallet.sent

/-- A command is sent and confirmed, a reconcile pass forgets it, and the command
    is repeated. -/
def repeated_actions : List ExecutorAction :=
  [.start (.command ⟨5⟩)] ++ List.replicate 5 (.access 0 .Ok) ++
    [.outside ⟨0, some (.Confirmed 7 1)⟩, .start .reconcile] ++
    List.replicate 4 (.access 1 .Ok) ++
    [.start (.command ⟨5⟩)] ++ List.replicate 5 (.access 2 .Ok)

/-- Two fills of one intent look it up before either tracks. -/
def overlapping_actions : List ExecutorAction :=
  [.start (.fill ⟨5⟩ ⟨1⟩), .start (.fill ⟨5⟩ ⟨1⟩), .access 0 .Ok, .access 1 .Ok, .access 0 .Ok,
    .access 1 .Ok, .access 0 .Ok, .access 1 .Ok]

/-- A command dies between send and track, and is repeated. -/
def interrupted_actions : List ExecutorAction :=
  [.start (.command ⟨5⟩)] ++ List.replicate 4 (.access 0 .Ok) ++
    [.crash (), .start (.command ⟨5⟩)] ++ List.replicate 4 (.access 0 .Ok)

/-- A fill comes after its intent was forgotten. -/
def forgotten_actions : List ExecutorAction :=
  [.start (.command ⟨5⟩)] ++ List.replicate 5 (.access 0 .Ok) ++
    [.outside ⟨0, some (.Confirmed 7 1)⟩, .start .reconcile] ++
    List.replicate 4 (.access 1 .Ok) ++
    [.start (.fill ⟨5⟩ ⟨5⟩)] ++ List.replicate 3 (.access 2 .Ok)

theorem one_transaction_per_intent_repeated :
    sample_sent repeated_actions = [⟨5⟩] ∧ (sample_sent repeated_actions).count ⟨5⟩ ≤ 1 :=
  ⟨by decide +kernel, one_transaction_per_intent repeated_actions (by decide +kernel) ⟨5⟩⟩

theorem intent_is_sent_twice :
    sample_sent overlapping_actions = [⟨5⟩, ⟨5⟩] ∧
      sample_sent interrupted_actions = [⟨5⟩, ⟨5⟩] ∧
      sample_sent forgotten_actions = [⟨5⟩, ⟨5⟩] := by
  decide +kernel

end WalletkitExecutor

end Solvent
