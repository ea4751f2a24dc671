import Mathlib
import Solvent.Crosschain.Steps

/-! # What a service knows of its sends

    Facts about the transactions of one intent at one service: whether any was
    sent, whether all of them are known to have failed, and whether the
    service's tables lead to every one of them. `Moves` says what the engine, the
    reconcile loop and the submissions of other intents can do to these, and is
    the only thing later proofs use of them.
-/

namespace Solvent

open BTreeMap

namespace ChainService

variable (s : ChainService) (intent : IntentId)

/-- The engine knows that the transaction did not land and will not. -/
def Dead (handle : HandleId) : Prop :=
  ∃ status, s.executor.wallet.status[handle]? = some status ∧
    (status = .Dropped ∨ ∃ reason, status = .Failed reason)

/-- No transaction of the intent was sent. -/
def Unsent : Prop := ∀ h : HandleId, s.executor.wallet.sent[h]? ≠ some intent

/-- Every transaction of the intent is dead. -/
def Doomed : Prop := ∀ h : HandleId, s.executor.wallet.sent[h]? = some intent → s.Dead h

/-- A tracked handle is a send of the intent, and what landed is not dead. -/
structure Sound : Prop where
  tracked : ∀ h, s.executor.handle intent = some h →
    s.executor.wallet.sent[h]? = some intent
  landed : ∀ h ∈ s.landed, ¬ s.Dead h

/-- The tables lead to every send of the intent: by its handle, or by the outcome
    recorded for it. -/
structure Known : Prop where
  status : ∀ h : HandleId, s.executor.wallet.sent[h]? = some intent →
    (s.executor.wallet.status[h]?).isSome
  recorded : ∀ (h : HandleId) status, s.executor.wallet.sent[h]? = some intent →
    s.executor.terminal[intent]? = some status →
    s.executor.wallet.status[h]? = some status ∧ status ≠ .Pending
  reached : ∀ h : HandleId, s.executor.wallet.sent[h]? = some intent →
    s.executor.handle intent = some h ∨
      (s.executor.handle intent = none ∧ (s.executor.terminal[intent]?).isSome)

/-- Nothing is recorded or tracked for the intent, and `handle` is its only send. -/
structure Untracked (handle : HandleId) : Prop where
  only : ∀ h : HandleId, s.executor.wallet.sent[h]? = some intent → h = handle
  sent : s.executor.wallet.sent[handle]? = some intent
  status : (s.executor.wallet.status[handle]?).isSome
  handle_none : s.executor.handle intent = none
  terminal_none : s.executor.terminal[intent]? = none

/-- No outcome is recorded for the intent. -/
def Unrecorded : Prop := s.executor.terminal[intent]? = none

variable {s intent}

theorem doomed_of_unsent (h : s.Unsent intent) : s.Doomed intent :=
  fun k hk => absurd hk (h k)

theorem not_landed_of_doomed (hsound : s.Sound intent) (h : s.Doomed intent) :
    ¬ s.Landed intent := by
  rintro ⟨k, hk, hsent⟩
  exact hsound.landed k hk (h k hsent)

/-- The status of an intent whose sends are known is that of each of them. -/
theorem status_of_known (hknown : s.Known intent) {h : HandleId}
    (hsent : s.executor.wallet.sent[h]? = some intent) :
    s.executor.status intent = s.executor.wallet.status[h]? := by
  obtain ⟨status, hstatus⟩ := Option.isSome_iff_exists.mp (hknown.status h hsent)
  rcases hknown.reached h hsent with hhandle | ⟨hhandle, hterminal⟩
  · simp [WalletkitExecutor.status, hhandle, hstatus]
  · obtain ⟨final, hfinal⟩ := Option.isSome_iff_exists.mp hterminal
    simp [WalletkitExecutor.status, hhandle, hfinal, (hknown.recorded h final hsent hfinal).1]

/-- **No status, no send.** -/
theorem unsent_of_no_status (hknown : s.Known intent)
    (h : s.executor.status intent = none) : s.Unsent intent := by
  intro k hk
  have hstatus := hknown.status k hk
  rw [← status_of_known hknown hk, h] at hstatus
  cases hstatus

/-- **A failed status is the failure of every send.** -/
theorem doomed_of_status (hknown : s.Known intent) {status : ExecStatus}
    (h : s.executor.status intent = some status)
    (hdead : status = .Dropped ∨ ∃ reason, status = .Failed reason) : s.Doomed intent := by
  intro k hk
  refine ⟨status, ?_, hdead⟩
  rw [← status_of_known hknown hk]
  exact h

theorem unrecorded_of_no_status (h : s.executor.status intent = none) : s.Unrecorded intent := by
  unfold WalletkitExecutor.status at h
  unfold Unrecorded
  split at h
  · exact h
  · split at h
    · cases h
    · exact h

theorem handle_none_of_unsent (hsound : s.Sound intent) (h : s.Unsent intent) :
    s.executor.handle intent = none := by
  match hhandle : s.executor.handle intent with
  | none => rfl
  | some k => exact absurd (hsound.tracked k hhandle) (h k)

/-! ## Moves -/

/-- From `s` to `s'` without a new send of the intent: pending transactions may
    settle, a settled outcome may be recorded, and a recorded intent forgotten. -/
structure Moves (intent : IntentId) (s s' : ChainService) : Prop where
  sent : ∀ h : HandleId, s'.executor.wallet.sent[h]? = some intent ↔
    s.executor.wallet.sent[h]? = some intent
  status : ∀ h : HandleId, s.executor.wallet.sent[h]? = some intent →
    s'.executor.wallet.status[h]? = s.executor.wallet.status[h]? ∨
      (s.executor.wallet.status[h]? = some .Pending ∧ (s'.executor.wallet.status[h]?).isSome)
  landed : (∀ h ∈ s.landed, ¬ s.Dead h) → ∀ h ∈ s'.landed, ¬ s'.Dead h
  tables :
    (s'.executor.handle intent = s.executor.handle intent ∧
      s'.executor.terminal[intent]? = s.executor.terminal[intent]?) ∨
    (∃ h status, s.executor.handle intent = some h ∧ s'.executor.handle intent = some h ∧
      s.executor.wallet.status[h]? = some status ∧ status ≠ .Pending ∧
      s'.executor.terminal[intent]? = some status) ∨
    ((s.executor.terminal[intent]?).isSome ∧ s'.executor.handle intent = none ∧
      s'.executor.terminal[intent]? = s.executor.terminal[intent]?)

namespace Moves

variable {s' : ChainService} (h : Moves intent s s')

include h

theorem sound (hsound : s.Sound intent) : s'.Sound intent where
  tracked := by
    intro k hk
    rw [h.sent]
    rcases h.tables with ⟨hhandle, _⟩ | ⟨k', _, hbefore, hafter, _⟩ | ⟨_, hnone, _⟩
    · rw [hhandle] at hk
      exact hsound.tracked k hk
    · rw [hafter] at hk
      exact hsound.tracked k (by rw [hbefore, hk])
    · rw [hnone] at hk
      cases hk
  landed := h.landed hsound.landed

/-- A status that is not pending stays. -/
theorem final {k : HandleId} {status : ExecStatus}
    (hsent : s.executor.wallet.sent[k]? = some intent)
    (hstatus : s.executor.wallet.status[k]? = some status) (hfinal : status ≠ .Pending) :
    s'.executor.wallet.status[k]? = some status := by
  rcases h.status k hsent with hsame | ⟨hpending, _⟩
  · rw [hsame]
    exact hstatus
  · rw [hstatus] at hpending
    exact absurd (Option.some.inj hpending) hfinal

theorem known (hknown : s.Known intent) : s'.Known intent where
  status := by
    intro k hk
    rw [h.sent] at hk
    rcases h.status k hk with hsame | ⟨_, hsome⟩
    · rw [hsame]
      exact hknown.status k hk
    · exact hsome
  recorded := by
    intro k status hk hterminal
    rw [h.sent] at hk
    rcases h.tables with ⟨_, hsame⟩ | ⟨k', status', hbefore, _, hstatus', hfinal, hrecorded⟩ |
      ⟨_, _, hsame⟩
    · rw [hsame] at hterminal
      obtain ⟨hstatus, hfinal⟩ := hknown.recorded k status hk hterminal
      exact ⟨h.final hk hstatus hfinal, hfinal⟩
    · -- The recorded outcome is that of the tracked handle, the only send.
      rw [hrecorded] at hterminal
      obtain rfl := Option.some.inj hterminal
      rcases hknown.reached k hk with hhandle | ⟨hhandle, _⟩
      · rw [hbefore] at hhandle
        obtain rfl := Option.some.inj hhandle
        exact ⟨h.final hk hstatus' hfinal, hfinal⟩
      · rw [hbefore] at hhandle
        cases hhandle
    · rw [hsame] at hterminal
      obtain ⟨hstatus, hfinal⟩ := hknown.recorded k status hk hterminal
      exact ⟨h.final hk hstatus hfinal, hfinal⟩
  reached := by
    intro k hk
    rw [h.sent] at hk
    rcases h.tables with ⟨hhandle, hterminal⟩ | ⟨k', status', hbefore, hafter, _, _, _⟩ |
      ⟨hsome, hnone, hsame⟩
    · rw [hhandle, hterminal]
      exact hknown.reached k hk
    · left
      rcases hknown.reached k hk with hhandle | ⟨hhandle, _⟩
      · rw [hafter, ← hbefore]
        exact hhandle
      · rw [hbefore] at hhandle
        cases hhandle
    · right
      rw [hsame]
      exact ⟨hnone, hsome⟩

theorem unsent (hunsent : s.Unsent intent) : s'.Unsent intent :=
  fun k hk => hunsent k ((h.sent k).mp hk)

theorem doomed (hdoomed : s.Doomed intent) : s'.Doomed intent := by
  intro k hk
  rw [h.sent] at hk
  obtain ⟨status, hstatus, hdead⟩ := hdoomed k hk
  refine ⟨status, h.final hk hstatus ?_, hdead⟩
  rcases hdead with rfl | ⟨reason, rfl⟩ <;> simp

theorem unrecorded (hsound : s.Sound intent) (hunsent : s.Unsent intent)
    (hnone : s.Unrecorded intent) : s'.Unrecorded intent := by
  have hhandle := handle_none_of_unsent hsound hunsent
  unfold Unrecorded at hnone ⊢
  rcases h.tables with ⟨_, hsame⟩ | ⟨k, _, hbefore, _⟩ | ⟨_, _, hsame⟩
  · rw [hsame]
    exact hnone
  · rw [hhandle] at hbefore
    cases hbefore
  · rw [hsame]
    exact hnone

theorem untracked {k : HandleId} (hk : s.Untracked intent k) : s'.Untracked intent k := by
  have htables : s'.executor.handle intent = none ∧ s'.executor.terminal[intent]? = none := by
    rcases h.tables with ⟨hhandle, hterminal⟩ | ⟨k', _, hbefore, _⟩ | ⟨hsome, _⟩
    · exact ⟨hhandle.trans hk.handle_none, hterminal.trans hk.terminal_none⟩
    · rw [hk.handle_none] at hbefore
      cases hbefore
    · rw [hk.terminal_none] at hsome
      cases hsome
  refine ⟨fun j hj => hk.only j ((h.sent j).mp hj), (h.sent k).mpr hk.sent, ?_, htables.1,
    htables.2⟩
  rcases h.status k hk.sent with hsame | ⟨_, hsome⟩
  · rw [hsame]
    exact hk.status
  · exact hsome

end Moves

/-! ## What moves -/

/-- A change that leaves the executor and the chain alone. -/
theorem moves_of_same {s' : ChainService} (hexecutor : s'.executor = s.executor)
    (hlanded : s'.landed = s.landed) : Moves intent s s' := by
  refine ⟨?_, ?_, ?_, ?_⟩
  · intro h
    rw [hexecutor]
  · intro h _
    rw [hexecutor]
    exact .inl rfl
  · intro hdead h hh
    unfold Dead
    rw [hexecutor]
    exact hdead h (hlanded ▸ hh)
  · rw [hexecutor]
    exact .inl ⟨rfl, rfl⟩

theorem Moves.refl : Moves intent s s := moves_of_same rfl rfl

/-- Pending transactions may settle, truthfully; nothing else changes. -/
structure Settles (s s' : ChainService) : Prop where
  sent : s'.executor.wallet.sent = s.executor.wallet.sent
  handle_id : s'.executor.handle_id = s.executor.handle_id
  terminal : s'.executor.terminal = s.executor.terminal
  status : ∀ h : HandleId,
    s'.executor.wallet.status[h]? = s.executor.wallet.status[h]? ∨
      (s.executor.wallet.status[h]? = some .Pending ∧ (s'.executor.wallet.status[h]?).isSome)
  landed : (∀ h ∈ s.landed, ¬ s.Dead h) → ∀ h ∈ s'.landed, ¬ s'.Dead h

theorem Settles.refl : Settles s s :=
  ⟨rfl, rfl, rfl, fun _ => .inl rfl, fun h => h⟩

theorem Settles.trans {s₁ s₂ s₃ : ChainService} (h₁ : Settles s₁ s₂) (h₂ : Settles s₂ s₃) :
    Settles s₁ s₃ where
  sent := h₂.sent.trans h₁.sent
  handle_id := h₂.handle_id.trans h₁.handle_id
  terminal := h₂.terminal.trans h₁.terminal
  status := by
    intro h
    rcases h₁.status h with hsame | ⟨hpending, hsome⟩
    · rw [← hsame]
      exact h₂.status h
    · right
      refine ⟨hpending, ?_⟩
      rcases h₂.status h with hsame | ⟨_, hsome'⟩
      · rw [hsame]
        exact hsome
      · exact hsome'
  landed := fun h => h₂.landed (h₁.landed h)

theorem Settles.moves {s' : ChainService} (h : Settles s s') : Moves intent s s' where
  sent := by
    intro k
    rw [h.sent]
  status := fun k _ => h.status k
  landed := h.landed
  tables := by
    unfold WalletkitExecutor.handle
    rw [h.handle_id, h.terminal]
    exact .inl ⟨rfl, rfl⟩

theorem settles_report (s : ChainService) (handle : HandleId) (status : ExecStatus) :
    Settles s (s.report handle status) := by
  unfold report
  split
  · rename_i htruthful
    by_cases hpending : s.executor.wallet.status[handle]? = some .Pending
    · have hwallet : s.executor.wallet.report handle (some status) =
          { s.executor.wallet with status := s.executor.wallet.status.insert handle status } := by
        unfold Wallet.report
        rw [if_pos hpending]
      refine ⟨?_, rfl, rfl, ?_, ?_⟩
      · show (s.executor.wallet.report handle (some status)).sent = _
        rw [hwallet]
      · intro h
        show (s.executor.wallet.report handle (some status)).status[h]? = _ ∨ _
        rw [hwallet]
        by_cases hh : handle = h
        · subst hh
          right
          refine ⟨hpending, ?_⟩
          show ((s.executor.wallet.report handle (some status)).status[handle]?).isSome
          rw [hwallet]
          simp
        · left
          exact get_insert_ne _ _ hh
      · -- A dead report contradicts the chain on a landed transaction.
        intro hlive h hh hdead
        obtain ⟨st, hst, hkind⟩ := hdead
        have hst' : (s.executor.wallet.report handle (some status)).status[h]? = some st := hst
        rw [hwallet] at hst'
        by_cases hsame : handle = h
        · subst hsame
          have heq : some status = some st := by
            rw [← hst']
            simp
          obtain rfl := Option.some.inj heq
          rcases hkind with rfl | ⟨reason, rfl⟩
          · exact htruthful hh
          · exact htruthful hh
        · apply hlive h hh
          refine ⟨st, ?_, hkind⟩
          rw [← hst']
          exact (get_insert_ne _ _ hsame).symm
    · have hsame : s.executor.report handle (some status) = s.executor := by
        unfold WalletkitExecutor.report Wallet.report
        rw [if_neg hpending]
      rw [hsame]
      exact Settles.refl
  · exact Settles.refl

theorem settles_tick (s : ChainService) (reports : List (HandleId × ExecStatus)) :
    Settles s (reports.foldl (fun s r => s.report r.1 r.2) s) := by
  induction reports generalizing s with
  | nil => exact Settles.refl
  | cons r reports ih => exact (settles_report s r.1 r.2).trans (ih (s.report r.1 r.2))

theorem moves_mine (s : ChainService) (intent : IntentId) (handle : HandleId) :
    Moves intent s (s.mine handle) := by
  unfold mine
  split
  · rename_i hpending
    refine ⟨fun _ => Iff.rfl, fun _ _ => .inl rfl, ?_, .inl ⟨rfl, rfl⟩⟩
    intro hlive h hh hdead
    rcases List.mem_append.mp hh with hold | hnew
    · exact hlive h hold hdead
    · obtain rfl := List.mem_singleton.mp hnew
      obtain ⟨status, hstatus, hkind⟩ := hdead
      have hst : s.executor.wallet.status[h]? = some status := hstatus
      rw [hpending] at hst
      obtain rfl := Option.some.inj hst
      rcases hkind with hkind | ⟨reason, hkind⟩ <;> cases hkind
  · exact Moves.refl

/-- The outcome of a settled transaction is recorded. -/
theorem moves_recorded {k : IntentId} {status : ExecStatus}
    (hstatus : ((s.executor.handle k).bind fun h => s.executor.wallet.status[h]?) = some status)
    (hfinal : status ≠ .Pending) :
    Moves intent s { s with executor := s.executor.record_terminal k } := by
  have heq : s.executor.record_terminal k =
      { s.executor with terminal := s.executor.terminal.insert k status } := by
    unfold WalletkitExecutor.record_terminal
    rw [hstatus]
    cases status with
    | Pending => exact absurd rfl hfinal
    | Confirmed block tx => rfl
    | Failed reason => rfl
    | Dropped => rfl
  rw [heq]
  refine ⟨fun _ => Iff.rfl, fun _ _ => .inl rfl, fun h => h, ?_⟩
  by_cases hk : k = intent
  · subst hk
    obtain ⟨h, hhandle, hst⟩ := Option.bind_eq_some_iff.mp hstatus
    refine .inr (.inl ⟨h, status, hhandle, hhandle, hst, hfinal, ?_⟩)
    show (s.executor.terminal.insert k status)[k]? = some status
    simp
  · refine .inl ⟨rfl, ?_⟩
    show (s.executor.terminal.insert k status)[intent]? = _
    exact get_insert_ne _ _ hk

theorem moves_record (s : ChainService) (intent k : IntentId) :
    Moves intent s { s with executor := s.executor.record_terminal k } := by
  match hstatus : (s.executor.handle k).bind fun h => s.executor.wallet.status[h]? with
  | none =>
    have heq : s.executor.record_terminal k = s.executor := by
      simp only [WalletkitExecutor.record_terminal, hstatus]
    rw [heq]
    exact Moves.refl
  | some .Pending =>
    have heq : s.executor.record_terminal k = s.executor := by
      simp only [WalletkitExecutor.record_terminal, hstatus]
    rw [heq]
    exact Moves.refl
  | some (.Confirmed block tx) => exact moves_recorded hstatus (by simp)
  | some (.Failed reason) => exact moves_recorded hstatus (by simp)
  | some .Dropped => exact moves_recorded hstatus (by simp)

theorem moves_untrack (s : ChainService) (intent : IntentId) {k : IntentId}
    (hterminal : (s.executor.terminal[k]?).isSome) :
    Moves intent s { s with executor := s.executor.untrack k } := by
  refine ⟨fun _ => Iff.rfl, fun _ _ => .inl rfl, fun h => h, ?_⟩
  have hhandle := s.executor.handle_untrack k intent
  by_cases hk : k = intent
  · subst hk
    rw [if_pos rfl] at hhandle
    exact .inr (.inr ⟨hterminal, hhandle, rfl⟩)
  · rw [if_neg hk] at hhandle
    exact .inl ⟨hhandle, rfl⟩

theorem moves_send (s : ChainService) {intent k : IntentId} (hk : k ≠ intent) :
    Moves intent s { s with executor := s.executor.send_with k } := by
  have hsent : ∀ h : HandleId, (s.executor.wallet.sent ++ [k])[h]? = some intent ↔
      s.executor.wallet.sent[h]? = some intent := by
    intro h
    rw [List.getElem?_append]
    split
    · rfl
    · rename_i hge
      have hnone : s.executor.wallet.sent[h]? = none := by
        rw [List.getElem?_eq_none_iff]
        exact Nat.le_of_not_lt hge
      rw [hnone]
      cases hi : h - s.executor.wallet.sent.length with
      | zero => simp [hk]
      | succ n => simp
  have hlt : ∀ h : HandleId, s.executor.wallet.sent[h]? = some intent →
      s.executor.wallet.sent.length ≠ h := by
    intro h hh heq
    rw [← heq, List.getElem?_eq_none (Nat.le_refl _)] at hh
    cases hh
  refine ⟨hsent, ?_, ?_, .inl ⟨rfl, rfl⟩⟩
  · intro h hh
    left
    exact get_insert_ne _ _ (hlt h hh)
  · intro hlive h hh hdead
    obtain ⟨status, hstatus, hkind⟩ := hdead
    have hst : (s.executor.wallet.status.insert s.executor.wallet.sent.length
        ExecStatus.Pending)[h]? = some status := hstatus
    rw [get_insert] at hst
    split at hst
    · obtain rfl := Option.some.inj hst
      rcases hkind with hkind | ⟨reason, hkind⟩ <;> cases hkind
    · exact hlive h hh ⟨status, hst, hkind⟩

theorem moves_track (s : ChainService) {intent k : IntentId} (hk : k ≠ intent)
    (reservation : ReservationId) (handle : HandleId) :
    Moves intent s { s with executor := s.executor.track k reservation handle } := by
  refine ⟨fun _ => Iff.rfl, fun _ _ => .inl rfl, fun h => h, .inl ⟨?_, rfl⟩⟩
  show (s.executor.track k reservation handle).handle intent = _
  rw [WalletkitExecutor.handle_track, if_neg (fun h => hk h.1)]

/-! ## The intent's own send and track -/

/-- The intent's first send, not yet tracked. -/
theorem untracked_send (hsound : s.Sound intent) (hunsent : s.Unsent intent)
    (hnone : s.Unrecorded intent) :
    ({ s with executor := s.executor.send_with intent } : ChainService).Untracked intent
      s.executor.wallet.sent.length := by
  have hhandle : s.executor.handle intent = none := handle_none_of_unsent hsound hunsent
  refine ⟨?_, ?_, ?_, hhandle, hnone⟩
  · intro h hh
    have hh' : (s.executor.wallet.sent ++ [intent])[h]? = some intent := hh
    rw [List.getElem?_append] at hh'
    split at hh'
    · exact absurd hh' (hunsent h)
    · rename_i hge
      have hle : h - s.executor.wallet.sent.length < 1 := by
        by_contra hge'
        rw [List.getElem?_eq_none (Nat.le_of_not_lt hge')] at hh'
        cases hh'
      exact Nat.le_antisymm (Nat.sub_eq_zero_iff_le.mp (Nat.lt_one_iff.mp hle))
        (Nat.le_of_not_lt hge)
  · show (s.executor.wallet.sent ++ [intent])[s.executor.wallet.sent.length]? = some intent
    simp
  · show ((s.executor.wallet.status.insert s.executor.wallet.sent.length
      ExecStatus.Pending)[s.executor.wallet.sent.length]?).isSome
    simp

theorem sound_send (hsound : s.Sound intent) (hunsent : s.Unsent intent) :
    ({ s with executor := s.executor.send_with intent } : ChainService).Sound intent := by
  refine ⟨?_, ?_⟩
  · intro h hh
    have hh' : s.executor.handle intent = some h := hh
    rw [handle_none_of_unsent hsound hunsent] at hh'
    cases hh'
  · intro h hh hdead
    obtain ⟨status, hstatus, hkind⟩ := hdead
    have hst : (s.executor.wallet.status.insert s.executor.wallet.sent.length
        ExecStatus.Pending)[h]? = some status := hstatus
    rw [get_insert] at hst
    split at hst
    · obtain rfl := Option.some.inj hst
      rcases hkind with hkind | ⟨reason, hkind⟩ <;> cases hkind
    · exact hsound.landed h hh ⟨status, hst, hkind⟩

section Track

variable {handle : HandleId} (h : s.Untracked intent handle) (reservation : ReservationId)

include h

theorem handle_of_track :
    (s.executor.track intent reservation handle).handle intent = some handle := by
  have hfree : ¬ s.executor.Tracks intent := by
    unfold WalletkitExecutor.Tracks
    rw [h.handle_none]
    simp
  rw [WalletkitExecutor.handle_track, if_pos ⟨rfl, hfree⟩]

theorem sound_track (hsound : s.Sound intent) :
    ({ s with executor := s.executor.track intent reservation handle } :
      ChainService).Sound intent := by
  refine ⟨?_, hsound.landed⟩
  intro k hk
  have hk' : (s.executor.track intent reservation handle).handle intent = some k := hk
  rw [handle_of_track h] at hk'
  obtain rfl := Option.some.inj hk'
  exact h.sent

/-- Tracking the only send makes every send known. -/
theorem known_track :
    ({ s with executor := s.executor.track intent reservation handle } :
      ChainService).Known intent := by
  refine ⟨?_, ?_, ?_⟩
  · intro k hk
    obtain rfl := h.only k hk
    exact h.status
  · intro k status _ hterminal
    have hterminal' : s.executor.terminal[intent]? = some status := hterminal
    rw [h.terminal_none] at hterminal'
    cases hterminal'
  · intro k hk
    obtain rfl := h.only k hk
    exact .inl (handle_of_track h reservation)

end Track

end ChainService

end Solvent
