import Mathlib
import Solvent.Ledger.Conservation
import Solvent.Ledger.Service

/-! # The durable half and the in-memory half

    `Mirrors` says that the store's rows and the in-memory reservations are the
    same reservations. Both halves guard every transition by the state they see,
    so in a mirrored service they accept the same commands, with one exception:
    the store posts an open row whatever the fills are, and the engine checks
    them only afterwards. Away from that case `Mirrors` is an invariant and a
    refused call changes nothing.
-/

namespace Solvent

open BTreeMap

namespace LedgerService

/-- Row by row, the store holds the in-memory reservations. -/
def Mirrors (s : LedgerService) : Prop :=
  ∀ id : ReservationId,
    (s.store[id]?).map (fun row => row.reservation id) = s.ledger.reservations[id]?

/-- Every id has the same state in both halves, or is absent from both. -/
def StatesAgree (s : LedgerService) : Prop :=
  ∀ id : ReservationId,
    (s.store[id]?).map LedgerRow.state = (s.ledger.reservations[id]?).map Reservation.state

/-- The rows and the in-memory reservations, holds and fills are as they were. -/
structure Untouched (s s' : LedgerService) : Prop where
  store : s'.store = s.store
  reservations : s'.ledger.reservations = s.ledger.reservations
  held : s'.ledger.held = s.ledger.held
  filled : s'.ledger.filled = s.ledger.filled

/-- A settlement of an open reservation has one fill per source, none above what
    the source reserved. -/
def PostsWithin (s : LedgerService) : ServiceCommand → Prop
  | .post id filled => ∀ r : Reservation, s.ledger.reservations[id]? = some r →
      r.state.is_open = true → FillsWithin r.sources filled
  | _ => True

theorem untouched_refl (s : LedgerService) : s.Untouched s := ⟨rfl, rfl, rfl, rfl⟩

theorem statesAgree_of_mirrors {s : LedgerService} (h : s.Mirrors) : s.StatesAgree := by
  intro id
  rw [← h id, Option.map_map]
  rfl

theorem mirrors_new : (new ∅).Mirrors := by
  intro id
  simp [new, Ledger.empty]

/-- A mirrored reservation is recorded under its own id. -/
theorem id_of_mirrors {s : LedgerService} (h : s.Mirrors) {id : ReservationId}
    {r : Reservation} (hr : s.ledger.reservations[id]? = some r) : r.id = id := by
  rw [← h id] at hr
  obtain ⟨row, _, hrow⟩ := Option.map_eq_some_iff.mp hr
  rw [← hrow]
  rfl

/-! ## Guarded updates -/

theorem get_update_where (store : SqliteLedgerStore) (id k : ReservationId)
    (from_states : List ReservationState) (change : LedgerRow → LedgerRow) :
    (SqliteLedgerStore.update_where store id from_states change)[k]? =
      if id = k then
        (store[k]?).map fun row => if row.state ∈ from_states then change row else row
      else store[k]? := by
  unfold SqliteLedgerStore.update_where
  cases hrow : store[id]? with
  | none =>
    by_cases hk : id = k
    · subst hk
      simp [hrow]
    · simp [hk]
  | some row =>
    by_cases hmem : row.state ∈ from_states
    · simp only [hmem, if_true, get_insert]
      by_cases hk : id = k
      · subst hk
        simp [hrow, hmem]
      · simp [hk]
    · simp only [hmem, if_false]
      by_cases hk : id = k
      · subst hk
        simp [hrow, hmem]
      · simp [hk]

/-- Where the engine sees no state the update fires from, the store does not
    move either. -/
theorem update_where_idle {s : LedgerService} (h : s.Mirrors) {id : ReservationId}
    {from_states : List ReservationState} (change : LedgerRow → LedgerRow)
    (hno : ∀ r, s.ledger.reservations[id]? = some r → r.state ∉ from_states) :
    SqliteLedgerStore.update_where s.store id from_states change = s.store := by
  unfold SqliteLedgerStore.update_where
  cases hrow : s.store[id]? with
  | none => rfl
  | some row =>
    have hr : s.ledger.reservations[id]? = some (row.reservation id) := by
      rw [← h id, hrow]
      rfl
    have hnot : row.state ∉ from_states := hno _ hr
    simp [hnot]

/-- Where both move the reservation to the same state, they stay mirrored. -/
theorem mirrors_update {s : LedgerService} (h : s.Mirrors) {id : ReservationId}
    {r : Reservation} (hr : s.ledger.reservations[id]? = some r)
    {from_states : List ReservationState} (hfrom : r.state ∈ from_states)
    (state : ReservationState) (change : LedgerRow → LedgerRow)
    (hchange : ∀ row, (change row).reservation id = { row.reservation id with state := state })
    (ledger : Ledger) (hledger : ledger.reservations = s.ledger.set_state id r state)
    (snapshot : BTreeMap AccountKey U256) :
    Mirrors { ledger, snapshot,
              store := SqliteLedgerStore.update_where s.store id from_states change } := by
  intro k
  simp only [hledger, get_update_where, Ledger.set_state, get_insert]
  by_cases hk : id = k
  · subst hk
    have hrow := h id
    rw [hr] at hrow
    obtain ⟨row, hget, hres⟩ := Option.map_eq_some_iff.mp hrow
    have hstate : row.state ∈ from_states := by
      rw [← hres] at hfrom
      exact hfrom
    simp [hget, hstate, hchange, hres]
  · simp only [hk, if_false]
    exact h k

/-! ## One lemma per command -/

/-- What a call must leave behind: mirrored halves, untouched when it failed. -/
structure Keeps (s : LedgerService) (p : Except SolventError (List IntentId) × LedgerService) :
    Prop where
  mirrors : p.2.Mirrors
  untouched : ∀ e, p.1 = .error e → s.Untouched p.2

/-- A refused or idle pair whose store did not move. -/
theorem keeps_idle {s : LedgerService} (h : s.Mirrors) {store : SqliteLedgerStore}
    (hstore : store = s.store) {answer : Except LedgerError Unit × Ledger}
    (hledger : answer.2 = s.ledger) :
    s.Keeps (no_intents (s.durable_first store answer)) := by
  obtain ⟨result, ledger⟩ := answer
  simp only at hledger
  subst hstore hledger
  cases result with
  | error e => exact ⟨h, fun _ _ => untouched_refl s⟩
  | ok u =>
    refine ⟨h, ?_⟩
    intro e he
    simp [no_intents, durable_first, Except.map] at he

/-- A pair both halves performed. -/
theorem keeps_moved {s : LedgerService} {store : SqliteLedgerStore} {ledger : Ledger}
    (h : ∀ snapshot, Mirrors { ledger, store, snapshot }) :
    s.Keeps (no_intents (s.durable_first store (.ok (), ledger))) := by
  refine ⟨h _, ?_⟩
  intro e he
  simp [no_intents, durable_first, Except.map] at he

theorem keeps_commit {s : LedgerService} (h : s.Mirrors) (id : ReservationId) :
    s.Keeps (no_intents (s.commit id)) := by
  unfold commit
  rcases Ledger.commit_cases s.ledger id with ⟨r, hr, hstate, heq⟩ | ⟨heq, hno⟩
  · rw [heq]
    exact keeps_moved fun snapshot =>
      mirrors_update h hr (by simp [hstate]) .Committed _ (fun _ => rfl) _ rfl snapshot
  · exact keeps_idle h (update_where_idle h _ (by simpa using hno)) heq

theorem keeps_post {s : LedgerService} (h : s.Mirrors) (id : ReservationId)
    (filled : List U256) (hwithin : s.PostsWithin (.post id filled)) :
    s.Keeps (no_intents (s.post id filled)) := by
  unfold post
  rcases Ledger.post_cases s.ledger id filled with ⟨r, hr, hopen, _, heq⟩ | ⟨⟨e, heq⟩, hno⟩
  · rw [heq]
    have hfrom : r.state ∈ [ReservationState.Pending, .Committed] := by
      cases hs : r.state <;> simp [hs, ReservationState.is_open] at hopen ⊢
    exact keeps_moved fun snapshot =>
      mirrors_update h hr hfrom .Posted _ (fun _ => rfl) _ rfl snapshot
  · -- The engine refuses, and not for its fills: so the row is not open either.
    have hclosed : ∀ r, s.ledger.reservations[id]? = some r →
        r.state ∉ [ReservationState.Pending, .Committed] := by
      intro r hr hmem
      have hopen : r.state.is_open = true := by
        simp only [List.mem_cons, List.not_mem_nil, or_false] at hmem
        rcases hmem with hs | hs <;> simp [hs, ReservationState.is_open]
      exact hno r hr hopen (hwithin r hr hopen)
    exact keeps_idle h (update_where_idle h _ hclosed) (by rw [heq])

theorem keeps_void {s : LedgerService} (h : s.Mirrors) (id : ReservationId) :
    s.Keeps (no_intents (s.void id)) := by
  unfold void
  rcases Ledger.void_cases s.ledger id with ⟨r, hr, hopen, heq⟩ | ⟨⟨e, heq⟩, hno⟩
  · rw [heq]
    have hfrom : r.state ∈ [ReservationState.Pending, .Committed] := by
      cases hs : r.state <;> simp [hs, ReservationState.is_open] at hopen ⊢
    exact keeps_moved fun snapshot =>
      mirrors_update h hr hfrom .Voided _ (fun _ => rfl) _ rfl snapshot
  · have hclosed : ∀ r, s.ledger.reservations[id]? = some r →
        r.state ∉ [ReservationState.Pending, .Committed] := by
      intro r hr
      have := hno r hr
      cases hs : r.state <;> simp [hs, ReservationState.is_open] at this ⊢
    exact keeps_idle h (update_where_idle h _ hclosed) (by rw [heq])

theorem keeps_expire {s : LedgerService} (h : s.Mirrors) (id : ReservationId) :
    s.Keeps (no_intents (s.expire id)) := by
  unfold expire
  rcases Ledger.expire_cases s.ledger id with ⟨r, hr, hstate, heq⟩ | ⟨⟨e, heq⟩, hno⟩
  · rw [heq]
    exact keeps_moved fun snapshot =>
      mirrors_update h hr (by simp [hstate]) .Expired _ (fun _ => rfl) _ rfl snapshot
  · exact keeps_idle h (update_where_idle h _ (by simpa using hno)) (by rw [heq])

theorem keeps_void_reorg {s : LedgerService} (h : s.Mirrors) (id : ReservationId) :
    s.Keeps (no_intents (s.void_reorg id)) := by
  unfold void_reorg
  rcases Ledger.void_reorg_cases s.ledger id with ⟨r, hr, hstate, heq⟩ | ⟨⟨e, heq⟩, hno⟩
  · rw [heq]
    exact keeps_moved fun snapshot =>
      mirrors_update h hr (by simp [hstate]) .ReorgOpen _ (fun _ => rfl) _ rfl snapshot
  · exact keeps_idle h (update_where_idle h _ (by simpa using hno)) (by rw [heq])

/-! ### Admission -/

/-- Feeding budgets touches nothing else. -/
theorem feed_eq (l : Ledger) (budgets : List (AccountKey × U256)) :
    ∃ fed, feed l budgets = { l with budgets := fed } := by
  induction budgets generalizing l with
  | nil => exact ⟨l.budgets, rfl⟩
  | cons b bs ih =>
    obtain ⟨fed, hfed⟩ := ih (l.set_budget b.1 b.2)
    exact ⟨fed, hfed⟩

theorem keeps_reserve_owned {s : LedgerService} (h : s.Mirrors) {r : Reservation}
    (hstate : r.state = .Pending) (budgets : List (AccountKey × U256)) :
    s.Keeps (no_intents (s.reserve_owned r budgets)) := by
  obtain ⟨fed, hfed⟩ := feed_eq s.ledger budgets
  have hfail : ∀ (e : SolventError), s.Keeps (no_intents
      (.error e, { s with ledger := { s.ledger with budgets := fed } })) := by
    intro e
    exact ⟨h, fun _ _ => ⟨rfl, rfl, rfl, rfl⟩⟩
  unfold reserve_owned
  simp only [hfed]
  cases hok : Ledger.can_reserve { s.ledger with budgets := fed } r with
  | error e => exact hfail _
  | ok u =>
    have hnew : s.ledger.reservations[r.id]? = none := (Ledger.can_reserve_ok hok).1
    have hrow : s.store[r.id]? = none := by
      have := h r.id
      rw [hnew] at this
      simpa using this
    unfold SqliteLedgerStore.reserve i64_of
    by_cases hfits : r.expires_at.val < 2 ^ 63
    · -- A fresh row: both halves record the reservation.
      simp only [hfits, dif_pos, hrow]
      refine ⟨?_, ?_⟩
      · intro k
        show ((s.store.insert r.id _)[k]?).map _ =
          (Ledger.restore { s.ledger with budgets := fed } r).reservations[k]?
        rw [Ledger.restore_of_none (by exact hnew)]
        simp only [get_insert]
        by_cases hk : r.id = k
        · subst hk
          simp [LedgerRow.reservation, ← hstate]
        · simp only [hk, if_false]
          exact h k
      · intro e he
        simp [no_intents, Except.map] at he
    · simp only [hfits, dif_neg, not_false_eq_true]
      exact hfail _

/-! ### The sweep -/

/-- Every id of the list is a pending reservation. -/
def AllPending (s : LedgerService) (ids : List ReservationId) : Prop :=
  ∀ id ∈ ids, ∃ r, s.ledger.reservations[id]? = some r ∧ r.state = .Pending

theorem sweep_loop_cons {s s' : LedgerService} {id : ReservationId} {ids : List ReservationId}
    {ledger : Ledger} {swept : List IntentId} (hexp : s.ledger.expire id = (.ok (), ledger))
    (hloop : sweep_loop { s with store := SqliteLedgerStore.expire s.store id, ledger } ids =
      (.ok swept, s')) :
    s.sweep_loop (id :: ids) = (.ok
      (((s.ledger.reservation id).bind fun r => r.owner.swap_intent).toList ++ swept), s') := by
  simp only [sweep_loop, hexp, hloop]

/-- **Sweep lemma.** Over distinct pending ids the loop succeeds and stays
    mirrored. -/
theorem sweep_loop_ok {s : LedgerService} (h : s.Mirrors) {ids : List ReservationId}
    (hnodup : ids.Nodup) (hpending : s.AllPending ids) :
    ∃ swept s', s.sweep_loop ids = (.ok swept, s') ∧ s'.Mirrors := by
  induction ids generalizing s with
  | nil => exact ⟨[], s, rfl, h⟩
  | cons id ids ih =>
    obtain ⟨hnotin, hrest⟩ := List.nodup_cons.mp hnodup
    obtain ⟨r, hr, hstate⟩ := hpending id (by simp)
    rcases Ledger.expire_cases s.ledger id with ⟨r', hr', _, heq⟩ | ⟨_, hno⟩
    · -- The later ids are not touched by expiring this one.
      have hfrom : r'.state ∈ [ReservationState.Pending] := by simp [*]
      have hnext := mirrors_update h hr' hfrom .Expired (fun row => { row with state := .Expired }) (fun _ => rfl)
        (s.ledger.expire id).2 (by rw [heq]) s.snapshot
      have hstill : AllPending { s with
          store := SqliteLedgerStore.expire s.store id, ledger := (s.ledger.expire id).2 } ids := by
        intro k hk
        obtain ⟨q, hq, hqs⟩ := hpending k (by simp [hk])
        refine ⟨q, ?_, hqs⟩
        have hne : id ≠ k := by
          intro e
          exact hnotin (e ▸ hk)
        simp only [heq, Ledger.set_state, get_insert, if_neg hne]
        exact hq
      obtain ⟨swept, s', hloop, hmirrors⟩ := ih hnext hrest hstill
      have hexp : s.ledger.expire id = (.ok (), (s.ledger.expire id).2) := by rw [heq]
      exact ⟨_, s', sweep_loop_cons hexp hloop, hmirrors⟩
    · exact absurd hstate (hno r hr)

/-- Where the reservations sit under their own ids, distinct keys are distinct ids. -/
theorem expired_allPending {s : LedgerService}
    (hown : ∀ (id : ReservationId) (r : Reservation),
      s.ledger.reservations[id]? = some r → r.id = id)
    (now : U64) (exclude : List ReservationId) :
    let ids := (s.ledger.expired_swaps_as_of now).filter (· ∉ exclude)
    ids.Nodup ∧ s.AllPending ids := by
  have hvals : ∀ r ∈ values s.ledger.reservations, s.ledger.reservations[r.id]? = some r := by
    intro r hr
    obtain ⟨b, hb, rfl⟩ := List.mem_map.mp hr
    obtain ⟨k, v⟩ := b
    have hget := Std.ExtTreeMap.mem_toList_iff_getElem?_eq_some.mp hb
    have hid := hown k v hget
    simp only
    rw [hid]
    exact hget
  have hids : (values s.ledger.reservations).map Reservation.id =
      s.ledger.reservations.keys := by
    rw [values, ← Std.ExtTreeMap.map_fst_toList_eq_keys, List.map_map]
    apply List.map_congr_left
    intro b hb
    obtain ⟨k, v⟩ := b
    exact hown k v (Std.ExtTreeMap.mem_toList_iff_getElem?_eq_some.mp hb)
  constructor
  · have hsub : ((s.ledger.expired_swaps_as_of now).filter (· ∉ exclude)).Sublist
        s.ledger.reservations.keys := by
      refine List.filter_sublist.trans ?_
      rw [← hids]
      exact List.filter_sublist.map _
    exact hsub.nodup (Std.ExtTreeMap.nodup_keys)
  · intro id hid
    have hmem := (List.mem_filter.mp hid).1
    obtain ⟨r, hr, rfl⟩ := List.mem_map.mp hmem
    obtain ⟨hrv, hcond⟩ := List.mem_filter.mp hr
    refine ⟨r, hvals r hrv, ?_⟩
    simp only [decide_eq_true_eq] at hcond
    exact hcond.1

theorem keeps_sweep {s : LedgerService} (h : s.Mirrors) (reads : Reads)
    (exclude : List ReservationId) : s.Keeps (s.sweep_expired reads exclude) := by
  obtain ⟨hnodup, hpending⟩ :=
    expired_allPending (fun _ _ hr => id_of_mirrors h hr) reads.now_unix exclude
  obtain ⟨swept, s', hloop, hmirrors⟩ := sweep_loop_ok h hnodup hpending
  unfold sweep_expired
  simp only [hloop]
  refine ⟨?_, by simp⟩
  simp only
  split
  · exact hmirrors
  · exact hmirrors

/-! ## Over whole runs -/

/-- **Step lemma.** A call whose settlement is within its reservation keeps the
    halves mirrored and, if it fails, changes nothing. -/
theorem keeps_exec {s : LedgerService} (h : s.Mirrors) {c : ServiceCommand}
    (hc : s.PostsWithin c) : s.Keeps (s.exec c) := by
  have hunread : ∀ e, s.Keeps (no_intents (.error e, s)) :=
    fun e => ⟨h, fun _ _ => untouched_refl s⟩
  cases c with
  | reserve reads id intent sources ttl_secs =>
    simp only [exec, reserve]
    split
    · exact hunread _
    · exact keeps_reserve_owned h rfl _
  | reserve_rebate reads id batch sources ttl_secs =>
    simp only [exec, reserve_rebate]
    split
    · exact hunread _
    · exact keeps_reserve_owned h rfl _
  | reserve_owned id owner sources expires_at budgets => exact keeps_reserve_owned h rfl budgets
  | commit id => exact keeps_commit h id
  | post id filled => exact keeps_post h id filled hc
  | void id => exact keeps_void h id
  | expire id => exact keeps_expire h id
  | void_reorg id => exact keeps_void_reorg h id
  | sweep_expired reads exclude => exact keeps_sweep h reads exclude
  | sync_budgets answer =>
    cases answer with
    | error e => exact hunread _
    | ok budgets =>
      refine ⟨h, ?_⟩
      intro e he
      simp [exec, no_intents, sync_budgets, Except.map] at he

/-- After the call the states agree, and a failed call changed nothing. -/
def InStep (s : LedgerService) (c : ServiceCommand) : Prop :=
  (s.next c).StatesAgree ∧ ∀ e, (s.exec c).1 = .error e → s.Untouched (s.next c)

/-- **Agreement over whole runs.** In every run from a fresh service along which
    the settlements of open reservations are within what was reserved, store and
    memory agree after every call and every failed call changes nothing. -/
theorem store_and_memory_agree (cmds : List ServiceCommand)
    (hwithin : Run.Along next PostsWithin (new ∅) cmds) :
    Run.Along next InStep (new ∅) cmds := by
  have hstep : ∀ (s : LedgerService) (c : ServiceCommand), s.Mirrors → s.PostsWithin c →
      (s.next c).Mirrors := fun _ _ hs hc => (keeps_exec hs hc).mirrors
  apply Run.along_of_invariant hstep _ mirrors_new hwithin
  intro s c hs hc
  have hkeeps := keeps_exec hs hc
  exact ⟨statesAgree_of_mirrors hkeeps.mirrors, hkeeps.untouched⟩

/-- The call that admits the sample reservation of 10 on freshly fed ceilings. -/
def sample_reserve : ServiceCommand :=
  .reserve_owned ⟨1⟩ (.Swap ⟨1⟩) [Ledger.sample_source 10] 100
    [(.WalletBudget ⟨1⟩ 1, 10), (.StrategyVirtual ⟨1⟩ ⟨1⟩ 1, 10)]

theorem store_and_memory_agree_partial_fill :
    Run.Along next InStep (new ∅) [sample_reserve, .post ⟨1⟩ [4]] := by
  apply store_and_memory_agree
  refine ⟨trivial, ?_, trivial⟩
  intro r hr _
  have hrec : ((new ∅).next sample_reserve).ledger.reservations[(⟨1⟩ : ReservationId)]? =
      some (.new ⟨1⟩ (.Swap ⟨1⟩) [Ledger.sample_source 10] 100) := by
    decide +kernel
  rw [hrec] at hr
  obtain rfl := Option.some.inj hr
  exact List.Forall₂.cons (by decide) List.Forall₂.nil

/-- A fill above what its source reserved: the row is posted, the engine refuses,
    and the two halves disagree from then on. -/
theorem overfilled_post_splits_the_halves :
    let s := Run.run next (new ∅) [sample_reserve]
    let c : ServiceCommand := .post ⟨1⟩ [11]
    (s.exec c).1 = .error (.Ledger (.FillExceedsReserved 0 11 10)) ∧
      ¬ (s.next c).StatesAgree ∧ ¬ s.Untouched (s.next c) := by
  refine ⟨by decide +kernel, ?_, ?_⟩
  · intro h
    have hone := h ⟨1⟩
    revert hone
    decide +kernel
  · intro h
    have hrow := congrArg (fun store : SqliteLedgerStore =>
      (store[(⟨1⟩ : ReservationId)]?).map LedgerRow.state) h.store
    revert hrow
    decide +kernel

end LedgerService

end Solvent
