import Mathlib
import Solvent.Ledger.Recovery

/-! # The published snapshot

    The quote path reads the room of every account from a snapshot the service
    republishes. Calls run side by side up to the writer lock: the budgets, the
    clock and the durable reservations are read before it is taken, and
    everything from the lock to its release is one step. Any store call under
    the lock may answer with an error; it has then written nothing.

    A call that fails after it fed budgets, expired the first of several holds
    or replayed the first of several reservations returns without republishing.
-/

namespace Solvent

open BTreeMap

/-! ## Calls and the writer lock -/

/-- What is left of a call once it waits for the writer lock. -/
inductive LockedCall where
  | reserve_owned (reservation : Reservation) (budgets : List (AccountKey × U256))
  | post (id : ReservationId) (filled : List U256)
  | commit (id : ReservationId)
  | void (id : ReservationId)
  | expire (id : ReservationId)
  | void_reorg (id : ReservationId)
  | sweep_expired (now_unix : U64) (exclude : List ReservationId)
  | recover (found : List Reservation)
  | sync_budgets (budgets : BTreeMap AccountKey U256)

/-- The service's commands, each with what its ports answer before the lock. -/
inductive LedgerCall where
  | reserve (reads : Reads) (id : ReservationId) (intent : IntentId)
      (sources : List ReservationSource) (ttl_secs : U64)
  | reserve_rebate (reads : Reads) (id : ReservationId) (batch : RebateBatchId)
      (sources : List ReservationSource) (ttl_secs : U64)
  | post (id : ReservationId) (filled : List U256)
  | commit (id : ReservationId)
  | void (id : ReservationId)
  | expire (id : ReservationId)
  | void_reorg (id : ReservationId)
  | sweep_expired (now_unix : U64) (exclude : List ReservationId)
  | recover (fault : Option LedgerStoreError)
  | sync_budgets (answer : Except SolventError (BTreeMap AccountKey U256))

/-- What the ports answer while a call holds the lock: the fault of the store
    call on a reservation, if any, and the budgets `recover` reads. -/
structure LockedReads where
  fault : ReservationId → Option LedgerStoreError
  budget : AccountKey → Except SolventError U256

namespace LedgerService

/-- The part of a call before the lock. -/
def before_lock (s : LedgerService) : LedgerCall → Except SolventError LockedCall
  | .reserve reads id intent sources ttl_secs =>
    (read_budgets reads (accounts_of sources)).map fun budgets =>
      .reserve_owned (.for_swap id intent sources (reads.now_unix.saturating_add ttl_secs)) budgets
  | .reserve_rebate reads id batch sources ttl_secs =>
    (read_budgets reads (accounts_of sources)).map fun budgets =>
      .reserve_owned (.for_rebate id batch sources (reads.now_unix.saturating_add ttl_secs)) budgets
  | .post id filled => .ok (.post id filled)
  | .commit id => .ok (.commit id)
  | .void id => .ok (.void id)
  | .expire id => .ok (.expire id)
  | .void_reorg id => .ok (.void_reorg id)
  | .sweep_expired now_unix exclude => .ok (.sweep_expired now_unix exclude)
  | .recover none => .ok (.recover (SqliteLedgerStore.open_reservations s.store))
  | .recover (some e) => .error (.LedgerStore e)
  | .sync_budgets answer => answer.map .sync_budgets

/-- `self.store.….await?` first: a fault ends the call before the engine runs. -/
def unless_fault (s : LedgerService) (fault : Option LedgerStoreError)
    (call : Except SolventError Unit × LedgerService) : Except SolventError Unit × LedgerService :=
  match fault with
  | some e => (.error (.LedgerStore e), s)
  | none => call

/-- Check, persist, hold; the budgets are fed first. -/
def reserve_owned_under (s : LedgerService) (fault : Option LedgerStoreError)
    (reservation : Reservation) (budgets : List (AccountKey × U256)) :
    Except SolventError Unit × LedgerService :=
  let ledger := feed s.ledger budgets
  match ledger.can_reserve reservation with
  | .error e => (.error (.Ledger e), { s with ledger })
  | .ok () => unless_fault { s with ledger } fault (s.reserve_owned reservation budgets)

/-- The loop of the sweep: the first fault leaves it. -/
def sweep_loop_under (fault : ReservationId → Option LedgerStoreError) (s : LedgerService) :
    List ReservationId → Except SolventError (List IntentId) × LedgerService
  | [] => (.ok [], s)
  | id :: ids =>
    let intent := (s.ledger.reservation id).bind fun r => r.owner.swap_intent
    match fault id with
    | some e => (.error (.LedgerStore e), s)
    | none =>
      match s.ledger.expire id with
      | (.error e, ledger) =>
        (.error (.Ledger e), { s with store := SqliteLedgerStore.expire s.store id, ledger })
      | (.ok (), ledger) =>
        match sweep_loop_under fault
            { s with store := SqliteLedgerStore.expire s.store id, ledger } ids with
        | (.error e, s') => (.error e, s')
        | (.ok swept, s') => (.ok (intent.toList ++ swept), s')

/-- The holds a sweep is to expire. -/
def elapsed_at (s : LedgerService) (now_unix : U64) (exclude : List ReservationId) :
    List ReservationId :=
  (s.ledger.expired_swaps_as_of now_unix).filter (· ∉ exclude)

def sweep_expired_under (s : LedgerService) (fault : ReservationId → Option LedgerStoreError)
    (expired : List ReservationId) : Except SolventError (List IntentId) × LedgerService :=
  match s.sweep_loop_under fault expired with
  | (.error e, s') => (.error e, s')
  | (.ok swept, s') => (.ok swept, if expired.isEmpty then s' else s'.publish)

/-- The replay; the budgets are read one reservation at a time, under the lock. -/
def recover_under (s : LedgerService) (reads : LockedReads) (found : List Reservation) :
    Except SolventError (List IntentId) × LedgerService :=
  match recover_loop s.ledger { now_unix := 0, budget := reads.budget } found with
  | (.error e, ledger) => (.error e, { s with ledger })
  | (.ok (), ledger) => (.ok [], publish { s with ledger })

/-- A call from the lock to its release. -/
def under_lock (s : LedgerService) (reads : LockedReads) :
    LockedCall → Except SolventError (List IntentId) × LedgerService
  | .reserve_owned r budgets => no_intents (s.reserve_owned_under (reads.fault r.id) r budgets)
  | .post id filled => no_intents (s.unless_fault (reads.fault id) (s.post id filled))
  | .commit id => no_intents (s.unless_fault (reads.fault id) (s.commit id))
  | .void id => no_intents (s.unless_fault (reads.fault id) (s.void id))
  | .expire id => no_intents (s.unless_fault (reads.fault id) (s.expire id))
  | .void_reorg id => no_intents (s.unless_fault (reads.fault id) (s.void_reorg id))
  | .sweep_expired now_unix exclude =>
    s.sweep_expired_under reads.fault (s.elapsed_at now_unix exclude)
  | .recover found => s.recover_under reads found
  | .sync_budgets budgets => no_intents (s.sync_budgets (.ok budgets))

/-! ## Without faults -/

theorem reserve_owned_under_none (s : LedgerService) (r : Reservation)
    (budgets : List (AccountKey × U256)) :
    s.reserve_owned_under none r budgets = s.reserve_owned r budgets := by
  unfold reserve_owned_under reserve_owned unless_fault
  match h : (feed s.ledger budgets).can_reserve r with
  | .error e => simp [h]
  | .ok () => simp [h]

theorem sweep_loop_under_none (s : LedgerService) (ids : List ReservationId) :
    s.sweep_loop_under (fun _ => none) ids = s.sweep_loop ids := by
  induction ids generalizing s with
  | nil => rfl
  | cons id ids ih =>
    simp only [sweep_loop_under, sweep_loop, ih] <;> rfl

/-- The command of a call; recovery is not one. -/
def command : LedgerCall → Option ServiceCommand
  | .reserve reads id intent sources ttl_secs => some (.reserve reads id intent sources ttl_secs)
  | .reserve_rebate reads id batch sources ttl_secs =>
    some (.reserve_rebate reads id batch sources ttl_secs)
  | .post id filled => some (.post id filled)
  | .commit id => some (.commit id)
  | .void id => some (.void id)
  | .expire id => some (.expire id)
  | .void_reorg id => some (.void_reorg id)
  | .sweep_expired now_unix exclude =>
    some (.sweep_expired { now_unix, budget := fun _ => .ok 0 } exclude)
  | .recover _ => none
  | .sync_budgets answer => some (.sync_budgets answer)

/-- A call that is not interrupted. -/
def alone (s : LedgerService) (reads : LockedReads) (c : LedgerCall) :
    Except SolventError (List IntentId) × LedgerService :=
  match s.before_lock c with
  | .error e => (.error e, s)
  | .ok w => s.under_lock reads w

/-- Uninterrupted and without faults, a call is the service's command. -/
theorem alone_eq_exec (s : LedgerService) {reads : LockedReads}
    (hfault : reads.fault = fun _ => none) {c : LedgerCall} {sc : ServiceCommand}
    (hc : command c = some sc) : s.alone reads c = s.exec sc := by
  have hnone : ∀ id, reads.fault id = none := fun id => by rw [hfault]
  cases c with
  | reserve r id intent sources ttl_secs =>
    obtain rfl := Option.some.inj hc
    simp only [alone, before_lock, exec, reserve]
    cases read_budgets r (accounts_of sources) with
    | error e => rfl
    | ok budgets => simp [Except.map, under_lock, hnone, reserve_owned_under_none]
  | reserve_rebate r id batch sources ttl_secs =>
    obtain rfl := Option.some.inj hc
    simp only [alone, before_lock, exec, reserve_rebate]
    cases read_budgets r (accounts_of sources) with
    | error e => rfl
    | ok budgets => simp [Except.map, under_lock, hnone, reserve_owned_under_none]
  | sweep_expired now_unix exclude =>
    obtain rfl := Option.some.inj hc
    simp only [alone, before_lock, under_lock, sweep_expired_under, exec, sweep_expired,
      elapsed_at, hfault, sweep_loop_under_none]
    rfl
  | sync_budgets answer =>
    obtain rfl := Option.some.inj hc
    cases answer with
    | error e => rfl
    | ok budgets => rfl
  | recover => cases hc
  | post id filled | commit id | void id | expire id | void_reorg id =>
    obtain rfl := Option.some.inj hc
    simp [alone, before_lock, under_lock, exec, unless_fault, hnone]

/-! ## Failures that are not seen -/

/-- The published snapshot is the ledger's. -/
def Current (s : LedgerService) : Prop :=
  s.snapshot = s.ledger.available_snapshot

theorem current_new (store : SqliteLedgerStore) : (new store).Current := by
  apply Std.ExtTreeMap.ext_getElem?
  intro a
  rw [get_available_snapshot]
  simp [new, Ledger.empty]

/-- Every account is listed alike and has the same room. -/
def SameRoom (l l' : Ledger) : Prop :=
  l'.available_snapshot = l.available_snapshot

/-- The engine or the store turns the reservation down. -/
def Refuses (s : LedgerService) (reads : LockedReads) (r : Reservation)
    (budgets : List (AccountKey × U256)) : Prop :=
  (feed s.ledger budgets).can_reserve r ≠ .ok () ∨ (reads.fault r.id).isSome ∨
    (SqliteLedgerStore.reserve s.store r).1 ≠ .ok ()

/-- The ledger with the holds `ids` expired. -/
def expire_all (l : Ledger) (ids : List ReservationId) : Ledger :=
  ids.foldl (fun l id => (l.expire id).2) l

/-- The budgets of a reservation's accounts cannot all be read. -/
def unreadable (reads : LockedReads) (r : Reservation) : Bool :=
  (read_budgets { now_unix := 0, budget := reads.budget } (accounts_of r.sources)).isOk = false

/-- The ledger with the reservations `found` replayed. -/
def replay_all (l : Ledger) (reads : LockedReads) (found : List Reservation) : Ledger :=
  (recover_loop l { now_unix := 0, budget := reads.budget } found).2

/-- Whatever the call did before it fails leaves the room of every account as it
    was: the budgets a refused reservation fed, the holds expired before the
    first fault of a sweep, the reservations replayed before the first whose
    budgets cannot be read. -/
def FailsUnseen (s : LedgerService) (reads : LockedReads) : LockedCall → Prop
  | .reserve_owned r budgets =>
    s.Refuses reads r budgets → SameRoom s.ledger (feed s.ledger budgets)
  | .sweep_expired now_unix exclude =>
    let expired := s.elapsed_at now_unix exclude
    (∃ id ∈ expired, (reads.fault id).isSome) →
      SameRoom s.ledger
        (expire_all s.ledger (expired.takeWhile fun id => (reads.fault id).isNone))
  | .recover found =>
    (∃ r ∈ found, unreadable reads r) →
      SameRoom s.ledger (replay_all s.ledger reads (found.takeWhile fun r => !unreadable reads r))
  | _ => True

end LedgerService

/-! ## Reservations under their own ids -/

namespace Ledger

def Keyed (l : Ledger) : Prop :=
  ∀ (id : ReservationId) (r : Reservation), l.reservations[id]? = some r → r.id = id

theorem Keyed.insert {l l' : Ledger} {r : Reservation} (h : l.Keyed)
    (hl : l'.reservations = l.reservations.insert r.id r) : l'.Keyed := by
  intro id q hq
  rw [hl, get_insert] at hq
  split at hq
  · rename_i hid
    obtain rfl := Option.some.inj hq
    exact hid
  · exact h id q hq

theorem Keyed.set_state {l l' : Ledger} {id : ReservationId} {r : Reservation}
    {state : ReservationState} (h : l.Keyed) (hr : l.reservations[id]? = some r)
    (hl : l'.reservations = l.set_state id r state) : l'.Keyed := by
  obtain rfl := h id r hr
  exact h.insert (r := { r with state }) hl

theorem Keyed.move {l l' : Ledger} (h : l.Keyed) (hmove : Move l l') : l'.Keyed := by
  match hmove with
  | .idle => exact h
  | .budgets _ => exact h
  | .commit id r hr _ => exact h.set_state hr rfl
  | .post id r filled hr _ _ => exact h.set_state hr rfl
  | .release id r terminal hr _ _ => exact h.set_state hr rfl
  | .reorg id r hr _ => exact h.set_state hr rfl

theorem Keyed.command {l : Ledger} (h : l.Keyed) {c : Command} (hc : c.Places = false) :
    (l.exec c).2.Keyed :=
  h.move (move_next l hc)

theorem Keyed.restore {l : Ledger} (h : l.Keyed) (r : Reservation) : (l.restore r).Keyed := by
  match hr : l.reservations[r.id]? with
  | some q => rw [restore_of_some hr]; exact h
  | none => rw [restore_of_none hr]; exact h.insert rfl

theorem Keyed.feed {l : Ledger} (h : l.Keyed) (budgets : List (AccountKey × U256)) :
    (LedgerService.feed l budgets).Keyed := by
  obtain ⟨fed, hfed⟩ := LedgerService.feed_eq l budgets
  rw [hfed]
  exact h

end Ledger

namespace LedgerService

variable {s : LedgerService} {reads : LockedReads}

/-! ## The step -/

theorem keyed_durable_first {store : SqliteLedgerStore} {answer : Except LedgerError Unit × Ledger}
    (h : answer.2.Keyed) : (s.durable_first store answer).2.ledger.Keyed := by
  match answer with
  | (.error e, ledger) => exact h
  | (.ok (), ledger) => exact h

theorem keyed_unless_fault {fault : Option LedgerStoreError}
    {call : Except SolventError Unit × LedgerService} (hs : s.ledger.Keyed)
    (hcall : call.2.ledger.Keyed) : (s.unless_fault fault call).2.ledger.Keyed := by
  match fault with
  | some e => exact hs
  | none => exact hcall

theorem keyed_reserve_owned (h : s.ledger.Keyed) (fault : Option LedgerStoreError)
    (r : Reservation) (budgets : List (AccountKey × U256)) :
    (s.reserve_owned_under fault r budgets).2.ledger.Keyed := by
  have hfed := h.feed budgets
  have hreserve : (s.reserve_owned r budgets).2.ledger.Keyed := by
    unfold reserve_owned
    simp only
    split
    · exact hfed
    · split
      · exact hfed
      · exact hfed.restore r
  unfold reserve_owned_under
  simp only
  split
  · exact hfed
  · exact keyed_unless_fault hfed hreserve

theorem keyed_sweep_loop (fault : ReservationId → Option LedgerStoreError)
    (ids : List ReservationId) (s : LedgerService) (h : s.ledger.Keyed) :
    (s.sweep_loop_under fault ids).2.ledger.Keyed := by
  induction ids generalizing s with
  | nil => exact h
  | cons id ids ih =>
    have hnext : (s.ledger.expire id).2.Keyed := h.command (c := .expire id) rfl
    unfold sweep_loop_under
    match fault id with
    | some e => exact h
    | none =>
      match hexp : s.ledger.expire id with
      | (.error e, ledger) => rw [hexp] at hnext; exact hnext
      | (.ok (), ledger) =>
        rw [hexp] at hnext
        have hrest := ih { s with store := SqliteLedgerStore.expire s.store id, ledger } hnext
        simp only
        split
        · rename_i e s' hloop
          rw [hloop] at hrest
          exact hrest
        · rename_i swept s' hloop
          rw [hloop] at hrest
          exact hrest

theorem keyed_recover_loop (reads : Reads) (found : List Reservation) (l : Ledger)
    (h : l.Keyed) : (recover_loop l reads found).2.Keyed := by
  induction found generalizing l with
  | nil => exact h
  | cons r rs ih =>
    unfold recover_loop
    split
    · exact h
    · exact ih _ ((h.feed _).restore r)

theorem keyed_under_lock (h : s.ledger.Keyed) (w : LockedCall) :
    (s.under_lock reads w).2.ledger.Keyed := by
  match w with
  | .reserve_owned r budgets => exact keyed_reserve_owned h _ r budgets
  | .post id filled =>
    exact keyed_unless_fault h (keyed_durable_first (h.command (c := .post id filled) rfl))
  | .commit id => exact keyed_unless_fault h (keyed_durable_first (h.command (c := .commit id) rfl))
  | .void id => exact keyed_unless_fault h (keyed_durable_first (h.command (c := .void id) rfl))
  | .expire id => exact keyed_unless_fault h (keyed_durable_first (h.command (c := .expire id) rfl))
  | .void_reorg id =>
    exact keyed_unless_fault h (keyed_durable_first (h.command (c := .void_reorg id) rfl))
  | .sweep_expired now_unix exclude =>
    have hloop := keyed_sweep_loop reads.fault (s.elapsed_at now_unix exclude) s h
    unfold under_lock sweep_expired_under
    simp only
    split
    · rename_i e s' heq
      rw [heq] at hloop
      exact hloop
    · rename_i swept s' heq
      rw [heq] at hloop
      split
      · exact hloop
      · exact hloop
  | .recover found =>
    have hloop := keyed_recover_loop { now_unix := 0, budget := reads.budget } found s.ledger h
    unfold under_lock recover_under
    simp only
    split
    · rename_i e ledger heq
      rw [heq] at hloop
      exact hloop
    · rename_i ledger heq
      rw [heq] at hloop
      exact hloop
  | .sync_budgets budgets => exact h.move (.budgets budgets)

/-- A call that republishes nothing is current as far as the rooms are unchanged. -/
theorem current_unpublished (hs : s.Current) {s' : LedgerService} {l : Ledger}
    (hsnapshot : s'.snapshot = s.snapshot) (hledger : s'.ledger = l) :
    s'.Current ↔ SameRoom s.ledger l := by
  unfold Current SameRoom
  rw [hsnapshot, hledger, hs]
  exact eq_comm

/-- The commands on one id change nothing when the engine refuses them. -/
theorem current_command (hs : s.Current) {fault : Option LedgerStoreError} {c : Command}
    {store : SqliteLedgerStore} :
    (s.unless_fault fault (s.durable_first store (s.ledger.exec c))).2.Current := by
  match fault with
  | some e => exact hs
  | none =>
    match h : s.ledger.exec c with
    | (.ok (), ledger) => rfl
    | (.error e, ledger) =>
      have hsame : ledger = s.ledger := by
        have hnext : s.ledger.next c = s.ledger := Ledger.next_of_error (by rw [h])
        simpa [Ledger.next, h] using hnext
      show s.snapshot = ledger.available_snapshot
      rw [hsame]
      exact hs

theorem current_reserve_owned (hs : s.Current) (r : Reservation)
    (budgets : List (AccountKey × U256)) :
    (s.reserve_owned_under (reads.fault r.id) r budgets).2.Current ↔
      (s.Refuses reads r budgets → SameRoom s.ledger (feed s.ledger budgets)) := by
  have hstale : (({ s with ledger := feed s.ledger budgets } : LedgerService)).Current ↔
      SameRoom s.ledger (feed s.ledger budgets) := current_unpublished hs rfl rfl
  unfold reserve_owned_under Refuses
  match hcan : (feed s.ledger budgets).can_reserve r with
  | .error e => simpa [hcan] using hstale
  | .ok () =>
    match hfault : reads.fault r.id with
    | some e => simpa [hcan, unless_fault] using hstale
    | none =>
      match hstore : SqliteLedgerStore.reserve s.store r with
      | (.ok (), store) =>
        simp [hcan, unless_fault, reserve_owned, hstore, Current, publish]
      | (.error e, store) =>
        have hsame : (({ s with ledger := feed s.ledger budgets, store } : LedgerService)).Current ↔
            SameRoom s.ledger (feed s.ledger budgets) := current_unpublished hs rfl rfl
        simpa [hcan, unless_fault, reserve_owned, hstore] using hsame

/-- The sweep expires the holds before the first fault, publishes nothing on
    the way and answers with an error as soon as there is a fault. -/
theorem sweep_loop_under_eq (fault : ReservationId → Option LedgerStoreError)
    {ids : List ReservationId} (hnodup : ids.Nodup) (hpending : s.AllPending ids) :
    (s.sweep_loop_under fault ids).2.ledger =
        expire_all s.ledger (ids.takeWhile fun id => (fault id).isNone) ∧
      (s.sweep_loop_under fault ids).2.snapshot = s.snapshot ∧
      ((s.sweep_loop_under fault ids).1.isOk = false ↔ ∃ id ∈ ids, (fault id).isSome) := by
  induction ids generalizing s with
  | nil => exact ⟨rfl, rfl, by simp [sweep_loop_under, Except.isOk, Except.toBool]⟩
  | cons id ids ih =>
    obtain ⟨hnotin, hrest⟩ := List.nodup_cons.mp hnodup
    cases hfault : fault id with
    | some e =>
      refine ⟨?_, ?_, ?_⟩
      · simp [sweep_loop_under, hfault, expire_all]
      · simp [sweep_loop_under, hfault]
      · simp [sweep_loop_under, hfault, Except.isOk, Except.toBool]
    | none =>
      obtain ⟨r, hr, hstate⟩ := hpending id (by simp)
      obtain ⟨r', hr', _, hexp⟩ | ⟨_, hno⟩ := Ledger.expire_cases s.ledger id
      · have hok : s.ledger.expire id = (.ok (), (s.ledger.expire id).2) := by rw [hexp]
        -- The later ids are not touched by expiring this one.
        have hstill : AllPending { s with
            store := SqliteLedgerStore.expire s.store id, ledger := (s.ledger.expire id).2 } ids := by
          intro k hk
          obtain ⟨q, hq, hqs⟩ := hpending k (by simp [hk])
          have hne : id ≠ k := fun e => hnotin (e ▸ hk)
          refine ⟨q, ?_, hqs⟩
          simp only [hexp, Ledger.set_state, get_insert, if_neg hne]
          exact hq
        obtain ⟨hledger, hsnapshot, hanswer⟩ := ih hrest hstill
        have hloop : ∃ swept, s.sweep_loop_under fault (id :: ids) =
            ((sweep_loop_under fault { s with
              store := SqliteLedgerStore.expire s.store id
              ledger := (s.ledger.expire id).2 } ids).1.map (swept ++ ·),
            (sweep_loop_under fault { s with
              store := SqliteLedgerStore.expire s.store id
              ledger := (s.ledger.expire id).2 } ids).2) := by
          refine ⟨((s.ledger.reservation id).bind fun r => r.owner.swap_intent).toList, ?_⟩
          rw [sweep_loop_under, hfault, hok]
          simp only
          rcases sweep_loop_under fault { s with
              store := SqliteLedgerStore.expire s.store id
              ledger := (s.ledger.expire id).2 } ids with ⟨e | swept, s'⟩
          · rfl
          · rfl
        obtain ⟨swept, hloop⟩ := hloop
        rw [hloop]
        refine ⟨?_, hsnapshot, ?_⟩
        · simpa [hfault, expire_all] using hledger
        · have hmap : ∀ x : Except SolventError (List IntentId),
              (x.map (swept ++ ·)).isOk = x.isOk := by
            intro x
            cases x with
            | error e => rfl
            | ok y => rfl
          rw [hmap, hanswer]
          simp [hfault]
      · exact absurd hstate (hno r hr)

/-- The replay stops at the first reservation whose budgets cannot be read. -/
theorem recover_loop_eq (reads : LockedReads) (found : List Reservation) (l : Ledger) :
    let loop := recover_loop l { now_unix := 0, budget := reads.budget } found
    loop.2 = replay_all l reads (found.takeWhile fun r => !unreadable reads r) ∧
      (loop.1.isOk = false ↔ ∃ r ∈ found, unreadable reads r) := by
  induction found generalizing l with
  | nil => exact ⟨rfl, by simp [recover_loop, Except.isOk, Except.toBool]⟩
  | cons r rs ih =>
    cases hread : read_budgets { now_unix := 0, budget := reads.budget }
        (accounts_of r.sources) with
    | error e =>
      have hun : unreadable reads r = true := by
        simp [unreadable, hread, Except.isOk, Except.toBool]
      simp [recover_loop, hread, hun, replay_all, Except.isOk, Except.toBool]
    | ok budgets =>
      have hun : unreadable reads r = false := by
        simp [unreadable, hread, Except.isOk, Except.toBool]
      obtain ⟨hledger, hanswer⟩ := ih ((feed l budgets).restore r)
      refine ⟨?_, ?_⟩
      · simpa [recover_loop, hread, hun, replay_all] using hledger
      · simpa [recover_loop, hread, hun] using hanswer

theorem current_sweep (hs : s.Current) (fault : ReservationId → Option LedgerStoreError)
    {ids : List ReservationId} (hnodup : ids.Nodup) (hpending : s.AllPending ids) :
    (s.sweep_expired_under fault ids).2.Current ↔
      ((∃ id ∈ ids, (fault id).isSome) →
        SameRoom s.ledger (expire_all s.ledger (ids.takeWhile fun id => (fault id).isNone))) := by
  obtain ⟨hledger, hsnapshot, hanswer⟩ := sweep_loop_under_eq fault hnodup hpending
  rw [← hanswer]
  unfold sweep_expired_under
  match hloop : s.sweep_loop_under fault ids with
  | (.error e, s') =>
    rw [hloop] at hledger hsnapshot
    have hstale : s'.Current ↔ _ := current_unpublished hs hsnapshot hledger
    simpa [Except.isOk, Except.toBool] using hstale
  | (.ok swept, s') =>
    have hcurrent : (if ids.isEmpty then s' else s'.publish).Current := by
      split
      · -- Nothing to expire: the loop did nothing.
        rename_i hempty
        obtain rfl := List.isEmpty_iff.mp hempty
        have hsame : s = s' := congrArg Prod.snd hloop
        rw [← hsame]
        exact hs
      · rfl
    simpa [Except.isOk, Except.toBool] using hcurrent

theorem current_recover (hs : s.Current) (reads : LockedReads) (found : List Reservation) :
    (s.recover_under reads found).2.Current ↔
      ((∃ r ∈ found, unreadable reads r) →
        SameRoom s.ledger
          (replay_all s.ledger reads (found.takeWhile fun r => !unreadable reads r))) := by
  obtain ⟨hledger, hanswer⟩ := recover_loop_eq reads found s.ledger
  rw [← hanswer]
  unfold recover_under
  match hloop : recover_loop s.ledger { now_unix := 0, budget := reads.budget } found with
  | (.error e, ledger) =>
    rw [hloop] at hledger
    have hstale : ({ s with ledger } : LedgerService).Current ↔ _ :=
      current_unpublished hs rfl hledger
    simpa [Except.isOk, Except.toBool] using hstale
  | (.ok (), ledger) =>
    simp [Except.isOk, Except.toBool, Current, publish]

/-- **Step lemma.** A call leaves the snapshot current exactly when its failure is
    not seen. -/
theorem current_under_lock (hs : s.Current) (hkeyed : s.ledger.Keyed) (w : LockedCall) :
    (s.under_lock reads w).2.Current ↔ s.FailsUnseen reads w := by
  match w with
  | .reserve_owned r budgets => exact current_reserve_owned hs r budgets
  | .post id filled => exact iff_of_true (current_command hs (c := .post id filled)) trivial
  | .commit id => exact iff_of_true (current_command hs (c := .commit id)) trivial
  | .void id => exact iff_of_true (current_command hs (c := .void id)) trivial
  | .expire id => exact iff_of_true (current_command hs (c := .expire id)) trivial
  | .void_reorg id => exact iff_of_true (current_command hs (c := .void_reorg id)) trivial
  | .sweep_expired now_unix exclude =>
    obtain ⟨hnodup, hpending⟩ := expired_allPending hkeyed now_unix exclude
    exact current_sweep hs reads.fault hnodup hpending
  | .recover found => exact current_recover hs reads found
  | .sync_budgets budgets => exact iff_of_true rfl trivial

end LedgerService

/-! ## Interleavings -/

/-- The service and the calls waiting for its lock. -/
structure LedgerCalls where
  service : LedgerService
  waiting : List LockedCall

/-- One step of the system: a call up to the lock, or a waiting call to its end. -/
inductive LedgerCallStep where
  | call (c : LedgerCall)
  | locked (i : ℕ) (reads : LockedReads)

namespace LedgerCalls

def next (s : LedgerCalls) : LedgerCallStep → LedgerCalls
  | .call c =>
    match s.service.before_lock c with
    | .error _ => s
    | .ok w => { s with waiting := s.waiting ++ [w] }
  | .locked i reads =>
    match s.waiting[i]? with
    | none => s
    | some w =>
      { service := (s.service.under_lock reads w).2, waiting := s.waiting.eraseIdx i }

/-- A new process over a store. -/
def new (store : SqliteLedgerStore) : LedgerCalls :=
  { service := .new store, waiting := [] }

/-- The waiting call, if it now runs and fails, is not seen to have. -/
def FailsUnseen (s : LedgerCalls) : LedgerCallStep → Prop
  | .call _ => True
  | .locked i reads => ∀ w, s.waiting[i]? = some w → s.service.FailsUnseen reads w

/-- A step leaves the service alone, or runs one waiting call under the lock. -/
theorem next_cases (s : LedgerCalls) (step : LedgerCallStep) :
    ((s.next step).service = s.service ∧ s.FailsUnseen step) ∨
    ∃ reads w, (s.next step).service = (s.service.under_lock reads w).2 ∧
      (s.FailsUnseen step ↔ s.service.FailsUnseen reads w) := by
  match step with
  | .call c =>
    left
    refine ⟨?_, trivial⟩
    simp only [next]
    split
    · rfl
    · rfl
  | .locked i reads =>
    match hw : s.waiting[i]? with
    | none => exact .inl ⟨by simp [next, hw], by simp [FailsUnseen, hw]⟩
    | some w => exact .inr ⟨reads, w, by simp [next, hw], by simp [FailsUnseen, hw]⟩

theorem keyed_next {s : LedgerCalls} (h : s.service.ledger.Keyed) (step : LedgerCallStep) :
    (s.next step).service.ledger.Keyed := by
  obtain ⟨hsame, _⟩ | ⟨reads, w, hran, _⟩ := s.next_cases step
  · rw [hsame]
    exact h
  · rw [hran]
    exact LedgerService.keyed_under_lock h w

theorem current_next {s : LedgerCalls} (hs : s.service.Current) (hkeyed : s.service.ledger.Keyed)
    (step : LedgerCallStep) : (s.next step).service.Current ↔ s.FailsUnseen step := by
  obtain ⟨hsame, hunseen⟩ | ⟨reads, w, hran, hunseen⟩ := s.next_cases step
  · rw [hsame]
    exact iff_of_true hs hunseen
  · rw [hran, hunseen]
    exact LedgerService.current_under_lock hs hkeyed w

/-- **Run lemma.** From a current snapshot, it stays current throughout exactly when
    no failure on the way is seen. -/
theorem current_throughout {s : LedgerCalls} (hs : s.service.Current)
    (hkeyed : s.service.ledger.Keyed) (steps : List LedgerCallStep) :
    (∀ before after, steps = before ++ after → (Run.run next s before).service.Current) ↔
      Run.Along next FailsUnseen s steps := by
  induction steps generalizing s with
  | nil =>
    refine iff_of_true ?_ trivial
    intro before after h
    obtain ⟨rfl, _⟩ := List.append_eq_nil_iff.mp h.symm
    exact hs
  | cons step steps ih =>
    have hstep := current_next hs hkeyed step
    constructor
    · intro h
      have hnext : (s.next step).service.Current := h [step] steps rfl
      refine ⟨hstep.mp hnext, (ih hnext (keyed_next hkeyed step)).mp ?_⟩
      intro before after heq
      exact h (step :: before) after (by rw [heq]; rfl)
    · intro ⟨hunseen, hrest⟩ before after heq
      have hnext := hstep.mpr hunseen
      match before with
      | [] => exact hs
      | b :: before =>
        obtain ⟨rfl, hsteps⟩ := List.cons.inj heq
        exact (ih hnext (keyed_next hkeyed _)).mpr hrest before after hsteps

/-- **The published snapshot is the ledger's** between any two calls under the lock,
    in exactly the runs in which no call that fails has changed a room first. -/
theorem snapshot_is_current (store : SqliteLedgerStore) (steps : List LedgerCallStep) :
    (∀ before after, steps = before ++ after →
      let s := (Run.run next (new store) before).service
      s.snapshot = s.ledger.available_snapshot) ↔
      Run.Along next FailsUnseen (new store) steps := by
  have hkeyed : (new store).service.ledger.Keyed := by
    intro id r hr
    simp [new, LedgerService.new, Ledger.empty] at hr
  exact current_throughout (s := new store) (LedgerService.current_new store) hkeyed steps

/-- A book of one source with room for 100, and a reservation of 50 that finds only
    40 in the wallet. -/
def sample_refusal : List LedgerCallStep :=
  let reads : LockedReads := { fault := fun _ => none, budget := fun _ => .ok 0 }
  let wallet : AccountKey := .WalletBudget ⟨1⟩ 1
  let source : ReservationSource :=
    { maker := ⟨1⟩, strategy_hash := ⟨1⟩, token := 1, amount := 50 }
  let book := source.accounts.foldl (fun (m : BTreeMap AccountKey U256) a => m.insert a 100) ∅
  [.call (.sync_budgets (.ok book)), .locked 0 reads,
    .call (.reserve { now_unix := 0, budget := fun a => .ok (if a = wallet then 40 else 100) }
      ⟨1⟩ ⟨1⟩ [source] 60),
    .locked 0 reads]

/-- The refused reservation leaves a room of 40 in the ledger and of 100 in the
    published snapshot. -/
theorem refused_reserve_is_not_published :
    let s := (Run.run next (new ∅) sample_refusal).service
    let wallet : AccountKey := .WalletBudget ⟨1⟩ 1
    s.ledger.available wallet = 40 ∧ s.available wallet = 100 ∧
      s.snapshot ≠ s.ledger.available_snapshot := by
  intro s wallet
  have hledger : s.ledger.available wallet = 40 := by decide +kernel
  have hpublished : s.available wallet = 100 := by decide +kernel
  refine ⟨hledger, hpublished, ?_⟩
  intro hsame
  have hroom : s.available wallet = s.ledger.available wallet := by
    rw [← get_or_available_snapshot, ← hsame]
    rfl
  rw [hledger, hpublished] at hroom
  exact absurd hroom (by decide)

end LedgerCalls

end Solvent
