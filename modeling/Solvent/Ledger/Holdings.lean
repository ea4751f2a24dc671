import Solvent.Ledger.Covered
import Solvent.Ledger.Evolution
import Solvent.Ledger.Published

/-! # Which reservations are open

    What the services above the ledger hold in it: the open reservation under each
    id, in memory and in the store. A call on one id leaves every other id as it
    was; one lemma per call says what it makes of its own id.
-/

namespace Solvent

open BTreeMap

namespace LedgerService

variable {s s' s'' : LedgerService} {id : ReservationId}

/-- The open reservation in memory. -/
def held (s : LedgerService) (id : ReservationId) : Option Reservation :=
  (s.ledger.reservations[id]?).filter fun r => r.state.is_open

/-- The open reservation in the store. -/
def stored (s : LedgerService) (id : ReservationId) : Option Reservation :=
  ((s.store[id]?).map fun row => row.reservation id).filter fun r => r.state.is_open

/-- What an id has in both halves. -/
structure SameAt (id : ReservationId) (s s' : LedgerService) : Prop where
  memory : s'.ledger.reservations[id]? = s.ledger.reservations[id]?
  store : s'.store[id]? = s.store[id]?

/-- Only one id changes. -/
def Touches (id : ReservationId) (s s' : LedgerService) : Prop :=
  ∀ k, k ≠ id → SameAt k s s'

theorem SameAt.refl (id : ReservationId) (s : LedgerService) : SameAt id s s := ⟨rfl, rfl⟩

theorem SameAt.trans (h : SameAt id s s') (h' : SameAt id s' s'') : SameAt id s s'' :=
  ⟨h'.memory.trans h.memory, h'.store.trans h.store⟩

theorem SameAt.held (h : SameAt id s s') : s'.held id = s.held id := by
  rw [LedgerService.held, LedgerService.held, h.memory]

theorem SameAt.stored (h : SameAt id s s') : s'.stored id = s.stored id := by
  rw [LedgerService.stored, LedgerService.stored, h.store]

theorem held_eq_some {r : Reservation} :
    s.held id = some r ↔ s.ledger.reservations[id]? = some r ∧ r.state.is_open = true :=
  Option.filter_eq_some_iff

theorem stored_eq_some {r : Reservation} :
    s.stored id = some r ↔
      (∃ row, s.store[id]? = some row ∧ row.reservation id = r) ∧ r.state.is_open = true := by
  rw [stored, Option.filter_eq_some_iff, Option.map_eq_some_iff]

/-- A pending reservation has its sources read. -/
theorem reservation_sources_eq :
    s.reservation_sources id =
      ((s.held id).filter fun r => r.state = .Pending).map Reservation.sources := by
  unfold reservation_sources held Ledger.reservation
  cases s.ledger.reservations[id]? with
  | none => rfl
  | some r => cases hstate : r.state <;> simp [Option.filter_some, hstate, ReservationState.is_open]

/-- Every reservation in memory stays under its own id. -/
theorem keyed_next (c : ServiceCommand) (h : s.ledger.Keyed) : (s.next c).ledger.Keyed := by
  have hadmissions := admissions_exec s c
  generalize (s.next c).ledger = l at hadmissions ⊢
  induction hadmissions with
  | refl => exact h
  | tail _ hstep ih =>
    cases hstep with
    | move hmove => exact ih.move hmove
    | place r hok hopen => exact ih.restore r

/-! ## Calls on a known id -/

theorem touches_update {from_states : List ReservationState} {change : LedgerRow → LedgerRow}
    {r : Reservation} {state : ReservationState}
    (hstore : s'.store = SqliteLedgerStore.update_where s.store id from_states change)
    (hledger : s'.ledger.reservations = s.ledger.reservations ∨
      s'.ledger.reservations = s.ledger.set_state id r state) : Touches id s s' := by
  intro k hk
  refine ⟨?_, ?_⟩
  · rcases hledger with heq | heq
    · rw [heq]
    · rw [heq, Ledger.set_state, get_insert_ne _ _ (Ne.symm hk)]
  · rw [hstore, get_update_where, if_neg (Ne.symm hk)]

/-- An update that fires from every open state it finds leaves none. -/
theorem stored_update {from_states : List ReservationState} {change : LedgerRow → LedgerRow}
    (hstore : s'.store = SqliteLedgerStore.update_where s.store id from_states change)
    (hclosed : ∀ row, (change row).state.is_open = false)
    (hfrom : ∀ r, s.stored id = some r → r.state ∈ from_states) : s'.stored id = none := by
  unfold stored
  rw [hstore, get_update_where, if_pos rfl]
  cases hrow : s.store[id]? with
  | none => rfl
  | some row =>
    by_cases hmem : row.state ∈ from_states
    · have hclosed' : ((change row).reservation id).state.is_open = false := hclosed row
      simp [hmem, Option.filter_some, hclosed']
    · have hshut : (row.reservation id).state.is_open = false := by
        by_contra hopen
        have hsome : s.stored id = some (row.reservation id) :=
          stored_eq_some.mpr ⟨⟨row, hrow, rfl⟩, by simpa using hopen⟩
        exact hmem (hfrom _ hsome)
      simp [hmem, Option.filter_some, hshut]

theorem held_set_state {r : Reservation} {state : ReservationState}
    (hledger : s'.ledger.reservations = s.ledger.set_state id r state)
    (hclosed : state.is_open = false) : s'.held id = none := by
  unfold held
  rw [hledger, Ledger.set_state, get_insert, if_pos rfl, Option.filter_some]
  exact if_neg (by simp [hclosed])

theorem mem_open_states {state : ReservationState} (h : state.is_open = true) :
    state ∈ [ReservationState.Pending, .Committed] := by
  cases state <;> simp [ReservationState.is_open] at h ⊢

/-- Nothing is open under an id any more, and no other id has changed. -/
structure Closes (id : ReservationId) (s s' : LedgerService) : Prop where
  held : s'.held id = none
  stored : s'.stored id = none
  others : Touches id s s'
  keyed : s.ledger.Keyed → s'.ledger.Keyed

/-- What is left was there before. -/
theorem Closes.held_of {k : ReservationId} {r : Reservation} (h : Closes id s s')
    (hr : s'.held k = some r) : s.held k = some r := by
  by_cases hk : k = id
  · rw [hk, h.held] at hr
    cases hr
  · exact (h.others k hk).held.symm.trans hr

theorem Closes.stored_of {k : ReservationId} {r : Reservation} (h : Closes id s s')
    (hr : s'.stored k = some r) : s.stored k = some r := by
  by_cases hk : k = id
  · rw [hk, h.stored] at hr
    cases hr
  · exact (h.others k hk).stored.symm.trans hr

theorem void_closes {r : Reservation} (h : s.held id = some r) :
    ∃ s', s.void id = (.ok (), s') ∧ Closes id s s' := by
  obtain ⟨hr, hopen⟩ := held_eq_some.mp h
  rcases Ledger.void_cases s.ledger id with ⟨r', hr', -, heq⟩ | ⟨-, hclosed⟩
  · refine ⟨_, by unfold LedgerService.void durable_first; rw [heq], ?_, ?_, ?_, fun hkeyed =>
      hkeyed.set_state hr' rfl⟩
    · exact held_set_state (s := s) (r := r') rfl rfl
    · exact stored_update (s := s) rfl (fun _ => rfl) fun r hr =>
        mem_open_states (stored_eq_some.mp hr).2
    · exact touches_update (s := s) rfl (.inr rfl)
  · rw [hclosed r hr] at hopen
    cases hopen

theorem expire_closes {r : Reservation} (h : s.held id = some r) (hpending : r.state = .Pending)
    (hstored : ∀ r, s.stored id = some r → r.state = .Pending) :
    ∃ s', s.expire id = (.ok (), s') ∧ Closes id s s' := by
  obtain ⟨hr, -⟩ := held_eq_some.mp h
  rcases Ledger.expire_cases s.ledger id with ⟨r', hr', -, heq⟩ | ⟨-, hclosed⟩
  · refine ⟨_, by unfold LedgerService.expire durable_first; rw [heq], ?_, ?_, ?_, fun hkeyed =>
      hkeyed.set_state hr' rfl⟩
    · exact held_set_state (s := s) (r := r') rfl rfl
    · exact stored_update (s := s) rfl (fun _ => rfl) fun r hr =>
        List.mem_singleton.mpr (hstored r hr)
    · exact touches_update (s := s) rfl (.inr rfl)
  · exact absurd hpending (hclosed r hr)

theorem post_closes {r : Reservation} {filled : List U256} (h : s.held id = some r)
    (hfills : FillsWithin r.sources filled) :
    ∃ s', s.post id filled = (.ok (), s') ∧ Closes id s s' := by
  obtain ⟨hr, hopen⟩ := held_eq_some.mp h
  rcases Ledger.post_cases s.ledger id filled with ⟨r', hr', -, -, heq⟩ | ⟨-, hrefused⟩
  · refine ⟨_, by unfold LedgerService.post durable_first; rw [heq], ?_, ?_, ?_, fun hkeyed =>
      hkeyed.set_state hr' rfl⟩
    · exact held_set_state (s := s) (r := r') rfl rfl
    · exact stored_update (s := s) rfl (fun _ => rfl) fun r hr =>
        mem_open_states (stored_eq_some.mp hr).2
    · exact touches_update (s := s) rfl (.inr rfl)
  · exact absurd hfills (hrefused r hr hopen)

/-! ## Reserve -/

/-- **What a reserve does.** It is refused and no id changes, or its own id, of
    which memory knew nothing, has the reservation open in both halves. -/
theorem reserve_owned_cases (s : LedgerService) {r : Reservation} (hpending : r.state = .Pending)
    (budgets : List (AccountKey × U256)) :
    (∃ e s', s.reserve_owned r budgets = (.error e, s') ∧ ∀ k, SameAt k s s') ∨
      ∃ s', s.reserve_owned r budgets = (.ok (), s') ∧ s.ledger.reservations[r.id]? = none ∧
        s'.held r.id = some r ∧ s'.stored r.id = some r ∧ Touches r.id s s' := by
  obtain ⟨fed, hfed⟩ := feed_eq s.ledger budgets
  have hopen : r.state.is_open = true := by rw [hpending]; rfl
  simp only [reserve_owned, hfed]
  cases hcan : Ledger.can_reserve { s.ledger with budgets := fed } r with
  | error e => exact .inl ⟨_, _, rfl, fun _ => ⟨rfl, rfl⟩⟩
  | ok u =>
    have hnew : s.ledger.reservations[r.id]? = none := (Ledger.can_reserve_ok hcan).1
    have hrestore := Ledger.restore_of_none (l := { s.ledger with budgets := fed }) (r := r) hnew
    have hheld : ∀ store snapshot,
        held ⟨Ledger.restore { s.ledger with budgets := fed } r, store, snapshot⟩ r.id = some r := by
      intro store snapshot
      refine held_eq_some.mpr ⟨?_, hopen⟩
      show (Ledger.restore { s.ledger with budgets := fed } r).reservations[r.id]? = some r
      rw [hrestore, get_insert, if_pos rfl]
    have hmemory : ∀ k, k ≠ r.id →
        (Ledger.restore { s.ledger with budgets := fed } r).reservations[k]? =
          s.ledger.reservations[k]? := by
      intro k hk
      rw [hrestore, get_insert_ne _ _ (Ne.symm hk)]
    simp only
    unfold SqliteLedgerStore.reserve
    unfold i64_of
    by_cases hfits : r.expires_at.val < 2 ^ 63
    · rw [dif_pos hfits]
      cases hrow : s.store[r.id]? with
      | none =>
        refine .inr ⟨_, rfl, hnew, hheld _ _, ?_, ?_⟩
        · refine stored_eq_some.mpr ⟨⟨_, (get_insert _ _ _ _).trans (if_pos rfl), ?_⟩, hopen⟩
          cases r
          cases hpending
          rfl
        · exact fun k hk => ⟨hmemory k hk, get_insert_ne _ _ (Ne.symm hk)⟩
      | some row =>
        dsimp only
        by_cases hsame : row.state = .Pending ∧ row.owner = r.owner ∧ row.sources = r.sources ∧
            row.expires_at = ⟨r.expires_at.val, hfits⟩
        · rw [if_pos hsame]
          refine .inr ⟨_, rfl, hnew, hheld _ _, ?_, ?_⟩
          · refine stored_eq_some.mpr ⟨⟨row, hrow, ?_⟩, hopen⟩
            obtain ⟨hstate, howner, hsources, hexpires⟩ := hsame
            obtain ⟨owner, sources, state, filled, expires_at⟩ := row
            cases hexpires
            cases r
            cases hpending
            cases hstate
            cases howner
            cases hsources
            rfl
          · exact fun k hk => ⟨hmemory k hk, rfl⟩
        · rw [if_neg hsame]
          exact .inl ⟨_, _, rfl, fun _ => ⟨rfl, rfl⟩⟩
    · rw [dif_neg hfits]
      exact .inl ⟨_, _, rfl, fun _ => ⟨rfl, rfl⟩⟩

theorem reserve_rebate_cases (s : LedgerService) (reads : Reads) (id : ReservationId)
    (batch : RebateBatchId) (sources : List ReservationSource) (ttl_secs : U64) :
    (∃ e s', s.reserve_rebate reads id batch sources ttl_secs = (.error e, s') ∧
        ∀ k, SameAt k s s') ∨
      ∃ s' r, s.reserve_rebate reads id batch sources ttl_secs = (.ok (), s') ∧
        r.owner = .Rebate batch ∧ r.sources = sources ∧ r.state = .Pending ∧
        s'.held id = some r ∧ s'.stored id = some r ∧ Touches id s s' := by
  unfold reserve_rebate
  cases read_budgets reads (accounts_of sources) with
  | error e => exact .inl ⟨e, s, rfl, fun k => .refl k s⟩
  | ok budgets =>
    rcases reserve_owned_cases s (r := .for_rebate id batch sources
      (reads.now_unix.saturating_add ttl_secs)) rfl budgets with hrefused | ⟨s', hok, -, hheld, hstored, hothers⟩
    · exact .inl hrefused
    · exact .inr ⟨s', _, hok, rfl, rfl, rfl, hheld, hstored, hothers⟩

/-! ## Restart -/

/-- A reservation is restored under its own id, unless the id is known. -/
theorem get_feed_restore (l : Ledger) (budgets : List (AccountKey × U256)) (r : Reservation)
    (id : ReservationId) : ((feed l budgets).restore r).reservations[id]? =
      (l.reservations[id]?).or (if r.id = id then some r else none) := by
  obtain ⟨fed, hfed⟩ := feed_eq l budgets
  rw [hfed]
  cases hr : l.reservations[r.id]? with
  | none =>
    rw [Ledger.restore_of_none (by exact hr), get_insert]
    by_cases hid : r.id = id
    · subst hid
      rw [if_pos rfl, if_pos rfl, hr]
      rfl
    · rw [if_neg hid, if_neg hid, Option.or_none]
  | some q =>
    rw [Ledger.restore_of_some (s := q) (by exact hr)]
    by_cases hid : r.id = id
    · subst hid
      rw [if_pos rfl, hr]
      rfl
    · rw [if_neg hid, Option.or_none]

/-- A replay that ends has added the first reservation of each id. -/
theorem recover_loop_of_ok {reads : Reads} {rs : List Reservation} {l l' : Ledger}
    (h : recover_loop l reads rs = (.ok (), l')) (id : ReservationId) :
    l'.reservations[id]? = (l.reservations[id]?).or (rs.find? fun r => r.id = id) := by
  induction rs generalizing l with
  | nil =>
    obtain ⟨-, rfl⟩ := Prod.mk.inj h
    rw [List.find?_nil, Option.or_none]
  | cons r rs ih =>
    unfold recover_loop at h
    split at h
    · cases (Prod.mk.inj h).1
    · rw [ih h, get_feed_restore, Option.or_assoc, List.find?_cons]
      by_cases hid : r.id = id <;> simp [hid]

/-- **Recovery.** A fresh service over a store holds what the store has open, if it
    recovers at all. -/
theorem recover_of_ok {store : SqliteLedgerStore} {reads : Reads}
    (h : (new store).recover reads = (.ok (), s')) :
    s'.store = store ∧ (∀ id, s'.held id = s'.stored id) ∧ s'.ledger.Keyed := by
  have hkeyed := keyed_recover_loop reads (SqliteLedgerStore.open_reservations store) .empty
    fun id r hr => by cases (show (none : Option Reservation) = some r from hr)
  unfold recover at h
  split at h
  · cases (Prod.mk.inj h).1
  · rename_i l hloop
    obtain ⟨-, rfl⟩ := Prod.mk.inj h
    refine ⟨rfl, fun id => ?_, ?_⟩
    · have hget := recover_loop_of_ok hloop id
      rw [show (new store).ledger.reservations[id]? = none from Std.ExtTreeMap.getElem?_empty, Option.none_or]
        at hget
      show (l.reservations[id]?).filter _ = ((store[id]?).map fun row => row.reservation id).filter _
      rw [hget]
      rw [show (new store).store = store from rfl, find_open_reservations, Option.filter_filter]
      congr 1
      funext r
      simp
    · rw [show recover_loop .empty reads (SqliteLedgerStore.open_reservations store) = (.ok (), l)
        from hloop] at hkeyed
      exact hkeyed

/-- With every budget read, it does. -/
theorem recover_succeeds (store : SqliteLedgerStore) {reads : Reads}
    (hreads : ∀ a, ∃ budget, reads.budget a = .ok budget) :
    ∃ s', (new store).recover reads = (.ok (), s') := by
  obtain ⟨l, hloop, -⟩ := recover_loop_reservations hreads (SqliteLedgerStore.open_reservations store)
    .empty
  exact ⟨publish { new store with ledger := l }, by simp only [recover, new, hloop]⟩

end LedgerService

end Solvent
