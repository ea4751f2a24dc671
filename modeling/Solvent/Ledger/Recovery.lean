import Mathlib
import Solvent.Ledger.Covered

/-! # Restart and recovery

    A restarted service replays the durably open reservations into an empty
    ledger. What it gets back is exactly the open part of the old ledger: its
    closed reservations, what they consumed and the fills they recorded are not
    rebuilt.
-/

namespace Solvent

open BTreeMap

namespace Ledger

/-! ## Ledgers made of open reservations only -/

/-- Every recorded reservation still holds its capital. -/
def AllOpen (l : Ledger) : Prop :=
  ∀ (id : ReservationId) (r : Reservation), l.reservations[id]? = some r → r.state.is_open = true

/-- Some recorded reservation names the account. -/
def Touched (l : Ledger) (a : AccountKey) : Prop :=
  ∃ (id : ReservationId) (r : Reservation), l.reservations[id]? = some r ∧
    ∃ s ∈ r.sources, a ∈ s.accounts

/-- The compartments are those that placing the recorded reservations, in any
    order, leaves behind. -/
structure Rebuilt (l : Ledger) : Prop where
  keys : ∀ a, (l.held[a]?).isSome ↔ l.Touched a
  pending : ∀ a, (l.pending a).val = min (l.open_demand a) (2 ^ 256 - 1)
  consumed : ∀ a, l.consumed a = 0
  filled : l.filled = ∅

theorem isSome_aggregate_demand (sources : List ReservationSource) (a : AccountKey) :
    ((aggregate_demand sources)[a]?).isSome ↔ ∃ s ∈ sources, a ∈ s.accounts := by
  have hfold := isSome_foldl_entry (fun d : AccountKey × U256 => d.1) 0
    (fun d sum => U256.saturating_add sum d.2) (demand_entries sources) ∅ a
  unfold aggregate_demand
  refine Iff.trans hfold ?_
  simp only [demand_entries, Std.ExtTreeMap.getElem?_empty, Option.isSome_none, Bool.false_eq_true,
    false_or, List.mem_flatMap, List.mem_map]
  constructor
  · intro h
    obtain ⟨d, ⟨s, hs, b, hb, rfl⟩, hd⟩ := h
    exact ⟨s, hs, hd ▸ hb⟩
  · intro h
    obtain ⟨s, hs, ha⟩ := h
    exact ⟨(a, s.amount), ⟨s, hs, a, ha, rfl⟩, rfl⟩

theorem isSome_restore_steps (held : BTreeMap AccountKey Held)
    (sources : List ReservationSource) (a : AccountKey) :
    ((apply_steps held (restore_steps sources))[a]?).isSome ↔
      (held[a]?).isSome ∨ ∃ s ∈ sources, a ∈ s.accounts := by
  have hfold := isSome_foldl_entry (fun u : AccountKey × HoldStep => u.1) Held.default
    (fun u => u.2.apply) (restore_steps sources) held a
  refine Iff.trans hfold ?_
  rw [← isSome_aggregate_demand]
  refine or_congr Iff.rfl ?_
  simp only [restore_steps, List.mem_map]
  constructor
  · intro h
    obtain ⟨u, ⟨d, hd, rfl⟩, ha⟩ := h
    obtain ⟨k, v⟩ := d
    simp only at ha
    subst ha
    rw [Std.ExtTreeMap.mem_toList_iff_getElem?_eq_some.mp hd]
    rfl
  · intro h
    obtain ⟨v, hv⟩ := Option.isSome_iff_exists.mp h
    exact ⟨(a, .hold v), ⟨(a, v), Std.ExtTreeMap.mem_toList_iff_getElem?_eq_some.mpr hv, rfl⟩, rfl⟩

theorem rebuilt_empty : empty.Rebuilt where
  keys := by
    intro a
    simp [empty, Touched]
  pending := by
    intro a
    simp [Ledger.pending, held_at, open_demand, empty, Held.default]
  consumed := by
    intro a
    simp [Ledger.consumed, held_at, empty, Held.default]
  filled := rfl

/-- Moving one reservation names no new account. -/
theorem touched_set_state {l : Ledger} {id : ReservationId} {r : Reservation}
    (hr : l.reservations[id]? = some r) (state : ReservationState) (a : AccountKey) :
    Touched { l with reservations := l.set_state id r state } a ↔ l.Touched a := by
  unfold Touched set_state
  constructor
  · intro h
    obtain ⟨k, q, hq, hs⟩ := h
    simp only [get_insert] at hq
    by_cases hk : id = k
    · rw [if_pos hk] at hq
      obtain rfl := Option.some.inj hq
      exact ⟨id, r, hr, hs⟩
    · rw [if_neg hk] at hq
      exact ⟨k, q, hq, hs⟩
  · intro h
    obtain ⟨k, q, hq, hs⟩ := h
    by_cases hk : id = k
    · subst hk
      rw [hr] at hq
      obtain rfl := Option.some.inj hq
      exact ⟨id, { r with state }, by simp, hs⟩
    · exact ⟨k, q, by simp [get_insert, hk, hq], hs⟩

theorem touched_insert {l : Ledger} {r : Reservation} (hnew : l.reservations[r.id]? = none)
    (held : BTreeMap AccountKey Held) (a : AccountKey) :
    Touched { l with held, reservations := l.reservations.insert r.id r } a ↔
      l.Touched a ∨ ∃ s ∈ r.sources, a ∈ s.accounts := by
  unfold Touched
  constructor
  · intro h
    obtain ⟨k, q, hq, hs⟩ := h
    simp only [get_insert] at hq
    by_cases hk : r.id = k
    · rw [if_pos hk] at hq
      obtain rfl := Option.some.inj hq
      exact Or.inr hs
    · rw [if_neg hk] at hq
      exact Or.inl ⟨k, q, hq, hs⟩
  · intro h
    rcases h with ⟨k, q, hq, hs⟩ | hs
    · have hk : r.id ≠ k := by
        intro e
        rw [← e, hnew] at hq
        simp at hq
      exact ⟨k, q, by simp [get_insert, hk, hq], hs⟩
    · exact ⟨r.id, r, by simp, hs⟩

/-- A closed state recorded at `id` is a recorded reservation that is not open. -/
theorem not_allOpen_set_state {l : Ledger} {id : ReservationId} {r : Reservation}
    {state : ReservationState} (hclosed : state.is_open = false) {l' : Ledger}
    (hl' : l'.reservations = l.set_state id r state) : ¬ l'.AllOpen := by
  intro h
  have := h id { r with state } (by simp [hl', set_state])
  simp [hclosed] at this

/-- **Rebuild step.** As long as nothing is closed, the ledger is rebuilt from
    its reservations. -/
theorem rebuilt_of_effect {l l' : Ledger} (hl : l.AllOpen → l.Rebuilt) (h : Effect l l')
    (hopen : l'.AllOpen) : l'.Rebuilt := by
  cases h with
  | place r hnew hstate =>
    have hbefore : l.AllOpen := by
      intro k q hq
      have hk : r.id ≠ k := by
        intro e
        rw [← e, hnew] at hq
        simp at hq
      exact hopen k q (by simp [get_insert, hk, hq])
    have hb := hl hbefore
    refine ⟨?_, ?_, ?_, hb.filled⟩
    · intro a
      rw [touched_insert hnew, ← hb.keys a]
      exact isSome_restore_steps l.held r.sources a
    · intro a
      obtain ⟨hpend, _⟩ := restore_held l.held r.sources a
      have hold : (get_or l.held a Held.default).pending.val = _ := hb.pending a
      rw [open_demand_insert _ hnew hstate]
      show (get_or (apply_steps l.held _) a Held.default).pending.val = _
      omega
    · intro a
      rw [← hb.consumed a]
      exact (restore_held l.held r.sources a).2
  | move h =>
    cases h with
    | idle => exact hl hopen
    | budgets budgets =>
      have hb := hl hopen
      exact ⟨hb.keys, hb.pending, hb.consumed, hb.filled⟩
    | commit id r hr hstate =>
      have hbefore : l.AllOpen := by
        intro k q hq
        by_cases hk : id = k
        · subst hk
          rw [hr] at hq
          obtain rfl := Option.some.inj hq
          simp [hstate, ReservationState.is_open]
        · exact hopen k q (by simp [set_state, get_insert, hk, hq])
      have hb := hl hbefore
      refine ⟨?_, ?_, hb.consumed, hb.filled⟩
      · intro a
        rw [touched_set_state hr, ← hb.keys a]
      · intro a
        have hsum := open_demand_set_state hr .Committed l.held l.filled a
        rw [hstate, if_pos (by decide), if_pos (by decide)] at hsum
        have hold := hb.pending a
        show (l.pending a).val = _
        omega
    | post id r filled hr hstate hfills =>
      exact absurd hopen (not_allOpen_set_state (by decide) rfl)
    | release id r terminal hr hstate hterm =>
      refine absurd hopen (not_allOpen_set_state ?_ rfl)
      rcases hterm with h | h <;> simp [h, ReservationState.is_open]
    | reorg id r hr hstate =>
      exact absurd hopen (not_allOpen_set_state (by decide) rfl)

/-- Any number of effects. -/
abbrev Effects : Ledger → Ledger → Prop := Relation.ReflTransGen Effect

theorem effects_of_admissions {l l' : Ledger} (h : Admissions l l') : Effects l l' :=
  Relation.ReflTransGen.mono (fun _ _ => effect_of_admitted) _ _ h

theorem recordsPosted_of_effects {l : Ledger} (h : Effects empty l) : l.RecordsPosted := by
  induction h with
  | refl => exact conserves_empty.filled
  | tail _ hstep ih => exact filled_of_effect ih hstep

theorem rebuilt_of_effects {l : Ledger} (h : Effects empty l) (hopen : l.AllOpen) :
    l.Rebuilt := by
  have hinv : l.AllOpen → l.Rebuilt := by
    clear hopen
    induction h with
    | refl => exact fun _ => rebuilt_empty
    | tail _ hstep ih => exact rebuilt_of_effect ih hstep
  exact hinv hopen

/-- Two rebuilt ledgers with the same reservations have the same compartments. -/
theorem held_eq_of_rebuilt {l l' : Ledger} (hl : l.Rebuilt) (hl' : l'.Rebuilt)
    (hres : l'.reservations = l.reservations) : l'.held = l.held := by
  apply Std.ExtTreeMap.ext_getElem?
  intro a
  have hkeys : (l'.held[a]?).isSome ↔ (l.held[a]?).isSome := by
    rw [hl.keys, hl'.keys]
    unfold Touched
    rw [hres]
  have hsame : l'.held_at a = l.held_at a := by
    have hpend : l'.pending a = l.pending a := by
      apply Fin.ext
      rw [hl.pending, hl'.pending]
      unfold open_demand
      rw [hres]
    have hcons : l'.consumed a = l.consumed a := by
      rw [hl.consumed, hl'.consumed]
    unfold Ledger.pending at hpend
    unfold Ledger.consumed at hcons
    cases hh : l'.held_at a
    cases hh' : l.held_at a
    simp_all
  unfold held_at get_or at hsame
  cases hh : l.held[a]? with
  | none =>
    rw [hh] at hkeys
    simpa using hkeys
  | some h =>
    rw [hh] at hkeys hsame
    obtain ⟨h', hh'⟩ := Option.isSome_iff_exists.mp (hkeys.mpr rfl)
    rw [hh'] at hsame ⊢
    simpa using hsame

end Ledger

namespace LedgerService

/-! ## Runs of successful calls -/

def Succeeds (s : LedgerService) (c : ServiceCommand) : Prop :=
  ∃ intents, (s.exec c).1 = .ok intents

/-- What holds after any run of successful calls. -/
structure Sound (s : LedgerService) : Prop where
  mirrors : s.Mirrors
  admissions : Ledger.Admissions .empty s.ledger
  published : s.snapshot = s.ledger.available_snapshot

theorem sound_new : (new ∅).Sound where
  mirrors := mirrors_new
  admissions := .refl
  published := by
    apply Std.ExtTreeMap.ext_getElem?
    intro a
    rw [get_available_snapshot]
    simp [new, Ledger.empty]

/-- A settlement the service accepted was within its reservation. -/
theorem postsWithin_of_succeeds {s : LedgerService} {c : ServiceCommand} (h : s.Succeeds c) :
    s.PostsWithin c := by
  cases c with
  | post id filled =>
    intro r hr hopen
    rcases Ledger.post_cases s.ledger id filled with ⟨r', hr', _, hfills, _⟩ | ⟨⟨e, heq⟩, _⟩
    · rw [hr] at hr'
      obtain rfl := Option.some.inj hr'
      exact hfills
    · obtain ⟨intents, hok⟩ := h
      simp [exec, post, durable_first, heq, no_intents, Except.map] at hok
  | _ => trivial

theorem published_durable_first {s : LedgerService} {store : SqliteLedgerStore}
    {answer : Except LedgerError Unit × Ledger} {intents : List IntentId}
    (hok : (no_intents (s.durable_first store answer)).1 = .ok intents) :
    (no_intents (s.durable_first store answer)).2.snapshot =
      (no_intents (s.durable_first store answer)).2.ledger.available_snapshot := by
  obtain ⟨result, ledger⟩ := answer
  cases result with
  | error e => simp [no_intents, durable_first, Except.map] at hok
  | ok u => rfl

theorem published_reserve_owned {s : LedgerService} {r : Reservation}
    {budgets : List (AccountKey × U256)} {intents : List IntentId}
    (hok : (no_intents (s.reserve_owned r budgets)).1 = .ok intents) :
    (no_intents (s.reserve_owned r budgets)).2.snapshot =
      (no_intents (s.reserve_owned r budgets)).2.ledger.available_snapshot := by
  unfold reserve_owned at hok ⊢
  simp only at hok ⊢
  split
  · rename_i e he
    simp [he, no_intents, Except.map] at hok
  · rename_i he
    split
    · rename_i e store hstore
      simp [he, hstore, no_intents, Except.map] at hok
    · rfl

/-- A successful call leaves the published snapshot up to date. -/
theorem published_next {s : LedgerService} (hs : s.snapshot = s.ledger.available_snapshot)
    {c : ServiceCommand} (h : s.Succeeds c) :
    (s.next c).snapshot = (s.next c).ledger.available_snapshot := by
  obtain ⟨intents, hok⟩ := h
  unfold next
  cases c with
  | reserve reads id intent sources ttl_secs =>
    simp only [exec, reserve] at hok ⊢
    split
    · exact hs
    · rename_i budgets hread
      rw [hread] at hok
      exact published_reserve_owned hok
  | reserve_rebate reads id batch sources ttl_secs =>
    simp only [exec, reserve_rebate] at hok ⊢
    split
    · exact hs
    · rename_i budgets hread
      rw [hread] at hok
      exact published_reserve_owned hok
  | reserve_owned id owner sources expires_at budgets => exact published_reserve_owned hok
  | commit id => exact published_durable_first hok
  | post id filled => exact published_durable_first hok
  | void id => exact published_durable_first hok
  | expire id => exact published_durable_first hok
  | void_reorg id => exact published_durable_first hok
  | sweep_expired reads exclude =>
    simp only [exec, sweep_expired] at hok ⊢
    cases hids : (s.ledger.expired_swaps_as_of reads.now_unix).filter (· ∉ exclude) with
    | nil => simpa [sweep_loop] using hs
    | cons id ids =>
      rw [hids] at hok
      split
      · rename_i e s' hloop
        simp [hloop] at hok
      · rfl
  | sync_budgets answer =>
    cases answer with
    | error e => exact hs
    | ok budgets => rfl

theorem sound_run {cmds : List ServiceCommand} (h : Run.Along next Succeeds (new ∅) cmds) :
    (Run.run next (new ∅) cmds).Sound := by
  have hstep : ∀ (s : LedgerService) (c : ServiceCommand), s.Sound → s.Succeeds c →
      (s.next c).Sound := by
    intro s c hs hc
    exact ⟨(keeps_exec hs.mirrors (postsWithin_of_succeeds hc)).mirrors,
      hs.admissions.trans (admissions_exec s c), published_next hs.published hc⟩
  exact Run.invariant hstep sound_new h

theorem available_of_sound {s : LedgerService} (hs : s.Sound) (a : AccountKey) :
    s.available a = s.ledger.available a := by
  unfold available
  rw [hs.published]
  exact get_or_available_snapshot s.ledger a

/-! ## The recovered ledger -/

theorem read_budgets_ok {reads : Reads} (hreads : ∀ a, ∃ budget, reads.budget a = .ok budget)
    (accounts : List AccountKey) : ∃ budgets, read_budgets reads accounts = .ok budgets := by
  induction accounts with
  | nil => exact ⟨[], rfl⟩
  | cons a accounts ih =>
    obtain ⟨budget, hbudget⟩ := hreads a
    obtain ⟨budgets, hrest⟩ := ih
    refine ⟨(a, budget) :: budgets, ?_⟩
    unfold read_budgets at hrest ⊢
    rw [List.mapM_cons, hrest, hbudget]
    rfl

/-- Replaying keeps what is recorded and adds the first reservation of each id. -/
theorem recover_loop_reservations {reads : Reads}
    (hreads : ∀ a, ∃ budget, reads.budget a = .ok budget) (rs : List Reservation) (l : Ledger) :
    ∃ l', recover_loop l reads rs = (.ok (), l') ∧
      ∀ id : ReservationId, l'.reservations[id]? =
        (l.reservations[id]?).or (rs.find? fun r => r.id = id) := by
  induction rs generalizing l with
  | nil => exact ⟨l, rfl, fun id => by simp⟩
  | cons r rs ih =>
    obtain ⟨budgets, hread⟩ := read_budgets_ok hreads (accounts_of r.sources)
    obtain ⟨fed, hfed⟩ := feed_eq l budgets
    obtain ⟨l', hloop, hres⟩ := ih ((feed l budgets).restore r)
    refine ⟨l', by simp only [recover_loop, hread, hloop], ?_⟩
    intro id
    rw [hres, hfed]
    cases hr : l.reservations[r.id]? with
    | none =>
      rw [Ledger.restore_of_none (by exact hr)]
      simp only [get_insert]
      by_cases hid : r.id = id
      · subst hid
        simp [hr]
      · simp [hid]
    | some q =>
      rw [Ledger.restore_of_some (s := q) (by exact hr)]
      by_cases hid : r.id = id
      · subst hid
        simp [hr]
      · simp [hid]

theorem recover_loop_effects (reads : Reads) (rs : List Reservation)
    (hopen : ∀ r ∈ rs, r.state.is_open = true) (l : Ledger) :
    Ledger.Effects l (recover_loop l reads rs).2 := by
  induction rs generalizing l with
  | nil => exact .refl
  | cons r rs ih =>
    unfold recover_loop
    split
    · exact .refl
    · rename_i budgets _
      have hplaced : Ledger.Effects l ((feed l budgets).restore r) :=
        (Ledger.effects_of_admissions (admissions_feed l budgets)).tail (Ledger.effect_restore _ r (hopen r (by simp)))
      exact hplaced.trans (ih (fun q hq => hopen q (by simp [hq])) _)

theorem open_reservations_open (store : SqliteLedgerStore) :
    ∀ r ∈ SqliteLedgerStore.open_reservations store, r.state.is_open = true := by
  intro r hr
  obtain ⟨b, hb, rfl⟩ := List.mem_map.mp hr
  exact (List.mem_filter.mp hb).2

/-- The store returns a row under its id exactly when it is open. -/
theorem find_open_reservations (store : SqliteLedgerStore) (id : ReservationId) :
    (SqliteLedgerStore.open_reservations store).find? (fun r => r.id = id) =
      ((store[id]?).map fun row => row.reservation id).filter fun r => r.state.is_open := by
  unfold SqliteLedgerStore.open_reservations
  rw [List.find?_map, ← List.head?_filter, List.filter_filter]
  have hcomp : (fun b : ReservationId × LedgerRow =>
      ((fun r : Reservation => decide (r.id = id)) ∘ fun b : ReservationId × LedgerRow =>
        b.2.reservation b.1) b && b.2.state.is_open) =
      fun b => b.2.state.is_open && decide (b.1 = id) := by
    funext b
    simp [LedgerRow.reservation, Bool.and_comm]
  rw [hcomp, ← List.filter_filter, filter_toList]
  cases hrow : store[id]? with
  | none => simp
  | some row =>
    have hstate : (row.reservation id).state = row.state := rfl
    by_cases hopen : row.state.is_open = true
    · simp [hopen, Option.filter_some, hstate]
    · simp [hopen, Option.filter_some, hstate]

/-- A fresh service over the same store, recovered and fed the same budgets. -/
def restart (s : LedgerService) (reads : Reads) : LedgerService :=
  (((new s.store).recover reads).2.sync_budgets (.ok s.ledger.budgets)).2

/-- A budget source that answers zero everywhere. -/
def zero_reads : Reads := { now_unix := 0, budget := fun _ => .ok 0 }

/-- **Recovery.** A restart succeeds and rebuilds the open reservations, and
    nothing else. -/
theorem restart_spec {s : LedgerService} (hs : s.Mirrors) {reads : Reads}
    (hreads : ∀ a, ∃ budget, reads.budget a = .ok budget) :
    ((new s.store).recover reads).1 = .ok () ∧
      (s.restart reads).store = s.store ∧
      (s.restart reads).ledger.budgets = s.ledger.budgets ∧
      (s.restart reads).snapshot = (s.restart reads).ledger.available_snapshot ∧
      (s.restart reads).ledger.Rebuilt ∧
      ∀ id : ReservationId, (s.restart reads).ledger.reservations[id]? =
        (s.ledger.reservations[id]?).filter fun r => r.state.is_open := by
  obtain ⟨l, hloop, hres⟩ :=
    recover_loop_reservations hreads (SqliteLedgerStore.open_reservations s.store) .empty
  have heffects := recover_loop_effects reads _ (open_reservations_open s.store) .empty
  rw [hloop] at heffects
  have hrecover : (new s.store).recover reads =
      (.ok (), publish { new s.store with ledger := l }) := by
    unfold recover
    simp only [new, hloop]
  have hreservations : ∀ id : ReservationId, l.reservations[id]? =
      (s.ledger.reservations[id]?).filter fun r => r.state.is_open := by
    intro id
    rw [hres, find_open_reservations, hs id]
    simp [Ledger.empty]
  have hall : Ledger.AllOpen { l with budgets := s.ledger.budgets } := by
    intro id r hr
    have hr' : l.reservations[id]? = some r := hr
    rw [hreservations, Option.filter_eq_some_iff] at hr'
    exact hr'.2
  have hrestart : s.restart reads =
      publish { new s.store with ledger := { l with budgets := s.ledger.budgets } } := by
    unfold restart
    rw [hrecover]
    rfl
  rw [hrestart]
  refine ⟨by rw [hrecover], rfl, rfl, rfl, ?_, hreservations⟩
  exact Ledger.rebuilt_of_effects (heffects.tail (.move (.budgets _))) hall

end LedgerService

end Solvent
