import Mathlib
import Solvent.Ledger.Recovery

/-! # What a restart keeps

    Recovery rebuilds the holds of the open reservations and nothing else: the
    chain balance the budgets are read from already reflects what the settled
    ones pulled. So a restarted service frees what was consumed, knows no closed
    reservation, and otherwise answers as the original would have.
-/

namespace Solvent

open BTreeMap

namespace Ledger

/-! ## Ledgers that agree off a set of ids -/

variable {K : ReservationId → Prop} {exact : Prop} {l l' : Ledger}

/-- The two ledgers hold the same reservations off `K` and only closed ones on
    it, and under `exact` the same compartments. -/
structure Agrees (K : ReservationId → Prop) (exact : Prop) (l l' : Ledger) : Prop where
  budgets : l'.budgets = l.budgets
  ids : ∀ (id : ReservationId) (r : Reservation), l.reservations[id]? = some r → r.id = id
  closed : ∀ (id : ReservationId) (r : Reservation), K id →
    l.reservations[id]? = some r ∨ l'.reservations[id]? = some r → r.state.is_open = false
  reservations : ∀ id : ReservationId, ¬ K id → l'.reservations[id]? = l.reservations[id]?
  filled : ∀ id : ReservationId, ¬ K id → l'.filled[id]? = l.filled[id]?
  held : exact → ∀ a, l'.held_at a = l.held_at a

/-- Both ledgers answer alike and agree afterwards. -/
def AnswersAlike (K : ReservationId → Prop) (exact : Prop)
    (p p' : Except LedgerError Unit × Ledger) : Prop :=
  p'.1 = p.1 ∧ Agrees K exact p.2 p'.2

theorem held_at_apply_steps {held held' : BTreeMap AccountKey Held} {a : AccountKey}
    (h : get_or held' a Held.default = get_or held a Held.default)
    (us : List (AccountKey × HoldStep)) :
    get_or (apply_steps held' us) a Held.default = get_or (apply_steps held us) a Held.default := by
  rw [get_or_apply_steps, get_or_apply_steps, h]

theorem Agrees.available (h : Agrees K exact l l') (he : exact) (a : AccountKey) :
    l'.available a = l.available a := by
  unfold Ledger.available Ledger.budget Ledger.pending Ledger.consumed
  rw [h.budgets, h.held he a]

theorem Agrees.can_reserve (h : Agrees K exact l l') (he : exact) {r : Reservation}
    (hid : ¬ K r.id) : l'.can_reserve r = l.can_reserve r := by
  unfold Ledger.can_reserve Ledger.first_shortfall
  simp only [h.reservations r.id hid, h.available he]

/-- Recording one reservation off `K` in both keeps the agreement. -/
theorem Agrees.insert (h : Agrees K exact l l') {id : ReservationId} (hid : ¬ K id)
    {r : Reservation} (hr : r.id = id) {held held' : BTreeMap AccountKey Held}
    (hheld : exact → ∀ a, get_or held' a Held.default = get_or held a Held.default) :
    Agrees K exact { l with held, reservations := l.reservations.insert id r }
      { l' with held := held', reservations := l'.reservations.insert id r } where
  budgets := h.budgets
  ids := by
    intro k q hq
    by_cases hk : id = k
    · simp only [get_insert, if_pos hk] at hq
      obtain rfl := Option.some.inj hq
      exact hr.trans hk
    · simp only [get_insert, if_neg hk] at hq
      exact h.ids k q hq
  closed := by
    intro k q hk hq
    have hne : id ≠ k := fun e => hid (e ▸ hk)
    simp only [get_insert, if_neg hne] at hq
    exact h.closed k q hk hq
  reservations := by
    intro k hk
    show (l'.reservations.insert id r)[k]? = (l.reservations.insert id r)[k]?
    rw [get_insert, get_insert, h.reservations k hk]
  filled := h.filled
  held := hheld

theorem Agrees.restore (h : Agrees K exact l l') {r : Reservation} (hid : ¬ K r.id) :
    Agrees K exact (l.restore r) (l'.restore r) := by
  cases hr : l.reservations[r.id]? with
  | some q =>
    rw [restore_of_some hr, restore_of_some ((h.reservations r.id hid).trans hr)]
    exact h
  | none =>
    rw [restore_of_none hr, restore_of_none ((h.reservations r.id hid).trans hr)]
    exact h.insert hid rfl fun he a => held_at_apply_steps (h.held he a) _

/-! ## The commands on a known id -/

section Known

variable {id : ReservationId} (h : Agrees K exact l l') (hid : ¬ K id)

include h hid

theorem Agrees.transition (state : ReservationState) :
    Agrees K exact (l.transition id state) (l'.transition id state) := by
  unfold Ledger.transition
  rw [h.reservations id hid]
  cases hr : l.reservations[id]? with
  | none => exact h
  | some r => exact h.insert (r := { r with state }) hid (h.ids id r hr) h.held

theorem Agrees.commit : AnswersAlike K exact (l.commit id) (l'.commit id) := by
  unfold AnswersAlike Ledger.commit
  rw [h.reservations id hid]
  cases hr : l.reservations[id]? with
  | none => exact ⟨rfl, h⟩
  | some r =>
    cases hs : r.state with
    | Pending =>
      simp only [hs]
      exact ⟨trivial, h.transition hid .Committed⟩
    | _ =>
      simp only [hs]
      exact ⟨trivial, h⟩

/-- The same updates, records and new state keep two ledgers in agreement. -/
theorem Agrees.moved (us : List (AccountKey × HoldStep)) (state : ReservationState)
    {filled filled' : BTreeMap ReservationId (List U256)}
    (hfilled : ∀ k : ReservationId, ¬ K k → filled'[k]? = filled[k]?) :
    Agrees K exact
      (Ledger.transition { l with held := apply_steps l.held us, filled } id state)
      (Ledger.transition { l' with held := apply_steps l'.held us, filled := filled' } id state) := by
  have hmid : Agrees K exact { l with held := apply_steps l.held us, filled }
      { l' with held := apply_steps l'.held us, filled := filled' } :=
    ⟨h.budgets, h.ids, h.closed, h.reservations, hfilled, fun he a => held_at_apply_steps (h.held he a) us⟩
  exact hmid.transition hid state

theorem Agrees.void : AnswersAlike K exact (l.void id) (l'.void id) := by
  unfold AnswersAlike Ledger.void
  have hsources : l'.active_sources id = l.active_sources id := by
    unfold active_sources
    rw [h.reservations id hid]
  rw [hsources]
  cases l.active_sources id with
  | error e => exact ⟨rfl, h⟩
  | ok sources => exact ⟨rfl, h.moved hid (release_steps sources) .Voided h.filled⟩

theorem Agrees.expire : AnswersAlike K exact (l.expire id) (l'.expire id) := by
  unfold AnswersAlike Ledger.expire
  have hsources : l'.pending_sources id = l.pending_sources id := by
    unfold pending_sources
    rw [h.reservations id hid]
  rw [hsources]
  cases l.pending_sources id with
  | error e => exact ⟨rfl, h⟩
  | ok sources => exact ⟨rfl, h.moved hid (release_steps sources) .Expired h.filled⟩

theorem Agrees.post (filled : List U256) :
    AnswersAlike K exact (l.post id filled) (l'.post id filled) := by
  unfold AnswersAlike Ledger.post
  have hsources : l'.active_sources id = l.active_sources id := by
    unfold active_sources
    rw [h.reservations id hid]
  rw [hsources]
  cases l.active_sources id with
  | error e => exact ⟨rfl, h⟩
  | ok sources =>
    by_cases hlen : filled.length = sources.length
    · cases hover : first_overfill 0 sources filled with
      | some e =>
        simp only [hlen, hover, ne_eq, not_true_eq_false, if_false]
        exact ⟨trivial, h⟩
      | none =>
        simp only [hlen, hover, ne_eq, not_true_eq_false, if_false]
        refine ⟨trivial, h.moved hid _ .Posted ?_⟩
        intro k hk
        rw [get_insert, get_insert, h.filled k hk]
    · simp only [hlen, ne_eq, not_false_eq_true, if_true]
      exact ⟨trivial, h⟩

theorem Agrees.void_reorg : AnswersAlike K exact (l.void_reorg id) (l'.void_reorg id) := by
  unfold AnswersAlike Ledger.void_reorg
  have hrecord : get_or l'.filled id [] = get_or l.filled id [] := by
    unfold get_or
    rw [h.filled id hid]
  rw [h.reservations id hid, hrecord]
  cases hr : l.reservations[id]? with
  | none => exact ⟨rfl, h⟩
  | some r =>
    cases hstate : require_state r .Posted with
    | error e => exact ⟨by simp [hstate], by simpa [hstate] using h⟩
    | ok u =>
      simp only [hstate]
      refine ⟨trivial, h.moved hid _ .ReorgOpen ?_⟩
      intro k hk
      rw [get_erase, get_erase, h.filled k hk]

end Known

/-- Both ledgers see the same elapsed swaps, none of them on `K`. -/
theorem Agrees.expired (h : Agrees K exact l l') (now : U64) :
    l'.expired_swaps_as_of now = l.expired_swaps_as_of now := by
  unfold expired_swaps_as_of values
  rw [List.filter_map, List.filter_map]
  congr 2
  refine filter_toList_congr ?_
  intro k r hr
  have hopen : r.state.is_open = true := by
    simp only [Function.comp_apply, decide_eq_true_eq] at hr
    simp [hr.1, ReservationState.is_open]
  by_cases hk : K k
  · -- An open reservation is recorded on `K` by neither.
    constructor
    · intro hr'
      simp [h.closed k r hk (.inr hr')] at hopen
    · intro hr'
      simp [h.closed k r hk (.inl hr')] at hopen
  · rw [h.reservations k hk]

theorem Agrees.expired_off (h : Agrees K exact l l') (now : U64) {id : ReservationId}
    (hid : id ∈ l.expired_swaps_as_of now) : ¬ K id := by
  obtain ⟨r, hr, rfl⟩ := List.mem_map.1 hid
  obtain ⟨hmem, hcond⟩ := List.mem_filter.1 hr
  obtain ⟨⟨k, q⟩, hb, hq⟩ := List.mem_map.1 hmem
  simp only at hq
  subst hq
  have hget := Std.ExtTreeMap.mem_toList_iff_getElem?_eq_some.1 hb
  rw [h.ids k q hget]
  intro hk
  have hclosed := h.closed k q hk (.inl hget)
  simp only [decide_eq_true_eq] at hcond
  simp [hcond.1, ReservationState.is_open] at hclosed

end Ledger

namespace LedgerService

/-! ## Services that agree off a set of ids -/

variable {K : ReservationId → Prop} {exact : Prop} {s s' : LedgerService}

/-- The same store, and ledgers that agree off `K`. -/
structure Agrees (K : ReservationId → Prop) (exact : Prop) (s s' : LedgerService) : Prop where
  store : s'.store = s.store
  ledger : Ledger.Agrees K exact s.ledger s'.ledger

/-- Both services answer alike and agree afterwards. -/
def AnswersAlike {α : Type} (K : ReservationId → Prop) (exact : Prop)
    (p p' : Except SolventError α × LedgerService) : Prop :=
  p'.1 = p.1 ∧ Agrees K exact p.2 p'.2

/-- A call that names no id of `K`, and admits nothing unless `exact`. -/
def Spares (K : ReservationId → Prop) (exact : Prop) : ServiceCommand → Prop
  | .reserve _ id _ _ _ | .reserve_rebate _ id _ _ _ | .reserve_owned id _ _ _ _ => ¬ K id ∧ exact
  | .commit id | .post id _ | .void id | .expire id | .void_reorg id => ¬ K id
  | .sweep_expired _ _ | .sync_budgets _ => True

theorem answersAlike_no_intents {p p' : Except SolventError Unit × LedgerService}
    (h : AnswersAlike K exact p p') : AnswersAlike K exact (no_intents p) (no_intents p') := by
  refine ⟨?_, h.2⟩
  show p'.1.map _ = p.1.map _
  rw [h.1]

theorem answersAlike_durable_first {store store' : SqliteLedgerStore} (hstore : store' = store)
    {p p' : Except LedgerError Unit × Ledger} (h : Ledger.AnswersAlike K exact p p') :
    AnswersAlike K exact (no_intents (s.durable_first store p))
      (no_intents (s'.durable_first store' p')) := by
  obtain ⟨answer, l⟩ := p
  obtain ⟨answer', l'⟩ := p'
  obtain ⟨hanswer, hledger⟩ := h
  simp only at hanswer
  subst hanswer
  refine answersAlike_no_intents ?_
  cases answer' with
  | error e => exact ⟨rfl, hstore, hledger⟩
  | ok u => exact ⟨rfl, hstore, hledger⟩

theorem answersAlike_reserve_owned (h : Agrees K exact s s') (he : exact) {r : Reservation}
    (hid : ¬ K r.id) (budgets : List (AccountKey × U256)) :
    AnswersAlike K exact (s.reserve_owned r budgets) (s'.reserve_owned r budgets) := by
  have hfed : Ledger.Agrees K exact (feed s.ledger budgets) (feed s'.ledger budgets) := by
    clear hid
    generalize hl : s.ledger = l
    generalize hl' : s'.ledger = l'
    have hledger : Ledger.Agrees K exact l l' := hl ▸ hl' ▸ h.ledger
    clear hl hl'
    induction budgets generalizing l l' with
    | nil => exact hledger
    | cons b bs ih =>
      refine ih (l.set_budget b.1 b.2) (l'.set_budget b.1 b.2) ?_
      exact ⟨by simp [Ledger.set_budget, hledger.budgets], hledger.ids, hledger.closed,
        hledger.reservations, hledger.filled, hledger.held⟩
  unfold AnswersAlike reserve_owned
  simp only [hfed.can_reserve he hid, h.store]
  cases hadmit : (feed s.ledger budgets).can_reserve r with
  | error e => exact ⟨rfl, rfl, hfed⟩
  | ok u =>
    cases hrow : SqliteLedgerStore.reserve s.store r with
    | mk answer store =>
      cases answer with
      | error e => exact ⟨rfl, rfl, hfed⟩
      | ok u => exact ⟨rfl, rfl, hfed.restore hid⟩

theorem answersAlike_sweep_loop (h : Agrees K exact s s') {ids : List ReservationId}
    (hids : ∀ id ∈ ids, ¬ K id) :
    AnswersAlike K exact (s.sweep_loop ids) (s'.sweep_loop ids) := by
  induction ids generalizing s s' with
  | nil => exact ⟨rfl, h⟩
  | cons id ids ih =>
    have hid := hids id (by simp)
    obtain ⟨hanswer, hledger⟩ := h.ledger.expire hid
    have hreservation : s'.ledger.reservation id = s.ledger.reservation id :=
      h.ledger.reservations id hid
    unfold AnswersAlike
    rw [sweep_loop, sweep_loop, hreservation]
    cases hexp : s.ledger.expire id with
    | mk answer l =>
      cases hexp' : s'.ledger.expire id with
      | mk answer' l' =>
        rw [hexp, hexp'] at hanswer hledger
        simp only at hanswer
        subst hanswer
        cases answer' with
        | error e =>
          exact ⟨rfl, by rw [h.store], hledger⟩
        | ok u =>
          have hstep : Agrees K exact
              { s with store := SqliteLedgerStore.expire s.store id, ledger := l }
              { s' with store := SqliteLedgerStore.expire s'.store id, ledger := l' } :=
            ⟨by rw [h.store], hledger⟩
          obtain ⟨hrest, hagrees⟩ := ih hstep fun k hk => hids k (by simp [hk])
          simp only
          generalize sweep_loop { s with
            store := SqliteLedgerStore.expire s.store id, ledger := l } ids = p at *
          generalize sweep_loop { s' with
            store := SqliteLedgerStore.expire s'.store id, ledger := l' } ids = p' at *
          obtain ⟨swept, t⟩ := p
          obtain ⟨swept', t'⟩ := p'
          simp only at hrest
          subst hrest
          cases swept' with
          | error e => exact ⟨rfl, hagrees⟩
          | ok swept => exact ⟨rfl, hagrees⟩

/-- **Agreement step.** A call that spares `K` is answered alike. -/
theorem answersAlike_exec (h : Agrees K exact s s') {c : ServiceCommand}
    (hc : Spares K exact c) : AnswersAlike K exact (s.exec c) (s'.exec c) := by
  cases c with
  | reserve reads id intent sources ttl_secs =>
    simp only [exec, reserve]
    split
    · exact answersAlike_no_intents ⟨rfl, h⟩
    · exact answersAlike_no_intents (answersAlike_reserve_owned h hc.2 hc.1 _)
  | reserve_rebate reads id batch sources ttl_secs =>
    simp only [exec, reserve_rebate]
    split
    · exact answersAlike_no_intents ⟨rfl, h⟩
    · exact answersAlike_no_intents (answersAlike_reserve_owned h hc.2 hc.1 _)
  | reserve_owned id owner sources expires_at budgets =>
    exact answersAlike_no_intents (answersAlike_reserve_owned h hc.2 hc.1 budgets)
  | commit id => exact answersAlike_durable_first (by rw [h.store]) (h.ledger.commit hc)
  | post id filled => exact answersAlike_durable_first (by rw [h.store]) (h.ledger.post hc filled)
  | void id => exact answersAlike_durable_first (by rw [h.store]) (h.ledger.void hc)
  | expire id => exact answersAlike_durable_first (by rw [h.store]) (h.ledger.expire hc)
  | void_reorg id => exact answersAlike_durable_first (by rw [h.store]) (h.ledger.void_reorg hc)
  | sweep_expired reads exclude =>
    unfold AnswersAlike
    simp only [exec, sweep_expired, h.ledger.expired]
    have hids : ∀ id ∈ (s.ledger.expired_swaps_as_of reads.now_unix).filter (· ∉ exclude),
        ¬ K id := by
      intro id hid hk
      exact h.ledger.expired_off reads.now_unix (List.mem_filter.mp hid).1 hk
    obtain ⟨hanswer, hagrees⟩ := answersAlike_sweep_loop h hids
    generalize (s.ledger.expired_swaps_as_of reads.now_unix).filter (· ∉ exclude) = ids at *
    generalize s.sweep_loop ids = p at *
    generalize s'.sweep_loop ids = p' at *
    obtain ⟨answer, t⟩ := p
    obtain ⟨answer', t'⟩ := p'
    simp only at hanswer
    subst hanswer
    cases answer' with
    | error e => exact ⟨rfl, hagrees⟩
    | ok swept =>
      refine ⟨rfl, ?_⟩
      simp only
      split <;> exact ⟨hagrees.store, hagrees.ledger⟩
  | sync_budgets answer =>
    refine answersAlike_no_intents ?_
    cases answer with
    | error e => exact ⟨rfl, h⟩
    | ok budgets =>
      exact ⟨rfl, h.store, rfl, h.ledger.ids, h.ledger.closed, h.ledger.reservations,
        h.ledger.filled, h.ledger.held⟩

/-- The answers of a sequence of calls. -/
def outcomes (s : LedgerService) :
    List ServiceCommand → List (Except SolventError (List IntentId))
  | [] => []
  | c :: cs => (s.exec c).1 :: outcomes (s.next c) cs

/-- **Agreement run.** So is every sequence of such calls. -/
theorem outcomes_of_agrees (h : Agrees K exact s s') {later : List ServiceCommand}
    (hlater : ∀ c ∈ later, Spares K exact c) : s'.outcomes later = s.outcomes later := by
  induction later generalizing s s' with
  | nil => rfl
  | cons c cs ih =>
    obtain ⟨hanswer, hagrees⟩ := answersAlike_exec h (hlater c (by simp))
    show (s'.exec c).1 :: (s'.next c).outcomes cs = (s.exec c).1 :: (s.next c).outcomes cs
    have hrest : (s'.next c).outcomes cs = (s.next c).outcomes cs :=
      ih hagrees fun c' hc' => hlater c' (by simp [hc'])
    rw [hanswer, hrest]

/-! ## The restarted service -/

/-- A reservation that was settled, released or taken back. -/
def Closed (s : LedgerService) (id : ReservationId) : Prop :=
  ∃ r, s.ledger.reservations[id]? = some r ∧ r.state.is_open = false

def NothingConsumed (s : LedgerService) : Prop := ∀ a, s.ledger.consumed a = 0

section Restarted

variable (hs : s.Sound) {reads : Reads} (hreads : ∀ a, ∃ budget, reads.budget a = .ok budget)

include hs hreads

/-- Every open promise is held as it was; nothing counts as consumed. -/
theorem restart_held (a : AccountKey) :
    (s.restart reads).ledger.pending a = s.ledger.pending a ∧
      (s.restart reads).ledger.consumed a = 0 := by
  obtain ⟨_, _, _, _, hrebuilt, hres⟩ := restart_spec hs.mirrors hreads
  refine ⟨?_, hrebuilt.consumed a⟩
  have hopen : (s.restart reads).ledger.open_demand a = s.ledger.open_demand a := by
    unfold Ledger.open_demand
    refine total_filter hres ?_
    intro k r hclosed
    simp [hclosed]
  apply Fin.ext
  rw [hrebuilt.pending, hopen,
    (Ledger.held_of_covered (Ledger.covered_of_admissions hs.admissions) a).1]

theorem restart_available (a : AccountKey) :
    (s.restart reads).available a = (s.ledger.budget a).saturating_sub (s.ledger.pending a) := by
  obtain ⟨_, _, hbudgets, hsnapshot, _, _⟩ := restart_spec hs.mirrors hreads
  obtain ⟨hpend, hcons⟩ := restart_held hs hreads a
  unfold available
  rw [hsnapshot, get_or_available_snapshot]
  unfold Ledger.available Ledger.budget
  rw [hbudgets, hpend, hcons, U256.saturating_add_zero]

/-- The restarted service agrees with the original off the closed ids. -/
theorem restart_agrees : Agrees s.Closed s.NothingConsumed s (s.restart reads) := by
  obtain ⟨_, hstore, hbudgets, _, hrebuilt, hres⟩ := restart_spec hs.mirrors hreads
  refine ⟨hstore, hbudgets, fun id r hr => id_of_mirrors hs.mirrors hr, ?_, ?_, ?_, ?_⟩
  · rintro id r ⟨q, hq, hclosed⟩ hr
    rcases hr with hr | hr
    · rw [hq] at hr
      obtain rfl := Option.some.inj hr
      exact hclosed
    · rw [hres, hq, Option.filter_eq_some_iff] at hr
      obtain ⟨hr, -⟩ := hr
      obtain rfl := Option.some.inj hr
      exact hclosed
  · intro id hopen
    rw [hres]
    cases hr : s.ledger.reservations[id]? with
    | none => rfl
    | some r =>
      have : r.state.is_open = true := by
        by_contra hclosed
        exact hopen ⟨r, hr, by simpa using hclosed⟩
      simp [this]
  · intro id hopen
    -- Only a posted reservation has a fill record, and posted is closed.
    have hrecord : s.ledger.filled[id]? = none := by
      by_contra hsome
      have hposted := (Ledger.recordsPosted_of_effects
        (Ledger.effects_of_admissions hs.admissions) id).1 (Option.isSome_iff_ne_none.2 hsome)
      obtain ⟨r, hr, hstate⟩ := hposted
      exact hopen ⟨r, hr, by simp [hstate, ReservationState.is_open]⟩
    rw [hrebuilt.filled, hrecord]
    simp
  · intro hnone a
    obtain ⟨hpend, hcons⟩ := restart_held hs hreads a
    have hcons' : (s.restart reads).ledger.consumed a = s.ledger.consumed a := by
      rw [hcons, hnone a]
    unfold Ledger.pending at hpend
    unfold Ledger.consumed at hcons'
    cases hh : (s.restart reads).ledger.held_at a
    cases hh' : s.ledger.held_at a
    simp_all

end Restarted

/-! ## When a restart is invisible -/

/-- If nothing was ever closed, the restarted service is the original one. -/
theorem restart_eq_self {s : LedgerService} (hs : s.Sound) {reads : Reads}
    (hreads : ∀ a, ∃ budget, reads.budget a = .ok budget) (hopen : s.ledger.AllOpen) :
    s.restart reads = s := by
  obtain ⟨_, hstore, hbudgets, hsnapshot, hrebuilt, hres⟩ := restart_spec hs.mirrors hreads
  have hown := Ledger.rebuilt_of_effects (Ledger.effects_of_admissions hs.admissions) hopen
  have hreservations : (s.restart reads).ledger.reservations = s.ledger.reservations := by
    apply Std.ExtTreeMap.ext_getElem?
    intro id
    rw [hres]
    cases hr : s.ledger.reservations[id]? with
    | none => rfl
    | some r => simp [hopen id r hr]
  have hledger : (s.restart reads).ledger = s.ledger := by
    have hheld := Ledger.held_eq_of_rebuilt hown hrebuilt hreservations
    have hfilled : (s.restart reads).ledger.filled = s.ledger.filled := by
      rw [hown.filled, hrebuilt.filled]
    cases hl : (s.restart reads).ledger
    cases hl' : s.ledger
    simp_all
  have hsnap : (s.restart reads).snapshot = s.snapshot := by
    rw [hsnapshot, hs.published, hledger]
  cases h : s.restart reads
  cases h' : s
  simp_all

/-- A closed reservation is answered `WrongState` before the restart and
    `Unknown` after it. -/
theorem void_answers {s : LedgerService} {id : ReservationId} :
    (∀ r, s.ledger.reservations[id]? = some r → r.state.is_open = false →
      (s.exec (.void id)).1 = .error (.Ledger (.WrongState id r.state .Pending))) ∧
    (s.ledger.reservations[id]? = none →
      (s.exec (.void id)).1 = .error (.Ledger (.Unknown id))) := by
  constructor
  · intro r hr hclosed
    have hsources : s.ledger.active_sources id = .error (.WrongState id r.state .Pending) := by
      unfold Ledger.active_sources
      rw [hr]
      cases hs : r.state <;> simp [hs, ReservationState.is_open] at hclosed ⊢
    simp [exec, void, durable_first, Ledger.void, hsources, no_intents, Except.map]
  · intro hr
    simp [exec, void, durable_first, Ledger.void, Ledger.active_sources, hr, no_intents,
      Except.map]

/-- **Restart.** After any run of successful calls, a restart fed the same
    budgets keeps the availability of every account and the answers of every
    later sequence of calls if and only if every reservation on record is still
    open. -/
theorem restart_invisible_iff (cmds : List ServiceCommand)
    (hok : Run.Along next Succeeds (new ∅) cmds) (reads : Reads)
    (hreads : ∀ a, ∃ budget, reads.budget a = .ok budget) :
    let s := Run.run next (new ∅) cmds
    ((∀ a, (s.restart reads).available a = s.available a) ∧
        ∀ later, (s.restart reads).outcomes later = s.outcomes later) ↔
      ∀ (id : ReservationId) (r : Reservation), s.ledger.reservations[id]? = some r →
        r.state = .Pending ∨ r.state = .Committed := by
  intro s
  have hs : s.Sound := sound_run hok
  constructor
  · intro h id r hr
    by_contra hclosed
    have hstate : r.state.is_open = false := by
      cases hst : r.state <;> simp [hst, ReservationState.is_open] at hclosed ⊢
    have hnone : (s.restart reads).ledger.reservations[id]? = none := by
      rw [(restart_spec hs.mirrors hreads).2.2.2.2.2 id, hr]
      simp [hstate]
    have hsame := h.2 [.void id]
    simp only [outcomes, void_answers.1 r hr hstate, void_answers.2 hnone] at hsame
    simp at hsame
  · intro hopen
    have hall : s.ledger.AllOpen := by
      intro id r hr
      rcases hopen id r hr with hst | hst <;> simp [hst, ReservationState.is_open]
    rw [restart_eq_self hs hreads hall]
    exact ⟨fun _ => rfl, fun _ => rfl⟩

end LedgerService

end Solvent
