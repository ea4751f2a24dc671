import Solvent.Ledger.Holdings

/-! # The other users of the ledger

    Swaps reserve, settle and sweep in the ledger that rebates hold their inventory
    in. A call on an id keeps its owner, so a call on an id of no rebate leaves every
    rebate as it was; and the sweep, which is given no id, passes over whatever is not
    a swap's.
-/

namespace Solvent

open BTreeMap

namespace LedgerService

variable {s s' : LedgerService} {id k : ReservationId} {mine : ReservationId → Prop}

/-! ## Calls on a known id -/

/-- Only one id changes, and what is open under it keeps its owner. -/
structure KeepsOwner (id : ReservationId) (s s' : LedgerService) : Prop where
  others : Touches id s s'
  held : ∀ r', s'.held id = some r' → ∃ r, s.held id = some r ∧ r.owner = r'.owner
  stored : ∀ r', s'.stored id = some r' → ∃ r, s.stored id = some r ∧ r.owner = r'.owner

theorem keepsOwner_of_update {from_states : List ReservationState} {change : LedgerRow → LedgerRow}
    (hstore : s'.store = SqliteLedgerStore.update_where s.store id from_states change)
    (howner : ∀ row, (change row).owner = row.owner)
    (hopen : ∀ row, row.state ∈ from_states → (change row).state.is_open = true →
      row.state.is_open = true)
    (hledger : s'.ledger.reservations = s.ledger.reservations ∨ ∃ r state,
      s.ledger.reservations[id]? = some r ∧ (state.is_open = true → r.state.is_open = true) ∧
        s'.ledger.reservations = s.ledger.set_state id r state) : KeepsOwner id s s' := by
  refine ⟨?_, fun r' hr' => ?_, fun r' hr' => ?_⟩
  · rcases hledger with hsame | ⟨r, state, -, -, hset⟩
    · intro k hk
      exact ⟨by rw [hsame], by rw [hstore, get_update_where, if_neg (Ne.symm hk)]⟩
    · exact touches_update hstore (.inr hset)
  · obtain ⟨hget, hnow⟩ := held_eq_some.mp hr'
    rcases hledger with hsame | ⟨r, state, hr, hbefore, hset⟩
    · rw [hsame] at hget
      exact ⟨r', held_eq_some.mpr ⟨hget, hnow⟩, rfl⟩
    · rw [hset, Ledger.set_state, get_insert, if_pos rfl] at hget
      obtain rfl := Option.some.inj hget
      exact ⟨r, held_eq_some.mpr ⟨hr, hbefore hnow⟩, rfl⟩
  · obtain ⟨⟨row', hrow', rfl⟩, hnow⟩ := stored_eq_some.mp hr'
    rw [hstore, get_update_where, if_pos rfl] at hrow'
    obtain ⟨row, hrow, rfl⟩ := Option.map_eq_some_iff.mp hrow'
    refine ⟨row.reservation id, stored_eq_some.mpr ⟨⟨row, hrow, rfl⟩, ?_⟩, ?_⟩
    · by_cases hmem : row.state ∈ from_states
      · rw [if_pos hmem] at hnow
        exact hopen row hmem hnow
      · rw [if_neg hmem] at hnow
        exact hnow
    · split
      · exact (howner row).symm
      · rfl

/-- A command in its store-first form. -/
theorem keepsOwner_durable_first {from_states : List ReservationState}
    {change : LedgerRow → LedgerRow} {answer : Except LedgerError Unit × Ledger}
    (howner : ∀ row, (change row).owner = row.owner)
    (hopen : ∀ row, row.state ∈ from_states → (change row).state.is_open = true →
      row.state.is_open = true)
    (hledger : answer.2.reservations = s.ledger.reservations ∨ ∃ r state,
      s.ledger.reservations[id]? = some r ∧ (state.is_open = true → r.state.is_open = true) ∧
        answer.2.reservations = s.ledger.set_state id r state) :
    KeepsOwner id s
      (s.durable_first (SqliteLedgerStore.update_where s.store id from_states change) answer).2 := by
  obtain ⟨hstore, hmemory⟩ := store_durable_first s
    (SqliteLedgerStore.update_where s.store id from_states change) answer
  exact keepsOwner_of_update hstore howner hopen (hmemory ▸ hledger)

theorem keepsOwner_commit (s : LedgerService) (id : ReservationId) :
    KeepsOwner id s (s.commit id).2 := by
  refine keepsOwner_durable_first (fun _ => rfl) (fun row hmem _ => ?_) ?_
  · rw [List.mem_singleton.mp hmem]
    rfl
  · rcases Ledger.commit_cases s.ledger id with ⟨r, hr, hstate, heq⟩ | ⟨heq, -⟩
    · exact .inr ⟨r, .Committed, hr, fun _ => by rw [hstate]; rfl, by rw [heq]⟩
    · exact .inl (by rw [heq])

theorem keepsOwner_post (s : LedgerService) (id : ReservationId) (filled : List U256) :
    KeepsOwner id s (s.post id filled).2 := by
  refine keepsOwner_durable_first (fun _ => rfl) (fun _ _ hnow => by cases hnow) ?_
  rcases Ledger.post_cases s.ledger id filled with ⟨r, hr, -, -, heq⟩ | ⟨⟨e, heq⟩, -⟩
  · exact .inr ⟨r, .Posted, hr, nofun, by rw [heq]⟩
  · exact .inl (by rw [heq])

theorem keepsOwner_void (s : LedgerService) (id : ReservationId) :
    KeepsOwner id s (s.void id).2 := by
  refine keepsOwner_durable_first (fun _ => rfl) (fun _ _ hnow => by cases hnow) ?_
  rcases Ledger.void_cases s.ledger id with ⟨r, hr, -, heq⟩ | ⟨⟨e, heq⟩, -⟩
  · exact .inr ⟨r, .Voided, hr, nofun, by rw [heq]⟩
  · exact .inl (by rw [heq])

theorem keepsOwner_expire (s : LedgerService) (id : ReservationId) :
    KeepsOwner id s (s.expire id).2 := by
  refine keepsOwner_durable_first (fun _ => rfl) (fun _ _ hnow => by cases hnow) ?_
  rcases Ledger.expire_cases s.ledger id with ⟨r, hr, -, heq⟩ | ⟨⟨e, heq⟩, -⟩
  · exact .inr ⟨r, .Expired, hr, nofun, by rw [heq]⟩
  · exact .inl (by rw [heq])

theorem keepsOwner_void_reorg (s : LedgerService) (id : ReservationId) :
    KeepsOwner id s (s.void_reorg id).2 := by
  refine keepsOwner_durable_first (fun _ => rfl) (fun _ _ hnow => by cases hnow) ?_
  rcases Ledger.void_reorg_cases s.ledger id with ⟨r, hr, -, heq⟩ | ⟨⟨e, heq⟩, -⟩
  · exact .inr ⟨r, .ReorgOpen, hr, nofun, by rw [heq]⟩
  · exact .inl (by rw [heq])

/-! ## What is left alone -/

/-- The ids of `mine` are as they were, and no other is held for a rebate. -/
structure Spared (mine : ReservationId → Prop) (s s' : LedgerService) : Prop where
  same : ∀ id, mine id → SameAt id s s'
  held : ∀ id r b, s'.held id = some r → r.owner = .Rebate b → mine id
  stored : ∀ id r b, s'.stored id = some r → r.owner = .Rebate b → mine id

/-- What rebates have in the ledger: the ids of `mine`, alike in both halves. -/
structure Mine (mine : ReservationId → Prop) (s : LedgerService) : Prop where
  keyed : s.ledger.Keyed
  agree : ∀ id, mine id → s.held id = s.stored id
  named : ∀ id r, mine id → s.stored id = some r → ∃ b, r.owner = .Rebate b
  held : ∀ id r b, s.held id = some r → r.owner = .Rebate b → mine id
  stored : ∀ id r b, s.stored id = some r → r.owner = .Rebate b → mine id

theorem Spared.of_same (h : Mine mine s) (hsame : ∀ id, SameAt id s s') : Spared mine s s' where
  same id _ := hsame id
  held id r b hr howner := h.held id r b ((hsame id).held.symm.trans hr) howner
  stored id r b hr howner := h.stored id r b ((hsame id).stored.symm.trans hr) howner

/-- A call on an id that is not of `mine`, and is not held for a rebate after. -/
theorem Spared.of_touches (h : Mine mine s) (hid : ¬mine id) (htouches : Touches id s s')
    (hheld : ∀ r b, s'.held id = some r → r.owner ≠ .Rebate b)
    (hstored : ∀ r b, s'.stored id = some r → r.owner ≠ .Rebate b) : Spared mine s s' := by
  refine ⟨fun k hk => htouches k fun heq => hid (heq ▸ hk), fun k r b hr howner => ?_,
    fun k r b hr howner => ?_⟩
  · by_cases hk : k = id
    · exact absurd howner (hheld r b (hk ▸ hr))
    · exact h.held k r b ((htouches k hk).held.symm.trans hr) howner
  · by_cases hk : k = id
    · exact absurd howner (hstored r b (hk ▸ hr))
    · exact h.stored k r b ((htouches k hk).stored.symm.trans hr) howner

theorem Spared.of_keepsOwner (h : Mine mine s) (hid : ¬mine id) (hkeeps : KeepsOwner id s s') :
    Spared mine s s' := by
  refine .of_touches h hid hkeeps.others (fun r b hr howner => ?_) fun r b hr howner => ?_
  · obtain ⟨q, hq, hsame⟩ := hkeeps.held r hr
    exact hid (h.held id q b hq (hsame.trans howner))
  · obtain ⟨q, hq, hsame⟩ := hkeeps.stored r hr
    exact hid (h.stored id q b hq (hsame.trans howner))

/-! ## The sweep -/

/-- One round of the sweep loop. -/
theorem keepsOwner_expired (s : LedgerService) (id : ReservationId) :
    KeepsOwner id s
      { s with
        store := SqliteLedgerStore.expire s.store id
        ledger := (s.ledger.expire id).2 } := by
  refine keepsOwner_of_update rfl (fun _ => rfl) (fun _ _ hnow => by cases hnow) ?_
  rcases Ledger.expire_cases s.ledger id with ⟨r, hr, -, heq⟩ | ⟨⟨e, heq⟩, -⟩
  · exact .inr ⟨r, .Expired, hr, nofun, by rw [heq]⟩
  · exact .inl (by rw [heq])

/-- **Loop lemma.** The sweep leaves alone what it is not given. -/
theorem same_sweep_loop (ids : List ReservationId) (hk : k ∉ ids) :
    ∀ s : LedgerService, SameAt k s (s.sweep_loop ids).2 := by
  induction ids with
  | nil => exact fun s => .refl k s
  | cons id ids ih =>
    intro s
    rw [List.mem_cons, not_or] at hk
    have hround := (keepsOwner_expired s id).others k hk.1
    unfold sweep_loop
    generalize s.ledger.expire id = answer at hround
    rcases answer with ⟨e | ⟨⟩, ledger⟩
    · exact hround
    · have hrest := hround.trans
        (ih hk.2 { s with store := SqliteLedgerStore.expire s.store id, ledger })
      simp only
      split <;> rename_i hloop <;> rw [hloop] at hrest <;> exact hrest

/-- And leaves no id held for a rebate that was not. -/
theorem owners_sweep_loop (ids : List ReservationId) :
    ∀ s : LedgerService,
      (∀ r', (s.sweep_loop ids).2.held k = some r' → ∃ r, s.held k = some r ∧ r.owner = r'.owner) ∧
      ∀ r', (s.sweep_loop ids).2.stored k = some r' →
        ∃ r, s.stored k = some r ∧ r.owner = r'.owner := by
  induction ids with
  | nil => exact fun s => ⟨fun r hr => ⟨r, hr, rfl⟩, fun r hr => ⟨r, hr, rfl⟩⟩
  | cons id ids ih =>
    intro s
    have hround := keepsOwner_expired s id
    unfold sweep_loop
    generalize s.ledger.expire id = answer at hround
    -- Whatever the round did, what is open under `k` after it was open before.
    have hback : ∀ s' : LedgerService, KeepsOwner id s s' →
        (∀ r', s'.held k = some r' → ∃ r, s.held k = some r ∧ r.owner = r'.owner) ∧
        ∀ r', s'.stored k = some r' → ∃ r, s.stored k = some r ∧ r.owner = r'.owner := by
      intro s' hs'
      by_cases hk : k = id
      · subst hk
        exact ⟨hs'.held, hs'.stored⟩
      · have hsame := hs'.others k hk
        exact ⟨fun r hr => ⟨r, hsame.held.symm.trans hr, rfl⟩,
          fun r hr => ⟨r, hsame.stored.symm.trans hr, rfl⟩⟩
    rcases answer with ⟨e | ⟨⟩, ledger⟩
    · exact hback _ hround
    · obtain ⟨hheld, hstored⟩ :=
        ih { s with store := SqliteLedgerStore.expire s.store id, ledger }
      obtain ⟨hheld', hstored'⟩ := hback _ hround
      have hboth : (∀ r', (sweep_loop { s with store := SqliteLedgerStore.expire s.store id, ledger }
            ids).2.held k = some r' → ∃ r, s.held k = some r ∧ r.owner = r'.owner) ∧
          ∀ r', (sweep_loop { s with store := SqliteLedgerStore.expire s.store id, ledger }
            ids).2.stored k = some r' → ∃ r, s.stored k = some r ∧ r.owner = r'.owner := by
        refine ⟨fun r' hr' => ?_, fun r' hr' => ?_⟩
        · obtain ⟨r, hr, hsame⟩ := hheld r' hr'
          obtain ⟨q, hq, hsame'⟩ := hheld' r hr
          exact ⟨q, hq, hsame'.trans hsame⟩
        · obtain ⟨r, hr, hsame⟩ := hstored r' hr'
          obtain ⟨q, hq, hsame'⟩ := hstored' r hr
          exact ⟨q, hq, hsame'.trans hsame⟩
      simp only
      split <;> rename_i hloop <;> rw [hloop] at hboth <;> exact hboth

/-- **The sweep passes rebates over**, however old their holds are. -/
theorem spared_sweep (h : Mine mine s) (reads : Reads) (exclude : List ReservationId) :
    Spared mine s (s.sweep_expired reads exclude).2 := by
  have hswaps : ∀ id ∈ (s.ledger.expired_swaps_as_of reads.now_unix).filter (· ∉ exclude), ¬mine id := by
    intro id hid hmine
    obtain ⟨r, hr, rfl⟩ := List.mem_map.mp (List.mem_filter.mp hid).1
    obtain ⟨hvalue, hp⟩ := List.mem_filter.mp hr
    simp only [decide_eq_true_eq] at hp
    obtain ⟨hpending, -, hswap⟩ := hp
    obtain ⟨e, he, rfl⟩ := List.mem_map.mp hvalue
    have hget := Std.ExtTreeMap.mem_toList_iff_getElem?_eq_some.mp he
    have hkey := h.keyed e.1 e.2 hget
    have hheld : s.held e.2.id = some e.2 :=
      held_eq_some.mpr ⟨hkey ▸ hget, by rw [hpending]; rfl⟩
    obtain ⟨b, howner⟩ := h.named e.2.id e.2 hmine ((h.agree _ hmine).symm.trans hheld)
    rw [howner] at hswap
    cases hswap
  have hloop : Spared mine s
      (s.sweep_loop ((s.ledger.expired_swaps_as_of reads.now_unix).filter (· ∉ exclude))).2 := by
    refine ⟨fun id hid => same_sweep_loop _ (fun hmem => hswaps id hmem hid) s,
      fun id r b hr howner => ?_, fun id r b hr howner => ?_⟩
    · obtain ⟨q, hq, hsame⟩ := (owners_sweep_loop _ s).1 r hr
      exact h.held id q b hq (hsame.trans howner)
    · obtain ⟨q, hq, hsame⟩ := (owners_sweep_loop _ s).2 r hr
      exact h.stored id q b hq (hsame.trans howner)
  unfold sweep_expired
  simp only
  split
  · rename_i heq
    rw [heq] at hloop
    exact hloop
  · rename_i heq
    rw [heq] at hloop
    split
    · exact hloop
    · exact ⟨fun id hid => ⟨(hloop.same id hid).memory, (hloop.same id hid).store⟩,
        hloop.held, hloop.stored⟩

/-! ## Every command -/

/-- What the other users of the ledger call: anything on ids that are not of `mine`, and
    the sweep. -/
def Foreign (mine : ReservationId → Prop) : ServiceCommand → Prop
  | .reserve _ id _ _ _ | .commit id | .post id _ | .void id | .expire id | .void_reorg id => ¬mine id
  | .reserve_owned id owner _ _ _ => ¬mine id ∧ owner.swap_intent.isSome = true
  | .reserve_rebate _ _ _ _ _ => False
  | .sweep_expired _ _ | .sync_budgets _ => True

theorem spared_reserve_owned (h : Mine mine s) {r : Reservation} (hid : ¬mine r.id)
    (hpending : r.state = .Pending) (howner : ∀ b, r.owner ≠ .Rebate b)
    (budgets : List (AccountKey × U256)) : Spared mine s (s.reserve_owned r budgets).2 := by
  rcases reserve_owned_cases s hpending budgets with ⟨e, s', heq, hsame⟩ |
    ⟨s', heq, -, hheld, hstored, hothers⟩
  · rw [heq]
    exact .of_same h hsame
  · rw [heq]
    refine .of_touches h hid hothers (fun q b hq => ?_) fun q b hq => ?_
    · obtain rfl := Option.some.inj (hheld.symm.trans hq)
      exact howner b
    · obtain rfl := Option.some.inj (hstored.symm.trans hq)
      exact howner b

/-- **Whatever the other users call, rebates keep what they hold.** -/
theorem spared_next (h : Mine mine s) {c : ServiceCommand} (hc : Foreign mine c) :
    Spared mine s (s.next c) := by
  match c with
  | .reserve reads id intent sources ttl_secs =>
    show Spared mine s (s.reserve reads id intent sources ttl_secs).2
    unfold reserve
    split
    · exact .of_same h fun id => .refl id s
    · refine spared_reserve_owned (r := .for_swap id intent sources _) h ?_ rfl nofun _
      exact hc
  | .reserve_owned id owner sources expires_at budgets =>
    refine spared_reserve_owned h hc.1 rfl (fun b hb => ?_) budgets
    have hswap := hc.2
    rw [show owner = .Rebate b from hb] at hswap
    cases hswap
  | .commit id => exact .of_keepsOwner h hc (keepsOwner_commit s id)
  | .post id filled => exact .of_keepsOwner h hc (keepsOwner_post s id filled)
  | .void id => exact .of_keepsOwner h hc (keepsOwner_void s id)
  | .expire id => exact .of_keepsOwner h hc (keepsOwner_expire s id)
  | .void_reorg id => exact .of_keepsOwner h hc (keepsOwner_void_reorg s id)
  | .sweep_expired reads exclude => exact spared_sweep h reads exclude
  | .sync_budgets answer =>
    refine .of_same h fun id => ?_
    show SameAt id s (s.sync_budgets answer).2
    unfold sync_budgets
    split
    · exact .refl id s
    · exact ⟨rfl, rfl⟩

end LedgerService

end Solvent
