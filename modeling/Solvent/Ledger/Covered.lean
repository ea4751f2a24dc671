import Mathlib
import Solvent.Ledger.Admission
import Solvent.Ledger.Durable

/-! # Admitted ledgers

    The service places only what the engine admits. So whatever budgets are
    fed, an account's compartments add up to a word, with one exception: a
    single promise whose own demand exceeds a word can be admitted on an
    account that owes nothing and is funded to the greatest word. Either way
    `pending` is the open demand and `consumed` the posted fills, each cut off
    at the greatest word.
-/

namespace Solvent

open BTreeMap

namespace Ledger

/-- Everything a service call can do to its ledger. -/
inductive Admitted (l : Ledger) : Ledger → Prop where
  | move {l' : Ledger} (h : Move l l') : Admitted l l'
  | place (r : Reservation) (hok : l.can_reserve r = .ok ()) (hopen : r.state.is_open = true) :
      Admitted l (l.restore r)

/-- Any number of such steps. -/
abbrev Admissions : Ledger → Ledger → Prop := Relation.ReflTransGen Admitted

theorem effect_of_admitted {l l' : Ledger} (h : Admitted l l') : Effect l l' := by
  cases h with
  | move h => exact .move h
  | place r hok hopen => exact effect_restore l r hopen

/-! ## Coverage -/

/-- What an account can look like. The two compartments are exact and add up to
    a word; or one promise holds more than a word; or one settlement pulled more
    than a word. -/
inductive CoveredAt (l : Ledger) (a : AccountKey) : Prop where
  | exact (hpend : (l.pending a).val = l.open_demand a)
      (hcons : (l.consumed a).val = l.posted_fills a) (hword : l.owed a < 2 ^ 256)
  | hold (id : ReservationId) (r : Reservation) (hr : l.reservations[id]? = some r)
      (hopen : r.state.is_open = true) (hall : demand r.sources a = l.open_demand a)
      (hbig : 2 ^ 256 ≤ l.open_demand a) (hpend : (l.pending a).val = 2 ^ 256 - 1)
      (hcons : (l.consumed a).val = 0) (hposted : l.posted_fills a = 0)
  | fill (id : ReservationId) (r : Reservation) (hr : l.reservations[id]? = some r)
      (hstate : r.state = .Posted)
      (hall : fill_demand r.sources (get_or l.filled id []) a = l.posted_fills a)
      (hbig : 2 ^ 256 ≤ l.posted_fills a) (hcons : (l.consumed a).val = 2 ^ 256 - 1)
      (hpend : (l.pending a).val = 0) (hnone : l.open_demand a = 0)

def Covered (l : Ledger) : Prop := ∀ a, l.CoveredAt a

/-- Both compartments are the exact sums, cut off at the greatest word. -/
theorem held_of_covered {l : Ledger} (hl : l.Covered) (a : AccountKey) :
    (l.pending a).val = min (l.open_demand a) (2 ^ 256 - 1) ∧
      (l.consumed a).val = min (l.posted_fills a) (2 ^ 256 - 1) := by
  cases hl a with
  | exact hpend hcons hword =>
    unfold owed at hword
    omega
  | hold id r hr hopen hall hbig hpend hcons hposted => omega
  | fill id r hr hstate hall hbig hcons hpend hnone => omega

theorem covered_empty : empty.Covered := by
  intro a
  refine .exact (conserves_empty.pending a) (conserves_empty.consumed a) ?_
  simp [owed, Ledger.pending, consumed, held_at, empty, Held.default]

/-- What a posted reservation pulled is part of the posted fills. -/
theorem fill_le_posted_fills {l : Ledger} {id : ReservationId} {r : Reservation}
    (hr : l.reservations[id]? = some r) (hstate : r.state = .Posted) (a : AccountKey) :
    fill_demand r.sources (get_or l.filled id []) a ≤ l.posted_fills a := by
  have hle := le_total (fun k q =>
    if q.state = .Posted then fill_demand q.sources (get_or l.filled k []) a else 0)
    l.reservations hr
  simp only [hstate, if_true] at hle
  exact hle

/-- Whatever was pulled is on record. -/
def Recorded (l : Ledger) (a : AccountKey) (id : ReservationId) (f : ℕ) : Prop :=
  0 < f → ∃ r : Reservation, l.reservations[id]? = some r ∧ r.state = .Posted ∧
    fill_demand r.sources (get_or l.filled id []) a = f

/-- The same sums and compartments, and no open or posted reservation lost. -/
theorem coveredAt_of_same {l l' : Ledger} {a : AccountKey} (hl : l.CoveredAt a)
    (hsum : l'.open_demand a = l.open_demand a) (hfills : l'.posted_fills a = l.posted_fills a)
    (hpend' : (l'.pending a).val = (l.pending a).val)
    (hcons' : (l'.consumed a).val = (l.consumed a).val)
    (hopens : ∀ (id : ReservationId) (r : Reservation), l.reservations[id]? = some r →
      r.state.is_open = true → ∃ q : Reservation, l'.reservations[id]? = some q ∧
        q.state.is_open = true ∧ q.sources = r.sources)
    (hposts : ∀ (id : ReservationId) (r : Reservation), l.reservations[id]? = some r →
      r.state = .Posted → l'.reservations[id]? = some r)
    (hfilled : l'.filled = l.filled) : l'.CoveredAt a := by
  cases hl with
  | exact hpend hcons hword =>
    unfold owed at hword
    refine .exact (by omega) (by omega) ?_
    unfold owed
    omega
  | hold id r hr hopen hall hbig hpend hcons hposted =>
    obtain ⟨q, hq, hqopen, hsources⟩ := hopens id r hr hopen
    exact .hold id q hq hqopen (by rw [hsources, hall, hsum]) (by omega) (by omega) (by omega)
      (by omega)
  | fill id r hr hstate hall hbig hcons hpend hnone =>
    exact .fill id r (hposts id r hr hstate) hstate (by rw [hfilled, hall, hfills]) (by omega)
      (by omega) (by omega) (by omega)

/-- **Closing step.** A reservation that closes takes its demand out of
    `pending` and puts what it pulled, up to as much, into `consumed`. -/
theorem coveredAt_of_close {l l' : Ledger} {a : AccountKey} (hl : l.CoveredAt a)
    {id : ReservationId} {r : Reservation} (hr : l.reservations[id]? = some r)
    (hopen : r.state.is_open = true) {f : ℕ} (hf : f ≤ demand r.sources a)
    (hothers : ∀ k : ReservationId, k ≠ id → l'.reservations[k]? = l.reservations[k]? ∧
      l'.filled[k]? = l.filled[k]?)
    (hsum : l'.open_demand a + demand r.sources a = l.open_demand a)
    (hfills : l'.posted_fills a = l.posted_fills a + f)
    (hpend' : (l'.pending a).val = (l.pending a).val - demand r.sources a)
    (hcons' : (l'.consumed a).val = min ((l.consumed a).val + f) (2 ^ 256 - 1))
    (hrecord : l'.Recorded a id f) :
    l'.CoveredAt a := by
  have hle := demand_le_open_demand hr hopen a
  cases hl with
  | exact hpend hcons hword =>
    unfold owed at hword
    refine .exact (by omega) (by omega) ?_
    unfold owed
    omega
  | hold lone q hq hqopen hall hbig hpend hcons hposted =>
    by_cases hlone : lone = id
    · -- The one large promise closes, and nothing else draws on the account.
      subst hlone
      rw [hr] at hq
      obtain rfl := Option.some.inj hq
      by_cases hword : f < 2 ^ 256
      · refine .exact (by omega) (by omega) ?_
        unfold owed
        omega
      · obtain ⟨q', hq', hstate', hfill'⟩ := hrecord (by omega)
        exact .fill lone q' hq' hstate' (by omega) (by omega) (by omega) (by omega) (by omega)
    · have hq' := (hothers lone hlone).1.trans hq
      have hle' := demand_le_open_demand hq' hqopen a
      exact .hold lone q hq' hqopen (by omega) (by omega) (by omega) (by omega) (by omega)
  | fill lone q hq hstate hall hbig hcons hpend hnone =>
    have hlone : lone ≠ id := by
      intro e
      rw [e, hr] at hq
      obtain rfl := Option.some.inj hq
      exact ne_posted_of_open hopen hstate
    obtain ⟨hres, hfilled⟩ := hothers lone hlone
    have hsame : get_or l'.filled lone [] = get_or l.filled lone [] := by
      unfold get_or
      rw [hfilled]
    refine .fill lone q (hres.trans hq) hstate ?_ (by omega) (by omega) (by omega) (by omega)
    rw [hsame]
    omega

/-- **Reversal step.** A posted reservation that a reorg takes back takes what
    it pulled out of `consumed`. -/
theorem coveredAt_of_reorg {l l' : Ledger} {a : AccountKey} (hl : l.CoveredAt a)
    {id : ReservationId} {r : Reservation} (hr : l.reservations[id]? = some r)
    (hstate : r.state = .Posted)
    (hothers : ∀ k : ReservationId, k ≠ id → l'.reservations[k]? = l.reservations[k]? ∧
      l'.filled[k]? = l.filled[k]?)
    (hsum : l'.open_demand a = l.open_demand a)
    (hfills : l'.posted_fills a + fill_demand r.sources (get_or l.filled id []) a =
      l.posted_fills a)
    (hpend' : (l'.pending a).val = (l.pending a).val)
    (hcons' : (l'.consumed a).val =
      (l.consumed a).val - fill_demand r.sources (get_or l.filled id []) a) :
    l'.CoveredAt a := by
  cases hl with
  | exact hpend hcons hword =>
    unfold owed at hword
    refine .exact (by omega) (by omega) ?_
    unfold owed
    omega
  | hold lone q hq hqopen hall hbig hpend hcons hposted =>
    have hlone : lone ≠ id := by
      intro e
      rw [e, hr] at hq
      obtain rfl := Option.some.inj hq
      exact ne_posted_of_open hqopen hstate
    exact .hold lone q ((hothers lone hlone).1.trans hq) hqopen (by omega) (by omega) (by omega)
      (by omega) (by omega)
  | fill lone q hq hqstate hall hbig hcons hpend hnone =>
    by_cases hlone : lone = id
    · -- The one large settlement is undone.
      subst hlone
      rw [hr] at hq
      obtain rfl := Option.some.inj hq
      refine .exact (by omega) (by omega) ?_
      unfold owed
      omega
    · obtain ⟨hres, hfilled⟩ := hothers lone hlone
      have hq' := hres.trans hq
      have hsame : get_or l'.filled lone [] = get_or l.filled lone [] := by
        unfold get_or
        rw [hfilled]
      have hle := fill_le_posted_fills hq' hqstate a
      rw [hsame] at hle
      refine .fill lone q hq' hqstate ?_ (by omega) (by omega) (by omega) (by omega)
      rw [hsame]
      omega

theorem covered_of_move {l l' : Ledger} (hl : l.Covered) (h : Move l l') : l'.Covered := by
  intro a
  cases h with
  | idle => exact hl a
  | budgets budgets =>
    exact coveredAt_of_same (hl a) rfl rfl rfl rfl (fun id r hr hopen => ⟨r, hr, hopen, rfl⟩)
      (fun id r hr _ => hr) rfl
  | commit id r hr hstate =>
    have hopen := open_demand_set_state hr .Committed l.held l.filled a
    rw [hstate, if_pos (by decide), if_pos (by decide)] at hopen
    have hposted := posted_fills_set_state hr .Committed l.held l.filled (fun _ _ => rfl) a
    rw [hstate, if_neg (by decide), if_neg (by decide)] at hposted
    refine coveredAt_of_same (hl a) (Nat.add_right_cancel hopen) hposted rfl rfl ?_ ?_ rfl
    · intro k q hq hqopen
      by_cases hk : id = k
      · subst hk
        rw [hr] at hq
        obtain rfl := Option.some.inj hq
        exact ⟨{ r with state := .Committed }, by simp [set_state], rfl, rfl⟩
      · exact ⟨q, by simp [set_state, get_insert, hk, hq], hqopen, rfl⟩
    · intro k q hq hqstate
      have hk : id ≠ k := by
        intro e
        rw [← e, hr] at hq
        obtain rfl := Option.some.inj hq
        simp [hstate] at hqstate
      simp [set_state, get_insert, hk, hq]
  | post id r filled hr hopen hfills =>
    have hlen : filled.length = r.sources.length := ((fillsWithin_iff _ _ 0).mp hfills).1
    have hsum := open_demand_set_state hr .Posted
      (apply_steps l.held (post_steps r.sources filled)) (l.filled.insert id filled) a
    rw [if_pos hopen, if_neg (by decide)] at hsum
    have hposted := posted_fills_set_state hr .Posted
      (apply_steps l.held (post_steps r.sources filled)) (l.filled.insert id filled)
      (fun k hk => get_insert_ne _ _ (fun e => hk e.symm)) a
    rw [get_or_insert, if_pos rfl, if_neg (ne_posted_of_open hopen), if_pos rfl] at hposted
    obtain ⟨hpend, hcons⟩ := post_held l.held filled hlen a
    refine coveredAt_of_close (hl a) hr hopen (fill_demand_le_demand hfills a) ?_ hsum hposted
      hpend hcons ?_
    · intro k hk
      exact ⟨get_insert_ne _ _ fun e => hk e.symm, get_insert_ne _ _ fun e => hk e.symm⟩
    · intro _
      refine ⟨{ r with state := .Posted }, by simp [set_state], rfl, ?_⟩
      rw [get_or_insert, if_pos rfl]
  | release id r terminal hr hopen hterm =>
    have hclosed : terminal.is_open = false := by
      rcases hterm with h | h <;> simp [h, ReservationState.is_open]
    have hne : terminal ≠ .Posted := by
      rcases hterm with h | h <;> simp [h]
    have hsum := open_demand_set_state hr terminal
      (apply_steps l.held (release_steps r.sources)) l.filled a
    rw [if_pos hopen, hclosed, if_neg (by decide)] at hsum
    have hposted := posted_fills_set_state hr terminal
      (apply_steps l.held (release_steps r.sources)) l.filled (fun _ _ => rfl) a
    rw [if_neg (ne_posted_of_open hopen), if_neg hne] at hposted
    obtain ⟨hpend, hcons⟩ := release_held l.held r.sources a
    refine coveredAt_of_close (f := 0) (hl a) hr hopen (Nat.zero_le _) ?_ hsum hposted hpend ?_
      (fun h => absurd h (lt_irrefl 0))
    · intro k hk
      exact ⟨get_insert_ne _ _ fun e => hk e.symm, rfl⟩
    · show (get_or (apply_steps l.held _) a Held.default).consumed.val = _
      have hlt := (l.consumed a).isLt
      have hsame : (get_or l.held a Held.default).consumed.val = (l.consumed a).val := rfl
      rw [hcons]
      omega
  | reorg id r hr hstate =>
    have hsum := open_demand_set_state hr .ReorgOpen
      (apply_steps l.held (reorg_steps r.sources (get_or l.filled id []))) (l.filled.erase id) a
    rw [hstate, if_neg (by decide), if_neg (by decide)] at hsum
    have hposted := posted_fills_set_state hr .ReorgOpen
      (apply_steps l.held (reorg_steps r.sources (get_or l.filled id []))) (l.filled.erase id)
      (fun k hk => by rw [get_erase, if_neg (fun e => hk e.symm)]) a
    rw [hstate, if_pos rfl, if_neg (by decide)] at hposted
    obtain ⟨hpend, hcons⟩ := reorg_held l.held r.sources (get_or l.filled id []) a
    refine coveredAt_of_reorg (hl a) hr hstate ?_ hsum hposted (congrArg Fin.val hpend) hcons
    intro k hk
    refine ⟨get_insert_ne _ _ fun e => hk e.symm, ?_⟩
    show (l.filled.erase id)[k]? = _
    rw [get_erase, if_neg fun e => hk e.symm]

/-- **Coverage step.** Whatever budgets are fed, admission keeps every account
    covered. -/
theorem covered_of_admitted {l l' : Ledger} (hl : l.Covered) (h : Admitted l l') :
    l'.Covered := by
  cases h with
  | move h => exact covered_of_move hl h
  | place r hok hopen =>
    intro a
    have hnew := (can_reserve_ok hok).1
    have hroom := room_of_can_reserve hok a
    obtain ⟨hpend, hcons⟩ := owed_place l hnew a
    have hbudget := (l.budget a).isLt
    have hsum : (l.restore r).open_demand a = l.open_demand a + demand r.sources a := by
      rw [restore_of_none hnew]
      exact open_demand_insert _ hnew hopen a
    have hfills : (l.restore r).posted_fills a = l.posted_fills a := by
      rw [restore_of_none hnew]
      exact posted_fills_insert _ hnew hopen a
    have hkept : ∀ (k : ReservationId) (q : Reservation), l.reservations[k]? = some q →
        (l.restore r).reservations[k]? = some q := by
      intro k q hq
      have hk : r.id ≠ k := by
        intro e
        rw [← e, hnew] at hq
        simp at hq
      simp [restore_of_none hnew, get_insert, hk, hq]
    have hfilled : (l.restore r).filled = l.filled := by rw [restore_of_none hnew]
    have hcons' := congrArg Fin.val hcons
    unfold available at hroom
    simp only [U256.saturating_sub_val, U256.saturating_add_val] at hroom
    by_cases hzero : demand r.sources a = 0
    · have hlt := (l.pending a).isLt
      exact coveredAt_of_same (hl a) (by omega) hfills (by omega) hcons'
        (fun k q hq hqopen => ⟨q, hkept k q hq, hqopen, rfl⟩) (fun k q hq _ => hkept k q hq) hfilled
    · cases hl a with
      | exact hexact hexact' hword =>
        unfold owed at hword
        by_cases hfits : demand r.sources a < 2 ^ 256
        · refine .exact (by omega) (by omega) ?_
          unfold owed
          omega
        · -- More than a word is admitted only where nothing is owed yet.
          exact .hold r.id r (by simp [restore_of_none hnew]) hopen (by omega) (by omega)
            (by omega) (by omega) (by omega)
      | hold lone q hq hqopen hall hbig hmax hnone hposted => omega
      | fill lone q hq hstate hall hbig hmax hnone hempty => omega

theorem covered_of_admissions {l : Ledger} (h : Admissions empty l) : l.Covered := by
  induction h with
  | refl => exact covered_empty
  | tail _ hstep ih => exact covered_of_admitted ih hstep

end Ledger

namespace LedgerService

/-! ## The service places only what is admitted -/

theorem admissions_feed (l : Ledger) (budgets : List (AccountKey × U256)) :
    Ledger.Admissions l (feed l budgets) := by
  obtain ⟨fed, hfed⟩ := feed_eq l budgets
  rw [hfed]
  exact .single (.move (.budgets fed))

theorem admissions_command (l : Ledger) {c : Command} (hc : c.Places = false) :
    Ledger.Admissions l (l.exec c).2 :=
  .single (.move (Ledger.move_next l hc))

theorem admissions_reserve_owned (s : LedgerService) {r : Reservation}
    (hstate : r.state = .Pending) (budgets : List (AccountKey × U256)) :
    Ledger.Admissions s.ledger (s.reserve_owned r budgets).2.ledger := by
  have hfed := admissions_feed s.ledger budgets
  unfold reserve_owned
  simp only
  split
  · exact hfed
  · rename_i hok
    split
    · exact hfed
    · exact hfed.tail (.place r hok (by simp [hstate, ReservationState.is_open]))

theorem admissions_durable_first (s : LedgerService) (store : SqliteLedgerStore)
    {answer : Except LedgerError Unit × Ledger} (h : Ledger.Admissions s.ledger answer.2) :
    Ledger.Admissions s.ledger (no_intents (s.durable_first store answer)).2.ledger := by
  obtain ⟨result, ledger⟩ := answer
  cases result <;> exact h

theorem admissions_sweep_loop (s : LedgerService) (ids : List ReservationId) :
    Ledger.Admissions s.ledger (s.sweep_loop ids).2.ledger := by
  induction ids generalizing s with
  | nil => exact .refl
  | cons id ids ih =>
    have hexp : Ledger.Admissions s.ledger (s.ledger.expire id).2 :=
      admissions_command s.ledger (c := .expire id) rfl
    rw [sweep_loop]
    cases h : s.ledger.expire id with
    | mk result ledger =>
      rw [h] at hexp
      cases result with
      | error e => exact hexp
      | ok u =>
        have hrest := ih { s with store := SqliteLedgerStore.expire s.store id, ledger }
        simp only
        split
        · rename_i e s' hloop
          rw [hloop] at hrest
          exact hexp.trans hrest
        · rename_i swept s' hloop
          rw [hloop] at hrest
          exact hexp.trans hrest

/-- **Effect lemma.** A service call moves what its ledger records or places what
    the ledger admits. -/
theorem admissions_exec (s : LedgerService) (c : ServiceCommand) :
    Ledger.Admissions s.ledger (s.next c).ledger := by
  unfold next
  cases c with
  | reserve reads id intent sources ttl_secs =>
    simp only [exec, reserve]
    split
    · exact .refl
    · exact admissions_reserve_owned s rfl _
  | reserve_rebate reads id batch sources ttl_secs =>
    simp only [exec, reserve_rebate]
    split
    · exact .refl
    · exact admissions_reserve_owned s rfl _
  | reserve_owned id owner sources expires_at budgets =>
    exact admissions_reserve_owned s rfl budgets
  | commit id =>
    exact admissions_durable_first s _ (admissions_command s.ledger (c := .commit id) rfl)
  | post id filled =>
    exact admissions_durable_first s _ (admissions_command s.ledger (c := .post id filled) rfl)
  | void id =>
    exact admissions_durable_first s _ (admissions_command s.ledger (c := .void id) rfl)
  | expire id =>
    exact admissions_durable_first s _ (admissions_command s.ledger (c := .expire id) rfl)
  | void_reorg id =>
    exact admissions_durable_first s _ (admissions_command s.ledger (c := .void_reorg id) rfl)
  | sweep_expired reads exclude =>
    have hloop := admissions_sweep_loop s
      ((s.ledger.expired_swaps_as_of reads.now_unix).filter (· ∉ exclude))
    simp only [exec, sweep_expired]
    split
    · rename_i e s' heq
      rw [heq] at hloop
      exact hloop
    · rename_i swept s' heq
      rw [heq] at hloop
      split <;> exact hloop
  | sync_budgets answer =>
    cases answer with
    | error e => exact .refl
    | ok budgets => exact .single (.move (.budgets budgets))

end LedgerService

end Solvent
