import Mathlib
import Solvent.Execution.Service
import Solvent.Ledger.Recovery
import Solvent.Trade.Store

/-! # The reconcile service

    One tick settles every tracked fill whose transaction is terminal, settles
    its trade, forgets the fill, and then sweeps the holds whose time is up.

    The pass over the tracked fills stops at the first error it does not absorb,
    so one such fill keeps every later one unsettled. `Settleable` says which
    sets of fills hold no such fill; it speaks about the ledger as the pass
    finds it.
-/

namespace Solvent

open BTreeMap

/-- The durable and in-memory state the services share. -/
structure Backend where
  ledger : LedgerService
  fills : SqliteFillStore
  trades : SqliteTradeStore

namespace ReconcileService

/-! ## One tick -/

/-- A terminal settlement of a fill that reverted, was dropped or timed out. -/
def failed (now : U64) : Settlement :=
  { status := .Failed, amount_out := none, tx_hash := none, block_number := none, at_time := now }

/-- Resolve the trade of a settled order and apply its settlement; a missing
    trade is a no-op. -/
def apply (trades : SqliteTradeStore) (intent : IntentId) (settlement : TradeRow → Settlement) :
    Except TradeStoreError Unit × SqliteTradeStore :=
  match trades.find_by_order intent with
  | none => (.ok (), trades)
  | some (id, trade) => trades.settle id (settlement trade)

/-- A confirmed exact-out fill delivered its signed floor; a failed one has no
    output. -/
def settlement_of (outcome : SettledOutcome) (now : U64) (trade : TradeRow) : Settlement :=
  match outcome with
  | .Confirmed tx block =>
    { status := .Confirmed, amount_out := some trade.min_amount_out, tx_hash := some tx,
      block_number := some block, at_time := now }
  | .Failed => failed now

/-- Settle each fill's trade, then forget the fill. -/
def settle_trades (b : Backend) (now : U64) :
    List Settled → Except SolventError Unit × Backend
  | [] => (.ok (), b)
  | fill :: fills =>
    match apply b.trades fill.intent (settlement_of fill.outcome now) with
    | (.error e, trades) => (.error (.TradeStore e), { b with trades })
    | (.ok (), trades) =>
      settle_trades { b with trades, fills := b.fills.untrack fill.intent } now fills

/-- Fail the trades of the swept reservations. -/
def fail_swept (b : Backend) (now : U64) : List IntentId → Except SolventError Unit × Backend
  | [] => (.ok (), b)
  | intent :: intents =>
    match apply b.trades intent (fun _ => failed now) with
    | (.error e, trades) => (.error (.TradeStore e), { b with trades })
    | (.ok (), trades) => fail_swept { b with trades } now intents

/-- The part of the tick that follows the settlements. -/
def sweep (b : Backend) (now sweep_now : U64) : Except SolventError Unit × Backend :=
  let in_flight := b.fills.rows.map TrackedFill.reservation
  match b.ledger.sweep_expired { now_unix := sweep_now, budget := fun _ => .ok 0 } in_flight with
  | (.error e, ledger) => (.error e, { b with ledger })
  | (.ok swept, ledger) => fail_swept { b with ledger } now swept

/-- One reconcile pass. `now` is the clock after the pass over the fills and
    `sweep_now` the clock the sweep reads. -/
def tick (b : Backend) (reads : ExecutionReads) (now sweep_now : U64) :
    Except SolventError Unit × Backend :=
  match ExecutionService.reconcile b.ledger reads b.fills.rows with
  | (.error e, ledger) => (.error e, { b with ledger })
  | (.ok settled, ledger) =>
    match settle_trades { b with ledger } now settled with
    | (.error e, b) => (.error e, b)
    | (.ok (), b) => sweep b now sweep_now

end ReconcileService

namespace ExecutionService

/-! ## When the pass over the fills succeeds -/

/-- The outcome of a terminal fill. -/
def terminal (reads : ExecutionReads) (f : TrackedFill) : Option SettledOutcome :=
  match reads.status f.intent with
  | some (.Confirmed block tx) => some (.Confirmed tx block)
  | some (.Failed _) | some .Dropped => some .Failed
  | _ => none

theorem terminal_confirmed {reads : ExecutionReads} {f : TrackedFill} {tx : B256} {block : U64}
    (h : terminal reads f = some (.Confirmed tx block)) :
    reads.status f.intent = some (.Confirmed block tx) := by
  unfold terminal at h
  cases hstatus : reads.status f.intent with
  | none => simp [hstatus] at h
  | some status =>
    rw [hstatus] at h
    cases status with
    | Confirmed block' tx' =>
      simp only [Option.some.injEq, SettledOutcome.Confirmed.injEq] at h
      obtain ⟨rfl, rfl⟩ := h
      rfl
    | Pending => simp at h
    | Failed reason => simp at h
    | Dropped => simp at h

/-- What a pass without errors reports. -/
def all_settled (reads : ExecutionReads) (fills : List TrackedFill) : List Settled :=
  fills.filterMap fun f => (terminal reads f).map fun outcome => { intent := f.intent, outcome }

/-- No source was pulled beyond what it reserved. -/
def PulledWithin (pulls : List AquaEvent) (r : Reservation) : Prop :=
  ∀ source ∈ r.sources, pulled_for pulls source ≤ source.amount

/-- The pass absorbs this fill: a fill that did not land has its reservation on
    record, and a confirmed one pulled no more than was reserved, if its
    reservation is pending and no earlier terminal fill closed it. -/
def FillOk (l : Ledger) (reads : ExecutionReads) (earlier : List TrackedFill)
    (f : TrackedFill) : Prop :=
  match reads.status f.intent with
  | some (.Confirmed _ tx) =>
    (∀ g ∈ earlier, g.reservation = f.reservation → terminal reads g = none) →
      ∀ r : Reservation, l.reservations[f.reservation]? = some r → r.state = .Pending →
        PulledWithin (reads.receipt tx) r
  | some (.Failed _) | some .Dropped => (l.reservations[f.reservation]?).isSome
  | _ => True

/-- Every fill of the list is absorbed, the ones before it being earlier. -/
def SettleableAfter (l : Ledger) (reads : ExecutionReads) (earlier fills : List TrackedFill) :
    Prop :=
  ∀ (pre : List TrackedFill) (f : TrackedFill) (post : List TrackedFill),
    fills = pre ++ f :: post → FillOk l reads (earlier ++ pre) f

def Settleable (l : Ledger) (reads : ExecutionReads) (fills : List TrackedFill) : Prop :=
  SettleableAfter l reads [] fills

theorem settleableAfter_cons {l : Ledger} {reads : ExecutionReads} {earlier : List TrackedFill}
    {f : TrackedFill} {fs : List TrackedFill} :
    SettleableAfter l reads earlier (f :: fs) ↔
      FillOk l reads earlier f ∧ SettleableAfter l reads (earlier ++ [f]) fs := by
  unfold SettleableAfter
  constructor
  · intro h
    refine ⟨by simpa using h [] f fs rfl, ?_⟩
    intro pre g post heq
    have := h (f :: pre) g post (by rw [heq]; rfl)
    simpa using this
  · intro h pre g post heq
    obtain ⟨hhead, htail⟩ := h
    cases pre with
    | nil =>
      obtain ⟨rfl, rfl⟩ := List.cons.inj heq
      simpa using hhead
    | cons p pre =>
      obtain ⟨rfl, hrest⟩ := List.cons.inj heq
      simpa using htail pre g post hrest

/-- How the ledger of a pass relates to the one it started from: the same ids
    are on record, the reservation of a terminal fill is no longer pending, and
    the others are as they were. -/
structure After (l : Ledger) (reads : ExecutionReads) (earlier : List TrackedFill)
    (l' : Ledger) : Prop where
  known : ∀ id : ReservationId, (l'.reservations[id]?).isSome = (l.reservations[id]?).isSome
  closed : ∀ g ∈ earlier, terminal reads g ≠ none →
    ∀ r : Reservation, l'.reservations[g.reservation]? = some r → r.state ≠ .Pending
  same : ∀ id : ReservationId,
    (∀ g ∈ earlier, g.reservation = id → terminal reads g = none) →
      l'.reservations[id]? = l.reservations[id]?

theorem after_refl (l : Ledger) (reads : ExecutionReads) : After l reads [] l where
  known := fun _ => rfl
  closed := by simp
  same := fun _ _ => rfl

/-! ### One fill -/

/-- The step closes one id and leaves the other reservations alone. -/
structure Closes (l : Ledger) (id : ReservationId) (l' : Ledger) : Prop where
  known : ∀ k : ReservationId, (l'.reservations[k]?).isSome = (l.reservations[k]?).isSome
  closed : ∀ r : Reservation, l'.reservations[id]? = some r → r.state ≠ .Pending
  same : ∀ k : ReservationId, k ≠ id → l'.reservations[k]? = l.reservations[k]?

theorem closes_set_state {l l' : Ledger} {id : ReservationId} {r : Reservation}
    (hr : l.reservations[id]? = some r) (state : ReservationState) (hstate : state ≠ .Pending)
    (hl' : l'.reservations = l.set_state id r state) : Closes l id l' where
  known := by
    intro k
    rw [hl', Ledger.set_state, get_insert]
    by_cases hk : id = k
    · subst hk
      simp [hr]
    · simp [hk]
  closed := by
    intro q hq
    rw [hl', Ledger.set_state, get_insert, if_pos rfl] at hq
    obtain rfl := Option.some.inj hq
    exact hstate
  same := by
    intro k hk
    rw [hl', Ledger.set_state, get_insert, if_neg (fun e => hk e.symm)]

/-- A fill that did not land is absorbed exactly when its reservation is on
    record. -/
theorem settle_void (s : LedgerService) (id : ReservationId) :
    ((s.ledger.reservations[id]?).isSome →
      settle (s.void id).1 = .ok () ∧ Closes s.ledger id (s.void id).2.ledger) ∧
    (s.ledger.reservations[id]? = none →
      settle (s.void id).1 = .error (.Ledger (.Unknown id))) := by
  constructor
  · intro hknown
    obtain ⟨r, hr⟩ := Option.isSome_iff_exists.mp hknown
    rcases Ledger.void_cases s.ledger id with ⟨r', hr', _, heq⟩ | ⟨⟨e, heq⟩, hclosed⟩
    · have hvoid : s.void id = (.ok (), (s.void id).2) := by
        simp [LedgerService.void, LedgerService.durable_first, heq]
      refine ⟨by rw [hvoid]; rfl, ?_⟩
      refine closes_set_state hr' .Voided (by decide) ?_
      simp [LedgerService.void, LedgerService.durable_first, LedgerService.publish, heq]
    · -- The reservation is terminal already: the engine answers `WrongState`.
      have hstate := hclosed r hr
      have hans : s.ledger.void id = (.error (.WrongState id r.state .Pending), s.ledger) := by
        unfold Ledger.void Ledger.active_sources
        rw [hr]
        cases hs : r.state <;> simp [hs, ReservationState.is_open] at hstate ⊢
      refine ⟨by simp [LedgerService.void, LedgerService.durable_first, hans, settle], ?_⟩
      refine ⟨?_, ?_, ?_⟩
      · intro k
        simp [LedgerService.void, LedgerService.durable_first, hans]
      · intro q hq hpending
        simp only [LedgerService.void, LedgerService.durable_first, hans] at hq
        have := hclosed q hq
        simp [hpending, ReservationState.is_open] at this
      · intro k _
        simp [LedgerService.void, LedgerService.durable_first, hans]
  · intro hnone
    simp [LedgerService.void, LedgerService.durable_first, Ledger.void, Ledger.active_sources,
      hnone, settle]

theorem fillsWithin_settled (pulls : List AquaEvent) (r : Reservation) :
    FillsWithin r.sources (settled pulls r.sources) ↔ PulledWithin pulls r := by
  unfold FillsWithin settled PulledWithin
  rw [List.forall₂_map_right_iff, List.forall₂_same]

theorem reservation_sources_eq (s : LedgerService) (id : ReservationId) :
    s.reservation_sources id =
      match s.ledger.reservations[id]? with
      | some r => if r.state = .Pending then some r.sources else none
      | none => none := by
  unfold LedgerService.reservation_sources Ledger.reservation
  cases hr : s.ledger.reservations[id]? with
  | none => rfl
  | some r =>
    by_cases hs : r.state = .Pending
    · simp [hs, Option.filter_some]
    · simp [hs, Option.filter_some]

/-- An overfill is reported as such. -/
theorem overfill_error (sources : List ReservationSource) (filled : List U256) (index : ℕ)
    {e : LedgerError} (h : Ledger.first_overfill index sources filled = some e) :
    ∃ i fill reserved, e = .FillExceedsReserved i fill reserved := by
  induction sources generalizing filled index with
  | nil => simp [Ledger.first_overfill] at h
  | cons s ss ih =>
    cases filled with
    | nil => simp [Ledger.first_overfill] at h
    | cons f fs =>
      rw [Ledger.first_overfill] at h
      split at h
      · exact ⟨_, _, _, (Option.some.inj h).symm⟩
      · exact ih fs (index + 1) h

/-- A confirmed fill is absorbed exactly when a pending reservation was not
    pulled beyond what it reserved. -/
theorem settle_confirmed_spec (s : LedgerService) (reads : ExecutionReads) (id : ReservationId)
    (tx : B256) :
    ((∀ r : Reservation, s.ledger.reservations[id]? = some r → r.state = .Pending →
        PulledWithin (reads.receipt tx) r) →
      (settle_confirmed s reads id tx).1 = .ok () ∧
        Closes s.ledger id (settle_confirmed s reads id tx).2.ledger) ∧
    ((∃ r : Reservation, s.ledger.reservations[id]? = some r ∧ r.state = .Pending ∧
        ¬ PulledWithin (reads.receipt tx) r) →
      ∃ e, (settle_confirmed s reads id tx).1 = .error e) := by
  unfold settle_confirmed
  rw [reservation_sources_eq]
  cases hr : s.ledger.reservations[id]? with
  | none =>
    refine ⟨fun _ => ⟨rfl, ?_⟩, by simp⟩
    refine ⟨fun _ => rfl, ?_, fun _ _ => rfl⟩
    intro q hq
    rw [hr] at hq
    simp at hq
  | some r =>
    by_cases hs : r.state = .Pending
    · simp only [hs, if_true]
      rcases Ledger.post_cases s.ledger id (settled (reads.receipt tx) r.sources) with
        ⟨r', hr', _, hfills, heq⟩ | ⟨⟨e, heq⟩, hno⟩
      · rw [hr] at hr'
        obtain rfl := Option.some.inj hr'
        refine ⟨fun _ => ⟨?_, ?_⟩, ?_⟩
        · simp [LedgerService.post, LedgerService.durable_first, heq, settle]
        · refine closes_set_state hr .Posted (by decide) ?_
          simp [LedgerService.post, LedgerService.durable_first, LedgerService.publish, heq]
        · intro h
          obtain ⟨q, hq, _, hnot⟩ := h
          obtain rfl := Option.some.inj hq
          exact absurd ((fillsWithin_settled _ _).mp hfills) hnot
      · have hopen : r.state.is_open = true := by simp [hs, ReservationState.is_open]
        have hover : ¬ PulledWithin (reads.receipt tx) r :=
          fun h => hno r hr hopen ((fillsWithin_settled _ _).mpr h)
        refine ⟨fun h => absurd (h r rfl hs) hover, fun _ => ?_⟩
        -- An open reservation is refused for its fills, never with `WrongState`.
        have hnot : ∀ a b c, e ≠ .WrongState a b c := by
          intro a b c he
          have hsources : s.ledger.active_sources id = .ok r.sources :=
            Ledger.active_sources_ok.mpr ⟨r, hr, hopen, rfl⟩
          have hlen : (settled (reads.receipt tx) r.sources).length = r.sources.length := by
            simp [settled]
          simp only [Ledger.post, hsources, hlen, ne_eq, not_true_eq_false, if_false] at heq
          split at heq
          · rename_i e' hover'
            have he' := overfill_error _ _ 0 hover'
            obtain ⟨i, f, a', he'⟩ := he'
            simp_all
          · simp at heq
        refine ⟨.Ledger e, ?_⟩
        simp only [LedgerService.post, LedgerService.durable_first, heq]
        cases e with
        | WrongState a b c => exact absurd rfl (hnot a b c)
        | _ => rfl
    · simp only [hs, if_false]
      refine ⟨fun _ => ⟨trivial, ?_⟩, ?_⟩
      · refine ⟨fun _ => rfl, ?_, fun _ _ => rfl⟩
        intro q hq
        rw [hr] at hq
        obtain rfl := Option.some.inj hq
        exact hs
      · intro h
        obtain ⟨q, hq, hqs, _⟩ := h
        obtain rfl := Option.some.inj hq
        exact absurd hqs hs

/-- What a fill that did not land reports. -/
theorem report_void (s : LedgerService) (f : TrackedFill) :
    let report : Except SolventError (Option Settled) × LedgerService :=
      ((settle (s.void f.reservation).1).map fun _ =>
        some { intent := f.intent, outcome := .Failed }, (s.void f.reservation).2)
    ((s.ledger.reservations[f.reservation]?).isSome →
      ∃ s', report = (.ok (some { intent := f.intent, outcome := .Failed }), s') ∧
        Closes s.ledger f.reservation s'.ledger) ∧
    (¬ (s.ledger.reservations[f.reservation]?).isSome → ∃ e s', report = (.error e, s')) := by
  obtain ⟨hok, hbad⟩ := settle_void s f.reservation
  constructor
  · intro hknown
    obtain ⟨hresult, hcloses⟩ := hok hknown
    exact ⟨(s.void f.reservation).2, by rw [hresult]; rfl, hcloses⟩
  · intro hunknown
    have hresult := hbad (by simpa using hunknown)
    exact ⟨.Ledger (.Unknown f.reservation), (s.void f.reservation).2, by rw [hresult]; rfl⟩

/-- **Fill lemma.** A fill in flight changes nothing; a terminal one is reported
    and closes its reservation, or ends the pass. -/
theorem settle_fill_spec (s : LedgerService) (reads : ExecutionReads) (f : TrackedFill) :
    (terminal reads f = none → settle_fill s reads f = (.ok none, s)) ∧
    (∀ outcome, terminal reads f = some outcome → FillOk s.ledger reads [] f →
      ∃ s', settle_fill s reads f = (.ok (some { intent := f.intent, outcome }), s') ∧
        Closes s.ledger f.reservation s'.ledger) ∧
    (terminal reads f ≠ none → ¬ FillOk s.ledger reads [] f →
      ∃ e s', settle_fill s reads f = (.error e, s')) := by
  unfold terminal settle_fill FillOk
  cases hstatus : reads.status f.intent with
  | none => simp
  | some status =>
    cases status with
    | Pending => simp
    | Confirmed block tx =>
      obtain ⟨hok, hbad⟩ := settle_confirmed_spec s reads f.reservation tx
      refine ⟨by simp, ?_, ?_⟩
      · intro outcome hout hfill
        obtain ⟨hresult, hcloses⟩ := hok (hfill (by simp))
        simp only [Option.some.injEq] at hout
        subst hout
        exact ⟨(settle_confirmed s reads f.reservation tx).2, by simp [hresult, Except.map], hcloses⟩
      · intro _ hnot
        simp only [List.not_mem_nil, false_implies, implies_true, forall_const, not_forall,
          exists_prop] at hnot
        obtain ⟨r, hr, hs, hover⟩ := hnot
        obtain ⟨e, hresult⟩ := hbad ⟨r, hr, hs, hover⟩
        exact ⟨e, (settle_confirmed s reads f.reservation tx).2, by simp [hresult, Except.map]⟩
    | Failed reason =>
      obtain ⟨hok, hbad⟩ := report_void s f
      refine ⟨by simp, ?_, fun _ hnot => hbad hnot⟩
      intro outcome hout hfill
      obtain rfl := Option.some.inj hout
      exact hok hfill
    | Dropped =>
      obtain ⟨hok, hbad⟩ := report_void s f
      refine ⟨by simp, ?_, fun _ hnot => hbad hnot⟩
      intro outcome hout hfill
      obtain rfl := Option.some.inj hout
      exact hok hfill

/-! ### The whole pass -/

/-- What is asked of a fill can be read off the ledger the pass started from. -/
theorem fillOk_after {l l' : Ledger} {reads : ExecutionReads} {earlier : List TrackedFill}
    (h : After l reads earlier l') (f : TrackedFill) :
    FillOk l reads earlier f ↔ FillOk l' reads [] f := by
  unfold FillOk
  cases hstatus : reads.status f.intent with
  | none => exact Iff.rfl
  | some status =>
    cases status with
    | Pending => exact Iff.rfl
    | Failed reason => simp only [h.known]
    | Dropped => simp only [h.known]
    | Confirmed block tx =>
      by_cases hearlier : ∀ g ∈ earlier, g.reservation = f.reservation → terminal reads g = none
      · simp only [h.same f.reservation hearlier]
        exact ⟨fun hf _ => hf hearlier, fun hf _ => hf (by simp)⟩
      · -- An earlier terminal fill closed the reservation: nothing is asked on either side.
        push Not at hearlier
        obtain ⟨g, hg, hres, hterm⟩ := hearlier
        constructor
        · intro _ _ r hr hs
          exact absurd hs (h.closed g hg hterm r (hres ▸ hr))
        · intro _ hnone
          exact absurd (hnone g hg hres) hterm

/-- Nothing is asked of a fill in flight. -/
theorem fillOk_in_flight {l : Ledger} {reads : ExecutionReads} {earlier : List TrackedFill}
    {f : TrackedFill} (hf : terminal reads f = none) : FillOk l reads earlier f := by
  unfold terminal at hf
  unfold FillOk
  cases hstatus : reads.status f.intent with
  | none => trivial
  | some status =>
    rw [hstatus] at hf
    cases status with
    | Pending => trivial
    | Confirmed block tx => simp at hf
    | Failed reason => simp at hf
    | Dropped => simp at hf

theorem after_in_flight {l l' : Ledger} {reads : ExecutionReads} {earlier : List TrackedFill}
    (h : After l reads earlier l') {f : TrackedFill} (hf : terminal reads f = none) :
    After l reads (earlier ++ [f]) l' where
  known := h.known
  closed := by
    intro g hg hterm
    rcases List.mem_append.mp hg with hg | hg
    · exact h.closed g hg hterm
    · obtain rfl := List.mem_singleton.mp hg
      exact absurd hf hterm
  same := fun id hid => h.same id fun g hg => hid g (List.mem_append_left _ hg)

theorem after_closes {l l' l'' : Ledger} {reads : ExecutionReads} {earlier : List TrackedFill}
    (h : After l reads earlier l') {f : TrackedFill} (hf : terminal reads f ≠ none)
    (hc : Closes l' f.reservation l'') : After l reads (earlier ++ [f]) l'' where
  known := fun id => (hc.known id).trans (h.known id)
  closed := by
    intro g hg hterm r hr
    by_cases hres : g.reservation = f.reservation
    · exact hc.closed r (hres ▸ hr)
    · rcases List.mem_append.mp hg with hg | hg
      · exact h.closed g hg hterm r (by rw [← hc.same _ hres]; exact hr)
      · obtain rfl := List.mem_singleton.mp hg
        exact absurd rfl hres
  same := by
    intro id hid
    have hne : id ≠ f.reservation := by
      intro e
      exact hf (hid f (by simp) e.symm)
    rw [hc.same id hne]
    exact h.same id fun g hg => hid g (List.mem_append_left _ hg)

theorem all_settled_cons (reads : ExecutionReads) (f : TrackedFill) (fs : List TrackedFill) :
    all_settled reads (f :: fs) =
      (((terminal reads f).map fun outcome => ({ intent := f.intent, outcome } : Settled)).toList ++
        all_settled reads fs) := by
  unfold all_settled
  cases h : terminal reads f <;> simp [h]

/-- **Pass lemma.** The pass reports every terminal fill when each is absorbed,
    and fails otherwise. -/
theorem reconcile_spec {l : Ledger} {reads : ExecutionReads} {earlier : List TrackedFill}
    (s : LedgerService) (hafter : After l reads earlier s.ledger) (fs : List TrackedFill) :
    (SettleableAfter l reads earlier fs →
      ∃ s', reconcile s reads fs = (.ok (all_settled reads fs), s')) ∧
    (¬ SettleableAfter l reads earlier fs → ∃ e s', reconcile s reads fs = (.error e, s')) := by
  induction fs generalizing s earlier with
  | nil => exact ⟨fun _ => ⟨s, rfl⟩, fun h => absurd (by simp [SettleableAfter]) h⟩
  | cons f fs ih =>
    obtain ⟨hflight, hterminal, hbad⟩ := settle_fill_spec s reads f
    rw [settleableAfter_cons, fillOk_after hafter]
    cases hf : terminal reads f with
    | none =>
      have hhead : FillOk s.ledger reads [] f := fillOk_in_flight hf
      obtain ⟨hgood, herr⟩ := ih s (after_in_flight hafter hf)
      rw [reconcile, hflight hf, all_settled_cons, hf]
      simp only [hhead, true_and]
      exact ⟨hgood, herr⟩
    | some outcome =>
      have hne : terminal reads f ≠ none := by simp [hf]
      by_cases hhead : FillOk s.ledger reads [] f
      · obtain ⟨s', hstep, hcloses⟩ := hterminal outcome hf hhead
        obtain ⟨hgood, herr⟩ := ih s' (after_closes hafter hne hcloses)
        rw [reconcile, hstep, all_settled_cons, hf]
        simp only [hhead, true_and]
        constructor
        · intro h
          obtain ⟨s'', hrest⟩ := hgood h
          exact ⟨s'', by simp [hrest]⟩
        · intro h
          obtain ⟨e, s'', hrest⟩ := herr h
          exact ⟨e, s'', by simp [hrest]⟩
      · obtain ⟨e, s', hstep⟩ := hbad hne hhead
        refine ⟨fun h => absurd h.1 hhead, fun _ => ⟨e, s', ?_⟩⟩
        rw [reconcile, hstep]

end ExecutionService

namespace ReconcileService

/-! ## What a tick settles -/

/-- The trade of the order, if there is one, has ended. -/
def IsSettled (trades : SqliteTradeStore) (intent : IntentId) : Prop :=
  ∀ (id : TradeId) (row : TradeRow), trades.trade[id]? = some row → row.order_hash = intent →
    row.settled_at.isSome

/-- The store can record the settlement: its times fit a signed column. -/
def Recordable (outcome : Settlement) : Prop :=
  outcome.at_time.val < 2 ^ 63 ∧ ∀ block, outcome.block_number = some block → block.val < 2 ^ 63

/-- Settling a trade on record ends it and leaves every other row alone. -/
theorem settle_row {store : SqliteTradeStore} {id : TradeId} {row : TradeRow}
    (hrow : store.trade[id]? = some row) {outcome : Settlement} (h : Recordable outcome) :
    ∃ store', store.settle id outcome = (.ok (), store') ∧
      ∀ (k : TradeId) (u : TradeRow), store'.trade[k]? = some u →
        ∃ v, store.trade[k]? = some v ∧ u.order_hash = v.order_hash ∧
          (v.settled_at.isSome → u.settled_at.isSome) ∧ (k = id → u.settled_at.isSome) := by
  obtain ⟨hat, hblock⟩ := h
  have hblock' : ∃ number, SqliteTradeStore.opt_i64_of outcome.block_number = .ok number := by
    unfold SqliteTradeStore.opt_i64_of
    cases hb : outcome.block_number with
    | none => exact ⟨none, rfl⟩
    | some block => exact ⟨some ⟨block.val, hblock block hb⟩, by simp [i64_of_ok (hblock block hb), Except.map]⟩
  obtain ⟨number, hnumber⟩ := hblock'
  unfold SqliteTradeStore.settle SqliteTradeStore.transaction SqliteTradeStore.insert_attempt
  simp only [hnumber, i64_of_ok hat, SqliteTradeStore.get_update_trade, if_true, hrow,
    Option.map_some, Option.isNone_some, Bool.false_eq_true, if_false]
  refine ⟨_, rfl, ?_⟩
  intro k u hu
  simp only [SqliteTradeStore.get_update_trade] at hu
  by_cases hk : id = k
  · subst hk
    rw [if_pos rfl, hrow, Option.map_some] at hu
    obtain rfl := Option.some.inj hu
    refine ⟨row, hrow, ?_⟩
    by_cases hopen : row.settled_at = none
    · simp [hopen]
    · have hdone : row.settled_at.isSome := Option.isSome_iff_ne_none.mpr hopen
      simp [hopen, hdone]
  · rw [if_neg hk] at hu
    exact ⟨u, hu, rfl, fun hdone => hdone, fun e => absurd e.symm hk⟩

/-- **Settlement lemma.** Applying a settlement ends the order's trade and keeps
    the ended ones ended. -/
theorem apply_spec (trades : SqliteTradeStore) (intent : IntentId)
    (settlement : TradeRow → Settlement) (h : ∀ row, Recordable (settlement row)) :
    ∃ trades', apply trades intent settlement = (.ok (), trades') ∧
      IsSettled trades' intent ∧ ∀ other, IsSettled trades other → IsSettled trades' other := by
  unfold apply
  cases hfind : trades.find_by_order intent with
  | none =>
    refine ⟨trades, rfl, ?_, fun _ h => h⟩
    intro id row hrow horder
    exact absurd horder (SqliteTradeStore.find_by_order_none hfind hrow)
  | some b =>
    obtain ⟨id, row⟩ := b
    obtain ⟨hrow, horder⟩ := SqliteTradeStore.find_by_order_some.mp hfind
    obtain ⟨trades', hsettle, hrows⟩ := settle_row hrow (h row)
    refine ⟨trades', hsettle, ?_, ?_⟩
    · intro k u hu huo
      obtain ⟨v, hv, hvo, _, hdone⟩ := hrows k u hu
      exact hdone (trades.unique_order hv hrow (by rw [← hvo, huo, horder]))
    · intro other hother k u hu huo
      obtain ⟨v, hv, hvo, hmono, _⟩ := hrows k u hu
      exact hmono (hother k v hv (by rw [← hvo, huo]))

/-- The settlement of a terminal fill can be recorded. -/
def OutcomeRecordable (now : U64) (outcome : SettledOutcome) : Prop :=
  now.val < 2 ^ 63 ∧ ∀ tx block, outcome = .Confirmed tx block → block.val < 2 ^ 63

theorem recordable_settlement_of {now : U64} {outcome : SettledOutcome}
    (h : OutcomeRecordable now outcome) (row : TradeRow) :
    Recordable (settlement_of outcome now row) := by
  obtain ⟨hnow, hblock⟩ := h
  cases outcome with
  | Confirmed tx block =>
    refine ⟨hnow, ?_⟩
    intro b hb
    obtain rfl := Option.some.inj hb
    exact hblock tx _ rfl
  | Failed => exact ⟨hnow, by simp [settlement_of, failed]⟩

/-- **Loop lemma.** The settlements all go through: their trades end and their
    fills are forgotten. -/
theorem settle_trades_spec (b : Backend) {now : U64} (settled : List Settled)
    (h : ∀ x ∈ settled, OutcomeRecordable now x.outcome) :
    ∃ b', settle_trades b now settled = (.ok (), b') ∧
      (∀ f ∈ b'.fills.rows, f ∈ b.fills.rows ∧ f.intent ∉ settled.map Settled.intent) ∧
      (∀ x ∈ settled, IsSettled b'.trades x.intent) ∧
      ∀ other, IsSettled b.trades other → IsSettled b'.trades other := by
  induction settled generalizing b with
  | nil => exact ⟨b, rfl, by simp, by simp, fun _ h => h⟩
  | cons x xs ih =>
    obtain ⟨trades', happly, hdone, hkeep⟩ := apply_spec b.trades x.intent
      (settlement_of x.outcome now) (recordable_settlement_of (h x (by simp)))
    obtain ⟨b', hrest, hfills, hsettled, hmono⟩ :=
      ih { b with trades := trades', fills := b.fills.untrack x.intent }
        (fun y hy => h y (by simp [hy]))
    refine ⟨b', by simp only [settle_trades, happly, hrest], ?_, ?_, ?_⟩
    · intro f hf
      obtain ⟨hmem, hnot⟩ := hfills f hf
      obtain ⟨hrow, hne⟩ := List.mem_filter.mp hmem
      refine ⟨hrow, ?_⟩
      simp only [decide_eq_true_eq] at hne
      simp [hne, hnot]
    · intro y hy
      rcases List.mem_cons.mp hy with rfl | hy
      · exact hmono _ hdone
      · exact hsettled y hy
    · intro other hother
      exact hmono other (hkeep other hother)

theorem fail_swept_spec (b : Backend) {now : U64} (hnow : now.val < 2 ^ 63)
    (intents : List IntentId) :
    (fail_swept b now intents).2.fills = b.fills ∧
      ∀ other, IsSettled b.trades other →
        IsSettled (fail_swept b now intents).2.trades other := by
  induction intents generalizing b with
  | nil => exact ⟨rfl, fun _ h => h⟩
  | cons intent intents ih =>
    obtain ⟨trades', happly, _, hkeep⟩ := apply_spec b.trades intent
      (fun _ => failed now) (fun _ => ⟨hnow, by simp [failed]⟩)
    obtain ⟨hfills, hmono⟩ := ih { b with trades := trades' }
    simp only [fail_swept, happly]
    exact ⟨hfills, fun other hother => hmono other (hkeep other hother)⟩

/-- The sweep forgets no fill and reopens no trade. -/
theorem sweep_spec (b : Backend) {now : U64} (hnow : now.val < 2 ^ 63) (sweep_now : U64) :
    (sweep b now sweep_now).2.fills = b.fills ∧
      ∀ other, IsSettled b.trades other → IsSettled (sweep b now sweep_now).2.trades other := by
  unfold sweep
  simp only
  split
  · exact ⟨rfl, fun _ h => h⟩
  · rename_i swept ledger _
    exact fail_swept_spec { b with ledger } hnow swept

/-- Every terminal fill is reported by the pass, forgotten by the tick, and its
    trade has ended. -/
def SettlesAll (b : Backend) (reads : ExecutionReads) (now sweep_now : U64) : Prop :=
  (∃ settled, (ExecutionService.reconcile b.ledger reads b.fills.rows).1 = .ok settled ∧
    ∀ f ∈ b.fills.rows, ExecutionService.terminal reads f ≠ none →
      f.intent ∈ settled.map Settled.intent) ∧
  ∀ f ∈ b.fills.rows, ExecutionService.terminal reads f ≠ none →
    f.intent ∉ (tick b reads now sweep_now).2.fills.rows.map TrackedFill.intent ∧
      IsSettled (tick b reads now sweep_now).2.trades f.intent

theorem mem_all_settled {reads : ExecutionReads} {fills : List TrackedFill} {f : TrackedFill}
    (hf : f ∈ fills) (hterm : ExecutionService.terminal reads f ≠ none) :
    ∃ outcome, { intent := f.intent, outcome } ∈ ExecutionService.all_settled reads fills := by
  obtain ⟨outcome, hout⟩ := Option.ne_none_iff_exists'.mp hterm
  exact ⟨outcome, List.mem_filterMap.mpr ⟨f, hf, by simp [hout]⟩⟩

/-- **Reconcile.** With ports that answer, one tick settles and forgets every
    terminal fill if and only if the ledger absorbs each of them. -/
theorem tick_settles_all_iff (b : Backend) (reads : ExecutionReads) (now sweep_now : U64)
    (hnow : now.val < 2 ^ 63)
    (hblocks : ∀ f ∈ b.fills.rows, ∀ block tx,
      reads.status f.intent = some (.Confirmed block tx) → block.val < 2 ^ 63) :
    SettlesAll b reads now sweep_now ↔
      ExecutionService.Settleable b.ledger.ledger reads b.fills.rows := by
  obtain ⟨hgood, hbad⟩ := ExecutionService.reconcile_spec b.ledger
    (ExecutionService.after_refl b.ledger.ledger reads) b.fills.rows
  constructor
  · intro h
    by_contra hnot
    obtain ⟨e, s', herr⟩ := hbad hnot
    obtain ⟨settled, hok, _⟩ := h.1
    simp [herr] at hok
  · intro hsettleable
    obtain ⟨s', hpass⟩ := hgood hsettleable
    have hrecord : ∀ x ∈ ExecutionService.all_settled reads b.fills.rows,
        OutcomeRecordable now x.outcome := by
      intro x hx
      obtain ⟨f, hf, hx⟩ := List.mem_filterMap.mp hx
      obtain ⟨outcome, hout, rfl⟩ := Option.map_eq_some_iff.mp hx
      refine ⟨hnow, ?_⟩
      intro tx block hconf
      simp only at hconf
      subst hconf
      exact hblocks f hf block tx (ExecutionService.terminal_confirmed hout)
    obtain ⟨b', hsettle, hfills, hdone, _⟩ := settle_trades_spec { b with ledger := s' }
      (ExecutionService.all_settled reads b.fills.rows) hrecord
    obtain ⟨hkept, hmono⟩ := sweep_spec b' hnow sweep_now
    have htick : tick b reads now sweep_now = sweep b' now sweep_now := by
      simp only [tick, hpass, hsettle]
    constructor
    · refine ⟨_, by rw [hpass], ?_⟩
      intro f hf hterm
      obtain ⟨outcome, hmem⟩ := mem_all_settled hf hterm
      exact List.mem_map.mpr ⟨_, hmem, rfl⟩
    · intro f hf hterm
      obtain ⟨outcome, hmem⟩ := mem_all_settled hf hterm
      rw [htick, hkept]
      refine ⟨?_, hmono _ (hdone _ hmem)⟩
      intro hin
      obtain ⟨g, hg, hgi⟩ := List.mem_map.mp hin
      exact (hfills g hg).2 (hgi ▸ List.mem_map.mpr ⟨_, hmem, rfl⟩)

/-- The first fill was mined and pulled 4; no other fill is known. -/
def sample_reads : ExecutionReads where
  status := fun intent => if intent = ⟨1⟩ then some (.Confirmed 5 7) else none
  receipt := fun _ => [.Pulled ⟨1⟩ 9 ⟨1⟩ 1 4]

/-- The sample reservation, held and with its fill in flight. -/
def sample_backend : Backend where
  ledger := Run.run LedgerService.next (LedgerService.new ∅) [LedgerService.sample_reserve]
  fills := SqliteFillStore.empty.track ⟨1⟩ ⟨1⟩
  trades := SqliteTradeStore.empty

theorem tick_settles_all_sample : SettlesAll sample_backend sample_reads 0 0 := by
  refine (tick_settles_all_iff sample_backend sample_reads 0 0 (by decide) ?_).mpr ?_
  · intro f _ block tx hstatus
    simp only [sample_reads] at hstatus
    split at hstatus
    · simp only [Option.some.injEq, ExecStatus.Confirmed.injEq] at hstatus
      rw [← hstatus.1]
      decide
    · simp at hstatus
  · have hrows : sample_backend.fills.rows = [{ intent := ⟨1⟩, reservation := ⟨1⟩ }] := by
      decide +kernel
    have hrec : sample_backend.ledger.ledger.reservations[(⟨1⟩ : ReservationId)]? =
        some (.new ⟨1⟩ (.Swap ⟨1⟩) [Ledger.sample_source 10] 100) := by
      decide +kernel
    unfold ExecutionService.Settleable
    rw [hrows, ExecutionService.settleableAfter_cons]
    refine ⟨?_, by simp [ExecutionService.SettleableAfter]⟩
    show _ → ∀ r : Reservation, _
    intro _ r hr _ source hsource
    rw [hrec] at hr
    obtain rfl := Option.some.inj hr
    obtain rfl := List.mem_singleton.mp hsource
    decide +kernel

/-- The first fill failed on chain, the second was mined. -/
def blocked_reads : ExecutionReads where
  status := fun intent =>
    if intent = ⟨1⟩ then some (.Failed "reverted") else some (.Confirmed 5 7)
  receipt := fun _ => []

/-- Two fills that stop the pass for good. A crash between voiding a reservation
    and forgetting its fill: the restarted ledger does not know the id, and the
    mined fill behind it is never settled. And a failed cross-chain step, which
    is tracked under its command id and never had a reservation. -/
theorem unknown_reservation_blocks_the_pass :
    let crashed := Run.run LedgerService.next (LedgerService.new ∅)
      [LedgerService.sample_reserve, .void ⟨1⟩]
    let restarted : Backend :=
      { ledger := crashed.restart LedgerService.zero_reads
        fills := (SqliteFillStore.empty.track ⟨1⟩ ⟨1⟩).track ⟨2⟩ ⟨2⟩
        trades := SqliteTradeStore.empty }
    let step : Backend :=
      { ledger := LedgerService.new ∅
        fills := SqliteFillStore.empty.track ⟨1⟩ ⟨1⟩
        trades := SqliteTradeStore.empty }
    (ExecutionService.reconcile restarted.ledger blocked_reads restarted.fills.rows).1 =
        .error (.Ledger (.Unknown ⟨1⟩)) ∧
      ((tick restarted blocked_reads 0 0).2.fills.rows.map TrackedFill.intent = [⟨1⟩, ⟨2⟩]) ∧
      (ExecutionService.reconcile step.ledger blocked_reads step.fills.rows).1 =
        .error (.Ledger (.Unknown ⟨1⟩)) := by
  decide +kernel

end ReconcileService

end Solvent
