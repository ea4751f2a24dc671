import Mathlib
import Solvent.Swap.HeldFills

/-! # No trade is stranded

    A trade in flight is settled by the tick that finds its fill terminal or its
    hold elapsed. It is stranded when it has neither: nobody will look at it
    again. Two paths give the hold up before they settle the trade, the request
    whose simulation was rejected and the sweep. A call that stops between the
    two steps leaves the trade in flight for good; where no call does, every
    trade in flight has its pending hold or its tracked fill.
-/

namespace Solvent

open BTreeMap ReconcileService Interleave

/-- The trade store refuses the settlement the call is about to write. -/
def Call.settle_fails (node : Node) : Call → Bool
  | .submit _ (.decline id now) =>
    !(node.trades.settle id (SwapService.declined_settlement now)).1.isOk
  | .tick (.fail now intent _) => !(apply node.trades intent fun _ => failed now).1.isOk
  | _ => false

section Access

variable {keccak256 : List UInt8 → B256} {reads : NodeReads} {node node' : Node}
variable {c : Call} {next : Option Call} {order : IntentId}

/-! ## What one access does to an order -/

/-- Only a request past its reserve puts a trade in flight, and it is its own. -/
theorem TradeEffect.inFlight (h : TradeEffect node c node')
    (hrows : ∀ o id, c.trade = some (o, id) → node.trades.Has id o)
    (hflight : node'.trades.InFlight order) :
    node.trades.InFlight order ∨ c.driving = some order := by
  obtain ⟨id, row', hrow', horder, hstatus⟩ := hflight
  rcases h with hsame | ⟨_, _, htrade, _, hquoted⟩ | @⟨k, outcome, _, _, houtcome, htrade⟩ |
    @⟨order', k, status, _, hdriving, hmine, htrade⟩
  · rw [hsame] at hrow'
    exact .inl ⟨id, row', hrow', horder, hstatus⟩
  · rw [htrade, get_insert] at hrow'
    split at hrow'
    · obtain rfl := Option.some.inj hrow'
      rw [hquoted] at hstatus
      cases hstatus
    · exact .inl ⟨id, row', hrow', horder, hstatus⟩
  · rw [htrade id] at hrow'
    split at hrow'
    · obtain ⟨row, hrow, rfl⟩ := Option.map_eq_some_iff.mp hrow'
      unfold SqliteTradeStore.settled_row at hstatus horder
      split at hstatus
      · -- The outcome would be in flight.
        have hflight : outcome.status.in_flight = true := hstatus
        revert hflight houtcome
        cases outcome.status <;> simp [TradeStatus.in_flight, TradeStatus.is_terminal]
      · rename_i hended
        rw [if_neg hended] at horder
        exact .inl ⟨id, row, hrow, horder, hstatus⟩
    · exact .inl ⟨id, row', hrow', horder, hstatus⟩
  · rw [htrade id] at hrow'
    split at hrow'
    · rename_i hid
      subst hid
      obtain ⟨row, hrow, rfl⟩ := Option.map_eq_some_iff.mp hrow'
      obtain ⟨own, hown, hownorder⟩ := hrows order' k hmine
      rw [hrow] at hown
      obtain rfl := Option.some.inj hown
      have hkeeps : (SqliteTradeStore.advanced row status).order_hash = row.order_hash := by
        unfold SqliteTradeStore.advanced
        split <;> rfl
      rw [hkeeps, hownorder] at horder
      rw [← horder]
      exact .inr hdriving
    · exact .inl ⟨id, row', hrow', horder, hstatus⟩

/-- A request is past its reserve because it was, or because it just reserved. -/
theorem Accesses.driving (h : Accesses keccak256 reads node c node' next) {c' : Call}
    (hc' : next = some c') (hdriving : c'.driving = some order) :
    c.driving = some order ∨ ∃ id, node'.ledger.Pends order id := by
  rcases h with @⟨request, phase, _, next, hdoes⟩ | @⟨phase, _, next, hdoes⟩
  · obtain ⟨phase', rfl, rfl⟩ := Option.map_eq_some_iff.mp hc'
    rcases hdoes with hquiet | _ | _ | _ | _ | ⟨_, hfails⟩ | ⟨_, _, hmemory, hdurable, _⟩ |
      ⟨hadvances, _⟩ | _ | _ | _ | _
    · rcases hquiet with _ | _ | _ | _ | _ | _ | _ | _ | _ | _
      case simulates => exact .inl hdriving
      case rejects => exact .inl hdriving
      case already_tracked => exact .inl hdriving
      case untracked => exact .inl hdriving
      all_goals cases hdriving
    · cases hdriving
    · cases hdriving
    · rcases hfails with hnone | hdecline
      · cases hnone
      · obtain rfl := Option.some.inj hdecline
        cases hdriving
    · obtain rfl := Option.some.inj hdriving
      exact .inr ⟨_, hmemory, hdurable⟩
    · rcases hadvances with _ | _
      · exact .inl hdriving
      · exact .inl hdriving
    · cases hdriving
    · exact .inl hdriving
    · exact .inl hdriving
  · obtain ⟨phase', -, rfl⟩ := Option.map_eq_some_iff.mp hc'
    cases hdriving

/-- A fill is forgotten only by the tick that says so. -/
theorem Footprint.keeps_tracking (h : Footprint keccak256 reads node c node' next)
    (htracks : node.executor.Tracks order) :
    node'.executor.Tracks order ∨ c.forgetting = some order := by
  rcases h with ⟨_, hexecutor, _, _, _, _⟩ | _ | _ | _ | _ | _ |
    @⟨c', order', id, handle, _, _, _⟩ | @⟨c', intent, _⟩ | @⟨c', intent, hforgetting, _⟩
  case idle =>
    rw [hexecutor]
    exact .inl htracks
  case tracks =>
    left
    unfold WalletkitExecutor.Tracks at htracks ⊢
    rw [WalletkitExecutor.handle_track]
    split
    · rfl
    · exact htracks
  case remembers =>
    obtain ⟨terminal, hterminal⟩ := node.executor.record_terminal_eq intent
    simp only [hterminal]
    exact .inl htracks
  case untracks =>
    by_cases hintent : intent = order
    · subst hintent
      exact .inr hforgetting
    · left
      unfold WalletkitExecutor.Tracks at htracks ⊢
      rw [WalletkitExecutor.handle_untrack, if_neg hintent]
      exact htracks
  all_goals exact .inl htracks

/-- **Who gives a hold up.** A pending hold stays pending, or its request turns
    to declining the trade, or a tick closes its fill, or a sweep takes it and
    turns to failing its trade unless the sweep itself fails. -/
theorem Accesses.gives_up (h : Accesses keccak256 reads node c node' next) {id : ReservationId}
    (hpends : node.ledger.Pends order id) :
    node'.ledger.Pends order id ∨
    (∃ c' order' trade, next = some c' ∧ c'.declining = some trade ∧
      c.trade = some (order', trade) ∧ c.holding keccak256 = some (order', id)) ∨
    (∃ f, c.closing = some f ∧ f.reservation = id) ∨
    ∃ in_flight, c.sweeping = some in_flight ∧
      id ∈ ReconcileService.elapsed node.ledger reads.tick.now_unix in_flight ∧
      ((sweep_call node.ledger reads.tick in_flight).1.isOk = false ∨
        ∃ c', next = some c' ∧ order ∈ c'.failing) := by
  rcases h with @⟨request, phase, node', next, hdoes⟩ | @⟨phase, _, next, hdoes⟩
  · rcases hdoes with _ | _ | _ | _ | _ | ⟨hsame, _⟩ | @⟨call, _, _, hnew, _, _, _, hothers⟩ | _ |
      @⟨call, _, _, hmoves⟩ | @⟨call, _, _, hmoves, hclosed⟩ | _ | _
    case reserve_fails =>
      exact .inl (LedgerService.pends_of_moves (hsame.moves fun _ => False) (by simp) hpends)
    case reserves =>
      have hid : id ≠ SwapService.reservation_id keccak256 request.intent.id call.plan := by
        rintro rfl
        have hknown := hpends.1
        rw [hnew] at hknown
        cases hknown
      exact .inl ⟨by rw [(hothers id hid).1]; exact hpends.1, by
        rw [(hothers id hid).2]; exact hpends.2⟩
    case voids =>
      by_cases hid : id = SwapService.reservation_id keccak256 request.intent.id call.plan
      · subst hid
        exact .inr (.inl ⟨_, _, _, rfl, rfl, rfl, rfl⟩)
      · exact .inl (LedgerService.pends_of_moves hmoves hid hpends)
    case void_fails =>
      -- The void of a pending hold does not fail.
      have hid : id ≠ SwapService.reservation_id keccak256 request.intent.id call.plan := by
        rintro rfl
        cases hclosed _ _ hpends.1
      exact .inl (LedgerService.pends_of_moves hmoves hid hpends)
    all_goals exact .inl hpends
  · rcases hdoes with _ | _ | _ | _ | _ | _ | ⟨hmoves, _⟩ | ⟨hmoves, _⟩ | _ | _ | _ | _ | _ |
      @⟨now, in_flight, _, swept, hok, hmoves, hswept⟩ | @⟨now, in_flight, _, _, herror, hmoves⟩ |
      _ | _
    case posts f _ _ _ _ _ =>
      by_cases hid : id = f.reservation
      · exact .inr (.inr (.inl ⟨f, rfl, hid.symm⟩))
      · exact .inl (LedgerService.pends_of_moves hmoves hid hpends)
    case voids f _ _ _ _ =>
      by_cases hid : id = f.reservation
      · exact .inr (.inr (.inl ⟨f, rfl, hid.symm⟩))
      · exact .inl (LedgerService.pends_of_moves hmoves hid hpends)
    case sweeps =>
      by_cases hid : id ∈ ReconcileService.elapsed node.ledger reads.tick.now_unix in_flight
      · refine .inr (.inr (.inr ⟨in_flight, rfl, hid, .inr ?_⟩))
        -- The sweep reports the order, so the tick goes on to fail its trade.
        have hmem := hswept id hid order _ hpends.1
        rcases swept with _ | ⟨intent, swept⟩
        · cases hmem
        · exact ⟨_, rfl, hmem⟩
      · exact .inl (LedgerService.pends_of_moves hmoves hid hpends)
    case sweep_fails =>
      by_cases hid : id ∈ ReconcileService.elapsed node.ledger reads.tick.now_unix in_flight
      · exact .inr (.inr (.inr ⟨in_flight, rfl, hid, .inl (by rw [herror]; rfl)⟩))
      · exact .inl (LedgerService.pends_of_moves hmoves hid hpends)
    all_goals exact .inl hpends

/-- A request about to decline a trade ends it, or the store refuses. -/
theorem Accesses.declining (h : Accesses keccak256 reads node c node' next) {id : TradeId}
    (hc : c.declining = some id) (hhas : node.trades.Has id order) :
    node'.trades.Ended order ∨ c.settle_fails node = true := by
  rcases h with @⟨request, phase, _, next, hdoes⟩ | hdoes
  · rcases phase with _ | _ | ⟨id', now⟩ | _ | _ | _ | _ | _ | _ | _ | _ | _ | _ | _
    case decline =>
      obtain rfl := Option.some.inj hc
      rcases hdoes with hquiet | ⟨hrefused, _⟩ | _ | _ | htrade | _ | _ | ⟨hadvances, _⟩ | _ | _ | _ | _
      · cases hquiet
      · obtain ⟨e, herror⟩ := hrefused id' now rfl
        right
        show (!(node.trades.settle id' (SwapService.declined_settlement now)).1.isOk) = true
        rw [herror]
        rfl
      · exact .inl (SqliteTradeStore.ended_of_rewrites htrade hhas)
      · cases hadvances
    all_goals cases hc
  · cases hc

theorem ended_of_ends {trades trades' : SqliteTradeStore} {intent : IntentId}
    {status : TradeStatus} (h : Ends trades trades' intent status)
    (hhas : ∃ id, trades.Has id intent) : trades'.Ended intent := by
  rcases h with ⟨hnone, _⟩ | ⟨id, row, outcome, block, stamp, hfind, _, hrewrites⟩
  · obtain ⟨id, row, hrow, horder⟩ := hhas
    exact absurd horder (SqliteTradeStore.find_by_order_none hnone hrow)
  · exact SqliteTradeStore.ended_of_rewrites hrewrites
      ⟨row, SqliteTradeStore.find_by_order_some.mp hfind⟩

/-- A tick failing swept trades ends the next one and keeps the rest, or the
    store refuses. -/
theorem Accesses.failing (h : Accesses keccak256 reads node c node' next)
    (hc : order ∈ c.failing) (hhas : ∃ id, node.trades.Has id order) :
    node'.trades.Ended order ∨ (∃ c', next = some c' ∧ order ∈ c'.failing) ∨
      c.settle_fails node = true := by
  rcases h with hdoes | @⟨phase, _, next, hdoes⟩
  · cases hc
  · rcases phase with _ | _ | _ | _ | _ | _ | _ | _ | _ | _ | ⟨now, intent, swept⟩
    case fail =>
      rcases hdoes with _ | _ | _ | _ | _ | _ | _ | _ | _ | _ | _ | _ | _ | _ | _ | hends | herror
      · rcases List.mem_cons.mp hc with rfl | hrest
        · exact .inl (ended_of_ends hends hhas)
        · right
          left
          rcases swept with _ | ⟨intent', swept⟩
          · cases hrest
          · exact ⟨_, rfl, hrest⟩
      · right
        right
        show (!(apply node.trades intent fun _ => failed now).1.isOk) = true
        rw [herror]
        rfl
    all_goals cases hc

theorem settled_after_fill (now : U64) (fills : List TrackedFill) (settled : List Settled) :
    (Call.tick (after_fill now fills settled)).settled = settled := by
  rcases fills with _ | ⟨f, fills⟩
  · rcases settled with _ | ⟨x, settled⟩ <;> rfl
  · rfl

theorem forgetting_after_fill (now : U64) (fills : List TrackedFill) (settled : List Settled) :
    (Call.tick (after_fill now fills settled)).forgetting = none := by
  rcases fills with _ | ⟨f, fills⟩
  · rcases settled with _ | ⟨x, settled⟩ <;> rfl
  · rfl

/-- A fill is settled after it was listed. -/
theorem Accesses.settled (h : Accesses keccak256 reads node c node' next) {c' : Call}
    (hc' : next = some c') {x : Settled} (hx : x ∈ c'.settled) :
    x ∈ c.settled ∨ ∃ f ∈ c.listed, x.intent = f.intent := by
  rcases h with @⟨request, phase, _, next, hdoes⟩ | @⟨phase, _, next, hdoes⟩
  · obtain ⟨phase', -, rfl⟩ := Option.map_eq_some_iff.mp hc'
    cases hx
  · obtain ⟨phase', hphase, rfl⟩ := Option.map_eq_some_iff.mp hc'
    -- The settled list grows by the fill just closed.
    have hgrows : ∀ {f : TrackedFill} {fills : List TrackedFill} {settled : List Settled}
        {outcome : SettledOutcome}, x ∈ settled ++ [{ intent := f.intent, outcome }] →
        x ∈ settled ∨ ∃ g ∈ f :: fills, x.intent = g.intent := by
      intro f fills settled outcome hmem
      rcases List.mem_append.mp hmem with hold | hnew
      · exact .inl hold
      · obtain rfl := List.mem_singleton.mp hnew
        exact .inr ⟨f, List.mem_cons_self, rfl⟩
    rcases hdoes with _ | _ | _ | _ | _ | _ | ⟨_, hnext⟩ | ⟨_, hnext⟩ | _ | _ | _ | _ | _ | _ | _ |
      _ | _
    case lists =>
      obtain rfl := Option.some.inj hphase
      rw [settled_after_fill] at hx
      cases hx
    case waits =>
      obtain rfl := Option.some.inj hphase
      rw [settled_after_fill] at hx
      exact .inl hx
    case confirms =>
      obtain rfl := Option.some.inj hphase
      exact .inl hx
    case failed =>
      obtain rfl := Option.some.inj hphase
      exact .inl hx
    case measures =>
      obtain rfl := Option.some.inj hphase
      exact hgrows hx
    case skips =>
      obtain rfl := Option.some.inj hphase
      rw [settled_after_fill] at hx
      exact hgrows hx
    case posts =>
      rcases hnext with rfl | rfl
      · cases hphase
      · obtain rfl := Option.some.inj hphase
        rw [settled_after_fill] at hx
        exact .inl hx
    case voids =>
      rcases hnext with rfl | rfl
      · cases hphase
      · obtain rfl := Option.some.inj hphase
        rw [settled_after_fill] at hx
        exact hgrows hx
    case settles =>
      obtain rfl := Option.some.inj hphase
      exact .inl (List.mem_cons_of_mem _ hx)
    case settle_fails => cases hphase
    case remembers =>
      obtain rfl := Option.some.inj hphase
      exact .inl hx
    case untracks now fill settled =>
      obtain rfl := Option.some.inj hphase
      rcases settled with _ | ⟨y, settled⟩
      · cases hx
      · exact .inl hx
    case excludes =>
      obtain rfl := Option.some.inj hphase
      cases hx
    case sweeps swept _ _ _ =>
      rcases swept with _ | ⟨intent, swept⟩
      · cases hphase
      · obtain rfl := Option.some.inj hphase
        cases hx
    case sweep_fails => cases hphase
    case fails now intent swept trades _ =>
      rcases swept with _ | ⟨intent', swept⟩
      · cases hphase
      · obtain rfl := Option.some.inj hphase
        cases hx
    case fail_fails => cases hphase

/-- A tick forgets a fill after it ended the trade. -/
theorem Accesses.forgetting (h : Accesses keccak256 reads node c node' next) {c' : Call}
    (hc' : next = some c') (hforgetting : c'.forgetting = some order) :
    c.forgetting = some order ∨
      ((∃ x ∈ c.settled, x.intent = order) ∧
        ((∃ id, node.trades.Has id order) → node'.trades.Ended order)) := by
  rcases h with @⟨request, phase, _, next, hdoes⟩ | @⟨phase, _, next, hdoes⟩
  · obtain ⟨phase', -, rfl⟩ := Option.map_eq_some_iff.mp hc'
    cases hforgetting
  · obtain ⟨phase', hphase, rfl⟩ := Option.map_eq_some_iff.mp hc'
    rcases hdoes with _ | _ | _ | _ | _ | _ | ⟨_, hnext⟩ | ⟨_, hnext⟩ | hends | _ | _ | _ | _ | _ | _ |
      _ | _
    case settles =>
      obtain rfl := Option.some.inj hphase
      obtain rfl := Option.some.inj hforgetting
      exact .inr ⟨⟨_, List.mem_cons_self, rfl⟩, ended_of_ends hends⟩
    case remembers =>
      obtain rfl := Option.some.inj hphase
      exact .inl hforgetting
    case lists =>
      obtain rfl := Option.some.inj hphase
      rw [forgetting_after_fill] at hforgetting
      cases hforgetting
    case waits =>
      obtain rfl := Option.some.inj hphase
      rw [forgetting_after_fill] at hforgetting
      cases hforgetting
    case skips =>
      obtain rfl := Option.some.inj hphase
      rw [forgetting_after_fill] at hforgetting
      cases hforgetting
    case posts =>
      rcases hnext with rfl | rfl
      · cases hphase
      · obtain rfl := Option.some.inj hphase
        rw [forgetting_after_fill] at hforgetting
        cases hforgetting
    case voids =>
      rcases hnext with rfl | rfl
      · cases hphase
      · obtain rfl := Option.some.inj hphase
        rw [forgetting_after_fill] at hforgetting
        cases hforgetting
    case untracks now fill settled =>
      obtain rfl := Option.some.inj hphase
      rcases settled with _ | ⟨y, settled⟩ <;> cases hforgetting
    case sweeps swept _ _ _ =>
      rcases swept with _ | ⟨intent, swept⟩
      · cases hphase
      · obtain rfl := Option.some.inj hphase
        cases hforgetting
    case fails now intent swept trades _ =>
      rcases swept with _ | ⟨intent', swept⟩
      · cases hphase
      · obtain rfl := Option.some.inj hphase
        cases hforgetting
    case confirms =>
      obtain rfl := Option.some.inj hphase
      cases hforgetting
    case failed =>
      obtain rfl := Option.some.inj hphase
      cases hforgetting
    case measures =>
      obtain rfl := Option.some.inj hphase
      cases hforgetting
    case excludes =>
      obtain rfl := Option.some.inj hphase
      cases hforgetting
    all_goals cases hphase

end Access

/-! ## The invariant -/

/-- Someone will look at the order's trade: it has ended, its hold is pending,
    its fill is tracked, or a call is about to settle it. -/
def Covered (w : NodeWorld) (order : IntentId) : Prop :=
  w.shared.trades.Ended order ∨ (∃ id, w.shared.ledger.Pends order id) ∨
    w.shared.executor.Tracks order ∨
    (∃ i c id, w.At i c ∧ c.declining = some id ∧ w.shared.trades.Has id order) ∨
    ∃ i c, w.At i c ∧ order ∈ c.failing

/-- The order's trade is in flight, or a request past its reserve may still put
    it there. -/
def Needs (w : NodeWorld) (order : IntentId) : Prop :=
  w.shared.trades.InFlight order ∨ ∃ i c, w.At i c ∧ c.driving = some order

instance (w : NodeWorld) (order : IntentId) : Decidable (Needs w order) :=
  decidable_of_iff (w.shared.trades.InFlight order ∨
      ¬ ∀ i c, w.At i c → c.driving ≠ some order) (by
    simp [Needs])

/-- The fill is still tracked or its trade has ended. -/
def Known (w : NodeWorld) (order : IntentId) : Prop :=
  w.shared.executor.Tracks order ∨ w.shared.trades.Ended order

structure Attended (keccak256 : List UInt8 → B256) (w : NodeWorld) : Prop
    extends Owned keccak256 w where
  sound : w.shared.trades.Sound
  rows : ∀ i c, w.At i c → ∀ order id, c.trade = some (order, id) → w.shared.trades.Has id order
  tracked_rows : ∀ f ∈ w.shared.executor.fills.rows, ∃ id, w.shared.trades.Has id f.intent
  covered : ∀ order, Needs w order → Covered w order
  listed_known : ∀ i c, w.At i c → ∀ f ∈ c.listed, Known w f.intent
  settled_known : ∀ i c, w.At i c → ∀ x ∈ c.settled, Known w x.intent
  forgotten : ∀ i c, w.At i c → ∀ order, c.forgetting = some order → w.shared.trades.Ended order

/-! ## The condition -/

/-- The orders whose trade the call still has to settle. -/
def Call.owed (node : Node) : Call → List IntentId
  | .submit _ (.decline id _) => ((node.trades.trade[id]?).map TradeRow.order_hash).toList
  | .tick (.fail _ intent swept) => intent :: swept
  | _ => []

/-- The orders that hold the given reservations. -/
def swept_orders (s : LedgerService) (ids : List ReservationId) : List IntentId :=
  ids.filterMap fun id => (s.memory id).bind fun b => b.1.swap_intent

/-- A call that gave a hold up settles its trade before it stops: a call does not
    stop, and the trade store does not refuse it, while it owes a trade that is
    in flight; and a sweep does not fail once it has taken the hold of one. -/
def Finishes (w : NodeWorld) : NodeAction → Prop
  | .access i reads => ∀ c, w.At i c →
      (c.settle_fails w.shared = true → ∀ order ∈ c.owed w.shared, ¬ Needs w order) ∧
      ∀ in_flight ∈ c.sweeping, (sweep_call w.shared.ledger reads.tick in_flight).1.isOk = false →
        ∀ order ∈ swept_orders w.shared.ledger
          (ReconcileService.elapsed w.shared.ledger reads.tick.now_unix in_flight), ¬ Needs w order
  | .stop i => ∀ c, w.At i c → ∀ order ∈ c.owed w.shared, ¬ Needs w order
  | .crash _ => ∀ i c, w.At i c → ∀ order ∈ c.owed w.shared, ¬ w.shared.trades.InFlight order
  | .start _ | .outside _ => True

instance (w : NodeWorld) (a : NodeAction) : Decidable (Finishes w a) :=
  match a with
  | .access _ _ => by unfold Finishes; infer_instance
  | .stop _ => by unfold Finishes; infer_instance
  | .crash _ => by unfold Finishes; infer_instance
  | .start _ | .outside _ => .isTrue trivial

theorem Call.owed_of_declining {c : Call} {node : Node} {id : TradeId} {order : IntentId}
    (hc : c.declining = some id) (hhas : node.trades.Has id order) : order ∈ c.owed node := by
  rcases c with ⟨request, phase⟩ | phase
  · rcases phase with _ | _ | ⟨id', now⟩ | _ | _ | _ | _ | _ | _ | _ | _ | _ | _ | _
    case decline =>
      obtain rfl := Option.some.inj hc
      obtain ⟨row, hrow, horder⟩ := hhas
      show order ∈ ((node.trades.trade[id']?).map TradeRow.order_hash).toList
      simp [hrow, horder]
    all_goals cases hc
  · cases hc

theorem Call.owed_of_failing {c : Call} {node : Node} {order : IntentId}
    (hc : order ∈ c.failing) : order ∈ c.owed node := by
  rcases c with ⟨request, phase⟩ | phase
  · cases hc
  · rcases phase with _ | _ | _ | _ | _ | _ | _ | _ | _ | _ | _
    case fail => exact hc
    all_goals cases hc

/-- A request past its reserve knows its trade. -/
theorem Call.trade_of_driving {c : Call} {order : IntentId} (h : c.driving = some order) :
    ∃ id, c.trade = some (order, id) := by
  rcases c with ⟨request, phase⟩ | phase
  · rcases phase with _ | _ | _ | _ | _ | _ | _ | _ | _ | _ | _ | _ | _ | _
    all_goals first
      | (obtain rfl := Option.some.inj h; exact ⟨_, rfl⟩)
      | cases h
  · cases h

/-- A request with a hold in hand knows its trade. -/
theorem Call.trade_of_holding {c : Call} {keccak256 : List UInt8 → B256} {order : IntentId}
    {id : ReservationId} (h : c.holding keccak256 = some (order, id)) :
    ∃ trade, c.trade = some (order, trade) := by
  rcases c with ⟨request, phase⟩ | phase
  · rcases phase with _ | _ | _ | _ | _ | _ | _ | _ | _ | _ | _ | _ | _ | _
    all_goals first
      | (obtain ⟨rfl, -⟩ := Prod.mk.inj (Option.some.inj h); exact ⟨_, rfl⟩)
      | cases h
  · cases h

section Run

variable {config : SwapConfig} {keccak256 : List UInt8 → B256}

/-- An order that needs someone has a trade. -/
theorem Attended.has {w : NodeWorld} (hinv : Attended keccak256 w) {order : IntentId}
    (h : Needs w order) : ∃ id, w.shared.trades.Has id order := by
  rcases h with ⟨id, row, hrow, horder, _⟩ | ⟨i, c, hat, hdriving⟩
  · exact ⟨id, row, hrow, horder⟩
  · obtain ⟨id, htrade⟩ := Call.trade_of_driving hdriving
    exact ⟨id, hinv.rows i c hat order id htrade⟩

/-- **Covering lemma.** An access keeps an order covered as long as someone may
    need it. -/
theorem Attended.keeps_covered {w w' : NodeWorld} {i : ℕ} {reads : NodeReads} {c : Call}
    {next : Option Call} (hinv : Attended keccak256 w) (hcond : Finishes w (.access i reads))
    (hat : w.At i c) (haccess : Accesses keccak256 reads w.shared c w'.shared next)
    (hmoved : Machine.Moved w w' i next) {order : IntentId} (hneeds : Needs w order) :
    Covered w' order := by
  obtain ⟨hsettles, hsweeps⟩ := hcond c hat
  have hevolves := haccess.trades
  rcases hinv.covered order hneeds with hended | ⟨id, hpends⟩ | htracks | ⟨j, d, id, hd, hdecl, hhas⟩ |
    ⟨j, d, hd, hfail⟩
  · exact .inl (hevolves.ended hended)
  · rcases haccess.gives_up hpends with hpends' | ⟨c', order', trade, hnext, hdecl, htrade, hholding⟩ |
      ⟨f, hclosing, hid⟩ | ⟨in_flight, hsweeping, hid, hswept⟩
    · exact .inr (.inl ⟨id, hpends'⟩)
    · -- The request gave its own hold up and turns to the trade.
      have hsame := LedgerService.ownedBy_unique ⟨_, hpends.2⟩
        (hinv.holding i c hat order' id hholding)
      subst hsame
      have hhas := hevolves.has (hinv.rows i c hat order trade htrade)
      exact .inr (.inr (.inr (.inl ⟨i, c', trade, (hmoved.moved c').mpr hnext, hdecl, hhas⟩)))
    · -- A tick closed the hold of a fill it listed: the fill is still tracked, or
      -- its trade ended.
      have hlisted := Call.mem_listed hclosing
      have howned := hinv.listed i c hat f hlisted
      rw [hid] at howned
      have hsame := LedgerService.ownedBy_unique ⟨_, hpends.2⟩ howned
      subst hsame
      rcases hinv.listed_known i c hat f hlisted with htracks | hended
      · rcases haccess.footprint.keeps_tracking htracks with htracks' | hforgetting
        · exact .inr (.inr (.inl htracks'))
        · exact .inl (hevolves.ended (hinv.forgotten i c hat _ hforgetting))
      · exact .inl (hevolves.ended hended)
    · rcases hswept with hfails | ⟨c', hnext, hfailing⟩
      · have hmem : order ∈ swept_orders w.shared.ledger
            (ReconcileService.elapsed w.shared.ledger reads.tick.now_unix in_flight) := by
          rw [swept_orders, List.mem_filterMap]
          exact ⟨id, hid, by rw [hpends.1]; rfl⟩
        exact absurd hneeds (hsweeps in_flight hsweeping hfails order hmem)
      · exact .inr (.inr (.inr (.inr ⟨i, c', (hmoved.moved c').mpr hnext, hfailing⟩)))
  · rcases haccess.footprint.keeps_tracking htracks with htracks' | hforgetting
    · exact .inr (.inr (.inl htracks'))
    · exact .inl (hevolves.ended (hinv.forgotten i c hat _ hforgetting))
  · by_cases hj : j = i
    · subst hj
      obtain rfl := World.at_unique hat hd
      rcases haccess.declining hdecl hhas with hended | hrefused
      · exact .inl hended
      · exact absurd hneeds (hsettles hrefused order (Call.owed_of_declining hdecl hhas))
    · exact .inr (.inr (.inr (.inl ⟨j, d, id, (hmoved.others j d hj).mpr hd, hdecl,
        hevolves.has hhas⟩)))
  · by_cases hj : j = i
    · subst hj
      obtain rfl := World.at_unique hat hd
      rcases haccess.failing hfail (hinv.has hneeds) with hended | ⟨c', hnext, hrest⟩ | hrefused
      · exact .inl hended
      · exact .inr (.inr (.inr (.inr ⟨j, c', (hmoved.moved c').mpr hnext, hrest⟩)))
      · exact absurd hneeds (hsettles hrefused order (Call.owed_of_failing hfail))
    · exact .inr (.inr (.inr (.inr ⟨j, d, (hmoved.others j d hj).mpr hd, hfail⟩)))

theorem attended_access {w w' : NodeWorld} {i : ℕ} {reads : NodeReads} {c : Call}
    {next : Option Call} (hinv : Attended keccak256 w) (hcond : Finishes w (.access i reads))
    (hat : w.At i c) (haccess : Accesses keccak256 reads w.shared c w'.shared next)
    (hmoved : Machine.Moved w w' i next) : Attended keccak256 w' := by
  have hevolves := haccess.trades
  have hfoot := haccess.footprint
  have hknown : ∀ order, Known w order → Known w' order := by
    rintro order (htracks | hended)
    · rcases hfoot.keeps_tracking htracks with htracks' | hforgetting
      · exact .inl htracks'
      · exact .inr (hevolves.ended (hinv.forgotten i c hat _ hforgetting))
    · exact .inr (hevolves.ended hended)
  refine { owned_access hinv.toOwned hat hfoot hmoved with
    sound := hevolves.sound hinv.sound, rows := ?_, tracked_rows := ?_, covered := ?_,
    listed_known := ?_, settled_known := ?_, forgotten := ?_ }
  · intro j d hd order id htrade
    by_cases hj : j = i
    · subst hj
      have hnext := (hmoved.moved d).mp hd
      subst hnext
      rcases haccess.has htrade with hbefore | hnow
      · exact hevolves.has (hinv.rows j c hat order id hbefore)
      · exact hnow
    · exact hevolves.has (hinv.rows j d ((hmoved.others j d hj).mp hd) order id htrade)
  · intro f hf
    rcases hfoot.rows hf with hrow | ⟨hholding, -, -⟩
    · obtain ⟨id, hhas⟩ := hinv.tracked_rows f hrow
      exact ⟨id, hevolves.has hhas⟩
    · obtain ⟨id, htrade⟩ := Call.trade_of_holding hholding
      exact ⟨id, hevolves.has (hinv.rows i c hat _ id htrade)⟩
  · rintro order (hflight | ⟨j, d, hd, hdriving⟩)
    · rcases haccess.tradeEffect.inFlight (hinv.rows i c hat) hflight with hbefore | hdriving
      · exact hinv.keeps_covered hcond hat haccess hmoved (.inl hbefore)
      · exact hinv.keeps_covered hcond hat haccess hmoved (.inr ⟨i, c, hat, hdriving⟩)
    · by_cases hj : j = i
      · subst hj
        rcases haccess.driving ((hmoved.moved d).mp hd) hdriving with hbefore | ⟨id, hpends⟩
        · exact hinv.keeps_covered hcond hat haccess hmoved (.inr ⟨j, c, hat, hbefore⟩)
        · exact .inr (.inl ⟨id, hpends⟩)
      · exact hinv.keeps_covered hcond hat haccess hmoved
          (.inr ⟨j, d, (hmoved.others j d hj).mp hd, hdriving⟩)
  · intro j d hd f hf
    by_cases hj : j = i
    · subst hj
      rcases hfoot.listed ((hmoved.moved d).mp hd) hf with hold | hrow
      · exact hknown _ (hinv.listed_known j c hat f hold)
      · exact hknown _ (.inl (WalletkitExecutor.tracks_iff_mem.mpr (List.mem_map_of_mem hrow)))
    · exact hknown _ (hinv.listed_known j d ((hmoved.others j d hj).mp hd) f hf)
  · intro j d hd x hx
    by_cases hj : j = i
    · subst hj
      rcases haccess.settled ((hmoved.moved d).mp hd) hx with hold | ⟨f, hf, hintent⟩
      · exact hknown _ (hinv.settled_known j c hat x hold)
      · rw [hintent]
        exact hknown _ (hinv.listed_known j c hat f hf)
    · exact hknown _ (hinv.settled_known j d ((hmoved.others j d hj).mp hd) x hx)
  · intro j d hd order hforgetting
    by_cases hj : j = i
    · subst hj
      rcases haccess.forgetting ((hmoved.moved d).mp hd) hforgetting with
        hold | ⟨⟨x, hx, rfl⟩, hends⟩
      · exact hevolves.ended (hinv.forgotten j c hat order hold)
      · rcases hinv.settled_known j c hat x hx with htracks | hended
        · -- A tracked fill has a trade, so the settlement found it.
          obtain ⟨f, hf, hintent⟩ := List.mem_map.mp (WalletkitExecutor.tracks_iff_mem.mp htracks)
          obtain ⟨id, hhas⟩ := hinv.tracked_rows f hf
          exact hends ⟨id, hintent ▸ hhas⟩
        · exact hevolves.ended hended
    · exact hevolves.ended
        (hinv.forgotten j d ((hmoved.others j d hj).mp hd) order hforgetting)

theorem attended_start {w : NodeWorld} (hinv : Attended keccak256 w) (request : NodeRequest) :
    Attended keccak256 { w with calls := w.calls ++ [some (Node.entry request)] } := by
  -- A new call works on nothing yet.
  have hnew : (Node.entry request).trade = none ∧ (Node.entry request).driving = none ∧
      (Node.entry request).listed = [] ∧ (Node.entry request).settled = [] ∧
      (Node.entry request).forgetting = none := by
    rcases request with _ | _ <;> exact ⟨rfl, rfl, rfl, rfl, rfl⟩
  obtain ⟨htrade, hdriving, hlisted, hsettled, hforgetting⟩ := hnew
  refine { owned_start hinv.toOwned request with
    sound := hinv.sound, rows := ?_, tracked_rows := hinv.tracked_rows, covered := ?_,
    listed_known := ?_, settled_known := ?_, forgotten := ?_ }
  · intro i c hat order id htrade'
    rcases World.at_append.mp hat with hold | ⟨-, rfl⟩
    · exact hinv.rows i c hold order id htrade'
    · rw [htrade] at htrade'
      cases htrade'
  · intro order hneeds
    have hbefore : Needs w order := by
      rcases hneeds with hflight | ⟨i, c, hat, hdriving'⟩
      · exact .inl hflight
      · rcases World.at_append.mp hat with hold | ⟨-, rfl⟩
        · exact .inr ⟨i, c, hold, hdriving'⟩
        · rw [hdriving] at hdriving'
          cases hdriving'
    rcases hinv.covered order hbefore with hended | hpends | htracks | ⟨i, c, id, hat, hrest⟩ |
      ⟨i, c, hat, hfail⟩
    · exact .inl hended
    · exact .inr (.inl hpends)
    · exact .inr (.inr (.inl htracks))
    · exact .inr (.inr (.inr (.inl ⟨i, c, id, World.at_append.mpr (.inl hat), hrest⟩)))
    · exact .inr (.inr (.inr (.inr ⟨i, c, World.at_append.mpr (.inl hat), hfail⟩)))
  · intro i c hat f hf
    rcases World.at_append.mp hat with hold | ⟨-, rfl⟩
    · exact hinv.listed_known i c hold f hf
    · rw [hlisted] at hf
      cases hf
  · intro i c hat x hx
    rcases World.at_append.mp hat with hold | ⟨-, rfl⟩
    · exact hinv.settled_known i c hold x hx
    · rw [hsettled] at hx
      cases hx
  · intro i c hat order hforgetting'
    rcases World.at_append.mp hat with hold | ⟨-, rfl⟩
    · exact hinv.forgotten i c hold order hforgetting'
    · rw [hforgetting] at hforgetting'
      cases hforgetting'

theorem attended_stop {w w' : NodeWorld} {i : ℕ} {c : Call} (hinv : Attended keccak256 w)
    (hcond : Finishes w (.stop i)) (hat : w.At i c) (hshared : w'.shared = w.shared)
    (hmoved : Machine.Moved w w' i none) : Attended keccak256 w' := by
  have hback : ∀ {j : ℕ} {d : Call}, w'.At j d → w.At j d := by
    intro j d hd
    by_cases hj : j = i
    · subst hj
      cases (hmoved.moved d).mp hd
    · exact (hmoved.others j d hj).mp hd
  have hknown : ∀ order, Known w order → Known w' order := by
    intro order h
    unfold Known at h ⊢
    rw [hshared]
    exact h
  refine { owned_stop hinv.toOwned hshared hmoved with
    sound := by rw [hshared]; exact hinv.sound, rows := ?_, tracked_rows := ?_, covered := ?_,
    listed_known := ?_, settled_known := ?_, forgotten := ?_ }
  · intro j d hd
    rw [hshared]
    exact hinv.rows j d (hback hd)
  · rw [hshared]
    exact hinv.tracked_rows
  · intro order hneeds
    have hbefore : Needs w order := by
      rcases hneeds with hflight | ⟨j, d, hd, hdriving⟩
      · rw [hshared] at hflight
        exact .inl hflight
      · exact .inr ⟨j, d, hback hd, hdriving⟩
    -- The call that stopped owed nothing that is needed.
    have howes : order ∉ c.owed w.shared := fun hmem => hcond c hat order hmem hbefore
    rcases hinv.covered order hbefore with hended | hpends | htracks |
      ⟨j, d, id, hd, hdecl, hhas⟩ | ⟨j, d, hd, hfail⟩
    · exact .inl (by rw [hshared]; exact hended)
    · exact .inr (.inl (by rw [hshared]; exact hpends))
    · exact .inr (.inr (.inl (by rw [hshared]; exact htracks)))
    · have hj : j ≠ i := by
        rintro rfl
        obtain rfl := World.at_unique hat hd
        exact howes (Call.owed_of_declining hdecl hhas)
      exact .inr (.inr (.inr (.inl ⟨j, d, id, (hmoved.others j d hj).mpr hd, hdecl, by
        rw [hshared]; exact hhas⟩)))
    · have hj : j ≠ i := by
        rintro rfl
        obtain rfl := World.at_unique hat hd
        exact howes (Call.owed_of_failing hfail)
      exact .inr (.inr (.inr (.inr ⟨j, d, (hmoved.others j d hj).mpr hd, hfail⟩)))
  · intro j d hd f hf
    exact hknown _ (hinv.listed_known j d (hback hd) f hf)
  · intro j d hd x hx
    exact hknown _ (hinv.settled_known j d (hback hd) x hx)
  · intro j d hd order hforgetting
    rw [hshared]
    exact hinv.forgotten j d (hback hd) order hforgetting

theorem attended_crash {w : NodeWorld} (hinv : Attended keccak256 w) {budget : AccountKey → U256}
    (hcond : Finishes w (.crash budget)) :
    Attended keccak256 { shared := w.shared.restart budget, calls := [] } := by
  refine { owned_crash hinv.toOwned budget with
    sound := hinv.sound, rows := fun _ _ hat => absurd hat World.not_at_nil,
    tracked_rows := hinv.tracked_rows, covered := ?_,
    listed_known := fun _ _ hat => absurd hat World.not_at_nil,
    settled_known := fun _ _ hat => absurd hat World.not_at_nil,
    forgotten := fun _ _ hat => absurd hat World.not_at_nil }
  rintro order (hflight | ⟨j, d, hd, -⟩)
  · rcases hinv.covered order (.inl hflight) with hended | ⟨id, hpends⟩ | htracks |
      ⟨j, d, id, hd, hdecl, hhas⟩ | ⟨j, d, hd, hfail⟩
    · exact .inl hended
    · exact .inr (.inl ⟨id, LedgerService.pends_recovered hpends budget⟩)
    · exact .inr (.inr (.inl htracks))
    · exact absurd hflight (hcond j d hd order (Call.owed_of_declining hdecl hhas))
    · exact absurd hflight (hcond j d hd order (Call.owed_of_failing hfail))
  · exact absurd hd World.not_at_nil

theorem attended_outside {w : NodeWorld} (hinv : Attended keccak256 w) (event : NodeEvent) :
    Attended keccak256 { w with shared := w.shared.outside event } := by
  rcases event with ⟨handle, answer⟩ | answer
  · exact
      { owned_outside hinv.toOwned (.report handle answer) with
        sound := hinv.sound, rows := hinv.rows, tracked_rows := hinv.tracked_rows,
        covered := hinv.covered, listed_known := hinv.listed_known,
        settled_known := hinv.settled_known, forgotten := hinv.forgotten }
  · refine { owned_outside hinv.toOwned (.sync_budgets answer) with
      sound := hinv.sound, rows := hinv.rows, tracked_rows := hinv.tracked_rows, covered := ?_,
      listed_known := hinv.listed_known, settled_known := hinv.settled_known,
      forgotten := hinv.forgotten }
    intro order hneeds
    rcases hinv.covered order hneeds with hended | ⟨id, hpends⟩ | htracks | hdecl | hfail
    · exact .inl hended
    · exact .inr (.inl ⟨id, LedgerService.pends_of_moves
        ((LedgerService.same_sync_budgets w.shared.ledger answer).moves fun _ => False) (by simp)
        hpends⟩)
    · exact .inr (.inr (.inl htracks))
    · exact .inr (.inr (.inr (.inl hdecl)))
    · exact .inr (.inr (.inr (.inr hfail)))

/-- **Step lemma.** -/
theorem attended_next (w : NodeWorld) (a : NodeAction) (hinv : Attended keccak256 w)
    (hcond : Finishes w a) : Attended keccak256 ((Node.machine config keccak256).next w a) := by
  refine Machine.keeps _ ?_ ?_ ?_ ?_ ?_ w a hinv hcond
  · intro w request hinv _
    exact attended_start hinv request
  · intro w w' i reads c hinv hcond hat hshared hmoved
    have haccess : Accesses keccak256 reads w.shared c w'.shared
        (w.shared.access config keccak256 reads c).2 := by
      rw [hshared]
      exact access_accesses c
    exact attended_access hinv hcond hat haccess hmoved
  · intro w w' i c hinv hcond hat hshared hmoved
    exact attended_stop hinv hcond hat hshared hmoved
  · intro w budget hinv hcond
    exact attended_crash hinv hcond
  · intro w event hinv _
    exact attended_outside hinv event

theorem attended_initial : Attended keccak256 (Machine.initial Node.fresh) := by
  refine { owned_initial with
    sound := ?_, rows := fun _ _ hat => absurd hat World.not_at_nil, tracked_rows := ?_,
    covered := ?_, listed_known := fun _ _ hat => absurd hat World.not_at_nil,
    settled_known := fun _ _ hat => absurd hat World.not_at_nil,
    forgotten := fun _ _ hat => absurd hat World.not_at_nil }
  · intro id row hrow
    simp [Machine.initial, Node.fresh, SqliteTradeStore.empty] at hrow
  · intro f hf
    simp [Machine.initial, Node.fresh, WalletkitExecutor.empty, SqliteFillStore.empty] at hf
  · rintro order (⟨id, row, hrow, -⟩ | ⟨i, c, hat, -⟩)
    · simp [Machine.initial, Node.fresh, SqliteTradeStore.empty] at hrow
    · exact absurd hat World.not_at_nil

variable (config keccak256)

end Run

/-! ## Runs that stop on the way -/

namespace SwapService

/-- A simulator that rejects. -/
def reject_reads : NodeReads :=
  { reads_of [sample_strategy] with
    swap := { (reads_of [sample_strategy]).swap with simulate := .Reject "stale" } }

/-- A request that is rejected, voids its hold and declines its trade, and a second
    one that stops after its reserve. -/
def finished_actions : List NodeAction :=
  [sample_sync, sample_start ⟨1⟩] ++ List.replicate 7 (.access 0 reject_reads) ++
    [.start (.submit { sample_request 300 ⟨2⟩ with
      intent := { (sample_request 300 ⟨2⟩).intent with id := ⟨6⟩ } })] ++
    List.replicate 4 (.access 1 (reads_of [sample_strategy])) ++ [.stop 1]

/-- The rejected request stops after it voided its hold. -/
def rejected_actions : List NodeAction :=
  [sample_sync, sample_start ⟨1⟩] ++ List.replicate 6 (.access 0 reject_reads) ++ [.stop 0]

/-- A crash after the sweep and before the trade is failed. -/
def swept_actions : List NodeAction :=
  [sample_sync, sample_start ⟨1⟩] ++ List.replicate 4 (.access 0 (reads_of [sample_strategy])) ++
    [.stop 0, .start .tick] ++ List.replicate 3 (.access 1 late_reads) ++
    [.crash fun a => get_or (two_budgets 900) a 0]

/-- The calls in progress, the status of each trade, the holds, the tracked fills. -/
def sample_state (w : NodeWorld) : ℕ × List (IntentId × TradeStatus) ×
    List (ReservationOwner × ReservationState) × List IntentId :=
  (w.calls.reduceOption.length,
    w.shared.trades.trade.toList.map fun b => (b.2.order_hash, b.2.status),
    w.shared.ledger.ledger.reservations.toList.map fun b => (b.2.owner, b.2.state),
    w.shared.executor.fills.rows.map TrackedFill.intent)

end SwapService

end Solvent
