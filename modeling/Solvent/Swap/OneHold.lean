import Mathlib
import Solvent.Swap.Resubmit
import Solvent.Swap.System

/-! # One hold per order

    A reservation id is the hash of the order and of the plan, so the ledger
    does not notice a second hold of an order that was routed differently. What
    keeps an order to one hold is the trade's status: a request reserves only
    while it is at `Quoted`. That check and the reserve are two calls, and so
    are the reserve and the write of `Reserved`.

    The invariant ties every live hold of the order to a trade past `Quoted` or
    to a request about to write `Reserved`. It survives every step but two: a
    request that reserves on a status read too early, and a request that stops
    between its reserve and its write.
-/

namespace Solvent

open BTreeMap ReconcileService Interleave

/-- The order has an open reservation under `id`, in memory or in the store. -/
def LedgerService.Live (s : LedgerService) (order : IntentId) (id : ReservationId) : Prop :=
  (∃ state, s.memory id = some (.Swap order, state) ∧ state.is_open = true) ∨
  (∃ state, s.durable id = some (.Swap order, state) ∧ state.is_open = true)

namespace LedgerService

theorem live_of_same {s s' : LedgerService} (h : s.Same s') {order : IntentId}
    {id : ReservationId} (hlive : s'.Live order id) : s.Live order id := by
  unfold Live at hlive ⊢
  rw [h.memory, h.durable] at hlive
  exact hlive

/-- No move opens a reservation. -/
theorem live_of_moves {s s' : LedgerService} {ids : ReservationId → Prop} (h : Moves ids s s')
    {order : IntentId} {id : ReservationId} (hlive : s'.Live order id) : s.Live order id := by
  rcases hlive with ⟨state, hmem, hopen⟩ | ⟨state, hrow, hopen⟩
  · obtain ⟨before, hbefore, hback⟩ := owner_back (h.memory_moved id) hmem
    exact .inl ⟨before, hbefore, hback hopen⟩
  · obtain ⟨before, hbefore, hback⟩ := owner_back (h.durable_moved id) hrow
    exact .inr ⟨before, hbefore, hback hopen⟩

/-- A restart opens nothing: memory is rebuilt from the open rows. -/
theorem live_of_recovered {s : LedgerService} {budget : AccountKey → U256} {order : IntentId}
    {id : ReservationId} (hlive : (s.recovered budget).Live order id) : s.Live order id := by
  rcases hlive with ⟨state, hmem, hopen⟩ | ⟨state, hrow, hopen⟩
  · rw [(recovered_evolves s budget).2] at hmem
    obtain ⟨hrow, -⟩ := Option.filter_eq_some_iff.mp hmem
    exact .inr ⟨state, hrow, hopen⟩
  · rw [durable_recovered] at hrow
    exact .inr ⟨state, hrow, hopen⟩

end LedgerService

/-! ## Where a hold comes from -/

section Access

variable {keccak256 : List UInt8 → B256} {reads : NodeReads} {node node' : Node}
variable {c : Call} {next : Option Call} {order : IntentId}

/-- A hold of the order is there before the access, or the access is the reserve
    that placed it. -/
theorem Accesses.live (h : Accesses keccak256 reads node c node' next) {id : ReservationId}
    (hlive : node'.ledger.Live order id) :
    node.ledger.Live order id ∨
      (c.to_reserve = some order ∧ (∃ c', next = some c' ∧ c'.reserving = some order) ∧
        ∀ k, node'.ledger.Live order k → k = id ∨ node.ledger.Live order k) := by
  rcases h with @⟨request, phase, _, _, hdoes⟩ | hdoes
  · rcases hdoes with _ | _ | _ | _ | _ | ⟨hsame, _⟩ |
      @⟨call, _, ledger, _, _, hmemory, hdurable, hothers⟩ | _ | hmoves | ⟨hmoves, _⟩ | _ | _
    case reserve_fails => exact .inl (LedgerService.live_of_same hsame hlive)
    case voids => exact .inl (LedgerService.live_of_moves hmoves hlive)
    case void_fails => exact .inl (LedgerService.live_of_moves hmoves hlive)
    case reserves =>
      -- Away from the new id nothing changed.
      have haway : ∀ k, k ≠ SwapService.reservation_id keccak256 request.intent.id call.plan →
          ledger.Live order k → node.ledger.Live order k := by
        intro k hk hlive'
        unfold LedgerService.Live at hlive' ⊢
        rw [(hothers k hk).1, (hothers k hk).2] at hlive'
        exact hlive'
      by_cases hid : id = SwapService.reservation_id keccak256 request.intent.id call.plan
      · subst hid
        have howner : request.intent.id = order := by
          rcases hlive with ⟨state, hmem, -⟩ | ⟨state, hrow, -⟩
          · have hpair := hmemory.symm.trans hmem
            simp only [Option.some.injEq, Prod.mk.injEq, ReservationOwner.Swap.injEq] at hpair
            exact hpair.1
          · have hpair := hdurable.symm.trans hrow
            simp only [Option.some.injEq, Prod.mk.injEq, ReservationOwner.Swap.injEq] at hpair
            exact hpair.1
        refine .inr ⟨congrArg some howner, ⟨_, rfl, congrArg some howner⟩, ?_⟩
        intro k hk
        by_cases hsame : k = SwapService.reservation_id keccak256 request.intent.id call.plan
        · exact .inl hsame
        · exact .inr (haway k hsame hk)
      · exact .inl (haway id hid hlive)
    all_goals exact .inl hlive
  · rcases hdoes with _ | _ | _ | _ | _ | _ | ⟨hmoves, _⟩ | ⟨hmoves, _⟩ | _ | _ | _ | _ | _ |
      ⟨_, hmoves, _⟩ | ⟨_, hmoves⟩ | _ | _
    case posts => exact .inl (LedgerService.live_of_moves hmoves hlive)
    case voids => exact .inl (LedgerService.live_of_moves hmoves hlive)
    case sweeps => exact .inl (LedgerService.live_of_moves hmoves hlive)
    case sweep_fails => exact .inl (LedgerService.live_of_moves hmoves hlive)
    all_goals exact .inl hlive

/-- The access after a reserve writes `Reserved`, or the call ends there. -/
theorem Accesses.reserving (h : Accesses keccak256 reads node c node' next)
    (hsound : node.trades.Sound)
    (hrows : ∀ o id, c.trade = some (o, id) → node.trades.Has id o)
    (hc : c.reserving = some order) (hgoes : next.isSome) : node'.trades.Past order := by
  rcases h with @⟨request, phase, _, _, hdoes⟩ | @⟨phase, _, _, _⟩
  · rcases phase with _ | _ | _ | _ | _ | _ | ⟨call, id⟩ | _ | _ | _ | _ | _ | _ | _
    case advance_reserved =>
      obtain rfl := Option.some.inj hc
      rcases hdoes with hquiet | _ | _ | _ | _ | _ | _ | ⟨hadvances, htrade⟩ | _ | _ | _ | _
      · cases hquiet
      · cases hgoes
      · cases hadvances
        exact SqliteTradeStore.past_of_rewrites (by decide) hsound htrade (hrows _ _ rfl)
    all_goals cases hc
  · cases hc

end Access

/-! ## The invariant -/

/-- Every live hold of the order is guarded by its trade's status, or by the
    request that is about to write it; so there is at most one. -/
structure OneHold (order : IntentId) (w : NodeWorld) : Prop where
  sound : w.shared.trades.Sound
  rows : ∀ i c, w.At i c → ∀ o id, c.trade = some (o, id) → w.shared.trades.Has id o
  guarded : ∀ id, w.shared.ledger.Live order id →
    w.shared.trades.Past order ∨ ∃ i c, w.At i c ∧ c.reserving = some order
  single : ∀ id id', w.shared.ledger.Live order id → w.shared.ledger.Live order id' → id = id'

/-- No request of the order stands between its reserve and its write. -/
def NoneReserving (order : IntentId) (w : NodeWorld) : Prop :=
  ∀ i c, w.At i c → c.reserving ≠ some order

instance (order : IntentId) (w : NodeWorld) : Decidable (NoneReserving order w) :=
  inferInstanceAs (Decidable (∀ i c, w.At i c → _))

section Run

variable (config : SwapConfig) (keccak256 : List UInt8 → B256) (order : IntentId)

/-- The order's requests do not come between each other's status and reserve: a
    request of the order reserves only while the trade is still before
    `Reserved` and no other one is about to write it, and none stops before that
    write. -/
def Serialized (w : NodeWorld) : NodeAction → Prop
  | .access i reads => ∀ c, w.At i c →
      (c.to_reserve = some order → ¬ w.shared.trades.Past order ∧ NoneReserving order w) ∧
      (c.reserving = some order → (w.shared.access config keccak256 reads c).2.isSome)
  | .stop i => ∀ c, w.At i c → c.reserving ≠ some order
  | .crash _ => NoneReserving order w
  | .start _ | .outside _ => True

instance (w : NodeWorld) (a : NodeAction) : Decidable (Serialized config keccak256 order w a) :=
  match a with
  | .access _ _ => by unfold Serialized; infer_instance
  | .stop _ => by unfold Serialized; infer_instance
  | .crash _ => by unfold Serialized; infer_instance
  | .start _ | .outside _ => .isTrue trivial

variable {config keccak256 order}

theorem oneHold_access {w w' : NodeWorld} {i : ℕ} {reads : NodeReads} {c : Call}
    (hinv : OneHold order w) (hcond : Serialized config keccak256 order w (.access i reads))
    (hat : w.At i c) (hshared : w'.shared = (w.shared.access config keccak256 reads c).1)
    (hmoved : Machine.Moved w w' i (w.shared.access config keccak256 reads c).2) :
    OneHold order w' := by
  have haccess : Accesses keccak256 reads w.shared c w'.shared
      (w.shared.access config keccak256 reads c).2 := by
    rw [hshared]
    exact access_accesses c
  obtain ⟨hreserve, hgoes⟩ := hcond c hat
  have hevolves := haccess.trades
  -- A reserving request of before is still there, or it wrote `Reserved`.
  have hguard : (w.shared.trades.Past order ∨ ∃ j d, w.At j d ∧ d.reserving = some order) →
      w'.shared.trades.Past order ∨ ∃ j d, w'.At j d ∧ d.reserving = some order := by
    rintro (hpast | ⟨j, d, hd, hreserving⟩)
    · exact .inl (hevolves.past hpast)
    · by_cases hj : j = i
      · subst hj
        obtain rfl := World.at_unique hat hd
        exact .inl (haccess.reserving hinv.sound (hinv.rows j c hat) hreserving (hgoes hreserving))
      · exact .inr ⟨j, d, (hmoved.others j d hj).mpr hd, hreserving⟩
  constructor
  · exact hevolves.sound hinv.sound
  · intro j d hd o id htrade
    by_cases hj : j = i
    · subst hj
      have hnext := (hmoved.moved d).mp hd
      rw [hnext] at haccess
      rcases haccess.has htrade with hbefore | hnow
      · exact hevolves.has (hinv.rows j c hat o id hbefore)
      · exact hnow
    · exact hevolves.has (hinv.rows j d ((hmoved.others j d hj).mp hd) o id htrade)
  · intro id hlive
    rcases haccess.live hlive with hbefore | ⟨-, ⟨c', hnext, hreserving⟩, -⟩
    · exact hguard (hinv.guarded id hbefore)
    · exact .inr ⟨i, c', (hmoved.moved c').mpr hnext, hreserving⟩
  · intro id id' hlive hlive'
    rcases haccess.live hlive with hbefore | ⟨hto, -, honly⟩
    · rcases haccess.live hlive' with hbefore' | ⟨hto, -, -⟩
      · exact hinv.single id id' hbefore hbefore'
      · -- A reserve of the order found no hold of it.
        obtain ⟨hquoted, hnone⟩ := hreserve hto
        rcases hinv.guarded id hbefore with hpast | ⟨j, d, hd, hreserving⟩
        · exact absurd hpast hquoted
        · exact absurd hreserving (hnone j d hd)
    · obtain ⟨hquoted, hnone⟩ := hreserve hto
      rcases honly id' hlive' with heq | hbefore'
      · exact heq.symm
      · rcases hinv.guarded id' hbefore' with hpast | ⟨j, d, hd, hreserving⟩
        · exact absurd hpast hquoted
        · exact absurd hreserving (hnone j d hd)

/-- **Step lemma.** -/
theorem oneHold_next (w : NodeWorld) (a : NodeAction) (hinv : OneHold order w)
    (hcond : Serialized config keccak256 order w a) :
    OneHold order ((Node.machine config keccak256).next w a) := by
  refine Machine.keeps _ ?_ ?_ ?_ ?_ ?_ w a hinv hcond
  · -- A new call holds nothing and knows no trade.
    intro w request hinv _
    constructor
    · exact hinv.sound
    · intro i c hat o id htrade
      rcases World.at_append.mp hat with hold | ⟨-, rfl⟩
      · exact hinv.rows i c hold o id htrade
      · rcases request with _ | _ <;> cases htrade
    · intro id hlive
      rcases hinv.guarded id hlive with hpast | ⟨i, c, hat, hreserving⟩
      · exact .inl hpast
      · exact .inr ⟨i, c, World.at_append.mpr (.inl hat), hreserving⟩
    · exact hinv.single
  · intro w w' i reads c hinv hcond hat hshared hmoved
    exact oneHold_access hinv hcond hat hshared hmoved
  · -- A call that stops was not about to write `Reserved`.
    intro w w' i p hinv hcond hat hshared hmoved
    constructor
    · rw [hshared]
      exact hinv.sound
    · intro j c hc o id htrade
      rw [hshared]
      by_cases hj : j = i
      · subst hj
        cases (hmoved.moved c).mp hc
      · exact hinv.rows j c ((hmoved.others j c hj).mp hc) o id htrade
    · intro id hlive
      rw [hshared] at hlive ⊢
      rcases hinv.guarded id hlive with hpast | ⟨j, c, hc, hreserving⟩
      · exact .inl hpast
      · by_cases hj : j = i
        · subst hj
          exact absurd hreserving (hcond c hc)
        · exact .inr ⟨j, c, (hmoved.others j c hj).mpr hc, hreserving⟩
    · rw [hshared]
      exact hinv.single
  · intro w budget hinv hcond
    constructor
    · exact hinv.sound
    · intro i c hat
      exact absurd hat World.not_at_nil
    · intro id hlive
      rcases hinv.guarded id (LedgerService.live_of_recovered hlive) with hpast | ⟨i, c, hat, hres⟩
      · exact .inl hpast
      · exact absurd hres (hcond i c hat)
    · intro id id' hlive hlive'
      exact hinv.single id id' (LedgerService.live_of_recovered hlive)
        (LedgerService.live_of_recovered hlive')
  · intro w event hinv _
    rcases event with ⟨handle, answer⟩ | answer
    · exact ⟨hinv.sound, hinv.rows, hinv.guarded, hinv.single⟩
    · have hsame := LedgerService.same_sync_budgets w.shared.ledger answer
      constructor
      · exact hinv.sound
      · exact hinv.rows
      · intro id hlive
        exact hinv.guarded id (LedgerService.live_of_same hsame hlive)
      · intro id id' hlive hlive'
        exact hinv.single id id' (LedgerService.live_of_same hsame hlive)
          (LedgerService.live_of_same hsame hlive')

theorem oneHold_initial : OneHold order (Machine.initial Node.fresh) where
  sound := by
    intro id row hrow
    simp [Machine.initial, Node.fresh, SqliteTradeStore.empty] at hrow
  rows := fun i c hat => absurd hat World.not_at_nil
  guarded := by
    rintro id (⟨state, hmem, -⟩ | ⟨state, hrow, -⟩)
    · simp [Machine.initial, Node.fresh, LedgerService.new, LedgerService.memory,
        Ledger.empty] at hmem
    · simp [Machine.initial, Node.fresh, LedgerService.new, LedgerService.durable] at hrow
  single := by
    rintro id id' (⟨state, hmem, -⟩ | ⟨state, hrow, -⟩)
    · simp [Machine.initial, Node.fresh, LedgerService.new, LedgerService.memory,
        Ledger.empty] at hmem
    · simp [Machine.initial, Node.fresh, LedgerService.new, LedgerService.durable] at hrow

variable (config keccak256 order)

/-- **At most one hold per order.** In every run of requests, ticks, crashes and
    restarts in which the order's requests are serialized around their reserve,
    at most one reservation of the order is pending or committed. -/
theorem at_most_one_hold (actions : List NodeAction)
    (h : Run.Along (Node.machine config keccak256).next (Serialized config keccak256 order)
      (Machine.initial Node.fresh) actions) (id id' : ReservationId) :
    let node := (Run.run (Node.machine config keccak256).next (Machine.initial Node.fresh)
      actions).shared
    node.ledger.Live order id → node.ledger.Live order id' → id = id' := by
  exact (Run.invariant oneHold_next oneHold_initial h).single id id'

end Run

/-! ## Runs of one order -/

namespace SwapService

/-- The sample strategy under another hash. -/
def other_strategy : MakerStrategy :=
  { sample_strategy with key := { sample_strategy.key with strategy_hash := ⟨2⟩ } }

def two_budgets (wallet : U256) : BTreeMap AccountKey U256 :=
  (sample_budgets wallet).insert (.StrategyVirtual ⟨1⟩ ⟨2⟩ 2) 1000

/-- What a call reads while the registry shows `strategies`. -/
def reads_of (strategies : List MakerStrategy) : NodeReads :=
  { swap :=
      { sample_swap_reads 900 with
        registry := Snapshot.from_strategies strategies
        budget := fun a => .ok (get_or (two_budgets 900) a 0) }
    tick := { now_unix := 10, receipt := fun _ => [], sweep_fails_after := none } }

def sample_sync : NodeAction := .outside (.sync_budgets (.ok (two_budgets 900)))

def sample_start (id : TradeId) : NodeAction := .start (.submit (sample_request 300 id))

/-- The run of a node from its first request. -/
def sample_run (actions : List NodeAction) : NodeWorld :=
  Run.run (Node.machine sample_swap_config sample_hash).next (Machine.initial Node.fresh) actions

/-- Owners and states of the reservations in memory and in the store. -/
def sample_holds (w : NodeWorld) :
    List (ReservationOwner × ReservationState) × List (ReservationOwner × ReservationState) :=
  (w.shared.ledger.ledger.reservations.toList.map fun b => (b.2.owner, b.2.state),
    w.shared.ledger.store.toList.map fun b => (b.2.owner, b.2.state))

/-- A request up to its write of `Reserved`, and a second one that finds it. -/
def serialized_actions : List NodeAction :=
  [sample_sync, sample_start ⟨1⟩] ++ List.replicate 4 (.access 0 (reads_of [sample_strategy])) ++
    [sample_start ⟨2⟩] ++ List.replicate 3 (.access 1 (reads_of [other_strategy]))

def crash_actions : List NodeAction :=
  [sample_sync, sample_start ⟨1⟩] ++ List.replicate 3 (.access 0 (reads_of [sample_strategy])) ++
    [.crash fun a => get_or (two_budgets 900) a 0, sample_sync, sample_start ⟨2⟩] ++
    List.replicate 4 (.access 0 (reads_of [other_strategy]))

def overlap_actions : List NodeAction :=
  [sample_sync, sample_start ⟨1⟩, sample_start ⟨2⟩] ++
    List.replicate 2 (.access 0 (reads_of [sample_strategy])) ++
    List.replicate 3 (.access 1 (reads_of [other_strategy])) ++
    [.access 0 (reads_of [sample_strategy]), .access 1 (reads_of [other_strategy])]

theorem at_most_one_hold_serialized :
    sample_holds (sample_run serialized_actions) =
      ([(.Swap ⟨5⟩, .Pending)], [(.Swap ⟨5⟩, .Pending)]) ∧
    ∀ id id', (sample_run serialized_actions).shared.ledger.Live ⟨5⟩ id →
      (sample_run serialized_actions).shared.ledger.Live ⟨5⟩ id' → id = id' :=
  ⟨by decide +kernel, fun id id' => at_most_one_hold sample_swap_config sample_hash ⟨5⟩
    serialized_actions (by decide +kernel) id id'⟩

/-- Two runs that hold the order twice. A crash between the reserve and the write
    of `Reserved` leaves a quoted trade with a hold, and the resubmission takes
    it for one that never reserved; and two requests that overlap both read
    `Quoted`. Routed over another strategy, the second plan has another id. -/
theorem order_is_held_twice :
    sample_holds (sample_run crash_actions) =
      ([(.Swap ⟨5⟩, .Pending), (.Swap ⟨5⟩, .Pending)],
        [(.Swap ⟨5⟩, .Pending), (.Swap ⟨5⟩, .Pending)]) ∧
    sample_holds (sample_run overlap_actions) =
      ([(.Swap ⟨5⟩, .Pending), (.Swap ⟨5⟩, .Pending)],
        [(.Swap ⟨5⟩, .Pending), (.Swap ⟨5⟩, .Pending)]) := by
  decide +kernel

end SwapService

end Solvent
