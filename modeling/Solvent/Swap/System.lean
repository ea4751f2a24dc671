import Mathlib
import Solvent.Framework.Interleave
import Solvent.Swap.Steps
import Solvent.Trade.Evolution

/-! # Requests and ticks against one node

    Any number of `submit` and `tick` calls in progress against the stores of
    one node. A call makes one port call at a time and may stop before any of
    them; a crash loses every call and recovers the ledger from its store. From
    outside, the transaction engine reports on the sent transactions and the
    budgets are synced.
-/

namespace Solvent

open BTreeMap ReconcileService Interleave

/-! ## The machine -/

inductive NodeRequest where
  | submit (request : SwapRequest)
  | tick

/-- A call in progress and where it stands. -/
inductive Call where
  | submit (request : SwapRequest) (phase : Phase)
  | tick (phase : TickPhase)

structure NodeReads where
  swap : SwapReads
  tick : TickReads

inductive NodeEvent where
  /-- The engine's answer for a pending transaction changes. -/
  | report (handle : HandleId) (answer : Option ExecStatus)
  | sync_budgets (answer : Except SolventError (BTreeMap AccountKey U256))

namespace Node

def access (config : SwapConfig) (keccak256 : List UInt8 → B256) (reads : NodeReads)
    (node : Node) : Call → Node × Option Call
  | .submit request phase =>
    let (node, progress) := SwapService.step config keccak256 request reads.swap node phase
    (node, progress.phase.map (Call.submit request))
  | .tick phase =>
    let (node, progress) := tick_step reads.tick node phase
    (node, progress.phase.map Call.tick)

def outside (event : NodeEvent) (node : Node) : Node :=
  match event with
  | .report handle answer => { node with executor := node.executor.report handle answer }
  | .sync_budgets answer => { node with ledger := (node.ledger.sync_budgets answer).2 }

def entry : NodeRequest → Call
  | .submit request => .submit request .start
  | .tick => .tick .tracked

abbrev machine (config : SwapConfig) (keccak256 : List UInt8 → B256) :
    Machine Node NodeRequest Call NodeReads (AccountKey → U256) NodeEvent where
  entry := entry
  access := access config keccak256
  restart := fun budget node => node.restart budget
  outside := outside

/-- A node before its first request. -/
def fresh : Node where
  ledger := .new ∅
  trades := .empty
  executor := .empty

end Node

abbrev NodeWorld : Type := World Node Call

abbrev NodeAction : Type := Action NodeRequest NodeReads (AccountKey → U256) NodeEvent

/-! ## What a call is about -/

namespace Call

/-- The order a request is for and the trade it works on, once it knows it. -/
def trade : Call → Option (IntentId × TradeId)
  | .submit request (.decline id _) | .submit request (.read_status _ id)
  | .submit request (.reserve _ id) | .submit request (.advance_reserved _ id)
  | .submit request (.simulate _ id) | .submit request (.void _ id)
  | .submit request (.lookup _ id) | .submit request (.send _ id)
  | .submit request (.track _ id _) | .submit request (.advance_simulated _ id)
  | .submit request (.advance_submitted _ id) => some (request.intent.id, id)
  | _ => none

/-- The hold of a request between its reserve and its tracked fill. -/
def holding (keccak256 : List UInt8 → B256) : Call → Option (IntentId × ReservationId)
  | .submit request (.advance_reserved call _) | .submit request (.simulate call _)
  | .submit request (.void call _) | .submit request (.lookup call _)
  | .submit request (.send call _) | .submit request (.track call _ _) =>
    some (request.intent.id, SwapService.reservation_id keccak256 request.intent.id call.plan)
  | _ => none

/-- The order of a request that reserved and has not written `Reserved` yet. -/
def reserving : Call → Option IntentId
  | .submit request (.advance_reserved _ _) => some request.intent.id
  | _ => none

/-- The order of a request about to reserve. -/
def to_reserve : Call → Option IntentId
  | .submit request (.reserve _ _) => some request.intent.id
  | _ => none

/-- The order of a request past its reserve. -/
def driving : Call → Option IntentId
  | .submit request (.advance_reserved _ _) | .submit request (.simulate _ _)
  | .submit request (.void _ _) | .submit request (.lookup _ _)
  | .submit request (.send _ _) | .submit request (.track _ _ _)
  | .submit request (.advance_simulated _ _) | .submit request (.advance_submitted _ _) =>
    some request.intent.id
  | _ => none

/-- The handle of a sent transaction that is not tracked yet. -/
def untracked : Call → Option HandleId
  | .submit _ (.track _ _ handle) => some handle
  | _ => none

/-- The fills a tick read as tracked and has not passed yet. -/
def listed : Call → List TrackedFill
  | .tick (.status f fills _) | .tick (.sources f _ _ fills _) | .tick (.post f _ fills _)
  | .tick (.void f fills _) => f :: fills
  | _ => []

/-- The fill a tick read as terminal and is closing. -/
def closing : Call → Option TrackedFill
  | .tick (.sources f _ _ _ _) | .tick (.post f _ _ _) | .tick (.void f _ _) => some f
  | _ => none

/-- The reservations a sweep leaves out. -/
def sweeping : Call → Option (List ReservationId)
  | .tick (.sweep _ in_flight) => some in_flight
  | _ => none

/-- The fills a tick has settled in the ledger and not in the trade store. -/
def settled : Call → List Settled
  | .tick (.status _ _ settled) | .tick (.sources _ _ _ _ settled) | .tick (.post _ _ _ settled)
  | .tick (.void _ _ settled) => settled
  | .tick (.settle_trade _ fill settled) => fill :: settled
  | .tick (.record_terminal _ _ settled) | .tick (.untrack _ _ settled) => settled
  | _ => []

/-- The fill a tick is forgetting. -/
def forgetting : Call → Option IntentId
  | .tick (.record_terminal _ fill _) | .tick (.untrack _ fill _) => some fill.intent
  | _ => none

/-- The orders whose hold a tick swept and whose trade it has not failed yet. -/
def failing : Call → List IntentId
  | .tick (.fail _ intent swept) => intent :: swept
  | _ => []

/-- The trade a request is about to decline. -/
def declining : Call → Option TradeId
  | .submit _ (.decline id _) => some id
  | _ => none

end Call

/-! ## One access -/

section Access

variable {config : SwapConfig} {keccak256 : List UInt8 → B256} {reads : NodeReads} {node : Node}

/-- What one access of a call can do, and how the call goes on. -/
inductive Accesses (keccak256 : List UInt8 → B256) (reads : NodeReads) (node : Node) :
    Call → Node → Option Call → Prop where
  | submit {request : SwapRequest} {phase : Phase} {node' : Node} {next : Option Phase}
      (h : SwapService.Does keccak256 request node phase node' next) :
      Accesses keccak256 reads node (.submit request phase) node' (next.map (Call.submit request))
  | tick {phase : TickPhase} {node' : Node} {next : Option TickPhase}
      (h : TickDoes reads.tick node phase node' next) :
      Accesses keccak256 reads node (.tick phase) node' (next.map Call.tick)

/-- **Inversion of an access.** -/
theorem access_accesses (c : Call) :
    Accesses keccak256 reads node c (node.access config keccak256 reads c).1
      (node.access config keccak256 reads c).2 := by
  rcases c with ⟨request, phase⟩ | phase
  · show Accesses keccak256 reads node (.submit request phase)
      (SwapService.step config keccak256 request reads.swap node phase).1
      ((SwapService.step config keccak256 request reads.swap node phase).2.phase.map
        (Call.submit request))
    exact .submit (SwapService.step_does keccak256 request config rfl)
  · show Accesses keccak256 reads node (.tick phase) (tick_step reads.tick node phase).1
      ((tick_step reads.tick node phase).2.phase.map Call.tick)
    exact .tick (tick_step_does rfl)

theorem terminal_settled_status (outcome : SettledOutcome) :
    (settled_status outcome).is_terminal = true := by
  cases outcome <;> rfl

/-- Everything an access can do to the trade table. -/
inductive TradeEffect (node : Node) (c : Call) (node' : Node) : Prop where
  | same (h : node'.trades.trade = node.trades.trade)
  | records {id : TradeId} {row : TradeRow} (hfresh : node.trades.trade[id]? = none)
      (hnone : node.trades.find_by_order row.order_hash = none)
      (htrade : node'.trades.trade = node.trades.trade.insert id row)
      (hopen : row.settled_at = none) (hstatus : row.status.in_flight = false)
  | settles {id : TradeId} {outcome : Settlement} {block : Option I64} {stamp : I64}
      (houtcome : outcome.status.is_terminal = true)
      (htrade : node.trades.Rewrites node'.trades id
        (SqliteTradeStore.settled_row · outcome block stamp))
  /-- Only a request past its reserve advances a trade, and it is its own. -/
  | advances {order : IntentId} {id : TradeId} {status : TradeStatus}
      (hstatus : status.in_flight = true) (hdriving : c.driving = some order)
      (hmine : c.trade = some (order, id))
      (htrade : node.trades.Rewrites node'.trades id (SqliteTradeStore.advanced · status))

theorem tradeEffect_of_ends {c : Call} {trades : SqliteTradeStore} {intent : IntentId}
    {status : TradeStatus} (hstatus : status.is_terminal = true)
    (h : Ends node.trades trades intent status) :
    TradeEffect node c { node with trades } := by
  rcases h with ⟨_, rfl⟩ | ⟨id, row, outcome, block, stamp, _, rfl, hrewrites⟩
  · exact .same rfl
  · exact .settles hstatus hrewrites

theorem Accesses.tradeEffect {c : Call} {node' : Node} {next : Option Call}
    (h : Accesses keccak256 reads node c node' next) : TradeEffect node c node' := by
  rcases h with hdoes | hdoes
  · rcases hdoes with _ | _ | ⟨hnone, hfresh, htrade, horder, hstatus, hopen⟩ |
      ⟨hnone, hfresh, htrade, horder, hstatus, hopen⟩ | htrade | _ | _ | ⟨hadvances, htrade⟩ |
      _ | _ | _ | _
    case records_declined =>
      exact .records hfresh (by rw [horder]; exact hnone) htrade hopen (by rw [hstatus]; rfl)
    case records =>
      exact .records hfresh (by rw [horder]; exact hnone) htrade hopen (by rw [hstatus]; rfl)
    case declines => exact .settles rfl htrade
    case advances => rcases hadvances with _ | _ | _ <;> exact .advances rfl rfl rfl htrade
    all_goals exact .same rfl
  · rcases hdoes with _ | _ | _ | _ | _ | _ | _ | _ | hends | _ | _ | _ | _ | _ | _ | hends | _
    case settles => exact tradeEffect_of_ends (terminal_settled_status _) hends
    case fails => exact tradeEffect_of_ends rfl hends
    all_goals exact .same rfl

/-- Every access evolves the trade table. -/
theorem Accesses.trades {c : Call} {node' : Node} {next : Option Call}
    (h : Accesses keccak256 reads node c node' next) : node.trades.Evolves node'.trades := by
  rcases h.tradeEffect with hsame | ⟨hfresh, hnone, htrade, hopen, hstatus⟩ |
    ⟨houtcome, htrade⟩ | ⟨hstatus, _, _, htrade⟩
  · exact SqliteTradeStore.evolves_of_same hsame
  · exact SqliteTradeStore.evolves_of_insert htrade hfresh hnone hopen hstatus
  · exact SqliteTradeStore.evolves_of_rewrites htrade fun _ => .settles houtcome
  · exact SqliteTradeStore.evolves_of_rewrites htrade fun _ => .advances hstatus

/-- The trade a call works on is its own order's. -/
theorem Accesses.has {c c' : Call} {node' : Node}
    (h : Accesses keccak256 reads node c node' (some c')) {order : IntentId} {id : TradeId}
    (hc' : c'.trade = some (order, id)) :
    c.trade = some (order, id) ∨ node'.trades.Has id order := by
  generalize hnext : some c' = next at h
  rcases h with @⟨request, phase, _, next, hdoes⟩ | @⟨phase, _, next, hdoes⟩
  · obtain ⟨phase', rfl, rfl⟩ := Option.map_eq_some_iff.mp hnext.symm
    rcases hdoes with hquiet | _ | ⟨_, _, htrade, horder, _, _⟩ |
      ⟨_, _, htrade, horder, _, _⟩ | _ | ⟨_, hfails⟩ | _ | ⟨hadvances, _⟩ | _ | _ | _ | _
    · rcases hquiet with _ | _ | hfind | hfind | _ | _ | _ | _ | _ | _
      case found_declined =>
        obtain ⟨rfl, rfl⟩ := Prod.mk.inj (Option.some.inj hc')
        exact .inr ⟨_, SqliteTradeStore.find_by_order_some.mp hfind⟩
      case found =>
        obtain ⟨rfl, rfl⟩ := Prod.mk.inj (Option.some.inj hc')
        exact .inr ⟨_, SqliteTradeStore.find_by_order_some.mp hfind⟩
      case routes => cases hc'
      case unrouted => cases hc'
      all_goals exact .inl hc'
    · obtain ⟨rfl, rfl⟩ := Prod.mk.inj (Option.some.inj hc')
      exact .inr ⟨_, by rw [htrade]; simp, horder⟩
    · obtain ⟨rfl, rfl⟩ := Prod.mk.inj (Option.some.inj hc')
      exact .inr ⟨_, by rw [htrade]; simp, horder⟩
    · rcases hfails with hnone | hdecline
      · cases hnone
      · obtain rfl := Option.some.inj hdecline
        exact .inl hc'
    · exact .inl hc'
    · rcases hadvances with _ | _
      · exact .inl hc'
      · exact .inl hc'
    · exact .inl hc'
    · exact .inl hc'
    · exact .inl hc'
  · obtain ⟨phase', -, rfl⟩ := Option.map_eq_some_iff.mp hnext.symm
    cases hc'

end Access

end Solvent
