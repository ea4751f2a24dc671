import Mathlib
import Solvent.Reconcile.Tick
import Solvent.Swap.Order
import Solvent.Swap.Plan

/-! # The swap service

    The life of one signed order, from its price to its submitted fill. A call
    of `submit` is a sequence of port calls: it writes the trade store, the
    ledger and the in-flight table one after another. The model has one phase
    per port call, so that other calls can run between any two of them and a
    call can stop after any of them; `submit` itself runs the phases to the end.
-/

namespace Solvent

open BTreeMap

/-! ## Requests -/

inductive SimVerdict where
  | Ok
  | Reject (reason : String)
  deriving DecidableEq

structure SwapConfig where
  routing : RoutingConfig
  reservation_ttl_secs : U64

/-- One request: the order, its taker and a freshly minted trade id. -/
structure SwapRequest where
  intent : Intent
  taker : Address
  trade_id : TradeId

structure SwapOutcome where
  trade_id : TradeId
  status : TradeStatus
  deriving DecidableEq

/-- What the ports outside the node answer during one step. -/
structure SwapReads where
  now_unix : U64
  registry : Snapshot
  guards : GuardSnapshot
  per_leg_cost : U256
  budget : AccountKey → Except SolventError U256
  simulate : SimVerdict

/-! ## Phases -/

/-- What a call carries from its route on. -/
structure Routed where
  now : U64
  plan : RoutePlan
  snapshot : Snapshot

/-- Where a call of `submit` stands: the port call it makes next. -/
inductive Phase where
  /-- Read the clock and the snapshots, price and route. -/
  | start
  /-- `declined`: record an unroutable order. -/
  | record_declined (now : U64)
  /-- `settle(id, Declined)`, where every decline ends. -/
  | decline (id : TradeId) (now : U64)
  | record (call : Routed) (amounts : SwapAmounts)
  | read_status (call : Routed) (id : TradeId)
  | reserve (call : Routed) (id : TradeId)
  | advance_reserved (call : Routed) (id : TradeId)
  | simulate (call : Routed) (id : TradeId)
  /-- A rejected simulation voids the reservation. -/
  | void (call : Routed) (id : TradeId)
  /-- `Execution::submit`: look the handle up, send, track. -/
  | lookup (call : Routed) (id : TradeId)
  | send (call : Routed) (id : TradeId)
  | track (call : Routed) (id : TradeId) (handle : HandleId)
  | advance_simulated (call : Routed) (id : TradeId)
  | advance_submitted (call : Routed) (id : TradeId)

/-- A call goes on with its next port call or returns. -/
inductive Progress where
  | next (phase : Phase)
  | done (result : Except SolventError SwapOutcome)

namespace SwapService

/-! ## Pure parts -/

/-- The row a request is recorded as. -/
def trade (request : SwapRequest) (amounts : SwapAmounts) (plan : Option RoutePlan) (now : U64)
    (status : TradeStatus) : Trade :=
  { id := request.trade_id
    order_hash := request.intent.id
    taker := request.taker
    token_in := amounts.token_in
    token_out := amounts.token_out
    amount_in := amounts.amount_in
    min_amount_out := amounts.min_out
    amount_out := none
    status
    deadline_block := request.intent.deadline
    surplus := plan.map RoutePlan.expected_profit
    tx_hash := none
    block_number := none
    created_at := now
    settled_at := none }

/-- The amounts an unroutable order is recorded with. -/
def declined_amounts (intent : Intent) (now : U64) : SwapAmounts :=
  let output := primary_output intent now
  { token_in := intent.input.token
    token_out := (output.map SwapOutput.token).getD 0
    amount_in := intent.input.curve.amount_at now
    min_out := (output.map SwapOutput.amount).getD 0 }

/-- The big-endian bytes of a fixed-width value. -/
def to_be_bytes (width value : ℕ) : List UInt8 :=
  (List.range width).reverse.map fun i => UInt8.ofNat (value / 256 ^ i)

/-- The reservation id: the hash of the intent id followed by each leg's fields. -/
def reservation_id (keccak256 : List UInt8 → B256) (intent : IntentId) (plan : RoutePlan) :
    ReservationId :=
  ⟨keccak256 (to_be_bytes 32 intent.hash ++ plan.legs.flatMap fun leg =>
    to_be_bytes 20 leg.maker.address ++ to_be_bytes 32 leg.strategy_hash.hash ++
      to_be_bytes 20 leg.token_out ++ to_be_bytes 32 leg.amount_out)⟩

/-- The persisted legs of a plan. -/
def trade_legs (plan : RoutePlan) : List TradeLeg :=
  plan.legs.map fun leg =>
    { maker := leg.maker, strategy_hash := leg.strategy_hash, amount_in := leg.amount_in,
      amount_out := leg.amount_out }

/-- The lifecycle stages reached at persist time, each stamped `now`. -/
def reached (now : U64) (stages : List TradeStatus) : List TradeAttempt :=
  stages.map fun status => { status, at_time := now }

/-- Whether some strategy a leg draws on is withheld. -/
def plan_is_guarded (plan : RoutePlan) (snapshot : Snapshot) (admission : GuardSnapshot) : Bool :=
  plan.legs.any fun leg =>
    (BTreeMap.values snapshot.strategies).any fun strategy =>
      strategy.key.maker = leg.maker ∧ strategy.key.strategy_hash = leg.strategy_hash ∧
        GuardSnapshot.is_guarded admission strategy.key

/-- The exact-out request an order is routed as. -/
def route_request (intent : Intent) (amounts : SwapAmounts) : RouteRequest :=
  { intent := intent.id
    token_in := amounts.token_in
    token_out := amounts.token_out
    amount := amounts.min_out
    exact_in := false }

/-- Price and route an order on the snapshots of one moment. -/
def price_and_route (config : SwapConfig) (intent : Intent) (reads : SwapReads)
    (caps : AvailableSnapshot) : Option (SwapAmounts × RoutePlan) := do
  let amounts ← swap_amounts intent reads.now_unix
  let plan ← route { snapshot := reads.registry, caps, guards := reads.guards }
    (route_request intent amounts) (intent.routing_input_limit.getD amounts.amount_in)
    config.routing reads.per_leg_cost none
  return (amounts, plan)

/-- The settlement of a decline. -/
def declined_settlement (now : U64) : Settlement :=
  { status := .Declined, amount_out := none, tx_hash := none, block_number := none, at_time := now }

/-- The statuses of a trade that never got to reserve. -/
def before_reserve (status : TradeStatus) : Bool :=
  status = .Created ∨ status = .Quoted

/-! ## One port call -/

/-- A trade store call: its error ends the request. -/
def store_call {α : Type} (node : Node) (answer : Except TradeStoreError α × SqliteTradeStore)
    (continue_with : α → Progress) : Node × Progress :=
  match answer with
  | (.error e, trades) => ({ node with trades }, .done (.error (.TradeStore e)))
  | (.ok a, trades) => ({ node with trades }, continue_with a)

section Step

variable (config : SwapConfig) (keccak256 : List UInt8 → B256)
variable (request : SwapRequest)

/-- Record the declined trade, or find the order's trade. -/
def record_declined (node : Node) (now : U64) : Node × Progress :=
  store_call node
    (node.trades.create
      (trade request (declined_amounts request.intent now) none now .Declined) []
      (reached now [.Created, .Declined]))
    fun created => .next (.decline created.id now)

/-- Persist first: only a newly recorded order goes straight on to reserve. -/
def record (node : Node) (call : Routed) (amounts : SwapAmounts) : Node × Progress :=
  store_call node
    (node.trades.create (trade request amounts (some call.plan) call.now .Quoted)
      (trade_legs call.plan) (reached call.now [.Created, .Quoted]))
    fun created =>
      .next (if created.created then .reserve call created.id else .read_status call created.id)

/-- A resubmit past `Quoted` is echoed; one still before it is driven again. -/
def read_status (node : Node) (call : Routed) (id : TradeId) : Node × Progress :=
  let status := (node.trades.status_of id).getD .Quoted
  (node, if before_reserve status then .next (.reserve call id)
    else .done (.ok { trade_id := id, status }))

/-- Hold the plan's payouts, or decline: a strategy is guarded, or the capacity
    was taken since the quote. -/
def reserve (reads : SwapReads) (node : Node) (call : Routed) (id : TradeId) : Node × Progress :=
  if plan_is_guarded call.plan call.snapshot reads.guards then
    (node, .next (.decline id call.now))
  else
    match node.ledger.reserve { now_unix := reads.now_unix, budget := reads.budget }
        (reservation_id keccak256 request.intent.id call.plan) request.intent.id (sources_of call.plan)
        config.reservation_ttl_secs with
    | (.ok (), ledger) => ({ node with ledger }, .next (.advance_reserved call id))
    | (.error (.Ledger (.Insufficient _)), ledger) =>
      ({ node with ledger }, .next (.decline id call.now))
    | (.error e, ledger) => ({ node with ledger }, .done (.error e))

def advance (node : Node) (id : TradeId) (status : TradeStatus) (now : U64)
    (continue_with : Progress) : Node × Progress :=
  store_call node (node.trades.advance id status now) fun _ => continue_with

/-- Void the reservation of a rejected fill. -/
def void (node : Node) (call : Routed) (id : TradeId) : Node × Progress :=
  match node.ledger.void (reservation_id keccak256 request.intent.id call.plan) with
  | (.ok (), ledger) => ({ node with ledger }, .next (.decline id call.now))
  | (.error e, ledger) => ({ node with ledger }, .done (.error e))

/-- One port call of a request. -/
def step (reads : SwapReads) (node : Node) : Phase → Node × Progress
  | .start =>
    match price_and_route config request.intent reads node.ledger.snapshot with
    | none => (node, .next (.record_declined reads.now_unix))
    | some (amounts, plan) =>
      (node, .next (.record { now := reads.now_unix, plan, snapshot := reads.registry } amounts))
  | .record_declined now => record_declined request node now
  | .decline id now =>
    store_call node (node.trades.settle id (declined_settlement now)) fun _ =>
      .done (.ok { trade_id := id, status := .Declined })
  | .record call amounts => record request node call amounts
  | .read_status call id => read_status node call id
  | .reserve call id => reserve config keccak256 request reads node call id
  | .advance_reserved call id => advance node id .Reserved call.now (.next (.simulate call id))
  | .simulate call id =>
    match reads.simulate with
    | .Ok => (node, .next (.lookup call id))
    | .Reject _ => (node, .next (.void call id))
  | .void call id => void keccak256 request node call id
  | .lookup call id =>
    match node.executor.handle request.intent.id with
    | some _ => (node, .next (.advance_simulated call id))
    | none => (node, .next (.send call id))
  | .send call id =>
    ({ node with executor := node.executor.send_with request.intent.id },
      .next (.track call id node.executor.wallet.sent.length))
  | .track call id handle =>
    ({ node with
      executor := node.executor.track request.intent.id
        (reservation_id keccak256 request.intent.id call.plan) handle },
      .next (.advance_simulated call id))
  | .advance_simulated call id =>
    advance node id .Simulated call.now (.next (.advance_submitted call id))
  | .advance_submitted call id =>
    advance node id .Submitted call.now (.done (.ok { trade_id := id, status := .Submitted }))

/-! ## The whole call -/

/-- How many port calls a request has left at most. -/
def remaining : Phase → ℕ
  | .start => 11
  | .record _ _ => 10
  | .read_status _ _ => 9
  | .reserve _ _ => 8
  | .advance_reserved _ _ => 7
  | .simulate _ _ => 6
  | .lookup _ _ => 5
  | .send _ _ => 4
  | .track _ _ _ => 3
  | .record_declined _ | .void _ _ | .advance_simulated _ _ => 2
  | .decline _ _ | .advance_submitted _ _ => 1

/-- Run a request from a phase on; `reads k` answers its `k`-th port call. -/
def drive (reads : ℕ → SwapReads) :
    ℕ → ℕ → Node → Phase → Node × Option (Except SolventError SwapOutcome)
  | 0, _, node, _ => (node, none)
  | fuel + 1, k, node, phase =>
    match step config keccak256 request (reads k) node phase with
    | (node, .done result) => (node, some result)
    | (node, .next phase) => drive reads fuel (k + 1) node phase

/-- Submit one signed intent. -/
def submit (reads : ℕ → SwapReads) (node : Node) :
    Node × Option (Except SolventError SwapOutcome) :=
  drive config keccak256 request reads 11 0 node .start

/-- A store call that goes on was answered. -/
theorem store_call_next {α : Type} {node node' : Node}
    {answer : Except TradeStoreError α × SqliteTradeStore} {continue_with : α → Progress}
    {phase : Phase} (h : store_call node answer continue_with = (node', .next phase)) :
    ∃ a, answer.1 = .ok a ∧ continue_with a = .next phase := by
  unfold store_call at h
  obtain ⟨result, trades⟩ := answer
  cases result with
  | error e => simp at h
  | ok a => exact ⟨a, rfl, by simpa using (Prod.mk.inj h).2⟩

/-- **Step lemma.** Every port call leaves fewer. -/
theorem remaining_step {reads : SwapReads} {node node' : Node} {phase phase' : Phase}
    (h : step config keccak256 request reads node phase = (node', .next phase')) :
    remaining phase' < remaining phase := by
  cases phase with
  | start =>
    simp only [step] at h
    split at h <;> cases h <;> simp [remaining]
  | record_declined now =>
    obtain ⟨created, -, hnext⟩ := store_call_next h
    cases hnext
    simp [remaining]
  | decline id now =>
    obtain ⟨created, -, hnext⟩ := store_call_next h
    cases hnext
  | record call amounts =>
    obtain ⟨created, -, hnext⟩ := store_call_next h
    simp only [Progress.next.injEq] at hnext
    subst hnext
    split <;> simp [remaining]
  | read_status call id =>
    simp only [step, read_status, Prod.mk.injEq] at h
    split at h
    · obtain ⟨-, hnext⟩ := h
      cases hnext
      simp [remaining]
    · simp at h
  | reserve call id =>
    simp only [step, reserve] at h
    split at h
    · cases h
      simp [remaining]
    · split at h <;> cases h <;> simp [remaining]
  | advance_reserved call id =>
    obtain ⟨-, -, hnext⟩ := store_call_next h
    cases hnext
    simp [remaining]
  | simulate call id =>
    simp only [step] at h
    split at h <;> cases h <;> simp [remaining]
  | void call id =>
    simp only [step, void] at h
    split at h <;> cases h
    simp [remaining]
  | lookup call id =>
    simp only [step] at h
    split at h <;> cases h <;> simp [remaining]
  | send call id =>
    cases h
    simp [remaining]
  | track call id handle =>
    cases h
    simp [remaining]
  | advance_simulated call id =>
    obtain ⟨-, -, hnext⟩ := store_call_next h
    cases hnext
    simp [remaining]
  | advance_submitted call id =>
    obtain ⟨-, -, hnext⟩ := store_call_next h
    cases hnext

/-- **A call returns.** -/
theorem drive_returns (reads : ℕ → SwapReads) {fuel : ℕ} (k : ℕ) (node : Node) (phase : Phase)
    (h : remaining phase ≤ fuel) :
    (drive config keccak256 request reads fuel k node phase).2.isSome := by
  induction fuel generalizing k node phase with
  | zero => cases phase <;> simp [remaining] at h
  | succ fuel ih =>
    rw [drive]
    cases hstep : step config keccak256 request (reads k) node phase with
    | mk node' progress =>
      cases progress with
      | done result => rfl
      | next phase' =>
        have hless := remaining_step config keccak256 request hstep
        exact ih (k + 1) node' phase' (by omega)

theorem submit_returns (reads : ℕ → SwapReads) (node : Node) :
    (submit config keccak256 request reads node).2.isSome :=
  drive_returns config keccak256 request reads 0 node .start le_rfl

end Step

end SwapService

end Solvent
