import Solvent.Framework.Crash
import Solvent.Ledger.Holdings
import Solvent.Rebate.CallBuilder

/-! # The rebate service

    One live batch per strategy, kept in memory, in the store and in the ledger's
    holds. Every change is written before it is acted on, so that a process which
    dies between two calls leaves a state that recovery can finish.

    A method is a process over the service and what it drives. The lock on the
    batches is held throughout, so methods never interleave.
-/

namespace Solvent

open Abi BTreeMap Contract Process

/-! ## Inputs -/

structure RebateMinimums where
  token : Address
  minimum_maker_rebate : U256
  minimum_executor_profit : U256

structure RebateEvaluationInput where
  strategy : MakerStrategy
  /-- `strategy.program` -/
  program : Bytes
  caps : AvailableSnapshot
  minimums : List RebateMinimums
  reservation_id : ReservationId
  reservation_ttl_secs : U64
  deadline_block : U64
  published_at : U64

/-- With the credential the call builder is made for. -/
structure RebateServiceConfig where
  native_token : Address
  gas_units : U64
  market_max_age_secs : U64
  taker_credential : Address

structure RebateMarketRequest where
  token_a : Address
  token_a_decimals : Fin (2 ^ 8)
  token_b : Address
  token_b_decimals : Fin (2 ^ 8)
  max_age_secs : U64

/-- What the service's ports answer during one call. -/
structure RebatePorts where
  reads : Reads
  market : RebateMarketRequest → Except RebateServiceError RebateMarket
  gas_price_wei : Except RebateServiceError (Fin (2 ^ 128))
  decimals : Address → Fin (2 ^ 8)
  authorize : Contracts.Authorization → Option Bytes

/-- The service and what it drives. -/
structure RebateService where
  batches : BTreeMap StrategyKey RebateBatch
  guards : GuardSnapshot
  ledger : LedgerService
  store : SqliteRebateStore

/-! ## Economics -/

section Economics

variable (config : RebateServiceConfig) (ports : RebatePorts)

def market_request (token_a token_b : Address) : RebateMarketRequest where
  token_a
  token_a_decimals := ports.decimals token_a
  token_b
  token_b_decimals := ports.decimals token_b
  max_age_secs := config.market_max_age_secs

/-- The gas cost in `token`, at the adverse side of the conversion. -/
def gas_cost_in (gas_native : U256) (token : Address) : Except RebateServiceError U256 :=
  if token = config.native_token then .ok gas_native
  else do
    let conversion ← ports.market (market_request config ports config.native_token token)
    let native_per_token ← expect (conversion.rate token config.native_token)
      (.Rebate .MarketPairMismatch)
    let token_per_native ← expect (Ratio.invert native_per_token) (.Rebate .MarketPairMismatch)
    expect (Ratio.ceil (Ratio.from_word gas_native * token_per_native)) (.Rebate .Arithmetic)

def requirement (pair : TokenPair) (gas_native : U256) (minimum : RebateMinimums) :
    Except RebateServiceError RebateRequirements := do
  require (minimum.token = pair.lo ∨ minimum.token = pair.hi)
    (.Rebate (.MissingRequirements minimum.token))
  let gas_cost ← gas_cost_in config ports gas_native minimum.token
  .ok {
    token := minimum.token
    gas_cost
    minimum_maker_rebate := minimum.minimum_maker_rebate
    minimum_executor_profit := minimum.minimum_executor_profit }

def economics (strategy : MakerStrategy) (minimums : List RebateMinimums) :
    Except RebateServiceError (RebateMarket × List RebateRequirements) := do
  let pair ← expect strategy.pair (.Rebate .MarketPairMismatch)
  let market ← ports.market (market_request config ports pair.lo pair.hi)
  let gas_price ← ports.gas_price_wei
  let gas_native ← expect (U256.checked_mul ⟨gas_price.val, by omega⟩ ⟨config.gas_units.val, by omega⟩)
    (.Rebate .Arithmetic)
  let requirements ← minimums.mapM (requirement config ports pair gas_native)
  .ok (market, requirements)

end Economics

/-- A batch priced at the market. -/
def assess_batch (policy : RebatePolicyConfig) (config : RebateServiceConfig) (ports : RebatePorts)
    (input : RebateEvaluationInput) (batch : RebateBatch) :
    Except RebateServiceError RebateAssessment := do
  let (market, requirements) ← economics config ports input.strategy input.minimums
  bubble .Rebate (assess policy batch.id
    ((BTreeMap.values batch.accruals).map MinedAccrual.toRebateAccrual) input.strategy input.caps
    market requirements)

namespace RebateService

abbrev Method (α : Type) : Type := Process RebateService RebateServiceError α

/-! ## Steps -/

def guard (key : StrategyKey) : Method Unit :=
  modify fun s => { s with guards := s.guards.insert key }

def unguard (key : StrategyKey) : Method Unit :=
  modify fun s => { s with guards := s.guards.erase key }

/-- `*batch = next` -/
def put (key : StrategyKey) (next : RebateBatch) : Method Unit :=
  modify fun s => { s with batches := s.batches.insert key next }

def remove (key : StrategyKey) : Method Unit :=
  modify fun s => { s with batches := s.batches.erase key }

/-- A transaction of the store. -/
def transact (f : SqliteRebateStore → Except RebateStoreError SqliteRebateStore) : Method Unit :=
  call fun s =>
    match f s.store with
    | .ok store => (.ok (), { s with store })
    | .error e => (.error (.RebateStore e), s)

/-- A query of the store. -/
def query {α : Type} (f : SqliteRebateStore → Except RebateStoreError α) : Method α :=
  call fun s => (bubble .RebateStore (f s.store), s)

def command (f : LedgerService → Except SolventError Unit × LedgerService) : Method Unit :=
  call fun s => (bubble .Ledger (f s.ledger).1, { s with ledger := (f s.ledger).2 })

def save (batch : RebateBatch) : Method Unit :=
  transact fun store => store.save batch

def begin_settlement (settlement : RebateSettlement) : Method Unit := do
  transact fun store => store.insert_settlement settlement
  query fun store => store.settles_exactly settlement

/-- Act on a reservation that is still pending. -/
def if_held (reservation : ReservationId) (act : Method Unit) : Method Unit := do
  let s ← read
  if (s.ledger.reservation_sources reservation).isSome then act else pure ()

def release_if_held (reservation : ReservationId) : Method Unit :=
  if_held reservation (command fun l => l.void reservation)

/-- The reservation a transition was interrupted at. -/
def interrupted : RebateBatchState → Option ReservationId
  | .Preparing _ reservation | .Invalidating reservation => some reservation
  | _ => none

/-- The batch once the transition it was interrupted in is undone. -/
def finish_interrupted_transition (key : StrategyKey) (batch : RebateBatch) : Method RebateBatch :=
  match interrupted batch.state with
  | some reservation => do
    guard batch.strategy
    release_if_held reservation
    put key (batch.enter .Guarded)
    save (batch.enter .Guarded)
    pure (batch.enter .Guarded)
  | none => pure batch

/-! ## Recovery -/

def resume_settlement (settlement : RebateSettlement) : Method Unit := do
  lift (validate_settlement settlement)
  guard settlement.plan.strategy
  if_held settlement.reservation
    (command fun l => l.post settlement.reservation [settlement.event.amount_out])
  transact fun store => store.finish_settlement settlement.plan.batch_id
  unguard settlement.plan.strategy

/-- What a persisted batch becomes: an interrupted one is undone. -/
def recover_state (batch : RebateBatch) : Method RebateBatch :=
  match batch.state with
  | .Accumulating | .Guarded => do
    -- A restart invalidates the market freshness proof that allowed quoting.
    guard batch.strategy
    pure batch
  | .Ready execution => do
    guard batch.strategy
    let s ← read
    lift (require ((s.ledger.reservation_sources execution.reservation).isSome = true)
      (.InvalidExecution "ready work has no inventory reservation"))
    pure batch
  | .Preparing _ reservation | .Invalidating reservation => do
    guard batch.strategy
    release_if_held reservation
    save (batch.enter .Guarded)
    pure (batch.enter .Guarded)

def recover_batch (recovered : BTreeMap StrategyKey RebateBatch) (batch : RebateBatch) :
    Method (BTreeMap StrategyKey RebateBatch) := do
  lift (validate_batch batch)
  lift (require ((recovered[batch.strategy]?).isNone = true)
    (.Rebate (.InvalidAccrual "multiple open batches target one strategy")))
  let next ← recover_state batch
  pure (recovered.insert batch.strategy next)

/-- Rebuild open batches and routing guards after the ledger has recovered its durable holds. -/
def recover (keccak256 : Bytes → B256) : Method Unit := do
  let settlements ← query fun store => .ok store.pending_settlements
  settlements.foldlM (fun _ settlement => resume_settlement settlement) ()
  let batches ← query fun store => store.open_batches keccak256
  let recovered ← batches.foldlM recover_batch ∅
  modify fun s => { s with batches := recovered }

/-! ## Intake -/

/-- Undo the guard of a batch that quoted until now. -/
def unguard_accumulating (batch : RebateBatch) : Method Unit :=
  match batch.state with
  | .Accumulating => unguard batch.strategy
  | _ => pure ()

/-- The rest of `accrue` on a batch that does not have the leg. -/
def append_leg (batch : RebateBatch) (accrual : MinedAccrual) : Method RebateBatchId := do
  guard accrual.strategy
  match batch.state.active_reservation with
  | some reservation => do
    -- The compensation marker is durable before a promised hold is released.
    save ((batch.append accrual).enter (.Invalidating reservation))
    put accrual.strategy ((batch.append accrual).enter (.Invalidating reservation))
    release_if_held reservation
    save ((batch.append accrual).enter .Guarded)
    put accrual.strategy ((batch.append accrual).enter .Guarded)
    pure batch.id
  | none =>
    match ← attempt (save ((batch.append accrual).enter .Guarded)) with
    | .ok () => do
      put accrual.strategy ((batch.append accrual).enter .Guarded)
      pure batch.id
    | .error e => do
      unguard_accumulating batch
      lift (.error e)

/-- The batch a leg opens. -/
def first_batch (keccak256 : Bytes → B256) (accrual : MinedAccrual) : RebateBatch :=
  (RebateBatch.new (batch_id keccak256 accrual)
    (TokenPair.new accrual.token_in accrual.token_out) accrual).enter .Guarded

/-- The rest of `accrue` on a strategy without a batch. -/
def open_batch (keccak256 : Bytes → B256) (accrual : MinedAccrual) : Method RebateBatchId := do
  guard accrual.strategy
  -- A fresh external book must prove the displaced strategy safe before it quotes again.
  match ← attempt (save (first_batch keccak256 accrual)) with
  | .ok () => do
    put accrual.strategy (first_batch keccak256 accrual)
    pure (batch_id keccak256 accrual)
  | .error e => do
    unguard accrual.strategy
    lift (.error e)

/-- Idempotently append one mined leg to the strategy's only live batch. -/
def accrue (keccak256 : Bytes → B256) (accrual : MinedAccrual) : Method RebateBatchId := do
  lift (validate_accrual accrual)
  let s ← read
  match s.batches[accrual.strategy]? with
  | none => open_batch keccak256 accrual
  | some batch =>
    match batch.accruals[accrual.trade_id]? with
    | some existing => do
      lift (require (existing = accrual)
        (.Rebate (.InvalidAccrual "trade and strategy identify conflicting legs")))
      let batch ← finish_interrupted_transition accrual.strategy batch
      pure batch.id
    | none => do
      lift (require (batch.pair = TokenPair.new accrual.token_in accrual.token_out)
        (.Rebate (.InvalidAccrual "strategy pair changed")))
      -- Published calldata stays executable until its deadline; the same hold is retained.
      lift (require (batch.state.is_ready = false)
        (.InvalidExecution "confirmed fill arrived while public work is executable"))
      append_leg batch accrual

/-! ## Evaluation -/

/-- `publish` once the hold is taken: the plan is signed, and its work is written
    before it is shown. -/
def expose (keccak256 : Bytes → B256) (config : RebateServiceConfig) (ports : RebatePorts)
    (input : RebateEvaluationInput) (batch : RebateBatch) (plan : RebatePlan) :
    Method RebateAssessment :=
  match FillerRebateCallBuilder.build keccak256 config.taker_credential ports.authorize
      input.strategy.key input.program plan input.reservation_id input.deadline_block
      input.published_at with
  | .ok execution => do
    match ← attempt (save (batch.enter (.Ready execution))) with
    | .ok () => do
      put input.strategy.key (batch.enter (.Ready execution))
      pure (.Ready plan)
    | .error e => do
      release_if_held input.reservation_id
      lift (.error e)
  | .error e => do
    release_if_held input.reservation_id
    put input.strategy.key (batch.enter .Guarded)
    save (batch.enter .Guarded)
    lift (.error (.RebateCallBuilder e))

/-- `publish` where the hold is refused: contention for capacity fails closed until
    fresh balances are evaluated. -/
def refuse (input : RebateEvaluationInput) (batch : RebateBatch) (plan : RebatePlan) :
    RebateServiceError → Method RebateAssessment
  | .Ledger (.Ledger (.Insufficient _)) => do
    put input.strategy.key (batch.enter .Guarded)
    save (batch.enter .Guarded)
    pure (.Guarded plan.deviation_bps)
  | e => lift (.error e)

/-- The rest of `evaluate` on a plan that clears the policy. -/
def publish (keccak256 : Bytes → B256) (config : RebateServiceConfig) (ports : RebatePorts)
    (input : RebateEvaluationInput) (batch : RebateBatch) (plan : RebatePlan) :
    Method RebateAssessment := do
  -- The guard is published before the same strategy inventory is promised to a rebate.
  guard input.strategy.key
  save (batch.enter (.Preparing plan input.reservation_id))
  put input.strategy.key (batch.enter (.Preparing plan input.reservation_id))
  match ← attempt (command fun l => l.reserve_rebate ports.reads input.reservation_id batch.id
      [plan.source input.strategy.key] input.reservation_ttl_secs) with
  | .ok () => expose keccak256 config ports input batch plan
  | .error e => refuse input batch plan e

/-- Re-evaluate the live batch, publishing the strategy guard before reserving a firm plan. -/
def evaluate (keccak256 : Bytes → B256) (policy : RebatePolicyConfig) (config : RebateServiceConfig)
    (ports : RebatePorts) (input : RebateEvaluationInput) : Method RebateAssessment := do
  let s ← read
  let batch ← lift (expect s.batches[input.strategy.key]?
    (.Rebate (.StrategyMismatch input.strategy.key.strategy_hash)))
  let batch ← finish_interrupted_transition input.strategy.key batch
  match batch.state with
  | .Ready execution => pure (.Ready execution.plan)
  | _ =>
    match ← lift (assess_batch policy config ports input batch) with
    | .Quoteable deviation_bps => do
      save (batch.enter .Accumulating)
      put input.strategy.key (batch.enter .Accumulating)
      unguard input.strategy.key
      pure (.Quoteable deviation_bps)
    | .Guarded deviation_bps => do
      guard input.strategy.key
      save (batch.enter .Guarded)
      put input.strategy.key (batch.enter .Guarded)
      pure (.Guarded deviation_bps)
    | .Ready plan => publish keccak256 config ports input batch plan

/-! ## The end of a batch -/

/-- Give back the hold of a batch that is going away. -/
def withdraw (strategy : StrategyKey) (batch : RebateBatch) : Method Unit :=
  match batch.state.active_reservation with
  | some reservation => do
    put strategy (batch.enter (.Invalidating reservation))
    save (batch.enter (.Invalidating reservation))
    release_if_held reservation
  | none => pure ()

/-- Release a live batch and any firm reservation, then restore routing visibility. -/
def discard (strategy : StrategyKey) : Method Bool := do
  let s ← read
  match s.batches[strategy]? with
  | none => pure false
  | some batch => do
    lift (require (batch.state.is_ready = false)
      (.InvalidExecution "public work must expire before its batch is discarded"))
    withdraw strategy batch
    transact fun store => .ok (store.close batch.id)
    remove strategy
    unguard strategy
    pure true

/-- The rest of `settle` on ready work. -/
def settle_ready (strategy : StrategyKey) (batch : RebateBatch) (execution : RebateExecution)
    (event : RebateExecutedEvent) (executed_at : U64) : Method Bool := do
  lift (validate_execution_event event execution)
  begin_settlement (execution.settlement event executed_at)
  if_held execution.reservation
    (command fun l => l.post execution.reservation [event.amount_out])
  transact fun store => store.finish_settlement batch.id
  remove strategy
  unguard strategy
  pure true

/-- Reconcile a mined filler event against the exact signed plan before consuming its hold. -/
def settle (event : RebateExecutedEvent) (executed_at : U64) : Method Bool := do
  let s ← read
  match s.batches.toList.find? fun e => e.2.id = event.batch_id with
  | none => pure false
  | some (strategy, batch) =>
    match batch.state with
    | .Ready execution => settle_ready strategy batch execution event executed_at
    | _ => lift (.error (.InvalidExecution "mined event does not identify ready work"))

/-- The rest of `expire_ready` once the deadline block is scanned. -/
def invalidate_ready (strategy : StrategyKey) (batch : RebateBatch) (reservation : ReservationId) :
    Method Bool := do
  save (batch.enter (.Invalidating reservation))
  put strategy (batch.enter (.Invalidating reservation))
  if_held reservation (command fun l => l.expire reservation)
  save (batch.enter .Guarded)
  put strategy (batch.enter .Guarded)
  pure true

/-- Expire public work only after its entire deadline block has been scanned for executions. -/
def expire_ready (strategy : StrategyKey) (safe_scanned_block : U64) : Method Bool := do
  let s ← read
  match s.batches[strategy]? with
  | none => pure false
  | some batch =>
    match batch.state with
    | .Ready execution =>
      if safe_scanned_block ≤ execution.authorization.deadlineBlock then pure false
      else invalidate_ready strategy batch execution.reservation
    | _ => pure false

/-! ## Reads -/

/-- The payload of ready work. -/
def ready_execution (batch : RebateBatch) : Option RebateExecution :=
  match batch.state with
  | .Ready execution => some execution
  | _ => none

/-- The immutable persisted payloads: a read never mints a new nonce or signature. -/
def ready (s : RebateService) : List RebateExecution :=
  (BTreeMap.values s.batches).filterMap ready_execution

def ready_by_id (s : RebateService) (id : RebateBatchId) : Option RebateExecution :=
  (BTreeMap.values s.batches).findSome? fun batch =>
    if batch.id = id then ready_execution batch else none

end RebateService

end Solvent
