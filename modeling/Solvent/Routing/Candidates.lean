import Mathlib
import Solvent.Framework.Vec
import Solvent.Ledger.Engine
import Solvent.Registry.Snapshot

/-! # Candidate selection

    Reduce a request's pair to a bounded set of priceable maker venues. Each
    candidate carries its oriented curve, its flat fees and two output ceilings
    frozen from the ledger's availability snapshot.
-/

namespace Solvent

/-! ## Requests and legs -/

structure RouteRequest where
  intent : IntentId
  token_in : Address
  token_out : Address
  amount : U256
  exact_in : Bool

/-- One maker strategy's contribution to a route. -/
structure RouteLeg where
  maker : MakerId
  strategy_hash : StrategyHash
  token_in : Address
  token_out : Address
  amount_in : U256
  amount_out : U256
  deriving DecidableEq

structure RoutingConfig where
  /-- The most candidates the solver ever optimizes over. -/
  max_candidates : ℕ
  /-- The most legs a route may use; best effort. -/
  max_legs : ℕ

/-- The published availability snapshot. -/
abbrev AvailableSnapshot : Type := BTreeMap AccountKey U256

/-- Available room at `account`, zero where the ledger knows none. -/
def AvailableSnapshot.available (caps : AvailableSnapshot) (account : AccountKey) : U256 :=
  BTreeMap.get_or caps account 0

/-- The strategies withheld from new quotes. -/
abbrev GuardSnapshot : Type := BTreeSet StrategyKey

def GuardSnapshot.is_guarded (guards : GuardSnapshot) (key : StrategyKey) : Bool :=
  guards.contains key

/-! ## Candidates -/

structure Candidate where
  key : StrategyKey
  token_in : Address
  token_out : Address
  /-- Most output this leg can deliver. -/
  cap_out : U256
  /-- The maker's output wallet, shared by its strategies. -/
  wallet_cap : U256
  pool : CurvePool
  fees_in_bps : List U32

def BPS : ℕ := 1000000000

/-- What one fee leaves of the input, as a fraction. -/
def fee_factor (f : U32) : Except CurveError Ratio :=
  if f.val < BPS then .ok (((BPS - f.val : ℕ) : Ratio) / BPS) else .error .InvalidParams

namespace Candidate

variable (c : Candidate)

/-- `γ = Π(1 − fⱼ/BPS)`: the fraction of gross input the curve sees. -/
def gamma : Except CurveError Ratio :=
  c.fees_in_bps.foldlM (fun g f => do return g * (← fee_factor f)) 1

/-- Fee-inclusive marginal output per input. -/
def marginal_price : Except CurveError Ratio := do
  return (← c.pool.marginal_price) * (← c.gamma)

/-- Fee-inclusive output for a gross input. -/
def net_quote_exact_in (gross_in : U256) : Except CurveError U256 := do
  c.pool.quote_exact_in (← shrink_by_fees gross_in c.fees_in_bps)

/-- Fee-inclusive gross input for an output. -/
def net_quote_exact_out (amount_out : U256) : Except CurveError U256 := do
  gross_up_by_fees (← c.pool.quote_exact_out amount_out) c.fees_in_bps

/-- The gross input for `max_out`, stepped back one unit when the round trip
    delivers more; `none` if the pool cannot price it. -/
def input_within_output (max_out : U256) : Option U256 :=
  match c.net_quote_exact_out max_out with
  | .error _ => none
  | .ok input =>
    match c.net_quote_exact_in input with
    | .ok out => if out ≤ max_out then some input else some (input.saturating_sub 1)
    | .error _ => none

/-- A large input within `upper` that survives the curve and fee arithmetic. -/
def feasible_input (upper : U256) : U256 :=
  feasible_bound upper fun input => is_ok (c.net_quote_exact_in input)

/-- Fee-inclusive fill up to a gross marginal `limit`: the fee-free pool filled
    to `limit/γ`, its input grossed back up. -/
def net_quote_with_limit (gross_bound : U256) (limit : Ratio) :
    Except CurveError LimitedQuote := do
  let net_limit := limit * (← ok_or (Ratio.invert (← c.gamma)) .DivByZero)
  let net_bound ← shrink_by_fees gross_bound c.fees_in_bps
  let net ← c.pool.quote_with_limit net_bound net_limit
  return {
    amount_in := min (← gross_up_by_fees net.amount_in c.fees_in_bps) gross_bound
    amount_out := net.amount_out
    limited := net.limited }

end Candidate

/-! ## Building candidates -/

/-- A maker's two output ceilings. -/
structure FrozenCap where
  deliverable : U256
  wallet : U256

def frozen_cap (strategy : MakerStrategy) (caps : AvailableSnapshot) (token_out : Address) :
    FrozenCap :=
  let wallet := AvailableSnapshot.available caps (.WalletBudget strategy.key.maker token_out)
  let strategy_virtual := AvailableSnapshot.available caps
    (.StrategyVirtual strategy.key.maker strategy.key.strategy_hash token_out)
  { deliverable := min wallet strategy_virtual, wallet }

/-- The oriented candidate, a zero cap included. -/
def build_pricing_candidate (strategy : MakerStrategy) (caps : AvailableSnapshot)
    (token_in token_out : Address) : Option Candidate :=
  if strategy.active then
    match strategy.curve with
    | .Unsupported => none
    | .Priceable curve fees_in_bps =>
      let balance_in := strategy.balance token_in
      let balance_out := strategy.balance token_out
      if balance_in = 0 ∨ balance_out = 0 then none
      else
        let cap := frozen_cap strategy caps token_out
        some {
          key := strategy.key
          token_in
          token_out
          cap_out := cap.deliverable
          wallet_cap := cap.wallet
          pool := .from_curve curve token_in token_out balance_in balance_out
          fees_in_bps }
  else none

/-- The eligible candidate: one with deliverable room left. -/
def build_candidate (strategy : MakerStrategy) (caps : AvailableSnapshot)
    (token_in token_out : Address) : Option Candidate :=
  (build_pricing_candidate strategy caps token_in token_out).filter (·.cap_out ≠ 0)

/-! ## Ranking -/

/-- A candidate with its rank score, `none` when unpriceable at this size. -/
structure Scored where
  score : Option U256
  candidate : Candidate

/-- What the taker cares about: output for exact-in, input for exact-out. -/
def score (request : RouteRequest) (c : Candidate) : Option U256 :=
  if request.exact_in then (c.net_quote_exact_in request.amount).toOption
  else (c.net_quote_exact_out (min request.amount c.cap_out)).toOption

/-- Whether `a` ranks no later than `b`: a priceable candidate first, then the
    better score, then the smaller strategy hash. -/
def best_first (exact_in : Bool) (a b : Scored) : Bool :=
  let by_hash := decide (a.candidate.key.strategy_hash ≤ b.candidate.key.strategy_hash)
  match a.score, b.score with
  | some x, some y => if x = y then by_hash else if exact_in then y < x else x < y
  | some _, none => true
  | none, some _ => false
  | none, none => by_hash

/-- The unguarded active strategies of the request's pair that can source it. -/
def eligible (snapshot : Snapshot) (caps : AvailableSnapshot) (guards : GuardSnapshot)
    (request : RouteRequest) : List Candidate :=
  ((snapshot.active_strategies_for_pair (TokenPair.new request.token_in request.token_out)).filter
    fun strategy => !GuardSnapshot.is_guarded guards strategy.key).filterMap
      fun strategy => build_candidate strategy caps request.token_in request.token_out

/-- The `k` most promising venues, best first. -/
def select (snapshot : Snapshot) (caps : AvailableSnapshot) (guards : GuardSnapshot)
    (request : RouteRequest) (k : ℕ) : List Candidate :=
  let scored := (eligible snapshot caps guards request).map fun candidate =>
    ({ score := score request candidate, candidate } : Scored)
  ((scored.insertionSort fun a b => best_first request.exact_in a b).take k).map Scored.candidate

end Solvent
