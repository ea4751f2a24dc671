import Mathlib
import Solvent.Registry.Apply
import Solvent.Routing.Reservable

/-! # Routing

    The router's public entry: rank the candidates of a coherent set of
    snapshots, solve the sparse split, and keep it only if it beats the taker's
    bound.
-/

namespace Solvent

/-- A sourcing plan for an intent. -/
structure RoutePlan where
  intent : IntentId
  legs : List RouteLeg
  expected_profit : U256

/-- The registry, inventory and policy snapshots of one route calculation. -/
structure RoutingBook where
  snapshot : Snapshot
  caps : AvailableSnapshot
  guards : GuardSnapshot

/-- The resolver's spread over the taker's bound, both directions charging gas;
    `none` for a bound the split cannot beat. -/
def spread (request : RouteRequest) (split : Split) (bound per_leg_cost : U256) : Option U256 :=
  if request.exact_in then (split.net_output per_leg_cost).checked_sub bound
  else bound.checked_sub (split.gross_input per_leg_cost)

/-- Route `request` within the taker's `bound`: `min_out` for exact-in, `max_in`
    for exact-out. -/
def route (book : RoutingBook) (request : RouteRequest) (bound : U256) (config : RoutingConfig)
    (per_leg_cost : U256) (warm : Option Ratio) : Option RoutePlan := do
  let chosen := select book.snapshot book.caps book.guards request config.max_candidates
  let split ← solve_sparse chosen request per_leg_cost config.max_legs warm
  let expected_profit ← spread request split bound per_leg_cost
  return { intent := request.intent, legs := split.legs, expected_profit }

/-- What a plan is made of: a split of the selected candidates. -/
theorem route_cases {book : RoutingBook} {request : RouteRequest} {bound : U256}
    {config : RoutingConfig} {per_leg_cost : U256} {warm : Option Ratio} {plan : RoutePlan}
    (h : route book request bound config per_leg_cost warm = some plan) :
    ∃ split, solve_sparse
        (select book.snapshot book.caps book.guards request config.max_candidates)
        request per_leg_cost config.max_legs warm = some split ∧ plan.legs = split.legs := by
  unfold route at h
  simp only [Option.bind_eq_bind, Option.bind_eq_some_iff] at h
  obtain ⟨split, hsplit, profit, -, hplan⟩ := h
  cases hplan
  exact ⟨split, hsplit, rfl⟩

/-- An exact-out plan takes its input and its gas from the taker's bound. -/
theorem route_within_bound {book : RoutingBook} {request : RouteRequest} {bound : U256}
    {config : RoutingConfig} {per_leg_cost : U256} {warm : Option Ratio} {plan : RoutePlan}
    (hout : request.exact_in = false)
    (h : route book request bound config per_leg_cost warm = some plan) :
    ∃ split, solve_sparse
        (select book.snapshot book.caps book.guards request config.max_candidates)
        request per_leg_cost config.max_legs warm = some split ∧ plan.legs = split.legs ∧
      split.amount_in ≤ bound := by
  unfold route at h
  simp only [Option.bind_eq_bind, Option.bind_eq_some_iff] at h
  obtain ⟨split, hsplit, profit, hspread, hplan⟩ := h
  cases hplan
  refine ⟨split, hsplit, rfl, ?_⟩
  rw [spread, hout, if_neg Bool.false_ne_true] at hspread
  have hgross := U256.checked_sub_eq_some.mp hspread
  have hadd : split.amount_in.val ≤ (split.gross_input per_leg_cost).val := by
    rw [Split.gross_input, U256.saturating_add_val]
    have := split.amount_in.isLt
    omega
  rw [Fin.le_def]
  omega

/-! ## Selection -/

/-- The selection is drawn from the eligible candidates. -/
theorem select_subperm (snapshot : Snapshot) (caps : AvailableSnapshot) (guards : GuardSnapshot)
    (request : RouteRequest) (k : ℕ) :
    (select snapshot caps guards request k).Subperm (eligible snapshot caps guards request) := by
  unfold select
  simp only
  set scored := (eligible snapshot caps guards request).map fun candidate =>
    ({ score := score request candidate, candidate } : Scored) with hscored
  have hmap : scored.map Scored.candidate = eligible snapshot caps guards request := by
    rw [hscored, List.map_map]
    exact List.map_id _
  have hperm := (List.perm_insertionSort (fun a b => best_first request.exact_in a b) scored).map
    Scored.candidate
  rw [hmap] at hperm
  exact ((List.take_sublist k _).map Scored.candidate).subperm.trans hperm.subperm

/-- What an eligible candidate's caps are frozen from. -/
structure FrozenFrom (caps : AvailableSnapshot) (request : RouteRequest) (c : Candidate) :
    Prop where
  token_out : c.token_out = request.token_out
  cap_ne_zero : c.cap_out ≠ 0
  cap_out : c.cap_out = min c.wallet_cap (AvailableSnapshot.available caps
    (.StrategyVirtual c.key.maker c.key.strategy_hash request.token_out))
  wallet_cap : c.wallet_cap = AvailableSnapshot.available caps
    (.WalletBudget c.key.maker request.token_out)

/-- What a strategy's candidate is made of. -/
structure BuiltFrom (strategy : MakerStrategy) (caps : AvailableSnapshot)
    (token_in token_out : Address) (c : Candidate) : Prop where
  key : c.key = strategy.key
  cap_out : c.cap_out = (frozen_cap strategy caps token_out).deliverable
  wallet_cap : c.wallet_cap = (frozen_cap strategy caps token_out).wallet
  cap_ne_zero : c.cap_out ≠ 0
  token_in : c.token_in = token_in
  token_out : c.token_out = token_out

theorem build_candidate_cases {strategy : MakerStrategy} {caps : AvailableSnapshot}
    {token_in token_out : Address} {c : Candidate}
    (h : build_candidate strategy caps token_in token_out = some c) :
    BuiltFrom strategy caps token_in token_out c := by
  unfold build_candidate at h
  obtain ⟨hbuild, hcap⟩ := Option.filter_eq_some_iff.mp h
  unfold build_pricing_candidate at hbuild
  split at hbuild
  · split at hbuild
    · cases hbuild
    · simp only at hbuild
      split at hbuild
      · cases hbuild
      · cases hbuild
        exact ⟨rfl, rfl, rfl, by simpa using hcap, rfl, rfl⟩
  · cases hbuild

section Eligible

variable {snapshot : Snapshot} {caps : AvailableSnapshot} {guards : GuardSnapshot}
variable {request : RouteRequest} {c : Candidate}

theorem eligible_frozen (h : c ∈ eligible snapshot caps guards request) :
    FrozenFrom caps request c := by
  obtain ⟨strategy, -, hbuild⟩ := List.mem_filterMap.mp h
  have hbuilt := build_candidate_cases hbuild
  refine ⟨hbuilt.token_out, hbuilt.cap_ne_zero, ?_, ?_⟩
  · rw [hbuilt.cap_out, hbuilt.wallet_cap, hbuilt.key]
    rfl
  · rw [hbuilt.wallet_cap, hbuilt.key]
    rfl

/-- A candidate sells the request's tokens. -/
theorem eligible_oriented (h : c ∈ eligible snapshot caps guards request) :
    c.token_in = request.token_in ∧ c.token_out = request.token_out := by
  obtain ⟨strategy, -, hbuild⟩ := List.mem_filterMap.mp h
  exact ⟨(build_candidate_cases hbuild).token_in, (build_candidate_cases hbuild).token_out⟩

/-- A candidate's key is registered. -/
theorem eligible_registered (hsnapshot : Snapshot.Indexed snapshot)
    (h : c ∈ eligible snapshot caps guards request) :
    ∃ strategy, snapshot.strategies[c.key]? = some strategy := by
  obtain ⟨strategy, hstrategy, hbuild⟩ := List.mem_filterMap.mp h
  have hstored := ((hsnapshot.mem_active _ strategy).mp (List.mem_of_mem_filter hstrategy)).1
  rw [(build_candidate_cases hbuild).key]
  exact ⟨strategy, hstored⟩

end Eligible

/-- Regular eligible candidates make a prepared book. -/
theorem prepared_of_eligible {snapshot : Snapshot} {caps : AvailableSnapshot}
    {guards : GuardSnapshot} {request : RouteRequest}
    (hreg : ∀ c ∈ eligible snapshot caps guards request, Regular c) :
    Prepared (eligible snapshot caps guards request) where
  regular := hreg
  cap_ne_zero c hc := (eligible_frozen hc).cap_ne_zero
  cap_le_wallet c hc := by
    rw [(eligible_frozen hc).cap_out]
    exact min_le_left _ _
  one_wallet c hc c' hc' hm := by
    rw [(eligible_frozen hc).wallet_cap, (eligible_frozen hc').wallet_cap, hm]

/-! ## Where a leg comes from -/

/-- The strategy a leg draws on. -/
def RouteLeg.DrawsOn (leg : RouteLeg) (key : StrategyKey) : Prop :=
  leg.maker = key.maker ∧ leg.strategy_hash = key.strategy_hash

/-- The legs of a solution are its candidates'. -/
theorem leg_of_solve {candidates : List Candidate} {request : RouteRequest} {warm : Option Ratio}
    {split : Split} (h : solve candidates request warm = some split) {leg : RouteLeg}
    (hleg : leg ∈ split.legs) : ∃ c ∈ candidates, leg.DrawsOn c.key := by
  have hbuild : ∃ amounts kind lambda, build candidates amounts kind lambda = some split := by
    unfold solve at h
    split at h
    · cases h
    · simp only at h
      split at h
      · cases h
      · split at h
        · exact ⟨_, _, _, h⟩
        · exact ⟨_, _, _, h⟩
  obtain ⟨amounts, kind, lambda, hbuild⟩ := hbuild
  rw [(build_spec hbuild).legs] at hleg
  obtain ⟨⟨c, amount⟩, hmem, hat⟩ := List.mem_filterMap.mp hleg
  have heq := (leg_at_eq_some hat).1.leg_eq
  exact ⟨c, (List.of_mem_zip hmem).1, by rw [heq]; rfl, by rw [heq]; rfl⟩

/-- A routed leg draws on a registered strategy. -/
theorem leg_of_route {book : RoutingBook} {request : RouteRequest} {bound : U256}
    {config : RoutingConfig} {per_leg_cost : U256} {warm : Option Ratio} {plan : RoutePlan}
    (hsnapshot : Snapshot.Indexed book.snapshot)
    (h : route book request bound config per_leg_cost warm = some plan) {leg : RouteLeg}
    (hleg : leg ∈ plan.legs) :
    ∃ (key : StrategyKey) (strategy : MakerStrategy),
      book.snapshot.strategies[key]? = some strategy ∧ leg.DrawsOn key := by
  obtain ⟨split, hsparse, hlegs⟩ := route_cases h
  rw [hlegs] at hleg
  obtain ⟨active, seed, hactive, hsolve⟩ := solve_sparse_solves hsparse
  obtain ⟨c, hc, hdraws⟩ := leg_of_solve hsolve hleg
  have hchosen := (select_subperm _ _ _ _ _).subset (hactive.subset hc)
  obtain ⟨strategy, hstored⟩ := eligible_registered hsnapshot hchosen
  exact ⟨c.key, strategy, hstored, hdraws⟩

end Solvent
