import Mathlib
import Solvent.Rebate.Policy
import Solvent.Routing.Fills

/-! # What a ready plan conserves

    The surplus of a plan is split without loss, and it is worth what the market
    says. That the plan stays within the strategy's capacity is another matter.
    The fill it takes its output from is bounded by an input, the one exact-out
    asks for the cap. On constant product that input is the least that reaches
    the cap, so a fill the price limit cuts short stays under it. A pegged pool
    need not price its cap at all, and then nothing but the price limit bounds
    the fill.
-/

namespace Solvent

/-! ## What an assessment says of its plan -/

/-- The displaced side a plan was made from, and the fill it takes. -/
structure FundedBy (config : RebatePolicyConfig) (accruals : List RebateAccrual)
    (requirements : List RebateRequirements) (d : Direction) (fill : LimitedQuote)
    (plan : RebatePlan) : Prop where
  token_in : plan.token_in = d.candidate.token_in
  token_out : plan.token_out = d.candidate.token_out
  cap : d.candidate.cap_out ≠ 0
  fills : d.candidate.net_quote_with_limit d.candidate.full_input_bound d.price_limit = .ok fill
  output : fill.amount_out ≠ 0
  limited : fill.limited = true
  amount_out : plan.amount_out = fill.amount_out
  amount_in : d.candidate.net_quote_exact_out fill.amount_out = .ok plan.amount_in
  value : ∃ external : U256,
    (Ratio.from_word fill.amount_out * d.output_value_rate).floor = some external ∧
      plan.amount_in.val + plan.gross_surplus.val = external.val
  surplus : plan.gross_surplus.val =
    plan.safe_gas_cost.val + plan.maker_rebate.val + plan.executor_profit.val
  minimums : ∃ required, requirements.find? (·.token = plan.token_in) = some required ∧
    scale_bps required.gas_cost config.gas_safety_bps true = .ok plan.safe_gas_cost ∧
    required.minimum_maker_rebate ≤ plan.maker_rebate ∧
    required.minimum_executor_profit ≤ plan.executor_profit
  allocated : allocate plan.maker_rebate accruals = .ok plan.allocations

theorem mapError_eq_ok {α ε ε' : Type} {f : ε → ε'} {r : Except ε α} {a : α} :
    r.mapError f = .ok a ↔ r = .ok a := by
  cases r <;> simp [Except.mapError]

theorem assess_direction_ready {config : RebatePolicyConfig} {batch_id : RebateBatchId}
    {accruals : List RebateAccrual} {strategy : MakerStrategy}
    {requirements : List RebateRequirements} {d : Direction} {plan : RebatePlan}
    (h : assess_direction config batch_id accruals strategy requirements d = .ok (.Ready plan)) :
    ∃ fill, FundedBy config accruals requirements d fill plan := by
  unfold assess_direction at h
  -- Every gate but the last answers with something other than a plan.
  by_cases hsmall : d.deviation_bps < config.deviation_threshold_bps
  · rw [if_pos hsmall] at h
    cases h
  rw [if_neg hsmall] at h
  by_cases hcap : d.candidate.cap_out = 0
  · rw [if_pos hcap] at h
    cases h
  rw [if_neg hcap] at h
  obtain ⟨fill, hfill, h⟩ := Except.bind_eq_ok.mp h
  by_cases hempty : fill.amount_in = 0 ∨ fill.amount_out = 0
  · rw [if_pos hempty] at h
    cases h
  rw [if_neg hempty] at h
  by_cases hfull : (!fill.limited) = true
  · rw [if_pos hfull] at h
    cases h
  rw [if_neg hfull] at h
  obtain ⟨amount_in, hin, h⟩ := Except.bind_eq_ok.mp h
  obtain ⟨external, hexternal, h⟩ := Except.bind_eq_ok.mp h
  match hgross : external.checked_sub amount_in with
  | none =>
    rw [hgross] at h
    cases h
  | some gross =>
  rw [hgross] at h
  obtain ⟨required, hrequired, h⟩ := Except.bind_eq_ok.mp h
  obtain ⟨gas, hgas, h⟩ := Except.bind_eq_ok.mp h
  match hpost : gross.checked_sub gas with
  | none =>
    simp only [hpost] at h
    cases h
  | some post =>
  simp only [hpost] at h
  obtain ⟨profit, hprofit, h⟩ := Except.bind_eq_ok.mp h
  obtain ⟨rebate, hrebate, h⟩ := Except.bind_eq_ok.mp h
  by_cases hmin : rebate < required.minimum_maker_rebate ∨
      profit < required.minimum_executor_profit
  · rw [if_pos hmin] at h
    cases h
  rw [if_neg hmin] at h
  obtain ⟨allocations, hallocations, h⟩ := Except.bind_eq_ok.mp h
  cases h
  rw [mapError_eq_ok] at hfill hin
  rw [RebateError.unless_eq_ok] at hexternal hrequired hrebate
  rw [U256.checked_sub_eq_some] at hgross hpost hrebate
  simp only [not_or, not_lt] at hmin hempty
  exact ⟨fill,
    { token_in := rfl
      token_out := rfl
      cap := hcap
      fills := hfill
      output := hempty.2
      limited := by simpa using hfull
      amount_out := rfl
      amount_in := hin
      value := ⟨external, hexternal, hgross⟩
      surplus := by
        simp only
        omega
      minimums := ⟨required, hrequired, hgas, hmin⟩
      allocated := hallocations }⟩

/-! ## The displaced side -/

/-- A side of the market: its candidate is the strategy's, its value rate that of
    the reverse side, and its limit the rate's inverse. -/
structure Direction.IsSide (d : Direction) (strategy : MakerStrategy) (caps : AvailableSnapshot)
    (market : RebateMarket) : Prop where
  candidate : build_pricing_candidate strategy caps d.candidate.token_in d.candidate.token_out =
    some d.candidate
  rate : market.rate d.candidate.token_out d.candidate.token_in = some d.output_value_rate
  limit : Ratio.invert d.output_value_rate = some d.price_limit

/-- A candidate keeps the tokens it was built for, and the strategy's caps. -/
theorem build_pricing_candidate_eq_some {strategy : MakerStrategy} {caps : AvailableSnapshot}
    {token_in token_out : Address} {c : Candidate}
    (h : build_pricing_candidate strategy caps token_in token_out = some c) :
    c.token_in = token_in ∧ c.token_out = token_out ∧
      c.cap_out = (frozen_cap strategy caps token_out).deliverable ∧
      ∃ curve fees, strategy.curve = .Priceable curve fees ∧
        c.pool = .from_curve curve token_in token_out (strategy.balance token_in)
          (strategy.balance token_out) := by
  unfold build_pricing_candidate at h
  split at h
  · split at h
    · cases h
    · rename_i curve fees hcurve
      simp only at h
      split at h
      · cases h
      · obtain rfl := Option.some.inj h
        exact ⟨rfl, rfl, rfl, curve, fees, hcurve, rfl⟩
  · cases h

theorem direction_step_side {strategy : MakerStrategy} {caps : AvailableSnapshot}
    {market : RebateMarket} {best : Option Direction} {tokens : Address × Address} {d : Direction}
    (hbest : ∀ d, best = some d → d.IsSide strategy caps market)
    (h : direction_step strategy caps market best tokens = .ok (some d)) :
    d.IsSide strategy caps market := by
  unfold direction_step at h
  obtain ⟨rate, hrate, h⟩ := Except.bind_eq_ok.mp h
  obtain ⟨limit, hlimit, h⟩ := Except.bind_eq_ok.mp h
  rw [RebateError.unless_eq_ok] at hrate hlimit
  match hcandidate : build_pricing_candidate strategy caps tokens.1 tokens.2 with
  | none =>
    rw [hcandidate] at h
    exact hbest d (Except.ok.inj h)
  | some candidate =>
  rw [hcandidate] at h
  obtain ⟨marginal, -, h⟩ := Except.bind_eq_ok.mp h
  obtain ⟨hin, hout, -⟩ := build_pricing_candidate_eq_some hcandidate
  -- Where this side is taken, it is a side by what was read for it.
  have hside : ∀ bps, (⟨candidate, limit, rate, bps⟩ : Direction).IsSide strategy caps market := by
    intro bps
    exact
      { candidate := by
          simp only
          rw [hin, hout]
          exact hcandidate
        rate := by
          simp only
          rw [hin, hout]
          exact hrate
        limit := hlimit }
  by_cases hrestored : marginal ≤ limit
  · rw [if_pos hrestored] at h
    exact hbest d (Except.ok.inj h)
  rw [if_neg hrestored] at h
  match best with
  | none =>
    cases h
    exact hside _
  | some current =>
    by_cases hmore : current.deviation_bps < marginal.rel_diff_bps limit
    · simp only [hmore, if_true] at h
      cases h
      exact hside _
    · simp only [hmore, if_false] at h
      exact hbest d (Except.ok.inj h)

theorem best_direction_side {strategy : MakerStrategy} {caps : AvailableSnapshot}
    {market : RebateMarket} {d : Direction}
    (h : best_direction strategy caps market = .ok (some d)) : d.IsSide strategy caps market := by
  unfold best_direction at h
  rw [List.foldlM_cons, Except.bind_eq_ok] at h
  obtain ⟨first, hfirst, h⟩ := h
  rw [List.foldlM_cons, Except.bind_eq_ok] at h
  obtain ⟨second, hsecond, h⟩ := h
  cases h
  have hnone : ∀ d' : Direction, none = some d' → d'.IsSide strategy caps market := by
    intro d' hd'
    cases hd'
  have hkept : ∀ d', first = some d' → d'.IsSide strategy caps market := by
    intro d' hd'
    rw [hd'] at hfirst
    exact direction_step_side hnone hfirst
  exact direction_step_side hkept hsecond

theorem assess_ready {config : RebatePolicyConfig} {batch_id : RebateBatchId}
    {accruals : List RebateAccrual} {strategy : MakerStrategy} {caps : AvailableSnapshot}
    {market : RebateMarket} {requirements : List RebateRequirements} {plan : RebatePlan}
    (h : assess config batch_id accruals strategy caps market requirements = .ok (.Ready plan)) :
    ∃ d fill, best_direction strategy caps market = .ok (some d) ∧
      FundedBy config accruals requirements d fill plan := by
  unfold assess at h
  split at h
  · cases h
  split at h
  · cases h
  split at h
  · cases h
  split at h
  · cases h
  obtain ⟨best, hbest, h⟩ := Except.bind_eq_ok.mp h
  match best with
  | none => cases h
  | some d =>
    obtain ⟨fill, hfunded⟩ := assess_direction_ready h
    exact ⟨d, fill, hbest, hfunded⟩

/-! ## Value -/

/-- What a ready plan conserves, and the floors it meets. -/
structure RebatePlan.Conserves (plan : RebatePlan) (accruals : List RebateAccrual)
    (market : RebateMarket) (requirements : List RebateRequirements) : Prop where
  surplus : plan.gross_surplus.val =
    plan.safe_gas_cost.val + plan.maker_rebate.val + plan.executor_profit.val
  value : ∃ rate, market.rate plan.token_out plan.token_in = some rate ∧
    plan.amount_in.val + plan.gross_surplus.val = ⌊(plan.amount_out.val : Ratio) * rate⌋₊
  apportioned : Apportioned plan.maker_rebate accruals plan.allocations
  minimums : ∃ required, requirements.find? (·.token = plan.token_in) = some required ∧
    required.minimum_maker_rebate ≤ plan.maker_rebate ∧
    required.minimum_executor_profit ≤ plan.executor_profit

theorem floor_eq_some {r : Ratio} {a : U256} (h : r.floor = some a) : a.val = ⌊r⌋₊ := by
  unfold Ratio.floor Ratio.from_bigint at h
  split at h
  · obtain rfl := Option.some.inj h
    rfl
  · cases h

theorem FundedBy.conserves {config : RebatePolicyConfig} {accruals : List RebateAccrual}
    {requirements : List RebateRequirements} {d : Direction} {fill : LimitedQuote}
    {plan : RebatePlan} {strategy : MakerStrategy} {caps : AvailableSnapshot}
    {market : RebateMarket} (h : FundedBy config accruals requirements d fill plan)
    (hside : d.IsSide strategy caps market) : plan.Conserves accruals market requirements where
  surplus := h.surplus
  value := by
    obtain ⟨external, hfloor, hsum⟩ := h.value
    refine ⟨d.output_value_rate, ?_, ?_⟩
    · rw [h.token_in, h.token_out]
      exact hside.rate
    · rw [hsum, floor_eq_some hfloor, h.amount_out]
      rfl
  apportioned := allocate_apportions h.allocated
  minimums := by
    obtain ⟨required, hfind, -, hminimums⟩ := h.minimums
    exact ⟨required, hfind, hminimums⟩

/-! ## The cap -/

/-- The plan takes no more than the strategy and its wallet have room for. -/
def RebatePlan.WithinCaps (plan : RebatePlan) (strategy : MakerStrategy)
    (caps : AvailableSnapshot) : Prop :=
  plan.amount_out ≤ AvailableSnapshot.available caps
      (.StrategyVirtual strategy.key.maker strategy.key.strategy_hash plan.token_out) ∧
    plan.amount_out ≤
      AvailableSnapshot.available caps (.WalletBudget strategy.key.maker plan.token_out)

/-- On a pegged pool: no input below the bound at which the margin still meets the
    limit buys more than the cap. -/
def Direction.StopsWithin (d : Direction) : Prop :=
  ∀ pool g net_bound, d.candidate.pool = .Pegged pool → d.candidate.gamma = .ok g →
    shrink_by_fees d.candidate.full_input_bound d.candidate.fees_in_bps = .ok net_bound →
    ∀ a m y, a < net_bound →
      finite_marginal pool.quote_exact_in (probe_step net_bound) a = .ok m →
      d.price_limit * g⁻¹ ≤ m → pool.quote_exact_in a = .ok y → y ≤ d.candidate.cap_out

/-- A strategy on a constant-product curve, plain or concentrated, has no pegged
    side. -/
theorem Direction.IsSide.stopsWithin {d : Direction} {strategy : MakerStrategy}
    {caps : AvailableSnapshot} {market : RebateMarket} (h : d.IsSide strategy caps market)
    (hcurve : ∀ params fees, strategy.curve ≠ .Priceable (.Pegged params) fees) :
    d.StopsWithin := by
  intro pool g net_bound hpool
  obtain ⟨-, -, -, curve, fees, hpriced, hbuilt⟩ := build_pricing_candidate_eq_some h.candidate
  rw [hbuilt] at hpool
  match curve with
  | .Xyc => cases hpool
  | .Concentrate _ _ => cases hpool
  | .Pegged params => exact absurd hpriced (hcurve params fees)

/-- A constant-product fill that a limit cuts short leaves some of its input. -/
theorem XycPool.limited_lt {pool : XycPool} {b : U256} {l : Ratio} {q : LimitedQuote}
    (hl : l ≠ 0) (h : pool.quote_with_limit b l = .ok q) (hlimited : q.limited = true)
    (hout : q.amount_out ≠ 0) : q.amount_in < b := by
  rcases quote_with_limit_cases h with ⟨h0, -⟩ | ⟨-, -, -, hnone⟩ | ⟨-, hspot, -⟩
  · exact absurd h0 hl
  · exact absurd hnone hout
  · rw [quote_with_limit_limited hl hspot h, decide_eq_true_iff] at hlimited
    exact hlimited

theorem CurvePool.limited_lt {pool : CurvePool} (hpool : ∀ p, pool ≠ .Pegged p) {b : U256}
    {l : Ratio} {q : LimitedQuote} (hl : l ≠ 0) (h : pool.quote_with_limit b l = .ok q)
    (hlimited : q.limited = true) (hout : q.amount_out ≠ 0) : q.amount_in < b := by
  match pool with
  | .Xyc p => exact XycPool.limited_lt hl h hlimited hout
  | .Concentrate p =>
    obtain ⟨v, -, h⟩ := Except.bind_eq_ok.mp h
    exact XycPool.limited_lt hl h hlimited hout
  | .Pegged p => exact absurd rfl (hpool p)

/-- A bisected fill over an input that prices: where the limit cuts it short the
    margin still meets the limit. -/
theorem numerical_limited {quote : U256 → Except CurveError U256} {b y : U256} {l : Ratio}
    {q : LimitedQuote} (hb : quote b = .ok y) (h : fill_to_limit_numerical quote b l = .ok q)
    (hlimited : q.limited = true) (hout : q.amount_out ≠ 0) :
    q.amount_in < b ∧ quote q.amount_in = .ok q.amount_out ∧
      ∃ m, finite_marginal quote (probe_step b) q.amount_in = .ok m ∧ l ≤ m := by
  have hbound : feasible_bound b (fun input => is_ok (quote input)) = b :=
    if_pos (is_ok_iff.mpr ⟨y, hb⟩)
  unfold fill_to_limit_numerical at h
  rw [hbound] at h
  by_cases hzero : b = 0
  · rw [if_pos hzero] at h
    cases h
    exact absurd rfl hout
  rw [if_neg hzero] at h
  simp only [if_neg hzero] at h
  obtain ⟨m, -, h⟩ := Except.bind_eq_ok.mp h
  by_cases hfull : l ≤ m
  · -- The whole bound is filled, which is all that was offered.
    rw [if_pos hfull] at h
    obtain ⟨out, -, h⟩ := Except.bind_eq_ok.mp h
    cases h
    exact absurd hlimited (by simp)
  rw [if_neg hfull] at h
  obtain ⟨m0, hm0, h⟩ := Except.bind_eq_ok.mp h
  by_cases hnone : m0 < l
  · rw [if_pos hnone] at h
    cases h
    exact absurd rfl hout
  rw [if_neg hnone] at h
  obtain ⟨out, hquote, h⟩ := Except.bind_eq_ok.mp h
  cases h
  rw [decide_eq_true_iff] at hlimited
  refine ⟨hlimited, hquote, ?_⟩
  simp only
  rcases (bisect_spec _ (Fin.zero_le b)).1 with hstart | hkept
  · -- The bisection never moved: the margin at zero meets the limit.
    rw [hstart]
    exact ⟨m0, hm0, not_lt.mp hnone⟩
  · rw [Bool.and_eq_true] at hkept
    obtain ⟨-, hkept⟩ := hkept
    split at hkept
    · rename_i margin hmargin
      exact ⟨margin, hmargin, of_decide_eq_true hkept⟩
    · cases hkept

/-- On constant product no input below the full bound buys more than the cap. -/
theorem Candidate.below_bound {c : Candidate} (hc : ∀ p, c.pool ≠ .Pegged p)
    (hcap : c.cap_out ≠ 0) {a y : U256} (ha : a < c.full_input_bound)
    (hy : c.net_quote_exact_in a = .ok y) : y ≤ c.cap_out := by
  by_contra hover
  -- The input asked for the cap is within `a`, so it prices, and is the bound.
  obtain ⟨b, hb, hle⟩ := (leastInverse hc).least hy hcap (not_le.mp hover).le
  obtain ⟨out, hout, -⟩ := (leastInverse hc).down hy hle
  rw [full_input_bound_of_cap hcap hb hout] at ha
  exact absurd ha (not_lt.mpr hle)

/-- What a limited fill of the full bound buys is within the cap. -/
theorem Direction.StopsWithin.fill {d : Direction} (h : d.StopsWithin) (hlimit : d.price_limit ≠ 0)
    (hcap : d.candidate.cap_out ≠ 0) {q : LimitedQuote}
    (hfill : d.candidate.net_quote_with_limit d.candidate.full_input_bound d.price_limit = .ok q)
    (hlimited : q.limited = true) (hout : q.amount_out ≠ 0) :
    q.amount_out ≤ d.candidate.cap_out := by
  obtain ⟨g, nb, net, gross, hg, hnb, hnet, hgross, rfl⟩ := Candidate.net_fill_eq hfill
  have hscaled : d.price_limit * g⁻¹ ≠ 0 :=
    mul_ne_zero hlimit (inv_ne_zero (Candidate.gamma_bounds hg).1.ne')
  by_cases hpegged : ∃ pool, d.candidate.pool = .Pegged pool
  · obtain ⟨pool, hpool⟩ := hpegged
    rcases full_input_bound_prices d.candidate with hzero | ⟨y, hy⟩
    · -- Nothing was offered.
      rw [hzero] at hfill
      exact absurd (Candidate.fill_of_zero hfill) hout
    · obtain ⟨nb', hnb', hquote⟩ := Except.bind_eq_ok.mp hy
      obtain rfl := Except.ok.inj (hnb.symm.trans hnb')
      rw [hpool] at hquote hnet
      obtain ⟨hlt, hbuys, m, hm, hle⟩ := numerical_limited hquote hnet hlimited hout
      exact h pool g nb hpool hg hnb _ m _ hlt hm hle hbuys
  · have hc : ∀ p, d.candidate.pool ≠ .Pegged p := fun p hp => hpegged ⟨p, hp⟩
    have hlt := CurvePool.limited_lt hc hscaled hnet hlimited hout
    obtain ⟨hwithin, hquote⟩ := Candidate.fill_quotes hfill
    rcases hquote with hquote | ⟨-, hnone⟩
    · have hgross_le := Candidate.gross_le_bound hnb hnet hgross
      simp only [min_eq_left hgross_le] at hquote
      refine Candidate.below_bound hc hcap (lt_of_le_of_ne hgross_le fun heq => ?_) hquote
      -- A fill that consumed the whole gross bound consumed the whole net one.
      rw [heq] at hgross
      have hsame := shrink_gross_up hgross hnb
      rw [hsame] at hlt
      exact absurd hlt (lt_irrefl _)
    · exact absurd hnone hout

theorem FundedBy.within_caps {config : RebatePolicyConfig} {accruals : List RebateAccrual}
    {requirements : List RebateRequirements} {d : Direction} {fill : LimitedQuote}
    {plan : RebatePlan} {strategy : MakerStrategy} {caps : AvailableSnapshot}
    {market : RebateMarket} (h : FundedBy config accruals requirements d fill plan)
    (hside : d.IsSide strategy caps market) (hstops : d.StopsWithin) :
    plan.WithinCaps strategy caps := by
  have hlimit : d.price_limit ≠ 0 := by
    have hinvert := hside.limit
    unfold Ratio.invert at hinvert
    split at hinvert
    · cases hinvert
    · rename_i hne
      rw [← Option.some.inj hinvert]
      exact inv_ne_zero hne
  have hwithin := hstops.fill hlimit h.cap h.fills h.limited h.output
  obtain ⟨-, -, hcap, -⟩ := build_pricing_candidate_eq_some hside.candidate
  rw [hcap, ← h.amount_out, ← h.token_out] at hwithin
  -- The deliverable ceiling is the smaller of the two.
  exact ⟨hwithin.trans (min_le_right _ _), hwithin.trans (min_le_left _ _)⟩

/-- The plan of an assessment. -/
def RebateAssessment.plan : RebateAssessment → Option RebatePlan
  | Ready plan => some plan
  | _ => none

/-- Reserves of both tokens on one curve, displaced by a market at three halves. -/
def rebate_strategy (curve : Curve) (reserve : U256) : MakerStrategy :=
  { key := { maker := ⟨1⟩, app := 0, strategy_hash := ⟨1⟩ }
    curve := .Priceable curve []
    balances := ((∅ : BTreeMap Address U256).insert 1 reserve).insert 2 reserve
    active := true }

def rebate_caps (wallet reserve : U256) : AvailableSnapshot :=
  ((∅ : BTreeMap AccountKey U256).insert (.WalletBudget ⟨1⟩ 2) wallet).insert
    (.StrategyVirtual ⟨1⟩ ⟨1⟩ 2) reserve

def rebate_market : RebateMarket :=
  haveI := Ratio.two_atLeastTwo
  { token_a := 1, token_b := 2, a_to_b := 1 / 2, b_to_a := 3 / 2 }

def rebate_accruals : List RebateAccrual :=
  [1, 2].map fun n =>
    { trade_id := ⟨n⟩
      strategy := { maker := ⟨1⟩, app := 0, strategy_hash := ⟨1⟩ }
      token_in := 1
      token_out := 2
      allocation_weight := Fin.ofNat _ n.val }

def rebate_assessment (curve : Curve) (reserve wallet : U256) :
    Except RebateError RebateAssessment :=
  assess (.new 0 12000) ⟨1⟩ rebate_accruals (rebate_strategy curve reserve)
    (rebate_caps wallet reserve) rebate_market
    [{ token := 1, gas_cost := 3, minimum_maker_rebate := 1, minimum_executor_profit := 1 }]

/-- A plan the assessment gives, read off its evaluation. -/
theorem exists_plan {r : Except RebateError RebateAssessment} {p : RebatePlan → Bool}
    (h : (r.toOption.bind RebateAssessment.plan).any p = true) :
    ∃ plan, r = .ok (.Ready plan) ∧ p plan = true := by
  match r with
  | .ok (.Ready plan) => exact ⟨plan, rfl, h⟩
  | .ok (.Quoteable _) => cases h
  | .ok (.Guarded _) => cases h
  | .error _ => cases h

/-- A pegged pool of a billion whole tokens a side, one unit off its balance. -/
def billion_peg : Curve :=
  .Pegged
    { x0 := ⟨10 ^ 27, ten_pow_27_lt⟩
      y0 := ⟨10 ^ 27, ten_pow_27_lt⟩
      linear_width := 0
      rate_lt := 1
      rate_gt := 1 }

end Solvent
