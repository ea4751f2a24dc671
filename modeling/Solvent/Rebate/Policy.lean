import Mathlib
import Solvent.Ingest.Decay
import Solvent.Routing.Inverse
import Solvent.Routing.Liquidity
import Solvent.Trade.Store

/-! # Rebate policy

    Whether a strategy displaced by its fills stays quotable, waits, or funds a
    rebate. An executor buys the strategy's output at the curve and values it at
    the market: what the value leaves over the input pays the gas first, then the
    executor's share, and the rest goes back to the maker, split over the trades
    that displaced it.

    The split conserves value at every step. What it does not have is a cap of its
    own: the fill is bounded by `full_input_bound`, an input, and that bound is
    only as good as the curve's exact-out quote.
-/

namespace Solvent

/-! ## Values -/

/-- One mined trade leg that displaced a strategy. -/
structure RebateAccrual where
  trade_id : TradeId
  strategy : StrategyKey
  token_in : Address
  token_out : Address
  /-- Weight of the trade's share of the maker rebate. -/
  allocation_weight : U256

/-- Executable prices for both sides of a pair, output per input. -/
structure RebateMarket where
  token_a : Address
  token_b : Address
  a_to_b : Ratio
  b_to_a : Ratio

def RebateMarket.rate (m : RebateMarket) (token_in token_out : Address) : Option Ratio :=
  if token_in = m.token_a ∧ token_out = m.token_b then some m.a_to_b
  else if token_in = m.token_b ∧ token_out = m.token_a then some m.b_to_a
  else none

/-- Gas and minimum-profit requirements in one restoration input token. -/
structure RebateRequirements where
  token : Address
  gas_cost : U256
  minimum_maker_rebate : U256
  minimum_executor_profit : U256

/-- One trade's share of the maker rebate. -/
structure RebateAllocation where
  trade_id : TradeId
  amount : U256

/-- An exact-output restoration that clears all policy gates. -/
structure RebatePlan where
  batch_id : RebateBatchId
  strategy : StrategyKey
  token_in : Address
  token_out : Address
  amount_in : U256
  amount_out : U256
  gross_surplus : U256
  safe_gas_cost : U256
  maker_rebate : U256
  executor_profit : U256
  deviation_bps : U64
  allocations : List RebateAllocation

inductive RebateAssessment where
  | Quoteable (deviation_bps : U64)
  | Guarded (deviation_bps : U64)
  | Ready (plan : RebatePlan)

/-- The errors an assessment raises. -/
inductive RebateError where
  | InvalidAccrual (reason : String)
  | StrategyMismatch (strategy_hash : StrategyHash)
  | MarketPairMismatch
  | MissingRequirements (token : Address)
  | Arithmetic
  | Curve (e : CurveError)

/-- The value, or `e` where there is none. -/
def RebateError.unless {α : Type} (e : RebateError) (value : Option α) : Except RebateError α :=
  match value with
  | some a => .ok a
  | none => .error e

@[simp] theorem RebateError.unless_eq_ok {α : Type} {e : RebateError} {value : Option α} {a : α} :
    e.unless value = .ok a ↔ value = some a := by
  cases value <;> simp [RebateError.unless]

/-! ## Arithmetic -/

def BASIS_POINTS : ℕ := 10000

/-- The executor's share of what the gas leaves. -/
def EXECUTOR_SHARE_BPS : U64 := 500

def scale_bps (amount : U256) (bps : U64) (round_up : Bool) : Except RebateError U256 :=
  let scaled := Ratio.from_word amount * ((bps.val : Ratio) / BASIS_POINTS)
  RebateError.Arithmetic.unless (if round_up then scaled.ceil else scaled.floor)

/-! ## Allocation -/

/-- The weights' sum. -/
def total_weight (accruals : List RebateAccrual) : Except RebateError U256 :=
  accruals.foldlM (fun total accrual =>
    RebateError.Arithmetic.unless (total.checked_add accrual.allocation_weight)) 0

/-- The amount of one entry: the last accrual takes what is left. -/
def entry_amount (maker_rebate total : U256) (last : ℕ) (allocated : U256)
    (entry : RebateAccrual × ℕ) : Except RebateError U256 :=
  if entry.2 = last then RebateError.Arithmetic.unless (maker_rebate.checked_sub allocated)
  else do
    let share ← RebateError.Arithmetic.unless (Ratio.new entry.1.allocation_weight total)
    RebateError.Arithmetic.unless (Ratio.from_word maker_rebate * share).floor

/-- One entry, with the amount allocated so far. -/
def allocate_step (maker_rebate total : U256) (last : ℕ)
    (state : U256 × List RebateAllocation) (entry : RebateAccrual × ℕ) :
    Except RebateError (U256 × List RebateAllocation) := do
  let amount ← entry_amount maker_rebate total last state.1 entry
  let allocated ← RebateError.Arithmetic.unless (state.1.checked_add amount)
  return (allocated, state.2 ++ [{ trade_id := entry.1.trade_id, amount }])

def allocate (maker_rebate : U256) (accruals : List RebateAccrual) :
    Except RebateError (List RebateAllocation) := do
  let total ← total_weight accruals
  if total = 0 then throw (.InvalidAccrual "allocation weight is zero")
  let state ← accruals.zipIdx.foldlM (allocate_step maker_rebate total (accruals.length - 1)) (0, [])
  return state.2

/-- The floored share of one weight. -/
def share (maker_rebate total : U256) (accrual : RebateAccrual) : ℕ :=
  maker_rebate.val * accrual.allocation_weight.val / total.val

/-- The rebate is split without loss: every accrual but the last has its floored
    share, and the last at least that. -/
structure Apportioned (maker_rebate : U256) (accruals : List RebateAccrual)
    (allocations : List RebateAllocation) : Prop where
  one_each : allocations.map (·.trade_id) = accruals.map (·.trade_id)
  conserved : (allocations.map (·.amount.val)).sum = maker_rebate.val
  shares : ∃ total : U256, total.val = (accruals.map (·.allocation_weight.val)).sum ∧
    ∀ i accrual allocation, accruals[i]? = some accrual → allocations[i]? = some allocation →
      share maker_rebate total accrual ≤ allocation.amount.val ∧
        (i + 1 < accruals.length → allocation.amount.val = share maker_rebate total accrual)

theorem total_weight_eq_ok {accruals : List RebateAccrual} {total : U256}
    (h : total_weight accruals = .ok total) :
    total.val = (accruals.map (·.allocation_weight.val)).sum := by
  have hfold : ∀ (accruals : List RebateAccrual) (start total : U256),
      accruals.foldlM (fun total accrual => RebateError.Arithmetic.unless
        (total.checked_add accrual.allocation_weight)) start = .ok total →
      total.val = start.val + (accruals.map (·.allocation_weight.val)).sum := by
    intro accruals
    induction accruals with
    | nil =>
      intro start total h
      cases h
      simp
    | cons accrual accruals ih =>
      intro start total h
      rw [List.foldlM_cons, Except.bind_eq_ok] at h
      obtain ⟨next, hnext, hrest⟩ := h
      rw [RebateError.unless_eq_ok, U256.checked_add_eq_some] at hnext
      rw [ih next total hrest, List.map_cons, List.sum_cons]
      omega
  have hzero : (0 : U256).val = 0 := rfl
  rw [hfold accruals 0 total h, hzero, Nat.zero_add]

/-- Floored shares of an amount never exceed it together. -/
theorem shares_sum_le (amount total : ℕ) (weights : List ℕ) :
    (weights.map fun w => amount * w / total).sum ≤ amount * weights.sum / total := by
  induction weights with
  | nil => simp
  | cons w weights ih =>
    simp only [List.map_cons, List.sum_cons]
    calc amount * w / total + (weights.map fun w => amount * w / total).sum
        ≤ amount * w / total + amount * weights.sum / total := by omega
      _ ≤ (amount * w + amount * weights.sum) / total := Nat.div_add_div_le_add_div
      _ = amount * (w + weights.sum) / total := by rw [Nat.mul_add]

theorem floor_share {m w total a : U256} {r : Ratio} (hr : Ratio.new w total = some r)
    (h : (Ratio.from_word m * r).floor = some a) : m.val * w.val / total.val = a.val := by
  unfold Ratio.new at hr
  split at hr
  · cases hr
  · obtain rfl := Option.some.inj hr
    unfold Ratio.floor Ratio.from_bigint at h
    split at h
    · obtain rfl := Option.some.inj h
      have hcast : Ratio.from_word m * ((w.val : ℚ≥0) / total.val) =
          ((m.val * w.val : ℕ) : ℚ≥0) / (total.val : ℕ) := by
        rw [Ratio.from_word, Nat.cast_mul, mul_div_assoc]
      show _ = ⌊Ratio.from_word m * ((w.val : ℚ≥0) / total.val)⌋₊
      rw [hcast, Nat.floor_div_eq_div]
    · cases h

/-- One step: the entry it adds, and what is allocated with it. -/
theorem allocate_step_eq_ok {m total : U256} {last : ℕ} {state state' : U256 × List RebateAllocation}
    {entry : RebateAccrual × ℕ} (h : allocate_step m total last state entry = .ok state') :
    ∃ amount : U256, state'.2 = state.2 ++ [{ trade_id := entry.1.trade_id, amount }] ∧
      state'.1.val = state.1.val + amount.val ∧
      (entry.2 = last → state'.1 = m) ∧ (entry.2 ≠ last → amount.val = share m total entry.1) := by
  unfold allocate_step at h
  obtain ⟨amount, hamount, h⟩ := Except.bind_eq_ok.mp h
  obtain ⟨allocated, hallocated, h⟩ := Except.bind_eq_ok.mp h
  cases h
  rw [RebateError.unless_eq_ok, U256.checked_add_eq_some] at hallocated
  unfold entry_amount at hamount
  refine ⟨amount, rfl, hallocated.symm, fun hlast => ?_, fun hlast => ?_⟩
  · rw [if_pos hlast, RebateError.unless_eq_ok, U256.checked_sub_eq_some] at hamount
    exact Fin.ext (hallocated.symm.trans hamount)
  · rw [if_neg hlast] at hamount
    obtain ⟨r, hr, hfloor⟩ := Except.bind_eq_ok.mp hamount
    rw [RebateError.unless_eq_ok] at hr hfloor
    exact (floor_share hr hfloor).symm

/-- The entries before the last are floored shares. -/
theorem allocate_floors {m total : U256} {last : ℕ} {accruals : List RebateAccrual} :
    ∀ {k : ℕ} {state state' : U256 × List RebateAllocation}, k + accruals.length ≤ last →
      (accruals.zipIdx k).foldlM (allocate_step m total last) state = .ok state' →
      ∃ entries : List RebateAllocation, state'.2 = state.2 ++ entries ∧
        state'.1.val = state.1.val + (entries.map (·.amount.val)).sum ∧
        entries.map (·.trade_id) = accruals.map (·.trade_id) ∧
        entries.map (·.amount.val) = accruals.map (share m total) := by
  induction accruals with
  | nil =>
    intro k state state' _ h
    cases h
    exact ⟨[], by simp, by simp, rfl, rfl⟩
  | cons accrual accruals ih =>
    intro k state state' hlast h
    rw [List.length_cons] at hlast
    rw [List.zipIdx_cons, List.foldlM_cons, Except.bind_eq_ok] at h
    obtain ⟨next, hnext, hrest⟩ := h
    obtain ⟨amount, hentries, hsum, -, hshare⟩ := allocate_step_eq_ok hnext
    obtain ⟨entries, hentries', hsum', htrades, hshares⟩ := ih (by omega) hrest
    refine ⟨{ trade_id := accrual.trade_id, amount } :: entries, ?_, ?_, ?_, ?_⟩
    · rw [hentries', hentries, List.append_assoc, List.singleton_append]
    · rw [hsum', hsum, List.map_cons, List.sum_cons, Nat.add_assoc]
    · rw [List.map_cons, List.map_cons, htrades]
    · have hamount : amount.val = share m total accrual := hshare (by simp only; omega)
      rw [List.map_cons, List.map_cons, hshares, hamount]

/-- **The allocation conserves the rebate.** -/
theorem allocate_apportions {maker_rebate : U256} {accruals : List RebateAccrual}
    {allocations : List RebateAllocation} (h : allocate maker_rebate accruals = .ok allocations) :
    Apportioned maker_rebate accruals allocations := by
  unfold allocate at h
  obtain ⟨total, htotal, h⟩ := Except.bind_eq_ok.mp h
  have hweights := total_weight_eq_ok htotal
  by_cases hzero : total = 0
  · rw [if_pos hzero] at h
    cases h
  rw [if_neg hzero] at h
  obtain ⟨-, -, h⟩ := Except.bind_eq_ok.mp h
  obtain ⟨state, hfold, h⟩ := Except.bind_eq_ok.mp h
  cases h
  -- A positive total needs an accrual, so there is a last one.
  rcases List.eq_nil_or_concat accruals with rfl | ⟨others, last, rfl⟩
  · exact absurd (U256.eq_zero_iff.mpr hweights) hzero
  rw [List.concat_eq_append] at hfold hweights ⊢
  have hlen : (others ++ [last]).length - 1 = others.length := by simp
  rw [hlen, List.zipIdx_append, List.foldlM_append, Except.bind_eq_ok] at hfold
  obtain ⟨before, hbefore, hlast⟩ := hfold
  obtain ⟨floors, hfloors, hsum, htrades, hshares⟩ := allocate_floors (by omega) hbefore
  rw [List.zipIdx_singleton, Nat.zero_add, List.foldlM_cons, Except.bind_eq_ok] at hlast
  obtain ⟨done, hdone, hnil⟩ := hlast
  cases hnil
  obtain ⟨rest, hrest, hall, hwhole, -⟩ := allocate_step_eq_ok hdone
  have hwhole : state.1 = maker_rebate := hwhole rfl
  have hzero' : (0 : U256).val = 0 := rfl
  rw [hwhole, hsum, hzero', Nat.zero_add] at hall
  rw [hfloors, List.nil_append] at hrest
  rw [hrest]
  -- The floors leave the last accrual at least its own share.
  have hlast_share : share maker_rebate total last ≤ rest.val := by
    have hle := shares_sum_le maker_rebate.val total.val
      ((others ++ [last]).map (·.allocation_weight.val))
    have hself : maker_rebate.val * total.val / total.val = maker_rebate.val :=
      Nat.mul_div_cancel _ (Nat.pos_of_ne_zero fun h0 => hzero (U256.eq_zero_iff.mpr h0))
    rw [← hweights, hself, List.map_map, List.map_append, List.sum_append, List.map_singleton,
      List.sum_singleton] at hle
    have hothers : (others.map (share maker_rebate total)).sum =
        (floors.map (·.amount.val)).sum := by rw [hshares]
    have hle' : (others.map (share maker_rebate total)).sum + share maker_rebate total last ≤
        maker_rebate.val := hle
    omega
  have hcount : floors.length = others.length := by
    have hlength := congrArg List.length hshares
    simpa using hlength
  refine ⟨?_, ?_, total, hweights, ?_⟩
  · rw [List.map_append, List.map_append, htrades]
    rfl
  · rw [List.map_append, List.sum_append, List.map_singleton, List.sum_singleton]
    exact hall.symm
  · intro i accrual allocation haccrual hallocation
    by_cases hi : i < others.length
    · rw [List.getElem?_append_left hi] at haccrual
      rw [List.getElem?_append_left (hcount.symm ▸ hi)] at hallocation
      have heq := congrArg (·[i]?) hshares
      simp only [List.getElem?_map, haccrual, hallocation, Option.map_some,
        Option.some.injEq] at heq
      exact ⟨heq.ge, fun _ => heq⟩
    · rw [List.getElem?_append_right (by omega)] at haccrual hallocation
      have hi' : i = others.length := by
        have hbound := (List.getElem?_eq_some_iff.mp haccrual).1
        rw [List.length_singleton] at hbound
        omega
      subst hi'
      rw [hcount] at hallocation
      simp only [Nat.sub_self, List.getElem?_cons_zero, Option.some.injEq] at haccrual hallocation
      subst haccrual hallocation
      refine ⟨hlast_share, fun hlt => ?_⟩
      rw [List.length_append, List.length_singleton] at hlt
      omega

/-! ## Assessment -/

/-- `gas_safety_bps` is a multiplier over the estimate, at least one. -/
structure RebatePolicyConfig where
  deviation_threshold_bps : U64
  gas_safety_bps : U64
  at_least_one : BASIS_POINTS ≤ gas_safety_bps.val

def RebatePolicyConfig.new (deviation_threshold_bps gas_safety_bps : U64) : RebatePolicyConfig :=
  { deviation_threshold_bps
    gas_safety_bps := max gas_safety_bps ⟨BASIS_POINTS, by unfold BASIS_POINTS; norm_num⟩
    at_least_one := by
      have hle : (⟨BASIS_POINTS, by unfold BASIS_POINTS; norm_num⟩ : U64) ≤
          max gas_safety_bps ⟨BASIS_POINTS, by unfold BASIS_POINTS; norm_num⟩ := le_max_right _ _
      exact hle }

/-- A side of the market on which the curve is displaced. -/
structure Direction where
  candidate : Candidate
  price_limit : Ratio
  output_value_rate : Ratio
  deviation_bps : U64

/-- One side: it counts where the curve's price is above the limit, and replaces
    a side that deviates less. -/
def direction_step (strategy : MakerStrategy) (caps : AvailableSnapshot) (market : RebateMarket)
    (best : Option Direction) (tokens : Address × Address) :
    Except RebateError (Option Direction) := do
  -- The executable reverse side is the value the executor can realize for the output.
  let output_value_rate ← RebateError.MarketPairMismatch.unless (market.rate tokens.2 tokens.1)
  let price_limit ← RebateError.MarketPairMismatch.unless (Ratio.invert output_value_rate)
  match build_pricing_candidate strategy caps tokens.1 tokens.2 with
  | none => return best
  | some candidate =>
    let marginal ← candidate.marginal_price.mapError .Curve
    if marginal ≤ price_limit then return best
    let direction : Direction :=
      { candidate, price_limit, output_value_rate
        deviation_bps := marginal.rel_diff_bps price_limit }
    match best with
    | none => return some direction
    | some current =>
      if current.deviation_bps < direction.deviation_bps then return some direction
      else return best

def best_direction (strategy : MakerStrategy) (caps : AvailableSnapshot) (market : RebateMarket) :
    Except RebateError (Option Direction) :=
  [(market.token_a, market.token_b), (market.token_b, market.token_a)].foldlM
    (direction_step strategy caps market) none

/-- What the fill of a displaced side funds. -/
def assess_direction (config : RebatePolicyConfig) (batch_id : RebateBatchId)
    (accruals : List RebateAccrual) (strategy : MakerStrategy)
    (requirements : List RebateRequirements) (d : Direction) :
    Except RebateError RebateAssessment := do
  -- Small displacements keep quoting so several trades can share one restoration.
  if d.deviation_bps < config.deviation_threshold_bps then return .Quoteable d.deviation_bps
  if d.candidate.cap_out = 0 then return .Guarded d.deviation_bps
  let fill ← (d.candidate.net_quote_with_limit d.candidate.full_input_bound d.price_limit).mapError
    .Curve
  if fill.amount_in = 0 ∨ fill.amount_out = 0 then return .Guarded d.deviation_bps
  if !fill.limited then return .Guarded d.deviation_bps
  let amount_in ← (d.candidate.net_quote_exact_out fill.amount_out).mapError .Curve
  let external_value ← RebateError.Arithmetic.unless
    (Ratio.from_word fill.amount_out * d.output_value_rate).floor
  match external_value.checked_sub amount_in with
  | none => return .Guarded d.deviation_bps
  | some gross_surplus =>
    -- Gas is paid first; only realizable surplus is shared with the maker.
    let required ← (RebateError.MissingRequirements d.candidate.token_in).unless
      (requirements.find? (·.token = d.candidate.token_in))
    let safe_gas_cost ← scale_bps required.gas_cost config.gas_safety_bps true
    match gross_surplus.checked_sub safe_gas_cost with
    | none => return .Guarded d.deviation_bps
    | some post_gas_surplus =>
      let executor_profit ← scale_bps post_gas_surplus EXECUTOR_SHARE_BPS false
      let maker_rebate ← RebateError.Arithmetic.unless
        (post_gas_surplus.checked_sub executor_profit)
      if maker_rebate < required.minimum_maker_rebate ∨
          executor_profit < required.minimum_executor_profit then
        return .Guarded d.deviation_bps
      return .Ready {
        batch_id
        strategy := strategy.key
        token_in := d.candidate.token_in
        token_out := d.candidate.token_out
        amount_in
        amount_out := fill.amount_out
        gross_surplus
        safe_gas_cost
        maker_rebate
        executor_profit
        deviation_bps := d.deviation_bps
        allocations := ← allocate maker_rebate accruals }

def assess (config : RebatePolicyConfig) (batch_id : RebateBatchId)
    (accruals : List RebateAccrual) (strategy : MakerStrategy) (caps : AvailableSnapshot)
    (market : RebateMarket) (requirements : List RebateRequirements) :
    Except RebateError RebateAssessment :=
  if accruals.any (·.strategy ≠ strategy.key) then
    .error (.StrategyMismatch strategy.key.strategy_hash)
  else
    match strategy.pair with
    | none => .error .MarketPairMismatch
    | some pair =>
      if accruals.any fun accrual => TokenPair.new accrual.token_in accrual.token_out ≠ pair then
        .error (.InvalidAccrual "trade pair does not match the strategy")
      else if pair ≠ TokenPair.new market.token_a market.token_b ∨
          market.token_a = market.token_b ∨ market.a_to_b = 0 ∨ market.b_to_a = 0 then
        .error .MarketPairMismatch
      else do
        match ← best_direction strategy caps market with
        | none => return .Quoteable 0
        | some opportunity =>
          assess_direction config batch_id accruals strategy requirements opportunity

end Solvent
