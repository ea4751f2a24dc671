import Mathlib
import Solvent.Primitives
import Solvent.Framework.Loop
import Solvent.Pricing.Ratio

/-! # The three swap curves

    Constant product (`XycPool`), concentrated liquidity (`ConcentratePool`)
    and the pegged square-root curve (`PeggedPool`), oriented for one direction
    `token_in → token_out`, with the flat fees stacked on their input side.

    Quotes follow the on-chain integer semantics: checked sums and products,
    floored divisions, and an error wherever the contract reverts.
-/

namespace Solvent

/-- A 32-bit unsigned word. -/
abbrev U32 : Type := Fin (2 ^ 32)

inductive CurveError where
  | EmptyReserves
  | AmountTooLarge
  | Infeasible
  | NoSolution
  | Overflow
  | DivByZero
  | InvalidParams
  deriving DecidableEq

/-- `Option::ok_or` -/
def ok_or {α : Type} (value : Option α) (e : CurveError) : Except CurveError α :=
  match value with
  | some a => .ok a
  | none => .error e

/-! ## Checked arithmetic -/

def cmul (a b : U256) : Except CurveError U256 := ok_or (a.checked_mul b) .Overflow

def cadd (a b : U256) : Except CurveError U256 := ok_or (a.checked_add b) .Overflow

/-- Floor division, rejecting a zero divisor. -/
def fdiv (a b : U256) : Except CurveError U256 :=
  if b = 0 then .error .DivByZero
  else .ok ⟨a.val / b.val, (Nat.div_le_self _ _).trans_lt a.isLt⟩

/-- `a == 0 ? 0 : (a - 1) / b + 1` -/
def ceil_div (a b : U256) : Except CurveError U256 :=
  if b = 0 then .error .DivByZero
  else if h : a = 0 then .ok 0
  else .ok ⟨(a.val - 1) / b.val + 1, by
    have hpos : a.val ≠ 0 := fun h0 => h (Fin.ext h0)
    have hdiv := Nat.div_le_self (a.val - 1) b.val
    omega⟩

/-- Floored `a·b/denom` with a double-width intermediate. -/
def mul_div (a b denom : U256) : Except CurveError U256 :=
  if denom = 0 then .error .DivByZero
  else ok_or (Ratio.from_bigint (a.val * b.val / denom.val)) .Overflow

theorem sqrt_lt (x : U256) : Nat.sqrt x.val < 2 ^ 128 := by
  rw [Nat.sqrt_lt']
  exact x.isLt

def sqrt_floor (x : U256) : U256 :=
  ⟨Nat.sqrt x.val, (sqrt_lt x).trans (by norm_num)⟩

def sqrt_ceil (x : U256) : U256 :=
  if Nat.sqrt x.val * Nat.sqrt x.val < x.val then
    ⟨Nat.sqrt x.val + 1, by have := sqrt_lt x; omega⟩
  else sqrt_floor x

/-- `1e18` -/
def one18 : U256 := ⟨10 ^ 18, by norm_num⟩

theorem ten_pow_27_lt : 10 ^ 27 < 2 ^ 256 := by norm_num

theorem ten_pow_27_add_two_lt : 10 ^ 27 + 2 < 2 ^ 256 := by norm_num

theorem ten_pow_30_lt : 10 ^ 30 < 2 ^ 256 := by norm_num

theorem ten_pow_30_add_lt : 10 ^ 30 + 500 < 2 ^ 256 := by norm_num

/-- `1e27` -/
def one27 : U256 := ⟨10 ^ 27, ten_pow_27_lt⟩

/-! ## Flat fees -/

/-- The fee denominator: `1e9` is 100%. -/
def bps_denominator : U256 := ⟨10 ^ 9, by norm_num⟩

/-- A fee as a word. -/
def U32.to_word (n : U32) : U256 := ⟨n.val, by omega⟩

/-- The maker's cut off the input before the curve. -/
def apply_flat_fee_in (amount : U256) (fee_bps : U32) : Except CurveError U256 := do
  let cut ← ceil_div (← cmul amount (U32.to_word fee_bps)) bps_denominator
  ok_or (amount.checked_sub cut) .AmountTooLarge

/-- The input grossed up to cover the fee. -/
def apply_flat_fee_out (amount : U256) (fee_bps : U32) : Except CurveError U256 := do
  let denominator ←
    ok_or ((bps_denominator.checked_sub (U32.to_word fee_bps)).filter (· ≠ 0)) .InvalidParams
  cadd amount (← ceil_div (← cmul amount (U32.to_word fee_bps)) denominator)

/-- Shrink a gross input by the stacked fees, in program order. -/
def shrink_by_fees (amount : U256) (fees : List U32) : Except CurveError U256 :=
  fees.foldlM apply_flat_fee_in amount

/-- Gross a curve input up to cover the stacked fees, in reverse. -/
def gross_up_by_fees (amount : U256) (fees : List U32) : Except CurveError U256 :=
  fees.reverse.foldlM apply_flat_fee_out amount

/-! ## Bisection of an input -/

def BISECTION_PRECISION : ℕ := 1000000000000

/-- Whether a bisection has closed far enough to stop. -/
def converged (lo hi : U256) : Bool :=
  hi.val - lo.val ≤ 1 ∨ hi.val - lo.val ≤ hi.val / BISECTION_PRECISION

theorem middle_lt (lo hi : U256) : lo.val + (hi.val - lo.val) / 2 < 2 ^ 256 := by omega

/-- One round: move `lo` up to the midpoint where it is kept, else `hi` down. -/
def bisect_step (keeps : U256 → Bool) (bracket : U256 × U256) : Option (U256 × U256) :=
  let (lo, hi) := bracket
  if converged lo hi then none
  else
    let mid : U256 := ⟨lo.val + (hi.val - lo.val) / 2, middle_lt lo hi⟩
    if keeps mid then some (mid, hi) else some (lo, mid)

/-- `while !converged(lo, hi)`; the gap of two words halves at most 256 times. -/
def bisect (keeps : U256 → Bool) (lo hi : U256) : U256 :=
  (Loop.iterate (bisect_step keeps) 256 (lo, hi)).1

/-- A feasible input ceiling `≤ hi`. -/
def feasible_bound (hi : U256) (prices : U256 → Bool) : U256 :=
  if prices hi then hi else bisect prices 0 hi

/-- `Result::is_ok` -/
def is_ok {α : Type} (r : Except CurveError α) : Bool :=
  match r with
  | .ok _ => true
  | .error _ => false

section Numerical

variable (quote : U256 → Except CurveError U256)

/-- The finite-difference marginal at `a`; zero when a probe does not price. -/
def finite_marginal (step a : U256) : Except CurveError Ratio :=
  match quote a with
  | .error _ => .ok 0
  | .ok here =>
    match quote (a.saturating_add step) with
    | .ok ahead => ok_or (Ratio.new (ahead.saturating_sub here) step) .DivByZero
    | .error _ => .ok 0

/-- The finite-difference step over `bound`: a millionth of it, at least one. -/
def probe_step (bound : U256) : U256 :=
  max ⟨bound.val / 1000000, bound.div_million_lt⟩ 1

/-- Bisect the input for the largest fill whose marginal stays at or above
    `limit`. -/
def fill_to_limit_numerical (amount_in : U256) (limit : Ratio) :
    Except CurveError LimitedQuote := do
  if amount_in = 0 then
    return { amount_in := 0, amount_out := 0, limited := false }
  let bound := feasible_bound amount_in fun input => is_ok (quote input)
  if bound = 0 then
    return { amount_in := 0, amount_out := 0, limited := true }
  let marginal := finite_marginal quote (probe_step bound)
  if limit ≤ (← marginal bound) then
    let out ← quote bound
    return { amount_in := bound, amount_out := out, limited := bound < amount_in }
  if (← marginal 0) < limit then
    return { amount_in := 0, amount_out := 0, limited := true }
  -- `marginal` never fails: its step is at least one, so its ratio is defined.
  let clears := fun a => is_ok (quote a) && match marginal a with
    | .ok m => decide (limit ≤ m)
    | .error _ => false
  let lo := bisect clears 0 bound
  let out ← quote lo
  return { amount_in := lo, amount_out := out, limited := lo < amount_in }

end Numerical

/-! ## Constant product -/

structure XycPool where
  balance_in : U256
  balance_out : U256

namespace XycPool

def is_empty (pool : XycPool) : Bool := pool.balance_in = 0 ∨ pool.balance_out = 0

def marginal_price (pool : XycPool) : Except CurveError Ratio :=
  if pool.is_empty then .error .EmptyReserves
  else ok_or (Ratio.new pool.balance_out pool.balance_in) .DivByZero

/-- Output floors, the maker-favourable rounding. -/
def quote_exact_in (pool : XycPool) (amount_in : U256) : Except CurveError U256 := do
  if pool.is_empty then throw .EmptyReserves
  fdiv (← cmul amount_in pool.balance_out) (← cadd pool.balance_in amount_in)

/-- The ceil inverse of `quote_exact_in`. -/
def quote_exact_out (pool : XycPool) (amount_out : U256) : Except CurveError U256 := do
  if pool.is_empty then throw .EmptyReserves
  let denominator ←
    ok_or ((pool.balance_out.checked_sub amount_out).filter (· ≠ 0)) .AmountTooLarge
  ceil_div (← cmul amount_out pool.balance_in) denominator

/-- Closed form: the fill stops at `⌊√(k/limit)⌋ − balance_in`. -/
def quote_with_limit (pool : XycPool) (amount_in : U256) (limit : Ratio) :
    Except CurveError LimitedQuote := do
  if pool.is_empty then throw .EmptyReserves
  if limit = 0 then
    return { amount_in, amount_out := (← pool.quote_exact_in amount_in), limited := false }
  let spot ← pool.marginal_price
  if spot ≤ limit then
    return { amount_in := 0, amount_out := 0, limited := amount_in ≠ 0 }
  let k := Ratio.from_word pool.balance_in * Ratio.from_word pool.balance_out
  let boundary := Ratio.floor_sqrt (k * (← ok_or (Ratio.invert limit) .DivByZero))
  -- An unrepresentable boundary lies beyond every input the quote can accept.
  let amount := match boundary with
    | some boundary => min amount_in (boundary.saturating_sub pool.balance_in)
    | none => amount_in
  return {
    amount_in := amount
    amount_out := (← pool.quote_exact_in amount)
    limited := amount < amount_in }

end XycPool

/-! ## Concentrated liquidity -/

/-- `XYCConcentrateArgsBuilder._computeL` -/
def concentrate_liquidity (balance_lt balance_gt sqrt_price_min sqrt_price_max : U256) :
    Except CurveError U256 := do
  let ratio ← mul_div sqrt_price_min one18 sqrt_price_max
  let alpha ← ok_or (one18.checked_sub ratio) .InvalidParams
  if alpha = 0 then throw .InvalidParams
  let beta ← cadd (← mul_div balance_lt sqrt_price_min one18)
    (← mul_div balance_gt one18 sqrt_price_max)
  let four_alpha ← cmul 4 alpha
  let four_ac ← cmul (← mul_div four_alpha balance_lt one18) balance_gt
  let disc ← cadd (← cmul beta beta) four_ac
  let numerator ← cadd beta (sqrt_floor disc)
  mul_div numerator one18 (← cmul 2 alpha)

structure ConcentratePool where
  virtual_pool : Except CurveError XycPool

namespace ConcentratePool

/-- The real reserves grown into virtual ones. -/
def grow_reserves (in_is_lt : Bool)
    (balance_in balance_out sqrt_price_min sqrt_price_max : U256) :
    Except CurveError XycPool := do
  let (balance_lt, balance_gt) :=
    if in_is_lt then (balance_in, balance_out) else (balance_out, balance_in)
  let liquidity ← concentrate_liquidity balance_lt balance_gt sqrt_price_min sqrt_price_max
  let (add_in, add_out) ←
    if in_is_lt then do
      let add_in ← ceil_div (← cmul liquidity one18) sqrt_price_max
      let add_out ← mul_div liquidity sqrt_price_min one18
      pure (add_in, add_out)
    else do
      let add_in ← ceil_div (← cmul liquidity sqrt_price_min) one18
      let add_out ← mul_div liquidity one18 sqrt_price_max
      pure (add_in, add_out)
  return { balance_in := (← cadd balance_in add_in), balance_out := (← cadd balance_out add_out) }

def from_reserves_and_bounds (token_in token_out : Address)
    (balance_in balance_out sqrt_price_min sqrt_price_max : U256) : ConcentratePool :=
  { virtual_pool :=
      grow_reserves (token_in < token_out) balance_in balance_out sqrt_price_min sqrt_price_max }

def marginal_price (pool : ConcentratePool) : Except CurveError Ratio := do
  (← pool.virtual_pool).marginal_price

def quote_exact_in (pool : ConcentratePool) (amount_in : U256) : Except CurveError U256 := do
  (← pool.virtual_pool).quote_exact_in amount_in

def quote_exact_out (pool : ConcentratePool) (amount_out : U256) : Except CurveError U256 := do
  (← pool.virtual_pool).quote_exact_out amount_out

def quote_with_limit (pool : ConcentratePool) (amount_in : U256) (limit : Ratio) :
    Except CurveError LimitedQuote := do
  (← pool.virtual_pool).quote_with_limit amount_in limit

end ConcentratePool

/-! ## Pegged -/

/-- `√(u·ONE) + √(v·ONE) + a·(u+v)/ONE` -/
def pegged_invariant (u v a : U256) : Except CurveError U256 := do
  let sqrt_u := sqrt_floor (← cmul u one27)
  let sqrt_v := sqrt_floor (← cmul v one27)
  let linear ← fdiv (← cmul a (← cadd u v)) one27
  cadd (← cadd sqrt_u sqrt_v) linear

def pegged_invariant_from_reserves (x y x0 y0 a : U256) : Except CurveError U256 := do
  let u ← fdiv (← cmul x one27) x0
  let v ← fdiv (← cmul y one27) y0
  pegged_invariant u v a

/-- The analytic root of the invariant, in the rationalized form that stays
    stable as `a` goes to zero. -/
def pegged_solve (u a invariant_c : U256) : Except CurveError U256 := do
  let sqrt_u := sqrt_floor (← cmul u one27)
  let au ← fdiv (← cmul a u) one27
  let sqrt_u_plus_au ← cadd sqrt_u au
  if invariant_c < sqrt_u_plus_au then throw .Infeasible
  let right_side := invariant_c.saturating_sub sqrt_u_plus_au
  if a = 0 then
    return (← fdiv (← cmul right_side right_side) one27)
  let four_a_right ← fdiv (← cmul (← cmul 4 a) right_side) one27
  let discriminant ← cadd one27 four_a_right
  let sqrt_discriminant := sqrt_ceil (← cmul discriminant one27)
  if sqrt_discriminant < one27 then throw .NoSolution
  let denominator ← cadd one27 sqrt_discriminant
  let w ← fdiv (← cmul (← cmul 2 right_side) one27) denominator
  fdiv (← cmul w w) one27

structure PeggedParams where
  x0 : U256
  y0 : U256
  linear_width : U256
  rate_lt : U256
  rate_gt : U256
  deriving DecidableEq

/-- The reserves in normalized units and the invariant they pin. -/
structure Normalized where
  x0 : U256
  y0 : U256
  invariant : U256

structure PeggedPool where
  normalized : Except CurveError Normalized
  x0_init : U256
  y0_init : U256
  linear_width : U256
  rate_in : U256
  rate_out : U256

namespace PeggedPool

def normalize (balance_in balance_out rate_in rate_out x0_init y0_init linear_width : U256) :
    Except CurveError Normalized := do
  if balance_in = 0 ∧ balance_out = 0 then throw .EmptyReserves
  let x0 ← cmul balance_in rate_in
  let y0 ← cmul balance_out rate_out
  let invariant ← pegged_invariant_from_reserves x0 y0 x0_init y0_init linear_width
  return { x0, y0, invariant }

def from_reserves_and_params (token_in token_out : Address) (balance_in balance_out : U256)
    (params : PeggedParams) : PeggedPool :=
  let (rate_in, rate_out, x0_init, y0_init) :=
    if token_in < token_out then (params.rate_lt, params.rate_gt, params.x0, params.y0)
    else (params.rate_gt, params.rate_lt, params.y0, params.x0)
  { normalized :=
      normalize balance_in balance_out rate_in rate_out x0_init y0_init params.linear_width
    x0_init
    y0_init
    linear_width := params.linear_width
    rate_in
    rate_out }

/-- One side's weight in the marginal price. -/
def weight (pool : PeggedPool) (balance initial : U256) : Except CurveError U256 := do
  let coordinate ← mul_div balance one27 initial
  let root := sqrt_floor (← cmul coordinate one27)
  cadd (← mul_div one27 one27 (← cmul 2 root)) pool.linear_width

def marginal_price (pool : PeggedPool) : Except CurveError Ratio := do
  let normalized ← pool.normalized
  let input_weight ← pool.weight normalized.x0 pool.x0_init
  let output_weight ← pool.weight normalized.y0 pool.y0_init
  return (← ok_or (Ratio.new pool.y0_init pool.x0_init) .DivByZero)
    * (← ok_or (Ratio.new input_weight output_weight) .DivByZero)
    * (← ok_or (Ratio.new pool.rate_in pool.rate_out) .DivByZero)

def quote_exact_in (pool : PeggedPool) (amount_in : U256) : Except CurveError U256 := do
  let n ← pool.normalized
  let x1 ← cadd n.x0 (← cmul amount_in pool.rate_in)
  let u1 ← fdiv (← cmul x1 one27) pool.x0_init
  let v1 ← pegged_solve u1 pool.linear_width n.invariant
  let y1 ← ceil_div (← cmul v1 pool.y0_init) one27
  let delta_out ← ok_or (n.y0.checked_sub y1) .AmountTooLarge
  fdiv delta_out pool.rate_out

def quote_exact_out (pool : PeggedPool) (amount_out : U256) : Except CurveError U256 := do
  let n ← pool.normalized
  let y1 ← ok_or (n.y0.checked_sub (← cmul amount_out pool.rate_out)) .AmountTooLarge
  let v1 ← fdiv (← cmul y1 one27) pool.y0_init
  let u1 ← pegged_solve v1 pool.linear_width n.invariant
  let x1 ← ceil_div (← cmul u1 pool.x0_init) one27
  let delta_in ← ok_or (x1.checked_sub n.x0) .AmountTooLarge
  ceil_div delta_in pool.rate_in

/-- No closed-form inverse: the fill is bisected. -/
def quote_with_limit (pool : PeggedPool) (amount_in : U256) (limit : Ratio) :
    Except CurveError LimitedQuote :=
  fill_to_limit_numerical pool.quote_exact_in amount_in limit

end PeggedPool

/-! ## Any curve -/

/-- A priceable swap curve, the shape only. -/
inductive Curve where
  | Xyc
  | Concentrate (sqrt_price_min sqrt_price_max : U256)
  | Pegged (params : PeggedParams)
  deriving DecidableEq

inductive CurvePool where
  | Xyc (pool : XycPool)
  | Concentrate (pool : ConcentratePool)
  | Pegged (pool : PeggedPool)

namespace CurvePool

def from_curve (curve : Curve) (token_in token_out : Address) (balance_in balance_out : U256) :
    CurvePool :=
  match curve with
  | .Xyc => .Xyc { balance_in, balance_out }
  | .Concentrate sqrt_price_min sqrt_price_max =>
    .Concentrate (.from_reserves_and_bounds token_in token_out balance_in balance_out
      sqrt_price_min sqrt_price_max)
  | .Pegged params =>
    .Pegged (.from_reserves_and_params token_in token_out balance_in balance_out params)

/-- Fee-free marginal output per input from the committed reserves. -/
def marginal_price : CurvePool → Except CurveError Ratio
  | Xyc pool => pool.marginal_price
  | Concentrate pool => pool.marginal_price
  | Pegged pool => pool.marginal_price

def quote_exact_in : CurvePool → U256 → Except CurveError U256
  | Xyc pool => pool.quote_exact_in
  | Concentrate pool => pool.quote_exact_in
  | Pegged pool => pool.quote_exact_in

def quote_exact_out : CurvePool → U256 → Except CurveError U256
  | Xyc pool => pool.quote_exact_out
  | Concentrate pool => pool.quote_exact_out
  | Pegged pool => pool.quote_exact_out

def quote_with_limit : CurvePool → U256 → Ratio → Except CurveError LimitedQuote
  | Xyc pool => pool.quote_with_limit
  | Concentrate pool => pool.quote_with_limit
  | Pegged pool => pool.quote_with_limit

end CurvePool

end Solvent
