import Mathlib
import Solvent.Framework.Word

/-! # Exact-rational pricing

    The arithmetic shared by curve pricing and routing. A price is a reduced
    non-negative rational of arbitrary precision, so no intermediate product
    overflows a word; only the integer roots that leave the rationals are
    checked against the word range.
-/

namespace Solvent

/-- A reduced, non-negative exact rational. -/
abbrev Ratio : Type := ℚ≥0

namespace Ratio

/-- From word parts; `none` on a zero denominator. -/
def new (num den : U256) : Option Ratio :=
  if den = 0 then none else some ((num.val : ℚ≥0) / den.val)

/-- A whole number. -/
def from_word (n : U256) : Ratio := n.val

/-- The reciprocal; `none` for zero. -/
def invert (r : Ratio) : Option Ratio :=
  if r = 0 then none else some r⁻¹

/-- A natural number as a word; `none` beyond the range. -/
def from_bigint (n : ℕ) : Option U256 :=
  if h : n < 2 ^ 256 then some ⟨n, h⟩ else none

/-- `⌊√r⌋`, computed as `⌊isqrt(num·den) / den⌋`. -/
def floor_sqrt (r : Ratio) : Option U256 :=
  from_bigint (Nat.sqrt (r.num * r.den) / r.den)

theorem two_atLeastTwo : Nat.AtLeastTwo 2 := inferInstance

def doubled (r : Ratio) : Ratio := r * 2

/-- The midpoint of two ratios. -/
def midpoint (r s : Ratio) : Ratio := (r + s) / 2

/-- Relative difference in basis points, at most the greatest 64-bit word. -/
def rel_diff_bps (r other : Ratio) : U64 :=
  if other = 0 then ⟨2 ^ 64 - 1, by norm_num⟩
  else
    let diff := if other ≤ r then r - other else other - r
    ⟨min ⌊diff / other * 10000⌋₊ (2 ^ 64 - 1), by omega⟩

/-! ## Facts the bisections rest on -/

theorem le_midpoint {r s : Ratio} (h : r ≤ s) : r ≤ midpoint r s := by
  rw [midpoint, le_div_iff₀ (by norm_num), mul_two]
  exact add_le_add_right h r

theorem lt_midpoint {r s : Ratio} (h : r < s) : r < midpoint r s := by
  rw [midpoint, lt_div_iff₀ (by norm_num), mul_two]
  exact add_lt_add_right h r

theorem midpoint_lt {r s : Ratio} (h : r < s) : midpoint r s < s := by
  rw [midpoint, div_lt_iff₀ (by norm_num), mul_two]
  exact add_lt_add_left h s

theorem midpoint_pos {r s : Ratio} (h : 0 < s) : 0 < midpoint r s := by
  rw [midpoint]
  positivity

/-- The integer root is the greatest number whose square stays within `r`. -/
theorem le_isqrt_iff (r : Ratio) (n : ℕ) :
    n ≤ Nat.sqrt (r.num * r.den) / r.den ↔ (n : Ratio) * n ≤ r := by
  have hden : 0 < r.den := r.den_pos
  have hr : r = r.num / r.den := (NNRat.num_div_den r).symm
  have hsquare : (n : Ratio) * n ≤ r ↔ n * n * r.den ≤ r.num := by
    conv_lhs => rw [hr]
    rw [le_div_iff₀ (by exact_mod_cast hden)]
    exact_mod_cast Iff.rfl
  rw [Nat.le_div_iff_mul_le hden, Nat.le_sqrt, hsquare]
  -- Both sides carry the factor `den`, which is positive.
  constructor
  · intro h
    have hmul : n * n * r.den * r.den ≤ r.num * r.den := by nlinarith
    exact Nat.le_of_mul_le_mul_right hmul hden
  · intro h
    nlinarith [Nat.mul_le_mul_right r.den h]

theorem isqrt_mono {r s : Ratio} (h : r ≤ s) :
    Nat.sqrt (r.num * r.den) / r.den ≤ Nat.sqrt (s.num * s.den) / s.den :=
  (le_isqrt_iff s _).2 (((le_isqrt_iff r _).1 le_rfl).trans h)

end Ratio

/-- The outcome of a price-bounded quote. -/
structure LimitedQuote where
  /-- Input consumed, below the request when `limited`. -/
  amount_in : U256
  /-- Output produced for `amount_in`. -/
  amount_out : U256
  /-- Whether the price limit stopped the fill first. -/
  limited : Bool
  deriving DecidableEq

end Solvent
