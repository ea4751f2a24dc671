import Mathlib
import Solvent.Pricing.Ratio
import Solvent.Primitives

/-! # Orders

    The canonical intent and the amounts it fixes at a point in time. Each side
    carries an amount curve: a fixed amount, or a linear decay that rounds in
    the direction set by the source protocol.
-/

namespace Solvent

/-! ## Amount curves -/

inductive Rounding where
  | Up
  | Down
  deriving DecidableEq

/-- An amount over time. -/
inductive AmountCurve where
  | Static (amount : U256)
  | Linear (start stop : U256) (start_time end_time : U64) (rounding : Rounding)
  deriving DecidableEq

/-- How far a linear curve moved from its start, `elapsed` into `window`. -/
def linear_delta (magnitude : ℕ) (elapsed window : ℕ) (rounding : Rounding) : ℕ :=
  let moved : Ratio := magnitude * (elapsed / window)
  match rounding with
  | .Up => ⌈moved⌉₊
  | .Down => ⌊moved⌋₊

/-- The amount at unix time `t`, clamped to the curve's window. -/
def AmountCurve.amount_at (curve : AmountCurve) (t : U64) : U256 :=
  match curve with
  | Static amount => amount
  | Linear start stop start_time end_time rounding =>
    if t ≤ start_time then start
    else if end_time ≤ t then stop
    else
      let elapsed := t.val - start_time.val
      let window := end_time.val - start_time.val
      if start ≤ stop then
        Fin.ofNat _ (start.val + linear_delta (stop.val - start.val) elapsed window rounding)
      else
        Fin.ofNat _ (start.val - linear_delta (start.val - stop.val) elapsed window rounding)

/-- Inside the window a curve never moves further than its whole magnitude, so
    the word arithmetic of `amount_at` never wraps. -/
theorem linear_delta_le {magnitude elapsed window : ℕ} (h : elapsed < window)
    (rounding : Rounding) : linear_delta magnitude elapsed window rounding ≤ magnitude := by
  have hpos : (0 : Ratio) < window := by exact_mod_cast Nat.lt_of_le_of_lt (Nat.zero_le _) h
  have hfrac : ((elapsed : Ratio) / window) ≤ 1 := by
    rw [div_le_one hpos]
    exact_mod_cast h.le
  have hmoved : ((magnitude : Ratio) * (elapsed / window)) ≤ magnitude :=
    mul_le_of_le_one_right (by positivity) hfrac
  cases rounding with
  | Up => exact Nat.ceil_le.2 hmoved
  | Down =>
    have hfloor := Nat.floor_mono hmoved
    rwa [Nat.floor_natCast] at hfloor

/-- The amount always lies between the curve's two ends. -/
theorem amount_at_between (start stop : U256) (start_time end_time : U64) (rounding : Rounding)
    (t : U64) :
    min start stop ≤ (AmountCurve.Linear start stop start_time end_time rounding).amount_at t ∧
      (AmountCurve.Linear start stop start_time end_time rounding).amount_at t ≤
        max start stop := by
  unfold AmountCurve.amount_at
  simp only
  split
  · exact ⟨min_le_left _ _, le_max_left _ _⟩
  · rename_i hstart
    split
    · exact ⟨min_le_right _ _, le_max_right _ _⟩
    · rename_i hstop
      have hstart' : start_time.val < t.val := not_le.1 hstart
      have hstop' : t.val < end_time.val := not_le.1 hstop
      have hopen : t.val - start_time.val < end_time.val - start_time.val := by omega
      have hlt := start.isLt
      have hlt' := stop.isLt
      split
      · rename_i hrise
        have hrise' : start.val ≤ stop.val := hrise
        have hle : linear_delta (stop.val - start.val) _ _ rounding ≤ _ :=
          linear_delta_le hopen rounding
        rw [min_eq_left hrise, max_eq_right hrise, Fin.le_def, Fin.le_def, Fin.val_ofNat,
          Nat.mod_eq_of_lt (by omega)]
        omega
      · rename_i hfall
        have hfall' : stop.val < start.val := not_le.1 hfall
        have hle : linear_delta (start.val - stop.val) _ _ rounding ≤ _ :=
          linear_delta_le hopen rounding
        have hfall'' : stop ≤ start := hfall'.le
        rw [min_eq_right hfall'', max_eq_left hfall'', Fin.le_def, Fin.le_def, Fin.val_ofNat,
          Nat.mod_eq_of_lt (by omega)]
        omega

/-! ## Intents -/

structure IntentInput where
  token : Address
  curve : AmountCurve

structure IntentOutput where
  token : Address
  curve : AmountCurve
  recipient : Address

/-- A normalized order. The fields only the fill builder reads are left out. -/
structure Intent where
  /-- The order hash. -/
  id : IntentId
  input : IntentInput
  /-- Protocol overhead excluded from routing. -/
  routing_input_limit : Option U256
  outputs : List IntentOutput
  deadline : U64

/-- The tokens and exact-out bounds of an order at quote time. -/
structure SwapAmounts where
  token_in : Address
  token_out : Address
  /-- The taker's max input. -/
  amount_in : U256
  /-- The order's minimum delivered output. -/
  min_out : U256

structure SwapOutput where
  token : Address
  amount : U256

/-- The order's first output at `now`. -/
def primary_output (intent : Intent) (now : U64) : Option SwapOutput :=
  intent.outputs.head?.map fun o => { token := o.token, amount := o.curve.amount_at now }

/-- The swap's bounds, `none` when the order has no output to deliver. -/
def swap_amounts (intent : Intent) (now : U64) : Option SwapAmounts :=
  (primary_output intent now).map fun output =>
    { token_in := intent.input.token
      token_out := output.token
      amount_in := intent.input.curve.amount_at now
      min_out := output.amount }

end Solvent
