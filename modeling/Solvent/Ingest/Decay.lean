import Solvent.Swap.Order

/-! # Dutch decay

    `amount_at` with every step that could fail: the ratio of the elapsed time
    to the window, the rounding back to a word, and the word arithmetic. On the
    curves `dutch` makes none of them fails, and the amount is the ceiling of
    the line through the two ends, clamped to the window.
-/

namespace Solvent

namespace Ratio

/-- The greatest integer within `r`; `none` beyond the word range. -/
def floor (r : Ratio) : Option U256 := from_bigint ⌊r⌋₊

/-- The least integer over `r`; `none` beyond the word range. -/
def ceil (r : Ratio) : Option U256 := from_bigint ⌈r⌉₊

end Ratio

/-- Rounding to a word. -/
def Rounding.round (rounding : Rounding) (r : Ratio) : Option U256 :=
  match rounding with
  | Up => r.ceil
  | Down => r.floor

/-- The difference of two times; `none` on underflow. -/
def elapsed (t since : U64) : Option U256 :=
  if since ≤ t then some ⟨t.val - since.val, by have := t.isLt; omega⟩ else none

theorem elapsed_eq_some {t since : U64} {e : U256} (h : elapsed t since = some e) :
    since.val + e.val = t.val := by
  unfold elapsed at h
  split at h
  · rename_i hle
    have hle' : since.val ≤ t.val := hle
    obtain rfl := Option.some.inj h
    show since.val + (t.val - since.val) = t.val
    omega
  · cases h

namespace AmountCurve

/-- `Static` where the amount does not move; otherwise the slope sets the
    rounding. -/
def dutch (start stop : U256) (start_time end_time : U64) : AmountCurve :=
  if start = stop then Static start
  else Linear start stop start_time end_time (if start < stop then .Up else .Down)

/-- The amount `e` into a window of `w`; `none` where a step panics or
    overflows. -/
def decayed (start stop e w : U256) (rounding : Rounding) : Option U256 := do
  let frac ← Ratio.new e w
  let magnitude ← if start ≤ stop then stop.checked_sub start else start.checked_sub stop
  let moved := Ratio.from_word magnitude * frac
  let delta ← rounding.round moved
  if start ≤ stop then start.checked_add delta else start.checked_sub delta

/-- `amount_at` with the steps that could fail. -/
def try_amount_at (curve : AmountCurve) (t : U64) : Option U256 :=
  match curve with
  | Static amount => some amount
  | Linear start stop start_time end_time rounding =>
    if t ≤ start_time then some start
    else if end_time ≤ t then some stop
    else do decayed start stop (← elapsed t start_time) (← elapsed end_time start_time) rounding

/-- A rounded move within the magnitude is a word. -/
theorem round_word {magnitude e w : U256} (h : e < w) (rounding : Rounding) :
    ∃ delta : U256, delta.val = linear_delta magnitude.val e.val w.val rounding ∧
      rounding.round (Ratio.from_word magnitude * ((e.val : Ratio) / w.val)) = some delta := by
  have hlt : linear_delta magnitude.val e.val w.val rounding < 2 ^ 256 :=
    (linear_delta_le h rounding).trans_lt magnitude.isLt
  refine ⟨⟨_, hlt⟩, rfl, ?_⟩
  match rounding with
  | .Up => exact dif_pos hlt
  | .Down => exact dif_pos hlt

/-- **The decay** never fails inside the window. -/
theorem decayed_eq {start stop e w : U256} (h : e < w) (rounding : Rounding) :
    decayed start stop e w rounding = some (if start ≤ stop then
      Fin.ofNat _ (start.val + linear_delta (stop.val - start.val) e.val w.val rounding)
    else Fin.ofNat _ (start.val - linear_delta (start.val - stop.val) e.val w.val rounding)) := by
  have hw : w ≠ 0 := (lt_of_le_of_lt (Fin.zero_le e) h).ne'
  have hstart := start.isLt
  have hstop := stop.isLt
  unfold decayed Ratio.new
  rw [if_neg hw]
  by_cases hrise : start ≤ stop
  · have hrise' : start.val ≤ stop.val := hrise
    obtain ⟨magnitude, hmagnitude⟩ : ∃ m, stop.checked_sub start = some m :=
      ⟨_, if_pos hrise⟩
    have hval := U256.checked_sub_eq_some.mp hmagnitude
    have hsub : magnitude.val = stop.val - start.val := by omega
    obtain ⟨delta, hdelta, hround⟩ := @round_word magnitude e w h rounding
    have hle : linear_delta magnitude.val e.val w.val rounding ≤ magnitude.val :=
      linear_delta_le h rounding
    simp only [Option.bind_eq_bind, Option.bind_some, if_pos hrise, hmagnitude, hround]
    rw [← hsub, ← hdelta]
    refine U256.checked_add_eq_some.mpr ?_
    rw [Fin.val_ofNat, Nat.mod_eq_of_lt (by omega)]
  · have hfall : stop.val < start.val := not_le.mp hrise
    obtain ⟨magnitude, hmagnitude⟩ : ∃ m, start.checked_sub stop = some m :=
      ⟨_, if_pos (not_le.mp hrise).le⟩
    have hval := U256.checked_sub_eq_some.mp hmagnitude
    have hsub : magnitude.val = start.val - stop.val := by omega
    obtain ⟨delta, hdelta, hround⟩ := @round_word magnitude e w h rounding
    have hle : linear_delta magnitude.val e.val w.val rounding ≤ magnitude.val :=
      linear_delta_le h rounding
    simp only [Option.bind_eq_bind, Option.bind_some, if_neg hrise, hmagnitude, hround]
    rw [← hsub, ← hdelta]
    refine U256.checked_sub_eq_some.mpr ?_
    rw [Fin.val_ofNat, Nat.mod_eq_of_lt (by omega)]
    omega

/-- **No step fails**, whichever way a curve rounds. -/
theorem try_amount_at_eq (curve : AmountCurve) (t : U64) :
    curve.try_amount_at t = some (curve.amount_at t) := by
  match curve with
  | Static amount => rfl
  | Linear start stop start_time end_time rounding =>
    unfold try_amount_at amount_at
    simp only
    split
    · rfl
    · rename_i hbegun
      split
      · rfl
      · rename_i hended
        have hbegun' : start_time.val < t.val := not_le.mp hbegun
        have hended' : t.val < end_time.val := not_le.mp hended
        obtain ⟨e, he⟩ : ∃ e, elapsed t start_time = some e := ⟨_, if_pos hbegun'.le⟩
        obtain ⟨w, hw⟩ : ∃ w, elapsed end_time start_time = some w :=
          ⟨_, if_pos (hbegun'.trans hended').le⟩
        have he' := elapsed_eq_some he
        have hw' := elapsed_eq_some hw
        have hlt : e < w := Fin.lt_def.mpr (by omega)
        rw [he, hw]
        show decayed start stop e w rounding = _
        rw [decayed_eq hlt, show e.val = t.val - start_time.val by omega,
          show w.val = end_time.val - start_time.val by omega]

end AmountCurve

/-! ## The line through the ends -/

/-- How much of the window has passed, between 0 and 1. -/
def progress (start_time end_time t : U64) : ℚ :=
  if t ≤ start_time then 0
  else if end_time ≤ t then 1
  else ((t.val - start_time.val : ℕ) : ℚ) / ((end_time.val - start_time.val : ℕ) : ℚ)

/-- The exact amount. -/
def interpolate (start stop : U256) (progress : ℚ) : ℚ :=
  start.val + ((stop.val : ℚ) - start.val) * progress

theorem progress_nonneg (start_time end_time t : U64) : 0 ≤ progress start_time end_time t := by
  unfold progress
  split
  · exact le_rfl
  · split
    · exact zero_le_one
    · positivity

theorem progress_le_one (start_time end_time t : U64) : progress start_time end_time t ≤ 1 := by
  unfold progress
  split
  · exact zero_le_one
  · split
    · exact le_rfl
    · rename_i hended
      have hle : t.val - start_time.val ≤ end_time.val - start_time.val :=
        Nat.sub_le_sub_right (not_le.mp hended).le _
      exact div_le_one_of_le₀ (by exact_mod_cast hle) (by positivity)

/-- Progress never goes back. -/
theorem progress_mono (start_time end_time : U64) : Monotone (progress start_time end_time) := by
  intro t t' hle
  by_cases hbegun : t ≤ start_time
  · rw [progress, if_pos hbegun]
    exact progress_nonneg ..
  · by_cases hended : end_time ≤ t'
    · have hlate : ¬t' ≤ start_time := fun hearly => hbegun (hle.trans hearly)
      rw [show progress start_time end_time t' = 1 by
        rw [progress, if_neg hlate, if_pos hended]]
      exact progress_le_one ..
    · -- Both are inside the window.
      have hlate : ¬t' ≤ start_time := fun hearly => hbegun (hle.trans hearly)
      have hopen : ¬end_time ≤ t := fun hclosed => hended (hclosed.trans hle)
      have hsub : t.val - start_time.val ≤ t'.val - start_time.val := Nat.sub_le_sub_right hle _
      rw [progress, if_neg hbegun, if_neg hopen, progress, if_neg hlate, if_neg hended]
      exact div_le_div_of_nonneg_right (by exact_mod_cast hsub) (by positivity)

theorem linear_delta_up (magnitude e w : ℕ) :
    (linear_delta magnitude e w .Up : ℤ) = ⌈(magnitude : ℚ) * ((e : ℚ) / w)⌉ := by
  have hcast : (((magnitude : ℚ≥0) * ((e : ℚ≥0) / w) : ℚ≥0) : ℚ) = magnitude * ((e : ℚ) / w) := by
    push_cast
    rfl
  rw [← hcast]
  exact NNRat.coe_ceil _

theorem linear_delta_down (magnitude e w : ℕ) :
    (linear_delta magnitude e w .Down : ℤ) = ⌊(magnitude : ℚ) * ((e : ℚ) / w)⌋ := by
  have hcast : (((magnitude : ℚ≥0) * ((e : ℚ≥0) / w) : ℚ≥0) : ℚ) = magnitude * ((e : ℚ) / w) := by
    push_cast
    rfl
  rw [← hcast]
  exact NNRat.coe_floor _

/-- **The ceiling.** Rounding a rise up and a fall down gives the same ceiling of
    the line, clamped to the window. -/
theorem dutch_eq_ceil (start stop : U256) (start_time end_time t : U64) :
    (((AmountCurve.dutch start stop start_time end_time).amount_at t).val : ℤ) =
      ⌈interpolate start stop (progress start_time end_time t)⌉ := by
  by_cases hflat : start = stop
  · obtain rfl := hflat
    rw [AmountCurve.dutch, if_pos rfl, interpolate, sub_self, zero_mul, add_zero]
    exact (Int.ceil_natCast start.val).symm
  · rw [AmountCurve.dutch, if_neg hflat]
    unfold AmountCurve.amount_at progress
    simp only
    split
    · rw [interpolate, mul_zero, add_zero]
      exact (Int.ceil_natCast start.val).symm
    · rename_i hbegun
      split
      · rw [interpolate, mul_one, add_sub_cancel]
        exact (Int.ceil_natCast stop.val).symm
      · rename_i hended
        have hopen : t.val - start_time.val < end_time.val - start_time.val := by
          have hbegun' : start_time.val < t.val := not_le.mp hbegun
          have hended' : t.val < end_time.val := not_le.mp hended
          omega
        have hstart := start.isLt
        have hstop := stop.isLt
        split
        · rename_i hrise
          have hrise' : start.val ≤ stop.val := hrise
          have hle : linear_delta (stop.val - start.val) (t.val - start_time.val)
              (end_time.val - start_time.val) .Up ≤ stop.val - start.val :=
            linear_delta_le hopen .Up
          rw [if_pos (lt_of_le_of_ne hrise hflat), Fin.val_ofNat, Nat.mod_eq_of_lt (by omega),
            Nat.cast_add, linear_delta_up, interpolate, Int.ceil_natCast_add,
            Nat.cast_sub hrise']
        · rename_i hfall
          have hfall' : stop.val < start.val := not_le.mp hfall
          have hle : linear_delta (start.val - stop.val) (t.val - start_time.val)
              (end_time.val - start_time.val) .Down ≤ start.val - stop.val :=
            linear_delta_le hopen .Down
          rw [if_neg fun hlt => hfall hlt.le, Fin.val_ofNat, Nat.mod_eq_of_lt (by omega),
            Nat.cast_sub (hle.trans (Nat.sub_le ..)), linear_delta_down, interpolate,
            Int.ceil_natCast_add, ← neg_sub (start.val : ℚ), neg_mul, Int.ceil_neg,
            Nat.cast_sub hfall'.le]
          ring

theorem interpolate_rises {start stop : U256} (h : start ≤ stop) :
    Monotone (interpolate start stop) := by
  intro p q hle
  have hmagnitude : (0 : ℚ) ≤ (stop.val : ℚ) - start.val :=
    sub_nonneg.mpr (by exact_mod_cast Fin.le_def.mp h)
  exact add_le_add_right (mul_le_mul_of_nonneg_left hle hmagnitude) _

theorem interpolate_falls {start stop : U256} (h : stop ≤ start) :
    Antitone (interpolate start stop) := by
  intro p q hle
  have hmagnitude : (stop.val : ℚ) - start.val ≤ 0 :=
    sub_nonpos.mpr (by exact_mod_cast Fin.le_def.mp h)
  exact add_le_add_right (mul_le_mul_of_nonpos_left hle hmagnitude) _

/-- The amount stays between the ends. -/
theorem dutch_between (start stop : U256) (start_time end_time t : U64) :
    min start stop ≤ (AmountCurve.dutch start stop start_time end_time).amount_at t ∧
      (AmountCurve.dutch start stop start_time end_time).amount_at t ≤ max start stop := by
  by_cases hflat : start = stop
  · rw [AmountCurve.dutch, if_pos hflat, ← hflat, min_self, max_self]
    exact ⟨le_rfl, le_rfl⟩
  · rw [AmountCurve.dutch, if_neg hflat]
    exact amount_at_between start stop start_time end_time _ t

/-- **Dutch decay is exact.** No step fails at any time; the amount is the start
    up to the opening and the stop from the closing on, inside the window the
    ceiling of the line, never outside the ends, and it moves one way. -/
theorem dutch_exact (start stop : U256) (start_time end_time : U64) :
    let curve := AmountCurve.dutch start stop start_time end_time
    (∀ t, curve.try_amount_at t = some (curve.amount_at t)) ∧
    (∀ t, t ≤ start_time → curve.amount_at t = start) ∧
    (∀ t, start_time < t → end_time ≤ t → curve.amount_at t = stop) ∧
    (∀ t, start_time < t → t < end_time → ((curve.amount_at t).val : ℤ) =
      ⌈(start.val : ℚ) + ((stop.val : ℚ) - start.val) *
        (((t.val : ℚ) - start_time.val) / ((end_time.val : ℚ) - start_time.val))⌉) ∧
    (∀ t, min start stop ≤ curve.amount_at t ∧ curve.amount_at t ≤ max start stop) ∧
    (start ≤ stop → Monotone curve.amount_at) ∧ (stop ≤ start → Antitone curve.amount_at) := by
  intro curve
  have hceil : ∀ t, ((curve.amount_at t).val : ℤ) = _ := dutch_eq_ceil start stop start_time end_time
  refine ⟨curve.try_amount_at_eq, ?_, ?_, ?_, ?_, ?_, ?_⟩
  · intro t hbegun
    have hat := hceil t
    rw [progress, if_pos hbegun, interpolate, mul_zero, add_zero, Int.ceil_natCast] at hat
    exact Fin.ext (by exact_mod_cast hat)
  · intro t hbegun hended
    have hat := hceil t
    rw [progress, if_neg (not_le.mpr hbegun), if_pos hended, interpolate, mul_one,
      add_sub_cancel, Int.ceil_natCast] at hat
    exact Fin.ext (by exact_mod_cast hat)
  · intro t hbegun hended
    rw [hceil t, progress, if_neg (not_le.mpr hbegun), if_neg (not_le.mpr hended), interpolate,
      Nat.cast_sub hbegun.le, Nat.cast_sub (hbegun.trans hended).le]
  · exact dutch_between start stop start_time end_time
  · intro hrise t t' hle
    have hmono := interpolate_rises hrise (progress_mono start_time end_time hle)
    have hval := Int.ceil_mono hmono
    rw [← hceil, ← hceil] at hval
    exact Fin.le_def.mpr (by exact_mod_cast hval)
  · intro hfall t t' hle
    have hanti := interpolate_falls hfall (progress_mono start_time end_time hle)
    have hval := Int.ceil_mono hanti
    rw [← hceil, ← hceil] at hval
    exact Fin.le_def.mpr (by exact_mod_cast hval)

end Solvent
