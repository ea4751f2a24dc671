import Mathlib
import Solvent.Registry.Pegged

/-! # Where the pegged curve rounds against its caller

    Normalizing floors, the root of the discriminant is rounded up, and the
    solution is floored twice before it becomes a balance again. Near a solution
    these do not cancel: a larger input can buy less, a small one can fail where a
    larger one prices, and the input asked for an output may not buy it.

    Both properties are decided exactly, in terms of the root at the coordinates
    the two quotes pass through. Without a linear width the root is a square and
    exact-in is monotone.
-/

namespace Solvent

namespace PeggedPool

open Pegged

/-- What of the invariant an input leaves to the output side. -/
def rest (pool : PeggedPool) (n : Normalized) (amount_in : ℕ) : ℕ :=
  n.invariant.val - side pool.linear_width.val (pool.coordinate_in n amount_in)

/-- The output balance the curve keeps at a rest of the invariant, rounded up. -/
def kept (pool : PeggedPool) (r : ℕ) : ℕ :=
  root pool.linear_width.val r * pool.y0_init.val ⌈/⌉ ONE

theorem coordinate_in_mono (pool : PeggedPool) (n : Normalized) {a b : ℕ} (h : a ≤ b) :
    pool.coordinate_in n a ≤ pool.coordinate_in n b :=
  coordinate_mono (by have := Nat.mul_le_mul_right pool.rate_in.val h; omega) _

theorem rest_anti (pool : PeggedPool) (n : Normalized) {a b : ℕ} (h : a ≤ b) :
    pool.rest n b ≤ pool.rest n a := by
  have hside := side_mono pool.linear_width.val (pool.coordinate_in_mono n h)
  unfold rest
  omega

/-! ## Monotonicity -/

/-- The rounding of the smaller input `a` is no worse than that of `b`: its larger
    rest fits the products of the solution, keeps no more than the reserve, and
    frees no more whole output units than the rest at `b` does. -/
structure InOrder (pool : PeggedPool) (n : Normalized) (a b : ℕ) : Prop where
  fits : Fits pool.linear_width.val (pool.rest n a)
  within : pool.kept (pool.rest n a) ≤ n.y0.val
  freed : (n.y0.val - pool.kept (pool.rest n a)) / pool.rate_out.val ≤
    (n.y0.val - pool.kept (pool.rest n b)) / pool.rate_out.val

theorem kept_le_iff {pool : PeggedPool} {n : Normalized} (r : ℕ) :
    pool.kept r ≤ n.y0.val ↔
      root pool.linear_width.val r * pool.y0_init.val ≤ n.y0.val * ONE := by
  rw [kept, ceilDiv_le_iff_le_mul ONE_pos, Nat.mul_comm ONE]

/-- A priced input settles everything about a smaller one but its rounding. -/
theorem quote_exact_in_below {pool : PeggedPool} {n : Normalized} (hpin : pool.Pinned n)
    {a b y : U256} (hab : a ≤ b) (hb : pool.quote_exact_in b = .ok y) (x : U256) :
    pool.quote_exact_in a = .ok x ↔
      Fits pool.linear_width.val (pool.rest n a.val) ∧
      pool.kept (pool.rest n a.val) ≤ n.y0.val ∧
      (n.y0.val - pool.kept (pool.rest n a.val)) / pool.rate_out.val = x.val := by
  obtain ⟨hfits, hout, v, hv, -, -⟩ := (quote_exact_in_eq_ok hpin).mp hb
  have hle := pool.coordinate_in_mono n (Fin.le_def.mp hab)
  rw [quote_exact_in_eq_ok hpin, kept_le_iff]
  constructor
  · rintro ⟨-, -, w, hw, hwy, hx⟩
    obtain rfl := hw.value
    exact ⟨hw.fits, hwy, hx⟩
  · rintro ⟨hrest, hwy, hx⟩
    have hsum : n.x0.val + a.val * pool.rate_in.val ≤ n.x0.val + b.val * pool.rate_in.val := by
      have hmul := Nat.mul_le_mul_right pool.rate_in.val (Fin.le_def.mp hab)
      omega
    refine ⟨(Nat.mul_le_mul_right _ hsum).trans_lt hfits, hout, _, ?_, hwy, hx⟩
    exact
      { coordinate := (Nat.mul_le_mul_right _ hle).trans_lt hv.coordinate
        width := (Nat.mul_le_mul_left _ hle).trans_lt hv.width
        within := (side_mono _ hle).trans hv.within
        fits := hrest
        value := rfl }

/-- Without a linear width the root is a plain square, and rounding keeps order. -/
theorem in_order_of_square {pool : PeggedPool} {n : Normalized} (hpin : pool.Pinned n)
    (hwidth : pool.linear_width.val = 0) {a b : ℕ} (hab : a ≤ b) : pool.InOrder n a b := by
  have hroot : ∀ r, root pool.linear_width.val r = r * r / ONE := by
    intro r
    rw [root, root_of_rest, if_pos hwidth]
  -- The rest of the untouched reserves is the root of the output coordinate.
  have hrest : pool.rest n a ≤ Nat.sqrt (pool.coordinate_out n 0 * ONE) := by
    refine (pool.rest_anti n (Nat.zero_le a)).trans ?_
    rw [rest, side, hpin.invariant, hwidth]
    simp
  have hsquare : pool.rest n a * pool.rest n a ≤ pool.coordinate_out n 0 * ONE :=
    Nat.le_sqrt.mp hrest
  have hle : root pool.linear_width.val (pool.rest n a) ≤ pool.coordinate_out n 0 := by
    rw [hroot]
    exact Nat.div_le_of_le_mul (hsquare.trans_eq (Nat.mul_comm _ _))
  have hmono : pool.kept (pool.rest n b) ≤ pool.kept (pool.rest n a) := by
    have hanti := pool.rest_anti n hab
    unfold kept
    rw [hroot, hroot]
    exact (gc_mul_ceilDiv ONE_pos).monotone_l
      (Nat.mul_le_mul_right _ (Nat.div_le_div_right (Nat.mul_le_mul hanti hanti)))
  exact
    { fits :=
        { square := by
            rw [root_of_rest, if_pos hwidth]
            exact hsquare.trans_lt hpin.v_fits
          linear := fun h => absurd hwidth h }
      within := by
        rw [kept_le_iff]
        refine (Nat.mul_le_mul_right _ hle).trans ?_
        have hcoord := (le_coordinate_iff hpin.y0_pos (pool.coordinate_out n 0)
          (n.y0.val - 0 * pool.rate_out.val)).mp le_rfl
        simpa using hcoord
      freed := Nat.div_le_div_right (by omega) }

/-- A smaller input prices no more exactly where its rounding is in order. -/
theorem buys_no_more_iff {pool : PeggedPool} {n : Normalized} (hpin : pool.Pinned n) {a b y : U256}
    (hab : a ≤ b) (hb : pool.quote_exact_in b = .ok y) :
    (∃ x, pool.quote_exact_in a = .ok x ∧ x ≤ y) ↔
      pool.linear_width.val = 0 ∨ pool.InOrder n a.val b.val := by
  obtain ⟨-, -, hy⟩ := (quote_exact_in_below hpin le_rfl hb y).mp hb
  constructor
  · rintro ⟨x, hx, hxy⟩
    obtain ⟨hrest, hkept, hval⟩ := (quote_exact_in_below hpin hab hb x).mp hx
    refine .inr ⟨hrest, hkept, ?_⟩
    rw [hval, hy]
    exact hxy
  · intro h
    have horder : pool.InOrder n a.val b.val := by
      rcases h with hwidth | horder
      · exact in_order_of_square hpin hwidth hab
      · exact horder
    have hlt : (n.y0.val - pool.kept (pool.rest n a.val)) / pool.rate_out.val < 2 ^ 256 :=
      (Nat.div_le_self _ _).trans_lt ((Nat.sub_le _ _).trans_lt n.y0.isLt)
    refine ⟨⟨_, hlt⟩, ?_, ?_⟩
    · rw [quote_exact_in_below hpin hab hb]
      exact ⟨horder.fits, horder.within, rfl⟩
    · rw [Fin.le_def, ← hy]
      exact horder.freed

/-! ## Exact-in against exact-out -/

/-- The input `i` asked for the output `o` goes through: the root at the reduced
    output coordinate lies above the untouched input coordinate, and solving back
    at the coordinate of `i` does not end above the reduced output coordinate. -/
structure ComesBack (pool : PeggedPool) (n : Normalized) (o i : ℕ) : Prop where
  moves : pool.coordinate_in n 0 < root pool.linear_width.val
    (n.invariant.val - side pool.linear_width.val (pool.coordinate_out n o))
  fits : (n.x0.val + i * pool.rate_in.val) * ONE < 2 ^ 256
  solves : ∃ v ≤ pool.coordinate_out n o,
    Solves (pool.coordinate_in n i) pool.linear_width.val n.invariant.val v

/-- Solving at the untouched input coordinate gives the output reserve back, to
    within one output unit, where it gives no more than the reserve. -/
def StandsStill (pool : PeggedPool) (n : Normalized) : Prop :=
  ∀ v, Solves (pool.coordinate_in n 0) pool.linear_width.val n.invariant.val v →
    v * pool.y0_init.val ≤ n.y0.val * ONE →
    n.y0.val - v * pool.y0_init.val ⌈/⌉ ONE < pool.rate_out.val

/-- An output is reached exactly where the solution is at most the coordinate the
    output was taken off at. -/
theorem reaches_iff {pool : PeggedPool} {n : Normalized} (hpin : pool.Pinned n) {o : ℕ}
    (hout : 0 < pool.rate_out.val) (hle : o * pool.rate_out.val ≤ n.y0.val) (v : ℕ) :
    (v * pool.y0_init.val ≤ n.y0.val * ONE ∧
      o ≤ (n.y0.val - v * pool.y0_init.val ⌈/⌉ ONE) / pool.rate_out.val) ↔
      v ≤ pool.coordinate_out n o := by
  have hone := ONE_pos
  rw [Nat.le_div_iff_mul_le hout, coordinate_out, le_coordinate_iff hpin.y0_pos,
    Nat.mul_comm _ ONE, Nat.mul_comm _ ONE, ← ceilDiv_le_iff_le_mul hone,
    ← ceilDiv_le_iff_le_mul hone]
  omega

theorem comes_back_iff {pool : PeggedPool} {n : Normalized} (hpin : pool.Pinned n) {o i : U256}
    (hrate : 0 < pool.rate_out.val) (h : pool.quote_exact_out o = .ok i) :
    (0 < i ∧ ∃ y, pool.quote_exact_in i = .ok y ∧ o ≤ y) ↔ pool.ComesBack n o.val i.val := by
  obtain ⟨hle, hin, u, hu, -, hx, hi⟩ := (quote_exact_out_eq_ok hpin).mp h
  obtain rfl := hu.value
  have hone := ONE_pos
  -- Some input is asked exactly when the input balance has to grow.
  have hmoves : 0 < i ↔ pool.coordinate_in n 0 < root pool.linear_width.val
      (n.invariant.val - side pool.linear_width.val (pool.coordinate_out n o.val)) := by
    have hzero : pool.coordinate_in n 0 = coordinate n.x0.val pool.x0_init.val := by
      simp [coordinate_in]
    rw [hzero, ← Nat.not_le, le_coordinate_iff hpin.x0_pos, Nat.mul_comm _ ONE,
      ← ceilDiv_le_iff_le_mul hone, Fin.lt_def, ← hi, ← Nat.not_le]
    show ¬_ ≤ 0 ↔ _
    rw [ceilDiv_le_iff_le_mul (Nat.pos_of_ne_zero hin)]
    omega
  constructor
  · rintro ⟨hpos, y, hy, hoy⟩
    obtain ⟨hfits, -, v, hv, hvy, hval⟩ := (quote_exact_in_eq_ok hpin).mp hy
    refine ⟨hmoves.mp hpos, hfits, v, ?_, hv⟩
    rw [← reaches_iff hpin hrate hle]
    exact ⟨hvy, by rw [hval]; exact hoy⟩
  · intro hback
    obtain ⟨v, hv, hsolves⟩ := hback.solves
    obtain ⟨hvy, hoy⟩ := (reaches_iff hpin hrate hle v).mpr hv
    have hlt : (n.y0.val - v * pool.y0_init.val ⌈/⌉ ONE) / pool.rate_out.val < 2 ^ 256 :=
      (Nat.div_le_self _ _).trans_lt ((Nat.sub_le _ _).trans_lt n.y0.isLt)
    exact ⟨hmoves.mpr hback.moves, ⟨_, hlt⟩,
      (quote_exact_in_eq_ok hpin).mpr ⟨hback.fits, hrate.ne', v, hsolves, hvy, rfl⟩, hoy⟩

theorem stands_still_iff {pool : PeggedPool} {n : Normalized} (hpin : pool.Pinned n)
    (hrate : 0 < pool.rate_out.val) :
    (∀ z, pool.quote_exact_in 0 = .ok z → z = 0) ↔ pool.StandsStill n := by
  have hfits : (n.x0.val + (0 : U256).val * pool.rate_in.val) * ONE < 2 ^ 256 := by
    show (n.x0.val + 0 * pool.rate_in.val) * ONE < 2 ^ 256
    simpa using hpin.x_fits
  constructor
  · intro h v hv hvy
    have hlt : (n.y0.val - v * pool.y0_init.val ⌈/⌉ ONE) / pool.rate_out.val < 2 ^ 256 :=
      (Nat.div_le_self _ _).trans_lt ((Nat.sub_le _ _).trans_lt n.y0.isLt)
    have hquote : pool.quote_exact_in 0 = .ok ⟨_, hlt⟩ :=
      (quote_exact_in_eq_ok hpin).mpr ⟨hfits, hrate.ne', v, hv, hvy, rfl⟩
    have hzero := U256.eq_zero_iff.mp (h _ hquote)
    exact (Nat.div_eq_zero_iff.mp hzero).resolve_left hrate.ne'
  · intro h z hz
    obtain ⟨-, -, v, hv, hvy, hval⟩ := (quote_exact_in_eq_ok hpin).mp hz
    rw [U256.eq_zero_iff, ← hval]
    exact Nat.div_eq_of_lt (h v hv hvy)

end PeggedPool

/-- A pair pegged at `10²⁷` normalized units a side, with linear width `0.8`. -/
def wide_peg : PeggedParams :=
  { x0 := 10 ^ 27
    y0 := 10 ^ 27
    linear_width := 8 * 10 ^ 26
    rate_lt := 1
    rate_gt := 1 }

/-- The pair at a third of its peg on the output side. -/
def pegged_sample : PeggedPool :=
  .from_reserves_and_params 1 2 (3 * 10 ^ 27) (10 ^ 27) wide_peg

/-- Whether the pool rounds a smaller input `a` no worse than `b`. Only a pegged
    pool with a linear width can fail to. -/
def CurvePool.RoundsInOrder (pool : CurvePool) (a b : U256) : Prop :=
  match pool with
  | .Xyc _ => True
  | .Concentrate _ => True
  | .Pegged p =>
    p.linear_width.val = 0 ∨ ∀ n, p.normalized = .ok n → p.InOrder n a.val b.val

/-- The pegged pair far on the output side of its peg. -/
def lopsided_pool : CurvePool :=
  .from_curve (.Pegged wide_peg) 1 2 (5 * 10 ^ 26) (9 * 10 ^ 27)

theorem lopsided_quotes :
    lopsided_pool.quote_exact_in 7 = .ok 18 ∧ lopsided_pool.quote_exact_in 8 = .ok 12 := by
  decide +kernel

end Solvent
