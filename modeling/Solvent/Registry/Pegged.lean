import Mathlib
import Solvent.Registry.Program
import Solvent.Registry.Quotes

/-! # The pegged curve in natural numbers

    A quote of a pegged pool passes through normalized coordinates. A balance is
    floored to a coordinate `u`; `side` is what the coordinate adds to the
    invariant; the rest of the invariant is solved for the other coordinate, and
    the solution is rounded up to a balance again.

    The lemmas here say which natural number each step is and which products must
    fit a word for it to succeed.
-/

namespace Solvent

/-- The square root rounded up. -/
def ceil_sqrt (n : ℕ) : ℕ := if Nat.sqrt n * Nat.sqrt n < n then Nat.sqrt n + 1 else Nat.sqrt n

@[simp] theorem sqrt_floor_val (x : U256) : (sqrt_floor x).val = Nat.sqrt x.val := rfl

@[simp] theorem sqrt_ceil_val (x : U256) : (sqrt_ceil x).val = ceil_sqrt x.val := by
  unfold sqrt_ceil ceil_sqrt
  split <;> rfl

theorem ceil_sqrt_le_iff (n m : ℕ) : ceil_sqrt n ≤ m ↔ n ≤ m * m := by
  have hfloor := Nat.sqrt_le n
  unfold ceil_sqrt
  split
  case isTrue hlt =>
    show Nat.sqrt n < m ↔ _
    constructor
    · intro h
      exact (Nat.sqrt_lt.mp h).le
    · intro h
      by_contra hge
      have hsq : m * m ≤ Nat.sqrt n * Nat.sqrt n := Nat.mul_le_mul (by omega) (by omega)
      omega
  case isFalse hge =>
    have heq : Nat.sqrt n * Nat.sqrt n = n := by omega
    constructor
    · intro h
      calc n = Nat.sqrt n * Nat.sqrt n := heq.symm
        _ ≤ m * m := Nat.mul_le_mul h h
    · intro h
      exact Nat.sqrt_le_sqrt h |>.trans (Nat.sqrt_eq m).le

theorem ceil_sqrt_lt (x : U256) : ceil_sqrt x.val ≤ 2 ^ 128 := by
  rw [ceil_sqrt_le_iff]
  have hx := x.isLt
  calc x.val ≤ 2 ^ 256 := hx.le
    _ = 2 ^ 128 * 2 ^ 128 := by norm_num

/-- The fixed-point unit of the pegged curve. -/
def ONE : ℕ := 10 ^ 27

@[simp] theorem one27_val : one27.val = ONE := rfl

theorem ONE_pos : 0 < ONE := by
  unfold ONE
  norm_num

namespace Pegged

/-- What one coordinate adds to the invariant. -/
def side (a u : ℕ) : ℕ := Nat.sqrt (u * ONE) + a * u / ONE

theorem side_mono (a : ℕ) {u u' : ℕ} (h : u ≤ u') : side a u ≤ side a u' := by
  have hsqrt := Nat.sqrt_le_sqrt (Nat.mul_le_mul_right ONE h)
  have hlinear := Nat.div_le_div_right (c := ONE) (Nat.mul_le_mul_left a h)
  unfold side
  omega

/-- The square root of the solution: what is left of the invariant over half of
    one and the root of the discriminant. -/
def root_of_rest (a r : ℕ) : ℕ :=
  if a = 0 then r
  else 2 * r * ONE / (ONE + ceil_sqrt ((ONE + 4 * a * r / ONE) * ONE))

/-- The coordinate that makes up for `r` of the invariant. -/
def root (a r : ℕ) : ℕ := root_of_rest a r * root_of_rest a r / ONE

/-- The products of the solution that have to fit a word. -/
structure Fits (a r : ℕ) : Prop where
  square : root_of_rest a r * root_of_rest a r < 2 ^ 256
  linear : a ≠ 0 → 4 * a < 2 ^ 256 ∧ 4 * a * r < 2 ^ 256 ∧
    (ONE + 4 * a * r / ONE) * ONE < 2 ^ 256 ∧ 2 * r * ONE < 2 ^ 256

/-- `v` is what `pegged_solve` finds for a coordinate against the invariant. -/
structure Solves (u a c v : ℕ) : Prop where
  coordinate : u * ONE < 2 ^ 256
  width : a * u < 2 ^ 256
  within : side a u ≤ c
  fits : Fits a (c - side a u)
  value : root a (c - side a u) = v

/-- `pegged_solve` from the rest of the invariant on. -/
def solve_rest (a r : U256) : Except CurveError U256 := do
  if a = 0 then
    fdiv (← cmul r r) one27
  else
    let four_a_right ← fdiv (← cmul (← cmul 4 a) r) one27
    let discriminant ← cadd one27 four_a_right
    let squared ← cmul discriminant one27
    if sqrt_ceil squared < one27 then throw .NoSolution
    else
      let denominator ← cadd one27 (sqrt_ceil squared)
      let w ← fdiv (← cmul (← cmul 2 r) one27) denominator
      fdiv (← cmul w w) one27

theorem solve_eq (u a c : U256) :
    pegged_solve u a c = (do
      let uone ← cmul u one27
      let au ← fdiv (← cmul a u) one27
      let sqrt_u_plus_au ← cadd (sqrt_floor uone) au
      if c < sqrt_u_plus_au then throw .Infeasible
      else solve_rest a (c.saturating_sub sqrt_u_plus_au)) :=
  rfl

/-- The discriminant is at least one, and so is its root. -/
theorem one_le_ceil_sqrt (d : ℕ) : ONE ≤ ceil_sqrt ((ONE + d) * ONE) := by
  by_contra hlt
  have hsq := (ceil_sqrt_le_iff ((ONE + d) * ONE) (ONE - 1)).mp (by omega)
  have hone := ONE_pos
  have hle : (ONE - 1) * (ONE - 1) < ONE * ONE := Nat.mul_self_lt_mul_self (by omega)
  have hge : ONE * ONE ≤ (ONE + d) * ONE := Nat.mul_le_mul_right _ (by omega)
  omega

theorem solve_rest_eq_ok {a r v : U256} :
    solve_rest a r = .ok v ↔ Fits a.val r.val ∧ root a.val r.val = v.val := by
  have hone := ONE_pos
  unfold solve_rest
  by_cases ha : a = 0
  · have ha0 : a.val = 0 := U256.eq_zero_iff.mp ha
    have hw : root_of_rest a.val r.val = r.val := if_pos ha0
    rw [if_pos ha]
    simp only [Except.bind_eq_ok, cmul_eq_ok, fdiv_eq_ok, one27_val]
    constructor
    · rintro ⟨p, hp, -, hv⟩
      refine ⟨⟨?_, fun h => absurd ha0 h⟩, ?_⟩
      · rw [hw, hp]
        exact p.isLt
      · rw [root, hw, hp, hv]
    · rintro ⟨hfits, hv⟩
      have hsquare := hfits.square
      rw [root, hw] at hv
      rw [hw] at hsquare
      exact ⟨⟨_, hsquare⟩, rfl, by omega, hv⟩
  · have ha0 : a.val ≠ 0 := fun h => ha (U256.eq_zero_iff.mpr h)
    rw [if_neg ha]
    simp only [Except.bind_eq_ok, cmul_eq_ok, cadd_eq_ok, fdiv_eq_ok, one27_val]
    have hw : root_of_rest a.val r.val =
        2 * r.val * ONE / (ONE + ceil_sqrt ((ONE + 4 * a.val * r.val / ONE) * ONE)) := if_neg ha0
    constructor
    · rintro ⟨fa, hfa, far, hfar, far1, ⟨-, hfar1⟩, d, hd, sq, hsq, h⟩
      have hfa' : 4 * a.val = fa.val := hfa
      rw [← hfa'] at hfar
      rw [← hfar] at hfar1
      rw [← hfar1] at hd
      rw [← hd] at hsq
      split at h
      case isTrue => cases h
      case isFalse =>
        simp only [Except.bind_eq_ok, cmul_eq_ok, cadd_eq_ok, fdiv_eq_ok, one27_val,
          sqrt_ceil_val] at h
        obtain ⟨den, hden, tr, htr, tro, htro, w, ⟨-, hw'⟩, ww, hww, -, hv⟩ := h
        have htr' : 2 * r.val = tr.val := htr
        rw [← htr'] at htro
        rw [← htro, ← hden, ← hsq, ← hw] at hw'
        rw [← hw'] at hww
        refine ⟨⟨?_, fun _ => ⟨?_, ?_, ?_, ?_⟩⟩, ?_⟩
        · rw [hww]
          exact ww.isLt
        · rw [hfa']
          exact fa.isLt
        · rw [hfar]
          exact far.isLt
        · rw [hsq]
          exact sq.isLt
        · rw [htro]
          exact tro.isLt
        · rw [root, hww, hv]
    · rintro ⟨hfits, hv⟩
      obtain ⟨hfa, hfar, hsq, htro⟩ := hfits.linear ha0
      have hsquare := hfits.square
      have hd : ONE + 4 * a.val * r.val / ONE < 2 ^ 256 :=
        (Nat.le_mul_of_pos_right _ hone).trans_lt hsq
      have htr : 2 * r.val < 2 ^ 256 := (Nat.le_mul_of_pos_right _ hone).trans_lt htro
      have hge := one_le_ceil_sqrt (4 * a.val * r.val / ONE)
      have hceil := ceil_sqrt_lt ⟨_, hsq⟩
      simp only at hceil
      have hden : ONE + ceil_sqrt ((ONE + 4 * a.val * r.val / ONE) * ONE) < 2 ^ 256 := by
        have hsmall : ONE ≤ 2 ^ 128 := by
          unfold ONE
          norm_num
        calc _ ≤ 2 ^ 128 + 2 ^ 128 := Nat.add_le_add hsmall hceil
          _ < 2 ^ 256 := by norm_num
      have hwlt : root_of_rest a.val r.val < 2 ^ 256 := by
        rw [hw]
        exact (Nat.div_le_self _ _).trans_lt htro
      refine ⟨⟨_, hfa⟩, rfl, ⟨_, hfar⟩, rfl,
        ⟨_, (Nat.div_le_self _ _).trans_lt hfar⟩, ⟨by omega, rfl⟩, ⟨_, hd⟩, rfl, ⟨_, hsq⟩, rfl, ?_⟩
      rw [if_neg]
      · simp only [Except.bind_eq_ok, cmul_eq_ok, cadd_eq_ok, fdiv_eq_ok, one27_val, sqrt_ceil_val]
        refine ⟨⟨_, hden⟩, rfl, ⟨_, htr⟩, rfl, ⟨_, htro⟩, rfl, ⟨_, hwlt⟩, ⟨?_, hw.symm⟩,
          ⟨_, hsquare⟩, rfl, by omega, hv⟩
        show ONE + _ ≠ 0
        omega
      · rw [Fin.lt_def, sqrt_ceil_val]
        exact hge.not_gt

theorem solve_eq_ok {u a c v : U256} :
    pegged_solve u a c = .ok v ↔ Solves u.val a.val c.val v.val := by
  rw [solve_eq]
  simp only [Except.bind_eq_ok, cmul_eq_ok, cadd_eq_ok, fdiv_eq_ok, one27_val, sqrt_floor_val]
  constructor
  · rintro ⟨uone, huone, au, hau, au1, ⟨-, hau1⟩, s, hs, h⟩
    have hside : side a.val u.val = s.val := by
      rw [side, huone, hau, hau1, hs]
    split at h
    case isTrue => cases h
    case isFalse hle =>
      have hle' : s.val ≤ c.val := by
        rw [Fin.lt_def] at hle
        omega
      obtain ⟨hfits, hv⟩ := solve_rest_eq_ok.mp h
      rw [U256.saturating_sub_val, ← hside] at hfits hv
      exact
        { coordinate := by rw [huone]; exact uone.isLt
          width := by rw [hau]; exact au.isLt
          within := by rw [hside]; exact hle'
          fits := hfits
          value := hv }
  · intro h
    have hs : side a.val u.val < 2 ^ 256 := h.within.trans_lt c.isLt
    refine ⟨⟨_, h.coordinate⟩, rfl, ⟨_, h.width⟩, rfl,
      ⟨_, (Nat.div_le_self _ _).trans_lt h.width⟩, ⟨ONE_pos.ne', rfl⟩, ⟨_, hs⟩, rfl, ?_⟩
    rw [if_neg]
    · rw [solve_rest_eq_ok, U256.saturating_sub_val]
      exact ⟨h.fits, h.value⟩
    · rw [Fin.lt_def]
      exact h.within.not_gt

end Pegged

namespace PeggedPool

open Pegged

/-- The normalized coordinate of a balance. -/
def coordinate (balance initial : ℕ) : ℕ := balance * ONE / initial

theorem coordinate_mono {b b' : ℕ} (h : b ≤ b') (initial : ℕ) :
    coordinate b initial ≤ coordinate b' initial :=
  Nat.div_le_div_right (Nat.mul_le_mul_right ONE h)

/-- A coordinate reaches `u` exactly when the balance does in exact arithmetic. -/
theorem le_coordinate_iff {initial : ℕ} (hinitial : 0 < initial) (u balance : ℕ) :
    u ≤ coordinate balance initial ↔ u * initial ≤ balance * ONE :=
  Nat.le_div_iff_mul_le hinitial

/-- The coordinate of the input balance after `amount_in` more. -/
def coordinate_in (pool : PeggedPool) (n : Normalized) (amount_in : ℕ) : ℕ :=
  coordinate (n.x0.val + amount_in * pool.rate_in.val) pool.x0_init.val

/-- The coordinate of the output balance after `amount_out` less. -/
def coordinate_out (pool : PeggedPool) (n : Normalized) (amount_out : ℕ) : ℕ :=
  coordinate (n.y0.val - amount_out * pool.rate_out.val) pool.y0_init.val

/-- What normalizing the reserves establishes. -/
structure Pinned (pool : PeggedPool) (n : Normalized) : Prop where
  normalized : pool.normalized = .ok n
  x0_pos : 0 < pool.x0_init.val
  y0_pos : 0 < pool.y0_init.val
  x_fits : n.x0.val * ONE < 2 ^ 256
  y_fits : n.y0.val * ONE < 2 ^ 256
  u_fits : pool.coordinate_in n 0 * ONE < 2 ^ 256
  v_fits : pool.coordinate_out n 0 * ONE < 2 ^ 256
  invariant : n.invariant.val = Nat.sqrt (pool.coordinate_in n 0 * ONE) +
    Nat.sqrt (pool.coordinate_out n 0 * ONE) +
    pool.linear_width.val * (pool.coordinate_in n 0 + pool.coordinate_out n 0) / ONE

/-- The pools a decoded strategy is priced on. -/
def InDomain (pool : PeggedPool) : Prop :=
  ∃ token_in token_out balance_in balance_out params, is_pegged_in_domain params ∧
    pool = from_reserves_and_params token_in token_out balance_in balance_out params

theorem InDomain.rate_out_pos {pool : PeggedPool} (h : pool.InDomain) :
    0 < pool.rate_out.val := by
  obtain ⟨token_in, token_out, balance_in, balance_out, params, hdomain, rfl⟩ := h
  simp only [is_pegged_in_domain, decide_eq_true_eq] at hdomain
  obtain ⟨-, -, hlt, hgt, -⟩ := hdomain
  have hrate : (from_reserves_and_params token_in token_out balance_in balance_out params).rate_out =
      if token_in < token_out then params.rate_gt else params.rate_lt := by
    by_cases horder : token_in < token_out <;> simp [from_reserves_and_params, horder]
  rw [hrate]
  refine Nat.pos_of_ne_zero fun h => ?_
  split at h
  · exact hgt (U256.eq_zero_iff.mpr h)
  · exact hlt (U256.eq_zero_iff.mpr h)

/-- A pool from reserves and parameters is pinned wherever it normalizes. -/
theorem pinned_of_params {token_in token_out : Address} {balance_in balance_out : U256}
    {params : PeggedParams} {n : Normalized}
    (h : (from_reserves_and_params token_in token_out balance_in balance_out params).normalized =
      .ok n) :
    (from_reserves_and_params token_in token_out balance_in balance_out params).Pinned n := by
  -- The orientation of the pair only decides which parameter is on which side.
  generalize hpool : from_reserves_and_params token_in token_out balance_in balance_out params =
    pool at h ⊢
  have hnormalize : normalize balance_in balance_out pool.rate_in pool.rate_out pool.x0_init
      pool.y0_init pool.linear_width = .ok n := by
    rw [← h, ← hpool]
    rfl
  unfold normalize pegged_invariant_from_reserves pegged_invariant at hnormalize
  split at hnormalize
  case isTrue => cases hnormalize
  case isFalse =>
    simp only [Except.bind_eq_ok, cmul_eq_ok, cadd_eq_ok, fdiv_eq_ok, one27_val, pure, Except.pure,
      Except.ok.injEq] at hnormalize
    obtain ⟨x, hx, y, hy, inv, ⟨xone, hxone, u, ⟨hx0, hu⟩, yone, hyone, v, ⟨hy0, hv⟩,
      uone, huone, vone, hvone, sum, hsum, asum, hasum, lin, ⟨-, hlin⟩, roots, hroots, hinv⟩, rfl⟩ := hnormalize
    have hcu : pool.coordinate_in ⟨x, y, inv⟩ 0 = u.val := by
      simp [coordinate_in, coordinate, hxone, hu]
    have hcv : pool.coordinate_out ⟨x, y, inv⟩ 0 = v.val := by
      simp [coordinate_out, coordinate, hyone, hv]
    exact
      { normalized := h
        x0_pos := Nat.pos_of_ne_zero hx0
        y0_pos := Nat.pos_of_ne_zero hy0
        x_fits := by rw [hxone]; exact xone.isLt
        y_fits := by rw [hyone]; exact yone.isLt
        u_fits := by rw [hcu, huone]; exact uone.isLt
        v_fits := by rw [hcv, hvone]; exact vone.isLt
        invariant := by
          rw [hcu, hcv, huone, hvone, hsum, hasum, hlin, ← hinv, ← hroots]
          rfl }

theorem quote_exact_in_eq_ok {pool : PeggedPool} {n : Normalized} (hpin : pool.Pinned n)
    {a y : U256} :
    pool.quote_exact_in a = .ok y ↔
      (n.x0.val + a.val * pool.rate_in.val) * ONE < 2 ^ 256 ∧ pool.rate_out.val ≠ 0 ∧
      ∃ v, Solves (pool.coordinate_in n a.val) pool.linear_width.val n.invariant.val v ∧
        v * pool.y0_init.val ≤ n.y0.val * ONE ∧
        (n.y0.val - v * pool.y0_init.val ⌈/⌉ ONE) / pool.rate_out.val = y.val := by
  unfold quote_exact_in
  rw [hpin.normalized]
  simp only [Except.bind_eq_ok, cmul_eq_ok, cadd_eq_ok, fdiv_eq_ok, ceil_div_eq_ok, ok_or_eq_ok,
    U256.checked_sub_eq_some, one27_val, Except.ok.injEq, solve_eq_ok]
  have hone := ONE_pos
  constructor
  · rintro ⟨_, rfl, p, hp, x1, hx1, x1one, hx1one, u, ⟨-, hu⟩, v, hv, prod, hprod, y1, ⟨-, hy1⟩, d,
      hd, hout, hy⟩
    rw [← hp] at hx1
    rw [← hx1] at hx1one
    rw [← hx1one] at hu
    have hu' : pool.coordinate_in n a.val = u.val := hu
    have hle : prod.val ⌈/⌉ ONE ≤ n.y0.val := by omega
    refine ⟨by rw [hx1one]; exact x1one.isLt, hout, v.val, by rw [hu']; exact hv, ?_, ?_⟩
    · rw [hprod]
      exact ((ceilDiv_le_iff_le_mul hone).mp hle).trans_eq (Nat.mul_comm _ _)
    · rw [hprod, hy1, ← hy]
      congr 1
      omega
  · rintro ⟨hfits, hout, v, hv, hle, hy⟩
    have hvy := hpin.y_fits
    have hx1 : n.x0.val + a.val * pool.rate_in.val < 2 ^ 256 :=
      (Nat.le_mul_of_pos_right _ hone).trans_lt hfits
    have hvlt : v < 2 ^ 256 := (Nat.le_mul_of_pos_right _ hpin.y0_pos).trans_lt (hle.trans_lt hvy)
    have hceil : v * pool.y0_init.val ⌈/⌉ ONE ≤ n.y0.val :=
      (ceilDiv_le_iff_le_mul hone).mpr (hle.trans_eq (Nat.mul_comm _ _))
    have hn := n.y0.isLt
    exact ⟨n, rfl, ⟨_, (Nat.le_add_left _ _).trans_lt hx1⟩, rfl, ⟨_, hx1⟩, rfl, ⟨_, hfits⟩, rfl,
      ⟨_, (Nat.div_le_self _ _).trans_lt hfits⟩, ⟨hpin.x0_pos.ne', rfl⟩, ⟨v, hvlt⟩, hv,
      ⟨_, hle.trans_lt hvy⟩, rfl, ⟨_, hceil.trans_lt hn⟩, ⟨hone.ne', rfl⟩,
      ⟨n.y0.val - v * pool.y0_init.val ⌈/⌉ ONE, by omega⟩, by simp only; omega, hout, hy⟩

theorem quote_exact_out_eq_ok {pool : PeggedPool} {n : Normalized} (hpin : pool.Pinned n)
    {o i : U256} :
    pool.quote_exact_out o = .ok i ↔
      o.val * pool.rate_out.val ≤ n.y0.val ∧ pool.rate_in.val ≠ 0 ∧
      ∃ u, Solves (pool.coordinate_out n o.val) pool.linear_width.val n.invariant.val u ∧
        u * pool.x0_init.val < 2 ^ 256 ∧ n.x0.val ≤ u * pool.x0_init.val ⌈/⌉ ONE ∧
        (u * pool.x0_init.val ⌈/⌉ ONE - n.x0.val) ⌈/⌉ pool.rate_in.val = i.val := by
  unfold quote_exact_out
  rw [hpin.normalized]
  simp only [Except.bind_eq_ok, cmul_eq_ok, fdiv_eq_ok, ceil_div_eq_ok, ok_or_eq_ok,
    U256.checked_sub_eq_some, one27_val, Except.ok.injEq, solve_eq_ok]
  have hone := ONE_pos
  constructor
  · rintro ⟨_, rfl, p, hp, y1, hy1, y1one, hy1one, v, ⟨-, hv⟩, u, hu, prod, hprod, x1, ⟨-, hx1⟩, d,
      hd, hin, hi⟩
    have hy1' : y1.val = n.y0.val - o.val * pool.rate_out.val := by omega
    rw [hy1'] at hy1one
    rw [← hy1one] at hv
    have hv' : pool.coordinate_out n o.val = v.val := hv
    refine ⟨by omega, hin, u.val, by rw [hv']; exact hu, by rw [hprod]; exact prod.isLt, ?_, ?_⟩
    · rw [hprod]
      omega
    · rw [hprod, hx1, ← hi]
      congr 1
      omega
  · rintro ⟨hle, hin, u, hu, hfits, hx, hi⟩
    have hy1 : (n.y0.val - o.val * pool.rate_out.val) * ONE < 2 ^ 256 :=
      (Nat.mul_le_mul_right _ (Nat.sub_le _ _)).trans_lt hpin.y_fits
    have hult : u < 2 ^ 256 := (Nat.le_mul_of_pos_right _ hpin.x0_pos).trans_lt hfits
    have hceil : u * pool.x0_init.val ⌈/⌉ ONE ≤ u * pool.x0_init.val :=
      (ceilDiv_le_iff_le_mul hone).mpr (Nat.le_mul_of_pos_left _ hone)
    have hn := n.y0.isLt
    exact ⟨n, rfl, ⟨_, hle.trans_lt hn⟩, rfl,
      ⟨n.y0.val - o.val * pool.rate_out.val, by omega⟩, by simp only; omega, ⟨_, hy1⟩, rfl,
      ⟨_, (Nat.div_le_self _ _).trans_lt hy1⟩, ⟨hpin.y0_pos.ne', rfl⟩, ⟨u, hult⟩, hu, ⟨_, hfits⟩, rfl,
      ⟨_, hceil.trans_lt hfits⟩, ⟨hone.ne', rfl⟩,
      ⟨u * pool.x0_init.val ⌈/⌉ ONE - n.x0.val, by omega⟩, by simp only; omega, hin, hi⟩

end PeggedPool

end Solvent
