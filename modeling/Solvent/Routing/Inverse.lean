import Mathlib
import Solvent.Routing.ExactIn
import Solvent.Routing.Levels

/-! # Exact-in and exact-out of a candidate

    On constant product the two quotes invert each other up to rounding: the
    input asked for an output is the threshold from which an accepted input
    reaches it. The threshold itself is not always accepted, because exact-in
    multiplies by the output reserve and exact-out by the input reserve, and only
    one of the two products may overflow.
-/

namespace Solvent

/-- The input that pays for an output reaches it. -/
theorem XycPool.quote_in_out {pool : XycPool} {o x y : U256}
    (hout : pool.quote_exact_out o = .ok x) (hin : pool.quote_exact_in x = .ok y) : o ≤ y := by
  obtain ⟨-, hlt, -, hx⟩ := quote_exact_out_eq_ok.mp hout
  rw [Fin.le_def, le_quote_iff hin]
  -- `x` covers `o·balance_in` at a price of `balance_out − o` a unit.
  have hcover : o.val * pool.balance_in.val ≤ (pool.balance_out.val - o.val) * x.val :=
    (ceilDiv_le_iff_le_mul (by omega)).mp hx.le
  obtain ⟨r, hr⟩ : ∃ r, pool.balance_out.val = o.val + r := ⟨pool.balance_out.val - o.val, by omega⟩
  have hsub : pool.balance_out.val - o.val = r := by omega
  rw [hsub] at hcover
  rw [hr]
  nlinarith

theorem XycPool.quote_lt_reserve {pool : XycPool} {a y : U256}
    (h : pool.quote_exact_in a = .ok y) : y < pool.balance_out := by
  obtain ⟨⟨hin, hout⟩, -, -, hy⟩ := quote_exact_in_eq_ok.mp h
  rw [Fin.lt_def, ← hy, Nat.div_lt_iff_lt_mul (by omega)]
  have hpos : 0 < pool.balance_out.val * pool.balance_in.val :=
    Nat.mul_pos (Nat.pos_of_ne_zero hout) (Nat.pos_of_ne_zero hin)
  calc a.val * pool.balance_out.val
      < pool.balance_out.val * pool.balance_in.val + a.val * pool.balance_out.val := by omega
    _ = pool.balance_out.val * (pool.balance_in.val + a.val) := by ring

/-- Exact-out asks for the smallest accepted input that pays, and what exact-in
    pays grows with the input and never drains `reserve`. -/
structure InverseUpToRounding (c : Candidate) (reserve : U256) : Prop where
  /-- The asked input is the threshold among accepted inputs. -/
  threshold : ∀ {o i}, c.net_quote_exact_out o = .ok i → ∀ {a y},
    c.net_quote_exact_in a = .ok y → (o ≤ y ↔ i ≤ a)
  /-- Where the asked input is accepted it is the least that reaches the output. -/
  least : ∀ {o i y}, c.net_quote_exact_out o = .ok i → c.net_quote_exact_in i = .ok y →
    IsLeast {a | ∃ y, c.net_quote_exact_in a = .ok y ∧ o ≤ y} i
  mono : ∀ {a b x y}, a ≤ b → c.net_quote_exact_in a = .ok x → c.net_quote_exact_in b = .ok y →
    x ≤ y
  below_reserve : ∀ {a y}, c.net_quote_exact_in a = .ok y → y < reserve
  down_closed : ∀ {a b y}, c.net_quote_exact_in b = .ok y → a ≤ b →
    ∃ x, c.net_quote_exact_in a = .ok x
  fees : ∀ {n g n'}, gross_up_by_fees n c.fees_in_bps = .ok g →
    shrink_by_fees g c.fees_in_bps = .ok n' → n' = n

namespace Candidate

/-- The constant-product pool a candidate prices on: its own, or the virtual one
    of a concentrated pool. -/
def PricesOn (c : Candidate) (p : XycPool) : Prop :=
  c.pool = .Xyc p ∨ ∃ v, c.pool = .Concentrate v ∧ v.virtual_pool = .ok p

theorem PricesOn.quotes {c : Candidate} {p : XycPool} (h : c.PricesOn p) :
    c.pool.quote_exact_in = p.quote_exact_in ∧ c.pool.quote_exact_out = p.quote_exact_out ∧
      ∀ q, c.pool ≠ .Pegged q := by
  rcases h with hpool | ⟨v, hpool, hvirtual⟩
  · rw [hpool]
    exact ⟨rfl, rfl, nofun⟩
  · rw [hpool]
    refine ⟨?_, ?_, nofun⟩
    · funext a
      show (v.virtual_pool >>= fun p => p.quote_exact_in a) = _
      rw [hvirtual]
      rfl
    · funext o
      show (v.virtual_pool >>= fun p => p.quote_exact_out o) = _
      rw [hvirtual]
      rfl

/-- The gross input that pays for an output reaches it, where it is accepted. -/
theorem PricesOn.reaches {c : Candidate} {p : XycPool} (h : c.PricesOn p) {o i y : U256}
    (hout : c.net_quote_exact_out o = .ok i) (hin : c.net_quote_exact_in i = .ok y) : o ≤ y := by
  obtain ⟨hquote_in, hquote_out, -⟩ := h.quotes
  obtain ⟨x, hx, hgross⟩ := Except.bind_eq_ok.mp hout
  obtain ⟨n, hshrink, hy⟩ := Except.bind_eq_ok.mp hin
  -- Shrinking undoes the gross-up exactly.
  obtain rfl := shrink_gross_up hgross hshrink
  rw [hquote_out] at hx
  rw [hquote_in] at hy
  exact XycPool.quote_in_out hx hy

/-- **Exact-out inverts exact-in up to rounding** on every constant-product pool,
    plain or virtual, under any stack of fees. -/
theorem inverse_up_to_rounding (c : Candidate) (p : XycPool) (h : c.PricesOn p) :
    InverseUpToRounding c p.balance_out := by
  obtain ⟨hquote_in, hquote_out, hpegged⟩ := h.quotes
  have hinverse := leastInverse hpegged
  have hmono : ∀ {a b x y}, a ≤ b → c.net_quote_exact_in a = .ok x →
      c.net_quote_exact_in b = .ok y → x ≤ y := by
    intro a b x y hab hx hy
    obtain ⟨x', hx', hle⟩ := hinverse.down hy hab
    obtain rfl := Except.ok.inj (hx.symm.trans hx')
    exact hle
  have hthreshold : ∀ {o i}, c.net_quote_exact_out o = .ok i → ∀ {a y},
      c.net_quote_exact_in a = .ok y → (o ≤ y ↔ i ≤ a) := by
    intro o i hout a y hy
    constructor
    · intro hreach
      by_cases hzero : o = 0
      · -- Nothing is asked for nothing.
        subst hzero
        obtain ⟨x, hx, hgross⟩ := Except.bind_eq_ok.mp hout
        rw [hquote_out] at hx
        obtain ⟨-, -, -, hval⟩ := XycPool.quote_exact_out_eq_ok.mp hx
        have hx0 : x = 0 := by
          refine U256.eq_zero_iff.mpr ?_
          rw [← hval]
          simp
        rw [hx0] at hgross
        rw [gross_up_zero hgross]
        exact Fin.zero_le _
      · obtain ⟨b, hb, hle⟩ := hinverse.least hy hzero hreach
        obtain rfl := Except.ok.inj (hout.symm.trans hb)
        exact hle
    · intro hle
      obtain ⟨x, hx, hxy⟩ := hinverse.down hy hle
      exact (h.reaches hout hx).trans hxy
  exact
    { threshold := hthreshold
      least := fun {o i y} hout hin => by
        refine ⟨⟨y, hin, h.reaches hout hin⟩, ?_⟩
        rintro a ⟨x, hx, hreach⟩
        exact (hthreshold hout hx).mp hreach
      mono := hmono
      below_reserve := fun {a y} hy => by
        obtain ⟨n, -, hquote⟩ := Except.bind_eq_ok.mp hy
        rw [hquote_in] at hquote
        exact XycPool.quote_lt_reserve hquote
      down_closed := fun {a b y} hy hab => by
        obtain ⟨x, hx, -⟩ := hinverse.down hy hab
        exact ⟨x, hx⟩
      fees := shrink_gross_up }

theorem inverse_up_to_rounding_sample :
    InverseUpToRounding sample_venue 1000 :=
  inverse_up_to_rounding sample_venue { balance_in := 1000, balance_out := 1000 } (.inl rfl)

end Candidate

/-! ## Stepping back below a cap -/

/-- A fee takes no more off one unit less, so it leaves at most one unit less. -/
theorem fee_in_le_succ {a b n m : U256} {f : U32} (hn : apply_flat_fee_in a f = .ok n)
    (hm : apply_flat_fee_in b f = .ok m) (hab : a.val ≤ b.val + 1) : n.val ≤ m.val + 1 := by
  rcases Nat.lt_or_ge b.val a.val with hlt | hle
  · obtain ⟨-, hn'⟩ := fee_in_eq_ok.mp hn
    obtain ⟨-, hm'⟩ := fee_in_eq_ok.mp hm
    have hcut : (b.val * f.val) ⌈/⌉ 10 ^ 9 ≤ (a.val * f.val) ⌈/⌉ 10 ^ 9 :=
      (gc_mul_ceilDiv (by norm_num)).monotone_l (Nat.mul_le_mul_right _ hlt.le)
    omega
  · obtain ⟨x, hx, hxm⟩ := (fee_leastInverse f).down hm (Fin.le_def.mpr hle)
    obtain rfl := Except.ok.inj (hn.symm.trans hx)
    have hval := Fin.le_def.mp hxm
    omega

theorem shrink_le_succ {fees : List U32} {a b n m : U256} (hn : shrink_by_fees a fees = .ok n)
    (hm : shrink_by_fees b fees = .ok m) (hab : a.val ≤ b.val + 1) : n.val ≤ m.val + 1 := by
  induction fees generalizing a b with
  | nil =>
    cases hn
    cases hm
    exact hab
  | cons f fees ih =>
    rw [shrink_cons, Except.bind_eq_ok] at hn hm
    obtain ⟨n', hn', hrest⟩ := hn
    obtain ⟨m', hm', hrest'⟩ := hm
    exact ih hrest hrest' (fee_in_le_succ hn' hm' hab)

/-- One gross unit less is one net unit less at a grossed-up amount. -/
theorem shrink_gross_up_pred {fees : List U32} {x g : U256}
    (hg : gross_up_by_fees x fees = .ok g) (hn : shrink_by_fees g fees = .ok x) :
    shrink_by_fees (g.saturating_sub 1) fees = .ok (x.saturating_sub 1) := by
  have hone : (1 : U256).val = 1 := rfl
  have hle : g.saturating_sub 1 ≤ g := by
    rw [Fin.le_def, U256.saturating_sub_val]
    omega
  obtain ⟨m, hm, hmx⟩ := (fees_leastInverse fees).down hn hle
  have hval := U256.saturating_sub_val g 1
  have hsucc := shrink_le_succ hn hm (by omega)
  have hmx' := Fin.le_def.mp hmx
  -- The net amount moves: otherwise the gross amount would not be the least for it.
  have hmoves : x ≠ 0 → m.val ≠ x.val := by
    intro hx hsame
    have hxm : x ≤ m := by
      rw [Fin.le_def]
      omega
    obtain ⟨b, hb, hble⟩ := (fees_leastInverse fees).least hm hx hxm
    obtain rfl := Except.ok.inj (hg.symm.trans hb)
    have hg0 := (fees_leastInverse fees).ne_zero hg hx
    have hg0' : g.val ≠ 0 := fun h => hg0 (U256.eq_zero_iff.mpr h)
    have hble' := Fin.le_def.mp hble
    omega
  have hm' : m = x.saturating_sub 1 := by
    rw [Fin.ext_iff, U256.saturating_sub_val]
    by_cases hx : x = 0
    · have hx0 := U256.eq_zero_iff.mp hx
      omega
    · have hne := hmoves hx
      omega
  rw [← hm']
  exact hm

theorem saturating_pred_lt {x : U256} (hx : x ≠ 0) : x.saturating_sub 1 < x := by
  have hx0 : x.val ≠ 0 := fun h => hx (U256.eq_zero_iff.mpr h)
  have hone : (1 : U256).val = 1 := rfl
  rw [Fin.lt_def, U256.saturating_sub_val]
  omega

/-- Without the fees, one unit below the input asked for `max_out` no longer buys
    more, where that input itself does. -/
def CurvePool.StepsBack (pool : CurvePool) (max_out : U256) : Prop :=
  ∀ x y z, pool.quote_exact_out max_out = .ok x → pool.quote_exact_in x = .ok y → max_out < y →
    pool.quote_exact_in (x.saturating_sub 1) = .ok z → z ≤ max_out

/-- On constant product the input asked is the least that buys the output. -/
theorem XycPool.quote_in_pred {pool : XycPool} {o x z : U256}
    (hout : pool.quote_exact_out o = .ok x)
    (hin : pool.quote_exact_in (x.saturating_sub 1) = .ok z) : z ≤ o := by
  by_contra hover
  have hlt : o < z := not_le.mp hover
  by_cases hx : x = 0
  · -- Nothing is asked, and nothing buys nothing.
    subst hx
    obtain ⟨-, -, -, hval⟩ := quote_exact_in_eq_ok.mp hin
    have hzero : ((0 : U256).saturating_sub 1).val = 0 := rfl
    rw [hzero, Nat.zero_mul, Nat.zero_div] at hval
    rw [U256.eq_zero_iff.mpr hval.symm] at hlt
    exact absurd hlt (Fin.not_lt_zero o)
  · by_cases ho : o = 0
    · subst ho
      obtain ⟨-, -, -, hval⟩ := quote_exact_out_eq_ok.mp hout
      refine hx (U256.eq_zero_iff.mpr ?_)
      rw [← hval]
      simp
    · obtain ⟨b, hb, hble⟩ := pool.leastInverse.least hin ho hlt.le
      obtain rfl := Except.ok.inj (hout.symm.trans hb)
      exact absurd hble (not_le.mpr (saturating_pred_lt hx))

theorem CurvePool.stepsBack_of_constant_product {pool : CurvePool} (h : ∀ p, pool ≠ .Pegged p)
    (max_out : U256) : pool.StepsBack max_out := by
  intro x y z hx _ _ hz
  match pool with
  | .Xyc p => exact p.quote_in_pred hx hz
  | .Concentrate v =>
    obtain ⟨p, hp, hout⟩ := Except.bind_eq_ok.mp hx
    obtain ⟨p', hp', hin⟩ := Except.bind_eq_ok.mp hz
    obtain rfl := Except.ok.inj (hp.symm.trans hp')
    exact p.quote_in_pred hout hin
  | .Pegged p => exact absurd rfl (h p)

namespace Candidate

end Candidate

/-- A pegged venue where one unit of input moves two thousand of output, or none. -/
def coarse_venue : Candidate :=
  { sample_venue with
    pool := .from_curve
      (.Pegged {
        x0 := ⟨10 ^ 27, ten_pow_27_lt⟩
        y0 := ⟨10 ^ 30, ten_pow_30_lt⟩
        linear_width := 0
        rate_lt := 1
        rate_gt := 1 })
      1 2 ⟨10 ^ 27 + 2, ten_pow_27_add_two_lt⟩ ⟨10 ^ 30 + 500, ten_pow_30_add_lt⟩
    fees_in_bps := [] }

/-- A venue whose output reserve dwarfs its input reserve, without fees. -/
def skewed_venue : Candidate :=
  { sample_venue with
    pool := .Xyc { balance_in := 1, balance_out := 2 ^ 255 }
    fees_in_bps := [] }

/-- A venue concentrated on a narrow range: 1000 real units of each token stand
    for about twenty times as many virtual ones. -/
def narrow_venue : Candidate :=
  { sample_venue with
    pool := .Concentrate (.from_reserves_and_bounds 1 2 1000 1000 (9 * 10 ^ 17) (11 * 10 ^ 17))
    fees_in_bps := [] }

/-- The input asked for an output need not be accepted, because it overflows the
    product with the output reserve; and exact-in of a concentrated pool is bounded
    by the virtual reserve only. -/
theorem inverse_not_exact :
    (∃ i, skewed_venue.net_quote_exact_out (2 ^ 255 - 1) = .ok i ∧
      ¬IsLeast {a | ∃ y, skewed_venue.net_quote_exact_in a = .ok y ∧ 2 ^ 255 - 1 ≤ y} i) ∧
    ∃ y, narrow_venue.net_quote_exact_in 100000 = .ok y ∧ 1000 ≤ y := by
  constructor
  · refine ⟨2 ^ 255 - 1, by decide +kernel, ?_⟩
    rintro ⟨⟨y, hy, -⟩, -⟩
    have hoverflow : ¬is_ok (skewed_venue.net_quote_exact_in (2 ^ 255 - 1)) := by decide +kernel
    rw [hy] at hoverflow
    exact hoverflow rfl
  · have hok : is_ok (narrow_venue.net_quote_exact_in 100000) ∧
        (narrow_venue.net_quote_exact_in 100000).toOption.any (1000 ≤ ·) := by decide +kernel
    obtain ⟨y, hy⟩ := is_ok_iff.mp hok.1
    refine ⟨y, hy, ?_⟩
    have hreach := hok.2
    rw [hy] at hreach
    simpa [Except.toOption] using hreach

end Solvent
