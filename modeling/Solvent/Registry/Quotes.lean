import Mathlib
import Solvent.Framework.LeastInverse
import Solvent.Registry.Curves

/-! # What the quotes compute

    One lemma per operation says which natural number a successful quote is.
    From these, on constant-product reserves with any stacked flat fees:

    * exact-in is monotone and priced on a down-closed set of inputs,
    * exact-out is its least inverse: an input prices `y ≥ o` only if exact-out
      prices `o` at no more than that input.

    The last part is about levels: at twice the greatest word no curve fills
    anything, so a bracket always has an under-filling side.
-/

namespace Solvent

/-! ## Checked arithmetic -/

@[simp] theorem ok_or_eq_ok {α : Type} {o : Option α} {e : CurveError} {a : α} :
    ok_or o e = .ok a ↔ o = some a := by
  cases o <;> simp [ok_or]

@[simp] theorem is_ok_iff {α : Type} {r : Except CurveError α} :
    is_ok r = true ↔ ∃ a, r = .ok a := by
  cases r <;> simp [is_ok]

theorem cmul_eq_ok {a b c : U256} : cmul a b = .ok c ↔ a.val * b.val = c.val := by
  rw [cmul, ok_or_eq_ok, U256.checked_mul_eq_some]

theorem cadd_eq_ok {a b c : U256} : cadd a b = .ok c ↔ a.val + b.val = c.val := by
  rw [cadd, ok_or_eq_ok, U256.checked_add_eq_some]

theorem fdiv_eq_ok {a b c : U256} : fdiv a b = .ok c ↔ b.val ≠ 0 ∧ a.val / b.val = c.val := by
  unfold fdiv
  by_cases hb : b = 0
  · simp [hb]
  · have hb' : b.val ≠ 0 := fun h => hb (U256.eq_zero_iff.2 h)
    simp [hb, hb', Fin.ext_iff]

/-- Division rounded up is the ceiling division of the order library. -/
theorem ceil_div_eq_ok {a b c : U256} :
    ceil_div a b = .ok c ↔ b.val ≠ 0 ∧ a.val ⌈/⌉ b.val = c.val := by
  unfold ceil_div
  by_cases hb : b = 0
  · simp [hb]
  · have hb' : b.val ≠ 0 := fun h => hb (U256.eq_zero_iff.2 h)
    rw [if_neg hb]
    by_cases ha : a = 0
    · subst ha
      have hzero : (0 : U256).val ⌈/⌉ b.val = 0 := by simp
      rw [dif_pos rfl, hzero]
      simp only [Except.ok.injEq, Fin.ext_iff, ne_eq, hb', not_false_eq_true, true_and]
      rfl
    · have ha' : a.val ≠ 0 := fun h => ha (U256.eq_zero_iff.2 h)
      have hceil : a.val ⌈/⌉ b.val = (a.val - 1) / b.val + 1 := by
        rw [Nat.ceilDiv_eq_add_pred_div]
        have hsplit : a.val + b.val - 1 = (a.val - 1) + b.val := by omega
        rw [hsplit, Nat.add_div_right _ (Nat.pos_of_ne_zero hb')]
      rw [dif_neg ha, hceil]
      simp only [Except.ok.injEq, Fin.ext_iff, ne_eq, hb', not_false_eq_true, true_and]

/-! ## Flat fees -/

@[simp] theorem bps_denominator_val : bps_denominator.val = 10 ^ 9 := rfl

@[simp] theorem to_word_val (n : U32) : (U32.to_word n).val = n.val := rfl

/-- The input left after one fee, where the cut does not overflow. -/
theorem fee_in_eq_ok {amount net : U256} {f : U32} :
    apply_flat_fee_in amount f = .ok net ↔
      amount.val * f.val < 2 ^ 256 ∧
        (amount.val * f.val) ⌈/⌉ 10 ^ 9 + net.val = amount.val := by
  unfold apply_flat_fee_in
  simp only [Except.bind_eq_ok, cmul_eq_ok, ceil_div_eq_ok, ok_or_eq_ok,
    U256.checked_sub_eq_some, to_word_val, bps_denominator_val]
  constructor
  · rintro ⟨p, hp, cut, ⟨-, hcut⟩, hnet⟩
    rw [hp]
    exact ⟨p.isLt, by rw [hcut]; exact hnet⟩
  · rintro ⟨hlt, hnet⟩
    have hcut : (amount.val * f.val) ⌈/⌉ 10 ^ 9 < 2 ^ 256 := by omega
    exact ⟨⟨_, hlt⟩, rfl, ⟨_, hcut⟩, ⟨by norm_num, rfl⟩, hnet⟩

/-- The gross input that covers one fee. -/
theorem fee_out_eq_ok {amount gross : U256} {f : U32} :
    apply_flat_fee_out amount f = .ok gross ↔
      f.val < 10 ^ 9 ∧ amount.val * f.val < 2 ^ 256 ∧
        amount.val + (amount.val * f.val) ⌈/⌉ (10 ^ 9 - f.val) = gross.val := by
  unfold apply_flat_fee_out
  simp only [Except.bind_eq_ok, cmul_eq_ok, ceil_div_eq_ok, ok_or_eq_ok, cadd_eq_ok,
    Option.filter_eq_some_iff, U256.checked_sub_eq_some, to_word_val, bps_denominator_val]
  constructor
  · rintro ⟨d, ⟨hd, hne⟩, p, hp, cut, ⟨hd0, hcut⟩, hgross⟩
    have hden : 10 ^ 9 - f.val = d.val := by omega
    rw [hp, hden, hcut]
    exact ⟨by omega, p.isLt, hgross⟩
  · rintro ⟨hf, hlt, hgross⟩
    have hcut : (amount.val * f.val) ⌈/⌉ (10 ^ 9 - f.val) < 2 ^ 256 := by
      have := gross.isLt
      omega
    have hd : 10 ^ 9 - f.val < 2 ^ 256 := by omega
    refine ⟨⟨10 ^ 9 - f.val, hd⟩, ⟨by simp only; omega, ?_⟩,
      ⟨_, hlt⟩, rfl, ⟨_, hcut⟩, ⟨by simp only; omega, rfl⟩, hgross⟩
    simp only [ne_eq, decide_not, Bool.not_eq_eq_eq_not, Bool.not_true, decide_eq_false_iff_not]
    intro h0
    have := congrArg Fin.val h0
    simp only [Fin.val_zero] at this
    omega

/-- What one fee leaves reaches `x` exactly when the gross input covers it. -/
theorem le_fee_in_iff {a net : U256} {f : U32} (h : apply_flat_fee_in a f = .ok net)
    (hf : f.val ≤ 10 ^ 9) (x : ℕ) : x ≤ net.val ↔ x * 10 ^ 9 ≤ a.val * (10 ^ 9 - f.val) := by
  obtain ⟨-, hnet⟩ := fee_in_eq_ok.1 h
  have hcut : (a.val * f.val) ⌈/⌉ 10 ^ 9 ≤ a.val - x ↔ a.val * f.val ≤ 10 ^ 9 * (a.val - x) :=
    ceilDiv_le_iff_le_mul (by norm_num)
  obtain ⟨r, hr⟩ : ∃ r, 10 ^ 9 = f.val + r := ⟨10 ^ 9 - f.val, by omega⟩
  have hsub : 10 ^ 9 - f.val = r := by omega
  rw [hsub]
  constructor
  · intro hx
    obtain ⟨d, hd⟩ : ∃ d, a.val = x + d := ⟨a.val - x, by omega⟩
    have hle := hcut.1 (by omega)
    rw [hr, hd, Nat.add_sub_cancel_left] at hle
    rw [hr, hd]
    nlinarith
  · intro hx
    have hxa : x ≤ a.val := by
      rw [hr] at hx
      by_contra hlt
      nlinarith
    obtain ⟨d, hd⟩ : ∃ d, a.val = x + d := ⟨a.val - x, by omega⟩
    have hle : (a.val * f.val) ⌈/⌉ 10 ^ 9 ≤ a.val - x := by
      rw [hcut, hr, hd, Nat.add_sub_cancel_left]
      rw [hr, hd] at hx
      nlinarith
    omega

/-- The grossed-up input is within `a` exactly when `a` covers `x` and the fee. -/
theorem fee_out_le_iff {x g : U256} {f : U32} (h : apply_flat_fee_out x f = .ok g) (a : ℕ) :
    g.val ≤ a ↔ x.val * 10 ^ 9 ≤ a * (10 ^ 9 - f.val) := by
  obtain ⟨hf, -, hg⟩ := fee_out_eq_ok.1 h
  have hcut : (x.val * f.val) ⌈/⌉ (10 ^ 9 - f.val) ≤ a - x.val ↔
      x.val * f.val ≤ (10 ^ 9 - f.val) * (a - x.val) :=
    ceilDiv_le_iff_le_mul (by omega)
  obtain ⟨r, hr⟩ : ∃ r, 10 ^ 9 = f.val + r := ⟨10 ^ 9 - f.val, by omega⟩
  have hsub : 10 ^ 9 - f.val = r := by omega
  rw [hsub] at hcut hg ⊢
  constructor
  · intro ha
    obtain ⟨d, hd⟩ : ∃ d, a = x.val + d := ⟨a - x.val, by omega⟩
    have hle := hcut.1 (by omega)
    rw [hd, Nat.add_sub_cancel_left] at hle
    rw [hr, hd]
    nlinarith
  · intro ha
    have hxa : x.val ≤ a := by
      rw [hr] at ha
      by_contra hlt
      nlinarith
    obtain ⟨d, hd⟩ : ∃ d, a = x.val + d := ⟨a - x.val, by omega⟩
    have hle : (x.val * f.val) ⌈/⌉ r ≤ a - x.val := by
      rw [hcut, hd, Nat.add_sub_cancel_left]
      rw [hr, hd] at ha
      nlinarith
    omega

/-- A fee of the whole input or more leaves nothing of any input it accepts. -/
theorem fee_in_of_full {a net : U256} {f : U32} (h : apply_flat_fee_in a f = .ok net)
    (hf : 10 ^ 9 ≤ f.val) : net.val = 0 := by
  obtain ⟨-, hnet⟩ := fee_in_eq_ok.1 h
  have hcut : a.val ≤ (a.val * f.val) ⌈/⌉ 10 ^ 9 := by
    by_contra hlt
    have hle : a.val * f.val ≤ 10 ^ 9 * (a.val - 1) :=
      (ceilDiv_le_iff_le_mul (by norm_num)).1 (by omega)
    have hpos : 1 ≤ a.val := by omega
    obtain ⟨d, hd⟩ : ∃ d, a.val = 1 + d := ⟨a.val - 1, by omega⟩
    rw [hd, Nat.add_sub_cancel_left] at hle
    nlinarith
  omega

/-- One flat fee and its gross-up. -/
theorem fee_leastInverse (f : U32) :
    LeastInverse (apply_flat_fee_in · f) (apply_flat_fee_out · f) where
  down {a b y} h hab := by
    have hab' : a.val ≤ b.val := hab
    obtain ⟨hlt, hy⟩ := fee_in_eq_ok.1 h
    have hlt' : a.val * f.val < 2 ^ 256 := (Nat.mul_le_mul_right _ hab').trans_lt hlt
    rcases Nat.lt_or_ge (10 ^ 9) f.val with hf | hf
    · -- Above 100% only the zero input is accepted.
      have hb0 : b.val = 0 := by
        by_contra hne
        have hle : b.val * f.val ≤ 10 ^ 9 * b.val :=
          (ceilDiv_le_iff_le_mul (by norm_num)).1 (by omega)
        have : b.val * (10 ^ 9 + 1) ≤ b.val * f.val := Nat.mul_le_mul_left _ hf
        omega
      have hab0 : a = b := Fin.ext (by omega)
      exact ⟨y, by rw [hab0]; exact h, le_rfl⟩
    · have hcut : (a.val * f.val) ⌈/⌉ 10 ^ 9 ≤ a.val := by
        rw [ceilDiv_le_iff_le_mul (by norm_num), Nat.mul_comm]
        exact Nat.mul_le_mul_right _ hf
      have hx : apply_flat_fee_in a f = .ok ⟨a.val - (a.val * f.val) ⌈/⌉ 10 ^ 9, by omega⟩ :=
        fee_in_eq_ok.2 ⟨hlt', by simp only; omega⟩
      refine ⟨_, hx, ?_⟩
      rw [Fin.le_def, le_fee_in_iff h hf]
      refine ((le_fee_in_iff hx hf _).1 le_rfl).trans ?_
      exact Nat.mul_le_mul_right _ hab'
  least {a x y} h hx hxy := by
    have hx0 : x.val ≠ 0 := fun h0 => hx (U256.eq_zero_iff.2 h0)
    have hxy' : x.val ≤ y.val := hxy
    have hf : f.val < 10 ^ 9 := by
      by_contra hge
      have := fee_in_of_full h (by omega)
      omega
    obtain ⟨hlt, hy⟩ := fee_in_eq_ok.1 h
    have hlt' : x.val * f.val < 2 ^ 256 :=
      (Nat.mul_le_mul_right _ (by omega : x.val ≤ a.val)).trans_lt hlt
    have hcover := (le_fee_in_iff h hf.le x.val).1 hxy'
    have hcut : (x.val * f.val) ⌈/⌉ (10 ^ 9 - f.val) ≤ a.val - x.val := by
      rw [ceilDiv_le_iff_le_mul (by omega)]
      obtain ⟨d, hd⟩ : ∃ d, a.val = x.val + d := ⟨a.val - x.val, by omega⟩
      obtain ⟨r, hr⟩ : ∃ r, 10 ^ 9 = f.val + r := ⟨10 ^ 9 - f.val, by omega⟩
      have hsub : 10 ^ 9 - f.val = r := by omega
      rw [hsub, hr, hd] at hcover
      rw [hsub, hd, Nat.add_sub_cancel_left]
      nlinarith
    have hg : apply_flat_fee_out x f =
        .ok ⟨x.val + (x.val * f.val) ⌈/⌉ (10 ^ 9 - f.val), by omega⟩ :=
      fee_out_eq_ok.2 ⟨hf, hlt', rfl⟩
    exact ⟨_, hg, (fee_out_le_iff hg a.val).2 hcover⟩
  ne_zero {x b} h hx := by
    obtain ⟨-, -, hb⟩ := fee_out_eq_ok.1 h
    intro hb0
    have hx0 : x.val ≠ 0 := fun h0 => hx (U256.eq_zero_iff.2 h0)
    have := U256.eq_zero_iff.1 hb0
    omega

/-- Grossing up and paying the fee returns the amount itself. -/
theorem fee_in_fee_out {x g n : U256} {f : U32} (hg : apply_flat_fee_out x f = .ok g)
    (hn : apply_flat_fee_in g f = .ok n) : n = x := by
  obtain ⟨hf, -, -⟩ := fee_out_eq_ok.1 hg
  have hcover := (fee_out_le_iff hg g.val).1 le_rfl
  have hge : x.val ≤ n.val := (le_fee_in_iff hn hf.le x.val).2 hcover
  -- One unit more would already be covered by one unit less of gross input.
  have hle : ¬ x.val + 1 ≤ n.val := by
    intro hlt
    have hover := (le_fee_in_iff hn hf.le (x.val + 1)).1 hlt
    have hless : ¬ g.val ≤ g.val - 1 := by
      intro hg0
      have hg0' : g.val = 0 := by omega
      rw [hg0', Nat.zero_mul] at hover
      omega
    rw [fee_out_le_iff hg] at hless
    have hstep : g.val * (10 ^ 9 - f.val) ≤ (g.val - 1) * (10 ^ 9 - f.val) + 10 ^ 9 := by
      have hpred : g.val ≤ (g.val - 1) + 1 := by omega
      calc g.val * (10 ^ 9 - f.val) ≤ ((g.val - 1) + 1) * (10 ^ 9 - f.val) :=
            Nat.mul_le_mul_right _ hpred
        _ = (g.val - 1) * (10 ^ 9 - f.val) + (10 ^ 9 - f.val) := by ring
        _ ≤ (g.val - 1) * (10 ^ 9 - f.val) + 10 ^ 9 := by omega
    omega
  exact Fin.ext (by omega)

@[simp] theorem shrink_nil (a : U256) : shrink_by_fees a [] = .ok a := rfl

@[simp] theorem shrink_cons (a : U256) (f : U32) (fees : List U32) :
    shrink_by_fees a (f :: fees) = apply_flat_fee_in a f >>= (shrink_by_fees · fees) := by
  simp [shrink_by_fees]

@[simp] theorem gross_up_nil (a : U256) : gross_up_by_fees a [] = .ok a := rfl

@[simp] theorem gross_up_cons (a : U256) (f : U32) (fees : List U32) :
    gross_up_by_fees a (f :: fees) = gross_up_by_fees a fees >>= (apply_flat_fee_out · f) := by
  simp [gross_up_by_fees]

/-- **Stacked fees.** Their gross-up is their least inverse. -/
theorem fees_leastInverse (fees : List U32) :
    LeastInverse (shrink_by_fees · fees) (gross_up_by_fees · fees) := by
  induction fees with
  | nil => exact LeastInverse.id
  | cons f fees ih =>
    simp only [shrink_cons, gross_up_cons]
    exact (fee_leastInverse f).comp ih

theorem shrink_gross_up {fees : List U32} {x g n : U256}
    (hg : gross_up_by_fees x fees = .ok g) (hn : shrink_by_fees g fees = .ok n) : n = x := by
  induction fees generalizing g with
  | nil =>
    cases hg
    cases hn
    rfl
  | cons f fees ih =>
    rw [gross_up_cons, Except.bind_eq_ok] at hg
    rw [shrink_cons, Except.bind_eq_ok] at hn
    obtain ⟨g', hg', hf⟩ := hg
    obtain ⟨n', hn', hrest⟩ := hn
    have hsame := fee_in_fee_out hf hn'
    subst hsame
    exact ih hg' hrest

/-- Nothing grosses up to nothing. -/
theorem gross_up_zero {fees : List U32} {g : U256} (h : gross_up_by_fees 0 fees = .ok g) :
    g = 0 := by
  induction fees generalizing g with
  | nil =>
    cases h
    rfl
  | cons f fees ih =>
    rw [gross_up_cons, Except.bind_eq_ok] at h
    obtain ⟨g', hg', hf⟩ := h
    have hzero := ih hg'
    subst hzero
    obtain ⟨hlt, -, hg⟩ := fee_out_eq_ok.1 hf
    have hceil : ((0 : U256).val * f.val) ⌈/⌉ (10 ^ 9 - f.val) = 0 := by simp
    rw [hceil] at hg
    exact U256.eq_zero_iff.2 hg.symm

/-- Nothing shrinks to nothing. -/
theorem shrink_zero {fees : List U32} {n : U256} (h : shrink_by_fees 0 fees = .ok n) :
    n = 0 := by
  induction fees generalizing n with
  | nil =>
    cases h
    rfl
  | cons f fees ih =>
    rw [shrink_cons, Except.bind_eq_ok] at h
    obtain ⟨n', hf, hrest⟩ := h
    obtain ⟨-, hn'⟩ := fee_in_eq_ok.1 hf
    have hzero : n' = 0 := by
      refine U256.eq_zero_iff.2 ?_
      have h0 : (0 : U256).val = 0 := rfl
      omega
    subst hzero
    exact ih hrest

/-- A fee of 100% anywhere in the stack leaves nothing. -/
theorem shrink_of_full {fees : List U32} {b n : U256} (h : shrink_by_fees b fees = .ok n)
    {f : U32} (hf : f ∈ fees) (hfull : 10 ^ 9 ≤ f.val) : n = 0 := by
  induction fees generalizing b with
  | nil => simp at hf
  | cons f' fees ih =>
    rw [shrink_cons, Except.bind_eq_ok] at h
    obtain ⟨n', hn', hrest⟩ := h
    rcases List.mem_cons.1 hf with rfl | hf
    · have hzero : n' = 0 := U256.eq_zero_iff.2 (fee_in_of_full hn' hfull)
      subst hzero
      exact shrink_zero hrest
    · exact ih hrest hf

/-- Fees below 100% gross nothing up to nothing. -/
theorem gross_up_zero_ok {fees : List U32} (h : ∀ f ∈ fees, f.val < 10 ^ 9) :
    gross_up_by_fees 0 fees = .ok 0 := by
  induction fees with
  | nil => rfl
  | cons f fees ih =>
    rw [gross_up_cons, ih fun f' hf' => h f' (List.mem_cons_of_mem f hf')]
    refine fee_out_eq_ok.2 ⟨h f (by simp), ?_, ?_⟩ <;> simp

/-! ## Constant product -/

namespace XycPool

theorem not_is_empty_iff (pool : XycPool) :
    ¬ pool.is_empty = true ↔ pool.balance_in.val ≠ 0 ∧ pool.balance_out.val ≠ 0 := by
  simp [is_empty, U256.eq_zero_iff]

theorem quote_exact_in_eq_ok {pool : XycPool} {a y : U256} :
    pool.quote_exact_in a = .ok y ↔
      (pool.balance_in.val ≠ 0 ∧ pool.balance_out.val ≠ 0) ∧
      a.val * pool.balance_out.val < 2 ^ 256 ∧ pool.balance_in.val + a.val < 2 ^ 256 ∧
      a.val * pool.balance_out.val / (pool.balance_in.val + a.val) = y.val := by
  unfold quote_exact_in
  by_cases hempty : pool.is_empty = true
  · have hno := (not_is_empty_iff pool).not.1 (by simpa using hempty)
    simp only [hempty, if_true]
    constructor
    · intro h
      cases h
    · intro h
      exact absurd h.1 hno
  · have hne := (not_is_empty_iff pool).1 hempty
    simp only [hempty, Bool.false_eq_true, if_false, Except.bind_eq_ok, cmul_eq_ok,
      cadd_eq_ok, fdiv_eq_ok]
    constructor
    · rintro ⟨p, hp, d, hd, -, hy⟩
      rw [hp, hd]
      exact ⟨hne, p.isLt, d.isLt, hy⟩
    · rintro ⟨-, hp, hd, hy⟩
      exact ⟨⟨_, hp⟩, rfl, ⟨_, hd⟩, rfl, by simp only; omega, hy⟩

theorem quote_exact_out_eq_ok {pool : XycPool} {o x : U256} :
    pool.quote_exact_out o = .ok x ↔
      (pool.balance_in.val ≠ 0 ∧ pool.balance_out.val ≠ 0) ∧
      o.val < pool.balance_out.val ∧ o.val * pool.balance_in.val < 2 ^ 256 ∧
      (o.val * pool.balance_in.val) ⌈/⌉ (pool.balance_out.val - o.val) = x.val := by
  unfold quote_exact_out
  by_cases hempty : pool.is_empty = true
  · have hno := (not_is_empty_iff pool).not.1 (by simpa using hempty)
    simp only [hempty, if_true]
    constructor
    · intro h
      cases h
    · intro h
      exact absurd h.1 hno
  · have hne := (not_is_empty_iff pool).1 hempty
    simp only [hempty, Bool.false_eq_true, if_false, Except.bind_eq_ok, cmul_eq_ok,
      ceil_div_eq_ok, ok_or_eq_ok, Option.filter_eq_some_iff, U256.checked_sub_eq_some]
    constructor
    · rintro ⟨d, ⟨hd, -⟩, p, hp, hd0, hx⟩
      have hden : pool.balance_out.val - o.val = d.val := by omega
      rw [hp, hden]
      exact ⟨hne, by omega, p.isLt, hx⟩
    · rintro ⟨-, ho, hp, hx⟩
      refine ⟨⟨pool.balance_out.val - o.val, by omega⟩, ⟨by simp only; omega, ?_⟩, ⟨_, hp⟩, rfl,
        by simp only; omega, hx⟩
      simp only [ne_eq, decide_not, Bool.not_eq_eq_eq_not, Bool.not_true, decide_eq_false_iff_not,
        U256.eq_zero_iff]
      omega

/-- The output of `a` reaches `o` exactly when `a` pays for it. -/
theorem le_quote_iff {pool : XycPool} {a y : U256} (h : pool.quote_exact_in a = .ok y) (o : ℕ) :
    o ≤ y.val ↔
      o * (pool.balance_in.val + a.val) ≤ a.val * pool.balance_out.val := by
  obtain ⟨⟨hin, -⟩, -, -, hy⟩ := quote_exact_in_eq_ok.1 h
  rw [← hy, Nat.le_div_iff_mul_le (by omega)]

/-- **Constant product.** Exact-out is the least inverse of exact-in. -/
theorem leastInverse (pool : XycPool) :
    LeastInverse pool.quote_exact_in pool.quote_exact_out where
  down {a b y} h hab := by
    have hab' : a.val ≤ b.val := hab
    obtain ⟨hne, hmul, hadd, hy⟩ := quote_exact_in_eq_ok.1 h
    have hmul' : a.val * pool.balance_out.val < 2 ^ 256 :=
      (Nat.mul_le_mul_right _ hab').trans_lt hmul
    have hq : a.val * pool.balance_out.val / (pool.balance_in.val + a.val) < 2 ^ 256 :=
      (Nat.div_le_self _ _).trans_lt hmul'
    have hx : pool.quote_exact_in a = .ok ⟨_, hq⟩ :=
      quote_exact_in_eq_ok.2 ⟨hne, hmul', by omega, rfl⟩
    refine ⟨_, hx, ?_⟩
    rw [Fin.le_def, le_quote_iff h]
    have hcover := (le_quote_iff hx _).1 le_rfl
    -- `x ≤ balance_out`, so what pays for `x` at `a` pays for it at any larger input.
    have hout : a.val * pool.balance_out.val / (pool.balance_in.val + a.val) ≤
        pool.balance_out.val := by
      refine Nat.div_le_of_le_mul ?_
      exact Nat.mul_le_mul_right _ (by omega)
    simp only at hcover ⊢
    obtain ⟨d, hd⟩ : ∃ d, b.val = a.val + d := ⟨b.val - a.val, by omega⟩
    rw [hd]
    nlinarith [Nat.mul_le_mul_right d hout]
  least {a o y} h ho hoy := by
    have hoy' : o.val ≤ y.val := hoy
    obtain ⟨hne, hmul, hadd, hy⟩ := quote_exact_in_eq_ok.1 h
    have hcover := (le_quote_iff h o.val).1 hoy'
    have ho0 : o.val ≠ 0 := fun h0 => ho (U256.eq_zero_iff.2 h0)
    have hlt : o.val < pool.balance_out.val := by
      by_contra hge
      have hin : 0 < pool.balance_in.val := by omega
      have hprod := Nat.mul_le_mul_right (pool.balance_in.val + a.val) (not_lt.1 hge)
      nlinarith [Nat.mul_pos (Nat.pos_of_ne_zero hne.2) hin]
    obtain ⟨r, hr⟩ : ∃ r, pool.balance_out.val = o.val + r :=
      ⟨pool.balance_out.val - o.val, by omega⟩
    have hsub : pool.balance_out.val - o.val = r := by omega
    have hpays : o.val * pool.balance_in.val ≤ r * a.val := by
      rw [hr] at hcover
      nlinarith
    have hceil : (o.val * pool.balance_in.val) ⌈/⌉ (pool.balance_out.val - o.val) ≤ a.val := by
      rw [hsub, ceilDiv_le_iff_le_mul (by omega)]
      exact hpays
    have hprod : o.val * pool.balance_in.val < 2 ^ 256 := by
      refine lt_of_le_of_lt ?_ hmul
      nlinarith
    exact ⟨⟨_, hceil.trans_lt a.isLt⟩, quote_exact_out_eq_ok.2 ⟨hne, hlt, hprod, rfl⟩, hceil⟩
  ne_zero {o x} h ho := by
    obtain ⟨hne, hlt, -, hx⟩ := quote_exact_out_eq_ok.1 h
    have ho0 : o.val ≠ 0 := fun h0 => ho (U256.eq_zero_iff.2 h0)
    intro hx0
    have hle : o.val * pool.balance_in.val ≤ (pool.balance_out.val - o.val) * 0 := by
      rw [← ceilDiv_le_iff_le_mul (by omega), hx, U256.eq_zero_iff.1 hx0]
    rw [Nat.mul_zero, Nat.le_zero, Nat.mul_eq_zero] at hle
    rcases hle with h0 | h0
    · exact ho0 h0
    · exact hne.1 h0

/-- Where a price limit stops the input. -/
def stop (pool : XycPool) (amount_in : U256) (limit : Ratio) : U256 :=
  match Ratio.floor_sqrt
      (Ratio.from_word pool.balance_in * Ratio.from_word pool.balance_out * limit⁻¹) with
  | some boundary => min amount_in (boundary.saturating_sub pool.balance_in)
  | none => amount_in

/-- The three outcomes of a fill to a limit. -/
theorem quote_with_limit_cases {pool : XycPool} {b : U256} {l : Ratio} {q : LimitedQuote}
    (h : pool.quote_with_limit b l = .ok q) :
    (l = 0 ∧ q.amount_in = b ∧ pool.quote_exact_in b = .ok q.amount_out) ∨
    (l ≠ 0 ∧ (pool.balance_out.val : Ratio) / pool.balance_in.val ≤ l ∧
      q.amount_in = 0 ∧ q.amount_out = 0) ∨
    (l ≠ 0 ∧ l < (pool.balance_out.val : Ratio) / pool.balance_in.val ∧
      q.amount_in = pool.stop b l ∧ pool.quote_exact_in (pool.stop b l) = .ok q.amount_out) := by
  unfold quote_with_limit at h
  by_cases hempty : pool.is_empty = true
  · simp only [hempty, if_true] at h
    cases h
  · simp only [hempty, Bool.false_eq_true, if_false] at h
    by_cases hl : l = 0
    · simp only [hl, if_true, Except.bind_eq_ok] at h
      obtain ⟨out, hout, hq⟩ := h
      cases hq
      exact .inl ⟨hl, rfl, hout⟩
    · have hne := (not_is_empty_iff pool).1 hempty
      have hin0 : ¬ pool.balance_in = 0 := fun h0 => hne.1 (U256.eq_zero_iff.1 h0)
      simp only [hl, if_false, Except.bind_eq_ok, marginal_price, hempty, Bool.false_eq_true,
        ok_or_eq_ok, Ratio.new, hin0, Option.some.injEq, exists_eq_left', Ratio.invert] at h
      by_cases hspot : (pool.balance_out.val : Ratio) / pool.balance_in.val ≤ l
      · rw [if_pos hspot] at h
        cases h
        exact .inr (.inl ⟨hl, hspot, rfl, rfl⟩)
      · rw [if_neg hspot] at h
        simp only [Except.bind_eq_ok, ok_or_eq_ok, Option.some.injEq, exists_eq_left'] at h
        obtain ⟨out, hout, hq⟩ := h
        cases hq
        exact .inr (.inr ⟨hl, not_le.1 hspot, rfl, hout⟩)

theorem stop_le (pool : XycPool) (b : U256) (l : Ratio) : pool.stop b l ≤ b := by
  unfold stop
  split
  · exact min_le_left _ _
  · exact le_rfl

/-- A higher limit stops the input no later. -/
theorem stop_anti (pool : XycPool) (b : U256) {l l' : Ratio} (hl : l ≠ 0) (hle : l ≤ l') :
    pool.stop b l' ≤ pool.stop b l := by
  have hinv : l'⁻¹ ≤ l⁻¹ := inv_anti₀ (pos_of_ne_zero hl) hle
  have hprod : Ratio.from_word pool.balance_in * Ratio.from_word pool.balance_out * l'⁻¹ ≤
      Ratio.from_word pool.balance_in * Ratio.from_word pool.balance_out * l⁻¹ :=
    mul_le_mul_right hinv _
  have hroot := Ratio.isqrt_mono hprod
  unfold stop Ratio.floor_sqrt Ratio.from_bigint
  -- A root that is not a word bounds nothing: the whole input is kept.
  split
  · rename_i root' hroot'
    split
    · rename_i root hroot''
      refine min_le_min_left b ?_
      simp only [Option.dite_none_right_eq_some, Option.some.injEq] at hroot' hroot''
      obtain ⟨_, rfl⟩ := hroot'
      obtain ⟨_, rfl⟩ := hroot''
      rw [Fin.le_def]
      simp only [U256.saturating_sub_val]
      omega
    · exact min_le_left _ _
  · rename_i hnone'
    split
    · rename_i root hroot''
      simp only [Option.dite_none_right_eq_some, dite_eq_right_iff, reduceCtorEq,
        imp_false] at hnone' hroot''
      obtain ⟨hlt, -⟩ := hroot''
      omega
    · exact le_rfl

/-- Where the whole input prices, so does every fill of it. -/
theorem quote_with_limit_ok {pool : XycPool} {b y : U256} (h : pool.quote_exact_in b = .ok y)
    (l : Ratio) : ∃ q, pool.quote_with_limit b l = .ok q := by
  have hne := (quote_exact_in_eq_ok.1 h).1
  have hempty : ¬ pool.is_empty = true := (not_is_empty_iff pool).2 hne
  have hin0 : ¬ pool.balance_in = 0 := fun h0 => hne.1 (U256.eq_zero_iff.1 h0)
  unfold quote_with_limit
  simp only [hempty, Bool.false_eq_true, if_false]
  by_cases hl : l = 0
  · rw [if_pos hl, h]
    exact ⟨_, rfl⟩
  · rw [if_neg hl]
    simp only [marginal_price, hempty, Bool.false_eq_true, if_false, Ratio.new, hin0, ok_or,
      Ratio.invert, hl]
    obtain ⟨x, hx, -⟩ := pool.leastInverse.down h (pool.stop_le b l)
    by_cases hspot : (pool.balance_out.val : Ratio) / pool.balance_in.val ≤ l
    · exact ⟨_, if_pos hspot⟩
    · refine ⟨{ amount_in := pool.stop b l, amount_out := x, limited := pool.stop b l < b }, ?_⟩
      refine (if_neg hspot).trans ?_
      show (pool.quote_exact_in (pool.stop b l) >>= fun out => _) = _
      rw [hx]
      rfl

/-- A higher limit fills no more output. -/
theorem fill_anti {pool : XycPool} {b : U256} {l l' : Ratio} (hle : l ≤ l')
    {q q' : LimitedQuote} (hq : pool.quote_with_limit b l = .ok q)
    (hq' : pool.quote_with_limit b l' = .ok q') : q'.amount_out ≤ q.amount_out := by
  have hmono : ∀ {a b x y : U256}, a ≤ b → pool.quote_exact_in a = .ok x →
      pool.quote_exact_in b = .ok y → x ≤ y := by
    intro a b x y hab hx hy
    obtain ⟨x', hx', hle'⟩ := pool.leastInverse.down hy hab
    rw [hx] at hx'
    cases hx'
    exact hle'
  rcases quote_with_limit_cases hq' with ⟨h0, -, hout'⟩ | ⟨-, -, -, hout'⟩ | ⟨hl', hspot', -, hout'⟩
  · -- Both limits are zero: both fills are the whole input.
    have hl0 : l = 0 := le_antisymm (hle.trans h0.le) zero_le
    rcases quote_with_limit_cases hq with ⟨-, -, hout⟩ | ⟨hl, -⟩ | ⟨hl, -⟩
    · exact hmono le_rfl hout' hout
    · exact absurd hl0 hl
    · exact absurd hl0 hl
  · rw [hout']
    exact Fin.zero_le _
  · rcases quote_with_limit_cases hq with ⟨-, -, hout⟩ | ⟨-, hspot, -⟩ | ⟨hl, -, -, hout⟩
    · exact hmono (pool.stop_le b l') hout' hout
    · exact absurd (hspot.trans hle) (not_le.2 hspot')
    · exact hmono (pool.stop_anti b hl hle) hout' hout

/-- The spot price of word reserves is at most the greatest word. -/
theorem spot_le (pool : XycPool) :
    (pool.balance_out.val : Ratio) / pool.balance_in.val ≤ U256.MAX.val := by
  have hout : (pool.balance_out.val : Ratio) ≤ U256.MAX.val := by
    have hlt := pool.balance_out.isLt
    rw [U256.MAX_val]
    exact_mod_cast (by omega)
  rcases Nat.eq_zero_or_pos pool.balance_in.val with h0 | hpos
  · simp [h0]
  · refine (div_le_self (by positivity) ?_).trans hout
    exact_mod_cast hpos

end XycPool

/-- A concentrated pool is its virtual constant-product pool, if it has one. -/
theorem ConcentratePool.leastInverse (pool : ConcentratePool) :
    LeastInverse pool.quote_exact_in pool.quote_exact_out := by
  unfold ConcentratePool.quote_exact_in ConcentratePool.quote_exact_out
  cases pool.virtual_pool with
  | ok p => exact p.leastInverse
  | error e => exact ⟨nofun, nofun, nofun⟩

/-! ## Bisected fills -/

/-- The lower end of a bisection is where it started or an input that is kept,
    and never leaves the bracket. -/
theorem bisect_spec (keeps : U256 → Bool) {lo hi : U256} (h : lo ≤ hi) :
    (bisect keeps lo hi = lo ∨ keeps (bisect keeps lo hi) = true) ∧ bisect keeps lo hi ≤ hi := by
  have hinv : ∀ s s' : U256 × U256,
      ((s.1 = lo ∨ keeps s.1 = true) ∧ s.1 ≤ s.2 ∧ s.2 ≤ hi) →
      bisect_step keeps s = some s' →
      ((s'.1 = lo ∨ keeps s'.1 = true) ∧ s'.1 ≤ s'.2 ∧ s'.2 ≤ hi) := by
    rintro ⟨a, b⟩ s' ⟨hkeep, hab, hb⟩ hstep
    have hab' : a.val ≤ b.val := hab
    have hb' : b.val ≤ hi.val := hb
    simp only [bisect_step] at hstep
    split at hstep
    · cases hstep
    · split at hstep
      · rename_i hmid
        cases hstep
        exact ⟨.inr hmid, by rw [Fin.le_def]; simp only; omega, hb⟩
      · cases hstep
        refine ⟨hkeep, ?_, ?_⟩
        · rw [Fin.le_def]
          simp only
          omega
        · rw [Fin.le_def]
          simp only
          omega
  have hend := Loop.iterate_invariant hinv 256 (s := (lo, hi)) ⟨.inl rfl, h, le_rfl⟩
  exact ⟨hend.1, hend.2.1.trans hend.2.2⟩

/-- The bisection leaves by its own test: 256 halvings close any two words. -/
theorem bisect_converges (keeps : U256 → Bool) {lo hi : U256} (h : lo ≤ hi) :
    bisect_step keeps (Loop.iterate (bisect_step keeps) 256 (lo, hi)) = none := by
  have hlog : Nat.clog 2 (hi.val - lo.val) ≤ 256 := by
    refine (Nat.clog_mono_right 2 (by omega : hi.val - lo.val ≤ 2 ^ 256)).trans ?_
    rw [Nat.clog_pow 2 256 (by norm_num)]
  refine Loop.iterate_exits (P := fun s => s.1 ≤ s.2)
    (fun s => Nat.clog 2 (s.2.val - s.1.val)) ?_ ?_ h hlog
  all_goals
    rintro ⟨a, b⟩ s' hab hstep
    have hab' : a.val ≤ b.val := hab
    simp only [bisect_step] at hstep
    split at hstep
    · cases hstep
    · rename_i hopen
      have hgap : 2 ≤ b.val - a.val := by
        simp only [converged, decide_eq_true_eq, not_or, not_le] at hopen
        omega
      have hclog := Nat.clog_of_two_le (b := 2) (by norm_num) hgap
      split at hstep
      all_goals
        cases hstep
        simp only [Fin.le_def]
        try omega
        try rw [hclog]
        try exact Nat.lt_succ_of_le (Nat.clog_mono_right 2 (by omega))

/-- The ceiling prices, unless it is zero. -/
theorem feasible_bound_spec (hi : U256) (prices : U256 → Bool) :
    (feasible_bound hi prices = 0 ∨ prices (feasible_bound hi prices) = true) ∧
      feasible_bound hi prices ≤ hi := by
  unfold feasible_bound
  split
  · rename_i h
    exact ⟨.inr h, le_rfl⟩
  · exact bisect_spec prices (Fin.zero_le _)

theorem probe_step_pos (bound : U256) : (probe_step bound).val ≠ 0 := by
  have h : (1 : U256) ≤ probe_step bound := le_max_right _ _
  have h' : (1 : U256).val ≤ (probe_step bound).val := h
  have h1 : (1 : U256).val = 1 := rfl
  omega

/-- A finite difference of word outputs over at least one unit of input is
    always defined and at most the greatest word. -/
theorem finite_marginal_ok (quote : U256 → Except CurveError U256) {step : U256}
    (hstep : step.val ≠ 0) (a : U256) :
    ∃ m, finite_marginal quote step a = .ok m ∧ m ≤ U256.MAX.val := by
  unfold finite_marginal
  split
  · exact ⟨0, rfl, zero_le⟩
  · split
    · rename_i here _ _ ahead _
      have hne : ¬ step = 0 := fun h0 => hstep (U256.eq_zero_iff.1 h0)
      refine ⟨((ahead.saturating_sub here).val : Ratio) / step.val, by simp [Ratio.new, hne], ?_⟩
      refine (div_le_self (by positivity) ?_).trans ?_
      · exact_mod_cast Nat.one_le_iff_ne_zero.2 hstep
      · have hlt := (ahead.saturating_sub here).isLt
        rw [U256.MAX_val]
        exact_mod_cast (by omega)
    · exact ⟨0, rfl, zero_le⟩

theorem finite_marginal_le {quote : U256 → Except CurveError U256} {step a : U256} {m : Ratio}
    (hstep : step.val ≠ 0) (h : finite_marginal quote step a = .ok m) : m ≤ U256.MAX.val := by
  obtain ⟨m', hm', hle⟩ := finite_marginal_ok quote hstep a
  rw [h] at hm'
  cases hm'
  exact hle

/-- The outcomes of a bisected fill: nothing, the whole feasible bound, or the
    input the bisection kept. -/
theorem numerical_cases {quote : U256 → Except CurveError U256} {b : U256} {l : Ratio}
    {q : LimitedQuote} (h : fill_to_limit_numerical quote b l = .ok q) :
    (q.amount_in = 0 ∧ q.amount_out = 0) ∨
    (q.amount_in ≤ b ∧ quote q.amount_in = .ok q.amount_out ∧ l ≤ U256.MAX.val) := by
  unfold fill_to_limit_numerical at h
  by_cases hb : b = 0
  · rw [if_pos hb] at h
    cases h
    exact .inl ⟨rfl, rfl⟩
  rw [if_neg hb] at h
  obtain ⟨hprices, hbound⟩ := feasible_bound_spec b fun input => is_ok (quote input)
  revert h hprices hbound
  generalize feasible_bound b (fun input => is_ok (quote input)) = bound
  intro h hprices hbound
  simp only at h
  by_cases hzero : bound = 0
  · rw [if_pos hzero] at h
    cases h
    exact .inl ⟨rfl, rfl⟩
  rw [if_neg hzero] at h
  obtain ⟨m, hm, h⟩ := Except.bind_eq_ok.1 h
  by_cases hfull : l ≤ m
  · -- The whole bound still clears the limit.
    rw [if_pos hfull] at h
    obtain ⟨out, hout, hq⟩ := Except.bind_eq_ok.1 h
    cases hq
    exact .inr ⟨hbound, hout, hfull.trans (finite_marginal_le (probe_step_pos bound) hm)⟩
  rw [if_neg hfull] at h
  obtain ⟨m0, hm0, h⟩ := Except.bind_eq_ok.1 h
  by_cases hnone : m0 < l
  · rw [if_pos hnone] at h
    cases h
    exact .inl ⟨rfl, rfl⟩
  rw [if_neg hnone] at h
  obtain ⟨out, hout, hq⟩ := Except.bind_eq_ok.1 h
  cases hq
  refine .inr ⟨(bisect_spec _ (Fin.zero_le _)).2.trans hbound, hout, ?_⟩
  exact (not_lt.1 hnone).trans (finite_marginal_le (probe_step_pos bound) hm0)

/-! ## Any curve -/

namespace CurvePool

/-- A fill is a quote of the curve, within the input offered. -/
theorem fill_quotes {pool : CurvePool} {b : U256} {l : Ratio} {q : LimitedQuote}
    (h : pool.quote_with_limit b l = .ok q) :
    q.amount_in ≤ b ∧
      (pool.quote_exact_in q.amount_in = .ok q.amount_out ∨
        (q.amount_in = 0 ∧ q.amount_out = 0)) := by
  have hxyc : ∀ {p : XycPool}, p.quote_with_limit b l = .ok q →
      q.amount_in ≤ b ∧ (p.quote_exact_in q.amount_in = .ok q.amount_out ∨
        (q.amount_in = 0 ∧ q.amount_out = 0)) := by
    intro p hp
    rcases XycPool.quote_with_limit_cases hp with
      ⟨-, hin, hout⟩ | ⟨-, -, hin, hout⟩ | ⟨-, -, hin, hout⟩
    · exact ⟨hin.le, .inl (by rw [hin]; exact hout)⟩
    · exact ⟨by rw [hin]; exact Fin.zero_le _, .inr ⟨hin, hout⟩⟩
    · exact ⟨by rw [hin]; exact p.stop_le b l, .inl (by rw [hin]; exact hout)⟩
  cases pool with
  | Xyc p => exact hxyc h
  | Concentrate p =>
    obtain ⟨v, hv, hq⟩ := Except.bind_eq_ok.1 h
    obtain ⟨hle, hquote⟩ := hxyc hq
    refine ⟨hle, ?_⟩
    rcases hquote with hquote | hzero
    · exact .inl (Except.bind_eq_ok.2 ⟨v, hv, hquote⟩)
    · exact .inr hzero
  | Pegged p =>
    rcases numerical_cases h with ⟨hin, hout⟩ | ⟨hle, hquote, -⟩
    · exact ⟨by rw [hin]; exact Fin.zero_le _, .inr ⟨hin, hout⟩⟩
    · exact ⟨hle, .inl hquote⟩

/-- No input offered, nothing filled. -/
theorem fill_of_zero {pool : CurvePool} {l : Ratio} {q : LimitedQuote}
    (h : pool.quote_with_limit 0 l = .ok q) : q.amount_out = 0 := by
  have hxyc : ∀ {p : XycPool}, p.quote_with_limit 0 l = .ok q → q.amount_out = 0 := by
    have hquote : ∀ {p : XycPool} {y : U256}, p.quote_exact_in 0 = .ok y → y = 0 := by
      intro p y hy
      obtain ⟨-, -, -, hval⟩ := XycPool.quote_exact_in_eq_ok.1 hy
      have hzero : (0 : U256).val = 0 := rfl
      rw [hzero, Nat.zero_mul, Nat.zero_div] at hval
      exact U256.eq_zero_iff.2 hval.symm
    intro p hp
    rcases XycPool.quote_with_limit_cases hp with
      ⟨-, -, hout⟩ | ⟨-, -, -, hout⟩ | ⟨-, -, -, hout⟩
    · exact hquote hout
    · exact hout
    · have hstop : p.stop 0 l = 0 := le_antisymm (p.stop_le 0 l) (Fin.zero_le _)
      rw [hstop] at hout
      exact hquote hout
  cases pool with
  | Xyc p => exact hxyc h
  | Concentrate p =>
    obtain ⟨v, -, hq⟩ := Except.bind_eq_ok.1 h
    exact hxyc hq
  | Pegged p =>
    change fill_to_limit_numerical p.quote_exact_in 0 l = .ok q at h
    unfold fill_to_limit_numerical at h
    rw [if_pos rfl] at h
    cases h
    rfl

/-- Above the greatest word no curve fills anything. -/
theorem fill_at_top {pool : CurvePool} {b : U256} {l : Ratio} {q : LimitedQuote}
    (hl : (U256.MAX.val : Ratio) < l) (h : pool.quote_with_limit b l = .ok q) :
    q.amount_in = 0 ∧ q.amount_out = 0 := by
  have hxyc : ∀ {p : XycPool}, p.quote_with_limit b l = .ok q →
      q.amount_in = 0 ∧ q.amount_out = 0 := by
    intro p hp
    rcases XycPool.quote_with_limit_cases hp with ⟨h0, -⟩ | ⟨-, -, hzero⟩ | ⟨-, hspot, -⟩
    · rw [h0] at hl
      exact absurd hl (not_lt.2 zero_le)
    · exact hzero
    · exact absurd (hspot.trans_le p.spot_le) (not_lt.2 hl.le)
  cases pool with
  | Xyc p => exact hxyc h
  | Concentrate p =>
    obtain ⟨v, -, hq⟩ := Except.bind_eq_ok.1 h
    exact hxyc hq
  | Pegged p =>
    rcases numerical_cases h with hzero | ⟨-, -, hle⟩
    · exact hzero
    · exact absurd hl (not_lt.2 hle)

end CurvePool

end Solvent
