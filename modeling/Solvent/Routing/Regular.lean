import Mathlib
import Solvent.Routing.ExactOut

/-! # Regular candidates

    The solver's comments promise three things of a candidate: it prices a
    down-closed set of inputs, `input_within_output` never overshoots, and a
    fill shrinks as the level rises. `Regular` is these promises. Constant
    product keeps them for any reserves and any stack of fees; the pegged curve
    does not always, since its two quotes round independently.
-/

namespace Solvent

/-- What the solver's caps rest on. -/
structure Regular (c : Candidate) : Prop where
  /-- Inputs price on a down-closed set, and more input buys no less. -/
  down : ∀ {a b y}, c.net_quote_exact_in b = .ok y → a ≤ b →
    ∃ x, c.net_quote_exact_in a = .ok x ∧ x ≤ y
  /-- No input up to `input_within_output(max_out)` buys more than `max_out`. -/
  within : ∀ {max_out a y}, max_out ≠ 0 → c.net_quote_exact_in a = .ok y →
    (∀ b, c.input_within_output max_out = some b → a ≤ b) → y ≤ max_out
  /-- At level zero the whole bound is filled. -/
  full : ∀ {b y}, c.net_quote_exact_in b = .ok y → y ≤ fill_output c b 0
  /-- A fill shrinks as the level rises. -/
  shrinks : ∀ {b y l l'}, c.net_quote_exact_in b = .ok y → l ≤ l' →
    fill_output c b l' ≤ fill_output c b l

theorem fill_output_of_ok {c : Candidate} {b : U256} {l : Ratio} {q : LimitedQuote}
    (h : c.net_quote_with_limit b l = .ok q) : fill_output c b l = q.amount_out := by
  simp [fill_output, h]

theorem fill_output_of_zero (c : Candidate) (l : Ratio) : fill_output c 0 l = 0 := by
  unfold fill_output
  split
  · rename_i q hq
    exact Candidate.fill_of_zero hq
  · rfl

/-! ## Constant product is regular -/

section ConstantProduct

variable {c : Candidate} (hc : ∀ p, c.pool ≠ .Pegged p)

include hc

/-- A pool that prices an input is a constant-product pool with reserves. -/
theorem exists_reserves {n y : U256} (h : c.pool.quote_exact_in n = .ok y) :
    ∃ p : XycPool, c.pool.quote_exact_in = p.quote_exact_in ∧
      c.pool.quote_with_limit = p.quote_with_limit := by
  cases hpool : c.pool with
  | Xyc p => exact ⟨p, rfl, rfl⟩
  | Concentrate p =>
    rw [hpool] at h
    obtain ⟨v, hv, -⟩ := Except.bind_eq_ok.1 h
    refine ⟨v, ?_, ?_⟩
    · funext a
      show (p.virtual_pool >>= fun v => v.quote_exact_in a) = _
      rw [hv]
      rfl
    · funext a l
      show (p.virtual_pool >>= fun v => v.quote_with_limit a l) = _
      rw [hv]
      rfl
  | Pegged p => exact absurd hpool (hc p)

theorem within_of_constant_product {max_out a y : U256} (hne : max_out ≠ 0)
    (hy : c.net_quote_exact_in a = .ok y)
    (hbound : ∀ b, c.input_within_output max_out = some b → a ≤ b) : y ≤ max_out := by
  by_contra hover
  have hle : max_out ≤ y := (not_le.1 hover).le
  -- The least input that reaches `max_out` is within `a`, so it prices too.
  obtain ⟨b, hb, hba⟩ := (Candidate.leastInverse hc).least hy hne hle
  obtain ⟨out, hout, -⟩ := (Candidate.leastInverse hc).down hy hba
  by_cases hfit : out ≤ max_out
  · have hab := hbound b (by simp [Candidate.input_within_output, hb, hout, hfit])
    have hsame : a = b := le_antisymm hab hba
    rw [hsame, hout] at hy
    cases hy
    exact hover hfit
  · have hab := hbound (b.saturating_sub 1)
      (by simp [Candidate.input_within_output, hb, hout, hfit])
    have hb0 : b.val ≠ 0 := fun h0 =>
      (Candidate.leastInverse hc).ne_zero hb hne (U256.eq_zero_iff.2 h0)
    have hab' : a.val ≤ b.val - (1 : U256).val := hab
    have hba' : b.val ≤ a.val := hba
    have h1 : (1 : U256).val = 1 := rfl
    omega

/-- Where the bound prices, a candidate whose fees leave something fills at
    every level, and the fill is the pool's at the scaled level. -/
theorem net_fill_ok {b y : U256} {g : Ratio} (hg : c.gamma = .ok g)
    (hy : c.net_quote_exact_in b = .ok y) (l : Ratio) :
    ∃ p : XycPool, ∃ nb q net, c.net_quote_with_limit b l = .ok q ∧
      p.quote_with_limit nb (l * g⁻¹) = .ok net ∧ q.amount_out = net.amount_out ∧
      p.quote_exact_in nb = .ok y ∧ shrink_by_fees b c.fees_in_bps = .ok nb ∧
      c.pool.quote_with_limit = p.quote_with_limit := by
  obtain ⟨nb, hnb, hquote⟩ := Except.bind_eq_ok.1 hy
  obtain ⟨p, hin, hlimit⟩ := exists_reserves hc hquote
  rw [hin] at hquote
  obtain ⟨net, hnet⟩ := p.quote_with_limit_ok hquote (l * g⁻¹)
  have hpool : c.pool.quote_with_limit nb (l * g⁻¹) = .ok net := by rw [hlimit]; exact hnet
  have hle : net.amount_in ≤ nb := (CurvePool.fill_quotes hpool).1
  -- What was consumed grosses back up: it is part of what the bound shrank to.
  have hgross : ∃ gross, gross_up_by_fees net.amount_in c.fees_in_bps = .ok gross := by
    by_cases hzero : net.amount_in = 0
    · rw [hzero]
      exact ⟨0, gross_up_zero_ok (gamma_fold_lt hg)⟩
    · obtain ⟨gross, hgross, -⟩ := (fees_leastInverse c.fees_in_bps).least hnb hzero hle
      exact ⟨gross, hgross⟩
  obtain ⟨gross, hgross⟩ := hgross
  have hg0 : g ≠ 0 := (Candidate.gamma_bounds hg).1.ne'
  refine ⟨p, nb, { amount_in := min gross b, amount_out := net.amount_out, limited := net.limited },
    net, ?_, hnet, rfl, hquote, hnb, hlimit⟩
  refine Except.bind_eq_ok.2 ⟨g, hg, Except.bind_eq_ok.2 ⟨g⁻¹, ?_, ?_⟩⟩
  · rw [ok_or_eq_ok, Ratio.invert, if_neg hg0]
  · exact Except.bind_eq_ok.2 ⟨nb, hnb, Except.bind_eq_ok.2 ⟨net, hpool,
      Except.bind_eq_ok.2 ⟨gross, hgross, rfl⟩⟩⟩

/-- **Constant product is regular**, whatever its reserves, bounds and fees. -/
theorem regular_of_constant_product : Regular c where
  down h hab := (Candidate.leastInverse hc).down h hab
  within hne hy hbound := within_of_constant_product hc hne hy hbound
  full {b y} hy := by
    cases hgamma : c.gamma with
    | ok g =>
      obtain ⟨p, nb, q, net, hq, hnet, hout, hquote, -⟩ := net_fill_ok hc hgamma hy 0
      rw [fill_output_of_ok hq, hout]
      rw [zero_mul] at hnet
      rcases XycPool.quote_with_limit_cases hnet with ⟨-, -, hnet'⟩ | ⟨h0, -⟩ | ⟨h0, -⟩
      · rw [hquote] at hnet'
        cases hnet'
        exact le_rfl
      · exact absurd rfl h0
      · exact absurd rfl h0
    | error e =>
      -- Some fee takes everything, so the bound buys nothing.
      obtain ⟨nb, hnb, hquote⟩ := Except.bind_eq_ok.1 hy
      have hfull : ∃ f ∈ c.fees_in_bps, 10 ^ 9 ≤ f.val := by
        by_contra hnone
        push Not at hnone
        obtain ⟨g, hg⟩ := gamma_fold_ok hnone 1
        rw [Candidate.gamma, hg] at hgamma
        cases hgamma
      obtain ⟨f, hf, hge⟩ := hfull
      have hnb0 := shrink_of_full hnb hf hge
      subst hnb0
      obtain ⟨p, hin, -⟩ := exists_reserves hc hquote
      rw [hin] at hquote
      obtain ⟨-, -, -, hval⟩ := XycPool.quote_exact_in_eq_ok.1 hquote
      have h0 : (0 : U256).val = 0 := rfl
      rw [h0, Nat.zero_mul, Nat.zero_div] at hval
      rw [U256.eq_zero_iff.2 hval.symm]
      exact Fin.zero_le _
  shrinks {b y l l'} hy hle := by
    cases hgamma : c.gamma with
    | ok g =>
      obtain ⟨p, nb, q, net, hq, hnet, hout, -, hnb, hp⟩ := net_fill_ok hc hgamma hy l
      obtain ⟨p', nb', q', net', hq', hnet', hout', -, hnb', hp'⟩ := net_fill_ok hc hgamma hy l'
      rw [hnb] at hnb'
      cases hnb'
      rw [← hp', hp] at hnet'
      rw [fill_output_of_ok hq, fill_output_of_ok hq', hout, hout']
      exact XycPool.fill_anti (mul_le_mul_left hle g⁻¹) hnet hnet'
    | error e =>
      have hnone : ∀ l, fill_output c b l = 0 := by
        intro l
        unfold fill_output Candidate.net_quote_with_limit
        rw [hgamma]
        rfl
      rw [hnone, hnone]

end ConstantProduct

end Solvent
