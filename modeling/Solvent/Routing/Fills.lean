import Mathlib
import Solvent.Registry.Limits
import Solvent.Routing.Levels

/-! # Price-limited fills of a candidate

    A candidate fills its pool net of fees and grosses what was consumed back
    up. The fee maps are exact on what they return, so the fill is a quote of the
    candidate for the input it names; and grossing up is monotone, so a higher
    limit takes no more.
-/

namespace Solvent

/-- A larger amount grosses up to no less. -/
theorem fee_out_mono {x y gx gy : U256} {f : U32} (hle : x ≤ y)
    (hx : apply_flat_fee_out x f = .ok gx) (hy : apply_flat_fee_out y f = .ok gy) : gx ≤ gy := by
  rw [Fin.le_def, fee_out_le_iff hx]
  have hcover := (fee_out_le_iff hy gy.val).mp le_rfl
  exact (Nat.mul_le_mul_right _ hle).trans hcover

theorem gross_up_mono {fees : List U32} {x y gx gy : U256} (hle : x ≤ y)
    (hx : gross_up_by_fees x fees = .ok gx) (hy : gross_up_by_fees y fees = .ok gy) :
    gx ≤ gy := by
  induction fees generalizing gx gy with
  | nil =>
    cases hx
    cases hy
    exact hle
  | cons f fees ih =>
    rw [gross_up_cons, Except.bind_eq_ok] at hx hy
    obtain ⟨mx, hmx, hx⟩ := hx
    obtain ⟨my, hmy, hy⟩ := hy
    exact fee_out_mono (ih hmx hmy) hx hy

namespace Candidate

/-- What a fill consumes, grossed back up, is within what was offered. -/
theorem gross_le_bound {c : Candidate} {b nb gross : U256} {l : Ratio} {net : LimitedQuote}
    (hnb : shrink_by_fees b c.fees_in_bps = .ok nb) (hnet : c.pool.quote_with_limit nb l = .ok net)
    (hgross : gross_up_by_fees net.amount_in c.fees_in_bps = .ok gross) : gross ≤ b := by
  obtain ⟨hle, -⟩ := CurvePool.fill_quotes hnet
  by_cases hzero : net.amount_in = 0
  · rw [hzero] at hgross
    rw [gross_up_zero hgross]
    exact Fin.zero_le _
  · obtain ⟨gross', hgross', hbound⟩ := (fees_leastInverse c.fees_in_bps).least hnb hzero hle
    obtain rfl := Except.ok.inj (hgross.symm.trans hgross')
    exact hbound

/-- A higher limit takes no more gross input. -/
theorem fill_in_anti {c : Candidate} {b : U256} {l l' : Ratio} (hle : l ≤ l')
    {q q' : LimitedQuote} (hq : c.net_quote_with_limit b l = .ok q)
    (hq' : c.net_quote_with_limit b l' = .ok q') : q'.amount_in ≤ q.amount_in := by
  obtain ⟨g, nb, net, gross, hg, hnb, hnet, hgross, hin, -⟩ := net_fill_cases hq
  obtain ⟨g', nb', net', gross', hg', hnb', hnet', hgross', hin', -⟩ := net_fill_cases hq'
  obtain rfl := Except.ok.inj (hg.symm.trans hg')
  obtain rfl := Except.ok.inj (hnb.symm.trans hnb')
  -- The limits are scaled alike, so the pool's own fills compare.
  have hnet_le : net'.amount_in ≤ net.amount_in :=
    CurvePool.fill_in_anti (mul_le_mul_left hle g⁻¹) hnet hnet'
  rw [hin, hin']
  exact min_le_min_right b (gross_up_mono hnet_le hgross' hgross)

/-- **A price-limited fill is a real quote.** It stays within the bound without
    being cut to it, prices to exactly its output, and takes no more as the limit
    rises. -/
theorem price_limited_fill_quotes (c : Candidate) (gross_bound : U256) :
    (∀ limit q, c.net_quote_with_limit gross_bound limit = .ok q → 0 < q.amount_in →
      q.amount_in ≤ gross_bound ∧
      (∃ gamma net_bound net, c.gamma = .ok gamma ∧
        shrink_by_fees gross_bound c.fees_in_bps = .ok net_bound ∧
        c.pool.quote_with_limit net_bound (limit * gamma⁻¹) = .ok net ∧
        gross_up_by_fees net.amount_in c.fees_in_bps = .ok q.amount_in) ∧
      c.net_quote_exact_in q.amount_in = .ok q.amount_out) ∧
    (∀ l₁ l₂ q₁ q₂, l₁ ≤ l₂ → c.net_quote_with_limit gross_bound l₁ = .ok q₁ →
      c.net_quote_with_limit gross_bound l₂ = .ok q₂ → q₂.amount_in ≤ q₁.amount_in) := by
  refine ⟨fun limit q h hpos => ?_, fun l₁ l₂ q₁ q₂ hle h₁ h₂ => fill_in_anti hle h₁ h₂⟩
  obtain ⟨hbound, hquote⟩ := fill_quotes h
  refine ⟨hbound, ?_, ?_⟩
  · obtain ⟨g, nb, net, gross, hg, hnb, hnet, hgross, hin, -⟩ := net_fill_cases h
    rw [min_eq_left (gross_le_bound hnb hnet hgross)] at hin
    exact ⟨g, nb, net, hg, hnb, hnet, by rw [hin]; exact hgross⟩
  · rcases hquote with hquote | ⟨hzero, -⟩
    · exact hquote
    · exact absurd hzero (ne_of_gt hpos)

/-- Reserves 1000 and 1000 under one fee. -/
def limited_venue : Candidate :=
  { key := { maker := ⟨1⟩, app := 0, strategy_hash := ⟨1⟩ }
    token_in := 1
    token_out := 2
    cap_out := 900
    wallet_cap := 900
    pool := .Xyc { balance_in := 1000, balance_out := 1000 }
    fees_in_bps := [3000000] }

theorem price_limited_fill_quotes_sample :
    ∃ q, limited_venue.net_quote_with_limit 2000 (1 / 2) = .ok q ∧ q.amount_in ≤ 2000 ∧
      limited_venue.net_quote_exact_in q.amount_in = .ok q.amount_out := by
  have hfill : ((limited_venue.net_quote_with_limit 2000 (1 / 2)).toOption.map fun q =>
      decide (0 < q.amount_in)) = some true := by decide +kernel
  match hq : limited_venue.net_quote_with_limit 2000 (1 / 2) with
  | .ok q =>
    rw [hq] at hfill
    have hpos : 0 < q.amount_in := by simpa [Except.toOption] using hfill
    obtain ⟨hbound, -, hquote⟩ :=
      (price_limited_fill_quotes limited_venue 2000).1 (1 / 2) q hq hpos
    exact ⟨q, rfl, hbound, hquote⟩
  | .error e =>
    rw [hq] at hfill
    cases hfill

end Candidate

end Solvent
