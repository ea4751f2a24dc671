import Mathlib
import Solvent.Registry.Quotes

/-! # Where a price limit stops a fill

    On constant product the closed form stops at the last input whose margin
    still meets the limit. The bisected fill has no such margin: its test is a
    finite difference that need not be monotone. A higher limit stops it no
    later all the same, since two bisections of one bracket part only where the
    stricter test fails.
-/

namespace Solvent

/-! ## The closed form -/

namespace XycPool

/-- The margin `k/(balance_in + a)²` meets the limit. -/
def Clears (pool : XycPool) (limit : Ratio) (a : U256) : Prop :=
  limit * ((pool.balance_in.val + a.val : ℕ) : Ratio) ^ 2 ≤
    (pool.balance_in.val : Ratio) * pool.balance_out.val

/-- The square the boundary is the root of. -/
def boundary_square (pool : XycPool) (limit : Ratio) : Ratio :=
  Ratio.from_word pool.balance_in * Ratio.from_word pool.balance_out * limit⁻¹

/-- The margin at `a` meets the limit exactly up to the integer root. -/
theorem clears_iff_le_root {pool : XycPool} {limit : Ratio} (hlimit : 0 < limit) (a : U256) :
    pool.Clears limit a ↔ pool.balance_in.val + a.val ≤
      Nat.sqrt ((pool.boundary_square limit).num * (pool.boundary_square limit).den) /
        (pool.boundary_square limit).den := by
  rw [Ratio.le_isqrt_iff, boundary_square, le_mul_inv_iff₀ hlimit, Clears, Ratio.from_word,
    Ratio.from_word, sq, mul_comm limit]

/-- Below the spot price the first unit clears. -/
theorem clears_zero {pool : XycPool} {limit : Ratio} (hin : pool.balance_in.val ≠ 0)
    (hspot : limit < (pool.balance_out.val : Ratio) / pool.balance_in.val) :
    pool.Clears limit 0 := by
  have hpos : (0 : Ratio) < pool.balance_in.val := by exact_mod_cast Nat.pos_of_ne_zero hin
  have hzero : (0 : U256).val = 0 := rfl
  have hle : limit * pool.balance_in.val ≤ pool.balance_out.val := ((lt_div_iff₀ hpos).mp hspot).le
  unfold Clears
  rw [hzero, Nat.add_zero]
  calc limit * (pool.balance_in.val : Ratio) ^ 2
      = pool.balance_in.val * (limit * pool.balance_in.val) := by ring
    _ ≤ pool.balance_in.val * pool.balance_out.val := by gcongr

/-- The fill stops at the last input that clears. -/
theorem le_stop_iff {pool : XycPool} {amount_in : U256} {limit : Ratio} (hlimit : 0 < limit)
    (hzero : pool.Clears limit 0) (hword : pool.balance_in.val + (pool.stop amount_in limit).val <
      2 ^ 256) (a : U256) :
    a ≤ pool.stop amount_in limit ↔ a ≤ amount_in ∧ pool.Clears limit a := by
  rw [clears_iff_le_root hlimit] at hzero ⊢
  have h0 : (0 : U256).val = 0 := rfl
  rw [h0, Nat.add_zero] at hzero
  unfold stop Ratio.floor_sqrt Ratio.from_bigint at hword ⊢
  unfold boundary_square at hzero ⊢
  split
  · rename_i boundary hboundary
    simp only [Option.dite_none_right_eq_some, Option.some.injEq] at hboundary
    obtain ⟨_, rfl⟩ := hboundary
    rw [le_min_iff, Fin.le_def, Fin.le_def, U256.saturating_sub_val]
    refine and_congr_right fun _ => ?_
    dsimp only at hzero ⊢
    omega
  · -- A root beyond the words is beyond every input that prices.
    rename_i hnone
    rw [hnone] at hword
    simp only [dite_eq_right_iff, reduceCtorEq, imp_false, not_lt] at hnone
    dsimp only at hword
    refine ⟨fun ha => ⟨ha, ?_⟩, fun ha => ha.1⟩
    have ha' : a.val ≤ amount_in.val := ha
    omega

/-- A fill below the spot price is marked where it is cut short. -/
theorem quote_with_limit_limited {pool : XycPool} {amount_in : U256} {limit : Ratio}
    {q : LimitedQuote} (hlimit : limit ≠ 0)
    (hspot : limit < (pool.balance_out.val : Ratio) / pool.balance_in.val)
    (h : pool.quote_with_limit amount_in limit = .ok q) :
    q.limited = decide (q.amount_in < amount_in) := by
  unfold quote_with_limit at h
  by_cases hempty : pool.is_empty = true
  · simp only [hempty, if_true] at h
    cases h
  have hin : ¬pool.balance_in = 0 := fun h0 =>
    ((not_is_empty_iff pool).mp hempty).1 (U256.eq_zero_iff.mp h0)
  simp only [hempty, Bool.false_eq_true, if_false, hlimit, Except.bind_eq_ok, marginal_price,
    ok_or_eq_ok, Ratio.new, hin, Option.some.injEq, exists_eq_left', Ratio.invert] at h
  rw [if_neg (not_le.mpr hspot)] at h
  simp only [Except.bind_eq_ok, ok_or_eq_ok, Option.some.injEq, exists_eq_left'] at h
  obtain ⟨out, -, hq⟩ := h
  cases hq
  rfl

/-- A higher limit takes no more input. -/
theorem fill_in_anti {pool : XycPool} {b : U256} {l l' : Ratio} (hle : l ≤ l')
    {q q' : LimitedQuote} (hq : pool.quote_with_limit b l = .ok q)
    (hq' : pool.quote_with_limit b l' = .ok q') : q'.amount_in ≤ q.amount_in := by
  rcases quote_with_limit_cases hq' with ⟨h0, hin', -⟩ | ⟨-, -, hin', -⟩ | ⟨-, hspot', hin', -⟩
  · -- Both limits are zero: both fills take the whole input.
    have hl : l = 0 := le_antisymm (hle.trans h0.le) zero_le
    rcases quote_with_limit_cases hq with ⟨-, hin, -⟩ | ⟨hne, -⟩ | ⟨hne, -⟩
    · rw [hin, hin']
    · exact absurd hl hne
    · exact absurd hl hne
  · rw [hin']
    exact Fin.zero_le _
  · rw [hin']
    rcases quote_with_limit_cases hq with ⟨-, hin, -⟩ | ⟨-, hspot, -⟩ | ⟨hne, -, hin, -⟩
    · rw [hin]
      exact pool.stop_le b l'
    · exact absurd (hspot.trans hle) (not_le.mpr hspot')
    · rw [hin]
      exact pool.stop_anti b hne hle

/-- **The closed form is optimal.** A fill at a positive limit below the spot
    price takes the largest input, within what was offered, whose margin still
    meets the limit; it is marked exactly when that is less than was offered, and
    a boundary beyond the words cuts nothing off. -/
theorem closed_form_optimal (pool : XycPool) (hin : pool.balance_in ≠ 0) (amount_in : U256)
    (limit : Ratio) (hlimit : 0 < limit)
    (hspot : limit < (pool.balance_out.val : Ratio) / pool.balance_in.val) (q : LimitedQuote)
    (h : pool.quote_with_limit amount_in limit = .ok q) :
    IsGreatest {a : U256 | a ≤ amount_in ∧ limit * ((pool.balance_in.val + a.val : ℕ) : Ratio) ^ 2 ≤
        (pool.balance_in.val : Ratio) * pool.balance_out.val} q.amount_in ∧
      (q.limited = true ↔ q.amount_in < amount_in) ∧
      (Ratio.floor_sqrt (Ratio.from_word pool.balance_in * Ratio.from_word pool.balance_out *
        limit⁻¹) = none → q.amount_in = amount_in) := by
  have hzero : pool.Clears limit 0 :=
    clears_zero (fun h0 => hin (U256.eq_zero_iff.mpr h0)) hspot
  obtain ⟨hstop, hquote⟩ : q.amount_in = pool.stop amount_in limit ∧
      pool.quote_exact_in (pool.stop amount_in limit) = .ok q.amount_out := by
    rcases quote_with_limit_cases h with ⟨h0, -⟩ | ⟨-, hover, -⟩ | ⟨-, -, hstop, hquote⟩
    · exact absurd h0 hlimit.ne'
    · exact absurd hspot (not_lt.mpr hover)
    · exact ⟨hstop, hquote⟩
  obtain ⟨-, -, hword, -⟩ := quote_exact_in_eq_ok.mp hquote
  have hiff : ∀ a, a ≤ pool.stop amount_in limit ↔ a ≤ amount_in ∧ pool.Clears limit a :=
    le_stop_iff hlimit hzero hword
  refine ⟨⟨?_, fun a ha => ?_⟩, ?_, fun hnone => ?_⟩
  · rw [hstop]
    exact (hiff _).mp le_rfl
  · rw [hstop]
    exact (hiff a).mpr ha
  · rw [quote_with_limit_limited hlimit.ne' hspot h, decide_eq_true_iff]
  · rw [hstop, stop, hnone]

/-- Reserves 1000 and 1000 at half the spot price. -/
theorem closed_form_optimal_sample :
    ∃ q, ({ balance_in := 1000, balance_out := 1000 } : XycPool).quote_with_limit 2000 (1 / 2) =
        .ok q ∧
      IsGreatest {a : U256 | a ≤ 2000 ∧ (1 / 2 : Ratio) * ((1000 + a.val : ℕ) : Ratio) ^ 2 ≤
        1000 * 1000} q.amount_in := by
  have hspot : (1 / 2 : Ratio) < ((1000 : U256).val : Ratio) / (1000 : U256).val := by
    have h1000 : (1000 : U256).val = 1000 := rfl
    rw [h1000]
    norm_num
  have hprices : ∃ y, ({ balance_in := 1000, balance_out := 1000 } : XycPool).quote_exact_in 2000 =
      .ok y := ⟨⟨666, by norm_num⟩, by decide⟩
  obtain ⟨y, hy⟩ := hprices
  obtain ⟨q, hq⟩ := quote_with_limit_ok hy (1 / 2)
  have hgreatest := (closed_form_optimal { balance_in := 1000, balance_out := 1000 } (by decide)
    2000 (1 / 2) (by norm_num) hspot q hq).1
  exact ⟨q, hq, by simpa using hgreatest⟩

end XycPool

/-! ## The bisected fill -/

/-- A bisection stays between its ends. -/
theorem bisect_within (keeps : U256 → Bool) (fuel : ℕ) {lo hi : U256} (h : lo ≤ hi) :
    lo ≤ (Loop.iterate (bisect_step keeps) fuel (lo, hi)).1 ∧
      (Loop.iterate (bisect_step keeps) fuel (lo, hi)).1 ≤ hi := by
  have hinv : ∀ s s' : U256 × U256, (lo ≤ s.1 ∧ s.1 ≤ s.2 ∧ s.2 ≤ hi) →
      bisect_step keeps s = some s' → (lo ≤ s'.1 ∧ s'.1 ≤ s'.2 ∧ s'.2 ≤ hi) := by
    rintro ⟨a, b⟩ s' ⟨hlo, hab, hhi⟩ hstep
    simp only [Fin.le_def] at hlo hab hhi
    simp only [bisect_step] at hstep
    split at hstep
    · cases hstep
    · split at hstep
      all_goals
        cases hstep
        simp only [Fin.le_def]
        omega
  obtain ⟨hlo, hle, hhi⟩ := Loop.iterate_invariant hinv fuel (s := (lo, hi)) ⟨le_rfl, h, le_rfl⟩
  exact ⟨hlo, hle.trans hhi⟩

/-- **Two runs.** Of two bisections of one bracket, the one that keeps less ends
    no higher, whether or not what they keep is down-closed. -/
theorem iterate_bisect_anti {keeps keeps' : U256 → Bool}
    (hkeeps : ∀ a, keeps' a = true → keeps a = true) (fuel : ℕ) {lo hi : U256} (h : lo ≤ hi) :
    (Loop.iterate (bisect_step keeps') fuel (lo, hi)).1 ≤
      (Loop.iterate (bisect_step keeps) fuel (lo, hi)).1 := by
  induction fuel generalizing lo hi with
  | zero => exact le_rfl
  | succ fuel ih =>
    by_cases hdone : converged lo hi = true
    · -- Both leave here.
      have hstep : ∀ k, bisect_step k (lo, hi) = none := by
        intro k
        simp [bisect_step, hdone]
      rw [Loop.iterate_of_none (hstep _), Loop.iterate_of_none (hstep _)]
    · have hle : lo.val ≤ hi.val := h
      obtain ⟨mid, hmid⟩ : ∃ mid : U256, mid.val = lo.val + (hi.val - lo.val) / 2 :=
        ⟨⟨lo.val + (hi.val - lo.val) / 2, by omega⟩, rfl⟩
      have hlo : lo ≤ mid := by rw [Fin.le_def]; omega
      have hhi : mid ≤ hi := by rw [Fin.le_def]; omega
      have hstep : ∀ k, bisect_step k (lo, hi) = some (if k mid then (mid, hi) else (lo, mid)) := by
        intro k
        have hsame : (⟨lo.val + (hi.val - lo.val) / 2, by omega⟩ : U256) = mid :=
          Fin.ext hmid.symm
        simp only [bisect_step, hdone, Bool.false_eq_true, if_false, hsame]
        split <;> rfl
      rw [Loop.iterate_of_some (hstep _), Loop.iterate_of_some (hstep _)]
      by_cases hk' : keeps' mid = true
      · rw [if_pos hk', if_pos (hkeeps mid hk')]
        exact ih hhi
      · rw [if_neg hk']
        by_cases hk : keeps mid = true
        · -- The runs part: one stays below the midpoint, the other above it.
          rw [if_pos hk]
          exact (bisect_within keeps' fuel hlo).2.trans (bisect_within keeps fuel hhi).1
        · rw [if_neg hk]
          exact ih hlo

theorem bisect_anti {keeps keeps' : U256 → Bool} (hkeeps : ∀ a, keeps' a = true → keeps a = true)
    {lo hi : U256} (h : lo ≤ hi) : bisect keeps' lo hi ≤ bisect keeps lo hi :=
  iterate_bisect_anti hkeeps 256 h

/-- **Bisected fills.** A higher limit takes no more input. -/
theorem numerical_in_anti {quote : U256 → Except CurveError U256} {b : U256} {l l' : Ratio}
    (hle : l ≤ l') {q q' : LimitedQuote} (hq : fill_to_limit_numerical quote b l = .ok q)
    (hq' : fill_to_limit_numerical quote b l' = .ok q') : q'.amount_in ≤ q.amount_in := by
  unfold fill_to_limit_numerical at hq hq'
  by_cases hb : b = 0
  · rw [if_pos hb] at hq hq'
    cases hq
    cases hq'
    exact le_rfl
  rw [if_neg hb] at hq hq'
  -- The bound and the step are those of both runs.
  revert hq hq'
  generalize feasible_bound b (fun input => is_ok (quote input)) = bound
  intro hq hq'
  simp only at hq hq'
  by_cases hzero : bound = 0
  · rw [if_pos hzero] at hq hq'
    cases hq
    cases hq'
    exact le_rfl
  rw [if_neg hzero] at hq hq'
  obtain ⟨m, hm, hq⟩ := Except.bind_eq_ok.mp hq
  obtain ⟨m', hm', hq'⟩ := Except.bind_eq_ok.mp hq'
  obtain rfl := Except.ok.inj (hm.symm.trans hm')
  by_cases hfull : l ≤ m
  · -- The lower limit takes the whole bound, which no run exceeds.
    rw [if_pos hfull] at hq
    obtain ⟨out, -, hq⟩ := Except.bind_eq_ok.mp hq
    cases hq
    by_cases hfull' : l' ≤ m
    · rw [if_pos hfull'] at hq'
      obtain ⟨out', -, hq'⟩ := Except.bind_eq_ok.mp hq'
      cases hq'
      exact le_rfl
    · rw [if_neg hfull'] at hq'
      obtain ⟨m0, -, hq'⟩ := Except.bind_eq_ok.mp hq'
      split at hq'
      · cases hq'
        exact Fin.zero_le _
      · obtain ⟨out', -, hq'⟩ := Except.bind_eq_ok.mp hq'
        cases hq'
        exact (bisect_spec _ (Fin.zero_le _)).2
  · rw [if_neg hfull] at hq
    rw [if_neg fun hfull' => hfull (hle.trans hfull')] at hq'
    obtain ⟨m0, hm0, hq⟩ := Except.bind_eq_ok.mp hq
    obtain ⟨m0', hm0', hq'⟩ := Except.bind_eq_ok.mp hq'
    obtain rfl := Except.ok.inj (hm0.symm.trans hm0')
    by_cases hnone' : m0 < l'
    · rw [if_pos hnone'] at hq'
      cases hq'
      exact Fin.zero_le _
    · rw [if_neg hnone'] at hq'
      rw [if_neg fun hnone => hnone' (hnone.trans_le hle)] at hq
      obtain ⟨out, -, hq⟩ := Except.bind_eq_ok.mp hq
      obtain ⟨out', -, hq'⟩ := Except.bind_eq_ok.mp hq'
      cases hq
      cases hq'
      refine bisect_anti (fun a ha => ?_) (Fin.zero_le _)
      simp only [Bool.and_eq_true] at ha ⊢
      refine ⟨ha.1, ?_⟩
      have hmargin := ha.2
      split at hmargin
      · rename_i margin hmargin_eq
        simp only [decide_eq_true_iff] at hmargin ⊢
        exact hle.trans hmargin
      · cases hmargin

/-- A higher limit takes no more input, on any curve. -/
theorem CurvePool.fill_in_anti {pool : CurvePool} {b : U256} {l l' : Ratio} (hle : l ≤ l')
    {q q' : LimitedQuote} (hq : pool.quote_with_limit b l = .ok q)
    (hq' : pool.quote_with_limit b l' = .ok q') : q'.amount_in ≤ q.amount_in := by
  match pool with
  | .Xyc p => exact XycPool.fill_in_anti hle hq hq'
  | .Concentrate p =>
    obtain ⟨v, hv, hq⟩ := Except.bind_eq_ok.mp hq
    obtain ⟨v', hv', hq'⟩ := Except.bind_eq_ok.mp hq'
    obtain rfl := Except.ok.inj (hv.symm.trans hv')
    exact XycPool.fill_in_anti hle hq hq'
  | .Pegged p => exact numerical_in_anti hle hq hq'

end Solvent
