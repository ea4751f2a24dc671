import Solvent.Crosschain.Proxy
import Solvent.Framework.Contract
import Solvent.Framework.Loop

/-! # The CCTP fee of a repayment

    The quote takes Circle's minimum rate on the repayment, rounded up, and the
    origin settler burns the repayment and the fee together. So the rate is
    charged on the fee as well, which the rounding absorbs only while the fee on
    the fee is below what was rounded up.
-/

namespace Solvent

open Contract

structure CctpFee where
  finality_threshold : U32
  /-- Parts per million. -/
  minimum_fee_ppm : U32

structure CctpRouteCapacity where
  fees : List CctpFee
  fast_allowance_subunits : U256

inductive CctpAttestationError where
  | Pending
  | RateLimited (retry_after_secs : Option U64)
  | Transport (message : String)
  | InvalidResponse (message : String)

def completion_error : CctpAttestationError → CctpCompletionError
  | .Pending => .Pending
  | .RateLimited retry_after_secs => .RateLimited retry_after_secs
  | .Transport message => .Transport message
  | .InvalidResponse message => .Invalid message

structure CircleCctpCompletion where
  source_domain : U32
  destination_domain : U32
  finality_threshold : U32

/-- A million. -/
def PPM : U256 := 1000000

/-- `route_capacity` is what Circle answers for a pair of domains. -/
def CircleCctpCompletion.quote_terms (c : CircleCctpCompletion)
    (route_capacity : U32 → U32 → Except CctpAttestationError CctpRouteCapacity)
    (repayment : U256) : Except CctpCompletionError CctpQuoteTerms := do
  let capacity ← bubble completion_error (route_capacity c.source_domain c.destination_domain)
  let fee ← expect (capacity.fees.find? fun fee => fee.finality_threshold = c.finality_threshold)
    (.Invalid "Circle returned no fee for the configured finality")
  let numerator ← expect
    ((repayment.checked_mul ⟨fee.minimum_fee_ppm.val, by omega⟩).bind fun value =>
      value.checked_add (PPM - 1))
    (.Invalid "CCTP fee overflow")
  let max_fee := numerator / PPM
  let burn_amount ← expect (repayment.checked_add max_fee) (.Invalid "CCTP burn overflow")
  require (burn_amount ≤ capacity.fast_allowance_subunits)
    (.Invalid "Circle Fast Transfer allowance is below the requested repayment")
  .ok { max_fee, finality_threshold := c.finality_threshold }

/-- What `settleRouted` burns, and the most of it Circle may keep. -/
def settleRouted_burn (repaymentAmount maxCctpFee : U256) : Option (U256 × U256) := do
  let burnAmount ← repaymentAmount.checked_add maxCctpFee
  some (burnAmount, maxCctpFee)

/-- The least Circle takes of a burn. -/
def CctpFee.minimum (fee : CctpFee) (amount : U256) : ℕ :=
  amount.val * fee.minimum_fee_ppm.val / 1000000

/-- The rounding of the fee absorbs the fee on the fee. -/
def Absorbed (repayment : U256) (fee : CctpFee) : Prop :=
  let ppm := fee.minimum_fee_ppm.val
  let quotient := repayment.val * ppm / 1000000
  let remainder := repayment.val * ppm % 1000000
  if remainder = 0 then quotient * ppm < 1000000
  else (quotient + 1) * ppm + remainder < 2 * 1000000

/-- **Spec of `quote_terms`.** The fee is the rate on the repayment, rounded up,
    and the burn is a word. -/
theorem quote_terms_ok {c : CircleCctpCompletion}
    {route_capacity : U32 → U32 → Except CctpAttestationError CctpRouteCapacity}
    {repayment : U256} {terms : CctpQuoteTerms}
    (h : c.quote_terms route_capacity repayment = .ok terms) :
    ∃ capacity fee burn_amount,
      route_capacity c.source_domain c.destination_domain = .ok capacity ∧
      (capacity.fees.find? fun fee => fee.finality_threshold = c.finality_threshold) = some fee ∧
      terms.max_fee.val = (repayment.val * fee.minimum_fee_ppm.val + 999999) / 1000000 ∧
      repayment.checked_add terms.max_fee = some burn_amount := by
  unfold CircleCctpCompletion.quote_terms at h
  obtain ⟨capacity, hcapacity, h⟩ := bubble_bind.mp h
  obtain ⟨fee, hfee, h⟩ := expect_bind.mp h
  obtain ⟨numerator, hnumerator, h⟩ := expect_bind.mp h
  obtain ⟨burn_amount, hburn, h⟩ := expect_bind.mp h
  obtain ⟨-, h⟩ := require_bind.mp h
  obtain rfl := Except.ok.inj h
  obtain ⟨value, hvalue, hraised⟩ := Option.bind_eq_some_iff.mp hnumerator
  have hmul := U256.checked_mul_eq_some.mp hvalue
  have hadd := U256.checked_add_eq_some.mp hraised
  refine ⟨capacity, fee, burn_amount, hcapacity, hfee, ?_, hburn⟩
  show numerator.val / PPM.val = _
  rw [← hadd, ← hmul]
  rfl

/-- The rounded fee covers the rate on itself exactly where it is absorbed. -/
theorem covers_iff_absorbed (repayment : U256) (fee : CctpFee) {max_fee burn_amount : U256}
    (hfee : max_fee.val = (repayment.val * fee.minimum_fee_ppm.val + 999999) / 1000000)
    (hburn : repayment.checked_add max_fee = some burn_amount) :
    fee.minimum burn_amount ≤ max_fee.val ↔ Absorbed repayment fee := by
  have hsum := U256.checked_add_eq_some.mp hburn
  unfold CctpFee.minimum Absorbed
  simp only
  set ppm := fee.minimum_fee_ppm.val
  set quotient := repayment.val * ppm / 1000000 with hquotient
  set remainder := repayment.val * ppm % 1000000 with hremainder
  have hdiv : repayment.val * ppm = 1000000 * quotient + remainder := (Nat.div_add_mod _ _).symm
  have hlt : remainder < 1000000 := Nat.mod_lt _ (by norm_num)
  rw [← hsum, Nat.add_mul, hdiv]
  rw [hdiv] at hfee
  by_cases hexact : remainder = 0
  · have hfee' : max_fee.val = quotient := by omega
    rw [if_pos hexact, hfee']
    omega
  · have hfee' : max_fee.val = quotient + 1 := by omega
    rw [if_neg hexact, hfee']
    omega

/-- **The quoted fee.** `settleRouted` can burn under it exactly where the rounding
    of the fee absorbs the fee on the fee. -/
theorem quoted_fee_covers_iff {c : CircleCctpCompletion}
    {route_capacity : U32 → U32 → Except CctpAttestationError CctpRouteCapacity}
    {repayment : U256} {terms : CctpQuoteTerms}
    (h : c.quote_terms route_capacity repayment = .ok terms) :
    ∃ capacity fee burnAmount,
      route_capacity c.source_domain c.destination_domain = .ok capacity ∧
      (capacity.fees.find? fun fee => fee.finality_threshold = c.finality_threshold) = some fee ∧
      settleRouted_burn repayment terms.max_fee = some (burnAmount, terms.max_fee) ∧
      (fee.minimum burnAmount ≤ terms.max_fee.val ↔ Absorbed repayment fee) := by
  obtain ⟨capacity, fee, burn_amount, hcapacity, hfound, hfee, hburn⟩ := quote_terms_ok h
  refine ⟨capacity, fee, burn_amount, hcapacity, hfound, ?_, covers_iff_absorbed _ _ hfee hburn⟩
  rw [settleRouted_burn, hburn]
  rfl

/-! ## A basis point -/

/-- A hundred parts a million of any amount. -/
def sample_capacity (_ _ : U32) : Except CctpAttestationError CctpRouteCapacity :=
  .ok { fees := [⟨1000, 100⟩], fast_allowance_subunits := U256.MAX }

def sample_completion : CircleCctpCompletion :=
  { source_domain := 0, destination_domain := 6, finality_threshold := 1000 }

/-- Ten thousand units burn under their quoted fee. -/
theorem quoted_fee_covers_iff_sample :
    ∃ terms burnAmount, sample_completion.quote_terms sample_capacity 10000 = .ok terms ∧
      settleRouted_burn 10000 terms.max_fee = some (burnAmount, terms.max_fee) ∧
      (⟨1000, 100⟩ : CctpFee).minimum burnAmount ≤ terms.max_fee.val := by
  have hquote : sample_completion.quote_terms sample_capacity 10000 =
      .ok { max_fee := 1, finality_threshold := 1000 } := rfl
  obtain ⟨capacity, fee, burnAmount, hcapacity, hfee, hburn, hiff⟩ := quoted_fee_covers_iff hquote
  cases hcapacity
  obtain rfl : ⟨1000, 100⟩ = fee := Option.some.inj hfee
  exact ⟨_, burnAmount, hquote, hburn, hiff.mpr (by unfold Absorbed; decide)⟩

/-- A million USDC at one basis point: the fee on the fee is a cent. -/
theorem fee_on_fee_is_not_covered :
    ¬∀ (repayment : U256) (terms : CctpQuoteTerms) (burnAmount : U256),
      sample_completion.quote_terms sample_capacity repayment = .ok terms →
      settleRouted_burn repayment terms.max_fee = some (burnAmount, terms.max_fee) →
      (⟨1000, 100⟩ : CctpFee).minimum burnAmount ≤ terms.max_fee.val := by
  intro h
  have hminimum := h 1000000000000 { max_fee := 100000000, finality_threshold := 1000 }
    1000100000000 rfl rfl
  exact absurd hminimum (by decide)

end Solvent
