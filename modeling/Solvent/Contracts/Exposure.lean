import Mathlib
import Solvent.Contracts.Chains

/-! # What the application is owed

    A strategy's outstanding amount is the sum of its delivered receivables, and
    stays within its cap. Only six writes touch the tables, and each of them
    keeps this: configuring a strategy leaves what is outstanding alone and
    cannot put the cap below it, opening a receivable adds its amount under the
    cap, and closing one takes its amount off.

    The other calls made during a delivery can configure strategies, and nothing
    else they do reaches the application.
-/

namespace Solvent.Contracts

open Abi Contract

/-! ## Receivables -/

/-- What a receivable adds to the exposure of a strategy. -/
def DirectReceivable.owed (key : Address × B256) (r : DirectReceivable) : ℕ :=
  if r.state = .Delivered ∧ (r.maker, r.destinationStrategyHash) = key then r.repaymentAmount.val
  else 0

def CreditReceivable.owed (key : Address × B256) (r : CreditReceivable) : ℕ :=
  if r.state = .Delivered ∧ (r.maker, r.destinationStrategyHash) = key then r.usdcDue.val else 0

/-- A receivable stays, opens, or closes with its terms. -/
def DirectReceivable.Moves (r r' : DirectReceivable) : Prop :=
  r' = r ∨ (r.state = .None ∧ r'.state = .Delivered) ∨
    (r.state = .Delivered ∧ r' = { r with state := .Repaid })

def CreditReceivable.Moves (r r' : CreditReceivable) : Prop :=
  r' = r ∨ (r.state = .None ∧ r'.state = .Delivered) ∨
    (r.state = .Delivered ∧ r' = { r with state := .Repaid })

theorem DirectReceivable.owed_of_not_delivered {r : DirectReceivable} (h : r.state ≠ .Delivered)
    (key : Address × B256) : r.owed key = 0 :=
  if_neg fun hand => h hand.1

theorem CreditReceivable.owed_of_not_delivered {r : CreditReceivable} (h : r.state ≠ .Delivered)
    (key : Address × B256) : r.owed key = 0 :=
  if_neg fun hand => h hand.1

theorem DirectReceivable.owed_delivered {r : DirectReceivable} (h : r.state = .Delivered)
    (key : Address × B256) :
    r.owed key = if (r.maker, r.destinationStrategyHash) = key then r.repaymentAmount.val else 0 := by
  simp [DirectReceivable.owed, h]

theorem CreditReceivable.owed_delivered {r : CreditReceivable} (h : r.state = .Delivered)
    (key : Address × B256) :
    r.owed key = if (r.maker, r.destinationStrategyHash) = key then r.usdcDue.val else 0 := by
  simp [CreditReceivable.owed, h]

namespace CrossChainAquaApp

/-! ## The invariant -/

/-- Exposure is exact and capped, and an order opens one receivable at most. -/
structure Exposed (s : CrossChainAquaApp) : Prop where
  direct : ∀ key, (s.directStrategies key).outstandingRepayment.val =
    Mapping.total (DirectReceivable.owed key) s.directReceivables
  direct_cap : ∀ key, (s.directStrategies key).outstandingRepayment ≤
    (s.directStrategies key).maxOutstandingRepayment
  credit : ∀ key, (s.creditStrategies key).outstandingUsdc.val =
    Mapping.total (CreditReceivable.owed key) s.creditReceivables
  credit_cap : ∀ key, (s.creditStrategies key).outstandingUsdc ≤
    (s.creditStrategies key).maxOutstandingUsdc
  direct_used : ∀ id, (s.directReceivables id).state ≠ .None → s.usedOrders id = true
  credit_used : ∀ id, (s.creditReceivables id).state ≠ .None → s.usedOrders id = true
  apart : ∀ id, (s.directReceivables id).state = .None ∨ (s.creditReceivables id).state = .None

theorem exposed_empty : Exposed empty where
  direct key := (Mapping.total_const (DirectReceivable.owed_of_not_delivered (by decide) key)).symm
  direct_cap _ := le_rfl
  credit key := (Mapping.total_const (CreditReceivable.owed_of_not_delivered (by decide) key)).symm
  credit_cap _ := le_rfl
  direct_used _ h := absurd rfl h
  credit_used _ h := absurd rfl h
  apart _ := .inl rfl

/-! ## Configuring -/

/-- What configuring a strategy leaves alone. -/
structure Configured (s s' : CrossChainAquaApp) : Prop where
  directReceivables : s'.directReceivables = s.directReceivables
  creditReceivables : s'.creditReceivables = s.creditReceivables
  directRepaymentTokens : s'.directRepaymentTokens = s.directRepaymentTokens
  usedOrders : s'.usedOrders = s.usedOrders
  usedRepaymentProofs : s'.usedRepaymentProofs = s.usedRepaymentProofs
  direct : ∀ key, (s'.directStrategies key).outstandingRepayment =
    (s.directStrategies key).outstandingRepayment
  credit : ∀ key, (s'.creditStrategies key).outstandingUsdc =
    (s.creditStrategies key).outstandingUsdc
  exposed : Exposed s → Exposed s'

theorem Configured.refl (s : CrossChainAquaApp) : Configured s s :=
  ⟨rfl, rfl, rfl, rfl, rfl, fun _ => rfl, fun _ => rfl, id⟩

theorem Configured.trans {s s' s'' : CrossChainAquaApp} (h : Configured s s')
    (h' : Configured s' s'') : Configured s s'' where
  directReceivables := h'.directReceivables.trans h.directReceivables
  creditReceivables := h'.creditReceivables.trans h.creditReceivables
  directRepaymentTokens := h'.directRepaymentTokens.trans h.directRepaymentTokens
  usedOrders := h'.usedOrders.trans h.usedOrders
  usedRepaymentProofs := h'.usedRepaymentProofs.trans h.usedRepaymentProofs
  direct key := (h'.direct key).trans (h.direct key)
  credit key := (h'.credit key).trans (h.credit key)
  exposed hs := h'.exposed (h.exposed hs)

theorem configureDirectStrategy_ok {s s' : CrossChainAquaApp} {caller : Address}
    {strategyHash : B256} {outputToken : Address} {maxOutstandingRepayment : U256} {enabled : Bool}
    {tokensCount : Uint8}
    (h : s.configureDirectStrategy caller strategyHash outputToken maxOutstandingRepayment enabled
      tokensCount = .ok s') : Configured s s' := by
  unfold configureDirectStrategy at h
  simp only [require_bind] at h
  obtain ⟨-, -, hcap, -, h⟩ := h
  obtain rfl := Except.ok.inj h
  have hsame : ∀ key, (Mapping.set s.directStrategies (caller, strategyHash)
      { s.directStrategies (caller, strategyHash) with
        outputToken, maxOutstandingRepayment, enabled } key).outstandingRepayment =
      (s.directStrategies key).outstandingRepayment := by
    intro key
    rw [Mapping.set_apply]
    split
    · rename_i hkey
      rw [hkey]
    · rfl
  refine ⟨rfl, rfl, rfl, rfl, rfl, hsame, fun _ => rfl, ?_⟩
  intro hs
  refine { hs with direct := ?_, direct_cap := ?_ }
  · intro key
    show (Mapping.set s.directStrategies _ _ key).outstandingRepayment.val = _
    rw [hsame key]
    exact hs.direct key
  · intro key
    show (Mapping.set s.directStrategies _ _ key).outstandingRepayment ≤
      (Mapping.set s.directStrategies _ _ key).maxOutstandingRepayment
    rw [Mapping.set_apply]
    split
    · exact hcap
    · exact hs.direct_cap key

theorem configureCreditStrategy_ok {s s' : CrossChainAquaApp} {caller : Address}
    {strategyHash : B256} {outputToken : Address} {maxOutstandingUsdc : U256} {enabled : Bool}
    {tokensCount usdcCount : Uint8}
    (h : s.configureCreditStrategy caller strategyHash outputToken maxOutstandingUsdc enabled
      tokensCount usdcCount = .ok s') : Configured s s' := by
  unfold configureCreditStrategy at h
  simp only [require_bind] at h
  obtain ⟨-, -, hcap, -, h⟩ := h
  obtain rfl := Except.ok.inj h
  have hsame : ∀ key, (Mapping.set s.creditStrategies (caller, strategyHash)
      { s.creditStrategies (caller, strategyHash) with
        outputToken, maxOutstandingUsdc, enabled } key).outstandingUsdc =
      (s.creditStrategies key).outstandingUsdc := by
    intro key
    rw [Mapping.set_apply]
    split
    · rename_i hkey
      rw [hkey]
    · rfl
  refine ⟨rfl, rfl, rfl, rfl, rfl, fun _ => rfl, hsame, ?_⟩
  intro hs
  refine { hs with credit := ?_, credit_cap := ?_ }
  · intro key
    show (Mapping.set s.creditStrategies _ _ key).outstandingUsdc.val = _
    rw [hsame key]
    exact hs.credit key
  · intro key
    show (Mapping.set s.creditStrategies _ _ key).outstandingUsdc ≤
      (Mapping.set s.creditStrategies _ _ key).maxOutstandingUsdc
    rw [Mapping.set_apply]
    split
    · exact hcap
    · exact hs.credit_cap key

/-! ## Opening -/

section Opening

variable {keccak256 : Bytes → B256} {cfg : AppConfig} {s s' : CrossChainAquaApp} {timestamp : U256}
  {order : SolventCrossChainOrder}

/-- What opening a direct receivable writes. -/
structure OpensDirect (s s' : CrossChainAquaApp) (orderId : B256) (order : SolventCrossChainOrder)
    (quote : DirectMakerQuote) : Prop where
  fresh : s.usedOrders orderId = false
  used : s'.usedOrders = Mapping.set s.usedOrders orderId true
  outstanding : ∃ outstandingRepayment : U256,
    (s.directStrategies (quote.maker, quote.destinationStrategyHash)).outstandingRepayment.val +
      quote.repaymentAmount.val = outstandingRepayment.val ∧
    outstandingRepayment ≤
      (s.directStrategies (quote.maker, quote.destinationStrategyHash)).maxOutstandingRepayment ∧
    s'.directStrategies = Mapping.set s.directStrategies
      (quote.maker, quote.destinationStrategyHash)
      { s.directStrategies (quote.maker, quote.destinationStrategyHash) with outstandingRepayment }
  receivable : ∃ filledAt, s'.directReceivables = Mapping.set s.directReceivables orderId
    { maker := quote.maker, destinationStrategyHash := quote.destinationStrategyHash
      originStrategyHash := quote.originStrategyHash, repaymentAmount := quote.repaymentAmount
      filledAt, state := .Delivered }
  token : s'.directRepaymentTokens =
    Mapping.set s.directRepaymentTokens orderId order.inputToken
  proofs : s'.usedRepaymentProofs = s.usedRepaymentProofs
  creditStrategies : s'.creditStrategies = s.creditStrategies
  creditReceivables : s'.creditReceivables = s.creditReceivables

theorem open_direct_ok {quote : DirectMakerQuote}
    (h : s.open_direct keccak256 cfg timestamp order quote = .ok s') :
    OpensDirect s s' (CrossChainHashLib.hashOrder keccak256 order) order quote := by
  unfold open_direct at h
  simp only [require_bind, expect_bind] at h
  obtain ⟨-, -, outstandingRepayment, hsum, hcap, hfresh, -, h⟩ := h
  obtain rfl := Except.ok.inj h
  rw [U256.checked_add_eq_some] at hsum
  exact ⟨hfresh, rfl, ⟨_, hsum, hcap, rfl⟩, ⟨_, rfl⟩, rfl, rfl, rfl, rfl⟩

/-- What opening a credit receivable writes. -/
structure OpensCredit (s s' : CrossChainAquaApp) (orderId : B256) (quote : MakerCreditQuote) :
    Prop where
  fresh : s.usedOrders orderId = false
  used : s'.usedOrders = Mapping.set s.usedOrders orderId true
  outstanding : ∃ outstandingUsdc : U256,
    (s.creditStrategies (quote.maker, quote.destinationStrategyHash)).outstandingUsdc.val +
      quote.usdcDue.val = outstandingUsdc.val ∧
    outstandingUsdc ≤
      (s.creditStrategies (quote.maker, quote.destinationStrategyHash)).maxOutstandingUsdc ∧
    s'.creditStrategies = Mapping.set s.creditStrategies
      (quote.maker, quote.destinationStrategyHash)
      { s.creditStrategies (quote.maker, quote.destinationStrategyHash) with outstandingUsdc }
  receivable : ∃ filledAt, s'.creditReceivables = Mapping.set s.creditReceivables orderId
    { maker := quote.maker, destinationStrategyHash := quote.destinationStrategyHash
      usdcDue := quote.usdcDue, maxCctpFee := quote.maxCctpFee
      filledAt, state := .Delivered }
  token : s'.directRepaymentTokens = s.directRepaymentTokens
  proofs : s'.usedRepaymentProofs = s.usedRepaymentProofs
  directStrategies : s'.directStrategies = s.directStrategies
  directReceivables : s'.directReceivables = s.directReceivables

theorem open_credit_ok {quote : MakerCreditQuote}
    (h : s.open_credit keccak256 cfg timestamp order quote = .ok s') :
    OpensCredit s s' (CrossChainHashLib.hashOrder keccak256 order) quote := by
  unfold open_credit at h
  simp only [require_bind, expect_bind] at h
  obtain ⟨-, -, outstandingUsdc, hsum, hcap, hfresh, -, h⟩ := h
  obtain rfl := Except.ok.inj h
  rw [U256.checked_add_eq_some] at hsum
  exact ⟨hfresh, rfl, ⟨_, hsum, hcap, rfl⟩, ⟨_, rfl⟩, rfl, rfl, rfl, rfl⟩

/-- An unused order has no receivable. -/
theorem Exposed.none_of_unused (hs : Exposed s) {id : B256} (h : s.usedOrders id = false) :
    (s.directReceivables id).state = .None ∧ (s.creditReceivables id).state = .None := by
  constructor
  · by_contra hne
    rw [hs.direct_used id hne] at h
    cases h
  · by_contra hne
    rw [hs.credit_used id hne] at h
    cases h

/-- **Step lemma.** A direct receivable opens under the cap. -/
theorem Exposed.opens_direct {orderId : B256} {quote : DirectMakerQuote} (hs : Exposed s)
    (h : OpensDirect s s' orderId order quote) : Exposed s' := by
  obtain ⟨outstandingRepayment, hsum, hcap, hstrategies⟩ := h.outstanding
  obtain ⟨filledAt, hreceivables⟩ := h.receivable
  obtain ⟨hnone, hnone'⟩ := hs.none_of_unused h.fresh
  constructor
  · intro key
    have htotal := Mapping.total_set (DirectReceivable.owed key) s.directReceivables orderId
      { maker := quote.maker, destinationStrategyHash := quote.destinationStrategyHash
        originStrategyHash := quote.originStrategyHash, repaymentAmount := quote.repaymentAmount
        filledAt, state := .Delivered }
    rw [DirectReceivable.owed_of_not_delivered (by rw [hnone]; decide),
      DirectReceivable.owed_delivered rfl] at htotal
    dsimp only at htotal
    have hold := hs.direct key
    rw [hstrategies, hreceivables, Mapping.set_apply]
    by_cases hkey : key = (quote.maker, quote.destinationStrategyHash)
    · subst hkey
      rw [if_pos rfl] at htotal ⊢
      show outstandingRepayment.val = _
      omega
    · rw [if_neg fun heq => hkey heq.symm] at htotal
      rw [if_neg hkey]
      omega
  · intro key
    rw [hstrategies, Mapping.set_apply]
    split
    · exact hcap
    · exact hs.direct_cap key
  · rw [h.creditStrategies, h.creditReceivables]
    exact hs.credit
  · rw [h.creditStrategies]
    exact hs.credit_cap
  · intro id hid
    rw [hreceivables, Mapping.set_apply] at hid
    rw [h.used, Mapping.set_apply]
    split
    · rfl
    · rename_i hne
      rw [if_neg hne] at hid
      exact hs.direct_used id hid
  · intro id hid
    rw [h.creditReceivables] at hid
    rw [h.used, Mapping.set_apply]
    split
    · rfl
    · exact hs.credit_used id hid
  · intro id
    rw [h.creditReceivables, hreceivables, Mapping.set_apply]
    split
    · rename_i heq
      rw [heq]
      exact .inr hnone'
    · exact hs.apart id

/-- **Step lemma.** A credit receivable opens under the cap. -/
theorem Exposed.opens_credit {orderId : B256} {quote : MakerCreditQuote} (hs : Exposed s)
    (h : OpensCredit s s' orderId quote) : Exposed s' := by
  obtain ⟨outstandingUsdc, hsum, hcap, hstrategies⟩ := h.outstanding
  obtain ⟨filledAt, hreceivables⟩ := h.receivable
  obtain ⟨hnone, hnone'⟩ := hs.none_of_unused h.fresh
  constructor
  · rw [h.directStrategies, h.directReceivables]
    exact hs.direct
  · rw [h.directStrategies]
    exact hs.direct_cap
  · intro key
    have htotal := Mapping.total_set (CreditReceivable.owed key) s.creditReceivables orderId
      { maker := quote.maker, destinationStrategyHash := quote.destinationStrategyHash
        usdcDue := quote.usdcDue, maxCctpFee := quote.maxCctpFee
        filledAt, state := .Delivered }
    rw [CreditReceivable.owed_of_not_delivered (by rw [hnone']; decide),
      CreditReceivable.owed_delivered rfl] at htotal
    dsimp only at htotal
    have hold := hs.credit key
    rw [hstrategies, hreceivables, Mapping.set_apply]
    by_cases hkey : key = (quote.maker, quote.destinationStrategyHash)
    · subst hkey
      rw [if_pos rfl] at htotal ⊢
      show outstandingUsdc.val = _
      omega
    · rw [if_neg fun heq => hkey heq.symm] at htotal
      rw [if_neg hkey]
      omega
  · intro key
    rw [hstrategies, Mapping.set_apply]
    split
    · exact hcap
    · exact hs.credit_cap key
  · intro id hid
    rw [h.directReceivables] at hid
    rw [h.used, Mapping.set_apply]
    split
    · rfl
    · exact hs.direct_used id hid
  · intro id hid
    rw [hreceivables, Mapping.set_apply] at hid
    rw [h.used, Mapping.set_apply]
    split
    · rfl
    · rename_i hne
      rw [if_neg hne] at hid
      exact hs.credit_used id hid
  · intro id
    rw [h.directReceivables, hreceivables, Mapping.set_apply]
    split
    · rename_i heq
      rw [heq]
      exact .inl hnone
    · exact hs.apart id

end Opening

/-! ## Closing -/

section Closing

variable {cfg : AppConfig} {s s' : CrossChainAquaApp} {orderId : B256}

/-- What closing a direct receivable writes. -/
structure ClosesDirect (s s' : CrossChainAquaApp) (orderId repaymentId : B256) : Prop where
  delivered : (s.directReceivables orderId).state = .Delivered
  fresh : s.usedRepaymentProofs repaymentId = false
  proofs : s'.usedRepaymentProofs = Mapping.set s.usedRepaymentProofs repaymentId true
  receivable : s'.directReceivables = Mapping.set s.directReceivables orderId
    { s.directReceivables orderId with state := .Repaid }
  outstanding : ∃ outstandingRepayment : U256,
    (s.directReceivables orderId).repaymentAmount.val + outstandingRepayment.val =
      (s.directStrategies ((s.directReceivables orderId).maker,
        (s.directReceivables orderId).destinationStrategyHash)).outstandingRepayment.val ∧
    s'.directStrategies = Mapping.set s.directStrategies
      ((s.directReceivables orderId).maker, (s.directReceivables orderId).destinationStrategyHash)
      { s.directStrategies ((s.directReceivables orderId).maker,
          (s.directReceivables orderId).destinationStrategyHash) with outstandingRepayment }
  used : s'.usedOrders = s.usedOrders
  token : s'.directRepaymentTokens = s.directRepaymentTokens
  creditStrategies : s'.creditStrategies = s.creditStrategies
  creditReceivables : s'.creditReceivables = s.creditReceivables

theorem close_direct_ok {repayment : VerifiedRepayment}
    (h : s.close_direct cfg orderId repayment = .ok s') :
    repayment_matches cfg s orderId repayment ∧ ClosesDirect s s' orderId repayment.repaymentId := by
  unfold close_direct at h
  simp only [require_bind, expect_bind] at h
  obtain ⟨hfresh, hmatches, outstandingRepayment, hrelease, h⟩ := h
  obtain rfl := Except.ok.inj h
  rw [release_direct, U256.checked_sub_eq_some] at hrelease
  exact ⟨hmatches, hmatches.1, hfresh, rfl, rfl, ⟨_, hrelease, rfl⟩, rfl, rfl, rfl, rfl⟩

/-- What closing a credit receivable writes. -/
structure ClosesCredit (s s' : CrossChainAquaApp) (orderId : B256) : Prop where
  receivable : s'.creditReceivables = Mapping.set s.creditReceivables orderId
    { s.creditReceivables orderId with state := .Repaid }
  outstanding : ∃ outstandingUsdc : U256,
    (s.creditReceivables orderId).usdcDue.val + outstandingUsdc.val =
      (s.creditStrategies ((s.creditReceivables orderId).maker,
        (s.creditReceivables orderId).destinationStrategyHash)).outstandingUsdc.val ∧
    s'.creditStrategies = Mapping.set s.creditStrategies
      ((s.creditReceivables orderId).maker, (s.creditReceivables orderId).destinationStrategyHash)
      { s.creditStrategies ((s.creditReceivables orderId).maker,
          (s.creditReceivables orderId).destinationStrategyHash) with outstandingUsdc }
  used : s'.usedOrders = s.usedOrders
  token : s'.directRepaymentTokens = s.directRepaymentTokens
  proofs : s'.usedRepaymentProofs = s.usedRepaymentProofs
  directStrategies : s'.directStrategies = s.directStrategies
  directReceivables : s'.directReceivables = s.directReceivables

theorem close_credit_ok (h : s.close_credit orderId = .ok s') : ClosesCredit s s' orderId := by
  unfold close_credit at h
  simp only [expect_bind] at h
  obtain ⟨outstandingUsdc, hrelease, h⟩ := h
  obtain rfl := Except.ok.inj h
  rw [release_credit, U256.checked_sub_eq_some] at hrelease
  exact ⟨rfl, ⟨_, hrelease, rfl⟩, rfl, rfl, rfl, rfl, rfl⟩

/-- **What is owed is outstanding**, so the subtraction that closes a receivable
    is defined. -/
theorem Exposed.release_direct (hs : Exposed s)
    (h : (s.directReceivables orderId).state = .Delivered) :
    (s.release_direct (s.directReceivables orderId)).isSome := by
  have hshare := Mapping.share_le_total (DirectReceivable.owed
    ((s.directReceivables orderId).maker, (s.directReceivables orderId).destinationStrategyHash))
    s.directReceivables orderId
  rw [DirectReceivable.owed_delivered h, if_pos rfl, ← hs.direct] at hshare
  rw [Option.isSome_iff_ne_none, CrossChainAquaApp.release_direct, Ne, U256.checked_sub_eq_none,
    Fin.lt_def]
  omega

theorem Exposed.release_credit (hs : Exposed s)
    (h : (s.creditReceivables orderId).state = .Delivered) :
    (s.release_credit (s.creditReceivables orderId)).isSome := by
  have hshare := Mapping.share_le_total (CreditReceivable.owed
    ((s.creditReceivables orderId).maker, (s.creditReceivables orderId).destinationStrategyHash))
    s.creditReceivables orderId
  rw [CreditReceivable.owed_delivered h, if_pos rfl, ← hs.credit] at hshare
  rw [Option.isSome_iff_ne_none, CrossChainAquaApp.release_credit, Ne, U256.checked_sub_eq_none,
    Fin.lt_def]
  omega

/-- **Step lemma.** A closed direct receivable no longer counts. -/
theorem Exposed.closes_direct {repaymentId : B256} (hs : Exposed s)
    (h : ClosesDirect s s' orderId repaymentId) : Exposed s' := by
  obtain ⟨outstandingRepayment, hsum, hstrategies⟩ := h.outstanding
  constructor
  · intro key
    have htotal := Mapping.total_set (DirectReceivable.owed key) s.directReceivables orderId
      { s.directReceivables orderId with state := .Repaid }
    have hclosed : DirectReceivable.owed key
        { s.directReceivables orderId with state := .Repaid } = 0 :=
      DirectReceivable.owed_of_not_delivered (show ReceivableState.Repaid ≠ .Delivered by decide) key
    rw [hclosed, DirectReceivable.owed_delivered h.delivered] at htotal
    have hold := hs.direct key
    rw [hstrategies, h.receivable, Mapping.set_apply]
    by_cases hkey : key = ((s.directReceivables orderId).maker,
        (s.directReceivables orderId).destinationStrategyHash)
    · rw [if_pos hkey.symm] at htotal
      rw [if_pos hkey]
      rw [← hkey] at hsum
      show outstandingRepayment.val = _
      omega
    · rw [if_neg fun heq => hkey heq.symm] at htotal
      rw [if_neg hkey]
      omega
  · intro key
    rw [hstrategies, Mapping.set_apply]
    split
    · rename_i hkey
      have hcap : (s.directStrategies key).outstandingRepayment.val ≤
          (s.directStrategies key).maxOutstandingRepayment.val := hs.direct_cap key
      rw [← hkey] at hsum ⊢
      show outstandingRepayment.val ≤ (s.directStrategies key).maxOutstandingRepayment.val
      omega
    · exact hs.direct_cap key
  · rw [h.creditStrategies, h.creditReceivables]
    exact hs.credit
  · rw [h.creditStrategies]
    exact hs.credit_cap
  · intro id hid
    rw [h.used]
    rw [h.receivable, Mapping.set_apply] at hid
    split at hid
    · rename_i heq
      rw [heq]
      exact hs.direct_used orderId (by rw [h.delivered]; decide)
    · exact hs.direct_used id hid
  · rw [h.used, h.creditReceivables]
    exact hs.credit_used
  · intro id
    rw [h.creditReceivables, h.receivable, Mapping.set_apply]
    split
    · rename_i heq
      rw [heq]
      refine .inr ((hs.apart orderId).resolve_left ?_)
      rw [h.delivered]
      decide
    · exact hs.apart id

/-- **Step lemma.** A closed credit receivable no longer counts. -/
theorem Exposed.closes_credit (hs : Exposed s)
    (hdelivered : (s.creditReceivables orderId).state = .Delivered)
    (h : ClosesCredit s s' orderId) : Exposed s' := by
  obtain ⟨outstandingUsdc, hsum, hstrategies⟩ := h.outstanding
  constructor
  · rw [h.directStrategies, h.directReceivables]
    exact hs.direct
  · rw [h.directStrategies]
    exact hs.direct_cap
  · intro key
    have htotal := Mapping.total_set (CreditReceivable.owed key) s.creditReceivables orderId
      { s.creditReceivables orderId with state := .Repaid }
    have hclosed : CreditReceivable.owed key
        { s.creditReceivables orderId with state := .Repaid } = 0 :=
      CreditReceivable.owed_of_not_delivered (show ReceivableState.Repaid ≠ .Delivered by decide) key
    rw [hclosed, CreditReceivable.owed_delivered hdelivered] at htotal
    have hold := hs.credit key
    rw [hstrategies, h.receivable, Mapping.set_apply]
    by_cases hkey : key = ((s.creditReceivables orderId).maker,
        (s.creditReceivables orderId).destinationStrategyHash)
    · rw [if_pos hkey.symm] at htotal
      rw [if_pos hkey]
      rw [← hkey] at hsum
      show outstandingUsdc.val = _
      omega
    · rw [if_neg fun heq => hkey heq.symm] at htotal
      rw [if_neg hkey]
      omega
  · intro key
    rw [hstrategies, Mapping.set_apply]
    split
    · rename_i hkey
      have hcap : (s.creditStrategies key).outstandingUsdc.val ≤
          (s.creditStrategies key).maxOutstandingUsdc.val := hs.credit_cap key
      rw [← hkey] at hsum ⊢
      show outstandingUsdc.val ≤ (s.creditStrategies key).maxOutstandingUsdc.val
      omega
    · exact hs.credit_cap key
  · rw [h.used, h.directReceivables]
    exact hs.direct_used
  · intro id hid
    rw [h.used]
    rw [h.receivable, Mapping.set_apply] at hid
    split at hid
    · rename_i heq
      rw [heq]
      exact hs.credit_used orderId (by rw [hdelivered]; decide)
    · exact hs.credit_used id hid
  · intro id
    rw [h.directReceivables, h.receivable, Mapping.set_apply]
    split
    · rename_i heq
      rw [heq]
      refine .inl ((hs.apart orderId).resolve_right ?_)
      rw [hdelivered]
      decide
    · exact hs.apart id

end Closing

end CrossChainAquaApp

end Solvent.Contracts
