import Mathlib
import Solvent.Contracts.CctpMessage
import Solvent.Contracts.Proof

/-! # The destination application

    `CrossChainAquaApp` delivers a destination asset from a maker's Aqua position
    and tracks what is owed for it. Here are its storage, its checks and the
    configuration of strategies; the calls that reach other contracts are in
    `Contracts.Chains`.

    What other contracts answer comes with each call: token readings, Aqua's
    token count, whether a signature is valid.
-/

namespace Solvent.Contracts

open Abi Contract

/-! ## Storage -/

inductive ReceivableState where
  | None
  | Delivered
  | Repaid
  deriving DecidableEq

structure DirectCreditStrategy where
  outputToken : Address
  maxOutstandingRepayment : U256
  outstandingRepayment : U256
  enabled : Bool
  deriving DecidableEq

structure DirectReceivable where
  maker : Address
  destinationStrategyHash : B256
  originStrategyHash : B256
  repaymentAmount : U256
  filledAt : Uint48
  state : ReceivableState
  deriving DecidableEq

structure CreditStrategy where
  outputToken : Address
  maxOutstandingUsdc : U256
  outstandingUsdc : U256
  enabled : Bool
  deriving DecidableEq

structure CreditReceivable where
  maker : Address
  destinationStrategyHash : B256
  usdcDue : U256
  maxCctpFee : U256
  filledAt : Uint48
  state : ReceivableState
  deriving DecidableEq

/-- The storage of `CrossChainAquaApp`. A nested mapping is a mapping of pairs. -/
structure CrossChainAquaApp where
  directStrategies : Address × B256 → DirectCreditStrategy
  directReceivables : B256 → DirectReceivable
  directRepaymentTokens : B256 → Address
  usedOrders : B256 → Bool
  usedDirectQuoteNonces : Address × U256 → Bool
  usedRepaymentProofs : B256 → Bool
  creditStrategies : Address × B256 → CreditStrategy
  creditReceivables : B256 → CreditReceivable
  usedCreditQuoteNonces : Address × U256 → Bool

/-- The immutables of the application. -/
structure AppConfig where
  /-- `address(this)` -/
  this : Address
  /-- `block.chainid` -/
  chainid : U256
  WETH : Address
  ORIGIN_CHAIN_ID : U256
  ORIGIN_SETTLER : Address
  ORIGIN_COMPACT : Address
  ORIGIN_TOKEN : Address
  FILL_PROOF_VERIFIER : Address
  USDC : Address
  ORIGIN_CCTP_DOMAIN : Uint32
  DESTINATION_CCTP_DOMAIN : Uint32
  ORIGIN_TOKEN_MESSENGER : B256
  DESTINATION_TOKEN_MESSENGER : Address
  ORIGIN_USDC : Address
  CCTP_MESSAGE_VERSION : Uint32
  CCTP_BURN_MESSAGE_VERSION : Uint32
  CCTP_MIN_FINALITY_THRESHOLD : Uint32
  FEE_RECIPIENT : Address

inductive AppError where
  | CapacityExceeded (outstanding due maximum : U256)
  | CctpReceiveFailed
  | EthDeliveryFailed (recipient : Address) (amount : U256)
  | FillDeadlinePassed (deadline : Uint48)
  | InactiveStrategy (maker : Address) (strategyHash : B256)
  | InvalidMakerQuote
  | InvalidMandate
  | InvalidOrder
  | InvalidRepaymentProof
  | InvalidCctpMessage
  | InvalidMessageLength (actual expected : ℕ)
  | OrderAlreadyUsed (orderId : B256)
  | QuoteExpired (expires : Uint48)
  | QuoteNonceAlreadyUsed (maker : Address) (nonce : U256)
  | RepaymentProofAlreadyUsed (repaymentId : B256)
  | StrategyBelowOutstanding (maximum outstanding : U256)
  | StrategyDisabled (maker : Address) (strategyHash : B256)
  | StrategyTokenMismatch (expected actual : Address)
  | UnauthorizedFiller (caller exclusiveFiller : Address)
  | UnexpectedOutputDelta (token : Address) (expected actual : U256)
  | UnexpectedWethDelta (expected actual : U256)
  | UnexpectedUsdcDelta (expected actual : U256)
  | ZeroAddress
  /-- Checked arithmetic overflowed. -/
  | Panic
  /-- A call to a token or to Aqua reverted. -/
  | CallFailed
  | Outbox (error : OutboxError)
  | Inbox (error : InboxError)
  deriving DecidableEq

namespace CrossChainAquaApp

/-- Storage before the first call. -/
def empty : CrossChainAquaApp where
  directStrategies _ :=
    { outputToken := 0, maxOutstandingRepayment := 0, outstandingRepayment := 0, enabled := false }
  directReceivables _ :=
    { maker := 0, destinationStrategyHash := 0, originStrategyHash := 0, repaymentAmount := 0
      filledAt := 0, state := .None }
  directRepaymentTokens _ := 0
  usedOrders _ := false
  usedDirectQuoteNonces _ := false
  usedRepaymentProofs _ := false
  creditStrategies _ :=
    { outputToken := 0, maxOutstandingUsdc := 0, outstandingUsdc := 0, enabled := false }
  creditReceivables _ :=
    { maker := 0, destinationStrategyHash := 0, usdcDue := 0, maxCctpFee := 0, filledAt := 0
      state := .None }
  usedCreditQuoteNonces _ := false

/-! ## Configuring strategies -/

def DOCKED : Uint8 := 255

/-- Whether Aqua holds the token for the strategy. -/
def active (tokensCount : Uint8) : Prop := tokensCount ≠ 0 ∧ tokensCount ≠ DOCKED

instance (tokensCount : Uint8) : Decidable (active tokensCount) :=
  inferInstanceAs (Decidable (_ ∧ _))

/-- `tokensCount` is what Aqua answers for the output token. -/
def configureDirectStrategy (s : CrossChainAquaApp) (caller : Address) (strategyHash : B256)
    (outputToken : Address) (maxOutstandingRepayment : U256) (enabled : Bool)
    (tokensCount : Uint8) : Except AppError CrossChainAquaApp := do
  require (outputToken ≠ 0) .ZeroAddress
  let strategy := s.directStrategies (caller, strategyHash)
  require (strategy.outputToken ≠ 0 → strategy.outputToken = outputToken)
    (.StrategyTokenMismatch strategy.outputToken outputToken)
  require (strategy.outstandingRepayment ≤ maxOutstandingRepayment)
    (.StrategyBelowOutstanding maxOutstandingRepayment strategy.outstandingRepayment)
  require (enabled = true → active tokensCount) (.InactiveStrategy caller strategyHash)
  .ok { s with
    directStrategies := Mapping.set s.directStrategies (caller, strategyHash)
      { strategy with outputToken, maxOutstandingRepayment, enabled } }

/-- `tokensCount` and `usdcCount` are what Aqua answers for the output token and
    for USDC. -/
def configureCreditStrategy (s : CrossChainAquaApp) (caller : Address) (strategyHash : B256)
    (outputToken : Address) (maxOutstandingUsdc : U256) (enabled : Bool)
    (tokensCount usdcCount : Uint8) : Except AppError CrossChainAquaApp := do
  require (outputToken ≠ 0) .ZeroAddress
  let strategy := s.creditStrategies (caller, strategyHash)
  require (strategy.outputToken ≠ 0 → strategy.outputToken = outputToken)
    (.StrategyTokenMismatch strategy.outputToken outputToken)
  require (strategy.outstandingUsdc ≤ maxOutstandingUsdc)
    (.StrategyBelowOutstanding maxOutstandingUsdc strategy.outstandingUsdc)
  require (enabled = true → active tokensCount ∧ active usdcCount)
    (.InactiveStrategy caller strategyHash)
  .ok { s with
    creditStrategies := Mapping.set s.creditStrategies (caller, strategyHash)
      { strategy with outputToken, maxOutstandingUsdc, enabled } }

/-! ## Checks -/

section Checks

variable (keccak256 : Bytes → B256) (cfg : AppConfig)

def _validateOrder (caller : Address) (timestamp : U256) (order : SolventCrossChainOrder)
    (expectedRoute : RouteKind) : Except AppError Unit := do
  require (order.user ≠ 0 ∧ order.recipient ≠ 0 ∧ order.recipient ≠ cfg.this ∧
      order.originChainId = cfg.ORIGIN_CHAIN_ID ∧ order.originSettler = cfg.ORIGIN_SETTLER ∧
      order.compact = cfg.ORIGIN_COMPACT ∧ order.inputToken ≠ 0 ∧
      word_address order.compactId = order.inputToken ∧
      (expectedRoute = .DirectMaker ∨ order.inputToken = cfg.ORIGIN_TOKEN) ∧
      order.destinationChainId = cfg.chainid ∧ order.destinationSettler = cfg.this ∧
      order.fillProofVerifier = cfg.FILL_PROOF_VERIFIER ∧ order.routeKind = expectedRoute ∧
      order.inputAmount ≠ 0 ∧ order.minimumOutputAmount ≠ 0 ∧
      order.fillDeadline.val < order.compactExpires.val)
    .InvalidOrder
  require (timestamp.val ≤ order.fillDeadline.val) (.FillDeadlinePassed order.fillDeadline)
  require (order.exclusiveFiller ≠ 0 ∧ timestamp.val < order.exclusivityEnds.val →
      caller = order.exclusiveFiller)
    (.UnauthorizedFiller caller order.exclusiveFiller)

def _validateMandate (order : SolventCrossChainOrder) (mandate : SolventMandate) (orderId : B256) :
    Except AppError Unit :=
  require (mandate.orderId = orderId ∧ mandate.destinationChainId = order.destinationChainId ∧
      mandate.destinationSettler = order.destinationSettler ∧
      mandate.fillProofVerifier = order.fillProofVerifier ∧
      mandate.outputToken = order.outputToken ∧
      mandate.minimumOutputAmount = order.minimumOutputAmount ∧
      mandate.recipient = order.recipient ∧ mandate.fillDeadline = order.fillDeadline ∧
      mandate.exclusiveFiller = order.exclusiveFiller ∧ mandate.routeKind = order.routeKind)
    .InvalidMandate

/-- What the EIP-712 domain of the application hashes. -/
def domain_bytes : Bytes :=
  words [
    keccak256 "EIP712Domain(string name,string version,uint256 chainId,address verifyingContract)".toUTF8.data.toList,
    keccak256 "Solvent Cross-Chain Aqua App".toUTF8.data.toList,
    keccak256 "1".toUTF8.data.toList,
    cfg.chainid,
    address_word cfg.this]

/-- What `_hashTypedDataV4` hashes. -/
def typed_bytes (structHash : B256) : Bytes :=
  0x19 :: 0x01 :: words [keccak256 (domain_bytes keccak256 cfg), structHash]

def _hashTypedDataV4 (structHash : B256) : B256 := keccak256 (typed_bytes keccak256 cfg structHash)

def directQuoteDigest (quote : DirectMakerQuote) : B256 :=
  _hashTypedDataV4 keccak256 cfg (CrossChainHashLib.hashDirectQuote keccak256 quote)

def creditQuoteDigest (quote : MakerCreditQuote) : B256 :=
  _hashTypedDataV4 keccak256 cfg (CrossChainHashLib.hashCreditQuote keccak256 quote)

/-- The field checks of a direct quote. -/
def quote_fields (order : SolventCrossChainOrder) (quote : DirectMakerQuote) (orderId : B256) :
    Prop :=
  quote.orderId = orderId ∧ quote.maker ≠ 0 ∧ quote.originStrategyHash ≠ 0 ∧
    order.minimumOutputAmount ≤ quote.outputAmount ∧ quote.repaymentAmount = order.inputAmount

instance (order : SolventCrossChainOrder) (quote : DirectMakerQuote) (orderId : B256) :
    Decidable (quote_fields order quote orderId) :=
  inferInstanceAs (Decidable (_ ∧ _))

/-- `isValidSignature` is what the signature checker answers for the maker, the
    digest and the signature. -/
def _validateQuote (timestamp : U256) (isValidSignature : Address → B256 → Bytes → Bool)
    (order : SolventCrossChainOrder) (quote : DirectMakerQuote) (orderId : B256)
    (makerSignature : Bytes) : Except AppError Unit := do
  require (timestamp.val ≤ quote.expires.val) (.QuoteExpired quote.expires)
  let digest := directQuoteDigest keccak256 cfg quote
  require (quote_fields order quote orderId ∧
      isValidSignature quote.maker digest makerSignature = true)
    .InvalidMakerQuote

def _validateCreditQuote (timestamp : U256) (isValidSignature : Address → B256 → Bytes → Bool)
    (order : SolventCrossChainOrder) (quote : MakerCreditQuote) (orderId : B256)
    (makerSignature : Bytes) : Except AppError Unit := do
  require (timestamp.val ≤ quote.expires.val) (.QuoteExpired quote.expires)
  let digest := creditQuoteDigest keccak256 cfg quote
  require (quote.orderId = orderId ∧ quote.maker ≠ 0 ∧
      order.minimumOutputAmount ≤ quote.outputAmount ∧ quote.usdcDue ≠ 0 ∧
      isValidSignature quote.maker digest makerSignature = true)
    .InvalidMakerQuote

open CctpMessageLib in
def _validateCctpMessage (orderId : B256) (receivable : CreditReceivable)
    (parsed : ParsedMessage) : Except AppError Unit := do
  let burnAmount ← expect (receivable.usdcDue.checked_add receivable.maxCctpFee) .Panic
  require (parsed.version = cfg.CCTP_MESSAGE_VERSION ∧
      parsed.sourceDomain = cfg.ORIGIN_CCTP_DOMAIN ∧
      parsed.destinationDomain = cfg.DESTINATION_CCTP_DOMAIN ∧ parsed.nonce ≠ 0 ∧
      parsed.sender = cfg.ORIGIN_TOKEN_MESSENGER ∧
      parsed.recipient = addressToBytes32 cfg.DESTINATION_TOKEN_MESSENGER ∧
      parsed.destinationCaller = addressToBytes32 cfg.this ∧
      parsed.minFinalityThreshold = cfg.CCTP_MIN_FINALITY_THRESHOLD ∧
      cfg.CCTP_MIN_FINALITY_THRESHOLD ≤ parsed.finalityThresholdExecuted ∧
      parsed.burnVersion = cfg.CCTP_BURN_MESSAGE_VERSION ∧
      parsed.burnToken = addressToBytes32 cfg.ORIGIN_USDC ∧
      parsed.mintRecipient = addressToBytes32 cfg.this ∧ parsed.amount = burnAmount ∧
      parsed.messageSender = addressToBytes32 cfg.ORIGIN_SETTLER ∧
      parsed.maxFee = receivable.maxCctpFee ∧ parsed.feeExecuted ≤ receivable.maxCctpFee ∧
      parsed.hookVersion = HOOK_VERSION ∧ parsed.hookOrderId = orderId)
    .InvalidCctpMessage
  let net ← expect (burnAmount.checked_sub parsed.feeExecuted) .Panic
  require (receivable.usdcDue ≤ net) .InvalidCctpMessage

end Checks

/-! ## Delivery -/

/-- What the tokens, Aqua and the recipient answer one delivery. -/
structure DeliveryOutside where
  /-- `AQUA.pull` succeeds. -/
  pull : Bool
  recipientBefore : U256
  recipientAfter : U256
  wethBefore : U256
  wethAfterPull : U256
  wethAfter : U256
  ethBefore : U256
  ethAfter : U256
  /-- `WETH.withdraw` succeeds. -/
  withdraw : Bool
  /-- The call that carries the value to the recipient succeeds. -/
  delivered : Bool

/-- Returns the value that reached the recipient. -/
def _deliverNative (o : DeliveryOutside) (recipient : Address) (amount : U256) :
    Except AppError U256 := do
  require (o.pull = true) .CallFailed
  let wethDelta := o.wethAfterPull.saturating_sub o.wethBefore
  require (wethDelta = amount) (.UnexpectedWethDelta amount wethDelta)
  require (o.withdraw = true) .CallFailed
  require (o.delivered = true) (.EthDeliveryFailed recipient amount)
  require (o.wethAfter = o.wethBefore) (.UnexpectedWethDelta o.wethBefore o.wethAfter)
  require (o.ethAfter = o.ethBefore) (.EthDeliveryFailed recipient amount)
  .ok amount

/-- Returns what the recipient's balance rose by. -/
def _deliverErc20 (o : DeliveryOutside) (token : Address) (amount : U256) :
    Except AppError U256 := do
  require (o.pull = true) .CallFailed
  let outputDelta := o.recipientAfter.saturating_sub o.recipientBefore
  require (outputDelta = amount) (.UnexpectedOutputDelta token amount outputDelta)
  .ok outputDelta

/-- Native where the order's output token is zero. -/
def deliver (o : DeliveryOutside) (order : SolventCrossChainOrder) (amount : U256) :
    Except AppError U256 :=
  if order.outputToken = 0 then _deliverNative o order.recipient amount
  else _deliverErc20 o order.outputToken amount

/-! ## Fills -/

section Fills

variable (keccak256 : Bytes → B256) (cfg : AppConfig)

/-- What `_recordFill` hashes to the fill id. -/
def fill_id_bytes (orderId : B256) : Bytes :=
  words [cfg.chainid, address_word cfg.this, orderId, ProofKind.Fill.word]

/-- The fill that `_recordFill` records. -/
def recorded_fill (order : SolventCrossChainOrder) (orderId : B256) (routeKind : RouteKind)
    (maker : Address) (destinationStrategyHash originStrategyHash : B256) (outputAmount : U256)
    (repaymentToken : Address) (repaymentAmount maxCctpFee : U256) (makerQuoteHash : B256) :
    VerifiedFill :=
  { orderId
    routeKind
    destinationChainId := cfg.chainid
    destinationApp := cfg.this
    recipient := order.recipient
    outputToken := order.outputToken
    outputAmount
    destinationMaker := maker
    destinationStrategyHash
    originStrategyHash
    repaymentToken
    repaymentAmount
    maxCctpFee
    makerQuoteHash
    fillId := keccak256 (fill_id_bytes cfg orderId) }

/-- The fill of a direct order. -/
def direct_fill (order : SolventCrossChainOrder) (quote : DirectMakerQuote) : VerifiedFill :=
  recorded_fill keccak256 cfg order (CrossChainHashLib.hashOrder keccak256 order) .DirectMaker
    quote.maker quote.destinationStrategyHash quote.originStrategyHash quote.outputAmount
    order.inputToken quote.repaymentAmount 0 (directQuoteDigest keccak256 cfg quote)

/-- The fill of a credit order. -/
def credit_fill (order : SolventCrossChainOrder) (quote : MakerCreditQuote) : VerifiedFill :=
  recorded_fill keccak256 cfg order (CrossChainHashLib.hashOrder keccak256 order) .TwoMakerCredit
    quote.maker quote.destinationStrategyHash 0 quote.outputAmount cfg.USDC quote.usdcDue
    quote.maxCctpFee (creditQuoteDigest keccak256 cfg quote)

/-- The checks and the effects of `fillDirect`, up to the delivery. -/
def open_direct (s : CrossChainAquaApp) (timestamp : U256) (order : SolventCrossChainOrder)
    (quote : DirectMakerQuote) : Except AppError CrossChainAquaApp := do
  let orderId := CrossChainHashLib.hashOrder keccak256 order
  let strategy := s.directStrategies (quote.maker, quote.destinationStrategyHash)
  require (strategy.enabled = true) (.StrategyDisabled quote.maker quote.destinationStrategyHash)
  let strategyToken := if order.outputToken = 0 then cfg.WETH else order.outputToken
  require (strategy.outputToken = strategyToken)
    (.StrategyTokenMismatch strategy.outputToken strategyToken)
  let outstandingRepayment ←
    expect (strategy.outstandingRepayment.checked_add quote.repaymentAmount) .Panic
  require (outstandingRepayment ≤ strategy.maxOutstandingRepayment)
    (.CapacityExceeded strategy.outstandingRepayment quote.repaymentAmount
      strategy.maxOutstandingRepayment)
  require (s.usedOrders orderId = false) (.OrderAlreadyUsed orderId)
  require (s.usedDirectQuoteNonces (quote.maker, quote.nonce) = false)
    (.QuoteNonceAlreadyUsed quote.maker quote.nonce)
  .ok { s with
    usedOrders := Mapping.set s.usedOrders orderId true
    usedDirectQuoteNonces := Mapping.set s.usedDirectQuoteNonces (quote.maker, quote.nonce) true
    directStrategies := Mapping.set s.directStrategies (quote.maker, quote.destinationStrategyHash)
      { strategy with outstandingRepayment }
    directReceivables := Mapping.set s.directReceivables orderId
      { maker := quote.maker
        destinationStrategyHash := quote.destinationStrategyHash
        originStrategyHash := quote.originStrategyHash
        repaymentAmount := quote.repaymentAmount
        filledAt := to_uint48 timestamp
        state := .Delivered }
    directRepaymentTokens := Mapping.set s.directRepaymentTokens orderId order.inputToken }

/-- The checks and the effects of `fillCredit`, up to the delivery. -/
def open_credit (s : CrossChainAquaApp) (timestamp : U256) (order : SolventCrossChainOrder)
    (quote : MakerCreditQuote) : Except AppError CrossChainAquaApp := do
  let orderId := CrossChainHashLib.hashOrder keccak256 order
  let strategy := s.creditStrategies (quote.maker, quote.destinationStrategyHash)
  require (strategy.enabled = true) (.StrategyDisabled quote.maker quote.destinationStrategyHash)
  let strategyToken := if order.outputToken = 0 then cfg.WETH else order.outputToken
  require (strategy.outputToken = strategyToken)
    (.StrategyTokenMismatch strategy.outputToken strategyToken)
  let outstandingUsdc ← expect (strategy.outstandingUsdc.checked_add quote.usdcDue) .Panic
  require (outstandingUsdc ≤ strategy.maxOutstandingUsdc)
    (.CapacityExceeded strategy.outstandingUsdc quote.usdcDue strategy.maxOutstandingUsdc)
  require (s.usedOrders orderId = false) (.OrderAlreadyUsed orderId)
  require (s.usedCreditQuoteNonces (quote.maker, quote.nonce) = false)
    (.QuoteNonceAlreadyUsed quote.maker quote.nonce)
  .ok { s with
    usedOrders := Mapping.set s.usedOrders orderId true
    usedCreditQuoteNonces := Mapping.set s.usedCreditQuoteNonces (quote.maker, quote.nonce) true
    creditStrategies := Mapping.set s.creditStrategies (quote.maker, quote.destinationStrategyHash)
      { strategy with outstandingUsdc }
    creditReceivables := Mapping.set s.creditReceivables orderId
      { maker := quote.maker
        destinationStrategyHash := quote.destinationStrategyHash
        usdcDue := quote.usdcDue
        maxCctpFee := quote.maxCctpFee
        filledAt := to_uint48 timestamp
        state := .Delivered } }

end Fills

/-! ## Repayments -/

/-- `outstandingRepayment -= repaymentAmount`, where the receivable is closed. -/
def release_direct (s : CrossChainAquaApp) (receivable : DirectReceivable) : Option U256 :=
  (s.directStrategies (receivable.maker, receivable.destinationStrategyHash)).outstandingRepayment
    |>.checked_sub receivable.repaymentAmount

/-- `outstandingUsdc -= usdcDue`, where the receivable is closed. -/
def release_credit (s : CrossChainAquaApp) (receivable : CreditReceivable) : Option U256 :=
  (s.creditStrategies (receivable.maker, receivable.destinationStrategyHash)).outstandingUsdc
    |>.checked_sub receivable.usdcDue

/-- The checks of `confirmDirectRepayment` past the proof's single use. -/
def repayment_matches (cfg : AppConfig) (s : CrossChainAquaApp) (orderId : B256)
    (repayment : VerifiedRepayment) : Prop :=
  (s.directReceivables orderId).state = .Delivered ∧ repayment.orderId = orderId ∧
    repayment.originChainId = cfg.ORIGIN_CHAIN_ID ∧
    repayment.originSettler = cfg.ORIGIN_SETTLER ∧
    repayment.maker = (s.directReceivables orderId).maker ∧
    repayment.repaymentToken = s.directRepaymentTokens orderId ∧
    repayment.repaymentAmount = (s.directReceivables orderId).repaymentAmount ∧
    repayment.repaymentId ≠ 0

instance (cfg : AppConfig) (s : CrossChainAquaApp) (orderId : B256)
    (repayment : VerifiedRepayment) : Decidable (repayment_matches cfg s orderId repayment) :=
  inferInstanceAs (Decidable (_ ∧ _))

/-- `confirmDirectRepayment` on the repayment its verifier returned. -/
def close_direct (cfg : AppConfig) (s : CrossChainAquaApp) (orderId : B256)
    (repayment : VerifiedRepayment) : Except AppError CrossChainAquaApp := do
  require (s.usedRepaymentProofs repayment.repaymentId = false)
    (.RepaymentProofAlreadyUsed repayment.repaymentId)
  let receivable := s.directReceivables orderId
  require (repayment_matches cfg s orderId repayment) .InvalidRepaymentProof
  let key := (receivable.maker, receivable.destinationStrategyHash)
  let outstandingRepayment ← expect (s.release_direct receivable) .Panic
  .ok { s with
    usedRepaymentProofs := Mapping.set s.usedRepaymentProofs repayment.repaymentId true
    directReceivables := Mapping.set s.directReceivables orderId { receivable with state := .Repaid }
    directStrategies := Mapping.set s.directStrategies key
      { s.directStrategies key with outstandingRepayment } }

/-- The state writes of `completeRepayment`. -/
def close_credit (s : CrossChainAquaApp) (orderId : B256) : Except AppError CrossChainAquaApp := do
  let receivable := s.creditReceivables orderId
  let key := (receivable.maker, receivable.destinationStrategyHash)
  let outstandingUsdc ← expect (s.release_credit receivable) .Panic
  .ok { s with
    creditReceivables := Mapping.set s.creditReceivables orderId { receivable with state := .Repaid }
    creditStrategies := Mapping.set s.creditStrategies key
      { s.creditStrategies key with outstandingUsdc } }

end CrossChainAquaApp

end Solvent.Contracts
