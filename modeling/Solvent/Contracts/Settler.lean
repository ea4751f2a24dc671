import Mathlib
import Solvent.Contracts.CctpMessage
import Solvent.Contracts.Proof

/-! # The origin settler

    `CompactOriginSettler` claims a proven order from The Compact and repays its
    maker, directly or by a swap and a CCTP burn. Here are its storage and its
    checks; the calls that reach other contracts are in `Contracts.Chains`.
-/

namespace Solvent.Contracts

open Abi Contract

/-- One claimant of a Compact claim. -/
structure Component where
  claimant : U256
  amount : U256
  deriving DecidableEq

/-- A claim on The Compact. -/
structure Claim where
  allocatorData : Bytes
  sponsorSignature : Bytes
  sponsor : Address
  nonce : U256
  expires : U256
  witness : B256
  witnessTypestring : Bytes
  id : U256
  allocatedAmount : U256
  claimants : List Component
  deriving DecidableEq

/-- A SwapVM order. -/
structure SwapOrder where
  maker : Address
  traits : U256
  data : Bytes
  deriving DecidableEq

/-- The arguments of `depositForBurnWithHook`. -/
structure DepositForBurn where
  amount : U256
  destinationDomain : Uint32
  mintRecipient : B256
  burnToken : Address
  destinationCaller : B256
  maxFee : U256
  minFinalityThreshold : Uint32
  hookData : Bytes
  deriving DecidableEq

/-- The storage of `CompactOriginSettler`. -/
structure CompactOriginSettler where
  settledOrders : B256 → Bool
  usedFillProofs : B256 → Bool

/-- The immutables of the settler. -/
structure SettlerConfig where
  /-- `address(this)` -/
  this : Address
  /-- `block.chainid` -/
  chainid : U256
  COMPACT : Address
  ORIGIN_TOKEN : Address
  DESTINATION_CHAIN_ID : U256
  DESTINATION_APP : Address
  FILL_PROOF_VERIFIER : Address
  ORIGIN_USDC : Address
  DESTINATION_USDC : Address
  DESTINATION_CCTP_DOMAIN : Uint32
  CCTP_MIN_FINALITY_THRESHOLD : Uint32
  FEE_RECIPIENT : Address

inductive SettlerError where
  | FillProofAlreadyUsed (fillId : B256)
  | InvalidCompactClaim
  | InvalidFillProof
  | InvalidMandate
  | InvalidOrder
  | InvalidSwapResult
  | OrderAlreadySettled (orderId : B256)
  | UnexpectedRepaymentDelta (expected actual : U256)
  | UnexpectedTokenBalance (token : Address) (expected actual : U256)
  /-- Checked arithmetic overflowed. -/
  | Panic
  /-- A call to a token, The Compact, Aqua, the router or the messenger
      reverted. -/
  | CallFailed
  | Outbox (error : OutboxError)
  | Inbox (error : InboxError)
  deriving DecidableEq

namespace CompactOriginSettler

def empty : CompactOriginSettler :=
  { settledOrders := fun _ => false, usedFillProofs := fun _ => false }

def MANDATE_WITNESS_TYPESTRING : Bytes :=
  "bytes32 orderId,uint256 destinationChainId,address destinationSettler,address fillProofVerifier,address outputToken,uint256 minimumOutputAmount,address recipient,uint48 fillDeadline,address exclusiveFiller,uint8 routeKind".toUTF8.data.toList

variable (keccak256 : Bytes → B256) (cfg : SettlerConfig)

def _validateOrder (order : SolventCrossChainOrder) (expectedRoute : RouteKind) :
    Except SettlerError Unit :=
  require (order.user ≠ 0 ∧ order.originChainId = cfg.chainid ∧ order.originSettler = cfg.this ∧
      order.compact = cfg.COMPACT ∧ order.inputToken ≠ 0 ∧
      word_address order.compactId = order.inputToken ∧
      (expectedRoute = .DirectMaker ∨ order.inputToken = cfg.ORIGIN_TOKEN) ∧
      order.inputAmount ≠ 0 ∧ order.fillDeadline.val < order.compactExpires.val ∧
      order.destinationChainId = cfg.DESTINATION_CHAIN_ID ∧
      order.destinationSettler = cfg.DESTINATION_APP ∧
      order.fillProofVerifier = cfg.FILL_PROOF_VERIFIER ∧ order.routeKind = expectedRoute)
    .InvalidOrder

def _validateMandate (order : SolventCrossChainOrder) (mandate : SolventMandate) (orderId : B256) :
    Except SettlerError Unit :=
  require (mandate.orderId = orderId ∧ mandate.destinationChainId = order.destinationChainId ∧
      mandate.destinationSettler = order.destinationSettler ∧
      mandate.fillProofVerifier = order.fillProofVerifier ∧
      mandate.outputToken = order.outputToken ∧
      mandate.minimumOutputAmount = order.minimumOutputAmount ∧
      mandate.recipient = order.recipient ∧ mandate.fillDeadline = order.fillDeadline ∧
      mandate.exclusiveFiller = order.exclusiveFiller ∧ mandate.routeKind = order.routeKind)
    .InvalidMandate

def _validateFill (order : SolventCrossChainOrder) (orderId : B256) (fill : VerifiedFill) :
    Except SettlerError Unit :=
  require (fill.orderId = orderId ∧ fill.routeKind = .DirectMaker ∧
      fill.destinationChainId = cfg.DESTINATION_CHAIN_ID ∧
      fill.destinationApp = cfg.DESTINATION_APP ∧ fill.recipient = order.recipient ∧
      fill.outputToken = order.outputToken ∧ order.minimumOutputAmount ≤ fill.outputAmount ∧
      fill.destinationMaker ≠ 0 ∧ fill.destinationStrategyHash ≠ 0 ∧
      fill.originStrategyHash ≠ 0 ∧ fill.repaymentToken = order.inputToken ∧
      fill.repaymentAmount = order.inputAmount ∧ fill.maxCctpFee = 0 ∧
      fill.makerQuoteHash ≠ 0 ∧ fill.fillId ≠ 0)
    .InvalidFillProof

def _validateRoutedFill (order : SolventCrossChainOrder) (orderId : B256) (fill : VerifiedFill) :
    Except SettlerError Unit :=
  require (fill.orderId = orderId ∧ fill.routeKind = .TwoMakerCredit ∧
      fill.destinationChainId = cfg.DESTINATION_CHAIN_ID ∧
      fill.destinationApp = cfg.DESTINATION_APP ∧ fill.recipient = order.recipient ∧
      fill.outputToken = order.outputToken ∧ order.minimumOutputAmount ≤ fill.outputAmount ∧
      fill.destinationMaker ≠ 0 ∧ fill.destinationStrategyHash ≠ 0 ∧
      fill.originStrategyHash = 0 ∧ fill.repaymentToken = cfg.DESTINATION_USDC ∧
      fill.repaymentAmount ≠ 0 ∧ fill.makerQuoteHash ≠ 0 ∧ fill.fillId ≠ 0)
    .InvalidFillProof

def _validateClaim (order : SolventCrossChainOrder) (mandate : SolventMandate)
    (compactClaim : Claim) : Except SettlerError Unit :=
  require (compactClaim.sponsor = order.user ∧ compactClaim.id = order.compactId ∧
      compactClaim.expires = order.compactExpires ∧
      compactClaim.witness = CrossChainHashLib.hashMandate keccak256 mandate ∧
      keccak256 compactClaim.witnessTypestring = keccak256 MANDATE_WITNESS_TYPESTRING ∧
      compactClaim.allocatedAmount = order.inputAmount ∧
      compactClaim.claimants =
        [{ claimant := address_word cfg.this, amount := order.inputAmount }])
    .InvalidCompactClaim

/-- The single uses of an order and its fill proof. -/
def unused (s : CompactOriginSettler) (orderId fillId : B256) : Except SettlerError Unit := do
  require (s.settledOrders orderId = false) (.OrderAlreadySettled orderId)
  require (s.usedFillProofs fillId = false) (.FillProofAlreadyUsed fillId)

def mark (s : CompactOriginSettler) (orderId fillId : B256) : CompactOriginSettler :=
  { settledOrders := Mapping.set s.settledOrders orderId true
    usedFillProofs := Mapping.set s.usedFillProofs fillId true }

/-- What `_recordDirectRepayment` hashes to the repayment id. -/
def repayment_id_bytes (orderId : B256) : Bytes :=
  words [cfg.chainid, address_word cfg.this, orderId, ProofKind.DirectRepayment.word]

/-- The repayment that `_recordDirectRepayment` records. -/
def recorded_repayment (orderId : B256) (fill : VerifiedFill) : VerifiedRepayment :=
  { orderId
    originChainId := cfg.chainid
    originSettler := cfg.this
    maker := fill.destinationMaker
    repaymentToken := fill.repaymentToken
    repaymentAmount := fill.repaymentAmount
    repaymentId := keccak256 (repayment_id_bytes cfg orderId) }

/-- The burn that `settleRouted` deposits. -/
def routed_burn (orderId : B256) (burnAmount : U256) (fill : VerifiedFill) : DepositForBurn :=
  { amount := burnAmount
    destinationDomain := cfg.DESTINATION_CCTP_DOMAIN
    mintRecipient := CctpMessageLib.addressToBytes32 cfg.DESTINATION_APP
    burnToken := cfg.ORIGIN_USDC
    destinationCaller := CctpMessageLib.addressToBytes32 cfg.DESTINATION_APP
    maxFee := fill.maxCctpFee
    minFinalityThreshold := cfg.CCTP_MIN_FINALITY_THRESHOLD
    hookData := CctpMessageLib.repaymentHook orderId }

end CompactOriginSettler

end Solvent.Contracts
