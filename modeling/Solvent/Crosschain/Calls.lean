import Mathlib
import Solvent.Crosschain.Saga
import Solvent.Contracts.Chains

/-! # Calls off-chain and on-chain

    The settlement calls as the services see them: the records their ABI decoder
    returns, where an enumeration is still a `uint8`, the layouts and hashes they
    compute, and how each record shows a contract's own (`of`).

    What the decoder of a service and what a contract read from calldata are
    parameters; `Agree` says they read the same arguments from the same bytes.
-/

namespace Solvent.Validation

open Abi
open Contracts (Uint8 Uint32 Uint48 address_word uint8_word uint48_word)

/-- `U256::from(value)` -/
def u64_word (value : U64) : U256 :=
  widen two_pow_64_le value

/-! ## Records -/

structure SolventCrossChainOrder where
  user : Address
  nonce : U256
  originChainId : U256
  originSettler : Address
  compact : Address
  compactId : U256
  compactExpires : U256
  inputToken : Address
  inputAmount : U256
  destinationChainId : U256
  outputToken : Address
  minimumOutputAmount : U256
  recipient : Address
  destinationSettler : Address
  fillProofVerifier : Address
  exclusiveFiller : Address
  exclusivityEnds : Uint48
  fillDeadline : Uint48
  routeKind : Uint8
  deriving DecidableEq

structure SolventMandate where
  orderId : B256
  destinationChainId : U256
  destinationSettler : Address
  fillProofVerifier : Address
  outputToken : Address
  minimumOutputAmount : U256
  recipient : Address
  fillDeadline : Uint48
  exclusiveFiller : Address
  routeKind : Uint8
  deriving DecidableEq

structure ProofEnvelope where
  version : Uint8
  kind : Uint8
  payload : Bytes
  deriving DecidableEq

@[ext]
structure VerifiedFill where
  orderId : B256
  routeKind : Uint8
  destinationChainId : U256
  destinationApp : Address
  recipient : Address
  outputToken : Address
  outputAmount : U256
  destinationMaker : Address
  destinationStrategyHash : B256
  originStrategyHash : B256
  repaymentToken : Address
  repaymentAmount : U256
  maxCctpFee : U256
  makerQuoteHash : B256
  fillId : B256
  deriving DecidableEq

/-- Records without an enumeration are those of the contracts. -/
abbrev DirectMakerQuote : Type := Contracts.DirectMakerQuote

abbrev MakerCreditQuote : Type := Contracts.MakerCreditQuote

abbrev Claim : Type := Contracts.Claim

abbrev SwapOrder : Type := Contracts.SwapOrder

abbrev VerifiedRepayment : Type := Contracts.VerifiedRepayment

/-! ## How a contract's record shows -/

def route_kind : Contracts.RouteKind → Uint8
  | .TwoMakerCredit => 0
  | .DirectMaker => 1

def SolventCrossChainOrder.of (o : Contracts.SolventCrossChainOrder) : SolventCrossChainOrder :=
  { user := o.user
    nonce := o.nonce
    originChainId := o.originChainId
    originSettler := o.originSettler
    compact := o.compact
    compactId := o.compactId
    compactExpires := o.compactExpires
    inputToken := o.inputToken
    inputAmount := o.inputAmount
    destinationChainId := o.destinationChainId
    outputToken := o.outputToken
    minimumOutputAmount := o.minimumOutputAmount
    recipient := o.recipient
    destinationSettler := o.destinationSettler
    fillProofVerifier := o.fillProofVerifier
    exclusiveFiller := o.exclusiveFiller
    exclusivityEnds := o.exclusivityEnds
    fillDeadline := o.fillDeadline
    routeKind := route_kind o.routeKind }

def SolventMandate.of (m : Contracts.SolventMandate) : SolventMandate :=
  { orderId := m.orderId
    destinationChainId := m.destinationChainId
    destinationSettler := m.destinationSettler
    fillProofVerifier := m.fillProofVerifier
    outputToken := m.outputToken
    minimumOutputAmount := m.minimumOutputAmount
    recipient := m.recipient
    fillDeadline := m.fillDeadline
    exclusiveFiller := m.exclusiveFiller
    routeKind := route_kind m.routeKind }

def VerifiedFill.of (f : Contracts.VerifiedFill) : VerifiedFill :=
  { orderId := f.orderId
    routeKind := route_kind f.routeKind
    destinationChainId := f.destinationChainId
    destinationApp := f.destinationApp
    recipient := f.recipient
    outputToken := f.outputToken
    outputAmount := f.outputAmount
    destinationMaker := f.destinationMaker
    destinationStrategyHash := f.destinationStrategyHash
    originStrategyHash := f.originStrategyHash
    repaymentToken := f.repaymentToken
    repaymentAmount := f.repaymentAmount
    maxCctpFee := f.maxCctpFee
    makerQuoteHash := f.makerQuoteHash
    fillId := f.fillId }

@[simp] theorem uint8_word_route_kind (kind : Contracts.RouteKind) :
    uint8_word (route_kind kind) = kind.word := by
  cases kind <;> rfl

theorem route_kind_injective : Function.Injective route_kind := by
  intro a b h
  match a, b with
  | .TwoMakerCredit, .TwoMakerCredit => rfl
  | .DirectMaker, .DirectMaker => rfl
  | .TwoMakerCredit, .DirectMaker => exact absurd h (by decide)
  | .DirectMaker, .TwoMakerCredit => exact absurd h (by decide)

/-! ## Layouts -/

namespace SolventCrossChainOrder

def to_words (o : SolventCrossChainOrder) : List U256 :=
  [address_word o.user, o.nonce, o.originChainId, address_word o.originSettler,
    address_word o.compact, o.compactId, o.compactExpires, address_word o.inputToken,
    o.inputAmount, o.destinationChainId, address_word o.outputToken, o.minimumOutputAmount,
    address_word o.recipient, address_word o.destinationSettler, address_word o.fillProofVerifier,
    address_word o.exclusiveFiller, uint48_word o.exclusivityEnds, uint48_word o.fillDeadline,
    uint8_word o.routeKind]

def eip712_encode_type : Bytes :=
  "SolventCrossChainOrder(address user,uint256 nonce,uint256 originChainId,address originSettler,address compact,uint256 compactId,uint256 compactExpires,address inputToken,uint256 inputAmount,uint256 destinationChainId,address outputToken,uint256 minimumOutputAmount,address recipient,address destinationSettler,address fillProofVerifier,address exclusiveFiller,uint48 exclusivityEnds,uint48 fillDeadline,uint8 routeKind)".toUTF8.data.toList

def eip712_hash_struct (keccak256 : Bytes → B256) (o : SolventCrossChainOrder) : B256 :=
  keccak256 (words (keccak256 eip712_encode_type :: o.to_words))

/-- A service and the contracts hash an order alike. -/
@[simp] theorem eip712_hash_struct_of (keccak256 : Bytes → B256)
    (o : Contracts.SolventCrossChainOrder) :
    (of o).eip712_hash_struct keccak256 = Contracts.CrossChainHashLib.hashOrder keccak256 o := by
  unfold eip712_hash_struct to_words of
  rw [uint8_word_route_kind]
  rfl

end SolventCrossChainOrder

namespace ProofEnvelope

def abi_encode (e : ProofEnvelope) : Bytes :=
  words [32, uint8_word e.version, uint8_word e.kind, 96] ++
    encode_bytes (Fin.ofNat _ e.payload.length) e.payload

end ProofEnvelope

namespace VerifiedFill

def abi_encode (f : VerifiedFill) : Bytes :=
  words [f.orderId, uint8_word f.routeKind, f.destinationChainId, address_word f.destinationApp,
    address_word f.recipient, address_word f.outputToken, f.outputAmount,
    address_word f.destinationMaker, f.destinationStrategyHash, f.originStrategyHash,
    address_word f.repaymentToken, f.repaymentAmount, f.maxCctpFee, f.makerQuoteHash, f.fillId]

/-- A service and the contracts lay a fill out alike. -/
theorem abi_encode_of (f : Contracts.VerifiedFill) : (of f).abi_encode = encode f := by
  unfold abi_encode of
  rw [uint8_word_route_kind]
  rfl

end VerifiedFill

/-- `abi_encode` of a swap order: an offset to the record, whose data is a byte
    string behind the three head words. -/
def swap_order_encode (o : SwapOrder) : Bytes :=
  words [32, address_word o.maker, o.traits, 96] ++
    encode_bytes (Fin.ofNat _ o.data.length) o.data

/-! ## Signing hashes -/

section Hashes

variable (keccak256 : Bytes → B256)

/-- The separator of a domain with a name, a version, a chain and a contract. -/
def domain_separator (name version : Bytes) (chain_id : U64) (verifying_contract : Address) :
    B256 :=
  keccak256 (words [
    keccak256 "EIP712Domain(string name,string version,uint256 chainId,address verifyingContract)".toUTF8.data.toList,
    keccak256 name,
    keccak256 version,
    u64_word chain_id,
    address_word verifying_contract])

/-- The hash of a struct in a domain. -/
def typed_data_hash (separator struct_hash : B256) : B256 :=
  keccak256 (0x19 :: 0x01 :: words [separator, struct_hash])

/-- The domain of the destination application. -/
def app_domain (chain_id : U64) (verifying_contract : Address) : B256 :=
  domain_separator keccak256 "Solvent Cross-Chain Aqua App".toUTF8.data.toList
    "1".toUTF8.data.toList chain_id verifying_contract

def direct_quote_hash (quote : DirectMakerQuote) : B256 :=
  keccak256 (words (keccak256 "DirectMakerQuote(bytes32 orderId,address maker,bytes32 destinationStrategyHash,bytes32 originStrategyHash,uint256 outputAmount,uint256 repaymentAmount,uint256 nonce,uint48 expires)".toUTF8.data.toList ::
    Static.to_words quote))

def credit_quote_hash (quote : MakerCreditQuote) : B256 :=
  keccak256 (words (keccak256 "MakerCreditQuote(bytes32 orderId,address maker,bytes32 destinationStrategyHash,uint256 outputAmount,uint256 usdcDue,uint256 maxCctpFee,uint256 nonce,uint48 expires)".toUTF8.data.toList ::
    Static.to_words quote))

/-- A service and the application agree on what a direct maker signs. -/
theorem typed_data_hash_direct (cfg : Contracts.AppConfig) {chain_id : U64}
    (hchain : cfg.chainid = u64_word chain_id) (quote : DirectMakerQuote) :
    typed_data_hash keccak256 (app_domain keccak256 chain_id cfg.this)
      (direct_quote_hash keccak256 quote) =
    Contracts.CrossChainAquaApp.directQuoteDigest keccak256 cfg quote := by
  unfold Contracts.CrossChainAquaApp.directQuoteDigest
    Contracts.CrossChainAquaApp._hashTypedDataV4 Contracts.CrossChainAquaApp.typed_bytes
    Contracts.CrossChainAquaApp.domain_bytes
  rw [hchain]
  rfl

end Hashes

/-! ## Calldata -/

/-- Calldata: the selector of a signature, then the arguments. -/
def calldata (keccak256 : Bytes → B256) (signature : Bytes) (arguments : List Part) : Bytes :=
  (word (keccak256 signature)).take 4 ++ tuple arguments

structure FillDirectCall where
  order : SolventCrossChainOrder
  mandate : SolventMandate
  quote : DirectMakerQuote
  makerSignature : Bytes
  deriving DecidableEq

structure FillCreditCall where
  order : SolventCrossChainOrder
  mandate : SolventMandate
  quote : MakerCreditQuote
  makerSignature : Bytes
  deriving DecidableEq

structure CompleteRepaymentCall where
  orderId : B256
  message : Bytes
  attestation : Bytes
  deriving DecidableEq

structure ConfirmDirectRepaymentCall where
  orderId : B256
  repaymentProof : Bytes
  deriving DecidableEq

structure SettleDirectCall where
  order : SolventCrossChainOrder
  mandate : SolventMandate
  fillProof : Bytes
  compactClaim : Claim
  deriving DecidableEq

structure SettleRoutedCall where
  order : SolventCrossChainOrder
  mandate : SolventMandate
  fillProof : Bytes
  compactClaim : Claim
  makerOrder : SwapOrder
  deriving DecidableEq

structure DispatchCall where
  orderId : B256
  envelope : Bytes
  deriving DecidableEq

def SolventMandate.to_words (m : SolventMandate) : List U256 :=
  [m.orderId, m.destinationChainId, address_word m.destinationSettler,
    address_word m.fillProofVerifier, address_word m.outputToken, m.minimumOutputAmount,
    address_word m.recipient, uint48_word m.fillDeadline, address_word m.exclusiveFiller,
    uint8_word m.routeKind]

/-- A claim as an argument: its own head and tails. -/
def claim_part (c : Claim) : Part :=
  .behind (tuple [.bytes c.allocatorData, .bytes c.sponsorSignature,
    .here [address_word c.sponsor, c.nonce, c.expires, c.witness], .bytes c.witnessTypestring,
    .here [c.id, c.allocatedAmount],
    .behind (word (Fin.ofNat _ c.claimants.length) ++
      words (c.claimants.flatMap fun claimant => [claimant.claimant, claimant.amount]))])

section Encoding

variable (keccak256 : Bytes → B256)

def FillDirectCall.abi_encode (call : FillDirectCall) : Bytes :=
  calldata keccak256 "fillDirect((address,uint256,uint256,address,address,uint256,uint256,address,uint256,uint256,address,uint256,address,address,address,address,uint48,uint48,uint8),(bytes32,uint256,address,address,address,uint256,address,uint48,address,uint8),(bytes32,address,bytes32,bytes32,uint256,uint256,uint256,uint48),bytes)".toUTF8.data.toList
    [.here call.order.to_words, .here call.mandate.to_words, .here (Static.to_words call.quote),
      .bytes call.makerSignature]

def SettleDirectCall.abi_encode (call : SettleDirectCall) : Bytes :=
  calldata keccak256 "settleDirect((address,uint256,uint256,address,address,uint256,uint256,address,uint256,uint256,address,uint256,address,address,address,address,uint48,uint48,uint8),(bytes32,uint256,address,address,address,uint256,address,uint48,address,uint8),bytes,(bytes,bytes,address,uint256,uint256,bytes32,string,uint256,uint256,(uint256,uint256)[]))".toUTF8.data.toList
    [.here call.order.to_words, .here call.mandate.to_words, .bytes call.fillProof,
      claim_part call.compactClaim]

def DispatchCall.abi_encode (call : DispatchCall) : Bytes :=
  calldata keccak256 "dispatch(bytes32,bytes)".toUTF8.data.toList
    [.here [call.orderId], .bytes call.envelope]

def ConfirmDirectRepaymentCall.abi_encode (call : ConfirmDirectRepaymentCall) : Bytes :=
  calldata keccak256 "confirmDirectRepayment(bytes32,bytes)".toUTF8.data.toList
    [.here [call.orderId], .bytes call.repaymentProof]

end Encoding

/-- What a service's `abi_decode` returns for each type. -/
structure Decoder where
  fillDirect : Bytes → Option FillDirectCall
  fillCredit : Bytes → Option FillCreditCall
  completeRepayment : Bytes → Option CompleteRepaymentCall
  confirmDirectRepayment : Bytes → Option ConfirmDirectRepaymentCall
  settleDirect : Bytes → Option SettleDirectCall
  settleRouted : Bytes → Option SettleRoutedCall
  dispatch : Bytes → Option DispatchCall
  envelope : Bytes → Option ProofEnvelope
  fill : Bytes → Option VerifiedFill
  repayment : Bytes → Option VerifiedRepayment

/-- The arguments the contracts read from calldata on the direct route. -/
structure Calldata where
  fillDirect : Bytes → Option (Contracts.SolventCrossChainOrder × Contracts.SolventMandate ×
    Contracts.DirectMakerQuote × Bytes)
  settleDirect : Bytes → Option (Contracts.SolventCrossChainOrder × Contracts.SolventMandate ×
    Bytes × Contracts.Claim)
  dispatch : Bytes → Option (B256 × Bytes)
  confirmDirectRepayment : Bytes → Option (B256 × Bytes)

/-- Where a service and a contract both read a call from the same bytes, they
    read the same call. -/
structure Agree (abi : Decoder) (chain : Calldata) : Prop where
  fillDirect : ∀ {data call order mandate quote makerSignature},
    abi.fillDirect data = some call →
    chain.fillDirect data = some (order, mandate, quote, makerSignature) →
    call = { order := .of order, mandate := .of mandate, quote, makerSignature }
  settleDirect : ∀ {data call order mandate fillProof compactClaim},
    abi.settleDirect data = some call →
    chain.settleDirect data = some (order, mandate, fillProof, compactClaim) →
    call = { order := .of order, mandate := .of mandate, fillProof, compactClaim }
  dispatch : ∀ {data call orderId envelope},
    abi.dispatch data = some call → chain.dispatch data = some (orderId, envelope) →
    call = { orderId, envelope }
  confirmDirectRepayment : ∀ {data call orderId repaymentProof},
    abi.confirmDirectRepayment data = some call →
    chain.confirmDirectRepayment data = some (orderId, repaymentProof) →
    call = { orderId, repaymentProof }

end Solvent.Validation
