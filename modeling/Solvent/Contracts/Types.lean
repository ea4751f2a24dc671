import Mathlib
import Solvent.Primitives
import Solvent.Framework.Abi

/-! # Cross-chain orders, quotes and proofs

    The records the settlement contracts exchange: the order a user commits to,
    the mandate embedded in that commitment, the makers' quotes, and the two
    proofs a chain relays to the other, each with its ABI layout. Hashes are
    those of `CrossChainHashLib`: a type tag, then the record's words.

    `keccak256` is a parameter throughout.
-/

namespace Solvent.Contracts

open Abi

abbrev Bytes : Type := List UInt8

abbrev Uint8 : Type := Fin (2 ^ 8)

abbrev Uint32 : Type := Fin (2 ^ 32)

abbrev Uint48 : Type := Fin (2 ^ 48)

/-- An address as a word. -/
def address_word (a : Address) : U256 := widen (Nat.pow_le_pow_right (by norm_num) (by norm_num)) a

/-- `address(uint160(word))` -/
def word_address (w : U256) : Address := Fin.ofNat _ w.val

def uint64_word (n : U64) : U256 := widen two_pow_64_le n

def uint48_word (n : Uint48) : U256 := widen (Nat.pow_le_pow_right (by norm_num) (by norm_num)) n

def uint32_word (n : Uint32) : U256 := widen (Nat.pow_le_pow_right (by norm_num) (by norm_num)) n

def uint8_word (n : Uint8) : U256 := widen (Nat.pow_le_pow_right (by norm_num) (by norm_num)) n

/-- `uint48(value)` -/
def to_uint48 (value : U256) : Uint48 := Fin.ofNat _ value.val

/-- A word that must be an address. -/
def as_address : U256 → Option Address := narrow _

/-- A word that must be a `uint48`. -/
def as_uint48 : U256 → Option Uint48 := narrow _

/-- A word that must be a `uint8`. -/
def as_uint8 : U256 → Option Uint8 := narrow _

@[simp] theorem as_address_word (a : Address) : as_address (address_word a) = some a :=
  narrow_widen _ a

@[simp] theorem as_uint48_word (n : Uint48) : as_uint48 (uint48_word n) = some n :=
  narrow_widen _ n

@[simp] theorem as_uint8_word (n : Uint8) : as_uint8 (uint8_word n) = some n :=
  narrow_widen _ n

theorem address_word_injective : Function.Injective address_word := widen_injective _

/-! ## Orders and mandates -/

inductive RouteKind where
  | TwoMakerCredit
  | DirectMaker
  deriving DecidableEq

namespace RouteKind

def word : RouteKind → U256
  | TwoMakerCredit => 0
  | DirectMaker => 1

def of_word (w : U256) : Option RouteKind :=
  if w = 0 then some TwoMakerCredit else if w = 1 then some DirectMaker else none

@[simp] theorem of_word_word (kind : RouteKind) : of_word kind.word = some kind := by
  cases kind <;> decide

end RouteKind

/-- The cross-chain order whose hash ties the Compact commitment to destination
    execution. -/
structure SolventCrossChainOrder where
  user : Address
  nonce : U256
  originChainId : U256
  originSettler : Address
  compact : Address
  compactId : U256
  compactExpires : U256
  inputToken : Address
  inputAmount : U256
  destinationChainId : U256
  outputToken : Address
  minimumOutputAmount : U256
  recipient : Address
  destinationSettler : Address
  fillProofVerifier : Address
  exclusiveFiller : Address
  exclusivityEnds : Uint48
  fillDeadline : Uint48
  routeKind : RouteKind
  deriving DecidableEq

/-- The portion of an order embedded as The Compact's witness. -/
structure SolventMandate where
  orderId : B256
  destinationChainId : U256
  destinationSettler : Address
  fillProofVerifier : Address
  outputToken : Address
  minimumOutputAmount : U256
  recipient : Address
  fillDeadline : Uint48
  exclusiveFiller : Address
  routeKind : RouteKind
  deriving DecidableEq

/-- A maker's authorization to deliver the destination asset now for the locked
    origin asset later. -/
structure DirectMakerQuote where
  orderId : B256
  maker : Address
  destinationStrategyHash : B256
  originStrategyHash : B256
  outputAmount : U256
  repaymentAmount : U256
  nonce : U256
  expires : Uint48
  deriving DecidableEq

/-- A maker's authorization to deliver output now for a bounded CCTP USDC
    repayment later. -/
structure MakerCreditQuote where
  orderId : B256
  maker : Address
  destinationStrategyHash : B256
  outputAmount : U256
  usdcDue : U256
  maxCctpFee : U256
  nonce : U256
  expires : Uint48
  deriving DecidableEq

instance : Static SolventCrossChainOrder where
  width := 19
  to_words o := [address_word o.user, o.nonce, o.originChainId, address_word o.originSettler,
    address_word o.compact, o.compactId, o.compactExpires, address_word o.inputToken,
    o.inputAmount, o.destinationChainId, address_word o.outputToken, o.minimumOutputAmount,
    address_word o.recipient, address_word o.destinationSettler, address_word o.fillProofVerifier,
    address_word o.exclusiveFiller, uint48_word o.exclusivityEnds, uint48_word o.fillDeadline,
    o.routeKind.word]
  of_words
    | [user, nonce, originChainId, originSettler, compact, compactId, compactExpires, inputToken,
        inputAmount, destinationChainId, outputToken, minimumOutputAmount, recipient,
        destinationSettler, fillProofVerifier, exclusiveFiller, exclusivityEnds, fillDeadline,
        routeKind] => do
      some {
        user := ← as_address user
        nonce
        originChainId
        originSettler := ← as_address originSettler
        compact := ← as_address compact
        compactId
        compactExpires
        inputToken := ← as_address inputToken
        inputAmount
        destinationChainId
        outputToken := ← as_address outputToken
        minimumOutputAmount
        recipient := ← as_address recipient
        destinationSettler := ← as_address destinationSettler
        fillProofVerifier := ← as_address fillProofVerifier
        exclusiveFiller := ← as_address exclusiveFiller
        exclusivityEnds := ← as_uint48 exclusivityEnds
        fillDeadline := ← as_uint48 fillDeadline
        routeKind := ← RouteKind.of_word routeKind }
    | _ => none
  length_to_words _ := rfl
  of_words_to_words o := by simp

instance : Static SolventMandate where
  width := 10
  to_words m := [m.orderId, m.destinationChainId, address_word m.destinationSettler,
    address_word m.fillProofVerifier, address_word m.outputToken, m.minimumOutputAmount,
    address_word m.recipient, uint48_word m.fillDeadline, address_word m.exclusiveFiller,
    m.routeKind.word]
  of_words
    | [orderId, destinationChainId, destinationSettler, fillProofVerifier, outputToken,
        minimumOutputAmount, recipient, fillDeadline, exclusiveFiller, routeKind] => do
      some {
        orderId
        destinationChainId
        destinationSettler := ← as_address destinationSettler
        fillProofVerifier := ← as_address fillProofVerifier
        outputToken := ← as_address outputToken
        minimumOutputAmount
        recipient := ← as_address recipient
        fillDeadline := ← as_uint48 fillDeadline
        exclusiveFiller := ← as_address exclusiveFiller
        routeKind := ← RouteKind.of_word routeKind }
    | _ => none
  length_to_words _ := rfl
  of_words_to_words m := by simp

instance : Static DirectMakerQuote where
  width := 8
  to_words q := [q.orderId, address_word q.maker, q.destinationStrategyHash, q.originStrategyHash,
    q.outputAmount, q.repaymentAmount, q.nonce, uint48_word q.expires]
  of_words
    | [orderId, maker, destinationStrategyHash, originStrategyHash, outputAmount, repaymentAmount,
        nonce, expires] => do
      some {
        orderId
        maker := ← as_address maker
        destinationStrategyHash
        originStrategyHash
        outputAmount
        repaymentAmount
        nonce
        expires := ← as_uint48 expires }
    | _ => none
  length_to_words _ := rfl
  of_words_to_words q := by simp

instance : Static MakerCreditQuote where
  width := 8
  to_words q := [q.orderId, address_word q.maker, q.destinationStrategyHash, q.outputAmount,
    q.usdcDue, q.maxCctpFee, q.nonce, uint48_word q.expires]
  of_words
    | [orderId, maker, destinationStrategyHash, outputAmount, usdcDue, maxCctpFee, nonce,
        expires] => do
      some {
        orderId
        maker := ← as_address maker
        destinationStrategyHash
        outputAmount
        usdcDue
        maxCctpFee
        nonce
        expires := ← as_uint48 expires }
    | _ => none
  length_to_words _ := rfl
  of_words_to_words q := by simp

/-! ## Proofs -/

inductive ProofKind where
  | Fill
  | DirectRepayment
  deriving DecidableEq

namespace ProofKind

def word : ProofKind → U256
  | Fill => 0
  | DirectRepayment => 1

def of_word (w : U256) : Option ProofKind :=
  if w = 0 then some Fill else if w = 1 then some DirectRepayment else none

@[simp] theorem of_word_word (kind : ProofKind) : of_word kind.word = some kind := by
  cases kind <;> decide

end ProofKind

/-- What the destination chain proves about a delivery. -/
structure VerifiedFill where
  orderId : B256
  routeKind : RouteKind
  destinationChainId : U256
  destinationApp : Address
  recipient : Address
  outputToken : Address
  outputAmount : U256
  destinationMaker : Address
  destinationStrategyHash : B256
  originStrategyHash : B256
  repaymentToken : Address
  repaymentAmount : U256
  maxCctpFee : U256
  makerQuoteHash : B256
  fillId : B256
  deriving DecidableEq

/-- What the origin chain proves about a direct repayment. -/
@[ext]
structure VerifiedRepayment where
  orderId : B256
  originChainId : U256
  originSettler : Address
  maker : Address
  repaymentToken : Address
  repaymentAmount : U256
  repaymentId : B256
  deriving DecidableEq

instance : Static VerifiedFill where
  width := 15
  to_words f := [f.orderId, f.routeKind.word, f.destinationChainId, address_word f.destinationApp,
    address_word f.recipient, address_word f.outputToken, f.outputAmount,
    address_word f.destinationMaker, f.destinationStrategyHash, f.originStrategyHash,
    address_word f.repaymentToken, f.repaymentAmount, f.maxCctpFee, f.makerQuoteHash, f.fillId]
  of_words
    | [orderId, routeKind, destinationChainId, destinationApp, recipient, outputToken,
        outputAmount, destinationMaker, destinationStrategyHash, originStrategyHash,
        repaymentToken, repaymentAmount, maxCctpFee, makerQuoteHash, fillId] => do
      some {
        orderId
        routeKind := ← RouteKind.of_word routeKind
        destinationChainId
        destinationApp := ← as_address destinationApp
        recipient := ← as_address recipient
        outputToken := ← as_address outputToken
        outputAmount
        destinationMaker := ← as_address destinationMaker
        destinationStrategyHash
        originStrategyHash
        repaymentToken := ← as_address repaymentToken
        repaymentAmount
        maxCctpFee
        makerQuoteHash
        fillId }
    | _ => none
  length_to_words _ := rfl
  of_words_to_words f := by simp

instance : Static VerifiedRepayment where
  width := 7
  to_words r := [r.orderId, r.originChainId, address_word r.originSettler, address_word r.maker,
    address_word r.repaymentToken, r.repaymentAmount, r.repaymentId]
  of_words
    | [orderId, originChainId, originSettler, maker, repaymentToken, repaymentAmount,
        repaymentId] => do
      some {
        orderId
        originChainId
        originSettler := ← as_address originSettler
        maker := ← as_address maker
        repaymentToken := ← as_address repaymentToken
        repaymentAmount
        repaymentId }
    | _ => none
  length_to_words _ := rfl
  of_words_to_words r := by simp

structure ProofEnvelope where
  version : Uint8
  kind : ProofKind
  payload : Bytes
  deriving DecidableEq

namespace ProofEnvelope

/-- `abi.encode` of an envelope: an offset to the record, whose payload is a
    byte string behind the three head words. -/
def encode (e : ProofEnvelope) : Bytes :=
  words [32, uint8_word e.version, e.kind.word, 96] ++
    encode_bytes (Fin.ofNat _ e.payload.length) e.payload

/-- `abi.decode` of an envelope. -/
def decode (data : Bytes) : Option ProofEnvelope := do
  let start ← read_word data
  let body := data.drop start.val
  let version ← (read_word body).bind as_uint8
  let kind ← (read_word (body.drop 32)).bind ProofKind.of_word
  let offset ← read_word (body.drop 64)
  let payload ← decode_bytes (body.drop offset.val)
  some { version, kind, payload }

/-- **Round trip** of an envelope whose payload has a length that is a word. -/
theorem decode_encode (e : ProofEnvelope) (h : e.payload.length < 2 ^ 256) :
    decode e.encode = some e := by
  have hlength : e.payload.length = (Fin.ofNat (2 ^ 256) e.payload.length).val :=
    (Nat.mod_eq_of_lt h).symm
  unfold encode
  generalize Fin.ofNat (2 ^ 256) e.payload.length = length at hlength
  have hbytes := decode_bytes_append hlength []
  rw [List.append_nil] at hbytes
  -- The head words of the record, from its first byte.
  have h64 := drop_words_append [uint8_word e.version, e.kind.word]
    (word 96 ++ encode_bytes length e.payload)
  have h96 := drop_words_append [uint8_word e.version, e.kind.word, 96]
    (encode_bytes length e.payload)
  have hbody : (words [32, uint8_word e.version, e.kind.word, 96] ++
      encode_bytes length e.payload).drop 32 =
      words [uint8_word e.version, e.kind.word, 96] ++ encode_bytes length e.payload :=
    drop_words_append [32] _
  simp only [words_cons, words_nil, List.append_assoc, List.nil_append, List.length_cons,
    List.length_nil] at h64 h96 hbody
  unfold decode
  simp only [words_cons, words_nil, List.append_assoc, List.nil_append, read_word_append,
    Option.bind_eq_bind, Option.bind_some]
  rw [show (32 : U256).val = 32 from rfl, hbody, h64]
  simp only [read_word_append, drop_word_append, Option.bind_some, as_uint8_word,
    ProofKind.of_word_word]
  rw [show (96 : U256).val = 96 from rfl, h96, hbytes]
  rfl

end ProofEnvelope

namespace ProofHashLib

def VERSION : Uint8 := 1

def encode (kind : ProofKind) (payload : Bytes) : Bytes :=
  ProofEnvelope.encode { version := VERSION, kind, payload }

end ProofHashLib

/-! ## Hashes -/

namespace CrossChainHashLib

variable (keccak256 : Bytes → B256)

def ORDER_TYPEHASH : B256 := keccak256
  "SolventCrossChainOrder(address user,uint256 nonce,uint256 originChainId,address originSettler,address compact,uint256 compactId,uint256 compactExpires,address inputToken,uint256 inputAmount,uint256 destinationChainId,address outputToken,uint256 minimumOutputAmount,address recipient,address destinationSettler,address fillProofVerifier,address exclusiveFiller,uint48 exclusivityEnds,uint48 fillDeadline,uint8 routeKind)".toUTF8.data.toList

def MANDATE_TYPEHASH : B256 := keccak256
  "Mandate(bytes32 orderId,uint256 destinationChainId,address destinationSettler,address fillProofVerifier,address outputToken,uint256 minimumOutputAmount,address recipient,uint48 fillDeadline,address exclusiveFiller,uint8 routeKind)".toUTF8.data.toList

def DIRECT_QUOTE_TYPEHASH : B256 := keccak256
  "DirectMakerQuote(bytes32 orderId,address maker,bytes32 destinationStrategyHash,bytes32 originStrategyHash,uint256 outputAmount,uint256 repaymentAmount,uint256 nonce,uint48 expires)".toUTF8.data.toList

def CREDIT_QUOTE_TYPEHASH : B256 := keccak256
  "MakerCreditQuote(bytes32 orderId,address maker,bytes32 destinationStrategyHash,uint256 outputAmount,uint256 usdcDue,uint256 maxCctpFee,uint256 nonce,uint48 expires)".toUTF8.data.toList

/-- What `hashOrder` hashes. -/
def order_bytes (order : SolventCrossChainOrder) : Bytes :=
  words (ORDER_TYPEHASH keccak256 :: Static.to_words order)

def hashOrder (order : SolventCrossChainOrder) : B256 := keccak256 (order_bytes keccak256 order)

/-- What `hashMandate` hashes. -/
def mandate_bytes (mandate : SolventMandate) : Bytes :=
  words (MANDATE_TYPEHASH keccak256 :: Static.to_words mandate)

def hashMandate (mandate : SolventMandate) : B256 := keccak256 (mandate_bytes keccak256 mandate)

def hashDirectQuote (quote : DirectMakerQuote) : B256 :=
  keccak256 (words (DIRECT_QUOTE_TYPEHASH keccak256 :: Static.to_words quote))

def hashCreditQuote (quote : MakerCreditQuote) : B256 :=
  keccak256 (words (CREDIT_QUOTE_TYPEHASH keccak256 :: Static.to_words quote))

theorem order_bytes_injective : Function.Injective (order_bytes keccak256) :=
  tagged_injective (ORDER_TYPEHASH keccak256)

end CrossChainHashLib

end Solvent.Contracts
