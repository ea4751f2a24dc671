import Solvent.Contracts.SameChain
import Solvent.Swap.Order

/-! # ERC-7683 orders

    The same-chain Solvent order as it is ingested: its struct hash, the Permit2
    digest its user signs, the executor fee its input must leave, and the
    normalizer that turns a raw order into an intent. `keccak256` and the recovery
    of a signer from a signature are parameters.
-/

namespace Solvent

open Abi Contract
open Contracts (Solvent7683Order address_word uint64_word)

instance option_uint8_lawfulBEq : LawfulBEq (Option UInt8) := inferInstance

/-- The source protocol of an intent. -/
inductive ProtocolId where
  | UniswapXV2
  | Erc7683
  deriving DecidableEq

/-- An order straight off a feed, before normalization. -/
structure RawOrder where
  protocol : ProtocolId
  chain : U64
  payload : Bytes
  signature : Bytes
  observed_at : U64

inductive NormalizeError where
  | Decode (protocol : ProtocolId)
  | Invalid (protocol : ProtocolId)
  | Signature (protocol : ProtocolId)
  deriving DecidableEq

/-- An intent with the fields only the fill builder reads. -/
structure SignedIntent extends Intent where
  protocol : ProtocolId
  settler : Address
  origin_chain : U64
  /-- The encoded order. -/
  raw : Bytes
  /-- The swapper's signature over `raw`. -/
  signature : Bytes
  observed_at : U64

/-! ## The execution fee -/

def BPS_DENOMINATOR : U256 := 10000

/-- Between 1 and 9,999 basis points. -/
structure ExecutionFeePolicy where
  bps : Fin (2 ^ 32)
  pos : 0 < bps.val
  lt : bps.val < 10000

namespace ExecutionFeePolicy

/-- `none` on overflow. -/
def fee (policy : ExecutionFeePolicy) (gross_input : U256) : Option U256 := do
  let bps : U256 := Fin.castLE (by norm_num) policy.bps
  let quotient : U256 := gross_input / BPS_DENOMINATOR
  let remainder : U256 := gross_input % BPS_DENOMINATOR
  let base ← quotient.checked_mul bps
  let scaled ← remainder.checked_mul bps
  let raised ← scaled.checked_add (BPS_DENOMINATOR - 1)
  let rounded_remainder := raised / BPS_DENOMINATOR
  let fee ← base.checked_add rounded_remainder
  some (max fee 1)

end ExecutionFeePolicy

/-! ## Hashes -/

section Hashes

variable (keccak256 : Bytes → B256)

def ORDER_TYPE : Bytes :=
  "Solvent7683Order(address settler,address user,uint256 chainId,address inputToken,uint256 inputAmount,address outputToken,uint256 outputAmount,address recipient,uint256 executorFee,uint256 nonce,uint256 deadline)".toUTF8.data.toList

/-- `eip712_hash_struct` -/
def order_id (order : Solvent7683Order) : B256 :=
  keccak256 (words (keccak256 ORDER_TYPE :: Static.to_words order))

/-- The referenced structs follow in the order of their names. -/
def PERMIT_TYPE : Bytes :=
  "PermitWitnessTransferFrom(TokenPermissions permitted,address spender,uint256 nonce,uint256 deadline,Solvent7683Order witness)".toUTF8.data.toList ++
    ORDER_TYPE ++ "TokenPermissions(address token,uint256 amount)".toUTF8.data.toList

def token_permissions_hash (token : Address) (amount : U256) : B256 :=
  keccak256 (words [
    keccak256 "TokenPermissions(address token,uint256 amount)".toUTF8.data.toList,
    address_word token, amount])

/-- The separator of Permit2's domain, which has no version. -/
def permit_domain (permit2 : Address) (chain_id : U64) : B256 :=
  keccak256 (words [
    keccak256 "EIP712Domain(string name,uint256 chainId,address verifyingContract)".toUTF8.data.toList,
    keccak256 "Permit2".toUTF8.data.toList,
    uint64_word chain_id,
    address_word permit2])

def permit_digest (order : Solvent7683Order) (permit2 : Address) (chain_id : U64) : B256 :=
  keccak256 (0x19 :: 0x01 :: words [permit_domain keccak256 permit2 chain_id,
    keccak256 (words [
      keccak256 PERMIT_TYPE,
      token_permissions_hash keccak256 order.inputToken order.inputAmount,
      address_word order.settler,
      order.nonce,
      order.deadline,
      order_id keccak256 order])])

/-- The service and the settler hash an order alike. -/
theorem order_id_eq (order : Solvent7683Order) :
    order_id keccak256 order = Contracts.SolventSameChainSettler.orderId keccak256 order := rfl

end Hashes

/-! ## The normalizer -/

structure Erc7683Normalizer where
  chain : U64
  permit2 : Address
  settler : Address
  fee_policy : ExecutionFeePolicy

namespace Erc7683Normalizer

variable (n : Erc7683Normalizer)

def validate (order : Solvent7683Order) (observed_at : U64) : Except NormalizeError Unit := do
  let expected_fee ← expect (n.fee_policy.fee order.inputAmount) (.Invalid .Erc7683)
  require ((order.settler = n.settler ∧ order.chainId = uint64_word n.chain ∧ order.user ≠ 0 ∧
        order.inputToken ≠ 0 ∧ order.outputToken ≠ 0 ∧ order.recipient ≠ 0 ∧
        order.inputToken ≠ order.outputToken) ∧
      uint64_word observed_at ≤ order.deadline ∧
      (order.inputAmount ≠ 0 ∧ order.outputAmount ≠ 0 ∧ order.executorFee = expected_fee ∧
        order.executorFee < order.inputAmount))
    (.Invalid .Erc7683)

/-- The intent of an order that passed. -/
def intent_of (keccak256 : Bytes → B256) (raw : RawOrder) (order : Solvent7683Order)
    (routing_input : U256) (deadline : U64) : SignedIntent where
  id := ⟨order_id keccak256 order⟩
  input := { token := order.inputToken, curve := .Static order.inputAmount }
  routing_input_limit := some routing_input
  outputs := [{ token := order.outputToken, curve := .Static order.outputAmount
                recipient := order.recipient }]
  deadline
  protocol := .Erc7683
  settler := order.settler
  origin_chain := raw.chain
  raw := raw.payload
  signature := raw.signature
  observed_at := raw.observed_at

/-- `recover` is `Signature::from_raw` and the recovery from the prehash, `none`
    where either fails. Alloy masks a narrow field where it decodes one. -/
def normalize_order (keccak256 : Bytes → B256) (recover : Bytes → B256 → Option Address)
    (raw : RawOrder) : Except NormalizeError SignedIntent := do
  require (raw.protocol = .Erc7683 ∧ raw.chain = n.chain) (.Decode .Erc7683)
  let order ← expect (decode_masked raw.payload) (.Decode .Erc7683)
  n.validate order raw.observed_at
  require (raw.signature.getLast? ∈ [some 0, some 1, some 27, some 28]) (.Signature .Erc7683)
  let user ← expect (recover raw.signature (permit_digest keccak256 order n.permit2 n.chain))
    (.Signature .Erc7683)
  require (user = order.user) (.Signature .Erc7683)
  let routing_input ← expect
    ((order.inputAmount.checked_sub order.executorFee).filter fun amount => amount ≠ 0)
    (.Decode .Erc7683)
  let deadline ← expect (narrow (2 ^ 64) order.deadline) (.Decode .Erc7683)
  .ok (intent_of keccak256 raw order routing_input deadline)

/-- What an admitted order satisfies. -/
structure Admits (keccak256 : Bytes → B256) (recover : Bytes → B256 → Option Address)
    (raw : RawOrder) (order : Solvent7683Order) : Prop where
  protocol : raw.protocol = .Erc7683
  chain : raw.chain = n.chain
  payload : decode_masked raw.payload = some order
  settler : order.settler = n.settler
  chainId : order.chainId = uint64_word n.chain
  addresses : order.user ≠ 0 ∧ order.inputToken ≠ 0 ∧ order.outputToken ≠ 0 ∧ order.recipient ≠ 0
  pair : order.inputToken ≠ order.outputToken
  observed : uint64_word raw.observed_at ≤ order.deadline
  amounts : order.inputAmount ≠ 0 ∧ order.outputAmount ≠ 0
  fee : n.fee_policy.fee order.inputAmount = some order.executorFee
  fee_lt : order.executorFee < order.inputAmount
  signature : raw.signature.getLast? ∈ [some 0, some 1, some 27, some 28]
  user : recover raw.signature (permit_digest keccak256 order n.permit2 n.chain) =
    some order.user

variable {n} {keccak256 : Bytes → B256} {recover : Bytes → B256 → Option Address}

/-- **Spec of `normalize_order`.** The input it routes with is what the fee
    leaves. -/
theorem normalize_order_ok {raw : RawOrder} {intent : SignedIntent}
    (h : n.normalize_order keccak256 recover raw = .ok intent) :
    ∃ order routing_input deadline, n.Admits keccak256 recover raw order ∧
      order.executorFee.val + routing_input.val = order.inputAmount.val ∧
      deadline.val = order.deadline.val ∧
      intent = intent_of keccak256 raw order routing_input deadline := by
  unfold normalize_order at h
  obtain ⟨⟨hprotocol, hchain⟩, h⟩ := require_bind.mp h
  obtain ⟨order, horder, h⟩ := expect_bind.mp h
  obtain ⟨hvalidate, h⟩ := check_bind.mp h
  obtain ⟨hlast, h⟩ := require_bind.mp h
  obtain ⟨user, huser, h⟩ := expect_bind.mp h
  obtain ⟨hsigned, h⟩ := require_bind.mp h
  obtain ⟨routing_input, hrouting, h⟩ := expect_bind.mp h
  obtain ⟨deadline, hdeadline, h⟩ := expect_bind.mp h
  cases h
  unfold validate at hvalidate
  obtain ⟨fee, hfee, hvalidate⟩ := expect_bind.mp hvalidate
  obtain ⟨⟨hsettler, hchainId, huser_ne, hin_ne, hout_ne, hrecipient, hpair⟩, hobserved, hin, hout,
    hpaid, hlt⟩ := require_eq_ok.mp hvalidate
  have hrest := U256.checked_sub_eq_some.mp (Option.filter_eq_some_iff.mp hrouting).1
  have hnarrow := (narrow_eq_some (by norm_num)).mp hdeadline
  refine ⟨order, routing_input, deadline, ?_, hrest, ?_, rfl⟩
  · exact ⟨hprotocol, hchain, horder, hsettler, hchainId, ⟨huser_ne, hin_ne, hout_ne, hrecipient⟩,
      hpair, hobserved, ⟨hin, hout⟩, hpaid ▸ hfee, hlt, hlast, hsigned ▸ huser⟩
  · rw [← hnarrow, widen_val]

end Erc7683Normalizer

/-! ## A sample order -/

/-- A hash that tells the sample's preimages apart. -/
def sample_keccak (bytes : Bytes) : B256 :=
  Fin.ofNat _ (bytes.foldl (fun h b => 257 * h + b.toNat + 1) 0)

def sample_7683_order : Solvent7683Order :=
  { settler := 7, user := 3, chainId := 1, inputToken := 5, inputAmount := 1000, outputToken := 6
    outputAmount := 50, recipient := 3, executorFee := 1, nonce := 0, deadline := 100 }

def sample_normalizer : Erc7683Normalizer :=
  { chain := 1, permit2 := 4, settler := 7, fee_policy := ⟨5, by decide, by decide⟩ }

end Solvent
