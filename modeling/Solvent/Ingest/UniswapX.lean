import Solvent.Ingest.Decay
import Solvent.Ingest.Erc7683

/-! # UniswapX V2 orders

    The Dutch order as it is signed, cosigned and ingested: its layout, its hash,
    the two digests it is signed under, and the normalizer that turns a raw order
    into an intent.

    The order hash leaves the cosigner's data out, and the swapper's digest reads
    the base order only. So what a cosigner writes is outside what the swapper
    signed, and inside what the cosigner signs.
-/

namespace Solvent

open Abi Contract
open Contracts (address_word word_address uint64_word)

/-! ## The order -/

structure OrderInfo where
  reactor : Address
  swapper : Address
  nonce : U256
  deadline : U256
  additionalValidationContract : Address
  additionalValidationData : Vec UInt8

structure DutchInput where
  token : Address
  startAmount : U256
  endAmount : U256

structure DutchOutput where
  token : Address
  startAmount : U256
  endAmount : U256
  recipient : Address

structure CosignerData where
  decayStartTime : U256
  decayEndTime : U256
  exclusiveFiller : Address
  exclusivityOverrideBps : U256
  inputAmount : U256
  outputAmounts : Vec U256

structure V2DutchOrder where
  info : OrderInfo
  cosigner : Address
  baseInput : DutchInput
  baseOutputs : Vec DutchOutput
  cosignerData : CosignerData
  cosignature : Vec UInt8

theorem word_address_word (a : Address) : word_address (address_word a) = a := by
  refine Fin.ext ?_
  show (address_word a).val % 2 ^ 160 = a.val
  rw [address_word, widen_val]
  exact Nat.mod_eq_of_lt a.isLt

instance : Static DutchOutput where
  width := 4
  to_words o := [address_word o.token, o.startAmount, o.endAmount, address_word o.recipient]
  of_words ws :=
    match ws with
    | [token, startAmount, endAmount, recipient] =>
      some { token := word_address token, startAmount, endAmount
             recipient := word_address recipient }
    | _ => none
  length_to_words _ := rfl
  of_words_to_words o := by simp [word_address_word]

/-! ## Layout -/

namespace OrderInfo

def parts (info : OrderInfo) : List Part :=
  [.here [address_word info.reactor, address_word info.swapper, info.nonce, info.deadline,
      address_word info.additionalValidationContract],
    info.additionalValidationData.part]

def read (data : Bytes) : Option OrderInfo := do
  let [.here [reactor, swapper, nonce, deadline, validation], .behind rest] ←
    read_slots data [some 5, none] data | none
  let additionalValidationData ← Vec.decode_bytes rest
  some {
    reactor := word_address reactor
    swapper := word_address swapper
    nonce
    deadline
    additionalValidationContract := word_address validation
    additionalValidationData }

end OrderInfo

namespace CosignerData

def parts (data : CosignerData) : List Part :=
  [.here [data.decayStartTime, data.decayEndTime, address_word data.exclusiveFiller,
      data.exclusivityOverrideBps, data.inputAmount],
    .behind data.outputAmounts.encode]

/-- `cosignerData.abi_encode()` -/
def abi_encode (data : CosignerData) : Bytes := tuple [.behind (tuple data.parts)]

def read (data : Bytes) : Option CosignerData := do
  let [.here [decayStartTime, decayEndTime, filler, exclusivityOverrideBps, inputAmount],
      .behind rest] ← read_slots data [some 5, none] data | none
  let outputAmounts ← Vec.decode rest
  some {
    decayStartTime
    decayEndTime
    exclusiveFiller := word_address filler
    exclusivityOverrideBps
    inputAmount
    outputAmounts }

end CosignerData

namespace V2DutchOrder

def parts (order : V2DutchOrder) : List Part :=
  [.behind (tuple order.info.parts),
    .here [address_word order.cosigner],
    .here [address_word order.baseInput.token, order.baseInput.startAmount,
      order.baseInput.endAmount],
    .behind order.baseOutputs.encode,
    .behind (tuple order.cosignerData.parts),
    order.cosignature.part]

/-- `order.abi_encode()` -/
def abi_encode (order : V2DutchOrder) : Bytes := tuple [.behind (tuple order.parts)]

def read (data : Bytes) : Option V2DutchOrder := do
  let [.behind record] ← read_slots data [none] data | none
  let [.behind info, .here [cosigner], .here [token, startAmount, endAmount], .behind outputs,
      .behind cosigner_data, .behind signature] ←
    read_slots record [none, some 1, some 3, none, none, none] record | none
  let info ← OrderInfo.read info
  let baseOutputs ← Vec.decode outputs
  let cosignerData ← CosignerData.read cosigner_data
  let cosignature ← Vec.decode_bytes signature
  some {
    info
    cosigner := word_address cosigner
    baseInput := { token := word_address token, startAmount, endAmount }
    baseOutputs
    cosignerData
    cosignature }

end V2DutchOrder

/-! ## Round trips -/

theorem OrderInfo.length_lt (info : OrderInfo) : (tuple info.parts).length < 2 ^ 65 := by
  have hdata := info.additionalValidationData.length_bytes_lt
  rw [length_tuple]
  simp only [parts, Vec.part, Part.bytes, Part.width, tails, List.map_cons, List.map_nil,
    List.sum_cons, List.sum_nil, List.length_cons, List.length_nil, List.append_nil]
  omega

theorem OrderInfo.read_append (info : OrderInfo) (rest : Bytes) :
    read (tuple info.parts ++ rest) = some info := by
  have hlt : (tuple info.parts).length < 2 ^ 256 := info.length_lt.trans (by norm_num)
  have hread := read_slots_tuple hlt rest
  have hshapes : info.parts.map Part.shape = [some 5, none] := rfl
  rw [hshapes] at hread
  unfold read
  rw [hread]
  simp only [parts, Vec.part, Part.bytes, slots, Option.bind_eq_bind, Option.bind_some,
    Vec.decode_bytes_append, word_address_word]

theorem CosignerData.length_lt (data : CosignerData) : (tuple data.parts).length < 2 ^ 70 := by
  have hlength := data.outputAmounts.length_encode
  have hfits := data.outputAmounts.fits
  have hwidth : Static.width U256 = 1 := rfl
  rw [hwidth] at hlength
  rw [length_tuple]
  simp only [parts, Part.width, tails, List.map_cons, List.map_nil, List.sum_cons, List.sum_nil,
    List.length_cons, List.length_nil, List.append_nil]
  omega

theorem CosignerData.read_append (data : CosignerData) (rest : Bytes) :
    read (tuple data.parts ++ rest) = some data := by
  have hlt : (tuple data.parts).length < 2 ^ 256 := data.length_lt.trans (by norm_num)
  have hread := read_slots_tuple hlt rest
  have hshapes : data.parts.map Part.shape = [some 5, none] := rfl
  rw [hshapes] at hread
  unfold read
  rw [hread]
  simp only [parts, slots, Option.bind_eq_bind, Option.bind_some, Vec.decode_append,
    word_address_word]

theorem V2DutchOrder.length_lt (order : V2DutchOrder) : (tuple order.parts).length < 2 ^ 80 := by
  have hinfo := order.info.length_lt
  have hdata := order.cosignerData.length_lt
  have hsignature := order.cosignature.length_bytes_lt
  have houtputs := order.baseOutputs.length_encode
  have hfits := order.baseOutputs.fits
  have hwidth : Static.width DutchOutput = 4 := rfl
  rw [hwidth] at houtputs
  rw [length_tuple]
  simp only [parts, Vec.part, Part.bytes, Part.width, tails, List.map_cons, List.map_nil,
    List.sum_cons, List.sum_nil, List.length_cons, List.length_nil, List.append_nil,
    List.length_append]
  omega

/-- **Round trip** of an order. -/
theorem V2DutchOrder.read_abi_encode (order : V2DutchOrder) :
    read order.abi_encode = some order := by
  have hlength := order.length_lt
  have houter : (tuple [.behind (tuple order.parts)]).length < 2 ^ 256 := by
    rw [length_tuple]
    simp only [Part.width, tails, List.map_cons, List.map_nil, List.sum_cons, List.sum_nil,
      List.append_nil]
    omega
  have hrecord := read_slots_tuple houter []
  have hshape : List.map Part.shape [.behind (tuple order.parts)] = [none] := rfl
  rw [hshape] at hrecord
  have hlt : (tuple order.parts).length < 2 ^ 256 := hlength.trans (by norm_num)
  have hparts := read_slots_tuple hlt []
  have hshapes : order.parts.map Part.shape = [none, some 1, some 3, none, none, none] := rfl
  rw [hshapes] at hparts
  have hsignature := order.cosignature.decode_bytes_append []
  rw [List.append_nil] at hrecord hparts hsignature
  unfold read abi_encode
  rw [hrecord]
  simp only [slots, tails, List.append_nil, Option.bind_eq_bind, Option.bind_some]
  rw [hparts]
  simp only [parts, Vec.part, Part.bytes, slots, tails, List.append_nil, Option.bind_some,
    OrderInfo.read_append, CosignerData.read_append, Vec.decode_append, hsignature,
    word_address_word]

/-! ## Hashes -/

def ORDER_INFO_TYPE : Bytes :=
  "OrderInfo(address reactor,address swapper,uint256 nonce,uint256 deadline,address additionalValidationContract,bytes additionalValidationData)".toUTF8.data.toList

def DUTCH_OUTPUT_TYPE : Bytes :=
  "DutchOutput(address token,uint256 startAmount,uint256 endAmount,address recipient)".toUTF8.data.toList

def V2_DUTCH_ORDER_TYPE : Bytes :=
  "V2DutchOrder(OrderInfo info,address cosigner,address baseInputToken,uint256 baseInputStartAmount,uint256 baseInputEndAmount,DutchOutput[] baseOutputs)".toUTF8.data.toList

def TOKEN_PERMISSIONS_TYPE : Bytes :=
  "TokenPermissions(address token,uint256 amount)".toUTF8.data.toList

def WITNESS_STUB : Bytes :=
  "PermitWitnessTransferFrom(TokenPermissions permitted,address spender,uint256 nonce,uint256 deadline,".toUTF8.data.toList

def WITNESS_ORDER_PREFIX : Bytes := "V2DutchOrder witness)".toUTF8.data.toList

section Hashes

variable (keccak256 : Bytes → B256)

/-- The `bytes` field is hashed. -/
def info_hash (info : OrderInfo) : B256 :=
  keccak256 (words [keccak256 ORDER_INFO_TYPE, address_word info.reactor,
    address_word info.swapper, info.nonce, info.deadline,
    address_word info.additionalValidationContract,
    keccak256 info.additionalValidationData.items])

/-- The hash of the packed hashes of the outputs. -/
def outputs_hash (outputs : List DutchOutput) : B256 :=
  keccak256 (outputs.flatMap fun o =>
    word (keccak256 (words (keccak256 DUTCH_OUTPUT_TYPE :: Static.to_words o))))

/-- The hash the swapper signs, over the amounts before any override. -/
def order_hash (order : V2DutchOrder) : B256 :=
  keccak256 (words [keccak256 (V2_DUTCH_ORDER_TYPE ++ DUTCH_OUTPUT_TYPE ++ ORDER_INFO_TYPE),
    info_hash keccak256 order.info, address_word order.cosigner,
    address_word order.baseInput.token, order.baseInput.startAmount, order.baseInput.endAmount,
    outputs_hash keccak256 order.baseOutputs.items])

/-- The cosigner's preimage is signed raw. -/
def cosign_digest (order : V2DutchOrder) (order_hash : B256) : B256 :=
  keccak256 (word order_hash ++ order.cosignerData.abi_encode)

/-- The swapper's Permit2 digest, with the order hash as its witness. -/
def witness_digest (order : V2DutchOrder) (order_hash : B256) (permit2 : Address)
    (chain_id : U64) : B256 :=
  keccak256 (0x19 :: 0x01 :: words [permit_domain keccak256 permit2 chain_id,
    keccak256 (words [
      keccak256 (WITNESS_STUB ++ (WITNESS_ORDER_PREFIX ++ DUTCH_OUTPUT_TYPE ++ ORDER_INFO_TYPE ++
        TOKEN_PERMISSIONS_TYPE ++ V2_DUTCH_ORDER_TYPE)),
      keccak256 (words [keccak256 TOKEN_PERMISSIONS_TYPE, address_word order.baseInput.token,
        order.baseInput.endAmount]),
      address_word order.info.reactor,
      order.info.nonce,
      order.info.deadline,
      order_hash])])

/-- Two orders that differ in nothing the swapper signs. -/
structure V2DutchOrder.SameBase (order order' : V2DutchOrder) : Prop where
  info : order'.info = order.info
  cosigner : order'.cosigner = order.cosigner
  baseInput : order'.baseInput = order.baseInput
  baseOutputs : order'.baseOutputs = order.baseOutputs

theorem V2DutchOrder.SameBase.order_hash_eq {order order' : V2DutchOrder}
    (h : order.SameBase order') : order_hash keccak256 order' = order_hash keccak256 order := by
  unfold order_hash
  rw [h.info, h.cosigner, h.baseInput, h.baseOutputs]

theorem V2DutchOrder.SameBase.witness_digest_eq {order order' : V2DutchOrder}
    (h : order.SameBase order') (hash : B256) (permit2 : Address) (chain_id : U64) :
    witness_digest keccak256 order' hash permit2 chain_id =
      witness_digest keccak256 order hash permit2 chain_id := by
  unfold witness_digest
  rw [h.info, h.baseInput]

end Hashes

/-! ## The normalizer -/

/-- Until `ends_at` only `filler` may fill. -/
structure Exclusivity where
  filler : Address
  ends_at : U64

structure UniswapXIntent extends SignedIntent where
  exclusivity : Option Exclusivity

/-- An override replaces the base amount only when it is not zero. -/
def overridden (override_amount base : U256) : U256 :=
  if override_amount = 0 then base else override_amount

@[simp] theorem overridden_zero (base : U256) : overridden 0 base = base := if_pos rfl

/-- A curve whose ends agree pays that amount at every time. -/
theorem dutch_flat (amount : U256) (start_time end_time t : U64) :
    (AmountCurve.dutch amount amount start_time end_time).amount_at t = amount := by
  rw [AmountCurve.dutch, if_pos rfl]
  rfl

namespace UniswapXV2Normalizer

/-- The intent of an order whose times were read. -/
def intent_of (keccak256 : Bytes → B256) (raw : RawOrder) (order : V2DutchOrder)
    (start_time end_time deadline : U64) : UniswapXIntent where
  id := ⟨order_hash keccak256 order⟩
  input := {
    token := order.baseInput.token
    curve := .dutch (overridden order.cosignerData.inputAmount order.baseInput.startAmount)
      order.baseInput.endAmount start_time end_time }
  routing_input_limit := none
  outputs := order.baseOutputs.items.zipIdx.map fun entry => {
    token := entry.1.token
    curve := .dutch (overridden (order.cosignerData.outputAmounts.items.getD entry.2 0)
      entry.1.startAmount) entry.1.endAmount start_time end_time
    recipient := entry.1.recipient }
  deadline
  protocol := .UniswapXV2
  settler := order.info.reactor
  origin_chain := raw.chain
  raw := raw.payload
  signature := raw.signature
  observed_at := raw.observed_at
  exclusivity := if order.cosignerData.exclusiveFiller = 0 then none
    else some { filler := order.cosignerData.exclusiveFiller, ends_at := start_time }

/-- The reactor wants one override for each output, and the service's times are 64
    bits wide. -/
def normalize (keccak256 : Bytes → B256) (abi_decode : Bytes → Option V2DutchOrder)
    (raw : RawOrder) : Except NormalizeError UniswapXIntent := do
  let order ← expect (abi_decode raw.payload) (.Decode .UniswapXV2)
  require (order.cosignerData.outputAmounts.items.length = order.baseOutputs.items.length)
    (.Decode .UniswapXV2)
  let start_time ← expect (narrow (2 ^ 64) order.cosignerData.decayStartTime) (.Decode .UniswapXV2)
  let end_time ← expect (narrow (2 ^ 64) order.cosignerData.decayEndTime) (.Decode .UniswapXV2)
  let deadline ← expect (narrow (2 ^ 64) order.info.deadline) (.Decode .UniswapXV2)
  .ok (intent_of keccak256 raw order start_time end_time deadline)

/-- **Spec of `normalize`.** -/
theorem normalize_eq_ok {keccak256 : Bytes → B256} {abi_decode : Bytes → Option V2DutchOrder}
    {raw : RawOrder} {intent : UniswapXIntent} :
    normalize keccak256 abi_decode raw = .ok intent ↔
      ∃ order start_time end_time deadline, abi_decode raw.payload = some order ∧
        order.cosignerData.outputAmounts.items.length = order.baseOutputs.items.length ∧
        uint64_word start_time = order.cosignerData.decayStartTime ∧
        uint64_word end_time = order.cosignerData.decayEndTime ∧
        uint64_word deadline = order.info.deadline ∧
        intent_of keccak256 raw order start_time end_time deadline = intent := by
  have hnarrow : ∀ {w : U256} {n : U64}, narrow (2 ^ 64) w = some n ↔ uint64_word n = w := by
    intro w n
    exact narrow_eq_some (by norm_num)
  unfold normalize
  simp only [expect_bind, require_bind, hnarrow, Except.ok.injEq]
  constructor
  · rintro ⟨order, hdecode, hlength, s, hs, e, he, d, hd, hintent⟩
    exact ⟨order, s, e, d, hdecode, hlength, hs, he, hd, hintent⟩
  · rintro ⟨order, s, e, d, hdecode, hlength, hs, he, hd, hintent⟩
    exact ⟨order, hdecode, hlength, s, hs, e, he, d, hd, hintent⟩

end UniswapXV2Normalizer

end Solvent
