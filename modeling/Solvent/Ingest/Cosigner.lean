import Solvent.Ingest.Acceptable
import Solvent.Ingest.UniswapX

/-! # Cosigning

    The server verifies the swapper's signature over a base order, writes the
    decay window over the cosigner's data, signs that, and hands the order on as
    the raw order the normalizer reads.

    Everything the swapper signed survives. What does not always survive is the
    order itself: the server compares the deadline with the window as a word,
    and the normalizer reads it as 64 bits.
-/

namespace Solvent

open Abi Contract
open Contracts (uint64_word y_parity)

/-! ## Signatures -/

/-- `r` and `s`, and the parity of the recovered point. -/
structure Signature where
  rs : Bytes
  length : rs.length = 64
  parity : Bool

namespace Signature

/-- 65 bytes, the last of which spells the parity. -/
def from_raw (bytes : Bytes) : Option Signature :=
  if h : bytes.length = 65 then
    (bytes.getLast?.bind y_parity).map fun parity =>
      { rs := bytes.take 64, length := by rw [List.length_take]; omega, parity }
  else none

/-- `r ‖ s ‖ v` with `v` 27 or 28. -/
def as_bytes (signature : Signature) : Bytes :=
  signature.rs ++ [if signature.parity then 28 else 27]

/-- `recover_address_from_prehash` -/
def recover (ecrecover : B256 → Bool → Bytes → Option Address) (signature : Signature)
    (digest : B256) : Option Address :=
  ecrecover digest signature.parity signature.rs

theorem length_as_bytes (signature : Signature) : signature.as_bytes.length = 65 := by
  rw [as_bytes, List.length_append, signature.length, List.length_singleton]

theorem getLast_as_bytes (signature : Signature) :
    signature.as_bytes.getLast? = some 27 ∨ signature.as_bytes.getLast? = some 28 := by
  rw [as_bytes, List.getLast?_append]
  cases signature.parity
  · exact .inl rfl
  · exact .inr rfl

/-- **Round trip.** -/
theorem from_raw_as_bytes (signature : Signature) :
    from_raw signature.as_bytes = some signature := by
  have hlast : signature.as_bytes.getLast?.bind y_parity = some signature.parity := by
    rw [as_bytes, List.getLast?_append]
    cases signature.parity <;> rfl
  have htake : signature.as_bytes.take 64 = signature.rs := by
    rw [as_bytes, ← signature.length, List.take_left]
  unfold from_raw
  rw [dif_pos signature.length_as_bytes, hlast, Option.map_some]
  cases signature
  simp only [htake]

end Signature

/-- A local key: its address is what its signatures recover. -/
structure PrivateKeySigner (ecrecover : B256 → Bool → Bytes → Option Address) where
  address : Address
  sign_hash : B256 → Signature
  recovers : ∀ digest, (sign_hash digest).recover ecrecover digest = some address

def sign65 {ecrecover : B256 → Bool → Bytes → Option Address}
    (signer : PrivateKeySigner ecrecover) (digest : B256) : Vec UInt8 :=
  { items := (signer.sign_hash digest).as_bytes
    fits := by
      rw [Signature.length_as_bytes]
      norm_num }

/-! ## The server -/

inductive CosignError where
  | Decode
  | WrongCosigner
  | BadSignature
  | UnsupportedOrder (reason : String)
  deriving DecidableEq

/-- A cosigned order and the swapper its signature recovered to. -/
structure Cosigned where
  swapper : Address
  raw : RawOrder

structure ServerCosigner (ecrecover : B256 → Bool → Bytes → Option Address) where
  permit2 : Address
  reactor : Address
  chain_id : U64
  cosigner : PrivateKeySigner ecrecover
  exclusive_filler : Address
  decay_window_secs : U64

namespace ServerCosigner

variable {ecrecover : B256 → Bool → Bytes → Option Address} (server : ServerCosigner ecrecover)
  (keccak256 : Bytes → B256) (abi_decode : Bytes → Option V2DutchOrder)

/-- The end of the decay window. -/
def decay_end (observed_at : U64) : U64 := observed_at.saturating_add server.decay_window_secs

def validate_order (order : V2DutchOrder) (observed_at : U64) : Except CosignError Unit := do
  require (order.info.reactor = server.reactor) (.UnsupportedOrder "reactor is not supported")
  require (order.info.swapper ≠ 0) (.UnsupportedOrder "swapper is the zero address")
  require (order.info.additionalValidationContract = 0 ∧
      order.info.additionalValidationData.items = [])
    (.UnsupportedOrder "additional validation hooks are not supported")
  require (order.baseInput.token ≠ 0) (.UnsupportedOrder "input token is the zero address")
  require (order.baseInput.startAmount ≠ 0 ∧
      order.baseInput.startAmount = order.baseInput.endAmount)
    (.UnsupportedOrder "input must have one positive fixed amount")
  match order.baseOutputs.items with
  | [output] => do
    require (output.token ≠ 0 ∧ output.token ≠ order.baseInput.token)
      (.UnsupportedOrder "output token must be nonzero and distinct from input")
    require (output.startAmount ≠ 0 ∧ output.startAmount = output.endAmount)
      (.UnsupportedOrder "output must have one positive fixed amount")
    require (output.recipient = order.info.swapper)
      (.UnsupportedOrder "output recipient must be the swapper")
    require (uint64_word (server.decay_end observed_at) ≤ order.info.deadline)
      (.UnsupportedOrder "deadline is shorter than the resolver decay window")
  | _ => .error (.UnsupportedOrder "exactly one output is required")

/-- The window anchored at `observed_at`, and no override of any amount. -/
def cosigner_data (order : V2DutchOrder) (observed_at : U64) : CosignerData where
  decayStartTime := uint64_word observed_at
  decayEndTime := uint64_word (server.decay_end observed_at)
  exclusiveFiller := server.exclusive_filler
  exclusivityOverrideBps := 0
  inputAmount := 0
  outputAmounts := {
    items := List.replicate order.baseOutputs.items.length 0
    fits := by
      rw [List.length_replicate]
      exact order.baseOutputs.fits }

/-- The order with the window written over it, and signed. -/
def cosigned_order (order : V2DutchOrder) (observed_at : U64) : V2DutchOrder :=
  let order' := { order with cosignerData := server.cosigner_data order observed_at }
  { order' with
    cosignature := sign65 server.cosigner
      (cosign_digest keccak256 order' (order_hash keccak256 order)) }

def cosign (encoded_order signature : Bytes) (observed_at : U64) :
    Except CosignError Cosigned := do
  let order ← expect (abi_decode encoded_order) .Decode
  server.validate_order order observed_at
  require (order.cosigner = server.cosigner.address) .WrongCosigner
  -- The witness excludes the cosigner's data: setting it afterwards keeps the signature valid.
  let digest := witness_digest keccak256 order (order_hash keccak256 order) server.permit2
    server.chain_id
  require (signature.getLast? ∈ [some 0, some 1, some 27, some 28]) .BadSignature
  let signature ← expect (Signature.from_raw signature) .BadSignature
  let swapper ← expect (signature.recover ecrecover digest) .BadSignature
  require (swapper = order.info.swapper) .BadSignature
  .ok {
    swapper
    raw := {
      protocol := .UniswapXV2
      chain := server.chain_id
      payload := (server.cosigned_order keccak256 order observed_at).abi_encode
      signature := signature.as_bytes
      observed_at } }

/-! ## What is accepted -/

/-- What an order the server cosigns satisfies. -/
structure Supports (order : V2DutchOrder) (observed_at : U64) : Prop where
  reactor : order.info.reactor = server.reactor
  swapper : order.info.swapper ≠ 0
  input : order.baseInput.startAmount = order.baseInput.endAmount
  output : ∃ output, order.baseOutputs.items = [output] ∧
    output.startAmount = output.endAmount ∧ output.recipient = order.info.swapper
  window : uint64_word (server.decay_end observed_at) ≤ order.info.deadline

variable {server} in
theorem validate_order_ok {order : V2DutchOrder} {observed_at : U64}
    (h : server.validate_order order observed_at = .ok ()) : server.Supports order observed_at := by
  unfold validate_order at h
  obtain ⟨hreactor, h⟩ := require_bind.mp h
  obtain ⟨hswapper, h⟩ := require_bind.mp h
  obtain ⟨-, h⟩ := require_bind.mp h
  obtain ⟨-, h⟩ := require_bind.mp h
  obtain ⟨⟨-, hinput⟩, h⟩ := require_bind.mp h
  split at h
  · rename_i output houtputs
    obtain ⟨-, h⟩ := require_bind.mp h
    obtain ⟨⟨-, houtput⟩, h⟩ := require_bind.mp h
    obtain ⟨hrecipient, h⟩ := require_bind.mp h
    exact ⟨hreactor, hswapper, hinput, ⟨output, houtputs, houtput, hrecipient⟩,
      require_eq_ok.mp h⟩
  · cases h

variable {server keccak256 abi_decode} in
/-- **Spec of `cosign`.** -/
theorem cosign_ok {encoded_order signature : Bytes} {observed_at : U64} {cosigned : Cosigned}
    (h : server.cosign keccak256 abi_decode encoded_order signature observed_at = .ok cosigned) :
    ∃ order signature', abi_decode encoded_order = some order ∧ server.Supports order observed_at ∧
      order.cosigner = server.cosigner.address ∧
      Signature.from_raw signature = some signature' ∧
      signature'.recover ecrecover (witness_digest keccak256 order (order_hash keccak256 order)
        server.permit2 server.chain_id) = some order.info.swapper ∧
      cosigned = {
        swapper := order.info.swapper
        raw := {
          protocol := .UniswapXV2
          chain := server.chain_id
          payload := (server.cosigned_order keccak256 order observed_at).abi_encode
          signature := signature'.as_bytes
          observed_at } } := by
  unfold cosign at h
  obtain ⟨order, horder, h⟩ := expect_bind.mp h
  obtain ⟨hvalidate, h⟩ := check_bind.mp h
  obtain ⟨hcosigner, h⟩ := require_bind.mp h
  obtain ⟨-, h⟩ := require_bind.mp h
  obtain ⟨signature', hsignature, h⟩ := expect_bind.mp h
  obtain ⟨swapper, hswapper, h⟩ := expect_bind.mp h
  obtain ⟨rfl, h⟩ := require_bind.mp h
  cases h
  exact ⟨order, signature', horder, validate_order_ok hvalidate, hcosigner, hsignature, hswapper,
    rfl⟩

theorem cosigned_order_same_base (order : V2DutchOrder) (observed_at : U64) :
    order.SameBase (server.cosigned_order keccak256 order observed_at) :=
  ⟨rfl, rfl, rfl, rfl⟩

/-! ## What is kept -/

/-- What is handed on: an order with the signed base, under the swapper's signature
    and the cosigner's. -/
structure Forwards (order : V2DutchOrder) (cosigned : Cosigned) (forwarded : V2DutchOrder) :
    Prop where
  payload : abi_decode cosigned.raw.payload = some forwarded
  base : order.SameBase forwarded
  length : cosigned.raw.signature.length = 65
  recovery_byte : cosigned.raw.signature.getLast? = some 27 ∨
    cosigned.raw.signature.getLast? = some 28
  swapper : (Signature.from_raw cosigned.raw.signature).bind (·.recover ecrecover
    (witness_digest keccak256 forwarded (order_hash keccak256 forwarded) server.permit2
      server.chain_id)) = some order.info.swapper
  cosigner : (Signature.from_raw forwarded.cosignature.items).bind (·.recover ecrecover
    (cosign_digest keccak256 forwarded (order_hash keccak256 forwarded))) = some order.cosigner

/-- What an intent keeps of the order the swapper signed. -/
structure IntentKeeps (order : V2DutchOrder) (observed_at : U64) (intent : UniswapXIntent) :
    Prop where
  id : intent.id = ⟨order_hash keccak256 order⟩
  input_token : intent.input.token = order.baseInput.token
  input : ∀ t, intent.input.curve.amount_at t = order.baseInput.startAmount ∧
    intent.input.curve.amount_at t = order.baseInput.endAmount
  output : ∃ signed output, order.baseOutputs.items = [signed] ∧ intent.outputs = [output] ∧
    output.token = signed.token ∧ output.recipient = signed.recipient ∧
    ∀ t, output.curve.amount_at t = signed.startAmount ∧
      output.curve.amount_at t = signed.endAmount
  reactor : intent.settler = order.info.reactor
  deadline : uint64_word intent.deadline = order.info.deadline
  window : server.decay_end observed_at ≤ intent.deadline

variable {server keccak256 abi_decode}

theorem cosigned_forwards (hdecode : ∀ order : V2DutchOrder, abi_decode order.abi_encode = some order)
    {order : V2DutchOrder} {signature : Signature} {observed_at : U64} {cosigned : Cosigned}
    (hcosigner : order.cosigner = server.cosigner.address)
    (hswapper : signature.recover ecrecover (witness_digest keccak256 order
      (order_hash keccak256 order) server.permit2 server.chain_id) = some order.info.swapper)
    (hpayload : cosigned.raw.payload = (server.cosigned_order keccak256 order observed_at).abi_encode)
    (hsignature : cosigned.raw.signature = signature.as_bytes) :
    server.Forwards keccak256 abi_decode order cosigned
      (server.cosigned_order keccak256 order observed_at) := by
  have hbase := server.cosigned_order_same_base keccak256 order observed_at
  have hhash := hbase.order_hash_eq keccak256
  refine ⟨?_, hbase, ?_, ?_, ?_, ?_⟩
  · rw [hpayload]
    exact hdecode _
  · rw [hsignature]
    exact signature.length_as_bytes
  · rw [hsignature]
    exact signature.getLast_as_bytes
  · -- Neither digest the swapper signed reads what the cosigner wrote.
    rw [hsignature, signature.from_raw_as_bytes, hhash, hbase.witness_digest_eq keccak256]
    exact hswapper
  · rw [hhash, hcosigner]
    show (Signature.from_raw (server.cosigner.sign_hash _).as_bytes).bind _ = _
    rw [Signature.from_raw_as_bytes]
    exact server.cosigner.recovers _

/-- The intent of a cosigned order whose deadline fits. -/
theorem intent_keeps {raw : RawOrder} {order : V2DutchOrder} {observed_at deadline : U64}
    (hsupports : server.Supports order observed_at)
    (hdeadline : uint64_word deadline = order.info.deadline) :
    server.IntentKeeps keccak256 order observed_at (UniswapXV2Normalizer.intent_of keccak256 raw
      (server.cosigned_order keccak256 order observed_at) observed_at
      (server.decay_end observed_at) deadline) := by
  obtain ⟨signed, houtputs, houtput, -⟩ := hsupports.output
  have hhash := (server.cosigned_order_same_base keccak256 order observed_at).order_hash_eq keccak256
  have hinput : ∀ t, (AmountCurve.dutch (overridden 0 order.baseInput.startAmount)
      order.baseInput.endAmount observed_at (server.decay_end observed_at)).amount_at t =
        order.baseInput.startAmount := by
    intro t
    rw [overridden_zero, ← hsupports.input, dutch_flat]
  have hpaid : ∀ t, (AmountCurve.dutch (overridden 0 signed.startAmount)
      signed.endAmount observed_at (server.decay_end observed_at)).amount_at t =
        signed.startAmount := by
    intro t
    rw [overridden_zero, ← houtput, dutch_flat]
  exact
    { id := congrArg IntentId.mk hhash
      input_token := rfl
      input := fun t => ⟨hinput t, (hinput t).trans hsupports.input⟩
      output := by
        refine ⟨signed, {
          token := signed.token
          curve := .dutch (overridden 0 signed.startAmount) signed.endAmount observed_at
            (server.decay_end observed_at)
          recipient := signed.recipient }, houtputs, ?_, rfl, rfl,
          fun t => ⟨hpaid t, (hpaid t).trans houtput⟩⟩
        -- The one output has the one override, which is zero.
        show (order.baseOutputs.items.zipIdx.map _) = _
        simp only [houtputs, List.zipIdx_singleton, List.map_cons, List.map_nil]
        simp [cosigned_order, cosigner_data, houtputs]
      reactor := rfl
      deadline := hdeadline
      window := by
        have hwindow := hsupports.window
        rw [← hdeadline] at hwindow
        exact hwindow }

/-- **Cosigning keeps what the swapper signed.** The forwarded order has the signed
    base under both signatures; and the normalizer takes it, with the signed
    amounts, tokens, recipient, reactor and deadline, exactly when the deadline
    fits 64 bits. -/
theorem cosign_keeps_iff
    (hdecode : ∀ order : V2DutchOrder, abi_decode order.abi_encode = some order)
    {encoded_order signature : Bytes} {observed_at : U64} {cosigned : Cosigned}
    (h : server.cosign keccak256 abi_decode encoded_order signature observed_at = .ok cosigned) :
    ∃ order forwarded, abi_decode encoded_order = some order ∧
      server.Forwards keccak256 abi_decode order cosigned forwarded ∧
      ((∃ intent, UniswapXV2Normalizer.normalize keccak256 abi_decode cosigned.raw = .ok intent ∧
        server.IntentKeeps keccak256 order observed_at intent) ↔
          order.info.deadline.val < 2 ^ 64) := by
  obtain ⟨order, signature', horder, hsupports, hcosigner, -, hswapper, rfl⟩ := cosign_ok h
  refine ⟨order, server.cosigned_order keccak256 order observed_at, horder,
    cosigned_forwards hdecode hcosigner hswapper rfl rfl, ?_⟩
  constructor
  · rintro ⟨intent, -, hkeeps⟩
    rw [← hkeeps.deadline]
    exact intent.deadline.isLt
  · intro hlt
    have hdeadline : uint64_word ⟨order.info.deadline.val, hlt⟩ = order.info.deadline := rfl
    refine ⟨_, UniswapXV2Normalizer.normalize_eq_ok.mpr ⟨_, observed_at,
      server.decay_end observed_at, ⟨order.info.deadline.val, hlt⟩, hdecode _, ?_, rfl, rfl,
      hdeadline, rfl⟩, intent_keeps hsupports hdeadline⟩
    exact List.length_replicate

end ServerCosigner

/-! ## Sample orders -/

/-- Account 9 signs with odd parity. -/
def sample_cosigner : PrivateKeySigner sample_ecrecover where
  address := 9
  sign_hash _ := { rs := List.replicate 64 0, length := rfl, parity := true }
  recovers _ := rfl

def sample_server : ServerCosigner sample_ecrecover :=
  { permit2 := 4, reactor := 7, chain_id := 1, cosigner := sample_cosigner, exclusive_filler := 0
    decay_window_secs := 60 }

/-- Account 3 sells 1000 for 50. -/
def sample_v2_order (deadline : U256) : V2DutchOrder :=
  { info := {
      reactor := 7, swapper := 3, nonce := 0, deadline, additionalValidationContract := 0
      additionalValidationData := ⟨[], by norm_num⟩ }
    cosigner := 9
    baseInput := { token := 5, startAmount := 1000, endAmount := 1000 }
    baseOutputs := ⟨[{ token := 6, startAmount := 50, endAmount := 50, recipient := 3 }], by norm_num⟩
    cosignerData := {
      decayStartTime := 0, decayEndTime := 0, exclusiveFiller := 0, exclusivityOverrideBps := 0
      inputAmount := 0, outputAmounts := ⟨[], by norm_num⟩ }
    cosignature := ⟨[], by norm_num⟩ }

/-- The order cosigned at time 10, under a wallet's recovery byte of zero. -/
def sample_cosign (deadline : U256) : Except CosignError Cosigned :=
  sample_server.cosign sample_keccak V2DutchOrder.read (sample_v2_order deadline).abi_encode
    (List.replicate 65 0) 10

theorem ServerCosigner.cosign_keeps_iff_sample :
    ∃ cosigned intent, sample_cosign 100 = .ok cosigned ∧
      UniswapXV2Normalizer.normalize sample_keccak V2DutchOrder.read cosigned.raw = .ok intent ∧
      intent.deadline = 100 := by
  have hcosigned : (sample_cosign 100).toOption.isSome := by decide +kernel
  obtain ⟨cosigned, hcosigned⟩ := Option.isSome_iff_exists.mp hcosigned
  have hcosign := Except.toOption_eq_some.mp hcosigned
  obtain ⟨order, forwarded, horder, -, hiff⟩ :=
    ServerCosigner.cosign_keeps_iff V2DutchOrder.read_abi_encode hcosign
  obtain rfl : sample_v2_order 100 = order :=
    Option.some.inj ((V2DutchOrder.read_abi_encode _).symm.trans horder)
  obtain ⟨intent, hnormalize, hkeeps⟩ := hiff.mpr (by decide)
  have hdeadline : (uint64_word intent.deadline).val = 100 := congrArg Fin.val hkeeps.deadline
  exact ⟨cosigned, intent, hcosign, hnormalize, Fin.ext hdeadline⟩

/-- A deadline of 2^64 outlasts every window. It is cosigned, and the normalizer
    cannot read it. -/
theorem wide_deadline_is_not_normalized :
    ¬∀ (encoded_order signature : Bytes) (observed_at : U64) (cosigned : Cosigned),
      sample_server.cosign sample_keccak V2DutchOrder.read encoded_order signature observed_at =
        .ok cosigned →
      ∃ intent,
        UniswapXV2Normalizer.normalize sample_keccak V2DutchOrder.read cosigned.raw = .ok intent := by
  intro h
  let deadline : U256 := ⟨2 ^ 64, by norm_num⟩
  have hcosigned : (sample_cosign deadline).toOption.isSome := by decide +kernel
  obtain ⟨cosigned, hcosigned⟩ := Option.isSome_iff_exists.mp hcosigned
  have hcosign := Except.toOption_eq_some.mp hcosigned
  obtain ⟨intent, hnormalize⟩ := h _ _ _ cosigned hcosign
  obtain ⟨order, signature', horder, -, -, -, -, rfl⟩ := ServerCosigner.cosign_ok hcosign
  obtain rfl : sample_v2_order deadline = order :=
    Option.some.inj ((V2DutchOrder.read_abi_encode _).symm.trans horder)
  obtain ⟨forwarded, -, -, read, hpayload, -, -, -, hread, -⟩ :=
    UniswapXV2Normalizer.normalize_eq_ok.mp hnormalize
  obtain rfl := Option.some.inj ((V2DutchOrder.read_abi_encode _).symm.trans hpayload)
  have hval : read.val = 2 ^ 64 := congrArg Fin.val hread
  have hlt := read.isLt
  omega

end Solvent
