import Solvent.Ingest.Aqua

/-! # Admitted orders on chain

    What the contracts make of an order the normalizer let through. The payload
    and the signature go to them as they came in. The settler re-checks what the
    normalizer checked; what the normalizer is more liberal about is how an
    address is padded, how a recovery byte is spelled, and who may receive.
-/

namespace Solvent

open Abi Contract
open Contracts (Solvent7683Order SameChainConfig Permit2 Signs as_address word_address uint64_word y_parity
  signs_iff)
open Contracts.SolventSameChainSettler (validate validate_eq_ok settle_checks settle_checks_eq_ok
  settle_transfer orderId)

/-! ## Addresses with dirty bits -/

/-- Where the words of a `Solvent7683Order`'s addresses stand. -/
def address_fields : List ℕ := [0, 1, 3, 5, 7]

/-- No address of a payload has a bit above its 160. -/
def CleanAddresses (payload : Bytes) : Prop :=
  ∀ i ∈ address_fields, ∀ w, read_word (payload.drop (32 * i)) = some w → w.val < 2 ^ 160

theorem as_address_eq_word_address {w : U256} :
    as_address w = some (word_address w) ↔ w.val < 2 ^ 160 := by
  constructor
  · intro h
    have hw := (narrow_eq_some (Nat.pow_le_pow_right (by norm_num) (by norm_num))).mp h
    rw [← hw, widen_val]
    exact (word_address w).isLt
  · intro hlt
    unfold as_address narrow
    rw [dif_pos hlt]
    exact congrArg some (Fin.ext (Nat.mod_eq_of_lt hlt).symm)

/-- **The refusing decoder** reads what the masking one reads exactly where no
    address is dirty. -/
theorem decode_iff_clean {payload : Bytes} {order : Solvent7683Order}
    (h : decode_masked payload = some order) :
    decode payload = some order ↔ CleanAddresses payload := by
  obtain ⟨ws, hws, hmasked⟩ := Option.bind_eq_some_iff.mp h
  have hword : ∀ i < 11, read_word (payload.drop (32 * i)) = ws[i]? :=
    fun i hi => read_words_getElem? hws hi
  have hdecode : decode payload = (Static.of_words ws : Option Solvent7683Order) := by
    rw [decode, hws]
    rfl
  rw [hdecode]
  have hfields : CleanAddresses payload ↔ ∀ i ∈ address_fields, ∀ w, ws[i]? = some w →
      w.val < 2 ^ 160 := by
    have hlt : ∀ i ∈ address_fields, i < 11 := by decide
    constructor
    · intro hclean i hi w hw
      exact hclean i hi w ((hword i (hlt i hi)).trans hw)
    · intro hclean i hi w hw
      exact hclean i hi w ((hword i (hlt i hi)).symm.trans hw)
  rw [hfields]
  show Static.of_words ws = some order ↔ _
  change Masked.of_masked ws = some order at hmasked
  simp only [Masked.of_masked] at hmasked
  split at hmasked
  · obtain rfl := Option.some.inj hmasked
    simp only [address_fields, List.forall_mem_cons, List.not_mem_nil, false_imp_iff,
      implies_true, and_true, List.getElem?_cons_zero, List.getElem?_cons_succ,
      Option.some.injEq, forall_eq']
    constructor
    · intro hof
      obtain ⟨settler, hsettler, hof⟩ := Option.bind_eq_some_iff.mp hof
      obtain ⟨user, huser, hof⟩ := Option.bind_eq_some_iff.mp hof
      obtain ⟨inputToken, hinput, hof⟩ := Option.bind_eq_some_iff.mp hof
      obtain ⟨outputToken, houtput, hof⟩ := Option.bind_eq_some_iff.mp hof
      obtain ⟨recipient, hrecipient, hof⟩ := Option.bind_eq_some_iff.mp hof
      simp only [Option.some.injEq, Solvent7683Order.mk.injEq] at hof
      obtain ⟨rfl, rfl, -, rfl, -, rfl, -, rfl, -⟩ := hof
      exact ⟨as_address_eq_word_address.mp hsettler, as_address_eq_word_address.mp huser,
        as_address_eq_word_address.mp hinput, as_address_eq_word_address.mp houtput,
        as_address_eq_word_address.mp hrecipient⟩
    · rintro ⟨hsettler, huser, hinput, houtput, hrecipient⟩
      simp only [Static.of_words, as_address_eq_word_address.mpr hsettler,
        as_address_eq_word_address.mpr huser, as_address_eq_word_address.mpr hinput,
        as_address_eq_word_address.mpr houtput, as_address_eq_word_address.mpr hrecipient,
        Option.bind_eq_bind, Option.bind_some]
  · cases hmasked

/-! ## What the contracts need -/

section Admission

variable {keccak256 : Bytes → B256} {ecrecover : B256 → Bool → Bytes → Option Address}

/-- The contracts take an order: they decode it alike and name it alike, the
    settler's checks pass for the filler, and Permit2 takes its signature. -/
structure Acceptable (permit2 : Permit2 keccak256 ecrecover) (cfg : SameChainConfig)
    (filler : Address) (timestamp : U256) (order : Solvent7683Order) (intent : SignedIntent) :
    Prop where
  decodes : decode intent.raw = some order
  id : intent.id = ⟨orderId keccak256 order⟩
  validates : validate keccak256 cfg timestamp order = .ok (orderId keccak256 order)
  settles : ∀ balanceOf : Address → U256, balanceOf filler = 1 →
    settle_checks keccak256 cfg balanceOf timestamp filler order = .ok (orderId keccak256 order)
  signed : permit2.verifies intent.signature
    (permit2.digest (settle_transfer keccak256 cfg order)) order.user = true

/-- A normalizer configured for the deployed contracts. -/
structure Erc7683Normalizer.Deployed (n : Erc7683Normalizer) (cfg : SameChainConfig)
    (permit2 : Permit2 keccak256 ecrecover) : Prop where
  settler : n.settler = cfg.this
  chain : uint64_word n.chain = cfg.chainid
  address : n.permit2 = permit2.this
  chainid : permit2.chainid = cfg.chainid

/-- `Signature::from_raw` and the recovery from a prehash: 65 bytes, the last one
    read as a parity. -/
structure RecoversRaw (ecrecover : B256 → Bool → Bytes → Option Address)
    (recover : Bytes → B256 → Option Address) : Prop where
  length : ∀ signature hash user, recover signature hash = some user → signature.length = 65
  recovers : ∀ signature hash v parity, signature.length = 65 → signature.getLast? = some v →
    y_parity v = some parity → recover signature hash = ecrecover hash parity (signature.take 64)

theorem permit_type_eq :
    PERMIT_TYPE = Contracts.WITNESS_TYPEHASH_STUB ++
      Contracts.SolventSameChainSettler.WITNESS_TYPE_STRING := by
  decide +kernel

/-- **The digest** the normalizer recovers from is the one Permit2 checks. -/
theorem permit_digest_eq {n : Erc7683Normalizer} {cfg : SameChainConfig}
    {permit2 : Permit2 keccak256 ecrecover} (hdeployed : n.Deployed cfg permit2)
    {order : Solvent7683Order} (hsettler : order.settler = n.settler) :
    permit_digest keccak256 order n.permit2 n.chain =
      permit2.digest (settle_transfer keccak256 cfg order) := by
  unfold settle_transfer
  rw [permit2.digest_eq, permit_digest, permit_domain, token_permissions_hash, order_id_eq,
    permit_type_eq, hsettler, hdeployed.settler, hdeployed.chain, hdeployed.address,
    hdeployed.chainid]

/-- The fee of the policy is never zero. -/
theorem ExecutionFeePolicy.fee_pos {policy : ExecutionFeePolicy} {gross_input fee : U256}
    (h : policy.fee gross_input = some fee) : fee ≠ 0 := by
  unfold ExecutionFeePolicy.fee at h
  simp only [Option.bind_eq_bind, Option.bind_eq_some_iff] at h
  obtain ⟨base, -, scaled, -, raised, -, sum, -, h⟩ := h
  obtain rfl := Option.some.inj h
  exact (lt_of_lt_of_le (by decide) (le_max_right sum 1)).ne'

/-- A recovery byte the normalizer lets through has a parity. -/
theorem parity_of_admitted {signature : Bytes}
    (h : signature.getLast? ∈ [some 0, some 1, some 27, some 28]) :
    ∃ v parity, signature.getLast? = some v ∧ y_parity v = some parity := by
  simp only [List.mem_cons, List.not_mem_nil, or_false] at h
  rcases h with h | h | h | h
  · exact ⟨0, false, h, rfl⟩
  · exact ⟨1, true, h, rfl⟩
  · exact ⟨27, false, h, rfl⟩
  · exact ⟨28, true, h, rfl⟩

/-- The builder forwards the payload and the signature as they are. -/
theorem build_forwards {ε : Type} {b : Erc7683FillBuilder} {program : MakerStrategy → Bytes}
    {authorize : Contracts.Authorization → Except ε Bytes} {intent : SignedIntent} {plan : RoutePlan}
    {snapshot : Snapshot} {prepared : PreparedFill}
    (h : b.build keccak256 program authorize intent plan snapshot = .ok prepared) :
    prepared.call.orderData = intent.raw ∧ prepared.call.permitSignature = intent.signature := by
  unfold Erc7683FillBuilder.build at h
  obtain ⟨-, h⟩ := require_bind.mp h
  obtain ⟨order, -, h⟩ := expect_bind.mp h
  obtain ⟨-, h⟩ := require_bind.mp h
  obtain ⟨sources, -, h⟩ := Except.bind_eq_ok.mp h
  cases h
  exact ⟨rfl, rfl⟩

/-- **Admitted orders.** Their payload and signature are forwarded unchanged, and
    the contracts take exactly those with clean addresses, a recipient that is not
    the filler, and a recovery byte Permit2 spells alike. -/
theorem admitted_acceptable_iff {n : Erc7683Normalizer} {cfg : SameChainConfig}
    {permit2 : Permit2 keccak256 ecrecover} {recover : Bytes → B256 → Option Address}
    (hdeployed : n.Deployed cfg permit2) (hrecover : RecoversRaw ecrecover recover)
    {raw : RawOrder} {intent : SignedIntent}
    (h : n.normalize_order keccak256 recover raw = .ok intent) (filler : Address) :
    (∀ {ε : Type} (b : Erc7683FillBuilder) (program : MakerStrategy → Bytes)
      (authorize : Contracts.Authorization → Except ε Bytes) (plan : RoutePlan) (snapshot : Snapshot)
      (prepared : PreparedFill),
      b.build keccak256 program authorize intent plan snapshot = .ok prepared →
      prepared.call.orderData = raw.payload ∧ prepared.call.permitSignature = raw.signature) ∧
    ∃ order, decode_masked raw.payload = some order ∧
      ((∀ timestamp ≤ order.deadline, Acceptable permit2 cfg filler timestamp order intent) ↔
        CleanAddresses raw.payload ∧ order.recipient ≠ filler ∧
          (raw.signature.getLast? = some 27 ∨ raw.signature.getLast? = some 28)) := by
  obtain ⟨order, routing_input, deadline, hadmits, -, -, rfl⟩ :=
    Erc7683Normalizer.normalize_order_ok h
  have hlength := hrecover.length _ _ _ hadmits.user
  obtain ⟨v, parity, hlast, hparity⟩ := parity_of_admitted hadmits.signature
  have hsigned := (hrecover.recovers _ _ v parity hlength hlast hparity).symm.trans hadmits.user
  rw [permit_digest_eq hdeployed hadmits.settler] at hsigned
  have hverifies : permit2.verifies raw.signature
      (permit2.digest (settle_transfer keccak256 cfg order)) order.user = true ↔ v = 27 ∨ v = 28 :=
    (permit2.verifies_iff _ _ _).trans (signs_iff hlength hlast hparity hsigned)
  have hlast_iff : (raw.signature.getLast? = some 27 ∨ raw.signature.getLast? = some 28) ↔
      v = 27 ∨ v = 28 := by
    rw [hlast, Option.some.injEq, Option.some.injEq]
  rw [hlast_iff, ← decode_iff_clean hadmits.payload]
  have hvalid : ∀ timestamp ≤ order.deadline,
      Contracts.SolventSameChainSettler.Valid cfg timestamp order := by
    intro timestamp hle
    exact ⟨hadmits.settler.trans hdeployed.settler, hadmits.chainId.trans hdeployed.chain,
      hadmits.addresses, hadmits.pair, hadmits.amounts,
      ⟨ExecutionFeePolicy.fee_pos hadmits.fee, hadmits.fee_lt⟩, hle⟩
  refine ⟨fun _ _ _ _ _ _ hbuild => build_forwards hbuild, order, hadmits.payload, ?_, ?_⟩
  · intro hacceptable
    have hat := hacceptable order.deadline le_rfl
    obtain ⟨-, -, hrecipient, -⟩ := settle_checks_eq_ok.mp (hat.settles (fun _ => 1) rfl)
    exact ⟨hat.decodes, hrecipient, hverifies.mp hat.signed⟩
  · rintro ⟨hdecode, hrecipient, hv⟩ timestamp hle
    exact {
      decodes := hdecode
      id := rfl
      validates := validate_eq_ok.mpr ⟨hvalid timestamp hle, rfl⟩
      settles := fun _ hheld =>
        settle_checks_eq_ok.mpr ⟨hvalid timestamp hle, hheld, hrecipient, rfl⟩
      signed := hverifies.mpr hv }

end Admission

/-! ## Sample signatures -/

/-- `from_raw` and the recovery, as documented. -/
def recover_raw (ecrecover : B256 → Bool → Bytes → Option Address) (signature : Bytes)
    (hash : B256) : Option Address :=
  if signature.length = 65 then
    (signature.getLast?.bind y_parity).bind fun parity =>
      ecrecover hash parity (signature.take 64)
  else none

theorem recovers_raw (ecrecover : B256 → Bool → Bytes → Option Address) :
    RecoversRaw ecrecover (recover_raw ecrecover) where
  length signature hash user h := by
    unfold recover_raw at h
    split at h
    · assumption
    · cases h
  recovers signature hash v parity hlength hlast hparity := by
    unfold recover_raw
    rw [if_pos hlength, hlast]
    show (y_parity v).bind _ = _
    rw [hparity]
    rfl

/-- The even signatures are those of account 3. -/
def sample_ecrecover (_ : B256) (parity : Bool) (_ : Bytes) : Option Address :=
  if parity then some 9 else some 3

def sample_permit2 : Permit2 sample_keccak sample_ecrecover where
  this := 4
  chainid := 1
  digest := _
  verifies signature hash claimedSigner :=
    decide (Signs sample_ecrecover signature hash claimedSigner)
  digest_eq _ := rfl
  verifies_iff _ _ _ := decide_eq_true_iff

def sample_settler : SameChainConfig := { this := 7, chainid := 1 }

theorem sample_deployed : sample_normalizer.Deployed sample_settler sample_permit2 where
  settler := rfl
  chain := rfl
  address := rfl
  chainid := rfl

/-- The sample order under a signature that ends in `v`. -/
def signed_raw (v : UInt8) : RawOrder :=
  { protocol := .Erc7683, chain := 1, payload := encode sample_7683_order
    signature := List.replicate 64 0 ++ [v], observed_at := 10 }

theorem admitted_acceptable_iff_sample :
    ∃ intent, sample_normalizer.normalize_order sample_keccak (recover_raw sample_ecrecover)
        (signed_raw 27) = .ok intent ∧
      ∀ timestamp ≤ (100 : U256), Acceptable sample_permit2 sample_settler 11 timestamp
        sample_7683_order intent := by
  have hadmitted : (sample_normalizer.normalize_order sample_keccak (recover_raw sample_ecrecover)
      (signed_raw 27)).toOption.isSome := by decide +kernel
  obtain ⟨intent, hintent⟩ := Option.isSome_iff_exists.mp hadmitted
  have hnormalize := Except.toOption_eq_some.mp hintent
  obtain ⟨-, order, horder, hiff⟩ := admitted_acceptable_iff sample_deployed
    (recovers_raw sample_ecrecover) hnormalize 11
  have hencoded : decode (signed_raw 27).payload = some sample_7683_order := decode_encode _
  obtain rfl : sample_7683_order = order :=
    Option.some.inj ((decode_masked_of_decode hencoded).symm.trans horder)
  exact ⟨intent, hnormalize, hiff.mpr
    ⟨(decode_iff_clean horder).mp hencoded, by decide, .inl (by decide)⟩⟩

/-- A recovery byte of 0 is admitted and forwarded, and refused by Permit2. -/
theorem zero_recovery_byte_is_refused :
    ¬∀ (raw : RawOrder) (intent : SignedIntent) (order : Solvent7683Order) (timestamp : U256),
      sample_normalizer.normalize_order sample_keccak (recover_raw sample_ecrecover) raw =
        .ok intent →
      decode_masked raw.payload = some order → timestamp ≤ order.deadline →
      Acceptable sample_permit2 sample_settler 11 timestamp order intent := by
  intro h
  have hadmitted : (sample_normalizer.normalize_order sample_keccak (recover_raw sample_ecrecover)
      (signed_raw 0)).toOption.isSome := by decide +kernel
  obtain ⟨intent, hintent⟩ := Option.isSome_iff_exists.mp hadmitted
  have hnormalize := Except.toOption_eq_some.mp hintent
  have hacceptable := h (signed_raw 0) intent sample_7683_order 0 hnormalize
    (decode_masked_of_decode (decode_encode _)) (by decide)
  obtain ⟨order, routing_input, deadline, -, -, -, rfl⟩ :=
    Erc7683Normalizer.normalize_order_ok hnormalize
  have hsigned := (sample_permit2.verifies_iff _ _ _).mp hacceptable.signed
  have hlength : (signed_raw 0).signature.length = 65 := by decide
  have hlast : (signed_raw 0).signature.getLast? = some 0 := by decide
  have hparity : y_parity 0 = some false := rfl
  have hzero : (0 : UInt8) = 27 ∨ (0 : UInt8) = 28 :=
    (signs_iff hlength hlast hparity rfl).mp hsigned
  exact absurd hzero (by decide)

end Solvent
