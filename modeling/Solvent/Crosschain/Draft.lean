import Mathlib
import Solvent.Crosschain.Calls
import Solvent.Crosschain.Direct

/-! # Drafting and authorizing direct orders

    `DirectOrderDraftBuilder` turns a quote and a sponsor's choices into the order
    to sign and the Compact commitment that embeds its mandate, and, once the
    sponsor has signed that commitment, into the authorization the plan author
    works from. What recovers a signer from a signature is a parameter.
-/

namespace Solvent

open Abi Contract
open Validation (u64_word)

def DIRECT_ROUTE_KIND : UInt8 := 1

def MAX_U48 : ℕ := 2 ^ 48 - 1

def MIN_FILL_WINDOW_SECS : U64 := 120

def MANDATE_WITNESS_TYPESTRING : String :=
  "bytes32 orderId,uint256 destinationChainId,address destinationSettler,address fillProofVerifier,address outputToken,uint256 minimumOutputAmount,address recipient,uint48 fillDeadline,address exclusiveFiller,uint8 routeKind"

/-- `U48::from(value)`, which panics past its range. -/
def u48_from (value : U64) : U48 := Fin.ofNat _ value.val

/-! ## Drafts -/

structure DirectOrderDraftConfig where
  origin_chain : ChainId
  destination_chain : ChainId
  origin_settler : Address
  compact : Address
  destination_settler : Address
  fill_proof_verifier : Address
  exclusive_filler : Address
  compact_lock_tag : Fin (2 ^ 96)

structure DirectOrderDraftRequest where
  quote : AggregateQuote
  sponsor : Address
  recipient : Address
  order_nonce : U256
  compact_nonce : U256
  compact_expires_unix : U64

abbrev SolventCompactOrder : Type := DirectSettlementOrder

abbrev SolventCompactMandate : Type := DirectSettlementMandate

structure CompactCommitmentTerms where
  arbiter : Address
  sponsor : Address
  nonce : U256
  expires : U64
  lock_tag : Fin (2 ^ 96)
  token : Address
  amount : U256
  mandate : SolventCompactMandate

structure DirectOrderDraft where
  aggregate_id : AggregateQuoteId
  order_id : CrossChainOrderId
  compact : Address
  order : SolventCompactOrder
  commitment : CompactCommitmentTerms

/-- Twelve bytes of the tag, then the twenty of the token. -/
def compact_id (lock_tag : Fin (2 ^ 96)) (token : Address) : U256 :=
  ⟨lock_tag.val * 2 ^ 160 + token.val, by omega⟩

/-- The order of a draft as it is hashed. -/
def SolventCompactOrder.contract (o : SolventCompactOrder) : Validation.SolventCrossChainOrder :=
  { user := o.user
    nonce := o.nonce
    originChainId := u64_word o.origin_chain_id
    originSettler := o.origin_settler
    compact := o.compact
    compactId := o.compact_id
    compactExpires := u64_word o.compact_expires
    inputToken := o.input_token
    inputAmount := o.input_amount
    destinationChainId := u64_word o.destination_chain_id
    outputToken := o.output_token
    minimumOutputAmount := o.minimum_output_amount
    recipient := o.recipient
    destinationSettler := o.destination_settler
    fillProofVerifier := o.fill_proof_verifier
    exclusiveFiller := o.exclusive_filler
    exclusivityEnds := u48_from o.exclusivity_ends
    fillDeadline := u48_from o.fill_deadline
    routeKind := o.route_kind.toFin }

/-- The mandate of a draft as it is hashed. -/
def SolventCompactMandate.contract (m : SolventCompactMandate) : Validation.SolventMandate :=
  { orderId := m.order_id
    destinationChainId := u64_word m.destination_chain_id
    destinationSettler := m.destination_settler
    fillProofVerifier := m.fill_proof_verifier
    outputToken := m.output_token
    minimumOutputAmount := m.minimum_output_amount
    recipient := m.recipient
    fillDeadline := u48_from m.fill_deadline
    exclusiveFiller := m.exclusive_filler
    routeKind := m.route_kind.toFin }

structure DirectOrderDraftBuilder where
  config : DirectOrderDraftConfig

namespace DirectOrderDraftBuilder

def new (config : DirectOrderDraftConfig) : Except SolventError DirectOrderDraftBuilder := do
  require (config.origin_chain ≠ config.destination_chain ∧ config.origin_settler ≠ 0 ∧
      config.compact ≠ 0 ∧ config.destination_settler ≠ 0 ∧ config.fill_proof_verifier ≠ 0 ∧
      config.exclusive_filler ≠ 0)
    (.InvalidCrossChain "direct order draft configuration is incomplete")
  .ok { config }

/-- The order of a request. -/
def order (builder : DirectOrderDraftBuilder) (request : DirectOrderDraftRequest) :
    SolventCompactOrder :=
  { user := request.sponsor
    nonce := request.order_nonce
    origin_chain_id := builder.config.origin_chain.id
    origin_settler := builder.config.origin_settler
    compact := builder.config.compact
    compact_id := compact_id builder.config.compact_lock_tag request.quote.origin.input_token
    compact_expires := request.compact_expires_unix
    input_token := request.quote.origin.input_token
    input_amount := request.quote.amount_in
    destination_chain_id := builder.config.destination_chain.id
    output_token := request.quote.destination.output_token
    minimum_output_amount := request.quote.amount_out
    recipient := request.recipient
    destination_settler := builder.config.destination_settler
    fill_proof_verifier := builder.config.fill_proof_verifier
    exclusive_filler := builder.config.exclusive_filler
    exclusivity_ends := request.quote.expires_at_unix
    fill_deadline := request.quote.expires_at_unix
    route_kind := DIRECT_ROUTE_KIND }

/-- The mandate of a request, for an order with this id. -/
def mandate (builder : DirectOrderDraftBuilder) (request : DirectOrderDraftRequest)
    (order_id : CrossChainOrderId) : SolventCompactMandate :=
  { order_id := order_id.hash
    destination_chain_id := builder.config.destination_chain.id
    destination_settler := builder.config.destination_settler
    fill_proof_verifier := builder.config.fill_proof_verifier
    output_token := request.quote.destination.output_token
    minimum_output_amount := request.quote.amount_out
    recipient := request.recipient
    fill_deadline := request.quote.expires_at_unix
    exclusive_filler := builder.config.exclusive_filler
    route_kind := DIRECT_ROUTE_KIND }

variable (keccak256 : Bytes → B256)

def draft (builder : DirectOrderDraftBuilder) (request : DirectOrderDraftRequest)
    (now_unix : U64) : Except SolventError DirectOrderDraft := do
  validate_aggregate_binding keccak256 request.quote now_unix
  require (request.quote.origin.route = .Direct ∧
      request.quote.origin.local_chain = builder.config.origin_chain ∧
      request.quote.destination.local_chain = builder.config.destination_chain)
    (.InvalidCrossChain "quote does not belong to the configured direct route")
  require (request.sponsor ≠ 0 ∧ request.recipient ≠ 0)
    (.InvalidCrossChain "sponsor and recipient must be non-zero")
  require (request.quote.destination.sources.length = 1)
    (.InvalidCrossChain "direct settlement requires exactly one destination maker source")
  let fill_deadline := request.quote.expires_at_unix
  require (now_unix.saturating_add MIN_FILL_WINDOW_SECS ≤ fill_deadline)
    (.InvalidCrossChain "quote expires too soon; request a fresh price")
  require (fill_deadline.val ≤ MAX_U48 ∧ fill_deadline < request.compact_expires_unix)
    (.InvalidCrossChain "Compact expiry must be later than the quoted fill deadline")
  let order := builder.order request
  let order_id : CrossChainOrderId := ⟨order.contract.eip712_hash_struct keccak256⟩
  .ok {
    aggregate_id := request.quote.id
    order_id
    compact := builder.config.compact
    order
    commitment :=
      { arbiter := builder.config.origin_settler
        sponsor := request.sponsor
        nonce := request.compact_nonce
        expires := request.compact_expires_unix
        lock_tag := builder.config.compact_lock_tag
        token := request.quote.origin.input_token
        amount := request.quote.amount_in
        mandate := builder.mandate request order_id } }

/-! ## Authorizations -/

/-- How a signature is read and its signer recovered from a digest. -/
structure SignatureRecovery where
  Signature : Type
  from_raw : Bytes → Option Signature
  recover_address_from_prehash : Signature → B256 → Option Address

def mandate_type : Bytes :=
  "Mandate(bytes32 orderId,uint256 destinationChainId,address destinationSettler,address fillProofVerifier,address outputToken,uint256 minimumOutputAmount,address recipient,uint48 fillDeadline,address exclusiveFiller,uint8 routeKind)".toUTF8.data.toList

def mandate_hash (mandate : Validation.SolventMandate) : B256 :=
  keccak256 (words (keccak256 mandate_type :: mandate.to_words))

/-- What the sponsor signs: the commitment in the domain of The Compact. -/
def compact_digest (builder : DirectOrderDraftBuilder) (commitment : CompactCommitmentTerms) :
    B256 :=
  Validation.typed_data_hash keccak256
    (Validation.domain_separator keccak256 "The Compact".toUTF8.data.toList "1".toUTF8.data.toList
      builder.config.origin_chain.id builder.config.compact)
    (keccak256 (words [
      keccak256 ("Compact(address arbiter,address sponsor,uint256 nonce,uint256 expires,bytes12 lockTag,address token,uint256 amount,Mandate mandate)".toUTF8.data.toList ++
        mandate_type),
      Contracts.address_word commitment.arbiter,
      Contracts.address_word commitment.sponsor,
      commitment.nonce,
      u64_word commitment.expires,
      Fin.ofNat _ (commitment.lock_tag.val * 2 ^ 160),
      Contracts.address_word commitment.token,
      commitment.amount,
      mandate_hash keccak256 commitment.mandate.contract]))

def authorize (recovery : SignatureRecovery) (builder : DirectOrderDraftBuilder)
    (request : DirectOrderDraftRequest) (sponsor_signature : Bytes) (now_unix : U64) :
    Except SolventError DirectOrderAuthorization := do
  let draft ← builder.draft keccak256 request now_unix
  let digest := compact_digest keccak256 builder draft.commitment
  let signature ← expect (recovery.from_raw sponsor_signature)
    (.InvalidCrossChain "Compact sponsor signature is malformed")
  let recovered ← expect (recovery.recover_address_from_prehash signature digest)
    (.InvalidCrossChain "Compact sponsor signature is invalid")
  require (recovered = request.sponsor)
    (.InvalidCrossChain "Compact sponsor signature belongs to another account")
  .ok {
    quote := request.quote
    order_id := draft.order_id
    order := draft.order
    mandate := draft.commitment.mandate
    compact_claim :=
      { sponsor_signature
        sponsor := draft.commitment.sponsor
        nonce := draft.commitment.nonce
        expires := draft.commitment.expires
        witness := mandate_hash keccak256 draft.commitment.mandate.contract
        witness_typestring := MANDATE_WITNESS_TYPESTRING
        id := draft.order.compact_id
        allocated_amount := draft.commitment.amount
        claimant := draft.commitment.arbiter
        claimant_amount := draft.commitment.amount } }

end DirectOrderDraftBuilder

end Solvent
