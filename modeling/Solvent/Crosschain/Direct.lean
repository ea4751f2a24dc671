import Mathlib
import Solvent.Crosschain.Saga

/-! # Direct settlement

    On the direct route the destination's maker is repaid on the origin chain.
    The destination service authors both chains' calls from the terms the sponsor
    authorized, and signs for its maker a quote that names what is delivered and
    what is repaid. Call data, hashes and signatures are the encoder's.
-/

namespace Solvent

abbrev U48 : Type := Fin (2 ^ 48)

abbrev Bytes : Type := List UInt8

/-! ## Authorizations -/

structure DirectSettlementOrder where
  user : Address
  nonce : U256
  origin_chain_id : U64
  origin_settler : Address
  compact : Address
  compact_id : U256
  compact_expires : U64
  input_token : Address
  input_amount : U256
  destination_chain_id : U64
  output_token : Address
  minimum_output_amount : U256
  recipient : Address
  destination_settler : Address
  fill_proof_verifier : Address
  exclusive_filler : Address
  exclusivity_ends : U64
  fill_deadline : U64
  route_kind : UInt8
  deriving DecidableEq

structure DirectSettlementMandate where
  order_id : B256
  destination_chain_id : U64
  destination_settler : Address
  fill_proof_verifier : Address
  output_token : Address
  minimum_output_amount : U256
  recipient : Address
  fill_deadline : U64
  exclusive_filler : Address
  route_kind : UInt8
  deriving DecidableEq

structure CompactClaimAuthorization where
  sponsor_signature : Bytes
  sponsor : Address
  nonce : U256
  expires : U64
  witness : B256
  witness_typestring : String
  id : U256
  allocated_amount : U256
  claimant : Address
  claimant_amount : U256
  deriving DecidableEq

/-- Exact direct-route terms authorized by the sponsor. -/
structure DirectOrderAuthorization where
  quote : AggregateQuote
  order_id : CrossChainOrderId
  order : DirectSettlementOrder
  mandate : DirectSettlementMandate
  compact_claim : CompactClaimAuthorization

structure DirectExecutionPlans where
  origin : ChainExecutionPlan
  destination : ChainExecutionPlan
  deriving DecidableEq

/-! ## Contract structures -/

structure SolventCrossChainOrder where
  user : Address
  nonce : U256
  originChainId : U64
  originSettler : Address
  compact : Address
  compactId : U256
  compactExpires : U64
  inputToken : Address
  inputAmount : U256
  destinationChainId : U64
  outputToken : Address
  minimumOutputAmount : U256
  recipient : Address
  destinationSettler : Address
  fillProofVerifier : Address
  exclusiveFiller : Address
  exclusivityEnds : U48
  fillDeadline : U48
  routeKind : UInt8

structure SolventMandate where
  orderId : B256
  destinationChainId : U64
  destinationSettler : Address
  fillProofVerifier : Address
  outputToken : Address
  minimumOutputAmount : U256
  recipient : Address
  fillDeadline : U48
  exclusiveFiller : Address
  routeKind : UInt8

/-- What the maker signs. -/
structure DirectMakerQuote where
  orderId : B256
  maker : Address
  destinationStrategyHash : B256
  originStrategyHash : B256
  outputAmount : U256
  repaymentAmount : U256
  nonce : U256
  expires : U48
  deriving DecidableEq

structure VerifiedFill where
  orderId : B256
  routeKind : UInt8
  destinationChainId : U64
  destinationApp : Address
  recipient : Address
  outputToken : Address
  outputAmount : U256
  destinationMaker : Address
  destinationStrategyHash : B256
  originStrategyHash : B256
  repaymentToken : Address
  repaymentAmount : U256
  maxCctpFee : U256
  makerQuoteHash : B256
  fillId : B256

structure VerifiedRepayment where
  orderId : B256
  originChainId : U64
  originSettler : Address
  maker : Address
  repaymentToken : Address
  repaymentAmount : U256
  repaymentId : B256

/-- The encoder: contract calls, proof envelopes, the signing hash of a maker
    quote in its domain, and the maker's signature. -/
structure DirectEncoder where
  proof_id : ChainId → Address → B256 → UInt8 → B256
  signing_hash : ChainId → Address → DirectMakerQuote → B256
  sign65 : B256 → Bytes
  fill_envelope : VerifiedFill → Bytes
  repayment_envelope : VerifiedRepayment → Bytes
  settle_direct : SolventCrossChainOrder → SolventMandate → B256 → CompactClaimAuthorization → Bytes
  dispatch : B256 → Bytes → Bytes
  fill_direct : SolventCrossChainOrder → SolventMandate → DirectMakerQuote → Bytes → Bytes
  confirm_direct_repayment : B256 → B256 → Bytes

/-! ## The plan author -/

structure DirectPlanAuthorConfig where
  origin_chain : ChainId
  destination_chain : ChainId
  origin_settler : Address
  destination_app : Address
  origin_proof_outbox : Address
  destination_proof_outbox : Address
  origin_strategy_hash : StrategyHash

/-- The author and the address of the maker it signs for. -/
structure AlloyDirectPlanAuthor where
  config : DirectPlanAuthorConfig
  maker : Address
  encoder : DirectEncoder

namespace AlloyDirectPlanAuthor

def u48 (value : U64) (name : String) : Except String U48 :=
  if h : value.val < 2 ^ 48 then .ok ⟨value.val, h⟩
  else .error s!"{name} exceeds uint48"

def order (authorization : DirectOrderAuthorization) : Except String SolventCrossChainOrder := do
  let value := authorization.order
  let exclusivityEnds ← u48 value.exclusivity_ends "exclusivity end"
  let fillDeadline ← u48 value.fill_deadline "fill deadline"
  return {
    user := value.user
    nonce := value.nonce
    originChainId := value.origin_chain_id
    originSettler := value.origin_settler
    compact := value.compact
    compactId := value.compact_id
    compactExpires := value.compact_expires
    inputToken := value.input_token
    inputAmount := value.input_amount
    destinationChainId := value.destination_chain_id
    outputToken := value.output_token
    minimumOutputAmount := value.minimum_output_amount
    recipient := value.recipient
    destinationSettler := value.destination_settler
    fillProofVerifier := value.fill_proof_verifier
    exclusiveFiller := value.exclusive_filler
    exclusivityEnds
    fillDeadline
    routeKind := value.route_kind }

def mandate (authorization : DirectOrderAuthorization) : Except String SolventMandate := do
  let value := authorization.mandate
  let fillDeadline ← u48 value.fill_deadline "mandate fill deadline"
  return {
    orderId := value.order_id
    destinationChainId := value.destination_chain_id
    destinationSettler := value.destination_settler
    fillProofVerifier := value.fill_proof_verifier
    outputToken := value.output_token
    minimumOutputAmount := value.minimum_output_amount
    recipient := value.recipient
    fillDeadline
    exclusiveFiller := value.exclusive_filler
    routeKind := value.route_kind }

/-- The quote the maker signs for a single destination source. -/
def maker_quote (author : AlloyDirectPlanAuthor) (authorization : DirectOrderAuthorization)
    (source : ReservationSource) (expires : U48) : DirectMakerQuote :=
  { orderId := authorization.order_id.hash
    maker := author.maker
    destinationStrategyHash := source.strategy_hash.hash
    originStrategyHash := author.config.origin_strategy_hash.hash
    outputAmount := authorization.quote.amount_out
    repaymentAmount := authorization.quote.amount_in
    nonce := authorization.order.nonce
    expires }

def verified_fill (author : AlloyDirectPlanAuthor) (authorization : DirectOrderAuthorization)
    (source : ReservationSource) (maker_quote_hash fill_id : B256) : VerifiedFill :=
  { orderId := authorization.order_id.hash
    routeKind := 1
    destinationChainId := author.config.destination_chain.id
    destinationApp := author.config.destination_app
    recipient := authorization.order.recipient
    outputToken := authorization.quote.destination.output_token
    outputAmount := authorization.quote.amount_out
    destinationMaker := author.maker
    destinationStrategyHash := source.strategy_hash.hash
    originStrategyHash := author.config.origin_strategy_hash.hash
    repaymentToken := authorization.quote.origin.input_token
    repaymentAmount := authorization.quote.amount_in
    maxCctpFee := 0
    makerQuoteHash := maker_quote_hash
    fillId := fill_id }

def verified_repayment (author : AlloyDirectPlanAuthor)
    (authorization : DirectOrderAuthorization) (repayment_id : B256) : VerifiedRepayment :=
  { orderId := authorization.order_id.hash
    originChainId := author.config.origin_chain.id
    originSettler := author.config.origin_settler
    maker := author.maker
    repaymentToken := authorization.quote.origin.input_token
    repaymentAmount := authorization.quote.amount_in
    repaymentId := repayment_id }

/-- The maker quote that `author_plans` signs, and the plans around it. -/
structure Authored where
  maker_quote : DirectMakerQuote
  plans : DirectExecutionPlans

/-- The calls of both chains, past the checks. -/
def plans (author : AlloyDirectPlanAuthor) (authorization : DirectOrderAuthorization)
    (source : ReservationSource) (order : SolventCrossChainOrder) (mandate : SolventMandate)
    (quote : DirectMakerQuote) : DirectExecutionPlans :=
  let config := author.config
  let encoder := author.encoder
  let order_id := authorization.order_id.hash
  let hash := encoder.signing_hash config.destination_chain config.destination_app quote
  let fill_id := encoder.proof_id config.destination_chain config.destination_app order_id 0
  let repayment_id := encoder.proof_id config.origin_chain config.origin_settler order_id 1
  { origin :=
      { aggregate_id := authorization.quote.id
        chain_id := config.origin_chain
        steps := [
          { command := .ClaimOrigin, target := config.origin_settler, value := 0
            calldata := encoder.settle_direct order mandate fill_id authorization.compact_claim },
          { command := .DispatchRepayment, target := config.origin_proof_outbox, value := 0
            calldata := encoder.dispatch order_id
              (encoder.repayment_envelope (author.verified_repayment authorization repayment_id)) }] }
    destination :=
      { aggregate_id := authorization.quote.id
        chain_id := config.destination_chain
        steps := [
          { command := .Deliver, target := config.destination_app, value := 0
            calldata := encoder.fill_direct order mandate quote (encoder.sign65 hash) },
          { command := .DispatchFillProof, target := config.destination_proof_outbox, value := 0
            calldata := encoder.dispatch order_id
              (encoder.fill_envelope (author.verified_fill authorization source hash fill_id)) },
          { command := .CloseDestination, target := config.destination_app, value := 0
            calldata := encoder.confirm_direct_repayment order_id repayment_id }] } }

def author_plans (author : AlloyDirectPlanAuthor) (authorization : DirectOrderAuthorization) :
    Except String Authored :=
  let quote := authorization.quote
  if quote.origin.local_chain ≠ author.config.origin_chain ∨
      quote.destination.local_chain ≠ author.config.destination_chain ∨
      authorization.order.origin_settler ≠ author.config.origin_settler ∨
      authorization.order.destination_settler ≠ author.config.destination_app then
    .error "authorization does not belong to this direct plan author"
  else match quote.destination.sources with
    | [source] =>
      if source.maker.address ≠ author.maker then
        .error "quoted destination maker does not match the configured signer"
      else do
        let order ← order authorization
        let mandate ← mandate authorization
        let expires ← u48 quote.expires_at_unix "maker quote expiry"
        let maker_quote := author.maker_quote authorization source expires
        return { maker_quote, plans := author.plans authorization source order mandate maker_quote }
    | _ => .error "direct settlement requires exactly one destination source"

end AlloyDirectPlanAuthor

end Solvent
