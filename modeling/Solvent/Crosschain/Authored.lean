import Mathlib
import Solvent.Crosschain.Draft
import Solvent.Crosschain.Staged

/-! # Authored plans are accepted

    What the draft builder authorizes, the plan author turns into calls that the
    validators of both chains accept and whose order, mandate, quote and claim
    pass the contracts. The three layers rebuild the order from one request; the
    lemmas here say that each rebuilds the same one.
-/

namespace Solvent

open Abi Contract
open Validation (u64_word)

/-! ## Encoding -/

/-- `U256::from` on the fields of an order. -/
def SolventCrossChainOrder.contract (o : SolventCrossChainOrder) :
    Validation.SolventCrossChainOrder :=
  { user := o.user
    nonce := o.nonce
    originChainId := u64_word o.originChainId
    originSettler := o.originSettler
    compact := o.compact
    compactId := o.compactId
    compactExpires := u64_word o.compactExpires
    inputToken := o.inputToken
    inputAmount := o.inputAmount
    destinationChainId := u64_word o.destinationChainId
    outputToken := o.outputToken
    minimumOutputAmount := o.minimumOutputAmount
    recipient := o.recipient
    destinationSettler := o.destinationSettler
    fillProofVerifier := o.fillProofVerifier
    exclusiveFiller := o.exclusiveFiller
    exclusivityEnds := o.exclusivityEnds
    fillDeadline := o.fillDeadline
    routeKind := o.routeKind.toFin }

def SolventMandate.contract (m : SolventMandate) : Validation.SolventMandate :=
  { orderId := m.orderId
    destinationChainId := u64_word m.destinationChainId
    destinationSettler := m.destinationSettler
    fillProofVerifier := m.fillProofVerifier
    outputToken := m.outputToken
    minimumOutputAmount := m.minimumOutputAmount
    recipient := m.recipient
    fillDeadline := m.fillDeadline
    exclusiveFiller := m.exclusiveFiller
    routeKind := m.routeKind.toFin }

def DirectMakerQuote.contract (q : DirectMakerQuote) : Validation.DirectMakerQuote :=
  { orderId := q.orderId
    maker := q.maker
    destinationStrategyHash := q.destinationStrategyHash
    originStrategyHash := q.originStrategyHash
    outputAmount := q.outputAmount
    repaymentAmount := q.repaymentAmount
    nonce := q.nonce
    expires := q.expires }

def VerifiedFill.contract (f : VerifiedFill) : Validation.VerifiedFill :=
  { orderId := f.orderId
    routeKind := f.routeKind.toFin
    destinationChainId := u64_word f.destinationChainId
    destinationApp := f.destinationApp
    recipient := f.recipient
    outputToken := f.outputToken
    outputAmount := f.outputAmount
    destinationMaker := f.destinationMaker
    destinationStrategyHash := f.destinationStrategyHash
    originStrategyHash := f.originStrategyHash
    repaymentToken := f.repaymentToken
    repaymentAmount := f.repaymentAmount
    maxCctpFee := f.maxCctpFee
    makerQuoteHash := f.makerQuoteHash
    fillId := f.fillId }

def VerifiedRepayment.contract (r : VerifiedRepayment) : Validation.VerifiedRepayment :=
  { orderId := r.orderId
    originChainId := u64_word r.originChainId
    originSettler := r.originSettler
    maker := r.maker
    repaymentToken := r.repaymentToken
    repaymentAmount := r.repaymentAmount
    repaymentId := r.repaymentId }

/-- The claim of an authorization, with one claimant. -/
def CompactClaimAuthorization.contract (c : CompactClaimAuthorization) : Validation.Claim :=
  { allocatorData := []
    sponsorSignature := c.sponsor_signature
    sponsor := c.sponsor
    nonce := c.nonce
    expires := u64_word c.expires
    witness := c.witness
    witnessTypestring := c.witness_typestring.toUTF8.data.toList
    id := c.id
    allocatedAmount := c.allocated_amount
    claimants := [{ claimant := Contracts.address_word c.claimant, amount := c.claimant_amount }] }

theorem CompactClaimAuthorization.contract_witnessTypestring (c : CompactClaimAuthorization) :
    c.contract.witnessTypestring = c.witness_typestring.toUTF8.data.toList := rfl

/-- The encoder of the author: calls, envelopes and hashes are the ABI's, the
    signature is the maker's. -/
def abi_encoder (keccak256 : Bytes → B256) (sign65 : B256 → Bytes) : DirectEncoder where
  proof_id chain application order_id kind :=
    Validation.proof_id keccak256 chain.id application order_id kind.toFin
  signing_hash chain verifying_contract quote :=
    Validation.typed_data_hash keccak256
      (Validation.app_domain keccak256 chain.id verifying_contract)
      (Validation.direct_quote_hash keccak256 quote.contract)
  sign65
  fill_envelope fill :=
    { version := 1, kind := 0, payload := fill.contract.abi_encode :
      Validation.ProofEnvelope }.abi_encode
  repayment_envelope repayment :=
    { version := 1, kind := 1, payload := encode repayment.contract :
      Validation.ProofEnvelope }.abi_encode
  settle_direct order mandate fill_id claim :=
    { order := order.contract, mandate := mandate.contract, fillProof := word fill_id
      compactClaim := claim.contract : Validation.SettleDirectCall }.abi_encode keccak256
  dispatch orderId envelope :=
    { orderId, envelope : Validation.DispatchCall }.abi_encode keccak256
  fill_direct order mandate quote makerSignature :=
    { order := order.contract, mandate := mandate.contract, quote := quote.contract
      makerSignature : Validation.FillDirectCall }.abi_encode keccak256
  confirm_direct_repayment orderId repayment_id :=
    { orderId, repaymentProof := word repayment_id :
      Validation.ConfirmDirectRepaymentCall }.abi_encode keccak256

/-- An author is made from a complete configuration. -/
def AlloyDirectPlanAuthor.new (config : DirectPlanAuthorConfig) (maker : Address)
    (encoder : DirectEncoder) : Except String AlloyDirectPlanAuthor := do
  require (config.origin_chain ≠ config.destination_chain ∧ config.origin_settler ≠ 0 ∧
      config.destination_app ≠ 0 ∧ config.origin_proof_outbox ≠ 0 ∧
      config.destination_proof_outbox ≠ 0 ∧ config.origin_strategy_hash.hash ≠ 0)
    "direct plan author configuration is incomplete"
  .ok { config, maker, encoder }

/-! ## What is staged -/

/-- The calls and proofs of the two plans of a direct order. -/
structure DirectCalls where
  deliver : Validation.FillDirectCall
  claim : Validation.SettleDirectCall
  fill : Validation.VerifiedFill
  repayment : Validation.VerifiedRepayment
  close : Validation.ConfirmDirectRepaymentCall

namespace DirectCalls

variable (keccak256 : Bytes → B256) (calls : DirectCalls)

def fill_envelope : Validation.ProofEnvelope :=
  { version := 1, kind := 0, payload := calls.fill.abi_encode }

def repayment_envelope : Validation.ProofEnvelope :=
  { version := 1, kind := 1, payload := encode calls.repayment }

def dispatch_fill : Validation.DispatchCall :=
  { orderId := calls.close.orderId, envelope := calls.fill_envelope.abi_encode }

def dispatch_repayment : Validation.DispatchCall :=
  { orderId := calls.close.orderId, envelope := calls.repayment_envelope.abi_encode }

/-- The plans that stage the calls. -/
def plans (config : DirectPlanAuthorConfig) (id : AggregateQuoteId) : DirectExecutionPlans where
  origin :=
    { aggregate_id := id
      chain_id := config.origin_chain
      steps := [
        { command := .ClaimOrigin, target := config.origin_settler, value := 0
          calldata := calls.claim.abi_encode keccak256 },
        { command := .DispatchRepayment, target := config.origin_proof_outbox, value := 0
          calldata := calls.dispatch_repayment.abi_encode keccak256 }] }
  destination :=
    { aggregate_id := id
      chain_id := config.destination_chain
      steps := [
        { command := .Deliver, target := config.destination_app, value := 0
          calldata := calls.deliver.abi_encode keccak256 },
        { command := .DispatchFillProof, target := config.destination_proof_outbox, value := 0
          calldata := calls.dispatch_fill.abi_encode keccak256 },
        { command := .CloseDestination, target := config.destination_app, value := 0
          calldata := calls.close.abi_encode keccak256 }] }

/-- A decoder reads the calls and proofs back from their encodings. -/
structure RoundTrips (abi : Validation.Decoder) : Prop where
  deliver : abi.fillDirect (calls.deliver.abi_encode keccak256) = some calls.deliver
  claim : abi.settleDirect (calls.claim.abi_encode keccak256) = some calls.claim
  close : abi.confirmDirectRepayment (calls.close.abi_encode keccak256) = some calls.close
  dispatch_fill : abi.dispatch (calls.dispatch_fill.abi_encode keccak256) =
    some calls.dispatch_fill
  dispatch_repayment : abi.dispatch (calls.dispatch_repayment.abi_encode keccak256) =
    some calls.dispatch_repayment
  fill_envelope : abi.envelope calls.fill_envelope.abi_encode = some calls.fill_envelope
  repayment_envelope : abi.envelope calls.repayment_envelope.abi_encode =
    some calls.repayment_envelope
  fill : abi.fill calls.fill.abi_encode = some calls.fill
  repayment : abi.repayment (encode calls.repayment) = some calls.repayment

end DirectCalls

/-! ## The authorization and its calls -/

/-- The configurations of the draft builder, the plan author and the validators
    of both chains name the same contracts and the same operator. -/
structure Configured (draft : DirectOrderDraftConfig) (author : DirectPlanAuthorConfig)
    (destination origin : Validation.AlloyStepValidator) : Prop where
  origin_chain : draft.origin_chain = author.origin_chain
  destination_chain : draft.destination_chain = author.destination_chain
  origin_settler : draft.origin_settler = author.origin_settler
  destination_app : draft.destination_settler = author.destination_app
  operator : draft.exclusive_filler = destination.operator
  wrapped_native : destination.wrapped_native ≠ 0
  destination_origin_application : destination.origin_application = some author.origin_settler
  destination_application : destination.destination_application = some author.destination_app
  origin_application : origin.origin_application = some author.origin_settler
  origin_destination_application : origin.destination_application = some author.destination_app

namespace DirectOrderDraftBuilder

variable (keccak256 : Bytes → B256) (builder : DirectOrderDraftBuilder)
  (request : DirectOrderDraftRequest)

def order_id : CrossChainOrderId :=
  ⟨(builder.order request).contract.eip712_hash_struct keccak256⟩

/-- The mandate of the order a request drafts. -/
def own_mandate : SolventCompactMandate :=
  builder.mandate request (builder.order_id keccak256 request)

/-- What an authorized request returns. -/
def authorized (sponsor_signature : Bytes) : DirectOrderAuthorization :=
  { quote := request.quote
    order_id := builder.order_id keccak256 request
    order := builder.order request
    mandate := builder.own_mandate keccak256 request
    compact_claim :=
      { sponsor_signature
        sponsor := request.sponsor
        nonce := request.compact_nonce
        expires := request.compact_expires_unix
        witness := mandate_hash keccak256 (builder.own_mandate keccak256 request).contract
        witness_typestring := MANDATE_WITNESS_TYPESTRING
        id := compact_id builder.config.compact_lock_tag request.quote.origin.input_token
        allocated_amount := request.quote.amount_in
        claimant := builder.config.origin_settler
        claimant_amount := request.quote.amount_in } }

variable {keccak256 builder request}

/-- **Inversion.** An authorization is of the configured direct route, and its
    fill deadline fits the contracts' field. -/
theorem authorize_ok {recovery : SignatureRecovery} {sponsor_signature : Bytes} {now_unix : U64}
    {authorization : DirectOrderAuthorization}
    (h : builder.authorize keccak256 recovery request sponsor_signature now_unix =
      .ok authorization) :
    authorization = builder.authorized keccak256 request sponsor_signature ∧
      request.quote.origin.route = .Direct ∧
      request.quote.origin.local_chain = builder.config.origin_chain ∧
      request.quote.destination.local_chain = builder.config.destination_chain ∧
      request.quote.expires_at_unix.val < 2 ^ 48 := by
  unfold authorize at h
  obtain ⟨draft, hdraft, h⟩ := Except.bind_eq_ok.mp h
  unfold DirectOrderDraftBuilder.draft at hdraft
  obtain ⟨⟨⟩, -, hdraft⟩ := Except.bind_eq_ok.mp hdraft
  obtain ⟨⟨hroute, horigin, hdestination⟩, hdraft⟩ := require_bind.mp hdraft
  obtain ⟨-, hdraft⟩ := require_bind.mp hdraft
  obtain ⟨-, hdraft⟩ := require_bind.mp hdraft
  obtain ⟨-, hdraft⟩ := require_bind.mp hdraft
  obtain ⟨⟨hexpires, -⟩, hdraft⟩ := require_bind.mp hdraft
  obtain rfl := Except.ok.inj hdraft
  obtain ⟨signature, -, h⟩ := expect_bind.mp h
  obtain ⟨recovered, -, h⟩ := expect_bind.mp h
  obtain ⟨-, h⟩ := require_bind.mp h
  refine ⟨(Except.ok.inj h).symm, hroute, horigin, hdestination, ?_⟩
  unfold MAX_U48 at hexpires
  omega

end DirectOrderDraftBuilder

namespace AlloyDirectPlanAuthor

theorem u48_ok {value : U64} (h : value.val < 2 ^ 48) (name : String) :
    u48 value name = .ok (u48_from value) := by
  unfold u48 u48_from
  rw [dif_pos h]
  exact congrArg Except.ok (Fin.ext (Nat.mod_eq_of_lt h).symm)

section Calls

variable (keccak256 : Bytes → B256) (builder : DirectOrderDraftBuilder)
  (author : AlloyDirectPlanAuthor) (request : DirectOrderDraftRequest)
  (sponsor_signature : Bytes) (source : ReservationSource)

/-- The quote the maker signs for an authorized request. -/
def signed_quote : DirectMakerQuote :=
  author.maker_quote (builder.authorized keccak256 request sponsor_signature) source
    (u48_from request.quote.expires_at_unix)

def quote_hash : B256 :=
  author.encoder.signing_hash author.config.destination_chain author.config.destination_app
    (author.signed_quote keccak256 builder request sponsor_signature source)

def fill_id : B256 :=
  author.encoder.proof_id author.config.destination_chain author.config.destination_app
    (builder.order_id keccak256 request).hash 0

def repayment_id : B256 :=
  author.encoder.proof_id author.config.origin_chain author.config.origin_settler
    (builder.order_id keccak256 request).hash 1

/-- The calls the author stages for an authorized request. -/
def calls : DirectCalls where
  deliver :=
    { order := (builder.order request).contract
      mandate := (builder.own_mandate keccak256 request).contract
      quote := (author.signed_quote keccak256 builder request sponsor_signature source).contract
      makerSignature := author.encoder.sign65
        (author.quote_hash keccak256 builder request sponsor_signature source) }
  claim :=
    { order := (builder.order request).contract
      mandate := (builder.own_mandate keccak256 request).contract
      fillProof := word (author.fill_id keccak256 builder request)
      compactClaim :=
        (builder.authorized keccak256 request sponsor_signature).compact_claim.contract }
  fill := (author.verified_fill (builder.authorized keccak256 request sponsor_signature) source
    (author.quote_hash keccak256 builder request sponsor_signature source)
    (author.fill_id keccak256 builder request)).contract
  repayment := (author.verified_repayment
    (builder.authorized keccak256 request sponsor_signature)
    (author.repayment_id keccak256 builder request)).contract
  close :=
    { orderId := (builder.order_id keccak256 request).hash
      repaymentProof := word (author.repayment_id keccak256 builder request) }

end Calls

theorem order_authorized {keccak256 : Bytes → B256} {builder : DirectOrderDraftBuilder}
    {request : DirectOrderDraftRequest} {sponsor_signature : Bytes}
    (hexpires : request.quote.expires_at_unix.val < 2 ^ 48) :
    ∃ o, order (builder.authorized keccak256 request sponsor_signature) = .ok o ∧
      o.contract = (builder.order request).contract := by
  unfold order
  show ∃ o, (u48 request.quote.expires_at_unix _ >>= fun _ => _) = .ok o ∧ _
  rw [u48_ok hexpires]
  show ∃ o, (u48 request.quote.expires_at_unix _ >>= fun _ => _) = .ok o ∧ _
  rw [u48_ok hexpires]
  exact ⟨_, rfl, rfl⟩

theorem mandate_authorized {keccak256 : Bytes → B256} {builder : DirectOrderDraftBuilder}
    {request : DirectOrderDraftRequest} {sponsor_signature : Bytes}
    (hexpires : request.quote.expires_at_unix.val < 2 ^ 48) :
    ∃ m, mandate (builder.authorized keccak256 request sponsor_signature) = .ok m ∧
      m.contract = (builder.own_mandate keccak256 request).contract := by
  unfold mandate
  show ∃ m, (u48 request.quote.expires_at_unix _ >>= fun _ => _) = .ok m ∧ _
  rw [u48_ok hexpires]
  exact ⟨_, rfl, rfl⟩

/-- **The author stages the calls of the authorized order.** -/
theorem author_plans_authorized {keccak256 : Bytes → B256} {sign65 : B256 → Bytes}
    {builder : DirectOrderDraftBuilder} {author : AlloyDirectPlanAuthor}
    {request : DirectOrderDraftRequest} {sponsor_signature : Bytes} {source : ReservationSource}
    (hencoder : author.encoder = abi_encoder keccak256 sign65)
    (horigin : request.quote.origin.local_chain = author.config.origin_chain)
    (hdestination : request.quote.destination.local_chain = author.config.destination_chain)
    (hsettler : builder.config.origin_settler = author.config.origin_settler)
    (happ : builder.config.destination_settler = author.config.destination_app)
    (hsources : request.quote.destination.sources = [source])
    (hmaker : source.maker.address = author.maker)
    (hexpires : request.quote.expires_at_unix.val < 2 ^ 48) :
    author.author_plans (builder.authorized keccak256 request sponsor_signature) = .ok
      { maker_quote := author.signed_quote keccak256 builder request sponsor_signature source
        plans := (author.calls keccak256 builder request sponsor_signature source).plans keccak256
          author.config request.quote.id } := by
  unfold author_plans
  have hown : ¬(request.quote.origin.local_chain ≠ author.config.origin_chain ∨
      request.quote.destination.local_chain ≠ author.config.destination_chain ∨
      builder.config.origin_settler ≠ author.config.origin_settler ∨
      builder.config.destination_settler ≠ author.config.destination_app) := by
    simp [horigin, hdestination, hsettler, happ]
  refine (if_neg hown).trans ?_
  have hauthorized : (builder.authorized keccak256 request
      sponsor_signature).quote.destination.sources = [source] := hsources
  rw [hauthorized]
  show (if source.maker.address ≠ author.maker then _ else _) = _
  rw [if_neg (not_not.mpr hmaker)]
  obtain ⟨o, horder, horder_contract⟩ : ∃ o,
      order (builder.authorized keccak256 request sponsor_signature) = .ok o ∧
        o.contract = (builder.order request).contract := order_authorized hexpires
  obtain ⟨m, hmandate, hmandate_contract⟩ : ∃ m,
      mandate (builder.authorized keccak256 request sponsor_signature) = .ok m ∧
        m.contract = (builder.own_mandate keccak256 request).contract := mandate_authorized hexpires
  show (order _ >>= fun _ => mandate _ >>= fun _ => u48 request.quote.expires_at_unix _ >>=
    fun _ => _) = _
  rw [horder, hmandate, u48_ok hexpires]
  obtain ⟨config, maker, encoder⟩ := author
  obtain rfl : encoder = abi_encoder keccak256 sign65 := hencoder
  refine congrArg Except.ok ?_
  show (⟨_, plans _ _ _ _ _ _⟩ : Authored) = _
  simp only [plans, abi_encoder, horder_contract, hmandate_contract]
  rfl

end AlloyDirectPlanAuthor

/-! ## The validators accept the calls -/

namespace AlloyDirectPlanAuthor

open Validation

section Accepted

variable {keccak256 : Bytes → B256} {sign65 : B256 → Bytes} {builder : DirectOrderDraftBuilder}
  {author : AlloyDirectPlanAuthor} {request : DirectOrderDraftRequest} {sponsor_signature : Bytes}
  {source : ReservationSource} {destination origin validator : AlloyStepValidator}
  {abi : Decoder} {role : LegRole}

/-- The context a service validates a plan of this request in. -/
def context (keccak256 : Bytes → B256) (builder : DirectOrderDraftBuilder)
    (request : DirectOrderDraftRequest) (role : LegRole) : StepValidationContext :=
  { order_id := builder.order_id keccak256 request, quote := request.quote, role }

/-- An authorized request with a single source of the author's maker, and the
    configurations that name the same contracts. -/
structure Requested (keccak256 : Bytes → B256) (sign65 : B256 → Bytes)
    (builder : DirectOrderDraftBuilder) (author : AlloyDirectPlanAuthor)
    (request : DirectOrderDraftRequest) (source : ReservationSource) (wrapped_native : Address) :
    Prop where
  encoder : author.encoder = abi_encoder keccak256 sign65
  route : request.quote.origin.route = .Direct
  origin_chain : request.quote.origin.local_chain = builder.config.origin_chain
  destination_chain : request.quote.destination.local_chain = builder.config.destination_chain
  author_origin_chain : builder.config.origin_chain = author.config.origin_chain
  author_destination_chain : builder.config.destination_chain = author.config.destination_chain
  settler : builder.config.origin_settler = author.config.origin_settler
  app : builder.config.destination_settler = author.config.destination_app
  settler_ne : author.config.origin_settler ≠ 0
  app_ne : author.config.destination_app ≠ 0
  sources : request.quote.destination.sources = [source]
  maker : source.maker.address = author.maker
  token : source.token = if request.quote.destination.output_token = 0 then wrapped_native
    else request.quote.destination.output_token
  amount : source.amount = request.quote.amount_out
  wrapped_native_ne : wrapped_native ≠ 0

/-- A validator that is configured with the author's applications. -/
structure Validates (author : AlloyDirectPlanAuthor) (validator : AlloyStepValidator) : Prop where
  origin_application : validator.origin_application = some author.config.origin_settler
  destination_application : validator.destination_application = some author.config.destination_app

namespace Requested

variable {step : PreparedStep} {wrapped_native : Address}
  (h : Requested keccak256 sign65 builder author request source wrapped_native)

include h

theorem origin_word : u64_word builder.config.origin_chain.id =
    u64_word request.quote.origin.local_chain.id := by
  rw [h.origin_chain]

theorem destination_word : u64_word builder.config.destination_chain.id =
    u64_word request.quote.destination.local_chain.id := by
  rw [h.destination_chain]

/-- The drafted order has the terms of the quote. -/
theorem order_accepted {operator : Address}
    (hdeliver : step.command = .Deliver → builder.config.destination_settler = step.target ∧
      builder.config.exclusive_filler = operator)
    (hclaim : step.command = .ClaimOrigin → builder.config.origin_settler = step.target) :
    validate_order keccak256 (context keccak256 builder request role) step
      (builder.order request).contract operator = .ok () := by
  unfold validate_order
  have hroute : (builder.order request).contract.routeKind =
      route_word request.quote.origin.route := by
    rw [h.route]
    rfl
  refine require_bind.mpr
    ⟨⟨rfl, h.origin_word, h.destination_word, rfl, rfl, rfl, rfl, hroute⟩, ?_⟩
  match hcommand : step.command with
  | .Deliver => exact require_of (hdeliver hcommand) _
  | .ClaimOrigin => exact require_of (hclaim hcommand) _
  | .DispatchFillProof => rfl
  | .DispatchRepayment => rfl
  | .CloseDestination => rfl

omit h in
theorem mandate_accepted :
    validate_mandate (context keccak256 builder request role) (builder.order request).contract
      (builder.own_mandate keccak256 request).contract = .ok () :=
  require_of ⟨rfl, rfl, rfl, rfl, rfl, rfl, rfl, rfl, rfl, rfl⟩ _

theorem source_accepted :
    validate_destination_source (context keccak256 builder request role) author.maker
      source.strategy_hash.hash request.quote.amount_out wrapped_native = .ok () := by
  unfold validate_destination_source
  have hsources : (context keccak256 builder request role).quote.destination.sources = [source] :=
    h.sources
  rw [hsources]
  have htoken : reserve_token (context keccak256 builder request role) wrapped_native =
      .ok source.token := by
    rw [h.token]
    unfold reserve_token
    by_cases hnative : request.quote.destination.output_token = 0
    · rw [if_pos hnative]
      exact (if_pos hnative).trans (if_neg h.wrapped_native_ne)
    · rw [if_neg hnative]
      exact if_neg hnative
  exact Except.bind_eq_ok.mpr ⟨_, htoken, require_of ⟨h.maker, rfl, rfl, h.amount⟩ _⟩

theorem applications_accepted (hvalidates : Validates author validator) :
    validator.validate_applications (builder.order request).contract = .ok () := by
  unfold AlloyStepValidator.validate_applications
  rw [hvalidates.origin_application, hvalidates.destination_application]
  exact Except.bind_eq_ok.mpr ⟨_, required_application_some h.settler_ne _,
    Except.bind_eq_ok.mpr ⟨_, required_application_some h.app_ne _,
      require_of ⟨h.settler, h.app⟩ _⟩⟩

/-- The fill id of the author is the one the validators expect. -/
theorem fill_id_word : author.fill_id keccak256 builder request =
    proof_id keccak256 request.quote.destination.local_chain.id author.config.destination_app
      (builder.order_id keccak256 request).hash 0 := by
  unfold fill_id
  rw [h.encoder, h.destination_chain, h.author_destination_chain]
  rfl

theorem repayment_id_word : author.repayment_id keccak256 builder request =
    proof_id keccak256 request.quote.origin.local_chain.id author.config.origin_settler
      (builder.order_id keccak256 request).hash 1 := by
  unfold repayment_id
  rw [h.encoder, h.origin_chain, h.author_origin_chain]
  rfl

/-! The five steps. -/

variable (htrips : (author.calls keccak256 builder request sponsor_signature source).RoundTrips
  keccak256 abi)

include htrips

theorem deliver_accepted (hnative : validator.wrapped_native = wrapped_native)
    (hoperator : builder.config.exclusive_filler = validator.operator)
    (hcommand : step.command = .Deliver) (htarget : step.target = author.config.destination_app)
    (hcalldata : step.calldata = (author.calls keccak256 builder request sponsor_signature
      source).deliver.abi_encode keccak256) :
    validator.validate_call keccak256 abi (context keccak256 builder request role) step .Deliver
      .Direct = .ok () := by
  unfold AlloyStepValidator.validate_call Validation.decode
  rw [hcalldata, htrips.deliver, expect_some_bind, hnative]
  have horder : validate_order keccak256 (context keccak256 builder request role) step
      (builder.order request).contract validator.operator = .ok () :=
    h.order_accepted (fun _ => ⟨h.app.trans htarget.symm, hoperator⟩)
      fun hclaim => by simp [hcommand] at hclaim
  exact Except.bind_eq_ok.mpr ⟨(), horder, Except.bind_eq_ok.mpr ⟨(), mandate_accepted,
    require_bind.mpr ⟨⟨rfl, rfl, rfl⟩, h.source_accepted⟩⟩⟩

theorem claim_accepted (hvalidates : Validates author validator)
    (hcommand : step.command = .ClaimOrigin) (htarget : step.target = author.config.origin_settler)
    (hcalldata : step.calldata = (author.calls keccak256 builder request sponsor_signature
      source).claim.abi_encode keccak256) :
    validator.validate_call keccak256 abi (context keccak256 builder request role) step .ClaimOrigin
      .Direct = .ok () := by
  unfold AlloyStepValidator.validate_call Validation.decode
  rw [hcalldata, htrips.claim, expect_some_bind]
  have horder : validate_order keccak256 (context keccak256 builder request role) step
      (builder.order request).contract validator.operator = .ok () :=
    h.order_accepted (fun hdeliver => by simp [hcommand] at hdeliver)
      fun _ => h.settler.trans htarget.symm
  have hproof : validate_fill_proof keccak256 (context keccak256 builder request role)
      (builder.order request).contract (word (author.fill_id keccak256 builder request)) =
        .ok () := by
    unfold validate_fill_proof
    rw [h.fill_id_word, ← h.app]
    exact validate_proof_id_word _ _
  exact Except.bind_eq_ok.mpr ⟨(), h.applications_accepted hvalidates,
    Except.bind_eq_ok.mpr ⟨(), horder, Except.bind_eq_ok.mpr ⟨(), mandate_accepted, hproof⟩⟩⟩

theorem dispatch_fill_accepted (hvalidates : Validates author validator)
    (hdigest : author.quote_hash keccak256 builder request sponsor_signature source ≠ 0)
    (hcalldata : step.calldata = (author.calls keccak256 builder request sponsor_signature
      source).dispatch_fill.abi_encode keccak256) :
    validator.validate_call keccak256 abi (context keccak256 builder request role) step
      .DispatchFillProof .Direct = .ok () := by
  unfold AlloyStepValidator.validate_call Validation.decode
  rw [hcalldata, htrips.dispatch_fill, expect_some_bind]
  refine require_bind.mpr ⟨rfl, ?_⟩
  unfold validate_fill_envelope
  rw [hvalidates.destination_application]
  refine Except.bind_eq_ok.mpr ⟨_, decode_envelope_encoded htrips.fill_envelope rfl rfl,
    Except.bind_eq_ok.mpr ⟨_, decode_fill_encoded htrips.fill,
      Except.bind_eq_ok.mpr ⟨_, required_application_some h.app_ne _, ?_⟩⟩⟩
  have hsources : (context keccak256 builder request role).quote.destination.sources = [source] :=
    h.sources
  rw [hsources]
  have hdirect : (context keccak256 builder request role).quote.origin.route = .Direct := h.route
  have hchain : u64_word author.config.destination_chain.id =
      u64_word request.quote.destination.local_chain.id := by
    rw [h.destination_chain, h.author_destination_chain]
  -- the direct route is repaid in the input, with no bridge fee
  rw [hdirect]
  exact require_of ⟨rfl, rfl, hchain, rfl, rfl, rfl, h.maker.symm, rfl, rfl, rfl, rfl, hdigest,
    h.fill_id_word⟩ _

theorem dispatch_repayment_accepted (hvalidates : Validates author validator)
    (hcalldata : step.calldata = (author.calls keccak256 builder request sponsor_signature
      source).dispatch_repayment.abi_encode keccak256) :
    validator.validate_call keccak256 abi (context keccak256 builder request role) step
      .DispatchRepayment .Direct = .ok () := by
  unfold AlloyStepValidator.validate_call Validation.decode
  rw [hcalldata, htrips.dispatch_repayment, expect_some_bind]
  refine require_bind.mpr ⟨rfl, ?_⟩
  unfold validate_repayment_envelope
  rw [hvalidates.origin_application]
  refine Except.bind_eq_ok.mpr ⟨_, decode_envelope_encoded htrips.repayment_envelope rfl rfl,
    Except.bind_eq_ok.mpr ⟨_, decode_repayment_encoded htrips.repayment,
      Except.bind_eq_ok.mpr ⟨_, required_application_some h.settler_ne _, ?_⟩⟩⟩
  have hsources : (context keccak256 builder request role).quote.destination.sources = [source] :=
    h.sources
  rw [hsources]
  have hchain : u64_word author.config.origin_chain.id =
      u64_word request.quote.origin.local_chain.id := by
    rw [h.origin_chain, h.author_origin_chain]
  exact require_of ⟨rfl, hchain, rfl, h.maker.symm, rfl, rfl, h.repayment_id_word⟩ _

theorem close_accepted (hvalidates : Validates author validator)
    (hcalldata : step.calldata = (author.calls keccak256 builder request sponsor_signature
      source).close.abi_encode keccak256) :
    validator.validate_call keccak256 abi (context keccak256 builder request role) step
      .CloseDestination .Direct = .ok () := by
  unfold AlloyStepValidator.validate_call Validation.decode
  rw [hcalldata, htrips.close, expect_some_bind, hvalidates.origin_application]
  refine require_bind.mpr ⟨rfl, Except.bind_eq_ok.mpr
    ⟨_, required_application_some h.settler_ne _, ?_⟩⟩
  show validate_proof_id (word (author.repayment_id keccak256 builder request)) _ _ = _
  rw [h.repayment_id_word]
  exact validate_proof_id_word _ _

/-- The delivery and the fill proof of the destination plan name the same maker
    quote. -/
theorem proofs_accepted (hvalidates : Validates author validator) {plan : ChainExecutionPlan}
    (hplan : plan = ((author.calls keccak256 builder request sponsor_signature source).plans
      keccak256 author.config request.quote.id).destination) :
    validator.validate_plan_proofs keccak256 abi (context keccak256 builder request role) plan =
      .ok () := by
  have hdirect : (context keccak256 builder request role).quote.origin.route = .Direct := h.route
  have hhash : author.quote_hash keccak256 builder request sponsor_signature source =
      typed_data_hash keccak256
        (app_domain keccak256 request.quote.destination.local_chain.id author.config.destination_app)
        (direct_quote_hash keccak256
          (author.signed_quote keccak256 builder request sponsor_signature source).contract) := by
    unfold quote_hash
    rw [h.encoder, h.destination_chain, h.author_destination_chain]
    rfl
  subst hplan
  unfold AlloyStepValidator.validate_plan_proofs
  show (Validation.decode abi.dispatch ((author.calls keccak256 builder request sponsor_signature
    source).dispatch_fill.abi_encode keccak256) >>= fun _ => _) = _
  rw [hvalidates.destination_application, hdirect]
  refine expect_bind.mpr ⟨_, htrips.dispatch_fill,
    Except.bind_eq_ok.mpr ⟨_, decode_envelope_encoded htrips.fill_envelope rfl rfl,
      Except.bind_eq_ok.mpr ⟨_, decode_fill_encoded htrips.fill,
        Except.bind_eq_ok.mpr ⟨_, required_application_some h.app_ne _,
          expect_bind.mpr ⟨_, htrips.deliver,
            Except.bind_eq_ok.mpr ⟨(), h.applications_accepted hvalidates,
              require_of ⟨rfl, rfl, hhash⟩ _⟩⟩⟩⟩⟩⟩

/-- **The destination plan is accepted.** -/
theorem destination_accepted (hvalidates : Validates author validator)
    (hnative : validator.wrapped_native = wrapped_native)
    (hoperator : builder.config.exclusive_filler = validator.operator)
    (hdigest : author.quote_hash keccak256 builder request sponsor_signature source ≠ 0) :
    validator.validate_plan keccak256 abi (context keccak256 builder request role)
      ((author.calls keccak256 builder request sponsor_signature source).plans keccak256
        author.config request.quote.id).destination = .ok () := by
  have hdirect : (context keccak256 builder request role).quote.origin.route = .Direct := h.route
  refine validate_plan_of (fun step hstep => ?_) (h.proofs_accepted htrips hvalidates rfl)
  rcases List.mem_cons.mp hstep with rfl | hstep
  · refine validate_of_call rfl ?_
    rw [hdirect]
    exact h.deliver_accepted htrips hnative hoperator rfl rfl rfl
  rcases List.mem_cons.mp hstep with rfl | hstep
  · refine validate_of_call rfl ?_
    rw [hdirect]
    exact h.dispatch_fill_accepted htrips hvalidates hdigest rfl
  · obtain rfl := List.mem_singleton.mp hstep
    refine validate_of_call rfl ?_
    rw [hdirect]
    exact h.close_accepted htrips hvalidates rfl

/-- **The origin plan is accepted.** -/
theorem origin_accepted (hvalidates : Validates author validator) :
    validator.validate_plan keccak256 abi (context keccak256 builder request role)
      ((author.calls keccak256 builder request sponsor_signature source).plans keccak256
        author.config request.quote.id).origin = .ok () := by
  have hdirect : (context keccak256 builder request role).quote.origin.route = .Direct := h.route
  refine validate_plan_of (fun step hstep => ?_) rfl
  rcases List.mem_cons.mp hstep with rfl | hstep
  · refine validate_of_call rfl ?_
    rw [hdirect]
    exact h.claim_accepted htrips hvalidates rfl rfl rfl
  · obtain rfl := List.mem_singleton.mp hstep
    refine validate_of_call rfl ?_
    rw [hdirect]
    exact h.dispatch_repayment_accepted htrips hvalidates rfl

end Requested

end Accepted

end AlloyDirectPlanAuthor

/-! ## The contracts accept the calls -/

namespace DirectOrderDraftBuilder

open Contracts.CrossChainHashLib (hashOrder hashMandate)

variable (keccak256 : Bytes → B256) (builder : DirectOrderDraftBuilder)
  (request : DirectOrderDraftRequest)

/-- The order of a request as the contracts read it. -/
def settled_order : Contracts.SolventCrossChainOrder :=
  let o := (builder.order request).contract
  { user := o.user
    nonce := o.nonce
    originChainId := o.originChainId
    originSettler := o.originSettler
    compact := o.compact
    compactId := o.compactId
    compactExpires := o.compactExpires
    inputToken := o.inputToken
    inputAmount := o.inputAmount
    destinationChainId := o.destinationChainId
    outputToken := o.outputToken
    minimumOutputAmount := o.minimumOutputAmount
    recipient := o.recipient
    destinationSettler := o.destinationSettler
    fillProofVerifier := o.fillProofVerifier
    exclusiveFiller := o.exclusiveFiller
    exclusivityEnds := o.exclusivityEnds
    fillDeadline := o.fillDeadline
    routeKind := .DirectMaker }

/-- The mandate of a request as the contracts read it. -/
def settled_mandate : Contracts.SolventMandate :=
  let m := (builder.own_mandate keccak256 request).contract
  { orderId := m.orderId
    destinationChainId := m.destinationChainId
    destinationSettler := m.destinationSettler
    fillProofVerifier := m.fillProofVerifier
    outputToken := m.outputToken
    minimumOutputAmount := m.minimumOutputAmount
    recipient := m.recipient
    fillDeadline := m.fillDeadline
    exclusiveFiller := m.exclusiveFiller
    routeKind := .DirectMaker }

variable {keccak256 builder request}

theorem order_settled :
    (builder.order request).contract = .of (builder.settled_order request) := rfl

theorem mandate_settled : (builder.own_mandate keccak256 request).contract =
    .of (builder.settled_mandate keccak256 request) := rfl

/-- The order id is the contracts' hash of the order. -/
theorem hashOrder_settled :
    hashOrder keccak256 (builder.settled_order request) = (builder.order_id keccak256 request).hash :=
  (Validation.SolventCrossChainOrder.eip712_hash_struct_of keccak256 _).symm

/-- The sponsor's witness is the contracts' hash of the mandate. -/
theorem hashMandate_settled :
    hashMandate keccak256 (builder.settled_mandate keccak256 request) =
      mandate_hash keccak256 (builder.own_mandate keccak256 request).contract := rfl

theorem witness_typestring_settled : MANDATE_WITNESS_TYPESTRING.toUTF8.data.toList =
    Contracts.CompactOriginSettler.MANDATE_WITNESS_TYPESTRING := by
  unfold MANDATE_WITNESS_TYPESTRING Contracts.CompactOriginSettler.MANDATE_WITNESS_TYPESTRING
  rfl

theorem claim_settled {settler : Contracts.SettlerConfig}
    (hsettler : builder.config.origin_settler = settler.this) (sponsor_signature : Bytes) :
    Contracts.CompactOriginSettler._validateClaim keccak256 settler
      (builder.settled_order request) (builder.settled_mandate keccak256 request)
      (builder.authorized keccak256 request sponsor_signature).compact_claim.contract = .ok () := by
  have hclaimants :
      (builder.authorized keccak256 request sponsor_signature).compact_claim.contract.claimants =
        [{ claimant := Contracts.address_word settler.this
           amount := (builder.settled_order request).inputAmount }] := by
    rw [← hsettler]
    rfl
  have htypestring : (builder.authorized keccak256 request
      sponsor_signature).compact_claim.contract.witnessTypestring =
        Contracts.CompactOriginSettler.MANDATE_WITNESS_TYPESTRING := by
    have hauthorized : (builder.authorized keccak256 request
      sponsor_signature).compact_claim.witness_typestring = MANDATE_WITNESS_TYPESTRING := rfl
    rw [CompactClaimAuthorization.contract_witnessTypestring, hauthorized,
      witness_typestring_settled]
  exact require_of ⟨rfl, rfl, rfl, rfl, congrArg keccak256 htypestring, rfl, hclaimants⟩ _

end DirectOrderDraftBuilder

/-! ## Accepted end to end -/

open DirectOrderDraftBuilder in
/-- **What is authorized is accepted.** The author plans every authorized order
    whose source is its maker's; the validators of both chains accept the plans, and
    what the calls carry passes the checks of the application and the settler. -/
theorem authorized_plans_accepted (keccak256 : Bytes → B256) (sign65 : B256 → Bytes)
    (recovery : SignatureRecovery) (draft_config : DirectOrderDraftConfig)
    (builder : DirectOrderDraftBuilder)
    (hbuilder : DirectOrderDraftBuilder.new draft_config = .ok builder)
    (author_config : DirectPlanAuthorConfig) (maker : Address) (hmaker_ne : maker ≠ 0)
    (author : AlloyDirectPlanAuthor)
    (hauthor : AlloyDirectPlanAuthor.new author_config maker (abi_encoder keccak256 sign65) =
      .ok author)
    (destination origin : Validation.AlloyStepValidator)
    (hconfigured : Configured draft_config author_config destination origin)
    (request : DirectOrderDraftRequest) (sponsor_signature : Bytes) (now_unix : U64)
    (authorization : DirectOrderAuthorization)
    (hauthorized : builder.authorize keccak256 recovery request sponsor_signature now_unix =
      .ok authorization)
    (source : ReservationSource) (hsources : authorization.quote.destination.sources = [source])
    (hmaker : source.maker.address = maker)
    (htoken : source.token = if authorization.quote.destination.output_token = 0 then
      destination.wrapped_native else authorization.quote.destination.output_token)
    (hamount : source.amount = authorization.quote.amount_out)
    (hdigest : author.quote_hash keccak256 builder request sponsor_signature source ≠ 0) :
    let calls := author.calls keccak256 builder request sponsor_signature source
    ∃ (authored : AlloyDirectPlanAuthor.Authored) (order : Contracts.SolventCrossChainOrder)
      (mandate : Contracts.SolventMandate),
      author.author_plans authorization = .ok authored ∧
      authored.plans = calls.plans keccak256 author_config authorization.quote.id ∧
      (∀ abi : Validation.Decoder, calls.RoundTrips keccak256 abi →
        destination.validate_plan keccak256 abi
            { order_id := authorization.order_id, quote := authorization.quote
              role := .Destination } authored.plans.destination = .ok () ∧
          origin.validate_plan keccak256 abi
            { order_id := authorization.order_id, quote := authorization.quote
              role := .Origin } authored.plans.origin = .ok ()) ∧
      calls.deliver.order = Validation.SolventCrossChainOrder.of order ∧
      calls.deliver.mandate = Validation.SolventMandate.of mandate ∧
      calls.claim.order = Validation.SolventCrossChainOrder.of order ∧
      calls.claim.mandate = Validation.SolventMandate.of mandate ∧
      Contracts.CrossChainHashLib.hashOrder keccak256 order = authorization.order_id.hash ∧
      Contracts.CrossChainAquaApp._validateMandate order mandate
        (Contracts.CrossChainHashLib.hashOrder keccak256 order) = .ok () ∧
      Contracts.CrossChainAquaApp.quote_fields order calls.deliver.quote
        (Contracts.CrossChainHashLib.hashOrder keccak256 order) ∧
      Contracts.CompactOriginSettler._validateMandate order mandate
        (Contracts.CrossChainHashLib.hashOrder keccak256 order) = .ok () ∧
      ∀ settler : Contracts.SettlerConfig, settler.this = author_config.origin_settler →
        Contracts.CompactOriginSettler._validateClaim keccak256 settler order mandate
          calls.claim.compactClaim = .ok () := by
  obtain ⟨rfl, hroute, horigin, hdestination, hexpires⟩ := authorize_ok hauthorized
  obtain ⟨-, hbuilder⟩ := require_bind.mp hbuilder
  obtain rfl := Except.ok.inj hbuilder
  obtain ⟨⟨-, hsettler_ne, happ_ne, -, -, hstrategy_ne⟩, hauthor⟩ := require_bind.mp hauthor
  obtain rfl := Except.ok.inj hauthor
  have hrequested : AlloyDirectPlanAuthor.Requested keccak256 sign65 ⟨draft_config⟩
      ⟨author_config, maker, abi_encoder keccak256 sign65⟩ request source
      destination.wrapped_native :=
    { encoder := rfl
      route := hroute
      origin_chain := horigin
      destination_chain := hdestination
      author_origin_chain := hconfigured.origin_chain
      author_destination_chain := hconfigured.destination_chain
      settler := hconfigured.origin_settler
      app := hconfigured.destination_app
      settler_ne := hsettler_ne
      app_ne := happ_ne
      sources := hsources
      maker := hmaker
      token := htoken
      amount := hamount
      wrapped_native_ne := hconfigured.wrapped_native }
  refine ⟨_, settled_order ⟨draft_config⟩ request,
    settled_mandate keccak256 ⟨draft_config⟩ request,
    AlloyDirectPlanAuthor.author_plans_authorized hrequested.encoder
      (horigin.trans hconfigured.origin_chain) (hdestination.trans hconfigured.destination_chain)
      hrequested.settler hrequested.app hsources hmaker hexpires, rfl, fun abi htrips => ⟨?_, ?_⟩, rfl, rfl, rfl, rfl, hashOrder_settled, ?_, ?_, ?_, ?_⟩
  · exact hrequested.destination_accepted htrips
      ⟨hconfigured.destination_origin_application, hconfigured.destination_application⟩ rfl
      hconfigured.operator hdigest
  · exact hrequested.origin_accepted htrips
      ⟨hconfigured.origin_application, hconfigured.origin_destination_application⟩
  · exact require_of ⟨hashOrder_settled.symm, rfl, rfl, rfl, rfl, rfl, rfl, rfl, rfl, rfl⟩ _
  · exact ⟨hashOrder_settled.symm, hmaker_ne, hstrategy_ne, le_refl _, rfl⟩
  · exact require_of ⟨hashOrder_settled.symm, rfl, rfl, rfl, rfl, rfl, rfl, rfl, rfl, rfl⟩ _
  · intro settler hsettler
    exact claim_settled (hconfigured.origin_settler.trans hsettler.symm) sponsor_signature

/-! A sample: a quote, its authorization, and decoders of its calls. -/

section Sample

open Contracts (sample_hash)
open Validation (staged_quote staged_validator)

def drafted_origin : LegQuote :=
  let leg := { staged_quote.origin with expires_at_unix := 1000 }
  { leg with quote_id := leg_quote_id sample_hash leg }

def drafted_destination : LegQuote :=
  let leg := { staged_quote.destination with expires_at_unix := 1000 }
  { leg with quote_id := leg_quote_id sample_hash leg }

def drafted_quote : AggregateQuote where
  id := aggregate_id sample_hash drafted_origin drafted_destination 0 none
  origin := drafted_origin
  destination := drafted_destination
  amount_in := 50
  amount_out := 45
  bridge_fee := 0
  cctp_finality_threshold := none
  expires_at_unix := 1000

def drafted_config : DirectOrderDraftConfig where
  origin_chain := ⟨1⟩
  destination_chain := ⟨2⟩
  origin_settler := 20
  compact := 21
  destination_settler := 10
  fill_proof_verifier := 28
  exclusive_filler := 9
  compact_lock_tag := 1

def authored_config : DirectPlanAuthorConfig where
  origin_chain := ⟨1⟩
  destination_chain := ⟨2⟩
  origin_settler := 20
  destination_app := 10
  origin_proof_outbox := 27
  destination_proof_outbox := 15
  origin_strategy_hash := ⟨32⟩

def drafted_request : DirectOrderDraftRequest where
  quote := drafted_quote
  sponsor := 8
  recipient := 7
  order_nonce := 1
  compact_nonce := 2
  compact_expires_unix := 2000

/-- Every signature is the sponsor's. -/
def sample_recovery : DirectOrderDraftBuilder.SignatureRecovery where
  Signature := Unit
  from_raw _ := some ()
  recover_address_from_prehash _ _ := some 8

def authored_source : ReservationSource :=
  { maker := ⟨3⟩, strategy_hash := ⟨31⟩, token := 30, amount := 45 }

def sample_author : AlloyDirectPlanAuthor :=
  ⟨authored_config, 3, abi_encoder sample_hash fun _ => []⟩

def authored_calls : DirectCalls :=
  sample_author.calls sample_hash ⟨drafted_config⟩ drafted_request [] authored_source

/-- A decoder of the sample's bytes. -/
def authored_abi : Validation.Decoder where
  fillDirect data :=
    if data = authored_calls.deliver.abi_encode sample_hash then some authored_calls.deliver
    else none
  fillCredit _ := none
  completeRepayment _ := none
  confirmDirectRepayment data :=
    if data = authored_calls.close.abi_encode sample_hash then some authored_calls.close else none
  settleDirect data :=
    if data = authored_calls.claim.abi_encode sample_hash then some authored_calls.claim else none
  settleRouted _ := none
  dispatch data :=
    if data = authored_calls.dispatch_fill.abi_encode sample_hash then
      some authored_calls.dispatch_fill
    else if data = authored_calls.dispatch_repayment.abi_encode sample_hash then
      some authored_calls.dispatch_repayment
    else none
  envelope data :=
    if data = authored_calls.fill_envelope.abi_encode then some authored_calls.fill_envelope
    else if data = authored_calls.repayment_envelope.abi_encode then
      some authored_calls.repayment_envelope
    else none
  fill data := if data = authored_calls.fill.abi_encode then some authored_calls.fill else none
  repayment data :=
    if data = encode authored_calls.repayment then some authored_calls.repayment else none

theorem authored_round_trips : authored_calls.RoundTrips sample_hash authored_abi where
  deliver := by simp [authored_abi]
  claim := by simp [authored_abi]
  close := by simp [authored_abi]
  dispatch_fill := by simp [authored_abi]
  dispatch_repayment := by decide +kernel
  fill_envelope := by simp [authored_abi]
  repayment_envelope := by decide +kernel
  fill := by simp [authored_abi]
  repayment := by simp [authored_abi]

/-- The authorization of the sample. -/
def sample_authorization : DirectOrderAuthorization :=
  DirectOrderDraftBuilder.authorized sample_hash ⟨drafted_config⟩ drafted_request []

theorem sample_authorized : DirectOrderDraftBuilder.authorize sample_hash sample_recovery
    ⟨drafted_config⟩ drafted_request [] 10 = .ok sample_authorization := by
  have hauthorized : (DirectOrderDraftBuilder.authorize sample_hash sample_recovery
      ⟨drafted_config⟩ drafted_request [] 10).toOption.isSome := by
    decide +kernel
  obtain ⟨authorization, hok⟩ := Contracts.exists_of_toOption hauthorized
  obtain ⟨rfl, -⟩ := DirectOrderDraftBuilder.authorize_ok hok
  exact hok

theorem authorized_plans_accepted_sample :
    ∃ authored, sample_author.author_plans sample_authorization = .ok authored ∧
      staged_validator.validate_plan sample_hash authored_abi
        { order_id := sample_authorization.order_id, quote := drafted_quote
          role := .Destination } authored.plans.destination = .ok () ∧
      staged_validator.validate_plan sample_hash authored_abi
        { order_id := sample_authorization.order_id, quote := drafted_quote
          role := .Origin } authored.plans.origin = .ok () := by
  have hbuilder : DirectOrderDraftBuilder.new drafted_config = .ok ⟨drafted_config⟩ :=
    pass_bind (by decide) _ _
  have hauthor : AlloyDirectPlanAuthor.new authored_config 3 (abi_encoder sample_hash fun _ => []) =
      .ok sample_author := pass_bind (by decide) _ _
  obtain ⟨authored, -, -, hauthored, -, haccepted, -⟩ := authorized_plans_accepted sample_hash
    (fun _ => []) sample_recovery drafted_config ⟨drafted_config⟩ hbuilder authored_config 3
    (by decide) sample_author hauthor staged_validator staged_validator
    ⟨rfl, rfl, rfl, rfl, rfl, by decide, rfl, rfl, rfl, rfl⟩ drafted_request [] 10
    sample_authorization sample_authorized authored_source rfl rfl (by decide) rfl
    (by decide +kernel)
  exact ⟨authored, hauthored, haccepted authored_abi authored_round_trips⟩

end Sample

end Solvent
