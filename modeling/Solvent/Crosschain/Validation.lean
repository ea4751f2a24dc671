import Mathlib
import Solvent.Crosschain.Calls
import Solvent.Crosschain.Direct

/-! # Step validation

    `AlloyStepValidator` decodes the calls of a plan before the plan is kept and
    compares them with the admitted order and quote: each step by itself, then
    the delivery of a plan against its fill proof. Beside each check stands what
    it says of a call that passes it.
-/

namespace Solvent.Validation

open Abi Contract
open Contracts (Uint8 address_word uint8_word)

inductive StepValidatorError where
  | Invalid (message : String)
  deriving DecidableEq

structure AlloyStepValidator where
  operator : Address
  wrapped_native : Address
  origin_application : Option Address
  destination_application : Option Address

variable (keccak256 : Bytes → B256) (abi : Decoder)

/-! ## Checks shared by the steps -/

/-- The call that calldata decodes to. -/
def decode {Call : Type} (abi_decode : Bytes → Option Call) (calldata : Bytes) :
    Except StepValidatorError Call :=
  expect (abi_decode calldata) (.Invalid "calldata selector or ABI is invalid")

def required_application (application : Option Address) (label : String) :
    Except StepValidatorError Address :=
  match application with
  | some application =>
    if application ≠ 0 then .ok application
    else .error (.Invalid s!"{label} is not configured for proof validation")
  | none => .error (.Invalid s!"{label} is not configured for proof validation")

def proof_id (chain_id : U64) (application : Address) (order_id : B256) (kind : Uint8) : B256 :=
  keccak256 (words [u64_word chain_id, address_word application, order_id, uint8_word kind])

def validate_encoded_word (encoded : Bytes) (label : String) : Except StepValidatorError B256 := do
  require (encoded.length = 32) (.Invalid s!"{label} must be exactly one ABI bytes32 word")
  expect (read_word encoded) (.Invalid s!"{label} ABI is invalid")

def validate_proof_id (encoded : Bytes) (expected : B256) (label : String) :
    Except StepValidatorError Unit := do
  let actual ← validate_encoded_word encoded label
  require (actual = expected) (.Invalid s!"{label} ID does not match the admitted order")

def route_word : CrossChainRoute → Uint8
  | .Direct => 1
  | .Cctp => 0

def validate_order (context : StepValidationContext) (step : PreparedStep)
    (order : SolventCrossChainOrder) (operator : Address) : Except StepValidatorError Unit := do
  require (order.eip712_hash_struct keccak256 = context.order_id.hash ∧
      order.originChainId = u64_word context.quote.origin.local_chain.id ∧
      order.destinationChainId = u64_word context.quote.destination.local_chain.id ∧
      order.inputToken = context.quote.origin.input_token ∧
      order.inputAmount = context.quote.amount_in ∧
      order.outputToken = context.quote.destination.output_token ∧
      order.minimumOutputAmount = context.quote.amount_out ∧
      order.routeKind = route_word context.quote.origin.route)
    (.Invalid "settlement order does not match aggregate terms")
  match step.command with
  | .Deliver =>
    require (order.destinationSettler = step.target ∧ order.exclusiveFiller = operator)
      (.Invalid "destination settlement authority does not match this service")
  | .ClaimOrigin =>
    require (order.originSettler = step.target)
      (.Invalid "origin settlement authority does not match this service")
  | _ => .ok ()

def validate_mandate (context : StepValidationContext) (order : SolventCrossChainOrder)
    (mandate : SolventMandate) : Except StepValidatorError Unit :=
  require (mandate.orderId = context.order_id.hash ∧
      mandate.destinationChainId = order.destinationChainId ∧
      mandate.destinationSettler = order.destinationSettler ∧
      mandate.fillProofVerifier = order.fillProofVerifier ∧
      mandate.outputToken = order.outputToken ∧
      mandate.minimumOutputAmount = order.minimumOutputAmount ∧
      mandate.recipient = order.recipient ∧ mandate.fillDeadline = order.fillDeadline ∧
      mandate.exclusiveFiller = order.exclusiveFiller ∧ mandate.routeKind = order.routeKind)
    (.Invalid "mandate does not match the settlement order")

/-- The token that must be reserved: the wrapped token for native delivery. -/
def reserve_token (context : StepValidationContext) (wrapped_native : Address) :
    Except StepValidatorError Address :=
  if context.quote.destination.output_token = 0 then
    if wrapped_native = 0 then
      .error (.Invalid "native delivery requires a configured wrapped-native token")
    else .ok wrapped_native
  else .ok context.quote.destination.output_token

def validate_destination_source (context : StepValidationContext) (maker : Address)
    (strategy_hash : B256) (amount : U256) (wrapped_native : Address) :
    Except StepValidatorError Unit :=
  match context.quote.destination.sources with
  | [source] => do
    let token ← reserve_token context wrapped_native
    require (source.maker.address = maker ∧ source.strategy_hash.hash = strategy_hash ∧
        source.token = token ∧ source.amount = amount)
      (.Invalid "destination maker source does not match the locally issued quote")
  | _ => .error (.Invalid "destination settlement requires exactly one quoted maker source")

def validate_origin_swap_source (context : StepValidationContext) (maker_order : SwapOrder) :
    Except StepValidatorError Unit :=
  match context.quote.origin.sources with
  | [source] =>
    require (source.maker.address = maker_order.maker ∧
        source.strategy_hash.hash = keccak256 (swap_order_encode maker_order) ∧
        source.token = context.quote.origin.output_token ∧
        source.amount = context.quote.origin.amount_out)
      (.Invalid "origin swap source does not match the locally issued quote")
  | _ => .error (.Invalid "routed origin settlement requires exactly one quoted maker source")

/-! ## Envelopes -/

def decode_envelope (encoded : Bytes) (kind : Uint8) : Except StepValidatorError ProofEnvelope := do
  let envelope ← expect (abi.envelope encoded) (.Invalid "proof envelope ABI is invalid")
  require (envelope.abi_encode = encoded ∧ envelope.version = 1 ∧ envelope.kind = kind)
    (.Invalid "proof envelope is not canonical for its command")
  .ok envelope

def decode_fill (encoded : Bytes) : Except StepValidatorError VerifiedFill := do
  let fill ← expect (abi.fill encoded) (.Invalid "verified fill ABI is invalid")
  require (fill.abi_encode = encoded) (.Invalid "verified fill payload is not canonical ABI")
  .ok fill

def decode_repayment (encoded : Bytes) : Except StepValidatorError VerifiedRepayment := do
  let repayment ← expect (abi.repayment encoded) (.Invalid "verified repayment ABI is invalid")
  require (encode repayment = encoded) (.Invalid "verified repayment payload is not canonical ABI")
  .ok repayment

def validate_fill_envelope (context : StepValidationContext) (encoded : Bytes)
    (destination_application : Option Address) : Except StepValidatorError Unit := do
  let envelope ← decode_envelope abi encoded 0
  let fill ← decode_fill abi envelope.payload
  let application ← required_application destination_application "destination application"
  match context.quote.destination.sources with
  | [source] =>
    let (repayment_token, repayment_amount, max_cctp_fee) :=
      match context.quote.origin.route with
      | .Direct => (context.quote.origin.input_token, context.quote.amount_in, 0)
      | .Cctp => (context.quote.destination.input_token, context.quote.destination.amount_in,
          context.quote.bridge_fee)
    let expected_id := proof_id keccak256 context.quote.destination.local_chain.id application
      context.order_id.hash 0
    require (fill.orderId = context.order_id.hash ∧
        fill.routeKind = route_word context.quote.origin.route ∧
        fill.destinationChainId = u64_word context.quote.destination.local_chain.id ∧
        fill.destinationApp = application ∧
        fill.outputToken = context.quote.destination.output_token ∧
        fill.outputAmount = context.quote.amount_out ∧
        fill.destinationMaker = source.maker.address ∧
        fill.destinationStrategyHash = source.strategy_hash.hash ∧
        fill.repaymentToken = repayment_token ∧ fill.repaymentAmount = repayment_amount ∧
        fill.maxCctpFee = max_cctp_fee ∧ fill.makerQuoteHash ≠ 0 ∧ fill.fillId = expected_id)
      (.Invalid "fill proof does not match the admitted order and quote")
  | _ => .error (.Invalid "fill proof requires exactly one destination reservation source")

def validate_repayment_envelope (context : StepValidationContext) (encoded : Bytes)
    (origin_application : Option Address) : Except StepValidatorError Unit := do
  let envelope ← decode_envelope abi encoded 1
  let repayment ← decode_repayment abi envelope.payload
  let application ← required_application origin_application "origin application"
  match context.quote.destination.sources with
  | [source] =>
    let expected_id := proof_id keccak256 context.quote.origin.local_chain.id application
      context.order_id.hash 1
    require (repayment.orderId = context.order_id.hash ∧
        repayment.originChainId = u64_word context.quote.origin.local_chain.id ∧
        repayment.originSettler = application ∧ repayment.maker = source.maker.address ∧
        repayment.repaymentToken = context.quote.origin.input_token ∧
        repayment.repaymentAmount = context.quote.amount_in ∧
        repayment.repaymentId = expected_id)
      (.Invalid "repayment proof does not match the admitted order and quote")
  | _ => .error (.Invalid "repayment proof requires exactly one destination reservation source")

/-! ## Steps and plans -/

/-- The proof a claim must carry: the id of the order's fill. -/
def validate_fill_proof (context : StepValidationContext) (order : SolventCrossChainOrder)
    (fillProof : Bytes) : Except StepValidatorError Unit :=
  validate_proof_id fillProof
    (proof_id keccak256 context.quote.destination.local_chain.id order.destinationSettler
      context.order_id.hash 0)
    "fill proof"

namespace AlloyStepValidator

variable (validator : AlloyStepValidator)

def validate_applications (order : SolventCrossChainOrder) : Except StepValidatorError Unit := do
  let origin ← required_application validator.origin_application "origin application"
  let destination ←
    required_application validator.destination_application "destination application"
  require (order.originSettler = origin ∧ order.destinationSettler = destination)
    (.Invalid "settlement applications do not match this service configuration")

def validate_call (context : StepValidationContext) (step : PreparedStep) :
    RemoteCommand → CrossChainRoute → Except StepValidatorError Unit
  | .Deliver, .Direct => do
    let call ← decode abi.fillDirect step.calldata
    validate_order keccak256 context step call.order validator.operator
    validate_mandate context call.order call.mandate
    require (call.quote.orderId = context.order_id.hash ∧
        call.quote.outputAmount = context.quote.amount_out ∧
        call.quote.repaymentAmount = context.quote.amount_in)
      (.Invalid "direct maker quote does not match aggregate terms")
    validate_destination_source context call.quote.maker call.quote.destinationStrategyHash
      call.quote.outputAmount validator.wrapped_native
  | .Deliver, .Cctp => do
    let call ← decode abi.fillCredit step.calldata
    validate_order keccak256 context step call.order validator.operator
    validate_mandate context call.order call.mandate
    require (call.quote.orderId = context.order_id.hash ∧
        call.quote.outputAmount = context.quote.amount_out ∧
        call.quote.usdcDue = context.quote.destination.amount_in ∧
        call.quote.maxCctpFee = context.quote.bridge_fee)
      (.Invalid "credit maker quote does not match aggregate terms")
    validate_destination_source context call.quote.maker call.quote.destinationStrategyHash
      call.quote.outputAmount validator.wrapped_native
  | .ClaimOrigin, .Direct => do
    let call ← decode abi.settleDirect step.calldata
    validator.validate_applications call.order
    validate_order keccak256 context step call.order validator.operator
    validate_mandate context call.order call.mandate
    validate_fill_proof keccak256 context call.order call.fillProof
  | .ClaimOrigin, .Cctp => do
    let call ← decode abi.settleRouted step.calldata
    validator.validate_applications call.order
    validate_order keccak256 context step call.order validator.operator
    validate_mandate context call.order call.mandate
    validate_origin_swap_source keccak256 context call.makerOrder
    validate_fill_proof keccak256 context call.order call.fillProof
  | .DispatchFillProof, _ => do
    let call ← decode abi.dispatch step.calldata
    require (call.orderId = context.order_id.hash)
      (.Invalid "proof dispatch is bound to another order")
    validate_fill_envelope keccak256 abi context call.envelope validator.destination_application
  | .DispatchRepayment, .Direct => do
    let call ← decode abi.dispatch step.calldata
    require (call.orderId = context.order_id.hash)
      (.Invalid "proof dispatch is bound to another order")
    validate_repayment_envelope keccak256 abi context call.envelope validator.origin_application
  | .DispatchRepayment, .Cctp =>
    .error (.Invalid "CCTP routes do not dispatch direct repayment proofs")
  | .CloseDestination, .Direct => do
    let call ← decode abi.confirmDirectRepayment step.calldata
    require (call.orderId = context.order_id.hash)
      (.Invalid "direct repayment close is bound to another order")
    let origin_application ←
      required_application validator.origin_application "origin application"
    validate_proof_id call.repaymentProof
      (proof_id keccak256 context.quote.origin.local_chain.id origin_application
        context.order_id.hash 1)
      "repayment proof"
  | .CloseDestination, .Cctp => do
    let call ← decode abi.completeRepayment step.calldata
    require (call.orderId = context.order_id.hash)
      (.Invalid "CCTP completion is bound to another order")

def validate (context : StepValidationContext) (step : PreparedStep) :
    Except StepValidatorError Unit := do
  require (step.value = 0)
    (.Invalid "staged native value must be zero; submission materializes bridge fees")
  validator.validate_call keccak256 abi context step step.command context.quote.origin.route

/-- The delivery of a plan against its fill proof, where the plan has both. -/
def validate_plan_proofs (context : StepValidationContext) (plan : ChainExecutionPlan) :
    Except StepValidatorError Unit :=
  match plan.steps.find? (fun step => step.command = .Deliver),
    plan.steps.find? (fun step => step.command = .DispatchFillProof) with
  | some deliver, some dispatch => do
    let dispatch ← decode abi.dispatch dispatch.calldata
    let envelope ← decode_envelope abi dispatch.envelope 0
    let fill ← decode_fill abi envelope.payload
    let destination_application ←
      required_application validator.destination_application "destination application"
    let domain := app_domain keccak256 context.quote.destination.local_chain.id
      destination_application
    match context.quote.origin.route with
    | .Direct => do
      let call ← decode abi.fillDirect deliver.calldata
      validator.validate_applications call.order
      require (fill.recipient = call.order.recipient ∧
          fill.originStrategyHash = call.quote.originStrategyHash ∧
          fill.makerQuoteHash =
            typed_data_hash keccak256 domain (direct_quote_hash keccak256 call.quote))
        (.Invalid "fill proof does not match the signed direct delivery terms")
    | .Cctp => do
      let call ← decode abi.fillCredit deliver.calldata
      validator.validate_applications call.order
      require (fill.recipient = call.order.recipient ∧ fill.originStrategyHash = 0 ∧
          fill.makerQuoteHash =
            typed_data_hash keccak256 domain (credit_quote_hash keccak256 call.quote))
        (.Invalid "fill proof does not match the signed credit delivery terms")
  | _, _ => .ok ()

def validate_plan (context : StepValidationContext) (plan : ChainExecutionPlan) :
    Except StepValidatorError Unit := do
  plan.steps.forM (validator.validate keccak256 abi context)
  validator.validate_plan_proofs keccak256 abi context plan

end AlloyStepValidator

/-! ## What a call that passes looks like -/

section Inversion

variable {keccak256 abi} {validator : AlloyStepValidator} {context : StepValidationContext}
  {step : PreparedStep} {plan : ChainExecutionPlan}

theorem required_application_ok {application : Option Address} {label : String} {a : Address}
    (h : required_application application label = .ok a) : application = some a ∧ a ≠ 0 := by
  unfold required_application at h
  split at h
  · split at h
    · rename_i hne
      obtain rfl := Except.ok.inj h
      exact ⟨rfl, hne⟩
    · cases h
  · cases h

/-- A proof that passes is the expected id as one word. -/
theorem validate_proof_id_ok {encoded : Bytes} {expected : B256} {label : String}
    (h : validate_proof_id encoded expected label = .ok ()) : encoded = word expected := by
  unfold validate_proof_id at h
  obtain ⟨actual, hword, h⟩ := Except.bind_eq_ok.mp h
  obtain rfl := require_eq_ok.mp h
  unfold validate_encoded_word at hword
  obtain ⟨hlength, hword⟩ := require_bind.mp hword
  exact eq_word hlength (expect_eq_ok.mp hword)

theorem decode_envelope_ok {encoded : Bytes} {kind : Uint8} {envelope : ProofEnvelope}
    (h : decode_envelope abi encoded kind = .ok envelope) :
    encoded = { version := 1, kind, payload := envelope.payload : ProofEnvelope }.abi_encode := by
  unfold decode_envelope at h
  obtain ⟨decoded, -, h⟩ := expect_bind.mp h
  obtain ⟨⟨hcanonical, hversion, hkind⟩, h⟩ := require_bind.mp h
  obtain rfl := Except.ok.inj h
  rw [← hcanonical, ← hversion, ← hkind]

theorem decode_fill_ok {encoded : Bytes} {fill : VerifiedFill}
    (h : decode_fill abi encoded = .ok fill) : encoded = fill.abi_encode := by
  unfold decode_fill at h
  obtain ⟨decoded, -, h⟩ := expect_bind.mp h
  obtain ⟨hcanonical, h⟩ := require_bind.mp h
  obtain rfl := Except.ok.inj h
  exact hcanonical.symm

theorem decode_repayment_ok {encoded : Bytes} {repayment : VerifiedRepayment}
    (h : decode_repayment abi encoded = .ok repayment) : encoded = encode repayment := by
  unfold decode_repayment at h
  obtain ⟨decoded, -, h⟩ := expect_bind.mp h
  obtain ⟨hcanonical, h⟩ := require_bind.mp h
  obtain rfl := Except.ok.inj h
  exact hcanonical.symm

theorem validate_destination_source_ok {maker : Address} {strategy_hash : B256} {amount : U256}
    {wrapped_native : Address}
    (h : validate_destination_source context maker strategy_hash amount wrapped_native = .ok ()) :
    ∃ source, context.quote.destination.sources = [source] ∧ source.maker.address = maker ∧
      source.strategy_hash.hash = strategy_hash ∧ source.amount = amount := by
  unfold validate_destination_source at h
  split at h
  · rename_i source hsources
    obtain ⟨token, -, h⟩ := Except.bind_eq_ok.mp h
    obtain ⟨hmaker, hstrategy, -, hamount⟩ := require_eq_ok.mp h
    exact ⟨source, hsources, hmaker, hstrategy, hamount⟩
  · cases h

/-- Every step of an accepted plan is accepted. -/
theorem validate_plan_ok (h : validator.validate_plan keccak256 abi context plan = .ok ()) :
    (∀ step ∈ plan.steps, validator.validate_call keccak256 abi context step step.command
        context.quote.origin.route = .ok ()) ∧
      validator.validate_plan_proofs keccak256 abi context plan = .ok () := by
  unfold AlloyStepValidator.validate_plan at h
  obtain ⟨⟨⟩, hsteps, hproofs⟩ := Except.bind_eq_ok.mp h
  refine ⟨?_, hproofs⟩
  generalize plan.steps = steps at hsteps
  induction steps with
  | nil => simp
  | cons step steps ih =>
    obtain ⟨⟨⟩, hfirst, hrest⟩ := Except.bind_eq_ok.mp hsteps
    rw [List.forall_mem_cons]
    exact ⟨(require_bind.mp hfirst).2, ih hrest⟩

/-! ## What passes -/

theorem required_application_some {a : Address} (h : a ≠ 0) (label : String) :
    required_application (some a) label = .ok a := by
  unfold required_application
  exact if_pos h

theorem validate_proof_id_word (id : B256) (label : String) :
    validate_proof_id (word id) id label = .ok () := by
  have hread : read_word (word id) = some id := by
    have := read_word_append id []
    rwa [List.append_nil] at this
  unfold validate_proof_id validate_encoded_word
  rw [pass_bind (length_word id), hread]
  exact require_of rfl _

/-- An envelope that decodes to what was encoded is canonical. -/
theorem decode_envelope_encoded {envelope : ProofEnvelope} {kind : Uint8}
    (h : abi.envelope envelope.abi_encode = some envelope) (hversion : envelope.version = 1)
    (hkind : envelope.kind = kind) : decode_envelope abi envelope.abi_encode kind = .ok envelope := by
  unfold decode_envelope
  rw [h, expect_some_bind]
  exact pass_bind ⟨rfl, hversion, hkind⟩ _ _

theorem decode_fill_encoded {fill : VerifiedFill} (h : abi.fill fill.abi_encode = some fill) :
    decode_fill abi fill.abi_encode = .ok fill := by
  unfold decode_fill
  rw [h, expect_some_bind]
  exact pass_bind rfl _ _

theorem decode_repayment_encoded {repayment : VerifiedRepayment}
    (h : abi.repayment (encode repayment) = some repayment) :
    decode_repayment abi (encode repayment) = .ok repayment := by
  unfold decode_repayment
  rw [h, expect_some_bind]
  exact pass_bind rfl _ _

theorem validate_of_call (hvalue : step.value = 0)
    (h : validator.validate_call keccak256 abi context step step.command
      context.quote.origin.route = .ok ()) :
    validator.validate keccak256 abi context step = .ok () := by
  unfold AlloyStepValidator.validate
  rw [pass_bind hvalue]
  exact h

/-- A plan whose steps and proofs pass is accepted. -/
theorem validate_plan_of (hsteps : ∀ step ∈ plan.steps,
      validator.validate keccak256 abi context step = .ok ())
    (hproofs : validator.validate_plan_proofs keccak256 abi context plan = .ok ()) :
    validator.validate_plan keccak256 abi context plan = .ok () := by
  unfold AlloyStepValidator.validate_plan
  refine Except.bind_eq_ok.mpr ⟨(), ?_, hproofs⟩
  generalize plan.steps = steps at hsteps
  induction steps with
  | nil => rfl
  | cons step steps ih =>
    rw [List.forall_mem_cons] at hsteps
    exact Except.bind_eq_ok.mpr ⟨(), hsteps.1, ih hsteps.2⟩

end Inversion

end Solvent.Validation
