import Mathlib
import Solvent.Contracts.Closing
import Solvent.Crosschain.Validation

/-! # Staged proofs are the recorded proofs

    The proof envelopes of a direct plan are authored before the fill exists. An
    accepted plan has fixed every field of them: the steps fix what the quote and
    the order fix, the plan fixes what only the signed delivery fixes, and the
    rest are the two applications and their chains. What the contracts record
    when they execute the plan is therefore what was staged, byte for byte.
-/

namespace Solvent.Validation

open Abi Contract
open Contracts (Deployment World Action CcipProofInbox CcipProofOutbox)
open Contracts.CrossChainAquaApp (direct_fill)
open Contracts.CompactOriginSettler (recorded_repayment)
open Contracts.CrossChainHashLib (hashOrder)

/-- The applications a service is configured with stand at those addresses on the
    chains of the quote. -/
structure Deployed (d : Deployment) (admitted : AggregateQuote)
    (validator : AlloyStepValidator) : Prop where
  origin_application : validator.origin_application = some d.settler.this
  destination_application : validator.destination_application = some d.app.this
  origin_chain : d.settler.chainid = u64_word admitted.origin.local_chain.id
  destination_chain : d.app.chainid = u64_word admitted.destination.local_chain.id

/-- One step per command. -/
def OneEach (plan : ChainExecutionPlan) : Prop := (plan.steps.map PreparedStep.command).Nodup

instance (plan : ChainExecutionPlan) : Decidable (OneEach plan) :=
  inferInstanceAs (Decidable (List.Nodup _))

theorem OneEach.find {plan : ChainExecutionPlan} (h : OneEach plan) {step : PreparedStep}
    {command : RemoteCommand} (hmem : step ∈ plan.steps) (hcommand : step.command = command) :
    plan.steps.find? (fun step => step.command = command) = some step := by
  unfold OneEach at h
  subst hcommand
  generalize plan.steps = steps at h hmem
  induction steps with
  | nil => cases hmem
  | cons first rest ih =>
    rw [List.map_cons, List.nodup_cons] at h
    rcases List.mem_cons.mp hmem with rfl | hmem
    · simp
    · have hne : first.command ≠ step.command := fun heq =>
        h.1 (heq ▸ List.mem_map_of_mem hmem)
      rw [List.find?_cons_of_neg (by simpa using hne)]
      exact ih h.2 hmem

/-! ## The delivery -/

/-- The terms that an accepted direct delivery takes from the order and quote. -/
structure Delivery (keccak256 : Bytes → B256) (order_id : CrossChainOrderId)
    (admitted : AggregateQuote) (order : Contracts.SolventCrossChainOrder)
    (quote : Contracts.DirectMakerQuote) : Prop where
  order_id : hashOrder keccak256 order = order_id.hash
  input_token : order.inputToken = admitted.origin.input_token
  input_amount : order.inputAmount = admitted.amount_in
  output_token : order.outputToken = admitted.destination.output_token
  output_amount : quote.outputAmount = admitted.amount_out
  repayment_amount : quote.repaymentAmount = admitted.amount_in
  source : ∃ source, admitted.destination.sources = [source] ∧
    source.maker.address = quote.maker ∧
    source.strategy_hash.hash = quote.destinationStrategyHash

section Accepted

variable {keccak256 : Bytes → B256} {abi : Decoder} {chain : Calldata}
  {context : StepValidationContext} {validator : AlloyStepValidator} {d : Deployment}
  {step : PreparedStep} {order : Contracts.SolventCrossChainOrder}
  {mandate : Contracts.SolventMandate} {quote : Contracts.DirectMakerQuote}
  {makerSignature : Bytes}

/-- An accepted delivery has the terms of the order and the quote. -/
theorem delivery_of_accepted (hagree : Agree abi chain)
    (h : validator.validate_call keccak256 abi context step .Deliver .Direct = .ok ())
    (hread : chain.fillDirect step.calldata = some (order, mandate, quote, makerSignature)) :
    Delivery keccak256 context.order_id context.quote order quote := by
  unfold AlloyStepValidator.validate_call decode at h
  obtain ⟨call, hcall, h⟩ := expect_bind.mp h
  obtain rfl := hagree.fillDirect hcall hread
  obtain ⟨⟨⟩, horder, h⟩ := Except.bind_eq_ok.mp h
  obtain ⟨⟨⟩, -, h⟩ := Except.bind_eq_ok.mp h
  obtain ⟨⟨-, houtput, hrepayment⟩, hsource⟩ := require_bind.mp h
  unfold validate_order at horder
  obtain ⟨⟨hid, -, -, hinput, hamount, htoken, -, -⟩, -⟩ := require_bind.mp horder
  obtain ⟨source, hsources, hmaker, hstrategy, -⟩ := validate_destination_source_ok hsource
  rw [SolventCrossChainOrder.eip712_hash_struct_of] at hid
  exact ⟨hid, hinput, hamount, htoken, houtput, hrepayment, source, hsources, hmaker, hstrategy⟩

/-- A step of an accepted direct plan passes its own check. -/
theorem accepted_step {plan : ChainExecutionPlan}
    (h : validator.validate_plan keccak256 abi context plan = .ok ())
    (hroute : context.quote.origin.route = .Direct) (hstep : step ∈ plan.steps)
    {command : RemoteCommand} (hcommand : step.command = command) :
    validator.validate_call keccak256 abi context step command .Direct = .ok () := by
  have hcall := (validate_plan_ok h).1 step hstep
  rwa [hcommand, hroute] at hcall

/-! ## The fill -/

/-- The ids of the services are the ids of the contracts. -/
theorem Deployed.fill_id (hdeployed : Deployed d context.quote validator) (order_id : B256) :
    proof_id keccak256 context.quote.destination.local_chain.id d.app.this order_id 0 =
      keccak256 (Contracts.CrossChainAquaApp.fill_id_bytes d.app order_id) := by
  unfold proof_id Contracts.CrossChainAquaApp.fill_id_bytes
  rw [hdeployed.destination_chain]
  rfl

theorem Deployed.repayment_id (hdeployed : Deployed d context.quote validator) (order_id : B256) :
    proof_id keccak256 context.quote.origin.local_chain.id d.settler.this order_id 1 =
      keccak256 (Contracts.CompactOriginSettler.repayment_id_bytes d.settler order_id) := by
  unfold proof_id Contracts.CompactOriginSettler.repayment_id_bytes
  rw [hdeployed.origin_chain]
  rfl

/-- A fill envelope of the services and one of the contracts are the same bytes. -/
theorem fill_envelope_bytes (fill : Contracts.VerifiedFill) :
    { version := 1, kind := 0, payload := (VerifiedFill.of fill).abi_encode :
      ProofEnvelope }.abi_encode = Contracts.ProofHashLib.encode .Fill (encode fill) := by
  rw [VerifiedFill.abi_encode_of]
  rfl

theorem repayment_envelope_bytes (repayment : Contracts.VerifiedRepayment) :
    { version := 1, kind := 1, payload := encode repayment : ProofEnvelope }.abi_encode =
      Contracts.ProofHashLib.encode .DirectRepayment (encode repayment) := rfl

/-- **Every field of a staged fill is fixed.** The dispatch step and the plan
    accept one fill for a delivery: the one the application records. -/
theorem fill_staged (hagree : Agree abi chain) (hdeployed : Deployed d context.quote validator)
    (hroute : context.quote.origin.route = .Direct) {plan : ChainExecutionPlan}
    (h : validator.validate_plan keccak256 abi context plan = .ok ()) (hone : OneEach plan)
    {deliver dispatch : PreparedStep} (hdeliver : deliver ∈ plan.steps)
    (hdeliver_command : deliver.command = .Deliver)
    (hread : chain.fillDirect deliver.calldata = some (order, mandate, quote, makerSignature))
    (hdispatch : dispatch ∈ plan.steps)
    (hdispatch_command : dispatch.command = .DispatchFillProof) {orderId : B256} {envelope : Bytes}
    (hsent : chain.dispatch dispatch.calldata = some (orderId, envelope)) :
    orderId = context.order_id.hash ∧
      envelope = Contracts.ProofHashLib.encode .Fill (encode (direct_fill keccak256 d.app order quote)) := by
  have hproofs := (validate_plan_ok h).2
  have hdelivery := delivery_of_accepted hagree
    (accepted_step h hroute hdeliver hdeliver_command) hread
  have hstep := accepted_step h hroute hdispatch hdispatch_command
  unfold AlloyStepValidator.validate_plan_proofs at hproofs
  rw [hone.find hdeliver hdeliver_command, hone.find hdispatch hdispatch_command] at hproofs
  -- The dispatch step by itself.
  unfold AlloyStepValidator.validate_call decode at hstep
  obtain ⟨call, hcall, hstep⟩ := expect_bind.mp hstep
  obtain ⟨hid, hstep⟩ := require_bind.mp hstep
  unfold validate_fill_envelope at hstep
  obtain ⟨staged, henvelope, hstep⟩ := Except.bind_eq_ok.mp hstep
  obtain ⟨fill, hfill, hstep⟩ := Except.bind_eq_ok.mp hstep
  obtain ⟨application, happlication, hstep⟩ := Except.bind_eq_ok.mp hstep
  obtain ⟨happ, -⟩ := required_application_ok happlication
  rw [hdeployed.destination_application] at happ
  obtain rfl := Option.some.inj happ
  obtain ⟨source, hsources, hmaker, hstrategy⟩ := hdelivery.source
  rw [hsources, hroute] at hstep
  obtain ⟨horder, hkind, hchain, hthis, htoken, hamount, hmaker', hstrategy', hrepay, hrepaid, hfee, -,
    hfillId⟩ := require_eq_ok.mp hstep
  -- The plan, on the same envelope and the signed delivery.
  rw [hroute] at hproofs
  unfold decode at hproofs
  obtain ⟨call', hcall', hproofs⟩ := expect_bind.mp hproofs
  obtain rfl := Option.some.inj (hcall.symm.trans hcall')
  obtain ⟨staged', henvelope', hproofs⟩ := Except.bind_eq_ok.mp hproofs
  obtain rfl := Except.ok.inj (henvelope.symm.trans henvelope')
  obtain ⟨fill', hfill', hproofs⟩ := Except.bind_eq_ok.mp hproofs
  obtain rfl := Except.ok.inj (hfill.symm.trans hfill')
  obtain ⟨application', happlication', hproofs⟩ := Except.bind_eq_ok.mp hproofs
  obtain rfl := Except.ok.inj (happlication.symm.trans happlication')
  obtain ⟨delivered, hdelivered, hproofs⟩ := expect_bind.mp hproofs
  obtain rfl := hagree.fillDirect hdelivered hread
  obtain ⟨⟨⟩, -, hproofs⟩ := Except.bind_eq_ok.mp hproofs
  obtain ⟨hrecipient, horigin, hdigest⟩ := require_eq_ok.mp hproofs
  rw [typed_data_hash_direct keccak256 d.app hdeployed.destination_chain] at hdigest
  obtain rfl := hagree.dispatch hcall hsent
  refine ⟨hid, ?_⟩
  have hfields : fill = .of (direct_fill keccak256 d.app order quote) :=
    VerifiedFill.ext (horder.trans hdelivery.order_id.symm) hkind
      (hchain.trans hdeployed.destination_chain.symm) hthis hrecipient
      (htoken.trans hdelivery.output_token.symm) (hamount.trans hdelivery.output_amount.symm)
      (hmaker'.trans hmaker) (hstrategy'.trans hstrategy) horigin
      (hrepay.trans hdelivery.input_token.symm)
      (hrepaid.trans hdelivery.repayment_amount.symm) hfee hdigest
      (hfillId.trans ((hdeployed.fill_id _).trans (by rw [← hdelivery.order_id]; rfl)))
  have hbytes := decode_envelope_ok henvelope
  rw [decode_fill_ok hfill, hfields] at hbytes
  exact hbytes.trans (fill_envelope_bytes _)

/-! ## The claim, the repayment and the close -/

/-- **The staged claim proves the fill by its id**, for the same order. -/
theorem claim_staged (hagree : Agree abi chain) (hdeployed : Deployed d context.quote validator)
    (h : validator.validate_call keccak256 abi context step .ClaimOrigin .Direct = .ok ())
    {fillProof : Bytes} {compactClaim : Contracts.Claim}
    (hread : chain.settleDirect step.calldata = some (order, mandate, fillProof, compactClaim)) :
    hashOrder keccak256 order = context.order_id.hash ∧
      fillProof = word (keccak256
        (Contracts.CrossChainAquaApp.fill_id_bytes d.app context.order_id.hash)) := by
  unfold AlloyStepValidator.validate_call decode at h
  obtain ⟨call, hcall, h⟩ := expect_bind.mp h
  obtain rfl := hagree.settleDirect hcall hread
  obtain ⟨⟨⟩, happlications, h⟩ := Except.bind_eq_ok.mp h
  obtain ⟨⟨⟩, horder, h⟩ := Except.bind_eq_ok.mp h
  obtain ⟨⟨⟩, -, hproof⟩ := Except.bind_eq_ok.mp h
  unfold validate_order at horder
  obtain ⟨⟨hid, -⟩, -⟩ := require_bind.mp horder
  rw [SolventCrossChainOrder.eip712_hash_struct_of] at hid
  refine ⟨hid, ?_⟩
  unfold AlloyStepValidator.validate_applications at happlications
  obtain ⟨origin, -, happlications⟩ := Except.bind_eq_ok.mp happlications
  obtain ⟨destination, hdestination, happlications⟩ := Except.bind_eq_ok.mp happlications
  obtain ⟨-, hsettler⟩ := require_eq_ok.mp happlications
  obtain ⟨happ, -⟩ := required_application_ok hdestination
  rw [hdeployed.destination_application] at happ
  obtain rfl := Option.some.inj happ
  have hbytes := validate_proof_id_ok hproof
  rw [hsettler, hdeployed.fill_id] at hbytes
  exact hbytes

/-- **Every field of a staged repayment is fixed**: it is the one the settler
    records for the delivery's fill. -/
theorem repayment_staged (hagree : Agree abi chain) (hdeployed : Deployed d context.quote validator)
    (hdelivery : Delivery keccak256 context.order_id context.quote order quote)
    (h : validator.validate_call keccak256 abi context step .DispatchRepayment .Direct = .ok ())
    {orderId : B256} {envelope : Bytes}
    (hsent : chain.dispatch step.calldata = some (orderId, envelope)) :
    orderId = context.order_id.hash ∧
      envelope = Contracts.ProofHashLib.encode .DirectRepayment (encode
        (recorded_repayment keccak256 d.settler context.order_id.hash
          (direct_fill keccak256 d.app order quote))) := by
  unfold AlloyStepValidator.validate_call decode at h
  obtain ⟨call, hcall, h⟩ := expect_bind.mp h
  obtain rfl := hagree.dispatch hcall hsent
  obtain ⟨hid, h⟩ := require_bind.mp h
  refine ⟨hid, ?_⟩
  unfold validate_repayment_envelope at h
  obtain ⟨staged, henvelope, h⟩ := Except.bind_eq_ok.mp h
  obtain ⟨repayment, hrepayment, h⟩ := Except.bind_eq_ok.mp h
  obtain ⟨application, happlication, h⟩ := Except.bind_eq_ok.mp h
  obtain ⟨happ, -⟩ := required_application_ok happlication
  rw [hdeployed.origin_application] at happ
  obtain rfl := Option.some.inj happ
  obtain ⟨source, hsources, hmaker, -⟩ := hdelivery.source
  rw [hsources] at h
  obtain ⟨horder, hchain, hthis, hmaker', htoken, hamount, hrepaymentId⟩ := require_eq_ok.mp h
  have hfields : repayment = recorded_repayment keccak256 d.settler context.order_id.hash
      (direct_fill keccak256 d.app order quote) :=
    Contracts.VerifiedRepayment.ext horder (hchain.trans hdeployed.origin_chain.symm) hthis
      (hmaker'.trans hmaker) (htoken.trans hdelivery.input_token.symm)
      (hamount.trans hdelivery.repayment_amount.symm)
      (hrepaymentId.trans (hdeployed.repayment_id _))
  have hbytes := decode_envelope_ok henvelope
  rw [decode_repayment_ok hrepayment, hfields] at hbytes
  exact hbytes.trans (repayment_envelope_bytes _)

/-- **The staged close proves the repayment by its id.** -/
theorem close_staged (hagree : Agree abi chain) (hdeployed : Deployed d context.quote validator)
    (h : validator.validate_call keccak256 abi context step .CloseDestination .Direct = .ok ())
    {orderId : B256} {repaymentProof : Bytes}
    (hread : chain.confirmDirectRepayment step.calldata = some (orderId, repaymentProof)) :
    orderId = context.order_id.hash ∧
      repaymentProof = word (keccak256 (Contracts.CompactOriginSettler.repayment_id_bytes d.settler
        context.order_id.hash)) := by
  unfold AlloyStepValidator.validate_call decode at h
  obtain ⟨call, hcall, h⟩ := expect_bind.mp h
  obtain rfl := hagree.confirmDirectRepayment hcall hread
  obtain ⟨hid, h⟩ := require_bind.mp h
  refine ⟨hid, ?_⟩
  obtain ⟨application, happlication, hproof⟩ := Except.bind_eq_ok.mp h
  obtain ⟨happ, -⟩ := required_application_ok happlication
  rw [hdeployed.origin_application] at happ
  obtain rfl := Option.some.inj happ
  have hbytes := validate_proof_id_ok hproof
  rw [hdeployed.repayment_id] at hbytes
  exact hbytes

end Accepted

/-! ## Executing the staged plans -/

/-- The step with this command, if the plan has one, dispatches this envelope for
    this order. -/
def Dispatches (chain : Calldata) (plan : ChainExecutionPlan) (command : RemoteCommand)
    (orderId : B256) (envelope : Bytes) : Prop :=
  ∀ step ∈ plan.steps, step.command = command → ∀ id bytes,
    chain.dispatch step.calldata = some (id, bytes) → id = orderId ∧ bytes = envelope

/-- **Staged direct proofs are the proofs the chain records.** Both services have
    accepted their plan for one order and quote, and the delivery succeeds in a
    run of the two chains. Then the staged fill envelope is the recorded one and
    the claim's proof the id of its fill in the origin's inbox. When the claim
    succeeds too, the staged repayment envelope is the recorded one and the
    close's proof the id of that repayment in the destination's inbox. -/
theorem staged_proofs_recorded (keccak256 : Bytes → B256) (abi : Decoder) (chain : Calldata)
    (hagree : Agree abi chain) (d : Deployment)
    (hpaired : ∀ side, (d.inbox side).sourceOutbox = (d.outbox side.peer).this)
    (order_id : CrossChainOrderId) (admitted : AggregateQuote)
    (hroute : admitted.origin.route = .Direct) (destination origin : AlloyStepValidator)
    (hdestination : Deployed d admitted destination) (horigin : Deployed d admitted origin)
    (destination_plan origin_plan : ChainExecutionPlan) (hone : OneEach destination_plan)
    (hdestination_plan : destination.validate_plan keccak256 abi
      { order_id, quote := admitted, role := .Destination } destination_plan = .ok ())
    (horigin_plan : origin.validate_plan keccak256 abi
      { order_id, quote := admitted, role := .Origin } origin_plan = .ok ())
    (deliver : PreparedStep) (hdeliver : deliver ∈ destination_plan.steps)
    (hcommand : deliver.command = .Deliver) (caller : Address) (outside : Contracts.FillOutside)
    (order : Contracts.SolventCrossChainOrder) (mandate : Contracts.SolventMandate)
    (quote : Contracts.DirectMakerQuote) (makerSignature : Bytes)
    (hread : chain.fillDirect deliver.calldata = some (order, mandate, quote, makerSignature))
    (actions : List Action)
    (hadmitted : Run.Along (Contracts.step keccak256 d) (fun w a => a.Admitted d w) World.empty
      actions)
    (htold : (Run.run (Contracts.step keccak256 d) World.empty actions).Told keccak256)
    (hnamed : (Run.run (Contracts.step keccak256 d) World.empty actions).Named keccak256)
    (hdelivered : Contracts.Succeeds keccak256 d actions
      (.fillDirect caller outside order mandate quote makerSignature)) :
    let w := Run.run (Contracts.step keccak256 d) World.empty actions
    let fill := direct_fill keccak256 d.app order quote
    let envelope := Contracts.ProofHashLib.encode .Fill (encode fill)
    let repayment := recorded_repayment keccak256 d.settler order_id.hash fill
    let repayment_envelope := Contracts.ProofHashLib.encode .DirectRepayment (encode repayment)
    Contracts.Recorded keccak256 d w .destination order_id.hash envelope ∧
      Dispatches chain destination_plan .DispatchFillProof order_id.hash envelope ∧
      Contracts.TakesFill d w fill ∧
      ∀ claim ∈ origin_plan.steps, claim.command = .ClaimOrigin →
        ∀ order' mandate' fillProof compactClaim,
          chain.settleDirect claim.calldata = some (order', mandate', fillProof, compactClaim) →
          fillProof = word fill.fillId ∧
          ((w.inbox .origin).fills fill.fillId = fill →
            (w.inbox .origin).verifyFill fillProof = .ok fill) ∧
          ∀ outside', Contracts.Succeeds keccak256 d actions
              (.settleDirect outside' order' mandate' fillProof compactClaim) →
            Contracts.Recorded keccak256 d w .origin order_id.hash repayment_envelope ∧
            Dispatches chain origin_plan .DispatchRepayment order_id.hash repayment_envelope ∧
            Contracts.TakesRepayment d w repayment ∧
            ∀ close ∈ destination_plan.steps, close.command = .CloseDestination →
              ∀ id repaymentProof,
                chain.confirmDirectRepayment close.calldata = some (id, repaymentProof) →
                id = order_id.hash ∧ repaymentProof = word repayment.repaymentId ∧
                ((w.inbox .destination).repayments repayment.repaymentId = repayment →
                  (w.inbox .destination).verifyRepayment repaymentProof = .ok repayment) := by
  intro w fill envelope repayment repayment_envelope
  have hdelivery := delivery_of_accepted hagree
    (accepted_step hdestination_plan hroute hdeliver hcommand) hread
  have hid : hashOrder keccak256 order = order_id.hash := hdelivery.order_id
  have hsound : Contracts.Sound keccak256 d w :=
    Contracts.run_sound Contracts.sound_empty hadmitted htold
  obtain ⟨hmem, hfill_id, hrecorded⟩ := hsound.filled_direct hnamed hadmitted hdelivered
  rw [hid] at hrecorded
  refine ⟨hrecorded, ?_, hsound.takes_fill (hpaired .origin) htold hnamed hmem, ?_⟩
  · intro step hstep hdispatch id bytes hsent
    exact fill_staged hagree hdestination hroute hdestination_plan hone hdeliver hcommand hread
      hstep hdispatch hsent
  intro claim hclaim hclaim_command order' mandate' fillProof compactClaim hclaimed
  obtain ⟨hid', hproof⟩ := claim_staged hagree horigin
    (accepted_step horigin_plan hroute hclaim hclaim_command) hclaimed
  have hclaimed_id : fill.fillId =
      keccak256 (Contracts.CrossChainAquaApp.fill_id_bytes d.app order_id.hash) := by
    rw [← hid]
    rfl
  rw [← hclaimed_id] at hproof
  refine ⟨hproof, fun hstored => ?_, ?_⟩
  · rw [hproof]
    exact CcipProofInbox.verifies_fill hfill_id hstored
  intro outside' hsettled
  have hamount : fill.repaymentAmount = order.inputAmount :=
    hdelivery.repayment_amount.trans hdelivery.input_amount.symm
  obtain ⟨hreceipted, hpaid⟩ := hsound.settled_direct htold hnamed hadmitted hmem rfl hamount
    hsettled (hid'.trans hid.symm)
  have htakes := hsound.takes_repayment (hpaired .destination) htold hnamed hmem rfl hamount
    hreceipted
  have hrepayment_id := hnamed _ hreceipted.hashed
  rw [hid] at hpaid htakes hrepayment_id
  refine ⟨hpaid, ?_, htakes, ?_⟩
  · intro step hstep hdispatch id bytes hsent
    exact repayment_staged hagree horigin hdelivery
      (accepted_step horigin_plan hroute hstep hdispatch) hsent
  · intro close hclose hclose_command id repaymentProof hclosed
    obtain ⟨hclose_id, hclose_proof⟩ := close_staged hagree hdestination
      (accepted_step hdestination_plan hroute hclose hclose_command) hclosed
    have hclosed_id : repayment.repaymentId = keccak256
        (Contracts.CompactOriginSettler.repayment_id_bytes d.settler order_id.hash) := rfl
    rw [← hclosed_id] at hclose_proof hrepayment_id
    refine ⟨hclose_id, hclose_proof, fun hstored => ?_⟩
    rw [hclose_proof]
    exact CcipProofInbox.verifies_repayment hrepayment_id hstored

/-! A sample: one order, its two plans and their execution. -/

section Sample

open Contracts (sample_hash sample_deployment sample_order sample_mandate sample_quote sample_claim
  sample_delivery sample_settlement sample_dispatch)

def staged_order : Contracts.SolventCrossChainOrder :=
  { sample_order with minimumOutputAmount := 45, exclusiveFiller := 9 }

def staged_mandate : Contracts.SolventMandate :=
  { sample_mandate with minimumOutputAmount := 45, exclusiveFiller := 9 }

def staged_fill : Contracts.VerifiedFill :=
  direct_fill sample_hash sample_deployment.app staged_order sample_quote

def staged_repayment : Contracts.VerifiedRepayment :=
  recorded_repayment sample_hash sample_deployment.settler sample_quote.orderId staged_fill

def staged_fill_envelope : Bytes := Contracts.ProofHashLib.encode .Fill (encode staged_fill)

def staged_repayment_envelope : Bytes :=
  Contracts.ProofHashLib.encode .DirectRepayment (encode staged_repayment)

def staged_deliver : FillDirectCall where
  order := .of staged_order
  mandate := .of staged_mandate
  quote := sample_quote
  makerSignature := []

def staged_claim_call : SettleDirectCall where
  order := .of staged_order
  mandate := .of staged_mandate
  fillProof := word staged_fill.fillId
  compactClaim := { sample_claim with
    witness := Contracts.CrossChainHashLib.hashMandate sample_hash staged_mandate }

def staged_dispatch (envelope : Bytes) : DispatchCall :=
  { orderId := sample_quote.orderId, envelope }

def staged_confirm : ConfirmDirectRepaymentCall where
  orderId := sample_quote.orderId
  repaymentProof := word staged_repayment.repaymentId

/-- The decoder of a service, on the sample's bytes. -/
def staged_abi : Decoder where
  fillDirect data :=
    if data = staged_deliver.abi_encode sample_hash then some staged_deliver else none
  fillCredit _ := none
  completeRepayment _ := none
  confirmDirectRepayment data :=
    if data = staged_confirm.abi_encode sample_hash then some staged_confirm else none
  settleDirect data :=
    if data = staged_claim_call.abi_encode sample_hash then some staged_claim_call else none
  settleRouted _ := none
  dispatch data :=
    if data = (staged_dispatch staged_fill_envelope).abi_encode sample_hash then
      some (staged_dispatch staged_fill_envelope)
    else if data = (staged_dispatch staged_repayment_envelope).abi_encode sample_hash then
      some (staged_dispatch staged_repayment_envelope)
    else none
  envelope data :=
    if data = staged_fill_envelope then
      some { version := 1, kind := 0, payload := encode staged_fill }
    else if data = staged_repayment_envelope then
      some { version := 1, kind := 1, payload := encode staged_repayment }
    else none
  fill data := if data = encode staged_fill then some (.of staged_fill) else none
  repayment data := if data = encode staged_repayment then some staged_repayment else none

/-- The arguments the contracts read, on the same bytes. -/
def staged_chain : Calldata where
  fillDirect data :=
    if data = staged_deliver.abi_encode sample_hash then
      some (staged_order, staged_mandate, sample_quote, [])
    else none
  settleDirect data :=
    if data = staged_claim_call.abi_encode sample_hash then
      some (staged_order, staged_mandate, staged_claim_call.fillProof,
        staged_claim_call.compactClaim)
    else none
  dispatch data := (staged_abi.dispatch data).map fun call => (call.orderId, call.envelope)
  confirmDirectRepayment data :=
    (staged_abi.confirmDirectRepayment data).map fun call => (call.orderId, call.repaymentProof)

theorem staged_agree : Agree staged_abi staged_chain where
  fillDirect hcall hread := by
    simp only [staged_abi, staged_chain] at hcall hread
    split at hcall
    · rename_i hdata
      rw [if_pos hdata] at hread
      obtain ⟨rfl, rfl, rfl, rfl⟩ : _ = _ ∧ _ = _ ∧ _ = _ ∧ _ = _ := by simpa using hread
      exact (Option.some.inj hcall).symm
    · cases hcall
  settleDirect hcall hread := by
    simp only [staged_abi, staged_chain] at hcall hread
    split at hcall
    · rename_i hdata
      rw [if_pos hdata] at hread
      obtain ⟨rfl, rfl, rfl, rfl⟩ : _ = _ ∧ _ = _ ∧ _ = _ ∧ _ = _ := by simpa using hread
      exact (Option.some.inj hcall).symm
    · cases hcall
  dispatch hcall hread := by
    simp only [staged_chain, hcall, Option.map_some] at hread
    obtain ⟨rfl, rfl⟩ : _ = _ ∧ _ = _ := by simpa using hread
    rfl
  confirmDirectRepayment hcall hread := by
    simp only [staged_chain, hcall, Option.map_some] at hread
    obtain ⟨rfl, rfl⟩ : _ = _ ∧ _ = _ := by simpa using hread
    rfl

def staged_quote : AggregateQuote where
  id := ⟨1⟩
  origin :=
    { quote_id := 2, request_id := 3, role := .Origin, local_chain := ⟨1⟩, remote_chain := ⟨2⟩
      input_token := 22, output_token := 22, amount_in := 50, amount_out := 50, route := .Direct
      block_number := 1, expires_at_unix := 80, sources := [] }
  destination :=
    { quote_id := 4, request_id := 3, role := .Destination, local_chain := ⟨2⟩
      remote_chain := ⟨1⟩, input_token := 22, output_token := 30, amount_in := 50
      amount_out := 45, route := .Direct, block_number := 1, expires_at_unix := 80
      sources := [{ maker := ⟨3⟩, strategy_hash := ⟨31⟩, token := 30, amount := 45 }] }
  amount_in := 50
  amount_out := 45
  bridge_fee := 0
  cctp_finality_threshold := none
  expires_at_unix := 80

def staged_validator : AlloyStepValidator where
  operator := 9
  wrapped_native := 11
  origin_application := some 20
  destination_application := some 10

def staged_destination_plan : ChainExecutionPlan where
  aggregate_id := ⟨1⟩
  chain_id := ⟨2⟩
  steps := [
    { command := .Deliver, target := 10, value := 0
      calldata := staged_deliver.abi_encode sample_hash },
    { command := .DispatchFillProof, target := 15, value := 0
      calldata := (staged_dispatch staged_fill_envelope).abi_encode sample_hash },
    { command := .CloseDestination, target := 10, value := 0
      calldata := staged_confirm.abi_encode sample_hash }]

def staged_origin_plan : ChainExecutionPlan where
  aggregate_id := ⟨1⟩
  chain_id := ⟨1⟩
  steps := [
    { command := .ClaimOrigin, target := 20, value := 0
      calldata := staged_claim_call.abi_encode sample_hash },
    { command := .DispatchRepayment, target := 27, value := 0
      calldata := (staged_dispatch staged_repayment_envelope).abi_encode sample_hash }]

/-- The staged calls, from the delivery to the claim. -/
def staged_actions : List Action :=
  [.open_destination (.configureDirectStrategy 3 31 30 1000 true 1),
   .fillDirect 9 sample_delivery staged_order staged_mandate sample_quote [],
   .open_destination (.rail (.dispatch sample_quote.orderId staged_fill_envelope sample_dispatch)),
   .open_origin (.receive
     { messageId := 1, sourceChainSelector := 200, sender := word 15
       data := staged_fill_envelope, destTokenAmounts := [] }),
   .settleDirect sample_settlement staged_order staged_mandate staged_claim_call.fillProof
     staged_claim_call.compactClaim]

def staged_end : World :=
  Run.run (Contracts.step sample_hash sample_deployment) World.empty staged_actions

set_option maxRecDepth 20000 in
theorem staged_proofs_recorded_sample :
    Contracts.Recorded sample_hash sample_deployment staged_end .destination sample_quote.orderId
        staged_fill_envelope ∧
      Contracts.Recorded sample_hash sample_deployment staged_end .origin sample_quote.orderId
        staged_repayment_envelope := by
  have htold : ∀ text ∈ staged_end.hashed, ∀ text' ∈ staged_end.hashed,
      sample_hash text = sample_hash text' → text = text' := by decide +kernel
  have hnamed : ∀ text ∈ staged_end.hashed, sample_hash text ≠ 0 := by decide +kernel
  have hdelivered : ((Action.fillDirect 9 sample_delivery staged_order staged_mandate sample_quote
      []).apply sample_hash sample_deployment (Run.run (Contracts.step sample_hash
        sample_deployment) World.empty (staged_actions.take 1))).toOption.isSome := by
    decide +kernel
  have hsettled : ((Action.settleDirect sample_settlement staged_order staged_mandate
      staged_claim_call.fillProof staged_claim_call.compactClaim).apply sample_hash
        sample_deployment (Run.run (Contracts.step sample_hash sample_deployment) World.empty
          (staged_actions.take 4))).toOption.isSome := by decide +kernel
  have hread : staged_chain.fillDirect (staged_deliver.abi_encode sample_hash) =
      some (staged_order, staged_mandate, sample_quote, []) := by
    simp [staged_chain]
  have hclaimed : staged_chain.settleDirect (staged_claim_call.abi_encode sample_hash) =
      some (staged_order, staged_mandate, staged_claim_call.fillProof,
        staged_claim_call.compactClaim) := by
    simp [staged_chain]
  obtain ⟨filled, hfilled⟩ := Contracts.exists_of_toOption hdelivered
  obtain ⟨paid, hpaid⟩ := Contracts.exists_of_toOption hsettled
  obtain ⟨hrecorded, -, -, hclaim⟩ := staged_proofs_recorded sample_hash staged_abi staged_chain
    staged_agree sample_deployment Contracts.sample_matching.outboxes ⟨sample_quote.orderId⟩
    staged_quote rfl staged_validator staged_validator ⟨rfl, rfl, rfl, rfl⟩ ⟨rfl, rfl, rfl, rfl⟩
    staged_destination_plan staged_origin_plan (by decide) (by decide +kernel)
    (by decide +kernel) _ (List.mem_cons_self ..) rfl 9 sample_delivery staged_order staged_mandate
    sample_quote [] hread staged_actions (by decide +kernel)
    (fun text h text' h' => htold text h text' h') hnamed
    ⟨staged_actions.take 1, staged_actions.drop 2, filled, rfl, hfilled⟩
  obtain ⟨-, -, hrepaid⟩ := hclaim _ (List.mem_cons_self ..) rfl _ _ _ _ hclaimed
  obtain ⟨hrecorded', -⟩ := hrepaid sample_settlement
    ⟨staged_actions.take 4, staged_actions.drop 5, paid, rfl, hpaid⟩
  exact ⟨hrecorded, hrecorded'⟩

end Sample

end Solvent.Validation
