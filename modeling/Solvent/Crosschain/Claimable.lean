import Mathlib
import Solvent.Crosschain.Staged

/-! # When a delivered order can be claimed

    The origin settler checks the order, the mandate, the relayed fill and the
    Compact claim before it calls The Compact. Accepted plans whose delivery has
    happened pass the first three; the claim nested in the staged call is not
    read by the validator, so it passes only where it was authored for the order.
-/

namespace Solvent.Validation

open Abi Contract
open Contracts (Deployment World Action CcipProofInbox CompactOriginSettler)
open Contracts.CrossChainAquaApp (direct_fill)
open Contracts.CrossChainHashLib (hashOrder hashMandate order_bytes)

/-- The Compact claim is authored for this order and mandate, with the settler as
    the only claimant. -/
structure Authored (keccak256 : Bytes → B256) (settler : Address)
    (order : Contracts.SolventCrossChainOrder) (mandate : Contracts.SolventMandate)
    (compactClaim : Contracts.Claim) : Prop where
  sponsor : compactClaim.sponsor = order.user
  id : compactClaim.id = order.compactId
  expires : compactClaim.expires = order.compactExpires
  witness : compactClaim.witness = hashMandate keccak256 mandate
  witnessTypestring : keccak256 compactClaim.witnessTypestring =
    keccak256 CompactOriginSettler.MANDATE_WITNESS_TYPESTRING
  allocatedAmount : compactClaim.allocatedAmount = order.inputAmount
  claimants : compactClaim.claimants =
    [{ claimant := Contracts.address_word settler, amount := order.inputAmount }]

/-- The checks `settleDirect` makes itself before it calls The Compact, the
    used-once ones apart. -/
structure Claimable (keccak256 : Bytes → B256) (d : Deployment) (w : World)
    (order : Contracts.SolventCrossChainOrder) (mandate : Contracts.SolventMandate)
    (fillProof : Bytes) (compactClaim : Contracts.Claim) : Prop where
  valid_order : CompactOriginSettler._validateOrder d.settler order .DirectMaker = .ok ()
  valid_mandate :
    CompactOriginSettler._validateMandate order mandate (hashOrder keccak256 order) = .ok ()
  valid_fill : ∃ fill, (w.inbox .origin).verifyFill fillProof = .ok fill ∧
    CompactOriginSettler._validateFill d.settler order (hashOrder keccak256 order) fill = .ok ()
  valid_claim :
    CompactOriginSettler._validateClaim keccak256 d.settler order mandate compactClaim = .ok ()

variable {keccak256 : Bytes → B256} {abi : Decoder} {chain : Calldata}
  {context : StepValidationContext} {validator : AlloyStepValidator} {d : Deployment}
  {step : PreparedStep} {order : Contracts.SolventCrossChainOrder}
  {mandate : Contracts.SolventMandate}

theorem valid_claim_iff {compactClaim : Contracts.Claim} :
    CompactOriginSettler._validateClaim keccak256 d.settler order mandate compactClaim = .ok () ↔
      Authored keccak256 d.settler.this order mandate compactClaim := by
  unfold CompactOriginSettler._validateClaim
  rw [require_eq_ok]
  constructor
  · rintro ⟨hsponsor, hid, hexpires, hwitness, htypestring, hamount, hclaimants⟩
    exact ⟨hsponsor, hid, hexpires, hwitness, htypestring, hamount, hclaimants⟩
  · rintro ⟨hsponsor, hid, hexpires, hwitness, htypestring, hamount, hclaimants⟩
    exact ⟨hsponsor, hid, hexpires, hwitness, htypestring, hamount, hclaimants⟩

/-- The mandate of an accepted claim passes the settler. -/
theorem claim_mandate_staged (hagree : Agree abi chain)
    (h : validator.validate_call keccak256 abi context step .ClaimOrigin .Direct = .ok ())
    {fillProof : Bytes} {compactClaim : Contracts.Claim}
    (hread : chain.settleDirect step.calldata = some (order, mandate, fillProof, compactClaim)) :
    CompactOriginSettler._validateMandate order mandate context.order_id.hash = .ok () := by
  unfold AlloyStepValidator.validate_call decode at h
  obtain ⟨call, hcall, h⟩ := expect_bind.mp h
  obtain rfl := hagree.settleDirect hcall hread
  obtain ⟨⟨⟩, -, h⟩ := Except.bind_eq_ok.mp h
  obtain ⟨⟨⟩, -, h⟩ := Except.bind_eq_ok.mp h
  obtain ⟨⟨⟩, hmandate, -⟩ := Except.bind_eq_ok.mp h
  obtain ⟨hid, hchain, hsettler, hverifier, htoken, hamount, hrecipient, hdeadline, hfiller,
    hroute⟩ := require_eq_ok.mp hmandate
  exact require_of ⟨hid, hchain, hsettler, hverifier, htoken, hamount, hrecipient, hdeadline,
    hfiller, route_kind_injective hroute⟩ _

/-- **An accepted, delivered and relayed order is claimable exactly when its claim
    was authored for it.** The fill check also asks for a strategy hash that is not
    zero, which the validator takes from the quote as it is. -/
theorem delivered_claimable_iff (keccak256 : Bytes → B256) (abi : Decoder) (chain : Calldata)
    (hagree : Agree abi chain) (d : Deployment) (hmatching : Contracts.Matching d)
    (order_id : CrossChainOrderId) (admitted : AggregateQuote)
    (hroute : admitted.origin.route = .Direct) (destination origin : AlloyStepValidator)
    (horigin : Deployed d admitted origin) (destination_plan origin_plan : ChainExecutionPlan)
    (hdestination_plan : destination.validate_plan keccak256 abi
      { order_id, quote := admitted, role := .Destination } destination_plan = .ok ())
    (horigin_plan : origin.validate_plan keccak256 abi
      { order_id, quote := admitted, role := .Origin } origin_plan = .ok ())
    (deliver : PreparedStep) (hdeliver : deliver ∈ destination_plan.steps)
    (hdeliver_command : deliver.command = .Deliver) (caller : Address)
    (outside : Contracts.FillOutside) (order : Contracts.SolventCrossChainOrder)
    (mandate : Contracts.SolventMandate) (quote : Contracts.DirectMakerQuote)
    (makerSignature : Bytes)
    (hread : chain.fillDirect deliver.calldata = some (order, mandate, quote, makerSignature))
    (claim : PreparedStep) (hclaim : claim ∈ origin_plan.steps)
    (hclaim_command : claim.command = .ClaimOrigin)
    (order' : Contracts.SolventCrossChainOrder) (mandate' : Contracts.SolventMandate)
    (fillProof : Bytes) (compactClaim : Contracts.Claim)
    (hclaimed : chain.settleDirect claim.calldata = some (order', mandate', fillProof, compactClaim))
    (actions : List Action)
    (hadmitted : Run.Along (Contracts.step keccak256 d) (fun w a => a.Admitted d w) World.empty
      actions)
    (htold : Set.InjOn keccak256 {text | text ∈ order_bytes keccak256 order' ::
      (Run.run (Contracts.step keccak256 d) World.empty actions).hashed})
    (hnamed : (Run.run (Contracts.step keccak256 d) World.empty actions).Named keccak256)
    (hdelivered : Contracts.Succeeds keccak256 d actions
      (.fillDirect caller outside order mandate quote makerSignature))
    (hrelayed : ((Run.run (Contracts.step keccak256 d) World.empty actions).inbox .origin).fills
      (direct_fill keccak256 d.app order quote).fillId = direct_fill keccak256 d.app order quote) :
    Claimable keccak256 d (Run.run (Contracts.step keccak256 d) World.empty actions) order'
        mandate' fillProof compactClaim ↔
      Authored keccak256 d.settler.this order' mandate' compactClaim ∧
        quote.destinationStrategyHash ≠ 0 := by
  have htold' : (Run.run (Contracts.step keccak256 d) World.empty actions).Told keccak256 :=
    htold.mono fun text htext => List.mem_cons_of_mem _ htext
  have hsound := Contracts.run_sound Contracts.sound_empty hadmitted htold'
  have hdelivery := delivery_of_accepted hagree
    (accepted_step hdestination_plan hroute hdeliver hdeliver_command) hread
  have hclaim_accepted := accepted_step horigin_plan hroute hclaim hclaim_command
  obtain ⟨hid, hproof⟩ := claim_staged hagree horigin hclaim_accepted hclaimed
  have hmandate := claim_mandate_staged hagree hclaim_accepted hclaimed
  obtain ⟨hmem, hfill_id, -⟩ := hsound.filled_direct hnamed hadmitted hdelivered
  -- One hash, so one order.
  obtain ⟨-, htext, -⟩ := hsound.safe.books.delivered order _ _ hmem
  obtain rfl : order' = order :=
    Contracts.CrossChainHashLib.order_bytes_injective keccak256
      (htold (List.mem_cons_self ..) (List.mem_cons_of_mem _ htext)
        (hid.trans hdelivery.order_id.symm))
  have hclaimed_id : (direct_fill keccak256 d.app order' quote).fillId =
      keccak256 (Contracts.CrossChainAquaApp.fill_id_bytes d.app order_id.hash) := by
    rw [← hid]
    rfl
  rw [← hclaimed_id] at hproof
  have hverifies := CcipProofInbox.verifies_fill hfill_id hrelayed
  rw [← hproof] at hverifies
  -- What the application checked of the order and the quote.
  obtain ⟨start, filled, hok, -, hhashed⟩ := hdelivered.kept hadmitted
  obtain ⟨horder, -, hquote, app, -, hrecord⟩ := Contracts.fillDirect_ok (bubble_eq_ok.mp hok)
  have hdigest := hnamed _ (hhashed (Contracts.deliver_and_record_delivers hrecord).2)
  constructor
  · rintro ⟨-, -, ⟨fill, hfill, hvalid⟩, hclaim⟩
    obtain rfl := Except.ok.inj (hverifies.symm.trans hfill)
    obtain ⟨-, -, -, -, -, -, -, -, hstrategy, -⟩ := require_eq_ok.mp hvalid
    exact ⟨valid_claim_iff.mp hclaim, hstrategy⟩
  · rintro ⟨hauthored, hstrategy⟩
    rw [← hid] at hmandate
    exact ⟨hmatching.settles_order horder, hmandate,
      ⟨_, hverifies, hmatching.settles_direct hquote hstrategy hdigest hfill_id⟩,
      valid_claim_iff.mpr hauthored⟩

/-! The sample's plans with the claim as authored, and with another sponsor's. -/

section Sample

open Contracts (sample_hash sample_deployment sample_order sample_mandate sample_quote sample_claim
  sample_delivery sample_settlement sample_dispatch)

/-- The staged calls up to the relay of the fill. -/
def relayed_actions : List Action := staged_actions.take 4

def relayed_end : World :=
  Run.run (Contracts.step sample_hash sample_deployment) World.empty relayed_actions

theorem relayed_delivery : Contracts.Succeeds sample_hash sample_deployment relayed_actions
    (.fillDirect 9 sample_delivery staged_order staged_mandate sample_quote []) := by
  have hdelivered : ((Action.fillDirect 9 sample_delivery staged_order staged_mandate sample_quote
      []).apply sample_hash sample_deployment (Run.run (Contracts.step sample_hash
        sample_deployment) World.empty (staged_actions.take 1))).toOption.isSome := by
    decide +kernel
  obtain ⟨filled, hfilled⟩ := Contracts.exists_of_toOption hdelivered
  exact ⟨staged_actions.take 1, relayed_actions.drop 2, filled, rfl, hfilled⟩

set_option maxRecDepth 20000 in
theorem delivered_claimable_iff_sample :
    Claimable sample_hash sample_deployment relayed_end staged_order staged_mandate
      staged_claim_call.fillProof staged_claim_call.compactClaim := by
  have htold : ∀ text ∈ order_bytes sample_hash staged_order :: relayed_end.hashed,
      ∀ text' ∈ order_bytes sample_hash staged_order :: relayed_end.hashed,
        sample_hash text = sample_hash text' → text = text' := by decide +kernel
  have hread : staged_chain.fillDirect (staged_deliver.abi_encode sample_hash) =
      some (staged_order, staged_mandate, sample_quote, []) := by
    simp [staged_chain]
  have hclaimed : staged_chain.settleDirect (staged_claim_call.abi_encode sample_hash) =
      some (staged_order, staged_mandate, staged_claim_call.fillProof,
        staged_claim_call.compactClaim) := by
    simp [staged_chain]
  exact (delivered_claimable_iff sample_hash staged_abi staged_chain staged_agree
    sample_deployment Contracts.sample_matching ⟨sample_quote.orderId⟩ staged_quote rfl
    staged_validator staged_validator ⟨rfl, rfl, rfl, rfl⟩ staged_destination_plan
    staged_origin_plan (by decide +kernel) (by decide +kernel) _ (List.mem_cons_self ..) rfl 9
    sample_delivery staged_order staged_mandate sample_quote [] hread _ (List.mem_cons_self ..) rfl
    staged_order staged_mandate _ _ hclaimed relayed_actions (by decide +kernel)
    (fun text h text' h' => htold text h text' h') (by unfold World.Named; decide +kernel)
    relayed_delivery (by decide +kernel)).mpr ⟨⟨rfl, rfl, rfl, rfl, rfl, rfl, rfl⟩, by decide⟩

/-- The staged claim with another sponsor. -/
def unclaimable_call : SettleDirectCall :=
  { staged_claim_call with
    compactClaim := { staged_claim_call.compactClaim with sponsor := 7 } }

def unclaimable_abi : Decoder :=
  { staged_abi with
    settleDirect := fun data =>
      if data = unclaimable_call.abi_encode sample_hash then some unclaimable_call else none }

def unclaimable_plan : ChainExecutionPlan :=
  { staged_origin_plan with
    steps := [{ command := .ClaimOrigin, target := 20, value := 0
                calldata := unclaimable_call.abi_encode sample_hash }] }

/-- **Accepted, delivered and relayed, but not claimable**: the claim names a
    sponsor who is not the order's user. -/
theorem delivered_unclaimable :
    staged_validator.validate_plan sample_hash unclaimable_abi
        { order_id := ⟨sample_quote.orderId⟩, quote := staged_quote, role := .Destination }
        staged_destination_plan = .ok () ∧
      staged_validator.validate_plan sample_hash unclaimable_abi
        { order_id := ⟨sample_quote.orderId⟩, quote := staged_quote, role := .Origin }
        unclaimable_plan = .ok () ∧
      Contracts.Succeeds sample_hash sample_deployment relayed_actions
        (.fillDirect 9 sample_delivery staged_order staged_mandate sample_quote []) ∧
      (relayed_end.inbox .origin).fills staged_fill.fillId = staged_fill ∧
      ¬Claimable sample_hash sample_deployment relayed_end staged_order staged_mandate
        unclaimable_call.fillProof unclaimable_call.compactClaim := by
  refine ⟨by decide +kernel, by decide +kernel, relayed_delivery, by decide +kernel, ?_⟩
  intro h
  exact absurd (valid_claim_iff.mp h.valid_claim).sponsor (by decide)

end Sample

end Solvent.Validation
