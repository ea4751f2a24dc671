import Mathlib
import Solvent.Contracts.Exposure

/-! # What a transaction writes

    One inversion lemma for each entry point: what it checked, what it wrote and
    what it logged. A call made from inside another one reaches the rail and the
    configuration of strategies only (`Inside`).
-/

namespace Solvent.Contracts

open Abi Contract

variable {keccak256 : Bytes → B256} {d : Deployment}

/-! ## Calls from inside -/

/-- What the calls without a guard leave alone on one chain. -/
structure Inside (side : Side) (w w' : World) : Prop where
  app : CrossChainAquaApp.Configured w.app w'.app
  settler : w'.settler = w.settler
  outbox : w'.outbox side.peer = w.outbox side.peer
  inbox : w'.inbox side.peer = w.inbox side.peer
  log : ∃ sent : List Bytes, w'.log = w.log ++ sent.map (Event.Dispatched side)
  hashed : ∃ texts : List Bytes, w'.hashed = w.hashed ++ texts

theorem Inside.refl (side : Side) (w : World) : Inside side w w :=
  ⟨.refl _, rfl, rfl, rfl, ⟨[], by simp⟩, [], by simp⟩

theorem Inside.trans {side : Side} {w w' w'' : World} (h : Inside side w w')
    (h' : Inside side w' w'') : Inside side w w'' := by
  obtain ⟨sent, hlog⟩ := h.log
  obtain ⟨sent', hlog'⟩ := h'.log
  obtain ⟨texts, hhashed⟩ := h.hashed
  obtain ⟨texts', hhashed'⟩ := h'.hashed
  exact ⟨h.app.trans h'.app, h'.settler.trans h.settler, h'.outbox.trans h.outbox,
    h'.inbox.trans h.inbox,
    ⟨sent ++ sent', by rw [hlog', hlog, List.map_append, List.append_assoc]⟩,
    texts ++ texts', by rw [hhashed', hhashed, List.append_assoc]⟩

theorem Side.peer_ne (side : Side) : side.peer ≠ side := by
  cases side <;> decide

theorem RailCall.apply_inside {side : Side} {w w' : World} {call : RailCall}
    (h : call.apply keccak256 d side w = .ok w') : Inside side w w' := by
  cases call with
  | record caller orderId kind payload =>
    obtain ⟨outbox, -, h⟩ := Except.bind_eq_ok.mp h
    obtain rfl := Except.ok.inj h
    exact ⟨.refl _, rfl, Mapping.set_ne _ side.peer_ne, rfl, ⟨[], by simp⟩, [], by simp⟩
  | dispatch orderId envelope outside =>
    obtain ⟨-, -, h⟩ := Except.bind_eq_ok.mp h
    obtain rfl := Except.ok.inj h
    exact ⟨.refl _, rfl, rfl, rfl, ⟨[envelope], rfl⟩, [envelope], rfl⟩
  | receive message =>
    obtain ⟨inbox, -, h⟩ := Except.bind_eq_ok.mp h
    obtain rfl := Except.ok.inj h
    exact ⟨.refl _, rfl, rfl, Mapping.set_ne _ side.peer_ne, ⟨[], by simp⟩, [], by simp⟩

theorem OpenCall.apply_inside {w w' : World} {call : OpenCall}
    (h : call.apply keccak256 d w = .ok w') : Inside .destination w w' := by
  cases call with
  | configureDirectStrategy caller strategyHash outputToken maxOutstandingRepayment enabled
      tokensCount =>
    obtain ⟨app, happ, h⟩ := Except.bind_eq_ok.mp h
    obtain rfl := Except.ok.inj h
    rw [bubble_eq_ok] at happ
    exact ⟨CrossChainAquaApp.configureDirectStrategy_ok happ, rfl, rfl, rfl, ⟨[], by simp⟩,
      [], by simp⟩
  | configureCreditStrategy caller strategyHash outputToken maxOutstandingUsdc enabled tokensCount
      usdcCount =>
    obtain ⟨app, happ, h⟩ := Except.bind_eq_ok.mp h
    obtain rfl := Except.ok.inj h
    rw [bubble_eq_ok] at happ
    exact ⟨CrossChainAquaApp.configureCreditStrategy_ok happ, rfl, rfl, rfl, ⟨[], by simp⟩,
      [], by simp⟩
  | rail call => exact RailCall.apply_inside h

theorem inside_destination_inside (calls : List OpenCall) (w : World) :
    Inside .destination w (inside_destination keccak256 d calls w) := by
  induction calls generalizing w with
  | nil => exact .refl _ w
  | cons call calls ih =>
    have hfirst : Inside .destination w (attempt (fun w => call.apply keccak256 d w) w) :=
      attempt_keeps (.refl _ w) fun w' h => OpenCall.apply_inside h
    exact hfirst.trans (ih _)

theorem inside_origin_inside (calls : List RailCall) (w : World) :
    Inside .origin w (inside_origin keccak256 d calls w) := by
  induction calls generalizing w with
  | nil => exact .refl _ w
  | cons call calls ih =>
    have hfirst : Inside .origin w (attempt (fun w => call.apply keccak256 d .origin w) w) :=
      attempt_keeps (.refl _ w) fun w' h => RailCall.apply_inside h
    exact hfirst.trans (ih _)

/-! ## Recording -/

theorem World.record_ok {w w' : World} {side : Side} {caller : Address} {orderId : B256}
    {kind : ProofKind} {payload : Bytes}
    (h : w.record keccak256 d side caller orderId kind payload = .ok w') :
    ∃ outbox, (w.outbox side).record keccak256 (d.outbox side) caller orderId kind payload =
        .ok outbox ∧
      w' = { w with
        outbox := Mapping.set w.outbox side outbox
        hashed := w.hashed ++ [ProofHashLib.encode kind payload] } := by
  obtain ⟨outbox, houtbox, h⟩ := Except.bind_eq_ok.mp h
  exact ⟨outbox, houtbox, (Except.ok.inj h).symm⟩

/-! ## Fills -/

section Fills

variable {w w' : World} {order : SolventCrossChainOrder}

theorem deliver_ok {o : CrossChainAquaApp.DeliveryOutside} {amount received : U256}
    (h : CrossChainAquaApp.deliver o order amount = .ok received) : received = amount := by
  unfold CrossChainAquaApp.deliver at h
  split at h
  · unfold CrossChainAquaApp._deliverNative at h
    simp only [require_bind] at h
    obtain ⟨-, -, -, -, -, -, h⟩ := h
    exact (Except.ok.inj h).symm
  · unfold CrossChainAquaApp._deliverErc20 at h
    simp only [require_bind] at h
    obtain ⟨-, hdelta, h⟩ := h
    exact (Except.ok.inj h).symm.trans hdelta

/-- **Inversion.** A fill delivers what it records, after the calls from inside. -/
theorem deliver_and_record_ok {app : CrossChainAquaApp} {o : FillOutside} {fill : VerifiedFill}
    {quoteHash : B256}
    (h : deliver_and_record keccak256 d w app o order fill quoteHash = .ok w') :
    ∃ mid, mid = inside_destination keccak256 d o.calls
        (w.delivered keccak256 d app order fill quoteHash fill.outputAmount) ∧
      mid.record keccak256 d .destination d.app.this
        (CrossChainHashLib.hashOrder keccak256 order) .Fill (encode fill) = .ok w' := by
  obtain ⟨received, hdeliver, h⟩ := Except.bind_eq_ok.mp h
  obtain rfl := deliver_ok hdeliver
  exact ⟨_, rfl, bubble_eq_ok.mp h⟩

variable {caller : Address} {o : FillOutside} {mandate : SolventMandate} {makerSignature : Bytes}

/-- **Inversion.** A direct fill passed every check. -/
theorem fillDirect_ok {quote : DirectMakerQuote}
    (h : fillDirect keccak256 d w caller o order mandate quote makerSignature = .ok w') :
    CrossChainAquaApp._validateOrder d.app caller o.timestamp order .DirectMaker = .ok () ∧
      CrossChainAquaApp._validateMandate order mandate
        (CrossChainHashLib.hashOrder keccak256 order) = .ok () ∧
      CrossChainAquaApp._validateQuote keccak256 d.app o.timestamp o.isValidSignature order quote
        (CrossChainHashLib.hashOrder keccak256 order) makerSignature = .ok () ∧
      ∃ app, w.app.open_direct keccak256 d.app o.timestamp order quote = .ok app ∧
        deliver_and_record keccak256 d w app o order
          (CrossChainAquaApp.direct_fill keccak256 d.app order quote)
          (CrossChainHashLib.hashDirectQuote keccak256 quote) = .ok w' := by
  obtain ⟨⟨⟩, horder, h⟩ := Except.bind_eq_ok.mp h
  obtain ⟨⟨⟩, hmandate, h⟩ := Except.bind_eq_ok.mp h
  obtain ⟨⟨⟩, hquote, h⟩ := Except.bind_eq_ok.mp h
  obtain ⟨app, happ, h⟩ := Except.bind_eq_ok.mp h
  exact ⟨horder, hmandate, hquote, app, happ, h⟩

/-- **Inversion.** A credit fill passed every check. -/
theorem fillCredit_ok {quote : MakerCreditQuote}
    (h : fillCredit keccak256 d w caller o order mandate quote makerSignature = .ok w') :
    CrossChainAquaApp._validateOrder d.app caller o.timestamp order .TwoMakerCredit = .ok () ∧
      CrossChainAquaApp._validateMandate order mandate
        (CrossChainHashLib.hashOrder keccak256 order) = .ok () ∧
      CrossChainAquaApp._validateCreditQuote keccak256 d.app o.timestamp o.isValidSignature order
        quote (CrossChainHashLib.hashOrder keccak256 order) makerSignature = .ok () ∧
      ∃ app, w.app.open_credit keccak256 d.app o.timestamp order quote = .ok app ∧
        deliver_and_record keccak256 d w app o order
          (CrossChainAquaApp.credit_fill keccak256 d.app order quote)
          (CrossChainHashLib.hashCreditQuote keccak256 quote) = .ok w' := by
  obtain ⟨⟨⟩, horder, h⟩ := Except.bind_eq_ok.mp h
  obtain ⟨⟨⟩, hmandate, h⟩ := Except.bind_eq_ok.mp h
  obtain ⟨⟨⟩, hquote, h⟩ := Except.bind_eq_ok.mp h
  obtain ⟨app, happ, h⟩ := Except.bind_eq_ok.mp h
  exact ⟨horder, hmandate, hquote, app, happ, h⟩

end Fills

/-! ## Repayments -/

section Repayments

variable {w w' : World} {orderId : B256}

/-- **Inversion.** A completion closed a delivered receivable and paid what was
    due. -/
theorem completeRepayment_ok {o : CompletionOutside} {message attestation : Bytes}
    (h : completeRepayment keccak256 d w o orderId message attestation = .ok w') :
    (w.app.creditReceivables orderId).state = .Delivered ∧
      ∃ app, w.app.close_credit orderId = .ok app ∧
        ∃ strategy surplus, w' = (inside_destination keccak256 d o.calls { w with app }).emit
          (.CreditRepaid orderId (w.app.creditReceivables orderId).maker
            (w.app.creditReceivables orderId).usdcDue strategy surplus) := by
  unfold completeRepayment at h
  rw [require_bind] at h
  obtain ⟨hdelivered, h⟩ := h
  obtain ⟨parsed, -, h⟩ := expect_bind.mp h
  obtain ⟨⟨⟩, -, h⟩ := Except.bind_eq_ok.mp h
  obtain ⟨app, happ, h⟩ := Except.bind_eq_ok.mp h
  simp only [require_bind, expect_bind] at h
  obtain ⟨-, expectedMint, -, -, -, surplus, -, -, h⟩ := h
  exact ⟨hdelivered, app, happ, _, surplus, (Except.ok.inj h).symm⟩

/-- **Inversion.** A confirmation closed the receivable its proof names. -/
theorem confirmDirectRepayment_ok {repaymentProof : Bytes}
    (h : confirmDirectRepayment d w orderId repaymentProof = .ok w') :
    ∃ repayment, (w.inbox .destination).verifyRepayment repaymentProof = .ok repayment ∧
      ∃ app, w.app.close_direct d.app orderId repayment = .ok app ∧ w' = { w with app } := by
  unfold confirmDirectRepayment at h
  obtain ⟨repayment, hverify, h⟩ := Except.bind_eq_ok.mp h
  obtain ⟨app, happ, h⟩ := Except.bind_eq_ok.mp h
  exact ⟨repayment, bubble_eq_ok.mp hverify, app, happ, (Except.ok.inj h).symm⟩

end Repayments

/-! ## Settlements -/

section Settlements

variable {w w' : World} {order : SolventCrossChainOrder} {mandate : SolventMandate}
  {fillProof : Bytes} {compactClaim : Claim}

theorem unused_ok {s : CompactOriginSettler} {orderId fillId : B256}
    (h : s.unused orderId fillId = .ok ()) :
    s.settledOrders orderId = false ∧ s.usedFillProofs fillId = false := by
  unfold CompactOriginSettler.unused at h
  rwa [require_bind, require_eq_ok] at h

/-- The state once an order is claimed. -/
def World.claimed (keccak256 : Bytes → B256) (w : World) (order : SolventCrossChainOrder)
    (compactClaim : Claim) (fillId : B256) (received : U256) : World :=
  ({ w with settler := w.settler.mark (CrossChainHashLib.hashOrder keccak256 order) fillId }.hashing
    [CrossChainHashLib.order_bytes keccak256 order]).emit (.Claimed order compactClaim received)

/-- **Inversion.** A direct settlement passed every check, claimed the input, paid
    the maker of the fill and recorded the repayment. -/
theorem settleDirect_ok {o : DirectOutside}
    (h : settleDirect keccak256 d w o order mandate fillProof compactClaim = .ok w') :
    ∃ fill, (w.inbox .origin).verifyFill fillProof = .ok fill ∧
      CompactOriginSettler._validateOrder d.settler order .DirectMaker = .ok () ∧
      CompactOriginSettler._validateFill d.settler order
        (CrossChainHashLib.hashOrder keccak256 order) fill = .ok () ∧
      w.settler.unused (CrossChainHashLib.hashOrder keccak256 order) fill.fillId = .ok () ∧
      CompactOriginSettler._validateClaim keccak256 d.settler order mandate compactClaim = .ok () ∧
      ∃ strategy mid, (strategy = none ∨ strategy = some fill.originStrategyHash) ∧
        mid = inside_origin keccak256 d o.calls
          (w.claimed keccak256 order compactClaim fill.fillId fill.repaymentAmount) ∧
        ((mid.emit (.Repaid order fill.destinationMaker order.inputToken fill.repaymentAmount
            strategy)).hashing [CompactOriginSettler.repayment_id_bytes d.settler
              (CrossChainHashLib.hashOrder keccak256 order)]).record keccak256 d .origin
            d.settler.this (CrossChainHashLib.hashOrder keccak256 order) .DirectRepayment
            (encode (CompactOriginSettler.recorded_repayment keccak256 d.settler
              (CrossChainHashLib.hashOrder keccak256 order) fill)) = .ok w' := by
  unfold settleDirect at h
  obtain ⟨⟨⟩, horder, h⟩ := Except.bind_eq_ok.mp h
  obtain ⟨⟨⟩, -, h⟩ := Except.bind_eq_ok.mp h
  obtain ⟨fill, hfill, h⟩ := Except.bind_eq_ok.mp h
  obtain ⟨⟨⟩, hvalid, h⟩ := Except.bind_eq_ok.mp h
  obtain ⟨⟨⟩, hunused, h⟩ := Except.bind_eq_ok.mp h
  obtain ⟨⟨⟩, hclaim, h⟩ := Except.bind_eq_ok.mp h
  simp only [require_bind] at h
  obtain ⟨-, hclaimed, -, -, h⟩ := h
  rw [hclaimed] at h
  refine ⟨fill, bubble_eq_ok.mp hfill, horder, hvalid, hunused, hclaim, _, _, ?_, rfl,
    bubble_eq_ok.mp h⟩
  split
  · exact .inr rfl
  · exact .inl rfl

/-- **Inversion.** A routed settlement passed every check, claimed the input and
    burned the fill's repayment. -/
theorem settleRouted_ok {o : RoutedOutside} {makerOrder : SwapOrder}
    (h : settleRouted keccak256 d w o order mandate fillProof compactClaim makerOrder = .ok w') :
    ∃ fill, (w.inbox .origin).verifyFill fillProof = .ok fill ∧
      CompactOriginSettler._validateOrder d.settler order .TwoMakerCredit = .ok () ∧
      CompactOriginSettler._validateRoutedFill d.settler order
        (CrossChainHashLib.hashOrder keccak256 order) fill = .ok () ∧
      w.settler.unused (CrossChainHashLib.hashOrder keccak256 order) fill.fillId = .ok () ∧
      CompactOriginSettler._validateClaim keccak256 d.settler order mandate compactClaim = .ok () ∧
      ∃ burnAmount : U256, fill.repaymentAmount.val + fill.maxCctpFee.val = burnAmount.val ∧
        w' = (inside_origin keccak256 d o.calls
          (w.claimed keccak256 order compactClaim fill.fillId order.inputAmount)).emit
          (.Burned order (CompactOriginSettler.routed_burn d.settler
            (CrossChainHashLib.hashOrder keccak256 order) burnAmount fill)) := by
  unfold settleRouted at h
  obtain ⟨⟨⟩, horder, h⟩ := Except.bind_eq_ok.mp h
  obtain ⟨⟨⟩, -, h⟩ := Except.bind_eq_ok.mp h
  obtain ⟨fill, hfill, h⟩ := Except.bind_eq_ok.mp h
  obtain ⟨⟨⟩, hvalid, h⟩ := Except.bind_eq_ok.mp h
  obtain ⟨⟨⟩, hunused, h⟩ := Except.bind_eq_ok.mp h
  obtain ⟨⟨⟩, hclaim, h⟩ := Except.bind_eq_ok.mp h
  simp only [require_bind, expect_bind] at h
  obtain ⟨-, hclaimed, burnAmount, hburn, ⟨amountIn, amountOut⟩, -, -, -, -, -, h⟩ := h
  rw [hclaimed] at h
  rw [U256.checked_add_eq_some] at hburn
  exact ⟨fill, bubble_eq_ok.mp hfill, horder, hvalid, hunused, hclaim, burnAmount, hburn,
    (Except.ok.inj h).symm⟩

end Settlements

end Solvent.Contracts
