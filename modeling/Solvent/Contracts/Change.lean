import Mathlib
import Solvent.Contracts.Receipt

/-! # What a transaction can do

    A transaction of an admitted run does one of six things to the two contracts
    and their outboxes (`Change`); besides, it adds to the log and to the hashed
    texts, and inboxes take receipts. Every invariant about evidence is read off
    these six cases.
-/

namespace Solvent.Contracts

open Abi Contract CrossChainAquaApp

variable {keccak256 : Bytes → B256} {d : Deployment} {w w' : World}

/-! ## Outboxes -/

/-- The outbox holds this payload hash under the order, and is otherwise
    unchanged. -/
structure CcipProofOutbox.Records (s s' : CcipProofOutbox) (orderId payloadHash : B256) :
    Prop where
  order_ne : orderId ≠ 0
  recorded : s'.recordedPayloads = Mapping.set s.recordedPayloads orderId payloadHash

theorem CcipProofOutbox.record_records {cfg : OutboxConfig} {s s' : CcipProofOutbox}
    {caller : Address} {orderId : B256} {kind : ProofKind} {payload : Bytes}
    (h : record keccak256 cfg s caller orderId kind payload = .ok s') :
    Records s s' orderId (keccak256 (ProofHashLib.encode kind payload)) := by
  obtain ⟨-, hne, ⟨-, hset⟩ | ⟨hsame, rfl⟩⟩ := record_ok h
  · exact ⟨hne, hset⟩
  · refine ⟨hne, ?_⟩
    -- Recording the same payload again changes nothing.
    funext id
    rw [Mapping.set_apply, ← hsame]
    split
    · rename_i heq
      rw [heq]
    · rfl

/-- Nobody records but the recorder. -/
theorem RailCall.apply_outbox {side : Side} {call : RailCall}
    (h : call.apply keccak256 d side w = .ok w') (hadmitted : call.Admitted d side w) :
    w'.outbox = w.outbox := by
  match call, hadmitted with
  | .record caller orderId kind payload, hadmitted =>
    obtain ⟨outbox, hrecord, -⟩ := Except.bind_eq_ok.mp h
    exact absurd (CcipProofOutbox.record_ok (bubble_eq_ok.mp hrecord)).1 hadmitted
  | .dispatch orderId envelope o, _ =>
    obtain ⟨-, -, h⟩ := Except.bind_eq_ok.mp h
    obtain rfl := Except.ok.inj h
    rfl
  | .receive message, _ =>
    obtain ⟨inbox, -, h⟩ := Except.bind_eq_ok.mp h
    obtain rfl := Except.ok.inj h
    rfl

theorem OpenCall.apply_outbox {call : OpenCall} (h : call.apply keccak256 d w = .ok w')
    (hadmitted : call.Admitted d w) : w'.outbox = w.outbox := by
  match call, hadmitted with
  | .rail call, hadmitted => exact RailCall.apply_outbox h hadmitted
  | .configureDirectStrategy .., _ =>
    obtain ⟨app, -, h⟩ := Except.bind_eq_ok.mp h
    obtain rfl := Except.ok.inj h
    rfl
  | .configureCreditStrategy .., _ =>
    obtain ⟨app, -, h⟩ := Except.bind_eq_ok.mp h
    obtain rfl := Except.ok.inj h
    rfl

/-! ## Inboxes -/

/-- Receipts keep the slots of both inboxes. -/
def World.IndexedInto (w w' : World) : Prop :=
  ∀ side, (w.inbox side).Indexed → (w'.inbox side).Indexed

theorem RailCall.apply_indexed {side : Side} {call : RailCall}
    (h : call.apply keccak256 d side w = .ok w') : w.IndexedInto w' := by
  intro side' hindexed
  match call with
  | .record caller orderId kind payload =>
    obtain ⟨outbox, -, h⟩ := Except.bind_eq_ok.mp h
    obtain rfl := Except.ok.inj h
    exact hindexed
  | .dispatch orderId envelope o =>
    obtain ⟨-, -, h⟩ := Except.bind_eq_ok.mp h
    obtain rfl := Except.ok.inj h
    exact hindexed
  | .receive message =>
    obtain ⟨inbox, hreceive, h⟩ := Except.bind_eq_ok.mp h
    obtain rfl := Except.ok.inj h
    show (Mapping.set w.inbox side inbox side').Indexed
    rw [Mapping.set_apply]
    split
    · rename_i heq
      subst heq
      exact hindexed.receive (bubble_eq_ok.mp hreceive)
    · exact hindexed

theorem OpenCall.apply_indexed {call : OpenCall} (h : call.apply keccak256 d w = .ok w') :
    w.IndexedInto w' := by
  match call with
  | .rail call => exact RailCall.apply_indexed h
  | .configureDirectStrategy .. =>
    obtain ⟨app, -, h⟩ := Except.bind_eq_ok.mp h
    obtain rfl := Except.ok.inj h
    exact fun _ => id
  | .configureCreditStrategy .. =>
    obtain ⟨app, -, h⟩ := Except.bind_eq_ok.mp h
    obtain rfl := Except.ok.inj h
    exact fun _ => id

/-! ## Calls from inside -/

/-- What the calls from inside leave of the outboxes and the inboxes. -/
structure Rides (w w' : World) : Prop where
  outbox : w'.outbox = w.outbox
  inbox : w.IndexedInto w'

theorem inside_destination_rides {calls : List OpenCall}
    (hadmitted : ∀ call ∈ calls, call.Admitted d w) :
    Rides w (inside_destination keccak256 d calls w) := by
  induction calls generalizing w with
  | nil => exact ⟨rfl, fun _ => id⟩
  | cons call calls ih =>
    have hfirst : Rides w (attempt (fun w => call.apply keccak256 d w) w) :=
      attempt_keeps (P := Rides w) ⟨rfl, fun _ => id⟩ fun w' h =>
        ⟨OpenCall.apply_outbox h (hadmitted call (by simp)), OpenCall.apply_indexed h⟩
    have hsub : w.log ⊆ (attempt (fun w => call.apply keccak256 d w) w).log :=
      (attempt_keeps (P := Inside .destination w) (.refl _ w)
        fun w' h => OpenCall.apply_inside h).log_subset
    have hrest := ih (w := attempt (fun w => call.apply keccak256 d w) w)
      fun c hc => (hadmitted c (by simp [hc])).mono hsub
    exact ⟨hrest.outbox.trans hfirst.outbox,
      fun side hside => hrest.inbox side (hfirst.inbox side hside)⟩

theorem inside_origin_rides {calls : List RailCall}
    (hadmitted : ∀ call ∈ calls, call.Admitted d .origin w) :
    Rides w (inside_origin keccak256 d calls w) := by
  induction calls generalizing w with
  | nil => exact ⟨rfl, fun _ => id⟩
  | cons call calls ih =>
    have hfirst : Rides w (attempt (fun w => call.apply keccak256 d .origin w) w) :=
      attempt_keeps (P := Rides w) ⟨rfl, fun _ => id⟩ fun w' h =>
        ⟨RailCall.apply_outbox h (hadmitted call (by simp)), RailCall.apply_indexed h⟩
    have hsub : w.log ⊆ (attempt (fun w => call.apply keccak256 d .origin w) w).log :=
      (attempt_keeps (P := Inside .origin w) (.refl _ w)
        fun w' h => RailCall.apply_inside h).log_subset
    have hrest := ih (w := attempt (fun w => call.apply keccak256 d .origin w) w)
      fun c hc => (hadmitted c (by simp [hc])).mono hsub
    exact ⟨hrest.outbox.trans hfirst.outbox,
      fun side hside => hrest.inbox side (hfirst.inbox side hside)⟩

/-! ## The six changes -/

/-- Besides dispatches, the log gains these events. -/
structure Logs (log log' events : List Event) : Prop where
  old : log ⊆ log'
  new : events ⊆ log'
  only : ∀ e ∈ log', e ∈ log ∨ e ∈ events ∨ ∃ side data, e = .Dispatched side data

/-- A fill opens the receivable of its order. -/
def Opens (keccak256 : Bytes → B256) (d : Deployment) (s s' : CrossChainAquaApp)
    (order : SolventCrossChainOrder) (fill : VerifiedFill) : Prop :=
  (∃ quote, OpensDirect s s' (CrossChainHashLib.hashOrder keccak256 order) order quote ∧
    order.routeKind = .DirectMaker ∧ fill = direct_fill keccak256 d.app order quote) ∨
  ∃ quote, OpensCredit s s' (CrossChainHashLib.hashOrder keccak256 order) quote ∧
    order.routeKind = .TwoMakerCredit ∧ fill = credit_fill keccak256 d.app order quote

/-- What a transaction does to the contracts and to their outboxes. -/
inductive Change (keccak256 : Bytes → B256) (d : Deployment) (w w' : World) : Prop where
  | quiet (logs : Logs w.log w'.log []) (app : Configured w.app w'.app)
      (settler : w'.settler = w.settler) (outbox : w'.outbox = w.outbox)
  | filled (order : SolventCrossChainOrder) (fill : VerifiedFill) (app : CrossChainAquaApp)
      (opens : Opens keccak256 d w.app app order fill) (configured : Configured app w'.app)
      (logs : Logs w.log w'.log [.Delivered order fill fill.outputAmount])
      (settler : w'.settler = w.settler) (outbox : w'.outbox .origin = w.outbox .origin)
      (records : (w.outbox .destination).Records (w'.outbox .destination)
        (CrossChainHashLib.hashOrder keccak256 order)
        (keccak256 (ProofHashLib.encode .Fill (encode fill))))
      (hashed : fill_id_bytes d.app (CrossChainHashLib.hashOrder keccak256 order) ∈ w'.hashed)
  | completed (orderId : B256) (app : CrossChainAquaApp) (strategy : Option B256) (surplus : U256)
      (closes : ClosesCredit w.app app orderId) (configured : Configured app w'.app)
      (logs : Logs w.log w'.log [.CreditRepaid orderId (w.app.creditReceivables orderId).maker
        (w.app.creditReceivables orderId).usdcDue strategy surplus])
      (settler : w'.settler = w.settler) (outbox : w'.outbox = w.outbox)
  | confirmed (orderId repaymentId : B256)
      (repayment : ((w.inbox .destination).repayments repaymentId).repaymentId ≠ 0)
      (order : ((w.inbox .destination).repayments repaymentId).orderId = orderId)
      (closes : ClosesDirect w.app w'.app orderId
        ((w.inbox .destination).repayments repaymentId).repaymentId)
      (logs : Logs w.log w'.log []) (settler : w'.settler = w.settler) (outbox : w'.outbox = w.outbox)
  | settled_direct (order : SolventCrossChainOrder) (fill : VerifiedFill) (compactClaim : Claim)
      (strategy : Option B256) (proven : fill.fillId ≠ 0 ∧ ∃ id, (w.inbox .origin).fills id = fill)
      (fresh : w.settler.settledOrders (CrossChainHashLib.hashOrder keccak256 order) = false)
      (names : fill.orderId = CrossChainHashLib.hashOrder keccak256 order)
      (route : order.routeKind = .DirectMaker)
      (app : Configured w.app w'.app)
      (settler : w'.settler =
        w.settler.mark (CrossChainHashLib.hashOrder keccak256 order) fill.fillId)
      (logs : Logs w.log w'.log [.Claimed order compactClaim order.inputAmount,
        .Repaid order fill.destinationMaker order.inputToken order.inputAmount strategy])
      (outbox : w'.outbox .destination = w.outbox .destination)
      (records : (w.outbox .origin).Records (w'.outbox .origin)
        (CrossChainHashLib.hashOrder keccak256 order)
        (keccak256 (ProofHashLib.encode .DirectRepayment (encode
          (CompactOriginSettler.recorded_repayment keccak256 d.settler
            (CrossChainHashLib.hashOrder keccak256 order) fill)))))
      (hashed : CrossChainHashLib.order_bytes keccak256 order ∈ w'.hashed ∧
        CompactOriginSettler.repayment_id_bytes d.settler
          (CrossChainHashLib.hashOrder keccak256 order) ∈ w'.hashed)
  | settled_routed (order : SolventCrossChainOrder) (fill : VerifiedFill) (compactClaim : Claim)
      (burnAmount : U256) (proven : fill.fillId ≠ 0 ∧ ∃ id, (w.inbox .origin).fills id = fill)
      (fresh : w.settler.settledOrders (CrossChainHashLib.hashOrder keccak256 order) = false)
      (names : fill.orderId = CrossChainHashLib.hashOrder keccak256 order)
      (route : order.routeKind = .TwoMakerCredit)
      (amount : fill.repaymentAmount.val + fill.maxCctpFee.val = burnAmount.val)
      (app : Configured w.app w'.app)
      (settler : w'.settler =
        w.settler.mark (CrossChainHashLib.hashOrder keccak256 order) fill.fillId)
      (logs : Logs w.log w'.log [.Claimed order compactClaim order.inputAmount,
        .Burned order (CompactOriginSettler.routed_burn d.settler
          (CrossChainHashLib.hashOrder keccak256 order) burnAmount fill)])
      (outbox : w'.outbox = w.outbox)
      (hashed : CrossChainHashLib.order_bytes keccak256 order ∈ w'.hashed)

theorem Inside.logs {side : Side} (h : Inside side w w') : Logs w.log w'.log [] := by
  refine ⟨h.log_subset, List.nil_subset _, ?_⟩
  obtain ⟨sent, hlog⟩ := h.log
  intro e he
  rw [hlog, List.mem_append, List.mem_map] at he
  rcases he with hold | ⟨data, -, rfl⟩
  · exact .inl hold
  · exact .inr (.inr ⟨side, data, rfl⟩)

/-- An event before the calls from inside. -/
theorem Inside.logs_after {side : Side} {mid : World} {event : Event} (h : Inside side mid w')
    (hmid : mid.log = w.log ++ [event]) : Logs w.log w'.log [event] := by
  have hlogs := h.logs
  refine ⟨fun e he => hlogs.old (by simp [hmid, he]), ?_, ?_⟩
  · intro e he
    exact hlogs.old (by simp [hmid, List.mem_singleton.mp he])
  · intro e he
    rcases hlogs.only e he with hold | hnew | hsent
    · rw [hmid, List.mem_append] at hold
      exact hold.imp_right .inl
    · cases hnew
    · exact .inr (.inr hsent)

/-- An event after the calls from inside. -/
theorem Logs.emit {log log' events : List Event} (h : Logs log log' events) (event : Event) :
    Logs log (log' ++ [event]) (events ++ [event]) := by
  refine ⟨fun e he => List.mem_append_left _ (h.old he), ?_, ?_⟩
  · intro e he
    rcases List.mem_append.mp he with hold | hnew
    · exact List.mem_append_left _ (h.new hold)
    · exact List.mem_append_right _ hnew
  · intro e he
    rcases List.mem_append.mp he with hold | hnew
    · rcases h.only e hold with hold | hnew | hsent
      · exact .inl hold
      · exact .inr (.inl (List.mem_append_left _ hnew))
      · exact .inr (.inr hsent)
    · exact .inr (.inl (List.mem_append_right _ hnew))

/-- Past the opening of its receivable, a fill makes one change. -/
theorem filled_change {app : CrossChainAquaApp} {o : FillOutside} {order : SolventCrossChainOrder}
    {fill : VerifiedFill} {quoteHash : B256}
    (h : deliver_and_record keccak256 d w app o order fill quoteHash = .ok w')
    (hopens : Opens keccak256 d w.app app order fill)
    (hadmitted : ∀ call ∈ o.calls, call.Admitted d w) : Change keccak256 d w w' := by
  obtain ⟨mid, hmid, hrecord⟩ := deliver_and_record_ok h
  have hinside : Inside .destination
      (w.delivered keccak256 d app order fill quoteHash fill.outputAmount) mid :=
    hmid ▸ inside_destination_inside o.calls _
  have hsub : w.log ⊆ (w.delivered keccak256 d app order fill quoteHash fill.outputAmount).log :=
    List.subset_append_left _ _
  have hrides : Rides (w.delivered keccak256 d app order fill quoteHash fill.outputAmount) mid :=
    hmid ▸ inside_destination_rides fun call hcall => (hadmitted call hcall).mono hsub
  obtain ⟨outbox, houtbox, rfl⟩ := World.record_ok hrecord
  have hrecords := CcipProofOutbox.record_records houtbox
  rw [hrides.outbox] at hrecords
  refine .filled order fill app hopens hinside.app (hinside.logs_after rfl) hinside.settler ?_ ?_ ?_
  · show Mapping.set mid.outbox .destination outbox .origin = _
    rw [Mapping.set_ne _ (by decide), hrides.outbox]
    rfl
  · show (w.outbox .destination).Records (Mapping.set mid.outbox .destination outbox .destination) _ _
    rw [Mapping.set_self]
    exact hrecords
  · refine List.mem_append_left _ (hinside.hashed_extends.subset ?_)
    exact List.mem_append_right w.hashed (by simp)

/-- **Inversion.** A transaction that succeeds makes one of the six changes. -/
theorem apply_change {a : Action} (h : a.apply keccak256 d w = .ok w')
    (hadmitted : a.Admitted d w) : Change keccak256 d w w' := by
  match a, hadmitted with
  | .open_destination call, hadmitted =>
    have hinside := OpenCall.apply_inside h
    exact .quiet hinside.logs hinside.app hinside.settler (OpenCall.apply_outbox h hadmitted)
  | .open_origin call, hadmitted =>
    have hinside := RailCall.apply_inside h
    exact .quiet hinside.logs hinside.app hinside.settler (RailCall.apply_outbox h hadmitted)
  | .fillDirect caller o order mandate quote makerSignature, hadmitted =>
    obtain ⟨horder, -, -, app, happ, h⟩ := fillDirect_ok (bubble_eq_ok.mp h)
    unfold CrossChainAquaApp._validateOrder at horder
    obtain ⟨⟨-, -, -, -, -, -, -, -, -, -, -, -, hroute, -⟩, -⟩ := require_bind.mp horder
    exact filled_change h (.inl ⟨quote, open_direct_ok happ, hroute, rfl⟩) hadmitted
  | .fillCredit caller o order mandate quote makerSignature, hadmitted =>
    obtain ⟨horder, -, -, app, happ, h⟩ := fillCredit_ok (bubble_eq_ok.mp h)
    unfold CrossChainAquaApp._validateOrder at horder
    obtain ⟨⟨-, -, -, -, -, -, -, -, -, -, -, -, hroute, -⟩, -⟩ := require_bind.mp horder
    exact filled_change h (.inr ⟨quote, open_credit_ok happ, hroute, rfl⟩) hadmitted
  | .completeRepayment o orderId message attestation, hadmitted =>
    obtain ⟨-, app, happ, strategy, surplus, rfl⟩ := completeRepayment_ok (bubble_eq_ok.mp h)
    have hinside : Inside .destination { w with app }
        (inside_destination keccak256 d o.calls { w with app }) :=
      inside_destination_inside o.calls _
    have hrides : Rides { w with app } (inside_destination keccak256 d o.calls { w with app }) :=
      inside_destination_rides hadmitted
    exact .completed orderId app strategy surplus (close_credit_ok happ) hinside.app
      (hinside.logs.emit _) hinside.settler hrides.outbox
  | .confirmDirectRepayment orderId repaymentProof, _ =>
    obtain ⟨repayment, hverify, app, happ, rfl⟩ := confirmDirectRepayment_ok (bubble_eq_ok.mp h)
    obtain ⟨repaymentId, -, rfl, hne⟩ := CcipProofInbox.verifyRepayment_ok hverify
    obtain ⟨⟨-, horder, -⟩, hcloses⟩ := close_direct_ok happ
    exact .confirmed orderId repaymentId hne horder hcloses (Inside.refl .destination w).logs rfl rfl
  | .settleDirect o order mandate fillProof compactClaim, hadmitted =>
    obtain ⟨fill, hverify, horder, hfill, hunused, -, strategy, mid, -, hmid, hrecord⟩ :=
      settleDirect_ok (bubble_eq_ok.mp h)
    obtain ⟨hnames, -, -, -, -, -, -, -, -, -, -, hamount, -⟩ := require_eq_ok.mp hfill
    obtain ⟨-, -, -, -, -, -, -, -, -, -, -, -, hroute⟩ := require_eq_ok.mp horder
    rw [hamount] at hmid hrecord
    have hinside : Inside .origin
        (w.claimed keccak256 order compactClaim fill.fillId order.inputAmount) mid :=
      hmid ▸ inside_origin_inside o.calls _
    have hsub : w.log ⊆ (w.claimed keccak256 order compactClaim fill.fillId
        order.inputAmount).log := List.subset_append_left _ _
    have hrides : Rides (w.claimed keccak256 order compactClaim fill.fillId order.inputAmount) mid :=
      hmid ▸ inside_origin_rides fun call hcall => (hadmitted call hcall).mono hsub
    obtain ⟨outbox, houtbox, rfl⟩ := World.record_ok hrecord
    have hrecords := CcipProofOutbox.record_records houtbox
    have hlogs : Logs w.log mid.log [.Claimed order compactClaim order.inputAmount] :=
      hinside.logs_after rfl
    have hlogs' := hlogs.emit (.Repaid order fill.destinationMaker order.inputToken
      order.inputAmount strategy)
    refine .settled_direct order fill compactClaim strategy (verified_proven hverify)
      (unused_ok hunused).1 hnames hroute hinside.app hinside.settler hlogs' ?_ ?_ ?_
    · show Mapping.set mid.outbox .origin outbox .destination = _
      rw [Mapping.set_ne _ (by decide), hrides.outbox]
      rfl
    · show (w.outbox .origin).Records (Mapping.set mid.outbox .origin outbox .origin) _ _
      rw [Mapping.set_self]
      have hsame : (mid.outbox .origin) = w.outbox .origin := by
        rw [hrides.outbox]
        rfl
      rw [← hsame]
      exact hrecords
    · have horderText : CrossChainHashLib.order_bytes keccak256 order ∈ mid.hashed :=
        hinside.hashed_extends.subset (List.mem_append_right w.hashed (List.mem_singleton_self _))
      exact ⟨List.mem_append_left _ (List.mem_append_left _ horderText),
        List.mem_append_left _ (List.mem_append_right _ (List.mem_singleton_self _))⟩
  | .settleRouted o order mandate fillProof compactClaim makerOrder, hadmitted =>
    obtain ⟨fill, hverify, horder, hfill, hunused, -, burnAmount, hburn, rfl⟩ :=
      settleRouted_ok (bubble_eq_ok.mp h)
    obtain ⟨hnames, -⟩ := require_eq_ok.mp hfill
    obtain ⟨-, -, -, -, -, -, -, -, -, -, -, -, hroute⟩ := require_eq_ok.mp horder
    have hinside : Inside .origin
        (w.claimed keccak256 order compactClaim fill.fillId order.inputAmount)
        (inside_origin keccak256 d o.calls
          (w.claimed keccak256 order compactClaim fill.fillId order.inputAmount)) :=
      inside_origin_inside o.calls _
    have hsub : w.log ⊆ (w.claimed keccak256 order compactClaim fill.fillId
        order.inputAmount).log := List.subset_append_left _ _
    have hrides : Rides (w.claimed keccak256 order compactClaim fill.fillId order.inputAmount)
        (inside_origin keccak256 d o.calls
          (w.claimed keccak256 order compactClaim fill.fillId order.inputAmount)) :=
      inside_origin_rides fun call hcall => (hadmitted call hcall).mono hsub
    have hlogs : Logs w.log (inside_origin keccak256 d o.calls
        (w.claimed keccak256 order compactClaim fill.fillId order.inputAmount)).log
        [.Claimed order compactClaim order.inputAmount] := hinside.logs_after rfl
    refine .settled_routed order fill compactClaim burnAmount (verified_proven hverify)
      (unused_ok hunused).1 hnames hroute hburn hinside.app hinside.settler (hlogs.emit _)
      hrides.outbox ?_
    exact hinside.hashed_extends.subset
      (List.mem_append_right w.hashed (List.mem_singleton_self _))

end Solvent.Contracts
