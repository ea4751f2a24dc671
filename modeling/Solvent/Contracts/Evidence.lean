import Mathlib
import Solvent.Contracts.Change

/-! # Evidence of every delivery

    Between transactions each delivery has its record with the outbox, its
    receivable with the terms of its fill, and an id of its own; each payment has
    its record too; and every used-once flag stands for an order that was settled
    or a receivable that was closed (`Evidenced`).
-/

namespace Solvent.Contracts

open Abi Contract CrossChainAquaApp

variable {keccak256 : Bytes → B256} {d : Deployment} {w w' : World}

/-! ## Receivables keep their terms -/

/-- An open or closed receivable with the terms of a direct fill. -/
structure OwedDirect (s : CrossChainAquaApp) (order : SolventCrossChainOrder) (id : B256)
    (fill : VerifiedFill) : Prop where
  opened : (s.directReceivables id).state ≠ .None
  maker : (s.directReceivables id).maker = fill.destinationMaker
  amount : (s.directReceivables id).repaymentAmount = fill.repaymentAmount
  token : s.directRepaymentTokens id = order.inputToken

/-- An open or closed receivable with the terms of a credit fill. -/
structure OwedCredit (s : CrossChainAquaApp) (id : B256) (fill : VerifiedFill) : Prop where
  opened : (s.creditReceivables id).state ≠ .None
  maker : (s.creditReceivables id).maker = fill.destinationMaker
  due : (s.creditReceivables id).usdcDue = fill.repaymentAmount
  fee : (s.creditReceivables id).maxCctpFee = fill.maxCctpFee

theorem OwedDirect.keep {s s' : CrossChainAquaApp} {order : SolventCrossChainOrder} {id : B256}
    {fill : VerifiedFill} (h : OwedDirect s order id fill)
    (hmoves : (s.directReceivables id).Moves (s'.directReceivables id))
    (htoken : s'.directRepaymentTokens id = s.directRepaymentTokens id) :
    OwedDirect s' order id fill := by
  rcases hmoves with hsame | ⟨hnone, -⟩ | ⟨-, hrepaid⟩
  · exact ⟨hsame ▸ h.opened, hsame ▸ h.maker, hsame ▸ h.amount, htoken.trans h.token⟩
  · exact absurd hnone h.opened
  · refine ⟨?_, ?_, ?_, htoken.trans h.token⟩
    · rw [hrepaid]
      exact fun h => by cases h
    · rw [hrepaid]
      exact h.maker
    · rw [hrepaid]
      exact h.amount

theorem OwedCredit.keep {s s' : CrossChainAquaApp} {id : B256} {fill : VerifiedFill}
    (h : OwedCredit s id fill)
    (hmoves : (s.creditReceivables id).Moves (s'.creditReceivables id)) :
    OwedCredit s' id fill := by
  rcases hmoves with hsame | ⟨hnone, -⟩ | ⟨-, hrepaid⟩
  · exact ⟨hsame ▸ h.opened, hsame ▸ h.maker, hsame ▸ h.due, hsame ▸ h.fee⟩
  · exact absurd hnone h.opened
  · refine ⟨?_, ?_, ?_, ?_⟩
    · rw [hrepaid]
      exact fun h => by cases h
    · rw [hrepaid]
      exact h.maker
    · rw [hrepaid]
      exact h.due
    · rw [hrepaid]
      exact h.fee

/-! ## What a change leaves alone -/

namespace Change

/-- The token of a used order stays. -/
theorem token (h : Change keccak256 d w w') {id : B256} (hused : w.app.usedOrders id = true) :
    w'.app.directRepaymentTokens id = w.app.directRepaymentTokens id := by
  match h with
  | quiet _ app _ _ => exact congrFun app.directRepaymentTokens id
  | filled order fill app opens configured _ _ _ _ _ =>
    rw [configured.directRepaymentTokens]
    rcases opens with ⟨quote, hopens, -⟩ | ⟨quote, hopens, -⟩
    · rw [hopens.token]
      refine Mapping.set_ne _ fun heq => ?_
      rw [heq, hopens.fresh] at hused
      cases hused
    · rw [hopens.token]
  | completed _ _ _ _ closes configured _ _ _ =>
    rw [configured.directRepaymentTokens, closes.token]
  | confirmed _ _ _ _ closes _ _ _ => rw [closes.token]
  | settled_direct _ _ _ _ _ _ _ _ app _ _ _ _ _ => exact congrFun app.directRepaymentTokens id
  | settled_routed _ _ _ _ _ _ _ _ _ app _ _ _ _ => exact congrFun app.directRepaymentTokens id

/-- What the destination's outbox holds of a used order stays. -/
theorem destination_record (h : Change keccak256 d w w') {id : B256}
    (hused : w.app.usedOrders id = true) :
    (w'.outbox .destination).recordedPayloads id =
      (w.outbox .destination).recordedPayloads id := by
  match h with
  | quiet _ _ _ outbox => rw [outbox]
  | filled order fill app opens _ _ _ _ records _ =>
    rw [records.recorded]
    refine Mapping.set_ne _ fun heq => ?_
    rcases opens with ⟨quote, hopens, -⟩ | ⟨quote, hopens, -⟩
    all_goals
      rw [heq, hopens.fresh] at hused
      cases hused
  | completed _ _ _ _ _ _ _ _ outbox => rw [outbox]
  | confirmed _ _ _ _ _ _ _ outbox => rw [outbox]
  | settled_direct _ _ _ _ _ _ _ _ _ _ _ outbox _ _ => rw [outbox]
  | settled_routed _ _ _ _ _ _ _ _ _ _ _ _ outbox _ => rw [outbox]

/-- What the origin's outbox holds of a settled order stays. -/
theorem origin_record (h : Change keccak256 d w w') {id : B256}
    (hsettled : w.settler.settledOrders id = true) :
    (w'.outbox .origin).recordedPayloads id = (w.outbox .origin).recordedPayloads id := by
  match h with
  | quiet _ _ _ outbox => rw [outbox]
  | filled _ _ _ _ _ _ _ outbox _ _ => rw [outbox]
  | completed _ _ _ _ _ _ _ _ outbox => rw [outbox]
  | confirmed _ _ _ _ _ _ _ outbox => rw [outbox]
  | settled_direct _ _ _ _ _ fresh _ _ _ _ _ _ records _ =>
    rw [records.recorded]
    refine Mapping.set_ne _ fun heq => ?_
    rw [heq, fresh] at hsettled
    cases hsettled
  | settled_routed _ _ _ _ _ _ _ _ _ _ _ _ outbox _ => rw [outbox]

theorem settled_mono (h : Change keccak256 d w w') {id : B256}
    (hsettled : w.settler.settledOrders id = true) : w'.settler.settledOrders id = true := by
  match h with
  | quiet _ _ settler _ => rwa [settler]
  | filled _ _ _ _ _ _ settler _ _ _ => rwa [settler]
  | completed _ _ _ _ _ _ _ settler _ => rwa [settler]
  | confirmed _ _ _ _ _ _ settler _ => rwa [settler]
  | settled_direct _ _ _ _ _ _ _ _ _ settler _ _ _ _ =>
    rw [settler]
    show Mapping.set w.settler.settledOrders _ true id = true
    rw [Mapping.set_apply]
    split
    · rfl
    · exact hsettled
  | settled_routed _ _ _ _ _ _ _ _ _ _ settler _ _ _ =>
    rw [settler]
    show Mapping.set w.settler.settledOrders _ true id = true
    rw [Mapping.set_apply]
    split
    · rfl
    · exact hsettled

/-- The log of both chains grows. -/
theorem log_subset (h : Change keccak256 d w w') : w.log ⊆ w'.log := by
  match h with
  | quiet logs _ _ _ => exact logs.old
  | filled _ _ _ _ _ logs _ _ _ _ => exact logs.old
  | completed _ _ _ _ _ _ logs _ _ => exact logs.old
  | confirmed _ _ _ _ _ logs _ _ => exact logs.old
  | settled_direct _ _ _ _ _ _ _ _ _ _ logs _ _ _ => exact logs.old
  | settled_routed _ _ _ _ _ _ _ _ _ _ _ logs _ _ => exact logs.old

end Change

/-! ## The invariant -/

/-- What stands behind a delivery. -/
structure Backed (keccak256 : Bytes → B256) (d : Deployment) (w : World)
    (order : SolventCrossChainOrder) (fill : VerifiedFill) : Prop where
  order_ne : CrossChainHashLib.hashOrder keccak256 order ≠ 0
  fill_id : fill.fillId =
    keccak256 (fill_id_bytes d.app (CrossChainHashLib.hashOrder keccak256 order))
  hashed : fill_id_bytes d.app (CrossChainHashLib.hashOrder keccak256 order) ∈ w.hashed
  recorded : (w.outbox .destination).recordedPayloads
      (CrossChainHashLib.hashOrder keccak256 order) =
    keccak256 (ProofHashLib.encode .Fill (encode fill))
  direct : order.routeKind = .DirectMaker →
    OwedDirect w.app order (CrossChainHashLib.hashOrder keccak256 order) fill
  credit : order.routeKind = .TwoMakerCredit →
    OwedCredit w.app (CrossChainHashLib.hashOrder keccak256 order) fill

/-- What stands behind a payment for a direct order. -/
structure Receipted (keccak256 : Bytes → B256) (d : Deployment) (w : World)
    (order : SolventCrossChainOrder) : Prop where
  order_ne : CrossChainHashLib.hashOrder keccak256 order ≠ 0
  hashed : CompactOriginSettler.repayment_id_bytes d.settler
    (CrossChainHashLib.hashOrder keccak256 order) ∈ w.hashed
  recorded : ∃ fill received, .Delivered order fill received ∈ w.log ∧
    (w.outbox .origin).recordedPayloads (CrossChainHashLib.hashOrder keccak256 order) =
      keccak256 (ProofHashLib.encode .DirectRepayment (encode
        (CompactOriginSettler.recorded_repayment keccak256 d.settler
          (CrossChainHashLib.hashOrder keccak256 order) fill)))

structure Evidenced (keccak256 : Bytes → B256) (d : Deployment) (w : World) : Prop where
  indexed : ∀ side, (w.inbox side).Indexed
  delivered : ∀ order fill received, .Delivered order fill received ∈ w.log →
    Backed keccak256 d w order fill
  repaid : ∀ order maker token amount strategy,
    .Repaid order maker token amount strategy ∈ w.log → Receipted keccak256 d w order
  burned : ∀ order deposit, .Burned order deposit ∈ w.log →
    ∃ fill received, .Delivered order fill received ∈ w.log ∧ ∃ burnAmount : U256,
      fill.repaymentAmount.val + fill.maxCctpFee.val = burnAmount.val ∧
        deposit = CompactOriginSettler.routed_burn d.settler
          (CrossChainHashLib.hashOrder keccak256 order) burnAmount fill
  settled : ∀ id, w.settler.settledOrders id = true → ∃ order claim received,
    CrossChainHashLib.hashOrder keccak256 order = id ∧ .Claimed order claim received ∈ w.log
  used_fills : ∀ id, w.settler.usedFillProofs id = true → ∃ order fill received,
    .Delivered order fill received ∈ w.log ∧ fill.fillId = id ∧
      w.settler.settledOrders (CrossChainHashLib.hashOrder keccak256 order) = true
  used_repayments : ∀ id, w.app.usedRepaymentProofs id = true →
    ∃ order maker token amount strategy, .Repaid order maker token amount strategy ∈ w.log ∧
      id = keccak256 (CompactOriginSettler.repayment_id_bytes d.settler
        (CrossChainHashLib.hashOrder keccak256 order)) ∧
      (w.app.directReceivables (CrossChainHashLib.hashOrder keccak256 order)).state = .Repaid

theorem evidenced_empty : Evidenced keccak256 d World.empty where
  indexed _ := CcipProofInbox.indexed_empty
  delivered _ _ _ h := absurd h (by simp [World.empty])
  repaid _ _ _ _ _ h := absurd h (by simp [World.empty])
  burned _ _ h := absurd h (by simp [World.empty])
  settled _ h := absurd h (by simp [World.empty, CompactOriginSettler.empty])
  used_fills _ h := absurd h (by simp [World.empty, CompactOriginSettler.empty])
  used_repayments _ h := absurd h (by simp [World.empty, CrossChainAquaApp.empty])

/-! ## What a change adds -/

namespace Change

/-- A new delivery is backed. -/
theorem delivered (h : Change keccak256 d w w') {order : SolventCrossChainOrder}
    {fill : VerifiedFill} {received : U256} (hmem : .Delivered order fill received ∈ w'.log) :
    .Delivered order fill received ∈ w.log ∨ Backed keccak256 d w' order fill := by
  match h with
  | quiet logs _ _ _ => exact .inl (by simpa using logs.only _ hmem)
  | completed _ _ _ _ _ _ logs _ _ => exact .inl (by simpa using logs.only _ hmem)
  | confirmed _ _ _ _ _ logs _ _ => exact .inl (by simpa using logs.only _ hmem)
  | settled_direct _ _ _ _ _ _ _ _ _ _ logs _ _ _ => exact .inl (by simpa using logs.only _ hmem)
  | settled_routed _ _ _ _ _ _ _ _ _ _ _ logs _ _ => exact .inl (by simpa using logs.only _ hmem)
  | filled order' fill' app opens configured logs _ _ records hashed =>
    rcases logs.only _ hmem with hold | hnew | ⟨side, data, hsent⟩
    · exact .inl hold
    · obtain ⟨rfl, rfl, -⟩ : order = order' ∧ fill = fill' ∧ _ := by simpa using hnew
      have hrecorded : (w'.outbox .destination).recordedPayloads
          (CrossChainHashLib.hashOrder keccak256 order) =
          keccak256 (ProofHashLib.encode .Fill (encode fill)) := by
        rw [records.recorded, Mapping.set_self]
      refine .inr ?_
      rcases opens with ⟨quote, hopens, hroute, rfl⟩ | ⟨quote, hopens, hroute, rfl⟩
      · obtain ⟨filledAt, hreceivable⟩ := hopens.receivable
        refine ⟨records.order_ne, rfl, hashed, hrecorded, fun _ => ?_, fun h => ?_⟩
        · have hreceivable' := congrFun (configured.directReceivables.trans hreceivable)
            (CrossChainHashLib.hashOrder keccak256 order)
          have htoken := congrFun (configured.directRepaymentTokens.trans hopens.token)
            (CrossChainHashLib.hashOrder keccak256 order)
          rw [Mapping.set_self] at hreceivable' htoken
          refine ⟨?_, ?_, ?_, htoken⟩
          · rw [hreceivable']
            exact fun h => by cases h
          · rw [hreceivable']
            rfl
          · rw [hreceivable']
            rfl
        · rw [hroute] at h
          cases h
      · obtain ⟨filledAt, hreceivable⟩ := hopens.receivable
        refine ⟨records.order_ne, rfl, hashed, hrecorded, fun h => ?_, fun _ => ?_⟩
        · rw [hroute] at h
          cases h
        · have hreceivable' := congrFun (configured.creditReceivables.trans hreceivable)
            (CrossChainHashLib.hashOrder keccak256 order)
          rw [Mapping.set_self] at hreceivable'
          refine ⟨?_, ?_, ?_, ?_⟩
          · rw [hreceivable']
            exact fun h => by cases h
          · rw [hreceivable']
            rfl
          · rw [hreceivable']
            rfl
          · rw [hreceivable']
            rfl
    · cases hsent

/-- A new payment is receipted. -/
theorem repaid (h : Change keccak256 d w w') (hbooks : Books keccak256 d w)
    (hhashed : w.hashed ⊆ w'.hashed) (htold : w'.Told keccak256) {order : SolventCrossChainOrder}
    {maker token : Address} {amount : U256} {strategy : Option B256}
    (hmem : .Repaid order maker token amount strategy ∈ w'.log) :
    .Repaid order maker token amount strategy ∈ w.log ∨ Receipted keccak256 d w' order := by
  match h with
  | quiet logs _ _ _ => exact .inl (by simpa using logs.only _ hmem)
  | filled _ _ _ _ _ logs _ _ _ _ => exact .inl (by simpa using logs.only _ hmem)
  | completed _ _ _ _ _ _ logs _ _ => exact .inl (by simpa using logs.only _ hmem)
  | confirmed _ _ _ _ _ logs _ _ => exact .inl (by simpa using logs.only _ hmem)
  | settled_routed _ _ _ _ _ _ _ _ _ _ _ logs _ _ => exact .inl (by simpa using logs.only _ hmem)
  | settled_direct order' fill claim strategy' proven fresh names route app settler logs outbox
      records hashed =>
    rcases logs.only _ hmem with hold | hnew | ⟨side, data, hsent⟩
    · exact .inl hold
    · obtain ⟨rfl, -⟩ : order = order' ∧ _ := by simpa using hnew
      obtain ⟨received, hdelivered⟩ := hbooks.proven proven names hashed.1 hhashed htold
      refine .inr ⟨records.order_ne, hashed.2, fill, received, logs.old hdelivered, ?_⟩
      rw [records.recorded, Mapping.set_self]
    · cases hsent

/-- A new burn is for a delivered order. -/
theorem burned (h : Change keccak256 d w w') (hbooks : Books keccak256 d w)
    (hhashed : w.hashed ⊆ w'.hashed) (htold : w'.Told keccak256) {order : SolventCrossChainOrder}
    {deposit : DepositForBurn} (hmem : .Burned order deposit ∈ w'.log) :
    .Burned order deposit ∈ w.log ∨
      ∃ fill received, .Delivered order fill received ∈ w'.log ∧ ∃ burnAmount : U256,
        fill.repaymentAmount.val + fill.maxCctpFee.val = burnAmount.val ∧
          deposit = CompactOriginSettler.routed_burn d.settler
            (CrossChainHashLib.hashOrder keccak256 order) burnAmount fill := by
  match h with
  | quiet logs _ _ _ => exact .inl (by simpa using logs.only _ hmem)
  | filled _ _ _ _ _ logs _ _ _ _ => exact .inl (by simpa using logs.only _ hmem)
  | completed _ _ _ _ _ _ logs _ _ => exact .inl (by simpa using logs.only _ hmem)
  | confirmed _ _ _ _ _ logs _ _ => exact .inl (by simpa using logs.only _ hmem)
  | settled_direct _ _ _ _ _ _ _ _ _ _ logs _ _ _ => exact .inl (by simpa using logs.only _ hmem)
  | settled_routed order' fill claim burnAmount proven fresh names route amount app settler logs
      outbox hashed =>
    rcases logs.only _ hmem with hold | hnew | ⟨side, data, hsent⟩
    · exact .inl hold
    · obtain ⟨rfl, rfl⟩ : order = order' ∧ deposit = CompactOriginSettler.routed_burn d.settler
          (CrossChainHashLib.hashOrder keccak256 order') burnAmount fill := by simpa using hnew
      obtain ⟨received, hdelivered⟩ := hbooks.proven proven names hashed hhashed htold
      exact .inr ⟨fill, received, logs.old hdelivered, burnAmount, amount, rfl⟩
    · cases hsent

/-- A newly settled order was claimed, and its proof is used. -/
theorem settles (h : Change keccak256 d w w') (hbooks : Books keccak256 d w)
    (hhashed : w.hashed ⊆ w'.hashed) (htold : w'.Told keccak256) :
    w'.settler = w.settler ∨ ∃ order fill claim received,
      w'.settler = w.settler.mark (CrossChainHashLib.hashOrder keccak256 order) fill.fillId ∧
        .Claimed order claim order.inputAmount ∈ w'.log ∧
        .Delivered order fill received ∈ w'.log := by
  match h with
  | quiet _ _ settler _ => exact .inl settler
  | filled _ _ _ _ _ _ settler _ _ _ => exact .inl settler
  | completed _ _ _ _ _ _ _ settler _ => exact .inl settler
  | confirmed _ _ _ _ _ _ settler _ => exact .inl settler
  | settled_direct order fill claim _ proven _ names _ _ settler logs _ _ hashed =>
    obtain ⟨received, hdelivered⟩ := hbooks.proven proven names hashed.1 hhashed htold
    exact .inr ⟨order, fill, claim, received, settler, logs.new (by simp), logs.old hdelivered⟩
  | settled_routed order fill claim _ proven _ names _ _ _ settler logs _ hashed =>
    obtain ⟨received, hdelivered⟩ := hbooks.proven proven names hashed hhashed htold
    exact .inr ⟨order, fill, claim, received, settler, logs.new (by simp), logs.old hdelivered⟩

/-- A newly used repayment proof closed the receivable of a paid order. -/
theorem used_repayments (h : Change keccak256 d w w') (hrails : Rails keccak256 d w) {id : B256}
    (hused : w'.app.usedRepaymentProofs id = true) :
    w.app.usedRepaymentProofs id = true ∨ ∃ order maker token amount strategy,
      .Repaid order maker token amount strategy ∈ w'.log ∧
        id = keccak256 (CompactOriginSettler.repayment_id_bytes d.settler
          (CrossChainHashLib.hashOrder keccak256 order)) ∧
        (w'.app.directReceivables (CrossChainHashLib.hashOrder keccak256 order)).state =
          .Repaid := by
  match h with
  | quiet _ app _ _ =>
    rw [app.usedRepaymentProofs] at hused
    exact .inl hused
  | filled _ _ app opens configured _ _ _ _ _ =>
    rw [configured.usedRepaymentProofs] at hused
    rcases opens with ⟨quote, hopens, -⟩ | ⟨quote, hopens, -⟩
    all_goals
      rw [hopens.proofs] at hused
      exact .inl hused
  | completed _ _ _ _ closes configured _ _ _ =>
    rw [configured.usedRepaymentProofs, closes.proofs] at hused
    exact .inl hused
  | settled_direct _ _ _ _ _ _ _ _ app _ _ _ _ _ =>
    rw [app.usedRepaymentProofs] at hused
    exact .inl hused
  | settled_routed _ _ _ _ _ _ _ _ _ app _ _ _ _ =>
    rw [app.usedRepaymentProofs] at hused
    exact .inl hused
  | confirmed orderId repaymentId repayment named closes logs _ _ =>
    rw [closes.proofs, Mapping.set_apply] at hused
    split at hused
    · rename_i heq
      obtain ⟨order, fill, strategy, hrecorded, -, hmem⟩ := hrails.repayments repaymentId repayment
      rw [hrecorded] at heq named
      refine .inr ⟨order, _, _, _, strategy, logs.old hmem, heq, ?_⟩
      have horder : CrossChainHashLib.hashOrder keccak256 order = orderId := named
      rw [horder, closes.receivable, Mapping.set_self]
    · exact .inl hused

end Change

/-! ## Steps and runs -/

/-- **Step lemma.** -/
theorem Evidenced.change (h : Evidenced keccak256 d w) (hbooks : Books keccak256 d w)
    (hchange : Change keccak256 d w w') (haccounted : Accounted w.app w'.app)
    (hindexed : w.IndexedInto w') (hhashed : w.hashed ⊆ w'.hashed) (htold : w'.Told keccak256) :
    Evidenced keccak256 d w' := by
  have hlog := hchange.log_subset
  constructor
  · exact fun side => hindexed side (h.indexed side)
  · intro order fill received hmem
    rcases hchange.delivered hmem with hold | hnew
    · have hbacked := h.delivered order fill received hold
      obtain ⟨hused, -, -⟩ := hbooks.delivered order fill received hold
      exact ⟨hbacked.order_ne, hbacked.fill_id, hhashed hbacked.hashed,
        (hchange.destination_record hused).trans hbacked.recorded,
        fun hroute => (hbacked.direct hroute).keep (haccounted.direct _) (hchange.token hused),
        fun hroute => (hbacked.credit hroute).keep (haccounted.credit _)⟩
    · exact hnew
  · intro order maker token amount strategy hmem
    rcases hchange.repaid hbooks hhashed htold hmem with hold | hnew
    · obtain ⟨hne, htext, fill, received, hdelivered, hrecorded⟩ :=
        h.repaid order maker token amount strategy hold
      have hsettled := hbooks.settled_of_repaid hold
      exact ⟨hne, hhashed htext, fill, received, hlog hdelivered,
        (hchange.origin_record hsettled).trans hrecorded⟩
    · exact hnew
  · intro order deposit hmem
    rcases hchange.burned hbooks hhashed htold hmem with hold | hnew
    · obtain ⟨fill, received, hdelivered, hburned⟩ := h.burned order deposit hold
      exact ⟨fill, received, hlog hdelivered, hburned⟩
    · exact hnew
  · intro id hid
    rcases hchange.settles hbooks hhashed htold with hsame | ⟨order, fill, claim, received, hmark, hnew⟩
    · rw [hsame] at hid
      obtain ⟨order, claim, received, horder, hmem⟩ := h.settled id hid
      exact ⟨order, claim, received, horder, hlog hmem⟩
    · rw [hmark] at hid
      change Mapping.set w.settler.settledOrders _ true id = true at hid
      rw [Mapping.set_apply] at hid
      split at hid
      · rename_i heq
        exact ⟨order, claim, _, heq.symm, hnew.1⟩
      · obtain ⟨order, claim, received, horder, hmem⟩ := h.settled id hid
        exact ⟨order, claim, received, horder, hlog hmem⟩
  · intro id hid
    rcases hchange.settles hbooks hhashed htold with hsame | ⟨order, fill, claim, received, hmark, hnew⟩
    · rw [hsame] at hid
      obtain ⟨order, fill, received, hmem, hfill, hsettled⟩ := h.used_fills id hid
      exact ⟨order, fill, received, hlog hmem, hfill, hchange.settled_mono hsettled⟩
    · rw [hmark] at hid
      change Mapping.set w.settler.usedFillProofs _ true id = true at hid
      rw [Mapping.set_apply] at hid
      split at hid
      · rename_i heq
        refine ⟨order, fill, received, hnew.2, heq.symm, ?_⟩
        rw [hmark]
        exact Mapping.set_self w.settler.settledOrders _ true
      · obtain ⟨order', fill', received', hmem, hfill, hsettled⟩ := h.used_fills id hid
        exact ⟨order', fill', received', hlog hmem, hfill, hchange.settled_mono hsettled⟩
  · intro id hid
    rcases hchange.used_repayments hbooks.rails hid with hold | hnew
    · obtain ⟨order, maker, token, amount, strategy, hmem, heq, hrepaid⟩ :=
        h.used_repayments id hold
      refine ⟨order, maker, token, amount, strategy, hlog hmem, heq, ?_⟩
      rcases haccounted.direct (CrossChainHashLib.hashOrder keccak256 order) with
        hsame | ⟨hnone, -⟩ | ⟨-, hclosed⟩
      · rwa [hsame]
      · rw [hrepaid] at hnone
        cases hnone
      · rw [hclosed]
    · exact hnew

theorem deliver_and_record_indexed {app : CrossChainAquaApp} {o : FillOutside}
    {order : SolventCrossChainOrder} {fill : VerifiedFill} {quoteHash : B256}
    (h : deliver_and_record keccak256 d w app o order fill quoteHash = .ok w')
    (hadmitted : ∀ call ∈ o.calls, call.Admitted d w) : w.IndexedInto w' := by
  obtain ⟨mid, hmid, hrecord⟩ := deliver_and_record_ok h
  obtain ⟨outbox, -, rfl⟩ := World.record_ok hrecord
  have hsub : w.log ⊆ (w.delivered keccak256 d app order fill quoteHash fill.outputAmount).log :=
    List.subset_append_left _ _
  have hrides : Rides (w.delivered keccak256 d app order fill quoteHash fill.outputAmount) mid :=
    hmid ▸ inside_destination_rides fun call hcall => (hadmitted call hcall).mono hsub
  exact hrides.inbox

/-- Receipts keep the slots of both inboxes in every transaction. -/
theorem apply_indexed {a : Action} (h : a.apply keccak256 d w = .ok w')
    (hadmitted : a.Admitted d w) : w.IndexedInto w' := by
  match a, hadmitted with
  | .open_destination call, _ => exact OpenCall.apply_indexed h
  | .open_origin call, _ => exact RailCall.apply_indexed h
  | .fillDirect caller o order mandate quote makerSignature, hadmitted =>
    obtain ⟨-, -, -, app, -, h⟩ := fillDirect_ok (bubble_eq_ok.mp h)
    exact deliver_and_record_indexed h hadmitted
  | .fillCredit caller o order mandate quote makerSignature, hadmitted =>
    obtain ⟨-, -, -, app, -, h⟩ := fillCredit_ok (bubble_eq_ok.mp h)
    exact deliver_and_record_indexed h hadmitted
  | .completeRepayment o orderId message attestation, hadmitted =>
    obtain ⟨-, app, -, strategy, surplus, rfl⟩ := completeRepayment_ok (bubble_eq_ok.mp h)
    exact (inside_destination_rides (w := { w with app }) hadmitted).inbox
  | .confirmDirectRepayment orderId repaymentProof, _ =>
    obtain ⟨repayment, -, app, -, rfl⟩ := confirmDirectRepayment_ok (bubble_eq_ok.mp h)
    exact fun _ => id
  | .settleDirect o order mandate fillProof compactClaim, hadmitted =>
    obtain ⟨fill, -, -, -, -, -, strategy, mid, -, hmid, hrecord⟩ :=
      settleDirect_ok (bubble_eq_ok.mp h)
    obtain ⟨outbox, -, rfl⟩ := World.record_ok hrecord
    have hsub : w.log ⊆ (w.claimed keccak256 order compactClaim fill.fillId
        fill.repaymentAmount).log := List.subset_append_left _ _
    have hrides : Rides
        (w.claimed keccak256 order compactClaim fill.fillId fill.repaymentAmount) mid :=
      hmid ▸ inside_origin_rides fun call hcall => (hadmitted call hcall).mono hsub
    exact hrides.inbox
  | .settleRouted o order mandate fillProof compactClaim makerOrder, hadmitted =>
    obtain ⟨fill, -, -, -, -, -, burnAmount, -, rfl⟩ := settleRouted_ok (bubble_eq_ok.mp h)
    have hsub : w.log ⊆ (w.claimed keccak256 order compactClaim fill.fillId
        order.inputAmount).log := List.subset_append_left _ _
    exact (inside_origin_rides fun call hcall => (hadmitted call hcall).mono hsub).inbox

/-- What every transaction keeps, with the evidence of it. -/
structure Sound (keccak256 : Bytes → B256) (d : Deployment) (w : World) : Prop where
  safe : Safe keccak256 d w
  evidenced : Evidenced keccak256 d w

/-- **Step lemma.** -/
theorem step_sound {a : Action} (h : Sound keccak256 d w) (hadmitted : a.Admitted d w)
    (htold : (step keccak256 d w a).Told keccak256) : Sound keccak256 d (step keccak256 d w a) := by
  refine ⟨step_safe h.safe hadmitted htold, ?_⟩
  have haccounted : Accounted w.app (step keccak256 d w a).app :=
    step_accounted w a h.safe.exposed
  rcases attempt_cases (fun w => a.apply keccak256 d w) w with ⟨w', hok, heq⟩ | heq
  · change step keccak256 d w a = w' at heq
    rw [heq] at htold haccounted ⊢
    exact h.evidenced.change h.safe.books (apply_change hok hadmitted) haccounted
      (apply_indexed hok hadmitted) (apply_hashed hok).subset htold
  · change step keccak256 d w a = w at heq
    rw [heq]
    exact h.evidenced

/-- **Run lemma.** -/
theorem run_sound {actions : List Action} (h : Sound keccak256 d w)
    (hadmitted : Run.Along (step keccak256 d) (fun w a => a.Admitted d w) w actions)
    (htold : (Run.run (step keccak256 d) w actions).Told keccak256) :
    Sound keccak256 d (Run.run (step keccak256 d) w actions) := by
  have htoldAlong := Run.along_of_final (P := fun w : World => w.Told keccak256)
    (fun w a => told_of_step) htold
  exact Run.invariant (fun w a h hq => step_sound h hq.1 hq.2) h
    (Run.along_and hadmitted htoldAlong)

theorem sound_empty : Sound keccak256 d World.empty :=
  ⟨⟨exposed_empty, books_empty, settled_empty⟩, evidenced_empty⟩

end Solvent.Contracts
