import Mathlib
import Solvent.Contracts.Rails

/-! # Settlement across the chains

    The log says which deliveries, claims and payments happened, in order. Each
    of them is allowed by what came before it (`Allowed`): a claim by a delivery
    of the same order, a payment to a maker by its claim. The used-once maps of
    both contracts keep each of them single, and a proof stands for the delivery
    or the payment it names because the hash tells the hashed orders apart.
-/

namespace Solvent.Contracts

open Abi Contract CrossChainAquaApp

variable (keccak256 : Bytes → B256) (d : Deployment)

/-! ## What the log allows -/

/-- What has to be in the log before an event, and what may not be. -/
def Allowed (before : List Event) : Event → Prop
  | .Dispatched _ _ => True
  | .Delivered order fill received =>
    (∀ fill' received', .Delivered order fill' received' ∉ before) ∧
      fill.recipient = order.recipient ∧ fill.outputToken = order.outputToken ∧
      fill.outputAmount = received ∧ order.minimumOutputAmount ≤ received
  | .Claimed order claim received =>
    (∀ claim' received', .Claimed order claim' received' ∉ before) ∧
      claim.sponsor = order.user ∧ claim.id = order.compactId ∧
      claim.allocatedAmount = order.inputAmount ∧ received = order.inputAmount ∧
      ∃ fill delivered, .Delivered order fill delivered ∈ before
  | .Repaid order maker token amount strategy =>
    (∀ maker' token' amount' strategy', .Repaid order maker' token' amount' strategy' ∉ before) ∧
      order.routeKind = .DirectMaker ∧ token = order.inputToken ∧ amount = order.inputAmount ∧
      (∃ claim, .Claimed order claim amount ∈ before) ∧
      ∃ fill delivered, .Delivered order fill delivered ∈ before ∧ fill.destinationMaker = maker ∧
        (strategy = none ∨ strategy = some fill.originStrategyHash)
  | .Burned order _ => order.routeKind = .TwoMakerCredit ∧
      ∃ claim, .Claimed order claim order.inputAmount ∈ before
  | .CreditRepaid orderId _ _ _ _ => ∀ maker amount strategy surplus,
      .CreditRepaid orderId maker amount strategy surplus ∉ before

/-! ## Invariants -/

/-- What the maps of both contracts keep of the log. -/
structure Books (w : World) : Prop where
  rails : Rails keccak256 d w
  justified : Run.Justified Allowed w.log
  delivered : ∀ order fill received, .Delivered order fill received ∈ w.log →
    w.app.usedOrders (CrossChainHashLib.hashOrder keccak256 order) = true ∧
      CrossChainHashLib.order_bytes keccak256 order ∈ w.hashed ∧
      fill.orderId = CrossChainHashLib.hashOrder keccak256 order
  claimed : ∀ order claim received, .Claimed order claim received ∈ w.log →
    w.settler.settledOrders (CrossChainHashLib.hashOrder keccak256 order) = true

/-- What is closed between transactions was paid. -/
structure Settled (w : World) : Prop where
  paid : ∀ order claim received, .Claimed order claim received ∈ w.log →
    order.routeKind = .DirectMaker → ∃ maker strategy,
      .Repaid order maker order.inputToken order.inputAmount strategy ∈ w.log
  direct : ∀ id, (w.app.directReceivables id).state = .Repaid → ∃ order strategy,
    CrossChainHashLib.hashOrder keccak256 order = id ∧
      .Repaid order (w.app.directReceivables id).maker (w.app.directRepaymentTokens id)
        (w.app.directReceivables id).repaymentAmount strategy ∈ w.log
  credit : ∀ id, (w.app.creditReceivables id).state = .Repaid → ∃ strategy surplus,
    .CreditRepaid id (w.app.creditReceivables id).maker (w.app.creditReceivables id).usdcDue
      strategy surplus ∈ w.log
  credit_closed : ∀ id maker amount strategy surplus,
    .CreditRepaid id maker amount strategy surplus ∈ w.log →
    (w.app.creditReceivables id).state = .Repaid

variable {keccak256 d}

theorem books_empty : Books keccak256 d World.empty where
  rails := rails_empty
  justified := Run.justified_nil Allowed
  delivered _ _ _ h := absurd h (by simp [World.empty])
  claimed _ _ _ h := absurd h (by simp [World.empty])

theorem settled_empty : Settled keccak256 World.empty where
  paid _ _ _ h := absurd h (by simp [World.empty])
  direct _ h := absurd h (by simp [World.empty, CrossChainAquaApp.empty])
  credit _ h := absurd h (by simp [World.empty, CrossChainAquaApp.empty])
  credit_closed _ _ _ _ _ h := absurd h (by simp [World.empty])

/-- Calls from inside add dispatches only. -/
theorem Inside.mem_log {side : Side} {w w' : World} (h : Inside side w w') {event : Event}
    (hevent : ∀ side data, event ≠ .Dispatched side data) : event ∈ w'.log ↔ event ∈ w.log := by
  obtain ⟨sent, hlog⟩ := h.log
  have hnot : event ∉ sent.map (Event.Dispatched side) := by
    intro hmem
    obtain ⟨data, -, heq⟩ := List.mem_map.mp hmem
    exact hevent side data heq.symm
  rw [hlog, List.mem_append, or_iff_left hnot]

/-! ## What each event does to the books -/

section Events

variable {w w' : World}

/-- Dispatches and configuration keep the books. -/
theorem Books.inside {side : Side} (h : Books keccak256 d w) (hinside : Inside side w w')
    (hrails : Rails keccak256 d w') : Books keccak256 d w' := by
  obtain ⟨sent, hlog⟩ := hinside.log
  obtain ⟨texts, hhashed⟩ := hinside.hashed
  refine ⟨hrails, ?_, ?_, ?_⟩
  · rw [hlog]
    exact Run.justified_append h.justified (by simp [Allowed])
  · intro order fill received hmem
    rw [hlog] at hmem
    obtain ⟨hused, htext, horderId⟩ := h.delivered order fill received (by simpa using hmem)
    rw [hinside.app.usedOrders, hhashed]
    exact ⟨hused, List.mem_append_left texts htext, horderId⟩
  · intro order claim received hmem
    rw [hlog] at hmem
    rw [hinside.settler]
    exact h.claimed order claim received (by simpa using hmem)

/-- A record keeps the books. -/
theorem Books.record {side : Side} {caller : Address} {orderId : B256} {kind : ProofKind}
    {payload : Bytes} (h : Books keccak256 d w)
    (hrecord : w.record keccak256 d side caller orderId kind payload = .ok w')
    (hrails : Rails keccak256 d w') : Books keccak256 d w' := by
  obtain ⟨outbox, -, rfl⟩ := World.record_ok hrecord
  refine ⟨hrails, h.justified, ?_, h.claimed⟩
  intro order fill received hmem
  obtain ⟨hused, htext, horderId⟩ := h.delivered order fill received hmem
  exact ⟨hused, List.mem_append_left _ htext, horderId⟩

/-- **Step lemma.** An unused order can be delivered. -/
theorem Books.deliver {app : CrossChainAquaApp} {order : SolventCrossChainOrder}
    {fill : VerifiedFill} {quoteHash : B256} (h : Books keccak256 d w)
    (hfresh : w.app.usedOrders (CrossChainHashLib.hashOrder keccak256 order) = false)
    (hused : app.usedOrders =
      Mapping.set w.app.usedOrders (CrossChainHashLib.hashOrder keccak256 order) true)
    (horderId : fill.orderId = CrossChainHashLib.hashOrder keccak256 order)
    (hrecipient : fill.recipient = order.recipient) (htoken : fill.outputToken = order.outputToken)
    (hamount : order.minimumOutputAmount ≤ fill.outputAmount) :
    Books keccak256 d (w.delivered keccak256 d app order fill quoteHash fill.outputAmount) := by
  refine ⟨h.rails.extend rfl rfl rfl (by simp) rfl, ?_, ?_, ?_⟩
  · refine Run.justified_concat h.justified ⟨?_, hrecipient, htoken, rfl, hamount⟩
    -- A delivery of the same order would have used it.
    intro fill' received' hmem
    rw [(h.delivered order fill' received' hmem).1] at hfresh
    cases hfresh
  · intro order' fill' received' hmem
    show app.usedOrders _ = true ∧ _ ∈ w.hashed ++ _ ∧ _
    rw [hused, Mapping.set_apply]
    rcases List.mem_append.mp hmem with hold | hnew
    · obtain ⟨hused', htext, horderId'⟩ := h.delivered order' fill' received' hold
      refine ⟨?_, List.mem_append_left _ htext, horderId'⟩
      split
      · rfl
      · exact hused'
    · obtain ⟨rfl, rfl, -⟩ : order' = order ∧ fill' = fill ∧ received' = fill.outputAmount := by
        simpa using hnew
      exact ⟨if_pos rfl, List.mem_append_right _ (by simp), horderId⟩
  · intro order' claim received' hmem
    exact h.claimed order' claim received' (by simpa [World.delivered, World.emit, World.hashing] using hmem)

/-- **Step lemma.** A delivered order that is not settled can be claimed. -/
theorem Books.claim {order : SolventCrossChainOrder} {claim : Claim} {fillId : B256}
    (h : Books keccak256 d w)
    (hfresh : w.settler.settledOrders (CrossChainHashLib.hashOrder keccak256 order) = false)
    (hsponsor : claim.sponsor = order.user) (hid : claim.id = order.compactId)
    (hamount : claim.allocatedAmount = order.inputAmount)
    (hdelivered : ∃ fill delivered, .Delivered order fill delivered ∈ w.log) :
    Books keccak256 d (w.claimed keccak256 order claim fillId order.inputAmount) := by
  refine ⟨h.rails.extend rfl rfl rfl (by simp) rfl, ?_, ?_, ?_⟩
  · refine Run.justified_concat h.justified ⟨?_, hsponsor, hid, hamount, rfl, hdelivered⟩
    -- A claim of the same order would have settled it.
    intro claim' received' hmem
    rw [h.claimed order claim' received' hmem] at hfresh
    cases hfresh
  · intro order' fill' received' hmem
    obtain ⟨hused, htext, horderId⟩ := h.delivered order' fill' received'
      (by simpa [World.claimed, World.emit, World.hashing] using hmem)
    exact ⟨hused, List.mem_append_left _ htext, horderId⟩
  · intro order' claim' received' hmem
    show Mapping.set w.settler.settledOrders _ true _ = true
    rw [Mapping.set_apply]
    split
    · rfl
    · rename_i hne
      rcases List.mem_append.mp hmem with hold | hnew
      · exact h.claimed order' claim' received' hold
      · obtain ⟨rfl, -⟩ : order' = order ∧ claim' = claim ∧ received' = order.inputAmount := by
          simpa using hnew
        exact absurd rfl hne

/-- **Step lemma.** An event other than a delivery, a claim and a dispatch keeps
    the books when it is allowed. -/
theorem Books.emit {event : Event} (h : Books keccak256 d w)
    (hallowed : Allowed w.log event) (hdispatched : ∀ side data, event ≠ .Dispatched side data)
    (hdelivered : ∀ order fill received, event ≠ .Delivered order fill received)
    (hclaimed : ∀ order claim received, event ≠ .Claimed order claim received) :
    Books keccak256 d (w.emit event) := by
  refine ⟨h.rails.extend rfl rfl rfl ?_ (List.append_nil _).symm,
    Run.justified_concat h.justified hallowed, ?_, ?_⟩
  · intro side data hmem
    exact hdispatched side data (List.mem_singleton.mp hmem).symm
  · intro order fill received hmem
    rcases List.mem_append.mp hmem with hold | hnew
    · exact h.delivered order fill received hold
    · exact absurd (List.mem_singleton.mp hnew).symm (hdelivered order fill received)
  · intro order claim received hmem
    rcases List.mem_append.mp hmem with hold | hnew
    · exact h.claimed order claim received hold
    · exact absurd (List.mem_singleton.mp hnew).symm (hclaimed order claim received)

/-- Hashing more texts keeps the books. -/
theorem Books.hashing (h : Books keccak256 d w) (texts : List Bytes) :
    Books keccak256 d (w.hashing texts) := by
  refine ⟨h.rails.extend rfl rfl (List.append_nil _).symm (by simp) rfl, h.justified, ?_, h.claimed⟩
  intro order fill received hmem
  obtain ⟨hused, htext, horderId⟩ := h.delivered order fill received hmem
  exact ⟨hused, List.mem_append_left texts htext, horderId⟩

/-- **A proof names the delivery of the order it is claimed for**: its order id
    is the hash of the order that was delivered, and no other hashed order has
    that hash. -/
theorem Books.proven {order : SolventCrossChainOrder} {fill : VerifiedFill}
    (h : Books keccak256 d w)
    (hproven : fill.fillId ≠ 0 ∧ ∃ id, (w.inbox .origin).fills id = fill)
    (horderId : fill.orderId = CrossChainHashLib.hashOrder keccak256 order)
    (hhashed : CrossChainHashLib.order_bytes keccak256 order ∈ w'.hashed)
    (hgrows : w.hashed ⊆ w'.hashed) (htold : w'.Told keccak256) :
    ∃ received, .Delivered order fill received ∈ w.log := by
  obtain ⟨hne, fillId, rfl⟩ := hproven
  obtain ⟨order', received, hmem⟩ := h.rails.fills fillId hne
  obtain ⟨-, htext, horderId'⟩ := h.delivered order' _ received hmem
  have hbytes : CrossChainHashLib.order_bytes keccak256 order =
      CrossChainHashLib.order_bytes keccak256 order' :=
    htold hhashed (hgrows htext) (horderId.symm.trans horderId')
  obtain rfl := CrossChainHashLib.order_bytes_injective keccak256 hbytes
  exact ⟨received, hmem⟩

/-- What a verified proof is taken from. -/
theorem verified_proven {inbox : CcipProofInbox} {fillProof : Bytes} {fill : VerifiedFill}
    (h : inbox.verifyFill fillProof = .ok fill) :
    fill.fillId ≠ 0 ∧ ∃ id, inbox.fills id = fill := by
  obtain ⟨fillId, -, hstored, hne⟩ := CcipProofInbox.verifyFill_ok h
  exact ⟨hne, fillId, hstored⟩

end Events

/-- Whoever was paid for an order was paid after its claim. -/
theorem Books.settled_of_repaid {w : World} {order : SolventCrossChainOrder}
    {maker token : Address} {amount : U256} {strategy : Option B256} (h : Books keccak256 d w)
    (hrepaid : .Repaid order maker token amount strategy ∈ w.log) :
    w.settler.settledOrders (CrossChainHashLib.hashOrder keccak256 order) = true := by
  obtain ⟨before, hbefore, -, -, -, -, ⟨claim, hclaim⟩, -⟩ := h.justified.of_mem hrepaid
  exact h.claimed order claim amount (hbefore hclaim)

/-! ## Transactions keep the books -/

section Transactions

variable {w w' : World} {order : SolventCrossChainOrder}

theorem Inside.hashed_extends {side : Side} (h : Inside side w w') : w.hashed <+: w'.hashed := by
  obtain ⟨texts, hhashed⟩ := h.hashed
  exact ⟨texts, hhashed.symm⟩

theorem deliver_and_record_hashed {app : CrossChainAquaApp} {o : FillOutside} {fill : VerifiedFill}
    {quoteHash : B256}
    (h : deliver_and_record keccak256 d w app o order fill quoteHash = .ok w') :
    w.hashed <+: w'.hashed := by
  obtain ⟨mid, hmid, hrecord⟩ := deliver_and_record_ok h
  obtain ⟨outbox, -, rfl⟩ := World.record_ok hrecord
  have hinside : Inside .destination
      (w.delivered keccak256 d app order fill quoteHash fill.outputAmount) mid :=
    hmid ▸ inside_destination_inside o.calls _
  have hmid : w.hashed <+: mid.hashed :=
    List.IsPrefix.trans (List.prefix_append w.hashed _) hinside.hashed_extends
  exact hmid.trans (List.prefix_append mid.hashed _)

/-- **Step lemma.** A fill delivers and records the evidence of it. -/
theorem Books.fill {app : CrossChainAquaApp} {o : FillOutside} {fill : VerifiedFill}
    {quoteHash : B256} (hbooks : Books keccak256 d w)
    (h : deliver_and_record keccak256 d w app o order fill quoteHash = .ok w')
    (hadmitted : ∀ call ∈ o.calls, call.Admitted d w) (htold : w'.Told keccak256)
    (hfresh : w.app.usedOrders (CrossChainHashLib.hashOrder keccak256 order) = false)
    (hused : app.usedOrders =
      Mapping.set w.app.usedOrders (CrossChainHashLib.hashOrder keccak256 order) true)
    (horderId : fill.orderId = CrossChainHashLib.hashOrder keccak256 order)
    (hrecipient : fill.recipient = order.recipient) (htoken : fill.outputToken = order.outputToken)
    (hamount : order.minimumOutputAmount ≤ fill.outputAmount) : Books keccak256 d w' := by
  obtain ⟨mid, hmid, hrecord⟩ := deliver_and_record_ok h
  have hdelivered : Books keccak256 d
      (w.delivered keccak256 d app order fill quoteHash fill.outputAmount) :=
    hbooks.deliver hfresh hused horderId hrecipient htoken hamount
  have hinside : Inside .destination
      (w.delivered keccak256 d app order fill quoteHash fill.outputAmount) mid :=
    hmid ▸ inside_destination_inside o.calls _
  have htold' : mid.Told keccak256 := by
    obtain ⟨outbox, -, rfl⟩ := World.record_ok hrecord
    exact World.Told.of_append keccak256 rfl htold
  have hsub : w.log ⊆ (w.delivered keccak256 d app order fill quoteHash fill.outputAmount).log :=
    List.subset_append_left _ _
  have hrails : Rails keccak256 d mid := by
    rw [hmid] at htold' ⊢
    exact hdelivered.rails.inside_destination
      (fun call hcall => (hadmitted call hcall).mono hsub) htold'
  have hbooks' := hdelivered.inside hinside hrails
  refine hbooks'.record hrecord (hbooks'.rails.record hrecord ?_)
  exact ⟨fill, ⟨order, fill.outputAmount, hinside.log_subset (by simp [World.delivered, World.emit])⟩,
    rfl⟩

variable {mandate : SolventMandate} {fillProof : Bytes} {compactClaim : Claim}

/-- What the checks of a claim leave of it. -/
theorem validateClaim_ok
    (h : CompactOriginSettler._validateClaim keccak256 d.settler order mandate compactClaim =
      .ok ()) :
    compactClaim.sponsor = order.user ∧ compactClaim.id = order.compactId ∧
      compactClaim.allocatedAmount = order.inputAmount := by
  obtain ⟨hsponsor, hid, -, -, -, hamount, -⟩ := require_eq_ok.mp h
  exact ⟨hsponsor, hid, hamount⟩

/-- **Step lemma.** A direct settlement claims what was delivered, pays its maker
    and records the evidence of it. -/
theorem Books.settle_direct {o : DirectOutside} (hbooks : Books keccak256 d w)
    (h : settleDirect keccak256 d w o order mandate fillProof compactClaim = .ok w')
    (hadmitted : ∀ call ∈ o.calls, call.Admitted d .origin w) (htold : w'.Told keccak256) :
    Books keccak256 d w' := by
  obtain ⟨fill, hverify, horder, hfill, hunused, hclaim, strategy, mid, hstrategy, hmid, hrecord⟩ :=
    settleDirect_ok h
  obtain ⟨hfillOrder, -, -, -, -, -, -, -, -, -, htoken, hamount, -⟩ := require_eq_ok.mp hfill
  obtain ⟨-, -, -, -, -, -, -, -, -, -, -, -, hroute⟩ := require_eq_ok.mp horder
  obtain ⟨hsponsor, hid, hallocated⟩ := validateClaim_ok hclaim
  have hfresh := (unused_ok hunused).1
  rw [hamount] at hmid hrecord
  have hinside : Inside .origin
      (w.claimed keccak256 order compactClaim fill.fillId order.inputAmount) mid :=
    hmid ▸ inside_origin_inside o.calls _
  have htold' : mid.Told keccak256 := by
    obtain ⟨outbox, -, rfl⟩ := World.record_ok hrecord
    exact World.Told.of_append keccak256 (List.append_assoc mid.hashed _ _) htold
  have htoldClaimed := hinside.told htold'
  obtain ⟨delivered, hmem⟩ := hbooks.proven (verified_proven hverify) hfillOrder
    (List.mem_append_right w.hashed (List.mem_singleton_self _)) (List.subset_append_left _ _)
    htoldClaimed
  -- Claim the order, let the calls from inside run, pay its maker, then record.
  have hclaimed : Books keccak256 d
      (w.claimed keccak256 order compactClaim fill.fillId order.inputAmount) :=
    hbooks.claim hfresh hsponsor hid hallocated ⟨fill, delivered, hmem⟩
  have hsub : w.log ⊆ (w.claimed keccak256 order compactClaim fill.fillId order.inputAmount).log :=
    List.subset_append_left _ _
  have hrails : Rails keccak256 d mid := by
    rw [hmid] at htold' ⊢
    exact hclaimed.rails.inside_origin
      (fun call hcall => (hadmitted call hcall).mono hsub) htold'
  have hbooks' := hclaimed.inside hinside hrails
  have hclaimedMem : .Claimed order compactClaim order.inputAmount ∈ mid.log :=
    hinside.log_subset (List.mem_append_right w.log (List.mem_singleton_self _))
  have hdeliveredMem : .Delivered order fill delivered ∈ mid.log :=
    hinside.log_subset (hsub hmem)
  have hallowed : Allowed mid.log (.Repaid order fill.destinationMaker order.inputToken
      order.inputAmount strategy) := by
    refine ⟨?_, hroute, rfl, rfl, ⟨compactClaim, hclaimedMem⟩, fill, delivered, hdeliveredMem, rfl,
      hstrategy⟩
    intro maker token amount strategy' hrepaid
    rw [hinside.mem_log (by simp)] at hrepaid
    have hold : .Repaid order maker token amount strategy' ∈ w.log := by
      simpa [World.claimed, World.emit, World.hashing] using hrepaid
    have hsettled := hbooks.settled_of_repaid hold
    rw [hfresh] at hsettled
    cases hsettled
  have hpaid := (hbooks'.emit hallowed (by simp) (by simp) (by simp)).hashing
    [CompactOriginSettler.repayment_id_bytes d.settler
      (CrossChainHashLib.hashOrder keccak256 order)]
  refine hpaid.record hrecord (hpaid.rails.record hrecord ?_)
  exact ⟨_, ⟨order, fill, strategy, rfl, htoken,
    by rw [hamount]; exact List.mem_append_right mid.log (List.mem_singleton_self _)⟩, rfl⟩

/-- **Step lemma.** A routed settlement claims what was delivered and burns for
    it. -/
theorem Books.settle_routed {o : RoutedOutside} {makerOrder : SwapOrder}
    (hbooks : Books keccak256 d w)
    (h : settleRouted keccak256 d w o order mandate fillProof compactClaim makerOrder = .ok w')
    (hadmitted : ∀ call ∈ o.calls, call.Admitted d .origin w) (htold : w'.Told keccak256) :
    Books keccak256 d w' := by
  obtain ⟨fill, hverify, horder, hfill, hunused, hclaim, burnAmount, -, rfl⟩ := settleRouted_ok h
  obtain ⟨hfillOrder, -⟩ := require_eq_ok.mp hfill
  obtain ⟨-, -, -, -, -, -, -, -, -, -, -, -, hroute⟩ := require_eq_ok.mp horder
  obtain ⟨hsponsor, hid, hallocated⟩ := validateClaim_ok hclaim
  have hfresh := (unused_ok hunused).1
  have hinside : Inside .origin
      (w.claimed keccak256 order compactClaim fill.fillId order.inputAmount)
      (inside_origin keccak256 d o.calls
        (w.claimed keccak256 order compactClaim fill.fillId order.inputAmount)) :=
    inside_origin_inside o.calls _
  obtain ⟨delivered, hmem⟩ := hbooks.proven (verified_proven hverify) hfillOrder
    (List.mem_append_right w.hashed (List.mem_singleton_self _)) (List.subset_append_left _ _)
    (hinside.told htold)
  -- Claim the order, let the calls from inside run, then burn.
  have hclaimed : Books keccak256 d
      (w.claimed keccak256 order compactClaim fill.fillId order.inputAmount) :=
    hbooks.claim hfresh hsponsor hid hallocated ⟨fill, delivered, hmem⟩
  have hsub : w.log ⊆ (w.claimed keccak256 order compactClaim fill.fillId order.inputAmount).log :=
    List.subset_append_left _ _
  have hrails := hclaimed.rails.inside_origin
    (fun call hcall => (hadmitted call hcall).mono hsub) htold
  have hbooks' := hclaimed.inside hinside hrails
  have hclaimedMem : .Claimed order compactClaim order.inputAmount ∈
      (inside_origin keccak256 d o.calls
        (w.claimed keccak256 order compactClaim fill.fillId order.inputAmount)).log :=
    hinside.log_subset (List.mem_append_right w.log (List.mem_singleton_self _))
  have hallowed : Allowed (inside_origin keccak256 d o.calls
      (w.claimed keccak256 order compactClaim fill.fillId order.inputAmount)).log
      (.Burned order (CompactOriginSettler.routed_burn d.settler
        (CrossChainHashLib.hashOrder keccak256 order) burnAmount fill)) :=
    ⟨hroute, compactClaim, hclaimedMem⟩
  exact hbooks'.emit hallowed (by simp) (by simp) (by simp)

/-- Writing the receivables keeps the books. -/
theorem Books.with_app (hbooks : Books keccak256 d w) {app : CrossChainAquaApp}
    (hused : app.usedOrders = w.app.usedOrders) : Books keccak256 d { w with app } := by
  refine ⟨hbooks.rails.extend rfl rfl (List.append_nil _).symm (by simp) (List.append_nil _).symm,
    hbooks.justified, ?_, hbooks.claimed⟩
  intro order fill received hmem
  show app.usedOrders _ = true ∧ _
  rw [hused]
  exact hbooks.delivered order fill received hmem

/-- **Step lemma.** A receivable is paid once, when it closes. -/
theorem Books.complete {o : CompletionOutside} {orderId : B256} {message attestation : Bytes}
    (hbooks : Books keccak256 d w) (hsettled : Settled keccak256 w)
    (h : completeRepayment keccak256 d w o orderId message attestation = .ok w')
    (hadmitted : ∀ call ∈ o.calls, call.Admitted d w) (htold : w'.Told keccak256) :
    Books keccak256 d w' := by
  obtain ⟨hdelivered, app, happ, strategy, surplus, rfl⟩ := completeRepayment_ok h
  have hclosed := hbooks.with_app (close_credit_ok happ).used
  have hinside : Inside .destination { w with app }
      (inside_destination keccak256 d o.calls { w with app }) := inside_destination_inside o.calls _
  have hrails : Rails keccak256 d (inside_destination keccak256 d o.calls { w with app }) :=
    hclosed.rails.inside_destination hadmitted htold
  have hallowed : Allowed (inside_destination keccak256 d o.calls { w with app }).log
      (.CreditRepaid orderId (w.app.creditReceivables orderId).maker
        (w.app.creditReceivables orderId).usdcDue strategy surplus) := by
    intro maker amount strategy' surplus' hmem
    rw [hinside.mem_log (by simp)] at hmem
    -- Whatever was paid before is closed, and this receivable was not.
    have hrepaid := hsettled.credit_closed orderId maker amount strategy' surplus' hmem
    rw [hdelivered] at hrepaid
    cases hrepaid
  exact (hclosed.inside hinside hrails).emit hallowed (by simp) (by simp) (by simp)

/-- **Step lemma.** A transaction that succeeds keeps the books. -/
theorem apply_books {a : Action} (h : a.apply keccak256 d w = .ok w')
    (hbooks : Books keccak256 d w) (hsettled : Settled keccak256 w) (hadmitted : a.Admitted d w)
    (htold : w'.Told keccak256) : Books keccak256 d w' := by
  match a, hadmitted with
  | .open_destination call, hadmitted =>
    exact hbooks.inside (OpenCall.apply_inside h) (hbooks.rails.open_call h hadmitted htold)
  | .open_origin call, hadmitted =>
    exact hbooks.inside (RailCall.apply_inside h) (hbooks.rails.rail h hadmitted htold)
  | .fillDirect caller o order mandate quote makerSignature, hadmitted =>
    obtain ⟨-, -, hquote, app, happ, h⟩ := fillDirect_ok (bubble_eq_ok.mp h)
    have hopens := open_direct_ok happ
    unfold _validateQuote at hquote
    obtain ⟨-, hquote⟩ := require_bind.mp hquote
    obtain ⟨⟨-, -, -, hamount, -⟩, -⟩ := require_eq_ok.mp hquote
    exact hbooks.fill h hadmitted htold hopens.fresh hopens.used rfl rfl rfl hamount
  | .fillCredit caller o order mandate quote makerSignature, hadmitted =>
    obtain ⟨-, -, hquote, app, happ, h⟩ := fillCredit_ok (bubble_eq_ok.mp h)
    have hopens := open_credit_ok happ
    unfold _validateCreditQuote at hquote
    obtain ⟨-, hquote⟩ := require_bind.mp hquote
    obtain ⟨-, -, hamount, -⟩ := require_eq_ok.mp hquote
    exact hbooks.fill h hadmitted htold hopens.fresh hopens.used rfl rfl rfl hamount
  | .completeRepayment o orderId message attestation, hadmitted =>
    exact hbooks.complete hsettled (bubble_eq_ok.mp h) hadmitted htold
  | .confirmDirectRepayment orderId repaymentProof, _ =>
    obtain ⟨repayment, -, app, happ, rfl⟩ := confirmDirectRepayment_ok (bubble_eq_ok.mp h)
    exact hbooks.with_app (close_direct_ok happ).2.used
  | .settleDirect o order mandate fillProof compactClaim, hadmitted =>
    exact hbooks.settle_direct (bubble_eq_ok.mp h) hadmitted htold
  | .settleRouted o order mandate fillProof compactClaim makerOrder, hadmitted =>
    exact hbooks.settle_routed (bubble_eq_ok.mp h) hadmitted htold

end Transactions

/-! ## Transactions settle -/

section Settling

variable {w w' : World}

/-- **Frame.** What a transaction closes, it paid. -/
theorem Settled.grow (h : Settled keccak256 w) (hgrows : w.log ⊆ w'.log)
    (hpaid : ∀ order claim received, .Claimed order claim received ∈ w'.log →
      .Claimed order claim received ∈ w.log ∨ (order.routeKind = .DirectMaker →
        ∃ maker strategy,
          .Repaid order maker order.inputToken order.inputAmount strategy ∈ w'.log))
    (hdirect : ∀ id, (w'.app.directReceivables id).state = .Repaid →
      (w'.app.directReceivables id = w.app.directReceivables id ∧
        w'.app.directRepaymentTokens id = w.app.directRepaymentTokens id) ∨
      ∃ order strategy, CrossChainHashLib.hashOrder keccak256 order = id ∧
        .Repaid order (w'.app.directReceivables id).maker (w'.app.directRepaymentTokens id)
          (w'.app.directReceivables id).repaymentAmount strategy ∈ w'.log)
    (hcredit : ∀ id, (w'.app.creditReceivables id).state = .Repaid →
      w'.app.creditReceivables id = w.app.creditReceivables id ∨ ∃ strategy surplus,
        .CreditRepaid id (w'.app.creditReceivables id).maker (w'.app.creditReceivables id).usdcDue
          strategy surplus ∈ w'.log)
    (hkept : ∀ id, (w.app.creditReceivables id).Moves (w'.app.creditReceivables id))
    (hclosed : ∀ id maker amount strategy surplus,
      .CreditRepaid id maker amount strategy surplus ∈ w'.log →
      .CreditRepaid id maker amount strategy surplus ∈ w.log ∨
        (w'.app.creditReceivables id).state = .Repaid) : Settled keccak256 w' := by
  constructor
  · intro order claim received hmem hroute
    rcases hpaid order claim received hmem with hold | hnew
    · obtain ⟨maker, strategy, hrepaid⟩ := h.paid order claim received hold hroute
      exact ⟨maker, strategy, hgrows hrepaid⟩
    · exact hnew hroute
  · intro id hrepaid
    rcases hdirect id hrepaid with ⟨hsame, htoken⟩ | hnew
    · rw [hsame] at hrepaid
      obtain ⟨order, strategy, horder, hmem⟩ := h.direct id hrepaid
      rw [hsame, htoken]
      exact ⟨order, strategy, horder, hgrows hmem⟩
    · exact hnew
  · intro id hrepaid
    rcases hcredit id hrepaid with hsame | hnew
    · rw [hsame] at hrepaid
      obtain ⟨strategy, surplus, hmem⟩ := h.credit id hrepaid
      rw [hsame]
      exact ⟨strategy, surplus, hgrows hmem⟩
    · exact hnew
  · intro id maker amount strategy surplus hmem
    rcases hclosed id maker amount strategy surplus hmem with hold | hnew
    · have hrepaid := h.credit_closed id maker amount strategy surplus hold
      rcases hkept id with hsame | ⟨hnone, -⟩ | ⟨hdelivered, -⟩
      · rwa [hsame]
      · rw [hrepaid] at hnone
        cases hnone
      · rw [hrepaid] at hdelivered
        cases hdelivered
    · exact hnew

/-- Dispatches and configuration close nothing. -/
theorem Settled.inside {side : Side} (h : Settled keccak256 w) (hinside : Inside side w w') :
    Settled keccak256 w' := by
  refine h.grow hinside.log_subset ?_ ?_ ?_ ?_ ?_
  · intro order claim received hmem
    exact .inl ((hinside.mem_log (by simp)).mp hmem)
  · intro id _
    rw [hinside.app.directReceivables, hinside.app.directRepaymentTokens]
    exact .inl ⟨rfl, rfl⟩
  · intro id _
    rw [hinside.app.creditReceivables]
    exact .inl rfl
  · intro id
    rw [hinside.app.creditReceivables]
    exact .inl rfl
  · intro id maker amount strategy surplus hmem
    exact .inl ((hinside.mem_log (by simp)).mp hmem)

/-- Opening a receivable closes nothing. -/
theorem Settled.opens_direct {app : CrossChainAquaApp} {order order' : SolventCrossChainOrder}
    {orderId : B256} {quote : DirectMakerQuote} {fill : VerifiedFill} {quoteHash : B256}
    {received : U256} (h : Settled keccak256 w)
    (hopens : OpensDirect w.app app orderId order quote) (hexposed : Exposed w.app) :
    Settled keccak256 (w.delivered keccak256 d app order' fill quoteHash received) := by
  refine h.grow (List.subset_append_left _ _) ?_ ?_ ?_ ?_ ?_
  · intro order claim received hmem
    exact .inl (by simpa [World.delivered, World.emit, World.hashing] using hmem)
  · intro id hrepaid
    obtain ⟨filledAt, hreceivables⟩ := hopens.receivable
    change (app.directReceivables id).state = .Repaid at hrepaid
    show (app.directReceivables id = _ ∧ app.directRepaymentTokens id = _) ∨ _
    rw [hreceivables, Mapping.set_apply] at hrepaid ⊢
    rw [hopens.token, Mapping.set_apply]
    split
    · rename_i heq
      rw [if_pos heq] at hrepaid
      cases hrepaid
    · exact .inl ⟨rfl, rfl⟩
  · intro id _
    exact .inl (congrFun hopens.creditReceivables id)
  · intro id
    exact (Accounted.opens_direct hexposed hopens).credit id
  · intro id maker amount strategy surplus hmem
    exact .inl (by simpa [World.delivered, World.emit, World.hashing] using hmem)

theorem Settled.opens_credit {app : CrossChainAquaApp} {order : SolventCrossChainOrder}
    {orderId : B256} {quote : MakerCreditQuote} {fill : VerifiedFill} {quoteHash : B256}
    {received : U256} (h : Settled keccak256 w)
    (hopens : OpensCredit w.app app orderId quote) (hexposed : Exposed w.app) :
    Settled keccak256 (w.delivered keccak256 d app order fill quoteHash received) := by
  refine h.grow (List.subset_append_left _ _) ?_ ?_ ?_ ?_ ?_
  · intro order claim received hmem
    exact .inl (by simpa [World.delivered, World.emit, World.hashing] using hmem)
  · intro id _
    exact .inl ⟨congrFun hopens.directReceivables id, congrFun hopens.token id⟩
  · intro id hrepaid
    obtain ⟨filledAt, hreceivables⟩ := hopens.receivable
    change (app.creditReceivables id).state = .Repaid at hrepaid
    show app.creditReceivables id = _ ∨ _
    rw [hreceivables, Mapping.set_apply] at hrepaid ⊢
    split
    · rename_i heq
      rw [if_pos heq] at hrepaid
      cases hrepaid
    · exact .inl rfl
  · intro id
    exact (Accounted.opens_credit hexposed hopens).credit id
  · intro id maker amount strategy surplus hmem
    exact .inl (by simpa [World.delivered, World.emit, World.hashing] using hmem)

/-- Past the opening of a receivable, a fill closes nothing. -/
theorem Settled.fill {app : CrossChainAquaApp} {o : FillOutside} {order : SolventCrossChainOrder}
    {fill : VerifiedFill} {quoteHash : B256}
    (h : deliver_and_record keccak256 d w app o order fill quoteHash = .ok w')
    (hopened : Settled keccak256
      (w.delivered keccak256 d app order fill quoteHash fill.outputAmount)) :
    Settled keccak256 w' := by
  obtain ⟨mid, hmid, hrecord⟩ := deliver_and_record_ok h
  obtain ⟨outbox, -, rfl⟩ := World.record_ok hrecord
  have hinside : Settled keccak256 mid := by
    rw [hmid]
    exact hopened.inside (inside_destination_inside o.calls _)
  exact ⟨hinside.paid, hinside.direct, hinside.credit, hinside.credit_closed⟩

/-- **Step lemma.** A completed repayment was paid. -/
theorem Settled.complete {o : CompletionOutside} {orderId : B256} {message attestation : Bytes}
    (hsettled : Settled keccak256 w) (hexposed : Exposed w.app)
    (h : completeRepayment keccak256 d w o orderId message attestation = .ok w') :
    Settled keccak256 w' := by
  have hmoves := fun id => (apply_accounted (a := .completeRepayment o orderId message attestation)
    (bubble_eq_ok.mpr h) hexposed).credit id
  obtain ⟨hdelivered, app, happ, strategy, surplus, rfl⟩ := completeRepayment_ok h
  have hcloses := close_credit_ok happ
  have hinside : Inside .destination { w with app }
      (inside_destination keccak256 d o.calls { w with app }) := inside_destination_inside o.calls _
  have hcredit : ∀ id, (inside_destination keccak256 d o.calls { w with app }).app.creditReceivables
      id = if id = orderId then { w.app.creditReceivables orderId with state := .Repaid }
        else w.app.creditReceivables id := by
    intro id
    rw [hinside.app.creditReceivables]
    show app.creditReceivables id = _
    rw [hcloses.receivable, Mapping.set_apply]
  refine hsettled.grow ?_ ?_ ?_ ?_ hmoves ?_
  · exact List.Subset.trans hinside.log_subset (List.subset_append_left _ _)
  · intro order claim received hmem
    rcases List.mem_append.mp hmem with hold | hnew
    · exact .inl ((hinside.mem_log (by simp)).mp hold)
    · cases List.mem_singleton.mp hnew
  · intro id _
    refine .inl ⟨?_, ?_⟩
    · show (inside_destination keccak256 d o.calls { w with app }).app.directReceivables id = _
      rw [hinside.app.directReceivables]
      exact congrFun hcloses.directReceivables id
    · show (inside_destination keccak256 d o.calls { w with app }).app.directRepaymentTokens id = _
      rw [hinside.app.directRepaymentTokens]
      exact congrFun hcloses.token id
  · intro id _
    by_cases hid : id = orderId
    · refine .inr ⟨strategy, surplus, List.mem_append_right _ ?_⟩
      rw [List.mem_singleton]
      show Event.CreditRepaid id
        ((inside_destination keccak256 d o.calls { w with app }).app.creditReceivables id).maker
        ((inside_destination keccak256 d o.calls { w with app }).app.creditReceivables id).usdcDue
        strategy surplus = _
      rw [hcredit, if_pos hid, hid]
    · exact .inl ((hcredit id).trans (if_neg hid))
  · intro id maker amount strategy' surplus' hmem
    rcases List.mem_append.mp hmem with hold | hnew
    · exact .inl ((hinside.mem_log (by simp)).mp hold)
    · obtain ⟨rfl, -⟩ : id = orderId ∧ _ := by simpa using hnew
      refine .inr ?_
      show ((inside_destination keccak256 d o.calls
        { w with app }).app.creditReceivables id).state = .Repaid
      rw [hcredit, if_pos rfl]

/-- **Step lemma.** A confirmed repayment was paid: its proof is evidence. -/
theorem Settled.confirm {orderId : B256} {repaymentProof : Bytes} (hsettled : Settled keccak256 w)
    (hrails : Rails keccak256 d w)
    (h : confirmDirectRepayment d w orderId repaymentProof = .ok w') : Settled keccak256 w' := by
  obtain ⟨repayment, hverify, app, happ, rfl⟩ := confirmDirectRepayment_ok h
  obtain ⟨hmatches, hcloses⟩ := close_direct_ok happ
  obtain ⟨repaymentId, -, rfl, hne⟩ := CcipProofInbox.verifyRepayment_ok hverify
  obtain ⟨order, fill, strategy, hrecorded, htoken, hmem⟩ := hrails.repayments repaymentId hne
  refine hsettled.grow (fun _ => id) (fun _ _ _ => .inl) ?_ ?_ ?_ (fun _ _ _ _ _ => .inl)
  · intro id _
    show (app.directReceivables id = _ ∧ app.directRepaymentTokens id = _) ∨ _
    by_cases hid : id = orderId
    · obtain ⟨-, horderId, -, -, hmaker, hpaid, hamount, -⟩ := hmatches
      rw [hrecorded] at horderId hmaker hpaid hamount
      refine .inr ⟨order, strategy, horderId.trans hid.symm, ?_⟩
      -- The recorded repayment names the maker, the token and the amount that were paid.
      have hreceivable : app.directReceivables id =
          { w.app.directReceivables orderId with state := .Repaid } := by
        rw [hcloses.receivable, Mapping.set_apply, if_pos hid]
      show .Repaid order (app.directReceivables id).maker (app.directRepaymentTokens id)
        (app.directReceivables id).repaymentAmount strategy ∈ w.log
      rw [hreceivable, hcloses.token, hid]
      show .Repaid order (w.app.directReceivables orderId).maker
        (w.app.directRepaymentTokens orderId) (w.app.directReceivables orderId).repaymentAmount
        strategy ∈ w.log
      rw [← hmaker, ← hpaid, ← hamount]
      show .Repaid order fill.destinationMaker fill.repaymentToken fill.repaymentAmount strategy ∈
        w.log
      rw [htoken]
      exact hmem
    · rw [hcloses.receivable, hcloses.token, Mapping.set_apply, if_neg hid]
      exact .inl ⟨rfl, rfl⟩
  · intro id _
    exact .inl (congrFun hcloses.creditReceivables id)
  · intro id
    exact .inl (congrFun hcloses.creditReceivables id)

variable {order : SolventCrossChainOrder} {mandate : SolventMandate} {fillProof : Bytes}
  {compactClaim : Claim}

/-- **Step lemma.** A direct order that is claimed was paid. -/
theorem Settled.settle_direct {o : DirectOutside} (hsettled : Settled keccak256 w)
    (h : settleDirect keccak256 d w o order mandate fillProof compactClaim = .ok w') :
    Settled keccak256 w' := by
  obtain ⟨fill, -, -, hfill, -, -, strategy, mid, -, hmid, hrecord⟩ := settleDirect_ok h
  obtain ⟨-, -, -, -, -, -, -, -, -, -, -, hamount, -⟩ := require_eq_ok.mp hfill
  obtain ⟨outbox, -, rfl⟩ := World.record_ok hrecord
  have hinside : Inside .origin
      (w.claimed keccak256 order compactClaim fill.fillId fill.repaymentAmount) mid :=
    hmid ▸ inside_origin_inside o.calls _
  refine hsettled.grow ?_ ?_ ?_ ?_ ?_ ?_
  · have hsub : w.log ⊆ mid.log :=
      List.Subset.trans (List.subset_append_left _ _) hinside.log_subset
    exact List.Subset.trans hsub (List.subset_append_left _ _)
  · intro order' claim received hmem
    rcases List.mem_append.mp hmem with hold | hnew
    · rw [hinside.mem_log (by simp)] at hold
      rcases List.mem_append.mp hold with hold | hclaimed
      · exact .inl hold
      · -- The order claimed here is paid at the end of the same transaction.
        obtain ⟨rfl, -⟩ : order' = order ∧ _ := by simpa using hclaimed
        refine .inr fun _ => ⟨fill.destinationMaker, strategy, List.mem_append_right _ ?_⟩
        rw [← hamount]
        exact List.mem_singleton_self _
    · cases List.mem_singleton.mp hnew
  · intro id _
    exact .inl ⟨congrFun hinside.app.directReceivables id,
      congrFun hinside.app.directRepaymentTokens id⟩
  · intro id _
    exact .inl (congrFun hinside.app.creditReceivables id)
  · intro id
    exact .inl (congrFun hinside.app.creditReceivables id)
  · intro id maker amount strategy' surplus hmem
    rcases List.mem_append.mp hmem with hold | hnew
    · rw [hinside.mem_log (by simp)] at hold
      exact .inl (by simpa [World.claimed, World.emit, World.hashing] using hold)
    · cases List.mem_singleton.mp hnew

/-- **Step lemma.** A routed settlement claims no direct order. -/
theorem Settled.settle_routed {o : RoutedOutside} {makerOrder : SwapOrder}
    (hsettled : Settled keccak256 w)
    (h : settleRouted keccak256 d w o order mandate fillProof compactClaim makerOrder = .ok w') :
    Settled keccak256 w' := by
  obtain ⟨fill, -, horder, -, -, -, burnAmount, -, rfl⟩ := settleRouted_ok h
  obtain ⟨-, -, -, -, -, -, -, -, -, -, -, -, hroute⟩ := require_eq_ok.mp horder
  have hinside : Inside .origin
      (w.claimed keccak256 order compactClaim fill.fillId order.inputAmount)
      (inside_origin keccak256 d o.calls
        (w.claimed keccak256 order compactClaim fill.fillId order.inputAmount)) :=
    inside_origin_inside o.calls _
  refine hsettled.grow ?_ ?_ ?_ ?_ ?_ ?_
  · have hsub : w.log ⊆ (inside_origin keccak256 d o.calls
        (w.claimed keccak256 order compactClaim fill.fillId order.inputAmount)).log :=
      List.Subset.trans (List.subset_append_left _ _) hinside.log_subset
    exact List.Subset.trans hsub (List.subset_append_left _ _)
  · intro order' claim received hmem
    rcases List.mem_append.mp hmem with hold | hnew
    · rw [hinside.mem_log (by simp)] at hold
      rcases List.mem_append.mp hold with hold | hclaimed
      · exact .inl hold
      · obtain ⟨rfl, -⟩ : order' = order ∧ _ := by simpa using hclaimed
        refine .inr fun hdirect => ?_
        rw [hroute] at hdirect
        cases hdirect
    · cases List.mem_singleton.mp hnew
  · intro id _
    exact .inl ⟨congrFun hinside.app.directReceivables id,
      congrFun hinside.app.directRepaymentTokens id⟩
  · intro id _
    exact .inl (congrFun hinside.app.creditReceivables id)
  · intro id
    exact .inl (congrFun hinside.app.creditReceivables id)
  · intro id maker amount strategy surplus hmem
    rcases List.mem_append.mp hmem with hold | hnew
    · rw [hinside.mem_log (by simp)] at hold
      exact .inl (by simpa [World.claimed, World.emit, World.hashing] using hold)
    · cases List.mem_singleton.mp hnew

/-- **Step lemma.** What a transaction that succeeds closes was paid. -/
theorem apply_settled {a : Action} (h : a.apply keccak256 d w = .ok w')
    (hsettled : Settled keccak256 w) (hexposed : Exposed w.app) (hrails : Rails keccak256 d w) :
    Settled keccak256 w' := by
  match a with
  | .open_destination call => exact hsettled.inside (OpenCall.apply_inside h)
  | .open_origin call => exact hsettled.inside (RailCall.apply_inside h)
  | .fillDirect caller o order mandate quote makerSignature =>
    obtain ⟨-, -, -, app, happ, h⟩ := fillDirect_ok (bubble_eq_ok.mp h)
    exact .fill h (hsettled.opens_direct (open_direct_ok happ) hexposed)
  | .fillCredit caller o order mandate quote makerSignature =>
    obtain ⟨-, -, -, app, happ, h⟩ := fillCredit_ok (bubble_eq_ok.mp h)
    exact .fill h (hsettled.opens_credit (open_credit_ok happ) hexposed)
  | .completeRepayment o orderId message attestation =>
    exact hsettled.complete hexposed (bubble_eq_ok.mp h)
  | .confirmDirectRepayment orderId repaymentProof =>
    exact hsettled.confirm hrails (bubble_eq_ok.mp h)
  | .settleDirect o order mandate fillProof compactClaim =>
    exact hsettled.settle_direct (bubble_eq_ok.mp h)
  | .settleRouted o order mandate fillProof compactClaim makerOrder =>
    exact hsettled.settle_routed (bubble_eq_ok.mp h)

end Settling

/-! ## Runs -/

/-- Texts are only added to what was hashed. -/
theorem apply_hashed {w w' : World} {a : Action} (h : a.apply keccak256 d w = .ok w') :
    w.hashed <+: w'.hashed := by
  match a with
  | .open_destination call => exact (OpenCall.apply_inside h).hashed_extends
  | .open_origin call => exact (RailCall.apply_inside h).hashed_extends
  | .fillDirect caller o order mandate quote makerSignature =>
    obtain ⟨-, -, -, app, -, h⟩ := fillDirect_ok (bubble_eq_ok.mp h)
    exact deliver_and_record_hashed h
  | .fillCredit caller o order mandate quote makerSignature =>
    obtain ⟨-, -, -, app, -, h⟩ := fillCredit_ok (bubble_eq_ok.mp h)
    exact deliver_and_record_hashed h
  | .completeRepayment o orderId message attestation =>
    obtain ⟨-, app, -, strategy, surplus, rfl⟩ := completeRepayment_ok (bubble_eq_ok.mp h)
    exact (inside_destination_inside o.calls { w with app }).hashed_extends
  | .confirmDirectRepayment orderId repaymentProof =>
    obtain ⟨repayment, -, app, -, rfl⟩ := confirmDirectRepayment_ok (bubble_eq_ok.mp h)
    exact List.prefix_refl w.hashed
  | .settleDirect o order mandate fillProof compactClaim =>
    obtain ⟨fill, -, -, -, -, -, strategy, mid, -, hmid, hrecord⟩ :=
      settleDirect_ok (bubble_eq_ok.mp h)
    obtain ⟨outbox, -, rfl⟩ := World.record_ok hrecord
    have hinside : Inside .origin
        (w.claimed keccak256 order compactClaim fill.fillId fill.repaymentAmount) mid :=
      hmid ▸ inside_origin_inside o.calls _
    have hmid : w.hashed <+: mid.hashed :=
      List.IsPrefix.trans (List.prefix_append w.hashed _) hinside.hashed_extends
    exact (hmid.trans (List.prefix_append _ _)).trans (List.prefix_append _ _)
  | .settleRouted o order mandate fillProof compactClaim makerOrder =>
    obtain ⟨fill, -, -, -, -, -, burnAmount, -, rfl⟩ := settleRouted_ok (bubble_eq_ok.mp h)
    have hinside : Inside .origin
        (w.claimed keccak256 order compactClaim fill.fillId order.inputAmount)
        (inside_origin keccak256 d o.calls
          (w.claimed keccak256 order compactClaim fill.fillId order.inputAmount)) :=
      inside_origin_inside o.calls _
    exact List.IsPrefix.trans (List.prefix_append w.hashed _) hinside.hashed_extends

/-- What the hash told apart after a step, it told apart before it. -/
theorem told_of_step {w : World} {a : Action} (h : (step keccak256 d w a).Told keccak256) :
    w.Told keccak256 := by
  rcases attempt_cases (fun w => a.apply keccak256 d w) w with ⟨w', hok, heq⟩ | heq
  · obtain ⟨texts, hhashed⟩ := apply_hashed hok
    have htold : w'.Told keccak256 := heq ▸ h
    exact World.Told.of_append keccak256 hhashed.symm htold
  · exact heq ▸ h

/-- What every transaction keeps. -/
structure Safe (keccak256 : Bytes → B256) (d : Deployment) (w : World) : Prop where
  exposed : Exposed w.app
  books : Books keccak256 d w
  settled : Settled keccak256 w

/-- **Step lemma.** -/
theorem step_safe {w : World} {a : Action} (h : Safe keccak256 d w) (hadmitted : a.Admitted d w)
    (htold : (step keccak256 d w a).Told keccak256) : Safe keccak256 d (step keccak256 d w a) := by
  have hexposed : Exposed (step keccak256 d w a).app := (step_accounted w a h.exposed).exposed
  rcases attempt_cases (fun w => a.apply keccak256 d w) w with ⟨w', hok, heq⟩ | heq
  · change step keccak256 d w a = w' at heq
    rw [heq] at htold hexposed ⊢
    exact ⟨hexposed, apply_books hok h.books h.settled hadmitted htold,
      apply_settled hok h.settled h.exposed h.books.rails⟩
  · change step keccak256 d w a = w at heq
    rwa [heq]

/-- **Run lemma.** -/
theorem run_safe {actions : List Action}
    (hadmitted : Run.Along (step keccak256 d) (fun w a => a.Admitted d w) World.empty actions)
    (htold : (Run.run (step keccak256 d) World.empty actions).Told keccak256) :
    Safe keccak256 d (Run.run (step keccak256 d) World.empty actions) := by
  have htoldAlong := Run.along_of_final (P := fun w : World => w.Told keccak256)
    (fun w a => told_of_step) htold
  exact Run.invariant (fun w a h hq => step_safe h hq.1 hq.2)
    ⟨exposed_empty, books_empty, settled_empty⟩ (Run.along_and hadmitted htoldAlong)

/-- **Two-chain settlement is safe.** After any transactions on either chain, in
    any order, by anyone: every delivery, claim and payment is allowed by what
    came before it, so that an order is delivered at most once and claimed at
    most once, from its user and only after its delivery of at least the minimum
    output; a claimed direct order paid its input amount to the maker that
    delivered it; and a receivable is closed only when its maker was paid its
    amount. -/
theorem settlement_safe (keccak256 : Bytes → B256) (d : Deployment) (actions : List Action)
    (hadmitted : Run.Along (step keccak256 d) (fun w a => a.Admitted d w) World.empty actions)
    (htold : (Run.run (step keccak256 d) World.empty actions).Told keccak256) :
    let w := Run.run (step keccak256 d) World.empty actions
    Run.Justified Allowed w.log ∧
      (∀ order claim received, .Claimed order claim received ∈ w.log →
        order.routeKind = .DirectMaker → ∃ fill delivered strategy,
          .Delivered order fill delivered ∈ w.log ∧
            (strategy = none ∨ strategy = some fill.originStrategyHash) ∧
            .Repaid order fill.destinationMaker order.inputToken order.inputAmount strategy ∈
              w.log) ∧
      (∀ id, (w.app.directReceivables id).state = .Repaid → ∃ order strategy,
        CrossChainHashLib.hashOrder keccak256 order = id ∧
          .Repaid order (w.app.directReceivables id).maker (w.app.directRepaymentTokens id)
            (w.app.directReceivables id).repaymentAmount strategy ∈ w.log) ∧
      ∀ id, (w.app.creditReceivables id).state = .Repaid → ∃ strategy surplus,
        .CreditRepaid id (w.app.creditReceivables id).maker (w.app.creditReceivables id).usdcDue
          strategy surplus ∈ w.log := by
  intro w
  have hsafe : Safe keccak256 d w := run_safe hadmitted htold
  refine ⟨hsafe.books.justified, ?_, hsafe.settled.direct, hsafe.settled.credit⟩
  intro order claim received hmem hroute
  obtain ⟨maker, strategy, hrepaid⟩ := hsafe.settled.paid order claim received hmem hroute
  -- The payment itself names the delivery whose maker it went to.
  obtain ⟨before, hbefore, -, -, -, -, -, fill, delivered, hdelivered, rfl, hstrategy⟩ :=
    hsafe.books.justified.of_mem hrepaid
  exact ⟨fill, delivered, strategy, hbefore hdelivered, hstrategy, hrepaid⟩

/-! A direct order on two sample chains. -/

/-- A hash by the first byte of a text or, where that is zero, by the low bytes
    of four words. -/
def sample_hash (text : Bytes) : B256 :=
  if text.headD 0 ≠ 0 then Fin.ofNat _ (2 ^ 248 * (text.headD 0).toNat)
  else Fin.ofNat _ (1 + (text.getD 31 0).toNat + 256 * (text.getD 63 0).toNat +
    256 ^ 2 * (text.getD 95 0).toNat + 256 ^ 3 * (text.getD 127 0).toNat)

/-- Two chains that name each other. -/
def sample_deployment : Deployment where
  app :=
    { this := 10, chainid := 2, WETH := 11, ORIGIN_CHAIN_ID := 1, ORIGIN_SETTLER := 20
      ORIGIN_COMPACT := 21, ORIGIN_TOKEN := 22, FILL_PROOF_VERIFIER := 23, USDC := 12
      ORIGIN_CCTP_DOMAIN := 0, DESTINATION_CCTP_DOMAIN := 6, ORIGIN_TOKEN_MESSENGER := 24
      DESTINATION_TOKEN_MESSENGER := 13, ORIGIN_USDC := 25, CCTP_MESSAGE_VERSION := 1
      CCTP_BURN_MESSAGE_VERSION := 1, CCTP_MIN_FINALITY_THRESHOLD := 2000, FEE_RECIPIENT := 14 }
  settler :=
    { this := 20, chainid := 1, COMPACT := 21, ORIGIN_TOKEN := 22, DESTINATION_CHAIN_ID := 2
      DESTINATION_APP := 10, FILL_PROOF_VERIFIER := 23, ORIGIN_USDC := 25, DESTINATION_USDC := 12
      DESTINATION_CCTP_DOMAIN := 6, CCTP_MIN_FINALITY_THRESHOLD := 2000, FEE_RECIPIENT := 26 }
  outbox
    | .destination =>
      { this := 15, recorder := 10, DESTINATION_CHAIN_SELECTOR := 100, destinationInbox := 23 }
    | .origin =>
      { this := 27, recorder := 20, DESTINATION_CHAIN_SELECTOR := 200, destinationInbox := 16 }
  inbox
    | .destination => { SOURCE_CHAIN_SELECTOR := 100, sourceOutbox := 27 }
    | .origin => { SOURCE_CHAIN_SELECTOR := 200, sourceOutbox := 15 }

def sample_order : SolventCrossChainOrder where
  user := 1
  recipient := 2
  originChainId := 1
  originSettler := 20
  compact := 21
  compactId := 22
  nonce := 5
  compactExpires := 100
  inputToken := 22
  inputAmount := 50
  destinationChainId := 2
  destinationSettler := 10
  fillProofVerifier := 23
  outputToken := 30
  minimumOutputAmount := 40
  fillDeadline := 90
  exclusiveFiller := 0
  exclusivityEnds := 0
  routeKind := .DirectMaker

def sample_mandate : SolventMandate where
  orderId := CrossChainHashLib.hashOrder sample_hash sample_order
  destinationChainId := 2
  destinationSettler := 10
  fillProofVerifier := 23
  outputToken := 30
  minimumOutputAmount := 40
  recipient := 2
  fillDeadline := 90
  exclusiveFiller := 0
  routeKind := .DirectMaker

def sample_quote : DirectMakerQuote where
  orderId := CrossChainHashLib.hashOrder sample_hash sample_order
  maker := 3
  destinationStrategyHash := 31
  originStrategyHash := 32
  outputAmount := 45
  repaymentAmount := 50
  expires := 80
  nonce := 1

def sample_fill : VerifiedFill := direct_fill sample_hash sample_deployment.app sample_order sample_quote

def sample_claim : Claim where
  allocatorData := []
  sponsorSignature := []
  sponsor := 1
  nonce := 5
  expires := 100
  witness := CrossChainHashLib.hashMandate sample_hash sample_mandate
  witnessTypestring := CompactOriginSettler.MANDATE_WITNESS_TYPESTRING
  id := 22
  allocatedAmount := 50
  claimants := [{ claimant := 20, amount := 50 }]

def sample_delivery : FillOutside where
  timestamp := 70
  isValidSignature _ _ _ := true
  delivery :=
    { pull := true, recipientBefore := 0, recipientAfter := 45, wethBefore := 0, wethAfterPull := 0
      wethAfter := 0, ethBefore := 0, ethAfter := 0, withdraw := true, delivered := true }
  calls := []

def sample_settlement : DirectOutside where
  balanceBefore := 0
  balanceAfterClaim := 50
  balanceAtEnd := 0
  claim := true
  tokensCount := 2
  pay := true
  calls := []

def sample_dispatch : DispatchOutside := { value := 1, getFee := some 1, ccipSend := true }

def sample_repayment : VerifiedRepayment :=
  CompactOriginSettler.recorded_repayment sample_hash sample_deployment.settler
    (CrossChainHashLib.hashOrder sample_hash sample_order) sample_fill

/-- A direct order, from its delivery to its closing. -/
def sample_actions : List Action :=
  [.open_destination (.configureDirectStrategy 3 31 30 1000 true 1),
   .fillDirect 9 sample_delivery sample_order sample_mandate sample_quote [],
   .open_destination (.rail (.dispatch sample_quote.orderId
     (ProofHashLib.encode .Fill (encode sample_fill)) sample_dispatch)),
   .open_origin (.receive
     { messageId := 1, sourceChainSelector := 200, sender := word 15
       data := ProofHashLib.encode .Fill (encode sample_fill), destTokenAmounts := [] }),
   .settleDirect sample_settlement sample_order sample_mandate (word sample_fill.fillId)
     sample_claim,
   .open_origin (.dispatch sample_quote.orderId
     (ProofHashLib.encode .DirectRepayment (encode sample_repayment)) sample_dispatch),
   .open_destination (.rail (.receive
     { messageId := 2, sourceChainSelector := 100, sender := word 27
       data := ProofHashLib.encode .DirectRepayment (encode sample_repayment)
       destTokenAmounts := [] })),
   .confirmDirectRepayment sample_quote.orderId (word sample_repayment.repaymentId)]

/-- The state after the sample. -/
def sample_end : World := Run.run (step sample_hash sample_deployment) World.empty sample_actions

set_option maxRecDepth 20000 in
theorem settlement_safe_sample :
    (∃ fill delivered strategy, .Delivered sample_order fill delivered ∈ sample_end.log ∧
      (strategy = none ∨ strategy = some fill.originStrategyHash) ∧
      .Repaid sample_order fill.destinationMaker sample_order.inputToken sample_order.inputAmount
        strategy ∈ sample_end.log) ∧
      ∃ order strategy, CrossChainHashLib.hashOrder sample_hash order = sample_quote.orderId ∧
        .Repaid order (sample_end.app.directReceivables sample_quote.orderId).maker
          (sample_end.app.directRepaymentTokens sample_quote.orderId)
          (sample_end.app.directReceivables sample_quote.orderId).repaymentAmount strategy ∈
            sample_end.log := by
  have htold : ∀ text ∈ sample_end.hashed, ∀ text' ∈ sample_end.hashed,
      sample_hash text = sample_hash text' → text = text' := by decide +kernel
  have hclaimed : .Claimed sample_order sample_claim 50 ∈ sample_end.log := by decide +kernel
  obtain ⟨-, hpaid, hdirect, -⟩ := settlement_safe sample_hash sample_deployment sample_actions
    (by decide +kernel) (fun text h text' h' => htold text h text' h')
  exact ⟨hpaid sample_order sample_claim 50 hclaimed rfl,
    hdirect sample_quote.orderId (by decide +kernel)⟩

end Solvent.Contracts
