import Mathlib
import Solvent.Contracts.Evidence

/-! # Every fill can be settled and closed

    What the destination accepts, the origin accepts: the checks of a fill imply
    the checks of its settlement, and what a settlement records implies the checks
    that close the receivable. Both inboxes take the proof the first time it
    comes, because whatever occupies its slots is the proof itself.
-/

namespace Solvent.Contracts

open Abi Contract CrossChainAquaApp

/-! ## Deployments that match -/

/-- The two contracts, their outboxes and their inboxes name each other. -/
structure Matching (d : Deployment) : Prop where
  origin_chain : d.app.ORIGIN_CHAIN_ID = d.settler.chainid
  origin_settler : d.app.ORIGIN_SETTLER = d.settler.this
  compact : d.app.ORIGIN_COMPACT = d.settler.COMPACT
  origin_token : d.app.ORIGIN_TOKEN = d.settler.ORIGIN_TOKEN
  verifier : d.app.FILL_PROOF_VERIFIER = d.settler.FILL_PROOF_VERIFIER
  destination_chain : d.settler.DESTINATION_CHAIN_ID = d.app.chainid
  destination_app : d.settler.DESTINATION_APP = d.app.this
  usdc : d.settler.DESTINATION_USDC = d.app.USDC
  origin_usdc : d.app.ORIGIN_USDC = d.settler.ORIGIN_USDC
  destination_domain : d.settler.DESTINATION_CCTP_DOMAIN = d.app.DESTINATION_CCTP_DOMAIN
  threshold : d.settler.CCTP_MIN_FINALITY_THRESHOLD = d.app.CCTP_MIN_FINALITY_THRESHOLD
  outboxes : ∀ side, (d.inbox side).sourceOutbox = (d.outbox side.peer).this

section Checks

variable {keccak256 : Bytes → B256} {d : Deployment} {order : SolventCrossChainOrder}
  {mandate : SolventMandate} {orderId : B256}

/-- An order the destination fills is one the origin settles. -/
theorem Matching.settles_order (hmatching : Matching d) {caller : Address} {timestamp : U256}
    {route : RouteKind}
    (h : CrossChainAquaApp._validateOrder d.app caller timestamp order route = .ok ()) :
    CompactOriginSettler._validateOrder d.settler order route = .ok () := by
  unfold CrossChainAquaApp._validateOrder at h
  obtain ⟨⟨huser, -, -, hchain, hsettler, hcompact, hinput, hid, htoken, hdestination, happ,
    hverifier, hroute, hamount, -, hexpires⟩, -⟩ := require_bind.mp h
  refine require_of ⟨huser, ?_, ?_, ?_, hinput, hid, ?_, hamount, hexpires, ?_, ?_, ?_, hroute⟩ _
  · rw [hchain, hmatching.origin_chain]
  · rw [hsettler, hmatching.origin_settler]
  · rw [hcompact, hmatching.compact]
  · rw [← hmatching.origin_token]
    exact htoken
  · rw [hdestination, hmatching.destination_chain]
  · rw [happ, hmatching.destination_app]
  · rw [hverifier, hmatching.verifier]

/-- Both contracts check the same mandate. -/
theorem settles_mandate
    (h : CrossChainAquaApp._validateMandate order mandate orderId = .ok ()) :
    CompactOriginSettler._validateMandate order mandate orderId = .ok () :=
  require_of (require_eq_ok.mp h) _

/-- The fill of a direct order passes the settler. -/
theorem Matching.settles_direct (hmatching : Matching d) {timestamp : U256}
    {isValidSignature : Address → B256 → Bytes → Bool} {quote : DirectMakerQuote}
    {makerSignature : Bytes}
    (h : CrossChainAquaApp._validateQuote keccak256 d.app timestamp isValidSignature order quote
      (CrossChainHashLib.hashOrder keccak256 order) makerSignature = .ok ())
    (hstrategy : quote.destinationStrategyHash ≠ 0)
    (hquote : (direct_fill keccak256 d.app order quote).makerQuoteHash ≠ 0)
    (hid : (direct_fill keccak256 d.app order quote).fillId ≠ 0) :
    CompactOriginSettler._validateFill d.settler order
      (CrossChainHashLib.hashOrder keccak256 order) (direct_fill keccak256 d.app order quote) =
        .ok () := by
  unfold CrossChainAquaApp._validateQuote at h
  obtain ⟨-, h⟩ := require_bind.mp h
  obtain ⟨⟨-, hmaker, horigin, hminimum, hamount⟩, -⟩ := require_eq_ok.mp h
  exact require_of ⟨rfl, rfl, hmatching.destination_chain.symm, hmatching.destination_app.symm,
    rfl, rfl, hminimum, hmaker, hstrategy, horigin, rfl, hamount, rfl, hquote, hid⟩ _

/-- The fill of a credit order passes the settler. -/
theorem Matching.settles_credit (hmatching : Matching d) {timestamp : U256}
    {isValidSignature : Address → B256 → Bytes → Bool} {quote : MakerCreditQuote}
    {makerSignature : Bytes}
    (h : CrossChainAquaApp._validateCreditQuote keccak256 d.app timestamp isValidSignature order
      quote (CrossChainHashLib.hashOrder keccak256 order) makerSignature = .ok ())
    (hstrategy : quote.destinationStrategyHash ≠ 0)
    (hquote : (credit_fill keccak256 d.app order quote).makerQuoteHash ≠ 0)
    (hid : (credit_fill keccak256 d.app order quote).fillId ≠ 0) :
    CompactOriginSettler._validateRoutedFill d.settler order
      (CrossChainHashLib.hashOrder keccak256 order) (credit_fill keccak256 d.app order quote) =
        .ok () := by
  unfold CrossChainAquaApp._validateCreditQuote at h
  obtain ⟨-, h⟩ := require_bind.mp h
  obtain ⟨-, hmaker, hminimum, hdue, -⟩ := require_eq_ok.mp h
  exact require_of ⟨rfl, rfl, hmatching.destination_chain.symm, hmatching.destination_app.symm,
    rfl, rfl, hminimum, hmaker, hstrategy, rfl, hmatching.usdc.symm, hdue, hquote, hid⟩ _

end Checks

/-! ## Evidence is unique -/

section Unique

variable {keccak256 : Bytes → B256} {d : Deployment} {w : World} {order : SolventCrossChainOrder}

/-- An order is delivered once. -/
theorem Books.delivered_unique (h : Books keccak256 d w) {fill fill' : VerifiedFill}
    {received received' : U256} (hmem : .Delivered order fill received ∈ w.log)
    (hmem' : .Delivered order fill' received' ∈ w.log) : fill = fill' := by
  by_contra hne
  have hother : Event.Delivered order fill received ≠ .Delivered order fill' received' := by
    intro heq
    injection heq with _ hfill _
    exact hne hfill
  rcases h.justified.order hmem hmem' hother with ⟨before, hearlier, hallowed⟩ |
    ⟨before, hearlier, hallowed⟩
  · exact hallowed.1 fill received hearlier
  · exact hallowed.1 fill' received' hearlier

/-- Delivered orders with one id are one order. -/
theorem Books.order_unique (h : Books keccak256 d w) (htold : w.Told keccak256)
    {order' : SolventCrossChainOrder} {fill fill' : VerifiedFill} {received received' : U256}
    (hmem : .Delivered order fill received ∈ w.log)
    (hmem' : .Delivered order' fill' received' ∈ w.log)
    (hid : CrossChainHashLib.hashOrder keccak256 order' =
      CrossChainHashLib.hashOrder keccak256 order) : order' = order := by
  obtain ⟨-, htext, -⟩ := h.delivered order fill received hmem
  obtain ⟨-, htext', -⟩ := h.delivered order' fill' received' hmem'
  exact CrossChainHashLib.order_bytes_injective keccak256 (htold htext' htext hid)

/-- What the origin's inbox holds for a delivered order is its fill. -/
theorem Sound.fill_stored (h : Sound keccak256 d w) (htold : w.Told keccak256)
    {fill : VerifiedFill} {received : U256} (hmem : .Delivered order fill received ∈ w.log)
    {id : B256} (hid : ((w.inbox .origin).fills id).fillId ≠ 0)
    (horder : ((w.inbox .origin).fills id).orderId =
      CrossChainHashLib.hashOrder keccak256 order) :
    (w.inbox .origin).fills id = fill := by
  obtain ⟨order', received', hmem'⟩ := h.safe.books.rails.fills id hid
  obtain ⟨-, -, horder'⟩ := h.safe.books.delivered order' _ received' hmem'
  obtain rfl := h.safe.books.order_unique htold hmem hmem' (horder'.symm.trans horder)
  exact h.safe.books.delivered_unique hmem' hmem

/-- A payment went to the maker of the delivery. -/
theorem Books.repaid_maker (h : Books keccak256 d w) {fill : VerifiedFill} {received : U256}
    (hmem : .Delivered order fill received ∈ w.log) {maker token : Address} {amount : U256}
    {strategy : Option B256} (hrepaid : .Repaid order maker token amount strategy ∈ w.log) :
    maker = fill.destinationMaker ∧ amount = order.inputAmount := by
  obtain ⟨before, hbefore, -, -, -, hamount, -, fill', delivered, hdelivered, hmaker, -⟩ :=
    h.justified.of_mem hrepaid
  obtain rfl := h.delivered_unique hmem (hbefore hdelivered)
  exact ⟨hmaker.symm, hamount⟩

/-- What the destination's inbox holds for a delivered order is its repayment. -/
theorem Sound.repayment_stored (h : Sound keccak256 d w) (htold : w.Told keccak256)
    {fill : VerifiedFill} {received : U256} (hmem : .Delivered order fill received ∈ w.log)
    (htoken : fill.repaymentToken = order.inputToken)
    (hamount : fill.repaymentAmount = order.inputAmount)
    {id : B256} (hid : ((w.inbox .destination).repayments id).repaymentId ≠ 0)
    (horder : ((w.inbox .destination).repayments id).orderId =
      CrossChainHashLib.hashOrder keccak256 order) :
    (w.inbox .destination).repayments id = CompactOriginSettler.recorded_repayment keccak256
      d.settler (CrossChainHashLib.hashOrder keccak256 order) fill := by
  obtain ⟨order', fill', strategy, hrecorded, htoken', hrepaid⟩ :=
    h.safe.books.rails.repayments id hid
  rw [hrecorded] at horder
  obtain ⟨before, hbefore, -, -, -, -, -, fill'', delivered, hdelivered, -⟩ :=
    h.safe.books.justified.of_mem hrepaid
  obtain rfl := h.safe.books.order_unique htold hmem (hbefore hdelivered) horder
  obtain ⟨hmaker, hpaid⟩ := h.safe.books.repaid_maker hmem hrepaid
  -- The maker, the token and the amount are all a recorded repayment takes of a fill.
  rw [hrecorded]
  unfold CompactOriginSettler.recorded_repayment
  rw [hmaker, htoken', htoken, hpaid, hamount]

end Unique

/-! ## Both inboxes accept -/

/-- The router brings these bytes from the outbox of the other chain. -/
structure Relays (d : Deployment) (side : Side) (data : Bytes) (message : Any2EVMMessage) :
    Prop where
  selector : message.sourceChainSelector = (d.inbox side).SOURCE_CHAIN_SELECTOR
  sender : message.sender = word (address_word (d.outbox side.peer).this)
  tokens : message.destTokenAmounts = []
  data : message.data = data

theorem Relays.carries {d : Deployment} {side : Side} {data : Bytes} {message : Any2EVMMessage}
    (h : Relays d side data message)
    (hpaired : (d.inbox side).sourceOutbox = (d.outbox side.peer).this) :
    Carries (d.inbox side) data message := by
  refine ⟨h.selector, ?_, h.tokens, h.data⟩
  rw [hpaired]
  exact h.sender

/-- The origin's inbox holds the fill, or takes it from any fresh message. -/
def TakesFill (d : Deployment) (w : World) (fill : VerifiedFill) : Prop :=
  (w.inbox .origin).fills fill.fillId = fill ∨
    ∀ message, Relays d .origin (ProofHashLib.encode .Fill (encode fill)) message →
      (w.inbox .origin).consumedMessages message.messageId = false →
      ∃ inbox, CcipProofInbox._ccipReceive (d.inbox .origin) (w.inbox .origin) message =
        .ok inbox ∧ inbox.fills fill.fillId = fill

/-- The destination's inbox holds the repayment, or takes it from any fresh
    message. -/
def TakesRepayment (d : Deployment) (w : World) (repayment : VerifiedRepayment) : Prop :=
  (w.inbox .destination).repayments repayment.repaymentId = repayment ∨
    ∀ message, Relays d .destination
      (ProofHashLib.encode .DirectRepayment (encode repayment)) message →
      (w.inbox .destination).consumedMessages message.messageId = false →
      ∃ inbox, CcipProofInbox._ccipReceive (d.inbox .destination) (w.inbox .destination) message =
        .ok inbox ∧ inbox.repayments repayment.repaymentId = repayment

/-- No hashed text has the hash zero. -/
def World.Named (keccak256 : Bytes → B256) (w : World) : Prop :=
  ∀ text ∈ w.hashed, keccak256 text ≠ 0

section Accepting

variable {keccak256 : Bytes → B256} {d : Deployment} {w : World} {order : SolventCrossChainOrder}
  {fill : VerifiedFill} {received : U256}

/-- Ids of fills tell orders apart. -/
theorem fill_id_bytes_injective (cfg : AppConfig) : Function.Injective (fill_id_bytes cfg) := by
  intro orderId orderId' h
  have hwords := words_injective h
  injection hwords with _ hwords
  injection hwords with _ hwords
  injection hwords with horder _

/-- Ids of repayments tell orders apart. -/
theorem repayment_id_bytes_injective (cfg : SettlerConfig) :
    Function.Injective (CompactOriginSettler.repayment_id_bytes cfg) := by
  intro orderId orderId' h
  have hwords := words_injective h
  injection hwords with _ hwords
  injection hwords with _ hwords
  injection hwords with horder _

/-- **The origin's inbox takes the fill of every delivery.** -/
theorem Sound.takes_fill (h : Sound keccak256 d w)
    (hpaired : (d.inbox .origin).sourceOutbox = (d.outbox .destination).this)
    (htold : w.Told keccak256) (hnamed : w.Named keccak256)
    (hmem : .Delivered order fill received ∈ w.log) : TakesFill d w fill := by
  have hbacked := h.evidenced.delivered order fill received hmem
  obtain ⟨-, -, horderId⟩ := h.safe.books.delivered order fill received hmem
  have hindexed := h.evidenced.indexed .origin
  have hid : fill.fillId ≠ 0 := hbacked.fill_id ▸ hnamed _ hbacked.hashed
  by_cases hslot : (w.inbox .origin).fillForOrder fill.orderId = 0
  · by_cases hslot' : ((w.inbox .origin).fills fill.fillId).fillId = 0
    · refine .inr fun message hrelays hfresh => ?_
      exact CcipProofInbox.accepts_fill (hrelays.carries hpaired) hfresh
        (horderId ▸ hbacked.order_ne) hid hslot hslot'
    · -- The slot of this id holds a fill of the same order.
      obtain ⟨order', received', hmem'⟩ := h.safe.books.rails.fills fill.fillId hslot'
      have hbacked' := h.evidenced.delivered order' _ received' hmem'
      have hids : keccak256 (fill_id_bytes d.app (CrossChainHashLib.hashOrder keccak256 order')) =
          keccak256 (fill_id_bytes d.app (CrossChainHashLib.hashOrder keccak256 order)) := by
        rw [← hbacked'.fill_id, ← hbacked.fill_id]
        exact hindexed.fills fill.fillId hslot'
      have horder := fill_id_bytes_injective d.app (htold hbacked'.hashed hbacked.hashed hids)
      obtain ⟨-, -, horderId'⟩ := h.safe.books.delivered order' _ received' hmem'
      exact .inl (h.fill_stored htold hmem hslot' (horderId'.trans horder))
  · -- The slot of this order holds its fill.
    obtain ⟨hused, hnamed'⟩ := hindexed.fillForOrder fill.orderId hslot
    have hstored := h.fill_stored htold hmem hused (hnamed'.trans horderId)
    have hindex := hindexed.fills _ hused
    rw [hstored] at hindex
    exact .inl (hindex ▸ hstored)

/-- A paid order with the id of a delivered one is that order. -/
theorem Sound.repaid_order (h : Sound keccak256 d w) (htold : w.Told keccak256)
    (hmem : .Delivered order fill received ∈ w.log) {order' : SolventCrossChainOrder}
    {maker token : Address} {amount : U256} {strategy : Option B256}
    (hrepaid : .Repaid order' maker token amount strategy ∈ w.log)
    (hid : CrossChainHashLib.hashOrder keccak256 order' =
      CrossChainHashLib.hashOrder keccak256 order) : order' = order := by
  obtain ⟨before, hbefore, -, -, -, -, -, fill', delivered, hdelivered, -⟩ :=
    h.safe.books.justified.of_mem hrepaid
  exact h.safe.books.order_unique htold hmem (hbefore hdelivered) hid

/-- A paid order was delivered, and its record is the repayment of its fill. -/
theorem Sound.recorded_of_repaid (h : Sound keccak256 d w) (htold : w.Told keccak256)
    (hmem : .Delivered order fill received ∈ w.log) {order' : SolventCrossChainOrder}
    {maker token : Address} {amount : U256} {strategy : Option B256}
    (hrepaid : .Repaid order' maker token amount strategy ∈ w.log)
    (hid : CrossChainHashLib.hashOrder keccak256 order' =
      CrossChainHashLib.hashOrder keccak256 order) :
    Receipted keccak256 d w order ∧
      (w.outbox .origin).recordedPayloads (CrossChainHashLib.hashOrder keccak256 order) =
        keccak256 (ProofHashLib.encode .DirectRepayment (encode
          (CompactOriginSettler.recorded_repayment keccak256 d.settler
            (CrossChainHashLib.hashOrder keccak256 order) fill))) := by
  obtain rfl := h.repaid_order htold hmem hrepaid hid
  have hreceipted := h.evidenced.repaid _ _ _ _ _ hrepaid
  obtain ⟨fill'', received'', hdelivered', hrecorded⟩ := hreceipted.recorded
  obtain rfl := h.safe.books.delivered_unique hmem hdelivered'
  exact ⟨hreceipted, hrecorded⟩

/-- A settled order was paid, and its record is the repayment of its fill. -/
theorem Sound.recorded_repayment (h : Sound keccak256 d w) (htold : w.Told keccak256)
    (hmem : .Delivered order fill received ∈ w.log) (hroute : order.routeKind = .DirectMaker)
    (hsettled : w.settler.settledOrders (CrossChainHashLib.hashOrder keccak256 order) = true) :
    Receipted keccak256 d w order ∧
      (w.outbox .origin).recordedPayloads (CrossChainHashLib.hashOrder keccak256 order) =
        keccak256 (ProofHashLib.encode .DirectRepayment (encode
          (CompactOriginSettler.recorded_repayment keccak256 d.settler
            (CrossChainHashLib.hashOrder keccak256 order) fill))) := by
  obtain ⟨order', claim, claimed, hid, hclaim⟩ := h.evidenced.settled _ hsettled
  obtain ⟨before, hbefore, -, -, -, -, -, fill', delivered, hdelivered⟩ :=
    h.safe.books.justified.of_mem hclaim
  obtain rfl := h.safe.books.order_unique htold hmem (hbefore hdelivered) hid
  obtain ⟨maker, strategy, hrepaid⟩ := h.safe.settled.paid order' claim claimed hclaim hroute
  exact h.recorded_of_repaid htold hmem hrepaid rfl

/-- **The destination's inbox takes the repayment of every settled direct
    order.** -/
theorem Sound.takes_repayment (h : Sound keccak256 d w)
    (hpaired : (d.inbox .destination).sourceOutbox = (d.outbox .origin).this)
    (htold : w.Told keccak256) (hnamed : w.Named keccak256)
    (hmem : .Delivered order fill received ∈ w.log)
    (htoken : fill.repaymentToken = order.inputToken)
    (hamount : fill.repaymentAmount = order.inputAmount)
    (hreceipted : Receipted keccak256 d w order) :
    TakesRepayment d w (CompactOriginSettler.recorded_repayment keccak256 d.settler
      (CrossChainHashLib.hashOrder keccak256 order) fill) := by
  have hindexed := h.evidenced.indexed .destination
  have hid : (CompactOriginSettler.recorded_repayment keccak256 d.settler
      (CrossChainHashLib.hashOrder keccak256 order) fill).repaymentId ≠ 0 :=
    hnamed _ hreceipted.hashed
  by_cases hslot : (w.inbox .destination).repaymentForOrder
      (CrossChainHashLib.hashOrder keccak256 order) = 0
  · by_cases hslot' : ((w.inbox .destination).repayments
        (CompactOriginSettler.recorded_repayment keccak256 d.settler
          (CrossChainHashLib.hashOrder keccak256 order) fill).repaymentId).repaymentId = 0
    · refine .inr fun message hrelays hfresh => ?_
      exact CcipProofInbox.accepts_repayment (hrelays.carries hpaired) hfresh
        hreceipted.order_ne hid hslot hslot'
    · -- The slot of this id holds a repayment of the same order.
      have hindex := hindexed.repayments _ hslot'
      obtain ⟨order', fill', strategy, hrecorded, -, hrepaid⟩ :=
        h.safe.books.rails.repayments _ hslot'
      have hreceipted' := h.evidenced.repaid _ _ _ _ _ hrepaid
      have hids : keccak256 (CompactOriginSettler.repayment_id_bytes d.settler
            (CrossChainHashLib.hashOrder keccak256 order')) =
          keccak256 (CompactOriginSettler.repayment_id_bytes d.settler
            (CrossChainHashLib.hashOrder keccak256 order)) := by
        rw [hrecorded] at hindex
        exact hindex
      have horder := repayment_id_bytes_injective d.settler
        (htold hreceipted'.hashed hreceipted.hashed hids)
      refine .inl (h.repayment_stored htold hmem htoken hamount hslot' ?_)
      rw [hrecorded]
      exact horder
  · -- The slot of this order holds its repayment.
    obtain ⟨hused, hnamed'⟩ := hindexed.repaymentForOrder _ hslot
    have hstored := h.repayment_stored htold hmem htoken hamount hused hnamed'
    have hindex := hindexed.repayments _ hused
    rw [hstored] at hindex
    exact .inl (hindex ▸ hstored)

/-- Until its order is settled, both used-once checks of a fill pass. -/
theorem Sound.unused (h : Sound keccak256 d w) (htold : w.Told keccak256)
    (hmem : .Delivered order fill received ∈ w.log)
    (hopen : w.settler.settledOrders (CrossChainHashLib.hashOrder keccak256 order) = false) :
    w.settler.unused (CrossChainHashLib.hashOrder keccak256 order) fill.fillId = .ok () := by
  have hfill : w.settler.usedFillProofs fill.fillId = false := by
    by_contra hused
    rw [Bool.not_eq_false] at hused
    obtain ⟨order', fill', received', hmem', hid, hsettled⟩ := h.evidenced.used_fills _ hused
    have hbacked := h.evidenced.delivered order fill received hmem
    have hbacked' := h.evidenced.delivered order' fill' received' hmem'
    rw [hbacked.fill_id, hbacked'.fill_id] at hid
    have horder := fill_id_bytes_injective d.app (htold hbacked'.hashed hbacked.hashed hid)
    rw [horder, hopen] at hsettled
    cases hsettled
  unfold CompactOriginSettler.unused
  rw [pass_bind hopen]
  exact require_of hfill _

/-- **A stored repayment closes a delivered receivable.** -/
theorem Sound.confirms (h : Sound keccak256 d w) (hmatching : Matching d)
    (htold : w.Told keccak256) (hnamed : w.Named keccak256)
    (hmem : .Delivered order fill received ∈ w.log) (hroute : order.routeKind = .DirectMaker)
    (htoken : fill.repaymentToken = order.inputToken) (hreceipted : Receipted keccak256 d w order)
    (hstored : (w.inbox .destination).repayments
        (CompactOriginSettler.recorded_repayment keccak256 d.settler
          (CrossChainHashLib.hashOrder keccak256 order) fill).repaymentId =
      CompactOriginSettler.recorded_repayment keccak256 d.settler
        (CrossChainHashLib.hashOrder keccak256 order) fill)
    (hdelivered : (w.app.directReceivables
      (CrossChainHashLib.hashOrder keccak256 order)).state = .Delivered) :
    ∃ w', confirmDirectRepayment d w (CrossChainHashLib.hashOrder keccak256 order)
      (word (CompactOriginSettler.recorded_repayment keccak256 d.settler
        (CrossChainHashLib.hashOrder keccak256 order) fill).repaymentId) = .ok w' := by
  have howed := (h.evidenced.delivered order fill received hmem).direct hroute
  have hid : (CompactOriginSettler.recorded_repayment keccak256 d.settler
      (CrossChainHashLib.hashOrder keccak256 order) fill).repaymentId ≠ 0 :=
    hnamed _ hreceipted.hashed
  have hfresh : w.app.usedRepaymentProofs (CompactOriginSettler.recorded_repayment keccak256
      d.settler (CrossChainHashLib.hashOrder keccak256 order) fill).repaymentId = false := by
    by_contra hused
    rw [Bool.not_eq_false] at hused
    obtain ⟨order', maker, token, amount, strategy, hrepaid, hids, hclosed⟩ :=
      h.evidenced.used_repayments _ hused
    have hreceipted' := h.evidenced.repaid _ _ _ _ _ hrepaid
    have horder := repayment_id_bytes_injective d.settler
      (htold hreceipted.hashed hreceipted'.hashed hids)
    rw [← horder, hdelivered] at hclosed
    cases hclosed
  have hmatches : repayment_matches d.app w.app (CrossChainHashLib.hashOrder keccak256 order)
      (CompactOriginSettler.recorded_repayment keccak256 d.settler
        (CrossChainHashLib.hashOrder keccak256 order) fill) :=
    ⟨hdelivered, rfl, hmatching.origin_chain.symm, hmatching.origin_settler.symm, howed.maker.symm,
      htoken.trans howed.token.symm, howed.amount.symm, hid⟩
  obtain ⟨outstanding, hrelease⟩ := Option.isSome_iff_exists.mp
    (h.safe.exposed.release_direct hdelivered)
  unfold confirmDirectRepayment
  rw [CcipProofInbox.verifies_repayment hid hstored]
  show ∃ w', (bubble AppError.Inbox (.ok _) >>= fun _ => _) = .ok w'
  have hclose : ∃ app, w.app.close_direct d.app (CrossChainHashLib.hashOrder keccak256 order)
      (CompactOriginSettler.recorded_repayment keccak256 d.settler
        (CrossChainHashLib.hashOrder keccak256 order) fill) = .ok app := by
    unfold close_direct
    rw [pass_bind hfresh]
    show ∃ app, (require _ _ >>= fun _ => _) = .ok app
    rw [pass_bind hmatches, hrelease]
    exact ⟨_, rfl⟩
  obtain ⟨app, hclose⟩ := hclose
  refine ⟨{ w with app }, ?_⟩
  show (w.app.close_direct d.app _ _ >>= fun _ => _) = _
  rw [hclose]
  rfl

end Accepting

/-! ## Filled orders -/

/-- The transaction fills this order and records this fill for it. -/
inductive Fills (keccak256 : Bytes → B256) (d : Deployment) :
    Action → SolventCrossChainOrder → SolventMandate → VerifiedFill → Prop
  | direct (caller : Address) (outside : FillOutside) (order : SolventCrossChainOrder)
      (mandate : SolventMandate) (quote : DirectMakerQuote) (makerSignature : Bytes)
      (strategy : quote.destinationStrategyHash ≠ 0) :
      Fills keccak256 d (.fillDirect caller outside order mandate quote makerSignature) order
        mandate (direct_fill keccak256 d.app order quote)
  | credit (caller : Address) (outside : FillOutside) (order : SolventCrossChainOrder)
      (mandate : SolventMandate) (quote : MakerCreditQuote) (makerSignature : Bytes)
      (strategy : quote.destinationStrategyHash ≠ 0) :
      Fills keccak256 d (.fillCredit caller outside order mandate quote makerSignature) order
        mandate (credit_fill keccak256 d.app order quote)

/-- What the settler checks of an order before it calls The Compact, the claim
    apart. -/
structure Settles (keccak256 : Bytes → B256) (cfg : SettlerConfig) (order : SolventCrossChainOrder)
    (mandate : SolventMandate) (fill : VerifiedFill) : Prop where
  valid_order : CompactOriginSettler._validateOrder cfg order order.routeKind = .ok ()
  valid_mandate : CompactOriginSettler._validateMandate order mandate
    (CrossChainHashLib.hashOrder keccak256 order) = .ok ()
  valid_fill : order.routeKind = .DirectMaker → CompactOriginSettler._validateFill cfg order
    (CrossChainHashLib.hashOrder keccak256 order) fill = .ok ()
  valid_routed_fill : order.routeKind = .TwoMakerCredit →
    CompactOriginSettler._validateRoutedFill cfg order
      (CrossChainHashLib.hashOrder keccak256 order) fill = .ok ()

section Filled

variable {keccak256 : Bytes → B256} {d : Deployment} {w w' : World}

/-- A fill is delivered, and its quote is hashed. -/
theorem deliver_and_record_delivers {app : CrossChainAquaApp} {o : FillOutside}
    {order : SolventCrossChainOrder} {fill : VerifiedFill} {quoteHash : B256}
    (h : deliver_and_record keccak256 d w app o order fill quoteHash = .ok w') :
    .Delivered order fill fill.outputAmount ∈ w'.log ∧
      typed_bytes keccak256 d.app quoteHash ∈ w'.hashed := by
  obtain ⟨mid, hmid, hrecord⟩ := deliver_and_record_ok h
  have hinside : Inside .destination
      (w.delivered keccak256 d app order fill quoteHash fill.outputAmount) mid :=
    hmid ▸ inside_destination_inside o.calls _
  obtain ⟨outbox, -, rfl⟩ := World.record_ok hrecord
  constructor
  · exact hinside.log_subset (List.mem_append_right w.log (List.mem_singleton_self _))
  · refine List.mem_append_left _ (hinside.hashed_extends.subset ?_)
    exact List.mem_append_right w.hashed (by simp)

theorem Fills.delivers {a : Action} {order : SolventCrossChainOrder} {mandate : SolventMandate}
    {fill : VerifiedFill} (hfills : Fills keccak256 d a order mandate fill)
    (h : a.apply keccak256 d w = .ok w') : .Delivered order fill fill.outputAmount ∈ w'.log := by
  match hfills with
  | .direct _ _ _ _ _ _ _ =>
    obtain ⟨-, -, -, app, -, h⟩ := fillDirect_ok (bubble_eq_ok.mp h)
    exact (deliver_and_record_delivers h).1
  | .credit _ _ _ _ _ _ _ =>
    obtain ⟨-, -, -, app, -, h⟩ := fillCredit_ok (bubble_eq_ok.mp h)
    exact (deliver_and_record_delivers h).1

/-- **What is filled can be settled.** -/
theorem Fills.settles {a : Action} {order : SolventCrossChainOrder} {mandate : SolventMandate}
    {fill : VerifiedFill} (hfills : Fills keccak256 d a order mandate fill)
    (hmatching : Matching d) (h : a.apply keccak256 d w = .ok w')
    (hnamed : ∀ text ∈ w'.hashed, keccak256 text ≠ 0) (hid : fill.fillId ≠ 0) :
    .Delivered order fill fill.outputAmount ∈ w'.log ∧
      Settles keccak256 d.settler order mandate fill := by
  match hfills with
  | .direct caller o order mandate quote makerSignature hstrategy =>
    obtain ⟨horder, hmandate, hquote, app, -, h⟩ := fillDirect_ok (bubble_eq_ok.mp h)
    obtain ⟨hmem, htext⟩ := deliver_and_record_delivers h
    have hroute : order.routeKind = .DirectMaker := by
      unfold CrossChainAquaApp._validateOrder at horder
      obtain ⟨⟨-, -, -, -, -, -, -, -, -, -, -, -, hroute, -⟩, -⟩ := require_bind.mp horder
      exact hroute
    refine ⟨hmem, ⟨?_, settles_mandate hmandate, fun _ => ?_, fun h => ?_⟩⟩
    · rw [hroute]
      exact hmatching.settles_order horder
    · exact hmatching.settles_direct hquote hstrategy (hnamed _ htext) hid
    · rw [hroute] at h
      cases h
  | .credit caller o order mandate quote makerSignature hstrategy =>
    obtain ⟨horder, hmandate, hquote, app, -, h⟩ := fillCredit_ok (bubble_eq_ok.mp h)
    obtain ⟨hmem, htext⟩ := deliver_and_record_delivers h
    have hroute : order.routeKind = .TwoMakerCredit := by
      unfold CrossChainAquaApp._validateOrder at horder
      obtain ⟨⟨-, -, -, -, -, -, -, -, -, -, -, -, hroute, -⟩, -⟩ := require_bind.mp horder
      exact hroute
    refine ⟨hmem, ⟨?_, settles_mandate hmandate, fun h => ?_, fun _ => ?_⟩⟩
    · rw [hroute]
      exact hmatching.settles_order horder
    · rw [hroute] at h
      cases h
    · exact hmatching.settles_credit hquote hstrategy (hnamed _ htext) hid

/-- The log and the hashed texts only grow along a run. -/
theorem run_grows {actions : List Action}
    (hadmitted : Run.Along (step keccak256 d) (fun w a => a.Admitted d w) w actions) :
    w.log ⊆ (Run.run (step keccak256 d) w actions).log ∧
      w.hashed ⊆ (Run.run (step keccak256 d) w actions).hashed := by
  refine Run.invariant (P := fun w' : World => w.log ⊆ w'.log ∧ w.hashed ⊆ w'.hashed) ?_
    ⟨fun _ => id, fun _ => id⟩ hadmitted
  intro w' a h hadmitted
  rcases attempt_cases (fun w => a.apply keccak256 d w) w' with ⟨w'', hok, heq⟩ | heq
  · change step keccak256 d w' a = w'' at heq
    rw [heq]
    exact ⟨List.Subset.trans h.1 (apply_change hok hadmitted).log_subset,
      List.Subset.trans h.2 (apply_hashed hok).subset⟩
  · change step keccak256 d w' a = w' at heq
    rwa [heq]

/-- A fill hashes the envelope it records. -/
theorem deliver_and_record_hashes {app : CrossChainAquaApp} {o : FillOutside}
    {order : SolventCrossChainOrder} {fill : VerifiedFill} {quoteHash : B256}
    (h : deliver_and_record keccak256 d w app o order fill quoteHash = .ok w') :
    ProofHashLib.encode .Fill (encode fill) ∈ w'.hashed := by
  obtain ⟨mid, -, hrecord⟩ := deliver_and_record_ok h
  obtain ⟨outbox, -, rfl⟩ := World.record_ok hrecord
  exact List.mem_append_right mid.hashed (List.mem_singleton_self _)

/-- A direct settlement pays the maker of the fill it was given and hashes the
    envelope it records. -/
theorem settleDirect_repays {o : DirectOutside} {order : SolventCrossChainOrder}
    {mandate : SolventMandate} {fillProof : Bytes} {compactClaim : Claim}
    (h : settleDirect keccak256 d w o order mandate fillProof compactClaim = .ok w') :
    ∃ fill strategy, .Repaid order fill.destinationMaker order.inputToken fill.repaymentAmount
        strategy ∈ w'.log ∧
      fill.repaymentToken = order.inputToken ∧
      ProofHashLib.encode .DirectRepayment (encode
        (CompactOriginSettler.recorded_repayment keccak256 d.settler
          (CrossChainHashLib.hashOrder keccak256 order) fill)) ∈ w'.hashed := by
  obtain ⟨fill, -, -, hvalid, -, -, strategy, mid, -, -, hrecord⟩ := settleDirect_ok h
  obtain ⟨outbox, -, rfl⟩ := World.record_ok hrecord
  obtain ⟨-, -, -, -, -, -, -, -, -, -, htoken, -⟩ := require_eq_ok.mp hvalid
  exact ⟨fill, strategy, List.mem_append_right mid.log (List.mem_singleton_self _), htoken,
    List.mem_append_right _ (List.mem_singleton_self _)⟩

/-- Among the transactions this one succeeds. -/
def Succeeds (keccak256 : Bytes → B256) (d : Deployment) (actions : List Action) (a : Action) :
    Prop :=
  ∃ before after w', actions = before ++ a :: after ∧
    a.apply keccak256 d (Run.run (step keccak256 d) World.empty before) = .ok w'

/-- What a successful transaction logs and hashes is there at the end. -/
theorem Succeeds.kept {actions : List Action} {a : Action} (h : Succeeds keccak256 d actions a)
    (hadmitted : Run.Along (step keccak256 d) (fun w a => a.Admitted d w) World.empty actions) :
    ∃ w w', a.apply keccak256 d w = .ok w' ∧
      w'.log ⊆ (Run.run (step keccak256 d) World.empty actions).log ∧
      w'.hashed ⊆ (Run.run (step keccak256 d) World.empty actions).hashed := by
  obtain ⟨before, after, w', rfl, hok⟩ := h
  have hstep : step keccak256 d (Run.run (step keccak256 d) World.empty before) a = w' :=
    attempt_ok hok
  rw [Run.along_append] at hadmitted
  refine ⟨_, w', hok, ?_⟩
  rw [Run.run_append, Run.run_cons, hstep]
  exact run_grows (hstep ▸ hadmitted.2.2)

/-! ## What is recorded can be dispatched -/

/-- What the outbox of a chain recorded for an order is this envelope, and no
    dispatch of it is refused for its payload. -/
structure Recorded (keccak256 : Bytes → B256) (d : Deployment) (w : World) (side : Side)
    (orderId : B256) (envelope : Bytes) : Prop where
  recorded : (w.outbox side).recordedPayloads orderId = keccak256 envelope
  dispatched : ∀ o e, CcipProofOutbox.dispatch keccak256 (d.outbox side) (w.outbox side) orderId
    envelope o = .error e → ¬CcipProofOutbox.RefusesPayload e

theorem recorded_of_hash {side : Side} {orderId : B256} {envelope : Bytes}
    (h : (w.outbox side).recordedPayloads orderId = keccak256 envelope)
    (hne : keccak256 envelope ≠ 0) : Recorded keccak256 d w side orderId envelope :=
  ⟨h, fun _ _ hdispatch => CcipProofOutbox.dispatch_recorded h hne hdispatch⟩

/-- A direct fill that succeeded in the run is delivered and recorded. -/
theorem Sound.filled_direct {actions : List Action}
    (h : Sound keccak256 d (Run.run (step keccak256 d) World.empty actions))
    (hnamed : (Run.run (step keccak256 d) World.empty actions).Named keccak256)
    (hadmitted : Run.Along (step keccak256 d) (fun w a => a.Admitted d w) World.empty actions)
    {caller : Address} {o : FillOutside} {order : SolventCrossChainOrder}
    {mandate : SolventMandate} {quote : DirectMakerQuote} {makerSignature : Bytes}
    (hfilled : Succeeds keccak256 d actions
      (.fillDirect caller o order mandate quote makerSignature)) :
    .Delivered order (direct_fill keccak256 d.app order quote) quote.outputAmount ∈
        (Run.run (step keccak256 d) World.empty actions).log ∧
      (direct_fill keccak256 d.app order quote).fillId ≠ 0 ∧
      Recorded keccak256 d (Run.run (step keccak256 d) World.empty actions) .destination
        (CrossChainHashLib.hashOrder keccak256 order)
        (ProofHashLib.encode .Fill (encode (direct_fill keccak256 d.app order quote))) := by
  obtain ⟨start, filled, hok, hlog, hhashed⟩ := hfilled.kept hadmitted
  obtain ⟨-, -, -, app, -, hrecord⟩ := fillDirect_ok (bubble_eq_ok.mp hok)
  have hmem := hlog (deliver_and_record_delivers hrecord).1
  have hbacked := h.evidenced.delivered order _ _ hmem
  exact ⟨hmem, hbacked.fill_id ▸ hnamed _ hbacked.hashed,
    recorded_of_hash hbacked.recorded (hnamed _ (hhashed (deliver_and_record_hashes hrecord)))⟩

/-- A direct settlement that succeeded in the run, of an order with the id of a
    delivered one, has recorded the repayment of the delivery's fill. -/
theorem Sound.settled_direct {actions : List Action}
    (h : Sound keccak256 d (Run.run (step keccak256 d) World.empty actions))
    (htold : (Run.run (step keccak256 d) World.empty actions).Told keccak256)
    (hnamed : (Run.run (step keccak256 d) World.empty actions).Named keccak256)
    (hadmitted : Run.Along (step keccak256 d) (fun w a => a.Admitted d w) World.empty actions)
    {order order' : SolventCrossChainOrder} {fill : VerifiedFill} {received : U256}
    (hmem : .Delivered order fill received ∈
      (Run.run (step keccak256 d) World.empty actions).log)
    (htoken : fill.repaymentToken = order.inputToken)
    (hamount : fill.repaymentAmount = order.inputAmount)
    {o : DirectOutside} {mandate : SolventMandate} {fillProof : Bytes} {compactClaim : Claim}
    (hsettled : Succeeds keccak256 d actions
      (.settleDirect o order' mandate fillProof compactClaim))
    (hid : CrossChainHashLib.hashOrder keccak256 order' =
      CrossChainHashLib.hashOrder keccak256 order) :
    Receipted keccak256 d (Run.run (step keccak256 d) World.empty actions) order ∧
      Recorded keccak256 d (Run.run (step keccak256 d) World.empty actions) .origin
        (CrossChainHashLib.hashOrder keccak256 order)
        (ProofHashLib.encode .DirectRepayment (encode
          (CompactOriginSettler.recorded_repayment keccak256 d.settler
            (CrossChainHashLib.hashOrder keccak256 order) fill))) := by
  obtain ⟨start, settled, hok, hlog, hhashed⟩ := hsettled.kept hadmitted
  obtain ⟨paid, strategy, hrepaid, hpaid_token, htext⟩ :=
    settleDirect_repays (bubble_eq_ok.mp hok)
  obtain rfl := h.repaid_order htold hmem (hlog hrepaid) hid
  obtain ⟨hreceipted, hrecorded⟩ := h.recorded_of_repaid htold hmem (hlog hrepaid) rfl
  obtain ⟨hmaker, hpaid⟩ := h.safe.books.repaid_maker hmem (hlog hrepaid)
  -- The settlement hashed what it recorded.
  have hsame : CompactOriginSettler.recorded_repayment keccak256 d.settler
      (CrossChainHashLib.hashOrder keccak256 order') paid =
        CompactOriginSettler.recorded_repayment keccak256 d.settler
          (CrossChainHashLib.hashOrder keccak256 order') fill :=
    VerifiedRepayment.ext rfl rfl rfl hmaker (hpaid_token.trans htoken.symm)
      (hpaid.trans hamount.symm) rfl
  rw [hsame] at htext
  exact ⟨hreceipted, recorded_of_hash hrecorded (hnamed _ (hhashed htext))⟩

end Filled

/-- **Every fill can be settled and closed.** An order is filled on the
    destination of matching deployments; then, whatever else happens on either
    chain: the fill is the recorded one, the origin's inbox takes it, and it
    passes every check of its settlement, the used-once ones until the order is
    settled; and once a direct order is settled, the repayment it recorded is
    taken by the destination's inbox and closes the receivable while that is
    delivered. -/
theorem fill_settles_and_closes (keccak256 : Bytes → B256) (d : Deployment)
    (hmatching : Matching d) (before after : List Action) (a : Action)
    (order : SolventCrossChainOrder) (mandate : SolventMandate) (fill : VerifiedFill)
    (hfills : Fills keccak256 d a order mandate fill)
    (hsucceeds : ∃ w', a.apply keccak256 d
      (Run.run (step keccak256 d) World.empty before) = .ok w')
    (hadmitted : Run.Along (step keccak256 d) (fun w a => a.Admitted d w) World.empty
      (before ++ a :: after))
    (htold : (Run.run (step keccak256 d) World.empty (before ++ a :: after)).Told keccak256)
    (hnamed : (Run.run (step keccak256 d) World.empty (before ++ a :: after)).Named keccak256) :
    let w := Run.run (step keccak256 d) World.empty (before ++ a :: after)
    let orderId := CrossChainHashLib.hashOrder keccak256 order
    let repayment := CompactOriginSettler.recorded_repayment keccak256 d.settler orderId fill
    (w.outbox .destination).recordedPayloads orderId =
        keccak256 (ProofHashLib.encode .Fill (encode fill)) ∧
      TakesFill d w fill ∧
      Settles keccak256 d.settler order mandate fill ∧
      ((w.inbox .origin).fills fill.fillId = fill →
        (w.inbox .origin).verifyFill (word fill.fillId) = .ok fill) ∧
      (w.settler.settledOrders orderId = false →
        w.settler.unused orderId fill.fillId = .ok ()) ∧
      (order.routeKind = .DirectMaker → w.settler.settledOrders orderId = true →
        (w.outbox .origin).recordedPayloads orderId =
            keccak256 (ProofHashLib.encode .DirectRepayment (encode repayment)) ∧
          TakesRepayment d w repayment ∧
          ((w.inbox .destination).repayments repayment.repaymentId = repayment →
            (w.app.directReceivables orderId).state = .Delivered →
            ∃ w', confirmDirectRepayment d w orderId (word repayment.repaymentId) = .ok w')) := by
  intro w orderId repayment
  have hsound : Sound keccak256 d w := run_sound sound_empty hadmitted htold
  obtain ⟨w', hok⟩ := hsucceeds
  obtain ⟨start, w', hok, hlog, hhashed⟩ :=
    Succeeds.kept ⟨before, after, w', rfl, hok⟩ hadmitted
  have hmem : .Delivered order fill fill.outputAmount ∈ w.log := hlog (hfills.delivers hok)
  have hbacked := hsound.evidenced.delivered order fill _ hmem
  have hid : fill.fillId ≠ 0 := hbacked.fill_id ▸ hnamed _ hbacked.hashed
  obtain ⟨-, hsettles⟩ := hfills.settles hmatching hok
    (fun text htext => hnamed text (hhashed htext)) hid
  refine ⟨hbacked.recorded, hsound.takes_fill (hmatching.outboxes .origin) htold hnamed hmem, hsettles,
    CcipProofInbox.verifies_fill hid, hsound.unused htold hmem, ?_⟩
  intro hroute hsettled
  obtain ⟨hreceipted, hrecorded⟩ := hsound.recorded_repayment htold hmem hroute hsettled
  obtain ⟨-, -, -, -, -, -, -, -, -, -, htoken, hamount, -⟩ :=
    require_eq_ok.mp (hsettles.valid_fill hroute)
  exact ⟨hrecorded,
    hsound.takes_repayment (hmatching.outboxes .destination) htold hnamed hmem htoken hamount
      hreceipted,
    hsound.confirms hmatching htold hnamed hmem hroute htoken hreceipted⟩

theorem sample_matching : Matching sample_deployment := by
  refine ⟨rfl, rfl, rfl, rfl, rfl, rfl, rfl, rfl, rfl, rfl, rfl, ?_⟩
  intro side
  match side with
  | .destination => rfl
  | .origin => rfl

theorem exists_of_toOption {ε α : Type} {x : Except ε α} (h : x.toOption.isSome) :
    ∃ a, x = .ok a := by
  match x, h with
  | .ok a, _ => exact ⟨a, rfl⟩

set_option maxRecDepth 20000 in
theorem fill_settles_and_closes_sample :
    Settles sample_hash sample_deployment.settler sample_order sample_mandate sample_fill ∧
      TakesFill sample_deployment sample_end sample_fill := by
  have htold : ∀ text ∈ sample_end.hashed, ∀ text' ∈ sample_end.hashed,
      sample_hash text = sample_hash text' → text = text' := by decide +kernel
  have hnamed : ∀ text ∈ sample_end.hashed, sample_hash text ≠ 0 := by decide +kernel
  have hsucceeds : ((Action.fillDirect 9 sample_delivery sample_order sample_mandate sample_quote
      []).apply sample_hash sample_deployment (Run.run (step sample_hash sample_deployment)
        World.empty (sample_actions.take 1))).toOption.isSome := by decide +kernel
  obtain ⟨-, htakes, hsettles, -⟩ := fill_settles_and_closes sample_hash sample_deployment
    sample_matching (sample_actions.take 1) (sample_actions.drop 2)
    (.fillDirect 9 sample_delivery sample_order sample_mandate sample_quote []) sample_order
    sample_mandate sample_fill (.direct _ _ _ _ _ _ (by decide))
    (exists_of_toOption hsucceeds) (by decide +kernel)
    (fun text h text' h' => htold text h text' h') hnamed
  exact ⟨hsettles, htakes⟩

end Solvent.Contracts
