import Mathlib
import Solvent.Contracts.Inside

/-! # Exposure over runs

    Every transaction keeps the exposure of the application exact and capped, and
    moves each receivable at most one step (`Accounted`). A run is then exact and
    capped in every state it passes.
-/

namespace Solvent.Contracts

open Abi Contract CrossChainAquaApp

variable {keccak256 : Bytes → B256} {d : Deployment}

/-- What one transaction does to the application's books. -/
structure Accounted (s s' : CrossChainAquaApp) : Prop where
  exposed : Exposed s'
  direct : ∀ id, (s.directReceivables id).Moves (s'.directReceivables id)
  credit : ∀ id, (s.creditReceivables id).Moves (s'.creditReceivables id)

namespace CrossChainAquaApp

variable {s s' s'' : CrossChainAquaApp}

theorem Configured.accounted (h : Configured s s') (hs : Exposed s) : Accounted s s' where
  exposed := h.exposed hs
  direct id := .inl (by rw [h.directReceivables])
  credit id := .inl (by rw [h.creditReceivables])

end CrossChainAquaApp

namespace Accounted

variable {s s' s'' : CrossChainAquaApp}

/-- Configuring strategies afterwards changes no receivable. -/
theorem configured (h : Accounted s s') (hc : Configured s' s'') : Accounted s s'' where
  exposed := hc.exposed h.exposed
  direct id := by
    rw [hc.directReceivables]
    exact h.direct id
  credit id := by
    rw [hc.creditReceivables]
    exact h.credit id

theorem opens_direct {orderId : B256} {order : SolventCrossChainOrder} {quote : DirectMakerQuote}
    (hs : Exposed s) (h : OpensDirect s s' orderId order quote) : Accounted s s' where
  exposed := hs.opens_direct h
  direct id := by
    obtain ⟨filledAt, hreceivables⟩ := h.receivable
    rw [hreceivables, Mapping.set_apply]
    split
    · rename_i heq
      rw [heq]
      exact .inr (.inl ⟨(hs.none_of_unused h.fresh).1, rfl⟩)
    · exact .inl rfl
  credit id := .inl (by rw [h.creditReceivables])

theorem opens_credit {orderId : B256} {quote : MakerCreditQuote} (hs : Exposed s)
    (h : OpensCredit s s' orderId quote) : Accounted s s' where
  exposed := hs.opens_credit h
  direct id := .inl (by rw [h.directReceivables])
  credit id := by
    obtain ⟨filledAt, hreceivables⟩ := h.receivable
    rw [hreceivables, Mapping.set_apply]
    split
    · rename_i heq
      rw [heq]
      exact .inr (.inl ⟨(hs.none_of_unused h.fresh).2, rfl⟩)
    · exact .inl rfl

theorem closes_direct {orderId repaymentId : B256} (hs : Exposed s)
    (h : ClosesDirect s s' orderId repaymentId) : Accounted s s' where
  exposed := hs.closes_direct h
  direct id := by
    rw [h.receivable, Mapping.set_apply]
    split
    · rename_i heq
      rw [heq]
      exact .inr (.inr ⟨h.delivered, rfl⟩)
    · exact .inl rfl
  credit id := .inl (by rw [h.creditReceivables])

theorem closes_credit {orderId : B256} (hs : Exposed s)
    (hdelivered : (s.creditReceivables orderId).state = .Delivered)
    (h : ClosesCredit s s' orderId) : Accounted s s' where
  exposed := hs.closes_credit hdelivered h
  direct id := .inl (by rw [h.directReceivables])
  credit id := by
    rw [h.receivable, Mapping.set_apply]
    split
    · rename_i heq
      rw [heq]
      exact .inr (.inr ⟨hdelivered, rfl⟩)
    · exact .inl rfl

end Accounted

theorem Inside.accounted {side : Side} {w w' : World} (h : Inside side w w')
    (hs : Exposed w.app) : Accounted w.app w'.app :=
  h.app.accounted hs

/-- Past the opening of a receivable, a fill writes nothing else to the books. -/
theorem deliver_and_record_accounted {w w' : World} {app : CrossChainAquaApp} {o : FillOutside}
    {order : SolventCrossChainOrder} {fill : VerifiedFill} {quoteHash : B256}
    (h : deliver_and_record keccak256 d w app o order fill quoteHash = .ok w')
    (happ : Accounted w.app app) : Accounted w.app w'.app := by
  obtain ⟨mid, hmid, hrecord⟩ := deliver_and_record_ok h
  obtain ⟨outbox, -, rfl⟩ := World.record_ok hrecord
  have hinside : Inside .destination _ mid := hmid ▸ inside_destination_inside o.calls _
  exact happ.configured hinside.app

/-- **Step lemma.** A transaction that succeeds keeps the books. -/
theorem apply_accounted {w w' : World} {a : Action} (h : a.apply keccak256 d w = .ok w')
    (hs : Exposed w.app) : Accounted w.app w'.app := by
  cases a with
  | open_destination call => exact (OpenCall.apply_inside h).accounted hs
  | open_origin call => exact (RailCall.apply_inside h).accounted hs
  | fillDirect caller o order mandate quote makerSignature =>
    obtain ⟨-, -, -, app, happ, h⟩ := fillDirect_ok (bubble_eq_ok.mp h)
    exact deliver_and_record_accounted h (.opens_direct hs (open_direct_ok happ))
  | fillCredit caller o order mandate quote makerSignature =>
    obtain ⟨-, -, -, app, happ, h⟩ := fillCredit_ok (bubble_eq_ok.mp h)
    exact deliver_and_record_accounted h (.opens_credit hs (open_credit_ok happ))
  | completeRepayment o orderId message attestation =>
    obtain ⟨hdelivered, app, happ, strategy, surplus, rfl⟩ :=
      completeRepayment_ok (bubble_eq_ok.mp h)
    have hclosed : Accounted w.app app := .closes_credit hs hdelivered (close_credit_ok happ)
    exact hclosed.configured (inside_destination_inside o.calls { w with app }).app
  | confirmDirectRepayment orderId repaymentProof =>
    obtain ⟨repayment, -, app, happ, rfl⟩ := confirmDirectRepayment_ok (bubble_eq_ok.mp h)
    exact .closes_direct hs (close_direct_ok happ).2
  | settleDirect o order mandate fillProof compactClaim =>
    obtain ⟨fill, -, -, -, -, -, strategy, mid, -, hmid, hrecord⟩ :=
      settleDirect_ok (bubble_eq_ok.mp h)
    obtain ⟨outbox, -, rfl⟩ := World.record_ok hrecord
    have hinside : Inside .origin _ mid := hmid ▸ inside_origin_inside o.calls _
    exact hinside.accounted hs
  | settleRouted o order mandate fillProof compactClaim makerOrder =>
    obtain ⟨fill, -, -, -, -, -, burnAmount, -, rfl⟩ := settleRouted_ok (bubble_eq_ok.mp h)
    have hinside : Inside .origin _ (inside_origin keccak256 d o.calls
        (w.claimed keccak256 order compactClaim fill.fillId order.inputAmount)) :=
      inside_origin_inside o.calls _
    exact hinside.accounted hs

theorem step_accounted (w : World) (a : Action) (hs : Exposed w.app) :
    Accounted w.app (step keccak256 d w a).app :=
  attempt_keeps (P := fun w' : World => Accounted w.app w'.app) ((Configured.refl _).accounted hs)
    fun _ h => apply_accounted h hs

/-- **Run lemma.** Every run keeps the books. -/
theorem run_exposed (actions : List Action) :
    Exposed (Run.run (step keccak256 d) World.empty actions).app :=
  Run.invariant (P := fun w : World => Exposed w.app) (Q := fun _ _ => True)
    (fun w a hs _ => (step_accounted w a hs).exposed) exposed_empty
    (Run.along_of_forall (fun _ _ _ => trivial) _)

/-- **Exposure is exact and capped.** After any transactions on either chain,
    whoever sends them and whatever is called from inside them: what a strategy
    has outstanding is the sum of its delivered receivables and within its cap;
    no order has a receivable of both kinds; each transaction moves a receivable
    by one step at most and never its terms; and the subtraction that closes a
    delivered receivable is defined. -/
theorem exposure_exact_and_capped (keccak256 : Bytes → B256) (d : Deployment)
    (actions : List Action) :
    let s := (Run.run (step keccak256 d) World.empty actions).app
    (∀ maker strategyHash,
      (s.directStrategies (maker, strategyHash)).outstandingRepayment.val =
          ∑ id, DirectReceivable.owed (maker, strategyHash) (s.directReceivables id) ∧
        (s.directStrategies (maker, strategyHash)).outstandingRepayment ≤
          (s.directStrategies (maker, strategyHash)).maxOutstandingRepayment ∧
        (s.creditStrategies (maker, strategyHash)).outstandingUsdc.val =
          ∑ id, CreditReceivable.owed (maker, strategyHash) (s.creditReceivables id) ∧
        (s.creditStrategies (maker, strategyHash)).outstandingUsdc ≤
          (s.creditStrategies (maker, strategyHash)).maxOutstandingUsdc) ∧
      (∀ id, (s.directReceivables id).state = .None ∨ (s.creditReceivables id).state = .None) ∧
      Run.Along (step keccak256 d) (fun w a =>
        (∀ id, (w.app.directReceivables id).Moves
          ((step keccak256 d w a).app.directReceivables id)) ∧
        ∀ id, (w.app.creditReceivables id).Moves
          ((step keccak256 d w a).app.creditReceivables id)) World.empty actions ∧
      (∀ id, (s.directReceivables id).state = .Delivered →
        (s.release_direct (s.directReceivables id)).isSome) ∧
      ∀ id, (s.creditReceivables id).state = .Delivered →
        (s.release_credit (s.creditReceivables id)).isSome := by
  have hs : Exposed (Run.run (step keccak256 d) World.empty actions).app := run_exposed actions
  refine ⟨?_, hs.apart, ?_, fun id h => hs.release_direct h, fun id h => hs.release_credit h⟩
  · intro maker strategyHash
    exact ⟨hs.direct _, hs.direct_cap _, hs.credit _, hs.credit_cap _⟩
  · exact Run.along_of_invariant (P := fun w : World => Exposed w.app) (Q := fun _ _ => True)
      (fun w a hw _ => (step_accounted w a hw).exposed)
      (fun w a hw _ => ⟨(step_accounted w a hw).direct, (step_accounted w a hw).credit⟩)
      exposed_empty (Run.along_of_forall (fun _ _ _ => trivial) _)

end Solvent.Contracts
