import Mathlib
import Solvent.Contracts.Capped

/-! # Evidence on the rail

    What an outbox has recorded, what it has dispatched and what the other
    chain's inbox has stored is evidence of something the log says happened: a
    fill of a delivery, a repayment of a payment to its maker (`Rails`). The
    network hands an inbox nothing in the name of the paired outbox that the
    outbox did not dispatch, and the hash tells apart the texts that the run has
    hashed.
-/

namespace Solvent.Contracts

open Abi Contract

variable (keccak256 : Bytes → B256) (d : Deployment)

/-! ## What the network does -/

/-- The message is said to come from the outbox this inbox is paired with. -/
def FromPeer (side : Side) (message : Any2EVMMessage) : Prop :=
  message.sourceChainSelector = (d.inbox side).SOURCE_CHAIN_SELECTOR ∧
    (read_word message.sender).bind as_address = some (d.inbox side).sourceOutbox

/-- A recorder records from its own functions only, and the router hands over
    from the paired outbox only what that outbox dispatched. -/
def RailCall.Admitted (side : Side) (w : World) : RailCall → Prop
  | record caller _ _ _ => caller ≠ (d.outbox side).recorder
  | dispatch _ _ _ => True
  | receive message => FromPeer d side message → .Dispatched side.peer message.data ∈ w.log

def OpenCall.Admitted (w : World) : OpenCall → Prop
  | rail call => call.Admitted d .destination w
  | _ => True

def Action.Admitted (w : World) : Action → Prop
  | open_destination call => call.Admitted d w
  | open_origin call => call.Admitted d .origin w
  | fillDirect _ o _ _ _ _ => ∀ call ∈ o.calls, call.Admitted d w
  | fillCredit _ o _ _ _ _ => ∀ call ∈ o.calls, call.Admitted d w
  | completeRepayment o _ _ _ => ∀ call ∈ o.calls, call.Admitted d w
  | confirmDirectRepayment _ _ => True
  | settleDirect o _ _ _ _ => ∀ call ∈ o.calls, call.Admitted d .origin w
  | settleRouted o _ _ _ _ _ => ∀ call ∈ o.calls, call.Admitted d .origin w

instance (side : Side) (message : Any2EVMMessage) : Decidable (FromPeer d side message) :=
  inferInstanceAs (Decidable (_ ∧ _))

instance (side : Side) (w : World) : ∀ call : RailCall, Decidable (call.Admitted d side w)
  | .record caller _ _ _ => inferInstanceAs (Decidable (caller ≠ (d.outbox side).recorder))
  | .dispatch _ _ _ => isTrue trivial
  | .receive message => inferInstanceAs (Decidable (FromPeer d side message → _))

instance (w : World) : ∀ call : OpenCall, Decidable (call.Admitted d w)
  | .rail call => inferInstanceAs (Decidable (call.Admitted d .destination w))
  | .configureDirectStrategy .. => isTrue trivial
  | .configureCreditStrategy .. => isTrue trivial

instance (w : World) : ∀ a : Action, Decidable (a.Admitted d w)
  | .open_destination call => inferInstanceAs (Decidable (call.Admitted d w))
  | .open_origin call => inferInstanceAs (Decidable (call.Admitted d .origin w))
  | .fillDirect _ o _ _ _ _ => inferInstanceAs (Decidable (∀ call ∈ o.calls, call.Admitted d w))
  | .fillCredit _ o _ _ _ _ => inferInstanceAs (Decidable (∀ call ∈ o.calls, call.Admitted d w))
  | .completeRepayment o _ _ _ =>
    inferInstanceAs (Decidable (∀ call ∈ o.calls, call.Admitted d w))
  | .confirmDirectRepayment _ _ => isTrue trivial
  | .settleDirect o _ _ _ _ =>
    inferInstanceAs (Decidable (∀ call ∈ o.calls, call.Admitted d .origin w))
  | .settleRouted o _ _ _ _ _ =>
    inferInstanceAs (Decidable (∀ call ∈ o.calls, call.Admitted d .origin w))

/-- The hash tells apart the texts that were hashed. -/
def World.Told (w : World) : Prop := Set.InjOn keccak256 {text | text ∈ w.hashed}

theorem World.Told.of_append {w w' : World} {texts : List Bytes}
    (h : w'.hashed = w.hashed ++ texts) (htold : w'.Told keccak256) : w.Told keccak256 :=
  htold.mono fun text htext => by
    rw [Set.mem_ofPred_eq, h]
    exact List.mem_append_left texts htext

/-! ## Evidence -/

/-- A delivery with this fill happened. -/
def FillProven (log : List Event) (fill : VerifiedFill) : Prop :=
  ∃ order received, .Delivered order fill received ∈ log

/-- The maker of a fill was paid, and this is what the settler records of it. -/
def RepaymentProven (log : List Event) (repayment : VerifiedRepayment) : Prop :=
  ∃ order fill strategy,
    repayment = CompactOriginSettler.recorded_repayment keccak256 d.settler
      (CrossChainHashLib.hashOrder keccak256 order) fill ∧
    fill.repaymentToken = order.inputToken ∧
    .Repaid order fill.destinationMaker order.inputToken fill.repaymentAmount strategy ∈ log

/-- What the outbox of a chain may send. -/
def Evidence (log : List Event) : Side → Bytes → Prop
  | .destination, data =>
    ∃ fill, FillProven log fill ∧ data = ProofHashLib.encode .Fill (encode fill)
  | .origin, data => ∃ repayment, RepaymentProven keccak256 d log repayment ∧
      data = ProofHashLib.encode .DirectRepayment (encode repayment)

/-- All that the rail holds is evidence. -/
structure Rails (w : World) : Prop where
  recorded : ∀ side id, (w.outbox side).recordedPayloads id ≠ 0 →
    ∃ data ∈ w.hashed, Evidence keccak256 d w.log side data ∧
      keccak256 data = (w.outbox side).recordedPayloads id
  dispatched : ∀ side data, .Dispatched side data ∈ w.log → Evidence keccak256 d w.log side data
  fills : ∀ id, ((w.inbox .origin).fills id).fillId ≠ 0 →
    FillProven w.log ((w.inbox .origin).fills id)
  repayments : ∀ id, ((w.inbox .destination).repayments id).repaymentId ≠ 0 →
    RepaymentProven keccak256 d w.log ((w.inbox .destination).repayments id)

variable {keccak256 d}

theorem FillProven.mono {log log' : List Event} (h : log ⊆ log') {fill : VerifiedFill}
    (hfill : FillProven log fill) : FillProven log' fill := by
  obtain ⟨order, received, hmem⟩ := hfill
  exact ⟨order, received, h hmem⟩

theorem RepaymentProven.mono {log log' : List Event} (h : log ⊆ log')
    {repayment : VerifiedRepayment} (hrepayment : RepaymentProven keccak256 d log repayment) :
    RepaymentProven keccak256 d log' repayment := by
  obtain ⟨order, fill, strategy, hr, htoken, hmem⟩ := hrepayment
  exact ⟨order, fill, strategy, hr, htoken, h hmem⟩

theorem Evidence.mono {log log' : List Event} (h : log ⊆ log') {side : Side} {data : Bytes}
    (hdata : Evidence keccak256 d log side data) : Evidence keccak256 d log' side data := by
  match side, hdata with
  | .destination, ⟨fill, hfill, heq⟩ => exact ⟨fill, hfill.mono h, heq⟩
  | .origin, ⟨repayment, hrepayment, heq⟩ => exact ⟨repayment, hrepayment.mono h, heq⟩

theorem rails_empty : Rails keccak256 d World.empty where
  recorded _ _ h := absurd rfl h
  dispatched _ _ h := absurd h (by simp [World.empty])
  fills _ h := absurd rfl h
  repayments _ h := absurd rfl h

/-- More of the log and more hashed texts keep the rail, when nothing new was
    dispatched. -/
theorem Rails.extend {w w' : World} (h : Rails keccak256 d w) (houtbox : w'.outbox = w.outbox)
    (hinbox : w'.inbox = w.inbox) {events : List Event} (hlog : w'.log = w.log ++ events)
    (hnew : ∀ side data, .Dispatched side data ∉ events) {texts : List Bytes}
    (hhashed : w'.hashed = w.hashed ++ texts) : Rails keccak256 d w' := by
  have hsub : w.log ⊆ w'.log := hlog ▸ List.subset_append_left w.log events
  constructor
  · intro side id hid
    rw [houtbox] at hid ⊢
    obtain ⟨data, hmem, hdata, hkeccak⟩ := h.recorded side id hid
    exact ⟨data, hhashed ▸ List.mem_append_left texts hmem, hdata.mono hsub, hkeccak⟩
  · intro side data hmem
    rw [hlog, List.mem_append] at hmem
    exact (h.dispatched side data (hmem.resolve_right (hnew side data))).mono hsub
  · intro id hid
    rw [hinbox] at hid ⊢
    exact (h.fills id hid).mono hsub
  · intro id hid
    rw [hinbox] at hid ⊢
    exact (h.repayments id hid).mono hsub

/-! ## Rail calls -/

/-- The envelope of a fill is read back. -/
theorem decode_fill (fill : VerifiedFill) :
    ProofEnvelope.decode (ProofHashLib.encode .Fill (encode fill)) =
      some { version := ProofHashLib.VERSION, kind := .Fill, payload := encode fill } :=
  ProofEnvelope.decode_encode _ (by
    show (encode fill).length < 2 ^ 256
    rw [length_encode]
    decide)

/-- The envelope of a repayment is read back. -/
theorem decode_repayment (repayment : VerifiedRepayment) :
    ProofEnvelope.decode (ProofHashLib.encode .DirectRepayment (encode repayment)) =
      some { version := ProofHashLib.VERSION, kind := .DirectRepayment
             payload := encode repayment } :=
  ProofEnvelope.decode_encode _ (by
    show (encode repayment).length < 2 ^ 256
    rw [length_encode]
    decide)

/-- **Step lemma.** A dispatch sends what was recorded: the hash tells it apart
    from any other text. -/
theorem Rails.dispatch {w w' : World} {side : Side} {orderId : B256} {envelope : Bytes}
    {o : DispatchOutside} (h : Rails keccak256 d w)
    (happly : (RailCall.dispatch orderId envelope o).apply keccak256 d side w = .ok w')
    (htold : w'.Told keccak256) : Rails keccak256 d w' := by
  obtain ⟨⟨⟩, hdispatch, happly⟩ := Except.bind_eq_ok.mp happly
  obtain rfl := Except.ok.inj happly
  obtain ⟨hne, hkeccak⟩ := CcipProofOutbox.dispatch_ok (bubble_eq_ok.mp hdispatch)
  obtain ⟨data, hmem, hdata, hrecorded⟩ := h.recorded side orderId hne
  obtain rfl : envelope = data := by
    refine htold ?_ ?_ (hkeccak.trans hrecorded.symm)
    · exact List.mem_append_right _ (by simp)
    · exact List.mem_append_left _ hmem
  have hsub : w.log ⊆ w.log ++ [.Dispatched side envelope] := List.subset_append_left _ _
  constructor
  · intro side' id hid
    obtain ⟨data, hmem, hdata, hkeccak⟩ := h.recorded side' id hid
    exact ⟨data, List.mem_append_left _ hmem, hdata.mono hsub, hkeccak⟩
  · intro side' data hmem
    rcases List.mem_append.mp hmem with hold | hnew
    · exact (h.dispatched side' data hold).mono hsub
    · obtain ⟨rfl, rfl⟩ : side' = side ∧ data = envelope := by simpa using hnew
      exact hdata.mono hsub
  · intro id hid
    exact (h.fills id hid).mono hsub
  · intro id hid
    exact (h.repayments id hid).mono hsub

/-- **Step lemma.** An inbox stores what the other chain's outbox dispatched. -/
theorem Rails.receive {w w' : World} {side : Side} {message : Any2EVMMessage}
    (h : Rails keccak256 d w)
    (happly : (RailCall.receive message).apply keccak256 d side w = .ok w')
    (hadmitted : (RailCall.receive message).Admitted d side w) : Rails keccak256 d w' := by
  obtain ⟨inbox, hreceive, happly⟩ := Except.bind_eq_ok.mp happly
  obtain rfl := Except.ok.inj happly
  obtain ⟨-, hselector, hsender, envelope, hdecode, hstores⟩ :=
    CcipProofInbox.ccipReceive_ok (bubble_eq_ok.mp hreceive)
  have hevidence := h.dispatched side.peer message.data (hadmitted ⟨hselector, hsender⟩)
  match side, hevidence with
  | .origin, ⟨fill, hproven, hdata⟩ =>
    -- A fill came from the destination chain.
    rw [hdata, decode_fill] at hdecode
    obtain rfl := Option.some.inj hdecode
    rcases hstores with ⟨stored, -, hpayload, hstore⟩ | ⟨repayment, hkind, -, -⟩
    · rw [decode_encode] at hpayload
      obtain rfl := Option.some.inj hpayload
      obtain ⟨-, -, -, -, rfl⟩ := CcipProofInbox.storeFill_ok hstore
      refine ⟨h.recorded, h.dispatched, ?_, h.repayments⟩
      intro id hid
      simp only [Mapping.set_self] at hid ⊢
      rw [Mapping.set_apply] at hid ⊢
      split
      · exact hproven
      · rename_i hne
        rw [if_neg hne] at hid
        exact h.fills id hid
    · cases hkind
  | .destination, ⟨repayment, hproven, hdata⟩ =>
    rw [hdata, decode_repayment] at hdecode
    obtain rfl := Option.some.inj hdecode
    rcases hstores with ⟨stored, hkind, -, -⟩ | ⟨stored, -, hpayload, hstore⟩
    · cases hkind
    · rw [decode_encode] at hpayload
      obtain rfl := Option.some.inj hpayload
      obtain ⟨-, -, -, -, rfl⟩ := CcipProofInbox.storeRepayment_ok hstore
      refine ⟨h.recorded, h.dispatched, h.fills, ?_⟩
      intro id hid
      simp only [Mapping.set_self] at hid ⊢
      rw [Mapping.set_apply] at hid ⊢
      split
      · exact hproven
      · rename_i hne
        rw [if_neg hne] at hid
        exact h.repayments id hid

theorem Rails.rail {w w' : World} {side : Side} {call : RailCall} (h : Rails keccak256 d w)
    (happly : call.apply keccak256 d side w = .ok w') (hadmitted : call.Admitted d side w)
    (htold : w'.Told keccak256) : Rails keccak256 d w' := by
  match call, hadmitted with
  | .record caller orderId kind payload, hadmitted =>
    obtain ⟨outbox, hrecord, -⟩ := Except.bind_eq_ok.mp happly
    exact absurd (CcipProofOutbox.record_ok (bubble_eq_ok.mp hrecord)).1 hadmitted
  | .dispatch orderId envelope o, _ => exact h.dispatch happly htold
  | .receive message, hadmitted => exact h.receive happly hadmitted

theorem Rails.open_call {w w' : World} {call : OpenCall} (h : Rails keccak256 d w)
    (happly : call.apply keccak256 d w = .ok w') (hadmitted : call.Admitted d w)
    (htold : w'.Told keccak256) : Rails keccak256 d w' := by
  match call, hadmitted with
  | .configureDirectStrategy .., _ =>
    obtain ⟨app, -, happly⟩ := Except.bind_eq_ok.mp happly
    obtain rfl := Except.ok.inj happly
    exact h.extend rfl rfl (List.append_nil _).symm (by simp) (List.append_nil _).symm
  | .configureCreditStrategy .., _ =>
    obtain ⟨app, -, happly⟩ := Except.bind_eq_ok.mp happly
    obtain rfl := Except.ok.inj happly
    exact h.extend rfl rfl (List.append_nil _).symm (by simp) (List.append_nil _).symm
  | .rail call, hadmitted => exact h.rail happly hadmitted htold

/-! ## Calls from inside -/

theorem RailCall.Admitted.mono {side : Side} {w w' : World} (hsub : w.log ⊆ w'.log)
    {call : RailCall} (h : call.Admitted d side w) : call.Admitted d side w' := by
  match call, h with
  | .record .., h => exact h
  | .dispatch .., _ => trivial
  | .receive message, h => exact fun hpeer => hsub (h hpeer)

theorem OpenCall.Admitted.mono {w w' : World} (hsub : w.log ⊆ w'.log) {call : OpenCall}
    (h : call.Admitted d w) : call.Admitted d w' := by
  match call, h with
  | .rail call, h => exact RailCall.Admitted.mono hsub h
  | .configureDirectStrategy .., _ => trivial
  | .configureCreditStrategy .., _ => trivial

theorem Inside.log_subset {side : Side} {w w' : World} (h : Inside side w w') : w.log ⊆ w'.log := by
  obtain ⟨sent, hlog⟩ := h.log
  rw [hlog]
  exact List.subset_append_left _ _

theorem Inside.told {side : Side} {w w' : World} (h : Inside side w w')
    (htold : w'.Told keccak256) : w.Told keccak256 := by
  obtain ⟨texts, hhashed⟩ := h.hashed
  exact World.Told.of_append keccak256 hhashed htold

theorem Rails.inside_destination {calls : List OpenCall} {w : World} (h : Rails keccak256 d w)
    (hadmitted : ∀ call ∈ calls, call.Admitted d w)
    (htold : (inside_destination keccak256 d calls w).Told keccak256) :
    Rails keccak256 d (inside_destination keccak256 d calls w) := by
  induction calls generalizing w with
  | nil => exact h
  | cons call calls ih =>
    have hrest : Inside .destination (attempt (fun w => call.apply keccak256 d w) w)
        (Contracts.inside_destination keccak256 d (call :: calls) w) :=
      inside_destination_inside calls _
    have hfirst : Rails keccak256 d (attempt (fun w => call.apply keccak256 d w) w) ∧
        w.log ⊆ (attempt (fun w => call.apply keccak256 d w) w).log := by
      rcases attempt_cases (fun w => call.apply keccak256 d w) w with ⟨w', hok, heq⟩ | heq
      · rw [heq] at hrest ⊢
        exact ⟨h.open_call hok (hadmitted call (by simp)) (hrest.told htold),
          (OpenCall.apply_inside hok).log_subset⟩
      · rw [heq]
        exact ⟨h, fun _ => id⟩
    exact ih hfirst.1 (fun c hc => (hadmitted c (by simp [hc])).mono hfirst.2) htold

theorem Rails.inside_origin {calls : List RailCall} {w : World} (h : Rails keccak256 d w)
    (hadmitted : ∀ call ∈ calls, call.Admitted d .origin w)
    (htold : (inside_origin keccak256 d calls w).Told keccak256) :
    Rails keccak256 d (inside_origin keccak256 d calls w) := by
  induction calls generalizing w with
  | nil => exact h
  | cons call calls ih =>
    have hrest : Inside .origin (attempt (fun w => call.apply keccak256 d .origin w) w)
        (Contracts.inside_origin keccak256 d (call :: calls) w) :=
      inside_origin_inside calls _
    have hfirst : Rails keccak256 d (attempt (fun w => call.apply keccak256 d .origin w) w) ∧
        w.log ⊆ (attempt (fun w => call.apply keccak256 d .origin w) w).log := by
      rcases attempt_cases (fun w => call.apply keccak256 d .origin w) w with ⟨w', hok, heq⟩ | heq
      · rw [heq] at hrest ⊢
        exact ⟨h.rail hok (hadmitted call (by simp)) (hrest.told htold),
          (RailCall.apply_inside hok).log_subset⟩
      · rw [heq]
        exact ⟨h, fun _ => id⟩
    exact ih hfirst.1 (fun c hc => (hadmitted c (by simp [hc])).mono hfirst.2) htold

/-! ## Recording -/

/-- **Step lemma.** A contract that records evidence keeps the rail. -/
theorem Rails.record {w w' : World} {side : Side} {caller : Address} {orderId : B256}
    {kind : ProofKind} {payload : Bytes} (h : Rails keccak256 d w)
    (hrecord : w.record keccak256 d side caller orderId kind payload = .ok w')
    (hevidence : Evidence keccak256 d w.log side (ProofHashLib.encode kind payload)) :
    Rails keccak256 d w' := by
  obtain ⟨outbox, houtbox, rfl⟩ := World.record_ok hrecord
  obtain ⟨-, -, hslot⟩ := CcipProofOutbox.record_ok houtbox
  refine ⟨?_, h.dispatched, h.fills, h.repayments⟩
  intro side' id hid
  have hkept : ∀ {side' id}, (w.outbox side').recordedPayloads id ≠ 0 →
      ∃ data ∈ w.hashed ++ [ProofHashLib.encode kind payload],
        Evidence keccak256 d w.log side' data ∧
          keccak256 data = (w.outbox side').recordedPayloads id := by
    intro side' id hid
    obtain ⟨data, hmem, hdata, hkeccak⟩ := h.recorded side' id hid
    exact ⟨data, List.mem_append_left _ hmem, hdata, hkeccak⟩
  show ∃ data ∈ w.hashed ++ [ProofHashLib.encode kind payload],
    Evidence keccak256 d w.log side' data ∧
      keccak256 data = (Mapping.set w.outbox side outbox side').recordedPayloads id
  change (Mapping.set w.outbox side outbox side').recordedPayloads id ≠ 0 at hid
  rw [Mapping.set_apply] at hid ⊢
  split
  · rename_i hside
    subst hside
    rw [if_pos rfl] at hid
    rcases hslot with ⟨-, hset⟩ | ⟨-, rfl⟩
    · rw [hset, Mapping.set_apply] at hid ⊢
      split
      · exact ⟨_, List.mem_append_right _ (by simp), hevidence, rfl⟩
      · rename_i hne
        rw [if_neg hne] at hid
        exact hkept hid
    · exact hkept hid
  · rename_i hside
    rw [if_neg hside] at hid
    exact hkept hid

end Solvent.Contracts
