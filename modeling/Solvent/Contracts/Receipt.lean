import Mathlib
import Solvent.Contracts.Settlement

/-! # What an inbox accepts

    An inbox keeps each proof under its own id and under its order (`Indexed`). It
    accepts a well-formed proof from the paired outbox unless one of its two slots
    is taken.
-/

namespace Solvent.Contracts

open Abi Contract

/-- The message brings these bytes from the outbox the inbox is paired with. -/
structure Carries (cfg : InboxConfig) (data : Bytes) (message : Any2EVMMessage) : Prop where
  selector : message.sourceChainSelector = cfg.SOURCE_CHAIN_SELECTOR
  sender : message.sender = word (address_word cfg.sourceOutbox)
  tokens : message.destTokenAmounts = []
  data : message.data = data

theorem Carries.read_sender {cfg : InboxConfig} {data : Bytes} {message : Any2EVMMessage}
    (h : Carries cfg data message) :
    (read_word message.sender).bind as_address = some cfg.sourceOutbox := by
  have hword := read_word_append (address_word cfg.sourceOutbox) []
  rw [List.append_nil, ← h.sender] at hword
  rw [hword, Option.bind_some, as_address_word]

namespace CcipProofInbox

variable {cfg : InboxConfig} {s s' : CcipProofInbox} {message : Any2EVMMessage}

/-! ## Slots -/

/-- Every slot in use holds the proof it is named by. -/
structure Indexed (s : CcipProofInbox) : Prop where
  fills : ∀ id, (s.fills id).fillId ≠ 0 → (s.fills id).fillId = id
  fillForOrder : ∀ id, s.fillForOrder id ≠ 0 →
    (s.fills (s.fillForOrder id)).fillId ≠ 0 ∧ (s.fills (s.fillForOrder id)).orderId = id
  repayments : ∀ id, (s.repayments id).repaymentId ≠ 0 → (s.repayments id).repaymentId = id
  repaymentForOrder : ∀ id, s.repaymentForOrder id ≠ 0 →
    (s.repayments (s.repaymentForOrder id)).repaymentId ≠ 0 ∧
      (s.repayments (s.repaymentForOrder id)).orderId = id

theorem indexed_empty : Indexed empty where
  fills _ h := absurd rfl h
  fillForOrder _ h := absurd rfl h
  repayments _ h := absurd rfl h
  repaymentForOrder _ h := absurd rfl h

theorem Indexed.storeFill {fill : VerifiedFill} (hs : Indexed s)
    (h : _storeFill s fill = .ok s') : Indexed s' := by
  obtain ⟨-, hid, -, hslot, rfl⟩ := storeFill_ok h
  refine ⟨?_, ?_, hs.repayments, hs.repaymentForOrder⟩
  · intro id hne
    simp only [Mapping.set_apply] at hne ⊢
    split
    · rename_i heq
      exact heq.symm
    · rename_i hother
      rw [if_neg hother] at hne
      exact hs.fills id hne
  · intro id hne
    simp only [Mapping.set_apply] at hne ⊢
    by_cases horder : id = fill.orderId
    · simp only [if_pos horder, if_true]
      exact ⟨hid, horder.symm⟩
    · simp only [if_neg horder] at hne ⊢
      obtain ⟨hused, hnamed⟩ := hs.fillForOrder id hne
      -- The slot of another order is in use, and the slot written was not.
      have hother : s.fillForOrder id ≠ fill.fillId := by
        intro heq
        rw [heq] at hused
        exact hused hslot
      rw [if_neg hother]
      exact ⟨hused, hnamed⟩

theorem Indexed.storeRepayment {repayment : VerifiedRepayment} (hs : Indexed s)
    (h : _storeRepayment s repayment = .ok s') : Indexed s' := by
  obtain ⟨-, hid, -, hslot, rfl⟩ := storeRepayment_ok h
  refine ⟨hs.fills, hs.fillForOrder, ?_, ?_⟩
  · intro id hne
    simp only [Mapping.set_apply] at hne ⊢
    split
    · rename_i heq
      exact heq.symm
    · rename_i hother
      rw [if_neg hother] at hne
      exact hs.repayments id hne
  · intro id hne
    simp only [Mapping.set_apply] at hne ⊢
    by_cases horder : id = repayment.orderId
    · simp only [if_pos horder, if_true]
      exact ⟨hid, horder.symm⟩
    · simp only [if_neg horder] at hne ⊢
      obtain ⟨hused, hnamed⟩ := hs.repaymentForOrder id hne
      have hother : s.repaymentForOrder id ≠ repayment.repaymentId := by
        intro heq
        rw [heq] at hused
        exact hused hslot
      rw [if_neg hother]
      exact ⟨hused, hnamed⟩

/-- **Step lemma.** A receipt keeps the slots. -/
theorem Indexed.receive (hs : Indexed s) (h : _ccipReceive cfg s message = .ok s') :
    Indexed s' := by
  obtain ⟨-, -, -, envelope, -, hstores⟩ := ccipReceive_ok h
  have hconsumed : Indexed { s with
      consumedMessages := Mapping.set s.consumedMessages message.messageId true } :=
    ⟨hs.fills, hs.fillForOrder, hs.repayments, hs.repaymentForOrder⟩
  rcases hstores with ⟨fill, -, -, hstore⟩ | ⟨repayment, -, -, hstore⟩
  · exact hconsumed.storeFill hstore
  · exact hconsumed.storeRepayment hstore

/-! ## Acceptance -/

/-- The id a message is consumed under is written first. -/
def consumed (s : CcipProofInbox) (message : Any2EVMMessage) : CcipProofInbox :=
  { s with consumedMessages := Mapping.set s.consumedMessages message.messageId true }

/-- A fresh message that carries a fill reaches the store of it. -/
theorem receive_carried_fill {fill : VerifiedFill}
    (h : Carries cfg (ProofHashLib.encode .Fill (encode fill)) message)
    (hfresh : s.consumedMessages message.messageId = false) :
    _ccipReceive cfg s message = _storeFill (s.consumed message) fill := by
  have hlength : message.sender.length = 32 := by
    rw [h.sender, length_word]
  unfold _ccipReceive
  rw [pass_bind hfresh, pass_bind (by simp [h.selector, hlength]), h.read_sender,
    expect_some_bind, pass_bind (by simp [h.tokens]), h.data, decode_fill, expect_some_bind,
    pass_bind (by simp [length_encode, Static.width])]
  show (expect (decode (encode fill)) InboxError.Decode >>= fun fill => _) = _
  rw [decode_encode, expect_some_bind]
  rfl

/-- A fresh message that carries a repayment reaches the store of it. -/
theorem receive_carried_repayment {repayment : VerifiedRepayment}
    (h : Carries cfg (ProofHashLib.encode .DirectRepayment (encode repayment)) message)
    (hfresh : s.consumedMessages message.messageId = false) :
    _ccipReceive cfg s message = _storeRepayment (s.consumed message) repayment := by
  have hlength : message.sender.length = 32 := by
    rw [h.sender, length_word]
  unfold _ccipReceive
  rw [pass_bind hfresh, pass_bind (by simp [h.selector, hlength]), h.read_sender,
    expect_some_bind, pass_bind (by simp [h.tokens]), h.data, decode_repayment, expect_some_bind,
    pass_bind (by simp [length_encode, Static.width])]
  show (expect (decode (encode repayment)) InboxError.Decode >>= fun repayment => _) = _
  rw [decode_encode, expect_some_bind]
  rfl

/-- **A fill is accepted** while both of its slots are free. -/
theorem accepts_fill {fill : VerifiedFill}
    (h : Carries cfg (ProofHashLib.encode .Fill (encode fill)) message)
    (hfresh : s.consumedMessages message.messageId = false) (horder : fill.orderId ≠ 0)
    (hid : fill.fillId ≠ 0) (hslot : s.fillForOrder fill.orderId = 0)
    (hslot' : (s.fills fill.fillId).fillId = 0) :
    ∃ s', _ccipReceive cfg s message = .ok s' ∧ s'.fills fill.fillId = fill := by
  refine ⟨{ s.consumed message with
    fillForOrder := Mapping.set s.fillForOrder fill.orderId fill.fillId
    fills := Mapping.set s.fills fill.fillId fill }, ?_, Mapping.set_self s.fills fill.fillId fill⟩
  · rw [receive_carried_fill h hfresh, _storeFill]
    rw [pass_bind (by simp [horder, hid]), pass_bind (by
      show ¬(s.fillForOrder fill.orderId ≠ 0 ∨ (s.fills fill.fillId).fillId ≠ 0)
      simp [hslot, hslot'])]
    rfl

/-- **A repayment is accepted** while both of its slots are free. -/
theorem accepts_repayment {repayment : VerifiedRepayment}
    (h : Carries cfg (ProofHashLib.encode .DirectRepayment (encode repayment)) message)
    (hfresh : s.consumedMessages message.messageId = false) (horder : repayment.orderId ≠ 0)
    (hid : repayment.repaymentId ≠ 0) (hslot : s.repaymentForOrder repayment.orderId = 0)
    (hslot' : (s.repayments repayment.repaymentId).repaymentId = 0) :
    ∃ s', _ccipReceive cfg s message = .ok s' ∧
      s'.repayments repayment.repaymentId = repayment := by
  refine ⟨{ s.consumed message with
    repaymentForOrder := Mapping.set s.repaymentForOrder repayment.orderId repayment.repaymentId
    repayments := Mapping.set s.repayments repayment.repaymentId repayment }, ?_,
    Mapping.set_self s.repayments repayment.repaymentId repayment⟩
  · rw [receive_carried_repayment h hfresh, _storeRepayment]
    rw [pass_bind (by simp [horder, hid]), pass_bind (by
      show ¬(s.repaymentForOrder repayment.orderId ≠ 0 ∨
        (s.repayments repayment.repaymentId).repaymentId ≠ 0)
      simp [hslot, hslot'])]
    rfl

/-- The proof of a fill the inbox holds. -/
theorem verifies_fill {fill : VerifiedFill} (hid : fill.fillId ≠ 0)
    (hstored : s.fills fill.fillId = fill) : verifyFill s (word fill.fillId) = .ok fill := by
  have hword := read_word_append fill.fillId []
  rw [List.append_nil] at hword
  have hproof : _proofId (word fill.fillId) = .ok fill.fillId := by
    unfold _proofId
    rw [pass_bind (length_word fill.fillId), hword]
    rfl
  unfold verifyFill
  rw [hproof]
  show (require ((s.fills fill.fillId).fillId ≠ 0) _ >>= fun _ => _) = _
  rw [pass_bind (by rw [hstored]; exact hid), hstored]

theorem verifies_repayment {repayment : VerifiedRepayment} (hid : repayment.repaymentId ≠ 0)
    (hstored : s.repayments repayment.repaymentId = repayment) :
    verifyRepayment s (word repayment.repaymentId) = .ok repayment := by
  have hword := read_word_append repayment.repaymentId []
  rw [List.append_nil] at hword
  have hproof : _proofId (word repayment.repaymentId) = .ok repayment.repaymentId := by
    unfold _proofId
    rw [pass_bind (length_word repayment.repaymentId), hword]
    rfl
  unfold verifyRepayment
  rw [hproof]
  show (require ((s.repayments repayment.repaymentId).repaymentId ≠ 0) _ >>= fun _ => _) = _
  rw [pass_bind (by rw [hstored]; exact hid), hstored]

end CcipProofInbox

end Solvent.Contracts
