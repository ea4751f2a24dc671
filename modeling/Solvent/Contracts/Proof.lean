import Mathlib
import Solvent.Framework.Contract
import Solvent.Framework.Loop
import Solvent.Framework.Mapping
import Solvent.Contracts.Types

/-! # The proof rail

    Each chain has an outbox that records evidence for one contract, its
    recorder, and dispatches the recorded bytes later, as often as anyone asks;
    and an inbox that accepts what the other chain's outbox dispatched and keeps
    the typed proof. Both write a slot of an order at most once.
-/

namespace Solvent.Contracts

open Abi Contract

/-! ## The outbox -/

structure OutboxConfig where
  /-- The address of the outbox. -/
  this : Address
  recorder : Address
  DESTINATION_CHAIN_SELECTOR : U64
  destinationInbox : Address

/-- The storage of `CcipProofOutbox`. -/
structure CcipProofOutbox where
  recordedPayloads : B256 → B256

inductive OutboxError where
  | IncorrectFee (expected supplied : U256)
  | InvalidEnvelope
  | NotRecorder (caller : Address)
  | PayloadConflict (orderId recorded supplied : B256)
  | UnknownPayload (orderId : B256)
  | ZeroAddress
  /-- The router refused the message or its fee query. -/
  | Router
  deriving DecidableEq

/-- What the router answers one dispatch, and what the caller pays. -/
structure DispatchOutside where
  value : U256
  getFee : Option U256
  ccipSend : Bool

namespace CcipProofOutbox

variable (keccak256 : Bytes → B256) (cfg : OutboxConfig)

def empty : CcipProofOutbox := { recordedPayloads := fun _ => 0 }

def record (s : CcipProofOutbox) (caller : Address) (orderId : B256) (kind : ProofKind)
    (payload : Bytes) : Except OutboxError CcipProofOutbox := do
  require (caller = cfg.recorder) (.NotRecorder caller)
  require (¬(orderId = 0 ∨ payload.length = 0)) .InvalidEnvelope
  let payloadHash := keccak256 (ProofHashLib.encode kind payload)
  let recorded := s.recordedPayloads orderId
  require (¬(recorded ≠ 0 ∧ recorded ≠ payloadHash))
    (.PayloadConflict orderId recorded payloadHash)
  if recorded = 0 then
    .ok { recordedPayloads := Mapping.set s.recordedPayloads orderId payloadHash }
  else .ok s

/-- A dispatch changes no storage: it sends `envelope` to the remote inbox. -/
def dispatch (s : CcipProofOutbox) (orderId : B256) (envelope : Bytes) (o : DispatchOutside) :
    Except OutboxError Unit := do
  let payloadHash := s.recordedPayloads orderId
  require (payloadHash ≠ 0) (.UnknownPayload orderId)
  require (keccak256 envelope = payloadHash)
    (.PayloadConflict orderId payloadHash (keccak256 envelope))
  require (cfg.destinationInbox ≠ 0) .ZeroAddress
  let expectedFee ← expect o.getFee .Router
  require (o.value = expectedFee) (.IncorrectFee expectedFee o.value)
  require (o.ccipSend = true) .Router

variable {keccak256 cfg}

/-- **Inversion.** A record is the recorder's, and writes an empty slot or keeps
    the hash it finds. -/
theorem record_ok {s s' : CcipProofOutbox} {caller : Address} {orderId : B256} {kind : ProofKind}
    {payload : Bytes} (h : record keccak256 cfg s caller orderId kind payload = .ok s') :
    caller = cfg.recorder ∧ orderId ≠ 0 ∧
      ((s.recordedPayloads orderId = 0 ∧ s'.recordedPayloads =
          Mapping.set s.recordedPayloads orderId (keccak256 (ProofHashLib.encode kind payload))) ∨
        (s.recordedPayloads orderId = keccak256 (ProofHashLib.encode kind payload) ∧ s' = s)) := by
  unfold record at h
  rw [require_bind, require_bind] at h
  obtain ⟨hcaller, hid, h⟩ := h
  rw [not_or] at hid
  simp only [require_bind] at h
  obtain ⟨hconflict, h⟩ := h
  refine ⟨hcaller, hid.1, ?_⟩
  split at h
  · rename_i hempty
    obtain rfl := Except.ok.inj h
    exact .inl ⟨hempty, rfl⟩
  · rename_i hfull
    obtain rfl := Except.ok.inj h
    exact .inr ⟨by_contra fun hne => hconflict ⟨hfull, hne⟩, rfl⟩

/-- **Inversion.** What is dispatched for an order is what its slot hashes. -/
theorem dispatch_ok {s : CcipProofOutbox} {orderId : B256} {envelope : Bytes} {o : DispatchOutside}
    {u : Unit} (h : dispatch keccak256 cfg s orderId envelope o = .ok u) :
    s.recordedPayloads orderId ≠ 0 ∧ keccak256 envelope = s.recordedPayloads orderId := by
  unfold dispatch at h
  simp only [require_bind] at h
  exact ⟨h.1, h.2.1⟩

/-- A dispatch refuses a payload: none is recorded, or another one is. -/
def RefusesPayload : OutboxError → Prop
  | .UnknownPayload _ => True
  | .PayloadConflict _ _ _ => True
  | _ => False

/-- What is recorded for an order can be dispatched for it, as far as the outbox
    is concerned. -/
theorem dispatch_recorded {s : CcipProofOutbox} {orderId : B256} {envelope : Bytes}
    {o : DispatchOutside} {e : OutboxError}
    (hrecorded : s.recordedPayloads orderId = keccak256 envelope) (hne : keccak256 envelope ≠ 0)
    (h : dispatch keccak256 cfg s orderId envelope o = .error e) : ¬RefusesPayload e := by
  unfold dispatch at h
  rw [hrecorded, pass_bind hne, pass_bind rfl] at h
  -- What is left is the pairing, the fee and the router.
  by_cases hinbox : cfg.destinationInbox ≠ 0
  · rw [pass_bind hinbox] at h
    match hfee : o.getFee with
    | none =>
      rw [hfee] at h
      obtain rfl := Except.error.inj h
      exact id
    | some fee =>
      rw [hfee, expect_some_bind] at h
      by_cases hvalue : o.value = fee
      · rw [pass_bind hvalue] at h
        unfold require at h
        split at h
        · cases h
        · obtain rfl := Except.error.inj h
          exact id
      · unfold require at h
        rw [if_neg hvalue] at h
        obtain rfl := Except.error.inj h
        exact id
  · unfold require at h
    rw [if_neg hinbox] at h
    obtain rfl := Except.error.inj h
    exact id

end CcipProofOutbox

/-! ## The inbox -/

structure InboxConfig where
  SOURCE_CHAIN_SELECTOR : U64
  sourceOutbox : Address

instance : Inhabited VerifiedFill where
  default :=
    { orderId := 0, routeKind := .TwoMakerCredit, destinationChainId := 0, destinationApp := 0
      recipient := 0, outputToken := 0, outputAmount := 0, destinationMaker := 0
      destinationStrategyHash := 0, originStrategyHash := 0, repaymentToken := 0
      repaymentAmount := 0, maxCctpFee := 0, makerQuoteHash := 0, fillId := 0 }

instance : Inhabited VerifiedRepayment where
  default :=
    { orderId := 0, originChainId := 0, originSettler := 0, maker := 0, repaymentToken := 0
      repaymentAmount := 0, repaymentId := 0 }

/-- The storage of `CcipProofInbox`. -/
structure CcipProofInbox where
  consumedMessages : B256 → Bool
  fillForOrder : B256 → B256
  fills : B256 → VerifiedFill
  repaymentForOrder : B256 → B256
  repayments : B256 → VerifiedRepayment

/-- A message as the router hands it over. -/
structure Any2EVMMessage where
  messageId : B256
  sourceChainSelector : U64
  sender : Bytes
  data : Bytes
  destTokenAmounts : List (Address × U256)

inductive InboxError where
  | DuplicateMessage (messageId : B256)
  | InvalidEnvelope
  | InvalidProof
  | InvalidRemote (sourceSelector : U64) (sourceOutbox : Address)
  | ProofConflict (orderId : B256)
  | UnknownProof (proofId : B256)
  /-- `abi.decode` failed. -/
  | Decode
  deriving DecidableEq

namespace CcipProofInbox

def empty : CcipProofInbox :=
  { consumedMessages := fun _ => false, fillForOrder := fun _ => 0, fills := fun _ => default
    repaymentForOrder := fun _ => 0, repayments := fun _ => default }

def _storeFill (s : CcipProofInbox) (fill : VerifiedFill) : Except InboxError CcipProofInbox := do
  require (¬(fill.orderId = 0 ∨ fill.fillId = 0)) .InvalidProof
  require (¬(s.fillForOrder fill.orderId ≠ 0 ∨ (s.fills fill.fillId).fillId ≠ 0))
    (.ProofConflict fill.orderId)
  .ok { s with
    fillForOrder := Mapping.set s.fillForOrder fill.orderId fill.fillId
    fills := Mapping.set s.fills fill.fillId fill }

def _storeRepayment (s : CcipProofInbox) (repayment : VerifiedRepayment) :
    Except InboxError CcipProofInbox := do
  require (¬(repayment.orderId = 0 ∨ repayment.repaymentId = 0)) .InvalidProof
  require (¬(s.repaymentForOrder repayment.orderId ≠ 0 ∨
      (s.repayments repayment.repaymentId).repaymentId ≠ 0))
    (.ProofConflict repayment.orderId)
  .ok { s with
    repaymentForOrder := Mapping.set s.repaymentForOrder repayment.orderId repayment.repaymentId
    repayments := Mapping.set s.repayments repayment.repaymentId repayment }

def _ccipReceive (cfg : InboxConfig) (s : CcipProofInbox) (message : Any2EVMMessage) :
    Except InboxError CcipProofInbox := do
  require (s.consumedMessages message.messageId = false) (.DuplicateMessage message.messageId)
  require (¬(message.sourceChainSelector ≠ cfg.SOURCE_CHAIN_SELECTOR ∨ message.sender.length ≠ 32))
    (.InvalidRemote message.sourceChainSelector 0)
  let remoteOutbox ← expect ((read_word message.sender).bind as_address) .Decode
  require (¬(remoteOutbox ≠ cfg.sourceOutbox ∨ message.destTokenAmounts.length ≠ 0))
    (.InvalidRemote message.sourceChainSelector remoteOutbox)
  let envelope ← expect (ProofEnvelope.decode message.data) .Decode
  require (¬(envelope.version ≠ ProofHashLib.VERSION ∨ envelope.payload.length = 0))
    .InvalidEnvelope
  let s := { s with consumedMessages := Mapping.set s.consumedMessages message.messageId true }
  match envelope.kind with
  | .Fill => do
    let fill ← expect (decode envelope.payload) .Decode
    _storeFill s fill
  | .DirectRepayment => do
    let repayment ← expect (decode envelope.payload) .Decode
    _storeRepayment s repayment

def _proofId (proof : Bytes) : Except InboxError B256 := do
  require (proof.length = 32) .InvalidProof
  expect (read_word proof) .Decode

def verifyFill (s : CcipProofInbox) (proof : Bytes) : Except InboxError VerifiedFill := do
  let fillId ← _proofId proof
  require ((s.fills fillId).fillId ≠ 0) (.UnknownProof fillId)
  .ok (s.fills fillId)

def verifyRepayment (s : CcipProofInbox) (proof : Bytes) : Except InboxError VerifiedRepayment := do
  let repaymentId ← _proofId proof
  require ((s.repayments repaymentId).repaymentId ≠ 0) (.UnknownProof repaymentId)
  .ok (s.repayments repaymentId)

/-! ## Inversion -/

theorem storeFill_ok {s s' : CcipProofInbox} {fill : VerifiedFill} (h : _storeFill s fill = .ok s') :
    fill.orderId ≠ 0 ∧ fill.fillId ≠ 0 ∧ s.fillForOrder fill.orderId = 0 ∧
      (s.fills fill.fillId).fillId = 0 ∧
      s' = { s with
        fillForOrder := Mapping.set s.fillForOrder fill.orderId fill.fillId
        fills := Mapping.set s.fills fill.fillId fill } := by
  unfold _storeFill at h
  rw [require_bind, require_bind] at h
  obtain ⟨hids, hslots, h⟩ := h
  rw [not_or] at hids
  rw [not_or, not_ne_iff, not_ne_iff] at hslots
  exact ⟨hids.1, hids.2, hslots.1, hslots.2, (Except.ok.inj h).symm⟩

theorem storeRepayment_ok {s s' : CcipProofInbox} {repayment : VerifiedRepayment}
    (h : _storeRepayment s repayment = .ok s') :
    repayment.orderId ≠ 0 ∧ repayment.repaymentId ≠ 0 ∧
      s.repaymentForOrder repayment.orderId = 0 ∧
      (s.repayments repayment.repaymentId).repaymentId = 0 ∧
      s' = { s with
        repaymentForOrder :=
          Mapping.set s.repaymentForOrder repayment.orderId repayment.repaymentId
        repayments := Mapping.set s.repayments repayment.repaymentId repayment } := by
  unfold _storeRepayment at h
  rw [require_bind, require_bind] at h
  obtain ⟨hids, hslots, h⟩ := h
  rw [not_or] at hids
  rw [not_or, not_ne_iff, not_ne_iff] at hslots
  exact ⟨hids.1, hids.2, hslots.1, hslots.2, (Except.ok.inj h).symm⟩

/-- What the inbox stores after a message, besides marking it consumed. -/
def Stores (s s' : CcipProofInbox) (data : Bytes) (messageId : B256) : Prop :=
  ∃ envelope, ProofEnvelope.decode data = some envelope ∧
    ((∃ fill, envelope.kind = .Fill ∧ decode envelope.payload = some fill ∧
        _storeFill { s with
          consumedMessages := Mapping.set s.consumedMessages messageId true } fill = .ok s') ∨
      ∃ repayment, envelope.kind = .DirectRepayment ∧
        decode envelope.payload = some repayment ∧
        _storeRepayment { s with
          consumedMessages := Mapping.set s.consumedMessages messageId true } repayment = .ok s')

/-- **Inversion.** A message is accepted from the paired outbox alone, once, and
    stores the proof it carries. -/
theorem ccipReceive_ok {cfg : InboxConfig} {s s' : CcipProofInbox} {message : Any2EVMMessage}
    (h : _ccipReceive cfg s message = .ok s') :
    s.consumedMessages message.messageId = false ∧
      message.sourceChainSelector = cfg.SOURCE_CHAIN_SELECTOR ∧
      (read_word message.sender).bind as_address = some cfg.sourceOutbox ∧
      Stores s s' message.data message.messageId := by
  unfold _ccipReceive at h
  rw [require_bind, require_bind] at h
  obtain ⟨hfresh, hselector, h⟩ := h
  rw [not_or, not_ne_iff, not_ne_iff] at hselector
  obtain ⟨remoteOutbox, hsender, h⟩ := expect_bind.mp h
  rw [require_bind] at h
  obtain ⟨hremote, h⟩ := h
  rw [not_or, not_ne_iff, not_ne_iff] at hremote
  obtain ⟨envelope, hdecode, h⟩ := expect_bind.mp h
  rw [require_bind] at h
  obtain ⟨-, h⟩ := h
  obtain rfl := hremote.1
  refine ⟨hfresh, hselector.1, hsender, envelope, hdecode, ?_⟩
  match hkind : envelope.kind with
  | .Fill =>
    rw [hkind] at h
    obtain ⟨fill, hfill, h⟩ := expect_bind.mp h
    exact .inl ⟨fill, rfl, hfill, h⟩
  | .DirectRepayment =>
    rw [hkind] at h
    obtain ⟨repayment, hrepayment, h⟩ := expect_bind.mp h
    exact .inr ⟨repayment, rfl, hrepayment, h⟩

theorem verifyFill_ok {s : CcipProofInbox} {proof : Bytes} {fill : VerifiedFill}
    (h : verifyFill s proof = .ok fill) :
    ∃ fillId, _proofId proof = .ok fillId ∧ s.fills fillId = fill ∧ fill.fillId ≠ 0 := by
  unfold verifyFill at h
  obtain ⟨fillId, hproof, h⟩ := Except.bind_eq_ok.mp h
  rw [require_bind] at h
  obtain ⟨hknown, h⟩ := h
  obtain rfl := Except.ok.inj h
  exact ⟨fillId, hproof, rfl, hknown⟩

theorem verifyRepayment_ok {s : CcipProofInbox} {proof : Bytes} {repayment : VerifiedRepayment}
    (h : verifyRepayment s proof = .ok repayment) :
    ∃ repaymentId, _proofId proof = .ok repaymentId ∧ s.repayments repaymentId = repayment ∧
      repayment.repaymentId ≠ 0 := by
  unfold verifyRepayment at h
  obtain ⟨repaymentId, hproof, h⟩ := Except.bind_eq_ok.mp h
  rw [require_bind] at h
  obtain ⟨hknown, h⟩ := h
  obtain rfl := Except.ok.inj h
  exact ⟨repaymentId, hproof, rfl, hknown⟩

end CcipProofInbox

end Solvent.Contracts
