import Mathlib
import Solvent.Error
import Solvent.Crosschain.Saga
import Solvent.Contracts.Closing

/-! # The burn and its completion

    A routed settlement burns USDC, Circle's contracts turn the burn into a
    message in their fixed layout, and three readers take it from there: the
    proxy, which stages the completion, the message library's parser, and the
    application, which mints and pays. `Circle` is what Circle deployed; its
    `message` is the encoder, which no reader shares.
-/

namespace Solvent.Contracts

open Abi Contract CrossChainAquaApp CctpMessageLib

/-! ## Slices of a layout -/

section Slices

variable {field rest : Bytes} {first last : ℕ}

/-- A field is passed over. -/
theorem slice_skip (h : field.length ≤ first) :
    slice (field ++ rest) first last =
      slice rest (first - field.length) (last - field.length) := by
  unfold slice
  have hdrop : (field ++ rest).drop first = rest.drop (first - field.length) := by
    rw [List.drop_append, List.drop_eq_nil_of_le h, List.nil_append]
  rw [hdrop, Nat.sub_sub_sub_cancel_right h]

/-- The first field is read. -/
theorem slice_head (h : field.length = last) : slice (field ++ rest) 0 last = field := by
  unfold slice
  rw [List.drop_zero, Nat.sub_zero, List.take_left' h]

/-- The four bytes of a `uint32`. -/
def bytes4 (n : Uint32) : Bytes := Encoding.big_endian 4 n.val

@[simp] theorem length_bytes4 (n : Uint32) : (bytes4 n).length = 4 :=
  Encoding.length_big_endian 4 n.val

theorem uint32_at_skip (h : field.length ≤ first) :
    uint32_at (field ++ rest) first = uint32_at rest (first - field.length) := by
  unfold uint32_at
  rw [slice_skip h, Nat.sub_add_comm h]

theorem bytes32_at_skip (h : field.length ≤ first) :
    bytes32_at (field ++ rest) first = bytes32_at rest (first - field.length) := by
  unfold bytes32_at
  rw [slice_skip h, Nat.sub_add_comm h]

@[simp] theorem uint32_at_head (n : Uint32) : uint32_at (bytes4 n ++ rest) 0 = n := by
  unfold uint32_at
  rw [slice_head (length_bytes4 n), bytes4, number_big_endian]
  apply Fin.ext
  rw [Fin.val_ofNat, Nat.mod_mod_of_dvd _ (by norm_num)]
  exact Nat.mod_eq_of_lt n.isLt

@[simp] theorem bytes32_at_head (w : U256) : bytes32_at (word w ++ rest) 0 = w := by
  unfold bytes32_at
  rw [slice_head (length_word w), number_word]
  apply Fin.ext
  rw [Fin.val_ofNat]
  exact Nat.mod_eq_of_lt w.isLt

end Slices

/-! ## Circle -/

/-- What Circle's contracts put in every message of this route. -/
structure Circle where
  messageVersion : Uint32
  sourceDomain : Uint32
  /-- The origin's token messenger. -/
  sender : B256
  /-- The destination's token messenger. -/
  recipient : B256
  burnMessageVersion : Uint32

/-- What Circle adds to one message. -/
structure Attested where
  nonce : B256
  finalityThresholdExecuted : Uint32
  feeExecuted : U256
  expirationBlock : U256

/-- The message of a deposit made by `messageSender`: the header, the burn body,
    the hook data. -/
def Circle.message (c : Circle) (messageSender : Address) (deposit : DepositForBurn)
    (attested : Attested) : Bytes :=
  bytes4 c.messageVersion ++ (bytes4 c.sourceDomain ++ (bytes4 deposit.destinationDomain ++
  (word attested.nonce ++ (word c.sender ++ (word c.recipient ++
  (word deposit.destinationCaller ++ (bytes4 deposit.minFinalityThreshold ++
  (bytes4 attested.finalityThresholdExecuted ++ (bytes4 c.burnMessageVersion ++
  (word (addressToBytes32 deposit.burnToken) ++ (word deposit.mintRecipient ++
  (word deposit.amount ++ (word (addressToBytes32 messageSender) ++ (word deposit.maxFee ++
  (word attested.feeExecuted ++ (word attested.expirationBlock ++ deposit.hookData))))))))))))))))

/-- The fields of that message, where the hook data is the hook of an order. -/
def Circle.fields (c : Circle) (messageSender : Address) (deposit : DepositForBurn)
    (attested : Attested) (orderId : B256) : ParsedMessage where
  version := c.messageVersion
  sourceDomain := c.sourceDomain
  destinationDomain := deposit.destinationDomain
  nonce := attested.nonce
  sender := c.sender
  recipient := c.recipient
  destinationCaller := deposit.destinationCaller
  minFinalityThreshold := deposit.minFinalityThreshold
  finalityThresholdExecuted := attested.finalityThresholdExecuted
  burnVersion := c.burnMessageVersion
  burnToken := addressToBytes32 deposit.burnToken
  mintRecipient := deposit.mintRecipient
  amount := deposit.amount
  messageSender := addressToBytes32 messageSender
  maxFee := deposit.maxFee
  feeExecuted := attested.feeExecuted
  expirationBlock := attested.expirationBlock
  hookVersion := HOOK_VERSION
  hookOrderId := orderId

section Layout

variable {c : Circle} {messageSender : Address} {deposit : DepositForBurn} {attested : Attested}
  {orderId : B256}

theorem Circle.length_message (hhook : deposit.hookData = repaymentHook orderId) :
    (c.message messageSender deposit attested).length = MESSAGE_LENGTH := by
  simp [Circle.message, hhook, repaymentHook, MESSAGE_LENGTH]

/-- **The parser reads the encoder's fields**, each at its own offset. -/
theorem Circle.parse_message (hhook : deposit.hookData = repaymentHook orderId) :
    parse (c.message messageSender deposit attested) =
      some (c.fields messageSender deposit attested orderId) := by
  have hlength : (c.message messageSender deposit attested).length = MESSAGE_LENGTH :=
    Circle.length_message hhook
  unfold parse
  rw [if_pos hlength]
  unfold Circle.message Circle.fields
  rw [hhook, repaymentHook, words_cons, words_cons]
  simp (disch := simp) only [uint32_at_skip, bytes32_at_skip, length_bytes4, length_word,
    uint32_at_head, bytes32_at_head, Nat.reduceSub, Nat.sub_self]

end Layout

/-! ## The proxy -/

structure CircleCctpCompletion where
  source_domain : Uint32
  destination_domain : Uint32
  destination_app : Address

def u32_at (message : Bytes) (offset : ℕ) : Except CctpCompletionError Uint32 :=
  if offset + 4 ≤ message.length then .ok (uint32_at message offset)
  else .error (.Invalid "truncated CCTP message")

def padded_address (address : Address) : Bytes :=
  List.replicate 12 0 ++ Encoding.big_endian 20 address.val

def CircleCctpCompletion.validate_message (c : CircleCctpCompletion) (message : Bytes)
    (order_id : CrossChainOrderId) : Except CctpCompletionError Unit := do
  require (message.length = MESSAGE_LENGTH)
    (.Invalid s!"message length {message.length} does not match {MESSAGE_LENGTH}")
  let source ← u32_at message 4
  let destination ← (if source ≠ c.source_domain then .ok c.destination_domain
    else u32_at message 8)
  require (¬(source ≠ c.source_domain ∨ destination ≠ c.destination_domain))
    (.Invalid "message domains do not match the configured route")
  let expected_app := padded_address c.destination_app
  require (¬(slice message 108 140 ≠ expected_app ∨ slice message 184 216 ≠ expected_app))
    (.Invalid "message destination caller or mint recipient is not the destination app")
  require (¬(slice message 376 408 ≠ word 1 ∨ slice message 408 440 ≠ word order_id.hash))
    (.Invalid "message repayment hook does not bind the order")

theorem padded_address_eq (address : Address) :
    padded_address address = word (addressToBytes32 address) :=
  (Encoding.big_endian_padded (lt_of_lt_of_eq address.isLt (by norm_num)) 12).symm

section Proxy

variable {c : Circle} {messageSender : Address} {deposit : DepositForBurn} {attested : Attested}
  {orderId : B256}

/-- The proxy compares the two domains, the two places of the application and the
    hook. -/
theorem CircleCctpCompletion.validate_message_ok {p : CircleCctpCompletion} {message : Bytes}
    {order_id : CrossChainOrderId} (hlength : message.length = MESSAGE_LENGTH) :
    p.validate_message message order_id = .ok () ↔
      uint32_at message 4 = p.source_domain ∧ uint32_at message 8 = p.destination_domain ∧
        slice message 108 140 = padded_address p.destination_app ∧
        slice message 184 216 = padded_address p.destination_app ∧
        slice message 376 408 = word 1 ∧ slice message 408 440 = word order_id.hash := by
  have hread : ∀ offset, offset + 4 ≤ MESSAGE_LENGTH →
      u32_at message offset = .ok (uint32_at message offset) := by
    intro offset h
    rw [u32_at, if_pos (hlength ▸ h)]
  unfold CircleCctpCompletion.validate_message
  rw [pass_bind hlength, hread 4 (by decide), hread 8 (by decide)]
  show ((if uint32_at message 4 ≠ p.source_domain then Except.ok p.destination_domain
    else .ok (uint32_at message 8)) >>= fun destination => _) = _ ↔ _
  by_cases hsource : uint32_at message 4 = p.source_domain
  · rw [if_neg (not_not.mpr hsource)]
    show (require _ _ >>= fun _ => _) = _ ↔ _
    simp only [require_bind, require_eq_ok]
    tauto
  · rw [if_pos hsource]
    show (require _ _ >>= fun _ => _) = _ ↔ _
    simp only [require_bind]
    tauto

/-- **The proxy accepts the message for its order alone.** -/
theorem CircleCctpCompletion.accepts_message {p : CircleCctpCompletion}
    (hhook : deposit.hookData = repaymentHook orderId) (hsource : c.sourceDomain = p.source_domain)
    (hdestination : deposit.destinationDomain = p.destination_domain)
    (hcaller : deposit.destinationCaller = addressToBytes32 p.destination_app)
    (hmint : deposit.mintRecipient = addressToBytes32 p.destination_app)
    (order_id : CrossChainOrderId) :
    p.validate_message (c.message messageSender deposit attested) order_id = .ok () ↔
      order_id.hash = orderId := by
  rw [validate_message_ok (Circle.length_message hhook), padded_address_eq]
  have hword : ∀ w w' : U256, word w = word w' ↔ w = w' := by
    intro w w'
    refine ⟨fun h => ?_, congrArg word⟩
    have hnumber := congrArg number h
    rw [number_word, number_word] at hnumber
    exact Fin.ext hnumber
  have hlast : word orderId = word orderId ++ [] := (List.append_nil _).symm
  unfold Circle.message
  rw [hhook, repaymentHook, words_cons, words_cons, words_nil]
  simp (disch := simp) only [uint32_at_skip, slice_skip, length_bytes4, length_word,
    uint32_at_head, slice_head, Nat.reduceSub, Nat.sub_self, hword, hsource, hdestination,
    hcaller, hmint, HOOK_VERSION, true_and]
  exact eq_comm

end Proxy

/-! ## The completion -/

/-- Circle and the proxy agree with the application about the route. -/
structure CctpMatching (c : Circle) (p : CircleCctpCompletion) (cfg : AppConfig) : Prop where
  version : c.messageVersion = cfg.CCTP_MESSAGE_VERSION
  source : c.sourceDomain = cfg.ORIGIN_CCTP_DOMAIN
  sender : c.sender = cfg.ORIGIN_TOKEN_MESSENGER
  recipient : c.recipient = addressToBytes32 cfg.DESTINATION_TOKEN_MESSENGER
  burn_version : c.burnMessageVersion = cfg.CCTP_BURN_MESSAGE_VERSION
  source_domain : p.source_domain = cfg.ORIGIN_CCTP_DOMAIN
  destination_domain : p.destination_domain = cfg.DESTINATION_CCTP_DOMAIN
  destination_app : p.destination_app = cfg.this

/-- The transmitter takes the message and mints what was burned less the fee, and
    the payments out of it succeed. -/
structure Mints (o : CompletionOutside) (message attestation : Bytes) (amount fee : U256) :
    Prop where
  received : o.receiveMessage message attestation = true
  minted : o.balanceAfterMint.val + fee.val = o.balanceBefore.val + amount.val
  paid : o.pay = true
  spent : o.balanceAtEnd = o.balanceBefore

section Completion

variable {keccak256 : Bytes → B256} {d : Deployment} {w : World} {c : Circle}
  {p : CircleCctpCompletion} {order : SolventCrossChainOrder} {fill : VerifiedFill}
  {orderId : B256} {burnAmount : U256} {attested : Attested}

/-- The message of a routed burn passes the application while its receivable is
    owed. -/
theorem Matching.accepts_burn (hmatching : Matching d) (hcctp : CctpMatching c p d.app)
    (howed : OwedCredit w.app orderId fill)
    (hamount : fill.repaymentAmount.val + fill.maxCctpFee.val = burnAmount.val)
    (hnonce : attested.nonce ≠ 0)
    (hfinality : d.settler.CCTP_MIN_FINALITY_THRESHOLD ≤ attested.finalityThresholdExecuted)
    (hfee : attested.feeExecuted ≤ fill.maxCctpFee) :
    _validateCctpMessage d.app orderId (w.app.creditReceivables orderId)
      (c.fields d.settler.this (CompactOriginSettler.routed_burn d.settler orderId burnAmount fill)
        attested orderId) = .ok () := by
  have hburn : (w.app.creditReceivables orderId).usdcDue.checked_add
      (w.app.creditReceivables orderId).maxCctpFee = some burnAmount := by
    rw [U256.checked_add_eq_some, howed.due, howed.fee]
    exact hamount
  have hfee' : attested.feeExecuted.val ≤ fill.maxCctpFee.val := hfee
  have hnet : ∃ net : U256, burnAmount.checked_sub attested.feeExecuted = some net ∧
      (w.app.creditReceivables orderId).usdcDue ≤ net := by
    refine ⟨⟨burnAmount.val - attested.feeExecuted.val,
      lt_of_le_of_lt (Nat.sub_le _ _) burnAmount.isLt⟩, ?_, ?_⟩
    · rw [U256.checked_sub_eq_some]
      show attested.feeExecuted.val + (burnAmount.val - attested.feeExecuted.val) = burnAmount.val
      omega
    · rw [howed.due]
      show fill.repaymentAmount.val ≤ burnAmount.val - attested.feeExecuted.val
      omega
  obtain ⟨net, hnet, hdue⟩ := hnet
  unfold _validateCctpMessage
  rw [hburn, expect_some_bind, pass_bind]
  · show (expect (burnAmount.checked_sub attested.feeExecuted) AppError.Panic >>= fun _ => _) = _
    rw [hnet, expect_some_bind]
    exact require_of hdue _
  · refine ⟨hcctp.version, hcctp.source, hmatching.destination_domain, hnonce, hcctp.sender,
      hcctp.recipient, ?_, hmatching.threshold, ?_, hcctp.burn_version, ?_, ?_, rfl, ?_,
      howed.fee.symm, ?_, rfl, rfl⟩
    · exact congrArg addressToBytes32 hmatching.destination_app
    · rw [← hmatching.threshold]
      exact hfinality
    · exact congrArg addressToBytes32 hmatching.origin_usdc.symm
    · exact congrArg addressToBytes32 hmatching.destination_app
    · exact congrArg addressToBytes32 hmatching.origin_settler.symm
    · rw [howed.fee]
      exact hfee

/-- Once it is validated, a message completes: no subtraction underflows, and the
    maker and the fee recipient are paid exactly. -/
theorem completes {o : CompletionOutside} {message attestation : Bytes} {parsed : ParsedMessage}
    (hexposed : Exposed w.app)
    (hdelivered : (w.app.creditReceivables orderId).state = .Delivered)
    (hparse : parse message = some parsed)
    (hvalid : _validateCctpMessage d.app orderId (w.app.creditReceivables orderId) parsed = .ok ())
    (hmints : Mints o message attestation parsed.amount parsed.feeExecuted) :
    ∃ w' strategy, ∃ surplus : U256,
      completeRepayment keccak256 d w o orderId message attestation = .ok w' ∧
        surplus.val + parsed.feeExecuted.val = (w.app.creditReceivables orderId).maxCctpFee.val ∧
        .CreditRepaid orderId (w.app.creditReceivables orderId).maker
          (w.app.creditReceivables orderId).usdcDue strategy surplus ∈ w'.log := by
  -- What the checks say about the amounts.
  have hchecks := hvalid
  unfold _validateCctpMessage at hchecks
  obtain ⟨burnAmount, hburn, hchecks⟩ := expect_bind.mp hchecks
  obtain ⟨⟨-, -, -, -, -, -, -, -, -, -, -, -, hamount, -, -, hfee, -, -⟩, hchecks⟩ :=
    require_bind.mp hchecks
  rw [U256.checked_add_eq_some] at hburn
  have hfee' : parsed.feeExecuted.val ≤ (w.app.creditReceivables orderId).maxCctpFee.val := hfee
  have hamount' : parsed.amount.val = burnAmount.val := congrArg Fin.val hamount
  have hbound := parsed.amount.isLt
  -- The minted amount and the surplus.
  obtain ⟨expectedMint, hmint⟩ : ∃ expectedMint : U256,
      expectedMint.val = parsed.amount.val - parsed.feeExecuted.val :=
    ⟨⟨parsed.amount.val - parsed.feeExecuted.val, by omega⟩, rfl⟩
  obtain ⟨surplus, hsurplus⟩ : ∃ surplus : U256,
      surplus.val = expectedMint.val - (w.app.creditReceivables orderId).usdcDue.val :=
    ⟨⟨expectedMint.val - (w.app.creditReceivables orderId).usdcDue.val, by omega⟩, rfl⟩
  have hexpected : parsed.amount.checked_sub parsed.feeExecuted = some expectedMint := by
    rw [U256.checked_sub_eq_some]
    omega
  have hleft : expectedMint.checked_sub (w.app.creditReceivables orderId).usdcDue =
      some surplus := by
    rw [U256.checked_sub_eq_some]
    omega
  have hminted : o.balanceAfterMint.saturating_sub o.balanceBefore = expectedMint := by
    have h := hmints.minted
    apply Fin.ext
    rw [U256.saturating_sub_val]
    omega
  obtain ⟨outstanding, hrelease⟩ := Option.isSome_iff_exists.mp
    (hexposed.release_credit hdelivered)
  obtain ⟨app, hclose⟩ : ∃ app, w.app.close_credit orderId = .ok app := by
    unfold close_credit
    show ∃ app, (expect (w.app.release_credit (w.app.creditReceivables orderId)) _ >>=
      fun _ => _) = .ok app
    rw [hrelease]
    exact ⟨_, rfl⟩
  let strategy : Option B256 := if active o.tokensCount then
    some (w.app.creditReceivables orderId).destinationStrategyHash else none
  refine ⟨(inside_destination keccak256 d o.calls { w with app }).emit (.CreditRepaid orderId
    (w.app.creditReceivables orderId).maker (w.app.creditReceivables orderId).usdcDue strategy
    surplus), strategy, surplus, ?_, ?_, List.mem_append_right _ (List.mem_singleton_self _)⟩
  · unfold completeRepayment
    rw [pass_bind hdelivered, hparse, expect_some_bind, hvalid]
    show (w.app.close_credit orderId >>= fun _ => _) = _
    rw [hclose]
    show (require _ _ >>= fun _ => _) = _
    rw [pass_bind hmints.received, hexpected, expect_some_bind, hminted, pass_bind rfl,
      pass_bind hmints.paid, hleft, expect_some_bind, pass_bind hmints.spent]
  · omega

end Completion

/-- **A routed burn can always be completed.** An order was burned for on matching
    deployments. Then for every message Circle can attest of that burn: the proxy
    accepts it for this order alone, the parser reads its fields back, and while
    the receivable is delivered the application accepts it and the completion
    pays the maker what is due and the fee recipient what is left of the fee. -/
theorem burn_completes (keccak256 : Bytes → B256) (d : Deployment) (c : Circle)
    (p : CircleCctpCompletion) (hmatching : Matching d) (hcctp : CctpMatching c p d.app)
    (actions : List Action)
    (hadmitted : Run.Along (step keccak256 d) (fun w a => a.Admitted d w) World.empty actions)
    (htold : (Run.run (step keccak256 d) World.empty actions).Told keccak256)
    (order : SolventCrossChainOrder) (deposit : DepositForBurn)
    (hburned : .Burned order deposit ∈ (Run.run (step keccak256 d) World.empty actions).log)
    (attested : Attested) (hnonce : attested.nonce ≠ 0)
    (hfinality : deposit.minFinalityThreshold ≤ attested.finalityThresholdExecuted)
    (hfee : attested.feeExecuted ≤ deposit.maxFee) :
    let w := Run.run (step keccak256 d) World.empty actions
    let orderId := CrossChainHashLib.hashOrder keccak256 order
    let message := c.message d.settler.this deposit attested
    let receivable := w.app.creditReceivables orderId
    (∀ order_id, p.validate_message message order_id = .ok () ↔ order_id.hash = orderId) ∧
      parse message = some (c.fields d.settler.this deposit attested orderId) ∧
      (receivable.state = .Delivered →
        _validateCctpMessage d.app orderId receivable
            (c.fields d.settler.this deposit attested orderId) = .ok () ∧
          ∀ o attestation, Mints o message attestation deposit.amount attested.feeExecuted →
            ∃ w' strategy, ∃ surplus : U256,
              completeRepayment keccak256 d w o orderId message attestation = .ok w' ∧
                surplus.val + attested.feeExecuted.val = receivable.maxCctpFee.val ∧
                .CreditRepaid orderId receivable.maker receivable.usdcDue strategy surplus ∈
                  w'.log) := by
  intro w orderId message receivable
  have hsound : Sound keccak256 d w := run_sound sound_empty hadmitted htold
  obtain ⟨fill, received, hmem, burnAmount, hamount, rfl⟩ :=
    hsound.evidenced.burned order deposit hburned
  obtain ⟨before, -, hroute, -⟩ := hsound.safe.books.justified.of_mem hburned
  have howed := (hsound.evidenced.delivered order fill received hmem).credit hroute
  have hparse : parse message = some _ := Circle.parse_message rfl
  refine ⟨?_, hparse, ?_⟩
  · refine CircleCctpCompletion.accepts_message rfl ?_ ?_ ?_ ?_
    · rw [hcctp.source, hcctp.source_domain]
    · exact hmatching.destination_domain.trans hcctp.destination_domain.symm
    · rw [hcctp.destination_app, ← hmatching.destination_app]
      rfl
    · rw [hcctp.destination_app, ← hmatching.destination_app]
      rfl
  · intro hdelivered
    have hvalid := hmatching.accepts_burn hcctp howed hamount hnonce hfinality hfee
    exact ⟨hvalid, fun o attestation hmints =>
      completes hsound.safe.exposed hdelivered hparse hvalid hmints⟩

/-! A credit order on the sample chains. -/

def sample_credit_order : SolventCrossChainOrder :=
  { sample_order with routeKind := .TwoMakerCredit }

def sample_credit_mandate : SolventMandate :=
  { sample_mandate with
    orderId := CrossChainHashLib.hashOrder sample_hash sample_credit_order
    routeKind := .TwoMakerCredit }

def sample_credit_quote : MakerCreditQuote where
  orderId := CrossChainHashLib.hashOrder sample_hash sample_credit_order
  maker := 3
  destinationStrategyHash := 31
  outputAmount := 45
  usdcDue := 60
  maxCctpFee := 5
  nonce := 1
  expires := 80

def sample_credit_fill : VerifiedFill :=
  credit_fill sample_hash sample_deployment.app sample_credit_order sample_credit_quote

def sample_routing : RoutedOutside where
  inputBalanceBefore := 0
  inputBalanceAfterClaim := 50
  inputBalanceAtEnd := 0
  usdcBalanceBefore := 0
  usdcBalanceAfterSwap := 70
  usdcBalanceAtEnd := 0
  claim := true
  swap _ _ := some (50, 70)
  burn := true
  calls := []

/-- A credit order, from its delivery to its burn. -/
def sample_credit_actions : List Action :=
  [.open_destination (.configureCreditStrategy 3 31 30 1000 true 1 1),
   .fillCredit 9 sample_delivery sample_credit_order sample_credit_mandate sample_credit_quote [],
   .open_destination (.rail (.dispatch sample_credit_quote.orderId
     (ProofHashLib.encode .Fill (encode sample_credit_fill)) sample_dispatch)),
   .open_origin (.receive
     { messageId := 1, sourceChainSelector := 200, sender := word 15
       data := ProofHashLib.encode .Fill (encode sample_credit_fill), destTokenAmounts := [] }),
   .settleRouted sample_routing sample_credit_order sample_credit_mandate
     (word sample_credit_fill.fillId)
     { sample_claim with witness := CrossChainHashLib.hashMandate sample_hash sample_credit_mandate }
     { maker := 4, traits := 0, data := [] }]

def sample_burned : World :=
  Run.run (step sample_hash sample_deployment) World.empty sample_credit_actions

def sample_circle : Circle where
  messageVersion := 1
  sourceDomain := 0
  sender := 24
  recipient := 13
  burnMessageVersion := 1

def sample_attested : Attested where
  nonce := 7
  finalityThresholdExecuted := 2000
  feeExecuted := 2
  expirationBlock := 0

def sample_deposit : DepositForBurn :=
  CompactOriginSettler.routed_burn sample_deployment.settler sample_credit_quote.orderId 65
    sample_credit_fill

set_option maxRecDepth 20000 in
theorem burn_completes_sample :
    _validateCctpMessage sample_deployment.app sample_credit_quote.orderId
      (sample_burned.app.creditReceivables sample_credit_quote.orderId)
      (sample_circle.fields 20 sample_deposit sample_attested sample_credit_quote.orderId) =
        .ok () := by
  have htold : ∀ text ∈ sample_burned.hashed, ∀ text' ∈ sample_burned.hashed,
      sample_hash text = sample_hash text' → text = text' := by decide +kernel
  have hcctp : CctpMatching sample_circle
      { source_domain := 0, destination_domain := 6, destination_app := 10 }
      sample_deployment.app := ⟨rfl, rfl, rfl, rfl, rfl, rfl, rfl, rfl⟩
  obtain ⟨-, -, haccepts⟩ := burn_completes sample_hash sample_deployment sample_circle _
    sample_matching hcctp sample_credit_actions (by decide +kernel)
    (fun text h text' h' => htold text h text' h') sample_credit_order sample_deposit
    (by decide +kernel) sample_attested (by decide) (by decide) (by decide)
  exact (haccepts (by decide +kernel)).1

end Solvent.Contracts
