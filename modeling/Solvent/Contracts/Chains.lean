import Mathlib
import Solvent.Framework.Run
import Solvent.Contracts.App
import Solvent.Contracts.Settler

/-! # Two chains

    The application and the settler, each with an outbox and an inbox on its
    chain, as one state that any caller steps. A log keeps, in the order they
    happened, the deliveries, claims and payments that left a contract and the
    messages an outbox dispatched; `hashed` keeps the texts that were hashed.

    The entry points of the application and of the settler are guarded against
    re-entry. The rest can be called at any time, also by whoever is called in
    the middle of a guarded call: a delivery, a claim and a payment each come
    with the `calls` made from inside them.
-/

namespace Solvent.Contracts

open Abi Contract

inductive Side where
  | destination
  | origin
  deriving DecidableEq

def Side.peer : Side → Side
  | destination => origin
  | origin => destination

/-! ## State -/

inductive Event where
  /-- An order was delivered, and the recipient received this much. -/
  | Delivered (order : SolventCrossChainOrder) (fill : VerifiedFill) (received : U256)
  /-- An outbox sent these bytes to the other chain. -/
  | Dispatched (side : Side) (data : Bytes)
  /-- The Compact was claimed for an order, and the settler received this much. -/
  | Claimed (order : SolventCrossChainOrder) (claim : Claim) (received : U256)
  /-- The settler paid a maker, by a push to a strategy or a transfer. -/
  | Repaid (order : SolventCrossChainOrder) (maker token : Address) (amount : U256)
      (strategy : Option B256)
  /-- The settler burned USDC for an order. -/
  | Burned (order : SolventCrossChainOrder) (deposit : DepositForBurn)
  /-- The application paid a maker, by a push to a strategy or a transfer, and
      passed the surplus on. -/
  | CreditRepaid (orderId : B256) (maker : Address) (amount : U256) (strategy : Option B256)
      (surplus : U256)
  deriving DecidableEq

structure World where
  app : CrossChainAquaApp
  settler : CompactOriginSettler
  outbox : Side → CcipProofOutbox
  inbox : Side → CcipProofInbox
  log : List Event
  hashed : List Bytes

def World.empty : World where
  app := .empty
  settler := .empty
  outbox _ := .empty
  inbox _ := .empty
  log := []
  hashed := []

structure Deployment where
  app : AppConfig
  settler : SettlerConfig
  outbox : Side → OutboxConfig
  inbox : Side → InboxConfig

inductive Revert where
  | App (error : AppError)
  | Settler (error : SettlerError)
  | Outbox (error : OutboxError)
  | Inbox (error : InboxError)
  deriving DecidableEq

namespace World

def emit (w : World) (e : Event) : World := { w with log := w.log ++ [e] }

def hashing (w : World) (texts : List Bytes) : World := { w with hashed := w.hashed ++ texts }

end World

/-! ## Calls without a guard -/

/-- A call to the outbox of a chain, or a message its router hands to its
    inbox. -/
inductive RailCall where
  | record (caller : Address) (orderId : B256) (kind : ProofKind) (payload : Bytes)
  | dispatch (orderId : B256) (envelope : Bytes) (outside : DispatchOutside)
  | receive (message : Any2EVMMessage)

/-- A call that anyone can make on the destination chain at any time. -/
inductive OpenCall where
  | configureDirectStrategy (caller : Address) (strategyHash : B256) (outputToken : Address)
      (maxOutstandingRepayment : U256) (enabled : Bool) (tokensCount : Uint8)
  | configureCreditStrategy (caller : Address) (strategyHash : B256) (outputToken : Address)
      (maxOutstandingUsdc : U256) (enabled : Bool) (tokensCount usdcCount : Uint8)
  | rail (call : RailCall)

section Calls

variable (keccak256 : Bytes → B256) (d : Deployment)

def RailCall.apply (side : Side) (w : World) : RailCall → Except Revert World
  | record caller orderId kind payload => do
    let outbox ← bubble .Outbox
      ((w.outbox side).record keccak256 (d.outbox side) caller orderId kind payload)
    .ok { w with outbox := Mapping.set w.outbox side outbox }
  | dispatch orderId envelope outside => do
    bubble .Outbox ((w.outbox side).dispatch keccak256 (d.outbox side) orderId envelope outside)
    .ok ((w.hashing [envelope]).emit (.Dispatched side envelope))
  | receive message => do
    let inbox ← bubble .Inbox (CcipProofInbox._ccipReceive (d.inbox side) (w.inbox side) message)
    .ok { w with inbox := Mapping.set w.inbox side inbox }

def OpenCall.apply (w : World) : OpenCall → Except Revert World
  | configureDirectStrategy caller strategyHash outputToken maxOutstandingRepayment enabled
      tokensCount => do
    let app ← bubble .App (w.app.configureDirectStrategy caller strategyHash outputToken
      maxOutstandingRepayment enabled tokensCount)
    .ok { w with app }
  | configureCreditStrategy caller strategyHash outputToken maxOutstandingUsdc enabled tokensCount
      usdcCount => do
    let app ← bubble .App (w.app.configureCreditStrategy caller strategyHash outputToken
      maxOutstandingUsdc enabled tokensCount usdcCount)
    .ok { w with app }
  | rail call => call.apply keccak256 d .destination w

/-- The calls made from inside a guarded call of the destination chain. -/
def inside_destination (calls : List OpenCall) (w : World) : World :=
  calls.foldl (fun w call => attempt (fun w => call.apply keccak256 d w) w) w

/-- The calls made from inside a guarded call of the origin chain. -/
def inside_origin (calls : List RailCall) (w : World) : World :=
  calls.foldl (fun w call => attempt (fun w => call.apply keccak256 d .origin w) w) w

/-- A contract records a proof with the outbox of its chain. -/
def World.record (w : World) (side : Side) (caller : Address) (orderId : B256) (kind : ProofKind)
    (payload : Bytes) : Except OutboxError World := do
  let outbox ← (w.outbox side).record keccak256 (d.outbox side) caller orderId kind payload
  .ok ({ w with outbox := Mapping.set w.outbox side outbox }.hashing
    [ProofHashLib.encode kind payload])

/-! ## The application -/

/-- What the outside answers a fill, and the calls made from inside it. -/
structure FillOutside where
  timestamp : U256
  isValidSignature : Address → B256 → Bytes → Bool
  delivery : CrossChainAquaApp.DeliveryOutside
  calls : List OpenCall

open CrossChainAquaApp in
/-- The state once the asset is delivered: the receivable is open and the order,
    the quote and the fill id are hashed. -/
def World.delivered (w : World) (app : CrossChainAquaApp) (order : SolventCrossChainOrder)
    (fill : VerifiedFill) (quoteHash : B256) (received : U256) : World :=
  ({ w with app }.hashing [CrossChainHashLib.order_bytes keccak256 order,
    typed_bytes keccak256 d.app quoteHash,
    fill_id_bytes d.app (CrossChainHashLib.hashOrder keccak256 order)]).emit
      (.Delivered order fill received)

/-- Where both fills end: deliver for the opened receivable, then record. The
    recipient and the tokens are called on the way to the readings, so the calls
    from inside run before the record. -/
def deliver_and_record (w : World) (app : CrossChainAquaApp) (o : FillOutside)
    (order : SolventCrossChainOrder) (fill : VerifiedFill) (quoteHash : B256) :
    Except AppError World := do
  let received ← CrossChainAquaApp.deliver o.delivery order fill.outputAmount
  let w := inside_destination keccak256 d o.calls
    (w.delivered keccak256 d app order fill quoteHash received)
  bubble .Outbox (w.record keccak256 d .destination d.app.this
    (CrossChainHashLib.hashOrder keccak256 order) .Fill (encode fill))

open CrossChainAquaApp in
def fillDirect (w : World) (caller : Address) (o : FillOutside) (order : SolventCrossChainOrder)
    (mandate : SolventMandate) (quote : DirectMakerQuote) (makerSignature : Bytes) :
    Except AppError World := do
  let orderId := CrossChainHashLib.hashOrder keccak256 order
  _validateOrder d.app caller o.timestamp order .DirectMaker
  _validateMandate order mandate orderId
  _validateQuote keccak256 d.app o.timestamp o.isValidSignature order quote orderId makerSignature
  let app ← w.app.open_direct keccak256 d.app o.timestamp order quote
  deliver_and_record keccak256 d w app o order (direct_fill keccak256 d.app order quote)
    (CrossChainHashLib.hashDirectQuote keccak256 quote)

open CrossChainAquaApp in
def fillCredit (w : World) (caller : Address) (o : FillOutside) (order : SolventCrossChainOrder)
    (mandate : SolventMandate) (quote : MakerCreditQuote) (makerSignature : Bytes) :
    Except AppError World := do
  let orderId := CrossChainHashLib.hashOrder keccak256 order
  _validateOrder d.app caller o.timestamp order .TwoMakerCredit
  _validateMandate order mandate orderId
  _validateCreditQuote keccak256 d.app o.timestamp o.isValidSignature order quote orderId
    makerSignature
  let app ← w.app.open_credit keccak256 d.app o.timestamp order quote
  deliver_and_record keccak256 d w app o order (credit_fill keccak256 d.app order quote)
    (CrossChainHashLib.hashCreditQuote keccak256 quote)

/-- What USDC, Aqua and the transmitter answer a completion. -/
structure CompletionOutside where
  /-- `MESSAGE_TRANSMITTER.receiveMessage` returns `true`. -/
  receiveMessage : Bytes → Bytes → Bool
  balanceBefore : U256
  balanceAfterMint : U256
  balanceAtEnd : U256
  tokensCount : Uint8
  /-- The payments to the maker and to the fee recipient succeed. -/
  pay : Bool
  calls : List OpenCall

open CrossChainAquaApp in
def completeRepayment (w : World) (o : CompletionOutside) (orderId : B256)
    (message attestation : Bytes) : Except AppError World := do
  let receivable := w.app.creditReceivables orderId
  require (receivable.state = .Delivered) .InvalidCctpMessage
  let parsed ← expect (CctpMessageLib.parse message)
    (.InvalidMessageLength message.length CctpMessageLib.MESSAGE_LENGTH)
  _validateCctpMessage d.app orderId receivable parsed
  let app ← w.app.close_credit orderId
  let w := inside_destination keccak256 d o.calls { w with app }
  require (o.receiveMessage message attestation = true) .CctpReceiveFailed
  let expectedMint ← expect (parsed.amount.checked_sub parsed.feeExecuted) .Panic
  let minted := o.balanceAfterMint.saturating_sub o.balanceBefore
  require (minted = expectedMint) (.UnexpectedUsdcDelta expectedMint minted)
  require (o.pay = true) .CallFailed
  let surplus ← expect (expectedMint.checked_sub receivable.usdcDue) .Panic
  require (o.balanceAtEnd = o.balanceBefore) (.UnexpectedUsdcDelta o.balanceBefore o.balanceAtEnd)
  .ok (w.emit (.CreditRepaid orderId receivable.maker receivable.usdcDue
    (if active o.tokensCount then some receivable.destinationStrategyHash else none) surplus))

open CrossChainAquaApp in
def confirmDirectRepayment (w : World) (orderId : B256) (repaymentProof : Bytes) :
    Except AppError World := do
  let repayment ← bubble .Inbox ((w.inbox .destination).verifyRepayment repaymentProof)
  let app ← w.app.close_direct d.app orderId repayment
  .ok { w with app }

/-! ## The settler -/

/-- What the input token, The Compact and Aqua answer a direct settlement. -/
structure DirectOutside where
  balanceBefore : U256
  balanceAfterClaim : U256
  balanceAtEnd : U256
  /-- `COMPACT.claim` succeeds. -/
  claim : Bool
  tokensCount : Uint8
  /-- The payment to the maker succeeds. -/
  pay : Bool
  calls : List RailCall

open CompactOriginSettler in
def settleDirect (w : World) (o : DirectOutside) (order : SolventCrossChainOrder)
    (mandate : SolventMandate) (fillProof : Bytes) (compactClaim : Claim) :
    Except SettlerError World := do
  let orderId := CrossChainHashLib.hashOrder keccak256 order
  _validateOrder d.settler order .DirectMaker
  _validateMandate order mandate orderId
  let fill ← bubble .Inbox ((w.inbox .origin).verifyFill fillProof)
  _validateFill d.settler order orderId fill
  w.settler.unused orderId fill.fillId
  _validateClaim keccak256 d.settler order mandate compactClaim
  let w := { w with settler := w.settler.mark orderId fill.fillId }.hashing
    [CrossChainHashLib.order_bytes keccak256 order]
  require (o.claim = true) .CallFailed
  let claimed := o.balanceAfterClaim.saturating_sub o.balanceBefore
  require (claimed = fill.repaymentAmount)
    (.UnexpectedRepaymentDelta fill.repaymentAmount claimed)
  let w := inside_origin keccak256 d o.calls (w.emit (.Claimed order compactClaim claimed))
  require (o.pay = true) .CallFailed
  require (o.balanceAtEnd = o.balanceBefore)
    (.UnexpectedRepaymentDelta o.balanceBefore o.balanceAtEnd)
  let w := w.emit (.Repaid order fill.destinationMaker order.inputToken fill.repaymentAmount
    (if CrossChainAquaApp.active o.tokensCount then some fill.originStrategyHash else none))
  let repayment := recorded_repayment keccak256 d.settler orderId fill
  let w := w.hashing [repayment_id_bytes d.settler orderId]
  bubble .Outbox (w.record keccak256 d .origin d.settler.this orderId .DirectRepayment
    (encode repayment))

/-- What the tokens, The Compact, the router and the messenger answer a routed
    settlement. -/
structure RoutedOutside where
  inputBalanceBefore : U256
  inputBalanceAfterClaim : U256
  inputBalanceAtEnd : U256
  usdcBalanceBefore : U256
  usdcBalanceAfterSwap : U256
  usdcBalanceAtEnd : U256
  /-- `COMPACT.claim` succeeds. -/
  claim : Bool
  /-- The amounts in and out of a swap of the maker's order for at least a
      minimum output. -/
  swap : SwapOrder → U256 → Option (U256 × U256)
  /-- The burn and the transfer of the surplus succeed. -/
  burn : Bool
  calls : List RailCall

open CompactOriginSettler in
def settleRouted (w : World) (o : RoutedOutside) (order : SolventCrossChainOrder)
    (mandate : SolventMandate) (fillProof : Bytes) (compactClaim : Claim)
    (makerOrder : SwapOrder) : Except SettlerError World := do
  let orderId := CrossChainHashLib.hashOrder keccak256 order
  _validateOrder d.settler order .TwoMakerCredit
  _validateMandate order mandate orderId
  let fill ← bubble .Inbox ((w.inbox .origin).verifyFill fillProof)
  _validateRoutedFill d.settler order orderId fill
  w.settler.unused orderId fill.fillId
  _validateClaim keccak256 d.settler order mandate compactClaim
  let w := { w with settler := w.settler.mark orderId fill.fillId }.hashing
    [CrossChainHashLib.order_bytes keccak256 order]
  require (o.claim = true) .CallFailed
  let claimed := o.inputBalanceAfterClaim.saturating_sub o.inputBalanceBefore
  require (claimed = order.inputAmount) (.UnexpectedRepaymentDelta order.inputAmount claimed)
  let burnAmount ← expect (fill.repaymentAmount.checked_add fill.maxCctpFee) .Panic
  let w := inside_origin keccak256 d o.calls (w.emit (.Claimed order compactClaim claimed))
  let (amountIn, amountOut) ← expect (o.swap makerOrder burnAmount) .CallFailed
  let received := o.usdcBalanceAfterSwap.saturating_sub o.usdcBalanceBefore
  require (amountIn = order.inputAmount ∧ amountOut = received ∧ burnAmount ≤ received)
    .InvalidSwapResult
  require (o.burn = true) .CallFailed
  require (o.inputBalanceAtEnd = o.inputBalanceBefore)
    (.UnexpectedTokenBalance d.settler.ORIGIN_TOKEN o.inputBalanceBefore o.inputBalanceAtEnd)
  require (o.usdcBalanceAtEnd = o.usdcBalanceBefore)
    (.UnexpectedTokenBalance d.settler.ORIGIN_USDC o.usdcBalanceBefore o.usdcBalanceAtEnd)
  .ok (w.emit (.Burned order (routed_burn d.settler orderId burnAmount fill)))

/-! ## Steps -/

/-- One transaction on either chain. -/
inductive Action where
  | open_destination (call : OpenCall)
  | open_origin (call : RailCall)
  | fillDirect (caller : Address) (outside : FillOutside) (order : SolventCrossChainOrder)
      (mandate : SolventMandate) (quote : DirectMakerQuote) (makerSignature : Bytes)
  | fillCredit (caller : Address) (outside : FillOutside) (order : SolventCrossChainOrder)
      (mandate : SolventMandate) (quote : MakerCreditQuote) (makerSignature : Bytes)
  | completeRepayment (outside : CompletionOutside) (orderId : B256)
      (message attestation : Bytes)
  | confirmDirectRepayment (orderId : B256) (repaymentProof : Bytes)
  | settleDirect (outside : DirectOutside) (order : SolventCrossChainOrder)
      (mandate : SolventMandate) (fillProof : Bytes) (compactClaim : Claim)
  | settleRouted (outside : RoutedOutside) (order : SolventCrossChainOrder)
      (mandate : SolventMandate) (fillProof : Bytes) (compactClaim : Claim)
      (makerOrder : SwapOrder)

def Action.apply (w : World) : Action → Except Revert World
  | open_destination call => call.apply keccak256 d w
  | open_origin call => call.apply keccak256 d .origin w
  | fillDirect caller o order mandate quote makerSignature =>
    bubble .App (Contracts.fillDirect keccak256 d w caller o order mandate quote makerSignature)
  | fillCredit caller o order mandate quote makerSignature =>
    bubble .App (Contracts.fillCredit keccak256 d w caller o order mandate quote makerSignature)
  | completeRepayment o orderId message attestation =>
    bubble .App (Contracts.completeRepayment keccak256 d w o orderId message attestation)
  | confirmDirectRepayment orderId repaymentProof =>
    bubble .App (Contracts.confirmDirectRepayment d w orderId repaymentProof)
  | settleDirect o order mandate fillProof compactClaim =>
    bubble .Settler (Contracts.settleDirect keccak256 d w o order mandate fillProof compactClaim)
  | settleRouted o order mandate fillProof compactClaim makerOrder =>
    bubble .Settler
      (Contracts.settleRouted keccak256 d w o order mandate fillProof compactClaim makerOrder)

/-- One transaction; one that reverts changes nothing. -/
def step (w : World) (a : Action) : World := attempt (fun w => a.apply keccak256 d w) w

end Calls

end Solvent.Contracts
