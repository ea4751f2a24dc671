import Solvent.Framework.Bank
import Solvent.Contracts.Continuation
import Solvent.Contracts.Filler

/-! # A same-chain fill

    What `Erc7683AquaFiller.fill` does once its plan is authorized. Every leg is a
    swap of the router, and each leg runs inside the callback of the one before:

    * the router sends a leg's output to the filler and calls the filler back,
    * the callback starts the next leg, or settles the order after the last,
    * the router then pulls the leg's input.

    So the legs start in the plan's order, the settler exchanges the user's input
    for the output in the innermost callback, and the pulls come in reverse.

    The router, Permit2 and the tokens are not part of the repository. Tokens are a
    `Bank`, Permit2 spends a nonce a transfer, and `Router` carries what the filler
    relies on.
-/

namespace Solvent.Contracts

open Abi Contract
open Bank (TokenError Rules)

/-! ## The chain -/

/-- The arguments of `TakerTraitsLib.build` that decide what a swap does. -/
structure TakerTraits where
  taker : Address
  isExactIn : Bool
  isFirstTransferFromTaker : Bool
  threshold : U256
  /-- `to`, zero for the taker. -/
  dst : Address
  hasPreTransferInCallback : Bool
  hasPreTransferOutCallback : Bool
  preTransferInCallbackData : Bytes

/-- The arguments of `ISwapVM.swap`. -/
structure SwapCall where
  order : SwapOrder
  tokenIn : Address
  tokenOut : Address
  amount : U256
  takerTraits : TakerTraits

/-- What is seen of a call from outside: the token transfers, the events of the two
    contracts, and where a swap starts and ends. -/
inductive FillEvent where
  | SwapEntered (order : SwapOrder) (tokenIn tokenOut : Address) (amountOut threshold : U256)
  | Transfer (t : Bank.Transfer Address Address)
  | SwapReturned (order : SwapOrder)
  | Settled (orderId : B256) (filler user recipient inputToken outputToken : Address)
      (inputAmount outputAmount : U256)
  | Filled (orderId : B256) (user recipient paymentRecipient inputToken outputToken : Address)
      (inputAmount outputAmount earned : U256)

structure FillState where
  filler : Erc7683AquaFiller
  /-- Transient: whose callbacks the filler takes. -/
  _routerInFlight : Address
  /-- The settler's transient lock of `nonReentrant`. -/
  settling : Bool
  tokens : Bank Address Address
  /-- The nonces Permit2 has spent, by owner. -/
  nonceBitmap : Address → Bitmap
  log : List FillEvent

/-- The immutables of the filler. -/
structure FillConfig extends FillerConfig where
  ROUTER : Address

/-- How the router answers a swap: who sends the output, who is sent the input, and
    how much input that is. -/
structure Answer where
  payer : Address
  payee : Address
  amountIn : U256

/-- The router's exact-output swaps. The maker's side of a swap is not the taker,
    and the input stays within the taker's threshold. -/
structure Router where
  answer : FillState → SwapCall → Option Answer
  payer_ne : ∀ {w call a}, answer w call = some a → a.payer ≠ call.takerTraits.taker
  payee_ne : ∀ {w call a}, answer w call = some a → a.payee ≠ call.takerTraits.taker
  amountIn_le : ∀ {w call a}, answer w call = some a → a.amountIn ≤ call.takerTraits.threshold

/-- The contracts around the filler and its settler. -/
structure AroundFill (keccak256 : Bytes → B256)
    (ecrecover : B256 → Bool → Bytes → Option Address) where
  rules : Rules Address Address
  router : Router
  permit2 : Permit2 keccak256 ecrecover
  /-- `balanceOf` of the settler's taker credential. -/
  credential : Address → U256

/-! ## Tokens and Permit2 -/

namespace FillState

def emit (w : FillState) (event : FillEvent) : FillState := { w with log := w.log ++ [event] }

section Tokens

variable (rules : Rules Address Address)

def safeTransfer (w : FillState) (t : Bank.Transfer Address Address) :
    Except TokenError FillState := do
  let tokens ← w.tokens.transfer rules t
  .ok ({ w with tokens }.emit (.Transfer t))

def safeTransferFrom (w : FillState) (spender : Address) (t : Bank.Transfer Address Address) :
    Except TokenError FillState := do
  let tokens ← w.tokens.transfer_from rules spender t
  .ok ({ w with tokens }.emit (.Transfer t))

def forceApprove (w : FillState) (token owner spender : Address) (value : U256) :
    Except TokenError FillState := do
  let tokens ← w.tokens.force_approve rules token owner spender value
  .ok { w with tokens }

end Tokens

end FillState

inductive Permit2Error where
  | InvalidAmount (maxAmount : U256)
  | InvalidNonce
  | InvalidSigner
  | SignatureExpired (signatureDeadline : U256)
  | Token (error : TokenError)
  deriving DecidableEq

section Permit2

variable {keccak256 : Bytes → B256} {ecrecover : B256 → Bool → Bytes → Option Address}
variable (o : AroundFill keccak256 ecrecover)

/-- A nonce of its owner is spent with the transfer. -/
def permitWitnessTransferFrom (w : FillState) (timestamp : U256) (t : WitnessTransfer)
    (dst : Address) (requestedAmount : U256) (owner : Address) (signature : Bytes) :
    Except Permit2Error FillState := do
  require (timestamp ≤ t.deadline) (.SignatureExpired t.deadline)
  require (requestedAmount ≤ t.amount) (.InvalidAmount t.amount)
  require ((w.nonceBitmap owner).is_set t.nonce = false) .InvalidNonce
  require (o.permit2.verifies signature (o.permit2.digest t) owner = true) .InvalidSigner
  let nonceBitmap := Mapping.set w.nonceBitmap owner ((w.nonceBitmap owner).mark t.nonce)
  bubble .Token ({ w with nonceBitmap }.safeTransferFrom o.rules o.permit2.this
    { token := t.token, src := owner, dst, amount := requestedAmount })

end Permit2

/-! ## The settlement -/

inductive SettleError where
  | Checks (error : SameChainError)
  | OutputBalanceInsufficient (available required : U256)
  | Panic
  | Permit2 (error : Permit2Error)
  | ReentrancyGuardReentrantCall
  | Token (error : TokenError)
  | TokenBalanceMismatch (token account : Address) (expected actual : U256)
  deriving DecidableEq

namespace SolventSameChainSettler

variable {keccak256 : Bytes → B256} {ecrecover : B256 → Bool → Bytes → Option Address}
variable (cfg : FillConfig) (reads : FillReads) (o : AroundFill keccak256 ecrecover)

def _requireBalance (w : FillState) (token account : Address) (expected : U256) :
    Except SettleError Unit :=
  require (w.tokens.balanceOf token account = expected)
    (.TokenBalanceMismatch token account expected (w.tokens.balanceOf token account))

def settle (w : FillState) (sender : Address) (order : Solvent7683Order)
    (permitSignature : Bytes) : Except SettleError FillState := do
  require (w.settling = false) .ReentrancyGuardReentrantCall
  let id ← bubble .Checks
    (settle_checks keccak256 cfg.SETTLER o.credential reads.timestamp sender order)
  let fillerInputBefore := w.tokens.balanceOf order.inputToken sender
  let w ← bubble .Permit2 (permitWitnessTransferFrom o { w with settling := true } reads.timestamp
    (settle_transfer keccak256 cfg.SETTLER order) sender order.inputAmount order.user
    permitSignature)
  let filled ← expect (fillerInputBefore.checked_add order.inputAmount) .Panic
  _requireBalance w order.inputToken sender filled
  let fillerOutputBefore := w.tokens.balanceOf order.outputToken sender
  require (order.outputAmount ≤ fillerOutputBefore)
    (.OutputBalanceInsufficient fillerOutputBefore order.outputAmount)
  let recipientOutputBefore := w.tokens.balanceOf order.outputToken order.recipient
  let w ← bubble .Token (w.safeTransferFrom o.rules cfg.SETTLER.this
    { token := order.outputToken, src := sender, dst := order.recipient
      amount := order.outputAmount })
  let left ← expect (fillerOutputBefore.checked_sub order.outputAmount) .Panic
  _requireBalance w order.outputToken sender left
  let received ← expect (recipientOutputBefore.checked_add order.outputAmount) .Panic
  _requireBalance w order.outputToken order.recipient received
  .ok ({ w with settling := false }.emit (.Settled id sender order.user order.recipient
    order.inputToken order.outputToken order.inputAmount order.outputAmount))

end SolventSameChainSettler

/-! ## The legs -/

inductive LegError where
  | CallbackUnauthorized (caller expected : Address)
  /-- The bound on nested legs, which no plan reaches. -/
  | OutOfFuel
  | Panic
  | Router
  | Settler (error : SettleError)
  | Token (error : TokenError)
  | Undecodable
  deriving DecidableEq

section Swap

variable {keccak256 : Bytes → B256} {ecrecover : B256 → Bool → Bytes → Option Address}
variable (cfg : FillConfig) (o : AroundFill keccak256 ecrecover)

/-- An exact-output swap of the router whose taker asked to be called back before
    its input is pulled. -/
def swap (preTransferInCallback : FillState → Address → Bytes → Except LegError FillState)
    (w : FillState) (call : SwapCall) : Except LegError FillState := do
  let traits := call.takerTraits
  require (traits.isExactIn = false ∧ traits.isFirstTransferFromTaker = false ∧
    traits.hasPreTransferInCallback = true ∧ traits.hasPreTransferOutCallback = false) .Router
  let a ← expect (o.router.answer w call) .Router
  let w := w.emit (.SwapEntered call.order call.tokenIn call.tokenOut call.amount traits.threshold)
  let w ← bubble .Token (w.safeTransfer o.rules
    { token := call.tokenOut, src := a.payer
      dst := if traits.dst = 0 then traits.taker else traits.dst, amount := call.amount })
  let w ← preTransferInCallback w cfg.ROUTER traits.preTransferInCallbackData
  let w ← bubble .Token (w.safeTransferFrom o.rules cfg.ROUTER
    { token := call.tokenIn, src := traits.taker, dst := a.payee, amount := a.amountIn })
  .ok (w.emit (.SwapReturned call.order))

end Swap

inductive FillError where
  | AssetBalanceDecreased (token : Address) (balanceBefore balanceAfter : U256)
  | Checks (error : FillerError)
  | ExecutorFeeNotEarned (earned required : U256)
  | Leg (error : LegError)
  | Panic
  | Token (error : TokenError)
  | TokenBalanceMismatch (token account : Address) (expected actual : U256)
  deriving DecidableEq

namespace Erc7683AquaFiller

variable {keccak256 : Bytes → B256} {ecrecover : B256 → Bool → Bytes → Option Address}
variable (cfg : FillConfig) (reads : FillReads) (o : AroundFill keccak256 ecrecover)

def _takerTraits (maxInput : U256) (callbackData : Bytes) : TakerTraits where
  taker := cfg.this
  isExactIn := false
  isFirstTransferFromTaker := false
  threshold := maxInput
  dst := 0
  hasPreTransferInCallback := true
  hasPreTransferOutCallback := false
  preTransferInCallbackData := callbackData

/-- The callback of a leg, given how the next one is started. -/
def preTransferInCallback
    (sourceLeg : FillState → U256 → Bytes → Bytes → List SourceSwap → Except LegError FillState)
    (w : FillState) (caller : Address) (takerData : Bytes) : Except LegError FillState := do
  require (caller = w._routerInFlight) (.CallbackUnauthorized caller w._routerInFlight)
  let c ← expect (Continuation.abi_decode takerData) .Undecodable
  if c.next.val < c.sources.length then
    sourceLeg w c.next c.orderData c.permitSignature c.sources
  else do
    let order ← expect (decode c.orderData) .Undecodable
    let w ← bubble .Token (w.forceApprove o.rules order.outputToken cfg.this cfg.SETTLER.this
      order.outputAmount)
    let w ← bubble .Settler (SolventSameChainSettler.settle cfg reads o w cfg.this order
      c.permitSignature)
    bubble .Token (w.forceApprove o.rules order.outputToken cfg.this cfg.SETTLER.this 0)

/-- The leg at `index`, with those after it inside its callback. -/
def _sourceLeg : ℕ → FillState → U256 → Bytes → Bytes → List SourceSwap →
    Except LegError FillState
  | 0, _, _, _, _, _ => .error .OutOfFuel
  | fuel + 1, w, index, orderData, permitSignature, sources => do
    let source ← expect sources[index.val]? .Panic
    let next ← expect (index.checked_add 1) .Panic
    let continuation ← expect
      (Continuation.abi_encode { orderData, permitSignature, sources, next }) .Panic
    swap cfg o (preTransferInCallback cfg reads o (_sourceLeg fuel)) w {
      order := source.order
      tokenIn := source.authorization.tokenIn
      tokenOut := source.authorization.tokenOut
      amount := source.authorization.amountOut
      takerTraits := _takerTraits cfg source.authorization.amountInLimit continuation }

/-! ## The fill -/

/-- Add to the sum of a token, or start one. -/
def _accumulateAmount : List (Address × U256) → Address → U256 → Option (List (Address × U256))
  | [], token, amount => some [(token, amount)]
  | (t, sum) :: sums, token, amount =>
    if t = token then (sum.checked_add amount).map fun sum => (t, sum) :: sums
    else (_accumulateAmount sums token amount).map ((t, sum) :: ·)

/-- The first loop of `_approveInputs`. -/
def accumulate_inputs : List SourceSwap → List (Address × U256) → Option (List (Address × U256))
  | [], sums => some sums
  | source :: sources, sums => do
    let sums ← _accumulateAmount sums source.authorization.tokenIn
      source.authorization.amountInLimit
    accumulate_inputs sources sums

/-- The second loop of `_approveInputs`. -/
def approve_sums (grant : Bool) : List (Address × U256) → FillState → Except FillError FillState
  | [], w => .ok w
  | (token, sum) :: sums, w => do
    let w ← bubble .Token
      (w.forceApprove o.rules token cfg.this cfg.ROUTER (if grant then sum else 0))
    approve_sums grant sums w

def _approveInputs (w : FillState) (sources : List SourceSwap) (grant : Bool) :
    Except FillError FillState := do
  let sums ← expect (accumulate_inputs sources []) .Panic
  approve_sums cfg o grant sums w

def _requireBalance (w : FillState) (token account : Address) (expected : U256) :
    Except FillError Unit :=
  require (w.tokens.balanceOf token account = expected)
    (.TokenBalanceMismatch token account expected (w.tokens.balanceOf token account))

def _safeTransferExact (w : FillState) (token recipient : Address) (amount remaining : U256) :
    Except FillError FillState := do
  let balanceBefore := w.tokens.balanceOf token recipient
  let w ← bubble .Token
    (w.safeTransfer o.rules { token, src := cfg.this, dst := recipient, amount })
  let received ← expect (balanceBefore.checked_add amount) .Panic
  _requireBalance w token recipient received
  _requireBalance w token cfg.this remaining
  .ok w

def fill (w : FillState) (caller : Address) (orderData permitSignature sourceData : Bytes)
    (paymentRecipient : Address) : Except FillError (FillState × U256) := do
  let (filler, order, sources) ← bubble .Checks (fill_checks keccak256 cfg.toFillerConfig reads
    w.filler caller orderData sourceData paymentRecipient)
  let inputBefore := w.tokens.balanceOf order.inputToken cfg.this
  let outputBefore := w.tokens.balanceOf order.outputToken cfg.this
  let w ← _approveInputs cfg o { w with filler } sources true
  -- Each leg nests one call deeper, so there are as many levels as legs.
  let w ← bubble .Leg (_sourceLeg cfg reads o sources.length
    { w with _routerInFlight := cfg.ROUTER } 0 orderData permitSignature sources)
  let w ← _approveInputs cfg o { w with _routerInFlight := 0 } sources false
  let inputAfter := w.tokens.balanceOf order.inputToken cfg.this
  require (inputBefore ≤ inputAfter) (.AssetBalanceDecreased order.inputToken inputBefore inputAfter)
  let earned ← expect (inputAfter.checked_sub inputBefore) .Panic
  require (order.executorFee ≤ earned) (.ExecutorFeeNotEarned earned order.executorFee)
  _requireBalance w order.outputToken cfg.this outputBefore
  let w ← _safeTransferExact cfg o w order.inputToken paymentRecipient earned inputBefore
  .ok ({ w with filler := { w.filler with entered := false } }.emit
    (.Filled (SolventSameChainSettler.orderId keccak256 order) order.user order.recipient
      paymentRecipient order.inputToken order.outputToken order.inputAmount order.outputAmount
      earned), earned)

end Erc7683AquaFiller

end Solvent.Contracts
