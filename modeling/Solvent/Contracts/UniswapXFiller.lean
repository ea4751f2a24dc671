import Solvent.Framework.Bank
import Solvent.Framework.Tally
import Solvent.Contracts.Continuation

/-! # The UniswapX filler

    `UniswapXAquaFiller` with whatever surrounds it. A call that leaves the
    contract hands control to the outside, which may enter the contract again
    before it returns: the router and the tokens however they like, the reactor
    with a callback that carries the data it was given. An inner call that reverts
    is undone and does not stop the outer one.

    `Outside` is the strategy of the outside. It sees the whole state and its log
    before it acts, so it stands for every behaviour. The nesting is bounded by a
    parameter the theorems leave open.
-/

namespace Solvent.Contracts

open Abi Contract
open Bank (TokenError Rules)

/-! ## Orders -/

/-- A UniswapX order as it is signed. -/
structure SignedOrder where
  order : Bytes
  sig : Bytes
  deriving DecidableEq

/-- An output the reactor has resolved. -/
structure OutputToken where
  token : Address
  amount : U256
  deriving DecidableEq

structure ResolvedOrder where
  outputs : List OutputToken
  deriving DecidableEq

namespace SignedOrder

def parts (order : SignedOrder) : List Part := [.bytes order.order, .bytes order.sig]

/-- `abi.encode(order)` -/
def encode (order : SignedOrder) : Bytes := tuple [.behind (tuple order.parts)]

/-- `abi.encode(orders)` -/
def encode_array (orders : List SignedOrder) : Bytes :=
  tuple [.behind (word (Fin.ofNat _ orders.length) ++
    tuple (orders.map fun order => .behind (tuple order.parts)))]

end SignedOrder

/-- What the reactor is given to hand back. -/
structure CallbackData where
  contextHash : B256
  sources : List SourceSwap

namespace CallbackData

def parts (c : CallbackData) : List Part :=
  [.here [c.contextHash], .behind (SourceSwap.encode_array c.sources)]

/-- `abi.encode(contextHash, sources)` -/
def abi_encode (c : CallbackData) : Option Bytes :=
  if (tuple c.parts).length < 2 ^ 64 then some (tuple c.parts) else none

/-- `abi.decode(data, (bytes32, SourceSwap[]))` -/
def abi_decode (data : Bytes) : Option CallbackData := do
  let [.here [contextHash], .behind sources] ← read_slots data [some 1, none] data | none
  let sources ← SourceSwap.read_array sources
  some { contextHash, sources }

/-- **Round trip.** -/
theorem decode_encode {c : CallbackData} {data : Bytes} (h : c.abi_encode = some data) :
    abi_decode data = some c := by
  unfold abi_encode at h
  split at h
  case isFalse => cases h
  rename_i hfits
  obtain rfl := Option.some.inj h
  have hlt : (tuple c.parts).length < 2 ^ 256 := hfits.trans (by norm_num)
  have hread := read_slots_tuple hlt []
  have hshapes : c.parts.map Part.shape = [some 1, none] := rfl
  rw [hshapes, List.append_nil] at hread
  have hsources : .behind (SourceSwap.encode_array c.sources) ∈ c.parts :=
    List.mem_of_getElem? (i := 1) rfl
  unfold abi_decode
  rw [hread]
  simp only [parts, slots, Option.bind_eq_bind, Option.bind_some,
    SourceSwap.read_array_append ((length_behind_le hsources).trans_lt hlt)]

end CallbackData

/-! ## The contract -/

/-- The storage of `UniswapXAquaFiller`. -/
structure UniswapXAquaFiller where
  owner : Address
  paused : Bool
  /-- The transient lock of `nonReentrant`. -/
  entered : Bool
  policy : Policy
  /-- Transient: whose callback is taken. -/
  _reactorInFlight : Address

/-- The immutables of the filler. -/
structure UniswapXConfig extends PolicyConfig where
  ROUTER : Address
  REACTOR : Address

/-- What is recorded of a call: the authorizations accepted, with the path and the
    context they were accepted for and who was the signer, the swaps run for them,
    and the owner's changes. -/
inductive UniswapXEvent where
  | Authorized (path : ExecutionKind) (context : B256) (a : Authorization) (signature : Bytes)
      (signer : Address)
  | Swap (a : Authorization)
  | NoncesInvalidated (word mask : U256)
  | PolicySignerUpdated (previousSigner newSigner : Address)

structure UniswapXState where
  filler : UniswapXAquaFiller
  tokens : Bank Address Address
  /-- What the reactor in flight was given. -/
  data : Option Bytes
  /-- Everything else on the chain. -/
  rest : ℕ
  log : List UniswapXEvent

/-- The entry points. -/
inductive UniswapXCall where
  | fill (order : SignedOrder) (sources : List SourceSwap)
  | fillBatch (orders : List SignedOrder) (sources : List SourceSwap)
  | executeRebate (order : SwapOrder) (a : Authorization) (signature : Bytes)
  | reactorCallback (orders : List ResolvedOrder) (data : Bytes)
  | setPolicySigner (newSigner : Address)
  | setTokenAllowed (token : Address) (allowed : Bool)
  | invalidateNonces (word mask : U256)
  | pause
  | unpause
  | sweep (token dst : Address)

inductive UniswapXError where
  | AssetBalanceDecreased (token : Address) (balanceBefore balanceAfter : U256)
  | AuthorizationContextMismatch (supplied expected : B256)
  | CallbackUnauthorized (caller expected : Address)
  | EnforcedPause
  | ExpectedPause
  | InsufficientSourcedOutput (token : Address) (required sourced : U256)
  | InvalidExecutionKind (supplied expected : ExecutionKind)
  /-- The bound on nested calls. -/
  | OutOfFuel
  | OutputNotSourced (token : Address)
  | OwnableUnauthorizedAccount (account : Address)
  | Panic
  | Policy (error : PolicyError)
  | RebateRequired
  | RecipientBalanceMismatch (token recipient : Address) (expected actual : U256)
  | ReentrancyGuardReentrantCall
  /-- What was called reverts. -/
  | Reverted
  | Token (error : TokenError)
  | TokenBalanceMismatch (token : Address) (expected actual : U256)
  | Undecodable
  | UnexpectedRebate (amount : U256)
  | ZeroAddress
  deriving DecidableEq

/-! ## The outside -/

/-- A call that leaves the contract. -/
inductive Site where
  | swap (order : SwapOrder) (tokenIn tokenOut : Address) (amountOut threshold : U256)
      (strict : Bool)
  | execute (orders : List SignedOrder) (data : Bytes)
  | safeTransferFrom (token src dst : Address) (amount : U256)
  | safeTransfer (token dst : Address) (amount : U256)

/-- What happens on the chain without the contract. -/
inductive Drift where
  /-- A balance becomes whatever a token makes of it. -/
  | balance (token account : Address) (value : U256)
  /-- A spender uses an allowance of the filler. -/
  | spend (token spender : Address) (left : U256)
  | rest (value : ℕ)

/-- What the outside does while it has control. -/
inductive OutsideStep where
  | enter (caller : Address) (call : UniswapXCall)
  /-- The reactor calls back with the data it was given. -/
  | callback (orders : List ResolvedOrder)
  | drift (d : Drift)

/-- How the outside answers, and what it reports of itself. -/
structure Outside (cfg : UniswapXConfig) where
  /-- `none` where the call reverts. -/
  answers : UniswapXState → Site → Option (List OutsideStep)
  rules : Rules Address Address
  /-- `block.number` -/
  number : U256
  /-- `ROUTER.hash` -/
  router_hash : UniswapXState → SwapOrder → B256
  /-- Only the reactor speaks for the reactor, and nobody for the zero address. -/
  strangers : ∀ {w site steps}, answers w site = some steps → ∀ {caller orders data},
    .enter caller (.reactorCallback orders data) ∈ steps → caller ≠ 0 ∧ caller ≠ cfg.REACTOR

namespace UniswapXState

def emit (w : UniswapXState) (event : UniswapXEvent) : UniswapXState :=
  { w with log := w.log ++ [event] }

end UniswapXState

namespace UniswapXAquaFiller

/-! ## Accounting -/

def _pushUnique (tokens : List Address) (token : Address) : List Address :=
  if token ∈ tokens then tokens else tokens ++ [token]

/-- The tokens of a plan. -/
def snapshot_tokens (sources : List SourceSwap) : List Address :=
  sources.foldl (fun tokens source => _pushUnique
    (_pushUnique tokens source.authorization.tokenIn) source.authorization.tokenOut) []

def _accumulateAmount (sums : List (Address × U256)) (token : Address) (amount : U256) :
    Option (List (Address × U256)) :=
  Tally.add sums token amount

/-- The outputs of all orders, in the order of the two loops of `_approveOutputs`. -/
def output_entries (orders : List ResolvedOrder) : List (Address × U256) :=
  orders.flatMap fun order => order.outputs.map fun output => (output.token, output.amount)

/-- The loops of `_approveOutputs` that add the outputs up. -/
def accumulate_outputs (entries : List (Address × U256)) : Option (List (Address × U256)) :=
  entries.foldlM (fun sums entry => _accumulateAmount sums entry.1 entry.2) []

def _sourcedAmount : List SourceSwap → Address → U256 → Option U256
  | [], _, amount => some amount
  | source :: sources, token, amount =>
    if source.authorization.tokenOut = token then do
      let amount ← amount.checked_add source.authorization.amountOut
      _sourcedAmount sources token amount
    else _sourcedAmount sources token amount

section Functions

variable (keccak256 : Bytes → B256) (recover : B256 → Bytes → Option Address)
variable (cfg : UniswapXConfig) (o : Outside cfg)

def userFillContext (order : SignedOrder) : B256 := keccak256 order.encode

def userFillBatchContext (orders : List SignedOrder) : B256 :=
  keccak256 (SignedOrder.encode_array orders)

def reads (w : UniswapXState) : PolicyReads where
  number := o.number
  router_hash := o.router_hash w
  recover := recover

def forceApprove (w : UniswapXState) (token spender : Address) (value : U256) :
    Except UniswapXError UniswapXState := do
  let tokens ← bubble .Token (w.tokens.force_approve o.rules token cfg.this spender value)
  .ok { w with tokens }

def _snapshot (w : UniswapXState) (sources : List SourceSwap) : List (Address × U256) :=
  (snapshot_tokens sources).map fun token => (token, w.tokens.balanceOf token cfg.this)

def _assertBalancesNonDecreasing (w : UniswapXState) :
    List (Address × U256) → Except UniswapXError Unit
  | [] => .ok ()
  | (token, balanceBefore) :: rest => do
    let balanceAfter := w.tokens.balanceOf token cfg.this
    require (balanceBefore ≤ balanceAfter)
      (.AssetBalanceDecreased token balanceBefore balanceAfter)
    _assertBalancesNonDecreasing w rest

def _clearReactorAllowances (w : UniswapXState) :
    List SourceSwap → Except UniswapXError UniswapXState
  | [] => .ok w
  | source :: sources => do
    let w ← forceApprove cfg o w source.authorization.tokenOut cfg.REACTOR 0
    _clearReactorAllowances w sources

/-- The loop of `_approveOutputs` that approves the sums. -/
def approve_sums (sources : List SourceSwap) (reactor_ : Address) (w : UniswapXState) :
    List (Address × U256) → Except UniswapXError UniswapXState
  | [] => .ok w
  | (token, amount) :: sums => do
    let sourced ← expect (_sourcedAmount sources token 0) .Panic
    require (sourced ≠ 0) (.OutputNotSourced token)
    require (amount ≤ sourced) (.InsufficientSourcedOutput token amount sourced)
    let w ← forceApprove cfg o w token reactor_ amount
    approve_sums sources reactor_ w sums

def _approveOutputs (w : UniswapXState) (orders : List ResolvedOrder) (sources : List SourceSwap)
    (reactor_ : Address) : Except UniswapXError UniswapXState := do
  let sums ← expect (accumulate_outputs (output_entries orders)) .Panic
  approve_sums cfg o sources reactor_ w sums

def _requireKind (supplied expected : ExecutionKind) : Except UniswapXError Unit :=
  require (supplied = expected) (.InvalidExecutionKind supplied expected)

def _requireBalance (w : UniswapXState) (token : Address) (expected : U256) :
    Except UniswapXError Unit :=
  require (w.tokens.balanceOf token cfg.this = expected)
    (.TokenBalanceMismatch token expected (w.tokens.balanceOf token cfg.this))

def _requireRecipientBalance (w : UniswapXState) (token recipient : Address) (expected : U256) :
    Except UniswapXError Unit :=
  require (w.tokens.balanceOf token recipient = expected)
    (.RecipientBalanceMismatch token recipient expected (w.tokens.balanceOf token recipient))

def _authorize (w : UniswapXState) (path : ExecutionKind) (context : B256) (order : SwapOrder)
    (a : Authorization) (signature : Bytes) : Except UniswapXError UniswapXState := do
  let policy ← bubble .Policy (w.filler.policy._authorize keccak256 cfg.toPolicyConfig
    (reads recover cfg o w) order a signature)
  .ok ({ w with filler := { w.filler with policy } }.emit
    (.Authorized path context a signature w.filler.policy.policySigner))

/-! ## Calls that leave the contract -/

section Nested

-- `enter` is how the contract is entered again.
variable (enter : UniswapXState → Address → UniswapXCall → Except UniswapXError UniswapXState)

def drift (w : UniswapXState) : Drift → UniswapXState
  | .balance token account value => { w with tokens := w.tokens.set_balance token account value }
  | .spend token spender left =>
    { w with
      tokens := w.tokens.set_allowance token cfg.this spender
        (min left (w.tokens.allowance token cfg.this spender)) }
  | .rest value => { w with rest := value }

def outside_step (w : UniswapXState) : OutsideStep → UniswapXState
  | .enter caller call => attempt (fun w => enter w caller call) w
  | .callback orders =>
    match w.data with
    | some data => attempt (fun w => enter w cfg.REACTOR (.reactorCallback orders data)) w
    | none => w
  | .drift d => drift cfg w d

def outside (w : UniswapXState) (site : Site) : Except UniswapXError UniswapXState := do
  let steps ← expect (o.answers w site) .Reverted
  .ok (steps.foldl (outside_step cfg enter) w)

/-- `ROUTER.swap` -/
def swap (w : UniswapXState) (order : SwapOrder) (a : Authorization) (strict : Bool) :
    Except UniswapXError UniswapXState :=
  outside cfg o enter (w.emit (.Swap a))
    (.swap order a.tokenIn a.tokenOut a.amountOut a.amountInLimit strict)

def _executeUserSource (w : UniswapXState) (contextHash : B256) (source : SourceSwap) :
    Except UniswapXError UniswapXState := do
  let a := source.authorization
  _requireKind a.kind .UserFill
  require (a.contextHash = contextHash) (.AuthorizationContextMismatch a.contextHash contextHash)
  require (a.rebateAmount = 0) (.UnexpectedRebate a.rebateAmount)
  let w ← _authorize keccak256 recover cfg o w .UserFill contextHash source.order a
    source.policySignature
  let w ← forceApprove cfg o w a.tokenIn cfg.ROUTER a.amountInLimit
  let w ← swap cfg o enter w source.order a false
  forceApprove cfg o w a.tokenIn cfg.ROUTER 0

/-- The loop of `reactorCallback`. -/
def execute_sources (contextHash : B256) (w : UniswapXState) :
    List SourceSwap → Except UniswapXError UniswapXState
  | [] => .ok w
  | source :: sources => do
    let w ← _executeUserSource keccak256 recover cfg o enter w contextHash source
    execute_sources contextHash w sources

def reactorCallback (w : UniswapXState) (caller : Address) (orders : List ResolvedOrder)
    (data : Bytes) : Except UniswapXError UniswapXState := do
  require (caller = w.filler._reactorInFlight)
    (.CallbackUnauthorized caller w.filler._reactorInFlight)
  let c ← expect (CallbackData.abi_decode data) .Undecodable
  let w ← execute_sources keccak256 recover cfg o enter c.contextHash w c.sources
  _approveOutputs cfg o w orders c.sources caller

/-- `onlyOwner` -/
def only_owner (w : UniswapXState) (caller : Address) : Except UniswapXError Unit :=
  require (caller = w.filler.owner) (.OwnableUnauthorizedAccount caller)

/-- `whenNotPaused nonReentrant` -/
def guard (w : UniswapXState) : Except UniswapXError Unit := do
  require (w.filler.paused = false) .EnforcedPause
  require (w.filler.entered = false) .ReentrancyGuardReentrantCall

/-- `fill` and `fillBatch`, which differ in the context they bind the plan to. -/
def execute (w : UniswapXState) (caller : Address) (orders : List SignedOrder)
    (contextHash : B256) (sources : List SourceSwap) : Except UniswapXError UniswapXState := do
  only_owner w caller
  guard w
  let balancesBefore := _snapshot cfg w sources
  let data ← expect (CallbackData.abi_encode { contextHash, sources }) .Panic
  let w ← outside cfg o enter
    { w with
      filler := { w.filler with entered := true, _reactorInFlight := cfg.REACTOR }
      data := some data }
    (.execute orders data)
  let w ← _clearReactorAllowances cfg o
    { w with filler := { w.filler with _reactorInFlight := 0 }, data := none } sources
  _assertBalancesNonDecreasing cfg w balancesBefore
  .ok { w with filler := { w.filler with entered := false } }

def fill (w : UniswapXState) (caller : Address) (order : SignedOrder)
    (sources : List SourceSwap) : Except UniswapXError UniswapXState :=
  execute cfg o enter w caller [order] (userFillContext keccak256 order) sources

def fillBatch (w : UniswapXState) (caller : Address) (orders : List SignedOrder)
    (sources : List SourceSwap) : Except UniswapXError UniswapXState :=
  execute cfg o enter w caller orders (userFillBatchContext keccak256 orders) sources

def executeRebate (w : UniswapXState) (caller : Address) (order : SwapOrder) (a : Authorization)
    (signature : Bytes) : Except UniswapXError UniswapXState := do
  guard w
  let w := { w with filler := { w.filler with entered := true } }
  _requireKind a.kind .Rebate
  require (a.rebateAmount ≠ 0) .RebateRequired
  let w ← _authorize keccak256 recover cfg o w .Rebate a.contextHash order a signature
  let inputBefore := w.tokens.balanceOf a.tokenIn cfg.this
  let outputBefore := w.tokens.balanceOf a.tokenOut cfg.this
  let makerInputBefore := w.tokens.balanceOf a.tokenIn a.maker
  let executorOutputBefore := w.tokens.balanceOf a.tokenOut caller
  let deposit ← expect (a.amountInLimit.checked_add a.rebateAmount) .Panic
  let w ← outside cfg o enter w (.safeTransferFrom a.tokenIn caller cfg.this deposit)
  let deposited ← expect (inputBefore.checked_add deposit) .Panic
  _requireBalance cfg w a.tokenIn deposited
  let w ← forceApprove cfg o w a.tokenIn cfg.ROUTER a.amountInLimit
  let w ← swap cfg o enter w order a true
  let w ← forceApprove cfg o w a.tokenIn cfg.ROUTER 0
  let w ← outside cfg o enter w (.safeTransfer a.tokenIn a.maker a.rebateAmount)
  let w ← outside cfg o enter w (.safeTransfer a.tokenOut caller a.amountOut)
  _requireBalance cfg w a.tokenIn inputBefore
  _requireBalance cfg w a.tokenOut outputBefore
  let paid ← expect (makerInputBefore.checked_add a.amountInLimit) .Panic
  let makerInput ← expect (paid.checked_add a.rebateAmount) .Panic
  _requireRecipientBalance w a.tokenIn a.maker makerInput
  let executorOutput ← expect (executorOutputBefore.checked_add a.amountOut) .Panic
  _requireRecipientBalance w a.tokenOut caller executorOutput
  .ok { w with filler := { w.filler with entered := false } }

def sweep (w : UniswapXState) (caller token dst : Address) :
    Except UniswapXError UniswapXState := do
  only_owner w caller
  require (w.filler.entered = false) .ReentrancyGuardReentrantCall
  require (token ≠ 0 ∧ dst ≠ 0) .ZeroAddress
  let amount := w.tokens.balanceOf token cfg.this
  let w ← outside cfg o enter { w with filler := { w.filler with entered := true } }
    (.safeTransfer token dst amount)
  .ok { w with filler := { w.filler with entered := false } }

end Nested

/-! ## Administration -/

def setPolicySigner (w : UniswapXState) (caller newSigner : Address) :
    Except UniswapXError UniswapXState := do
  only_owner w caller
  require (newSigner ≠ 0) .ZeroAddress
  let policy := { w.filler.policy with policySigner := newSigner }
  .ok ({ w with filler := { w.filler with policy } }.emit
    (.PolicySignerUpdated w.filler.policy.policySigner newSigner))

def setTokenAllowed (w : UniswapXState) (caller token : Address) (allowed : Bool) :
    Except UniswapXError UniswapXState := do
  only_owner w caller
  require (token ≠ 0) .ZeroAddress
  let policy := { w.filler.policy with
    allowedToken := Mapping.set w.filler.policy.allowedToken token allowed }
  .ok { w with filler := { w.filler with policy } }

def invalidateNonces (w : UniswapXState) (caller : Address) (word mask : U256) :
    Except UniswapXError UniswapXState := do
  only_owner w caller
  let policy := w.filler.policy.invalidateNonces word mask
  .ok ({ w with filler := { w.filler with policy } }.emit (.NoncesInvalidated word mask))

def pause (w : UniswapXState) (caller : Address) : Except UniswapXError UniswapXState := do
  only_owner w caller
  require (w.filler.paused = false) .EnforcedPause
  .ok { w with filler := { w.filler with paused := true } }

def unpause (w : UniswapXState) (caller : Address) : Except UniswapXError UniswapXState := do
  only_owner w caller
  require (w.filler.paused = true) .ExpectedPause
  .ok { w with filler := { w.filler with paused := false } }

/-- A call, and the calls nested in it up to a depth. -/
def run_call : ℕ → UniswapXState → Address → UniswapXCall → Except UniswapXError UniswapXState
  | 0, _, _, _ => .error .OutOfFuel
  | fuel + 1, w, caller, call =>
    match call with
    | .fill order sources => fill keccak256 cfg o (run_call fuel) w caller order sources
    | .fillBatch orders sources => fillBatch keccak256 cfg o (run_call fuel) w caller orders sources
    | .executeRebate order a signature =>
      executeRebate keccak256 recover cfg o (run_call fuel) w caller order a signature
    | .reactorCallback orders data =>
      reactorCallback keccak256 recover cfg o (run_call fuel) w caller orders data
    | .setPolicySigner newSigner => setPolicySigner w caller newSigner
    | .setTokenAllowed token allowed => setTokenAllowed w caller token allowed
    | .invalidateNonces word mask => invalidateNonces w caller word mask
    | .pause => pause w caller
    | .unpause => unpause w caller
    | .sweep token dst => sweep cfg o (run_call fuel) w caller token dst

end Functions

end UniswapXAquaFiller

end Solvent.Contracts
