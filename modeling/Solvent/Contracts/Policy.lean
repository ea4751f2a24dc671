import Solvent.Framework.Bitmap
import Solvent.Framework.Contract
import Solvent.Contracts.Settler

/-! # Policy authorizations

    What the two Aqua fillers share: the authorization a policy signer signs for
    one exact-output execution, the checks of `_authorize` on it, and the bitmap
    that lets its nonce be spent once. The router's order hash and the recovery
    of the signer are what the chain answers.
-/

namespace Solvent.Contracts

open Abi Contract

inductive ExecutionKind where
  | UserFill
  | Rebate
  deriving DecidableEq

def ExecutionKind.word : ExecutionKind → U256
  | UserFill => 0
  | Rebate => 1

/-- A policy decision authorizing one exact-output SwapVM execution. -/
structure Authorization where
  kind : ExecutionKind
  nonce : U256
  contextHash : B256
  strategyHash : B256
  maker : Address
  tokenIn : Address
  tokenOut : Address
  amountOut : U256
  amountInLimit : U256
  rebateAmount : U256
  deadlineBlock : U64
  deriving DecidableEq

/-- One policy-authorized exact-output maker leg. -/
structure SourceSwap where
  order : SwapOrder
  authorization : Authorization
  policySignature : Bytes
  deriving DecidableEq

/-- An authorization as a record. -/
def Authorization.to_words (a : Authorization) : List U256 :=
  [a.kind.word, a.nonce, a.contextHash, a.strategyHash, address_word a.maker,
    address_word a.tokenIn, address_word a.tokenOut, a.amountOut, a.amountInLimit, a.rebateAmount,
    uint64_word a.deadlineBlock]

/-- The storage `_authorize` reads and writes. -/
structure Policy where
  policySigner : Address
  allowedToken : Address → Bool
  _nonceBitmap : Bitmap

/-- The immutables of a filler that `_authorize` reads. -/
structure PolicyConfig where
  /-- `address(this)` -/
  this : Address
  /-- `block.chainid` -/
  chainid : U256
  TAKER_CREDENTIAL : Address

/-- What the chain answers one call. -/
structure PolicyReads where
  /-- `block.number` -/
  number : U256
  /-- `ROUTER.hash` -/
  router_hash : SwapOrder → B256
  /-- `ECDSA.recover`, `none` where it reverts. -/
  recover : B256 → Bytes → Option Address

inductive PolicyError where
  | AuthorizationExpired (deadlineBlock : U64) (currentBlock : U256)
  | AuthorizationMakerMismatch (supplied expected : Address)
  | CredentialGateMissing
  | InvalidMakerTraits
  | InvalidPolicySigner (recovered expected : Address)
  | InvalidSignature
  | NonceAlreadyUsed (nonce : U256)
  | StrategyHashMismatch (supplied expected : B256)
  | TokenNotAllowed (token : Address)
  | TokenPairInvalid (tokenIn tokenOut : Address)
  | ZeroAddress
  | ZeroAmount
  | ZeroContext
  deriving DecidableEq

namespace Policy

def ONLY_TAKER_BALANCE_NON_ZERO_OPCODE : UInt8 := 0x0e
def ADDRESS_ARGUMENT_LENGTH : UInt8 := 0x14
def CREDENTIAL_PREFIX_LENGTH : ℕ := 22

/-- `uint256(1) << 254` -/
def USE_AQUA_INSTEAD_OF_SIGNATURE_FLAG : ℕ := 2 ^ 254

/-! ## Nonces -/

def isNonceUsed (p : Policy) (nonce : U256) : Bool := p._nonceBitmap.is_set nonce

def _consumeNonce (p : Policy) (nonce : U256) : Except PolicyError Policy := do
  require (p.isNonceUsed nonce = false) (.NonceAlreadyUsed nonce)
  .ok { p with _nonceBitmap := p._nonceBitmap.mark nonce }

def invalidateNonces (p : Policy) (word mask : U256) : Policy :=
  { p with _nonceBitmap := p._nonceBitmap.set_word word mask }

/-! ## Checks -/

section Checks

variable (keccak256 : Bytes → B256) (cfg : PolicyConfig) (reads : PolicyReads)

def _validateAuthorizationFields (p : Policy) (a : Authorization) : Except PolicyError Unit := do
  require (reads.number.val ≤ a.deadlineBlock.val)
    (.AuthorizationExpired a.deadlineBlock reads.number)
  require (a.contextHash ≠ 0) .ZeroContext
  require (a.maker ≠ 0 ∧ a.tokenIn ≠ 0 ∧ a.tokenOut ≠ 0) .ZeroAddress
  require (a.amountOut ≠ 0 ∧ a.amountInLimit ≠ 0) .ZeroAmount
  require (p.allowedToken a.tokenIn = true) (.TokenNotAllowed a.tokenIn)
  require (p.allowedToken a.tokenOut = true) (.TokenNotAllowed a.tokenOut)
  require (a.tokenIn ≠ a.tokenOut) (.TokenPairInvalid a.tokenIn a.tokenOut)

def _validateOrderBinding (order : SwapOrder) (a : Authorization) : Except PolicyError Unit := do
  require (a.maker = order.maker) (.AuthorizationMakerMismatch a.maker order.maker)
  require (reads.router_hash order = a.strategyHash)
    (.StrategyHashMismatch a.strategyHash (reads.router_hash order))

/-- The low 160 bits of the traits are an optional receiver, the rest must be the
    Aqua flag alone. -/
def _validateProtectedStrategy (order : SwapOrder) : Except PolicyError Unit := do
  let receiver := word_address order.traits
  require (order.traits.val / 2 ^ 160 * 2 ^ 160 = USE_AQUA_INSTEAD_OF_SIGNATURE_FLAG ∧
      (receiver = 0 ∨ receiver = order.maker))
    .InvalidMakerTraits
  let program := order.data
  require (CREDENTIAL_PREFIX_LENGTH ≤ program.length ∧
      program[0]? = some ONLY_TAKER_BALANCE_NON_ZERO_OPCODE ∧
      program[1]? = some ADDRESS_ARGUMENT_LENGTH)
    .CredentialGateMissing
  require (number ((program.drop 2).take 20) = cfg.TAKER_CREDENTIAL.val) .CredentialGateMissing

/-- What the EIP-712 domain of a filler hashes. -/
def domain_bytes : Bytes :=
  words [
    keccak256 "EIP712Domain(string name,string version,uint256 chainId,address verifyingContract)".toUTF8.data.toList,
    keccak256 "Solvent Aqua Filler".toUTF8.data.toList,
    keccak256 "1".toUTF8.data.toList,
    cfg.chainid,
    address_word cfg.this]

def AUTHORIZATION_TYPE : Bytes :=
  "Authorization(uint8 kind,uint256 nonce,bytes32 contextHash,bytes32 strategyHash,address maker,address tokenIn,address tokenOut,uint256 amountOut,uint256 amountInLimit,uint256 rebateAmount,uint64 deadlineBlock)".toUTF8.data.toList

def _authorizationDigest (a : Authorization) : B256 :=
  keccak256 (0x19 :: 0x01 :: words [keccak256 (domain_bytes keccak256 cfg),
    keccak256 (words (keccak256 AUTHORIZATION_TYPE :: a.to_words))])

def _validatePolicySignature (p : Policy) (a : Authorization) (signature : Bytes) :
    Except PolicyError Unit := do
  let recovered ← expect (reads.recover (_authorizationDigest keccak256 cfg a) signature)
    .InvalidSignature
  require (recovered = p.policySigner) (.InvalidPolicySigner recovered p.policySigner)

def _authorize (p : Policy) (order : SwapOrder) (a : Authorization) (signature : Bytes) :
    Except PolicyError Policy := do
  _validateAuthorizationFields reads p a
  _validateOrderBinding reads order a
  _validateProtectedStrategy cfg order
  _validatePolicySignature keccak256 cfg reads p a signature
  p._consumeNonce a.nonce

end Checks

/-! ## What the checks say -/

variable {keccak256 : Bytes → B256} {cfg : PolicyConfig} {reads : PolicyReads} {p p' : Policy}
variable {order : SwapOrder} {a : Authorization} {signature : Bytes} {e : PolicyError}

theorem consumeNonce_eq_ok {nonce : U256} :
    p._consumeNonce nonce = .ok p' ↔
      p.isNonceUsed nonce = false ∧
        p' = { p with _nonceBitmap := p._nonceBitmap.mark nonce } := by
  unfold _consumeNonce
  rw [require_bind, Except.ok.injEq, eq_comm (a := p')]

/-- **Spec of `_authorize`.** An authorization that passes is spent by the pass. -/
theorem authorize_eq_ok :
    p._authorize keccak256 cfg reads order a signature = .ok p' ↔
      (_validateAuthorizationFields reads p a = .ok () ∧
        _validateOrderBinding reads order a = .ok () ∧
        _validateProtectedStrategy cfg order = .ok () ∧
        _validatePolicySignature keccak256 cfg reads p a signature = .ok () ∧
        p.isNonceUsed a.nonce = false) ∧
      p' = { p with _nonceBitmap := p._nonceBitmap.mark a.nonce } := by
  unfold _authorize
  simp only [check_bind, consumeNonce_eq_ok, and_assoc]

/-- The check that failed, for each error of `_authorize`. -/
def Blames (keccak256 : Bytes → B256) (cfg : PolicyConfig) (reads : PolicyReads) (p : Policy)
    (order : SwapOrder) (a : Authorization) (signature : Bytes) : PolicyError → Prop
  | .AuthorizationExpired .. => a.deadlineBlock.val < reads.number.val
  | .ZeroContext => a.contextHash = 0
  | .ZeroAddress => a.maker = 0 ∨ a.tokenIn = 0 ∨ a.tokenOut = 0
  | .ZeroAmount => a.amountOut = 0 ∨ a.amountInLimit = 0
  | .TokenNotAllowed token => p.allowedToken token = false
  | .TokenPairInvalid .. => a.tokenIn = a.tokenOut
  | .AuthorizationMakerMismatch .. => a.maker ≠ order.maker
  | .StrategyHashMismatch .. => reads.router_hash order ≠ a.strategyHash
  | .InvalidMakerTraits | .CredentialGateMissing => _validateProtectedStrategy cfg order ≠ .ok ()
  | .InvalidSignature | .InvalidPolicySigner .. =>
    _validatePolicySignature keccak256 cfg reads p a signature ≠ .ok ()
  | .NonceAlreadyUsed nonce => nonce = a.nonce ∧ p.isNonceUsed nonce = true

theorem validateAuthorizationFields_blames
    (h : _validateAuthorizationFields reads p a = .error e) :
    Blames keccak256 cfg reads p order a signature e := by
  unfold _validateAuthorizationFields at h
  simp only [require_bind_error, require_eq_error] at h
  obtain ⟨hfail, rfl⟩ | ⟨-, ⟨hfail, rfl⟩ | ⟨-, ⟨hfail, rfl⟩ | ⟨-, ⟨hfail, rfl⟩ | ⟨-, ⟨hfail, rfl⟩ |
    ⟨-, ⟨hfail, rfl⟩ | ⟨-, hfail, rfl⟩⟩⟩⟩⟩⟩ := h
  · exact not_le.mp hfail
  · exact not_not.mp hfail
  · show a.maker = 0 ∨ a.tokenIn = 0 ∨ a.tokenOut = 0
    tauto
  · show a.amountOut = 0 ∨ a.amountInLimit = 0
    tauto
  · exact Bool.eq_false_iff.mpr hfail
  · exact Bool.eq_false_iff.mpr hfail
  · exact not_not.mp hfail

theorem validateOrderBinding_blames (h : _validateOrderBinding reads order a = .error e) :
    Blames keccak256 cfg reads p order a signature e := by
  unfold _validateOrderBinding at h
  simp only [require_bind_error, require_eq_error] at h
  obtain ⟨hfail, rfl⟩ | ⟨-, hfail, rfl⟩ := h
  · exact hfail
  · exact hfail

theorem validateProtectedStrategy_blames (h : _validateProtectedStrategy cfg order = .error e) :
    Blames keccak256 cfg reads p order a signature e := by
  have hfail : _validateProtectedStrategy cfg order ≠ .ok () := by
    rw [h]
    exact nofun
  unfold _validateProtectedStrategy at h
  simp only [require_bind_error, require_eq_error] at h
  obtain ⟨-, rfl⟩ | ⟨-, ⟨-, rfl⟩ | ⟨-, -, rfl⟩⟩ := h
  · exact hfail
  · exact hfail
  · exact hfail

theorem validatePolicySignature_blames
    (h : _validatePolicySignature keccak256 cfg reads p a signature = .error e) :
    Blames keccak256 cfg reads p order a signature e := by
  have hfail : _validatePolicySignature keccak256 cfg reads p a signature ≠ .ok () := by
    rw [h]
    exact nofun
  unfold _validatePolicySignature at h
  simp only [expect_bind_error, require_eq_error] at h
  obtain ⟨-, rfl⟩ | ⟨recovered, -, -, rfl⟩ := h
  · exact hfail
  · exact hfail

theorem consumeNonce_blames (h : p._consumeNonce a.nonce = .error e) :
    Blames keccak256 cfg reads p order a signature e := by
  unfold _consumeNonce at h
  obtain ⟨hused, rfl⟩ | ⟨-, hok⟩ := require_bind_error.mp h
  · exact ⟨rfl, by simpa using hused⟩
  · cases hok

/-- **Every error names its check.** -/
theorem authorize_blames (h : p._authorize keccak256 cfg reads order a signature = .error e) :
    Blames keccak256 cfg reads p order a signature e := by
  unfold _authorize at h
  simp only [check_bind_error] at h
  obtain h | ⟨-, h | ⟨-, h | ⟨-, h | ⟨-, h⟩⟩⟩⟩ := h
  · exact validateAuthorizationFields_blames h
  · exact validateOrderBinding_blames h
  · exact validateProtectedStrategy_blames h
  · exact validatePolicySignature_blames h
  · exact consumeNonce_blames h

end Policy

end Solvent.Contracts
