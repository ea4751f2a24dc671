import Solvent.Framework.Contract
import Solvent.Contracts.Permit2

/-! # Same-chain orders and their settler

    The order a user signs through Permit2, with its ABI layout and its hash, and
    the checks of `SolventSameChainSettler` on it. `keccak256` is a parameter.
-/

namespace Solvent.Contracts

open Abi Contract

/-- Same-chain order signed through Permit2. -/
structure Solvent7683Order where
  settler : Address
  user : Address
  chainId : U256
  inputToken : Address
  inputAmount : U256
  outputToken : Address
  outputAmount : U256
  recipient : Address
  executorFee : U256
  nonce : U256
  deadline : U256
  deriving DecidableEq

/-- An address read from any word is the word's own where it has one. -/
theorem word_address_of_as_address {w : U256} {a : Address} (h : as_address w = some a) :
    word_address w = a := by
  have hw := (narrow_eq_some (Nat.pow_le_pow_right (by norm_num) (by norm_num))).mp h
  refine Fin.ext ?_
  rw [← hw, word_address, Fin.val_ofNat, widen_val]
  exact Nat.mod_eq_of_lt a.isLt

instance : Masked Solvent7683Order where
  width := 11
  to_words o := [address_word o.settler, address_word o.user, o.chainId,
    address_word o.inputToken, o.inputAmount, address_word o.outputToken, o.outputAmount,
    address_word o.recipient, o.executorFee, o.nonce, o.deadline]
  of_words
    | [settler, user, chainId, inputToken, inputAmount, outputToken, outputAmount, recipient,
        executorFee, nonce, deadline] => do
      some {
        settler := ← as_address settler
        user := ← as_address user
        chainId
        inputToken := ← as_address inputToken
        inputAmount
        outputToken := ← as_address outputToken
        outputAmount
        recipient := ← as_address recipient
        executorFee
        nonce
        deadline }
    | _ => none
  length_to_words _ := rfl
  of_words_to_words o := by simp
  of_masked
    | [settler, user, chainId, inputToken, inputAmount, outputToken, outputAmount, recipient,
        executorFee, nonce, deadline] =>
      some {
        settler := word_address settler
        user := word_address user
        chainId
        inputToken := word_address inputToken
        inputAmount
        outputToken := word_address outputToken
        outputAmount
        recipient := word_address recipient
        executorFee
        nonce
        deadline }
    | _ => none
  of_masked_of_words {ws o} h := by
    split at h
    · simp only [Option.bind_eq_bind, Option.bind_eq_some_iff] at h
      obtain ⟨settler, hsettler, user, huser, inputToken, hinput, outputToken, houtput,
        recipient, hrecipient, ho⟩ := h
      cases ho
      rw [word_address_of_as_address hsettler, word_address_of_as_address huser,
        word_address_of_as_address hinput, word_address_of_as_address houtput,
        word_address_of_as_address hrecipient]
    · cases h

/-! ## The settler -/

/-- What `SolventSameChainSettler` reads of its deployment and its chain. -/
structure SameChainConfig where
  /-- `address(this)` -/
  this : Address
  /-- `block.chainid` -/
  chainid : U256

inductive SameChainError where
  | CredentialNotActive (caller : Address)
  | DeadlinePassed (deadline currentTimestamp : U256)
  | ExecutorFeeInvalid (fee inputAmount : U256)
  | InvalidRecipient (recipient : Address)
  | TokenPairInvalid (inputToken outputToken : Address)
  | WrongChain (given expected : U256)
  | WrongSettler (given expected : Address)
  | ZeroAddress
  | ZeroAmount
  deriving DecidableEq

namespace SolventSameChainSettler

def ORDER_TYPE : Bytes :=
  "Solvent7683Order(address settler,address user,uint256 chainId,address inputToken,uint256 inputAmount,address outputToken,uint256 outputAmount,address recipient,uint256 executorFee,uint256 nonce,uint256 deadline)".toUTF8.data.toList

def WITNESS_TYPE_STRING : Bytes :=
  "Solvent7683Order witness)Solvent7683Order(address settler,address user,uint256 chainId,address inputToken,uint256 inputAmount,address outputToken,uint256 outputAmount,address recipient,uint256 executorFee,uint256 nonce,uint256 deadline)TokenPermissions(address token,uint256 amount)".toUTF8.data.toList

variable (keccak256 : Bytes → B256) (cfg : SameChainConfig)

def orderId (order : Solvent7683Order) : B256 :=
  keccak256 (words (keccak256 ORDER_TYPE :: Static.to_words order))

def validate (timestamp : U256) (order : Solvent7683Order) : Except SameChainError B256 := do
  require (order.settler = cfg.this) (.WrongSettler order.settler cfg.this)
  require (order.chainId = cfg.chainid) (.WrongChain order.chainId cfg.chainid)
  require (order.user ≠ 0 ∧ order.inputToken ≠ 0 ∧ order.outputToken ≠ 0 ∧ order.recipient ≠ 0)
    .ZeroAddress
  require (order.inputToken ≠ order.outputToken)
    (.TokenPairInvalid order.inputToken order.outputToken)
  require (order.inputAmount ≠ 0 ∧ order.outputAmount ≠ 0) .ZeroAmount
  require (order.executorFee ≠ 0 ∧ order.executorFee < order.inputAmount)
    (.ExecutorFeeInvalid order.executorFee order.inputAmount)
  require (timestamp ≤ order.deadline) (.DeadlinePassed order.deadline timestamp)
  .ok (orderId keccak256 order)

/-- The checks of `settle` before it moves tokens, called by `sender`; `balanceOf`
    is the taker credential's. -/
def settle_checks (balanceOf : Address → U256) (timestamp : U256) (sender : Address)
    (order : Solvent7683Order) : Except SameChainError B256 := do
  let id ← validate keccak256 cfg timestamp order
  require (balanceOf sender = 1) (.CredentialNotActive sender)
  require (order.recipient ≠ sender) (.InvalidRecipient order.recipient)
  .ok id

/-- The transfer `settle` asks Permit2 for. -/
def settle_transfer (order : Solvent7683Order) : WitnessTransfer where
  token := order.inputToken
  amount := order.inputAmount
  spender := cfg.this
  nonce := order.nonce
  deadline := order.deadline
  witness := orderId keccak256 order
  witnessTypeString := WITNESS_TYPE_STRING

/-- What a validated order satisfies. -/
structure Valid (timestamp : U256) (order : Solvent7683Order) : Prop where
  settler : order.settler = cfg.this
  chainId : order.chainId = cfg.chainid
  addresses : order.user ≠ 0 ∧ order.inputToken ≠ 0 ∧ order.outputToken ≠ 0 ∧ order.recipient ≠ 0
  pair : order.inputToken ≠ order.outputToken
  amounts : order.inputAmount ≠ 0 ∧ order.outputAmount ≠ 0
  fee : order.executorFee ≠ 0 ∧ order.executorFee < order.inputAmount
  deadline : timestamp ≤ order.deadline

variable {keccak256 cfg} in
/-- **Spec of `validate`.** -/
theorem validate_eq_ok {timestamp : U256} {order : Solvent7683Order} {id : B256} :
    validate keccak256 cfg timestamp order = .ok id ↔
      Valid cfg timestamp order ∧ id = orderId keccak256 order := by
  unfold validate
  simp only [require_bind, Except.ok.injEq]
  constructor
  · rintro ⟨hsettler, hchain, haddresses, hpair, hamounts, hfee, hdeadline, rfl⟩
    exact ⟨⟨hsettler, hchain, haddresses, hpair, hamounts, hfee, hdeadline⟩, rfl⟩
  · rintro ⟨h, rfl⟩
    exact ⟨h.settler, h.chainId, h.addresses, h.pair, h.amounts, h.fee, h.deadline, rfl⟩

variable {keccak256 cfg} in
/-- **Spec of `settle`'s checks.** -/
theorem settle_checks_eq_ok {balanceOf : Address → U256} {timestamp : U256} {sender : Address}
    {order : Solvent7683Order} {id : B256} :
    settle_checks keccak256 cfg balanceOf timestamp sender order = .ok id ↔
      Valid cfg timestamp order ∧ balanceOf sender = 1 ∧ order.recipient ≠ sender ∧
        id = orderId keccak256 order := by
  unfold settle_checks
  constructor
  · intro h
    match hvalidate : validate keccak256 cfg timestamp order with
    | .error e =>
      rw [hvalidate] at h
      cases h
    | .ok id' =>
      obtain ⟨hvalid, rfl⟩ := validate_eq_ok.mp hvalidate
      rw [hvalidate] at h
      obtain ⟨hheld, h⟩ := require_bind.mp h
      obtain ⟨hrecipient, h⟩ := require_bind.mp h
      exact ⟨hvalid, hheld, hrecipient, (Except.ok.inj h).symm⟩
  · rintro ⟨hvalid, hheld, hrecipient, rfl⟩
    rw [validate_eq_ok.mpr ⟨hvalid, rfl⟩]
    exact require_bind.mpr ⟨hheld, require_bind.mpr ⟨hrecipient, rfl⟩⟩

end SolventSameChainSettler

end Solvent.Contracts
