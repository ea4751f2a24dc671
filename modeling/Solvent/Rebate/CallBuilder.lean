import Solvent.Ingest.UniswapX
import Solvent.Rebate.Store

/-! # Building a rebate call

    A plan becomes the signed `executeRebate` calldata of the protected filler: the
    strategy's shipped order is decoded and bound to the strategy, and the policy
    signs one authorization whose context is the batch and whose nonce is the plan's.

    What is built loads again: it matches its batch, and the store accepts it back.
-/

namespace Solvent

open Abi Contract
open Contracts (Authorization SwapOrder address_word)

/-- Inputs that bind a public restoration to one batch and protected strategy. -/
structure RebateAuthorization where
  nonce : U256
  context_hash : B256
  strategy_hash : StrategyHash
  maker : MakerId
  token_in : Address
  token_out : Address
  amount_out : U256
  amount_in_limit : U256
  rebate_amount : U256
  deadline_block : U64

/-- `ExecutionAuthorization::rebate`, as the filler contract reads it. -/
def RebateAuthorization.rebate (value : RebateAuthorization) : Authorization where
  kind := .Rebate
  nonce := value.nonce
  contextHash := value.context_hash
  strategyHash := value.strategy_hash.hash
  maker := value.maker.address
  tokenIn := value.token_in
  tokenOut := value.token_out
  amountOut := value.amount_out
  amountInLimit := value.amount_in_limit
  rebateAmount := value.rebate_amount
  deadlineBlock := value.deadline_block

namespace FillerRebateCallBuilder

def validate_plan (plan : RebatePlan) (deadline_block : U64) : Except RebateCallBuilderError Unit := do
  require (plan.batch_id.hash ≠ 0) (.InvalidPlan "batch id is zero")
  require (plan.strategy.maker.address ≠ 0) (.InvalidPlan "maker is zero")
  require (plan.token_in ≠ 0 ∧ plan.token_out ≠ 0 ∧ plan.token_in ≠ plan.token_out)
    (.InvalidPlan "token pair is invalid")
  require (plan.amount_in ≠ 0 ∧ plan.amount_out ≠ 0 ∧ plan.maker_rebate ≠ 0)
    (.InvalidPlan "amounts and maker rebate must be non-zero")
  require ((plan.amount_in.checked_add plan.maker_rebate).isSome = true)
    (.InvalidPlan "executor deposit exceeds uint256")
  require (deadline_block ≠ 0) (.InvalidPlan "deadline block is zero")

variable (keccak256 : Bytes → B256)

def rebate_nonce (plan : RebatePlan) (deadline_block : U64) : U256 :=
  keccak256 (words [plan.batch_id.hash, plan.strategy.strategy_hash.hash,
    address_word plan.strategy.maker.address, address_word plan.token_in,
    address_word plan.token_out, plan.amount_in, plan.amount_out, plan.maker_rebate,
    Fin.ofNat _ deadline_block.val])

def authorization (plan : RebatePlan) (key : StrategyKey) (deadline_block : U64) : Authorization :=
  RebateAuthorization.rebate {
    nonce := rebate_nonce keccak256 plan deadline_block
    context_hash := plan.batch_id.hash
    strategy_hash := key.strategy_hash
    maker := key.maker
    token_in := plan.token_in
    token_out := plan.token_out
    amount_out := plan.amount_out
    amount_in_limit := plan.amount_in
    rebate_amount := plan.maker_rebate
    deadline_block }

/-- `program` is what the strategy was shipped with, and `authorize` the policy signer. -/
def build (taker_credential : Address) (authorize : Authorization → Option Bytes) (key : StrategyKey)
    (program : Bytes) (plan : RebatePlan) (reservation : ReservationId)
    (deadline_block published_at : U64) : Except RebateCallBuilderError RebateExecution := do
  require (plan.strategy = key) .StrategyMismatch
  validate_plan plan deadline_block
  let order ← expect (order_abi_decode program) .UndecodableProgram
  require (order.maker = key.maker.address) .StrategyMakerMismatch
  require (uses_taker_credential order.data taker_credential = true) .UnprotectedStrategy
  require (keccak256 (order_abi_encode order) = key.strategy_hash.hash) .StrategyHashMismatch
  let policy_signature ← expect (authorize (authorization keccak256 plan key deadline_block)) .Signing
  .ok {
    plan
    reservation
    authorization := authorization keccak256 plan key deadline_block
    order := order_abi_encode order
    policy_signature
    calldata := execute_rebate_call keccak256 order (authorization keccak256 plan key deadline_block)
      policy_signature
    published_at }

end FillerRebateCallBuilder

/-! ## Orders -/

theorem tuple_order_parts (order : SwapOrder) :
    tuple order.parts = words [address_word order.maker, order.traits, 96] ++
      encode_bytes (Fin.ofNat _ order.data.length) order.data := by
  show (words [address_word order.maker, order.traits] ++ (word (Fin.ofNat _ 96) ++ [])) ++
    (encode_bytes _ order.data ++ []) = _
  rw [List.append_nil, List.append_nil]
  simp only [words_cons, words_nil, List.append_nil, List.append_assoc]
  rfl

theorem order_abi_encode_eq (order : SwapOrder) :
    order_abi_encode order = word 32 ++ tuple order.parts := by
  show (word (Fin.ofNat _ 32) ++ []) ++ (tuple order.parts ++ []) = _
  rw [List.append_nil, List.append_nil]
  rfl

/-- **Round trip.** An encoded order is read back. -/
theorem order_abi_decode_encode (order : SwapOrder) (h : order.data.length < 2 ^ 255) :
    order_abi_decode (order_abi_encode order) = some order := by
  have hlen : (encode_bytes (Fin.ofNat _ order.data.length) order.data).length < 2 ^ 256 := by
    have hpad := length_padding_lt order.data.length
    rw [encode_bytes, List.length_append, List.length_append, length_word]
    omega
  have hrecord : child (word 32 ++ tuple order.parts) 32 = some (tuple order.parts) := by
    have hval : (32 : U256).val = 32 := rfl
    unfold child
    rw [hval, if_pos (by rw [List.length_append, length_word]; omega), drop_word_append]
  have htail : child (tuple order.parts) 96 =
      some (encode_bytes (Fin.ofNat _ order.data.length) order.data) := by
    have hval : (96 : U256).val = 96 := rfl
    unfold child
    rw [hval, tuple_order_parts, if_pos]
    · exact congrArg some (drop_words_append [address_word order.maker, order.traits, 96] _)
    · rw [List.length_append, length_words]
      simp
  have hmaker : read_word (tuple order.parts) = some (address_word order.maker) := by
    rw [tuple_order_parts, words_cons, List.append_assoc, read_word_append]
  have htraits : read_word ((tuple order.parts).drop 32) = some order.traits := by
    rw [tuple_order_parts, words_cons, List.append_assoc, drop_word_append, words_cons,
      List.append_assoc, read_word_append]
  have hoffset : read_word ((tuple order.parts).drop 64) = some 96 := by
    have hdrop := drop_words_append [address_word order.maker, order.traits]
      (word 96 ++ encode_bytes (Fin.ofNat _ order.data.length) order.data)
    have hparts : tuple order.parts = words [address_word order.maker, order.traits] ++
        (word 96 ++ encode_bytes (Fin.ofNat _ order.data.length) order.data) := by
      rw [tuple_order_parts]
      simp only [words_cons, words_nil, List.append_nil, List.append_assoc]
    rw [hparts]
    exact (congrArg read_word hdrop).trans (read_word_append _ _)
  have hbytes := decode_bytes_behind (le_refl _) hlen []
  rw [List.append_nil] at hbytes
  unfold order_abi_decode
  rw [order_abi_encode_eq]
  simp only [read_word_append, Option.bind_eq_bind, Option.bind_some, hrecord, hmaker, htraits,
    hoffset, htail, hbytes, word_address_word]

theorem decode_bytes_length {data bytes : Bytes} (h : decode_bytes data = some bytes) :
    bytes.length ≤ data.length := by
  unfold decode_bytes at h
  simp only [Option.bind_eq_bind, Option.bind_eq_some_iff] at h
  obtain ⟨length, -, h⟩ := h
  split at h
  · obtain rfl := Option.some.inj h
    rw [List.length_take, List.length_drop]
    omega
  · cases h

theorem child_length {data rest : Bytes} {offset : U256} (h : child data offset = some rest) :
    rest.length ≤ data.length := by
  unfold child at h
  split at h
  · obtain rfl := Option.some.inj h
    rw [List.length_drop]
    omega
  · cases h

/-- An order's data is part of its text. -/
theorem order_abi_decode_length {data : Bytes} {order : SwapOrder}
    (h : order_abi_decode data = some order) : order.data.length ≤ data.length := by
  unfold order_abi_decode at h
  simp only [Option.bind_eq_bind, Option.bind_eq_some_iff] at h
  obtain ⟨offset, -, record, hrecord, maker, -, traits, -, offset', -, tail, htail, bytes, hbytes, h⟩
    := h
  obtain rfl := Option.some.inj h
  exact (decode_bytes_length hbytes).trans ((child_length htail).trans (child_length hrecord))

/-! ## What is built -/

namespace FillerRebateCallBuilder

variable {keccak256 : Bytes → B256} {plan : RebatePlan}

theorem validate_plan_ok {deadline_block : U64} (h : validate_plan plan deadline_block = .ok ()) :
    plan.batch_id.hash ≠ 0 ∧ plan.strategy.maker.address ≠ 0 ∧
      (plan.token_in ≠ 0 ∧ plan.token_out ≠ 0 ∧ plan.token_in ≠ plan.token_out) ∧
      (plan.amount_in ≠ 0 ∧ plan.amount_out ≠ 0 ∧ plan.maker_rebate ≠ 0) ∧
      (plan.amount_in.checked_add plan.maker_rebate).isSome = true ∧ deadline_block ≠ 0 := by
  obtain ⟨hbatch, h⟩ := require_bind.mp h
  obtain ⟨hmaker, h⟩ := require_bind.mp h
  obtain ⟨htokens, h⟩ := require_bind.mp h
  obtain ⟨hamounts, h⟩ := require_bind.mp h
  obtain ⟨hdeposit, h⟩ := require_bind.mp h
  exact ⟨hbatch, hmaker, htokens, hamounts, hdeposit, require_eq_ok.mp h⟩

/-- Work that can be published for a plan and survives a restart. -/
structure Publishes (keccak256 : Bytes → B256) (plan : RebatePlan) (reservation : ReservationId)
    (deadline_block : U64) (execution : RebateExecution) : Prop where
  plan_eq : execution.plan = plan
  reservation_eq : execution.reservation = reservation
  deadline : execution.authorization.deadlineBlock = deadline_block
  nonce : execution.authorization.nonce = rebate_nonce keccak256 plan deadline_block
  loads : stored_execution keccak256 execution = .ok execution
  matches_batch : ∀ batch : RebateBatch, plan.batch_id = batch.id → plan.strategy = batch.strategy →
    execution_matches batch execution = true

/-- **What is built loads again.** -/
theorem build_publishes {taker_credential : Address} {authorize : Authorization → Option Bytes}
    {key : StrategyKey} {program : Bytes} {reservation : ReservationId}
    {deadline_block published_at : U64} {execution : RebateExecution}
    (hsignature : ∀ a signature, authorize a = some signature → signature.length = 65)
    (hprogram : program.length < 2 ^ 64)
    (h : build keccak256 taker_credential authorize key program plan reservation deadline_block
      published_at = .ok execution) :
    Publishes keccak256 plan reservation deadline_block execution := by
  obtain ⟨rfl, h⟩ := require_bind.mp h
  obtain ⟨hplan, h⟩ := check_bind.mp h
  obtain ⟨-, -, -, -, -, hdeadline⟩ := validate_plan_ok hplan
  obtain ⟨order, horder, h⟩ := expect_bind.mp h
  obtain ⟨hmaker, h⟩ := require_bind.mp h
  obtain ⟨-, h⟩ := require_bind.mp h
  obtain ⟨hhash, h⟩ := require_bind.mp h
  obtain ⟨signature, hsigned, h⟩ := expect_bind.mp h
  obtain rfl := Except.ok.inj h
  have hlength := hsignature _ _ hsigned
  have hdecoded := order_abi_decode_encode order
    (lt_of_le_of_lt (order_abi_decode_length horder) (by omega))
  refine ⟨rfl, rfl, rfl, rfl, ?_, fun batch hid hkey => ?_⟩
  · unfold stored_execution
    refine (pass_bind rfl _ _).trans ((pass_bind hlength _ _).trans ?_)
    simp only [hdecoded, expect_some_bind]
    exact (pass_bind ⟨hmaker, hhash⟩ _ _).trans (pass_bind trivial _ _)
  · have horder_ne : order_abi_encode order ≠ [] := by
      rw [order_abi_encode_eq]
      exact fun hnil => by simpa using congrArg List.length hnil
    have hcall_ne : execute_rebate_call keccak256 order
        (authorization keccak256 plan plan.strategy deadline_block) signature ≠ [] := by
      intro hnil
      have hlen := congrArg List.length hnil
      rw [execute_rebate_call, List.length_append, List.length_take, length_word] at hlen
      simp at hlen
    simp only [execution_matches, decide_eq_true_eq, ← hid, ← hkey]
    exact ⟨rfl, rfl, rfl, rfl, rfl, rfl, rfl, rfl, rfl, hdeadline, horder_ne, hlength, hcall_ne⟩

end FillerRebateCallBuilder

end Solvent
