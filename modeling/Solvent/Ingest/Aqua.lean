import Solvent.Contracts.Filler
import Solvent.Ingest.Erc7683
import Solvent.Routing.Service

/-! # Building a fill

    A routed plan becomes the policy-authorized Aqua legs of a filler call: each
    leg's shipped order is read from the registry snapshot, checked to be the
    maker's and to carry the taker-credential gate, and signed as one exact-output
    authorization under a nonce of its own.

    `program` is the byte string a registered strategy was shipped with, and
    `authorize` the policy signer.
-/

namespace Solvent

open Abi Contract
open Contracts (Solvent7683Order SwapOrder Authorization SourceSwap address_word word_address)

inductive FillBuilderError (ε : Type) where
  | NoLegs
  | MissingStrategy
  | UndecodableProgram
  | StrategyMakerMismatch
  | UnprotectedStrategy
  | InvalidOrder
  | Authorization (error : ε)
  deriving DecidableEq

/-! ## Orders and programs -/

/-- `<Order as SolType>::abi_decode`: an offset to the record, and in it an offset
    to its data. The maker's word is masked. -/
def order_abi_decode (data : Bytes) : Option SwapOrder := do
  let record ← child data (← read_word data)
  let maker ← read_word record
  let traits ← read_word (record.drop 32)
  let tail ← child record (← read_word (record.drop 64))
  let data ← decode_bytes tail
  some { maker := word_address maker, traits, data }

/-- Match the credential gate enforced by the fillers. -/
def uses_taker_credential (program : Bytes) (credential : Address) : Bool :=
  22 ≤ program.length ∧ program[0]? = some 0x0e ∧ program[1]? = some 20 ∧
    number ((program.drop 2).take 20) = credential.val

/-! ## Authorizations -/

/-- Inputs that vary for a normal source authorization. -/
structure UserFillAuthorization where
  nonce : U256
  context_hash : B256
  strategy_hash : StrategyHash
  maker : MakerId
  token_in : Address
  token_out : Address
  amount_out : U256
  amount_in_limit : U256

/-- The authorization as the filler contract reads it. It never expires by block:
    the user's signed order carries the expiry. -/
def user_fill (value : UserFillAuthorization) : Authorization where
  kind := .UserFill
  nonce := value.nonce
  contextHash := value.context_hash
  strategyHash := value.strategy_hash.hash
  maker := value.maker.address
  tokenIn := value.token_in
  tokenOut := value.token_out
  amountOut := value.amount_out
  amountInLimit := value.amount_in_limit
  rebateAmount := 0
  deadlineBlock := Fin.last _

/-- What a leg's nonce hashes. -/
def nonce_preimage (context_hash : B256) (leg : RouteLeg) (index : ℕ) : Bytes :=
  words [context_hash, leg.strategy_hash.hash, address_word leg.maker.address,
    address_word leg.token_in, address_word leg.token_out, leg.amount_in, leg.amount_out,
    Fin.ofNat _ index]

section Build

variable {ε : Type} (keccak256 : Bytes → B256) (program : MakerStrategy → Bytes)
variable (authorize : Authorization → Except ε Bytes)

def user_fill_nonce (context_hash : B256) (leg : RouteLeg) (index : ℕ) : U256 :=
  keccak256 (nonce_preimage context_hash leg index)

/-- The authorization of one leg. -/
def leg_authorization (context_hash : B256) (leg : RouteLeg) (index : ℕ) : Authorization :=
  user_fill {
    nonce := user_fill_nonce keccak256 context_hash leg index
    context_hash
    strategy_hash := leg.strategy_hash
    maker := leg.maker
    token_in := leg.token_in
    token_out := leg.token_out
    amount_out := leg.amount_out
    amount_in_limit := leg.amount_in }

structure AquaSourcePlanBuilder where
  app : Address
  taker_credential : Address

namespace AquaSourcePlanBuilder

variable (b : AquaSourcePlanBuilder)

def source_for (leg : RouteLeg) (index : ℕ) (context_hash : B256) (snapshot : Snapshot) :
    Except (FillBuilderError ε) SourceSwap := do
  let key : StrategyKey :=
    { maker := leg.maker, app := b.app, strategy_hash := leg.strategy_hash }
  let strategy ← expect snapshot.strategies[key]? .MissingStrategy
  let order ← expect (order_abi_decode (program strategy)) .UndecodableProgram
  require (order.maker = leg.maker.address) .StrategyMakerMismatch
  require (uses_taker_credential order.data b.taker_credential = true) .UnprotectedStrategy
  let authorization := leg_authorization keccak256 context_hash leg index
  let policySignature ← bubble .Authorization (authorize authorization)
  .ok { order, authorization, policySignature }

/-- The legs from `index` on. -/
def sources_from (context_hash : B256) (snapshot : Snapshot) :
    List RouteLeg → ℕ → Except (FillBuilderError ε) (List SourceSwap)
  | [], _ => .ok []
  | leg :: legs, index => do
    let source ← b.source_for keccak256 program authorize leg index context_hash snapshot
    let sources ← sources_from context_hash snapshot legs (index + 1)
    .ok (source :: sources)

def build (plan : RoutePlan) (context_hash : B256) (snapshot : Snapshot) :
    Except (FillBuilderError ε) (List SourceSwap) := do
  require (plan.legs ≠ []) .NoLegs
  b.sources_from keccak256 program authorize context_hash snapshot plan.legs 0

end AquaSourcePlanBuilder

/-- `sources.abi_encode()` -/
def sources_abi_encode (sources : List SourceSwap) : Bytes :=
  words [32, Fin.ofNat _ sources.length] ++ tuple (sources.map fun source =>
    .behind (tuple [
      .behind (tuple [.here [address_word source.order.maker, source.order.traits],
        .bytes source.order.data]),
      .here source.authorization.to_words,
      .bytes source.policySignature]))

/-- The arguments of `Erc7683AquaFiller.fill`. -/
structure FillCall where
  orderData : Bytes
  permitSignature : Bytes
  sourceData : Bytes
  paymentRecipient : Address

/-- A call and the filler it is for. -/
structure PreparedFill where
  filler : Address
  call : FillCall

structure Erc7683FillBuilder where
  settler : Address
  filler : Address
  payment_recipient : Address
  sources : AquaSourcePlanBuilder

namespace Erc7683FillBuilder

variable (b : Erc7683FillBuilder)

def context_hash (order : Solvent7683Order) : B256 :=
  keccak256 (words [address_word b.settler, order_id keccak256 order,
    address_word b.payment_recipient])

def build (intent : SignedIntent) (plan : RoutePlan) (snapshot : Snapshot) :
    Except (FillBuilderError ε) PreparedFill := do
  require (intent.protocol = .Erc7683) .InvalidOrder
  let order ← expect (decode_masked intent.raw) .InvalidOrder
  require (order.settler = b.settler) .InvalidOrder
  let sources ← b.sources.build keccak256 program authorize plan
    (b.context_hash keccak256 order) snapshot
  .ok {
    filler := b.filler
    call := {
      orderData := intent.raw
      permitSignature := intent.signature
      sourceData := sources_abi_encode sources
      paymentRecipient := b.payment_recipient } }

end Erc7683FillBuilder

end Build

end Solvent
