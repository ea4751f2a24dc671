import Mathlib
import Solvent.Error
import Solvent.Swap.Service

/-! # Quotes and preparations of one chain

    A cross-chain order is quoted and prepared on each of its two chains by that
    chain's own service. A preparation is the durable record of the capital one
    chain holds for one leg; its token is a hash of the aggregate quote, the
    chain and the role, and the reservation behind it in the ledger has the same
    id.

    `SqlitePreparationStore` is the table `crosschain_preparation`. `update`
    overwrites the row of its token whatever it holds.
-/

namespace Solvent

open BTreeMap SwapService

/-! ## Identifiers -/

structure ChainId where
  id : U64
  deriving DecidableEq

structure AggregateQuoteId where
  hash : B256
  deriving DecidableEq

structure PrepareToken where
  hash : B256

theorem PrepareToken.hash_injective : Function.Injective PrepareToken.hash := by
  intro a b h
  cases a
  cases b
  exact congrArg PrepareToken.mk h

instance : LinearOrder PrepareToken := LinearOrder.lift' _ PrepareToken.hash_injective

/-- The reservation behind a token. -/
def PrepareToken.reservation (token : PrepareToken) : ReservationId := ⟨token.hash⟩

theorem PrepareToken.reservation_inj {a b : PrepareToken} :
    a.reservation = b.reservation ↔ a = b := by
  constructor
  · intro h
    exact PrepareToken.hash_injective (congrArg ReservationId.hash h)
  · intro h
    rw [h]

/-! ## Quotes -/

/-- Repayment mechanism selected for an aggregate quote. -/
inductive CrossChainRoute where
  | Direct
  | Cctp
  deriving DecidableEq

/-- The responsibility of a chain-local quote. -/
inductive LegRole where
  | Origin
  | Destination
  deriving DecidableEq

def CrossChainRoute.as_u8 : CrossChainRoute → UInt8
  | Direct => 0
  | Cctp => 1

def LegRole.as_u8 : LegRole → UInt8
  | Origin => 0
  | Destination => 1

/-- A request for one side of a cross-chain route. -/
structure LegQuoteRequest where
  request_id : B256
  role : LegRole
  local_chain : ChainId
  remote_chain : ChainId
  input_token : Address
  output_token : Address
  amount : U256
  deadline_unix : U64
  route : CrossChainRoute
  deriving DecidableEq

/-- A chain-local promise. `sources` is the capital held locally at admission. -/
structure LegQuote where
  quote_id : B256
  request_id : B256
  role : LegRole
  local_chain : ChainId
  remote_chain : ChainId
  input_token : Address
  output_token : Address
  amount_in : U256
  amount_out : U256
  route : CrossChainRoute
  block_number : U64
  expires_at_unix : U64
  sources : List ReservationSource
  deriving DecidableEq

/-- The hash of every field a client could alter. -/
def leg_quote_id (keccak256 : List UInt8 → B256) (quote : LegQuote) : B256 :=
  keccak256 (to_be_bytes 32 quote.request_id ++ [quote.role.as_u8] ++
    to_be_bytes 8 quote.local_chain.id ++ to_be_bytes 8 quote.remote_chain.id ++
    to_be_bytes 20 quote.input_token ++ to_be_bytes 20 quote.output_token ++
    to_be_bytes 32 quote.amount_in ++ to_be_bytes 32 quote.amount_out ++
    [quote.route.as_u8] ++ to_be_bytes 8 quote.block_number ++
    to_be_bytes 8 quote.expires_at_unix ++ to_be_bytes 8 quote.sources.length ++
    quote.sources.flatMap fun source =>
      to_be_bytes 20 source.maker.address ++ to_be_bytes 32 source.strategy_hash.hash ++
        to_be_bytes 20 source.token ++ to_be_bytes 32 source.amount)

/-! ## Preparations -/

/-- State of a chain-local capital hold. -/
inductive PreparationState where
  | Prepared
  | Committed
  | Executed
  | Released
  deriving DecidableEq

def PreparationState.name : PreparationState → String
  | Prepared => "Prepared"
  | Committed => "Committed"
  | Executed => "Executed"
  | Released => "Released"

/-- A refused transition of a preparation. -/
structure PreparationTransition where
  from_state : PreparationState
  to_state : PreparationState
  deriving DecidableEq

def PreparationTransition.to_string (e : PreparationTransition) : String :=
  s!"invalid preparation transition from {e.from_state.name} to {e.to_state.name}"

/-- A durable chain-local hold. -/
structure Preparation where
  token : PrepareToken
  quote_id : AggregateQuoteId
  role : LegRole
  chain_id : ChainId
  state : PreparationState
  expires_at_unix : U64
  deriving DecidableEq

namespace Preparation

/-- The three transitions share this shape: `to_state` from any of `from_states`. -/
def move (p : Preparation) (from_states : List PreparationState) (to_state : PreparationState) :
    Except PreparationTransition Preparation :=
  if p.state ∈ from_states then .ok { p with state := to_state }
  else .error { from_state := p.state, to_state }

def commit (p : Preparation) : Except PreparationTransition Preparation :=
  p.move [.Prepared, .Committed] .Committed

def execute (p : Preparation) : Except PreparationTransition Preparation :=
  p.move [.Committed, .Executed] .Executed

def release (p : Preparation) : Except PreparationTransition Preparation :=
  p.move [.Prepared, .Committed, .Released] .Released

end Preparation

/-- The token of a leg's preparation. -/
def preparation_token (keccak256 : List UInt8 → B256) (quote_id : AggregateQuoteId)
    (chain_id : ChainId) (role : LegRole) : PrepareToken :=
  ⟨keccak256 (to_be_bytes 32 quote_id.hash ++ to_be_bytes 8 chain_id.id ++ [role.as_u8])⟩

/-! ## The preparation store -/

structure SqlitePreparationStore where
  rows : BTreeMap PrepareToken Preparation
  /-- The body of a row is the preparation of its key. -/
  keyed : ∀ (token : PrepareToken) (p : Preparation), rows[token]? = some p → p.token = token

namespace SqlitePreparationStore

def empty : SqlitePreparationStore where
  rows := ∅
  keyed := by simp

/-- Write the row of a preparation's token. -/
def write (store : SqlitePreparationStore) (p : Preparation) : SqlitePreparationStore where
  rows := store.rows.insert p.token p
  keyed := by
    intro token q hq
    rw [get_insert] at hq
    split at hq
    · rename_i htoken
      rw [← Option.some.inj hq]
      exact htoken
    · exact store.keyed token q hq

def load (store : SqlitePreparationStore) (token : PrepareToken) : Option Preparation :=
  store.rows[token]?

/-- `WHERE quote_id = ? AND role = ?` -/
def load_for_quote (store : SqlitePreparationStore) (quote_id : AggregateQuoteId)
    (role : LegRole) : Option Preparation :=
  (values store.rows).find? fun p => p.quote_id = quote_id ∧ p.role = role

/-- `INSERT … ON CONFLICT(token) DO NOTHING`, then read the row back. A second
    token for the same quote and role violates the table's uniqueness. -/
def insert (store : SqlitePreparationStore) (p : Preparation) :
    Except PreparationStoreError Preparation × SqlitePreparationStore :=
  match i64_of p.chain_id.id, i64_of p.expires_at_unix with
  | .error e, _ => (.error (.Backend e), store)
  | _, .error e => (.error (.Backend e), store)
  | .ok _, .ok _ =>
    match store.load p.token with
    | some stored =>
      if stored = p then (.ok stored, store) else (.error .Conflict, store)
    | none =>
      if (store.load_for_quote p.quote_id p.role).isSome then
        (.error (.Backend "UNIQUE constraint failed"), store)
      else (.ok p, store.write p)

/-- `UPDATE … WHERE token = ?` -/
def update (store : SqlitePreparationStore) (p : Preparation) :
    Except PreparationStoreError Unit × SqlitePreparationStore :=
  match store.load p.token with
  | none => (.error (.Backend "preparation disappeared during update"), store)
  | some _ => (.ok (), store.write p)

theorem load_write (store : SqlitePreparationStore) (p : Preparation) (token : PrepareToken) :
    (store.write p).load token = if p.token = token then some p else store.load token :=
  get_insert store.rows p.token token p

/-- **What an insert does.** It fails without effect, finds its own row, or
    writes it where there was none. -/
theorem insert_cases (store : SqlitePreparationStore) (p : Preparation) :
    (∃ e, store.insert p = (.error e, store)) ∨
    (store.insert p = (.ok p, store) ∧ store.load p.token = some p) ∨
    (store.insert p = (.ok p, store.write p) ∧ store.load p.token = none) := by
  unfold insert
  split
  · exact .inl ⟨_, rfl⟩
  · exact .inl ⟨_, rfl⟩
  · cases hrow : store.load p.token with
    | some stored =>
      simp only
      split
      · rename_i hsame
        subst hsame
        exact .inr (.inl ⟨rfl, rfl⟩)
      · exact .inl ⟨_, rfl⟩
    | none =>
      simp only
      split
      · exact .inl ⟨_, rfl⟩
      · exact .inr (.inr ⟨rfl, by simp⟩)

/-- **What an update does.** It fails without effect where there is no row. -/
theorem update_cases (store : SqlitePreparationStore) (p : Preparation) :
    (∃ e, store.update p = (.error e, store) ∧ store.load p.token = none) ∨
    (store.update p = (.ok (), store.write p) ∧ (store.load p.token).isSome) := by
  unfold update
  cases hrow : store.load p.token with
  | none => exact .inl ⟨_, rfl, rfl⟩
  | some q => exact .inr ⟨rfl, by simp⟩

end SqlitePreparationStore

end Solvent
