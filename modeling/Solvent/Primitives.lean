import Mathlib
import Solvent.Framework.Word
import Solvent.Framework.BTreeMap

/-! # Identifiers, accounts and reservations

    The value types of the reservation ledger: who owns capital (`MakerId`),
    where it sits (`StrategyHash`), the two ceilings a pull is held against
    (`AccountKey`) and the promise that holds it (`Reservation`).

    Addresses and hashes are fixed-width byte strings; their order, which fixes
    the iteration order of every map keyed by them, is that of the big-endian
    number.
-/

namespace Solvent

/-! ## Identifiers -/

/-- A 20-byte account or token address. -/
abbrev Address : Type := Fin (2 ^ 160)

/-- A 32-byte hash. -/
abbrev B256 : Type := Fin (2 ^ 256)

structure MakerId where
  address : Address

structure StrategyHash where
  hash : B256

structure ReservationId where
  hash : B256

structure IntentId where
  hash : B256

structure RebateBatchId where
  hash : B256
  deriving DecidableEq

theorem MakerId.address_injective : Function.Injective MakerId.address := by
  intro a b h
  cases a
  cases b
  exact congrArg MakerId.mk h

theorem StrategyHash.hash_injective : Function.Injective StrategyHash.hash := by
  intro a b h
  cases a
  cases b
  exact congrArg StrategyHash.mk h

theorem ReservationId.hash_injective : Function.Injective ReservationId.hash := by
  intro a b h
  cases a
  cases b
  exact congrArg ReservationId.mk h

theorem IntentId.hash_injective : Function.Injective IntentId.hash := by
  intro a b h
  cases a
  cases b
  exact congrArg IntentId.mk h

instance : LinearOrder MakerId := LinearOrder.lift' _ MakerId.address_injective
instance : LinearOrder StrategyHash := LinearOrder.lift' _ StrategyHash.hash_injective
instance : LinearOrder ReservationId := LinearOrder.lift' _ ReservationId.hash_injective

instance reservationId_lawfulBEq : LawfulBEq ReservationId := inferInstance

instance reservationId_transCmp :
    Std.TransCmp (compare : ReservationId → ReservationId → Ordering) := inferInstance

instance : LinearOrder IntentId := LinearOrder.lift' _ IntentId.hash_injective

instance intentId_lawfulBEq : LawfulBEq IntentId := inferInstance

instance intentId_transCmp :
    Std.TransCmp (compare : IntentId → IntentId → Ordering) := inferInstance

/-! ## Accounts -/

/-- A ceiling a reserved pull is held against: the maker's wallet, shared by
    all its strategies, or one strategy's virtual balance. -/
inductive AccountKey where
  | WalletBudget (maker : MakerId) (token : Address)
  | StrategyVirtual (maker : MakerId) (strategy_hash : StrategyHash) (token : Address)

namespace AccountKey

/-- The fields in comparison order. Every wallet comes before every virtual. -/
def fields : AccountKey → ℕ ×ₗ MakerId ×ₗ StrategyHash ×ₗ Address
  | WalletBudget maker token => toLex (0, toLex (maker, toLex (⟨0⟩, token)))
  | StrategyVirtual maker hash token => toLex (1, toLex (maker, toLex (hash, token)))

theorem fields_injective : Function.Injective fields := by
  intro a b h
  cases a <;> cases b <;> simp_all [fields]

instance : LinearOrder AccountKey := LinearOrder.lift' _ fields_injective

instance accountKey_transCmp :
    Std.TransCmp (compare : AccountKey → AccountKey → Ordering) := inferInstance

end AccountKey

/-! ## Reservations -/

/-- One source of maker capital: `amount` of `token` out of one strategy. -/
structure ReservationSource where
  maker : MakerId
  strategy_hash : StrategyHash
  token : Address
  amount : U256
  deriving DecidableEq

/-- The two accounts a source is held against. -/
def ReservationSource.accounts (s : ReservationSource) : List AccountKey :=
  [.WalletBudget s.maker s.token, .StrategyVirtual s.maker s.strategy_hash s.token]

inductive ReservationState where
  | Pending
  | Committed
  | Posted
  | Voided
  | Expired
  | ReorgOpen
  deriving DecidableEq

/-- The operation whose inventory promise a reservation protects. -/
inductive ReservationOwner where
  | Swap (intent : IntentId)
  | Rebate (batch : RebateBatchId)
  deriving DecidableEq

/-- The swap intent when this is a normal fill reservation. -/
def ReservationOwner.swap_intent : ReservationOwner → Option IntentId
  | Swap intent => some intent
  | Rebate _ => none

structure Reservation where
  id : ReservationId
  owner : ReservationOwner
  sources : List ReservationSource
  state : ReservationState
  /-- Unix seconds after which a TTL sweep may expire the reservation. -/
  expires_at : U64
  deriving DecidableEq

namespace Reservation

/-- A fresh `Pending` reservation. -/
def new (id : ReservationId) (owner : ReservationOwner) (sources : List ReservationSource)
    (expires_at : U64) : Reservation :=
  { id, owner, sources, state := .Pending, expires_at }

/-- A fresh reservation owned by a swap intent. -/
def for_swap (id : ReservationId) (intent : IntentId) (sources : List ReservationSource)
    (expires_at : U64) : Reservation :=
  new id (.Swap intent) sources expires_at

/-- A fresh reservation owned by a price-restoration batch. -/
def for_rebate (id : ReservationId) (batch : RebateBatchId) (sources : List ReservationSource)
    (expires_at : U64) : Reservation :=
  new id (.Rebate batch) sources expires_at

end Reservation

end Solvent
