import Mathlib
import Solvent.Error
import Solvent.Ledger.Commands

/-! # The ledger service

    The single writer in front of the engine. Every command writes the durable
    row first and then the in-memory ledger; `available` is the snapshot the
    quote path reads, republished after each command that succeeds.

    The store is the table `ledger_reservation`, keyed by reservation id. Each
    store call is one statement, so a call that answers with an error has
    written nothing.
-/

namespace Solvent

open BTreeMap

/-! ## The durable store -/

/-- A row of `ledger_reservation`. `expires_at` is a non-negative 64-bit signed
    column. -/
structure LedgerRow where
  owner : ReservationOwner
  sources : List ReservationSource
  state : ReservationState
  filled : Option (List U256)
  expires_at : I64
  deriving DecidableEq

/-- The reservation a row describes. -/
def LedgerRow.reservation (row : LedgerRow) (id : ReservationId) : Reservation :=
  { id, owner := row.owner, sources := row.sources, state := row.state,
    expires_at := ⟨row.expires_at.val, by omega⟩ }

abbrev SqliteLedgerStore : Type := BTreeMap ReservationId LedgerRow

namespace SqliteLedgerStore

/-- `UPDATE … SET change WHERE id = ? AND state IN (from)` -/
def update_where (store : SqliteLedgerStore) (id : ReservationId)
    (from_states : List ReservationState) (change : LedgerRow → LedgerRow) : SqliteLedgerStore :=
  match store[id]? with
  | some row => if row.state ∈ from_states then store.insert id (change row) else store
  | none => store

/-- Move a reservation between two states; a no-op unless it is in `from`. -/
def transition (store : SqliteLedgerStore) (id : ReservationId)
    (to_state from_state : ReservationState) : SqliteLedgerStore :=
  update_where store id [from_state] fun row => { row with state := to_state }

/-- `INSERT … ON CONFLICT DO NOTHING`. A row already there is accepted only when
    it is the same pending reservation. -/
def reserve (store : SqliteLedgerStore) (reservation : Reservation) :
    Except LedgerStoreError Unit × SqliteLedgerStore :=
  match i64_of reservation.expires_at with
  | .error e => (.error (.Db e), store)
  | .ok expires_at =>
    match store[reservation.id]? with
    | none =>
      (.ok (), store.insert reservation.id
        { owner := reservation.owner, sources := reservation.sources, state := .Pending,
          filled := none, expires_at })
    | some row =>
      if row.state = .Pending ∧ row.owner = reservation.owner ∧
          row.sources = reservation.sources ∧ row.expires_at = expires_at then
        (.ok (), store)
      else (.error (.Conflict reservation.id), store)

def commit (store : SqliteLedgerStore) (id : ReservationId) : SqliteLedgerStore :=
  transition store id .Committed .Pending

def post (store : SqliteLedgerStore) (id : ReservationId) (filled : List U256) :
    SqliteLedgerStore :=
  update_where store id [.Pending, .Committed] fun row =>
    { row with state := .Posted, filled := some filled }

def void (store : SqliteLedgerStore) (id : ReservationId) : SqliteLedgerStore :=
  update_where store id [.Pending, .Committed] fun row => { row with state := .Voided }

def expire (store : SqliteLedgerStore) (id : ReservationId) : SqliteLedgerStore :=
  transition store id .Expired .Pending

def void_reorg (store : SqliteLedgerStore) (id : ReservationId) : SqliteLedgerStore :=
  transition store id .ReorgOpen .Posted

/-- The reservations still holding capacity, in id order. -/
def open_reservations (store : SqliteLedgerStore) : List Reservation :=
  (store.toList.filter fun b => b.2.state.is_open).map fun b => b.2.reservation b.1

end SqliteLedgerStore

/-! ## The service -/

structure LedgerService where
  ledger : Ledger
  store : SqliteLedgerStore
  /-- The published `AvailableSnapshot`. -/
  snapshot : BTreeMap AccountKey U256

/-- What the service asks its ports for during one call: the clock, and the
    budget source's answer for an account. -/
structure Reads where
  now_unix : U64
  budget : AccountKey → Except SolventError U256

/-- The distinct accounts of a source set, in order. -/
def accounts_of (sources : List ReservationSource) : List AccountKey :=
  (Std.ExtTreeSet.ofList (sources.flatMap ReservationSource.accounts) compare).toList

namespace LedgerService

/-- A fresh service over a store. -/
def new (store : SqliteLedgerStore) : LedgerService :=
  { ledger := .empty, store, snapshot := ∅ }

/-- Available room at `account`, as the quote path reads it. -/
def available (s : LedgerService) (account : AccountKey) : U256 :=
  get_or s.snapshot account 0

def publish (s : LedgerService) : LedgerService :=
  { s with snapshot := s.ledger.available_snapshot }

def read_budgets (reads : Reads) (accounts : List AccountKey) :
    Except SolventError (List (AccountKey × U256)) :=
  accounts.mapM fun account => (reads.budget account).map fun budget => (account, budget)

/-- `for (account, budget) in budgets { ledger.set_budget(account, budget) }` -/
def feed (l : Ledger) (budgets : List (AccountKey × U256)) : Ledger :=
  budgets.foldl (fun l b => l.set_budget b.1 b.2) l

/-- Check, persist, hold. -/
def reserve_owned (s : LedgerService) (reservation : Reservation)
    (budgets : List (AccountKey × U256)) : Except SolventError Unit × LedgerService :=
  let ledger := feed s.ledger budgets
  match ledger.can_reserve reservation with
  | .error e => (.error (.Ledger e), { s with ledger })
  | .ok () =>
    match SqliteLedgerStore.reserve s.store reservation with
    | (.error e, store) => (.error (.LedgerStore e), { s with ledger, store })
    | (.ok (), store) =>
      (.ok (), publish { s with ledger := ledger.restore reservation, store })

/-- Admit a reservation for `ttl_secs`; the budgets are read before the lock. -/
def reserve (s : LedgerService) (reads : Reads) (id : ReservationId) (intent : IntentId)
    (sources : List ReservationSource) (ttl_secs : U64) :
    Except SolventError Unit × LedgerService :=
  match read_budgets reads (accounts_of sources) with
  | .error e => (.error e, s)
  | .ok budgets =>
    s.reserve_owned
      (.for_swap id intent sources (reads.now_unix.saturating_add ttl_secs)) budgets

/-- Admit a restoration reservation. -/
def reserve_rebate (s : LedgerService) (reads : Reads) (id : ReservationId)
    (batch : RebateBatchId) (sources : List ReservationSource) (ttl_secs : U64) :
    Except SolventError Unit × LedgerService :=
  match read_budgets reads (accounts_of sources) with
  | .error e => (.error e, s)
  | .ok budgets =>
    s.reserve_owned
      (.for_rebate id batch sources (reads.now_unix.saturating_add ttl_secs)) budgets

/-- The durable-first pair shared by the commands on a known id: `store` is
    already written when the engine answers, and only a success is published. -/
def durable_first (s : LedgerService) (store : SqliteLedgerStore)
    (answer : Except LedgerError Unit × Ledger) : Except SolventError Unit × LedgerService :=
  match answer with
  | (.error e, ledger) => (.error (.Ledger e), { s with store, ledger })
  | (.ok (), ledger) => (.ok (), publish { s with store, ledger })

/-- Record settlement with the amount actually pulled per source. -/
def post (s : LedgerService) (id : ReservationId) (filled : List U256) :
    Except SolventError Unit × LedgerService :=
  s.durable_first (SqliteLedgerStore.post s.store id filled) (s.ledger.post id filled)

/-- Protect a hold from TTL expiry. -/
def commit (s : LedgerService) (id : ReservationId) : Except SolventError Unit × LedgerService :=
  s.durable_first (SqliteLedgerStore.commit s.store id) (s.ledger.commit id)

/-- Release a lost auction or reverted fill. -/
def void (s : LedgerService) (id : ReservationId) : Except SolventError Unit × LedgerService :=
  s.durable_first (SqliteLedgerStore.void s.store id) (s.ledger.void id)

/-- Release one elapsed reservation. -/
def expire (s : LedgerService) (id : ReservationId) : Except SolventError Unit × LedgerService :=
  s.durable_first (SqliteLedgerStore.expire s.store id) (s.ledger.expire id)

/-- Reverse a posted settlement a reorg rolled back. -/
def void_reorg (s : LedgerService) (id : ReservationId) :
    Except SolventError Unit × LedgerService :=
  s.durable_first (SqliteLedgerStore.void_reorg s.store id) (s.ledger.void_reorg id)

/-- The sources of a pending `id`. -/
def reservation_sources (s : LedgerService) (id : ReservationId) :
    Option (List ReservationSource) :=
  ((s.ledger.reservation id).filter fun r => r.state = .Pending).map Reservation.sources

/-- The sources of a committed or already posted `id`. -/
def settlement_reservation_sources (s : LedgerService) (id : ReservationId) :
    Option (List ReservationSource) :=
  ((s.ledger.reservation id).filter fun r => r.state = .Committed ∨ r.state = .Posted).map
    Reservation.sources

/-- The loop of the sweep: expire each id in turn, stopping at the first error. -/
def sweep_loop (s : LedgerService) :
    List ReservationId → Except SolventError (List IntentId) × LedgerService
  | [] => (.ok [], s)
  | id :: ids =>
    let intent := (s.ledger.reservation id).bind fun r => r.owner.swap_intent
    match s.ledger.expire id with
    | (.error e, ledger) =>
      (.error (.Ledger e),
        { s with store := SqliteLedgerStore.expire s.store id, ledger })
    | (.ok (), ledger) =>
      match sweep_loop { s with store := SqliteLedgerStore.expire s.store id, ledger } ids with
      | (.error e, s') => (.error e, s')
      | (.ok swept, s') => (.ok (intent.toList ++ swept), s')

/-- Expire every pending swap reservation past its TTL, except those in `exclude`. -/
def sweep_expired (s : LedgerService) (reads : Reads) (exclude : List ReservationId) :
    Except SolventError (List IntentId) × LedgerService :=
  let expired := (s.ledger.expired_swaps_as_of reads.now_unix).filter (· ∉ exclude)
  match s.sweep_loop expired with
  | (.error e, s') => (.error e, s')
  | (.ok swept, s') => (.ok swept, if expired.isEmpty then s' else s'.publish)

/-- Replay the durably open reservations into the in-memory ledger. -/
def recover_loop (l : Ledger) (reads : Reads) :
    List Reservation → Except SolventError Unit × Ledger
  | [] => (.ok (), l)
  | r :: rs =>
    match read_budgets reads (accounts_of r.sources) with
    | .error e => (.error e, l)
    | .ok budgets => recover_loop ((feed l budgets).restore r) reads rs

/-- Rebuild the in-memory holds after a restart. -/
def recover (s : LedgerService) (reads : Reads) : Except SolventError Unit × LedgerService :=
  match recover_loop s.ledger reads (SqliteLedgerStore.open_reservations s.store) with
  | (.error e, ledger) => (.error e, { s with ledger })
  | (.ok (), ledger) => (.ok (), publish { s with ledger })

/-- Replace the fed budgets with the budget source's answer for the book. -/
def sync_budgets (s : LedgerService) (answer : Except SolventError (BTreeMap AccountKey U256)) :
    Except SolventError Unit × LedgerService :=
  match answer with
  | .error e => (.error e, s)
  | .ok budgets => (.ok (), publish { s with ledger := s.ledger.set_budgets budgets })

end LedgerService

/-! ## Service commands -/

inductive ServiceCommand where
  | reserve (reads : Reads) (id : ReservationId) (intent : IntentId)
      (sources : List ReservationSource) (ttl_secs : U64)
  | reserve_rebate (reads : Reads) (id : ReservationId) (batch : RebateBatchId)
      (sources : List ReservationSource) (ttl_secs : U64)
  | reserve_owned (id : ReservationId) (owner : ReservationOwner)
      (sources : List ReservationSource) (expires_at : U64) (budgets : List (AccountKey × U256))
  | commit (id : ReservationId)
  | post (id : ReservationId) (filled : List U256)
  | void (id : ReservationId)
  | expire (id : ReservationId)
  | void_reorg (id : ReservationId)
  | sweep_expired (reads : Reads) (exclude : List ReservationId)
  | sync_budgets (answer : Except SolventError (BTreeMap AccountKey U256))

namespace LedgerService

/-- The answer without a payload, as a list of swept intents. -/
def no_intents (p : Except SolventError Unit × LedgerService) :
    Except SolventError (List IntentId) × LedgerService :=
  (p.1.map fun _ => [], p.2)

def exec (s : LedgerService) : ServiceCommand → Except SolventError (List IntentId) × LedgerService
  | .reserve reads id intent sources ttl_secs =>
    no_intents (s.reserve reads id intent sources ttl_secs)
  | .reserve_rebate reads id batch sources ttl_secs =>
    no_intents (s.reserve_rebate reads id batch sources ttl_secs)
  | .reserve_owned id owner sources expires_at budgets =>
    no_intents (s.reserve_owned (.new id owner sources expires_at) budgets)
  | .commit id => no_intents (s.commit id)
  | .post id filled => no_intents (s.post id filled)
  | .void id => no_intents (s.void id)
  | .expire id => no_intents (s.expire id)
  | .void_reorg id => no_intents (s.void_reorg id)
  | .sweep_expired reads exclude => s.sweep_expired reads exclude
  | .sync_budgets answer => no_intents (s.sync_budgets answer)

def next (s : LedgerService) (c : ServiceCommand) : LedgerService := (s.exec c).2

end LedgerService

end Solvent
