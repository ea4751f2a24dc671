import Mathlib
import Solvent.Primitives

/-! # The reservation ledger

    The pure double-entry engine. Budgets are fed from outside; the ledger owns
    two compartments per account, `pending` (held by open reservations) and
    `consumed` (settled by posted ones), and derives `available` from the three.

    A command takes the ledger and returns its answer together with the ledger
    it leaves behind. The loops over sources and their accounts are written as
    the list of compartment updates they perform, in the order the loop
    performs them: an update is one saturating operation on one account.
-/

namespace Solvent

/-! ## State -/

/-- One account's two compartments. -/
structure Held where
  pending : U256
  consumed : U256
  deriving DecidableEq

def Held.default : Held := { pending := 0, consumed := 0 }

structure Ledger where
  budgets : BTreeMap AccountKey U256
  held : BTreeMap AccountKey Held
  reservations : BTreeMap ReservationId Reservation
  filled : BTreeMap ReservationId (List U256)

/-- The account a reserve could not fit and by how much. -/
structure Shortfall where
  account : AccountKey
  requested : U256
  available : U256
  deriving DecidableEq

inductive LedgerError where
  | Duplicate (id : ReservationId)
  | Unknown (id : ReservationId)
  | WrongState (id : ReservationId) (found expected : ReservationState)
  | Insufficient (shortfall : Shortfall)
  | FillCountMismatch (got want : ℕ)
  | FillExceedsReserved (index : ℕ) (filled reserved : U256)
  deriving DecidableEq

/-! ## Compartment updates -/

/-- One saturating operation on a compartment. -/
inductive HoldStep where
  /-- `pending = pending.saturating_add(amount)` -/
  | hold (amount : U256)
  /-- `pending = pending.saturating_sub(amount)` -/
  | release (amount : U256)
  /-- `consumed = consumed.saturating_add(amount)` -/
  | consume (amount : U256)
  /-- `consumed = consumed.saturating_sub(amount)` -/
  | reverse (amount : U256)
  deriving DecidableEq

def HoldStep.apply : HoldStep → Held → Held
  | hold amount, h => { h with pending := h.pending.saturating_add amount }
  | release amount, h => { h with pending := h.pending.saturating_sub amount }
  | consume amount, h => { h with consumed := h.consumed.saturating_add amount }
  | reverse amount, h => { h with consumed := h.consumed.saturating_sub amount }

/-- Whether the operation would leave the range of a word, so that saturating
    changes its result. -/
def HoldStep.Clamps : HoldStep → Held → Prop
  | hold amount, h => 2 ^ 256 ≤ h.pending.val + amount.val
  | release amount, h => h.pending.val < amount.val
  | consume amount, h => 2 ^ 256 ≤ h.consumed.val + amount.val
  | reverse amount, h => h.consumed.val < amount.val

/-- `held.entry(account).or_default()` followed by the update. -/
def apply_step (held : BTreeMap AccountKey Held) (u : AccountKey × HoldStep) :
    BTreeMap AccountKey Held :=
  BTreeMap.entry held u.1 Held.default u.2.apply

def apply_steps (held : BTreeMap AccountKey Held) (updates : List (AccountKey × HoldStep)) :
    BTreeMap AccountKey Held :=
  updates.foldl apply_step held

/-- The operations `ops`, in order, at each of the two accounts of a source:
    `for account in source.accounts() { ops }`. -/
def ReservationSource.steps (source : ReservationSource) (ops : List HoldStep) :
    List (AccountKey × HoldStep) :=
  source.accounts.flatMap fun account => ops.map fun op => (account, op)

namespace Ledger

/-- `Ledger::default()` -/
def empty : Ledger := { budgets := ∅, held := ∅, reservations := ∅, filled := ∅ }

/-! ## Reads -/

/-- An account's fed budget, zero if never funded. -/
def budget (l : Ledger) (account : AccountKey) : U256 :=
  BTreeMap.get_or l.budgets account 0

def held_at (l : Ledger) (account : AccountKey) : Held :=
  BTreeMap.get_or l.held account Held.default

def pending (l : Ledger) (account : AccountKey) : U256 :=
  (l.held_at account).pending

def consumed (l : Ledger) (account : AccountKey) : U256 :=
  (l.held_at account).consumed

/-- Room left at an account: `budget − (pending + consumed)`, clamped at zero. -/
def available (l : Ledger) (account : AccountKey) : U256 :=
  (l.budget account).saturating_sub
    ((l.pending account).saturating_add (l.consumed account))

def reservation (l : Ledger) (id : ReservationId) : Option Reservation :=
  l.reservations[id]?

/-- Every account the ledger knows mapped to its available room. -/
def available_snapshot (l : Ledger) : BTreeMap AccountKey U256 :=
  (l.budgets.keys ++ l.held.keys).foldl
    (fun snapshot account => snapshot.insert account (l.available account)) ∅

/-- The pending swap reservations whose TTL has elapsed as of `now`. -/
def expired_swaps_as_of (l : Ledger) (now : U64) : List ReservationId :=
  ((BTreeMap.values l.reservations).filter fun r =>
    r.state = .Pending ∧ r.expires_at ≤ now ∧ r.owner.swap_intent.isSome).map Reservation.id

/-! ## Demand -/

/-- The additions `aggregate_demand` makes, in order: every source's amount at
    each of its two accounts. -/
def demand_entries (sources : List ReservationSource) : List (AccountKey × U256) :=
  sources.flatMap fun source => source.accounts.map fun account => (account, source.amount)

def add_demand (demand : BTreeMap AccountKey U256) (d : AccountKey × U256) :
    BTreeMap AccountKey U256 :=
  BTreeMap.entry demand d.1 0 fun sum => sum.saturating_add d.2

/-- Sum a source set's demand per account: sources on the same wallet token, or
    the same strategy token, add up. -/
def aggregate_demand (sources : List ReservationSource) : BTreeMap AccountKey U256 :=
  (demand_entries sources).foldl add_demand ∅

/-- The first account of `demand` with less room than is requested of it. -/
def first_shortfall (l : Ledger) (demand : List (AccountKey × U256)) : Option Shortfall :=
  demand.findSome? fun d =>
    if l.available d.1 < d.2 then
      some { account := d.1, requested := d.2, available := l.available d.1 }
    else none

/-- Test the two-ceiling admission without mutating. -/
def can_reserve (l : Ledger) (reservation : Reservation) : Except LedgerError Unit :=
  if (l.reservations[reservation.id]?).isSome then .error (.Duplicate reservation.id)
  else match l.first_shortfall (aggregate_demand reservation.sources).toList with
    | some shortfall => .error (.Insufficient shortfall)
    | none => .ok ()

/-! ## Commands -/

/-- Feed one account's budget; the latest value wins. -/
def set_budget (l : Ledger) (account : AccountKey) (budget : U256) : Ledger :=
  { l with budgets := l.budgets.insert account budget }

/-- Replace the fed budgets wholesale; holds are untouched. -/
def set_budgets (l : Ledger) (budgets : BTreeMap AccountKey U256) : Ledger :=
  { l with budgets }

/-- The updates that place a reservation's holds. -/
def restore_steps (sources : List ReservationSource) : List (AccountKey × HoldStep) :=
  (aggregate_demand sources).toList.map fun d => (d.1, .hold d.2)

/-- Place a reservation's holds and record it, without re-checking admission.
    A reservation already recorded is left untouched. -/
def restore (l : Ledger) (reservation : Reservation) : Ledger :=
  if (l.reservations[reservation.id]?).isSome then l
  else
    { l with
      held := apply_steps l.held (restore_steps reservation.sources)
      reservations := l.reservations.insert reservation.id reservation }

/-- Admit a reservation: `can_reserve`, then `restore`. -/
def reserve (l : Ledger) (reservation : Reservation) : Except LedgerError Unit × Ledger :=
  match l.can_reserve reservation with
  | .error e => (.error e, l)
  | .ok () => (.ok (), l.restore reservation)

/-- Set a known reservation's state; a missing entry is ignored. -/
def transition (l : Ledger) (id : ReservationId) (state : ReservationState) : Ledger :=
  match l.reservations[id]? with
  | some r => { l with reservations := l.reservations.insert id { r with state } }
  | none => l

/-- Protect a prepared hold from TTL expiry while it stays in `pending`. -/
def commit (l : Ledger) (id : ReservationId) : Except LedgerError Unit × Ledger :=
  match l.reservations[id]? with
  | none => (.error (.Unknown id), l)
  | some r =>
    match r.state with
    | .Pending => (.ok (), l.transition id .Committed)
    | .Committed => (.ok (), l)
    | state => (.error (.WrongState id state .Pending), l)

/-- The sources of a reservation that still holds capital. -/
def active_sources (l : Ledger) (id : ReservationId) :
    Except LedgerError (List ReservationSource) :=
  match l.reservations[id]? with
  | none => .error (.Unknown id)
  | some r =>
    match r.state with
    | .Pending | .Committed => .ok r.sources
    | state => .error (.WrongState id state .Pending)

def require_state (r : Reservation) (expected : ReservationState) : Except LedgerError Unit :=
  if r.state = expected then .ok () else .error (.WrongState r.id r.state expected)

def pending_sources (l : Ledger) (id : ReservationId) :
    Except LedgerError (List ReservationSource) :=
  match l.reservations[id]? with
  | none => .error (.Unknown id)
  | some r =>
    match require_state r .Pending with
    | .error e => .error e
    | .ok () => .ok r.sources

/-- The first fill above what its source reserved. -/
def first_overfill : ℕ → List ReservationSource → List U256 → Option LedgerError
  | index, source :: sources, fill :: filled =>
    if source.amount < fill then some (.FillExceedsReserved index fill source.amount)
    else first_overfill (index + 1) sources filled
  | _, _, _ => none

/-- The updates that settle a reservation: each source's hold leaves `pending`
    and the amount really pulled enters `consumed`, at both accounts. -/
def post_steps (sources : List ReservationSource) (filled : List U256) :
    List (AccountKey × HoldStep) :=
  (sources.zip filled).flatMap fun p => p.1.steps [.release p.1.amount, .consume p.2]

/-- Settle a reservation with the amount actually pulled per source. -/
def post (l : Ledger) (id : ReservationId) (filled : List U256) :
    Except LedgerError Unit × Ledger :=
  match l.active_sources id with
  | .error e => (.error e, l)
  | .ok sources =>
    if filled.length ≠ sources.length then
      (.error (.FillCountMismatch filled.length sources.length), l)
    else match first_overfill 0 sources filled with
      | some e => (.error e, l)
      | none =>
        (.ok (), transition { l with
          held := apply_steps l.held (post_steps sources filled)
          filled := l.filled.insert id filled } id .Posted)

/-- The updates that give a reservation's holds back. -/
def release_steps (sources : List ReservationSource) : List (AccountKey × HoldStep) :=
  sources.flatMap fun source => source.steps [.release source.amount]

def release_sources (l : Ledger) (id : ReservationId) (sources : List ReservationSource)
    (terminal : ReservationState) : Ledger :=
  transition { l with held := apply_steps l.held (release_steps sources) } id terminal

/-- Release a lost auction or reverted fill. -/
def void (l : Ledger) (id : ReservationId) : Except LedgerError Unit × Ledger :=
  match l.active_sources id with
  | .error e => (.error e, l)
  | .ok sources => (.ok (), l.release_sources id sources .Voided)

/-- Release an elapsed reservation. -/
def expire (l : Ledger) (id : ReservationId) : Except LedgerError Unit × Ledger :=
  match l.pending_sources id with
  | .error e => (.error e, l)
  | .ok sources => (.ok (), l.release_sources id sources .Expired)

/-- The updates that take a settlement back: `filled.get(index)`, zero when the
    record is too short. -/
def reorg_steps : List ReservationSource → List U256 → List (AccountKey × HoldStep)
  | [], _ => []
  | source :: sources, filled =>
    source.steps [.reverse (filled.headD 0)] ++ reorg_steps sources filled.tail

/-- Reverse a posted settlement that a chain reorg rolled back. -/
def void_reorg (l : Ledger) (id : ReservationId) : Except LedgerError Unit × Ledger :=
  match l.reservations[id]? with
  | none => (.error (.Unknown id), l)
  | some r =>
    match require_state r .Posted with
    | .error e => (.error e, l)
    | .ok () =>
      (.ok (), transition { l with
        held := apply_steps l.held (reorg_steps r.sources (BTreeMap.get_or l.filled id []))
        filled := l.filled.erase id } id .ReorgOpen)

end Ledger

end Solvent
