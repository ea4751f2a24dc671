import Mathlib
import Solvent.Ledger.Service
import Solvent.Registry.Event

/-! # The execution service

    The last leg of the intent lifecycle: submit a reserved fill, and settle
    every tracked fill whose transaction reached a terminal state. The in-flight
    set is the durable table `inflight_fill`; what the transaction engine
    reports for a fill, and the events of a mined transaction, are read from
    outside.
-/

namespace Solvent

open BTreeMap

/-! ## Tracked fills -/

inductive ExecStatus where
  | Pending
  | Confirmed (block : U64) (tx : B256)
  | Failed (reason : String)
  | Dropped
  deriving DecidableEq

/-- A submitted fill: the intent it settles and the reservation it will post or
    void. -/
structure TrackedFill where
  intent : IntentId
  reservation : ReservationId
  deriving DecidableEq

/-- The table `inflight_fill`, keyed by the order hash, in scan order. -/
structure SqliteFillStore where
  rows : List TrackedFill
  unique_intent : (rows.map TrackedFill.intent).Nodup

namespace SqliteFillStore

def empty : SqliteFillStore where
  rows := []
  unique_intent := List.nodup_nil

/-- `INSERT … ON CONFLICT (order_hash) DO NOTHING` -/
def track (store : SqliteFillStore) (intent : IntentId) (reservation : ReservationId) :
    SqliteFillStore :=
  if h : intent ∈ store.rows.map TrackedFill.intent then store
  else
    { rows := store.rows ++ [{ intent, reservation }]
      unique_intent := by
        rw [List.map_append, List.nodup_append]
        refine ⟨store.unique_intent, by simp, ?_⟩
        intro a ha b hb hab
        simp only [List.map_cons, List.map_nil, List.mem_singleton] at hb
        exact h (hb ▸ hab ▸ ha) }

/-- Drop a settled fill. -/
def untrack (store : SqliteFillStore) (intent : IntentId) : SqliteFillStore where
  rows := store.rows.filter fun f => f.intent ≠ intent
  unique_intent := (List.filter_sublist.map _).nodup store.unique_intent

end SqliteFillStore

inductive SettledOutcome where
  | Confirmed (tx : B256) (block : U64)
  | Failed
  deriving DecidableEq

/-- A fill that reached a terminal state. -/
structure Settled where
  intent : IntentId
  outcome : SettledOutcome
  deriving DecidableEq

/-! ## Settlement reads -/

/-- Sum the amounts pulled for one source. Only `Pulled` counts. -/
def pulled_for (pulls : List AquaEvent) (source : ReservationSource) : U256 :=
  U256.saturating_sum <| pulls.filterMap fun event =>
    match event with
    | .Pulled maker _ strategy_hash token amount =>
      if maker = source.maker ∧ strategy_hash = source.strategy_hash ∧ token = source.token then
        some amount
      else none
    | _ => none

/-- The amount each source was really pulled for by one transaction. -/
def settled (pulls : List AquaEvent) (sources : List ReservationSource) : List U256 :=
  sources.map (pulled_for pulls)

/-- What the execution and settlement ports answer during one pass. -/
structure ExecutionReads where
  status : IntentId → Option ExecStatus
  /-- The Aqua events of a mined transaction. -/
  receipt : B256 → List AquaEvent

/-! ## Reconcile -/

namespace ExecutionService

/-- A reservation that is already terminal is done, not an error. -/
def settle (result : Except SolventError Unit) : Except SolventError Unit :=
  match result with
  | .error (.Ledger (.WrongState _ _ _)) => .ok ()
  | other => other

/-- Settle one confirmed fill with what it pulled; a reservation that is gone is
    skipped. -/
def settle_confirmed (ledger : LedgerService) (reads : ExecutionReads)
    (reservation : ReservationId) (tx : B256) : Except SolventError Unit × LedgerService :=
  match ledger.reservation_sources reservation with
  | some sources =>
    let (result, ledger) := ledger.post reservation (settled (reads.receipt tx) sources)
    (settle result, ledger)
  | none => (.ok (), ledger)

/-- What one tracked fill does to the ledger and what it reports. -/
def settle_fill (ledger : LedgerService) (reads : ExecutionReads) (f : TrackedFill) :
    Except SolventError (Option Settled) × LedgerService :=
  match reads.status f.intent with
  | none => (.ok none, ledger)
  | some .Pending => (.ok none, ledger)
  | some (.Confirmed block tx) =>
    let (result, ledger) := settle_confirmed ledger reads f.reservation tx
    (result.map fun _ => some { intent := f.intent, outcome := .Confirmed tx block }, ledger)
  | some (.Failed _) | some .Dropped =>
    let (result, ledger) := ledger.void f.reservation
    ((settle result).map fun _ => some { intent := f.intent, outcome := .Failed }, ledger)

/-- The loop over the tracked fills: the first error ends it. -/
def reconcile (ledger : LedgerService) (reads : ExecutionReads) :
    List TrackedFill → Except SolventError (List Settled) × LedgerService
  | [] => (.ok [], ledger)
  | f :: fs =>
    match settle_fill ledger reads f with
    | (.error e, ledger) => (.error e, ledger)
    | (.ok none, ledger) => reconcile ledger reads fs
    | (.ok (some done), ledger) =>
      match reconcile ledger reads fs with
      | (.error e, ledger) => (.error e, ledger)
      | (.ok rest, ledger) => (.ok (done :: rest), ledger)

end ExecutionService

end Solvent
