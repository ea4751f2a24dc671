import Mathlib
import Solvent.Ledger.Engine

/-! # Errors

    The failures the services report. A port that is not modelled reports its
    own message.
-/

namespace Solvent

/-- A value of a signed 64-bit column. Only non-negative values are ever stored. -/
abbrev I64 : Type := Fin (2 ^ 63)

/-- A 64-bit value as a signed column. -/
def i64_of (value : U64) : Except String I64 :=
  if h : value.val < 2 ^ 63 then .ok ⟨value.val, h⟩
  else .error s!"value {value} exceeds i64"

theorem i64_of_ok {value : U64} (h : value.val < 2 ^ 63) : i64_of value = .ok ⟨value.val, h⟩ := by
  unfold i64_of
  rw [dif_pos h]

inductive LedgerStoreError where
  /-- The id exists with a terminal state or a different reservation body. -/
  | Conflict (id : ReservationId)
  | Db (message : String)
  deriving DecidableEq

inductive TradeStoreError where
  | Db (message : String)
  deriving DecidableEq

inductive LegQuoteStoreError where
  | Backend (message : String)
  | Conflict
  deriving DecidableEq

inductive PreparationStoreError where
  | Backend (message : String)
  | Conflict
  deriving DecidableEq

inductive SagaStoreError where
  | Backend (message : String)
  | Conflict
  deriving DecidableEq

inductive StepStoreError where
  | Backend (message : String)
  | Conflict
  deriving DecidableEq

inductive CctpCompletionError where
  | Pending
  | RateLimited (retry_after_secs : Option U64)
  | Transport (message : String)
  | Invalid (message : String)
  deriving DecidableEq

inductive RemoteSolventError where
  | Unavailable (message : String)
  | Rejected (reason : String)
  | InvalidResponse (message : String)
  deriving DecidableEq

def RemoteSolventError.to_string : RemoteSolventError → String
  | Unavailable message => s!"remote Solvent unavailable: {message}"
  | Rejected reason => s!"remote Solvent rejected request: {reason}"
  | InvalidResponse message => s!"remote Solvent returned an invalid response: {message}"

inductive SolventError where
  /-- The ledger rejected a command. -/
  | Ledger (e : LedgerError)
  | LedgerStore (e : LedgerStoreError)
  | BudgetSource (message : String)
  | TradeStore (e : TradeStoreError)
  | FillBuilder (message : String)
  | Sim (message : String)
  | Execution (message : String)
  | Settlement (message : String)
  | LegQuote (message : String)
  | LegQuoteStore (e : LegQuoteStoreError)
  | PreparationStore (e : PreparationStoreError)
  | SagaStore (e : SagaStoreError)
  | StepStore (e : StepStoreError)
  | StepMaterializer (message : String)
  | StepValidator (message : String)
  | CctpCompletion (e : CctpCompletionError)
  | RemoteSolvent (e : RemoteSolventError)
  | InvalidCrossChain (message : String)
  deriving DecidableEq

end Solvent
