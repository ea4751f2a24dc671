import Mathlib
import Solvent.Execution.Service

/-! # The executor

    The adapter in front of the wallet's transaction engine. Its durable state
    is two tables: `inflight_fill`, one row per submitted intent with the handle
    of its transaction, and `inflight_fill_terminal`, the outcomes remembered
    after a fill is forgotten. The wallet sends one new transaction per call; a
    handle is the place of its transaction among the sends.

    Submitting is three calls, `handle`, `send_with` and `track`, and forgetting
    is two, `record_terminal` and `untrack`. Nothing locks them together.
-/

namespace Solvent

open BTreeMap

/-- The place of a transaction among the wallet's sends. -/
abbrev HandleId : Type := ℕ

/-- The transaction engine: what it was asked to send, by intent, and what it
    reports for the handles it knows. -/
structure Wallet where
  sent : List IntentId
  status : BTreeMap HandleId ExecStatus

namespace Wallet

def empty : Wallet := { sent := [], status := ∅ }

/-- Send a new transaction for `intent`. -/
def send_with (w : Wallet) (intent : IntentId) : Wallet :=
  { sent := w.sent ++ [intent], status := w.status.insert w.sent.length .Pending }

/-- The engine reports `answer` for a handle from now on, or no longer knows it.
    Only a pending transaction moves: a terminal state is final. -/
def report (w : Wallet) (handle : HandleId) (answer : Option ExecStatus) : Wallet :=
  if w.status[handle]? = some .Pending then
    { w with
      status := match answer with
        | some status => w.status.insert handle status
        | none => w.status.erase handle }
  else w

end Wallet

structure WalletkitExecutor where
  fills : SqliteFillStore
  /-- The `handle_id` column of `inflight_fill`. -/
  handle_id : BTreeMap IntentId HandleId
  keyed : ∀ intent, (handle_id[intent]?).isSome ↔ intent ∈ fills.rows.map TrackedFill.intent
  /-- The table `inflight_fill_terminal`. -/
  terminal : BTreeMap IntentId ExecStatus
  wallet : Wallet

namespace WalletkitExecutor

def empty : WalletkitExecutor where
  fills := .empty
  handle_id := ∅
  keyed := by simp [SqliteFillStore.empty]
  terminal := ∅
  wallet := .empty

/-- `SELECT handle_id FROM inflight_fill WHERE order_hash = ?` -/
def handle (e : WalletkitExecutor) (intent : IntentId) : Option HandleId := e.handle_id[intent]?

/-- The intent has a row in `inflight_fill`. -/
def Tracks (e : WalletkitExecutor) (intent : IntentId) : Prop := (e.handle intent).isSome

instance (e : WalletkitExecutor) (intent : IntentId) : Decidable (e.Tracks intent) :=
  inferInstanceAs (Decidable (_ = true))

def send_with (e : WalletkitExecutor) (intent : IntentId) : WalletkitExecutor :=
  { e with wallet := e.wallet.send_with intent }

theorem rows_track (store : SqliteFillStore) (intent : IntentId) (reservation : ReservationId) :
    (store.track intent reservation).rows =
      if intent ∈ store.rows.map TrackedFill.intent then store.rows
      else store.rows ++ [TrackedFill.mk intent reservation] := by
  unfold SqliteFillStore.track
  split <;> rfl

/-- `INSERT … ON CONFLICT (order_hash) DO NOTHING` -/
def track (e : WalletkitExecutor) (intent : IntentId) (reservation : ReservationId)
    (handle : HandleId) : WalletkitExecutor :=
  { e with
    fills := e.fills.track intent reservation
    handle_id := if e.Tracks intent then e.handle_id else e.handle_id.insert intent handle
    keyed := by
      intro k
      have hkeyed := e.keyed intent
      rw [rows_track]
      by_cases htracked : e.Tracks intent
      · rw [if_pos htracked, if_pos (hkeyed.mp htracked)]
        exact e.keyed k
      · rw [if_neg htracked, if_neg (fun h => htracked (hkeyed.mpr h)), get_insert]
        by_cases hk : intent = k
        · subst hk
          simp
        · have hk' : k ≠ intent := fun h => hk h.symm
          rw [if_neg hk, e.keyed k]
          simp [hk'] }

/-- Forget a fill: drop its row. -/
def untrack (e : WalletkitExecutor) (intent : IntentId) : WalletkitExecutor :=
  { e with
    fills := e.fills.untrack intent
    handle_id := e.handle_id.erase intent
    keyed := by
      intro k
      rw [get_erase]
      by_cases hk : intent = k
      · subst hk
        simp [SqliteFillStore.untrack]
      · rw [if_neg hk, e.keyed k]
        simp only [SqliteFillStore.untrack, List.mem_map, List.mem_filter]
        constructor
        · rintro ⟨f, hf, rfl⟩
          exact ⟨f, ⟨hf, by simpa using fun h => hk h.symm⟩, rfl⟩
        · rintro ⟨f, ⟨hf, _⟩, rfl⟩
          exact ⟨f, hf, rfl⟩ }

/-- What the engine reports for an intent: for a tracked one its handle's state,
    else the outcome remembered for it. -/
def status (e : WalletkitExecutor) (intent : IntentId) : Option ExecStatus :=
  match e.handle intent with
  | none => e.terminal[intent]?
  | some h =>
    match e.wallet.status[h]? with
    | some status => some status
    | none => e.terminal[intent]?

/-- The first half of `forget`: remember the outcome of a tracked fill that the
    engine knows and that is no longer pending. -/
def record_terminal (e : WalletkitExecutor) (intent : IntentId) : WalletkitExecutor :=
  match (e.handle intent).bind fun h => e.wallet.status[h]? with
  | none | some .Pending => e
  | some status => { e with terminal := e.terminal.insert intent status }

def report (e : WalletkitExecutor) (handle : HandleId) (answer : Option ExecStatus) :
    WalletkitExecutor :=
  { e with wallet := e.wallet.report handle answer }

/-! ## Frames -/

theorem handle_track (e : WalletkitExecutor) (intent : IntentId) (reservation : ReservationId)
    (h : HandleId) (k : IntentId) :
    (e.track intent reservation h).handle k =
      if intent = k ∧ ¬ e.Tracks intent then some h else e.handle k := by
  unfold track handle
  by_cases htracked : e.Tracks intent
  · simp [htracked]
  · simp only [htracked, if_false, get_insert, not_false_eq_true, and_true]

theorem handle_untrack (e : WalletkitExecutor) (intent k : IntentId) :
    (e.untrack intent).handle k = if intent = k then none else e.handle k :=
  get_erase e.handle_id intent k

theorem tracks_iff_mem {e : WalletkitExecutor} {intent : IntentId} :
    e.Tracks intent ↔ intent ∈ e.fills.rows.map TrackedFill.intent :=
  e.keyed intent

theorem record_terminal_eq (e : WalletkitExecutor) (intent : IntentId) :
    ∃ terminal, e.record_terminal intent = { e with terminal } := by
  unfold record_terminal
  split
  · exact ⟨e.terminal, rfl⟩
  · exact ⟨e.terminal, rfl⟩
  · exact ⟨_, rfl⟩

end WalletkitExecutor

end Solvent
