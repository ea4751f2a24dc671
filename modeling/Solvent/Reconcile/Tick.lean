import Mathlib
import Solvent.Execution.Executor
import Solvent.Ledger.Evolution
import Solvent.Reconcile.Service

/-! # A tick, one port call at a time

    `ReconcileService.tick` as a sequence of port calls, so that requests can
    run between any two of them and the tick can stop at any of them. The first
    half of a tick works on the fills that were tracked when it began, the sweep
    excludes the reservations tracked when it asked.

    Resolving an order's trade and settling it is one phase: a row is never
    removed or given to another order, so nothing can come between the two.
-/

namespace Solvent

open BTreeMap

/-- Everything the calls of one chain's node share. -/
structure Node where
  ledger : LedgerService
  trades : SqliteTradeStore
  executor : WalletkitExecutor

/-- What a restart leaves: the stores and the wallet as they were, and a ledger
    recovered from its store. -/
def Node.restart (node : Node) (budget : AccountKey → U256) : Node :=
  { node with ledger := node.ledger.recovered budget }

namespace ReconcileService

/-! ## Phases -/

/-- Where a tick stands: the port call it makes next. -/
inductive TickPhase where
  /-- `tracked`: list the fills in flight. -/
  | tracked
  | status (f : TrackedFill) (fills : List TrackedFill) (settled : List Settled)
  /-- A confirmed fill: read the sources it will be posted against. -/
  | sources (f : TrackedFill) (tx : B256) (block : U64) (fills : List TrackedFill)
      (settled : List Settled)
  | post (f : TrackedFill) (filled : List U256) (fills : List TrackedFill)
      (settled : List Settled)
  /-- A fill that did not land. -/
  | void (f : TrackedFill) (fills : List TrackedFill) (settled : List Settled)
  | settle_trade (now : U64) (fill : Settled) (settled : List Settled)
  /-- `forget`: remember the outcome, then drop the row. -/
  | record_terminal (now : U64) (fill : Settled) (settled : List Settled)
  | untrack (now : U64) (fill : Settled) (settled : List Settled)
  | tracked_reservations (now : U64)
  | sweep (now : U64) (in_flight : List ReservationId)
  /-- Fail the trade of a swept hold. -/
  | fail (now : U64) (intent : IntentId) (swept : List IntentId)

inductive TickProgress where
  | next (phase : TickPhase)
  | done (result : Except SolventError Unit)

/-- What the ports outside the node answer during one phase. -/
structure TickReads where
  now_unix : U64
  /-- The Aqua events of a mined transaction. -/
  receipt : B256 → List AquaEvent
  /-- How many holds a sweep expires before the ledger store fails, if it does. -/
  sweep_fails_after : Option ℕ

/-- After the settled fills come the holds whose time is up. -/
def after_trade (now : U64) : List Settled → TickPhase
  | fill :: settled => .settle_trade now fill settled
  | [] => .tracked_reservations now

/-- After the last tracked fill the clock is read and the trades are settled. -/
def after_fill (now : U64) (fills : List TrackedFill) (settled : List Settled) : TickPhase :=
  match fills with
  | f :: fills => .status f fills settled
  | [] => after_trade now settled

def after_sweep (now : U64) : List IntentId → TickProgress
  | intent :: swept => .next (.fail now intent swept)
  | [] => .done (.ok ())

/-! ## One port call -/

/-- A ledger call whose answer is passed on, an already terminal reservation
    counting as done. -/
def ledger_call (node : Node) (answer : Except SolventError Unit × LedgerService)
    (phase : TickPhase) : Node × TickProgress :=
  match ExecutionService.settle answer.1 with
  | .error e => ({ node with ledger := answer.2 }, .done (.error e))
  | .ok () => ({ node with ledger := answer.2 }, .next phase)

def trade_call (node : Node) (answer : Except TradeStoreError Unit × SqliteTradeStore)
    (progress : TickProgress) : Node × TickProgress :=
  match answer with
  | (.error e, trades) => ({ node with trades }, .done (.error (.TradeStore e)))
  | (.ok (), trades) => ({ node with trades }, progress)

/-- The holds a sweep finds elapsed, less those of the fills in flight. -/
def elapsed (s : LedgerService) (now : U64) (in_flight : List ReservationId) :
    List ReservationId :=
  (s.ledger.expired_swaps_as_of now).filter (· ∉ in_flight)

/-- The sweep, with a ledger store that may fail on the way. -/
def sweep_call (s : LedgerService) (reads : TickReads) (in_flight : List ReservationId) :
    Except SolventError (List IntentId) × LedgerService :=
  match reads.sweep_fails_after.filter (· < (elapsed s reads.now_unix in_flight).length) with
  | none => s.sweep_expired { now_unix := reads.now_unix, budget := fun _ => .ok 0 } in_flight
  | some n =>
    (.error (.LedgerStore (.Db "expire failed")),
      (s.sweep_loop ((elapsed s reads.now_unix in_flight).take n)).2)

def tick_step (reads : TickReads) (node : Node) : TickPhase → Node × TickProgress
  | .tracked => (node, .next (after_fill reads.now_unix node.executor.fills.rows []))
  | .status f fills settled =>
    match node.executor.status f.intent with
    | none | some .Pending => (node, .next (after_fill reads.now_unix fills settled))
    | some (.Confirmed block tx) => (node, .next (.sources f tx block fills settled))
    | some (.Failed _) | some .Dropped => (node, .next (.void f fills settled))
  | .sources f tx block fills settled =>
    let done := settled ++ [{ intent := f.intent, outcome := .Confirmed tx block }]
    match node.ledger.reservation_sources f.reservation with
    | some sources =>
      (node, .next (.post f (Solvent.settled (reads.receipt tx) sources) fills done))
    | none => (node, .next (after_fill reads.now_unix fills done))
  | .post f filled fills settled =>
    ledger_call node (node.ledger.post f.reservation filled)
      (after_fill reads.now_unix fills settled)
  | .void f fills settled =>
    ledger_call node (node.ledger.void f.reservation)
      (after_fill reads.now_unix fills
        (settled ++ [{ intent := f.intent, outcome := .Failed }]))
  | .settle_trade now fill settled =>
    trade_call node (apply node.trades fill.intent (settlement_of fill.outcome now))
      (.next (.record_terminal now fill settled))
  | .record_terminal now fill settled =>
    ({ node with executor := node.executor.record_terminal fill.intent },
      .next (.untrack now fill settled))
  | .untrack now fill settled =>
    ({ node with executor := node.executor.untrack fill.intent },
      .next (after_trade now settled))
  | .tracked_reservations now =>
    (node, .next (.sweep now (node.executor.fills.rows.map TrackedFill.reservation)))
  | .sweep now in_flight =>
    match sweep_call node.ledger reads in_flight with
    | (.error e, ledger) => ({ node with ledger }, .done (.error e))
    | (.ok swept, ledger) => ({ node with ledger }, after_sweep now swept)
  | .fail now intent swept =>
    trade_call node (apply node.trades intent fun _ => failed now) (after_sweep now swept)

/-! ## What the calls leave -/

/-- **The sweep call** moves elapsed holds outside `in_flight` only, and if it
    gets through it reports the intent of each. -/
theorem sweep_call_evolves (s : LedgerService) (reads : TickReads)
    (in_flight : List ReservationId) :
    LedgerService.Moves (· ∈ elapsed s reads.now_unix in_flight) s
        (sweep_call s reads in_flight).2 ∧
      ∀ swept, (sweep_call s reads in_flight).1 = .ok swept →
        ∀ id ∈ elapsed s reads.now_unix in_flight, ∀ intent state,
          s.memory id = some (.Swap intent, state) → intent ∈ swept := by
  unfold sweep_call
  cases reads.sweep_fails_after.filter (· < (elapsed s reads.now_unix in_flight).length) with
  | none =>
    obtain ⟨hmoves, hswept⟩ :=
      s.sweep_loop_evolves (elapsed s reads.now_unix in_flight)
    simp only [LedgerService.sweep_expired]
    change LedgerService.Moves _ s (match s.sweep_loop (elapsed s reads.now_unix in_flight) with
      | (.error e, s') => (Except.error e, s')
      | (.ok swept, s') => (.ok swept,
          if (elapsed s reads.now_unix in_flight).isEmpty then s' else s'.publish)).2 ∧ _
    cases hloop : s.sweep_loop (elapsed s reads.now_unix in_flight) with
    | mk result s' =>
      rw [hloop] at hmoves hswept
      cases result with
      | error e => exact ⟨hmoves, by simp [elapsed] at hloop; simp [hloop]⟩
      | ok swept =>
        refine ⟨?_, ?_⟩
        · simp only
          split
          · exact hmoves
          · exact ⟨hmoves.memory_same, hmoves.durable_same, hmoves.memory_moved,
              hmoves.durable_moved⟩
        · intro swept' heq
          simp only [elapsed] at hloop
          simp only [hloop] at heq
          obtain rfl := Except.ok.inj heq
          exact hswept _ rfl
  | some n =>
    obtain ⟨hmoves, -⟩ :=
      s.sweep_loop_evolves ((elapsed s reads.now_unix in_flight).take n)
    refine ⟨⟨?_, ?_, hmoves.memory_moved, hmoves.durable_moved⟩, by simp⟩
    · intro k hk
      exact hmoves.memory_same k (fun h => hk (List.mem_of_mem_take h))
    · intro k hk
      exact hmoves.durable_same k (fun h => hk (List.mem_of_mem_take h))

/-- The order's trade was ended with an outcome of this status, or it has none. -/
def Ends (trades trades' : SqliteTradeStore) (intent : IntentId) (status : TradeStatus) : Prop :=
  (trades.find_by_order intent = none ∧ trades' = trades) ∨
  ∃ id row outcome block stamp, trades.find_by_order intent = some (id, row) ∧
    outcome.status = status ∧
    trades.Rewrites trades' id (SqliteTradeStore.settled_row · outcome block stamp)

theorem apply_cases (trades : SqliteTradeStore) (intent : IntentId)
    (settlement : TradeRow → Settlement) {status : TradeStatus}
    (hstatus : ∀ row, (settlement row).status = status) :
    (∃ e, apply trades intent settlement = (.error e, trades)) ∨
    ∃ trades', apply trades intent settlement = (.ok (), trades') ∧
      Ends trades trades' intent status := by
  unfold apply
  cases hfind : trades.find_by_order intent with
  | none => exact .inr ⟨trades, rfl, .inl ⟨hfind, rfl⟩⟩
  | some b =>
    obtain ⟨id, row⟩ := b
    rcases SqliteTradeStore.settle_cases trades id (settlement row) with
      ⟨e, herror⟩ | ⟨trades', block, stamp, hok, htrade⟩
    · exact .inl ⟨e, herror⟩
    · exact .inr ⟨trades', hok, .inr ⟨id, row, settlement row, block, stamp, hfind,
        hstatus row, htrade⟩⟩

/-! ## Inversion -/

def TickProgress.phase : TickProgress → Option TickPhase
  | .next phase => some phase
  | .done _ => none

/-- The status a terminal fill gives its trade. -/
def settled_status : SettledOutcome → TradeStatus
  | .Confirmed _ _ => .Confirmed
  | .Failed => .Failed

/-- **Inversion.** Everything a port call of a tick can do. -/
inductive TickDoes (reads : TickReads) (node : Node) : TickPhase → Node → Option TickPhase → Prop where
  | lists : TickDoes reads node .tracked node
      (some (after_fill reads.now_unix node.executor.fills.rows []))
  | waits {f : TrackedFill} {fills : List TrackedFill} {settled : List Settled} :
      TickDoes reads node (.status f fills settled) node
        (some (after_fill reads.now_unix fills settled))
  | confirms {f : TrackedFill} {fills : List TrackedFill} {settled : List Settled} {tx : B256}
      {block : U64} (hstatus : node.executor.status f.intent = some (.Confirmed block tx)) :
      TickDoes reads node (.status f fills settled) node (some (.sources f tx block fills settled))
  | failed {f : TrackedFill} {fills : List TrackedFill} {settled : List Settled}
      {status : ExecStatus} (hstatus : node.executor.status f.intent = some status)
      (hterminal : status ≠ .Pending) :
      TickDoes reads node (.status f fills settled) node (some (.void f fills settled))
  | measures {f : TrackedFill} {fills : List TrackedFill} {settled : List Settled} {tx : B256}
      {block : U64} {filled : List U256} :
      TickDoes reads node (.sources f tx block fills settled) node
        (some (.post f filled fills
          (settled ++ [{ intent := f.intent, outcome := .Confirmed tx block }])))
  | skips {f : TrackedFill} {fills : List TrackedFill} {settled : List Settled} {tx : B256}
      {block : U64} :
      TickDoes reads node (.sources f tx block fills settled) node
        (some (after_fill reads.now_unix fills
          (settled ++ [{ intent := f.intent, outcome := .Confirmed tx block }])))
  | posts {f : TrackedFill} {filled : List U256} {fills : List TrackedFill}
      {settled : List Settled} {ledger : LedgerService} {next : Option TickPhase}
      (hmoves : LedgerService.Moves (· = f.reservation) node.ledger ledger)
      (hnext : next = none ∨ next = some (after_fill reads.now_unix fills settled)) :
      TickDoes reads node (.post f filled fills settled) { node with ledger } next
  | voids {f : TrackedFill} {fills : List TrackedFill}
      {settled : List Settled} {ledger : LedgerService} {next : Option TickPhase}
      (hmoves : LedgerService.Moves (· = f.reservation) node.ledger ledger)
      (hnext : next = none ∨ next = some (after_fill reads.now_unix fills
        (settled ++ [{ intent := f.intent, outcome := .Failed }]))) :
      TickDoes reads node (.void f fills settled) { node with ledger } next
  | settles {now : U64} {fill : Settled} {settled : List Settled} {trades : SqliteTradeStore}
      (hends : Ends node.trades trades fill.intent (settled_status fill.outcome)) :
      TickDoes reads node (.settle_trade now fill settled) { node with trades }
        (some (.record_terminal now fill settled))
  | settle_fails {now : U64} {fill : Settled} {settled : List Settled} :
      TickDoes reads node (.settle_trade now fill settled) node none
  | remembers {now : U64} {fill : Settled} {settled : List Settled} :
      TickDoes reads node (.record_terminal now fill settled)
        { node with executor := node.executor.record_terminal fill.intent }
        (some (.untrack now fill settled))
  | untracks {now : U64} {fill : Settled} {settled : List Settled} :
      TickDoes reads node (.untrack now fill settled)
        { node with executor := node.executor.untrack fill.intent }
        (some (after_trade now settled))
  | excludes {now : U64} :
      TickDoes reads node (.tracked_reservations now) node
        (some (.sweep now (node.executor.fills.rows.map TrackedFill.reservation)))
  | sweeps {now : U64} {in_flight : List ReservationId} {ledger : LedgerService}
      {swept : List IntentId}
      (hok : (sweep_call node.ledger reads in_flight).1 = .ok swept)
      (hmoves : LedgerService.Moves (· ∈ elapsed node.ledger reads.now_unix in_flight)
        node.ledger ledger)
      (hswept : ∀ id ∈ elapsed node.ledger reads.now_unix in_flight, ∀ intent state,
        node.ledger.memory id = some (.Swap intent, state) → intent ∈ swept) :
      TickDoes reads node (.sweep now in_flight) { node with ledger } (after_sweep now swept).phase
  | sweep_fails {now : U64} {in_flight : List ReservationId} {ledger : LedgerService}
      {e : SolventError} (herror : (sweep_call node.ledger reads in_flight).1 = .error e)
      (hmoves : LedgerService.Moves (· ∈ elapsed node.ledger reads.now_unix in_flight)
        node.ledger ledger) :
      TickDoes reads node (.sweep now in_flight) { node with ledger } none
  | fails {now : U64} {intent : IntentId} {swept : List IntentId} {trades : SqliteTradeStore}
      (hends : Ends node.trades trades intent .Failed) :
      TickDoes reads node (.fail now intent swept) { node with trades }
        (after_sweep now swept).phase
  | fail_fails {now : U64} {intent : IntentId} {swept : List IntentId} {e : TradeStoreError}
      (herror : (apply node.trades intent fun _ => ReconcileService.failed now).1 = .error e) :
      TickDoes reads node (.fail now intent swept) node none

theorem ledger_call_phase {node node' : Node} {answer : Except SolventError Unit × LedgerService}
    {phase : TickPhase} {progress : TickProgress}
    (h : ledger_call node answer phase = (node', progress)) :
    node' = { node with ledger := answer.2 } ∧
      (progress.phase = none ∨ progress.phase = some phase) := by
  unfold ledger_call at h
  split at h <;> obtain ⟨rfl, rfl⟩ := Prod.mk.inj h
  · exact ⟨rfl, .inl rfl⟩
  · exact ⟨rfl, .inr rfl⟩

/-- **Inversion lemma.** -/
theorem tick_step_does {reads : TickReads} {node node' : Node} {phase : TickPhase}
    {progress : TickProgress} (h : tick_step reads node phase = (node', progress)) :
    TickDoes reads node phase node' progress.phase := by
  cases phase with
  | tracked =>
    obtain ⟨rfl, rfl⟩ := Prod.mk.inj h
    exact .lists
  | status f fills settled =>
    simp only [tick_step] at h
    split at h <;> obtain ⟨rfl, rfl⟩ := Prod.mk.inj h
    · exact .waits
    · exact .waits
    · rename_i hstatus
      exact .confirms hstatus
    · rename_i hstatus
      exact .failed hstatus (by simp)
    · rename_i hstatus
      exact .failed hstatus (by simp)
  | sources f tx block fills settled =>
    simp only [tick_step] at h
    split at h <;> obtain ⟨rfl, rfl⟩ := Prod.mk.inj h
    · exact .measures
    · exact .skips
  | post f filled fills settled =>
    obtain ⟨rfl, hnext⟩ := ledger_call_phase h
    exact .posts (LedgerService.moves_post node.ledger f.reservation filled) hnext
  | void f fills settled =>
    obtain ⟨rfl, hnext⟩ := ledger_call_phase h
    exact .voids (LedgerService.moves_void node.ledger f.reservation) hnext
  | settle_trade now fill settled =>
    simp only [tick_step, trade_call] at h
    have hstatus : ∀ row, (settlement_of fill.outcome now row).status =
        settled_status fill.outcome := by
      intro row
      unfold settlement_of settled_status ReconcileService.failed
      cases fill.outcome <;> rfl
    rcases apply_cases node.trades fill.intent (settlement_of fill.outcome now) hstatus with
      ⟨e, herror⟩ | ⟨trades, hok, hends⟩
    · rw [herror] at h
      obtain ⟨rfl, rfl⟩ := Prod.mk.inj h
      exact .settle_fails
    · rw [hok] at h
      obtain ⟨rfl, rfl⟩ := Prod.mk.inj h
      exact .settles hends
  | record_terminal now fill settled =>
    obtain ⟨rfl, rfl⟩ := Prod.mk.inj h
    exact .remembers
  | untrack now fill settled =>
    obtain ⟨rfl, rfl⟩ := Prod.mk.inj h
    exact .untracks
  | tracked_reservations now =>
    obtain ⟨rfl, rfl⟩ := Prod.mk.inj h
    exact .excludes
  | sweep now in_flight =>
    simp only [tick_step] at h
    obtain ⟨hmoves, hswept⟩ := sweep_call_evolves node.ledger reads in_flight
    cases hcall : sweep_call node.ledger reads in_flight with
    | mk result ledger =>
      rw [hcall] at h hmoves hswept
      cases result with
      | error e =>
        obtain ⟨rfl, rfl⟩ := Prod.mk.inj h
        exact .sweep_fails (by rw [hcall]) hmoves
      | ok swept =>
        obtain ⟨rfl, rfl⟩ := Prod.mk.inj h
        exact .sweeps (by rw [hcall]) hmoves (hswept swept rfl)
  | fail now intent swept =>
    simp only [tick_step, trade_call] at h
    rcases apply_cases node.trades intent (fun _ => ReconcileService.failed now)
        (fun _ => rfl : ∀ _ : TradeRow, (ReconcileService.failed now).status = .Failed) with ⟨e, herror⟩ | ⟨trades, hok, hends⟩
    · rw [herror] at h
      obtain ⟨rfl, rfl⟩ := Prod.mk.inj h
      exact .fail_fails (by rw [herror])
    · rw [hok] at h
      obtain ⟨rfl, rfl⟩ := Prod.mk.inj h
      exact .fails hends

end ReconcileService

end Solvent
