import Mathlib
import Solvent.Framework.Run
import Solvent.Error
import Solvent.Registry.Exchange

/-! # The registry sync

    One chain's registry: fetch, drop what was already seen, insert, fold the rows
    that are new on top of the snapshot, advance the cursor. The table
    `aqua_event` is keyed by block, block hash and log index.

    A restart folds the whole log again, in order. The incremental fold gives
    the same snapshot as long as every row that arrives late changes places with
    the rows after it (`Settled`).
-/

namespace Solvent

variable (decode_strategy : List (Fin 256) → CurveSpec)

/-! ## Events with their position -/

/-- The position of an event on its chain. -/
structure EventCursor where
  block_number : U64
  log_index : U64
  deriving DecidableEq

structure EventExt where
  event : AquaEvent
  block_hash : Option B256
  block_number : Option U64
  log_index : Option U64
  deriving DecidableEq

def EventExt.cursor (event : EventExt) : Option EventCursor :=
  match event.block_number, event.log_index with
  | some block_number, some log_index => some { block_number, log_index }
  | _, _ => none

/-! ## The store -/

inductive StoreError where
  | Db (message : String)
  /-- An event without a position. -/
  | Unpositioned
  deriving DecidableEq

/-- A row of `aqua_event`. -/
structure EventRow where
  cursor : EventCursor
  block_hash : B256
  event : AquaEvent
  deriving DecidableEq

/-- `ORDER BY block_number, log_index` -/
def EventRow.position (row : EventRow) : U64 ×ₗ U64 :=
  toLex (row.cursor.block_number, row.cursor.log_index)

/-- Whether two rows have the same key. -/
def EventRow.same_key (row row' : EventRow) : Bool :=
  row.cursor = row'.cursor ∧ row.block_hash = row'.block_hash

/-- The row of an event. -/
def EventExt.row (event : EventExt) : Except StoreError EventRow :=
  match event.cursor, event.block_hash with
  | some cursor, some block_hash =>
    match i64_of cursor.block_number, i64_of cursor.log_index with
    | .ok _, .ok _ => .ok { cursor, block_hash, event := event.event }
    | .error e, _ => .error (.Db e)
    | _, .error e => .error (.Db e)
  | _, _ => .error .Unpositioned

/-- `INSERT … ON CONFLICT DO NOTHING RETURNING event`, one event after another in
    one transaction: the rows that are new. -/
def insert_events (rows : List EventRow) : List EventExt → Except StoreError (List EventRow)
  | [] => .ok []
  | event :: events =>
    match event.row with
    | .error e => .error e
    | .ok row =>
      if rows.any row.same_key then insert_events rows events
      else (insert_events (rows ++ [row]) events).map (row :: ·)

/-! ## The service -/

inductive SyncError where
  | ChainSource (message : String)
  | Store (e : StoreError)
  deriving DecidableEq

/-- How a write to the store fails. -/
inductive Fault where
  | none
  /-- Nothing was written. -/
  | refused
  /-- The write was made and an error reported. -/
  | lost
  deriving DecidableEq

/-- What a cycle asks its ports for. -/
structure SyncReads where
  /-- Whether the cursor can be read. -/
  cursor_fails : Bool
  source : U64 → U64 → Except String (List EventExt)
  /-- The entries of `seen` past their time to live. -/
  forgotten : EventCursor → Bool
  insert : Fault
  save_cursor : Fault

structure RegistrySync where
  start_block : U64
  overlap_blocks : U64
  rows : List EventRow
  cursor : Option EventCursor
  /-- The published snapshot. -/
  snapshot : Snapshot
  seen : List EventCursor

namespace RegistrySync

/-- A service over an empty store. -/
def new (start_block overlap_blocks : U64) : RegistrySync :=
  { start_block, overlap_blocks, rows := [], cursor := none, snapshot := .default, seen := [] }

/-- The event log in fold order. -/
def events (s : RegistrySync) : List EventRow := Replay.ordered EventRow.position s.rows

def apply_row (snapshot : Snapshot) (row : EventRow) : Snapshot :=
  snapshot.apply decode_strategy row.event

/-- Fold the events of rows on a snapshot. -/
def fold (snapshot : Snapshot) (rows : List EventRow) : Snapshot :=
  rows.foldl (apply_row decode_strategy) snapshot

/-- Rebuild the snapshot from the log. -/
def recover (s : RegistrySync) : RegistrySync :=
  { s with snapshot := fold decode_strategy .default s.events, seen := [] }

/-- Where the scan starts: the cursor rewound by the overlap window. -/
def from_block (s : RegistrySync) : U64 :=
  match s.cursor with
  | none => s.start_block
  | some cursor => cursor.block_number.saturating_sub s.overlap_blocks

/-- The fetched events that were not seen yet. -/
def fresh (s : RegistrySync) (reads : SyncReads) (fetched : List EventExt) : List EventExt :=
  fetched.filter fun event =>
    match event.cursor with
    | none => false
    | some cursor => cursor ∉ s.seen || reads.forgotten cursor

/-- The cursor a cycle commits: never below the recorded one. -/
def progress (s : RegistrySync) (to_block : U64) : EventCursor :=
  match s.cursor with
  | none => { block_number := to_block, log_index := 0 }
  | some cursor => { block_number := max to_block cursor.block_number, log_index := 0 }

/-- Fold the rows that are new and remember what was scanned. -/
def absorb (s : RegistrySync) (scanned : List EventExt) (inserted : List EventRow) :
    RegistrySync :=
  { s with
    rows := s.rows ++ inserted
    snapshot := fold decode_strategy s.snapshot (Replay.ordered EventRow.position inserted)
    seen := scanned.filterMap EventExt.cursor ++ s.seen }

/-- Commit progress, last. -/
def commit (s : RegistrySync) (fault : Fault) (cursor : EventCursor) :
    Except SyncError Unit × RegistrySync :=
  match fault with
  | .none => (.ok (), { s with cursor := some cursor })
  | .refused => (.error (.Store (.Db "write failed")), s)
  | .lost => (.error (.Store (.Db "write failed")), { s with cursor := some cursor })

/-- One sync cycle, scanning up to `to_block`. -/
def sync_once (s : RegistrySync) (reads : SyncReads) (to_block : U64) :
    Except SyncError Unit × RegistrySync :=
  if reads.cursor_fails then (.error (.Store (.Db "read failed")), s)
  else match reads.source s.from_block to_block with
    | .error e => (.error (.ChainSource e), s)
    | .ok fetched =>
      let scanned := s.fresh reads fetched
      match insert_events s.rows scanned with
      | .error e => (.error (.Store e), s)
      | .ok inserted =>
        match reads.insert with
        | .refused => (.error (.Store (.Db "write failed")), s)
        | .lost => (.error (.Store (.Db "write failed")), { s with rows := s.rows ++ inserted })
        | .none =>
          (s.absorb decode_strategy scanned inserted).commit reads.save_cursor
            (s.progress to_block)

/-! ## Runs -/

inductive Action where
  | cycle (reads : SyncReads) (to_block : U64)
  /-- A restart between two cycles. -/
  | restart
  /-- A crash inside a cycle, after its rows were written, and the restart. -/
  | crash (reads : SyncReads) (to_block : U64)

/-- The rows a cycle writes. -/
def arrivals (s : RegistrySync) (reads : SyncReads) (to_block : U64) : List EventRow :=
  if reads.cursor_fails ∨ reads.insert = .refused then []
  else match reads.source s.from_block to_block with
    | .error _ => []
    | .ok fetched =>
      match insert_events s.rows (s.fresh reads fetched) with
      | .error _ => []
      | .ok inserted => inserted

def next (s : RegistrySync) : Action → RegistrySync
  | .cycle reads to_block => (s.sync_once decode_strategy reads to_block).2
  | .restart => s.recover decode_strategy
  | .crash reads to_block =>
    recover decode_strategy { s with rows := s.rows ++ s.arrivals reads to_block }

/-- The source answers with events of the window, in any order; there may be more. -/
def Action.ReadsFrom (chain : Set EventExt) : Action → Prop
  | .restart => True
  | .cycle reads _ | .crash reads _ => ∀ from_block to_block fetched,
    reads.source from_block to_block = .ok fetched → ∀ event ∈ fetched, event ∈ chain ∧
      ∃ cursor, event.cursor = some cursor ∧ from_block ≤ cursor.block_number ∧
        cursor.block_number ≤ to_block

/-- At most one event a position. -/
def NoReorg (chain : Set EventExt) : Prop :=
  ∀ e ∈ chain, ∀ f ∈ chain, e.cursor = f.cursor → e = f

/-- Each new row changes places with every row of the log after it. -/
def Fit (rows inserted : List EventRow) : Prop :=
  Replay.Fits (apply_row decode_strategy)
    (fun snapshot row row' => snapshot.swaps decode_strategy row.event row'.event)
    EventRow.position Snapshot.default rows (Replay.ordered EventRow.position inserted)

instance (rows inserted : List EventRow) : Decidable (Fit decode_strategy rows inserted) :=
  inferInstanceAs (Decidable (Replay.Fits _ _ _ _ _ _))

/-- What a step must meet: a row that a cycle writes below rows already stored
    changes places with each of them, and no cycle loses the rows it wrote. -/
def Settled (s : RegistrySync) : Action → Prop
  | .cycle reads to_block =>
    (reads.insert = .lost → s.arrivals reads to_block = []) ∧
      Fit decode_strategy s.rows (s.arrivals reads to_block)
  | .restart => True
  | .crash _ _ => True

instance (s : RegistrySync) : ∀ a : Action, Decidable (Settled decode_strategy s a)
  | .cycle _ _ => inferInstanceAs (Decidable (_ ∧ _))
  | .restart | .crash _ _ => isTrue trivial

/-! ## The log -/

variable {chain : Set EventExt} {s : RegistrySync}

/-- A row of an event of the chain. -/
def Recorded (chain : Set EventExt) (row : EventRow) : Prop := ∃ event ∈ chain, event.row = .ok row

theorem row_ok {event : EventExt} {row : EventRow} (h : event.row = .ok row) :
    event.cursor = some row.cursor ∧ event.block_hash = some row.block_hash := by
  unfold EventExt.row at h
  split at h
  · rename_i cursor block_hash hcursor hhash
    split at h
    · obtain rfl := Except.ok.inj h
      exact ⟨hcursor, hhash⟩
    · cases h
    · cases h
  · cases h

theorem position_inj {row row' : EventRow} (h : row.position = row'.position) :
    row.cursor = row'.cursor := by
  obtain ⟨⟨block, log⟩, _, _⟩ := row
  obtain ⟨⟨block', log'⟩, _, _⟩ := row'
  simpa [EventRow.position] using h

/-- On one chain, rows of one position are rows of one event. -/
theorem same_key_of_position (hchain : NoReorg chain) {row row' : EventRow}
    (hrow : Recorded chain row) (hrow' : Recorded chain row') (h : row.position = row'.position) :
    row.same_key row' = true := by
  obtain ⟨event, hmem, hok⟩ := hrow
  obtain ⟨event', hmem', hok'⟩ := hrow'
  obtain ⟨hcursor, hhash⟩ := row_ok hok
  obtain ⟨hcursor', hhash'⟩ := row_ok hok'
  have hevent : event = event' := by
    apply hchain event hmem event' hmem'
    rw [hcursor, hcursor', position_inj h]
  subst hevent
  have hblock : row.block_hash = row'.block_hash := by
    rw [hhash] at hhash'
    exact Option.some.inj hhash'
  simp [EventRow.same_key, position_inj h, hblock]

/-- The log of one chain: at most one row a position. -/
structure OneChain (chain : Set EventExt) (rows : List EventRow) : Prop where
  recorded : ∀ row ∈ rows, Recorded chain row
  distinct : Replay.Distinct EventRow.position rows

theorem OneChain.insert_events (hchain : NoReorg chain) {events : List EventExt}
    (hevents : ∀ event ∈ events, event ∈ chain) {rows inserted : List EventRow}
    (h : OneChain chain rows) (hok : Solvent.insert_events rows events = .ok inserted) :
    OneChain chain (rows ++ inserted) := by
  induction events generalizing rows inserted with
  | nil =>
    obtain rfl := Except.ok.inj hok
    rwa [List.append_nil]
  | cons event events ih =>
    have hrest : ∀ e ∈ events, e ∈ chain := fun e he => hevents e (List.mem_cons_of_mem _ he)
    unfold Solvent.insert_events at hok
    match hrow : event.row with
    | .error e => simp [hrow] at hok
    | .ok row =>
      rw [hrow] at hok
      dsimp only at hok
      split at hok
      · exact ih hrest h hok
      · rename_i hnew
        match hinsert : Solvent.insert_events (rows ++ [row]) events with
        | .error e => simp [hinsert, Except.map] at hok
        | .ok rest =>
          rw [hinsert] at hok
          obtain rfl := Except.ok.inj hok
          have hrecorded : Recorded chain row := ⟨event, hevents event (by simp), hrow⟩
          have hadded : OneChain chain (rows ++ [row]) := by
            constructor
            · intro r hr
              rcases List.mem_append.mp hr with hr | hr
              · exact h.recorded r hr
              · rw [List.mem_singleton.mp hr]
                exact hrecorded
            · -- A row at the same position would have had the same key.
              unfold Replay.Distinct
              rw [List.map_append, List.nodup_append]
              refine ⟨h.distinct, List.nodup_singleton _, ?_⟩
              intro p hp q hq hpq
              obtain ⟨r, hr, rfl⟩ := List.mem_map.mp hp
              have hrp : row.position = r.position := by
                rw [hpq]
                exact (List.mem_singleton.mp hq).symm
              have hkey := same_key_of_position hchain hrecorded (h.recorded r hr) hrp
              exact hnew (List.any_eq_true.mpr ⟨r, hr, hkey⟩)
          have hall := ih hrest hadded hinsert
          rwa [List.append_assoc] at hall

/-- Whatever a cycle writes comes from the chain. -/
theorem OneChain.arrivals (hchain : NoReorg chain) {reads : SyncReads} {to_block : U64}
    (hreads : (Action.cycle reads to_block).ReadsFrom chain) (h : OneChain chain s.rows) :
    OneChain chain (s.rows ++ s.arrivals reads to_block) := by
  unfold RegistrySync.arrivals
  split
  · rwa [List.append_nil]
  · match hfetch : reads.source s.from_block to_block with
    | .error e => simpa using h
    | .ok fetched =>
      match hinsert : Solvent.insert_events s.rows (s.fresh reads fetched) with
      | .error e => simpa [hinsert] using h
      | .ok inserted =>
        dsimp only
        rw [hinsert]
        refine h.insert_events hchain ?_ hinsert
        intro event hevent
        exact (hreads _ _ fetched hfetch event (List.mem_filter.mp hevent).1).1

/-! ## The snapshot -/

/-- The published snapshot is the fold of the log. -/
structure Synced (chain : Set EventExt) (s : RegistrySync) : Prop where
  log : OneChain chain s.rows
  snapshot : s.snapshot = fold decode_strategy .default s.events

variable {decode_strategy}

/-- **The late rows.** Rows that fit give the fold of the longer log. -/
theorem fold_arrivals {rows inserted : List EventRow} (hlog : OneChain chain (rows ++ inserted))
    (hfits : Fit decode_strategy rows inserted) :
    fold decode_strategy (fold decode_strategy .default (Replay.ordered EventRow.position rows))
        (Replay.ordered EventRow.position inserted) =
      fold decode_strategy .default (Replay.ordered EventRow.position (rows ++ inserted)) := by
  have hperm : (rows ++ inserted).Perm
      (rows ++ Replay.ordered EventRow.position inserted) :=
    (Replay.perm_ordered inserted).symm.append_left rows
  rw [hlog.distinct.ordered_congr hperm]
  -- Two events that `swaps` allows change places in every exact snapshot.
  have hswaps : ∀ (snapshot : Snapshot) (row row' : EventRow), Snapshot.Indexed snapshot →
      snapshot.swaps decode_strategy row.event row'.event = true →
      apply_row decode_strategy (apply_row decode_strategy snapshot row) row' =
        apply_row decode_strategy (apply_row decode_strategy snapshot row') row := by
    intro snapshot row row' hindexed hswap
    exact (hindexed.swaps_iff decode_strategy row.event row'.event).mp hswap
  have hgood : ∀ (snapshot : Snapshot) (row : EventRow), Snapshot.Indexed snapshot →
      Snapshot.Indexed (apply_row decode_strategy snapshot row) :=
    fun _ row h => h.apply decode_strategy row.event
  exact (Replay.foldl_ordered_append hgood hswaps Snapshot.indexed_default
    (hlog.distinct.perm hperm) hfits).symm

/-- A cycle leaves the snapshot of the log it found, or the one with its arrivals
    folded on top, or the same snapshot over a log with lost rows. -/
theorem sync_once_cases (decode_strategy : List (Fin 256) → CurveSpec) (reads : SyncReads) (to_block : U64) :
    ((s.sync_once decode_strategy reads to_block).2 = s ∧ s.arrivals reads to_block = []) ∨
    (reads.insert = .lost ∧ (s.sync_once decode_strategy reads to_block).2 =
      { s with rows := s.rows ++ s.arrivals reads to_block }) ∨
    ∃ scanned cursor, (s.sync_once decode_strategy reads to_block).2 =
      { s.absorb decode_strategy scanned (s.arrivals reads to_block) with cursor } := by
  unfold sync_once arrivals
  by_cases hcursor : reads.cursor_fails = true
  · simp [hcursor]
  · simp only [hcursor, Bool.false_eq_true, if_false, false_or]
    match reads.source s.from_block to_block with
    | .error e => simp
    | .ok fetched =>
      dsimp only
      match hinsert : insert_events s.rows (s.fresh reads fetched) with
      | .error e => simp
      | .ok inserted =>
        dsimp only
        match reads.insert with
        | .refused => simp
        | .lost => simp
        | .none =>
          right; right
          match reads.save_cursor with
          | .none => exact ⟨s.fresh reads fetched, some (s.progress to_block), rfl⟩
          | .lost => exact ⟨s.fresh reads fetched, some (s.progress to_block), rfl⟩
          | .refused => exact ⟨s.fresh reads fetched, s.cursor, rfl⟩

/-- **Step lemma.** -/
theorem Synced.next (hchain : NoReorg chain) {a : Action} (hreads : a.ReadsFrom chain)
    (hsettled : s.Settled decode_strategy a) (h : Synced decode_strategy chain s) :
    Synced decode_strategy chain (s.next decode_strategy a) := by
  match a with
  | .restart => exact ⟨h.log, rfl⟩
  | .crash reads to_block => exact ⟨h.log.arrivals hchain hreads, rfl⟩
  | .cycle reads to_block =>
    obtain ⟨hlost, hfits⟩ := hsettled
    have hlog := h.log.arrivals hchain hreads
    show Synced decode_strategy chain (s.sync_once decode_strategy reads to_block).2
    obtain ⟨hsame, _⟩ | ⟨hfault, hwritten⟩ | ⟨scanned, cursor, hdone⟩ :=
      sync_once_cases decode_strategy reads to_block
    · rw [hsame]
      exact h
    · -- Rows were lost: by the condition there were none.
      rw [hwritten, hlost hfault, List.append_nil]
      exact h
    · rw [hdone]
      refine ⟨hlog, ?_⟩
      show fold decode_strategy s.snapshot _ = _
      rw [h.snapshot]
      exact fold_arrivals hlog hfits

/-- **The snapshot is the replay of the log**, after every run of cycles and
    restarts whose late rows fit. -/
theorem snapshot_is_replay {chain : Set EventExt} (hchain : NoReorg chain)
    (start_block overlap_blocks : U64) {actions : List Action}
    (hreads : ∀ a ∈ actions, a.ReadsFrom chain)
    (hsettled : Run.Along (next decode_strategy) (Settled decode_strategy)
      (new start_block overlap_blocks) actions) :
    let s := Run.run (next decode_strategy) (new start_block overlap_blocks) actions
    s.snapshot = Snapshot.replay decode_strategy (s.events.map EventRow.event) ∧
      s.snapshot = (s.recover decode_strategy).snapshot := by
  intro s
  have hnew : Synced decode_strategy chain (new start_block overlap_blocks) := by
    refine ⟨⟨?_, List.nodup_nil⟩, rfl⟩
    intro row hrow
    cases hrow
  have halong := Run.along_and hsettled
    (Run.along_of_forall (Q := fun _ a => Action.ReadsFrom chain a)
      (fun a ha _ => hreads a ha) _)
  have hsynced : Synced decode_strategy chain s :=
    Run.invariant (P := Synced decode_strategy chain)
      (fun s a h hq => h.next hchain hq.2 hq.1) hnew halong
  refine ⟨?_, hsynced.snapshot⟩
  rw [hsynced.snapshot]
  unfold fold Snapshot.replay
  rw [List.foldl_map]
  rfl

/-! ## A late push, and a late shipment -/

section Samples

/-- An event of the sample strategy at one position of block 10. -/
def sample_event (log_index : U64) (event : AquaEvent) : EventExt :=
  { event, block_hash := some 10, block_number := some 10, log_index := some log_index }

def sample_shipped : EventExt := sample_event 0 (.Shipped ⟨1⟩ 170 ⟨1⟩ [1])

def sample_pushed (log_index : U64) (token : Address) : EventExt :=
  sample_event log_index (.Pushed ⟨1⟩ 170 ⟨1⟩ token 500)

/-- A source that knows these events. -/
def sample_source (events : List EventExt) (from_block to_block : U64) :
    Except String (List EventExt) :=
  .ok (if from_block ≤ 10 ∧ 10 ≤ to_block then events else [])

/-- Nothing fails. -/
def sample_reads (events : List EventExt) : SyncReads :=
  { cursor_fails := false, source := sample_source events, forgotten := fun _ => false,
    insert := .none, save_cursor := .none }

/-- One cycle up to block 10. -/
def sample_cycle (events : List EventExt) : Action := .cycle (sample_reads events) 10

def sample_chain : Set EventExt := {sample_shipped, sample_pushed 1 1, sample_pushed 2 2}

theorem sample_chain_no_reorg : NoReorg sample_chain := by
  rintro e (rfl | rfl | rfl) f (rfl | rfl | rfl) h <;> first | rfl | exact absurd h (by decide)

theorem sample_cycle_reads {events : List EventExt} (h : ∀ event ∈ events, event ∈ sample_chain) :
    (sample_cycle events).ReadsFrom sample_chain := by
  intro from_block to_block fetched hfetched event hevent
  have hanswer : (if from_block ≤ 10 ∧ 10 ≤ to_block then events else []) = fetched :=
    Except.ok.inj hfetched
  rw [← hanswer] at hevent
  split at hevent
  · rename_i hwindow
    have hmem := h event hevent
    refine ⟨hmem, ?_⟩
    obtain rfl | rfl | rfl := hmem
    · exact ⟨⟨10, 0⟩, rfl, hwindow⟩
    · exact ⟨⟨10, 1⟩, rfl, hwindow⟩
    · exact ⟨⟨10, 2⟩, rfl, hwindow⟩
  · cases hevent

/-- A push arrives one cycle after a later push: it fits. -/
theorem late_push_is_settled :
    let s := Run.run (next fun _ => .Unsupported) (new 0 5)
      [sample_cycle [sample_shipped, sample_pushed 2 2],
        sample_cycle [sample_pushed 2 2, sample_pushed 1 1, sample_shipped]]
    s.snapshot = Snapshot.replay (fun _ => .Unsupported) (s.events.map EventRow.event) ∧
      s.snapshot = (s.recover fun _ => .Unsupported).snapshot := by
  refine snapshot_is_replay sample_chain_no_reorg 0 5 ?_ ?_
  · intro a ha
    simp only [List.mem_cons, List.not_mem_nil, or_false] at ha
    obtain rfl | rfl := ha
    · exact sample_cycle_reads (by simp [sample_chain])
    · exact sample_cycle_reads (by simp [sample_chain])
  · decide +kernel

/-- The balance of the sample strategy in token 1. -/
def sample_balance (snapshot : Snapshot) : Option U256 :=
  (snapshot.strategies[(⟨⟨1⟩, 170, ⟨1⟩⟩ : StrategyKey)]?).map (·.balance 1)

/-- The service after a scan that missed the shipment. -/
def sample_missed : RegistrySync :=
  (new 0 5).next (fun _ => .Unsupported) (sample_cycle [sample_pushed 1 1])

/-- The service after the next scan, which has it. -/
def sample_late : RegistrySync :=
  sample_missed.next (fun _ => .Unsupported) (sample_cycle [sample_shipped, sample_pushed 1 1])

/-- The shipment arrives one cycle after the push: the cycle succeeds and the
    balance is lost until the next restart. -/
theorem late_shipment_is_not_replayed :
    NoReorg sample_chain ∧
      (sample_cycle [sample_pushed 1 1]).ReadsFrom sample_chain ∧
      (sample_cycle [sample_shipped, sample_pushed 1 1]).ReadsFrom sample_chain ∧
      (sample_missed.sync_once (fun _ => .Unsupported)
        (sample_reads [sample_shipped, sample_pushed 1 1]) 10).1 = .ok () ∧
      sample_late.snapshot ≠
        Snapshot.replay (fun _ => .Unsupported) (sample_late.events.map EventRow.event) := by
  refine ⟨sample_chain_no_reorg, sample_cycle_reads (by simp [sample_chain]),
    sample_cycle_reads (by simp [sample_chain]), by decide +kernel, ?_⟩
  intro hsame
  have hbalance : sample_balance sample_late.snapshot = some 0 := by decide +kernel
  have hreplayed : sample_balance (Snapshot.replay (fun _ => .Unsupported)
      (sample_late.events.map EventRow.event)) = some 500 := by decide +kernel
  rw [hsame, hreplayed] at hbalance
  exact absurd hbalance (by decide)

end Samples

end RegistrySync

end Solvent
