import Mathlib
import Solvent.Framework.ArcSwap
import Solvent.Framework.RwLock
import Solvent.Registry.Exchange
import Solvent.Swap.OneHold

/-! # Guards and admission

    `StrategyGuard` withholds strategies from routing. A request routes on a
    guard snapshot it loads without a lock, so a plan may draw on a strategy
    that was guarded since. Before it reserves, a request takes a read permit,
    loads the guards again and checks its plan; `guard` writes under the write
    permit, `unguard` under none.

    Requests, guards and unguards run in any order here, one access at a time,
    next to whatever else changes the node's stores and the registry. What
    carries the result is that the guards an admitted request checked against
    hold every key that is guarded now: only `guard` adds a key, and it waits
    until no request is admitted.
-/

namespace Solvent

open BTreeMap Interleave RwLock

/-! ## The machine -/

/-- What became of a key: it entered the set, its `guard` returned, it left. -/
inductive GuardEvent where
  | published (key : StrategyKey)
  | returned (key : StrategyKey)
  | unguarded (key : StrategyKey)
  deriving DecidableEq

/-- The node, the registry's events and the guards the calls share. -/
structure Gate where
  node : Node
  log : List AquaEvent
  guarded : ArcSwap GuardSnapshot
  admission : Lock
  /-- Ghost: what happened to the set so far. -/
  history : List GuardEvent

inductive GateRequest where
  | submit (request : SwapRequest)
  | guard (key : StrategyKey)
  | unguard (key : StrategyKey)

/-- Where a call of `guard` stands. -/
inductive GuardPhase where
  /-- `admission.write()` -/
  | waiting
  /-- `rcu`: load, then swap or load again. -/
  | loading
  | swapping (current : ArcSwap GuardSnapshot)
  /-- Drop the permit. -/
  | returning

/-- A call in progress. Between its `Quoted` and its `Reserved` trade a request
    waits for a permit, loads the guards, reserves and drops the permit. -/
inductive GateCall where
  | submit (request : SwapRequest) (phase : Phase)
  | permitted (request : SwapRequest) (call : Routed) (id : TradeId)
  | admitted (request : SwapRequest) (call : Routed) (id : TradeId) (guarded : GuardSnapshot)
  | leaving (request : SwapRequest) (next : Option Phase)
  | guard (key : StrategyKey) (phase : GuardPhase)
  | unguarding (key : StrategyKey)
  | unguard_swapping (key : StrategyKey) (current : ArcSwap GuardSnapshot)

structure GateReads where
  swap : SwapReads
  /-- The call is dropped; a permit it holds is given back. -/
  cancelled : Bool

inductive GateEvent where
  /-- Another service wrote the node's stores. -/
  | writes (node : Node)
  /-- The registry published the picture of another event log. -/
  | publishes (log : List AquaEvent)

/-- The permit a call holds. -/
def GateCall.hold : GateCall → Option Mode
  | .permitted _ _ _ | .admitted _ _ _ _ | .leaving _ _ => some .read
  | .guard _ .loading | .guard _ (.swapping _) | .guard _ .returning => some .write
  | .submit _ _ | .guard _ .waiting | .unguarding _ | .unguard_swapping _ _ => none

namespace Gate

section Machine

variable (config : SwapConfig) (keccak256 : List UInt8 → B256)
variable (decode_strategy : List (Fin 256) → CurveSpec) (app : Address)

/-- The registry's picture of a log: its source keeps the events of one app. -/
def registry (log : List AquaEvent) : Snapshot :=
  Snapshot.replay decode_strategy (log.filter fun event => event.key.app = app)

/-- What a request's port call reads: the published registry, and the guards
    without a lock. -/
def reads_at (g : Gate) (reads : SwapReads) : SwapReads :=
  { reads with registry := registry decode_strategy app g.log, guards := g.guarded.value }

/-- A dropped call gives its permit back. -/
def drop_call (g : Gate) (c : GateCall) : Gate :=
  match c.hold with
  | none => g
  | some mode => { g with admission := g.admission.release mode }

def step (reads : SwapReads) (g : Gate) : GateCall → Gate × Option GateCall
  | .submit request (.reserve call id) =>
    match g.admission.acquire .read with
    | none => (g, some (.submit request (.reserve call id)))
    | some admission => ({ g with admission }, some (.permitted request call id))
  | .submit request phase =>
    let (node, progress) := SwapService.step config keccak256 request
      (g.reads_at decode_strategy app reads) g.node phase
    ({ g with node }, progress.phase.map (GateCall.submit request))
  | .permitted request call id => (g, some (.admitted request call id g.guarded.value))
  | .admitted request call id guarded =>
    let (node, progress) := SwapService.reserve config keccak256 request
      { reads with guards := guarded } g.node call id
    ({ g with node }, some (.leaving request progress.phase))
  | .leaving request next =>
    ({ g with admission := g.admission.release .read }, next.map (GateCall.submit request))
  | .guard key .waiting =>
    match g.admission.acquire .write with
    | none => (g, some (.guard key .waiting))
    | some admission => ({ g with admission }, some (.guard key .loading))
  | .guard key .loading => (g, some (.guard key (.swapping g.guarded)))
  | .guard key (.swapping current) =>
    match g.guarded.compare_and_swap current (current.value.insert key) with
    | none => (g, some (.guard key .loading))
    | some guarded =>
      ({ g with guarded, history := g.history ++ [.published key] }, some (.guard key .returning))
  | .guard key .returning =>
    ({ g with
      admission := g.admission.release .write
      history := g.history ++ [.returned key] }, none)
  | .unguarding key => (g, some (.unguard_swapping key g.guarded))
  | .unguard_swapping key current =>
    match g.guarded.compare_and_swap current (current.value.erase key) with
    | none => (g, some (.unguarding key))
    | some guarded => ({ g with guarded, history := g.history ++ [.unguarded key] }, none)

def access (reads : GateReads) (g : Gate) (c : GateCall) : Gate × Option GateCall :=
  if reads.cancelled then (g.drop_call c, none)
  else g.step config keccak256 decode_strategy app reads.swap c

def entry : GateRequest → GateCall
  | .submit request => .submit request .start
  | .guard key => .guard key .waiting
  | .unguard key => .unguarding key

/-- The guards and the lock live in memory. -/
def restart (budget : AccountKey → U256) (g : Gate) : Gate :=
  { node := g.node.restart budget
    log := g.log
    guarded := .new ∅
    admission := .free
    history := [] }

def outside (event : GateEvent) (g : Gate) : Gate :=
  match event with
  | .writes node => { g with node }
  | .publishes log => { g with log }

abbrev machine : Machine Gate GateRequest GateCall GateReads (AccountKey → U256) GateEvent where
  entry := entry
  access := access config keccak256 decode_strategy app
  restart := restart
  outside := outside

/-- A gate before its first call, over any stores and any registry. -/
def fresh (node : Node) (log : List AquaEvent) : Gate :=
  { node, log, guarded := .new ∅, admission := .free, history := [] }

end Machine

end Gate

abbrev GateWorld : Type := World Gate GateCall

abbrev GateAction : Type := Action GateRequest GateReads (AccountKey → U256) GateEvent

/-! ## Closed keys -/

/-- The key entered the set and was not unguarded since. -/
def Publishes (history : List GuardEvent) (key : StrategyKey) : Prop :=
  ∃ earlier since, history = earlier ++ .published key :: since ∧ .unguarded key ∉ since

/-- `guard key` has returned, and `unguard key` was not called since it
    published the key. -/
def Closed (history : List GuardEvent) (key : StrategyKey) : Prop :=
  ∃ earlier since, history = earlier ++ .published key :: since ∧ .returned key ∈ since ∧
    .unguarded key ∉ since

theorem Closed.publishes {history : List GuardEvent} {key : StrategyKey}
    (h : Closed history key) : Publishes history key := by
  obtain ⟨earlier, since, rfl, -, hnone⟩ := h
  exact ⟨earlier, since, rfl, hnone⟩

theorem not_publishes_nil {key : StrategyKey} : ¬ Publishes [] key := by
  rintro ⟨earlier, since, h, -⟩
  simp at h

/-- The last event decides, or it is about another key or a return. -/
theorem publishes_append {history : List GuardEvent} {event : GuardEvent} {key : StrategyKey} :
    Publishes (history ++ [event]) key ↔
      event = .published key ∨ (Publishes history key ∧ event ≠ .unguarded key) := by
  constructor
  · rintro ⟨earlier, since, h, hnone⟩
    rcases List.eq_nil_or_concat since with rfl | ⟨since, last, rfl⟩
    · left
      obtain ⟨-, hlast⟩ := List.append_inj' h rfl
      exact List.singleton_injective hlast
    · right
      rw [List.concat_eq_append] at h hnone
      rw [← List.cons_append, ← List.append_assoc] at h
      obtain ⟨hhistory, hlast⟩ := List.append_inj' h rfl
      obtain rfl := List.singleton_injective hlast
      simp only [List.mem_append, List.mem_singleton, not_or] at hnone
      exact ⟨⟨earlier, since, hhistory, hnone.1⟩, fun h => hnone.2 h.symm⟩
  · rintro (rfl | ⟨⟨earlier, since, rfl, hnone⟩, hother⟩)
    · exact ⟨history, [], rfl, by simp⟩
    · refine ⟨earlier, since ++ [event], by simp, ?_⟩
      simp only [List.mem_append, List.mem_singleton, not_or]
      exact ⟨hnone, fun h => hother h.symm⟩

/-! ## What a request carries -/

/-- The route a phase works on. -/
def Phase.routed : Phase → Option Routed
  | .start | .record_declined _ | .decline _ _ => none
  | .record call _ | .read_status call _ | .reserve call _ | .advance_reserved call _
  | .simulate call _ | .void call _ | .lookup call _ | .send call _ | .track call _ _
  | .advance_simulated call _ | .advance_submitted call _ => some call

def GateCall.routed : GateCall → Option Routed
  | .submit _ phase => phase.routed
  | .permitted _ call _ | .admitted _ call _ _ => some call
  | .leaving _ next => next.bind Phase.routed
  | .guard _ _ | .unguarding _ | .unguard_swapping _ _ => none

/-- The guards an admitted request checked against, or is about to. -/
def GateCall.checked : GateCall → Option GuardSnapshot
  | .admitted _ _ _ guarded => some guarded
  | _ => none

/-- A request that checks against guards holds a read permit. -/
theorem GateCall.hold_of_checked {c : GateCall} {guarded : GuardSnapshot}
    (h : c.checked = some guarded) : c.hold = some .read := by
  cases c <;> first | rfl | cases h

/-- The guard set a writer loaded. -/
def GateCall.loaded : GateCall → Option (ArcSwap GuardSnapshot)
  | .guard _ (.swapping current) | .unguard_swapping _ current => some current
  | _ => none

namespace SwapService

section Carried

variable {config : SwapConfig} {keccak256 : List UInt8 → B256} {request : SwapRequest}
variable {reads : SwapReads} {node : Node}

/-- A store call that goes on carries what its continuation carries. -/
theorem carried_store_call {α : Type} {answer : Except TradeStoreError α × SqliteTradeStore}
    {continue_with : α → Progress} {phase' : Phase}
    (h : (store_call node answer continue_with).2.phase = some phase') :
    ∃ a, (continue_with a).phase = some phase' := by
  unfold store_call at h
  split at h
  · cases h
  · exact ⟨_, h⟩

/-- The reserve carries the route on, or declines. -/
theorem routed_reserve {call call' : Routed} {id : TradeId} {phase' : Phase}
    (h : (reserve config keccak256 request reads node call id).2.phase = some phase')
    (hcall : phase'.routed = some call') : call = call' := by
  unfold reserve at h
  split at h
  · obtain rfl := Option.some.inj h
    cases hcall
  · split at h
    · obtain rfl := Option.some.inj h
      exact Option.some.inj hcall
    · obtain rfl := Option.some.inj h
      cases hcall
    · cases h

/-- A request routes once, on the registry its first port call reads. -/
theorem routed_step {phase phase' : Phase} {call : Routed}
    (h : (step config keccak256 request reads node phase).2.phase = some phase')
    (hcall : phase'.routed = some call) :
    phase.routed = some call ∨ (∃ amounts, price_and_route config request.intent reads
      node.ledger.snapshot = some (amounts, call.plan)) ∧ call.snapshot = reads.registry := by
  match phase with
  | .start =>
    simp only [step] at h
    split at h
    · obtain rfl := Option.some.inj h
      cases hcall
    · rename_i amounts plan hroute
      obtain rfl := Option.some.inj h
      obtain rfl := Option.some.inj hcall
      exact .inr ⟨⟨amounts, hroute⟩, rfl⟩
  | .record_declined now =>
    obtain ⟨created, hnext⟩ := carried_store_call h
    obtain rfl := Option.some.inj hnext
    cases hcall
  | .decline id now =>
    obtain ⟨u, hnext⟩ := carried_store_call h
    cases hnext
  | .record call' amounts =>
    obtain ⟨created, hnext⟩ := carried_store_call h
    obtain rfl := Option.some.inj hnext
    left
    split at hcall
    · exact hcall
    · exact hcall
  | .read_status call' id =>
    simp only [step, read_status] at h
    split at h
    · obtain rfl := Option.some.inj h
      exact .inl hcall
    · cases h
  | .reserve call' id =>
    exact .inl (congrArg some (routed_reserve h hcall))
  | .advance_reserved call' id =>
    obtain ⟨u, hnext⟩ := carried_store_call h
    obtain rfl := Option.some.inj hnext
    exact .inl hcall
  | .simulate call' id =>
    simp only [step] at h
    split at h
    · obtain rfl := Option.some.inj h
      exact .inl hcall
    · obtain rfl := Option.some.inj h
      exact .inl hcall
  | .void call' id =>
    simp only [step, void] at h
    split at h
    · obtain rfl := Option.some.inj h
      cases hcall
    · cases h
  | .lookup call' id =>
    simp only [step] at h
    split at h
    · obtain rfl := Option.some.inj h
      exact .inl hcall
    · obtain rfl := Option.some.inj h
      exact .inl hcall
  | .send call' id =>
    obtain rfl := Option.some.inj h
    exact .inl hcall
  | .track call' id handle =>
    obtain rfl := Option.some.inj h
    exact .inl hcall
  | .advance_simulated call' id =>
    obtain ⟨u, hnext⟩ := carried_store_call h
    obtain rfl := Option.some.inj hnext
    exact .inl hcall
  | .advance_submitted call' id =>
    obtain ⟨u, hnext⟩ := carried_store_call h
    cases hnext

/-- No other port call of a request records a reservation. -/
theorem step_records_none {phase : Phase} (hphase : ∀ call id, phase ≠ .reserve call id)
    {id : ReservationId} (hnone : node.ledger.memory id = none) :
    (step config keccak256 request reads node phase).1.ledger.memory id = none := by
  have hdoes : Does keccak256 request node phase
      (step config keccak256 request reads node phase).1
      (step config keccak256 request reads node phase).2.phase :=
    step_does keccak256 request config rfl
  generalize (step config keccak256 request reads node phase).1 = node' at hdoes ⊢
  generalize (step config keccak256 request reads node phase).2.phase = next at hdoes
  match hdoes with
  | .quiet _ | .ends _ _ | .records_declined .. | .records .. | .declines .. | .advances ..
  | .sends | .tracks => exact hnone
  | .reserve_fails .. => exact absurd rfl (hphase _ _)
  | .reserves .. => exact absurd rfl (hphase _ _)
  | .voids hmoves => exact hmoves.memory_none hnone
  | .void_fails hmoves _ => exact hmoves.memory_none hnone

theorem memory_none_iff {s : LedgerService} {id : ReservationId} :
    s.memory id = none ↔ s.ledger.reservations[id]? = none := by
  simp [LedgerService.memory]

/-- A reserve records its plan's sources, and only if no strategy of the plan is
    guarded. -/
theorem reserve_records {call : Routed} {trade : TradeId} {id : ReservationId} {r : Reservation}
    (hnone : node.ledger.ledger.reservations[id]? = none)
    (hsome : (reserve config keccak256 request reads node call
      trade).1.ledger.ledger.reservations[id]? = some r) :
    plan_is_guarded call.plan call.snapshot reads.guards = false ∧
      r.sources = sources_of call.plan := by
  -- Where the ledger is as it was, nothing is new.
  have hsame : ∀ ledger : LedgerService, ledger.memory id = node.ledger.memory id →
      ledger.ledger.reservations[id]? ≠ some r := by
    intro ledger hmemory hr
    rw [memory_none_iff.mpr hnone, memory_none_iff, hr] at hmemory
    cases hmemory
  unfold reserve at hsome
  split at hsome
  · exact absurd hsome (hsame node.ledger rfl)
  · rename_i hfree
    refine ⟨by simpa using hfree, ?_⟩
    rcases LedgerService.reserve_evolves node.ledger
        { now_unix := reads.now_unix, budget := reads.budget }
        (reservation_id keccak256 request.intent.id call.plan) request.intent.id
        (sources_of call.plan) config.reservation_ttl_secs with
      ⟨e, ledger, herror, hledger⟩ | ⟨ledger, hok, -, -, -, -, hothers⟩
    · rw [herror] at hsome
      have hrecorded : ledger.ledger.reservations[id]? = some r := by
        split at hsome
        · rename_i heq
          cases heq
        · rename_i heq
          obtain ⟨-, rfl⟩ := Prod.mk.inj heq
          exact hsome
        · rename_i heq
          obtain ⟨-, rfl⟩ := Prod.mk.inj heq
          exact hsome
      exact absurd hrecorded (hsame ledger (hledger.memory id))
    · rw [hok] at hsome
      by_cases hid : id = reservation_id keccak256 request.intent.id call.plan
      · obtain ⟨r', hr', -, hsources⟩ := LedgerService.reservation_of_reserve hok
        rw [← hid] at hr'
        obtain rfl : r' = r := Option.some.inj (hr'.symm.trans hsome)
        exact hsources
      · exact absurd hsome (hsame ledger (hothers id hid).1)

end Carried

end SwapService

/-! ## One access -/

section Access

variable {config : SwapConfig} {keccak256 : List UInt8 → B256}
variable {decode_strategy : List (Fin 256) → CurveSpec} {app : Address}
variable {reads : GateReads} {g g' : Gate} {c c' : GateCall} {next : Option GateCall}

/-- What one access of a call can do. -/
inductive GateDoes (config : SwapConfig) (keccak256 : List UInt8 → B256)
    (decode_strategy : List (Fin 256) → CurveSpec) (app : Address) (reads : GateReads) (g : Gate) :
    GateCall → Gate → Option GateCall → Prop where
  | cancels (c : GateCall) :
      GateDoes config keccak256 decode_strategy app reads g c (g.drop_call c) none
  /-- The lock is held, or the guards were replaced since they were loaded. -/
  | again {c c' : GateCall} (hhold : c'.hold = c.hold) (hrouted : c'.routed = c.routed)
      (hchecked : c'.checked = none) (hloaded : c'.loaded = none) :
      GateDoes config keccak256 decode_strategy app reads g c g (some c')
  | submits {request : SwapRequest} {phase : Phase} (hphase : ∀ call id, phase ≠ .reserve call id) :
      GateDoes config keccak256 decode_strategy app reads g (.submit request phase)
        { g with
          node := (SwapService.step config keccak256 request
            (g.reads_at decode_strategy app reads.swap) g.node phase).1 }
        ((SwapService.step config keccak256 request (g.reads_at decode_strategy app reads.swap)
          g.node phase).2.phase.map (GateCall.submit request))
  | permits {request : SwapRequest} {call : Routed} {id : TradeId} {admission : Lock}
      (htake : g.admission.acquire .read = some admission) :
      GateDoes config keccak256 decode_strategy app reads g (.submit request (.reserve call id))
        { g with admission } (some (.permitted request call id))
  | admits {request : SwapRequest} {call : Routed} {id : TradeId} :
      GateDoes config keccak256 decode_strategy app reads g (.permitted request call id) g
        (some (.admitted request call id g.guarded.value))
  | reserves {request : SwapRequest} {call : Routed} {id : TradeId} {guarded : GuardSnapshot} :
      GateDoes config keccak256 decode_strategy app reads g (.admitted request call id guarded)
        { g with
          node := (SwapService.reserve config keccak256 request
            { reads.swap with guards := guarded } g.node call id).1 }
        (some (.leaving request (SwapService.reserve config keccak256 request
          { reads.swap with guards := guarded } g.node call id).2.phase))
  | leaves {request : SwapRequest} {phase : Option Phase} :
      GateDoes config keccak256 decode_strategy app reads g (.leaving request phase)
        { g with admission := g.admission.release .read } (phase.map (GateCall.submit request))
  | excludes {key : StrategyKey} {admission : Lock}
      (htake : g.admission.acquire .write = some admission) :
      GateDoes config keccak256 decode_strategy app reads g (.guard key .waiting)
        { g with admission } (some (.guard key .loading))
  | loads {key : StrategyKey} :
      GateDoes config keccak256 decode_strategy app reads g (.guard key .loading) g
        (some (.guard key (.swapping g.guarded)))
  | publishes {key : StrategyKey} {current guarded : ArcSwap GuardSnapshot}
      (hswap : g.guarded.compare_and_swap current (current.value.insert key) = some guarded) :
      GateDoes config keccak256 decode_strategy app reads g (.guard key (.swapping current))
        { g with guarded, history := g.history ++ [.published key] }
        (some (.guard key .returning))
  | returns {key : StrategyKey} :
      GateDoes config keccak256 decode_strategy app reads g (.guard key .returning)
        { g with
          admission := g.admission.release .write
          history := g.history ++ [.returned key] } none
  | unguard_loads {key : StrategyKey} :
      GateDoes config keccak256 decode_strategy app reads g (.unguarding key) g
        (some (.unguard_swapping key g.guarded))
  | unguards {key : StrategyKey} {current guarded : ArcSwap GuardSnapshot}
      (hswap : g.guarded.compare_and_swap current (current.value.erase key) = some guarded) :
      GateDoes config keccak256 decode_strategy app reads g (.unguard_swapping key current)
        { g with guarded, history := g.history ++ [.unguarded key] } none

theorem Gate.step_submit {request : SwapRequest} {phase : Phase} {swap : SwapReads}
    (hphase : ∀ call id, phase ≠ .reserve call id) :
    g.step config keccak256 decode_strategy app swap (.submit request phase) =
      ({ g with
        node := (SwapService.step config keccak256 request
          (g.reads_at decode_strategy app swap) g.node phase).1 },
        (SwapService.step config keccak256 request (g.reads_at decode_strategy app swap)
          g.node phase).2.phase.map (GateCall.submit request)) := by
  cases phase with
  | reserve call id => exact absurd rfl (hphase call id)
  | _ => rfl

/-- **Inversion of an access.** -/
theorem Gate.access_does (reads : GateReads) (g : Gate) (c : GateCall) :
    GateDoes config keccak256 decode_strategy app reads g c
      (g.access config keccak256 decode_strategy app reads c).1
      (g.access config keccak256 decode_strategy app reads c).2 := by
  unfold access
  split
  · exact .cancels c
  match c with
  | .submit request phase =>
    by_cases hphase : ∀ call id, phase ≠ .reserve call id
    · rw [step_submit hphase]
      exact .submits hphase
    · push Not at hphase
      obtain ⟨call, id, rfl⟩ := hphase
      simp only [step]
      split
      · exact .again rfl rfl rfl rfl
      · rename_i admission htake
        exact .permits htake
  | .permitted request call id => exact .admits
  | .admitted request call id guarded => exact .reserves
  | .leaving request phase => exact .leaves
  | .guard key .waiting =>
    simp only [step]
    split
    · exact .again rfl rfl rfl rfl
    · rename_i admission htake
      exact .excludes htake
  | .guard key .loading => exact .loads
  | .guard key (.swapping current) =>
    simp only [step]
    split
    · exact .again rfl rfl rfl rfl
    · rename_i guarded hswap
      exact .publishes hswap
  | .guard key .returning => exact .returns
  | .unguarding key => exact .unguard_loads
  | .unguard_swapping key current =>
    simp only [step]
    split
    · exact .again rfl rfl rfl rfl
    · rename_i guarded hswap
      exact .unguards hswap

/-- The lock moves with the call's permit. -/
theorem GateDoes.changes (h : GateDoes config keccak256 decode_strategy app reads g c g' next) :
    Changes c.hold (next.bind GateCall.hold) g.admission g'.admission := by
  -- Outside the reserve a request holds nothing.
  have hfree : ∀ (request : SwapRequest) (phase : Option Phase),
      (phase.map (GateCall.submit request)).bind GateCall.hold = none := by
    intro request phase
    cases phase <;> rfl
  match h with
  | .cancels c =>
    unfold Gate.drop_call
    split
    · rename_i hnone
      rw [hnone]
      exact .keeps none _
    · rename_i mode hmode
      rw [hmode]
      exact .drops mode _
  | .again hhold _ _ _ =>
    rw [show (some _ : Option GateCall).bind GateCall.hold = c.hold from hhold]
    exact .keeps _ _
  | .submits _ =>
    rw [hfree]
    exact .keeps none _
  | .permits htake => exact .takes htake
  | .admits => exact .keeps (some .read) _
  | .reserves => exact .keeps (some .read) _
  | .leaves =>
    rw [hfree]
    exact .drops .read _
  | .excludes htake => exact .takes htake
  | .loads => exact .keeps (some .write) _
  | .publishes _ => exact .keeps (some .write) _
  | .returns => exact .drops .write _
  | .unguard_loads => exact .keeps none _
  | .unguards _ => exact .keeps none _

/-- What an access does to the guard set. -/
inductive GuardEffect (g : Gate) (c : GateCall) (g' : Gate) : Prop where
  | same (hguarded : g'.guarded = g.guarded) (hhistory : g'.history = g.history)
  | returns {key : StrategyKey} (hguarded : g'.guarded = g.guarded)
      (hhistory : g'.history = g.history ++ [.returned key])
  | publishes {key : StrategyKey} {current : ArcSwap GuardSnapshot}
      (hcall : c = .guard key (.swapping current))
      (hswap : g.guarded.compare_and_swap current (current.value.insert key) = some g'.guarded)
      (hhistory : g'.history = g.history ++ [.published key])
  | unguards {key : StrategyKey} {current : ArcSwap GuardSnapshot}
      (hcall : c = .unguard_swapping key current)
      (hswap : g.guarded.compare_and_swap current (current.value.erase key) = some g'.guarded)
      (hhistory : g'.history = g.history ++ [.unguarded key])

theorem GateDoes.guards (h : GateDoes config keccak256 decode_strategy app reads g c g' next) :
    GuardEffect g c g' := by
  match h with
  | .cancels c =>
    unfold Gate.drop_call
    split
    · exact .same rfl rfl
    · exact .same rfl rfl
  | .again _ _ _ _ | .submits _ | .permits _ | .admits | .reserves | .leaves | .excludes _
  | .loads | .unguard_loads => exact .same rfl rfl
  | .publishes hswap => exact .publishes rfl hswap rfl
  | .returns => exact .returns rfl rfl
  | .unguards hswap => exact .unguards rfl hswap rfl

/-- A call that goes on has just loaded what it holds of the guards. -/
theorem GateDoes.fresh (h : GateDoes config keccak256 decode_strategy app reads g c g' (some c')) :
    (∀ seen, c'.loaded = some seen → g'.guarded = g.guarded ∧ seen = g.guarded) ∧
    (∀ guarded, c'.checked = some guarded →
      g'.guarded = g.guarded ∧ guarded = g.guarded.value) := by
  generalize hnext : some c' = next at h
  match h with
  | .cancels c => cases hnext
  | .again _ _ hchecked hloaded =>
    obtain rfl := Option.some.inj hnext
    exact ⟨by simp [hloaded], by simp [hchecked]⟩
  | .submits _ | .leaves =>
    obtain ⟨phase', -, rfl⟩ := Option.map_eq_some_iff.mp hnext.symm
    exact ⟨by simp [GateCall.loaded], by simp [GateCall.checked]⟩
  | .permits _ | .reserves | .excludes _ | .publishes _ =>
    obtain rfl := Option.some.inj hnext
    exact ⟨by simp [GateCall.loaded], by simp [GateCall.checked]⟩
  | .admits =>
    obtain rfl := Option.some.inj hnext
    exact ⟨by simp [GateCall.loaded], fun guarded h => ⟨rfl, (Option.some.inj h).symm⟩⟩
  | .loads | .unguard_loads =>
    obtain rfl := Option.some.inj hnext
    exact ⟨fun seen h => ⟨rfl, (Option.some.inj h).symm⟩, by simp [GateCall.checked]⟩
  | .returns | .unguards _ => cases hnext

/-! ## Routes -/

/-- Every leg draws on a strategy of the route's snapshot, under the app. -/
def Routed.Registered (app : Address) (call : Routed) : Prop :=
  ∀ leg ∈ call.plan.legs, ∃ (key : StrategyKey) (strategy : MakerStrategy),
    call.snapshot.strategies[key]? = some strategy ∧ strategy.key = key ∧ key.app = app ∧
      leg.DrawsOn key

theorem Snapshot.mem_strategies {s : Snapshot} {key : StrategyKey} {strategy : MakerStrategy}
    (h : s.strategies[key]? = some strategy) : strategy ∈ BTreeMap.values s.strategies :=
  List.mem_map.mpr ⟨(key, strategy), Std.ExtTreeMap.mem_toList_iff_getElem?_eq_some.mpr h, rfl⟩

theorem StrategyKey.ext {a b : StrategyKey} (hmaker : a.maker = b.maker) (happ : a.app = b.app)
    (hhash : a.strategy_hash = b.strategy_hash) : a = b := by
  cases a
  cases b
  simp_all

/-- The registry holds strategies of the app only. -/
theorem Gate.app_of_registered {log : List AquaEvent} {key : StrategyKey}
    {strategy : MakerStrategy}
    (h : (registry decode_strategy app log).strategies[key]? = some strategy) :
    key.app = app := by
  obtain ⟨event, hevent, rfl⟩ := Snapshot.addressed_of_replay decode_strategy h
  exact of_decide_eq_true (List.mem_filter.mp hevent).2

/-- A route on the registry is registered. -/
theorem registered_of_route {intent : Intent} {reads : SwapReads} {caps : AvailableSnapshot}
    {log : List AquaEvent} {amounts : SwapAmounts} {call : Routed}
    (hregistry : reads.registry = Gate.registry decode_strategy app log)
    (hsnapshot : call.snapshot = reads.registry)
    (h : SwapService.price_and_route config intent reads caps = some (amounts, call.plan)) :
    call.Registered app := by
  unfold SwapService.price_and_route at h
  simp only [Option.bind_eq_bind, Option.bind_eq_some_iff] at h
  obtain ⟨amounts', -, plan, hroute, heq⟩ := h
  obtain ⟨rfl, rfl⟩ := Prod.mk.inj (Option.some.inj heq)
  intro leg hleg
  have hindexed : Snapshot.Indexed reads.registry := by
    rw [hregistry]
    exact Snapshot.indexed_replay decode_strategy _
  obtain ⟨key, strategy, hstored, hdraws⟩ := leg_of_route hindexed hroute hleg
  refine ⟨key, strategy, ?_, hindexed.keyed key strategy hstored, ?_, hdraws⟩
  · rw [hsnapshot]
    exact hstored
  · rw [hregistry] at hstored
    exact Gate.app_of_registered hstored

/-- A route is carried on, or fresh from the registry. -/
theorem GateDoes.registered (h : GateDoes config keccak256 decode_strategy app reads g c g' (some c'))
    (hc : ∀ call, c.routed = some call → call.Registered app) {call : Routed}
    (hcall : c'.routed = some call) : call.Registered app := by
  generalize hnext : some c' = next at h
  match h with
  | .cancels c => cases hnext
  | .again _ hrouted _ _ =>
    obtain rfl := Option.some.inj hnext
    exact hc call (hrouted ▸ hcall)
  | .submits _ =>
    obtain ⟨phase', hphase', rfl⟩ := Option.map_eq_some_iff.mp hnext.symm
    rcases SwapService.routed_step hphase' hcall with hsame | ⟨⟨amounts, hroute⟩, hsnapshot⟩
    · exact hc call hsame
    · exact registered_of_route rfl hsnapshot hroute
  | .leaves =>
    obtain ⟨phase', rfl, rfl⟩ := Option.map_eq_some_iff.mp hnext.symm
    exact hc call hcall
  | .reserves =>
    obtain rfl := Option.some.inj hnext
    obtain ⟨phase', hphase', hrouted⟩ := Option.bind_eq_some_iff.mp hcall
    exact hc call (congrArg some (SwapService.routed_reserve hphase' hrouted))
  | .permits _ | .admits =>
    obtain rfl := Option.some.inj hnext
    exact hc call hcall
  | .excludes _ | .loads | .publishes _ | .unguard_loads =>
    obtain rfl := Option.some.inj hnext
    cases hcall
  | .returns | .unguards _ => cases hnext

/-! ## The invariant -/

/-- The lock counts its holders; what was loaded of the guards was there; every
    key guarded now is among those an admitted request checks against; the keys
    published and not unguarded are guarded; and every route is registered. -/
structure Gated (app : Address) (w : GateWorld) : Prop where
  lock : RwLock.Held GateCall.hold w.shared.admission w.calls
  loaded : ∀ i c seen, w.At i c → c.loaded = some seen → w.shared.guarded.Loaded seen
  checked : ∀ i c guarded, w.At i c → c.checked = some guarded →
    ∀ key ∈ w.shared.guarded.value, key ∈ guarded
  published : ∀ key, Publishes w.shared.history key → key ∈ w.shared.guarded.value
  routed : ∀ i c call, w.At i c → c.routed = some call → call.Registered app

theorem gated_fresh (node : Node) (log : List AquaEvent) :
    Gated app (Machine.initial (Gate.fresh node log)) where
  lock := held_free
  loaded := fun _ _ _ hat => absurd hat World.not_at_nil
  checked := fun _ _ _ hat => absurd hat World.not_at_nil
  published := fun _ h => absurd h not_publishes_nil
  routed := fun _ _ _ hat => absurd hat World.not_at_nil

/-- **Step lemma.** An access keeps the invariant. -/
theorem gated_access {w : GateWorld} {i : ℕ} (hw : Gated app w) (hat : w.At i c)
    (h : GateDoes config keccak256 decode_strategy app reads w.shared c g' next) :
    Gated app { shared := g', calls := w.calls.set i next } := by
  have hmoved : Machine.Moved w { shared := g', calls := w.calls.set i next } i next :=
    Machine.moved_set (World.lt_of_at hat) g' next
  -- A call of the new world is the one that moved or was there before.
  have hwho : ∀ j c', (World.mk g' (w.calls.set i next)).At j c' →
      next = some c' ∨ (j ≠ i ∧ w.At j c') := by
    intro j c' hc'
    by_cases hj : j = i
    · subst hj
      exact .inl ((hmoved.moved c').mp hc')
    · exact .inr ⟨hj, (hmoved.others j c' hj).mp hc'⟩
  have hchanges : Changes (held_in GateCall.hold (some c)) (held_in GateCall.hold next)
      w.shared.admission g'.admission := h.changes
  have heffect := h.guards
  refine ⟨hw.lock.set hat hchanges, ?_, ?_, ?_, ?_⟩
  · intro j c' seen hc' hseen
    show g'.guarded.Loaded seen
    rcases hwho j c' hc' with rfl | ⟨-, hbefore⟩
    · obtain ⟨hsame, rfl⟩ := h.fresh.1 seen hseen
      rw [hsame]
      exact ArcSwap.loaded_self _
    · have hloaded := hw.loaded j c' seen hbefore hseen
      match heffect with
      | .same hguarded _ | .returns hguarded _ => exact hguarded ▸ hloaded
      | .publishes _ hswap _ | .unguards _ hswap _ => exact hloaded.swap hswap
  · intro j c' guarded hc' hguards key hkey
    rcases hwho j c' hc' with rfl | ⟨hj, hbefore⟩
    · obtain ⟨hsame, rfl⟩ := h.fresh.2 guarded hguards
      exact hsame ▸ hkey
    · have hchecked := hw.checked j c' guarded hbefore hguards key
      match heffect with
      | .same hguarded _ | .returns hguarded _ => exact hchecked (hguarded ▸ hkey)
      | .publishes hcall _ _ =>
        -- A guard that publishes holds the write permit: no request is admitted.
        subst hcall
        exact absurd (GateCall.hold_of_checked hguards) (hw.lock.excludes hat rfl hbefore)
      | .unguards hcall hswap _ =>
        subst hcall
        have hvalue := ArcSwap.value_of_swap (f := (·.erase _)) (hw.loaded i _ _ hat rfl) hswap
        refine hchecked ?_
        have hkey' : key ∈ g'.guarded.value := hkey
        rw [hvalue] at hkey'
        exact ((BTreeSet.mem_erase _).mp hkey').2
  · intro key hpub
    show key ∈ g'.guarded.value
    have hpub' : Publishes g'.history key := hpub
    match heffect with
    | .same hguarded hhistory =>
      rw [hguarded]
      exact hw.published key (hhistory ▸ hpub')
    | .returns hguarded hhistory =>
      rw [hhistory, publishes_append] at hpub'
      rw [hguarded]
      exact hw.published key (hpub'.resolve_left (by simp)).1
    | .publishes hcall hswap hhistory =>
      subst hcall
      have hvalue := ArcSwap.value_of_swap (f := (·.insert _)) (hw.loaded i _ _ hat rfl) hswap
      rw [hhistory, publishes_append] at hpub'
      rw [hvalue, BTreeSet.mem_insert]
      rcases hpub' with heq | ⟨hbefore, -⟩
      · exact .inl (GuardEvent.published.inj heq).symm
      · exact .inr (hw.published key hbefore)
    | .unguards hcall hswap hhistory =>
      subst hcall
      have hvalue := ArcSwap.value_of_swap (f := (·.erase _)) (hw.loaded i _ _ hat rfl) hswap
      rw [hhistory, publishes_append] at hpub'
      obtain ⟨hbefore, hother⟩ := hpub'.resolve_left (by simp)
      rw [hvalue, BTreeSet.mem_erase]
      exact ⟨fun heq => hother (heq ▸ rfl), hw.published key hbefore⟩
  · intro j c' call hc' hcall
    rcases hwho j c' hc' with rfl | ⟨-, hbefore⟩
    · exact h.registered (fun call => hw.routed i c call hat) hcall
    · exact hw.routed j c' call hbefore hcall

/-! ## Every run -/

theorem gated_next (w : GateWorld) (a : GateAction) (hw : Gated app w) (_ha : True) :
    Gated app ((Gate.machine config keccak256 decode_strategy app).next w a) := by
  refine (Gate.machine config keccak256 decode_strategy app).keeps_pool
    (P := Gated app) (Q := fun _ _ => True) ?_ ?_ ?_ ?_ ?_ w a hw trivial
  · -- A call starts without a permit, a load or a route.
    intro w request hw _
    have hfirst : (Gate.entry request).hold = none ∧ (Gate.entry request).loaded = none ∧
        (Gate.entry request).checked = none ∧ (Gate.entry request).routed = none := by
      cases request <;> exact ⟨rfl, rfl, rfl, rfl⟩
    have hwho : ∀ i c, (World.mk w.shared (w.calls ++ [some (Gate.entry request)])).At i c →
        w.At i c ∨ c = Gate.entry request := by
      intro i c hat
      rcases World.at_append.mp hat with hbefore | ⟨-, hnew⟩
      · exact .inl hbefore
      · exact .inr hnew
    refine ⟨hw.lock.start hfirst.1, ?_, ?_, hw.published, ?_⟩
    · intro i c seen hat hseen
      rcases hwho i c hat with hbefore | rfl
      · exact hw.loaded i c seen hbefore hseen
      · rw [hfirst.2.1] at hseen
        cases hseen
    · intro i c guarded hat hguards
      rcases hwho i c hat with hbefore | rfl
      · exact hw.checked i c guarded hbefore hguards
      · rw [hfirst.2.2.1] at hguards
        cases hguards
    · intro i c call hat hcall
      rcases hwho i c hat with hbefore | rfl
      · exact hw.routed i c call hbefore hcall
      · rw [hfirst.2.2.2] at hcall
        cases hcall
  · intro w i reads c hw _ hat
    exact gated_access hw hat (Gate.access_does reads w.shared c)
  · -- A call that ends leaves its permit behind.
    intro w i c hw _ hat
    have hmoved : Machine.Moved w { w with calls := w.calls.set i none } i none :=
      Machine.moved_set (World.lt_of_at hat) w.shared none
    have hothers : ∀ j c', (World.mk w.shared (w.calls.set i none)).At j c' → w.At j c' := by
      intro j c' hc'
      have hj : j ≠ i := by
        rintro rfl
        exact absurd ((hmoved.moved c').mp hc') (by simp)
      exact (hmoved.others j c' hj).mp hc'
    exact ⟨hw.lock.set hat (.loses _ _), fun j c' seen hc' => hw.loaded j c' seen (hothers j c' hc'),
      fun j c' guarded hc' => hw.checked j c' guarded (hothers j c' hc'), hw.published,
      fun j c' call hc' => hw.routed j c' call (hothers j c' hc')⟩
  · intro w budget _ _
    exact ⟨held_free, fun _ _ _ hat => absurd hat World.not_at_nil,
      fun _ _ _ hat => absurd hat World.not_at_nil, fun _ h => absurd h not_publishes_nil,
      fun _ _ _ hat => absurd hat World.not_at_nil⟩
  · intro w event hw _
    cases event <;> exact ⟨hw.lock, hw.loaded, hw.checked, hw.published, hw.routed⟩

theorem gated_run (node : Node) (log : List AquaEvent) (actions : List GateAction) :
    Gated app (Run.run (Gate.machine config keccak256 decode_strategy app).next
      (Machine.initial (Gate.fresh node log)) actions) :=
  Run.invariant (P := Gated app) (Q := fun _ _ => True) gated_next (gated_fresh node log)
    (Run.along_of_forall (fun _ _ _ => trivial) _)

/-- Only an admitted request records a reservation. -/
theorem GateDoes.records (h : GateDoes config keccak256 decode_strategy app reads g c g' next)
    {id : ReservationId} {r : Reservation} (hnone : g.node.ledger.ledger.reservations[id]? = none)
    (hsome : g'.node.ledger.ledger.reservations[id]? = some r) :
    ∃ (request : SwapRequest) (call : Routed) (trade : TradeId) (guarded : GuardSnapshot),
      c = .admitted request call trade guarded ∧
      SwapService.plan_is_guarded call.plan call.snapshot guarded = false ∧
      r.sources = sources_of call.plan := by
  match h with
  | .cancels c =>
    unfold Gate.drop_call at hsome
    split at hsome
    · exact absurd hsome (by rw [hnone]; simp)
    · exact absurd hsome (by simp [hnone])
  | .again _ _ _ _ | .permits _ | .admits | .leaves | .excludes _ | .loads | .publishes _
  | .returns | .unguard_loads | .unguards _ => exact absurd hsome (by simp [hnone])
  | .submits hphase =>
    have hbefore := SwapService.memory_none_iff.mpr hnone
    rw [SwapService.memory_none_iff.mp (SwapService.step_records_none hphase hbefore)] at hsome
    cases hsome
  | .reserves =>
    obtain ⟨hfree, hsources⟩ := SwapService.reserve_records hnone hsome
    exact ⟨_, _, _, _, rfl, hfree, hsources⟩

/-- **Guarding closes admission.** In every run of requests, guards and unguards
    over any stores and any registry of the app: an access that records a
    reservation draws on no strategy of the registry, whatever the registry
    shows now or showed when the plan was routed, whose key is guarded or was
    closed by a `guard` that returned. -/
theorem guarding_closes_admission (config : SwapConfig) (keccak256 : List UInt8 → B256)
    (decode_strategy : List (Fin 256) → CurveSpec) (app : Address) (node : Node)
    (log : List AquaEvent) (actions : List GateAction) (i : ℕ) (reads : GateReads) :
    let machine := Gate.machine config keccak256 decode_strategy app
    let w := Run.run machine.next (Machine.initial (Gate.fresh node log)) actions
    ∀ (id : ReservationId) (r : Reservation),
      w.shared.node.ledger.ledger.reservations[id]? = none →
      (machine.next w (.access i reads)).shared.node.ledger.ledger.reservations[id]? = some r →
      ∀ (shown : List AquaEvent) (key : StrategyKey) (strategy : MakerStrategy),
        (Gate.registry decode_strategy app shown).strategies[key]? = some strategy →
        Closed w.shared.history key ∨ key ∈ w.shared.guarded.value →
        ∀ source ∈ r.sources,
          ¬ (source.maker = key.maker ∧ source.strategy_hash = key.strategy_hash) := by
  intro machine w id r hnone hsome shown key strategy hstored hclosed source hsource
  rintro ⟨hmaker, hhash⟩
  have hw : Gated app w := gated_run node log actions
  have hguarded : key ∈ w.shared.guarded.value :=
    hclosed.elim (fun h => hw.published key h.publishes) fun h => h
  -- The access is an admitted request's reserve.
  have hstep : ∃ c, w.At i c ∧ (machine.next w (.access i reads)).shared =
      (w.shared.access config keccak256 decode_strategy app reads c).1 := by
    match hslot : w.calls[i]? with
    | some (some c) => exact ⟨c, hslot, by simp only [Machine.next, hslot]; rfl⟩
    | some none =>
      simp only [Machine.next, hslot] at hsome
      exact absurd hsome (by simp [hnone])
    | none =>
      simp only [Machine.next, hslot] at hsome
      exact absurd hsome (by simp [hnone])
  obtain ⟨c, hat, hshared⟩ := hstep
  rw [hshared] at hsome
  obtain ⟨request, call, trade, guarded, rfl, hfree, hsources⟩ :=
    (Gate.access_does reads w.shared c).records hnone hsome
  -- The leg's own strategy is in the route's snapshot, and it is `key`.
  rw [hsources] at hsource
  obtain ⟨leg, hleg, rfl⟩ := List.mem_map.mp hsource
  obtain ⟨key', strategy', hstored', hkeyed, happ, hmaker', hhash'⟩ :=
    hw.routed i _ call hat rfl leg hleg
  have hsame : key' = key := by
    have happ' := Gate.app_of_registered hstored
    have hmakers := hmaker'.symm.trans hmaker
    have hhashes := hhash'.symm.trans hhash
    exact StrategyKey.ext hmakers (happ.trans happ'.symm) hhashes
  -- It is among the guards the request checked, so the plan was declined.
  have hchecked : key ∈ guarded := hw.checked i _ guarded hat rfl key hguarded
  have hdeclined : SwapService.plan_is_guarded call.plan call.snapshot guarded = true := by
    unfold SwapService.plan_is_guarded
    refine List.any_eq_true.mpr ⟨leg, hleg, List.any_eq_true.mpr ⟨strategy', ?_, ?_⟩⟩
    · exact Snapshot.mem_strategies hstored'
    · simp only [hkeyed, decide_eq_true_eq]
      exact ⟨hmaker'.symm, hhash'.symm, by rw [hsame]; exact Std.ExtTreeSet.contains_iff_mem.mpr hchecked⟩
  rw [hfree] at hdeclined
  cases hdeclined

end Access

/-! ## A sample -/

namespace Gate

/-- Two strategies of one maker, alike but for their hash. -/
def sample_log : List AquaEvent :=
  [⟨1⟩, ⟨2⟩].flatMap fun hash : StrategyHash =>
    [.Shipped ⟨1⟩ 0 hash [], .Pushed ⟨1⟩ 0 hash 1 1000, .Pushed ⟨1⟩ 0 hash 2 1000]

def sample_key (hash : StrategyHash) : StrategyKey :=
  { maker := ⟨1⟩, app := 0, strategy_hash := hash }

/-- A node whose maker funds both strategies. -/
def sample_node : Node :=
  { SwapService.sample_node 900 with
    ledger := ((LedgerService.new ∅).sync_budgets (.ok (SwapService.two_budgets 900))).2 }

abbrev sample_machine :
    Machine Gate GateRequest GateCall GateReads (AccountKey → U256) GateEvent :=
  machine SwapService.sample_swap_config SwapService.sample_hash
    (fun _ => .Priceable .Xyc [3000000]) 0

def sample_reads : GateReads :=
  { swap := (SwapService.reads_of []).swap, cancelled := false }

def sample_run (actions : List GateAction) : GateWorld :=
  Run.run sample_machine.next (Machine.initial (fresh sample_node sample_log)) actions

/-- The second strategy is guarded, and then a request comes up to its reserve. -/
def guarded_actions : List GateAction :=
  [.start (.guard (sample_key ⟨2⟩))] ++ List.replicate 4 (.access 0 sample_reads) ++
    [.start (.submit (SwapService.sample_request 300 ⟨1⟩))] ++
    List.replicate 4 (.access 1 sample_reads)

/-- The next access holds the order's 300 on the other strategy. -/
theorem guarding_closes_admission_sample :
    ∃ (id : ReservationId) (r : Reservation),
      (sample_machine.next (sample_run guarded_actions)
        (.access 1 sample_reads)).shared.node.ledger.ledger.reservations[id]? = some r ∧
      Closed (sample_run guarded_actions).shared.history (sample_key ⟨2⟩) ∧
      ∀ source ∈ r.sources, ¬ (source.maker = ⟨1⟩ ∧ source.strategy_hash = ⟨2⟩) := by
  have hbefore : (sample_run guarded_actions).shared.node.ledger.ledger.reservations.isEmpty =
      true := by decide +kernel
  have hafter : (sample_machine.next (sample_run guarded_actions)
      (.access 1 sample_reads)).shared.node.ledger.ledger.reservations.toList.length = 1 := by
    decide +kernel
  have hhistory : (sample_run guarded_actions).shared.history =
      [.published (sample_key ⟨2⟩), .returned (sample_key ⟨2⟩)] := by decide +kernel
  have hclosed : Closed (sample_run guarded_actions).shared.history (sample_key ⟨2⟩) :=
    ⟨[], [.returned (sample_key ⟨2⟩)], hhistory, by simp, by simp⟩
  have hlisted : ((registry (fun _ => .Priceable .Xyc [3000000]) 0 sample_log).strategies[
      sample_key ⟨2⟩]?).isSome = true := by decide +kernel
  obtain ⟨strategy, hstrategy⟩ := Option.isSome_iff_exists.mp hlisted
  obtain ⟨⟨id, r⟩, hlist⟩ := List.length_eq_one_iff.mp hafter
  have hsome : (sample_machine.next (sample_run guarded_actions)
      (.access 1 sample_reads)).shared.node.ledger.ledger.reservations[id]? = some r := by
    rw [← Std.ExtTreeMap.mem_toList_iff_getElem?_eq_some, hlist]
    exact List.mem_singleton_self _
  have hnone : (sample_run guarded_actions).shared.node.ledger.ledger.reservations[id]? = none := by
    rw [Std.ExtTreeMap.isEmpty_iff.mp hbefore]
    rfl
  refine ⟨id, r, hsome, hclosed, ?_⟩
  exact guarding_closes_admission SwapService.sample_swap_config SwapService.sample_hash
    (fun _ => .Priceable .Xyc [3000000]) 0 sample_node sample_log guarded_actions 1
    sample_reads id r hnone hsome sample_log (sample_key ⟨2⟩) strategy hstrategy (.inl hclosed)

/-- A request that routed before the guard is declined at admission. -/
example :
    let w := sample_run ([.start (.submit (SwapService.sample_request 300 ⟨1⟩))] ++
      List.replicate 2 (.access 0 sample_reads) ++ [.start (.guard (sample_key ⟨1⟩))] ++
      List.replicate 4 (.access 1 sample_reads) ++ List.replicate 5 (.access 0 sample_reads))
    w.shared.node.ledger.ledger.reservations.isEmpty = true ∧
      w.shared.node.trades.status_of ⟨1⟩ = some .Declined := by
  decide +kernel

end Gate

end Solvent
