import Mathlib
import Solvent.Swap.System

/-! # Holds and fills under interleaving

    The accesses of requests and ticks, seen by what they do to the holds and
    the tracked fills: nine kinds of footprint. From them follows, without any
    assumption on the run, which order every reservation in play belongs to.
-/

namespace Solvent

open BTreeMap ReconcileService Interleave

namespace Call

/-- The call has no hold, no fill and no transaction in hand. -/
structure Passive (c : Call) (keccak256 : List UInt8 → B256) : Prop where
  holding : c.holding keccak256 = none
  listed : c.listed = []
  closing : c.closing = none
  untracked : c.untracked = none

theorem passive_after_trade (keccak256 : List UInt8 → B256) (now : U64) (settled : List Settled) :
    (Call.tick (after_trade now settled)).Passive keccak256 := by
  rcases settled with _ | ⟨fill, settled⟩ <;> exact ⟨rfl, rfl, rfl, rfl⟩

/-- The fills after the current one are left in the list, and nothing else. -/
theorem after_fill_footprint (keccak256 : List UInt8 → B256) (now : U64)
    (fills : List TrackedFill) (settled : List Settled) :
    (Call.tick (after_fill now fills settled)).holding keccak256 = none ∧
      (Call.tick (after_fill now fills settled)).listed = fills ∧
      (Call.tick (after_fill now fills settled)).closing = none ∧
      (Call.tick (after_fill now fills settled)).untracked = none := by
  rcases fills with _ | ⟨f, fills⟩
  · have h := passive_after_trade keccak256 now settled
    exact ⟨h.holding, h.listed, h.closing, h.untracked⟩
  · exact ⟨rfl, rfl, rfl, rfl⟩

theorem passive_after_sweep (keccak256 : List UInt8 → B256) (now : U64) (swept : List IntentId) :
    ∀ c' ∈ (after_sweep now swept).phase.map Call.tick, c'.Passive keccak256 := by
  intro c' hc'
  rcases swept with _ | ⟨intent, swept⟩
  · cases hc'
  · obtain rfl := Option.some.inj hc'
    exact ⟨rfl, rfl, rfl, rfl⟩

end Call

/-! ## Footprints -/

/-- Everything an access can do to the holds and the tracked fills. -/
inductive Footprint (keccak256 : List UInt8 → B256) (reads : NodeReads) (node : Node) (c : Call) :
    Node → Option Call → Prop where
  /-- The ledger and the executor stay as they are. -/
  | idle {node' : Node} {next : Option Call} (hledger : node.ledger.Same node'.ledger)
      (hexecutor : node'.executor = node.executor)
      (hholding : ∀ c' ∈ next, ∀ p, c'.holding keccak256 = some p → c.holding keccak256 = some p)
      (hlisted : ∀ c' ∈ next, ∀ f ∈ c'.listed, f ∈ c.listed ∨ f ∈ node.executor.fills.rows)
      (hclosing : ∀ c' ∈ next, ∀ f, c'.closing = some f → c.closing = some f ∨
        (f ∈ c.listed ∧ ∃ status, node.executor.status f.intent = some status ∧
          status ≠ .Pending))
      (huntracked : ∀ c' ∈ next, c'.untracked = none) :
      Footprint keccak256 reads node c node' next
  | reserves {ledger : LedgerService} {c' : Call} {order : IntentId} {id : ReservationId}
      (hnew : node.ledger.memory id = none)
      (hrow : node.ledger.durable id = none ∨
        node.ledger.durable id = some (.Swap order, .Pending))
      (hmemory : ledger.memory id = some (.Swap order, .Pending))
      (hdurable : ledger.durable id = some (.Swap order, .Pending))
      (hothers : ∀ k, k ≠ id →
        ledger.memory k = node.ledger.memory k ∧ ledger.durable k = node.ledger.durable k)
      (hholding : c'.holding keccak256 = some (order, id))
      (hlisted : c'.listed = []) (hclosing : c'.closing = none) (huntracked : c'.untracked = none) :
      Footprint keccak256 reads node c { node with ledger } (some c')
  /-- A request closes its own hold. -/
  | voids {ledger : LedgerService} {next : Option Call} {order : IntentId} {id : ReservationId}
      (hholding : c.holding keccak256 = some (order, id))
      (hmoves : LedgerService.Moves (· = id) node.ledger ledger)
      (hnext : ∀ c' ∈ next, c'.Passive keccak256) :
      Footprint keccak256 reads node c { node with ledger } next
  /-- A tick closes the hold of a terminal fill. -/
  | closes {ledger : LedgerService} {next : Option Call} {f : TrackedFill}
      (hclosing : c.closing = some f)
      (hmoves : LedgerService.Moves (· = f.reservation) node.ledger ledger)
      (hnext : ∀ c' ∈ next, c'.holding keccak256 = none ∧ c'.listed ⊆ c.listed ∧
        c'.closing = none ∧ c'.untracked = none) :
      Footprint keccak256 reads node c { node with ledger } next
  | sweeps {ledger : LedgerService} {next : Option Call} {in_flight : List ReservationId}
      (hsweeping : c.sweeping = some in_flight)
      (hmoves : LedgerService.Moves
        (· ∈ ReconcileService.elapsed node.ledger reads.tick.now_unix in_flight)
        node.ledger ledger)
      (hnext : ∀ c' ∈ next, c'.Passive keccak256) :
      Footprint keccak256 reads node c { node with ledger } next
  | sends {c' : Call} {order : IntentId}
      (hholding : c'.holding keccak256 = c.holding keccak256) (hlisted : c'.listed = [])
      (hclosing : c'.closing = none)
      (huntracked : c'.untracked = some node.executor.wallet.sent.length) :
      Footprint keccak256 reads node c
        { node with executor := node.executor.send_with order } (some c')
  | tracks {c' : Call} {order : IntentId} {id : ReservationId} {handle : HandleId}
      (hholding : c.holding keccak256 = some (order, id)) (huntracked : c.untracked = some handle)
      (hnext : c'.Passive keccak256) :
      Footprint keccak256 reads node c
        { node with executor := node.executor.track order id handle } (some c')
  | remembers {c' : Call} {intent : IntentId} (hnext : c'.Passive keccak256) :
      Footprint keccak256 reads node c
        { node with executor := node.executor.record_terminal intent } (some c')
  | untracks {c' : Call} {intent : IntentId} (hforgetting : c.forgetting = some intent)
      (hnext : c'.Passive keccak256) :
      Footprint keccak256 reads node c
        { node with executor := node.executor.untrack intent } (some c')

section Footprint

variable {keccak256 : List UInt8 → B256} {reads : NodeReads} {node node' : Node}
variable {c : Call} {next : Option Call}

/-- The idle footprint of a request that goes on with what it had in hand. -/
theorem Footprint.keeps {c' : Call} (hledger : node.ledger.Same node'.ledger)
    (hexecutor : node'.executor = node.executor)
    (hholding : c'.holding keccak256 = none ∨ c'.holding keccak256 = c.holding keccak256)
    (hlisted : c'.listed = []) (hclosing : c'.closing = none) (huntracked : c'.untracked = none) :
    Footprint keccak256 reads node c node' (some c') := by
  apply Footprint.idle hledger hexecutor
  · rintro d hd p hp
    obtain rfl := Option.some.inj hd
    rcases hholding with hnone | hsame
    · rw [hnone] at hp
      cases hp
    · rw [← hsame]
      exact hp
  · rintro d hd f hf
    obtain rfl := Option.some.inj hd
    rw [hlisted] at hf
    cases hf
  · rintro d hd f hf
    obtain rfl := Option.some.inj hd
    rw [hclosing] at hf
    cases hf
  · rintro d hd
    obtain rfl := Option.some.inj hd
    exact huntracked

/-- The idle footprint of a call that ends. -/
theorem Footprint.ends (hledger : node.ledger.Same node'.ledger)
    (hexecutor : node'.executor = node.executor) :
    Footprint keccak256 reads node c node' none :=
  .idle hledger hexecutor (by simp) (by simp) (by simp) (by simp)

theorem footprint_of_does {request : SwapRequest} {phase : Phase} {next : Option Phase}
    (h : SwapService.Does keccak256 request node phase node' next) :
    Footprint keccak256 reads node (.submit request phase) node'
      (next.map (Call.submit request)) := by
  have hsame := LedgerService.Same.refl node.ledger
  rcases h with hquiet | _ | _ | _ | _ | ⟨hfails, hnext⟩ |
    ⟨hnew, hrow, hmemory, hdurable, hothers⟩ | ⟨hadvances, _⟩ | hmoves | ⟨hmoves, _⟩ | _ | _
  case quiet =>
    rcases hquiet with _ | _ | _ | _ | _ | _ | _ | _ | _ | _
    case simulates => exact .keeps hsame rfl (.inr rfl) rfl rfl rfl
    case rejects => exact .keeps hsame rfl (.inr rfl) rfl rfl rfl
    case untracked => exact .keeps hsame rfl (.inr rfl) rfl rfl rfl
    all_goals exact .keeps hsame rfl (.inl rfl) rfl rfl rfl
  case ends => exact .ends hsame rfl
  case records_declined => exact .keeps hsame rfl (.inl rfl) rfl rfl rfl
  case records => exact .keeps hsame rfl (.inl rfl) rfl rfl rfl
  case declines => exact .ends hsame rfl
  case reserve_fails =>
    rcases hnext with rfl | rfl
    · exact .ends hfails rfl
    · exact .keeps hfails rfl (.inl rfl) rfl rfl rfl
  case reserves => exact .reserves hnew hrow hmemory hdurable hothers rfl rfl rfl rfl
  case advances =>
    rcases hadvances with _ | _ | _
    · exact .keeps hsame rfl (.inr rfl) rfl rfl rfl
    · exact .keeps hsame rfl (.inl rfl) rfl rfl rfl
    · exact .ends hsame rfl
  case voids =>
    apply Footprint.voids rfl hmoves
    rintro d hd
    obtain rfl := Option.some.inj hd
    exact ⟨rfl, rfl, rfl, rfl⟩
  case void_fails => exact .voids rfl hmoves (by simp)
  case sends => exact .sends rfl rfl rfl rfl
  case tracks => exact .tracks rfl rfl ⟨rfl, rfl, rfl, rfl⟩

/-- The idle footprint of a tick that passes on to `after_fill`. -/
theorem Footprint.passes {phase : TickPhase} {now : U64} {fills : List TrackedFill}
    {settled : List Settled}
    (hlisted : ∀ f ∈ fills, f ∈ (Call.tick phase).listed ∨ f ∈ node.executor.fills.rows) :
    Footprint keccak256 reads node (.tick phase) node
      (some (.tick (after_fill now fills settled))) := by
  obtain ⟨hholding, hlist, hclosing, huntracked⟩ :=
    Call.after_fill_footprint keccak256 now fills settled
  apply Footprint.idle (.refl _) rfl
  · rintro d hd p hp
    obtain rfl := Option.some.inj hd
    rw [hholding] at hp
    cases hp
  · rintro d hd f hf
    obtain rfl := Option.some.inj hd
    rw [hlist] at hf
    exact hlisted f hf
  · rintro d hd f hf
    obtain rfl := Option.some.inj hd
    rw [hclosing] at hf
    cases hf
  · rintro d hd
    obtain rfl := Option.some.inj hd
    exact huntracked

/-- The idle footprint of a tick that turns to a terminal fill. -/
theorem Footprint.turns {c c' : Call} {f : TrackedFill} (hholding : c'.holding keccak256 = none)
    (hlisted : c'.listed = c.listed) (hclosing : c'.closing = some f)
    (hterminal : c.closing = some f ∨ (f ∈ c.listed ∧
      ∃ status, node.executor.status f.intent = some status ∧ status ≠ .Pending))
    (huntracked : c'.untracked = none) : Footprint keccak256 reads node c node (some c') := by
  apply Footprint.idle (.refl _) rfl
  · rintro d hd p hp
    obtain rfl := Option.some.inj hd
    rw [hholding] at hp
    cases hp
  · rintro d hd g hg
    obtain rfl := Option.some.inj hd
    rw [hlisted] at hg
    exact .inl hg
  · rintro d hd g hg
    obtain rfl := Option.some.inj hd
    rw [hclosing] at hg
    obtain rfl := Option.some.inj hg
    exact hterminal
  · rintro d hd
    obtain rfl := Option.some.inj hd
    exact huntracked

theorem footprint_of_tick {phase : TickPhase} {next : Option TickPhase}
    (h : TickDoes reads.tick node phase node' next) :
    Footprint keccak256 reads node (.tick phase) node' (next.map Call.tick) := by
  have hsame := LedgerService.Same.refl node.ledger
  -- After a fill is closed the rest of the list is still to come.
  have hrest : ∀ {c : Call} {f : TrackedFill} {fills : List TrackedFill} {settled : List Settled}
      {next : Option TickPhase}, c.listed = f :: fills →
      (next = none ∨ next = some (after_fill reads.tick.now_unix fills settled)) →
      ∀ c' ∈ next.map Call.tick, c'.holding keccak256 = none ∧ c'.listed ⊆ c.listed ∧
        c'.closing = none ∧ c'.untracked = none := by
    rintro c f fills settled next hc (rfl | rfl) c' hc'
    · cases hc'
    · obtain rfl := Option.some.inj hc'
      obtain ⟨hholding, hlist, hclosing, huntracked⟩ :=
        Call.after_fill_footprint keccak256 reads.tick.now_unix fills settled
      exact ⟨hholding, by rw [hlist, hc]; exact List.subset_cons_self f fills, hclosing,
        huntracked⟩
  rcases h with _ | _ | hstatus | ⟨hstatus, hterminal⟩ | _ | _ | ⟨hmoves, hnext⟩ |
    ⟨hmoves, hnext⟩ | _ | _ | _ | _ | _ | ⟨_, hmoves, _⟩ | ⟨_, hmoves⟩ | _ | _
  case lists => exact .passes fun f hf => .inr hf
  case waits => exact .passes fun f hf => .inl (List.mem_cons_of_mem _ hf)
  case confirms =>
    exact .turns rfl rfl rfl (.inr ⟨List.mem_cons_self, _, hstatus, by simp⟩) rfl
  case failed =>
    exact .turns rfl rfl rfl (.inr ⟨List.mem_cons_self, _, hstatus, hterminal⟩) rfl
  case measures => exact .turns rfl rfl rfl (.inl rfl) rfl
  case skips => exact .passes fun f hf => .inl (List.mem_cons_of_mem _ hf)
  case posts => exact .closes rfl hmoves (hrest rfl hnext)
  case voids => exact .closes rfl hmoves (hrest rfl hnext)
  case settles => exact .keeps hsame rfl (.inl rfl) rfl rfl rfl
  case settle_fails => exact .ends hsame rfl
  case remembers => exact .remembers ⟨rfl, rfl, rfl, rfl⟩
  case untracks => exact .untracks rfl (Call.passive_after_trade _ _ _)
  case excludes => exact .keeps hsame rfl (.inl rfl) rfl rfl rfl
  case sweeps => exact .sweeps rfl hmoves (Call.passive_after_sweep _ _ _)
  case sweep_fails => exact .sweeps rfl hmoves (by simp)
  case fails now intent swept trades hends =>
    have hpassive := Call.passive_after_sweep keccak256 now swept
    rcases hnext : (after_sweep now swept).phase.map Call.tick with _ | c'
    · exact .ends hsame rfl
    · rw [hnext] at hpassive
      have h := hpassive c' rfl
      exact .keeps hsame rfl (.inl h.holding) h.listed h.closing h.untracked
  case fail_fails => exact .ends hsame rfl

/-- **Every access leaves one of the footprints.** -/
theorem Accesses.footprint (h : Accesses keccak256 reads node c node' next) :
    Footprint keccak256 reads node c node' next := by
  rcases h with hdoes | hdoes
  · exact footprint_of_does hdoes
  · exact footprint_of_tick hdoes

end Footprint

/-! ## Whose reservation it is -/

/-- The store has the reservation as one of the order's. -/
def LedgerService.OwnedBy (s : LedgerService) (order : IntentId) (id : ReservationId) : Prop :=
  ∃ state, s.durable id = some (.Swap order, state)

/-- Every open row of the store is known in memory. -/
def LedgerService.Recorded (s : LedgerService) : Prop :=
  ∀ id owner state, s.durable id = some (owner, state) → state.is_open = true →
    (s.memory id).isSome

namespace LedgerService

theorem ownedBy_of_moves {s s' : LedgerService} {ids : ReservationId → Prop} (h : Moves ids s s')
    {order : IntentId} {id : ReservationId} (howned : s.OwnedBy order id) :
    s'.OwnedBy order id := by
  obtain ⟨state, hrow⟩ := howned
  exact owner_forth (h.durable_moved id) hrow

theorem recorded_of_moves {s s' : LedgerService} {ids : ReservationId → Prop} (h : Moves ids s s')
    (hrecorded : s.Recorded) : s'.Recorded := by
  intro id owner state hrow hopen
  obtain ⟨before, hbefore, hback⟩ := owner_back (h.durable_moved id) hrow
  rw [isSome_of_moved (h.memory_moved id)]
  exact hrecorded id owner before hbefore (hback hopen)

/-- The owner of a reservation is fixed. -/
theorem ownedBy_unique {s : LedgerService} {order order' : IntentId} {id : ReservationId}
    (h : s.OwnedBy order id) (h' : s.OwnedBy order' id) : order = order' := by
  obtain ⟨state, hrow⟩ := h
  obtain ⟨state', hrow'⟩ := h'
  rw [hrow] at hrow'
  simp only [Option.some.injEq, Prod.mk.injEq, ReservationOwner.Swap.injEq] at hrow'
  exact hrow'.1

theorem recorded_recovered (s : LedgerService) (budget : AccountKey → U256) :
    (s.recovered budget).Recorded := by
  intro id owner state hrow hopen
  rw [durable_recovered] at hrow
  rw [(recovered_evolves s budget).2, hrow]
  simp [Option.filter_some, hopen]

end LedgerService

section Footprint

variable {keccak256 : List UInt8 → B256} {reads : NodeReads} {node node' : Node}
variable {c : Call} {next : Option Call}

/-- The ledger moved, or it recorded one fresh reservation. -/
theorem Footprint.ledger (h : Footprint keccak256 reads node c node' next) :
    (∃ ids, LedgerService.Moves ids node.ledger node'.ledger) ∨
    ∃ order id, node.ledger.memory id = none ∧
      (node.ledger.durable id = none ∨ node.ledger.durable id = some (.Swap order, .Pending)) ∧
      node'.ledger.memory id = some (.Swap order, .Pending) ∧
      node'.ledger.durable id = some (.Swap order, .Pending) ∧
      ∀ k, k ≠ id → node'.ledger.memory k = node.ledger.memory k ∧
        node'.ledger.durable k = node.ledger.durable k := by
  rcases h with ⟨hledger, _, _, _, _, _⟩ | ⟨hnew, hrow, hmemory, hdurable, hothers, _, _, _, _⟩ |
    ⟨_, hmoves, _⟩ | ⟨_, hmoves, _⟩ | ⟨_, hmoves, _⟩ | _ | _ | _ | _
  case idle => exact .inl ⟨fun _ => False, hledger.moves _⟩
  case reserves => exact .inr ⟨_, _, hnew, hrow, hmemory, hdurable, hothers⟩
  case voids => exact .inl ⟨_, hmoves⟩
  case closes => exact .inl ⟨_, hmoves⟩
  case sweeps => exact .inl ⟨_, hmoves⟩
  all_goals exact .inl ⟨fun _ => False, (LedgerService.Same.refl _).moves _⟩

theorem Footprint.ownedBy (h : Footprint keccak256 reads node c node' next) {order : IntentId}
    {id : ReservationId} (howned : node.ledger.OwnedBy order id) :
    node'.ledger.OwnedBy order id := by
  rcases h.ledger with ⟨ids, hmoves⟩ | ⟨order', id', _, hrow, _, hdurable, hothers⟩
  · exact LedgerService.ownedBy_of_moves hmoves howned
  · obtain ⟨state, hold⟩ := howned
    by_cases hid : id = id'
    · subst hid
      -- The row was there: it is the same pending one.
      rw [hold] at hrow
      rcases hrow with hnone | hsame
      · cases hnone
      · simp only [Option.some.injEq, Prod.mk.injEq, ReservationOwner.Swap.injEq] at hsame
        obtain ⟨rfl, -⟩ := hsame
        exact ⟨.Pending, hdurable⟩
    · exact ⟨state, by rw [(hothers id hid).2, hold]⟩

theorem Footprint.recorded (h : Footprint keccak256 reads node c node' next)
    (hrecorded : node.ledger.Recorded) : node'.ledger.Recorded := by
  rcases h.ledger with ⟨ids, hmoves⟩ | ⟨order, id, _, _, hmemory, _, hothers⟩
  · exact LedgerService.recorded_of_moves hmoves hrecorded
  · intro k owner state hrow hopen
    by_cases hk : k = id
    · subst hk
      rw [hmemory]
      rfl
    · rw [(hothers k hk).2] at hrow
      rw [(hothers k hk).1]
      exact hrecorded k owner state hrow hopen

end Footprint

/-- Every reservation in play is on record as its order's. -/
structure Owned (keccak256 : List UInt8 → B256) (w : NodeWorld) : Prop where
  recorded : w.shared.ledger.Recorded
  tracked : ∀ f ∈ w.shared.executor.fills.rows,
    w.shared.ledger.OwnedBy f.intent f.reservation
  listed : ∀ i c, w.At i c → ∀ f ∈ c.listed, w.shared.ledger.OwnedBy f.intent f.reservation
  holding : ∀ i c, w.At i c → ∀ order id, c.holding keccak256 = some (order, id) →
    w.shared.ledger.OwnedBy order id

/-! ### What a footprint puts in hand -/

section Footprint

variable {keccak256 : List UInt8 → B256} {reads : NodeReads} {node node' : Node}
variable {c : Call} {next : Option Call}

/-- A fill newly tracked is the one in the call's hand, which lets go of it. -/
theorem Footprint.rows (h : Footprint keccak256 reads node c node' next) {f : TrackedFill}
    (hf : f ∈ node'.executor.fills.rows) :
    f ∈ node.executor.fills.rows ∨
      (c.holding keccak256 = some (f.intent, f.reservation) ∧ node'.ledger = node.ledger ∧
        ∀ c' ∈ next, c'.Passive keccak256) := by
  rcases h with ⟨_, hexecutor, _, _, _, _⟩ | _ | _ | _ | _ | _ |
    @⟨c', order, id, handle, hholding, _, hnext⟩ | @⟨c', intent, _⟩ | _
  case idle =>
    rw [hexecutor] at hf
    exact .inl hf
  case tracks =>
    rw [show (node.executor.track order id handle).fills.rows = _ from
      WalletkitExecutor.rows_track _ _ _] at hf
    split at hf
    · exact .inl hf
    · rcases List.mem_append.mp hf with hold | hnew
      · exact .inl hold
      · obtain rfl := List.mem_singleton.mp hnew
        exact .inr ⟨hholding, rfl, fun d hd => by obtain rfl := Option.some.inj hd; exact hnext⟩
  case remembers =>
    obtain ⟨terminal, hterminal⟩ := node.executor.record_terminal_eq intent
    simp only [hterminal] at hf
    exact .inl hf
  case untracks => exact .inl (List.mem_of_mem_filter hf)
  all_goals exact .inl hf

/-- A hold newly in hand was just reserved. -/
theorem Footprint.holding (h : Footprint keccak256 reads node c node' next) {c' : Call}
    (hc' : next = some c') {order : IntentId} {id : ReservationId}
    (hholding : c'.holding keccak256 = some (order, id)) :
    (c.holding keccak256 = some (order, id) ∧ node.ledger.Same node'.ledger) ∨
      (node.ledger.memory id = none ∧
        (node.ledger.durable id = none ∨ node.ledger.durable id = some (.Swap order, .Pending)) ∧
        node'.ledger.memory id = some (.Swap order, .Pending) ∧
        node'.ledger.durable id = some (.Swap order, .Pending)) := by
  rcases h with ⟨hledger, _, hhold, _, _, _⟩ |
    ⟨hnew, hrow, hmemory, hdurable, _, hhold, _, _, _⟩ |
    ⟨_, _, hnext⟩ | ⟨_, _, hnext⟩ | ⟨_, _, hnext⟩ | ⟨hhold, _, _, _⟩ | ⟨_, _, hnext⟩ | hnext |
    ⟨_, hnext⟩
  · exact .inl ⟨hhold c' hc' _ hholding, hledger⟩
  · obtain rfl := Option.some.inj hc'
    rw [hhold] at hholding
    obtain ⟨rfl, rfl⟩ := Prod.mk.inj (Option.some.inj hholding)
    exact .inr ⟨hnew, hrow, hmemory, hdurable⟩
  · rw [(hnext c' hc').holding] at hholding
    cases hholding
  · rw [(hnext c' hc').1] at hholding
    cases hholding
  · rw [(hnext c' hc').holding] at hholding
    cases hholding
  · obtain rfl := Option.some.inj hc'
    rw [hhold] at hholding
    exact .inl ⟨hholding, .refl _⟩
  · obtain rfl := Option.some.inj hc'
    rw [hnext.holding] at hholding
    cases hholding
  · obtain rfl := Option.some.inj hc'
    rw [hnext.holding] at hholding
    cases hholding
  · obtain rfl := Option.some.inj hc'
    rw [hnext.holding] at hholding
    cases hholding

/-- A fill newly listed was tracked. -/
theorem Footprint.listed (h : Footprint keccak256 reads node c node' next) {c' : Call}
    (hc' : next = some c') {f : TrackedFill} (hf : f ∈ c'.listed) :
    f ∈ c.listed ∨ f ∈ node.executor.fills.rows := by
  rcases h with ⟨_, _, _, hlist, _, _⟩ | ⟨_, _, _, _, _, _, hlist, _, _⟩ |
    ⟨_, _, hnext⟩ | ⟨_, _, hnext⟩ | ⟨_, _, hnext⟩ | ⟨_, hlist, _, _⟩ | ⟨_, _, hnext⟩ | hnext |
    ⟨_, hnext⟩
  · exact hlist c' hc' f hf
  · obtain rfl := Option.some.inj hc'
    rw [hlist] at hf
    cases hf
  · rw [(hnext c' hc').listed] at hf
    cases hf
  · exact .inl ((hnext c' hc').2.1 hf)
  · rw [(hnext c' hc').listed] at hf
    cases hf
  · obtain rfl := Option.some.inj hc'
    rw [hlist] at hf
    cases hf
  · obtain rfl := Option.some.inj hc'
    rw [hnext.listed] at hf
    cases hf
  · obtain rfl := Option.some.inj hc'
    rw [hnext.listed] at hf
    cases hf
  · obtain rfl := Option.some.inj hc'
    rw [hnext.listed] at hf
    cases hf

end Footprint

section Run

variable {config : SwapConfig} {keccak256 : List UInt8 → B256}

theorem owned_access {w w' : NodeWorld} {i : ℕ} {reads : NodeReads} {c : Call}
    {next : Option Call} (hinv : Owned keccak256 w) (hat : w.At i c)
    (hfoot : Footprint keccak256 reads w.shared c w'.shared next)
    (hmoved : Machine.Moved w w' i next) : Owned keccak256 w' := by
  constructor
  · exact hfoot.recorded hinv.recorded
  · intro f hf
    rcases hfoot.rows hf with hold | ⟨hholding, -, -⟩
    · exact hfoot.ownedBy (hinv.tracked f hold)
    · exact hfoot.ownedBy (hinv.holding i c hat _ _ hholding)
  · intro j d hd f hf
    by_cases hj : j = i
    · subst hj
      rcases hfoot.listed ((hmoved.moved d).mp hd) hf with hold | hrow
      · exact hfoot.ownedBy (hinv.listed j c hat f hold)
      · exact hfoot.ownedBy (hinv.tracked f hrow)
    · exact hfoot.ownedBy (hinv.listed j d ((hmoved.others j d hj).mp hd) f hf)
  · intro j d hd order id hholding
    by_cases hj : j = i
    · subst hj
      rcases hfoot.holding ((hmoved.moved d).mp hd) hholding with ⟨hold, -⟩ | ⟨_, _, _, hdurable⟩
      · exact hfoot.ownedBy (hinv.holding j c hat order id hold)
      · exact ⟨.Pending, hdurable⟩
    · exact hfoot.ownedBy (hinv.holding j d ((hmoved.others j d hj).mp hd) order id hholding)

/-- A call that just arrived has nothing in hand. -/
theorem passive_entry (keccak256 : List UInt8 → B256) (request : NodeRequest) :
    (Node.entry request).Passive keccak256 := by
  rcases request with _ | _ <;> exact ⟨rfl, rfl, rfl, rfl⟩

theorem owned_start {w : NodeWorld} (hinv : Owned keccak256 w) (request : NodeRequest) :
    Owned keccak256 { w with calls := w.calls ++ [some (Node.entry request)] } := by
  have hentry := passive_entry keccak256 request
  constructor
  · exact hinv.recorded
  · exact hinv.tracked
  · intro i c hat f hf
    rcases World.at_append.mp hat with hold | ⟨-, rfl⟩
    · exact hinv.listed i c hold f hf
    · rw [hentry.listed] at hf
      cases hf
  · intro i c hat order id hholding
    rcases World.at_append.mp hat with hold | ⟨-, rfl⟩
    · exact hinv.holding i c hold order id hholding
    · rw [hentry.holding] at hholding
      cases hholding

theorem owned_stop {w w' : NodeWorld} {i : ℕ} (hinv : Owned keccak256 w)
    (hshared : w'.shared = w.shared) (hmoved : Machine.Moved w w' i none) :
    Owned keccak256 w' := by
  -- Whoever is left was there before.
  have hback : ∀ j c, w'.At j c → w.At j c := by
    intro j c hc
    by_cases hj : j = i
    · subst hj
      cases (hmoved.moved c).mp hc
    · exact (hmoved.others j c hj).mp hc
  constructor
  · rw [hshared]
    exact hinv.recorded
  · rw [hshared]
    exact hinv.tracked
  · intro j c hc
    rw [hshared]
    exact hinv.listed j c (hback j c hc)
  · intro j c hc
    rw [hshared]
    exact hinv.holding j c (hback j c hc)

theorem owned_crash {w : NodeWorld} (hinv : Owned keccak256 w) (budget : AccountKey → U256) :
    Owned keccak256 { shared := w.shared.restart budget, calls := [] } := by
  constructor
  · exact LedgerService.recorded_recovered w.shared.ledger budget
  · intro f hf
    obtain ⟨state, hrow⟩ := hinv.tracked f hf
    exact ⟨state, by rw [← hrow]; exact LedgerService.durable_recovered _ _ _⟩
  · intro i c hat
    exact absurd hat World.not_at_nil
  · intro i c hat
    exact absurd hat World.not_at_nil

theorem owned_outside {w : NodeWorld} (hinv : Owned keccak256 w) (event : NodeEvent) :
    Owned keccak256 { w with shared := w.shared.outside event } := by
  rcases event with ⟨handle, answer⟩ | answer
  · exact ⟨hinv.recorded, hinv.tracked, hinv.listed, hinv.holding⟩
  · have hmoves := (LedgerService.same_sync_budgets w.shared.ledger answer).moves fun _ => False
    constructor
    · exact LedgerService.recorded_of_moves hmoves hinv.recorded
    · intro f hf
      exact LedgerService.ownedBy_of_moves hmoves (hinv.tracked f hf)
    · intro i c hat f hf
      exact LedgerService.ownedBy_of_moves hmoves (hinv.listed i c hat f hf)
    · intro i c hat order id hholding
      exact LedgerService.ownedBy_of_moves hmoves (hinv.holding i c hat order id hholding)

theorem owned_initial : Owned keccak256 (Machine.initial Node.fresh) where
  recorded := by
    intro id owner state hrow
    simp [Machine.initial, Node.fresh, LedgerService.new, LedgerService.durable] at hrow
  tracked := by
    intro f hf
    simp [Machine.initial, Node.fresh, WalletkitExecutor.empty, SqliteFillStore.empty] at hf
  listed := fun i c hat => absurd hat World.not_at_nil
  holding := fun i c hat => absurd hat World.not_at_nil

/-- A reservation that memory does not know and that may be reserved is nobody's. -/
theorem Owned.fresh {w : NodeWorld} (hinv : Owned keccak256 w) {id : ReservationId}
    {order : IntentId} (hnew : w.shared.ledger.memory id = none)
    (hrow : w.shared.ledger.durable id = none ∨
      w.shared.ledger.durable id = some (.Swap order, .Pending)) (order' : IntentId) :
    ¬ w.shared.ledger.OwnedBy order' id := by
  rintro ⟨state, howned⟩
  rcases hrow with hnone | hpending
  · rw [hnone] at howned
    cases howned
  · have hknown := hinv.recorded id _ _ hpending rfl
    rw [hnew] at hknown
    cases hknown

end Run

end Solvent
