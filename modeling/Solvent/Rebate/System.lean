import Solvent.Ledger.Elsewhere
import Solvent.Rebate.Tick

/-! # The rebate node and the chain

    One node, its database and the filler's chain, step by step: the worker's calls,
    each under whatever faults, whole ticks, the other users of the ledger, restarts
    after a crash, and anyone executing what was published.
-/

namespace Solvent

open Abi BTreeMap Contract Process SqliteRebateStore

/-! ## The system -/

/-- The memory of `service` counts while the node is running; its stores stay. -/
structure RebateSystem where
  service : RebateService
  running : Bool
  chain : FillerChain

inductive RebateMove where
  | accrue (faults : Faults RebateServiceError) (accrual : MinedAccrual)
  | evaluate (faults : Faults RebateServiceError) (policy : RebatePolicyConfig)
      (config : RebateServiceConfig) (ports : RebatePorts) (input : RebateEvaluationInput)
  | discard (faults : Faults RebateServiceError) (strategy : StrategyKey)
  | reconcile (faults : Faults RebateServiceError) (config : RebateWorkerConfig) (answers : RebateTick)
      (safe_head : U64)
  | expire (faults : Faults RebateServiceError) (config : RebateWorkerConfig) (strategy : StrategyKey)
      (safe_scanned_block : U64)
  | tick (faults : Faults RebateServiceError) (policy : RebatePolicyConfig)
      (service : RebateServiceConfig) (config : RebateWorkerConfig) (ports : RebatePorts)
      (answers : RebateTick)
  /-- Another user of the ledger. -/
  | ledger (c : ServiceCommand)
  /-- The process starts, whether or not it was running. -/
  | restart (faults : Faults RebateServiceError) (reads : Reads)
  | execute (execution : RebateExecution) (executor : Address) (tx_hash : B256) (log_index : U64)
  | advance

namespace RebateSystem

/-- A database without rows, and a node that is not started yet. -/
def fresh (head : U64) : RebateSystem where
  service := ⟨∅, ∅, LedgerService.new ∅, ⟨∅, ∅, none⟩⟩
  running := false
  chain := ⟨head, [], []⟩

/-- After a call: a crash stops the node, and what is published is seen. -/
def after {α : Type} (sys : RebateSystem) : Outcome RebateService RebateServiceError α → RebateSystem
  | .done _ service _ => ⟨service, true, sys.chain.expose service.store⟩
  | .failed _ service _ => ⟨service, true, sys.chain.expose service.store⟩
  | .crashed service => ⟨service, false, sys.chain.expose service.store⟩

def call {α : Type} (sys : RebateSystem) (m : RebateService.Method α)
    (faults : Faults RebateServiceError) : RebateSystem :=
  if sys.running then sys.after (m sys.service faults) else sys

/-- After recovery: the process goes on only if it succeeded. -/
def started {α : Type} (sys : RebateSystem) : Outcome RebateService RebateServiceError α → RebateSystem
  | .done _ service _ => ⟨service, true, sys.chain.expose service.store⟩
  | .failed _ service _ => ⟨service, false, sys.chain.expose service.store⟩
  | .crashed service => ⟨service, false, sys.chain.expose service.store⟩

/-- The ledger recovers its holds, then the rebate service its batches. -/
def restart (keccak256 : Bytes → B256) (sys : RebateSystem) (faults : Faults RebateServiceError)
    (reads : Reads) : RebateSystem :=
  match (LedgerService.new sys.service.ledger.store).recover reads with
  | (.ok (), ledger) =>
    sys.started (RebateService.recover keccak256 ⟨∅, ∅, ledger, sys.service.store⟩ faults)
  | (.error _, _) => { sys with running := false }

def step (keccak256 : Bytes → B256) (sys : RebateSystem) : RebateMove → RebateSystem
  | .accrue faults accrual => sys.call (RebateService.accrue keccak256 accrual) faults
  | .evaluate faults policy config ports input =>
    sys.call (RebateService.evaluate keccak256 policy config ports input) faults
  | .discard faults strategy => sys.call (RebateService.discard strategy) faults
  | .reconcile faults config answers safe_head =>
    sys.call (RebateWorker.reconcile_executions config answers safe_head) faults
  | .expire faults _ strategy safe_scanned_block =>
    sys.call (RebateService.expire_ready strategy safe_scanned_block) faults
  | .tick faults policy service config ports answers =>
    sys.call (RebateWorker.tick keccak256 policy service config ports answers) faults
  | .ledger c =>
    if sys.running then
      { sys with service := { sys.service with ledger := sys.service.ledger.next c } }
    else sys
  | .restart faults reads => sys.restart keccak256 faults reads
  | .execute execution executor tx_hash log_index =>
    { sys with chain := sys.chain.execute execution executor tx_hash log_index }
  | .advance => { sys with chain := sys.chain.advance }

/-! ## What callers promise -/

/-- The reservations that open batches name. -/
def Named (store : SqliteRebateStore) (id : ReservationId) : Prop :=
  ∃ b state, store.state_of b = some state ∧ state.active_reservation = some id

/-- What the step relies on: the answers of ports are the chain's and the registry's, new
    reservations are under ids of their own, expiry stays behind the scan, and an event
    has an executor and a transaction. -/
def Allowed (keccak256 : Bytes → B256) (start_block : U64) (sys : RebateSystem) : RebateMove → Prop
  | .evaluate _ _ _ ports input => RebateService.Publishable ports input ∧
      ∀ batch, sys.service.batches[input.strategy.key]? = some batch →
        RebateService.Unclaimed sys.service input.reservation_id batch.id
  | .reconcile _ config answers safe_head => config.start_block = start_block ∧
      answers.logs = sys.chain.mined.map Prod.snd ∧ safe_head ≤ sys.chain.head
  | .expire _ config _ safe_scanned_block => config.start_block = start_block ∧
      safe_scanned_block < RebateWorker.next_block config sys.service.store.rebate_scan_cursor
  | .tick _ _ _ config ports answers => config.start_block = start_block ∧
      answers.logs = sys.chain.mined.map Prod.snd ∧ answers.current_head ≤ sys.chain.head ∧
      RebateService.Reliable ports answers ∧
      RebateService.Fresh (RebateWorker.reservation_id keccak256 config answers)
        (RebateService.Met keccak256 answers sys.service) sys.service
  | .ledger c => LedgerService.Foreign (Named sys.service.store) c
  | .execute _ executor tx_hash _ => executor ≠ 0 ∧ tx_hash ≠ 0
  | .accrue _ _ | .discard _ _ | .restart _ _ | .advance => True

/-! ## The invariant -/

/-- What holds whenever no call is under way, also while the node is down. -/
structure Safe (keccak256 : Bytes → B256) (start_block : U64) (sys : RebateSystem) : Prop where
  durable : RebateService.Durable keccak256 sys.service
  tracked : Tracked start_block sys.chain sys.service.store
  steady : sys.running = true → RebateService.Steady keccak256 sys.service

/-- What a step keeps of the tables: every leg where it is, every settlement as it is. -/
structure Later (store store' : SqliteRebateStore) : Prop where
  legs : ∀ (b : RebateBatchId) (row : BatchRow), store.rebate_batch[b]? = some row →
    ∃ row', store'.rebate_batch[b]? = some row' ∧ row'.strategy = row.strategy ∧
      ∀ (t : TradeId) (a : MinedAccrual), row.accruals[t]? = some a → row'.accruals[t]? = some a
  recorded : Retains store store'

theorem Later.refl (store : SqliteRebateStore) : Later store store :=
  ⟨fun _ row hrow => ⟨row, hrow, rfl, fun _ _ h => h⟩, .of_eq fun _ => rfl⟩

theorem Later.trans {store store' store'' : SqliteRebateStore} (h : Later store store')
    (h' : Later store' store'') : Later store store'' := by
  refine ⟨fun b row hrow => ?_, h.recorded.trans h'.recorded⟩
  obtain ⟨row', hrow', hkey, hkept⟩ := h.legs b row hrow
  obtain ⟨row'', hrow'', hkey', hkept'⟩ := h'.legs b row' hrow'
  exact ⟨row'', hrow'', hkey'.trans hkey, fun t a ha => hkept' t a (hkept t a ha)⟩

/-- What a step from `sys` leaves. -/
structure Kept (keccak256 : Bytes → B256) (start_block : U64) (sys sys' : RebateSystem) : Prop where
  safe : Safe keccak256 start_block sys'
  later : Later sys.service.store sys'.service.store
  mined : sys.chain.mined <+: sys'.chain.mined

variable {keccak256 : Bytes → B256} {start_block : U64} {sys sys' sys'' : RebateSystem}
  {faults : Faults RebateServiceError} {α : Type}

theorem Kept.refl (h : Safe keccak256 start_block sys) : Kept keccak256 start_block sys sys :=
  ⟨h, .refl _, List.prefix_refl _⟩

theorem Kept.trans (h : Kept keccak256 start_block sys sys')
    (h' : Kept keccak256 start_block sys' sys'') : Kept keccak256 start_block sys sys'' :=
  ⟨h'.safe, h.later.trans h'.later, h.mined.trans h'.mined⟩

theorem safe_fresh {head : U64} (hstart : start_block.val ≤ head.val + 1) :
    Safe keccak256 start_block (fresh head) := by
  have hrows : ∀ b : RebateBatchId, (fresh head).service.store.rebate_batch[b]? = none :=
    fun _ => Std.ExtTreeMap.getElem?_empty
  have hsettlements : ∀ b : RebateBatchId, (fresh head).service.store.rebate_settlement[b]? = none :=
    fun _ => Std.ExtTreeMap.getElem?_empty
  have hstates : ∀ b, (fresh head).service.store.state_of b = none := fun b => by
    unfold state_of
    rw [hrows]
    rfl
  have hstored : ∀ id, (fresh head).service.ledger.stored id = none := fun id => by
    show (((∅ : SqliteLedgerStore)[id]?).map _).filter _ = none
    rw [show ((∅ : SqliteLedgerStore)[id]?) = none from Std.ExtTreeMap.getElem?_empty]
    rfl
  refine ⟨⟨⟨⟨?_, ?_⟩, ?_, ?_, ?_, ?_⟩, ⟨?_, ?_, ?_, ?_⟩⟩, ⟨hstart, nofun, nofun, List.nodup_nil, nofun, ?_,
    nofun⟩, nofun⟩
  · exact fun hrow => by cases (hrows _).symm.trans hrow
  · exact fun hrow => by cases (hrows _).symm.trans hrow
  · exact fun b row hrow => by cases (hrows b).symm.trans hrow
  · exact fun b row state hrow => by cases (hrows b).symm.trans hrow
  · exact fun b state id hstate => by cases (hstates b).symm.trans hstate
  · exact fun b entry hentry => by cases (hsettlements b).symm.trans hentry
  · exact fun id r b hr => by cases (hstored id).symm.trans hr
  · exact fun b state id r hstate => by cases (hstates b).symm.trans hstate
  · exact fun b execution hstate => by cases (hstates b).symm.trans hstate
  · exact fun b execution r hstate => by cases (hstates b).symm.trans hstate
  · exact fun b entry hentry => by cases (hsettlements b).symm.trans hentry

/-! ## Calls -/

/-- With every permission. -/
def anything (service : RebateService) : Frame :=
  service.frame (fun _ => True) (fun _ => True) (fun _ => True) fun _ _ => True

/-- The service goes on following the chain, however a call ends. -/
def Continues (keccak256 : Bytes → B256) (start_block : U64) (chain : FillerChain)
    (service : RebateService) : Post RebateService RebateServiceError α where
  done _ := RebateService.Following keccak256 start_block chain (anything service)
  failed _ := RebateService.Following keccak256 start_block chain (anything service)
  crashed := RebateService.Following keccak256 start_block chain (anything service)

theorem continues_of_follows {m : RebateService.Method α} {service : RebateService} {chain : FillerChain}
    {Q : α → RebateService → Prop} {allowed : Option (Process.Fault RebateServiceError) → Prop}
    (h : wp allowed m (RebateService.Follows keccak256 start_block chain (anything service) service Q)
      service) : wp allowed m (Continues keccak256 start_block chain service) service :=
  h.mono (fun _ _ hs' => hs'.1.toFollowing) (fun _ _ hs' => hs'.toFollowing)
    fun _ hs' => hs'.toFollowing

theorem Kept.of_following {service : RebateService} {running : Bool}
    (h : RebateService.Following keccak256 start_block sys.chain (anything sys.service) service) :
    Kept keccak256 start_block sys ⟨service, running, sys.chain.expose service.store⟩ :=
  ⟨⟨h.steady.durable, h.tracked.expose_of h.steady.durable.tables, fun _ => h.steady⟩,
    ⟨h.since.legs, h.since.recorded⟩, List.prefix_refl _⟩

/-- **A call**, of which it is known that it keeps a running service following the chain. -/
theorem Safe.call (h : Safe keccak256 start_block sys) {m : RebateService.Method α}
    (hwp : RebateService.Following keccak256 start_block sys.chain (anything sys.service) sys.service →
      wp (fun _ => True) m (Continues keccak256 start_block sys.chain sys.service) sys.service) :
    Kept keccak256 start_block sys (sys.call m faults) := by
  unfold RebateSystem.call
  split
  · have hmeets := hwp ⟨h.steady ‹_›, h.tracked, .refl _⟩ faults fun _ _ => trivial
    unfold RebateSystem.after
    cases hrun : m sys.service faults with
    | done a s rest =>
      rw [hrun] at hmeets
      exact Kept.of_following hmeets.1
    | failed e s rest =>
      rw [hrun] at hmeets
      exact Kept.of_following hmeets.1
    | crashed s =>
      rw [hrun] at hmeets
      exact Kept.of_following hmeets
  · exact .refl h

/-! ## The ledger's other users -/

/-- The reservations of rebates are those that open batches name. -/
theorem owned_of_steady {service : RebateService} (h : RebateService.Steady keccak256 service) :
    LedgerService.Mine (Named service.store) service.ledger where
  keyed := h.consistent.keyed
  agree := fun id ⟨b, state, hstate, hid⟩ => h.consistent.agree b state id hstate hid
  named := fun id r ⟨b, state, hstate, hid⟩ hr =>
    ⟨b, h.consistent.promised.named b state id r hstate hid hr⟩
  held := fun id r b hr howner => by
    obtain ⟨state, hstate, hid⟩ := h.consistent.owned_held id r b hr howner
    exact ⟨b, state, hstate, hid⟩
  stored := fun id r b hr howner => by
    obtain ⟨-, state, hstate, hid⟩ := h.consistent.promised.owned id r b hr howner
    exact ⟨b, state, hstate, hid⟩

/-- **What leaves rebates alone keeps the service steady.** -/
theorem steady_spared {service : RebateService} {ledger : LedgerService}
    (h : RebateService.Steady keccak256 service)
    (hspared : LedgerService.Spared (Named service.store) service.ledger ledger)
    (hkeyed : ledger.ledger.Keyed) : RebateService.Steady keccak256 { service with ledger } := by
  intro except opens publishes claims
  have hs := h.consistent
  have hstored : ∀ id, Named service.store id → ledger.stored id = service.ledger.stored id :=
    fun id hid => (hspared.same id hid).stored
  have hheld : ∀ id, Named service.store id → ledger.held id = service.ledger.held id :=
    fun id hid => (hspared.same id hid).held
  refine ⟨⟨hs.tables, ⟨fun id r b hr howner => ?_, fun b state id r hstate hid hr => ?_,
      fun b execution hstate => ?_, fun b execution r hstate hr => ?_⟩⟩, .refl _,
    ⟨fun _ st _ hst hid => .inr ⟨st, hst, hid⟩, fun _ _ hr => .inl hr, fun _ _ hr => .inl hr⟩,
    fun key batch hbatch => ?_, hs.loaded, hs.guarded, fun b state id hstate hid => ?_,
    fun id r b hr howner => ?_, hkeyed⟩
  · have hid := hspared.stored id r b hr howner
    exact hs.promised.owned id r b ((hstored id hid).symm.trans hr) howner
  · exact hs.promised.named b state id r hstate hid ((hstored id ⟨b, state, hstate, hid⟩).symm.trans hr)
  · refine (hs.promised.backed b execution hstate).imp_right fun ⟨r, hr⟩ => ⟨r, ?_⟩
    exact (hstored _ ⟨b, _, hstate, rfl⟩).trans hr
  · exact hs.promised.sources b execution r hstate ((hstored _ ⟨b, _, hstate, rfl⟩).symm.trans hr)
  · obtain ⟨hkey, row, state, hrow, hstate, hsame, hlags⟩ := hs.mirrors key batch hbatch
    refine ⟨hkey, row, state, hrow, hstate, hsame, ?_⟩
    generalize batch.state = memory at hlags ⊢
    cases hlags with
    | same => exact .same
    | invalidating id hid => exact .invalidating id hid
    | guarded id hid hgone =>
      refine .guarded id hid ((hstored id ⟨batch.id, state, ?_, ?_⟩).trans hgone)
      · exact state_of_eq_some.mpr ⟨row, hrow, hstate⟩
      · exact RebateService.active_of_interrupted hid
  · show ledger.held id = ledger.stored id
    rw [hheld id ⟨b, state, hstate, hid⟩, hstored id ⟨b, state, hstate, hid⟩]
    exact hs.agree b state id hstate hid
  · exact hs.owned_held id r b ((hheld id (hspared.held id r b hr howner)).symm.trans hr) howner

theorem Safe.ledger (h : Safe keccak256 start_block sys) {c : ServiceCommand}
    (hc : LedgerService.Foreign (Named sys.service.store) c) :
    Kept keccak256 start_block sys (step keccak256 sys (.ledger c)) := by
  simp only [step]
  split
  · have hsteady := h.steady ‹_›
    have hnext := steady_spared hsteady (LedgerService.spared_next (owned_of_steady hsteady) hc)
      (LedgerService.keyed_next c hsteady.consistent.keyed)
    exact ⟨⟨hnext.durable, h.tracked, fun _ => hnext⟩, .refl _, List.prefix_refl _⟩
  · exact .refl h

/-! ## Restarts -/

/-- What recovery may do: end the work that is being settled. -/
def recovering (sys : RebateSystem) (ledger : LedgerService) : Frame :=
  RebateService.frame ⟨∅, ∅, ledger, sys.service.store⟩ sys.service.store.Settling (fun _ => False)
    (fun _ => False) fun _ _ => False

/-- What the ledger recovered is what rebates recover from. -/
theorem Safe.recoverable (h : Safe keccak256 start_block sys) {reads : Reads} {ledger : LedgerService}
    (hledger : (LedgerService.new sys.service.ledger.store).recover reads = (.ok (), ledger)) :
    RebateService.Recoverable keccak256 (sys.recovering ledger)
      ⟨∅, ∅, ledger, sys.service.store⟩ := by
  obtain ⟨hstore, hsynced, hkeyed⟩ := LedgerService.recover_of_ok hledger
  have hstored : ledger.stored = sys.service.ledger.stored := by
    funext id
    unfold LedgerService.stored
    rw [hstore]
  refine ⟨⟨h.durable.tables, ?_⟩, .refl _,
    ⟨fun _ st _ hst hid => .inr ⟨st, hst, hid⟩, fun _ _ hr => .inl hr, fun _ _ hr => .inl hr⟩,
    hsynced, hkeyed⟩
  show Promised _ ledger.stored _
  rw [hstored]
  exact h.durable.promised

theorem Kept.of_recovering (h : Safe keccak256 start_block sys) {ledger : LedgerService}
    {service : RebateService} {running : Bool}
    (hdurable : RebateService.Durable keccak256 service)
    (hcalm : Calm (sys.recovering ledger) service.store)
    (hsteady : running = true → RebateService.Steady keccak256 service) :
    Kept keccak256 start_block sys ⟨service, running, sys.chain.expose service.store⟩ :=
  ⟨⟨hdurable, h.tracked.recovered h.durable.tables hdurable.tables rfl hcalm (fun _ hb => hb)
    fun _ hnever => hnever, hsteady⟩, ⟨hcalm.legs, hcalm.recorded⟩, List.prefix_refl _⟩

theorem Safe.restart (h : Safe keccak256 start_block sys) {reads : Reads} :
    Kept keccak256 start_block sys (sys.restart keccak256 faults reads) := by
  unfold RebateSystem.restart
  split
  · rename_i ledger hledger
    have hwp : wp (fun _ => True) (RebateService.recover keccak256) _
        ⟨∅, ∅, ledger, sys.service.store⟩ :=
      RebateService.wp_recover (h.recoverable hledger) fun _ hb => hb
    have hmeets := hwp faults fun _ _ => trivial
    unfold RebateSystem.started
    cases hrun : RebateService.recover keccak256 ⟨∅, ∅, ledger, sys.service.store⟩ faults with
    | done a s rest =>
      rw [hrun] at hmeets
      obtain ⟨⟨hconsistent, -⟩, -⟩ := hmeets
      exact .of_recovering h hconsistent.toDurable hconsistent.calm fun _ => hconsistent.steady
    | failed e s rest =>
      rw [hrun] at hmeets
      obtain ⟨⟨-, hrecoverable⟩, -⟩ := hmeets
      exact .of_recovering h hrecoverable.toDurable hrecoverable.calm nofun
    | crashed s =>
      rw [hrun] at hmeets
      exact .of_recovering h hmeets.2.toDurable hmeets.2.calm nofun
  · exact ⟨⟨h.durable, h.tracked, nofun⟩, .refl _, List.prefix_refl _⟩

/-! ## Steps -/

/-- **Step lemma.** -/
theorem Safe.step (h : Safe keccak256 start_block sys) {move : RebateMove}
    (hmove : Allowed keccak256 start_block sys move) :
    Kept keccak256 start_block sys (sys.step keccak256 move) := by
  match move with
  | .accrue faults accrual =>
    exact h.call fun hs => continues_of_follows (RebateService.wp_accrue_following hs trivial)
  | .evaluate faults policy config ports input =>
    exact h.call fun hs => continues_of_follows (RebateService.wp_evaluate_following hs hmove.1
      (fun _ _ _ => trivial) (fun _ _ => trivial) hmove.2)
  | .discard faults strategy =>
    exact h.call fun hs => continues_of_follows (RebateService.wp_discard_following hs strategy)
  | .reconcile faults config answers safe_head =>
    obtain ⟨hconfig, hlogs, hhead⟩ := hmove
    exact h.call fun hs => (RebateService.wp_reconcile_following hs hconfig hlogs hhead).mono
      (fun _ _ hs' => hs'.1) (fun _ _ hs' => hs') fun _ hs' => hs'
  | .expire faults config strategy safe_scanned_block =>
    exact h.call fun hs =>
      continues_of_follows (RebateService.wp_expire_following hs hmove.1 hmove.2)
  | .tick faults policy service config ports answers =>
    obtain ⟨hconfig, hlogs, hhead, hreliable, hfresh⟩ := hmove
    have hwiden : ∀ {opens known : RebateBatchId → Prop} {ids : RebateBatchId → ReservationId}
        {deadline : U64} {s : RebateService}, RebateService.Following keccak256 start_block sys.chain
          (sys.service.permit opens known ids deadline) s →
        RebateService.Following keccak256 start_block sys.chain (anything sys.service) s :=
      fun hs => ⟨hs.steady, hs.tracked, hs.since.weaken rfl rfl (fun _ _ => trivial)
        (fun _ _ => trivial) fun _ _ _ => trivial⟩
    exact h.call fun hs => (RebateService.wp_tick hs.steady hs.tracked hreliable hfresh hconfig hlogs
      hhead).mono (fun _ _ hs' => hwiden hs'.1) (fun _ _ hs' => hwiden hs') fun _ hs' => hwiden hs'
  | .ledger c => exact h.ledger hmove
  | .restart faults reads => exact h.restart
  | .execute execution executor tx_hash log_index =>
    refine ⟨⟨h.durable, h.tracked.execute h.durable.tables hmove.1 hmove.2, h.steady⟩, .refl _, ?_⟩
    show sys.chain.mined <+: (sys.chain.execute execution executor tx_hash log_index).mined
    unfold FillerChain.execute
    split
    · exact List.prefix_append _ _
    · exact List.prefix_refl _
  | .advance => exact ⟨⟨h.durable, h.tracked.advance, h.steady⟩, .refl _, List.prefix_refl _⟩

/-- **Run lemma.** -/
theorem Safe.run (h : Safe keccak256 start_block sys) {moves : List RebateMove}
    (hmoves : Run.Along (RebateSystem.step keccak256) (Allowed keccak256 start_block) sys moves) :
    Kept keccak256 start_block sys (Run.run (RebateSystem.step keccak256) sys moves) :=
  Run.invariant (P := fun sys' => Kept keccak256 start_block sys sys')
    (fun _ _ hkept hmove => hkept.trans (hkept.safe.step hmove)) (.refl h) hmoves

end RebateSystem

end Solvent
