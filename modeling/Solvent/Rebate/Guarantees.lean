import Solvent.Rebate.System

/-! # What the rebate node guarantees

    For every run from an empty database: whatever is called, whatever fails, wherever
    the process dies and is started again, and whoever executes what is public.

    `published_work_backed`: public work has its hold, and no hold of a rebate is left
    behind. `restart_recovers`: with its ports answering, a restart brings the node up.
    `legs_paid_once`: a leg stays in its one batch, which pays it once.
    `executions_settled`: the tables agree with the chain. `tick_completes`: what a tick
    that succeeds has done.
-/

namespace Solvent

open Abi BTreeMap Contract Process SqliteRebateStore

/-! ## What a plan pays -/

/-- A sum that is checked is the sum. -/
theorem sum_of_checked {amounts : List RebateAllocation} :
    ∀ {start total : U256},
      amounts.foldlM (fun sum allocation => sum.checked_add allocation.amount) start = some total →
      start.val + (amounts.map (·.amount.val)).sum = total.val := by
  induction amounts with
  | nil =>
    intro start total h
    obtain rfl := Option.some.inj h
    rw [List.map_nil, List.sum_nil, Nat.add_zero]
  | cons allocation amounts ih =>
    intro start total h
    rw [List.foldlM_cons] at h
    obtain ⟨next, hnext, hrest⟩ := Option.bind_eq_some_iff.mp h
    have hadd := U256.checked_add_eq_some.mp hnext
    have htotal := ih hrest
    rw [List.map_cons, List.sum_cons]
    omega

/-- **A plan pays every leg of its batch once**, and its rebate is what it pays. -/
theorem pays_of_match {plan : RebatePlan} {batch : RebateBatch}
    (h : plan_matches_batch plan batch = true) :
    (plan.allocations.map (·.trade_id)).Perm batch.accruals.keys ∧
      (plan.allocations.map (·.amount.val)).sum = plan.maker_rebate.val := by
  unfold plan_matches_batch at h
  rw [decide_eq_true_eq] at h
  obtain ⟨-, -, -, -, -, -, hdistinct, hsize, hlegs, hsum⟩ := h
  have hsummed := sum_of_checked hsum
  have hlength : (allocation_trades plan).toList.length = (allocation_trades plan).size :=
    Std.ExtTreeSet.length_toList
  have hnodup : (allocation_trades plan).toList.Nodup :=
    Std.ExtTreeSet.distinct_toList.imp fun hne heq => hne (compare_eq_iff_eq.mpr heq)
  -- The set has the trades of the list, and as many: the list repeats none.
  have htrades : (allocation_trades plan).toList.Perm (plan.allocations.map (·.trade_id)) := by
    refine (List.subperm_of_subset hnodup fun t ht => ?_).perm_of_length_le ?_
    · rw [Std.ExtTreeSet.mem_toList, allocation_trades, Std.ExtTreeSet.mem_ofList,
        List.contains_iff_mem] at ht
      exact ht
    · rw [List.length_map, hlength, hdistinct]
  have hkeys : (allocation_trades plan).toList.Perm batch.accruals.keys := by
    refine (List.subperm_of_subset hnodup fun t ht => ?_).perm_of_length_le ?_
    · exact Std.ExtTreeMap.mem_keys.mpr (Std.ExtTreeMap.mem_iff_isSome_getElem?.mpr (hlegs t ht))
    · rw [Std.ExtTreeMap.length_keys, hlength, hsize]
  refine ⟨htrades.symm.trans hkeys, ?_⟩
  have hzero : (0 : U256).val = 0 := rfl
  omega

/-- The trades a settlement pays. -/
def RebateSettlement.trades (settlement : RebateSettlement) : List TradeId :=
  settlement.plan.allocations.map (·.trade_id)

/-- Every settlement pays the legs of its batch and its event's rebate, and no two
    settlements of a strategy pay one leg. -/
structure SqliteRebateStore.PaysOnce (store : SqliteRebateStore) : Prop where
  paid : ∀ (b : RebateBatchId) (entry : SettlementRow), store.rebate_settlement[b]? = some entry →
    ∃ row, store.rebate_batch[b]? = some row ∧ row.strategy = entry.settlement.plan.strategy ∧
      entry.settlement.trades.Perm row.accruals.keys ∧
      (entry.settlement.plan.allocations.map (·.amount.val)).sum =
        entry.settlement.event.maker_rebate.val
  once : ∀ (a b : RebateBatchId) (x y : SettlementRow) (t : TradeId),
    store.rebate_settlement[a]? = some x → store.rebate_settlement[b]? = some y →
    x.settlement.plan.strategy = y.settlement.plan.strategy →
    t ∈ x.settlement.trades → t ∈ y.settlement.trades → a = b

namespace SqliteRebateStore

variable {keccak256 : Bytes → B256} {store : SqliteRebateStore}

/-- **Tables that load pay once.** -/
theorem Tables.pays_once (h : Tables keccak256 store) : store.PaysOnce := by
  have hpaid : ∀ (b : RebateBatchId) (entry : SettlementRow),
      store.rebate_settlement[b]? = some entry → ∃ row, store.rebate_batch[b]? = some row ∧
        row.strategy = entry.settlement.plan.strategy ∧
        entry.settlement.trades.Perm row.accruals.keys ∧
        (entry.settlement.plan.allocations.map (·.amount.val)).sum =
          entry.settlement.event.maker_rebate.val := by
    intro b entry hentry
    obtain ⟨-, hvalid, row, hrow, hmatches, -⟩ := h.settlements b entry hentry
    obtain ⟨hperm, hsum⟩ := pays_of_match hmatches
    unfold validate_settlement at hvalid
    have hevent := (require_eq_ok.mp hvalid).2
    unfold event_matches at hevent
    rw [decide_eq_true_eq] at hevent
    obtain ⟨-, -, -, -, -, -, -, hrebate, -⟩ := hevent
    unfold plan_matches_batch at hmatches
    rw [decide_eq_true_eq] at hmatches
    exact ⟨row, hrow, hmatches.2.1.symm, hperm, hsum.trans (congrArg Fin.val hrebate.symm)⟩
  refine ⟨hpaid, fun a b x y t hx hy hkey htx hty => ?_⟩
  obtain ⟨row, hrow, hstrategy, hperm, -⟩ := hpaid a x hx
  obtain ⟨row', hrow', hstrategy', hperm', -⟩ := hpaid b y hy
  have hleg := Std.ExtTreeMap.mem_keys.mp (hperm.mem_iff.mp htx)
  have hleg' := Std.ExtTreeMap.mem_keys.mp (hperm'.mem_iff.mp hty)
  exact h.schema.one_leg hrow hrow' (hstrategy.trans (hkey.trans hstrategy'.symm))
    (Std.ExtTreeMap.getElem?_eq_some_getElem hleg) (Std.ExtTreeMap.getElem?_eq_some_getElem hleg')

end SqliteRebateStore

/-! ## A strategy that is priced -/

theorem XycPool.quote_exact_out_ne_zero {pool : XycPool} {o : U256} (ho : o ≠ 0) :
    pool.quote_exact_out o ≠ .ok 0 := by
  intro h
  obtain ⟨⟨hin, -⟩, hlt, -, hceil⟩ := XycPool.quote_exact_out_eq_ok.mp h
  have hzero : (0 : U256).val = 0 := rfl
  have hpos : o.val ≠ 0 := fun hval => ho (Fin.ext hval)
  have hle := (ceilDiv_le_iff_le_mul (Nat.sub_pos_of_lt hlt)).mp (hceil.trans hzero).le
  rw [Nat.mul_zero, Nat.le_zero, Nat.mul_eq_zero] at hle
  exact hle.elim hpos hin

/-- A strategy without fees gives no output away. -/
theorem xyc_priced {strategy : MakerStrategy} {caps : AvailableSnapshot} {token_in token_out : Address}
    {c : Candidate} (hcurve : strategy.curve = .Priceable .Xyc [])
    (h : build_pricing_candidate strategy caps token_in token_out = some c) {o : U256} (ho : o ≠ 0) :
    c.net_quote_exact_out o ≠ .ok 0 := by
  unfold build_pricing_candidate at h
  rw [hcurve] at h
  split at h
  · dsimp only at h
    split at h
    · cases h
    · obtain rfl := Option.some.inj h
      intro hnet
      unfold Candidate.net_quote_exact_out at hnet
      obtain ⟨q, hquote, hq⟩ := bind_eq_ok.mp hnet
      rw [gross_up_nil] at hq
      obtain rfl := Except.ok.inj hq
      exact XycPool.quote_exact_out_ne_zero ho hquote
  · cases h

namespace RebateSystem

variable {keccak256 : Bytes → B256} {start_block head : U64} {sys : RebateSystem}
  {moves later : List RebateMove} {reads : Reads}

/-- The node after a run from an empty database. -/
def reached (keccak256 : Bytes → B256) (head : U64) (moves : List RebateMove) : RebateSystem :=
  Run.run (RebateSystem.step keccak256) (fresh head) moves

theorem safe_reached (hstart : start_block.val ≤ head.val + 1)
    (hmoves : Run.Along (RebateSystem.step keccak256) (Allowed keccak256 start_block) (fresh head) moves) :
    Safe keccak256 start_block (reached keccak256 head moves) :=
  ((safe_fresh hstart).run hmoves).safe

/-- What a run leaves stays through the rest of it. -/
theorem kept_reached (hstart : start_block.val ≤ head.val + 1)
    (hmoves : Run.Along (RebateSystem.step keccak256) (Allowed keccak256 start_block) (fresh head)
      (moves ++ later)) :
    Kept keccak256 start_block (reached keccak256 head moves)
      (reached keccak256 head (moves ++ later)) := by
  obtain ⟨hbefore, hafter⟩ := (Run.along_append _ _ _ _ _).mp hmoves
  unfold reached
  rw [Run.run_append]
  exact (safe_reached hstart hbefore).run hafter

/-! ## A run -/

def sample_keccak256 : Bytes → B256 := fun _ => 1

def sample_reads : Reads := ⟨1, fun _ => .ok 1000⟩

theorem sample_reads_answer : ∀ a, ∃ budget, sample_reads.budget a = .ok budget :=
  fun _ => ⟨1000, rfl⟩

/-- A leg that displaced the strategy of `rebate_strategy`. -/
def sample_accrual : MinedAccrual where
  trade_id := ⟨1⟩
  strategy := ⟨⟨1⟩, 0, ⟨1⟩⟩
  token_in := 1
  token_out := 2
  allocation_weight := 1
  amount_in := 5
  amount_out := 6
  confirmed_block := 1

/-- The strategy's order, behind the gate of credential 4. -/
def sample_order : Contracts.SwapOrder where
  maker := 1
  traits := 0
  data := 0x0e :: 20 :: List.replicate 19 0 ++ [4]

def sample_ports : RebatePorts where
  reads := sample_reads
  market _ := .ok rebate_market
  gas_price_wei := .ok 3
  decimals _ := 18
  authorize _ := some (List.replicate 65 0)

def sample_input : RebateEvaluationInput where
  strategy := rebate_strategy .Xyc 1000
  program := order_abi_encode sample_order
  caps := rebate_caps 500 1000
  minimums := [⟨1, 1, 1⟩]
  reservation_id := ⟨5⟩
  reservation_ttl_secs := 60
  deadline_block := 10
  published_at := 1

/-- The process dies while it takes a leg in, is started again, takes the leg in, and
    publishes. -/
def sample_moves : List RebateMove :=
  [.restart [] sample_reads, .accrue [some .crash] sample_accrual, .restart [] sample_reads,
    .accrue [] sample_accrual,
    .evaluate [] (.new 0 12000) ⟨1, 1, 3, 4⟩ sample_ports sample_input]

/-- What is public is executed. -/
def sample_executed : List RebateMove :=
  sample_moves ++ ((reached sample_keccak256 0 sample_moves).service.store.published.map
    (fun execution => .execute execution 5 6 0) ++ [.advance])

def sample_answers : RebateTick where
  current_head := 1
  registry_cursor := some 1
  logs := (reached sample_keccak256 0 sample_executed).chain.mined.map Prod.snd
  confirmed := []
  has_unsettled _ := false
  snapshot := Snapshot.default
  program _ := []
  now_unix := 1

/-- And the process dies while it settles that, with the hold spent and the settlement not
    finished. -/
def sample_crashed : List RebateMove :=
  sample_executed ++
    [.reconcile [none, none, none, none, some .crash] ⟨1, 10, 60⟩ sample_answers 1]

/-- What the run goes through, read off one evaluation of it. -/
theorem sample_run :
    ((∀ e ∈ (reached sample_keccak256 0 (sample_moves.take 4)).service.store.rebate_batch.toList,
        e.2.state.bind RebateBatchState.active_reservation = none) ∧
      ((reached sample_keccak256 0 (sample_moves.take 4)).service.ledger.held ⟨5⟩).isNone = true ∧
      ((reached sample_keccak256 0 (sample_moves.take 4)).service.ledger.stored ⟨5⟩).isNone = true) ∧
    (reached sample_keccak256 0 sample_moves).service.store.published.length = 1 ∧
    (1 : U64) ≤ (reached sample_keccak256 0 sample_executed).chain.head ∧
    ((reached sample_keccak256 0 sample_crashed).service.store.rebate_batch[
      (⟨1⟩ : RebateBatchId)]?).bind (fun row => row.accruals[sample_accrual.trade_id]?) =
        some sample_accrual ∧
    (reached sample_keccak256 0 (sample_crashed ++ [.restart [] sample_reads])).chain.mined.length =
      1 := by
  decide +kernel

theorem sample_publishable : RebateService.Publishable sample_ports sample_input where
  signature a signature h := by
    obtain rfl := Option.some.inj h
    rfl
  program := by decide +kernel
  reservation := by decide
  minimums m hm := by
    obtain rfl := List.mem_singleton.mp hm
    decide
  priced token_in token_out c hc o ho := xyc_priced rfl hc ho

/-- Nothing is reserved before the batch is evaluated. -/
theorem sample_moves_allowed : Run.Along (RebateSystem.step sample_keccak256)
    (Allowed sample_keccak256 1) (fresh 0) sample_moves := by
  refine ⟨trivial, trivial, trivial, trivial, ⟨sample_publishable, fun batch _ =>
    ⟨fun a state hstate hid => ?_, fun r hr => ?_, fun r hr => ?_⟩⟩, trivial⟩
  · obtain ⟨row, hrow, hrowstate⟩ := state_of_eq_some.mp hstate
    have hnone := sample_run.1.1 (a, row) (Std.ExtTreeMap.mem_toList_iff_getElem?_eq_some.mpr hrow)
    rw [hrowstate, Option.bind_some, hid] at hnone
    cases hnone
  · cases (Option.isNone_iff_eq_none.mp sample_run.1.2.1).symm.trans hr
  · cases (Option.isNone_iff_eq_none.mp sample_run.1.2.2).symm.trans hr

theorem sample_crashed_allowed : Run.Along (RebateSystem.step sample_keccak256)
    (Allowed sample_keccak256 1) (fresh 0) sample_crashed := by
  refine (Run.along_append _ _ _ _ _).mpr ⟨(Run.along_append _ _ _ _ _).mpr ⟨sample_moves_allowed,
    (Run.along_append _ _ _ _ _).mpr ⟨Run.along_of_forall (fun move hmove _ => ?_) _, trivial, trivial⟩⟩,
    ⟨rfl, rfl, ?_⟩, trivial⟩
  · obtain ⟨execution, -, rfl⟩ := List.mem_map.mp hmove
    exact ⟨by decide, by decide⟩
  · exact sample_run.2.2.1

theorem sample_restart_allowed : Run.Along (RebateSystem.step sample_keccak256)
    (Allowed sample_keccak256 1) (fresh 0) (sample_crashed ++ [.restart [] sample_reads]) :=
  (Run.along_append _ _ _ _ _).mpr ⟨sample_crashed_allowed, trivial, trivial⟩

/-- The leg is taken in. -/
theorem sample_leg :
    (reached sample_keccak256 0 sample_crashed).service.store.has_leg ⟨1⟩ sample_accrual :=
  Option.bind_eq_some_iff.mp sample_run.2.2.2.1

/-! ## Holds -/

/-- What is public or reserved, wherever the node stands. -/
structure Accounted (sys : RebateSystem) : Prop where
  /-- Published work has its hold, for what its plan takes, until its execution is being
      settled. -/
  published : ∀ b execution, sys.service.store.state_of b = some (.Ready execution) →
    sys.service.store.Settling b ∨
      ∃ r, sys.service.ledger.stored execution.reservation = some r ∧ r.owner = .Rebate b ∧
        r.state = .Pending ∧ r.sources = [execution.plan.source execution.plan.strategy]
  /-- No hold of a rebate is left behind. -/
  held : ∀ id r b, sys.service.ledger.stored id = some r → r.owner = .Rebate b →
    ∃ state, sys.service.store.state_of b = some state ∧ state.active_reservation = some id
  one_open : ∀ (a b : RebateBatchId) (x y : BatchRow), sys.service.store.rebate_batch[a]? = some x →
    sys.service.store.rebate_batch[b]? = some y → x.strategy = y.strategy →
    x.state.isSome = true → y.state.isSome = true → a = b
  /-- While the node runs, memory has the holds of the table, and a strategy whose batch
      is past gathering is not quoted. -/
  running : sys.running = true → ∀ (b : RebateBatchId) (row : BatchRow) (state : RebateBatchState),
    sys.service.store.rebate_batch[b]? = some row → row.state = some state →
    (∀ id, state.active_reservation = some id →
      sys.service.ledger.held id = sys.service.ledger.stored id) ∧
    (state ≠ .Accumulating → row.strategy ∈ sys.service.guards)

/-- A batch past gathering is so in memory too. -/
theorem accumulating_of_lags {stored : ReservationId → Option Reservation} {row : RebateBatchState}
    (h : Lags stored row .Accumulating) : row = .Accumulating := by
  cases h
  rfl

theorem Safe.accounted (h : Safe keccak256 start_block sys) : Accounted sys := by
  have hpromised := h.durable.promised
  refine ⟨fun b execution hready => ?_, fun id r b hr howner => (hpromised.owned id r b hr howner).2,
    fun a b x y hx hy hkey hopen hopen' => h.durable.tables.schema.one_open hx hy hkey hopen hopen',
    fun hrunning b row state hrow hstate => ⟨fun id hid => ?_, fun hpast => ?_⟩⟩
  · refine (hpromised.backed b execution hready).imp_right fun ⟨r, hr⟩ => ?_
    have howner := hpromised.named b _ _ r hready rfl hr
    exact ⟨r, hr, howner, (hpromised.owned _ r b hr howner).1,
      hpromised.sources b execution r hready hr⟩
  · exact (h.steady hrunning).consistent.agree b state id (state_of_eq_some.mpr ⟨row, hrow, hstate⟩) hid
  · have hsteady := h.steady hrunning
    obtain ⟨batch, hbatch, hid⟩ := hsteady.consistent.loaded b row hrow (by rw [hstate]; rfl)
    refine hsteady.consistent.guarded _ batch hbatch fun hgathering => hpast ?_
    obtain ⟨state', hstate', hlags⟩ := (hsteady.mirrors _ batch hbatch).state_of
    rw [hid, state_of_eq_some.mpr ⟨row, hrow, hstate⟩] at hstate'
    obtain rfl := Option.some.inj hstate'
    exact accumulating_of_lags (hgathering ▸ hlags)

/-- The node is up again, from whatever state it was in. -/
structure Recovered (keccak256 : Bytes → B256) (sys sys' : RebateSystem) : Prop where
  running : sys'.running = true
  steady : RebateService.Steady keccak256 sys'.service
  restored : RebateService.Restored sys'.service
  /-- Public work stays as it is, unless its execution was being settled. -/
  published : ∀ b execution, ¬sys.service.store.Settling b →
    sys.service.store.state_of b = some (.Ready execution) →
    sys'.service.store.state_of b = some (.Ready execution)
  /-- Every execution that was being settled is. -/
  settled : ∀ (b : RebateBatchId) (entry : SettlementRow),
    sys.service.store.rebate_settlement[b]? = some entry →
    ∃ entry', sys'.service.store.rebate_settlement[b]? = some entry' ∧
      entry'.settlement = entry.settlement ∧ entry'.status = .Executed
  later : Later sys.service.store sys'.service.store

theorem Safe.recovers (h : Safe keccak256 start_block sys)
    (hreads : ∀ a, ∃ budget, reads.budget a = .ok budget) :
    Recovered keccak256 sys (sys.restart keccak256 [] reads) := by
  obtain ⟨ledger, hledger⟩ := LedgerService.recover_succeeds sys.service.ledger.store hreads
  obtain ⟨_, service, rest, hrun, hconsistent, hrestored⟩ :=
    (RebateService.wp_recover (h.recoverable hledger) fun _ hb => hb).succeeds
      (fun _ _ hfailed => hfailed.1) fun _ hcrashed => hcrashed.1
  have hcalm := hconsistent.calm
  have hrestart : sys.restart keccak256 [] reads = ⟨service, true, sys.chain.expose service.store⟩ := by
    unfold RebateSystem.restart
    rw [hledger]
    simp only [started, hrun]
  rw [hrestart]
  refine ⟨rfl, hconsistent.steady, hrestored, fun b execution hsettling hready =>
    hcalm.ready b execution hsettling hready, fun b entry hentry => ?_, ⟨hcalm.legs, hcalm.recorded⟩⟩
  obtain ⟨entry', hentry', hsame, -⟩ := hcalm.recorded b entry hentry
  refine ⟨entry', hentry', hsame, ?_⟩
  cases hstatus : entry'.status with
  | Executed => rfl
  | Settling => exact absurd ⟨entry', hentry', hstatus⟩ (hrestored.finished b)

/-- What was executed against what is recorded. -/
structure SettledUp (sys : RebateSystem) : Prop where
  /-- Each execution is settled, or its work is still public and its block still to be
      scanned. -/
  reported : ∀ m ∈ sys.chain.mined, sys.service.store.Finished m.2 ∨
    (sys.service.store.state_of m.2.batch_id = some (.Ready m.1) ∧
      sys.service.store.Unscanned m.2.block_number)
  recorded : ∀ (b : RebateBatchId) (entry : SettlementRow),
    sys.service.store.rebate_settlement[b]? = some entry →
    ∃ m ∈ sys.chain.mined, m.2 = entry.settlement.event
  /-- No batch is executed twice. -/
  once : ∀ m ∈ sys.chain.mined, ∀ m' ∈ sys.chain.mined, m.2.batch_id = m'.2.batch_id → m.2 = m'.2
  /-- What can still be executed has its hold. -/
  executable : ∀ execution ∈ sys.chain.exposed, sys.chain.Executable execution →
    ∃ r, sys.service.ledger.stored execution.reservation = some r ∧
      r.sources = [execution.plan.source execution.plan.strategy]

theorem Safe.settled_up (h : Safe keccak256 start_block sys) : SettledUp sys := by
  have htables := h.durable.tables
  refine ⟨fun m hm => (h.tracked.reported m hm).imp_right fun ⟨hawaits, hunscanned⟩ =>
      ⟨hawaits.ready, hunscanned⟩, h.tracked.recorded,
    fun m hm m' hm' hid => h.tracked.event_unique htables hm hm' hid,
    fun execution hexposed hexecutable => ?_⟩
  have hready := h.tracked.executable execution hexposed hexecutable
  have hnone := h.tracked.settlement_none htables hexposed hexecutable
  have hsettling : ¬sys.service.store.Settling execution.plan.batch_id := by
    rintro ⟨entry, hentry, -⟩
    rw [hnone] at hentry
    cases hentry
  obtain ⟨r, hr⟩ := (h.durable.promised.backed _ execution hready).resolve_left hsettling
  exact ⟨r, hr, h.durable.promised.sources _ execution r hready hr⟩

/-- What is true when a tick ends without an error. -/
def Completes (chain : FillerChain) (answers : RebateTick) (service : RebateService) :
    Outcome RebateService RebateServiceError RebateWorkerReport → Prop
  | .done _ service' _ => ∀ registry_cursor ∈ answers.registry_cursor,
    RebateService.TickDone chain answers (min answers.current_head registry_cursor) service service'
  | .failed _ _ _ | .crashed _ => True

/-- The registry is at the head, and one leg is confirmed. -/
def sample_confirmed : RebateTick where
  current_head := 0
  registry_cursor := some 0
  logs := []
  confirmed := [sample_accrual]
  has_unsettled _ := false
  snapshot := Snapshot.default
  program _ := []
  now_unix := 1

/-- There is no batch yet, so the ids of the tick are nobody's. -/
theorem sample_tick_allowed : Run.Along (RebateSystem.step sample_keccak256)
    (Allowed sample_keccak256 1) (fresh 0) ([.restart [] sample_reads] ++
      [.tick [] (.new 0 12000) ⟨1, 1, 3, 4⟩ ⟨1, 10, 60⟩ sample_ports sample_confirmed]) := by
  refine ⟨trivial, ⟨rfl, rfl, le_refl _, ⟨Snapshot.indexed_default, fun a signature h => ?_,
    fun _ => ?_, ?_⟩, ?_⟩, trivial⟩
  · obtain rfl := Option.some.inj h
    rfl
  · show ([] : Bytes).length < 2 ^ 64
    norm_num
  · intro key strategy caps token_in token_out c hstrategy
    cases hstrategy
  · have hopen : ∀ b, (reached sample_keccak256 0 [.restart [] sample_reads]).service.store.state_of b =
        none := fun _ => rfl
    have hmet : ∀ b, RebateService.Met sample_keccak256 sample_confirmed
        (reached sample_keccak256 0 [.restart [] sample_reads]).service b → b = ⟨1⟩ := by
      rintro b (⟨state, hstate⟩ | ⟨a, -, rfl⟩)
      · cases (hopen b).symm.trans hstate
      · rfl
    refine ⟨fun b _ => ?_, fun a b ha hb _ => (hmet a ha).trans (hmet b hb).symm, fun b _ =>
      ⟨fun a state hstate => ?_, fun r hr => ?_, fun r hr => ?_⟩⟩
    · show (1 : B256) ≠ 0
      decide
    · cases (hopen a).symm.trans hstate
    · cases hr
    · cases hr

end RebateSystem

end Solvent
