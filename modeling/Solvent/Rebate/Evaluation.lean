import Solvent.Rebate.Methods

/-! # What evaluating keeps

    A plan that clears the policy matches the batch it was made for, so that what is
    written of it loads again. The plan's reservation is the batch's own: nobody else
    has the id open when it is promised.
-/

namespace Solvent

open Abi BTreeMap Contract Process SqliteRebateStore

/-! ## The plan and its batch -/

theorem assess_direction_names {config : RebatePolicyConfig} {batch_id : RebateBatchId}
    {accruals : List RebateAccrual} {strategy : MakerStrategy}
    {requirements : List RebateRequirements} {d : Direction} {plan : RebatePlan}
    (h : assess_direction config batch_id accruals strategy requirements d = .ok (.Ready plan)) :
    plan.batch_id = batch_id ∧ plan.strategy = strategy.key := by
  unfold assess_direction at h
  split at h
  · cases h
  split at h
  · cases h
  obtain ⟨fill, -, h⟩ := Except.bind_eq_ok.mp h
  split at h
  · cases h
  split at h
  · cases h
  obtain ⟨amount_in, -, h⟩ := Except.bind_eq_ok.mp h
  obtain ⟨external, -, h⟩ := Except.bind_eq_ok.mp h
  split at h
  · cases h
  obtain ⟨required, -, h⟩ := Except.bind_eq_ok.mp h
  obtain ⟨gas, -, h⟩ := Except.bind_eq_ok.mp h
  split at h
  · cases h
  obtain ⟨profit, -, h⟩ := Except.bind_eq_ok.mp h
  obtain ⟨rebate, -, h⟩ := Except.bind_eq_ok.mp h
  split at h
  · cases h
  obtain ⟨allocations, -, h⟩ := Except.bind_eq_ok.mp h
  cases h
  exact ⟨rfl, rfl⟩

theorem TokenPair.new_comm (a b : Address) : TokenPair.new a b = TokenPair.new b a := by
  unfold TokenPair.new
  rw [min_comm, max_comm]

/-- A displaced side is a side of the market's pair. -/
theorem Direction.IsSide.pair {d : Direction} {strategy : MakerStrategy} {caps : AvailableSnapshot}
    {market : RebateMarket} (h : d.IsSide strategy caps market) :
    TokenPair.new d.candidate.token_in d.candidate.token_out =
      TokenPair.new market.token_a market.token_b := by
  have hrate := h.rate
  unfold RebateMarket.rate at hrate
  split at hrate
  · obtain ⟨hout, hin⟩ := ‹_ ∧ _›
    rw [hout, hin, TokenPair.new_comm]
  split at hrate
  · obtain ⟨hout, hin⟩ := ‹d.candidate.token_out = market.token_b ∧ _›
    rw [hout, hin]
  · cases hrate

/-- The trades of a batch, in order. -/
theorem trades_eq_keys {batch : RebateBatch} (hlegs : ValidLegs batch) :
    (BTreeMap.values batch.accruals).map (·.trade_id) = batch.accruals.toList.map Prod.fst := by
  unfold BTreeMap.values
  rw [List.map_map]
  refine List.map_congr_left fun e he => ?_
  exact hlegs.keyed e.1 e.2 (Std.ExtTreeMap.mem_toList_iff_getElem?_eq_some.mp he)

/-- A sum that is a word is summed without overflow. -/
theorem checked_sum {amounts : List RebateAllocation} :
    ∀ {start total : U256}, start.val + (amounts.map (·.amount.val)).sum = total.val →
      amounts.foldlM (fun sum allocation => sum.checked_add allocation.amount) start = some total := by
  induction amounts with
  | nil =>
    intro start total h
    rw [List.map_nil, List.sum_nil, Nat.add_zero] at h
    exact congrArg some (Fin.ext h)
  | cons allocation amounts ih =>
    intro start total h
    rw [List.map_cons, List.sum_cons] at h
    have hlt : start.val + allocation.amount.val < 2 ^ 256 := by
      have htotal := total.isLt
      omega
    have hstep : start.checked_add allocation.amount = some ⟨_, hlt⟩ :=
      U256.checked_add_eq_some.mpr rfl
    rw [List.foldlM_cons, hstep]
    exact ih (by simp only; omega)

/-- **A plan matches its batch**, where outputs are never free and every rebate is
    worth something. -/
theorem assess_plan_matches {config : RebatePolicyConfig} {batch : RebateBatch}
    {strategy : MakerStrategy} {caps : AvailableSnapshot} {market : RebateMarket}
    {requirements : List RebateRequirements} {plan : RebatePlan} (hlegs : ValidLegs batch)
    (hkey : batch.strategy = strategy.key)
    (hminimums : ∀ r ∈ requirements, r.minimum_maker_rebate ≠ 0)
    (hpriced : ∀ token_in token_out c, build_pricing_candidate strategy caps token_in token_out = some c →
      ∀ o, o ≠ 0 → c.net_quote_exact_out o ≠ .ok 0)
    (h : assess config batch.id ((BTreeMap.values batch.accruals).map MinedAccrual.toRebateAccrual)
      strategy caps market requirements = .ok (.Ready plan)) :
    plan_matches_batch plan batch = true ∧ plan.strategy = strategy.key := by
  obtain ⟨d, fill, hbest, hfunded⟩ := assess_ready h
  have hside := best_direction_side hbest
  unfold assess at h
  split at h
  · cases h
  split at h
  · cases h
  rename_i pair hpair
  split at h
  · cases h
  rename_i hpairs
  split at h
  · cases h
  rename_i hmarket
  rw [hbest] at h
  obtain ⟨hbatch_id, hstrategy⟩ := assess_direction_names h
  simp only [not_or, not_not] at hmarket
  -- Some leg gives the batch its pair, which is the strategy's and the market's.
  have hpair_eq : batch.pair = pair := by
    obtain ⟨e, he⟩ : ∃ e, e ∈ batch.accruals.toList := by
      refine List.exists_mem_of_ne_nil _ fun hnil => ?_
      have hempty := Std.ExtTreeMap.isEmpty_toList (t := batch.accruals)
      rw [hnil, hlegs.nonempty] at hempty
      cases hempty
    have hget := Std.ExtTreeMap.mem_toList_iff_getElem?_eq_some.mp he
    obtain ⟨-, -, hleg, -⟩ := accrual_belongs_iff.mp (hlegs.belong e.1 e.2 hget)
    rw [← hleg]
    by_contra hne
    refine hpairs (List.any_eq_true.mpr ⟨e.2.toRebateAccrual, List.mem_map.mpr
      ⟨e.2, mem_values.mpr ⟨e.1, hget⟩, rfl⟩, decide_eq_true hne⟩)
  have happortioned := allocate_apportions hfunded.allocated
  have htrades : plan.allocations.map (·.trade_id) = batch.accruals.toList.map Prod.fst := by
    rw [happortioned.one_each, List.map_map]
    exact trades_eq_keys hlegs
  have hdistinct : (plan.allocations.map (·.trade_id)).Pairwise
      fun a b => ¬compare a b = Ordering.eq := by
    rw [htrades, List.pairwise_map]
    exact Std.ExtTreeMap.distinct_keys_toList
  have hsize : (allocation_trades plan).size = plan.allocations.length :=
    (Std.ExtTreeSet.size_ofList hdistinct).trans (List.length_map _)
  have hlength : plan.allocations.length = batch.accruals.size := by
    rw [← Std.ExtTreeMap.length_toList, ← List.length_map (f := Prod.fst), ← htrades, List.length_map]
  obtain ⟨required, hrequired, -, hrebate, -⟩ := hfunded.minimums
  refine ⟨?_, hstrategy⟩
  unfold plan_matches_batch
  refine decide_eq_true ⟨hbatch_id, hstrategy.trans hkey.symm, ?_, ?_, ?_, ?_, hsize,
    hsize.trans hlength, fun trade htrade => ?_, ?_⟩
  · rw [hfunded.token_in, hfunded.token_out, hside.pair, hpair_eq, hmarket.1]
  · intro hfree
    refine hpriced _ _ _ hside.candidate fill.amount_out hfunded.output ?_
    rw [hfunded.amount_in, hfree]
  · rw [hfunded.amount_out]
    exact hfunded.output
  · intro hzero
    rw [hzero] at hrebate
    refine hminimums required (List.mem_of_find?_eq_some hrequired) (Fin.ext ?_)
    exact Nat.le_zero.mp (Fin.le_def.mp hrebate)
  · have hmem := Std.ExtTreeSet.mem_toList.mp htrade
    rw [allocation_trades, Std.ExtTreeSet.mem_ofList, List.contains_iff_mem, htrades] at hmem
    obtain ⟨e, he, rfl⟩ := List.mem_map.mp hmem
    rw [Std.ExtTreeMap.mem_toList_iff_getElem?_eq_some.mp he]
    rfl
  · exact checked_sum ((Nat.zero_add _).trans happortioned.conserved)

/-- Every requirement keeps a minimum it was asked for. -/
theorem requirements_minimums {config : RebateServiceConfig} {ports : RebatePorts} {pair : TokenPair}
    {gas_native : U256} {minimums : List RebateMinimums} :
    ∀ {requirements : List RebateRequirements},
      minimums.mapM (requirement config ports pair gas_native) = .ok requirements →
      ∀ r ∈ requirements, ∃ m ∈ minimums, r.minimum_maker_rebate = m.minimum_maker_rebate := by
  induction minimums with
  | nil =>
    intro requirements h r hr
    rw [List.mapM_nil] at h
    cases h
    cases hr
  | cons minimum minimums ih =>
    intro requirements h r hr
    rw [List.mapM_cons] at h
    obtain ⟨first, hfirst, h⟩ := bind_eq_ok.mp h
    obtain ⟨rest, hrest, h⟩ := bind_eq_ok.mp h
    cases h
    rcases List.mem_cons.mp hr with rfl | hr
    · obtain ⟨-, hfirst⟩ := require_bind.mp hfirst
      obtain ⟨gas_cost, -, hfirst⟩ := bind_eq_ok.mp hfirst
      cases hfirst
      exact ⟨minimum, List.mem_cons_self, rfl⟩
    · obtain ⟨m, hm, heq⟩ := ih hrest r hr
      exact ⟨m, List.mem_cons_of_mem _ hm, heq⟩

namespace RebateService

variable {keccak256 : Bytes → B256} {F : Frame} {s s' : RebateService} {key : StrategyKey} {batch : RebateBatch}
  {id : ReservationId} {allowed : Option (Process.Fault RebateServiceError) → Prop} {α : Type}
  {policy : RebatePolicyConfig} {config : RebateServiceConfig} {ports : RebatePorts}
  {input : RebateEvaluationInput}

/-- What an evaluation relies on: the signer's 65 bytes, a program that fits in
    memory, a reservation id that is a hash, rebates worth something, and curves that
    give no output away. -/
structure Publishable (ports : RebatePorts) (input : RebateEvaluationInput) : Prop where
  signature : ∀ a signature, ports.authorize a = some signature → signature.length = 65
  program : input.program.length < 2 ^ 64
  reservation : input.reservation_id.hash ≠ 0
  minimums : ∀ m ∈ input.minimums, m.minimum_maker_rebate ≠ 0
  priced : ∀ token_in token_out c,
    build_pricing_candidate input.strategy input.caps token_in token_out = some c →
      ∀ o, o ≠ 0 → c.net_quote_exact_out o ≠ .ok 0

/-- Nobody but the batch has the id open. -/
structure Unclaimed (s : RebateService) (id : ReservationId) (b : RebateBatchId) : Prop where
  alone : ∀ a st, s.store.state_of a = some st → st.active_reservation = some id → a = b
  held : ∀ r, s.ledger.held id = some r → r.owner = .Rebate b
  stored : ∀ r, s.ledger.stored id = some r → r.owner = .Rebate b

theorem Unclaimed.undone {b : RebateBatchId} (h : Unclaimed s id b) (hundone : Undone b s s') :
    Unclaimed s' id b where
  alone a st hst hid := by
    by_contra hne
    rw [hundone.states a hne] at hst
    exact hne (h.alone a st hst hid)
  held r hr := h.held r (hundone.held id r hr)
  stored r hr := h.stored r (hundone.stored id r hr)

/-- The ready plan of an evaluation matches the batch. -/
theorem assess_batch_matches (hpublishable : Publishable ports input) (hlegs : ValidLegs batch)
    (hkey : batch.strategy = input.strategy.key) {plan : RebatePlan}
    (h : assess_batch policy config ports input batch = .ok (.Ready plan)) :
    plan_matches_batch plan batch = true ∧ plan.strategy = input.strategy.key := by
  obtain ⟨⟨market, requirements⟩, heconomics, h⟩ := bind_eq_ok.mp h
  obtain ⟨pair, -, heconomics⟩ := expect_bind.mp heconomics
  obtain ⟨market', -, heconomics⟩ := bind_eq_ok.mp heconomics
  obtain ⟨gas_price, -, heconomics⟩ := bind_eq_ok.mp heconomics
  obtain ⟨gas_native, -, heconomics⟩ := expect_bind.mp heconomics
  obtain ⟨requirements', hrequirements, heconomics⟩ := bind_eq_ok.mp heconomics
  cases heconomics
  refine assess_plan_matches hlegs hkey (fun r hr => ?_) hpublishable.priced (bubble_eq_ok.mp h)
  obtain ⟨m, hm, heq⟩ := requirements_minimums hrequirements r hr
  rw [heq]
  exact hpublishable.minimums m hm

/-! ## Publishing -/

/-- The ledger's budgets may change, its open reservations do not. -/
theorem Consistent.same_holds (h : Consistent keccak256 F s) {ledger : LedgerService}
    (hsame : ∀ k, LedgerService.SameAt k s.ledger ledger) :
    Consistent keccak256 F { s with ledger } := by
  have hkeyed : ledger.ledger.Keyed := fun k r hr => h.keyed k r ((hsame k).memory.symm.trans hr)
  have hstored : ledger.stored = s.ledger.stored := funext fun k => (hsame k).stored
  have hheld : ledger.held = s.ledger.held := funext fun k => (hsame k).held
  refine ⟨⟨h.tables, ?_⟩, h.calm, ⟨h.unclaiming.names, ?_, ?_⟩, ?_, h.loaded, h.guarded, ?_, ?_, hkeyed⟩
  · rw [hstored]
    exact h.promised
  · rw [hheld]
    exact h.unclaiming.held
  · rw [hstored]
    exact h.unclaiming.stored
  · rw [hstored]
    exact h.mirrors
  · rw [hstored, hheld]
    exact h.agree
  · rw [hheld]
    exact h.owned_held

/-- A state that names no reservation and is not published has no hold. -/
theorem idle_of_evaluated {state : RebateBatchState} (h : interrupted state = none)
    (hready : state.is_ready = false) : state.active_reservation = none := by
  cases state with
  | Accumulating => rfl
  | Guarded => rfl
  | Preparing plan reservation => cases h
  | Ready execution => cases hready
  | Invalidating reservation => cases h

/-- A batch in memory that is preparing is preparing in the table. -/
theorem Consistent.preparing (h : Consistent keccak256 F s) (hbatch : s.batches[key]? = some batch)
    {plan : RebatePlan} (hstate : batch.state = .Preparing plan id) :
    s.store.state_of batch.id = some (.Preparing plan id) := by
  obtain ⟨state, hof, hlags⟩ := (h.mirrors key batch hbatch).state_of
  rw [hstate] at hlags
  cases hlags
  exact hof

/-- **A refused hold leaves nothing to undo.** -/
theorem wp_refuse {plan : RebatePlan} (h : Consistent keccak256 F s)
    (hbatch : s.batches[input.strategy.key]? =
      some (batch.enter (.Preparing plan input.reservation_id)))
    (hguard : input.strategy.key ∈ s.guards) (hgone : s.ledger.stored input.reservation_id = none)
    (e : RebateServiceError) :
    wp allowed (refuse input batch plan e)
      (Keeps keccak256 F fun _ s' => Consistent keccak256 F s') s := by
  unfold refuse
  split
  · exact wp_undo h hbatch rfl (h.preparing hbatch rfl) rfl hgone hguard
      fun s' hs' _ _ _ => wp_pure hs'
  · exact wp_lift (fun _ h => by cases h) fun _ _ => h

/-- **Work is exposed with its hold**, or the hold is given back. -/
theorem wp_expose {plan : RebatePlan} {r : Reservation} (h : Consistent keccak256 F s)
    (hpublishable : Publishable ports input)
    (hpublishes : ∀ execution, FillerRebateCallBuilder.Publishes keccak256 plan input.reservation_id
      input.deadline_block execution → F.publishes execution)
    (hbatch : s.batches[input.strategy.key]? =
      some (batch.enter (.Preparing plan input.reservation_id)))
    (hguard : input.strategy.key ∈ s.guards)
    (hplan : plan_matches_batch plan batch = true) (hstrategy : plan.strategy = input.strategy.key)
    (hheld : s.ledger.held input.reservation_id = some r)
    (hstored : s.ledger.stored input.reservation_id = some r) (howner : r.owner = .Rebate batch.id)
    (hsources : r.sources = [plan.source input.strategy.key]) :
    wp allowed (expose keccak256 config ports input batch plan)
      (Keeps keccak256 F fun _ s' => Consistent keccak256 F s') s := by
  have hstate := h.preparing hbatch rfl
  have hmirrors := h.mirrors _ _ hbatch
  have hlegs := h.valid_legs hbatch
  have hunsettled := h.unsettled hbatch rfl
  have hrelease : ∀ {Q : Unit → RebateService → Prop}, (∀ ledger,
      LedgerService.Closes input.reservation_id s.ledger ledger →
        Consistent keccak256 F { s with ledger } → Q () { s with ledger }) →
      wp allowed (release_if_held input.reservation_id) (Keeps keccak256 F Q) s := by
    intro Q hdone
    exact wp_release h hstate rfl nofun hdone
  unfold expose
  cases hbuild : FillerRebateCallBuilder.build keccak256 config.taker_credential ports.authorize
      input.strategy.key input.program plan input.reservation_id input.deadline_block
      input.published_at with
  | error e =>
    refine wp_bind (hrelease fun ledger hcloses hreleased => ?_)
    exact wp_undo hreleased hbatch rfl hstate rfl hcloses.stored hguard fun s' hs' _ _ _ =>
      wp_lift (fun _ h => by cases h) fun _ _ => hs'
  | ok execution =>
    have hpublishes' := FillerRebateCallBuilder.build_publishes hpublishable.signature
      hpublishable.program hbuild
    have hbatch_id : plan.batch_id = batch.id ∧ plan.strategy = batch.strategy := by
      unfold plan_matches_batch at hplan
      rw [decide_eq_true_eq] at hplan
      exact ⟨hplan.1, hplan.2.1⟩
    refine wp_bind (wp_attempt (wp_transact (fun store hstore => ?_) (fun e _ => ?_) (fun _ e => ?_)
      fun _ => h))
    · refine wp_bind (wp_modify (wp_pure ?_))
      refine h.save hstore ?_ ?_ (fun k hk => ?_) (fun row hrow t a ha => ?_)
        hunsettled
        (.inr fun execution hnow => by cases hstate.symm.trans hnow) (.inr ⟨_, hstate⟩)
        (fun ex hex => ?_) (fun k hk => .inr ⟨_, hstate, ?_⟩) (fun _ => hmirrors.key.symm ▸ hguard)
        (fun k r' hr' howner' => ?_) (fun k r' hk hr' => ?_) (fun k hk => ?_) (fun ex hex => ?_)
        rfl rfl rfl fun k => ?_
      · refine validate_batch_ok.mpr ⟨⟨hlegs.nonempty, hlegs.belong⟩, fun p hp => ?_, fun ex hex => ?_⟩
        · obtain rfl := Option.some.inj hp
          rw [hpublishes'.plan_eq]
          exact hplan
        · obtain rfl := RebateBatchState.Ready.inj hex
          exact hpublishes'.matches_batch _ hbatch_id.1 hbatch_id.2
      · show (stored_execution keccak256 execution).map RebateBatchState.Ready = _
        rw [hpublishes'.loads]
        rfl
      · obtain rfl := Option.some.inj hk
        rw [hpublishes'.reservation_eq]
        exact hpublishable.reservation
      · rwa [h.row_legs hbatch hrow] at ha
      · obtain rfl := RebateBatchState.Ready.inj hex
        exact hpublishes execution hpublishes'
      · obtain rfl := Option.some.inj hk
        rw [hpublishes'.reservation_eq]
        rfl
      · show some execution.reservation = some k
        rw [hpublishes'.reservation_eq]
        exact congrArg some (h.holds_only hbatch rfl hr' howner').symm
      · obtain rfl := Option.some.inj hk
        rw [hpublishes'.reservation_eq] at hr'
        obtain rfl := Option.some.inj (hstored.symm.trans hr')
        exact howner
      · obtain rfl := Option.some.inj hk
        rw [hpublishes'.reservation_eq]
        exact hheld.trans hstored.symm
      · obtain rfl := RebateBatchState.Ready.inj hex
        refine ⟨r, hpublishes'.reservation_eq ▸ hstored, ?_⟩
        rw [hpublishes'.plan_eq, hstrategy]
        exact hsources
      · have hkey : batch.strategy = input.strategy.key := hmirrors.key
        rw [get_insert, RebateBatch.enter_strategy, hkey]
        exact if_congr eq_comm rfl rfl
    all_goals
      exact wp_bind (hrelease fun ledger _ hreleased =>
        wp_lift (fun _ h => by cases h) fun _ _ => hreleased)

/-- **Publishing keeps the invariant.** -/
theorem wp_publish {plan : RebatePlan} (h : Consistent keccak256 F s)
    (hpublishable : Publishable ports input)
    (hpublishes : ∀ execution, FillerRebateCallBuilder.Publishes keccak256 plan input.reservation_id
      input.deadline_block execution → F.publishes execution)
    (hbatch : s.batches[input.strategy.key]? = some batch)
    (hready : batch.state.is_ready = false) (hidle : batch.state.active_reservation = none)
    (hplan : plan_matches_batch plan batch = true) (hstrategy : plan.strategy = input.strategy.key)
    (hclaims : F.claims batch.id input.reservation_id)
    (hunclaimed : Unclaimed s input.reservation_id batch.id) :
    wp allowed (publish keccak256 config ports input batch plan)
      (Keeps keccak256 F fun _ s' => Consistent keccak256 F s') s := by
  have hguarded := h.guard input.strategy.key
  have hmirrors := h.mirrors _ batch hbatch
  have hlegs := h.valid_legs hbatch
  have hmem : input.strategy.key ∈ s.guards.insert input.strategy.key :=
    (BTreeSet.mem_insert _).mpr (.inl rfl)
  -- The batch has no hold, so nobody has the id open at all.
  have hfree : s.ledger.stored input.reservation_id = none := by
    by_contra hsome
    obtain ⟨r, hr⟩ := Option.ne_none_iff_exists'.mp hsome
    exact h.unheld hbatch hidle hr (hunclaimed.stored r hr)
  have hunheld : s.ledger.held input.reservation_id = none := by
    by_contra hsome
    obtain ⟨r, hr⟩ := Option.ne_none_iff_exists'.mp hsome
    obtain ⟨st, hst, hid⟩ := h.owned_held _ r _ hr (hunclaimed.held r hr)
    cases ((h.agree _ st _ hst hid).symm.trans hr).symm.trans hfree
  have hinsert : ∀ (next : RebateBatch) (k : StrategyKey),
      (s.batches.insert input.strategy.key next)[k]? =
        if k = input.strategy.key then some next else s.batches[k]? := by
    intro next k
    rw [get_insert]
    exact if_congr eq_comm rfl rfl
  refine wp_bind (wp_modify (wp_save_put hguarded fun store hstore => ?_))
  have hvalid : validate_batch (batch.enter (.Preparing plan input.reservation_id)) = .ok () := by
    refine validate_batch_ok.mpr ⟨⟨hlegs.nonempty, hlegs.belong⟩, fun p hp => ?_, nofun⟩
    obtain rfl := Option.some.inj hp
    exact hplan
  have hnonzero : ∀ k, (RebateBatchState.Preparing plan input.reservation_id).active_reservation =
      some k → k.hash ≠ 0 := by
    intro k hk
    obtain rfl := Option.some.inj hk
    exact hpublishable.reservation
  have hkept : ∀ row, s.store.rebate_batch[batch.id]? = some row →
      ∀ (t : TradeId) (a : MinedAccrual), row.accruals[t]? = some a → batch.accruals[t]? = some a := by
    intro row hrow t a ha
    rwa [h.row_legs hbatch hrow] at ha
  have hunsettled := h.unsettled hbatch hready
  obtain ⟨-, hwrites⟩ := h.tables.save hstore hvalid rfl hnonzero hkept hunsettled
  have hpreparing : Consistent keccak256 F
      { s with
        guards := s.guards.insert input.strategy.key
        store
        batches := s.batches.insert input.strategy.key
          (batch.enter (.Preparing plan input.reservation_id)) } := by
    obtain ⟨state, hstate, -⟩ := hmirrors.state_of
    refine hguarded.save hstore hvalid rfl hnonzero hkept hunsettled
      (.inr fun execution hnow => hmirrors.not_ready hready hnow execution rfl) (.inr ⟨state, hstate⟩)
      nofun (fun k hk => .inl ?_) (fun _ => hmirrors.key.symm ▸ hmem)
      (fun k r hr howner => absurd howner (h.unheld hbatch hidle hr)) (fun k r hk hr => ?_)
      (fun k hk => ?_) nofun rfl rfl rfl (fun k => hmirrors.key.symm ▸ hinsert _ k)
    · obtain rfl := Option.some.inj hk
      exact hclaims
    · obtain rfl := Option.some.inj hk
      cases hfree.symm.trans hr
    · obtain rfl := Option.some.inj hk
      exact hunheld.trans hfree.symm
  have hin := (hinsert (batch.enter (.Preparing plan input.reservation_id))
    input.strategy.key).trans (if_pos rfl)
  have hanswer := LedgerService.reserve_rebate_cases s.ledger ports.reads input.reservation_id
    batch.id [plan.source input.strategy.key] input.reservation_ttl_secs
  refine wp_bind (wp_attempt (wp_command (fun ledger hledger => ?_) (fun e ledger hledger => ?_)
    (fun _ e => ?_) fun _ => hpreparing))
  · rcases hanswer with ⟨e, l, herror, -⟩ | ⟨l, r, hok, howner, hsources, hpending, hheld, hstored, hothers⟩
    · cases herror.symm.trans hledger
    obtain ⟨-, rfl⟩ := Prod.mk.inj (hok.symm.trans hledger)
    have hreserved := hpreparing.reserve (hpreparing.preparing hin rfl) (fun a st hst hid => ?_)
      (fun k other hother hid => ?_) howner hpending hclaims hheld hstored hothers ?_
    · exact wp_expose hreserved hpublishable hpublishes hin hmem hplan hstrategy hheld hstored howner
        hsources
    · by_contra hne
      have hsame : store.state_of a = s.store.state_of a := (hwrites.state_of a).trans (if_neg hne)
      exact hne (hunclaimed.alone a st (hsame.symm.trans hst) hid)
    · obtain rfl := hpreparing.key_of_id hin hother hid
      obtain rfl := Option.some.inj (hin.symm.trans hother)
      rfl
    · have hnext : (s.ledger.reserve_rebate ports.reads input.reservation_id batch.id
          [plan.source input.strategy.key] input.reservation_ttl_secs).2.ledger.Keyed :=
        LedgerService.keyed_next (.reserve_rebate _ _ _ _ _) h.keyed
      rwa [hok] at hnext
  · rcases hanswer with ⟨e', l, herror, hsame⟩ | ⟨l, r, hok, -⟩
    · obtain ⟨-, rfl⟩ := Prod.mk.inj (herror.symm.trans hledger)
      exact wp_refuse (hpreparing.same_holds hsame) hin hmem ((hsame _).stored.trans hfree) _
    · cases hok.symm.trans hledger
  · exact wp_refuse hpreparing hin hmem hfree e

/-- What `evaluate` does with a batch that no execution is ready for. -/
def reassess (keccak256 : Bytes → B256) (policy : RebatePolicyConfig) (config : RebateServiceConfig)
    (ports : RebatePorts) (input : RebateEvaluationInput) (batch : RebateBatch) :
    Method RebateAssessment := do
  match ← lift (assess_batch policy config ports input batch) with
  | .Quoteable deviation_bps => do
    save (batch.enter .Accumulating)
    put input.strategy.key (batch.enter .Accumulating)
    unguard input.strategy.key
    pure (.Quoteable deviation_bps)
  | .Guarded deviation_bps => do
    guard input.strategy.key
    save (batch.enter .Guarded)
    put input.strategy.key (batch.enter .Guarded)
    pure (.Guarded deviation_bps)
  | .Ready plan => publish keccak256 config ports input batch plan

/-- **Evaluation keeps the invariant.** -/
theorem wp_evaluate (h : Consistent keccak256 F s) (hpublishable : Publishable ports input)
    (hpublishes : ∀ plan execution, FillerRebateCallBuilder.Publishes keccak256 plan
      input.reservation_id input.deadline_block execution → F.publishes execution)
    (hclaims : ∀ batch, s.batches[input.strategy.key]? = some batch →
      F.claims batch.id input.reservation_id)
    (hunclaimed : ∀ batch, s.batches[input.strategy.key]? = some batch →
      Unclaimed s input.reservation_id batch.id) :
    wp allowed (evaluate keccak256 policy config ports input)
      (Keeps keccak256 F fun _ s' => Consistent keccak256 F s') s := by
  refine wp_bind (wp_read (wp_bind (wp_lift (fun batch hbatch => ?_) fun _ _ => h)))
  rw [expect_eq_ok] at hbatch
  refine wp_bind (wp_finish_interrupted_transition h hbatch
    fun next s' hs' hin hnext hinterrupted hundone => ?_)
  have hid : next.id = batch.id := by rw [hnext]; rfl
  have hrest : next.state.is_ready = false →
      wp allowed (reassess keccak256 policy config ports input next)
        (Keeps keccak256 F fun _ s' => Consistent keccak256 F s') s' := by
    intro hready
    have hmirrors := hs'.mirrors _ next hin
    have hlegs := hs'.valid_legs hin
    have hidle := idle_of_evaluated hinterrupted hready
    have hinsert : ∀ (other : RebateBatch) (k : StrategyKey),
        (s'.batches.insert input.strategy.key other)[k]? =
          if k = input.strategy.key then some other else s'.batches[k]? := by
      intro other k
      rw [get_insert]
      exact if_congr eq_comm rfl rfl
    unfold reassess
    refine wp_bind (wp_lift (fun assessment hassessment => ?_) fun _ _ => hs')
    cases assessment with
    | Quoteable deviation_bps =>
      refine wp_save_put hs' fun store hstore => wp_bind (wp_modify (wp_pure ?_))
      have hsaved : Consistent keccak256 F
          { s' with
            store
            batches := s'.batches.insert input.strategy.key (next.enter .Accumulating) } :=
        hs'.save_planless hin hready hstore rfl hmirrors.key rfl ⟨hlegs.nonempty, hlegs.belong⟩ (fun _ _ ha => ha)
        (fun hne => absurd rfl hne)
        (fun k r hr howner => absurd howner (hs'.unheld hin hidle hr)) nofun rfl rfl rfl (hinsert _)
      refine hsaved.unguard fun other hother => ?_
      obtain rfl := Option.some.inj (((hinsert _ _).trans (if_pos rfl)).symm.trans hother)
      rfl
    | Guarded deviation_bps =>
      refine wp_bind (wp_modify (wp_save_put (hs'.guard _) fun store hstore => wp_pure ?_))
      exact (hs'.guard input.strategy.key).save_planless hin hready hstore rfl hmirrors.key rfl
        ⟨hlegs.nonempty, hlegs.belong⟩ (fun _ _ ha => ha)
        (fun _ => (BTreeSet.mem_insert _).mpr (.inl rfl))
        (fun k r hr howner => absurd howner (hs'.unheld hin hidle hr)) nofun rfl rfl rfl (hinsert _)
    | Ready plan =>
      obtain ⟨hplan, hstrategy⟩ := assess_batch_matches hpublishable hlegs hmirrors.key hassessment
      refine wp_publish hs' hpublishable (hpublishes plan) hin hready hidle hplan hstrategy ?_ ?_
      · rw [hid]
        exact hclaims batch hbatch
      · rw [hid]
        exact (hunclaimed batch hbatch).undone hundone
  cases hstate : next.state with
  | Ready execution => exact wp_pure hs'
  | _ =>
    rw [hstate] at hrest
    exact hrest rfl

end RebateService

end Solvent
