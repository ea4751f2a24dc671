import Solvent.Rebate.Consistent

/-! # What each method keeps

    Whatever calls fail and wherever the process dies, a method of the service keeps
    the invariant. Each proof walks the method's calls in order; between two of them
    the state is the one the table was last written to.
-/

namespace Solvent

open Abi BTreeMap Contract Process SqliteRebateStore

namespace RebateService

variable {keccak256 : Bytes → B256} {F : Frame} {s s' : RebateService} {key : StrategyKey} {batch : RebateBatch}
  {id : ReservationId} {allowed : Option (Process.Fault RebateServiceError) → Prop} {α : Type}

/-! ## Steps -/

theorem wp_transact {f : SqliteRebateStore → Except RebateStoreError SqliteRebateStore}
    {Q : Post RebateService RebateServiceError Unit}
    (hok : ∀ store, f s.store = .ok store → Q.done () { s with store })
    (herror : ∀ e, f s.store = .error e → Q.failed (.RebateStore e) s)
    (hfail : Faulty allowed → ∀ e, Q.failed e s) (hcrash : Faulty allowed → Q.crashed s) :
    wp allowed (transact f) Q s := by
  refine wp_call (fun a s' h => ?_) (fun e s' h => ?_) (fun e h => hfail ⟨_, h⟩ e) fun h => hcrash ⟨_, h⟩
  · cases hf : f s.store with
    | ok store =>
      rw [hf] at h
      cases h
      exact hok store hf
    | error e =>
      rw [hf] at h
      cases h
  · cases hf : f s.store with
    | ok store =>
      rw [hf] at h
      cases h
    | error e =>
      rw [hf] at h
      cases h
      exact herror e hf

theorem wp_query {f : SqliteRebateStore → Except RebateStoreError α}
    {Q : Post RebateService RebateServiceError α}
    (hok : ∀ a, f s.store = .ok a → Q.done a s)
    (herror : ∀ e, f s.store = .error e → Q.failed (.RebateStore e) s)
    (hfail : Faulty allowed → ∀ e, Q.failed e s) (hcrash : Faulty allowed → Q.crashed s) :
    wp allowed (query f) Q s := by
  refine wp_call (fun a s' h => ?_) (fun e s' h => ?_) (fun e h => hfail ⟨_, h⟩ e) fun h => hcrash ⟨_, h⟩
  · obtain ⟨hf, rfl⟩ := Prod.mk.inj h
    exact hok a (bubble_eq_ok.mp hf)
  · obtain ⟨hf, rfl⟩ := Prod.mk.inj h
    cases hfs : f s.store with
    | ok a =>
      rw [hfs] at hf
      cases hf
    | error e =>
      rw [hfs] at hf
      cases hf
      exact herror e hfs

theorem wp_command {f : LedgerService → Except SolventError Unit × LedgerService}
    {Q : Post RebateService RebateServiceError Unit}
    (hok : ∀ ledger, f s.ledger = (.ok (), ledger) → Q.done () { s with ledger })
    (herror : ∀ e ledger, f s.ledger = (.error e, ledger) → Q.failed (.Ledger e) { s with ledger })
    (hfail : Faulty allowed → ∀ e, Q.failed e s) (hcrash : Faulty allowed → Q.crashed s) :
    wp allowed (command f) Q s := by
  refine wp_call (fun a s' h => ?_) (fun e s' h => ?_) (fun e h => hfail ⟨_, h⟩ e) fun h => hcrash ⟨_, h⟩
  · obtain ⟨hf, rfl⟩ := Prod.mk.inj h
    exact hok _ (Prod.ext (bubble_eq_ok.mp hf) rfl)
  · obtain ⟨hf, rfl⟩ := Prod.mk.inj h
    cases hanswer : (f s.ledger).1 with
    | ok a =>
      rw [hanswer] at hf
      cases hf
    | error e =>
      rw [hanswer] at hf
      cases hf
      exact herror e _ (Prod.ext hanswer rfl)

/-- **A named hold is let go.** It is acted on if memory has it, and is gone after. -/
theorem wp_if_held {f : LedgerService → Except SolventError Unit × LedgerService}
    {Q : Post RebateService RebateServiceError Unit}
    (hagree : s.ledger.held id = s.ledger.stored id)
    (hpending : ∀ r, s.ledger.held id = some r → r.state = .Pending)
    (hact : ∀ r, s.ledger.held id = some r →
      ∃ ledger, f s.ledger = (.ok (), ledger) ∧ LedgerService.Closes id s.ledger ledger)
    (hdone : ∀ ledger, LedgerService.Closes id s.ledger ledger → Q.done () { s with ledger })
    (hfail : Faulty allowed → ∀ e, Q.failed e s) (hcrash : Faulty allowed → Q.crashed s) :
    wp allowed (if_held id (command f)) Q s := by
  refine wp_bind (wp_read ?_)
  dsimp only
  rw [LedgerService.reservation_sources_eq]
  cases hheld : s.ledger.held id with
  | none =>
    refine wp_pure (hdone s.ledger ⟨hheld, hagree.symm.trans hheld, fun k _ => .refl k _, fun h => h⟩)
  | some r =>
    rw [Option.filter_some, if_pos (decide_eq_true (hpending r hheld))]
    obtain ⟨ledger, hledger, hcloses⟩ := hact r hheld
    refine wp_command (fun l hl => ?_) (fun e l hl => ?_) hfail hcrash
    · obtain ⟨-, rfl⟩ := Prod.mk.inj (hledger.symm.trans hl)
      exact hdone ledger hcloses
    · cases hledger.symm.trans hl

/-! ## Postconditions -/

/-- The invariant wherever the method stops, and `Q` where it succeeds. -/
def Keeps (keccak256 : Bytes → B256) (F : Frame) (Q : α → RebateService → Prop) :
    Post RebateService RebateServiceError α where
  done := Q
  failed _ := Consistent keccak256 F
  crashed := Consistent keccak256 F

/-- A save that memory follows. -/
theorem wp_save_put {next : RebateBatch} {rest : Method α} {Q : α → RebateService → Prop}
    (h : Consistent keccak256 F s)
    (hok : ∀ store, s.store.save next = .ok store →
      wp allowed rest (Keeps keccak256 F Q)
        { s with
          store
          batches := s.batches.insert key next }) :
    wp allowed (do save next; put key next; rest) (Keeps keccak256 F Q) s := by
  refine wp_bind (wp_transact (fun store hstore => ?_) (fun _ _ => h) (fun _ _ => h) fun _ => h)
  exact wp_bind (wp_modify (hok store hstore))

/-- **A hold whose batch is being undone is released.** -/
theorem wp_release {Q : Unit → RebateService → Prop} (h : Consistent keccak256 F s) {b : RebateBatchId}
    {state : RebateBatchState} (hstate : s.store.state_of b = some state)
    (hid : state.active_reservation = some id) (hready : ∀ execution, state ≠ .Ready execution)
    (hdone : ∀ ledger, LedgerService.Closes id s.ledger ledger →
      Consistent keccak256 F { s with ledger } → Q () { s with ledger }) :
    wp allowed (release_if_held id) (Keeps keccak256 F Q) s := by
  refine wp_if_held (h.agree b state id hstate hid)
    (fun r hr => (h.held_named hstate hid hr).2.2) (fun r hr => LedgerService.void_closes hr)
    (fun ledger hcloses => hdone ledger hcloses (h.release hcloses fun a execution ha hk => ?_))
    (fun _ _ => h) fun _ => h
  refine .inr ?_
  by_contra hsome
  obtain ⟨r, hr⟩ := Option.ne_none_iff_exists'.mp hsome
  obtain rfl := h.promised.unique hr ha (congrArg some hk) hstate hid
  exact hready execution (Option.some.inj (hstate.symm.trans ha))

/-! ## Undoing a transition -/

/-- A batch that is not published is not being settled. -/
theorem Consistent.unsettled (h : Consistent keccak256 F s) (hbatch : s.batches[key]? = some batch)
    (hready : batch.state.is_ready = false) : s.store.rebate_settlement[batch.id]? = none := by
  have hmirrors := h.mirrors key batch hbatch
  obtain ⟨state, hstate, -⟩ := hmirrors.state_of
  exact h.tables.settlement_none hstate fun execution => hmirrors.not_ready hready hstate execution

/-- The row of a batch in memory has its legs. -/
theorem Consistent.row_legs (h : Consistent keccak256 F s) (hbatch : s.batches[key]? = some batch)
    {row : BatchRow} (hrow : s.store.rebate_batch[batch.id]? = some row) :
    row.accruals = batch.accruals := by
  obtain ⟨-, row', state, hrow', -, heq, -⟩ := h.mirrors key batch hbatch
  obtain rfl := Option.some.inj (hrow'.symm.trans hrow)
  exact congrArg RebateBatch.accruals heq

/-- A batch in memory has valid legs. -/
theorem Consistent.valid_legs (h : Consistent keccak256 F s) (hbatch : s.batches[key]? = some batch) :
    ValidLegs batch := by
  obtain ⟨-, row, state, hrow, -, heq, -⟩ := h.mirrors key batch hbatch
  have hlegs := h.tables.legs _ row hrow
  rw [← heq]
  exact ⟨hlegs.nonempty, hlegs.belong⟩

/-- A state that carries no plan is always valid. -/
theorem validate_of_legs (hlegs : ValidLegs batch) (hplan : batch.state.plan = none) :
    validate_batch batch = .ok () := by
  refine validate_batch_ok.mpr ⟨hlegs, fun plan h => ?_, fun execution h => ?_⟩
  · rw [hplan] at h
    cases h
  · rw [h] at hplan
    cases hplan

theorem stored_state_of_plan {state : RebateBatchState} (hplan : state.plan = none) :
    stored_state keccak256 state = .ok state := by
  cases state with
  | Ready execution => cases hplan
  | _ => rfl

theorem is_ready_of_plan {state : RebateBatchState} (hplan : state.plan = none)
    (execution : RebateExecution) : state ≠ .Ready execution := by
  rintro rfl
  cases hplan

/-- **A state without a plan is saved**, with the legs the batch has and more. -/
theorem Consistent.save_planless (h : Consistent keccak256 F s) (hbatch : s.batches[key]? = some batch)
    (hready : batch.state.is_ready = false) {next : RebateBatch} {store : SqliteRebateStore}
    (hsave : s.store.save next = .ok store) (hid : next.id = batch.id) (hkey : next.strategy = key)
    (hplan : next.state.plan = none) (hvalid : ValidLegs next)
    (hlegs : ∀ (t : TradeId) (a : MinedAccrual), batch.accruals[t]? = some a →
      next.accruals[t]? = some a)
    (hguard : next.state ≠ .Accumulating → key ∈ s.guards)
    (hkeeps : ∀ id r, s.ledger.stored id = some r → r.owner = .Rebate batch.id →
      next.state.active_reservation = some id)
    (hnames : ∀ id state, next.state.active_reservation = some id →
      s.store.state_of batch.id = some state → state.active_reservation = some id)
    (hstore : s'.store = store) (hledger : s'.ledger = s.ledger) (hguards : s'.guards = s.guards)
    (hbatches : ∀ k : StrategyKey, s'.batches[k]? = if k = key then some next else s.batches[k]?) :
    Consistent keccak256 F s' := by
  obtain ⟨state, hstate, -⟩ := (h.mirrors key batch hbatch).state_of
  subst hkey
  refine h.save hsave (validate_of_legs hvalid hplan) (stored_state_of_plan hplan)
    (fun id hactive => h.tables.reservations _ state id hstate (hnames id state hactive hstate))
    (fun row hrow t a ha => ?_) (hid ▸ h.unsettled hbatch hready)
    (.inr fun execution hnow => (h.mirrors _ batch hbatch).not_ready hready (hid ▸ hnow) execution rfl)
    (.inr ⟨state, hid ▸ hstate⟩) (fun execution hexecution => absurd hexecution (is_ready_of_plan hplan execution))
    (fun id hactive => .inr ⟨state, hid ▸ hstate, hnames id state hactive hstate⟩) hguard
    (hid ▸ hkeeps)
    (fun id r hactive hr => ?_) (fun id hactive => h.agree _ state id hstate (hnames id state hactive hstate))
    (fun execution hexecution => absurd hexecution (is_ready_of_plan hplan execution))
    hstore hledger hguards hbatches
  · rw [h.row_legs hbatch (hid ▸ hrow)] at ha
    exact hlegs t a ha
  · rw [hid]
    exact h.promised.named _ state id r hstate (hnames id state hactive hstate) hr

/-- What an undone transition leaves of the other batches and the holds. -/
structure Undone (b : RebateBatchId) (s s' : RebateService) : Prop where
  states : ∀ a, a ≠ b → s'.store.state_of a = s.store.state_of a
  stored : ∀ id r, s'.ledger.stored id = some r → s.ledger.stored id = some r
  held : ∀ id r, s'.ledger.held id = some r → s.ledger.held id = some r

/-- **The undoing of an interrupted transition**, once its hold is gone. -/
theorem wp_undo {rest : Method α} {Q : α → RebateService → Prop} (h : Consistent keccak256 F s)
    (hbatch : s.batches[key]? = some batch) {next : RebateBatch} (hnext : batch.enter .Guarded = next)
    {state : RebateBatchState} (hstate : s.store.state_of batch.id = some state)
    (hinterrupted : interrupted state = some id) (hgone : s.ledger.stored id = none)
    (hguard : key ∈ s.guards)
    (hrest : ∀ s', Consistent keccak256 F s' → s'.batches[key]? = some next →
      s'.ledger = s.ledger → (∀ a, a ≠ batch.id → s'.store.state_of a = s.store.state_of a) →
      wp allowed rest (Keeps keccak256 F Q) s') :
    wp allowed (do put key next; save next; rest) (Keeps keccak256 F Q) s := by
  subst hnext
  have hput := h.put hbatch hstate (.guarded id hinterrupted hgone) fun _ => hguard
  have hin : (s.batches.insert key (batch.enter .Guarded))[key]? = some (batch.enter .Guarded) :=
    (get_insert _ _ _ _).trans (if_pos rfl)
  refine wp_bind (wp_modify (wp_bind (wp_transact (fun store hstore => ?_) (fun _ _ => hput)
    (fun _ _ => hput) fun _ => hput)))
  have hkey := (h.mirrors key batch hbatch).key
  have hlegs := hput.valid_legs hin
  have hconsistent : Consistent keccak256 F
      { s with
        store
        batches := s.batches.insert key (batch.enter .Guarded) } := by
    refine hput.save_planless hin rfl hstore rfl hkey rfl hlegs (fun _ _ ha => ha) (fun _ => hguard)
      (fun k r hr howner => ?_) (fun _ _ hactive => ?_) rfl rfl rfl fun k => ?_
    · exact absurd howner (hput.unheld hin rfl hr)
    · cases hactive
    · by_cases hk : k = key
      · rw [if_pos hk, hk]
        exact hin
      · rw [if_neg hk]
  · refine hrest _ hconsistent hin rfl fun a ha => ?_
    obtain ⟨-, hwrites⟩ := hput.tables.save hstore (validate_of_legs hlegs rfl) rfl nofun
      (fun row hrow t a ha => by rw [hput.row_legs hin hrow] at ha; exact ha)
      (hput.unsettled hin rfl)
    exact (hwrites.state_of a).trans (if_neg ha)

/-- The batch has nothing to undo. -/
theorem interrupted_of_lags {stored : ReservationId → Option Reservation}
    {row memory : RebateBatchState} (h : Lags stored row memory)
    (hinterrupted : RebateService.interrupted memory = some id) :
    RebateService.interrupted row = some id := by
  cases h with
  | same => exact hinterrupted
  | invalidating id' h =>
    obtain rfl := Option.some.inj hinterrupted
    exact h
  | guarded id' h => cases hinterrupted

theorem wp_finish_interrupted_transition {Q : RebateBatch → RebateService → Prop}
    (h : Consistent keccak256 F s) (hbatch : s.batches[key]? = some batch)
    (hdone : ∀ next s', Consistent keccak256 F s' → s'.batches[key]? = some next →
      next = batch.enter next.state → interrupted next.state = none → Undone batch.id s s' →
      Q next s') :
    wp allowed (finish_interrupted_transition key batch) (Keeps keccak256 F Q) s := by
  have hmirrors := h.mirrors key batch hbatch
  obtain ⟨row_state, hstate, hlags⟩ := hmirrors.state_of
  unfold finish_interrupted_transition
  cases hinterrupted : interrupted batch.state with
  | none =>
    exact wp_pure (hdone batch s h hbatch rfl hinterrupted
      ⟨fun _ _ => rfl, fun _ _ h => h, fun _ _ h => h⟩)
  | some reservation =>
    have hrow := interrupted_of_lags hlags hinterrupted
    have hready : batch.state.is_ready = false := by
      cases hs : batch.state <;> first | rfl | (rw [hs] at hinterrupted; cases hinterrupted)
    refine wp_bind (wp_modify ?_)
    rw [hmirrors.key]
    refine wp_bind (wp_release (h.guard key) hstate (active_of_interrupted hrow)
      (fun execution => hmirrors.not_ready hready hstate execution) fun ledger hcloses hreleased => ?_)
    refine wp_undo hreleased hbatch rfl hstate hrow hcloses.stored
      ((BTreeSet.mem_insert _).mpr (.inl rfl)) fun s' hs' hin hledger hothers => ?_
    refine wp_pure (hdone _ s' hs' hin rfl rfl ⟨hothers, fun k r hr => ?_, fun k r hr => ?_⟩)
    · rw [hledger] at hr
      by_cases hk : k = reservation
      · rw [hk, hcloses.stored] at hr
        cases hr
      · exact (hcloses.others k hk).stored.symm.trans hr
    · rw [hledger] at hr
      by_cases hk : k = reservation
      · rw [hk, hcloses.held] at hr
        cases hr
      · exact (hcloses.others k hk).held.symm.trans hr

/-! ## Intake -/

/-- A batch in memory has its legs in the table. -/
theorem Consistent.has_leg (h : Consistent keccak256 F s) (hbatch : s.batches[key]? = some batch)
    {accrual : MinedAccrual} (hleg : batch.accruals[accrual.trade_id]? = some accrual) :
    s.store.has_leg batch.id accrual := by
  obtain ⟨-, row, state, hrow, -⟩ := h.mirrors key batch hbatch
  exact ⟨row, hrow, (h.row_legs hbatch hrow).symm ▸ hleg⟩

theorem first_batch_legs {accrual : MinedAccrual} (h : validate_accrual accrual = .ok ()) :
    ValidLegs (first_batch keccak256 accrual) := by
  have hget : ∀ t : TradeId, (first_batch keccak256 accrual).accruals[t]? =
      if accrual.trade_id = t then some accrual else none := by
    intro t
    refine (get_insert _ _ _ _).trans ?_
    rw [Std.ExtTreeMap.getElem?_empty]
  refine ⟨?_, fun t a ha => ?_⟩
  · show ((∅ : BTreeMap TradeId MinedAccrual).insert accrual.trade_id accrual).isEmpty = false
    exact Std.ExtTreeMap.isEmpty_eq_false_iff.mpr Std.ExtTreeMap.insert_ne_empty
  · rw [hget] at ha
    split at ha
    · obtain rfl := Option.some.inj ha
      exact accrual_belongs_iff.mpr ⟨Eq.symm ‹_›, rfl, rfl, h⟩
    · cases ha

/-- **A leg opens its strategy's batch.** -/
theorem wp_open_batch {accrual : MinedAccrual} (h : Consistent keccak256 F s)
    (hopens : F.opens (batch_id keccak256 accrual)) (hbatch : s.batches[accrual.strategy]? = none)
    (hvalid : validate_accrual accrual = .ok ()) :
    wp allowed (open_batch keccak256 accrual)
      (Keeps keccak256 F fun b s' => Consistent keccak256 F s' ∧ s'.store.has_leg b accrual) s := by
  have hguarded := h.guard accrual.strategy
  have hlegs : ValidLegs (first_batch keccak256 accrual) := first_batch_legs hvalid
  refine wp_bind (wp_modify (wp_bind (wp_attempt (wp_transact (fun store hstore => ?_) (fun e _ => ?_)
    (fun _ e => ?_) fun _ => hguarded))))
  · have hrow : s.store.rebate_batch[(first_batch keccak256 accrual).id]? = none := by
      obtain ⟨old, legs, hfinds, -⟩ := save_ok h.tables.schema hlegs.keyed hstore
      rcases hfinds with ⟨hnone, -⟩ | ⟨row, hrow, hkey, -, hopen, -⟩
      · exact hnone
      · obtain ⟨batch, hfound, -⟩ := h.loaded _ row hrow hopen
        rw [hkey] at hfound
        cases hbatch.symm.trans hfound
    have hstate : s.store.state_of (first_batch keccak256 accrual).id = none := by
      unfold SqliteRebateStore.state_of
      rw [hrow]
      rfl
    have hsettlement : s.store.rebate_settlement[(first_batch keccak256 accrual).id]? = none := by
      cases hentry : s.store.rebate_settlement[(first_batch keccak256 accrual).id]? with
      | none => rfl
      | some entry =>
        obtain ⟨-, -, row, hrow', -⟩ := h.tables.settlements _ entry hentry
        cases hrow.symm.trans hrow'
    have hleg : (first_batch keccak256 accrual).accruals[accrual.trade_id]? = some accrual :=
      (get_insert _ _ _ _).trans (if_pos rfl)
    have hin : (s.batches.insert accrual.strategy (first_batch keccak256 accrual))[accrual.strategy]? =
        some (first_batch keccak256 accrual) := (get_insert _ _ _ _).trans (if_pos rfl)
    refine wp_bind (wp_modify (wp_pure ?_))
    refine (fun hsaved => ⟨hsaved, hsaved.has_leg hin hleg⟩) ?_
    refine hguarded.save hstore (validate_of_legs hlegs rfl) rfl nofun
      (fun row hrow' => by cases hrow.symm.trans hrow') hsettlement
      (.inr fun execution hnow => by cases hstate.symm.trans hnow) (.inl hopens) nofun nofun
      (fun _ => (BTreeSet.mem_insert _).mpr (.inl rfl)) (fun id r hr howner => ?_) nofun nofun nofun
      rfl rfl rfl fun k => ?_
    · obtain ⟨-, st, hst, -⟩ := h.promised.owned id r _ hr howner
      cases hstate.symm.trans hst
    · rw [get_insert]
      exact if_congr eq_comm rfl rfl
  all_goals
    refine wp_bind (wp_modify (wp_lift (fun _ h => by cases h) fun _ _ => ?_))
    refine hguarded.unguard fun batch hfound => ?_
    cases hbatch.symm.trans hfound

/-- What a batch has with one more leg of its pair. -/
theorem append_legs {accrual : MinedAccrual} (hlegs : ValidLegs batch)
    (hkey : batch.strategy = accrual.strategy)
    (hpair : batch.pair = TokenPair.new accrual.token_in accrual.token_out)
    (hvalid : validate_accrual accrual = .ok ()) : ValidLegs (batch.append accrual) := by
  refine ⟨Std.ExtTreeMap.isEmpty_eq_false_iff.mpr Std.ExtTreeMap.insert_ne_empty, fun t a ha => ?_⟩
  have hget : (batch.append accrual).accruals[t]? =
      if accrual.trade_id = t then some accrual else batch.accruals[t]? := get_insert _ _ _ _
  rw [hget] at ha
  split at ha
  · obtain rfl := Option.some.inj ha
    exact accrual_belongs_iff.mpr ⟨Eq.symm ‹_›, hkey.symm, hpair.symm, hvalid⟩
  · exact hlegs.belong t a ha

/-- **A leg joins its strategy's batch**, whose hold is given back first. -/
theorem wp_append_leg {accrual : MinedAccrual} (h : Consistent keccak256 F s)
    (hbatch : s.batches[accrual.strategy]? = some batch)
    (hnew : batch.accruals[accrual.trade_id]? = none)
    (hpair : batch.pair = TokenPair.new accrual.token_in accrual.token_out)
    (hready : batch.state.is_ready = false) (hvalid : validate_accrual accrual = .ok ()) :
    wp allowed (append_leg batch accrual)
      (Keeps keccak256 F fun b s' => Consistent keccak256 F s' ∧ s'.store.has_leg b accrual) s := by
  have hguarded := h.guard accrual.strategy
  have hmirrors := h.mirrors _ batch hbatch
  have hmem : accrual.strategy ∈ s.guards.insert accrual.strategy :=
    (BTreeSet.mem_insert _).mpr (.inl rfl)
  have hlegs := append_legs (h.valid_legs hbatch) hmirrors.key hpair hvalid
  have hkept : ∀ (t : TradeId) (a : MinedAccrual), batch.accruals[t]? = some a →
      (batch.append accrual).accruals[t]? = some a := by
    intro t a ha
    refine (get_insert_ne _ _ ?_).trans ha
    rintro rfl
    cases hnew.symm.trans ha
  have hinsert : ∀ (next : RebateBatch) (k : StrategyKey),
      (s.batches.insert accrual.strategy next)[k]? =
        if k = accrual.strategy then some next else s.batches[k]? := by
    intro next k
    rw [get_insert]
    exact if_congr eq_comm rfl rfl
  have hleg : (batch.append accrual).accruals[accrual.trade_id]? = some accrual :=
    (get_insert _ _ _ _).trans (if_pos rfl)
  refine wp_bind (wp_modify ?_)
  cases hactive : batch.state.active_reservation with
  | some reservation =>
    obtain ⟨state, hstate, -⟩ := hmirrors.state_of
    refine wp_save_put hguarded fun store hstore => ?_
    have hfirst : Consistent keccak256 F
        { s with
          guards := s.guards.insert accrual.strategy
          store
          batches := s.batches.insert accrual.strategy
            ((batch.append accrual).enter (.Invalidating reservation)) } :=
      hguarded.save_planless hbatch hready hstore rfl hmirrors.key rfl ⟨hlegs.nonempty, hlegs.belong⟩ hkept (fun _ => hmem)
      (fun k r hr howner => congrArg some (hguarded.holds_only hbatch hactive hr howner).symm)
      (fun k st hk hst => hmirrors.names (hk ▸ hactive) hst) rfl rfl rfl (hinsert _)
    have hin := (hinsert ((batch.append accrual).enter (.Invalidating reservation))
      accrual.strategy).trans (if_pos rfl)
    obtain ⟨state', hstate', hlags⟩ := (hfirst.mirrors _ _ hin).state_of
    refine wp_bind (wp_release hfirst hstate' ((hfirst.mirrors _ _ hin).names rfl hstate')
      (fun execution => (hfirst.mirrors _ _ hin).not_ready rfl hstate' execution)
      fun ledger hcloses hreleased => ?_)
    refine wp_save_put hreleased fun store' hstore' => wp_pure ?_
    refine (fun hsaved => ⟨hsaved, hsaved.has_leg ((get_insert _ _ _ _).trans (if_pos rfl)) hleg⟩) ?_
    refine hreleased.save_planless hin rfl hstore' rfl hmirrors.key rfl
      ⟨hlegs.nonempty, hlegs.belong⟩ (fun _ _ ha => ha) (fun _ => hmem) (fun k r hr howner => ?_)
      nofun rfl rfl rfl fun k => ?_
    · obtain rfl := hreleased.holds_only hin rfl hr howner
      cases hcloses.stored.symm.trans hr
    · rw [get_insert]
      exact if_congr eq_comm rfl rfl
  | none =>
    refine wp_bind (wp_attempt (wp_transact (fun store hstore => ?_) (fun e _ => ?_) (fun _ e => ?_)
      fun _ => hguarded))
    · refine wp_bind (wp_modify (wp_pure ?_))
      refine (fun hsaved => ⟨hsaved, hsaved.has_leg ((get_insert _ _ _ _).trans (if_pos rfl)) hleg⟩) ?_
      exact hguarded.save_planless hbatch hready hstore rfl hmirrors.key rfl
        ⟨hlegs.nonempty, hlegs.belong⟩ hkept (fun _ => hmem)
        (fun k r hr howner => absurd howner (hguarded.unheld hbatch hactive hr)) nofun rfl rfl rfl
        (hinsert _)
    all_goals
      unfold unguard_accumulating
      cases hstate : batch.state with
      | Accumulating =>
        refine wp_bind (wp_modify (wp_lift (fun _ h => by cases h) fun _ _ => ?_))
        rw [hmirrors.key]
        refine hguarded.unguard fun other hother => ?_
        obtain rfl := Option.some.inj (hbatch.symm.trans hother)
        exact hstate
      | _ => exact wp_bind (wp_pure (wp_lift (fun _ h => by cases h) fun _ _ => hguarded))

/-- **Intake keeps the invariant**, and an accepted leg is in the batch it reports. -/
theorem wp_accrue {accrual : MinedAccrual} (h : Consistent keccak256 F s)
    (hopens : F.opens (batch_id keccak256 accrual)) :
    wp allowed (accrue keccak256 accrual)
      (Keeps keccak256 F fun b s' => Consistent keccak256 F s' ∧ s'.store.has_leg b accrual) s := by
  refine wp_bind (wp_lift (fun _ hvalid => ?_) fun _ _ => h)
  refine wp_bind (wp_read ?_)
  dsimp only
  cases hbatch : s.batches[accrual.strategy]? with
  | none => exact wp_open_batch h hopens hbatch hvalid
  | some batch =>
    dsimp only
    cases hleg : batch.accruals[accrual.trade_id]? with
    | some existing =>
      refine wp_bind (wp_lift (fun _ hsame => ?_) fun _ _ => h)
      refine wp_bind (wp_finish_interrupted_transition h hbatch
        fun next s' hs' hin hnext _ _ => wp_pure ⟨hs', hs'.has_leg hin ?_⟩)
      obtain rfl := require_eq_ok.mp hsame
      rw [hnext]
      exact hleg
    | none =>
      refine wp_bind (wp_lift (fun _ hpair => ?_) fun _ _ => h)
      refine wp_bind (wp_lift (fun _ hready => ?_) fun _ _ => h)
      exact wp_append_leg h hbatch hleg (require_eq_ok.mp hpair) (require_eq_ok.mp hready) hvalid

end RebateService

end Solvent
