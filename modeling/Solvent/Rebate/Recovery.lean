import Solvent.Rebate.Settling

/-! # Recovery

    A restart begins with what is durable: the tables, and the holds the ledger has
    recovered. Settlements under way are finished first, then every open batch is
    loaded and what a transition left behind is undone.

    Wherever recovery dies it leaves a state it can start from again, and it fails
    only where a call to one of its ports does.
-/

namespace Solvent

open Abi BTreeMap Contract Process SqliteRebateStore

/-! ## What is listed -/

namespace SqliteRebateStore

variable {keccak256 : Bytes → B256} {store : SqliteRebateStore}

theorem mapM_of_ok {α β ε : Type} {f : α → Except ε β} {g : α → β} {l : List α}
    (h : ∀ a ∈ l, f a = .ok (g a)) : l.mapM f = .ok (l.map g) := by
  induction l with
  | nil => rfl
  | cons a l ih =>
    rw [List.mapM_cons, h a List.mem_cons_self, ih fun a ha => h a (List.mem_cons_of_mem _ ha)]
    rfl

/-- Every settlement under way is listed, once. -/
theorem pending_settlements_spec (h : Tables keccak256 store) :
    (store.pending_settlements.map (·.plan.batch_id)).Nodup ∧
      (∀ settlement ∈ store.pending_settlements, ∃ entry,
        store.rebate_settlement[settlement.plan.batch_id]? = some entry ∧
          entry.status = .Settling ∧ entry.settlement = settlement) ∧
      ∀ b, store.Settling b → ∃ settlement ∈ store.pending_settlements,
        settlement.plan.batch_id = b := by
  have hkey : ∀ e ∈ store.rebate_settlement.toList, e.2.settlement.plan.batch_id = e.1 := fun e he =>
    (h.settlements e.1 e.2 (Std.ExtTreeMap.mem_toList_iff_getElem?_eq_some.mp he)).batch
  refine ⟨?_, fun settlement hmem => ?_, fun b ⟨entry, hentry, hstatus⟩ => ?_⟩
  · have hsub : List.Sublist ((store.rebate_settlement.toList.filter fun e => e.2.status = .Settling).map
        Prod.fst) (store.rebate_settlement.toList.map Prod.fst) := List.filter_sublist.map _
    have hnodup := hsub.nodup (by rw [Std.ExtTreeMap.map_fst_toList_eq_keys]; exact Std.ExtTreeMap.nodup_keys)
    unfold pending_settlements
    rw [List.map_map]
    refine (List.map_congr_left fun e he => ?_) ▸ hnodup
    exact (hkey e (List.mem_filter.mp he).1).symm
  · obtain ⟨e, he, rfl⟩ := List.mem_map.mp hmem
    obtain ⟨he, hstatus⟩ := List.mem_filter.mp he
    refine ⟨e.2, ?_, of_decide_eq_true hstatus, rfl⟩
    rw [hkey e he]
    exact Std.ExtTreeMap.mem_toList_iff_getElem?_eq_some.mp he
  · have hmem := Std.ExtTreeMap.mem_toList_iff_getElem?_eq_some.mpr hentry
    refine ⟨entry.settlement, List.mem_map.mpr ⟨(b, entry), List.mem_filter.mpr ⟨hmem, ?_⟩, rfl⟩,
      hkey (b, entry) hmem⟩
    exact decide_eq_true hstatus

/-- **Every open row loads**, as it was saved. -/
theorem open_batches_spec (h : Tables keccak256 store) :
    ∃ batches, store.open_batches keccak256 = .ok batches ∧ (batches.map RebateBatch.id).Nodup ∧
      (∀ batch ∈ batches, store.rebate_batch[batch.id]? = some (batch.row batch.accruals)) ∧
      ∀ (b : RebateBatchId) (row : BatchRow), store.rebate_batch[b]? = some row →
        row.state.isSome = true → ∃ batch ∈ batches, batch.id = b := by
  have hrow : ∀ e ∈ store.rebate_batch.toList.filter fun e => e.2.state.isSome,
      store.rebate_batch[e.1]? = some e.2 ∧ ∃ state, e.2.state = some state := by
    intro e he
    obtain ⟨he, hopen⟩ := List.mem_filter.mp he
    exact ⟨Std.ExtTreeMap.mem_toList_iff_getElem?_eq_some.mp he, Option.isSome_iff_exists.mp hopen⟩
  have hloads : store.open_batches keccak256 =
      .ok ((store.rebate_batch.toList.filter fun e => e.2.state.isSome).map
        fun e => e.2.batch e.1 (e.2.state.getD .Guarded)) := by
    refine mapM_of_ok fun e he => ?_
    obtain ⟨hrow, state, hstate⟩ := hrow e he
    obtain ⟨hloads, hvalid⟩ := h.loads e.1 e.2 state hrow hstate
    have hlegs := (validate_batch_ok.mp hvalid).1
    unfold into_batch
    simp only [hstate, expect_some_bind, hloads]
    refine pass_bind (fun a ha => ?_) _ _
    have hget := Std.ExtTreeMap.mem_toList_iff_getElem?_eq_some.mp ha
    exact (accrual_belongs_iff.mp (hlegs.belong a.1 a.2 hget)).2.1
  refine ⟨_, hloads, ?_, fun batch hbatch => ?_, fun b row hrow' hopen => ?_⟩
  · rw [List.map_map]
    have hsub : List.Sublist ((store.rebate_batch.toList.filter fun e => e.2.state.isSome).map
        Prod.fst) (store.rebate_batch.toList.map Prod.fst) := List.filter_sublist.map _
    exact hsub.nodup (by rw [Std.ExtTreeMap.map_fst_toList_eq_keys]; exact Std.ExtTreeMap.nodup_keys)
  · obtain ⟨e, he, rfl⟩ := List.mem_map.mp hbatch
    obtain ⟨hrow, state, hstate⟩ := hrow e he
    refine hrow.trans (congrArg some ?_)
    obtain ⟨b, strategy, pair, accruals, row_state⟩ := e
    obtain rfl : row_state = some state := hstate
    rfl
  · exact ⟨_, List.mem_map.mpr ⟨(b, row), List.mem_filter.mpr
      ⟨Std.ExtTreeMap.mem_toList_iff_getElem?_eq_some.mpr hrow', hopen⟩, rfl⟩, rfl⟩

end SqliteRebateStore

namespace RebateService

variable {keccak256 : Bytes → B256} {F : Frame} {s s' : RebateService} {batch : RebateBatch}
  {id : ReservationId} {allowed : Option (Process.Fault RebateServiceError) → Prop} {α : Type}

/-! ## Wherever recovery stops -/

/-- What recovery needs to start. The ledger has just recovered, so it knows in memory
    what it has stored. -/
structure Recoverable (keccak256 : Bytes → B256) (F : Frame) (s : RebateService) : Prop
    extends Durable keccak256 s where
  calm : Calm F s.store
  unclaiming : Unclaiming F s.store s.ledger
  synced : ∀ id, s.ledger.held id = s.ledger.stored id
  keyed : s.ledger.ledger.Keyed

/-- `Q` where recovery ends, and a fault to blame where it does not. -/
def Recovers (keccak256 : Bytes → B256) (F : Frame)
    (allowed : Option (Process.Fault RebateServiceError) → Prop) (Q : α → RebateService → Prop) :
    Post RebateService RebateServiceError α where
  done := Q
  failed _ s := Faulty allowed ∧ Recoverable keccak256 F s
  crashed s := Faulty allowed ∧ Recoverable keccak256 F s

theorem Recoverable.release (h : Recoverable keccak256 F s) {ledger : LedgerService}
    (hcloses : LedgerService.Closes id s.ledger ledger)
    (hsafe : ∀ b execution, s.store.state_of b = some (.Ready execution) →
      execution.reservation = id → s.store.Settling b ∨ s.ledger.stored id = none) :
    Recoverable keccak256 F { s with ledger } := by
  refine ⟨⟨h.tables, h.promised.release hcloses.stored (fun k hk => (hcloses.others k hk).stored) hsafe⟩,
    h.calm, h.unclaiming.release hcloses, fun k => ?_, hcloses.keyed h.keyed⟩
  by_cases hk : k = id
  · rw [hk]
    exact hcloses.held.trans hcloses.stored.symm
  · exact ((hcloses.others k hk).held.trans (h.synced k)).trans (hcloses.others k hk).stored.symm

/-- A hold a batch names is that batch's, pending. -/
theorem Recoverable.held_named (h : Recoverable keccak256 F s) {b : RebateBatchId}
    {state : RebateBatchState} (hstate : s.store.state_of b = some state)
    (hid : state.active_reservation = some id) {r : Reservation} (hr : s.ledger.held id = some r) :
    s.ledger.stored id = some r ∧ r.owner = .Rebate b ∧ r.state = .Pending := by
  have hstored := (h.synced id).symm.trans hr
  have howner := h.promised.named b state id r hstate hid hstored
  exact ⟨hstored, howner, (h.promised.owned id r b hstored howner).1⟩

/-! ## Settlements -/

/-- Between two settlements: those listed are under way, and no other is. -/
structure Resuming (keccak256 : Bytes → B256) (F : Frame) (pending : List RebateSettlement)
    (s : RebateService) : Prop extends Recoverable keccak256 F s where
  listed : ∀ settlement ∈ pending, ∃ entry,
    s.store.rebate_settlement[settlement.plan.batch_id]? = some entry ∧ entry.status = .Settling ∧
      entry.settlement = settlement
  excepted : ∀ settlement ∈ pending, F.except settlement.plan.batch_id
  distinct : (pending.map (·.plan.batch_id)).Nodup
  rest : ∀ b, s.store.Settling b → ∃ settlement ∈ pending, settlement.plan.batch_id = b

/-- **A settlement under way is finished.** -/
theorem wp_resume_settlement {settlement : RebateSettlement} {pending : List RebateSettlement}
    (h : Resuming keccak256 F (settlement :: pending) s) :
    wp allowed (resume_settlement settlement)
      (Recovers keccak256 F allowed fun _ => Resuming keccak256 F pending) s := by
  obtain ⟨entry, hentry, hstatus, hsame⟩ := h.listed settlement List.mem_cons_self
  have hexcept := h.excepted settlement List.mem_cons_self
  obtain ⟨-, hvalid, row, hrow, -, hpaid⟩ := h.tables.settlements _ entry hentry
  rw [hsame] at hvalid hpaid
  simp only [hstatus] at hpaid
  obtain ⟨execution, hready, hplan, hreservation⟩ := hpaid
  have hstate : s.store.state_of settlement.plan.batch_id = some (.Ready execution) :=
    state_of_eq_some.mpr ⟨row, hrow, hready⟩
  have hsettling : s.store.Settling settlement.plan.batch_id := ⟨entry, hentry, hstatus⟩
  have hnames : (RebateBatchState.Ready execution).active_reservation = some settlement.reservation :=
    congrArg some hreservation
  refine wp_bind (wp_lift (fun _ _ => ?_) fun e herror => by cases hvalid.symm.trans herror)
  refine wp_bind (wp_modify ?_)
  have hguarded : Recoverable keccak256 F
      { s with guards := s.guards.insert settlement.plan.strategy } :=
    ⟨⟨h.tables, h.promised⟩, h.calm, h.unclaiming, h.synced, h.keyed⟩
  refine wp_bind (wp_if_held (h.synced _) (fun r hr => (h.held_named hstate hnames hr).2.2)
    (fun r hr => ?_) (fun ledger hcloses => ?_) (fun hfault _ => ⟨hfault, hguarded⟩)
    fun hfault => ⟨hfault, hguarded⟩)
  · -- The hold is for what the event paid out, so it is consumed exactly.
    refine LedgerService.post_closes hr ?_
    have hsources := h.promised.sources _ execution r hstate
      (hreservation ▸ (h.held_named hstate hnames hr).1)
    have hmatches := (require_eq_ok.mp hvalid).2
    unfold event_matches at hmatches
    rw [decide_eq_true_eq] at hmatches
    rw [hsources, hmatches.2.2.2.2.2.2.1, ← hplan]
    exact FillsWithin.exact _
  · have hreleased := hguarded.release hcloses fun a other ha hk => by
      by_cases hsome : s.ledger.stored settlement.reservation = none
      · exact .inr hsome
      · obtain ⟨r, hr⟩ := Option.ne_none_iff_exists'.mp hsome
        obtain rfl := h.promised.unique hr ha (congrArg some hk) hstate hnames
        exact .inl hsettling
    refine wp_bind (wp_transact (fun store hfinish => ?_) (fun e herror => ?_)
      (fun hfault _ => ⟨hfault, hreleased⟩) fun hfault => ⟨hfault, hreleased⟩)
    · have hfinishes := finish_settlement_ok hfinish
      have hstates : ∀ a, store.state_of a =
          if a = settlement.plan.batch_id then none else s.store.state_of a := by
        intro a
        rw [← state_of_close]
        exact congrArg (Option.bind · BatchRow.state) (hfinishes.rows a)
      refine wp_modify ⟨⟨⟨h.tables.finish hfinishes, ?_⟩, ?_,
        hreleased.unclaiming.update hstates nofun, hreleased.synced, hreleased.keyed⟩, fun other hmem => ?_,
        fun other hmem => h.excepted other (List.mem_cons_of_mem _ hmem),
        (List.nodup_cons.mp h.distinct).2, fun b hb => ?_⟩
      · refine hreleased.promised.close hstates (fun a ha ⟨other, hother, hset⟩ =>
          ⟨other, (hfinishes.others a ha).trans hother, hset⟩) fun k r hr howner => ?_
        obtain ⟨-, state, hnow, hk⟩ := hreleased.promised.owned k r _ hr howner
        obtain rfl := Option.some.inj (hstate.symm.trans hnow)
        obtain rfl := Option.some.inj (hnames.symm.trans hk)
        cases hcloses.stored.symm.trans hr
      · refine h.calm.close hfinishes.rows (fun a ha => hfinishes.others a ?_) hfinishes.retains
          hfinishes.cursor (.inl hexcept)
        rintro rfl
        exact ha hexcept
      · obtain ⟨entry', hentry', hrest⟩ := h.listed other (List.mem_cons_of_mem _ hmem)
        refine ⟨entry', (hfinishes.others _ fun heq => ?_).trans hentry', hrest⟩
        exact (List.nodup_cons.mp h.distinct).1 (List.mem_map.mpr ⟨other, hmem, heq⟩)
      · obtain ⟨other, hother, hset⟩ := hb
        by_cases hb : b = settlement.plan.batch_id
        · subst hb
          obtain ⟨_, -, hnew⟩ := hfinishes.settlement
          obtain rfl := Option.some.inj (hnew.symm.trans hother)
          cases hset
        · obtain ⟨found, hfound, hid⟩ :=
            h.rest b ⟨other, (hfinishes.others b hb).symm.trans hother, hset⟩
          rcases List.mem_cons.mp hfound with rfl | hmem
          · exact absurd hid.symm hb
          · exact ⟨found, hmem, hid⟩
    · obtain ⟨store, hstore⟩ := finish_settlement_of_entry hentry
      cases hstore.symm.trans herror

/-! ## Batches -/

/-- Between two batches: those listed are open as they were read, those recovered are
    guarded and have nothing to undo, and there is no other. -/
structure Loading (keccak256 : Bytes → B256) (F : Frame) (pending : List RebateBatch)
    (recovered : BTreeMap StrategyKey RebateBatch) (s : RebateService) : Prop
    extends Recoverable keccak256 F s where
  finished : ∀ b, ¬s.store.Settling b
  listed : ∀ batch ∈ pending, s.store.rebate_batch[batch.id]? = some (batch.row batch.accruals) ∧
    recovered[batch.strategy]? = none
  distinct : (pending.map RebateBatch.id).Nodup
  mirrored : ∀ (key : StrategyKey) (batch : RebateBatch), recovered[key]? = some batch →
    batch.strategy = key ∧ s.store.rebate_batch[batch.id]? = some (batch.row batch.accruals) ∧
      interrupted batch.state = none ∧ key ∈ s.guards
  loaded : ∀ (b : RebateBatchId) (row : BatchRow), s.store.rebate_batch[b]? = some row →
    row.state.isSome = true → (∃ batch ∈ pending, batch.id = b) ∨
      ∃ batch, recovered[row.strategy]? = some batch ∧ batch.id = b

/-- **A batch is loaded**, as it is now in its row. -/
theorem Loading.next {pending : List RebateBatch} {recovered : BTreeMap StrategyKey RebateBatch}
    (h : Loading keccak256 F (batch :: pending) recovered s) (hs' : Recoverable keccak256 F s')
    (hfinished : ∀ b, ¬s'.store.Settling b) {state : RebateBatchState}
    (hrow : s'.store.rebate_batch[batch.id]? = some ((batch.enter state).row batch.accruals))
    (hothers : ∀ a : RebateBatchId, a ≠ batch.id → s'.store.rebate_batch[a]? = s.store.rebate_batch[a]?)
    (hidle : interrupted state = none) (hguard : s'.guards = s.guards.insert batch.strategy) :
    Loading keccak256 F pending (recovered.insert batch.strategy (batch.enter state)) s' := by
  obtain ⟨hlisted, hnew⟩ := h.listed batch List.mem_cons_self
  obtain ⟨hnot_mem, hdistinct⟩ := List.nodup_cons.mp h.distinct
  have hmem : ∀ k, k = batch.strategy ∨ k ∈ s.guards → k ∈ s'.guards := by
    intro k hk
    rw [hguard]
    exact (BTreeSet.mem_insert _).mpr hk
  refine ⟨hs', hfinished, fun other hother => ?_, hdistinct, fun key other hother => ?_,
    fun b row hb hopen => ?_⟩
  · have hne : other.id ≠ batch.id := fun heq => hnot_mem (List.mem_map.mpr ⟨other, hother, heq⟩)
    obtain ⟨hother_row, hother_new⟩ := h.listed other (List.mem_cons_of_mem _ hother)
    refine ⟨(hothers _ hne).trans hother_row, ?_⟩
    rw [get_insert_ne]
    · exact hother_new
    · exact fun heq => hne (h.tables.schema.one_open hother_row hlisted heq.symm rfl rfl)
  · rw [get_insert] at hother
    split at hother
    · subst key
      obtain rfl := Option.some.inj hother
      exact ⟨rfl, hrow, hidle, hmem _ (.inl rfl)⟩
    · obtain ⟨hkey, hother_row, hother_idle, hguarded⟩ := h.mirrored key other hother
      refine ⟨hkey, (hothers _ fun heq => ?_).trans hother_row, hother_idle, hmem _ (.inr hguarded)⟩
      rw [heq] at hother_row
      obtain heq' := Option.some.inj (hlisted.symm.trans hother_row)
      exact ‹¬batch.strategy = key› ((congrArg BatchRow.strategy heq').trans hkey)
  · by_cases hb' : b = batch.id
    · subst hb'
      obtain rfl := Option.some.inj (hrow.symm.trans hb)
      exact .inr ⟨_, (get_insert _ _ _ _).trans (if_pos rfl), rfl⟩
    · rw [hothers b hb'] at hb
      rcases h.loaded b row hb hopen with ⟨other, hother, hid⟩ | ⟨other, hother, hid⟩
      · rcases List.mem_cons.mp hother with rfl | hother
        · exact absurd hid.symm hb'
        · exact .inl ⟨other, hother, hid⟩
      · refine .inr ⟨other, ?_, hid⟩
        rw [get_insert_ne]
        · exact hother
        · intro heq
          rw [heq, hother] at hnew
          cases hnew

/-- **One open batch is recovered.** -/
theorem wp_recover_batch {pending : List RebateBatch} {recovered : BTreeMap StrategyKey RebateBatch}
    (h : Loading keccak256 F (batch :: pending) recovered s) :
    wp allowed (recover_batch recovered batch)
      (Recovers keccak256 F allowed fun recovered => Loading keccak256 F pending recovered) s := by
  obtain ⟨hrow, hnew⟩ := h.listed batch List.mem_cons_self
  have hstate : s.store.state_of batch.id = some batch.state := state_of_eq_some.mpr ⟨_, hrow, rfl⟩
  have hvalid : validate_batch batch = .ok () := (h.tables.loads _ _ _ hrow rfl).2
  have hguarded : Recoverable keccak256 F { s with guards := s.guards.insert batch.strategy } :=
    ⟨⟨h.tables, h.promised⟩, h.calm, h.unclaiming, h.synced, h.keyed⟩
  have hnone : recovered[batch.strategy]?.isNone = true := by
    rw [hnew]
    rfl
  have hkept : interrupted batch.state = none → Loading keccak256 F pending
      (recovered.insert batch.strategy batch) { s with guards := s.guards.insert batch.strategy } :=
    fun hidle => h.next hguarded h.finished hrow (fun _ _ => rfl) hidle rfl
  -- An interrupted transition gives back its hold and is written as undone.
  have hundone : ∀ reservation, interrupted batch.state = some reservation →
      wp allowed (do
        guard batch.strategy
        release_if_held reservation
        save (batch.enter .Guarded)
        pure (batch.enter .Guarded))
        (Recovers keccak256 F allowed fun next s' =>
          wp allowed (pure (recovered.insert batch.strategy next))
            (Recovers keccak256 F allowed fun recovered => Loading keccak256 F pending recovered) s')
        s := by
    intro reservation hinterrupted
    have hnames := active_of_interrupted hinterrupted
    have hready : ∀ execution, batch.state ≠ .Ready execution := by
      intro execution hready
      rw [hready] at hinterrupted
      cases hinterrupted
    refine wp_bind (wp_modify (wp_bind (wp_if_held (h.synced _)
      (fun r hr => (h.held_named hstate hnames hr).2.2) (fun r hr => LedgerService.void_closes hr)
      (fun ledger hcloses => ?_) (fun hfault _ => ⟨hfault, hguarded⟩) fun hfault => ⟨hfault, hguarded⟩)))
    have hreleased := hguarded.release hcloses fun a execution ha hk => by
      refine .inr ?_
      by_contra hsome
      obtain ⟨r, hr⟩ := Option.ne_none_iff_exists'.mp hsome
      obtain rfl := h.promised.unique hr ha (congrArg some hk) hstate hnames
      exact hready execution (Option.some.inj (hstate.symm.trans ha))
    have hlegs := (validate_batch_ok.mp hvalid).1
    have hlegs' : ValidLegs (batch.enter .Guarded) := ⟨hlegs.nonempty, hlegs.belong⟩
    refine wp_bind (wp_transact (fun store hstore => wp_pure (wp_pure ?_)) (fun e herror => ?_)
      (fun hfault _ => ⟨hfault, hreleased⟩) fun hfault => ⟨hfault, hreleased⟩)
    · have hsettlement := h.tables.settlement_none hstate hready
      obtain ⟨htables, hwrites⟩ := h.tables.save hstore (validate_of_legs hlegs' rfl) rfl nofun
        (fun row hrow' t a ha => by
          obtain rfl := Option.some.inj (hrow.symm.trans hrow')
          exact ha) hsettlement
      have hcalm := h.calm.write hwrites (fun row hrow' => by
        obtain rfl := Option.some.inj (hrow.symm.trans hrow')
        exact ⟨rfl, fun _ _ ha => ha⟩) (.inr fun execution hnow =>
          hready execution (Option.some.inj (hstate.symm.trans hnow))) (.inr ⟨_, hstate⟩) nofun
      have hsettling : ∀ b, store.Settling b → s.store.Settling b := by
        rintro b ⟨entry, hentry, hstatus⟩
        rw [hwrites.settlements] at hentry
        exact ⟨entry, hentry, hstatus⟩
      have hunclaiming := hreleased.unclaiming.update hwrites.state_of fun st k hst hk => by
        obtain rfl := Option.some.inj hst
        cases hk
      have hwritten : Recoverable keccak256 F
          { s with
            guards := s.guards.insert batch.strategy
            ledger
            store } := ⟨⟨htables, ?_⟩, hcalm, hunclaiming, hreleased.synced, hreleased.keyed⟩
      · exact h.next hwritten (fun b hb => h.finished b (hsettling b hb)) hwrites.row hwrites.others
          rfl rfl
      refine hreleased.promised.update hwrites.state_of
        (fun a _ ha => absurd ha (h.finished a)) (fun k r hr howner => ?_) nofun nofun
      obtain ⟨-, state, hnow, hk⟩ := hreleased.promised.owned k r _ hr howner
      obtain rfl := Option.some.inj (hstate.symm.trans hnow)
      obtain rfl := Option.some.inj (hnames.symm.trans hk)
      cases hcloses.stored.symm.trans hr
    · obtain ⟨store, hstore⟩ := save_of_open h.tables.schema hlegs'.keyed hrow rfl rfl rfl rfl
      cases hstore.symm.trans herror
  refine wp_bind (wp_lift (fun _ _ => ?_) fun e herror => by cases hvalid.symm.trans herror)
  refine wp_bind (wp_lift (fun _ _ => ?_) fun e herror =>
    absurd hnone (require_eq_error.mp herror).1)
  refine wp_bind ?_
  unfold recover_state
  cases hcase : batch.state with
  | Accumulating => exact wp_bind (wp_modify (wp_pure (wp_pure (hkept (by rw [hcase]; rfl)))))
  | Guarded => exact wp_bind (wp_modify (wp_pure (wp_pure (hkept (by rw [hcase]; rfl)))))
  | Ready execution =>
    refine wp_bind (wp_modify (wp_bind (wp_read (wp_bind (wp_lift (fun _ _ =>
      wp_pure (wp_pure (hkept (by rw [hcase]; rfl)))) fun e herror => ?_)))))
    -- Nothing is being settled any more, so published work has its hold.
    have hnot := (require_eq_error.mp herror).1
    rw [hcase] at hstate
    obtain ⟨r, hr⟩ := (h.promised.backed _ execution hstate).resolve_left (h.finished _)
    have hheld := (h.synced _).trans hr
    refine absurd ?_ hnot
    rw [LedgerService.reservation_sources_eq]
    show (((s.ledger.held execution.reservation).filter _).map _).isSome = true
    rw [hheld, Option.filter_some, if_pos (decide_eq_true (h.held_named hstate rfl hheld).2.2)]
    rfl
  | Preparing plan reservation => exact hundone reservation (by rw [hcase]; rfl)
  | Invalidating reservation => exact hundone reservation (by rw [hcase]; rfl)

/-! ## The whole recovery -/

/-- What a restart restores: every open batch is in memory and guarded, and no
    settlement or transition is half done. -/
structure Restored (s : RebateService) : Prop where
  finished : ∀ b, ¬s.store.Settling b
  guarded : ∀ (key : StrategyKey) (batch : RebateBatch), s.batches[key]? = some batch →
    key ∈ s.guards ∧ interrupted batch.state = none

theorem Loading.restored {recovered : BTreeMap StrategyKey RebateBatch}
    (h : Loading keccak256 F [] recovered s) :
    Consistent keccak256 F { s with batches := recovered } ∧
      Restored { s with batches := recovered } := by
  refine ⟨⟨⟨h.tables, h.promised⟩, h.calm, h.unclaiming, fun key batch hbatch => ?_, fun b row hrow hopen => ?_,
    fun key batch hbatch _ => (h.mirrored key batch hbatch).2.2.2, fun _ _ id _ _ => h.synced id,
    fun id r b hr howner => ?_, h.keyed⟩, h.finished, fun key batch hbatch => ?_⟩
  · obtain ⟨hkey, hrow, -⟩ := h.mirrored key batch hbatch
    exact ⟨hkey, _, batch.state, hrow, rfl, row_batch batch, .same⟩
  · exact (h.loaded b row hrow hopen).resolve_left nofun
  · exact (h.promised.owned id r b ((h.synced id).symm.trans hr) howner).2
  · exact ⟨(h.mirrored key batch hbatch).2.2.2, (h.mirrored key batch hbatch).2.2.1⟩

/-- **Recovery.** From whatever a stop left behind, it restores the service or stops at
    a fault, where it can be tried again. -/
theorem wp_recover (h : Recoverable keccak256 F s) (hexcept : ∀ b, s.store.Settling b → F.except b) :
    wp allowed (recover keccak256)
      (Recovers keccak256 F allowed fun _ s' => Consistent keccak256 F s' ∧ Restored s') s := by
  obtain ⟨hdistinct, hlisted, hrest⟩ := pending_settlements_spec h.tables
  have hresuming : Resuming keccak256 F s.store.pending_settlements s := by
    refine ⟨h, hlisted, fun settlement hmem => hexcept _ ?_, hdistinct, hrest⟩
    obtain ⟨entry, hentry, hstatus, -⟩ := hlisted settlement hmem
    exact ⟨entry, hentry, hstatus⟩
  refine wp_bind (wp_query (fun settlements hsettlements => ?_) (fun e herror => by cases herror)
    (fun hfault _ => ⟨hfault, h⟩) fun hfault => ⟨hfault, h⟩)
  obtain rfl := Except.ok.inj hsettlements
  refine wp_bind ((wp_foldlM (I := fun pending _ s => Resuming keccak256 F pending s)
    (fun settlement pending _ s hs => wp_resume_settlement hs) hresuming).mono
      (fun _ s' hs' => ?_) (fun _ _ hs' => hs') fun _ hs' => hs')
  have hfinished : ∀ b, ¬s'.store.Settling b := fun b hb => by
    obtain ⟨_, hmem, -⟩ := hs'.rest b hb
    cases hmem
  obtain ⟨batches, hloads, hids, hrows, hall⟩ := open_batches_spec hs'.tables
  have hloading : Loading keccak256 F batches ∅ s' := by
    refine ⟨hs'.toRecoverable, hfinished, fun batch hbatch => ⟨hrows batch hbatch, ?_⟩, hids,
      fun key batch hbatch => ?_, fun b row hrow hopen => .inl (hall b row hrow hopen)⟩
    · exact Std.ExtTreeMap.getElem?_empty
    · rw [Std.ExtTreeMap.getElem?_empty] at hbatch
      cases hbatch
  refine wp_bind (wp_query (fun found hfound => ?_) (fun e herror => by cases hloads.symm.trans herror)
    (fun hfault _ => ⟨hfault, hs'.toRecoverable⟩) fun hfault => ⟨hfault, hs'.toRecoverable⟩)
  obtain rfl := Except.ok.inj (hloads.symm.trans hfound)
  refine wp_bind ((wp_foldlM (I := fun pending recovered s => Loading keccak256 F pending recovered s)
    (fun batch pending recovered s hs => wp_recover_batch hs) hloading).mono
      (fun recovered s'' hs'' => wp_modify hs''.restored) (fun _ _ hs'' => hs'') fun _ hs'' => hs'')

end RebateService

end Solvent
