import Solvent.Rebate.Methods

/-! # How a batch ends

    It is discarded, its public work expires, or its execution is settled. A
    settlement is recorded before the hold is consumed, so that whatever fails after
    that, the same event finishes it.
-/

namespace Solvent

open Abi BTreeMap Contract Process SqliteRebateStore

/-- The event is the one its batch is settled by. -/
def SqliteRebateStore.Settled (store : SqliteRebateStore) (event : RebateExecutedEvent) : Prop :=
  ∃ entry ∈ store.rebate_settlement[event.batch_id]?, entry.settlement.event = event

/-- And nothing of that settlement is left to do. -/
def SqliteRebateStore.Finished (store : SqliteRebateStore) (event : RebateExecutedEvent) : Prop :=
  ∃ entry ∈ store.rebate_settlement[event.batch_id]?,
    entry.status = .Executed ∧ entry.settlement.event = event

namespace RebateService

variable {keccak256 : Bytes → B256} {F : Frame} {s s' : RebateService} {key : StrategyKey}
  {batch : RebateBatch} {id : ReservationId}
  {allowed : Option (Process.Fault RebateServiceError) → Prop}

/-! ## Discarding -/

/-- What memory names, of unpublished work, the row names as interrupted. -/
theorem interrupted_of_active {stored : ReservationId → Option Reservation}
    {row memory : RebateBatchState} (h : Lags stored row memory)
    (hactive : memory.active_reservation = some id) (hready : memory.is_ready = false) :
    interrupted row = some id := by
  refine interrupted_of_lags h ?_
  cases memory with
  | Preparing plan reservation => exact hactive
  | Invalidating reservation => exact hactive
  | Ready execution => cases hready
  | Accumulating => cases hactive
  | Guarded => cases hactive

theorem wp_withdraw {Q : Unit → RebateService → Prop} (h : Consistent keccak256 F s)
    (hbatch : s.batches[key]? = some batch) (hready : batch.state.is_ready = false)
    (hdone : ∀ next s', Consistent keccak256 F s' → s'.batches[key]? = some next →
      next.id = batch.id → next.state.is_ready = false →
      (∀ id r, s'.ledger.stored id = some r → r.owner ≠ .Rebate batch.id) → Q () s') :
    wp allowed (withdraw key batch) (Keeps keccak256 F Q) s := by
  have hmirrors := h.mirrors key batch hbatch
  obtain ⟨state, hstate, hlags⟩ := hmirrors.state_of
  unfold withdraw
  cases hactive : batch.state.active_reservation with
  | none =>
    exact wp_pure (hdone batch s h hbatch rfl hready fun id r hr => h.unheld hbatch hactive hr)
  | some reservation =>
    have hguard : key ∈ s.guards := by
      refine h.guarded key batch hbatch fun haccumulating => ?_
      rw [haccumulating] at hactive
      cases hactive
    have hinterrupted := interrupted_of_active hlags hactive hready
    have hput := h.put hbatch hstate (.invalidating reservation hinterrupted) fun _ => hguard
    have hin : (s.batches.insert key (batch.enter (.Invalidating reservation)))[key]? =
        some (batch.enter (.Invalidating reservation)) := (get_insert _ _ _ _).trans (if_pos rfl)
    refine wp_bind (wp_modify (wp_bind (wp_transact (fun store hstore => ?_) (fun _ _ => hput)
      (fun _ _ => hput) fun _ => hput)))
    have hlegs := hput.valid_legs hin
    have hsaved : Consistent keccak256 F
        { s with
          store
          batches := s.batches.insert key (batch.enter (.Invalidating reservation)) } := by
      refine hput.save_planless hin rfl hstore rfl hmirrors.key rfl hlegs (fun _ _ ha => ha)
        (fun _ => hguard) (fun k r hr howner => congrArg some (hput.holds_only hin rfl hr howner).symm)
        (fun k st hk hst => (hput.mirrors _ _ hin).names hk hst) rfl rfl rfl fun k => ?_
      by_cases hk : k = key
      · rw [if_pos hk, hk]
        exact hin
      · rw [if_neg hk]
    obtain ⟨state', hstate', -⟩ := (hsaved.mirrors _ _ hin).state_of
    refine wp_release hsaved hstate' ((hsaved.mirrors _ _ hin).names rfl hstate')
      (fun execution => (hsaved.mirrors _ _ hin).not_ready rfl hstate' execution)
      fun ledger hcloses hreleased => hdone _ _ hreleased hin rfl rfl fun k r hr howner => ?_
    obtain rfl := hreleased.holds_only hin rfl hr howner
    cases hcloses.stored.symm.trans hr

/-- **Discarding keeps the invariant.** -/
theorem wp_discard (h : Consistent keccak256 F s) (key : StrategyKey) :
    wp allowed (discard key) (Keeps keccak256 F fun _ s' => Consistent keccak256 F s') s := by
  refine wp_bind (wp_read ?_)
  dsimp only
  cases hbatch : s.batches[key]? with
  | none => exact wp_pure h
  | some batch =>
    refine wp_bind (wp_lift (fun _ hready => ?_) fun _ _ => h)
    refine wp_bind (wp_withdraw h hbatch (require_eq_ok.mp hready)
      fun next s' hs' hin hid hnext hnone => ?_)
    have hmirrors := hs'.mirrors _ next hin
    obtain ⟨state, hstate, -⟩ := hmirrors.state_of
    have hunsettled := hs'.unsettled hin hnext
    rw [← hid] at hnone ⊢
    refine wp_bind (wp_transact (fun store hstore => ?_) (fun _ _ => hs') (fun _ _ => hs') fun _ => hs')
    obtain rfl := Except.ok.inj hstore
    refine wp_bind (wp_modify (wp_bind (wp_modify (wp_pure ?_))))
    exact hs'.close hin hnone (hs'.tables.close hunsettled) (fun _ => rfl)
      (fun a _ ⟨entry, hentry, hstatus⟩ => ⟨entry, by rw [close_settlement]; exact hentry, hstatus⟩)
      (fun a _ => by rw [close_settlement]) (.of_eq fun a => by rw [close_settlement])
      (close_cursor _ _)
      (.inr fun execution hnow => hmirrors.not_ready hnext hnow execution rfl) rfl rfl rfl

/-! ## Settling -/

theorem FillsWithin.exact (source : ReservationSource) : FillsWithin [source] [source.amount] :=
  .cons (le_refl _) .nil

/-- What there is of the event after a settlement that failed: nothing new, or its
    record. -/
structure Attempted (keccak256 : Bytes → B256) (F : Frame) (event : RebateExecutedEvent)
    (s s' : RebateService) : Prop where
  consistent : Consistent keccak256 F s'
  event : (s'.store.rebate_settlement[event.batch_id]? = s.store.rebate_settlement[event.batch_id]? ∧
    s'.store.state_of event.batch_id = s.store.state_of event.batch_id) ∨ s'.store.Settled event

/-- Why a settlement of published work fails, other than by a fault. -/
def Unsettleable (store : SqliteRebateStore) (execution : RebateExecution)
    (event : RebateExecutedEvent) (executed_at : U64) : Prop :=
  validate_execution_event event execution ≠ .ok () ∨ 2 ^ 63 ≤ executed_at.val ∨
    ∃ entry ∈ store.rebate_settlement[event.batch_id]?, entry.settlement.event ≠ event

/-- **The execution of published work is settled.** -/
theorem wp_settle_ready {execution : RebateExecution} {event : RebateExecutedEvent}
    {executed_at : U64} (h : Consistent keccak256 F s) (hbatch : s.batches[key]? = some batch)
    (hready : batch.state = .Ready execution) (hid : batch.id = event.batch_id)
    (hexcept : F.except event.batch_id) :
    wp allowed (settle_ready key batch execution event executed_at)
      ⟨fun settled s' => settled = true ∧ Consistent keccak256 F s' ∧ s'.store.Finished event,
        fun _ s' => Attempted keccak256 F event s s' ∧
          (Faulty allowed ∨ Unsettleable s.store execution event executed_at),
        Attempted keccak256 F event s⟩ s := by
  have hunmoved : Attempted keccak256 F event s s := ⟨h, .inl ⟨rfl, rfl⟩⟩
  have hmirrors := h.mirrors key batch hbatch
  have hstate := hmirrors.ready hready
  obtain ⟨row, hrow, hrowstate⟩ := state_of_eq_some.mp hstate
  have hvalid := validate_batch_ok.mp (h.tables.loads _ row _ hrow hrowstate).2
  have hplan_id : execution.plan.batch_id = batch.id := by
    have hplan := hvalid.2.1 execution.plan rfl
    unfold plan_matches_batch at hplan
    rw [decide_eq_true_eq] at hplan
    exact hplan.1
  have hnonzero := h.tables.reservations _ _ _ hstate rfl
  refine wp_bind (wp_lift (fun _ hevent => ?_) fun e hevent => ⟨hunmoved, .inr (.inl (by simp [hevent]))⟩)
  have hmatches := (require_eq_ok.mp hevent).1
  have hamount : event.amount_out = execution.plan.amount_out := by
    unfold event_matches at hmatches
    rw [decide_eq_true_eq] at hmatches
    exact hmatches.2.2.2.2.2.2.1
  have hsettlement_id : (execution.settlement event executed_at).plan.batch_id = event.batch_id :=
    hplan_id.trans hid
  have hsettlement_valid : validate_settlement (execution.settlement event executed_at) = .ok () :=
    require_of ⟨hnonzero, hmatches⟩ _
  -- What is recorded of the batch is of its published plan.
  have hpublished : ∀ entry ∈ s.store.rebate_settlement[event.batch_id]?,
      entry.settlement.plan = execution.plan ∧ entry.settlement.reservation = execution.reservation := by
    intro entry hentry
    obtain ⟨-, -, row', hrow', -, hpaid⟩ := h.tables.settlements _ entry hentry
    rw [← hid] at hrow'
    obtain rfl := Option.some.inj (hrow.symm.trans hrow')
    cases hstatus : entry.status with
    | Executed =>
      simp only [hstatus] at hpaid
      cases hrowstate.symm.trans hpaid
    | Settling =>
      simp only [hstatus] at hpaid
      obtain ⟨execution', hexecution', hplan, hreservation⟩ := hpaid
      obtain rfl := RebateBatchState.Ready.inj (Option.some.inj (hrowstate.symm.trans hexecution'))
      exact ⟨hplan.symm, hreservation.symm⟩
  refine wp_bind (wp_bind (wp_transact (fun store hstore => ?_) (fun e herror => ⟨hunmoved, .inr ?_⟩)
    (fun hfault _ => ⟨hunmoved, .inl hfault⟩) fun _ => hunmoved))
  · have hrecords := insert_settlement_ok hstore
    have htables := h.tables.record hrecords (hsettlement_id.symm ▸ hid ▸ hstate) rfl rfl
      hsettlement_valid
    have hrecorded := h.record hrecords htables (hsettlement_id.symm ▸ hexcept)
    have hattempted : Attempted keccak256 F event s { s with store } := by
      refine ⟨hrecorded, ?_⟩
      rcases hrecords.entry with ⟨-, rfl⟩ | ⟨-, hnew⟩
      · exact .inl ⟨rfl, rfl⟩
      · rw [hsettlement_id] at hnew
        exact .inr ⟨_, hnew, rfl⟩
    refine wp_query (fun _ hexact => ?_) (fun e hconflict => ⟨hattempted, .inr (.inr (.inr ?_))⟩)
      (fun hfault _ => ⟨hattempted, .inl hfault⟩) fun _ => hattempted
    · obtain ⟨entry, hentry, -, -, hsame⟩ := require_eq_ok.mp hexact
      rw [hsettlement_id] at hentry
      have hsettled : SqliteRebateStore.Settled store event := ⟨entry, hentry, hsame⟩
      have hstate' : store.state_of batch.id = some (.Ready execution) := by
        unfold SqliteRebateStore.state_of at hstate ⊢
        rw [hrecords.rows]
        exact hstate
      -- The batch is open, so its settlement is not finished.
      have hsettling : store.Settling batch.id := by
        refine ⟨entry, hid ▸ hentry, ?_⟩
        obtain ⟨-, -, row', hrow', -, hpaid⟩ := htables.settlements _ entry hentry
        cases hstatus : entry.status with
        | Settling => rfl
        | Executed =>
          simp only [hstatus] at hpaid
          rw [← hid] at hrow'
          have hnone : store.state_of batch.id = none := by
            unfold SqliteRebateStore.state_of
            rw [hrow']
            exact hpaid
          cases hnone.symm.trans hstate'
      have hafter : Attempted keccak256 F event s { s with store } := ⟨hrecorded, .inr hsettled⟩
      refine wp_bind (wp_if_held (hrecorded.agree _ _ _ hstate' rfl)
        (fun r hr => (hrecorded.held_named hstate' rfl hr).2.2) (fun r hr => ?_)
        (fun ledger hcloses => ?_) (fun hfault _ => ⟨hafter, .inl hfault⟩) fun _ => hafter)
      · refine LedgerService.post_closes hr ?_
        have hsources := hrecorded.promised.sources _ execution r hstate'
          (hrecorded.held_named hstate' rfl hr).1
        rw [hsources, hamount]
        exact FillsWithin.exact _
      · have hreleased := hrecorded.release hcloses fun a other ha hk => by
          by_cases hsome : s.ledger.stored execution.reservation = none
          · exact .inr hsome
          · obtain ⟨r, hr⟩ := Option.ne_none_iff_exists'.mp hsome
            obtain rfl := hrecorded.promised.unique hr ha (congrArg some hk) hstate' rfl
            exact .inl hsettling
        have hposted : Attempted keccak256 F event s
            { s with
              store
              ledger } := ⟨hreleased, .inr hsettled⟩
        refine wp_bind (wp_transact (fun store' hfinish => ?_) (fun e herror => ?_)
          (fun hfault _ => ⟨hposted, .inl hfault⟩) fun _ => hposted)
        · have hfinishes := finish_settlement_ok hfinish
          refine wp_bind (wp_modify (wp_bind (wp_modify (wp_pure ⟨rfl, ?_, ?_⟩))))
          · refine hreleased.close hbatch (fun k r hr howner => ?_)
              (hreleased.tables.finish hfinishes) hfinishes.rows (fun a ha hset => ?_)
              (fun a ha => hfinishes.others a ?_) hfinishes.retains hfinishes.cursor (.inl (hid.symm ▸ hexcept))
              rfl rfl rfl
            · have hactive : batch.state.active_reservation = some execution.reservation := by
                rw [hready]
                rfl
              rw [hreleased.holds_only hbatch hactive hr howner, hcloses.stored] at hr
              cases hr
            · obtain ⟨other, hother, hstatus⟩ := hset
              exact ⟨other, (hfinishes.others a ha).trans hother, hstatus⟩
            · rintro rfl
              exact ha (hid.symm ▸ hexcept)
          · obtain ⟨entry', hentry', hnew⟩ := hfinishes.settlement
            rw [hid] at hentry' hnew
            obtain rfl := Option.some.inj (hentry.symm.trans hentry')
            exact ⟨_, hnew, rfl, hsame⟩
        · obtain ⟨store', hstore'⟩ := finish_settlement_of_entry (hid ▸ hentry)
          cases hstore'.symm.trans herror
    · -- A record that was there is of the same plan, so its event is another.
      obtain ⟨hdiffers, -⟩ := require_eq_error.mp hconflict
      rcases hrecords.entry with ⟨hsome, rfl⟩ | ⟨-, hnew⟩
      · obtain ⟨entry, hentry⟩ := Option.isSome_iff_exists.mp hsome
        have hentry' := hsettlement_id ▸ hentry
        obtain ⟨hplan, hreservation⟩ := hpublished entry hentry'
        exact ⟨entry, hentry', fun hsame => hdiffers ⟨entry, hentry, hplan, hreservation, hsame⟩⟩
      · exact absurd ⟨_, hnew, rfl, rfl, rfl⟩ hdiffers
  · rcases require_bind_error.mp herror with ⟨hlarge, -⟩ | ⟨-, herror⟩
    · refine .inr (.inl ?_)
      by_contra hsmall
      have hlt : (execution.settlement event executed_at).executed_at.val < 2 ^ 63 := not_le.mp hsmall
      exact hlarge (by rw [i64_of_ok hlt]; rfl)
    · split at herror
      · cases herror
      · rcases require_bind_error.mp herror with ⟨hmissing, -⟩ | ⟨-, herror⟩
        · refine absurd ?_ hmissing
          rw [hsettlement_id, ← hid, hrow]
          rfl
        · cases herror

/-- Why there is nothing to settle but no fault: the event is not of the work the table
    has published. -/
def Foreign (store : SqliteRebateStore) (event : RebateExecutedEvent) (executed_at : U64) : Prop :=
  ∀ execution, store.state_of event.batch_id = some (.Ready execution) →
    Unsettleable store execution event executed_at

/-- **A mined event is settled**, or names no batch, or is not of published work. -/
theorem wp_settle {event : RebateExecutedEvent} {executed_at : U64} (h : Consistent keccak256 F s)
    (hexcept : F.except event.batch_id) :
    wp allowed (settle event executed_at)
      ⟨fun settled s' => Consistent keccak256 F s' ∧ if settled = true then s'.store.Finished event
          else s' = s ∧ s.store.state_of event.batch_id = none,
        fun _ s' => Attempted keccak256 F event s s' ∧
          (Faulty allowed ∨ Foreign s.store event executed_at),
        Attempted keccak256 F event s⟩ s := by
  refine wp_bind (wp_read ?_)
  dsimp only
  cases hfind : s.batches.toList.find? fun e => e.2.id = event.batch_id with
  | none =>
    refine wp_pure ⟨h, if_neg Bool.false_ne_true ▸ ⟨rfl, ?_⟩⟩
    by_contra hsome
    obtain ⟨state, hstate⟩ := Option.ne_none_iff_exists'.mp hsome
    obtain ⟨row, hrow, hopen⟩ := state_of_eq_some.mp hstate
    obtain ⟨batch, hbatch, hid⟩ := h.loaded _ row hrow (by rw [hopen]; rfl)
    have hmem := Std.ExtTreeMap.mem_toList_iff_getElem?_eq_some.mpr hbatch
    exact List.find?_eq_none.mp hfind _ hmem (decide_eq_true hid)
  | some e =>
    obtain ⟨strategy, batch⟩ := e
    dsimp only
    have hbatch := Std.ExtTreeMap.mem_toList_iff_getElem?_eq_some.mp (List.mem_of_find?_eq_some hfind)
    have hid : batch.id = event.batch_id := by simpa using List.find?_some hfind
    have hother : batch.state.is_ready = false →
        wp allowed (lift (.error (.InvalidExecution "mined event does not identify ready work")))
          ⟨fun settled s' => Consistent keccak256 F s' ∧ if settled = true then s'.store.Finished event
              else s' = s ∧ s.store.state_of event.batch_id = none,
            fun _ s' => Attempted keccak256 F event s s' ∧
              (Faulty allowed ∨ Foreign s.store event executed_at),
            Attempted keccak256 F event s⟩ s := by
      refine fun hready => wp_lift (fun _ h => by cases h) fun _ _ =>
        ⟨⟨h, .inl ⟨rfl, rfl⟩⟩, .inr fun execution hstate => ?_⟩
      rw [← hid] at hstate
      exact absurd rfl ((h.mirrors _ batch hbatch).not_ready hready hstate execution)
    cases hstate : batch.state with
    | Ready execution =>
      refine (wp_settle_ready h hbatch hstate hid hexcept).mono
        (fun settled s' hs' => ⟨hs'.2.1, ?_⟩) (fun _ s' hs' => ⟨hs'.1, hs'.2.imp_right ?_⟩) fun _ hs' => hs'
      · rw [if_pos hs'.1]
        exact hs'.2.2
      · intro hunsettleable other hother
        rw [← hid, (h.mirrors _ batch hbatch).ready hstate] at hother
        obtain rfl := RebateBatchState.Ready.inj (Option.some.inj hother)
        exact hunsettleable
    | _ => exact hother (by rw [hstate]; rfl)

/-! ## Expiring -/

/-- What there is of a batch's work after its expiry was tried: no settlement, and the
    same published work or none. -/
structure Unpublished (keccak256 : Bytes → B256) (F : Frame) (b : RebateBatchId)
    (s s' : RebateService) : Prop where
  consistent : Consistent keccak256 F s'
  settlement : s'.store.rebate_settlement[b]? = none
  published : ∀ execution, s'.store.state_of b = some (.Ready execution) →
    s.store.state_of b = some (.Ready execution)

/-- **Published work expires** that is not being settled. -/
theorem wp_invalidate_ready {execution : RebateExecution} (h : Consistent keccak256 F s)
    (hbatch : s.batches[key]? = some batch) (hready : batch.state = .Ready execution)
    (hexcept : F.except batch.id) (hunsettled : s.store.rebate_settlement[batch.id]? = none) :
    wp allowed (invalidate_ready key batch execution.reservation)
      ⟨fun _ s' => Unpublished keccak256 F batch.id s s' ∧
          s'.batches[key]? = some (batch.enter .Guarded),
        fun _ => Unpublished keccak256 F batch.id s, Unpublished keccak256 F batch.id s⟩ s := by
  have hmirrors := h.mirrors key batch hbatch
  have hstate := hmirrors.ready hready
  have hactive : batch.state.active_reservation = some execution.reservation := by rw [hready]; rfl
  have hguard : key ∈ s.guards := h.guarded key batch hbatch (by rw [hready]; nofun)
  have hbefore : Unpublished keccak256 F batch.id s s := ⟨h, hunsettled, fun _ hnow => hnow⟩
  have hinsert : ∀ (batches : BTreeMap StrategyKey RebateBatch) (next : RebateBatch) (k : StrategyKey),
      (batches.insert key next)[k]? = if k = key then some next else batches[k]? := by
    intro batches next k
    rw [get_insert]
    exact if_congr eq_comm rfl rfl
  have hlegs := h.valid_legs hbatch
  -- What is written from here on is not published.
  have hafter : ∀ {s' : RebateService} (next : RebateBatch), Consistent keccak256 F s' →
      s'.batches[key]? = some next → next.id = batch.id → next.state.is_ready = false →
      Unpublished keccak256 F batch.id s s' := by
    intro s' next hs' hin hid hnext
    refine ⟨hs', hid ▸ hs'.unsettled hin hnext, fun execution hnow => ?_⟩
    rw [← hid] at hnow
    exact absurd rfl ((hs'.mirrors _ next hin).not_ready hnext hnow execution)
  refine wp_bind (wp_transact (fun store hstore => wp_bind (wp_modify ?_)) (fun _ _ => hbefore)
    (fun _ _ => hbefore) fun _ => hbefore)
  have hsaved : Consistent keccak256 F
      { s with
        store
        batches := s.batches.insert key (batch.enter (.Invalidating execution.reservation)) } := by
    refine h.save hstore (validate_of_legs ⟨hlegs.nonempty, hlegs.belong⟩ rfl)
      (stored_state_of_plan rfl) (fun id hid => ?_) (fun row hrow t a ha => ?_) hunsettled
      (.inl hexcept) (.inr ⟨_, hstate⟩) nofun (fun id hid => .inr ⟨_, hstate, hid⟩) (fun _ => ?_)
      (fun id r hr howner => ?_) (fun id r hid hr => ?_) (fun id hid => ?_) nofun rfl rfl rfl fun k => ?_
    · obtain rfl := Option.some.inj hid
      exact h.tables.reservations _ _ _ hstate rfl
    · rw [h.row_legs hbatch hrow] at ha
      exact ha
    · exact hmirrors.key.symm ▸ hguard
    · exact congrArg some (h.holds_only hbatch hactive hr howner).symm
    · obtain rfl := Option.some.inj hid
      exact h.promised.named _ _ _ r hstate rfl hr
    · obtain rfl := Option.some.inj hid
      exact h.agree _ _ _ hstate rfl
    · rw [hinsert]
      exact if_congr (by rw [RebateBatch.enter_strategy, hmirrors.key]) rfl rfl
  have hin := (hinsert s.batches (batch.enter (.Invalidating execution.reservation)) key).trans
    (if_pos rfl)
  have hsaved_after := hafter _ hsaved hin rfl rfl
  obtain ⟨state, hrow, -⟩ := (hsaved.mirrors _ _ hin).state_of
  have hnames := (hsaved.mirrors _ _ hin).names rfl hrow
  refine wp_bind (wp_if_held (hsaved.agree _ state _ hrow hnames)
    (fun r hr => (hsaved.held_named hrow hnames hr).2.2) (fun r hr => ?_) (fun ledger hcloses => ?_)
    (fun _ _ => hsaved_after) fun _ => hsaved_after)
  · obtain ⟨hstored, -, hpending⟩ := hsaved.held_named hrow hnames hr
    refine LedgerService.expire_closes hr hpending fun r' hr' => ?_
    obtain rfl := Option.some.inj (hstored.symm.trans hr')
    exact hpending
  · have hreleased := hsaved.release hcloses fun a other ha hk => by
      refine .inr ?_
      by_contra hsome
      obtain ⟨r, hr⟩ := Option.ne_none_iff_exists'.mp hsome
      obtain rfl := hsaved.promised.unique hr ha (congrArg some hk) hrow hnames
      exact (hsaved.mirrors _ _ hin).not_ready rfl ha other rfl
    have hreleased_after := hafter _ hreleased hin rfl rfl
    have hlast := (hinsert (s.batches.insert key (batch.enter (.Invalidating execution.reservation)))
      (batch.enter .Guarded) key).trans (if_pos rfl)
    refine wp_bind (wp_transact (fun store' hstore' => wp_bind (wp_modify (wp_pure ⟨?_, hlast⟩)))
      (fun _ _ => hreleased_after) (fun _ _ => hreleased_after) fun _ => hreleased_after)
    refine hafter (batch.enter .Guarded) ?_ hlast rfl rfl
    refine hreleased.save_planless hin rfl hstore' rfl hmirrors.key rfl
      ⟨hlegs.nonempty, hlegs.belong⟩ (fun _ _ ha => ha) (fun _ => hguard) (fun k r hr howner => ?_)
      nofun rfl rfl rfl (hinsert _ _)
    obtain rfl := hreleased.holds_only hin rfl hr howner
    cases hcloses.stored.symm.trans hr

/-- The batch has published work, executable up to a block before this one. -/
def Overdue (s : RebateService) (key : StrategyKey) (safe_scanned_block : U64)
    (b : RebateBatchId) : Prop :=
  ∃ batch execution, s.batches[key]? = some batch ∧ batch.id = b ∧ batch.state = .Ready execution ∧
    execution.authorization.deadlineBlock < safe_scanned_block

/-- What there is after an expiry was tried: the invariant, and no settlement of what
    was overdue. -/
structure Expires (keccak256 : Bytes → B256) (F : Frame) (key : StrategyKey)
    (safe_scanned_block : U64) (s s' : RebateService) : Prop where
  consistent : Consistent keccak256 F s'
  unsettled : ∀ b, s.Overdue key safe_scanned_block b → s'.store.rebate_settlement[b]? = none

/-- **Expiry keeps the invariant**: it takes back no more than the work of its strategy,
    and only past the block that work may be executed at. -/
theorem wp_expire_ready {safe_scanned_block : U64} (h : Consistent keccak256 F s)
    (hexcept : ∀ b, s.Overdue key safe_scanned_block b → F.except b)
    (hunsettled : ∀ b, s.Overdue key safe_scanned_block b → s.store.rebate_settlement[b]? = none) :
    wp allowed (expire_ready key safe_scanned_block)
      ⟨fun _ s' => Expires keccak256 F key safe_scanned_block s s' ∧
          ∀ b, ¬s'.Overdue key safe_scanned_block b,
        fun _ => Expires keccak256 F key safe_scanned_block s,
        Expires keccak256 F key safe_scanned_block s⟩ s := by
  have hbefore : Expires keccak256 F key safe_scanned_block s s := ⟨h, hunsettled⟩
  refine wp_bind (wp_read ?_)
  dsimp only
  cases hbatch : s.batches[key]? with
  | none =>
    refine wp_pure ⟨hbefore, fun b ⟨batch, _, hsome, _⟩ => ?_⟩
    cases hbatch.symm.trans hsome
  | some batch =>
    dsimp only
    cases hstate : batch.state with
    | Ready execution =>
      dsimp only
      split
      · refine wp_pure ⟨hbefore, fun b ⟨other, execution', hother, _, hready, hlt⟩ => ?_⟩
        obtain rfl := Option.some.inj (hbatch.symm.trans hother)
        obtain rfl := RebateBatchState.Ready.inj (hstate.symm.trans hready)
        exact absurd hlt (not_lt.mpr ‹_›)
      · have hoverdue : s.Overdue key safe_scanned_block batch.id :=
          ⟨batch, execution, hbatch, rfl, hstate, not_le.mp ‹_›⟩
        have hexpires : ∀ {s' : RebateService}, Unpublished keccak256 F batch.id s s' →
            Expires keccak256 F key safe_scanned_block s s' := by
          refine fun hs' => ⟨hs'.consistent, fun b ⟨other, _, hother, hid, _⟩ => ?_⟩
          obtain rfl := Option.some.inj (hbatch.symm.trans hother)
          exact hid ▸ hs'.settlement
        refine (wp_invalidate_ready h hbatch hstate (hexcept _ hoverdue) (hunsettled _ hoverdue)).mono
          (fun _ s' hs' => ⟨hexpires hs'.1, fun b ⟨other, _, hother, _, hready, _⟩ => ?_⟩)
          (fun _ _ hs' => hexpires hs') fun _ hs' => hexpires hs'
        obtain rfl := Option.some.inj (hs'.2.symm.trans hother)
        cases hready
    | _ =>
      refine wp_pure ⟨hbefore, fun b ⟨other, _, hother, _, hready, _⟩ => ?_⟩
      obtain rfl := Option.some.inj (hbatch.symm.trans hother)
      cases hstate.symm.trans hready

end RebateService

end Solvent
