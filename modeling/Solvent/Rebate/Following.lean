import Solvent.Rebate.Chain
import Solvent.Rebate.Evaluation

/-! # Following the chain

    A frame belongs to one method. Between methods what stays is that the service is
    steady, whatever frame comes next, that its tables follow the chain, and what has
    happened since some earlier state. Here each method is shown to keep that, and so
    is the scan of a range of blocks.
-/

namespace Solvent

open Abi BTreeMap Contract Process SqliteRebateStore

namespace RebateService

variable {keccak256 : Bytes → B256} {F : Frame} {s s' : RebateService} {key : StrategyKey}
  {start_block : U64} {chain : FillerChain}
  {allowed : Option (Process.Fault RebateServiceError) → Prop}
  {except opens : RebateBatchId → Prop} {publishes : RebateExecution → Prop}
  {claims : RebateBatchId → ReservationId → Prop} {α : Type}

/-! ## Between methods -/

/-- The frame of a method that begins here. -/
def frame (s : RebateService) (except opens : RebateBatchId → Prop)
    (publishes : RebateExecution → Prop) (claims : RebateBatchId → ReservationId → Prop) : Frame where
  origin := s.store
  holds := s.ledger
  except
  opens
  publishes
  claims

/-- Any method may begin here. -/
def Steady (keccak256 : Bytes → B256) (s : RebateService) : Prop :=
  ∀ except opens publishes claims, Consistent keccak256 (s.frame except opens publishes claims) s

theorem Consistent.steady (h : Consistent keccak256 F s) : Steady keccak256 s :=
  fun _ _ _ _ => { h with
    calm := .refl _
    unclaiming := ⟨fun _ st _ hst hid => .inr ⟨st, hst, hid⟩, fun _ _ hr => .inl hr,
      fun _ _ hr => .inl hr⟩ }

theorem Steady.consistent (h : Steady keccak256 s) :
    Consistent keccak256 (s.frame (fun _ => False) (fun _ => False) (fun _ => False)
      fun _ _ => False) s :=
  h _ _ _ _

theorem Steady.durable (h : Steady keccak256 s) : Durable keccak256 s := h.consistent.toDurable

theorem Steady.mirrors (h : Steady keccak256 s) :
    ∀ (key : StrategyKey) (batch : RebateBatch), s.batches[key]? = some batch →
      Mirrors s.store s.ledger.stored key batch :=
  h.consistent.mirrors

/-- What has happened since the frame's origin, in whatever methods. -/
structure Since (F : Frame) (s : RebateService) : Prop where
  published : ∀ b execution, s.store.state_of b = some (.Ready execution) →
    F.origin.state_of b = some (.Ready execution) ∨ F.publishes execution
  opened : ∀ b state, s.store.state_of b = some state →
    F.opens b ∨ ∃ state', F.origin.state_of b = some state'
  legs : ∀ (b : RebateBatchId) (row : BatchRow), F.origin.rebate_batch[b]? = some row →
    ∃ row', s.store.rebate_batch[b]? = some row' ∧ row'.strategy = row.strategy ∧
      ∀ (t : TradeId) (a : MinedAccrual), row.accruals[t]? = some a → row'.accruals[t]? = some a
  recorded : Retains F.origin s.store
  unclaiming : Unclaiming F s.store s.ledger

/-- The frame of what follows, with the same permissions. -/
def onward (F : Frame) (s : RebateService) : Frame :=
  s.frame (fun _ => True) F.opens F.publishes F.claims

theorem Since.refl (s : RebateService) : Since (s.frame except opens publishes claims) s where
  published _ _ h := .inl h
  opened _ state h := .inr ⟨state, h⟩
  legs _ row hrow := ⟨row, hrow, rfl, fun _ _ h => h⟩
  recorded := .of_eq fun _ => rfl
  unclaiming :=
    ⟨fun _ st _ hst hid => .inr ⟨st, hst, hid⟩, fun _ _ hr => .inl hr, fun _ _ hr => .inl hr⟩

theorem Since.trans (h : Since F s) (h' : Since (onward F s) s') : Since F s' where
  published b execution hstate := by
    rcases h'.published b execution hstate with hbefore | hnew
    · exact h.published b execution hbefore
    · exact .inr hnew
  opened b state hstate := by
    rcases h'.opened b state hstate with hnew | ⟨state', hbefore⟩
    · exact .inl hnew
    · exact h.opened b state' hbefore
  legs b row hrow := by
    obtain ⟨row', hrow', hkey, hkept⟩ := h.legs b row hrow
    obtain ⟨row'', hrow'', hkey', hkept'⟩ := h'.legs b row' hrow'
    exact ⟨row'', hrow'', hkey'.trans hkey, fun t a ha => hkept' t a (hkept t a ha)⟩
  recorded := h.recorded.trans h'.recorded
  unclaiming := by
    refine ⟨fun b st id hst hid => ?_, fun id r hr => ?_, fun id r hr => ?_⟩
    · rcases h'.unclaiming.names b st id hst hid with hclaimed | ⟨st', hst', hid'⟩
      · exact .inl hclaimed
      · exact h.unclaiming.names b st' id hst' hid'
    · exact (h'.unclaiming.held id r hr).elim (h.unclaiming.held id r) .inr
    · exact (h'.unclaiming.stored id r hr).elim (h.unclaiming.stored id r) .inr

/-- With the permissions of a method, there are those of the frame it runs in. -/
theorem Since.weaken {F' : Frame} (h : Since F s) (horigin : F'.origin = F.origin)
    (hholds : F'.holds = F.holds) (hopens : ∀ b, F.opens b → F'.opens b)
    (hpublishes : ∀ execution, F.publishes execution → F'.publishes execution)
    (hclaims : ∀ b id, F.claims b id → F'.claims b id) : Since F' s where
  published b execution hstate := by
    rw [horigin]
    exact (h.published b execution hstate).imp_right (hpublishes execution)
  opened b state hstate := by
    rw [horigin]
    exact (h.opened b state hstate).imp_left (hopens b)
  legs := horigin ▸ h.legs
  recorded := horigin ▸ h.recorded
  unclaiming := by
    refine ⟨fun b st id hst hid => ?_, fun id r hr => ?_, fun id r hr => ?_⟩
    · rw [horigin]
      exact (h.unclaiming.names b st id hst hid).imp_left (hclaims b id)
    · rw [hholds]
      exact (h.unclaiming.held id r hr).imp_right fun ⟨b, howner, hclaimed⟩ =>
        ⟨b, howner, hclaims b id hclaimed⟩
    · rw [hholds]
      exact (h.unclaiming.stored id r hr).imp_right fun ⟨b, howner, hclaimed⟩ =>
        ⟨b, howner, hclaims b id hclaimed⟩

theorem Consistent.since (h : Consistent keccak256 F s) : Since F s :=
  ⟨h.calm.published, h.calm.opened, h.calm.legs, h.calm.recorded, h.unclaiming⟩

/-- What a running service keeps from method to method. -/
structure Following (keccak256 : Bytes → B256) (start_block : U64) (chain : FillerChain) (F : Frame)
    (s : RebateService) : Prop where
  steady : Steady keccak256 s
  tracked : Tracked start_block chain s.store
  since : Since F s

/-- What a method makes of `s`, wherever it stops. -/
structure Advances (keccak256 : Bytes → B256) (start_block : U64) (chain : FillerChain) (F : Frame)
    (s s' : RebateService) : Prop extends Following keccak256 start_block chain F s' where
  moved : Since (onward F s) s'
  cursor : s'.store.rebate_scan_cursor = s.store.rebate_scan_cursor

/-- The service follows the chain wherever it stops, and has `Q` where it succeeds. -/
def Follows (keccak256 : Bytes → B256) (start_block : U64) (chain : FillerChain) (F : Frame)
    (s : RebateService) (Q : α → RebateService → Prop) : Post RebateService RebateServiceError α where
  done a s' := Advances keccak256 start_block chain F s s' ∧ Q a s'
  failed _ := Advances keccak256 start_block chain F s
  crashed := Advances keccak256 start_block chain F s

theorem Advances.refl (h : Following keccak256 start_block chain F s) :
    Advances keccak256 start_block chain F s s :=
  ⟨h, .refl s, rfl⟩

/-- A method runs, and does no more than the frame allows. -/
theorem Following.next (h : Following keccak256 start_block chain F s)
    (hs' : Consistent keccak256 (s.frame except opens publishes claims) s')
    (hopens : ∀ b, opens b → F.opens b)
    (hpublishes : ∀ execution, publishes execution → F.publishes execution)
    (hclaims : ∀ b id, claims b id → F.claims b id)
    (hended : ∀ m ∈ chain.mined, except m.2.batch_id → s.store.Awaits m.1 m.2 →
      s'.store.Finished m.2 ∨ s'.store.Awaits m.1 m.2)
    (hrecorded : ∀ (b : RebateBatchId) (entry : SettlementRow), except b →
      s'.store.rebate_settlement[b]? = some entry → ∃ m ∈ chain.mined, m.2 = entry.settlement.event)
    (hlive : ∀ execution ∈ chain.exposed, chain.Executable execution →
      ¬except execution.plan.batch_id) : Advances keccak256 start_block chain F s s' := by
  have hsince : Since (onward F s) s' := hs'.since.weaken rfl rfl hopens hpublishes hclaims
  have hfollow := h.tracked.follow hs'.tables rfl hs'.calm hended hrecorded hlive
  refine ⟨⟨hs'.steady, { hfollow with executable := fun execution hexposed hcan => ?_ },
    h.since.trans hsince⟩, hsince, hs'.calm.cursor⟩
  exact hfollow.executable execution (List.mem_append_left _ hexposed) hcan

/-- A method that ends no published work. -/
theorem Following.idle (h : Following keccak256 start_block chain F s)
    (hs' : Consistent keccak256 (s.frame (fun _ => False) opens publishes claims) s')
    (hopens : ∀ b, opens b → F.opens b)
    (hpublishes : ∀ execution, publishes execution → F.publishes execution)
    (hclaims : ∀ b id, claims b id → F.claims b id) : Advances keccak256 start_block chain F s s' :=
  h.next hs' hopens hpublishes hclaims (fun _ _ hexcept => hexcept.elim)
    (fun _ _ hexcept => hexcept.elim) fun _ _ _ hexcept => hexcept

/-! ## Methods -/

/-- **Intake.** -/
theorem wp_accrue_following {accrual : MinedAccrual} (h : Following keccak256 start_block chain F s)
    (hopens : F.opens (batch_id keccak256 accrual)) :
    wp allowed (accrue keccak256 accrual)
      (Follows keccak256 start_block chain F s fun b s' => s'.store.has_leg b accrual ∧
        ∀ a execution, s.store.state_of a = some (.Ready execution) →
          s'.store.state_of a = some (.Ready execution)) s := by
  have hnext : ∀ {s' : RebateService}, Consistent keccak256
      (s.frame (fun _ => False) F.opens (fun _ => False) fun _ _ => False) s' →
      Advances keccak256 start_block chain F s s' :=
    fun hs' => h.idle hs' (fun _ hopen => hopen) (fun _ hnever => hnever.elim)
      fun _ _ hnever => hnever.elim
  refine (wp_accrue (F := s.frame (fun _ => False) F.opens (fun _ => False) fun _ _ => False)
    (h.steady _ _ _ _) hopens).mono (fun b s' hs' => ?_) (fun _ _ hs' => hnext hs')
    fun _ hs' => hnext hs'
  exact ⟨hnext hs'.1, hs'.2,
    fun a execution hready => hs'.1.calm.ready a execution (fun hnever => hnever) hready⟩

/-- **Discarding.** -/
theorem wp_discard_following (h : Following keccak256 start_block chain F s) (key : StrategyKey) :
    wp allowed (discard key) (Follows keccak256 start_block chain F s fun _ _ => True) s := by
  have hnext : ∀ {s' : RebateService}, Consistent keccak256
      (s.frame (fun _ => False) (fun _ => False) (fun _ => False) fun _ _ => False) s' →
      Advances keccak256 start_block chain F s s' :=
    fun hs' => h.idle hs' (fun _ hnever => hnever.elim) (fun _ hnever => hnever.elim)
      fun _ _ hnever => hnever.elim
  exact (wp_discard (h.steady _ _ _ _) key).mono (fun _ _ hs' => ⟨hnext hs', trivial⟩)
    (fun _ _ hs' => hnext hs') fun _ hs' => hnext hs'

/-- **Evaluation.** It publishes, and claims the reservation of its input for the batch. -/
theorem wp_evaluate_following {policy : RebatePolicyConfig} {config : RebateServiceConfig}
    {ports : RebatePorts} {input : RebateEvaluationInput}
    (h : Following keccak256 start_block chain F s) (hpublishable : Publishable ports input)
    (hpublishes : ∀ plan execution, FillerRebateCallBuilder.Publishes keccak256 plan
      input.reservation_id input.deadline_block execution → F.publishes execution)
    (hclaims : ∀ batch, s.batches[input.strategy.key]? = some batch →
      F.claims batch.id input.reservation_id)
    (hunclaimed : ∀ batch, s.batches[input.strategy.key]? = some batch →
      Unclaimed s input.reservation_id batch.id) :
    wp allowed (evaluate keccak256 policy config ports input)
      (Follows keccak256 start_block chain F s fun _ _ => True) s := by
  have hnext : ∀ {s' : RebateService},
      Consistent keccak256 (s.frame (fun _ => False) (fun _ => False) F.publishes F.claims) s' →
      Advances keccak256 start_block chain F s s' :=
    fun hs' => h.idle hs' (fun _ hnever => hnever.elim) (fun _ hpublished => hpublished)
      fun _ _ hclaimed => hclaimed
  exact (wp_evaluate (F := s.frame (fun _ => False) (fun _ => False) F.publishes F.claims)
    (h.steady _ _ _ _) hpublishable hpublishes hclaims hunclaimed).mono
    (fun _ _ hs' => ⟨hnext hs', trivial⟩) (fun _ _ hs' => hnext hs') fun _ hs' => hnext hs'

/-- What is tried with an event leaves it finished or waited for. -/
theorem Following.attempted (h : Following keccak256 start_block chain F s)
    {m : RebateExecution × RebateExecutedEvent} (hm : m ∈ chain.mined)
    (hs' : Attempted keccak256
      (s.frame (· = m.2.batch_id) (fun _ => False) (fun _ => False) fun _ _ => False) m.2 s s') :
    Advances keccak256 start_block chain F s s' := by
  have htables := h.steady.durable.tables
  refine h.next hs'.consistent (fun _ hnever => hnever.elim) (fun _ hnever => hnever.elim)
    (fun _ _ hnever => hnever.elim) (fun m' hm' hid hawaits => ?_) (fun b entry hb hentry => ?_)
    fun execution hexposed hcan hb => ?_
  · have hevent := h.tracked.event_unique htables hm' hm hid
    rcases hs'.event with ⟨hsettlement, hstate⟩ | hsettled
    · refine .inr ⟨?_, hawaits.valid, fun entry hentry => ?_⟩
      · rw [hid, hstate, ← hid]
        exact hawaits.ready
      · rw [hid, hsettlement, ← hid] at hentry
        exact hawaits.alone entry hentry
    · rw [← hevent] at hsettled
      rcases hs'.consistent.tables.finished_or_settling hsettled with hfinished | ⟨execution, hready⟩
      · exact .inl hfinished
      · obtain ⟨entry, hentry, hsame⟩ := hsettled
        have hbefore := (hs'.consistent.calm.published _ execution hready).resolve_right
          fun hnever => hnever
        obtain rfl := RebateBatchState.Ready.inj (Option.some.inj (hbefore.symm.trans hawaits.ready))
        refine .inr ⟨hready, hawaits.valid, fun entry' hentry' => ?_⟩
        obtain rfl := Option.some.inj (hentry.symm.trans hentry')
        exact hsame
  · subst hb
    rcases hs'.event with ⟨hsettlement, -⟩ | ⟨entry', hentry', hsame⟩
    · exact h.tracked.recorded _ entry (hsettlement.symm.trans hentry)
    · obtain rfl := Option.some.inj (hentry.symm.trans hentry')
      exact ⟨m, hm, hsame.symm⟩
  · -- An event of this batch is mined already, so its nonce is used.
    have hready := h.tracked.executable execution hexposed hcan
    rw [hb] at hready
    rcases h.tracked.reported m hm with hfinished | ⟨hawaits, -⟩
    · rw [htables.closed_of_finished hfinished] at hready
      cases hready
    · have hsame := RebateBatchState.Ready.inj (Option.some.inj (hawaits.ready.symm.trans hready))
      exact hcan.1 (hsame ▸ Tracked.mem_spent hm)

/-- **Settling a mined event.** It is finished, where the call succeeds. -/
theorem wp_settle_following {m : RebateExecution × RebateExecutedEvent} {executed_at : U64}
    (h : Following keccak256 start_block chain F s) (hm : m ∈ chain.mined) :
    wp allowed (settle m.2 executed_at) (Follows keccak256 start_block chain F s
      fun _ s' => s'.store.Finished m.2) s := by
  refine (wp_settle (F := s.frame (· = m.2.batch_id) (fun _ => False) (fun _ => False) fun _ _ => False)
    (h.steady _ _ _ _) rfl).mono (fun settled s' hs' => ?_) (fun _ _ hs' => h.attempted hm hs'.1)
    fun _ hs' => h.attempted hm hs'
  cases settled with
  | true =>
    obtain ⟨entry, hentry, hstatus, hsame⟩ := hs'.2
    exact ⟨h.attempted hm ⟨hs'.1, .inr ⟨entry, hentry, hsame⟩⟩, entry, hentry, hstatus, hsame⟩
  | false =>
    obtain ⟨rfl, hclosed⟩ := hs'.2
    refine ⟨.refl h, (h.tracked.reported m hm).resolve_right fun hawaits => ?_⟩
    rw [hawaits.1.ready] at hclosed
    cases hclosed

/-! ## Scanned blocks -/

/-- **What is overdue was not executed**, where the blocks up to its deadline are
    scanned. -/
theorem Following.not_mined (h : Following keccak256 start_block chain F s)
    {config : RebateWorkerConfig} (hconfig : config.start_block = start_block) {safe_scanned_block : U64}
    (hscanned : safe_scanned_block < RebateWorker.next_block config s.store.rebate_scan_cursor)
    {b : RebateBatchId} (hoverdue : s.Overdue key safe_scanned_block b)
    {m : RebateExecution × RebateExecutedEvent} (hm : m ∈ chain.mined) : m.2.batch_id ≠ b := by
  obtain ⟨batch, execution, hbatch, rfl, hready, hdeadline⟩ := hoverdue
  have hstate := (h.steady.mirrors key batch hbatch).ready hready
  rintro hid
  rw [← hid] at hstate
  -- Its work would have been executed in time, so in a block that was scanned.
  have hunfinished : ∀ execution', s.store.state_of m.2.batch_id = some (.Ready execution') →
      ¬s.store.Finished m.2 := by
    intro execution' hnow hfinished
    rw [h.steady.durable.tables.closed_of_finished hfinished] at hnow
    cases hnow
  rcases h.tracked.reported m hm with hfinished | ⟨hawaits, -⟩
  · exact hunfinished execution hstate hfinished
  · obtain rfl := RebateBatchState.Ready.inj (Option.some.inj (hawaits.ready.symm.trans hstate))
    have hblock : m.2.block_number.val ≤ m.1.authorization.deadlineBlock.val :=
      (require_eq_ok.mp hawaits.valid).2
    have hlate : m.1.authorization.deadlineBlock.val < safe_scanned_block.val := hdeadline
    refine hunfinished _ hstate (h.tracked.finished hconfig hm (lt_trans (Fin.lt_def.mpr ?_) hscanned))
    omega

/-- And cannot be any more. -/
theorem Following.not_executable (h : Following keccak256 start_block chain F s)
    {config : RebateWorkerConfig} (hconfig : config.start_block = start_block)
    {safe_scanned_block : U64}
    (hscanned : safe_scanned_block < RebateWorker.next_block config s.store.rebate_scan_cursor)
    {execution : RebateExecution} (hexposed : execution ∈ chain.exposed)
    (hcan : chain.Executable execution) :
    ¬s.Overdue key safe_scanned_block execution.plan.batch_id := by
  rintro ⟨batch, execution', hbatch, hid, hready, hdeadline⟩
  have hstate := (h.steady.mirrors key batch hbatch).ready hready
  rw [hid, h.tracked.executable execution hexposed hcan] at hstate
  obtain rfl := RebateBatchState.Ready.inj (Option.some.inj hstate)
  have hhead : chain.head.val < execution.authorization.deadlineBlock.val := hcan.2
  have hlate : execution.authorization.deadlineBlock.val < safe_scanned_block.val := hdeadline
  rcases RebateWorker.scanned_of_lt hscanned with ⟨block, hcursor, hle⟩ | hstart
  · have hblock := h.tracked.scanned block hcursor
    omega
  · have hstarted := h.tracked.started
    rw [hconfig] at hstart
    omega

/-- **Expiry**, past the blocks that are scanned. -/
theorem wp_expire_following (h : Following keccak256 start_block chain F s)
    {config : RebateWorkerConfig} (hconfig : config.start_block = start_block)
    {safe_scanned_block : U64}
    (hscanned : safe_scanned_block < RebateWorker.next_block config s.store.rebate_scan_cursor) :
    wp allowed (expire_ready key safe_scanned_block) (Follows keccak256 start_block chain F s
      fun _ s' => ∀ b, ¬s'.Overdue key safe_scanned_block b) s := by
  have hnone : ∀ b, s.Overdue key safe_scanned_block b → s.store.rebate_settlement[b]? = none := by
    intro b hoverdue
    cases hentry : s.store.rebate_settlement[b]? with
    | none => rfl
    | some entry =>
      obtain ⟨m, hm, hevent⟩ := h.tracked.recorded b entry hentry
      refine absurd ?_ (h.not_mined hconfig hscanned hoverdue hm)
      obtain ⟨hbatch, hvalid, -⟩ := h.steady.durable.tables.settlements b entry hentry
      have hmatches := (require_eq_ok.mp hvalid).2
      unfold event_matches at hmatches
      rw [decide_eq_true_eq] at hmatches
      rw [hevent, hmatches.1, hbatch]
  have hnext : ∀ {s' : RebateService}, Expires keccak256
      (s.frame (s.Overdue key safe_scanned_block) (fun _ => False) (fun _ => False) fun _ _ => False)
      key safe_scanned_block s s' →
      Advances keccak256 start_block chain F s s' := by
    refine fun hs' => h.next hs'.consistent (fun _ hnever => hnever.elim)
      (fun _ hnever => hnever.elim) (fun _ _ hnever => hnever.elim)
      (fun m hm hoverdue => absurd rfl (h.not_mined hconfig hscanned hoverdue hm))
      (fun b entry hoverdue hentry => ?_) fun execution hexposed hcan =>
        h.not_executable hconfig hscanned hexposed hcan
    cases (hs'.unsettled b hoverdue).symm.trans hentry
  exact (wp_expire_ready (h.steady _ _ _ _) (fun _ hoverdue => hoverdue) hnone).mono
    (fun _ _ hs' => ⟨hnext hs'.1, hs'.2⟩) (fun _ _ hs' => hnext hs') fun _ hs' => hnext hs'

/-! ## The scan -/

theorem save_scan_cursor_ok {store store' : SqliteRebateStore} {block_number : U64}
    (h : store.save_scan_cursor block_number = .ok store') :
    ∃ block : I64, store' = { store with rebate_scan_cursor := some block } ∧
      block_number.val ≤ block.val ∧
      (block.val = block_number.val ∨ store.rebate_scan_cursor = some block) := by
  unfold save_scan_cursor i64_of at h
  split at h
  · cases h
  · rename_i block hblock
    split at hblock
    · obtain rfl := Except.ok.inj hblock
      split at h
      · obtain rfl := Except.ok.inj h
        exact ⟨_, rfl, le_refl _, .inl rfl⟩
      · rename_i cursor hcursor
        split at h
        · obtain rfl := Except.ok.inj h
          exact ⟨_, rfl, le_refl _, .inl rfl⟩
        · obtain rfl := Except.ok.inj h
          refine ⟨cursor, ?_, le_of_lt (not_le.mp ‹_›), .inr hcursor⟩
          rw [← hcursor]
    · cases hblock

/-- The cursor is of no interest to the service. -/
theorem Steady.scan (h : Steady keccak256 s) (cursor : Option I64) :
    Steady keccak256 { s with store := { s.store with rebate_scan_cursor := cursor } } := by
  intro except opens publishes claims
  have hs := h except opens publishes claims
  refine ⟨⟨⟨⟨hs.tables.schema.one_open, hs.tables.schema.one_leg⟩, hs.tables.legs, hs.tables.loads,
      hs.tables.reservations, fun b entry hentry => ?_⟩, hs.promised⟩, .refl _,
    ⟨fun _ st _ hst hid => .inr ⟨st, hst, hid⟩, fun _ _ hr => .inl hr, fun _ _ hr => .inl hr⟩,
    fun key batch hbatch => ?_, hs.loaded, hs.guarded, hs.agree, hs.owned_held, hs.keyed⟩
  · obtain ⟨hid, hvalid, hpaid⟩ := hs.tables.settlements b entry hentry
    exact ⟨hid, hvalid, hpaid⟩
  · obtain ⟨hkey, hrow⟩ := hs.mirrors key batch hbatch
    exact ⟨hkey, hrow⟩

theorem Since.scan (h : Since F s) (cursor : Option I64) :
    Since F { s with store := { s.store with rebate_scan_cursor := cursor } } :=
  ⟨h.published, h.opened, h.legs, h.recorded,
    ⟨h.unclaiming.names, h.unclaiming.held, h.unclaiming.stored⟩⟩

/-- **The cursor moves** past blocks whose events are settled. -/
theorem Following.scan (h : Following keccak256 start_block chain F s) {block : I64}
    (hhead : block.val ≤ chain.head.val)
    (hfinished : ∀ m ∈ chain.mined, m.2.block_number.val ≤ block.val → s.store.Finished m.2) :
    Following keccak256 start_block chain F
      { s with store := { s.store with rebate_scan_cursor := some block } } := by
  refine ⟨h.steady.scan _, ⟨h.tracked.started, fun cursor hcursor => ?_, h.tracked.numbered,
    h.tracked.once, fun m hm => ?_, h.tracked.recorded, h.tracked.executable⟩, h.since.scan _⟩
  · obtain rfl := Option.some.inj hcursor
    exact hhead
  · by_cases hblock : m.2.block_number.val ≤ block.val
    · exact .inl (hfinished m hm hblock)
    · refine (h.tracked.reported m hm).imp id fun ⟨hawaits, _⟩ =>
        ⟨⟨hawaits.ready, hawaits.valid, hawaits.alone⟩, fun cursor hcursor => ?_⟩
      obtain rfl := Option.some.inj hcursor
      exact not_le.mp hblock

theorem wp_port {answer : α} {Q : Post RebateService RebateServiceError α} (hdone : Q.done answer s)
    (hfail : ∀ e, Q.failed e s) (hcrash : Q.crashed s) :
    wp allowed (RebateWorker.port answer) Q s := by
  refine wp_call (fun a s' h => ?_) (fun e s' h => ?_) (fun e _ => hfail e) fun _ => hcrash
  · obtain ⟨ha, rfl⟩ := Prod.mk.inj h
    obtain rfl := Except.ok.inj ha
    exact hdone
  · cases h

/-- Between two events of a scan: those still to come are mined, and the others that were
    fetched are finished. -/
structure Reconciling (keccak256 : Bytes → B256) (start_block : U64) (chain : FillerChain) (F : Frame)
    (cursor : Option I64) (fetched events : List RebateExecutedEvent) (s : RebateService) : Prop
    extends Following keccak256 start_block chain F s where
  cursor : s.store.rebate_scan_cursor = cursor
  mined : ∀ event ∈ events, ∃ m ∈ chain.mined, m.2 = event
  rest : ∀ event ∈ fetched, event ∈ events ∨ s.store.Finished event

/-- **One event of a scan.** -/
theorem wp_settle_reconciling {cursor : Option I64} {fetched events : List RebateExecutedEvent}
    {event : RebateExecutedEvent} {executed_at : U64} {settled : ℕ}
    (h : Reconciling keccak256 start_block chain F cursor fetched (event :: events) s) :
    wp allowed (do
        let done ← settle event executed_at
        pure (settled + done.toNat))
      ⟨fun _ => Reconciling keccak256 start_block chain F cursor fetched events,
        fun _ => Following keccak256 start_block chain F, Following keccak256 start_block chain F⟩ s := by
  obtain ⟨m, hm, rfl⟩ := h.mined event List.mem_cons_self
  refine wp_bind ((wp_settle_following h.toFollowing hm).mono (fun _ s' hs' => wp_pure ?_)
    (fun _ _ hs' => hs'.toFollowing) fun _ hs' => hs'.toFollowing)
  obtain ⟨hadvances, hfinished⟩ := hs'
  refine ⟨hadvances.toFollowing, hadvances.cursor.trans h.cursor,
    fun event hmem => h.mined event (List.mem_cons_of_mem _ hmem), fun event hmem => ?_⟩
  rcases h.rest event hmem with hcome | hdone
  · rcases List.mem_cons.mp hcome with rfl | hcome
    · exact .inr hfinished
    · exact .inl hcome
  · exact .inr (hdone.retained hadvances.moved.recorded)

theorem mem_fetch {logs : List RebateExecutedEvent} {from_block to_block : U64}
    {event : RebateExecutedEvent} : event ∈ AlloyRebateChainSource.fetch logs from_block to_block ↔
      event ∈ logs ∧ from_block ≤ event.block_number ∧ event.block_number ≤ to_block := by
  unfold AlloyRebateChainSource.fetch
  rw [List.mem_mergeSort, List.mem_filter, decide_eq_true_eq]

/-- **The cursor is saved** after the last event. -/
theorem Reconciling.finish {config : RebateWorkerConfig} (hconfig : config.start_block = start_block)
    {cursor : Option I64} {logs : List RebateExecutedEvent} {safe_head : U64}
    (h : Reconciling keccak256 start_block chain F cursor (AlloyRebateChainSource.fetch logs
      (RebateWorker.next_block config cursor) safe_head) [] s)
    (hlogs : logs = chain.mined.map Prod.snd) (hhead : safe_head ≤ chain.head)
    {store : SqliteRebateStore} (hstore : s.store.save_scan_cursor safe_head = .ok store) :
    Following keccak256 start_block chain F { s with store } ∧
      safe_head < RebateWorker.next_block config store.rebate_scan_cursor := by
  obtain ⟨block, rfl, hblock, hnew⟩ := save_scan_cursor_ok hstore
  have hle : block.val ≤ chain.head.val := by
    rcases hnew with heq | hold
    · rw [heq]
      exact hhead
    · exact h.tracked.scanned block hold
  refine ⟨h.toFollowing.scan hle fun m hm hlow => ?_, ?_⟩
  · by_cases hbefore : m.2.block_number < RebateWorker.next_block config s.store.rebate_scan_cursor
    · exact h.tracked.finished hconfig hm hbefore
    rcases hnew with heq | hold
    · -- The block was in the range of the scan.
      rw [h.cursor] at hbefore
      refine (h.rest m.2 (mem_fetch.mpr ⟨?_, not_lt.mp hbefore, ?_⟩)).resolve_left nofun
      · rw [hlogs]
        exact List.mem_map_of_mem hm
      · rw [Fin.le_def, ← heq]
        exact hlow
    · refine absurd (Fin.lt_def.mpr ?_) hbefore
      rw [RebateWorker.next_block_val, hold]
      exact Nat.lt_succ_of_le hlow
  · show safe_head < RebateWorker.next_block config (some block)
    rw [Fin.lt_def, RebateWorker.next_block_val]
    exact Nat.lt_succ_of_le hblock

/-- **The scan.** Where it succeeds, everything mined up to the block is settled, and the
    cursor is past it. -/
theorem wp_reconcile_following (h : Following keccak256 start_block chain F s)
    {config : RebateWorkerConfig} (hconfig : config.start_block = start_block) {answers : RebateTick}
    (hlogs : answers.logs = chain.mined.map Prod.snd) {safe_head : U64} (hhead : safe_head ≤ chain.head) :
    wp allowed (RebateWorker.reconcile_executions config answers safe_head)
      ⟨fun _ s' => Following keccak256 start_block chain F s' ∧
        safe_head < RebateWorker.next_block config s'.store.rebate_scan_cursor,
        fun _ => Following keccak256 start_block chain F, Following keccak256 start_block chain F⟩ s := by
  refine wp_bind (wp_query (fun cursor hcursor => ?_) (fun _ herror => by cases herror)
    (fun _ _ => h) fun _ => h)
  obtain rfl := Except.ok.inj hcursor
  refine wp_ite (fun hscanned => wp_pure ⟨h, hscanned⟩) fun _ => ?_
  refine wp_bind (wp_port (wp_bind ?_) (fun _ => h) h)
  have hstart : Reconciling keccak256 start_block chain F s.store.rebate_scan_cursor
      (AlloyRebateChainSource.fetch answers.logs
        (RebateWorker.next_block config s.store.rebate_scan_cursor) safe_head)
      (AlloyRebateChainSource.fetch answers.logs
        (RebateWorker.next_block config s.store.rebate_scan_cursor) safe_head) s := by
    refine ⟨h, rfl, fun event hmem => ?_, fun event hmem => .inl hmem⟩
    have hmined := (mem_fetch.mp hmem).1
    rw [hlogs] at hmined
    exact List.mem_map.mp hmined
  refine (wp_foldlM (I := fun events (_ : ℕ) => Reconciling keccak256 start_block chain F
    s.store.rebate_scan_cursor (AlloyRebateChainSource.fetch answers.logs
      (RebateWorker.next_block config s.store.rebate_scan_cursor) safe_head) events)
    (fun event events settled s' hs' => ?_) hstart).mono (fun settled s' hs' => ?_)
    (fun _ _ hs' => hs') fun _ hs' => hs'
  · exact wp_settle_reconciling hs'
  · exact wp_bind (wp_transact (fun store hstore => wp_pure (hs'.finish hconfig hlogs hhead hstore))
      (fun _ _ => hs'.toFollowing) (fun _ _ => hs'.toFollowing) fun _ => hs'.toFollowing)

end RebateService

end Solvent
