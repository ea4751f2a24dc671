import Solvent.Rebate.Following

/-! # A tick of the worker

    Whatever fails during a tick, the service goes on following the chain. A tick that
    succeeds has settled every execution up to its safe block, has taken in every
    confirmed leg whose strategy had no public work, and leaves no public work behind
    that was past its deadline.
-/

namespace Solvent

open Abi BTreeMap Contract Process SqliteRebateStore

/-! ## Legs still to be taken in -/

namespace SqliteRebateStore

variable {keccak256 : Bytes → B256} {store store' : SqliteRebateStore} {key : StrategyKey}

/-- The leg is in no batch, and its strategy has no public work. -/
def Waiting (store : SqliteRebateStore) (accrual : MinedAccrual) : Prop :=
  (store.find_accrual accrual.strategy accrual.trade_id).isNone = true ∧
    store.is_published accrual.strategy = false

instance (store : SqliteRebateStore) (accrual : MinedAccrual) : Decidable (store.Waiting accrual) := by
  unfold Waiting
  infer_instance

theorem pending_eq (confirmed : List MinedAccrual) (store : SqliteRebateStore) (limit : ℕ) :
    SqliteRebateAccrualSource.pending confirmed store limit =
      (confirmed.filter fun a => store.Waiting a).take limit := rfl

theorem isNone_find_accrual {accrual : MinedAccrual} :
    (store.find_accrual accrual.strategy accrual.trade_id).isNone = true ↔
      ∀ (b : RebateBatchId) (row : BatchRow), store.rebate_batch[b]? = some row →
        row.strategy = accrual.strategy → row.accruals[accrual.trade_id]? = none := by
  rw [Option.isNone_iff_eq_none]
  constructor
  · exact fun h b row hrow hkey => find_accrual_none h hrow hkey
  · intro h
    by_contra hsome
    obtain ⟨⟨b, a⟩, hfound⟩ := Option.ne_none_iff_exists'.mp hsome
    obtain ⟨row, hrow, hkey, ha⟩ := find_accrual_some hfound
    cases (h b row hrow hkey).symm.trans ha

theorem Tables.is_published_iff (h : Tables keccak256 store) : store.is_published key = true ↔
    ∃ (b : RebateBatchId) (row : BatchRow) (execution : RebateExecution),
      store.rebate_batch[b]? = some row ∧ row.strategy = key ∧ row.state = some (.Ready execution) := by
  unfold is_published
  constructor
  · intro hany
    cases hfound : store.open_row key with
    | none =>
      rw [hfound] at hany
      cases hany
    | some e =>
      obtain ⟨hrow, hkey, -⟩ := open_row_some hfound
      rw [hfound, Option.bind_some] at hany
      cases hstate : e.2.state with
      | none =>
        rw [hstate] at hany
        cases hany
      | some state =>
        rw [hstate] at hany
        cases state with
        | Ready execution => exact ⟨e.1, e.2, execution, hrow, hkey, hstate⟩
        | _ => cases hany
  · rintro ⟨b, row, execution, hrow, rfl, hstate⟩
    rw [h.schema.open_row hrow (by rw [hstate]; rfl), Option.bind_some, hstate]
    rfl

/-- **Nothing starts to wait**, where legs stay and work stays published. -/
theorem Tables.waiting_of (h : Tables keccak256 store) (h' : Tables keccak256 store')
    (hlegs : ∀ (b : RebateBatchId) (row : BatchRow), store.rebate_batch[b]? = some row →
      ∃ row', store'.rebate_batch[b]? = some row' ∧ row'.strategy = row.strategy ∧
        ∀ (t : TradeId) (a : MinedAccrual), row.accruals[t]? = some a → row'.accruals[t]? = some a)
    (hready : ∀ b execution, store.state_of b = some (.Ready execution) →
      store'.state_of b = some (.Ready execution)) {accrual : MinedAccrual}
    (hwaiting : store'.Waiting accrual) : store.Waiting accrual := by
  refine ⟨isNone_find_accrual.mpr fun b row hrow hkey => ?_, ?_⟩
  · by_contra hsome
    obtain ⟨a, ha⟩ := Option.ne_none_iff_exists'.mp hsome
    obtain ⟨row', hrow', hkey', hkept⟩ := hlegs b row hrow
    cases (isNone_find_accrual.mp hwaiting.1 b row' hrow' (hkey'.trans hkey)).symm.trans (hkept _ a ha)
  · by_contra hpublished
    obtain ⟨b, row, execution, hrow, hkey, hstate⟩ :=
      h.is_published_iff.mp (Bool.eq_true_of_not_eq_false hpublished)
    obtain ⟨row', hrow', hkey', -⟩ := hlegs b row hrow
    obtain ⟨row'', hrow'', hstate'⟩ :=
      state_of_eq_some.mp (hready b execution (state_of_eq_some.mpr ⟨row, hrow, hstate⟩))
    obtain rfl := Option.some.inj (hrow'.symm.trans hrow'')
    have htrue : store'.is_published accrual.strategy = true :=
      h'.is_published_iff.mpr ⟨b, row', execution, hrow', hkey'.trans hkey, hstate'⟩
    cases hwaiting.2.symm.trans htrue

theorem Tables.not_waiting (h : Tables keccak256 store) {b : RebateBatchId} {accrual : MinedAccrual}
    (hleg : store.has_leg b accrual) : ¬store.Waiting accrual := by
  rintro ⟨hnone, -⟩
  obtain ⟨row, hrow, ha⟩ := hleg
  have hbelongs := (accrual_belongs_iff.mp ((h.legs b row hrow).belong _ accrual ha)).2.1
  cases (isNone_find_accrual.mp hnone b row hrow hbelongs.symm).symm.trans ha

end SqliteRebateStore

namespace RebateService

variable {keccak256 : Bytes → B256} {F : Frame} {s s' : RebateService} {start_block : U64}
  {chain : FillerChain} {allowed : Option (Process.Fault RebateServiceError) → Prop}
  {config : RebateWorkerConfig} {answers : RebateTick} {α : Type}

/-! ## Intake -/

/-- Between two legs of a page: only what waited before waits, and of the page only what
    is still to come. -/
structure Accruing (keccak256 : Bytes → B256) (start_block : U64) (chain : FillerChain) (F : Frame)
    (origin : SqliteRebateStore) (page pending : List MinedAccrual) (s : RebateService) : Prop
    extends Following keccak256 start_block chain F s where
  cursor : s.store.rebate_scan_cursor = origin.rebate_scan_cursor
  opens : ∀ a ∈ pending, F.opens (batch_id keccak256 a)
  waits : ∀ a, s.store.Waiting a → origin.Waiting a ∧ (a ∈ page → a ∈ pending)

/-- **One leg of a page.** -/
theorem wp_accrue_page {origin : SqliteRebateStore} {page pending : List MinedAccrual}
    {accrual : MinedAccrual} {accrued : ℕ}
    (h : Accruing keccak256 start_block chain F origin page (accrual :: pending) s) :
    wp allowed (do
        let _ ← accrue keccak256 accrual
        pure (accrued + 1))
      ⟨fun _ => Accruing keccak256 start_block chain F origin page pending,
        fun _ => Following keccak256 start_block chain F, Following keccak256 start_block chain F⟩ s := by
  refine wp_bind ((wp_accrue_following h.toFollowing (h.opens _ List.mem_cons_self)).mono
    (fun b s' hs' => wp_pure ?_) (fun _ _ hs' => hs'.toFollowing) fun _ hs' => hs'.toFollowing)
  obtain ⟨hadvances, hleg, hready⟩ := hs'
  refine ⟨hadvances.toFollowing, hadvances.cursor.trans h.cursor,
    fun a ha => h.opens a (List.mem_cons_of_mem _ ha), fun a hwaiting => ?_⟩
  have htables := hadvances.steady.durable.tables
  have hbefore := h.steady.durable.tables.waiting_of htables hadvances.moved.legs hready hwaiting
  obtain ⟨horigin, hcome⟩ := h.waits a hbefore
  refine ⟨horigin, fun hpage => (List.mem_cons.mp (hcome hpage)).resolve_left ?_⟩
  rintro rfl
  exact htables.not_waiting hleg hwaiting

theorem length_filter_lt {p q : α → Prop} [DecidablePred p] [DecidablePred q] {l : List α} {x : α}
    (himp : ∀ a, p a → q a) (hx : x ∈ l) (hq : q x) (hp : ¬p x) :
    (l.filter fun a => p a).length < (l.filter fun a => q a).length := by
  have hsub : (l.filter fun a => p a).Sublist (l.filter fun a => q a) :=
    List.monotone_filter_right l fun a ha => decide_eq_true (himp a (of_decide_eq_true ha))
  refine lt_of_not_ge fun hle => hp ?_
  have hmem : x ∈ l.filter fun a => q a := List.mem_filter.mpr ⟨hx, decide_eq_true hq⟩
  rw [← hsub.eq_of_length_le hle] at hmem
  exact of_decide_eq_true (List.mem_filter.mp hmem).2

/-- **Intake.** Where it succeeds no confirmed leg waits any more, and it has rounds
    enough: a page that is full takes some leg in. -/
theorem wp_intake (hopens : ∀ a ∈ answers.confirmed, F.opens (batch_id keccak256 a)) {rounds : ℕ} :
    ∀ {accrued : ℕ} {s : RebateService}, Following keccak256 start_block chain F s →
      (answers.confirmed.filter fun a => s.store.Waiting a).length < rounds →
      wp allowed (RebateWorker.intake keccak256 answers rounds accrued)
        ⟨fun _ s' => Following keccak256 start_block chain F s' ∧
            s'.store.rebate_scan_cursor = s.store.rebate_scan_cursor ∧
            ∀ a ∈ answers.confirmed, ¬s'.store.Waiting a,
          fun _ => Following keccak256 start_block chain F,
          Following keccak256 start_block chain F⟩ s := by
  induction rounds with
  | zero => exact fun _ hlt => absurd hlt (Nat.not_lt_zero _)
  | succ rounds ih =>
    intro accrued s h hlt
    refine wp_bind (wp_query (fun page hpage => ?_) (fun _ herror => by cases herror) (fun _ _ => h)
      fun _ => h)
    obtain rfl := Except.ok.inj hpage
    rw [pending_eq]
    have hwaiting : ∀ a, a ∈ answers.confirmed.filter (fun a => s.store.Waiting a) ↔
        a ∈ answers.confirmed ∧ s.store.Waiting a := by
      intro a
      rw [List.mem_filter, decide_eq_true_eq]
    generalize hlist : answers.confirmed.filter (fun a => s.store.Waiting a) = waiting at hlt hwaiting ⊢
    have hstart : Accruing keccak256 start_block chain F s.store (waiting.take INTAKE_BATCH_LIMIT)
        (waiting.take INTAKE_BATCH_LIMIT) s :=
      ⟨h, rfl, fun a ha => hopens a ((hwaiting a).mp (List.mem_of_mem_take ha)).1,
        fun a ha => ⟨ha, fun hpage => hpage⟩⟩
    refine wp_bind ((wp_foldlM (I := fun pending (_ : ℕ) => Accruing keccak256 start_block chain F
      s.store (waiting.take INTAKE_BATCH_LIMIT) pending)
      (fun accrual pending accrued s' hs' => wp_accrue_page hs') hstart).mono (fun accrued s' hs' => ?_)
      (fun _ _ hs' => hs') fun _ hs' => hs')
    refine wp_ite (fun hshort => wp_pure ⟨hs'.toFollowing, hs'.cursor, fun a ha hnow => ?_⟩)
      fun hfull => (ih hs'.toFollowing ?_).mono (fun _ _ ⟨hfollowing, hcursor, hnone⟩ =>
        ⟨hfollowing, hcursor.trans hs'.cursor, hnone⟩) (fun _ _ hs'' => hs'') fun _ hs'' => hs''
    · -- The last page has everything that waited.
      obtain ⟨hbefore, hcome⟩ := hs'.waits a hnow
      rw [List.length_take] at hshort
      rw [List.take_of_length_le (by omega)] at hcome
      cases hcome ((hwaiting a).mpr ⟨ha, hbefore⟩)
    · have hne : waiting.take INTAKE_BATCH_LIMIT ≠ [] := by
        intro hnil
        rw [hnil] at hfull
        exact hfull (by decide)
      obtain ⟨x, hx⟩ := List.exists_mem_of_ne_nil _ hne
      obtain ⟨hconfirmed, hbefore⟩ := (hwaiting x).mp (List.mem_of_mem_take hx)
      have hless := length_filter_lt (l := answers.confirmed) (fun a ha => (hs'.waits a ha).1)
        hconfirmed hbefore fun hnow => by cases (hs'.waits x hnow).2 hx
      rw [hlist] at hless
      omega

/-! ## What a pass relies on -/

/-- The registry is indexed, the signer answers 65 bytes, programs fit in memory, and no
    curve gives output away. -/
structure Reliable (ports : RebatePorts) (answers : RebateTick) : Prop where
  indexed : answers.snapshot.Indexed
  signature : ∀ a signature, ports.authorize a = some signature → signature.length = 65
  program : ∀ key, (answers.program key).length < 2 ^ 64
  priced : ∀ (key : StrategyKey) (strategy : MakerStrategy) (caps : AvailableSnapshot)
    (token_in token_out : Address) (c : Candidate),
    answers.snapshot.strategies[key]? = some strategy →
    build_pricing_candidate strategy caps token_in token_out = some c →
    ∀ o, o ≠ 0 → c.net_quote_exact_out o ≠ .ok 0

/-- The ids that batches reserve under: hashes, one a batch, that nobody else has open. -/
structure Fresh (ids : RebateBatchId → ReservationId) (known : RebateBatchId → Prop)
    (s : RebateService) : Prop where
  nonzero : ∀ b, known b → (ids b).hash ≠ 0
  distinct : ∀ a b, known a → known b → ids a = ids b → a = b
  unclaimed : ∀ b, known b → Unclaimed s (ids b) b

/-- What a tick may do from here: publish up to one deadline, and reserve under its ids. -/
def permit (s : RebateService) (opens known : RebateBatchId → Prop)
    (ids : RebateBatchId → ReservationId) (deadline : U64) : Frame :=
  s.frame (fun _ => True) opens (fun execution => execution.authorization.deadlineBlock = deadline)
    fun b id => known b ∧ id = ids b

variable {opens known : RebateBatchId → Prop} {ids : RebateBatchId → ReservationId} {deadline : U64}
  {key : StrategyKey} {batch current : RebateBatch}

/-- What the tick itself claims takes no id from another batch. -/
theorem Fresh.since (h : Fresh ids known s) (hsince : Since (s.permit opens known ids deadline) s') :
    Fresh ids known s' where
  nonzero := h.nonzero
  distinct := h.distinct
  unclaimed b hb := by
    have howned : ∀ (r : Reservation) a, r.owner = .Rebate a → known a ∧ ids b = ids a →
        r.owner = .Rebate b := fun r a howner ⟨ha, hid⟩ => h.distinct b a hb ha hid ▸ howner
    refine ⟨fun a st hst hid => ?_, fun r hr => ?_, fun r hr => ?_⟩
    · rcases hsince.unclaiming.names a st _ hst hid with ⟨ha, hsame⟩ | ⟨st', hst', hid'⟩
      · exact h.distinct a b ha hb hsame.symm
      · exact (h.unclaimed b hb).alone a st' hst' hid'
    · rcases hsince.unclaiming.held _ r hr with hbefore | ⟨a, howner, hclaimed⟩
      · exact (h.unclaimed b hb).held r hbefore
      · exact howned r a howner hclaimed
    · rcases hsince.unclaiming.stored _ r hr with hbefore | ⟨a, howner, hclaimed⟩
      · exact (h.unclaimed b hb).stored r hbefore
      · exact howned r a howner hclaimed

/-- Work published in the table is in memory. -/
theorem Steady.ready_batch (h : Steady keccak256 s) {b : RebateBatchId} {row : BatchRow}
    {execution : RebateExecution} (hrow : s.store.rebate_batch[b]? = some row)
    (hready : row.state = some (.Ready execution)) : ∃ batch : RebateBatch,
      s.batches[row.strategy]? = some batch ∧ batch.id = b ∧ batch.state = .Ready execution := by
  obtain ⟨batch, hbatch, rfl⟩ := h.consistent.loaded b row hrow (by rw [hready]; rfl)
  obtain ⟨state, hstate, hlags⟩ := (h.mirrors _ batch hbatch).state_of
  obtain rfl := Option.some.inj ((state_of_eq_some.mpr ⟨row, hrow, hready⟩).symm.trans hstate)
  refine ⟨batch, hbatch, rfl, ?_⟩
  generalize batch.state = memory at hlags
  cases hlags with
  | same => rfl
  | invalidating id h => cases h
  | guarded id h => cases h

/-- **A strategy keeps its batch** as long as none is opened. -/
theorem Steady.current_id (h : Steady keccak256 s) (hs' : Steady keccak256 s')
    (hsince : Since (s.permit (fun _ => False) known ids deadline) s')
    (hbatch : s.batches[key]? = some batch) (hcurrent : s'.batches[key]? = some current) :
    current.id = batch.id := by
  obtain ⟨hkey, row, state, hrow, hstate, hsame, -⟩ := hs'.mirrors key current hcurrent
  obtain ⟨state', hbefore⟩ := (hsince.opened current.id state
    (state_of_eq_some.mpr ⟨row, hrow, hstate⟩)).resolve_left fun hnever => hnever
  obtain ⟨old, hold, hstate'⟩ := state_of_eq_some.mp hbefore
  obtain ⟨other, hother, hid⟩ := h.consistent.loaded current.id old hold (by rw [hstate']; rfl)
  obtain ⟨row', hrow', hstrategy, -⟩ := hsince.legs current.id old hold
  obtain rfl := Option.some.inj (hrow.symm.trans hrow')
  have hold_key : old.strategy = key :=
    hstrategy.symm.trans ((congrArg RebateBatch.strategy hsame).trans hkey)
  rw [hold_key, hbatch] at hother
  rw [← hid, Option.some.inj hother]

/-! ## The pass over the batches -/

section

variable {policy : RebatePolicyConfig} {service : RebateServiceConfig} {ports : RebatePorts}
  {caps : AvailableSnapshot} {safe_head : U64}

/-- What an evaluation of the tick relies on. -/
theorem Reliable.publishable {strategy : MakerStrategy} (h : Reliable ports answers)
    (hstrategy : answers.snapshot.strategies[batch.strategy]? = some strategy)
    (hnonzero : (RebateWorker.reservation_id keccak256 config answers batch.id).hash ≠ 0) :
    Publishable ports (RebateWorker.evaluation_input keccak256 config answers caps batch strategy) where
  signature := h.signature
  program := h.program _
  reservation := hnonzero
  minimums m hm := by
    rcases List.mem_pair.mp hm with rfl | rfl
    · exact (by decide : (1 : U256) ≠ 0)
    · exact (by decide : (1 : U256) ≠ 0)
  priced token_in token_out c := h.priced _ strategy caps token_in token_out c hstrategy

/-- **One batch of the pass.** Where it succeeds, public work past its deadline is gone. -/
theorem wp_process_batch {origin : RebateService} (horigin : Steady keccak256 origin)
    (h : Following keccak256 start_block chain (origin.permit (fun _ => False) known
      (RebateWorker.reservation_id keccak256 config answers) (RebateWorker.deadline_block config answers)) s)
    (hreliable : Reliable ports answers)
    (hfresh : Fresh (RebateWorker.reservation_id keccak256 config answers) known origin)
    (hbatch : origin.batches[key]? = some batch) (hknown : known batch.id)
    (hconfig : config.start_block = start_block)
    (hscanned : safe_head < RebateWorker.next_block config s.store.rebate_scan_cursor) :
    wp allowed (RebateWorker.process_batch keccak256 policy service config ports answers caps safe_head
        batch)
      (Follows keccak256 start_block chain (origin.permit (fun _ => False) known
        (RebateWorker.reservation_id keccak256 config answers)
        (RebateWorker.deadline_block config answers)) s fun _ s' =>
          batch.state.is_ready = true → ∀ b, ¬s'.Overdue key safe_head b) s := by
  have hkey := (horigin.mirrors key batch hbatch).key
  unfold RebateWorker.process_batch
  split
  · rw [hkey]
    exact wp_bind ((wp_expire_following h hconfig hscanned).mono
      (fun expired s' hs' => wp_pure ⟨hs'.1, fun _ => hs'.2⟩) (fun _ _ hs' => hs') fun _ hs' => hs')
  · rename_i hready
    have hunready : batch.state.is_ready ≠ true := by
      intro htrue
      cases hstate : batch.state with
      | Ready execution => exact hready execution hstate
      | _ => rw [hstate] at htrue; cases htrue
    refine wp_ite (fun _ => wp_pure ⟨.refl h, fun htrue => absurd htrue hunready⟩) fun _ => ?_
    refine wp_bind (wp_port ?_ (fun _ => .refl h) (.refl h))
    refine wp_ite (fun _ => wp_pure ⟨.refl h, fun htrue => absurd htrue hunready⟩) fun _ => ?_
    cases hstrategy : answers.snapshot.strategies[batch.strategy]? with
    | none => exact wp_pure ⟨.refl h, fun htrue => absurd htrue hunready⟩
    | some strategy =>
      refine wp_ite (fun _ => ?_) fun _ => ?_
      · have hsame : strategy.key = key := (hreliable.indexed.keyed _ strategy hstrategy).trans hkey
        have hnow := hfresh.since h.since
        have hpublishable : Publishable ports
            (RebateWorker.evaluation_input keccak256 config answers caps batch strategy) :=
          hreliable.publishable hstrategy (hfresh.nonzero _ hknown)
        refine wp_bind ((wp_evaluate_following h hpublishable
          (fun _ execution hpublishes => hpublishes.deadline) (fun current hcurrent => ?_)
          fun current hcurrent => ?_).mono
            (fun _ s' hs' => wp_pure ⟨hs'.1, fun htrue => absurd htrue hunready⟩)
            (fun _ _ hs' => hs') fun _ hs' => hs')
        · have hid := horigin.current_id h.steady h.since hbatch (hsame ▸ hcurrent)
          exact ⟨hid.symm ▸ hknown, congrArg (RebateWorker.reservation_id keccak256 config answers) hid.symm⟩
        · rw [horigin.current_id h.steady h.since hbatch (hsame ▸ hcurrent)]
          exact hnow.unclaimed _ hknown
      · exact wp_bind ((wp_discard_following h batch.strategy).mono
          (fun _ s' hs' => wp_pure ⟨hs'.1, fun htrue => absurd htrue hunready⟩) (fun _ _ hs' => hs')
          fun _ hs' => hs')

theorem first_error_ok {pass : RebateWorker.Pass} (outcome : BatchOutcome) :
    (pass.add (.ok outcome)).first_error = pass.first_error := by
  cases outcome <;> rfl

/-- Between two batches of a pass: unless some batch failed, public work past its deadline
    is of a batch still to come. -/
structure Passing (keccak256 : Bytes → B256) (start_block : U64) (chain : FillerChain)
    (config : RebateWorkerConfig) (answers : RebateTick) (known : RebateBatchId → Prop)
    (origin : RebateService) (safe_head : U64) (batches : List RebateBatch) (pass : RebateWorker.Pass)
    (s : RebateService) : Prop
    extends Following keccak256 start_block chain (origin.permit (fun _ => False) known
      (RebateWorker.reservation_id keccak256 config answers)
      (RebateWorker.deadline_block config answers)) s where
  scanned : safe_head < RebateWorker.next_block config s.store.rebate_scan_cursor
  listed : ∀ batch ∈ batches, origin.batches[batch.strategy]? = some batch
  rest : pass.first_error = none → ∀ b execution, s.store.state_of b = some (.Ready execution) →
    execution.authorization.deadlineBlock < safe_head →
    ∃ batch ∈ batches, batch.id = b ∧ batch.state.is_ready = true

/-- **A batch is done with.** -/
theorem Passing.next {origin : RebateService} {batches : List RebateBatch} {pass : RebateWorker.Pass}
    (horigin : Steady keccak256 origin)
    (h : Passing keccak256 start_block chain config answers known origin safe_head (batch :: batches)
      pass s)
    (hhead : safe_head ≤ answers.current_head)
    (hs' : Advances keccak256 start_block chain (origin.permit (fun _ => False) known
      (RebateWorker.reservation_id keccak256 config answers)
      (RebateWorker.deadline_block config answers)) s s')
    {outcome : Except RebateServiceError BatchOutcome}
    (hdone : ∀ o, outcome = .ok o → batch.state.is_ready = true →
      ∀ b, ¬s'.Overdue batch.strategy safe_head b) :
    Passing keccak256 start_block chain config answers known origin safe_head batches
      (pass.add outcome) s' := by
  refine ⟨hs'.toFollowing, hs'.cursor ▸ h.scanned, fun other hother =>
    h.listed other (List.mem_cons_of_mem _ hother), fun hnone b execution hready hdeadline => ?_⟩
  cases outcome with
  | error e => cases hnone
  | ok o =>
    rw [first_error_ok] at hnone
    -- New work has the deadline of the tick, which is no earlier than the safe block.
    have hbefore : s.store.state_of b = some (.Ready execution) := by
      refine (hs'.moved.published b execution hready).resolve_right fun hnew => ?_
      have hlate : execution.authorization.deadlineBlock = RebateWorker.deadline_block config answers :=
        hnew
      rw [hlate, Fin.lt_def] at hdeadline
      have hbound := answers.current_head.isLt
      have hle : safe_head.val ≤ answers.current_head.val := hhead
      unfold RebateWorker.deadline_block at hdeadline
      rw [U64.saturating_add_val] at hdeadline
      omega
    obtain ⟨other, hother, hid, hother_ready⟩ := h.rest hnone b execution hbefore hdeadline
    rcases List.mem_cons.mp hother with rfl | hother
    · obtain ⟨row, hrow, hstate⟩ := state_of_eq_some.mp hready
      obtain ⟨current, hcurrent, hcurrent_id, hcurrent_ready⟩ := hs'.steady.ready_batch hrow hstate
      refine absurd ⟨current, execution, ?_, hcurrent_id, hcurrent_ready, hdeadline⟩
        (hdone o rfl hother_ready b)
      -- Its row is of the strategy that it was listed under.
      obtain ⟨-, old, state, hold, -, hsame, -⟩ := horigin.mirrors _ other (h.listed other List.mem_cons_self)
      obtain ⟨row', hrow', hstrategy, -⟩ := hs'.since.legs other.id old hold
      rw [hid] at hrow'
      obtain rfl := Option.some.inj (hrow.symm.trans hrow')
      rw [← hcurrent, hstrategy]
      exact congrArg (s'.batches[·]?) (congrArg RebateBatch.strategy hsame).symm
    · exact ⟨other, hother, hid, hother_ready⟩

/-- **The pass.** Where no batch fails, no public work is past its deadline. -/
theorem wp_process_batches {origin : RebateService} (horigin : Steady keccak256 origin)
    (htracked : Tracked start_block chain origin.store) (hreliable : Reliable ports answers)
    (hfresh : Fresh (RebateWorker.reservation_id keccak256 config answers) known origin)
    (hknown : ∀ b state, origin.store.state_of b = some state → known b)
    (hconfig : config.start_block = start_block) (hhead : safe_head ≤ answers.current_head)
    (hscanned : safe_head < RebateWorker.next_block config origin.store.rebate_scan_cursor)
    {report : RebateWorkerReport} :
    wp allowed (RebateWorker.process_batches keccak256 policy service config ports answers caps
        safe_head (BTreeMap.values origin.batches) report)
      ⟨Passing keccak256 start_block chain config answers known origin safe_head [],
        fun _ => Following keccak256 start_block chain (origin.permit (fun _ => False) known
          (RebateWorker.reservation_id keccak256 config answers)
          (RebateWorker.deadline_block config answers)),
        Following keccak256 start_block chain (origin.permit (fun _ => False) known
          (RebateWorker.reservation_id keccak256 config answers)
          (RebateWorker.deadline_block config answers))⟩ origin := by
  have hlisted : ∀ batch, batch ∈ BTreeMap.values origin.batches ↔
      origin.batches[batch.strategy]? = some batch := by
    intro batch
    unfold BTreeMap.values
    rw [List.mem_map]
    constructor
    · rintro ⟨e, he, rfl⟩
      have hget := Std.ExtTreeMap.mem_toList_iff_getElem?_eq_some.mp he
      rw [(horigin.mirrors e.1 e.2 hget).key]
      exact hget
    · exact fun hget =>
        ⟨(batch.strategy, batch), Std.ExtTreeMap.mem_toList_iff_getElem?_eq_some.mpr hget, rfl⟩
  have hstart : Passing keccak256 start_block chain config answers known origin safe_head
      (BTreeMap.values origin.batches) ⟨report, none⟩ origin := by
    refine ⟨⟨horigin, htracked, .refl origin⟩, hscanned, fun batch hbatch => (hlisted batch).mp hbatch,
      fun _ b execution hready hdeadline => ?_⟩
    obtain ⟨row, hrow, hstate⟩ := state_of_eq_some.mp hready
    obtain ⟨batch, hbatch, hid, hbatch_ready⟩ := horigin.ready_batch hrow hstate
    refine ⟨batch, (hlisted batch).mpr ?_, hid, by rw [hbatch_ready]; rfl⟩
    rw [(horigin.mirrors _ batch hbatch).key]
    exact hbatch
  refine wp_foldlM (fun batch batches pass s hs => ?_) hstart
  have hbatch := hs.listed batch List.mem_cons_self
  obtain ⟨state, hstate, -⟩ := (horigin.mirrors _ batch hbatch).state_of
  refine wp_bind (wp_attempt ((wp_process_batch horigin hs.toFollowing hreliable hfresh hbatch
    (hknown _ state hstate) hconfig hs.scanned).mono (fun outcome s' hs' => wp_pure ?_)
    (fun e s' hs' => wp_pure ?_) fun s' hs' => hs'.toFollowing))
  · exact hs.next horigin hhead hs'.1 fun _ _ => hs'.2
  · exact hs.next horigin hhead hs' nofun

/-! ## The tick -/

/-- The batches a tick may meet: those open, and those its legs open. -/
def Met (keccak256 : Bytes → B256) (answers : RebateTick) (s : RebateService) (b : RebateBatchId) :
    Prop :=
  (∃ state, s.store.state_of b = some state) ∨ ∃ a ∈ answers.confirmed, batch_id keccak256 a = b

/-- What is done by the safe block of a tick that succeeds. -/
structure TickDone (chain : FillerChain) (answers : RebateTick) (safe_head : U64)
    (s s' : RebateService) : Prop where
  settled : ∀ m ∈ chain.mined, m.2.block_number ≤ safe_head → s'.store.Finished m.2
  taken : ∀ a ∈ answers.confirmed, (∃ b accrual,
    s'.store.find_accrual a.strategy a.trade_id = some (b, accrual)) ∨
      s.store.is_published a.strategy = true
  live : ∀ b execution, s'.store.state_of b = some (.Ready execution) →
    safe_head ≤ execution.authorization.deadlineBlock

/-- A leg that does not wait is in a batch, now and later, or its strategy had public work. -/
theorem taken_of_not_waiting {middle : RebateService} {accrual : MinedAccrual} {holds : Frame}
    (h : Steady keccak256 s) (hmiddle : Steady keccak256 middle) (hs' : Steady keccak256 s')
    (hsince : Since (s.frame (fun _ => True) opens (fun _ => False) fun _ _ => False) middle)
    (hlater : Since holds s') (horigin : holds.origin = middle.store)
    (hwaiting : ¬middle.store.Waiting accrual) :
    (∃ b a, s'.store.find_accrual accrual.strategy accrual.trade_id = some (b, a)) ∨
      s.store.is_published accrual.strategy = true := by
  by_cases hnone : (middle.store.find_accrual accrual.strategy accrual.trade_id).isNone = true
  · right
    have hpublished := Bool.eq_true_of_not_eq_false fun hfalse => hwaiting ⟨hnone, hfalse⟩
    obtain ⟨b, row, execution, hrow, hkey, hstate⟩ :=
      hmiddle.durable.tables.is_published_iff.mp hpublished
    have hready : s.store.state_of b = some (.Ready execution) :=
      (hsince.published b execution (state_of_eq_some.mpr ⟨row, hrow, hstate⟩)).resolve_right
        fun hnever => hnever
    obtain ⟨old, hold, hold_state⟩ := state_of_eq_some.mp hready
    obtain ⟨row', hrow', hstrategy, -⟩ := hsince.legs b old hold
    obtain rfl := Option.some.inj (hrow.symm.trans hrow')
    exact h.durable.tables.is_published_iff.mpr
      ⟨b, old, execution, hold, hstrategy.symm.trans hkey, hold_state⟩
  · left
    rw [Option.isNone_iff_eq_none] at hnone
    obtain ⟨⟨b, a⟩, hfound⟩ := Option.ne_none_iff_exists'.mp hnone
    obtain ⟨row, hrow, hkey, ha⟩ := find_accrual_some hfound
    obtain ⟨row', hrow', hstrategy, hkept⟩ := hlater.legs b row (horigin ▸ hrow)
    refine ⟨b, a, ?_⟩
    have hagain := hs'.durable.tables.schema.find_accrual hrow' (hkept _ a ha)
    rw [hstrategy, hkey] at hagain
    exact hagain

/-- **A tick**, under whatever faults. -/
theorem wp_tick (h : Steady keccak256 s) (htracked : Tracked start_block chain s.store)
    (hreliable : Reliable ports answers)
    (hfresh : Fresh (RebateWorker.reservation_id keccak256 config answers) (Met keccak256 answers s) s)
    (hconfig : config.start_block = start_block)
    (hlogs : answers.logs = chain.mined.map Prod.snd) (hhead : answers.current_head ≤ chain.head) :
    wp allowed (RebateWorker.tick keccak256 policy service config ports answers)
      ⟨fun _ s' => Following keccak256 start_block chain
          (s.permit (fun b => ∃ a ∈ answers.confirmed, batch_id keccak256 a = b)
            (Met keccak256 answers s) (RebateWorker.reservation_id keccak256 config answers)
            (RebateWorker.deadline_block config answers)) s' ∧
          ∀ registry_cursor ∈ answers.registry_cursor,
            TickDone chain answers (min answers.current_head registry_cursor) s s',
        fun _ => Following keccak256 start_block chain
          (s.permit (fun b => ∃ a ∈ answers.confirmed, batch_id keccak256 a = b)
            (Met keccak256 answers s) (RebateWorker.reservation_id keccak256 config answers)
            (RebateWorker.deadline_block config answers)),
        Following keccak256 start_block chain
          (s.permit (fun b => ∃ a ∈ answers.confirmed, batch_id keccak256 a = b)
            (Met keccak256 answers s) (RebateWorker.reservation_id keccak256 config answers)
            (RebateWorker.deadline_block config answers))⟩ s := by
  generalize hpermit : s.permit (fun b => ∃ a ∈ answers.confirmed, batch_id keccak256 a = b)
    (Met keccak256 answers s) (RebateWorker.reservation_id keccak256 config answers)
    (RebateWorker.deadline_block config answers) = F
  -- Until the pass nothing is published or reserved.
  have hintake : ∀ {s' : RebateService}, Following keccak256 start_block chain
      (s.frame (fun _ => True) (fun b => ∃ a ∈ answers.confirmed, batch_id keccak256 a = b)
        (fun _ => False) fun _ _ => False) s' → Following keccak256 start_block chain F s' := by
    subst hpermit
    exact fun hs' => ⟨hs'.steady, hs'.tracked, hs'.since.weaken rfl rfl (fun _ hopen => hopen)
      (fun _ hnever => hnever.elim) fun _ _ hnever => hnever.elim⟩
  have hstart : Following keccak256 start_block chain
      (s.frame (fun _ => True) (fun b => ∃ a ∈ answers.confirmed, batch_id keccak256 a = b)
        (fun _ => False) fun _ _ => False) s := ⟨h, htracked, .refl s⟩
  refine wp_bind (wp_port ?_ (fun _ => hintake hstart) (hintake hstart))
  cases hregistry : answers.registry_cursor with
  | none => exact wp_pure ⟨hintake hstart, nofun⟩
  | some registry_cursor =>
    have hsafe : min answers.current_head registry_cursor ≤ answers.current_head := min_le_left _ _
    refine wp_bind ((wp_reconcile_following hstart hconfig hlogs (hsafe.trans hhead)).mono
      (fun settled s₁ hs₁ => ?_) (fun _ _ hs' => hintake hs') fun _ hs' => hintake hs')
    have hopens : ∀ a ∈ answers.confirmed, ∃ a' ∈ answers.confirmed,
        batch_id keccak256 a' = batch_id keccak256 a := fun a ha => ⟨a, ha, rfl⟩
    refine wp_bind ((wp_intake (F := s.frame (fun _ => True)
      (fun b => ∃ a ∈ answers.confirmed, batch_id keccak256 a = b) (fun _ => False) fun _ _ => False)
      hopens hs₁.1 (Nat.lt_succ_of_le (List.length_filter_le _ _))).mono
      (fun accrued s₂ hs₂ => ?_) (fun _ _ hs' => hintake hs') fun _ hs' => hintake hs')
    obtain ⟨hfollowing, hcursor, hwaiting⟩ := hs₂
    have hsince := (hintake hfollowing).since
    have hknown : ∀ b state, s₂.store.state_of b = some state → Met keccak256 answers s b :=
      fun b state hstate => (hfollowing.since.opened b state hstate).symm
    -- What the pass does from here the tick may do.
    have hpass : ∀ {s' : RebateService}, Following keccak256 start_block chain
        (s₂.permit (fun _ => False) (Met keccak256 answers s)
          (RebateWorker.reservation_id keccak256 config answers)
          (RebateWorker.deadline_block config answers)) s' →
        Following keccak256 start_block chain F s' := by
      subst hpermit
      exact fun hs' => ⟨hs'.steady, hs'.tracked, hsince.trans (hs'.since.weaken rfl rfl
        (fun _ hnever => hnever.elim) (fun _ hpublished => hpublished) fun _ _ hclaimed => hclaimed)⟩
    refine wp_bind (wp_read (wp_bind ((wp_process_batches hfollowing.steady hfollowing.tracked
      hreliable (hfresh.since (hpermit ▸ hsince)) hknown hconfig hsafe (hcursor ▸ hs₁.2)).mono
      (fun pass s₃ hs₃ => ?_) (fun _ _ hs' => hpass hs') fun _ hs' => hpass hs')))
    dsimp only
    cases hfirst : pass.first_error with
    | some e => exact wp_lift (fun _ herror => by cases herror) fun _ _ => hpass hs₃.toFollowing
    | none =>
      refine wp_pure ⟨hpass hs₃.toFollowing, fun other hother => ?_⟩
      obtain rfl := Option.some.inj hother
      refine ⟨fun m hm hblock => ?_, fun a ha => ?_, fun b execution hready => ?_⟩
      · exact hs₃.tracked.finished hconfig hm (lt_of_le_of_lt hblock hs₃.scanned)
      · exact taken_of_not_waiting h hfollowing.steady hs₃.steady hfollowing.since hs₃.since rfl
          (hwaiting a ha)
      · by_contra hlate
        obtain ⟨_, hmem, -⟩ := hs₃.rest hfirst b execution hready (not_le.mp hlate)
        cases hmem

end

end RebateService

end Solvent
