import Mathlib
import Solvent.Swap.Resubmit
import Solvent.Trade.Evolution

/-! # A trade's recorded history

    A trade has a header row and a timeline of the stages it went through.
    `advance` and `settle` update the row under a guard and append their stage
    in the same transaction, but the stage is appended whether or not the guard
    let the row change. So a settlement that comes after another one leaves the
    row alone and still puts its own terminal stage into the timeline.

    The two agree in a run exactly when no settlement of the run brings a
    terminal stage other than the one on record.
-/

namespace Solvent

open BTreeMap

/-! ## Calls -/

/-- A writing call on the trade store. -/
inductive TradeCall where
  | create (trade : Trade) (legs : List TradeLeg) (attempts : List TradeAttempt)
  | advance (id : TradeId) (status : TradeStatus) (time : U64)
  | settle (id : TradeId) (outcome : Settlement)

/-- The calls the swap service and the reconcile service issue. -/
inductive TradeCall.Issued : TradeCall → Prop where
  | record (request : SwapRequest) (amounts : SwapAmounts) (plan : RoutePlan) (now : U64) :
      Issued (.create (SwapService.trade request amounts (some plan) now .Quoted)
        (SwapService.trade_legs plan) (SwapService.reached now [.Created, .Quoted]))
  | record_declined (request : SwapRequest) (now : U64) :
      Issued (.create
        (SwapService.trade request (SwapService.declined_amounts request.intent now) none now
          .Declined) [] (SwapService.reached now [.Created, .Declined]))
  | advance (id : TradeId) {status : TradeStatus} (now : U64)
      (h : status = .Reserved ∨ status = .Simulated ∨ status = .Submitted) :
      Issued (.advance id status now)
  | decline (id : TradeId) (now : U64) :
      Issued (.settle id (SwapService.declined_settlement now))
  | settle_trade (id : TradeId) (outcome : SettledOutcome) (now : U64) (trade : TradeRow) :
      Issued (.settle id (ReconcileService.settlement_of outcome now trade))
  | fail_swept (id : TradeId) (now : U64) : Issued (.settle id (ReconcileService.failed now))

namespace SqliteTradeStore

/-- The store after a call; a call that fails leaves it as it was. -/
def after (store : SqliteTradeStore) : TradeCall → SqliteTradeStore
  | .create trade legs attempts => (store.create trade legs attempts).2
  | .advance id status time => (store.advance id status time).2
  | .settle id outcome => (store.settle id outcome).2

/-- The stages on record for a trade. -/
def timeline (store : SqliteTradeStore) (id : TradeId) : List TradeStatus :=
  (get_or store.trade_attempt id []).map Prod.fst

/-! ## What a call does to one trade -/

theorem mem_with_attempt {attempts : List (TradeStatus × I64)} {status stage : TradeStatus}
    {time : I64} : stage ∈ (with_attempt attempts status time).map Prod.fst ↔
      stage ∈ attempts.map Prod.fst ∨ stage = status := by
  unfold with_attempt
  split
  · rename_i hmem
    constructor
    · exact .inl
    · rintro (h | rfl)
      · exact h
      · exact hmem
  · simp

/-- Appending a stage to a trade on record. -/
theorem insert_attempt_ok (store : SqliteTradeStore) {id : TradeId}
    (hrow : (store.trade[id]?).isSome) (status : TradeStatus) (time : I64) :
    ∃ store', store.insert_attempt id status time = .ok store' ∧ store'.trade = store.trade ∧
      (∀ stage, stage ∈ store'.timeline id ↔ stage ∈ store.timeline id ∨ stage = status) ∧
      ∀ k, k ≠ id → store'.timeline k = store.timeline k := by
  unfold insert_attempt
  rw [if_neg (by simpa using Option.isSome_iff_ne_none.mp hrow)]
  refine ⟨_, rfl, rfl, ?_, ?_⟩
  · intro stage
    unfold timeline
    rw [get_or_entry, if_pos rfl]
    exact mem_with_attempt
  · intro k hk
    unfold timeline
    rw [get_or_entry, if_neg fun h => hk h.symm]

theorem update_trade_attempt (store : SqliteTradeStore) (id : TradeId) (guard : TradeRow → Bool)
    (change : TradeRow → TradeRow) (hchange : ∀ row, (change row).order_hash = row.order_hash) :
    (update_trade store id guard change hchange).trade_attempt = store.trade_attempt := by
  unfold update_trade
  split
  · rfl
  · split <;> rfl

/-- A guarded update of a row followed by its stage, in one transaction. -/
theorem transaction_cases (store : SqliteTradeStore) (id : TradeId) (guard : TradeRow → Bool)
    (change : TradeRow → TradeRow) (hchange : ∀ row, (change row).order_hash = row.order_hash)
    (status : TradeStatus) (time : I64) :
    let result := transaction store
      (insert_attempt (update_trade store id guard change hchange) id status time)
    (store.trade[id]? = none ∧ result.2 = store) ∨
    ∃ row, store.trade[id]? = some row ∧
      result.2.trade[id]? = some (if guard row then change row else row) ∧
      (∀ stage, stage ∈ result.2.timeline id ↔ stage ∈ store.timeline id ∨ stage = status) ∧
      ∀ k, k ≠ id → result.2.trade[k]? = store.trade[k]? ∧
        result.2.timeline k = store.timeline k := by
  have hupdated := get_update_trade store id id guard change hchange
  rw [if_pos rfl] at hupdated
  have hstages : ∀ k, (update_trade store id guard change hchange).timeline k =
      store.timeline k := by
    intro k
    unfold timeline
    rw [update_trade_attempt]
  match hrow : store.trade[id]? with
  | none =>
    left
    refine ⟨rfl, ?_⟩
    rw [hrow, Option.map_none] at hupdated
    simp [transaction, insert_attempt, hupdated]
  | some row =>
    right
    rw [hrow, Option.map_some] at hupdated
    obtain ⟨store', hok, htrade, hmine, hothers⟩ := insert_attempt_ok
      (update_trade store id guard change hchange) (by rw [hupdated]; rfl) status time
    simp only [transaction, hok]
    refine ⟨row, rfl, by rw [htrade, hupdated], ?_, ?_⟩
    · intro stage
      rw [hmine, hstages]
    · intro k hk
      refine ⟨?_, by rw [hothers k hk, hstages]⟩
      rw [htrade, get_update_trade, if_neg fun h => hk h.symm]

theorem mem_attempts_of {attempts : List TradeAttempt} {stages : List (TradeStatus × I64)}
    (h : attempts_of attempts = .ok stages) (stage : TradeStatus) :
    stage ∈ stages.map Prod.fst ↔ stage ∈ attempts.map TradeAttempt.status := by
  -- From any stages already there.
  have hfrom : ∀ (attempts : List TradeAttempt) (acc : List (TradeStatus × I64)),
      attempts.foldlM (fun acc attempt => (i64_of attempt.at_time).map fun time =>
        with_attempt acc attempt.status time) acc = .ok stages →
      (stage ∈ stages.map Prod.fst ↔
        stage ∈ acc.map Prod.fst ∨ stage ∈ attempts.map TradeAttempt.status) := by
    intro attempts
    induction attempts with
    | nil =>
      intro acc hacc
      obtain rfl : acc = stages := Except.ok.inj hacc
      simp
    | cons attempt attempts ih =>
      intro acc hacc
      rw [List.foldlM_cons] at hacc
      match htime : i64_of attempt.at_time with
      | .error e =>
        rw [htime] at hacc
        cases hacc
      | .ok time =>
        rw [htime] at hacc
        rw [ih _ hacc, mem_with_attempt, List.map_cons, List.mem_cons, or_assoc]
  rw [hfrom attempts [] h]
  simp

/-- The times of a settlement fit their signed columns. -/
def FitsColumns (outcome : Settlement) : Prop :=
  (outcome.block_number.all fun block => block.val < 2 ^ 63) = true ∧
    outcome.at_time.val < 2 ^ 63

instance (outcome : Settlement) : Decidable (FitsColumns outcome) :=
  inferInstanceAs (Decidable (_ ∧ _))

theorem ok_of_fits {outcome : Settlement} (h : FitsColumns outcome) :
    ∃ block_number stamp, opt_i64_of outcome.block_number = .ok block_number ∧
      i64_of outcome.at_time = .ok stamp := by
  obtain ⟨hblock, htime⟩ := h
  match hb : outcome.block_number with
  | none => exact ⟨none, _, rfl, i64_of_ok htime⟩
  | some block =>
    rw [hb] at hblock
    have hfits : block.val < 2 ^ 63 := by simpa using hblock
    exact ⟨some _, _, by rw [opt_i64_of, i64_of_ok hfits]; rfl, i64_of_ok htime⟩

theorem lt_of_i64_of {value : U64} {stamp : I64} (h : i64_of value = .ok stamp) :
    value.val < 2 ^ 63 := by
  by_contra hlarge
  obtain ⟨e, he⟩ := i64_of_error hlarge
  rw [he] at h
  cases h

theorem fits_of_ok {outcome : Settlement} {block_number : Option I64} {stamp : I64}
    (hblock : opt_i64_of outcome.block_number = .ok block_number)
    (hstamp : i64_of outcome.at_time = .ok stamp) : FitsColumns outcome := by
  refine ⟨?_, lt_of_i64_of hstamp⟩
  match hb : outcome.block_number with
  | none => rfl
  | some block =>
    rw [hb] at hblock
    match hbound : i64_of block with
    | .ok stamp' => simpa using lt_of_i64_of hbound
    | .error e =>
      rw [opt_i64_of, hbound] at hblock
      cases hblock

/-- What a call does to the trade `id`. -/
inductive CallEffect (store store' : SqliteTradeStore) (id : TradeId) : TradeCall → Prop where
  | same {call : TradeCall} (hrow : store'.trade[id]? = store.trade[id]?)
      (hstages : store'.timeline id = store.timeline id) : CallEffect store store' id call
  | creates {trade : Trade} {legs : List TradeLeg} {attempts : List TradeAttempt} {row : TradeRow}
      (hfresh : store.trade[id]? = none) (hbound : row_of trade = .ok row)
      (hrow : store'.trade[id]? = some row)
      (hstages : ∀ stage, stage ∈ store'.timeline id ↔
        stage ∈ attempts.map TradeAttempt.status) :
      CallEffect store store' id (.create trade legs attempts)
  | advances {status : TradeStatus} {time : U64} {row : TradeRow}
      (hrow : store.trade[id]? = some row) (hrow' : store'.trade[id]? = some (advanced row status))
      (hstages : ∀ stage, stage ∈ store'.timeline id ↔
        stage ∈ store.timeline id ∨ stage = status) :
      CallEffect store store' id (.advance id status time)
  | settles {outcome : Settlement} {row : TradeRow} {block_number : Option I64} {stamp : I64}
      (hfits : FitsColumns outcome) (hrow : store.trade[id]? = some row)
      (hrow' : store'.trade[id]? = some (settled_row row outcome block_number stamp))
      (hstages : ∀ stage, stage ∈ store'.timeline id ↔
        stage ∈ store.timeline id ∨ stage = outcome.status) :
      CallEffect store store' id (.settle id outcome)

theorem create_effect (store : SqliteTradeStore) (id : TradeId) (trade : Trade)
    (legs : List TradeLeg) (attempts : List TradeAttempt) :
    CallEffect store (store.create trade legs attempts).2 id (.create trade legs attempts) := by
  unfold create
  split
  · exact .same rfl rfl
  · rename_i row hbound
    split
    · exact .same rfl rfl
    · split
      · exact .same rfl rfl
      · rename_i hfresh
        split
        · exact .same rfl rfl
        · rename_i stages hstages
          by_cases hid : trade.id = id
          · subst hid
            refine .creates (by simpa using hfresh) hbound ?_ ?_
            · simp [insert_row]
            · intro stage
              rw [← mem_attempts_of hstages]
              simp [timeline, get_or_insert]
          · refine .same ?_ ?_
            · simp [insert_row, get_insert, hid]
            · simp [timeline, get_or_insert, hid]

theorem advance_effect (store : SqliteTradeStore) (id k : TradeId) (status : TradeStatus)
    (time : U64) :
    CallEffect store (store.advance k status time).2 id (.advance k status time) := by
  unfold advance
  match i64_of time with
  | .error e => exact .same rfl rfl
  | .ok stamp =>
    rcases transaction_cases store k
        (fun row => row.status.rank < status.rank ∧ row.settled_at = none)
        (fun row => { row with status }) (fun _ => rfl) status stamp with
      ⟨-, hsame⟩ | ⟨row, hrow, hrow', hmine, hothers⟩
    · refine .same ?_ ?_
      · exact congrArg (fun s : SqliteTradeStore => s.trade[id]?) hsame
      · exact congrArg (timeline · id) hsame
    · by_cases hid : id = k
      · subst hid
        refine .advances hrow ?_ hmine
        simpa [advanced] using hrow'
      · exact .same (hothers id hid).1 (hothers id hid).2

/-- A settlement whose times fit their columns goes through on a trade on
    record. -/
theorem settle_fitting (store : SqliteTradeStore) (k : TradeId) {outcome : Settlement}
    {block_number : Option I64} {stamp : I64}
    (hblock : opt_i64_of outcome.block_number = .ok block_number)
    (hstamp : i64_of outcome.at_time = .ok stamp) :
    (store.trade[k]? = none ∧ (store.settle k outcome).2 = store) ∨
    ∃ row, store.trade[k]? = some row ∧
      (store.settle k outcome).2.trade[k]? = some (settled_row row outcome block_number stamp) ∧
      (∀ stage, stage ∈ (store.settle k outcome).2.timeline k ↔
        stage ∈ store.timeline k ∨ stage = outcome.status) ∧
      ∀ id, id ≠ k → (store.settle k outcome).2.trade[id]? = store.trade[id]? ∧
        (store.settle k outcome).2.timeline id = store.timeline id := by
  have hcases := transaction_cases store k (fun row => row.settled_at = none)
    (fun row => { row with
      status := outcome.status, amount_out := outcome.amount_out,
      tx_hash := outcome.tx_hash, block_number, settled_at := some stamp })
    (fun _ => rfl) outcome.status stamp
  unfold settle
  rw [hblock, hstamp]
  rcases hcases with hnone | ⟨row, hrow, hrow', hmine, hothers⟩
  · exact .inl hnone
  · exact .inr ⟨row, hrow, by simpa [settled_row] using hrow', hmine, hothers⟩

theorem settle_effect (store : SqliteTradeStore) (id k : TradeId) (outcome : Settlement) :
    CallEffect store (store.settle k outcome).2 id (.settle k outcome) := by
  match hblock : opt_i64_of outcome.block_number, hstamp : i64_of outcome.at_time with
  | .error e, _ =>
    have hsame : (store.settle k outcome).2 = store := by simp [settle, transaction, hblock]
    rw [hsame]
    exact .same rfl rfl
  | .ok block_number, .error e =>
    have hsame : (store.settle k outcome).2 = store := by
      simp [settle, transaction, hblock, hstamp]
    rw [hsame]
    exact .same rfl rfl
  | .ok block_number, .ok stamp =>
    rcases settle_fitting store k hblock hstamp with ⟨-, hsame⟩ | ⟨row, hrow, hrow', hmine, hothers⟩
    · rw [hsame]
      exact .same rfl rfl
    · by_cases hid : id = k
      · subst hid
        exact .settles (fits_of_ok hblock hstamp) hrow hrow' hmine
      · exact .same (hothers id hid).1 (hothers id hid).2

theorem call_effect (store : SqliteTradeStore) (id : TradeId) (call : TradeCall) :
    CallEffect store (store.after call) id call := by
  match call with
  | .create trade legs attempts => exact create_effect store id trade legs attempts
  | .advance k status time => exact advance_effect store id k status time
  | .settle k outcome => exact settle_effect store id k outcome

/-! ## Agreement -/

/-- A terminal stage on the timeline is the trade's status. -/
def Agrees (id : TradeId) (store : SqliteTradeStore) : Prop :=
  ∀ row, store.trade[id]? = some row → ∀ stage ∈ store.timeline id, stage.is_terminal = true →
    stage = row.status

/-- A settled row stays as it is, and the rank of one that is not settled does
    not fall. -/
structure RowKept (id : TradeId) (store store' : SqliteTradeStore) : Prop where
  settled : ∀ row, store.trade[id]? = some row → row.settled_at.isSome →
    store'.trade[id]? = some row
  climbs : ∀ row row', store.trade[id]? = some row → row.settled_at = none →
    store'.trade[id]? = some row' → row.status.rank ≤ row'.status.rank

/-- What a call may do to the history of a trade: besides the row, it leaves a
    timeline whose terminal stage is the trade's status. -/
structure KeepsHistory (id : TradeId) (store store' : SqliteTradeStore) : Prop
    extends RowKept id store store' where
  agrees : Agrees id store'
  at_most_one : ∀ stage ∈ store'.timeline id, ∀ stage' ∈ store'.timeline id,
    stage.is_terminal = true → stage'.is_terminal = true → stage = stage'

/-- A settlement of the trade that can be written repeats the terminal stage on
    its timeline, if there is one. -/
def Repeats (id : TradeId) (store : SqliteTradeStore) : TradeCall → Prop
  | .settle k outcome => k = id → FitsColumns outcome → ∀ stage ∈ store.timeline id,
      stage.is_terminal = true → outcome.status = stage
  | _ => True

instance (id : TradeId) (store : SqliteTradeStore) (call : TradeCall) :
    Decidable (Repeats id store call) :=
  match call with
  | .settle k outcome => inferInstanceAs (Decidable (k = id → FitsColumns outcome →
      ∀ stage ∈ store.timeline id, stage.is_terminal = true → outcome.status = stage))
  | .create _ _ _ | .advance _ _ _ => inferInstanceAs (Decidable True)

/-- **The invariant.** A trade without a row has no timeline; a settled trade is
    terminal; a terminal status is on the timeline, and no other terminal stage
    is. -/
structure Recorded (id : TradeId) (store : SqliteTradeStore) : Prop where
  unknown : store.trade[id]? = none → store.timeline id = []
  ended : ∀ row, store.trade[id]? = some row → row.settled_at.isSome →
    row.status.is_terminal = true
  listed : ∀ row, store.trade[id]? = some row → row.status.is_terminal = true →
    row.status ∈ store.timeline id
  agrees : Agrees id store

theorem recorded_empty (id : TradeId) : Recorded id empty where
  unknown := fun _ => by simp [timeline, empty]
  ended := fun _ hrow => by simp [empty] at hrow
  listed := fun _ hrow => by simp [empty] at hrow
  agrees := fun _ hrow => by simp [empty] at hrow

theorem Recorded.at_most_one {id : TradeId} {store : SqliteTradeStore} (h : Recorded id store) :
    ∀ stage ∈ store.timeline id, ∀ stage' ∈ store.timeline id,
      stage.is_terminal = true → stage'.is_terminal = true → stage = stage' := by
  intro stage hstage stage' hstage' hterminal hterminal'
  match hrow : store.trade[id]? with
  | none =>
    rw [h.unknown hrow] at hstage
    cases hstage
  | some row =>
    rw [h.agrees row hrow stage hstage hterminal, h.agrees row hrow stage' hstage' hterminal']

theorem issued_settlement {id : TradeId} {outcome : Settlement}
    (h : (TradeCall.settle id outcome).Issued) : outcome.status.is_terminal = true := by
  match h with
  | .decline _ _ => rfl
  | .fail_swept _ _ => rfl
  | .settle_trade _ settled _ _ => cases settled <;> rfl

theorem rank_of_terminal {status : TradeStatus} :
    status.is_terminal = true ↔ 5 ≤ status.rank := by
  cases status <;> simp [TradeStatus.is_terminal, TradeStatus.rank]

section Step

variable {id : TradeId} {store store' : SqliteTradeStore} {row row' : TradeRow}

/-- Nothing of the trade changed. -/
theorem recorded_of_same (h : Recorded id store)
    (hrow : store'.trade[id]? = store.trade[id]?)
    (hstages : store'.timeline id = store.timeline id) :
    Recorded id store' ∧ RowKept id store store' := by
  refine ⟨⟨?_, ?_, ?_, ?_⟩, ?_, ?_⟩
  · rw [hrow, hstages]
    exact h.unknown
  · rw [hrow]
    exact h.ended
  · rw [hrow, hstages]
    exact h.listed
  · unfold Agrees
    rw [hrow, hstages]
    exact h.agrees
  · intro row hmine _
    rw [hrow, hmine]
  · intro row row' hmine _ hmine'
    rw [hrow, hmine] at hmine'
    rw [Option.some.inj hmine']

/-- The trade has a row afterwards: what is left to show about it. -/
theorem recorded_of_row (hrow' : store'.trade[id]? = some row')
    (hended : row'.settled_at.isSome → row'.status.is_terminal = true)
    (hlisted : row'.status.is_terminal = true → row'.status ∈ store'.timeline id)
    (hagrees : ∀ stage ∈ store'.timeline id, stage.is_terminal = true → stage = row'.status) :
    Recorded id store' := by
  refine ⟨?_, ?_, ?_, ?_⟩
  · intro hnone
    rw [hrow'] at hnone
    cases hnone
  all_goals
    intro row hrow
    obtain rfl := Option.some.inj (hrow'.symm.trans hrow)
  · exact hended
  · exact hlisted
  · exact hagrees

/-- The trade had a row: what is left to show about it. -/
theorem rowKept_of_row (hrow : store.trade[id]? = some row) (hrow' : store'.trade[id]? = some row')
    (hsettled : row.settled_at.isSome → row' = row)
    (hclimbs : row.settled_at = none → row.status.rank ≤ row'.status.rank) :
    RowKept id store store' := by
  constructor
  · intro mine hmine hended
    obtain rfl := Option.some.inj (hrow.symm.trans hmine)
    rw [hrow', hsettled hended]
  · intro mine mine' hmine hopen hmine'
    obtain rfl := Option.some.inj (hrow.symm.trans hmine)
    obtain rfl := Option.some.inj (hrow'.symm.trans hmine')
    exact hclimbs hopen

/-- A new trade starts with the stages it reached. -/
theorem recorded_create {trade : Trade} {legs : List TradeLeg} {attempts : List TradeAttempt}
    (hissued : (TradeCall.create trade legs attempts).Issued)
    (hfresh : store.trade[id]? = none) (hbound : row_of trade = .ok row')
    (hrow' : store'.trade[id]? = some row')
    (hstages : ∀ stage, stage ∈ store'.timeline id ↔ stage ∈ attempts.map TradeAttempt.status) :
    Recorded id store' ∧ RowKept id store store' := by
  obtain ⟨-, hstatus, hopen⟩ := row_of_order hbound
  have hkept : RowKept id store store' := by
    constructor
    · intro row hrow
      rw [hfresh] at hrow
      cases hrow
    · intro row _ hrow
      rw [hfresh] at hrow
      cases hrow
  refine ⟨recorded_of_row hrow' ?_ ?_ ?_, hkept⟩
  · intro hended
    match hissued with
    | .record .. | .record_declined .. =>
      rw [hopen rfl] at hended
      cases hended
  · intro hterminal
    rw [hstages]
    match hissued with
    | .record .. =>
      rw [hstatus] at hterminal
      cases hterminal
    | .record_declined .. =>
      rw [hstatus]
      simp [SwapService.trade, SwapService.reached]
  · intro stage hstage hterminal
    rw [hstages] at hstage
    rw [hstatus]
    match hissued with
    | .record .. =>
      obtain rfl | rfl : stage = .Created ∨ stage = .Quoted := by
        simpa [SwapService.reached] using hstage
      · cases hterminal
      · cases hterminal
    | .record_declined .. =>
      obtain rfl | rfl : stage = .Created ∨ stage = .Declined := by
        simpa [SwapService.reached] using hstage
      · cases hterminal
      · rfl

/-- An advance writes a stage that is not terminal, and only a trade before it
    moves. -/
theorem recorded_advance (h : Recorded id store) {status : TradeStatus}
    (hstatus : status.is_terminal = false) (hrow : store.trade[id]? = some row)
    (hrow' : store'.trade[id]? = some (advanced row status))
    (hstages : ∀ stage, stage ∈ store'.timeline id ↔
      stage ∈ store.timeline id ∨ stage = status) :
    Recorded id store' ∧ RowKept id store store' := by
  have hold : ∀ stage ∈ store'.timeline id, stage.is_terminal = true → stage = row.status := by
    intro stage hstage hterminal
    rcases (hstages stage).mp hstage with hbefore | rfl
    · exact h.agrees row hrow stage hbefore hterminal
    · rw [hstatus] at hterminal
      cases hterminal
  unfold advanced at hrow'
  split at hrow'
  · rename_i hup
    refine ⟨recorded_of_row hrow' ?_ ?_ ?_, rowKept_of_row hrow hrow' ?_ ?_⟩
    · intro hended
      rw [hup.2] at hended
      cases hended
    · intro hterminal
      rw [hstatus] at hterminal
      cases hterminal
    · -- A trade with a terminal stage is past every stage an advance writes.
      intro stage hstage hterminal
      have hlast := hold stage hstage hterminal
      subst hlast
      have hhigh := rank_of_terminal.mp hterminal
      have hlow : ¬ 5 ≤ status.rank := by
        rw [← rank_of_terminal, hstatus]
        simp
      omega
    · intro hended
      rw [hup.2] at hended
      cases hended
    · intro _
      exact hup.1.le
  · refine ⟨recorded_of_row hrow' (h.ended row hrow) ?_ hold, rowKept_of_row hrow hrow' ?_ ?_⟩
    · intro hterminal
      exact (hstages _).mpr (.inl (h.listed row hrow hterminal))
    · exact fun _ => rfl
    · exact fun _ => le_rfl

/-- A settlement that repeats the recorded outcome. -/
theorem recorded_settle (h : Recorded id store) {outcome : Settlement} {block_number : Option I64}
    {stamp : I64} (hterminal : outcome.status.is_terminal = true)
    (hrepeats : ∀ stage ∈ store.timeline id, stage.is_terminal = true → outcome.status = stage)
    (hrow : store.trade[id]? = some row)
    (hrow' : store'.trade[id]? = some (settled_row row outcome block_number stamp))
    (hstages : ∀ stage, stage ∈ store'.timeline id ↔
      stage ∈ store.timeline id ∨ stage = outcome.status) :
    Recorded id store' ∧ RowKept id store store' := by
  -- Every terminal stage is the outcome, before and after.
  have hall : ∀ stage ∈ store'.timeline id, stage.is_terminal = true →
      stage = outcome.status := by
    intro stage hstage hstage'
    rcases (hstages stage).mp hstage with hbefore | rfl
    · exact (hrepeats stage hbefore hstage').symm
    · rfl
  have hsame : row.status.is_terminal = true → outcome.status = row.status := fun hrowterminal =>
    hrepeats row.status (h.listed row hrow hrowterminal) hrowterminal
  unfold settled_row at hrow'
  split at hrow'
  · rename_i hopen
    refine ⟨recorded_of_row hrow' ?_ ?_ hall, rowKept_of_row hrow hrow' ?_ ?_⟩
    · exact fun _ => hterminal
    · exact fun _ => (hstages _).mpr (.inr rfl)
    · intro hended
      rw [hopen] at hended
      cases hended
    · intro _
      show row.status.rank ≤ outcome.status.rank
      by_cases hrowterminal : row.status.is_terminal = true
      · rw [hsame hrowterminal]
      · rw [rank_of_terminal] at hrowterminal hterminal
        omega
  · rename_i hended
    have hrowterminal := h.ended row hrow (Option.isSome_iff_ne_none.mpr hended)
    refine ⟨recorded_of_row hrow' (h.ended row hrow) ?_ ?_, rowKept_of_row hrow hrow' ?_ ?_⟩
    · exact fun _ => (hstages _).mpr (.inl (h.listed row hrow hrowterminal))
    · intro stage hstage hstage'
      rw [hall stage hstage hstage', hsame hrowterminal]
    · exact fun _ => rfl
    · exact fun _ => le_rfl

/-- **Step lemma.** A call that repeats the recorded outcome keeps the history. -/
theorem recorded_step {call : TradeCall} (h : Recorded id store) (hissued : call.Issued)
    (hrepeats : Repeats id store call) :
    Recorded id (store.after call) ∧ KeepsHistory id store (store.after call) := by
  suffices hkept : Recorded id (store.after call) ∧ RowKept id store (store.after call) from
    ⟨hkept.1, hkept.2, hkept.1.agrees, hkept.1.at_most_one⟩
  have heffect := call_effect store id call
  generalize store.after call = store' at heffect ⊢
  match heffect with
  | .same hrow hstages => exact recorded_of_same h hrow hstages
  | .creates hfresh hbound hrow' hstages =>
    exact recorded_create hissued hfresh hbound hrow' hstages
  | .advances hrow hrow' hstages =>
    refine recorded_advance h ?_ hrow hrow' hstages
    match hissued with
    | .advance _ _ hstatus => rcases hstatus with rfl | rfl | rfl <;> rfl
  | .settles hfits hrow hrow' hstages =>
    exact recorded_settle h (issued_settlement hissued) (hrepeats rfl hfits) hrow hrow' hstages

/-- A settlement that brings another outcome leaves two terminal stages. -/
theorem not_agrees_of_settle {call : TradeCall} (h : Recorded id store) (hissued : call.Issued)
    (hother : ¬ Repeats id store call) : ¬ Agrees id (store.after call) := by
  match call, hother with
  | .create _ _ _, hother | .advance _ _ _, hother => exact absurd trivial hother
  | .settle k outcome, hother =>
    simp only [Repeats, Classical.not_imp, not_forall] at hother
    obtain ⟨rfl, hfits, stage, hstage, hterminal, hne⟩ := hother
    obtain ⟨block_number, stamp, hblock, hstamp⟩ := ok_of_fits hfits
    rcases settle_fitting store k hblock hstamp with ⟨hnone, -⟩ | ⟨row, -, hrow', hstages, -⟩
    · rw [h.unknown hnone] at hstage
      cases hstage
    · intro hagrees
      have hfirst := hagrees _ hrow' stage ((hstages stage).mpr (.inl hstage)) hterminal
      have hsecond := hagrees _ hrow' outcome.status ((hstages _).mpr (.inr rfl))
        (issued_settlement hissued)
      exact hne (hsecond.trans hfirst.symm)

end Step

/-! ## Every run -/

/-- **Run lemma.** From a store whose history is in order. -/
theorem keepsHistory_iff {id : TradeId} {store : SqliteTradeStore} {calls : List TradeCall}
    (h : Recorded id store) (hissued : ∀ call ∈ calls, call.Issued) :
    Run.Along after (fun store call => KeepsHistory id store (store.after call)) store calls ↔
      Run.Along after (Repeats id) store calls := by
  induction calls generalizing store with
  | nil => exact Iff.rfl
  | cons call calls ih =>
    have hfirst := hissued call (by simp)
    have hrest : ∀ call ∈ calls, call.Issued := fun c hc => hissued c (by simp [hc])
    constructor
    · rintro ⟨hkeeps, halong⟩
      have hrepeats : Repeats id store call := by
        by_contra hother
        exact not_agrees_of_settle h hfirst hother hkeeps.agrees
      exact ⟨hrepeats, (ih (recorded_step h hfirst hrepeats).1 hrest).mp halong⟩
    · rintro ⟨hrepeats, halong⟩
      obtain ⟨hrecorded, hkeeps⟩ := recorded_step h hfirst hrepeats
      exact ⟨hkeeps, (ih hrecorded hrest).mpr halong⟩

/-- **When a trade's history agrees with its status.** Along any run of calls as
    the services issue them, every call leaves a settled trade as it is, lowers
    no rank before that and leaves no terminal stage but the status on the
    timeline, exactly when every settlement repeats the terminal stage already
    on record. -/
theorem trade_history_agrees_iff (calls : List TradeCall) (hissued : ∀ call ∈ calls, call.Issued)
    (id : TradeId) :
    Run.Along after (fun store call => KeepsHistory id store (store.after call)) empty calls ↔
      Run.Along after (Repeats id) empty calls :=
  keepsHistory_iff (recorded_empty id) hissued

/-! ## Samples -/

def sample_amounts : SwapAmounts :=
  { token_in := 1, token_out := 2, amount_in := 1000, min_out := 300 }

/-- One trade up to its submitted fill. -/
def submitted_calls : List TradeCall :=
  [.create
      (SwapService.trade (SwapService.sample_request 300 ⟨1⟩) sample_amounts
        (some { intent := ⟨5⟩, legs := [], expected_profit := 0 }) 10 .Quoted)
      [] (SwapService.reached 10 [.Created, .Quoted]),
    .advance ⟨1⟩ .Reserved 10, .advance ⟨1⟩ .Simulated 10, .advance ⟨1⟩ .Submitted 10]

def sample_row : TradeRow :=
  { order_hash := ⟨5⟩, taker := 9, token_in := 1, token_out := 2, amount_in := 1000,
    min_amount_out := 300, amount_out := none, status := .Submitted, deadline_block := 100,
    surplus := some 0, tx_hash := none, block_number := none, created_at := 10,
    settled_at := none }

def confirm_call : TradeCall :=
  .settle ⟨1⟩ (ReconcileService.settlement_of (.Confirmed 7 42) 20 sample_row)

theorem issued_submitted : ∀ call ∈ submitted_calls, call.Issued := by
  intro call hcall
  simp only [submitted_calls, List.mem_cons, List.not_mem_nil, or_false] at hcall
  rcases hcall with rfl | rfl | rfl | rfl
  · exact .record _ _ _ _
  · exact .advance _ _ (.inl rfl)
  · exact .advance _ _ (.inr (.inl rfl))
  · exact .advance _ _ (.inr (.inr rfl))

theorem issued_confirm : confirm_call.Issued := .settle_trade _ _ _ _

/-- A confirmation, its replay and a late advance. -/
theorem trade_history_agrees_sample :
    Run.Along after (fun store call => KeepsHistory ⟨1⟩ store (store.after call)) empty
      (submitted_calls ++ [confirm_call, confirm_call, .advance ⟨1⟩ .Submitted 30]) := by
  refine (trade_history_agrees_iff _ ?_ ⟨1⟩).mpr (by decide +kernel)
  intro call hcall
  simp only [List.mem_append, List.mem_cons, List.not_mem_nil, or_false] at hcall
  rcases hcall with hcall | rfl | rfl | rfl
  · exact issued_submitted call hcall
  · exact issued_confirm
  · exact issued_confirm
  · exact .advance _ _ (.inr (.inr rfl))

/-- A confirmed trade whose hold is swept later: the row stays confirmed, and the
    timeline shows it confirmed and failed. -/
theorem settled_trade_records_another_end :
    (∀ call ∈ submitted_calls ++ [confirm_call, .settle ⟨1⟩ (ReconcileService.failed 30)],
      call.Issued) ∧
    let store := Run.run after empty
      (submitted_calls ++ [confirm_call, .settle ⟨1⟩ (ReconcileService.failed 30)])
    store.status_of ⟨1⟩ = some .Confirmed ∧
    store.timeline ⟨1⟩ =
      [.Created, .Quoted, .Reserved, .Simulated, .Submitted, .Confirmed, .Failed] ∧
    ¬ Agrees ⟨1⟩ store := by
  refine ⟨?_, ?_⟩
  · intro call hcall
    simp only [List.mem_append, List.mem_cons, List.not_mem_nil, or_false] at hcall
    rcases hcall with hcall | rfl | rfl
    · exact issued_submitted call hcall
    · exact issued_confirm
    · exact .fail_swept _ _
  intro store
  have hstatus : store.status_of ⟨1⟩ = some .Confirmed := by decide +kernel
  have hstages : store.timeline ⟨1⟩ =
      [.Created, .Quoted, .Reserved, .Simulated, .Submitted, .Confirmed, .Failed] := by
    decide +kernel
  refine ⟨hstatus, hstages, ?_⟩
  intro hagrees
  obtain ⟨row, hrow, hconfirmed⟩ := Option.map_eq_some_iff.mp hstatus
  have hfailed := hagrees row hrow .Failed (by rw [hstages]; simp) rfl
  rw [hconfirmed] at hfailed
  cases hfailed

end SqliteTradeStore

end Solvent
