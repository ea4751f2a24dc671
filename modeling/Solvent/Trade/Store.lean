import Mathlib
import Solvent.Error

/-! # The trade store

    One row per signed order. The status of a row only climbs, and a row whose
    `settled_at` is set is final: `advance` and `settle` are guarded updates, so
    replaying one is a no-op.

    The price and signature columns are not modelled; nothing here reads them.
-/

namespace Solvent

open BTreeMap

/-! ## Trades -/

/-- A 128-bit, time-sortable id. -/
structure TradeId where
  ulid : Fin (2 ^ 128)

theorem TradeId.ulid_injective : Function.Injective TradeId.ulid := by
  intro a b h
  cases a
  cases b
  exact congrArg TradeId.mk h

instance : LinearOrder TradeId := LinearOrder.lift' _ TradeId.ulid_injective

instance tradeId_transCmp :
    Std.TransCmp (compare : TradeId → TradeId → Ordering) := inferInstance

/-- Where a trade sits in its lifecycle, in the order of its rank. -/
inductive TradeStatus where
  | Created
  | Quoted
  | Reserved
  | Simulated
  | Submitted
  | Confirmed
  | Declined
  | Failed
  deriving DecidableEq

/-- The declaration order: a transition fires only when it moves forward. -/
def TradeStatus.rank : TradeStatus → ℕ
  | Created => 0
  | Quoted => 1
  | Reserved => 2
  | Simulated => 3
  | Submitted => 4
  | Confirmed => 5
  | Declined => 6
  | Failed => 7

structure Trade where
  id : TradeId
  order_hash : IntentId
  taker : Address
  token_in : Address
  token_out : Address
  amount_in : U256
  min_amount_out : U256
  amount_out : Option U256
  status : TradeStatus
  deadline_block : U64
  surplus : Option U256
  tx_hash : Option B256
  block_number : Option U64
  created_at : U64
  settled_at : Option U64
  deriving DecidableEq

structure TradeLeg where
  maker : MakerId
  strategy_hash : StrategyHash
  amount_in : U256
  amount_out : U256
  deriving DecidableEq

structure TradeAttempt where
  status : TradeStatus
  at_time : U64
  deriving DecidableEq

/-- A trade's terminal settlement, applied once. -/
structure Settlement where
  status : TradeStatus
  amount_out : Option U256
  tx_hash : Option B256
  block_number : Option U64
  at_time : U64
  deriving DecidableEq

/-! ## The tables -/

/-- A row of `trade`; `status_rank` is the rank of `status`. -/
structure TradeRow where
  order_hash : IntentId
  taker : Address
  token_in : Address
  token_out : Address
  amount_in : U256
  min_amount_out : U256
  amount_out : Option U256
  status : TradeStatus
  deadline_block : I64
  surplus : Option U256
  tx_hash : Option B256
  block_number : Option I64
  created_at : I64
  settled_at : Option I64
  deriving DecidableEq

/-- The three tables, with the unique index on the order hash. -/
structure SqliteTradeStore where
  trade : BTreeMap TradeId TradeRow
  trade_leg : BTreeMap TradeId (List TradeLeg)
  /-- Keyed by trade and status: one entry per status. -/
  trade_attempt : BTreeMap TradeId (List (TradeStatus × I64))
  unique_order : ∀ {i j : TradeId} {t u : TradeRow}, trade[i]? = some t → trade[j]? = some u →
    t.order_hash = u.order_hash → i = j

namespace SqliteTradeStore

def empty : SqliteTradeStore where
  trade := ∅
  trade_leg := ∅
  trade_attempt := ∅
  unique_order := by
    intro i j t u hi
    simp at hi

/-- `block_number.map(i64_of).transpose()?` -/
def opt_i64_of (value : Option U64) : Except String (Option I64) :=
  match value with
  | none => .ok none
  | some v => (i64_of v).map some

/-- The row the columns of a trade are bound to. -/
def row_of (trade : Trade) : Except String TradeRow := do
  let deadline_block ← i64_of trade.deadline_block
  let block_number ← opt_i64_of trade.block_number
  let created_at ← i64_of trade.created_at
  let settled_at ← opt_i64_of trade.settled_at
  return { order_hash := trade.order_hash, taker := trade.taker, token_in := trade.token_in,
           token_out := trade.token_out, amount_in := trade.amount_in,
           min_amount_out := trade.min_amount_out, amount_out := trade.amount_out,
           status := trade.status, deadline_block, surplus := trade.surplus,
           tx_hash := trade.tx_hash, block_number, created_at, settled_at }

/-- `SELECT * FROM trade WHERE order_hash = ?` -/
def find_by_order (store : SqliteTradeStore) (order_hash : IntentId) :
    Option (TradeId × TradeRow) :=
  store.trade.toList.find? fun b => b.2.order_hash = order_hash

/-- A stage already recorded for the trade is left as it is. -/
def with_attempt (attempts : List (TradeStatus × I64)) (status : TradeStatus) (time : I64) :
    List (TradeStatus × I64) :=
  if status ∈ attempts.map Prod.fst then attempts else attempts ++ [(status, time)]

/-- Append one lifecycle stage to a trade on record. -/
def insert_attempt (store : SqliteTradeStore) (id : TradeId) (status : TradeStatus) (time : I64) :
    Except TradeStoreError SqliteTradeStore :=
  if (store.trade[id]?).isNone then .error (.Db "FOREIGN KEY constraint failed")
  else .ok { store with
    trade_attempt :=
      entry store.trade_attempt id [] fun attempts => with_attempt attempts status time }

/-- A transaction either writes everything or, on an error, nothing. -/
def transaction (store : SqliteTradeStore) (result : Except TradeStoreError SqliteTradeStore) :
    Except TradeStoreError Unit × SqliteTradeStore :=
  match result with
  | .error e => (.error e, store)
  | .ok written => (.ok (), written)

/-- The result of `create`: the id of the order's trade, and whether it is new. -/
structure CreateResult where
  id : TradeId
  created : Bool

theorem find_by_order_none {store : SqliteTradeStore} {order_hash : IntentId}
    (h : store.find_by_order order_hash = none) {i : TradeId} {t : TradeRow}
    (ht : store.trade[i]? = some t) : t.order_hash ≠ order_hash := by
  unfold find_by_order at h
  rw [List.find?_eq_none] at h
  simpa using h (i, t) (Std.ExtTreeMap.mem_toList_iff_getElem?_eq_some.mpr ht)

/-- Record a new row for an order that has none. -/
def insert_row (store : SqliteTradeStore) (id : TradeId) (row : TradeRow)
    (hnew : store.find_by_order row.order_hash = none) : SqliteTradeStore :=
  { store with
    trade := store.trade.insert id row
    unique_order := by
      intro i j t u hi hj heq
      rw [get_insert] at hi hj
      split at hi
      · split at hj
        · simp_all
        · cases hi
          exact absurd heq.symm (find_by_order_none hnew hj)
      · split at hj
        · cases hj
          exact absurd heq (find_by_order_none hnew hi)
        · exact store.unique_order hi hj heq }

/-- The attempts of a new trade, in order. -/
def attempts_of (attempts : List TradeAttempt) : Except String (List (TradeStatus × I64)) :=
  attempts.foldlM (fun acc attempt =>
    (i64_of attempt.at_time).map fun time => with_attempt acc attempt.status time) []

/-- Record a trade with its legs and first stages, or find the trade its order
    already has. One transaction: an error writes nothing. -/
def create (store : SqliteTradeStore) (trade : Trade) (legs : List TradeLeg)
    (attempts : List TradeAttempt) : Except TradeStoreError CreateResult × SqliteTradeStore :=
  match row_of trade with
  | .error e => (.error (.Db e), store)
  | .ok row =>
    match hfind : store.find_by_order row.order_hash with
    | some existing => (.ok { id := existing.1, created := false }, store)
    | none =>
      if (store.trade[trade.id]?).isSome then
        (.error (.Db "UNIQUE constraint failed: trade.id"), store)
      else match attempts_of attempts with
        | .error e => (.error (.Db e), store)
        | .ok stages =>
          (.ok { id := trade.id, created := true },
            { insert_row store trade.id row hfind with
              trade_leg := store.trade_leg.insert trade.id legs
              trade_attempt := store.trade_attempt.insert trade.id stages })

/-- Update the row of `id` where `guard` holds, leaving its order alone. -/
def update_trade (store : SqliteTradeStore) (id : TradeId) (guard : TradeRow → Bool)
    (change : TradeRow → TradeRow)
    (hchange : ∀ row, (change row).order_hash = row.order_hash) : SqliteTradeStore :=
  match hrow : store.trade[id]? with
  | none => store
  | some row =>
    if guard row then
      { store with
        trade := store.trade.insert id (change row)
        unique_order := by
          intro i j t u hi hj heq
          have hback : ∀ {k : TradeId} {v : TradeRow},
              (store.trade.insert id (change row))[k]? = some v →
              ∃ v', store.trade[k]? = some v' ∧ v'.order_hash = v.order_hash := by
            intro k v hk
            rw [get_insert] at hk
            split at hk
            · rename_i hid
              subst hid
              cases hk
              exact ⟨row, hrow, (hchange row).symm⟩
            · exact ⟨v, hk, rfl⟩
          obtain ⟨t', ht', ht⟩ := hback hi
          obtain ⟨u', hu', hu⟩ := hback hj
          exact store.unique_order ht' hu' (by rw [ht, hu, heq]) }
    else store

/-- Move a trade forward to an intermediate stage. -/
def advance (store : SqliteTradeStore) (id : TradeId) (status : TradeStatus) (time : U64) :
    Except TradeStoreError Unit × SqliteTradeStore :=
  transaction store <|
    match i64_of time with
    | .error e => .error (.Db e)
    | .ok stamp =>
      insert_attempt
        (update_trade store id
          (fun row => row.status.rank < status.rank ∧ row.settled_at = none)
          (fun row => { row with status }) fun _ => rfl) id status stamp

/-- End a trade, once. -/
def settle (store : SqliteTradeStore) (id : TradeId) (outcome : Settlement) :
    Except TradeStoreError Unit × SqliteTradeStore :=
  transaction store <|
    match opt_i64_of outcome.block_number, i64_of outcome.at_time with
    | .error e, _ => .error (.Db e)
    | _, .error e => .error (.Db e)
    | .ok block_number, .ok stamp =>
      insert_attempt
        (update_trade store id (fun row => row.settled_at = none)
          (fun row => { row with
            status := outcome.status, amount_out := outcome.amount_out,
            tx_hash := outcome.tx_hash, block_number, settled_at := some stamp })
          fun _ => rfl) id outcome.status stamp

/-- The status the detail view reads. -/
def status_of (store : SqliteTradeStore) (id : TradeId) : Option TradeStatus :=
  (store.trade[id]?).map TradeRow.status

/-! ## What the guarded updates do to a row -/

theorem get_update_trade (store : SqliteTradeStore) (id k : TradeId) (guard : TradeRow → Bool)
    (change : TradeRow → TradeRow) (hchange : ∀ row, (change row).order_hash = row.order_hash) :
    (update_trade store id guard change hchange).trade[k]? =
      if id = k then (store.trade[k]?).map fun row => if guard row then change row else row
      else store.trade[k]? := by
  unfold update_trade
  split
  · rename_i hrow
    by_cases hk : id = k
    · subst hk
      simp [hrow]
    · simp [hk]
  · rename_i row hrow
    by_cases hguard : guard row = true
    · simp only [hguard, if_true, get_insert]
      by_cases hk : id = k
      · subst hk
        simp [hrow, hguard]
      · simp [hk]
    · by_cases hk : id = k
      · subst hk
        simp [hrow, hguard]
      · simp [hk, hguard]

theorem find_by_order_some {store : SqliteTradeStore} {order_hash : IntentId} {i : TradeId}
    {t : TradeRow} : store.find_by_order order_hash = some (i, t) ↔
      store.trade[i]? = some t ∧ t.order_hash = order_hash := by
  constructor
  · intro h
    refine ⟨Std.ExtTreeMap.mem_toList_iff_getElem?_eq_some.mp (List.mem_of_find?_eq_some h), ?_⟩
    simpa using List.find?_some h
  · intro h
    obtain ⟨hrow, horder⟩ := h
    cases hfind : store.find_by_order order_hash with
    | none => exact absurd horder (find_by_order_none hfind hrow)
    | some b =>
      obtain ⟨j, u⟩ := b
      have hu := Std.ExtTreeMap.mem_toList_iff_getElem?_eq_some.mp (List.mem_of_find?_eq_some hfind)
      have huo : u.order_hash = order_hash := by simpa using List.find?_some hfind
      have hij := store.unique_order hu hrow (by rw [huo, horder])
      subst hij
      rw [hrow] at hu
      obtain rfl := Option.some.inj hu
      rfl

theorem i64_of_error {value : U64} (h : ¬ value.val < 2 ^ 63) :
    ∃ e, i64_of value = .error e := by
  unfold i64_of
  rw [dif_neg h]
  exact ⟨_, rfl⟩

/-- A trade not yet mined or settled has a row exactly when its two times fit
    the signed columns. -/
theorem row_of_new (trade : Trade) (hblock : trade.block_number = none)
    (hsettled : trade.settled_at = none) :
    (trade.deadline_block.val < 2 ^ 63 ∧ trade.created_at.val < 2 ^ 63 →
      ∃ row, row_of trade = .ok row ∧ row.order_hash = trade.order_hash) ∧
    (¬ (trade.deadline_block.val < 2 ^ 63 ∧ trade.created_at.val < 2 ^ 63) →
      ∃ e, row_of trade = .error e) := by
  unfold row_of
  rw [hblock, hsettled]
  constructor
  · intro h
    rw [i64_of_ok h.1, i64_of_ok h.2]
    exact ⟨_, rfl, rfl⟩
  · intro h
    by_cases hdeadline : trade.deadline_block.val < 2 ^ 63
    · obtain ⟨e, he⟩ := i64_of_error (fun hcreated => h ⟨hdeadline, hcreated⟩)
      rw [i64_of_ok hdeadline, he]
      exact ⟨e, rfl⟩
    · obtain ⟨e, he⟩ := i64_of_error hdeadline
      rw [he]
      exact ⟨e, rfl⟩

/-- **An order on record is found, not recorded again.** -/
theorem create_existing {store : SqliteTradeStore} {trade : Trade} {row : TradeRow}
    (hrow : row_of trade = .ok row) {existing : TradeId × TradeRow}
    (hfind : store.find_by_order row.order_hash = some existing) (legs : List TradeLeg)
    (attempts : List TradeAttempt) :
    store.create trade legs attempts = (.ok { id := existing.1, created := false }, store) := by
  unfold create
  rw [hrow]
  simp only
  split
  · rename_i found hfound
    rw [hfind] at hfound
    obtain rfl := Option.some.inj hfound
    rfl
  · rename_i hnone
    rw [hfind] at hnone
    cases hnone

theorem create_error {store : SqliteTradeStore} {trade : Trade} {e : String}
    (hrow : row_of trade = .error e) (legs : List TradeLeg) (attempts : List TradeAttempt) :
    store.create trade legs attempts = (.error (.Db e), store) := by
  unfold create
  rw [hrow]

theorem row_of_order {trade : Trade} {row : TradeRow} (h : row_of trade = .ok row) :
    row.order_hash = trade.order_hash ∧ row.status = trade.status ∧
      (trade.settled_at = none → row.settled_at = none) := by
  unfold row_of at h
  cases hdeadline : i64_of trade.deadline_block with
  | error e => simp [hdeadline, bind, Except.bind] at h
  | ok deadline =>
    cases hblock : opt_i64_of trade.block_number with
    | error e => simp [hdeadline, hblock, bind, Except.bind] at h
    | ok block =>
      cases hcreated : i64_of trade.created_at with
      | error e => simp [hdeadline, hblock, hcreated, bind, Except.bind] at h
      | ok created =>
        cases hsettled : opt_i64_of trade.settled_at with
        | error e => simp [hdeadline, hblock, hcreated, hsettled, bind, Except.bind] at h
        | ok settled =>
          simp only [hdeadline, hblock, hcreated, hsettled, bind, Except.bind, pure, Except.pure,
            Except.ok.injEq] at h
          subst h
          refine ⟨rfl, rfl, ?_⟩
          intro hnone
          rw [hnone] at hsettled
          exact (Except.ok.inj hsettled).symm

/-! ## Inversion: what each call can have done -/

/-- **`create`** fails and writes nothing, finds the order's trade, or records a
    new row under the candidate id. -/
theorem create_cases (store : SqliteTradeStore) (trade : Trade) (legs : List TradeLeg)
    (attempts : List TradeAttempt) :
    (∃ e, store.create trade legs attempts = (.error e, store)) ∨
    (∃ existing row, store.find_by_order trade.order_hash = some (existing, row) ∧
      store.create trade legs attempts = (.ok { id := existing, created := false }, store)) ∨
    (∃ row store', store.find_by_order trade.order_hash = none ∧
      store.trade[trade.id]? = none ∧ row_of trade = .ok row ∧
      store'.trade = store.trade.insert trade.id row ∧
      store.create trade legs attempts = (.ok { id := trade.id, created := true }, store')) := by
  cases hrow : row_of trade with
  | error e => exact .inl ⟨.Db e, create_error hrow legs attempts⟩
  | ok row =>
    have horder := (row_of_order hrow).1
    cases hfind : store.find_by_order row.order_hash with
    | some existing =>
      refine .inr (.inl ⟨existing.1, existing.2, by rw [← horder]; exact hfind, ?_⟩)
      exact create_existing hrow hfind legs attempts
    | none =>
      unfold create
      simp only [hrow]
      split
      · rename_i existing hfound
        rw [hfind] at hfound
        cases hfound
      · rename_i hnone
        split
        · exact .inl ⟨_, rfl⟩
        · rename_i hfresh
          have hfresh' : store.trade[trade.id]? = none := by simpa using hfresh
          split
          · exact .inl ⟨_, rfl⟩
          · rw [horder] at hfind
            exact .inr (.inr ⟨row, _, hfind, hfresh', rfl, rfl, rfl⟩)

/-- The table changed at `id` by `change`, and nowhere else. -/
def Rewrites (store store' : SqliteTradeStore) (id : TradeId) (change : TradeRow → TradeRow) :
    Prop :=
  ∀ k : TradeId, store'.trade[k]? =
    if id = k then (store.trade[k]?).map change else store.trade[k]?

/-- The row an `advance` leaves. -/
def advanced (row : TradeRow) (status : TradeStatus) : TradeRow :=
  if row.status.rank < status.rank ∧ row.settled_at = none then { row with status } else row

/-- **`advance`** fails and writes nothing, or moves one row on record. -/
theorem advance_cases (store : SqliteTradeStore) (id : TradeId) (status : TradeStatus)
    (time : U64) :
    (∃ e, store.advance id status time = (.error e, store)) ∨
    ∃ store', store.advance id status time = (.ok (), store') ∧
      store.Rewrites store' id (advanced · status) := by
  unfold advance transaction insert_attempt
  cases i64_of time with
  | error e => exact .inl ⟨_, rfl⟩
  | ok stamp =>
    simp only
    split
    · rename_i heq
      exact .inl ⟨_, rfl⟩
    · rename_i written heq
      split at heq
      · cases heq
      · obtain rfl := Except.ok.inj heq
        refine .inr ⟨_, rfl, ?_⟩
        intro k
        rw [get_update_trade]
        simp only [decide_eq_true_eq, advanced]

/-- The row a settlement leaves. -/
def settled_row (row : TradeRow) (outcome : Settlement) (block_number : Option I64)
    (stamp : I64) : TradeRow :=
  if row.settled_at = none then
    { row with
      status := outcome.status, amount_out := outcome.amount_out, tx_hash := outcome.tx_hash,
      block_number, settled_at := some stamp }
  else row

/-- **`settle`** fails and writes nothing, or ends one row on record. -/
theorem settle_cases (store : SqliteTradeStore) (id : TradeId) (outcome : Settlement) :
    (∃ e, store.settle id outcome = (.error e, store)) ∨
    ∃ store' block_number stamp, store.settle id outcome = (.ok (), store') ∧
      store.Rewrites store' id (settled_row · outcome block_number stamp) := by
  unfold settle transaction insert_attempt
  cases hblock : opt_i64_of outcome.block_number with
  | error e => exact .inl ⟨_, rfl⟩
  | ok block_number =>
    cases i64_of outcome.at_time with
    | error e => exact .inl ⟨_, rfl⟩
    | ok stamp =>
      simp only
      split
      · exact .inl ⟨_, rfl⟩
      · rename_i written heq
        split at heq
        · cases heq
        · obtain rfl := Except.ok.inj heq
          refine .inr ⟨_, block_number, stamp, rfl, ?_⟩
          intro k
          rw [get_update_trade]
          simp only [decide_eq_true_eq, settled_row]

/-- A settlement without a block whose time fits the column goes through on a
    trade on record. -/
theorem settle_ok {store : SqliteTradeStore} {id : TradeId} {row : TradeRow}
    (hrow : store.trade[id]? = some row) {outcome : Settlement}
    (hblock : outcome.block_number = none) (htime : outcome.at_time.val < 2 ^ 63) :
    (store.settle id outcome).1 = .ok () := by
  unfold settle transaction insert_attempt
  simp [hblock, opt_i64_of, i64_of_ok htime, get_update_trade, hrow]

end SqliteTradeStore

end Solvent
