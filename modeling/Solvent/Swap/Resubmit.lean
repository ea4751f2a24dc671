import Mathlib
import Solvent.Swap.Service

/-! # Resubmission

    A taker may send the same order again. `submit` promises to return the
    order's trade untouched once it is past `Quoted`, but it prices and routes
    before it looks at the stored trade. A repeated order that no longer routes,
    if only because its own hold took the capacity, is settled as declined while
    its fill is still in flight.
-/

namespace Solvent

open BTreeMap

namespace SwapService

section Resubmit

variable (config : SwapConfig) (keccak256 : List UInt8 → B256)
variable (request : SwapRequest) (reads : ℕ → SwapReads)

/-- The call returns the recorded trade and its status, and leaves the trades,
    the ledger and the executor as they were. -/
structure Echoes (node : Node) (id : TradeId) (row : TradeRow) : Prop where
  answer : (submit config keccak256 request reads node).2 =
    some (.ok { trade_id := id, status := row.status })
  trades : (submit config keccak256 request reads node).1.trades.trade = node.trades.trade
  ledger : (submit config keccak256 request reads node).1.ledger = node.ledger
  executor : (submit config keccak256 request reads node).1.executor = node.executor

/-- The clock and the order's deadline fit the store's signed columns. -/
def Storable (now : U64) : Prop :=
  request.intent.deadline.val < 2 ^ 63 ∧ now.val < 2 ^ 63

variable {node : Node} {id : TradeId} {row : TradeRow}

/-! ## The order still routes -/

theorem submit_routed {amounts : SwapAmounts} {plan : RoutePlan}
    (hroute : price_and_route config request.intent (reads 0) node.ledger.snapshot =
      some (amounts, plan)) :
    submit config keccak256 request reads node =
      drive config keccak256 request reads 10 1 node
        (.record { now := (reads 0).now_unix, plan, snapshot := (reads 0).registry } amounts) := by
  simp only [submit, drive, step, hroute]

/-- A routed resubmission past `Quoted` stops at the status it reads. -/
theorem submit_routed_existing {amounts : SwapAmounts} {plan : RoutePlan}
    (hroute : price_and_route config request.intent (reads 0) node.ledger.snapshot =
      some (amounts, plan))
    (hfits : Storable request (reads 0).now_unix)
    (hfind : node.trades.find_by_order request.intent.id = some (id, row))
    (hpast : before_reserve row.status = false) :
    submit config keccak256 request reads node =
      (node, some (.ok { trade_id := id, status := row.status })) := by
  obtain ⟨hrow, _⟩ := SqliteTradeStore.find_by_order_some.mp hfind
  obtain ⟨new, hnew, horder⟩ := (SqliteTradeStore.row_of_new
    (trade request amounts (some plan) (reads 0).now_unix .Quoted) rfl rfl).1 hfits
  have hexisting : node.trades.find_by_order new.order_hash = some (id, row) := by
    rw [horder]
    exact hfind
  rw [submit_routed config keccak256 request reads hroute]
  simp only [drive, step, record, store_call, SqliteTradeStore.create_existing hnew hexisting]
  simp [read_status, SqliteTradeStore.status_of, hrow, hpast]

/-! ## The order does not route -/

theorem submit_unrouted
    (hroute : price_and_route config request.intent (reads 0) node.ledger.snapshot = none) :
    submit config keccak256 request reads node =
      drive config keccak256 request reads 10 1 node
        (.record_declined (reads 0).now_unix) := by
  simp only [submit, drive, step, hroute]

/-- An unrouted resubmission settles the recorded trade as declined. -/
theorem submit_unrouted_existing
    (hroute : price_and_route config request.intent (reads 0) node.ledger.snapshot = none)
    (hfits : Storable request (reads 0).now_unix)
    (hfind : node.trades.find_by_order request.intent.id = some (id, row)) :
    submit config keccak256 request reads node =
      ({ node with
        trades := (node.trades.settle id (declined_settlement (reads 0).now_unix)).2 },
        some (.ok { trade_id := id, status := .Declined })) := by
  obtain ⟨hrow, _⟩ := SqliteTradeStore.find_by_order_some.mp hfind
  obtain ⟨new, hnew, horder⟩ := (SqliteTradeStore.row_of_new
    (trade request (declined_amounts request.intent (reads 0).now_unix) none
      (reads 0).now_unix .Declined) rfl rfl).1 hfits
  have hexisting : node.trades.find_by_order new.order_hash = some (id, row) := by
    rw [horder]
    exact hfind
  have hok : (node.trades.settle id (declined_settlement (reads 0).now_unix)).1 = .ok () :=
    SqliteTradeStore.settle_ok hrow rfl hfits.2
  rw [submit_unrouted config keccak256 request reads hroute]
  simp only [drive, step, record_declined, store_call,
    SqliteTradeStore.create_existing hnew hexisting]
  cases hsettle : node.trades.settle id (declined_settlement (reads 0).now_unix) with
  | mk result trades =>
    rw [hsettle] at hok
    simp only at hok
    rw [hok]

/-- Declining leaves the trade table alone exactly when the trade has ended. -/
theorem settle_keeps_trades_iff (hrow : node.trades.trade[id]? = some row) {now : U64}
    (hnow : now.val < 2 ^ 63) :
    (node.trades.settle id (declined_settlement now)).2.trade = node.trades.trade ↔
      row.settled_at.isSome := by
  rcases SqliteTradeStore.settle_cases node.trades id (declined_settlement now) with
    ⟨e, herror⟩ | ⟨store', number, stamp, hstore, htrade⟩
  · have hok : (node.trades.settle id (declined_settlement now)).1 = .ok () :=
      SqliteTradeStore.settle_ok hrow rfl hnow
    rw [herror] at hok
    cases hok
  · rw [hstore]
    constructor
    · intro hsame
      have hid := htrade id
      rw [if_pos rfl, hsame, hrow, Option.map_some] at hid
      by_contra hopen
      have hnone : row.settled_at = none := by simpa using hopen
      have hended := congrArg TradeRow.settled_at (Option.some.inj hid)
      simp [SqliteTradeStore.settled_row, hnone] at hended
    · intro hended
      have hsome : row.settled_at ≠ none := Option.isSome_iff_ne_none.mp hended
      apply Std.ExtTreeMap.ext_getElem?
      intro k
      rw [htrade k]
      by_cases hk : id = k
      · subst hk
        simp [hrow, SqliteTradeStore.settled_row, hsome]
      · simp [hk]

/-! ## When a resubmission is echoed -/

/-- A clock or a deadline beyond the signed columns fails the request. -/
theorem submit_unstorable (hfits : ¬ Storable request (reads 0).now_unix) :
    ∃ e, (submit config keccak256 request reads node).2 = some (.error e) := by
  cases hroute : price_and_route config request.intent (reads 0) node.ledger.snapshot with
  | none =>
    obtain ⟨e, herror⟩ := (SqliteTradeStore.row_of_new
      (trade request (declined_amounts request.intent (reads 0).now_unix) none
        (reads 0).now_unix .Declined) rfl rfl).2 hfits
    rw [submit_unrouted config keccak256 request reads hroute]
    simp only [drive, step, record_declined, store_call, SqliteTradeStore.create_error herror]
    exact ⟨_, rfl⟩
  | some found =>
    obtain ⟨amounts, plan⟩ := found
    obtain ⟨e, herror⟩ := (SqliteTradeStore.row_of_new
      (trade request amounts (some plan) (reads 0).now_unix .Quoted) rfl rfl).2 hfits
    rw [submit_routed config keccak256 request reads hroute]
    simp only [drive, step, record, store_call, SqliteTradeStore.create_error herror]
    exact ⟨_, rfl⟩

/-- **When a resubmission is echoed.** The order is on record past `Quoted`: a
    repeated call leaves everything alone exactly when its times can be stored
    and either the order still routes or its trade ended as declined. -/
theorem resubmission_echoes_iff
    (hfind : node.trades.find_by_order request.intent.id = some (id, row))
    (hpast : before_reserve row.status = false) :
    Echoes config keccak256 request reads node id row ↔
      Storable request (reads 0).now_unix ∧
        ((price_and_route config request.intent (reads 0) node.ledger.snapshot).isSome ∨
          (row.status = .Declined ∧ row.settled_at.isSome)) := by
  obtain ⟨hrow, _⟩ := SqliteTradeStore.find_by_order_some.mp hfind
  by_cases hfits : Storable request (reads 0).now_unix
  · cases hroute : price_and_route config request.intent (reads 0) node.ledger.snapshot with
    | some found =>
      obtain ⟨amounts, plan⟩ := found
      have hcall := submit_routed_existing config keccak256 request reads hroute hfits
        hfind hpast
      simp only [Option.isSome_some, true_or, and_true, iff_true_right hfits]
      exact ⟨by rw [hcall], by rw [hcall], by rw [hcall], by rw [hcall]⟩
    | none =>
      have hcall := submit_unrouted_existing config keccak256 request reads hroute hfits hfind
      simp only [Option.isSome_none, Bool.false_eq_true, false_or]
      constructor
      · intro hecho
        have hstatus := hecho.answer
        rw [hcall] at hstatus
        simp only [Option.some.injEq, Except.ok.injEq, SwapOutcome.mk.injEq, true_and] at hstatus
        have htrades := hecho.trades
        rw [hcall] at htrades
        exact ⟨hfits, hstatus.symm, (settle_keeps_trades_iff hrow hfits.2).mp htrades⟩
      · intro ⟨_, hdeclined, hended⟩
        refine ⟨by rw [hcall, hdeclined], ?_, by rw [hcall], by rw [hcall]⟩
        rw [hcall]
        exact (settle_keeps_trades_iff hrow hfits.2).mpr hended
  · constructor
    · intro hecho
      obtain ⟨e, herror⟩ := submit_unstorable config keccak256 request reads
        hfits
      rw [hecho.answer] at herror
      cases herror
    · intro ⟨hfits', _⟩
      exact absurd hfits' hfits

end Resubmit

/-! ## Two calls of one order -/

/-- A stand-in hash that tells the preimages of the samples apart. -/
def sample_hash (bytes : List UInt8) : B256 :=
  Fin.ofNat _ (bytes.foldl (fun acc b => acc * 257 + b.toNat + 1) 0)

/-- Wants `amount` of token 2 for at most 1000 of token 1. -/
def sample_request (amount : U256) (trade_id : TradeId) : SwapRequest :=
  { intent :=
      { id := ⟨5⟩
        input := { token := 1, curve := .Static 1000 }
        routing_input_limit := none
        outputs := [{ token := 2, curve := .Static amount, recipient := 9 }]
        deadline := 100 }
    taker := 9
    trade_id }

def sample_budgets (wallet : U256) : BTreeMap AccountKey U256 :=
  ((∅ : BTreeMap AccountKey U256).insert (.WalletBudget ⟨1⟩ 2) wallet).insert
    (.StrategyVirtual ⟨1⟩ ⟨1⟩ 2) 1000

def sample_swap_reads (wallet : U256) : SwapReads :=
  { now_unix := 10
    registry := Snapshot.from_strategies [sample_strategy]
    guards := ∅
    per_leg_cost := 0
    budget := fun a => .ok (get_or (sample_budgets wallet) a 0)
    simulate := .Ok }

def sample_swap_config : SwapConfig := { routing := sample_config, reservation_ttl_secs := 60 }

/-- A node whose one maker funds `wallet` of token 2. -/
def sample_node (wallet : U256) : Node :=
  { ledger := ((LedgerService.new ∅).sync_budgets (.ok (sample_budgets wallet))).2
    trades := .empty
    executor := .empty }

def first_call (wallet : U256) : Node × Option (Except SolventError SwapOutcome) :=
  submit sample_swap_config sample_hash (sample_request 400 ⟨1⟩) (fun _ => sample_swap_reads wallet)
    (sample_node wallet)

def second_call (wallet : U256) : Node × Option (Except SolventError SwapOutcome) :=
  submit sample_swap_config sample_hash (sample_request 400 ⟨2⟩) (fun _ => sample_swap_reads wallet)
    (first_call wallet).1

theorem resubmission_echoes_sample :
    ∃ id row, (first_call 900).1.trades.find_by_order ⟨5⟩ = some (id, row) ∧
      row.status = .Submitted ∧
      Echoes sample_swap_config sample_hash (sample_request 400 ⟨2⟩)
        (fun _ => sample_swap_reads 900) (first_call 900).1 id row := by
  have hstatus : ((first_call 900).1.trades.find_by_order ⟨5⟩).map (fun b => b.2.status) =
      some .Submitted := by decide +kernel
  obtain ⟨⟨id, row⟩, hfind, hsubmitted⟩ := Option.map_eq_some_iff.mp hstatus
  refine ⟨id, row, hfind, hsubmitted, ?_⟩
  refine (resubmission_echoes_iff _ _ _ _ hfind (by rw [hsubmitted]; rfl)).mpr
    ⟨⟨by decide, by decide⟩, .inl ?_⟩
  decide +kernel

/-- The maker funds 700: the first call holds 400 of it and submits its fill, so
    the second finds no route for 400 and settles the trade as declined. The
    fill is still tracked and its hold still pending. -/
theorem resubmission_declines_an_inflight_trade :
    (first_call 700).2 = some (.ok { trade_id := ⟨1⟩, status := .Submitted }) ∧
    (second_call 700).2 = some (.ok { trade_id := ⟨1⟩, status := .Declined }) ∧
    ((first_call 700).1.trades.find_by_order ⟨5⟩).map (fun b => (b.2.status, b.2.settled_at)) =
      some (.Submitted, none) ∧
    ((second_call 700).1.trades.find_by_order ⟨5⟩).map (fun b => (b.2.status, b.2.settled_at)) =
      some (.Declined, some 10) ∧
    ((second_call 700).1.executor.fills.rows.map fun f =>
        (f.intent, (second_call 700).1.ledger.memory f.reservation)) =
      [(⟨5⟩, some (.Swap ⟨5⟩, .Pending))] := by
  decide +kernel

end SwapService

end Solvent
