import Mathlib
import Solvent.Swap.Service

/-! # What a port call of a request can do

    One inversion lemma for `SwapService.step`: every port call is one of the
    constructors of `Does`, with the guards it passed and the stores it left.
    The invariants of interleaved calls are proved from it and never unfold the
    service.
-/

namespace Solvent

open BTreeMap

/-- The phase a call goes on with, if it does. -/
def Progress.phase : Progress → Option Phase
  | next phase => some phase
  | done _ => none

namespace SwapService

section Steps

variable (keccak256 : List UInt8 → B256) (request : SwapRequest)

/-- The moves that touch no store. -/
inductive Quiet (node : Node) : Phase → Phase → Prop where
  | routes (call : Routed) (amounts : SwapAmounts) : Quiet node .start (.record call amounts)
  | unrouted (now : U64) : Quiet node .start (.record_declined now)
  | found_declined {now : U64} {id : TradeId} {row : TradeRow}
      (hfind : node.trades.find_by_order request.intent.id = some (id, row)) :
      Quiet node (.record_declined now) (.decline id now)
  | found {call : Routed} {amounts : SwapAmounts} {id : TradeId} {row : TradeRow}
      (hfind : node.trades.find_by_order request.intent.id = some (id, row)) :
      Quiet node (.record call amounts) (.read_status call id)
  | redrives {call : Routed} {id : TradeId} : Quiet node (.read_status call id) (.reserve call id)
  | guarded {call : Routed} {id : TradeId} :
      Quiet node (.reserve call id) (.decline id call.now)
  | simulates {call : Routed} {id : TradeId} : Quiet node (.simulate call id) (.lookup call id)
  | rejects {call : Routed} {id : TradeId} : Quiet node (.simulate call id) (.void call id)
  | already_tracked {call : Routed} {id : TradeId} (htracked : node.executor.Tracks request.intent.id) :
      Quiet node (.lookup call id) (.advance_simulated call id)
  | untracked {call : Routed} {id : TradeId} (hfree : ¬ node.executor.Tracks request.intent.id) :
      Quiet node (.lookup call id) (.send call id)

/-- A status written on the way, and what follows it. -/
inductive Advances : Phase → TradeId → TradeStatus → Option Phase → Prop where
  | reserved {call : Routed} {id : TradeId} :
      Advances (.advance_reserved call id) id .Reserved (some (.simulate call id))
  | simulated {call : Routed} {id : TradeId} :
      Advances (.advance_simulated call id) id .Simulated (some (.advance_submitted call id))
  | submitted {call : Routed} {id : TradeId} :
      Advances (.advance_submitted call id) id .Submitted none

/-- **Inversion.** Everything a port call of a request can do. -/
inductive Does (node : Node) : Phase → Node → Option Phase → Prop where
  | quiet {phase phase' : Phase} (h : Quiet request node phase phase') :
      Does node phase node (some phase')
  /-- A port failed, or the trade is echoed. -/
  | ends {phase : Phase}
      (hdecline : ∀ id now, phase = .decline id now →
        ∃ e, (node.trades.settle id (declined_settlement now)).1 = .error e)
      (hadvance : ∀ call id, phase = .advance_reserved call id →
        ∃ e, (node.trades.advance id .Reserved call.now).1 = .error e) :
      Does node phase node none
  | records_declined {now : U64} {row : TradeRow} {trades : SqliteTradeStore}
      (hnone : node.trades.find_by_order request.intent.id = none)
      (hfresh : node.trades.trade[request.trade_id]? = none)
      (htrade : trades.trade = node.trades.trade.insert request.trade_id row)
      (horder : row.order_hash = request.intent.id) (hstatus : row.status = .Declined)
      (hopen : row.settled_at = none) :
      Does node (.record_declined now) { node with trades }
        (some (.decline request.trade_id now))
  | records {call : Routed} {amounts : SwapAmounts} {row : TradeRow} {trades : SqliteTradeStore}
      (hnone : node.trades.find_by_order request.intent.id = none)
      (hfresh : node.trades.trade[request.trade_id]? = none)
      (htrade : trades.trade = node.trades.trade.insert request.trade_id row)
      (horder : row.order_hash = request.intent.id) (hstatus : row.status = .Quoted)
      (hopen : row.settled_at = none) :
      Does node (.record call amounts) { node with trades }
        (some (.reserve call request.trade_id))
  | declines {now : U64} {id : TradeId} {trades : SqliteTradeStore} {block : Option I64}
      {stamp : I64}
      (htrade : node.trades.Rewrites trades id
        (SqliteTradeStore.settled_row · (declined_settlement now) block stamp)) :
      Does node (.decline id now) { node with trades } none
  | reserve_fails {call : Routed} {id : TradeId} {ledger : LedgerService} {next : Option Phase}
      (hsame : node.ledger.Same ledger) (hnext : next = none ∨ next = some (.decline id call.now)) :
      Does node (.reserve call id) { node with ledger } next
  | reserves {call : Routed} {id : TradeId} {ledger : LedgerService}
      (hnew : node.ledger.memory (reservation_id keccak256 request.intent.id call.plan) = none)
      (hrow : node.ledger.durable (reservation_id keccak256 request.intent.id call.plan) = none ∨
        node.ledger.durable (reservation_id keccak256 request.intent.id call.plan) =
          some (.Swap request.intent.id, .Pending))
      (hmemory : ledger.memory (reservation_id keccak256 request.intent.id call.plan) =
        some (.Swap request.intent.id, .Pending))
      (hdurable : ledger.durable (reservation_id keccak256 request.intent.id call.plan) =
        some (.Swap request.intent.id, .Pending))
      (hothers : ∀ k, k ≠ reservation_id keccak256 request.intent.id call.plan →
        ledger.memory k = node.ledger.memory k ∧ ledger.durable k = node.ledger.durable k) :
      Does node (.reserve call id) { node with ledger } (some (.advance_reserved call id))
  | advances {phase : Phase} {id : TradeId} {status : TradeStatus} {next : Option Phase}
      {trades : SqliteTradeStore} (h : Advances phase id status next)
      (htrade : node.trades.Rewrites trades id (SqliteTradeStore.advanced · status)) :
      Does node phase { node with trades } next
  | voids {call : Routed} {id : TradeId} {ledger : LedgerService}
      (hmoves : LedgerService.Moves (· = reservation_id keccak256 request.intent.id call.plan)
        node.ledger ledger) :
      Does node (.void call id) { node with ledger } (some (.decline id call.now))
  | void_fails {call : Routed} {id : TradeId} {ledger : LedgerService}
      (hmoves : LedgerService.Moves (· = reservation_id keccak256 request.intent.id call.plan)
        node.ledger ledger)
      (hclosed : ∀ owner state,
        node.ledger.memory (reservation_id keccak256 request.intent.id call.plan) =
          some (owner, state) → state.is_open = false) :
      Does node (.void call id) { node with ledger } none
  | sends {call : Routed} {id : TradeId} :
      Does node (.send call id)
        { node with executor := node.executor.send_with request.intent.id }
        (some (.track call id node.executor.wallet.sent.length))
  | tracks {call : Routed} {id : TradeId} {handle : HandleId} :
      Does node (.track call id handle)
        { node with
          executor := node.executor.track request.intent.id
            (reservation_id keccak256 request.intent.id call.plan) handle }
        (some (.advance_simulated call id))

/-! ## Every step is one of them -/

variable (config : SwapConfig)

theorem advance_does {node node' : Node} {id : TradeId} {status : TradeStatus} {now : U64}
    {progress progress' : Progress}
    (h : advance node id status now progress = (node', progress')) :
    (∃ e, (node.trades.advance id status now).1 = .error e ∧ node' = node ∧
      progress'.phase = none) ∨
    (progress' = progress ∧ ∃ trades, node' = { node with trades } ∧
      node.trades.Rewrites trades id (SqliteTradeStore.advanced · status)) := by
  unfold advance store_call at h
  rcases SqliteTradeStore.advance_cases node.trades id status now with
    ⟨e, herror⟩ | ⟨trades, hok, htrade⟩
  · rw [herror] at h
    obtain ⟨rfl, rfl⟩ := Prod.mk.inj h
    exact .inl ⟨e, by rw [herror], rfl, rfl⟩
  · rw [hok] at h
    obtain ⟨rfl, rfl⟩ := Prod.mk.inj h
    exact .inr ⟨rfl, trades, rfl, htrade⟩

theorem create_does {node node' : Node} {trade : Trade} {legs : List TradeLeg}
    {attempts : List TradeAttempt} {continue_with : SqliteTradeStore.CreateResult → Progress}
    {progress : Progress} (hsettled : trade.settled_at = none)
    (h : store_call node (node.trades.create trade legs attempts) continue_with =
      (node', progress)) :
    (node' = node ∧ progress.phase = none) ∨
    (∃ id row, node.trades.find_by_order trade.order_hash = some (id, row) ∧ node' = node ∧
      progress = continue_with { id, created := false }) ∨
    (∃ row trades, node.trades.find_by_order trade.order_hash = none ∧
      node.trades.trade[trade.id]? = none ∧
      trades.trade = node.trades.trade.insert trade.id row ∧
      row.order_hash = trade.order_hash ∧ row.status = trade.status ∧ row.settled_at = none ∧
      node' = { node with trades } ∧
      progress = continue_with { id := trade.id, created := true }) := by
  unfold store_call at h
  rcases SqliteTradeStore.create_cases node.trades trade legs attempts with
    ⟨e, herror⟩ | ⟨id, row, hfind, hfound⟩ | ⟨row, trades, hfind, hfresh, hrow, htrade, hnew⟩
  · rw [herror] at h
    obtain ⟨rfl, rfl⟩ := Prod.mk.inj h
    exact .inl ⟨rfl, rfl⟩
  · rw [hfound] at h
    obtain ⟨rfl, rfl⟩ := Prod.mk.inj h
    exact .inr (.inl ⟨id, row, hfind, rfl, rfl⟩)
  · rw [hnew] at h
    obtain ⟨rfl, rfl⟩ := Prod.mk.inj h
    obtain ⟨horder, hstatus, hopen⟩ := SqliteTradeStore.row_of_order hrow
    exact .inr (.inr ⟨row, trades, hfind, hfresh, htrade, horder, hstatus, hopen hsettled, rfl,
      rfl⟩)

theorem reserve_does {reads : SwapReads} {node node' : Node} {call : Routed} {id : TradeId}
    {progress : Progress}
    (h : reserve config keccak256 request reads node call id = (node', progress)) :
    Does keccak256 request node (.reserve call id) node' progress.phase := by
  unfold reserve at h
  split at h
  · obtain ⟨rfl, rfl⟩ := Prod.mk.inj h
    exact .quiet .guarded
  · rcases LedgerService.reserve_evolves node.ledger
        { now_unix := reads.now_unix, budget := reads.budget }
        (reservation_id keccak256 request.intent.id call.plan) request.intent.id
        (sources_of call.plan) config.reservation_ttl_secs with
      ⟨e, ledger, herror, hsame⟩ | ⟨ledger, hok, hnew, hrow, hmemory, hdurable, hothers⟩
    · rw [herror] at h
      split at h
      · rename_i heq
        cases heq
      · rename_i heq
        obtain ⟨-, rfl⟩ := Prod.mk.inj heq
        obtain ⟨rfl, rfl⟩ := Prod.mk.inj h
        exact .reserve_fails hsame (.inr rfl)
      · rename_i heq
        obtain ⟨-, rfl⟩ := Prod.mk.inj heq
        obtain ⟨rfl, rfl⟩ := Prod.mk.inj h
        exact .reserve_fails hsame (.inl rfl)
    · rw [hok] at h
      obtain ⟨rfl, rfl⟩ := Prod.mk.inj h
      exact .reserves hnew hrow hmemory hdurable hothers

theorem void_does {node node' : Node} {call : Routed} {id : TradeId} {progress : Progress}
    (h : void keccak256 request node call id = (node', progress)) :
    Does keccak256 request node (.void call id) node' progress.phase := by
  unfold void at h
  have hmoves := LedgerService.moves_void node.ledger
    (reservation_id keccak256 request.intent.id call.plan)
  cases hcall : node.ledger.void (reservation_id keccak256 request.intent.id call.plan) with
  | mk result ledger =>
    rw [hcall] at h hmoves
    cases result with
    | ok u =>
      obtain ⟨rfl, rfl⟩ := Prod.mk.inj h
      exact .voids hmoves
    | error e =>
      obtain ⟨rfl, rfl⟩ := Prod.mk.inj h
      refine .void_fails hmoves ?_
      intro owner state hmem
      -- An open reservation would have been voided.
      rcases Ledger.void_cases node.ledger.ledger
          (reservation_id keccak256 request.intent.id call.plan) with
        ⟨r, hr, _, heq⟩ | ⟨_, hclosed⟩
      · unfold LedgerService.void LedgerService.durable_first at hcall
        rw [heq] at hcall
        cases hcall
      · unfold LedgerService.memory at hmem
        obtain ⟨r, hr, hpair⟩ := Option.map_eq_some_iff.mp hmem
        have hstate : r.state = state := congrArg Prod.snd hpair
        rw [← hstate]
        exact hclosed r hr

/-- **Inversion lemma.** -/
theorem step_does {reads : SwapReads} {node node' : Node} {phase : Phase} {progress : Progress}
    (h : step config keccak256 request reads node phase = (node', progress)) :
    Does keccak256 request node phase node' progress.phase := by
  cases phase with
  | start =>
    simp only [step] at h
    split at h <;> obtain ⟨rfl, rfl⟩ := Prod.mk.inj h
    · exact .quiet (.unrouted _)
    · exact .quiet (.routes _ _)
  | record_declined now =>
    rcases create_does rfl h with ⟨rfl, hend⟩ | ⟨id, row, hfind, rfl, rfl⟩ |
      ⟨row, trades, hfind, hfresh, htrade, horder, hstatus, hopen, rfl, rfl⟩
    · rw [hend]
      exact .ends (by simp) (by simp)
    · exact .quiet (.found_declined hfind)
    · exact .records_declined hfind hfresh htrade horder hstatus hopen
  | decline id now =>
    simp only [step, store_call] at h
    rcases SqliteTradeStore.settle_cases node.trades id (declined_settlement now) with
      ⟨e, herror⟩ | ⟨trades, block, stamp, hok, htrade⟩
    · rw [herror] at h
      obtain ⟨rfl, rfl⟩ := Prod.mk.inj h
      refine .ends ?_ (by simp)
      intro id' now' heq
      cases heq
      exact ⟨e, by rw [herror]⟩
    · rw [hok] at h
      obtain ⟨rfl, rfl⟩ := Prod.mk.inj h
      exact .declines htrade
  | record call amounts =>
    rcases create_does rfl h with ⟨rfl, hend⟩ | ⟨id, row, hfind, rfl, rfl⟩ |
      ⟨row, trades, hfind, hfresh, htrade, horder, hstatus, hopen, rfl, rfl⟩
    · rw [hend]
      exact .ends (by simp) (by simp)
    · exact .quiet (.found hfind)
    · exact .records hfind hfresh htrade horder hstatus hopen
  | read_status call id =>
    simp only [step, read_status, Prod.mk.injEq] at h
    obtain ⟨rfl, rfl⟩ := h
    split
    · exact .quiet .redrives
    · exact .ends (by simp) (by simp)
  | reserve call id => exact reserve_does keccak256 request config h
  | advance_reserved call id =>
    rcases advance_does h with ⟨e, herror, rfl, hend⟩ | ⟨rfl, trades, rfl, htrade⟩
    · rw [hend]
      refine .ends (by simp) ?_
      intro call' id' heq
      cases heq
      exact ⟨e, herror⟩
    · exact .advances .reserved htrade
  | simulate call id =>
    simp only [step] at h
    split at h <;> obtain ⟨rfl, rfl⟩ := Prod.mk.inj h
    · exact .quiet .simulates
    · exact .quiet .rejects
  | void call id => exact void_does keccak256 request h
  | lookup call id =>
    simp only [step] at h
    split at h <;> obtain ⟨rfl, rfl⟩ := Prod.mk.inj h
    · rename_i handle hhandle
      exact .quiet (.already_tracked (by simp [WalletkitExecutor.Tracks, hhandle]))
    · rename_i hhandle
      exact .quiet (.untracked (by simp [WalletkitExecutor.Tracks, hhandle]))
  | send call id =>
    obtain ⟨rfl, rfl⟩ := Prod.mk.inj h
    exact .sends
  | track call id handle =>
    obtain ⟨rfl, rfl⟩ := Prod.mk.inj h
    exact .tracks
  | advance_simulated call id =>
    rcases advance_does h with ⟨e, herror, rfl, hend⟩ | ⟨rfl, trades, rfl, htrade⟩
    · rw [hend]
      exact .ends (by simp) (by simp)
    · exact .advances .simulated htrade
  | advance_submitted call id =>
    rcases advance_does h with ⟨e, herror, rfl, hend⟩ | ⟨rfl, trades, rfl, htrade⟩
    · rw [hend]
      exact .ends (by simp) (by simp)
    · exact .advances .submitted htrade

end Steps

end SwapService

end Solvent
