import Mathlib
import Solvent.Ledger.Budget
import Solvent.Ledger.Covered

/-! # Settled capital

    The service beside the chain it reads its budgets from. A fill that lands
    lowers the chain balance of its accounts and is posted later; makers move
    their own capital at any time. The ledger's `consumed` and the re-read
    budget both account for a posted fill, so after a refresh the fill is taken
    off twice wherever there is still capital to take it from.
-/

namespace Solvent

open BTreeMap

/-! ## The system -/

structure World where
  service : LedgerService
  chain : Chain
  /-- The fills that landed and are not posted yet. -/
  landed : BTreeMap ReservationId (List U256)

namespace World

variable (app : Address)

/-- A fresh service beside a chain. -/
def start (chain : Chain) : World :=
  { service := .new ∅, chain, landed := ∅ }

/-- The chain balance of an account, as the budget source reports it. -/
def chain_balance (w : World) (a : AccountKey) : U256 :=
  AlloyBudgetSource.budget app w.chain a

/-- The accounts of the book. -/
def book (w : World) : List AccountKey :=
  active_accounts w.chain.registry

def call (w : World) (c : ServiceCommand) : World :=
  { w with service := w.service.next c }

/-- The refresh of the whole book's budgets. -/
def sync (w : World) : World :=
  w.call (.sync_budgets (.ok (AlloyBudgetSource.budgets app w.chain w.book)))

/-- The calls made beside the settlement of landed fills: every budget comes
    from the source. -/
def FromChain (w : World) : ServiceCommand → Prop
  | .reserve reads _ _ _ _ | .reserve_rebate reads _ _ _ _ =>
    ∀ a, reads.budget a = .ok (w.chain_balance app a)
  | .sync_budgets answer => answer = .ok (AlloyBudgetSource.budgets app w.chain w.book)
  | .reserve_owned _ _ _ _ _ | .post _ _ => False
  | _ => True

/-- Post a landed fill; it is off the list once the service took it. -/
def post_landed (w : World) (id : ReservationId) (filled : List U256) : World :=
  { w.call (.post id filled) with
    landed := match (w.service.exec (.post id filled)).1 with
      | .ok _ => w.landed.erase id
      | .error _ => w.landed }

/-- One step of the system. -/
inductive Step : World → World → Prop where
  | call (w : World) (c : ServiceCommand) (hc : w.FromChain app c) : Step w (w.call c)
  /-- A fill lands: every account it draws on loses exactly what it pulled. -/
  | land (w : World) (id : ReservationId) (r : Reservation) (filled : List U256) (chain : Chain)
      (hr : w.service.ledger.reservations[id]? = some r) (hopen : r.state.is_open = true)
      (hfresh : w.landed[id]? = none)
      (hpulled : ∀ a, (AlloyBudgetSource.budget app chain a).val +
        fill_demand r.sources filled a = (w.chain_balance app a).val) :
      Step w { w with chain, landed := w.landed.insert id filled }
  | post (w : World) (id : ReservationId) (filled : List U256)
      (hlanded : w.landed[id]? = some filled) : Step w (w.post_landed id filled)
  /-- A reorg drops a fill before it is posted. -/
  | reorg (w : World) (id : ReservationId) (chain : Chain) :
      Step w { w with chain, landed := w.landed.erase id }
  /-- Makers deposit, withdraw, approve, ship and dock; a reorg moves balances. -/
  | move (w : World) (chain : Chain) : Step w { w with chain }

/-- The states of every run from a fresh service. -/
def Reachable (w : World) : Prop :=
  ∃ chain, Relation.ReflTransGen (Step app) (start chain) w

/-! ## The ledger along a run -/

variable {app}

/-- **Step lemma.** Whatever happens, the service only places what it admits. -/
theorem admissions_of_step {w w' : World} (h : Step app w w') :
    Ledger.Admissions w.service.ledger w'.service.ledger := by
  cases h with
  | call c hc => exact LedgerService.admissions_exec w.service c
  | post id filled hlanded => exact LedgerService.admissions_exec w.service (.post id filled)
  | land id r filled chain hr hopen hfresh hpulled => exact .refl
  | reorg id chain => exact .refl
  | move chain => exact .refl

/-- **Run lemma.** -/
theorem covered_of_reachable {w : World} (h : Reachable app w) : w.service.ledger.Covered := by
  obtain ⟨chain, hrun⟩ := h
  have hall : Ledger.Admissions .empty w.service.ledger := by
    induction hrun with
    | refl => exact .refl
    | tail _ hstep ih => exact ih.trans (admissions_of_step hstep)
  exact Ledger.covered_of_admissions hall

/-! ## Right after a refresh -/

/-- A refresh leaves an account of the book its chain balance less both
    compartments. -/
theorem available_sync (app : Address) (w : World) {a : AccountKey} (ha : a ∈ w.book) :
    ((w.sync app).service.available a).val = (w.chain_balance app a).val -
      min ((w.service.ledger.pending a).val + (w.service.ledger.consumed a).val) (2 ^ 256 - 1) := by
  show (get_or (Ledger.available_snapshot _) a 0).val = _
  rw [get_or_available_snapshot]
  show ((get_or (AlloyBudgetSource.budgets app w.chain w.book) a 0).val -
    min ((w.service.ledger.pending a).val + (w.service.ledger.consumed a).val) (2 ^ 256 - 1)) = _
  unfold get_or
  rw [AlloyBudgetSource.get_budgets, if_pos ha]
  rfl

/-- An account whose whole chain balance, less its pending holds, is available. -/
def CountsOnce (app : Address) (w : World) (a : AccountKey) : Prop :=
  ((w.sync app).service.available a).val =
    (w.chain_balance app a).val - ((w.sync app).service.ledger.pending a).val

/-- An account no posted fill was taken from, or one whose holds already claim
    the whole chain balance. -/
def Unsettled (app : Address) (w : World) (a : AccountKey) : Prop :=
  w.service.ledger.posted_fills a = 0 ∨ w.chain_balance app a ≤ w.service.ledger.pending a

theorem countsOnce_iff {w : World} (hw : Reachable app w) {a : AccountKey} (ha : a ∈ w.book) :
    CountsOnce app w a ↔ Unsettled app w a := by
  have hheld := Ledger.held_of_covered (covered_of_reachable hw) a
  have havailable := available_sync app w ha
  have hpend : (w.sync app).service.ledger.pending a = w.service.ledger.pending a := rfl
  have hlt := (w.chain_balance app a).isLt
  unfold CountsOnce Unsettled
  rw [havailable, hpend, Fin.le_def]
  omega

/-- **Settled capital.** In every run: right after a refresh, whether or not
    landed fills are still to be posted, every account of the book has its chain
    balance less its pending holds available if and only if no account has both
    a posted fill and chain balance beyond its holds. -/
theorem settled_capital_counted_once_iff (app : Address) (w : World) (hw : Reachable app w) :
    (∀ a ∈ w.book, CountsOnce app w a) ↔ ∀ a ∈ w.book, Unsettled app w a := by
  constructor
  · intro h a ha
    exact (countsOnce_iff hw ha).1 (h a ha)
  · intro h a ha
    exact (countsOnce_iff hw ha).2 (h a ha)

/-! ## Two runs -/

/-- One maker with `n` of token 2 in its wallet and in its one strategy. -/
def sample_chain (n : U256) : Chain :=
  { balance := fun maker token => if maker = ⟨1⟩ ∧ token = 2 then n else 0
    allowance := fun _ _ => U256.MAX
    registry := Snapshot.from_strategies
      [{ key := { maker := ⟨1⟩, app := 0, strategy_hash := ⟨1⟩ }
         curve := .Priceable .Xyc []
         balances := ((∅ : BTreeMap Address U256).insert 1 1000).insert 2 n
         active := true }] }

def sample_sources : List ReservationSource :=
  [{ maker := ⟨1⟩, strategy_hash := ⟨1⟩, token := 2, amount := 10 }]

/-- The maker's 10 are reserved. -/
def sample_hold : World :=
  (start (sample_chain 10)).call (.reserve
    { now_unix := 0, budget := fun a => .ok (AlloyBudgetSource.budget 0 (sample_chain 10) a) }
    ⟨1⟩ ⟨1⟩ sample_sources 60)

theorem sample_hold_reachable : Reachable 0 sample_hold :=
  ⟨sample_chain 10, .single (.call _ _ fun _ => rfl)⟩

/-- With the whole balance held and nothing settled, nothing is left. -/
theorem settled_capital_counted_once_iff_one_hold :
    sample_hold.book ≠ [] ∧ ∀ a ∈ sample_hold.book, CountsOnce 0 sample_hold a := by
  refine ⟨by decide +kernel,
    (settled_capital_counted_once_iff 0 sample_hold sample_hold_reachable).2 ?_⟩
  intro a ha
  have hnone : (sample_hold.book.all fun a =>
      sample_hold.service.ledger.posted_fills a = 0) = true := by decide +kernel
  exact .inl (by simpa using List.all_eq_true.1 hnone a ha)

/-- Of the 10 held, 4 leave the wallet. -/
def sample_landed : World :=
  { sample_hold with chain := sample_chain 6, landed := sample_hold.landed.insert ⟨1⟩ [4] }

/-- The one strategy's balance, as the source reads it. -/
theorem sample_chain_virtual (n : U256) (m : MakerId) (hash : StrategyHash) (t : Address) :
    AlloyBudgetSource.budget 0 (sample_chain n) (.StrategyVirtual m hash t) =
      if m = ⟨1⟩ ∧ hash = ⟨1⟩ then (if t = 2 then n else if t = 1 then 1000 else 0) else 0 := by
  have hkey : (({ maker := ⟨1⟩, app := 0, strategy_hash := ⟨1⟩ } : StrategyKey) =
      { maker := m, app := 0, strategy_hash := hash }) ↔ m = ⟨1⟩ ∧ hash = ⟨1⟩ := by
    constructor
    · intro h
      injection h with hm _ hh
      exact ⟨hm.symm, hh.symm⟩
    · rintro ⟨rfl, rfl⟩
      rfl
  show Option.getD (Option.map _ (Option.filter _
    (((∅ : BTreeMap StrategyKey MakerStrategy).insert _ _)[_]?))) 0 = _
  rw [get_insert]
  by_cases hmine : m = ⟨1⟩ ∧ hash = ⟨1⟩
  · rw [if_pos (hkey.2 hmine), if_pos hmine]
    show get_or (((∅ : BTreeMap Address U256).insert 1 1000).insert 2 n) t 0 = _
    rw [get_or_insert, get_or_insert, get_or_empty]
    simp only [eq_comm]
  · rw [if_neg fun h => hmine (hkey.1 h), if_neg hmine]
    simp

/-- The fill takes its 4 from both of its accounts and from no other. -/
theorem sample_chain_pulled (a : AccountKey) :
    (AlloyBudgetSource.budget 0 (sample_chain 6) a).val + fill_demand sample_sources [4] a =
      (AlloyBudgetSource.budget 0 (sample_chain 10) a).val := by
  rcases a with ⟨m, t⟩ | ⟨m, hash, t⟩
  · have hread : ∀ n : U256, AlloyBudgetSource.budget 0 (sample_chain n) (.WalletBudget m t) =
        min (if m = ⟨1⟩ ∧ t = 2 then n else 0) U256.MAX := fun n => rfl
    rw [hread, hread]
    by_cases hmine : m = ⟨1⟩ ∧ t = 2
    · simp only [hmine]
      decide +kernel
    · have hnot : AccountKey.WalletBudget m t ∉
          ReservationSource.accounts { maker := ⟨1⟩, strategy_hash := ⟨1⟩, token := 2, amount := 10 } := by
        simpa [ReservationSource.accounts] using hmine
      simp [hmine, sample_sources, hnot]
  · rw [sample_chain_virtual, sample_chain_virtual]
    by_cases hmine : m = ⟨1⟩ ∧ hash = ⟨1⟩ ∧ t = 2
    · obtain ⟨rfl, rfl, rfl⟩ := hmine
      decide +kernel
    · have hnot : AccountKey.StrategyVirtual m hash t ∉
          ReservationSource.accounts { maker := ⟨1⟩, strategy_hash := ⟨1⟩, token := 2, amount := 10 } := by
        simpa [ReservationSource.accounts] using hmine
      have hsame : (if m = ⟨1⟩ ∧ hash = ⟨1⟩ then
            (if t = 2 then (6 : U256) else if t = 1 then 1000 else 0) else 0) =
          if m = ⟨1⟩ ∧ hash = ⟨1⟩ then
            (if t = 2 then (10 : U256) else if t = 1 then 1000 else 0) else 0 := by
        by_cases hstrategy : m = ⟨1⟩ ∧ hash = ⟨1⟩
        · have ht : t ≠ 2 := fun ht => hmine ⟨hstrategy.1, hstrategy.2, ht⟩
          simp [ht]
        · simp [hstrategy]
      rw [hsame]
      simp [sample_sources, hnot]

theorem sample_settled_reachable : Reachable 0 (sample_landed.post_landed ⟨1⟩ [4]) := by
  obtain ⟨chain, hhold⟩ := sample_hold_reachable
  have hrecord : sample_hold.service.ledger.reservations[(⟨1⟩ : ReservationId)]? =
      some (.for_swap ⟨1⟩ ⟨1⟩ sample_sources 60) := by decide +kernel
  have hland : Step 0 sample_hold sample_landed :=
    .land _ ⟨1⟩ _ [4] (sample_chain 6) hrecord rfl (by decide +kernel) sample_chain_pulled
  exact ⟨chain, (hhold.tail hland).tail (.post _ ⟨1⟩ [4] (by decide +kernel))⟩

/-- The wallet holds 6 and owes nothing, every landed fill is posted, and the
    refresh leaves 2 available: the 4 are taken off a second time. -/
theorem settled_fill_is_taken_off_twice :
    let w := sample_landed.post_landed ⟨1⟩ [4]
    let wallet : AccountKey := .WalletBudget ⟨1⟩ 2
    Reachable 0 w ∧ w.landed.isEmpty = true ∧ wallet ∈ w.book ∧
      (w.chain_balance 0 wallet).val = 6 ∧ ((w.sync 0).service.ledger.pending wallet).val = 0 ∧
      ((w.sync 0).service.available wallet).val = 2 ∧ ¬ CountsOnce 0 w wallet := by
  refine ⟨sample_settled_reachable, ?_⟩
  unfold CountsOnce
  decide +kernel

end World

end Solvent
