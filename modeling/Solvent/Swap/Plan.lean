import Mathlib
import Solvent.Ledger.Admission
import Solvent.Routing.Service

/-! # What a plan reserves

    A plan's sources, and whether the ledger the plan was routed on admits
    them. The router froze its caps from that ledger's own availability, so
    admission comes down to the splits keeping within the caps, and to the
    ledger's accounts being as fine as the router's candidates.
-/

namespace Solvent

open BTreeMap

/-- The source a leg holds: its output on the payout token. -/
def source_of (leg : RouteLeg) : ReservationSource :=
  { maker := leg.maker
    strategy_hash := leg.strategy_hash
    token := leg.token_out
    amount := leg.amount_out }

/-- The reservation sources a plan holds. -/
def sources_of (plan : RoutePlan) : List ReservationSource :=
  plan.legs.map source_of

/-! ## Admission -/

/-- Room for the exact demand at every account is enough for admission. -/
theorem Ledger.can_reserve_of_room {l : Ledger} {r : Reservation}
    (hfresh : l.reservations[r.id]? = none)
    (hroom : ∀ a, demand r.sources a ≤ (l.available a).val) : l.can_reserve r = .ok () := by
  have hnone : l.first_shortfall (Ledger.aggregate_demand r.sources).toList = none := by
    unfold Ledger.first_shortfall
    rw [List.findSome?_eq_none_iff]
    rintro ⟨a, d⟩ hmem
    have hget : (Ledger.aggregate_demand r.sources)[a]? = some d :=
      Std.ExtTreeMap.mem_toList_iff_getElem?_eq_some.1 hmem
    have hd : d.val = min (demand r.sources a) (2 ^ 256 - 1) := by
      rw [← get_or_aggregate_demand, get_or, hget]
      rfl
    have hle : ¬ l.available a < d := by
      have := hroom a
      rw [not_lt, Fin.le_def, hd]
      omega
    simp [hle]
  unfold Ledger.can_reserve
  rw [hfresh, hnone]
  rfl

/-- A plan the ledger has room for: each strategy and each wallet covers what
    the legs draw on it, and a reservation of it under a fresh id is admitted. -/
structure Reservable (l : Ledger) (plan : RoutePlan) : Prop where
  room : ∀ a, demand (sources_of plan) a ≤ (l.available a).val
  admitted : ∀ r : Reservation, r.sources = sources_of plan → l.reservations[r.id]? = none →
    l.can_reserve r = .ok ()

theorem reservable_of_room {l : Ledger} {plan : RoutePlan}
    (h : ∀ a, demand (sources_of plan) a ≤ (l.available a).val) : Reservable l plan := by
  refine ⟨h, ?_⟩
  intro r hsources hfresh
  refine Ledger.can_reserve_of_room hfresh ?_
  rw [hsources]
  exact h

/-! ## Demand of legs -/

/-- Legs that pay out of one token draw on a maker's wallet what that maker's
    legs deliver, and on no other token. -/
theorem demand_wallet_le {legs : List RouteLeg} {token : Address}
    (htoken : ∀ leg ∈ legs, leg.token_out = token) (m : MakerId) (t : Address) :
    demand (legs.map source_of) (.WalletBudget m t) ≤
      if t = token then legs_out (legs.filter fun leg => leg.maker = m) else 0 := by
  induction legs with
  | nil => simp
  | cons leg legs ih =>
    have hrest := ih fun leg' h => htoken leg' (List.mem_cons_of_mem leg h)
    have hleg := htoken leg (by simp)
    rw [List.map_cons, demand_cons, List.filter_cons]
    by_cases ht : t = token
    · rw [if_pos ht] at hrest ⊢
      by_cases hm : leg.maker = m
      · simp only [hm, decide_true, if_true, legs_out, List.map_cons, total_cons] at hrest ⊢
        split
        · simp only [source_of]
          omega
        · omega
      · have hnot : AccountKey.WalletBudget m t ∉ (source_of leg).accounts := by
          simp only [source_of, ReservationSource.accounts, List.mem_cons, List.not_mem_nil,
            or_false, AccountKey.WalletBudget.injEq, reduceCtorEq]
          exact fun h => hm h.1.symm
        simp only [hm, decide_false, Bool.false_eq_true, if_false, if_neg hnot]
        omega
    · rw [if_neg ht] at hrest ⊢
      have hnot : AccountKey.WalletBudget m t ∉ (source_of leg).accounts := by
        simp only [source_of, ReservationSource.accounts, List.mem_cons, List.not_mem_nil,
          or_false, AccountKey.WalletBudget.injEq, reduceCtorEq, hleg]
        exact fun h => ht h.2
      rw [if_neg hnot]
      omega

/-- A source that draws on a virtual balance draws on the maker's wallet too. -/
theorem demand_virtual_le_wallet (sources : List ReservationSource) (m : MakerId)
    (hash : StrategyHash) (t : Address) :
    demand sources (.StrategyVirtual m hash t) ≤ demand sources (.WalletBudget m t) := by
  induction sources with
  | nil => simp
  | cons source sources ih =>
    have hboth : AccountKey.StrategyVirtual m hash t ∈ source.accounts →
        AccountKey.WalletBudget m t ∈ source.accounts := by
      simp only [ReservationSource.accounts, List.mem_cons, List.not_mem_nil, or_false,
        reduceCtorEq, false_or, AccountKey.StrategyVirtual.injEq, AccountKey.WalletBudget.injEq]
      exact fun h => ⟨h.1, h.2.2⟩
    rw [demand_cons, demand_cons]
    split_ifs with hv hw
    · omega
    · exact absurd (hboth hv) hw
    · omega
    · omega

/-- Whether a candidate draws on the virtual accounts of this maker and hash. -/
def OnStrategy (m : MakerId) (hash : StrategyHash) (c : Candidate) : Prop :=
  c.key.maker = m ∧ c.key.strategy_hash = hash

/-- A strategy with one candidate among the chosen draws on its virtual balance
    at most what that candidate may deliver. -/
theorem demand_virtual_le {chosen : List Candidate} {legs : List RouteLeg}
    (hlegs : List.Forall₂ (fun c leg => leg = leg_of c leg.amount_in leg.amount_out ∧
      leg.amount_out ≤ c.cap_out) chosen legs)
    {m : MakerId} {hash : StrategyHash} {t : Address} {room : ℕ}
    (hone : chosen.Pairwise fun c c' => ¬ (OnStrategy m hash c ∧ OnStrategy m hash c'))
    (hroom : ∀ c ∈ chosen, OnStrategy m hash c → c.token_out = t → c.cap_out.val ≤ room) :
    demand (legs.map source_of) (.StrategyVirtual m hash t) ≤ room := by
  induction hlegs generalizing room with
  | nil => simp
  | cons hleg hrest ih =>
    rename_i c leg chosen legs
    obtain ⟨hfields, hcap⟩ := hleg
    have hcap' : leg.amount_out.val ≤ c.cap_out.val := hcap
    rw [List.pairwise_cons] at hone
    rw [List.map_cons, demand_cons]
    have haccount : AccountKey.StrategyVirtual m hash t ∈ (source_of leg).accounts ↔
        OnStrategy m hash c ∧ c.token_out = t := by
      rw [hfields]
      simp only [source_of, leg_of, ReservationSource.accounts, List.mem_cons, List.not_mem_nil,
        or_false, reduceCtorEq, AccountKey.StrategyVirtual.injEq, false_or]
      constructor
      · rintro ⟨hm, hh, ht⟩
        exact ⟨⟨hm.symm, hh.symm⟩, ht.symm⟩
      · rintro ⟨⟨hm, hh⟩, ht⟩
        exact ⟨hm.symm, hh.symm, ht.symm⟩
    by_cases hmine : AccountKey.StrategyVirtual m hash t ∈ (source_of leg).accounts
    · -- This leg is the strategy's; no later one is.
      obtain ⟨hon, ht⟩ := haccount.1 hmine
      have hnone : demand (legs.map source_of) (.StrategyVirtual m hash t) ≤ 0 := by
        refine ih hone.2 ?_
        intro c' hc' hon' _
        exact absurd ⟨hon, hon'⟩ (hone.1 c' hc')
      have hle := hroom c (by simp) hon ht
      rw [if_pos hmine]
      simp only [source_of]
      omega
    · rw [if_neg hmine, Nat.zero_add]
      exact ih hone.2 fun c' hc' => hroom c' (List.mem_cons_of_mem c hc')

/-- Every element of the right list is related to one of the left. -/
theorem exists_left_of_forall₂ {α β : Type} {R : α → β → Prop} {as : List α} {bs : List β}
    (h : List.Forall₂ R as bs) {b : β} (hb : b ∈ bs) : ∃ a ∈ as, R a b := by
  induction h with
  | nil => simp at hb
  | @cons a b' as bs hhead _ ih =>
    rcases List.mem_cons.1 hb with rfl | hrest
    · exact ⟨a, by simp, hhead⟩
    · obtain ⟨a', ha', hR⟩ := ih hrest
      exact ⟨a', List.mem_cons_of_mem a ha', hR⟩

/-! ## Routed plans -/

/-- The ledger keys a strategy's virtual balance by maker and hash, the registry
    by its app as well. Two candidates that meet in one such account are safe
    where the wallet they share is the tighter of the two. -/
def Separated (l : Ledger) (token_out : Address) (c c' : Candidate) : Prop :=
  c.key.maker = c'.key.maker → c.key.strategy_hash = c'.key.strategy_hash →
    l.available (.WalletBudget c.key.maker token_out) ≤
      l.available (.StrategyVirtual c.key.maker c.key.strategy_hash token_out)

theorem Separated.symm {l : Ledger} {t : Address} {c c' : Candidate} (h : Separated l t c c') :
    Separated l t c' c := by
  intro hm hh
  rw [hm, hh]
  exact h hm.symm hh.symm

/-- The book a router sees of a ledger and some strategies, none guarded. -/
def book_of (l : Ledger) (strategies : List MakerStrategy) : RoutingBook :=
  { snapshot := Snapshot.from_strategies strategies
    caps := l.available_snapshot
    guards := ∅ }

def sample_config : RoutingConfig := { max_candidates := 64, max_legs := 8 }

/-- A ledger fed one maker's wallet and one strategy of it, in token 2. -/
def funded (wallet strategy_virtual : U256) : Ledger :=
  (Ledger.empty.set_budget (.WalletBudget ⟨1⟩ 2) wallet).set_budget
    (.StrategyVirtual ⟨1⟩ ⟨1⟩ 2) strategy_virtual

def sample_strategy : MakerStrategy :=
  { key := { maker := ⟨1⟩, app := 0, strategy_hash := ⟨1⟩ }
    curve := .Priceable .Xyc [3000000]
    balances := ((∅ : BTreeMap Address U256).insert 1 1000).insert 2 1000
    active := true }

/-- A pegged strategy whose committed reserves sit above its invariant: the
    least input it takes pays out more than the output it was asked for. -/
def overpaying_strategy : MakerStrategy :=
  { sample_strategy with
    curve := .Priceable
      (.Pegged {
        x0 := ⟨10 ^ 27, ten_pow_27_lt⟩
        y0 := ⟨10 ^ 30, ten_pow_30_lt⟩
        linear_width := 0
        rate_lt := 1
        rate_gt := 1 })
      []
    balances := ((∅ : BTreeMap Address U256).insert 1 ⟨10 ^ 27 + 2, ten_pow_27_add_two_lt⟩).insert 2
      ⟨10 ^ 30 + 500, ten_pow_30_add_lt⟩ }

def one_unit_in : RouteRequest :=
  { intent := ⟨0⟩, token_in := 1, token_out := 2, amount := 1, exact_in := true }

/-- The sample strategy shipped under a second app: one more registry key on
    the same virtual account. -/
def twin_strategy : MakerStrategy :=
  { sample_strategy with key := { sample_strategy.key with app := 1 } }

end Solvent
