import Mathlib
import Solvent.Ledger.Service
import Solvent.Registry.Snapshot

/-! # The budget source

    Where the ledger's budgets come from. A wallet's budget is what the chain
    lets Aqua pull, a strategy's is its balance in the registry snapshot; the
    service feeds both for every account of the active book.
-/

namespace Solvent

open BTreeMap

/-! ## The book -/

/-- The loop variables of `active_accounts`. -/
structure Walk where
  walleted : BTreeSet AccountKey
  accounts : List AccountKey

/-- One token of one strategy: its wallet, unless already listed, and its
    virtual balance. -/
def Walk.visit (key : StrategyKey) (w : Walk) (token : Address) : Walk :=
  let wallet := AccountKey.WalletBudget key.maker token
  let strategy_virtual := AccountKey.StrategyVirtual key.maker key.strategy_hash token
  if w.walleted.contains wallet then { w with accounts := w.accounts ++ [strategy_virtual] }
  else
    { walleted := w.walleted.insert wallet
      accounts := w.accounts ++ [wallet, strategy_virtual] }

/-- One strategy of the walk; one without a pair is skipped. -/
def Walk.visit_pair (w : Walk) (strategy : MakerStrategy) : Walk :=
  match strategy.pair with
  | none => w
  | some pair => [pair.lo, pair.hi].foldl (Walk.visit strategy.key) w

/-- The accounts to sync: each active strategy's wallet and virtual on both of
    its pair's tokens. -/
def active_accounts (snapshot : Snapshot) : List AccountKey :=
  (snapshot.active_strategies.foldl Walk.visit_pair { walleted := ∅, accounts := [] }).accounts

/-! ## Reading the chain -/

/-- What the source reads: token balances, allowances to Aqua, and the live
    registry snapshot. -/
structure Chain where
  balance : MakerId → Address → U256
  allowance : MakerId → Address → U256
  registry : Snapshot

namespace AlloyBudgetSource

variable (app : Address) (chain : Chain)

/-- The active strategy's registry balance; a docked one reads zero. -/
def virtual_budget (maker : MakerId) (strategy_hash : StrategyHash) (token : Address) : U256 :=
  (((chain.registry.strategies[({ maker, app, strategy_hash } : StrategyKey)]?).filter
    (·.active)).map (·.balance token)).getD 0

/-- What Aqua can pull from the wallet. -/
def wallet_pullable (maker : MakerId) (token : Address) : U256 :=
  min (chain.balance maker token) (chain.allowance maker token)

def budget : AccountKey → U256
  | .WalletBudget maker token => wallet_pullable chain maker token
  | .StrategyVirtual maker strategy_hash token => virtual_budget app chain maker strategy_hash token

/-- The wallets among the accounts, each with its pullable amount. -/
def wallet_pullables (accounts : List AccountKey) : BTreeMap AccountKey U256 :=
  accounts.foldl
    (fun budgets account =>
      match account with
      | .WalletBudget maker token => budgets.insert account (wallet_pullable chain maker token)
      | .StrategyVirtual _ _ _ => budgets)
    ∅

/-- One batched read: the wallets first, then the strategies. -/
def budgets (accounts : List AccountKey) : BTreeMap AccountKey U256 :=
  accounts.foldl
    (fun budgets account =>
      match account with
      | .WalletBudget _ _ => budgets
      | .StrategyVirtual maker strategy_hash token =>
        budgets.insert account (virtual_budget app chain maker strategy_hash token))
    (wallet_pullables chain accounts)

/-- Reading `f` at the accounts `p` picks. -/
theorem get_foldl_pick {p : AccountKey → Bool} {f : AccountKey → U256}
    {step : BTreeMap AccountKey U256 → AccountKey → BTreeMap AccountKey U256}
    (hstep : ∀ m a, step m a = if p a then m.insert a (f a) else m) (accounts : List AccountKey)
    (m : BTreeMap AccountKey U256) (a : AccountKey) :
    (accounts.foldl step m)[a]? = if a ∈ accounts ∧ p a then some (f a) else m[a]? := by
  induction accounts generalizing m with
  | nil => simp
  | cons b bs ih =>
    rw [List.foldl_cons, ih, hstep]
    by_cases hb : b = a
    · subst hb
      by_cases hp : p b <;> simp [hp]
    · have ha : ¬ a = b := fun e => hb e.symm
      by_cases hp : p b <;> simp [hp, ha, get_insert, hb]

def is_wallet : AccountKey → Bool
  | .WalletBudget _ _ => true
  | .StrategyVirtual _ _ _ => false

theorem get_wallet_pullables (accounts : List AccountKey) (a : AccountKey) :
    (wallet_pullables chain accounts)[a]? =
      if a ∈ accounts ∧ is_wallet a then some (budget app chain a) else none := by
  have hstep : ∀ (m : BTreeMap AccountKey U256) (a : AccountKey),
      (match a with
        | .WalletBudget maker token => m.insert a (wallet_pullable chain maker token)
        | .StrategyVirtual _ _ _ => m) =
      if is_wallet a then m.insert a (budget app chain a) else m := by
    intro m a
    rcases a with ⟨maker, token⟩ | ⟨maker, hash, token⟩ <;> rfl
  rw [wallet_pullables, get_foldl_pick hstep]
  simp

/-- **The batched read** answers every account asked for with its own budget,
    and no other. -/
theorem get_budgets (accounts : List AccountKey) (a : AccountKey) :
    (budgets app chain accounts)[a]? =
      if a ∈ accounts then some (budget app chain a) else none := by
  have hstep : ∀ (m : BTreeMap AccountKey U256) (a : AccountKey),
      (match a with
        | .WalletBudget _ _ => m
        | .StrategyVirtual maker hash token =>
          m.insert a (virtual_budget app chain maker hash token)) =
      if !is_wallet a then m.insert a (budget app chain a) else m := by
    intro m a
    rcases a with ⟨maker, token⟩ | ⟨maker, hash, token⟩ <;> rfl
  rw [budgets, get_foldl_pick (p := fun a => !is_wallet a) hstep, get_wallet_pullables app]
  by_cases hmem : a ∈ accounts
  · cases is_wallet a <;> simp [hmem]
  · simp [hmem]

end AlloyBudgetSource

end Solvent
