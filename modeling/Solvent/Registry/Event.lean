import Mathlib
import Solvent.Primitives

/-! # Aqua events

    The on-chain events the registry and the settlement reader are fed with.
-/

namespace Solvent

/-- The key a strategy is registered under. -/
structure StrategyKey where
  maker : MakerId
  app : Address
  strategy_hash : StrategyHash

/-- The fields in comparison order. -/
def StrategyKey.fields (k : StrategyKey) : MakerId ×ₗ Address ×ₗ StrategyHash :=
  toLex (k.maker, toLex (k.app, k.strategy_hash))

theorem StrategyKey.fields_injective : Function.Injective StrategyKey.fields := by
  intro a b h
  cases a
  cases b
  simp_all [StrategyKey.fields]

instance : LinearOrder StrategyKey := LinearOrder.lift' _ StrategyKey.fields_injective

instance strategyKey_transCmp :
    Std.TransCmp (compare : StrategyKey → StrategyKey → Ordering) := inferInstance

inductive AquaEvent where
  /-- A maker registered a strategy; `strategy` is the raw shipped bytes. -/
  | Shipped (maker : MakerId) (app : Address) (strategy_hash : StrategyHash)
      (strategy : List (Fin 256))
  /-- `token` balance increased by `amount`. -/
  | Pushed (maker : MakerId) (app : Address) (strategy_hash : StrategyHash) (token : Address)
      (amount : U256)
  /-- `token` balance decreased by `amount`: a swap outflow at settlement. -/
  | Pulled (maker : MakerId) (app : Address) (strategy_hash : StrategyHash) (token : Address)
      (amount : U256)
  /-- The maker closed the strategy. -/
  | Docked (maker : MakerId) (app : Address) (strategy_hash : StrategyHash)
  deriving DecidableEq

/-- The strategy an event addresses. -/
def AquaEvent.key : AquaEvent → StrategyKey
  | Shipped maker app strategy_hash _ => { maker, app, strategy_hash }
  | Pushed maker app strategy_hash _ _ => { maker, app, strategy_hash }
  | Pulled maker app strategy_hash _ _ => { maker, app, strategy_hash }
  | Docked maker app strategy_hash => { maker, app, strategy_hash }

end Solvent
