import Mathlib
import Solvent.Registry.Event
import Solvent.Registry.Curves

/-! # The registry snapshot

    The event-sourced picture of maker liquidity: every tracked strategy under
    its key, and the keys quoting each unordered token pair.
-/

namespace Solvent

/-! ## Strategies -/

/-- An unordered token pair, canonicalized by address. -/
structure TokenPair where
  lo : Address
  hi : Address

/-- The fields in comparison order. -/
def TokenPair.fields (p : TokenPair) : Address ×ₗ Address := toLex (p.lo, p.hi)

theorem TokenPair.fields_injective : Function.Injective TokenPair.fields := by
  intro a b h
  cases a
  cases b
  simp_all [TokenPair.fields]

instance : LinearOrder TokenPair := LinearOrder.lift' _ TokenPair.fields_injective

instance tokenPair_transCmp :
    Std.TransCmp (compare : TokenPair → TokenPair → Ordering) := inferInstance

def TokenPair.new (a b : Address) : TokenPair := { lo := min a b, hi := max a b }

/-- What a strategy decodes to: a curve with its ordered flat fees, or nothing
    that can be priced. -/
inductive CurveSpec where
  | Priceable (curve : Curve) (fees_in_bps : List U32)
  | Unsupported
  deriving DecidableEq

structure MakerStrategy where
  key : StrategyKey
  curve : CurveSpec
  /-- Token to virtual balance. -/
  balances : BTreeMap Address U256
  /-- False once docked. -/
  active : Bool

namespace MakerStrategy

/-- Virtual balance of `token`, zero if the strategy holds none. -/
def balance (s : MakerStrategy) (token : Address) : U256 :=
  BTreeMap.get_or s.balances token 0

/-- The traded pair iff exactly two tokens are held. -/
def pair (s : MakerStrategy) : Option TokenPair :=
  match s.balances.keys with
  | [a, b] => some (TokenPair.new a b)
  | _ => none

end MakerStrategy

/-! ## Snapshot -/

structure Snapshot where
  strategies : BTreeMap StrategyKey MakerStrategy
  by_pair : BTreeMap TokenPair (BTreeSet StrategyKey)

namespace Snapshot

/-- Every active strategy, in key order. -/
def active_strategies (s : Snapshot) : List MakerStrategy :=
  (BTreeMap.values s.strategies).filter (·.active)

/-- Active strategies quoting `pair`: the router's candidate funnel. -/
def active_strategies_for_pair (s : Snapshot) (pair : TokenPair) : List MakerStrategy :=
  match s.by_pair[pair]? with
  | none => []
  | some keys => keys.toList.filterMap fun key => s.strategies[key]?.filter (·.active)

/-- One strategy of `from_strategies`. -/
def index (s : Snapshot) (strategy : MakerStrategy) : Snapshot :=
  { strategies := s.strategies.insert strategy.key strategy
    by_pair := match strategy.pair with
      | some pair => BTreeMap.entry s.by_pair pair ∅ fun keys => keys.insert strategy.key
      | none => s.by_pair }

/-- A snapshot of the given strategies. -/
def from_strategies (strategies : List MakerStrategy) : Snapshot :=
  strategies.foldl index { strategies := ∅, by_pair := ∅ }

end Snapshot

end Solvent
