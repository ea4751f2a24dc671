import Mathlib

/-! # A value replaced by compare and swap

    The value sits behind a pointer: a store replaces the pointer, and a swap
    goes through only while the pointer is the one that was loaded. `version`
    stands for the pointer, since one that is still held is not reused.

    Updating by load, compute and swap is as good as updating in one step:
    whatever other writers did in between, a swap that goes through writes the
    update of the value it finds.
-/

structure ArcSwap (α : Type) where
  value : α
  version : ℕ

namespace ArcSwap

variable {α : Type} {c c' seen : ArcSwap α} {next : α}

def new (value : α) : ArcSwap α := { value, version := 0 }

/-- Store `next` unless the pointer moved since `seen` was loaded. -/
def compare_and_swap (c seen : ArcSwap α) (next : α) : Option (ArcSwap α) :=
  if c.version = seen.version then some { value := next, version := c.version + 1 } else none

/-- `seen` was loaded from the cell at some time. -/
structure Loaded (c seen : ArcSwap α) : Prop where
  version : seen.version ≤ c.version
  value : seen.version = c.version → seen.value = c.value

theorem loaded_self (c : ArcSwap α) : c.Loaded c := ⟨le_rfl, fun _ => rfl⟩

/-- A load outlives other writers' swaps. -/
theorem Loaded.swap {other : ArcSwap α} (h : c.Loaded seen)
    (hswap : c.compare_and_swap other next = some c') : c'.Loaded seen := by
  unfold compare_and_swap at hswap
  split at hswap
  · obtain rfl := Option.some.inj hswap
    have := h.version
    refine ⟨Nat.le_succ_of_le h.version, ?_⟩
    intro heq
    simp only at heq
    omega
  · cases hswap

/-- **A swap updates the value it finds.** -/
theorem value_of_swap (h : c.Loaded seen) {f : α → α}
    (hswap : c.compare_and_swap seen (f seen.value) = some c') : c'.value = f c.value := by
  unfold compare_and_swap at hswap
  split at hswap
  · rename_i hversion
    obtain rfl := Option.some.inj hswap
    show f seen.value = f c.value
    rw [h.value hversion.symm]
  · cases hswap

end ArcSwap
