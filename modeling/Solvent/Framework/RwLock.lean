import Mathlib
import Solvent.Framework.Interleave

/-! # A read-write lock

    The lock is a count of readers and a writer flag. Calls hold it in one of
    two modes; `hold` reads the mode off a call in progress. `Held` ties the
    counts to the calls of a pool and is kept by every change of one slot.

    A holder that ends without a release leaves its permit behind, so the lock
    may count more holders than there are. It never counts fewer, and that is
    what exclusion needs.
-/

namespace RwLock

open Interleave

inductive Mode where
  | read
  | write
  deriving DecidableEq

structure Lock where
  readers : ℕ
  writer : Bool
  deriving DecidableEq

namespace Lock

def free : Lock := { readers := 0, writer := false }

/-- Take a permit, unless the holders exclude it. -/
def acquire (l : Lock) : Mode → Option Lock
  | .read => if l.writer then none else some { l with readers := l.readers + 1 }
  | .write => if l.writer ∨ l.readers ≠ 0 then none else some { l with writer := true }

/-- Give a permit back. -/
def release (l : Lock) : Mode → Lock
  | .read => { l with readers := l.readers - 1 }
  | .write => { l with writer := false }

end Lock

variable {π : Type} (hold : π → Option Mode)

/-- How a call's permit and the lock change together. -/
inductive Changes : Option Mode → Option Mode → Lock → Lock → Prop where
  | keeps (m : Option Mode) (l : Lock) : Changes m m l l
  | takes {m : Mode} {l l' : Lock} (h : l.acquire m = some l') : Changes none (some m) l l'
  | drops (m : Mode) (l : Lock) : Changes (some m) none l (l.release m)
  /-- The call ended and its permit is lost. -/
  | loses (m : Option Mode) (l : Lock) : Changes m none l l

/-- The permit held in a slot of the pool. -/
def held_in (slot : Option π) : Option Mode := slot.bind hold

/-- How many calls hold the lock in mode `m`. -/
def holders (m : Mode) (calls : List (Option π)) : ℕ :=
  calls.countP fun slot => held_in hold slot = some m

/-- The lock counts every holder, and a writer excludes readers. -/
structure Held (l : Lock) (calls : List (Option π)) : Prop where
  readers : holders hold .read calls ≤ l.readers
  writer : holders hold .write calls ≤ l.writer.toNat
  exclusive : l.writer = true → l.readers = 0

variable {hold}
variable {l l' : Lock} {calls : List (Option π)} {i j : ℕ} {slot slot' : Option π} {m : Mode}

/-- Changing one slot moves the count by what the slot held before and after. -/
theorem holders_set (hold : π → Option Mode) (m : Mode) (hslot : calls[i]? = some slot)
    (slot' : Option π) :
    holders hold m (calls.set i slot') + (if held_in hold slot = some m then 1 else 0) =
      holders hold m calls + (if held_in hold slot' = some m then 1 else 0) := by
  unfold holders
  induction calls generalizing i with
  | nil => simp at hslot
  | cons first calls ih =>
    match i with
    | 0 =>
      obtain rfl : first = slot := by simpa using hslot
      simp only [List.set_cons_zero, List.countP_cons, decide_eq_true_eq]
      omega
    | i + 1 =>
      have hrest := ih (i := i) (by simpa using hslot)
      simp only [List.set_cons_succ, List.countP_cons, decide_eq_true_eq]
      omega

theorem held_free : Held hold Lock.free [] where
  readers := Nat.zero_le _
  writer := Nat.zero_le _
  exclusive := fun _ => rfl

/-- A call that starts holds nothing. -/
theorem Held.start (h : Held hold l calls) {p : π} (hp : hold p = none) :
    Held hold l (calls ++ [some p]) := by
  have hsame : ∀ m, holders hold m (calls ++ [some p]) = holders hold m calls := by
    intro m
    simp [holders, held_in, hp]
  exact ⟨by rw [hsame]; exact h.readers, by rw [hsame]; exact h.writer, h.exclusive⟩

/-- **Step lemma.** One call moves, and the lock with it. -/
theorem Held.set (h : Held hold l calls) (hslot : calls[i]? = some slot)
    (hchanges : Changes (held_in hold slot) (held_in hold slot') l l') :
    Held hold l' (calls.set i slot') := by
  have hread := holders_set hold .read hslot slot'
  have hwrite := holders_set hold .write hslot slot'
  have hreaders := h.readers
  have hwriter := h.writer
  generalize held_in hold slot = before at hread hwrite hchanges
  generalize held_in hold slot' = after at hread hwrite hchanges
  match hchanges with
  | .keeps m l => exact ⟨by omega, by omega, h.exclusive⟩
  | .takes (m := .read) htake =>
    simp only [Lock.acquire] at htake
    split at htake
    · cases htake
    · rename_i hfree
      obtain rfl := Option.some.inj htake
      simp only [reduceCtorEq, if_true, if_false, Option.some.injEq] at hread hwrite
      exact ⟨by simp only; omega, by simp only; omega, fun hw => absurd hw hfree⟩
  | .takes (m := .write) htake =>
    simp only [Lock.acquire] at htake
    split at htake
    · cases htake
    · rename_i hfree
      obtain rfl := Option.some.inj htake
      simp only [not_or, Bool.not_eq_true, not_not] at hfree
      simp only [reduceCtorEq, if_true, if_false, Option.some.injEq] at hread hwrite
      rw [hfree.1, Bool.toNat_false] at hwriter
      exact ⟨by simp only; omega, by simp only [Bool.toNat_true]; omega, fun _ => hfree.2⟩
  | .drops .read l =>
    simp only [reduceCtorEq, if_true, if_false, Option.some.injEq] at hread hwrite
    refine ⟨by simp only [Lock.release]; omega, by simp only [Lock.release]; omega, ?_⟩
    intro hw
    have hnone := h.exclusive hw
    simp only [Lock.release]
    omega
  | .drops .write l =>
    simp only [reduceCtorEq, if_true, if_false, Option.some.injEq] at hread hwrite
    have hone : l.writer.toNat ≤ 1 := Bool.toNat_le l.writer
    exact ⟨by simp only [Lock.release]; omega,
      by simp only [Lock.release, Bool.toNat_false]; omega, fun hw => by cases hw⟩
  | .loses m l =>
    simp only [reduceCtorEq, if_false] at hread hwrite
    exact ⟨by omega, by omega, h.exclusive⟩

theorem holders_pos {p : π} (hat : calls[i]? = some (some p)) (hp : hold p = some m) :
    0 < holders hold m calls :=
  List.countP_pos_iff.mpr ⟨some p, List.mem_of_getElem? hat, by simp [held_in, hp]⟩

/-- **Exclusion.** While one call holds the lock for writing, none holds it for
    reading. -/
theorem Held.excludes {σ : Type} {w : World σ π} (h : Held hold l w.calls) {p q : π}
    (hp : w.At i p) (hwrites : hold p = some .write) (hq : w.At j q) : hold q ≠ some .read := by
  intro hreads
  have hwriting := holders_pos hp hwrites
  have hreading := holders_pos hq hreads
  have hset : l.writer = true := by
    by_contra hw
    have := h.writer
    rw [Bool.not_eq_true] at hw
    rw [hw, Bool.toNat_false] at this
    omega
  have := h.exclusive hset
  have := h.readers
  omega

end RwLock
