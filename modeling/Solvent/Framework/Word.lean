import Mathlib

/-! # Unsigned machine words

    Fixed-width unsigned integers with the operations a checked program uses
    on them:

    * `saturating_*` clamps at the ends of the range,
    * `checked_*` returns `none` where the exact result is not a word,
    * no operation wraps.

    A word is a `Fin`, so its bound is part of its type and `omega` sees it.
    Every operation comes with one lemma that says which natural number the
    result is; proofs about words go through these lemmas and never unfold an
    operation.
-/

/-- A 256-bit unsigned word. -/
abbrev U256 : Type := Fin (2 ^ 256)

/-- A 64-bit unsigned word. -/
abbrev U64 : Type := Fin (2 ^ 64)

/-! Literals of one width rest on one instance, wherever they stand. -/

instance neZero_two_pow_8 : NeZero (2 ^ 8 : Nat) := ⟨by norm_num⟩

instance neZero_two_pow_16 : NeZero (2 ^ 16 : Nat) := ⟨by norm_num⟩

instance neZero_two_pow_32 : NeZero (2 ^ 32 : Nat) := ⟨by norm_num⟩

instance neZero_two_pow_48 : NeZero (2 ^ 48 : Nat) := ⟨by norm_num⟩

instance neZero_two_pow_64 : NeZero (2 ^ 64 : Nat) := ⟨by norm_num⟩

instance neZero_two_pow_128 : NeZero (2 ^ 128 : Nat) := ⟨by norm_num⟩

instance neZero_two_pow_160 : NeZero (2 ^ 160 : Nat) := ⟨by norm_num⟩

instance neZero_two_pow_256 : NeZero (2 ^ 256 : Nat) := ⟨by norm_num⟩

theorem two_pow_64_le : 2 ^ 64 ≤ 2 ^ 256 := by norm_num

theorem U256.div_million_lt (n : U256) : n.val / 1000000 < 2 ^ 256 :=
  (Nat.div_le_self _ _).trans_lt n.isLt

instance transOrd_two_pow_160 : Std.TransOrd (Fin (2 ^ 160)) := inferInstance

instance transOrd_two_pow_256 : Std.TransOrd (Fin (2 ^ 256)) := inferInstance

namespace U256

/-! ## Operations -/

/-- The greatest word. -/
def MAX : U256 := ⟨2 ^ 256 - 1, by omega⟩

/-- Addition that stops at `MAX`. -/
def saturating_add (a b : U256) : U256 :=
  ⟨min (a.val + b.val) (2 ^ 256 - 1), by omega⟩

/-- Subtraction that stops at zero. -/
def saturating_sub (a b : U256) : U256 :=
  ⟨a.val - b.val, by omega⟩

/-- Multiplication that stops at `MAX`. -/
def saturating_mul (a b : U256) : U256 :=
  ⟨min (a.val * b.val) (2 ^ 256 - 1), by omega⟩

/-- Addition, `none` on overflow. -/
def checked_add (a b : U256) : Option U256 :=
  if h : a.val + b.val < 2 ^ 256 then some ⟨a.val + b.val, h⟩ else none

/-- Subtraction, `none` on underflow. -/
def checked_sub (a b : U256) : Option U256 :=
  if b ≤ a then some ⟨a.val - b.val, by omega⟩ else none

/-- Multiplication, `none` on overflow. -/
def checked_mul (a b : U256) : Option U256 :=
  if h : a.val * b.val < 2 ^ 256 then some ⟨a.val * b.val, h⟩ else none

/-! ## Which number each operation returns -/

@[simp] theorem MAX_val : MAX.val = 2 ^ 256 - 1 := rfl

theorem eq_zero_iff {a : U256} : a = 0 ↔ a.val = 0 := by
  rw [Fin.ext_iff]
  rfl

@[simp] theorem saturating_add_val (a b : U256) :
    (a.saturating_add b).val = min (a.val + b.val) (2 ^ 256 - 1) := rfl

@[simp] theorem saturating_add_zero (a : U256) : a.saturating_add 0 = a := by
  have hlt := a.isLt
  have hzero : (0 : U256).val = 0 := rfl
  apply Fin.ext
  rw [saturating_add_val, hzero]
  omega

@[simp] theorem saturating_sub_val (a b : U256) :
    (a.saturating_sub b).val = a.val - b.val := rfl

@[simp] theorem saturating_mul_val (a b : U256) :
    (a.saturating_mul b).val = min (a.val * b.val) (2 ^ 256 - 1) := rfl

theorem checked_add_eq_some {a b c : U256} :
    a.checked_add b = some c ↔ a.val + b.val = c.val := by
  unfold checked_add
  split
  · simp [Fin.ext_iff]
  · have := c.isLt
    simp
    omega

theorem checked_sub_eq_some {a b c : U256} :
    a.checked_sub b = some c ↔ b.val + c.val = a.val := by
  unfold checked_sub
  split
  · rename_i h
    rw [Fin.le_def] at h
    simp only [Option.some.injEq, Fin.ext_iff]
    omega
  · rename_i h
    rw [Fin.le_def] at h
    simp
    omega

theorem checked_sub_eq_none {a b : U256} :
    a.checked_sub b = none ↔ a < b := by
  unfold checked_sub
  split <;> simp_all

theorem checked_mul_eq_some {a b c : U256} :
    a.checked_mul b = some c ↔ a.val * b.val = c.val := by
  unfold checked_mul
  split
  · simp [Fin.ext_iff]
  · have := c.isLt
    simp
    omega

end U256

namespace U64

/-- Addition that stops at the greatest word. -/
def saturating_add (a b : U64) : U64 :=
  ⟨min (a.val + b.val) (2 ^ 64 - 1), by omega⟩

@[simp] theorem saturating_add_val (a b : U64) :
    (a.saturating_add b).val = min (a.val + b.val) (2 ^ 64 - 1) := rfl

/-- Subtraction that stops at zero. -/
def saturating_sub (a b : U64) : U64 :=
  ⟨a.val - b.val, by omega⟩

end U64

/-! ## Saturating sums -/

namespace U256

/-- The sum of a list of words, saturating at every step. -/
def saturating_sum (amounts : List U256) : U256 :=
  amounts.foldl saturating_add 0

theorem foldl_saturating_add (amounts : List U256) (start : U256) :
    (amounts.foldl saturating_add start).val =
      min (start.val + (amounts.map Fin.val).sum) (2 ^ 256 - 1) := by
  induction amounts generalizing start with
  | nil =>
    have := start.isLt
    simp
    omega
  | cons x xs ih =>
    simp only [List.foldl_cons, List.map_cons, List.sum_cons, ih, saturating_add_val]
    omega

/-- Saturating at every step clamps the exact sum once. -/
theorem saturating_sum_val (amounts : List U256) :
    (saturating_sum amounts).val = min (amounts.map Fin.val).sum (2 ^ 256 - 1) := by
  simp [saturating_sum, foldl_saturating_add]

end U256
