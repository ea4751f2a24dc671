import Mathlib
import Solvent.Framework.Mapping
import Solvent.Framework.Word

/-! # Bitmaps over words

    A set of numbers kept as a mapping from words to 256-bit masks: number `n` is
    bit `n & 0xff` of word `n >> 8`. Setting a mask adds exactly the numbers of
    that word whose bits it has, and marking a number adds that number alone, so
    one number's bit never speaks for another's.
-/

abbrev Bitmap : Type := U256 → U256

namespace Bitmap

/-- `n >> 8` -/
def word (n : U256) : U256 := ⟨n.val / 256, by omega⟩

/-- `n & 0xff` -/
def bit (n : U256) : ℕ := n.val % 256

/-- `1 << (n & 0xff)` -/
def mask (n : U256) : U256 := ⟨2 ^ bit n, Nat.pow_lt_pow_right (by norm_num) (Nat.mod_lt _ (by norm_num))⟩

def is_set (b : Bitmap) (n : U256) : Bool := (b (word n)).val.testBit (bit n)

/-- `bitmap[w] |= bits` -/
def set_word (b : Bitmap) (w bits : U256) : Bitmap :=
  Mapping.set b w ⟨(b w).val ||| bits.val, Nat.or_lt_two_pow (b w).isLt bits.isLt⟩

def mark (b : Bitmap) (n : U256) : Bitmap := set_word b (word n) (mask n)

/-- Testing a bit is masking it out. -/
theorem is_set_iff_and {b : Bitmap} {n : U256} :
    is_set b n = true ↔ (b (word n)).val &&& (mask n).val ≠ 0 := by
  have hmask : ((b (word n)).val &&& (mask n).val) =
      if (b (word n)).val.testBit (bit n) then 2 ^ bit n else 0 := by
    refine Nat.eq_of_testBit_eq fun i => ?_
    show ((b (word n)).val &&& 2 ^ bit n).testBit i = _
    rw [Nat.testBit_and, Nat.testBit_two_pow]
    by_cases hi : bit n = i
    · subst hi
      cases (b (word n)).val.testBit (bit n) <;> simp [Nat.testBit_two_pow_self]
    · cases (b (word n)).val.testBit (bit n) <;> simp [hi]
  rw [hmask, is_set]
  split <;> simp_all

/-- A number is its word and its bit. -/
theorem ext_word_bit {m n : U256} (hword : word m = word n) (hbit : bit m = bit n) : m = n := by
  have hquotient : m.val / 256 = n.val / 256 := congrArg Fin.val hword
  have hrest : m.val % 256 = n.val % 256 := hbit
  refine Fin.ext ?_
  omega

/-- **Frame rule.** A mask adds the numbers of its word whose bits it has. -/
theorem is_set_set_word {b : Bitmap} {w bits n : U256} :
    is_set (set_word b w bits) n = true ↔
      is_set b n = true ∨ (word n = w ∧ bits.val.testBit (bit n) = true) := by
  unfold is_set set_word
  rw [Mapping.set_apply]
  by_cases hword : word n = w
  · subst hword
    simp [Nat.testBit_or]
  · simp [hword]

/-- Marking adds one number. -/
theorem is_set_mark {b : Bitmap} {m n : U256} :
    is_set (mark b m) n = true ↔ is_set b n = true ∨ n = m := by
  have hbits : (word n = word m ∧ (mask m).val.testBit (bit n) = true) ↔ n = m := by
    show (word n = word m ∧ (2 ^ bit m).testBit (bit n) = true) ↔ n = m
    rw [Nat.testBit_two_pow, decide_eq_true_eq]
    constructor
    · rintro ⟨hword, hbit⟩
      exact ext_word_bit hword hbit.symm
    · rintro rfl
      exact ⟨rfl, rfl⟩
  rw [mark, is_set_set_word, hbits]

theorem not_is_set_mark {b : Bitmap} {m n : U256} (hne : n ≠ m) (h : is_set b n = false) :
    is_set (mark b m) n = false := by
  rw [Bool.eq_false_iff, Ne, is_set_mark]
  simp [h, hne]

/-- What is set stays set. -/
theorem is_set_of_is_set {b : Bitmap} {w bits n : U256} (h : is_set b n = true) :
    is_set (set_word b w bits) n = true :=
  is_set_set_word.mpr (.inl h)

end Bitmap
