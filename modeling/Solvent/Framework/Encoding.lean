import Mathlib

/-! # Concatenated encodings

    A field of constant width can be read off the front of any text it starts.
    So a concatenation of such fields determines each of them, and so does a list
    of records of one width, its length included.
-/

namespace Encoding

variable {α β γ : Type}

/-- A field of `width` symbols that determines its value. -/
structure Fixed (encode : α → List γ) (width : ℕ) : Prop where
  length : ∀ a, (encode a).length = width
  injective : Function.Injective encode

variable {encode : α → List γ} {width : ℕ}

/-- **Field rule.** The first field and the rest are determined. -/
theorem Fixed.append_inj (h : Fixed encode width) {a a' : α} {rest rest' : List γ}
    (heq : encode a ++ rest = encode a' ++ rest') : a = a' ∧ rest = rest' := by
  have hlength : (encode a).length = (encode a').length := by rw [h.length, h.length]
  obtain ⟨hfield, hrest⟩ := List.append_inj heq hlength
  exact ⟨h.injective hfield, hrest⟩

/-- The encoding of a value seen through an injective map. -/
theorem Fixed.comp (h : Fixed encode width) {f : β → α} (hf : Function.Injective f) :
    Fixed (fun b => encode (f b)) width where
  length b := h.length (f b)
  injective := h.injective.comp hf

/-- One symbol. -/
theorem Fixed.symbol {f : α → γ} (hf : Function.Injective f) : Fixed (fun a => [f a]) 1 where
  length _ := rfl
  injective := by
    intro a a' h
    exact hf (List.singleton_injective h)

/-- Two fields, one after the other. -/
theorem Fixed.pair {encode' : β → List γ} {width' : ℕ} (h : Fixed encode width)
    (h' : Fixed encode' width') :
    Fixed (fun p : α × β => encode p.1 ++ encode' p.2) (width + width') where
  length p := by rw [List.length_append, h.length, h'.length]
  injective := by
    intro p p' heq
    obtain ⟨hfst, hsnd⟩ := h.append_inj heq
    exact Prod.ext hfst (h'.injective hsnd)

/-- **List rule.** Records of one positive width determine the list of them. -/
theorem Fixed.flatMap_injective (h : Fixed encode width) (hwidth : 0 < width) :
    Function.Injective fun as : List α => as.flatMap encode := by
  have hne : ∀ (a : α) (rest : List γ), encode a ++ rest ≠ [] := by
    intro a rest hnil
    have hlength := congrArg List.length hnil
    rw [List.length_append, h.length, List.length_nil] at hlength
    omega
  intro as
  induction as with
  | nil =>
    intro as' heq
    match as' with
    | [] => rfl
    | a' :: as' => exact absurd heq.symm (hne a' _)
  | cons a as ih =>
    intro as' heq
    match as' with
    | [] => exact absurd heq (hne a _)
    | a' :: as' =>
      obtain ⟨rfl, hrest⟩ := h.append_inj (show encode a ++ as.flatMap encode =
        encode a' ++ as'.flatMap encode from heq)
      rw [ih hrest]

/-! ## Big-endian bytes -/

/-- The big-endian bytes of `value`, the most significant first. -/
def big_endian : ℕ → ℕ → List UInt8
  | 0, _ => []
  | width + 1, value => UInt8.ofNat (value / 256 ^ width) :: big_endian width value

theorem length_big_endian (width value : ℕ) : (big_endian width value).length = width := by
  induction width with
  | zero => rfl
  | succ width ih => rw [big_endian, List.length_cons, ih]

/-- A value that fits in fewer bytes is preceded by zeros. -/
theorem big_endian_padded {width value : ℕ} (h : value < 256 ^ width) (zeros : ℕ) :
    big_endian (zeros + width) value = List.replicate zeros 0 ++ big_endian width value := by
  induction zeros with
  | zero => rw [Nat.zero_add, List.replicate_zero, List.nil_append]
  | succ zeros ih =>
    have hle : 256 ^ width ≤ 256 ^ (zeros + width) :=
      Nat.pow_le_pow_right (by norm_num) (Nat.le_add_left width zeros)
    rw [Nat.succ_add, big_endian, ih, Nat.div_eq_of_lt (lt_of_lt_of_le h hle),
      List.replicate_succ, List.cons_append]
    rfl

/-- The bytes determine the value up to a multiple of their range. -/
theorem big_endian_mod {width value value' : ℕ}
    (h : big_endian width value = big_endian width value') :
    value % 256 ^ width = value' % 256 ^ width := by
  induction width with
  | zero => rw [pow_zero, Nat.mod_one, Nat.mod_one]
  | succ width ih =>
    obtain ⟨hbyte, hrest⟩ := List.cons_eq_cons.mp h
    have htop : value / 256 ^ width % 256 = value' / 256 ^ width % 256 := by
      have := congrArg UInt8.toNat hbyte
      simpa using this
    rw [pow_succ, Nat.mod_mul, Nat.mod_mul, ih hrest, htop]

/-- A bounded number is a field. -/
theorem fixed_big_endian {width bound : ℕ} (h : bound ≤ 256 ^ width) :
    Fixed (fun value : Fin bound => big_endian width value) width where
  length value := length_big_endian width value
  injective := by
    intro value value' heq
    have hmod := big_endian_mod heq
    rw [Nat.mod_eq_of_lt (value.isLt.trans_le h), Nat.mod_eq_of_lt (value'.isLt.trans_le h)] at hmod
    exact Fin.ext hmod

end Encoding
