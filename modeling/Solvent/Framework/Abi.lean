import Mathlib
import Solvent.Framework.Word
import Solvent.Framework.Encoding

/-! # Word-aligned encodings

    A record whose fields all have a fixed size is laid out as 32-byte words,
    one a field, in order (`Static`). Decoding reads the words off the front of
    a text, ignores what follows and refuses a word outside its field's range,
    so a decoded value is the one that was encoded (`decode_encode`) and two
    values with one encoding are equal.

    Byte strings are laid out as their length, their bytes and zeros up to the
    next word.
-/

namespace Abi

abbrev Bytes : Type := List UInt8

/-! ## Words -/

/-- The 32 bytes of a word, the most significant first. -/
def word (w : U256) : Bytes := Encoding.big_endian 32 w.val

/-- The number a big-endian text spells. -/
def number (bytes : Bytes) : ℕ := bytes.foldl (fun n b => 256 * n + b.toNat) 0

@[simp] theorem length_word (w : U256) : (word w).length = 32 := Encoding.length_big_endian 32 w.val

theorem foldl_number (bytes : Bytes) (n : ℕ) :
    bytes.foldl (fun n b => 256 * n + b.toNat) n = n * 256 ^ bytes.length + number bytes := by
  induction bytes generalizing n with
  | nil => simp [number]
  | cons b bytes ih =>
    have hrest : number (b :: bytes) = b.toNat * 256 ^ bytes.length + number bytes := by
      rw [number, List.foldl_cons, ih, Nat.mul_zero, Nat.zero_add]
    rw [List.foldl_cons, ih, hrest, List.length_cons, pow_succ]
    ring

theorem number_cons (b : UInt8) (bytes : Bytes) :
    number (b :: bytes) = b.toNat * 256 ^ bytes.length + number bytes := by
  rw [number, List.foldl_cons, foldl_number]
  simp

theorem number_append (as bs : Bytes) :
    number (as ++ bs) = number as * 256 ^ bs.length + number bs := by
  rw [number, List.foldl_append, foldl_number]
  rfl

theorem number_lt (bytes : Bytes) : number bytes < 256 ^ bytes.length := by
  induction bytes with
  | nil => simp [number]
  | cons b bytes ih =>
    have hb : b.toNat ≤ 255 := by
      have := b.toNat_lt
      omega
    rw [number_cons, List.length_cons, pow_succ]
    calc b.toNat * 256 ^ bytes.length + number bytes
        < b.toNat * 256 ^ bytes.length + 256 ^ bytes.length := by omega
      _ = (b.toNat + 1) * 256 ^ bytes.length := by ring
      _ ≤ 256 * 256 ^ bytes.length := Nat.mul_le_mul_right _ (by omega)
      _ = 256 ^ bytes.length * 256 := by ring

theorem number_big_endian (width value : ℕ) :
    number (Encoding.big_endian width value) = value % 256 ^ width := by
  induction width with
  | zero => simp [Encoding.big_endian, number, Nat.mod_one]
  | succ width ih =>
    rw [Encoding.big_endian, number_cons, ih, Encoding.length_big_endian, pow_succ, Nat.mod_mul]
    have hbyte : (UInt8.ofNat (value / 256 ^ width)).toNat = value / 256 ^ width % 256 := by simp
    rw [hbyte]
    ring

@[simp] theorem number_word (w : U256) : number (word w) = w.val := by
  rw [word, number_big_endian]
  exact Nat.mod_eq_of_lt (by have := w.isLt; norm_num; omega)

/-- The word at the front of a text. -/
def read_word (data : Bytes) : Option U256 :=
  if 32 ≤ data.length then some (Fin.ofNat _ (number (data.take 32))) else none

@[simp] theorem read_word_append (w : U256) (rest : Bytes) :
    read_word (word w ++ rest) = some w := by
  have htake : (word w ++ rest).take 32 = word w := by
    rw [List.take_append_of_le_length (length_word w).ge, List.take_of_length_le (length_word w).le]
  rw [read_word, if_pos (by simp), htake, number_word]
  exact congrArg some (Fin.ext (Nat.mod_eq_of_lt w.isLt))

@[simp] theorem drop_word_append (w : U256) (rest : Bytes) : (word w ++ rest).drop 32 = rest := by
  rw [List.drop_append_of_le_length (length_word w).ge, List.drop_of_length_le (length_word w).le,
    List.nil_append]

theorem number_injective {as bs : Bytes} (hlength : as.length = bs.length)
    (h : number as = number bs) : as = bs := by
  induction as generalizing bs with
  | nil => exact (List.eq_nil_of_length_eq_zero hlength.symm).symm
  | cons a as ih =>
    obtain ⟨b, bs, rfl⟩ := List.exists_cons_of_length_eq_add_one hlength.symm
    have hrest : as.length = bs.length := by simpa using hlength
    rw [number_cons, number_cons, hrest] at h
    -- The first byte is the quotient by what the rest can spell.
    have has := number_lt as
    have hbs := number_lt bs
    rw [hrest] at has
    have hquotient : ∀ (c : UInt8) {rest : ℕ}, rest < 256 ^ bs.length →
        (c.toNat * 256 ^ bs.length + rest) / 256 ^ bs.length = c.toNat := by
      intro c rest hrest
      rw [Nat.mul_comm, Nat.mul_add_div (by positivity), Nat.div_eq_of_lt hrest, Nat.add_zero]
    have hfirst : a.toNat = b.toNat := by
      rw [← hquotient a has, h, hquotient b hbs]
    rw [hfirst] at h
    rw [UInt8.toNat_inj.mp hfirst, ih hrest (by omega)]

/-- A text of one word is that word. -/
theorem eq_word {data : Bytes} {w : U256} (hlength : data.length = 32)
    (h : read_word data = some w) : data = word w := by
  unfold read_word at h
  rw [if_pos hlength.ge, List.take_of_length_le hlength.le] at h
  obtain rfl := Option.some.inj h
  refine number_injective (by simp [hlength]) ?_
  have hlt := number_lt data
  rw [hlength] at hlt
  rw [number_word]
  exact (Nat.mod_eq_of_lt (by norm_num at hlt ⊢; exact hlt)).symm

/-- The words of a list, one after the other. -/
def words (ws : List U256) : Bytes := ws.flatMap word

@[simp] theorem words_nil : words [] = [] := rfl

@[simp] theorem words_cons (w : U256) (ws : List U256) : words (w :: ws) = word w ++ words ws := rfl

theorem words_append (ws ws' : List U256) : words (ws ++ ws') = words ws ++ words ws' :=
  List.flatMap_append

@[simp] theorem length_words (ws : List U256) : (words ws).length = 32 * ws.length := by
  induction ws with
  | nil => rfl
  | cons w ws ih =>
    rw [words_cons, List.length_append, ih, length_word, List.length_cons]
    ring

theorem drop_words_append (ws : List U256) (rest : Bytes) :
    (words ws ++ rest).drop (32 * ws.length) = rest := by
  rw [← length_words, List.drop_left]

/-- The first `count` words of a text. -/
def read_words : ℕ → Bytes → Option (List U256)
  | 0, _ => some []
  | count + 1, data => do
    let w ← read_word data
    let ws ← read_words count (data.drop 32)
    some (w :: ws)

theorem read_words_append (ws : List U256) (rest : Bytes) :
    read_words ws.length (words ws ++ rest) = some ws := by
  induction ws with
  | nil => rfl
  | cons w ws ih =>
    rw [List.length_cons, words_cons, List.append_assoc]
    simp [read_words, ih]

/-- What is read is the words at their places. -/
theorem read_words_getElem? {count : ℕ} {data : Bytes} {ws : List U256}
    (h : read_words count data = some ws) {i : ℕ} (hi : i < count) :
    read_word (data.drop (32 * i)) = ws[i]? := by
  induction count generalizing data ws i with
  | zero => omega
  | succ count ih =>
    unfold read_words at h
    simp only [Option.bind_eq_bind, Option.bind_eq_some_iff] at h
    obtain ⟨w, hw, rest, hrest, hws⟩ := h
    obtain rfl := Option.some.inj hws
    match i with
    | 0 => simpa using hw
    | i + 1 =>
      have hdrop : (data.drop 32).drop (32 * i) = data.drop (32 * (i + 1)) := by
        rw [List.drop_drop, Nat.mul_add, Nat.mul_one, Nat.add_comm]
      rw [← hdrop, List.getElem?_cons_succ]
      exact ih hrest (by omega)

theorem words_injective : Function.Injective words := by
  intro ws ws' h
  have hlength : ws.length = ws'.length := by
    have := congrArg List.length h
    rw [length_words, length_words] at this
    omega
  have hread := read_words_append ws []
  rw [h, hlength, read_words_append] at hread
  exact (Option.some.inj hread).symm

/-! ## Fields narrower than a word -/

/-- A word of a field with `bound` values. -/
def narrow (bound : ℕ) (w : U256) : Option (Fin bound) :=
  if h : w.val < bound then some ⟨w.val, h⟩ else none

/-- A narrower field as a word. -/
def widen {bound : ℕ} (h : bound ≤ 2 ^ 256) (value : Fin bound) : U256 := Fin.castLE h value

theorem widen_val {bound : ℕ} (h : bound ≤ 2 ^ 256) (value : Fin bound) :
    (widen h value).val = value.val := by
  rw [widen, Fin.val_castLE]

@[simp] theorem narrow_widen {bound : ℕ} (h : bound ≤ 2 ^ 256) (value : Fin bound) :
    narrow bound (widen h value) = some value := by
  rw [narrow, dif_pos (show (widen h value).val < bound from value.isLt)]
  rfl

theorem widen_injective {bound : ℕ} (h : bound ≤ 2 ^ 256) :
    Function.Injective (widen h : Fin bound → U256) :=
  Fin.castLE_injective h

theorem narrow_eq_some {bound : ℕ} (h : bound ≤ 2 ^ 256) {w : U256} {value : Fin bound} :
    narrow bound w = some value ↔ widen h value = w := by
  constructor
  · intro heq
    unfold narrow at heq
    split at heq
    · obtain rfl := Option.some.inj heq
      rfl
    · cases heq
  · rintro rfl
    exact narrow_widen h value

/-! ## Records -/

/-- A record of fixed-size fields: its words, and the record they spell. -/
class Static (α : Type) where
  width : ℕ
  to_words : α → List U256
  of_words : List U256 → Option α
  length_to_words : ∀ a, (to_words a).length = width
  of_words_to_words : ∀ a, of_words (to_words a) = some a

section Records

variable {α : Type} [Static α]

/-- The layout of a record. -/
def encode (a : α) : Bytes := words (Static.to_words a)

/-- The record at the front of a text. -/
def decode (data : Bytes) : Option α :=
  (read_words (Static.width α) data).bind Static.of_words

@[simp] theorem length_encode (a : α) : (encode a).length = 32 * Static.width α := by
  rw [encode, length_words, Static.length_to_words]

/-- **Round trip.** -/
theorem decode_append (a : α) (rest : Bytes) : decode (encode a ++ rest) = some a := by
  rw [decode, encode, ← Static.length_to_words a, read_words_append]
  exact Static.of_words_to_words a

@[simp] theorem decode_encode (a : α) : decode (encode a) = some a := by
  have := decode_append a []
  rwa [List.append_nil] at this

theorem to_words_injective : Function.Injective (Static.to_words : α → List U256) := by
  intro a a' h
  have ha := Static.of_words_to_words a
  rw [h, Static.of_words_to_words] at ha
  exact (Option.some.inj ha).symm

theorem encode_injective : Function.Injective (encode : α → Bytes) :=
  words_injective.comp to_words_injective

/-- A tag and a record, as hashed structs are laid out. -/
theorem tagged_injective (tag : U256) :
    Function.Injective fun a : α => words (tag :: Static.to_words a) := by
  intro a a' h
  exact to_words_injective (List.tail_eq_of_cons_eq (words_injective h))

end Records

/-! ## Masking decoders -/

/-- A record that may also be read by masking its narrow fields, where `of_words`
    refuses a word outside a field's range. -/
class Masked (α : Type) extends Static α where
  of_masked : List U256 → Option α
  of_masked_of_words : ∀ {ws : List U256} {a : α}, of_words ws = some a → of_masked ws = some a

section Masking

variable {α : Type} [Masked α]

/-- The record at the front of a text, its narrow fields masked. -/
def decode_masked (data : Bytes) : Option α :=
  (read_words (Static.width α) data).bind Masked.of_masked

/-- What the refusing decoder reads, the masking one reads too. -/
theorem decode_masked_of_decode {data : Bytes} {a : α} (h : decode data = some a) :
    decode_masked data = some a := by
  obtain ⟨ws, hws, hof⟩ := Option.bind_eq_some_iff.mp h
  exact Option.bind_eq_some_iff.mpr ⟨ws, hws, Masked.of_masked_of_words hof⟩

end Masking

/-! ## Byte strings -/

/-- The zeros up to the next word. -/
def padding (length : ℕ) : Bytes := List.replicate ((32 - length % 32) % 32) 0

/-- A byte string: its length, its bytes, the padding. -/
def encode_bytes (length : U256) (bytes : Bytes) : Bytes :=
  word length ++ (bytes ++ padding bytes.length)

/-- The byte string at the front of a text. -/
def decode_bytes (data : Bytes) : Option Bytes := do
  let length ← read_word data
  let bytes := (data.drop 32).take length.val
  if bytes.length = length.val then some bytes else none

theorem decode_bytes_append {length : U256} {bytes : Bytes} (h : bytes.length = length.val)
    (rest : Bytes) : decode_bytes (encode_bytes length bytes ++ rest) = some bytes := by
  unfold decode_bytes encode_bytes
  rw [List.append_assoc]
  simp [h]

/-- A byte string of a length that is a word is read back. -/
theorem decode_bytes_behind {bytes : Bytes} {length : ℕ}
    (h : (encode_bytes (Fin.ofNat _ bytes.length) bytes).length ≤ length) (hlt : length < 2 ^ 256)
    (rest : Bytes) :
    decode_bytes (encode_bytes (Fin.ofNat _ bytes.length) bytes ++ rest) = some bytes := by
  unfold encode_bytes at h
  rw [List.length_append, List.length_append, length_word] at h
  have hval : (Fin.ofNat (2 ^ 256) bytes.length).val = bytes.length := Nat.mod_eq_of_lt (by omega)
  exact decode_bytes_append hval.symm rest

theorem length_padding_lt (n : ℕ) : (padding n).length < 32 := by
  unfold padding
  rw [List.length_replicate]
  omega

/-! ## Arguments -/

/-- One argument of a call or one field of a record: words in place, or bytes
    behind the head that an offset points to. -/
inductive Part where
  | here (ws : List U256)
  | behind (tail : Bytes)

/-- What the head takes of a part. -/
def Part.width : Part → ℕ
  | here ws => 32 * ws.length
  | behind _ => 32

/-- The heads of parts whose first tail starts at `offset`. -/
def heads (offset : ℕ) : List Part → Bytes
  | [] => []
  | .here ws :: parts => words ws ++ heads offset parts
  | .behind tail :: parts => word (Fin.ofNat _ offset) ++ heads (offset + tail.length) parts

def tails : List Part → Bytes
  | [] => []
  | .here _ :: parts => tails parts
  | .behind tail :: parts => tail ++ tails parts

/-- Parts in a row: their heads, then their tails. -/
def tuple (parts : List Part) : Bytes :=
  heads (parts.map Part.width).sum parts ++ tails parts

/-- A byte string as a part. -/
def Part.bytes (data : Bytes) : Part := .behind (encode_bytes (Fin.ofNat _ data.length) data)

/-! ## Reading arguments -/

/-- What is left of a text from an offset on, which must not pass its end. -/
def child (data : Bytes) (offset : U256) : Option Bytes :=
  if offset.val ≤ data.length then some (data.drop offset.val) else none

/-- What is read of a part: its words, or the text that starts with its bytes. -/
inductive Slot where
  | here (ws : List U256)
  | behind (rest : Bytes)

/-- Read parts off their heads: a count of words in place, or `none` for an offset
    into `data`. -/
def read_slots (data : Bytes) : List (Option ℕ) → Bytes → Option (List Slot)
  | [], _ => some []
  | some count :: shapes, head => do
    let ws ← read_words count head
    let slots ← read_slots data shapes (head.drop (32 * count))
    some (.here ws :: slots)
  | none :: shapes, head => do
    let offset ← read_word head
    let rest ← child data offset
    let slots ← read_slots data shapes (head.drop 32)
    some (.behind rest :: slots)

def Part.shape : Part → Option ℕ
  | here ws => some ws.length
  | behind _ => none

/-- What is read of parts that `suffix` follows. -/
def slots (suffix : Bytes) : List Part → List Slot
  | [] => []
  | .here ws :: parts => .here ws :: slots suffix parts
  | .behind tail :: parts => .behind (tail ++ (tails parts ++ suffix)) :: slots suffix parts

/-- The heads of parts whose tails lie at `offset` lead to them. -/
theorem read_slots_heads {data suffix : Bytes} {parts : List Part} :
    ∀ {offset : ℕ} {more : Bytes}, data.drop offset = tails parts ++ suffix →
      offset ≤ data.length → offset + (tails parts).length < 2 ^ 256 →
      read_slots data (parts.map Part.shape) (heads offset parts ++ more) =
        some (slots suffix parts) := by
  induction parts with
  | nil =>
    intro offset more _ _ _
    rfl
  | cons part parts ih =>
    intro offset more htails hoffset hlt
    match part with
    | .here ws =>
      show read_slots data (some ws.length :: parts.map Part.shape)
        ((words ws ++ heads offset parts) ++ more) = _
      rw [List.append_assoc, read_slots, read_words_append, drop_words_append]
      simp only [Option.bind_eq_bind, Option.bind_some]
      rw [ih htails hoffset hlt]
      rfl
    | .behind tail =>
      rw [tails, List.length_append] at hlt
      rw [tails, List.append_assoc] at htails
      -- The offset is a word, and leads to the tail.
      have hval : (Fin.ofNat (2 ^ 256) offset).val = offset := Nat.mod_eq_of_lt (by omega)
      have hchild : child data (Fin.ofNat _ offset) = some (tail ++ (tails parts ++ suffix)) := by
        rw [child, hval, if_pos hoffset, htails]
      have hnext : data.drop (offset + tail.length) = tails parts ++ suffix := by
        rw [← List.drop_drop, htails, List.drop_left]
      have hbound : offset + tail.length ≤ data.length := by
        have hlength := congrArg List.length htails
        rw [List.length_drop, List.length_append] at hlength
        omega
      show read_slots data (none :: parts.map Part.shape)
        ((word (Fin.ofNat _ offset) ++ heads (offset + tail.length) parts) ++ more) = _
      rw [List.append_assoc, read_slots, read_word_append, drop_word_append]
      simp only [Option.bind_eq_bind, Option.bind_some, hchild]
      rw [ih hnext hbound (by omega)]
      rfl

@[simp] theorem length_heads (offset : ℕ) (parts : List Part) :
    (heads offset parts).length = (parts.map Part.width).sum := by
  induction parts generalizing offset with
  | nil => rfl
  | cons part parts ih =>
    match part with
    | .here ws => simp [heads, Part.width, ih]
    | .behind tail => simp [heads, Part.width, ih]

theorem length_tuple (parts : List Part) :
    (tuple parts).length = (parts.map Part.width).sum + (tails parts).length := by
  rw [tuple, List.length_append, length_heads]

/-- What lies behind the head is part of the whole. -/
theorem length_behind_le {parts : List Part} {tail : Bytes} (h : .behind tail ∈ parts) :
    tail.length ≤ (tuple parts).length := by
  have htails : tail.length ≤ (tails parts).length := by
    induction parts with
    | nil => cases h
    | cons part parts ih =>
      rcases List.mem_cons.mp h with rfl | hrest
      · rw [tails, List.length_append]
        omega
      · have := ih hrest
        cases part with
        | here ws => exact this
        | behind tail' =>
          rw [tails, List.length_append]
          omega
  rw [length_tuple]
  omega

/-- **Round trip.** Parts in a row are read back, whatever follows them. -/
theorem read_slots_tuple {parts : List Part} (h : (tuple parts).length < 2 ^ 256)
    (suffix : Bytes) :
    read_slots (tuple parts ++ suffix) (parts.map Part.shape) (tuple parts ++ suffix) =
      some (slots suffix parts) := by
  rw [length_tuple] at h
  have hdrop : (tuple parts ++ suffix).drop (parts.map Part.width).sum = tails parts ++ suffix := by
    rw [tuple, List.append_assoc]
    exact List.drop_left' (length_heads _ _)
  have hbound : (parts.map Part.width).sum ≤ (tuple parts ++ suffix).length := by
    rw [List.length_append, length_tuple]
    omega
  have hread := @read_slots_heads _ _ parts _ (tails parts ++ suffix) hdrop hbound h
  rwa [← List.append_assoc] at hread

/-! ## Vectors -/

/-- A vector in memory: its length fits a machine word. -/
structure Vec (α : Type) where
  items : List α
  fits : items.length < 2 ^ 63

/-- As many records as `count`. -/
def read_array {α : Type} [Static α] : ℕ → Bytes → Option (List α)
  | 0, _ => some []
  | count + 1, data => do
    let a ← decode data
    let as ← read_array count (data.drop (32 * Static.width α))
    some (a :: as)

theorem read_array_append {α : Type} [Static α] (as : List α) (rest : Bytes) :
    read_array as.length (as.flatMap encode ++ rest) = some as := by
  induction as with
  | nil => rfl
  | cons a as ih =>
    have hdrop : (encode a ++ (as.flatMap encode ++ rest)).drop (32 * Static.width α) =
        as.flatMap encode ++ rest := by
      rw [← length_encode a, List.drop_left]
    rw [List.length_cons, List.flatMap_cons, List.append_assoc]
    simp only [read_array, decode_append, hdrop, ih, Option.bind_eq_bind, Option.bind_some]

namespace Vec

variable {α : Type}

def of_list (items : List α) : Option (Vec α) :=
  if h : items.length < 2 ^ 63 then some ⟨items, h⟩ else none

@[simp] theorem of_items (v : Vec α) : of_list v.items = some v := dif_pos v.fits

theorem items_injective : Function.Injective (items : Vec α → List α) := by
  intro v v' h
  cases v
  cases v'
  cases h
  rfl

/-- An array of records: their count, then each. -/
def encode [Static α] (v : Vec α) : Bytes :=
  word (Fin.ofNat _ v.items.length) ++ v.items.flatMap Abi.encode

def decode [Static α] (data : Bytes) : Option (Vec α) := do
  let count ← read_word data
  let items ← read_array count.val (data.drop 32)
  of_list items

theorem decode_append [Static α] (v : Vec α) (rest : Bytes) :
    decode (v.encode ++ rest) = some v := by
  have hval : (Fin.ofNat (2 ^ 256) v.items.length).val = v.items.length :=
    Nat.mod_eq_of_lt (v.fits.trans (by norm_num))
  unfold decode encode
  rw [List.append_assoc, read_word_append, drop_word_append]
  simp only [Option.bind_eq_bind, Option.bind_some, hval, read_array_append, of_items]

theorem length_encode [Static α] (v : Vec α) :
    v.encode.length = 32 + 32 * Static.width α * v.items.length := by
  unfold encode
  rw [List.length_append, length_word]
  congr 1
  induction v.items with
  | nil => rfl
  | cons a as ih =>
    rw [List.flatMap_cons, List.length_append, Abi.length_encode, ih, List.length_cons]
    ring

/-- A byte vector as a part. -/
def part (v : Vec UInt8) : Part := .bytes v.items

def decode_bytes (data : Bytes) : Option (Vec UInt8) := (Abi.decode_bytes data).bind of_list

theorem decode_bytes_append (v : Vec UInt8) (rest : Bytes) :
    decode_bytes (encode_bytes (Fin.ofNat _ v.items.length) v.items ++ rest) = some v := by
  have hval : (Fin.ofNat (2 ^ 256) v.items.length).val = v.items.length :=
    Nat.mod_eq_of_lt (v.fits.trans (by norm_num))
  unfold decode_bytes
  rw [Abi.decode_bytes_append hval.symm, Option.bind_some, of_items]

/-- What a byte vector takes behind its head. -/
theorem length_bytes_lt (v : Vec UInt8) :
    (encode_bytes (Fin.ofNat _ v.items.length) v.items).length < 2 ^ 64 := by
  unfold encode_bytes
  rw [List.length_append, List.length_append, length_word]
  have hpadding := length_padding_lt v.items.length
  have hfits := v.fits
  omega

end Vec

/-- A word is a record of its own. -/
instance : Static U256 where
  width := 1
  to_words w := [w]
  of_words ws :=
    match ws with
    | [w] => some w
    | _ => none
  length_to_words _ := rfl
  of_words_to_words _ := rfl

end Abi
