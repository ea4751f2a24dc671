import Solvent.Framework.Abi
import Solvent.Registry.Snapshot

/-! # Strategy programs

    The program of a shipped strategy and the curve it prices as. A program is a
    row of instructions, each an opcode, a length and that many bytes. The decoder
    takes one of the three curve shapes, with flat fees and price-neutral
    instructions anywhere around it, and nothing else.
-/

namespace Solvent

open Abi (Bytes number)

def OP_XYC_SWAP : UInt8 := 0x11
def OP_XYC_CONCENTRATE : UInt8 := 0x12
def OP_PEGGED_SWAP : UInt8 := 0x1F
def OP_SALT : UInt8 := 0x14
def OP_FLAT_FEE : UInt8 := 0x15

/-- The salt, and the deadline and balance guards. -/
def PRICE_NEUTRAL : List UInt8 := [OP_SALT, 0x0D, 0x0E, 0x0F, 0x10, 0x21]

def CONCENTRATE_ARGS_LEN : ℕ := 64
def PEGGED_ARGS_LEN : ℕ := 160

/-- A hundred percent of a flat fee. -/
def FEE_BPS_DENOMINATOR : ℕ := 1000000000

/-! ## Instructions -/

@[ext]
structure Instruction where
  opcode : UInt8
  args : Bytes
  /-- The length is a byte. -/
  short : args.length < 256

/-- `[opcode:1][argsLen:1][args:argsLen]` -/
def Instruction.encode (i : Instruction) : Bytes :=
  i.opcode :: UInt8.ofNat i.args.length :: i.args

def encode_program (program : List Instruction) : Bytes := program.flatMap Instruction.encode

theorem take_short (len : UInt8) (tail : Bytes) : (tail.take len.toNat).length < 256 := by
  have hlen := len.toNat_lt
  rw [List.length_take]
  omega

/-- `walk` over the bytes that are left; an instruction takes at least two. -/
def walk_from : ℕ → Bytes → Option (List Instruction)
  | _, [] => some []
  | fuel + 1, opcode :: args_len :: tail =>
    if args_len.toNat ≤ tail.length then do
      let next ← walk_from fuel (tail.drop args_len.toNat)
      some (⟨opcode, tail.take args_len.toNat, take_short args_len tail⟩ :: next)
    else none
  | _, _ => none

/-- Split a program into instructions; `none` if an instruction overruns the end
    or a trailing opcode has no length. -/
def walk (program : Bytes) : Option (List Instruction) := walk_from program.length program

/-! ## Curves -/

/-- `U256::from_be_slice` -/
def word_at (args : Bytes) (i : ℕ) : U256 := Fin.ofNat _ (number ((args.drop (32 * i)).take 32))

/-- `PeggedSwapMath.MAX_LINEAR_WIDTH`: the contract's ceiling on the linear width. -/
def max_linear_width : U256 := 5000 * 10 ^ 27

/-- The parameters the decoder accepts: positive reserves and rates, and a linear
    width within its ceiling. -/
def is_pegged_in_domain (p : PeggedParams) : Bool :=
  p.x0 ≠ 0 ∧ p.y0 ≠ 0 ∧ p.rate_lt ≠ 0 ∧ p.rate_gt ≠ 0 ∧ p.linear_width ≤ max_linear_width

def pegged_params (args : Bytes) : PeggedParams where
  x0 := word_at args 0
  y0 := word_at args 1
  linear_width := word_at args 2
  rate_lt := word_at args 3
  rate_gt := word_at args 4

/-- The curve of the swap-defining instructions, in order. -/
def curve_of : List Instruction → Option Curve
  | [swap] =>
    if swap.opcode = OP_XYC_SWAP then some .Xyc
    else if swap.opcode = OP_PEGGED_SWAP ∧ swap.args.length = PEGGED_ARGS_LEN then
      if is_pegged_in_domain (pegged_params swap.args) then
        some (.Pegged (pegged_params swap.args))
      else none
    else none
  | [conc, swap] =>
    if conc.opcode = OP_XYC_CONCENTRATE ∧ swap.opcode = OP_XYC_SWAP ∧
        conc.args.length = CONCENTRATE_ARGS_LEN then
      let sqrt_price_min := word_at conc.args 0
      let sqrt_price_max := word_at conc.args 1
      if sqrt_price_min ≠ 0 ∧ sqrt_price_min < sqrt_price_max then
        some (.Concentrate sqrt_price_min sqrt_price_max)
      else none
    else none
  | _ => none

/-- A 4-byte number of at most the denominator. -/
def parse_flat_fee (args : Bytes) : Option U32 :=
  if args.length = 4 then
    let bps : U32 := Fin.ofNat _ (number args)
    if bps.val ≤ FEE_BPS_DENOMINATOR then some bps else none
  else none

/-- The loop of `classify`. -/
def classify_from : List Instruction → List U32 → List Instruction → CurveSpec
  | [], fees_in_bps, curve_ixs =>
    match curve_of curve_ixs with
    | some curve => .Priceable curve fees_in_bps
    | none => .Unsupported
  | i :: program, fees_in_bps, curve_ixs =>
    if i.opcode = OP_FLAT_FEE then
      match parse_flat_fee i.args with
      | some bps => classify_from program (fees_in_bps ++ [bps]) curve_ixs
      | none => .Unsupported
    else if i.opcode ∈ [OP_XYC_SWAP, OP_XYC_CONCENTRATE, OP_PEGGED_SWAP] then
      classify_from program fees_in_bps (curve_ixs ++ [i])
    else if i.opcode ∈ PRICE_NEUTRAL then classify_from program fees_in_bps curve_ixs
    else .Unsupported

/-- What a program prices as. -/
def classify (program : Bytes) : CurveSpec :=
  match walk program with
  | some instructions => classify_from instructions [] []
  | none => .Unsupported

/-! ## The grammar -/

/-- A flat fee: four bytes, at most the denominator. -/
structure FlatFee (i : Instruction) (bps : U32) : Prop where
  length : i.args.length = 4
  value : bps.val = number i.args
  le : bps.val ≤ FEE_BPS_DENOMINATOR

/-- The three curves, by their instructions in order. -/
inductive CurveShape : List Instruction → Curve → Prop where
  | xyc (swap : Instruction) (opcode : swap.opcode = OP_XYC_SWAP) : CurveShape [swap] .Xyc
  | concentrate (conc swap : Instruction) (sqrt_price_min sqrt_price_max : U256)
      (opcode : conc.opcode = OP_XYC_CONCENTRATE) (swap_opcode : swap.opcode = OP_XYC_SWAP)
      (args : conc.args = Abi.word sqrt_price_min ++ Abi.word sqrt_price_max)
      (min_pos : 0 < sqrt_price_min) (min_lt_max : sqrt_price_min < sqrt_price_max) :
      CurveShape [conc, swap] (.Concentrate sqrt_price_min sqrt_price_max)
  | pegged (swap : Instruction) (p : PeggedParams) (opcode : swap.opcode = OP_PEGGED_SWAP)
      (args : swap.args = Abi.words [p.x0, p.y0, p.linear_width, p.rate_lt, p.rate_gt])
      (reserves : 0 < p.x0 ∧ 0 < p.y0) (rates : 0 < p.rate_lt ∧ 0 < p.rate_gt)
      (width : p.linear_width.val ≤ 5000 * 10 ^ 27) : CurveShape [swap] (.Pegged p)

def is_curve (i : Instruction) : Bool :=
  i.opcode = OP_XYC_SWAP ∨ i.opcode = OP_XYC_CONCENTRATE ∨ i.opcode = OP_PEGGED_SWAP

def is_flat_fee (i : Instruction) : Bool := i.opcode = OP_FLAT_FEE

def is_price_neutral (i : Instruction) : Bool := i.opcode ∈ PRICE_NEUTRAL

/-- A program of the grammar: nothing but the three kinds of instruction, the fees
    those of its flat fees in order, and the curve instructions one of the shapes. -/
structure Grammar (program : List Instruction) (curve : Curve) (fees_in_bps : List U32) :
    Prop where
  kinds : ∀ i ∈ program, is_price_neutral i ∨ is_flat_fee i ∨ is_curve i
  fees : List.Forall₂ FlatFee (program.filter is_flat_fee) fees_in_bps
  shape : CurveShape (program.filter is_curve) curve

/-! ## Walking -/

@[simp] theorem encode_program_nil : encode_program [] = [] := rfl

theorem encode_program_cons (i : Instruction) (program : List Instruction) :
    encode_program (i :: program) =
      i.opcode :: UInt8.ofNat i.args.length :: (i.args ++ encode_program program) := rfl

theorem toNat_length (i : Instruction) : (UInt8.ofNat i.args.length).toNat = i.args.length := by
  rw [UInt8.toNat_ofNat']
  exact Nat.mod_eq_of_lt i.short

/-- With a unit of fuel a byte, the walk succeeds exactly on the encodings, and
    returns what was encoded. -/
theorem walk_from_iff {fuel : ℕ} {bytes : Bytes} (h : bytes.length ≤ fuel)
    {program : List Instruction} :
    walk_from fuel bytes = some program ↔ bytes = encode_program program := by
  induction fuel generalizing bytes program with
  | zero =>
    obtain rfl := List.eq_nil_of_length_eq_zero (Nat.le_zero.mp h)
    match program with
    | [] => simp [walk_from]
    | i :: program => simp [walk_from, encode_program_cons]
  | succ fuel ih =>
    match bytes with
    | [] =>
      match program with
      | [] => simp [walk_from]
      | i :: program => simp [walk_from, encode_program_cons]
    | [opcode] =>
      match program with
      | [] => simp [walk_from]
      | i :: program => simp [walk_from, encode_program_cons]
    | opcode :: args_len :: tail =>
      have hrest : (tail.drop args_len.toNat).length ≤ fuel := by
        rw [List.length_drop]
        simp only [List.length_cons] at h
        omega
      unfold walk_from
      constructor
      · intro hwalk
        split at hwalk
        · rename_i hfits
          obtain ⟨next, hnext, hprogram⟩ := Option.bind_eq_some_iff.mp hwalk
          obtain rfl := Option.some.inj hprogram
          have htake : (tail.take args_len.toNat).length = args_len.toNat := by
            rw [List.length_take, min_eq_left hfits]
          rw [encode_program_cons, ← (ih hrest).mp hnext]
          simp only [htake, UInt8.ofNat_toNat, List.take_append_drop]
        · cases hwalk
      · intro hbytes
        match program with
        | [] => cases hbytes
        | i :: program =>
          simp only [encode_program_cons, List.cons.injEq] at hbytes
          obtain ⟨rfl, rfl, rfl⟩ := hbytes
          have hlen := toNat_length i
          have hdrop : (i.args ++ encode_program program).drop
              (UInt8.ofNat i.args.length).toNat = encode_program program := by
            rw [hlen, List.drop_left]
          have htake : (i.args ++ encode_program program).take
              (UInt8.ofNat i.args.length).toNat = i.args := by
            rw [hlen, List.take_left]
          rw [if_pos (by rw [hlen, List.length_append]; omega)]
          rw [(ih hrest).mpr hdrop]
          simp only [Option.bind_eq_bind, Option.bind_some, htake]

/-- **Walking** succeeds exactly on the rows of instructions. -/
theorem walk_iff {bytes : Bytes} {program : List Instruction} :
    walk bytes = some program ↔ bytes = encode_program program :=
  walk_from_iff le_rfl

/-- An instruction at the front is split off. -/
theorem walk_cons (i : Instruction) (rest : Bytes) :
    walk (i.encode ++ rest) = (walk rest).map (i :: ·) := by
  refine Option.ext fun program => ?_
  rw [walk_iff, Option.map_eq_some_iff]
  constructor
  · intro hbytes
    match program with
    | [] => cases hbytes
    | j :: program =>
      simp only [Instruction.encode, encode_program_cons, List.cons_append,
        List.cons.injEq] at hbytes
      obtain ⟨hopcode, hlength, htail⟩ := hbytes
      -- The length byte tells the two argument lists apart from what follows.
      have hlen : i.args.length = j.args.length := by
        rw [← toNat_length i, hlength, toNat_length j]
      obtain ⟨hargs, hrest⟩ := List.append_inj htail hlen
      refine ⟨program, walk_iff.mpr hrest, ?_⟩
      rw [Instruction.ext hopcode hargs]
  · rintro ⟨next, hnext, rfl⟩
    rw [encode_program_cons, ← walk_iff.mp hnext]
    rfl

theorem walk_append (program : List Instruction) (rest : Bytes) :
    walk (encode_program program ++ rest) = (walk rest).map (program ++ ·) := by
  induction program with
  | nil => simp
  | cons i program ih =>
    have hencode : encode_program (i :: program) ++ rest =
        i.encode ++ (encode_program program ++ rest) := by
      rw [← List.append_assoc]
      rfl
    rw [hencode, walk_cons, ih, Option.map_map]
    rfl

/-! ## Fees and curves -/

theorem parse_flat_fee_iff {i : Instruction} {bps : U32} :
    parse_flat_fee i.args = some bps ↔ FlatFee i bps := by
  unfold parse_flat_fee
  constructor
  · intro h
    split at h
    · rename_i hlength
      simp only at h
      split at h
      · rename_i hle
        obtain rfl := Option.some.inj h
        have hlt := Abi.number_lt i.args
        rw [hlength] at hlt
        exact ⟨hlength, Nat.mod_eq_of_lt hlt, hle⟩
      · cases h
    · cases h
  · rintro ⟨hlength, hvalue, hle⟩
    have hbps : (Fin.ofNat (2 ^ 32) (number i.args) : U32) = bps := by
      refine Fin.ext ?_
      rw [Fin.val_ofNat, ← hvalue]
      exact Nat.mod_eq_of_lt bps.isLt
    rw [if_pos hlength]
    simp only [hbps]
    exact if_pos hle

theorem word_at_succ (args : Bytes) (i : ℕ) :
    word_at args (i + 1) = word_at (args.drop 32) i := by
  rw [word_at, word_at, List.drop_drop, Nat.mul_add, Nat.mul_one, Nat.add_comm]

theorem word_at_zero (w : U256) (rest : Bytes) : word_at (Abi.word w ++ rest) 0 = w := by
  have htake : (Abi.word w ++ rest).take 32 = Abi.word w := by
    rw [List.take_append_of_le_length (Abi.length_word w).ge,
      List.take_of_length_le (Abi.length_word w).le]
  rw [word_at, Nat.mul_zero, List.drop_zero, htake, Abi.number_word]
  exact Fin.ext (Nat.mod_eq_of_lt w.isLt)

/-- A row of words, read one by one. -/
theorem eq_words_iff {args : Bytes} {ws : List U256} :
    args = Abi.words ws ↔
      args.length = 32 * ws.length ∧ ∀ i (h : i < ws.length), word_at args i = ws[i] := by
  induction ws generalizing args with
  | nil => simp
  | cons w ws ih =>
    constructor
    · rintro rfl
      refine ⟨Abi.length_words _, ?_⟩
      intro i hi
      match i with
      | 0 => exact word_at_zero w _
      | i + 1 =>
        rw [word_at_succ, Abi.words_cons, Abi.drop_word_append]
        exact (ih.mp rfl).2 i (Nat.lt_of_succ_lt_succ hi)
    · rintro ⟨hlength, hat⟩
      rw [List.length_cons] at hlength
      have hfirst : args.take 32 = Abi.word w := by
        have htake : (args.take 32).length = 32 := by
          rw [List.length_take]
          omega
        refine Abi.eq_word htake ?_
        rw [Abi.read_word, if_pos htake.ge, List.take_take, min_self]
        exact congrArg some (hat 0 (Nat.succ_pos _))
      have hrest : args.drop 32 = Abi.words ws := by
        refine ih.mpr ⟨?_, ?_⟩
        · rw [List.length_drop]
          omega
        · intro i hi
          rw [← word_at_succ]
          exact hat (i + 1) (Nat.succ_lt_succ hi)
      rw [← List.take_append_drop 32 args, hfirst, hrest]
      rfl

theorem in_domain_iff {p : PeggedParams} :
    is_pegged_in_domain p = true ↔ (0 < p.x0 ∧ 0 < p.y0) ∧ (0 < p.rate_lt ∧ 0 < p.rate_gt) ∧
      p.linear_width.val ≤ 5000 * 10 ^ 27 := by
  have hwidth : p.linear_width ≤ max_linear_width ↔ p.linear_width.val ≤ 5000 * 10 ^ 27 := Iff.rfl
  unfold is_pegged_in_domain
  rw [decide_eq_true_iff, hwidth]
  simp only [← pos_iff_ne_zero]
  tauto

/-- **The curve** is one of the three shapes. -/
theorem curve_of_iff {instructions : List Instruction} {curve : Curve} :
    curve_of instructions = some curve ↔ CurveShape instructions curve := by
  constructor
  · intro h
    match instructions with
    | [] => cases h
    | [swap] =>
      simp only [curve_of] at h
      split at h
      · rename_i hopcode
        obtain rfl := Option.some.inj h
        exact .xyc swap hopcode
      · split at h
        · rename_i hpegged
          split at h
          · rename_i hdomain
            obtain rfl := Option.some.inj h
            obtain ⟨hreserves, hrates, hwidth⟩ := in_domain_iff.mp hdomain
            have hwords : swap.args = Abi.words [word_at swap.args 0, word_at swap.args 1,
                word_at swap.args 2, word_at swap.args 3, word_at swap.args 4] := by
              refine eq_words_iff.mpr ⟨hpegged.2, ?_⟩
              intro i hi
              have hlt : i < 5 := hi
              interval_cases i <;> rfl
            exact .pegged swap (pegged_params swap.args) hpegged.1 hwords hreserves hrates hwidth
          · cases h
        · cases h
    | [conc, swap] =>
      simp only [curve_of] at h
      split at h
      · rename_i hconc
        split at h
        · rename_i hdomain
          obtain rfl := Option.some.inj h
          have hwords : conc.args = Abi.words [word_at conc.args 0, word_at conc.args 1] := by
            refine eq_words_iff.mpr ⟨hconc.2.2, ?_⟩
            intro i hi
            have hlt : i < 2 := hi
            interval_cases i <;> rfl
          refine .concentrate conc swap _ _ hconc.1 hconc.2.1 ?_ (pos_iff_ne_zero.mpr hdomain.1)
            hdomain.2
          simpa using hwords
        · cases h
      · cases h
    | _ :: _ :: _ :: _ => cases h
  · intro h
    match h with
    | .xyc swap hopcode => exact if_pos hopcode
    | .concentrate conc swap lo hi hconc hswap hargs hpos hlt =>
      have hwords : conc.args = Abi.words [lo, hi] := by simpa using hargs
      obtain ⟨hlength, hat⟩ := eq_words_iff.mp hwords
      have hlo : word_at conc.args 0 = lo := hat 0 (by simp)
      have hhi : word_at conc.args 1 = hi := hat 1 (by simp)
      rw [curve_of]
      rw [if_pos ⟨hconc, hswap, hlength⟩]
      simp only [hlo, hhi]
      exact if_pos ⟨hpos.ne', hlt⟩
    | .pegged swap p hopcode hargs hreserves hrates hwidth =>
      obtain ⟨hlength, hat⟩ := eq_words_iff.mp hargs
      have hparams : pegged_params swap.args = p := by
        unfold pegged_params
        rw [hat 0 (by simp), hat 1 (by simp), hat 2 (by simp), hat 3 (by simp), hat 4 (by simp)]
        rfl
      have hne : ¬swap.opcode = OP_XYC_SWAP := by
        rw [hopcode]
        decide
      rw [curve_of]
      rw [if_neg hne, if_pos ⟨hopcode, hlength⟩, hparams,
        if_pos (in_domain_iff.mpr ⟨hreserves, hrates, hwidth⟩)]

/-! ## Classifying -/

theorem kinds_of_flat_fee {i : Instruction} (h : i.opcode = OP_FLAT_FEE) :
    is_flat_fee i = true ∧ is_curve i = false := by
  unfold is_flat_fee is_curve
  rw [h]
  decide

theorem kinds_of_curve {i : Instruction}
    (h : i.opcode ∈ [OP_XYC_SWAP, OP_XYC_CONCENTRATE, OP_PEGGED_SWAP]) :
    i.opcode ≠ OP_FLAT_FEE ∧ is_flat_fee i = false ∧ is_curve i = true := by
  unfold is_flat_fee is_curve
  simp only [List.mem_cons, List.not_mem_nil, or_false] at h
  rcases h with h | h | h <;> rw [h] <;> decide

theorem kinds_of_neutral {i : Instruction} (h : i.opcode ∈ PRICE_NEUTRAL) :
    i.opcode ≠ OP_FLAT_FEE ∧ i.opcode ∉ [OP_XYC_SWAP, OP_XYC_CONCENTRATE, OP_PEGGED_SWAP] ∧
      is_flat_fee i = false ∧ is_curve i = false := by
  unfold is_flat_fee is_curve
  simp only [PRICE_NEUTRAL, List.mem_cons, List.not_mem_nil, or_false] at h
  rcases h with h | h | h | h | h | h <;> rw [h] <;> decide

/-- The loop from any fees and curve instructions already there. -/
theorem classify_from_iff {program ixs : List Instruction} {fees : List U32} {curve : Curve}
    {fees_in_bps : List U32} :
    classify_from program fees ixs = .Priceable curve fees_in_bps ↔
      (∀ i ∈ program, is_price_neutral i ∨ is_flat_fee i ∨ is_curve i) ∧
      (∃ more, fees_in_bps = fees ++ more ∧
        List.Forall₂ FlatFee (program.filter is_flat_fee) more) ∧
      CurveShape (ixs ++ program.filter is_curve) curve := by
  induction program generalizing fees ixs with
  | nil =>
    unfold classify_from
    rw [List.filter_nil, List.filter_nil, List.append_nil, ← curve_of_iff]
    constructor
    · intro h
      split at h
      · rename_i c hc
        cases h
        exact ⟨by simp, ⟨[], (List.append_nil _).symm, .nil⟩, hc⟩
      · cases h
    · rintro ⟨-, ⟨more, rfl, hmore⟩, hc⟩
      cases hmore
      rw [hc, List.append_nil]
  | cons i program ih =>
    unfold classify_from
    by_cases hflat : i.opcode = OP_FLAT_FEE
    · obtain ⟨his_flat, hnot_curve⟩ := kinds_of_flat_fee hflat
      rw [if_pos hflat, List.filter_cons_of_pos his_flat,
        List.filter_cons_of_neg (by simp [hnot_curve])]
      constructor
      · intro h
        split at h
        · rename_i bps hbps
          obtain ⟨hkinds, ⟨more, rfl, hmore⟩, hshape⟩ := ih.mp h
          refine ⟨?_, ⟨bps :: more, by simp, .cons (parse_flat_fee_iff.mp hbps) hmore⟩, hshape⟩
          exact List.forall_mem_cons.mpr ⟨.inr (.inl his_flat), hkinds⟩
        · cases h
      · rintro ⟨hkinds, ⟨more, rfl, hmore⟩, hshape⟩
        obtain ⟨bps, rest, hbps, hrest, rfl⟩ := List.forall₂_cons_left_iff.mp hmore
        rw [parse_flat_fee_iff.mpr hbps]
        exact ih.mpr ⟨(List.forall_mem_cons.mp hkinds).2, ⟨rest, by simp, hrest⟩, hshape⟩
    · by_cases hcurve : i.opcode ∈ [OP_XYC_SWAP, OP_XYC_CONCENTRATE, OP_PEGGED_SWAP]
      · obtain ⟨-, hnot_flat, his_curve⟩ := kinds_of_curve hcurve
        rw [if_neg hflat, if_pos hcurve, List.filter_cons_of_neg (by simp [hnot_flat]),
          List.filter_cons_of_pos his_curve, ih, List.append_assoc, List.singleton_append,
          List.forall_mem_cons]
        have hkind : is_price_neutral i ∨ is_flat_fee i ∨ is_curve i := .inr (.inr his_curve)
        rw [and_iff_right hkind]
      · by_cases hneutral : i.opcode ∈ PRICE_NEUTRAL
        · obtain ⟨-, -, hnot_flat, hnot_curve⟩ := kinds_of_neutral hneutral
          have hkind : is_price_neutral i ∨ is_flat_fee i ∨ is_curve i :=
            .inl (decide_eq_true hneutral)
          rw [if_neg hflat, if_neg hcurve, if_pos hneutral,
            List.filter_cons_of_neg (by simp [hnot_flat]),
            List.filter_cons_of_neg (by simp [hnot_curve]), ih, List.forall_mem_cons,
            and_iff_right hkind]
        · rw [if_neg hflat, if_neg hcurve, if_neg hneutral]
          constructor
          · intro h
            cases h
          · rintro ⟨hkinds, -⟩
            rcases (List.forall_mem_cons.mp hkinds).1 with h | h | h
            · exact absurd (of_decide_eq_true h) hneutral
            · exact absurd (of_decide_eq_true h) hflat
            · refine absurd ?_ hcurve
              simpa [is_curve] using h

/-- A price-neutral instruction is skipped wherever it stands. -/
theorem classify_from_skip {before neutral : List Instruction}
    (hneutral : ∀ i ∈ neutral, is_price_neutral i) (after : List Instruction) (fees : List U32)
    (ixs : List Instruction) :
    classify_from (before ++ (neutral ++ after)) fees ixs = classify_from (before ++ after) fees ixs := by
  induction before generalizing fees ixs with
  | nil =>
    rw [List.nil_append, List.nil_append]
    induction neutral with
    | nil => rfl
    | cons i neutral ih =>
      obtain ⟨hi, hrest⟩ := List.forall_mem_cons.mp hneutral
      obtain ⟨hnot_flat, hnot_curve, -, -⟩ := kinds_of_neutral (of_decide_eq_true hi)
      rw [List.cons_append, classify_from, if_neg hnot_flat, if_neg hnot_curve,
        if_pos (of_decide_eq_true hi)]
      exact ih hrest
  | cons i before ih =>
    simp only [List.cons_append, classify_from, ih]

/-- **The grammar of programs.** `walk` succeeds exactly on rows of instructions and
    returns them, `classify` prices exactly the programs of the grammar, with their
    fees in order, and price-neutral instructions change nothing wherever they
    stand. -/
theorem program_grammar :
    (∀ bytes program, walk bytes = some program ↔ bytes = encode_program program) ∧
    (∀ bytes curve fees_in_bps, classify bytes = .Priceable curve fees_in_bps ↔
      ∃ program, walk bytes = some program ∧ Grammar program curve fees_in_bps) ∧
    (∀ before neutral : List Instruction, (∀ i ∈ neutral, is_price_neutral i) → ∀ rest : Bytes,
      classify (encode_program before ++ (encode_program neutral ++ rest)) =
        classify (encode_program before ++ rest)) := by
  refine ⟨fun _ _ => walk_iff, ?_, ?_⟩
  · intro bytes curve fees_in_bps
    unfold classify
    constructor
    · intro h
      split at h
      · rename_i program hwalk
        obtain ⟨hkinds, ⟨more, rfl, hmore⟩, hshape⟩ := classify_from_iff.mp h
        exact ⟨program, hwalk, hkinds, hmore, hshape⟩
      · cases h
    · rintro ⟨program, hwalk, hgrammar⟩
      rw [hwalk]
      exact classify_from_iff.mpr ⟨hgrammar.kinds, ⟨_, rfl, hgrammar.fees⟩, hgrammar.shape⟩
  · intro before neutral hneutral rest
    unfold classify
    rw [walk_append, walk_append, walk_append]
    match walk rest with
    | none => rfl
    | some after => exact classify_from_skip hneutral after [] []

/-- A salt and a taker gate before the curve. -/
example : classify [0x14, 0, 0x0E, 1, 0xAB, 0x11, 0] = .Priceable .Xyc [] := by decide +kernel

end Solvent
