import Solvent.Contracts.Policy

/-! # What a source leg hands on

    Each leg of a same-chain fill runs inside the callback of the leg before it,
    and finds the rest of the plan in the data the router hands back: the order,
    the user's signature, all the legs and the index of the next one, encoded and
    decoded anew at every leg. `decode_encode` is why nothing of the plan is lost
    on the way.
-/

namespace Solvent.Contracts

open Abi

def ExecutionKind.of_word (w : U256) : Option ExecutionKind :=
  if w = 0 then some .UserFill else if w = 1 then some .Rebate else none

@[simp] theorem ExecutionKind.of_word_word (kind : ExecutionKind) :
    ExecutionKind.of_word kind.word = some kind := by
  cases kind <;> decide

def as_uint64 : U256 → Option U64 := narrow _

@[simp] theorem as_uint64_word (n : U64) : as_uint64 (uint64_word n) = some n := narrow_widen _ _

instance : Static Authorization where
  width := 11
  to_words := Authorization.to_words
  of_words
    | [kind, nonce, contextHash, strategyHash, maker, tokenIn, tokenOut, amountOut, amountInLimit,
        rebateAmount, deadlineBlock] => do
      some {
        kind := ← ExecutionKind.of_word kind
        nonce
        contextHash
        strategyHash
        maker := ← as_address maker
        tokenIn := ← as_address tokenIn
        tokenOut := ← as_address tokenOut
        amountOut
        amountInLimit
        rebateAmount
        deadlineBlock := ← as_uint64 deadlineBlock }
    | _ => none
  length_to_words _ := rfl
  of_words_to_words a := by simp [Authorization.to_words]

/-! ## Layout -/

namespace SwapOrder

def parts (order : SwapOrder) : List Part :=
  [.here [address_word order.maker, order.traits], .bytes order.data]

def read (data : Bytes) : Option SwapOrder := do
  let [.here [maker, traits], .behind rest] ← read_slots data [some 2, none] data | none
  let maker ← as_address maker
  let data ← decode_bytes rest
  some { maker, traits, data }

theorem read_append {order : SwapOrder} (h : (tuple order.parts).length < 2 ^ 256)
    (rest : Bytes) : read (tuple order.parts ++ rest) = some order := by
  have hread := read_slots_tuple h rest
  have hshapes : order.parts.map Part.shape = [some 2, none] := rfl
  rw [hshapes] at hread
  have hdata : .bytes order.data ∈ order.parts := List.mem_of_getElem? (i := 1) rfl
  unfold read
  rw [hread]
  simp only [parts, Part.bytes, slots, Option.bind_eq_bind, Option.bind_some, as_address_word,
    decode_bytes_behind (length_behind_le hdata) h]

end SwapOrder

namespace SourceSwap

def parts (source : SourceSwap) : List Part :=
  [.behind (tuple source.order.parts), .here source.authorization.to_words,
    .bytes source.policySignature]

def read (data : Bytes) : Option SourceSwap := do
  let [.behind order, .here authorization, .behind signature] ←
    read_slots data [none, some 11, none] data | none
  let order ← SwapOrder.read order
  let authorization ← Static.of_words authorization
  let policySignature ← decode_bytes signature
  some { order, authorization, policySignature }

theorem read_append {source : SourceSwap} (h : (tuple source.parts).length < 2 ^ 256)
    (rest : Bytes) : read (tuple source.parts ++ rest) = some source := by
  have hread := read_slots_tuple h rest
  have hshapes : source.parts.map Part.shape = [none, some 11, none] := rfl
  rw [hshapes] at hread
  have horder : .behind (tuple source.order.parts) ∈ source.parts := List.mem_cons_self
  have hsignature : .bytes source.policySignature ∈ source.parts :=
    List.mem_of_getElem? (i := 2) rfl
  have hauthorization : Static.of_words source.authorization.to_words =
      some source.authorization := Static.of_words_to_words source.authorization
  unfold read
  rw [hread]
  simp only [parts, Part.bytes, slots, Option.bind_eq_bind, Option.bind_some, hauthorization,
    SwapOrder.read_append ((length_behind_le horder).trans_lt h),
    decode_bytes_behind (length_behind_le hsignature) h]

/-- The legs of an array, each behind an offset of its own. -/
def array_parts (sources : List SourceSwap) : List Part :=
  sources.map fun source => .behind (tuple source.parts)

def encode_array (sources : List SourceSwap) : Bytes :=
  word (Fin.ofNat _ sources.length) ++ tuple (array_parts sources)

def read_slot : Slot → Option SourceSwap
  | .behind rest => read rest
  | .here _ => none

def read_array (data : Bytes) : Option (List SourceSwap) := do
  let count ← read_word data
  let body := data.drop 32
  let slots ← read_slots body (List.replicate count.val none) body
  slots.mapM read_slot

theorem mapM_read_slot {sources : List SourceSwap}
    (h : ∀ source ∈ sources, (tuple source.parts).length < 2 ^ 256) (suffix : Bytes) :
    (slots suffix (array_parts sources)).mapM read_slot = some sources := by
  induction sources with
  | nil => rfl
  | cons source sources ih =>
    have hsource := h source List.mem_cons_self
    have hrest := ih fun s hs => h s (List.mem_cons_of_mem _ hs)
    show (Slot.behind (tuple source.parts ++ _) :: slots suffix (array_parts sources)).mapM
      read_slot = _
    simp only [List.mapM_cons, read_slot, read_append hsource, hrest, Option.bind_eq_bind,
      Option.bind_some, Option.pure_def]

/-- Every leg takes an offset at least. -/
theorem length_le_encode_array (sources : List SourceSwap) :
    sources.length ≤ (encode_array sources).length := by
  have hwidths : (array_parts sources).map Part.width = List.replicate sources.length 32 := by
    unfold array_parts
    rw [List.map_map]
    exact List.map_const'
  unfold encode_array
  rw [List.length_append, length_tuple, hwidths, List.sum_replicate, smul_eq_mul]
  omega

theorem read_array_append {sources : List SourceSwap}
    (h : (encode_array sources).length < 2 ^ 256) (rest : Bytes) :
    read_array (encode_array sources ++ rest) = some sources := by
  have hcount := (length_le_encode_array sources).trans_lt h
  have hval : (Fin.ofNat (2 ^ 256) sources.length).val = sources.length := Nat.mod_eq_of_lt hcount
  have htuple : (tuple (array_parts sources)).length < 2 ^ 256 := by
    unfold encode_array at h
    rw [List.length_append] at h
    omega
  have hshapes : (array_parts sources).map Part.shape = List.replicate sources.length none := by
    unfold array_parts
    rw [List.map_map]
    exact List.map_const'
  have hread := read_slots_tuple htuple rest
  rw [hshapes] at hread
  have hlegs : ∀ source ∈ sources, (tuple source.parts).length < 2 ^ 256 := by
    intro source hsource
    have hpart : Part.behind (tuple source.parts) ∈ array_parts sources :=
      List.mem_map_of_mem hsource
    exact (length_behind_le hpart).trans_lt htuple
  unfold read_array encode_array
  rw [List.append_assoc]
  simp only [read_word_append, drop_word_append, hval, hread, Option.bind_eq_bind,
    Option.bind_some, mapM_read_slot hlegs]

end SourceSwap

/-! ## The continuation -/

/-- What a leg's callback is given. -/
structure Continuation where
  orderData : Bytes
  permitSignature : Bytes
  sources : List SourceSwap
  next : U256

namespace Continuation

def parts (c : Continuation) : List Part :=
  [.bytes c.orderData, .bytes c.permitSignature, .behind (SourceSwap.encode_array c.sources),
    .here [c.next]]

/-- `abi.encode(orderData, permitSignature, sources, next)`; what does not fit the
    memory of a call panics. -/
def abi_encode (c : Continuation) : Option Bytes :=
  if (tuple c.parts).length < 2 ^ 64 then some (tuple c.parts) else none

/-- `abi.decode(takerData, (bytes, bytes, SourceSwap[], uint256))` -/
def abi_decode (takerData : Bytes) : Option Continuation := do
  let [.behind orderData, .behind permitSignature, .behind sources, .here [next]] ←
    read_slots takerData [none, none, none, some 1] takerData | none
  let orderData ← decode_bytes orderData
  let permitSignature ← decode_bytes permitSignature
  let sources ← SourceSwap.read_array sources
  some { orderData, permitSignature, sources, next }

/-- **Round trip.** -/
theorem decode_encode {c : Continuation} {takerData : Bytes} (h : c.abi_encode = some takerData) :
    abi_decode takerData = some c := by
  unfold abi_encode at h
  split at h
  case isFalse => cases h
  rename_i hfits
  obtain rfl := Option.some.inj h
  have hlt : (tuple c.parts).length < 2 ^ 256 := hfits.trans (by norm_num)
  have hread := read_slots_tuple hlt []
  have hshapes : c.parts.map Part.shape = [none, none, none, some 1] := rfl
  rw [hshapes, List.append_nil] at hread
  have horder : .bytes c.orderData ∈ c.parts := List.mem_cons_self
  have hpermit : .bytes c.permitSignature ∈ c.parts := List.mem_of_getElem? (i := 1) rfl
  have hsources : .behind (SourceSwap.encode_array c.sources) ∈ c.parts :=
    List.mem_of_getElem? (i := 2) rfl
  have harray := (length_behind_le hsources).trans_lt hlt
  unfold abi_decode
  rw [hread]
  simp only [parts, Part.bytes, slots, Option.bind_eq_bind, Option.bind_some,
    decode_bytes_behind (length_behind_le horder) hlt,
    decode_bytes_behind (length_behind_le hpermit) hlt,
    SourceSwap.read_array_append harray]

end Continuation

end Solvent.Contracts
