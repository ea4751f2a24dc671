import Mathlib
import Solvent.Framework.Encoding
import Solvent.Crosschain.Saga

/-! # What a quote id fixes

    The id of a leg is the hash of its fields, the id of an aggregate that of its
    two leg ids and its CCTP terms. The fields are laid out one after another, so
    equal texts have equal fields; the number of sources is read off the length.
-/

namespace Solvent

open Encoding SwapService

/-! ## Fields -/

theorem to_be_bytes_eq (width value : ℕ) : to_be_bytes width value = big_endian width value := by
  induction width with
  | zero => rfl
  | succ width ih =>
    rw [big_endian, ← ih]
    simp [to_be_bytes, List.range_succ]

theorem fixed_bytes {width bound : ℕ} (h : bound ≤ 256 ^ width) :
    Fixed (fun value : Fin bound => to_be_bytes width value) width := by
  simp only [to_be_bytes_eq]
  exact fixed_big_endian h

/-- A 256-bit word or hash. -/
theorem fixed_word : Fixed (fun value : Fin (2 ^ 256) => to_be_bytes 32 value) 32 :=
  fixed_bytes (by norm_num)

theorem fixed_address : Fixed (fun value : Address => to_be_bytes 20 value) 20 :=
  fixed_bytes (by norm_num)

theorem fixed_u64 : Fixed (fun value : U64 => to_be_bytes 8 value) 8 :=
  fixed_bytes (by norm_num)

theorem fixed_u32 : Fixed (fun value : U32 => to_be_bytes 4 value) 4 :=
  fixed_bytes (by norm_num)

theorem fixed_chain : Fixed (fun chain : ChainId => to_be_bytes 8 chain.id) 8 := by
  refine fixed_u64.comp ?_
  intro a b h
  cases a
  cases b
  exact congrArg ChainId.mk h

theorem fixed_role : Fixed (fun role : LegRole => [role.as_u8]) 1 := by
  refine Fixed.symbol ?_
  intro a b h
  cases a <;> cases b <;> first | rfl | exact absurd h (by decide)

theorem fixed_route : Fixed (fun route : CrossChainRoute => [route.as_u8]) 1 := by
  refine Fixed.symbol ?_
  intro a b h
  cases a <;> cases b <;> first | rfl | exact absurd h (by decide)

/-- One source of capital. -/
theorem fixed_source : Fixed (fun source : ReservationSource =>
    to_be_bytes 20 source.maker.address ++ to_be_bytes 32 source.strategy_hash.hash ++
      to_be_bytes 20 source.token ++ to_be_bytes 32 source.amount) 104 := by
  refine (((fixed_address.pair fixed_word).pair fixed_address).pair fixed_word).comp
    (f := fun source : ReservationSource =>
      (((source.maker.address, source.strategy_hash.hash), source.token), source.amount)) ?_
  intro a b h
  obtain ⟨⟨maker⟩, ⟨hash⟩, token, amount⟩ := a
  obtain ⟨⟨maker'⟩, ⟨hash'⟩, token', amount'⟩ := b
  simp_all

/-! ## Texts -/

/-- What `leg_quote_id` hashes. -/
def leg_bytes (quote : LegQuote) : List UInt8 :=
  to_be_bytes 32 quote.request_id ++ [quote.role.as_u8] ++
    to_be_bytes 8 quote.local_chain.id ++ to_be_bytes 8 quote.remote_chain.id ++
    to_be_bytes 20 quote.input_token ++ to_be_bytes 20 quote.output_token ++
    to_be_bytes 32 quote.amount_in ++ to_be_bytes 32 quote.amount_out ++
    [quote.route.as_u8] ++ to_be_bytes 8 quote.block_number ++
    to_be_bytes 8 quote.expires_at_unix ++ to_be_bytes 8 quote.sources.length ++
    quote.sources.flatMap fun source =>
      to_be_bytes 20 source.maker.address ++ to_be_bytes 32 source.strategy_hash.hash ++
        to_be_bytes 20 source.token ++ to_be_bytes 32 source.amount

/-- What `aggregate_id` hashes. -/
def aggregate_bytes (quote : AggregateQuote) : List UInt8 :=
  to_be_bytes 32 quote.origin.quote_id ++ to_be_bytes 32 quote.destination.quote_id ++
    to_be_bytes 32 quote.bridge_fee ++ to_be_bytes 4 (quote.cctp_finality_threshold.getD 0)

/-- The texts hashed for one aggregate. -/
def hashed_texts (quote : AggregateQuote) : List (List UInt8) :=
  [aggregate_bytes quote, leg_bytes quote.origin, leg_bytes quote.destination]

theorem leg_quote_id_eq (keccak256 : List UInt8 → B256) (quote : LegQuote) :
    leg_quote_id keccak256 quote = keccak256 (leg_bytes quote) := rfl

theorem aggregate_id_eq (keccak256 : List UInt8 → B256) (quote : AggregateQuote) :
    aggregate_id keccak256 quote.origin quote.destination quote.bridge_fee
      quote.cctp_finality_threshold = ⟨keccak256 (aggregate_bytes quote)⟩ := rfl

/-- **A leg's text fixes the leg**, its own id apart. -/
theorem leg_bytes_inj {q q' : LegQuote} (h : leg_bytes q = leg_bytes q')
    (hid : q.quote_id = q'.quote_id) : q = q' := by
  unfold leg_bytes at h
  simp only [List.append_assoc] at h
  obtain ⟨hrequest, h⟩ := fixed_word.append_inj h
  obtain ⟨hrole, h⟩ := fixed_role.append_inj h
  obtain ⟨hlocal, h⟩ := fixed_chain.append_inj h
  obtain ⟨hremote, h⟩ := fixed_chain.append_inj h
  obtain ⟨hinput, h⟩ := fixed_address.append_inj h
  obtain ⟨houtput, h⟩ := fixed_address.append_inj h
  obtain ⟨hin, h⟩ := fixed_word.append_inj h
  obtain ⟨hout, h⟩ := fixed_word.append_inj h
  obtain ⟨hroute, h⟩ := fixed_route.append_inj h
  obtain ⟨hblock, h⟩ := fixed_u64.append_inj h
  obtain ⟨hexpires, h⟩ := fixed_u64.append_inj h
  -- The length prefix may wrap; the sources are determined without it.
  have hprefix : (to_be_bytes 8 q.sources.length).length =
      (to_be_bytes 8 q'.sources.length).length := by
    rw [to_be_bytes_eq, to_be_bytes_eq, length_big_endian, length_big_endian]
  obtain ⟨_, hsources⟩ := List.append_inj h hprefix
  have hlist : q.sources = q'.sources := by
    apply fixed_source.flatMap_injective (by norm_num)
    simpa only [List.append_assoc] using hsources
  cases q
  cases q'
  simp_all

/-! ## Ids -/

variable {keccak256 : List UInt8 → B256}

/-- A leg that carries its own fingerprint. -/
theorem leg_eq_of_id {q q' : LegQuote} (hq : q.quote_id = leg_quote_id keccak256 q)
    (hq' : q'.quote_id = leg_quote_id keccak256 q')
    (hinj : keccak256 (leg_bytes q) = keccak256 (leg_bytes q') → leg_bytes q = leg_bytes q')
    (hid : q.quote_id = q'.quote_id) : q = q' := by
  refine leg_bytes_inj (hinj ?_) hid
  rw [leg_quote_id_eq] at hq hq'
  rw [← hq, ← hq', hid]

/-- What the binding check says of a quote that passes it. -/
structure Bound (keccak256 : List UInt8 → B256) (quote : AggregateQuote) (now_unix : U64) :
    Prop where
  id : quote.id = aggregate_id keccak256 quote.origin quote.destination quote.bridge_fee
    quote.cctp_finality_threshold
  origin_id : quote.origin.quote_id = leg_quote_id keccak256 quote.origin
  destination_id : quote.destination.quote_id = leg_quote_id keccak256 quote.destination
  origin_role : quote.origin.role = .Origin
  destination_role : quote.destination.role = .Destination
  chains_differ : quote.origin.local_chain ≠ quote.destination.local_chain
  origin_remote : quote.origin.local_chain = quote.destination.remote_chain
  destination_remote : quote.origin.remote_chain = quote.destination.local_chain
  request_id : quote.origin.request_id = quote.destination.request_id
  route : quote.origin.route = quote.destination.route
  amount_in : quote.amount_in = quote.origin.amount_in
  amount_out : quote.amount_out = quote.destination.amount_out
  expires_at_unix : quote.expires_at_unix =
    min quote.origin.expires_at_unix quote.destination.expires_at_unix
  amount_in_ne_zero : quote.amount_in ≠ 0
  amount_out_ne_zero : quote.amount_out ≠ 0
  terms : validate_route quote = .ok ()
  unexpired : now_unix < quote.expires_at_unix

theorem validate_aggregate_binding_iff {quote : AggregateQuote} {now_unix : U64} :
    validate_aggregate_binding keccak256 quote now_unix = .ok () ↔
      Bound keccak256 quote now_unix := by
  unfold validate_aggregate_binding
  constructor
  · intro h
    split at h
    · cases h
    · rename_i hcompatible
      obtain ⟨h₁, h₂, h₃, h₄, h₅, h₆, h₇, h₈, h₉, h₁₀, h₁₁, h₁₂, h₁₃, h₁₄, h₁₅⟩ :=
        not_not.mp hcompatible
      split at h
      · cases h
      · rename_i hterms
        split at h
        · cases h
        · rename_i hexpired
          exact ⟨h₁, h₂, h₃, h₄, h₅, h₆, h₇, h₈, h₉, h₁₀, h₁₁, h₁₂, h₁₃, h₁₄, h₁₅, hterms,
            not_le.mp hexpired⟩
  · intro h
    rw [if_neg (not_not.mpr ⟨h.id, h.origin_id, h.destination_id, h.origin_role,
      h.destination_role, h.chains_differ, h.origin_remote, h.destination_remote, h.request_id,
      h.route, h.amount_in, h.amount_out, h.expires_at_unix, h.amount_in_ne_zero,
      h.amount_out_ne_zero⟩), h.terms]
    exact if_neg (not_le.mpr h.unexpired)

/-- A direct quote has no threshold, a CCTP quote has one. -/
theorem threshold_of_terms {quote : AggregateQuote} (h : validate_route quote = .ok ()) :
    quote.cctp_finality_threshold.isSome = decide (quote.origin.route = .Cctp) := by
  unfold validate_route at h
  match hroute : quote.origin.route with
  | .Direct =>
    rw [hroute] at h
    dsimp only at h
    split at h
    · cases h
    · rename_i hterms
      simpa using (not_or.mp hterms).2
  | .Cctp =>
    rw [hroute] at h
    dsimp only at h
    split at h
    · cases h
    · split at h
      · cases h
      · rename_i hterms
        have hsome := (not_or.mp hterms).1
        cases hthreshold : quote.cctp_finality_threshold with
        | none => simp [hthreshold] at hsome
        | some threshold => rfl

/-- **An aggregate id fixes every term.** Of two quotes that pass the binding
    check, at any times, equal ids mean equal quotes, when the hash tells the six
    texts apart. -/
theorem aggregate_id_fixes_terms (keccak256 : List UInt8 → B256) (q q' : AggregateQuote)
    (now_unix now_unix' : U64)
    (hinj : ∀ text ∈ hashed_texts q, ∀ text' ∈ hashed_texts q',
      keccak256 text = keccak256 text' → text = text')
    (hq : validate_aggregate_binding keccak256 q now_unix = .ok ())
    (hq' : validate_aggregate_binding keccak256 q' now_unix' = .ok ()) (hid : q.id = q'.id) :
    q = q' := by
  rw [validate_aggregate_binding_iff] at hq hq'
  have hbytes : aggregate_bytes q = aggregate_bytes q' := by
    apply hinj _ (by simp [hashed_texts]) _ (by simp [hashed_texts])
    have heq := hq.id.symm.trans (hid.trans hq'.id)
    rw [aggregate_id_eq, aggregate_id_eq] at heq
    exact AggregateQuoteId.mk.inj heq
  unfold aggregate_bytes at hbytes
  simp only [List.append_assoc] at hbytes
  obtain ⟨horigin_id, hbytes⟩ := fixed_word.append_inj hbytes
  obtain ⟨hdestination_id, hbytes⟩ := fixed_word.append_inj hbytes
  obtain ⟨hfee, hthreshold⟩ := fixed_word.append_inj hbytes
  have hthreshold : q.cctp_finality_threshold.getD 0 = q'.cctp_finality_threshold.getD 0 :=
    fixed_u32.injective hthreshold
  have horigin : q.origin = q'.origin :=
    leg_eq_of_id hq.origin_id hq'.origin_id
      (hinj _ (by simp [hashed_texts]) _ (by simp [hashed_texts])) horigin_id
  have hdestination : q.destination = q'.destination :=
    leg_eq_of_id hq.destination_id hq'.destination_id
      (hinj _ (by simp [hashed_texts]) _ (by simp [hashed_texts])) hdestination_id
  -- The route says whether there is a threshold, so the default is not ambiguous.
  have hsome : q.cctp_finality_threshold.isSome = q'.cctp_finality_threshold.isSome := by
    rw [threshold_of_terms hq.terms, threshold_of_terms hq'.terms, horigin]
  have hterms : q.cctp_finality_threshold = q'.cctp_finality_threshold := by
    match ht : q.cctp_finality_threshold, ht' : q'.cctp_finality_threshold with
    | none, none => rfl
    | some a, some b => simpa [ht, ht'] using hthreshold
    | none, some b => simp [ht, ht'] at hsome
    | some a, none => simp [ht, ht'] at hsome
  have hamount_in := hq.amount_in.trans ((congrArg LegQuote.amount_in horigin).trans
    hq'.amount_in.symm)
  have hamount_out := hq.amount_out.trans ((congrArg LegQuote.amount_out hdestination).trans
    hq'.amount_out.symm)
  have hexpires : q.expires_at_unix = q'.expires_at_unix := by
    rw [hq.expires_at_unix, hq'.expires_at_unix, horigin, hdestination]
  cases q
  cases q'
  simp_all

/-! ## A sample aggregate -/

/-- A hash that tells short texts apart. -/
def text_hash (bytes : List UInt8) : B256 :=
  Fin.ofNat _ (bytes.foldl (fun h b => 257 * h + b.toNat + 1) 0)

/-- The leg with its own fingerprint. -/
def fingerprinted (keccak256 : List UInt8 → B256) (leg : LegQuote) : LegQuote :=
  { leg with quote_id := leg_quote_id keccak256 leg }

/-- A leg between the chains 1 and 10 that expires at 100. -/
def sample_leg (role : LegRole) (route : CrossChainRoute) (amount_in amount_out : U256) : LegQuote :=
  fingerprinted text_hash
    { quote_id := 0
      request_id := 9
      role
      local_chain := if role = .Origin then ⟨1⟩ else ⟨10⟩
      remote_chain := if role = .Origin then ⟨10⟩ else ⟨1⟩
      input_token := 5
      output_token := 6
      amount_in
      amount_out
      route
      block_number := 10
      expires_at_unix := 100
      sources := [{ maker := ⟨1⟩, strategy_hash := ⟨1⟩, token := 6, amount := amount_out }] }

/-- A direct aggregate of two legs. -/
def sample_direct (origin destination : LegQuote) : AggregateQuote :=
  { id := aggregate_id text_hash origin destination 0 none
    origin
    destination
    amount_in := origin.amount_in
    amount_out := destination.amount_out
    bridge_fee := 0
    cctp_finality_threshold := none
    expires_at_unix := 100 }

theorem aggregate_id_fixes_terms_sample :
    let quote := sample_direct (sample_leg .Origin .Direct 100 95)
      (sample_leg .Destination .Direct 95 90)
    quote = quote :=
  aggregate_id_fixes_terms text_hash _ _ 10 20 (by decide +kernel) (by decide +kernel)
    (by decide +kernel) rfl

end Solvent
