import Mathlib
import Solvent.Crosschain.Fingerprint
import Solvent.Crosschain.Lifecycle
import Solvent.Crosschain.Proxy

/-! # Joining two leg quotes

    The proxy asks each chain for its leg and joins the two promises. What it
    issues is checked again at admission, at the start of the order, and by the
    service of each chain: four conjunctions over the same fields. This module
    compares them.
-/

namespace Solvent

open BTreeMap

/-! ## Building -/

/-- What `aggregate_quote` asks of two legs. -/
def compatible (keccak256 : List UInt8 → B256) (origin destination : LegQuote) : Prop :=
  origin.quote_id = leg_quote_id keccak256 origin ∧
    destination.quote_id = leg_quote_id keccak256 destination ∧
    origin.role = .Origin ∧ destination.role = .Destination ∧
    origin.local_chain ≠ destination.local_chain ∧
    origin.local_chain = destination.remote_chain ∧
    origin.remote_chain = destination.local_chain ∧
    origin.request_id = destination.request_id ∧ origin.route = destination.route ∧
    origin.amount_in ≠ 0 ∧ origin.amount_out ≠ 0 ∧
    destination.amount_in ≠ 0 ∧ destination.amount_out ≠ 0 ∧
    (origin.route ≠ .Cctp ∨ destination.amount_in ≤ origin.amount_out)

instance (keccak256 : List UInt8 → B256) (origin destination : LegQuote) :
    Decidable (compatible keccak256 origin destination) :=
  inferInstanceAs (Decidable (_ ∧ _))

/-- The aggregate of two legs, without CCTP terms. -/
def joined (keccak256 : List UInt8 → B256) (origin destination : LegQuote) : AggregateQuote :=
  { id := aggregate_id keccak256 origin destination 0 none
    origin
    destination
    amount_in := origin.amount_in
    amount_out := destination.amount_out
    bridge_fee := 0
    cctp_finality_threshold := none
    expires_at_unix := min origin.expires_at_unix destination.expires_at_unix }

def aggregate_quote (keccak256 : List UInt8 → B256) (origin destination : LegQuote)
    (now_unix : U64) : Except SolventError AggregateQuote :=
  if ¬ compatible keccak256 origin destination then
    .error (.InvalidCrossChain "origin and destination quotes are incompatible")
  else if min origin.expires_at_unix destination.expires_at_unix ≤ now_unix then
    .error (.InvalidCrossChain "aggregate quote has expired")
  else .ok (joined keccak256 origin destination)

/-- What the proxy's `quote` asks its ports for: the two legs, and the CCTP terms
    of a repayment where CCTP is configured. -/
structure AggregateReads where
  origin : Except RemoteSolventError LegQuote
  destination : Except RemoteSolventError LegQuote
  cctp : Option (U256 → Except CctpCompletionError CctpQuoteTerms)

/-- The CCTP terms of an aggregate; the id is computed again. -/
def with_cctp_terms (keccak256 : List UInt8 → B256) (aggregate : AggregateQuote)
    (terms : CctpQuoteTerms) : AggregateQuote :=
  { aggregate with
    bridge_fee := terms.max_fee
    cctp_finality_threshold := some terms.finality_threshold
    id := aggregate_id keccak256 aggregate.origin aggregate.destination terms.max_fee
      (some terms.finality_threshold) }

/-- The CCTP half of `quote`. -/
def price_bridge (keccak256 : List UInt8 → B256)
    (cctp : Option (U256 → Except CctpCompletionError CctpQuoteTerms))
    (aggregate : AggregateQuote) : Except SolventError AggregateQuote :=
  match cctp with
  | none => .error (.InvalidCrossChain "CCTP route is not configured")
  | some quote_terms =>
    match quote_terms aggregate.destination.amount_in with
    | .error e => .error (.CctpCompletion e)
    | .ok terms =>
      match aggregate.destination.amount_in.checked_add terms.max_fee with
      | none => .error (.InvalidCrossChain "CCTP repayment plus fee exceeds uint256")
      | some required =>
        if aggregate.origin.amount_out < required then
          .error (.InvalidCrossChain
            "origin quote does not cover destination repayment and CCTP fee")
        else .ok (with_cctp_terms keccak256 aggregate terms)

/-- `CrossChainProxy::quote`, on the answers of the two services. -/
def proxy_quote (keccak256 : List UInt8 → B256) (reads : AggregateReads) (now_unix : U64) :
    Except SolventError AggregateQuote :=
  match reads.origin, reads.destination with
  | .error e, _ => .error (.RemoteSolvent e)
  | _, .error e => .error (.RemoteSolvent e)
  | .ok origin, .ok destination =>
    match aggregate_quote keccak256 origin destination now_unix with
    | .error e => .error e
    | .ok aggregate =>
      match aggregate.origin.route with
      | .Direct => .ok aggregate
      | .Cctp => price_bridge keccak256 reads.cctp aggregate

section Building

variable {keccak256 : List UInt8 → B256} {origin destination : LegQuote} {now_unix : U64}
variable {quote : AggregateQuote}

/-- What `aggregate_quote` builds. -/
theorem aggregate_quote_ok (h : aggregate_quote keccak256 origin destination now_unix = .ok quote) :
    compatible keccak256 origin destination ∧ now_unix < quote.expires_at_unix ∧
      quote = joined keccak256 origin destination := by
  unfold aggregate_quote at h
  split at h
  · cases h
  · rename_i hcompatible
    split at h
    · cases h
    · rename_i hexpired
      obtain rfl := Except.ok.inj h
      exact ⟨not_not.mp hcompatible, not_le.mp hexpired, rfl⟩

/-- Two joined legs pass the binding check, whatever the CCTP terms put on top,
    if those suit the route. -/
theorem bound_of_compatible (hlegs : compatible keccak256 quote.origin quote.destination)
    (hid : quote.id = aggregate_id keccak256 quote.origin quote.destination quote.bridge_fee
      quote.cctp_finality_threshold)
    (hin : quote.amount_in = quote.origin.amount_in)
    (hout : quote.amount_out = quote.destination.amount_out)
    (hexpires : quote.expires_at_unix =
      min quote.origin.expires_at_unix quote.destination.expires_at_unix)
    (hterms : validate_route quote = .ok ()) (hnow : now_unix < quote.expires_at_unix) :
    Bound keccak256 quote now_unix := by
  obtain ⟨ho, hd, hor, hdr, hne, hrem, hrem', hreq, hroute, hin0, -, -, hout0, -⟩ := hlegs
  refine ⟨hid, ho, hd, hor, hdr, hne, hrem, hrem', hreq, hroute, hin, hout, hexpires, ?_, ?_,
    hterms, hnow⟩
  · rw [hin]
    exact hin0
  · rw [hout]
    exact hout0

/-- What a priced bridge says. -/
theorem price_bridge_ok {cctp : Option (U256 → Except CctpCompletionError CctpQuoteTerms)}
    {aggregate : AggregateQuote} (h : price_bridge keccak256 cctp aggregate = .ok quote) :
    ∃ quote_terms terms required, cctp = some quote_terms ∧
      quote_terms aggregate.destination.amount_in = .ok terms ∧
      aggregate.destination.amount_in.checked_add terms.max_fee = some required ∧
      required ≤ aggregate.origin.amount_out ∧
      quote = with_cctp_terms keccak256 aggregate terms := by
  unfold price_bridge at h
  match hcctp : cctp with
  | none => simp at h
  | some quote_terms =>
    match hterms : quote_terms aggregate.destination.amount_in with
    | .error e => simp [hterms] at h
    | .ok terms =>
      simp only [hterms] at h
      match hsum : aggregate.destination.amount_in.checked_add terms.max_fee with
      | none => simp [hsum] at h
      | some required =>
        simp only [hsum] at h
        split at h
        · cases h
        · rename_i hcovers
          exact ⟨quote_terms, terms, required, rfl, hterms, hsum, not_lt.mp hcovers,
            (Except.ok.inj h).symm⟩

end Building

/-! ## What is admitted can be built -/

/-- The builder, given an aggregate's two legs, returns that aggregate: all of it
    on the direct route, all but the CCTP terms and the id on the other. -/
def Buildable (keccak256 : List UInt8 → B256) (quote : AggregateQuote) (now_unix : U64) : Prop :=
  ∃ built, aggregate_quote keccak256 quote.origin quote.destination now_unix = .ok built ∧
    built = { quote with
      id := built.id
      bridge_fee := built.bridge_fee
      cctp_finality_threshold := built.cctp_finality_threshold } ∧
    (quote.origin.route = .Direct → built = quote)

/-- **Admission and building** differ on two amounts only: an admitted aggregate
    can be built exactly when neither of the amounts repaid and priced is zero. -/
theorem admitted_is_buildable_iff (keccak256 : List UInt8 → B256) (quote : AggregateQuote)
    (now_unix : U64) (h : validate_aggregate_binding keccak256 quote now_unix = .ok ()) :
    Buildable keccak256 quote now_unix ↔
      quote.origin.amount_out ≠ 0 ∧ quote.destination.amount_in ≠ 0 := by
  rw [validate_aggregate_binding_iff] at h
  constructor
  · rintro ⟨built, hbuilt, -, -⟩
    obtain ⟨hlegs, -, -⟩ := aggregate_quote_ok hbuilt
    obtain ⟨-, -, -, -, -, -, -, -, -, -, hout, hin, -, -⟩ := hlegs
    exact ⟨hout, hin⟩
  · rintro ⟨hout, hin⟩
    -- The route's own check covers the comparison the builder makes.
    have hcovers : quote.origin.route ≠ .Cctp ∨
        quote.destination.amount_in ≤ quote.origin.amount_out := by
      match hroute : quote.origin.route with
      | .Direct => exact .inl (by decide)
      | .Cctp =>
        right
        have hterms := h.terms
        unfold validate_route at hterms
        rw [hroute] at hterms
        dsimp only at hterms
        split at hterms
        · cases hterms
        · rename_i required hsum
          split at hterms
          · cases hterms
          · rename_i hcovers
            have hle := not_lt.mp (not_or.mp hcovers).2
            rw [U256.checked_add_eq_some] at hsum
            rw [Fin.le_def] at hle ⊢
            omega
    have hlegs : compatible keccak256 quote.origin quote.destination := by
      refine ⟨h.origin_id, h.destination_id, h.origin_role, h.destination_role, h.chains_differ,
        h.origin_remote, h.destination_remote, h.request_id, h.route, ?_, hout, hin, ?_, hcovers⟩
      · rw [← h.amount_in]
        exact h.amount_in_ne_zero
      · rw [← h.amount_out]
        exact h.amount_out_ne_zero
    have hexpired : ¬ min quote.origin.expires_at_unix quote.destination.expires_at_unix ≤
        now_unix := by
      rw [← h.expires_at_unix]
      exact not_le.mpr h.unexpired
    refine ⟨joined keccak256 quote.origin quote.destination, ?_, ?_, ?_⟩
    · unfold aggregate_quote
      rw [if_neg (not_not.mpr hlegs)]
      exact if_neg hexpired
    · obtain ⟨id, origin, destination, amount_in, amount_out, fee, threshold, expires⟩ := quote
      have h₁ := h.amount_in
      have h₂ := h.amount_out
      have h₃ := h.expires_at_unix
      simp_all [joined]
    · intro hroute
      have hterms := h.terms
      unfold validate_route at hterms
      rw [hroute] at hterms
      dsimp only at hterms
      split at hterms
      · cases hterms
      · rename_i hfree
        obtain ⟨hfee, hthreshold⟩ := not_or.mp hfree
        have hid := h.id
        have h₁ := h.amount_in
        have h₂ := h.amount_out
        have h₃ := h.expires_at_unix
        obtain ⟨id, origin, destination, amount_in, amount_out, fee, threshold, expires⟩ := quote
        simp_all [joined]

/-- A direct aggregate that prices its destination leg on nothing. -/
def unfunded_quote : AggregateQuote :=
  sample_direct (sample_leg .Origin .Direct 100 95) (sample_leg .Destination .Direct 0 90)

/-- It is admitted, and the builder refuses its legs. -/
theorem unfunded_quote_is_admitted :
    validate_aggregate_binding text_hash unfunded_quote 10 = .ok () ∧
      aggregate_quote text_hash unfunded_quote.origin unfunded_quote.destination 10 =
        .error (.InvalidCrossChain "origin and destination quotes are incompatible") := by
  decide +kernel

theorem funded_quote_is_buildable :
    let quote := sample_direct (sample_leg .Origin .Direct 100 95)
      (sample_leg .Destination .Direct 95 90)
    Buildable text_hash quote 10 ↔
      quote.origin.amount_out ≠ 0 ∧ quote.destination.amount_in ≠ 0 :=
  admitted_is_buildable_iff text_hash _ 10 (by decide +kernel)

/-! ## What is issued is admitted -/

namespace LocalCrossChainService

variable {keccak256 : List UInt8 → B256}

/-- A service that still has every quote of `s`. -/
structure KeepsQuotes (s s' : LocalCrossChainService) : Prop where
  chain_id : s'.chain_id = s.chain_id
  quotes : ∀ (id : B256) (quote : LegQuote), s.quotes[id]? = some quote → s'.quotes[id]? = some quote

theorem KeepsQuotes.of_quotes {s s' : LocalCrossChainService} (hchain : s'.chain_id = s.chain_id)
    (hquotes : s'.quotes = s.quotes) : s.KeepsQuotes s' := by
  refine ⟨hchain, ?_⟩
  intro id quote hquote
  rw [hquotes]
  exact hquote

/-- What an insert leaves in the table. -/
theorem insert_quote_keeps (quotes : BTreeMap B256 LegQuote) (quote : LegQuote) {id : B256}
    {stored : LegQuote} (h : quotes[id]? = some stored) :
    (insert_quote quotes quote).2[id]? = some stored := by
  unfold insert_quote
  split
  · exact h
  · split
    · split
      · exact h
      · exact h
    · rename_i hnone
      show (quotes.insert quote.quote_id quote)[id]? = some stored
      rw [get_insert]
      split
      · rename_i hid
        rw [← hid, hnone] at h
        cases h
      · exact h

theorem quote_keeps (s : LocalCrossChainService) (reads : QuoteReads) (request : LegQuoteRequest) :
    s.KeepsQuotes (s.quote reads request).2 := by
  have hsame : s.KeepsQuotes s := ⟨rfl, fun _ _ h => h⟩
  unfold quote
  split
  · exact hsame
  split
  · exact hsame
  split
  · exact hsame
  split
  · exact hsame
  · exact ⟨rfl, fun id stored h => insert_quote_keeps _ _ h⟩

theorem insert_keeps (s : LocalCrossChainService) (p : Preparation) : s.KeepsQuotes (s.insert p).2 :=
  ⟨rfl, fun _ _ h => h⟩

theorem reserve_keeps (s : LocalCrossChainService) (reads : PrepareReads) (p : Preparation)
    (quote : LegQuote) : s.KeepsQuotes (s.reserve reads p quote).2 := by
  rw [reserve_eq]
  exact ⟨rfl, fun _ _ h => h⟩

theorem KeepsQuotes.trans {s s' s'' : LocalCrossChainService} (h : s.KeepsQuotes s') (h' : s'.KeepsQuotes s'') :
    s.KeepsQuotes s'' :=
  ⟨h'.chain_id.trans h.chain_id, fun id quote hq => h'.quotes id quote (h.quotes id quote hq)⟩

theorem prepare_keeps (s : LocalCrossChainService) (reads : PrepareReads)
    (aggregate_id : AggregateQuoteId) (quote : LegQuote) :
    s.KeepsQuotes (s.prepare keccak256 reads aggregate_id quote).2 := by
  have hsame : s.KeepsQuotes s := ⟨rfl, fun _ _ h => h⟩
  unfold prepare
  split
  · exact hsame
  split
  · exact hsame
  · dsimp only
    have hreserve := reserve_keeps s reads (s.preparation_of keccak256 aggregate_id quote) quote
    match hanswer : s.reserve reads (s.preparation_of keccak256 aggregate_id quote) quote with
    | (.error e, s') =>
      rw [hanswer] at hreserve
      exact hreserve
    | (.ok (), s') =>
      rw [hanswer] at hreserve
      exact hreserve.trans (insert_keeps s' _)

theorem half_keeps (s : LocalCrossChainService) (op : Operation) (token : PrepareToken) :
    s.KeepsQuotes (s.half op token).2 := by
  have hsame : s.KeepsQuotes s := ⟨rfl, fun _ _ h => h⟩
  unfold half
  split
  · exact hsame
  split
  · exact hsame
  · exact ⟨rfl, fun _ _ h => h⟩

theorem finish_keeps (s : LocalCrossChainService) (p : Preparation) : s.KeepsQuotes (s.finish p).2 := by
  unfold finish
  split
  · exact ⟨rfl, fun _ _ h => h⟩
  · exact ⟨rfl, fun _ _ h => h⟩

theorem perform_keeps (s : LocalCrossChainService) (op : Operation) (token : PrepareToken) :
    s.KeepsQuotes (s.perform op token).2 := by
  have hhalf := half_keeps s op token
  unfold perform
  match hanswer : s.half op token with
  | (.error e, s') =>
    rw [hanswer] at hhalf
    exact hhalf
  | (.ok p, s') =>
    rw [hanswer] at hhalf
    exact hhalf.trans (finish_keeps s' p)

theorem prepare_ledger_keeps (s : LocalCrossChainService) (reads : PrepareReads)
    (aggregate_id : AggregateQuoteId) (quote : LegQuote) :
    s.KeepsQuotes (s.prepare_ledger keccak256 reads aggregate_id quote) := by
  unfold prepare_ledger
  split
  · exact reserve_keeps s reads _ quote
  · exact ⟨rfl, fun _ _ h => h⟩

/-- **Step lemma.** No command takes a quote back. -/
theorem next_keeps (s : LocalCrossChainService) (c : LocalCommand) :
    s.KeepsQuotes (s.next keccak256 c) := by
  match c with
  | .quote reads request => exact quote_keeps s reads request
  | .prepare reads aggregate_id quote => exact prepare_keeps s reads aggregate_id quote
  | .perform op token => exact perform_keeps s op token
  | .sweep reads exclude => exact ⟨rfl, fun _ _ h => h⟩
  | .restart budget => exact ⟨rfl, fun _ _ h => h⟩
  | .crash op token budget =>
    exact (half_keeps s op token).trans ⟨rfl, fun _ _ h => h⟩
  | .crash_prepare reads aggregate_id quote budget =>
    exact (prepare_ledger_keeps s reads aggregate_id quote).trans ⟨rfl, fun _ _ h => h⟩

/-- **Run lemma.** -/
theorem run_keeps (s : LocalCrossChainService) (commands : List LocalCommand) :
    s.KeepsQuotes (Run.run (next keccak256) s commands) :=
  Run.invariant (P := s.KeepsQuotes) (Q := fun _ _ => True)
    (fun s' c h _ => h.trans (next_keeps s' c)) ⟨rfl, fun _ _ h => h⟩
    (Run.along_of_forall (fun _ _ _ => trivial) s)

/-- A service has the quote it answered with, which is on its own chain. -/
theorem issued_of_quote {s s' : LocalCrossChainService} {reads : QuoteReads}
    {request : LegQuoteRequest} {leg : LegQuote} (h : s.quote reads request = (.ok leg, s')) :
    leg.local_chain = s'.chain_id ∧ s'.quotes[leg.quote_id]? = some leg := by
  unfold quote at h
  split at h
  · cases h
  rename_i hchain
  split at h
  · cases h
  split at h
  · cases h
  rename_i answer _
  split at h
  · cases h
  rename_i hvalid
  obtain ⟨hanswer, rfl⟩ := Prod.mk.inj h
  have hlocal : answer.local_chain = request.local_chain := by
    unfold validate_leg at hvalid
    split at hvalid
    · cases hvalid
    · rename_i hmatches
      exact (not_not.mp hmatches).2.2.1
  dsimp only [insert_quote] at hanswer ⊢
  match hexpires : i64_of answer.expires_at_unix with
  | .error e => simp [hexpires] at hanswer
  | .ok _ =>
    simp only [hexpires] at hanswer ⊢
    match hstored : s.quotes[answer.quote_id]? with
    | some stored =>
      simp only [hstored] at hanswer ⊢
      split at hanswer
      · rename_i hsame
        obtain rfl := Except.ok.inj hanswer
        rw [if_pos hsame]
        exact ⟨by rw [hsame, hlocal, not_not.mp hchain], by rw [hsame]; exact hsame ▸ hstored⟩
      · cases hanswer
    | none =>
      simp only [hstored] at hanswer ⊢
      obtain rfl := Except.ok.inj hanswer
      exact ⟨by rw [hlocal, not_not.mp hchain], by simp⟩

end LocalCrossChainService

/-- The service of a chain, whatever it did since it issued a leg. -/
structure Issued (keccak256 : List UInt8 → B256) (leg : LegQuote) (service : ChainService) : Prop where
  run : ∃ s s' reads request commands,
    LocalCrossChainService.quote s reads request = (.ok leg, s') ∧
      service.local_service = Run.run (LocalCrossChainService.next keccak256) s' commands

variable {keccak256 : List UInt8 → B256}

/-- The service still knows the leg. -/
theorem Issued.knows {leg : LegQuote} {service : ChainService}
    (h : Issued keccak256 leg service) :
    leg.local_chain = service.local_service.chain_id ∧
      service.local_service.quotes[leg.quote_id]? = some leg := by
  obtain ⟨s, s', reads, request, commands, hquote, hrun⟩ := h.run
  obtain ⟨hchain, hissued⟩ := LocalCrossChainService.issued_of_quote hquote
  have hkeeps : s'.KeepsQuotes (Run.run (LocalCrossChainService.next keccak256) s' commands) :=
    LocalCrossChainService.run_keeps s' commands
  rw [hrun]
  exact ⟨hchain.trans hkeeps.chain_id.symm, hkeeps.quotes _ _ hissued⟩

/-- The route's checks at the start of an order, with the CCTP port answering as it
    did when the quote was issued. -/
def StartsWith (cctp : Option (U256 → Except CctpCompletionError CctpQuoteTerms))
    (quote : AggregateQuote) : Prop :=
  ∀ (σ : Type) (answer : (q : ProxyQuery) → σ → q.Answer × σ) (s : σ),
    (∀ quote_terms, cctp = some quote_terms → ∀ repayment s',
      (answer (.quote_terms repayment) s').1 = quote_terms repayment) →
    ((Proxy.check_terms cctp.isSome quote).run.run answer s).1 = .ok ()

theorem starts_direct {cctp : Option (U256 → Except CctpCompletionError CctpQuoteTerms)}
    {quote : AggregateQuote} (hroute : quote.origin.route = .Direct) (hfee : quote.bridge_fee = 0)
    (hthreshold : quote.cctp_finality_threshold = none) : StartsWith cctp quote := by
  intro σ answer s _
  unfold Proxy.check_terms
  split
  · rw [if_neg (by simp [hfee, hthreshold])]
    rfl
  · rename_i hcctp
    rw [hroute] at hcctp
    cases hcctp

theorem starts_cctp {quote_terms : U256 → Except CctpCompletionError CctpQuoteTerms}
    {quote : AggregateQuote} {terms : CctpQuoteTerms} (hroute : quote.origin.route = .Cctp)
    (hterms : quote_terms quote.destination.amount_in = .ok terms)
    (hfee : quote.bridge_fee = terms.max_fee)
    (hthreshold : quote.cctp_finality_threshold = some terms.finality_threshold) :
    StartsWith (some quote_terms) quote := by
  intro σ answer s hanswers
  have hanswer := hanswers quote_terms rfl quote.destination.amount_in s
  rw [hterms] at hanswer
  -- The one query of the check is answered with the quote's own terms.
  have hchecked : ∀ current : Except CctpCompletionError CctpQuoteTerms, current = .ok terms →
      (ExceptT.run (match current with
        | .error e => (throw (.CctpCompletion e) : Proxy Unit)
        | .ok current =>
          if quote.bridge_fee ≠ current.max_fee ∨
              quote.cctp_finality_threshold ≠ some current.finality_threshold then
            throw (.InvalidCrossChain "CCTP capacity or fee changed; request a fresh quote")
          else return)).run answer (answer (.quote_terms quote.destination.amount_in) s).2 =
        (.ok (), (answer (.quote_terms quote.destination.amount_in) s).2) := by
    rintro _ rfl
    dsimp only
    rw [if_neg (by simp [hfee, hthreshold])]
    rfl
  unfold Proxy.check_terms
  split
  · rename_i hdirect
    rw [hroute] at hdirect
    cases hdirect
  · rw [if_neg (by simp)]
    exact congrArg Prod.fst (hchecked _ hanswer)

/-- What the proxy issues suits its route. -/
theorem proxy_quote_spec {reads : AggregateReads} {issued_at : U64} {quote : AggregateQuote}
    (h : proxy_quote keccak256 reads issued_at = .ok quote) :
    compatible keccak256 quote.origin quote.destination ∧
      quote.id = aggregate_id keccak256 quote.origin quote.destination quote.bridge_fee
        quote.cctp_finality_threshold ∧
      quote.amount_in = quote.origin.amount_in ∧
      quote.amount_out = quote.destination.amount_out ∧
      quote.expires_at_unix =
        min quote.origin.expires_at_unix quote.destination.expires_at_unix ∧
      validate_route quote = .ok () ∧ StartsWith reads.cctp quote := by
  unfold proxy_quote at h
  match horigin : reads.origin, hdestination : reads.destination with
  | .error e, _ => simp [horigin] at h
  | .ok origin, .error e => simp [horigin, hdestination] at h
  | .ok origin, .ok destination =>
    simp only [horigin, hdestination] at h
    match hjoined : aggregate_quote keccak256 origin destination issued_at with
    | .error e => simp [hjoined] at h
    | .ok aggregate =>
      simp only [hjoined] at h
      obtain ⟨hlegs, -, haggregate⟩ := aggregate_quote_ok hjoined
      match hroute : aggregate.origin.route with
      | .Direct =>
        simp only [hroute] at h
        obtain rfl := Except.ok.inj h
        subst haggregate
        refine ⟨hlegs, rfl, rfl, rfl, rfl, ?_, starts_direct hroute rfl rfl⟩
        unfold validate_route
        rw [hroute]
        simp [joined]
      | .Cctp =>
        simp only [hroute] at h
        obtain ⟨quote_terms, terms, required, hcctp, hterms, hsum, hcovers, rfl⟩ :=
          price_bridge_ok h
        subst haggregate
        rw [hcctp]
        refine ⟨hlegs, rfl, rfl, rfl, rfl, ?_, starts_cctp hroute hterms rfl rfl⟩
        have hroute' : (with_cctp_terms keccak256 (joined keccak256 origin destination)
            terms).origin.route = .Cctp := hroute
        unfold validate_route
        rw [hroute']
        dsimp only [with_cctp_terms]
        rw [hsum]
        exact if_neg (by simpa using hcovers)

/-- **What the proxy issues is admissible until it expires**: by the binding
    check, by the start of an order under the same CCTP terms, and by the service
    of either chain that issued its leg, whatever that service did since. -/
theorem issued_quote_is_admissible (keccak256 : List UInt8 → B256) (reads : AggregateReads)
    (issued_at now_unix : U64) (quote : AggregateQuote)
    (h : proxy_quote keccak256 reads issued_at = .ok quote)
    (hnow : now_unix < quote.expires_at_unix) :
    validate_aggregate_binding keccak256 quote now_unix = .ok () ∧
      StartsWith reads.cctp quote ∧
      ∀ (role : LegRole) (order_id : CrossChainOrderId) (service : ChainService),
        Issued keccak256 (quote.leg role) service →
        service.validate_stage_context keccak256 { order_id, quote, role } now_unix = .ok () := by
  obtain ⟨hlegs, hid, hin, hout, hexpires, hterms, hstarts⟩ := proxy_quote_spec h
  have hbinding : validate_aggregate_binding keccak256 quote now_unix = .ok () :=
    validate_aggregate_binding_iff.mpr
      (bound_of_compatible hlegs hid hin hout hexpires hterms hnow)
  refine ⟨hbinding, hstarts, ?_⟩
  intro role order_id service hissued
  obtain ⟨hchain, hknown⟩ := hissued.knows
  have hfingerprint : (quote.leg role).quote_id = leg_quote_id keccak256 (quote.leg role) := by
    match role with
    | .Origin => exact hlegs.1
    | .Destination => exact hlegs.2.1
  unfold ChainService.validate_stage_context
  simp only [hbinding]
  rw [show StepValidationContext.local_quote { order_id, quote, role } = quote.leg role from rfl,
    if_neg (by simp [hchain, ← hfingerprint]), hknown]
  exact if_neg (by simp)

/-- CCTP terms with a fee of 1, and legs of 200 for 95 and 95 for 90. -/
def sample_reads : AggregateReads :=
  { origin := .ok (sample_leg .Origin .Cctp 300 200)
    destination := .ok (sample_leg .Destination .Cctp 95 90)
    cctp := some fun _ => .ok { max_fee := 1, finality_threshold := 1000 } }

/-- The quote they make. -/
def sample_cctp : AggregateQuote :=
  with_cctp_terms text_hash
    (joined text_hash (sample_leg .Origin .Cctp 300 200) (sample_leg .Destination .Cctp 95 90))
    { max_fee := 1, finality_threshold := 1000 }

/-- The origin's service issues its leg. -/
example : ∃ service, Issued text_hash (sample_leg .Origin .Cctp 300 200) service := by
  let reads : LocalCrossChainService.QuoteReads :=
    { now_unix := 10, answer := .ok (sample_leg .Origin .Cctp 300 200), validated_at := 10 }
  let request : LegQuoteRequest :=
    { request_id := 9, role := .Origin, local_chain := ⟨1⟩, remote_chain := ⟨10⟩, input_token := 5,
      output_token := 6, amount := 300, deadline_unix := 100, route := .Cctp }
  refine ⟨{ ChainService.new ⟨1⟩ (fun _ => none) with
    local_service := ((LocalCrossChainService.new ⟨1⟩).quote reads request).2 }, ⟨?_⟩⟩
  have hanswer : ((LocalCrossChainService.new ⟨1⟩).quote reads request).1 =
      .ok (sample_leg .Origin .Cctp 300 200) := by decide +kernel
  exact ⟨.new ⟨1⟩, _, reads, request, [], Prod.ext hanswer rfl, rfl⟩

theorem issued_quote_is_admissible_sample :
    validate_aggregate_binding text_hash sample_cctp 20 = .ok () ∧
      StartsWith sample_reads.cctp sample_cctp ∧
      ∀ (role : LegRole) (order_id : CrossChainOrderId) (service : ChainService),
        Issued text_hash (sample_cctp.leg role) service →
        service.validate_stage_context text_hash { order_id, quote := sample_cctp, role } 20 =
          .ok () :=
  issued_quote_is_admissible text_hash sample_reads 10 20 sample_cctp (by decide +kernel)
    (by decide +kernel)

end Solvent
