import Mathlib
import Solvent.Crosschain.Aggregate
import Solvent.Crosschain.Direct
import Solvent.Quote.Service
import Solvent.Registry.Exchange

/-! # The leg quoter

    A chain prices its leg with its own quote service and reads the capital
    behind the promise back out of the response: the amount from the total, the
    sources from the legs. The origin leg of a direct order is not routed; it
    promises its own input.
-/

namespace Solvent

open BTreeMap

inductive LegQuoterError where
  | Backend (message : String)
  | NoRoute
  deriving DecidableEq

/-- The quoter of one chain, with what its ports answer during one call. -/
structure ServiceLegQuoter where
  chain_id : ChainId
  quote : QuoteService
  latest : U64
  now_unix : U64
  ttl_secs : U64

namespace ServiceLegQuoter

variable (keccak256 : List UInt8 → B256) (texts : WireTexts)

/-- `error.to_string()` of a text that does not parse. -/
def parsed {α : Type} (answer : Except String α) : Except LegQuoterError α :=
  answer.mapError .Backend

/-- The source behind one leg of the response. -/
def source (leg : QuoteLeg) : Except LegQuoterError ReservationSource := do
  let hash ← parsed (texts.hash.parse leg.strategy_hash)
  let amount ← parsed (texts.amount.parse leg.amount_out.raw)
  return {
    maker := ⟨leg.maker⟩
    strategy_hash := ⟨hash⟩
    token := leg.token_out.address
    amount }

/-- The response a leg is priced on; the origin of a direct order has none. -/
def routed (quoter : ServiceLegQuoter) (request : LegQuoteRequest) :
    Except LegQuoterError (Option QuoteResponse) :=
  if request.role = .Origin ∧ request.route = .Direct then .ok none
  else
    match quoter.quote.quote keccak256 texts request.input_token request.output_token
        request.amount with
    | none => .error .NoRoute
    | some quote => .ok (some quote)

/-- The amount a leg promises. -/
def promised (request : LegQuoteRequest) : Option QuoteResponse → Except LegQuoterError U256
  | none => .ok request.amount
  | some quote => parsed (texts.amount.parse quote.amount_out.raw)

/-- The legs of the response, if there is one. -/
def routed_legs : Option QuoteResponse → List QuoteLeg
  | none => []
  | some quote => quote.legs

def leg_quote (quoter : ServiceLegQuoter) (request : LegQuoteRequest) :
    Except LegQuoterError LegQuote := do
  if request.local_chain ≠ quoter.chain_id then
    throw (.Backend
      s!"configured for chain {quoter.chain_id.id}, received {request.local_chain.id}")
  let routed ← quoter.routed keccak256 texts request
  let amount_out ← promised texts request routed
  let sources ← (routed_legs routed).mapM (source texts)
  return fingerprinted keccak256
    { quote_id := 0
      request_id := request.request_id
      role := request.role
      local_chain := request.local_chain
      remote_chain := request.remote_chain
      input_token := request.input_token
      output_token := request.output_token
      amount_in := request.amount
      amount_out
      route := request.route
      block_number := quoter.latest
      expires_at_unix := min request.deadline_unix
        (quoter.now_unix.saturating_add quoter.ttl_secs)
      sources }

/-! ## What a leg is made of -/

/-- The capital a routed leg asks of a maker. -/
def source_of (token : Address) (l : RouteLeg) : ReservationSource :=
  { maker := l.maker, strategy_hash := l.strategy_hash, token, amount := l.amount_out }

variable {keccak256 texts}

/-- Reading back what was told loses nothing. -/
theorem mapM_source_told (labels : BTreeMap StrategyHash String) (token_in token_out : Token)
    (legs : List RouteLeg) :
    (legs.map (QuoteService.told texts labels token_in token_out)).mapM (source texts) =
      .ok (legs.map (source_of token_out.address)) := by
  induction legs with
  | nil => rfl
  | cons l legs ih =>
    rw [List.map_cons, List.mapM_cons, ih]
    have hl : source texts (QuoteService.told texts labels token_in token_out l) =
        .ok (source_of token_out.address l) := by
      simp [source, QuoteService.told, parsed, Except.mapError, texts.hash.parse_print,
        texts.amount.parse_print, Amount.from_base_units, source_of]
      rfl
    rw [hl]
    rfl

/-- The terms a leg repeats from its request. -/
structure Repeats (quoter : ServiceLegQuoter) (request : LegQuoteRequest) (leg : LegQuote) : Prop where
  request_id : leg.request_id = request.request_id
  role : leg.role = request.role
  route : leg.route = request.route
  chain_id : quoter.chain_id = leg.local_chain
  local_chain : leg.local_chain = request.local_chain
  remote_chain : leg.remote_chain = request.remote_chain
  input_token : leg.input_token = request.input_token
  output_token : leg.output_token = request.output_token
  amount_in : leg.amount_in = request.amount
  expires_at_unix : leg.expires_at_unix =
    min request.deadline_unix (quoter.now_unix.saturating_add quoter.ttl_secs)

/-- What the quoter's answer is made of. -/
theorem leg_quote_ok {quoter : ServiceLegQuoter} {request : LegQuoteRequest} {leg : LegQuote}
    (h : quoter.leg_quote keccak256 texts request = .ok leg) :
    Repeats quoter request leg ∧ leg.quote_id = leg_quote_id keccak256 leg ∧
      ∃ routed, quoter.routed keccak256 texts request = .ok routed ∧
      promised texts request routed = .ok leg.amount_out ∧
      (routed_legs routed).mapM (source texts) = .ok leg.sources := by
  unfold leg_quote at h
  split at h
  · cases h
  rename_i hchain
  match hrouted : quoter.routed keccak256 texts request with
  | .error e => simp [hrouted, bind, Except.bind] at h
  | .ok routed =>
    match hpromised : promised texts request routed with
    | .error e => simp [hrouted, hpromised, bind, Except.bind] at h
    | .ok amount_out =>
      match hsources : (routed_legs routed).mapM (source texts) with
      | .error e => simp [hrouted, hpromised, hsources, bind, Except.bind] at h
      | .ok sources =>
        simp only [hrouted, hpromised, hsources, bind, Except.bind, pure, Except.pure] at h
        obtain rfl := Except.ok.inj h
        refine ⟨⟨rfl, rfl, rfl, ?_, rfl, rfl, rfl, rfl, rfl, rfl⟩, rfl, routed, rfl, hpromised,
          hsources⟩
        exact (not_not.mp hchain).symm

theorem mapM_ok {α β ε : Type} {f : α → Except ε β} {l : List α}
    (h : ∀ a ∈ l, ∃ b, f a = .ok b) : ∃ bs, l.mapM f = .ok bs := by
  induction l with
  | nil => exact ⟨[], rfl⟩
  | cons a l ih =>
    obtain ⟨b, hb⟩ := h a (by simp)
    obtain ⟨bs, hbs⟩ := ih fun a' ha' => h a' (by simp [ha'])
    exact ⟨b :: bs, by simp [List.mapM_cons, hb, hbs, bind, Except.bind, pure, Except.pure]⟩

/-- Every text of a response reads back: a leg that routes is quoted. -/
theorem leg_quote_of_route {quoter : ServiceLegQuoter} {request : LegQuoteRequest}
    (hchain : request.local_chain = quoter.chain_id)
    (hroute : ¬ (request.role = .Origin ∧ request.route = .Direct) →
      (quoter.quote.quote keccak256 texts request.input_token request.output_token
        request.amount).isSome) : ∃ leg, quoter.leg_quote keccak256 texts request = .ok leg := by
  have hrouted : ∃ routed, quoter.routed keccak256 texts request = .ok routed ∧
      ∀ q, routed = some q → ∃ r split, q = quoter.quote.respond texts r split := by
    unfold ServiceLegQuoter.routed
    split
    · exact ⟨none, rfl, by simp⟩
    · rename_i hrouted
      obtain ⟨q, hq⟩ := Option.isSome_iff_exists.mp (hroute hrouted)
      obtain ⟨split, -, hrespond⟩ := QuoteService.quote_eq_some hq
      refine ⟨some q, by rw [hq], ?_⟩
      intro q' hq'
      obtain rfl := Option.some.inj hq'
      exact ⟨_, split, hrespond⟩
  obtain ⟨routed, hrouted, hresponse⟩ := hrouted
  have hpromised : ∃ amount_out, promised texts request routed = .ok amount_out := by
    match routed with
    | none => exact ⟨_, rfl⟩
    | some q =>
      obtain ⟨r, split, rfl⟩ := hresponse q rfl
      exact ⟨split.amount_out, by simp [promised, QuoteService.respond, Amount.from_base_units,
        texts.amount.parse_print, parsed, Except.mapError]⟩
  have hsources : ∃ sources, (routed_legs routed).mapM (source texts) = .ok sources := by
    refine mapM_ok ?_
    intro leg hleg
    match routed with
    | none => cases hleg
    | some q =>
      obtain ⟨r, split, rfl⟩ := hresponse q rfl
      obtain ⟨l, -, hl⟩ := List.mem_filterMap.mp hleg
      unfold QuoteService.leg at hl
      simp only [Option.bind_eq_bind, Option.bind_eq_some_iff] at hl
      obtain ⟨token_in, -, token_out, -, hl⟩ := hl
      obtain rfl := Option.some.inj hl
      exact ⟨source_of token_out.address l, by
        simp [source, parsed, Except.mapError, texts.hash.parse_print, texts.amount.parse_print,
          Amount.from_base_units, source_of, bind, Except.bind, pure, Except.pure]⟩
  obtain ⟨amount_out, hpromised⟩ := hpromised
  obtain ⟨sources, hsources⟩ := hsources
  unfold leg_quote
  rw [if_neg (not_not.mpr hchain), hrouted]
  simp only [hpromised, hsources, bind, Except.bind, pure, Except.pure]
  exact ⟨_, rfl⟩

/-- The origin of a direct order promises its input. -/
theorem direct_origin {quoter : ServiceLegQuoter} {request : LegQuoteRequest} {leg : LegQuote}
    (h : quoter.leg_quote keccak256 texts request = .ok leg) (hrole : request.role = .Origin)
    (hroute : request.route = .Direct) : leg.amount_out = request.amount ∧ leg.sources = [] := by
  obtain ⟨-, -, routed, hrouted, hpromised, hsources⟩ := leg_quote_ok h
  have hnone : routed = none := by
    unfold ServiceLegQuoter.routed at hrouted
    rw [if_pos ⟨hrole, hroute⟩] at hrouted
    exact (Except.ok.inj hrouted).symm
  subst hnone
  exact ⟨(Except.ok.inj hpromised).symm, (Except.ok.inj hsources).symm⟩

/-- Both tokens of the request are in the catalog. -/
def Listed (tokens : List TokenMeta) (request : LegQuoteRequest) : Prop :=
  request.input_token ∈ tokens.map TokenMeta.address ∧
    request.output_token ∈ tokens.map TokenMeta.address

/-- **Spec of a routed leg.** It promises the whole split; its sources are all of
    the split's legs, or none of them. -/
theorem routed_leg {quoter : ServiceLegQuoter} {request : LegQuoteRequest} {leg : LegQuote}
    {tokens : List TokenMeta} {app : Address} (hsnapshot : quoter.quote.registry.Indexed)
    (happ : ∀ (key : StrategyKey) (strategy : MakerStrategy),
      quoter.quote.registry.strategies[key]? = some strategy → key.app = app)
    (hassets : quoter.quote.assets = .new tokens)
    (hrouted : ¬ (request.role = .Origin ∧ request.route = .Direct))
    (h : quoter.leg_quote keccak256 texts request = .ok leg) :
    ∃ (r : RouteRequest) (split : Split), SoldWhole r split ∧ leg.amount_out = split.amount_out ∧
      (Listed tokens request → leg.sources = split.legs.map (source_of leg.output_token)) ∧
      (¬ Listed tokens request → leg.sources = []) := by
  obtain ⟨hrepeats, -, routed, hanswer, hpromised, hsources⟩ := leg_quote_ok h
  unfold ServiceLegQuoter.routed at hanswer
  rw [if_neg hrouted] at hanswer
  split at hanswer
  · cases hanswer
  rename_i q hquote
  obtain rfl := Except.ok.inj hanswer
  obtain ⟨split, hsolve, rfl⟩ := QuoteService.quote_eq_some hquote
  have hsold := sold_whole hsnapshot happ rfl hsolve
  refine ⟨_, split, hsold, ?_, ?_, ?_⟩
  · simp only [promised, QuoteService.respond, Amount.from_base_units, texts.amount.parse_print]
      at hpromised
    exact (Except.ok.inj hpromised).symm
  · intro ⟨hin, hout⟩
    obtain ⟨token_in, htin⟩ := Option.isSome_iff_exists.mp
      ((AssetManager.isSome_token tokens _).mpr hin)
    obtain ⟨token_out, htout⟩ := Option.isSome_iff_exists.mp
      ((AssetManager.isSome_token tokens _).mpr hout)
    have hlegs : (quoter.quote.respond texts _ split).legs = _ := QuoteService.respond_listed hsold
      (by rw [hassets]; exact htin) (by rw [hassets]; exact htout)
    rw [routed_legs, hlegs, mapM_source_told, AssetManager.token_address htout] at hsources
    rw [hrepeats.output_token]
    exact (Except.ok.inj hsources).symm
  · intro hunlisted
    have hmissing : quoter.quote.assets.token request.input_token = none ∨
        quoter.quote.assets.token request.output_token = none := by
      rw [hassets, ← Option.not_isSome_iff_eq_none, ← Option.not_isSome_iff_eq_none,
        AssetManager.isSome_token, AssetManager.isSome_token]
      exact not_and_or.mp hunlisted
    rw [routed_legs, QuoteService.respond_unlisted hsold hmissing] at hsources
    exact (Except.ok.inj hsources).symm

end ServiceLegQuoter

/-! ## Backing -/

/-- The budget source reports its own failures. -/
def Reads.FailAsBudgets (reads : Reads) : Prop :=
  ∀ account e, reads.budget account = .error e → ∃ message, e = .BudgetSource message

theorem exists_of_mapM_error {α β ε : Type} {f : α → Except ε β} {l : List α} {e : ε}
    (h : l.mapM f = .error e) : ∃ a ∈ l, f a = .error e := by
  induction l with
  | nil => cases h
  | cons a l ih =>
    rw [List.mapM_cons] at h
    match ha : f a with
    | .error e' =>
      rw [ha] at h
      have herror : (Except.error e' : Except ε (List β)) = .error e := h
      exact ⟨a, by simp, ha.trans (congrArg _ (Except.error.inj herror))⟩
    | .ok b =>
      rw [ha] at h
      match hl : l.mapM f with
      | .error e' =>
        have he : e' = e := by
          have herror : (l.mapM f >>= fun bs => pure (b :: bs)) = .error e := h
          rw [hl] at herror
          exact Except.error.inj herror
        obtain ⟨a', ha', hf⟩ := ih (he ▸ hl)
        exact ⟨a', by simp [ha'], hf⟩
      | .ok bs =>
        have hok : (l.mapM f >>= fun bs => pure (b :: bs)) = .error e := h
        rw [hl] at hok
        cases hok

theorem read_budgets_error {reads : Reads} (h : reads.FailAsBudgets) {accounts : List AccountKey}
    {e : SolventError} (herror : LedgerService.read_budgets reads accounts = .error e) :
    ∃ message, e = .BudgetSource message := by
  obtain ⟨account, -, hread⟩ := exists_of_mapM_error herror
  match hbudget : reads.budget account with
  | .error e' =>
    rw [hbudget] at hread
    obtain rfl := Except.error.inj hread
    exact h account e' hbudget
  | .ok budget =>
    rw [hbudget] at hread
    cases hread

/-- Summed amounts of a source list. -/
def sources_total (sources : List ReservationSource) : ℕ :=
  total (sources.map ReservationSource.amount)

/-- The ledger holds exactly `amount` of `token` under `id`. -/
def HoldsExactly (l : Ledger) (id : ReservationId) (token : Address) (amount : U256) : Prop :=
  ∃ r, l.reservations[id]? = some r ∧ r.state = .Pending ∧ (∀ s ∈ r.sources, s.token = token) ∧
    sources_total r.sources = amount.val

/-- The sources of a leg make up what it promises, and a preparation that places
    them holds exactly that. -/
structure FullyBacked (keccak256 : List UInt8 → B256) (leg : LegQuote) : Prop where
  token : ∀ s ∈ leg.sources, s.token = leg.output_token
  distinct : (leg.sources.map fun s => (s.maker, s.strategy_hash)).Nodup
  amount_out : sources_total leg.sources = leg.amount_out.val
  prepared : ∀ (service service' : LocalCrossChainService)
    (reads : LocalCrossChainService.PrepareReads)
    (aggregate_id : AggregateQuoteId) (p : Preparation), reads.ledger.FailAsBudgets →
    service.prepare keccak256 reads aggregate_id leg = (.ok p, service') →
    service.preparations.load_for_quote aggregate_id leg.role = none →
    let id := (service.preparation_of keccak256 aggregate_id leg).token.reservation
    service.ledger.ledger.reservations[id]? = none →
    HoldsExactly service'.ledger.ledger id leg.output_token leg.amount_out

namespace LocalCrossChainService

variable {keccak256 : List UInt8 → B256}

/-- Only an id already recorded is a duplicate. -/
theorem recorded_of_duplicate {s s' : LedgerService} {reads : Reads} {id k : ReservationId}
    {intent : IntentId} {sources : List ReservationSource} {ttl_secs : U64}
    (hbudget : reads.FailAsBudgets)
    (h : s.reserve reads id intent sources ttl_secs = (.error (.Ledger (.Duplicate k)), s')) :
    s.ledger.reservations[id]? ≠ none := by
  intro hnone
  unfold LedgerService.reserve at h
  split at h
  · rename_i e hread
    obtain ⟨message, rfl⟩ := read_budgets_error hbudget hread
    cases h
  rename_i budgets _
  obtain ⟨fed, hfed⟩ := LedgerService.feed_eq s.ledger budgets
  unfold LedgerService.reserve_owned at h
  simp only [hfed] at h
  split at h
  · rename_i e hcan
    obtain rfl : e = .Duplicate k := by
      have herror := (Prod.mk.inj h).1
      simpa using herror
    unfold Ledger.can_reserve at hcan
    split at hcan
    · rename_i hsome
      change (s.ledger.reservations[id]?).isSome = true at hsome
      simp [hnone] at hsome
    · split at hcan
      · cases hcan
      · cases hcan
  · split at h
    · cases h
    · cases h

/-- What a granted hold comes from. -/
theorem reserve_ok {s s' : LocalCrossChainService} {reads : PrepareReads} {p : Preparation}
    {quote : LegQuote} (h : s.reserve reads p quote = (.ok (), s')) :
    let answer := s.ledger.reserve reads.ledger p.token.reservation ⟨p.quote_id.hash⟩
      quote.sources (quote.expires_at_unix.saturating_sub reads.ttl_at)
    answer = (.ok (), s'.ledger) ∨ ∃ k, answer = (.error (.Ledger (.Duplicate k)), s'.ledger) := by
  unfold reserve at h
  simp only
  split at h
  · rename_i ledger hok
    left
    rw [hok, ← (Prod.mk.inj h).2]
  · rename_i k ledger hduplicate
    right
    refine ⟨k, ?_⟩
    rw [hduplicate, ← (Prod.mk.inj h).2]
  · cases h

/-- A fresh preparation of a leg holds its sources. -/
theorem prepare_holds {s s' : LocalCrossChainService} {reads : PrepareReads}
    {aggregate_id : AggregateQuoteId} {leg : LegQuote} {p : Preparation}
    (hbudget : reads.ledger.FailAsBudgets)
    (h : s.prepare keccak256 reads aggregate_id leg = (.ok p, s'))
    (hnone : s.preparations.load_for_quote aggregate_id leg.role = none)
    (hfresh : s.ledger.ledger.reservations[
      (s.preparation_of keccak256 aggregate_id leg).token.reservation]? = none) :
    ∃ r, s'.ledger.ledger.reservations[
      (s.preparation_of keccak256 aggregate_id leg).token.reservation]? = some r ∧
      r.state = .Pending ∧ r.sources = leg.sources := by
  unfold prepare at h
  split at h
  · cases h
  simp only [hnone] at h
  split at h
  · cases h
  rename_i held hreserve
  -- The preparation's row leaves the ledger alone.
  have hledger : s'.ledger = held.ledger := by
    rw [← show (held.insert _).2 = s' from congrArg Prod.snd h]
    rfl
  rw [hledger]
  obtain hok | ⟨k, hduplicate⟩ := reserve_ok hreserve
  · exact LedgerService.reservation_of_reserve hok
  · exact absurd hfresh (recorded_of_duplicate hbudget hduplicate)

end LocalCrossChainService

section Backing

variable {keccak256 : List UInt8 → B256} {texts : WireTexts}

/-- The sources of the legs of a split make up the split. -/
theorem backed_of_split {r : RouteRequest} {split : Split} {leg : LegQuote}
    (h : SoldWhole r split) (hamount : leg.amount_out = split.amount_out)
    (hsources : leg.sources =
      split.legs.map (ServiceLegQuoter.source_of leg.output_token)) :
    FullyBacked keccak256 leg := by
  have htoken : ∀ s ∈ leg.sources, s.token = leg.output_token := by
    intro s hs
    rw [hsources] at hs
    obtain ⟨l, -, rfl⟩ := List.mem_map.mp hs
    rfl
  have hsum : sources_total leg.sources = leg.amount_out.val := by
    rw [hsources, hamount, h.amount_out]
    unfold sources_total legs_out
    rw [List.map_map]
    rfl
  refine ⟨htoken, ?_, hsum, ?_⟩
  · rw [hsources, List.map_map]
    exact h.distinct
  · intro service service' reads aggregate_id p hbudget hprepare hnone id hfresh
    obtain ⟨reservation, hstored, hpending, hplaced⟩ :=
      LocalCrossChainService.prepare_holds hbudget hprepare hnone hfresh
    exact ⟨reservation, hstored, hpending, by rw [hplaced]; exact htoken,
      by rw [hplaced]; exact hsum⟩

/-- **Routed legs are fully backed** exactly when the catalog lists both of their
    tokens. The registry is fed with the events of one app. -/
theorem leg_is_backed_iff (keccak256 : List UInt8 → B256) (texts : WireTexts)
    (decode_strategy : List (Fin 256) → CurveSpec) (app : Address) (events : List AquaEvent)
    (happ : ∀ event ∈ events, event.key.app = app) (tokens : List TokenMeta)
    (quoter : ServiceLegQuoter)
    (hregistry : quoter.quote.registry = Snapshot.replay decode_strategy events)
    (hassets : quoter.quote.assets = .new tokens) (request : LegQuoteRequest)
    (hrouted : request.role = .Destination ∨ request.route = .Cctp) (leg : LegQuote)
    (h : quoter.leg_quote keccak256 texts request = .ok leg) :
    FullyBacked keccak256 leg ↔
      request.input_token ∈ tokens.map TokenMeta.address ∧
        request.output_token ∈ tokens.map TokenMeta.address := by
  have hone : ∀ (key : StrategyKey) (strategy : MakerStrategy),
      quoter.quote.registry.strategies[key]? = some strategy → key.app = app := by
    intro key strategy hstored
    rw [hregistry] at hstored
    obtain ⟨event, hevent, rfl⟩ := Snapshot.addressed_of_replay decode_strategy hstored
    exact happ event hevent
  have hsnapshot : quoter.quote.registry.Indexed := by
    rw [hregistry]
    exact Snapshot.indexed_replay decode_strategy events
  have hnot : ¬ (request.role = .Origin ∧ request.route = .Direct) := by
    intro ⟨hrole, hroute⟩
    rw [hrole, hroute] at hrouted
    simp at hrouted
  obtain ⟨r, split, hsold, hamount, hlisted, hunlisted⟩ :=
    ServiceLegQuoter.routed_leg hsnapshot hone hassets hnot h
  constructor
  · intro hbacked
    -- Without its tokens in the catalog the leg has no sources, and promises something.
    by_contra hmissing
    have hsum := hbacked.amount_out
    rw [hunlisted hmissing, hamount] at hsum
    exact hsold.amount_out_ne_zero (Fin.ext hsum.symm)
  · intro hlist
    exact backed_of_split hsold hamount (hlisted hlist)

end Backing

/-! ## Client requests -/

structure CrossChainQuoteRequest where
  request_id : B256
  origin_chain_id : U64
  destination_chain_id : U64
  origin_token_in : Address
  origin_token_out : Address
  destination_token_in : Address
  destination_token_out : Address
  amount_in : U256
  destination_amount_in : U256
  deadline_unix : U64
  route : CrossChainRoute
  deriving DecidableEq

namespace CrossChainQuoteRequest

def origin (request : CrossChainQuoteRequest) : LegQuoteRequest :=
  { request_id := request.request_id
    role := .Origin
    local_chain := ⟨request.origin_chain_id⟩
    remote_chain := ⟨request.destination_chain_id⟩
    input_token := request.origin_token_in
    output_token := request.origin_token_out
    amount := request.amount_in
    deadline_unix := request.deadline_unix
    route := request.route }

def destination (request : CrossChainQuoteRequest) : LegQuoteRequest :=
  { request_id := request.request_id
    role := .Destination
    local_chain := ⟨request.destination_chain_id⟩
    remote_chain := ⟨request.origin_chain_id⟩
    input_token := request.destination_token_in
    output_token := request.destination_token_out
    amount := request.destination_amount_in
    deadline_unix := request.deadline_unix
    route := request.route }

/-- The two leg requests a client request is split into. -/
def leg_requests (request : CrossChainQuoteRequest) :
    Except String (LegQuoteRequest × LegQuoteRequest) :=
  if request.origin_chain_id = request.destination_chain_id ∨ request.amount_in = 0 ∨
      request.destination_amount_in = 0 then
    .error "chains must differ and amounts must be non-zero"
  else .ok (request.origin, request.destination)

end CrossChainQuoteRequest

/-- The proxy takes the aggregate, when it issues it or when it is given it. -/
def Accepted (keccak256 : List UInt8 → B256) (quote : AggregateQuote) (origin destination : LegQuote) :
    Prop :=
  (∃ cctp now_unix, proxy_quote keccak256
    { origin := .ok origin, destination := .ok destination, cctp } now_unix = .ok quote) ∨
  (quote.origin = origin ∧ quote.destination = destination ∧
    ∃ now_unix, validate_aggregate_binding keccak256 quote now_unix = .ok ())

section Repayment

variable {keccak256 : List UInt8 → B256} {texts : WireTexts}
variable {quote : AggregateQuote} {origin destination : LegQuote}

/-- An accepted aggregate is made of its legs and takes what the origin takes. -/
theorem accepted_legs (h : Accepted keccak256 quote origin destination) :
    quote.origin = origin ∧ quote.destination = destination ∧ quote.amount_in = origin.amount_in := by
  obtain ⟨cctp, now_unix, hquote⟩ | ⟨horigin, hdestination, now_unix, hvalid⟩ := h
  · unfold proxy_quote at hquote
    simp only at hquote
    match haggregate : aggregate_quote keccak256 origin destination now_unix with
    | .error e => simp [haggregate] at hquote
    | .ok aggregate =>
      obtain ⟨-, -, rfl⟩ := aggregate_quote_ok haggregate
      simp only [haggregate] at hquote
      split at hquote
      · obtain rfl := Except.ok.inj hquote
        exact ⟨rfl, rfl, rfl⟩
      · obtain ⟨-, terms, -, -, -, -, -, rfl⟩ := price_bridge_ok hquote
        exact ⟨rfl, rfl, rfl⟩
  · have hbound := (validate_aggregate_binding_iff).mp hvalid
    exact ⟨horigin, hdestination, by rw [hbound.amount_in, horigin]⟩

/-- The proxy issues the aggregate of any two legs quoted for a direct request,
    whatever the one repays and the other was priced on. -/
theorem direct_quote_issued {request : CrossChainQuoteRequest} (hdirect : request.route = .Direct)
    {origin_quoter destination_quoter : ServiceLegQuoter}
    (hrequests : request.leg_requests = .ok (request.origin, request.destination))
    (horigin : origin_quoter.leg_quote keccak256 texts request.origin = .ok origin)
    (hdestination : destination_quoter.leg_quote keccak256 texts request.destination =
      .ok destination) (hout : destination.amount_out ≠ 0) {now_unix : U64}
    (hnow : now_unix < min origin.expires_at_unix destination.expires_at_unix)
    (cctp : Option (U256 → Except CctpCompletionError CctpQuoteTerms)) :
    proxy_quote keccak256 { origin := .ok origin, destination := .ok destination, cctp } now_unix =
      .ok (joined keccak256 origin destination) := by
  have hvalid : ¬ (request.origin_chain_id = request.destination_chain_id ∨
      request.amount_in = 0 ∨ request.destination_amount_in = 0) := by
    intro hbad
    unfold CrossChainQuoteRequest.leg_requests at hrequests
    rw [if_pos hbad] at hrequests
    cases hrequests
  obtain ⟨hchains, hin, hpriced⟩ := not_or.mp hvalid |>.imp id not_or.mp
  obtain ⟨ho, hoid, -⟩ := ServiceLegQuoter.leg_quote_ok horigin
  obtain ⟨hd, hdid, -⟩ := ServiceLegQuoter.leg_quote_ok hdestination
  have hroute : origin.route = .Direct := ho.route.trans hdirect
  have hlegs : compatible keccak256 origin destination := by
    refine ⟨hoid, hdid, ho.role, hd.role, ?_, ?_, ?_, ?_, ?_, ?_, ?_, ?_, hout, ?_⟩
    · rw [ho.local_chain, hd.local_chain]
      intro hsame
      exact hchains (congrArg ChainId.id hsame)
    · exact ho.local_chain.trans hd.remote_chain.symm
    · exact ho.remote_chain.trans hd.local_chain.symm
    · exact ho.request_id.trans hd.request_id.symm
    · exact ho.route.trans hd.route.symm
    · rw [ho.amount_in]
      exact hin
    · rw [(ServiceLegQuoter.direct_origin horigin rfl hdirect).1]
      exact hin
    · rw [hd.amount_in]
      exact hpriced
    · left
      rw [hroute]
      decide
  unfold proxy_quote aggregate_quote
  simp only
  rw [if_neg (not_not.mpr hlegs), if_neg (not_le.mpr hnow)]
  simp only [joined, hroute]

/-- What the maker signs repays the aggregate's input. -/
theorem author_plans_repays {author : AlloyDirectPlanAuthor}
    {authorization : DirectOrderAuthorization} {authored : AlloyDirectPlanAuthor.Authored}
    (h : author.author_plans authorization = .ok authored) :
    authored.maker_quote.repaymentAmount = authorization.quote.amount_in ∧
      authored.maker_quote.outputAmount = authorization.quote.amount_out := by
  unfold AlloyDirectPlanAuthor.author_plans at h
  simp only at h
  split at h
  · cases h
  split at h
  · split at h
    · cases h
    · simp only [bind, Except.bind, pure, Except.pure] at h
      split at h
      · cases h
      split at h
      · cases h
      split at h
      · cases h
      obtain rfl := Except.ok.inj h
      exact ⟨rfl, rfl⟩
  · cases h

/-- **A direct quote repays what its delivery was priced on** exactly when the
    client asked for no larger a delivery than it pays for; so does every maker
    quote signed for it. -/
theorem direct_repayment_covers_iff (keccak256 : List UInt8 → B256) (texts : WireTexts)
    (request : CrossChainQuoteRequest) (hdirect : request.route = .Direct)
    (origin_request destination_request : LegQuoteRequest)
    (hrequests : request.leg_requests = .ok (origin_request, destination_request))
    (origin_quoter destination_quoter : ServiceLegQuoter) (origin destination : LegQuote)
    (horigin : origin_quoter.leg_quote keccak256 texts origin_request = .ok origin)
    (hdestination : destination_quoter.leg_quote keccak256 texts destination_request =
      .ok destination)
    (quote : AggregateQuote) (haccepted : Accepted keccak256 quote origin destination) :
    (quote.destination.amount_in ≤ quote.origin.amount_out ↔
      request.destination_amount_in ≤ request.amount_in) ∧
    ∀ (author : AlloyDirectPlanAuthor) (authorization : DirectOrderAuthorization)
      (authored : AlloyDirectPlanAuthor.Authored), authorization.quote = quote →
      author.author_plans authorization = .ok authored →
      (quote.destination.amount_in ≤ authored.maker_quote.repaymentAmount ↔
        request.destination_amount_in ≤ request.amount_in) := by
  have hlegs : origin_request = request.origin ∧ destination_request = request.destination := by
    unfold CrossChainQuoteRequest.leg_requests at hrequests
    split at hrequests
    · cases hrequests
    · obtain ⟨ho, hd⟩ := Prod.mk.inj (Except.ok.inj hrequests)
      exact ⟨ho.symm, hd.symm⟩
  obtain ⟨rfl, rfl⟩ := hlegs
  obtain ⟨hquote_origin, hquote_destination, hquote_in⟩ := accepted_legs haccepted
  have hin : origin.amount_in = request.amount_in :=
    (ServiceLegQuoter.leg_quote_ok horigin).1.amount_in
  have hout : origin.amount_out = request.amount_in :=
    (ServiceLegQuoter.direct_origin horigin rfl hdirect).1
  have hpriced : destination.amount_in = request.destination_amount_in :=
    (ServiceLegQuoter.leg_quote_ok hdestination).1.amount_in
  rw [hquote_origin, hquote_destination, hout, hpriced]
  refine ⟨Iff.rfl, ?_⟩
  intro author authorization authored hauthorized hauthored
  rw [(author_plans_repays hauthored).1, hauthorized, hquote_in, hin]

end Repayment

/-! ## A sample chain -/

/-- Decimal digits, for amounts and hashes alike. -/
def decimal_text : WireText U256 :=
  { print := fun a => Nat.repr a.val
    parse := fun s =>
      match s.toNat? with
      | none => .error "invalid digit"
      | some n => if h : n < 2 ^ 256 then .ok ⟨n, h⟩ else .error "number too large"
    parse_print := by
      intro a
      rw [Nat.toNat?_repr]
      exact dif_pos a.isLt }

def decimal_texts : WireTexts := { amount := decimal_text, hash := decimal_text }

/-- One maker ships a constant-product strategy on the tokens 5 and 6. -/
def sample_book : List AquaEvent :=
  [.Shipped ⟨1⟩ 9 ⟨1⟩ [], .Pushed ⟨1⟩ 9 ⟨1⟩ 5 1000, .Pushed ⟨1⟩ 9 ⟨1⟩ 6 1000]

/-- The service of chain 10 over that book, with the tokens its catalog lists. -/
def sample_quoter (tokens : List Address) : ServiceLegQuoter :=
  { chain_id := ⟨10⟩
    quote :=
      { registry := Snapshot.replay (fun _ => .Priceable .Xyc []) sample_book
        caps := ([(.WalletBudget ⟨1⟩ 6, 1000), (.StrategyVirtual ⟨1⟩ ⟨1⟩ 6, 1000)] :
          List (AccountKey × U256)).foldl (fun m b => m.insert b.1 b.2) ∅
        guards := ∅
        assets := .new (tokens.map fun address =>
          { chain_id := 10, address, symbol := "", decimals := 18, logo_uri := none })
        config := { max_candidates := 8, max_legs := 4 }
        leg_cost := fun _ => 0 }
    latest := 10
    now_unix := 10
    ttl_secs := 90 }

/-- A client that pays `amount_in` on chain 1 and asks chain 10 to price 100. -/
def sample_request (amount_in : U256) : CrossChainQuoteRequest :=
  { request_id := 9
    origin_chain_id := 1
    destination_chain_id := 10
    origin_token_in := 5
    origin_token_out := 6
    destination_token_in := 5
    destination_token_out := 6
    amount_in
    destination_amount_in := 100
    deadline_unix := 100
    route := .Direct }

theorem sample_leg_quote (tokens : List Address) (amount_in : U256) :
    ∃ leg, (sample_quoter tokens).leg_quote text_hash decimal_texts
      (sample_request amount_in).destination = .ok leg := by
  refine ServiceLegQuoter.leg_quote_of_route rfl ?_
  intro _
  rw [QuoteService.isSome_quote]
  show (solve_sparse ((sample_quoter []).quote.selection (QuoteService.request text_hash 5 6 100))
    (QuoteService.request text_hash 5 6 100) 0 4 none).isSome = true
  decide +kernel

/-- The events of the sample are of one app. -/
theorem sample_book_app : ∀ event ∈ sample_book, event.key.app = 9 := by
  decide

/-- **A leg of listed tokens.** -/
theorem sample_leg_is_backed :
    ∃ leg, (sample_quoter [5, 6]).leg_quote text_hash decimal_texts
      (sample_request 100).destination = .ok leg ∧ FullyBacked text_hash leg := by
  obtain ⟨leg, hleg⟩ := sample_leg_quote [5, 6] 100
  refine ⟨leg, hleg, ?_⟩
  refine (leg_is_backed_iff text_hash decimal_texts (fun _ => .Priceable .Xyc []) 9 sample_book
    sample_book_app _ (sample_quoter [5, 6]) rfl rfl _ (.inl rfl) leg hleg).mpr ?_
  decide

/-- A leg of the sample promises something, and names no source for it where no
    token is listed. -/
theorem sample_leg_promises (tokens : List Address) {amount_in : U256} {leg : LegQuote}
    (h : (sample_quoter tokens).leg_quote text_hash decimal_texts
      (sample_request amount_in).destination = .ok leg) :
    leg.amount_out ≠ 0 ∧ (tokens = [] → leg.sources = []) := by
  have happ : ∀ (key : StrategyKey) (strategy : MakerStrategy),
      (sample_quoter tokens).quote.registry.strategies[key]? = some strategy → key.app = 9 := by
    intro key strategy hstored
    obtain ⟨event, hevent, rfl⟩ := Snapshot.addressed_of_replay _ hstored
    exact sample_book_app event hevent
  have hnot : ¬ ((sample_request amount_in).destination.role = .Origin ∧
      (sample_request amount_in).destination.route = .Direct) := by
    intro hrole
    exact absurd hrole.1 (show LegRole.Destination ≠ .Origin by decide)
  obtain ⟨r, split, hsold, hamount, -, hunlisted⟩ :=
    ServiceLegQuoter.routed_leg (Snapshot.indexed_replay _ sample_book) happ rfl hnot h
  refine ⟨?_, ?_⟩
  · rw [hamount]
    exact hsold.amount_out_ne_zero
  · rintro rfl
    exact hunlisted (by simp [ServiceLegQuoter.Listed])

/-- The same leg where the catalog lists no token: it promises an amount and
    names no source for it. -/
theorem unlisted_leg_is_unbacked :
    ∃ leg, (sample_quoter []).leg_quote text_hash decimal_texts
      (sample_request 100).destination = .ok leg ∧ leg.amount_out ≠ 0 ∧ leg.sources = [] ∧
        ¬ FullyBacked text_hash leg := by
  obtain ⟨leg, hleg⟩ := sample_leg_quote [] 100
  obtain ⟨hsome, hsources⟩ := sample_leg_promises [] hleg
  refine ⟨leg, hleg, hsome, hsources rfl, ?_⟩
  intro hbacked
  have hsum := hbacked.amount_out
  rw [hsources rfl] at hsum
  exact hsome (Fin.ext hsum.symm)

theorem sample_origin_quote (amount_in : U256) :
    ∃ leg, ({ sample_quoter [] with chain_id := ⟨1⟩ } : ServiceLegQuoter).leg_quote text_hash
      decimal_texts (sample_request amount_in).origin = .ok leg :=
  ServiceLegQuoter.leg_quote_of_route rfl fun hrouted => absurd ⟨rfl, rfl⟩ hrouted

/-- The proxy issues a direct aggregate on both samples. -/
theorem sample_aggregate {amount_in : U256} (hin : amount_in ≠ 0) {origin destination : LegQuote}
    (horigin : ({ sample_quoter [] with chain_id := ⟨1⟩ } : ServiceLegQuoter).leg_quote text_hash
      decimal_texts (sample_request amount_in).origin = .ok origin)
    (hdestination : (sample_quoter []).leg_quote text_hash decimal_texts
      (sample_request amount_in).destination = .ok destination) :
    (sample_request amount_in).leg_requests =
      .ok ((sample_request amount_in).origin, (sample_request amount_in).destination) ∧
    proxy_quote text_hash { origin := .ok origin, destination := .ok destination, cctp := none }
      10 = .ok (joined text_hash origin destination) := by
  have hrequests : (sample_request amount_in).leg_requests =
      .ok ((sample_request amount_in).origin, (sample_request amount_in).destination) := by
    unfold CrossChainQuoteRequest.leg_requests
    rw [if_neg]
    simp [sample_request, hin]
  have hout : destination.amount_out ≠ 0 := (sample_leg_promises [] hdestination).1
  have hexpires : min origin.expires_at_unix destination.expires_at_unix = 100 := by
    rw [(ServiceLegQuoter.leg_quote_ok horigin).1.expires_at_unix,
      (ServiceLegQuoter.leg_quote_ok hdestination).1.expires_at_unix]
    show min (min (100 : U64) (U64.saturating_add 10 90)) (min 100 (U64.saturating_add 10 90)) = 100
    decide
  exact ⟨hrequests, direct_quote_issued rfl hrequests horigin hdestination hout
    (by rw [hexpires]; decide) none⟩

/-- For one unit paid, the proxy issues an aggregate whose delivery was priced on
    a hundred and for which the maker is repaid one. -/
theorem dust_repays_a_delivery :
    ∃ origin destination quote,
      (sample_request 1).leg_requests =
        .ok ((sample_request 1).origin, (sample_request 1).destination) ∧
      ({ sample_quoter [] with chain_id := ⟨1⟩ } : ServiceLegQuoter).leg_quote text_hash
        decimal_texts (sample_request 1).origin = .ok origin ∧
      (sample_quoter []).leg_quote text_hash decimal_texts (sample_request 1).destination =
        .ok destination ∧
      Accepted text_hash quote origin destination ∧
      quote.origin.amount_out = 1 ∧ quote.destination.amount_in = 100 := by
  obtain ⟨origin, horigin⟩ := sample_origin_quote 1
  obtain ⟨destination, hdestination⟩ := sample_leg_quote [] 1
  obtain ⟨hrequests, hissued⟩ := sample_aggregate (by decide) horigin hdestination
  refine ⟨origin, destination, _, hrequests, horigin, hdestination, .inl ⟨none, 10, hissued⟩,
    ?_, ?_⟩
  · exact (ServiceLegQuoter.direct_origin horigin rfl rfl).1
  · exact (ServiceLegQuoter.leg_quote_ok hdestination).1.amount_in

/-- Where a hundred is paid, the repayment covers it. -/
theorem sample_repayment_covers :
    ∃ origin destination,
      ∃ quote, Accepted text_hash quote origin destination ∧
        quote.destination.amount_in ≤ quote.origin.amount_out := by
  obtain ⟨origin, horigin⟩ := sample_origin_quote 100
  obtain ⟨destination, hdestination⟩ := sample_leg_quote [] 100
  obtain ⟨hrequests, hissued⟩ := sample_aggregate (by decide) horigin hdestination
  have haccepted : Accepted text_hash (joined text_hash origin destination) origin destination :=
    .inl ⟨none, 10, hissued⟩
  refine ⟨origin, destination, _, haccepted, ?_⟩
  exact (direct_repayment_covers_iff text_hash decimal_texts (sample_request 100) rfl _ _ hrequests
    _ _ origin destination horigin hdestination _ haccepted).1.mpr (by decide)

end Solvent
