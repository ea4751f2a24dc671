import Mathlib
import Solvent.Crosschain.Preparation
import Solvent.Ledger.Effects

/-! # The chain-local service

    Quoting and preparing one chain's leg of a cross-chain order. `prepare`
    reserves the leg's capital and records a preparation; `commit`, `release`
    and `mark_executed` move both on. Each of the three loads the preparation,
    makes one ledger call and then overwrites the preparation, so each is
    written here as its ledger half followed by `finish`: a crash can fall
    between the two.
-/

namespace Solvent

open BTreeMap

structure LocalCrossChainService where
  chain_id : ChainId
  /-- The table `crosschain_leg_quote`. -/
  quotes : BTreeMap B256 LegQuote
  preparations : SqlitePreparationStore
  ledger : LedgerService

namespace LocalCrossChainService

/-- A service over empty stores. -/
def new (chain_id : ChainId) : LocalCrossChainService :=
  { chain_id, quotes := ∅, preparations := .empty, ledger := .new ∅ }

/-! ## Quoting -/

def validate_leg (request : LegQuoteRequest) (quote : LegQuote) (now_unix : U64) :
    Except SolventError Unit :=
  if ¬ (quote.request_id = request.request_id ∧ quote.role = request.role ∧
      quote.local_chain = request.local_chain ∧ quote.remote_chain = request.remote_chain ∧
      quote.input_token = request.input_token ∧ quote.output_token = request.output_token ∧
      quote.route = request.route ∧ quote.amount_in = request.amount) then
    .error (.InvalidCrossChain "chain-local quote does not match its request")
  else if quote.expires_at_unix ≤ now_unix ∨ request.deadline_unix < quote.expires_at_unix then
    .error (.InvalidCrossChain "chain-local quote has an invalid expiry")
  else .ok ()

/-- `INSERT … ON CONFLICT(quote_id) DO NOTHING`, then read the row back. -/
def insert_quote (quotes : BTreeMap B256 LegQuote) (quote : LegQuote) :
    Except SolventError LegQuote × BTreeMap B256 LegQuote :=
  match i64_of quote.expires_at_unix with
  | .error e => (.error (.LegQuoteStore (.Backend e)), quotes)
  | .ok _ =>
    match quotes[quote.quote_id]? with
    | some stored =>
      if stored = quote then (.ok stored, quotes)
      else (.error (.LegQuoteStore .Conflict), quotes)
    | none => (.ok quote, quotes.insert quote.quote_id quote)

/-- What `quote` asks its ports for: the clock, twice, and the quoter. -/
structure QuoteReads where
  now_unix : U64
  answer : Except SolventError LegQuote
  validated_at : U64

def quote (s : LocalCrossChainService) (reads : QuoteReads) (request : LegQuoteRequest) :
    Except SolventError LegQuote × LocalCrossChainService :=
  if request.local_chain ≠ s.chain_id then
    (.error (.InvalidCrossChain
      s!"request chain {request.local_chain.id} does not match service chain {s.chain_id.id}"), s)
  else if request.deadline_unix ≤ reads.now_unix then
    (.error (.InvalidCrossChain "quote deadline has expired"), s)
  else match reads.answer with
    | .error e => (.error e, s)
    | .ok quote =>
      match validate_leg request quote reads.validated_at with
      | .error e => (.error e, s)
      | .ok () =>
        let (answer, quotes) := insert_quote s.quotes quote
        (answer, { s with quotes })

/-! ## Preparing -/

/-- What `prepare` asks its ports for: the clock at the expiry check and for the
    TTL, and what the ledger reads. -/
structure PrepareReads where
  checked_at : U64
  ttl_at : U64
  ledger : Reads

/-- The checks of `prepare` on the quote it is given. -/
def check_quote (keccak256 : List UInt8 → B256) (s : LocalCrossChainService) (now : U64)
    (quote : LegQuote) : Except SolventError Unit :=
  if quote.local_chain ≠ s.chain_id then
    .error (.InvalidCrossChain "cannot prepare a quote owned by another chain")
  else if quote.expires_at_unix ≤ now then
    .error (.InvalidCrossChain "cannot prepare an expired quote")
  else if quote.quote_id ≠ leg_quote_id keccak256 quote then
    .error (.InvalidCrossChain "chain-local quote fingerprint is invalid")
  else match s.quotes[quote.quote_id]? with
    | none => .error (.InvalidCrossChain "chain-local quote was not issued by this service")
    | some issued =>
      if issued ≠ quote then
        .error (.InvalidCrossChain "chain-local quote terms differ from the issued quote")
      else .ok ()

/-- The preparation a quote asks for. -/
def preparation_of (keccak256 : List UInt8 → B256) (s : LocalCrossChainService)
    (aggregate_id : AggregateQuoteId) (quote : LegQuote) : Preparation :=
  { token := preparation_token keccak256 aggregate_id s.chain_id quote.role
    quote_id := aggregate_id
    role := quote.role
    chain_id := s.chain_id
    state := .Prepared
    expires_at_unix := quote.expires_at_unix }

/-- Reserve the leg's capital; a reservation already recorded will do. -/
def reserve (s : LocalCrossChainService) (reads : PrepareReads) (p : Preparation)
    (quote : LegQuote) : Except SolventError Unit × LocalCrossChainService :=
  match s.ledger.reserve reads.ledger p.token.reservation ⟨p.quote_id.hash⟩ quote.sources
      (quote.expires_at_unix.saturating_sub reads.ttl_at) with
  | (.ok (), ledger) => (.ok (), { s with ledger })
  | (.error (.Ledger (.Duplicate _)), ledger) => (.ok (), { s with ledger })
  | (.error e, ledger) => (.error e, { s with ledger })

def insert (s : LocalCrossChainService) (p : Preparation) :
    Except SolventError Preparation × LocalCrossChainService :=
  let (answer, preparations) := s.preparations.insert p
  (answer.mapError .PreparationStore, { s with preparations })

def prepare (keccak256 : List UInt8 → B256) (s : LocalCrossChainService) (reads : PrepareReads)
    (aggregate_id : AggregateQuoteId) (quote : LegQuote) :
    Except SolventError Preparation × LocalCrossChainService :=
  match s.check_quote keccak256 reads.checked_at quote with
  | .error e => (.error e, s)
  | .ok () =>
    match s.preparations.load_for_quote aggregate_id quote.role with
    | some existing => (.ok existing, s)
    | none =>
      let p := s.preparation_of keccak256 aggregate_id quote
      match s.reserve reads p quote with
      | (.error e, s) => (.error e, s)
      | (.ok (), s) => s.insert p

/-! ## Commit, release, execute -/

def load_owned (s : LocalCrossChainService) (token : PrepareToken) :
    Except SolventError Preparation :=
  match s.preparations.load token with
  | none => .error (.InvalidCrossChain "unknown preparation token")
  | some p =>
    if p.chain_id ≠ s.chain_id then
      .error (.InvalidCrossChain "preparation belongs to another chain")
    else .ok p

def inspect (s : LocalCrossChainService) (token : PrepareToken) :
    Except SolventError Preparation :=
  s.load_owned token

/-- A refused transition as the service reports it. -/
def invariant (answer : Except PreparationTransition Preparation) :
    Except SolventError Preparation :=
  answer.mapError fun e => .InvalidCrossChain e.to_string

/-- The checks of `commit` on the loaded preparation. -/
def check_commit (now : U64) (p : Preparation) : Except SolventError Preparation :=
  if p.expires_at_unix ≤ now then
    .error (.InvalidCrossChain "preparation expired before commit")
  else invariant p.commit

/-- The ledger call of `release`: a reservation already voided will do. -/
def void (ledger : LedgerService) (token : PrepareToken) :
    Except SolventError Unit × LedgerService :=
  match ledger.void token.reservation with
  | (.ok (), ledger) => (.ok (), ledger)
  | (.error (.Ledger (.WrongState _ .Voided _)), ledger) => (.ok (), ledger)
  | (.error e, ledger) => (.error e, ledger)

/-- The amounts `mark_executed` settles: those of the reservation's sources. -/
def settlement (ledger : LedgerService) (token : PrepareToken) : Except SolventError (List U256) :=
  match ledger.settlement_reservation_sources token.reservation with
  | none => .error (.InvalidCrossChain "preparation has no capital reservation")
  | some sources => .ok (sources.map ReservationSource.amount)

/-- The ledger call of `mark_executed`: a reservation already posted will do. -/
def post (ledger : LedgerService) (token : PrepareToken) (filled : List U256) :
    Except SolventError Unit × LedgerService :=
  match ledger.post token.reservation filled with
  | (.ok (), ledger) => (.ok (), ledger)
  | (.error (.Ledger (.WrongState _ .Posted _)), ledger) => (.ok (), ledger)
  | (.error e, ledger) => (.error e, ledger)

/-- The three operations that end with an overwrite of the preparation. -/
inductive Operation where
  | commit (now : U64)
  | release
  | mark_executed

/-- The preparation an operation writes, from the one it loaded. -/
def Operation.check : Operation → Preparation → Except SolventError Preparation
  | .commit now, p => check_commit now p
  | .release, p => invariant p.release
  | .mark_executed, p => invariant p.execute

/-- The ledger calls of an operation on the loaded preparation `p`. A release or
    an execution already recorded makes none. -/
def Operation.settle (op : Operation) (ledger : LedgerService) (p : Preparation)
    (token : PrepareToken) : Except SolventError Unit × LedgerService :=
  match op with
  | .commit _ => ledger.commit token.reservation
  | .release => if p.state = .Released then (.ok (), ledger) else void ledger token
  | .mark_executed =>
    if p.state = .Executed then (.ok (), ledger)
    else match settlement ledger token with
      | .error e => (.error e, ledger)
      | .ok filled => post ledger token filled

/-- An operation up to its preparation write: the preparation to write, and the
    service after the ledger calls. -/
def half (s : LocalCrossChainService) (op : Operation) (token : PrepareToken) :
    Except SolventError Preparation × LocalCrossChainService :=
  match s.load_owned token with
  | .error e => (.error e, s)
  | .ok p =>
    match op.check p with
    | .error e => (.error e, s)
    | .ok p' =>
      let (answer, ledger) := op.settle s.ledger p token
      (answer.map fun _ => p', { s with ledger })

/-- The preparation write. -/
def finish (s : LocalCrossChainService) (p : Preparation) :
    Except SolventError Preparation × LocalCrossChainService :=
  match s.preparations.update p with
  | (.error e, preparations) => (.error (.PreparationStore e), { s with preparations })
  | (.ok (), preparations) => (.ok p, { s with preparations })

def perform (s : LocalCrossChainService) (op : Operation) (token : PrepareToken) :
    Except SolventError Preparation × LocalCrossChainService :=
  match s.half op token with
  | (.error e, s) => (.error e, s)
  | (.ok p, s) => s.finish p

def commit (s : LocalCrossChainService) (now : U64) (token : PrepareToken) :
    Except SolventError Preparation × LocalCrossChainService :=
  s.perform (.commit now) token

def release (s : LocalCrossChainService) (token : PrepareToken) :
    Except SolventError Preparation × LocalCrossChainService :=
  s.perform .release token

def mark_executed (s : LocalCrossChainService) (token : PrepareToken) :
    Except SolventError Preparation × LocalCrossChainService :=
  s.perform .mark_executed token

/-- A restart: the stores stay, the ledger is recovered from its store. -/
def restart (s : LocalCrossChainService) (budget : AccountKey → U256) : LocalCrossChainService :=
  { s with ledger := s.ledger.recovered budget }

end LocalCrossChainService

end Solvent
