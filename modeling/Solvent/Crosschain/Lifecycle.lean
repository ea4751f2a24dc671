import Mathlib
import Solvent.Framework.Run
import Solvent.Crosschain.Local

/-! # Runs of the chain-local service

    Operations, sweeps and restarts in any order, with crashes between an
    operation's ledger write and its preparation write. Two questions are
    settled for every state such a run reaches: when a release frees the capital
    of an unexecuted preparation, and when an interrupted operation can be
    repeated.
-/

namespace Solvent

open BTreeMap

namespace LocalCrossChainService

/-! ## One lemma per operation -/

/-- The state an operation leaves the preparation in. -/
def Operation.final : Operation → PreparationState
  | .commit _ => .Committed
  | .release => .Released
  | .mark_executed => .Executed

/-- The states an operation moves the reservation from, and the one it moves it to. -/
def Operation.takes : Operation → List ReservationState
  | .commit _ => [.Pending]
  | .release | .mark_executed => [.Pending, .Committed]

def Operation.leaves : Operation → ReservationState
  | .commit _ => .Committed
  | .release => .Voided
  | .mark_executed => .Posted

theorem move_ok {p q : Preparation} {from_states : List PreparationState}
    {to_state : PreparationState} (h : invariant (p.move from_states to_state) = .ok q) :
    p.state ∈ from_states ∧ q = { p with state := to_state } := by
  unfold invariant Preparation.move at h
  split at h
  · rename_i hmem
    simp only [Except.mapError, Except.ok.injEq] at h
    exact ⟨hmem, h.symm⟩
  · simp [Except.mapError] at h

/-- An operation changes the state of the preparation and nothing else. -/
theorem check_ok {op : Operation} {p q : Preparation} (h : op.check p = .ok q) :
    q = { p with state := op.final } := by
  match op with
  | .commit now =>
    simp only [Operation.check, check_commit] at h
    split at h
    · cases h
    · exact (move_ok h).2
  | .release => exact (move_ok h).2
  | .mark_executed => exact (move_ok h).2

theorem load_owned_eq {s : LocalCrossChainService} {token : PrepareToken} {p : Preparation}
    (hload : s.preparations.load token = some p) (hown : p.chain_id = s.chain_id) :
    s.load_owned token = .ok p := by
  unfold load_owned
  rw [hload]
  simp [hown]

theorem load_owned_ok {s : LocalCrossChainService} {token : PrepareToken} {p : Preparation}
    (h : s.load_owned token = .ok p) :
    s.preparations.load token = some p ∧ p.chain_id = s.chain_id := by
  unfold load_owned at h
  split at h
  · cases h
  · rename_i q hq
    split at h
    · cases h
    · rename_i hown
      obtain rfl := Except.ok.inj h
      exact ⟨hq, by simpa using hown⟩

/-- **What an operation does** on a preparation the service owns. The write
    cannot fail: the row it overwrites is the one it loaded. -/
theorem perform_eq {s : LocalCrossChainService} {token : PrepareToken} {p : Preparation}
    (hload : s.preparations.load token = some p) (hown : p.chain_id = s.chain_id)
    (op : Operation) :
    s.perform op token =
      match op.check p with
      | .error e => (.error e, s)
      | .ok q =>
        match op.settle s.ledger p token with
        | (.error e, ledger) => (.error e, { s with ledger })
        | (.ok (), ledger) =>
          (.ok q, { s with ledger, preparations := s.preparations.write q }) := by
  unfold perform half
  rw [load_owned_eq hload hown]
  match hcheck : op.check p with
  | .error e => simp [hcheck]
  | .ok q =>
    have htoken : q.token = token := by
      rw [check_ok hcheck]
      exact s.preparations.keyed token p hload
    match hsettle : op.settle s.ledger p token with
    | (.error e, ledger) => simp [hcheck, hsettle, Except.map]
    | (.ok (), ledger) =>
      have hupdate : s.preparations.update q = (.ok (), s.preparations.write q) := by
        rcases s.preparations.update_cases q with ⟨e, _, hnone⟩ | ⟨heq, _⟩
        · rw [htoken, hload] at hnone
          cases hnone
        · exact heq
      simp [hcheck, hsettle, Except.map, finish, hupdate]

/-- Where the operation succeeds. -/
theorem perform_ok {s : LocalCrossChainService} {token : PrepareToken} {op : Operation}
    {q : Preparation} (h : (s.perform op token).1 = .ok q) :
    ∃ p, s.preparations.load token = some p ∧ p.chain_id = s.chain_id ∧ op.check p = .ok q ∧
      (op.settle s.ledger p token).1 = .ok () ∧
      (s.perform op token).2 =
        { s with ledger := (op.settle s.ledger p token).2,
                 preparations := s.preparations.write q } := by
  cases hload : s.load_owned token with
  | error e => simp [perform, half, hload] at h
  | ok p =>
    obtain ⟨hrow, hown⟩ := load_owned_ok hload
    have heq := perform_eq hrow hown op
    rw [heq] at h ⊢
    match hcheck : op.check p with
    | .error e => simp [hcheck] at h
    | .ok q' =>
      match hsettle : op.settle s.ledger p token with
      | (.error e, ledger) => simp [hcheck, hsettle] at h
      | (.ok (), ledger) =>
        simp only [hcheck, hsettle] at h
        obtain rfl := Except.ok.inj h
        exact ⟨p, hrow, hown, hcheck, by rw [hsettle], by simp only [hsettle]⟩

/-! ## The ledger calls -/

theorem settlement_some {ledger : LedgerService} {token : PrepareToken} {filled : List U256}
    (h : settlement ledger token = .ok filled) :
    ∃ r, ledger.ledger.reservations[token.reservation]? = some r ∧
      (r.state = .Committed ∨ r.state = .Posted) ∧
      filled = r.sources.map ReservationSource.amount := by
  unfold settlement LedgerService.settlement_reservation_sources Ledger.reservation at h
  match hr : ledger.ledger.reservations[token.reservation]? with
  | none => simp [hr] at h
  | some r =>
    rw [hr] at h
    by_cases hstate : r.state = .Committed ∨ r.state = .Posted
    · rw [Option.filter_some_pos (by simpa using hstate)] at h
      exact ⟨r, rfl, hstate, (Except.ok.inj h).symm⟩
    · rw [Option.filter_some_neg (by simpa using hstate)] at h
      cases h

/-- Settling each source in full is within what was reserved. -/
theorem settlement_within {ledger : LedgerService} {token : PrepareToken} {filled : List U256}
    (h : settlement ledger token = .ok filled) (r : Reservation)
    (hr : ledger.ledger.reservations[token.reservation]? = some r) :
    FillsWithin r.sources filled := by
  obtain ⟨r', hr', _, rfl⟩ := settlement_some h
  rw [hr] at hr'
  obtain rfl := Option.some.inj hr'
  unfold FillsWithin
  rw [List.forall₂_map_right_iff, List.forall₂_same]
  intro source _
  exact le_refl _

theorem ledger_void (ledger : LedgerService) (token : PrepareToken) :
    (void ledger token).2 = (ledger.void token.reservation).2 := by
  unfold void
  split <;> simp_all

theorem ledger_post (ledger : LedgerService) (token : PrepareToken) (filled : List U256) :
    (post ledger token filled).2 = (ledger.post token.reservation filled).2 := by
  unfold post
  split <;> simp_all

/-- **What the ledger calls of an operation do.** They leave the ledger alone, or
    move the token's reservation in both halves. -/
theorem settle_shifts (op : Operation) (ledger : LedgerService) (p : Preparation)
    (token : PrepareToken) :
    (op.settle ledger p token).2 = ledger ∨
    ledger.Shifts [token.reservation] op.takes op.leaves (op.settle ledger p token).2 := by
  match op with
  | .commit now => exact .inr (ledger.shifts_commit token.reservation)
  | .release =>
    simp only [Operation.settle]
    split
    · exact .inl rfl
    · rw [ledger_void]
      exact .inr (ledger.shifts_void token.reservation)
  | .mark_executed =>
    simp only [Operation.settle]
    split
    · exact .inl rfl
    · match hsettle : settlement ledger token with
      | .error e => exact .inl rfl
      | .ok filled =>
        simp only
        rw [ledger_post]
        exact .inr (ledger.shifts_post token.reservation filled (settlement_within hsettle))

theorem takes_open (op : Operation) : ∀ state ∈ op.takes, state.is_open = true := by
  cases op <;> simp [Operation.takes, ReservationState.is_open]

theorem openAlike_settle {ledger : LedgerService} (h : ledger.OpenAlike) (op : Operation)
    (p : Preparation) (token : PrepareToken) : (op.settle ledger p token).2.OpenAlike := by
  rcases settle_shifts op ledger p token with hsame | hshifts
  · rw [hsame]
    exact h
  · exact LedgerService.openAlike_of_shifts hshifts h (takes_open op)

/-! ## Runs -/

/-- The service after the ledger call of a `prepare`, before its insert. -/
def prepare_ledger (keccak256 : List UInt8 → B256) (s : LocalCrossChainService)
    (reads : PrepareReads) (aggregate_id : AggregateQuoteId) (quote : LegQuote) :
    LocalCrossChainService :=
  match s.check_quote keccak256 reads.checked_at quote,
      s.preparations.load_for_quote aggregate_id quote.role with
  | .ok (), none => (s.reserve reads (s.preparation_of keccak256 aggregate_id quote) quote).2
  | _, _ => s

end LocalCrossChainService

inductive LocalCommand where
  | quote (reads : LocalCrossChainService.QuoteReads) (request : LegQuoteRequest)
  | prepare (reads : LocalCrossChainService.PrepareReads) (aggregate_id : AggregateQuoteId)
      (quote : LegQuote)
  | perform (op : LocalCrossChainService.Operation) (token : PrepareToken)
  /-- A sweep of the reconcile loop. -/
  | sweep (reads : Reads) (exclude : List ReservationId)
  | restart (budget : AccountKey → U256)
  /-- A crash between the ledger write and the preparation write, and a restart. -/
  | crash (op : LocalCrossChainService.Operation) (token : PrepareToken)
      (budget : AccountKey → U256)
  | crash_prepare (reads : LocalCrossChainService.PrepareReads)
      (aggregate_id : AggregateQuoteId) (quote : LegQuote) (budget : AccountKey → U256)

namespace LocalCrossChainService

def next (keccak256 : List UInt8 → B256) (s : LocalCrossChainService) :
    LocalCommand → LocalCrossChainService
  | .quote reads request => (s.quote reads request).2
  | .prepare reads aggregate_id quote => (s.prepare keccak256 reads aggregate_id quote).2
  | .perform op token => (s.perform op token).2
  | .sweep reads exclude => { s with ledger := (s.ledger.sweep_expired reads exclude).2 }
  | .restart budget => s.restart budget
  | .crash op token budget => (s.half op token).2.restart budget
  | .crash_prepare reads aggregate_id quote budget =>
    (s.prepare_ledger keccak256 reads aggregate_id quote).restart budget

/-- What every run keeps: the preparations are the service's own, and the two
    halves of the ledger agree on what is open. -/
structure Owned (chain_id : ChainId) (s : LocalCrossChainService) : Prop where
  chain : s.chain_id = chain_id
  rows : ∀ token p, s.preparations.load token = some p → p.chain_id = chain_id
  alike : s.ledger.OpenAlike

section Step

variable {keccak256 : List UInt8 → B256} {chain_id : ChainId} {s : LocalCrossChainService}

theorem Owned.write (h : Owned chain_id s) {p : Preparation} (hp : p.chain_id = chain_id)
    {ledger : LedgerService} (hledger : ledger.OpenAlike) :
    Owned chain_id { s with ledger, preparations := s.preparations.write p } where
  chain := h.chain
  rows := by
    intro token q hq
    rw [SqlitePreparationStore.load_write] at hq
    split at hq
    · rw [← Option.some.inj hq]
      exact hp
    · exact h.rows token q hq
  alike := hledger

theorem Owned.ledger (h : Owned chain_id s) {ledger : LedgerService}
    (hledger : ledger.OpenAlike) : Owned chain_id { s with ledger } :=
  { chain := h.chain, rows := h.rows, alike := hledger }

theorem owned_quote (h : Owned chain_id s) (reads : QuoteReads) (request : LegQuoteRequest) :
    Owned chain_id (s.quote reads request).2 := by
  unfold quote
  split
  · exact h
  split
  · exact h
  split
  · exact h
  split
  · exact h
  · exact { chain := h.chain, rows := h.rows, alike := h.alike }

theorem reserve_eq (s : LocalCrossChainService) (reads : PrepareReads) (p : Preparation)
    (quote : LegQuote) :
    (s.reserve reads p quote).2 =
      { s with
        ledger := (s.ledger.reserve reads.ledger p.token.reservation ⟨p.quote_id.hash⟩ quote.sources
          (quote.expires_at_unix.saturating_sub reads.ttl_at)).2 } := by
  unfold reserve
  split <;> simp_all

theorem owned_reserve (h : Owned chain_id s) (reads : PrepareReads) (p : Preparation)
    (quote : LegQuote) : Owned chain_id (s.reserve reads p quote).2 := by
  rw [reserve_eq]
  exact h.ledger (LedgerService.openAlike_reserve h.alike _ _ _ _ _)

theorem owned_insert (h : Owned chain_id s) {p : Preparation} (hp : p.chain_id = chain_id) :
    Owned chain_id (s.insert p).2 := by
  unfold insert
  rcases s.preparations.insert_cases p with ⟨e, heq⟩ | ⟨heq, _⟩ | ⟨heq, _⟩
  · rw [heq]
    exact h
  · rw [heq]
    exact h
  · rw [heq]
    exact h.write hp h.alike

theorem owned_prepare (h : Owned chain_id s) (reads : PrepareReads)
    (aggregate_id : AggregateQuoteId) (quote : LegQuote) :
    Owned chain_id (s.prepare keccak256 reads aggregate_id quote).2 := by
  unfold prepare
  split
  · exact h
  split
  · exact h
  · have hreserved := owned_reserve h reads (s.preparation_of keccak256 aggregate_id quote) quote
    simp only
    split
    · rename_i hreserve
      rw [hreserve] at hreserved
      exact hreserved
    · rename_i hreserve
      rw [hreserve] at hreserved
      exact owned_insert hreserved h.chain

theorem owned_half (h : Owned chain_id s) (op : Operation) (token : PrepareToken) :
    Owned chain_id (s.half op token).2 := by
  unfold half
  split
  · exact h
  split
  · exact h
  · exact h.ledger (openAlike_settle h.alike _ _ _)

theorem owned_perform (h : Owned chain_id s) (op : Operation) (token : PrepareToken) :
    Owned chain_id (s.perform op token).2 := by
  have hhalf := owned_half h op token
  cases hanswer : (s.perform op token).1 with
  | ok q =>
    obtain ⟨p, hload, hown, hcheck, _, heq⟩ := perform_ok hanswer
    rw [heq]
    apply h.write
    · rw [check_ok hcheck]
      exact h.rows token p hload
    · exact openAlike_settle h.alike op p token
  | error e =>
    unfold perform at hanswer ⊢
    split at hanswer
    · rename_i hfail
      rw [hfail] at hhalf
      exact hhalf
    · rename_i p s' hdone
      rw [hdone] at hhalf
      unfold finish at hanswer ⊢
      rcases s'.preparations.update_cases p with ⟨e', heq, _⟩ | ⟨heq, _⟩
      · rw [heq]
        exact hhalf
      · rw [heq] at hanswer
        cases hanswer

theorem owned_restart (h : Owned chain_id s) (budget : AccountKey → U256) :
    Owned chain_id (s.restart budget) :=
  h.ledger (LedgerService.openAlike_recovered s.ledger budget)

/-- **Step lemma.** -/
theorem owned_next (h : Owned chain_id s) (c : LocalCommand) :
    Owned chain_id (s.next keccak256 c) := by
  match c with
  | .quote reads request => exact owned_quote h reads request
  | .prepare reads aggregate_id quote => exact owned_prepare h reads aggregate_id quote
  | .perform op token => exact owned_perform h op token
  | .sweep reads exclude =>
    obtain ⟨swept, hshifts⟩ := s.ledger.shifts_sweep reads exclude
    exact h.ledger (LedgerService.openAlike_of_shifts hshifts h.alike (by decide))
  | .restart budget => exact owned_restart h budget
  | .crash op token budget => exact owned_restart (owned_half h op token) budget
  | .crash_prepare reads aggregate_id quote budget =>
    apply owned_restart
    unfold prepare_ledger
    split
    · exact owned_reserve h reads _ quote
    · exact h

end Step

/-- **Run lemma.** -/
theorem owned_run (keccak256 : List UInt8 → B256) (chain_id : ChainId)
    (commands : List LocalCommand) :
    Owned chain_id (Run.run (next keccak256) (new chain_id) commands) := by
  have hnew : Owned chain_id (new chain_id) :=
    { chain := rfl
      rows := by simp [new, SqlitePreparationStore.empty, SqlitePreparationStore.load]
      alike := LedgerService.openAlike_new }
  exact Run.invariant (P := Owned chain_id) (Q := fun _ _ => True)
    (fun s c h _ => owned_next h c) hnew (Run.along_of_forall (fun _ _ _ => trivial) _)

/-! ## Release -/

/-- A release that does what it is for: it succeeds, the stored preparation is
    released, and no open reservation of the token is left in memory or in the
    store. -/
def Frees (s : LocalCrossChainService) (token : PrepareToken) : Prop :=
  ∃ p, (s.release token).1 = .ok p ∧
    (s.release token).2.preparations.load token = some p ∧ p.state = .Released ∧
    LedgerService.open_part ((s.release token).2.ledger.memory token.reservation) = none ∧
    LedgerService.open_part ((s.release token).2.ledger.durable token.reservation) = none

/-- The states of a reservation that `release` accepts. -/
def releasable : List ReservationState := [.Pending, .Committed, .Voided]

theorem void_ok_iff (ledger : LedgerService) (token : PrepareToken) :
    (void ledger token).1 = .ok () ↔
      ∃ b, ledger.memory token.reservation = some b ∧ b.2 ∈ releasable := by
  have hanswer := ledger.void_answer token.reservation
  unfold void
  match hmemory : ledger.memory token.reservation with
  | none =>
    rw [hmemory] at hanswer
    split
    · simp_all [LedgerService.active_answer]
    · simp_all [LedgerService.active_answer]
    · simp
  | some (owner, state) =>
    rw [hmemory] at hanswer
    cases state <;> split <;>
      simp_all [LedgerService.active_answer, ReservationState.is_open, releasable]

/-- A closing move leaves nothing open. -/
theorem open_part_shift {to_state : ReservationState} (hclosed : to_state.is_open = false)
    (b : Option (ReservationOwner × ReservationState)) :
    LedgerService.open_part (LedgerService.shift [.Pending, .Committed] to_state b) = none := by
  rw [LedgerService.open_part_none]
  intro x hx
  obtain ⟨y, _, rfl⟩ := Option.map_eq_some_iff.mp hx
  split
  · exact hclosed
  · rename_i hmem
    rw [← LedgerService.open_iff_mem] at hmem
    simpa using hmem

/-- **Release frees an unexecuted preparation** exactly when memory still knows
    its reservation as pending, committed or voided: not when a sweep expired it,
    and not when a restart forgot it. -/
theorem release_frees_iff (keccak256 : List UInt8 → B256) (chain_id : ChainId)
    (commands : List LocalCommand) (token : PrepareToken) (p : Preparation) :
    let s := Run.run (next keccak256) (new chain_id) commands
    s.preparations.load token = some p → p.state = .Prepared ∨ p.state = .Committed →
      (s.Frees token ↔
        ∃ b, s.ledger.memory token.reservation = some b ∧ b.2 ∈ releasable) := by
  intro s hload hstate
  have hinv : Owned chain_id s := owned_run keccak256 chain_id commands
  have hown : p.chain_id = s.chain_id := by
    rw [hinv.chain]
    exact hinv.rows token p hload
  have hcheck : Operation.release.check p = .ok { p with state := .Released } := by
    rcases hstate with h | h <;>
      simp [Operation.check, invariant, Preparation.release, Preparation.move, h, Except.mapError]
  have hunreleased : p.state ≠ .Released := by
    rcases hstate with h | h <;> simp [h]
  have hsettle : Operation.release.settle s.ledger p token = void s.ledger token := by
    simp [Operation.settle, hunreleased]
  have heq := perform_eq hload hown .release
  rw [hcheck, hsettle] at heq
  rw [← void_ok_iff]
  constructor
  · -- A release that answers has had its ledger call accepted.
    intro hfrees
    obtain ⟨q, hok, _⟩ := hfrees
    unfold release at hok
    rw [heq] at hok
    match hvoid : void s.ledger token with
    | (.ok (), ledger) => rfl
    | (.error e, ledger) => simp [hvoid] at hok
  · intro hok
    have hledger := ledger_void s.ledger token
    have hshifts := s.ledger.shifts_void token.reservation
    match hvoid : void s.ledger token with
    | (.error e, ledger) => simp [hvoid] at hok
    | (.ok (), ledger) =>
      rw [hvoid] at heq hledger
      have hledger' : ledger = (s.ledger.void token.reservation).2 := hledger
      unfold Frees release
      rw [heq]
      refine ⟨{ p with state := .Released }, rfl, ?_, rfl, ?_, ?_⟩
      · rw [SqlitePreparationStore.load_write]
        exact if_pos (s.preparations.keyed token p hload)
      · show LedgerService.open_part (ledger.memory token.reservation) = none
        rw [hledger', hshifts.memory]
        simpa using open_part_shift (by rfl) (s.ledger.memory token.reservation)
      · show LedgerService.open_part (ledger.durable token.reservation) = none
        rw [hledger', hshifts.durable]
        simpa using open_part_shift (by rfl) (s.ledger.durable token.reservation)

/-! ## Repeating an interrupted operation -/

/-- The same operation at a later clock. -/
def Operation.again (now : U64) : Operation → Operation
  | .commit _ => .commit now
  | .release => .release
  | .mark_executed => .mark_executed

/-- The operation is interrupted after its ledger write, the service restarts,
    and the operation is called again at `now`: it succeeds and leaves the stored
    preparation and the ledger's store as the uninterrupted call does. -/
def Retries (s : LocalCrossChainService) (op : Operation) (token : PrepareToken)
    (budget : AccountKey → U256) (now : U64) : Prop :=
  let again := ((s.half op token).2.restart budget).perform (op.again now) token
  (∃ p, again.1 = .ok p) ∧
    again.2.preparations.load token = (s.perform op token).2.preparations.load token ∧
    again.2.ledger.store = (s.perform op token).2.ledger.store

/-- When an interrupted operation can be repeated: a commit until the
    preparation expires, a release or an execution only where it was already
    recorded before the call. -/
def Operation.Repeatable (now : U64) (p : Preparation) : Operation → Prop
  | .commit _ => now < p.expires_at_unix
  | .release => p.state = .Released
  | .mark_executed => p.state = .Executed

/-- The service after a crash past the ledger write. -/
theorem half_eq {s : LocalCrossChainService} {token : PrepareToken} {op : Operation}
    {p q : Preparation} (hload : s.preparations.load token = some p)
    (hown : p.chain_id = s.chain_id) (hcheck : op.check p = .ok q) :
    (s.half op token).2 = { s with ledger := (op.settle s.ledger p token).2 } := by
  unfold half
  rw [load_owned_eq hload hown]
  simp [hcheck]

theorem commit_commit (store : SqliteLedgerStore) (id : ReservationId) :
    SqliteLedgerStore.commit (SqliteLedgerStore.commit store id) id =
      SqliteLedgerStore.commit store id := by
  unfold SqliteLedgerStore.commit SqliteLedgerStore.transition
  generalize hdone : SqliteLedgerStore.update_where store id [.Pending]
    (fun row => { row with state := .Committed }) = done
  unfold SqliteLedgerStore.update_where
  match hrow : done[id]? with
  | none => rfl
  | some row =>
    have hstate : row.state ∉ [ReservationState.Pending] := by
      rw [← hdone, LedgerService.get_update_where, if_pos rfl] at hrow
      obtain ⟨before, _, rfl⟩ := Option.map_eq_some_iff.mp hrow
      split
      · simp
      · assumption
    simp only [hstate, if_false]

theorem recovered_memory (ledger : LedgerService) (budget : AccountKey → U256)
    (id : ReservationId) :
    (ledger.recovered budget).memory id = LedgerService.open_part (ledger.durable id) :=
  (LedgerService.recovered_evolves ledger budget).2 id

/-- A reservation that was committed in both halves is recovered as committed. -/
theorem recovered_committed {ledger : LedgerService} (halike : ledger.OpenAlike)
    {id : ReservationId} (hok : (ledger.commit id).1 = .ok ()) (budget : AccountKey → U256) :
    ∃ owner, ((ledger.commit id).2.recovered budget).memory id = some (owner, .Committed) := by
  have hanswer := ledger.commit_answer id
  rw [hok] at hanswer
  match hmemory : ledger.memory id with
  | none => simp [hmemory, LedgerService.active_answer] at hanswer
  | some (owner, state) =>
    have hopen : state.is_open = true := by
      by_contra hclosed
      simp [hmemory, LedgerService.active_answer, hclosed] at hanswer
    have hdurable : ledger.durable id = some (owner, state) := by
      have h := halike id
      rw [hmemory, LedgerService.open_part_some.mpr ⟨rfl, hopen⟩] at h
      exact (LedgerService.open_part_some.mp h.symm).1
    refine ⟨owner, ?_⟩
    rw [recovered_memory, (ledger.shifts_commit id).durable, hdurable]
    have hmem := LedgerService.open_iff_mem.mp hopen
    simp only [List.mem_cons, List.not_mem_nil, or_false] at hmem
    rcases hmem with rfl | rfl <;>
      simp [LedgerService.shift, LedgerService.open_part, ReservationState.is_open]

theorem store_commit (ledger : LedgerService) (id : ReservationId) :
    (ledger.commit id).2.store = SqliteLedgerStore.commit ledger.store id :=
  (LedgerService.store_durable_first ledger _ _).1

section Retry

variable {s : LocalCrossChainService} {token : PrepareToken} {p q : Preparation}
variable (hload : s.preparations.load token = some p) (hown : p.chain_id = s.chain_id)

include hload hown

/-- The repeated call, in terms of the recovered ledger. -/
theorem again_eq {op : Operation} (hcheck : op.check p = .ok q) (budget : AccountKey → U256)
    (now : U64) :
    ((s.half op token).2.restart budget).perform (op.again now) token =
      let recovered := (op.settle s.ledger p token).2.recovered budget
      match (op.again now).check p with
      | .error e => (.error e, { s with ledger := recovered })
      | .ok q =>
        match (op.again now).settle recovered p token with
        | (.error e, ledger) => (.error e, { s with ledger })
        | (.ok (), ledger) =>
          (.ok q, { s with ledger, preparations := s.preparations.write q }) := by
  rw [half_eq hload hown hcheck]
  apply perform_eq
  · exact hload
  · exact hown

/-- A retry whose ledger call is refused is no retry. -/
theorem not_retries {op : Operation} (hcheck : op.check p = .ok q) {budget : AccountKey → U256}
    {now : U64} {e : SolventError}
    (hrefused : ((op.again now).settle ((op.settle s.ledger p token).2.recovered budget) p token).1 =
      .error e) : ¬ s.Retries op token budget now := by
  intro hretries
  obtain ⟨⟨q', hok⟩, _⟩ := hretries
  rw [again_eq hload hown hcheck] at hok
  match hcheck' : (op.again now).check p,
      hsettle : (op.again now).settle ((op.settle s.ledger p token).2.recovered budget) p token with
  | .error e', _ => simp [hcheck'] at hok
  | .ok q'', (.error e', ledger) => simp [hcheck', hsettle] at hok
  | .ok q'', (.ok (), ledger) =>
    rw [hsettle] at hrefused
    cases hrefused

theorem retries_commit_iff (halike : s.ledger.OpenAlike) {before : U64}
    (hcheck : (Operation.commit before).check p = .ok q)
    (hok : ((Operation.commit before).settle s.ledger p token).1 = .ok ())
    (hwhole : (s.perform (.commit before) token).2 =
      { s with ledger := ((Operation.commit before).settle s.ledger p token).2,
               preparations := s.preparations.write q })
    (budget : AccountKey → U256) (now : U64) :
    s.Retries (.commit before) token budget now ↔ now < p.expires_at_unix := by
  have hagain := again_eq hload hown hcheck budget now
  constructor
  · intro hretries
    obtain ⟨⟨q', hq'⟩, _⟩ := hretries
    rw [hagain] at hq'
    by_contra hexpired
    have hlate : p.expires_at_unix ≤ now := not_lt.mp hexpired
    simp [Operation.again, Operation.check, check_commit, hlate] at hq'
  · intro hlive
    have hcheck' : (Operation.commit now).check p = .ok q := by
      simp only [Operation.check, check_commit] at hcheck ⊢
      split at hcheck
      · cases hcheck
      · rw [if_neg (not_le.mpr hlive)]
        exact hcheck
    obtain ⟨owner, hmemory⟩ := recovered_committed halike hok budget
    have hsettle : (LedgerService.commit ((s.ledger.commit token.reservation).2.recovered budget)
        token.reservation).1 = .ok () := by
      rw [LedgerService.commit_answer, hmemory]
      rfl
    have hstore : (LedgerService.commit ((s.ledger.commit token.reservation).2.recovered budget)
        token.reservation).2.store =
          SqliteLedgerStore.commit s.ledger.store token.reservation := by
      rw [store_commit, (LedgerService.recovered_evolves _ budget).1, store_commit, commit_commit]
    match hledger : LedgerService.commit
        ((s.ledger.commit token.reservation).2.recovered budget) token.reservation with
    | (.error e, ledger) =>
      rw [hledger] at hsettle
      cases hsettle
    | (.ok (), ledger) =>
      rw [hledger] at hstore
      have hdone : ((s.half (.commit before) token).2.restart budget).perform
          (Operation.again now (.commit before)) token =
            (.ok q, { s with ledger, preparations := s.preparations.write q }) := by
        rw [hagain]
        simp only [Operation.again, hcheck', Operation.settle, hledger]
      refine ⟨⟨q, by rw [hdone]⟩, by rw [hdone, hwhole], ?_⟩
      rw [hdone, hwhole]
      -- Committing a committed row changes nothing, so the stores are the same.
      show ledger.store = (s.ledger.commit token.reservation).2.store
      rw [store_commit]
      exact hstore

/-- An operation that was already recorded makes no ledger call, before or after
    the crash. -/
theorem retries_recorded {op : Operation} (hcheck : op.check p = .ok q)
    (hagain : ∀ now, op.again now = op)
    (hidle : ∀ ledger, op.settle ledger p token = (.ok (), ledger))
    (hwhole : (s.perform op token).2 =
      { s with ledger := (op.settle s.ledger p token).2,
               preparations := s.preparations.write q })
    (budget : AccountKey → U256) (now : U64) : s.Retries op token budget now := by
  have heq := again_eq hload hown hcheck budget now
  simp only [hagain, hcheck, hidle] at heq
  unfold Retries
  simp only [hagain, heq, hwhole, hidle]
  refine ⟨⟨q, rfl⟩, trivial, ?_⟩
  exact (LedgerService.recovered_evolves s.ledger budget).1

end Retry

/-- **Repeating an interrupted operation.** Where an operation succeeds, the call
    repeated after a crash between its two writes ends as the uninterrupted call
    exactly when it is repeatable. -/
theorem crash_retry_iff (keccak256 : List UInt8 → B256) (chain_id : ChainId)
    (commands : List LocalCommand) (op : Operation) (token : PrepareToken) (p q : Preparation)
    (budget : AccountKey → U256) (now : U64) :
    let s := Run.run (next keccak256) (new chain_id) commands
    s.preparations.load token = some p → (s.perform op token).1 = .ok q →
      (s.Retries op token budget now ↔ op.Repeatable now p) := by
  intro s hrow hok
  have hinv : Owned chain_id s := owned_run keccak256 chain_id commands
  obtain ⟨p', hload, hown, hcheck, hsettle, hwhole⟩ := perform_ok hok
  rw [hrow] at hload
  obtain rfl := Option.some.inj hload
  cases op with
  | commit before =>
    exact retries_commit_iff hrow hown hinv.alike hcheck hsettle hwhole budget now
  | release =>
    constructor
    · intro hretries
      by_contra hunreleased
      have hvoid : ∀ ledger, Operation.release.settle ledger p token = void ledger token := by
        intro ledger
        simp only [Operation.settle]
        exact if_neg hunreleased
      -- The voided row is not recovered, and a void of an unknown id is refused.
      have hgone : ((Operation.release.settle s.ledger p token).2.recovered budget).memory
          token.reservation = none := by
        rw [recovered_memory, hvoid, ledger_void,
          (s.ledger.shifts_void token.reservation).durable]
        simpa using open_part_shift (by rfl) (s.ledger.durable token.reservation)
      obtain ⟨⟨e | ⟨⟩, ledger⟩, hagain⟩ : ∃ answer, (Operation.again now .release).settle
          ((Operation.release.settle s.ledger p token).2.recovered budget) p token = answer :=
        ⟨_, rfl⟩
      · exact not_retries hrow hown hcheck (by rw [hagain]) hretries
      · have hvoided : (void ((Operation.release.settle s.ledger p token).2.recovered budget)
            token).1 = .ok () := by
          rw [← hvoid]
          exact congrArg Prod.fst hagain
        obtain ⟨b, hb, _⟩ := (void_ok_iff _ token).mp hvoided
        rw [hgone] at hb
        cases hb
    · intro hreleased
      apply retries_recorded hrow hown hcheck (fun _ => rfl) ?_ hwhole
      intro ledger
      simp only [Operation.settle]
      exact if_pos hreleased
  | mark_executed =>
    constructor
    · intro hretries
      by_contra hunexecuted
      have hposts : ∀ {ledger filled}, settlement ledger token = .ok filled →
          Operation.mark_executed.settle ledger p token = post ledger token filled := by
        intro ledger filled hfilled
        simp only [Operation.settle, hfilled]
        exact if_neg hunexecuted
      have hrefuses : ∀ {ledger e}, settlement ledger token = .error e →
          Operation.mark_executed.settle ledger p token = (.error e, ledger) := by
        intro ledger e hfilled
        simp only [Operation.settle, hfilled]
        exact if_neg hunexecuted
      cases hfilled : settlement s.ledger token with
      | error e =>
        rw [hrefuses hfilled] at hsettle
        cases hsettle
      | ok filled =>
        -- The posted row is not recovered, so the retry finds no sources.
        have hgone : ((Operation.mark_executed.settle s.ledger p token).2.recovered budget).memory
            token.reservation = none := by
          rw [recovered_memory, hposts hfilled, ledger_post, (s.ledger.shifts_post token.reservation filled
            (settlement_within hfilled)).durable]
          simpa using open_part_shift (by rfl) (s.ledger.durable token.reservation)
        have hrefused : ((Operation.again now .mark_executed).settle
            ((Operation.mark_executed.settle s.ledger p token).2.recovered budget) p token).1 =
            .error (.InvalidCrossChain "preparation has no capital reservation") := by
          simp only [Operation.again]
          generalize (Operation.mark_executed.settle s.ledger p token).2.recovered budget =
            recovered at hgone
          have hnone : recovered.ledger.reservations[token.reservation]? = none := by
            unfold LedgerService.memory at hgone
            exact Option.map_eq_none_iff.mp hgone
          have hsettlement : settlement recovered token =
              .error (.InvalidCrossChain "preparation has no capital reservation") := by
            simp [settlement, LedgerService.settlement_reservation_sources, Ledger.reservation,
              hnone]
          rw [hrefuses hsettlement]
        exact not_retries hrow hown hcheck hrefused hretries
    · intro hexecuted
      apply retries_recorded hrow hown hcheck (fun _ => rfl) ?_ hwhole
      intro ledger
      simp only [Operation.settle]
      exact if_pos hexecuted

/-! ## Sample runs -/

def sample_hash (bytes : List UInt8) : B256 :=
  Fin.ofNat _ (bytes.foldl (fun h b => 257 * h + b.toNat + 1) 0)

/-- A leg quote of 10 units that expires at 100. -/
def sample_leg : LegQuote :=
  let quote : LegQuote :=
    { quote_id := 0, request_id := 9, role := .Destination, local_chain := ⟨10⟩,
      remote_chain := ⟨1⟩, input_token := 1, output_token := 2, amount_in := 100,
      amount_out := 90, route := .Direct, block_number := 10, expires_at_unix := 100,
      sources := [{ maker := ⟨1⟩, strategy_hash := ⟨1⟩, token := 2, amount := 10 }] }
  { quote with quote_id := leg_quote_id sample_hash quote }

def sample_ledger_reads (now_unix : U64) : Reads := { now_unix, budget := fun _ => .ok 100 }

/-- The quote is issued and prepared at 10. -/
def sample_prepare : List LocalCommand :=
  [.quote { now_unix := 10, answer := .ok sample_leg, validated_at := 10 }
      { request_id := 9, role := .Destination, local_chain := ⟨10⟩, remote_chain := ⟨1⟩,
        input_token := 1, output_token := 2, amount := 100, deadline_unix := 100,
        route := .Direct },
    .prepare { checked_at := 10, ttl_at := 10, ledger := sample_ledger_reads 10 } ⟨7⟩ sample_leg]

def sample_token : PrepareToken := preparation_token sample_hash ⟨7⟩ ⟨10⟩ .Destination

def sample_service (commands : List LocalCommand) : LocalCrossChainService :=
  Run.run (next sample_hash) (new ⟨10⟩) (sample_prepare ++ commands)

def sample_preparation (state : PreparationState) : Preparation :=
  { token := sample_token, quote_id := ⟨7⟩, role := .Destination, chain_id := ⟨10⟩, state,
    expires_at_unix := 100 }

theorem release_frees_a_committed_leg :
    let s := sample_service [.perform (.commit 20) sample_token]
    s.preparations.load sample_token = some (sample_preparation .Committed) ∧
      s.Frees sample_token := by
  refine ⟨by decide +kernel, ?_⟩
  rw [sample_service, release_frees_iff sample_hash ⟨10⟩ _ sample_token
    (sample_preparation .Committed) (by decide +kernel) (by decide)]
  exact ⟨(.Swap ⟨7⟩, .Committed), by decide +kernel, by decide⟩

/-- A swept preparation cannot be released, and neither can one whose release
    was interrupted. -/
theorem release_fails_on_a_prepared_leg :
    let swept := sample_service [.sweep (sample_ledger_reads 1000) []]
    let interrupted := sample_service [.crash .release sample_token fun _ => 100]
    (swept.preparations.load sample_token = some (sample_preparation .Prepared) ∧
      (swept.release sample_token).1 =
        .error (.Ledger (.WrongState sample_token.reservation .Expired .Pending))) ∧
    (interrupted.preparations.load sample_token = some (sample_preparation .Prepared) ∧
      (interrupted.release sample_token).1 =
        .error (.Ledger (.Unknown sample_token.reservation))) := by
  decide +kernel

theorem crash_retry_of_a_commit :
    let s := sample_service []
    (s.perform (.commit 20) sample_token).1 = .ok (sample_preparation .Committed) ∧
      s.Retries (.commit 20) sample_token (fun _ => 100) 30 := by
  refine ⟨by decide +kernel, ?_⟩
  rw [sample_service, crash_retry_iff sample_hash ⟨10⟩ _ (.commit 20) sample_token
    (sample_preparation .Prepared) (sample_preparation .Committed) _ 30 (by decide +kernel)
    (by decide +kernel)]
  show (30 : U64) < 100
  decide

/-- An interrupted release and an interrupted execution succeed uninterrupted
    and are refused when repeated. -/
theorem crash_retry_fails :
    let s := sample_service [.perform (.commit 20) sample_token]
    let released := (s.half .release sample_token).2.restart fun _ => 100
    let executed := (s.half .mark_executed sample_token).2.restart fun _ => 100
    (s.release sample_token).1 = .ok (sample_preparation .Released) ∧
      (released.release sample_token).1 =
        .error (.Ledger (.Unknown sample_token.reservation)) ∧
      (s.mark_executed sample_token).1 = .ok (sample_preparation .Executed) ∧
      (executed.mark_executed sample_token).1 =
        .error (.InvalidCrossChain "preparation has no capital reservation") := by
  decide +kernel

end LocalCrossChainService

end Solvent
