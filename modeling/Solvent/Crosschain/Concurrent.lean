import Mathlib
import Solvent.Framework.Interleave
import Solvent.Crosschain.Lifecycle

/-! # Concurrent requests on one preparation

    The chain-local service answers requests side by side: each request is a
    sequence of store and ledger calls, and the calls of different requests
    interleave, with sweeps at any clock in between. A commit, a release and an
    execution each load the preparation, make their ledger call and then
    overwrite the row whatever it holds by then. Run alone, a request does what
    the operation of `Local` does (`alone_perform`).

    The ledger serializes the ledger calls, so reservations never go back. The
    row writes are not serialized: a commit that writes after a release or an
    execution has finished leaves a committed preparation without its committed
    reservation. That is the only way the two come apart.
-/

namespace Solvent

open BTreeMap Interleave

namespace LocalCrossChainService

inductive Request where
  | prepare (aggregate_id : AggregateQuoteId) (quote : LegQuote)
  | perform (op : Operation) (token : PrepareToken)

/-- Where a request stands: the call it makes next. -/
inductive Call where
  /-- Read the issued quote. -/
  | check (aggregate_id : AggregateQuoteId) (quote : LegQuote)
  | load_for_quote (aggregate_id : AggregateQuoteId) (quote : LegQuote)
  | reserve (p : Preparation) (quote : LegQuote)
  | insert (p : Preparation)
  | load (op : Operation) (token : PrepareToken)
  /-- The ledger's commit; `q` is the preparation to write after it. -/
  | commit (q : Preparation) (token : PrepareToken)
  | void (q : Preparation) (token : PrepareToken)
  | sources (q : Preparation) (token : PrepareToken)
  | post (q : Preparation) (token : PrepareToken) (filled : List U256)
  | update (q : Preparation)

inductive Event where
  | quote (reads : QuoteReads) (request : LegQuoteRequest)
  | sweep (reads : Reads) (exclude : List ReservationId)

def entry : Request → Call
  | .prepare aggregate_id quote => .check aggregate_id quote
  | .perform op token => .load op token

/-- The call after the load: the first ledger call, or the row write where the
    operation is already recorded. -/
def Operation.first (op : Operation) (p q : Preparation) (token : PrepareToken) : Call :=
  match op with
  | .commit _ => .commit q token
  | .release => if p.state = .Released then .update q else .void q token
  | .mark_executed => if p.state = .Executed then .update q else .sources q token

/-- The row write follows a ledger call that was accepted. -/
def then_update (s : LocalCrossChainService) (q : Preparation)
    (answer : Except SolventError Unit × LedgerService) : LocalCrossChainService × Option Call :=
  match answer with
  | (.ok (), ledger) => ({ s with ledger }, some (.update q))
  | (.error _, ledger) => ({ s with ledger }, none)

/-- One call of a request. -/
def access (keccak256 : List UInt8 → B256) (reads : PrepareReads) (s : LocalCrossChainService) :
    Call → LocalCrossChainService × Option Call
  | .check aggregate_id quote =>
    match s.check_quote keccak256 reads.checked_at quote with
    | .error _ => (s, none)
    | .ok () => (s, some (.load_for_quote aggregate_id quote))
  | .load_for_quote aggregate_id quote =>
    match s.preparations.load_for_quote aggregate_id quote.role with
    | some _ => (s, none)
    | none => (s, some (.reserve (s.preparation_of keccak256 aggregate_id quote) quote))
  | .reserve p quote =>
    match s.reserve reads p quote with
    | (.error _, s) => (s, none)
    | (.ok (), s) => (s, some (.insert p))
  | .insert p => ((s.insert p).2, none)
  | .load op token =>
    match s.load_owned token with
    | .error _ => (s, none)
    | .ok p =>
      match op.check p with
      | .error _ => (s, none)
      | .ok q => (s, some (op.first p q token))
  | .commit q token => s.then_update q (s.ledger.commit token.reservation)
  | .void q token => s.then_update q (void s.ledger token)
  | .sources q token =>
    match settlement s.ledger token with
    | .error _ => (s, none)
    | .ok filled => (s, some (.post q token filled))
  | .post q token filled => s.then_update q (post s.ledger token filled)
  | .update q => ((s.finish q).2, none)

def outside (event : Event) (s : LocalCrossChainService) : LocalCrossChainService :=
  match event with
  | .quote reads request => (s.quote reads request).2
  | .sweep reads exclude => { s with ledger := (s.ledger.sweep_expired reads exclude).2 }

/-- The service under concurrent requests. There are no restarts here. -/
def machine (keccak256 : List UInt8 → B256) :
    Machine LocalCrossChainService Request Call PrepareReads Empty Event where
  entry := entry
  access := access keccak256
  restart := fun e => e.elim
  outside := outside

end LocalCrossChainService

abbrev LocalWorld : Type := World LocalCrossChainService LocalCrossChainService.Call

abbrev LocalAction : Type :=
  Action LocalCrossChainService.Request LocalCrossChainService.PrepareReads Empty
    LocalCrossChainService.Event

namespace LocalCrossChainService

/-! ## A request alone -/

/-- A call run to its end by itself, in at most `n` accesses. -/
def alone (keccak256 : List UInt8 → B256) (reads : PrepareReads) :
    ℕ → LocalCrossChainService → Call → LocalCrossChainService × Option Call
  | 0, s, c => (s, some c)
  | n + 1, s, c =>
    match access keccak256 reads s c with
    | (s, none) => (s, none)
    | (s, some c) => alone keccak256 reads n s c

/-- A ledger call followed by the row write. -/
theorem alone_then_update (keccak256 : List UInt8 → B256) (reads : PrepareReads) (n : ℕ)
    (s : LocalCrossChainService) (q : Preparation)
    (answer : Except SolventError Unit × LedgerService) :
    (match s.then_update q answer with
      | (s, none) => (s, none)
      | (s, some c) => alone keccak256 reads (n + 1) s c) =
      ((match (answer.1.map fun _ => q, { s with ledger := answer.2 }) with
        | (.error e, s) => ((.error e, s) : Except SolventError Preparation × _)
        | (.ok p, s) => s.finish p).2, none) := by
  match answer with
  | (.error e, ledger) => rfl
  | (.ok (), ledger) => rfl

/-- **Refinement.** A request that nothing interleaves with does what its
    operation does. -/
theorem alone_perform (keccak256 : List UInt8 → B256) (reads : PrepareReads)
    (s : LocalCrossChainService) (op : Operation) (token : PrepareToken) :
    alone keccak256 reads 4 s (.load op token) = ((s.perform op token).2, none) := by
  cases hload : s.load_owned token with
  | error e => simp [alone, access, perform, half, hload]
  | ok p =>
    cases hcheck : op.check p with
    | error e => simp [alone, access, perform, half, hload, hcheck]
    | ok q =>
      have hfirst : alone keccak256 reads 4 s (.load op token) =
          alone keccak256 reads 3 s (op.first p q token) := by
        simp [alone, access, hload, hcheck]
      rw [hfirst]
      simp only [perform, half, hload, hcheck]
      cases op with
      | commit now => exact alone_then_update keccak256 reads 1 s q _
      | release =>
        by_cases hdone : p.state = .Released
        · simp only [Operation.first, Operation.settle, if_pos hdone]
          rfl
        · simp only [Operation.first, Operation.settle, if_neg hdone]
          exact alone_then_update keccak256 reads 1 s q _
      | mark_executed =>
        by_cases hdone : p.state = .Executed
        · simp only [Operation.first, Operation.settle, if_pos hdone]
          rfl
        · simp only [Operation.first, Operation.settle, if_neg hdone]
          cases hfilled : settlement s.ledger token with
          | error e => simp [alone, access, hfilled, Except.map]
          | ok filled =>
            have hsources : alone keccak256 reads 3 s (.sources q token) =
                alone keccak256 reads 2 s (.post q token filled) := by
              simp [alone, access, hfilled]
            rw [hsources]
            exact alone_then_update keccak256 reads 0 s q _

/-! ## What a ledger call keeps -/

/-- The state of the reservation behind a token, in memory. -/
def Stands (ledger : LedgerService) (token : PrepareToken) (state : ReservationState) : Prop :=
  (ledger.memory token.reservation).map Prod.snd = some state

instance (ledger : LedgerService) (token : PrepareToken) (state : ReservationState) :
    Decidable (Stands ledger token state) :=
  inferInstanceAs (Decidable (_ = _))

/-- Memory and store record the same reservations in the same states. -/
def Mirrored (ledger : LedgerService) : Prop := ∀ k, ledger.memory k = ledger.durable k

/-- What no ledger call undoes: the halves stay alike, sources stay, and settled
    reservations stay settled. A committed one stays committed unless the call
    takes it. -/
structure Keeps (taken : Option PrepareToken) (ledger ledger' : LedgerService) : Prop where
  mirrored : Mirrored ledger → Mirrored ledger'
  sources : ∀ (id : ReservationId) (r : Reservation), ledger.ledger.reservations[id]? = some r →
    ∃ r', ledger'.ledger.reservations[id]? = some r' ∧ r'.sources = r.sources
  settled : ∀ token state, state = .Voided ∨ state = .Posted →
    Stands ledger token state → Stands ledger' token state
  committed : ∀ token, taken ≠ some token →
    Stands ledger token .Committed → Stands ledger' token .Committed

theorem Keeps.refl (ledger : LedgerService) : Keeps none ledger ledger where
  mirrored := id
  sources := fun _ r hr => ⟨r, hr, rfl⟩
  settled := fun _ _ _ h => h
  committed := fun _ _ h => h

/-- A shift that does not apply to the state leaves it. -/
theorem stands_of_shifts {ids : List ReservationId} {from_states : List ReservationState}
    {to_state state : ReservationState} {ledger ledger' : LedgerService} {token : PrepareToken}
    (h : ledger.Shifts ids from_states to_state ledger')
    (hoff : token.reservation ∉ ids ∨ state ∉ from_states) (hstands : Stands ledger token state) :
    Stands ledger' token state := by
  unfold Stands at hstands ⊢
  rw [h.memory]
  split
  · rename_i hmem
    have hstate : state ∉ from_states := by
      rcases hoff with hnot | hstate
      · exact absurd hmem hnot
      · exact hstate
    rw [LedgerService.shift_of_not_mem]
    · exact hstands
    · intro x hx
      rw [hx] at hstands
      rw [← Option.some.inj hstands] at hstate
      exact hstate
  · exact hstands

theorem mirrored_of_shifts {ids : List ReservationId} {from_states : List ReservationState}
    {to_state : ReservationState} {ledger ledger' : LedgerService}
    (h : ledger.Shifts ids from_states to_state ledger') (hmirrored : Mirrored ledger) :
    Mirrored ledger' := by
  intro k
  rw [h.memory, h.durable, hmirrored k]

/-- Where a shift of the token's reservation is accepted, it stands there. -/
theorem stands_shifted {from_states : List ReservationState}
    {to_state : ReservationState} {ledger ledger' : LedgerService} {token : PrepareToken}
    (h : ledger.Shifts [token.reservation] from_states to_state ledger')
    {b : ReservationOwner × ReservationState}
    (hb : ledger.memory token.reservation = some b) (hstate : b.2 ∈ from_states ∨ b.2 = to_state) :
    Stands ledger' token to_state := by
  unfold Stands
  rw [h.memory, if_pos (by simp), hb]
  rcases hstate with hmem | heq
  · simp [LedgerService.shift, hmem]
  · simp only [LedgerService.shift, Option.map_some]
    split
    · rfl
    · rw [heq]

theorem keeps_commit (ledger : LedgerService) (id : ReservationId) :
    Keeps none ledger (ledger.commit id).2 where
  mirrored := mirrored_of_shifts (ledger.shifts_commit id)
  sources := fun _ _ hr => ledger.sources_next (.commit id) hr
  settled := by
    intro token state hstate hstands
    apply stands_of_shifts (ledger.shifts_commit id) (.inr ?_) hstands
    rcases hstate with rfl | rfl <;> decide
  committed := fun token _ h =>
    stands_of_shifts (ledger.shifts_commit id) (.inr (by decide)) h

/-- A void or a post takes its own token's reservation only. -/
theorem keeps_of_closing {ledger ledger' : LedgerService} {token : PrepareToken}
    {to_state : ReservationState}
    (h : ledger.Shifts [token.reservation] [.Pending, .Committed] to_state ledger')
    (hsources : ∀ (id : ReservationId) (r : Reservation),
      ledger.ledger.reservations[id]? = some r →
      ∃ r', ledger'.ledger.reservations[id]? = some r' ∧ r'.sources = r.sources) :
    Keeps (some token) ledger ledger' where
  mirrored := mirrored_of_shifts h
  sources := hsources
  settled := by
    intro other state hstate hstands
    apply stands_of_shifts h (.inr ?_) hstands
    rcases hstate with rfl | rfl <;> decide
  committed := by
    intro other hother hstands
    apply stands_of_shifts h (.inl ?_) hstands
    rw [List.mem_singleton, PrepareToken.reservation_inj]
    intro heq
    exact hother (by rw [heq])

theorem keeps_void (ledger : LedgerService) (token : PrepareToken) :
    Keeps (some token) ledger (void ledger token).2 := by
  rw [ledger_void]
  exact keeps_of_closing (ledger.shifts_void token.reservation)
    fun _ _ hr => ledger.sources_next (.void token.reservation) hr

theorem keeps_post (ledger : LedgerService) (token : PrepareToken) {filled : List U256}
    (hwithin : ∀ r, ledger.ledger.reservations[token.reservation]? = some r →
      FillsWithin r.sources filled) :
    Keeps (some token) ledger (post ledger token filled).2 := by
  rw [ledger_post]
  exact keeps_of_closing (ledger.shifts_post token.reservation filled hwithin)
    fun _ _ hr => ledger.sources_next (.post token.reservation filled) hr

theorem keeps_sweep (ledger : LedgerService) (reads : Reads) (exclude : List ReservationId) :
    Keeps none ledger (ledger.sweep_expired reads exclude).2 := by
  obtain ⟨swept, hshifts⟩ := ledger.shifts_sweep reads exclude
  refine ⟨mirrored_of_shifts hshifts, ?_, ?_, ?_⟩
  · intro id r hr
    exact ledger.sources_next (.sweep_expired reads exclude) hr
  · intro token state hstate hstands
    apply stands_of_shifts hshifts (.inr ?_) hstands
    rcases hstate with rfl | rfl <;> decide
  · intro token _ hstands
    exact stands_of_shifts hshifts (.inr (by decide)) hstands

theorem keeps_reserve (ledger : LedgerService) (reads : Reads) (id : ReservationId)
    (intent : IntentId) (sources : List ReservationSource) (ttl_secs : U64) :
    Keeps none ledger (ledger.reserve reads id intent sources ttl_secs).2 := by
  have hsources : ∀ (k : ReservationId) (r : Reservation),
      ledger.ledger.reservations[k]? = some r →
      ∃ r', (ledger.reserve reads id intent sources ttl_secs).2.ledger.reservations[k]? = some r' ∧
        r'.sources = r.sources :=
    fun _ _ hr => ledger.sources_next (.reserve reads id intent sources ttl_secs) hr
  rcases ledger.reserve_evolves reads id intent sources ttl_secs with
    ⟨e, ledger', heq, hsame⟩ | ⟨ledger', heq, hnone, _, hmemory, hdurable, hothers⟩
  · rw [heq] at hsources ⊢
    -- Refused: both halves are as they were.
    have hstays : ∀ token state, Stands ledger token state → Stands ledger' token state := by
      intro token state hstands
      unfold Stands at hstands ⊢
      rw [hsame.memory]
      exact hstands
    refine ⟨?_, hsources, fun token state _ h => hstays token state h,
      fun token _ h => hstays token _ h⟩
    intro hmirrored k
    rw [hsame.memory, hsame.durable]
    exact hmirrored k
  · rw [heq] at hsources ⊢
    -- Admitted: the id was unknown, so no recorded reservation moves.
    have hstays : ∀ token state, Stands ledger token state → Stands ledger' token state := by
      intro token state hstands
      unfold Stands at hstands ⊢
      by_cases hk : token.reservation = id
      · rw [hk, hnone] at hstands
        cases hstands
      · rw [(hothers _ hk).1]
        exact hstands
    refine ⟨?_, hsources, fun token state _ h => hstays token state h,
      fun token _ h => hstays token _ h⟩
    intro hmirrored k
    by_cases hk : k = id
    · rw [hk, hmemory, hdurable]
    · rw [(hothers k hk).1, (hothers k hk).2]
      exact hmirrored k

/-! ## The invariant -/

/-- The token whose released or executed row the call is about to write. -/
def Call.closing : Call → Option PrepareToken
  | .update q => if q.state = .Released ∨ q.state = .Executed then some q.token else none
  | _ => none

/-- The token whose committed row the call is about to write. -/
def Call.committing : Call → Option PrepareToken
  | .update q => if q.state = .Committed then some q.token else none
  | _ => none

/-- What a call in progress knows of the ledger. -/
def CallSound (ledger : LedgerService) : Call → Prop
  | .reserve p _ | .insert p => p.state = .Prepared
  | .commit q token => q.state = .Committed ∧ q.token = token
  | .void q token => q.state = .Released ∧ q.token = token
  | .sources q token => q.state = .Executed ∧ q.token = token
  | .post q token filled => q.state = .Executed ∧ q.token = token ∧
      ∃ r, ledger.ledger.reservations[token.reservation]? = some r ∧ FillsWithin r.sources filled
  | .update q => q.state = .Committed ∨ (q.state = .Released ∧ Stands ledger q.token .Voided) ∨
      (q.state = .Executed ∧ Stands ledger q.token .Posted)
  | .check _ _ | .load_for_quote _ _ | .load _ _ => True

/-- What a stored preparation says of its reservation. A committed one may have
    been taken by a call that has its row write still to come. -/
def RowSound (w : LocalWorld) (token : PrepareToken) (p : Preparation) : Prop :=
  match p.state with
  | .Prepared => True
  | .Committed => Stands w.shared.ledger token .Committed ∨
      ∃ j d, w.At j d ∧ Call.closing d = some token
  | .Executed => Stands w.shared.ledger token .Posted
  | .Released => Stands w.shared.ledger token .Voided

structure Consistent (w : LocalWorld) : Prop where
  mirrored : Mirrored w.shared.ledger
  calls : ∀ i c, w.At i c → CallSound w.shared.ledger c
  rows : ∀ token p, w.shared.preparations.load token = some p → RowSound w token p

/-! ## The condition -/

/-- A commit writes its row only while the reservation it committed is still
    committed, or while the release or execution that took it has its own row
    write still to come; and such a call is not stopped before its row write
    while the row says committed. -/
def Ordered (w : LocalWorld) : LocalAction → Prop
  | .access i _ => ∀ c, w.At i c → ∀ token ∈ c.committing,
      Stands w.shared.ledger token .Committed ∨ ¬ ∀ j d, w.At j d → Call.closing d ≠ some token
  | .stop i => ∀ c, w.At i c → ∀ token ∈ c.closing,
      (w.shared.preparations.load token).map Preparation.state ≠ some .Committed
  | .start _ | .outside _ => True
  | .crash e => e.elim

instance (w : LocalWorld) (a : LocalAction) : Decidable (Ordered w a) :=
  match a with
  | .access i _ => inferInstanceAs (Decidable (∀ c, w.At i c → ∀ token ∈ c.committing,
      Stands w.shared.ledger token .Committed ∨ ¬ ∀ j d, w.At j d → Call.closing d ≠ some token))
  | .stop i => inferInstanceAs (Decidable (∀ c, w.At i c → ∀ token ∈ c.closing,
      (w.shared.preparations.load token).map Preparation.state ≠ some .Committed))
  | .start _ | .outside _ => inferInstanceAs (Decidable True)
  | .crash e => e.elim

/-! ## One step -/

section Step

variable {w w' : LocalWorld} {i : ℕ} {c : Call} {next : Option Call}
variable {taken : Option PrepareToken}

theorem callSound_of_keeps {ledger ledger' : LedgerService} (h : Keeps taken ledger ledger')
    {d : Call} (hd : CallSound ledger d) : CallSound ledger' d := by
  match d with
  | .check _ _ | .load_for_quote _ _ | .load _ _ => trivial
  | .reserve p _ | .insert p => exact hd
  | .commit q token | .void q token | .sources q token => exact hd
  | .post q token filled =>
    obtain ⟨hstate, htoken, r, hr, hwithin⟩ := hd
    obtain ⟨r', hr', hsources⟩ := h.sources _ r hr
    exact ⟨hstate, htoken, r', hr', by rw [hsources]; exact hwithin⟩
  | .update q =>
    rcases hd with hcommitted | ⟨hreleased, hvoided⟩ | ⟨hexecuted, hposted⟩
    · exact .inl hcommitted
    · exact .inr (.inl ⟨hreleased, h.settled _ _ (.inl rfl) hvoided⟩)
    · exact .inr (.inr ⟨hexecuted, h.settled _ _ (.inr rfl) hposted⟩)

/-- A row that stays sound: the call that moved did not hold the row's pending
    write, and if it took the reservation it holds one now. -/
theorem rowSound_of_keeps (hmoved : Machine.Moved w w' i next) (hat : w.At i c)
    (hkeeps : Keeps taken w.shared.ledger w'.shared.ledger)
    (htaken : ∀ token, taken = some token → ∃ d, next = some d ∧ Call.closing d = some token)
    {token : PrepareToken} {p : Preparation} (hclosing : c.closing ≠ some token)
    (hrow : RowSound w token p) : RowSound w' token p := by
  unfold RowSound at hrow ⊢
  match hstate : p.state with
  | .Prepared => trivial
  | .Executed =>
    simp only [hstate] at hrow
    exact hkeeps.settled _ _ (.inr rfl) hrow
  | .Released =>
    simp only [hstate] at hrow
    exact hkeeps.settled _ _ (.inl rfl) hrow
  | .Committed =>
    simp only [hstate] at hrow
    rcases hrow with hstands | ⟨j, d, hd, hdclosing⟩
    · by_cases hmine : taken = some token
      · obtain ⟨d, hnext, hdclosing⟩ := htaken token hmine
        exact .inr ⟨i, d, (hmoved.moved d).mpr hnext, hdclosing⟩
      · exact .inl (hkeeps.committed token hmine hstands)
    · have hj : j ≠ i := by
        intro hji
        subst hji
        rw [World.at_unique hd hat] at hdclosing
        exact hclosing hdclosing
      exact .inr ⟨j, d, (hmoved.others j d hj).mpr hd, hdclosing⟩

/-- **Access rule.** What is left to show for an access: what it does to the
    ledger, what its next call knows, and the rows it wrote. -/
theorem consistent_of_access (taken : Option PrepareToken) (h : Consistent w)
    (hmoved : Machine.Moved w w' i next) (hat : w.At i c) (hkeeps : Keeps taken w.shared.ledger w'.shared.ledger)
    (htaken : ∀ token, taken = some token → ∃ d, next = some d ∧ Call.closing d = some token)
    (hnext : ∀ d, next = some d → CallSound w'.shared.ledger d)
    (hrows : ∀ token p, w'.shared.preparations.load token = some p →
      (w.shared.preparations.load token = some p ∧ c.closing ≠ some token) ∨
        RowSound w' token p) : Consistent w' where
  mirrored := hkeeps.mirrored h.mirrored
  calls := by
    intro j d hd
    by_cases hj : j = i
    · subst hj
      exact hnext d ((hmoved.moved d).mp hd)
    · exact callSound_of_keeps hkeeps (h.calls j d ((hmoved.others j d hj).mp hd))
  rows := by
    intro token p hp
    rcases hrows token p hp with ⟨hsame, hclosing⟩ | hsound
    · exact rowSound_of_keeps hmoved hat hkeeps htaken hclosing (h.rows token p hsame)
    · exact hsound

/-- An access that writes no row and takes no reservation. -/
theorem consistent_of_quiet (h : Consistent w) (hmoved : Machine.Moved w w' i next)
    (hat : w.At i c) (hclosing : c.closing = none)
    (hkeeps : Keeps none w.shared.ledger w'.shared.ledger)
    (hrows : w'.shared.preparations = w.shared.preparations)
    (hnext : ∀ d, next = some d → CallSound w'.shared.ledger d) : Consistent w' := by
  apply consistent_of_access none h hmoved hat hkeeps (by simp) hnext
  intro token p hp
  rw [hrows] at hp
  exact .inl ⟨hp, by rw [hclosing]; simp⟩

/-- The call after a load knows what the loaded row says. -/
theorem callSound_first (h : Consistent w) {op : Operation} {token : PrepareToken}
    {p q : Preparation} (hload : w.shared.preparations.load token = some p)
    (hcheck : op.check p = .ok q) : CallSound w.shared.ledger (op.first p q token) := by
  have htoken : p.token = token := w.shared.preparations.keyed token p hload
  have hrow := h.rows token p hload
  rw [check_ok hcheck]
  match op with
  | .commit now => exact ⟨rfl, htoken⟩
  | .release =>
    show CallSound _ (if p.state = .Released then .update _ else .void _ token)
    by_cases hreleased : p.state = .Released
    · rw [if_pos hreleased]
      rw [RowSound, hreleased] at hrow
      exact .inr (.inl ⟨rfl, by rw [← htoken] at hrow; exact hrow⟩)
    · rw [if_neg hreleased]
      exact ⟨rfl, htoken⟩
  | .mark_executed =>
    show CallSound _ (if p.state = .Executed then .update _ else .sources _ token)
    by_cases hexecuted : p.state = .Executed
    · rw [if_pos hexecuted]
      rw [RowSound, hexecuted] at hrow
      exact .inr (.inr ⟨rfl, by rw [← htoken] at hrow; exact hrow⟩)
    · rw [if_neg hexecuted]
      exact ⟨rfl, htoken⟩

theorem post_ok_stands {ledger : LedgerService} {token : PrepareToken} {filled : List U256}
    (hwithin : ∀ r, ledger.ledger.reservations[token.reservation]? = some r →
      FillsWithin r.sources filled) (hok : (post ledger token filled).1 = .ok ()) :
    Stands (post ledger token filled).2 token .Posted := by
  have hanswer := ledger.post_answer token.reservation filled hwithin
  have hshifts := ledger.shifts_post token.reservation filled hwithin
  rw [ledger_post]
  match hmemory : ledger.memory token.reservation with
  | none =>
    rw [hmemory] at hanswer
    unfold post at hok
    split at hok <;> simp_all [LedgerService.active_answer]
  | some (owner, state) =>
    apply stands_shifted hshifts hmemory
    rw [hmemory] at hanswer
    unfold post at hok
    cases state <;> split at hok <;>
      simp_all [LedgerService.active_answer, ReservationState.is_open]

theorem void_ok_stands {ledger : LedgerService} {token : PrepareToken}
    (hok : (void ledger token).1 = .ok ()) : Stands (void ledger token).2 token .Voided := by
  obtain ⟨b, hb, hstate⟩ := (void_ok_iff ledger token).mp hok
  rw [ledger_void]
  apply stands_shifted (ledger.shifts_void token.reservation) hb
  simp only [releasable, List.mem_cons, List.not_mem_nil, or_false] at hstate ⊢
  tauto

/-- A closing call that is refused finds nothing open, and takes nothing. -/
theorem keeps_of_refused {ledger ledger' : LedgerService} {token : PrepareToken}
    (hkeeps : Keeps (some token) ledger ledger')
    (hclosed : ¬ Stands ledger token .Committed) : Keeps none ledger ledger' where
  mirrored := hkeeps.mirrored
  sources := hkeeps.sources
  settled := hkeeps.settled
  committed := by
    intro other _ hstands
    by_cases hother : other = token
    · subst hother
      exact absurd hstands hclosed
    · exact hkeeps.committed other (fun h => hother (Option.some.inj h).symm) hstands

theorem keeps_of_refused_void {ledger : LedgerService} {token : PrepareToken} {e : SolventError}
    (herror : (void ledger token).1 = .error e) : Keeps none ledger (void ledger token).2 := by
  have hkeeps := keeps_void ledger token
  rw [ledger_void] at hkeeps ⊢
  apply keeps_of_refused hkeeps
  intro hstands
  obtain ⟨b, hb, hstate⟩ := Option.map_eq_some_iff.mp hstands
  have hok := (void_ok_iff ledger token).mpr ⟨b, hb, by rw [hstate]; decide⟩
  rw [hok] at herror
  cases herror

theorem keeps_of_refused_post {ledger : LedgerService} {token : PrepareToken}
    {filled : List U256} {e : SolventError}
    (hwithin : ∀ r, ledger.ledger.reservations[token.reservation]? = some r →
      FillsWithin r.sources filled)
    (herror : (post ledger token filled).1 = .error e) :
    Keeps none ledger (post ledger token filled).2 := by
  have hkeeps := keeps_post ledger token hwithin
  rw [ledger_post] at hkeeps ⊢
  apply keeps_of_refused hkeeps
  intro hstands
  obtain ⟨⟨owner, state⟩, hb, hstate⟩ := Option.map_eq_some_iff.mp hstands
  obtain rfl : state = .Committed := hstate
  have hanswer := ledger.post_answer token.reservation filled hwithin
  rw [hb] at hanswer
  unfold post at herror
  split at herror <;> simp_all [LedgerService.active_answer, ReservationState.is_open]

/-- A void or a post: where it is accepted, the call holds the row write of the
    reservation it took; where it is refused, it took nothing. -/
theorem consistent_of_closing (h : Consistent w) {q : Preparation} {token : PrepareToken}
    {answer : Except SolventError Unit × LedgerService}
    (hmoved : Machine.Moved w w' i (w.shared.then_update q answer).2) (hat : w.At i c)
    (hclosing : c.closing = none) (hshared : w'.shared = (w.shared.then_update q answer).1)
    (hkeeps : Keeps (some token) w.shared.ledger answer.2)
    (hrefused : ∀ e, answer.1 = .error e → Keeps none w.shared.ledger answer.2)
    (hq : q.token = token) (hstate : q.state = .Released ∨ q.state = .Executed)
    (hsound : answer.1 = .ok () → CallSound answer.2 (.update q)) : Consistent w' := by
  match answer with
  | (.error e, ledger) =>
    have hledger : w'.shared.ledger = ledger := by rw [hshared]; rfl
    apply consistent_of_quiet h hmoved hat hclosing
    · rw [hledger]
      exact hrefused e rfl
    · rw [hshared]
      rfl
    · intro d hd
      cases hd
  | (.ok (), ledger) =>
    have hledger : w'.shared.ledger = ledger := by rw [hshared]; rfl
    apply consistent_of_access (some token) h hmoved hat
    · rw [hledger]
      exact hkeeps
    · intro other hother
      refine ⟨.update q, rfl, ?_⟩
      rw [← Option.some.inj hother, ← hq]
      exact if_pos hstate
    · intro d hd
      rw [← Option.some.inj hd, hledger]
      exact hsound rfl
    · intro other p hp
      rw [hshared] at hp
      exact .inl ⟨hp, by rw [hclosing]; simp⟩

theorem token_of_closing {q : Preparation} {token : PrepareToken}
    (h : Call.closing (.update q) = some token) : q.token = token := by
  simp only [Call.closing, Option.ite_none_right_eq_some, Option.some.injEq] at h
  exact h.2

/-- The row write. -/
theorem consistent_update (h : Consistent w) {q : Preparation} {reads : PrepareReads}
    (hcond : Ordered w (.access i reads)) (hat : w.At i (.update q))
    (hshared : w'.shared = (w.shared.finish q).2) (hmoved : Machine.Moved w w' i none) :
    Consistent w' := by
  have hledger : w'.shared.ledger = w.shared.ledger := by
    rw [hshared]
    unfold finish
    split <;> rfl
  have hcall := h.calls i _ hat
  apply consistent_of_access none h hmoved hat
  · rw [hledger]
    exact Keeps.refl _
  · simp
  · simp
  · intro token p hp
    rw [hshared] at hp
    unfold finish at hp
    rcases w.shared.preparations.update_cases q with ⟨e, heq, hnone⟩ | ⟨heq, _⟩
    · -- There is no row: nothing was written, and no row depends on this call.
      rw [heq] at hp
      refine .inl ⟨hp, ?_⟩
      intro hclosing
      rw [← token_of_closing hclosing, hnone] at hp
      cases hp
    · rw [heq] at hp
      have hp' : (w.shared.preparations.write q).load token = some p := hp
      rw [SqlitePreparationStore.load_write] at hp'
      by_cases htoken : q.token = token
      · right
        rw [if_pos htoken] at hp'
        obtain rfl := Option.some.inj hp'
        subst htoken
        unfold RowSound
        rw [hledger]
        rcases hcall with hcommitted | ⟨hreleased, hvoided⟩ | ⟨hexecuted, hposted⟩
        · simp only [hcommitted]
          have hcommitting : Call.committing (.update q) = some q.token := if_pos hcommitted
          rcases hcond _ hat q.token hcommitting with hstands | hother
          · exact .inl hstands
          · push Not at hother
            obtain ⟨j, d, hd, hdclosing⟩ := hother
            -- The pending write is another call's: this one writes committed.
            have hj : j ≠ i := by
              intro hji
              subst hji
              rw [World.at_unique hd hat] at hdclosing
              simp [Call.closing, hcommitted] at hdclosing
            exact .inr ⟨j, d, (hmoved.others j d hj).mpr hd, hdclosing⟩
        · simp only [hreleased]
          exact hvoided
        · simp only [hexecuted]
          exact hposted
      · rw [if_neg htoken] at hp'
        exact .inl ⟨hp', fun hclosing => htoken (token_of_closing hclosing)⟩

/-- An insert writes a prepared row where there was none. -/
theorem consistent_insert (h : Consistent w) {p : Preparation} (hat : w.At i (.insert p))
    (hshared : w'.shared = (w.shared.insert p).2) (hmoved : Machine.Moved w w' i none) :
    Consistent w' := by
  have hprepared : p.state = .Prepared := h.calls i _ hat
  have hledger : w'.shared.ledger = w.shared.ledger := by rw [hshared]; rfl
  apply consistent_of_access none h hmoved hat
  · rw [hledger]
    exact Keeps.refl _
  · simp
  · simp
  · intro token q hq
    have hq' : (w.shared.preparations.insert p).2.load token = some q := by
      rw [hshared] at hq
      exact hq
    have hsame : w.shared.preparations.load token = some q →
        (w.shared.preparations.load token = some q ∧ Call.closing (.insert p) ≠ some token) ∨
          RowSound w' token q := fun hrow => .inl ⟨hrow, by simp [Call.closing]⟩
    rcases w.shared.preparations.insert_cases p with ⟨e, heq⟩ | ⟨heq, _⟩ | ⟨heq, _⟩
    · rw [heq] at hq'
      exact hsame hq'
    · rw [heq] at hq'
      exact hsame hq'
    · rw [heq, SqlitePreparationStore.load_write] at hq'
      split at hq'
      · obtain rfl := Option.some.inj hq'
        right
        simp [RowSound, hprepared]
      · exact hsame hq'

/-- **Access lemma.** -/
theorem consistent_access {keccak256 : List UInt8 → B256} {reads : PrepareReads}
    (h : Consistent w) (hcond : Ordered w (.access i reads)) (hat : w.At i c)
    (hshared : w'.shared = (access keccak256 reads w.shared c).1)
    (hmoved : Machine.Moved w w' i (access keccak256 reads w.shared c).2) : Consistent w' := by
  have hcall := h.calls i c hat
  -- Reads: the shared state stays, and the next call knows what was read.
  have hread : ∀ next', c.closing = none → w'.shared = w.shared → Machine.Moved w w' i next' →
      (∀ d, next' = some d → CallSound w.shared.ledger d) → Consistent w' := by
    intro next' hclosing hsame hmoved' hnext
    apply consistent_of_quiet h hmoved' hat hclosing
    · rw [hsame]
      exact Keeps.refl _
    · rw [hsame]
    · rw [hsame]
      exact hnext
  match c with
  | .check aggregate_id quote =>
    simp only [access] at hshared hmoved
    split at hshared <;> rename_i hchecked <;> simp only [hchecked] at hmoved
    · exact hread _ rfl hshared hmoved (by simp)
    · exact hread _ rfl hshared hmoved (by simp [CallSound])
  | .load_for_quote aggregate_id quote =>
    simp only [access] at hshared hmoved
    split at hshared <;> rename_i hfound <;> simp only [hfound] at hmoved
    · exact hread _ rfl hshared hmoved (by simp)
    · exact hread _ rfl hshared hmoved (by simp [CallSound, preparation_of])
  | .reserve p quote =>
    have hkeeps : Keeps none w.shared.ledger (w.shared.reserve reads p quote).2.ledger := by
      rw [reserve_eq]
      exact keeps_reserve _ _ _ _ _ _
    have hrows : (w.shared.reserve reads p quote).2.preparations = w.shared.preparations := by
      rw [reserve_eq]
    simp only [access] at hshared hmoved
    split at hshared <;> rename_i hreserve <;> simp only [hreserve] at hmoved hkeeps hrows
    · apply consistent_of_quiet h hmoved hat rfl (by rw [hshared]; exact hkeeps)
        (by rw [hshared]; exact hrows)
      simp
    · apply consistent_of_quiet h hmoved hat rfl (by rw [hshared]; exact hkeeps)
        (by rw [hshared]; exact hrows)
      intro d hd
      rw [← Option.some.inj hd]
      exact hcall
  | .insert p => exact consistent_insert h hat hshared hmoved
  | .load op token =>
    simp only [access] at hshared hmoved
    match hload : w.shared.load_owned token with
    | .error e =>
      simp only [hload] at hshared hmoved
      exact hread _ rfl hshared hmoved (by simp)
    | .ok p =>
      match hcheck : op.check p with
      | .error e =>
        simp only [hload, hcheck] at hshared hmoved
        exact hread _ rfl hshared hmoved (by simp)
      | .ok q =>
        simp only [hload, hcheck] at hshared hmoved
        apply hread _ rfl hshared hmoved
        intro d hd
        rw [← Option.some.inj hd]
        exact callSound_first h (load_owned_ok hload).1 hcheck
  | .commit q token =>
    have hkeeps := keeps_commit w.shared.ledger token.reservation
    simp only [access] at hshared hmoved
    match hledger : w.shared.ledger.commit token.reservation with
    | (.error e, ledger) =>
      simp only [hledger, then_update] at hshared hmoved hkeeps
      exact consistent_of_quiet h hmoved hat rfl (by rw [hshared]; exact hkeeps)
        (by rw [hshared]) (by simp)
    | (.ok (), ledger) =>
      simp only [hledger, then_update] at hshared hmoved hkeeps
      apply consistent_of_quiet h hmoved hat rfl (by rw [hshared]; exact hkeeps) (by rw [hshared])
      intro d hd
      rw [← Option.some.inj hd]
      exact .inl hcall.1
  | .void q token =>
    obtain ⟨hreleased, htoken⟩ := hcall
    apply consistent_of_closing h hmoved hat rfl hshared (keeps_void w.shared.ledger token) ?_
      htoken (.inl hreleased)
    · intro hok
      refine .inr (.inl ⟨hreleased, ?_⟩)
      rw [htoken]
      exact void_ok_stands hok
    · intro e herror
      exact keeps_of_refused_void herror
  | .sources q token =>
    simp only [access] at hshared hmoved
    match hfilled : settlement w.shared.ledger token with
    | .error e =>
      simp only [hfilled] at hshared hmoved
      exact hread _ rfl hshared hmoved (by simp)
    | .ok filled =>
      simp only [hfilled] at hshared hmoved
      apply hread _ rfl hshared hmoved
      intro d hd
      rw [← Option.some.inj hd]
      obtain ⟨r, hr, _, _⟩ := settlement_some hfilled
      exact ⟨hcall.1, hcall.2, r, hr, settlement_within hfilled r hr⟩
  | .post q token filled =>
    obtain ⟨hexecuted, htoken, r, hr, hwithin⟩ := hcall
    have hwithin' : ∀ r', w.shared.ledger.ledger.reservations[token.reservation]? = some r' →
        FillsWithin r'.sources filled := by
      intro r' hr'
      rw [hr] at hr'
      rw [← Option.some.inj hr']
      exact hwithin
    apply consistent_of_closing h hmoved hat rfl hshared
      (keeps_post w.shared.ledger token hwithin') ?_ htoken (.inr hexecuted)
    · intro hok
      refine .inr (.inr ⟨hexecuted, ?_⟩)
      rw [htoken]
      exact post_ok_stands hwithin' hok
    · intro e herror
      exact keeps_of_refused_post hwithin' herror
  | .update q => exact consistent_update h hcond hat hshared hmoved

/-- A world whose ledger moved by a call that takes nothing, with the same rows
    and calls. -/
theorem consistent_of_keeps (h : Consistent w) {s : LocalCrossChainService}
    (hkeeps : Keeps none w.shared.ledger s.ledger)
    (hrows : s.preparations = w.shared.preparations) : Consistent { w with shared := s } where
  mirrored := hkeeps.mirrored h.mirrored
  calls := fun i c hat => callSound_of_keeps hkeeps (h.calls i c hat)
  rows := by
    intro token p hp
    have hp' : w.shared.preparations.load token = some p := by
      rw [← hrows]
      exact hp
    have hrow := h.rows token p hp'
    unfold RowSound at hrow ⊢
    match hstate : p.state with
    | .Prepared => trivial
    | .Executed =>
      simp only [hstate] at hrow
      exact hkeeps.settled _ _ (.inr rfl) hrow
    | .Released =>
      simp only [hstate] at hrow
      exact hkeeps.settled _ _ (.inl rfl) hrow
    | .Committed =>
      simp only [hstate] at hrow
      rcases hrow with hstands | hpending
      · exact .inl (hkeeps.committed token (by simp) hstands)
      · exact .inr hpending

theorem consistent_outside (h : Consistent w) (event : Event) :
    Consistent { w with shared := outside event w.shared } := by
  match event with
  | .quote reads request =>
    have hsame : (w.shared.quote reads request).2.ledger = w.shared.ledger ∧
        (w.shared.quote reads request).2.preparations = w.shared.preparations := by
      unfold quote
      split
      · exact ⟨rfl, rfl⟩
      split
      · exact ⟨rfl, rfl⟩
      split
      · exact ⟨rfl, rfl⟩
      split <;> exact ⟨rfl, rfl⟩
    apply consistent_of_keeps h
    · show Keeps none w.shared.ledger (w.shared.quote reads request).2.ledger
      rw [hsame.1]
      exact Keeps.refl _
    · exact hsame.2
  | .sweep reads exclude =>
    exact consistent_of_keeps h (keeps_sweep w.shared.ledger reads exclude) rfl

theorem consistent_start (h : Consistent w) (request : Request) :
    Consistent { w with calls := w.calls ++ [some (entry request)] } where
  mirrored := h.mirrored
  calls := by
    intro i c hat
    rcases World.at_append.mp hat with hold | ⟨_, rfl⟩
    · exact h.calls i c hold
    · match request with
      | .prepare _ _ => trivial
      | .perform _ _ => trivial
  rows := by
    intro token p hp
    have hrow := h.rows token p hp
    unfold RowSound at hrow ⊢
    split at hrow
    · trivial
    · rcases hrow with hstands | ⟨j, d, hd, hclosing⟩
      · exact .inl hstands
      · exact .inr ⟨j, d, World.at_append.mpr (.inl hd), hclosing⟩
    · exact hrow
    · exact hrow

/-- A call that stops leaves its row write undone; no committed row waits for it. -/
theorem consistent_stop (h : Consistent w) (hcond : Ordered w (.stop i)) (hat : w.At i c)
    (hshared : w'.shared = w.shared) (hmoved : Machine.Moved w w' i none) : Consistent w' := by
  apply consistent_of_access none h hmoved hat
  · rw [hshared]
    exact Keeps.refl _
  · simp
  · simp
  · intro token p hp
    rw [hshared] at hp
    by_cases hclosing : c.closing = some token
    · right
      have hrow := h.rows token p hp
      have hnot := hcond c hat token hclosing
      unfold RowSound at hrow ⊢
      rw [hshared]
      match hstate : p.state with
      | .Prepared => trivial
      | .Committed =>
        rw [hp] at hnot
        simp [hstate] at hnot
      | .Executed =>
        simp only [hstate] at hrow
        exact hrow
      | .Released =>
        simp only [hstate] at hrow
        exact hrow
    · exact .inl ⟨hp, hclosing⟩

/-- **Step lemma.** -/
theorem consistent_next (keccak256 : List UInt8 → B256) (w : LocalWorld) (a : LocalAction)
    (h : Consistent w) (hcond : Ordered w a) : Consistent ((machine keccak256).next w a) := by
  apply Machine.keeps (machine keccak256) (P := Consistent) (Q := Ordered) _ _ _ _ _ w a h hcond
  · intro w request h _
    exact consistent_start h request
  · intro w w' i reads c h hcond hat hshared hmoved
    exact consistent_access h hcond hat hshared hmoved
  · intro w w' i c h hcond hat hshared hmoved
    exact consistent_stop h hcond hat hshared hmoved
  · intro w reads h _
    exact reads.elim
  · intro w event h _
    exact consistent_outside h event

end Step

theorem consistent_initial (chain_id : ChainId) :
    Consistent (Machine.initial (new chain_id)) where
  mirrored := by
    intro k
    simp [Machine.initial, new, LedgerService.new, LedgerService.memory, LedgerService.durable,
      Ledger.empty]
  calls := fun _ _ hat => absurd hat World.not_at_nil
  rows := by
    intro token p hp
    simp [Machine.initial, new, SqlitePreparationStore.empty, SqlitePreparationStore.load] at hp

/-! ## Agreement -/

/-- The stored preparation and the reservation say the same: committed is
    committed, executed is posted, released is not open, in memory and in the
    store. -/
def Agrees (s : LocalCrossChainService) (p : Preparation) : Prop :=
  let states := ((s.ledger.memory p.token.reservation).map Prod.snd,
    (s.ledger.durable p.token.reservation).map Prod.snd)
  match p.state with
  | .Prepared => True
  | .Committed => states = (some .Committed, some .Committed)
  | .Executed => states = (some .Posted, some .Posted)
  | .Released => (∀ state ∈ states.1, state.is_open = false) ∧
      ∀ state ∈ states.2, state.is_open = false

instance (s : LocalCrossChainService) (p : Preparation) : Decidable (s.Agrees p) := by
  unfold Agrees
  cases p.state <;> simp only <;> infer_instance

/-- **Preparation and ledger agree.** In every run of overlapping requests and
    sweeps whose commits write their rows in order, every preparation agrees with
    its reservation whenever no request is in progress. -/
theorem preparation_and_ledger_agree (keccak256 : List UInt8 → B256) (chain_id : ChainId)
    (actions : List LocalAction)
    (h : Run.Along (machine keccak256).next Ordered (Machine.initial (new chain_id)) actions)
    (token : PrepareToken) (p : Preparation) :
    let w := Run.run (machine keccak256).next (Machine.initial (new chain_id)) actions
    w.Idle → w.shared.preparations.load token = some p → w.shared.Agrees p := by
  intro w hidle hp
  have hinv : Consistent w :=
    Run.invariant (consistent_next keccak256) (consistent_initial chain_id) h
  have htoken : p.token = token := w.shared.preparations.keyed token p hp
  have hrow := hinv.rows token p hp
  rw [← htoken] at hrow
  have hdurable := hinv.mirrored p.token.reservation
  unfold RowSound Stands at hrow
  unfold Agrees
  rw [← hdurable]
  match hstate : p.state with
  | .Prepared => trivial
  | .Committed =>
    simp only [hstate] at hrow ⊢
    rcases hrow with hstands | ⟨j, d, hd, _⟩
    · rw [hstands]
    · exact absurd hd (hidle j d)
  | .Executed =>
    simp only [hstate] at hrow ⊢
    rw [hrow]
  | .Released =>
    simp only [hstate] at hrow ⊢
    rw [hrow]
    have hvoided : ∀ state ∈ some ReservationState.Voided, state.is_open = false := by decide
    exact ⟨hvoided, hvoided⟩

/-! ## Overlapping requests -/

def sample_reads : PrepareReads :=
  { checked_at := 10, ttl_at := 10, ledger := sample_ledger_reads 10 }

/-- The leg is quoted and prepared by the first request. -/
def sample_prepared : List LocalAction :=
  [.outside (.quote { now_unix := 10, answer := .ok sample_leg, validated_at := 10 }
      { request_id := 9, role := .Destination, local_chain := ⟨10⟩, remote_chain := ⟨1⟩,
        input_token := 1, output_token := 2, amount := 100, deadline_unix := 100,
        route := .Direct }),
    .start (.prepare ⟨7⟩ sample_leg)] ++ List.replicate 4 (.access 0 sample_reads)

def sample_world (actions : List LocalAction) : LocalWorld :=
  Run.run (machine sample_hash).next (Machine.initial (new ⟨10⟩)) (sample_prepared ++ actions)

/-- A commit and a release overlap; the commit writes its row before the release
    does. -/
def ordered_actions : List LocalAction :=
  [.start (.perform (.commit 20) sample_token), .start (.perform .release sample_token)] ++
    [.access 1 sample_reads, .access 1 sample_reads, .access 2 sample_reads,
      .access 2 sample_reads, .access 1 sample_reads, .access 2 sample_reads]

/-- The same, with the row writes the other way round. -/
def stale_actions : List LocalAction :=
  [.start (.perform (.commit 20) sample_token), .start (.perform .release sample_token)] ++
    [.access 1 sample_reads, .access 1 sample_reads, .access 2 sample_reads,
      .access 2 sample_reads, .access 2 sample_reads, .access 1 sample_reads]

theorem preparation_and_ledger_agree_ordered :
    (sample_world ordered_actions).shared.preparations.load sample_token =
        some (sample_preparation .Released) ∧
      (sample_world ordered_actions).shared.Agrees (sample_preparation .Released) :=
  ⟨by decide +kernel, preparation_and_ledger_agree sample_hash ⟨10⟩
    (sample_prepared ++ ordered_actions) (by decide +kernel) sample_token
    (sample_preparation .Released) (by decide +kernel) (by decide +kernel)⟩

/-- A commit that writes its row after the release has finished: the preparation
    is committed, its reservation voided, and no request is in progress. -/
theorem stale_commit_splits_preparation_and_ledger :
    (sample_world stale_actions).calls.reduceOption.length = 0 ∧
      (sample_world stale_actions).shared.preparations.load sample_token =
        some (sample_preparation .Committed) ∧
      ¬ (sample_world stale_actions).shared.Agrees (sample_preparation .Committed) := by
  decide +kernel

end LocalCrossChainService

end Solvent
