import Mathlib
import Solvent.Ledger.Recovery

/-! # How one reservation evolves

    The runs of the services above the ledger care about the owner and the state
    of single reservations, in memory and in the store, and not about holds or
    budgets. One lemma per service call says what it does to them: `reserve`
    records a fresh pending reservation, every other call moves some recorded
    ones out of `Pending`, and a restart rebuilds memory from the open rows.
-/

namespace Solvent

open BTreeMap

namespace LedgerService

/-- Owner and state of a reservation in memory. -/
def memory (s : LedgerService) (id : ReservationId) :
    Option (ReservationOwner × ReservationState) :=
  (s.ledger.reservations[id]?).map fun r => (r.owner, r.state)

/-- Owner and state of a reservation in the store. -/
def durable (s : LedgerService) (id : ReservationId) :
    Option (ReservationOwner × ReservationState) :=
  (s.store[id]?).map fun row => (row.owner, row.state)

/-- A recorded reservation keeps its owner, does not reopen, and is not pending
    any more. -/
def Retires (a b : Option (ReservationOwner × ReservationState)) : Prop :=
  ∃ owner before after, a = some (owner, before) ∧ b = some (owner, after) ∧
    (after.is_open = true → before.is_open = true) ∧ after ≠ .Pending

/-- The two halves agree outside `ids`, and inside them a reservation is as it
    was or retires. -/
structure Moves (ids : ReservationId → Prop) (s s' : LedgerService) : Prop where
  memory_same : ∀ k, ¬ ids k → s'.memory k = s.memory k
  durable_same : ∀ k, ¬ ids k → s'.durable k = s.durable k
  memory_moved : ∀ k, s'.memory k = s.memory k ∨ Retires (s.memory k) (s'.memory k)
  durable_moved : ∀ k, s'.durable k = s.durable k ∨ Retires (s.durable k) (s'.durable k)

/-- Both halves are as they were. -/
structure Same (s s' : LedgerService) : Prop where
  memory : ∀ k, s'.memory k = s.memory k
  durable : ∀ k, s'.durable k = s.durable k

theorem Same.refl (s : LedgerService) : s.Same s := ⟨fun _ => rfl, fun _ => rfl⟩

theorem Same.moves {s s' : LedgerService} (h : s.Same s') (ids : ReservationId → Prop) :
    Moves ids s s' where
  memory_same := fun k _ => h.memory k
  durable_same := fun k _ => h.durable k
  memory_moved := fun k => .inl (h.memory k)
  durable_moved := fun k => .inl (h.durable k)

/-! ## Consequences of a move -/

section Moves

variable {ids : ReservationId → Prop} {s s' : LedgerService} {k : ReservationId}
variable {owner : ReservationOwner} {state : ReservationState}

theorem owner_back {a b : Option (ReservationOwner × ReservationState)}
    (h : b = a ∨ Retires a b) (hb : b = some (owner, state)) :
    ∃ before, a = some (owner, before) ∧ (state.is_open = true → before.is_open = true) := by
  rcases h with rfl | ⟨owner', before, after, ha, hb', hopen, _⟩
  · exact ⟨state, hb, fun h => h⟩
  · rw [hb'] at hb
    simp only [Option.some.injEq, Prod.mk.injEq] at hb
    obtain ⟨rfl, rfl⟩ := hb
    exact ⟨before, ha, hopen⟩

theorem owner_forth {a b : Option (ReservationOwner × ReservationState)}
    (h : b = a ∨ Retires a b) (ha : a = some (owner, state)) :
    ∃ after, b = some (owner, after) := by
  rcases h with rfl | ⟨owner', before, after, ha', hb, _, _⟩
  · exact ⟨state, ha⟩
  · rw [ha'] at ha
    simp only [Option.some.injEq, Prod.mk.injEq] at ha
    obtain ⟨rfl, rfl⟩ := ha
    exact ⟨after, hb⟩

theorem pending_back {a b : Option (ReservationOwner × ReservationState)}
    (h : b = a ∨ Retires a b) (hb : b = some (owner, .Pending)) : a = some (owner, .Pending) := by
  rcases h with rfl | ⟨owner', before, after, _, hb', _, hne⟩
  · exact hb
  · rw [hb'] at hb
    simp only [Option.some.injEq, Prod.mk.injEq] at hb
    exact absurd hb.2 hne

theorem isSome_of_moved {a b : Option (ReservationOwner × ReservationState)}
    (h : b = a ∨ Retires a b) : b.isSome = a.isSome := by
  rcases h with rfl | ⟨owner', before, after, ha, hb, _, _⟩
  · rfl
  · rw [ha, hb]
    rfl

/-- No move records a reservation. -/
theorem Moves.memory_none (h : Moves ids s s') (hnone : s.memory k = none) :
    s'.memory k = none := by
  have hsame := isSome_of_moved (h.memory_moved k)
  rw [hnone] at hsame
  exact Option.isNone_iff_eq_none.mp (by simpa using hsame)

theorem Moves.trans {ids' : ReservationId → Prop} {s'' : LedgerService} (h : Moves ids s s')
    (h' : Moves ids' s' s'') : Moves (fun k => ids k ∨ ids' k) s s'' := by
  have htwo : ∀ {a b c : Option (ReservationOwner × ReservationState)},
      (b = a ∨ Retires a b) → (c = b ∨ Retires b c) → (c = a ∨ Retires a c) := by
    intro a b c hab hbc
    rcases hbc with rfl | ⟨owner, before, after, hb, hc, hopen, hne⟩
    · exact hab
    · obtain ⟨first, ha, hfirst⟩ := owner_back hab hb
      exact .inr ⟨owner, first, after, ha, hc, fun h => hfirst (hopen h), hne⟩
  refine ⟨?_, ?_, fun k => htwo (h.memory_moved k) (h'.memory_moved k),
    fun k => htwo (h.durable_moved k) (h'.durable_moved k)⟩
  · intro k hk
    rw [h'.memory_same k (fun hk' => hk (.inr hk')), h.memory_same k (fun hk' => hk (.inl hk'))]
  · intro k hk
    rw [h'.durable_same k (fun hk' => hk (.inr hk')), h.durable_same k (fun hk' => hk (.inl hk'))]

end Moves

/-! ## The calls on a known id -/

/-- Both halves of a durable-first call on `id`. -/
theorem moves_of_update {s s' : LedgerService} {id : ReservationId}
    {from_states : List ReservationState} {change : LedgerRow → LedgerRow}
    (hstore : s'.store = SqliteLedgerStore.update_where s.store id from_states change)
    (howner : ∀ row, (change row).owner = row.owner)
    (hstate : ∀ row, row.state ∈ from_states → (change row).state ≠ .Pending ∧
      ((change row).state.is_open = true → row.state.is_open = true))
    (hledger : s'.ledger.reservations = s.ledger.reservations ∨
      ∃ r state, s.ledger.reservations[id]? = some r ∧ state ≠ .Pending ∧
        (state.is_open = true → r.state.is_open = true) ∧
        s'.ledger.reservations = s.ledger.set_state id r state) :
    Moves (· = id) s s' := by
  have hdurable : ∀ k, s'.durable k = s.durable k ∨
      (k = id ∧ Retires (s.durable k) (s'.durable k)) := by
    intro k
    unfold durable
    rw [hstore, get_update_where]
    by_cases hk : id = k
    · subst hk
      rw [if_pos rfl]
      cases hrow : s.store[id]? with
      | none => simp
      | some row =>
        by_cases hmem : row.state ∈ from_states
        · obtain ⟨hne, hopen⟩ := hstate row hmem
          refine .inr ⟨rfl, row.owner, row.state, (change row).state, rfl, ?_, hopen, hne⟩
          simp [hmem, howner]
        · simp [hmem]
    · simp [hk]
  have hmemory : ∀ k, s'.memory k = s.memory k ∨
      (k = id ∧ Retires (s.memory k) (s'.memory k)) := by
    intro k
    unfold memory
    rcases hledger with heq | ⟨r, state, hr, hne, hopen, heq⟩
    · rw [heq]
      exact .inl rfl
    · rw [heq, Ledger.set_state, get_insert]
      by_cases hk : id = k
      · subst hk
        refine .inr ⟨rfl, r.owner, r.state, state, by rw [hr]; rfl, by simp, hopen, hne⟩
      · simp [hk]
  refine ⟨?_, ?_, ?_, ?_⟩
  · intro k hk
    rcases hmemory k with h | ⟨h, _⟩
    · exact h
    · exact absurd h hk
  · intro k hk
    rcases hdurable k with h | ⟨h, _⟩
    · exact h
    · exact absurd h hk
  · intro k
    rcases hmemory k with h | ⟨_, h⟩
    · exact .inl h
    · exact .inr h
  · intro k
    rcases hdurable k with h | ⟨_, h⟩
    · exact .inl h
    · exact .inr h

theorem store_durable_first (s : LedgerService) (store : SqliteLedgerStore)
    (answer : Except LedgerError Unit × Ledger) :
    (s.durable_first store answer).2.store = store ∧
      (s.durable_first store answer).2.ledger = answer.2 := by
  unfold durable_first
  obtain ⟨result, ledger⟩ := answer
  cases result with
  | error e => exact ⟨rfl, rfl⟩
  | ok u => exact ⟨rfl, rfl⟩

theorem open_of_mem {state : ReservationState} (h : state ∈ [.Pending, .Committed]) :
    state.is_open = true := by
  simp only [List.mem_cons, List.not_mem_nil, or_false] at h
  rcases h with rfl | rfl <;> rfl

theorem moves_void (s : LedgerService) (id : ReservationId) : Moves (· = id) s (s.void id).2 := by
  obtain ⟨hstore, hledger⟩ := store_durable_first s (SqliteLedgerStore.void s.store id)
    (s.ledger.void id)
  refine moves_of_update hstore (fun _ => rfl) ?_ ?_
  · intro row hmem
    exact ⟨by simp, fun h => open_of_mem hmem⟩
  · unfold void
    rw [hledger]
    rcases Ledger.void_cases s.ledger id with ⟨r, hr, hopen, heq⟩ | ⟨⟨e, heq⟩, _⟩
    · exact .inr ⟨r, .Voided, hr, by simp, fun _ => hopen, by rw [heq]⟩
    · rw [heq]
      exact .inl rfl

theorem moves_post (s : LedgerService) (id : ReservationId) (filled : List U256) :
    Moves (· = id) s (s.post id filled).2 := by
  obtain ⟨hstore, hledger⟩ := store_durable_first s (SqliteLedgerStore.post s.store id filled)
    (s.ledger.post id filled)
  refine moves_of_update hstore (fun _ => rfl) ?_ ?_
  · intro row hmem
    exact ⟨by simp, fun h => open_of_mem hmem⟩
  · unfold post
    rw [hledger]
    rcases Ledger.post_cases s.ledger id filled with ⟨r, hr, hopen, _, heq⟩ | ⟨⟨e, heq⟩, _⟩
    · exact .inr ⟨r, .Posted, hr, by simp, fun _ => hopen, by rw [heq]⟩
    · rw [heq]
      exact .inl rfl

theorem moves_commit (s : LedgerService) (id : ReservationId) :
    Moves (· = id) s (s.commit id).2 := by
  obtain ⟨hstore, hledger⟩ := store_durable_first s (SqliteLedgerStore.commit s.store id)
    (s.ledger.commit id)
  refine moves_of_update hstore (fun _ => rfl) ?_ ?_
  · intro row hmem
    have hpending : row.state = .Pending := by simpa using hmem
    exact ⟨by simp, fun _ => by rw [hpending]; rfl⟩
  · unfold commit
    rw [hledger]
    rcases Ledger.commit_cases s.ledger id with ⟨r, hr, hstate, heq⟩ | ⟨heq, _⟩
    · exact .inr ⟨r, .Committed, hr, by simp, fun _ => by rw [hstate]; rfl, by rw [heq]⟩
    · rw [heq]
      exact .inl rfl

/-! ## Reserve -/

/-- **What a reserve does.** It fails and leaves both halves alone, or records a
    pending reservation that memory did not know and that the store did not know
    or held as the same pending one. -/
theorem reserve_evolves (s : LedgerService) (reads : Reads) (id : ReservationId)
    (intent : IntentId) (sources : List ReservationSource) (ttl_secs : U64) :
    (∃ e s', s.reserve reads id intent sources ttl_secs = (.error e, s') ∧ s.Same s') ∨
    (∃ s', s.reserve reads id intent sources ttl_secs = (.ok (), s') ∧
      s.memory id = none ∧
      (s.durable id = none ∨ s.durable id = some (.Swap intent, .Pending)) ∧
      s'.memory id = some (.Swap intent, .Pending) ∧
      s'.durable id = some (.Swap intent, .Pending) ∧
      ∀ k, k ≠ id → s'.memory k = s.memory k ∧ s'.durable k = s.durable k) := by
  unfold reserve
  cases read_budgets reads (accounts_of sources) with
  | error e => exact .inl ⟨e, s, rfl, .refl s⟩
  | ok budgets =>
    obtain ⟨fed, hfed⟩ := feed_eq s.ledger budgets
    simp only [reserve_owned, hfed]
    generalize hr : Reservation.for_swap id intent sources
      (reads.now_unix.saturating_add ttl_secs) = r
    have hid : r.id = id := by rw [← hr]; rfl
    have howner : r.owner = .Swap intent := by rw [← hr]; rfl
    have hpending : r.state = .Pending := by rw [← hr]; rfl
    cases hcan : Ledger.can_reserve { s.ledger with budgets := fed } r with
    | error e => exact .inl ⟨.Ledger e, _, rfl, ⟨fun _ => rfl, fun _ => rfl⟩⟩
    | ok u =>
      have hnone := (Ledger.can_reserve_ok hcan).1
      rw [hid] at hnone
      have hrestore := Ledger.restore_of_none (l := { s.ledger with budgets := fed })
        (r := r) (by rw [hid]; exact hnone)
      simp only
      unfold SqliteLedgerStore.reserve
      cases i64_of r.expires_at with
      | error e => exact .inl ⟨_, _, rfl, ⟨fun _ => rfl, fun _ => rfl⟩⟩
      | ok expires_at =>
        simp only [hid]
        have hmemory : s.memory id = none := by
          unfold memory
          have hnone' : s.ledger.reservations[id]? = none := hnone
          rw [hnone']
          rfl
        cases hrow : s.store[id]? with
        | none =>
          refine .inr ⟨_, rfl, hmemory, .inl (by simp [durable, hrow]), ?_, ?_, ?_⟩
          · simp [memory, publish, hrestore, hid, howner, hpending]
          · simp [durable, publish, howner]
          · intro k hk
            have hk' : id ≠ k := fun h => hk h.symm
            simp [memory, durable, publish, hrestore, hid, get_insert, hk']
        | some row =>
          by_cases hsame : row.state = .Pending ∧ row.owner = r.owner ∧ row.sources = r.sources ∧
              row.expires_at = expires_at
          · simp only [if_pos hsame]
            refine .inr ⟨_, rfl, hmemory, .inr ?_, ?_, ?_, ?_⟩
            · simp [durable, hrow, hsame.1, hsame.2.1, howner]
            · simp [memory, publish, hrestore, hid, howner, hpending]
            · simp [durable, publish, hrow, hsame.1, hsame.2.1, howner]
            · intro k hk
              have hk' : id ≠ k := fun h => hk h.symm
              simp [memory, durable, publish, hrestore, hid, get_insert, hk']
          · simp only [if_neg hsame]
            exact .inl ⟨_, _, rfl, ⟨fun _ => rfl, fun _ => rfl⟩⟩

/-- A reservation that goes through is recorded with its sources. -/
theorem reservation_of_reserve {s s' : LedgerService} {reads : Reads} {id : ReservationId}
    {intent : IntentId} {sources : List ReservationSource} {ttl_secs : U64}
    (h : s.reserve reads id intent sources ttl_secs = (.ok (), s')) :
    ∃ r, s'.ledger.reservations[id]? = some r ∧ r.state = .Pending ∧ r.sources = sources := by
  unfold LedgerService.reserve at h
  split at h
  · cases h
  rename_i budgets _
  unfold LedgerService.reserve_owned at h
  simp only at h
  split at h
  · cases h
  rename_i hcan
  split at h
  · cases h
  have hs' := (Prod.mk.inj h).2
  obtain ⟨hnew, -⟩ := Ledger.can_reserve_ok hcan
  subst hs'
  refine ⟨.for_swap id intent sources (reads.now_unix.saturating_add ttl_secs), ?_, rfl, rfl⟩
  show (Ledger.restore _ _).reservations[id]? = _
  rw [Ledger.restore_of_none hnew, get_insert]
  exact if_pos rfl

/-! ## The sweep -/

/-- One round of the sweep loop. -/
theorem moves_expired (s : LedgerService) (id : ReservationId) :
    Moves (· = id) s
      { s with
        store := SqliteLedgerStore.expire s.store id
        ledger := (s.ledger.expire id).2 } := by
  refine moves_of_update rfl (fun _ => rfl) ?_ ?_
  · intro row hmem
    have hpending : row.state = .Pending := by simpa using hmem
    exact ⟨by simp, fun _ => by rw [hpending]; rfl⟩
  · rcases Ledger.expire_cases s.ledger id with ⟨r, hr, hstate, heq⟩ | ⟨⟨e, heq⟩, _⟩
    · exact .inr ⟨r, .Expired, hr, by simp, fun _ => by rw [hstate]; rfl, by rw [heq]⟩
    · rw [heq]
      exact .inl rfl

/-- **Loop lemma.** The sweep moves the ids it is given; if it gets through, it
    reports the intent of every swap among them. -/
theorem sweep_loop_evolves (s : LedgerService) (ids : List ReservationId) :
    Moves (· ∈ ids) s (s.sweep_loop ids).2 ∧
      ∀ swept, (s.sweep_loop ids).1 = .ok swept → ∀ id ∈ ids, ∀ intent state,
        s.memory id = some (.Swap intent, state) → intent ∈ swept := by
  induction ids generalizing s with
  | nil => exact ⟨(Same.refl s).moves _, by simp⟩
  | cons id ids ih =>
    have hround := moves_expired s id
    unfold sweep_loop
    cases hexpire : s.ledger.expire id with
    | mk result ledger =>
      rw [hexpire] at hround
      cases result with
      | error e =>
        refine ⟨⟨?_, ?_, hround.memory_moved, hround.durable_moved⟩, by simp⟩
        · intro k hk
          exact hround.memory_same k (fun h => hk (by simp [h]))
        · intro k hk
          exact hround.durable_same k (fun h => hk (by simp [h]))
      | ok u =>
        obtain ⟨hrest, hswept⟩ :=
          ih { s with store := SqliteLedgerStore.expire s.store id, ledger }
        have hboth := hround.trans hrest
        have hmoves : Moves (· ∈ id :: ids) s (sweep_loop
            { s with store := SqliteLedgerStore.expire s.store id, ledger } ids).2 := by
          refine ⟨?_, ?_, hboth.memory_moved, hboth.durable_moved⟩
          · intro k hk
            simp only [List.mem_cons, not_or] at hk
            exact hboth.memory_same k (fun h => h.elim hk.1 hk.2)
          · intro k hk
            simp only [List.mem_cons, not_or] at hk
            exact hboth.durable_same k (fun h => h.elim hk.1 hk.2)
        simp only
        cases hloop : sweep_loop
          { s with store := SqliteLedgerStore.expire s.store id, ledger } ids with
        | mk result s' =>
          rw [hloop] at hmoves hswept
          cases result with
          | error e => exact ⟨hmoves, by simp⟩
          | ok rest =>
            refine ⟨hmoves, ?_⟩
            intro swept heq k hk intent state hmem
            obtain rfl := Except.ok.inj heq
            rw [List.mem_append]
            by_cases hid : k = id
            · -- The head: its own record names the intent.
              left
              subst hid
              unfold memory at hmem
              obtain ⟨r, hr, hpair⟩ := Option.map_eq_some_iff.mp hmem
              have howner : r.owner = .Swap intent := congrArg Prod.fst hpair
              simp [Ledger.reservation, hr, howner, ReservationOwner.swap_intent]
            · right
              have hk' : k ∈ ids := by simpa [hid] using hk
              have hsame := hround.memory_same k hid
              exact hswept rest rfl k hk' intent state (by rw [← hmem, ← hsame])

/-! ## Restart -/

/-- A restart: a fresh service over the same store, recovered with the budgets
    the source answers. -/
def recovered (s : LedgerService) (budget : AccountKey → U256) : LedgerService :=
  ((new s.store).recover { now_unix := 0, budget := fun a => .ok (budget a) }).2

/-- **Recovery.** Memory is the open part of the store. -/
theorem recovered_evolves (s : LedgerService) (budget : AccountKey → U256) :
    (s.recovered budget).store = s.store ∧
      ∀ id, (s.recovered budget).memory id =
        (s.durable id).filter fun b => b.2.is_open := by
  have hreads : ∀ a, ∃ answer, Reads.budget
      { now_unix := 0, budget := fun a => .ok (budget a) } a = .ok answer :=
    fun a => ⟨budget a, rfl⟩
  obtain ⟨l, hloop, hres⟩ := recover_loop_reservations hreads
    (SqliteLedgerStore.open_reservations s.store) .empty
  have hrecover : s.recovered budget = publish { new s.store with ledger := l } := by
    unfold recovered recover
    simp only [new, hloop]
  rw [hrecover]
  refine ⟨rfl, ?_⟩
  intro id
  have hget := hres id
  rw [find_open_reservations] at hget
  have hempty : (Ledger.empty.reservations[id]?) = none := by simp [Ledger.empty]
  rw [hempty, Option.none_or] at hget
  show (l.reservations[id]?).map (fun r => (r.owner, r.state)) = _
  rw [hget]
  unfold durable
  cases hrow : s.store[id]? with
  | none => rfl
  | some row =>
    have hstate : (row.reservation id).state = row.state := rfl
    by_cases hopen : row.state.is_open = true
    · simp [Option.filter_some, hopen, LedgerRow.reservation]
    · simp [Option.filter_some, hstate, hopen]

theorem durable_recovered (s : LedgerService) (budget : AccountKey → U256) (id : ReservationId) :
    (s.recovered budget).durable id = s.durable id := by
  unfold durable
  rw [(recovered_evolves s budget).1]

theorem same_sync_budgets (s : LedgerService)
    (answer : Except SolventError (BTreeMap AccountKey U256)) :
    s.Same (s.sync_budgets answer).2 := by
  unfold sync_budgets
  cases answer with
  | error e => exact .refl s
  | ok budgets => exact ⟨fun _ => rfl, fun _ => rfl⟩

end LedgerService

end Solvent
