import Mathlib
import Solvent.Ledger.Evolution

/-! # What each command does to both halves

    A command on a known id moves it from a set of states to one state, in the
    store and in memory alike. `Shifts` says so for the two halves at once; with
    it goes what each command answers.

    After a restart memory has forgotten the closed reservations, so the halves
    agree on the open ones only: `OpenAlike`. Every shift out of open states
    keeps that.
-/

namespace Solvent

open BTreeMap

namespace LedgerService

/-! ## Shifts -/

/-- The reservation after a move of `from_states` to `to_state`. -/
def shift (from_states : List ReservationState) (to_state : ReservationState)
    (b : Option (ReservationOwner × ReservationState)) :
    Option (ReservationOwner × ReservationState) :=
  b.map fun b => if b.2 ∈ from_states then (b.1, to_state) else b

/-- The command moved the reservations `ids`, in both halves, and no other. -/
structure Shifts (ids : List ReservationId) (from_states : List ReservationState)
    (to_state : ReservationState) (s s' : LedgerService) : Prop where
  memory : ∀ k, s'.memory k =
    if k ∈ ids then shift from_states to_state (s.memory k) else s.memory k
  durable : ∀ k, s'.durable k =
    if k ∈ ids then shift from_states to_state (s.durable k) else s.durable k

theorem shift_of_mem {from_states : List ReservationState} {to_state state : ReservationState}
    {owner : ReservationOwner} (h : state ∈ from_states) :
    shift from_states to_state (some (owner, state)) = some (owner, to_state) := by
  simp [shift, h]

theorem shift_of_not_mem {from_states : List ReservationState} {to_state : ReservationState}
    {b : Option (ReservationOwner × ReservationState)} (h : ∀ x ∈ b, x.2 ∉ from_states) :
    shift from_states to_state b = b := by
  match b with
  | none => rfl
  | some x => simp [shift, h x rfl]

/-- The store's half of a guarded update. -/
theorem durable_update {s s' : LedgerService} {id : ReservationId}
    {from_states : List ReservationState} {change : LedgerRow → LedgerRow}
    {to_state : ReservationState}
    (hstore : s'.store = SqliteLedgerStore.update_where s.store id from_states change)
    (hchange : ∀ row, (change row).owner = row.owner ∧ (change row).state = to_state)
    (k : ReservationId) :
    s'.durable k =
      if k ∈ [id] then shift from_states to_state (s.durable k) else s.durable k := by
  unfold durable
  rw [hstore, get_update_where]
  by_cases hk : id = k
  · subst hk
    simp only [if_true, List.mem_singleton]
    cases s.store[id]? with
    | none => rfl
    | some row =>
      obtain ⟨howner, hstate⟩ := hchange row
      by_cases hmem : row.state ∈ from_states <;> simp [shift, hmem, howner, hstate]
  · have hk' : k ∉ [id] := by simpa using fun h => hk h.symm
    rw [if_neg hk, if_neg hk']

/-- Memory's half: the engine recorded the new state, or the state was none of
    `from_states` and nothing moved. -/
theorem memory_update {s s' : LedgerService} {id : ReservationId}
    {from_states : List ReservationState} {to_state : ReservationState}
    (h : (∃ r, s.ledger.reservations[id]? = some r ∧ r.state ∈ from_states ∧
        s'.ledger.reservations = s.ledger.set_state id r to_state) ∨
      (s'.ledger.reservations = s.ledger.reservations ∧
        ∀ r, s.ledger.reservations[id]? = some r → r.state ∉ from_states))
    (k : ReservationId) :
    s'.memory k =
      if k ∈ [id] then shift from_states to_state (s.memory k) else s.memory k := by
  unfold memory
  rcases h with ⟨r, hr, hmem, heq⟩ | ⟨heq, hno⟩
  · rw [heq, Ledger.set_state, get_insert]
    by_cases hk : id = k
    · subst hk
      simp [hr, shift, hmem]
    · have hk' : k ∉ [id] := by simpa using fun h => hk h.symm
      rw [if_neg hk, if_neg hk']
  · rw [heq]
    split
    · rename_i hk
      obtain rfl : k = id := by simpa using hk
      symm
      apply shift_of_not_mem
      intro x hx
      obtain ⟨r, hr, rfl⟩ := Option.map_eq_some_iff.mp hx
      exact hno r hr
    · rfl

/-! ## The commands -/

theorem open_iff_mem {state : ReservationState} :
    state.is_open = true ↔ state ∈ [ReservationState.Pending, .Committed] := by
  cases state <;> simp [ReservationState.is_open]

theorem shifts_commit (s : LedgerService) (id : ReservationId) :
    Shifts [id] [.Pending] .Committed s (s.commit id).2 := by
  obtain ⟨hstore, hledger⟩ := store_durable_first s (SqliteLedgerStore.commit s.store id)
    (s.ledger.commit id)
  refine ⟨?_, durable_update hstore fun _ => ⟨rfl, rfl⟩⟩
  apply memory_update
  unfold commit
  rw [hledger]
  rcases Ledger.commit_cases s.ledger id with ⟨r, hr, hstate, heq⟩ | ⟨heq, hno⟩
  · exact .inl ⟨r, hr, by simp [hstate], by rw [heq]⟩
  · exact .inr ⟨by rw [heq], fun r hr => by simpa using hno r hr⟩

theorem shifts_void (s : LedgerService) (id : ReservationId) :
    Shifts [id] [.Pending, .Committed] .Voided s (s.void id).2 := by
  obtain ⟨hstore, hledger⟩ := store_durable_first s (SqliteLedgerStore.void s.store id)
    (s.ledger.void id)
  refine ⟨?_, durable_update hstore fun _ => ⟨rfl, rfl⟩⟩
  apply memory_update
  unfold void
  rw [hledger]
  rcases Ledger.void_cases s.ledger id with ⟨r, hr, hopen, heq⟩ | ⟨⟨e, heq⟩, hno⟩
  · exact .inl ⟨r, hr, open_iff_mem.mp hopen, by rw [heq]⟩
  · refine .inr ⟨by rw [heq], ?_⟩
    intro r hr hmem
    have hclosed := hno r hr
    rw [open_iff_mem.mpr hmem] at hclosed
    cases hclosed

/-- A settlement within what was reserved. -/
theorem shifts_post (s : LedgerService) (id : ReservationId) (filled : List U256)
    (hwithin : ∀ r, s.ledger.reservations[id]? = some r → FillsWithin r.sources filled) :
    Shifts [id] [.Pending, .Committed] .Posted s (s.post id filled).2 := by
  obtain ⟨hstore, hledger⟩ := store_durable_first s (SqliteLedgerStore.post s.store id filled)
    (s.ledger.post id filled)
  refine ⟨?_, durable_update hstore fun _ => ⟨rfl, rfl⟩⟩
  apply memory_update
  unfold post
  rw [hledger]
  rcases Ledger.post_cases s.ledger id filled with ⟨r, hr, hopen, _, heq⟩ | ⟨⟨e, heq⟩, hno⟩
  · exact .inl ⟨r, hr, open_iff_mem.mp hopen, by rw [heq]⟩
  · refine .inr ⟨by rw [heq], ?_⟩
    intro r hr hmem
    exact hno r hr (open_iff_mem.mpr hmem) (hwithin r hr)

theorem Shifts.trans {ids ids' : List ReservationId} {from_states : List ReservationState}
    {to_state : ReservationState} {s s' s'' : LedgerService}
    (h : Shifts ids from_states to_state s s') (h' : Shifts ids' from_states to_state s' s'')
    (hto : to_state ∉ from_states) : Shifts (ids ++ ids') from_states to_state s s'' := by
  -- Moving a reservation twice is moving it once.
  have htwice : ∀ b, shift from_states to_state (shift from_states to_state b) =
      shift from_states to_state b := by
    intro b
    apply shift_of_not_mem
    intro x hx
    obtain ⟨y, _, rfl⟩ := Option.map_eq_some_iff.mp hx
    split
    · exact hto
    · assumption
  constructor
  · intro k
    rw [h'.memory, h.memory]
    by_cases hk : k ∈ ids <;> by_cases hk' : k ∈ ids' <;> simp [hk, hk', htwice]
  · intro k
    rw [h'.durable, h.durable]
    by_cases hk : k ∈ ids <;> by_cases hk' : k ∈ ids' <;> simp [hk, hk', htwice]

theorem shifts_nil (from_states : List ReservationState) (to_state : ReservationState)
    (s : LedgerService) : Shifts [] from_states to_state s s :=
  ⟨fun _ => by simp, fun _ => by simp⟩

/-- One round of the sweep loop. -/
theorem shifts_expired (s : LedgerService) (id : ReservationId) :
    Shifts [id] [.Pending] .Expired s
      { s with
        store := SqliteLedgerStore.expire s.store id
        ledger := (s.ledger.expire id).2 } := by
  refine ⟨?_, durable_update rfl fun _ => ⟨rfl, rfl⟩⟩
  apply memory_update
  rcases Ledger.expire_cases s.ledger id with ⟨r, hr, hstate, heq⟩ | ⟨⟨e, heq⟩, hno⟩
  · exact .inl ⟨r, hr, by simp [hstate], by rw [heq]⟩
  · exact .inr ⟨by rw [heq], fun r hr => by simpa using hno r hr⟩

/-- **Loop lemma.** The loop may stop early: an id the engine refuses is not
    pending, so the store's update of it is the same shift. -/
theorem shifts_sweep_loop (s : LedgerService) (ids : List ReservationId) :
    ∃ swept, Shifts swept [.Pending] .Expired s (s.sweep_loop ids).2 := by
  induction ids generalizing s with
  | nil => exact ⟨[], shifts_nil _ _ s⟩
  | cons id ids ih =>
    have hone := shifts_expired s id
    unfold sweep_loop
    generalize s.ledger.expire id = answer at hone
    rcases answer with ⟨e | ⟨⟩, ledger⟩
    · exact ⟨[id], hone⟩
    · obtain ⟨swept, hrest⟩ := ih { s with store := SqliteLedgerStore.expire s.store id, ledger }
      refine ⟨[id] ++ swept, ?_⟩
      have htrans := hone.trans hrest (by simp)
      simp only
      split <;> rename_i hloop <;> rw [hloop] at htrans <;> exact htrans

theorem shifts_sweep (s : LedgerService) (reads : Reads) (exclude : List ReservationId) :
    ∃ swept, Shifts swept [.Pending] .Expired s (s.sweep_expired reads exclude).2 := by
  obtain ⟨swept, h⟩ := shifts_sweep_loop s
    ((s.ledger.expired_swaps_as_of reads.now_unix).filter (· ∉ exclude))
  refine ⟨swept, ?_⟩
  unfold sweep_expired
  simp only
  split
  · rename_i hloop
    rw [hloop] at h
    exact h
  · rename_i hloop
    rw [hloop] at h
    split
    · exact h
    · exact ⟨h.memory, h.durable⟩

/-! ## Answers -/

/-- What a command on an open reservation answers. -/
def active_answer (id : ReservationId) :
    Option (ReservationOwner × ReservationState) → Except SolventError Unit
  | none => .error (.Ledger (.Unknown id))
  | some (_, state) =>
    if state.is_open then .ok () else .error (.Ledger (.WrongState id state .Pending))

theorem answer_durable_first (s : LedgerService) (store : SqliteLedgerStore)
    (answer : Except LedgerError Unit × Ledger) :
    (s.durable_first store answer).1 = answer.1.mapError .Ledger := by
  obtain ⟨result, ledger⟩ := answer
  match result with
  | .error e => rfl
  | .ok () => rfl

theorem commit_answer (s : LedgerService) (id : ReservationId) :
    (s.commit id).1 = active_answer id (s.memory id) := by
  unfold commit memory
  rw [answer_durable_first]
  unfold Ledger.commit
  cases s.ledger.reservations[id]? with
  | none => rfl
  | some r =>
    obtain ⟨_, _, _, state, _⟩ := r
    cases state <;> rfl

theorem void_answer (s : LedgerService) (id : ReservationId) :
    (s.void id).1 = active_answer id (s.memory id) := by
  unfold void memory
  rw [answer_durable_first]
  unfold Ledger.void Ledger.active_sources
  cases s.ledger.reservations[id]? with
  | none => rfl
  | some r =>
    obtain ⟨_, _, _, state, _⟩ := r
    cases state <;> rfl

theorem post_answer (s : LedgerService) (id : ReservationId) (filled : List U256)
    (hwithin : ∀ r, s.ledger.reservations[id]? = some r → FillsWithin r.sources filled) :
    (s.post id filled).1 = active_answer id (s.memory id) := by
  unfold post memory
  rw [answer_durable_first]
  rcases Ledger.post_cases s.ledger id filled with ⟨r, hr, hopen, _, heq⟩ | ⟨_, hno⟩
  · rw [heq, hr]
    simp [active_answer, hopen, Except.mapError]
  · unfold Ledger.post Ledger.active_sources
    cases hr : s.ledger.reservations[id]? with
    | none => rfl
    | some r =>
      have hclosed : ¬ r.state.is_open = true := fun hopen => hno r hr hopen (hwithin r hr)
      cases hstate : r.state with
      | Pending => exact absurd (by rw [hstate]; rfl) hclosed
      | Committed => exact absurd (by rw [hstate]; rfl) hclosed
      | Posted => simp [active_answer, hstate, ReservationState.is_open, Except.mapError]
      | Voided => simp [active_answer, hstate, ReservationState.is_open, Except.mapError]
      | Expired => simp [active_answer, hstate, ReservationState.is_open, Except.mapError]
      | ReorgOpen => simp [active_answer, hstate, ReservationState.is_open, Except.mapError]

/-! ## The open part -/

/-- The open reservations, of either half. -/
def open_part (b : Option (ReservationOwner × ReservationState)) :
    Option (ReservationOwner × ReservationState) :=
  b.filter fun b => b.2.is_open

/-- Store and memory agree on the open reservations. -/
def OpenAlike (s : LedgerService) : Prop := ∀ k, open_part (s.memory k) = open_part (s.durable k)

theorem open_part_some {b : Option (ReservationOwner × ReservationState)}
    {x : ReservationOwner × ReservationState} :
    open_part b = some x ↔ b = some x ∧ x.2.is_open = true := by
  unfold open_part
  rw [Option.filter_eq_some_iff]

theorem open_part_none {b : Option (ReservationOwner × ReservationState)} :
    open_part b = none ↔ ∀ x ∈ b, x.2.is_open = false := by
  unfold open_part
  simp [Option.filter_eq_none_iff]

theorem openAlike_of_shifts {ids : List ReservationId} {from_states : List ReservationState}
    {to_state : ReservationState} {s s' : LedgerService}
    (h : Shifts ids from_states to_state s s') (hs : s.OpenAlike)
    (hfrom : ∀ state ∈ from_states, state.is_open = true) : s'.OpenAlike := by
  intro k
  rw [h.memory, h.durable]
  split
  · cases hopen : open_part (s.memory k) with
    | some x =>
      -- Both halves hold the same open reservation, so both move it the same way.
      have hdurable := hs k
      rw [hopen] at hdurable
      rw [(open_part_some.mp hopen).1, (open_part_some.mp hdurable.symm).1]
    | none =>
      -- Closed on both sides: the shift does not apply.
      have hclosed : ∀ b : Option (ReservationOwner × ReservationState), open_part b = none →
          shift from_states to_state b = b := by
        intro b hb
        apply shift_of_not_mem
        intro x hx hmem
        have := open_part_none.mp hb x hx
        rw [hfrom _ hmem] at this
        cases this
      rw [hclosed _ hopen, hclosed _ (hs k ▸ hopen)]
      exact hs k
  · exact hs k

theorem openAlike_reserve {s : LedgerService} (hs : s.OpenAlike) (reads : Reads)
    (id : ReservationId) (intent : IntentId) (sources : List ReservationSource) (ttl_secs : U64) :
    (s.reserve reads id intent sources ttl_secs).2.OpenAlike := by
  rcases reserve_evolves s reads id intent sources ttl_secs with
    ⟨e, s', heq, hsame⟩ | ⟨s', heq, _, _, hmemory, hdurable, hothers⟩
  · rw [heq]
    intro k
    rw [hsame.memory, hsame.durable]
    exact hs k
  · rw [heq]
    intro k
    by_cases hk : k = id
    · rw [hk, hmemory, hdurable]
    · rw [(hothers k hk).1, (hothers k hk).2]
      exact hs k

theorem openAlike_recovered (s : LedgerService) (budget : AccountKey → U256) :
    (s.recovered budget).OpenAlike := by
  intro k
  rw [(recovered_evolves s budget).2 k, durable_recovered]
  unfold open_part
  rw [Option.filter_filter]
  simp

theorem openAlike_new : (new ∅).OpenAlike := by
  intro k
  simp [memory, durable, new, Ledger.empty]

/-! ## Sources -/

/-- No command changes the sources of a recorded reservation. -/
theorem sources_next (s : LedgerService) (c : ServiceCommand) {id : ReservationId}
    {r : Reservation} (hr : s.ledger.reservations[id]? = some r) :
    ∃ r', (s.next c).ledger.reservations[id]? = some r' ∧ r'.sources = r.sources := by
  have hset : ∀ (l : Ledger) (k : ReservationId) (q : Reservation) (state : ReservationState),
      l.reservations[k]? = some q → ∀ r', l.reservations[id]? = some r' →
      ∃ r'', (l.set_state k q state)[id]? = some r'' ∧ r''.sources = r'.sources := by
    intro l k q state hq r' hr'
    unfold Ledger.set_state
    rw [get_insert]
    split
    · rename_i hk
      subst hk
      rw [hq] at hr'
      obtain rfl := Option.some.inj hr'
      exact ⟨_, rfl, rfl⟩
    · exact ⟨r', hr', rfl⟩
  -- Along the effects of the command, one at a time.
  have heffects := Ledger.effects_of_admissions (admissions_exec s c)
  generalize (s.next c).ledger = after at heffects ⊢
  induction heffects with
  | refl => exact ⟨r, hr, rfl⟩
  | @tail l l' _ heffect ih =>
    obtain ⟨r', hr', hsources⟩ := ih
    rw [← hsources]
    rcases heffect with hmove | ⟨q, hnew, _⟩
    · rcases hmove with _ | _ | ⟨k, q, hq, _⟩ | ⟨k, q, _, hq, _, _⟩ | ⟨k, q, _, hq, _, _⟩ |
        ⟨k, q, hq, _⟩
      · exact ⟨r', hr', rfl⟩
      · exact ⟨r', hr', rfl⟩
      · exact hset l k q _ hq r' hr'
      · exact hset l k q _ hq r' hr'
      · exact hset l k q _ hq r' hr'
      · exact hset l k q _ hq r' hr'
    · refine ⟨r', ?_, rfl⟩
      show (l.reservations.insert q.id q)[id]? = some r'
      rw [get_insert_ne]
      · exact hr'
      · intro hid
        rw [hid, hr'] at hnew
        cases hnew

end LedgerService

end Solvent
