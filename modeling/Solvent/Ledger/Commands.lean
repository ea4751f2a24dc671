import Mathlib
import Solvent.Framework.Run
import Solvent.Ledger.Holds

/-! # Ledger commands and what each can do

    `Command` is the ledger's whole command set and `exec` runs one. `Effect`
    says, in one place and guards included, everything a command can do to the
    ledger: it is refused or idle, it feeds budgets, or it moves exactly one
    reservation through its lifecycle. Every invariant of the ledger is proved
    by cases on `Effect`, never by unfolding a command.
-/

namespace Solvent

open BTreeMap

/-- A reservation that still holds capital in `pending`. -/
def ReservationState.is_open : ReservationState → Bool
  | Pending | Committed => true
  | _ => false

inductive Command where
  | set_budget (account : AccountKey) (budget : U256)
  | set_budgets (budgets : BTreeMap AccountKey U256)
  | reserve (reservation : Reservation)
  | restore (reservation : Reservation)
  | commit (id : ReservationId)
  | post (id : ReservationId) (filled : List U256)
  | void (id : ReservationId)
  | expire (id : ReservationId)
  | void_reorg (id : ReservationId)

/-- What the callers hand in: a fresh reservation to `reserve`, a durably open
    one to `restore`. -/
def Command.Admissible : Command → Prop
  | reserve r => r.state = .Pending
  | restore r => r.state = .Pending ∨ r.state = .Committed
  | _ => True

/-- Whether the command may record a new reservation. -/
def Command.Places : Command → Bool
  | reserve _ | restore _ => true
  | _ => false

namespace Ledger

def exec (l : Ledger) : Command → Except LedgerError Unit × Ledger
  | .set_budget account budget => (.ok (), l.set_budget account budget)
  | .set_budgets budgets => (.ok (), l.set_budgets budgets)
  | .reserve r => l.reserve r
  | .restore r => (.ok (), l.restore r)
  | .commit id => l.commit id
  | .post id filled => l.post id filled
  | .void id => l.void id
  | .expire id => l.expire id
  | .void_reorg id => l.void_reorg id

/-- The ledger after one command, successful or refused. -/
def next (l : Ledger) (c : Command) : Ledger := (l.exec c).2

/-! ## Effects -/

/-- Record `r` with a new state. -/
def set_state (l : Ledger) (id : ReservationId) (r : Reservation) (state : ReservationState) :
    BTreeMap ReservationId Reservation :=
  l.reservations.insert id { r with state }

/-- Everything a command on the recorded reservations can do. -/
inductive Move (l : Ledger) : Ledger → Prop where
  /-- Refused, or already done. -/
  | idle : Move l l
  | budgets (budgets : BTreeMap AccountKey U256) : Move l { l with budgets }
  | commit (id : ReservationId) (r : Reservation) (hr : l.reservations[id]? = some r)
      (hstate : r.state = .Pending) :
      Move l { l with reservations := l.set_state id r .Committed }
  | post (id : ReservationId) (r : Reservation) (filled : List U256)
      (hr : l.reservations[id]? = some r) (hopen : r.state.is_open = true)
      (hfills : FillsWithin r.sources filled) :
      Move l { l with
        held := apply_steps l.held (post_steps r.sources filled)
        filled := l.filled.insert id filled
        reservations := l.set_state id r .Posted }
  | release (id : ReservationId) (r : Reservation) (terminal : ReservationState)
      (hr : l.reservations[id]? = some r) (hopen : r.state.is_open = true)
      (hterm : terminal = .Voided ∨ terminal = .Expired) :
      Move l { l with
        held := apply_steps l.held (release_steps r.sources)
        reservations := l.set_state id r terminal }
  | reorg (id : ReservationId) (r : Reservation) (hr : l.reservations[id]? = some r)
      (hstate : r.state = .Posted) :
      Move l { l with
        held := apply_steps l.held (reorg_steps r.sources (get_or l.filled id []))
        filled := l.filled.erase id
        reservations := l.set_state id r .ReorgOpen }

/-- Everything a command can do: move what is recorded, or record a new open
    reservation and hold its demand. -/
inductive Effect (l : Ledger) : Ledger → Prop where
  | move {l' : Ledger} (h : Move l l') : Effect l l'
  | place (r : Reservation) (hnew : l.reservations[r.id]? = none)
      (hopen : r.state.is_open = true) :
      Effect l { l with
        held := apply_steps l.held (restore_steps r.sources)
        reservations := l.reservations.insert r.id r }

/-! ## Inversion of each command -/

theorem can_reserve_ok {l : Ledger} {r : Reservation} (h : l.can_reserve r = .ok ()) :
    l.reservations[r.id]? = none ∧
      l.first_shortfall (aggregate_demand r.sources).toList = none := by
  unfold can_reserve at h
  split at h
  · simp at h
  · rename_i hnew
    split at h
    · simp at h
    · rename_i hnone
      exact ⟨by simpa using hnew, hnone⟩

theorem transition_of_some {l : Ledger} {id : ReservationId} {r : Reservation}
    (h : l.reservations[id]? = some r) (state : ReservationState) :
    l.transition id state = { l with reservations := l.set_state id r state } := by
  unfold transition
  rw [h]
  rfl

theorem active_sources_ok {l : Ledger} {id : ReservationId} {sources : List ReservationSource} :
    l.active_sources id = .ok sources ↔
      ∃ r, l.reservations[id]? = some r ∧ r.state.is_open = true ∧ r.sources = sources := by
  unfold active_sources
  cases hr : l.reservations[id]? with
  | none => simp
  | some r => cases hs : r.state <;> simp [hs, ReservationState.is_open]

theorem pending_sources_ok {l : Ledger} {id : ReservationId}
    {sources : List ReservationSource} :
    l.pending_sources id = .ok sources ↔
      ∃ r, l.reservations[id]? = some r ∧ r.state = .Pending ∧ r.sources = sources := by
  unfold pending_sources require_state
  cases hr : l.reservations[id]? with
  | none => simp
  | some r =>
    by_cases hs : r.state = .Pending
    · simp [hs]
    · simp [hs]

theorem restore_of_none {l : Ledger} {r : Reservation} (h : l.reservations[r.id]? = none) :
    l.restore r = { l with
      held := apply_steps l.held (restore_steps r.sources)
      reservations := l.reservations.insert r.id r } := by
  unfold restore
  simp [h]

theorem restore_of_some {l : Ledger} {r s : Reservation} (h : l.reservations[r.id]? = some s) :
    l.restore r = l := by
  unfold restore
  simp [h]

theorem effect_restore (l : Ledger) (r : Reservation) (hopen : r.state.is_open = true) :
    Effect l (l.restore r) := by
  cases h : l.reservations[r.id]? with
  | none =>
    rw [restore_of_none h]
    exact .place r h hopen
  | some s =>
    rw [restore_of_some h]
    exact .move .idle

/-- `commit` moves a pending reservation; otherwise the ledger stays. -/
theorem commit_cases (l : Ledger) (id : ReservationId) :
    (∃ r, l.reservations[id]? = some r ∧ r.state = .Pending ∧
      l.commit id = (.ok (), { l with reservations := l.set_state id r .Committed })) ∨
    ((l.commit id).2 = l ∧ ∀ r, l.reservations[id]? = some r → r.state ≠ .Pending) := by
  unfold commit
  cases hr : l.reservations[id]? with
  | none => exact Or.inr ⟨rfl, by simp⟩
  | some r =>
    by_cases hs : r.state = .Pending
    · left
      refine ⟨r, rfl, hs, ?_⟩
      simp only [hs]
      rw [transition_of_some hr]
    · right
      refine ⟨?_, by simpa using hs⟩
      cases hst : r.state with
      | Pending => exact absurd hst hs
      | _ => simp [hst]

/-- `post` succeeds on an open reservation with one admissible fill per source,
    and is otherwise refused without effect. -/
theorem post_cases (l : Ledger) (id : ReservationId) (filled : List U256) :
    (∃ r, l.reservations[id]? = some r ∧ r.state.is_open = true ∧
      FillsWithin r.sources filled ∧
      l.post id filled = (.ok (), { l with
        held := apply_steps l.held (post_steps r.sources filled)
        filled := l.filled.insert id filled
        reservations := l.set_state id r .Posted })) ∨
    ((∃ e, l.post id filled = (.error e, l)) ∧
      ∀ r, l.reservations[id]? = some r → r.state.is_open = true →
        ¬ FillsWithin r.sources filled) := by
  unfold post
  cases hs : l.active_sources id with
  | error e =>
    right
    refine ⟨⟨e, rfl⟩, ?_⟩
    intro r hr hopen
    have := active_sources_ok.mpr ⟨r, hr, hopen, rfl⟩
    simp [hs] at this
  | ok sources =>
    obtain ⟨r, hr, hopen, hsrc⟩ := active_sources_ok.mp hs
    subst hsrc
    by_cases hfills : FillsWithin r.sources filled
    · left
      refine ⟨r, hr, hopen, hfills, ?_⟩
      obtain ⟨hlen, hover⟩ := (fillsWithin_iff r.sources filled 0).mp hfills
      simp only [hlen, hover, ne_eq, not_true_eq_false, if_false]
      rw [transition_of_some (r := r) (by exact hr)]
      rfl
    · right
      constructor
      · by_cases hlen : filled.length = r.sources.length
        · cases hover : first_overfill 0 r.sources filled with
          | some e => exact ⟨e, by simp [hlen, hover]⟩
          | none => exact absurd ((fillsWithin_iff _ _ 0).mpr ⟨hlen, hover⟩) hfills
        · exact ⟨.FillCountMismatch filled.length r.sources.length, by simp [hlen]⟩
      · intro r' hr' _
        rw [hr] at hr'
        obtain rfl := Option.some.inj hr'
        exact hfills

theorem release_sources_eq {l : Ledger} {id : ReservationId} {r : Reservation}
    (hr : l.reservations[id]? = some r) (terminal : ReservationState) :
    l.release_sources id r.sources terminal = { l with
      held := apply_steps l.held (release_steps r.sources)
      reservations := l.set_state id r terminal } := by
  unfold release_sources
  rw [transition_of_some (r := r) (by exact hr)]
  rfl

/-- `void` releases an open reservation and is otherwise refused. -/
theorem void_cases (l : Ledger) (id : ReservationId) :
    (∃ r, l.reservations[id]? = some r ∧ r.state.is_open = true ∧
      l.void id = (.ok (), { l with
        held := apply_steps l.held (release_steps r.sources)
        reservations := l.set_state id r .Voided })) ∨
    ((∃ e, l.void id = (.error e, l)) ∧
      ∀ r, l.reservations[id]? = some r → r.state.is_open = false) := by
  unfold void
  cases hs : l.active_sources id with
  | error e =>
    right
    refine ⟨⟨e, rfl⟩, ?_⟩
    intro r hr
    by_contra hopen
    have := active_sources_ok.mpr ⟨r, hr, by simpa using hopen, rfl⟩
    simp [hs] at this
  | ok sources =>
    obtain ⟨r, hr, hopen, hsrc⟩ := active_sources_ok.mp hs
    subst hsrc
    exact Or.inl ⟨r, hr, hopen, by simp only [release_sources_eq hr]⟩

/-- `expire` releases a pending reservation and is otherwise refused. -/
theorem expire_cases (l : Ledger) (id : ReservationId) :
    (∃ r, l.reservations[id]? = some r ∧ r.state = .Pending ∧
      l.expire id = (.ok (), { l with
        held := apply_steps l.held (release_steps r.sources)
        reservations := l.set_state id r .Expired })) ∨
    ((∃ e, l.expire id = (.error e, l)) ∧
      ∀ r, l.reservations[id]? = some r → r.state ≠ .Pending) := by
  unfold expire
  cases hs : l.pending_sources id with
  | error e =>
    right
    refine ⟨⟨e, rfl⟩, ?_⟩
    intro r hr hstate
    have := pending_sources_ok.mpr ⟨r, hr, hstate, rfl⟩
    simp [hs] at this
  | ok sources =>
    obtain ⟨r, hr, hstate, hsrc⟩ := pending_sources_ok.mp hs
    subst hsrc
    exact Or.inl ⟨r, hr, hstate, by simp only [release_sources_eq hr]⟩

/-- `void_reorg` takes a posted settlement back and is otherwise refused. -/
theorem void_reorg_cases (l : Ledger) (id : ReservationId) :
    (∃ r, l.reservations[id]? = some r ∧ r.state = .Posted ∧
      l.void_reorg id = (.ok (), { l with
        held := apply_steps l.held (reorg_steps r.sources (get_or l.filled id []))
        filled := l.filled.erase id
        reservations := l.set_state id r .ReorgOpen })) ∨
    ((∃ e, l.void_reorg id = (.error e, l)) ∧
      ∀ r, l.reservations[id]? = some r → r.state ≠ .Posted) := by
  unfold void_reorg require_state
  cases hr : l.reservations[id]? with
  | none => exact Or.inr ⟨⟨.Unknown id, rfl⟩, by simp⟩
  | some r =>
    by_cases hs : r.state = .Posted
    · left
      refine ⟨r, rfl, hs, ?_⟩
      simp only [hs, if_true]
      rw [transition_of_some (r := r) (by exact hr)]
      rfl
    · right
      refine ⟨⟨.WrongState r.id r.state .Posted, ?_⟩, by simpa using hs⟩
      simp only [hs, if_false]

/-- **Move lemma.** Every other command moves what is recorded. -/
theorem move_next (l : Ledger) {c : Command} (hc : c.Places = false) : Move l (l.next c) := by
  unfold next
  cases c with
  | set_budget account budget => exact .budgets _
  | set_budgets budgets => exact .budgets budgets
  | reserve r => simp [Command.Places] at hc
  | restore r => simp [Command.Places] at hc
  | commit id =>
    simp only [exec]
    rcases commit_cases l id with ⟨r, hr, hstate, heq⟩ | ⟨heq, _⟩
    · rw [heq]
      exact .commit id r hr hstate
    · rw [heq]
      exact .idle
  | post id filled =>
    simp only [exec]
    rcases post_cases l id filled with ⟨r, hr, hopen, hfills, heq⟩ | ⟨⟨e, heq⟩, _⟩
    · rw [heq]
      exact .post id r filled hr hopen hfills
    · rw [heq]
      exact .idle
  | void id =>
    simp only [exec]
    rcases void_cases l id with ⟨r, hr, hopen, heq⟩ | ⟨⟨e, heq⟩, _⟩
    · rw [heq]
      exact .release id r .Voided hr hopen (Or.inl rfl)
    · rw [heq]
      exact .idle
  | expire id =>
    simp only [exec]
    rcases expire_cases l id with ⟨r, hr, hstate, heq⟩ | ⟨⟨e, heq⟩, _⟩
    · rw [heq]
      exact .release id r .Expired hr (by simp [hstate, ReservationState.is_open]) (Or.inr rfl)
    · rw [heq]
      exact .idle
  | void_reorg id =>
    simp only [exec]
    rcases void_reorg_cases l id with ⟨r, hr, hstate, heq⟩ | ⟨⟨e, heq⟩, _⟩
    · rw [heq]
      exact .reorg id r hr hstate
    · rw [heq]
      exact .idle

/-- **Step lemma.** Every admissible command has one of the listed effects. -/
theorem effect_next (l : Ledger) {c : Command} (hc : c.Admissible) : Effect l (l.next c) := by
  by_cases hplaces : c.Places = true
  · cases c with
    | reserve r =>
      show Effect l (l.reserve r).2
      unfold reserve
      cases l.can_reserve r with
      | error e => exact .move .idle
      | ok u =>
        have hstate : r.state = .Pending := hc
        exact effect_restore l r (by simp [hstate, ReservationState.is_open])
    | restore r =>
      apply effect_restore l r
      rcases hc with hstate | hstate
      · simp [hstate, ReservationState.is_open]
      · simp [hstate, ReservationState.is_open]
    | _ => simp [Command.Places] at hplaces
  · exact .move (move_next l (by simpa using hplaces))

/-- A refused command leaves the ledger as it was. -/
theorem next_of_error {l : Ledger} {c : Command} {e : LedgerError}
    (h : (l.exec c).1 = .error e) : l.next c = l := by
  unfold next
  cases c with
  | set_budget account budget => simp [exec] at h
  | set_budgets budgets => simp [exec] at h
  | reserve r =>
    simp only [exec, reserve] at h ⊢
    split at h <;> simp_all
  | restore r => simp [exec] at h
  | commit id =>
    simp only [exec] at h ⊢
    rcases commit_cases l id with ⟨r, _, _, heq⟩ | ⟨heq, _⟩
    · simp [heq] at h
    · exact heq
  | post id filled =>
    simp only [exec] at h ⊢
    rcases post_cases l id filled with ⟨r, _, _, _, heq⟩ | ⟨⟨e', heq⟩, _⟩
    · simp [heq] at h
    · rw [heq]
  | void id =>
    simp only [exec] at h ⊢
    rcases void_cases l id with ⟨r, _, _, heq⟩ | ⟨⟨e', heq⟩, _⟩
    · simp [heq] at h
    · rw [heq]
  | expire id =>
    simp only [exec] at h ⊢
    rcases expire_cases l id with ⟨r, _, _, heq⟩ | ⟨⟨e', heq⟩, _⟩
    · simp [heq] at h
    · rw [heq]
  | void_reorg id =>
    simp only [exec] at h ⊢
    rcases void_reorg_cases l id with ⟨r, _, _, heq⟩ | ⟨⟨e', heq⟩, _⟩
    · simp [heq] at h
    · rw [heq]

end Ledger

end Solvent
