import Mathlib
import Solvent.Trade.Store

/-! # How one trade evolves

    The rows seen by interleaved calls: a row is recorded once, never removed or
    given to another order, climbs through the in-flight stages and ends once.
    Every call of the services changes the table by such row steps, so these
    facts are proved here for all of them at once.
-/

namespace Solvent

open BTreeMap

/-- The stages of a trade whose hold or fill someone still has to close. -/
def TradeStatus.in_flight : TradeStatus → Bool
  | Reserved | Simulated | Submitted => true
  | _ => false

def TradeStatus.is_terminal : TradeStatus → Bool
  | Confirmed | Declined | Failed => true
  | _ => false

namespace SqliteTradeStore

/-- What one call may do to a row. -/
inductive RowStep (row : TradeRow) : TradeRow → Prop where
  | same : RowStep row row
  | advances {status : TradeStatus} (h : status.in_flight = true) :
      RowStep row (advanced row status)
  | settles {outcome : Settlement} {block_number : Option I64} {stamp : I64}
      (h : outcome.status.is_terminal = true) :
      RowStep row (settled_row row outcome block_number stamp)

/-- What one call may do to the table. -/
structure Evolves (t t' : SqliteTradeStore) : Prop where
  forth : ∀ {id : TradeId} {row : TradeRow}, t.trade[id]? = some row →
    ∃ row', t'.trade[id]? = some row' ∧ RowStep row row'
  back : ∀ {id : TradeId} {row' : TradeRow}, t'.trade[id]? = some row' →
    (∃ row, t.trade[id]? = some row ∧ RowStep row row') ∨
    (t.find_by_order row'.order_hash = none ∧ row'.settled_at = none ∧
      row'.status.in_flight = false)

theorem evolves_of_same {t t' : SqliteTradeStore} (h : t'.trade = t.trade) : Evolves t t' where
  forth := fun hrow => ⟨_, by rw [h]; exact hrow, .same⟩
  back := fun hrow => .inl ⟨_, by rw [← h]; exact hrow, .same⟩

/-- Rewriting one row by row steps. -/
theorem evolves_of_rewrites {t t' : SqliteTradeStore} {id : TradeId}
    {change : TradeRow → TradeRow} (h : t.Rewrites t' id change)
    (hchange : ∀ row, RowStep row (change row)) : Evolves t t' where
  forth := by
    intro k row hrow
    by_cases hk : id = k
    · subst hk
      exact ⟨change row, by rw [h id, if_pos rfl, hrow, Option.map_some], hchange row⟩
    · exact ⟨row, by rw [h k, if_neg hk, hrow], .same⟩
  back := by
    intro k row' hrow'
    rw [h k] at hrow'
    by_cases hk : id = k
    · rw [if_pos hk] at hrow'
      obtain ⟨row, hrow, rfl⟩ := Option.map_eq_some_iff.mp hrow'
      exact .inl ⟨row, hrow, hchange row⟩
    · rw [if_neg hk] at hrow'
      exact .inl ⟨row', hrow', .same⟩

/-- Recording the row of a new order. -/
theorem evolves_of_insert {t t' : SqliteTradeStore} {id : TradeId} {row : TradeRow}
    (htrade : t'.trade = t.trade.insert id row) (hfresh : t.trade[id]? = none)
    (hnone : t.find_by_order row.order_hash = none) (hopen : row.settled_at = none)
    (hstatus : row.status.in_flight = false) : Evolves t t' where
  forth := by
    intro k u hu
    have hk : id ≠ k := by
      rintro rfl
      rw [hfresh] at hu
      cases hu
    exact ⟨u, by rw [htrade, get_insert, if_neg hk, hu], .same⟩
  back := by
    intro k u hu
    rw [htrade, get_insert] at hu
    by_cases hk : id = k
    · rw [if_pos hk] at hu
      obtain rfl := Option.some.inj hu
      exact .inr ⟨hnone, hopen, hstatus⟩
    · rw [if_neg hk] at hu
      exact .inl ⟨u, hu, .same⟩

/-! ## What a row step keeps -/

theorem RowStep.order_hash {row row' : TradeRow} (h : RowStep row row') :
    row'.order_hash = row.order_hash := by
  rcases h with _ | _ | _
  · rfl
  · unfold advanced
    split <;> rfl
  · unfold settled_row
    split <;> rfl

/-- An ended row stays as it is. -/
theorem RowStep.settled {row row' : TradeRow} (h : RowStep row row')
    (hended : row.settled_at.isSome) : row' = row := by
  have hne : row.settled_at ≠ none := Option.isSome_iff_ne_none.mp hended
  rcases h with _ | _ | _
  · rfl
  · simp [advanced, hne]
  · simp [settled_row, hne]

/-- A row ends with a terminal status. -/
theorem RowStep.terminal {row row' : TradeRow} (h : RowStep row row')
    (hsound : row.settled_at.isSome → row.status.is_terminal = true)
    (hended : row'.settled_at.isSome) : row'.status.is_terminal = true := by
  by_cases hold : row.settled_at.isSome
  · rw [h.settled hold]
    exact hsound hold
  · have hnone : row.settled_at = none := by simpa using hold
    rcases h with _ | _ | hterminal
    · exact hsound hended
    · -- An advance never stamps `settled_at`.
      unfold advanced at hended
      split at hended
      · exact absurd hended hold
      · exact absurd hended hold
    · unfold settled_row
      rw [if_pos hnone]
      exact hterminal

/-- A row past the quote stays past it. -/
theorem RowStep.past {row row' : TradeRow} (h : RowStep row row')
    (hpast : 1 < row.status.rank) : 1 < row'.status.rank := by
  rcases h with _ | hstatus | hterminal
  · exact hpast
  · unfold advanced
    split
    · rename_i hup
      exact hpast.trans hup.1
    · exact hpast
  · unfold settled_row
    split
    · rename_i outcome _ _ _
      show 1 < outcome.status.rank
      revert hterminal
      cases outcome.status <;> simp [TradeStatus.is_terminal, TradeStatus.rank]
    · exact hpast

/-! ## Facts about one order -/

/-- The order has a trade under `id`. -/
def Has (t : SqliteTradeStore) (id : TradeId) (order : IntentId) : Prop :=
  ∃ row : TradeRow, t.trade[id]? = some row ∧ row.order_hash = order

/-- The order's trade has ended. -/
def Ended (t : SqliteTradeStore) (order : IntentId) : Prop :=
  ∃ (id : TradeId) (row : TradeRow), t.trade[id]? = some row ∧ row.order_hash = order ∧ row.settled_at.isSome

/-- The order's trade is past the quote. -/
def Past (t : SqliteTradeStore) (order : IntentId) : Prop :=
  ∃ (id : TradeId) (row : TradeRow), t.trade[id]? = some row ∧ row.order_hash = order ∧ 1 < row.status.rank

instance (t : SqliteTradeStore) (order : IntentId) : Decidable (t.Past order) :=
  decidable_of_iff ((t.find_by_order order).any fun b => 1 < b.2.status.rank) (by
    rw [Option.any_eq_true]
    constructor
    · rintro ⟨⟨id, row⟩, hfind, hpast⟩
      obtain ⟨hrow, horder⟩ := find_by_order_some.mp hfind
      exact ⟨id, row, hrow, horder, by simpa using hpast⟩
    · rintro ⟨id, row, hrow, horder, hpast⟩
      exact ⟨(id, row), find_by_order_some.mpr ⟨hrow, horder⟩, by simpa using hpast⟩)

/-- The order's trade is reserved, simulated or submitted. -/
def InFlight (t : SqliteTradeStore) (order : IntentId) : Prop :=
  ∃ (id : TradeId) (row : TradeRow), t.trade[id]? = some row ∧ row.order_hash = order ∧ row.status.in_flight = true

instance (t : SqliteTradeStore) (order : IntentId) : Decidable (t.InFlight order) :=
  decidable_of_iff ((t.find_by_order order).any fun b => b.2.status.in_flight) (by
    rw [Option.any_eq_true]
    constructor
    · rintro ⟨⟨id, row⟩, hfind, hflight⟩
      obtain ⟨hrow, horder⟩ := find_by_order_some.mp hfind
      exact ⟨id, row, hrow, horder, hflight⟩
    · rintro ⟨id, row, hrow, horder, hflight⟩
      exact ⟨(id, row), find_by_order_some.mpr ⟨hrow, horder⟩, hflight⟩)

/-- An ended trade has a terminal status. -/
def Sound (t : SqliteTradeStore) : Prop :=
  ∀ (id : TradeId) (row : TradeRow), t.trade[id]? = some row → row.settled_at.isSome →
    row.status.is_terminal = true

section Evolves

variable {t t' : SqliteTradeStore} (h : Evolves t t')
include h

theorem Evolves.has {id : TradeId} {order : IntentId} (ht : t.Has id order) :
    t'.Has id order := by
  obtain ⟨row, hrow, horder⟩ := ht
  obtain ⟨row', hrow', hstep⟩ := h.forth hrow
  exact ⟨row', hrow', hstep.order_hash.trans horder⟩

theorem Evolves.ended {order : IntentId} (ht : t.Ended order) : t'.Ended order := by
  obtain ⟨id, row, hrow, horder, hended⟩ := ht
  obtain ⟨row', hrow', hstep⟩ := h.forth hrow
  obtain rfl := hstep.settled hended
  exact ⟨id, row', hrow', horder, hended⟩

theorem Evolves.past {order : IntentId} (ht : t.Past order) : t'.Past order := by
  obtain ⟨id, row, hrow, horder, hpast⟩ := ht
  obtain ⟨row', hrow', hstep⟩ := h.forth hrow
  exact ⟨id, row', hrow', hstep.order_hash.trans horder, hstep.past hpast⟩

theorem Evolves.sound (ht : t.Sound) : t'.Sound := by
  intro id row' hrow' hended
  rcases h.back hrow' with ⟨row, hrow, hstep⟩ | ⟨_, hopen, _⟩
  · exact hstep.terminal (ht id row hrow) hended
  · rw [hopen] at hended
    cases hended

end Evolves

/-- An ended trade is past the quote. -/
theorem past_of_ended {t : SqliteTradeStore} (hsound : t.Sound) {order : IntentId}
    (h : t.Ended order) : t.Past order := by
  obtain ⟨id, row, hrow, horder, hended⟩ := h
  refine ⟨id, row, hrow, horder, ?_⟩
  have hterminal := hsound id row hrow hended
  revert hterminal
  cases row.status <;> simp [TradeStatus.is_terminal, TradeStatus.rank]

/-- A trade in flight has not ended. -/
theorem not_ended_of_inFlight {t : SqliteTradeStore} (hsound : t.Sound) {order : IntentId}
    (h : t.InFlight order) : ¬ t.Ended order := by
  obtain ⟨id, row, hrow, horder, hflight⟩ := h
  rintro ⟨id', row', hrow', horder', hended⟩
  have hid := t.unique_order hrow hrow' (horder.trans horder'.symm)
  subst hid
  rw [hrow] at hrow'
  obtain rfl := Option.some.inj hrow'
  have hterminal := hsound id row hrow hended
  revert hterminal hflight
  cases row.status <;> simp [TradeStatus.is_terminal, TradeStatus.in_flight]

/-- Settling a row on record ends its order's trade. -/
theorem ended_of_rewrites {t t' : SqliteTradeStore} {id : TradeId} {order : IntentId}
    {outcome : Settlement} {block_number : Option I64} {stamp : I64}
    (h : t.Rewrites t' id (settled_row · outcome block_number stamp)) (hhas : t.Has id order) :
    t'.Ended order := by
  obtain ⟨row, hrow, horder⟩ := hhas
  have hrow' : t'.trade[id]? = some (settled_row row outcome block_number stamp) := by
    rw [h id, if_pos rfl, hrow, Option.map_some]
  have hstep : (settled_row row outcome block_number stamp).order_hash = row.order_hash := by
    unfold settled_row
    split <;> rfl
  refine ⟨id, _, hrow', hstep.trans horder, ?_⟩
  unfold settled_row
  split
  · rfl
  · rename_i hne
    exact Option.isSome_iff_ne_none.mpr hne

/-- Writing `Reserved` leaves the order's trade past the quote. -/
theorem past_of_rewrites {t t' : SqliteTradeStore} {id : TradeId} {order : IntentId}
    {status : TradeStatus} (hstatus : 1 < status.rank) (hsound : t.Sound)
    (h : t.Rewrites t' id (advanced · status)) (hhas : t.Has id order) : t'.Past order := by
  obtain ⟨row, hrow, horder⟩ := hhas
  have hrow' : t'.trade[id]? = some (advanced row status) := by
    rw [h id, if_pos rfl, hrow, Option.map_some]
  by_cases hended : row.settled_at.isSome
  · -- The trade ended in the meantime and stays as it is.
    have hne : row.settled_at ≠ none := Option.isSome_iff_ne_none.mp hended
    have hsame : advanced row status = row := by simp [advanced, hne]
    rw [hsame] at hrow'
    have hterminal := hsound id row hrow hended
    refine ⟨id, row, hrow', horder, ?_⟩
    revert hterminal
    cases row.status <;> simp [TradeStatus.is_terminal, TradeStatus.rank]
  · have hnone : row.settled_at = none := by simpa using hended
    by_cases hup : row.status.rank < status.rank
    · have hsame : advanced row status = { row with status } := by simp [advanced, hnone, hup]
      rw [hsame] at hrow'
      exact ⟨id, _, hrow', horder, hstatus⟩
    · have hsame : advanced row status = row := by simp [advanced, hup]
      rw [hsame] at hrow'
      exact ⟨id, row, hrow', horder, by omega⟩

end SqliteTradeStore

end Solvent
