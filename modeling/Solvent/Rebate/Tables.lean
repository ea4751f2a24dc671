import Solvent.Rebate.Store

/-! # What the rebate tables keep

    Two unique indices carry the design: a strategy has one open batch, and a leg of
    a strategy is in one batch, open or closed. One lemma per transaction says what
    it writes; a row that is saved keeps the legs it had.
-/

namespace Solvent

open Abi BTreeMap Contract

namespace SqliteRebateStore

variable {store store' : SqliteRebateStore} {batch : RebateBatch} {id b : RebateBatchId}
  {key : StrategyKey} {trade : TradeId}

/-- The two unique indices. -/
structure Schema (store : SqliteRebateStore) : Prop where
  one_open : ∀ {a b : RebateBatchId} {x y : BatchRow}, store.rebate_batch[a]? = some x →
    store.rebate_batch[b]? = some y → x.strategy = y.strategy →
    x.state.isSome = true → y.state.isSome = true → a = b
  one_leg : ∀ {a b : RebateBatchId} {x y : BatchRow} {t : TradeId} {l m : MinedAccrual},
    store.rebate_batch[a]? = some x → store.rebate_batch[b]? = some y → x.strategy = y.strategy →
    x.accruals[t]? = some l → y.accruals[t]? = some m → a = b

/-! ## Indices -/

theorem open_row_some {e : RebateBatchId × BatchRow} (h : store.open_row key = some e) :
    store.rebate_batch[e.1]? = some e.2 ∧ e.2.strategy = key ∧ e.2.state.isSome = true := by
  have hmem := List.mem_of_find?_eq_some h
  have hp := List.find?_some h
  simp only [decide_eq_true_eq] at hp
  exact ⟨Std.ExtTreeMap.mem_toList_iff_getElem?_eq_some.mp hmem, hp⟩

theorem open_row_none (h : store.open_row key = none) {row : BatchRow}
    (hrow : store.rebate_batch[b]? = some row) (hkey : row.strategy = key) : row.state = none := by
  have hmem : (b, row) ∈ store.rebate_batch.toList :=
    Std.ExtTreeMap.mem_toList_iff_getElem?_eq_some.mpr hrow
  have hp := List.find?_eq_none.mp h (b, row) hmem
  simpa [hkey] using hp

theorem Schema.open_row (h : Schema store) {row : BatchRow} (hrow : store.rebate_batch[b]? = some row)
    (hopen : row.state.isSome = true) : store.open_row row.strategy = some (b, row) := by
  cases hfound : store.open_row row.strategy with
  | none =>
    rw [open_row_none hfound hrow rfl] at hopen
    cases hopen
  | some e =>
    obtain ⟨he, hkey, hopen'⟩ := open_row_some hfound
    obtain rfl := h.one_open he hrow hkey hopen' hopen
    obtain rfl := Option.some.inj (he.symm.trans hrow)
    rfl

theorem find_accrual_some {a : MinedAccrual} (h : store.find_accrual key trade = some (b, a)) :
    ∃ row, store.rebate_batch[b]? = some row ∧ row.strategy = key ∧ row.accruals[trade]? = some a := by
  obtain ⟨e, he, hsome⟩ := List.exists_of_findSome?_eq_some h
  split at hsome
  · obtain ⟨a', ha', heq⟩ := Option.map_eq_some_iff.mp hsome
    cases heq
    exact ⟨e.2, Std.ExtTreeMap.mem_toList_iff_getElem?_eq_some.mp he, ‹_›, ha'⟩
  · cases hsome

theorem find_accrual_none (h : store.find_accrual key trade = none) {row : BatchRow}
    (hrow : store.rebate_batch[b]? = some row) (hkey : row.strategy = key) :
    row.accruals[trade]? = none := by
  have hmem : (b, row) ∈ store.rebate_batch.toList :=
    Std.ExtTreeMap.mem_toList_iff_getElem?_eq_some.mpr hrow
  have hnone := List.findSome?_eq_none_iff.mp h (b, row) hmem
  rw [if_pos hkey, Option.map_eq_none_iff] at hnone
  exact hnone

theorem Schema.find_accrual (h : Schema store) {row : BatchRow} {a : MinedAccrual}
    (hrow : store.rebate_batch[b]? = some row) (ha : row.accruals[trade]? = some a) :
    store.find_accrual row.strategy trade = some (b, a) := by
  cases hfound : store.find_accrual row.strategy trade with
  | none =>
    rw [find_accrual_none hfound hrow rfl] at ha
    cases ha
  | some e =>
    obtain ⟨row', hrow', hkey, ha'⟩ := find_accrual_some hfound
    obtain rfl := h.one_leg hrow' hrow hkey ha' ha
    obtain rfl := Option.some.inj (hrow'.symm.trans hrow)
    obtain rfl := Option.some.inj (ha'.symm.trans ha)
    rfl

/-! ## Writing one row -/

/-- One row is written, and nothing else is. -/
structure Writes (id : RebateBatchId) (row : BatchRow) (store store' : SqliteRebateStore) :
    Prop where
  row : store'.rebate_batch[id]? = some row
  others : ∀ b : RebateBatchId, b ≠ id → store'.rebate_batch[b]? = store.rebate_batch[b]?
  settlements : store'.rebate_settlement = store.rebate_settlement
  cursor : store'.rebate_scan_cursor = store.rebate_scan_cursor

theorem writes_insert (store : SqliteRebateStore) (id : RebateBatchId) (row : BatchRow) :
    Writes id row store { store with rebate_batch := store.rebate_batch.insert id row } where
  row := by rw [get_insert, if_pos rfl]
  others b hb := get_insert_ne _ _ (Ne.symm hb)
  settlements := rfl
  cursor := rfl

theorem Writes.trans {row row' : BatchRow} {store'' : SqliteRebateStore}
    (h : Writes id row store store') (h' : Writes id row' store' store'') :
    Writes id row' store store'' where
  row := h'.row
  others b hb := (h'.others b hb).trans (h.others b hb)
  settlements := h'.settlements.trans h.settlements
  cursor := h'.cursor.trans h.cursor

/-- The legs a row had are the legs it has, with those of the batch. -/
structure Merged (old legs new : BTreeMap TradeId MinedAccrual) : Prop where
  kept : ∀ (t : TradeId) (a : MinedAccrual), old[t]? = some a → new[t]? = some a
  added : ∀ (t : TradeId) (a : MinedAccrual), legs[t]? = some a → new[t]? = some a
  only : ∀ (t : TradeId) (a : MinedAccrual), new[t]? = some a → old[t]? = some a ∨ legs[t]? = some a

theorem Merged.eq_of_subset {old legs new : BTreeMap TradeId MinedAccrual} (h : Merged old legs new)
    (hsubset : ∀ (t : TradeId) (a : MinedAccrual), old[t]? = some a → legs[t]? = some a) :
    new = legs := by
  refine Std.ExtTreeMap.ext_getElem? fun t => ?_
  refine Option.ext fun a => ⟨fun ha => ?_, h.added t a⟩
  exact (h.only t a ha).elim (hsubset t a) id

/-! ## Legs -/

/-- The row after some legs are persisted in it. -/
structure Persisted (id : RebateBatchId) (legs : List MinedAccrual) (row row' : BatchRow) : Prop where
  strategy : row'.strategy = row.strategy
  pair : row'.pair = row.pair
  state : row'.state = row.state
  kept : ∀ (t : TradeId) (a : MinedAccrual), row.accruals[t]? = some a → row'.accruals[t]? = some a
  added : ∀ a ∈ legs, row'.accruals[a.trade_id]? = some a
  only : ∀ (t : TradeId) (a : MinedAccrual), row'.accruals[t]? = some a →
    row.accruals[t]? = some a ∨ (a ∈ legs ∧ a.trade_id = t)

/-- A row with more legs, none of which another batch of the strategy has. -/
theorem Schema.write (h : Schema store) {row : BatchRow} (hw : Writes id row store store')
    (hopen : row.state.isSome = true → ∀ (b : RebateBatchId) (x : BatchRow), b ≠ id →
      store.rebate_batch[b]? = some x → x.strategy = row.strategy → x.state = none)
    (hlegs : ∀ (b : RebateBatchId) (x : BatchRow) (t : TradeId) (l m : MinedAccrual), b ≠ id →
      store.rebate_batch[b]? = some x → x.strategy = row.strategy →
      row.accruals[t]? = some l → x.accruals[t]? ≠ some m) : Schema store' where
  one_open {a b x y} hx hy hkey hxo hyo := by
    by_contra hne
    by_cases ha : a = id
    · subst ha
      have hb : b ≠ a := Ne.symm hne
      obtain rfl := Option.some.inj (hw.row.symm.trans hx)
      rw [hw.others b hb] at hy
      rw [hopen hxo b y hb hy hkey.symm] at hyo
      cases hyo
    · rw [hw.others a ha] at hx
      by_cases hb : b = id
      · subst hb
        obtain rfl := Option.some.inj (hw.row.symm.trans hy)
        rw [hopen hyo a x ha hx hkey] at hxo
        cases hxo
      · rw [hw.others b hb] at hy
        exact hne (h.one_open hx hy hkey hxo hyo)
  one_leg {a b x y t l m} hx hy hkey hl hm := by
    by_contra hne
    by_cases ha : a = id
    · subst ha
      have hb : b ≠ a := Ne.symm hne
      obtain rfl := Option.some.inj (hw.row.symm.trans hx)
      rw [hw.others b hb] at hy
      exact hlegs b y t l m hb hy hkey.symm hl hm
    · rw [hw.others a ha] at hx
      by_cases hb : b = id
      · subst hb
        obtain rfl := Option.some.inj (hw.row.symm.trans hy)
        exact hlegs a x t m l ha hx hkey hm hl
      · rw [hw.others b hb] at hy
        exact hne (h.one_leg hx hy hkey hl hm)

theorem persist_accrual_ok {row : BatchRow} {a : MinedAccrual} (hschema : Schema store)
    (hrow : store.rebate_batch[id]? = some row)
    (h : persist_accrual id row.strategy store a = .ok store') :
    ∃ row', Writes id row' store store' ∧ Persisted id [a] row row' ∧ Schema store' := by
  unfold persist_accrual at h
  cases hfound : store.find_accrual row.strategy a.trade_id with
  | none =>
    simp only [hfound, hrow, expect_some_bind] at h
    obtain rfl := Except.ok.inj h
    have hnone := find_accrual_none hfound hrow rfl
    refine ⟨_, writes_insert store id _, ?_, ?_⟩
    · refine ⟨rfl, rfl, rfl, fun t x hx => ?_, fun x hx => ?_, fun t x hx => ?_⟩
      · rw [get_insert_ne]
        · exact hx
        · rintro rfl
          rw [hnone] at hx
          cases hx
      · obtain rfl := List.mem_singleton.mp hx
        rw [get_insert, if_pos rfl]
      · rw [get_insert] at hx
        split at hx
        · exact .inr ⟨List.mem_singleton.mpr (Option.some.inj hx).symm, (Option.some.inj hx) ▸ ‹_›⟩
        · exact .inl hx
    · refine hschema.write (writes_insert store id _) (fun hopen b x hb hx hkey => ?_)
        fun b x t l m hb hx hkey hl hm => ?_
      · by_contra hsome
        exact hb (hschema.one_open hx hrow hkey (Option.isSome_iff_ne_none.mpr hsome) hopen)
      · rw [get_insert] at hl
        split at hl
        · subst t
          rw [find_accrual_none hfound hx hkey] at hm
          cases hm
        · exact hb (hschema.one_leg hx hrow hkey hm hl)
  | some e =>
    obtain ⟨id', stored⟩ := e
    simp only [hfound] at h
    split at h
    · obtain ⟨rfl, rfl⟩ := ‹id' = id ∧ stored = a›
      obtain rfl := Except.ok.inj h
      obtain ⟨row', hrow', -, ha⟩ := find_accrual_some hfound
      obtain rfl := Option.some.inj (hrow'.symm.trans hrow)
      refine ⟨row', ⟨hrow, fun _ _ => rfl, rfl, rfl⟩, ?_, hschema⟩
      refine ⟨rfl, rfl, rfl, fun _ _ hx => hx, fun x hx => ?_, fun _ _ hx => .inl hx⟩
      obtain rfl := List.mem_singleton.mp hx
      exact ha
    · cases h

theorem persist_legs_ok {legs : List MinedAccrual} :
    ∀ {store : SqliteRebateStore} {row : BatchRow}, Schema store →
      store.rebate_batch[id]? = some row →
      legs.foldlM (persist_accrual id row.strategy) store = .ok store' →
      ∃ row', Writes id row' store store' ∧ Persisted id legs row row' ∧ Schema store' := by
  induction legs with
  | nil =>
    intro store row hschema hrow h
    obtain rfl := Except.ok.inj h
    exact ⟨row, ⟨hrow, fun _ _ => rfl, rfl, rfl⟩,
      ⟨rfl, rfl, rfl, fun _ _ hx => hx, by simp, fun _ _ hx => .inl hx⟩, hschema⟩
  | cons a legs ih =>
    intro store row hschema hrow h
    obtain ⟨store₁, hfirst, hrest⟩ := bind_eq_ok.mp h
    obtain ⟨row₁, hw₁, hp₁, hschema₁⟩ := persist_accrual_ok hschema hrow hfirst
    rw [← hp₁.strategy] at hrest
    obtain ⟨row', hw, hp, hschema'⟩ := ih hschema₁ hw₁.row hrest
    refine ⟨row', hw₁.trans hw, ⟨hp.strategy.trans hp₁.strategy, hp.pair.trans hp₁.pair,
      hp.state.trans hp₁.state, fun t x hx => hp.kept t x (hp₁.kept t x hx), fun x hx => ?_,
      fun t x hx => ?_⟩, hschema'⟩
    · rcases List.mem_cons.mp hx with rfl | hx
      · exact hp.kept _ _ (hp₁.added x (List.mem_singleton.mpr rfl))
      · exact hp.added x hx
    · rcases hp.only t x hx with hx | ⟨hx, ht⟩
      · rcases hp₁.only t x hx with hx | ⟨hx, ht⟩
        · exact .inl hx
        · exact .inr ⟨List.mem_cons.mpr (.inl (List.mem_singleton.mp hx)), ht⟩
      · exact .inr ⟨List.mem_cons_of_mem _ hx, ht⟩

/-! ## Saving -/

/-- What a save finds under the id: no row, and no open one of the strategy, or the
    strategy's open row. -/
def Finds (store : SqliteRebateStore) (batch : RebateBatch) (old : BTreeMap TradeId MinedAccrual) :
    Prop :=
  (store.rebate_batch[batch.id]? = none ∧ old = ∅ ∧ ∀ (b : RebateBatchId) (row : BatchRow),
      store.rebate_batch[b]? = some row → row.strategy = batch.strategy → row.state = none) ∨
    ∃ row, store.rebate_batch[batch.id]? = some row ∧ row.strategy = batch.strategy ∧
      row.pair = batch.pair ∧ row.state.isSome = true ∧ row.accruals = old

/-- Legs are found under their trades. -/
def Keyed (legs : BTreeMap TradeId MinedAccrual) : Prop :=
  ∀ (t : TradeId) (a : MinedAccrual), legs[t]? = some a → a.trade_id = t

theorem mem_values {legs : BTreeMap TradeId MinedAccrual} {a : MinedAccrual} :
    a ∈ BTreeMap.values legs ↔ ∃ t : TradeId, legs[t]? = some a := by
  unfold BTreeMap.values
  constructor
  · intro h
    obtain ⟨e, he, rfl⟩ := List.mem_map.mp h
    exact ⟨e.1, Std.ExtTreeMap.mem_toList_iff_getElem?_eq_some.mp he⟩
  · rintro ⟨t, ht⟩
    exact List.mem_map.mpr ⟨(t, a), Std.ExtTreeMap.mem_toList_iff_getElem?_eq_some.mpr ht, rfl⟩

theorem insert_batch_finds (hschema : Schema store) {row : BatchRow}
    (h : (store.insert_batch batch).open_row batch.strategy = some (batch.id, row))
    (hpair : row.pair = batch.pair) :
    ∃ old, Finds store batch old ∧ row.accruals = old ∧ row.strategy = batch.strategy ∧
      row.state.isSome = true ∧ Writes batch.id row store (store.insert_batch batch) ∧
      Schema (store.insert_batch batch) := by
  obtain ⟨hrow, hkey, hopen⟩ := open_row_some h
  unfold insert_batch at h hrow ⊢
  split at h
  · rw [if_pos ‹_›] at hrow ⊢
    exact ⟨row.accruals, .inr ⟨row, hrow, hkey, hpair, hopen, rfl⟩, rfl, hkey, hopen,
      ⟨hrow, fun _ _ => rfl, rfl, rfl⟩, hschema⟩
  · have habsent := ‹¬((store.rebate_batch[batch.id]?).isSome = true ∨
      (store.open_row batch.strategy).isSome = true)›
    rw [if_neg habsent] at hrow ⊢
    simp only [not_or, Bool.not_eq_true, Option.isSome_eq_false_iff, Option.isNone_iff_eq_none]
      at habsent
    have hwrites := writes_insert store batch.id
      { strategy := batch.strategy, pair := batch.pair, accruals := ∅, state := some .Accumulating }
    obtain rfl := Option.some.inj (hwrites.row.symm.trans hrow)
    refine ⟨∅, .inl ⟨habsent.1, rfl, fun b row => open_row_none habsent.2⟩, rfl, rfl, rfl, hwrites, ?_⟩
    exact hschema.write hwrites (fun _ b x _ hx hkey => open_row_none habsent.2 hx hkey)
      fun b x t l m _ _ _ hl => by simp at hl

/-- **What a save does.** -/
theorem save_ok (hschema : Schema store) (hkeyed : Keyed batch.accruals)
    (h : store.save batch = .ok store') :
    ∃ old legs, Finds store batch old ∧ Merged old batch.accruals legs ∧
      Writes batch.id (batch.row legs) store store' ∧ Schema store' := by
  unfold save at h
  obtain ⟨⟨id', row⟩, hrow, h⟩ := expect_bind.mp h
  obtain ⟨⟨hid, hpair⟩, h⟩ := require_bind.mp h
  obtain ⟨store₂, hlegs, h⟩ := bind_eq_ok.mp h
  obtain ⟨row₂, hrow₂, h⟩ := expect_bind.mp h
  obtain rfl := Except.ok.inj h
  subst hid
  obtain ⟨old, hfinds, rfl, hkey, hopen, hw₁, hschema₁⟩ := insert_batch_finds hschema hrow hpair
  rw [← hkey] at hlegs
  obtain ⟨row', hw₂, hp, hschema₂⟩ := persist_legs_ok hschema₁ hw₁.row hlegs
  rw [hw₂.row, Option.filter_eq_some_iff] at hrow₂
  obtain rfl := Option.some.inj hrow₂.1
  have hw := (hw₁.trans hw₂).trans
    (writes_insert store₂ batch.id { row' with state := some batch.state })
  have hlegs_row : { row' with state := some batch.state } = batch.row row'.accruals := by
    unfold RebateBatch.row
    rw [← hkey, ← hp.strategy, ← hpair, ← hp.pair]
  rw [hlegs_row] at hw ⊢
  refine ⟨row.accruals, row'.accruals, hfinds, ⟨hp.kept, fun t a ha => ?_, fun t a ha => ?_⟩, hw, ?_⟩
  · rw [← hkeyed t a ha]
    exact hp.added a (mem_values.mpr ⟨t, ha⟩)
  · refine (hp.only t a ha).imp_right fun ⟨hmem, ht⟩ => ?_
    obtain ⟨t', ht'⟩ := mem_values.mp hmem
    rw [← ht, hkeyed t' a ht']
    exact ht'
  · have hw₃ := writes_insert store₂ batch.id { row' with state := some batch.state }
    rw [hlegs_row] at hw₃
    refine hschema₂.write hw₃ (fun _ b x hb hx hkey' => ?_) fun b x t l m hb hx hkey' hl hm => ?_
    · by_contra hsome
      exact hb (hschema₂.one_open hx hw₂.row (hkey'.trans (hkey.symm.trans hp.strategy.symm))
        (Option.isSome_iff_ne_none.mpr hsome) hrow₂.2)
    · exact hb (hschema₂.one_leg hx hw₂.row (hkey'.trans (hkey.symm.trans hp.strategy.symm)) hm hl)

/-- A batch that is as its open row has it, but for the state, is saved. -/
theorem save_of_open (hschema : Schema store) (hkeyed : Keyed batch.accruals) {row : BatchRow}
    (hrow : store.rebate_batch[batch.id]? = some row) (hopen : row.state.isSome = true)
    (hkey : row.strategy = batch.strategy) (hpair : row.pair = batch.pair)
    (hlegs : row.accruals = batch.accruals) : ∃ store', store.save batch = .ok store' := by
  have hinsert : store.insert_batch batch = store :=
    if_pos (.inl (Option.isSome_iff_exists.mpr ⟨row, hrow⟩))
  have hfind : store.open_row batch.strategy = some (batch.id, row) := hkey ▸ hschema.open_row hrow hopen
  have hpersist : ∀ legs : List MinedAccrual, (∀ a ∈ legs, row.accruals[a.trade_id]? = some a) →
      legs.foldlM (persist_accrual batch.id batch.strategy) store = .ok store := by
    intro legs
    induction legs with
    | nil => exact fun _ => rfl
    | cons a legs ih =>
      intro hmem
      have hfound := hschema.find_accrual hrow (hmem a List.mem_cons_self)
      have hone : persist_accrual batch.id batch.strategy store a = .ok store := by
        unfold persist_accrual
        rw [← hkey, hfound]
        exact if_pos ⟨rfl, rfl⟩
      rw [List.foldlM_cons, hone]
      exact ih fun b hb => hmem b (List.mem_cons_of_mem _ hb)
  have hvalues := hpersist (BTreeMap.values batch.accruals) fun a ha => by
    obtain ⟨t, ht⟩ := mem_values.mp ha
    rw [hlegs, hkeyed t a ht]
    exact ht
  unfold save
  simp only [hinsert, hfind, expect_some_bind]
  rw [pass_bind ⟨trivial, hpair⟩, hvalues]
  show ∃ store', (expect ((store.rebate_batch[batch.id]?).filter _) _ >>= _) = .ok store'
  rw [hrow, Option.filter_some, if_pos hopen, expect_some_bind]
  exact ⟨_, rfl⟩

/-! ## Closing -/

theorem close_row (store : SqliteRebateStore) (id b : RebateBatchId) :
    (store.close id).rebate_batch[b]? =
      (store.rebate_batch[b]?).map fun row => if b = id then { row with state := none } else row := by
  unfold close
  by_cases hb : b = id
  · subst hb
    cases hrow : store.rebate_batch[b]? with
    | none => simp [hrow]
    | some row => simp
  · cases hrow : store.rebate_batch[id]? with
    | none => simp [hb]
    | some row =>
      simp only [hb, if_false, Option.map_id']
      exact get_insert_ne _ _ (Ne.symm hb)

@[simp] theorem close_settlement (store : SqliteRebateStore) (id : RebateBatchId) :
    (store.close id).rebate_settlement = store.rebate_settlement := by
  unfold close
  split <;> rfl

@[simp] theorem close_cursor (store : SqliteRebateStore) (id : RebateBatchId) :
    (store.close id).rebate_scan_cursor = store.rebate_scan_cursor := by
  unfold close
  split <;> rfl

/-- Rows that only close keep the indices. -/
theorem Schema.map (h : Schema store) {f : RebateBatchId → BatchRow → BatchRow}
    (hrows : ∀ b : RebateBatchId, store'.rebate_batch[b]? = (store.rebate_batch[b]?).map (f b))
    (hkey : ∀ b row, (f b row).strategy = row.strategy)
    (hlegs : ∀ b row, (f b row).accruals = row.accruals)
    (hopen : ∀ b row, (f b row).state.isSome = true → row.state.isSome = true) : Schema store' where
  one_open {a b x y} hx hy hxy hxo hyo := by
    rw [hrows] at hx hy
    obtain ⟨x, hx', rfl⟩ := Option.map_eq_some_iff.mp hx
    obtain ⟨y, hy', rfl⟩ := Option.map_eq_some_iff.mp hy
    rw [hkey, hkey] at hxy
    exact h.one_open hx' hy' hxy (hopen _ _ hxo) (hopen _ _ hyo)
  one_leg {a b x y t l m} hx hy hxy hl hm := by
    rw [hrows] at hx hy
    obtain ⟨x, hx', rfl⟩ := Option.map_eq_some_iff.mp hx
    obtain ⟨y, hy', rfl⟩ := Option.map_eq_some_iff.mp hy
    rw [hkey, hkey] at hxy
    rw [hlegs] at hl hm
    exact h.one_leg hx' hy' hxy hl hm

theorem Schema.close (h : Schema store) (id : RebateBatchId) : Schema (store.close id) :=
  h.map (close_row store id) (fun b row => by split <;> rfl) (fun b row => by split <;> rfl)
    fun b row hopen => by
      split at hopen
      · cases hopen
      · exact hopen

end SqliteRebateStore

end Solvent
