import Mathlib
import Solvent.Registry.Snapshot

/-! # The event fold

    `Snapshot.apply` folds one event into the snapshot. The pair index is patched
    from the strategy's pair before and after the event; that it is exact after
    any sequence of events is `Indexed`.

    How a shipped program decodes to a curve is a parameter.
-/

namespace Solvent

variable (decode_strategy : List (Fin 256) → CurveSpec)

/-- Register a strategy, decoding its curve from the shipped bytes. -/
def MakerStrategy.new (key : StrategyKey) (strategy : List (Fin 256)) : MakerStrategy :=
  { key, curve := decode_strategy strategy, balances := ∅, active := true }

namespace Snapshot

/-- The snapshot before the first event. -/
def default : Snapshot := { strategies := ∅, by_pair := ∅ }

/-- Move `key` from its `old` pair bucket to its `new` one; empties are pruned. -/
def reindex (by_pair : BTreeMap TokenPair (BTreeSet StrategyKey)) (key : StrategyKey)
    (old new : Option TokenPair) : BTreeMap TokenPair (BTreeSet StrategyKey) :=
  if old = new then by_pair
  else
    let by_pair := match old with
      | none => by_pair
      | some pair =>
        match by_pair[pair]? with
        | none => by_pair
        | some set =>
          if (set.erase key).isEmpty then by_pair.erase pair
          else by_pair.insert pair (set.erase key)
    match new with
    | none => by_pair
    | some pair => BTreeMap.entry by_pair pair ∅ fun set => set.insert key

/-- Fold one event into the snapshot. A repeated `Shipped` is a no-op; a `Pushed` or
    `Pulled` of a docked strategy, and any event of a strategy never seen shipped,
    is ignored. -/
def apply (s : Snapshot) : AquaEvent → Snapshot
  | .Shipped maker app strategy_hash strategy =>
    let key : StrategyKey := { maker, app, strategy_hash }
    match s.strategies[key]? with
    | some _ => s
    | none =>
      { s with strategies :=
          s.strategies.insert key (MakerStrategy.new decode_strategy key strategy) }
  | .Pushed maker app strategy_hash token amount =>
    let key : StrategyKey := { maker, app, strategy_hash }
    match s.strategies[key]?.filter (·.active) with
    | none => s
    | some strategy =>
      let pushed := { strategy with
        balances := BTreeMap.entry strategy.balances token 0 (·.saturating_add amount) }
      { strategies := s.strategies.insert key pushed
        by_pair := reindex s.by_pair key strategy.pair pushed.pair }
  | .Pulled maker app strategy_hash token amount =>
    let key : StrategyKey := { maker, app, strategy_hash }
    match s.strategies[key]?.filter (·.active) with
    | none => s
    | some strategy =>
      match strategy.balances[token]? with
      | none => s
      | some balance =>
        { s with strategies := s.strategies.insert key { strategy with
            balances := strategy.balances.insert token (balance.saturating_sub amount) } }
  | .Docked maker app strategy_hash =>
    let key : StrategyKey := { maker, app, strategy_hash }
    match s.strategies[key]? with
    | none => s
    | some strategy =>
      let docked := { strategy with active := false }
      { strategies := s.strategies.insert key docked
        by_pair := reindex s.by_pair key docked.pair none }

/-- The snapshot of a sequence of events. -/
def replay (events : List AquaEvent) : Snapshot :=
  events.foldl (apply decode_strategy) default

/-! ## Buckets -/

variable {by_pair : BTreeMap TokenPair (BTreeSet StrategyKey)} {key k : StrategyKey}
variable {old new : Option TokenPair} {pair p : TokenPair}

/-- The keys quoting `pair`. -/
def bucket (by_pair : BTreeMap TokenPair (BTreeSet StrategyKey)) (pair : TokenPair) :
    BTreeSet StrategyKey :=
  BTreeMap.get_or by_pair pair ∅

/-- No bucket is empty. -/
def Pruned (by_pair : BTreeMap TokenPair (BTreeSet StrategyKey)) : Prop :=
  ∀ (pair : TokenPair) (set : BTreeSet StrategyKey), by_pair[pair]? = some set → set ≠ ∅

theorem mem_bucket : k ∈ bucket by_pair p ↔ ∃ set, by_pair[p]? = some set ∧ k ∈ set := by
  unfold bucket BTreeMap.get_or
  match by_pair[p]? with
  | none => simp
  | some set => simp

/-- The removal half of `reindex`. -/
def unlink (by_pair : BTreeMap TokenPair (BTreeSet StrategyKey)) (key : StrategyKey)
    (old : Option TokenPair) : BTreeMap TokenPair (BTreeSet StrategyKey) :=
  match old with
  | none => by_pair
  | some pair =>
    match by_pair[pair]? with
    | none => by_pair
    | some set =>
      if (set.erase key).isEmpty then by_pair.erase pair
      else by_pair.insert pair (set.erase key)

/-- The insertion half. -/
def link (by_pair : BTreeMap TokenPair (BTreeSet StrategyKey)) (key : StrategyKey)
    (new : Option TokenPair) : BTreeMap TokenPair (BTreeSet StrategyKey) :=
  match new with
  | none => by_pair
  | some pair => BTreeMap.entry by_pair pair ∅ fun set => set.insert key

theorem reindex_of_eq (h : old = new) : reindex by_pair key old new = by_pair := if_pos h

theorem reindex_of_ne (h : old ≠ new) :
    reindex by_pair key old new = link (unlink by_pair key old) key new := if_neg h

theorem mem_unlink (hold : ∀ p, key ∈ bucket by_pair p → old = some p) :
    k ∈ bucket (unlink by_pair key old) p ↔ k ≠ key ∧ k ∈ bucket by_pair p := by
  have hkeep : (∀ p, key ∉ bucket by_pair p) →
      (k ∈ bucket by_pair p ↔ k ≠ key ∧ k ∈ bucket by_pair p) := by
    intro hnone
    refine ⟨fun h => ⟨?_, h⟩, fun h => h.2⟩
    rintro rfl
    exact hnone p h
  unfold unlink
  match old with
  | none => exact hkeep fun p h => nomatch hold p h
  | some pair =>
    dsimp only
    match hset : by_pair[pair]? with
    | none =>
      refine hkeep fun p h => ?_
      obtain rfl := Option.some.inj (hold p h)
      obtain ⟨set, hset', _⟩ := mem_bucket.mp h
      rw [hset] at hset'
      cases hset'
    | some set =>
      -- Elsewhere the key is in no bucket; in this one it is erased.
      have herased : k ∈ set.erase key ↔ k ≠ key ∧ k ∈ set := BTreeSet.mem_erase set
      have hother : pair ≠ p → (k ∈ bucket by_pair p ↔ k ≠ key ∧ k ∈ bucket by_pair p) := by
        intro hp
        refine ⟨fun h => ⟨?_, h⟩, fun h => h.2⟩
        rintro rfl
        exact hp (Option.some.inj (hold p h))
      by_cases hp : pair = p
      · subst hp
        have hbucket : k ∈ bucket by_pair pair ↔ k ∈ set := by
          simp [mem_bucket, hset]
        rw [hbucket, ← herased]
        dsimp only
        split
        case isTrue hempty =>
          have hnot : k ∉ set.erase key := by
            rw [Std.ExtTreeSet.isEmpty_iff.mp hempty]
            exact Std.ExtTreeSet.not_mem_empty
          simp [mem_bucket, hnot]
        case isFalse => simp [mem_bucket]
      · rw [← hother hp, mem_bucket, mem_bucket]
        dsimp only
        split
        case isTrue => rw [BTreeMap.get_erase, if_neg hp]
        case isFalse => rw [BTreeMap.get_insert, if_neg hp]

theorem mem_link : k ∈ bucket (link by_pair key new) p ↔
    (k = key ∧ new = some p) ∨ k ∈ bucket by_pair p := by
  unfold link
  match new with
  | none => simp
  | some pair =>
    unfold bucket
    dsimp only
    rw [BTreeMap.get_or_entry]
    by_cases hp : pair = p
    · rw [if_pos hp, BTreeSet.mem_insert]
      simp [hp]
    · rw [if_neg hp]
      simp [hp]

theorem pruned_unlink (h : Pruned by_pair) : Pruned (unlink by_pair key old) := by
  unfold unlink
  match old with
  | none => exact h
  | some pair =>
    dsimp only
    match by_pair[pair]? with
    | none => exact h
    | some set =>
      unfold Pruned
      intro p set' hset'
      dsimp only at hset'
      split at hset'
      case isTrue =>
        rw [BTreeMap.get_erase] at hset'
        split at hset'
        · cases hset'
        · exact h p set' hset'
      case isFalse hne =>
        rw [BTreeMap.get_insert] at hset'
        split at hset'
        · obtain rfl := Option.some.inj hset'
          exact fun hempty => hne (Std.ExtTreeSet.isEmpty_iff.mpr hempty)
        · exact h p set' hset'

theorem pruned_link (h : Pruned by_pair) : Pruned (link by_pair key new) := by
  unfold link
  match new with
  | none => exact h
  | some pair =>
    unfold Pruned
    intro p set hset
    dsimp only [BTreeMap.entry] at hset
    rw [BTreeMap.get_insert] at hset
    split at hset
    · obtain rfl := Option.some.inj hset
      intro hempty
      have hmem : key ∈ (bucket by_pair pair).insert key := (BTreeSet.mem_insert _).mpr (.inl rfl)
      rw [show (bucket by_pair pair).insert key = ∅ from hempty] at hmem
      exact Std.ExtTreeSet.not_mem_empty hmem
    · exact h p set hset

/-! ## The index -/

/-- **The index is exact**: a key is in the bucket of a pair iff its strategy is
    tracked, active and of that pair; no bucket is empty. -/
structure Indexed (s : Snapshot) : Prop where
  keyed : ∀ (key : StrategyKey) (strategy : MakerStrategy),
    s.strategies[key]? = some strategy → strategy.key = key
  mem : ∀ key pair, key ∈ bucket s.by_pair pair ↔
    ∃ strategy, s.strategies[key]? = some strategy ∧ strategy.active ∧ strategy.pair = some pair
  pruned : Pruned s.by_pair

variable {s : Snapshot} {strategy strategy' : MakerStrategy}

theorem indexed_default : Indexed default where
  keyed := by
    intro key strategy h
    simp [default] at h
  mem := by simp [default, bucket]
  pruned := by
    intro pair set h
    simp [default] at h

theorem Indexed.mem_iff (h : Indexed s) (hkey : s.strategies[key]? = some strategy) :
    key ∈ bucket s.by_pair p ↔ strategy.active ∧ strategy.pair = some p := by
  rw [h.mem, hkey]
  simp

theorem Indexed.keyed_insert (h : Indexed s) (hid : strategy'.key = key) (k : StrategyKey)
    (strategy : MakerStrategy) (hk : (s.strategies.insert key strategy')[k]? = some strategy) :
    strategy.key = k := by
  rw [BTreeMap.get_insert] at hk
  split at hk
  · rename_i hkey
    obtain rfl := Option.some.inj hk
    exact hid.trans hkey
  · exact h.keyed k strategy hk

/-- A strategy replaced by one that contributes the same. -/
theorem Indexed.replace (h : Indexed s) (hid : strategy'.key = key)
    {stored : Option MakerStrategy} (hstored : s.strategies[key]? = stored)
    (hsame : ∀ p, (strategy'.active ∧ strategy'.pair = some p) ↔
      ∃ strategy, stored = some strategy ∧ strategy.active ∧ strategy.pair = some p) :
    Indexed { s with strategies := s.strategies.insert key strategy' } where
  keyed := h.keyed_insert hid
  mem := by
    intro k p
    show k ∈ bucket s.by_pair p ↔ ∃ strategy, (s.strategies.insert key strategy')[k]? = _ ∧ _
    rw [h.mem, BTreeMap.get_insert]
    by_cases hk : key = k
    · subst hk
      rw [hstored, if_pos rfl, ← hsame]
      simp
    · rw [if_neg hk]
  pruned := h.pruned

/-- **Step lemma** for the events that patch the index: the bucket of `old` is left
    and that of `new` entered. -/
theorem Indexed.reindex (h : Indexed s) (hid : strategy'.key = key) (hkey : s.strategies[key]? = some strategy)
    (hold : strategy.active → strategy.pair = old)
    (hstays : old = new → ∀ p, old = some p → strategy.active)
    (hnew : ∀ p, (strategy'.active ∧ strategy'.pair = some p) ↔ new = some p) :
    Indexed { strategies := s.strategies.insert key strategy'
              by_pair := Snapshot.reindex s.by_pair key old new } := by
  have hin : ∀ p, key ∈ bucket s.by_pair p → old = some p := by
    intro p hp
    obtain ⟨hactive, hpair⟩ := (h.mem_iff hkey).mp hp
    rw [← hold hactive, hpair]
  have hothers : ∀ k p, key ≠ k → (k ∈ bucket s.by_pair p ↔
      ∃ strategy, (s.strategies.insert key strategy')[k]? = some strategy ∧ strategy.active ∧
        strategy.pair = some p) := by
    intro k p hk
    rw [h.mem, BTreeMap.get_insert, if_neg hk]
  have hself : ∀ p, (∃ strategy, (s.strategies.insert key strategy')[key]? = some strategy ∧
      strategy.active ∧ strategy.pair = some p) ↔ new = some p := by
    intro p
    rw [BTreeMap.get_insert, if_pos rfl, ← hnew]
    simp
  by_cases hsame : old = new
  · -- The pair did not change: neither did the index.
    rw [reindex_of_eq hsame]
    refine ⟨h.keyed_insert hid, ?_, h.pruned⟩
    intro k p
    by_cases hk : key = k
    · subst hk
      show key ∈ bucket s.by_pair p ↔ _
      rw [hself, ← hsame, h.mem_iff hkey]
      constructor
      · rintro ⟨hactive, hpair⟩
        rw [← hold hactive, hpair]
      · intro hp
        have hactive := hstays hsame p hp
        exact ⟨hactive, (hold hactive).trans hp⟩
    · exact hothers k p hk
  · rw [reindex_of_ne hsame]
    refine ⟨h.keyed_insert hid, ?_, pruned_link (pruned_unlink h.pruned)⟩
    intro k p
    show k ∈ bucket (link (unlink s.by_pair key old) key new) p ↔ _
    rw [mem_link, mem_unlink hin]
    by_cases hk : key = k
    · subst hk
      rw [hself]
      simp
    · rw [← hothers k p hk]
      have hne : k ≠ key := fun e => hk e.symm
      simp [hne]

/-- A pull keeps the tokens, and so the pair. -/
theorem pair_of_pulled {token : Address} {balance : U256}
    (hbalance : strategy.balances[token]? = some balance) (left : U256) :
    MakerStrategy.pair { strategy with balances := strategy.balances.insert token left } =
      strategy.pair := by
  have hkeys : (strategy.balances.insert token left).keys = strategy.balances.keys :=
    BTreeMap.keys_insert hbalance left
  unfold MakerStrategy.pair
  dsimp only
  rw [hkeys]

/-- **Step lemma.** Every event keeps the index exact. -/
theorem Indexed.apply (h : Indexed s) (event : AquaEvent) :
    Indexed (s.apply decode_strategy event) := by
  match event with
  | .Shipped maker app strategy_hash strategy =>
    unfold Snapshot.apply
    dsimp only
    split
    · exact h
    · rename_i hnone
      refine h.replace ?_ hnone ?_
      · rfl
      intro p
      have hpair : (MakerStrategy.new decode_strategy { maker, app, strategy_hash } strategy).pair =
          none := rfl
      rw [hpair]
      simp
  | .Pushed maker app strategy_hash token amount =>
    unfold Snapshot.apply
    dsimp only
    split
    · exact h
    · rename_i strategy hfiltered
      obtain ⟨hkey, hactive⟩ := Option.filter_eq_some_iff.mp hfiltered
      refine h.reindex ?_ hkey (fun _ => rfl) (fun _ _ _ => hactive) ?_
      · exact h.keyed _ strategy hkey
      · intro p
        exact and_iff_right hactive
  | .Pulled maker app strategy_hash token amount =>
    unfold Snapshot.apply
    dsimp only
    split
    · exact h
    · rename_i strategy hfiltered
      obtain ⟨hkey, hactive⟩ := Option.filter_eq_some_iff.mp hfiltered
      split
      · exact h
      · -- The token stays, with another balance: the pair is the same.
        rename_i balance hbalance
        refine h.replace ?_ hkey ?_
        · exact h.keyed _ strategy hkey
        intro p
        rw [pair_of_pulled hbalance]
        simp
  | .Docked maker app strategy_hash =>
    unfold Snapshot.apply
    dsimp only
    split
    · exact h
    · rename_i strategy hkey
      refine h.reindex ?_ hkey (fun _ => rfl) ?_ ?_
      · exact h.keyed _ strategy hkey
      · intro hnone p hp
        have hpair : strategy.pair = none := hnone
        have hsome : strategy.pair = some p := hp
        rw [hpair] at hsome
        cases hsome
      · simp

theorem Indexed.mem_active (h : Indexed s) (pair : TokenPair) (strategy : MakerStrategy) :
    strategy ∈ s.active_strategies_for_pair pair ↔
      s.strategies[strategy.key]? = some strategy ∧ strategy.active ∧
        strategy.pair = some pair := by
  have hmem : strategy ∈ s.active_strategies_for_pair pair ↔
      ∃ key, key ∈ bucket s.by_pair pair ∧ s.strategies[key]? = some strategy ∧
        strategy.active := by
    unfold active_strategies_for_pair
    match hset : s.by_pair[pair]? with
    | none => simp [mem_bucket, hset]
    | some set => simp [mem_bucket, hset, Option.filter_eq_some_iff]
  rw [hmem]
  constructor
  · rintro ⟨key, hbucket, hkey, hactive⟩
    have hid := h.keyed key strategy hkey
    rw [hid]
    exact ⟨hkey, (h.mem_iff hkey).mp hbucket⟩
  · rintro ⟨hkey, hactive, hpair⟩
    exact ⟨strategy.key, (h.mem_iff hkey).mpr ⟨hactive, hpair⟩, hkey, hactive⟩

theorem Indexed.nodup_active (h : Indexed s) (pair : TokenPair) :
    (s.active_strategies_for_pair pair).Nodup := by
  unfold active_strategies_for_pair
  match s.by_pair[pair]? with
  | none => exact List.nodup_nil
  | some set =>
    -- Different keys have different strategies: a strategy carries its key.
    refine (BTreeSet.nodup_toList set).filterMap ?_
    intro key key' strategy hstrategy hstrategy'
    obtain ⟨hkey, _⟩ := Option.filter_eq_some_iff.mp hstrategy
    obtain ⟨hkey', _⟩ := Option.filter_eq_some_iff.mp hstrategy'
    exact (h.keyed key strategy hkey).symm.trans (h.keyed key' strategy hkey')

/-- **Run lemma.** -/
theorem indexed_replay (events : List AquaEvent) : Indexed (replay decode_strategy events) := by
  unfold replay
  induction events using List.reverseRecOn with
  | nil => exact indexed_default
  | append_singleton events event ih =>
    rw [List.foldl_append]
    exact ih.apply decode_strategy event

/-- **The registry index is exact.** -/
theorem index_is_exact (events : List AquaEvent) :
    let s := replay decode_strategy events
    (∀ (key : StrategyKey) (pair : TokenPair), key ∈ bucket s.by_pair pair ↔
      ∃ strategy : MakerStrategy, s.strategies[key]? = some strategy ∧ strategy.active ∧
        strategy.pair = some pair) ∧
    (∀ (pair : TokenPair) (set : BTreeSet StrategyKey), s.by_pair[pair]? = some set → set ≠ ∅) ∧
    (∀ (key : StrategyKey) (pair pair' : TokenPair), key ∈ bucket s.by_pair pair → key ∈ bucket s.by_pair pair' →
      pair = pair') ∧
    ∀ pair : TokenPair, (s.active_strategies_for_pair pair).Nodup ∧
      ∀ strategy : MakerStrategy, strategy ∈ s.active_strategies_for_pair pair ↔
        s.strategies[strategy.key]? = some strategy ∧ strategy.active ∧
          strategy.pair = some pair := by
  intro s
  have hindexed : Indexed s := indexed_replay decode_strategy events
  refine ⟨hindexed.mem, hindexed.pruned, ?_, ?_⟩
  · intro key pair pair' hpair hpair'
    obtain ⟨strategy, hkey, _, hquoted⟩ := (hindexed.mem key pair).mp hpair
    obtain ⟨_, hquoted'⟩ := (hindexed.mem_iff hkey).mp hpair'
    exact Option.some.inj (hquoted.symm.trans hquoted')
  · exact fun pair => ⟨hindexed.nodup_active pair, hindexed.mem_active pair⟩

end Snapshot

end Solvent
