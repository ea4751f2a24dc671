import Mathlib
import Solvent.Framework.Replay
import Solvent.Registry.Apply

/-! # Events that change places

    The fold does not commute: a push below the shipment of its strategy is
    ignored above it, and a balance stops at zero. `exchanges` says exactly which
    two events of a strategy may be folded in either order.
-/

namespace Solvent

variable (decode_strategy : List (Fin 256) → CurveSpec)

namespace Snapshot

/-! ## Balances -/

/-- The balances after a push. -/
def pushed (balances : BTreeMap Address U256) (token : Address) (amount : U256) :
    BTreeMap Address U256 :=
  BTreeMap.entry balances token 0 (·.saturating_add amount)

/-- The balances after a pull. -/
def pulled (balances : BTreeMap Address U256) (token : Address) (amount : U256) :
    BTreeMap Address U256 :=
  match balances[token]? with
  | none => balances
  | some balance => balances.insert token (balance.saturating_sub amount)

section Balances

variable {m : BTreeMap Address U256} {t u : Address} {x y : U256}

theorem get_pushed (a : Address) : (pushed m t x)[a]? =
    if t = a then some ((BTreeMap.get_or m t 0).saturating_add x) else m[a]? :=
  BTreeMap.get_insert m t a _

theorem get_pulled (a : Address) : (pulled m t x)[a]? =
    if t = a then m[t]?.map (·.saturating_sub x) else m[a]? := by
  match hget : m[t]? with
  | none =>
    have hsame : pulled m t x = m := by simp [pulled, hget]
    rw [hsame]
    split
    · rename_i hta
      rw [← hta, hget]
      rfl
    · rfl
  | some balance =>
    have hwrite : pulled m t x = m.insert t (balance.saturating_sub x) := by simp [pulled, hget]
    rw [hwrite]
    exact BTreeMap.get_insert m t a _

theorem get_or_pushed (a : Address) : BTreeMap.get_or (pushed m t x) a 0 =
    if t = a then (BTreeMap.get_or m t 0).saturating_add x else BTreeMap.get_or m a 0 := by
  unfold BTreeMap.get_or
  rw [get_pushed]
  split <;> rfl

theorem get_or_pulled (a : Address) : BTreeMap.get_or (pulled m t x) a 0 =
    if t = a then (BTreeMap.get_or m t 0).saturating_sub x else BTreeMap.get_or m a 0 := by
  unfold BTreeMap.get_or
  rw [get_pulled]
  split
  · match m[t]? with
    | none =>
      apply Fin.ext
      show 0 = 0 - x.val
      omega
    | some balance => rfl
  · rfl

theorem saturating_add_right_comm (a x y : U256) :
    (a.saturating_add x).saturating_add y = (a.saturating_add y).saturating_add x := by
  apply Fin.ext
  simp only [U256.saturating_add_val]
  omega

theorem saturating_sub_right_comm (a x y : U256) :
    (a.saturating_sub x).saturating_sub y = (a.saturating_sub y).saturating_sub x := by
  apply Fin.ext
  simp only [U256.saturating_sub_val]
  omega

/-- Pushes add up in any order. -/
theorem pushed_pushed : pushed (pushed m t x) u y = pushed (pushed m u y) t x := by
  apply Std.ExtTreeMap.ext_getElem?
  intro a
  simp only [get_pushed, get_or_pushed]
  by_cases htu : t = u
  · subst htu
    simp only [if_true, saturating_add_right_comm _ x y]
    split <;> rfl
  · have hut : u ≠ t := fun e => htu e.symm
    simp only [htu, hut, if_false]
    by_cases hua : u = a
    · have hta : t ≠ a := fun e => htu (e.trans hua.symm)
      simp [hua, hta]
    · simp [hua]

/-- Pulls stop at zero in any order. -/
theorem pulled_pulled : pulled (pulled m t x) u y = pulled (pulled m u y) t x := by
  apply Std.ExtTreeMap.ext_getElem?
  intro a
  simp only [get_pulled]
  by_cases htu : t = u
  · subst htu
    match m[t]? with
    | none => simp
    | some balance =>
      simp only [if_true, Option.map_some, saturating_sub_right_comm balance x y]
      split <;> rfl
  · have hut : u ≠ t := fun e => htu e.symm
    simp only [htu, hut, if_false]
    by_cases hua : u = a
    · have hta : t ≠ a := fun e => htu (e.trans hua.symm)
      simp [hua, hta]
    · simp [hua]

/-- A push and a pull. -/
theorem pulled_pushed : pulled (pushed m t x) u y = pushed (pulled m u y) t x ↔
    t ≠ u ∨ ((BTreeMap.get_or m t 0).saturating_add x).saturating_sub y =
      ((BTreeMap.get_or m t 0).saturating_sub y).saturating_add x := by
  by_cases htu : t = u
  · subst htu
    constructor
    · intro h
      right
      have hget := congrArg (fun m : BTreeMap Address U256 => m[t]?) h
      simpa [get_pulled, get_pushed, get_or_pulled] using hget
    · intro h
      have heq := h.resolve_left (fun hne => hne rfl)
      apply Std.ExtTreeMap.ext_getElem?
      intro a
      by_cases hta : t = a
      · subst hta
        simp [get_pulled, get_pushed, get_or_pulled, heq]
      · simp [get_pulled, get_pushed, hta]
  · refine ⟨fun _ => .inl htu, fun _ => ?_⟩
    have hut : u ≠ t := fun e => htu e.symm
    apply Std.ExtTreeMap.ext_getElem?
    intro a
    simp only [get_pulled, get_pushed, get_or_pulled, htu, hut, if_false]
    by_cases hua : u = a
    · have hta : t ≠ a := fun e => htu (e.trans hua.symm)
      simp [hua, hta]
    · simp [hua]

/-- A push that changes nothing. -/
theorem pushed_eq_self : pushed m t x = m ↔
    (m[t]?.any fun balance => balance.saturating_add x = balance) = true := by
  constructor
  · intro h
    have hget : (pushed m t x)[t]? = m[t]? := by rw [h]
    rw [get_pushed, if_pos rfl] at hget
    rw [← hget]
    unfold BTreeMap.get_or
    rw [← hget]
    have hget' := hget
    unfold BTreeMap.get_or at hget'
    match hm : m[t]? with
    | none => simp [hm] at hget'
    | some balance =>
      rw [hm] at hget'
      have hself : balance.saturating_add x = balance := by simpa using hget'
      simp [hself, BTreeMap.get_or, hm]
  · intro h
    match hm : m[t]? with
    | none => simp [hm] at h
    | some balance =>
      have hself : balance.saturating_add x = balance := by simpa [hm] using h
      apply Std.ExtTreeMap.ext_getElem?
      intro a
      rw [get_pushed]
      split
      · rename_i hta
        rw [← hta, hm]
        simp [BTreeMap.get_or, hm, hself]
      · rfl

/-- A pull that changes nothing. -/
theorem pulled_eq_self : pulled m t x = m ↔
    (BTreeMap.get_or m t 0).saturating_sub x = BTreeMap.get_or m t 0 := by
  constructor
  · intro h
    have hget := get_or_pulled (m := m) (t := t) (x := x) t
    rw [h, if_pos rfl] at hget
    exact hget.symm
  · intro h
    apply Std.ExtTreeMap.ext_getElem?
    intro a
    rw [get_pulled]
    split
    · rename_i hta
      rw [← hta]
      match hm : m[t]? with
      | none => rfl
      | some balance =>
        have hself : balance.saturating_sub x = balance := by simpa [BTreeMap.get_or, hm] using h
        simp [hself]
    · rfl

end Balances

/-! ## One strategy -/

/-- What an event does to the strategy it addresses. -/
def track (tracked : Option MakerStrategy) (event : AquaEvent) : Option MakerStrategy :=
  match tracked with
  | none =>
    match event with
    | .Shipped _ _ _ strategy => some (MakerStrategy.new decode_strategy event.key strategy)
    | _ => none
  | some strategy =>
    match event with
    | .Shipped .. => some strategy
    | .Pushed _ _ _ token amount =>
      if strategy.active then some { strategy with balances := pushed strategy.balances token amount }
      else some strategy
    | .Pulled _ _ _ token amount =>
      if strategy.active then some { strategy with balances := pulled strategy.balances token amount }
      else some strategy
    | .Docked .. => some { strategy with active := false }

/-- **An event moves its own strategy only.** -/
theorem get_apply (s : Snapshot) (event : AquaEvent) (key : StrategyKey) :
    (s.apply decode_strategy event).strategies[key]? =
      if event.key = key then track decode_strategy s.strategies[key]? event
      else s.strategies[key]? := by
  match event with
  | .Shipped maker app strategy_hash strategy =>
    unfold apply track AquaEvent.key
    dsimp only
    by_cases hkey : (⟨maker, app, strategy_hash⟩ : StrategyKey) = key
    · subst hkey
      rw [if_pos rfl]
      match hget : s.strategies[(⟨maker, app, strategy_hash⟩ : StrategyKey)]? with
      | none => simp
      | some strategy => simpa using hget
    · rw [if_neg hkey]
      split
      · rfl
      · simp [BTreeMap.get_insert, hkey]
  | .Pushed maker app strategy_hash token amount =>
    unfold apply track AquaEvent.key
    dsimp only
    by_cases hkey : (⟨maker, app, strategy_hash⟩ : StrategyKey) = key
    · subst hkey
      rw [if_pos rfl]
      match hget : s.strategies[(⟨maker, app, strategy_hash⟩ : StrategyKey)]? with
      | none => simpa using hget
      | some strategy =>
        by_cases hactive : strategy.active = true
        · simp [Option.filter, hactive, pushed]
        · simp [Option.filter, hactive, hget]
    · rw [if_neg hkey]
      split
      · rfl
      · simp [BTreeMap.get_insert, hkey]
  | .Pulled maker app strategy_hash token amount =>
    unfold apply track AquaEvent.key
    dsimp only
    by_cases hkey : (⟨maker, app, strategy_hash⟩ : StrategyKey) = key
    · subst hkey
      rw [if_pos rfl]
      match hget : s.strategies[(⟨maker, app, strategy_hash⟩ : StrategyKey)]? with
      | none => simpa using hget
      | some strategy =>
        by_cases hactive : strategy.active = true
        · match hbalance : strategy.balances[token]? with
          | none =>
            cases strategy
            simp_all [Option.filter, pulled]
          | some balance => simp [Option.filter, hactive, hbalance, pulled]
        · simp [Option.filter, hactive, hget]
    · rw [if_neg hkey]
      split
      · rfl
      · split
        · rfl
        · simp [BTreeMap.get_insert, hkey]
  | .Docked maker app strategy_hash =>
    unfold apply track AquaEvent.key
    dsimp only
    by_cases hkey : (⟨maker, app, strategy_hash⟩ : StrategyKey) = key
    · subst hkey
      rw [if_pos rfl]
      match hget : s.strategies[(⟨maker, app, strategy_hash⟩ : StrategyKey)]? with
      | none => simpa using hget
      | some strategy => simp
    · rw [if_neg hkey]
      split
      · rfl
      · simp [BTreeMap.get_insert, hkey]

/-- A replayed snapshot holds only strategies that its events address. -/
theorem addressed_of_replay {events : List AquaEvent} {key : StrategyKey}
    {strategy : MakerStrategy}
    (h : (replay decode_strategy events).strategies[key]? = some strategy) :
    ∃ event ∈ events, event.key = key := by
  induction events using List.reverseRecOn generalizing strategy with
  | nil => simp [replay, default] at h
  | append_singleton events event ih =>
    have hlast : replay decode_strategy (events ++ [event]) =
        (replay decode_strategy events).apply decode_strategy event := by
      simp [replay]
    rw [hlast, get_apply] at h
    split at h
    · rename_i hkey
      exact ⟨event, by simp, hkey⟩
    · obtain ⟨earlier, hmem, hkey⟩ := ih h
      exact ⟨earlier, by simp [hmem], hkey⟩

/-- An exact index is determined by the strategies. -/
theorem Indexed.ext {s s' : Snapshot} (h : Indexed s) (h' : Indexed s')
    (hsame : ∀ key : StrategyKey, s.strategies[key]? = s'.strategies[key]?) : s = s' := by
  have hstrategies : s.strategies = s'.strategies := Std.ExtTreeMap.ext_getElem? hsame
  have hbuckets : ∀ pair, bucket s.by_pair pair = bucket s'.by_pair pair := by
    intro pair
    apply Std.ExtTreeSet.ext_mem
    intro key
    rw [h.mem, h'.mem, hstrategies]
  have hindex : s.by_pair = s'.by_pair := by
    apply Std.ExtTreeMap.ext_getElem?
    intro pair
    have hbucket := hbuckets pair
    unfold bucket BTreeMap.get_or at hbucket
    -- A bucket that is there is not the empty one that is missing.
    match hset : s.by_pair[pair]?, hset' : s'.by_pair[pair]? with
    | none, none => rfl
    | some set, some set' => simpa [hset, hset'] using hbucket
    | some set, none => exact absurd (by simpa [hset, hset'] using hbucket) (h.pruned pair set hset)
    | none, some set' =>
      exact absurd (by simpa [hset, hset'] using hbucket.symm) (h'.pruned pair set' hset')
  cases s
  cases s'
  simp_all

/-! ## Two events -/

/-- Whether two events of one strategy may be folded in either order. -/
def exchanges (tracked : Option MakerStrategy) (e f : AquaEvent) : Bool :=
  match tracked with
  | none =>
    match e, f with
    | .Shipped _ _ _ strategy, .Shipped _ _ _ strategy' =>
      decode_strategy strategy = decode_strategy strategy'
    -- A pull finds no balance on either side of the shipment.
    | .Shipped .., .Pulled .. | .Pulled .., .Shipped .. => true
    | .Shipped .., _ | _, .Shipped .. => false
    | _, _ => true
  | some strategy => !strategy.active ||
    match e, f with
    | .Pushed _ _ _ token amount, .Pulled _ _ _ token' amount'
    | .Pulled _ _ _ token' amount', .Pushed _ _ _ token amount =>
      -- The pull is not clamped below the push, nor the push above the pull.
      token ≠ token' ||
        ((strategy.balance token).saturating_add amount).saturating_sub amount' =
          ((strategy.balance token).saturating_sub amount').saturating_add amount
    | .Pushed _ _ _ token amount, .Docked .. | .Docked .., .Pushed _ _ _ token amount =>
      strategy.balances[token]?.any fun balance => balance.saturating_add amount = balance
    | .Pulled _ _ _ token amount, .Docked .. | .Docked .., .Pulled _ _ _ token amount =>
      (strategy.balance token).saturating_sub amount = strategy.balance token
    | _, _ => true

/-- **`exchanges` is exact.** -/
theorem exchanges_iff {tracked : Option MakerStrategy} {e f : AquaEvent} (hkey : e.key = f.key) :
    exchanges decode_strategy tracked e f = true ↔
      track decode_strategy (track decode_strategy tracked e) f =
        track decode_strategy (track decode_strategy tracked f) e := by
  match tracked with
  | none =>
    match e, f with
    | .Shipped .., .Shipped .. => simp [exchanges, track, MakerStrategy.new, hkey]
    | .Shipped .., .Pushed .. => simp [exchanges, track, MakerStrategy.new, pushed_eq_self]
    | .Shipped .., .Pulled .. => simp [exchanges, track, MakerStrategy.new, pulled]
    | .Shipped .., .Docked .. => simp [exchanges, track, MakerStrategy.new]
    | .Pushed .., .Shipped .. => simp [exchanges, track, MakerStrategy.new, pushed_eq_self]
    | .Pulled .., .Shipped .. => simp [exchanges, track, MakerStrategy.new, pulled]
    | .Docked .., .Shipped .. => simp [exchanges, track, MakerStrategy.new]
    | .Pushed .., .Pushed .. | .Pushed .., .Pulled .. | .Pushed .., .Docked ..
    | .Pulled .., .Pushed .. | .Pulled .., .Pulled .. | .Pulled .., .Docked ..
    | .Docked .., .Pushed .. | .Docked .., .Pulled .. | .Docked .., .Docked .. =>
      simp [exchanges, track]
  | some strategy =>
    by_cases hactive : strategy.active = true
    · have hbalance : ∀ token, strategy.balance token = BTreeMap.get_or strategy.balances token 0 :=
        fun _ => rfl
      match e, f with
      | .Pushed .., .Pushed .. => simp [exchanges, track, hactive, pushed_pushed]
      | .Pulled .., .Pulled .. => simp [exchanges, track, hactive, pulled_pulled]
      | .Pushed .., .Pulled .. => simp [exchanges, track, hactive, hbalance, pulled_pushed]
      | .Pulled .., .Pushed .. =>
        rw [eq_comm (a := track decode_strategy _ _)]
        simp [exchanges, track, hactive, hbalance, pulled_pushed]
      | .Pushed .., .Docked .. => simp [exchanges, track, hactive, pushed_eq_self]
      | .Docked .., .Pushed .. =>
        rw [eq_comm (a := track decode_strategy _ _)]
        simp [exchanges, track, hactive, pushed_eq_self]
      | .Pulled .., .Docked .. => simp [exchanges, track, hactive, hbalance, pulled_eq_self]
      | .Docked .., .Pulled .. =>
        rw [eq_comm (a := track decode_strategy _ _)]
        simp [exchanges, track, hactive, hbalance, pulled_eq_self]
      | .Docked .., .Docked .. => simp [exchanges, track]
      | .Shipped .., f => cases f <;> simp [exchanges, track, hactive]
      | e, .Shipped .. => cases e <;> simp [exchanges, track, hactive]
    · -- Nothing changes a docked strategy.
      have hdocked : ∀ event, track decode_strategy (some strategy) event = some strategy := by
        intro event
        cases strategy
        cases event <;> simp_all [track]
      simp [exchanges, hactive, hdocked]

/-- Whether two events may be folded in either order from `s`. -/
def swaps (s : Snapshot) (e f : AquaEvent) : Bool :=
  e.key ≠ f.key || exchanges decode_strategy s.strategies[e.key]? e f

/-- **Two events change places** exactly when `swaps` says so. -/
theorem Indexed.swaps_iff {s : Snapshot} (h : Indexed s) (e f : AquaEvent) :
    s.swaps decode_strategy e f = true ↔
      (s.apply decode_strategy e).apply decode_strategy f =
        (s.apply decode_strategy f).apply decode_strategy e := by
  have hkeys : ((s.apply decode_strategy e).apply decode_strategy f =
      (s.apply decode_strategy f).apply decode_strategy e) ↔
      ∀ key : StrategyKey, ((s.apply decode_strategy e).apply decode_strategy f).strategies[key]? =
        ((s.apply decode_strategy f).apply decode_strategy e).strategies[key]? := by
    constructor
    · intro heq key
      rw [heq]
    · exact ((h.apply decode_strategy e).apply decode_strategy f).ext
        ((h.apply decode_strategy f).apply decode_strategy e)
  rw [hkeys]
  simp only [get_apply]
  unfold swaps
  by_cases hkey : e.key = f.key
  · -- One strategy sees both.
    rw [← hkey]
    simp only [ne_eq, not_true_eq_false, decide_false, Bool.false_or,
      exchanges_iff decode_strategy hkey]
    constructor
    · intro heq key
      split
      · rename_i hk
        rw [← hk]
        exact heq
      · rfl
    · intro heq
      simpa using heq e.key
  · simp only [ne_eq, hkey, not_false_eq_true, decide_true, Bool.true_or, true_iff]
    intro key
    by_cases hek : e.key = key
    · have hfk : f.key ≠ key := fun hk => hkey (hek.trans hk.symm)
      simp [hfk]
    · simp [hek]

end Snapshot

end Solvent
