import Mathlib
import Solvent.Ledger.Engine

/-! # What the compartment updates add up to

    Each command of the ledger moves the compartments by a list of saturating
    updates. This module says what a whole list does at one account, in exact
    natural numbers:

    * placing a source set adds its `demand` to `pending`, clamped once at the
      greatest word;
    * releasing it takes the `demand` out, clamped once at zero;
    * settling it also adds the `fill_demand` to `consumed`, and a reorg takes
      that out again.

    The closed forms need no assumption. `ClampFree` is the extra fact that no
    single update of the list leaves the range of a word.
-/

namespace Solvent

open BTreeMap

/-! ## Exact demand -/

/-- The exact amount a source set draws on `account`. -/
def demand (sources : List ReservationSource) (account : AccountKey) : ℕ :=
  (sources.map fun s => if account ∈ s.accounts then s.amount.val else 0).sum

/-- The exact amount the fills of a source set draw on `account`. A source with
    no recorded fill draws nothing. -/
def fill_demand (sources : List ReservationSource) (filled : List U256)
    (account : AccountKey) : ℕ :=
  ((sources.zip filled).map fun p => if account ∈ p.1.accounts then p.2.val else 0).sum

@[simp] theorem demand_nil (a : AccountKey) : demand [] a = 0 := rfl

@[simp] theorem demand_cons (s : ReservationSource) (ss : List ReservationSource)
    (a : AccountKey) :
    demand (s :: ss) a = (if a ∈ s.accounts then s.amount.val else 0) + demand ss a := by
  simp [demand]

@[simp] theorem fill_demand_nil (filled : List U256) (a : AccountKey) :
    fill_demand [] filled a = 0 := by
  simp [fill_demand]

@[simp] theorem fill_demand_no_fills (sources : List ReservationSource) (a : AccountKey) :
    fill_demand sources [] a = 0 := by
  simp [fill_demand]

@[simp] theorem fill_demand_cons (s : ReservationSource) (ss : List ReservationSource)
    (f : U256) (fs : List U256) (a : AccountKey) :
    fill_demand (s :: ss) (f :: fs) a =
      (if a ∈ s.accounts then f.val else 0) + fill_demand ss fs a := by
  simp [fill_demand]

theorem demand_le_sum (sources : List ReservationSource) (a : AccountKey) :
    demand sources a ≤ (sources.map fun s => s.amount.val).sum := by
  apply List.sum_le_sum
  intro s _
  split <;> omega

theorem fill_demand_le_sum (sources : List ReservationSource) (filled : List U256)
    (a : AccountKey) : fill_demand sources filled a ≤ (filled.map Fin.val).sum := by
  induction sources generalizing filled with
  | nil => simp
  | cons s ss ih =>
    cases filled with
    | nil => simp
    | cons f fs =>
      have := ih fs
      simp only [fill_demand_cons, List.map_cons, List.sum_cons]
      split <;> omega

/-- Every fill is within what its source reserved. -/
def FillsWithin (sources : List ReservationSource) (filled : List U256) : Prop :=
  List.Forall₂ (fun s f => f ≤ s.amount) sources filled

theorem fill_demand_le_demand {sources : List ReservationSource} {filled : List U256}
    (h : FillsWithin sources filled) (a : AccountKey) :
    fill_demand sources filled a ≤ demand sources a := by
  induction h with
  | nil => simp
  | cons hle _ ih =>
    rw [Fin.le_def] at hle
    simp only [fill_demand_cons, demand_cons]
    split <;> omega

/-- `post` accepts exactly the fills that are within their sources. -/
theorem fillsWithin_iff (sources : List ReservationSource) (filled : List U256) (index : ℕ) :
    FillsWithin sources filled ↔
      filled.length = sources.length ∧ Ledger.first_overfill index sources filled = none := by
  induction sources generalizing filled index with
  | nil =>
    cases filled with
    | nil => simp [FillsWithin, Ledger.first_overfill]
    | cons f fs => simp [FillsWithin]
  | cons s ss ih =>
    cases filled with
    | nil => simp [FillsWithin]
    | cons f fs =>
      have ih' := ih fs (index + 1)
      unfold FillsWithin at ih' ⊢
      rw [List.forall₂_cons, ih', Ledger.first_overfill]
      by_cases hf : s.amount < f
      · simp [hf]
      · have hle : f ≤ s.amount := not_lt.mp hf
        simp [hf, hle]

/-! ## Steps at one account -/

theorem apply_steps_append (held : BTreeMap AccountKey Held)
    (us vs : List (AccountKey × HoldStep)) :
    apply_steps held (us ++ vs) = apply_steps (apply_steps held us) vs := by
  simp [apply_steps]

/-- A list of updates acts on an account through the updates addressed to it. -/
theorem get_or_apply_steps (held : BTreeMap AccountKey Held)
    (us : List (AccountKey × HoldStep)) (a : AccountKey) :
    get_or (apply_steps held us) a Held.default =
      ((us.filter fun u => u.1 = a).map Prod.snd).foldl (fun h op => op.apply h)
        (get_or held a Held.default) := by
  induction us generalizing held with
  | nil => rfl
  | cons u us ih =>
    show get_or (apply_steps (apply_step held u) us) a Held.default = _
    rw [ih, apply_step, get_or_entry]
    by_cases hu : u.1 = a
    · simp [hu]
    · simp [hu]

/-- A source updates each of its two accounts once with the whole list, and no
    other account. -/
theorem filter_steps (s : ReservationSource) (ops : List HoldStep) (a : AccountKey) :
    ((s.steps ops).filter fun u => u.1 = a).map Prod.snd =
      if a ∈ s.accounts then ops else [] := by
  have hmap : ∀ (b : AccountKey),
      ((ops.map fun op => (b, op)).filter fun u => u.1 = a).map Prod.snd =
        if b = a then ops else [] := by
    intro b
    by_cases hb : b = a
    · subst hb
      rw [List.filter_eq_self.mpr (by simp)]
      simp [Function.comp_def]
    · simp [hb]
  simp only [ReservationSource.steps, ReservationSource.accounts, List.flatMap_cons,
    List.flatMap_nil, List.append_nil, List.filter_append, List.map_append, hmap,
    List.mem_cons, List.not_mem_nil, or_false]
  -- The wallet and the virtual are different accounts, so at most one side stays.
  cases a with
  | WalletBudget m t => simp [eq_comm]
  | StrategyVirtual m h t => simp [eq_comm]

theorem get_or_apply_source (held : BTreeMap AccountKey Held) (s : ReservationSource)
    (ops : List HoldStep) (a : AccountKey) :
    get_or (apply_steps held (s.steps ops)) a Held.default =
      if a ∈ s.accounts then
        ops.foldl (fun h op => op.apply h) (get_or held a Held.default)
      else get_or held a Held.default := by
  rw [get_or_apply_steps, filter_steps]
  split <;> rfl

/-! ## Closed forms -/

/-- Releasing a source set takes its demand out of `pending`. -/
theorem release_held (held : BTreeMap AccountKey Held) (sources : List ReservationSource)
    (a : AccountKey) :
    let h' := get_or (apply_steps held (Ledger.release_steps sources)) a Held.default
    let h := get_or held a Held.default
    h'.pending.val = h.pending.val - demand sources a ∧ h'.consumed = h.consumed := by
  induction sources generalizing held with
  | nil => simp [Ledger.release_steps, apply_steps]
  | cons s ss ih =>
    have hstep : Ledger.release_steps (s :: ss) =
        s.steps [.release s.amount] ++ Ledger.release_steps ss := rfl
    simp only [hstep, apply_steps_append, demand_cons]
    obtain ⟨hp, hc⟩ := ih (apply_steps held (s.steps [.release s.amount]))
    rw [hp, hc, get_or_apply_source]
    split
    · refine ⟨?_, rfl⟩
      simp only [List.foldl_cons, List.foldl_nil, HoldStep.apply, U256.saturating_sub_val]
      omega
    · exact ⟨by omega, rfl⟩

/-- Settling a source set moves its demand out of `pending` and what was really
    pulled into `consumed`. -/
theorem post_held (held : BTreeMap AccountKey Held) {sources : List ReservationSource}
    (filled : List U256) (hlen : filled.length = sources.length) (a : AccountKey) :
    let h' := get_or (apply_steps held (Ledger.post_steps sources filled)) a Held.default
    let h := get_or held a Held.default
    h'.pending.val = h.pending.val - demand sources a ∧
      h'.consumed.val =
        min (h.consumed.val + fill_demand sources filled a) (2 ^ 256 - 1) := by
  induction sources generalizing held filled with
  | nil =>
    have := (get_or held a Held.default).consumed.isLt
    simp only [Ledger.post_steps, List.zip_nil_left, List.flatMap_nil, apply_steps,
      List.foldl_nil, demand_nil, fill_demand_nil]
    omega
  | cons s ss ih =>
    cases filled with
    | nil => simp at hlen
    | cons f fs =>
      have hstep : Ledger.post_steps (s :: ss) (f :: fs) =
          s.steps [.release s.amount, .consume f] ++ Ledger.post_steps ss fs := rfl
      simp only [hstep, apply_steps_append, demand_cons, fill_demand_cons]
      obtain ⟨hp, hc⟩ := ih (apply_steps held (s.steps [.release s.amount, .consume f])) fs
        (by simpa using hlen)
      rw [hp, hc, get_or_apply_source]
      split
      · simp only [List.foldl_cons, List.foldl_nil, HoldStep.apply, U256.saturating_sub_val,
          U256.saturating_add_val]
        omega
      · omega

/-- Taking a settlement back takes its fills out of `consumed`. -/
theorem reorg_held (held : BTreeMap AccountKey Held) (sources : List ReservationSource)
    (filled : List U256) (a : AccountKey) :
    let h' := get_or (apply_steps held (Ledger.reorg_steps sources filled)) a Held.default
    let h := get_or held a Held.default
    h'.pending = h.pending ∧
      h'.consumed.val = h.consumed.val - fill_demand sources filled a := by
  induction sources generalizing held filled with
  | nil => simp [Ledger.reorg_steps, apply_steps]
  | cons s ss ih =>
    have hfill : fill_demand (s :: ss) filled a =
        (if a ∈ s.accounts then (filled.headD 0).val else 0) +
          fill_demand ss filled.tail a := by
      cases filled with
      | nil => simp
      | cons f fs => simp
    simp only [Ledger.reorg_steps, apply_steps_append, hfill]
    obtain ⟨hp, hc⟩ := ih (apply_steps held (s.steps [.reverse (filled.headD 0)])) filled.tail
    rw [hp, hc, get_or_apply_source]
    split
    · refine ⟨rfl, ?_⟩
      simp only [List.foldl_cons, List.foldl_nil, HoldStep.apply, U256.saturating_sub_val]
      omega
    · exact ⟨rfl, by omega⟩

/-- A source adds its amount to the demand of its two accounts, once each. -/
theorem get_or_add_source (m : BTreeMap AccountKey U256) (s : ReservationSource)
    (a : AccountKey) :
    get_or ((s.accounts.map fun account => (account, s.amount)).foldl Ledger.add_demand m) a 0 =
      if a ∈ s.accounts then (get_or m a 0).saturating_add s.amount else get_or m a 0 := by
  simp only [ReservationSource.accounts, List.map_cons, List.map_nil, List.foldl_cons,
    List.foldl_nil, Ledger.add_demand, get_or_entry, List.mem_cons, List.not_mem_nil, or_false]
  cases a with
  | WalletBudget m t => simp [eq_comm]
  | StrategyVirtual m h t => simp [eq_comm]

/-- The demand map holds each account's exact demand, clamped once. -/
theorem get_or_aggregate_demand (sources : List ReservationSource) (a : AccountKey) :
    (get_or (Ledger.aggregate_demand sources) a 0).val =
      min (demand sources a) (2 ^ 256 - 1) := by
  have hgen : ∀ (m : BTreeMap AccountKey U256),
      (get_or ((Ledger.demand_entries sources).foldl Ledger.add_demand m) a 0).val =
        min ((get_or m a 0).val + demand sources a) (2 ^ 256 - 1) := by
    induction sources with
    | nil =>
      intro m
      have := (get_or m a 0).isLt
      simp only [Ledger.demand_entries, List.flatMap_nil, List.foldl_nil, demand_nil]
      omega
    | cons s ss ih =>
      intro m
      have hstep : Ledger.demand_entries (s :: ss) =
          (s.accounts.map fun account => (account, s.amount)) ++ Ledger.demand_entries ss := rfl
      rw [hstep, List.foldl_append, ih, demand_cons, get_or_add_source]
      split
      · rw [U256.saturating_add_val]
        omega
      · omega
  have := hgen ∅
  simpa [Ledger.aggregate_demand] using this

/-- The demand map binds each account at most once, so placing a source set
    makes at most one update at an account. -/
theorem restore_steps_at (sources : List ReservationSource) (a : AccountKey) :
    ((Ledger.restore_steps sources).filter fun u => u.1 = a).map Prod.snd =
      ((Ledger.aggregate_demand sources)[a]?.map HoldStep.hold).toList := by
  have hfilter := filter_toList (Ledger.aggregate_demand sources) a
  simp only [Ledger.restore_steps, List.filter_map, List.map_map, Function.comp_def]
  rw [hfilter]
  cases (Ledger.aggregate_demand sources)[a]? <;> rfl

/-- Placing a source set adds its demand to `pending`. -/
theorem restore_held (held : BTreeMap AccountKey Held) (sources : List ReservationSource)
    (a : AccountKey) :
    let h' := get_or (apply_steps held (Ledger.restore_steps sources)) a Held.default
    let h := get_or held a Held.default
    h'.pending.val = min (h.pending.val + demand sources a) (2 ^ 256 - 1) ∧
      h'.consumed = h.consumed := by
  have hd := get_or_aggregate_demand sources a
  have hlt := (get_or held a Held.default).pending.isLt
  simp only [get_or_apply_steps, restore_steps_at]
  unfold get_or at hd
  cases hm : (Ledger.aggregate_demand sources)[a]? with
  | none =>
    rw [hm] at hd
    have hzero : demand sources a = 0 := by
      simp at hd
      omega
    simp only [Option.map_none, Option.toList_none, List.foldl_nil, hzero]
    exact ⟨by omega, trivial⟩
  | some d =>
    rw [hm] at hd
    simp only [Option.getD_some] at hd
    simp only [Option.map_some, Option.toList_some, List.foldl_cons, List.foldl_nil,
      HoldStep.apply, U256.saturating_add_val, hd]
    exact ⟨by omega, trivial⟩

/-! ## The available snapshot -/

/-- The snapshot lists the funded and the held accounts. -/
theorem get_available_snapshot (l : Ledger) (a : AccountKey) :
    l.available_snapshot[a]? =
      if (l.budgets[a]?).isSome ∨ (l.held[a]?).isSome then some (l.available a) else none := by
  unfold Ledger.available_snapshot
  rw [get_foldl_insert]
  simp

/-- An account missing from the snapshot has no room. -/
theorem get_or_available_snapshot (l : Ledger) (a : AccountKey) :
    get_or l.available_snapshot a 0 = l.available a := by
  rw [get_or, get_available_snapshot]
  split
  · rfl
  · rename_i h
    have hbudget : l.budget a = 0 := by
      have hnone : l.budgets[a]? = none := by
        rw [← Option.not_isSome_iff_eq_none]
        exact fun hsome => h (Or.inl hsome)
      simp [Ledger.budget, get_or, hnone]
    apply Fin.ext
    simp [Ledger.available, hbudget]

/-! ## Updates that stay in range -/

/-- No update of the list clamps, each in the state the earlier ones leave. -/
def ClampFree : BTreeMap AccountKey Held → List (AccountKey × HoldStep) → Prop
  | _, [] => True
  | held, u :: us => ¬ u.2.Clamps (get_or held u.1 Held.default) ∧ ClampFree (apply_step held u) us

/-- No addition of `aggregate_demand` clamps. -/
def DemandClampFree : BTreeMap AccountKey U256 → List (AccountKey × U256) → Prop
  | _, [] => True
  | m, d :: ds => (get_or m d.1 0).val + d.2.val < 2 ^ 256 ∧
      DemandClampFree (Ledger.add_demand m d) ds

theorem clampFree_append (held : BTreeMap AccountKey Held)
    (us vs : List (AccountKey × HoldStep)) :
    ClampFree held (us ++ vs) ↔ ClampFree held us ∧ ClampFree (apply_steps held us) vs := by
  induction us generalizing held with
  | nil => simp [ClampFree, apply_steps]
  | cons u us ih =>
    simp only [List.cons_append, ClampFree, ih, and_assoc]
    rfl

/-- No operation of the list clamps on one account's compartments. -/
def OpsClampFree : List HoldStep → Held → Prop
  | [], _ => True
  | op :: ops, h => ¬ op.Clamps h ∧ OpsClampFree ops (op.apply h)

/-- Whether updates clamp is decided account by account. -/
theorem clampFree_iff (held : BTreeMap AccountKey Held) (us : List (AccountKey × HoldStep)) :
    ClampFree held us ↔
      ∀ a, OpsClampFree ((us.filter fun u => u.1 = a).map Prod.snd)
        (get_or held a Held.default) := by
  induction us generalizing held with
  | nil => simp [ClampFree, OpsClampFree]
  | cons u us ih =>
    simp only [ClampFree, ih, apply_step, get_or_entry]
    constructor
    · intro h a
      obtain ⟨hhead, htail⟩ := h
      by_cases hu : u.1 = a
      · subst hu
        have := htail u.1
        simpa [OpsClampFree, hhead] using this
      · have := htail a
        simpa [hu] using this
    · intro h
      constructor
      · have := h u.1
        simp only [decide_true, List.filter_cons_of_pos, List.map_cons, OpsClampFree] at this
        exact this.1
      · intro a
        by_cases hu : u.1 = a
        · subst hu
          have := h u.1
          simp only [decide_true, List.filter_cons_of_pos, List.map_cons, OpsClampFree] at this
          simpa using this.2
        · have := h a
          simpa [hu] using this

theorem clampFree_steps (held : BTreeMap AccountKey Held) (s : ReservationSource)
    (ops : List HoldStep) :
    ClampFree held (s.steps ops) ↔
      ∀ a ∈ s.accounts, OpsClampFree ops (get_or held a Held.default) := by
  rw [clampFree_iff]
  constructor
  · intro h a ha
    have := h a
    rwa [filter_steps, if_pos ha] at this
  · intro h a
    rw [filter_steps]
    split
    · rename_i ha
      exact h a ha
    · trivial

theorem release_clampFree (held : BTreeMap AccountKey Held) (sources : List ReservationSource)
    (h : ∀ a, demand sources a ≤ (get_or held a Held.default).pending.val) :
    ClampFree held (Ledger.release_steps sources) := by
  induction sources generalizing held with
  | nil => trivial
  | cons s ss ih =>
    have hstep : Ledger.release_steps (s :: ss) =
        s.steps [.release s.amount] ++ Ledger.release_steps ss := rfl
    rw [hstep, clampFree_append, clampFree_steps]
    constructor
    · intro a ha
      have := h a
      rw [demand_cons, if_pos ha] at this
      simp only [OpsClampFree, HoldStep.Clamps, and_true]
      omega
    · apply ih
      intro a
      have := h a
      rw [demand_cons] at this
      rw [get_or_apply_source]
      split
      · rename_i ha
        rw [if_pos ha] at this
        simp only [List.foldl_cons, List.foldl_nil, HoldStep.apply, U256.saturating_sub_val]
        omega
      · omega

theorem post_clampFree (held : BTreeMap AccountKey Held) (sources : List ReservationSource)
    (filled : List U256)
    (hp : ∀ a, demand sources a ≤ (get_or held a Held.default).pending.val)
    (hc : ∀ a, (get_or held a Held.default).consumed.val + fill_demand sources filled a <
      2 ^ 256) :
    ClampFree held (Ledger.post_steps sources filled) := by
  induction sources generalizing held filled with
  | nil => simp [Ledger.post_steps, ClampFree]
  | cons s ss ih =>
    cases filled with
    | nil => simp [Ledger.post_steps, ClampFree]
    | cons f fs =>
      have hstep : Ledger.post_steps (s :: ss) (f :: fs) =
          s.steps [.release s.amount, .consume f] ++ Ledger.post_steps ss fs := rfl
      rw [hstep, clampFree_append, clampFree_steps]
      constructor
      · intro a ha
        have hpa := hp a
        have hca := hc a
        rw [demand_cons, if_pos ha] at hpa
        rw [fill_demand_cons, if_pos ha] at hca
        simp only [OpsClampFree, HoldStep.Clamps, HoldStep.apply, and_true]
        omega
      · apply ih
        · intro a
          have hpa := hp a
          rw [demand_cons] at hpa
          rw [get_or_apply_source]
          split
          · rename_i ha
            rw [if_pos ha] at hpa
            simp only [List.foldl_cons, List.foldl_nil, HoldStep.apply,
              U256.saturating_sub_val]
            omega
          · omega
        · intro a
          have hca := hc a
          rw [fill_demand_cons] at hca
          rw [get_or_apply_source]
          split
          · rename_i ha
            rw [if_pos ha] at hca
            simp only [List.foldl_cons, List.foldl_nil, HoldStep.apply,
              U256.saturating_add_val]
            omega
          · omega

theorem reorg_clampFree (held : BTreeMap AccountKey Held) (sources : List ReservationSource)
    (filled : List U256)
    (h : ∀ a, fill_demand sources filled a ≤ (get_or held a Held.default).consumed.val) :
    ClampFree held (Ledger.reorg_steps sources filled) := by
  induction sources generalizing held filled with
  | nil => trivial
  | cons s ss ih =>
    have hfill : ∀ a, fill_demand (s :: ss) filled a =
        (if a ∈ s.accounts then (filled.headD 0).val else 0) +
          fill_demand ss filled.tail a := by
      intro a
      cases filled with
      | nil => simp
      | cons f fs => simp
    rw [Ledger.reorg_steps, clampFree_append, clampFree_steps]
    constructor
    · intro a ha
      have := h a
      rw [hfill, if_pos ha] at this
      simp only [OpsClampFree, HoldStep.Clamps, and_true]
      omega
    · apply ih
      intro a
      have := h a
      rw [hfill] at this
      rw [get_or_apply_source]
      split
      · rename_i ha
        rw [if_pos ha] at this
        simp only [List.foldl_cons, List.foldl_nil, HoldStep.apply, U256.saturating_sub_val]
        omega
      · omega

theorem demandClampFree_append (m : BTreeMap AccountKey U256)
    (ds es : List (AccountKey × U256)) :
    DemandClampFree m (ds ++ es) ↔
      DemandClampFree m ds ∧ DemandClampFree (ds.foldl Ledger.add_demand m) es := by
  induction ds generalizing m with
  | nil => simp [DemandClampFree]
  | cons d ds ih => simp [DemandClampFree, ih, and_assoc]

theorem demandClampFree_entries (sources : List ReservationSource)
    (m : BTreeMap AccountKey U256)
    (h : ∀ a, (get_or m a 0).val + demand sources a < 2 ^ 256) :
    DemandClampFree m (Ledger.demand_entries sources) := by
  induction sources generalizing m with
  | nil => trivial
  | cons s ss ih =>
    have hstep : Ledger.demand_entries (s :: ss) =
        (s.accounts.map fun account => (account, s.amount)) ++ Ledger.demand_entries ss := rfl
    rw [hstep, demandClampFree_append]
    constructor
    · have hw := h (.WalletBudget s.maker s.token)
      have hv := h (.StrategyVirtual s.maker s.strategy_hash s.token)
      rw [demand_cons, if_pos (by simp [ReservationSource.accounts])] at hw hv
      simp only [ReservationSource.accounts, List.map_cons, List.map_nil, DemandClampFree,
        Ledger.add_demand, get_or_entry, reduceCtorEq, if_false, and_true]
      omega
    · apply ih
      intro a
      have ha := h a
      rw [demand_cons] at ha
      rw [get_or_add_source]
      split
      · rename_i hmem
        rw [if_pos hmem] at ha
        rw [U256.saturating_add_val]
        omega
      · omega

/-- Placing a source set whose demand still fits clamps nowhere, neither in the
    demand sums nor in the compartments. -/
theorem restore_clampFree (held : BTreeMap AccountKey Held) (sources : List ReservationSource)
    (h : ∀ a, (get_or held a Held.default).pending.val + demand sources a < 2 ^ 256) :
    DemandClampFree ∅ (Ledger.demand_entries sources) ∧
      ClampFree held (Ledger.restore_steps sources) := by
  constructor
  · apply demandClampFree_entries
    intro a
    have := h a
    simp only [get_or_empty]
    show 0 + _ < _
    omega
  · rw [clampFree_iff]
    intro a
    have ha := h a
    have hd := get_or_aggregate_demand sources a
    rw [restore_steps_at]
    unfold get_or at hd
    cases hm : (Ledger.aggregate_demand sources)[a]? with
    | none => trivial
    | some d =>
      rw [hm] at hd
      simp only [Option.getD_some] at hd
      simp only [Option.map_some, Option.toList_some, OpsClampFree, HoldStep.Clamps, and_true]
      omega

end Solvent
