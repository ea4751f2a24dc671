import Mathlib
import Solvent.Routing.Regular

/-! # Maker groups and wallet floors

    The candidates of one maker form one group, indexed in candidate order and
    holding the maker's wallet. A group whose legs together would overfill the
    wallet gets a positive floor, at which its combined output is below the
    wallet; every other leg's floor is zero.
-/

namespace Solvent

/-! ## Grouping -/

/-- The entries of one maker. -/
def of_maker (es : List (Candidate × ℕ)) (m : MakerId) : List (Candidate × ℕ) :=
  es.filter fun e => e.1.key.maker = m

/-- The leg indices of one maker. -/
def legs_of_maker (candidates : List Candidate) (m : MakerId) : List ℕ :=
  (of_maker candidates.zipIdx m).map Prod.snd

theorem mem_legs_of_maker {candidates : List Candidate} {m : MakerId} {i : ℕ} :
    i ∈ legs_of_maker candidates m ↔ ∃ c, candidates[i]? = some c ∧ c.key.maker = m := by
  unfold legs_of_maker of_maker
  constructor
  · intro h
    obtain ⟨⟨c, j⟩, he, rfl⟩ := List.mem_map.1 h
    obtain ⟨hmem, hm⟩ := List.mem_filter.1 he
    exact ⟨c, List.mem_zipIdx_iff_getElem?.1 hmem, by simpa using hm⟩
  · rintro ⟨c, hc, hm⟩
    refine List.mem_map.2 ⟨(c, i), List.mem_filter.2 ⟨?_, by simpa using hm⟩, rfl⟩
    exact List.mem_zipIdx_iff_getElem?.2 hc

/-- What the grouping pass has recorded for a maker after the entries `es`. -/
def Grouped (es : List (Candidate × ℕ)) (m : MakerId) : Option MakerGroup → Prop
  | none => of_maker es m = []
  | some g => g.indices = (of_maker es m).map Prod.snd ∧
      ∀ w, (∀ e ∈ es, e.1.key.maker = m → e.1.wallet_cap = w) → g.wallet_cap = w

/-- **Step lemma.** One more candidate joins its maker's group and no other. -/
theorem grouped_join {es : List (Candidate × ℕ)} {groups : BTreeMap MakerId MakerGroup}
    (h : ∀ m, Grouped es m groups[m]?) (e : Candidate × ℕ) (m : MakerId) :
    Grouped (es ++ [e]) m (MakerGroups.join groups e)[m]? := by
  unfold MakerGroups.join BTreeMap.entry
  rw [BTreeMap.get_insert]
  by_cases hm : e.1.key.maker = m
  · rw [if_pos hm]
    have hsel : of_maker (es ++ [e]) m = of_maker es m ++ [e] := by
      simp [of_maker, List.filter_append, hm]
    have hg := h m
    rw [hm]
    unfold BTreeMap.get_or
    cases hgroup : groups[m]? with
    | none =>
      rw [hgroup] at hg
      refine ⟨by simp [hsel, show of_maker es m = [] from hg], ?_⟩
      intro w hw
      simp [hw e (by simp) hm]
    | some g =>
      rw [hgroup] at hg
      refine ⟨by simp [hsel, hg.1], ?_⟩
      intro w hw
      have hold := hg.2 w fun e' he' => hw e' (List.mem_append_left _ he')
      simp [hold, hw e (by simp) hm]
  · rw [if_neg hm]
    have hsel : of_maker (es ++ [e]) m = of_maker es m := by
      simp [of_maker, List.filter_append, hm]
    have hg := h m
    cases hgroup : groups[m]? with
    | none =>
      rw [hgroup] at hg
      exact hsel.trans hg
    | some g =>
      rw [hgroup] at hg
      refine ⟨by rw [hg.1, hsel], ?_⟩
      intro w hw
      exact hg.2 w fun e' he' => hw e' (List.mem_append_left _ he')

theorem grouped_foldl (es : List (Candidate × ℕ)) (m : MakerId) :
    Grouped es m (es.foldl MakerGroups.join ∅)[m]? := by
  induction es using List.reverseRecOn generalizing m with
  | nil =>
    rw [List.foldl_nil, Std.ExtTreeMap.getElem?_empty]
    rfl
  | append_singleton es e ih =>
    rw [List.foldl_append]
    exact grouped_join ih e m

/-- **Spec of the grouping.** The groups are the makers' leg lists, each with
    its maker's wallet. -/
theorem mem_groups {candidates : List Candidate} {g : MakerGroup}
    (h : g ∈ (MakerGroups.new candidates).groups) :
    ∃ m, g.indices = legs_of_maker candidates m ∧
      ∀ w, (∀ c ∈ candidates, c.key.maker = m → c.wallet_cap = w) → g.wallet_cap = w := by
  simp only [MakerGroups.new, BTreeMap.values, List.mem_map, Prod.exists] at h
  obtain ⟨m, g', hmem, rfl⟩ := h
  have hget : (MakerGroups.by_maker candidates)[m]? = some g' :=
    Std.ExtTreeMap.mem_toList_iff_getElem?_eq_some.1 hmem
  have hgroup := grouped_foldl candidates.zipIdx m
  unfold MakerGroups.by_maker at hget
  rw [hget] at hgroup
  refine ⟨m, hgroup.1, ?_⟩
  intro w hw
  refine hgroup.2 w ?_
  rintro ⟨c, i⟩ he hm
  exact hw c (List.mem_of_getElem? (List.mem_zipIdx_iff_getElem?.1 he)) hm

theorem exists_group {candidates : List Candidate} {c : Candidate} {i : ℕ}
    (h : candidates[i]? = some c) :
    ∃ g ∈ (MakerGroups.new candidates).groups, i ∈ g.indices := by
  have hmem : i ∈ legs_of_maker candidates c.key.maker := mem_legs_of_maker.2 ⟨c, h, rfl⟩
  have hgroup := grouped_foldl candidates.zipIdx c.key.maker
  cases hget : (candidates.zipIdx.foldl MakerGroups.join ∅)[c.key.maker]? with
  | none =>
    rw [hget] at hgroup
    unfold legs_of_maker at hmem
    rw [show of_maker candidates.zipIdx c.key.maker = [] from hgroup] at hmem
    simp at hmem
  | some g =>
    rw [hget] at hgroup
    refine ⟨g, ?_, by rw [hgroup.1]; exact hmem⟩
    simp only [MakerGroups.new, BTreeMap.values, List.mem_map, Prod.exists]
    exact ⟨_, g, Std.ExtTreeMap.mem_toList_iff_getElem?_eq_some.2 hget, rfl⟩

/-- A leg's group is its maker's. -/
theorem group_indices_of_mem {candidates : List Candidate} {g : MakerGroup} {i : ℕ}
    {c : Candidate} (hg : g ∈ (MakerGroups.new candidates).groups) (hi : i ∈ g.indices)
    (hc : candidates[i]? = some c) :
    g.indices = legs_of_maker candidates c.key.maker ∧
      ∀ w, (∀ c' ∈ candidates, c'.key.maker = c.key.maker → c'.wallet_cap = w) →
        g.wallet_cap = w := by
  obtain ⟨m, hind, hwallet⟩ := mem_groups hg
  rw [hind, mem_legs_of_maker] at hi
  obtain ⟨c', hc', hm⟩ := hi
  rw [hc] at hc'
  cases hc'
  subst hm
  exact ⟨hind, hwallet⟩

/-- The reverse index finds the group that holds a leg. -/
theorem group_of_spec {candidates : List Candidate} {c : Candidate} {i : ℕ}
    (h : candidates[i]? = some c) :
    (MakerGroups.new candidates).group_of i ∈ (MakerGroups.new candidates).groups ∧
      i ∈ ((MakerGroups.new candidates).group_of i).indices := by
  have hi : i < (List.replicate candidates.length 0).length := by
    rw [List.length_replicate]
    exact (List.getElem?_eq_some_iff.1 h).1
  obtain ⟨g, hg, hig⟩ := exists_group h
  rcases Vec.getD_foldl_writes (fun e : MakerGroup × ℕ => e.1.indices) (fun e _ => e.2) 0
    (MakerGroups.new candidates).groups.zipIdx (List.replicate candidates.length 0) hi with
    ⟨⟨g', gi⟩, hmem, hslot, hvalue⟩ | ⟨hnone, -⟩
  · have hget := List.mem_zipIdx_iff_getElem?.1 hmem
    have hgroup : (MakerGroups.new candidates).group_of i = g' := by
      unfold MakerGroups.group_of
      rw [show (MakerGroups.new candidates).group_by_leg.getD i 0 = gi from hvalue,
        List.getD_eq_getElem?_getD, hget]
      rfl
    rw [hgroup]
    exact ⟨List.mem_of_getElem? hget, hslot⟩
  · obtain ⟨gi, hgi⟩ := List.mem_iff_getElem?.1 hg
    exact absurd hig (hnone (g, gi) (List.mem_zipIdx_iff_getElem?.2 hgi))

/-! ## Budgets and floors -/

theorem checked_sub_fold {outputs : List U256} {budget : U256} :
    (outputs.foldlM (fun remaining output => U256.checked_sub remaining output) budget).isNone =
      false ↔ total outputs ≤ budget.val := by
  induction outputs generalizing budget with
  | nil => simp
  | cons o outputs ih =>
    rw [List.foldlM_cons, total_cons]
    cases hsub : U256.checked_sub budget o with
    | none =>
      have hlt : budget.val < o.val := U256.checked_sub_eq_none.1 hsub
      simp only [Option.bind_eq_bind, Option.bind_none, Option.isNone_none, Bool.true_eq_false,
        false_iff]
      omega
    | some rest =>
      have hval := U256.checked_sub_eq_some.1 hsub
      simp only [Option.bind_eq_bind, Option.bind_some]
      rw [ih]
      omega

/-- The budget test is exact, overflow included. -/
theorem exceeds_budget_eq_false {outputs : List U256} {budget : U256} :
    exceeds_budget outputs budget = false ↔ total outputs ≤ budget.val :=
  checked_sub_fold

/-- A group the floors pass binds. -/
def Binds (candidates : List Candidate) (bounds : List U256) (g : MakerGroup) : Prop :=
  2 ≤ g.indices.length ∧ exceeds_budget (group_fills candidates bounds g 0) g.wallet_cap = true

instance (candidates : List Candidate) (bounds : List U256) (g : MakerGroup) :
    Decidable (Binds candidates bounds g) := instDecidableAnd

theorem floor_group_eq (candidates : List Candidate) (bounds : List U256) (v : List Ratio)
    (g : MakerGroup) :
    floor_group candidates bounds v g =
      (if Binds candidates bounds g then g.indices else []).foldl
        (fun v i => v.set i (group_floor_level candidates bounds g)) v := by
  unfold floor_group
  by_cases hbinds : Binds candidates bounds g
  · have hlen : ¬ g.indices.length < 2 := not_lt.2 hbinds.1
    rw [if_neg hlen, if_pos hbinds.2, if_pos hbinds]
  · rw [if_neg hbinds]
    by_cases hlen : g.indices.length < 2
    · rw [if_pos hlen]
      rfl
    · rw [if_neg hlen, if_neg fun hexceeds => hbinds ⟨not_lt.1 hlen, hexceeds⟩]
      rfl

/-- **Spec of the floors.** A leg's floor is its group's level where the group
    binds, and zero elsewhere. -/
theorem floor_spec {candidates : List Candidate} (target : U256) (kind : FillKind) {i : ℕ}
    {c : Candidate} (h : candidates[i]? = some c) :
    (∃ g ∈ (MakerGroups.new candidates).groups,
      Binds candidates (input_bounds candidates target kind) g ∧ i ∈ g.indices ∧
      (Book.new candidates target kind).floor i =
        group_floor_level candidates (input_bounds candidates target kind) g) ∨
    ((∀ g ∈ (MakerGroups.new candidates).groups, i ∈ g.indices →
      ¬ Binds candidates (input_bounds candidates target kind) g) ∧
      (Book.new candidates target kind).floor i = 0) := by
  set bounds := input_bounds candidates target kind with hbounds
  have hi : i < (List.replicate candidates.length (0 : Ratio)).length := by
    rw [List.length_replicate]
    exact (List.getElem?_eq_some_iff.1 h).1
  have hfloor : (Book.new candidates target kind).floor i =
      ((MakerGroups.new candidates).groups.foldl
        (fun v g => (if Binds candidates bounds g then g.indices else []).foldl
          (fun v i => v.set i (group_floor_level candidates bounds g)) v)
        (List.replicate candidates.length 0)).getD i 0 := by
    have hstep : floor_group candidates bounds = fun v g =>
        (if Binds candidates bounds g then g.indices else []).foldl
          (fun v i => v.set i (group_floor_level candidates bounds g)) v := by
      funext v g
      exact floor_group_eq candidates bounds v g
    show (wallet_floors candidates bounds (MakerGroups.new candidates)).getD i 0 = _
    rw [wallet_floors, hstep]
  rcases Vec.getD_foldl_writes
    (fun g : MakerGroup => if Binds candidates bounds g then g.indices else [])
    (fun g _ => group_floor_level candidates bounds g) 0 (MakerGroups.new candidates).groups
    (List.replicate candidates.length 0) hi with ⟨g, hg, hslot, hvalue⟩ | ⟨hnone, hvalue⟩
  · by_cases hbinds : Binds candidates bounds g
    · rw [if_pos hbinds] at hslot
      exact .inl ⟨g, hg, hbinds, hslot, hfloor.trans hvalue⟩
    · rw [if_neg hbinds] at hslot
      simp at hslot
  · refine .inr ⟨?_, hfloor.trans (hvalue.trans (by simp))⟩
    intro g hg hig hbinds
    have := hnone g hg
    rw [if_pos hbinds] at this
    exact this hig

theorem price_upper_pos (candidates : List Candidate) : 0 < price_upper candidates := by
  have hmax : (0 : Ratio) < Ratio.from_word U256.MAX := by
    show (0 : Ratio) < U256.MAX.val
    rw [U256.MAX_val]
    exact_mod_cast (by norm_num)
  unfold price_upper Ratio.doubled
  simp only
  set prices := (candidates.filterMap fun c => c.marginal_price.toOption).filter (· ≠ 0)
    with hprices
  have hpos : 0 < (max_price prices).getD (Ratio.from_word U256.MAX) := by
    cases hlist : prices with
    | nil => exact hmax
    | cons p ps =>
      -- The greatest price is at least the first, which is not zero.
      have hp : p ≠ 0 := by
        have hmem : p ∈ prices := by simp [hlist]
        rw [hprices, List.mem_filter] at hmem
        simpa using hmem.2
      have hfold : ∀ (qs : List Ratio) (q : Ratio), q ≤ qs.foldl max q := by
        intro qs
        induction qs with
        | nil => exact fun q => le_rfl
        | cons r qs ih => exact fun q => (le_max_left q r).trans (ih (max q r))
      exact (pos_of_ne_zero hp).trans_le (hfold ps p)
  positivity

/-- A group delivers less than any wallet at `top_level`. -/
theorem group_output_top (candidates : List Candidate) (bounds : List U256) {g : MakerGroup}
    (hwallet : g.wallet_cap ≠ 0) :
    group_output_at_level candidates bounds g top_level < g.wallet_cap := by
  have hzero : total (group_fills candidates bounds g top_level) = 0 := by
    unfold total
    rw [List.sum_eq_zero_iff]
    intro n hn
    obtain ⟨o, ho, rfl⟩ := List.mem_map.1 hn
    obtain ⟨i, -, hfill⟩ := List.mem_filterMap.1 ho
    obtain ⟨c, -, rfl⟩ := Option.map_eq_some_iff.1 hfill
    rw [fill_output_top]
    rfl
  have hne : g.wallet_cap.val ≠ 0 := fun h0 => hwallet (U256.eq_zero_iff.2 h0)
  show (U256.saturating_sum _).val < g.wallet_cap.val
  rw [saturating_sum_total, hzero]
  omega

/-- A binding group's level is positive and its combined output there is below
    the wallet. -/
theorem group_floor_spec {candidates : List Candidate} {bounds : List U256} {g : MakerGroup}
    (hwallet : g.wallet_cap ≠ 0) :
    0 < group_floor_level candidates bounds g ∧
      total (group_fills candidates bounds g (group_floor_level candidates bounds g)) <
        g.wallet_cap.val := by
  refine ⟨bracket_level_hi_pos (price_upper_pos _), ?_⟩
  have htop := group_output_top candidates bounds hwallet
  exact total_lt_of_saturating_sum
    (bracket_level_under none (price_upper (g.indices.filterMap (candidates[·]?))) htop)

end Solvent
