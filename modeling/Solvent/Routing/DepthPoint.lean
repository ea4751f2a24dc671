import Mathlib
import Solvent.Routing.Liquidity

/-! # What a depth point keeps to

    A maker's legs are either frozen together, at outputs that make up its wallet
    exactly, or all live. The live legs of a maker stay within its wallet as long
    as its combined fill does not grow with the level: at full fill where it was
    never bound, at the binding level where it was.
-/

namespace Solvent

/-! ## The polish -/

/-- A venue the polish may select: one whose cap takes the whole wallet. -/
def TakesWallet (candidates : List Candidate) (indices : List ℕ) (wallet : U256) (i : ℕ) : Prop :=
  i ∈ indices ∧ ∃ c, candidates[i]? = some c ∧ wallet ≤ c.cap_out

theorem polish_step_selected {candidates : List Candidate} {wallet : U256} {p : Polish} {i s : ℕ}
    (h : (polish_step candidates wallet p i).selected = some s) :
    p.selected = some s ∨ (s = i ∧ ∃ c, candidates[i]? = some c ∧ wallet ≤ c.cap_out) := by
  unfold polish_step at h
  split at h
  case h_1 => exact .inl h
  case h_2 c hc =>
    split at h
    case isTrue => exact .inl h
    case isFalse hcap =>
      split at h
      case h_1 => exact .inl h
      case h_2 input _ =>
        split at h
        case isTrue => exact .inl h
        case isFalse =>
          split at h
          case isTrue =>
            obtain rfl := Option.some.inj h
            exact .inr ⟨rfl, c, hc, not_lt.mp hcap⟩
          case isFalse => exact .inl h

/-- **Run lemma.** The polish selects one of its venues with room for the wallet. -/
theorem polish_selected {candidates : List Candidate} {wallet : U256} (indices : List ℕ)
    {p : Polish} (hp : p.selected = none) {s : ℕ}
    (h : (indices.foldl (polish_step candidates wallet) p).selected = some s) :
    TakesWallet candidates indices wallet s := by
  induction indices using List.reverseRecOn generalizing s with
  | nil =>
    rw [List.foldl_nil, hp] at h
    cases h
  | append_singleton indices i ih =>
    rw [List.foldl_append, List.foldl_cons, List.foldl_nil] at h
    rcases polish_step_selected h with hbefore | ⟨rfl, hroom⟩
    · obtain ⟨hmem, hroom⟩ := ih hbefore
      exact ⟨List.mem_append_left _ hmem, hroom⟩
    · exact ⟨by simp, hroom⟩

/-- The polish leaves the outputs or gives the whole wallet to one venue. -/
theorem polish_spec (candidates : List Candidate) {indices : List ℕ} {outputs : List U256}
    (wallet : U256) (hrange : ∀ i ∈ indices, i < outputs.length) :
    (polish_wallet_fill candidates indices outputs wallet).length = outputs.length ∧
      (polish_wallet_fill candidates indices outputs wallet = outputs ∨
        ∃ s, TakesWallet candidates indices wallet s ∧
          ∀ i ∈ indices, at_leg (polish_wallet_fill candidates indices outputs wallet) i =
            if i = s then wallet else 0) := by
  unfold polish_wallet_fill
  split
  case h_1 s hs =>
    have htakes := polish_selected indices rfl hs
    refine ⟨by rw [List.length_set, Vec.length_foldl_set], .inr ⟨s, htakes, ?_⟩⟩
    intro i hi
    rw [at_leg_set, Vec.length_foldl_set]
    by_cases his : i = s
    · rw [if_pos ⟨his.symm, hrange s htakes.1⟩, if_pos his]
    · rw [if_neg fun h => his h.1.symm, if_neg his, at_leg,
        Vec.getD_foldl_set indices (fun _ => 0), if_pos ⟨hi, hrange i hi⟩]
  case h_2 => exact ⟨rfl, .inl rfl⟩

/-- Only one index counts in a sum over distinct indices. -/
theorem sum_single {indices : List ℕ} (hnodup : indices.Nodup) {s : ℕ} (hs : s ∈ indices)
    (w : U256) : (indices.map fun i => (if i = s then w else 0 : U256).val).sum = w.val := by
  induction indices with
  | nil => cases hs
  | cons i indices ih =>
    obtain ⟨hi, hnodup'⟩ := List.nodup_cons.mp hnodup
    have hzero : (0 : U256).val = 0 := rfl
    rw [List.map_cons, List.sum_cons]
    by_cases his : i = s
    · subst his
      have hrest : (indices.map fun j => (if j = i then w else 0 : U256).val).sum = 0 := by
        rw [List.sum_eq_zero_iff]
        intro n hn
        obtain ⟨j, hj, rfl⟩ := List.mem_map.mp hn
        rw [if_neg (by rintro rfl; exact hi hj), hzero]
      rw [if_pos rfl, hrest, Nat.add_zero]
    · have hmem : s ∈ indices := (List.mem_cons.mp hs).resolve_left (Ne.symm his)
      rw [if_neg his, ih hnodup' hmem, hzero, Nat.zero_add]

/-! ## Maker groups -/

/-- A maker is recorded only with a venue of its own. -/
theorem maker_of_key {es : List (Candidate × ℕ)} {m : MakerId} {g : MakerGroup}
    (h : (es.foldl MakerGroups.join ∅)[m]? = some g) : ∃ e ∈ es, e.1.key.maker = m := by
  induction es using List.reverseRecOn generalizing g with
  | nil =>
    rw [List.foldl_nil, Std.ExtTreeMap.getElem?_empty] at h
    cases h
  | append_singleton es e ih =>
    rw [List.foldl_append, List.foldl_cons, List.foldl_nil] at h
    unfold MakerGroups.join BTreeMap.entry at h
    rw [BTreeMap.get_insert] at h
    split at h
    case isTrue hm => exact ⟨e, by simp, hm⟩
    case isFalse =>
      obtain ⟨e', he', hm⟩ := ih h
      exact ⟨e', List.mem_append_left _ he', hm⟩

theorem mem_groups_key {candidates : List Candidate} {g : MakerGroup}
    (h : g ∈ (MakerGroups.new candidates).groups) :
    ∃ m, (MakerGroups.by_maker candidates)[m]? = some g ∧
      g.indices = legs_of_maker candidates m := by
  simp only [MakerGroups.new, BTreeMap.values, List.mem_map, Prod.exists] at h
  obtain ⟨m, g', hmem, rfl⟩ := h
  have hget : (MakerGroups.by_maker candidates)[m]? = some g' :=
    Std.ExtTreeMap.mem_toList_iff_getElem?_eq_some.1 hmem
  have hgroup := grouped_foldl candidates.zipIdx m
  rw [show (candidates.zipIdx.foldl MakerGroups.join ∅)[m]? = some g' from hget] at hgroup
  exact ⟨m, hget, hgroup.1⟩

/-- An index is in one group only. -/
theorem group_unique {candidates : List Candidate} {g g' : MakerGroup}
    (hg : g ∈ (MakerGroups.new candidates).groups) (hg' : g' ∈ (MakerGroups.new candidates).groups)
    {i : ℕ} (hi : i ∈ g.indices) (hi' : i ∈ g'.indices) : g = g' := by
  obtain ⟨m, hget, hind⟩ := mem_groups_key hg
  obtain ⟨m', hget', hind'⟩ := mem_groups_key hg'
  rw [hind, mem_legs_of_maker] at hi
  rw [hind', mem_legs_of_maker] at hi'
  obtain ⟨c, hc, hm⟩ := hi
  obtain ⟨c', hc', hm'⟩ := hi'
  obtain rfl := Option.some.inj (hc.symm.trans hc')
  rw [← hm, hm'] at hget
  exact Option.some.inj (hget.symm.trans hget')

theorem group_nodup {candidates : List Candidate} {g : MakerGroup}
    (hg : g ∈ (MakerGroups.new candidates).groups) : g.indices.Nodup := by
  obtain ⟨m, -, hind⟩ := mem_groups_key hg
  rw [hind]
  exact nodup_legs_of_maker candidates m

theorem group_index_lt {candidates : List Candidate} {g : MakerGroup}
    (hg : g ∈ (MakerGroups.new candidates).groups) {i : ℕ} (hi : i ∈ g.indices) :
    i < candidates.length := by
  obtain ⟨m, -, hind⟩ := mem_groups_key hg
  rw [hind, mem_legs_of_maker] at hi
  obtain ⟨c, hc, -⟩ := hi
  exact (List.getElem?_eq_some_iff.mp hc).1

theorem groups_nodup (candidates : List Candidate) :
    (MakerGroups.new candidates).groups.Nodup := by
  have hkeys : (MakerGroups.by_maker candidates).toList.Pairwise fun a b => a.1 ≠ b.1 := by
    refine (Std.ExtTreeMap.distinct_keys_toList (t := MakerGroups.by_maker candidates)).imp ?_
    intro a b hne heq
    exact hne (compare_eq_iff_eq.mpr heq)
  show ((MakerGroups.by_maker candidates).toList.map Prod.snd).Nodup
  rw [List.Nodup, List.pairwise_map]
  refine hkeys.imp_of_mem ?_
  rintro ⟨m, g⟩ ⟨m', g'⟩ hmem hmem' hne (rfl : g = g')
  -- The common group has an index, whose maker would be both.
  have hget := Std.ExtTreeMap.mem_toList_iff_getElem?_eq_some.1 hmem
  have hget' := Std.ExtTreeMap.mem_toList_iff_getElem?_eq_some.1 hmem'
  obtain ⟨⟨c, i⟩, he, hm⟩ := maker_of_key hget
  have hgroup := grouped_foldl candidates.zipIdx m
  have hgroup' := grouped_foldl candidates.zipIdx m'
  rw [show (candidates.zipIdx.foldl MakerGroups.join ∅)[m]? = some g from hget] at hgroup
  rw [show (candidates.zipIdx.foldl MakerGroups.join ∅)[m']? = some g from hget'] at hgroup'
  have hi : i ∈ legs_of_maker candidates m' := by
    have hmem : i ∈ (of_maker candidates.zipIdx m).map Prod.snd :=
      List.mem_map.mpr ⟨(c, i), List.mem_filter.mpr ⟨he, by simpa using hm⟩, rfl⟩
    rw [← hgroup.1, hgroup'.1] at hmem
    exact hmem
  obtain ⟨c', hc', hm'⟩ := mem_legs_of_maker.mp hi
  obtain rfl := Option.some.inj ((List.mem_zipIdx_iff_getElem?.mp he).symm.trans hc')
  exact hne (hm.symm.trans hm')

/-! ## Frozen makers -/

namespace Liquidity

/-- A group whose legs together exceed its wallet at full fill. -/
def Binding (l : Liquidity) (g : MakerGroup) : Prop :=
  exceeds_budget (g.indices.map (at_leg (l.outputs 0))) g.wallet_cap = true

instance (l : Liquidity) : DecidablePred l.Binding := fun g => by
  unfold Binding
  infer_instance

theorem output_le_cap (l : Liquidity) {i : ℕ} {c : Candidate} (h : l.candidates[i]? = some c)
    (level : Ratio) : l.output i level ≤ c.cap_out := by
  unfold output
  rw [h]
  exact min_le_right _ _

theorem at_leg_outputs (l : Liquidity) {i : ℕ} (hi : i < l.candidates.length) (level : Ratio) :
    at_leg (l.outputs level) i = l.output i level := by
  unfold outputs at_leg
  rw [List.getD_eq_getElem?_getD, List.getElem?_map, List.getElem?_range hi]
  rfl

/-- The frozen outputs of a group: within the caps, and the wallet together. -/
structure FrozenAt (l : Liquidity) (g : MakerGroup) (o : ℕ → U256) : Prop where
  within : ∀ i ∈ g.indices, ∀ c, l.candidates[i]? = some c → o i ≤ c.cap_out
  wallet : (g.indices.map fun i => (o i).val).sum = g.wallet_cap.val

/-- The boundary that freezes a group at `o`. -/
def boundary (l : Liquidity) (g : MakerGroup) (o : ℕ → U256) : WalletBoundary :=
  { binding_level := (l.group_bracket g).hi
    capped_outputs := g.indices.map fun i => (i, o i) }

theorem binding_iff {l : Liquidity} {g : MakerGroup}
    (hrange : ∀ i ∈ g.indices, i < l.candidates.length) :
    l.Binding g ↔ g.wallet_cap.val < (g.indices.map fun i => (l.output i 0).val).sum := by
  have hfull : total (g.indices.map (at_leg (l.outputs 0))) =
      (g.indices.map fun i => (l.output i 0).val).sum := by
    unfold total
    rw [List.map_map]
    exact congrArg List.sum (List.map_congr_left fun i hi => by
      rw [Function.comp_apply, l.at_leg_outputs (hrange i hi) 0])
  unfold Binding
  rw [← hfull, ← Nat.not_le, ← exceeds_budget_eq_false]
  simp

/-- The combined fill of a binding group at the low side reaches its wallet. -/
theorem wallet_le_group_output {l : Liquidity} {g : MakerGroup} (hbinding : l.Binding g)
    (hrange : ∀ i ∈ g.indices, i < l.candidates.length) :
    g.wallet_cap.val ≤ (g.indices.map fun i => (l.output i (l.group_bracket g).lo).val).sum := by
  have hexceeds := (binding_iff hrange).mp hbinding
  have hlt := g.wallet_cap.isLt
  have hsum : ∀ level, (l.group_output g level).val =
      min (g.indices.map fun i => (l.output i level).val).sum (2 ^ 256 - 1) := by
    intro level
    show (U256.saturating_sum (g.indices.map fun i => l.output i level)).val = _
    rw [saturating_sum_total, total, List.map_map]
    rfl
  have hzero : g.wallet_cap ≤ l.group_output g 0 := by
    rw [Fin.le_def, hsum]
    omega
  have hmeets : g.wallet_cap ≤ l.group_output g (l.group_bracket g).lo :=
    bracket_level_meets none _ hzero
  rw [Fin.le_def, hsum] at hmeets
  exact hmeets.trans (min_le_left _ _)

/-- **Freezing one group.** -/
theorem bind_group_spec (l : Liquidity) {state : List U256 × List WalletBoundary} {g : MakerGroup}
    (hnodup : g.indices.Nodup) (hrange : ∀ i ∈ g.indices, i < l.candidates.length)
    (hlen : state.1.length = l.candidates.length) :
    (l.bind_group (l.outputs 0) state g).1.length = l.candidates.length ∧
      (¬l.Binding g → (l.bind_group (l.outputs 0) state g).2 = state.2) ∧
      (l.Binding g → ∃ o, l.FrozenAt g o ∧
        (l.bind_group (l.outputs 0) state g).2 = state.2 ++ [l.boundary g o]) := by
  unfold bind_group
  split
  case isFalse hfree =>
    exact ⟨hlen, fun _ => rfl, fun hbinding => absurd hbinding hfree⟩
  case isTrue hbinding =>
    simp only
    set reached := g.indices.foldl
      (fun outputs i => outputs.set i (l.output i (l.group_bracket g).lo)) state.1 with hreached
    set trimmed := trim_to_total l.candidates reached g.wallet_cap g.indices
    have hlen₁ : reached.length = l.candidates.length := by
      rw [hreached, Vec.length_foldl_set, hlen]
    have hat : ∀ i ∈ g.indices, at_leg reached i = l.output i (l.group_bracket g).lo := by
      intro i hi
      rw [hreached, at_leg, Vec.getD_foldl_set g.indices, if_pos ⟨hi, hlen.symm ▸ hrange i hi⟩]
    have hreach : ∀ i ∈ g.indices, i < reached.length := fun i hi => hlen₁.symm ▸ hrange i hi
    obtain ⟨hlen₂, hle, -, hsum⟩ : trimmed.length = reached.length ∧
        (∀ j, at_leg trimmed j ≤ at_leg reached j) ∧
        (∀ j, j ∉ g.indices → at_leg trimmed j = at_leg reached j) ∧
        total_at trimmed g.indices = min (total_at reached g.indices) g.wallet_cap.val :=
      trim_at_spec l.candidates g.wallet_cap hnodup hreach
    have hkept : ∀ i ∈ g.indices, i < trimmed.length := fun i hi => hlen₂.symm ▸ hreach i hi
    -- The reaching fills cover the wallet, so what the trim keeps is the wallet.
    have htrimmed : total_at trimmed g.indices = g.wallet_cap.val := by
      have hcover : g.wallet_cap.val ≤ total_at reached g.indices :=
        (wallet_le_group_output hbinding hrange).trans_eq
          (congrArg List.sum (List.map_congr_left fun i hi => by rw [hat i hi]))
      omega
    obtain ⟨hlen₃, hpolish⟩ := polish_spec l.candidates g.wallet_cap hkept
    refine ⟨by omega, fun hfree => absurd hbinding hfree, fun _ => ⟨_, ⟨?_, ?_⟩, rfl⟩⟩
    · intro i hi c hc
      rcases hpolish with hsame | ⟨s, htakes, hvalue⟩
      · rw [hsame]
        refine (hle i).trans ?_
        rw [hat i hi]
        exact l.output_le_cap hc _
      · rw [hvalue i hi]
        split
        case isTrue his =>
          subst his
          obtain ⟨-, c', hc', hroom⟩ := htakes
          obtain rfl := Option.some.inj (hc.symm.trans hc')
          exact hroom
        case isFalse => exact Fin.zero_le _
    · rcases hpolish with hsame | ⟨s, htakes, hvalue⟩
      · rw [hsame]
        exact htrimmed
      · rw [← sum_single hnodup htakes.1 g.wallet_cap]
        exact congrArg List.sum (List.map_congr_left fun i hi => by rw [hvalue i hi])

/-- **Run lemma.** The preparation adds one boundary for each binding group. -/
theorem bind_groups_spec (l : Liquidity) (gs : List MakerGroup)
    (hgs : ∀ g ∈ gs, g.indices.Nodup ∧ ∀ i ∈ g.indices, i < l.candidates.length)
    (state : List U256 × List WalletBoundary) (hlen : state.1.length = l.candidates.length) :
    ∃ fs : List (MakerGroup × (ℕ → U256)), fs.map Prod.fst = gs.filter l.Binding ∧
      (∀ f ∈ fs, l.FrozenAt f.1 f.2) ∧
      (gs.foldl (l.bind_group (l.outputs 0)) state).2 =
        state.2 ++ fs.map fun f => l.boundary f.1 f.2 := by
  induction gs generalizing state with
  | nil => exact ⟨[], rfl, by simp, by simp⟩
  | cons g gs ih =>
    obtain ⟨hnodup, hrange⟩ := hgs g (List.mem_cons_self ..)
    obtain ⟨hlen', hfree, hbinds⟩ := l.bind_group_spec hnodup hrange hlen
    obtain ⟨fs, hfs, hfrozen, hrun⟩ := ih (fun g' hg' => hgs g' (List.mem_cons_of_mem g hg')) _ hlen'
    rw [List.foldl_cons]
    by_cases hbinding : l.Binding g
    · obtain ⟨o, ho, hstate⟩ := hbinds hbinding
      refine ⟨(g, o) :: fs, ?_, ?_, ?_⟩
      · rw [List.filter_cons_of_pos (by simpa using hbinding), List.map_cons, hfs]
      · intro f hf
        rcases List.mem_cons.mp hf with rfl | hf
        · exact ho
        · exact hfrozen f hf
      · rw [hrun, hstate, List.append_assoc]
        rfl
    · refine ⟨fs, ?_, hfrozen, ?_⟩
      · rw [List.filter_cons_of_neg (by simpa using hbinding), hfs]
      · rw [hrun, hfree hbinding]

/-- Writing a boundary's outputs, slot by slot. -/
theorem foldl_boundary (l : Liquidity) (g : MakerGroup) (o : ℕ → U256)
    (v : List (Option U256)) :
    (l.boundary g o).capped_outputs.foldl (fun outputs entry => outputs.set entry.1 (some entry.2)) v =
      g.indices.foldl (fun v i => v.set i (some (o i))) v := by
  unfold boundary
  rw [List.foldl_map]

theorem at_leg_capped_outputs (l : Liquidity) {i : ℕ} (level : Ratio)
    (hi : i < (l.frozen level).length) :
    at_leg (l.capped_outputs level) i = ((l.frozen level).getD i none).getD (l.output i level) := by
  unfold capped_outputs at_leg
  rw [List.getD_eq_getElem?_getD, List.getElem?_map, List.getElem?_zipIdx,
    List.getD_eq_getElem?_getD, List.getElem?_eq_getElem hi]
  simp

/-- What a group's legs deliver at a level: frozen together, or all live. -/
inductive GroupAt (l : Liquidity) (g : MakerGroup) (level : Ratio) (outputs : List U256) : Prop where
  | frozen (o : ℕ → U256) (h : l.FrozenAt g o)
      (bound : l.Binding g ∧ level ≤ (l.group_bracket g).hi)
      (at_leg_eq : ∀ i ∈ g.indices, at_leg outputs i = o i)
  | live (h : l.Binding g → (l.group_bracket g).hi < level)
      (at_leg_eq : ∀ i ∈ g.indices, at_leg outputs i = l.output i level)

theorem frozen_length (l : Liquidity) (level : Ratio) :
    (l.frozen level).length = l.candidates.length := by
  unfold frozen
  refine List.foldlRecOn (motive := fun v : List (Option U256) => v.length = l.candidates.length)
    l.wallet_boundaries _ (by simp) ?_
  intro v hv b _
  split
  · refine List.foldlRecOn (motive := fun w : List (Option U256) => w.length = l.candidates.length)
      b.capped_outputs _ hv ?_
    intro w hw e _
    rw [List.length_set, hw]
  · exact hv

/-- The slots the frozen makers write at a level. -/
theorem frozen_eq {l : Liquidity} (base : Liquidity) {fs : List (MakerGroup × (ℕ → U256))}
    (h : l.wallet_boundaries = fs.map fun f => base.boundary f.1 f.2) (level : Ratio) :
    l.frozen level = fs.foldl (fun v f =>
      (if level ≤ (base.group_bracket f.1).hi then f.1.indices else []).foldl
        (fun v i => v.set i (some (f.2 i))) v) (List.replicate l.candidates.length none) := by
  unfold frozen
  rw [h, List.foldl_map]
  congr 1
  funext v f
  by_cases hle : level ≤ (base.group_bracket f.1).hi
  · rw [if_pos hle, if_pos (show level ≤ (base.boundary f.1 f.2).binding_level from hle),
      foldl_boundary]
  · rw [if_neg hle, if_neg (show ¬level ≤ (base.boundary f.1 f.2).binding_level from hle)]
    rfl

theorem group_at (candidates : List Candidate) {g : MakerGroup}
    (hg : g ∈ (MakerGroups.new candidates).groups) (level : Ratio) :
    (unfrozen candidates).GroupAt g level ((new candidates).capped_outputs level) := by
  obtain ⟨fs, hfs, hfrozen, hrun⟩ := (unfrozen candidates).bind_groups_spec
    (MakerGroups.new candidates).groups
    (fun g hg => ⟨group_nodup hg, fun i hi => group_index_lt hg hi⟩)
    (List.replicate candidates.length 0, []) (by simp [unfrozen])
  have hboundaries : (new candidates).wallet_boundaries =
      fs.map fun f => (unfrozen candidates).boundary f.1 f.2 := hrun
  have hmem : ∀ f ∈ fs, f.1 ∈ (MakerGroups.new candidates).groups ∧
      (unfrozen candidates).Binding f.1 := by
    intro f hf
    have hf' : f.1 ∈ fs.map Prod.fst := List.mem_map_of_mem hf
    rw [hfs, List.mem_filter] at hf'
    exact ⟨hf'.1, by simpa using hf'.2⟩
  have hnodup : (fs.map Prod.fst).Nodup := by
    rw [hfs]
    exact (groups_nodup candidates).filter _
  have hlen := (new candidates).frozen_length level
  have hslot : ∀ i ∈ g.indices,
      at_leg ((new candidates).capped_outputs level) i =
        (((new candidates).frozen level).getD i none).getD ((unfrozen candidates).output i level) := by
    intro i hi
    exact (new candidates).at_leg_capped_outputs level (hlen.symm ▸ group_index_lt hg hi)
  -- A slot of this group is written by the group's own boundary or by none.
  have hwrites : ∀ i ∈ g.indices,
      (∃ f ∈ fs, f.1 = g ∧ level ≤ ((unfrozen candidates).group_bracket g).hi ∧
        ((new candidates).frozen level).getD i none = some (f.2 i)) ∨
      ((∀ f ∈ fs, f.1 = g → ¬level ≤ ((unfrozen candidates).group_bracket g).hi) ∧
        ((new candidates).frozen level).getD i none = none) := by
    intro i hi
    have hlt : i < (List.replicate candidates.length (none : Option U256)).length := by
      rw [List.length_replicate]
      exact group_index_lt hg hi
    rw [frozen_eq (unfrozen candidates) hboundaries level]
    rcases Vec.getD_foldl_writes
      (fun f : MakerGroup × (ℕ → U256) =>
        if level ≤ ((unfrozen candidates).group_bracket f.1).hi then f.1.indices else [])
      (fun f i => some (f.2 i)) none fs (List.replicate candidates.length none) hlt with
      ⟨f, hf, hwritten, hvalue⟩ | ⟨hnone, hvalue⟩
    · split at hwritten
      case isTrue hle =>
        have hsame := group_unique (hmem f hf).1 hg hwritten hi
        rw [hsame] at hle
        exact .inl ⟨f, hf, hsame, hle, hvalue⟩
      case isFalse => cases hwritten
    · refine .inr ⟨?_, hvalue.trans (by simp)⟩
      intro f hf hsame hle
      refine hnone f hf ?_
      rw [hsame, if_pos hle]
      exact hi
  by_cases hbound : (unfrozen candidates).Binding g ∧
      level ≤ ((unfrozen candidates).group_bracket g).hi
  · obtain ⟨hbinding, hle⟩ := hbound
    have hin : g ∈ fs.map Prod.fst := by
      rw [hfs, List.mem_filter]
      exact ⟨hg, by simpa using hbinding⟩
    obtain ⟨f₀, hf₀, rfl⟩ := List.mem_map.mp hin
    refine .frozen f₀.2 (hfrozen f₀ hf₀) ⟨hbinding, hle⟩ ?_
    intro i hi
    rw [hslot i hi]
    rcases hwrites i hi with ⟨f, hf, hsame, -, hvalue⟩ | ⟨hnone, -⟩
    · have hf' : f = f₀ := List.inj_on_of_nodup_map hnodup hf hf₀ hsame
      rw [hvalue, hf']
      rfl
    · exact absurd hle (hnone f₀ hf₀ rfl)
  · refine .live (fun hbinding => not_le.mp fun hle => hbound ⟨hbinding, hle⟩) ?_
    intro i hi
    rw [hslot i hi]
    rcases hwrites i hi with ⟨f, hf, hsame, hle, -⟩ | ⟨-, hvalue⟩
    · exact absurd ⟨hsame ▸ (hmem f hf).2, hle⟩ hbound
    · rw [hvalue]
      rfl

/-! ## One maker's wallet -/

/-- One maker's combined capped fill, before anything is frozen. -/
def maker_fill (candidates : List Candidate) (m : MakerId) (level : Ratio) : ℕ :=
  ((legs_of_maker candidates m).map fun i => ((unfrozen candidates).output i level).val).sum

/-- The combined fill of a maker with several venues does not grow with the
    level. -/
def CombinedShrinks (candidates : List Candidate) : Prop :=
  ∀ m, 2 ≤ (legs_of_maker candidates m).length → ∀ l l', l ≤ l' →
    maker_fill candidates m l' ≤ maker_fill candidates m l

/-- The caps a snapshot freezes: within the wallet, one wallet a maker. -/
structure Capped (candidates : List Candidate) : Prop where
  cap_le_wallet : ∀ c ∈ candidates, c.cap_out ≤ c.wallet_cap
  one_wallet : ∀ c ∈ candidates, ∀ c' ∈ candidates, c'.key.maker = c.key.maker →
    c'.wallet_cap = c.wallet_cap

theorem Capped.group {candidates : List Candidate} (hcapped : Capped candidates) {g : MakerGroup}
    (hg : g ∈ (MakerGroups.new candidates).groups) {i : ℕ} {c : Candidate} (hi : i ∈ g.indices)
    (hc : candidates[i]? = some c) :
    g.indices = legs_of_maker candidates c.key.maker ∧ g.wallet_cap = c.wallet_cap := by
  obtain ⟨hind, hwallet⟩ := group_indices_of_mem hg hi hc
  exact ⟨hind, hwallet _ fun c' hc' hm =>
    hcapped.one_wallet c (List.mem_of_getElem? hc) c' hc' hm⟩

/-- At the top level nothing is filled. -/
theorem output_top (l : Liquidity) (i : ℕ) : l.output i top_level = 0 := by
  unfold output
  split
  · rename_i c hc
    rw [fill_output_top]
    exact min_eq_left (Fin.zero_le _)
  · rfl

/-- A binding group under-fills its wallet at its binding level. -/
theorem group_output_under (l : Liquidity) {g : MakerGroup} (hwallet : g.wallet_cap ≠ 0) :
    (g.indices.map fun i => (l.output i (l.group_bracket g).hi).val).sum < g.wallet_cap.val := by
  have htop : l.group_output g top_level < g.wallet_cap := by
    have hzero : total (g.indices.map fun i => l.output i top_level) = 0 := by
      unfold total
      rw [List.sum_eq_zero_iff]
      intro n hn
      obtain ⟨q, hq, rfl⟩ := List.mem_map.mp hn
      obtain ⟨i, -, rfl⟩ := List.mem_map.mp hq
      rw [l.output_top]
      rfl
    have hpos : g.wallet_cap.val ≠ 0 := fun h => hwallet (U256.eq_zero_iff.mpr h)
    show (U256.saturating_sum _).val < _
    rw [saturating_sum_total, hzero]
    omega
  have hunder : l.group_output g (l.group_bracket g).hi < g.wallet_cap :=
    bracket_level_under none _ htop
  have htotal := total_lt_of_saturating_sum hunder
  unfold total at htotal
  rw [List.map_map] at htotal
  exact htotal

/-- **Wallet lemma.** The outputs of one maker's legs stay within its wallet. -/
theorem group_le_wallet {candidates : List Candidate} (hcapped : Capped candidates)
    (hshrinks : CombinedShrinks candidates) {g : MakerGroup}
    (hg : g ∈ (MakerGroups.new candidates).groups) (level : Ratio) :
    total_at ((new candidates).capped_outputs level) g.indices ≤ g.wallet_cap.val := by
  have hcap : ∀ i ∈ g.indices, ∀ l, (unfrozen candidates).output i l ≤ g.wallet_cap := by
    intro i hi l
    have hlt := group_index_lt hg hi
    have hc := List.getElem?_eq_getElem hlt
    rw [(hcapped.group hg hi hc).2]
    exact ((unfrozen candidates).output_le_cap hc l).trans
      (hcapped.cap_le_wallet _ (List.getElem_mem hlt))
  have hrange : ∀ i ∈ g.indices, i < (unfrozen candidates).candidates.length :=
    fun i hi => group_index_lt hg hi
  match group_at candidates hg level with
  | .frozen o h _ heq =>
    rw [← h.wallet]
    exact (congrArg List.sum (List.map_congr_left fun i hi => by rw [heq i hi])).le
  | .live hunbound heq =>
    have hlive : total_at ((new candidates).capped_outputs level) g.indices =
        (g.indices.map fun i => ((unfrozen candidates).output i level).val).sum :=
      congrArg List.sum (List.map_congr_left fun i hi => by rw [heq i hi])
    rw [hlive]
    by_cases hlen : 2 ≤ g.indices.length
    · obtain ⟨m, -, hind⟩ := mem_groups_key hg
      rw [hind] at hlen
      have hfill : ∀ l, (g.indices.map fun i => ((unfrozen candidates).output i l).val).sum =
          maker_fill candidates m l := by
        intro l
        rw [hind]
        rfl
      by_cases hbinding : (unfrozen candidates).Binding g
      · have hwallet : g.wallet_cap ≠ 0 := by
          intro hzero
          -- An empty wallet caps every leg at nothing, so nothing exceeds it.
          have hexceeds := (binding_iff hrange).mp hbinding
          have hsum : (g.indices.map fun i => ((unfrozen candidates).output i 0).val).sum = 0 := by
            rw [List.sum_eq_zero_iff]
            intro n hn
            obtain ⟨i, hi, rfl⟩ := List.mem_map.mp hn
            have hle := hcap i hi 0
            rw [hzero] at hle
            exact U256.eq_zero_iff.mp (le_antisymm hle (Fin.zero_le _))
          omega
        have hunder := (unfrozen candidates).group_output_under hwallet
        have hle := hshrinks m hlen _ _ (hunbound hbinding).le
        rw [← hfill, ← hfill] at hle
        omega
      · have hle := hshrinks m hlen 0 level zero_le
        rw [← hfill, ← hfill] at hle
        have hfits := mt (binding_iff hrange).mpr hbinding
        omega
    · -- A single leg is within its wallet by its cap.
      match hindices : g.indices with
      | [] => simp
      | [i] =>
        have hle := hcap i (by rw [hindices]; simp) level
        simpa using hle
      | i :: j :: is =>
        rw [hindices] at hlen
        simp at hlen

end Liquidity

/-! ## The point that is built -/

theorem forall₂_of_mapM {α β : Type} {f : α → Option β} {as : List α} {bs : List β}
    (h : as.mapM f = some bs) : List.Forall₂ (fun a b => f a = some b) as bs := by
  induction as generalizing bs with
  | nil =>
    cases h
    exact .nil
  | cons a as ih =>
    rw [List.mapM_cons] at h
    obtain ⟨b, hb, h⟩ := Option.bind_eq_some_iff.mp h
    obtain ⟨bs', hbs, h⟩ := Option.bind_eq_some_iff.mp h
    cases h
    exact .cons hb (ih hbs)

theorem exists_of_forall₂ {α β : Type} {R : α → β → Prop} {as : List α} {bs : List β}
    (h : List.Forall₂ R as bs) {a : α} (ha : a ∈ as) : ∃ b, R a b := by
  induction h with
  | nil => cases ha
  | cons hab _ ih =>
    rcases List.mem_cons.mp ha with rfl | ha
    · exact ⟨_, hab⟩
    · exact ih ha

theorem total_le_total {as bs : List U256} (hlen : as.length = bs.length)
    (hle : ∀ i, at_leg as i ≤ at_leg bs i) : total as ≤ total bs := by
  rw [← total_at_range as, ← total_at_range bs, hlen]
  exact List.sum_le_sum fun i _ => Fin.le_def.mp (hle i)

/-- What is built never exceeds the outputs asked for. -/
theorem build_representable_spec {candidates : List Candidate} {outputs : List U256}
    {level : Ratio} {split : Split} (hlen : outputs.length = candidates.length)
    (h : build_representable candidates outputs level = some split) :
    ∃ built : List U256, built.length = candidates.length ∧
      (∀ i, at_leg built i ≤ at_leg outputs i) ∧
      build candidates built .ExactOut level = some split := by
  unfold build_representable at h
  simp only at h
  set trimmed := if exceeds_budget outputs U256.MAX then
    trim_to_total candidates outputs U256.MAX (List.range candidates.length) else outputs
    with htrimmed
  have htrim : trimmed.length = candidates.length ∧ ∀ i, at_leg trimmed i ≤ at_leg outputs i := by
    rw [htrimmed]
    split
    · obtain ⟨hlen', hle, -⟩ := trim_spec candidates U256.MAX hlen
      exact ⟨hlen'.trans hlen, hle⟩
    · exact ⟨hlen, fun _ => le_rfl⟩
  split at h
  case h_1 hbuild =>
    cases h
    exact ⟨trimmed, htrim.1, htrim.2, hbuild⟩
  case h_2 =>
    obtain ⟨inputs, hinputs, h⟩ := Option.bind_eq_some_iff.mp h
    obtain ⟨reduced, hreduced, h⟩ := Option.bind_eq_some_iff.mp h
    have hin : inputs.length = candidates.length := by
      rw [← (forall₂_of_mapM hinputs).length_eq, List.length_zip, htrim.1, min_self]
    obtain ⟨hin', -, -⟩ := trim_spec candidates U256.MAX hin
    have hpairs := forall₂_of_mapM hreduced
    have hred : reduced.length = candidates.length := by
      rw [← hpairs.length_eq, List.length_zip, List.length_zip, hin', hin, htrim.1, min_self,
        min_self]
    refine ⟨reduced, hred, fun i => ?_, h⟩
    refine le_trans ?_ (htrim.2 i)
    by_cases hi : i < reduced.length
    · have hpair := hpairs.get (by rw [hpairs.length_eq]; exact hi) hi
      simp only [List.get_eq_getElem, List.getElem_zip] at hpair
      have hat : at_leg reduced i = reduced[i] := List.getD_eq_getElem _ _ hi
      have hat' : at_leg trimmed i = trimmed[i] := List.getD_eq_getElem _ _ (by omega)
      rw [hat, hat']
      split at hpair
      case isTrue =>
        rw [← Option.some.inj hpair]
        exact Fin.zero_le _
      case isFalse =>
        obtain ⟨y, -, hy⟩ := Option.map_eq_some_iff.mp hpair
        rw [← hy]
        exact min_le_left _ _
    · have hat : at_leg reduced i = 0 := List.getD_eq_default _ _ (by omega)
      rw [hat]
      exact Fin.zero_le _

/-- A depth point that keeps to its caps: one exact-out quote per leg within its
    candidate's cap, exact totals, and every maker within its wallet. -/
structure RespectsCaps (candidates : List Candidate) (split : Split) : Prop where
  legs : ∃ chosen : List Candidate, chosen.Sublist candidates ∧
    List.Forall₂ (fun c leg => QuotedLeg .ExactOut c leg ∧ leg.amount_out ≤ c.cap_out) chosen
      split.legs
  wallets : ∀ c ∈ candidates,
    legs_out (split.legs.filter fun leg => leg.maker = c.key.maker) ≤ c.wallet_cap.val
  amount_in : split.amount_in.val = legs_in split.legs
  amount_out : split.amount_out.val = legs_out split.legs

theorem legs_within_caps (ps : List (Candidate × U256)) (hcap : ∀ p ∈ ps, p.2 ≤ p.1.cap_out) :
    ∃ chosen : List Candidate, chosen.Sublist (ps.map Prod.fst) ∧
      List.Forall₂ (fun c leg => QuotedLeg .ExactOut c leg ∧ leg.amount_out ≤ c.cap_out) chosen
        (ps.filterMap (leg_at .ExactOut)) := by
  induction ps with
  | nil => exact ⟨[], List.Sublist.slnil, .nil⟩
  | cons p ps ih =>
    obtain ⟨chosen, hsub, hlegs⟩ := ih fun q hq => hcap q (List.mem_cons_of_mem p hq)
    match hleg : leg_at .ExactOut p with
    | none =>
      rw [List.filterMap_cons_none hleg]
      exact ⟨chosen, hsub.cons _, hlegs⟩
    | some leg =>
      obtain ⟨hquoted, hamount⟩ := leg_at_eq_some hleg
      have hle : leg.amount_out ≤ p.1.cap_out :=
        (show leg.amount_out = p.2 from hamount) ▸ hcap p (List.mem_cons_self ..)
      rw [List.filterMap_cons_some hleg]
      exact ⟨p.1 :: chosen, hsub.cons_cons _, .cons ⟨hquoted, hle⟩ hlegs⟩

namespace Liquidity

theorem capped_outputs_length (l : Liquidity) (level : Ratio) :
    (l.capped_outputs level).length = l.candidates.length := by
  unfold capped_outputs
  rw [List.length_map, List.length_zipIdx, l.frozen_length]

/-- A venue's output, frozen or live, is within its cap. -/
theorem capped_outputs_le (candidates : List Candidate) (level : Ratio) {i : ℕ} {c : Candidate}
    (hc : candidates[i]? = some c) :
    at_leg ((new candidates).capped_outputs level) i ≤ c.cap_out := by
  obtain ⟨g, hg, hi⟩ := exists_group hc
  match group_at candidates hg level with
  | .frozen o h _ heq =>
    rw [heq i hi]
    exact h.within i hi c hc
  | .live _ heq =>
    rw [heq i hi]
    exact (unfrozen candidates).output_le_cap hc level

theorem at_price_respects {candidates : List Candidate} (hcapped : Capped candidates)
    (hshrinks : CombinedShrinks candidates) {level : Ratio} {split : Split}
    (h : (new candidates).at_price level = some split) : RespectsCaps candidates split := by
  obtain ⟨built, hlen, hle, hbuild⟩ :=
    build_representable_spec ((new candidates).capped_outputs_length level) h
  have hbuilt : Built .ExactOut (candidates.zip built) split := build_spec hbuild
  have hlen' : built.length = candidates.length := hlen
  have hcap : ∀ p ∈ candidates.zip built, p.2 ≤ p.1.cap_out := by
    intro p hp
    obtain ⟨i, hi, rfl⟩ := List.mem_iff_getElem.mp hp
    rw [List.length_zip] at hi
    rw [List.getElem_zip]
    have hc := List.getElem?_eq_getElem (show i < candidates.length by omega)
    have hout := (hle i).trans (capped_outputs_le candidates level hc)
    rw [at_leg, List.getD_eq_getElem _ _ (by omega)] at hout
    exact hout
  obtain ⟨chosen, hsub, hlegs⟩ := legs_within_caps _ hcap
  rw [List.map_fst_zip (by omega)] at hsub
  refine ⟨⟨chosen, hsub, by rw [hbuilt.legs]; exact hlegs⟩, ?_, hbuilt.amount_in,
    hbuilt.amount_out⟩
  intro c hc
  obtain ⟨i, hi, hget⟩ := List.mem_iff_getElem.mp hc
  have hci : candidates[i]? = some c := hget ▸ List.getElem?_eq_getElem hi
  obtain ⟨g, hg, hig⟩ := exists_group hci
  obtain ⟨hind, hwallet⟩ := hcapped.group hg hig hci
  rw [hbuilt.legs]
  calc legs_out (((candidates.zip built).filterMap (leg_at .ExactOut)).filter
        fun leg => leg.maker = c.key.maker)
      ≤ ((legs_of_maker candidates c.key.maker).map fun j => (at_leg built j).val).sum := by
        refine legs_out_maker_le (b := fun j => (at_leg built j).val) candidates built 0 ?_
        intro j c' leg _ _ hleg
        have hout : leg.amount_out = at_leg built j := (leg_at_eq_some hleg).2
        rw [hout, Nat.zero_add]
    _ ≤ total_at ((new candidates).capped_outputs level) g.indices := by
        rw [hind]
        exact List.sum_le_sum fun j _ => Fin.le_def.mp (hle j)
    _ ≤ g.wallet_cap.val := group_le_wallet hcapped hshrinks hg level
    _ = c.wallet_cap.val := congrArg Fin.val hwallet

end Liquidity

/-! ## Constant-product depth -/

namespace Liquidity

/-- On constant product every venue's fill shrinks as the level rises. -/
theorem output_anti {candidates : List Candidate} (hpools : ∀ c ∈ candidates, ∀ p, c.pool ≠ .Pegged p)
    (i : ℕ) {l l' : Ratio} (hle : l ≤ l') :
    (unfrozen candidates).output i l' ≤ (unfrozen candidates).output i l := by
  unfold output
  match hc : (unfrozen candidates).candidates[i]? with
  | none => exact le_rfl
  | some c =>
    have hc' : candidates[i]? = some c := hc
    have hbound : at_leg (unfrozen candidates).bounds i = c.full_input_bound := by
      show at_leg (candidates.map Candidate.full_input_bound) i = _
      rw [at_leg, List.getD_eq_getElem?_getD, List.getElem?_map, hc']
      rfl
    simp only
    rw [hbound]
    have hregular := regular_of_constant_product (hpools c (List.mem_of_getElem? hc'))
    exact min_le_min_right _ (fill_output_anti hregular (full_input_bound_prices c) hle)

theorem combined_shrinks_of_constant_product {candidates : List Candidate}
    (hpools : ∀ c ∈ candidates, ∀ p, c.pool ≠ .Pegged p) : CombinedShrinks candidates := by
  intro m _ l l' hle
  exact List.sum_le_sum fun i _ => Fin.le_def.mp (output_anti hpools i hle)

/-- The amounts of a book, maker by maker. -/
theorem total_eq_groups (candidates : List Candidate) {amounts : List U256}
    (hlen : amounts.length = candidates.length) :
    total amounts =
      ((MakerGroups.new candidates).groups.map fun g => total_at amounts g.indices).sum := by
  have hnodup : ((MakerGroups.new candidates).groups.flatMap MakerGroup.indices).Nodup := by
    rw [List.nodup_flatMap]
    refine ⟨fun g hg => group_nodup hg, ?_⟩
    refine (groups_nodup candidates).imp_of_mem ?_
    intro g g' hg hg' hne i hi hi'
    exact hne (group_unique hg hg' hi hi')
  have hperm : ((MakerGroups.new candidates).groups.flatMap MakerGroup.indices).Perm
      (List.range amounts.length) := by
    rw [List.perm_ext_iff_of_nodup hnodup List.nodup_range]
    intro i
    rw [List.mem_flatMap, List.mem_range, hlen]
    constructor
    · rintro ⟨g, hg, hi⟩
      exact group_index_lt hg hi
    · intro hi
      exact exists_group (List.getElem?_eq_getElem hi)
  rw [← total_at_range, ← total_at_perm hperm]
  generalize (MakerGroups.new candidates).groups = gs
  unfold total_at
  induction gs with
  | nil => rfl
  | cons g gs ih =>
    rw [List.flatMap_cons, List.map_append, List.sum_append, List.map_cons, List.sum_cons, ih]

/-- **Step lemma.** One maker's outputs do not grow with the level: a frozen maker
    delivers its whole wallet. -/
theorem group_anti {candidates : List Candidate} (hcapped : Capped candidates)
    (hpools : ∀ c ∈ candidates, ∀ p, c.pool ≠ .Pegged p) {g : MakerGroup}
    (hg : g ∈ (MakerGroups.new candidates).groups) {l l' : Ratio} (hle : l ≤ l') :
    total_at ((new candidates).capped_outputs l') g.indices ≤
      total_at ((new candidates).capped_outputs l) g.indices := by
  match group_at candidates hg l with
  | .frozen o h _ heq =>
    have hwallet : total_at ((new candidates).capped_outputs l) g.indices = g.wallet_cap.val := by
      rw [← h.wallet]
      exact congrArg List.sum (List.map_congr_left fun i hi => by rw [heq i hi])
    rw [hwallet]
    exact group_le_wallet hcapped (combined_shrinks_of_constant_product hpools) hg l'
  | .live hunbound heq =>
    match group_at candidates hg l' with
    | .frozen _ _ hbound _ =>
      -- A maker live at a level is live above it.
      exact absurd (hle.trans hbound.2) (not_le.mpr (hunbound hbound.1))
    | .live _ heq' =>
      refine List.sum_le_sum fun i hi => ?_
      rw [heq i hi, heq' i hi]
      exact Fin.le_def.mp (output_anti hpools i hle)

/-- The unreduced totals of a point fit a word. -/
def FitsWord (l : Liquidity) (level : Ratio) : Prop :=
  total (l.capped_outputs level) < 2 ^ 256 ∧
    legs_in ((l.candidates.zip (l.capped_outputs level)).filterMap (leg_at .ExactOut)) < 2 ^ 256

/-- A priced output of a constant-product venue becomes a leg. -/
theorem charged_of_prices {candidates : List Candidate}
    (hpools : ∀ c ∈ candidates, ∀ p, c.pool ≠ .Pegged p) {outputs : List U256}
    (hprices : ∀ p ∈ candidates.zip outputs, p.2 ≠ 0 →
      ∃ q, quote_leg .ExactOut p.1 p.2 = some q) :
    ∀ p ∈ candidates.zip outputs, p.2 ≠ 0 → leg_at .ExactOut p ≠ none := by
  rintro ⟨c, output⟩ hp hne
  obtain ⟨q, hq⟩ := hprices _ hp hne
  obtain ⟨input, hinput, -⟩ := Option.map_eq_some_iff.mp hq
  have hquote := Except.toOption_eq_some.mp hinput
  have hpool := hpools c (List.of_mem_zip hp).1
  have hpos : input ≠ 0 := (Candidate.leastInverse hpool).ne_zero hquote hne
  rw [leg_at_exact_out hne hquote hpos]
  exact nofun

/-- A point whose totals fit delivers all of its outputs. -/
theorem amount_out_of_fits {candidates : List Candidate}
    (hpools : ∀ c ∈ candidates, ∀ p, c.pool ≠ .Pegged p) {outputs : List U256} {level : Ratio}
    {split : Split} (hlen : outputs.length = candidates.length)
    (hout : total outputs < 2 ^ 256)
    (hin : legs_in ((candidates.zip outputs).filterMap (leg_at .ExactOut)) < 2 ^ 256)
    (h : build_representable candidates outputs level = some split) :
    split.amount_out.val = total outputs := by
  have hsnd : (candidates.zip outputs).map Prod.snd = outputs := List.map_snd_zip (by omega)
  have hkept : exceeds_budget outputs U256.MAX = false := by
    rw [exceeds_budget_eq_false, U256.MAX_val]
    omega
  obtain ⟨built, hblen, hble, hbuild⟩ := build_representable_spec hlen h
  unfold build_representable at h
  simp only [hkept, Bool.false_eq_true, if_false] at h
  split at h
  case h_1 hdirect =>
    cases h
    have hspec := build_spec hdirect
    rw [hspec.amount_out, hspec.legs,
      legs_out_eq_total (charged_of_prices hpools hspec.prices), hsnd]
  case h_2 hnone =>
    -- Every output prices, so the build can only have failed for want of a leg.
    obtain ⟨inputs, hinputs, -⟩ := Option.bind_eq_some_iff.mp h
    have hpairs := forall₂_of_mapM hinputs
    have hprices : ∀ p ∈ candidates.zip outputs, p.2 ≠ 0 →
        ∃ q, quote_leg .ExactOut p.1 p.2 = some q := by
      intro p hp hne
      obtain ⟨input, hinput⟩ := exists_of_forall₂ hpairs hp
      rw [if_neg hne] at hinput
      exact ⟨(input, p.2), Option.map_eq_some_iff.mpr ⟨input, hinput, rfl⟩⟩
    have hall := legs_out_eq_total (charged_of_prices hpools hprices)
    rw [hsnd] at hall
    by_cases hempty : (candidates.zip outputs).filterMap (leg_at .ExactOut) = []
    · have hzero : total outputs = 0 := by
        rw [← hall, hempty]
        rfl
      have hspec := build_spec hbuild
      have hpos := legs_out_pos (hspec.legs ▸ hspec.ne_nil)
      have hle := legs_out_le_total (candidates.zip built)
      rw [List.map_snd_zip (by omega)] at hle
      have hbuilt := total_le_total (hblen.trans hlen.symm) hble
      omega
    · have hnil : [] ++ (candidates.zip outputs).filterMap (leg_at .ExactOut) ≠ [] := hempty
      have hsome : (build_from .ExactOut level (candidates.zip outputs) [] 0 0).isSome :=
        build_from_isSome hprices hnil (by simpa using hin) (by simpa [hall] using hout)
      rw [show build_from .ExactOut level (candidates.zip outputs) [] 0 0 = none from hnone]
        at hsome
      cases hsome

/-- What a level delivers shrinks as it rises. -/
theorem amount_out_anti {candidates : List Candidate} (hcapped : Capped candidates)
    (hpools : ∀ c ∈ candidates, ∀ p, c.pool ≠ .Pegged p) {l l' : Ratio} (hle : l ≤ l')
    (hfits : (new candidates).FitsWord l) {split split' : Split}
    (h : (new candidates).at_price l = some split)
    (h' : (new candidates).at_price l' = some split') : split'.amount_out ≤ split.amount_out := by
  have hlen := (new candidates).capped_outputs_length l
  have hlen' := (new candidates).capped_outputs_length l'
  obtain ⟨built, hblen, hble, hbuild⟩ := build_representable_spec hlen' h'
  have hspec := build_spec hbuild
  have hblen' : built.length = candidates.length := hblen
  rw [Fin.le_def]
  calc split'.amount_out.val
      = legs_out ((candidates.zip built).filterMap (leg_at .ExactOut)) := by
        rw [hspec.amount_out, hspec.legs]
        rfl
    _ ≤ total ((candidates.zip built).map Prod.snd) := legs_out_le_total _
    _ = total built := by rw [List.map_snd_zip (by omega)]
    _ ≤ total ((new candidates).capped_outputs l') :=
        total_le_total (hblen.trans hlen'.symm) hble
    _ ≤ total ((new candidates).capped_outputs l) := by
        rw [total_eq_groups candidates hlen', total_eq_groups candidates hlen]
        exact List.sum_le_sum fun g hg => group_anti hcapped hpools hg hle
    _ = split.amount_out.val := (amount_out_of_fits hpools hlen hfits.1 hfits.2 h).symm

/-- A pegged venue whose fill delivers more at a positive level than in full. -/
def jumpy_venue (hash : B256) : Candidate :=
  { key := { maker := ⟨1⟩, app := 0, strategy_hash := ⟨hash⟩ }
    token_in := 1
    token_out := 2
    cap_out := 5
    wallet_cap := 8
    pool := .from_curve
      (.Pegged {
        x0 := 5 * 10 ^ 26
        y0 := 5 * 10 ^ 25
        linear_width := 3 * 10 ^ 25
        rate_lt := 1
        rate_gt := 1 })
      1 2 (7 * 10 ^ 26) (6 * 10 ^ 27)
    fees_in_bps := [] }

end Liquidity

end Solvent
