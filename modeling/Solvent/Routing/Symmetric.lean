import Mathlib
import Solvent.Framework.Choice
import Solvent.Routing.ExactOut
import Solvent.Routing.Groups

/-! # What the order of the candidates does not change

    The level search reads the candidates through sums, a maximum and the
    wallet floors, and none of them depends on the order. A leg's floor is
    decided by the candidates of its maker alone (`maker_floor`), so a leg fills
    at a level what its candidate fills in the book (`candidate_fill`), wherever
    it stands.
-/

namespace Solvent

open BTreeMap

/-! ## Sums and maxima -/

theorem total_perm {as bs : List U256} (h : as.Perm bs) : total as = total bs :=
  (h.map Fin.val).sum_eq

theorem saturating_sum_perm {as bs : List U256} (h : as.Perm bs) :
    U256.saturating_sum as = U256.saturating_sum bs := by
  apply Fin.ext
  rw [saturating_sum_total, saturating_sum_total, total_perm h]

theorem exceeds_budget_perm {as bs : List U256} (h : as.Perm bs) (budget : U256) :
    exceeds_budget as budget = exceeds_budget bs budget := by
  have hiff : exceeds_budget as budget = false ↔ exceeds_budget bs budget = false := by
    rw [exceeds_budget_eq_false, exceeds_budget_eq_false, total_perm h]
  rw [Bool.eq_iff_iff]
  simpa using not_congr hiff

theorem max_price_spec {ps : List Ratio} {m : Ratio} (h : max_price ps = some m) :
    m ∈ ps ∧ ∀ p ∈ ps, p ≤ m := by
  have hfold : ∀ (qs : List Ratio) (q : Ratio),
      qs.foldl max q ∈ q :: qs ∧ ∀ p ∈ q :: qs, p ≤ qs.foldl max q := by
    intro qs
    induction qs with
    | nil => simp
    | cons r qs ih =>
      intro q
      obtain ⟨hmem, hle⟩ := ih (max q r)
      rw [List.foldl_cons]
      constructor
      · rcases List.mem_cons.mp hmem with heq | hin
        · rw [heq]
          rcases max_choice q r with hmax | hmax <;> rw [hmax] <;> simp
        · simp [hin]
      · intro p hp
        have htop := hle (max q r) (by simp)
        rcases List.mem_cons.mp hp with rfl | hp
        · exact (le_max_left p r).trans htop
        · rcases List.mem_cons.mp hp with rfl | hp
          · exact (le_max_right q p).trans htop
          · exact hle p (by simp [hp])
  match ps, h with
  | q :: qs, h =>
    obtain rfl := Option.some.inj h
    exact hfold qs q

theorem max_price_eq_none {ps : List Ratio} : max_price ps = none ↔ ps = [] := by
  cases ps <;> simp [max_price]

theorem max_price_perm {ps qs : List Ratio} (h : ps.Perm qs) : max_price ps = max_price qs := by
  by_cases hnil : ps = []
  · subst hnil
    rw [List.nil_perm.mp h]
  · have hnil' : qs ≠ [] := by
      rintro rfl
      exact hnil (List.perm_nil.mp h)
    obtain ⟨m, hp⟩ := Option.ne_none_iff_exists'.mp (mt max_price_eq_none.mp hnil)
    obtain ⟨m', hq⟩ := Option.ne_none_iff_exists'.mp (mt max_price_eq_none.mp hnil')
    obtain ⟨hm, hle⟩ := max_price_spec hp
    obtain ⟨hm', hle'⟩ := max_price_spec hq
    rw [hp, hq]
    exact congrArg some (le_antisymm (hle' m (h.subset hm)) (hle m' (h.symm.subset hm')))

theorem price_upper_perm {cs cs' : List Candidate} (h : cs.Perm cs') :
    price_upper cs = price_upper cs' := by
  unfold price_upper
  simp only
  rw [max_price_perm ((h.filterMap _).filter _)]

/-! ## Maker groups -/

/-- The candidates of one maker, in order. -/
def candidates_of (cs : List Candidate) (m : MakerId) : List Candidate :=
  cs.filter fun c => c.key.maker = m

theorem map_fst_of_maker (cs : List Candidate) (m : MakerId) :
    (of_maker cs.zipIdx m).map Prod.fst = candidates_of cs m := by
  unfold of_maker candidates_of
  conv_rhs => rw [← List.zipIdx_map_fst 0 cs]
  rw [List.filter_map]
  rfl

/-- Reading the legs of a maker is reading the maker's candidates. -/
theorem filterMap_legs_of_maker {α : Type} (cs : List Candidate) (m : MakerId)
    {f : ℕ → Option α} {g : Candidate → α}
    (h : ∀ i c, cs[i]? = some c → f i = some (g c)) :
    (legs_of_maker cs m).filterMap f = (candidates_of cs m).map g := by
  rw [← map_fst_of_maker, legs_of_maker, List.filterMap_map, List.map_map,
    ← List.filterMap_eq_map]
  refine List.filterMap_congr ?_
  rintro ⟨c, i⟩ he
  exact h i c (List.mem_zipIdx_iff_getElem?.mp (List.mem_of_mem_filter he))

/-- A maker's wallet is the least its candidates were frozen with. -/
theorem group_wallet (es : List (Candidate × ℕ)) {m : MakerId} {g : MakerGroup}
    (h : (es.foldl MakerGroups.join ∅)[m]? = some g) (w : U256) :
    w ≤ g.wallet_cap ↔ ∀ e ∈ es, e.1.key.maker = m → w ≤ e.1.wallet_cap := by
  induction es using List.reverseRecOn generalizing g with
  | nil => simp at h
  | append_singleton es e ih =>
    have hgrouped := grouped_foldl es m
    rw [List.foldl_append, List.foldl_cons, List.foldl_nil, MakerGroups.join, BTreeMap.entry,
      get_insert] at h
    by_cases hm : e.1.key.maker = m
    · rw [if_pos hm] at h
      obtain rfl := Option.some.inj h
      have hlast : (∀ e' ∈ es ++ [e], e'.1.key.maker = m → w ≤ e'.1.wallet_cap) ↔
          (∀ e' ∈ es, e'.1.key.maker = m → w ≤ e'.1.wallet_cap) ∧ w ≤ e.1.wallet_cap := by
        simp [or_imp, forall_and, hm]
      rw [hlast, le_min_iff, get_or, hm]
      cases hgroup : (es.foldl MakerGroups.join ∅)[m]? with
      | some g => rw [Option.getD_some, ih hgroup]
      | none =>
        -- The maker's first candidate.
        rw [hgroup] at hgrouped
        have hnone : ∀ e' ∈ es, e'.1.key.maker = m → w ≤ e'.1.wallet_cap := by
          intro e' he' hm'
          have hmem : e' ∈ of_maker es m := List.mem_filter.mpr ⟨he', by simpa using hm'⟩
          rw [show of_maker es m = [] from hgrouped] at hmem
          cases hmem
        exact ⟨fun h => ⟨hnone, h.2⟩, fun h => ⟨h.2, h.2⟩⟩
    · rw [if_neg hm] at h
      rw [ih h]
      simp [or_imp, forall_and, hm]

/-- The group of a maker. -/
def maker_group_at (cs : List Candidate) (m : MakerId) : Option MakerGroup :=
  (MakerGroups.by_maker cs)[m]?

theorem maker_group_spec {cs : List Candidate} {m : MakerId} {g : MakerGroup}
    (h : maker_group_at cs m = some g) :
    g.indices = legs_of_maker cs m ∧
      ∀ w, w ≤ g.wallet_cap ↔ ∀ c ∈ cs, c.key.maker = m → w ≤ c.wallet_cap := by
  have hgrouped := grouped_foldl cs.zipIdx m
  rw [show (cs.zipIdx.foldl MakerGroups.join ∅)[m]? = some g from h] at hgrouped
  refine ⟨hgrouped.1, ?_⟩
  intro w
  rw [group_wallet cs.zipIdx h w]
  constructor
  · intro hall c hc hm
    obtain ⟨i, hi⟩ := List.mem_iff_getElem?.mp hc
    exact hall (c, i) (List.mem_zipIdx_iff_getElem?.mpr hi) hm
  · rintro hall ⟨c, i⟩ he hm
    exact hall c (List.mem_of_getElem? (List.mem_zipIdx_iff_getElem?.mp he)) hm

/-- A group that holds a leg is the group of its maker. -/
theorem maker_group_of_mem {cs : List Candidate} {g : MakerGroup} {i : ℕ} {c : Candidate}
    (hg : g ∈ (MakerGroups.new cs).groups) (hi : i ∈ g.indices) (hc : cs[i]? = some c) :
    maker_group_at cs c.key.maker = some g := by
  simp only [MakerGroups.new, BTreeMap.values, List.mem_map, Prod.exists] at hg
  obtain ⟨m, g', hmem, rfl⟩ := hg
  have hget : maker_group_at cs m = some g' := Std.ExtTreeMap.mem_toList_iff_getElem?_eq_some.1 hmem
  rw [(maker_group_spec hget).1, mem_legs_of_maker] at hi
  obtain ⟨c', hc', rfl⟩ := hi
  rw [hc] at hc'
  obtain rfl := Option.some.inj hc'
  exact hget

/-- The wallets of a maker's groups agree. -/
theorem wallet_perm {cs cs' : List Candidate} (h : cs.Perm cs') {m : MakerId} {g g' : MakerGroup}
    (hg : maker_group_at cs m = some g) (hg' : maker_group_at cs' m = some g') :
    g.wallet_cap = g'.wallet_cap := by
  apply le_antisymm
  · rw [(maker_group_spec hg').2]
    intro c hc
    exact ((maker_group_spec hg).2 g.wallet_cap).mp le_rfl c (h.symm.subset hc)
  · rw [(maker_group_spec hg).2]
    intro c hc
    exact ((maker_group_spec hg').2 g'.wallet_cap).mp le_rfl c (h.subset hc)

/-! ## Wallet floors -/

section Floors

variable (cs : List Candidate) (target : U256) (kind : FillKind)

/-- What the candidates of a maker fill at a level. -/
def maker_fills (m : MakerId) (level : Ratio) : List U256 :=
  (candidates_of cs m).map fun c => fill_output c (input_bound target kind c) level

/-- The floor of a maker whose wallet is `wallet`. -/
def maker_floor (m : MakerId) (wallet : U256) : Ratio :=
  if 2 ≤ (candidates_of cs m).length ∧
      exceeds_budget (maker_fills cs target kind m 0) wallet = true then
    (bracket_level (fun level => U256.saturating_sum (maker_fills cs target kind m level)) wallet
      none (price_upper (candidates_of cs m))).hi
  else 0

/-- The floor of a candidate. -/
def candidate_floor (c : Candidate) : Ratio :=
  match maker_group_at cs c.key.maker with
  | some g => maker_floor cs target kind c.key.maker g.wallet_cap
  | none => 0

variable {cs target kind}

theorem group_fills_eq {m : MakerId} {g : MakerGroup} (hg : maker_group_at cs m = some g)
    (level : Ratio) :
    group_fills cs (input_bounds cs target kind) g level = maker_fills cs target kind m level := by
  unfold group_fills
  rw [(maker_group_spec hg).1]
  refine filterMap_legs_of_maker cs m ?_
  intro i c hc
  have hbound : at_leg (input_bounds cs target kind) i = input_bound target kind c :=
    at_leg_bounds hc
  rw [hc, Option.map_some, hbound]

theorem length_legs_of_maker (m : MakerId) :
    (legs_of_maker cs m).length = (candidates_of cs m).length := by
  rw [← map_fst_of_maker, legs_of_maker, List.length_map, List.length_map]

/-- A group's level in terms of its maker's candidates. -/
theorem group_floor_eq {m : MakerId} {g : MakerGroup} (hg : maker_group_at cs m = some g) :
    (if Binds cs (input_bounds cs target kind) g then
      group_floor_level cs (input_bounds cs target kind) g else 0) =
      maker_floor cs target kind m g.wallet_cap := by
  have hfills : group_output_at_level cs (input_bounds cs target kind) g =
      fun level => U256.saturating_sum (maker_fills cs target kind m level) := by
    funext level
    rw [group_output_at_level, group_fills_eq hg]
  have hprices : g.indices.filterMap (cs[·]?) = candidates_of cs m := by
    rw [(maker_group_spec hg).1, filterMap_legs_of_maker cs m (g := id) fun i c hc => hc,
      List.map_id]
  have hbinds : Binds cs (input_bounds cs target kind) g ↔ 2 ≤ (candidates_of cs m).length ∧
      exceeds_budget (maker_fills cs target kind m 0) g.wallet_cap = true := by
    unfold Binds
    rw [group_fills_eq hg, (maker_group_spec hg).1, length_legs_of_maker]
  unfold maker_floor
  refine if_congr hbinds ?_ rfl
  rw [group_floor_level, hfills, hprices]

/-- **The floor of a leg** is its candidate's. -/
theorem floor_eq {i : ℕ} {c : Candidate} (h : cs[i]? = some c) :
    (Book.new cs target kind).floor i = candidate_floor cs target kind c := by
  obtain ⟨hmem, hin⟩ := group_of_spec h
  have hgroup := maker_group_of_mem hmem hin h
  unfold candidate_floor
  rw [hgroup]
  simp only
  rw [← group_floor_eq hgroup]
  rcases floor_spec target kind h with ⟨g, hg, hbinds, hi, hfloor⟩ | ⟨hnone, hfloor⟩
  · have hsame := hgroup.symm.trans (maker_group_of_mem hg hi h)
    obtain rfl := Option.some.inj hsame
    rw [if_pos hbinds, hfloor]
  · rw [if_neg (hnone _ hmem hin), hfloor]

end Floors

/-! ## Reordering -/

section Reordered

variable {cs cs' : List Candidate} (target : U256) (kind : FillKind) (h : cs.Perm cs')

include h

theorem candidates_of_perm (m : MakerId) : (candidates_of cs m).Perm (candidates_of cs' m) :=
  h.filter _

theorem maker_floor_perm (m : MakerId) (wallet : U256) :
    maker_floor cs target kind m wallet = maker_floor cs' target kind m wallet := by
  have hfills : ∀ level, (maker_fills cs target kind m level).Perm
      (maker_fills cs' target kind m level) := fun level => (candidates_of_perm h m).map _
  unfold maker_floor
  rw [(candidates_of_perm h m).length_eq, exceeds_budget_perm (hfills 0),
    price_upper_perm (candidates_of_perm h m),
    show (fun level => U256.saturating_sum (maker_fills cs target kind m level)) =
      fun level => U256.saturating_sum (maker_fills cs' target kind m level) from
      funext fun level => saturating_sum_perm (hfills level)]

theorem candidate_floor_perm {c : Candidate} (hc : c ∈ cs) :
    candidate_floor cs target kind c = candidate_floor cs' target kind c := by
  obtain ⟨i, hi⟩ := List.mem_iff_getElem?.mp hc
  obtain ⟨j, hj⟩ := List.mem_iff_getElem?.mp (h.subset hc)
  obtain ⟨hmem, hin⟩ := group_of_spec hi
  obtain ⟨hmem', hin'⟩ := group_of_spec hj
  have hg := maker_group_of_mem hmem hin hi
  have hg' := maker_group_of_mem hmem' hin' hj
  unfold candidate_floor
  rw [hg, hg']
  simp only
  rw [wallet_perm h hg hg', maker_floor_perm target kind h]

end Reordered

/-- What a candidate of the book fills at a level. -/
def candidate_fill (cs : List Candidate) (target : U256) (kind : FillKind) (level : Ratio)
    (c : Candidate) : LimitedQuote :=
  match c.net_quote_with_limit (input_bound target kind c)
      (max (candidate_floor cs target kind c) level) with
  | .ok quote => quote
  | .error _ => NO_FILL

theorem leg_eq {cs : List Candidate} {target : U256} {kind : FillKind} {i : ℕ} {c : Candidate}
    (h : cs[i]? = some c) (level : Ratio) :
    (Book.new cs target kind).leg level (c, i) = candidate_fill cs target kind level c := by
  unfold Book.leg candidate_fill
  simp only
  rw [at_leg_bounds h, floor_eq h] <;> rfl

/-- **The fills of a book**, candidate by candidate. -/
theorem fills_eq (cs : List Candidate) (target : U256) (kind : FillKind) (level : Ratio) :
    (Book.new cs target kind).fills level = cs.map (candidate_fill cs target kind level) := by
  have hfst : ∀ f : Candidate → LimitedQuote, cs.map f = cs.zipIdx.map fun e => f e.1 := by
    intro f
    conv_lhs => rw [← List.zipIdx_map_fst 0 cs, List.map_map]
    rfl
  rw [hfst]
  refine List.map_congr_left ?_
  rintro ⟨c, i⟩ he
  exact leg_eq (List.mem_zipIdx_iff_getElem?.mp he) level

theorem candidate_fill_perm {cs cs' : List Candidate} (target : U256) (kind : FillKind)
    (h : cs.Perm cs') (level : Ratio) {c : Candidate} (hc : c ∈ cs) :
    candidate_fill cs target kind level c = candidate_fill cs' target kind level c := by
  unfold candidate_fill
  rw [candidate_floor_perm target kind h hc]

/-- **The level is searched alike.** -/
theorem measure_perm {cs cs' : List Candidate} (target : U256) (kind : FillKind)
    (h : cs.Perm cs') :
    (Book.new cs target kind).measure = (Book.new cs' target kind).measure := by
  funext level
  unfold Book.measure
  rw [fills_eq, fills_eq]
  refine saturating_sum_perm (List.Perm.map _ ?_)
  rw [List.map_congr_left fun c hc => candidate_fill_perm target kind h level hc]
  exact h.map _

end Solvent
