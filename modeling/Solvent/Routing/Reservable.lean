import Mathlib
import Solvent.Routing.Groups

/-! # Splits within the frozen caps

    Every split of a book of regular candidates keeps each leg within its own
    cap and each maker's legs together within the maker's wallet. Exact-in
    carries this through the top-up loop as an invariant of its working state;
    exact-out has it at the assembly level, and trimming only lowers it.
-/

namespace Solvent

/-- What candidate building guarantees of a book, with the curves' own
    promises. -/
structure Prepared (candidates : List Candidate) : Prop where
  regular : ∀ c ∈ candidates, Regular c
  cap_ne_zero : ∀ c ∈ candidates, c.cap_out ≠ 0
  cap_le_wallet : ∀ c ∈ candidates, c.cap_out ≤ c.wallet_cap
  one_wallet : ∀ c ∈ candidates, ∀ c' ∈ candidates, c'.key.maker = c.key.maker →
    c'.wallet_cap = c.wallet_cap

theorem Prepared.of_subset {candidates active : List Candidate} (h : Prepared candidates)
    (hsub : active ⊆ candidates) : Prepared active :=
  ⟨fun c hc => h.regular c (hsub hc), fun c hc => h.cap_ne_zero c (hsub hc),
    fun c hc => h.cap_le_wallet c (hsub hc),
    fun c hc c' hc' => h.one_wallet c (hsub hc) c' (hsub hc')⟩

/-! ## Bounds -/

/-- The ceiling a binding cap gives prices, unless it is zero. -/
theorem cap_bound_prices {c : Candidate} (hreg : Regular c) (upper : U256) :
    (c.input_within_output c.cap_out).getD (c.feasible_input upper) = 0 ∨
      ∃ y, c.net_quote_exact_in
        ((c.input_within_output c.cap_out).getD (c.feasible_input upper)) = .ok y := by
  cases hwithin : c.input_within_output c.cap_out with
  | none =>
    rcases (feasible_bound_spec upper fun input => is_ok (c.net_quote_exact_in input)).1 with h | h
    · exact .inl h
    · exact .inr (is_ok_iff.1 h)
  | some b =>
    right
    unfold Candidate.input_within_output at hwithin
    split at hwithin
    · cases hwithin
    · rename_i input _
      split at hwithin
      · rename_i out hout
        split at hwithin
        · cases hwithin
          exact ⟨out, hout⟩
        · cases hwithin
          obtain ⟨x, hx, -⟩ := hreg.down hout (show input.saturating_sub 1 ≤ input from
            Nat.sub_le _ _)
          exact ⟨x, hx⟩
      · cases hwithin

/-- No input under that ceiling buys more than the cap. -/
theorem le_cap_of_le_bound {c : Candidate} (hreg : Regular c) (hcap : c.cap_out ≠ 0) (upper : U256)
    {a y : U256} (ha : a ≤ (c.input_within_output c.cap_out).getD (c.feasible_input upper))
    (hy : c.net_quote_exact_in a = .ok y) : y ≤ c.cap_out := by
  refine hreg.within hcap hy ?_
  intro b hb
  rw [hb] at ha
  exact ha

/-- At a bound that prices or is zero, a fill shrinks as the level rises. -/
theorem fill_output_anti {c : Candidate} (hreg : Regular c) {b : U256}
    (hb : b = 0 ∨ ∃ y, c.net_quote_exact_in b = .ok y) {l l' : Ratio} (hle : l ≤ l') :
    fill_output c b l' ≤ fill_output c b l := by
  rcases hb with rfl | ⟨y, hy⟩
  · rw [fill_output_of_zero, fill_output_of_zero]
  · exact hreg.shrinks hy hle

theorem exact_in_bound_prices {c : Candidate} (hreg : Regular c) (target : U256) :
    input_bound target .ExactIn c = 0 ∨
      ∃ y, c.net_quote_exact_in (input_bound target .ExactIn c) = .ok y := by
  show min _ target = 0 ∨ ∃ y, c.net_quote_exact_in (min _ target) = .ok y
  rcases cap_bound_prices hreg target with h | ⟨y, hy⟩
  · rw [h]
    exact .inl (min_eq_left (Fin.zero_le _))
  · obtain ⟨x, hx, -⟩ := hreg.down hy (min_le_left _ target)
    exact .inr ⟨x, hx⟩

/-! ## One maker's legs -/

/-- The legs of one maker deliver at most the sum of their bounds. -/
theorem legs_out_maker_le {kind : FillKind} {m : MakerId} {b : ℕ → ℕ} (cs : List Candidate)
    (as : List U256) (k : ℕ)
    (hb : ∀ j c leg, cs[j]? = some c → c.key.maker = m →
      leg_at kind (c, at_leg as j) = some leg → leg.amount_out.val ≤ b (k + j)) :
    legs_out (((cs.zip as).filterMap (leg_at kind)).filter fun leg => leg.maker = m) ≤
      (((of_maker (cs.zipIdx k) m).map Prod.snd).map b).sum := by
  induction cs generalizing as k with
  | nil => simp [legs_out]
  | cons c cs ih =>
    cases as with
    | nil => simp [legs_out]
    | cons a as =>
      have hrest := ih as (k + 1) (fun j c' leg hj hm hleg => by
        have := hb (j + 1) c' leg (by simpa using hj) hm (by simpa [at_leg] using hleg)
        rwa [show k + 1 + j = k + (j + 1) by omega])
      have hmaker : ∀ leg, leg_at kind (c, a) = some leg → leg.maker = c.key.maker := by
        intro leg hleg
        rw [(leg_at_eq_some hleg).1.leg_eq]
        rfl
      simp only [of_maker, List.zipIdx_cons, List.zip_cons_cons] at hrest ⊢
      by_cases hm : c.key.maker = m
      · rw [List.filter_cons_of_pos (by simpa using hm)]
        simp only [List.map_cons, List.sum_cons]
        cases hleg : leg_at kind (c, a) with
        | none =>
          rw [List.filterMap_cons_none hleg]
          omega
        | some leg =>
          have hle := hb 0 c leg rfl hm (by simpa [at_leg] using hleg)
          rw [List.filterMap_cons_some hleg,
            List.filter_cons_of_pos (by simpa using (hmaker leg hleg).trans hm)]
          simp only [legs_out, List.map_cons, total_cons, Nat.add_zero] at hrest hle ⊢
          omega
      · rw [List.filter_cons_of_neg (by simpa using hm)]
        cases hleg : leg_at kind (c, a) with
        | none =>
          rw [List.filterMap_cons_none hleg]
          exact hrest
        | some leg =>
          rw [List.filterMap_cons_some hleg, List.filter_cons_of_neg]
          · exact hrest
          · simpa [hmaker leg hleg] using hm

/-- Bounds under the fills of a group sum to at most the group's output. -/
theorem sum_le_group_fills {candidates : List Candidate} {bounds : List U256} {g : MakerGroup}
    {l : Ratio} {b : ℕ → ℕ} (hvalid : ∀ i ∈ g.indices, ∃ c, candidates[i]? = some c ∧
      b i ≤ (fill_output c (at_leg bounds i) l).val) :
    (g.indices.map b).sum ≤ total (group_fills candidates bounds g l) := by
  unfold group_fills
  revert hvalid
  generalize g.indices = is
  intro hvalid
  induction is with
  | nil => simp
  | cons i is ih =>
    obtain ⟨c, hc, hle⟩ := hvalid i (by simp)
    have hrest := ih fun j hj => hvalid j (List.mem_cons_of_mem i hj)
    rw [List.filterMap_cons, hc, List.map_cons, List.sum_cons]
    simp only [Option.map_some, total_cons]
    omega

section Wallet

variable {candidates : List Candidate}

/-- The group of a maker, with its wallet. -/
theorem maker_group (hprep : Prepared candidates) {i : ℕ} {c : Candidate}
    (h : candidates[i]? = some c) :
    ∃ g ∈ (MakerGroups.new candidates).groups,
      g.indices = legs_of_maker candidates c.key.maker ∧ g.wallet_cap = c.wallet_cap := by
  obtain ⟨g, hg, hi⟩ := exists_group h
  obtain ⟨hind, hwallet⟩ := group_indices_of_mem hg hi h
  exact ⟨g, hg, hind, hwallet _ fun c' hc' hm =>
    hprep.one_wallet c (List.mem_of_getElem? h) c' hc' hm⟩

/-- **Wallet lemma.** Per-leg bounds stay within a maker's wallet if each is
    within its own cap, those of a free group are within the full fills, and
    those of a binding group are within the wallet together. -/
theorem sum_le_wallet (target : U256) (kind : FillKind) (hprep : Prepared candidates) {i₀ : ℕ}
    {c : Candidate}
    (h₀ : candidates[i₀]? = some c) {b : ℕ → ℕ}
    (hcap : ∀ i c', candidates[i]? = some c' → c'.key.maker = c.key.maker →
      b i ≤ c'.cap_out.val)
    (hfree : ∀ i c', candidates[i]? = some c' → c'.key.maker = c.key.maker →
      (Book.new candidates target kind).floor i = 0 →
      b i ≤ (fill_output c' (input_bound target kind c') 0).val)
    (hbinds : ∀ g ∈ (MakerGroups.new candidates).groups,
      g.indices = legs_of_maker candidates c.key.maker →
      Binds candidates (input_bounds candidates target kind) g →
      (g.indices.map b).sum ≤ g.wallet_cap.val) :
    ((legs_of_maker candidates c.key.maker).map b).sum ≤ c.wallet_cap.val := by
  obtain ⟨g, hg, hind, hwallet⟩ := maker_group hprep h₀
  rw [← hind, ← hwallet]
  by_cases hb : Binds candidates (input_bounds candidates target kind) g
  · exact hbinds g hg hind hb
  by_cases hlen : 2 ≤ g.indices.length
  · -- A free group: the full fills fit the wallet.
    have hfits : total (group_fills candidates (input_bounds candidates target kind) g 0) ≤
        g.wallet_cap.val := by
      rw [← exceeds_budget_eq_false]
      by_contra hexceeds
      exact hb ⟨hlen, by simpa using hexceeds⟩
    refine (sum_le_group_fills ?_).trans hfits
    intro i hi
    rw [hind, mem_legs_of_maker] at hi
    obtain ⟨c', hc', hm⟩ := hi
    refine ⟨c', hc', ?_⟩
    have hbound : at_leg (input_bounds candidates target kind) i = input_bound target kind c' :=
      at_leg_bounds hc'
    rw [hbound]
    refine hfree i c' hc' hm ?_
    rcases floor_spec target kind hc' with
      ⟨g', hg', hb', hi', -⟩ | ⟨-, hzero⟩
    · obtain ⟨hind', hwallet'⟩ := group_indices_of_mem hg' hi' hc'
      have hw' := hwallet' c.wallet_cap fun c'' hc'' hm' =>
        hprep.one_wallet c (List.mem_of_getElem? h₀) c'' hc'' (hm'.trans hm)
      have hsame : g' = g := by
        cases g
        cases g'
        simp_all
      rw [hsame] at hb'
      exact absurd hb' hb
    · exact hzero
  · -- A lone leg: its cap is within the wallet.
    have hi₀ : i₀ ∈ g.indices := by
      rw [hind]
      exact mem_legs_of_maker.2 ⟨c, h₀, rfl⟩
    have hone : g.indices = [i₀] := by
      match hgi : g.indices, hi₀, hlen with
      | [j], hi₀, _ => rw [List.mem_singleton.1 hi₀]
      | j :: k :: js, _, hlen => simp at hlen
    rw [hone, hwallet]
    have hle := hcap i₀ c h₀ rfl
    have hwall : c.cap_out.val ≤ c.wallet_cap.val := hprep.cap_le_wallet c (List.mem_of_getElem? h₀)
    simp only [List.map_cons, List.map_nil, List.sum_cons, List.sum_nil]
    omega

end Wallet

/-! ## Exact-in -/

/-- The working state of the top-up stays within the caps: inputs within their
    bounds, outputs covering what the inputs buy, and every binding group
    within its wallet. -/
structure Fits (candidates : List Candidate) (target : U256) (t : TopUp) : Prop where
  ins_length : t.ins.length = candidates.length
  outs_length : t.outs.length = candidates.length
  within : ∀ i c, candidates[i]? = some c → at_leg t.ins i ≤ input_bound target .ExactIn c
  covers : ∀ i c y, candidates[i]? = some c → at_leg t.ins i ≠ 0 →
    c.net_quote_exact_in (at_leg t.ins i) = .ok y → y ≤ at_leg t.outs i
  wallets : ∀ g ∈ (MakerGroups.new candidates).groups,
    Binds candidates (input_bounds candidates target .ExactIn) g →
    total_at t.outs g.indices ≤ g.wallet_cap.val

/-- Slot `i` of the inputs at a level is leg `i`'s fill. -/
theorem at_leg_ins {book : Book} {level : Ratio} {i : ℕ} {c : Candidate}
    (h : book.candidates[i]? = some c) :
    at_leg ((book.fills level).map LimitedQuote.amount_in) i =
      (book.leg level (c, i)).amount_in := by
  unfold at_leg Book.fills
  rw [List.getD_eq_getElem?_getD, List.getElem?_map, List.getElem?_map, List.getElem?_zipIdx, h]
  simp

/-- A leg's output at a level is its candidate's fill at the raised level. -/
theorem leg_out_eq {candidates : List Candidate} {target : U256} {kind : FillKind} {level : Ratio}
    {i : ℕ} {c : Candidate} (h : candidates[i]? = some c) :
    ((Book.new candidates target kind).leg level (c, i)).amount_out =
      fill_output c (input_bound target kind c)
        (max ((Book.new candidates target kind).floor i) level) := by
  unfold Book.leg fill_output
  rw [at_leg_bounds h]
  simp only
  cases c.net_quote_with_limit (input_bound target kind c)
    (max ((Book.new candidates target kind).floor i) level) <;> rfl

/-- A leg's fill is within its bound and is a quote. -/
theorem leg_quotes {candidates : List Candidate} (target : U256) (kind : FillKind) (level : Ratio)
    {i : ℕ} {c : Candidate} (h : candidates[i]? = some c) :
    ((Book.new candidates target kind).leg level (c, i)).amount_in ≤ input_bound target kind c ∧
      (c.net_quote_exact_in ((Book.new candidates target kind).leg level (c, i)).amount_in =
          .ok ((Book.new candidates target kind).leg level (c, i)).amount_out ∨
        (((Book.new candidates target kind).leg level (c, i)).amount_in = 0 ∧
          ((Book.new candidates target kind).leg level (c, i)).amount_out = 0)) := by
  unfold Book.leg
  rw [at_leg_bounds h]
  simp only
  split
  · rename_i q hq
    exact Candidate.fill_quotes hq
  · exact ⟨Fin.zero_le _, .inr ⟨rfl, rfl⟩⟩

/-- At any level, a binding group of priced bounds is within its wallet. -/
theorem binding_fills_le {candidates : List Candidate} {target : U256} {kind : FillKind}
    (hprep : Prepared candidates) (level : Ratio) {g : MakerGroup}
    (hg : g ∈ (MakerGroups.new candidates).groups)
    (hbinds : Binds candidates (input_bounds candidates target kind) g)
    (hprices : ∀ i ∈ g.indices, ∀ c, candidates[i]? = some c →
      input_bound target kind c = 0 ∨
        ∃ y, c.net_quote_exact_in (input_bound target kind c) = .ok y) :
    (g.indices.map fun i =>
      (at_leg (((Book.new candidates target kind).fills level).map LimitedQuote.amount_out) i).val).sum
      ≤ g.wallet_cap.val := by
  obtain ⟨m, hind, hwallet⟩ := mem_groups hg
  -- Some candidate is in the group, and its wallet is the group's.
  have hne : g.indices ≠ [] := by
    intro h0
    have := hbinds.1
    rw [h0] at this
    simp at this
  obtain ⟨i₀, is, his⟩ := List.exists_cons_of_ne_nil hne
  have hi₀ : i₀ ∈ legs_of_maker candidates m := by
    rw [← hind, his]
    simp
  obtain ⟨c₀, hc₀, hm₀⟩ := mem_legs_of_maker.1 hi₀
  have hw : g.wallet_cap = c₀.wallet_cap := hwallet _ fun c hc hm =>
    hprep.one_wallet c₀ (List.mem_of_getElem? hc₀) c hc (hm.trans hm₀.symm)
  have hw0 : g.wallet_cap ≠ 0 := by
    have hcap := hprep.cap_ne_zero c₀ (List.mem_of_getElem? hc₀)
    have hle : c₀.cap_out.val ≤ c₀.wallet_cap.val :=
      hprep.cap_le_wallet c₀ (List.mem_of_getElem? hc₀)
    rw [hw]
    intro h0
    have hz : c₀.wallet_cap.val = 0 := U256.eq_zero_iff.1 h0
    exact hcap (U256.eq_zero_iff.2 (by omega))
  refine le_trans (sum_le_group_fills (l :=
    group_floor_level candidates (input_bounds candidates target kind) g) ?_)
    (group_floor_spec hw0).2.le
  intro i hi
  have hi' := hi
  rw [hind] at hi'
  obtain ⟨c, hc, hm⟩ := mem_legs_of_maker.1 hi'
  refine ⟨c, hc, ?_⟩
  have hbound : at_leg (input_bounds candidates target kind) i = input_bound target kind c :=
    at_leg_bounds hc
  -- The leg's level is at least its group's floor.
  have hfloor : (Book.new candidates target kind).floor i =
      group_floor_level candidates (input_bounds candidates target kind) g := by
    rcases floor_spec target kind hc with ⟨g', hg', -, hi'', hlevel⟩ | ⟨hnone, -⟩
    · obtain ⟨hind', hwallet'⟩ := group_indices_of_mem hg' hi'' hc
      have hsame : g' = g := by
        have hw' := hwallet' c₀.wallet_cap fun c' hc' hm' =>
          hprep.one_wallet c₀ (List.mem_of_getElem? hc₀) c' hc' (hm'.trans (hm.trans hm₀.symm))
        rw [← hw] at hw'
        rw [hm, ← hind] at hind'
        cases g
        cases g'
        simp_all
      rw [hlevel, hsame]
    · exact absurd hbinds (hnone g hg hi)
  rw [at_leg_outs (show (Book.new candidates target kind).candidates[i]? = some c from hc),
    leg_out_eq hc, hbound, hfloor]
  exact fill_output_anti (hprep.regular c (List.mem_of_getElem? hc)) (hprices i hi c hc)
    (le_max_left _ _)

theorem start_ins {candidates : List Candidate} (target : U256) (level : Ratio) {i : ℕ}
    {c : Candidate} (h : candidates[i]? = some c) :
    at_leg (topup_start (Book.new candidates target .ExactIn) level target).ins i =
      ((Book.new candidates target .ExactIn).leg level (c, i)).amount_in :=
  at_leg_ins h

theorem start_outs {candidates : List Candidate} (target : U256) (level : Ratio) {i : ℕ}
    {c : Candidate} (h : candidates[i]? = some c) :
    at_leg (topup_start (Book.new candidates target .ExactIn) level target).outs i =
      ((Book.new candidates target .ExactIn).leg level (c, i)).amount_out :=
  at_leg_outs h

/-- The fills the top-up starts from are within the caps. -/
theorem fits_start {candidates : List Candidate} (hprep : Prepared candidates) (target : U256)
    (level : Ratio) :
    Fits candidates target (topup_start (Book.new candidates target .ExactIn) level target) where
  ins_length := by
    simp only [topup_start, List.length_map, Book.length_fills]
    rfl
  outs_length := by
    simp only [topup_start, List.length_map, Book.length_fills]
    rfl
  within i c hc := by
    rw [start_ins target level hc]
    exact (leg_quotes target .ExactIn level hc).1
  covers i c y hc hne hy := by
    rw [start_ins target level hc] at hne hy
    rw [start_outs target level hc]
    rcases (leg_quotes target .ExactIn level hc).2 with hquote | ⟨hzero, -⟩
    · rw [hquote] at hy
      cases hy
      exact le_rfl
    · exact absurd hzero hne
  wallets g hg hbinds :=
    binding_fills_le hprep level hg hbinds fun i _ c hc =>
      exact_in_bound_prices (hprep.regular c (List.mem_of_getElem? hc)) target

/-- Writing one slot moves the sum over distinct indices by the difference. -/
theorem total_at_set {amounts : List U256} {is : List ℕ} (hnodup : is.Nodup) {i : ℕ}
    (hi : i < amounts.length) (a : U256) :
    (i ∈ is → total_at (amounts.set i a) is + (at_leg amounts i).val =
      total_at amounts is + a.val) ∧
    (i ∉ is → total_at (amounts.set i a) is = total_at amounts is) := by
  have hslot : ∀ j, at_leg (amounts.set i a) j = if i = j then a else at_leg amounts j := by
    intro j
    rw [at_leg_set]
    simp [hi]
  have hout : i ∉ is → total_at (amounts.set i a) is = total_at amounts is := by
    intro hmem
    refine total_at_congr ?_
    intro j hj
    rw [hslot, if_neg]
    rintro rfl
    exact hmem hj
  refine ⟨?_, hout⟩
  intro hmem
  induction is with
  | nil => simp at hmem
  | cons j js ih =>
    obtain ⟨hj, hnodup'⟩ := List.nodup_cons.1 hnodup
    simp only [total_at, List.map_cons, List.sum_cons, hslot j]
    by_cases hij : i = j
    · subst hij
      have hrest : total_at (amounts.set i a) js = total_at amounts js := by
        refine total_at_congr ?_
        intro k hk
        rw [hslot, if_neg]
        rintro rfl
        exact hj hk
      rw [if_pos rfl]
      unfold total_at at hrest
      omega
    · rw [if_neg hij]
      have hmem' : i ∈ js := (List.mem_cons.1 hmem).resolve_left hij
      have hrest := ih hnodup' (fun hnot => absurd hmem' hnot) hmem'
      unfold total_at at hrest
      omega

theorem nodup_legs_of_maker (candidates : List Candidate) (m : MakerId) :
    (legs_of_maker candidates m).Nodup := by
  have hsub : (legs_of_maker candidates m).Sublist (candidates.zipIdx.map Prod.snd) :=
    List.filter_sublist.map Prod.snd
  refine hsub.nodup ?_
  rw [List.zipIdx_map_snd]
  exact List.nodup_range'

/-- The room of a leg whose group binds: the input it may grow to buys at most
    its output and what its wallet has left. -/
theorem topup_room_spec {candidates : List Candidate} {target : U256} (hprep : Prepared candidates)
    {t : TopUp} {i : ℕ} {c : Candidate} (hc : candidates[i]? = some c) {add : U256}
    (hne : add ≠ 0)
    (hroom : add ≤ (Book.new candidates target .ExactIn).topup_room t.ins t.outs (c, i))
    (hfloor : (Book.new candidates target .ExactIn).floor i ≠ 0)
    (hused : total_at t.outs (legs_of_maker candidates c.key.maker) ≤ c.wallet_cap.val)
    {y : U256} (hy : c.net_quote_exact_in ((at_leg t.ins i).saturating_add add) = .ok y) :
    total_at t.outs (legs_of_maker candidates c.key.maker) + y.val ≤
      c.wallet_cap.val + (at_leg t.outs i).val := by
  have hadd0 : add.val ≠ 0 := fun h0 => hne (U256.eq_zero_iff.2 h0)
  obtain ⟨hgroup, hig⟩ := group_of_spec hc
  obtain ⟨hind, -⟩ := group_indices_of_mem hgroup hig hc
  -- The used room is the exact sum: it is within the wallet, so nothing saturates.
  set used := (Book.new candidates target .ExactIn).groups.output_for_leg t.outs i with husedef
  have husedval : used.val = total_at t.outs (legs_of_maker candidates c.key.maker) := by
    have hval : used.val = min (total (((MakerGroups.new candidates).group_of i).indices.map
        (at_leg t.outs))) (2 ^ 256 - 1) := saturating_sum_total _
    have hsum : total ((legs_of_maker candidates c.key.maker).map (at_leg t.outs)) =
        total_at t.outs (legs_of_maker candidates c.key.maker) := by
      simp [total, total_at, List.map_map, Function.comp_def]
    have hlt := c.wallet_cap.isLt
    rw [hind, hsum] at hval
    omega
  have hslot : (at_leg t.outs i).val ≤ used.val := by
    rw [husedval]
    have hmem : i ∈ legs_of_maker candidates c.key.maker := mem_legs_of_maker.2 ⟨c, hc, rfl⟩
    unfold total_at
    exact List.le_sum_of_mem (List.mem_map_of_mem hmem)
  unfold Book.topup_room at hroom
  simp only [if_neg hfloor] at hroom
  split at hroom
  · have hle : add.val ≤ (0 : U256).val := hroom
    have h0 : (0 : U256).val = 0 := rfl
    omega
  · rename_i hout_room
    have hroomval : (c.wallet_cap.saturating_sub used).val ≠ 0 :=
      fun h0 => hout_room (U256.eq_zero_iff.2 h0)
    rw [U256.saturating_sub_val] at hroomval
    split at hroom
    · rename_i cap hcap
      have hlecap : add.val ≤ cap.val - (at_leg t.ins i).val :=
        le_trans hroom (min_le_left _ _)
      set max_out := (at_leg t.outs i).saturating_add (c.wallet_cap.saturating_sub used)
      have hmax : max_out.val =
          min ((at_leg t.outs i).val + (c.wallet_cap.val - used.val)) (2 ^ 256 - 1) := rfl
      have hmax0 : max_out ≠ 0 := by
        intro h0
        have := U256.eq_zero_iff.1 h0
        omega
      have hyle : y ≤ max_out := by
        refine (hprep.regular c (List.mem_of_getElem? hc)).within hmax0 hy ?_
        intro b hb
        rw [hb] at hcap
        cases hcap
        show min ((at_leg t.ins i).val + add.val) (2 ^ 256 - 1) ≤ cap.val
        omega
      have hyle' : y.val ≤ max_out.val := hyle
      omega
    · have hle : add.val ≤ (0 : U256).val := hroom
      have h0 : (0 : U256).val = 0 := rfl
      omega

/-- A leg's room never takes it past its bound. -/
theorem topup_room_le {book : Book} {ins outs : List U256} {c : Candidate} {i : ℕ} :
    book.topup_room ins outs (c, i) ≤ (at_leg book.bounds i).saturating_sub (at_leg ins i) := by
  unfold Book.topup_room
  simp only
  split
  · exact le_rfl
  · split
    · exact Fin.zero_le _
    · split
      · exact min_le_right _ _
      · exact Fin.zero_le _

/-- **Step lemma.** A round of the top-up keeps the working state within the
    caps. -/
theorem fits_step {candidates : List Candidate} (hprep : Prepared candidates) {target : U256}
    {t t' : TopUp} (ht : Fits candidates target t)
    (h : topup_step (Book.new candidates target .ExactIn) t = some t') :
    Fits candidates target t' := by
  obtain ⟨c, i, hmem, add, hne, -, hroom, hins, houts, -⟩ := topup_step_cases h
  have hc : candidates[i]? = some c := List.mem_zipIdx_iff_getElem?.1 hmem
  have hi : i < candidates.length := (List.getElem?_eq_some_iff.1 hc).1
  set input := (at_leg t.ins i).saturating_add add with hinput
  have hadd0 : add.val ≠ 0 := fun h0 => hne (U256.eq_zero_iff.2 h0)
  have hinval : input.val = min ((at_leg t.ins i).val + add.val) (2 ^ 256 - 1) := rfl
  have hslot_in : ∀ j, at_leg t'.ins j = if i = j then input else at_leg t.ins j := by
    intro j
    rw [hins, at_leg_set]
    simp [ht.ins_length, hi]
  have hslot_out : ∀ j, at_leg t'.outs j =
      if i = j then (c.net_quote_exact_in input).toOption.getD (at_leg t.outs i)
      else at_leg t.outs j := by
    intro j
    rw [houts, at_leg_set]
    simp [ht.outs_length, hi]
  refine ⟨by rw [hins, List.length_set, ht.ins_length],
    by rw [houts, List.length_set, ht.outs_length], ?_, ?_, ?_⟩
  · intro j c' hc'
    rw [hslot_in]
    by_cases hij : i = j
    · subst hij
      rw [hc] at hc'
      cases hc'
      rw [if_pos rfl]
      have hle : add.val ≤ (input_bound target .ExactIn c).val - (at_leg t.ins i).val := by
        have hbox := le_trans hroom topup_room_le
        rw [at_leg_bounds hc] at hbox
        exact hbox
      have hwithin : (at_leg t.ins i).val ≤ (input_bound target .ExactIn c).val := ht.within i c hc
      rw [Fin.le_def, hinval]
      omega
    · rw [if_neg hij]
      exact ht.within j c' hc'
  · intro j c' y hc'
    rw [hslot_in, hslot_out]
    by_cases hij : i = j
    · subst hij
      rw [hc] at hc'
      cases hc'
      rw [if_pos rfl, if_pos rfl]
      intro _ hy
      simp [hy, Except.toOption]
    · rw [if_neg hij, if_neg hij]
      exact ht.covers j c' y hc'
  · intro g hg hbinds
    obtain ⟨m, hind, hwallet⟩ := mem_groups hg
    have hnodup : g.indices.Nodup := by
      rw [hind]
      exact nodup_legs_of_maker candidates m
    have hset := total_at_set hnodup (i := i) (by rw [ht.outs_length]; exact hi)
      ((c.net_quote_exact_in input).toOption.getD (at_leg t.outs i))
    rw [houts]
    by_cases hig : i ∈ g.indices
    · -- The leg is of this group, so its floor is positive and its room is the wallet's.
      have hold := ht.wallets g hg hbinds
      have hsum := hset.1 hig
      cases hy : c.net_quote_exact_in input with
      | error e =>
        simp only [hy, Except.toOption, Option.getD_none] at hsum ⊢
        omega
      | ok y =>
        obtain ⟨hind', hwallet'⟩ := group_indices_of_mem hg hig hc
        have hw : g.wallet_cap = c.wallet_cap := hwallet' _ fun c' hc' hm =>
          hprep.one_wallet c (List.mem_of_getElem? hc) c' hc' hm
        have hw0 : g.wallet_cap ≠ 0 := by
          intro h0
          have hz := U256.eq_zero_iff.1 h0
          have hle : c.cap_out.val ≤ c.wallet_cap.val :=
            hprep.cap_le_wallet c (List.mem_of_getElem? hc)
          rw [hw] at hz
          exact hprep.cap_ne_zero c (List.mem_of_getElem? hc) (U256.eq_zero_iff.2 (by omega))
        have hfloor : (Book.new candidates target .ExactIn).floor i ≠ 0 := by
          rcases floor_spec target .ExactIn hc with ⟨g', hg', -, hi', hlevel⟩ | ⟨hnone, -⟩
          · obtain ⟨hind'', hwallet''⟩ := group_indices_of_mem hg' hi' hc
            have hw' := hwallet'' c.wallet_cap fun c' hc' hm =>
              hprep.one_wallet c (List.mem_of_getElem? hc) c' hc' hm
            rw [hlevel]
            exact (group_floor_spec (by rw [hw', ← hw]; exact hw0)).1.ne'
          · exact absurd hbinds (hnone g hg hig)
        have hspec := topup_room_spec hprep hc hne hroom hfloor
          (by rw [← hind', ← hw]; exact hold) hy
        rw [← hind', ← hw] at hspec
        simp only [hy, Except.toOption, Option.getD_some] at hsum ⊢
        omega
    · rw [hset.2 hig]
      exact ht.wallets g hg hbinds

/-- A split within the frozen caps: every leg within its candidate's cap, and
    one maker's legs together within that maker's wallet. -/
structure WithinCaps (candidates : List Candidate) (split : Split) : Prop where
  legs : ∃ chosen, chosen.Subperm candidates ∧
    List.Forall₂ (fun c leg => leg = leg_of c leg.amount_in leg.amount_out ∧
      leg.amount_out ≤ c.cap_out) chosen split.legs
  wallets : ∀ c ∈ candidates,
    legs_out (split.legs.filter fun leg => leg.maker = c.key.maker) ≤ c.wallet_cap.val

/-- Legs from priced amounts, each within its cap, come one per candidate. -/
theorem capped_legs (kind : FillKind) (cs : List Candidate) (as : List U256)
    (h : ∀ j c leg, cs[j]? = some c → leg_at kind (c, at_leg as j) = some leg →
      leg.amount_out ≤ c.cap_out) :
    ∃ chosen, chosen.Sublist cs ∧
      List.Forall₂ (fun c leg => leg = leg_of c leg.amount_in leg.amount_out ∧
        leg.amount_out ≤ c.cap_out) chosen ((cs.zip as).filterMap (leg_at kind)) := by
  induction cs generalizing as with
  | nil => exact ⟨[], .slnil, .nil⟩
  | cons c cs ih =>
    cases as with
    | nil => exact ⟨[], List.nil_sublist _, .nil⟩
    | cons a as =>
      obtain ⟨chosen, hsub, hlegs⟩ := ih as fun j c' leg hj hleg =>
        h (j + 1) c' leg (by simpa using hj) (by simpa [at_leg] using hleg)
      rw [List.zip_cons_cons]
      cases hleg : leg_at kind (c, a) with
      | none =>
        rw [List.filterMap_cons_none hleg]
        exact ⟨chosen, hsub.cons _, hlegs⟩
      | some leg =>
        rw [List.filterMap_cons_some hleg]
        refine ⟨c :: chosen, hsub.cons_cons _, .cons ⟨(leg_at_eq_some hleg).1.leg_eq, ?_⟩ hlegs⟩
        exact h 0 c leg rfl (by simpa [at_leg] using hleg)

/-- **Exact-in keeps within the caps.** -/
theorem assemble_exact_in_within {candidates : List Candidate} (hprep : Prepared candidates)
    {target : U256} {level : Ratio} {split : Split}
    (h : assemble_exact_in (Book.new candidates target .ExactIn) level target = some split) :
    WithinCaps candidates split := by
  have hbuilt := build_spec h
  set t := Loop.iterate (topup_step (Book.new candidates target .ExactIn))
    (topup_start (Book.new candidates target .ExactIn) level target).remainder.val
    (topup_start (Book.new candidates target .ExactIn) level target) with htdef
  have hfits : Fits candidates target t :=
    Loop.iterate_invariant (P := Fits candidates target)
      (fun _ _ ht hstep => fits_step hprep ht hstep) _ (fits_start hprep target level)
  have hlegs : split.legs = (candidates.zip t.ins).filterMap (leg_at .ExactIn) := hbuilt.legs
  -- A leg is the quote of its slot's input, which is within its bound.
  have hquote : ∀ j c leg, candidates[j]? = some c →
      leg_at .ExactIn (c, at_leg t.ins j) = some leg →
      at_leg t.ins j ≠ 0 ∧ c.net_quote_exact_in (at_leg t.ins j) = .ok leg.amount_out := by
    intro j c leg _ hleg
    obtain ⟨hq, hin⟩ := leg_at_eq_some hleg
    have hin' : leg.amount_in = at_leg t.ins j := hin
    rw [← hin']
    exact ⟨hq.in_ne_zero, hq.quote⟩
  have hcap : ∀ j c leg, candidates[j]? = some c →
      leg_at .ExactIn (c, at_leg t.ins j) = some leg → leg.amount_out ≤ c.cap_out := by
    intro j c leg hc hleg
    have hmem := List.mem_of_getElem? hc
    refine le_cap_of_le_bound (hprep.regular c hmem) (hprep.cap_ne_zero c hmem) target
      ((hfits.within j c hc).trans (min_le_left _ _)) (hquote j c leg hc hleg).2
  refine ⟨?_, ?_⟩
  · obtain ⟨chosen, hsub, hcapped⟩ := capped_legs .ExactIn candidates t.ins hcap
    exact ⟨chosen, hsub.subperm, by rw [hlegs]; exact hcapped⟩
  · intro c hc
    obtain ⟨i₀, hi₀⟩ := List.mem_iff_getElem?.1 hc
    rw [hlegs]
    -- What each leg delivers, zero where there is none.
    set b : ℕ → ℕ := fun j => match candidates[j]? with
      | some c' => match leg_at .ExactIn (c', at_leg t.ins j) with
        | some leg => leg.amount_out.val
        | none => 0
      | none => 0 with hb
    have hbval : ∀ j c', candidates[j]? = some c' →
        b j = 0 ∨ ∃ leg, leg_at .ExactIn (c', at_leg t.ins j) = some leg ∧
          b j = leg.amount_out.val := by
      intro j c' hc'
      simp only [hb, hc']
      cases leg_at .ExactIn (c', at_leg t.ins j) with
      | none => exact .inl rfl
      | some leg => exact .inr ⟨leg, rfl, rfl⟩
    refine le_trans (legs_out_maker_le (b := b) candidates t.ins 0 ?_) ?_
    · intro j c' leg hc' _ hleg
      rw [Nat.zero_add]
      simp [hb, hc', hleg]
    · refine sum_le_wallet target .ExactIn hprep hi₀ ?_ ?_ ?_
      · intro j c' hc' _
        rcases hbval j c' hc' with h0 | ⟨leg, hleg, hval⟩
        · omega
        · rw [hval]
          exact hcap j c' leg hc' hleg
      · intro j c' hc' _ _
        rcases hbval j c' hc' with h0 | ⟨leg, hleg, hval⟩
        · omega
        · rw [hval]
          obtain ⟨hne, hq⟩ := hquote j c' leg hc' hleg
          have hreg := hprep.regular c' (List.mem_of_getElem? hc')
          have hwithin := hfits.within j c' hc'
          rcases exact_in_bound_prices hreg target with h0 | ⟨y, hy⟩
          · rw [h0] at hwithin
            exact absurd (le_antisymm hwithin (Fin.zero_le _)) hne
          · obtain ⟨x, hx, hxy⟩ := hreg.down hy hwithin
            rw [hq] at hx
            cases hx
            exact hxy.trans (hreg.full hy)
      · intro g hg hind hbinds
        refine le_trans ?_ (hfits.wallets g hg hbinds)
        unfold total_at
        refine List.sum_le_sum ?_
        intro j hj
        rw [hind, mem_legs_of_maker] at hj
        obtain ⟨c', hc', -⟩ := hj
        rcases hbval j c' hc' with h0 | ⟨leg, hleg, hval⟩
        · omega
        · rw [hval]
          obtain ⟨hne, hq⟩ := hquote j c' leg hc' hleg
          exact hfits.covers j c' _ hc' hne hq

/-! ## Exact-out -/

theorem legs_out_filter_le (legs : List RouteLeg) (p : RouteLeg → Bool) :
    legs_out (legs.filter p) ≤ legs_out legs := by
  induction legs with
  | nil => exact le_rfl
  | cons leg legs ih =>
    rw [List.filter_cons]
    split
    · simp only [legs_out, List.map_cons, total_cons] at ih ⊢
      omega
    · simp only [legs_out, List.map_cons, total_cons] at ih ⊢
      omega

/-- **Exact-out keeps within the caps.** -/
theorem assemble_exact_out_within {candidates : List Candidate} (hprep : Prepared candidates)
    {target : U256} {level : Ratio} {split : Split}
    (h : assemble_exact_out (Book.new candidates target .ExactOut) level target = some split) :
    WithinCaps candidates split := by
  set book := Book.new candidates target .ExactOut with hbook
  set outs := (book.fills level).map LimitedQuote.amount_out with houts
  set trimmed := trim_to_total candidates outs target (List.range candidates.length) with htrimmed
  have hbuilt : Built .ExactOut (candidates.zip trimmed) split := build_spec h
  have hlen : outs.length = candidates.length := by
    rw [houts, List.length_map, book.length_fills]
    rfl
  have hspec := trim_spec candidates target hlen
  rw [← htrimmed] at hspec
  obtain ⟨hlen', hle, htotal⟩ := hspec
  have htarget : total trimmed ≤ target.val := by omega
  have hamount : ∀ j c leg, leg_at .ExactOut (c, at_leg trimmed j) = some leg →
      leg.amount_out = at_leg trimmed j := fun j c leg hleg => (leg_at_eq_some hleg).2
  -- Where the cap binds, the fill the leg is trimmed from is within it.
  have hslot : ∀ j c, candidates[j]? = some c → at_leg trimmed j ≤ c.cap_out := by
    intro j c hc
    have hmem := List.mem_of_getElem? hc
    by_cases hsmall : target < c.cap_out
    · have hj := at_leg_le_total trimmed j
      have hsmall' : target.val < c.cap_out.val := hsmall
      rw [Fin.le_def]
      omega
    · refine (hle j).trans ?_
      rw [houts, at_leg_outs (show book.candidates[j]? = some c from hc)]
      obtain ⟨hin, hquote⟩ := leg_quotes target .ExactOut level hc
      rcases hquote with hquote | ⟨-, hzero⟩
      · refine le_cap_of_le_bound (hprep.regular c hmem) (hprep.cap_ne_zero c hmem)
          U256.MAX ?_ hquote
        simpa only [input_bound, if_neg hsmall] using hin
      · rw [hbook, hzero]
        exact Fin.zero_le _
  have hlegs : split.legs = (candidates.zip trimmed).filterMap (leg_at .ExactOut) := hbuilt.legs
  refine ⟨?_, ?_⟩
  · obtain ⟨chosen, hsub, hcapped⟩ := capped_legs .ExactOut candidates trimmed
      (fun j c leg hc hleg => by
        rw [hamount j c leg hleg]
        exact hslot j c hc)
    exact ⟨chosen, hsub.subperm, by rw [hlegs]; exact hcapped⟩
  · intro c hc
    obtain ⟨i₀, hi₀⟩ := List.mem_iff_getElem?.1 hc
    rw [hlegs]
    by_cases hsmall : ∃ (j : ℕ) (c' : Candidate), candidates[j]? = some c' ∧ c'.key.maker = c.key.maker ∧
        target < c'.cap_out
    · -- One leg alone could take the whole request, so all of it fits the wallet.
      obtain ⟨j, c', hc', hm, hlt⟩ := hsmall
      have hlt' : target.val < c'.cap_out.val := hlt
      have hcap' : c'.cap_out.val ≤ c'.wallet_cap.val :=
        hprep.cap_le_wallet c' (List.mem_of_getElem? hc')
      rw [hprep.one_wallet c hc c' (List.mem_of_getElem? hc') hm] at hcap'
      have hall := legs_out_le_total (candidates.zip trimmed)
      rw [List.map_snd_zip (by omega)] at hall
      have hfilter := legs_out_filter_le ((candidates.zip trimmed).filterMap (leg_at .ExactOut))
        fun leg => leg.maker = c.key.maker
      omega
    · push Not at hsmall
      have hprices : ∀ (j : ℕ) (c' : Candidate), candidates[j]? = some c' →
          c'.key.maker = c.key.maker →
          input_bound target .ExactOut c' = 0 ∨
            ∃ y, c'.net_quote_exact_in (input_bound target .ExactOut c') = .ok y := by
        intro j c' hc' hm
        have hbig : ¬ target < c'.cap_out := not_lt.2 (hsmall j c' hc' hm)
        simpa only [input_bound, if_neg hbig] using
          cap_bound_prices (hprep.regular c' (List.mem_of_getElem? hc')) U256.MAX
      refine le_trans (legs_out_maker_le (b := fun j => (at_leg trimmed j).val)
        candidates trimmed 0 ?_) ?_
      · intro j c' leg _ _ hleg
        rw [hamount j c' leg hleg, Nat.zero_add]
      · refine sum_le_wallet target .ExactOut hprep hi₀ ?_ ?_ ?_
        · intro j c' hc' _
          exact hslot j c' hc'
        · intro j c' hc' hm _
          have hfill : at_leg trimmed j ≤ fill_output c' (input_bound target .ExactOut c') 0 := by
            refine (hle j).trans ?_
            rw [houts, at_leg_outs (show book.candidates[j]? = some c' from hc'), hbook,
              leg_out_eq hc']
            exact fill_output_anti (hprep.regular c' (List.mem_of_getElem? hc'))
              (hprices j c' hc' hm) zero_le
          exact hfill
        · intro g hg hind hbinds
          refine le_trans (List.sum_le_sum ?_) (binding_fills_le hprep level hg hbinds ?_)
          · intro j _
            exact hle j
          · intro j hj c' hc'
            rw [hind, mem_legs_of_maker] at hj
            obtain ⟨c'', hc'', hm⟩ := hj
            rw [hc'] at hc''
            cases hc''
            exact hprices j c' hc' hm

/-! ## Any split -/

/-- **Every split keeps within the caps**, exact-in or exact-out, whatever the
    warm start. -/
theorem solve_within {candidates : List Candidate} (hprep : Prepared candidates)
    {request : RouteRequest} {warm : Option Ratio} {split : Split}
    (h : solve candidates request warm = some split) : WithinCaps candidates split := by
  cases hin : request.exact_in with
  | true => exact assemble_exact_in_within hprep (solve_exact_in hin h).2
  | false => exact assemble_exact_out_within hprep (solve_exact_out hin h).2

end Solvent
