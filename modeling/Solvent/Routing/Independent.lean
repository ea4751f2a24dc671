import Mathlib
import Solvent.Framework.Choice
import Solvent.Routing.ExactIn
import Solvent.Routing.Symmetric
import Solvent.Routing.Trim

/-! # Routing does not depend on the order of the candidates

    Two lists of the same candidates, with pairwise different strategy hashes,
    name each other's legs (`Renames`). Every step of the solver keeps the
    amounts of the two runs `Matched`: the same amount at the leg of the same
    candidate. Where the solver chooses or sorts, the strategy hash breaks the
    tie, so both runs choose the same candidate.

    What can differ is the order of the legs: `Split.Same` leaves it open.
-/

namespace Solvent

open BTreeMap

/-! ## Names of legs -/

/-- No two candidates share a strategy hash. -/
def Distinct (cs : List Candidate) : Prop :=
  (cs.map fun c => c.key.strategy_hash).Nodup

instance (cs : List Candidate) : Decidable (Distinct cs) :=
  inferInstanceAs (Decidable (cs.map fun c => c.key.strategy_hash).Nodup)

/-- `σ` gives each leg of `cs'` the place of its candidate in `cs`. -/
structure Renames (σ : ℕ → ℕ) (cs cs' : List Candidate) : Prop where
  get : ∀ j c, cs'[j]? = some c → cs[σ j]? = some c
  entries : (cs'.zipIdx.map fun e => (e.1, σ e.2)).Perm cs.zipIdx

theorem Distinct.eq_of_hash {cs : List Candidate} (h : Distinct cs) {c c' : Candidate}
    (hc : c ∈ cs) (hc' : c' ∈ cs) (hhash : c.key.strategy_hash = c'.key.strategy_hash) : c = c' :=
  List.inj_on_of_nodup_map h hc hc' hhash

theorem Distinct.index_inj {cs : List Candidate} (h : Distinct cs) {i j : ℕ} {c c' : Candidate}
    (hi : cs[i]? = some c) (hj : cs[j]? = some c')
    (hhash : c.key.strategy_hash = c'.key.strategy_hash) : i = j := by
  have hc := List.mem_of_getElem? hi
  obtain rfl := h.eq_of_hash hc (List.mem_of_getElem? hj) hhash
  exact (List.getElem?_inj (List.getElem?_eq_some_iff.mp hi).1 h.of_map).mp (hi.trans hj.symm)

theorem Distinct.perm {cs cs' : List Candidate} (h : Distinct cs) (hperm : cs.Perm cs') :
    Distinct cs' :=
  (hperm.map _).nodup_iff.mp h

/-- Where a candidate stands. -/
def place (cs : List Candidate) (hash : StrategyHash) : ℕ :=
  cs.findIdx fun c => c.key.strategy_hash = hash

theorem Distinct.get_place {cs : List Candidate} (h : Distinct cs) {c : Candidate} (hc : c ∈ cs) :
    cs[place cs c.key.strategy_hash]? = some c := by
  have hlt : place cs c.key.strategy_hash < cs.length :=
    List.findIdx_lt_length_of_exists ⟨c, hc, by simp⟩
  have hfound : (cs[place cs c.key.strategy_hash]).key.strategy_hash = c.key.strategy_hash := by
    exact of_decide_eq_true (List.findIdx_getElem (p := fun c' : Candidate =>
      decide (c'.key.strategy_hash = c.key.strategy_hash)) (w := hlt))
  rw [List.getElem?_eq_getElem hlt, h.eq_of_hash (List.getElem_mem hlt) hc hfound]

/-- Reordered candidates name each other's legs. -/
theorem exists_renames {cs cs' : List Candidate} (h : Distinct cs) (hperm : cs.Perm cs') :
    ∃ σ, Renames σ cs cs' := by
  have h' := h.perm hperm
  let σ : ℕ → ℕ := fun j => (cs'[j]?).elim 0 fun c => place cs c.key.strategy_hash
  have hget : ∀ j c, cs'[j]? = some c → cs[σ j]? = some c := by
    intro j c hj
    have hσ : σ j = place cs c.key.strategy_hash := by simp only [σ, hj, Option.elim_some]
    rw [hσ]
    exact h.get_place (hperm.symm.subset (List.mem_of_getElem? hj))
  refine ⟨σ, hget, ?_⟩
  -- Both entry lists have no duplicates and the same length.
  have hnodup : (cs'.zipIdx.map fun e => (e.1, σ e.2)).Nodup := by
    have hidx : cs'.zipIdx.Nodup := by
      refine List.Nodup.of_map Prod.snd ?_
      rw [List.zipIdx_map_snd]
      exact List.nodup_range' 1
    refine List.Nodup.map_on ?_ hidx
    intro e he e' he' heq
    have hfst : e.1 = e'.1 := (Prod.mk.inj heq).1
    refine Prod.ext hfst (h'.index_inj (List.mem_zipIdx_iff_getElem?.mp he)
      (List.mem_zipIdx_iff_getElem?.mp he') ?_)
    rw [hfst]
  have hsub : (cs'.zipIdx.map fun e => (e.1, σ e.2)) ⊆ cs.zipIdx := by
    intro e he
    obtain ⟨⟨c, j⟩, hmem, rfl⟩ := List.mem_map.mp he
    exact List.mem_zipIdx_iff_getElem?.mpr (hget j c (List.mem_zipIdx_iff_getElem?.mp hmem))
  refine (List.subperm_of_subset hnodup hsub).perm_of_length_le ?_
  simp [hperm.length_eq]

section Renamed

variable {σ : ℕ → ℕ} {cs cs' : List Candidate}

theorem Renames.length (hr : Renames σ cs cs') : cs'.length = cs.length := by
  simpa using hr.entries.length_eq

theorem Renames.perm (hr : Renames σ cs cs') : cs.Perm cs' := by
  have h := hr.entries.map Prod.fst
  rw [List.map_map, List.zipIdx_map_fst] at h
  have hfst : (cs'.zipIdx.map fun e => e.1) = cs' := List.zipIdx_map_fst 0 cs'
  rw [show (Prod.fst ∘ fun e : Candidate × ℕ => (e.1, σ e.2)) = fun e => e.1 from rfl, hfst] at h
  exact h.symm

theorem Renames.exists_get (hr : Renames σ cs cs') {j : ℕ} (hj : j < cs'.length) :
    ∃ c, cs'[j]? = some c ∧ cs[σ j]? = some c :=
  ⟨cs'[j], List.getElem?_eq_getElem hj, hr.get j _ (List.getElem?_eq_getElem hj)⟩

theorem Renames.lt (hr : Renames σ cs cs') {j : ℕ} (hj : j < cs'.length) : σ j < cs.length := by
  obtain ⟨c, -, hc⟩ := hr.exists_get hj
  exact (List.getElem?_eq_some_iff.mp hc).1

theorem Renames.inj (hr : Renames σ cs cs') (h : Distinct cs) {i j : ℕ} (hi : i < cs'.length)
    (hj : j < cs'.length) (heq : σ i = σ j) : i = j := by
  obtain ⟨c, hc, hσ⟩ := hr.exists_get hi
  obtain ⟨c', hc', hσ'⟩ := hr.exists_get hj
  rw [heq, hσ'] at hσ
  obtain rfl := Option.some.inj hσ
  exact (h.perm hr.perm).index_inj hc hc' rfl

/-! ## Matched amounts -/

/-- One amount per leg, and the same one at the leg of the same candidate. -/
structure Matched (σ : ℕ → ℕ) (cs : List Candidate) (as as' : List U256) : Prop where
  length : as.length = cs.length
  length' : as'.length = cs.length
  amount : ∀ j, j < cs.length → at_leg as' j = at_leg as (σ j)

theorem at_leg_map {cs : List Candidate} {i : ℕ} {c : Candidate} (h : cs[i]? = some c)
    (f : Candidate → U256) : at_leg (cs.map f) i = f c := by
  simp [at_leg, List.getD_eq_getElem?_getD, h]

theorem Renames.matched (hr : Renames σ cs cs') {f f' : Candidate → U256}
    (hf : ∀ c ∈ cs, f c = f' c) : Matched σ cs (cs.map f) (cs'.map f') where
  length := List.length_map f
  length' := by rw [List.length_map, hr.length]
  amount := by
    intro j hj
    rw [← hr.length] at hj
    obtain ⟨c, hc, hσ⟩ := hr.exists_get hj
    rw [at_leg_map hc, at_leg_map hσ, hf c (List.mem_of_getElem? hσ)]

theorem Matched.set {as as' : List U256} (hm : Matched σ cs as as') (hr : Renames σ cs cs')
    (h : Distinct cs) {j : ℕ} (hj : j < cs.length) (a : U256) :
    Matched σ cs (as.set (σ j) a) (as'.set j a) where
  length := by rw [List.length_set, hm.length]
  length' := by rw [List.length_set, hm.length']
  amount := by
    intro i hi
    have hj' : j < cs'.length := by rw [hr.length]; exact hj
    have hi' : i < cs'.length := by rw [hr.length]; exact hi
    rw [at_leg_set, at_leg_set, hm.length, hm.length']
    by_cases hij : j = i
    · subst hij
      rw [if_pos ⟨rfl, hj⟩, if_pos ⟨rfl, hr.lt hj'⟩]
    · have hσ : σ j ≠ σ i := fun heq => hij (hr.inj h hj' hi' heq)
      rw [if_neg fun hand => hij hand.1, if_neg fun hand => hσ hand.1]
      exact hm.amount i hi

/-- Pairing candidates with their amounts, read off the legs. -/
theorem zip_eq (cs : List Candidate) (as : List U256) (h : as.length = cs.length) :
    cs.zip as = cs.zipIdx.map fun e => (e.1, at_leg as e.2) := by
  apply List.ext_getElem
  · simp [h]
  · intro i hi hi'
    have hlt : i < as.length := by
      rw [List.length_zip] at hi
      omega
    simp [at_leg, List.getD_eq_getElem?_getD, hlt]

/-- **Matched amounts pair up alike.** -/
theorem Matched.zip {as as' : List U256} (hm : Matched σ cs as as') (hr : Renames σ cs cs') :
    (cs'.zip as').Perm (cs.zip as) := by
  rw [zip_eq cs as hm.length, zip_eq cs' as' (hm.length'.trans hr.length.symm)]
  have hmap : (cs'.zipIdx.map fun e => (e.1, at_leg as' e.2)) =
      (cs'.zipIdx.map fun e => (e.1, σ e.2)).map fun e => (e.1, at_leg as e.2) := by
    rw [List.map_map]
    refine List.map_congr_left ?_
    rintro ⟨c, j⟩ he
    have hj := (List.getElem?_eq_some_iff.mp (List.mem_zipIdx_iff_getElem?.mp he)).1
    rw [hr.length] at hj
    simp only [Function.comp, hm.amount j hj]
  rw [hmap]
  exact hr.entries.map _

theorem Matched.perm {as as' : List U256} (hm : Matched σ cs as as') (hr : Renames σ cs cs') :
    as'.Perm as := by
  have h := (hm.zip hr).map Prod.snd
  rwa [List.map_snd_zip (by rw [hm.length', hr.length]),
    List.map_snd_zip (by rw [hm.length])] at h

end Renamed

/-! ## Building -/

namespace Split

/-- The same split, up to the order of its legs. -/
structure Same (s s' : Split) : Prop where
  lambda : s.lambda = s'.lambda
  amount_in : s.amount_in = s'.amount_in
  amount_out : s.amount_out = s'.amount_out
  legs : s.legs.Perm s'.legs

end Split

/-- Two fallible results agree when each result of one is matched by the other,
    and the other has none of its own. -/
theorem option_rel_of {α β : Type} {R : α → β → Prop} {x : Option α} {y : Option β}
    (h : ∀ a, x = some a → ∃ b, y = some b ∧ R a b) (h' : y.isSome → x.isSome) :
    Option.Rel R x y := by
  match x, y, h, h' with
  | none, none, _, _ => exact .none
  | none, some b, _, h' => exact absurd (h' rfl) (by simp)
  | some a, y, h, _ =>
    obtain ⟨b, rfl, hab⟩ := h a rfl
    exact .some hab

theorem build_from_lambda {kind : FillKind} {lambda : Ratio} {ps : List (Candidate × U256)}
    {legs : List RouteLeg} {ai ao : U256} {split : Split}
    (h : build_from kind lambda ps legs ai ao = some split) : split.lambda = lambda := by
  induction ps generalizing legs ai ao with
  | nil =>
    simp only [build_from] at h
    split at h
    · cases h
    · cases h
      rfl
  | cons p ps ih =>
    obtain ⟨c, amount⟩ := p
    simp only [build_from] at h
    -- Every branch that goes on does so with the same level.
    split at h
    · exact ih h
    · split at h
      · cases h
      · split at h
        · exact ih h
        · split at h
          · exact ih h
          · cases h

/-- **Building** reads its pairs in no particular order. -/
theorem build_perm {cs cs' : List Candidate} {as as' : List U256} (kind : FillKind)
    (lambda : Ratio) (h : (cs.zip as).Perm (cs'.zip as')) :
    Option.Rel Split.Same (build cs as kind lambda) (build cs' as' kind lambda) := by
  have hbuilds : ∀ {cs cs' : List Candidate} {as as' : List U256},
      (cs.zip as).Perm (cs'.zip as') → ∀ split, build cs as kind lambda = some split →
      (build cs' as' kind lambda).isSome := by
    intro cs cs' as as' h split hsplit
    have hbuilt := build_spec hsplit
    have hlegs : (split.legs).Perm ((cs'.zip as').filterMap (leg_at kind)) := by
      rw [hbuilt.legs]
      exact h.filterMap _
    have hin := total_perm (hlegs.map RouteLeg.amount_in)
    have hout := total_perm (hlegs.map RouteLeg.amount_out)
    have hmax_in := hbuilt.amount_in ▸ split.amount_in.isLt
    have hmax_out := hbuilt.amount_out ▸ split.amount_out.isLt
    refine build_from_isSome (fun p hp => hbuilt.prices p (h.symm.subset hp)) ?_ ?_ ?_
    · rw [List.nil_append]
      intro hnil
      rw [hnil] at hlegs
      exact hbuilt.ne_nil (List.perm_nil.mp hlegs)
    · simp only [legs_in] at hin hmax_in ⊢
      rw [← hin]
      simpa using hmax_in
    · simp only [legs_out] at hout hmax_out ⊢
      rw [← hout]
      simpa using hmax_out
  refine option_rel_of ?_ ?_
  · intro split hsplit
    obtain ⟨split', hsplit'⟩ := Option.isSome_iff_exists.mp (hbuilds h split hsplit)
    have hbuilt := build_spec hsplit
    have hbuilt' := build_spec hsplit'
    have hlegs : split.legs.Perm split'.legs := by
      rw [hbuilt.legs, hbuilt'.legs]
      exact h.filterMap _
    refine ⟨split', hsplit', ?_, ?_, ?_, hlegs⟩
    · rw [build_from_lambda hsplit, build_from_lambda hsplit']
    · apply Fin.ext
      rw [hbuilt.amount_in, hbuilt'.amount_in]
      exact total_perm (hlegs.map _)
    · apply Fin.ext
      rw [hbuilt.amount_out, hbuilt'.amount_out]
      exact total_perm (hlegs.map _)
  · intro hsome
    obtain ⟨split', hsplit'⟩ := Option.isSome_iff_exists.mp hsome
    exact hbuilds h.symm split' hsplit'

/-! ## Trimming -/

section Trim

variable {σ : ℕ → ℕ} {cs cs' : List Candidate}

theorem Renames.indices (hr : Renames σ cs cs') :
    ((List.range cs'.length).map σ).Perm (List.range cs.length) := by
  have h := hr.entries.map Prod.snd
  rw [List.map_map, List.zipIdx_map_snd] at h
  have hsnd : cs'.zipIdx.map (Prod.snd ∘ fun e => (e.1, σ e.2)) =
      (cs'.zipIdx.map Prod.snd).map σ := by
    rw [List.map_map]
    rfl
  rwa [hsnd, List.zipIdx_map_snd, ← List.range_eq_range', ← List.range_eq_range'] at h

theorem Renames.trim_key (hr : Renames σ cs cs') {as as' : List U256} (hm : Matched σ cs as as')
    {j : ℕ} (hj : j < cs'.length) :
    Solvent.trim_key cs as (σ j) = Solvent.trim_key cs' as' j := by
  obtain ⟨c, hc, hσ⟩ := hr.exists_get hj
  rw [Solvent.trim_key, Solvent.trim_key, hc, hσ, hm.amount j (by rw [← hr.length]; exact hj)]

/-- Two legs of one trim key are one leg. -/
theorem Distinct.trim_key_inj (h : Distinct cs) {as : List U256} {i j : ℕ} (hi : i < cs.length)
    (hj : j < cs.length) (heq : trim_key cs as i = trim_key cs as j) : i = j := by
  have hhash := congrArg (fun k => (ofLex k).2) heq
  simp only [trim_key, ofLex_toLex, List.getElem?_eq_getElem hi, List.getElem?_eq_getElem hj,
    Option.map_some, Option.getD_some] at hhash
  refine h.index_inj (List.getElem?_eq_getElem hi) (List.getElem?_eq_getElem hj) ?_
  exact congrArg StrategyHash.mk (Fin.ext hhash)

/-- Keeping what fits, leg by leg in the same order. -/
theorem Matched.retain (hr : Renames σ cs cs') (h : Distinct cs) {order : List ℕ}
    (hord : ∀ j ∈ order, j < cs'.length) {as as' : List U256} (hm : Matched σ cs as as')
    (remaining : U256) :
    Matched σ cs (Solvent.retain (order.map σ) as remaining)
      (Solvent.retain order as' remaining) := by
  induction order generalizing as as' remaining with
  | nil => exact hm
  | cons j order ih =>
    have hj : j < cs.length := by
      rw [← hr.length]
      exact hord j (by simp)
    simp only [List.map_cons, Solvent.retain]
    rw [← hm.amount j hj]
    exact ih (fun i hi => hord i (by simp [hi])) (hm.set hr h hj _) _

/-- **Trimming keeps the amounts matched**: both runs cut in the same order. -/
theorem Matched.trim (hr : Renames σ cs cs') (h : Distinct cs) {as as' : List U256}
    (hm : Matched σ cs as as') (target : U256) :
    Matched σ cs (trim_to_total cs as target (List.range cs.length))
      (trim_to_total cs' as' target (List.range cs'.length)) := by
  unfold trim_to_total
  simp only
  set kept := (List.range cs.length).filter fun i => decide (at_leg as i ≠ 0) with hkept
  set kept' := (List.range cs'.length).filter fun i => decide (at_leg as' i ≠ 0) with hkept'
  have hlt : ∀ i ∈ kept, i < cs.length := fun i hi =>
    List.mem_range.mp (List.mem_of_mem_filter hi)
  have hlt' : ∀ j ∈ kept', j < cs'.length := fun j hj =>
    List.mem_range.mp (List.mem_of_mem_filter hj)
  have hperm : (kept'.map σ).Perm kept := by
    have hfilter : kept' = (List.range cs'.length).filter
        ((fun i => decide (at_leg as i ≠ 0)) ∘ σ) := by
      refine List.filter_congr ?_
      intro j hj
      rw [List.mem_range, hr.length] at hj
      rw [Function.comp, hm.amount j hj]
    rw [hfilter, ← List.filter_map]
    exact hr.indices.filter _
  have hsorted : kept.insertionSort (trim_order cs as) =
      (kept'.insertionSort (trim_order cs' as')).map σ := by
    refine Choice.insertionSort_renamed hperm ?_ ?_
    · intro j hj j' hj'
      rw [trim_order_iff, trim_order_iff, hr.trim_key hm (hlt' j hj), hr.trim_key hm (hlt' j' hj')]
    · intro i hi i' hi' hle hle'
      rw [trim_order_iff] at hle hle'
      exact h.trim_key_inj (hlt i hi) (hlt i' hi') (le_antisymm hle hle')
  rw [hsorted, ← List.map_reverse]
  refine Matched.retain hr h ?_ hm target
  intro j hj
  exact hlt' j ((List.mem_insertionSort _).mp (List.mem_reverse.mp hj))

end Trim

/-! ## Topping up -/

section TopUp

variable {σ : ℕ → ℕ} {cs cs' : List Candidate}

/-- The two runs have poured the same into the same candidates. -/
structure SamePour (σ : ℕ → ℕ) (cs : List Candidate) (t t' : TopUp) : Prop where
  ins : Matched σ cs t.ins t'.ins
  outs : Matched σ cs t.outs t'.outs
  remainder : t.remainder = t'.remainder

/-- A maker's combined output is the same sum, leg for leg. -/
theorem Renames.output_for_leg (hr : Renames σ cs cs') {outs outs' : List U256}
    (hm : Matched σ cs outs outs') {j : ℕ} {c : Candidate} (hj : cs'[j]? = some c) :
    (MakerGroups.new cs').output_for_leg outs' j =
      (MakerGroups.new cs).output_for_leg outs (σ j) := by
  have hσ := hr.get j c hj
  obtain ⟨hmem, hin⟩ := group_of_spec hσ
  obtain ⟨hmem', hin'⟩ := group_of_spec hj
  have hlegs := (maker_group_spec (maker_group_of_mem hmem hin hσ)).1
  have hlegs' := (maker_group_spec (maker_group_of_mem hmem' hin' hj)).1
  unfold MakerGroups.output_for_leg
  rw [hlegs, hlegs']
  refine saturating_sum_perm ?_
  -- The legs of the maker, named by the other list.
  have hnames : ((legs_of_maker cs' c.key.maker).map σ).Perm (legs_of_maker cs c.key.maker) := by
    have h := (hr.entries.filter fun e => decide (e.1.key.maker = c.key.maker)).map Prod.snd
    rw [List.filter_map, List.map_map] at h
    rw [legs_of_maker, legs_of_maker, List.map_map]
    exact h
  refine List.Perm.trans ?_ (hnames.map (at_leg outs))
  rw [List.map_map]
  refine List.Perm.of_eq (List.map_congr_left ?_)
  intro i hi
  obtain ⟨c', hc', -⟩ := mem_legs_of_maker.mp hi
  have hlt := (List.getElem?_eq_some_iff.mp hc').1
  rw [hr.length] at hlt
  exact hm.amount i hlt

theorem Renames.topup_room (hr : Renames σ cs cs') (target : U256) (kind : FillKind)
    {ins ins' outs outs' : List U256} (hins : Matched σ cs ins ins')
    (houts : Matched σ cs outs outs') {j : ℕ} {c : Candidate} (hj : cs'[j]? = some c) :
    (Book.new cs' target kind).topup_room ins' outs' (c, j) =
      (Book.new cs target kind).topup_room ins outs (c, σ j) := by
  have hσ := hr.get j c hj
  have hlt : j < cs.length := by
    rw [← hr.length]
    exact (List.getElem?_eq_some_iff.mp hj).1
  have hfloor : (Book.new cs' target kind).floor j = (Book.new cs target kind).floor (σ j) := by
    rw [floor_eq hj, floor_eq hσ,
      candidate_floor_perm target kind hr.perm (List.mem_of_getElem? hσ)]
  have hused : (Book.new cs' target kind).groups.output_for_leg outs' j =
      (Book.new cs target kind).groups.output_for_leg outs (σ j) := hr.output_for_leg houts hj
  unfold Book.topup_room
  simp only
  rw [at_leg_bounds hj, at_leg_bounds hσ, hfloor, hused, hins.amount j hlt, houts.amount j hlt]

theorem Renames.topup_key (hr : Renames σ cs cs') (target : U256) (kind : FillKind)
    {t t' : TopUp} (ht : SamePour σ cs t t') {j : ℕ} {c : Candidate} (hj : cs'[j]? = some c) :
    Solvent.topup_key (Book.new cs' target kind) t' (c, j) =
      Solvent.topup_key (Book.new cs target kind) t (c, σ j) := by
  have hlt : j < cs.length := by
    rw [← hr.length]
    exact (List.getElem?_eq_some_iff.mp hj).1
  unfold Solvent.topup_key
  simp only
  rw [hr.topup_room target kind ht.ins ht.outs hj, ht.ins.amount j hlt, ht.remainder]

/-- **Step lemma.** A round pours the same amount into the same candidate. -/
theorem SamePour.step (hr : Renames σ cs cs') (h : Distinct cs) (target : U256) (kind : FillKind)
    {t t' : TopUp} (ht : SamePour σ cs t t') :
    Option.Rel (SamePour σ cs) (topup_step (Book.new cs target kind) t)
      (topup_step (Book.new cs' target kind) t') := by
  set book := Book.new cs target kind with hbook
  set book' := Book.new cs' target kind with hbook'
  set open_legs := cs.zipIdx.filter fun e => decide (book.topup_room t.ins t.outs e ≠ 0)
    with hopen
  set open_legs' := cs'.zipIdx.filter fun e => decide (book'.topup_room t'.ins t'.outs e ≠ 0)
    with hopen'
  have hget : ∀ e ∈ open_legs', cs'[e.2]? = some e.1 := fun e he =>
    List.mem_zipIdx_iff_getElem?.mp (List.mem_of_mem_filter he)
  -- The same legs are open.
  have hperm : (open_legs'.map fun e => (e.1, σ e.2)).Perm open_legs := by
    have hfilter : open_legs' = cs'.zipIdx.filter
        ((fun e => decide (book.topup_room t.ins t.outs e ≠ 0)) ∘ fun e => (e.1, σ e.2)) := by
      refine List.filter_congr ?_
      rintro ⟨c, j⟩ he
      rw [Function.comp, hr.topup_room target kind ht.ins ht.outs
        (List.mem_zipIdx_iff_getElem?.mp he)]
    rw [hfilter, ← List.filter_map]
    exact hr.entries.filter _
  have hchoice : Vec.max_by_key (topup_key book t) open_legs =
      (Vec.max_by_key (topup_key book' t') open_legs').map fun e => (e.1, σ e.2) := by
    refine Choice.max_by_key_renamed hperm ?_ ?_
    · rintro ⟨c, j⟩ he
      exact (hr.topup_key target kind ht (hget (c, j) he)).symm
    · -- Keys end in the hash, so equal keys are the same leg.
      intro e he e' he' heq
      have hhash : e.1.key.strategy_hash = e'.1.key.strategy_hash :=
        congrArg (fun k => (ofLex k).2) heq
      have hi := List.mem_zipIdx_iff_getElem?.mp (List.mem_of_mem_filter he)
      have hi' := List.mem_zipIdx_iff_getElem?.mp (List.mem_of_mem_filter he')
      exact Prod.ext (h.eq_of_hash (List.mem_of_getElem? hi) (List.mem_of_getElem? hi') hhash)
        (h.index_inj hi hi' hhash)
  unfold topup_step
  rw [← ht.remainder]
  by_cases hzero : t.remainder = 0
  · rw [if_pos hzero, if_pos hzero]
    exact .none
  · rw [if_neg hzero, if_neg hzero]
    have hleg : Vec.max_by_key (topup_key book t)
          (book.candidates.zipIdx.filter fun e => book.topup_room t.ins t.outs e ≠ 0) =
        (Vec.max_by_key (topup_key book' t') open_legs').map fun e => (e.1, σ e.2) := hchoice
    have hleg' : Vec.max_by_key (topup_key book' t')
          (book'.candidates.zipIdx.filter fun e => book'.topup_room t'.ins t'.outs e ≠ 0) =
        Vec.max_by_key (topup_key book' t') open_legs' := rfl
    rw [hleg, hleg']
    cases hbest : Vec.max_by_key (topup_key book' t') open_legs' with
    | none => exact .none
    | some e =>
      obtain ⟨c, j⟩ := e
      have hj : cs'[j]? = some c := hget (c, j) (Vec.max_by_key_mem hbest)
      have hlt : j < cs.length := by
        rw [← hr.length]
        exact (List.getElem?_eq_some_iff.mp hj).1
      simp only [Option.map_some]
      rw [hr.topup_room target kind ht.ins ht.outs hj, ht.ins.amount j hlt, ht.outs.amount j hlt]
      by_cases hadd : min t.remainder (book.topup_room t.ins t.outs (c, σ j)) = 0
      · rw [if_pos hadd, if_pos hadd]
        exact .none
      · rw [if_neg hadd, if_neg hadd]
        exact .some ⟨ht.ins.set hr h hlt _, ht.outs.set hr h hlt _, rfl⟩

theorem Renames.topup_start (hr : Renames σ cs cs') (target : U256) (kind : FillKind)
    (level : Ratio) :
    SamePour σ cs (Solvent.topup_start (Book.new cs target kind) level target)
      (Solvent.topup_start (Book.new cs' target kind) level target) := by
  have hmatched : ∀ f : LimitedQuote → U256,
      Matched σ cs (((Book.new cs target kind).fills level).map f)
        (((Book.new cs' target kind).fills level).map f) := by
    intro f
    rw [fills_eq, fills_eq, List.map_map, List.map_map]
    refine hr.matched fun c hc => ?_
    rw [Function.comp, Function.comp, candidate_fill_perm target kind hr.perm level hc]
  refine ⟨hmatched _, hmatched _, ?_⟩
  show target.saturating_sub _ = target.saturating_sub _
  rw [saturating_sum_perm ((hmatched LimitedQuote.amount_in).perm hr)]

/-- **Run lemma.** Both top-ups end with the same fills. -/
theorem assemble_exact_in_perm (hr : Renames σ cs cs') (h : Distinct cs) (level : Ratio)
    (target : U256) :
    Option.Rel Split.Same (assemble_exact_in (Book.new cs target .ExactIn) level target)
      (assemble_exact_in (Book.new cs' target .ExactIn) level target) := by
  have hstart := hr.topup_start target .ExactIn level
  unfold assemble_exact_in
  simp only
  rw [← hstart.remainder]
  have hend := Loop.iterate_related (fun t t' ht => SamePour.step hr h target .ExactIn ht)
    (Solvent.topup_start (Book.new cs target .ExactIn) level target).remainder.val hstart
  exact build_perm .ExactIn level (hend.ins.zip hr).symm

theorem assemble_exact_out_perm (hr : Renames σ cs cs') (h : Distinct cs) (level : Ratio)
    (target : U256) :
    Option.Rel Split.Same (assemble_exact_out (Book.new cs target .ExactOut) level target)
      (assemble_exact_out (Book.new cs' target .ExactOut) level target) := by
  have hstart := hr.topup_start target .ExactOut level
  exact build_perm .ExactOut level ((hstart.outs.trim hr h target).zip hr).symm

end TopUp

/-! ## Solving -/

/-- **A solve** finds the same split. -/
theorem solve_perm {cs cs' : List Candidate} (h : Distinct cs) (hperm : cs.Perm cs')
    (request : RouteRequest) (warm : Option Ratio) :
    Option.Rel Split.Same (solve cs request warm) (solve cs' request warm) := by
  obtain ⟨σ, hr⟩ := exists_renames h hperm
  have hempty : cs.isEmpty = cs'.isEmpty := by
    rw [Bool.eq_iff_iff, List.isEmpty_iff, List.isEmpty_iff]
    exact ⟨fun hnil => List.nil_perm.mp (hnil ▸ hperm), fun hnil => List.perm_nil.mp (hnil ▸ hperm)⟩
  unfold solve
  rw [hempty, ← price_upper_perm hperm]
  simp only
  rw [← measure_perm request.amount (FillKind.from_request request) hperm]
  by_cases hnone : cs'.isEmpty = true ∨ request.amount = 0
  · rw [if_pos hnone, if_pos hnone]
    exact .none
  · rw [if_neg hnone, if_neg hnone]
    by_cases hshort : (Book.new cs request.amount (FillKind.from_request request)).measure 0 <
        request.amount
    · rw [if_pos hshort, if_pos hshort]
      exact .none
    · rw [if_neg hshort, if_neg hshort]
      match FillKind.from_request request with
      | .ExactIn => exact assemble_exact_in_perm hr h _ request.amount
      | .ExactOut => exact assemble_exact_out_perm hr h _ request.amount

/-- Every split of `solve` is a build over its candidates. -/
theorem solve_builds {cs : List Candidate} {request : RouteRequest} {warm : Option Ratio}
    {split : Split} (h : solve cs request warm = some split) :
    ∃ amounts kind lambda, amounts.length = cs.length ∧
      build cs amounts kind lambda = some split := by
  unfold solve at h
  simp only at h
  split at h
  · cases h
  · split at h
    · cases h
    · split at h
      · rename_i hkind
        refine ⟨_, _, _, ?_, h⟩
        -- The rounds of the top-up keep one amount a leg.
        have hlen : ∀ t t' : TopUp, t.ins.length = cs.length →
            topup_step (Book.new cs request.amount (FillKind.from_request request)) t = some t' →
            t'.ins.length = cs.length := by
          intro t t' ht hstep
          obtain ⟨c, i, -, add, -, -, -, hins, -⟩ := topup_step_cases hstep
          rw [hins, List.length_set, ht]
        refine Loop.iterate_invariant hlen _ ?_
        rw [topup_start, List.length_map, Book.length_fills]
        rfl
      · refine ⟨_, _, _, ?_, h⟩
        refine (trim_spec cs request.amount ?_).1.trans ?_ <;>
          rw [List.length_map, Book.length_fills] <;> rfl

theorem hashes_of_quoted {kind : FillKind} {chosen : List Candidate} {legs : List RouteLeg}
    (h : List.Forall₂ (QuotedLeg kind) chosen legs) :
    (chosen.map fun c => c.key.strategy_hash) = legs.map RouteLeg.strategy_hash := by
  induction h with
  | nil => rfl
  | cons hleg _ ih =>
    rw [List.map_cons, List.map_cons, ih, hleg.leg_eq]
    rfl

/-- The legs of a split have the hashes of different candidates. -/
theorem solve_legs_nodup {cs : List Candidate} (hd : Distinct cs) {request : RouteRequest}
    {warm : Option Ratio} {split : Split} (h : solve cs request warm = some split) :
    (split.legs.map RouteLeg.strategy_hash).Nodup := by
  obtain ⟨amounts, kind, lambda, hlen, hbuild⟩ := solve_builds h
  obtain ⟨chosen, hsub, hlegs⟩ := legs_of_sublist kind (cs.zip amounts)
  rw [List.map_fst_zip hlen.ge] at hsub
  rw [(build_spec hbuild).legs]
  rw [← hashes_of_quoted hlegs]
  exact hd.sublist (hsub.map _)

/-! ## The sparsity pass -/

/-- The two passes keep the same candidates and the same best split. -/
structure SameSparse (s s' : Sparse) : Prop where
  active : s.active.Perm s'.active
  distinct : Distinct s.active
  best : Split.Same s.best s'.best
  hashes : (s.best.legs.map RouteLeg.strategy_hash).Nodup

theorem FillKind.is_no_worse_same (kind : FillKind) {s s' t t' : Split} (hs : Split.Same s s')
    (ht : Split.Same t t') (per_leg_cost : U256) :
    kind.is_no_worse s t per_leg_cost = kind.is_no_worse s' t' per_leg_cost := by
  unfold FillKind.is_no_worse Split.net_output Split.gross_input Split.gas
  rw [hs.amount_in, hs.amount_out, hs.legs.length_eq, ht.amount_in, ht.amount_out,
    ht.legs.length_eq]

/-- The candidate of a hash is found, or missing, in both lists. -/
theorem drop_perm {cs cs' : List Candidate} (hd : Distinct cs) (hperm : cs.Perm cs')
    (hash : StrategyHash) :
    (place cs hash < cs.length ↔ place cs' hash < cs'.length) ∧
      (place cs hash < cs.length →
        (Vec.swap_remove cs (place cs hash)).Perm (Vec.swap_remove cs' (place cs' hash)) ∧
        Distinct (Vec.swap_remove cs (place cs hash))) := by
  have hfound : ∀ l : List Candidate, place l hash < l.length ↔
      ∃ c ∈ l, c.key.strategy_hash = hash := by
    intro l
    unfold place
    rw [List.findIdx_lt_length]
    simp
  have hiff : place cs hash < cs.length ↔ place cs' hash < cs'.length := by
    rw [hfound, hfound]
    simp only [hperm.mem_iff]
  refine ⟨hiff, ?_⟩
  intro hlt
  obtain ⟨c, hc, rfl⟩ := (hfound cs).mp hlt
  have hput := Choice.swap_remove_perm (hd.get_place hc)
  have hput' := Choice.swap_remove_perm ((hd.perm hperm).get_place (hperm.subset hc))
  refine ⟨((hput.trans hperm).trans hput'.symm).cons_inv, ?_⟩
  exact (List.nodup_cons.mp ((hput.map _).nodup_iff.mpr hd)).2

/-- **Step lemma.** Both passes drop the same candidate, or both stop. -/
theorem SameSparse.step {s s' : Sparse} (hs : SameSparse s s') (request : RouteRequest)
    (per_leg_cost : U256) (max_legs : ℕ) :
    Option.Rel SameSparse (sparse_step request per_leg_cost max_legs s)
      (sparse_step request per_leg_cost max_legs s') := by
  have hworst : Vec.min_by_key (fun l : RouteLeg => toLex (l.amount_out, l.strategy_hash))
        s.best.legs =
      Vec.min_by_key (fun l : RouteLeg => toLex (l.amount_out, l.strategy_hash)) s'.best.legs := by
    have hsame : Vec.min_by_key (fun l : RouteLeg => toLex (l.amount_out, l.strategy_hash))
          s.best.legs =
        (Vec.min_by_key (fun l : RouteLeg => toLex (l.amount_out, l.strategy_hash))
          s'.best.legs).map id := by
      refine Choice.min_by_key_renamed (by simpa using hs.best.legs.symm) (fun _ _ => rfl) ?_
      -- Keys end in the hash, and no two legs share one.
      intro leg hleg leg' hleg' heq
      exact List.inj_on_of_nodup_map hs.hashes hleg hleg' (congrArg (fun k => (ofLex k).2) heq)
    simpa using hsame
  unfold sparse_step
  rw [hs.best.legs.length_eq, ← hworst, ← hs.best.lambda]
  by_cases hone : s'.best.legs.length ≤ 1
  · rw [if_pos hone, if_pos hone]
    exact .none
  · rw [if_neg hone, if_neg hone]
    simp only
    cases Vec.min_by_key (fun l : RouteLeg => toLex (l.amount_out, l.strategy_hash))
        s.best.legs with
    | none => exact .none
    | some worst =>
      obtain ⟨hiff, hdrop⟩ := drop_perm hs.distinct hs.active worst.strategy_hash
      show Option.Rel SameSparse
        (if place s.active worst.strategy_hash < s.active.length then _ else _)
        (if place s'.active worst.strategy_hash < s'.active.length then _ else _)
      by_cases hlt : place s.active worst.strategy_hash < s.active.length
      · rw [if_pos hlt, if_pos (hiff.mp hlt)]
        obtain ⟨hactive, hdistinct⟩ := hdrop hlt
        have hsolve := solve_perm hdistinct hactive request (some s.best.lambda)
        unfold place at hsolve
        cases hnext : solve (Vec.swap_remove s.active
            (s.active.findIdx fun c => c.key.strategy_hash = worst.strategy_hash)) request
            (some s.best.lambda) with
        | none =>
          cases hnext' : solve (Vec.swap_remove s'.active
              (s'.active.findIdx fun c => c.key.strategy_hash = worst.strategy_hash)) request
              (some s.best.lambda) with
          | none => exact .none
          | some next' =>
            rw [hnext, hnext'] at hsolve
            cases hsolve
        | some next =>
          cases hnext' : solve (Vec.swap_remove s'.active
              (s'.active.findIdx fun c => c.key.strategy_hash = worst.strategy_hash)) request
              (some s.best.lambda) with
          | none =>
            rw [hnext, hnext'] at hsolve
            cases hsolve
          | some next' =>
            rw [hnext, hnext'] at hsolve
            have hsame := Option.rel_some_some.mp hsolve
            simp only
            rw [FillKind.is_no_worse_same _ hsame hs.best]
            split
            · exact .some ⟨hactive, hdistinct, hsame, solve_legs_nodup hdistinct hnext⟩
            · exact .none
      · rw [if_neg hlt, if_neg (mt hiff.mpr hlt)]
        exact .none

/-- **Routing does not depend on the order of the candidates.** With pairwise
    different strategy hashes, `solve` and `solve_sparse` find a split for a list
    exactly when they find one for a reordering of it, and the two splits have
    the same level, the same amounts and the same legs. -/
theorem routing_order_free (cs cs' : List Candidate) (h : Distinct cs) (hperm : cs.Perm cs')
    (request : RouteRequest) (per_leg_cost : U256) (max_legs : ℕ) (warm : Option Ratio) :
    Option.Rel Split.Same (solve cs request warm) (solve cs' request warm) ∧
      Option.Rel Split.Same (solve_sparse cs request per_leg_cost max_legs warm)
        (solve_sparse cs' request per_leg_cost max_legs warm) := by
  have hsolve := solve_perm h hperm request warm
  refine ⟨hsolve, ?_⟩
  unfold solve_sparse
  rw [← hperm.length_eq]
  match hbest : solve cs request warm, solve cs' request warm, hsolve with
  | none, none, _ => exact .none
  | some best, some best', hsolve =>
    have hstart : SameSparse { active := cs, best } { active := cs', best := best' } :=
      ⟨hperm, h, Option.rel_some_some.mp hsolve, solve_legs_nodup h hbest⟩
    have hend := Loop.iterate_related
      (fun s s' hs => SameSparse.step hs request per_leg_cost max_legs) cs.length hstart
    exact .some hend.best

/-- A second venue of the same maker. -/
def sample_sibling : Candidate :=
  { sample_venue with key := { maker := ⟨1⟩, app := 0, strategy_hash := ⟨2⟩ } }

theorem routing_order_free_sample :
    Option.Rel Split.Same (solve [sample_venue, sample_sibling] sample_exact_in none)
        (solve [sample_sibling, sample_venue] sample_exact_in none) ∧
      Option.Rel Split.Same
        (solve_sparse [sample_venue, sample_sibling] sample_exact_in 1 3 none)
        (solve_sparse [sample_sibling, sample_venue] sample_exact_in 1 3 none) :=
  routing_order_free _ _ (by decide) (List.Perm.swap _ _ []) sample_exact_in 1 3 none

end Solvent
