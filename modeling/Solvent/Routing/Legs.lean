import Mathlib
import Solvent.Routing.Levels

/-! # Legs

    What `build` turns a list of working amounts into. The legs are exactly
    those the amounts price, one per candidate and in candidate order, and the
    two totals are their exact sums.
-/

namespace Solvent

/-- The exact sum of a list of amounts. -/
def total (amounts : List U256) : ℕ := (amounts.map Fin.val).sum

@[simp] theorem total_nil : total [] = 0 := rfl

@[simp] theorem total_cons (a : U256) (as : List U256) : total (a :: as) = a.val + total as := by
  simp [total]

theorem total_append (as bs : List U256) : total (as ++ bs) = total as + total bs := by
  simp [total]

theorem saturating_sum_total (amounts : List U256) :
    (U256.saturating_sum amounts).val = min (total amounts) (2 ^ 256 - 1) :=
  U256.saturating_sum_val amounts

/-- A saturating sum below a word is the exact sum. -/
theorem total_lt_of_saturating_sum {amounts : List U256} {b : U256}
    (h : U256.saturating_sum amounts < b) : total amounts < b.val := by
  have hlt : (U256.saturating_sum amounts).val < b.val := h
  have := b.isLt
  rw [saturating_sum_total] at hlt
  omega

theorem at_leg_le_total (amounts : List U256) (i : ℕ) : (at_leg amounts i).val ≤ total amounts := by
  induction amounts generalizing i with
  | nil => simp [at_leg]
  | cons a as ih =>
    cases i with
    | zero => simp [at_leg]
    | succ i =>
      have := ih i
      simp only [at_leg, List.getD_cons_succ, total_cons] at this ⊢
      omega

/-- Writing one slot moves the total by the difference. -/
theorem total_set (amounts : List U256) {i : ℕ} (h : i < amounts.length) (a : U256) :
    total (amounts.set i a) + (at_leg amounts i).val = total amounts + a.val := by
  induction amounts generalizing i with
  | nil => simp at h
  | cons b bs ih =>
    cases i with
    | zero => simp [at_leg]; omega
    | succ i =>
      have := ih (i := i) (by simpa using h)
      simp only [at_leg, List.getD_cons_succ, List.set_cons_succ, total_cons] at this ⊢
      omega

theorem at_leg_set (amounts : List U256) (i j : ℕ) (a : U256) :
    at_leg (amounts.set i a) j = if i = j ∧ i < amounts.length then a else at_leg amounts j := by
  unfold at_leg
  rw [List.getD_eq_getElem?_getD, List.getElem?_set, List.getD_eq_getElem?_getD]
  by_cases hij : i = j
  · subst hij
    by_cases hi : i < amounts.length
    · simp [hi]
    · simp [hi]
  · simp [hij]

/-! ## The legs of a build -/

/-- The leg a working amount becomes, if it prices and neither side is zero. -/
def leg_at (kind : FillKind) (p : Candidate × U256) : Option RouteLeg :=
  if p.2 = 0 then none
  else
    match quote_leg kind p.1 p.2 with
    | none => none
    | some (leg_in, leg_out) =>
      if leg_in = 0 ∨ leg_out = 0 then none else some (leg_of p.1 leg_in leg_out)

def legs_in (legs : List RouteLeg) : ℕ := total (legs.map RouteLeg.amount_in)

def legs_out (legs : List RouteLeg) : ℕ := total (legs.map RouteLeg.amount_out)

/-- Every non-zero amount prices, the legs are those the amounts price, and the
    totals are exact. -/
structure Built (kind : FillKind) (ps : List (Candidate × U256)) (split : Split) : Prop where
  prices : ∀ p ∈ ps, p.2 ≠ 0 → ∃ q, quote_leg kind p.1 p.2 = some q
  legs : split.legs = ps.filterMap (leg_at kind)
  ne_nil : split.legs ≠ []
  amount_in : split.amount_in.val = legs_in split.legs
  amount_out : split.amount_out.val = legs_out split.legs

/-- The loop invariant of `build`, from any legs and totals already there. -/
theorem build_from_spec {kind : FillKind} {lambda : Ratio} {ps : List (Candidate × U256)}
    {legs : List RouteLeg} {ai ao : U256} {split : Split}
    (h : build_from kind lambda ps legs ai ao = some split) :
    (∀ p ∈ ps, p.2 ≠ 0 → ∃ q, quote_leg kind p.1 p.2 = some q) ∧
    split.legs = legs ++ ps.filterMap (leg_at kind) ∧ split.legs ≠ [] ∧
    split.amount_in.val = ai.val + legs_in (ps.filterMap (leg_at kind)) ∧
    split.amount_out.val = ao.val + legs_out (ps.filterMap (leg_at kind)) := by
  induction ps generalizing legs ai ao with
  | nil =>
    simp only [build_from] at h
    split at h
    · cases h
    · rename_i hne
      cases h
      simp only [List.isEmpty_iff] at hne
      simp [legs_in, legs_out, hne]
  | cons p ps ih =>
    obtain ⟨c, amount⟩ := p
    simp only [build_from] at h
    split at h
    · rename_i hzero
      -- A zero amount is skipped.
      obtain ⟨hprices, hlegs, hnil, hin, hout⟩ := ih h
      have hleg : leg_at kind (c, amount) = none := by simp [leg_at, hzero]
      rw [List.filterMap_cons_none hleg]
      refine ⟨?_, hlegs, hnil, hin, hout⟩
      intro p hp hne
      rcases List.mem_cons.1 hp with rfl | hp
      · exact absurd hzero hne
      · exact hprices p hp hne
    · rename_i hne
      split at h
      · cases h
      · rename_i leg_in leg_out hquote
        have hprice : ∀ p ∈ (c, amount) :: ps, p.2 ≠ 0 →
            (∀ p ∈ ps, p.2 ≠ 0 → ∃ q, quote_leg kind p.1 p.2 = some q) →
            ∃ q, quote_leg kind p.1 p.2 = some q := by
          intro p hp hp0 hrest
          rcases List.mem_cons.1 hp with rfl | hp
          · exact ⟨_, hquote⟩
          · exact hrest p hp hp0
        split at h
        · rename_i hdrop
          -- A leg with a zero side is dropped, though its amount prices.
          obtain ⟨hprices, hlegs, hnil, hin, hout⟩ := ih h
          have hleg : leg_at kind (c, amount) = none := by simp [leg_at, hne, hquote, hdrop]
          rw [List.filterMap_cons_none hleg]
          exact ⟨fun p hp hp0 => hprice p hp hp0 hprices, hlegs, hnil, hin, hout⟩
        · rename_i hkeep
          split at h
          · rename_i ai' ao' hai hao
            obtain ⟨hprices, hlegs, hnil, hin, hout⟩ := ih h
            have hleg : leg_at kind (c, amount) = some (leg_of c leg_in leg_out) := by
              simp [leg_at, hne, hquote, hkeep]
            rw [List.filterMap_cons_some hleg]
            rw [U256.checked_add_eq_some] at hai hao
            refine ⟨fun p hp hp0 => hprice p hp hp0 hprices, ?_, hnil, ?_, ?_⟩
            · rw [hlegs, List.append_assoc, List.singleton_append]
            · simp only [legs_in, List.map_cons, total_cons, leg_of] at hin ⊢
              omega
            · simp only [legs_out, List.map_cons, total_cons, leg_of] at hout ⊢
              omega
          · cases h

/-- **Spec of `build`.** -/
theorem build_spec {candidates : List Candidate} {amounts : List U256} {kind : FillKind}
    {lambda : Ratio} {split : Split} (h : build candidates amounts kind lambda = some split) :
    Built kind (candidates.zip amounts) split := by
  obtain ⟨hprices, hlegs, hnil, hin, hout⟩ := build_from_spec h
  rw [List.nil_append] at hlegs
  refine ⟨hprices, hlegs, hnil, ?_, ?_⟩
  · simpa [hlegs] using hin
  · simpa [hlegs] using hout

/-- A priced amount is a leg unless one side of it is zero. -/
theorem leg_at_quoted {kind : FillKind} {c : Candidate} {amount leg_in leg_out : U256}
    (hne : amount ≠ 0) (hquote : quote_leg kind c amount = some (leg_in, leg_out)) :
    leg_at kind (c, amount) =
      if leg_in = 0 ∨ leg_out = 0 then none else some (leg_of c leg_in leg_out) := by
  unfold leg_at
  rw [if_neg hne]
  simp only [hquote]

/-- A split is built where every amount prices, a leg is kept and both totals
    fit a word. -/
theorem build_from_isSome {kind : FillKind} {lambda : Ratio} {ps : List (Candidate × U256)}
    {legs : List RouteLeg} {ai ao : U256}
    (hprices : ∀ p ∈ ps, p.2 ≠ 0 → ∃ q, quote_leg kind p.1 p.2 = some q)
    (hnil : legs ++ ps.filterMap (leg_at kind) ≠ [])
    (hin : ai.val + legs_in (ps.filterMap (leg_at kind)) < 2 ^ 256)
    (hout : ao.val + legs_out (ps.filterMap (leg_at kind)) < 2 ^ 256) :
    (build_from kind lambda ps legs ai ao).isSome := by
  induction ps generalizing legs ai ao with
  | nil =>
    simp only [List.filterMap_nil, List.append_nil] at hnil
    simp [build_from, hnil]
  | cons p ps ih =>
    obtain ⟨c, amount⟩ := p
    have hrest : ∀ p ∈ ps, p.2 ≠ 0 → ∃ q, quote_leg kind p.1 p.2 = some q :=
      fun p hp => hprices p (List.mem_cons_of_mem _ hp)
    simp only [build_from]
    by_cases hzero : amount = 0
    · have hleg : leg_at kind (c, amount) = none := by simp [leg_at, hzero]
      rw [List.filterMap_cons_none hleg] at hnil hin hout
      rw [if_pos hzero]
      exact ih hrest hnil hin hout
    · obtain ⟨⟨leg_in, leg_out⟩, hq⟩ := hprices (c, amount) (List.mem_cons_self ..) hzero
      have hquote : quote_leg kind c amount = some (leg_in, leg_out) := hq
      have hleg := leg_at_quoted hzero hquote
      rw [if_neg hzero, hquote]
      simp only
      by_cases hdrop : leg_in = 0 ∨ leg_out = 0
      · rw [if_pos hdrop] at hleg ⊢
        rw [List.filterMap_cons_none hleg] at hnil hin hout
        exact ih hrest hnil hin hout
      · rw [if_neg hdrop] at hleg ⊢
        rw [List.filterMap_cons_some hleg] at hin hout
        simp only [legs_in, legs_out, List.map_cons, total_cons, leg_of] at hin hout
        -- Both totals stay below the word, so neither addition fails.
        obtain ⟨ai', hai⟩ : ∃ w : U256, w.val = ai.val + leg_in.val := ⟨⟨_, by omega⟩, rfl⟩
        obtain ⟨ao', hao⟩ : ∃ w : U256, w.val = ao.val + leg_out.val := ⟨⟨_, by omega⟩, rfl⟩
        rw [U256.checked_add_eq_some.mpr hai.symm, U256.checked_add_eq_some.mpr hao.symm]
        refine ih hrest (by simp) ?_ ?_
        · rw [legs_in]
          omega
        · rw [legs_out]
          omega

/-- A leg is what its candidate quotes, neither side zero. -/
structure QuotedLeg (kind : FillKind) (c : Candidate) (leg : RouteLeg) : Prop where
  leg_eq : leg = leg_of c leg.amount_in leg.amount_out
  quote : match kind with
    | .ExactIn => c.net_quote_exact_in leg.amount_in = .ok leg.amount_out
    | .ExactOut => c.net_quote_exact_out leg.amount_out = .ok leg.amount_in
  in_ne_zero : leg.amount_in ≠ 0
  out_ne_zero : leg.amount_out ≠ 0

theorem leg_at_eq_some {kind : FillKind} {c : Candidate} {amount : U256} {leg : RouteLeg}
    (h : leg_at kind (c, amount) = some leg) :
    QuotedLeg kind c leg ∧ (match kind with
      | .ExactIn => leg.amount_in = amount
      | .ExactOut => leg.amount_out = amount) := by
  unfold leg_at at h
  split at h
  · cases h
  · split at h
    · cases h
    · rename_i leg_in leg_out hquote
      split at h
      · cases h
      · rename_i hkeep
        cases h
        rw [not_or] at hkeep
        cases kind with
        | ExactIn =>
          simp only [quote_leg, Option.map_eq_some_iff, Except.toOption_eq_some,
            Prod.mk.injEq] at hquote
          obtain ⟨out, hout, rfl, rfl⟩ := hquote
          exact ⟨⟨rfl, hout, hkeep.1, hkeep.2⟩, rfl⟩
        | ExactOut =>
          simp only [quote_leg, Option.map_eq_some_iff, Except.toOption_eq_some,
            Prod.mk.injEq] at hquote
          obtain ⟨input, hin, rfl, rfl⟩ := hquote
          exact ⟨⟨rfl, hin, hkeep.1, hkeep.2⟩, rfl⟩

/-- The kept legs come from a sublist of the candidates, one each. -/
theorem legs_of_sublist (kind : FillKind) (ps : List (Candidate × U256)) :
    ∃ chosen, chosen.Sublist (ps.map Prod.fst) ∧
      List.Forall₂ (QuotedLeg kind) chosen (ps.filterMap (leg_at kind)) := by
  induction ps with
  | nil => exact ⟨[], List.Sublist.slnil, .nil⟩
  | cons p ps ih =>
    obtain ⟨chosen, hsub, hlegs⟩ := ih
    cases hleg : leg_at kind p with
    | none =>
      rw [List.filterMap_cons_none hleg]
      exact ⟨chosen, hsub.cons _, hlegs⟩
    | some leg =>
      rw [List.filterMap_cons_some hleg]
      exact ⟨p.1 :: chosen, hsub.cons_cons _, .cons (leg_at_eq_some hleg).1 hlegs⟩

/-- Dropping legs can only lower the exact-in total below the amounts. -/
theorem legs_in_le_total (ps : List (Candidate × U256)) :
    legs_in (ps.filterMap (leg_at .ExactIn)) ≤ total (ps.map Prod.snd) := by
  induction ps with
  | nil => simp [legs_in]
  | cons p ps ih =>
    obtain ⟨c, amount⟩ := p
    cases hleg : leg_at .ExactIn (c, amount) with
    | none =>
      rw [List.filterMap_cons_none hleg]
      simp only [List.map_cons, total_cons]
      omega
    | some leg =>
      rw [List.filterMap_cons_some hleg]
      have hin : leg.amount_in = amount := (leg_at_eq_some hleg).2
      simp only [legs_in, List.map_cons, total_cons, hin] at ih ⊢
      omega

/-- An exact-out amount that is not zero becomes a leg unless its input is. -/
theorem leg_at_exact_out {c : Candidate} {amount input : U256} (hne : amount ≠ 0)
    (hquote : c.net_quote_exact_out amount = .ok input) (hin : input ≠ 0) :
    leg_at .ExactOut (c, amount) = some (leg_of c input amount) := by
  simp [leg_at, quote_leg, hne, hquote, hin, Except.toOption]

end Solvent
