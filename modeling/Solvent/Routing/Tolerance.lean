import Mathlib
import Solvent.Routing.ExactIn
import Solvent.Routing.Reservable

/-! # How much of an exact-in request is spent

    What an exact-in split leaves of the request is what the top-up could not
    place and what sits on legs that buy nothing: `build` drops those after the
    top-up. A leg whose wallet does not bind has room up to its bound, so while
    such legs can take the request everything is placed, and what is dropped is at
    most the largest input each dropped leg takes for nothing.
-/

namespace Solvent

/-- The bisection tolerance: a millionth of the request, at least one unit. -/
def tolerance (target : U256) : ℕ := max (target.val / 1000000) 1

/-- The largest input up to `bound` that buys nothing. -/
def Candidate.idle (c : Candidate) (bound : U256) : ℕ :=
  (Finset.univ.filter fun a : U256 => a ≤ bound ∧ c.net_quote_exact_in a = .ok 0).sup Fin.val

theorem Candidate.le_idle {c : Candidate} {bound a : U256} (hle : a ≤ bound)
    (h : c.net_quote_exact_in a = .ok 0) : a.val ≤ c.idle bound :=
  Finset.le_sup (f := Fin.val) (Finset.mem_filter.mpr ⟨Finset.mem_univ a, hle, h⟩)

/-- What the candidates can swallow together for nothing. -/
def total_idle (candidates : List Candidate) (target : U256) : ℕ :=
  (candidates.map fun c => c.idle (input_bound target .ExactIn c)).sum

namespace Book

/-- No maker's wallet binds. -/
def unbound (book : Book) : Bool := book.floors.all (· = 0)

/-- What the legs whose wallet does not bind can take together. -/
def free_bounds (book : Book) : ℕ :=
  ((book.candidates.zipIdx.filter fun entry => book.floor entry.2 = 0).map fun entry =>
    (at_leg book.bounds entry.2).val).sum

end Book

/-- The request can be poured out: the free legs take it, and all candidates but
    any one swallow no more than the tolerance for nothing. -/
structure Pours (candidates : List Candidate) (target : U256) : Prop where
  room : (Book.new candidates target .ExactIn).unbound ∨
    target.val ≤ (Book.new candidates target .ExactIn).free_bounds
  dust : ∀ c ∈ candidates,
    total_idle candidates target ≤ tolerance target + c.idle (input_bound target .ExactIn c)

/-! ## What is dropped -/

/-- An exact-in amount that becomes no leg buys nothing. -/
theorem leg_at_exact_in_none {c : Candidate} {amount : U256}
    (hprices : amount ≠ 0 → ∃ q, quote_leg .ExactIn c amount = some q)
    (h : leg_at .ExactIn (c, amount) = none) :
    amount = 0 ∨ c.net_quote_exact_in amount = .ok 0 := by
  by_cases hne : amount = 0
  · exact .inl hne
  · right
    obtain ⟨q, hq⟩ := hprices hne
    obtain ⟨out, hout, rfl⟩ := Option.map_eq_some_iff.mp hq
    unfold leg_at at h
    rw [if_neg hne] at h
    simp only [hq] at h
    split at h
    case isTrue hzero =>
      obtain rfl := hzero.resolve_left hne
      exact Except.toOption_eq_some.mp hout
    case isFalse => cases h

/-- The input the legs lose against the amounts is at most what the dropped
    candidates swallow; a kept candidate swallows nothing. -/
theorem total_le_legs_in {bound : Candidate → U256} (ps : List (Candidate × U256))
    (hprices : ∀ p ∈ ps, p.2 ≠ 0 → ∃ q, quote_leg .ExactIn p.1 p.2 = some q)
    (hbound : ∀ p ∈ ps, p.2 ≤ bound p.1) :
    let idle := (ps.map fun p => p.1.idle (bound p.1)).sum
    let legs := ps.filterMap (leg_at .ExactIn)
    total (ps.map Prod.snd) ≤ legs_in legs + idle ∧
      (legs ≠ [] → ∃ p ∈ ps,
        total (ps.map Prod.snd) + p.1.idle (bound p.1) ≤ legs_in legs + idle) := by
  induction ps with
  | nil => simp [legs_in]
  | cons p ps ih =>
    obtain ⟨c, amount⟩ := p
    obtain ⟨hall, hkept⟩ := ih (fun p hp => hprices p (List.mem_cons_of_mem _ hp))
      (fun p hp => hbound p (List.mem_cons_of_mem _ hp))
    cases hleg : leg_at .ExactIn (c, amount) with
    | none =>
      have hidle : amount.val ≤ c.idle (bound c) := by
        rcases leg_at_exact_in_none (hprices _ (List.mem_cons_self ..)) hleg with hzero | hquote
        · rw [show amount = 0 from hzero]
          exact Nat.zero_le _
        · exact Candidate.le_idle (hbound _ (List.mem_cons_self ..)) hquote
      rw [List.filterMap_cons_none hleg]
      simp only [List.map_cons, List.sum_cons, total_cons]
      refine ⟨by omega, fun hne => ?_⟩
      obtain ⟨p, hp, hle⟩ := hkept hne
      exact ⟨p, List.mem_cons_of_mem _ hp, by omega⟩
    | some leg =>
      have hin : leg.amount_in = amount := (leg_at_eq_some hleg).2
      rw [List.filterMap_cons_some hleg]
      simp only [legs_in, List.map_cons, List.sum_cons, total_cons, hin] at hall ⊢
      refine ⟨by omega, fun _ => ⟨(c, amount), List.mem_cons_self .., ?_⟩⟩
      simp only
      omega

/-! ## What is left over -/

/-- The top-up keeps every leg within its bound. -/
def WithinBounds (candidates : List Candidate) (target : U256) (t : TopUp) : Prop :=
  ∀ i c, candidates[i]? = some c → at_leg t.ins i ≤ input_bound target .ExactIn c

theorem within_bounds_step {candidates : List Candidate} {target : U256} {t t' : TopUp}
    (ht : WithinBounds candidates target t)
    (h : topup_step (Book.new candidates target .ExactIn) t = some t') :
    WithinBounds candidates target t' := by
  obtain ⟨c, i, hmem, add, -, -, hroom, hins, -, -⟩ := topup_step_cases h
  have hc : candidates[i]? = some c := List.mem_zipIdx_iff_getElem?.mp hmem
  have hbox := Fin.le_def.mp (hroom.trans topup_room_le)
  rw [U256.saturating_sub_val, at_leg_bounds hc] at hbox
  intro j c' hc'
  rw [hins, at_leg_set]
  split
  case isTrue hij =>
    obtain ⟨rfl, -⟩ := hij
    obtain rfl := Option.some.inj (hc.symm.trans hc')
    have hle := Fin.le_def.mp (ht i c hc)
    rw [Fin.le_def, U256.saturating_add_val]
    omega
  case isFalse => exact ht j c' hc'

theorem within_bounds_start (candidates : List Candidate) (target : U256) (level : Ratio) :
    WithinBounds candidates target
      (topup_start (Book.new candidates target .ExactIn) level target) := by
  intro i c hc
  show at_leg (((Book.new candidates target .ExactIn).fills level).map LimitedQuote.amount_in) i ≤ _
  rw [at_leg_ins hc]
  unfold Book.leg
  rw [at_leg_bounds hc]
  split
  · rename_i quote hquote
    exact (Candidate.fill_quotes hquote).1
  · exact Fin.zero_le _

/-- Where the top-up stops with a remainder, no leg has room. -/
theorem no_room_of_stuck {book : Book} {t : TopUp} (h : topup_step book t = none)
    (hrem : t.remainder ≠ 0) {entry : Candidate × ℕ} (hentry : entry ∈ book.candidates.zipIdx) :
    book.topup_room t.ins t.outs entry = 0 := by
  by_contra hroom
  have hmem : entry ∈ book.candidates.zipIdx.filter fun entry =>
      book.topup_room t.ins t.outs entry ≠ 0 :=
    List.mem_filter.mpr ⟨hentry, by simpa using hroom⟩
  unfold topup_step at h
  rw [if_neg hrem] at h
  split at h
  case h_1 hnone =>
    match hlist : book.candidates.zipIdx.filter fun entry =>
        book.topup_room t.ins t.outs entry ≠ 0 with
    | [] =>
      rw [hlist] at hmem
      cases hmem
    | b :: bs =>
      rw [hlist] at hnone
      cases hnone
  case h_2 c i hbest =>
    have hbest' := (List.mem_filter.mp (Vec.max_by_key_mem hbest)).2
    have hne : book.topup_room t.ins t.outs (c, i) ≠ 0 := by simpa using hbest'
    simp only at h
    split at h
    case isTrue hadd =>
      rcases min_choice t.remainder (book.topup_room t.ins t.outs (c, i)) with hmin | hmin
      · exact hrem (hmin.symm.trans hadd)
      · exact hne (hmin.symm.trans hadd)
    case isFalse => cases h

/-- The slots of a list as long as the candidates, one by one. -/
theorem sum_slots (candidates : List Candidate) {amounts : List U256}
    (h : amounts.length = candidates.length) :
    (candidates.zipIdx.map fun entry => (at_leg amounts entry.2).val).sum = total amounts := by
  have hslots : candidates.zipIdx.map (fun entry => (at_leg amounts entry.2).val) =
      amounts.map Fin.val := by
    refine List.ext_getElem (by simp [h]) ?_
    intro i hi hi'
    simp only [List.getElem_map, List.getElem_zipIdx, at_leg]
    rw [List.getD_eq_getElem _ _ (by simpa using hi')]
    simp
  rw [hslots]
  rfl

theorem sum_filter_le {α : Type} {keeps : α → Bool} {f g : α → ℕ} (as : List α)
    (h : ∀ a ∈ as, keeps a = true → f a ≤ g a) :
    ((as.filter keeps).map f).sum ≤ (as.map g).sum := by
  induction as with
  | nil => simp
  | cons a as ih =>
    have hrest := ih fun b hb => h b (List.mem_cons_of_mem a hb)
    by_cases hkeeps : keeps a = true
    · have hhead := h a (List.mem_cons_self ..) hkeeps
      rw [List.filter_cons_of_pos hkeeps]
      simp only [List.map_cons, List.sum_cons]
      omega
    · rw [List.filter_cons_of_neg hkeeps]
      simp only [List.map_cons, List.sum_cons]
      omega

theorem sum_zip_fst {candidates : List Candidate} (f : Candidate → ℕ) {amounts : List U256}
    (h : amounts.length = candidates.length) :
    ((candidates.zip amounts).map fun p => f p.1).sum = (candidates.map f).sum := by
  have hfst : (candidates.zip amounts).map Prod.fst = candidates := List.map_fst_zip (by omega)
  rw [← congrArg (List.map f) hfst, List.map_map]
  rfl

/-- Legs with room up to their bound take the free bounds before they stop. -/
theorem free_bounds_le_total {candidates : List Candidate} {target : U256} {t : TopUp}
    (hlen : t.ins.length = candidates.length)
    (h : topup_step (Book.new candidates target .ExactIn) t = none) (hrem : t.remainder ≠ 0) :
    (Book.new candidates target .ExactIn).free_bounds ≤ total t.ins := by
  rw [← sum_slots candidates hlen]
  refine sum_filter_le candidates.zipIdx ?_
  intro entry hentry hfree
  obtain ⟨c, i⟩ := entry
  have hroom := no_room_of_stuck h hrem hentry
  have hfloor : (Book.new candidates target .ExactIn).floor i = 0 := by simpa using hfree
  unfold Book.topup_room at hroom
  simp only [hfloor, if_true] at hroom
  have hval := U256.eq_zero_iff.mp hroom
  rw [U256.saturating_sub_val] at hval
  show (at_leg _ i).val ≤ (at_leg t.ins i).val
  omega

theorem floor_of_unbound {book : Book} (h : book.unbound = true) (i : ℕ) : book.floor i = 0 := by
  unfold Book.floor
  rw [List.getD_eq_getElem?_getD]
  match hget : book.floors[i]? with
  | none => rfl
  | some l =>
    have hzero := List.all_eq_true.mp h l (List.mem_of_getElem? hget)
    simpa using hzero

/-- Without a binding wallet the free bounds cover what the book can fill. -/
theorem measure_le_free_bounds {candidates : List Candidate} {target : U256}
    (h : (Book.new candidates target .ExactIn).unbound = true) :
    ((Book.new candidates target .ExactIn).measure 0).val ≤
      (Book.new candidates target .ExactIn).free_bounds := by
  set book := Book.new candidates target .ExactIn with hbook
  have hall : book.candidates.zipIdx.filter (fun entry => book.floor entry.2 = 0) =
      book.candidates.zipIdx :=
    List.filter_eq_self.mpr fun entry _ => by simp [floor_of_unbound h]
  have hlen : ((book.fills 0).map LimitedQuote.amount_in).length = candidates.length := by
    rw [List.length_map, book.length_fills]
    rfl
  calc (book.measure 0).val
      ≤ total ((book.fills 0).map LimitedQuote.amount_in) := by
        show (U256.saturating_sum ((book.fills 0).map LimitedQuote.amount_in)).val ≤ _
        rw [saturating_sum_total]
        exact min_le_left _ _
    _ = (candidates.zipIdx.map fun entry =>
          (at_leg ((book.fills 0).map LimitedQuote.amount_in) entry.2).val).sum :=
        (sum_slots candidates hlen).symm
    _ ≤ (candidates.zipIdx.map fun entry => (at_leg book.bounds entry.2).val).sum := by
        refine List.sum_le_sum fun entry hentry => ?_
        obtain ⟨c, i⟩ := entry
        have hc : candidates[i]? = some c := List.mem_zipIdx_iff_getElem?.mp hentry
        have hle := within_bounds_start candidates target 0 i c hc
        rw [← at_leg_bounds hc] at hle
        exact hle
    _ = book.free_bounds := by
        unfold Book.free_bounds
        rw [hall]
        rfl

/-! ## Exact-in spends the request -/

/-- What a candidate list can pour out is spent to within the tolerance. -/
theorem assemble_exact_in_tolerance {candidates : List Candidate} {target : U256} {level : Ratio}
    {split : Split} (hmeets : target ≤ (Book.new candidates target .ExactIn).measure 0)
    (hunder : (Book.new candidates target .ExactIn).measure level < target)
    (hpours : Pours candidates target)
    (h : assemble_exact_in (Book.new candidates target .ExactIn) level target = some split) :
    target.val - split.amount_in.val ≤ tolerance target := by
  set book := Book.new candidates target .ExactIn with hbook
  set t := Loop.iterate (topup_step book) (topup_start book level target).remainder.val
    (topup_start book level target) with ht
  have hbuilt : Built .ExactIn (candidates.zip t.ins) split := build_spec h
  have hfills : total ((book.fills level).map LimitedQuote.amount_in) ≤ target.val :=
    (total_lt_of_saturating_sum hunder).le
  obtain ⟨hlen, hsum⟩ : Spends book target t := spends_topup hfills _
  have hlen' : t.ins.length = candidates.length := hlen
  have hbounds : WithinBounds candidates target t :=
    Loop.iterate_invariant (P := WithinBounds candidates target)
      (fun t t' ht hstep => within_bounds_step ht hstep) _ (within_bounds_start candidates target level)
  -- The free legs take the request, so nothing is left over.
  have hfree : target.val ≤ book.free_bounds := by
    rcases hpours.room with hunbound | hroom
    · exact (Fin.le_def.mp hmeets).trans (measure_le_free_bounds hunbound)
    · exact hroom
  have hall : total t.ins = target.val := by
    by_cases hrem : t.remainder = 0
    · have hrem0 := U256.eq_zero_iff.mp hrem
      omega
    · have hle : book.free_bounds ≤ total t.ins :=
        free_bounds_le_total hlen' (topup_exits book _ le_rfl) hrem
      have hrem0 : t.remainder.val ≠ 0 := fun h => hrem (U256.eq_zero_iff.mpr h)
      omega
  have hzip : ∀ p ∈ candidates.zip t.ins, p.2 ≤ input_bound target .ExactIn p.1 := by
    intro p hp
    obtain ⟨i, hi, rfl⟩ := List.mem_iff_getElem.mp hp
    rw [List.length_zip] at hi
    have hle := hbounds i candidates[i] (List.getElem?_eq_getElem (by omega))
    rw [List.getElem_zip]
    rw [at_leg, List.getD_eq_getElem _ _ (by omega)] at hle
    exact hle
  obtain ⟨-, hkept⟩ := total_le_legs_in (candidates.zip t.ins) hbuilt.prices hzip
  obtain ⟨p, hp, hle⟩ := hkept (by rw [← hbuilt.legs]; exact hbuilt.ne_nil)
  have hdust := hpours.dust p.1 (List.of_mem_zip hp).1
  have hidle := sum_zip_fst (fun c => c.idle (input_bound target .ExactIn c)) hlen'
  rw [hidle, List.map_snd_zip (by omega), ← hbuilt.legs, ← hbuilt.amount_in, hall] at hle
  have hdust' : (candidates.map fun c => c.idle (input_bound target .ExactIn c)).sum ≤
      tolerance target + p.1.idle (input_bound target .ExactIn p.1) := hdust
  omega

/-- A venue that takes a thousand million of input for one unit of output. -/
def deep_venue : Candidate :=
  { sample_venue with
    key := { maker := ⟨2⟩, app := 0, strategy_hash := ⟨2⟩ }
    pool := .Xyc { balance_in := 1000000000000, balance_out := 1000 }
    fees_in_bps := [] }

/-- A venue with room for ten units of output. -/
def ten_unit_venue : Candidate :=
  { sample_venue with cap_out := 10, wallet_cap := 10, fees_in_bps := [] }

def million_request : RouteRequest :=
  { intent := ⟨0⟩, token_in := 1, token_out := 2, amount := 1000000, exact_in := true }

end Solvent
