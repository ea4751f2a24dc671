import Mathlib
import Solvent.Framework.Frontier
import Solvent.Routing.DepthPoint

/-! # Depth curves

    Executable depth of one direction of a pair, sampled from the router's capped
    liquidity. For each impact bucket a bisection of the marginal price looks for
    the smallest fill that reaches it. Neither a fill nor its impact need be
    monotone in the price, since quotes are whole units and wallets switch
    venues; so what the searches find is sorted, deduplicated and pruned to a
    frontier.
-/

namespace Solvent

/-- The impact buckets, 0.1% to 10%. -/
def IMPACT_LADDER_BPS : List U64 := [10, 50, 100, 200, 500, 1000]

/-- Rounds before a search gives up on tightening further. -/
def BISECT_ITERS : ℕ := 48

/-- A bisection stops once its bracket is within this fraction of what it reached. -/
def TOLERANCE_DIVISOR : ℕ := 10000

/-- One rung as it is shown, before the decimals of the tokens. -/
structure DepthPoint where
  trade_size : U256
  output : U256
  effective_price : Ratio
  impact_bps : U64
  makers_used : ℕ

/-- How far a split's blended price sits from the tip; a split that cannot price
    moved nothing. -/
def impact_bps (best : Ratio) (split : Split) : U64 :=
  match (Ratio.new split.amount_out split.amount_in).filter (· < best) with
  | some effective => effective.rel_diff_bps best
  | none => 0

def depth_point (best : Ratio) (split : Split) : DepthPoint :=
  { trade_size := split.amount_in
    output := split.amount_out
    effective_price := (Ratio.new split.amount_out split.amount_in).getD 0
    impact_bps := impact_bps best split
    makers_used := (split.legs.map RouteLeg.maker).dedup.length }

/-! ## The search -/

/-- A bracket of levels, the split its low end reached, and the input of its high
    end. -/
structure DepthSearch where
  lo : Ratio
  hi : Ratio
  reached : Split
  below : U256

/-- Whether the bracket is tight enough to stop. -/
def DepthSearch.tight (s : DepthSearch) : Bool :=
  s.reached.amount_in.val - s.below.val ≤ max (s.reached.amount_in.val / TOLERANCE_DIVISOR) 1

/-- One round. -/
def depth_step (liquidity : Liquidity) (best : Ratio) (target_bps : U64) (s : DepthSearch) :
    Option DepthSearch :=
  if s.tight then none
  else
    let level := Ratio.midpoint s.lo s.hi
    match liquidity.at_price level with
    | some split =>
      if target_bps ≤ impact_bps best split then some { s with lo := level, reached := split }
      else some { s with hi := level, below := split.amount_in }
    | none => some { s with hi := level, below := 0 }

def size_for_impact (liquidity : Liquidity) (best : Ratio) (target_bps : U64) (ceiling : Split)
    (upper : Ratio) : Option Split :=
  if impact_bps best ceiling < target_bps then none
  else some (Loop.iterate (depth_step liquidity best target_bps) BISECT_ITERS
    { lo := 0, hi := upper, reached := ceiling, below := 0 }).reached

/-! ## The ladder -/

/-- The rungs up to the first bucket the ceiling does not reach, in order of input
    and without repeats. -/
def sorted_rungs (liquidity : Liquidity) (best : Ratio) (ceiling : Split) : List Split :=
  let found := (IMPACT_LADDER_BPS.map fun target_bps =>
    size_for_impact liquidity best target_bps ceiling best.doubled).takeWhile Option.isSome
  (found.reduceOption.insertionSort fun a b => a.amount_in ≤ b.amount_in).destutter
    fun a b => a.amount_in ≠ b.amount_in

/-- Integer dust can have worse average execution than a larger fill: a smaller
    rung goes where a later one offers no less at less impact. -/
def ladder (liquidity : Liquidity) (best : Ratio) (ceiling : Split) : List DepthPoint :=
  (Frontier.prune Split.amount_out (impact_bps best) (sorted_rungs liquidity best ceiling)).map
    (depth_point best)

/-- The curve's points; a position that exhausts its wallet before the first
    bucket may show its ceiling. -/
def depth_points (candidates : List Candidate) (include_capacity : Bool) : List DepthPoint :=
  let liquidity := Liquidity.new candidates
  match liquidity.best_price, liquidity.at_price 0 with
  | some best, some ceiling =>
    match ladder liquidity best ceiling with
    | [] => if include_capacity then [depth_point best ceiling] else []
    | points => points
  | _, _ => []

/-! ## What the search finds -/

/-- What a round keeps: the split reached has the impact, and is the ceiling or
    the fill of a level. -/
structure Reaches (liquidity : Liquidity) (best : Ratio) (target_bps : U64) (ceiling : Split)
    (split : Split) : Prop where
  impact : target_bps ≤ impact_bps best split
  fills : split = ceiling ∨ ∃ level, liquidity.at_price level = some split

theorem depth_step_reaches {liquidity : Liquidity} {best : Ratio} {target_bps : U64}
    {ceiling : Split} (s s' : DepthSearch)
    (hs : Reaches liquidity best target_bps ceiling s.reached)
    (h : depth_step liquidity best target_bps s = some s') :
    Reaches liquidity best target_bps ceiling s'.reached := by
  unfold depth_step at h
  split at h
  · cases h
  simp only at h
  split at h
  · rename_i split hsplit
    split at h
    · rename_i himpact
      cases h
      exact ⟨himpact, .inr ⟨_, hsplit⟩⟩
    · cases h
      exact hs
  · cases h
    exact hs

/-- **Every rung reaches its bucket.** -/
theorem size_for_impact_reaches {liquidity : Liquidity} {best : Ratio} {target_bps : U64}
    {ceiling split : Split} {upper : Ratio}
    (h : size_for_impact liquidity best target_bps ceiling upper = some split) :
    Reaches liquidity best target_bps ceiling split := by
  unfold size_for_impact at h
  split at h
  · cases h
  · rename_i himpact
    obtain rfl := Option.some.inj h
    exact Loop.iterate_invariant
      (P := fun s : DepthSearch => Reaches liquidity best target_bps ceiling s.reached)
      depth_step_reaches _ ⟨not_lt.mp himpact, .inl rfl⟩

theorem mem_sorted_rungs {liquidity : Liquidity} {best : Ratio} {ceiling split : Split}
    (h : split ∈ sorted_rungs liquidity best ceiling) :
    ∃ target_bps ∈ IMPACT_LADDER_BPS,
      size_for_impact liquidity best target_bps ceiling best.doubled = some split := by
  have hsorted := (List.destutter_sublist _ _).subset h
  rw [List.mem_insertionSort, List.reduceOption_mem_iff] at hsorted
  have hfound := (List.takeWhile_sublist _).subset hsorted
  obtain ⟨target_bps, hmem, hsize⟩ := List.mem_map.mp hfound
  exact ⟨target_bps, hmem, hsize⟩

/-- Sorted and without repeats, the rungs grow strictly in input. -/
theorem sorted_rungs_strict (liquidity : Liquidity) (best : Ratio) (ceiling : Split) :
    (sorted_rungs liquidity best ceiling).Pairwise fun a b => a.amount_in < b.amount_in := by
  have : IsTrans Split fun a b => a.amount_in ≤ b.amount_in := ⟨fun _ _ _ => le_trans⟩
  have : Std.Total fun a b : Split => a.amount_in ≤ b.amount_in :=
    ⟨fun a b => le_total a.amount_in b.amount_in⟩
  exact Frontier.pairwise_lt
    ((List.pairwise_insertionSort _ _).sublist (List.destutter_sublist _ _))
    (List.isChain_destutter _ _)

/-! ## The frontier -/

/-- A later point is for more input, gives more output and moves the price no
    less. -/
structure DepthPoint.Before (p q : DepthPoint) : Prop where
  trade_size : p.trade_size < q.trade_size
  output : p.output < q.output
  impact_bps : p.impact_bps ≤ q.impact_bps

theorem ladder_ordered (liquidity : Liquidity) (best : Ratio) (ceiling : Split) :
    (ladder liquidity best ceiling).Pairwise DepthPoint.Before := by
  have hinput := (sorted_rungs_strict liquidity best ceiling).sublist
    (Frontier.prune_sublist Split.amount_out (impact_bps best) _)
  have hboth := hinput.and (Frontier.prune_ordered Split.amount_out (impact_bps best)
    (sorted_rungs liquidity best ceiling))
  refine List.pairwise_map.mpr (hboth.imp ?_)
  rintro a b ⟨hsize, hbelow⟩
  exact ⟨hsize, hbelow.gives, hbelow.costs⟩

/-- **The ladder is a frontier.** Whatever the liquidity and its best price, the
    points grow strictly in input and output and never shrink in impact; and every
    rung the search returns has the impact it was searched for. -/
theorem ladder_frontier (liquidity : Liquidity) (best : Ratio) (ceiling : Split) :
    (ladder liquidity best ceiling).Pairwise DepthPoint.Before ∧
      ∀ target_bps upper split,
        size_for_impact liquidity best target_bps ceiling upper = some split →
        target_bps ≤ impact_bps best split :=
  ⟨ladder_ordered liquidity best ceiling, fun _ _ _ h => (size_for_impact_reaches h).impact⟩

/-- Every point of a curve is what some level of the prepared liquidity fills. -/
theorem depth_points_fill {candidates : List Candidate} {include_capacity : Bool}
    {point : DepthPoint} (h : point ∈ depth_points candidates include_capacity) :
    ∃ best level split, (Liquidity.new candidates).best_price = some best ∧
      (Liquidity.new candidates).at_price level = some split ∧ point = depth_point best split := by
  unfold depth_points at h
  match hbest : (Liquidity.new candidates).best_price,
    hceiling : (Liquidity.new candidates).at_price 0 with
  | none, _ =>
    simp only [hbest] at h
    cases h
  | some best, none =>
    simp only [hbest, hceiling] at h
    cases h
  | some best, some ceiling =>
    simp only [hbest, hceiling] at h
    split at h
    · -- No bucket was reached: the only point is the ceiling.
      split at h
      · rw [List.mem_singleton] at h
        exact ⟨best, 0, ceiling, rfl, hceiling, h⟩
      · cases h
    · obtain ⟨split, hsplit, rfl⟩ := List.mem_map.mp h
      have hrung := (Frontier.prune_sublist _ _ _).subset hsplit
      obtain ⟨target_bps, -, hsize⟩ := mem_sorted_rungs hrung
      rcases (size_for_impact_reaches hsize).fills with rfl | ⟨level, hlevel⟩
      · exact ⟨best, 0, split, rfl, hceiling, rfl⟩
      · exact ⟨best, level, split, rfl, hlevel, rfl⟩

end Solvent
