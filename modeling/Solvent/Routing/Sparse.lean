import Solvent.Framework.Choice
import Solvent.Routing.ExactOut
import Solvent.Routing.Service

/-! # The sparsity pass never hurts

    Each round re-solves a shorter list, and what it finds may have more legs
    than the split it started from. A drop is kept when the split is no worse for
    the resolver, or when the split before it has too many legs: so as long as no
    split a leg is dropped from is over the cap, the pass goes down a chain of
    splits each no worse than the last.
-/

namespace Solvent

/-! ## The resolver's take -/

/-- No worse for the resolver: at least the net output of an exact-in split, at
    most the gross input of an exact-out one. -/
structure Split.NoWorse (request : RouteRequest) (per_leg_cost : U256) (next current : Split) :
    Prop where
  net_output : request.exact_in = true →
    current.net_output per_leg_cost ≤ next.net_output per_leg_cost
  gross_input : request.exact_in = false →
    next.gross_input per_leg_cost ≤ current.gross_input per_leg_cost

namespace Split.NoWorse

variable {request : RouteRequest} {per_leg_cost : U256}

theorem refl (split : Split) : split.NoWorse request per_leg_cost split :=
  ⟨fun _ => le_rfl, fun _ => le_rfl⟩

theorem trans {last next current : Split} (h : next.NoWorse request per_leg_cost current)
    (h' : last.NoWorse request per_leg_cost next) :
    last.NoWorse request per_leg_cost current where
  net_output hin := (h.net_output hin).trans (h'.net_output hin)
  gross_input hout := (h'.gross_input hout).trans (h.gross_input hout)

/-- The pass's own comparison decides it. -/
theorem of_is_no_worse {next current : Split}
    (h : (FillKind.from_request request).is_no_worse next current per_leg_cost = true) :
    next.NoWorse request per_leg_cost current := by
  match hkind : request.exact_in with
  | true =>
    have hnet : current.net_output per_leg_cost ≤ next.net_output per_leg_cost := by
      simpa [FillKind.from_request, hkind, FillKind.is_no_worse] using h
    exact ⟨fun _ => hnet, fun hout => absurd (hkind.symm.trans hout) (by decide)⟩
  | false =>
    have hgross : next.gross_input per_leg_cost ≤ current.gross_input per_leg_cost := by
      simpa [FillKind.from_request, hkind, FillKind.is_no_worse] using h
    exact ⟨fun hin => absurd (hkind.symm.trans hin) (by decide), fun _ => hgross⟩

end Split.NoWorse

/-! ## The leg count -/

/-- A split has at most one leg for each amount it is built from. -/
theorem build_legs_length {candidates : List Candidate} {amounts : List U256} {kind : FillKind}
    {lambda : Ratio} {split : Split} (h : build candidates amounts kind lambda = some split) :
    split.legs.length ≤ candidates.length := by
  calc split.legs.length = ((candidates.zip amounts).filterMap (leg_at kind)).length := by
        rw [(build_spec h).legs]
    _ ≤ (candidates.zip amounts).length := List.length_filterMap_le _ _
    _ ≤ candidates.length := by rw [List.length_zip]; exact min_le_left _ _

/-- A split has at most one leg for each candidate. -/
theorem solve_legs_length {candidates : List Candidate} {request : RouteRequest}
    {warm : Option Ratio} {split : Split} (h : solve candidates request warm = some split) :
    split.legs.length ≤ candidates.length := by
  match hkind : request.exact_in with
  | true => exact build_legs_length (solve_exact_in hkind h).2
  | false => exact build_legs_length (solve_exact_out hkind h).2

/-! ## The pass -/

/-- The splits the pass drops a leg from. -/
def thinned (candidates : List Candidate) (request : RouteRequest) (per_leg_cost : U256)
    (max_legs : ℕ) (best : Split) : List Split :=
  (Loop.visited (sparse_step request per_leg_cost max_legs) candidates.length
    { active := candidates, best }).map Sparse.best

/-- A drop from a split within the cap is kept only when it is no worse. -/
theorem sparse_step_no_worse {request : RouteRequest} {per_leg_cost : U256} {max_legs : ℕ}
    {s s' : Sparse} (hcap : s.best.legs.length ≤ max_legs)
    (h : sparse_step request per_leg_cost max_legs s = some s') :
    s'.best.NoWorse request per_leg_cost s.best := by
  obtain ⟨-, -, -, hover | hkept⟩ := sparse_step_cases h
  · omega
  · exact Split.NoWorse.of_is_no_worse hkept

/-- The run from any split: no worse, when every split thinned is within the cap. -/
theorem thinned_no_worse {candidates : List Candidate} {request : RouteRequest}
    {per_leg_cost : U256} {max_legs : ℕ} {best : Split}
    (hcap : ∀ kept ∈ thinned candidates request per_leg_cost max_legs best,
      kept.legs.length ≤ max_legs) :
    (Loop.iterate (sparse_step request per_leg_cost max_legs) candidates.length
      { active := candidates, best }).best.NoWorse request per_leg_cost best := by
  have hround : ∀ s ∈ Loop.visited (sparse_step request per_leg_cost max_legs) candidates.length
      { active := candidates, best }, ∀ s', sparse_step request per_leg_cost max_legs s = some s' →
      s'.best.NoWorse request per_leg_cost s.best := by
    intro s hs s' hstep
    exact sparse_step_no_worse (hcap s.best (List.mem_map_of_mem hs)) hstep
  exact Loop.iterate_ordered
    (R := fun s s' : Sparse => s'.best.NoWorse request per_leg_cost s.best)
    (fun s => Split.NoWorse.refl s.best) (fun _ _ _ h h' => h.trans h') _ hround

/-- No split the pass thins has more legs than there are candidates. -/
theorem thinned_legs_length {candidates : List Candidate} {request : RouteRequest}
    {per_leg_cost : U256} {max_legs : ℕ} {best : Split}
    (hbest : best.legs.length ≤ candidates.length) :
    ∀ kept ∈ thinned candidates request per_leg_cost max_legs best,
      kept.legs.length ≤ candidates.length := by
  intro kept hkept
  obtain ⟨s, hs, rfl⟩ := List.mem_map.mp hkept
  have hstep : ∀ s s' : Sparse, (s.active.length ≤ candidates.length ∧
        s.best.legs.length ≤ candidates.length) →
      sparse_step request per_leg_cost max_legs s = some s' →
      s'.active.length ≤ candidates.length ∧ s'.best.legs.length ≤ candidates.length := by
    intro s s' hle h
    obtain ⟨-, hshorter, hsolve, -⟩ := sparse_step_cases h
    have hlegs := solve_legs_length hsolve
    omega
  exact (Loop.visited_invariant hstep candidates.length ⟨le_rfl, hbest⟩ s hs).2

/-- **Sparsification never hurts.** The pass returns a split whenever there is
    one, no worse for the resolver as long as no split it drops a leg from is
    over the cap; a cap no lower than the number of candidates is enough. -/
theorem sparsified_no_worse (candidates : List Candidate) (request : RouteRequest)
    (per_leg_cost : U256) (max_legs : ℕ) (warm : Option Ratio) (split : Split)
    (h : solve candidates request warm = some split) :
    ∃ sparse, solve_sparse candidates request per_leg_cost max_legs warm = some sparse ∧
      ((∀ kept ∈ thinned candidates request per_leg_cost max_legs split,
        kept.legs.length ≤ max_legs) → sparse.NoWorse request per_leg_cost split) ∧
      (candidates.length ≤ max_legs → sparse.NoWorse request per_leg_cost split) := by
  refine ⟨_, by rw [solve_sparse, h, Option.map_some], thinned_no_worse, ?_⟩
  intro hfew
  have hlegs : ∀ kept ∈ thinned candidates request per_leg_cost max_legs split,
      kept.legs.length ≤ candidates.length := thinned_legs_length (solve_legs_length h)
  exact thinned_no_worse fun kept hkept => (hlegs kept hkept).trans hfew

/-! ## Over the cap -/

/-- The venues a split is solved over cannot fill the request without the one of
    its smallest leg. -/
structure AtFloor (candidates : List Candidate) (request : RouteRequest) (split : Split) :
    Prop where
  floor : ∃ (active rest : List Candidate) (c : Candidate) (smallest : RouteLeg),
    active.Subperm candidates ∧ (∃ seed, solve active request seed = some split) ∧
    smallest ∈ split.legs ∧ (∀ leg ∈ split.legs, smallest.amount_out ≤ leg.amount_out) ∧
    c.key.strategy_hash = smallest.strategy_hash ∧ (c :: rest).Perm active ∧
    solve rest request (some split.lambda) = none

/-- The pass leaves a split over the cap only where the drop cannot be solved: a
    split with legs has a smallest one, and its venue is among the active. -/
theorem floor_of_exit {candidates : List Candidate} {request : RouteRequest}
    {per_leg_cost : U256} {max_legs : ℕ} {s : Sparse} (hactive : s.active.Subperm candidates)
    (hsolve : ∃ seed, solve s.active request seed = some s.best)
    (hmany : 1 < s.best.legs.length) (hover : max_legs < s.best.legs.length)
    (h : sparse_step request per_leg_cost max_legs s = none) :
    AtFloor candidates request s.best := by
  have hseed := hsolve
  obtain ⟨seed, hsolved⟩ := hsolve
  match hworst : Vec.min_by_key (fun l : RouteLeg => toLex (l.amount_out, l.strategy_hash))
      s.best.legs with
  | none =>
    rw [Choice.min_by_key_eq_none.mp hworst] at hmany
    cases hmany
  | some worst =>
    obtain ⟨hmem, hleast⟩ := Choice.min_by_key_spec hworst
    obtain ⟨c, hc, hdraws⟩ := leg_of_solve hsolved hmem
    have hfound : (s.active.findIdx fun c => c.key.strategy_hash = worst.strategy_hash) <
        s.active.length :=
      List.findIdx_lt_length_of_exists ⟨c, hc, by simpa using hdraws.2.symm⟩
    have hhash : (s.active[s.active.findIdx fun c =>
        c.key.strategy_hash = worst.strategy_hash]).key.strategy_hash = worst.strategy_hash := by
      have hat := List.findIdx_getElem (w := hfound)
      simpa using hat
    have hunsolved : solve (Vec.swap_remove s.active (s.active.findIdx fun c =>
        c.key.strategy_hash = worst.strategy_hash)) request (some s.best.lambda) = none := by
      unfold sparse_step at h
      rw [if_neg (not_le.mpr hmany), hworst] at h
      simp only [if_pos hfound] at h
      match hnext : solve (Vec.swap_remove s.active (s.active.findIdx fun c =>
          c.key.strategy_hash = worst.strategy_hash)) request (some s.best.lambda) with
      | none => exact hnext
      | some next =>
        rw [hnext] at h
        simp [hover] at h
    refine ⟨s.active, _, _, worst, hactive, hseed, hmem, ?_, hhash,
      Choice.swap_remove_perm (List.getElem?_eq_getElem hfound), hunsolved⟩
    intro leg hleg
    exact (Prod.Lex.toLex_le_toLex.mp (hleast leg hleg)).elim (fun hlt => hlt.le)
      fun heq => heq.1.le

/-- **The cap is a target.** A split of the pass is within the cap, or a single
    leg, or made of venues that cannot fill the request with one fewer. -/
theorem within_cap_or_floor {candidates : List Candidate} {request : RouteRequest}
    {per_leg_cost : U256} {max_legs : ℕ} {warm : Option Ratio} {split : Split}
    (h : solve_sparse candidates request per_leg_cost max_legs warm = some split) :
    split.legs.length ≤ max 1 max_legs ∨ AtFloor candidates request split := by
  unfold solve_sparse at h
  obtain ⟨best, hbest, rfl⟩ := Option.map_eq_some_iff.mp h
  set s := Loop.iterate (sparse_step request per_leg_cost max_legs) candidates.length
    { active := candidates, best } with hs
  by_cases hcap : s.best.legs.length ≤ max 1 max_legs
  · exact .inl hcap
  · rw [not_le, max_lt_iff] at hcap
    -- Every state of the run is a solution of its own active list.
    have hinv : s.active.Subperm candidates ∧
        ∃ seed, solve s.active request seed = some s.best := by
      refine Loop.iterate_invariant (P := fun s : Sparse => s.active.Subperm candidates ∧
        ∃ seed, solve s.active request seed = some s.best) ?_ _
        ⟨List.Subperm.refl _, warm, hbest⟩
      intro s s' hinv hstep
      obtain ⟨hsub, -, hsolve, -⟩ := sparse_step_cases hstep
      exact ⟨hsub.trans hinv.1, _, hsolve⟩
    exact .inr (floor_of_exit hinv.1 hinv.2 hcap.1 hcap.2
      (sparse_exits request per_leg_cost max_legs { active := candidates, best }))

/-- A constant-product venue without fees. -/
def thin_venue (n balance_in balance_out cap : U256) : Candidate :=
  { sample_venue with
    key := { maker := ⟨Fin.ofNat _ n.val⟩, app := 0, strategy_hash := ⟨n⟩ }
    cap_out := cap
    wallet_cap := cap
    pool := .Xyc { balance_in, balance_out }
    fees_in_bps := [] }

def four_venues : List Candidate :=
  [thin_venue 1 419 421 344, thin_venue 2 621 702 265, thin_venue 3 151 703 238,
    thin_venue 4 33 35 2]

def thin_request : RouteRequest :=
  { intent := ⟨0⟩, token_in := 1, token_out := 2, amount := 240, exact_in := false }

theorem sparsified_no_worse_sample :
    ∃ split sparse, solve four_venues thin_request none = some split ∧
      solve_sparse four_venues thin_request 0 4 none = some sparse ∧
      sparse.NoWorse thin_request 0 split := by
  have hsome : (solve four_venues thin_request none).isSome := by decide +kernel
  obtain ⟨split, hsplit⟩ := Option.isSome_iff_exists.mp hsome
  obtain ⟨sparse, hsparse, -, hfew⟩ :=
    sparsified_no_worse four_venues thin_request 0 4 none split hsplit
  exact ⟨split, sparse, hsplit, hsparse, hfew (by decide)⟩

/-- Two legs within a cap of two: the drop of the smaller one is no worse but
    brings in two venues, and the drop forced by the third leg costs a unit. -/
theorem forced_drop_hurts :
    ¬∀ (candidates : List Candidate) (request : RouteRequest) (per_leg_cost : U256)
      (max_legs : ℕ) (warm : Option Ratio) (split : Split),
      (candidates.map fun c => c.key.strategy_hash).Nodup →
      solve candidates request warm = some split →
      ∃ sparse, solve_sparse candidates request per_leg_cost max_legs warm = some sparse ∧
        (split.legs.length ≤ max_legs → sparse.NoWorse request per_leg_cost split) := by
  intro h
  have hsplit : ((solve four_venues thin_request none).map fun s =>
      (s.gross_input 0, s.legs.length)) = some (80, 2) := by decide +kernel
  have hsparse : ((solve_sparse four_venues thin_request 0 2 none).map fun s =>
      s.gross_input 0) = some 81 := by decide +kernel
  obtain ⟨split, hsolve, hval⟩ := Option.map_eq_some_iff.mp hsplit
  obtain ⟨hgross, hlegs⟩ := Prod.mk.inj hval
  obtain ⟨sparse, hsolve', hno_worse⟩ :=
    h four_venues thin_request 0 2 none split (by decide +kernel) hsolve
  rw [hsolve', Option.map_some, Option.some_inj] at hsparse
  have hle := (hno_worse hlegs.le).gross_input rfl
  rw [hsparse, hgross] at hle
  exact absurd hle (by decide)

end Solvent
