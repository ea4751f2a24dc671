import Mathlib
import Solvent.Routing.Reservable

/-! # Depth points

    A snapshot's capped liquidity at any marginal price. Unlike a routed trade, a
    depth point has no target: every venue is filled to the level, up to its cap.
    A maker whose legs together exceed its wallet at full fill is frozen up to its
    binding level: the fills that reach the wallet, trimmed to it, or the whole
    wallet from one venue where that is cheaper.
-/

namespace Solvent

/-- Input spanning the executable output range, including the last unit below an
    asymptote. -/
def Candidate.full_input_bound (c : Candidate) : U256 :=
  (([c.cap_out, c.cap_out.saturating_sub 1].filter (· ≠ 0)).findSome? fun output =>
    (c.net_quote_exact_out output).toOption.filter fun input =>
      is_ok (c.net_quote_exact_in input)).getD (c.feasible_input U256.MAX)

theorem full_input_bound_prices (c : Candidate) :
    c.full_input_bound = 0 ∨ ∃ y, c.net_quote_exact_in c.full_input_bound = .ok y := by
  unfold Candidate.full_input_bound
  generalize hfind : List.findSome? _ _ = found
  match found with
  | some input =>
    obtain ⟨output, -, hsome⟩ := List.exists_of_findSome?_eq_some hfind
    exact .inr (is_ok_iff.mp (Option.filter_eq_some_iff.mp hsome).2)
  | none =>
    rcases (feasible_bound_spec U256.MAX fun input => is_ok (c.net_quote_exact_in input)).1
      with hzero | hok
    · exact .inl hzero
    · exact .inr (is_ok_iff.mp hok)

/-- Where the cap prices, the bound is the input asked for it. -/
theorem full_input_bound_of_cap {c : Candidate} {input y : U256} (hcap : c.cap_out ≠ 0)
    (hout : c.net_quote_exact_out c.cap_out = .ok input)
    (hin : c.net_quote_exact_in input = .ok y) : c.full_input_bound = input := by
  have hkept : ((c.net_quote_exact_out c.cap_out).toOption.filter fun input =>
      is_ok (c.net_quote_exact_in input)) = some input := by
    rw [hout]
    exact Option.filter_eq_some_iff.mpr ⟨rfl, is_ok_iff.mpr ⟨y, hin⟩⟩
  simp [Candidate.full_input_bound, hcap, hkept]

/-! ## Polishing a wallet fill -/

/-- The exact-out quote of the candidate at an index. -/
def quote_at (candidates : List Candidate) (i : ℕ) (output : U256) : Option U256 := do
  (← candidates[i]?).net_quote_exact_out output |>.toOption

/-- What the outputs at `indices` cost; the greatest word where one does not
    price or the sum overflows. -/
def fill_cost (candidates : List Candidate) (indices : List ℕ) (outputs : List U256) : U256 :=
  (indices.foldlM (fun sum i =>
    if at_leg outputs i = 0 then some sum
    else do U256.checked_add sum (← quote_at candidates i (at_leg outputs i))) 0).getD U256.MAX

/-- The cheapest allocation met so far, and the venue that gives the whole wallet
    in it. -/
structure Polish where
  cost : U256
  selected : Option ℕ

/-- One venue of the polish: it has to have room for the whole wallet. -/
def polish_step (candidates : List Candidate) (wallet : U256) (p : Polish) (i : ℕ) : Polish :=
  match candidates[i]? with
  | none => p
  | some c =>
    if c.cap_out < wallet then p
    else
      match c.net_quote_exact_out wallet with
      | .error _ => p
      | .ok input =>
        if input = 0 ∨ !is_ok (c.net_quote_exact_in input) then p
        else if input < p.cost ∨ (input = p.cost ∧ p.selected.any fun previous =>
            candidates[previous]?.any fun c' => c.key < c'.key) then
          { cost := input, selected := some i }
        else p

/-- Whole-input rounding can make one venue cheaper than the continuous wallet
    allocation; compare those endpoints once. -/
def polish_wallet_fill (candidates : List Candidate) (indices : List ℕ) (outputs : List U256)
    (wallet : U256) : List U256 :=
  match (indices.foldl (polish_step candidates wallet)
      { cost := fill_cost candidates indices outputs, selected := none }).selected with
  | some selected => (indices.foldl (fun outputs i => outputs.set i 0) outputs).set selected wallet
  | none => outputs

/-! ## The largest representable point -/

/-- Build the point; where its totals overflow, the outputs and then the inputs
    are trimmed to what a word holds. -/
def build_representable (candidates : List Candidate) (outputs : List U256) (level : Ratio) :
    Option Split :=
  let all := List.range candidates.length
  let outputs :=
    if exceeds_budget outputs U256.MAX then trim_to_total candidates outputs U256.MAX all
    else outputs
  match build candidates outputs .ExactOut level with
  | some split => some split
  | none => do
    let inputs ← (candidates.zip outputs).mapM fun (c, output) =>
      if output = 0 then some 0 else (c.net_quote_exact_out output).toOption
    let inputs := trim_to_total candidates inputs U256.MAX all
    let outputs ← ((candidates.zip inputs).zip outputs).mapM fun ((c, input), output) =>
      if input = 0 ∨ output = 0 then some 0
      else (c.net_quote_exact_in input).toOption.map (min output)
    build candidates outputs .ExactOut level

/-! ## Liquidity -/

/-- A maker frozen up to `binding_level`, with the outputs it is frozen at. -/
structure WalletBoundary where
  binding_level : Ratio
  capped_outputs : List (ℕ × U256)

structure Liquidity where
  candidates : List Candidate
  bounds : List U256
  wallet_boundaries : List WalletBoundary
  best_price : Option Ratio

namespace Liquidity

/-- A venue's fill at a level, up to its cap. -/
def output (l : Liquidity) (index : ℕ) (level : Ratio) : U256 :=
  match l.candidates[index]? with
  | some candidate => min (fill_output candidate (at_leg l.bounds index) level) candidate.cap_out
  | none => 0

def outputs (l : Liquidity) (level : Ratio) : List U256 :=
  (List.range l.candidates.length).map fun i => l.output i level

/-- A group's combined capped fill. -/
def group_output (l : Liquidity) (group : MakerGroup) (level : Ratio) : U256 :=
  U256.saturating_sum (group.indices.map fun i => l.output i level)

/-- The levels around the group's wallet. -/
def group_bracket (l : Liquidity) (group : MakerGroup) : LevelBracket :=
  bracket_level (l.group_output group) group.wallet_cap none
    (price_upper (group.indices.filterMap (l.candidates[·]?)))

/-- One group of the preparation: a group within its wallet at full fill needs no
    boundary. -/
def bind_group (l : Liquidity) (full : List U256) (state : List U256 × List WalletBoundary)
    (group : MakerGroup) : List U256 × List WalletBoundary :=
  if exceeds_budget (group.indices.map (at_leg full)) group.wallet_cap then
    let bracket := l.group_bracket group
    let outputs := group.indices.foldl
      (fun outputs i => outputs.set i (l.output i bracket.lo)) state.1
    -- Integer fills can jump across the wallet: the reaching allocation is trimmed to it.
    let outputs := trim_to_total l.candidates outputs group.wallet_cap group.indices
    let outputs := polish_wallet_fill l.candidates group.indices outputs group.wallet_cap
    (outputs, state.2 ++ [{
      binding_level := bracket.hi
      capped_outputs := group.indices.map fun i => (i, at_leg outputs i) }])
  else state

/-- The candidates and their bounds, before any maker is frozen. -/
def unfrozen (candidates : List Candidate) : Liquidity :=
  { candidates
    bounds := candidates.map Candidate.full_input_bound
    wallet_boundaries := []
    best_price := none }

def new (candidates : List Candidate) : Liquidity :=
  let liquidity := unfrozen candidates
  let full := liquidity.outputs 0
  { liquidity with
    best_price := max_price ((((candidates.zip full).filter fun entry => entry.2 ≠ 0).filterMap
      fun entry => entry.1.marginal_price.toOption).filter (· ≠ 0))
    wallet_boundaries := ((MakerGroups.new candidates).groups.foldl (liquidity.bind_group full)
      (List.replicate candidates.length 0, [])).2 }

/-- The frozen outputs at a level. -/
def frozen (l : Liquidity) (level : Ratio) : List (Option U256) :=
  l.wallet_boundaries.foldl (fun outputs boundary =>
    if level ≤ boundary.binding_level then
      boundary.capped_outputs.foldl (fun outputs entry => outputs.set entry.1 (some entry.2)) outputs
    else outputs) (List.replicate l.candidates.length none)

/-- Every venue's output at a level, frozen or live. -/
def capped_outputs (l : Liquidity) (level : Ratio) : List U256 :=
  (l.frozen level).zipIdx.map fun entry => entry.1.getD (l.output entry.2 level)

def at_price (l : Liquidity) (level : Ratio) : Option Split :=
  build_representable l.candidates (l.capped_outputs level) level

end Liquidity

end Solvent
