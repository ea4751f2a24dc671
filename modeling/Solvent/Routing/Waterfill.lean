import Mathlib
import Solvent.Routing.Candidates

/-! # The capped water-fill

    Split a request across candidates at one marginal price. The level is
    bisected: every fill is a function of the level alone, and the bracket
    keeps one level that still meets the target and one that no longer does.
    Exact-in assembles at the under-filling side and tops the remainder up;
    exact-out assembles at the over-filling side and trims the overshoot.

    Per-leg amounts are lists in candidate order; `at_leg amounts i` reads slot
    `i`.
-/

namespace Solvent

/-! ## Splits -/

structure Split where
  legs : List RouteLeg
  amount_in : U256
  amount_out : U256
  lambda : Ratio

namespace Split

/-- `usize` leg counts fit a word. -/
def gas (split : Split) (per_leg_cost : U256) : U256 :=
  per_leg_cost.saturating_mul (Fin.ofNat _ split.legs.length)

/-- Output the resolver nets after gas. -/
def net_output (split : Split) (per_leg_cost : U256) : U256 :=
  split.amount_out.saturating_sub (split.gas per_leg_cost)

/-- Input the resolver grosses out with gas. -/
def gross_input (split : Split) (per_leg_cost : U256) : U256 :=
  split.amount_in.saturating_add (split.gas per_leg_cost)

end Split

def MAX_ITERS : ℕ := 128

/-- Which amount the request fixes. -/
inductive FillKind where
  | ExactIn
  | ExactOut
  deriving DecidableEq

namespace FillKind

def from_request (request : RouteRequest) : FillKind :=
  if request.exact_in then ExactIn else ExactOut

def toward_target : FillKind → LimitedQuote → U256
  | ExactIn, quote => quote.amount_in
  | ExactOut, quote => quote.amount_out

def is_no_worse (kind : FillKind) (candidate current : Split) (per_leg_cost : U256) : Bool :=
  match kind with
  | ExactIn => current.net_output per_leg_cost ≤ candidate.net_output per_leg_cost
  | ExactOut => candidate.gross_input per_leg_cost ≤ current.gross_input per_leg_cost

end FillKind

/-- A leg that could not price at a level. -/
def NO_FILL : LimitedQuote := { amount_in := 0, amount_out := 0, limited := true }

/-- Slot `i` of the per-leg amounts. -/
def at_leg (amounts : List U256) (i : ℕ) : U256 := amounts.getD i 0

/-! ## Maker groups -/

/-- Candidate indices that share one maker wallet, and its budget. -/
structure MakerGroup where
  indices : List ℕ
  wallet_cap : U256

structure MakerGroups where
  groups : List MakerGroup
  group_by_leg : List ℕ

namespace MakerGroups

/-- One candidate of the grouping pass. -/
def join (by_maker : BTreeMap MakerId MakerGroup) (entry : Candidate × ℕ) :
    BTreeMap MakerId MakerGroup :=
  BTreeMap.entry by_maker entry.1.key.maker
    { indices := [], wallet_cap := entry.1.wallet_cap }
    fun group =>
      { indices := group.indices ++ [entry.2]
        wallet_cap := min group.wallet_cap entry.1.wallet_cap }

def by_maker (candidates : List Candidate) : BTreeMap MakerId MakerGroup :=
  candidates.zipIdx.foldl join ∅

def new (candidates : List Candidate) : MakerGroups :=
  let groups := BTreeMap.values (by_maker candidates)
  { groups
    group_by_leg := groups.zipIdx.foldl
      (fun legs entry => entry.1.indices.foldl (fun legs i => legs.set i entry.2) legs)
      (List.replicate candidates.length 0) }

/-- The group of one leg. -/
def group_of (g : MakerGroups) (leg_index : ℕ) : MakerGroup :=
  g.groups.getD (g.group_by_leg.getD leg_index 0) { indices := [], wallet_cap := 0 }

def output_for_leg (g : MakerGroups) (outputs : List U256) (leg_index : ℕ) : U256 :=
  U256.saturating_sum ((g.group_of leg_index).indices.map (at_leg outputs))

end MakerGroups

/-! ## Level bracketing -/

/-- The least and greatest level tried so far and what they fill. -/
structure LevelBracket where
  lo : Ratio
  hi : Ratio
  m_lo : U256
  m_hi : U256

/-- `Ratio::from(U256::MAX).doubled()` -/
def top_level : Ratio := Ratio.doubled (Ratio.from_word U256.MAX)

/-- One halving of the bracket, unless the fills are within `tol`. -/
def bracket_step (fill : Ratio → U256) (target tol : U256) (b : LevelBracket) :
    Option LevelBracket :=
  if b.m_lo.saturating_sub b.m_hi ≤ tol then none
  else
    let mid := Ratio.midpoint b.lo b.hi
    let m := fill mid
    if target ≤ m then some { b with lo := mid, m_lo := m }
    else some { b with hi := mid, m_hi := m }

/-- The bracket the bisection starts from: the seed doubled, then `upper`, then
    the greatest level any curve quotes at, until one under-fills. -/
def bracket_start (fill : Ratio → U256) (target : U256) (seed : Option Ratio) (upper : Ratio) :
    LevelBracket :=
  let hi := match seed.filter (· ≠ 0) with
    | some seed => min (Ratio.doubled seed) upper
    | none => upper
  let hi := if target ≤ fill hi then upper else hi
  let hi := if target ≤ fill hi then top_level else hi
  { lo := 0, hi, m_lo := fill 0, m_hi := fill hi }

/-- Bisect `fill` to a tight bracket around `target`. -/
def bracket_level (fill : Ratio → U256) (target : U256) (seed : Option Ratio) (upper : Ratio) :
    LevelBracket :=
  let tol := max ⟨target.val / 1000000, target.div_million_lt⟩ 1
  Loop.iterate (bracket_step fill target tol) MAX_ITERS (bracket_start fill target seed upper)

/-- The greatest of a list of prices. -/
def max_price : List Ratio → Option Ratio
  | [] => none
  | p :: ps => some (ps.foldl max p)

/-- Twice the best spot price of the book, or of a word when none prices. -/
def price_upper (candidates : List Candidate) : Ratio :=
  let prices := (candidates.filterMap fun c => c.marginal_price.toOption).filter (· ≠ 0)
  Ratio.doubled ((max_price prices).getD (Ratio.from_word U256.MAX))

/-! ## The book -/

/-- Whether the amounts sum to more than `budget`: each is taken off in turn. -/
def exceeds_budget (outputs : List U256) (budget : U256) : Bool :=
  (outputs.foldlM (fun remaining output => U256.checked_sub remaining output) budget).isNone

/-- The output of a fill, zero where it does not price. -/
def fill_output (c : Candidate) (bound : U256) (level : Ratio) : U256 :=
  match c.net_quote_with_limit bound level with
  | .ok quote => quote.amount_out
  | .error _ => 0

/-- Each leg of a group's net output at a level. -/
def group_fills (candidates : List Candidate) (bounds : List U256) (group : MakerGroup)
    (level : Ratio) : List U256 :=
  group.indices.filterMap fun i =>
    candidates[i]?.map fun c => fill_output c (at_leg bounds i) level

/-- A group's combined net output at a level. -/
def group_output_at_level (candidates : List Candidate) (bounds : List U256) (group : MakerGroup)
    (level : Ratio) : U256 :=
  U256.saturating_sum (group_fills candidates bounds group level)

/-- The level at which a group's combined output falls to its wallet. -/
def group_floor_level (candidates : List Candidate) (bounds : List U256) (group : MakerGroup) :
    Ratio :=
  (bracket_level (group_output_at_level candidates bounds group) group.wallet_cap none
    (price_upper (group.indices.filterMap (candidates[·]?)))).hi

/-- One group of the floors pass: it binds only when several legs at full fill
    would exceed the wallet. -/
def floor_group (candidates : List Candidate) (bounds : List U256) (floors : List Ratio)
    (group : MakerGroup) : List Ratio :=
  if group.indices.length < 2 then floors
  else if exceeds_budget (group_fills candidates bounds group 0) group.wallet_cap then
    group.indices.foldl
      (fun floors i => floors.set i (group_floor_level candidates bounds group)) floors
  else floors

/-- Per-candidate wallet floor. -/
def wallet_floors (candidates : List Candidate) (bounds : List U256) (groups : MakerGroups) :
    List Ratio :=
  groups.groups.foldl (floor_group candidates bounds) (List.replicate candidates.length 0)

/-- One candidate's gross-input ceiling. -/
def input_bound (target : U256) (kind : FillKind) (c : Candidate) : U256 :=
  match kind with
  | .ExactIn =>
    min ((c.input_within_output c.cap_out).getD (c.feasible_input target)) target
  | .ExactOut =>
    if target < c.cap_out then
      (c.net_quote_exact_out target).toOption.getD (c.feasible_input U256.MAX)
    else (c.input_within_output c.cap_out).getD (c.feasible_input U256.MAX)

def input_bounds (candidates : List Candidate) (target : U256) (kind : FillKind) : List U256 :=
  candidates.map (input_bound target kind)

/-- The frozen inputs of one solve. -/
structure Book where
  candidates : List Candidate
  bounds : List U256
  floors : List Ratio
  groups : MakerGroups
  kind : FillKind

namespace Book

def new (candidates : List Candidate) (target : U256) (kind : FillKind) : Book :=
  let bounds := input_bounds candidates target kind
  let groups := MakerGroups.new candidates
  { candidates, bounds, floors := wallet_floors candidates bounds groups, groups, kind }

/-- The wallet floor of leg `i`. -/
def floor (book : Book) (i : ℕ) : Ratio := book.floors.getD i 0

/-- Leg `i`'s net fill at `level`, raised to its wallet floor. -/
def leg (book : Book) (level : Ratio) (entry : Candidate × ℕ) : LimitedQuote :=
  match entry.1.net_quote_with_limit (at_leg book.bounds entry.2)
      (max (book.floor entry.2) level) with
  | .ok quote => quote
  | .error _ => NO_FILL

/-- Every leg's fill at `level`. -/
def fills (book : Book) (level : Ratio) : List LimitedQuote :=
  book.candidates.zipIdx.map (book.leg level)

/-- Total toward the target at `level`. -/
def measure (book : Book) (level : Ratio) : U256 :=
  U256.saturating_sum ((book.fills level).map book.kind.toward_target)

/-- Input the top-up may add to leg `i`: its box room, capped by what its
    maker's wallet still takes. -/
def topup_room (book : Book) (ins outs : List U256) (entry : Candidate × ℕ) : U256 :=
  let (c, i) := entry
  let box_room := (at_leg book.bounds i).saturating_sub (at_leg ins i)
  if book.floor i = 0 then box_room
  else
    let used := book.groups.output_for_leg outs i
    let out_room := c.wallet_cap.saturating_sub used
    if out_room = 0 then 0
    else
      match c.input_within_output ((at_leg outs i).saturating_add out_room) with
      | some cap => min (cap.saturating_sub (at_leg ins i)) box_room
      | none => 0

end Book

/-! ## Assembly -/

/-- Both sides of a leg whose working side is `amount`. -/
def quote_leg (kind : FillKind) (c : Candidate) (amount : U256) : Option (U256 × U256) :=
  match kind with
  | .ExactIn => (c.net_quote_exact_in amount).toOption.map fun out => (amount, out)
  | .ExactOut => (c.net_quote_exact_out amount).toOption.map fun input => (input, amount)

def leg_of (c : Candidate) (amount_in amount_out : U256) : RouteLeg :=
  { maker := c.key.maker
    strategy_hash := c.key.strategy_hash
    token_in := c.token_in
    token_out := c.token_out
    amount_in
    amount_out }

/-- The loop of `build`. A zero on either side of a leg is dropped; a quote or a
    total that fails is no split. -/
def build_from (kind : FillKind) (lambda : Ratio) :
    List (Candidate × U256) → List RouteLeg → U256 → U256 → Option Split
  | [], legs, amount_in, amount_out =>
    if legs.isEmpty then none else some { legs, amount_in, amount_out, lambda }
  | (c, amount) :: rest, legs, amount_in, amount_out =>
    if amount = 0 then build_from kind lambda rest legs amount_in amount_out
    else
      match quote_leg kind c amount with
      | none => none
      | some (leg_in, leg_out) =>
        if leg_in = 0 ∨ leg_out = 0 then build_from kind lambda rest legs amount_in amount_out
        else
          match amount_in.checked_add leg_in, amount_out.checked_add leg_out with
          | some amount_in, some amount_out =>
            build_from kind lambda rest (legs ++ [leg_of c leg_in leg_out]) amount_in amount_out
          | _, _ => none

/-- Turn per-candidate working amounts into legs, pricing the other side
    exactly. -/
def build (candidates : List Candidate) (amounts : List U256) (kind : FillKind) (lambda : Ratio) :
    Option Split :=
  build_from kind lambda (candidates.zip amounts) [] 0 0

/-- The working state of the top-up loop. -/
structure TopUp where
  ins : List U256
  outs : List U256
  remainder : U256

/-- The output leg `i` gains from `add` more input, then its hash. -/
def topup_key (book : Book) (t : TopUp) (entry : Candidate × ℕ) : U256 ×ₗ StrategyHash :=
  let (c, i) := entry
  let add := min t.remainder (book.topup_room t.ins t.outs entry)
  let here := (c.net_quote_exact_in (at_leg t.ins i)).toOption.getD 0
  let ahead := (c.net_quote_exact_in ((at_leg t.ins i).saturating_add add)).toOption.getD here
  toLex (ahead.saturating_sub here, c.key.strategy_hash)

/-- One round: pour what fits of the remainder into the leg that buys the most
    extra output for it. -/
def topup_step (book : Book) (t : TopUp) : Option TopUp :=
  if t.remainder = 0 then none
  else
    match Vec.max_by_key (topup_key book t)
        (book.candidates.zipIdx.filter fun entry => book.topup_room t.ins t.outs entry ≠ 0) with
    | none => none
    | some (c, i) =>
      let add := min t.remainder (book.topup_room t.ins t.outs (c, i))
      if add = 0 then none
      else
        let input := (at_leg t.ins i).saturating_add add
        some {
          ins := t.ins.set i input
          outs := t.outs.set i ((c.net_quote_exact_in input).toOption.getD (at_leg t.outs i))
          remainder := t.remainder.saturating_sub add }

/-- The fills at `level` and what they leave of `target`. -/
def topup_start (book : Book) (level : Ratio) (target : U256) : TopUp :=
  let fills := book.fills level
  let ins := fills.map LimitedQuote.amount_in
  let outs := fills.map LimitedQuote.amount_out
  { ins, outs, remainder := target.saturating_sub (U256.saturating_sum ins) }

/-- Fill below `target` input at `level`, then place the remainder. A round
    takes at least one unit off the remainder, so that many rounds suffice. -/
def assemble_exact_in (book : Book) (level : Ratio) (target : U256) : Option Split :=
  let start := topup_start book level target
  let t := Loop.iterate (topup_step book) start.remainder.val start
  build book.candidates t.ins .ExactIn level

/-- Largest amount first, then the smaller strategy hash. -/
def trim_order (candidates : List Candidate) (amounts : List U256) (a b : ℕ) : Prop :=
  at_leg amounts b < at_leg amounts a ∨
    (at_leg amounts a = at_leg amounts b ∧
      (candidates[a]?.map (·.key.strategy_hash.hash.val)).getD 0 ≤
        (candidates[b]?.map (·.key.strategy_hash.hash.val)).getD 0)

instance (candidates : List Candidate) (amounts : List U256) :
    DecidableRel (trim_order candidates amounts) := fun a b => by
  unfold trim_order
  infer_instance

/-- Keep what fits of `remaining` at each index, in order. -/
def retain : List ℕ → List U256 → U256 → List U256
  | [], amounts, _ => amounts
  | i :: order, amounts, remaining =>
    let kept := min (at_leg amounts i) remaining
    retain order (amounts.set i kept) (remaining.saturating_sub kept)

/-- Trim the largest amounts so that those at `indices` sum to `target`. -/
def trim_to_total (candidates : List Candidate) (amounts : List U256) (target : U256)
    (indices : List ℕ) : List U256 :=
  let order := (indices.filter fun i => at_leg amounts i ≠ 0).insertionSort
    (trim_order candidates amounts)
  retain order.reverse amounts target

/-- Fill above `target` output at `level`, then trim the overshoot. -/
def assemble_exact_out (book : Book) (level : Ratio) (target : U256) : Option Split :=
  let outs := (book.fills level).map LimitedQuote.amount_out
  let outs := trim_to_total book.candidates outs target (List.range book.candidates.length)
  build book.candidates outs .ExactOut level

/-! ## Solving -/

/-- A water-fill allocation of `request`, or `none` when the liquidity cannot
    meet it. -/
def solve (candidates : List Candidate) (request : RouteRequest) (warm : Option Ratio) :
    Option Split :=
  if candidates.isEmpty ∨ request.amount = 0 then none
  else
    let target := request.amount
    let kind := FillKind.from_request request
    let book := Book.new candidates target kind
    if book.measure 0 < target then none
    else
      let level := bracket_level book.measure target warm (price_upper candidates)
      match kind with
      | .ExactIn => assemble_exact_in book level.hi target
      | .ExactOut => assemble_exact_out book level.lo target

/-- The sparsity pass's working state. -/
structure Sparse where
  active : List Candidate
  best : Split

/-- Drop the smallest leg and re-solve; keep the drop when it is no worse or the
    split has too many legs. -/
def sparse_step (request : RouteRequest) (per_leg_cost : U256) (max_legs : ℕ) (s : Sparse) :
    Option Sparse :=
  if s.best.legs.length ≤ 1 then none
  else
    let over_cap := max_legs < s.best.legs.length
    match Vec.min_by_key (fun l : RouteLeg => toLex (l.amount_out, l.strategy_hash)) s.best.legs with
    | none => none
    | some worst =>
      let pos := s.active.findIdx fun c => c.key.strategy_hash = worst.strategy_hash
      if pos < s.active.length then
        let active := Vec.swap_remove s.active pos
        match solve active request (some s.best.lambda) with
        | some next =>
          if over_cap ∨ (FillKind.from_request request).is_no_worse next s.best per_leg_cost then
            some { active, best := next }
          else none
        | none => none
      else none

/-- The split, then backward elimination of its legs; each kept drop shortens
    the active list. -/
def solve_sparse (candidates : List Candidate) (request : RouteRequest) (per_leg_cost : U256)
    (max_legs : ℕ) (warm : Option Ratio) : Option Split :=
  (solve candidates request warm).map fun best =>
    (Loop.iterate (sparse_step request per_leg_cost max_legs) candidates.length
      { active := candidates, best }).best

end Solvent
