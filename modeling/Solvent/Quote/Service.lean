import Mathlib
import Solvent.Registry.Apply
import Solvent.Routing.ExactIn
import Solvent.Routing.Service
import Solvent.Swap.Service

/-! # The quote service

    A quote is the exact-in split of a request, told leg by leg for display:
    amounts and hashes are texts, and each token is looked up in the catalog. A
    leg whose tokens are not both listed is left out; the total is not.
-/

namespace Solvent

open BTreeMap SwapService

abbrev U16 : Type := Fin (2 ^ 16)

/-! ## The token catalog -/

structure TokenMeta where
  chain_id : U64
  address : Address
  symbol : String
  decimals : UInt8
  logo_uri : Option String
  deriving DecidableEq

structure Token where
  address : Address
  chain_id : U64
  symbol : String
  logo_uri : Option String
  decimals : UInt8
  deriving DecidableEq

structure AssetManager where
  catalog : BTreeMap Address TokenMeta

namespace AssetManager

def DEFAULT_DECIMALS : UInt8 := 18

/-- Index the list by address; of two entries for one address the later stays. -/
def new (list : List TokenMeta) : AssetManager :=
  { catalog := list.foldl (fun catalog t => catalog.insert t.address t) ∅ }

def token_of (t : TokenMeta) : Token :=
  { address := t.address
    chain_id := t.chain_id
    symbol := t.symbol
    logo_uri := t.logo_uri
    decimals := t.decimals }

/-- A token's identity, if it is in the catalog. -/
def token (assets : AssetManager) (address : Address) : Option Token :=
  (assets.catalog[address]?).map token_of

def decimals (assets : AssetManager) (address : Address) : UInt8 :=
  match assets.catalog[address]? with
  | none => DEFAULT_DECIMALS
  | some t => t.decimals

/-- What the catalog lists sits under its own address. -/
theorem catalog_address (list : List TokenMeta) {address : Address} {stored : TokenMeta}
    (h : (new list).catalog[address]? = some stored) : stored.address = address := by
  unfold new at h
  induction list using List.reverseRecOn with
  | nil => simp at h
  | append_singleton list entry ih =>
    rw [List.foldl_concat, get_insert] at h
    split at h
    · rename_i hentry
      obtain rfl := Option.some.inj h
      exact hentry
    · exact ih h

theorem token_address {list : List TokenMeta} {address : Address} {t : Token}
    (h : (new list).token address = some t) : t.address = address := by
  obtain ⟨stored, hstored, rfl⟩ := Option.map_eq_some_iff.mp h
  exact catalog_address list hstored

/-- The catalog lists the tokens of its list. -/
theorem isSome_token (list : List TokenMeta) (address : Address) :
    ((new list).token address).isSome ↔ address ∈ list.map TokenMeta.address := by
  unfold token
  rw [Option.isSome_map]
  induction list using List.reverseRecOn with
  | nil => simp [new]
  | append_singleton list entry ih =>
    have hlast : (new (list ++ [entry])).catalog =
        (new list).catalog.insert entry.address entry := by
      simp [new]
    rw [hlast, get_insert, List.map_append, List.mem_append, ← ih]
    split
    · rename_i hentry
      simp [hentry]
    · rename_i hentry
      simp [Ne.symm hentry]

end AssetManager

/-! ## Texts -/

/-- How values of a type are written out and read back. -/
structure WireText (α : Type) where
  print : α → String
  parse : String → Except String α
  parse_print : ∀ a, parse (print a) = .ok a

/-- The texts of a response: decimal base units and hexadecimal hashes. -/
structure WireTexts where
  amount : WireText U256
  hash : WireText B256

/-- A token amount in base units. -/
structure Amount where
  raw : String
  deriving DecidableEq

def Amount.from_base_units (texts : WireTexts) (raw : U256) : Amount :=
  { raw := texts.amount.print raw }

/-! ## Quotes -/

structure QuoteLeg where
  maker : Address
  strategy_hash : String
  token_in : Token
  token_out : Token
  amount_in : Amount
  amount_out : Amount
  curve : String
  deriving DecidableEq

structure QuoteResponse where
  quote_id : String
  amount_out : Amount
  makers_sourced : ℕ
  legs : List QuoteLeg
  deriving DecidableEq

inductive QuoteOutcome where
  | Quote (quote : QuoteResponse)
  | NoRoute
  | SettlementCostExceedsLimit

/-- The snapshots one quote loads, the catalog, and the per-leg gas of a request
    in its spread token. -/
structure QuoteService where
  registry : Snapshot
  caps : AvailableSnapshot
  guards : GuardSnapshot
  assets : AssetManager
  config : RoutingConfig
  leg_cost : RouteRequest → U256

/-- The deterministic id of a quote. -/
def quote_hash (keccak256 : List UInt8 → B256) (token_in token_out : Address) (amount_in : U256) :
    B256 :=
  keccak256 (to_be_bytes 20 token_in ++ to_be_bytes 20 token_out ++ to_be_bytes 32 amount_in)

def curve_label : Curve → String
  | .Xyc => "XYC"
  | .Concentrate _ _ => "Concentrated"
  | .Pegged _ => "Pegged"

/-- Curve label per strategy on the pair. -/
def curve_labels (snapshot : Snapshot) (token_in token_out : Address) :
    BTreeMap StrategyHash String :=
  (snapshot.active_strategies_for_pair (TokenPair.new token_in token_out)).foldl
    (fun labels strategy =>
      match strategy.curve with
      | .Priceable curve _ => labels.insert strategy.key.strategy_hash (curve_label curve)
      | .Unsupported => labels)
    ∅

def min_amount_out (amount_out : U256) (slippage_bps : U16) : Option U256 :=
  if 10000 < slippage_bps.val then none
  else (amount_out.checked_mul (Fin.ofNat _ (10000 - slippage_bps.val))).map fun product =>
    ⟨product.val / 10000, (Nat.div_le_self _ _).trans_lt product.isLt⟩

namespace QuoteService

variable (keccak256 : List UInt8 → B256) (texts : WireTexts)

/-- One routed leg, or nothing if a token is missing from the catalog. -/
def leg (s : QuoteService) (labels : BTreeMap StrategyHash String) (leg : RouteLeg) :
    Option QuoteLeg := do
  let token_in ← s.assets.token leg.token_in
  let token_out ← s.assets.token leg.token_out
  return {
    maker := leg.maker.address
    strategy_hash := texts.hash.print leg.strategy_hash.hash
    token_in
    token_out
    amount_in := .from_base_units texts leg.amount_in
    amount_out := .from_base_units texts leg.amount_out
    curve := get_or labels leg.strategy_hash "" }

/-- The exact-in request of a quote. -/
def request (token_in token_out : Address) (amount_in : U256) : RouteRequest :=
  { intent := ⟨quote_hash keccak256 token_in token_out amount_in⟩
    token_in
    token_out
    amount := amount_in
    exact_in := true }

/-- The candidates of a request. -/
def selection (s : QuoteService) (request : RouteRequest) : List Candidate :=
  select s.registry s.caps s.guards request s.config.max_candidates

/-- Whether an order for `min_out` would route within `amount_in`. -/
def clears (s : QuoteService) (order : RouteRequest) (amount_in : U256) : Bool :=
  (route { snapshot := s.registry, caps := s.caps, guards := s.guards } order amount_in s.config
    (s.leg_cost order) none).isSome

/-- The response for a split. -/
def respond (s : QuoteService) (request : RouteRequest) (split : Split) : QuoteResponse :=
  let labels := curve_labels s.registry request.token_in request.token_out
  { quote_id := texts.hash.print request.intent.hash
    amount_out := .from_base_units texts split.amount_out
    makers_sourced := split.legs.length
    legs := split.legs.filterMap (s.leg texts labels) }

def quote_inner (s : QuoteService) (token_in token_out : Address) (amount_in : U256)
    (slippage_bps : Option U16) : QuoteOutcome :=
  let request := request keccak256 token_in token_out amount_in
  match solve_sparse (s.selection request) request (s.leg_cost request) s.config.max_legs none with
  | none => .NoRoute
  | some split =>
    match slippage_bps with
    | none => .Quote (s.respond texts request split)
    | some slippage_bps =>
      match min_amount_out split.amount_out slippage_bps with
      | none => .NoRoute
      | some min_out =>
        if min_out = 0 then .SettlementCostExceedsLimit
        else if s.clears { request with amount := min_out, exact_in := false } amount_in then
          .Quote (s.respond texts request split)
        else .SettlementCostExceedsLimit

/-- A read-only quote, or nothing when no route exists. -/
def quote (s : QuoteService) (token_in token_out : Address) (amount_in : U256) :
    Option QuoteResponse :=
  match s.quote_inner keccak256 texts token_in token_out amount_in none with
  | .Quote quote => some quote
  | .NoRoute | .SettlementCostExceedsLimit => none

def quote_for_order (s : QuoteService) (token_in token_out : Address) (amount_in : U256)
    (slippage_bps : U16) : QuoteOutcome :=
  s.quote_inner keccak256 texts token_in token_out amount_in (some slippage_bps)

end QuoteService

/-! ## The split behind a quote -/

section Eligible

variable {snapshot : Snapshot} {caps : AvailableSnapshot} {guards : GuardSnapshot}
variable {request : RouteRequest} {c : Candidate}

/-- Strategies are registered under their own keys, so candidates have distinct ones. -/
theorem nodup_eligible_keys (hsnapshot : Snapshot.Indexed snapshot) :
    ((eligible snapshot caps guards request).map Candidate.key).Nodup := by
  have hstrategies : (((snapshot.active_strategies_for_pair
      (TokenPair.new request.token_in request.token_out)).filter fun strategy =>
        !GuardSnapshot.is_guarded guards strategy.key).map MakerStrategy.key).Nodup := by
    refine List.Nodup.map_on ?_ ((hsnapshot.nodup_active _).filter _)
    intro a ha b hb hkey
    have ha' := ((hsnapshot.mem_active _ a).mp (List.mem_of_mem_filter ha)).1
    have hb' := ((hsnapshot.mem_active _ b).mp (List.mem_of_mem_filter hb)).1
    rw [hkey, hb'] at ha'
    exact (Option.some.inj ha').symm
  refine (List.Sublist.nodup ?_ hstrategies)
  unfold eligible
  rw [List.map_filterMap]
  generalize (snapshot.active_strategies_for_pair
    (TokenPair.new request.token_in request.token_out)).filter _ = strategies
  induction strategies with
  | nil => exact List.Sublist.slnil
  | cons strategy strategies ih =>
    match hbuild : build_candidate strategy caps request.token_in request.token_out with
    | none =>
      rw [List.filterMap_cons_none (by rw [hbuild]; rfl)]
      exact ih.cons _
    | some c =>
      rw [List.filterMap_cons_some (b := c.key) (by rw [hbuild]; rfl), List.map_cons,
        (build_candidate_cases hbuild).key]
      exact ih.cons_cons _

end Eligible

theorem solve_ne_nil {candidates : List Candidate} {request : RouteRequest} {warm : Option Ratio}
    {split : Split} (h : solve candidates request warm = some split) : split.legs ≠ [] := by
  unfold solve at h
  split at h
  · cases h
  · simp only at h
    split at h
    · cases h
    · split at h
      · exact (build_spec h).ne_nil
      · exact (build_spec h).ne_nil

/-- Leg by leg, a split names the strategies of the candidates it chose. -/
theorem names_of_quoted {kind : FillKind} {chosen : List Candidate} {legs : List RouteLeg}
    (h : List.Forall₂ (QuotedLeg kind) chosen legs) :
    legs.map (fun l => (l.maker, l.strategy_hash)) =
      chosen.map fun c => (c.key.maker, c.key.strategy_hash) := by
  induction h with
  | nil => rfl
  | cons hquoted _ ih =>
    rw [List.map_cons, List.map_cons, ih, hquoted.leg_eq]
    rfl

theorem leg_of_quoted {kind : FillKind} {chosen : List Candidate} {legs : List RouteLeg}
    (h : List.Forall₂ (QuotedLeg kind) chosen legs) {l : RouteLeg} (hl : l ∈ legs) :
    ∃ c ∈ chosen, QuotedLeg kind c l := by
  induction h with
  | nil => cases hl
  | cons hquoted _ ih =>
    rcases List.mem_cons.mp hl with rfl | hl
    · exact ⟨_, List.mem_cons_self, hquoted⟩
    · obtain ⟨c, hc, hcl⟩ := ih hl
      exact ⟨c, List.mem_cons_of_mem _ hc, hcl⟩

/-- The legs of an exact-in split sell the request's tokens, one strategy each,
    for exactly its output, which is not zero. -/
structure SoldWhole (request : RouteRequest) (split : Split) : Prop where
  tokens : ∀ l ∈ split.legs, l.token_in = request.token_in ∧ l.token_out = request.token_out
  distinct : (split.legs.map fun l => (l.maker, l.strategy_hash)).Nodup
  amount_out : split.amount_out.val = legs_out split.legs
  amount_out_ne_zero : split.amount_out ≠ 0
  legs_ne_nil : split.legs ≠ []

/-- **Spec of the split.** The strategies are those of one app. -/
theorem sold_whole {s : QuoteService} {request : RouteRequest} {split : Split} {app : Address}
    (hsnapshot : s.registry.Indexed)
    (happ : ∀ (key : StrategyKey) (strategy : MakerStrategy),
      s.registry.strategies[key]? = some strategy → key.app = app)
    (hin : request.exact_in = true) {per_leg_cost : U256}
    (h : solve_sparse (s.selection request) request per_leg_cost s.config.max_legs none =
      some split) : SoldWhole request split := by
  obtain ⟨active, seed, -, hsolve⟩ := solve_sparse_solves h
  have hspends := (exact_in_spends_within (s.selection request) request hin).2.1 _ _ _ _ h
  obtain ⟨chosen, hchosen, hlegs⟩ := hspends.legs
  have hsub : chosen.Subperm (eligible s.registry s.caps s.guards request) :=
    hchosen.trans (select_subperm _ _ _ _ _)
  have hne := solve_ne_nil hsolve
  refine ⟨?_, ?_, hspends.amount_out, ?_, hne⟩
  · intro l hl
    obtain ⟨c, hc, hquoted⟩ := leg_of_quoted hlegs hl
    rw [hquoted.leg_eq]
    exact eligible_oriented (hsub.subset hc)
  · -- One app: two keys with one maker and hash are the same key.
    rw [names_of_quoted hlegs]
    have hkeys : (chosen.map Candidate.key).Nodup := by
      obtain ⟨picked, hperm, hpicked⟩ := hsub
      refine (hperm.map Candidate.key).nodup_iff.mp ?_
      exact (hpicked.map Candidate.key).nodup (nodup_eligible_keys hsnapshot)
    have happs : ∀ c ∈ chosen, c.key.app = app := by
      intro c hc
      obtain ⟨strategy, hstored⟩ := eligible_registered hsnapshot (hsub.subset hc)
      exact happ c.key strategy hstored
    have hdistinct := List.inj_on_of_nodup_map hkeys
    refine List.Nodup.map_on ?_ hkeys.of_map
    intro c hc c' hc' hname
    obtain ⟨hmaker, hhash⟩ := Prod.mk.inj hname
    refine hdistinct hc hc' ?_
    have hcapp := (happs c hc).trans (happs c' hc').symm
    match c.key, c'.key, hmaker, hhash, hcapp with
    | ⟨_, _, _⟩, ⟨_, _, _⟩, rfl, rfl, rfl => rfl
  · intro hzero
    obtain ⟨l, rest, hsplit⟩ := List.exists_cons_of_ne_nil hne
    obtain ⟨c, -, hquoted⟩ := leg_of_quoted hlegs (l := l) (by rw [hsplit]; simp)
    have hsum := hspends.amount_out
    rw [hzero, hsplit] at hsum
    have hl : l.amount_out.val ≠ 0 := fun h => hquoted.out_ne_zero (Fin.ext h)
    simp only [legs_out, List.map_cons, total_cons] at hsum
    have hz : (0 : U256).val = 0 := rfl
    omega

namespace QuoteService

variable {keccak256 : List UInt8 → B256} {texts : WireTexts} {s : QuoteService}

/-- A quote tells the split of its request. -/
theorem quote_eq_some {token_in token_out : Address} {amount_in : U256} {q : QuoteResponse}
    (h : s.quote keccak256 texts token_in token_out amount_in = some q) :
    let request := request keccak256 token_in token_out amount_in
    ∃ split, solve_sparse (s.selection request) request (s.leg_cost request) s.config.max_legs
        none = some split ∧ q = s.respond texts request split := by
  unfold quote quote_inner at h
  simp only at h ⊢
  match hsolve : solve_sparse (s.selection (request keccak256 token_in token_out amount_in))
      (request keccak256 token_in token_out amount_in)
      (s.leg_cost (request keccak256 token_in token_out amount_in)) s.config.max_legs none with
  | none => simp [hsolve] at h
  | some split =>
    rw [hsolve] at h
    exact ⟨split, rfl, (Option.some.inj h).symm⟩

/-- A request that can be split is quoted. -/
theorem isSome_quote (token_in token_out : Address) (amount_in : U256) :
    let request := request keccak256 token_in token_out amount_in
    (s.quote keccak256 texts token_in token_out amount_in).isSome =
      (solve_sparse (s.selection request) request (s.leg_cost request) s.config.max_legs
        none).isSome := by
  unfold quote quote_inner
  simp only
  match solve_sparse (s.selection (request keccak256 token_in token_out amount_in))
      (request keccak256 token_in token_out amount_in)
      (s.leg_cost (request keccak256 token_in token_out amount_in)) s.config.max_legs none with
  | none => rfl
  | some split => rfl

/-- A leg of listed tokens, as it is told. -/
def told (texts : WireTexts) (labels : BTreeMap StrategyHash String) (token_in token_out : Token)
    (l : RouteLeg) : QuoteLeg :=
  { maker := l.maker.address
    strategy_hash := texts.hash.print l.strategy_hash.hash
    token_in
    token_out
    amount_in := .from_base_units texts l.amount_in
    amount_out := .from_base_units texts l.amount_out
    curve := get_or labels l.strategy_hash "" }

/-- Every leg is told when both tokens are listed. -/
theorem respond_listed {request : RouteRequest} {split : Split} (h : SoldWhole request split)
    {token_in token_out : Token} (hin : s.assets.token request.token_in = some token_in)
    (hout : s.assets.token request.token_out = some token_out) :
    (s.respond texts request split).legs = split.legs.map
      (told texts (curve_labels s.registry request.token_in request.token_out) token_in
        token_out) := by
  show split.legs.filterMap _ = _
  rw [← List.filterMap_eq_map]
  refine List.filterMap_congr ?_
  intro l hl
  obtain ⟨htin, htout⟩ := h.tokens l hl
  simp [leg, htin, htout, hin, hout, told]

/-- No leg is told when one of them is not. -/
theorem respond_unlisted {request : RouteRequest} {split : Split} (h : SoldWhole request split)
    (hmissing : s.assets.token request.token_in = none ∨
      s.assets.token request.token_out = none) : (s.respond texts request split).legs = [] := by
  show split.legs.filterMap _ = _
  rw [List.filterMap_eq_nil_iff]
  intro l hl
  obtain ⟨htin, htout⟩ := h.tokens l hl
  obtain hmissing | hmissing := hmissing
  · simp [leg, htin, hmissing]
  · simp [leg, htin, htout, hmissing]

end QuoteService

end Solvent
