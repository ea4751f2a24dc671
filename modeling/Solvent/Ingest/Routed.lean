import Solvent.Crosschain.Direct
import Solvent.Ingest.Aqua
import Solvent.Routing.Sparse
import Solvent.Swap.Service

/-! # A routed plan at the filler

    From an admitted order to the checks of `Erc7683AquaFiller.fill`: the router
    sources the order's output within its input less the fee, the builder turns
    each leg into one authorization, and the filler adds the plan up.

    Two checks rest on what the router does not promise. `max_legs` is a target
    the sparsity pass may have to leave, and the outputs add up to the order's
    where every candidate charges for what it delivers.
-/

namespace Solvent

open Abi Contract
open Contracts (Solvent7683Order SwapOrder Authorization SourceSwap FillerConfig FillReads
  Erc7683AquaFiller address_word uint64_word)
open Contracts.Erc7683AquaFiller (Plan Leg MAX_LEGS outputs input_limits nonces)

/-! ## The legs of an exact-out plan -/

/-- The legs of a plan for a request: of its pair, each paid for, with totals that
    are words, within the bound. -/
structure RoutedLegs (request : RouteRequest) (bound : U256) (legs : List RouteLeg) : Prop where
  ne_nil : legs ≠ []
  pair : ∀ leg ∈ legs, leg.token_in = request.token_in ∧ leg.token_out = request.token_out
  amounts : ∀ leg ∈ legs, leg.amount_out ≠ 0 ∧ leg.amount_in ≠ 0
  out_lt : legs_out legs < 2 ^ 256
  in_le : legs_in legs ≤ bound.val

theorem routed_legs {book : RoutingBook} {request : RouteRequest} {bound : U256}
    {config : RoutingConfig} {per_leg_cost : U256} {warm : Option Ratio} {plan : RoutePlan}
    (hout : request.exact_in = false)
    (h : route book request bound config per_leg_cost warm = some plan) :
    RoutedLegs request bound plan.legs := by
  obtain ⟨split, hsparse, hlegs, hwithin⟩ := route_within_bound hout h
  obtain ⟨active, seed, hactive, hsolve⟩ := solve_sparse_solves hsparse
  have hbuilt := build_spec (solve_exact_out hout hsolve).2
  have heligible := hactive.trans (select_subperm _ _ _ _ _)
  -- A leg is the quote of one of the candidates.
  have hquoted : ∀ leg ∈ split.legs, ∃ c ∈ active, QuotedLeg .ExactOut c leg := by
    intro leg hleg
    rw [hbuilt.legs] at hleg
    obtain ⟨⟨c, amount⟩, hmem, hat⟩ := List.mem_filterMap.mp hleg
    exact ⟨c, (List.of_mem_zip hmem).1, (leg_at_eq_some hat).1⟩
  rw [hlegs]
  refine ⟨hbuilt.ne_nil, ?_, ?_, ?_, ?_⟩
  · intro leg hleg
    obtain ⟨c, hc, hquote⟩ := hquoted leg hleg
    obtain ⟨hin, hout⟩ := eligible_oriented (heligible.subset hc)
    rw [hquote.leg_eq]
    exact ⟨hin, hout⟩
  · intro leg hleg
    obtain ⟨c, -, hquote⟩ := hquoted leg hleg
    exact ⟨hquote.out_ne_zero, hquote.in_ne_zero⟩
  · rw [← hbuilt.amount_out]
    exact split.amount_out.isLt
  · rw [← hbuilt.amount_in]
    exact hwithin

/-- Each leg delivers a unit at least, so their number is a word. -/
theorem RoutedLegs.length_lt {request : RouteRequest} {bound : U256} {legs : List RouteLeg}
    (h : RoutedLegs request bound legs) : legs.length < 2 ^ 256 := by
  have hcount : legs.length ≤ legs_out legs := by
    have hone : ∀ n ∈ (legs.map RouteLeg.amount_out).map Fin.val, 1 ≤ n := by
      intro n hn
      obtain ⟨amount, hamount, rfl⟩ := List.mem_map.mp hn
      obtain ⟨leg, hleg, rfl⟩ := List.mem_map.mp hamount
      exact Nat.one_le_iff_ne_zero.mpr fun hzero => (h.amounts leg hleg).1 (Fin.ext hzero)
    have hlength := List.length_le_sum_of_one_le _ hone
    rwa [List.length_map, List.length_map] at hlength
  exact hcount.trans_lt h.out_lt

/-! ## The authorizations of a plan -/

section Build

variable {ε : Type} {keccak256 : Bytes → B256} {program : MakerStrategy → Bytes}
variable {authorize : Authorization → Except ε Bytes}

/-- A built source carries its leg's authorization. -/
theorem authorization_of_source {b : AquaSourcePlanBuilder} {leg : RouteLeg} {index : ℕ}
    {context_hash : B256} {snapshot : Snapshot} {source : SourceSwap}
    (h : b.source_for keccak256 program authorize leg index context_hash snapshot = .ok source) :
    source.authorization = leg_authorization keccak256 context_hash leg index := by
  unfold AquaSourcePlanBuilder.source_for at h
  obtain ⟨strategy, -, h⟩ := expect_bind.mp h
  obtain ⟨order, -, h⟩ := expect_bind.mp h
  obtain ⟨-, h⟩ := require_bind.mp h
  obtain ⟨-, h⟩ := require_bind.mp h
  obtain ⟨signature, -, h⟩ := bubble_bind.mp h
  cases h
  rfl

/-- The authorizations of the legs from `index` on, in order. -/
theorem authorizations_of_sources {b : AquaSourcePlanBuilder} {context_hash : B256}
    {snapshot : Snapshot} {legs : List RouteLeg} {index : ℕ} {sources : List SourceSwap}
    (h : b.sources_from keccak256 program authorize context_hash snapshot legs index =
      .ok sources) :
    sources.map SourceSwap.authorization =
      (legs.zipIdx index).map fun p => leg_authorization keccak256 context_hash p.1 p.2 := by
  induction legs generalizing index sources with
  | nil =>
    cases h
    rfl
  | cons leg legs ih =>
    obtain ⟨source, hsource, h⟩ := Except.bind_eq_ok.mp h
    obtain ⟨rest, hrest, h⟩ := Except.bind_eq_ok.mp h
    cases h
    rw [List.map_cons, List.zipIdx_cons, List.map_cons, authorization_of_source hsource, ih hrest]

end Build

/-- What the nonces of a plan hash. -/
def nonce_preimages (context_hash : B256) (legs : List RouteLeg) : Set Bytes :=
  { bytes | ∃ p ∈ legs.zipIdx, bytes = nonce_preimage context_hash p.1 p.2 }

/-- The preimage tells the index of its leg. -/
theorem index_of_nonce_preimage {context_hash : B256} {leg leg' : RouteLeg} {i j : ℕ}
    (hi : i < 2 ^ 256) (hj : j < 2 ^ 256)
    (h : nonce_preimage context_hash leg i = nonce_preimage context_hash leg' j) : i = j := by
  have hwords := words_injective h
  simp only [List.cons.injEq, and_true, true_and] at hwords
  have hindex : (Fin.ofNat (2 ^ 256) i).val = (Fin.ofNat (2 ^ 256) j).val :=
    congrArg Fin.val hwords.2.2.2.2.2.2
  rwa [Fin.val_ofNat, Fin.val_ofNat, Nat.mod_eq_of_lt hi, Nat.mod_eq_of_lt hj] at hindex

/-- Without a collision among a plan's preimages its nonces are distinct. -/
theorem nonces_nodup {keccak256 : Bytes → B256} {context_hash : B256} {legs : List RouteLeg}
    (hlength : legs.length < 2 ^ 256)
    (hkeccak : Set.InjOn keccak256 (nonce_preimages context_hash legs)) :
    (legs.zipIdx.map fun p => user_fill_nonce keccak256 context_hash p.1 p.2).Nodup := by
  have hindexes : (legs.zipIdx.map Prod.snd).Nodup := by
    rw [List.zipIdx_map_snd]
    exact List.nodup_range'
  refine List.Nodup.map_on ?_ hindexes.of_map
  intro p hp q hq hnonce
  have hsame : nonce_preimage context_hash p.1 p.2 = nonce_preimage context_hash q.1 q.2 :=
    hkeccak ⟨p, hp, rfl⟩ ⟨q, hq, rfl⟩ hnonce
  have hlt : ∀ r ∈ legs.zipIdx, r.2 < 2 ^ 256 := by
    intro r hr
    have := List.snd_lt_of_mem_zipIdx hr
    omega
  have hindex := index_of_nonce_preimage (hlt p hp) (hlt q hq) hsame
  exact List.inj_on_of_nodup_map hindexes hp hq hindex

/-! ## The plan at the filler -/

/-- Sources that carry the authorizations of a plan's legs, in order. -/
def Authorizes (keccak256 : Bytes → B256) (context_hash : B256) (legs : List RouteLeg)
    (sources : List SourceSwap) : Prop :=
  sources.map SourceSwap.authorization =
    legs.zipIdx.map fun p => leg_authorization keccak256 context_hash p.1 p.2

namespace Authorizes

variable {keccak256 : Bytes → B256} {context_hash : B256} {legs : List RouteLeg}
variable {sources : List SourceSwap}

/-- A field of the authorizations that the legs' index does not touch. -/
theorem map_field {β : Type} {f : Authorization → β} {g : RouteLeg → β}
    (h : Authorizes keccak256 context_hash legs sources)
    (hfield : ∀ leg index, f (leg_authorization keccak256 context_hash leg index) = g leg) :
    sources.map (fun source => f source.authorization) = legs.map g := by
  calc sources.map (fun source => f source.authorization)
      = (sources.map SourceSwap.authorization).map f := by rw [List.map_map]; rfl
    _ = (legs.zipIdx.map fun p => leg_authorization keccak256 context_hash p.1 p.2).map f := by
        rw [h]
    _ = (legs.zipIdx.map Prod.fst).map g := by
        rw [List.map_map, List.map_map]
        exact List.map_congr_left fun p _ => hfield p.1 p.2
    _ = legs.map g := by rw [List.zipIdx_map_fst]

theorem length_eq (h : Authorizes keccak256 context_hash legs sources) :
    sources.length = legs.length := by
  have hlength := congrArg List.length h
  rwa [List.length_map, List.length_map, List.length_zipIdx] at hlength

theorem outputs_eq (h : Authorizes keccak256 context_hash legs sources) :
    outputs sources = legs_out legs := by
  rw [outputs, h.map_field (f := fun a => a.amountOut.val) (g := fun leg => leg.amount_out.val)
    fun _ _ => rfl, legs_out, total, List.map_map]
  rfl

theorem input_limits_eq (h : Authorizes keccak256 context_hash legs sources) :
    input_limits sources = legs_in legs := by
  rw [input_limits, h.map_field (f := fun a => a.amountInLimit.val)
    (g := fun leg => leg.amount_in.val) fun _ _ => rfl, legs_in, total, List.map_map]
  rfl

theorem nonces_eq (h : Authorizes keccak256 context_hash legs sources) :
    nonces sources =
      legs.zipIdx.map fun p => user_fill_nonce keccak256 context_hash p.1 p.2 := by
  have hmap := congrArg (List.map fun a : Authorization => a.nonce) h
  rw [List.map_map, List.map_map] at hmap
  exact hmap

/-- Each source is the authorization of one leg. -/
theorem exists_leg (h : Authorizes keccak256 context_hash legs sources) {source : SourceSwap}
    (hsource : source ∈ sources) :
    ∃ leg ∈ legs, ∃ index, source.authorization =
      leg_authorization keccak256 context_hash leg index := by
  have hmem := List.mem_map_of_mem (f := SourceSwap.authorization) hsource
  rw [h] at hmem
  obtain ⟨p, hp, hauthorization⟩ := List.mem_map.mp hmem
  exact ⟨p.1, List.fst_mem_of_mem_zipIdx hp, p.2, hauthorization.symm⟩

/-- **The plan fits its order**: legs of a request for the order's output, within
    its input less the fee, make a plan of the filler's. -/
theorem plan {order : Solvent7683Order} {request : RouteRequest} {bound : U256}
    (h : Authorizes keccak256 context_hash legs sources)
    (hlegs : RoutedLegs request bound legs) (hin : request.token_in = order.inputToken)
    (hout : request.token_out = order.outputToken)
    (hbound : order.executorFee.val + bound.val = order.inputAmount.val)
    (hkeccak : Set.InjOn keccak256 (nonce_preimages context_hash legs)) :
    Plan order context_hash sources where
  legs source hsource := by
    obtain ⟨leg, hleg, index, hauthorization⟩ := h.exists_leg hsource
    rw [hauthorization]
    obtain ⟨hpair_in, hpair_out⟩ := hlegs.pair leg hleg
    exact
      { kind := rfl
        context := rfl
        rebate := rfl
        pair := ⟨hpair_in.trans hin, hpair_out.trans hout⟩
        amounts := hlegs.amounts leg hleg }
  nonces := by
    rw [h.nonces_eq]
    exact nonces_nodup hlegs.length_lt hkeccak
  outputs := by
    rw [h.outputs_eq]
    exact hlegs.out_lt
  input_limits := by
    rw [h.input_limits_eq]
    have := hlegs.in_le
    omega

end Authorizes

/-- What the filler is given for an order: sources whose plan fits it, at least one
    and at most `MAX_LEGS` unless the router could not fill the order with fewer
    venues, and exactly the order's output where every candidate charges for what
    it delivers. No check of `fill` that is about the plan reverts but for these. -/
structure FitsFiller (keccak256 : Bytes → B256) (b : Erc7683FillBuilder)
    (order : Solvent7683Order) (candidates chosen : List Candidate) (request : RouteRequest)
    (sources : List SourceSwap) (call : FillCall) : Prop where
  plan : Plan order (b.context_hash keccak256 order) sources
  some_source : 1 ≤ sources.length
  few_sources : sources.length ≤ MAX_LEGS ∨
    ∃ split, split.legs.length = sources.length ∧ AtFloor chosen request split
  output : (∀ c ∈ candidates, ChargesBelow order.outputAmount c) →
    outputs sources = order.outputAmount.val
  checks : ∀ (cfg : FillerConfig) (reads : FillReads) (s : Erc7683AquaFiller) (caller : Address)
    (e : Contracts.FillerError), reads.decode_sources call.sourceData = some sources →
    (∀ nonce ∈ nonces sources, s.policy.isNonceUsed nonce = false) →
    s.fill_checks keccak256 cfg reads caller call.orderData call.sourceData
      call.paymentRecipient = .error e →
    Contracts.Erc7683AquaFiller.Blames order (Contracts.Erc7683AquaFiller.userFillContext keccak256
      cfg (order_id keccak256 order) call.paymentRecipient) sources e

section Fill

variable {ε : Type} {keccak256 : Bytes → B256} {program : MakerStrategy → Bytes}
variable {authorize : Authorization → Except ε Bytes}

/-- What a built fill is: the order's own settler, its bytes, and sources that
    authorize the plan's legs. -/
theorem fill_of_build {b : Erc7683FillBuilder} {intent : SignedIntent} {plan : RoutePlan}
    {snapshot : Snapshot} {prepared : PreparedFill} {order : Solvent7683Order}
    (horder : decode_masked intent.raw = some order)
    (h : b.build keccak256 program authorize intent plan snapshot = .ok prepared) :
    order.settler = b.settler ∧ prepared.call.orderData = intent.raw ∧
      prepared.call.paymentRecipient = b.payment_recipient ∧
      ∃ sources, prepared.call.sourceData = sources_abi_encode sources ∧
        Authorizes keccak256 (b.context_hash keccak256 order) plan.legs sources := by
  unfold Erc7683FillBuilder.build at h
  obtain ⟨-, h⟩ := require_bind.mp h
  rw [horder, expect_some_bind] at h
  obtain ⟨hsettler, h⟩ := require_bind.mp h
  obtain ⟨sources, hsources, h⟩ := Except.bind_eq_ok.mp h
  cases h
  unfold AquaSourcePlanBuilder.build at hsources
  obtain ⟨-, hsources⟩ := require_bind.mp hsources
  exact ⟨hsettler, rfl, rfl, sources, rfl, authorizations_of_sources hsources⟩

end Fill

/-- The request an admitted order is routed as, within what its fee leaves. -/
theorem route_of_price {config : SwapConfig} {keccak256 : Bytes → B256} {raw : RawOrder}
    {order : Solvent7683Order} {routing_input : U256} {deadline : U64} {reads : SwapReads}
    {caps : AvailableSnapshot} {amounts : SwapAmounts} {plan : RoutePlan}
    (h : SwapService.price_and_route config (Erc7683Normalizer.intent_of keccak256 raw order routing_input
      deadline).toIntent reads caps = some (amounts, plan)) :
    ∃ request : RouteRequest, request.exact_in = false ∧ request.token_in = order.inputToken ∧
      request.token_out = order.outputToken ∧ request.amount = order.outputAmount ∧
      route { snapshot := reads.registry, caps, guards := reads.guards } request routing_input
        config.routing reads.per_leg_cost none = some plan := by
  unfold SwapService.price_and_route at h
  simp only [Option.bind_eq_bind, Option.bind_eq_some_iff] at h
  obtain ⟨amounts', hamounts, plan', hplan, h⟩ := h
  cases h
  cases hamounts
  exact ⟨_, rfl, rfl, rfl, rfl, hplan⟩

def sample_raw : RawOrder :=
  { protocol := .Erc7683, chain := 1, payload := encode sample_7683_order, signature := [27]
    observed_at := 10 }

def sample_recover (_ : Bytes) (_ : B256) : Option Address := some 3

/-- An Aqua order behind the gate of credential 8. -/
def sample_program (strategy : MakerStrategy) : Bytes :=
  words [32, address_word strategy.key.maker.address, ⟨2 ^ 254, by norm_num⟩, 96] ++
    encode_bytes 22 (0x0e :: 20 :: (word 8).drop 12)

/-- One constant-product strategy a maker, with a thousand of each token. -/
def sample_events (makers : List Address) : List AquaEvent :=
  makers.flatMap fun m =>
    [.Shipped ⟨m⟩ 9 ⟨Fin.ofNat _ m.val⟩ [], .Pushed ⟨m⟩ 9 ⟨Fin.ofNat _ m.val⟩ 5 1000,
      .Pushed ⟨m⟩ 9 ⟨Fin.ofNat _ m.val⟩ 6 1000]

def sample_swap_reads (makers : List Address) : SwapReads :=
  { now_unix := 10
    registry := Snapshot.replay (fun _ => .Priceable .Xyc []) (sample_events makers)
    guards := ∅
    per_leg_cost := 0
    budget := fun _ => .ok 0
    simulate := .Ok }

def sample_caps (makers : List Address) (cap : U256) : AvailableSnapshot :=
  (makers.flatMap fun m => [(AccountKey.WalletBudget ⟨m⟩ 6, cap),
    (.StrategyVirtual ⟨m⟩ ⟨Fin.ofNat _ m.val⟩ 6, cap)]).foldl (fun c b => c.insert b.1 b.2) ∅

def sample_swap_config : SwapConfig :=
  { routing := { max_candidates := 8, max_legs := 4 }, reservation_ttl_secs := 60 }

def sample_builder : Erc7683FillBuilder :=
  { settler := 7, filler := 11, payment_recipient := 12
    sources := { app := 9, taker_credential := 8 } }

def sample_authorize (_ : Authorization) : Except Unit Bytes := .ok []

/-- The sample order through the normalizer, the router and the builder. -/
def sample_fill (makers : List Address) (cap : U256) :
    Option (SignedIntent × SwapAmounts × RoutePlan × PreparedFill) := do
  let intent ←
    (sample_normalizer.normalize_order sample_keccak sample_recover sample_raw).toOption
  let (amounts, plan) ← SwapService.price_and_route sample_swap_config intent.toIntent
    (sample_swap_reads makers) (sample_caps makers cap)
  let prepared ← (sample_builder.build sample_keccak sample_program sample_authorize intent plan
    (sample_swap_reads makers).registry).toOption
  some (intent, amounts, plan, prepared)

theorem sample_fill_eq_some {makers : List Address} {cap : U256} {intent : SignedIntent}
    {amounts : SwapAmounts} {plan : RoutePlan} {prepared : PreparedFill}
    (h : sample_fill makers cap = some (intent, amounts, plan, prepared)) :
    sample_normalizer.normalize_order sample_keccak sample_recover sample_raw = .ok intent ∧
    SwapService.price_and_route sample_swap_config intent.toIntent (sample_swap_reads makers)
      (sample_caps makers cap) = some (amounts, plan) ∧
    sample_builder.build sample_keccak sample_program sample_authorize intent plan
      (sample_swap_reads makers).registry = .ok prepared := by
  unfold sample_fill at h
  simp only [Option.bind_eq_bind, Option.bind_eq_some_iff, Except.toOption_eq_some] at h
  obtain ⟨intent', hintent, ⟨amounts', plan'⟩, hroute, prepared', hbuild, h⟩ := h
  cases h
  exact ⟨hintent, hroute, hbuild⟩

/-- Nonces that differ hash preimages without a collision. -/
theorem injOn_of_nonces {keccak256 : Bytes → B256} {context_hash : B256} {legs : List RouteLeg}
    (h : (legs.zipIdx.map fun p => user_fill_nonce keccak256 context_hash p.1 p.2).Nodup) :
    Set.InjOn keccak256 (nonce_preimages context_hash legs) := by
  rintro _ ⟨p, hp, rfl⟩ _ ⟨q, hq, rfl⟩ hnonce
  rw [List.inj_on_of_nodup_map h hp hq hnonce]

def five_makers : List Address := [21, 22, 23, 24, 25]

/-- The sources of the sample order over five venues of ten units each. -/
def five_sources : List SourceSwap :=
  ((sample_fill five_makers 10).bind fun r =>
    (sample_builder.sources.build sample_keccak sample_program sample_authorize r.2.2.1
      (sample_builder.context_hash sample_keccak sample_7683_order)
      (sample_swap_reads five_makers).registry).toOption).getD []

def sample_fill_reads : FillReads :=
  { number := 1
    router_hash := fun _ => 0
    recover := fun _ _ => some 2
    timestamp := 20
    credential_balance := 1
    decode_sources := fun data =>
      if data = sources_abi_encode five_sources then some five_sources else none }

def sample_filler_config : FillerConfig :=
  { this := 11, chainid := 1, TAKER_CREDENTIAL := 8, SETTLER := { this := 7, chainid := 1 } }

def sample_filler : Erc7683AquaFiller :=
  { owner := 2, paused := false, entered := false
    policy := { policySigner := 2, allowedToken := fun _ => true, _nonceBitmap := fun _ => 0 } }

/-- Whether a fill stops at the leg cap. -/
def stops_at_cap (call : FillCall) : Bool :=
  match sample_filler.fill_checks sample_keccak sample_filler_config sample_fill_reads 2
    call.orderData call.sourceData call.paymentRecipient with
  | .error e => e = .TooManyLegs 5 MAX_LEGS
  | .ok _ => false

end Solvent
