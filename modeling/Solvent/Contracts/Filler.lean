import Solvent.Contracts.Policy
import Solvent.Contracts.SameChain

/-! # The same-chain filler

    The checks `Erc7683AquaFiller.fill` makes before it touches a token: who
    calls, the order, and the plan of authorized maker legs that is to source the
    order's output. The plan passes one authorization at a time, each spending
    its nonce, while the outputs and the input limits add up.
-/

namespace Solvent.Contracts

open Abi Contract

/-- The storage of `Erc7683AquaFiller`. -/
structure Erc7683AquaFiller where
  owner : Address
  paused : Bool
  /-- The transient lock of `nonReentrant`. -/
  entered : Bool
  policy : Policy

/-- The immutables of the filler. -/
structure FillerConfig extends PolicyConfig where
  SETTLER : SameChainConfig

/-- What the chain answers a fill. -/
structure FillReads extends PolicyReads where
  /-- `block.timestamp` -/
  timestamp : U256
  /-- `TAKER_CREDENTIAL.balanceOf(address(this))` -/
  credential_balance : U256
  /-- `abi.decode(sourceData, (SourceSwap[]))` -/
  decode_sources : Bytes → Option (List SourceSwap)

inductive FillerError where
  | AuthorizationContextMismatch (supplied expected : B256)
  | CredentialNotActive
  | EnforcedPause
  | InputLimitExceeded (supplied available : U256)
  | InvalidExecutionKind (supplied expected : ExecutionKind)
  | InvalidPaymentRecipient (recipient : Address)
  | NoSources
  | OutputAmountMismatch (supplied required : U256)
  | OwnableUnauthorizedAccount (account : Address)
  | ReentrancyGuardReentrantCall
  | TokenPairInvalid (tokenIn tokenOut : Address)
  | TooManyLegs (given max : ℕ)
  | UnexpectedRebate (amount : U256)
  /-- Checked arithmetic overflowed. -/
  | Panic
  /-- Call data that does not decode. -/
  | Undecodable
  | Policy (error : PolicyError)
  | Settler (error : SameChainError)
  deriving DecidableEq

namespace Erc7683AquaFiller

def MAX_LEGS : ℕ := 4

section Plan

variable (keccak256 : Bytes → B256) (cfg : FillerConfig) (reads : FillReads)

def userFillContext (orderId : B256) (paymentRecipient : Address) : B256 :=
  keccak256 (words [address_word cfg.SETTLER.this, orderId, address_word paymentRecipient])

/-- The loop of `_authorizePlan`. -/
def authorize_sources (order : Solvent7683Order) (contextHash : B256) :
    Policy → List SourceSwap → U256 → U256 → Except FillerError (Policy × U256 × U256)
  | p, [], totalOutput, totalInputLimit => .ok (p, totalOutput, totalInputLimit)
  | p, source :: sources, totalOutput, totalInputLimit => do
    let a := source.authorization
    require (a.kind = .UserFill) (.InvalidExecutionKind a.kind .UserFill)
    require (a.contextHash = contextHash) (.AuthorizationContextMismatch a.contextHash contextHash)
    require (a.rebateAmount = 0) (.UnexpectedRebate a.rebateAmount)
    require (a.tokenIn = order.inputToken ∧ a.tokenOut = order.outputToken)
      (.TokenPairInvalid a.tokenIn a.tokenOut)
    let p ← bubble .Policy (p._authorize keccak256 cfg.toPolicyConfig reads.toPolicyReads
      source.order a source.policySignature)
    let totalOutput ← expect (totalOutput.checked_add a.amountOut) .Panic
    let totalInputLimit ← expect (totalInputLimit.checked_add a.amountInLimit) .Panic
    authorize_sources order contextHash p sources totalOutput totalInputLimit

def _authorizePlan (p : Policy) (order : Solvent7683Order) (contextHash : B256)
    (sources : List SourceSwap) : Except FillerError Policy := do
  let (p, totalOutput, totalInputLimit) ←
    authorize_sources keccak256 cfg reads order contextHash p sources 0 0
  require (totalOutput = order.outputAmount)
    (.OutputAmountMismatch totalOutput order.outputAmount)
  let available ← expect (order.inputAmount.checked_sub order.executorFee) .Panic
  require (totalInputLimit ≤ available) (.InputLimitExceeded totalInputLimit available)
  .ok p

/-- `fill` as far as the authorized plan, before the first leg runs. -/
def fill_checks (s : Erc7683AquaFiller) (caller : Address)
    (orderData sourceData : Bytes) (paymentRecipient : Address) :
    Except FillerError (Erc7683AquaFiller × Solvent7683Order × List SourceSwap) := do
  require (caller = s.owner) (.OwnableUnauthorizedAccount caller)
  require (s.paused = false) .EnforcedPause
  require (s.entered = false) .ReentrancyGuardReentrantCall
  require (paymentRecipient ≠ 0 ∧ paymentRecipient ≠ cfg.this)
    (.InvalidPaymentRecipient paymentRecipient)
  require (reads.credential_balance = 1) .CredentialNotActive
  let order ← expect (decode orderData) .Undecodable
  let id ← bubble .Settler
    (SolventSameChainSettler.validate keccak256 cfg.SETTLER reads.timestamp order)
  let sources ← expect (reads.decode_sources sourceData) .Undecodable
  require (sources.length ≠ 0) .NoSources
  require (sources.length ≤ MAX_LEGS) (.TooManyLegs sources.length MAX_LEGS)
  let policy ← _authorizePlan keccak256 cfg reads s.policy order
    (userFillContext keccak256 cfg id paymentRecipient) sources
  .ok ({ s with policy, entered := true }, order, sources)

end Plan

/-! ## Plans that fit -/

/-- What the legs of a plan deliver. -/
def outputs (sources : List SourceSwap) : ℕ :=
  (sources.map fun source => source.authorization.amountOut.val).sum

/-- What the legs of a plan may take. -/
def input_limits (sources : List SourceSwap) : ℕ :=
  (sources.map fun source => source.authorization.amountInLimit.val).sum

/-- The nonces a plan spends. -/
def nonces (sources : List SourceSwap) : List U256 :=
  sources.map fun source => source.authorization.nonce

/-- A leg that is authorized for this order and this context. -/
structure Leg (order : Solvent7683Order) (contextHash : B256) (a : Authorization) : Prop where
  kind : a.kind = .UserFill
  context : a.contextHash = contextHash
  rebate : a.rebateAmount = 0
  pair : a.tokenIn = order.inputToken ∧ a.tokenOut = order.outputToken
  amounts : a.amountOut ≠ 0 ∧ a.amountInLimit ≠ 0

/-- A plan of legs that each fit the order, with nonces of their own, whose totals
    are words. -/
structure Plan (order : Solvent7683Order) (contextHash : B256) (sources : List SourceSwap) :
    Prop where
  legs : ∀ source ∈ sources, Leg order contextHash source.authorization
  nonces : (nonces sources).Nodup
  outputs : outputs sources < 2 ^ 256
  input_limits : input_limits sources ≤ order.inputAmount.val - order.executorFee.val

/-- An error of the authorizations that a fitting plan leaves possible: one about
    the block, the addresses, the tokens allowed, the maker's order, its strategy
    or its signature. The context is zero only where its hash is. -/
def Outside (contextHash : B256) : PolicyError → Prop
  | .ZeroAmount | .TokenPairInvalid .. | .NonceAlreadyUsed .. => False
  | .ZeroContext => contextHash = 0
  | _ => True

section Run

variable {keccak256 : Bytes → B256} {cfg : FillerConfig} {reads : FillReads}
variable {order : Solvent7683Order} {contextHash : B256}

/-- One authorization of a fitting leg with a fresh nonce fails from outside. -/
theorem outside_of_authorize {p : Policy} {source : SourceSwap} {e : PolicyError}
    (hpair : order.inputToken ≠ order.outputToken)
    (hleg : Leg order contextHash source.authorization)
    (hfresh : p.isNonceUsed source.authorization.nonce = false)
    (h : p._authorize keccak256 cfg.toPolicyConfig reads.toPolicyReads source.order
      source.authorization source.policySignature = .error e) :
    Outside contextHash e := by
  have hblames := Policy.authorize_blames h
  match e with
  | .ZeroAmount => exact hblames.elim hleg.amounts.1 hleg.amounts.2
  | .TokenPairInvalid _ _ =>
    have hsame : source.authorization.tokenIn = source.authorization.tokenOut := hblames
    rw [hleg.pair.1, hleg.pair.2] at hsame
    exact hpair hsame
  | .NonceAlreadyUsed nonce =>
    obtain ⟨hnonce, hused⟩ : nonce = source.authorization.nonce ∧ p.isNonceUsed nonce = true :=
      hblames
    rw [hnonce, hfresh] at hused
    cases hused
  | .ZeroContext =>
    show contextHash = 0
    rw [← hleg.context]
    exact hblames
  | .AuthorizationExpired _ _ | .AuthorizationMakerMismatch _ _ | .CredentialGateMissing
  | .InvalidMakerTraits | .InvalidPolicySigner _ _ | .InvalidSignature
  | .StrategyHashMismatch _ _ | .TokenNotAllowed _ | .ZeroAddress => trivial

/-- **Run lemma.** Over fitting legs with fresh nonces of their own, the loop adds
    the totals up exactly or fails from outside. -/
theorem authorize_sources_spec (hpair : order.inputToken ≠ order.outputToken)
    {sources : List SourceSwap} (hlegs : ∀ source ∈ sources, Leg order contextHash source.authorization)
    (hnodup : (nonces sources).Nodup) {p : Policy}
    (hfresh : ∀ nonce ∈ nonces sources, p.isNonceUsed nonce = false) {o i : U256}
    (ho : o.val + outputs sources < 2 ^ 256) (hi : i.val + input_limits sources < 2 ^ 256) :
    (∃ p' o' i', authorize_sources keccak256 cfg reads order contextHash p sources o i =
        .ok (p', o', i') ∧ o'.val = o.val + outputs sources ∧
        i'.val = i.val + input_limits sources) ∨
    (∃ e, authorize_sources keccak256 cfg reads order contextHash p sources o i =
        .error (.Policy e) ∧ Outside contextHash e) := by
  induction sources generalizing p o i with
  | nil => exact .inl ⟨p, o, i, rfl, rfl, rfl⟩
  | cons source sources ih =>
    have hleg := hlegs source List.mem_cons_self
    obtain ⟨hnew, hrest⟩ := List.nodup_cons.mp hnodup
    have houtputs : outputs (source :: sources) =
        source.authorization.amountOut.val + outputs sources := by
      simp [outputs]
    have hlimits : input_limits (source :: sources) =
        source.authorization.amountInLimit.val + input_limits sources := by
      simp [input_limits]
    rw [houtputs] at ho ⊢
    rw [hlimits] at hi ⊢
    rw [authorize_sources]
    simp only [pass_bind hleg.kind, pass_bind hleg.context, pass_bind hleg.rebate,
      pass_bind hleg.pair]
    have hspent : p.isNonceUsed source.authorization.nonce = false :=
      hfresh _ List.mem_cons_self
    match hauthorize : p._authorize keccak256 cfg.toPolicyConfig reads.toPolicyReads source.order
        source.authorization source.policySignature with
    | .error e =>
      exact .inr ⟨e, rfl, outside_of_authorize hpair hleg hspent hauthorize⟩
    | .ok p' =>
      obtain ⟨-, rfl⟩ := Policy.authorize_eq_ok.mp hauthorize
      have hadd : o.checked_add source.authorization.amountOut =
          some ⟨o.val + source.authorization.amountOut.val, by omega⟩ :=
        U256.checked_add_eq_some.mpr rfl
      have hadd' : i.checked_add source.authorization.amountInLimit =
          some ⟨i.val + source.authorization.amountInLimit.val, by omega⟩ :=
        U256.checked_add_eq_some.mpr rfl
      -- The other nonces stay fresh past the one that is spent.
      have hfresh' : ∀ nonce ∈ nonces sources,
          Policy.isNonceUsed { p with
            _nonceBitmap := p._nonceBitmap.mark source.authorization.nonce } nonce = false := by
        intro nonce hnonce
        have hne : nonce ≠ source.authorization.nonce := by
          rintro rfl
          exact hnew hnonce
        exact Bitmap.not_is_set_mark hne (hfresh nonce (List.mem_cons_of_mem _ hnonce))
      have hloop := ih (fun s hs => hlegs s (List.mem_cons_of_mem _ hs)) hrest hfresh'
        (o := ⟨o.val + source.authorization.amountOut.val, by omega⟩)
        (i := ⟨i.val + source.authorization.amountInLimit.val, by omega⟩)
        (by show o.val + _ + _ < _; omega) (by show i.val + _ + _ < _; omega)
      rw [hadd, hadd']
      obtain ⟨p', o', i', hrun, ho', hi'⟩ | ⟨e, hrun, he⟩ := hloop
      · refine .inl ⟨p', o', i', hrun, ?_, ?_⟩
        · rw [ho']
          show o.val + _ + _ = _
          omega
        · rw [hi']
          show i.val + _ + _ = _
          omega
      · exact .inr ⟨e, hrun, he⟩

/-- What an error of `fill`'s checks says of a plan that fits its order: it has no
    legs, too many, or other outputs than the order's; no other error is about the
    plan. -/
def Blames (order : Solvent7683Order) (contextHash : B256) (sources : List SourceSwap) :
    FillerError → Prop
  | .NoSources => sources = []
  | .TooManyLegs given max => given = sources.length ∧ max = MAX_LEGS ∧ MAX_LEGS < given
  | .OutputAmountMismatch supplied required =>
    supplied.val = outputs sources ∧ required = order.outputAmount ∧ supplied ≠ required
  | .Policy e => Outside contextHash e
  | .InvalidExecutionKind .. | .AuthorizationContextMismatch .. | .UnexpectedRebate ..
  | .TokenPairInvalid .. | .InputLimitExceeded .. | .Panic => False
  | .CredentialNotActive | .EnforcedPause | .InvalidPaymentRecipient _
  | .OwnableUnauthorizedAccount _ | .ReentrancyGuardReentrantCall | .Undecodable
  | .Settler _ => True

theorem authorizePlan_blames (hpair : order.inputToken ≠ order.outputToken)
    (hfee : order.executorFee < order.inputAmount) {sources : List SourceSwap}
    (hplan : Plan order contextHash sources) {p : Policy}
    (hfresh : ∀ nonce ∈ nonces sources, p.isNonceUsed nonce = false) {e : FillerError}
    (h : _authorizePlan keccak256 cfg reads p order contextHash sources = .error e) :
    Blames order contextHash sources e := by
  have hlimits := hplan.input_limits
  have hinput := order.inputAmount.isLt
  have hspec := @authorize_sources_spec keccak256 cfg reads order contextHash hpair sources
    hplan.legs hplan.nonces p hfresh 0 0
    (by rw [Fin.val_zero, Nat.zero_add]; exact hplan.outputs)
    (by rw [Fin.val_zero]; omega)
  unfold _authorizePlan at h
  obtain ⟨p', o, i, hrun, ho, hi⟩ | ⟨e', hrun, he'⟩ := hspec
  · rw [Fin.val_zero, Nat.zero_add] at ho hi
    rw [hrun] at h
    obtain ⟨hmismatch, rfl⟩ | ⟨-, h⟩ := require_bind_error.mp h
    · exact ⟨ho, rfl, hmismatch⟩
    obtain ⟨hunder, rfl⟩ | ⟨available, havailable, h⟩ := expect_bind_error.mp h
    · exact absurd (U256.checked_sub_eq_none.mp hunder) (not_lt.mpr hfee.le)
    obtain ⟨hexceeds, rfl⟩ | ⟨-, h⟩ := require_bind_error.mp h
    · -- The limits add up to no more than the input less the fee.
      have hsum := U256.checked_sub_eq_some.mp havailable
      rw [Fin.le_def] at hexceeds
      omega
    · cases h
  · rw [hrun] at h
    cases h
    exact he'

/-- **The checks of `fill`** on a plan that fits its order: whatever reverts, it is
    not for the kind, the pair, the context, the amounts, the nonces or the input
    limits of the plan. -/
theorem fill_checks_blames {s : Erc7683AquaFiller} {caller : Address}
    {orderData sourceData : Bytes} {paymentRecipient : Address} {sources : List SourceSwap}
    (hdecode : ∀ order', decode orderData = some order' → order' = order)
    (hsources : reads.decode_sources sourceData = some sources)
    (hplan : order.settler = cfg.SETTLER.this → Plan order (userFillContext keccak256 cfg
      (SolventSameChainSettler.orderId keccak256 order) paymentRecipient) sources)
    (hfresh : ∀ nonce ∈ nonces sources, s.policy.isNonceUsed nonce = false) {e : FillerError}
    (h : fill_checks keccak256 cfg reads s caller orderData sourceData paymentRecipient =
      .error e) :
    Blames order (userFillContext keccak256 cfg
      (SolventSameChainSettler.orderId keccak256 order) paymentRecipient) sources e := by
  unfold fill_checks at h
  obtain ⟨-, rfl⟩ | ⟨-, h⟩ := require_bind_error.mp h
  · trivial
  obtain ⟨-, rfl⟩ | ⟨-, h⟩ := require_bind_error.mp h
  · trivial
  obtain ⟨-, rfl⟩ | ⟨-, h⟩ := require_bind_error.mp h
  · trivial
  obtain ⟨-, rfl⟩ | ⟨-, h⟩ := require_bind_error.mp h
  · trivial
  obtain ⟨-, rfl⟩ | ⟨-, h⟩ := require_bind_error.mp h
  · trivial
  obtain ⟨-, rfl⟩ | ⟨order', horder, h⟩ := expect_bind_error.mp h
  · trivial
  obtain rfl := hdecode order' horder
  obtain ⟨_, -, rfl⟩ | ⟨id, hid, h⟩ := bubble_bind_error.mp h
  · trivial
  obtain ⟨hvalid, rfl⟩ := SolventSameChainSettler.validate_eq_ok.mp hid
  rw [hsources, expect_some_bind] at h
  obtain ⟨hnone, rfl⟩ | ⟨-, h⟩ := require_bind_error.mp h
  · exact List.eq_nil_of_length_eq_zero (not_not.mp hnone)
  obtain ⟨hmany, rfl⟩ | ⟨-, h⟩ := require_bind_error.mp h
  · exact ⟨rfl, rfl, not_le.mp hmany⟩
  match hauthorize : _authorizePlan keccak256 cfg reads s.policy order' (userFillContext keccak256
      cfg (SolventSameChainSettler.orderId keccak256 order') paymentRecipient) sources with
  | .error e' =>
    rw [hauthorize] at h
    cases h
    exact authorizePlan_blames hvalid.pair hvalid.fee.2 (hplan hvalid.settler) hfresh hauthorize
  | .ok policy =>
    rw [hauthorize] at h
    cases h

/-! ## Plans that pass -/

/-- What the loop has checked of each leg, and the totals it has added up. -/
theorem authorize_sources_ok {sources : List SourceSwap} {p p' : Policy} {o i o' i' : U256}
    (h : authorize_sources keccak256 cfg reads order contextHash p sources o i =
      .ok (p', o', i')) :
    (∀ source ∈ sources, source.authorization.tokenIn = order.inputToken ∧
      source.authorization.tokenOut = order.outputToken) ∧
      o'.val = o.val + outputs sources ∧ i'.val = i.val + input_limits sources := by
  induction sources generalizing p o i with
  | nil =>
    cases h
    exact ⟨nofun, rfl, rfl⟩
  | cons source sources ih =>
    rw [authorize_sources] at h
    obtain ⟨-, h⟩ := require_bind.mp h
    obtain ⟨-, h⟩ := require_bind.mp h
    obtain ⟨-, h⟩ := require_bind.mp h
    obtain ⟨hpair, h⟩ := require_bind.mp h
    obtain ⟨spent, -, h⟩ := bubble_bind.mp h
    obtain ⟨totalOutput, houtput, h⟩ := expect_bind.mp h
    obtain ⟨totalInputLimit, hlimit, h⟩ := expect_bind.mp h
    obtain ⟨hpairs, ho, hi⟩ := ih h
    rw [U256.checked_add_eq_some] at houtput hlimit
    refine ⟨List.forall_mem_cons.mpr ⟨hpair, hpairs⟩, ?_, ?_⟩
    · rw [ho, ← houtput]
      simp [outputs]
      omega
    · rw [hi, ← hlimit]
      simp [input_limits]
      omega

/-- A plan whose legs trade the order's pair, deliver its output and leave its fee. -/
structure Authorized (order : Solvent7683Order) (sources : List SourceSwap) : Prop where
  pairs : ∀ source ∈ sources, source.authorization.tokenIn = order.inputToken ∧
    source.authorization.tokenOut = order.outputToken
  outputs : outputs sources = order.outputAmount.val
  limits : input_limits sources + order.executorFee.val ≤ order.inputAmount.val

theorem authorizePlan_ok {sources : List SourceSwap} {p p' : Policy}
    (h : _authorizePlan keccak256 cfg reads p order contextHash sources = .ok p') :
    Authorized order sources := by
  unfold _authorizePlan at h
  obtain ⟨⟨spent, totalOutput, totalInputLimit⟩, hloop, h⟩ := bind_eq_ok.mp h
  obtain ⟨houtput, h⟩ := require_bind.mp h
  obtain ⟨available, havailable, h⟩ := expect_bind.mp h
  obtain ⟨hlimit, -⟩ := require_bind.mp h
  obtain ⟨hpairs, ho, hi⟩ := authorize_sources_ok hloop
  rw [U256.checked_sub_eq_some] at havailable
  rw [Fin.val_zero, Nat.zero_add] at ho hi
  refine ⟨hpairs, ?_, ?_⟩
  · rw [← ho, houtput]
  · rw [Fin.le_def] at hlimit
    omega

/-- **Spec of the checks of `fill`.** -/
theorem fill_checks_ok {s s' : Erc7683AquaFiller} {caller : Address}
    {orderData sourceData : Bytes} {paymentRecipient : Address} {sources : List SourceSwap}
    (h : fill_checks keccak256 cfg reads s caller orderData sourceData paymentRecipient =
      .ok (s', order, sources)) :
    decode orderData = some order ∧ reads.decode_sources sourceData = some sources ∧
      SolventSameChainSettler.Valid cfg.SETTLER reads.timestamp order ∧
      paymentRecipient ≠ cfg.this ∧ sources ≠ [] ∧ Authorized order sources := by
  unfold fill_checks at h
  obtain ⟨-, h⟩ := require_bind.mp h
  obtain ⟨-, h⟩ := require_bind.mp h
  obtain ⟨-, h⟩ := require_bind.mp h
  obtain ⟨hrecipient, h⟩ := require_bind.mp h
  obtain ⟨-, h⟩ := require_bind.mp h
  obtain ⟨order', horder, h⟩ := expect_bind.mp h
  obtain ⟨id, hid, h⟩ := bubble_bind.mp h
  obtain ⟨sources', hsources, h⟩ := expect_bind.mp h
  obtain ⟨hsome, h⟩ := require_bind.mp h
  obtain ⟨-, h⟩ := require_bind.mp h
  obtain ⟨policy, hplan, h⟩ := bind_eq_ok.mp h
  cases h
  refine ⟨horder, hsources, (SolventSameChainSettler.validate_eq_ok.mp hid).1, hrecipient.2, ?_,
    authorizePlan_ok hplan⟩
  rintro rfl
  exact hsome rfl

end Run

end Erc7683AquaFiller

end Solvent.Contracts
