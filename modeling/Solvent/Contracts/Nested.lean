import Solvent.Contracts.Fill

/-! # Nested legs

    The run of a fill is a nest: a leg opens, the next one runs inside its
    callback, the settlement is innermost, and each leg closes by its pull. One
    induction over the levels that are left carries the whole nest.
-/

namespace Solvent.Contracts

open Abi Contract

/-! ## The events of a fill -/

/-- The transfers among the events. -/
def transfers (events : List FillEvent) : List (Bank.Transfer Address Address) :=
  events.filterMap fun
    | .Transfer t => some t
    | _ => none

@[simp] theorem transfers_append (events events' : List FillEvent) :
    transfers (events ++ events') = transfers events ++ transfers events' :=
  List.filterMap_append

section Events

variable (keccak256 : Bytes → B256) (cfg : FillConfig) (order : Solvent7683Order)

/-- The router sends a leg's output. -/
def leg_opens (leg : SourceSwap × Answer) : List FillEvent :=
  let a := leg.1.authorization
  [.SwapEntered leg.1.order a.tokenIn a.tokenOut a.amountOut a.amountInLimit,
    .Transfer { token := a.tokenOut, src := leg.2.payer, dst := cfg.this, amount := a.amountOut }]

/-- The router pulls a leg's input. -/
def leg_closes (leg : SourceSwap × Answer) : List FillEvent :=
  [.Transfer { token := leg.1.authorization.tokenIn, src := cfg.this, dst := leg.2.payee
               amount := leg.2.amountIn },
    .SwapReturned leg.1.order]

/-- Legs nested in their order around what is innermost. -/
def nested : List (SourceSwap × Answer) → List FillEvent → List FillEvent
  | [], inner => inner
  | leg :: legs, inner => leg_opens cfg leg ++ (nested legs inner ++ leg_closes cfg leg)

/-- The settler takes the user's input and delivers the output. -/
def settlement : List FillEvent :=
  [.Transfer { token := order.inputToken, src := order.user, dst := cfg.this
               amount := order.inputAmount },
    .Transfer { token := order.outputToken, src := cfg.this, dst := order.recipient
                amount := order.outputAmount },
    .Settled (SolventSameChainSettler.orderId keccak256 order) cfg.this order.user
      order.recipient order.inputToken order.outputToken order.inputAmount order.outputAmount]

/-- The filler passes on what it earned. -/
def payment (paymentRecipient : Address) (earned : U256) : List FillEvent :=
  [.Transfer { token := order.inputToken, src := cfg.this, dst := paymentRecipient
               amount := earned },
    .Filled (SolventSameChainSettler.orderId keccak256 order) order.user order.recipient
      paymentRecipient order.inputToken order.outputToken order.inputAmount order.outputAmount
      earned]

end Events

/-! ## What a part of the run does -/

/-- `events` is all that happened between two states to the balances and the log,
    and of the filler's allowances only the two a fill uses may differ. -/
structure Within (cfg : FillConfig) (order : Solvent7683Order) (w : FillState)
    (events : List FillEvent) (w' : FillState) : Prop where
  log : w'.log = w.log ++ events
  moved : Bank.Moved w.tokens (transfers events) w'.tokens
  filler : w'.filler = w.filler
  settling : w'.settling = w.settling
  allowances : ∀ token spender, ¬(token = order.inputToken ∧ spender = cfg.ROUTER) →
    ¬(token = order.outputToken ∧ spender = cfg.SETTLER.this) →
      w'.tokens.allowance token cfg.this spender = w.tokens.allowance token cfg.this spender

/-- **Composition rule.** -/
theorem Within.append {cfg : FillConfig} {order : Solvent7683Order} {w w' w'' : FillState}
    {events events' : List FillEvent} (h : Within cfg order w events w')
    (h' : Within cfg order w' events' w'') : Within cfg order w (events ++ events') w'' where
  log := by rw [h'.log, h.log, List.append_assoc]
  moved := by
    rw [transfers_append]
    exact h.moved.append h'.moved
  filler := h'.filler.trans h.filler
  settling := h'.settling.trans h.settling
  allowances token spender hrouter hsettler :=
    (h'.allowances token spender hrouter hsettler).trans
      (h.allowances token spender hrouter hsettler)

/-! ## Specs of the calls -/

namespace FillState

variable {rules : Bank.Rules Address Address} {w w' : FillState}

theorem safeTransfer_ok {t : Bank.Transfer Address Address}
    (h : w.safeTransfer rules t = .ok w') :
    ∃ tokens, w' = { w with tokens }.emit (.Transfer t) ∧ Bank.Moved w.tokens [t] tokens ∧
      tokens.allowance = w.tokens.allowance := by
  obtain ⟨tokens, htokens, h⟩ := bind_eq_ok.mp h
  obtain ⟨hmoved, hallowance⟩ := Bank.transfer_ok htokens
  exact ⟨tokens, (Except.ok.inj h).symm, hmoved, hallowance⟩

theorem safeTransferFrom_ok {spender : Address} {t : Bank.Transfer Address Address}
    (h : w.safeTransferFrom rules spender t = .ok w') :
    ∃ tokens, w' = { w with tokens }.emit (.Transfer t) ∧ Bank.Moved w.tokens [t] tokens ∧
      ∀ token owner spender', ¬(token = t.token ∧ owner = t.src ∧ spender' = spender) →
        tokens.allowance token owner spender' = w.tokens.allowance token owner spender' := by
  obtain ⟨tokens, htokens, h⟩ := bind_eq_ok.mp h
  obtain ⟨hmoved, hallowance⟩ := Bank.transfer_from_ok htokens
  exact ⟨tokens, (Except.ok.inj h).symm, hmoved, hallowance⟩

theorem forceApprove_ok {token owner spender : Address} {value : U256}
    (h : w.forceApprove rules token owner spender value = .ok w') :
    ∃ tokens, w' = { w with tokens } ∧ tokens.balanceOf = w.tokens.balanceOf ∧
      tokens.allowance token owner spender = value ∧
      ∀ token' owner' spender', ¬(token' = token ∧ owner' = owner ∧ spender' = spender) →
        tokens.allowance token' owner' spender' = w.tokens.allowance token' owner' spender' := by
  obtain ⟨tokens, htokens, h⟩ := bind_eq_ok.mp h
  obtain ⟨hbalances, hvalue, hothers⟩ := Bank.force_approve_ok htokens
  exact ⟨tokens, (Except.ok.inj h).symm, hbalances, hvalue, hothers⟩

end FillState

section Specs

variable {keccak256 : Bytes → B256} {ecrecover : B256 → Bool → Bytes → Option Address}
variable {cfg : FillConfig} {reads : FillReads} {o : AroundFill keccak256 ecrecover}
variable {w w' : FillState} {order : Solvent7683Order}

/-- The settler's exchange, and the nonce it spends. -/
structure Exchanged (cfg : FillConfig) (order : Solvent7683Order) (w w' : FillState) : Prop where
  user_ne : order.user ≠ cfg.this
  recipient_ne : order.recipient ≠ cfg.this
  fresh : (w.nonceBitmap order.user).is_set order.nonce = false
  spent : w'.nonceBitmap =
    Mapping.set w.nonceBitmap order.user ((w.nonceBitmap order.user).mark order.nonce)

theorem permitWitnessTransferFrom_ok {timestamp : U256} {t : WitnessTransfer} {dst owner : Address}
    {requestedAmount : U256} {signature : Bytes}
    (h : permitWitnessTransferFrom o w timestamp t dst requestedAmount owner signature = .ok w') :
    (w.nonceBitmap owner).is_set t.nonce = false ∧
      ∃ tokens, w' = { w with
          nonceBitmap := Mapping.set w.nonceBitmap owner ((w.nonceBitmap owner).mark t.nonce)
          tokens }.emit
            (.Transfer { token := t.token, src := owner, dst, amount := requestedAmount }) ∧
        Bank.Moved w.tokens
          [{ token := t.token, src := owner, dst, amount := requestedAmount }] tokens ∧
        ∀ token owner' spender, owner' ≠ owner →
          tokens.allowance token owner' spender = w.tokens.allowance token owner' spender := by
  unfold permitWitnessTransferFrom at h
  obtain ⟨-, h⟩ := require_bind.mp h
  obtain ⟨-, h⟩ := require_bind.mp h
  obtain ⟨hfresh, h⟩ := require_bind.mp h
  obtain ⟨-, h⟩ := require_bind.mp h
  obtain ⟨tokens, rfl, hmoved, hallowance⟩ := FillState.safeTransferFrom_ok (bubble_eq_ok.mp h)
  exact ⟨hfresh, tokens, rfl, hmoved, fun token owner' spender hne =>
    hallowance token owner' spender fun heq => hne heq.2.1⟩

/-- **Spec of `settle`**, called by the filler. -/
theorem settle_ok {permitSignature : Bytes}
    (h : SolventSameChainSettler.settle cfg reads o w cfg.this order permitSignature = .ok w') :
    Within cfg order w (settlement keccak256 cfg order) w' ∧ Exchanged cfg order w w' ∧
      w'._routerInFlight = w._routerInFlight := by
  unfold SolventSameChainSettler.settle at h
  obtain ⟨hunlocked, h⟩ := require_bind.mp h
  obtain ⟨id, hid, h⟩ := bubble_bind.mp h
  obtain ⟨hvalid, -, hrecipient, rfl⟩ := SolventSameChainSettler.settle_checks_eq_ok.mp hid
  obtain ⟨w₁, htaken, h⟩ := bubble_bind.mp h
  obtain ⟨hfresh, tokens₁, rfl, hmoved₁, hallowance₁⟩ := permitWitnessTransferFrom_ok htaken
  obtain ⟨filled, hfilled, h⟩ := expect_bind.mp h
  obtain ⟨hbalance, h⟩ := check_bind.mp h
  obtain ⟨-, h⟩ := require_bind.mp h
  obtain ⟨w₂, hgiven, h⟩ := bubble_bind.mp h
  obtain ⟨tokens₂, rfl, hmoved₂, hallowance₂⟩ := FillState.safeTransferFrom_ok hgiven
  obtain ⟨left, -, h⟩ := expect_bind.mp h
  obtain ⟨-, h⟩ := check_bind.mp h
  obtain ⟨received, -, h⟩ := expect_bind.mp h
  obtain ⟨-, h⟩ := check_bind.mp h
  obtain rfl := Except.ok.inj h
  -- A user that is the filler would pay itself, and the balance would not rise.
  have huser : order.user ≠ cfg.this := by
    intro hself
    have hrise : tokens₁.balanceOf order.inputToken cfg.this = filled := require_eq_ok.mp hbalance
    have hkept := hmoved₁ order.inputToken cfg.this
    rw [U256.checked_add_eq_some] at hfilled
    rw [hrise, ← hfilled, Bank.sent_cons, Bank.received_cons] at hkept
    have htoken : (SolventSameChainSettler.settle_transfer keccak256 cfg.SETTLER order).token =
      order.inputToken := rfl
    rw [if_pos ⟨htoken, hself⟩, if_pos ⟨htoken, rfl⟩] at hkept
    have hzero : order.inputAmount.val ≠ 0 := fun h => hvalid.amounts.1 (Fin.ext h)
    simp only [Bank.sent_nil, Bank.received_nil] at hkept
    omega
  refine ⟨⟨?_, hmoved₁.append hmoved₂, rfl, hunlocked.symm, ?_⟩,
    ⟨huser, hrecipient, hfresh, rfl⟩, rfl⟩
  · simp [FillState.emit, settlement, SolventSameChainSettler.settle_transfer]
  · intro token spender _ hsettler
    have hgiven' := hallowance₂ token cfg.this spender fun heq => hsettler ⟨heq.1, heq.2.2⟩
    exact hgiven'.trans (hallowance₁ token cfg.this spender huser.symm)

/-! ## One leg -/

/-- What the router keeps to on a leg. -/
structure LegFits (cfg : FillConfig) (leg : SourceSwap × Answer) : Prop where
  payer_ne : leg.2.payer ≠ cfg.this
  payee_ne : leg.2.payee ≠ cfg.this
  amountIn_le : leg.2.amountIn ≤ leg.1.authorization.amountInLimit

/-- **Step lemma.** A leg opens, calls back and closes. -/
theorem swap_ok {callback : FillState → Address → Bytes → Except LegError FillState}
    {source : SourceSwap} {continuation : Bytes}
    (htoken : source.authorization.tokenIn = order.inputToken)
    (hpair : order.inputToken ≠ order.outputToken)
    (h : swap cfg o callback w {
      order := source.order
      tokenIn := source.authorization.tokenIn
      tokenOut := source.authorization.tokenOut
      amount := source.authorization.amountOut
      takerTraits := Erc7683AquaFiller._takerTraits cfg source.authorization.amountInLimit
        continuation } = .ok w') :
    ∃ a w₁ w₂, LegFits cfg (source, a) ∧
      (Within cfg order w (leg_opens cfg (source, a)) w₁ ∧ w₁.nonceBitmap = w.nonceBitmap ∧
        w₁._routerInFlight = w._routerInFlight) ∧
      callback w₁ cfg.ROUTER continuation = .ok w₂ ∧
      (Within cfg order w₂ (leg_closes cfg (source, a)) w' ∧ w'.nonceBitmap = w₂.nonceBitmap ∧
        w'.tokens.allowance order.outputToken cfg.this cfg.SETTLER.this =
          w₂.tokens.allowance order.outputToken cfg.this cfg.SETTLER.this) := by
  dsimp only [swap, Erc7683AquaFiller._takerTraits] at h
  rw [if_pos rfl] at h
  obtain ⟨-, h⟩ := require_bind.mp h
  obtain ⟨a, ha, h⟩ := expect_bind.mp h
  obtain ⟨w₁, hsent, h⟩ := bubble_bind.mp h
  obtain ⟨w₂, hcallback, h⟩ := bind_eq_ok.mp h
  obtain ⟨w₃, hpulled, h⟩ := bubble_bind.mp h
  obtain rfl := Except.ok.inj h
  refine ⟨a, w₁, w₂, ⟨o.router.payer_ne ha, o.router.payee_ne ha, o.router.amountIn_le ha⟩, ?_,
    hcallback, ?_⟩
  · obtain ⟨tokens, rfl, hmoved, hallowance⟩ := FillState.safeTransfer_ok hsent
    refine ⟨⟨?_, hmoved, rfl, rfl, ?_⟩, rfl, rfl⟩
    · simp [FillState.emit, leg_opens]
    · intro token spender _ _
      show tokens.allowance token cfg.this spender = _
      rw [hallowance]
      rfl
  · -- The pull uses the router's allowance for the input.
    obtain ⟨tokens, rfl, hmoved, hallowance⟩ := FillState.safeTransferFrom_ok hpulled
    refine ⟨⟨?_, hmoved, rfl, rfl, ?_⟩, rfl, ?_⟩
    · simp [FillState.emit, leg_closes]
    · intro token spender hrouter _
      exact hallowance token cfg.this spender fun heq => hrouter ⟨heq.1.trans htoken, heq.2.2⟩
    · exact hallowance _ _ _ fun heq => hpair (htoken.symm.trans heq.1.symm)

/-! ## The nest -/

/-- What the legs that are left do from a state on. -/
structure Sourced (keccak256 : Bytes → B256) (cfg : FillConfig) (order : Solvent7683Order)
    (sources : List SourceSwap) (w : FillState) (legs : List (SourceSwap × Answer))
    (w' : FillState) : Prop where
  plan : legs.map Prod.fst = sources
  fits : ∀ leg ∈ legs, LegFits cfg leg
  within : Within cfg order w (nested cfg legs (settlement keccak256 cfg order)) w'
  exchanged : Exchanged cfg order w w'
  settler : w'.tokens.allowance order.outputToken cfg.this cfg.SETTLER.this = 0

/-- The innermost callback settles, under an allowance it takes back. -/
theorem settlement_sourced {permitSignature : Bytes} {w₁ w₂ : FillState}
    (hgrant : w.forceApprove o.rules order.outputToken cfg.this cfg.SETTLER.this
      order.outputAmount = .ok w₁)
    (hsettle : SolventSameChainSettler.settle cfg reads o w₁ cfg.this order permitSignature =
      .ok w₂)
    (hrevoke : w₂.forceApprove o.rules order.outputToken cfg.this cfg.SETTLER.this 0 = .ok w') :
    Sourced keccak256 cfg order [] w [] w' := by
  obtain ⟨tokens₁, rfl, hbalances₁, -, hothers₁⟩ := FillState.forceApprove_ok hgrant
  obtain ⟨hwithin, hexchanged, -⟩ := settle_ok hsettle
  obtain ⟨tokens₂, rfl, hbalances₂, hzero, hothers₂⟩ := FillState.forceApprove_ok hrevoke
  have hfirst : Within cfg order w [] { w with tokens := tokens₁ } :=
    ⟨(List.append_nil _).symm, Bank.Moved.of_balances hbalances₁, rfl, rfl,
      fun token spender _ hsettler => hothers₁ token cfg.this spender fun heq =>
        hsettler ⟨heq.1, heq.2.2⟩⟩
  have hlast : Within cfg order w₂ [] { w₂ with tokens := tokens₂ } :=
    ⟨(List.append_nil _).symm, Bank.Moved.of_balances hbalances₂, rfl, rfl,
      fun token spender _ hsettler => hothers₂ token cfg.this spender fun heq =>
        hsettler ⟨heq.1, heq.2.2⟩⟩
  refine ⟨rfl, nofun, ?_, ⟨hexchanged.user_ne, hexchanged.recipient_ne, hexchanged.fresh,
    hexchanged.spent⟩, hzero⟩
  have hall := (hfirst.append hwithin).append hlast
  rwa [List.nil_append, List.append_nil] at hall

/-- One more leg around those that are sourced. -/
theorem Sourced.cons {sources : List SourceSwap} {source : SourceSwap} {a : Answer}
    {legs : List (SourceSwap × Answer)} {w₁ w₂ : FillState} (hfits : LegFits cfg (source, a))
    (hopens : Within cfg order w (leg_opens cfg (source, a)) w₁)
    (hnonces : w₁.nonceBitmap = w.nonceBitmap)
    (hinner : Sourced keccak256 cfg order sources w₁ legs w₂)
    (hcloses : Within cfg order w₂ (leg_closes cfg (source, a)) w')
    (hnonces' : w'.nonceBitmap = w₂.nonceBitmap)
    (hsettler : w'.tokens.allowance order.outputToken cfg.this cfg.SETTLER.this =
      w₂.tokens.allowance order.outputToken cfg.this cfg.SETTLER.this) :
    Sourced keccak256 cfg order (source :: sources) w ((source, a) :: legs) w' where
  plan := by rw [List.map_cons, hinner.plan]
  fits := List.forall_mem_cons.mpr ⟨hfits, hinner.fits⟩
  within := hopens.append (hinner.within.append hcloses)
  exchanged := by
    obtain ⟨huser, hrecipient, hfresh, hspent⟩ := hinner.exchanged
    rw [hnonces] at hfresh hspent
    exact ⟨huser, hrecipient, hfresh, hnonces'.trans hspent⟩
  settler := hsettler.trans hinner.settler

/-- **Run lemma.** From any index on, the legs nest in their order around one
    settlement. The induction is on the levels of nesting that are left. -/
theorem sourceLeg_ok {orderData permitSignature : Bytes} {sources : List SourceSwap}
    (horder : decode orderData = some order) (hpair : order.inputToken ≠ order.outputToken)
    (hlegs : ∀ source ∈ sources, source.authorization.tokenIn = order.inputToken) {fuel : ℕ}
    {w w' : FillState} {index : U256} (hrouter : w._routerInFlight = cfg.ROUTER)
    (h : Erc7683AquaFiller._sourceLeg cfg reads o fuel w index orderData permitSignature sources =
      .ok w') :
    ∃ legs, Sourced keccak256 cfg order (sources.drop index.val) w legs w' := by
  induction fuel generalizing w w' index with
  | zero => cases h
  | succ fuel ih =>
    rw [Erc7683AquaFiller._sourceLeg] at h
    obtain ⟨source, hsource, h⟩ := expect_bind.mp h
    obtain ⟨next, hnext, h⟩ := expect_bind.mp h
    obtain ⟨continuation, hcontinuation, h⟩ := expect_bind.mp h
    rw [U256.checked_add_eq_some] at hnext
    have htoken := hlegs source (List.mem_of_getElem? hsource)
    obtain ⟨a, w₁, w₂, hfits, ⟨hopens, hnonces, hinflight⟩, hcallback, hcloses, hnonces',
      hsettler⟩ := swap_ok htoken hpair h
    have hdrop : sources.drop index.val = source :: sources.drop next.val := by
      obtain ⟨hindex, hget⟩ := List.getElem?_eq_some_iff.mp hsource
      rw [← hnext, List.drop_eq_getElem_cons hindex, hget]
      rfl
    rw [hdrop]
    unfold Erc7683AquaFiller.preTransferInCallback at hcallback
    obtain ⟨-, hcallback⟩ := require_bind.mp hcallback
    -- What the router hands back is what the leg encoded.
    rw [Continuation.decode_encode hcontinuation, expect_some_bind] at hcallback
    have hinner : ∃ legs, Sourced keccak256 cfg order (sources.drop next.val) w₁ legs w₂ := by
      split at hcallback
      · exact ih (hinflight.trans hrouter) hcallback
      · rename_i hlast
        rw [List.drop_of_length_le (not_lt.mp hlast)]
        rw [horder, expect_some_bind] at hcallback
        obtain ⟨w₃, hgrant, hcallback⟩ := bubble_bind.mp hcallback
        obtain ⟨w₄, hsettle, hcallback⟩ := bubble_bind.mp hcallback
        exact ⟨[], settlement_sourced hgrant hsettle (bubble_eq_ok.mp hcallback)⟩
    obtain ⟨legs, hinner⟩ := hinner
    exact ⟨(source, a) :: legs,
      Sourced.cons hfits hopens hnonces hinner hcloses hnonces' hsettler⟩

end Specs

end Solvent.Contracts
