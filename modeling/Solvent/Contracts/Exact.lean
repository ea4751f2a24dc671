import Solvent.Contracts.Nested

/-! # A fill pays everyone exactly

    What happened to a balance is read off the transfers of the nest: the filler
    receives the outputs and the user's input, sends the output on and loses the
    pulls. What is left of the input is at least the fee, so the checks at the end
    of a fill never fail for want of it.
-/

namespace Solvent.Contracts

open Abi Contract

section Specs

variable {keccak256 : Bytes → B256} {ecrecover : B256 → Bool → Bytes → Option Address}
variable {cfg : FillConfig} {reads : FillReads} {o : AroundFill keccak256 ecrecover}
variable {w w' : FillState} {order : Solvent7683Order}

/-! ## The input allowance -/

/-- Legs that take one token have one sum. -/
theorem accumulate_inputs_one {sources : List SourceSwap} {token : Address}
    (htokens : ∀ source ∈ sources, source.authorization.tokenIn = token) {sum : U256}
    {sums : List (Address × U256)}
    (h : Erc7683AquaFiller.accumulate_inputs sources [(token, sum)] = some sums) :
    ∃ total, sums = [(token, total)] := by
  induction sources generalizing sum with
  | nil => exact ⟨sum, (Option.some.inj h).symm⟩
  | cons source sources ih =>
    obtain ⟨sums', hadd, h⟩ := Option.bind_eq_some_iff.mp h
    rw [Erc7683AquaFiller._accumulateAmount, if_pos (htokens source List.mem_cons_self).symm]
      at hadd
    obtain ⟨sum', -, rfl⟩ := Option.map_eq_some_iff.mp hadd
    exact ih (fun s hs => htokens s (List.mem_cons_of_mem _ hs)) h

/-- **Spec of `_approveInputs`** for legs that take one token: one allowance of the
    router is written, and it is zero where none is granted. -/
theorem approveInputs_ok {sources : List SourceSwap} {token : Address} {grant : Bool}
    (hsome : sources ≠ [])
    (htokens : ∀ source ∈ sources, source.authorization.tokenIn = token)
    (h : Erc7683AquaFiller._approveInputs cfg o w sources grant = .ok w') :
    ∃ tokens, w' = { w with tokens } ∧ tokens.balanceOf = w.tokens.balanceOf ∧
      (grant = false → tokens.allowance token cfg.this cfg.ROUTER = 0) ∧
      ∀ token' spender, ¬(token' = token ∧ spender = cfg.ROUTER) →
        tokens.allowance token' cfg.this spender =
          w.tokens.allowance token' cfg.this spender := by
  obtain ⟨sums, hsums, h⟩ := expect_bind.mp h
  cases sources with
  | nil => exact absurd rfl hsome
  | cons source sources =>
    -- The first leg starts the sum the others add to.
    have hrest : Erc7683AquaFiller.accumulate_inputs sources
        [(source.authorization.tokenIn, source.authorization.amountInLimit)] = some sums := hsums
    rw [htokens source List.mem_cons_self] at hrest
    obtain ⟨total, rfl⟩ :=
      accumulate_inputs_one (fun s hs => htokens s (List.mem_cons_of_mem _ hs)) hrest
    obtain ⟨w₁, happrove, h⟩ := bubble_bind.mp h
    obtain rfl := Except.ok.inj h
    obtain ⟨tokens, rfl, hbalances, hvalue, hothers⟩ := FillState.forceApprove_ok happrove
    refine ⟨tokens, rfl, hbalances, ?_, ?_⟩
    · rintro rfl
      exact hvalue
    · exact fun token' spender hne => hothers token' cfg.this spender fun heq =>
        hne ⟨heq.1, heq.2.2⟩

/-! ## What the filler is left with -/

/-- What the router pulls over all legs. -/
def pulled (legs : List (SourceSwap × Answer)) : ℕ :=
  (legs.map fun leg => leg.2.amountIn.val).sum

theorem pulled_le {legs : List (SourceSwap × Answer)} (h : ∀ leg ∈ legs, LegFits cfg leg) :
    pulled legs ≤ Erc7683AquaFiller.input_limits (legs.map Prod.fst) := by
  unfold pulled Erc7683AquaFiller.input_limits
  rw [List.map_map]
  exact List.sum_le_sum fun leg hleg => (h leg hleg).amountIn_le

/-- Legs that trade the order's pair with others than the filler. -/
structure LegsFit (cfg : FillConfig) (order : Solvent7683Order)
    (legs : List (SourceSwap × Answer)) : Prop where
  fits : ∀ leg ∈ legs, LegFits cfg leg
  pairs : ∀ leg ∈ legs, leg.1.authorization.tokenIn = order.inputToken ∧
    leg.1.authorization.tokenOut = order.outputToken

theorem LegsFit.tail {leg : SourceSwap × Answer} {legs : List (SourceSwap × Answer)}
    (h : LegsFit cfg order (leg :: legs)) : LegsFit cfg order legs :=
  ⟨fun l hl => h.fits l (List.mem_cons_of_mem _ hl),
    fun l hl => h.pairs l (List.mem_cons_of_mem _ hl)⟩

theorem transfers_nested_cons (leg : SourceSwap × Answer) (legs : List (SourceSwap × Answer))
    (inner : List FillEvent) :
    transfers (nested cfg (leg :: legs) inner) =
      { token := leg.1.authorization.tokenOut, src := leg.2.payer, dst := cfg.this
        amount := leg.1.authorization.amountOut } :: (transfers (nested cfg legs inner) ++
      [{ token := leg.1.authorization.tokenIn, src := cfg.this, dst := leg.2.payee
         amount := leg.2.amountIn }]) := by
  rw [nested, transfers_append, transfers_append]
  rfl

/-- Over the legs the filler sends only the pulls. -/
theorem sent_nested (hpair : order.inputToken ≠ order.outputToken)
    {legs : List (SourceSwap × Answer)} (h : LegsFit cfg order legs) (inner : List FillEvent) :
    Bank.sent order.inputToken cfg.this (transfers (nested cfg legs inner)) =
        pulled legs + Bank.sent order.inputToken cfg.this (transfers inner) ∧
      Bank.sent order.outputToken cfg.this (transfers (nested cfg legs inner)) =
        Bank.sent order.outputToken cfg.this (transfers inner) := by
  induction legs with
  | nil => exact ⟨(Nat.zero_add _).symm, rfl⟩
  | cons leg legs ih =>
    obtain ⟨hinput, houtput⟩ := ih h.tail
    obtain ⟨htokenIn, htokenOut⟩ := h.pairs leg List.mem_cons_self
    have hpayer := (h.fits leg List.mem_cons_self).payer_ne
    have hpulled : pulled (leg :: legs) = leg.2.amountIn.val + pulled legs := by
      simp [pulled]
    rw [transfers_nested_cons, hpulled]
    simp only [Bank.sent_cons, Bank.sent_append, Bank.sent_nil, hinput, houtput, htokenIn,
      htokenOut, hpayer, hpair, and_true, and_false, if_true, if_false]
    omega

/-- Over the legs the filler receives only the outputs. -/
theorem received_nested (hpair : order.inputToken ≠ order.outputToken)
    {legs : List (SourceSwap × Answer)} (h : LegsFit cfg order legs) (inner : List FillEvent) :
    Bank.received order.inputToken cfg.this (transfers (nested cfg legs inner)) =
        Bank.received order.inputToken cfg.this (transfers inner) ∧
      Bank.received order.outputToken cfg.this (transfers (nested cfg legs inner)) =
        Erc7683AquaFiller.outputs (legs.map Prod.fst) +
          Bank.received order.outputToken cfg.this (transfers inner) := by
  induction legs with
  | nil => exact ⟨rfl, (Nat.zero_add _).symm⟩
  | cons leg legs ih =>
    obtain ⟨hinput, houtput⟩ := ih h.tail
    obtain ⟨htokenIn, htokenOut⟩ := h.pairs leg List.mem_cons_self
    have hpayee := (h.fits leg List.mem_cons_self).payee_ne
    have houtputs : Erc7683AquaFiller.outputs ((leg :: legs).map Prod.fst) =
        leg.1.authorization.amountOut.val + Erc7683AquaFiller.outputs (legs.map Prod.fst) := by
      simp [Erc7683AquaFiller.outputs]
    rw [transfers_nested_cons, houtputs]
    simp only [Bank.received_cons, Bank.received_append, Bank.received_nil, hinput, houtput,
      htokenIn, htokenOut, hpayee, hpair.symm, and_true, and_false, if_true, if_false]
    omega

/-- A kind of transfer no leg makes is made by what is innermost only. -/
theorem filter_nested {p : Bank.Transfer Address Address → Bool}
    {legs : List (SourceSwap × Answer)}
    (h : ∀ leg ∈ legs, (transfers (leg_opens cfg leg)).filter p = [] ∧
      (transfers (leg_closes cfg leg)).filter p = []) (inner : List FillEvent) :
    (transfers (nested cfg legs inner)).filter p = (transfers inner).filter p := by
  induction legs with
  | nil => rfl
  | cons leg legs ih =>
    obtain ⟨hopens, hcloses⟩ := h leg List.mem_cons_self
    rw [nested, transfers_append, transfers_append, List.filter_append, List.filter_append, hopens,
      hcloses, ih fun l hl => h l (List.mem_cons_of_mem _ hl), List.nil_append, List.append_nil]

/-! ## The whole fill -/

/-- The orders of the swaps among the events, as they are entered. -/
def swaps (events : List FillEvent) : List SwapOrder :=
  events.filterMap fun
    | .SwapEntered order .. => some order
    | _ => none

theorem swaps_append (events events' : List FillEvent) :
    swaps (events ++ events') = swaps events ++ swaps events' :=
  List.filterMap_append

theorem swaps_nested (legs : List (SourceSwap × Answer)) (inner : List FillEvent) :
    swaps (nested cfg legs inner) = (legs.map fun leg => leg.1.order) ++ swaps inner := by
  induction legs with
  | nil => rfl
  | cons leg legs ih =>
    have hopens : swaps (leg_opens cfg leg) = [leg.1.order] := rfl
    have hcloses : swaps (leg_closes cfg leg) = [] := rfl
    rw [nested, swaps_append, swaps_append, ih, hopens, hcloses, List.append_nil]
    rfl

/-- Neither the router nor the settler may take anything from the filler. -/
def Idle (cfg : FillConfig) (w : FillState) : Prop :=
  ∀ token, w.tokens.allowance token cfg.this cfg.ROUTER = 0 ∧
    w.tokens.allowance token cfg.this cfg.SETTLER.this = 0

/-- What a fill does, in its order. -/
def fill_events (keccak256 : Bytes → B256) (cfg : FillConfig) (order : Solvent7683Order)
    (legs : List (SourceSwap × Answer)) (paymentRecipient : Address) (earned : U256) :
    List FillEvent :=
  nested cfg legs (settlement keccak256 cfg order) ++
    payment keccak256 cfg order paymentRecipient earned

/-- A fill from `w` to `w'` that paid everyone exactly. -/
structure Paid (keccak256 : Bytes → B256) (cfg : FillConfig) (order : Solvent7683Order)
    (sources : List SourceSwap) (paymentRecipient : Address) (w : FillState) (earned : U256)
    (w' : FillState) (legs : List (SourceSwap × Answer)) : Prop where
  plan : legs.map Prod.fst = sources
  fits : ∀ leg ∈ legs, LegFits cfg leg
  /-- The legs nest in the plan's order, around one settlement. -/
  log : w'.log = w.log ++ fill_events keccak256 cfg order legs paymentRecipient earned
  entered : swaps (fill_events keccak256 cfg order legs paymentRecipient earned) =
    sources.map SourceSwap.order
  /-- Nothing else moved, for anyone. -/
  ledger : Bank.Moved w.tokens
    (transfers (fill_events keccak256 cfg order legs paymentRecipient earned)) w'.tokens
  /-- The user's input is taken once. -/
  taken : (transfers (fill_events keccak256 cfg order legs paymentRecipient earned)).filter
      (fun t => t.token = order.inputToken ∧ t.src = order.user) =
    [{ token := order.inputToken, src := order.user, dst := cfg.this
       amount := order.inputAmount }]
  /-- The output is delivered once. -/
  delivered : (transfers (fill_events keccak256 cfg order legs paymentRecipient earned)).filter
      (fun t => t.token = order.outputToken ∧ t.dst = order.recipient) =
    [{ token := order.outputToken, src := cfg.this, dst := order.recipient
       amount := order.outputAmount }]
  total : earned.val + pulled legs = order.inputAmount.val
  fee : order.executorFee ≤ earned
  input : w'.tokens.balanceOf order.inputToken cfg.this =
    w.tokens.balanceOf order.inputToken cfg.this
  output : w'.tokens.balanceOf order.outputToken cfg.this =
    w.tokens.balanceOf order.outputToken cfg.this
  exchanged : Exchanged cfg order w w'
  router : w'.tokens.allowance order.inputToken cfg.this cfg.ROUTER = 0
  settler : w'.tokens.allowance order.outputToken cfg.this cfg.SETTLER.this = 0
  /-- The filler's other allowances are as they were. -/
  allowances : ∀ token spender, ¬(token = order.inputToken ∧ spender = cfg.ROUTER) →
    ¬(token = order.outputToken ∧ spender = cfg.SETTLER.this) →
      w'.tokens.allowance token cfg.this spender = w.tokens.allowance token cfg.this spender
  closed : w'._routerInFlight = 0 ∧ w'.filler.entered = false

/-- A filler that starts without allowances ends without any. -/
theorem Paid.idle {sources : List SourceSwap} {paymentRecipient : Address} {earned : U256}
    {legs : List (SourceSwap × Answer)}
    (h : Paid keccak256 cfg order sources paymentRecipient w earned w' legs)
    (hidle : Idle cfg w) : Idle cfg w' := by
  have hzero : ∀ token spender, w.tokens.allowance token cfg.this spender = 0 →
      w'.tokens.allowance token cfg.this spender = 0 := by
    intro token spender hbefore
    by_cases hrouter : token = order.inputToken ∧ spender = cfg.ROUTER
    · obtain ⟨rfl, rfl⟩ := hrouter
      exact h.router
    by_cases hsettler : token = order.outputToken ∧ spender = cfg.SETTLER.this
    · obtain ⟨rfl, rfl⟩ := hsettler
      exact h.settler
    · exact (h.allowances token spender hrouter hsettler).trans hbefore
  exact fun token => ⟨hzero token _ (hidle token).1, hzero token _ (hidle token).2⟩

/-- The state after the legs, before anything is paid out. -/
structure Unpaid (keccak256 : Bytes → B256) (cfg : FillConfig) (order : Solvent7683Order)
    (sources : List SourceSwap) (w : FillState) (legs : List (SourceSwap × Answer))
    (w' : FillState) : Prop extends Sourced keccak256 cfg order sources w legs w' where
  router : w'.tokens.allowance order.inputToken cfg.this cfg.ROUTER = 0
  in_flight : w'._routerInFlight = 0

/-- The legs between the grant of the router's allowance and its end. -/
theorem unpaid_of_legs {orderData permitSignature : Bytes} {sources : List SourceSwap}
    (horder : decode orderData = some order) (hpair : order.inputToken ≠ order.outputToken)
    (hsome : sources ≠ [])
    (hlegs : ∀ source ∈ sources, source.authorization.tokenIn = order.inputToken) {fuel : ℕ}
    {w₁ w₂ : FillState}
    (hgrant : Erc7683AquaFiller._approveInputs cfg o w sources true = .ok w₁)
    (hrun : Erc7683AquaFiller._sourceLeg cfg reads o fuel { w₁ with _routerInFlight := cfg.ROUTER }
      0 orderData permitSignature sources = .ok w₂)
    (hrevoke : Erc7683AquaFiller._approveInputs cfg o { w₂ with _routerInFlight := 0 } sources
      false = .ok w') :
    ∃ legs, Unpaid keccak256 cfg order sources w legs w' := by
  obtain ⟨tokens₁, rfl, hbalances₁, -, hothers₁⟩ := approveInputs_ok hsome hlegs hgrant
  obtain ⟨legs, hplan, hfits, hwithin, hexchanged, hsettler⟩ :=
    sourceLeg_ok horder hpair hlegs rfl hrun
  obtain ⟨tokens₃, rfl, hbalances₃, hzero, hothers₃⟩ := approveInputs_ok hsome hlegs hrevoke
  have hfirst : Within cfg order w []
      { w with tokens := tokens₁, _routerInFlight := cfg.ROUTER } :=
    ⟨(List.append_nil _).symm, Bank.Moved.of_balances hbalances₁, rfl, rfl,
      fun token spender hrouter _ => hothers₁ token spender hrouter⟩
  have hlast : Within cfg order w₂ [] { w₂ with _routerInFlight := 0, tokens := tokens₃ } :=
    ⟨(List.append_nil _).symm, Bank.Moved.of_balances hbalances₃, rfl, rfl,
      fun token spender hrouter _ => hothers₃ token spender hrouter⟩
  have hall := (hfirst.append hwithin).append hlast
  rw [List.nil_append, List.append_nil] at hall
  refine ⟨legs, ⟨hplan, hfits, hall, ⟨hexchanged.user_ne, hexchanged.recipient_ne,
    hexchanged.fresh, hexchanged.spent⟩, ?_⟩, hzero rfl, rfl⟩
  -- The router's allowance is for the input, the settler's for the output.
  exact (hothers₃ order.outputToken cfg.SETTLER.this fun heq => hpair heq.1.symm).trans hsettler

/-- **The balances after the legs**: the filler holds the input less the pulls, and
    no output. -/
theorem Unpaid.balances {sources : List SourceSwap} {legs : List (SourceSwap × Answer)}
    (h : Unpaid keccak256 cfg order sources w legs w')
    (hpair : order.inputToken ≠ order.outputToken)
    (hplan : Erc7683AquaFiller.Authorized order sources) :
    (w'.tokens.balanceOf order.inputToken cfg.this).val + pulled legs =
        (w.tokens.balanceOf order.inputToken cfg.this).val + order.inputAmount.val ∧
      w'.tokens.balanceOf order.outputToken cfg.this =
        w.tokens.balanceOf order.outputToken cfg.this ∧
      pulled legs + order.executorFee.val ≤ order.inputAmount.val := by
  have hlegs : LegsFit cfg order legs := by
    refine ⟨h.fits, fun leg hleg => hplan.pairs leg.1 ?_⟩
    rw [← h.plan]
    exact List.mem_map_of_mem hleg
  have hsettlement : transfers (settlement keccak256 cfg order) =
    [{ token := order.inputToken, src := order.user, dst := cfg.this
       amount := order.inputAmount },
      { token := order.outputToken, src := cfg.this, dst := order.recipient
        amount := order.outputAmount }] := rfl
  obtain ⟨hsentInput, hsentOutput⟩ := sent_nested hpair hlegs (settlement keccak256 cfg order)
  obtain ⟨hreceivedInput, hreceivedOutput⟩ :=
    received_nested hpair hlegs (settlement keccak256 cfg order)
  have hinput := h.within.moved order.inputToken cfg.this
  have houtput := h.within.moved order.outputToken cfg.this
  rw [hsentInput, hreceivedInput, hsettlement] at hinput
  rw [hsentOutput, hreceivedOutput, hsettlement, h.plan, hplan.outputs] at houtput
  simp only [Bank.sent_cons, Bank.sent_nil, Bank.received_cons, Bank.received_nil,
    h.exchanged.user_ne, h.exchanged.recipient_ne, hpair, hpair.symm, and_true, and_false,
    and_self, if_true, if_false] at hinput houtput
  have hlimit := pulled_le h.fits
  rw [h.plan] at hlimit
  have htotal := hplan.limits
  refine ⟨by omega, Fin.ext (by omega), by omega⟩

/-- A kind of transfer that no leg makes and the payment is not. -/
theorem filter_fill_events {p : Bank.Transfer Address Address → Bool}
    {legs : List (SourceSwap × Answer)} {paymentRecipient : Address} {earned : U256}
    (hlegs : ∀ leg ∈ legs, (transfers (leg_opens cfg leg)).filter p = [] ∧
      (transfers (leg_closes cfg leg)).filter p = [])
    (hpayment : (transfers (payment keccak256 cfg order paymentRecipient earned)).filter p = []) :
    (transfers (fill_events keccak256 cfg order legs paymentRecipient earned)).filter p =
      (transfers (settlement keccak256 cfg order)).filter p := by
  rw [fill_events, transfers_append, List.filter_append, filter_nested hlegs, hpayment,
    List.append_nil]

/-- The user is taken the input from, once. -/
theorem taken_once (huser : order.user ≠ cfg.this) (hpair : order.inputToken ≠ order.outputToken)
    {legs : List (SourceSwap × Answer)}
    (hpairs : ∀ leg ∈ legs, leg.1.authorization.tokenOut = order.outputToken)
    (paymentRecipient : Address) (earned : U256) :
    (transfers (fill_events keccak256 cfg order legs paymentRecipient earned)).filter
        (fun t => t.token = order.inputToken ∧ t.src = order.user) =
      [{ token := order.inputToken, src := order.user, dst := cfg.this
         amount := order.inputAmount }] := by
  rw [filter_fill_events]
  · simp [settlement, transfers, hpair.symm]
  · intro leg hleg
    simp [leg_opens, leg_closes, transfers, hpairs leg hleg, hpair.symm, huser.symm]
  · simp [payment, transfers, huser.symm]

/-- The recipient is delivered the output, once. -/
theorem delivered_once (hrecipient : order.recipient ≠ cfg.this)
    (hpair : order.inputToken ≠ order.outputToken) {legs : List (SourceSwap × Answer)}
    (hpairs : ∀ leg ∈ legs, leg.1.authorization.tokenIn = order.inputToken)
    (paymentRecipient : Address) (earned : U256) :
    (transfers (fill_events keccak256 cfg order legs paymentRecipient earned)).filter
        (fun t => t.token = order.outputToken ∧ t.dst = order.recipient) =
      [{ token := order.outputToken, src := cfg.this, dst := order.recipient
         amount := order.outputAmount }] := by
  rw [filter_fill_events]
  · simp [settlement, transfers, hpair]
  · intro leg hleg
    simp [leg_opens, leg_closes, transfers, hpairs leg hleg, hpair, hrecipient.symm]
  · simp [payment, transfers, hpair]

/-- **The payment** closes the fill. -/
theorem paid_of_unpaid {sources : List SourceSwap} {legs : List (SourceSwap × Answer)}
    {paymentRecipient : Address} {earned remaining : U256} {filler : Erc7683AquaFiller}
    {w₁ : FillState} (hunpaid : Unpaid keccak256 cfg order sources { w with filler } legs w₁)
    (hpair : order.inputToken ≠ order.outputToken)
    (hplan : Erc7683AquaFiller.Authorized order sources)
    (hremaining : remaining = w.tokens.balanceOf order.inputToken cfg.this)
    (hearned : remaining.val + earned.val =
      (w₁.tokens.balanceOf order.inputToken cfg.this).val)
    (hpay : Erc7683AquaFiller._safeTransferExact cfg o w₁ order.inputToken paymentRecipient earned
      remaining = .ok w') :
    Paid keccak256 cfg order sources paymentRecipient w earned
      ({ w' with filler := { w'.filler with entered := false } }.emit
        (.Filled (SolventSameChainSettler.orderId keccak256 order) order.user order.recipient
          paymentRecipient order.inputToken order.outputToken order.inputAmount
          order.outputAmount earned)) legs := by
  obtain ⟨hinput, houtput, hlimit⟩ := hunpaid.balances hpair hplan
  dsimp only at hinput
  rw [hremaining] at hearned
  unfold Erc7683AquaFiller._safeTransferExact at hpay
  obtain ⟨w₂, hsent, hpay⟩ := bubble_bind.mp hpay
  obtain ⟨received, -, hpay⟩ := expect_bind.mp hpay
  obtain ⟨-, hpay⟩ := check_bind.mp hpay
  obtain ⟨hleft, hpay⟩ := check_bind.mp hpay
  obtain rfl := Except.ok.inj hpay
  obtain ⟨tokens, rfl, hmoved, hallowance⟩ := FillState.safeTransfer_ok hsent
  have huser := hunpaid.exchanged.user_ne
  have hrecipient := hunpaid.exchanged.recipient_ne
  have hpairs : ∀ leg ∈ legs, leg.1.authorization.tokenIn = order.inputToken ∧
      leg.1.authorization.tokenOut = order.outputToken := by
    intro leg hleg
    refine hplan.pairs leg.1 ?_
    rw [← hunpaid.plan]
    exact List.mem_map_of_mem hleg
  refine {
    plan := hunpaid.plan
    fits := hunpaid.fits
    log := ?_
    entered := ?_
    ledger := ?_
    taken := ?_
    delivered := ?_
    total := by omega
    fee := ?_
    input := (require_eq_ok.mp hleft).trans hremaining
    output := ?_
    exchanged := ⟨huser, hrecipient, hunpaid.exchanged.fresh, hunpaid.exchanged.spent⟩
    router := ?_
    settler := ?_
    allowances := ?_
    closed := ⟨hunpaid.in_flight, rfl⟩ }
  · simp [FillState.emit, fill_events, payment, hunpaid.within.log]
  · have hsettlement : swaps (settlement keccak256 cfg order) = [] := rfl
    have hpayment : swaps (payment keccak256 cfg order paymentRecipient earned) = [] := rfl
    rw [fill_events, swaps_append, swaps_nested, hsettlement, hpayment, List.append_nil,
      List.append_nil, ← hunpaid.plan, List.map_map]
    rfl
  · rw [fill_events, transfers_append]
    exact hunpaid.within.moved.append hmoved
  · exact taken_once huser hpair (fun leg hleg => (hpairs leg hleg).2) paymentRecipient earned
  · exact delivered_once hrecipient hpair (fun leg hleg => (hpairs leg hleg).1) paymentRecipient
      earned
  · rw [Fin.le_def]
    omega
  · -- The payment moves the input token only.
    have hkept := hmoved order.outputToken cfg.this
    simp only [Bank.sent_cons, Bank.sent_nil, Bank.received_cons, Bank.received_nil, hpair,
      false_and, if_false] at hkept
    exact (Fin.ext hkept).trans houtput
  · exact (congrFun (congrFun (congrFun hallowance _) _) _).trans hunpaid.router
  · exact (congrFun (congrFun (congrFun hallowance _) _) _).trans hunpaid.settler
  · intro token spender hrouter hsettler
    exact (congrFun (congrFun (congrFun hallowance _) _) _).trans
      (hunpaid.within.allowances token spender hrouter hsettler)

/-! ## What never happens -/

/-- The errors that no fill ends with: an input that fell, a fee that was not
    earned, a plan that nests too deep. -/
def Unreachable : FillError → Prop
  | .AssetBalanceDecreased .. | .ExecutorFeeNotEarned .. | .Leg .OutOfFuel => True
  | _ => False

/-- A swap runs out of fuel only in its callback. -/
theorem swap_fuel {callback : FillState → Address → Bytes → Except LegError FillState}
    {call : SwapCall} (hcallback : ∀ w, callback w cfg.ROUTER
      call.takerTraits.preTransferInCallbackData ≠ .error .OutOfFuel) :
    swap cfg o callback w call ≠ .error .OutOfFuel := by
  intro h
  unfold swap at h
  obtain ⟨-, he⟩ | ⟨-, h⟩ := require_bind_error.mp h
  · cases he
  obtain ⟨-, he⟩ | ⟨a, -, h⟩ := expect_bind_error.mp h
  · cases he
  obtain ⟨_, -, he⟩ | ⟨w₁, -, h⟩ := bubble_bind_error.mp h
  · cases he
  obtain h | ⟨w₂, -, h⟩ := bind_eq_error.mp h
  · exact hcallback w₁ h
  obtain ⟨_, -, he⟩ | ⟨w₃, -, h⟩ := bubble_bind_error.mp h
  · cases he
  · cases h

/-- As many levels as legs are enough. -/
theorem sourceLeg_fuel {orderData permitSignature : Bytes} {sources : List SourceSwap}
    {fuel : ℕ} {w : FillState} {index : U256} (hindex : index.val < sources.length)
    (hfuel : sources.length ≤ index.val + fuel) :
    Erc7683AquaFiller._sourceLeg cfg reads o fuel w index orderData permitSignature sources ≠
      .error .OutOfFuel := by
  induction fuel generalizing w index with
  | zero => omega
  | succ fuel ih =>
    intro h
    rw [Erc7683AquaFiller._sourceLeg] at h
    obtain ⟨-, he⟩ | ⟨source, -, h⟩ := expect_bind_error.mp h
    · cases he
    obtain ⟨-, he⟩ | ⟨next, hnext, h⟩ := expect_bind_error.mp h
    · cases he
    obtain ⟨-, he⟩ | ⟨continuation, hcontinuation, h⟩ := expect_bind_error.mp h
    · cases he
    rw [U256.checked_add_eq_some] at hnext
    have hone : (1 : U256).val = 1 := rfl
    refine swap_fuel ?_ h
    intro w₁ hcallback
    obtain ⟨-, he⟩ | ⟨-, hcallback⟩ := require_bind_error.mp hcallback
    · cases he
    dsimp only [Erc7683AquaFiller._takerTraits] at hcallback
    rw [Continuation.decode_encode hcontinuation, expect_some_bind] at hcallback
    split at hcallback
    · rename_i hmore
      exact ih hmore (by dsimp only; omega) hcallback
    · obtain ⟨-, he⟩ | ⟨order', -, hcallback⟩ := expect_bind_error.mp hcallback
      · cases he
      obtain ⟨_, -, he⟩ | ⟨w₂, -, hcallback⟩ := bubble_bind_error.mp hcallback
      · cases he
      obtain ⟨_, -, he⟩ | ⟨w₃, -, hcallback⟩ := bubble_bind_error.mp hcallback
      · cases he
      · cases hrevoke : w₃.forceApprove o.rules order'.outputToken cfg.this cfg.SETTLER.this 0 with
        | ok w₄ =>
          rw [hrevoke] at hcallback
          cases hcallback
        | error e =>
          rw [hrevoke] at hcallback
          cases hcallback

/-- The parts of the run do not fail that way either. -/
theorem approveInputs_reaches {sources : List SourceSwap} {grant : Bool} {e : FillError}
    (h : Erc7683AquaFiller._approveInputs cfg o w sources grant = .error e) : ¬Unreachable e := by
  obtain ⟨-, rfl⟩ | ⟨sums, -, h⟩ := expect_bind_error.mp h
  · exact id
  clear * - h
  induction sums generalizing w with
  | nil => cases h
  | cons sum sums ih =>
    obtain ⟨_, -, rfl⟩ | ⟨w₁, -, h⟩ := bubble_bind_error.mp h
    · exact id
    · exact ih h

theorem safeTransferExact_reaches {token recipient : Address} {amount remaining : U256}
    {e : FillError}
    (h : Erc7683AquaFiller._safeTransferExact cfg o w token recipient amount remaining =
      .error e) : ¬Unreachable e := by
  unfold Erc7683AquaFiller._safeTransferExact Erc7683AquaFiller._requireBalance at h
  obtain ⟨_, -, rfl⟩ | ⟨w₁, -, h⟩ := bubble_bind_error.mp h
  · exact id
  obtain ⟨-, rfl⟩ | ⟨received, -, h⟩ := expect_bind_error.mp h
  · exact id
  obtain ⟨-, rfl⟩ | ⟨-, h⟩ := require_bind_error.mp h
  · exact id
  obtain ⟨-, rfl⟩ | ⟨-, h⟩ := require_bind_error.mp h
  · exact id
  · cases h

/-- **An ERC-7683 fill pays everyone exactly.** A fill that succeeds nests its legs
    in their order around one settlement and passes on what is left of the input;
    one that reverts never does so for a lost balance or a fee not earned. -/
theorem fill_pays_everyone (cfg : FillConfig) (reads : FillReads)
    (o : AroundFill keccak256 ecrecover) (w : FillState) (caller : Address)
    (orderData permitSignature sourceData : Bytes) (paymentRecipient : Address) :
    (∀ w' earned, Erc7683AquaFiller.fill cfg reads o w caller orderData permitSignature sourceData
        paymentRecipient = .ok (w', earned) →
      ∃ order sources legs, decode orderData = some order ∧
        reads.decode_sources sourceData = some sources ∧
        Paid keccak256 cfg order sources paymentRecipient w earned w' legs) ∧
    ∀ e, Erc7683AquaFiller.fill cfg reads o w caller orderData permitSignature sourceData
      paymentRecipient = .error e → ¬Unreachable e := by
  constructor
  · intro w' earned h
    unfold Erc7683AquaFiller.fill at h
    obtain ⟨⟨filler, order, sources⟩, hchecks, h⟩ := bubble_bind.mp h
    obtain ⟨horder, hsources, hvalid, -, hsome, hplan⟩ :=
      Erc7683AquaFiller.fill_checks_ok hchecks
    have hlegs := fun source hsource => (hplan.pairs source hsource).1
    obtain ⟨w₁, hgrant, h⟩ := bind_eq_ok.mp h
    obtain ⟨w₂, hrun, h⟩ := bubble_bind.mp h
    obtain ⟨w₃, hrevoke, h⟩ := bind_eq_ok.mp h
    obtain ⟨-, h⟩ := require_bind.mp h
    obtain ⟨earned', hearned, h⟩ := expect_bind.mp h
    obtain ⟨-, h⟩ := require_bind.mp h
    obtain ⟨-, h⟩ := check_bind.mp h
    obtain ⟨w₄, hpay, h⟩ := bind_eq_ok.mp h
    obtain ⟨rfl, rfl⟩ := Prod.mk.inj (Except.ok.inj h)
    obtain ⟨legs, hunpaid⟩ :=
      unpaid_of_legs horder hvalid.pair hsome hlegs hgrant hrun hrevoke
    exact ⟨order, sources, legs, horder, hsources, paid_of_unpaid hunpaid hvalid.pair hplan rfl
      (U256.checked_sub_eq_some.mp hearned) hpay⟩
  · intro e h
    unfold Erc7683AquaFiller.fill at h
    obtain ⟨_, -, rfl⟩ | ⟨⟨filler, order, sources⟩, hchecks, h⟩ := bubble_bind_error.mp h
    · exact id
    obtain ⟨horder, hsources, hvalid, -, hsome, hplan⟩ :=
      Erc7683AquaFiller.fill_checks_ok hchecks
    have hlegs := fun source hsource => (hplan.pairs source hsource).1
    obtain h | ⟨w₁, hgrant, h⟩ := bind_eq_error.mp h
    · exact approveInputs_reaches h
    obtain ⟨e', hrun, rfl⟩ | ⟨w₂, hrun, h⟩ := bubble_bind_error.mp h
    · -- The plan has a first leg, and nests no deeper than its length.
      have hfirst : (0 : U256).val < sources.length := List.length_pos_iff.mpr hsome
      have hne : e' ≠ .OutOfFuel := by
        rintro rfl
        exact sourceLeg_fuel hfirst (Nat.le_add_left sources.length (0 : U256).val) hrun
      cases e' with
      | OutOfFuel => exact absurd rfl hne
      | _ => exact id
    obtain h | ⟨w₃, hrevoke, h⟩ := bind_eq_error.mp h
    · exact approveInputs_reaches h
    obtain ⟨legs, hunpaid⟩ :=
      unpaid_of_legs horder hvalid.pair hsome hlegs hgrant hrun hrevoke
    obtain ⟨hinput, -, hlimit⟩ := hunpaid.balances hvalid.pair hplan
    dsimp only at hinput
    obtain ⟨hfell, -⟩ | ⟨-, h⟩ := require_bind_error.mp h
    · exact absurd (Fin.le_def.mpr (by omega)) hfell
    obtain ⟨-, rfl⟩ | ⟨earned, hearned, h⟩ := expect_bind_error.mp h
    · exact id
    rw [U256.checked_sub_eq_some] at hearned
    obtain ⟨hunearned, -⟩ | ⟨-, h⟩ := require_bind_error.mp h
    · exact absurd (Fin.le_def.mpr (by omega)) hunearned
    obtain ⟨-, rfl⟩ | ⟨-, h⟩ := require_bind_error.mp h
    · exact id
    obtain h | ⟨w₄, -, h⟩ := bind_eq_error.mp h
    · exact safeTransferExact_reaches h
    · cases h

end Specs

/-! ## Two legs -/

def two_leg_keccak (_ : Bytes) : B256 := 7

def two_leg_ecrecover (_ : B256) (_ : Bool) (_ : Bytes) : Option Address := some 3

def two_leg_permit2 : Permit2 two_leg_keccak two_leg_ecrecover where
  this := 4
  chainid := 1
  digest := _
  verifies signature hash claimedSigner :=
    decide (Signs two_leg_ecrecover signature hash claimedSigner)
  digest_eq _ := rfl
  verifies_iff _ _ _ := decide_eq_true_iff

def two_leg_order : Solvent7683Order :=
  { settler := 7, user := 3, chainId := 1, inputToken := 5, inputAmount := 1000, outputToken := 6
    outputAmount := 50, recipient := 3, executorFee := 10, nonce := 0, deadline := 100 }

/-- A leg of a maker that is paid all it may take. -/
def two_leg_source (maker : Address) (nonce amountOut amountInLimit : U256) : SourceSwap where
  order := { maker, traits := 2 ^ 254, data := 0x0e :: 0x14 :: List.replicate 19 0 ++ [8] }
  authorization :=
    { kind := .UserFill, nonce, contextHash := 7, strategyHash := 9, maker, tokenIn := 5
      tokenOut := 6, amountOut, amountInLimit, rebateAmount := 0, deadlineBlock := 10 }
  policySignature := []

def two_leg_sources : List SourceSwap :=
  [two_leg_source 21 0 20 400, two_leg_source 22 1 30 500]

def two_leg_router : Router where
  answer _ call :=
    if call.order.maker = call.takerTraits.taker then none
    else some { payer := call.order.maker, payee := call.order.maker
                amountIn := call.takerTraits.threshold }
  payer_ne h := by
    split at h
    · cases h
    · cases h
      assumption
  payee_ne h := by
    split at h
    · cases h
    · cases h
      assumption
  amountIn_le h := by
    split at h
    · cases h
    · cases h
      exact le_rfl

def two_leg_config : FillConfig :=
  { this := 11, chainid := 1, TAKER_CREDENTIAL := 8, SETTLER := { this := 7, chainid := 1 }
    ROUTER := 12 }

def two_leg_reads : FillReads :=
  { number := 1, router_hash := fun _ => 9, recover := fun _ _ => some 2, timestamp := 20
    credential_balance := 1, decode_sources := fun _ => some two_leg_sources }

def two_leg_outside : AroundFill two_leg_keccak two_leg_ecrecover :=
  { rules := { transfers := fun _ _ => true, approves := fun _ _ _ => true }
    router := two_leg_router
    permit2 := two_leg_permit2
    credential := fun _ => 1 }

def two_leg_state : FillState :=
  { filler := { owner := 2, paused := false, entered := false
                policy := { policySigner := 2, allowedToken := fun _ => true
                            _nonceBitmap := fun _ => 0 } }
    _routerInFlight := 0
    settling := false
    tokens := { balanceOf := fun _ _ => 10000
                allowance := fun _ owner spender => if owner = 3 ∧ spender = 4 then 1000 else 0 }
    nonceBitmap := fun _ _ => 0
    log := [] }

def two_leg_fill : Except FillError (FillState × U256) :=
  Erc7683AquaFiller.fill two_leg_config two_leg_reads two_leg_outside two_leg_state 2
    (encode two_leg_order) (List.replicate 64 0 ++ [27]) [] 9

/-- Two legs that take 400 and 500 of an input of 1000 leave 100. -/
theorem fill_pays_everyone_sample :
    ∃ w' order legs, two_leg_fill = .ok (w', 100) ∧
      Paid two_leg_keccak two_leg_config order two_leg_sources 9 two_leg_state 100 w' legs := by
  have hruns : two_leg_fill.toOption.map Prod.snd = some 100 := by decide +kernel
  obtain ⟨⟨w', earned⟩, hrun, hearned⟩ := Option.map_eq_some_iff.mp hruns
  obtain rfl : earned = 100 := hearned
  have hfill : two_leg_fill = .ok (w', 100) := Except.toOption_eq_some.mp hrun
  obtain ⟨order, sources, legs, -, hsources, hpaid⟩ := (fill_pays_everyone two_leg_config
    two_leg_reads two_leg_outside two_leg_state 2 (encode two_leg_order)
    (List.replicate 64 0 ++ [27]) [] 9).1 w' 100 hfill
  obtain rfl : two_leg_sources = sources := Option.some.inj hsources
  exact ⟨w', order, legs, hfill, hpaid⟩

end Solvent.Contracts
