import Solvent.Framework.Run
import Solvent.Contracts.UniswapXFiller

/-! # What a call does to the UniswapX filler

    Every part of a call, and every call nested in it, does to the filler what
    `Inside` says. The lock keeps the paths apart: while it is held, all that is
    left to enter is the callback of the order in flight and the owner's switches.
    One induction on the depth of the nesting carries this to whole calls.
-/

namespace Solvent.Contracts

open Abi Contract

/-! ## What the log says -/

namespace UniswapXEvent

/-- The nonces an event takes out of use. -/
def spends : UniswapXEvent → U256 → Prop
  | .Authorized _ _ a _ _, nonce => nonce = a.nonce
  | .NoncesInvalidated word mask, nonce =>
    Bitmap.word nonce = word ∧ mask.val.testBit (Bitmap.bit nonce) = true
  | _, _ => False

/-- Who signs after an event. -/
def signer (signer : Address) : UniswapXEvent → Address
  | .PolicySignerUpdated _ newSigner => newSigner
  | _ => signer

/-- The authorizations an event accepts are of this path and context. -/
def Runs (runs : Option (ExecutionKind × B256)) : UniswapXEvent → Prop
  | .Authorized path context _ _ _ => runs = some (path, context)
  | _ => True

/-- The authorization an event accepts. -/
def accepts : UniswapXEvent → Option Authorization
  | .Authorized _ _ a _ _ => some a
  | _ => none

/-- The authorization an event is the swap of. -/
def executes : UniswapXEvent → Option Authorization
  | .Swap a => some a
  | _ => none

end UniswapXEvent

/-- The authorizations accepted, in order. -/
def authorizations (log : List UniswapXEvent) : List Authorization :=
  log.filterMap UniswapXEvent.accepts

/-- The authorizations swaps were run for, in order. -/
def executions (log : List UniswapXEvent) : List Authorization :=
  log.filterMap UniswapXEvent.executes

@[simp] theorem authorizations_append (log log' : List UniswapXEvent) :
    authorizations (log ++ log') = authorizations log ++ authorizations log' :=
  List.filterMap_append

@[simp] theorem executions_append (log log' : List UniswapXEvent) :
    executions (log ++ log') = executions log ++ executions log' :=
  List.filterMap_append

@[simp] theorem authorizations_authorized {path : ExecutionKind} {context : B256}
    {a : Authorization} {signature : Bytes} {signer : Address} {log : List UniswapXEvent} :
    authorizations (.Authorized path context a signature signer :: log) = a :: authorizations log :=
  rfl

@[simp] theorem authorizations_swap {a : Authorization} {log : List UniswapXEvent} :
    authorizations (.Swap a :: log) = authorizations log := rfl

@[simp] theorem executions_authorized {path : ExecutionKind} {context : B256}
    {a : Authorization} {signature : Bytes} {signer : Address} {log : List UniswapXEvent} :
    executions (.Authorized path context a signature signer :: log) = executions log := rfl

@[simp] theorem executions_swap {a : Authorization} {log : List UniswapXEvent} :
    executions (.Swap a :: log) = a :: executions log := rfl

/-- Who signs after a log. -/
def signer_after (signer : Address) (log : List UniswapXEvent) : Address :=
  log.foldl UniswapXEvent.signer signer

/-- An authorization is accepted while its nonce is in use. -/
def Unspent (before : List UniswapXEvent) : UniswapXEvent → Prop
  | .Authorized _ _ a _ _ => ∀ e ∈ before, ¬e.spends a.nonce
  | _ => True

/-- An authorization is accepted for its own kind and context, and is signed by
    who signs at that point. -/
def Accepted (recover : B256 → Bytes → Option Address) (digest : Authorization → B256)
    (initial : Address) (before : List UniswapXEvent) : UniswapXEvent → Prop
  | .Authorized path context a signature signer =>
    a.kind = path ∧ a.contextHash = context ∧ signer = signer_after initial before ∧
      recover (digest a) signature = some signer
  | _ => True

/-- The path and the context of the authorizations a call accepts. -/
def UniswapXCall.runs (keccak256 : Bytes → B256) : UniswapXCall → Option (ExecutionKind × B256)
  | .fill order _ => some (.UserFill, UniswapXAquaFiller.userFillContext keccak256 order)
  | .fillBatch orders _ =>
    some (.UserFill, UniswapXAquaFiller.userFillBatchContext keccak256 orders)
  | .executeRebate _ a _ => some (.Rebate, a.contextHash)
  | _ => none

theorem UniswapXEvent.Runs.of_none {runs : Option (ExecutionKind × B256)} {e : UniswapXEvent}
    (h : e.Runs none) : e.Runs runs := by
  cases e
  case Authorized => cases h
  all_goals trivial

theorem authorizations_of_none {es : List UniswapXEvent} (h : ∀ e ∈ es, e.Runs none) :
    authorizations es = [] := by
  refine List.filterMap_eq_nil_iff.mpr fun e he => ?_
  cases e
  case Authorized => cases h _ he
  all_goals rfl

namespace UniswapXAquaFiller

section Invariant

variable (keccak256 : Bytes → B256) (recover : B256 → Bytes → Option Address)
variable (cfg : UniswapXConfig)

/-- The log accounts for the signer and for every spent nonce, and each
    authorization in it was signed and unspent when it was accepted. -/
structure Tracked (initial : Address) (w : UniswapXState) : Prop where
  signer : w.filler.policy.policySigner = signer_after initial w.log
  spent : ∀ nonce, w.filler.policy.isNonceUsed nonce = true ↔ ∃ e ∈ w.log, e.spends nonce
  unspent : Run.Justified Unspent w.log
  accepted : Run.Justified
    (Accepted recover (Policy._authorizationDigest keccak256 cfg.toPolicyConfig) initial) w.log

/-- What the reactor in flight was given. -/
def inflight (w : UniswapXState) : Option CallbackData :=
  w.data.bind CallbackData.abi_decode

/-- What the callback in flight accepts. -/
def inflight_runs (w : UniswapXState) : Option (ExecutionKind × B256) :=
  (inflight w).map fun c => (.UserFill, c.contextHash)

/-- The callback in flight may approve the token to the reactor. -/
def Granted (w : UniswapXState) (token : Address) : Prop :=
  ∃ c, inflight w = some c ∧ ∃ source ∈ c.sources, source.authorization.tokenOut = token

/-- The lock is held, for the reactor or for nobody. -/
structure Locked (w : UniswapXState) : Prop where
  entered : w.filler.entered = true
  inFlight : w.filler._reactorInFlight = cfg.REACTOR ∨ w.filler._reactorInFlight = 0

/-- `es` is what happened between two states of a call. -/
structure Inside (runs : Option (ExecutionKind × B256)) (es : List UniswapXEvent)
    (w w' : UniswapXState) : Prop where
  entered : w'.filler.entered = w.filler.entered
  inFlight : w'.filler._reactorInFlight = w.filler._reactorInFlight
  data : w'.data = w.data
  log : w'.log = w.log ++ es
  runs : ∀ e ∈ es, e.Runs runs
  allowance : ∀ token spender, (spender = cfg.REACTOR ∧ Granted w token) ∨
    w'.tokens.allowance token cfg.this spender ≤ w.tokens.allowance token cfg.this spender
  tracked : ∀ {initial}, Tracked keccak256 recover cfg initial w →
    Tracked keccak256 recover cfg initial w'

/-- Between two states, one swap was run for each authorization accepted. -/
def Nested (runs : Option (ExecutionKind × B256)) (w w' : UniswapXState) : Prop :=
  ∃ es, executions es = authorizations es ∧ Inside keccak256 recover cfg runs es w w'

/-- Who may enter a filler that is locked. -/
def Admitted (w : UniswapXState) (caller : Address) : UniswapXCall → Prop
  | .reactorCallback _ data =>
    (caller ≠ 0 ∧ caller ≠ cfg.REACTOR) ∨ (caller = cfg.REACTOR ∧ w.data = some data)
  | _ => True

/-- Whatever enters a locked filler is nested. -/
def Contained
    (enter : UniswapXState → Address → UniswapXCall → Except UniswapXError UniswapXState) : Prop :=
  ∀ {w caller call w'}, Locked cfg w → Admitted cfg w caller call →
    enter w caller call = .ok w' → Nested keccak256 recover cfg (inflight_runs w) w w'

end Invariant

variable {keccak256 : Bytes → B256} {recover : B256 → Bytes → Option Address}
variable {cfg : UniswapXConfig} {o : Outside cfg} {w w' w'' : UniswapXState}
variable {runs : Option (ExecutionKind × B256)} {es es' : List UniswapXEvent}

/-! ## What the log accounts for -/

/-- Nothing the log speaks of has changed. -/
theorem Tracked.same {initial : Address} (h : Tracked keccak256 recover cfg initial w)
    (hlog : w'.log = w.log) (hpolicy : w'.filler.policy.policySigner = w.filler.policy.policySigner)
    (hnonces : w'.filler.policy._nonceBitmap = w.filler.policy._nonceBitmap) :
    Tracked keccak256 recover cfg initial w' where
  signer := by rw [hlog, hpolicy, h.signer]
  spent := by
    intro nonce
    rw [hlog, ← h.spent, Policy.isNonceUsed, Policy.isNonceUsed, hnonces]
  unspent := hlog ▸ h.unspent
  accepted := hlog ▸ h.accepted

/-- **Step lemma.** One more event. -/
theorem Tracked.emit {initial : Address} {e : UniswapXEvent}
    (h : Tracked keccak256 recover cfg initial w) (hlog : w'.log = w.log ++ [e])
    (hsigner : w'.filler.policy.policySigner = e.signer w.filler.policy.policySigner)
    (hspent : ∀ nonce, w'.filler.policy.isNonceUsed nonce = true ↔
      w.filler.policy.isNonceUsed nonce = true ∨ e.spends nonce)
    (hunspent : Unspent w.log e)
    (haccepted : Accepted recover (Policy._authorizationDigest keccak256 cfg.toPolicyConfig)
      initial w.log e) :
    Tracked keccak256 recover cfg initial w' where
  signer := by
    rw [hlog, hsigner, signer_after, List.foldl_append, h.signer]
    rfl
  spent := by
    intro nonce
    rw [hlog, hspent, h.spent]
    simp [or_and_right, exists_or]
  unspent := hlog ▸ Run.justified_concat h.unspent hunspent
  accepted := hlog ▸ Run.justified_concat h.accepted haccepted

/-! ## The rules of `Inside` -/

theorem Inside.inflight_eq (h : Inside keccak256 recover cfg runs es w w') :
    inflight w' = inflight w := by
  rw [inflight, inflight, h.data]

theorem Inside.granted {token : Address} (h : Inside keccak256 recover cfg runs es w w') :
    Granted w' token ↔ Granted w token := by
  rw [Granted, Granted, h.inflight_eq]

theorem Inside.locked (h : Inside keccak256 recover cfg runs es w w') (hw : Locked cfg w) :
    Locked cfg w' :=
  ⟨h.entered.trans hw.entered, h.inFlight.symm ▸ hw.inFlight⟩

theorem Inside.inflight_runs_eq (h : Inside keccak256 recover cfg runs es w w') :
    inflight_runs w' = inflight_runs w := by
  rw [inflight_runs, inflight_runs, h.inflight_eq]

/-- The filler and its log are as they were, and no allowance grew. -/
theorem Inside.of_same (hfiller : w'.filler = w.filler) (hdata : w'.data = w.data)
    (hlog : w'.log = w.log)
    (hallowance : ∀ token spender, (spender = cfg.REACTOR ∧ Granted w token) ∨
      w'.tokens.allowance token cfg.this spender ≤ w.tokens.allowance token cfg.this spender) :
    Inside keccak256 recover cfg runs [] w w' where
  entered := by rw [hfiller]
  inFlight := by rw [hfiller]
  data := hdata
  log := by rw [hlog, List.append_nil]
  runs := nofun
  allowance := hallowance
  tracked := fun h => h.same hlog (by rw [hfiller]) (by rw [hfiller])

/-- **Composition rule.** -/
theorem Inside.trans (h : Inside keccak256 recover cfg runs es w w')
    (h' : Inside keccak256 recover cfg runs es' w' w'') :
    Inside keccak256 recover cfg runs (es ++ es') w w'' where
  entered := h'.entered.trans h.entered
  inFlight := h'.inFlight.trans h.inFlight
  data := h'.data.trans h.data
  log := by rw [h'.log, h.log, List.append_assoc]
  runs := List.forall_mem_append.mpr ⟨h.runs, h'.runs⟩
  allowance := by
    intro token spender
    rcases h'.allowance token spender with ⟨hspender, hgranted⟩ | hle'
    · exact .inl ⟨hspender, h.granted.mp hgranted⟩
    · exact (h.allowance token spender).imp_right hle'.trans
  tracked := fun hw => h'.tracked (h.tracked hw)

/-- What accepts nothing is part of every path. -/
theorem Inside.of_none (h : Inside keccak256 recover cfg none es w w') :
    Inside keccak256 recover cfg runs es w w' :=
  { h with runs := fun e he => (h.runs e he).of_none }

theorem Inside.nested (h : Inside keccak256 recover cfg runs [] w w') :
    Nested keccak256 recover cfg runs w w' :=
  ⟨[], rfl, h⟩

theorem Nested.refl : Nested keccak256 recover cfg runs w w :=
  (Inside.of_same rfl rfl rfl fun _ _ => .inr le_rfl).nested

theorem Nested.trans (h : Nested keccak256 recover cfg runs w w')
    (h' : Nested keccak256 recover cfg runs w' w'') : Nested keccak256 recover cfg runs w w'' := by
  obtain ⟨es, hbalanced, h⟩ := h
  obtain ⟨es', hbalanced', h'⟩ := h'
  exact ⟨es ++ es', by simp [hbalanced, hbalanced'], h.trans h'⟩

theorem Nested.locked (h : Nested keccak256 recover cfg runs w w') (hw : Locked cfg w) :
    Locked cfg w' := by
  obtain ⟨es, -, h⟩ := h
  exact h.locked hw

/-! ## Calls that leave the contract -/

section Outside

variable {enter : UniswapXState → Address → UniswapXCall → Except UniswapXError UniswapXState}

/-- Whatever happens without the contract, it does not write the filler. -/
theorem drift_nested (d : Drift) : Nested keccak256 recover cfg runs w (drift cfg w d) := by
  cases d with
  | balance token account value =>
    exact Inside.nested (Inside.of_same rfl rfl rfl fun _ _ => .inr le_rfl)
  | spend token spender left =>
    refine Inside.nested (Inside.of_same rfl rfl rfl ?_)
    intro token' spender'
    right
    show (w.tokens.set_allowance _ _ _ _).allowance _ _ _ ≤ _
    by_cases hsame : token' = token ∧ cfg.this = cfg.this ∧ spender' = spender
    · obtain ⟨rfl, -, rfl⟩ := hsame
      rw [Bank.set_allowance_self]
      exact min_le_right _ _
    · rw [Bank.set_allowance_ne hsame]
  | rest value => exact Inside.nested (Inside.of_same rfl rfl rfl fun _ _ => .inr le_rfl)

/-- **Step lemma.** -/
theorem outside_step_nested (henter : Contained keccak256 recover cfg enter) (hw : Locked cfg w)
    {step : OutsideStep}
    (hstrange : ∀ {caller orders data}, step = .enter caller (.reactorCallback orders data) →
      caller ≠ 0 ∧ caller ≠ cfg.REACTOR) :
    Nested keccak256 recover cfg (inflight_runs w) w (outside_step cfg enter w step) := by
  cases step with
  | enter caller call =>
    show Nested keccak256 recover cfg _ w (attempt (fun w => enter w caller call) w)
    refine attempt_keeps Nested.refl ?_
    intro w' hok
    refine henter hw ?_ hok
    cases call
    case reactorCallback orders data => exact .inl (hstrange rfl)
    all_goals trivial
  | callback orders =>
    unfold outside_step
    dsimp only
    split
    · rename_i data hdata
      refine attempt_keeps Nested.refl ?_
      intro w' hok
      have hadmitted : Admitted cfg w cfg.REACTOR (.reactorCallback orders data) :=
        .inr ⟨rfl, hdata⟩
      exact henter hw hadmitted hok
    · exact .refl
  | drift d => exact drift_nested d

/-- **Run lemma.** -/
theorem outside_steps_nested (henter : Contained keccak256 recover cfg enter) (hw : Locked cfg w)
    {steps : List OutsideStep}
    (hstrange : ∀ {caller orders data}, .enter caller (.reactorCallback orders data) ∈ steps →
      caller ≠ 0 ∧ caller ≠ cfg.REACTOR) :
    Nested keccak256 recover cfg (inflight_runs w) w (steps.foldl (outside_step cfg enter) w) := by
  induction steps generalizing w with
  | nil => exact .refl
  | cons step steps ih =>
    have hfirst : ∀ {caller orders data}, step = .enter caller (.reactorCallback orders data) →
        caller ≠ 0 ∧ caller ≠ cfg.REACTOR := by
      rintro caller orders data rfl
      exact hstrange List.mem_cons_self
    have hstep := outside_step_nested henter hw hfirst
    have hrest := ih (hstep.locked hw) fun hmem => hstrange (List.mem_cons_of_mem _ hmem)
    obtain ⟨es, hbalanced, hinside⟩ := hstep
    rw [hinside.inflight_runs_eq] at hrest
    exact Nested.trans ⟨es, hbalanced, hinside⟩ hrest

theorem outside_nested (henter : Contained keccak256 recover cfg enter) {site : Site}
    (hw : Locked cfg w) (h : outside cfg o enter w site = .ok w') :
    Nested keccak256 recover cfg (inflight_runs w) w w' := by
  obtain ⟨steps, hsteps, h⟩ := expect_bind.mp h
  obtain rfl := Except.ok.inj h
  exact outside_steps_nested henter hw (o.strangers hsteps)

/-! ## The paths -/

theorem forceApprove_ok {token spender : Address} {value : U256}
    (h : forceApprove cfg o w token spender value = .ok w') :
    ∃ tokens, w' = { w with tokens } ∧ tokens.allowance token cfg.this spender = value ∧
      ∀ token' spender', ¬(token' = token ∧ spender' = spender) →
        tokens.allowance token' cfg.this spender' = w.tokens.allowance token' cfg.this spender' := by
  obtain ⟨tokens, htokens, h⟩ := bubble_bind.mp h
  obtain rfl := Except.ok.inj h
  obtain ⟨-, hself, hothers⟩ := Bank.force_approve_ok htokens
  exact ⟨tokens, rfl, hself, fun token' spender' hne =>
    hothers token' cfg.this spender' fun heq => hne ⟨heq.1, heq.2.2⟩⟩

/-- An authorization is accepted. -/
theorem authorize_inside {path : ExecutionKind} {context : B256} {order : SwapOrder}
    {a : Authorization} {signature : Bytes} (hkind : a.kind = path)
    (hcontext : a.contextHash = context)
    (h : _authorize keccak256 recover cfg o w path context order a signature = .ok w') :
    Inside keccak256 recover cfg (some (path, context))
      [.Authorized path context a signature w.filler.policy.policySigner] w w' := by
  obtain ⟨policy, hpolicy, h⟩ := bubble_bind.mp h
  obtain rfl := Except.ok.inj h
  obtain ⟨⟨-, -, -, hsignature, hfresh⟩, rfl⟩ := Policy.authorize_eq_ok.mp hpolicy
  refine ⟨rfl, rfl, rfl, rfl, ?_, fun _ _ => .inr le_rfl, ?_⟩
  · intro e he
    obtain rfl := List.mem_singleton.mp he
    rfl
  intro initial hw
  obtain ⟨recovered, hrecovered, hsigner⟩ := expect_bind.mp hsignature
  obtain rfl := require_eq_ok.mp hsigner
  refine hw.emit rfl rfl (fun nonce => Bitmap.is_set_mark) ?_ ⟨hkind, hcontext, hw.signer, hrecovered⟩
  intro e he hspends
  have hused := (hw.spent a.nonce).mpr ⟨e, he, hspends⟩
  rw [hfresh] at hused
  cases hused

/-- A swap under an allowance that is taken back. -/
theorem swapped_inside (henter : Contained keccak256 recover cfg enter) (hw : Locked cfg w)
    {order : SwapOrder} {a : Authorization} {strict : Bool} {w₁ w₂ : UniswapXState}
    (hgrant : forceApprove cfg o w a.tokenIn cfg.ROUTER a.amountInLimit = .ok w₁)
    (hswap : swap cfg o enter w₁ order a strict = .ok w₂)
    (hrevoke : forceApprove cfg o w₂ a.tokenIn cfg.ROUTER 0 = .ok w') :
    ∃ es, executions es = authorizations es ∧
      Inside keccak256 recover cfg (inflight_runs w) (.Swap a :: es) w w' := by
  obtain ⟨tokens₁, rfl, -, hothers₁⟩ := forceApprove_ok hgrant
  obtain ⟨tokens₂, rfl, hzero, hothers₂⟩ := forceApprove_ok hrevoke
  have hlocked : Locked cfg (UniswapXState.emit { w with tokens := tokens₁ } (.Swap a)) :=
    ⟨hw.entered, hw.inFlight⟩
  obtain ⟨es, hbalanced, hinside⟩ := outside_nested henter hlocked hswap
  refine ⟨es, hbalanced, hinside.entered, hinside.inFlight, hinside.data, ?_, ?_, ?_, ?_⟩
  · exact hinside.log.trans (List.append_assoc w.log [.Swap a] es)
  · exact List.forall_mem_cons.mpr ⟨trivial, hinside.runs⟩
  · intro token spender
    by_cases hspent : token = a.tokenIn ∧ spender = cfg.ROUTER
    · obtain ⟨rfl, rfl⟩ := hspent
      right
      show tokens₂.allowance _ _ _ ≤ _
      rw [hzero]
      exact Fin.zero_le _
    · show _ ∨ tokens₂.allowance token cfg.this spender ≤ _
      rw [hothers₂ token spender hspent, ← hothers₁ token spender hspent]
      exact hinside.allowance token spender
  · intro initial htracked
    have hemitted : Tracked keccak256 recover cfg initial
        (UniswapXState.emit { w with tokens := tokens₁ } (.Swap a)) :=
      htracked.emit rfl rfl (fun nonce => (or_iff_left (by exact id)).symm) trivial trivial
    exact (hinside.tracked hemitted).same rfl rfl rfl

/-- **Step lemma.** One source of a plan. -/
theorem executeUserSource_nested (henter : Contained keccak256 recover cfg enter)
    (hw : Locked cfg w) {c : CallbackData} (hc : inflight w = some c) {source : SourceSwap}
    (h : _executeUserSource keccak256 recover cfg o enter w c.contextHash source = .ok w') :
    Nested keccak256 recover cfg (inflight_runs w) w w' := by
  obtain ⟨hkind, h⟩ := check_bind.mp h
  obtain ⟨hcontext, h⟩ := require_bind.mp h
  obtain ⟨-, h⟩ := require_bind.mp h
  obtain ⟨w₁, hauthorized, h⟩ := bind_eq_ok.mp h
  obtain ⟨w₂, hgrant, h⟩ := bind_eq_ok.mp h
  obtain ⟨w₃, hswap, hrevoke⟩ := bind_eq_ok.mp h
  have hruns : inflight_runs w = some (.UserFill, c.contextHash) := by
    rw [inflight_runs, hc]
    rfl
  have haccepts := authorize_inside (require_eq_ok.mp hkind) hcontext hauthorized
  obtain ⟨es, hbalanced, hswaps⟩ := swapped_inside henter (haccepts.locked hw) hgrant hswap hrevoke
  rw [haccepts.inflight_runs_eq, hruns] at hswaps
  rw [hruns]
  refine ⟨_, ?_, haccepts.trans hswaps⟩
  simp [hbalanced]

/-- **Run lemma.** -/
theorem execute_sources_nested (henter : Contained keccak256 recover cfg enter)
    (hw : Locked cfg w) {c : CallbackData} (hc : inflight w = some c) {sources : List SourceSwap}
    (h : execute_sources keccak256 recover cfg o enter c.contextHash w sources = .ok w') :
    Nested keccak256 recover cfg (inflight_runs w) w w' := by
  induction sources generalizing w with
  | nil =>
    obtain rfl := Except.ok.inj h
    exact .refl
  | cons source sources ih =>
    obtain ⟨w₁, hsource, hrest⟩ := bind_eq_ok.mp h
    obtain ⟨es, hbalanced, hinside⟩ := executeUserSource_nested henter hw hc hsource
    have hlater := ih (hinside.locked hw) (hinside.inflight_eq.trans hc) hrest
    rw [hinside.inflight_runs_eq] at hlater
    exact Nested.trans ⟨es, hbalanced, hinside⟩ hlater

end Outside

end UniswapXAquaFiller

end Solvent.Contracts
