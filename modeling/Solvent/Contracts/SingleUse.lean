import Solvent.Contracts.Reentered

/-! # Authorizations of the UniswapX filler are used once

    Over every run of the filler, whatever surrounds it: a nonce is executed at
    most once and never after it was invalidated, every swap runs for one accepted
    authorization of its own kind, context and signer, a callback approves exactly
    what the orders ask for, and no call leaves an allowance behind.
-/

namespace Solvent.Contracts

open Abi Contract

namespace UniswapXAquaFiller

variable {keccak256 : Bytes → B256} {recover : B256 → Bytes → Option Address}
variable {cfg : UniswapXConfig} {o : Outside cfg} {w w' : UniswapXState}
variable {runs : Option (ExecutionKind × B256)}

/-! ## Approvals -/

/-- What the sources of a plan bring in, token by token. -/
def source_entries (sources : List SourceSwap) : List (Address × U256) :=
  sources.map fun source => (source.authorization.tokenOut, source.authorization.amountOut)

theorem sourcedAmount_eq {sources : List SourceSwap} {token : Address} {amount total : U256}
    (h : _sourcedAmount sources token amount = some total) :
    total.val = amount.val + Tally.total token (source_entries sources) := by
  induction sources generalizing amount with
  | nil =>
    obtain rfl := Option.some.inj h
    rfl
  | cons source sources ih =>
    have htotal : Tally.total token (source_entries (source :: sources)) =
        (if source.authorization.tokenOut = token then source.authorization.amountOut.val else 0) +
          Tally.total token (source_entries sources) := by
      simp [Tally.total, source_entries]
    rw [htotal]
    unfold _sourcedAmount at h
    split at h
    · rename_i htoken
      obtain ⟨more, hmore, h⟩ := Option.bind_eq_some_iff.mp h
      rw [ih h, ← U256.checked_add_eq_some.mp hmore, if_pos htoken]
      omega
    · rename_i htoken
      rw [ih h, if_neg htoken]
      omega

/-- What is sourced for a token is sourced by a leg. -/
theorem exists_source_of_total {sources : List SourceSwap} {token : Address}
    (h : Tally.total token (source_entries sources) ≠ 0) :
    ∃ source ∈ sources, source.authorization.tokenOut = token := by
  by_contra hnone
  refine h (Tally.total_eq_zero ?_)
  rw [source_entries, List.map_map]
  intro hmem
  obtain ⟨source, hsource, htoken⟩ := List.mem_map.mp hmem
  exact hnone ⟨source, hsource, htoken⟩

/-- A sum is approved to the reactor as it is, and is covered by the sources. -/
structure Covered (cfg : UniswapXConfig) (sources : List SourceSwap) (reactor_ : Address)
    (tokens : Bank Address Address) (token : Address) (amount : ℕ) : Prop where
  allowance : (tokens.allowance token cfg.this reactor_).val = amount
  sourced : amount ≤ Tally.total token (source_entries sources)
  brought : ∃ source ∈ sources, source.authorization.tokenOut = token

/-- **Run lemma.** The sums are approved one after another, each to its own token. -/
theorem approve_sums_ok {sources : List SourceSwap} {reactor_ : Address}
    {sums : List (Address × U256)} (hnodup : (sums.map Prod.fst).Nodup)
    (h : approve_sums cfg o sources reactor_ w sums = .ok w') :
    ∃ tokens, w' = { w with tokens } ∧
      (∀ p ∈ sums, Covered cfg sources reactor_ tokens p.1 p.2.val) ∧
      ∀ token spender, ¬(token ∈ sums.map Prod.fst ∧ spender = reactor_) →
        tokens.allowance token cfg.this spender = w.tokens.allowance token cfg.this spender := by
  induction sums generalizing w with
  | nil =>
    obtain rfl := Except.ok.inj h
    exact ⟨w.tokens, rfl, nofun, fun _ _ _ => rfl⟩
  | cons p sums ih =>
    obtain ⟨token, amount⟩ := p
    obtain ⟨hnew, hnodup⟩ := List.nodup_cons.mp hnodup
    obtain ⟨sourced, hsourced, h⟩ := expect_bind.mp h
    obtain ⟨hsome, h⟩ := require_bind.mp h
    obtain ⟨hle, h⟩ := require_bind.mp h
    obtain ⟨w₁, happrove, h⟩ := bind_eq_ok.mp h
    obtain ⟨tokens₁, rfl, hself, hothers₁⟩ := forceApprove_ok happrove
    obtain ⟨tokens, rfl, hcovered, hothers⟩ := ih hnodup h
    have htotal := sourcedAmount_eq hsourced
    rw [Fin.val_zero, Nat.zero_add] at htotal
    refine ⟨tokens, rfl, ?_, ?_⟩
    · refine List.forall_mem_cons.mpr ⟨⟨?_, htotal ▸ hle, ?_⟩, hcovered⟩
      · -- No later sum is of this token.
        rw [hothers token reactor_ fun hmem => hnew hmem.1, hself]
      · exact exists_source_of_total fun hzero => hsome (Fin.ext (htotal.trans hzero))
    · intro token' spender hother
      rw [hothers token' spender fun hmem => hother ⟨List.mem_cons_of_mem _ hmem.1, hmem.2⟩]
      refine hothers₁ token' spender ?_
      rintro ⟨rfl, rfl⟩
      exact hother ⟨List.mem_cons_self, rfl⟩

/-- **Spec of `_approveOutputs`.** -/
theorem approveOutputs_ok {orders : List ResolvedOrder} {sources : List SourceSwap}
    {reactor_ : Address} (h : _approveOutputs cfg o w orders sources reactor_ = .ok w') :
    ∃ tokens, w' = { w with tokens } ∧
      (∀ token ∈ (output_entries orders).map Prod.fst, Covered cfg sources reactor_ tokens token
        (Tally.total token (output_entries orders))) ∧
      ∀ token spender, ¬((∃ source ∈ sources, source.authorization.tokenOut = token) ∧
          spender = reactor_) →
        tokens.allowance token cfg.this spender = w.tokens.allowance token cfg.this spender := by
  obtain ⟨sums, hsums, h⟩ := expect_bind.mp h
  have htallies := Tally.tallies_nil.collect hsums
  rw [List.nil_append] at htallies
  obtain ⟨tokens, rfl, hcovered, hothers⟩ := approve_sums_ok htallies.nodup h
  refine ⟨tokens, rfl, ?_, ?_⟩
  · intro token htoken
    obtain ⟨p, hp, rfl⟩ := List.mem_map.mp ((htallies.keys token).mpr htoken)
    rw [← htallies.exact p hp]
    exact hcovered p hp
  · intro token spender hother
    refine hothers token spender ?_
    rintro ⟨hmem, hspender⟩
    obtain ⟨p, hp, rfl⟩ := List.mem_map.mp hmem
    exact hother ⟨(hcovered p hp).brought, hspender⟩

/-- Every allowance of the reactor's tokens is taken back. -/
theorem clearReactorAllowances_ok {sources : List SourceSwap}
    (h : _clearReactorAllowances cfg o w sources = .ok w') :
    ∃ tokens, w' = { w with tokens } ∧
      (∀ source ∈ sources,
        tokens.allowance source.authorization.tokenOut cfg.this cfg.REACTOR = 0) ∧
      ∀ token spender, (tokens.allowance token cfg.this spender = 0 ∧ spender = cfg.REACTOR) ∨
        tokens.allowance token cfg.this spender = w.tokens.allowance token cfg.this spender := by
  induction sources generalizing w with
  | nil =>
    obtain rfl := Except.ok.inj h
    exact ⟨w.tokens, rfl, nofun, fun _ _ => .inr rfl⟩
  | cons source sources ih =>
    obtain ⟨w₁, happrove, h⟩ := bind_eq_ok.mp h
    obtain ⟨tokens₁, rfl, hzero, hothers₁⟩ := forceApprove_ok happrove
    obtain ⟨tokens, rfl, hcleared, hothers⟩ := ih h
    refine ⟨tokens, rfl, List.forall_mem_cons.mpr ⟨?_, hcleared⟩, ?_⟩
    · rcases hothers source.authorization.tokenOut cfg.REACTOR with ⟨hnow, -⟩ | hkept
      · exact hnow
      · exact hkept.trans hzero
    · intro token spender
      rcases hothers token spender with hnow | hkept
      · exact .inl hnow
      by_cases hsame : token = source.authorization.tokenOut ∧ spender = cfg.REACTOR
      · obtain ⟨rfl, rfl⟩ := hsame
        exact .inl ⟨hkept.trans hzero, rfl⟩
      · exact .inr (hkept.trans (hothers₁ token spender hsame))

section Entry

variable {enter : UniswapXState → Address → UniswapXCall → Except UniswapXError UniswapXState}

/-! ## What may be entered under the lock -/

/-- The callback of the order in flight. -/
theorem reactorCallback_nested (henter : Contained keccak256 recover cfg enter)
    (hw : Locked cfg w) {caller : Address} {orders : List ResolvedOrder} {data : Bytes}
    (hadmitted : Admitted cfg w caller (.reactorCallback orders data))
    (h : reactorCallback keccak256 recover cfg o enter w caller orders data = .ok w') :
    Nested keccak256 recover cfg (inflight_runs w) w w' := by
  obtain ⟨hcaller, h⟩ := require_bind.mp h
  obtain ⟨c, hdecoded, h⟩ := expect_bind.mp h
  obtain ⟨w₁, hsources, h⟩ := bind_eq_ok.mp h
  -- A stranger is neither the reactor in flight nor nobody.
  obtain ⟨rfl, hdata⟩ : caller = cfg.REACTOR ∧ w.data = some data := by
    rcases hadmitted with ⟨hzero, hreactor⟩ | hreactor
    · rcases hw.inFlight with hflight | hflight
      · exact absurd (hcaller.trans hflight) hreactor
      · exact absurd (hcaller.trans hflight) hzero
    · exact hreactor
  have hc : inflight w = some c := by rw [inflight, hdata, Option.bind_some, hdecoded]
  obtain ⟨es, hbalanced, hinside⟩ := execute_sources_nested henter hw hc hsources
  obtain ⟨tokens, rfl, -, hothers⟩ := approveOutputs_ok h
  refine Nested.trans ⟨es, hbalanced, hinside⟩ (Inside.nested ?_)
  refine Inside.of_same rfl rfl rfl ?_
  intro token spender
  by_cases hgranted : (∃ source ∈ c.sources, source.authorization.tokenOut = token) ∧
      spender = cfg.REACTOR
  · obtain ⟨⟨source, hsource, htoken⟩, hspender⟩ := hgranted
    exact .inl ⟨hspender, c, hinside.inflight_eq.trans hc, source, hsource, htoken⟩
  · exact .inr (hothers token spender hgranted).le

/-- The owner's switches. -/
def Switches : UniswapXCall → Prop
  | .setPolicySigner _ | .setTokenAllowed _ _ | .invalidateNonces _ _ | .pause | .unpause => True
  | _ => False

theorem Switches.runs_eq {call : UniswapXCall} (h : Switches call) : call.runs keccak256 = none := by
  cases call
  case fill | fillBatch | executeRebate | reactorCallback | sweep => exact h.elim
  all_goals rfl

/-- The owner's switches accept no authorization, locked or not. -/
theorem switch_nested {fuel : ℕ} {caller : Address} {call : UniswapXCall} (hcall : Switches call)
    (h : run_call keccak256 recover cfg o (fuel + 1) w caller call = .ok w') :
    Nested keccak256 recover cfg runs w w' := by
  have hsame : ∀ token spender, (spender = cfg.REACTOR ∧ Granted w token) ∨
      w.tokens.allowance token cfg.this spender ≤ w.tokens.allowance token cfg.this spender :=
    fun _ _ => .inr le_rfl
  cases call with
  | setPolicySigner newSigner =>
    obtain ⟨-, h⟩ := check_bind.mp h
    obtain ⟨-, h⟩ := require_bind.mp h
    obtain rfl := Except.ok.inj h
    refine ⟨[.PolicySignerUpdated w.filler.policy.policySigner newSigner], rfl, rfl, rfl, rfl, rfl,
      by simp [UniswapXEvent.Runs], hsame, ?_⟩
    intro initial hw
    exact hw.emit rfl rfl (fun nonce => (or_iff_left (by exact id)).symm) trivial trivial
  | setTokenAllowed token allowed =>
    obtain ⟨-, h⟩ := check_bind.mp h
    obtain ⟨-, h⟩ := require_bind.mp h
    obtain rfl := Except.ok.inj h
    exact ⟨[], rfl, rfl, rfl, rfl, (List.append_nil _).symm, nofun, hsame,
      fun hw => hw.same rfl rfl rfl⟩
  | invalidateNonces word mask =>
    obtain ⟨-, h⟩ := check_bind.mp h
    obtain rfl := Except.ok.inj h
    refine ⟨[.NoncesInvalidated word mask], rfl, rfl, rfl, rfl, rfl,
      by simp [UniswapXEvent.Runs], hsame, ?_⟩
    intro initial hw
    exact hw.emit rfl rfl (fun nonce => Bitmap.is_set_set_word) trivial trivial
  | pause =>
    obtain ⟨-, h⟩ := check_bind.mp h
    obtain ⟨-, h⟩ := require_bind.mp h
    obtain rfl := Except.ok.inj h
    exact ⟨[], rfl, rfl, rfl, rfl, (List.append_nil _).symm, nofun, hsame,
      fun hw => hw.same rfl rfl rfl⟩
  | unpause =>
    obtain ⟨-, h⟩ := check_bind.mp h
    obtain ⟨-, h⟩ := require_bind.mp h
    obtain rfl := Except.ok.inj h
    exact ⟨[], rfl, rfl, rfl, rfl, (List.append_nil _).symm, nofun, hsame,
      fun hw => hw.same rfl rfl rfl⟩
  | fill | fillBatch | executeRebate | reactorCallback | sweep => exact hcall.elim

theorem guard_unlocked (h : guard w = .ok ()) : w.filler.entered = false := by
  obtain ⟨-, h⟩ := require_bind.mp h
  exact require_eq_ok.mp h

/-- **Every call is contained**, however deep it is nested: what takes the lock does
    not enter, and what does not take it is nested. The induction is on the depth. -/
theorem run_call_contained (fuel : ℕ) :
    Contained keccak256 recover cfg (run_call keccak256 recover cfg o fuel) := by
  induction fuel with
  | zero => exact fun _ _ h => nomatch h
  | succ fuel ih =>
    intro w caller call w' hw hadmitted h
    have hlocked : ¬w.filler.entered = false := by simp [hw.entered]
    by_cases hswitch : Switches call
    · exact switch_nested hswitch h
    cases call with
    | fill order sources =>
      obtain ⟨-, h⟩ := check_bind.mp h
      exact absurd (guard_unlocked (check_bind.mp h).1) hlocked
    | fillBatch orders sources =>
      obtain ⟨-, h⟩ := check_bind.mp h
      exact absurd (guard_unlocked (check_bind.mp h).1) hlocked
    | executeRebate order a signature =>
      exact absurd (guard_unlocked (check_bind.mp h).1) hlocked
    | sweep token dst =>
      obtain ⟨-, h⟩ := check_bind.mp h
      exact absurd (require_bind.mp h).1 hlocked
    | reactorCallback orders data => exact reactorCallback_nested ih hw hadmitted h
    | setPolicySigner | setTokenAllowed | invalidateNonces | pause | unpause =>
      exact absurd trivial hswitch

end Entry

/-! ## Whole calls -/

/-- Nothing is in flight and no allowance is left. -/
structure Quiet (cfg : UniswapXConfig) (w : UniswapXState) : Prop where
  inFlight : w.filler._reactorInFlight = 0
  data : w.data = none
  allowance : ∀ token, w.tokens.allowance token cfg.this cfg.ROUTER = 0 ∧
    w.tokens.allowance token cfg.this cfg.REACTOR = 0

/-- Between calls. -/
structure Idle (cfg : UniswapXConfig) (w : UniswapXState) : Prop extends Quiet cfg w where
  entered : w.filler.entered = false

/-- What a call that succeeds has done. -/
structure Completed (keccak256 : Bytes → B256) (recover : B256 → Bytes → Option Address)
    (cfg : UniswapXConfig) (runs : Option (ExecutionKind × B256)) (w w' : UniswapXState) :
    Prop where
  idle : Idle cfg w'
  log : ∃ es, w'.log = w.log ++ es ∧ executions es = authorizations es ∧ ∀ e ∈ es, e.Runs runs
  tracked : ∀ {initial}, Tracked keccak256 recover cfg initial w →
    Tracked keccak256 recover cfg initial w'

theorem Quiet.inflight_eq (h : Quiet cfg w) : inflight w = none := by
  rw [inflight, h.data]
  rfl

theorem Quiet.inflight_runs_eq (h : Quiet cfg w) : inflight_runs w = none := by
  rw [inflight_runs, h.inflight_eq]
  rfl

/-- What is nested in a quiet state leaves it quiet. -/
theorem Inside.quiet {es : List UniswapXEvent} (h : Inside keccak256 recover cfg runs es w w')
    (hw : Quiet cfg w) : Quiet cfg w' where
  inFlight := h.inFlight.trans hw.inFlight
  data := h.data.trans hw.data
  allowance := by
    have hzero : ∀ token spender, w.tokens.allowance token cfg.this spender = 0 →
        w'.tokens.allowance token cfg.this spender = 0 := by
      intro token spender hbefore
      rcases h.allowance token spender with ⟨-, c, hc, -⟩ | hle
      · rw [hw.inflight_eq] at hc
        cases hc
      · exact Fin.le_zero_iff.mp (hbefore ▸ hle)
    intro token
    exact ⟨hzero _ _ (hw.allowance token).1, hzero _ _ (hw.allowance token).2⟩

/-- A call is what is nested in it, between taking the lock and giving it back. -/
theorem Nested.completed {w₁ w₂ : UniswapXState} (h : Nested keccak256 recover cfg runs w₁ w₂)
    (hopen : w₁.log = w.log ∧ w₁.filler.policy = w.filler.policy)
    (hclose : w'.log = w₂.log ∧ w'.filler.policy = w₂.filler.policy) (hidle : Idle cfg w') :
    Completed keccak256 recover cfg runs w w' where
  idle := hidle
  log := by
    obtain ⟨es, hbalanced, hinside⟩ := h
    exact ⟨es, by rw [hclose.1, hinside.log, hopen.1], hbalanced, hinside.runs⟩
  tracked := by
    intro initial hw
    obtain ⟨es, -, hinside⟩ := h
    have hfirst := hw.same hopen.1 (by rw [hopen.2]) (by rw [hopen.2])
    exact (hinside.tracked hfirst).same hclose.1 (by rw [hclose.2]) (by rw [hclose.2])

section Calls

variable {enter : UniswapXState → Address → UniswapXCall → Except UniswapXError UniswapXState}

/-- `fill` and `fillBatch`. -/
theorem execute_completed (henter : Contained keccak256 recover cfg enter) (hw : Idle cfg w)
    {caller : Address} {orders : List SignedOrder} {contextHash : B256}
    {sources : List SourceSwap}
    (h : execute cfg o enter w caller orders contextHash sources = .ok w') :
    Completed keccak256 recover cfg (some (.UserFill, contextHash)) w w' := by
  obtain ⟨-, h⟩ := check_bind.mp h
  obtain ⟨-, h⟩ := check_bind.mp h
  obtain ⟨data, hdata, h⟩ := expect_bind.mp h
  obtain ⟨w₂, hexecuted, h⟩ := bind_eq_ok.mp h
  obtain ⟨w₃, hcleared, h⟩ := bind_eq_ok.mp h
  obtain ⟨-, h⟩ := check_bind.mp h
  obtain rfl := Except.ok.inj h
  obtain ⟨tokens, rfl, hzero, hothers⟩ := clearReactorAllowances_ok hcleared
  have hnested := outside_nested henter ⟨rfl, .inl rfl⟩ hexecuted
  -- The reactor is given what the callback decodes.
  have hinflight : inflight { w with
      filler := { w.filler with entered := true, _reactorInFlight := cfg.REACTOR }
      data := some data } = some { contextHash, sources } := CallbackData.decode_encode hdata
  rw [inflight_runs, hinflight] at hnested
  refine hnested.completed ⟨rfl, rfl⟩ ⟨rfl, rfl⟩ ⟨⟨rfl, rfl, ?_⟩, rfl⟩
  obtain ⟨es, -, hinside⟩ := hnested
  have hnone : ∀ token spender, w.tokens.allowance token cfg.this spender = 0 →
      tokens.allowance token cfg.this spender = 0 := by
    intro token spender hbefore
    rcases hothers token spender with ⟨hnow, -⟩ | hkept
    · exact hnow
    rcases hinside.allowance token spender with ⟨rfl, c, hc, source, hsource, rfl⟩ | hle
    · obtain rfl := Option.some.inj (hinflight.symm.trans hc)
      exact hzero source hsource
    · rw [hkept]
      exact Fin.le_zero_iff.mp (hbefore ▸ hle)
  intro token
  exact ⟨hnone _ _ (hw.allowance token).1, hnone _ _ (hw.allowance token).2⟩

theorem executeRebate_completed (henter : Contained keccak256 recover cfg enter)
    (hw : Idle cfg w) {caller : Address} {order : SwapOrder} {a : Authorization}
    {signature : Bytes}
    (h : executeRebate keccak256 recover cfg o enter w caller order a signature = .ok w') :
    Completed keccak256 recover cfg (some (.Rebate, a.contextHash)) w w' := by
  obtain ⟨-, h⟩ := check_bind.mp h
  obtain ⟨hkind, h⟩ := check_bind.mp h
  obtain ⟨-, h⟩ := require_bind.mp h
  obtain ⟨w₁, hauthorized, h⟩ := bind_eq_ok.mp h
  obtain ⟨deposit, -, h⟩ := expect_bind.mp h
  obtain ⟨w₂, hdeposited, h⟩ := bind_eq_ok.mp h
  obtain ⟨deposited, -, h⟩ := expect_bind.mp h
  obtain ⟨-, h⟩ := check_bind.mp h
  obtain ⟨w₃, hgrant, h⟩ := bind_eq_ok.mp h
  obtain ⟨w₄, hswap, h⟩ := bind_eq_ok.mp h
  obtain ⟨w₅, hrevoke, h⟩ := bind_eq_ok.mp h
  obtain ⟨w₆, hrebate, h⟩ := bind_eq_ok.mp h
  obtain ⟨w₇, hpaid, h⟩ := bind_eq_ok.mp h
  obtain ⟨-, h⟩ := check_bind.mp h
  obtain ⟨-, h⟩ := check_bind.mp h
  obtain ⟨paid, -, h⟩ := expect_bind.mp h
  obtain ⟨makerInput, -, h⟩ := expect_bind.mp h
  obtain ⟨-, h⟩ := check_bind.mp h
  obtain ⟨executorOutput, -, h⟩ := expect_bind.mp h
  obtain ⟨-, h⟩ := check_bind.mp h
  obtain rfl := Except.ok.inj h
  -- Nothing is in flight, so all that is nested accepts nothing.
  have hquiet : Quiet cfg { w with filler := { w.filler with entered := true } } :=
    ⟨hw.inFlight, hw.data, hw.allowance⟩
  have hlocked : Locked cfg { w with filler := { w.filler with entered := true } } :=
    ⟨rfl, .inr hw.inFlight⟩
  have h₁ := authorize_inside (require_eq_ok.mp hkind) rfl hauthorized
  have hquiet₁ := h₁.quiet hquiet
  obtain ⟨es₂, hbalanced₂, h₂⟩ := outside_nested henter (h₁.locked hlocked) hdeposited
  rw [hquiet₁.inflight_runs_eq] at h₂
  have hlocked₂ := h₂.locked (h₁.locked hlocked)
  have hquiet₂ := h₂.quiet hquiet₁
  obtain ⟨es₅, hbalanced₅, h₅⟩ := swapped_inside henter hlocked₂ hgrant hswap hrevoke
  rw [hquiet₂.inflight_runs_eq] at h₅
  have hlocked₅ := h₅.locked hlocked₂
  have hquiet₅ := h₅.quiet hquiet₂
  obtain ⟨es₆, hbalanced₆, h₆⟩ := outside_nested henter hlocked₅ hrebate
  rw [hquiet₅.inflight_runs_eq] at h₆
  have hquiet₆ := h₆.quiet hquiet₅
  obtain ⟨es₇, hbalanced₇, h₇⟩ := outside_nested henter (h₆.locked hlocked₅) hpaid
  rw [hquiet₆.inflight_runs_eq] at h₇
  have hnested : Nested keccak256 recover cfg (some (.Rebate, a.contextHash))
      { w with filler := { w.filler with entered := true } } w₇ := by
    refine ⟨_, ?_, h₁.trans (h₂.of_none.trans (h₅.of_none.trans (h₆.of_none.trans h₇.of_none)))⟩
    have hnone₂ := authorizations_of_none h₂.runs
    have hnone₅ := authorizations_of_none fun e he => h₅.runs e (List.mem_cons_of_mem _ he)
    have hnone₆ := authorizations_of_none h₆.runs
    have hnone₇ := authorizations_of_none h₇.runs
    simp [hbalanced₂, hbalanced₅, hbalanced₆, hbalanced₇, hnone₂, hnone₅, hnone₆, hnone₇]
  have hquiet₇ := h₇.quiet hquiet₆
  exact hnested.completed ⟨rfl, rfl⟩ ⟨rfl, rfl⟩
    ⟨⟨hquiet₇.inFlight, hquiet₇.data, hquiet₇.allowance⟩, rfl⟩

theorem sweep_completed (henter : Contained keccak256 recover cfg enter) (hw : Idle cfg w)
    {caller token dst : Address} (h : sweep cfg o enter w caller token dst = .ok w') :
    Completed keccak256 recover cfg none w w' := by
  obtain ⟨-, h⟩ := check_bind.mp h
  obtain ⟨-, h⟩ := require_bind.mp h
  obtain ⟨-, h⟩ := require_bind.mp h
  obtain ⟨w₂, hsent, h⟩ := bind_eq_ok.mp h
  obtain rfl := Except.ok.inj h
  have hquiet : Quiet cfg { w with filler := { w.filler with entered := true } } :=
    ⟨hw.inFlight, hw.data, hw.allowance⟩
  have hlocked : Locked cfg { w with filler := { w.filler with entered := true } } :=
    ⟨rfl, .inr hw.inFlight⟩
  have hnested := outside_nested henter hlocked hsent
  rw [hquiet.inflight_runs_eq] at hnested
  obtain ⟨es, hbalanced, hinside⟩ := hnested
  have hquiet' := hinside.quiet hquiet
  exact Nested.completed ⟨es, hbalanced, hinside⟩ ⟨rfl, rfl⟩ ⟨rfl, rfl⟩
    ⟨⟨hquiet'.inFlight, hquiet'.data, hquiet'.allowance⟩, rfl⟩

end Calls

/-- **Every whole call**, from a filler between calls. -/
theorem run_call_completed {fuel : ℕ} (hw : Idle cfg w) {caller : Address} {call : UniswapXCall}
    (hcaller : caller ≠ 0)
    (h : run_call keccak256 recover cfg o fuel w caller call = .ok w') :
    Completed keccak256 recover cfg (call.runs keccak256) w w' := by
  cases fuel with
  | zero => cases h
  | succ fuel =>
    have henter : Contained keccak256 recover cfg (run_call keccak256 recover cfg o fuel) :=
      run_call_contained fuel
    by_cases hswitch : Switches call
    · have hnested : Nested keccak256 recover cfg none w w' := switch_nested hswitch h
      obtain ⟨es, hbalanced, hinside⟩ := hnested
      rw [hswitch.runs_eq]
      exact Nested.completed ⟨es, hbalanced, hinside⟩ ⟨rfl, rfl⟩ ⟨rfl, rfl⟩
        ⟨hinside.quiet hw.toQuiet, hinside.entered.trans hw.entered⟩
    cases call with
    | fill order sources => exact execute_completed henter hw h
    | fillBatch orders sources => exact execute_completed henter hw h
    | executeRebate order a signature => exact executeRebate_completed henter hw h
    | sweep token dst => exact sweep_completed henter hw h
    | reactorCallback orders data =>
      exact absurd ((require_bind.mp h).1.trans hw.inFlight) hcaller
    | setPolicySigner | setTokenAllowed | invalidateNonces | pause | unpause =>
      exact absurd trivial hswitch

/-! ## Runs -/

/-- What happens next: a transaction, with what it meets outside, or anything else. -/
inductive Move (cfg : UniswapXConfig) where
  | transaction (o : Outside cfg) (depth : ℕ) (caller : Address) (call : UniswapXCall)
      (hcaller : caller ≠ 0)
  | drift (d : Drift)

/-- The filler after a move. -/
def move (keccak256 : Bytes → B256) (recover : B256 → Bytes → Option Address)
    (cfg : UniswapXConfig) (w : UniswapXState) : Move cfg → UniswapXState
  | .transaction o depth caller call _ =>
    attempt (fun w => run_call keccak256 recover cfg o depth w caller call) w
  | .drift d => drift cfg w d

/-- The filler as it is deployed. -/
structure Deployed (cfg : UniswapXConfig) (w : UniswapXState) : Prop extends Idle cfg w where
  nonces : ∀ nonce, w.filler.policy.isNonceUsed nonce = false
  log : w.log = []

/-- What holds between transactions. -/
structure Sound (keccak256 : Bytes → B256) (recover : B256 → Bytes → Option Address)
    (cfg : UniswapXConfig) (initial : Address) (w : UniswapXState) : Prop where
  idle : Idle cfg w
  tracked : Tracked keccak256 recover cfg initial w
  executed : executions w.log = authorizations w.log

theorem Deployed.sound (h : Deployed cfg w) :
    Sound keccak256 recover cfg w.filler.policy.policySigner w where
  idle := h.toIdle
  tracked :=
    { signer := by rw [h.log]; rfl
      spent := by simp [h.log, h.nonces]
      unspent := h.log ▸ Run.justified_nil _
      accepted := h.log ▸ Run.justified_nil _ }
  executed := by rw [h.log]; rfl

theorem Sound.of_completed {initial : Address} (hw : Sound keccak256 recover cfg initial w)
    (h : Completed keccak256 recover cfg runs w w') : Sound keccak256 recover cfg initial w' where
  idle := h.idle
  tracked := h.tracked hw.tracked
  executed := by
    obtain ⟨es, hlog, hbalanced, -⟩ := h.log
    rw [hlog, executions_append, authorizations_append, hw.executed, hbalanced]

/-- **Step lemma.** -/
theorem move_sound {initial : Address} (hw : Sound keccak256 recover cfg initial w)
    (m : Move cfg) : Sound keccak256 recover cfg initial (move keccak256 recover cfg w m) := by
  cases m with
  | transaction o depth caller call hcaller =>
    show Sound keccak256 recover cfg initial
      (attempt (fun w => run_call keccak256 recover cfg o depth w caller call) w)
    refine attempt_keeps hw ?_
    intro w' h
    exact hw.of_completed (run_call_completed hw.idle hcaller h)
  | drift d =>
    have hnested : Nested keccak256 recover cfg none w (drift cfg w d) := drift_nested d
    obtain ⟨es, hbalanced, hinside⟩ := hnested
    have hquiet := hinside.quiet hw.idle.toQuiet
    exact hw.of_completed (Nested.completed ⟨es, hbalanced, hinside⟩ ⟨rfl, rfl⟩ ⟨rfl, rfl⟩
      ⟨hquiet, hinside.entered.trans hw.idle.entered⟩)

/-- The nonces of a filler's life. -/
structure UsedOnce (keccak256 : Bytes → B256) (recover : B256 → Bytes → Option Address)
    (cfg : UniswapXConfig) (initial : Address) (w : UniswapXState) : Prop where
  /-- No nonce is executed twice, on whatever paths. -/
  once : ((executions w.log).map Authorization.nonce).Nodup
  /-- Nothing changes the status of a nonce but its execution or invalidation. -/
  status : ∀ nonce, w.filler.policy.isNonceUsed nonce = true ↔ ∃ e ∈ w.log, e.spends nonce
  /-- No nonce is executed after it was executed or invalidated. -/
  unspent : Run.Justified Unspent w.log
  /-- Every authorization is of the kind and the context of the path that accepts it,
      and is signed by the signer of that time. -/
  accepted : Run.Justified
    (Accepted recover (Policy._authorizationDigest keccak256 cfg.toPolicyConfig) initial) w.log
  /-- Every swap is the swap of one accepted authorization. -/
  executed : executions w.log = authorizations w.log
  /-- A call that succeeds leaves no allowance, and accepts only what is bound to it. -/
  call : ∀ {o : Outside cfg} {depth : ℕ} {caller : Address} {call : UniswapXCall}
    {w' : UniswapXState}, caller ≠ 0 →
    run_call keccak256 recover cfg o depth w caller call = .ok w' →
    Completed keccak256 recover cfg (call.runs keccak256) w w'

/-- Authorizations that no event before them has spent have different nonces. -/
theorem nonces_nodup {log : List UniswapXEvent} (h : Run.Justified Unspent log) :
    ((authorizations log).map Authorization.nonce).Nodup := by
  have hpairs : log.Pairwise fun e e' => ∀ a, e'.accepts = some a → ¬e.spends a.nonce := by
    refine h.pairwise fun before e hunspent e' he' a ha => ?_
    cases e <;> cases ha
    exact hunspent e' he'
  refine List.pairwise_map.mpr (hpairs.filterMap UniswapXEvent.accepts ?_)
  intro e e' hunspent a ha a' ha' hsame
  cases e <;> cases ha
  exact hunspent a' ha' hsame.symm

/-- **Authorizations are single-use**, over every run from a deployment. -/
theorem authorizations_used_once (keccak256 : Bytes → B256)
    (recover : B256 → Bytes → Option Address) (cfg : UniswapXConfig) (w : UniswapXState)
    (h : Deployed cfg w) (moves : List (Move cfg)) :
    UsedOnce keccak256 recover cfg w.filler.policy.policySigner
      (Run.run (move keccak256 recover cfg) w moves) := by
  have halways : Run.Along (move keccak256 recover cfg) (fun _ _ => True) w moves :=
    Run.along_of_forall (fun _ _ _ => trivial) w
  have hsound := Run.invariant (P := Sound keccak256 recover cfg w.filler.policy.policySigner)
    (fun w m hw _ => move_sound hw m) h.sound halways
  refine ⟨?_, hsound.tracked.spent, hsound.tracked.unspent, hsound.tracked.accepted,
    hsound.executed, run_call_completed hsound.idle⟩
  rw [hsound.executed]
  exact nonces_nodup hsound.tracked.unspent

/-! ## One order -/

def one_order_keccak (_ : Bytes) : B256 := 7

def one_order_recover (_ : B256) (_ : Bytes) : Option Address := some 2

def one_order_config : UniswapXConfig :=
  { this := 11, chainid := 1, TAKER_CREDENTIAL := 8, ROUTER := 12, REACTOR := 13 }

def one_order_source : SourceSwap where
  order := { maker := 21, traits := 2 ^ 254, data := 0x0e :: 0x14 :: List.replicate 19 0 ++ [8] }
  authorization :=
    { kind := .UserFill, nonce := 300, contextHash := 7, strategyHash := 9, maker := 21
      tokenIn := 5, tokenOut := 6, amountOut := 20, amountInLimit := 400, rebateAmount := 0
      deadlineBlock := 10 }
  policySignature := []

/-- Two outputs of one token. -/
def one_order_resolved : ResolvedOrder := { outputs := [⟨6, 15⟩, ⟨6, 4⟩] }

/-- A reactor that calls back once. -/
def one_order_outside : Outside one_order_config where
  answers _ site :=
    match site with
    | .execute _ _ => some [.callback [one_order_resolved]]
    | _ => some []
  rules := { transfers := fun _ _ => true, approves := fun _ _ _ => true }
  number := 1
  router_hash _ _ := 9
  strangers := by
    intro w site steps h caller orders data hmem
    split at h <;> cases h <;> simp at hmem

def one_order_state : UniswapXState :=
  { filler := { owner := 2, paused := false, entered := false, _reactorInFlight := 0
                policy := { policySigner := 2, allowedToken := fun _ => true
                            _nonceBitmap := fun _ => 0 } }
    tokens := { balanceOf := fun _ _ => 10000, allowance := fun _ _ _ => 0 }
    data := none
    rest := 0
    log := [] }

theorem one_order_deployed : Deployed one_order_config one_order_state where
  inFlight := rfl
  data := rfl
  allowance _ := ⟨rfl, rfl⟩
  entered := rfl
  nonces nonce := by
    show (0 : ℕ).testBit _ = false
    exact Nat.zero_testBit _
  log := rfl

/-- The order is filled, and filled again. -/
def one_order_moves : List (Move one_order_config) :=
  List.replicate 2 (.transaction one_order_outside 3 2
    (.fill { order := [], sig := [] } [one_order_source]) (by decide))

/-- Of the two fills the first spends the nonce. -/
theorem authorizations_used_once_sample :
    executions (Run.run (move one_order_keccak one_order_recover one_order_config) one_order_state
        one_order_moves).log = [one_order_source.authorization] ∧
      UsedOnce one_order_keccak one_order_recover one_order_config 2
        (Run.run (move one_order_keccak one_order_recover one_order_config) one_order_state
          one_order_moves) :=
  ⟨by decide +kernel, authorizations_used_once one_order_keccak one_order_recover one_order_config
    one_order_state one_order_deployed one_order_moves⟩

/-- **Callbacks approve exactly what the orders ask for**, and no more than the plan
    brings in. -/
theorem callback_approves_outputs (o : Outside cfg) (depth : ℕ) (w w' : UniswapXState)
    (caller : Address) (orders : List ResolvedOrder) (data : Bytes)
    (h : run_call keccak256 recover cfg o depth w caller (.reactorCallback orders data) = .ok w') :
    ∃ c, CallbackData.abi_decode data = some c ∧
      ∀ token ∈ (output_entries orders).map Prod.fst, Covered cfg c.sources caller w'.tokens token
        (Tally.total token (output_entries orders)) := by
  cases depth with
  | zero => cases h
  | succ depth =>
    obtain ⟨-, h⟩ := require_bind.mp h
    obtain ⟨c, hdecoded, h⟩ := expect_bind.mp h
    obtain ⟨w₁, -, h⟩ := bind_eq_ok.mp h
    obtain ⟨tokens, rfl, hcovered, -⟩ := approveOutputs_ok h
    exact ⟨c, hdecoded, hcovered⟩

/-- The filler while the order is in flight. -/
def one_order_inflight : UniswapXState :=
  { one_order_state with
    filler := { one_order_state.filler with entered := true, _reactorInFlight := 13 } }

def one_order_data : Bytes :=
  tuple (CallbackData.parts { contextHash := 7, sources := [one_order_source] })

/-- Of the 20 sourced, the 19 of the two outputs are approved. -/
theorem callback_approves_outputs_sample :
    ∃ w', run_call one_order_keccak one_order_recover one_order_config one_order_outside 1
        one_order_inflight 13 (.reactorCallback [one_order_resolved] one_order_data) = .ok w' ∧
      (w'.tokens.allowance 6 11 13).val = 19 := by
  have hruns : (run_call one_order_keccak one_order_recover one_order_config one_order_outside 1
      one_order_inflight 13 (.reactorCallback [one_order_resolved] one_order_data)).toOption.map
      (fun w' => w'.filler.entered) = some true := by
    decide +kernel
  obtain ⟨w', hok, -⟩ := Option.map_eq_some_iff.mp hruns
  have h := Except.toOption_eq_some.mp hok
  obtain ⟨c, -, hcovered⟩ := callback_approves_outputs one_order_outside 1 one_order_inflight w' 13
    [one_order_resolved] one_order_data h
  have htotal := (hcovered 6 (by decide)).allowance
  exact ⟨w', h, htotal⟩

end UniswapXAquaFiller

end Solvent.Contracts
