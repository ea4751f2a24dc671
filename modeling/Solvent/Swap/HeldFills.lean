import Mathlib
import Solvent.Swap.Footprint
import Solvent.Swap.OneHold

/-! # A fill in flight and its hold

    While a submitted transaction can still land, its capital must stay held.
    The sweep leaves out the holds of the fills that were tracked when the tick
    asked, but a hold is unprotected from its reserve until its fill is tracked,
    and a fill tracked after the tick asked is not on its list. Where a sweep
    meets neither, every pending fill keeps its hold.
-/

namespace Solvent

open BTreeMap ReconcileService Interleave

/-- The order's reservation is pending, in memory and in the store. -/
def LedgerService.Pends (s : LedgerService) (order : IntentId) (id : ReservationId) : Prop :=
  s.memory id = some (.Swap order, .Pending) ∧ s.durable id = some (.Swap order, .Pending)

theorem LedgerService.pends_of_moves {s s' : LedgerService} {ids : ReservationId → Prop}
    (h : Moves ids s s') {order : IntentId} {id : ReservationId} (hid : ¬ ids id)
    (hpends : s.Pends order id) : s'.Pends order id := by
  constructor
  · rw [h.memory_same id hid]
    exact hpends.1
  · rw [h.durable_same id hid]
    exact hpends.2

/-- The intent is tracked and the engine reports its transaction as pending. -/
def WalletkitExecutor.Awaits (e : WalletkitExecutor) (intent : IntentId) : Prop :=
  ∃ h, e.handle intent = some h ∧ e.wallet.status[h]? = some .Pending

instance (e : WalletkitExecutor) (intent : IntentId) : Decidable (e.Awaits intent) :=
  decidable_of_iff ((e.handle intent).any fun h => e.wallet.status[h]? = some .Pending) (by
    rw [Option.any_eq_true]
    simp [WalletkitExecutor.Awaits])

/-- Every handle was given out by a send. -/
def WalletkitExecutor.Issued (e : WalletkitExecutor) : Prop :=
  ∀ intent h, e.handle intent = some h → h < e.wallet.sent.length

/-! ## What a footprint does to a fill and its hold -/

theorem Call.mem_listed {c : Call} {f : TrackedFill} (h : c.closing = some f) : f ∈ c.listed := by
  rcases c with ⟨request, phase⟩ | phase
  · cases h
  · rcases phase with _ | _ | _ | _ | _ | _ | _ | _ | _ | _ | _
    case sources =>
      obtain rfl := Option.some.inj h
      exact List.mem_cons_self
    case post =>
      obtain rfl := Option.some.inj h
      exact List.mem_cons_self
    case void =>
      obtain rfl := Option.some.inj h
      exact List.mem_cons_self
    all_goals cases h

section Footprint

variable {keccak256 : List UInt8 → B256} {reads : NodeReads} {node node' : Node}
variable {c : Call} {next : Option Call}

/-- A pending hold stays pending unless the call has it in hand, closes its fill
    or sweeps it. -/
theorem Footprint.pends (h : Footprint keccak256 reads node c node' next) {order : IntentId}
    {id : ReservationId} (hpends : node.ledger.Pends order id) :
    node'.ledger.Pends order id ∨ (∃ order', c.holding keccak256 = some (order', id)) ∨
      (∃ f, c.closing = some f ∧ f.reservation = id) ∨
      ∃ in_flight, c.sweeping = some in_flight ∧
        id ∈ ReconcileService.elapsed node.ledger reads.tick.now_unix in_flight := by
  rcases h with ⟨hledger, _, _, _, _, _⟩ | @⟨_, _, _, id', hnew, _, _, _, hothers, _, _, _, _⟩ |
    @⟨_, _, _, id', hholding, hmoves, _⟩ | @⟨_, _, f, hclosing, hmoves, _⟩ |
    @⟨_, _, in_flight, hsweeping, hmoves, _⟩ | _ | _ | _ | _
  case idle =>
    exact .inl (LedgerService.pends_of_moves (hledger.moves fun _ => False) (by simp) hpends)
  case reserves =>
    have hid : id ≠ id' := by
      rintro rfl
      have hknown := hpends.1
      rw [hnew] at hknown
      cases hknown
    exact .inl ⟨by rw [(hothers id hid).1]; exact hpends.1, by
      rw [(hothers id hid).2]; exact hpends.2⟩
  case voids =>
    by_cases hid : id = id'
    · subst hid
      exact .inr (.inl ⟨_, hholding⟩)
    · exact .inl (LedgerService.pends_of_moves hmoves hid hpends)
  case closes =>
    by_cases hid : id = f.reservation
    · exact .inr (.inr (.inl ⟨f, hclosing, hid.symm⟩))
    · exact .inl (LedgerService.pends_of_moves hmoves hid hpends)
  case sweeps =>
    by_cases hid : id ∈ ReconcileService.elapsed node.ledger reads.tick.now_unix in_flight
    · exact .inr (.inr (.inr ⟨in_flight, hsweeping, hid⟩))
    · exact .inl (LedgerService.pends_of_moves hmoves hid hpends)
  all_goals exact .inl hpends

/-- A tracked fill does not become pending again. -/
theorem Footprint.awaits (h : Footprint keccak256 reads node c node' next)
    (hissued : node.executor.Issued) {f : TrackedFill} (hf : f ∈ node.executor.fills.rows)
    (hawaits : node'.executor.Awaits f.intent) : node.executor.Awaits f.intent := by
  rcases h with ⟨_, hexecutor, _, _, _, _⟩ | _ | _ | _ | _ | _ |
    @⟨c', order, id, handle, _, _, _⟩ | @⟨c', intent, _⟩ | @⟨c', intent, _, _⟩
  case idle =>
    rw [hexecutor] at hawaits
    exact hawaits
  case sends =>
    -- The new transaction has a handle no fill has.
    obtain ⟨h, hhandle, hstatus⟩ := hawaits
    have hlt : h < node.executor.wallet.sent.length := hissued f.intent h hhandle
    refine ⟨h, hhandle, ?_⟩
    have hne : node.executor.wallet.sent.length ≠ h := (Nat.ne_of_lt hlt).symm
    rw [← hstatus]
    exact (get_insert_ne node.executor.wallet.status ExecStatus.Pending hne).symm
  case tracks =>
    obtain ⟨h, hhandle, hstatus⟩ := hawaits
    have htracked : node.executor.Tracks f.intent :=
      WalletkitExecutor.tracks_iff_mem.mpr (List.mem_map_of_mem hf)
    rw [WalletkitExecutor.handle_track] at hhandle
    split at hhandle
    · rename_i hnew
      exact absurd (hnew.1 ▸ htracked) hnew.2
    · exact ⟨h, hhandle, hstatus⟩
  case remembers =>
    obtain ⟨terminal, hterminal⟩ := node.executor.record_terminal_eq intent
    simp only [hterminal] at hawaits
    exact hawaits
  case untracks =>
    obtain ⟨h, hhandle, hstatus⟩ := hawaits
    rw [WalletkitExecutor.handle_untrack] at hhandle
    split at hhandle
    · cases hhandle
    · exact ⟨h, hhandle, hstatus⟩
  all_goals exact hawaits

/-- The fill a call turns to was read as terminal. -/
theorem Footprint.closing (h : Footprint keccak256 reads node c node' next) {c' : Call}
    (hc' : next = some c') {f : TrackedFill} (hf : c'.closing = some f) :
    c.closing = some f ∨ (f ∈ c.listed ∧ ¬ node.executor.Awaits f.intent) := by
  rcases h with ⟨_, _, _, _, hclose, _⟩ | ⟨_, _, _, _, _, _, _, hclose, _⟩ |
    ⟨_, _, hnext⟩ | ⟨_, _, hnext⟩ | ⟨_, _, hnext⟩ | ⟨_, _, hclose, _⟩ | ⟨_, _, hnext⟩ | hnext |
    ⟨_, hnext⟩
  · rcases hclose c' hc' f hf with hold | ⟨hlisted, status, hstatus, hterminal⟩
    · exact .inl hold
    · refine .inr ⟨hlisted, ?_⟩
      rintro ⟨h, hhandle, hpending⟩
      -- The executor answers with the handle's own state.
      unfold WalletkitExecutor.status at hstatus
      rw [hhandle] at hstatus
      simp only [hpending, Option.some.injEq] at hstatus
      exact hterminal hstatus.symm
  · obtain rfl := Option.some.inj hc'
    rw [hclose] at hf
    cases hf
  · rw [(hnext c' hc').closing] at hf
    cases hf
  · rw [(hnext c' hc').2.2.1] at hf
    cases hf
  · rw [(hnext c' hc').closing] at hf
    cases hf
  · obtain rfl := Option.some.inj hc'
    rw [hclose] at hf
    cases hf
  · obtain rfl := Option.some.inj hc'
    rw [hnext.closing] at hf
    cases hf
  · obtain rfl := Option.some.inj hc'
    rw [hnext.closing] at hf
    cases hf
  · obtain rfl := Option.some.inj hc'
    rw [hnext.closing] at hf
    cases hf

/-- Handles are given out by sends, to fills and to calls alike. -/
theorem Footprint.issued (h : Footprint keccak256 reads node c node' next)
    (hissued : node.executor.Issued)
    (huntracked : ∀ h, c.untracked = some h → h < node.executor.wallet.sent.length) :
    node'.executor.Issued ∧
      node.executor.wallet.sent.length ≤ node'.executor.wallet.sent.length ∧
      ∀ c' ∈ next, ∀ h, c'.untracked = some h → h < node'.executor.wallet.sent.length := by
  rcases h with ⟨_, hexecutor, _, _, _, hnone⟩ | ⟨_, _, _, _, _, _, _, _, hnone⟩ |
    ⟨_, _, hnext⟩ | ⟨_, _, hnext⟩ | ⟨_, _, hnext⟩ | ⟨_, _, _, hsome⟩ |
    @⟨c', order, id, handle, _, hhandle, hnext⟩ | @⟨c', intent, hnext⟩ | @⟨c', intent, _, hnext⟩
  · rw [hexecutor]
    refine ⟨hissued, le_rfl, ?_⟩
    intro d hd h hh
    rw [hnone d hd] at hh
    cases hh
  · refine ⟨hissued, le_rfl, ?_⟩
    intro d hd h hh
    obtain rfl := Option.some.inj hd
    rw [hnone] at hh
    cases hh
  · refine ⟨hissued, le_rfl, ?_⟩
    intro d hd h hh
    rw [(hnext d hd).untracked] at hh
    cases hh
  · refine ⟨hissued, le_rfl, ?_⟩
    intro d hd h hh
    rw [(hnext d hd).2.2.2] at hh
    cases hh
  · refine ⟨hissued, le_rfl, ?_⟩
    intro d hd h hh
    rw [(hnext d hd).untracked] at hh
    cases hh
  · have hlen : ∀ order, (node.executor.send_with order).wallet.sent.length =
        node.executor.wallet.sent.length + 1 := by
      intro order
      simp [WalletkitExecutor.send_with, Wallet.send_with]
    refine ⟨?_, ?_, ?_⟩
    · intro intent h hh
      rw [hlen]
      exact Nat.lt_succ_of_lt (hissued intent h hh)
    · rw [hlen]
      exact Nat.le_succ _
    · intro d hd h hh
      obtain rfl := Option.some.inj hd
      rw [hsome] at hh
      obtain rfl := Option.some.inj hh
      rw [hlen]
      exact Nat.lt_succ_self _
  · refine ⟨?_, le_rfl, ?_⟩
    · intro intent h hh
      rw [WalletkitExecutor.handle_track] at hh
      split at hh
      · obtain rfl := Option.some.inj hh
        exact huntracked _ hhandle
      · exact hissued intent h hh
    · intro d hd h hh
      obtain rfl := Option.some.inj hd
      rw [hnext.untracked] at hh
      cases hh
  · obtain ⟨terminal, hterminal⟩ := node.executor.record_terminal_eq intent
    simp only [hterminal]
    refine ⟨hissued, le_rfl, ?_⟩
    intro d hd h hh
    obtain rfl := Option.some.inj hd
    rw [hnext.untracked] at hh
    cases hh
  · refine ⟨?_, le_rfl, ?_⟩
    · intro k h hh
      rw [WalletkitExecutor.handle_untrack] at hh
      split at hh
      · cases hh
      · exact hissued k h hh
    · intro d hd h hh
      obtain rfl := Option.some.inj hd
      rw [hnext.untracked] at hh
      cases hh

end Footprint

/-! ## The invariant -/

structure HeldFills (keccak256 : List UInt8 → B256) (w : NodeWorld) : Prop
    extends Owned keccak256 w where
  /-- A hold in a request's hand is pending, in no other hand and not yet a fill's. -/
  held : ∀ i c, w.At i c → ∀ order id, c.holding keccak256 = some (order, id) →
    w.shared.ledger.Pends order id
  apart : ∀ i j c d, w.At i c → w.At j d → ∀ order order' id,
    c.holding keccak256 = some (order, id) → d.holding keccak256 = some (order', id) → i = j
  unlisted : ∀ i c, w.At i c → ∀ order id, c.holding keccak256 = some (order, id) →
    (∀ f ∈ w.shared.executor.fills.rows, f.reservation ≠ id) ∧
      ∀ j d, w.At j d → ∀ f ∈ d.listed, f.reservation ≠ id
  /-- A pending fill has its hold. -/
  promised : ∀ f ∈ w.shared.executor.fills.rows, w.shared.executor.Awaits f.intent →
    w.shared.ledger.Pends f.intent f.reservation
  /-- A tick closes the holds of terminal fills only. -/
  terminal : ∀ i c, w.At i c → ∀ f, c.closing = some f →
    ∀ g ∈ w.shared.executor.fills.rows, g.reservation = f.reservation →
      ¬ w.shared.executor.Awaits g.intent
  issued : w.shared.executor.Issued
  in_hand : ∀ i c, w.At i c → ∀ h, c.untracked = some h →
    h < w.shared.executor.wallet.sent.length

section Run

variable (config : SwapConfig) (keccak256 : List UInt8 → B256)

/-- A sweep meets no hold of a fill on its way: the elapsed holds it does not
    leave out are neither in the hand of a request between its reserve and its
    tracked fill, nor a tracked fill's whose transaction is pending. -/
def SweepsApart (w : NodeWorld) : NodeAction → Prop
  | .access i reads => ∀ c, w.At i c → ∀ in_flight ∈ c.sweeping,
      ∀ id ∈ ReconcileService.elapsed w.shared.ledger reads.tick.now_unix in_flight,
        (∀ j d, w.At j d → (d.holding keccak256).map Prod.snd ≠ some id) ∧
        ∀ f ∈ w.shared.executor.fills.rows, f.reservation = id →
          ¬ w.shared.executor.Awaits f.intent
  | _ => True

instance (w : NodeWorld) (a : NodeAction) : Decidable (SweepsApart keccak256 w a) :=
  match a with
  | .access _ _ => by unfold SweepsApart; infer_instance
  | .start _ | .stop _ | .crash _ | .outside _ => .isTrue trivial

variable {config keccak256}

/-- **Footprint lemma.** What another call does leaves the hold in a request's
    hand alone. -/
theorem HeldFills.keeps_held {w : NodeWorld} {node' : Node} {i j : ℕ} {reads : NodeReads}
    {c d : Call} {next : Option Call} (hinv : HeldFills keccak256 w)
    (hcond : SweepsApart keccak256 w (.access i reads)) (hat : w.At i c)
    (hfoot : Footprint keccak256 reads w.shared c node' next) (hd : w.At j d) (hj : j ≠ i)
    {order : IntentId} {id : ReservationId} (hholding : d.holding keccak256 = some (order, id)) :
    node'.ledger.Pends order id := by
  rcases hfoot.pends (hinv.held j d hd order id hholding) with
    hpends | ⟨order', hsame⟩ | ⟨f, hclosing, hid⟩ | ⟨in_flight, hsweeping, hid⟩
  · exact hpends
  · exact absurd (hinv.apart j i d c hd hat order order' id hholding hsame) hj
  · exact absurd hid ((hinv.unlisted j d hd order id hholding).2 i c hat f (Call.mem_listed hclosing))
  · have hapart := (hcond c hat in_flight hsweeping id hid).1 j d hd
    rw [hholding] at hapart
    exact absurd rfl hapart

theorem heldFills_access {w w' : NodeWorld} {i : ℕ} {reads : NodeReads} {c : Call}
    {next : Option Call} (hinv : HeldFills keccak256 w)
    (hcond : SweepsApart keccak256 w (.access i reads)) (hat : w.At i c)
    (hfoot : Footprint keccak256 reads w.shared c w'.shared next)
    (hmoved : Machine.Moved w w' i next) : HeldFills keccak256 w' := by
  obtain ⟨hissued, hlen, hnext⟩ := hfoot.issued hinv.issued (hinv.in_hand i c hat)
  -- A hold in hand was in the same hand before, or it was just reserved.
  have hhand : ∀ j d, w'.At j d → ∀ order id, d.holding keccak256 = some (order, id) →
      (∃ e, w.At j e ∧ e.holding keccak256 = some (order, id)) ∨
      (j = i ∧ (∀ order', ¬ w.shared.ledger.OwnedBy order' id) ∧
        w'.shared.ledger.Pends order id) := by
    intro j d hd order id hholding
    by_cases hj : j = i
    · subst hj
      rcases hfoot.holding ((hmoved.moved d).mp hd) hholding with
        ⟨hold, -⟩ | ⟨hnew, hrow, hmemory, hdurable⟩
      · exact .inl ⟨c, hat, hold⟩
      · exact .inr ⟨rfl, hinv.toOwned.fresh hnew hrow, hmemory, hdurable⟩
    · exact .inl ⟨d, (hmoved.others j d hj).mp hd, hholding⟩
  -- A fill in a list was in a list or tracked before.
  have hlists : ∀ j d, w'.At j d → ∀ f ∈ d.listed,
      (∃ k e, w.At k e ∧ f ∈ e.listed) ∨ f ∈ w.shared.executor.fills.rows := by
    intro j d hd f hf
    by_cases hj : j = i
    · subst hj
      rcases hfoot.listed ((hmoved.moved d).mp hd) hf with hold | hrow
      · exact .inl ⟨j, c, hat, hold⟩
      · exact .inr hrow
    · exact .inl ⟨j, d, (hmoved.others j d hj).mp hd, hf⟩
  refine { owned_access hinv.toOwned hat hfoot hmoved with
    held := ?_, apart := ?_, unlisted := ?_, promised := ?_, terminal := ?_,
    issued := hissued, in_hand := ?_ }
  · intro j d hd order id hholding
    by_cases hj : j = i
    · subst hj
      rcases hfoot.holding ((hmoved.moved d).mp hd) hholding with
        ⟨hold, hsame⟩ | ⟨_, _, hmemory, hdurable⟩
      · exact LedgerService.pends_of_moves (hsame.moves fun _ => False) (by simp)
          (hinv.held j c hat order id hold)
      · exact ⟨hmemory, hdurable⟩
    · exact hinv.keeps_held hcond hat hfoot ((hmoved.others j d hj).mp hd) hj hholding
  · intro j k d e hd he order order' id hholding hholding'
    rcases hhand j d hd order id hholding with ⟨d₀, hd₀, hold⟩ | ⟨hj, hfresh, -⟩
    · rcases hhand k e he order' id hholding' with ⟨e₀, he₀, hold'⟩ | ⟨-, hfresh, -⟩
      · exact hinv.apart j k d₀ e₀ hd₀ he₀ order order' id hold hold'
      · exact absurd (hinv.holding j d₀ hd₀ order id hold) (hfresh order)
    · rcases hhand k e he order' id hholding' with ⟨e₀, he₀, hold'⟩ | ⟨hk, -, -⟩
      · exact absurd (hinv.holding k e₀ he₀ order' id hold') (hfresh order')
      · rw [hj, hk]
  · intro j d hd order id hholding
    constructor
    · intro f hf hid
      rcases hfoot.rows hf with hrow | ⟨hmine, -, hpassive⟩
      · rcases hhand j d hd order id hholding with ⟨d₀, hd₀, hold⟩ | ⟨-, hfresh, -⟩
        · exact (hinv.unlisted j d₀ hd₀ order id hold).1 f hrow hid
        · exact hfresh f.intent (hid ▸ hinv.tracked f hrow)
      · -- The fill was just tracked by a call that let go of it.
        by_cases hj : j = i
        · subst hj
          rw [(hpassive d ((hmoved.moved d).mp hd)).holding] at hholding
          cases hholding
        · subst hid
          exact hj (hinv.apart j i d c ((hmoved.others j d hj).mp hd) hat _ _ _ hholding hmine)
    · intro k e he f hf hid
      rcases hhand j d hd order id hholding with ⟨d₀, hd₀, hold⟩ | ⟨-, hfresh, -⟩
      · rcases hlists k e he f hf with ⟨k', e', he', hlisted⟩ | hrow
        · exact (hinv.unlisted j d₀ hd₀ order id hold).2 k' e' he' f hlisted hid
        · exact (hinv.unlisted j d₀ hd₀ order id hold).1 f hrow hid
      · rcases hlists k e he f hf with ⟨k', e', he', hlisted⟩ | hrow
        · exact hfresh f.intent (hid ▸ hinv.listed k' e' he' f hlisted)
        · exact hfresh f.intent (hid ▸ hinv.tracked f hrow)
  · intro f hf hawaits
    rcases hfoot.rows hf with hrow | ⟨hmine, hledger, -⟩
    · have hbefore := hfoot.awaits hinv.issued hrow hawaits
      rcases hfoot.pends (hinv.promised f hrow hbefore) with
        hpends | ⟨order', hsame⟩ | ⟨g, hclosing, hid⟩ | ⟨in_flight, hsweeping, hid⟩
      · exact hpends
      · exact absurd rfl ((hinv.unlisted i c hat order' f.reservation hsame).1 f hrow)
      · exact absurd hbefore (hinv.terminal i c hat g hclosing f hrow hid.symm)
      · exact absurd hbefore ((hcond c hat in_flight hsweeping f.reservation hid).2 f hrow rfl)
    · rw [hledger]
      exact hinv.held i c hat f.intent f.reservation hmine
  · intro j d hd f hclosing g hg hid hawaits
    rcases hfoot.rows hg with hrow | ⟨hmine, -, hpassive⟩
    · have hbefore := hfoot.awaits hinv.issued hrow hawaits
      by_cases hj : j = i
      · subst hj
        rcases hfoot.closing ((hmoved.moved d).mp hd) hclosing with hold | ⟨hlisted, hterminal⟩
        · exact hinv.terminal j c hat f hold g hrow hid hbefore
        · -- One reservation, one order: both fills are the same intent's.
          have howned := hinv.listed j c hat f hlisted
          rw [← hid] at howned
          have hintent := LedgerService.ownedBy_unique (hinv.tracked g hrow) howned
          rw [hintent] at hbefore
          exact hterminal hbefore
      · exact hinv.terminal j d ((hmoved.others j d hj).mp hd) f hclosing g hrow hid hbefore
    · by_cases hj : j = i
      · subst hj
        rw [(hpassive d ((hmoved.moved d).mp hd)).closing] at hclosing
        cases hclosing
      · have hlisted := Call.mem_listed hclosing
        exact (hinv.unlisted i c hat _ _ hmine).2 j d ((hmoved.others j d hj).mp hd) f hlisted
          hid.symm
  · intro j d hd h hh
    by_cases hj : j = i
    · subst hj
      exact hnext d ((hmoved.moved d).mp hd) h hh
    · exact lt_of_lt_of_le (hinv.in_hand j d ((hmoved.others j d hj).mp hd) h hh) hlen

theorem heldFills_start {w : NodeWorld} (hinv : HeldFills keccak256 w) (request : NodeRequest) :
    HeldFills keccak256 { w with calls := w.calls ++ [some (Node.entry request)] } := by
  have hentry := passive_entry keccak256 request
  -- Whoever has something in hand was there before.
  have hhand : ∀ {i : ℕ} {c : Call}, World.At
      { w with calls := w.calls ++ [some (Node.entry request)] } i c →
      ∀ {p}, c.holding keccak256 = some p → w.At i c := by
    intro i c hat p hholding
    rcases World.at_append.mp hat with hold | ⟨-, rfl⟩
    · exact hold
    · rw [hentry.holding] at hholding
      cases hholding
  refine { owned_start hinv.toOwned request with
    held := ?_, apart := ?_, unlisted := ?_, promised := hinv.promised, terminal := ?_,
    issued := hinv.issued, in_hand := ?_ }
  · intro i c hat order id hholding
    exact hinv.held i c (hhand hat hholding) order id hholding
  · intro i j c d hat hat' order order' id hholding hholding'
    exact hinv.apart i j c d (hhand hat hholding) (hhand hat' hholding') order order' id hholding
      hholding'
  · intro i c hat order id hholding
    obtain ⟨hrows, hlists⟩ := hinv.unlisted i c (hhand hat hholding) order id hholding
    refine ⟨hrows, ?_⟩
    intro j d hd f hf
    rcases World.at_append.mp hd with hold | ⟨-, rfl⟩
    · exact hlists j d hold f hf
    · rw [hentry.listed] at hf
      cases hf
  · intro i c hat f hclosing
    rcases World.at_append.mp hat with hold | ⟨-, rfl⟩
    · exact hinv.terminal i c hold f hclosing
    · rw [hentry.closing] at hclosing
      cases hclosing
  · intro i c hat h hh
    rcases World.at_append.mp hat with hold | ⟨-, rfl⟩
    · exact hinv.in_hand i c hold h hh
    · rw [hentry.untracked] at hh
      cases hh

theorem heldFills_stop {w w' : NodeWorld} {i : ℕ} (hinv : HeldFills keccak256 w)
    (hshared : w'.shared = w.shared) (hmoved : Machine.Moved w w' i none) :
    HeldFills keccak256 w' := by
  have hback : ∀ {j : ℕ} {c : Call}, w'.At j c → w.At j c := by
    intro j c hc
    by_cases hj : j = i
    · subst hj
      cases (hmoved.moved c).mp hc
    · exact (hmoved.others j c hj).mp hc
  refine { owned_stop hinv.toOwned hshared hmoved with
    held := ?_, apart := ?_, unlisted := ?_, promised := ?_, terminal := ?_,
    issued := by rw [hshared]; exact hinv.issued, in_hand := ?_ }
  · intro j c hc
    rw [hshared]
    exact hinv.held j c (hback hc)
  · intro j k c d hc hd
    exact hinv.apart j k c d (hback hc) (hback hd)
  · intro j c hc order id hholding
    rw [hshared]
    obtain ⟨hrows, hlists⟩ := hinv.unlisted j c (hback hc) order id hholding
    exact ⟨hrows, fun k d hd => hlists k d (hback hd)⟩
  · rw [hshared]
    exact hinv.promised
  · intro j c hc
    rw [hshared]
    exact hinv.terminal j c (hback hc)
  · intro j c hc
    rw [hshared]
    exact hinv.in_hand j c (hback hc)

theorem LedgerService.pends_recovered {s : LedgerService} {order : IntentId} {id : ReservationId}
    (h : s.Pends order id) (budget : AccountKey → U256) : (s.recovered budget).Pends order id := by
  constructor
  · rw [(recovered_evolves s budget).2, h.2]
    rfl
  · rw [durable_recovered]
    exact h.2

theorem heldFills_crash {w : NodeWorld} (hinv : HeldFills keccak256 w)
    (budget : AccountKey → U256) :
    HeldFills keccak256 { shared := w.shared.restart budget, calls := [] } :=
  { owned_crash hinv.toOwned budget with
    held := fun _ _ hat => absurd hat World.not_at_nil
    apart := fun _ _ _ _ hat => absurd hat World.not_at_nil
    unlisted := fun _ _ hat => absurd hat World.not_at_nil
    promised := fun f hf hawaits =>
      LedgerService.pends_recovered (hinv.promised f hf hawaits) budget
    terminal := fun _ _ hat => absurd hat World.not_at_nil
    issued := hinv.issued
    in_hand := fun _ _ hat => absurd hat World.not_at_nil }

/-- A report makes no fill pending. -/
theorem awaits_of_report {e : WalletkitExecutor} {handle : HandleId} {answer : Option ExecStatus}
    {intent : IntentId} (h : (e.report handle answer).Awaits intent) : e.Awaits intent := by
  obtain ⟨k, hhandle, hstatus⟩ := h
  refine ⟨k, hhandle, ?_⟩
  unfold WalletkitExecutor.report Wallet.report at hstatus
  by_cases hpending : e.wallet.status[handle]? = some .Pending
  · by_cases hk : handle = k
    · rw [← hk]
      exact hpending
    · simp only [hpending, if_true] at hstatus
      rcases answer with _ | status
      · simp only [get_erase, if_neg hk] at hstatus
        exact hstatus
      · simp only [get_insert, if_neg hk] at hstatus
        exact hstatus
  · simp only [hpending, if_false] at hstatus
    exact hstatus

theorem heldFills_outside {w : NodeWorld} (hinv : HeldFills keccak256 w) (event : NodeEvent) :
    HeldFills keccak256 { w with shared := w.shared.outside event } := by
  refine { owned_outside hinv.toOwned event with
    held := ?_, apart := hinv.apart, unlisted := ?_, promised := ?_, terminal := ?_,
    issued := ?_, in_hand := ?_ }
  all_goals rcases event with ⟨handle, answer⟩ | answer
  · exact hinv.held
  · intro i c hat order id hholding
    exact LedgerService.pends_of_moves
      ((LedgerService.same_sync_budgets w.shared.ledger answer).moves fun _ => False) (by simp)
      (hinv.held i c hat order id hholding)
  · exact hinv.unlisted
  · exact hinv.unlisted
  · intro f hf hawaits
    exact hinv.promised f hf (awaits_of_report hawaits)
  · intro f hf hawaits
    exact LedgerService.pends_of_moves
      ((LedgerService.same_sync_budgets w.shared.ledger answer).moves fun _ => False) (by simp)
      (hinv.promised f hf hawaits)
  · intro i c hat f hclosing g hg hid hawaits
    exact hinv.terminal i c hat f hclosing g hg hid (awaits_of_report hawaits)
  · exact hinv.terminal
  · intro intent h hh
    show h < (w.shared.executor.wallet.report handle answer).sent.length
    unfold Wallet.report
    split
    · exact hinv.issued intent h hh
    · exact hinv.issued intent h hh
  · exact hinv.issued
  · intro i c hat h hh
    show h < (w.shared.executor.wallet.report handle answer).sent.length
    unfold Wallet.report
    split
    · exact hinv.in_hand i c hat h hh
    · exact hinv.in_hand i c hat h hh
  · exact hinv.in_hand

/-- **Step lemma.** -/
theorem heldFills_next (w : NodeWorld) (a : NodeAction) (hinv : HeldFills keccak256 w)
    (hcond : SweepsApart keccak256 w a) :
    HeldFills keccak256 ((Node.machine config keccak256).next w a) := by
  refine Machine.keeps _ ?_ ?_ ?_ ?_ ?_ w a hinv hcond
  · intro w request hinv _
    exact heldFills_start hinv request
  · intro w w' i reads c hinv hcond hat hshared hmoved
    have haccess : Accesses keccak256 reads w.shared c w'.shared
        (w.shared.access config keccak256 reads c).2 := by
      rw [hshared]
      exact access_accesses c
    exact heldFills_access hinv hcond hat haccess.footprint hmoved
  · intro w w' i c hinv _ _ hshared hmoved
    exact heldFills_stop hinv hshared hmoved
  · intro w budget hinv _
    exact heldFills_crash hinv budget
  · intro w event hinv _
    exact heldFills_outside hinv event

theorem heldFills_initial : HeldFills keccak256 (Machine.initial Node.fresh) :=
  { owned_initial with
    held := fun _ _ hat => absurd hat World.not_at_nil
    apart := fun _ _ _ _ hat => absurd hat World.not_at_nil
    unlisted := fun _ _ hat => absurd hat World.not_at_nil
    promised := by
      intro f hf
      simp [Machine.initial, Node.fresh, WalletkitExecutor.empty, SqliteFillStore.empty] at hf
    terminal := fun _ _ hat => absurd hat World.not_at_nil
    issued := by
      intro intent h hh
      simp [Machine.initial, Node.fresh, WalletkitExecutor.empty, WalletkitExecutor.handle] at hh
    in_hand := fun _ _ hat => absurd hat World.not_at_nil }

variable (config keccak256)

/-- **A fill in flight keeps its hold.** In every run whose sweeps meet no hold
    of a fill on its way, each tracked fill whose transaction is still pending
    has its reservation pending in the ledger. -/
theorem inflight_fill_keeps_its_hold (actions : List NodeAction)
    (h : Run.Along (Node.machine config keccak256).next (SweepsApart keccak256)
      (Machine.initial Node.fresh) actions) (f : TrackedFill) :
    let node := (Run.run (Node.machine config keccak256).next (Machine.initial Node.fresh)
      actions).shared
    f ∈ node.executor.fills.rows → node.executor.Awaits f.intent →
      node.ledger.Pends f.intent f.reservation := by
  exact (Run.invariant heldFills_next heldFills_initial h).promised f

end Run

/-! ## Runs around the time limit -/

namespace SwapService

/-- A clock past the sample hold's time limit of 60 seconds. -/
def late_reads : NodeReads :=
  { reads_of [sample_strategy] with
    tick := { now_unix := 100, receipt := fun _ => [], sweep_fails_after := none } }

/-- The tracked fills: intent, whether the transaction is pending, the hold. -/
def sample_fills (w : NodeWorld) :
    List (IntentId × Bool × Option (ReservationOwner × ReservationState)) :=
  w.shared.executor.fills.rows.map fun f =>
    (f.intent, decide (w.shared.executor.Awaits f.intent), w.shared.ledger.memory f.reservation)

/-- A request to its end, and a late tick. -/
def late_tick_actions : List NodeAction :=
  [sample_sync, sample_start ⟨1⟩] ++ List.replicate 10 (.access 0 (reads_of [sample_strategy])) ++
    [.start .tick] ++ List.replicate 4 (.access 1 late_reads)

/-- A late tick while the request simulates. -/
def swept_before_track_actions : List NodeAction :=
  [sample_sync, sample_start ⟨1⟩] ++ List.replicate 6 (.access 0 (reads_of [sample_strategy])) ++
    [.start .tick] ++ List.replicate 3 (.access 1 late_reads) ++
    List.replicate 2 (.access 0 (reads_of [sample_strategy]))

/-- A late tick that asked for the fills in flight before the request tracked its own. -/
def swept_after_track_actions : List NodeAction :=
  [sample_sync, sample_start ⟨1⟩] ++ List.replicate 6 (.access 0 (reads_of [sample_strategy])) ++
    [.start .tick] ++ List.replicate 2 (.access 1 late_reads) ++
    List.replicate 2 (.access 0 (reads_of [sample_strategy])) ++ [.access 1 late_reads]

theorem inflight_fill_keeps_its_hold_late :
    sample_fills (sample_run late_tick_actions) =
      [(⟨5⟩, true, some (.Swap ⟨5⟩, .Pending))] ∧
    ∀ f ∈ (sample_run late_tick_actions).shared.executor.fills.rows,
      (sample_run late_tick_actions).shared.executor.Awaits f.intent →
      (sample_run late_tick_actions).shared.ledger.Pends f.intent f.reservation :=
  ⟨by decide +kernel, fun f => inflight_fill_keeps_its_hold sample_swap_config sample_hash
    late_tick_actions (by decide +kernel) f⟩

/-- Two runs in which the sweep expires the hold of a fill on its way: before the
    request tracks it, and after, by a tick whose list is older. -/
theorem inflight_fill_loses_its_hold :
    sample_fills (sample_run swept_before_track_actions) =
      [(⟨5⟩, true, some (.Swap ⟨5⟩, .Expired))] ∧
    sample_fills (sample_run swept_after_track_actions) =
      [(⟨5⟩, true, some (.Swap ⟨5⟩, .Expired))] := by
  decide +kernel

end SwapService

end Solvent
