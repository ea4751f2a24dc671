import Mathlib
import Solvent.Crosschain.System
import Solvent.Crosschain.Sends

/-! # Rules for the calls of one order

    What a call of the proxy relies on at the destination and in the saga store,
    and rules to carry it through the queries of the call. The facts are kept by
    everything that happens beside it (`Quiet`): outside events, every call at
    the origin, and every call at the destination that neither sends the order's
    delivery nor releases a preparation.
-/

namespace Solvent

open BTreeMap Interleave

namespace CrossChainWorld

section Facts

variable (keccak256 : List UInt8 → B256) (chains : LegRole → ChainId)
  (order_id : CrossChainOrderId)

/-- The intent of the order's delivery. -/
def delivery : IntentId := intent_of keccak256 chains order_id .Destination .Deliver

/-- Deliveries are not asked for before the saga is prepared. -/
def Early : Option CrossChainSaga → Prop
  | none => True
  | some saga => saga.state = .Quoted ∨ saga.state = .Preparing

/-- The saga failed before delivery. -/
def Failed (w : CrossChainWorld) : Prop :=
  ∃ saga, w.sagas.load order_id = some saga ∧ saga.state = .FailedBeforeDelivery

/-- The destination preparation that the saga names is released. -/
def Released (w : CrossChainWorld) : Prop :=
  ∃ token ∈ w.own_token order_id .Destination, ∃ p,
    (w.services .Destination).local_service.preparations.load token = some p ∧
      p.state = .Released

/-- What holds at every moment. -/
structure Safe (w : CrossChainWorld) : Prop where
  keyed : ∀ saga, w.sagas.load order_id = some saga → saga.order_id = order_id
  sound : (w.services .Destination).Sound (delivery keccak256 chains order_id)
  early : Early (w.sagas.load order_id) →
    (w.services .Destination).Unsent (delivery keccak256 chains order_id)
  closed : w.Failed order_id ∨ w.Released order_id →
    (w.services .Destination).Doomed (delivery keccak256 chains order_id)

/-- What holds between two calls of the proxy: every delivery sent is known. -/
def Quiescent (w : CrossChainWorld) : Prop :=
  w.Safe keccak256 chains order_id ∧
    (w.services .Destination).Known (delivery keccak256 chains order_id)

/-- A change that leaves the order alone. -/
structure Quiet (w w' : CrossChainWorld) : Prop where
  saga : w'.sagas.load order_id = w.sagas.load order_id
  moves : ChainService.Moves (delivery keccak256 chains order_id) (w.services .Destination)
    (w'.services .Destination)
  released : w'.Released order_id → w.Released order_id

/-- A fact that quiet changes keep. -/
def Inert (Φ : CrossChainWorld → Prop) : Prop :=
  ∀ w w', w.Safe keccak256 chains order_id → Φ w → Quiet keccak256 chains order_id w w' → Φ w'

/-- A fact beside what holds between two calls. -/
def Holding (Φ : CrossChainWorld → Prop) (w : CrossChainWorld) : Prop :=
  w.Quiescent keccak256 chains order_id ∧ Φ w

/-- The saga in the store. -/
def Stored (saga : CrossChainSaga) (w : CrossChainWorld) : Prop :=
  w.sagas.load order_id = some saga

def Unsent (w : CrossChainWorld) : Prop :=
  (w.services .Destination).Unsent (delivery keccak256 chains order_id)

def Doomed (w : CrossChainWorld) : Prop :=
  (w.services .Destination).Doomed (delivery keccak256 chains order_id)

/-- No delivery was sent and none is recorded. -/
def Unheard (w : CrossChainWorld) : Prop :=
  w.Unsent keccak256 chains order_id ∧
    (w.services .Destination).Unrecorded (delivery keccak256 chains order_id)

/-- A delivery sent and not yet tracked. -/
def Untracked (handle : HandleId) (w : CrossChainWorld) : Prop :=
  (w.services .Destination).Untracked (delivery keccak256 chains order_id) handle

end Facts

section Quiet

variable {keccak256 : List UInt8 → B256} {chains : LegRole → ChainId}
  {order_id : CrossChainOrderId} {w w' : CrossChainWorld}

theorem Safe.quiet (h : w.Safe keccak256 chains order_id)
    (hquiet : Quiet keccak256 chains order_id w w') : w'.Safe keccak256 chains order_id where
  keyed := by
    rw [hquiet.saga]
    exact h.keyed
  sound := hquiet.moves.sound h.sound
  early := by
    rw [hquiet.saga]
    exact fun hearly => hquiet.moves.unsent (h.early hearly)
  closed := by
    intro hclosed
    apply hquiet.moves.doomed
    apply h.closed
    rcases hclosed with hfailed | hreleased
    · left
      unfold Failed at hfailed ⊢
      rw [hquiet.saga] at hfailed
      exact hfailed
    · exact .inr (hquiet.released hreleased)

theorem Quiescent.quiet (h : w.Quiescent keccak256 chains order_id)
    (hquiet : Quiet keccak256 chains order_id w w') : w'.Quiescent keccak256 chains order_id :=
  ⟨h.1.quiet hquiet, hquiet.moves.known h.2⟩

theorem Holding.quiet {Φ : CrossChainWorld → Prop} (hΦ : Inert keccak256 chains order_id Φ)
    (h : Holding keccak256 chains order_id Φ w)
    (hquiet : Quiet keccak256 chains order_id w w') : Holding keccak256 chains order_id Φ w' :=
  ⟨h.1.quiet hquiet, hΦ w w' h.1.1 h.2 hquiet⟩

/-! ## Inert facts -/

theorem inert_stored (saga : CrossChainSaga) :
    Inert keccak256 chains order_id (Stored order_id saga) := by
  intro w w' _ hsaga hquiet
  unfold Stored
  rw [hquiet.saga]
  exact hsaga

theorem inert_unsent : Inert keccak256 chains order_id (Unsent keccak256 chains order_id) :=
  fun _ _ _ h hquiet => hquiet.moves.unsent h

theorem inert_doomed : Inert keccak256 chains order_id (Doomed keccak256 chains order_id) :=
  fun _ _ _ h hquiet => hquiet.moves.doomed h

theorem inert_unheard : Inert keccak256 chains order_id (Unheard keccak256 chains order_id) :=
  fun _ _ hsafe h hquiet =>
    ⟨hquiet.moves.unsent h.1, hquiet.moves.unrecorded hsafe.sound h.1 h.2⟩

theorem inert_held : Inert keccak256 chains order_id fun w => ¬ w.Released order_id :=
  fun _ _ _ h hquiet hreleased => h (hquiet.released hreleased)

theorem inert_untracked (handle : HandleId) :
    Inert keccak256 chains order_id (Untracked keccak256 chains order_id handle) :=
  fun _ _ _ h hquiet => hquiet.moves.untracked h

theorem inert_true : Inert keccak256 chains order_id fun _ => True :=
  fun _ _ _ _ _ => trivial

theorem Inert.and {Φ Ψ : CrossChainWorld → Prop} (hΦ : Inert keccak256 chains order_id Φ)
    (hΨ : Inert keccak256 chains order_id Ψ) :
    Inert keccak256 chains order_id fun w => Φ w ∧ Ψ w :=
  fun w w' hsafe h hquiet => ⟨hΦ w w' hsafe h.1 hquiet, hΨ w w' hsafe h.2 hquiet⟩

theorem Inert.imp {a : Prop} {Φ : CrossChainWorld → Prop}
    (hΦ : Inert keccak256 chains order_id Φ) : Inert keccak256 chains order_id fun w => a → Φ w :=
  fun w w' hsafe h hquiet ha => hΦ w w' hsafe (h ha) hquiet

/-! ## Quiet changes -/

/-- A change of one service, in terms of what it does to the destination. -/
theorem quiet_set {role : LegRole} {s : ChainService}
    (hmoves : role = .Destination →
      ChainService.Moves (delivery keccak256 chains order_id) (w.services .Destination) s)
    (hrows : role = .Destination → ∀ token ∈ w.own_token order_id .Destination, ∀ p,
      s.local_service.preparations.load token = some p → p.state = .Released →
        ∃ q, (w.services .Destination).local_service.preparations.load token = some q ∧
          q.state = .Released) :
    Quiet keccak256 chains order_id w (w.set role s) := by
  by_cases hrole : role = .Destination
  · subst hrole
    refine ⟨rfl, ?_, ?_⟩
    · rw [set_same]
      exact hmoves rfl
    · rintro ⟨token, htoken, p, hp, hstate⟩
      rw [set_same] at hp
      obtain ⟨q, hq, hqstate⟩ := hrows rfl token htoken p hp hstate
      exact ⟨token, htoken, q, hq, hqstate⟩
  · have hother : (w.set role s).services .Destination = w.services .Destination :=
      set_other w s (Ne.symm hrole)
    refine ⟨rfl, ?_, ?_⟩
    · rw [hother]
      exact ChainService.Moves.refl
    · rintro ⟨token, htoken, p, hp, hstate⟩
      rw [hother] at hp
      exact ⟨token, htoken, p, hp, hstate⟩

/-- A change that leaves the preparations of the service alone. -/
theorem quiet_set_moves {role : LegRole} {s : ChainService}
    (hmoves : role = .Destination →
      ChainService.Moves (delivery keccak256 chains order_id) (w.services .Destination) s)
    (hrows : s.local_service.preparations = (w.services role).local_service.preparations) :
    Quiet keccak256 chains order_id w (w.set role s) := by
  apply quiet_set hmoves
  intro hrole token _ p hp hstate
  subst hrole
  rw [hrows] at hp
  exact ⟨p, hp, hstate⟩

theorem quiet_refl : Quiet keccak256 chains order_id w w :=
  ⟨rfl, ChainService.Moves.refl, fun h => h⟩

/-- **Outside events are quiet.** -/
theorem quiet_outside (event : SystemEvent) (w : CrossChainWorld) :
    Quiet keccak256 chains order_id w (outside keccak256 chains order_id event w) := by
  have hintent : delivery keccak256 chains order_id ∈
      own_intents keccak256 chains order_id .Destination := by
    simp [delivery, own_intents]
  match event with
  | .restart role budget =>
    apply quiet_set_moves
    · intro hrole
      subst hrole
      exact ChainService.moves_of_same rfl rfl
    · rfl
  | .elsewhere role local_service steps =>
    simp only [outside]
    split
    · rename_i huntouched
      apply quiet_set
      · intro hrole
        subst hrole
        exact ChainService.moves_of_same rfl rfl
      · intro hrole token htoken p hp hstate
        subst hrole
        have hsame := huntouched token htoken
        exact ⟨p, hsame ▸ hp, hstate⟩
    · exact quiet_refl
  | .saga saga =>
    simp only [outside]
    split
    · exact quiet_refl
    · rename_i hother
      have hsame : ({ w with sagas := w.sagas.insert saga.order_id saga } :
          CrossChainWorld).sagas.load order_id = w.sagas.load order_id :=
        get_insert_ne _ _ hother
      refine ⟨hsame, ChainService.Moves.refl, ?_⟩
      rintro ⟨token, htoken, p, hp, hstate⟩
      refine ⟨token, ?_, p, hp, hstate⟩
      unfold own_token at htoken ⊢
      rw [hsame] at htoken
      exact htoken
  | .mine role handle =>
    apply quiet_set_moves
    · intro hrole
      subst hrole
      exact ChainService.moves_mine _ _ handle
    · unfold ChainService.mine
      split <;> rfl
  | .report role handle status =>
    apply quiet_set_moves
    · intro hrole
      subst hrole
      exact (ChainService.settles_report _ handle status).moves
    · unfold ChainService.report
      split <;> rfl
  | .record_terminal role intent =>
    apply quiet_set_moves
    · intro hrole
      subst hrole
      exact ChainService.moves_record _ _ intent
    · rfl
  | .untrack role intent =>
    simp only [outside]
    split
    · rename_i hterminal
      apply quiet_set_moves
      · intro hrole
        subst hrole
        exact ChainService.moves_untrack _ _ hterminal
      · rfl
    · exact quiet_refl
  | .send role intent =>
    simp only [outside]
    split
    · exact quiet_refl
    · rename_i hforeign
      apply quiet_set_moves
      · intro hrole
        subst hrole
        apply ChainService.moves_send
        rintro rfl
        exact hforeign hintent
      · rfl
  | .track role intent reservation handle =>
    simp only [outside]
    split
    · exact quiet_refl
    · rename_i hforeign
      apply quiet_set_moves
      · intro hrole
        subst hrole
        apply ChainService.moves_track
        rintro rfl
        exact hforeign hintent
      · rfl

end Quiet

end CrossChainWorld

/-! ## Calls -/

/-- The call neither sends the intent nor releases a preparation. -/
def ServiceCall.Benign (intent : IntentId) : ServiceCall → Prop
  | .send k | .track k _ _ => k ≠ intent
  | .update p => p.state ≠ .Released
  | _ => True

namespace ChainService

/-- No preparation is released that was not. -/
def Releases (s s' : ChainService) : Prop :=
  ∀ token p, s'.local_service.preparations.load token = some p → p.state = .Released →
    ∃ q, s.local_service.preparations.load token = some q ∧ q.state = .Released

theorem releases_of_same {s s' : ChainService}
    (h : s'.local_service.preparations = s.local_service.preparations) : Releases s s' := by
  intro token p hp hstate
  rw [h] at hp
  exact ⟨p, hp, hstate⟩

/-- Writing a row that is not released. -/
theorem releases_of_write {s s' : ChainService} {q : Preparation} (hq : q.state ≠ .Released)
    (h : s'.local_service.preparations = s.local_service.preparations.write q) :
    Releases s s' := by
  intro token p hp hstate
  rw [h, SqlitePreparationStore.load_write] at hp
  split at hp
  · obtain rfl := Option.some.inj hp
    exact absurd hstate hq
  · exact ⟨p, hp, hstate⟩

variable {keccak256 : List UInt8 → B256} {intent : IntentId}

theorem preparations_reserve (s : LocalCrossChainService)
    (reads : LocalCrossChainService.PrepareReads) (p : Preparation) (quote : LegQuote) :
    (s.reserve reads p quote).2.preparations = s.preparations := by
  unfold LocalCrossChainService.reserve
  split <;> rfl

theorem releases_insert (s : ChainService) {p : Preparation} (hp : p.state ≠ .Released) :
    Releases s { s with local_service := (s.local_service.insert p).2 } := by
  rcases s.local_service.preparations.insert_cases p with ⟨e, heq⟩ | ⟨heq, _⟩ | ⟨heq, _⟩
  · apply releases_of_same
    simp [LocalCrossChainService.insert, heq]
  · apply releases_of_same
    simp [LocalCrossChainService.insert, heq]
  · apply releases_of_write hp
    simp [LocalCrossChainService.insert, heq]

theorem releases_update (s : ChainService) {p : Preparation} (hp : p.state ≠ .Released) :
    Releases s { s with local_service := (s.local_service.finish p).2 } := by
  rcases s.local_service.preparations.update_cases p with ⟨e, heq, _⟩ | ⟨heq, _⟩
  · apply releases_of_same
    simp [LocalCrossChainService.finish, heq]
  · apply releases_of_write hp
    simp [LocalCrossChainService.finish, heq]

theorem preparations_tick (s : ChainService) (reports : List (HandleId × ExecStatus)) :
    (reports.foldl (fun s r => s.report r.1 r.2) s).local_service = s.local_service := by
  induction reports generalizing s with
  | nil => rfl
  | cons r reports ih =>
    rw [List.foldl_cons, ih]
    unfold report
    split <;> rfl

/-- **What a benign call does** to the intent's sends and to the preparations. -/
theorem answer_benign (reads : ServiceReads) (s : ChainService) {c : ServiceCall}
    (hc : c.Benign intent) :
    Moves intent s (s.answer keccak256 reads c).2 ∧
      Releases s (s.answer keccak256 reads c).2 := by
  match c with
  | .validate_stage_context context => exact ⟨Moves.refl, releases_of_same rfl⟩
  | .validate_plan context plan =>
    simp only [answer]
    split
    · exact ⟨Moves.refl, releases_of_same rfl⟩
    · exact ⟨Moves.refl, releases_of_same rfl⟩
  | .stage order_id plan =>
    simp only [answer]
    split
    · exact ⟨Moves.refl, releases_of_same rfl⟩
    · exact ⟨Moves.refl, releases_of_same rfl⟩
    · exact ⟨moves_of_same rfl rfl, releases_of_same rfl⟩
  | .check_quote quote => exact ⟨Moves.refl, releases_of_same rfl⟩
  | .load_for_quote aggregate_id role => exact ⟨Moves.refl, releases_of_same rfl⟩
  | .reserve aggregate_id quote =>
    exact ⟨moves_of_same rfl rfl, releases_of_same (preparations_reserve _ _ _ _)⟩
  | .insert aggregate_id quote =>
    refine ⟨moves_of_same rfl rfl, releases_insert s ?_⟩
    simp [LocalCrossChainService.preparation_of]
  | .load_owned token => exact ⟨Moves.refl, releases_of_same rfl⟩
  | .now_unix => exact ⟨Moves.refl, releases_of_same rfl⟩
  | .commit token => exact ⟨moves_of_same rfl rfl, releases_of_same rfl⟩
  | .void token => exact ⟨moves_of_same rfl rfl, releases_of_same rfl⟩
  | .sources token => exact ⟨Moves.refl, releases_of_same rfl⟩
  | .post token filled => exact ⟨moves_of_same rfl rfl, releases_of_same rfl⟩
  | .update p => exact ⟨moves_of_same rfl rfl, releases_update s hc⟩
  | .aggregate_id order_id command => exact ⟨Moves.refl, releases_of_same rfl⟩
  | .load_step order_id command => exact ⟨Moves.refl, releases_of_same rfl⟩
  | .materialize step => exact ⟨Moves.refl, releases_of_same rfl⟩
  | .status k => exact ⟨Moves.refl, releases_of_same rfl⟩
  | .simulate k => exact ⟨Moves.refl, releases_of_same rfl⟩
  | .lookup k => exact ⟨Moves.refl, releases_of_same rfl⟩
  | .send k => exact ⟨moves_send s hc, releases_of_same rfl⟩
  | .track k reservation handle => exact ⟨moves_track s hc reservation handle, releases_of_same rfl⟩
  | .tick =>
    refine ⟨(settles_tick s reads.tick).moves, releases_of_same ?_⟩
    show (reads.tick.foldl (fun s r => s.report r.1 r.2) s).local_service.preparations = _
    rw [preparations_tick]

end ChainService

namespace CrossChainWorld

variable {keccak256 : List UInt8 → B256} {chains : LegRole → ChainId}
  {order_id : CrossChainOrderId}

/-- **Benign calls are quiet**, and so is every call at the origin. -/
theorem quiet_call {role : LegRole} {c : ServiceCall}
    (hc : role = .Destination → c.Benign (delivery keccak256 chains order_id))
    (reads : ServiceReads) (w : CrossChainWorld) :
    Quiet keccak256 chains order_id w
      (w.set role ((w.services role).answer keccak256 reads c).2) := by
  apply quiet_set
  · intro hrole
    subst hrole
    exact (ChainService.answer_benign reads _ (hc rfl)).1
  · intro hrole token _ p hp hstate
    subst hrole
    exact (ChainService.answer_benign reads _ (hc rfl)).2 token p hp hstate

end CrossChainWorld

/-! ## The terms -/

/-- The query that tracks a delivery of the order: the wallet has it, the service
    does not know it yet. -/
def SystemQuery.TracksDelivery (keccak256 : List UInt8 → B256) (chains : LegRole → ChainId)
    (order_id : CrossChainOrderId) : SystemQuery → Prop
  | .call .Destination (.track intent _ _) =>
    intent = CrossChainWorld.delivery keccak256 chains order_id
  | _ => False

instance (keccak256 : List UInt8 → B256) (chains : LegRole → ChainId)
    (order_id : CrossChainOrderId) (q : SystemQuery) :
    Decidable (q.TracksDelivery keccak256 chains order_id) := by
  unfold SystemQuery.TracksDelivery
  split <;> infer_instance

namespace CrossChainWorld

section Rules

variable (keccak256 : List UInt8 → B256) (chains : LegRole → ChainId)
  (order_id : CrossChainOrderId)

/-- A delivery is tracked once it is sent: the track is not lost, and nobody
    stops before it. -/
def terms : Terms SystemQuery SystemQuery.Answer CrossChainWorld SystemReads SystemEvent where
  toEnvironment := environment keccak256 chains order_id
  allowed := fun q reads => q.TracksDelivery keccak256 chains order_id → reads.lost = false
  point := fun q w => w.Safe keccak256 chains order_id ∧
    (q.TracksDelivery keccak256 chains order_id ∨
      (w.services .Destination).Known (delivery keccak256 chains order_id))
  critical := SystemQuery.TracksDelivery keccak256 chains order_id

/-- A call that keeps `Φ`. -/
def Keeps (Φ : CrossChainWorld → Prop) (role : LegRole) (c : ServiceCall) : Prop :=
  ∀ reads w, Holding keccak256 chains order_id Φ w →
    Holding keccak256 chains order_id Φ (w.set role ((w.services role).answer keccak256 reads c).2)

/-- A handler ends with `Ψ`, or fails between two calls of the proxy. -/
def Serves {α : Type} (role : LegRole) (h : Handler α) (Ψ : α → CrossChainWorld → Prop)
    (w : CrossChainWorld) : Prop :=
  (terms keccak256 chains order_id).wp (SystemProgram.at_service role h) (fun
    | some (.ok a) => Ψ a
    | _ => Quiescent keccak256 chains order_id) w

/-- A call of the proxy ends with `Ψ`, or fails. -/
def Proceeds {α : Type} (p : Proxy α) (Ψ : α → CrossChainWorld → Prop) (w : CrossChainWorld) :
    Prop :=
  (terms keccak256 chains order_id).wp
    (p.run.interpret (SystemProgram.refine keccak256 chains)) (fun
    | .ok a => Ψ a
    | .error _ => Quiescent keccak256 chains order_id) w

variable {keccak256 chains order_id}
variable {Φ : CrossChainWorld → Prop} {w : CrossChainWorld} {α β : Type}

theorem stable_holding (hΦ : Inert keccak256 chains order_id Φ) :
    (terms keccak256 chains order_id).Stable (Holding keccak256 chains order_id Φ) :=
  fun event w h => h.quiet hΦ (quiet_outside event w)

/-- A query other than the track of a delivery. -/
theorem wp_query {q : SystemQuery} {k : q.Answer → SystemProgram α}
    {Ψ : α → CrossChainWorld → Prop} (hΦ : Inert keccak256 chains order_id Φ)
    (hanswer : ∀ reads w, Holding keccak256 chains order_id Φ w →
      (terms keccak256 chains order_id).wp (k (w.answer keccak256 reads q).1) Ψ
        (w.answer keccak256 reads q).2)
    (h : Holding keccak256 chains order_id Φ w) :
    (terms keccak256 chains order_id).wp (.ask q k) Ψ w :=
  Terms.wp_ask _ (stable_holding hΦ) (fun _ hw => ⟨hw.1.1, .inr hw.1.2⟩)
    (fun reads w hw _ => hanswer reads w hw) h

/-! ## Handlers -/

theorem keeps_of_benign (hΦ : Inert keccak256 chains order_id Φ) {role : LegRole}
    {c : ServiceCall} (hc : role = .Destination → c.Benign (delivery keccak256 chains order_id)) :
    Keeps keccak256 chains order_id Φ role c :=
  fun reads w h => h.quiet hΦ (quiet_call hc reads w)

/-- A handler whose calls all keep `Φ` keeps it, however it ends. -/
theorem wp_at_service (hΦ : Inert keccak256 chains order_id Φ) {role : LegRole}
    {h : Handler α} (hall : h.run.All (Keeps keccak256 chains order_id Φ role))
    (hw : Holding keccak256 chains order_id Φ w) :
    (terms keccak256 chains order_id).wp (SystemProgram.at_service role h)
      (fun _ => Holding keccak256 chains order_id Φ) w := by
  unfold SystemProgram.at_service
  generalize h.run = p at hall ⊢
  induction p generalizing w with
  | ret a => exact hw
  | ask c k ih =>
    show (terms keccak256 chains order_id).wp (.ask (.call role c) _) _ w
    apply wp_query hΦ _ hw
    intro reads w hw
    by_cases hlost : reads.lost = true
    · simp only [answer, hlost]
      exact hw
    · simp only [answer, hlost]
      exact ih _ (hall.1 reads.service w hw) (hall.2 _)

section Serves

variable {role : LegRole} {Ψ : β → CrossChainWorld → Prop}

theorem serves_bind {x : Handler α} {f : α → Handler β}
    (h : Serves keccak256 chains order_id role x
      (fun a => Serves keccak256 chains order_id role (f a) Ψ) w) :
    Serves keccak256 chains order_id role (x >>= f) Ψ w := by
  unfold Serves SystemProgram.at_service
  rw [Program.except_bind, Program.attempt_bind]
  apply Terms.wp_bind
  apply Terms.wp_mono _ _ h
  intro answer w hw
  match answer with
  | none => exact hw
  | some (.ok a) => exact hw
  | some (.error e) => exact hw

theorem serves_pure {b : β} (h : Ψ b w) :
    Serves keccak256 chains order_id role (pure b) Ψ w := h

theorem serves_throw {e : SolventError} (h : Quiescent keccak256 chains order_id w) :
    Serves keccak256 chains order_id role (throw e) Ψ w := h

theorem serves_except {r : Except SolventError β} (hok : ∀ b, r = .ok b → Ψ b w)
    (herror : Quiescent keccak256 chains order_id w) :
    Serves keccak256 chains order_id role (ExceptT.mk (pure r)) Ψ w := by
  match r with
  | .ok b => exact hok b rfl
  | .error e => exact herror

/-- A handler whose calls all keep `Φ`. -/
theorem serves_all (hΦ : Inert keccak256 chains order_id Φ) {h : Handler β}
    (hall : h.run.All (Keeps keccak256 chains order_id Φ role))
    (hw : Holding keccak256 chains order_id Φ w) :
    Serves keccak256 chains order_id role h (fun _ => Holding keccak256 chains order_id Φ) w := by
  apply Terms.wp_mono _ _ (wp_at_service hΦ hall hw)
  intro answer w hw
  match answer with
  | none => exact hw.1
  | some (.ok a) => exact hw
  | some (.error e) => exact hw.1

/-- Benign calls, and then the rest. -/
theorem serves_benign (hΦ : Inert keccak256 chains order_id Φ) {x : Handler α}
    {f : α → Handler β} (hx : x.run.All (ServiceCall.Benign (delivery keccak256 chains order_id)))
    (hf : ∀ a w, Holding keccak256 chains order_id Φ w →
      Serves keccak256 chains order_id role (f a) Ψ w)
    (hw : Holding keccak256 chains order_id Φ w) :
    Serves keccak256 chains order_id role (x >>= f) Ψ w := by
  apply serves_bind
  have hall : x.run.All (Keeps keccak256 chains order_id Φ role) :=
    hx.mono fun c hc => keeps_of_benign hΦ fun _ => hc
  apply Terms.wp_mono _ _ (serves_all hΦ hall hw)
  intro answer w hw
  match answer with
  | none => exact hw
  | some (.ok a) => exact hf a w hw
  | some (.error e) => exact hw

/-- A call that is never refused. -/
theorem serves_get (hΦ : Inert keccak256 chains order_id Φ) {c : ServiceCall}
    {Ψ : c.Answer → CrossChainWorld → Prop}
    (hanswer : ∀ reads w, Holding keccak256 chains order_id Φ w →
      Ψ ((w.services role).answer keccak256 reads c).1
        (w.set role ((w.services role).answer keccak256 reads c).2))
    (hw : Holding keccak256 chains order_id Φ w) :
    Serves keccak256 chains order_id role (Handler.get c) Ψ w := by
  show (terms keccak256 chains order_id).wp (.ask (.call role c) _) _ w
  apply wp_query hΦ _ hw
  intro reads w hw
  by_cases hlost : reads.lost = true
  · simp only [answer, hlost]
    exact hw.1
  · simp only [answer, hlost]
    exact hanswer reads.service w hw

end Serves

/-! ## Requests -/

/-- A request ends as its handler does; a lost reply changes nothing. -/
theorem wp_request {role : LegRole} {r : RemoteRequest}
    {Φ : Option (Except SolventError r.Reply) → CrossChainWorld → Prop}
    {Ψ : Except RemoteSolventError r.Reply → CrossChainWorld → Prop}
    (hΦ : ∀ answer, Inert keccak256 chains order_id (Φ answer))
    (hserve : (terms keccak256 chains order_id).wp
      (SystemProgram.at_service role (Handler.serve keccak256 (chains role) r))
      (fun answer => Holding keccak256 chains order_id (Φ answer)) w)
    (hok : ∀ a w, Holding keccak256 chains order_id (Φ (some (.ok a))) w → Ψ (.ok a) w)
    (herror : ∀ answer e w, Holding keccak256 chains order_id (Φ answer) w → Ψ (.error e) w) :
    (terms keccak256 chains order_id).wp (SystemProgram.request keccak256 chains role r) Ψ w := by
  apply Terms.wp_bind
  apply Terms.wp_mono _ _ hserve
  intro answer w hw
  match answer with
  | none => exact herror none _ w hw
  | some (.ok a) =>
    show (terms keccak256 chains order_id).wp (.ask (.reply role) _) _ w
    apply wp_query (hΦ _) _ hw
    intro reads w hw
    match hlost : reads.lost with
    | true =>
      simp only [CrossChainWorld.answer, hlost]
      exact herror _ _ w hw
    | false =>
      simp only [CrossChainWorld.answer, hlost]
      exact hok a w hw
  | some (.error e) =>
    show (terms keccak256 chains order_id).wp (.ask (.reply role) _) _ w
    apply wp_query (hΦ _) _ hw
    intro reads w hw
    match hlost : reads.lost with
    | true =>
      simp only [CrossChainWorld.answer, hlost]
      exact herror _ _ w hw
    | false =>
      simp only [CrossChainWorld.answer, hlost]
      exact herror _ _ w hw

/-! ## Calls of the proxy -/

section Proceeds

variable {Ψ : β → CrossChainWorld → Prop}

theorem proceeds_bind {x : Proxy α} {f : α → Proxy β}
    (h : Proceeds keccak256 chains order_id x
      (fun a => Proceeds keccak256 chains order_id (f a) Ψ) w) :
    Proceeds keccak256 chains order_id (x >>= f) Ψ w := by
  unfold Proceeds
  rw [Program.except_bind, Program.interpret_bind]
  apply Terms.wp_bind
  apply Terms.wp_mono _ _ h
  intro answer w hw
  match answer with
  | .ok a => exact hw
  | .error e => exact hw

theorem proceeds_pure {b : β} (h : Ψ b w) :
    Proceeds keccak256 chains order_id (pure b) Ψ w := h

theorem proceeds_throw {e : SolventError} (h : Quiescent keccak256 chains order_id w) :
    Proceeds keccak256 chains order_id (throw e) Ψ w := h

theorem proceeds_except {r : Except SolventError β} (hok : ∀ b, r = .ok b → Ψ b w)
    (herror : Quiescent keccak256 chains order_id w) :
    Proceeds keccak256 chains order_id (ExceptT.mk (pure r)) Ψ w := by
  match r with
  | .ok b => exact hok b rfl
  | .error e => exact herror

theorem proceeds_mono {p : Proxy β} {Ψ' : β → CrossChainWorld → Prop}
    (h : ∀ b w, Ψ b w → Ψ' b w) (hp : Proceeds keccak256 chains order_id p Ψ w) :
    Proceeds keccak256 chains order_id p Ψ' w := by
  apply Terms.wp_mono _ _ hp
  intro answer w hw
  match answer with
  | .ok a => exact h a w hw
  | .error e => exact hw

/-- A request whose failure the caller looks at. -/
theorem proceeds_remote {role : LegRole} {r : RemoteRequest}
    {Ψ : Except RemoteSolventError r.Reply → CrossChainWorld → Prop}
    (h : (terms keccak256 chains order_id).wp (SystemProgram.request keccak256 chains role r) Ψ w) :
    Proceeds keccak256 chains order_id (Proxy.remote role r) Ψ w := by
  show (terms keccak256 chains order_id).wp ((SystemProgram.request keccak256 chains role r).bind _)
    _ w
  exact Terms.wp_bind _ h

/-- A request whose failure ends the call. -/
theorem proceeds_request {role : LegRole} {r : RemoteRequest}
    {Ψ : r.Reply → CrossChainWorld → Prop}
    (h : (terms keccak256 chains order_id).wp (SystemProgram.request keccak256 chains role r) (fun
      | .ok a => Ψ a
      | .error _ => Quiescent keccak256 chains order_id) w) :
    Proceeds keccak256 chains order_id (Proxy.request role r) Ψ w := by
  show (terms keccak256 chains order_id).wp ((SystemProgram.request keccak256 chains role r).bind _)
    _ w
  apply Terms.wp_bind
  apply Terms.wp_mono _ _ h
  intro answer w hw
  match answer with
  | .ok a => exact hw
  | .error e => exact hw

/-- A request whose calls all keep `Φ`. -/
theorem wp_request_all (hΦ : Inert keccak256 chains order_id Φ) {role : LegRole}
    {r : RemoteRequest}
    (hall : (Handler.serve keccak256 (chains role) r).run.All
      (Keeps keccak256 chains order_id Φ role))
    (hw : Holding keccak256 chains order_id Φ w) :
    (terms keccak256 chains order_id).wp (SystemProgram.request keccak256 chains role r)
      (fun _ => Holding keccak256 chains order_id Φ) w :=
  wp_request (fun _ => hΦ) (wp_at_service hΦ hall hw) (fun _ _ h => h) (fun _ _ _ h => h)

theorem proceeds_remote_all (hΦ : Inert keccak256 chains order_id Φ) {role : LegRole}
    {r : RemoteRequest}
    (hall : (Handler.serve keccak256 (chains role) r).run.All
      (Keeps keccak256 chains order_id Φ role))
    (hw : Holding keccak256 chains order_id Φ w) :
    Proceeds keccak256 chains order_id (Proxy.remote role r)
      (fun _ => Holding keccak256 chains order_id Φ) w :=
  proceeds_remote (wp_request_all hΦ hall hw)

theorem proceeds_request_all (hΦ : Inert keccak256 chains order_id Φ) {role : LegRole}
    {r : RemoteRequest}
    (hall : (Handler.serve keccak256 (chains role) r).run.All
      (Keeps keccak256 chains order_id Φ role))
    (hw : Holding keccak256 chains order_id Φ w) :
    Proceeds keccak256 chains order_id (Proxy.request role r)
      (fun _ => Holding keccak256 chains order_id Φ) w := by
  apply proceeds_request
  apply Terms.wp_mono _ _ (wp_request_all hΦ hall hw)
  intro answer w hw
  match answer with
  | .ok a => exact hw
  | .error e => exact hw.1

end Proceeds

end Rules

end CrossChainWorld

end Solvent
