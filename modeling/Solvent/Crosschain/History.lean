import Mathlib
import Solvent.Crosschain.Conforms

/-! # The history of an order

    The proxy's side of an order: the saga store, and everything the proxy has
    asked for the order with its answers. The services and the CCTP port are not
    modelled here. Whatever they answer is read from outside, anew at every
    request.

    The saga store applies its writes. The sagas written for the order, one after
    another, are a chain of the protocol's writes from a new saga; this is the
    invariant the properties of stored sagas follow from.
-/

namespace Solvent

open BTreeMap Interleave

/-! ## The world of the proxy -/

/-- A query and its answer. -/
abbrev Exchange : Type := (q : ProxyQuery) × q.Answer

/-- The saga that is in the store because of an exchange. -/
def Exchange.written : Exchange → Option CrossChainSaga
  | ⟨.insert _, .ok saga⟩ => some saga
  | ⟨.update saga, .ok ()⟩ => some saga
  | _ => none

/-- The sagas written, in order. -/
def writes (history : List Exchange) : List CrossChainSaga :=
  history.filterMap Exchange.written

/-- What a query is answered with from outside. -/
structure ProxyReads where
  /-- The saga cannot be loaded. -/
  unreadable : Bool
  remote : (r : RemoteRequest) → Except RemoteSolventError r.Reply
  quote_terms : Except CctpCompletionError CctpQuoteTerms
  close_step : Except CctpCompletionError CctpPreparedStep
  author_direct : Except RemoteSolventError DirectExecutionPlans

structure ProxyWorld where
  sagas : SqliteSagaStore
  history : List Exchange

namespace ProxyWorld

def respond (reads : ProxyReads) : (q : ProxyQuery) → SqliteSagaStore → q.Answer × SqliteSagaStore
  | .load order_id, sagas =>
    if reads.unreadable then (.error unreachable_store, sagas)
    else (.ok (sagas.load order_id), sagas)
  | .insert saga, sagas => sagas.insert_new saga
  | .update saga, sagas => sagas.update saga
  | .remote _ r, sagas => (reads.remote r, sagas)
  | .quote_terms _, sagas => (reads.quote_terms, sagas)
  | .close_step _ _, sagas => (reads.close_step, sagas)
  | .author_direct _, sagas => (reads.author_direct, sagas)

def answer (reads : ProxyReads) (q : ProxyQuery) (w : ProxyWorld) : q.Answer × ProxyWorld :=
  ((respond reads q w.sagas).1,
    { sagas := (respond reads q w.sagas).2
      history := w.history ++ [⟨q, (respond reads q w.sagas).1⟩] })

/-- The programs of the order `order_id`. Outside, the proxy writes the sagas of
    other orders. -/
def environment (order_id : CrossChainOrderId) :
    Environment ProxyQuery ProxyQuery.Answer ProxyWorld ProxyReads CrossChainSaga where
  answer := answer
  outside := fun saga w =>
    if saga.order_id = order_id then w
    else { w with sagas := w.sagas.insert saga.order_id saga }

/-- Before the order is known. -/
def before (sagas : SqliteSagaStore) : ProxyWorld := { sagas, history := [] }

end ProxyWorld

/-- A call of the proxy as a program of the order. -/
def ProxyCall.proxy_entry (keccak256 : List UInt8 → B256) (cctp : Bool)
    (order_id : CrossChainOrderId) (c : ProxyCall) : Program ProxyQuery ProxyQuery.Answer Unit :=
  (c.program keccak256 cctp order_id).run.bind fun _ => .ret ()

theorem ProxyCall.obeys (keccak256 : List UInt8 → B256) (cctp : Bool)
    (order_id : CrossChainOrderId) (c : ProxyCall) :
    (order_protocol order_id).Obeys (c.proxy_entry keccak256 cctp order_id)
      (fun _ t => t.Settled) .unread := by
  apply Protocol.obeys_bind
  refine Protocol.obeys_mono _ ?_ (c.conforms keccak256 cctp order_id)
  intro answer t ht
  match answer with
  | .ok _ => exact ht
  | .error _ => exact ht

/-- The calls of the proxy for the order `order_id`. -/
def ProxyWorld.machine (keccak256 : List UInt8 → B256) (cctp : Bool)
    (order_id : CrossChainOrderId) :
    Machine ProxyWorld ProxyCall (Program ProxyQuery ProxyQuery.Answer Unit) ProxyReads Unit
      CrossChainSaga :=
  (ProxyWorld.environment order_id).machine (ProxyCall.proxy_entry keccak256 cctp order_id)

/-- One call after another, with any answers. A call may be cut short where
    `stops`. -/
abbrev ProxyWorld.OneByOne (stops : Prop) :
    World ProxyWorld (Program ProxyQuery ProxyQuery.Answer Unit) →
      Action ProxyCall ProxyReads Unit CrossChainSaga → Prop :=
  Protocol.Orderly (fun _ _ _ => True) stops

/-! ## The store -/

variable {order_id : CrossChainOrderId} {w : ProxyWorld} {reads : ProxyReads}

namespace ProxyWorld

/-- Queries that leave the store as it is. -/
def ReadOnly : ProxyQuery → Prop
  | .insert _ | .update _ => False
  | _ => True

theorem respond_read_only {q : ProxyQuery} (hq : ReadOnly q) (sagas : SqliteSagaStore) :
    (respond reads q sagas).2 = sagas := by
  cases q with
  | load id =>
    unfold respond
    split <;> rfl
  | insert _ => exact hq.elim
  | update _ => exact hq.elim
  | remote _ _ | quote_terms _ | close_step _ _ | author_direct _ => rfl

theorem written_read_only {q : ProxyQuery} (hq : ReadOnly q) (a : q.Answer) :
    Exchange.written ⟨q, a⟩ = none := by
  cases q with
  | insert _ => exact hq.elim
  | update _ => exact hq.elim
  | load _ | remote _ _ | quote_terms _ | close_step _ _ | author_direct _ => rfl

/-- An update of a row that is there. -/
theorem respond_update {saga stored : CrossChainSaga} {sagas : SqliteSagaStore}
    (hstored : sagas.load saga.order_id = some stored) :
    respond reads (.update saga) sagas = (.ok (), sagas.insert saga.order_id saga) := by
  show sagas.update saga = _
  simp only [SqliteSagaStore.update, hstored]
  rfl

/-- An insertion writes the row, finds it as it would write it, or conflicts. -/
theorem respond_insert (reads : ProxyReads) (saga : CrossChainSaga) (sagas : SqliteSagaStore) :
    (sagas.load saga.order_id = none ∧
        respond reads (.insert saga) sagas = (.ok saga, sagas.insert saga.order_id saga)) ∨
      (sagas.load saga.order_id = some saga ∧
        respond reads (.insert saga) sagas = (.ok saga, sagas)) ∨
      respond reads (.insert saga) sagas = (.error .Conflict, sagas) := by
  show _ ∨ (_ ∧ sagas.insert_new saga = _) ∨ sagas.insert_new saga = _
  match hrow : sagas.load saga.order_id with
  | none =>
    left
    refine ⟨rfl, ?_⟩
    show sagas.insert_new saga = _
    simp only [SqliteSagaStore.insert_new, hrow]
    rfl
  | some stored =>
    right
    by_cases hsame : stored = saga
    · left
      subst hsame
      refine ⟨rfl, ?_⟩
      simp only [SqliteSagaStore.insert_new, hrow, if_true]
      rfl
    · right
      simp only [SqliteSagaStore.insert_new, hrow, if_neg hsame]
      rfl

theorem load_insert (sagas : SqliteSagaStore) (saga : CrossChainSaga) (id : CrossChainOrderId) :
    SqliteSagaStore.load (sagas.insert saga.order_id saga) id =
      if saga.order_id = id then some saga else sagas.load id := by
  exact BTreeMap.get_insert sagas saga.order_id id saga

end ProxyWorld

/-- A request leaves a call at the version it has. -/
theorem Turn.next_remote {saga : CrossChainSaga} {heard : Option (RemoteCommand × RemoteProgress)}
    {role : LegRole} {r : RemoteRequest} (answer : Except RemoteSolventError r.Reply) :
    ∃ heard', Turn.next (.at_saga saga heard) (.remote role r) answer = .at_saga saga heard' := by
  match r, answer with
  | .command _ _ _ _, .ok _ => exact ⟨_, rfl⟩
  | .command _ _ _ _, .error _ => exact ⟨_, rfl⟩
  | .stage _ _, _ | .stage_cctp_completion _ _ _, _ | .prepare _ _, _ | .commit _, _
  | .inspect _, _ | .release _, _ => exact ⟨_, rfl⟩

/-! ## Chains of writes -/

/-- What may hold of a version and what was heard when the next one is written. -/
abbrev Occasion : Type := CrossChainSaga → Option (RemoteCommand × RemoteProgress) → Prop

/-- The next version: the same one, or one the protocol writes on an occasion
    in `C`. -/
def Follows (C : Occasion) (saga next : CrossChainSaga) : Prop :=
  next = saga ∨ ∃ heard, Write saga heard next ∧ C saga heard

/-- **The history of an order.** The row is the last saga written; the first is
    new, and each follows the one before it. -/
structure Linked (C : Occasion) (order_id : CrossChainOrderId) (w : ProxyWorld) : Prop where
  row : w.sagas.load order_id = (writes w.history).getLast?
  new : ∀ saga ∈ (writes w.history).head?, New order_id saga
  chain : (writes w.history).IsChain (Follows C)

namespace Linked

variable {C : Occasion}

theorem before {sagas : SqliteSagaStore} (hnew : sagas.load order_id = none) :
    Linked C order_id (ProxyWorld.before sagas) where
  row := hnew
  new := by simp [ProxyWorld.before, writes]
  chain := List.IsChain.nil

theorem outside (h : Linked C order_id w) (saga : CrossChainSaga) :
    Linked C order_id ((ProxyWorld.environment order_id).outside saga w) := by
  show Linked C order_id (if _ then _ else _)
  split
  case isTrue => exact h
  case isFalse hother =>
    refine ⟨?_, h.new, h.chain⟩
    show SqliteSagaStore.load (w.sagas.insert saga.order_id saga) order_id = _
    rw [ProxyWorld.load_insert, if_neg hother]
    exact h.row

theorem read_only (h : Linked C order_id w) {q : ProxyQuery} (hq : ProxyWorld.ReadOnly q) :
    Linked C order_id (w.answer reads q).2 := by
  have hwrites : writes (w.answer reads q).2.history = writes w.history := by
    show List.filterMap Exchange.written (w.history ++ [_]) = _
    rw [List.filterMap_append]
    simp [writes, ProxyWorld.written_read_only hq]
  have hsagas : (w.answer reads q).2.sagas = w.sagas := ProxyWorld.respond_read_only hq w.sagas
  exact ⟨by rw [hsagas, hwrites]; exact h.row, by rw [hwrites]; exact h.new,
    by rw [hwrites]; exact h.chain⟩

/-- One more write. -/
theorem wrote (h : Linked C order_id w) (saga : CrossChainSaga) {w' : ProxyWorld}
    (hwrites : writes w'.history = writes w.history ++ [saga])
    (hrow : w'.sagas.load order_id = some saga)
    (hnew : w.sagas.load order_id = none → New order_id saga)
    (hnext : ∀ stored, w.sagas.load order_id = some stored → Follows C stored saga) :
    Linked C order_id w' := by
  rw [h.row] at hnew hnext
  refine ⟨?_, ?_, ?_⟩
  · rw [hwrites, hrow, List.getLast?_concat]
  · rw [hwrites]
    match hlist : writes w.history with
    | [] =>
      rw [hlist] at hnew
      simpa using hnew rfl
    | first :: rest =>
      have hfirst := h.new
      rw [hlist] at hfirst
      simpa using hfirst
  · rw [hwrites, List.isChain_append]
    refine ⟨h.chain, List.isChain_singleton _, ?_⟩
    intro stored hstored next hnext'
    obtain rfl : saga = next := by simpa using hnext'
    exact hnext stored hstored

/-- An insertion, in any world. -/
theorem insert (h : Linked C order_id w) {saga : CrossChainSaga} (hnew : New order_id saga) :
    Linked C order_id (w.answer reads (.insert saga)).2 := by
  have hid : saga.order_id = order_id := hnew.order_id
  rcases ProxyWorld.respond_insert reads saga w.sagas with
    ⟨hrow, hinsert⟩ | ⟨hrow, hinsert⟩ | hinsert
  · refine h.wrote saga ?_ ?_ (fun _ => hnew) ?_
    · simp [ProxyWorld.answer, writes, hinsert, Exchange.written]
    · show SqliteSagaStore.load (ProxyWorld.respond reads (.insert saga) w.sagas).2 order_id = _
      rw [hinsert, ProxyWorld.load_insert, if_pos hid]
    · intro stored hstored
      rw [← hid, hrow] at hstored
      cases hstored
  · refine h.wrote saga ?_ ?_ (fun _ => hnew) ?_
    · simp [ProxyWorld.answer, writes, hinsert, Exchange.written]
    · show SqliteSagaStore.load (ProxyWorld.respond reads (.insert saga) w.sagas).2 order_id = _
      rw [hinsert, ← hid]
      exact hrow
    · intro stored hstored
      rw [← hid, hrow] at hstored
      exact .inl (Option.some.inj hstored)
  · have hsagas : (w.answer reads (.insert saga)).2.sagas = w.sagas := by
      show (ProxyWorld.respond reads (.insert saga) w.sagas).2 = _
      rw [hinsert]
    have hwrites : writes (w.answer reads (.insert saga)).2.history = writes w.history := by
      simp [ProxyWorld.answer, writes, hinsert, Exchange.written]
    exact ⟨by rw [hsagas, hwrites]; exact h.row, by rw [hwrites]; exact h.new,
      by rw [hwrites]; exact h.chain⟩

/-- A write the protocol permits over the version the call has seen. -/
theorem update (h : Linked C order_id w) {saga saga' : CrossChainSaga}
    {heard : Option (RemoteCommand × RemoteProgress)} (hrow : w.sagas.load order_id = some saga)
    (hid : saga'.order_id = order_id) (hwrite : Write saga heard saga') (hC : C saga heard) :
    Linked C order_id (w.answer reads (.update saga')).2 := by
  have hupdate : ProxyWorld.respond reads (.update saga') w.sagas = _ :=
    ProxyWorld.respond_update (by rw [hid]; exact hrow)
  refine h.wrote saga' ?_ ?_ ?_ ?_
  · simp [ProxyWorld.answer, writes, hupdate, Exchange.written]
  · show SqliteSagaStore.load (ProxyWorld.respond reads (.update saga') w.sagas).2 order_id = _
    rw [hupdate, ProxyWorld.load_insert, if_pos hid]
  · intro hnone
    rw [hrow] at hnone
    cases hnone
  · intro stored hstored
    rw [hrow] at hstored
    obtain rfl := Option.some.inj hstored
    exact .inr ⟨heard, hwrite, hC⟩

end Linked

end Solvent
