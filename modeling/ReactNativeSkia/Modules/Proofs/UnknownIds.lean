import ReactNativeSkia.Misc.Run
import ReactNativeSkia.Modules.Proofs.NetworkingSteps
import ReactNativeSkia.Modules.WebSocketModule

/-!
# Unknown ids

Both modules look an id up with the index operator of the map, which puts a null pointer into the
table for an id that is not there. Nothing is queued for it, but the entry stays, so the table has
only ids of opened requests as long as no other id is asked for.
-/

namespace ReactNativeSkia

theorem update_ne_self {α β : Type} [DecidableEq α] {f : α → Option β} {a : α} (h : f a = none)
    (b : β) : Function.update f a (some b) ≠ f := by
  intro heq
  have hvalue := congrFun heq a
  rw [Function.update_self, h] at hvalue
  cases hvalue

/-- A key of an updated table is the one that has been stored or was a key before. -/
theorem key_of_update {α β : Type} [DecidableEq α] {f : α → Option β} {a key : α}
    {value : Option β} (h : Function.update f key value a ≠ none) :
    a = key ∧ value ≠ none ∨ f a ≠ none := by
  by_cases heq : a = key
  · subst heq
    rw [Function.update_self] at h
    exact .inl ⟨rfl, h⟩
  · rw [Function.update_of_ne heq] at h
    exact .inr h

/-! ## The web socket module -/

/-- The id that a method asks for. -/
def WebSocketModuleOp.asks : WebSocketModuleOp → Option Int
  | getClose _ _ socketID | send _ socketID | sendBinary _ socketID | ping socketID => some socketID
  | _ => none

/-- A method is called only with an id that has been opened. -/
def WebSocketModuleOp.Known (s : WebSocketModule) (op : WebSocketModuleOp) : Prop :=
  ∀ socketID ∈ op.asks, socketID ∈ s.opened

instance (s : WebSocketModule) (op : WebSocketModuleOp) : Decidable (op.Known s) :=
  inferInstanceAs (Decidable (∀ _ ∈ op.asks, _))

namespace WebSocketModule

variable {s s' : WebSocketModule} {op : WebSocketModuleOp}

def OnlyOpened (s : WebSocketModule) : Prop :=
  ∀ socketID, s.connectionList_ socketID ≠ none → socketID ∈ s.opened

theorem lookup_of_unknown {socketID : Int} (h : s.connectionList_ socketID = none) :
    s.lookup socketID =
      { s with connectionList_ := Function.update s.connectionList_ socketID (some none) } := by
  rw [lookup, h]

theorem lookup_of_known {socketID : Int} (h : s.connectionList_ socketID ≠ none) :
    s.lookup socketID = s := by
  rw [lookup]
  split
  · rfl
  · exact absurd ‹_› h

/-- The error path of all four methods. -/
theorem call_of_unknown {socketID : Int} (h : s.connectionList_ socketID = none)
    (webSocketCall : WebSocketCall) :
    s.call socketID webSocketCall =
      { s with connectionList_ := Function.update s.connectionList_ socketID (some none) } := by
  simp only [call, lookup_of_unknown h, Function.update_self]

theorem connectionList_call (s : WebSocketModule) (socketID : Int)
    (webSocketCall : WebSocketCall) :
    (s.call socketID webSocketCall).connectionList_ = (s.lookup socketID).connectionList_ := by
  simp only [call]
  split
  · rfl
  · rfl

theorem opened_call (s : WebSocketModule) (socketID : Int) (webSocketCall : WebSocketCall) :
    (s.call socketID webSocketCall).opened = s.opened := by
  have hlookup : (s.lookup socketID).opened = s.opened := by
    rw [lookup]
    split
    · rfl
    · rfl
  simp only [call]
  split
  · exact hlookup
  · exact hlookup

theorem keys_call (s : WebSocketModule) (socketID id : Int) (webSocketCall : WebSocketCall) :
    (s.call socketID webSocketCall).connectionList_ id ≠ none ↔
      s.connectionList_ id ≠ none ∨ id = socketID := by
  rw [connectionList_call]
  by_cases hknown : s.connectionList_ socketID = none
  · rw [lookup_of_unknown hknown]
    by_cases hid : id = socketID
    · simp [hid]
    · simp [hid]
  · rw [lookup_of_known hknown]
    constructor
    · intro h
      exact .inl h
    · rintro (h | rfl)
      · exact h
      · exact hknown

theorem exec_of_asks {socketID : Int} (h : op.asks = some socketID) :
    ∃ webSocketCall, op.exec s = some (s.call socketID webSocketCall) := by
  cases op with
  | getClose code reason id => cases h; exact ⟨.close code reason, rfl⟩
  | send message id => cases h; exact ⟨.send message, rfl⟩
  | sendBinary base64String id => cases h; exact ⟨.sendBinary base64String, rfl⟩
  | ping id => cases h; exact ⟨.ping, rfl⟩
  | _ => cases h

/-- The callbacks store and erase ids of requests, which have been opened. -/
structure Opened (s : WebSocketModule) : Prop where
  table : s.OnlyOpened
  requests : ∀ (request : Nat) (websocketRequest : WebsocketRequest),
    s.requests[request]? = some websocketRequest → websocketRequest.socketID ∈ s.opened

theorem opened_init : Opened {} := ⟨fun _ h => absurd rfl h, nofun⟩

theorem Opened.getConnect (h : s.Opened) (socketID : Int) : (s.getConnect socketID).Opened := by
  constructor
  · intro id hid
    exact List.mem_append_left _ (h.table id hid)
  · intro request websocketRequest hrequest
    show websocketRequest.socketID ∈ s.opened ++ [socketID]
    have hmem := List.mem_of_getElem? hrequest
    rcases List.mem_append.mp hmem with hmem | hmem
    · obtain ⟨i, hi⟩ := List.getElem?_of_mem hmem
      exact List.mem_append_left _ (h.requests i websocketRequest hi)
    · rw [List.mem_singleton.mp hmem]
      exact List.mem_append_right _ List.mem_cons_self

theorem Opened.call (h : s.Opened) {socketID : Int} (hopened : socketID ∈ s.opened)
    (webSocketCall : WebSocketCall) : (s.call socketID webSocketCall).Opened := by
  constructor
  · intro id hid
    rw [opened_call]
    rcases (keys_call s socketID id webSocketCall).mp hid with hid | rfl
    · exact h.table id hid
    · exact hopened
  · intro request websocketRequest hrequest
    rw [opened_call]
    have hlookup : (s.lookup socketID).requests = s.requests := by
      rw [lookup]
      split
      · rfl
      · rfl
    simp only [WebSocketModule.call] at hrequest
    split at hrequest
    · simp only [List.getElem?_modify, hlookup, Option.map_eq_map, Option.map_eq_some_iff]
        at hrequest
      obtain ⟨old, hold, rfl⟩ := hrequest
      have hid := h.requests request old hold
      split
      · exact hid
      · exact hid
    · rw [hlookup] at hrequest
      exact h.requests request websocketRequest hrequest

theorem Opened.connectCallback (h : s.Opened) (request : Nat) {socketID : Int}
    (hopened : socketID ∈ s.opened) : (s.connectCallback request socketID).Opened := by
  refine ⟨fun id hid => ?_, h.requests⟩
  rcases key_of_update hid with ⟨rfl, -⟩ | hid
  · exact hopened
  · exact h.table id hid

theorem Opened.disconnectCallback (h : s.Opened) (socketID : Int) :
    (s.disconnectCallback socketID).Opened := by
  refine ⟨fun id hid => ?_, h.requests⟩
  rcases key_of_update hid with ⟨-, hvalue⟩ | hid
  · exact absurd rfl hvalue
  · exact h.table id hid

theorem Opened.exec (h : s.Opened) (hknown : op.Known s) (hexec : op.exec s = some s') :
    s'.Opened := by
  cases hasks : op.asks with
  | some socketID =>
    obtain ⟨webSocketCall, hcall⟩ := exec_of_asks (s := s) hasks
    rw [hcall] at hexec
    cases hexec
    exact h.call (hknown socketID hasks) webSocketCall
  | none =>
    cases op with
    | getConnect socketID =>
      cases hexec
      exact h.getConnect socketID
    | pop =>
      simp only [WebSocketModuleOp.exec] at hexec
      split at hexec
      · cases hexec
      · cases hexec
        exact ⟨h.table, h.requests⟩
    | connected request =>
      simp only [WebSocketModuleOp.exec] at hexec
      split at hexec
      · rename_i websocketRequest hrequest
        cases hexec
        exact h.connectCallback request (h.requests request websocketRequest hrequest)
      · cases hexec
    | disconnected request =>
      simp only [WebSocketModuleOp.exec] at hexec
      split at hexec
      · obtain ⟨-, hsome⟩ := Option.ite_none_right_eq_some.mp hexec
        cases hsome
        exact h.disconnectCallback _
      · cases hexec
    | _ => cases hasks

theorem run_opened (h : Run webSocketModuleStep WebSocketModuleOp.Known {} s) : s.Opened := by
  apply Run.invariant _ h opened_init
  intro t op t' ht hknown hstep
  exact ht.exec hknown hstep

/-- The first call with an id that has not been opened puts it into the table. -/
theorem Opened.onlyOpened_iff (h : s.Opened) (hexec : op.exec s = some s') :
    s'.OnlyOpened ↔ op.Known s := by
  constructor
  · intro hs' socketID hasks
    obtain ⟨webSocketCall, hcall⟩ := exec_of_asks (s := s) hasks
    rw [hcall] at hexec
    cases hexec
    have hkey := (keys_call s socketID socketID webSocketCall).mpr (.inr rfl)
    rw [← opened_call s socketID webSocketCall]
    exact hs' socketID hkey
  · intro hknown
    exact (h.exec hknown hexec).table

end WebSocketModule

/-! ## The networking module -/

/-- `abortRequest` is called only with an id that has been handed out. -/
def NetworkingOp.Known (s : NetworkingModule) : NetworkingOp → Prop
  | .abortRequest requestId => toInt requestId ∈ s.ids
  | _ => True

instance decidableNetworkingKnown (s : NetworkingModule) :
    ∀ op : NetworkingOp, Decidable (op.Known s)
  | .abortRequest requestId => inferInstanceAs (Decidable (toInt requestId ∈ s.ids))
  | .sendRequest _ | .curl _ | .returned | .store | .complete | .provide _ | .remove =>
    isTrue trivial

namespace NetworkingModule

variable {query : Nat → CurlRequest} {networkRequest : Nat → NetworkRequest}
  {s s' : NetworkingModule} {op : NetworkingOp}

def OnlyOpened (s : NetworkingModule) : Prop :=
  ∀ id, s.connectionList id ≠ none → id ∈ s.ids

/-- The error path of `abortRequest`. -/
theorem abortRequest_of_unknown {requestId : Int} (hjs : s.js = .idle)
    (h : s.connectionList (toInt requestId) = none) :
    NetworkingOp.exec query networkRequest s (.abortRequest requestId) =
      some { s with
        connectionList := Function.update s.connectionList (toInt requestId) (some none) } := by
  simp only [NetworkingOp.exec, if_pos hjs, h]

/-- The request that is being sent has its id already. -/
structure Opened (s : NetworkingModule) : Prop where
  table : s.OnlyOpened
  sending : ∀ request, s.js = .sending request ∨ s.js = .storing request →
    s.requestId_ request ∈ s.ids

theorem opened_init : Opened {} := ⟨fun _ h => absurd rfl h, nofun⟩

theorem OnlyOpened.erase (h : s.OnlyOpened) (key : Int) :
    ∀ id, Function.update s.connectionList key none id ≠ none → id ∈ s.ids := by
  intro id hid
  rcases key_of_update hid with ⟨-, hvalue⟩ | hid
  · exact absurd rfl hvalue
  · exact h id hid

theorem OnlyOpened.store (h : s.OnlyOpened) {key : Int} (hkey : key ∈ s.ids)
    (value : Option (Option Nat)) :
    ∀ id, Function.update s.connectionList key value id ≠ none → id ∈ s.ids := by
  intro id hid
  rcases key_of_update hid with ⟨rfl, -⟩ | hid
  · exact hkey
  · exact h id hid

theorem Opened.exec (h : s.Opened) (hknown : op.Known s)
    (hexec : op.exec query networkRequest s = some s') : s'.Opened := by
  cases NetworkingOp.exec_branch hexec with
  | sendRequest r hjs hfresh hcurl =>
    constructor
    · intro id hid
      exact List.mem_append_left _ (h.table id hid)
    · rintro request (hrequest | hrequest)
      · cases hrequest
        show Function.update s.requestId_ r s.newId r ∈ s.ids ++ [s.newId]
        rw [Function.update_self]
        exact List.mem_append_right _ List.mem_cons_self
      · cases hrequest
  | curl inner curl hinner hcurl =>
    cases inner.readRequest with
    | none => exact ⟨h.table, h.sending⟩
    | some read => exact ⟨h.table, h.sending⟩
  | accepted r hjs hcaller haccepted =>
    refine ⟨h.table, ?_⟩
    rintro request (hrequest | hrequest)
    · cases hrequest
    · cases hrequest
      exact h.sending r (.inl hjs)
  | rejected r hjs hcaller hrejected => exact ⟨h.table, nofun⟩
  | store r hjs => exact ⟨h.table.store (h.sending r (.inr hjs)) _, nofun⟩
  | completion op r curlOp curl hop hjs hcurl hcompletion =>
    exact ⟨h.table.erase _, h.sending⟩
  | missing id hjs hentry =>
    exact ⟨h.table.store hknown _, h.sending⟩
  | found id r hjs hentry hhandle hcurl => exact ⟨h.table, nofun⟩
  | noHandle id r hjs hentry hcaller hhandle => exact ⟨h.table, nofun⟩
  | remove r curl hjs hcurl => exact ⟨h.table.erase _, nofun⟩

theorem run_opened (h : Run (networkingStep query networkRequest) NetworkingOp.Known {} s) :
    s.Opened := by
  apply Run.invariant _ h opened_init
  intro t op t' ht hknown hstep
  exact ht.exec hknown hstep

/-- The first call with an id that has not been handed out puts it into the table. -/
theorem Opened.onlyOpened_iff (h : s.Opened) (hexec : op.exec query networkRequest s = some s') :
    s'.OnlyOpened ↔ op.Known s := by
  constructor
  · intro hs'
    cases op with
    | abortRequest requestId =>
      by_cases hentry : s.connectionList (toInt requestId) = none
      · obtain ⟨hjs, -⟩ := Option.ite_none_right_eq_some.mp hexec
        rw [abortRequest_of_unknown hjs hentry] at hexec
        cases hexec
        exact hs' (toInt requestId) (by simp)
      · exact h.table (toInt requestId) hentry
    | _ => trivial
  · intro hknown
    exact (h.exec hknown hexec).table

end NetworkingModule

/-! ## Both modules -/

/-- No call with an id that is not in the table leaves the table as it is, though none of them
queues anything. The tables have only ids of opened requests in the runs whose calls are all for
opened ids, up to the first call that is not. -/
theorem unknown_ids (query : Nat → CurlRequest) (networkRequest : Nat → NetworkRequest) :
    (∀ (s : WebSocketModule) (op : WebSocketModuleOp) (socketID : Int),
      op.asks = some socketID → s.connectionList_ socketID = none →
        ∃ s', op.exec s = some s' ∧ s'.connectionList_ ≠ s.connectionList_ ∧
          s'.RequestQueue_ = s.RequestQueue_) ∧
    (∀ (s : NetworkingModule) (requestId : Int),
      s.js = .idle → s.connectionList (toInt requestId) = none →
        ∃ s', NetworkingOp.exec query networkRequest s (.abortRequest requestId) = some s' ∧
          s'.connectionList ≠ s.connectionList ∧ s'.curl = s.curl) ∧
    (∀ s : WebSocketModule, Run webSocketModuleStep WebSocketModuleOp.Known {} s →
      s.OnlyOpened ∧
        ∀ (op : WebSocketModuleOp) (s' : WebSocketModule), op.exec s = some s' →
          (s'.OnlyOpened ↔ op.Known s)) ∧
    ∀ s : NetworkingModule,
      Run (networkingStep query networkRequest) NetworkingOp.Known {} s →
      s.OnlyOpened ∧
        ∀ (op : NetworkingOp) (s' : NetworkingModule), op.exec query networkRequest s = some s' →
          (s'.OnlyOpened ↔ op.Known s) := by
  refine ⟨?_, ?_, ?_, ?_⟩
  · intro s op socketID hasks hunknown
    obtain ⟨webSocketCall, hcall⟩ := WebSocketModule.exec_of_asks (s := s) hasks
    refine ⟨_, hcall, ?_, ?_⟩
    · rw [WebSocketModule.call_of_unknown hunknown]
      exact update_ne_self hunknown none
    · rw [WebSocketModule.call_of_unknown hunknown]
  · intro s requestId hjs hunknown
    exact ⟨_, NetworkingModule.abortRequest_of_unknown hjs hunknown,
      update_ne_self hunknown none, rfl⟩
  · intro s hrun
    have hopened := WebSocketModule.run_opened hrun
    exact ⟨hopened.table, fun op s' hexec => hopened.onlyOpened_iff hexec⟩
  · intro s hrun
    have hopened := NetworkingModule.run_opened hrun
    exact ⟨hopened.table, fun op s' hexec => hopened.onlyOpened_iff hexec⟩

/-- A socket that is opened and used, and a call with another id. -/
theorem unknown_ids_open_socket :
    ∃ s s' : WebSocketModule, s.OnlyOpened ∧ s.connectionList_ 3 = some (some 0) ∧
      s.RequestQueue_ = [0] ∧ WebSocketModuleOp.exec s (.ping 7) = some s' ∧
      s'.connectionList_ ≠ s.connectionList_ ∧ s'.RequestQueue_ = s.RequestQueue_ := by
  have hfold : (([.getConnect 3, .pop, .connected 0, .ping 3] : List WebSocketModuleOp).foldlM
      (fun s (op : WebSocketModuleOp) => if op.Known s then op.exec s else none) {}).map
        (fun s => (s.connectionList_ 3, s.connectionList_ 7, s.RequestQueue_)) =
          some (some (some 0), none, [0]) := by decide
  obtain ⟨s, hrun, hs⟩ := Option.map_eq_some_iff.mp hfold
  simp only [Prod.mk.injEq] at hs
  obtain ⟨hentry, hunknown, hqueue⟩ := hs
  have hknown : Run webSocketModuleStep WebSocketModuleOp.Known {} s :=
    Run.of_checked_exec hrun
  have hids := unknown_ids (fun _ => .get "a") fun _ => ⟨false, .text, false, false⟩
  obtain ⟨s', hping, htable, hsame⟩ := hids.1 s (.ping 7) 7 rfl hunknown
  exact ⟨s, s', (hids.2.2.1 s hknown).1, hentry, hqueue, hping, htable, hsame⟩

/-- `ping(7)` on an empty table. -/
theorem ping_unknown_entered :
    (WebSocketModule.ping {} 7).connectionList_ 7 = some none ∧
      ¬ (WebSocketModule.ping {} 7).OnlyOpened := by
  have hentry : (WebSocketModule.ping {} 7).connectionList_ 7 = some none := rfl
  refine ⟨hentry, fun h => ?_⟩
  have hmem : (7 : Int) ∈ (WebSocketModule.ping {} 7).opened := by
    apply h
    rw [hentry]
    simp
  rw [WebSocketModule.ping, WebSocketModule.opened_call] at hmem
  cases hmem

end ReactNativeSkia
