import ReactNativeSkia.Modules.NetworkingModule
import ReactNativeSkia.Sdk.Proofs.NetworkAnswers

/-!
# The steps of the networking module

What each step does to the module and to `CurlNetworking` under it, and what holds of the call that
the JS thread is in, in every run.
-/

namespace ReactNativeSkia

/-! ## Steps of `CurlNetworking` -/

/-- The thread is in no call, or in one of `abortRequest`. -/
def CurlCaller.resting : CurlCaller → Bool
  | .idle | .aborting _ => true
  | _ => false

namespace CurlNetworking

variable {query : Nat → CurlRequest} {s s' : CurlNetworking}

/-- No call of `sendRequest` or `abortRequest` begins or aborts anything. -/
structure Frame (s s' : CurlNetworking) : Prop where
  started : s'.started = s.started
  aborted : s'.aborted = s.aborted
  accepted : ∀ request, s.accepted request = true → s'.accepted request = true
  callers : ∀ thread, (s.callers thread).resting = true → s'.callers thread = s.callers thread

/-- A step without the module. The network thread may clean a handle up. -/
structure Inner (s s' : CurlNetworking) : Prop extends Frame s s' where
  completions : s'.completions = s.completions
  handle : ∀ request, s.handle request = true → s'.handle request = true ∨
    ∃ stillAlive, s.network = .cleaning request stillAlive

/-- The completion callback of a request, from either thread. -/
structure Completion (s s' : CurlNetworking) (request : Nat) : Prop extends Frame s s' where
  inHand : s.network.inHand = some request ∨ request ∈ s.providers
  completions : s'.completions = s.completions ++ [request]

/-- A step of a thread that is in `sendRequest`. -/
theorem Inner.of_caller {thread : Nat} {c : CurlCaller}
    (hbusy : (s.callers thread).resting = false)
    (hcallers : s'.callers = Function.update s.callers thread c)
    (hstarted : s'.started = s.started) (haborted : s'.aborted = s.aborted)
    (hcompletions : s'.completions = s.completions)
    (haccepted : ∀ request, s.accepted request = true → s'.accepted request = true)
    (hhandle : ∀ request, s.handle request = true → s'.handle request = true) :
    Inner s s' := by
  refine ⟨⟨hstarted, haborted, haccepted, fun t ht => ?_⟩, hcompletions,
    fun request h => .inl (hhandle request h)⟩
  have hne : t ≠ thread := by
    rintro rfl
    cases hbusy.symm.trans ht
  rw [hcallers, Function.update_of_ne hne]

/-- A step of the network thread or of the cache. -/
theorem Frame.of_network (hcallers : s'.callers = s.callers) (hstarted : s'.started = s.started)
    (haborted : s'.aborted = s.aborted) (haccepted : s'.accepted = s.accepted) : Frame s s' :=
  ⟨hstarted, haborted, fun request h => by rw [haccepted, h], fun t _ => by rw [hcallers]⟩

theorem setCaller_self (s : CurlNetworking) (thread : Nat) (c : CurlCaller) :
    (s.setCaller thread c).callers thread = c :=
  Function.update_self ..

theorem update_true {f : Nat → Bool} {r : Nat} (request : Nat) (h : f request = true) :
    Function.update f r true request = true := by
  by_cases hr : request = r
  · subst hr
    exact Function.update_self ..
  · rwa [Function.update_of_ne hr]

theorem inner_exec {op : CurlOp} (hinner : op.isInner = true) (hexec : op.exec query s = some s') :
    Inner s s' := by
  cases CurlOp.exec_branch hexec with
  | send _ _ _ _ => cases hinner
  | abort _ _ _ _ _ => cases hinner
  | noHandle _ _ _ _ _ => cases hinner
  | remove _ _ _ _ => cases hinner
  | complete _ _ _ => cases hinner
  | provide _ _ => cases hinner
  | found thread r producer hcaller hfound =>
    exact .of_caller (by rw [hcaller]; rfl) rfl rfl rfl rfl update_true fun _ h => h
  | missed thread r hcaller hmissed =>
    exact .of_caller (by rw [hcaller]; rfl) rfl rfl rfl rfl (fun _ h => h) fun _ h => h
  | prepared thread r hcaller =>
    exact .of_caller (by rw [hcaller]; rfl) rfl rfl rfl rfl (fun _ h => h) update_true
  | notInitialized thread r hcaller =>
    exact .of_caller (by rw [hcaller]; rfl) rfl rfl rfl rfl (fun _ h => h) fun _ h => h
  | add thread r hcaller hnetwork =>
    exact .of_caller (by rw [hcaller]; rfl) rfl rfl rfl rfl (fun _ h => h) fun _ h => h
  | notPosted thread r hcaller hsem =>
    exact .of_caller (by rw [hcaller]; rfl) rfl rfl rfl rfl (fun _ h => h) fun _ h => h
  | posted thread r hcaller hsem =>
    exact .of_caller (by rw [hcaller]; rfl) rfl rfl rfl rfl update_true fun _ h => h
  | post thread r hcaller =>
    exact .of_caller (by rw [hcaller]; rfl) rfl rfl rfl rfl update_true fun _ h => h
  | store r ok stillAlive hnetwork =>
    unfold storeResponse
    split
    · exact ⟨.of_network rfl rfl rfl rfl, rfl, fun _ => .inl⟩
    · exact ⟨.of_network rfl rfl rfl rfl, rfl, fun _ => .inl⟩
  | cleanup r stillAlive hnetwork =>
    refine ⟨.of_network rfl rfl rfl rfl, rfl, fun request h => ?_⟩
    by_cases hr : request = r
    · subst hr
      exact .inr ⟨stillAlive, hnetwork⟩
    · exact .inl ((Function.update_of_ne hr ..).trans h)
  | _ => exact ⟨.of_network rfl rfl rfl rfl, rfl, fun _ => .inl⟩

theorem completion_complete {request : Nat} {stillAlive : Bool}
    (hnetwork : s.network = .completing request stillAlive)
    (hexec : CurlOp.exec query s .complete = some s') : Completion s s' request := by
  simp only [CurlOp.exec, hnetwork, Option.some.injEq] at hexec
  subst hexec
  refine ⟨.of_network rfl rfl rfl rfl, .inl ?_, rfl⟩
  rw [hnetwork]
  rfl

theorem completion_provide {request : Nat}
    (hexec : CurlOp.exec query s (.provide request) = some s') : Completion s s' request := by
  obtain ⟨hmem, ⟨⟩⟩ := Option.ite_none_right_eq_some.mp hexec
  exact ⟨.of_network rfl rfl rfl rfl, .inr hmem, rfl⟩

/-- A request whose callbacks are still to be called has not been answered. -/
theorem Counted.not_completed {request : Nat} (h : s.Counted False request)
    (hplace : request ∈ s.unfinished ∨ s.network.inHand = some request ∨ request ∈ s.providers) :
    request ∉ s.completions := by
  intro hmem
  have hcompletions := List.count_pos_iff.mpr hmem
  have honce := h.once
  unfold places at honce
  rcases hplace with hplace | hplace | hplace
  · have hunfinished := List.count_pos_iff.mpr hplace
    omega
  · rw [if_pos hplace] at honce
    omega
  · have hproviders := List.count_pos_iff.mpr hplace
    omega

end CurlNetworking

/-! ## Steps of the module -/

/-- The request whose completion callback is called. -/
def NetworkingOp.completes (s : NetworkingModule) : NetworkingOp → Option Nat
  | .complete =>
    match s.curl.network with
    | .completing request _ => some request
    | _ => none
  | .provide request => some request
  | _ => none

/-- The branches of `NetworkingOp.exec`. -/
inductive NetworkingBranch (query : Nat → CurlRequest) (networkRequest : Nat → NetworkRequest)
    (s : NetworkingModule) : NetworkingOp → NetworkingModule → Prop where
  | sendRequest (request : Nat) (hjs : s.js = .idle) (hfresh : s.curl.started request = false)
      (hcurl : CurlOp.exec query s.curl (.send 0 request) =
        some { s.curl.setCaller 0 (.looking request) with
          started := Function.update s.curl.started request true }) :
      NetworkingBranch query networkRequest s (.sendRequest request) { s.start request with
        curl := { s.curl.setCaller 0 (.looking request) with
          started := Function.update s.curl.started request true } }
  | curl (op : CurlOp) (curl : CurlNetworking) (hinner : op.isInner = true)
      (hcurl : op.exec query s.curl = some curl) :
      NetworkingBranch query networkRequest s (.curl op)
        { (op.readRequest.elim s s.use) with curl := curl }
  | accepted (request : Nat) (hjs : s.js = .sending request) (hcaller : s.curl.callers 0 = .idle)
      (haccepted : s.curl.accepted request = true) :
      NetworkingBranch query networkRequest s .returned { s with js := .storing request }
  | rejected (request : Nat) (hjs : s.js = .sending request) (hcaller : s.curl.callers 0 = .idle)
      (hrejected : s.curl.accepted request = false) :
      NetworkingBranch query networkRequest s .returned { s with js := .idle }
  | store (request : Nat) (hjs : s.js = .storing request) :
      NetworkingBranch query networkRequest s .store (s.store request)
  | completion (op : NetworkingOp) (request : Nat) (curlOp : CurlOp) (curl : CurlNetworking)
      (hop : op.completes s = some request) (hjs : ∀ r, s.js ≠ .aborting r)
      (hcurl : curlOp.exec query s.curl = some curl)
      (hcompletion : s.curl.Completion curl request) :
      NetworkingBranch query networkRequest s op
        { s.completionCallback networkRequest request with curl := curl }
  | missing (requestId : Int) (hjs : s.js = .idle)
      (hentry : ∀ request, s.connectionList (toInt requestId) ≠ some (some request)) :
      NetworkingBranch query networkRequest s (.abortRequest requestId) { s with
        connectionList := Function.update s.connectionList (toInt requestId) (some none) }
  | found (requestId : Int) (request : Nat) (hjs : s.js = .idle)
      (hentry : s.connectionList (toInt requestId) = some (some request))
      (hhandle : s.curl.handle request = true)
      (hcurl : CurlOp.exec query s.curl (.abort 0 request) =
        some (s.curl.setCaller 0 (.aborting request))) :
      NetworkingBranch query networkRequest s (.abortRequest requestId) { s.use request with
        curl := s.curl.setCaller 0 (.aborting request)
        js := .aborting request }
  | noHandle (requestId : Int) (request : Nat) (hjs : s.js = .idle)
      (hentry : s.connectionList (toInt requestId) = some (some request))
      (hcaller : s.curl.callers 0 = .idle) (hhandle : s.curl.handle request = false) :
      NetworkingBranch query networkRequest s (.abortRequest requestId)
        ((s.use request).abortReturned (toInt requestId))
  | remove (request : Nat) (curl : CurlNetworking) (hjs : s.js = .aborting request)
      (hcurl : CurlOp.exec query s.curl (.remove 0) = some curl) :
      NetworkingBranch query networkRequest s .remove
        { (s.use request).abortReturned (s.requestId_ request) with
          connectionList := Function.update s.connectionList (s.requestId_ request) none
          curl := curl }

namespace NetworkingOp

variable {query : Nat → CurlRequest} {networkRequest : Nat → NetworkRequest}
  {s s' : NetworkingModule} {op : NetworkingOp} {request : Nat}

theorem exec_branch (hexec : op.exec query networkRequest s = some s') :
    NetworkingBranch query networkRequest s op s' := by
  cases op with
  | sendRequest r =>
    obtain ⟨hjs, hexec⟩ := Option.ite_none_right_eq_some.mp hexec
    obtain ⟨curl, hcurl, rfl⟩ := Option.map_eq_some_iff.mp hexec
    obtain ⟨⟨-, hfresh⟩, heq⟩ := Option.ite_none_right_eq_some.mp hcurl
    obtain rfl := Option.some.inj heq
    exact .sendRequest r hjs hfresh hcurl
  | curl inner =>
    obtain ⟨hinner, hexec⟩ := Option.ite_none_right_eq_some.mp hexec
    obtain ⟨curl, hcurl, rfl⟩ := Option.map_eq_some_iff.mp hexec
    exact .curl inner curl hinner hcurl
  | returned =>
    simp only [exec] at hexec
    split at hexec
    · rename_i r hjs
      obtain ⟨hcaller, heq⟩ := Option.ite_none_right_eq_some.mp hexec
      obtain rfl := Option.some.inj heq
      cases haccepted : s.curl.accepted r with
      | true => exact .accepted r hjs hcaller haccepted
      | false => exact .rejected r hjs hcaller haccepted
    · cases hexec
  | store =>
    simp only [exec] at hexec
    split at hexec
    · rename_i r hjs
      obtain rfl := Option.some.inj hexec
      exact .store r hjs
    · cases hexec
  | complete =>
    simp only [exec] at hexec
    split at hexec
    · cases hexec
    · rename_i r stillAlive hnetwork hjs
      obtain ⟨curl, hcurl, rfl⟩ := Option.map_eq_some_iff.mp hexec
      refine .completion .complete r .complete curl ?_ hjs hcurl
        (CurlNetworking.completion_complete hnetwork hcurl)
      simp only [completes, hnetwork]
    · cases hexec
  | provide r =>
    simp only [exec] at hexec
    split at hexec
    · cases hexec
    · rename_i hjs
      obtain ⟨curl, hcurl, rfl⟩ := Option.map_eq_some_iff.mp hexec
      exact .completion (.provide r) r (.provide r) curl rfl hjs hcurl
        (CurlNetworking.completion_provide hcurl)
  | abortRequest id =>
    obtain ⟨hjs, hexec⟩ := Option.ite_none_right_eq_some.mp hexec
    split at hexec
    · rename_i r hentry
      obtain ⟨curl, hcurl, rfl⟩ := Option.map_eq_some_iff.mp hexec
      obtain ⟨⟨hcaller, -⟩, heq⟩ := Option.ite_none_right_eq_some.mp hcurl
      obtain rfl := Option.some.inj heq
      cases hhandle : s.curl.handle r with
      | true =>
        rw [hhandle, if_pos rfl] at hcurl
        exact .found id r hjs hentry hhandle hcurl
      | false => exact .noHandle id r hjs hentry hcaller hhandle
    · rename_i hentry
      obtain rfl := Option.some.inj hexec
      exact .missing id hjs hentry
  | remove =>
    simp only [exec] at hexec
    split at hexec
    · rename_i r hjs
      obtain ⟨curl, hcurl, rfl⟩ := Option.map_eq_some_iff.mp hexec
      exact .remove r curl hjs hcurl
    · cases hexec

/-- A step of the module leaves `CurlNetworking` as it is or is one of its steps. -/
theorem exec_curl (hexec : op.exec query networkRequest s = some s') :
    s'.curl = s.curl ∨ ∃ curlOp, CurlOp.exec query s.curl curlOp = some s'.curl := by
  cases exec_branch hexec with
  | sendRequest r hjs hfresh hcurl => exact .inr ⟨_, hcurl⟩
  | curl inner curl hinner hcurl => exact .inr ⟨_, hcurl⟩
  | completion op r curlOp curl hop hjs hcurl hcompletion => exact .inr ⟨_, hcurl⟩
  | found id r hjs hentry hhandle hcurl => exact .inr ⟨_, hcurl⟩
  | remove r curl hjs hcurl => exact .inr ⟨_, hcurl⟩
  | _ => exact .inl rfl

/-- What every step of `CurlNetworking` keeps, every step of the module keeps. -/
theorem exec_keeps {P : CurlNetworking → Prop}
    (hkeeps : ∀ (curlOp : CurlOp) (t t' : CurlNetworking), P t →
      curlOp.exec query t = some t' → P t')
    (hexec : op.exec query networkRequest s = some s') (h : P s.curl) : P s'.curl := by
  rcases exec_curl hexec with heq | ⟨curlOp, hcurl⟩
  · rwa [heq]
  · exact hkeeps curlOp _ _ h hcurl

end NetworkingOp

/-! ## The calls of the JS thread -/

namespace NetworkingModule

variable {query : Nat → CurlRequest} {networkRequest : Nat → NetworkRequest}
  {s s' : NetworkingModule} {op : NetworkingOp}

/-- What holds of `CurlNetworking` and of the request where the JS thread is. -/
def Calling (s : NetworkingModule) : NetworkingJs → Prop
  | .idle => s.curl.callers 0 = .idle
  | .sending request => s.curl.started request = true ∧ s.accepted request = false
  | .storing request => s.curl.callers 0 = .idle ∧ s.curl.accepted request = true ∧
      s.accepted request = false
  | .aborting request => s.curl.callers 0 = .aborting request ∧ s.accepted request = true

/-- What needs no condition on the steps. -/
structure Calls (s : NetworkingModule) : Prop where
  counted : ∀ request, s.curl.Counted False request
  calling : s.Calling s.js
  accepted : ∀ request, s.accepted request = true → s.curl.accepted request = true
  entry : ∀ id request, s.connectionList id = some (some request) →
    s.requestId_ request = id ∧ s.accepted request = true

theorem Calls.started (h : s.Calls) {request : Nat} (haccepted : s.accepted request = true) :
    s.curl.started request = true :=
  ((h.counted request).accepted (h.accepted request haccepted)).1

theorem Calls.aborting (h : s.Calls) (request : Nat) (hjs : s.js = .aborting request) :
    s.curl.callers 0 = .aborting request := by
  have hcalling := h.calling
  rw [hjs] at hcalling
  exact hcalling.1

theorem Calling.frame {js : NetworkingJs} (h : s.Calling js) (hframe : s.curl.Frame s'.curl)
    (haccepted : s'.accepted = s.accepted) : s'.Calling js := by
  cases js with
  | idle => exact (hframe.callers 0 (by rw [h]; rfl)).trans h
  | sending r =>
    show s'.curl.started r = true ∧ s'.accepted r = false
    rw [hframe.started, haccepted]
    exact h
  | storing r =>
    refine ⟨(hframe.callers 0 (by rw [h.1]; rfl)).trans h.1, hframe.accepted r h.2.1, ?_⟩
    rw [haccepted]
    exact h.2.2
  | aborting r =>
    refine ⟨(hframe.callers 0 (by rw [h.1]; rfl)).trans h.1, ?_⟩
    rw [haccepted]
    exact h.2

/-- The table after an id has been erased. -/
theorem entry_of_erase {connectionList : Int → Option (Option Nat)} {key id : Int} {request : Nat}
    {value : Option (Option Nat)}
    (h : Function.update connectionList key value id = some (some request))
    (hvalue : ∀ r, value ≠ some (some r)) :
    id ≠ key ∧ connectionList id = some (some request) := by
  by_cases hid : id = key
  · subst hid
    rw [Function.update_self] at h
    exact absurd h (hvalue request)
  · rw [Function.update_of_ne hid] at h
    exact ⟨hid, h⟩

/-- The JS thread removes the request that it aborts. -/
theorem Calls.remove_eq (h : s.Calls) {request : Nat} {curl : CurlNetworking}
    (hjs : s.js = .aborting request)
    (hcurl : CurlOp.exec query s.curl (.remove 0) = some curl) :
    curl = s.curl.removeHandle 0 request := by
  simp only [CurlOp.exec, h.aborting request hjs] at hcurl
  exact (Option.some.inj (Option.ite_none_left_eq_some.mp hcurl).2).symm

theorem Calls.exec (h : s.Calls) (hexec : op.exec query networkRequest s = some s') :
    s'.Calls := by
  have hcounted : ∀ request, s'.curl.Counted False request :=
    NetworkingOp.exec_keeps (P := fun t => ∀ request, t.Counted False request)
      (fun curlOp t t' ht hstep request => (ht request).exec False.elim hstep) hexec h.counted
  have hcalling := h.calling
  cases NetworkingOp.exec_branch hexec with
  | sendRequest r hjs hfresh hcurl =>
    have hnew {r' : Nat} (haccepted : s.accepted r' = true) : r' ≠ r := by
      rintro rfl
      cases hfresh.symm.trans (h.started haccepted)
    refine ⟨hcounted, ⟨Function.update_self .., ?_⟩, h.accepted, fun id r' hr' => ?_⟩
    · by_contra hne
      exact hnew (Bool.of_not_eq_false hne) rfl
    · obtain ⟨hid, haccepted⟩ := h.entry id r' hr'
      exact ⟨(Function.update_of_ne (hnew haccepted) ..).trans hid, haccepted⟩
  | curl inner curl hinner hcurl =>
    have hframe := (CurlNetworking.inner_exec hinner hcurl).toFrame
    cases inner.readRequest with
    | none =>
      exact ⟨hcounted, hcalling.frame hframe rfl,
        fun r hr => hframe.accepted r (h.accepted r hr), h.entry⟩
    | some read =>
      exact ⟨hcounted, hcalling.frame hframe rfl,
        fun r hr => hframe.accepted r (h.accepted r hr), h.entry⟩
  | accepted r hjs hcaller haccepted =>
    rw [hjs] at hcalling
    exact ⟨hcounted, ⟨hcaller, haccepted, hcalling.2⟩, h.accepted, h.entry⟩
  | rejected r hjs hcaller hrejected => exact ⟨hcounted, hcaller, h.accepted, h.entry⟩
  | store r hjs =>
    rw [hjs] at hcalling
    refine ⟨hcounted, hcalling.1, fun r' hr' => ?_, fun id r' hr' => ?_⟩
    · by_cases heq : r' = r
      · subst heq
        exact hcalling.2.1
      · exact h.accepted r' ((Function.update_of_ne heq ..).symm.trans hr')
    · by_cases hid : id = s.requestId_ r
      · subst hid
        cases (Function.update_self ..).symm.trans hr'
        exact ⟨rfl, Function.update_self ..⟩
      · obtain ⟨hkey, haccepted⟩ := h.entry id r' ((Function.update_of_ne hid ..).symm.trans hr')
        exact ⟨hkey, CurlNetworking.update_true r' haccepted⟩
  | completion op r curlOp curl hop hjs hcurl hcompletion =>
    exact ⟨hcounted, hcalling.frame hcompletion.toFrame rfl,
      fun r hr => hcompletion.accepted r (h.accepted r hr),
      fun id r' hr' => h.entry id r' (entry_of_erase hr' nofun).2⟩
  | missing id hjs hentry =>
    exact ⟨hcounted, hcalling, h.accepted,
      fun id r' hr' => h.entry id r' (entry_of_erase hr' nofun).2⟩
  | found id r hjs hentry hhandle hcurl =>
    exact ⟨hcounted, ⟨s.curl.setCaller_self 0 (.aborting r), (h.entry _ r hentry).2⟩, h.accepted,
      h.entry⟩
  | noHandle id r hjs hentry hcaller hhandle => exact ⟨hcounted, hcaller, h.accepted, h.entry⟩
  | remove r curl hjs hcurl =>
    obtain rfl := h.remove_eq hjs hcurl
    exact ⟨hcounted, s.curl.setCaller_self 0 .idle, h.accepted,
      fun id r' hr' => h.entry id r' (entry_of_erase hr' nofun).2⟩

theorem calls_init : Calls {} :=
  ⟨CurlNetworking.counted_init False, rfl, nofun, nofun⟩

/-- The JS thread sends a request, with the network thread waiting and nothing in between. -/
def sendingOps (request : Nat) : List NetworkingOp :=
  [.sendRequest request, .curl (.lookup 0), .curl (.prepare 0 true), .curl (.add 0),
    .curl (.getvalue 0), .curl (.post 0), .returned, .store]

end NetworkingModule

end ReactNativeSkia
