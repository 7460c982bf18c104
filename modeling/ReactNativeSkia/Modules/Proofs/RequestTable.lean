import ReactNativeSkia.Modules.Proofs.NetworkingSteps

/-!
# The table of requests

`connectionList` has the requests that are outstanding, as long as no completion callback comes
before its request has been stored. The callback erases the entry and deletes the request, and
behind it `sendRequest` would store what has been deleted.
-/

namespace ReactNativeSkia

/-- The id that `sendRequest` takes. -/
def NetworkingOp.takes (s : NetworkingModule) : NetworkingOp → Option Int
  | .sendRequest _ => some s.newId
  | _ => none

/-- A new id has no request in the table. A request has been stored before its completion callback,
and no other one is in the table for its id. -/
def NetworkingOp.KeepsTable (s : NetworkingModule) (op : NetworkingOp) : Prop :=
  (∀ id ∈ op.takes s, (s.connectionList id).join = none) ∧
    ∀ request ∈ op.completes s, s.accepted request = true ∧
      ∀ other ∈ (s.connectionList (s.requestId_ request)).join, other = request

instance (s : NetworkingModule) (op : NetworkingOp) : Decidable (op.KeepsTable s) :=
  inferInstanceAs (Decidable (_ ∧ ∀ _ ∈ op.completes s, _))

/-- While no `sendRequest` is under way the table has the requests that have been accepted and
neither completed nor aborted, and no deleted request is ever stored or read. -/
structure NetworkingModule.TableOutstanding (s : NetworkingModule) : Prop where
  table : (∀ request, s.js ≠ .sending request ∧ s.js ≠ .storing request) → ∀ id request,
    s.connectionList id = some (some request) ↔ s.requestId_ request = id ∧
      s.accepted request = true ∧ s.completed request = false ∧ s.curl.aborted request = false
  live : s.deadUse = false

namespace NetworkingModule

variable {query : Nat → CurlRequest} {networkRequest : Nat → NetworkRequest}
  {s s' : NetworkingModule} {op : NetworkingOp}

/-! ## The table -/

/-- What is known of the entry of the request where the JS thread is. -/
def Entered (s : NetworkingModule) : NetworkingJs → Prop
  | .idle => True
  | .sending request | .storing request =>
    ∀ other, s.connectionList (s.requestId_ request) ≠ some (some other)
  | .aborting request => s.connectionList (s.requestId_ request) = some (some request)

structure Tabled (s : NetworkingModule) : Prop where
  calls : s.Calls
  live : s.deadUse = false
  completed : ∀ request, s.completed request = true → s.accepted request = true
  aborted : ∀ request, s.curl.aborted request = true → s.accepted request = true
  outstanding : ∀ request, s.accepted request = true → s.completed request = false →
    s.curl.aborted request = false →
      s.connectionList (s.requestId_ request) = some (some request)
  entry : ∀ id request, s.connectionList id = some (some request) →
    s.completed request = false ∧ s.curl.aborted request = false
  entered : s.Entered s.js

theorem Tabled.table (h : s.Tabled) (id : Int) (request : Nat) :
    s.connectionList id = some (some request) ↔ s.requestId_ request = id ∧
      s.accepted request = true ∧ s.completed request = false ∧
        s.curl.aborted request = false := by
  constructor
  · intro hentry
    obtain ⟨hid, haccepted⟩ := h.calls.entry id request hentry
    exact ⟨hid, haccepted, h.entry id request hentry⟩
  · rintro ⟨rfl, haccepted, hcompleted, haborted⟩
    exact h.outstanding request haccepted hcompleted haborted

/-- A request that has not been stored is neither completed nor aborted. -/
theorem Tabled.not_stored (h : s.Tabled) {request : Nat} (hstored : s.accepted request = false) :
    s.completed request = false ∧ s.curl.aborted request = false := by
  constructor
  · refine Bool.eq_false_iff.mpr fun hcompleted => ?_
    cases hstored.symm.trans (h.completed request hcompleted)
  · refine Bool.eq_false_iff.mpr fun haborted => ?_
    cases hstored.symm.trans (h.aborted request haborted)

theorem completed_congr (h : s'.curl.completions = s.curl.completions) (request : Nat) :
    s'.completed request = s.completed request := by
  unfold completed
  rw [h]

theorem use_live {request : Nat} (hlive : s.deadUse = false)
    (hcompleted : s.completed request = false) : (s.use request).deadUse = false := by
  show (s.deadUse || s.completed request) = false
  rw [hlive, hcompleted]
  rfl

/-- The request whose header or progress callback is called has not been completed. -/
theorem Calls.read_not_completed (h : s.Calls) {inner : CurlOp} {curl : CurlNetworking}
    {request : Nat} (hread : inner.readRequest = some request)
    (hexec : inner.exec query s.curl = some curl) : s.completed request = false := by
  refine decide_eq_false ((h.counted request).not_completed (.inl ?_))
  cases inner with
  | header r line =>
    obtain ⟨-, ⟨⟩⟩ := Option.ite_none_right_eq_some.mp hread
    obtain ⟨⟨-, hmem⟩, -⟩ := Option.ite_none_right_eq_some.mp hexec
    exact hmem
  | rewind r =>
    obtain rfl := Option.some.inj hread
    obtain ⟨⟨-, hmem⟩, -⟩ := Option.ite_none_right_eq_some.mp hexec
    exact hmem
  | _ => cases hread

/-- The completion callback of a request that has been stored. -/
theorem Tabled.completion (h : s.Tabled) {request : Nat} {curl : CurlNetworking}
    (hcalls : Calls { s.completionCallback networkRequest request with curl := curl })
    (hcompletion : s.curl.Completion curl request) (hnot : ∀ r, s.js ≠ .aborting r)
    (haccepted : s.accepted request = true)
    (hother : ∀ other ∈ (s.connectionList (s.requestId_ request)).join, other = request) :
    Tabled { s.completionCallback networkRequest request with curl := curl } := by
  have hfresh : s.completed request = false :=
    decide_eq_false ((h.calls.counted request).not_completed (.inr hcompletion.inHand))
  have hiff {r : Nat} : r ∈ curl.completions ↔ r ∈ s.curl.completions ∨ r = request := by
    rw [hcompletion.completions, List.mem_append, List.mem_singleton]
  have hkey {r : Nat} (hentry : s.connectionList (s.requestId_ request) = some (some r)) :
      r = request := hother r (Option.join_eq_some_iff.mpr hentry)
  refine ⟨hcalls, use_live h.live hfresh, fun r hr => ?_, fun r hr => ?_, fun r hr hr' hr'' => ?_,
    fun id r hr => ?_, ?_⟩
  · rcases hiff.mp (of_decide_eq_true hr) with hmem | rfl
    · exact h.completed r (decide_eq_true hmem)
    · exact haccepted
  · exact h.aborted r ((congrFun hcompletion.aborted r).symm.trans hr)
  · obtain ⟨hmem, hne⟩ := not_or.mp fun hc => of_decide_eq_false hr' (hiff.mpr hc)
    have hentry := h.outstanding r hr (decide_eq_false hmem)
      ((congrFun hcompletion.aborted r).symm.trans hr'')
    refine (Function.update_of_ne (fun hid => ?_) ..).trans hentry
    exact hne (hkey (hid ▸ hentry))
  · obtain ⟨hid, hentry⟩ := entry_of_erase hr nofun
    obtain ⟨hcompleted, haborted⟩ := h.entry id r hentry
    refine ⟨decide_eq_false fun hmem => ?_, (congrFun hcompletion.aborted r).trans haborted⟩
    rcases hiff.mp hmem with hmem | rfl
    · exact of_decide_eq_false hcompleted hmem
    · exact hid (h.calls.entry id r hentry).1.symm
  · have hentered := h.entered
    show Entered _ s.js
    cases hjs : s.js with
    | idle => exact trivial
    | sending r =>
      rw [hjs] at hentered
      exact fun other hc => hentered other (entry_of_erase hc nofun).2
    | storing r =>
      rw [hjs] at hentered
      exact fun other hc => hentered other (entry_of_erase hc nofun).2
    | aborting r => exact absurd hjs (hnot r)

/-- A step without the module that reads nothing deleted. -/
theorem Tabled.inner (h : s.Tabled) (hcalls : s'.Calls) (hinner : s.curl.Inner s'.curl)
    (hids : s'.requestId_ = s.requestId_) (htable : s'.connectionList = s.connectionList)
    (hjs : s'.js = s.js) (haccepted : s'.accepted = s.accepted) (hlive : s'.deadUse = false) :
    s'.Tabled := by
  have hcompleted := completed_congr hinner.completions
  refine ⟨hcalls, hlive, fun r hr => ?_, fun r hr => ?_, fun r hr hr' hr'' => ?_,
    fun id r hr => ?_, ?_⟩
  · rw [haccepted]
    exact h.completed r ((hcompleted r).symm.trans hr)
  · rw [haccepted]
    exact h.aborted r ((congrFun hinner.aborted r).symm.trans hr)
  · rw [haccepted] at hr
    rw [htable, hids]
    exact h.outstanding r hr ((hcompleted r).symm.trans hr')
      ((congrFun hinner.aborted r).symm.trans hr'')
  · rw [htable] at hr
    obtain ⟨hcomp, hab⟩ := h.entry id r hr
    exact ⟨(hcompleted r).trans hcomp, (congrFun hinner.aborted r).trans hab⟩
  · have hentered := h.entered
    rw [hjs]
    cases hcase : s.js with
    | idle => exact trivial
    | sending r | storing r | aborting r =>
      rw [hcase] at hentered
      unfold Entered
      rw [htable, hids]
      exact hentered

/-- `sendRequest` begins, with an id that has no request in the table. -/
theorem Tabled.start (h : s.Tabled) {request : Nat} {curl : CurlNetworking}
    (hcalls : Calls { s.start request with curl := curl })
    (hfresh : s.curl.started request = false)
    (hcompletions : curl.completions = s.curl.completions)
    (haborted : curl.aborted = s.curl.aborted)
    (hid : (s.connectionList s.newId).join = none) :
    Tabled { s.start request with curl := curl } := by
  have hcompleted (r : Nat) :
      ({ s.start request with curl := curl } : NetworkingModule).completed r = s.completed r :=
    completed_congr hcompletions r
  refine ⟨hcalls, h.live, fun r hr => h.completed r ((hcompleted r).symm.trans hr),
    fun r hr => h.aborted r ((congrFun haborted r).symm.trans hr), fun r hr hr' hr'' => ?_,
    fun id r hr => ?_, fun other hc => ?_⟩
  · have hne : r ≠ request := by
      rintro rfl
      cases hfresh.symm.trans (h.calls.started hr)
    show s.connectionList (Function.update s.requestId_ request s.newId r) = _
    rw [Function.update_of_ne hne]
    exact h.outstanding r hr ((hcompleted r).symm.trans hr')
      ((congrFun haborted r).symm.trans hr'')
  · obtain ⟨hcomp, hab⟩ := h.entry id r hr
    exact ⟨(hcompleted r).trans hcomp, (congrFun haborted r).trans hab⟩
  · have hnew : Function.update s.requestId_ request s.newId request = s.newId :=
      Function.update_self ..
    have hc : s.connectionList (Function.update s.requestId_ request s.newId request) =
      some (some other) := hc
    rw [hnew] at hc
    cases hid.symm.trans (Option.join_eq_some_iff.mpr hc)

/-- The request is stored, and its id had no entry. -/
theorem Tabled.store (h : s.Tabled) {request : Nat} (hjs : s.js = .storing request)
    (hcalls : (s.store request).Calls) : (s.store request).Tabled := by
  have hentered := h.entered
  have hstored := h.calls.calling
  rw [hjs] at hentered hstored
  obtain ⟨hcompleted, haborted⟩ := h.not_stored hstored.2.2
  refine ⟨hcalls, use_live h.live hcompleted,
    fun r hr => CurlNetworking.update_true r (h.completed r hr),
    fun r hr => CurlNetworking.update_true r (h.aborted r hr), fun r hr hr' hr'' => ?_,
    fun id r hr => ?_, trivial⟩
  · by_cases heq : r = request
    · subst heq
      exact Function.update_self ..
    · have hentry := h.outstanding r ((Function.update_of_ne heq ..).symm.trans hr) hr' hr''
      refine (Function.update_of_ne (fun hid => ?_) ..).trans hentry
      exact hentered r (hid ▸ hentry)
  · by_cases hid : id = s.requestId_ request
    · subst hid
      cases (Function.update_self ..).symm.trans hr
      exact ⟨hcompleted, haborted⟩
    · exact h.entry id r ((Function.update_of_ne hid ..).symm.trans hr)

/-- The section of `abortRequest`, and the erasure behind it. -/
theorem Tabled.remove (h : s.Tabled) {request : Nat} (hjs : s.js = .aborting request)
    {t : NetworkingModule} (ht : t = { (s.use request).abortReturned (s.requestId_ request) with
      connectionList := Function.update s.connectionList (s.requestId_ request) none
      curl := s.curl.removeHandle 0 request }) (hcalls : t.Calls) : t.Tabled := by
  subst ht
  have hentry := h.entered
  rw [hjs] at hentry
  obtain ⟨hcompleted, -⟩ := h.entry _ request hentry
  have haccepted := (h.calls.entry _ request hentry).2
  refine ⟨hcalls, use_live h.live hcompleted, h.completed, fun r hr => ?_,
    fun r hr hr' hr'' => ?_, fun id r hr => ?_, trivial⟩
  · by_cases heq : r = request
    · subst heq
      exact haccepted
    · exact h.aborted r ((Function.update_of_ne heq ..).symm.trans hr)
  · have hne : r ≠ request := by
      rintro rfl
      cases (Function.update_self ..).symm.trans hr''
    have hold := h.outstanding r hr hr' ((Function.update_of_ne hne ..).symm.trans hr'')
    refine (Function.update_of_ne (fun hid => hne ?_) ..).trans hold
    cases hentry.symm.trans (hid ▸ hold)
    rfl
  · obtain ⟨hid, hold⟩ := entry_of_erase hr nofun
    have hne : r ≠ request := by
      rintro rfl
      exact hid (h.calls.entry id r hold).1.symm
    obtain ⟨hcomp, hab⟩ := h.entry id r hold
    exact ⟨hcomp, (Function.update_of_ne hne ..).trans hab⟩

theorem Tabled.exec (h : s.Tabled) (hok : op.KeepsTable s)
    (hexec : op.exec query networkRequest s = some s') : s'.Tabled := by
  have hcalls := h.calls.exec hexec
  have hentered := h.entered
  cases NetworkingOp.exec_branch hexec with
  | sendRequest r hjs hfresh hcurl => exact h.start hcalls hfresh rfl rfl (hok.1 _ rfl)
  | curl inner curl hinner hcurl =>
    have hstep := CurlNetworking.inner_exec hinner hcurl
    have hread (r : Nat) (hr : inner.readRequest = some r) : (s.use r).deadUse = false :=
      use_live h.live (h.calls.read_not_completed hr hcurl)
    cases hreq : inner.readRequest with
    | none =>
      rw [hreq] at hcalls
      exact h.inner hcalls hstep rfl rfl rfl rfl h.live
    | some r =>
      rw [hreq] at hcalls
      exact h.inner hcalls hstep rfl rfl rfl rfl (hread r hreq)
  | accepted r hjs hcaller haccepted =>
    rw [hjs] at hentered
    exact ⟨hcalls, h.live, h.completed, h.aborted, h.outstanding, h.entry, hentered⟩
  | rejected r hjs hcaller hrejected =>
    exact ⟨hcalls, h.live, h.completed, h.aborted, h.outstanding, h.entry, trivial⟩
  | store r hjs => exact h.store hjs hcalls
  | completion op r curlOp curl hop hjs hcurl hcompletion =>
    obtain ⟨haccepted, hother⟩ := hok.2 r hop
    exact h.completion hcalls hcompletion hjs haccepted hother
  | missing id hjs hmissing =>
    refine ⟨hcalls, h.live, h.completed, h.aborted, fun r hr hr' hr'' => ?_,
      fun id r hr => h.entry id r (entry_of_erase hr nofun).2, ?_⟩
    · have hold := h.outstanding r hr hr' hr''
      refine (Function.update_of_ne (fun hid => ?_) ..).trans hold
      exact hmissing r (hid ▸ hold)
    · show Entered _ s.js
      rw [hjs]
      exact trivial
  | found id r hjs hentry hhandle hcurl =>
    have hcompleted := (h.entry _ r hentry).1
    refine ⟨hcalls, use_live h.live hcompleted, h.completed, h.aborted, h.outstanding, h.entry,
      ?_⟩
    show s.connectionList (s.requestId_ r) = some (some r)
    rw [(h.calls.entry _ r hentry).1]
    exact hentry
  | noHandle id r hjs hentry hcaller hhandle =>
    have hcompleted := (h.entry _ r hentry).1
    exact ⟨hcalls, use_live h.live hcompleted, h.completed, h.aborted, h.outstanding, h.entry,
      trivial⟩
  | remove r curl hjs hcurl =>
    obtain rfl := h.calls.remove_eq hjs hcurl
    exact h.remove hjs rfl hcalls

theorem tabled_init : Tabled {} :=
  ⟨calls_init, rfl, nofun, nofun, nofun, nofun, trivial⟩

/-- In every run in which each request is stored before its completion callback the table has the
outstanding requests. -/
theorem networkingRun_table
    (hrun : Run (networkingStep query networkRequest) NetworkingOp.KeepsTable {} s) :
    s.TableOutstanding := by
  have h : s.Tabled :=
    hrun.invariant (P := Tabled) (fun _ _ _ ht hok hstep => ht.exec hok hstep) tabled_init
  exact ⟨fun _ => h.table, h.live⟩

/-- The first request is completed, the second outstanding and the third aborted. -/
theorem networkingRun_table_three_requests : ∃ s : NetworkingModule, s.TableOutstanding ∧
    s.js = .idle ∧ [1, 2, 3].map s.connectionList = [none, some (some 1), none] := by
  have hfold : ((sendingOps 0 ++ ([.curl .wake, .curl .lock, .curl (.finish 0 false),
      .curl .performed, .curl .read, .curl .store, .complete, .curl .cleanup, .curl .read] ++
        sendingOps 1 ++ [.curl .wake] ++ sendingOps 2 ++
          [.abortRequest 3, .remove] : List NetworkingOp)).foldlM
            (fun s (op : NetworkingOp) =>
              if op.KeepsTable s then
                op.exec (fun _ => .get "a") (fun _ => ⟨false, .text, false, false⟩) s
              else none) {}).map
                (fun s => (s.js, [1, 2, 3].map s.connectionList)) =
                  some (.idle, [none, some (some 1), none]) := by
    decide +kernel
  obtain ⟨s, hrun, hs⟩ := Option.map_eq_some_iff.mp hfold
  obtain ⟨hjs, htable⟩ := Prod.mk.inj hs
  have hrun : Run (networkingStep (fun _ => .get "a") fun _ => ⟨false, .text, false, false⟩)
      NetworkingOp.KeepsTable {} s :=
    Run.of_checked_exec hrun
  exact ⟨s, networkingRun_table hrun, hjs, htable⟩

/-- The completion callback comes before the request is stored. -/
theorem completed_request_stored : ¬ ∀ (query : Nat → CurlRequest)
    (networkRequest : Nat → NetworkRequest) (s : NetworkingModule),
      Run (networkingStep query networkRequest) anyStep {} s → s.TableOutstanding := by
  intro hall
  have hfold : ([.sendRequest 0, .curl (.lookup 0), .curl (.prepare 0 true), .curl (.add 0),
      .curl (.getvalue 0), .curl (.post 0), .curl .wake, .curl .lock, .curl (.finish 0 true),
      .curl .performed, .curl .read, .curl .store, .complete, .curl .cleanup, .returned,
      .store].foldlM (NetworkingOp.exec (fun _ => .get "a") (fun _ => ⟨false, .text, false, false⟩))
        {}).map (fun s => (s.js, s.connectionList 1, s.completed 0)) =
          some (.idle, some (some 0), true) := by
    decide +kernel
  obtain ⟨s, hrun, hs⟩ := Option.map_eq_some_iff.mp hfold
  obtain ⟨hjs, hs⟩ := Prod.mk.inj hs
  obtain ⟨hentry, hcompleted⟩ := Prod.mk.inj hs
  have htable := (hall _ _ s (Run.of_exec hrun)).table
    (fun r => by rw [hjs]; exact ⟨nofun, nofun⟩) 1 0
  cases hcompleted.symm.trans (htable.mp hentry).2.2.1

end NetworkingModule

end ReactNativeSkia
