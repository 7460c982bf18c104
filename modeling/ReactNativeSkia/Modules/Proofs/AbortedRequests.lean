import ReactNativeSkia.Modules.Proofs.NetworkingSteps

/-!
# Aborted requests

An abort removes a request from wherever it is, with its handle, but not from the hands of the
network thread, and it has no handle to remove if the request was found in the cache.
-/

namespace ReactNativeSkia

/-- No id is handed out twice. What `abortRequest` finds has a handle and has not been completed,
and the network thread has not taken its message. -/
def NetworkingOp.KeepsAborted (s : NetworkingModule) : NetworkingOp → Prop
  | .sendRequest _ => s.newId ∉ s.ids
  | .abortRequest requestId => ∀ request ∈ (s.connectionList (toInt requestId)).join,
      s.completed request = false ∧ s.curl.handle request = true
  | .remove =>
    match s.js with
    | .aborting request => s.curl.network.inHand ≠ some request
    | _ => True
  | _ => True

instance (s : NetworkingModule) (op : NetworkingOp) : Decidable (op.KeepsAborted s) := by
  cases op with
  | sendRequest _ => exact inferInstanceAs (Decidable (_ ∉ _))
  | abortRequest requestId =>
    dsimp only [NetworkingOp.KeepsAborted]
    infer_instance
  | remove =>
    dsimp only [NetworkingOp.KeepsAborted]
    cases s.js <;> infer_instance
  | _ => exact inferInstanceAs (Decidable True)

/-- When `abortRequest` has returned `CURL_RETURN_SUCESS` for an id, the completion callback sends
no event for it any more, and the handle of the request has been cleaned up once. -/
structure NetworkingModule.AbortFinal (s : NetworkingModule) : Prop where
  silent : ∀ id n, (id, n) ∈ s.aborts → ∀ event ∈ s.events.drop n, event.1 ≠ id
  cleanedUp : ∀ id n, (id, n) ∈ s.aborts → ∀ request, s.curl.started request = true →
    s.requestId_ request = id → s.curl.cleanups request = 1

/-! ## What a step of `CurlNetworking` does to a request -/

namespace CurlNetworking

variable {query : Nat → CurlRequest} {s s' : CurlNetworking} {request : Nat}

/-- How a request can get to where it is, and how its handle comes and goes. -/
structure Effect (s s' : CurlNetworking) (request : Nat) : Prop where
  started : s.started request = true → s'.started request = true := by exact id
  accepted : s.accepted request = true → s'.accepted request = true := by exact id
  completions : request ∈ s.completions → request ∈ s'.completions := by exact id
  looking : ∀ t, s'.callers t = .looking request →
    s.callers t = .looking request ∨ s.started request = false := by exact fun _ => .inl
  handle : s'.handle request = true →
    s.handle request = true ∨ ∃ t, s.callers t = .preparing request := by exact .inl
  cleanups : s'.cleanups request = s.cleanups request ∨
    (s'.handle request = false ∧ s'.cleanups request = s.cleanups request + 1 ∧
      ((s.handle request = true ∧ ∃ t, s.callers t = .aborting request) ∨
        ∃ stillAlive, s.network = .cleaning request stillAlive)) := by exact .inl rfl
  unfinished : request ∈ s'.unfinished →
    request ∈ s.unfinished ∨ ∃ t, s.callers t = .adding request := by exact .inl
  messages : ∀ ok, (request, ok) ∈ s'.messages →
    (request, ok) ∈ s.messages ∨ request ∈ s.unfinished := by exact fun _ => .inl
  inHand : s'.network.inHand = some request →
    s.network.inHand = some request ∨ ∃ ok, (request, ok) ∈ s.messages := by exact .inl
  cleaning : ∀ stillAlive, s'.network = .cleaning request stillAlive →
    (s.network.inHand = some request ∧ request ∈ s'.completions) ∨
      s.network = .cleaning request stillAlive := by exact fun _ => .inr
  providers : request ∈ s'.providers →
    request ∈ s.providers ∨ ∃ t, s.callers t = .looking request := by exact .inl

/-- The step of a caller, which does not go to a lookup. -/
theorem looking_of_caller {thread : Nat} {c : CurlCaller}
    (hcallers : s'.callers = Function.update s.callers thread c) (hc : c ≠ .looking request)
    (t : Nat) (h : s'.callers t = .looking request) :
    s.callers t = .looking request ∨ s.started request = false := by
  rw [hcallers] at h
  by_cases ht : t = thread
  · subst ht
    exact absurd ((Function.update_self ..).symm.trans h) hc
  · exact .inl ((Function.update_of_ne ht ..).symm.trans h)

theorem effect_exec {op : CurlOp} (hexec : op.exec query s = some s') (request : Nat) :
    Effect s s' request := by
  cases CurlOp.exec_branch hexec with
  | send thread r hidle hfresh =>
    refine { started := update_true request, looking := fun t ht => ?_ }
    by_cases hr : request = r
    · subst hr
      exact .inr hfresh
    · exact looking_of_caller rfl (fun hc => hr (CurlCaller.looking.inj hc).symm) t ht
  | found thread r producer hcaller hfound =>
    refine {
      accepted := update_true request
      looking := looking_of_caller rfl nofun
      providers := fun hmem => ?_ }
    simp only [serve] at hmem
    split at hmem
    · exact .inl hmem
    · rcases List.mem_append.mp hmem with hmem | hmem
      · exact .inl hmem
      · obtain rfl := List.mem_singleton.mp hmem
        exact .inr ⟨thread, hcaller⟩
  | missed thread r hcaller hmissed => exact { looking := looking_of_caller rfl nofun }
  | prepared thread r hcaller =>
    refine { looking := looking_of_caller rfl ?_, handle := fun h => ?_ }
    · split
      · nofun
      · nofun
    · by_cases hr : request = r
      · subst hr
        exact .inr ⟨thread, hcaller⟩
      · exact .inl ((Function.update_of_ne hr ..).symm.trans h)
  | notInitialized thread r hcaller => exact { looking := looking_of_caller rfl nofun }
  | add thread r hcaller hnetwork =>
    refine { looking := looking_of_caller rfl nofun, unfinished := fun hmem => ?_ }
    rcases List.mem_append.mp hmem with hmem | hmem
    · exact .inl hmem
    · obtain rfl := List.mem_singleton.mp hmem
      exact .inr ⟨thread, hcaller⟩
  | notPosted thread r hcaller hsem => exact { looking := looking_of_caller rfl nofun }
  | posted thread r hcaller hsem =>
    exact { accepted := update_true request, looking := looking_of_caller rfl nofun }
  | post thread r hcaller =>
    exact { accepted := update_true request, looking := looking_of_caller rfl nofun }
  | abort thread r hidle haccepted hhandle => exact { looking := looking_of_caller rfl nofun }
  | noHandle thread r hidle haccepted hhandle => exact {}
  | remove thread r hcaller hnetwork =>
    refine {
      looking := looking_of_caller rfl nofun
      handle := fun h => ?_
      cleanups := ?_
      unfinished := fun hmem => .inl (List.mem_filter.mp hmem).1
      messages := fun ok hmem => .inl (List.mem_filter.mp hmem).1 }
    · by_cases hr : request = r
      · subst hr
        cases (Function.update_self ..).symm.trans h
      · exact .inl ((Function.update_of_ne hr ..).symm.trans h)
    · by_cases hr : request = r
      · subst hr
        cases hhandle : s.handle request with
        | true =>
          refine .inr ⟨Function.update_self .., ?_, .inl ⟨rfl, thread, hcaller⟩⟩
          simp only [removeHandle, Function.update_self, hhandle, if_true]
        | false =>
          refine .inl ?_
          simp [removeHandle, hhandle]
      · exact .inl (Function.update_of_ne hr ..)
  | wake hnetwork hsem => exact { inHand := nofun, cleaning := nofun }
  | lock hnetwork => exact { inHand := nofun, cleaning := nofun }
  | header r line hnetwork hmem => exact {}
  | write r buffer response hnetwork hmem hcallback hresponse => exact {}
  | rewind r hnetwork hmem => exact {}
  | finish r ok hnetwork hmem =>
    refine {
      unfinished := fun hmem => .inl (List.mem_of_mem_erase hmem)
      messages := fun ok hmessage => ?_ }
    rcases List.mem_append.mp hmessage with hmessage | hmessage
    · exact .inl hmessage
    · cases List.mem_singleton.mp hmessage
      exact .inr hmem
  | performed hnetwork => exact { inHand := nofun, cleaning := nofun }
  | readNone stillAlive hnetwork hmessages =>
    cases stillAlive with
    | true => exact { inHand := nofun, cleaning := nofun }
    | false => exact { inHand := nofun, cleaning := nofun }
  | read r ok stillAlive messages hnetwork hmessages =>
    refine {
      messages := fun ok hmem => .inl ?_
      inHand := fun h => .inr ⟨ok, ?_⟩
      cleaning := nofun }
    · rw [hmessages]
      exact List.mem_cons_of_mem _ hmem
    · obtain rfl := Option.some.inj h
      rw [hmessages]
      exact List.mem_cons_self ..
  | store r ok stillAlive hnetwork =>
    have hinHand (h : some r = some request) : s.network.inHand = some request := by
      rw [hnetwork]
      exact h
    unfold storeResponse
    split
    · exact { inHand := fun h => .inl (hinHand h), cleaning := nofun }
    · exact { inHand := fun h => .inl (hinHand h), cleaning := nofun }
  | complete r stillAlive hnetwork =>
    refine {
      completions := List.mem_append_left _
      inHand := nofun
      cleaning := fun alive h => .inl ?_ }
    obtain ⟨rfl, -⟩ := MultiNetworkThread.cleaning.inj h
    rw [hnetwork]
    exact ⟨rfl, List.mem_append_right _ (List.mem_singleton_self r)⟩
  | cleanup r stillAlive hnetwork =>
    refine {
      handle := fun h => .inl ?_
      cleanups := ?_
      inHand := nofun
      cleaning := nofun }
    · by_cases hr : request = r
      · subst hr
        cases (Function.update_self ..).symm.trans h
      · exact (Function.update_of_ne hr ..).symm.trans h
    · by_cases hr : request = r
      · subst hr
        exact .inr ⟨Function.update_self .., Function.update_self .., .inr ⟨stillAlive, hnetwork⟩⟩
      · exact .inl (Function.update_of_ne hr ..)
  | provide r hmem =>
    exact {
      completions := List.mem_append_left _
      providers := fun hmem => .inl (List.mem_of_mem_erase hmem) }
  | expire URL => exact {}

/-! ## Handles -/

/-- A request has its handle from its preparation on, and no request from the cache has one. -/
structure Handled (s : CurlNetworking) (request : Nat) : Prop where
  handle : s.handle request = true → s.started request = true ∧
    (∀ t, s.callers t ≠ .looking request) ∧ request ∉ s.providers ∧ s.cleanups request = 0
  cleanups : s.cleanups request ≠ 0 → s.accepted request = true ∨ request ∈ s.completions
  cleaning : ∀ stillAlive, s.network = .cleaning request stillAlive → request ∈ s.completions

/-- A call that sends the request is in front of `curl_multi_add_handle`. -/
def CallingBefore (s : CurlNetworking) (request thread : Nat) : Prop :=
  s.callers thread = .looking request ∨ s.callers thread = .preparing request ∨
    s.callers thread = .adding request

theorem Counted.callingBefore {thread : Nat} (h : s.Counted False request)
    (hthread : s.CallingBefore request thread) :
    (s.callers thread).stage request = some .before ∧ s.started request = true ∧
      s.accepted request = false ∧ s.places request = 0 := by
  have hstage : (s.callers thread).stage request = some .before := by
    rcases hthread with hthread | hthread | hthread
    all_goals
      rw [hthread]
      exact if_pos rfl
  exact ⟨hstage, h.before thread hstage⟩

/-- One call at most sends the request. -/
theorem Counted.callingBefore_unique {t t' : Nat} (h : s.Counted False request)
    (ht : s.CallingBefore request t) (ht' : s.CallingBefore request t') : t = t' :=
  h.unique t t' (.inl (h.callingBefore ht).1) (.inl (h.callingBefore ht').1)

theorem Handled.step (h : s.Handled request) (hcounted : s.Counted False request)
    (heffect : Effect s s' request) : s'.Handled request := by
  have hcompletions (hplaces : s.places request = 0) : request ∉ s.completions := by
    intro hmem
    have hpos := List.count_pos_iff.mpr hmem
    unfold places at hplaces
    omega
  refine ⟨fun hhandle => ?_, fun hcleanups => ?_, fun stillAlive hnetwork => ?_⟩
  · have hcleanups : s'.cleanups request = s.cleanups request :=
      heffect.cleanups.resolve_right fun hc => Bool.false_ne_true (hc.1.symm.trans hhandle)
    rw [hcleanups]
    rcases heffect.handle hhandle with hold | ⟨thread, hthread⟩
    · obtain ⟨hstarted, hlooking, hproviders, hzero⟩ := h.handle hold
      refine ⟨heffect.started hstarted, fun t ht => ?_, fun hmem => ?_, hzero⟩
      · rcases heffect.looking t ht with ht | hfresh
        · exact hlooking t ht
        · cases hfresh.symm.trans hstarted
      · rcases heffect.providers hmem with hmem | ⟨t, ht⟩
        · exact hproviders hmem
        · exact hlooking t ht
    · -- the thread that has prepared the request is the only one that sends it
      obtain ⟨-, hstarted, haccepted, hplaces⟩ := hcounted.callingBefore (.inr (.inl hthread))
      have hlooking (t : Nat) : s.callers t ≠ .looking request := by
        intro ht
        obtain rfl := hcounted.callingBefore_unique (.inl ht) (.inr (.inl hthread))
        cases ht.symm.trans hthread
      refine ⟨heffect.started hstarted, fun t ht => ?_, fun hmem => ?_, ?_⟩
      · rcases heffect.looking t ht with ht | hfresh
        · exact hlooking t ht
        · cases hfresh.symm.trans hstarted
      · rcases heffect.providers hmem with hmem | ⟨t, ht⟩
        · have hpos := List.count_pos_iff.mpr hmem
          unfold places at hplaces
          omega
        · exact hlooking t ht
      · by_contra hne
        rcases h.cleanups hne with hacc | hmem
        · cases haccepted.symm.trans hacc
        · exact hcompletions hplaces hmem
  · rcases heffect.cleanups with heq | ⟨-, -, ⟨-, t, ht⟩ | ⟨stillAlive, hnetwork⟩⟩
    · rw [heq] at hcleanups
      exact (h.cleanups hcleanups).imp heffect.accepted heffect.completions
    · refine .inl (heffect.accepted (hcounted.aborting t ?_))
      rw [ht]
      exact if_pos rfl
    · exact .inr (heffect.completions (h.cleaning stillAlive hnetwork))
  · rcases heffect.cleaning stillAlive hnetwork with ⟨-, hmem⟩ | hold
    · exact hmem
    · exact heffect.completions (h.cleaning stillAlive hold)

theorem handled_init (request : Nat) : Handled {} request :=
  ⟨nofun, fun h => absurd rfl h, nofun⟩

/-- The request has been aborted, and no thread has it. -/
structure Gone (s : CurlNetworking) (request : Nat) : Prop where
  accepted : s.accepted request = true
  handle : s.handle request = false
  cleanups : s.cleanups request = 1
  unfinished : request ∉ s.unfinished
  messages : ∀ ok, (request, ok) ∉ s.messages
  inHand : s.network.inHand ≠ some request
  cleaning : ∀ stillAlive, s.network ≠ .cleaning request stillAlive
  providers : request ∉ s.providers

theorem Gone.step (h : s.Gone request) (hcounted : s.Counted False request)
    (heffect : Effect s s' request) : s'.Gone request := by
  have hnot (t : Nat) : ¬ s.CallingBefore request t := fun ht =>
    Bool.false_ne_true ((hcounted.callingBefore ht).2.2.1.symm.trans h.accepted)
  refine ⟨heffect.accepted h.accepted, ?_, ?_, fun hmem => ?_, fun ok hmem => ?_, fun hinHand => ?_,
    fun stillAlive hnetwork => ?_, fun hmem => ?_⟩
  · refine Bool.eq_false_iff.mpr fun hhandle => ?_
    rcases heffect.handle hhandle with hold | ⟨t, ht⟩
    · cases h.handle.symm.trans hold
    · exact hnot t (.inr (.inl ht))
  · rcases heffect.cleanups with heq | ⟨-, -, ⟨hhandle, -⟩ | ⟨stillAlive, hnetwork⟩⟩
    · exact heq.trans h.cleanups
    · cases h.handle.symm.trans hhandle
    · exact absurd hnetwork (h.cleaning stillAlive)
  · rcases heffect.unfinished hmem with hold | ⟨t, ht⟩
    · exact h.unfinished hold
    · exact hnot t (.inr (.inr ht))
  · exact (heffect.messages ok hmem).elim (h.messages ok) h.unfinished
  · rcases heffect.inHand hinHand with hold | ⟨ok, hmem⟩
    · exact h.inHand hold
    · exact h.messages ok hmem
  · rcases heffect.cleaning stillAlive hnetwork with ⟨hinHand, -⟩ | hold
    · exact h.inHand hinHand
    · exact h.cleaning stillAlive hold
  · rcases heffect.providers hmem with hold | ⟨t, ht⟩
    · exact h.providers hold
    · exact hnot t (.inl ht)

/-- The section of `abortRequest` for a request that the network thread has not in hand. -/
theorem Handled.gone_of_remove (h : s.Handled request) {thread : Nat}
    (hhandle : s.handle request = true) (haccepted : s.accepted request = true)
    (hcompletions : request ∉ s.completions) (hinHand : s.network.inHand ≠ some request) :
    (s.removeHandle thread request).Gone request := by
  obtain ⟨-, -, hproviders, hzero⟩ := h.handle hhandle
  refine ⟨haccepted, Function.update_self .., ?_, ?_, ?_, hinHand, fun stillAlive hnetwork => ?_,
    hproviders⟩
  · simp only [removeHandle, Function.update_self, hhandle, hzero, if_true]
  · simp [removeHandle]
  · simp [removeHandle]
  · exact hcompletions (h.cleaning stillAlive hnetwork)

theorem Counted.started_of_inHand (h : s.Counted False request)
    (hinHand : s.network.inHand = some request ∨ request ∈ s.providers) :
    s.started request = true := by
  by_contra hfresh
  have haccepted : s.accepted request = false :=
    Bool.eq_false_iff.mpr fun hacc => hfresh (h.accepted hacc).1
  have hplaces := h.rejected haccepted fun t ht => hfresh (h.after t ht).1
  unfold places at hplaces
  rcases hinHand with hinHand | hmem
  · rw [if_pos hinHand] at hplaces
    omega
  · have hpos := List.count_pos_iff.mpr hmem
    omega

end CurlNetworking

/-! ## The aborts of a run -/

namespace NetworkingModule

variable {query : Nat → CurlRequest} {networkRequest : Nat → NetworkRequest}
  {s s' : NetworkingModule} {op : NetworkingOp}

/-- Each request that has been started has an id of its own. -/
structure Identified (s : NetworkingModule) : Prop where
  known : ∀ request, s.curl.started request = true → s.requestId_ request ∈ s.ids
  injective : ∀ request other, s.curl.started request = true → s.curl.started other = true →
    s.requestId_ request = s.requestId_ other → request = other

/-- An abort is over: the request of the id is gone, and no event has come for it. -/
structure Final (s : NetworkingModule) (id : Int) (n : Nat) : Prop where
  length : n ≤ s.events.length
  gone : ∃ request, s.requestId_ request = id ∧ s.curl.Gone request
  silent : ∀ event ∈ s.events.drop n, event.1 ≠ id

structure Silenced (s : NetworkingModule) : Prop where
  calls : s.Calls
  handled : ∀ request, s.curl.Handled request
  identified : s.Identified
  aborting : ∀ request, s.js = .aborting request →
    s.curl.handle request = true ∧ s.completed request = false
  final : ∀ id n, (id, n) ∈ s.aborts → s.Final id n

theorem gone_started (h : s.Calls) {request : Nat} (hgone : s.curl.Gone request) :
    s.curl.started request = true := ((h.counted request).accepted hgone.accepted).1

/-- Ids are handed out by `sendRequest` alone. -/
theorem ids_exec (hexec : op.exec query networkRequest s = some s') :
    (∃ request, op = .sendRequest request ∧ s.curl.started request = false ∧
      s'.ids = s.ids ++ [s.newId] ∧
        s'.requestId_ = Function.update s.requestId_ request s.newId ∧
          s'.curl.started = Function.update s.curl.started request true) ∨
    (s'.ids = s.ids ∧ s'.requestId_ = s.requestId_ ∧ s'.curl.started = s.curl.started) := by
  cases NetworkingOp.exec_branch hexec with
  | sendRequest r hjs hfresh hcurl => exact .inl ⟨r, rfl, hfresh, rfl, rfl, rfl⟩
  | curl inner curl hinner hcurl =>
    have hstarted := (CurlNetworking.inner_exec hinner hcurl).started
    cases inner.readRequest with
    | none => exact .inr ⟨rfl, rfl, hstarted⟩
    | some read => exact .inr ⟨rfl, rfl, hstarted⟩
  | completion op r curlOp curl hop hjs hcurl hcompletion =>
    exact .inr ⟨rfl, rfl, hcompletion.started⟩
  | remove r curl hjs hcurl =>
    cases CurlOp.exec_branch hcurl with
    | remove thread r' hcaller hnetwork => exact .inr ⟨rfl, rfl, rfl⟩
  | _ => exact .inr ⟨rfl, rfl, rfl⟩

/-- A request that has been started keeps its id. -/
theorem requestId_exec (hexec : op.exec query networkRequest s = some s')
    {request : Nat} (hstarted : s.curl.started request = true) :
    s'.requestId_ request = s.requestId_ request := by
  rcases ids_exec hexec with ⟨r, -, hfresh, -, hids, -⟩ | ⟨-, hids, -⟩
  · rw [hids]
    refine Function.update_of_ne (fun heq => ?_) ..
    subst heq
    cases hfresh.symm.trans hstarted
  · rw [hids]

theorem Identified.exec (h : s.Identified) (hok : op.KeepsAborted s)
    (hexec : op.exec query networkRequest s = some s') : s'.Identified := by
  rcases ids_exec hexec with ⟨r, rfl, -, hids, hrequestId, hstarted⟩ |
    ⟨hids, hrequestId, hstarted⟩
  · have hold {r' : Nat} (hr' : r' ≠ r) (hs : s'.curl.started r' = true) :
        s.curl.started r' = true ∧ s'.requestId_ r' = s.requestId_ r' := by
      rw [hstarted, Function.update_of_ne hr'] at hs
      rw [hrequestId, Function.update_of_ne hr']
      exact ⟨hs, rfl⟩
    have hnew : s'.requestId_ r = s.newId := by
      rw [hrequestId, Function.update_self]
    -- the new id is none of those that have been handed out
    have hne {r' : Nat} (hr' : r' ≠ r) (hs : s'.curl.started r' = true) :
        s'.requestId_ r' ≠ s.newId := by
      intro heq
      obtain ⟨hs, hid⟩ := hold hr' hs
      exact hok (heq ▸ hid ▸ h.known r' hs)
    constructor
    · intro r' hs
      rw [hids]
      by_cases hr' : r' = r
      · subst hr'
        rw [hnew]
        exact List.mem_append_right _ (List.mem_singleton_self _)
      · obtain ⟨hs, hid⟩ := hold hr' hs
        rw [hid]
        exact List.mem_append_left _ (h.known r' hs)
    · intro r' other hs hs' heq
      by_cases hr' : r' = r
      · subst hr'
        by_contra hother
        exact hne (Ne.symm hother) hs' (heq.symm.trans hnew)
      · by_cases hother : other = r
        · subst hother
          exact absurd (heq.trans hnew) (hne hr' hs)
        · obtain ⟨hs, hid⟩ := hold hr' hs
          obtain ⟨hs', hid'⟩ := hold hother hs'
          exact h.injective r' other hs hs' (hid.symm.trans (heq.trans hid'))
  · constructor
    · rw [hids, hrequestId, hstarted]
      exact h.known
    · rw [hrequestId, hstarted]
      exact h.injective

/-- An abort stays over as long as the new events are those of requests that are not gone. -/
theorem Silenced.of_step (h : s.Silenced) (hok : op.KeepsAborted s)
    (hexec : op.exec query networkRequest s = some s')
    (haborting : ∀ request, s'.js = .aborting request →
      s'.curl.handle request = true ∧ s'.completed request = false)
    (haborts : ∀ id n, (id, n) ∈ s'.aborts → (id, n) ∈ s.aborts ∨
      (n = s'.events.length ∧ ∃ request, s'.requestId_ request = id ∧ s'.curl.Gone request))
    (hevents : ∃ events, s'.events = s.events ++ events ∧
      ∀ event ∈ events, ∀ request, s.curl.Gone request → event.1 ≠ s.requestId_ request) :
    s'.Silenced := by
  obtain ⟨events, hevents, hnew⟩ := hevents
  have hcurl : ∀ request, s'.curl.Counted False request ∧ s'.curl.Handled request ∧
      (s.curl.Gone request → s'.curl.Gone request) := by
    refine fun request => NetworkingOp.exec_keeps (P := fun t => t.Counted False request ∧
      t.Handled request ∧ (s.curl.Gone request → t.Gone request)) ?_ hexec
        ⟨h.calls.counted request, h.handled request, id⟩
    rintro curlOp t t' ⟨hcounted, hhandled, hgone⟩ hstep
    have heffect := CurlNetworking.effect_exec hstep request
    exact ⟨hcounted.exec False.elim hstep, hhandled.step hcounted heffect,
      fun hg => (hgone hg).step hcounted heffect⟩
  refine ⟨h.calls.exec hexec, fun request => (hcurl request).2.1,
    h.identified.exec hok hexec, haborting, fun id n hmem => ?_⟩
  rcases haborts id n hmem with hold | ⟨rfl, hgone⟩
  · obtain ⟨hlength, ⟨r, rfl, hgone⟩, hsilent⟩ := h.final id n hold
    refine ⟨?_, ⟨r, requestId_exec hexec (gone_started h.calls hgone),
      (hcurl r).2.2 hgone⟩, ?_⟩
    · rw [hevents, List.length_append]
      exact Nat.le_add_right_of_le hlength
    · intro event hevent
      rw [hevents, List.drop_append_of_le_length hlength] at hevent
      rcases List.mem_append.mp hevent with hevent | hevent
      · exact hsilent event hevent
      · exact hnew event hevent r hgone
  · refine ⟨Nat.le_refl _, hgone, ?_⟩
    rw [List.drop_length]
    exact nofun

/-- No event of a completion callback is one of a request that is gone. -/
theorem Silenced.completionEvents_ne (h : s.Silenced) {request r : Nat} {curl : CurlNetworking}
    (hcompletion : s.curl.Completion curl request) {event : Int × NetworkEvent}
    (hevent : event ∈ s.completionEvents networkRequest request) (hgone : s.curl.Gone r) :
    event.1 ≠ s.requestId_ r := by
  obtain ⟨e, -, rfl⟩ := List.mem_map.mp hevent
  intro heq
  have hstarted := (h.calls.counted request).started_of_inHand hcompletion.inHand
  obtain rfl := h.identified.injective request r hstarted (gone_started h.calls hgone) heq
  exact hcompletion.inHand.elim hgone.inHand hgone.providers

theorem Silenced.exec (h : s.Silenced) (hok : op.KeepsAborted s)
    (hexec : op.exec query networkRequest s = some s') : s'.Silenced := by
  have hstep := h.of_step hok hexec
  have hsame : ∃ events, s.events = s.events ++ events ∧ ∀ event ∈ events, ∀ request,
      s.curl.Gone request → event.1 ≠ s.requestId_ request :=
    ⟨[], (List.append_nil _).symm, nofun⟩
  cases NetworkingOp.exec_branch hexec with
  | sendRequest r hjs hfresh hcurl => exact hstep nofun (fun _ _ => .inl) hsame
  | curl inner curl hinner hcurl =>
    have hinner := CurlNetworking.inner_exec hinner hcurl
    have haborting (r : Nat) (hjs : s.js = .aborting r) :
        curl.handle r = true ∧ decide (r ∈ curl.completions) = false := by
      obtain ⟨hhandle, hcompleted⟩ := h.aborting r hjs
      rw [hinner.completions]
      refine ⟨(hinner.handle r hhandle).resolve_right ?_, hcompleted⟩
      rintro ⟨stillAlive, hnetwork⟩
      exact of_decide_eq_false hcompleted ((h.handled r).cleaning stillAlive hnetwork)
    cases hread : inner.readRequest with
    | none =>
      rw [hread] at hstep
      exact hstep haborting (fun _ _ => .inl) hsame
    | some read =>
      rw [hread] at hstep
      exact hstep haborting (fun _ _ => .inl) hsame
  | accepted r hjs hcaller haccepted => exact hstep nofun (fun _ _ => .inl) hsame
  | rejected r hjs hcaller hrejected => exact hstep nofun (fun _ _ => .inl) hsame
  | store r hjs => exact hstep nofun (fun _ _ => .inl) hsame
  | completion op r curlOp curl hop hjs hcurl hcompletion =>
    exact hstep (fun r hc => absurd hc (hjs r)) (fun _ _ => .inl)
      ⟨s.completionEvents networkRequest r, rfl,
        fun event hevent request hgone => h.completionEvents_ne hcompletion hevent hgone⟩
  | missing id hjs hentry =>
    exact hstep (fun r hc => absurd (hjs.symm.trans hc) nofun) (fun _ _ => .inl) hsame
  | found id r hjs hentry hhandle hcurl =>
    obtain ⟨hcompleted, -⟩ := hok r (Option.join_eq_some_iff.mpr hentry)
    refine hstep (fun r' hc => ?_) (fun _ _ => .inl) hsame
    obtain rfl := NetworkingJs.aborting.inj hc
    exact ⟨hhandle, hcompleted⟩
  | noHandle id r hjs hentry hcaller hhandle =>
    obtain ⟨-, hheld⟩ := hok r (Option.join_eq_some_iff.mpr hentry)
    cases hhandle.symm.trans hheld
  | remove r curl hjs hcurl =>
    obtain rfl := h.calls.remove_eq hjs hcurl
    obtain ⟨hhandle, hcompleted⟩ := h.aborting r hjs
    have hcalling := h.calls.calling
    rw [hjs] at hcalling
    have hgone : (s.curl.removeHandle 0 r).Gone r := by
      refine (h.handled r).gone_of_remove hhandle (h.calls.accepted r hcalling.2)
        (of_decide_eq_false hcompleted) ?_
      simp only [NetworkingOp.KeepsAborted, hjs] at hok
      exact hok
    refine hstep nofun (fun id n hmem => ?_) hsame
    rcases List.mem_append.mp hmem with hmem | hmem
    · exact .inl hmem
    · cases List.mem_singleton.mp hmem
      exact .inr ⟨rfl, r, rfl, hgone⟩

theorem silenced_init : Silenced {} :=
  ⟨calls_init, CurlNetworking.handled_init, ⟨nofun, nofun⟩, nofun, nofun⟩

/-- In every run that keeps to it an abort is final. -/
theorem networkingRun_abortFinal
    (hrun : Run (networkingStep query networkRequest) NetworkingOp.KeepsAborted {} s) :
    s.AbortFinal := by
  have h : s.Silenced :=
    hrun.invariant (P := Silenced) (fun _ _ _ ht hok hstep => ht.exec hok hstep) silenced_init
  refine ⟨fun id n hmem => (h.final id n hmem).silent, fun id n hmem request hstarted hid => ?_⟩
  obtain ⟨r, rfl, hgone⟩ := (h.final id n hmem).gone
  obtain rfl := h.identified.injective request r hstarted (gone_started h.calls hgone) hid
  exact hgone.cleanups

/-- The first request is aborted, and the second is answered behind it. -/
theorem networkingRun_abortFinal_two_requests : ∃ s : NetworkingModule, s.AbortFinal ∧
    s.aborts = [(1, 0)] ∧ s.events.map Prod.fst = [2, 2] := by
  have hfold : ((sendingOps 0 ++ ([.curl .wake, .abortRequest 1, .remove] ++ sendingOps 1 ++
      [.curl .lock, .curl (.write 1 [65]), .curl (.finish 1 true), .curl .performed, .curl .read,
        .curl .store, .complete, .curl .cleanup] : List NetworkingOp)).foldlM
          (fun s (op : NetworkingOp) =>
            if op.KeepsAborted s then
              op.exec (fun _ => .get "a") (fun _ => ⟨false, .text, false, false⟩) s
            else none) {}).map (fun s => (s.aborts, s.events.map Prod.fst)) =
              some ([(1, 0)], [2, 2]) := by
    decide +kernel
  obtain ⟨s, hrun, hs⟩ := Option.map_eq_some_iff.mp hfold
  obtain ⟨haborts, hevents⟩ := Prod.mk.inj hs
  have hrun : Run (networkingStep (fun _ => .get "a") fun _ => ⟨false, .text, false, false⟩)
      NetworkingOp.KeepsAborted {} s :=
    Run.of_checked_exec hrun
  exact ⟨s, networkingRun_abortFinal hrun, haborts, hevents⟩

/-- The network thread has taken the message of the request when it is aborted. -/
theorem completion_after_abort : ¬ ∀ (query : Nat → CurlRequest)
    (networkRequest : Nat → NetworkRequest) (s : NetworkingModule),
      Run (networkingStep query networkRequest) anyStep {} s → s.AbortFinal := by
  intro hall
  have hfold : ((sendingOps 0 ++ ([.curl .wake, .curl .lock, .curl (.finish 0 true),
      .curl .performed, .curl .read, .abortRequest 1, .remove, .curl .store, .complete,
      .curl .cleanup] : List NetworkingOp)).foldlM
        (NetworkingOp.exec (fun _ => .get "a") (fun _ => ⟨false, .text, false, false⟩)) {}).map
          (fun s => (s.aborts, s.events.map Prod.fst, s.curl.cleanups 0)) =
            some ([(1, 0)], [1], 2) := by
    decide +kernel
  obtain ⟨s, hrun, hs⟩ := Option.map_eq_some_iff.mp hfold
  obtain ⟨haborts, hs⟩ := Prod.mk.inj hs
  obtain ⟨hevents, -⟩ := Prod.mk.inj hs
  have hfinal := hall _ _ s (Run.of_exec hrun)
  obtain ⟨event, hmem, hevent⟩ := List.mem_map.mp (hevents ▸ List.mem_singleton_self (1 : Int))
  exact hfinal.silent 1 0 (haborts ▸ List.mem_singleton_self _) event hmem hevent

end NetworkingModule

end ReactNativeSkia
