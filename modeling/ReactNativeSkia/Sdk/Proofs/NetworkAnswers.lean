import ReactNativeSkia.Misc.Run
import ReactNativeSkia.Sdk.Proofs.CurlSteps

/-!
# Each request is answered once

A request that is accepted is at one place until its completion callback is called: among the
unfinished transfers, the messages of libcurl or the threads of the cache, or with the network
thread. Only a request that is found in the cache with a response without a body is at none.
-/

namespace ReactNativeSkia

/-- The request whose message the network thread has, with the callback to come. -/
def MultiNetworkThread.inHand : MultiNetworkThread → Option Nat
  | storing request _ _ | completing request _ => some request
  | waiting | locking | performing | reading _ | cleaning _ _ => none

namespace CurlNetworking

/-- No transfer is unfinished, no message is left and no `responseCacheProviderThread` runs. -/
structure Quiet (s : CurlNetworking) : Prop where
  unfinished : s.unfinished = []
  messages : s.messages = []
  inHand : s.network.inHand = none
  providers : s.providers = []

instance (s : CurlNetworking) : Decidable s.Quiet :=
  decidable_of_iff (s.unfinished = [] ∧ s.messages = [] ∧ s.network.inHand = none ∧
    s.providers = []) ⟨fun ⟨h₁, h₂, h₃, h₄⟩ => ⟨h₁, h₂, h₃, h₄⟩,
      fun ⟨h₁, h₂, h₃, h₄⟩ => ⟨h₁, h₂, h₃, h₄⟩⟩

/-- A request that has been accepted and not aborted is answered once at most, and in the end it
is. -/
structure AnsweredOnce (s : CurlNetworking) : Prop where
  once : ∀ request, s.accepted request = true → s.aborted request = false →
    s.completions.count request ≤ 1
  all : s.Quiet → ∀ request, s.accepted request = true → s.aborted request = false →
    s.completions.count request = 1

end CurlNetworking

/-- The request whose response is found in the cache. -/
def CurlOp.finds (query : Nat → CurlRequest) (s : CurlNetworking) : CurlOp → Option Nat
  | .lookup thread =>
    match s.callers thread with
    | .looking request => s.networkCache (query request).URL
    | _ => none
  | _ => none

/-- What is found in the cache has a body. -/
def CurlOp.KeepsAnswer (query : Nat → CurlRequest) (s : CurlNetworking) (op : CurlOp) : Prop :=
  ∀ producer ∈ op.finds query s, (s.responses producer).responseBuffer ≠ none

instance (query : Nat → CurlRequest) (s : CurlNetworking) (op : CurlOp) :
    Decidable (op.KeepsAnswer query s) :=
  inferInstanceAs (Decidable (∀ _ ∈ op.finds query s, _))

/-! ## One request -/

/-- How far a call for a request is. -/
inductive CallStage where
  /-- In `sendRequest`, in front of `curl_multi_add_handle`. -/
  | before
  | after
  | aborting
  deriving DecidableEq, Repr

/-- How far the thread is in a call for the request. -/
def CurlCaller.stage (request : Nat) : CurlCaller → Option CallStage
  | looking r | preparing r | adding r => if r = request then some .before else none
  | added r | posting r => if r = request then some .after else none
  | aborting r => if r = request then some .aborting else none
  | idle => none

/-- The facts about a request that is at `places` places, with the calls that are under way. If
they are `exact` none that has been accepted gets lost. -/
structure RequestCount (exact : Prop) (stages : Nat → Option CallStage)
    (started accepted aborted : Bool) (places : Nat) : Prop where
  unique : ∀ t t', stages t = some .before ∨ stages t = some .after →
    stages t' = some .before ∨ stages t' = some .after → t = t'
  before : ∀ t, stages t = some .before → started = true ∧ accepted = false ∧ places = 0
  after : ∀ t, stages t = some .after → started = true ∧ accepted = false ∧ places = 1
  aborting : ∀ t, stages t = some .aborting → accepted = true
  rejected : accepted = false → (∀ t, stages t ≠ some .after) → places = 0
  accepted : accepted = true → started = true ∧ (exact → aborted = true ∨ places = 1)
  once : places ≤ 1

namespace RequestCount

variable {exact : Prop} {stages : Nat → Option CallStage} {started accepted aborted : Bool}
  {places places' thread : Nat}

/-- No call is under way for a request that has not been started. -/
theorem stage_of_fresh (h : RequestCount exact stages false accepted aborted places) (t : Nat) :
    stages t = none := by
  cases hstage : stages t with
  | none => rfl
  | some stage =>
    cases stage with
    | before => cases (h.before t hstage).1
    | after => cases (h.after t hstage).1
    | aborting => cases (h.accepted (h.aborting t hstage)).1

/-- The only call that sends the request. -/
theorem other_stage (h : RequestCount exact stages started accepted aborted places)
    (hthread : stages thread = some .before ∨ stages thread = some .after) {t : Nat}
    (ht : t ≠ thread) : stages t ≠ some .before ∧ stages t ≠ some .after :=
  ⟨fun hstage => ht (h.unique t thread (.inl hstage) hthread),
    fun hstage => ht (h.unique t thread (.inr hstage) hthread)⟩

theorem send (h : RequestCount exact stages false accepted aborted places) (thread : Nat) :
    RequestCount exact (Function.update stages thread (some .before)) true accepted aborted
      places := by
  have hnone := h.stage_of_fresh
  have haccepted : accepted = false := by
    by_contra hne
    cases (h.accepted (Bool.of_not_eq_false hne)).1
  have hself {t : Nat} (hstage : Function.update stages thread (some .before) t ≠ none) :
      t = thread := by
    by_contra ht
    rw [Function.update_of_ne ht] at hstage
    exact hstage (hnone t)
  have hsome {t : Nat} {stage : CallStage}
      (hstage : Function.update stages thread (some .before) t = some stage) :
      stage = .before := by
    obtain rfl := hself (by rw [hstage]; nofun)
    rw [Function.update_self] at hstage
    exact (Option.some.inj hstage).symm
  have hplaces : places = 0 := h.rejected haccepted fun t => by rw [hnone t]; nofun
  refine ⟨?_, fun _ _ => ⟨rfl, haccepted, hplaces⟩, ?_, ?_, fun _ _ => hplaces, ?_, h.once⟩
  · intro t t' ht ht'
    have hne {u : Nat} (hu : Function.update stages thread (some .before) u = some .before ∨
        Function.update stages thread (some .before) u = some .after) : u = thread := by
      refine hself ?_
      rcases hu with hu | hu
      · rw [hu]
        nofun
      · rw [hu]
        nofun
    exact (hne ht).trans (hne ht').symm
  · intro t ht
    cases hsome ht
  · intro t ht
    cases hsome ht
  · intro hacc
    exact ⟨rfl, (h.accepted hacc).2⟩

/-- A call that sends the request goes on to another stage. -/
theorem advance (h : RequestCount exact stages started accepted aborted places)
    (hthread : stages thread = some .before ∨ stages thread = some .after)
    (hplaces : places' = 1) :
    RequestCount exact (Function.update stages thread (some .after)) started accepted aborted
      places' := by
  have hsending : started = true ∧ accepted = false := by
    rcases hthread with hthread | hthread
    · exact ⟨(h.before thread hthread).1, (h.before thread hthread).2.1⟩
    · exact ⟨(h.after thread hthread).1, (h.after thread hthread).2.1⟩
  obtain ⟨rfl, rfl⟩ := hsending
  have hother {t : Nat} (ht : Function.update stages thread (some .after) t = some .before ∨
      Function.update stages thread (some .after) t = some .after) : t = thread := by
    by_contra hne
    rw [Function.update_of_ne hne] at ht
    obtain ⟨hbefore, hafter⟩ := h.other_stage hthread hne
    exact ht.elim hbefore hafter
  refine ⟨fun t t' ht ht' => (hother ht).trans (hother ht').symm, ?_, ?_, ?_,
    fun _ hnot => absurd (Function.update_self ..) (hnot thread), nofun, Nat.le_of_eq hplaces⟩
  · intro t ht
    obtain rfl := hother (.inl ht)
    rw [Function.update_self] at ht
    cases ht
  · exact fun t _ => ⟨rfl, rfl, hplaces⟩
  · intro t ht
    by_cases heq : t = thread
    · subst heq
      rw [Function.update_self] at ht
      cases ht
    · rw [Function.update_of_ne heq] at ht
      exact h.aborting t ht

/-- `sendRequest` returns false. -/
theorem reject (h : RequestCount exact stages started accepted aborted places)
    (hthread : stages thread = some .before) :
    RequestCount exact (Function.update stages thread none) started accepted aborted places := by
  obtain ⟨rfl, rfl, rfl⟩ := h.before thread hthread
  have hstage {t : Nat} {stage : CallStage}
      (ht : Function.update stages thread none t = some stage) :
      t ≠ thread ∧ stages t = some stage := by
    by_cases heq : t = thread
    · subst heq
      rw [Function.update_self] at ht
      cases ht
    · rw [Function.update_of_ne heq] at ht
      exact ⟨heq, ht⟩
  have hother {t : Nat} (ht : Function.update stages thread none t = some .before ∨
      Function.update stages thread none t = some .after) : False := by
    rcases ht with ht | ht
    · exact (h.other_stage (.inl hthread) (hstage ht).1).1 (hstage ht).2
    · exact (h.other_stage (.inl hthread) (hstage ht).1).2 (hstage ht).2
  exact ⟨fun t t' ht => (hother ht).elim, fun t ht => (hother (.inl ht)).elim,
    fun t ht => (hother (.inr ht)).elim, fun t ht => h.aborting t (hstage ht).2,
    fun _ _ => rfl, nofun, h.once⟩

/-- `sendRequest` returns true. -/
theorem accept (h : RequestCount exact stages started accepted aborted places)
    (hthread : stages thread = some .before ∨ stages thread = some .after)
    (hplaces : places' ≤ 1) (hexact : exact → places' = 1) :
    RequestCount exact (Function.update stages thread none) started true aborted places' := by
  have hstarted : started = true := by
    rcases hthread with hthread | hthread
    · exact (h.before thread hthread).1
    · exact (h.after thread hthread).1
  have hother {t : Nat} (ht : Function.update stages thread none t = some .before ∨
      Function.update stages thread none t = some .after) : False := by
    by_cases heq : t = thread
    · subst heq
      rw [Function.update_self] at ht
      rcases ht with ht | ht
      · cases ht
      · cases ht
    · rw [Function.update_of_ne heq] at ht
      obtain ⟨hbefore, hafter⟩ := h.other_stage hthread heq
      exact ht.elim hbefore hafter
  exact ⟨fun t t' ht => (hother ht).elim, fun t ht => (hother (.inl ht)).elim,
    fun t ht => (hother (.inr ht)).elim, fun _ _ => rfl, nofun,
    fun _ => ⟨hstarted, fun hex => .inr (hexact hex)⟩, hplaces⟩

/-- `abortRequest` has found a handle. -/
theorem abort (h : RequestCount exact stages started accepted aborted places)
    (haccepted : accepted = true) (hthread : stages thread = none) :
    RequestCount exact (Function.update stages thread (some .aborting)) started accepted aborted
      places := by
  have hstage {t : Nat} {stage : CallStage} (hne : stage ≠ .aborting)
      (ht : Function.update stages thread (some .aborting) t = some stage) :
      stages t = some stage := by
    by_cases heq : t = thread
    · subst heq
      rw [Function.update_self] at ht
      exact absurd (Option.some.inj ht).symm hne
    · rwa [Function.update_of_ne heq] at ht
  refine ⟨fun t t' ht ht' => h.unique t t' ?_ ?_, fun t ht => h.before t (hstage nofun ht),
    fun t ht => h.after t (hstage nofun ht), fun _ _ => haccepted,
    fun hacc => absurd (haccepted.symm.trans hacc) nofun, h.accepted, h.once⟩
  · exact ht.imp (hstage nofun) (hstage nofun)
  · exact ht'.imp (hstage nofun) (hstage nofun)

/-- The section of `abortRequest`. -/
theorem remove (h : RequestCount exact stages started accepted aborted places)
    (hthread : stages thread = some .aborting) (hplaces : places' ≤ places) :
    RequestCount exact (Function.update stages thread none) started accepted true places' := by
  have haccepted := h.aborting thread hthread
  have hstage {t : Nat} {stage : CallStage}
      (ht : Function.update stages thread none t = some stage) : stages t = some stage := by
    by_cases heq : t = thread
    · subst heq
      rw [Function.update_self] at ht
      cases ht
    · rwa [Function.update_of_ne heq] at ht
  have hnone {t : Nat} (ht : Function.update stages thread none t = some .before ∨
      Function.update stages thread none t = some .after) : False := by
    rcases ht with ht | ht
    · cases (h.before t (hstage ht)).2.1.symm.trans haccepted
    · cases (h.after t (hstage ht)).2.1.symm.trans haccepted
  exact ⟨fun t t' ht => (hnone ht).elim, fun t ht => (hnone (.inl ht)).elim,
    fun t ht => (hnone (.inr ht)).elim, fun _ _ => haccepted,
    fun hacc => absurd (haccepted.symm.trans hacc) nofun,
    fun hacc => ⟨(h.accepted hacc).1, fun _ => .inl rfl⟩, Nat.le_trans hplaces h.once⟩

end RequestCount

namespace CurlNetworking

/-- In how many places the request is, with the answers that it has got. -/
def places (s : CurlNetworking) (request : Nat) : Nat :=
  s.unfinished.count request + s.messages.countP (·.1 = request) +
    (if s.network.inHand = some request then 1 else 0) + s.providers.count request +
      s.completions.count request

def Counted (exact : Prop) (s : CurlNetworking) (request : Nat) : Prop :=
  RequestCount exact (fun t => (s.callers t).stage request) (s.started request) (s.accepted request)
    (s.aborted request) (s.places request)

variable {exact : Prop} {query : Nat → CurlRequest} {s s' : CurlNetworking}
  {thread request r : Nat} {c : CurlCaller}

/-- A step in which the request stays in as many places. -/
theorem Counted.congr (h : s.Counted exact request) (hcallers : s'.callers = s.callers)
    (hstarted : s'.started = s.started) (haccepted : s'.accepted = s.accepted)
    (haborted : s'.aborted = s.aborted) (hplaces : s'.places request = s.places request) :
    s'.Counted exact request := by
  unfold Counted at h ⊢
  rw [hcallers, hstarted, haccepted, haborted, hplaces]
  exact h

theorem stages_setCaller (s : CurlNetworking) (thread request : Nat) (c : CurlCaller) :
    (fun t => (Function.update s.callers thread c t).stage request) =
      Function.update (fun t => (s.callers t).stage request) thread (c.stage request) := by
  funext t
  by_cases ht : t = thread
  · subst ht
    rw [Function.update_self, Function.update_self]
  · rw [Function.update_of_ne ht, Function.update_of_ne ht]

/-- A step of a caller, given what becomes of its stage. -/
theorem Counted.of_caller (thread : Nat)
    (hcallers : s'.callers = Function.update s.callers thread c)
    (h : RequestCount exact (Function.update (fun t => (s.callers t).stage request) thread
      (c.stage request)) (s'.started request) (s'.accepted request) (s'.aborted request)
        (s'.places request)) : s'.Counted exact request := by
  unfold Counted
  rw [hcallers, stages_setCaller]
  exact h

/-- A caller goes on that has nothing to do with the request, or stays in its stage. -/
theorem Counted.same_stage (h : s.Counted exact request) (thread : Nat)
    (hcallers : s'.callers = Function.update s.callers thread c)
    (hstage : c.stage request = (s.callers thread).stage request)
    (hstarted : s'.started request = s.started request)
    (haccepted : s'.accepted request = s.accepted request)
    (haborted : s'.aborted request = s.aborted request)
    (hplaces : s'.places request = s.places request) : s'.Counted exact request := by
  refine Counted.of_caller thread hcallers ?_
  rw [hstage, Function.update_eq_self_iff.mpr rfl, hstarted, haccepted, haborted, hplaces]
  exact h

/-- The network thread goes on, with the same request in hand. -/
theorem Counted.of_network (h : s.Counted exact request) (hcallers : s'.callers = s.callers)
    (hstarted : s'.started = s.started) (haccepted : s'.accepted = s.accepted)
    (haborted : s'.aborted = s.aborted) (hunfinished : s'.unfinished = s.unfinished)
    (hmessages : s'.messages = s.messages) (hproviders : s'.providers = s.providers)
    (hcompletions : s'.completions = s.completions)
    (hinHand : s'.network.inHand = s.network.inHand) : s'.Counted exact request := by
  refine h.congr hcallers hstarted haccepted haborted ?_
  unfold places
  rw [hunfinished, hmessages, hinHand, hproviders, hcompletions]

theorem Counted.send (h : s.Counted exact request) (hidle : s.callers thread = .idle)
    (hfresh : s.started r = false) :
    Counted exact { s.setCaller thread (.looking r) with
      started := Function.update s.started r true } request := by
  by_cases hr : r = request
  · subst hr
    refine Counted.of_caller thread rfl ?_
    rw [show (CurlCaller.looking r).stage r = some .before from if_pos rfl]
    show RequestCount exact _ ((Function.update s.started r true) r) (s.accepted r) (s.aborted r)
      (s.places r)
    rw [Function.update_self]
    unfold Counted at h
    rw [hfresh] at h
    exact h.send thread
  · refine h.same_stage thread rfl ?_ ?_ rfl rfl rfl
    · rw [hidle]
      exact if_neg hr
    · exact Function.update_of_ne (Ne.symm hr) _ _

/-- A call goes on in front of `curl_multi_add_handle`. -/
theorem Counted.go (h : s.Counted exact request) (hcaller : (s.callers thread).stage request =
    c.stage request) : (s.setCaller thread c).Counted exact request :=
  h.same_stage thread rfl hcaller.symm rfl rfl rfl rfl

theorem Counted.reject (h : s.Counted exact request) (hcaller : s.callers thread = .preparing r) :
    (s.setCaller thread .idle).Counted exact request := by
  by_cases hr : r = request
  · subst hr
    refine Counted.of_caller thread (c := .idle) rfl ?_
    refine h.reject ?_
    rw [hcaller]
    exact if_pos rfl
  · refine h.go ?_
    rw [hcaller]
    exact if_neg hr

/-- `sendRequest` returns true for a request that is now at one place. -/
theorem Counted.accept (h : s.Counted exact request) (thread : Nat)
    (hcaller : ∀ request, (s.callers thread).stage request =
      if r = request then some .before else none)
    (hcallers : s'.callers = Function.update s.callers thread .idle)
    (hstarted : s'.started = s.started)
    (haccepted : s'.accepted = Function.update s.accepted r true)
    (haborted : s'.aborted = s.aborted)
    (hself : r = request → s'.places request ≤ s.places request + 1 ∧
      (exact → s'.places request = s.places request + 1))
    (hother : r ≠ request → s'.places request = s.places request) :
    s'.Counted exact request := by
  have hstage := hcaller request
  by_cases hr : r = request
  · subst hr
    obtain ⟨hle, heq⟩ := hself rfl
    rw [if_pos rfl] at hstage
    refine Counted.of_caller thread hcallers ?_
    rw [hstarted, haccepted, haborted, Function.update_self]
    have hbefore := (h.before thread hstage).2.2
    rw [hbefore] at hle heq
    exact RequestCount.accept h (.inl hstage) hle heq
  · rw [if_neg hr] at hstage
    refine h.same_stage thread hcallers hstage.symm (by rw [hstarted]) ?_ (by rw [haborted])
      (hother hr)
    rw [haccepted, Function.update_of_ne (Ne.symm hr)]

/-- `sendRequest` returns true for a request whose transfer has been added. -/
theorem Counted.acceptAdded (h : s.Counted exact request)
    (hcaller : ∀ request, (s.callers thread).stage request =
      if r = request then some .after else none) : (s.accept thread r).Counted exact request := by
  have hstage := hcaller request
  by_cases hr : r = request
  · subst hr
    rw [if_pos rfl] at hstage
    refine Counted.of_caller thread (c := .idle) rfl ?_
    show RequestCount exact _ (s.started r) ((Function.update s.accepted r true) r) (s.aborted r)
      (s.places r)
    rw [Function.update_self]
    have hafter := (h.after thread hstage).2.2
    exact RequestCount.accept h (.inr hstage) hafter.le fun _ => hafter
  · rw [if_neg hr] at hstage
    refine h.same_stage thread (c := .idle) rfl hstage.symm rfl ?_ rfl rfl
    exact Function.update_of_ne (Ne.symm hr) _ _

theorem Counted.serve (h : s.Counted exact request) (hcaller : s.callers thread = .looking r)
    {producer : Nat} (hbody : exact → (s.responses producer).responseBuffer ≠ none) :
    (s.serve thread r producer).Counted exact request := by
  have hplaces : (s.serve thread r producer).places request = s.places request +
      if (s.responses producer).responseBuffer ≠ none ∧ r = request then 1 else 0 := by
    show s.unfinished.count request + s.messages.countP (·.1 = request) +
      (if s.network.inHand = some request then 1 else 0) +
        (if (s.responses producer).responseBuffer = none then s.providers
          else s.providers ++ [r]).count request + s.completions.count request = _
    unfold CurlNetworking.places
    by_cases hnone : (s.responses producer).responseBuffer = none
    · have hbodyless : ¬ ((s.responses producer).responseBuffer ≠ none ∧ r = request) :=
        fun hc => hc.1 hnone
      rw [if_pos hnone, if_neg hbodyless]
      omega
    · rw [if_neg hnone, List.count_append, List.count_singleton]
      simp only [beq_iff_eq, ne_eq, hnone, not_false_eq_true, true_and]
      omega
  refine h.accept thread (r := r) (fun request => ?_) rfl rfl rfl rfl (fun hr => ?_)
    fun hr => ?_
  · rw [hcaller]
    rfl
  · rw [hplaces]
    refine ⟨?_, fun hexact => by rw [if_pos ⟨hbody hexact, hr⟩]⟩
    split <;> omega
  · rw [hplaces, if_neg fun hc => hr hc.2, Nat.add_zero]

theorem Counted.addHandle (h : s.Counted exact request) (hcaller : s.callers thread = .adding r) :
    (s.addHandle thread r).Counted exact request := by
  have hplaces : (s.addHandle thread r).places request =
      s.places request + if r = request then 1 else 0 := by
    show (s.unfinished ++ [r]).count request + s.messages.countP (·.1 = request) +
      (if s.network.inHand = some request then 1 else 0) + s.providers.count request +
        s.completions.count request = _
    unfold CurlNetworking.places
    rw [List.count_append, List.count_singleton]
    simp only [beq_iff_eq]
    omega
  by_cases hr : r = request
  · subst hr
    rw [if_pos rfl] at hplaces
    have hstage : (s.callers thread).stage r = some .before := by
      rw [hcaller]
      exact if_pos rfl
    have hbefore := h.before thread hstage
    refine Counted.of_caller thread (c := .added r) rfl ?_
    rw [show (CurlCaller.added r).stage r = some .after from if_pos rfl]
    exact RequestCount.advance h (.inl hstage) (by omega)
  · rw [if_neg hr] at hplaces
    refine h.same_stage thread (c := .added r) rfl ?_ rfl rfl rfl hplaces
    rw [hcaller]
    exact (if_neg hr).trans (if_neg hr).symm

theorem Counted.removeHandle (h : s.Counted exact request)
    (hcaller : s.callers thread = .aborting r) :
    (s.removeHandle thread r).Counted exact request := by
  have hunfinished : (s.unfinished.filter (· ≠ r)).count request ≤ s.unfinished.count request :=
    List.filter_sublist.count_le request
  have hmessages : (s.messages.filter (·.1 ≠ r)).countP (·.1 = request) ≤
      s.messages.countP (·.1 = request) := List.filter_sublist.countP_le
  by_cases hr : r = request
  · subst hr
    refine Counted.of_caller thread (c := .idle) rfl ?_
    show RequestCount exact _ (s.started r) (s.accepted r) ((Function.update s.aborted r true) r)
      ((s.unfinished.filter (· ≠ r)).count r + (s.messages.filter (·.1 ≠ r)).countP (·.1 = r) +
        (if s.network.inHand = some r then 1 else 0) + s.providers.count r + s.completions.count r)
    rw [Function.update_self]
    refine RequestCount.remove h ?_ ?_
    · rw [hcaller]
      exact if_pos rfl
    · unfold CurlNetworking.places
      omega
  · refine h.same_stage thread (c := .idle) rfl ?_ rfl rfl ?_ ?_
    · rw [hcaller]
      exact (if_neg hr).symm
    · exact Function.update_of_ne (Ne.symm hr) _ _
    · show (s.unfinished.filter (· ≠ r)).count request +
        (s.messages.filter (·.1 ≠ r)).countP (·.1 = request) +
          (if s.network.inHand = some request then 1 else 0) + s.providers.count request +
            s.completions.count request = s.places request
      have hcount : (s.unfinished.filter (· ≠ r)).count request = s.unfinished.count request :=
        List.count_filter (decide_eq_true (Ne.symm hr))
      have hcountP : (s.messages.filter (·.1 ≠ r)).countP (·.1 = request) =
          s.messages.countP (·.1 = request) := by
        rw [List.countP_filter]
        refine List.countP_congr fun message _ => ?_
        simp only [Bool.and_eq_true, decide_eq_true_eq]
        exact and_iff_left_of_imp fun heq => by rw [heq]; exact Ne.symm hr
      unfold CurlNetworking.places
      rw [hcount, hcountP]

/-! ## Runs -/

theorem Counted.exec {op : CurlOp} (h : s.Counted exact request)
    (hok : exact → op.KeepsAnswer query s)
    (hexec : op.exec query s = some s') : s'.Counted exact request := by
  cases CurlOp.exec_branch hexec with
  | send thread r hidle hfresh => exact h.send hidle hfresh
  | found thread r producer hcaller hfound =>
    simp only [CurlOp.KeepsAnswer, CurlOp.finds, hcaller] at hok
    exact h.serve hcaller fun hexact => hok hexact producer hfound
  | missed thread r hcaller hmissed => exact h.go (by rw [hcaller]; rfl)
  | prepared thread r hcaller =>
    by_cases hsupported : (query r).supported = true
    · rw [if_pos hsupported]
      have hgo : (s.setCaller thread (.adding r)).Counted exact request :=
        h.go (by rw [hcaller]; rfl)
      exact hgo.congr rfl rfl rfl rfl rfl
    · rw [if_neg hsupported]
      exact (h.reject hcaller).congr rfl rfl rfl rfl rfl
  | notInitialized thread r hcaller => exact h.reject hcaller
  | add thread r hcaller hnetwork => exact h.addHandle hcaller
  | notPosted thread r hcaller hsem => exact h.go (by rw [hcaller]; rfl)
  | posted thread r hcaller hsem => exact h.acceptAdded fun request => by rw [hcaller]; rfl
  | post thread r hcaller =>
    have haccept : (s.accept thread r).Counted exact request :=
      h.acceptAdded fun request => by rw [hcaller]; rfl
    exact haccept.congr rfl rfl rfl rfl rfl
  | abort thread r hidle haccepted hhandle =>
    have hnone : (s.callers thread).stage request = none := by rw [hidle]; rfl
    by_cases hr : r = request
    · subst hr
      refine Counted.of_caller thread (c := .aborting r) rfl ?_
      rw [show (CurlCaller.aborting r).stage r = some .aborting from if_pos rfl]
      exact RequestCount.abort h haccepted hnone
    · exact h.go (hnone.trans (if_neg hr).symm)
  | noHandle thread r hidle haccepted hhandle => exact h
  | remove thread r hcaller hnetwork => exact h.removeHandle hcaller
  | wake hnetwork hsem => exact h.of_network rfl rfl rfl rfl rfl rfl rfl rfl (by rw [hnetwork]; rfl)
  | lock hnetwork => exact h.of_network rfl rfl rfl rfl rfl rfl rfl rfl (by rw [hnetwork]; rfl)
  | finish r ok hnetwork hmem =>
    refine h.congr rfl rfl rfl rfl ?_
    show (s.unfinished.erase r).count request + (s.messages ++ [(r, ok)]).countP (·.1 = request) +
      (if s.network.inHand = some request then 1 else 0) + s.providers.count request +
        s.completions.count request = _
    unfold places
    rw [List.countP_append, List.countP_singleton, List.count_erase]
    by_cases hr : r = request
    · subst hr
      have hpos := List.count_pos_iff.mpr hmem
      simp only [beq_self_eq_true, decide_true, if_true]
      omega
    · simp only [beq_iff_eq, decide_eq_true_eq, if_neg hr]
      omega
  | performed hnetwork =>
    exact h.of_network rfl rfl rfl rfl rfl rfl rfl rfl (by rw [hnetwork]; rfl)
  | readNone stillAlive hnetwork hmessages =>
    refine h.of_network rfl rfl rfl rfl rfl rfl rfl rfl ?_
    rw [hnetwork]
    cases stillAlive <;> rfl
  | read r ok stillAlive messages hnetwork hmessages =>
    refine h.congr rfl rfl rfl rfl ?_
    unfold places
    rw [hnetwork, hmessages, List.countP_cons]
    simp only [MultiNetworkThread.inHand, Option.some.injEq, reduceCtorEq, if_false,
      decide_eq_true_eq]
    omega
  | store r ok stillAlive hnetwork =>
    unfold storeResponse
    split
    · exact h.of_network rfl rfl rfl rfl rfl rfl rfl rfl (by rw [hnetwork]; rfl)
    · exact h.of_network rfl rfl rfl rfl rfl rfl rfl rfl (by rw [hnetwork]; rfl)
  | complete r stillAlive hnetwork =>
    refine h.congr rfl rfl rfl rfl ?_
    unfold places
    rw [hnetwork, List.count_append, List.count_singleton]
    simp only [MultiNetworkThread.inHand, Option.some.injEq, reduceCtorEq, if_false, beq_iff_eq]
    omega
  | cleanup r stillAlive hnetwork =>
    exact h.of_network rfl rfl rfl rfl rfl rfl rfl rfl (by rw [hnetwork]; rfl)
  | provide r hmem =>
    refine h.congr rfl rfl rfl rfl ?_
    show s.unfinished.count request + s.messages.countP (·.1 = request) +
      (if s.network.inHand = some request then 1 else 0) + (s.providers.erase r).count request +
        (s.completions ++ [r]).count request = _
    unfold places
    rw [List.count_append, List.count_singleton, List.count_erase]
    by_cases hr : r = request
    · subst hr
      have hpos := List.count_pos_iff.mpr hmem
      simp only [beq_self_eq_true, if_true]
      omega
    · simp only [beq_iff_eq, if_neg hr]
      omega
  | _ => exact h.congr rfl rfl rfl rfl rfl

theorem counted_init (exact : Prop) (request : Nat) : Counted exact {} request := by
  refine ⟨?_, nofun, nofun, nofun, fun _ _ => rfl, nofun, Nat.zero_le 1⟩
  rintro t t' (ht | ht)
  · cases ht
  · cases ht

theorem Counted.answeredOnce (h : ∀ request, s.Counted True request) : s.AnsweredOnce := by
  have hone {request : Nat} (haccepted : s.accepted request = true)
      (haborted : s.aborted request = false) : s.places request = 1 :=
    (((h request).accepted haccepted).2 trivial).resolve_left fun hc =>
      Bool.false_ne_true (haborted.symm.trans hc)
  refine ⟨fun request _ _ => ?_, fun hquiet request haccepted haborted => ?_⟩
  · exact (Nat.le_add_left _ _).trans (h request).once
  · have hplaces := hone haccepted haborted
    unfold places at hplaces
    rw [hquiet.unfinished, hquiet.messages, hquiet.inHand, hquiet.providers] at hplaces
    simpa using hplaces

/-- In every run in which all that is found in the cache has a body each request is answered
once. -/
theorem curlRun_answeredOnce (hrun : Run (curlStep query) (CurlOp.KeepsAnswer query) {} s) :
    s.AnsweredOnce := by
  have hcounted : ∀ request, s.Counted True request := by
    refine hrun.invariant (P := fun s => ∀ request, s.Counted True request) ?_
      (counted_init True)
    intro t op u ht hok hstep request
    exact (ht request).exec (fun _ => hok) hstep
  exact Counted.answeredOnce hcounted

/-- The second request is answered from the cache. -/
theorem curlRun_answeredOnce_cached : ∃ s : CurlNetworking, s.AnsweredOnce ∧
    s.served = [(1, 0)] ∧ s.completions = [0, 1] := by
  have hfold : ([.send 0 0, .lookup 0, .prepare 0 true, .add 0, .getvalue 0, .post 0, .wake, .lock,
      .write 0 [65], .finish 0 true, .performed, .read, .store, .complete, .cleanup, .send 0 1,
      .lookup 0, .provide 1, .read].foldlM
        (fun s (op : CurlOp) =>
          if op.KeepsAnswer (fun _ => .get "a") s then op.exec (fun _ => .get "a") s
          else none) {}).map
              (fun s => (s.served, s.completions)) = some ([(1, 0)], [0, 1]) := by
    decide +kernel
  obtain ⟨s, hrun, hs⟩ := Option.map_eq_some_iff.mp hfold
  obtain ⟨hserved, hcompletions⟩ := Prod.mk.inj hs
  have hrun : Run (curlStep fun _ => .get "a") (CurlOp.KeepsAnswer fun _ => .get "a") {} s :=
    Run.of_checked_exec hrun
  exact ⟨s, curlRun_answeredOnce hrun, hserved, hcompletions⟩

/-- The response to the first request has no body, and the second finds it in the cache. -/
theorem empty_cached_response_unanswered : ¬ ∀ (query : Nat → CurlRequest) (s : CurlNetworking),
    Run (curlStep query) anyStep {} s → s.AnsweredOnce := by
  intro hall
  have hfold : ([.send 0 0, .lookup 0, .prepare 0 true, .add 0, .getvalue 0, .post 0, .wake, .lock,
      .finish 0 true, .performed, .read, .store, .complete, .cleanup, .read, .send 0 1,
      .lookup 0].foldlM (CurlOp.exec fun _ => .get "a") {}).map
        (fun s => (decide s.Quiet, s.accepted 1, s.aborted 1, s.completions)) =
          some (true, true, false, [0]) := by
    decide +kernel
  obtain ⟨s, hrun, hs⟩ := Option.map_eq_some_iff.mp hfold
  obtain ⟨hquiet, hs⟩ := Prod.mk.inj hs
  obtain ⟨haccepted, hs⟩ := Prod.mk.inj hs
  obtain ⟨haborted, hcompletions⟩ := Prod.mk.inj hs
  have hanswered := hall _ s (Run.of_exec hrun)
  have hone := hanswered.all (of_decide_eq_true hquiet) 1 haccepted haborted
  rw [hcompletions] at hone
  cases hone

end CurlNetworking

end ReactNativeSkia
