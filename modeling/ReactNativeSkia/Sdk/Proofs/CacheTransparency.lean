import Mathlib.Data.List.Perm.Basic
import ReactNativeSkia.Misc.Run
import ReactNativeSkia.Sdk.Proofs.CurlSteps

/-!
# What is answered from the cache

The cache has nothing but the URL to tell requests apart. Its answers are those of the same request
as long as everything that is looked up and stored is a GET, with the headers of the one before.
-/

namespace ReactNativeSkia

namespace CurlNetworking

/-- A request is answered from the cache with the response to an earlier GET of the same URL with
the same headers, and only if it is a GET. No response to another method is stored. -/
structure Transparent (query : Nat → CurlRequest) (s : CurlNetworking) : Prop where
  served : ∀ request producer, (request, producer) ∈ s.served → s.started producer = true ∧
    (query producer).URL = (query request).URL ∧
      (query request).method = "GET" ∧ (query producer).method = "GET" ∧
        (query request).headers.Perm (query producer).headers
  stored : ∀ URL producer, s.networkCache URL = some producer →
    (query producer).URL = URL ∧ (query producer).method = "GET"

end CurlNetworking

/-- A request that finds its URL in the cache is a GET with the headers of the one whose response
is there, and no response to a POST is stored. -/
def CurlOp.KeepsCache (query : Nat → CurlRequest) (s : CurlNetworking) : CurlOp → Prop
  | .lookup thread =>
    match s.callers thread with
    | .looking request =>
      ∀ producer ∈ s.networkCache (query request).URL, (query request).method = "GET" ∧
        (query request).headers.Perm (query producer).headers
    | _ => True
  | .store =>
    match s.network with
    | .storing request ok _ =>
      (query request).method = "POST" → s.stores (query request).URL request ok = false
    | _ => True
  | _ => True

instance (query : Nat → CurlRequest) (s : CurlNetworking) (op : CurlOp) :
    Decidable (op.KeepsCache query s) := by
  cases op with
  | lookup thread =>
    dsimp only [CurlOp.KeepsCache]
    cases s.callers thread <;> infer_instance
  | store =>
    dsimp only [CurlOp.KeepsCache]
    cases s.network <;> infer_instance
  | _ => exact inferInstanceAs (Decidable True)

namespace CurlNetworking

variable {query : Nat → CurlRequest} {s s' : CurlNetworking}

theorem method_of_supported {request : CurlRequest} (h : request.supported = true) :
    request.method = "POST" ∨ request.method = "GET" := by
  unfold CurlRequest.supported at h
  split at h
  · rename_i hpost
    exact .inl hpost
  · exact .inr (of_decide_eq_true h)

/-- The request has been sent and is supported. -/
def Fit (query : Nat → CurlRequest) (s : CurlNetworking) (request : Nat) : Prop :=
  (query request).supported = true ∧ s.started request = true

/-- Only requests that have been sent and are supported become transfers. -/
structure Supported (query : Nat → CurlRequest) (s : CurlNetworking) : Prop where
  calling : ∀ t r, s.callers t = .looking r ∨ s.callers t = .preparing r → s.started r = true
  adding : ∀ t r, s.callers t = .adding r → s.Fit query r
  unfinished : ∀ r ∈ s.unfinished, s.Fit query r
  messages : ∀ m ∈ s.messages, s.Fit query m.1
  storing : ∀ r ok stillAlive, s.network = .storing r ok stillAlive → s.Fit query r

/-- A step of a caller. -/
theorem Supported.of_caller (h : s.Supported query) (thread : Nat) {c : CurlCaller}
    (hcallers : s'.callers = Function.update s.callers thread c)
    (hstarted : ∀ r, s.started r = true → s'.started r = true)
    (hcalling : ∀ r, c = .looking r ∨ c = .preparing r → s'.started r = true)
    (hadding : ∀ r, c = .adding r → s'.Fit query r)
    (hunfinished : ∀ r ∈ s'.unfinished, r ∈ s.unfinished ∨ s.Fit query r)
    (hmessages : s'.messages ⊆ s.messages) (hnetwork : s'.network = s.network) :
    s'.Supported query := by
  have hfit {r : Nat} (hr : s.Fit query r) : s'.Fit query r := ⟨hr.1, hstarted r hr.2⟩
  refine ⟨fun t r ht => ?_, fun t r ht => ?_, fun r hr => ?_,
    fun m hm => hfit (h.messages m (hmessages hm)), fun r ok stillAlive hstoring => ?_⟩
  · rw [hcallers] at ht
    by_cases heq : t = thread
    · subst heq
      rw [Function.update_self] at ht
      exact hcalling r ht
    · rw [Function.update_of_ne heq] at ht
      exact hstarted r (h.calling t r ht)
  · rw [hcallers] at ht
    by_cases heq : t = thread
    · subst heq
      rw [Function.update_self] at ht
      exact hadding r ht
    · rw [Function.update_of_ne heq] at ht
      exact hfit (h.adding t r ht)
  · exact (hunfinished r hr).elim (fun hin => hfit (h.unfinished r hin)) hfit
  · exact hfit (h.storing r ok stillAlive (hnetwork ▸ hstoring))

/-- A caller comes to the end of its call. -/
theorem Supported.of_idle (h : s.Supported query) (thread : Nat)
    (hcallers : s'.callers = Function.update s.callers thread .idle)
    (hstarted : s'.started = s.started) (hunfinished : s'.unfinished ⊆ s.unfinished)
    (hmessages : s'.messages ⊆ s.messages) (hnetwork : s'.network = s.network) :
    s'.Supported query :=
  h.of_caller thread hcallers (fun _ hr => hstarted ▸ hr) nofun nofun
    (fun _ hr => .inl (hunfinished hr)) hmessages hnetwork

/-- A step of another thread. -/
theorem Supported.of_network (h : s.Supported query) (hcallers : s'.callers = s.callers)
    (hstarted : s'.started = s.started) (hunfinished : s'.unfinished ⊆ s.unfinished)
    (hmessages : ∀ m ∈ s'.messages, s.Fit query m.1)
    (hnetwork : ∀ r ok stillAlive, s'.network = .storing r ok stillAlive → s.Fit query r) :
    s'.Supported query := by
  have hfit {r : Nat} (hr : s.Fit query r) : s'.Fit query r := ⟨hr.1, hstarted ▸ hr.2⟩
  refine ⟨fun t r ht => ?_, fun t r ht => hfit (h.adding t r (hcallers ▸ ht)),
    fun r hr => hfit (h.unfinished r (hunfinished hr)), fun m hm => hfit (hmessages m hm),
    fun r ok stillAlive hstoring => hfit (hnetwork r ok stillAlive hstoring)⟩
  rw [hstarted]
  exact h.calling t r (hcallers ▸ ht)

theorem Supported.exec {op : CurlOp} (h : s.Supported query) (hexec : op.exec query s = some s') :
    s'.Supported query := by
  have hsame {α : Type} {a : List α} : a ⊆ a := List.Subset.refl a
  cases CurlOp.exec_branch hexec with
  | send thread r hidle hfresh =>
    refine h.of_caller thread (c := .looking r) rfl ?_ ?_ nofun
      (fun _ hr => .inl hr) hsame rfl
    · intro r' hr'
      show (Function.update s.started r true) r' = true
      by_cases heq : r' = r
      · rw [heq, Function.update_self]
      · rw [Function.update_of_ne heq]
        exact hr'
    · rintro r' (hc | hc)
      · obtain rfl := CurlCaller.looking.inj hc
        exact Function.update_self r true s.started
      · cases hc
  | found thread r producer hcaller hfound => exact h.of_idle thread rfl rfl hsame hsame rfl
  | missed thread r hcaller hmissed =>
    refine h.of_caller thread rfl (fun _ hr => hr) ?_ nofun (fun _ hr => .inl hr) hsame rfl
    rintro r' (hc | hc)
    · cases hc
    · exact CurlCaller.preparing.inj hc ▸ h.calling thread r (.inl hcaller)
  | prepared thread r hcaller =>
    refine h.of_caller thread rfl (fun _ hr => hr) ?_ ?_ (fun _ hr => .inl hr) hsame rfl
    · intro r' hr'
      split at hr'
      · rcases hr' with hr' | hr' <;> cases hr'
      · rcases hr' with hr' | hr' <;> cases hr'
    · intro r' hr'
      split at hr'
      · rename_i hsupported
        obtain rfl := CurlCaller.adding.inj hr'
        exact ⟨hsupported, h.calling thread r (.inr hcaller)⟩
      · cases hr'
  | notInitialized thread r hcaller => exact h.of_idle thread rfl rfl hsame hsame rfl
  | add thread r hcaller hnetwork =>
    refine h.of_caller thread (c := .added r) rfl (fun _ hr => hr) nofun nofun ?_ hsame rfl
    intro r' hr'
    refine (List.mem_append.mp hr').imp_right fun hr' => ?_
    obtain rfl := List.mem_singleton.mp hr'
    exact h.adding thread r' hcaller
  | notPosted thread r hcaller hsem =>
    exact h.of_caller thread (c := .posting r) rfl (fun _ hr => hr) nofun nofun
      (fun _ hr => .inl hr) hsame rfl
  | posted thread r hcaller hsem => exact h.of_idle thread rfl rfl hsame hsame rfl
  | post thread r hcaller => exact h.of_idle thread rfl rfl hsame hsame rfl
  | abort thread r hidle haccepted hhandle =>
    exact h.of_caller thread (c := .aborting r) rfl (fun _ hr => hr) nofun nofun
      (fun _ hr => .inl hr) hsame rfl
  | noHandle thread r hidle haccepted hhandle => exact h
  | remove thread r hcaller hnetwork =>
    exact h.of_idle thread rfl rfl (List.filter_subset_self _) (List.filter_subset_self _) rfl
  | wake hnetwork hsem => exact h.of_network rfl rfl hsame h.messages nofun
  | lock hnetwork => exact h.of_network rfl rfl hsame h.messages nofun
  | header r line hnetwork hmem => exact h.of_network rfl rfl hsame h.messages h.storing
  | write r buffer response hnetwork hmem hcallback hresponse =>
    exact h.of_network rfl rfl hsame h.messages h.storing
  | rewind r hnetwork hmem => exact h.of_network rfl rfl hsame h.messages h.storing
  | finish r ok hnetwork hmem =>
    refine h.of_network rfl rfl List.erase_subset ?_ h.storing
    intro m hm
    rcases List.mem_append.mp hm with hm | hm
    · exact h.messages m hm
    · obtain rfl := List.mem_singleton.mp hm
      exact h.unfinished r hmem
  | performed hnetwork => exact h.of_network rfl rfl hsame h.messages nofun
  | readNone stillAlive hnetwork hmessages =>
    refine h.of_network rfl rfl hsame h.messages fun r ok alive hstoring => ?_
    dsimp only at hstoring
    split at hstoring <;> cases hstoring
  | read r ok stillAlive messages hnetwork hmessages =>
    have hmem {m : Nat × Bool} (hm : m ∈ (r, ok) :: messages) : s.Fit query m.1 :=
      h.messages m (hmessages ▸ hm)
    refine h.of_network rfl rfl hsame (fun m hm => hmem (List.mem_cons_of_mem _ hm)) ?_
    rintro r' ok' stillAlive' ⟨⟩
    exact hmem List.mem_cons_self
  | store r ok stillAlive hnetwork =>
    unfold storeResponse
    split
    · exact h.of_network rfl rfl hsame h.messages nofun
    · exact h.of_network rfl rfl hsame h.messages nofun
  | complete r stillAlive hnetwork => exact h.of_network rfl rfl hsame h.messages nofun
  | cleanup r stillAlive hnetwork => exact h.of_network rfl rfl hsame h.messages nofun
  | provide r hmem => exact h.of_network rfl rfl hsame h.messages h.storing
  | expire URL => exact h.of_network rfl rfl hsame h.messages h.storing

/-! ## The cache -/

/-- Each request points to its own response, or to that of a request of the same URL and method. -/
structure Cached (query : Nat → CurlRequest) (s : CurlNetworking) : Prop where
  URL : ∀ r, (query (s.curlResponse r)).URL = (query r).URL
  method : ∀ r, (query (s.curlResponse r)).method = (query r).method
  started : ∀ r, s.curlResponse r = r ∨ s.started (s.curlResponse r) = true
  stored : ∀ URL p, s.networkCache URL = some p →
    (query p).URL = URL ∧ (query p).method = "GET" ∧ s.started p = true
  served : ∀ r p, (r, p) ∈ s.served → s.started p = true ∧ (query p).URL = (query r).URL ∧
    (query r).method = "GET" ∧ (query p).method = "GET" ∧
      (query r).headers.Perm (query p).headers

theorem Cached.congr (h : s.Cached query) (hstarted : s'.started = s.started)
    (hresponse : s'.curlResponse = s.curlResponse) (hcache : s'.networkCache = s.networkCache)
    (hserved : s'.served = s.served) : s'.Cached query := by
  obtain ⟨hURL, hmethod, hstart, hstored, hserve⟩ := h
  constructor <;> simp only [hstarted, hresponse, hcache, hserved] <;> assumption

theorem Cached.transparent (h : s.Cached query) : s.Transparent query :=
  ⟨h.served, fun URL p hp => ⟨(h.stored URL p hp).1, (h.stored URL p hp).2.1⟩⟩

theorem Cached.send (h : s.Cached query) (thread r : Nat) :
    Cached query { s.setCaller thread (.looking r) with
      started := Function.update s.started r true } := by
  have hmono {r' : Nat} (hr' : s.started r' = true) :
      (Function.update s.started r true) r' = true := by
    by_cases heq : r' = r
    · rw [heq, Function.update_self]
    · rw [Function.update_of_ne heq]
      exact hr'
  exact ⟨h.URL, h.method, fun r' => (h.started r').imp_right hmono,
    fun URL p hp => ⟨(h.stored URL p hp).1, (h.stored URL p hp).2.1, hmono (h.stored URL p hp).2.2⟩,
    fun r' p hmem => (h.served r' p hmem).imp_left hmono⟩

/-- A GET finds the response to a GET with its headers. -/
theorem Cached.serve (h : s.Cached query) {thread r p : Nat}
    (hfound : s.networkCache (query r).URL = some p) (hget : (query r).method = "GET")
    (hheaders : (query r).headers.Perm (query p).headers) :
    (s.serve thread r p).Cached query := by
  obtain ⟨hURL, hmethod, hstarted⟩ := h.stored _ p hfound
  have hresponse (P : Nat → Nat → Prop) (hr : P r p) (hother : ∀ r', P r' (s.curlResponse r'))
      (r' : Nat) : P r' ((Function.update s.curlResponse r p) r') := by
    by_cases heq : r' = r
    · rw [heq, Function.update_self]
      exact hr
    · rw [Function.update_of_ne heq]
      exact hother r'
  refine ⟨?_, ?_, ?_, h.stored, ?_⟩
  · exact hresponse (fun r' p' => (query p').URL = (query r').URL) hURL h.URL
  · exact hresponse (fun r' p' => (query p').method = (query r').method) (hmethod.trans hget.symm)
      h.method
  · exact hresponse (fun r' p' => p' = r' ∨ s.started p' = true) (.inr hstarted) h.started
  · intro r' p' hmem
    rcases List.mem_append.mp hmem with hmem | hmem
    · exact h.served r' p' hmem
    · obtain ⟨rfl, rfl⟩ := Prod.mk.inj (List.mem_singleton.mp hmem)
      exact ⟨hstarted, hURL, hget, hmethod, hheaders⟩

/-- The response of a GET goes into the cache. -/
theorem Cached.storeResponse (h : s.Cached query) {r : Nat} {ok : Bool} (hfit : s.Fit query r)
    (hpost : (query r).method = "POST" → s.stores (query r).URL r ok = false) :
    (s.storeResponse (query r).URL r ok).Cached query := by
  unfold CurlNetworking.storeResponse
  split
  · rename_i hstores
    refine ⟨h.URL, h.method, h.started, ?_, h.served⟩
    intro URL p (hp : (Function.update s.networkCache (query r).URL (some (s.curlResponse r))) URL =
      some p)
    by_cases heq : URL = (query r).URL
    · subst heq
      obtain rfl : s.curlResponse r = p := by
        rw [Function.update_self] at hp
        exact Option.some.inj hp
      refine ⟨h.URL r, (h.method r).trans ?_, ?_⟩
      · refine (method_of_supported hfit.1).resolve_left fun hmethod => ?_
        exact Bool.false_ne_true ((hpost hmethod).symm.trans hstores)
      · rcases h.started r with hself | hstarted
        · rw [hself]
          exact hfit.2
        · exact hstarted
    · rw [Function.update_of_ne heq] at hp
      exact h.stored URL p hp
  · exact h

theorem Cached.expire (h : s.Cached query) (URL : String) :
    Cached query { s with networkCache := Function.update s.networkCache URL none } := by
  refine ⟨h.URL, h.method, h.started, ?_, h.served⟩
  intro URL' p (hp : (Function.update s.networkCache URL none) URL' = some p)
  by_cases heq : URL' = URL
  · subst heq
    rw [Function.update_self] at hp
    cases hp
  · rw [Function.update_of_ne heq] at hp
    exact h.stored URL' p hp

theorem Cached.exec {op : CurlOp} (h : s.Cached query) (hsupported : s.Supported query)
    (hok : op.KeepsCache query s) (hexec : op.exec query s = some s') : s'.Cached query := by
  cases CurlOp.exec_branch hexec with
  | send thread r hidle hfresh => exact h.send thread r
  | found thread r p hcaller hfound =>
    simp only [CurlOp.KeepsCache, hcaller] at hok
    obtain ⟨hget, hheaders⟩ := hok p hfound
    exact h.serve hfound hget hheaders
  | noHandle thread r hidle haccepted hhandle => exact h
  | store r ok stillAlive hnetwork =>
    simp only [CurlOp.KeepsCache, hnetwork] at hok
    have hstore := h.storeResponse (hsupported.storing r ok stillAlive hnetwork) hok
    exact hstore.congr rfl rfl rfl rfl
  | expire URL => exact h.expire URL
  | _ => exact h.congr rfl rfl rfl rfl

/-! ## Runs -/

end CurlNetworking

end ReactNativeSkia
