import ReactNativeSkia.Misc.Run
import ReactNativeSkia.Sdk.Proofs.CurlSteps

/-!
# No transfer is stranded

`networkRequestSem_` is tested and then posted, while the network thread takes from it. A transfer
that is added in front of the test is performed all the same: either the test finds zero and the
semaphore is posted, or it finds what the network thread has still to take, and that thread then
performs again.
-/

namespace ReactNativeSkia

/-- Between `curl_multi_add_handle` and `sem_post`. -/
def CurlCaller.posts : CurlCaller → Bool
  | added _ | posting _ => true
  | idle | looking _ | preparing _ | adding _ | aborting _ => false

/-- The network thread comes to `curl_multi_perform` before it waits for the semaphore. -/
def MultiNetworkThread.performs : MultiNetworkThread → Bool
  | locking | performing => true
  | reading stillAlive | storing _ _ stillAlive | completing _ stillAlive
  | cleaning _ stillAlive => stillAlive
  | waiting => false

namespace CurlNetworking

/-- With the network thread blocked and no caller about to post there is nothing unfinished. -/
def NoneStranded (s : CurlNetworking) : Prop :=
  s.network = .waiting → s.networkRequestSem = 0 → (∀ t, (s.callers t).posts = false) →
    s.unfinished = []

/-- Somebody sees to it that what is unfinished is performed. -/
def Covered (s : CurlNetworking) : Prop :=
  s.unfinished ≠ [] → s.network.performs = true ∨ 0 < s.networkRequestSem ∨
    ∃ t, (s.callers t).posts = true

variable {query : Nat → CurlRequest} {s s' : CurlNetworking} {thread : Nat} {c : CurlCaller}

theorem Covered.noneStranded (h : s.Covered) : s.NoneStranded := by
  intro hwaiting hsem hcallers
  by_contra hne
  rcases h hne with hperforms | hpos | ⟨t, ht⟩
  · rw [hwaiting] at hperforms
    cases hperforms
  · omega
  · exact Bool.false_ne_true ((hcallers t).symm.trans ht)

/-- A step of a caller that was not about to post. -/
theorem Covered.of_caller (h : s.Covered) (thread : Nat)
    (hbefore : (s.callers thread).posts = false)
    (hcallers : s'.callers = Function.update s.callers thread c)
    (hunfinished : s'.unfinished ≠ [] → s.unfinished ≠ []) (hnetwork : s'.network = s.network)
    (hsem : s'.networkRequestSem = s.networkRequestSem) : s'.Covered := by
  intro hne
  rw [hnetwork, hsem, hcallers]
  rcases h (hunfinished hne) with hperforms | hpos | ⟨t, ht⟩
  · exact .inl hperforms
  · exact .inr (.inl hpos)
  · refine .inr (.inr ⟨t, ?_⟩)
    have hthread : t ≠ thread := by
      rintro rfl
      exact Bool.false_ne_true (hbefore.symm.trans ht)
    rw [Function.update_of_ne hthread]
    exact ht

/-- A step of the network thread. -/
theorem Covered.of_network (h : s.Covered) (hcallers : s'.callers = s.callers)
    (hunfinished : s'.unfinished ≠ [] → s.unfinished ≠ [])
    (hsem : s'.networkRequestSem = s.networkRequestSem)
    (hnetwork : s.network.performs = true → s'.network.performs = true) : s'.Covered := by
  intro hne
  rw [hcallers, hsem]
  exact (h (hunfinished hne)).imp_left hnetwork

theorem Covered.exec {op : CurlOp} (h : s.Covered) (hexec : op.exec query s = some s') :
    s'.Covered := by
  cases CurlOp.exec_branch hexec with
  | send thread r hidle hfresh => exact h.of_caller thread (by rw [hidle]; rfl) rfl id rfl rfl
  | found thread r producer hcaller hfound =>
    exact h.of_caller thread (by rw [hcaller]; rfl) rfl id rfl rfl
  | missed thread r hcaller hmissed =>
    exact h.of_caller thread (by rw [hcaller]; rfl) rfl id rfl rfl
  | prepared thread r hcaller => exact h.of_caller thread (by rw [hcaller]; rfl) rfl id rfl rfl
  | notInitialized thread r hcaller =>
    exact h.of_caller thread (by rw [hcaller]; rfl) rfl id rfl rfl
  | add thread r hcaller hnetwork =>
    refine fun _ => .inr (.inr ⟨thread, ?_⟩)
    show ((Function.update s.callers thread (.added r)) thread).posts = true
    rw [Function.update_self]
    rfl
  | notPosted thread r hcaller hsem =>
    refine fun _ => .inr (.inr ⟨thread, ?_⟩)
    show ((Function.update s.callers thread (.posting r)) thread).posts = true
    rw [Function.update_self]
    rfl
  | posted thread r hcaller hsem =>
    -- the network thread has still to take from the semaphore
    exact fun _ => .inr (.inl (Nat.pos_of_ne_zero hsem))
  | post thread r hcaller => exact fun _ => .inr (.inl (Nat.succ_pos _))
  | abort thread r hidle haccepted hhandle =>
    exact h.of_caller thread (by rw [hidle]; rfl) rfl id rfl rfl
  | noHandle thread r hidle haccepted hhandle => exact h
  | remove thread r hcaller hnetwork =>
    refine h.of_caller thread (by rw [hcaller]; rfl) rfl ?_ rfl rfl
    exact fun hne hnil => hne (by rw [removeHandle, hnil]; rfl)
  | wake hnetwork hsem => exact fun _ => .inl rfl
  | lock hnetwork => exact fun _ => .inl rfl
  | header r line hnetwork hmem => exact h.of_network rfl id rfl id
  | write r buffer response hnetwork hmem hcallback hresponse => exact h.of_network rfl id rfl id
  | rewind r hnetwork hmem => exact h.of_network rfl id rfl id
  | finish r ok hnetwork hmem =>
    refine fun _ => .inl ?_
    show s.network.performs = true
    rw [hnetwork]
    rfl
  | performed hnetwork => exact fun hne => .inl (decide_eq_true hne)
  | readNone stillAlive hnetwork hmessages =>
    refine h.of_network rfl id rfl fun hperforms => ?_
    rw [hnetwork] at hperforms
    obtain rfl : stillAlive = true := hperforms
    rfl
  | read r ok stillAlive messages hnetwork hmessages =>
    exact h.of_network rfl id rfl fun hperforms => by rwa [hnetwork] at hperforms
  | store r ok stillAlive hnetwork =>
    unfold storeResponse
    split
    · exact h.of_network rfl id rfl fun hperforms => by rwa [hnetwork] at hperforms
    · exact h.of_network rfl id rfl fun hperforms => by rwa [hnetwork] at hperforms
  | complete r stillAlive hnetwork =>
    exact h.of_network rfl id rfl fun hperforms => by rwa [hnetwork] at hperforms
  | cleanup r stillAlive hnetwork =>
    exact h.of_network rfl id rfl fun hperforms => by rwa [hnetwork] at hperforms
  | provide r hmem => exact h.of_network rfl id rfl id
  | expire URL => exact h.of_network rfl id rfl id

/-- In every state that a run reaches no transfer is stranded. -/
theorem curlRun_noneStranded (hrun : Run (curlStep query) anyStep {} s) : s.NoneStranded := by
  have hcovered : s.Covered := by
    refine hrun.invariant (P := Covered) ?_ fun hne => absurd rfl hne
    intro t op u ht _ hstep
    exact ht.exec hstep
  exact hcovered.noneStranded

/-- Two callers, of which the second finds the semaphore posted. -/
theorem curlRun_noneStranded_two_callers : ∃ s : CurlNetworking, s.NoneStranded ∧
    s.network = .waiting ∧ s.networkRequestSem = 0 ∧ s.completions = [0, 1] := by
  have hfold : ([.send 0 0, .send 1 1, .lookup 0, .lookup 1, .prepare 0 true, .prepare 1 true,
      .add 0, .getvalue 0, .post 0, .add 1, .getvalue 1, .wake, .lock, .finish 0 true,
      .finish 1 false, .performed, .read, .store, .complete, .cleanup, .read, .store, .complete,
      .cleanup, .read].foldlM
        (CurlOp.exec fun n => .get (if n = 0 then "a" else "b")) {}).map
          (fun s => (s.network, s.networkRequestSem, s.completions)) =
            some (.waiting, 0, [0, 1]) := by
    decide +kernel
  obtain ⟨s, hrun, hs⟩ := Option.map_eq_some_iff.mp hfold
  obtain ⟨hnetwork, hs⟩ := Prod.mk.inj hs
  obtain ⟨hsem, hcompletions⟩ := Prod.mk.inj hs
  exact ⟨s, curlRun_noneStranded (Run.of_exec hrun), hnetwork,
    hsem, hcompletions⟩

end CurlNetworking

end ReactNativeSkia
