import ReactNativeSkia.Input.KeyThrottling
import ReactNativeSkia.Sdk.Proofs.Delivery

/-!
# Active input clients

A notification raises the counter once, and its callback lowers it each time it is handed to JS: as
often as the center finds a listener, if the emitter counts one as well. So the counter is right as
long as there is exactly one.
-/

namespace ReactNativeSkia

namespace KeyThrottling

variable (s : KeyThrottling)

/-- The notifications whose completion is still to come. -/
def pending : List Nat := s.emitted.filter fun notification => notification ∉ s.completed

/-- No notification is queued, delivered or in JS. -/
def Quiet : Prop :=
  s.center.done = s.center.closures.length ∧ s.center.notifier = .idle ∧ s.jsQueue = []

/-- The counter is the number of pending notifications, each of which completes once at most. When
nothing is under way all have completed, and the worker waits for none. -/
structure Accounts : Prop where
  counter : s.activeInputClients_ = s.pending.length
  once : s.completed.Nodup
  emitted : ∀ notification ∈ s.completed, notification ∈ s.emitted
  quiet : s.Quiet → s.activeInputClients_ = 0 ∧
    (∀ notification ∈ s.emitted, notification ∈ s.completed) ∧
    (s.worker = .waiting → s.keyEventPost_ ≠ 0)

/-- For a notification with a callback there is one listener in the table. -/
def OneListener : Prop :=
  ∀ emission ∈ s.center.notifier.emission, emission.index ∈ s.emitted →
    (ListMap.values s.center.listenersList emission.eventName).length = 1

/-- The emitter has a listener when it is called for a notification with a callback. -/
def EmitterListens : Prop :=
  ∀ emission ∈ s.center.notifier.emission, emission.index ∈ s.emitted → 1 ≤ s.listenerCount_

instance : Decidable s.OneListener := by unfold OneListener; infer_instance

instance : Decidable s.EmitterListens := by unfold EmitterListens; infer_instance

end KeyThrottling

/-- The center finds one listener for a notification with a callback, and the emitter has one when
it is called. The counter does not overflow. -/
def ThrottlingOp.Heard (s : KeyThrottling) : ThrottlingOp → Prop
  | sendNotificationWithEventType _ completeCallback =>
    completeCallback = true → s.activeInputClients_ < 2147483647
  | find => s.OneListener
  | call => s.EmitterListens
  | _ => True

instance (s : KeyThrottling) (op : ThrottlingOp) : Decidable (op.Heard s) := by
  cases op <;> unfold ThrottlingOp.Heard <;> infer_instance

/-- Where the center is with the closure of number `done`, which may be a notification with a
callback. `handedOn` are those that have been given to JS. -/
def NotifierThread.Delivers (done : Nat) (emitted handedOn : List Nat) : NotifierThread → Prop
  | idle => done ∉ handedOn
  | registering _ _ _ | registered => done ∉ emitted
  | dispatching emission _ => emission.index = done ∧ done ∉ handedOn
  | returning emission => emission.index = done ∧ done ∉ emitted
  | unlocking emission handle =>
    emission.index = done ∧ done ∉ handedOn ∧ (done ∈ emitted → handle.length = 1)
  | calling emission handle => emission.index = done ∧
    (done ∈ emitted → done ∉ handedOn ∧ handle.length = 1 ∨ done ∈ handedOn ∧ handle = [])

namespace KeyThrottling

/-- The notifications that have been given to JS. -/
def handedOn (s : KeyThrottling) : List Nat := s.completed ++ s.jsQueue

/-- What holds besides in a run that meets the condition. -/
structure Tracks (s : KeyThrottling) : Prop where
  counter : s.activeInputClients_ + s.completed.length = s.emitted.length
  distinct : s.emitted.Nodup
  once : s.handedOn.Nodup
  handedOn : ∀ n ∈ s.handedOn, n ∈ s.emitted ∧ n ≤ s.center.done
  delivered : ∀ n ∈ s.emitted, n < s.center.done → n ∈ s.handedOn
  dispatches : ∀ n ∈ s.emitted, s.center.closures[n]? = some (.dispatchHandler tvEventName)
  done : s.center.done ≤ s.center.closures.length
  running : s.center.notifier ≠ .idle → s.center.done < s.center.closures.length
  notifier : s.center.notifier.Delivers s.center.done s.emitted s.handedOn
  worker : s.worker = .waiting → s.activeInputClients_ = 0 → s.keyEventPost_ ≠ 0

namespace Tracks

variable {s : KeyThrottling}

theorem init : Tracks {} where
  counter := rfl
  distinct := List.nodup_nil
  once := List.nodup_nil
  handedOn := by rintro n ⟨⟩
  delivered := by rintro n ⟨⟩
  dispatches := by rintro n ⟨⟩
  done := Nat.le_refl 0
  running hrunning := absurd rfl hrunning
  notifier := List.not_mem_nil
  worker := by rintro ⟨⟩

/-! ## The count -/

theorem completed_nodup (h : s.Tracks) : s.completed.Nodup :=
  (List.nodup_append.mp h.once).1

theorem emitted_of_completed (h : s.Tracks) {n : Nat} (hn : n ∈ s.completed) : n ∈ s.emitted :=
  (h.handedOn n (List.mem_append_left _ hn)).1

/-- Those that have completed are as many as those that are not pending. -/
theorem length_pending (h : s.Tracks) :
    s.pending.length + s.completed.length = s.emitted.length := by
  have hperm : (s.emitted.filter fun n => n ∈ s.completed).Perm s.completed := by
    rw [List.perm_ext_iff_of_nodup (h.distinct.filter _) h.completed_nodup]
    intro n
    rw [List.mem_filter, decide_eq_true_iff]
    exact ⟨And.right, fun hn => ⟨h.emitted_of_completed hn, hn⟩⟩
  have hsplit := List.length_eq_length_filter_add (l := s.emitted) fun n => n ∈ s.completed
  rw [hperm.length_eq] at hsplit
  have hpending : s.pending = s.emitted.filter fun n => !decide (n ∈ s.completed) := by
    unfold pending
    simp only [decide_not]
  rw [hpending]
  omega

theorem activeInputClients_eq (h : s.Tracks) : s.activeInputClients_ = s.pending.length := by
  have hcounter := h.counter
  have hlength := h.length_pending
  omega

theorem accounts (h : s.Tracks) : s.Accounts where
  counter := h.activeInputClients_eq
  once := h.completed_nodup
  emitted _ hn := h.emitted_of_completed hn
  quiet := by
    rintro ⟨hdone, -, hjs⟩
    have hall : ∀ n ∈ s.emitted, n ∈ s.completed := by
      intro n hn
      obtain ⟨hlt, -⟩ := List.getElem?_eq_some_iff.mp (h.dispatches n hn)
      have hhanded := h.delivered n hn (hdone ▸ hlt)
      rwa [KeyThrottling.handedOn, hjs, List.append_nil] at hhanded
    have hzero : s.activeInputClients_ = 0 := by
      have hnone : s.pending = [] := by
        rw [pending, List.filter_eq_nil_iff]
        intro n hn
        simp [hall n hn]
      rw [h.activeInputClients_eq, hnone]
      rfl
    exact ⟨hzero, hall, fun hwaiting => h.worker hwaiting hzero⟩

/-! ## Steps of the center -/

/-- A step of the center that ends no closure. -/
theorem keepsDone (h : s.Tracks) {c : NotificationCenter} {more : List CenterHandler}
    (hclosures : c.closures = s.center.closures ++ more) (hdone : c.done = s.center.done)
    (hrunning : c.notifier ≠ .idle → s.center.done < s.center.closures.length)
    (hnotifier : c.notifier.Delivers s.center.done s.emitted s.handedOn) :
    Tracks { s with center := c } where
  counter := h.counter
  distinct := h.distinct
  once := h.once
  handedOn n hn := hdone ▸ h.handedOn n hn
  delivered n hn hlt := h.delivered n hn (hdone ▸ hlt)
  dispatches n hn := by
    obtain ⟨hlt, -⟩ := List.getElem?_eq_some_iff.mp (h.dispatches n hn)
    rw [hclosures, List.getElem?_append_left hlt]
    exact h.dispatches n hn
  done := by
    rw [hclosures, hdone, List.length_append]
    exact Nat.le_add_right_of_le h.done
  running hne := by
    rw [hclosures, hdone, List.length_append]
    exact Nat.lt_add_right _ (hrunning hne)
  notifier := by
    rw [hdone]
    exact hnotifier
  worker := h.worker

/-- A closure ends, and its notification has been given to JS. -/
theorem endsHandler (h : s.Tracks) {c : NotificationCenter}
    (hclosures : c.closures = s.center.closures) (hdone : c.done = s.center.done + 1)
    (hnotifier : c.notifier = .idle) (hrunning : s.center.notifier ≠ .idle)
    (hdelivered : s.center.done ∈ s.emitted → s.center.done ∈ s.handedOn) :
    Tracks { s with center := c } where
  counter := h.counter
  distinct := h.distinct
  once := h.once
  handedOn n hn := by
    obtain ⟨hemitted, hle⟩ := h.handedOn n hn
    exact ⟨hemitted, hdone ▸ Nat.le_succ_of_le hle⟩
  delivered n hn hlt := by
    rw [hdone] at hlt
    rcases Nat.lt_succ_iff_lt_or_eq.mp hlt with hlt | rfl
    · exact h.delivered n hn hlt
    · exact hdelivered hn
  dispatches n hn := hclosures ▸ h.dispatches n hn
  done := by
    rw [hclosures, hdone]
    exact h.running hrunning
  running hne := absurd hnotifier hne
  notifier := by
    rw [hnotifier, hdone]
    exact fun hmem => absurd (h.handedOn _ hmem).2 (Nat.not_succ_le_self _)
  worker := h.worker

theorem centerStep (h : s.Tracks) {op : CenterOp} {c : NotificationCenter}
    (hexec : op.exec s.center = some c) (hcall : op ≠ .call) (hfind : op = .find → s.OneListener) :
    Tracks { s with center := c } := by
  have hnotifier := h.notifier
  have hrunning := h.running
  have hnil (l : List CenterHandler) : l = l ++ [] := (List.append_nil l).symm
  cases CenterOp.exec_branch hexec with
  | addListener thread eventName hidle hmay =>
    exact h.keepsDone (hnil _) rfl hrunning hnotifier
  | removeListener thread listener_id hidle hmay =>
    exact h.keepsDone (hnil _) rfl hrunning hnotifier
  | emit thread eventName hidle hmay => exact h.keepsDone rfl rfl hrunning hnotifier
  | lockAdd thread eventName hfree hcalls =>
    exact h.keepsDone (hnil _) rfl hrunning hnotifier
  | lockRemove thread listener_id hfree hcalls =>
    exact h.keepsDone (hnil _) rfl hrunning hnotifier
  | queueHandler thread eventName hcalls => exact h.keepsDone rfl rfl hrunning hnotifier
  | erase thread listener_id hcalls => exact h.keepsDone (hnil _) rfl hrunning hnotifier
  | unlock thread removed hcalls => exact h.keepsDone (hnil _) rfl hrunning hnotifier
  | nextRegister listener_id eventName hidle hclosure =>
    refine h.keepsDone (hnil _) rfl (fun _ => ?_) fun hmem => ?_
    · exact (List.getElem?_eq_some_iff.mp hclosure).1
    · have hdispatch := h.dispatches _ hmem
      rw [hclosure] at hdispatch
      cases hdispatch
  | nextDispatch eventName hidle hclosure =>
    rw [hidle] at hnotifier
    exact h.keepsDone (hnil _) rfl (fun _ => (List.getElem?_eq_some_iff.mp hclosure).1)
      ⟨rfl, hnotifier⟩
  | lockRegister listener_id eventName hfree hat =>
    rw [hat] at hnotifier
    exact h.keepsDone (hnil _) rfl (fun _ => hrunning (by simp [hat])) hnotifier
  | lockDispatch emission hfree hat =>
    rw [hat] at hnotifier
    exact h.keepsDone (hnil _) rfl (fun _ => hrunning (by simp [hat])) hnotifier
  | register listener_id eventName hat =>
    rw [hat] at hnotifier
    exact h.keepsDone (hnil _) rfl (fun _ => hrunning (by simp [hat])) hnotifier
  | findNone emission hat hnone =>
    rw [hat] at hnotifier
    refine h.keepsDone (hnil _) rfl (fun _ => hrunning (by simp [hat]))
      ⟨hnotifier.1, fun hmem => ?_⟩
    have hone := hfind rfl emission (by rw [hat]; rfl) (hnotifier.1 ▸ hmem)
    rw [ListMap.values, hnone] at hone
    cases hone
  | find emission handle hat hsome =>
    rw [hat] at hnotifier
    refine h.keepsDone (hnil _) rfl (fun _ => hrunning (by simp [hat]))
      ⟨hnotifier.1, hnotifier.2, fun hmem => ?_⟩
    have hone := hfind rfl emission (by rw [hat]; rfl) (hnotifier.1 ▸ hmem)
    rwa [ListMap.values, hsome] at hone
  | unlockByHand emission handle hat =>
    rw [hat] at hnotifier
    exact h.keepsDone (hnil _) rfl (fun _ => hrunning (by simp [hat]))
      ⟨hnotifier.1, fun hmem => .inl ⟨hnotifier.2.1, hnotifier.2.2 hmem⟩⟩
  | call emission listener_id handle hat hidle => exact absurd rfl hcall
  | endRegister hat =>
    rw [hat] at hnotifier
    exact h.endsHandler rfl rfl rfl (by simp [hat]) fun hmem => absurd hmem hnotifier
  | endReturn emission hat =>
    rw [hat] at hnotifier
    exact h.endsHandler rfl rfl rfl (by simp [hat]) fun hmem => absurd hmem hnotifier.2
  | endCalls emission hat hidle =>
    rw [hat] at hnotifier
    refine h.endsHandler rfl rfl rfl (by simp [hat]) fun hmem => ?_
    rcases hnotifier.2 hmem with ⟨-, ⟨⟩⟩ | ⟨hhanded, -⟩
    exact hhanded

/-- A notification with a callback is given to JS by the call of its only listener. -/
theorem call (h : s.Tracks) {emission : Emission} {handle : List Nat} {c : NotificationCenter}
    (hat : s.center.notifier = .calling emission handle)
    (hexec : CenterOp.call.exec s.center = some c) (hlistens : s.EmitterListens) :
    Tracks ({ s with center := c }.sendEventWithName emission.index) := by
  have hnotifier := h.notifier
  have hbefore := hat
  rw [hat] at hnotifier
  obtain ⟨hindex, hdelivers⟩ := hnotifier
  cases CenterOp.exec_branch hexec with
  | call emission' listener_id handle hat' hidle =>
    obtain ⟨rfl, rfl⟩ : emission' = emission ∧ listener_id :: handle = _ := by
      simpa using hat'.symm.trans hat
    have hrunning := h.running (by simp [hat])
    unfold sendEventWithName
    split
    · -- it is a notification with a callback, whose listeners were one
      rename_i hemits
      have hmem : s.center.done ∈ s.emitted := hindex ▸ hemits.2
      have hout : s.center.done ∉ s.handedOn ∧ handle = [] := by
        rcases hdelivers hmem with ⟨hout, hone⟩ | ⟨-, ⟨⟩⟩
        exact ⟨hout, List.eq_nil_of_length_eq_zero (Nat.succ.inj hone)⟩
      have hhanded : s.completed ++ (s.jsQueue ++ [emission'.index]) =
          s.handedOn ++ [s.center.done] := by
        rw [hindex, KeyThrottling.handedOn, List.append_assoc]
      exact {
        counter := h.counter
        distinct := h.distinct
        once := by
          simp only [KeyThrottling.handedOn]
          rw [hhanded]
          exact List.nodup_append.mpr ⟨h.once, List.nodup_singleton _, by
            rintro n hn _ hm rfl
            exact hout.1 (List.mem_singleton.mp hm ▸ hn)⟩
        handedOn := by
          intro n hn
          simp only [KeyThrottling.handedOn] at hn
          rw [hhanded] at hn
          rcases List.mem_append.mp hn with hn | hn
          · exact h.handedOn n hn
          · obtain rfl := List.mem_singleton.mp hn
            exact ⟨hmem, Nat.le_refl _⟩
        delivered := by
          intro n hn hlt
          simp only [KeyThrottling.handedOn]
          rw [hhanded]
          exact List.mem_append_left _ (h.delivered n hn hlt)
        dispatches := h.dispatches
        done := h.done
        running := fun _ => hrunning
        notifier := by
          simp only [KeyThrottling.handedOn]
          rw [hhanded]
          exact ⟨hindex, fun _ =>
            .inr ⟨List.mem_append_right _ (List.mem_singleton.mpr rfl), hout.2⟩⟩
        worker := h.worker }
    · rename_i hsilent
      refine h.keepsDone (List.append_nil _).symm rfl (fun _ => hrunning) ⟨hindex, fun hmem => ?_⟩
      rw [← hindex] at hmem
      exact absurd ⟨hlistens emission' (by rw [hat]; rfl) hmem, hmem⟩ hsilent

/-! ## The counter -/

/-- A new notification is behind all closures. -/
theorem delivers_append {done n : Nat} {emitted handedOn : List Nat} {notifier : NotifierThread}
    (h : notifier.Delivers done emitted handedOn) (hne : notifier ≠ .idle → done ≠ n) :
    notifier.Delivers done (emitted ++ [n]) handedOn := by
  have hnot (hnew : done ≠ n) (hmem : done ∈ emitted ++ [n]) : done ∈ emitted := by
    rcases List.mem_append.mp hmem with hmem | hmem
    · exact hmem
    · exact absurd (List.mem_singleton.mp hmem) hnew
  cases notifier with
  | idle => exact h
  | registering listener_id eventName locked => exact fun hmem => h (hnot (hne (by simp)) hmem)
  | registered => exact fun hmem => h (hnot (hne (by simp)) hmem)
  | dispatching emission locked => exact h
  | returning emission => exact ⟨h.1, fun hmem => h.2 (hnot (hne (by simp)) hmem)⟩
  | unlocking emission handle =>
    exact ⟨h.1, h.2.1, fun hmem => h.2.2 (hnot (hne (by simp)) hmem)⟩
  | calling emission handle => exact ⟨h.1, fun hmem => h.2 (hnot (hne (by simp)) hmem)⟩

theorem activeInputClients_nonneg (h : s.Tracks) : 0 ≤ s.activeInputClients_ := by
  rw [h.activeInputClients_eq]
  exact Int.natCast_nonneg _

theorem onEventEmit_eq (h : s.Tracks) (hbound : s.activeInputClients_ < 2147483647) :
    (s.activeInputClients_ + 1).bmod (2 ^ 32) = s.activeInputClients_ + 1 := by
  have hnonneg := h.activeInputClients_nonneg
  apply Int.bmod_eq_of_le
  · omega
  · omega

theorem sendNotificationWithEventType (h : s.Tracks) {thread : CenterThread}
    {c : NotificationCenter} (completeCallback : Bool)
    (hexec : (CenterOp.emit thread tvEventName).exec s.center = some c)
    (hbound : completeCallback = true → s.activeInputClients_ < 2147483647) :
    (s.sendNotificationWithEventType completeCallback c).Tracks := by
  have hcenter := h.centerStep hexec (by rintro ⟨⟩) (by rintro ⟨⟩)
  obtain ⟨-, ⟨⟩⟩ := Option.ite_none_right_eq_some.mp hexec
  unfold KeyThrottling.sendNotificationWithEventType
  split
  · rename_i hcallback
    have hcount := h.onEventEmit_eq (hbound hcallback)
    have hcounter := h.counter
    have hfresh (n : Nat) (hn : n ∈ s.emitted) : n < s.center.closures.length :=
      (List.getElem?_eq_some_iff.mp (h.dispatches n hn)).1
    exact {
      counter := by
        simp only [onEventEmit, hcount, List.length_append, List.length_singleton]
        omega
      distinct := List.nodup_append.mpr ⟨h.distinct, List.nodup_singleton _, by
        rintro n hn _ hm rfl
        exact absurd (hfresh n hn) (List.mem_singleton.mp hm ▸ Nat.lt_irrefl _)⟩
      once := h.once
      handedOn := fun n hn =>
        ⟨List.mem_append_left _ (h.handedOn n hn).1, (h.handedOn n hn).2⟩
      delivered := by
        intro n hn hlt
        rcases List.mem_append.mp hn with hn | hn
        · exact h.delivered n hn hlt
        · rw [List.mem_singleton.mp hn] at hlt
          exact absurd h.done (Nat.not_le_of_lt hlt)
      dispatches := by
        intro n hn
        rcases List.mem_append.mp hn with hn | hn
        · exact hcenter.dispatches n hn
        · rw [List.mem_singleton.mp hn]
          simp [NotificationCenter.queue]
      done := hcenter.done
      running := hcenter.running
      notifier := delivers_append h.notifier fun hne => Nat.ne_of_lt (h.running hne)
      worker := by
        intro hwaiting hzero
        have hnonneg := h.activeInputClients_nonneg
        simp only [onEventEmit, hcount] at hzero
        omega }
  · exact hcenter

/-- A step that leaves the center and what has been given to JS. -/
theorem keepsHandedOn (h : s.Tracks) {t : KeyThrottling} (hcenter : t.center = s.center)
    (hemitted : t.emitted = s.emitted) (hhanded : t.handedOn = s.handedOn)
    (hcounter : t.activeInputClients_ + t.completed.length = s.emitted.length)
    (hworker : t.worker = .waiting → t.activeInputClients_ = 0 → t.keyEventPost_ ≠ 0) :
    t.Tracks where
  counter := hemitted ▸ hcounter
  distinct := hemitted ▸ h.distinct
  once := hhanded ▸ h.once
  handedOn := by
    rw [hhanded, hemitted, hcenter]
    exact h.handedOn
  delivered := by
    rw [hhanded, hemitted, hcenter]
    exact h.delivered
  dispatches := by
    rw [hemitted, hcenter]
    exact h.dispatches
  done := hcenter ▸ h.done
  running := by
    rw [hcenter]
    exact h.running
  notifier := by
    rw [hhanded, hemitted, hcenter]
    exact h.notifier
  worker := hworker

theorem complete (h : s.Tracks) {n : Nat} {rest : List Nat} (hjs : s.jsQueue = n :: rest) :
    Tracks { s.onEventComplete with jsQueue := rest, completed := s.completed ++ [n] } := by
  have hpositive : s.activeInputClients_ > 0 := by
    -- this notification is still pending
    have hmem : n ∈ s.handedOn := by
      rw [KeyThrottling.handedOn, hjs]
      simp
    have hnew : n ∉ s.completed := by
      intro hcompleted
      have honce := h.once
      rw [KeyThrottling.handedOn, hjs] at honce
      exact (List.nodup_append.mp honce).2.2 n hcompleted n List.mem_cons_self rfl
    rw [h.activeInputClients_eq, gt_iff_lt, Int.natCast_pos]
    apply List.length_pos_of_mem (a := n)
    simp [pending, (h.handedOn n hmem).1, hnew]
  have hcounter := h.counter
  unfold onEventComplete
  rw [if_pos hpositive]
  refine h.keepsHandedOn rfl rfl ?_ ?_ ?_
  · simp only [KeyThrottling.handedOn]
    rw [hjs, List.append_assoc]
    rfl
  · simp only [List.length_append, List.length_singleton]
    omega
  · intro _ hzero
    simp only at hzero
    simp [hzero]

/-! ## Runs -/

theorem addListener (h : s.Tracks) {t : KeyThrottling} (hexec : s.addListener = some t) :
    t.Tracks := by
  unfold KeyThrottling.addListener at hexec
  dsimp only at hexec
  split at hexec
  · obtain ⟨c, hc, rfl⟩ := Option.map_eq_some_iff.mp hexec
    exact { h.centerStep hc (by rintro ⟨⟩) (by rintro ⟨⟩) with }
  · cases hexec
    exact { h with }

theorem removeListeners (h : s.Tracks) {removeCount : Int} {t : KeyThrottling}
    (hexec : s.removeListeners removeCount = some t) : t.Tracks := by
  unfold KeyThrottling.removeListeners at hexec
  dsimp only at hexec
  split at hexec
  · obtain ⟨c, hc, rfl⟩ := Option.map_eq_some_iff.mp hexec
    exact { h.centerStep hc (by rintro ⟨⟩) (by rintro ⟨⟩) with }
  · cases hexec
    exact { h with }

theorem step (h : s.Tracks) {op : ThrottlingOp} {t : KeyThrottling} (hok : op.Heard s)
    (hexec : op.exec s = some t) : t.Tracks := by
  cases op with
  | center op =>
    obtain ⟨hothers, hexec⟩ := Option.ite_none_right_eq_some.mp hexec
    obtain ⟨c, hc, rfl⟩ := Option.map_eq_some_iff.mp hexec
    refine { h.centerStep hc ?_ ?_ with }
    · rintro rfl
      cases hothers
    · rintro rfl
      cases hothers
  | sendNotificationWithEventType thread completeCallback =>
    obtain ⟨c, hc, rfl⟩ := Option.map_eq_some_iff.mp hexec
    exact h.sendNotificationWithEventType completeCallback hc hok
  | find =>
    obtain ⟨c, hc, rfl⟩ := Option.map_eq_some_iff.mp hexec
    exact h.centerStep hc (by rintro ⟨⟩) fun _ => hok
  | call =>
    simp only [ThrottlingOp.exec] at hexec
    split at hexec
    · rename_i emission handle hat
      obtain ⟨c, hc, rfl⟩ := Option.map_eq_some_iff.mp hexec
      exact h.call hat hc hok
    · cases hexec
  | addListener =>
    obtain ⟨-, hexec⟩ := Option.ite_none_right_eq_some.mp hexec
    exact h.addListener hexec
  | removeListeners removeCount =>
    obtain ⟨-, hexec⟩ := Option.ite_none_right_eq_some.mp hexec
    exact h.removeListeners hexec
  | complete =>
    simp only [ThrottlingOp.exec] at hexec
    split at hexec
    · rename_i n rest hjs
      obtain ⟨-, hexec⟩ := Option.ite_none_right_eq_some.mp hexec
      cases hexec
      exact h.complete hjs
    · cases hexec
  | look =>
    obtain ⟨-, hexec⟩ := Option.ite_none_right_eq_some.mp hexec
    cases hexec
    refine h.keepsHandedOn rfl rfl rfl h.counter fun hwaiting hzero => ?_
    -- the worker waits only if it has seen an active client
    simp only at hzero hwaiting
    rw [hzero] at hwaiting
    cases hwaiting
  | semWait =>
    obtain ⟨-, hexec⟩ := Option.ite_none_right_eq_some.mp hexec
    cases hexec
    exact h.keepsHandedOn rfl rfl rfl h.counter (by rintro ⟨⟩)
  | processed =>
    obtain ⟨-, hexec⟩ := Option.ite_none_right_eq_some.mp hexec
    cases hexec
    exact h.keepsHandedOn rfl rfl rfl h.counter (by rintro ⟨⟩)

end Tracks

/-- Whatever the order of emits, dispatches, registrations and completions, the counter is right,
if each notification with a callback finds one listener. -/
theorem throttlingRun_accounts {s : KeyThrottling}
    (hrun : Run ThrottlingStep ThrottlingOp.Heard {} s) : s.Accounts := by
  have htracks : s.Tracks := by
    refine hrun.invariant (P := Tracks) ?_ Tracks.init
    intro t op u ht hok hstep
    exact ht.step hok hstep
  exact htracks.accounts

/-- JS adds a listener, and the center registers it. -/
def observe : List ThrottlingOp :=
  [.addListener, .center (.lock jsThread), .center (.queueHandler jsThread),
    .center (.unlock jsThread), .center .nextHandler, .center .lockHandler, .center .register,
    .center .endHandler]

/-- The next notification is dispatched to one listener. -/
def dispatch : List ThrottlingOp :=
  [.center .nextHandler, .center .lockHandler, .find, .center .unlockByHand, .call,
    .center .endHandler]

/-- The worker waits for the second of two notifications. -/
def sendTwo : List ThrottlingOp :=
  observe ++ [.sendNotificationWithEventType (.caller 1) true] ++ dispatch ++
    [.sendNotificationWithEventType (.caller 1) true, .look, .semWait, .look, .complete] ++
    dispatch ++ [.complete, .semWait, .look]

theorem throttlingRun_accounts_two : ∃ s : KeyThrottling, s.Accounts ∧ s.Quiet ∧
    s.emitted = [1, 2] ∧ s.completed = [1, 2] ∧ s.worker = .processing := by
  have hfold : (sendTwo.foldlM
        (fun s (op : ThrottlingOp) => if op.Heard s then op.exec s else none) {}).map
          (fun s => ((decide (s.center.done = s.center.closures.length), s.center.notifier,
            s.jsQueue), s.emitted, s.completed, s.worker)) =
        some ((true, .idle, []), [1, 2], [1, 2], .processing) := by
    decide +kernel
  obtain ⟨s, hrun, hs⟩ := Option.map_eq_some_iff.mp hfold
  simp only [Prod.mk.injEq, decide_eq_true_eq] at hs
  obtain ⟨hquiet, hemitted, hcompleted, hworker⟩ := hs
  exact ⟨s, throttlingRun_accounts (Run.of_checked_exec hrun), hquiet, hemitted,
    hcompleted, hworker⟩

/-- A notification that finds no listener never completes. -/
theorem not_accounts_of_unheard : ¬ ∀ s : KeyThrottling,
    Run ThrottlingStep anyStep {} s → s.Accounts := by
  intro hall
  have hfold : ([ThrottlingOp.sendNotificationWithEventType (.caller 1) true,
      .center .nextHandler, .center .lockHandler, .find, .center .endHandler].foldlM
        ThrottlingOp.exec {}).map
          (fun s => ((decide (s.center.done = s.center.closures.length), s.center.notifier,
            s.jsQueue), s.activeInputClients_)) = some ((true, .idle, []), 1) := by
    decide +kernel
  obtain ⟨s, hrun, hs⟩ := Option.map_eq_some_iff.mp hfold
  simp only [Prod.mk.injEq, decide_eq_true_eq] at hs
  obtain ⟨hquiet, hactive⟩ := hs
  have hzero := ((hall s (Run.of_exec hrun)).quiet hquiet).1
  rw [hactive] at hzero
  cases hzero

end KeyThrottling

end ReactNativeSkia
