import ReactNativeSkia.Sdk.Proofs.CenterSteps
import ReactNativeSkia.Misc.Run

/-!
# The mutex of the notification center

Every section ends with an unlock by the thread that holds the mutex, and no two threads are at
`listenersList` at once, as long as no dispatch finds listeners. One that does unlocks the mutex by
hand, and `unique_lock` unlocks it again after the callbacks, when another thread may hold it.
-/

namespace ReactNativeSkia

namespace CenterCall

/-- Between the lock and the unlock. -/
def locked : CenterCall → Bool
  | queueing _ | erasing _ | leaving _ => true
  | idle | adding _ | removing _ => false

/-- In a section that reads or writes `listenersList`. -/
def inTable : CenterCall → Bool
  | erasing _ | leaving (some _) => true
  | _ => false

def atUnlock : CenterCall → Bool
  | leaving _ => true
  | _ => false

end CenterCall

namespace NotifierThread

def locked : NotifierThread → Bool
  | registering _ _ locked | dispatching _ locked => locked
  | registered | returning _ | unlocking _ _ => true
  | idle | calling _ _ => false

def inTable (notifier : NotifierThread) : Bool := notifier.locked

def atUnlock : NotifierThread → Bool
  | registered | returning _ | unlocking _ _ | calling _ [] => true
  | _ => false

/-- A dispatch that has found listeners. -/
def dispatches : NotifierThread → Bool
  | unlocking _ _ | calling _ _ => true
  | _ => false

end NotifierThread

namespace NotificationCenter

/-- The next step of the thread is an unlock. -/
def AtUnlock (s : NotificationCenter) (thread : CenterThread) : Prop :=
  (s.calls thread).atUnlock = true ∨ thread = .notifier ∧ s.notifier.atUnlock = true

def InTable (s : NotificationCenter) (thread : CenterThread) : Prop :=
  (s.calls thread).inTable = true ∨ thread = .notifier ∧ s.notifier.inTable = true

structure Guarded (s : NotificationCenter) : Prop where
  unlocks : ∀ thread, s.AtUnlock thread → s.mutex = some thread
  alone : ∀ thread thread', s.InTable thread → s.InTable thread' → thread = thread'

end NotificationCenter

/-- The listeners that a dispatch finds for its event. -/
def CenterOp.finds (s : NotificationCenter) : CenterOp → Option (List Nat)
  | .find =>
    match s.notifier with
    | .dispatching emission _ => ListMap.find emission.eventName s.listenersList
    | _ => none
  | _ => none

/-- No dispatch finds listeners for its event. -/
def CenterOp.KeepsLock (s : NotificationCenter) (op : CenterOp) : Prop := op.finds s = none

instance (s : NotificationCenter) (op : CenterOp) : Decidable (op.KeepsLock s) :=
  inferInstanceAs (Decidable (_ = none))

namespace NotificationCenter

/-- The thread is between a lock and its unlock. -/
def Holds (s : NotificationCenter) (thread : CenterThread) : Prop :=
  (s.calls thread).locked = true ∨ thread = .notifier ∧ s.notifier.locked = true

structure Locked (s : NotificationCenter) : Prop where
  held : ∀ thread, s.Holds thread → s.mutex = some thread
  quiet : s.calls .notifier = .idle
  dispatches : s.notifier.dispatches = false

variable {s s' : NotificationCenter} {thread : CenterThread} {c : CenterCall}

theorem Locked.guarded (h : s.Locked) : s.Guarded where
  unlocks thread hunlock := by
    refine h.held thread (hunlock.imp (fun hcall => ?_) fun ⟨heq, hnotifier⟩ => ⟨heq, ?_⟩)
    · cases hc : s.calls thread with
      | leaving removed => rfl
      | _ =>
        rw [hc] at hcall
        cases hcall
    · have hdispatches := h.dispatches
      cases hn : s.notifier with
      | registered => rfl
      | returning emission => rfl
      | unlocking emission handle => rfl
      | calling emission handle =>
        rw [hn] at hdispatches
        cases hdispatches
      | _ =>
        rw [hn] at hnotifier
        cases hnotifier
  alone thread thread' hin hin' := by
    have hheld {t : CenterThread} (ht : s.InTable t) : s.mutex = some t := by
      refine h.held t (ht.imp_left fun hcall => ?_)
      cases hc : s.calls t with
      | erasing listener_id => rfl
      | leaving removed => rfl
      | _ =>
        rw [hc] at hcall
        cases hcall
    exact Option.some.inj ((hheld hin).symm.trans (hheld hin'))

/-- A step of a thread that calls the center. -/
theorem Locked.of_call (h : s.Locked) (hcalls : s'.calls = Function.update s.calls thread c)
    (hnotifier : s'.notifier = s.notifier) (hthread : thread ≠ .notifier)
    (hself : c.locked = true → s'.mutex = some thread)
    (hothers : ∀ t, t ≠ thread → s.Holds t → s'.mutex = some t) : s'.Locked where
  held t ht := by
    unfold Holds at ht
    rw [hcalls, hnotifier] at ht
    by_cases heq : t = thread
    · subst heq
      rw [Function.update_self] at ht
      exact hself (ht.resolve_right fun ht' => hthread ht'.1)
    · rw [Function.update_of_ne heq] at ht
      exact hothers t heq ht
  quiet := by
    rw [hcalls, Function.update_of_ne (Ne.symm hthread)]
    exact h.quiet
  dispatches := hnotifier ▸ h.dispatches

/-- A step of a closure. -/
theorem Locked.of_notifier (h : s.Locked) (hcalls : s'.calls = s.calls)
    (hdispatches : s'.notifier.dispatches = false)
    (hself : s'.notifier.locked = true → s'.mutex = some .notifier)
    (hothers : ∀ t, t ≠ .notifier → s.Holds t → s'.mutex = some t) : s'.Locked where
  held t ht := by
    unfold Holds at ht
    rw [hcalls] at ht
    by_cases heq : t = .notifier
    · subst heq
      rw [h.quiet] at ht
      exact hself (ht.resolve_left (fun hlocked => nomatch hlocked)).2
    · exact hothers t heq (ht.imp_right fun ht' => absurd ht'.1 heq)
  quiet := hcalls ▸ h.quiet
  dispatches := hdispatches

/-- Whoever calls is not `eventNotifierThread_`. -/
theorem Locked.not_notifier_of_mayCall (h : s.Locked) (hmay : s.mayCall thread = true) :
    thread ≠ .notifier := by
  rintro rfl
  have hdispatches := h.dispatches
  unfold mayCall at hmay
  cases hn : s.notifier with
  | calling emission handle =>
    rw [hn] at hdispatches
    cases hdispatches
  | _ =>
    rw [hn] at hmay
    cases hmay

theorem Locked.not_notifier_of_call (h : s.Locked) (hne : s.calls thread ≠ .idle) :
    thread ≠ .notifier := by
  rintro rfl
  exact hne h.quiet

/-- Behind the unlock of its holder the mutex is free. -/
theorem Locked.unlocked (h : s.Locked) (hthread : s.Holds thread) {t : CenterThread}
    (hne : t ≠ thread) : ¬ s.Holds t :=
  fun ht => hne (Option.some.inj ((h.held t ht).symm.trans (h.held thread hthread)))

theorem Locked.no_holder (h : s.Locked) (hfree : s.mutex = none) (t : CenterThread) :
    ¬ s.Holds t := fun ht => by
  have hheld := h.held t ht
  rw [hfree] at hheld
  cases hheld

theorem Locked.exec {op : CenterOp} (h : s.Locked) (hok : op.KeepsLock s)
    (hexec : op.exec s = some s') : s'.Locked := by
  have hdispatches := h.dispatches
  cases CenterOp.exec_branch hexec with
  | addListener thread eventName hidle hmay | removeListener thread listener_id hidle hmay =>
    exact h.of_call rfl rfl (h.not_notifier_of_mayCall hmay) (fun hlocked => nomatch hlocked)
      fun t _ => h.held t
  | emit => exact ⟨h.held, h.quiet, h.dispatches⟩
  | lockAdd thread eventName hfree hcall | lockRemove thread listener_id hfree hcall =>
    exact h.of_call rfl rfl (h.not_notifier_of_call (by simp [hcall])) (fun _ => rfl)
      fun t _ ht => absurd ht (h.no_holder hfree t)
  | queueHandler thread eventName hcall | erase thread listener_id hcall =>
    exact h.of_call rfl rfl (h.not_notifier_of_call (by simp [hcall]))
      (fun _ => h.held thread (.inl (by rw [hcall]; rfl))) fun t _ => h.held t
  | unlock thread removed hcall =>
    have hthread : s.Holds thread := .inl (by rw [hcall]; rfl)
    exact h.of_call rfl rfl (h.not_notifier_of_call (by simp [hcall]))
      (fun hlocked => nomatch hlocked) fun t hne ht => absurd ht (h.unlocked hthread hne)
  | nextRegister | nextDispatch =>
    exact h.of_notifier rfl rfl (fun hlocked => nomatch hlocked) fun t _ => h.held t
  | lockRegister listener_id eventName hfree | lockDispatch emission hfree =>
    exact h.of_notifier rfl rfl (fun _ => rfl) fun t _ ht => absurd ht (h.no_holder hfree t)
  | register listener_id eventName hnotifier | findNone emission hnotifier =>
    exact h.of_notifier rfl rfl (fun _ => h.held _ (.inr ⟨rfl, by rw [hnotifier]; rfl⟩))
      fun t _ => h.held t
  | find emission handle hnotifier hfind =>
    simp only [CenterOp.KeepsLock, CenterOp.finds, hnotifier, hfind] at hok
    cases hok
  | unlockByHand emission handle hnotifier | call emission listener_id handle hnotifier
  | endCalls emission hnotifier =>
    rw [hnotifier] at hdispatches
    cases hdispatches
  | endRegister hnotifier | endReturn emission hnotifier =>
    have hholds : s.Holds .notifier := .inr ⟨rfl, by rw [hnotifier]; rfl⟩
    exact h.of_notifier rfl rfl (by rintro ⟨⟩) fun t hne ht => absurd ht (h.unlocked hholds hne)

theorem locked_init : Locked {} := by
  refine ⟨fun thread ht => ?_, rfl, rfl⟩
  rcases ht with ht | ⟨-, ht⟩
  · cases ht
  · cases ht

/-- In every run in which no dispatch finds listeners the table is guarded by its mutex. -/
theorem centerRun_guarded (hrun : Run centerStep CenterOp.KeepsLock {} s) : s.Guarded := by
  have hlocked : s.Locked := by
    refine hrun.invariant (P := Locked) ?_ locked_init
    intro t op u ht hok hstep
    exact ht.exec hok hstep
  exact hlocked.guarded

/-- A listener is registered and removed, and then its event is emitted. -/
theorem centerRun_guarded_removed : ∃ s : NotificationCenter, s.Guarded ∧
    s.registered = [1] ∧ s.emissions.map (·.called) = [[]] := by
  have hfold : ([.addListener (.caller 0) "e", .lock (.caller 0), .queueHandler (.caller 0),
      .unlock (.caller 0), .nextHandler, .lockHandler, .register, .endHandler,
      .removeListener (.caller 0) 1, .lock (.caller 0), .erase (.caller 0), .unlock (.caller 0),
      .emit (.caller 1) "e", .nextHandler, .lockHandler, .find, .endHandler].foldlM
        (fun s (op : CenterOp) => if op.KeepsLock s then op.exec s else none) {}).map
          (fun s => (s.registered, s.emissions.map (·.called))) = some ([1], [[]]) := by
    decide +kernel
  obtain ⟨s, hrun, hs⟩ := Option.map_eq_some_iff.mp hfold
  obtain ⟨hregistered, hcalled⟩ := Prod.mk.inj hs
  exact ⟨s, centerRun_guarded (Run.of_checked_exec hrun), hregistered, hcalled⟩

/-- A dispatch with one listener comes to the end of its scope. -/
theorem unlock_after_dispatch_unheld :
    ¬ ∀ s : NotificationCenter, Run centerStep anyStep {} s → s.Guarded := by
  intro hall
  have hfold : ([.addListener (.caller 0) "e", .lock (.caller 0), .queueHandler (.caller 0),
      .unlock (.caller 0), .nextHandler, .lockHandler, .register, .endHandler,
      .emit (.caller 0) "e", .nextHandler, .lockHandler, .find, .unlockByHand, .call].foldlM
        CenterOp.exec {}).map (fun s => (s.notifier.atUnlock, s.mutex)) = some (true, none) := by
    decide +kernel
  obtain ⟨s, hrun, hs⟩ := Option.map_eq_some_iff.mp hfold
  obtain ⟨hunlock, hmutex⟩ := Prod.mk.inj hs
  have hguarded := hall s (Run.of_exec hrun)
  have hheld := hguarded.unlocks .notifier (.inr ⟨rfl, hunlock⟩)
  rw [hmutex] at hheld
  cases hheld

end NotificationCenter

end ReactNativeSkia
