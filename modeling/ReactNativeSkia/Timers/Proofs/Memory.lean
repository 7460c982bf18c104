import ReactNativeSkia.Timers.Proofs.TimerMap
import ReactNativeSkia.Timers.TimerAccess
import ReactNativeSkia.Misc.Run
import Mathlib.Data.List.Nodup

/-!
# No dead timer is used

The map owns the timers that `timerDidFire` holds plain pointers to, so that whatever takes one of
these out of the map while the loop is under way leaves a pointer to freed memory. `deleteTimer`
uses `timer_` whenever it finds the map empty, whether there is a timer or not.
-/

namespace ReactNativeSkia

namespace TimerAccess

variable [HHWheelTimer]

/-- Whoever is about to use `timer_` finds a timer that is not being deleted, and whatever
`timerDidFire` is about to touch is still in the map. -/
structure NoDeadUse (s : TimerAccess) : Prop where
  js : s.js.usesTimer = true → s.timer_ ≠ none
  firing : s.firing.usesTimer = true → s.timer_ ≠ none ∧ s.js ≠ .deleting
  touches : ∀ object ∈ s.firing.touches, ∃ t ∈ s.jsTimers_, t.object = object

/-- `timerDidFire` holds no pointer to the timer with this id any more. -/
def NotPending (s : TimerAccess) (callbackId : ℚ) : Prop :=
  ∀ t ∈ s.jsTimers_, t.callbackId_ = callbackId → t.object ∉ s.firing.pending

instance (s : TimerAccess) (callbackId : ℚ) : Decidable (s.NotPending callbackId) := by
  unfold NotPending
  infer_instance

end TimerAccess

/-- `deleteTimer` is called while there is a timer. What it takes out of the map, and what
`createTimer` replaces there, `timerDidFire` holds no pointer to. The timer is deleted while
`timerDidFire` is not about to reschedule it. -/
def TimerAccessOp.KeepsMemory [HHWheelTimer] (s : TimerAccess) : TimerAccessOp → Prop
  | .deleteTimer timerId => s.timer_.isSome = true ∧ s.NotPending timerId
  | .insert =>
    match s.js with
    | .inserting timer => s.NotPending timer.callbackId_
    | _ => True
  | .abort => s.firing.usesTimer = false
  | _ => True

instance [HHWheelTimer] (s : TimerAccess) (op : TimerAccessOp) : Decidable (op.KeepsMemory s) := by
  cases op <;> unfold TimerAccessOp.KeepsMemory <;> try infer_instance
  cases s.js <;> infer_instance

/-! ## The map -/

section

variable {jsTimers : List RSkJsTimer} {objects : List Nat} {callbackId : ℚ}

/-- What the map still holds when one id is taken out. -/
theorem held_eraseTimer (hheld : ∀ o ∈ objects, ∃ t ∈ jsTimers, t.object = o)
    (hnot : ∀ t ∈ jsTimers, t.callbackId_ = callbackId → t.object ∉ objects) :
    ∀ o ∈ objects, ∃ t ∈ eraseTimer callbackId jsTimers, t.object = o := by
  intro o ho
  obtain ⟨t, ht, rfl⟩ := hheld o ho
  refine ⟨t, List.mem_filter.mpr ⟨ht, ?_⟩, rfl⟩
  exact decide_eq_true fun hid => hnot t ht hid ho

end

/-- The stages with nothing left to name and without a use of `timer_`. -/
def FiringCall.passesOn : FiringCall → Bool
  | naming _ _ _ _ _ | waking _ => false
  | _ => true

namespace TimerAccess

section

variable [HHWheelTimer]

/-- What the map owns, and who holds on to it. -/
structure Owned (s : TimerAccess) : Prop where
  ids : (s.jsTimers_.map (·.callbackId_)).Nodup
  objects : (s.jsTimers_.map (·.object)).Nodup
  allocated : ∀ t ∈ s.jsTimers_, t.object < s.allocated
  inserting : ∀ t, s.js = .inserting t →
    t.object < s.allocated ∧ ∀ u ∈ s.jsTimers_, u.object ≠ t.object
  held : ∀ o ∈ s.firing.pending, ∃ t ∈ s.jsTimers_, t.object = o
  once : s.firing.pending.Nodup
  touches : ∀ o ∈ s.firing.touches, o ∈ s.firing.pending
  unread : ∀ now next jsTimersToCall unread sortedTimers,
    s.firing = .naming now next jsTimersToCall unread sortedTimers → unread ⊆ jsTimersToCall
  /-- Without a timer nothing is under way. -/
  timer : s.timer_ = none → s.jsTimers_ = [] ∧ s.js = .idle ∧ s.firing = .idle
  empty : s.js = .aborting ∨ s.js = .deleting → s.jsTimers_ = []
  waking : s.firing.usesTimer = true → s.js ≠ .deleting

variable {s s' : TimerAccess} {t : RSkJsTimer} {timer : Timer} {object : Nat}

theorem Owned.distinct (h : s.Owned) : DistinctTimers s.jsTimers_ s.allocated :=
  ⟨h.ids, h.objects, h.allocated⟩

theorem Owned.noDeadUse (h : s.Owned) : s.NoDeadUse where
  js huses hnone := by
    rw [(h.timer hnone).2.1] at huses
    cases huses
  firing huses := by
    refine ⟨fun hnone => ?_, h.waking huses⟩
    rw [(h.timer hnone).2.2] at huses
    cases huses
  touches o ho := h.held o (h.touches o ho)

theorem owned_init : Owned {} where
  ids := List.nodup_nil
  objects := List.nodup_nil
  allocated _ ht := nomatch ht
  inserting _ heq := nomatch heq
  held _ ho := nomatch ho
  once := List.nodup_nil
  touches _ ho := nomatch ho
  unread _ _ _ _ _ heq := nomatch heq
  timer _ := ⟨rfl, rfl, rfl⟩
  empty _ := rfl
  waking huses := nomatch huses

/-- What a pointer leads to. -/
theorem entry_eq_some (hentry : s.entry object = some t) :
    t ∈ s.jsTimers_ ∧ t.object = object := by
  have hobject := List.find?_some hentry
  exact ⟨List.mem_of_find?_eq_some hentry, of_decide_eq_true hobject⟩

/-! ## The JS thread -/

/-- A step of the JS thread that leaves the map alone. -/
theorem Owned.withJs (h : s.Owned) {timer_ : Option Timer} {js : JsCall} {allocated : Nat}
    (htimer : timer_ ≠ none) (hallocated : s.allocated ≤ allocated)
    (hinserting : ∀ t, js = .inserting t → t.object < allocated ∧ s.allocated ≤ t.object)
    (hempty : js = .aborting ∨ js = .deleting → s.jsTimers_ = [])
    (hdeleting : js = .deleting → s.firing.usesTimer = false) :
    Owned { s with timer_ := timer_, js := js, allocated := allocated } where
  ids := h.ids
  objects := h.objects
  allocated t ht := (h.allocated t ht).trans_le hallocated
  inserting t heq := by
    obtain ⟨hlt, hle⟩ := hinserting t heq
    exact ⟨hlt, fun u hu => ((h.allocated u hu).trans_le hle).ne⟩
  held := h.held
  once := h.once
  touches := h.touches
  unread := h.unread
  timer hnone := absurd hnone htimer
  empty := hempty
  waking huses heq := by
    rw [hdeleting heq] at huses
    cases huses

theorem Owned.useTimer (h : s.Owned) (timer : Timer)
    (callbackId duration jsSchedulingTime : ℚ) (repeats : Bool) :
    (s.useTimer timer callbackId duration jsSchedulingTime repeats).Owned := by
  unfold TimerAccess.useTimer
  split
  · exact h.withJs (Option.some_ne_none _) le_rfl (fun t heq => nomatch heq)
      (fun heq => nomatch heq) fun heq => nomatch heq
  · refine h.withJs (Option.some_ne_none _) (Nat.le_succ _) ?_ (fun heq => nomatch heq)
      fun heq => nomatch heq
    intro t heq
    obtain rfl := JsCall.inserting.inj heq
    exact ⟨Nat.lt_succ_self _, le_rfl⟩

/-- The section of `deleteTimer`. -/
theorem Owned.deleteTimer (h : s.Owned) {timerId : ℚ} (htimer : s.timer_.isSome = true)
    (hnot : s.NotPending timerId) :
    Owned { s with jsTimers_ := eraseTimer timerId s.jsTimers_, js := .erased } where
  ids := (h.distinct.erase timerId).ids
  objects := (h.distinct.erase timerId).objects
  allocated := (h.distinct.erase timerId).allocated
  inserting t heq := nomatch heq
  held := held_eraseTimer h.held hnot
  once := h.once
  touches := h.touches
  unread := h.unread
  timer hnone := by
    rw [hnone] at htimer
    cases htimer
  empty heq := by simp at heq
  waking _ heq := nomatch heq

/-- The section of `createTimerForNextFrame`. -/
theorem Owned.insert (h : s.Owned) (hjs : s.js = .inserting t)
    (hnot : s.NotPending t.callbackId_) :
    Owned { s with
      jsTimers_ := eraseTimer t.callbackId_ s.jsTimers_ ++ [t]
      js := .idle } := by
  obtain ⟨hlt, hnew⟩ := h.inserting t hjs
  have hdistinct := h.distinct.insert hlt hnew
  constructor
  · exact hdistinct.ids
  · exact hdistinct.objects
  · exact hdistinct.allocated
  · exact fun u heq => nomatch heq
  · intro o ho
    obtain ⟨u, hu, heq⟩ := held_eraseTimer h.held hnot o ho
    exact ⟨u, List.mem_append_left _ hu, heq⟩
  · exact h.once
  · exact h.touches
  · exact h.unread
  · intro hnone
    rw [(h.timer hnone).2.1] at hjs
    cases hjs
  · exact fun heq => absurd heq (by simp)
  · exact fun _ heq => nomatch heq

/-! ## The event loop -/

/-- A step of `timerDidFire` that leaves the map alone and holds no new pointer. -/
theorem Owned.withFiring (h : s.Owned) {timer_ : Option Timer} {firing : FiringCall}
    {called : List (List ℚ)} (htimer : timer_ ≠ none)
    (hsub : firing.pending.Sublist s.firing.pending)
    (htouches : ∀ o ∈ firing.touches, o ∈ firing.pending)
    (hunread : ∀ now next jsTimersToCall unread sortedTimers,
      firing = .naming now next jsTimersToCall unread sortedTimers → unread ⊆ jsTimersToCall)
    (hwaking : firing.usesTimer = true → s.js ≠ .deleting) :
    Owned { s with timer_ := timer_, firing := firing, called := called } where
  ids := h.ids
  objects := h.objects
  allocated := h.allocated
  inserting := h.inserting
  held o ho := h.held o (hsub.subset ho)
  once := h.once.sublist hsub
  touches := htouches
  unread := hunread
  timer hnone := absurd hnone htimer
  empty := h.empty
  waking := hwaking

theorem Owned.passOn (h : s.Owned) {timer_ : Option Timer} {firing : FiringCall}
    {called : List (List ℚ)} (htimer : timer_ ≠ none) (hpasses : firing.passesOn = true)
    (hsub : firing.pending.Sublist s.firing.pending)
    (htouches : ∀ o ∈ firing.touches, o ∈ firing.pending) :
    Owned { s with timer_ := timer_, firing := firing, called := called } := by
  apply h.withFiring htimer hsub htouches
  · rintro _ _ _ _ _ rfl
    cases hpasses
  · intro huses
    cases firing with
    | waking => cases hpasses
    | _ => cases huses

theorem Owned.runTask (h : s.Owned) (timer : Timer) (task : TimerTask)
    (tasks : List TimerTask) : (s.runTask timer task tasks).Owned := by
  unfold TimerAccess.runTask
  have hidle (called : List (List ℚ)) : Owned { s with
      timer_ := some ({ timer with tasks := tasks }.runTask s.now task), called := called } :=
    h.withFiring (Option.some_ne_none _) (List.Sublist.refl _) h.touches h.unread h.waking
  cases task with
  | scheduleTimerTimeout call =>
    exact h.passOn (Option.some_ne_none _) rfl (List.nil_sublist _) fun _ ho => nomatch ho
  | function callbackId => exact hidle _
  | startTimeout call => exact hidle _
  | rescheduleTimeout call => exact hidle _
  | repeatTimeout call targetDuration => exact hidle _
  | cancelAll => exact hidle _

/-- The section that lists the expired timers. -/
theorem Owned.listExpired (h : s.Owned) (hfiring : s.firing ≠ .idle) (now : Int) :
    (s.listExpired now).Owned := by
  have hperm := (perm_listTimers now s.jsTimers_).map (·.object)
  have hsub : (((s.jsTimers_.filter fun t => decide (t.target_ ≤ now)).map
      (·.object))).Sublist (s.jsTimers_.map (·.object)) := List.filter_sublist.map _
  refine { h with held := ?_, once := ?_, touches := ?_, unread := ?_, timer := ?_, waking := ?_ }
  · intro o ho
    obtain ⟨t, ht, rfl⟩ := List.mem_map.mp (hsub.subset (hperm.mem_iff.mp ho))
    exact ⟨t, ht, rfl⟩
  · exact hperm.nodup_iff.mpr (h.objects.sublist hsub)
  · exact fun o ho => List.mem_of_mem_head? ho
  · intro _ _ _ _ _ heq
    cases heq
    exact List.Subset.refl _
  · exact fun hnone => absurd (h.timer hnone).2.2 hfiring
  · exact fun huses => nomatch huses

/-- Rescheduling a timer changes its target only. -/
theorem Owned.reschedule (h : s.Owned) {now next target : Int} {jsTimersToCall : List Nat}
    (hfiring : s.firing = .rescheduling now next object jsTimersToCall) :
    Owned { s with
      jsTimers_ := s.jsTimers_.map fun t =>
        if t.object = object then { t with target_ := target } else t
      firing := .comparing now next object jsTimersToCall } := by
  have hdistinct := h.distinct.retarget object target
  have hpending : s.firing.pending = object :: jsTimersToCall := by
    rw [hfiring]
    rfl
  constructor
  · exact hdistinct.ids
  · exact hdistinct.objects
  · exact hdistinct.allocated
  · intro t hjs
    obtain ⟨hlt, hnew⟩ := h.inserting t hjs
    refine ⟨hlt, fun u hu heq => ?_⟩
    obtain ⟨v, hv, heq'⟩ := exists_retarget_iff.mp ⟨u, hu, rfl⟩
    exact hnew v hv (heq'.trans heq)
  · intro o ho
    exact exists_retarget_iff.mpr (h.held o (hpending ▸ ho))
  · show (object :: jsTimersToCall).Nodup
    exact hpending ▸ h.once
  · intro o ho
    obtain rfl := Option.some.inj ho
    exact List.mem_cons_self
  · exact fun _ _ _ _ _ heq => nomatch heq
  · intro hnone
    have := (h.timer hnone).2.2
    rw [hfiring] at this
    cases this
  · intro heq
    rw [h.empty heq]
    rfl
  · exact fun huses => nomatch huses

/-- The section in which `timerDidFire` erases a timer that does not repeat. -/
theorem Owned.erase (h : s.Owned) {now next : Int} {jsTimersToCall : List Nat}
    (hfiring : s.firing = .erasing now next object jsTimersToCall)
    (hentry : s.entry object = some t) :
    Owned { s with
      jsTimers_ := eraseTimer t.callbackId_ s.jsTimers_
      firing := .testing now next jsTimersToCall } := by
  obtain ⟨ht, hobject⟩ := entry_eq_some hentry
  have hpending : s.firing.pending = object :: jsTimersToCall := by
    rw [hfiring]
    rfl
  have hsub := eraseTimer_sublist t.callbackId_ s.jsTimers_
  have hdistinct := h.distinct.erase t.callbackId_
  have honce := List.nodup_cons.mp (hpending ▸ h.once)
  constructor
  · exact hdistinct.ids
  · exact hdistinct.objects
  · exact hdistinct.allocated
  · intro u hjs
    obtain ⟨hlt, hnew⟩ := h.inserting u hjs
    exact ⟨hlt, fun v hv => hnew v (hsub.subset hv)⟩
  · -- the only timer with this id is the one that the pointer in hand leads to
    refine held_eraseTimer (fun o ho => h.held o (hpending ▸ List.mem_cons_of_mem _ ho)) ?_
    intro u hu hid hin
    obtain rfl := List.inj_on_of_nodup_map h.ids hu ht hid
    exact honce.1 (hobject ▸ hin)
  · exact honce.2
  · exact fun o ho => List.mem_of_mem_head? ho
  · exact fun _ _ _ _ _ heq => nomatch heq
  · intro hnone
    have := (h.timer hnone).2.2
    rw [hfiring] at this
    cases this
  · intro heq
    rw [h.empty heq]
    rfl
  · exact fun huses => nomatch huses

/-! ## Runs -/

theorem Owned.timer_ne_none (h : s.Owned) (hfiring : s.firing ≠ .idle) : s.timer_ ≠ none :=
  fun hnone => hfiring (h.timer hnone).2.2

/-- `deleteTimer` looks whether it has emptied the map. -/
theorem Owned.testEmpty (h : s.Owned) (hjs : s.js = .erased) :
    Owned { s with js := if s.jsTimers_ = [] then .aborting else .idle } := by
  refine h.withJs (fun hnone => ?_) le_rfl ?_ ?_ ?_
  · rw [(h.timer hnone).2.1] at hjs
    cases hjs
  · intro t heq
    split at heq <;> cases heq
  · intro heq
    split at heq
    · assumption
    · simp at heq
  · intro heq
    split at heq <;> cases heq

theorem Owned.deleted (h : s.Owned) (hjs : s.js = .deleting) (hfiring : s.firing = .idle) :
    Owned { s with timer_ := none, js := .idle } := by
  have hempty := h.empty (.inr hjs)
  exact { h with
    inserting := fun t heq => (nomatch heq)
    timer := fun _ => ⟨hempty, rfl, hfiring⟩
    empty := fun _ => hempty
    waking := fun _ heq => (nomatch heq) }

/-- One timer of the list that is passed to JS. -/
theorem Owned.named (h : s.Owned) {now next : Int} {jsTimersToCall unread : List Nat} {timer : Nat}
    {sortedTimers : List ℚ}
    (hfiring : s.firing = .naming now next jsTimersToCall (timer :: unread) sortedTimers)
    (callbackId : ℚ) :
    Owned { s with
      firing := .naming now next jsTimersToCall unread (sortedTimers ++ [callbackId]) } := by
  have hsub := h.unread _ _ _ _ _ hfiring
  refine h.withFiring (h.timer_ne_none (by simp [hfiring])) ?_ ?_ ?_ fun huses => nomatch huses
  · rw [hfiring]
    exact List.Sublist.refl _
  · exact fun o ho => hsub (List.mem_cons_of_mem _ (List.mem_of_mem_head? ho))
  · intro _ _ _ _ _ heq
    cases heq
    exact fun o ho => hsub (List.mem_cons_of_mem _ ho)

/-- A timer is rescheduled or erased next. -/
theorem Owned.testRepeats (h : s.Owned) {now next : Int} {jsTimersToCall : List Nat} {timer : Nat}
    (hfiring : s.firing = .testing now next (timer :: jsTimersToCall)) (repeats_ : Bool) :
    Owned { s with
      firing :=
        if repeats_ then .rescheduling now next timer jsTimersToCall
        else .erasing now next timer jsTimersToCall } := by
  have hpending : s.firing.pending = timer :: jsTimersToCall := by
    rw [hfiring]
    rfl
  have hne := h.timer_ne_none (by simp [hfiring])
  have htouches : ∀ o ∈ some timer, o ∈ timer :: jsTimersToCall := by
    rintro o ⟨⟩
    exact List.mem_cons_self
  cases repeats_ with
  | true => exact h.passOn hne rfl (hpending ▸ List.Sublist.refl _) htouches
  | false => exact h.passOn hne rfl (hpending ▸ List.Sublist.refl _) htouches

/-- The end of the loop of `timerDidFire`. -/
theorem Owned.testSize (h : s.Owned) {now next : Int} (hfiring : s.firing = .testing now next []) :
    Owned { s with firing := if s.jsTimers_ = [] then .idle else .waking next } := by
  have hne := h.timer_ne_none (by simp [hfiring])
  by_cases hempty : s.jsTimers_ = []
  · rw [if_pos hempty]
    exact h.passOn hne rfl (List.nil_sublist _) fun _ ho => nomatch ho
  · rw [if_neg hempty]
    exact h.withFiring hne (List.nil_sublist _) (fun _ ho => (nomatch ho))
      (fun _ _ _ _ _ heq => (nomatch heq)) (fun _ heq => hempty (h.empty (.inr heq)))

theorem Owned.exec {op : TimerAccessOp} (h : s.Owned) (hok : op.KeepsMemory s)
    (hexec : op.exec s = some s') : s'.Owned := by
  cases op with
  | tick milliseconds =>
    obtain rfl := Option.some.inj hexec
    exact { h with }
  | createTimer callbackId duration jsSchedulingTime repeats =>
    obtain ⟨-, ⟨⟩⟩ := Option.ite_none_right_eq_some.mp hexec
    exact h.withJs (Option.some_ne_none _) le_rfl (fun t heq => nomatch heq)
      (fun heq => by simp at heq) fun heq => nomatch heq
  | useTimer =>
    simp only [TimerAccessOp.exec] at hexec
    split at hexec
    · obtain ⟨timer, -, rfl⟩ := Option.map_eq_some_iff.mp hexec
      exact h.useTimer timer _ _ _ _
    · cases hexec
  | insert =>
    simp only [TimerAccessOp.exec] at hexec
    split at hexec
    · rename_i t hjs
      obtain rfl := Option.some.inj hexec
      simp only [TimerAccessOp.KeepsMemory, hjs] at hok
      exact h.insert hjs hok
    · cases hexec
  | deleteTimer timerId =>
    obtain ⟨-, ⟨⟩⟩ := Option.ite_none_right_eq_some.mp hexec
    exact h.deleteTimer hok.1 hok.2
  | testEmpty =>
    obtain ⟨hjs, ⟨⟩⟩ := Option.ite_none_right_eq_some.mp hexec
    exact h.testEmpty hjs
  | abort =>
    obtain ⟨hjs, hexec⟩ := Option.ite_none_right_eq_some.mp hexec
    obtain ⟨timer, -, rfl⟩ := Option.map_eq_some_iff.mp hexec
    exact h.withJs (Option.some_ne_none _) le_rfl (fun t heq => nomatch heq)
      (fun _ => h.empty (.inl hjs)) fun _ => hok
  | deleted =>
    obtain ⟨⟨hjs, hfiring⟩, ⟨⟩⟩ := Option.ite_none_right_eq_some.mp hexec
    exact h.deleted hjs hfiring
  | runTask =>
    obtain ⟨-, hexec⟩ := Option.ite_none_right_eq_some.mp hexec
    split at hexec
    · split at hexec
      · cases hexec
      · obtain rfl := Option.some.inj hexec
        exact h.runTask _ _ _
    · cases hexec
  | timeoutExpired =>
    obtain ⟨-, hexec⟩ := Option.ite_none_right_eq_some.mp hexec
    split at hexec
    · obtain ⟨-, ⟨⟩⟩ := Option.ite_none_right_eq_some.mp hexec
      refine h.withFiring (Option.some_ne_none _) ?_ ?_ ?_ ?_
      all_goals split
      all_goals simp [FiringCall.pending, FiringCall.touches, FiringCall.usesTimer]
    · cases hexec
  | listExpired =>
    simp only [TimerAccessOp.exec] at hexec
    split at hexec
    · rename_i now hfiring
      obtain rfl := Option.some.inj hexec
      exact h.listExpired (by simp [hfiring]) now
    · cases hexec
  | name =>
    simp only [TimerAccessOp.exec] at hexec
    split at hexec
    · rename_i now next jsTimersToCall timer unread sortedTimers hfiring
      obtain ⟨t, -, rfl⟩ := Option.map_eq_some_iff.mp hexec
      exact h.named hfiring t.callbackId_
    · cases hexec
  | callTimers =>
    simp only [TimerAccessOp.exec] at hexec
    split at hexec
    · rename_i now next jsTimersToCall sortedTimers hfiring
      obtain rfl := Option.some.inj hexec
      refine h.passOn (h.timer_ne_none (by simp [hfiring])) rfl ?_ ?_
      · rw [hfiring]
        exact List.Sublist.refl _
      · exact fun o ho => List.mem_of_mem_head? ho
    · cases hexec
  | testRepeats =>
    simp only [TimerAccessOp.exec] at hexec
    split at hexec
    · rename_i now next timer jsTimersToCall hfiring
      obtain ⟨t, -, rfl⟩ := Option.map_eq_some_iff.mp hexec
      exact h.testRepeats hfiring t.repeats_
    · cases hexec
  | reschedule =>
    simp only [TimerAccessOp.exec] at hexec
    split at hexec
    · rename_i now next timer jsTimersToCall hfiring
      obtain ⟨t, -, rfl⟩ := Option.map_eq_some_iff.mp hexec
      exact h.reschedule hfiring
    · cases hexec
  | compareTarget =>
    simp only [TimerAccessOp.exec] at hexec
    split at hexec
    · rename_i now next timer jsTimersToCall hfiring
      obtain ⟨t, -, rfl⟩ := Option.map_eq_some_iff.mp hexec
      refine h.passOn (h.timer_ne_none (by simp [hfiring])) rfl ?_ ?_
      · rw [hfiring]
        exact List.sublist_cons_self _ _
      · exact fun o ho => List.mem_of_mem_head? ho
    · cases hexec
  | erase =>
    simp only [TimerAccessOp.exec] at hexec
    split at hexec
    · rename_i now next timer jsTimersToCall hfiring
      obtain ⟨t, hentry, rfl⟩ := Option.map_eq_some_iff.mp hexec
      exact h.erase hfiring hentry
    · cases hexec
  | testSize =>
    simp only [TimerAccessOp.exec] at hexec
    split at hexec
    · rename_i now next hfiring
      obtain rfl := Option.some.inj hexec
      exact h.testSize hfiring
    · cases hexec
  | wake =>
    simp only [TimerAccessOp.exec] at hexec
    split at hexec
    · obtain ⟨timer, -, rfl⟩ := Option.map_eq_some_iff.mp hexec
      exact h.passOn (Option.some_ne_none _) rfl (List.nil_sublist _) fun _ ho => nomatch ho
    · cases hexec

/-- In every run whose steps meet the condition nothing dead is used. -/
theorem timerAccessRun_noDeadUse
    (hrun : Run timerAccessStep TimerAccessOp.KeepsMemory {} s) : s.NoDeadUse := by
  have howned : s.Owned := by
    refine hrun.invariant (P := Owned) ?_ owned_init
    intro t op u ht hok hstep
    exact ht.exec hok hstep
  exact howned.noDeadUse

end

end TimerAccess

section

open DeadlineWheel TimerAccess

/-- A timer that repeats fires, another is called immediately, and the timer is deleted after the
first is gone. -/
theorem timerAccessRun_noDeadUse_two_timers : ∃ s : TimerAccess, s.NoDeadUse ∧
    s.timer_.isNone = true ∧ s.called = [[2], [1]] := by
  have hfold : ([.createTimer 1 30 0 true, .useTimer, .insert, .runTask, .createTimer 2 0 0 false,
      .useTimer, .runTask, .tick 30, .timeoutExpired, .listExpired, .name, .callTimers,
      .testRepeats, .reschedule, .compareTarget, .testSize, .wake, .deleteTimer 1, .testEmpty,
      .abort, .deleted].foldlM
        (fun s (op : TimerAccessOp) => if op.KeepsMemory s then op.exec s else none) {}).map
          (fun s => (s.timer_.isNone, s.called)) = some (true, [[2], [1]]) := by
    decide +kernel
  obtain ⟨s, hrun, hs⟩ := Option.map_eq_some_iff.mp hfold
  obtain ⟨htimer, hcalled⟩ := Prod.mk.inj hs
  exact ⟨s, timerAccessRun_noDeadUse (Run.of_checked_exec hrun), htimer, hcalled⟩

/-- `deleteTimer` is the first call. -/
theorem missing_timer_aborted :
    ¬ ∀ s : TimerAccess, Run timerAccessStep anyStep {} s → s.NoDeadUse := by
  intro hall
  have hfold : ([.deleteTimer 1, .testEmpty].foldlM TimerAccessOp.exec {}).map
      (fun s => (s.js, s.timer_.isNone)) = some (.aborting, true) := by
    decide +kernel
  obtain ⟨s, hrun, hs⟩ := Option.map_eq_some_iff.mp hfold
  obtain ⟨hjs, htimer⟩ := Prod.mk.inj hs
  have hdead := hall s (Run.of_exec hrun)
  exact hdead.js (by rw [hjs]; rfl) (Option.isNone_iff_eq_none.mp htimer)

end

end ReactNativeSkia
