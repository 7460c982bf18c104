import ReactNativeSkia.Timers.TimingModule
import ReactNativeSkia.Timers.Proofs.Firing

/-!
# When JS is called

A firing calls the timers in the map whose target has come, and a repeating one gets a new target
behind that. So what a timer has been called for lies its duration before its target, unless the
firing has still to serve it.
-/

namespace ReactNativeSkia

/-- The argument of a function in the queue. -/
def TimerTask.argument? : TimerTask → Option ℚ
  | .function argument => some argument
  | _ => none

/-- `t` is in the map for `timer`. -/
structure MadeTimer.Keeps (timer : MadeTimer) (t : RSkJsTimer) : Prop where
  callbackId : timer.callbackId = t.callbackId_
  repeats : timer.repeats = t.repeats_
  duration : timer.duration = t.duration_
  map : ¬ timer.IsImmediate
  due : timer.IsDue t.target_

section

variable [HHWheelTimer]

namespace TimingModule

/-- The ids of the functions that wait in the event loop. -/
def pending (s : TimingModule) : List ℚ :=
  (s.timer_.map fun timer => timer.tasks.filterMap TimerTask.argument?).getD []

/-- The timers that a firing has still to reschedule or erase. -/
def toServe (s : TimingModule) : List RSkJsTimer :=
  match s.firing with
  | .calling _ _ jsTimersToCall => jsTimersToCall
  | _ => []

end TimingModule

namespace TimingLog

def IsKept (s : TimingLog) (t : RSkJsTimer) : Prop :=
  (∃ timer ∈ s.made, timer.Keeps t) ∧ t.callbackId_ ∉ s.deleted

def IsCalled (s : TimingLog) (callbackId : ℚ) : Prop :=
  ∃ call ∈ s.calls, call.callbackId = callbackId

/-- The timer may be called when its target has come. -/
def IsCalm (s : TimingLog) (t : RSkJsTimer) : Prop :=
  ∀ call ∈ s.calls, call.callbackId = t.callbackId_ →
    t.repeats_ = true ∧ call.time + (wholeMilliseconds t.duration_ : Int) ≤ t.target_

/-- The timers of a firing that are still to be served. -/
structure Serves (s : TimingLog) : Prop where
  objects : (s.module.toServe.map RSkJsTimer.object).Nodup
  allocated : ∀ u ∈ s.module.toServe, u.object < s.module.allocated
  expired : ∀ u ∈ s.module.toServe, u.target_ ≤ s.module.baseClock
  same : ∀ u ∈ s.module.toServe, ∀ t ∈ s.module.jsTimers_, t.object = u.object → t = u

/-- The timer that is being made. -/
structure Makes (s : TimingLog) (t : RSkJsTimer) : Prop where
  kept : s.IsKept t
  uncalled : ¬ s.IsCalled t.callbackId_
  object : ∀ u ∈ s.module.toServe, u.object ≠ t.object
  id : ∀ u ∈ s.module.jsTimers_, u.callbackId_ ≠ t.callbackId_

/-- What holds besides in a run. -/
structure Timely (s : TimingLog) : Prop where
  honoured : s.Honoured
  clock : s.module.baseClock ≤ s.module.now
  past : ∀ call ∈ s.calls, call.time ≤ s.module.baseClock
  kept : ∀ t ∈ s.module.jsTimers_, s.IsKept t
  calm : ∀ t ∈ s.module.jsTimers_, t ∉ s.module.toServe → s.IsCalm t
  serves : s.Serves
  makes : ∀ t, s.module.js = .inserting t → s.Makes t
  once : s.module.pending.Nodup
  waiting : ∀ callbackId ∈ s.module.pending, ¬ s.IsCalled callbackId ∧
    ∃ timer ∈ s.made, timer.callbackId = callbackId ∧ timer.IsImmediate ∧
      timer.time ≤ s.module.now

end TimingLog

end

/-! ## The clock -/

theorem MadeTimer.IsDue.mono {timer : MadeTimer} {time time' : Int} (h : timer.IsDue time)
    (hle : time ≤ time') : timer.IsDue time' := by
  have hle' : (time : ℚ) ≤ time' := by exact_mod_cast hle
  unfold IsDue at h ⊢
  linarith

theorem MadeTimer.IsImmediate.isDue {timer : MadeTimer} (h : timer.IsImmediate) {time : Int}
    (hle : timer.time ≤ time) : timer.IsDue time := by
  have hmin : ((min timer.time timer.scheduled : Int) : ℚ) ≤ time := by
    exact_mod_cast (min_le_left _ _).trans hle
  unfold IsDue
  rw [h.1]
  linarith

/-- The target that `createTimerForNextFrame` computes. -/
theorem isDue_target (callbackId duration : ℚ) (repeats : Bool) (now scheduled : Int) :
    MadeTimer.IsDue
      { callbackId := callbackId, duration := duration, repeats := repeats, time := now,
        scheduled := scheduled }
      (now + wholeMilliseconds (max (duration - max ((now - scheduled : Int) : ℚ) 0) 0)) := by
  have hfloor := wholeMilliseconds_eq
    (le_max_right (duration - max ((now - scheduled : Int) : ℚ) 0) 0)
  have hlt := Int.lt_floor_add_one (max (duration - max ((now - scheduled : Int) : ℚ) 0) 0)
  rw [← hfloor] at hlt
  have hle := le_max_left (duration - max ((now - scheduled : Int) : ℚ) 0) 0
  unfold MadeTimer.IsDue
  push_cast at hlt hle ⊢
  rcases le_total now scheduled with h | h
  · have hcast : (now : ℚ) ≤ scheduled := by exact_mod_cast h
    rw [min_eq_left hcast]
    rw [max_eq_right (by linarith : (now : ℚ) - scheduled ≤ 0)] at hlt hle ⊢
    linarith
  · have hcast : (scheduled : ℚ) ≤ now := by exact_mod_cast h
    rw [min_eq_right hcast]
    rw [max_eq_left (by linarith : (0 : ℚ) ≤ (now : ℚ) - scheduled)] at hlt hle ⊢
    linarith

section

variable [HHWheelTimer]

/-! ## The closures that wait -/

namespace Timer

variable {timer : Timer}

theorem pending_reschedule (duration : ℚ) (now : Int) :
    (timer.reschedule duration false now 0).tasks.filterMap TimerTask.argument? =
      timer.tasks.filterMap TimerTask.argument? := by
  cases hcb : timer.cb_ with
  | false =>
    unfold reschedule
    rw [hcb]
    rfl
  | true =>
    rcases lt_or_ge duration 1 with hlt | hle
    · rw [reschedule_of_lt hcb hlt]
      split <;> simp [TimerTask.argument?]
    · rw [reschedule_of_le hcb hle]
      simp [push, TimerTask.argument?]

theorem pending_abort :
    timer.abort.tasks.filterMap TimerTask.argument? =
      timer.tasks.filterMap TimerTask.argument? := by
  unfold abort push
  split
  · simp [List.filterMap_append, TimerTask.argument?]
  · rfl

end Timer

namespace TimingModule

variable {s : TimingModule} {timer : Timer}

theorem pending_some (h : s.timer_ = some timer) :
    s.pending = timer.tasks.filterMap TimerTask.argument? := by
  rw [pending, h]
  rfl

/-- The timer that `createTimer` makes has an empty queue. -/
theorem pending_getD (s : TimingModule) (duration : ℚ) :
    (s.timer_.getD (Timer.create duration false true false s.now)).tasks.filterMap
      TimerTask.argument? = s.pending := by
  unfold pending
  cases s.timer_ with
  | none => rfl
  | some timer => rfl

theorem newCalls_append {s' : TimingModule} (calls : List (List ℚ))
    (h : s'.called = s.called ++ calls) : s.newCalls s' = calls.flatten := by
  rw [newCalls, h, List.drop_left]

theorem newCalls_eq {s' : TimingModule} (h : s'.called = s.called) : s.newCalls s' = [] :=
  newCalls_append [] (h.trans (List.append_nil _).symm)

end TimingModule

namespace TimingLog

variable {s s' : TimingLog} {op : TimingOp} {module : TimingModule} {t : RSkJsTimer}

/-- A step without a call of JS, and without a call from it. -/
theorem Timely.record (h : Timely { s with module := module })
    (hmakes : op.makes s.module.now = []) (hdeletes : op.deletes = [])
    (hcalled : module.called = s.module.called) : (s.record op module).Timely := by
  rw [TimingLog.record, hmakes, hdeletes, TimingModule.newCalls_eq hcalled]
  simpa using h

/-! ## The steps -/

theorem Serves.congr (h : s.Serves) (hserve : s'.module.toServe = s.module.toServe)
    (hallocated : s.module.allocated ≤ s'.module.allocated)
    (hclock : s.module.baseClock ≤ s'.module.baseClock)
    (hsame : ∀ t ∈ s'.module.jsTimers_, t ∈ s.module.jsTimers_ ∨
      ∀ u ∈ s.module.toServe, u.object ≠ t.object) : s'.Serves := by
  constructor
  · rw [hserve]
    exact h.objects
  · intro u hu
    exact Nat.lt_of_lt_of_le (h.allocated u (hserve ▸ hu)) hallocated
  · intro u hu
    exact (h.expired u (hserve ▸ hu)).trans hclock
  · intro u hu t ht heq
    rcases hsame t ht with hmem | hne
    · exact h.same u (hserve ▸ hu) t hmem heq
    · exact absurd heq.symm (hne u (hserve ▸ hu))

/-- A step of the event loop or of the clock that serves no timer. -/
theorem Timely.congr (h : s.Timely) (hjsTimers : module.jsTimers_ = s.module.jsTimers_)
    (hallocated : module.allocated = s.module.allocated)
    (hserve : module.toServe = s.module.toServe)
    (hjs : module.js = s.module.js ∨ ∀ t, module.js ≠ .inserting t)
    (hpending : module.pending.Sublist s.module.pending) (hnow : s.module.now ≤ module.now)
    (hclock : s.module.baseClock ≤ module.baseClock) (hclock' : module.baseClock ≤ module.now) :
    Timely { s with module := module } where
  honoured := ⟨h.honoured.ids, h.honoured.due, h.honoured.apart⟩
  clock := hclock'
  past call hcall := (h.past call hcall).trans hclock
  kept t ht := h.kept t (hjsTimers ▸ ht)
  calm t ht hnot := h.calm t (hjsTimers ▸ ht) (hserve ▸ hnot)
  serves := h.serves.congr hserve (Nat.le_of_eq hallocated.symm) hclock fun t ht =>
    .inl (hjsTimers ▸ ht)
  makes t heq := by
    rcases hjs with hjs | hjs
    · obtain ⟨hkept, huncalled, hobject, hid⟩ := h.makes t (hjs ▸ heq)
      refine ⟨hkept, huncalled, ?_, ?_⟩
      · exact fun u hu => hobject u (hserve ▸ hu)
      · exact fun u hu => hid u (hjsTimers ▸ hu)
    · exact absurd heq (hjs t)
  once := h.once.sublist hpending
  waiting callbackId hmem := by
    obtain ⟨huncalled, timer, htimer, hid, himmediate, htime⟩ :=
      h.waiting callbackId (hpending.subset hmem)
    exact ⟨huncalled, timer, htimer, hid, himmediate, htime.trans hnow⟩

/-! ### JS -/

theorem Honoured.isMade (h : s.Honoured) {callbackId : ℚ} (hcalled : s.IsCalled callbackId) :
    callbackId ∈ s.made.map MadeTimer.callbackId := by
  obtain ⟨call, hcall, rfl⟩ := hcalled
  obtain ⟨timer, htimer, hid, -⟩ := h.due call hcall
  exact List.mem_map.mpr ⟨timer, htimer, hid⟩

/-- Ids are not taken twice. -/
theorem Honoured.same (h : s.Honoured) {timer timer' : MadeTimer} (htimer : timer ∈ s.made)
    (htimer' : timer' ∈ s.made) (hid : timer.callbackId = timer'.callbackId) : timer = timer' :=
  List.inj_on_of_nodup_map h.ids htimer htimer' hid

/-- A new timer. -/
theorem Timely.make (h : s.Timely) (timer : MadeTimer)
    (hfresh : timer.callbackId ∉ s.made.map MadeTimer.callbackId) (hidle : s.module.js = .idle) :
    Timely { s with made := s.made ++ [timer] } where
  honoured := by
    refine ⟨?_, ?_, ?_⟩
    · rw [List.map_append]
      exact h.honoured.ids.append (List.nodup_singleton _) (by simpa using hfresh)
    · intro call hcall
      obtain ⟨timer', htimer', hdue⟩ := h.honoured.due call hcall
      exact ⟨timer', List.mem_append_left _ htimer', hdue⟩
    · refine h.honoured.apart.imp fun happart hid => ?_
      obtain ⟨timer', htimer', hapart⟩ := happart hid
      exact ⟨timer', List.mem_append_left _ htimer', hapart⟩
  clock := h.clock
  past := h.past
  kept t ht := by
    obtain ⟨⟨timer', htimer', hkeeps⟩, hdeleted⟩ := h.kept t ht
    exact ⟨⟨timer', List.mem_append_left _ htimer', hkeeps⟩, hdeleted⟩
  calm := h.calm
  serves := ⟨h.serves.objects, h.serves.allocated, h.serves.expired, h.serves.same⟩
  makes t heq := nomatch hidle.symm.trans heq
  once := h.once
  waiting callbackId hmem := by
    obtain ⟨huncalled, timer', htimer', hwaits⟩ := h.waiting callbackId hmem
    exact ⟨huncalled, timer', List.mem_append_left _ htimer', hwaits⟩

/-- It waits in the event loop. -/
theorem Timely.makeImmediate (h : s.Timely) (timer : MadeTimer)
    (hfresh : timer.callbackId ∉ s.made.map MadeTimer.callbackId) (hidle : s.module.js = .idle)
    (himmediate : timer.IsImmediate) (htime : timer.time = s.module.now) {loop : Timer}
    (hpending : loop.tasks.filterMap TimerTask.argument? =
      s.module.pending ++ [timer.callbackId]) :
    Timely { s with
      module := { s.module with timer_ := some loop }, made := s.made ++ [timer] } := by
  have hmake := h.make timer hfresh hidle
  have hpending' : TimingModule.pending { s.module with timer_ := some loop } =
      s.module.pending ++ [timer.callbackId] := hpending
  have huncalled : ¬ s.IsCalled timer.callbackId := fun hcalled =>
    hfresh (h.honoured.isMade hcalled)
  have hnew : timer.callbackId ∉ s.module.pending := by
    intro hmem
    obtain ⟨-, timer', htimer', hid, -⟩ := h.waiting _ hmem
    exact hfresh (List.mem_map.mpr ⟨timer', htimer', hid⟩)
  refine ⟨⟨hmake.honoured.ids, hmake.honoured.due, hmake.honoured.apart⟩, h.clock, h.past,
    hmake.kept, h.calm, ?_, ?_, ?_, ?_⟩
  · exact ⟨h.serves.objects, h.serves.allocated, h.serves.expired, h.serves.same⟩
  · exact fun _ heq => nomatch hidle.symm.trans heq
  · rw [hpending']
    exact h.once.append (List.nodup_singleton _) (by simpa using hnew)
  · intro callbackId hmem
    rw [hpending'] at hmem
    rcases List.mem_append.mp hmem with hmem | hmem
    · exact hmake.waiting callbackId hmem
    · obtain rfl := List.mem_singleton.mp hmem
      refine ⟨huncalled, timer, List.mem_append_right _ List.mem_cons_self, rfl, himmediate, ?_⟩
      exact htime.le

/-- It is to be put into the map. -/
theorem Timely.makeLater (h : s.Timely) (timer : MadeTimer)
    (hfresh : timer.callbackId ∉ s.made.map MadeTimer.callbackId)
    (hdeleted : timer.callbackId ∉ s.deleted) (hidle : s.module.js = .idle)
    (hkeeps : timer.Keeps t) (hobject : t.object = s.module.allocated) {loop : Timer}
    (hpending : loop.tasks.filterMap TimerTask.argument? = s.module.pending) :
    Timely { s with
      module := { s.module with
        timer_ := some loop, allocated := s.module.allocated + 1, js := .inserting t }
      made := s.made ++ [timer] } := by
  have hmake := h.make timer hfresh hidle
  have hpending' : TimingModule.pending { s.module with
      timer_ := some loop, allocated := s.module.allocated + 1, js := .inserting t } =
      s.module.pending := hpending
  refine ⟨⟨hmake.honoured.ids, hmake.honoured.due, hmake.honoured.apart⟩, h.clock, h.past,
    hmake.kept, h.calm, ?_, ?_, ?_, ?_⟩
  · exact h.serves.congr rfl (Nat.le_succ _) (Int.le_refl _) fun _ ht => .inl ht
  · intro t' heq
    obtain rfl := JsThread.inserting.inj heq
    constructor
    · refine ⟨⟨timer, List.mem_append_right _ List.mem_cons_self, hkeeps⟩, ?_⟩
      exact hkeeps.callbackId ▸ hdeleted
    · intro hcalled
      apply hfresh
      rw [hkeeps.callbackId]
      exact h.honoured.isMade hcalled
    · intro u hu
      rw [hobject]
      exact Nat.ne_of_lt (h.serves.allocated u hu)
    · intro u hu heq
      obtain ⟨⟨timer', htimer', hkeeps'⟩, -⟩ := h.kept u hu
      apply hfresh
      rw [hkeeps.callbackId, ← heq, ← hkeeps'.callbackId]
      exact List.mem_map_of_mem htimer'
  · rw [hpending']
    exact h.once
  · intro callbackId hmem
    rw [hpending'] at hmem
    exact hmake.waiting callbackId hmem

theorem Timely.createTimer (h : s.Timely) (hidle : s.module.js = .idle)
    {callbackId duration jsSchedulingTime : ℚ} {repeats : Bool}
    (hfresh : callbackId ∉ s.made.map MadeTimer.callbackId) (hdeleted : callbackId ∉ s.deleted) :
    (s.record (.createTimer callbackId duration jsSchedulingTime repeats)
      (s.module.createTimer callbackId duration jsSchedulingTime repeats)).Timely := by
  have hcalled : (s.module.createTimer callbackId duration jsSchedulingTime repeats).called =
      s.module.called := by
    unfold TimingModule.createTimer
    dsimp only
    split <;> rfl
  rw [TimingLog.record, TimingModule.newCalls_eq hcalled, List.map_nil, List.append_nil]
  simp only [TimingOp.makes, TimingOp.deletes, List.append_nil]
  unfold TimingModule.createTimer
  dsimp only
  split
  · rename_i himmediate
    refine h.makeImmediate ⟨callbackId, duration, repeats, _, _⟩ hfresh hidle himmediate rfl ?_
    rw [Timer.scheduleImmediate, Timer.push, List.filterMap_append, s.module.pending_getD]
    rfl
  · rename_i hlater
    refine h.makeLater ⟨callbackId, duration, repeats, _, _⟩ hfresh hdeleted hidle
      ⟨rfl, rfl, rfl, hlater, isDue_target _ _ _ _ _⟩ rfl ?_
    rw [Timer.pending_reschedule, s.module.pending_getD]

theorem Timely.insert (h : s.Timely) (hjs : s.module.js = .inserting t) :
    Timely { s with module := { s.module with
      jsTimers_ := eraseTimer t.callbackId_ s.module.jsTimers_ ++ [t], js := .idle } } := by
  have hmakes := h.makes t hjs
  have hmem {u : RSkJsTimer} (hu : u ∈ eraseTimer t.callbackId_ s.module.jsTimers_ ++ [t]) :
      u ∈ s.module.jsTimers_ ∨ u = t := by
    rcases List.mem_append.mp hu with hu | hu
    · exact .inl ((eraseTimer_sublist _ _).subset hu)
    · exact .inr (List.mem_singleton.mp hu)
  refine ⟨⟨h.honoured.ids, h.honoured.due, h.honoured.apart⟩, h.clock, h.past, ?_, ?_, ?_, ?_,
    h.once, h.waiting⟩
  · intro u hu
    rcases hmem hu with hu | rfl
    · exact h.kept u hu
    · exact hmakes.kept
  · intro u hu hnot
    rcases hmem hu with hu | rfl
    · exact h.calm u hu hnot
    · intro call hcall hid
      exact absurd ⟨call, hcall, hid⟩ hmakes.uncalled
  · refine h.serves.congr rfl (Nat.le_refl _) (Int.le_refl _) fun u hu => ?_
    rcases hmem hu with hu | rfl
    · exact .inl hu
    · exact .inr hmakes.object
  · exact fun _ heq => nomatch heq

theorem Timely.deleteTimer (h : s.Timely) (timerId : ℚ) :
    Timely { s with
      module := { s.module with
        jsTimers_ := eraseTimer timerId s.module.jsTimers_, js := .erased }
      deleted := s.deleted ++ [timerId] } := by
  have hsub := (eraseTimer_sublist timerId s.module.jsTimers_).subset
  refine ⟨⟨h.honoured.ids, h.honoured.due, h.honoured.apart⟩, h.clock, h.past, ?_, ?_, ?_, ?_,
    h.once, h.waiting⟩
  · intro t ht
    obtain ⟨hmade, hdeleted⟩ := h.kept t (hsub ht)
    refine ⟨hmade, fun hmem => ?_⟩
    rcases List.mem_append.mp hmem with hmem | hmem
    · exact hdeleted hmem
    · exact of_decide_eq_true (List.mem_filter.mp ht).2 (List.mem_singleton.mp hmem)
  · exact fun t ht hnot => h.calm t (hsub ht) hnot
  · exact h.serves.congr rfl (Nat.le_refl _) (Int.le_refl _) fun t ht => .inl (hsub ht)
  · exact fun _ heq => nomatch heq

/-! ### The event loop -/

/-- Timers are called at `time`. -/
theorem Honoured.call (h : s.Honoured) {callbackIds : List ℚ} {time : Int}
    (hnodup : callbackIds.Nodup)
    (hdue : ∀ callbackId ∈ callbackIds, ∃ timer ∈ s.made, timer.callbackId = callbackId ∧
      timer.IsDue time ∧ (callbackId ∈ s.deleted → timer.IsImmediate))
    (hapart : ∀ callbackId ∈ callbackIds, ∀ call ∈ s.calls, call.callbackId = callbackId →
      ∃ timer ∈ s.made, timer.callbackId = callbackId ∧ timer.repeats = true ∧
        call.time + (wholeMilliseconds timer.duration : Int) ≤ time) :
    Honoured { s with
      module := module
      calls := s.calls ++ callbackIds.map fun callbackId =>
        { callbackId := callbackId
          time := time
          deleted := decide (callbackId ∈ s.deleted) } } := by
  refine ⟨h.ids, ?_, ?_⟩
  · intro call hcall
    rcases List.mem_append.mp hcall with hcall | hcall
    · exact h.due call hcall
    · obtain ⟨callbackId, hmem, rfl⟩ := List.mem_map.mp hcall
      obtain ⟨timer, htimer, hid, hdue, hdeleted⟩ := hdue callbackId hmem
      exact ⟨timer, htimer, hid, hdue, fun h => hdeleted (of_decide_eq_true h)⟩
  · refine List.pairwise_append.mpr ⟨h.apart, ?_, ?_⟩
    · rw [List.pairwise_map]
      exact hnodup.imp fun hne heq => absurd heq hne
    · intro call hcall call' hcall' hid
      obtain ⟨callbackId, hmem, rfl⟩ := List.mem_map.mp hcall'
      obtain ⟨timer, htimer, hid', hrest⟩ := hapart callbackId hmem call hcall hid
      exact ⟨timer, htimer, hid'.trans hid.symm, hrest⟩

theorem mem_calls {callbackIds : List ℚ} {time : Int} {call : JsTimerCall}
    (h : call ∈ s.calls ++ callbackIds.map fun callbackId =>
      { callbackId := callbackId
        time := time
        deleted := decide (callbackId ∈ s.deleted) }) :
    call ∈ s.calls ∨ call.callbackId ∈ callbackIds ∧ call.time = time := by
  rcases List.mem_append.mp h with h | h
  · exact .inl h
  · obtain ⟨callbackId, hmem, rfl⟩ := List.mem_map.mp h
    exact .inr ⟨hmem, rfl⟩

/-- The steps that call timers leave the map alone. -/
theorem Timely.call (h : s.Timely) {callbackIds : List ℚ}
    (hhonoured : Honoured { s with
      module := module
      calls := s.calls ++ callbackIds.map fun callbackId =>
        { callbackId := callbackId
          time := s.module.baseClock
          deleted := decide (callbackId ∈ s.deleted) } })
    (hjsTimers : module.jsTimers_ = s.module.jsTimers_) (hjs : module.js = s.module.js)
    (hnow : module.now = s.module.now) (hclock : module.baseClock = s.module.baseClock)
    (hserves : Serves { s with module := module })
    (hcalm : ∀ t ∈ s.module.jsTimers_, t ∉ module.toServe →
      t ∉ s.module.toServe ∧ t.callbackId_ ∉ callbackIds)
    (hmakes : ∀ t, s.module.js = .inserting t → t.callbackId_ ∉ callbackIds ∧
      ∀ u ∈ module.toServe, u.object ≠ t.object)
    (hpending : module.pending.Sublist s.module.pending)
    (hwaiting : ∀ callbackId ∈ module.pending, callbackId ∉ callbackIds) :
    Timely { s with
      module := module
      calls := s.calls ++ callbackIds.map fun callbackId =>
        { callbackId := callbackId
          time := s.module.baseClock
          deleted := decide (callbackId ∈ s.deleted) } } where
  honoured := hhonoured
  clock := hclock.trans_le (h.clock.trans_eq hnow.symm)
  past call hcall := by
    rcases mem_calls hcall with hcall | ⟨-, htime⟩
    · exact (h.past call hcall).trans_eq hclock.symm
    · exact (htime.trans hclock.symm).le
  kept t ht := h.kept t (hjsTimers ▸ ht)
  calm t ht hnot call hcall heq := by
    have ht' : t ∈ s.module.jsTimers_ := hjsTimers ▸ ht
    obtain ⟨hserved, hnew⟩ := hcalm t ht' hnot
    rcases mem_calls hcall with hcall | ⟨hmem, -⟩
    · exact h.calm t ht' hserved call hcall heq
    · exact absurd (heq ▸ hmem) hnew
  serves := ⟨hserves.objects, hserves.allocated, hserves.expired, hserves.same⟩
  makes t heq := by
    have hinserting : s.module.js = .inserting t := hjs ▸ heq
    obtain ⟨hnew, hobject⟩ := hmakes t hinserting
    have hmaking := h.makes t hinserting
    refine ⟨hmaking.kept, ?_, hobject, fun u hu => hmaking.id u (hjsTimers ▸ hu)⟩
    rintro ⟨call, hcall, heq⟩
    rcases mem_calls hcall with hcall | ⟨hmem, -⟩
    · exact hmaking.uncalled ⟨call, hcall, heq⟩
    · exact hnew (heq ▸ hmem)
  once := h.once.sublist hpending
  waiting callbackId hmem := by
    obtain ⟨huncalled, timer, htimer, hid, himmediate, htime⟩ :=
      h.waiting callbackId (hpending.subset hmem)
    refine ⟨?_, timer, htimer, hid, himmediate, htime.trans_eq hnow.symm⟩
    rintro ⟨call, hcall, rfl⟩
    rcases mem_calls hcall with hcall | ⟨hnew, -⟩
    · exact huncalled ⟨call, hcall, rfl⟩
    · exact hwaiting _ hmem hnew

/-- A timer in the map is not one that waits in the event loop. -/
theorem Timely.ne_of_isKept (h : s.Timely) (hkept : s.IsKept t) {callbackId : ℚ}
    (hmem : callbackId ∈ s.module.pending) : t.callbackId_ ≠ callbackId := by
  rintro rfl
  obtain ⟨⟨timer, htimer, hkeeps⟩, -⟩ := hkept
  obtain ⟨-, timer', htimer', hid, himmediate, -⟩ := h.waiting _ hmem
  obtain rfl := h.honoured.same htimer htimer' (hkeeps.callbackId.trans hid.symm)
  exact hkeeps.map himmediate

/-- `immediatelyCallTimer`. -/
theorem Timely.callImmediately (h : s.Timely) {callbackId : ℚ} (hidle : s.module.firing = .idle)
    {loop : Timer} (hpending : s.module.pending =
      callbackId :: loop.tasks.filterMap TimerTask.argument?) {called : List (List ℚ)} :
    Timely { s with
      module := { s.module with timer_ := some loop, called := called }
      calls := s.calls ++ [callbackId].map fun callbackId =>
        { callbackId := callbackId
          time := s.module.baseClock
          deleted := decide (callbackId ∈ s.deleted) } } := by
  have hclock : s.module.baseClock = s.module.now := by
    rw [TimingModule.baseClock, hidle]
  have hmem : callbackId ∈ s.module.pending := hpending ▸ List.mem_cons_self
  obtain ⟨huncalled, timer, htimer, hid, himmediate, htime⟩ := h.waiting callbackId hmem
  have hnodup := hpending ▸ h.once
  have hother {t : RSkJsTimer} (hkept : s.IsKept t) : t.callbackId_ ∉ [callbackId] := by
    intro heq
    exact h.ne_of_isKept hkept hmem (List.mem_singleton.mp heq)
  refine h.call ?_ rfl rfl rfl rfl ?_ ?_ ?_ ?_ ?_
  · refine h.honoured.call (List.nodup_singleton _) ?_ ?_
    · intro callbackId' hmem'
      obtain rfl := List.mem_singleton.mp hmem'
      exact ⟨timer, htimer, hid, himmediate.isDue (hclock ▸ htime), fun _ => himmediate⟩
    · intro callbackId' hmem' call hcall hcalled
      obtain rfl := List.mem_singleton.mp hmem'
      exact absurd ⟨call, hcall, hcalled⟩ huncalled
  · exact h.serves.congr rfl (Nat.le_refl _) (Int.le_refl _) fun _ ht => .inl ht
  · exact fun t ht hnot => ⟨hnot, hother (h.kept t ht)⟩
  · exact fun t heq => ⟨hother (h.makes t heq).kept, (h.makes t heq).object⟩
  · rw [hpending]
    exact List.sublist_cons_self _ _
  · intro callbackId' hmem' heq
    obtain rfl := List.mem_singleton.mp heq
    exact (List.nodup_cons.mp hnodup).1 hmem'

/-- The first loop of `timerDidFire`. -/
theorem Timely.listExpired (h : s.Timely) (hdistinct : s.module.Distinct) {now : Int}
    (hfired : s.module.firing = .fired now) {called : List (List ℚ)} :
    Timely { s with
      module := { s.module with
        called := called
        firing := .calling now (listTimers now s.module.jsTimers_).2
          (listTimers now s.module.jsTimers_).1 }
      calls := s.calls ++
        ((listTimers now s.module.jsTimers_).1.map RSkJsTimer.callbackId_).map fun callbackId =>
          { callbackId := callbackId
            time := s.module.baseClock
            deleted := decide (callbackId ∈ s.deleted) } } := by
  have hclock : s.module.baseClock = now := by
    rw [TimingModule.baseClock, hfired]
  have hserve : s.module.toServe = [] := by
    rw [TimingModule.toServe, hfired]
  have hperm := perm_listTimers now s.module.jsTimers_
  have hids : ((listTimers now s.module.jsTimers_).1.map RSkJsTimer.callbackId_).Nodup :=
    (hperm.map _).nodup_iff.mpr (hdistinct.timers.ids.sublist (List.filter_sublist.map _))
  have hobjects : ((listTimers now s.module.jsTimers_).1.map RSkJsTimer.object).Nodup :=
    (hperm.map _).nodup_iff.mpr (hdistinct.timers.objects.sublist (List.filter_sublist.map _))
  have hmem {callbackId : ℚ}
      (hcalled : callbackId ∈ (listTimers now s.module.jsTimers_).1.map RSkJsTimer.callbackId_) :
      ∃ t ∈ s.module.jsTimers_, t.callbackId_ = callbackId ∧ t.target_ ≤ now ∧
        t ∈ (listTimers now s.module.jsTimers_).1 := by
    obtain ⟨t, ht, hid⟩ := List.mem_map.mp hcalled
    obtain ⟨hmap, htarget⟩ := mem_listTimers.mp ht
    exact ⟨t, hmap, hid, htarget, ht⟩
  refine h.call ?_ rfl rfl rfl ?_ ?_ ?_ ?_ (List.Sublist.refl _) ?_
  · rw [hclock]
    refine h.honoured.call hids ?_ ?_
    · intro callbackId hcalled
      obtain ⟨t, ht, rfl, htarget, -⟩ := hmem hcalled
      obtain ⟨⟨timer, htimer, hkeeps⟩, hdeleted⟩ := h.kept t ht
      exact ⟨timer, htimer, hkeeps.callbackId, hkeeps.due.mono htarget, fun h => absurd h hdeleted⟩
    · intro callbackId hcalled call hcall heq
      obtain ⟨t, ht, rfl, htarget, -⟩ := hmem hcalled
      obtain ⟨⟨timer, htimer, hkeeps⟩, -⟩ := h.kept t ht
      obtain ⟨hrepeats, hle⟩ := h.calm t ht (hserve ▸ List.not_mem_nil) call hcall heq
      refine ⟨timer, htimer, hkeeps.callbackId, hkeeps.repeats.trans hrepeats, ?_⟩
      rw [hkeeps.duration]
      exact hle.trans htarget
  · exact hclock.symm
  · refine ⟨hobjects, ?_, ?_, ?_⟩
    · exact fun u hu => hdistinct.timers.allocated u (mem_listTimers.mp hu).1
    · exact fun u hu => (mem_listTimers.mp hu).2
    · intro u hu t ht heq
      exact List.inj_on_of_nodup_map hdistinct.timers.objects ht (mem_listTimers.mp hu).1 heq
  · intro t ht hnot
    refine ⟨hserve ▸ List.not_mem_nil, fun hcalled => hnot ?_⟩
    obtain ⟨u, hu, heq, -, hlisted⟩ := hmem hcalled
    obtain rfl := List.inj_on_of_nodup_map hdistinct.timers.ids hu ht heq
    exact hlisted
  · intro t heq
    refine ⟨fun hcalled => ?_, ?_⟩
    · obtain ⟨u, hu, heq', -⟩ := hmem hcalled
      exact (h.makes t heq).id u hu heq'
    · exact fun u hu => (hdistinct.inserting t heq).2 u (mem_listTimers.mp hu).1
  · intro callbackId hpending hcalled
    obtain ⟨t, ht, heq, -⟩ := hmem hcalled
    exact h.ne_of_isKept (h.kept t ht) hpending heq

/-- A turn of its second loop. -/
theorem Timely.updateExpired (h : s.Timely) {now next : Int} {x : RSkJsTimer}
    {rest : List RSkJsTimer} (hcalling : s.module.firing = .calling now next (x :: rest))
    (hheld : ∃ t ∈ s.module.jsTimers_, t.object = x.object) :
    Timely { s with module := s.module.updateExpired now next x rest } := by
  have hclock : s.module.baseClock = now := by
    rw [TimingModule.baseClock, hcalling]
  have hserve : s.module.toServe = x :: rest := by
    rw [TimingModule.toServe, hcalling]
  obtain ⟨hobjects, hallocated, hexpired, hsame⟩ := h.serves
  rw [hserve, List.map_cons, List.nodup_cons] at hobjects
  rw [hserve] at hallocated hsame
  have hx : x ∈ s.module.jsTimers_ := by
    obtain ⟨t, ht, heq⟩ := hheld
    exact hsame x List.mem_cons_self t ht heq ▸ ht
  have hcalm {t : RSkJsTimer} (ht : t ∈ s.module.jsTimers_) (hne : t ≠ x) (hnot : t ∉ rest) :
      s.IsCalm t := by
    apply h.calm t ht
    rw [hserve]
    exact List.not_mem_cons_of_ne_of_not_mem hne hnot
  have hserves {module : TimingModule} (hrest : module.toServe = rest)
      (hsame' : ∀ u ∈ rest, ∀ t ∈ module.jsTimers_, t.object = u.object → t = u)
      (hall : module.allocated = s.module.allocated) (hbase : module.baseClock = now) :
      Serves { s with module := module } := by
    refine ⟨?_, ?_, ?_, ?_⟩
    · exact hrest ▸ hobjects.2
    · exact fun u hu => hall ▸ hallocated u (List.mem_cons_of_mem _ (hrest ▸ hu))
    · intro u hu
      have hmem : u ∈ s.module.toServe := hserve ▸ List.mem_cons_of_mem _ (hrest ▸ hu)
      exact (hexpired u hmem).trans_eq (hclock.trans hbase.symm)
    · exact fun u hu => hsame' u (hrest ▸ hu)
  have hpast : ∀ call ∈ s.calls, call.time ≤ now := hclock ▸ h.past
  have hnow : now ≤ s.module.now := hclock ▸ h.clock
  unfold TimingModule.updateExpired
  by_cases hrepeats : x.repeats_ = true
  · rw [if_pos hrepeats]
    have hdue : x.target_ ≤ now := hclock ▸ hexpired x (hserve ▸ List.mem_cons_self)
    have htarget : x.target_ ≤ now + (wholeMilliseconds x.duration_ : Int) := by omega
    have hmem {t : RSkJsTimer} (ht : t ∈ s.module.jsTimers_.map fun t =>
        if t.object = x.object then { t with target_ := now + wholeMilliseconds x.duration_ }
        else t) :
        t = { x with target_ := now + wholeMilliseconds x.duration_ } ∨
          t ∈ s.module.jsTimers_ ∧ t.object ≠ x.object := by
      obtain ⟨u, hu, heq⟩ := List.mem_map.mp ht
      split at heq
      · rename_i hobject
        obtain rfl := hsame x List.mem_cons_self u hu hobject
        exact .inl heq.symm
      · rename_i hobject
        exact .inr (heq ▸ ⟨hu, hobject⟩)
    refine ⟨⟨h.honoured.ids, h.honoured.due, h.honoured.apart⟩, hnow, hpast, ?_, ?_, ?_, ?_,
      h.once, h.waiting⟩
    · intro t ht
      rcases hmem ht with rfl | ⟨ht, -⟩
      · obtain ⟨⟨timer, htimer, hkeeps⟩, hdeleted⟩ := h.kept x hx
        refine ⟨⟨timer, htimer, ?_⟩, hdeleted⟩
        exact ⟨hkeeps.callbackId, hkeeps.repeats, hkeeps.duration, hkeeps.map,
          hkeeps.due.mono htarget⟩
      · exact h.kept t ht
    · intro t ht hnot
      rcases hmem ht with rfl | ⟨ht, hobject⟩
      · intro call hcall _
        exact ⟨hrepeats, Int.add_le_add_right (hpast call hcall) _⟩
      · exact hcalm ht (fun heq => hobject (heq ▸ rfl)) hnot
    · refine hserves rfl ?_ rfl rfl
      intro u hu t ht heq
      rcases hmem ht with rfl | ⟨ht, -⟩
      · exact absurd (List.mem_map.mpr ⟨u, hu, heq.symm⟩) hobjects.1
      · exact hsame u (List.mem_cons_of_mem _ hu) t ht heq
    · intro t heq
      have hmakes := h.makes t heq
      refine ⟨hmakes.kept, hmakes.uncalled, ?_, ?_⟩
      · exact fun u hu => hmakes.object u (hserve ▸ List.mem_cons_of_mem _ hu)
      · intro u hu
        rcases hmem hu with rfl | ⟨hu, -⟩
        · exact hmakes.id x hx
        · exact hmakes.id u hu
  · rw [if_neg hrepeats]
    have hsub := (eraseTimer_sublist x.callbackId_ s.module.jsTimers_).subset
    refine ⟨⟨h.honoured.ids, h.honoured.due, h.honoured.apart⟩, hnow, hpast, ?_, ?_, ?_, ?_,
      h.once, h.waiting⟩
    · exact fun t ht => h.kept t (hsub ht)
    · intro t ht hnot
      refine hcalm (hsub ht) ?_ hnot
      rintro rfl
      exact of_decide_eq_true (List.mem_filter.mp ht).2 rfl
    · refine hserves rfl ?_ rfl rfl
      exact fun u hu t ht => hsame u (List.mem_cons_of_mem _ hu) t (hsub ht)
    · intro t heq
      have hmakes := h.makes t heq
      refine ⟨hmakes.kept, hmakes.uncalled, ?_, ?_⟩
      · exact fun u hu => hmakes.object u (hserve ▸ List.mem_cons_of_mem _ hu)
      · exact fun u hu => hmakes.id u (hsub hu)

/-- A closure of the event loop. -/
theorem Timely.runTask (h : s.Timely) (hidle : s.module.firing = .idle) {timer : Timer}
    {task : TimerTask} {tasks : List TimerTask} (htimer : s.module.timer_ = some timer)
    (htasks : timer.tasks = task :: tasks) :
    (s.record .runTask (s.module.runTask timer task tasks)).Timely := by
  have hclock : s.module.baseClock = s.module.now := by
    rw [TimingModule.baseClock, hidle]
  have hserve : s.module.toServe = [] := by
    rw [TimingModule.toServe, hidle]
  have hpending := TimingModule.pending_some htimer
  have hrest : ({ timer with tasks := tasks }.runTask s.module.now task).tasks = tasks :=
    (Timer.runTask_frame _ _ _).2.2.2
  rw [htasks] at hpending
  have hquiet (hnone : task.argument? = none) {module : TimingModule}
      (htimer' : module.timer_ =
        some ({ timer with tasks := tasks }.runTask s.module.now task)) :
      module.pending.Sublist s.module.pending := by
    rw [TimingModule.pending_some htimer', hrest, hpending, List.filterMap_cons_none hnone]
  cases task with
  | function callbackId =>
    rw [TimingLog.record, TimingModule.newCalls_append [[callbackId]] rfl]
    simp only [TimingOp.makes, TimingOp.deletes, List.append_nil, TimingModule.runTask]
    refine h.callImmediately hidle ?_
    rw [hpending, hrest]
    rfl
  | scheduleTimerTimeout call =>
    refine Timely.record ?_ rfl rfl rfl
    exact h.congr rfl rfl hserve.symm (.inl rfl) (hquiet rfl rfl) (Int.le_refl _) hclock.le
      (Int.le_refl _)
  | startTimeout call =>
    refine Timely.record ?_ rfl rfl rfl
    exact h.congr rfl rfl rfl (.inl rfl) (hquiet rfl rfl) (Int.le_refl _) (Int.le_refl _) h.clock
  | rescheduleTimeout call =>
    refine Timely.record ?_ rfl rfl rfl
    exact h.congr rfl rfl rfl (.inl rfl) (hquiet rfl rfl) (Int.le_refl _) (Int.le_refl _) h.clock
  | repeatTimeout call targetDuration =>
    refine Timely.record ?_ rfl rfl rfl
    exact h.congr rfl rfl rfl (.inl rfl) (hquiet rfl rfl) (Int.le_refl _) (Int.le_refl _) h.clock
  | cancelAll =>
    refine Timely.record ?_ rfl rfl rfl
    exact h.congr rfl rfl rfl (.inl rfl) (hquiet rfl rfl) (Int.le_refl _) (Int.le_refl _) h.clock

theorem Timely.tick (h : s.Timely) (milliseconds : Nat) :
    Timely { s with module := { s.module with now := s.module.now + milliseconds } } := by
  have hnow : s.module.now ≤ s.module.now + milliseconds := by omega
  have hclock := h.clock
  refine h.congr rfl rfl rfl (.inl rfl) (List.Sublist.refl _) hnow ?_ ?_
  · unfold TimingModule.baseClock
    cases s.module.firing with
    | idle => exact hnow
    | fired now => exact Int.le_refl _
    | calling now next rest => exact Int.le_refl _
  · unfold TimingModule.baseClock at hclock ⊢
    revert hclock
    cases s.module.firing with
    | idle => exact fun _ => Int.le_refl _
    | fired now => exact fun hclock => Int.le_trans hclock hnow
    | calling now next rest => exact fun hclock => Int.le_trans hclock hnow

/-- The end of `timerDidFire`. -/
theorem Timely.rearm (h : s.Timely) {now next : Int}
    (hcalling : s.module.firing = .calling now next []) {loop : Option Timer}
    (hpending : TimingModule.pending { s.module with timer_ := loop } = s.module.pending) :
    Timely { s with module := { s.module with timer_ := loop, firing := .idle } } := by
  have hserve : s.module.toServe = [] := by
    rw [TimingModule.toServe, hcalling]
  refine h.congr rfl rfl hserve.symm (.inl rfl) ?_ (Int.le_refl _) h.clock (Int.le_refl _)
  exact hpending ▸ List.Sublist.refl s.module.pending

theorem Timely.exec (h : s.Timely) (hdistinct : s.module.Distinct) (hfresh : op.TakesFreshId s)
    (hstep : timingLogStep s op s') : s'.Timely := by
  obtain ⟨module, hexec, rfl⟩ := Option.map_eq_some_iff.mp hstep
  unfold TimingOp.exec at hexec
  cases op with
  | tick milliseconds =>
    obtain rfl := Option.some.inj hexec
    refine Timely.record ?_ rfl rfl rfl
    exact h.tick milliseconds
  | createTimer callbackId duration jsSchedulingTime repeats =>
    obtain ⟨hidle, hexec⟩ := Option.ite_none_right_eq_some.mp hexec
    obtain rfl := Option.some.inj hexec
    exact h.createTimer hidle hfresh.1 hfresh.2
  | insert =>
    cases hjs : s.module.js with
    | inserting t =>
      simp only [hjs] at hexec
      obtain rfl := Option.some.inj hexec
      refine Timely.record ?_ rfl rfl rfl
      exact h.insert hjs
    | idle => simp [hjs] at hexec
    | erased => simp [hjs] at hexec
    | deleting => simp [hjs] at hexec
  | deleteTimer timerId =>
    obtain ⟨-, hexec⟩ := Option.ite_none_right_eq_some.mp hexec
    obtain rfl := Option.some.inj hexec
    have hcalls : s.module.newCalls { s.module with
        jsTimers_ := eraseTimer timerId s.module.jsTimers_, js := .erased } = [] :=
      TimingModule.newCalls_eq rfl
    rw [TimingLog.record, hcalls, List.map_nil, List.append_nil]
    simp only [TimingOp.makes, TimingOp.deletes, List.append_nil]
    exact h.deleteTimer timerId
  | abortIfEmpty =>
    obtain ⟨-, hexec⟩ := Option.ite_none_right_eq_some.mp hexec
    split at hexec
    · obtain ⟨timer, htimer, rfl⟩ := Option.map_eq_some_iff.mp hexec
      refine Timely.record ?_ rfl rfl rfl
      refine h.congr rfl rfl rfl (.inr fun _ heq => nomatch heq) ?_ (Int.le_refl _)
        (Int.le_refl _) h.clock
      rw [TimingModule.pending_some htimer, TimingModule.pending_some rfl, Timer.pending_abort]
    · obtain rfl := Option.some.inj hexec
      refine Timely.record ?_ rfl rfl rfl
      exact h.congr rfl rfl rfl (.inr fun _ heq => nomatch heq) (List.Sublist.refl _)
        (Int.le_refl _) (Int.le_refl _) h.clock
  | deleted =>
    obtain ⟨-, hexec⟩ := Option.ite_none_right_eq_some.mp hexec
    obtain rfl := Option.some.inj hexec
    refine Timely.record ?_ rfl rfl rfl
    exact h.congr rfl rfl rfl (.inr fun _ heq => nomatch heq) (List.nil_sublist _)
      (Int.le_refl _) (Int.le_refl _) h.clock
  | runTask =>
    obtain ⟨hidle, hexec⟩ := Option.ite_none_right_eq_some.mp hexec
    split at hexec
    · rename_i timer htimer
      split at hexec
      · cases hexec
      · rename_i task tasks htasks
        obtain rfl := Option.some.inj hexec
        exact h.runTask hidle htimer htasks
    · cases hexec
  | timeoutExpired =>
    obtain ⟨hidle, hexec⟩ := Option.ite_none_right_eq_some.mp hexec
    split at hexec
    · rename_i timer htimer
      obtain ⟨-, hexec⟩ := Option.ite_none_right_eq_some.mp hexec
      obtain rfl := Option.some.inj hexec
      refine Timely.record ?_ rfl rfl rfl
      have hclock : s.module.baseClock = s.module.now := by
        rw [TimingModule.baseClock, hidle]
      have hserve : s.module.toServe = [] := by
        rw [TimingModule.toServe, hidle]
      refine h.congr rfl rfl ?_ (.inl rfl) ?_ (Int.le_refl _) ?_ ?_
      · rw [hserve, TimingModule.toServe]
        cases timer.timerCallback_ <;> rfl
      · rw [TimingModule.pending_some htimer, TimingModule.pending_some rfl]
        rfl
      · rw [hclock, TimingModule.baseClock]
        cases timer.timerCallback_ <;> exact Int.le_refl _
      · rw [TimingModule.baseClock]
        cases timer.timerCallback_ <;> exact Int.le_refl _
    · cases hexec
  | listExpired =>
    cases hfiring : s.module.firing with
    | fired now =>
      simp only [hfiring] at hexec
      obtain rfl := Option.some.inj hexec
      have hcalls : s.module.newCalls (s.module.listExpired now) =
          (listTimers now s.module.jsTimers_).1.map RSkJsTimer.callbackId_ := by
        unfold TimingModule.listExpired
        dsimp only
        split
        · rename_i hnone
          rw [hnone]
          exact TimingModule.newCalls_eq rfl
        · exact (TimingModule.newCalls_append _ rfl).trans List.flatten_singleton
      rw [TimingLog.record, hcalls]
      simp only [TimingOp.makes, TimingOp.deletes, List.append_nil]
      exact h.listExpired hdistinct hfiring
    | idle => simp [hfiring] at hexec
    | calling now next rest => simp [hfiring] at hexec
  | updateExpired =>
    cases hfiring : s.module.firing with
    | calling now next rest =>
      cases rest with
      | nil => simp [hfiring] at hexec
      | cons x rest =>
        simp only [hfiring] at hexec
        obtain ⟨hheld, hexec⟩ := Option.ite_none_right_eq_some.mp hexec
        obtain rfl := Option.some.inj hexec
        have hcalled : (s.module.updateExpired now next x rest).called = s.module.called := by
          unfold TimingModule.updateExpired
          split <;> rfl
        refine Timely.record ?_ rfl rfl hcalled
        exact h.updateExpired hfiring hheld
    | idle => simp [hfiring] at hexec
    | fired now => simp [hfiring] at hexec
  | rearm =>
    cases hfiring : s.module.firing with
    | calling now next rest =>
      cases rest with
      | cons x rest => simp [hfiring] at hexec
      | nil =>
        simp only [hfiring] at hexec
        split at hexec
        · obtain rfl := Option.some.inj hexec
          refine Timely.record ?_ rfl rfl rfl
          exact h.rearm hfiring rfl
        · obtain ⟨timer, htimer, rfl⟩ := Option.map_eq_some_iff.mp hexec
          refine Timely.record ?_ rfl rfl rfl
          refine h.rearm hfiring ?_
          rw [TimingModule.pending_some htimer, TimingModule.pending_some rfl,
            Timer.pending_reschedule]
    | idle => simp [hfiring] at hexec
    | fired now => simp [hfiring] at hexec

theorem timely_init : Timely ({} : TimingLog) where
  honoured := ⟨List.nodup_nil, fun _ h => (List.not_mem_nil h).elim, List.Pairwise.nil⟩
  clock := Int.le_refl _
  past _ h := (List.not_mem_nil h).elim
  kept _ h := (List.not_mem_nil h).elim
  calm _ h := (List.not_mem_nil h).elim
  serves := ⟨List.nodup_nil, fun _ h => (List.not_mem_nil h).elim,
    fun _ h => (List.not_mem_nil h).elim, fun _ h => (List.not_mem_nil h).elim⟩
  makes _ heq := nomatch heq
  once := List.nodup_nil
  waiting _ h := (List.not_mem_nil h).elim

end TimingLog

end

section

open DeadlineWheel TimingLog

end

end ReactNativeSkia
