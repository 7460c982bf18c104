import ReactNativeSkia.Timers.FollyTimer
import ReactNativeSkia.Misc.Run

/-!
# After an abort

What calls the callback after an `abort` should be a later call, and not before its duration has
passed. `abort` empties the slot of the callback. The closures of earlier calls stay in the queue,
where a call that fills the slot again finds them, and those that skip the slot run anyway.
-/

namespace ReactNativeSkia

/-- Nothing is lost when the duration is cut to whole milliseconds, or it was asked for in an
earlier millisecond. -/
def TimerCall.Unrounded (call : TimerCall) (now : Int) : Prop :=
  call.duration ≤ 0 ∨ (⌊call.duration⌋ : ℚ) = call.duration ∨ call.time < now

instance (call : TimerCall) (now : Int) : Decidable (call.Unrounded now) := by
  unfold TimerCall.Unrounded
  infer_instance

/-- What a closure in the queue of a timer that does not repeat is. -/
def TimerTask.Queued (now : Int) (aborts : Nat) : TimerTask → Prop
  | .scheduleTimerTimeout call => call.time ≤ now ∧ call.aborts = aborts ∧ call.duration < 1
  | .startTimeout call | .rescheduleTimeout call => call.time ≤ now ∧ call.aborts ≤ aborts
  | .repeatTimeout _ _ => False
  | .cancelAll | .function _ => True

namespace TimerSystem

variable [HHWheelTimer]

/-- Every invocation after an `abort` stems from a call made after it, and is no earlier than that
call asked for. -/
def AbortIsFinal (s : TimerSystem) : Prop :=
  ∀ i ∈ s.invocations, 0 < i.aborts →
    i.call.aborts = i.aborts ∧ (i.call.time : ℚ) + i.call.duration ≤ i.time

/-- A closure that is about to arm the timer for `duration`, with `rest` behind it. It belongs to
a call after the last `abort`, and the duration is no less than that of the call. Or what it arms
is cancelled by what is behind. -/
def ArmsFor (s : TimerSystem) (call : TimerCall) (duration : ℚ) (rest : List TimerTask) : Prop :=
  if call.aborts = s.aborts then
    0 < s.aborts → call.duration ≤ duration ∧ call.Unrounded s.now
  else .cancelAll ∈ rest

/-- The condition on the closure at the head of the queue. -/
def RunsFor (s : TimerSystem) (rest : List TimerTask) : TimerTask → Prop
  | .scheduleTimerTimeout call => 0 < s.aborts → call.Unrounded s.now
  | .startTimeout call =>
    s.timer.timerCallback_ = true → s.ArmsFor call s.timer.targetDuration_ rest
  | .rescheduleTimeout call =>
    s.timer.timerCallback_ = true → s.timer.replaces call.duration s.now = true →
      s.ArmsFor call call.duration rest
  | .repeatTimeout _ _ | .cancelAll | .function _ => True

end TimerSystem

/-- No call makes the timer repeat. -/
def TimerOp.isOnce : TimerOp → Bool
  | .reschedule _ repeats => !repeats
  | _ => true

/-- For a timer that does not repeat. No closure that skips the slot is queued at an `abort`. A
closure that arms the timer does so for its call. A timeout that is to be cancelled does not come
due first, with the slot filled again. -/
def TimerOp.KeepsAbort [HHWheelTimer] (s : TimerSystem) : TimerOp → Prop
  | .reschedule _ repeats => repeats = false
  | .abort => ∀ task ∈ s.timer.tasks, task.skipsSlot = false
  | .runTask _ => ∀ task ∈ s.timer.tasks.head?, s.RunsFor s.timer.tasks.tail task
  | .timeoutExpired _ =>
    s.timer.timerCallback_ = true →
      s.timer.armedBy.aborts = s.aborts ∨ .cancelAll ∉ s.timer.tasks
  | .tick _ | .start => True

instance [HHWheelTimer] (s : TimerSystem) (call : TimerCall) (duration : ℚ)
    (rest : List TimerTask) : Decidable (s.ArmsFor call duration rest) := by
  unfold TimerSystem.ArmsFor
  infer_instance

instance [HHWheelTimer] (s : TimerSystem) (rest : List TimerTask) (task : TimerTask) :
    Decidable (s.RunsFor rest task) := by
  cases task <;> unfold TimerSystem.RunsFor <;> infer_instance

instance [HHWheelTimer] (s : TimerSystem) (op : TimerOp) : Decidable (op.KeepsAbort s) := by
  cases op <;> unfold TimerOp.KeepsAbort <;> infer_instance

/-- A closure that arms the timer arms it for no earlier than its call asked for. -/
theorem TimerCall.Unrounded.due_le {call : TimerCall} {now : Int} (h : call.Unrounded now)
    (hnow : call.time ≤ now) {duration : ℚ} (hd : call.duration ≤ duration) :
    (call.time : ℚ) + call.duration ≤ (now + wholeMilliseconds duration : Int) := by
  have hnow' : (call.time : ℚ) ≤ now := by exact_mod_cast hnow
  have hfloor : (⌊call.duration⌋ : ℚ) ≤ wholeMilliseconds duration := by
    have : ⌊call.duration⌋ ≤ (wholeMilliseconds duration : Int) :=
      (Int.floor_le_floor hd).trans (Int.self_le_toNat _)
    exact_mod_cast this
  have hwhole : (0 : ℚ) ≤ wholeMilliseconds duration := Nat.cast_nonneg _
  push_cast
  rcases h with hneg | hint | hlt
  · linarith
  · linarith
  · have hlt' : (call.time : ℚ) + 1 ≤ now := by exact_mod_cast hlt
    have := Int.lt_floor_add_one call.duration
    linarith

theorem TimerTask.Queued.mono {task : TimerTask} {now now' : Int} {aborts : Nat}
    (h : task.Queued now aborts) (hnow : now ≤ now') : task.Queued now' aborts := by
  cases task with
  | scheduleTimerTimeout call => exact ⟨h.1.trans hnow, h.2⟩
  | startTimeout call => exact ⟨h.1.trans hnow, h.2⟩
  | rescheduleTimeout call => exact ⟨h.1.trans hnow, h.2⟩
  | repeatTimeout call targetDuration => exact h
  | cancelAll => trivial
  | function argument => trivial

theorem TimerTask.Queued.abort {task : TimerTask} {now : Int} {aborts : Nat}
    (h : task.Queued now aborts) (hslot : task.skipsSlot = false) :
    task.Queued now (aborts + 1) := by
  cases task with
  | scheduleTimerTimeout call => cases hslot
  | startTimeout call => exact ⟨h.1, h.2.trans (Nat.le_succ _)⟩
  | rescheduleTimeout call => exact ⟨h.1, h.2.trans (Nat.le_succ _)⟩
  | repeatTimeout call targetDuration => exact h
  | cancelAll => trivial
  | function argument => trivial

namespace TimerSystem

variable [HHWheelTimer]

/-- What holds besides in a run that meets the condition. -/
structure Honours (s : TimerSystem) : Prop where
  final : s.AbortIsFinal
  repeats : s.timer.repeats_ = false
  queued : ∀ task ∈ s.timer.tasks, task.Queued s.now s.aborts
  known : s.timer.armedBy.aborts ≤ s.aborts
  /-- A timeout from before the last `abort` is to be cancelled. -/
  cancelled : s.timer.deadline ≠ none → s.timer.armedBy.aborts ≠ s.aborts →
    .cancelAll ∈ s.timer.tasks
  due : ∀ due, s.timer.deadline = some due → 0 < s.aborts → s.timer.armedBy.aborts = s.aborts →
    (s.timer.armedBy.time : ℚ) + s.timer.armedBy.duration ≤ due

variable {s s' : TimerSystem} {timer : Timer} {call : TimerCall} {tasks : List TimerTask}

/-- A call of the timer that only adds closures to the queue. -/
theorem Honours.push (h : s.Honours) (hwheel : timer.wheel = s.timer.wheel)
    (harmedBy : timer.armedBy = s.timer.armedBy) (hrepeats : timer.repeats_ = false)
    (htasks : timer.tasks = s.timer.tasks ++ tasks)
    (hqueued : ∀ task ∈ tasks, task.Queued s.now s.aborts) :
    Honours { s with timer := timer } := by
  have hdeadline := Timer.deadline_congr hwheel
  refine ⟨h.final, hrepeats, ?_, ?_, ?_, ?_⟩
  · intro task hmem
    rcases List.mem_append.mp (htasks ▸ hmem) with hmem | hmem
    · exact h.queued task hmem
    · exact hqueued task hmem
  · exact harmedBy ▸ h.known
  · intro harmed hne
    simp only [hdeadline, harmedBy] at harmed hne
    exact htasks ▸ List.mem_append_left _ (h.cancelled harmed hne)
  · intro due hdue haborts heq
    simp only [hdeadline, harmedBy] at hdue heq ⊢
    exact h.due due hdue haborts heq

/-- The callback of a timer that does not repeat. -/
theorem Honours.invoke (h : s.Honours) (elapsed : ℚ)
    (hcall : 0 < s.aborts → call.aborts = s.aborts ∧ (call.time : ℚ) + call.duration ≤ s.now) :
    (s.scheduleTimerTimeout call elapsed).Honours := by
  unfold scheduleTimerTimeout
  rw [Timer.afterCallback_of_not_repeats h.repeats]
  refine ⟨?_, h.repeats, h.queued, h.known, h.cancelled, h.due⟩
  intro i hi
  dsimp only at hi
  split at hi
  · rcases List.mem_append.mp hi with hi | hi
    · exact h.final i hi
    · obtain rfl := List.mem_singleton.mp hi
      exact hcall
  · exact h.final i hi

theorem Honours.pop {task : TimerTask} (h : s.Honours) (htasks : s.timer.tasks = task :: tasks)
    (hne : task ≠ .cancelAll) : Honours { s with timer := { s.timer with tasks := tasks } } := by
  refine ⟨h.final, h.repeats, ?_, h.known, ?_, h.due⟩
  · intro other hmem
    exact h.queued other (htasks ▸ List.mem_cons_of_mem _ hmem)
  · intro harmed hold
    have hmem := h.cancelled harmed hold
    rw [htasks] at hmem
    exact (List.mem_cons.mp hmem).resolve_left hne.symm

/-- A closure arms the timer for its call. -/
theorem Honours.arm {duration : ℚ} (h : s.Honours) (htime : call.time ≤ s.now)
    (hknown : call.aborts ≤ s.aborts) (harms : s.ArmsFor call duration timer.tasks)
    (hdeadline : timer.deadline = some (s.now + wholeMilliseconds duration))
    (harmedBy : timer.armedBy = call) (hrepeats : timer.repeats_ = false)
    (hqueued : ∀ task ∈ timer.tasks, task.Queued s.now s.aborts) :
    Honours { s with timer := timer } := by
  unfold ArmsFor at harms
  refine ⟨h.final, hrepeats, hqueued, harmedBy ▸ hknown, ?_, ?_⟩
  · intro _ hne
    rw [harmedBy] at hne
    rwa [if_neg hne] at harms
  · intro due hdue haborts heq
    rw [harmedBy] at heq
    rw [if_pos heq] at harms
    obtain ⟨hd, hunrounded⟩ := harms haborts
    simp only [hdeadline, harmedBy] at hdue ⊢
    exact Option.some.inj hdue ▸ hunrounded.due_le htime hd

/-- What leaves the wheel empty. -/
theorem Honours.idle (h : s.Honours) (hdeadline : timer.deadline = none)
    (harmedBy : timer.armedBy = s.timer.armedBy) (hrepeats : timer.repeats_ = false)
    (hqueued : ∀ task ∈ timer.tasks, task.Queued s.now s.aborts) :
    Honours { s with timer := timer } := by
  refine ⟨h.final, hrepeats, hqueued, harmedBy ▸ h.known, ?_, ?_⟩
  · intro harmed
    exact absurd hdeadline harmed
  · intro due hdue
    rw [hdeadline] at hdue
    cases hdue

theorem Honours.start (h : s.Honours) :
    Honours { s with timer := s.timer.start s.now s.aborts } := by
  unfold Timer.start
  split
  · exact h
  · split
    · exact h
    · dsimp only
      split
      · rename_i hlt
        refine h.push rfl rfl h.repeats rfl ?_
        intro task hmem
        obtain rfl := List.mem_singleton.mp hmem
        exact ⟨le_rfl, rfl, hlt⟩
      · refine h.push rfl rfl h.repeats rfl ?_
        intro task hmem
        obtain rfl := List.mem_singleton.mp hmem
        exact ⟨le_rfl, le_rfl⟩

theorem Honours.reschedule (h : s.Honours) (duration : ℚ) :
    Honours { s with timer := s.timer.reschedule duration false s.now s.aborts } := by
  cases hcb : s.timer.cb_ with
  | false =>
    unfold Timer.reschedule
    rw [hcb]
    exact h
  | true =>
    by_cases hlt : duration < 1
    · rw [Timer.reschedule_of_lt hcb hlt]
      refine h.push rfl rfl rfl rfl ?_
      intro task hmem
      rcases List.mem_append.mp hmem with hmem | hmem
      · split at hmem
        · rw [List.mem_singleton.mp hmem]
          trivial
        · cases hmem
      · rw [List.mem_singleton.mp hmem]
        exact ⟨le_rfl, rfl, hlt⟩
    · rw [Timer.reschedule_of_le hcb (not_lt.mp hlt)]
      refine h.push rfl rfl rfl rfl ?_
      intro task hmem
      rw [List.mem_singleton.mp hmem]
      exact ⟨le_rfl, le_rfl⟩

section

variable [LawfulHHWheelTimer]

theorem Honours.abort (h : s.Honours)
    (hslot : ∀ task ∈ s.timer.tasks, task.skipsSlot = false) :
    Honours { s with timer := s.timer.abort, aborts := s.aborts + 1 } := by
  have hqueued : ∀ task ∈ s.timer.tasks, task.Queued s.now (s.aborts + 1) := by
    intro task hmem
    exact (h.queued task hmem).abort (hslot task hmem)
  have hold := h.known
  unfold Timer.abort
  rw [Timer.isScheduled_eq]
  split
  · refine ⟨h.final, h.repeats, ?_, hold.trans (Nat.le_succ _), ?_, ?_⟩
    · intro task hmem
      rcases List.mem_append.mp hmem with hmem | hmem
      · exact hqueued task hmem
      · rw [List.mem_singleton.mp hmem]
        trivial
    · exact fun _ _ => List.mem_append_right _ List.mem_cons_self
    · intro due _ _ (heq : s.timer.armedBy.aborts = s.aborts + 1)
      omega
  · rename_i hidle
    have hidle : s.timer.deadline = none := by simpa using hidle
    refine ⟨h.final, h.repeats, hqueued, hold.trans (Nat.le_succ _), ?_, ?_⟩
    · exact fun harmed => absurd hidle harmed
    · intro due hdue
      exact absurd (hidle ▸ hdue) (by simp)

theorem Honours.timeoutExpired (h : s.Honours) (elapsed : ℚ) (hdue : s.timer.isDue s.now = true)
    (hslot : s.timer.timerCallback_ = true →
      s.timer.armedBy.aborts = s.aborts ∨ .cancelAll ∉ s.timer.tasks) :
    (s.timeoutExpired elapsed).Honours := by
  obtain ⟨due, hdeadline, hle⟩ := (Timer.isDue_iff _ _).mp hdue
  have hexpired : Honours { s with timer := s.timer.expire } :=
    h.idle (LawfulHHWheelTimer.deadline_expire _) rfl h.repeats h.queued
  unfold TimerSystem.timeoutExpired
  dsimp only
  split
  · rename_i hfilled
    refine hexpired.invoke elapsed fun haborts => ?_
    have heq : s.timer.armedBy.aborts = s.aborts := by
      by_contra hne
      have hmem := h.cancelled (by rw [hdeadline]; exact Option.some_ne_none due) hne
      exact (hslot hfilled).elim hne fun hnot => hnot hmem
    have htime := h.due due hdeadline haborts heq
    have hle' : (due : ℚ) ≤ s.now := by exact_mod_cast hle
    exact ⟨heq, htime.trans hle'⟩
  · exact hexpired

theorem Honours.runTask (h : s.Honours) (elapsed : ℚ) {task : TimerTask}
    (htasks : s.timer.tasks = task :: tasks) (hruns : s.RunsFor tasks task) :
    (s.runTask elapsed task tasks).Honours := by
  have hqueued := h.queued task (htasks ▸ List.mem_cons_self)
  have hrest : ∀ other ∈ tasks, other.Queued s.now s.aborts := fun other hmem =>
    h.queued other (htasks ▸ List.mem_cons_of_mem _ hmem)
  cases task with
  | scheduleTimerTimeout call =>
    refine (h.pop htasks (by simp)).invoke elapsed ?_
    intro haborts
    obtain ⟨htime, heq, hlt⟩ := hqueued
    have hdue := (hruns haborts).due_le htime le_rfl
    have hwhole : wholeMilliseconds call.duration = 0 := by
      have : ⌊call.duration⌋ < 1 := Int.floor_lt.mpr (by exact_mod_cast hlt)
      unfold wholeMilliseconds
      omega
    rw [hwhole, Nat.cast_zero, add_zero] at hdue
    exact ⟨heq, hdue⟩
  | startTimeout call =>
    simp only [TimerSystem.runTask, Timer.runTask]
    split
    · rename_i hslot
      exact h.arm hqueued.1 hqueued.2 (hruns hslot)
        (LawfulHHWheelTimer.deadline_scheduleTimeout _ _ _) rfl h.repeats hrest
    · exact h.pop htasks (by simp)
  | rescheduleTimeout call =>
    simp only [TimerSystem.runTask, Timer.runTask]
    split
    · rename_i hslot
      obtain ⟨hslot, hreplaces⟩ := (Bool.and_eq_true _ _).mp hslot
      exact h.arm hqueued.1 hqueued.2 (hruns hslot hreplaces)
        (LawfulHHWheelTimer.deadline_scheduleTimeout _ _ _) rfl h.repeats hrest
    · exact h.pop htasks (by simp)
  | repeatTimeout call targetDuration => exact hqueued.elim
  | cancelAll => exact h.idle (LawfulHHWheelTimer.deadline_cancelAll _) rfl h.repeats hrest
  | function argument => exact h.pop htasks (by simp)

theorem Honours.exec {op : TimerOp} (h : s.Honours) (hok : op.KeepsAbort s)
    (hexec : op.exec s = some s') : s'.Honours := by
  cases op with
  | tick milliseconds =>
    obtain rfl := Option.some.inj hexec
    have hnow : s.now ≤ s.now + milliseconds := Int.le_add_of_nonneg_right (Int.natCast_nonneg _)
    exact ⟨h.final, h.repeats, fun task hmem => (h.queued task hmem).mono hnow, h.known,
      h.cancelled, h.due⟩
  | start =>
    obtain rfl := Option.some.inj hexec
    exact h.start
  | reschedule duration repeats =>
    obtain rfl : repeats = false := hok
    obtain rfl := Option.some.inj hexec
    exact h.reschedule duration
  | abort =>
    obtain rfl := Option.some.inj hexec
    exact h.abort hok
  | runTask elapsed =>
    simp only [TimerOp.exec] at hexec
    simp only [TimerOp.KeepsAbort] at hok
    split at hexec
    · cases hexec
    · rename_i task rest htasks
      obtain rfl := Option.some.inj hexec
      rw [htasks] at hok
      exact h.runTask elapsed htasks (hok task rfl)
  | timeoutExpired elapsed =>
    simp only [TimerOp.exec] at hexec
    split at hexec
    · rename_i hdue
      obtain rfl := Option.some.inj hexec
      exact h.timeoutExpired elapsed hdue hok
    · cases hexec

theorem honours_create (duration : ℚ) (autostart : Bool) (now : Int) :
    (create duration false autostart now).Honours := by
  have hidle : Honours { timer := { targetDuration_ := duration, repeats_ := false, cb_ := true },
                         now := now } := by
    refine ⟨?_, rfl, ?_, le_rfl, ?_, ?_⟩
    · intro i hi
      cases hi
    · intro task hmem
      cases hmem
    · exact fun harmed => absurd LawfulHHWheelTimer.deadline_idle harmed
    · exact fun _ _ haborts => absurd haborts (lt_irrefl 0)
  unfold create Timer.create
  cases autostart with
  | false => exact hidle
  | true => exact hidle.start

/-- In every run of a timer that does not repeat whose steps meet the condition, what calls the
callback after an `abort` is a later call, and not before its duration has passed. -/
theorem timerRun_abortIsFinal {duration : ℚ} {autostart : Bool} {now : Int}
    (hrun : Run timerStep TimerOp.KeepsAbort (create duration false autostart now) s) :
    s.AbortIsFinal := by
  have hhonours : s.Honours := by
    refine hrun.invariant (P := Honours) ?_ (honours_create duration autostart now)
    intro t op u ht hok hstep
    exact ht.exec hok hstep
  exact hhonours.final

end

end TimerSystem

section

open DeadlineWheel TimerSystem

/-- A timer is aborted when it is armed, and then rescheduled. -/
theorem timerRun_abortIsFinal_rescheduled : ∃ s : TimerSystem, s.AbortIsFinal ∧
    s.invocations = [{ call := { time := 20, duration := 30, aborts := 1 },
                       time := 50, aborts := 1 }] := by
  have hfold : ([.runTask 0, .tick 20, .abort, .reschedule 30 false, .runTask 0, .runTask 0,
      .tick 30, .timeoutExpired 0].foldlM (fun s (op : TimerOp) =>
        if op.KeepsAbort s then op.exec s else none) (create 50 false true 0)).map
          TimerSystem.invocations = some
      [{ call := { time := 20, duration := 30, aborts := 1 }, time := 50, aborts := 1 }] := by
    decide +kernel
  obtain ⟨s, hrun, hinvocations⟩ := Option.map_eq_some_iff.mp hfold
  exact ⟨s, timerRun_abortIsFinal (Run.of_checked_exec hrun), hinvocations⟩

/-- A call for less than a millisecond queues the callback itself. An `abort` comes next, and the
callback is called. -/
theorem immediate_call_outlives_abort : ¬ ∀ s : TimerSystem,
    Run timerStep (fun _ op => op.isOnce = true) (create 50 false false 0) s →
      s.AbortIsFinal := by
  intro hall
  have hfold : ([.reschedule 0 false, .abort, .runTask 0].foldlM (fun s (op : TimerOp) =>
      if op.isOnce then op.exec s else none) (create 50 false false 0)).map
        TimerSystem.invocations = some
      [{ call := { time := 0, duration := 0, aborts := 0 }, time := 0, aborts := 1 }] := by
    decide +kernel
  obtain ⟨s, hrun, hinvocations⟩ := Option.map_eq_some_iff.mp hfold
  have hfinal := hall s (Run.of_checked_exec hrun)
  have := (hfinal _ (hinvocations ▸ List.mem_cons_self) one_pos).1
  cases this

end

end ReactNativeSkia
