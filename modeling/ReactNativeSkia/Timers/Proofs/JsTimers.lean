import ReactNativeSkia.Timers.TimingModule
import ReactNativeSkia.Misc.Run

/-!
# No JS timer is forgotten

A timer in the map should be covered: the one timer that wakes up for all of them is armed for its
target or earlier, or has that queued. The closure of `reschedule` may keep a later deadline or arm
a later one, and a timer that fires while another is being made does not see that one.
-/

namespace ReactNativeSkia

/-- A closure of `reschedule` that asks for `target` or earlier. -/
def TimerTask.asksFor (target : Int) : TimerTask → Bool
  | .rescheduleTimeout call => decide (call.time + wholeMilliseconds call.duration ≤ target)
  | _ => false

/-- What calls of `reschedule` and `scheduleImmediate` queue. The callback is behind whatever
cancels. -/
def RescheduleQueue : List TimerTask → Prop
  | [] => True
  | .cancelAll :: tasks => (∃ task ∈ tasks, task.skipsSlot = true) ∧ RescheduleQueue tasks
  | .rescheduleTimeout call :: tasks => 1 ≤ call.duration ∧ RescheduleQueue tasks
  | .scheduleTimerTimeout _ :: tasks | .function _ :: tasks => RescheduleQueue tasks
  | .startTimeout _ :: _ | .repeatTimeout _ _ :: _ => False

namespace Timer

variable [HHWheelTimer]

/-- The callback is queued. Or a timeout is, or it is scheduled, for `target` or earlier, and
nothing cancels it. -/
def WakesBy (timer : Timer) (target : Int) : Prop :=
  (∃ task ∈ timer.tasks, task.skipsSlot = true) ∨
    timer.timerCallback_ = true ∧ .cancelAll ∉ timer.tasks ∧
      ((∃ task ∈ timer.tasks, task.asksFor target = true) ∨
        ∃ due ∈ timer.deadline, due ≤ target)

/-- A closure of `reschedule` finds a deadline that is early enough for its call, or arms the timer
in the millisecond of the call. Otherwise the callback is queued. -/
def RunsInTime (timer : Timer) (now : Int) : TimerTask → Prop
  | .rescheduleTimeout call =>
    timer.timerCallback_ = true → (∃ task ∈ timer.tasks, task.skipsSlot = true) ∨
      if timer.replaces call.duration now then now ≤ call.time
      else ∃ due ∈ timer.deadline, due ≤ call.time + wholeMilliseconds call.duration
  | _ => True

end Timer

namespace TimingModule

variable [HHWheelTimer]

def WakesBy (s : TimingModule) (target : Int) : Prop := ∃ timer ∈ s.timer_, timer.WakesBy target

/-- Between the calls of the two threads every timer is covered. -/
def NoneForgotten (s : TimingModule) : Prop :=
  s.js = .idle → s.firing = .idle → ∀ t ∈ s.jsTimers_, s.WakesBy t.target_

end TimingModule

/-- Closures run in time, and the expired timers are listed while no timer is being made, or while
the timer being made is covered. -/
def TimingOp.KeepsTimers [HHWheelTimer] (s : TimingModule) : TimingOp → Prop
  | .runTask =>
    ∀ timer ∈ s.timer_, ∀ task ∈ timer.tasks.head?, timer.RunsInTime s.now task
  | .listExpired =>
    match s.js with
    | .inserting t => s.WakesBy t.target_
    | _ => True
  | _ => True

section

variable [HHWheelTimer]

instance (timer : Timer) (target : Int) : Decidable (timer.WakesBy target) := by
  unfold Timer.WakesBy
  infer_instance

instance (timer : Timer) (now : Int) : ∀ task, Decidable (timer.RunsInTime now task)
  | .rescheduleTimeout _ => by unfold Timer.RunsInTime; infer_instance
  | .scheduleTimerTimeout _ | .startTimeout _ | .repeatTimeout _ _ | .cancelAll | .function _ =>
    isTrue trivial

instance (s : TimingModule) (target : Int) : Decidable (s.WakesBy target) := by
  unfold TimingModule.WakesBy
  infer_instance

instance (s : TimingModule) (op : TimingOp) : Decidable (op.KeepsTimers s) := by
  cases op <;> unfold TimingOp.KeepsTimers <;> try infer_instance
  cases s.js <;> infer_instance

end

/-! ## The queue -/

section

variable {tasks : List TimerTask} {task : TimerTask}

theorem RescheduleQueue.tail (h : RescheduleQueue (task :: tasks)) : RescheduleQueue tasks := by
  cases task with
  | cancelAll => exact h.2
  | rescheduleTimeout call => exact h.2
  | scheduleTimerTimeout call => exact h
  | function argument => exact h
  | startTimeout call => exact h.elim
  | repeatTimeout call targetDuration => exact h.elim

theorem RescheduleQueue.skips (h : RescheduleQueue tasks) (hmem : .cancelAll ∈ tasks) :
    ∃ task ∈ tasks, task.skipsSlot = true := by
  induction tasks with
  | nil => cases hmem
  | cons first tasks ih =>
    rcases List.mem_cons.mp hmem with rfl | hmem
    · obtain ⟨task, hmem, hskips⟩ := h.1
      exact ⟨task, List.mem_cons_of_mem _ hmem, hskips⟩
    · obtain ⟨task, hmem, hskips⟩ := ih h.tail hmem
      exact ⟨task, List.mem_cons_of_mem _ hmem, hskips⟩

theorem RescheduleQueue.append {added : List TimerTask} (h : RescheduleQueue tasks)
    (hadded : RescheduleQueue added) : RescheduleQueue (tasks ++ added) := by
  induction tasks with
  | nil => exact hadded
  | cons first tasks ih =>
    cases first with
    | cancelAll =>
      obtain ⟨⟨task, hmem, hskips⟩, htasks⟩ := h
      exact ⟨⟨task, List.mem_append_left _ hmem, hskips⟩, ih htasks⟩
    | rescheduleTimeout call => exact ⟨h.1, ih h.2⟩
    | scheduleTimerTimeout call => exact ih h
    | function argument => exact ih h
    | startTimeout call => exact h.elim
    | repeatTimeout call targetDuration => exact h.elim

end

/-! ## The map -/

section

variable {now : Int} {t u : RSkJsTimer} {jsTimers : List RSkJsTimer}
  {lists : List RSkJsTimer × Int}

theorem mem_of_mem_eraseTimer {callbackId : ℚ} (h : t ∈ eraseTimer callbackId jsTimers) :
    t ∈ jsTimers ∧ t.callbackId_ ≠ callbackId := by
  obtain ⟨hmem, hne⟩ := List.mem_filter.mp h
  exact ⟨hmem, of_decide_eq_true hne⟩

/-- Listed as expired, or due at the next target or later. -/
def Listed (lists : List RSkJsTimer × Int) (t : RSkJsTimer) : Prop :=
  t ∈ lists.1 ∨ lists.2 ≤ t.target_

theorem listed_listTimer (now : Int) (lists : List RSkJsTimer × Int) (t : RSkJsTimer) :
    Listed (listTimer now lists t) t := by
  unfold Listed listTimer
  split
  · exact .inl ((List.mem_orderedInsert _).mpr (.inl rfl))
  · right
    dsimp only
    split <;> omega

theorem Listed.listTimer (h : Listed lists t) : Listed (listTimer now lists u) t := by
  unfold Listed ReactNativeSkia.listTimer
  split
  · exact h.imp_left fun hmem => (List.mem_orderedInsert _).mpr (.inr hmem)
  · refine h.imp_right fun hle => ?_
    dsimp only
    split <;> omega

theorem Listed.foldl (h : t ∈ jsTimers ∨ Listed lists t) :
    Listed (jsTimers.foldl (ReactNativeSkia.listTimer now) lists) t := by
  induction jsTimers generalizing lists with
  | nil => exact h.resolve_left (by simp)
  | cons first jsTimers ih =>
    refine ih ?_
    rcases h with hmem | h
    · rcases List.mem_cons.mp hmem with rfl | hmem
      · exact .inr (listed_listTimer now lists t)
      · exact .inl hmem
    · exact .inr h.listTimer

theorem listed_listTimers (ht : t ∈ jsTimers) : Listed (listTimers now jsTimers) t :=
  Listed.foldl (.inl ht)

end

namespace Timer

section

variable [HHWheelTimer] {timer : Timer} {target target' now : Int} {duration : ℚ}
  {task : TimerTask} {tasks : List TimerTask}

/-- Closures that are added leave a timer awake, if they do not cancel it or call the callback
themselves. -/
theorem WakesBy.push {timer' : Timer} (h : timer.WakesBy target)
    (hwheel : timer'.wheel = timer.wheel) (htasks : timer'.tasks = timer.tasks ++ tasks)
    (hslot : timer.timerCallback_ = true → timer'.timerCallback_ = true)
    (hcancel : .cancelAll ∉ tasks) : timer'.WakesBy target := by
  unfold WakesBy
  rw [htasks, deadline_congr hwheel]
  rcases h with ⟨task, hmem, hskips⟩ | ⟨hset, hnot, h⟩
  · exact .inl ⟨task, List.mem_append_left _ hmem, hskips⟩
  · refine .inr ⟨hslot hset, ?_, h.imp_left ?_⟩
    · intro hmem
      exact (List.mem_append.mp hmem).elim hnot hcancel
    · rintro ⟨task, hmem, hasks⟩
      exact ⟨task, List.mem_append_left _ hmem, hasks⟩

/-! ## The calls of the timer -/

theorem cb_reschedule (hcb : timer.cb_ = true) (duration : ℚ) (now : Int) :
    (timer.reschedule duration false now 0).cb_ = true := by
  rcases lt_or_ge duration 1 with hlt | hle
  · rw [reschedule_of_lt hcb hlt]
    exact hcb
  · rw [reschedule_of_le hcb hle]
    exact hcb

theorem queue_reschedule (hcb : timer.cb_ = true) (hqueue : RescheduleQueue timer.tasks) :
    RescheduleQueue (timer.reschedule duration false now 0).tasks := by
  rcases lt_or_ge duration 1 with hlt | hle
  · rw [reschedule_of_lt hcb hlt]
    refine hqueue.append ?_
    split
    · exact ⟨⟨_, List.mem_cons_self, rfl⟩, trivial⟩
    · trivial
  · rw [reschedule_of_le hcb hle]
    exact hqueue.append ⟨hle, trivial⟩

theorem WakesBy.reschedule (h : timer.WakesBy target) (hcb : timer.cb_ = true) (duration : ℚ)
    (now : Int) : (timer.reschedule duration false now 0).WakesBy target := by
  rcases lt_or_ge duration 1 with hlt | hle
  · rw [reschedule_of_lt hcb hlt]
    exact .inl ⟨_, List.mem_append_right _ (List.mem_append_right _ List.mem_cons_self), rfl⟩
  · rw [reschedule_of_le hcb hle]
    exact h.push rfl rfl (fun _ => rfl) (by simp)

/-- A call of `reschedule` is itself covered. -/
theorem reschedule_wakesBy (hcb : timer.cb_ = true) (hqueue : RescheduleQueue timer.tasks)
    (hle : 1 ≤ duration → now + wholeMilliseconds duration ≤ target) :
    (timer.reschedule duration false now 0).WakesBy target := by
  rcases lt_or_ge duration 1 with hlt | hge
  · rw [reschedule_of_lt hcb hlt]
    exact .inl ⟨_, List.mem_append_right _ (List.mem_append_right _ List.mem_cons_self), rfl⟩
  · rw [reschedule_of_le hcb hge]
    by_cases hcancel : .cancelAll ∈ timer.tasks
    · obtain ⟨task, hmem, hskips⟩ := hqueue.skips hcancel
      exact .inl ⟨task, List.mem_append_left _ hmem, hskips⟩
    · refine .inr ⟨rfl, ?_, .inl ⟨_, List.mem_append_right _ List.mem_cons_self, ?_⟩⟩
      · simpa [Timer.push] using hcancel
      · simpa [TimerTask.asksFor] using hle hge

theorem WakesBy.expire (h : timer.WakesBy target) (hslot : timer.timerCallback_ = false) :
    timer.expire.WakesBy target := by
  rcases h with h | ⟨hset, -⟩
  · exact .inl h
  · rw [hslot] at hset
    cases hset

end

/-! ## The closures -/

section

variable [HHWheelTimer] [LawfulHHWheelTimer] {timer : Timer} {target now : Int} {task : TimerTask}
  {tasks : List TimerTask}

/-- The closure of `reschedule` keeps or arms an early deadline. -/
theorem exists_due_runTask {call : TimerCall} (hslot : timer.timerCallback_ = true)
    (hd : 1 ≤ call.duration)
    (harmed : timer.replaces call.duration now = true →
      now + wholeMilliseconds call.duration ≤ target)
    (hkept : timer.replaces call.duration now = false → ∃ due ∈ timer.deadline, due ≤ target) :
    ∃ due ∈ ({ timer with tasks := tasks }.runTask now (.rescheduleTimeout call)).deadline,
      due ≤ target := by
  have hslot' : { timer with tasks := tasks }.timerCallback_ = true := hslot
  rw [deadline_runTask hslot' call hd]
  split
  · rename_i hreplaces
    rw [← wholeMilliseconds_eq (zero_le_one.trans hd)]
    exact ⟨_, rfl, harmed hreplaces⟩
  · rename_i hreplaces
    exact hkept (Bool.eq_false_iff.mpr hreplaces)

/-- A closure that is in time leaves the timer awake, if it does not call the callback. -/
theorem WakesBy.runTask (h : timer.WakesBy target) (htasks : timer.tasks = task :: tasks)
    (hqueue : RescheduleQueue timer.tasks) (hintime : timer.RunsInTime now task)
    (hskips : task.skipsSlot = false) :
    ({ timer with tasks := tasks }.runTask now task).WakesBy target := by
  obtain ⟨-, hslot', -, htasks'⟩ := runTask_frame { timer with tasks := tasks } now task
  have hqueued : (∃ other ∈ timer.tasks, other.skipsSlot = true) →
      ({ timer with tasks := tasks }.runTask now task).WakesBy target := by
    rintro ⟨other, hmem, hother⟩
    rw [htasks] at hmem
    rcases List.mem_cons.mp hmem with rfl | hmem
    · rw [hskips] at hother
      cases hother
    · exact .inl ⟨other, htasks' ▸ hmem, hother⟩
  rcases h with h | ⟨hslot, hcancel, h⟩
  · exact hqueued h
  · rw [htasks] at hcancel hqueue h
    have hnot : .cancelAll ∉ tasks := fun hmem => hcancel (List.mem_cons_of_mem _ hmem)
    cases task with
    | scheduleTimerTimeout call => cases hskips
    | cancelAll => exact absurd List.mem_cons_self hcancel
    | startTimeout call => exact hqueue.elim
    | repeatTimeout call targetDuration => exact hqueue.elim
    | function argument =>
      refine .inr ⟨hslot, hnot, h.imp_left ?_⟩
      rintro ⟨other, hmem, hasks⟩
      rcases List.mem_cons.mp hmem with rfl | hmem
      · cases hasks
      · exact ⟨other, hmem, hasks⟩
    | rescheduleTimeout call =>
      rcases hintime hslot with hskipped | hearly
      · exact hqueued hskipped
      · have hd := hqueue.1
        refine .inr ⟨hslot'.trans hslot, htasks'.symm ▸ hnot, ?_⟩
        rcases h with ⟨other, hmem, hasks⟩ | ⟨due, hdue, hle⟩
        · rcases List.mem_cons.mp hmem with rfl | hmem
          · -- the closure that ran is the one that covered the target
            simp only [TimerTask.asksFor, decide_eq_true_eq] at hasks
            refine .inr (exists_due_runTask hslot hd ?_ ?_)
            · intro hreplaces
              rw [if_pos hreplaces] at hearly
              omega
            · intro hkept
              rw [hkept, if_neg Bool.false_ne_true] at hearly
              obtain ⟨due, hdue, hle⟩ := hearly
              exact ⟨due, hdue, hle.trans hasks⟩
          · exact .inl ⟨other, htasks'.symm ▸ hmem, hasks⟩
        · refine .inr (exists_due_runTask hslot hd ?_ fun _ => ⟨due, hdue, hle⟩)
          intro hreplaces
          have hlt := lt_of_replaces hreplaces hd hdue
          rw [wholeMilliseconds_eq (zero_le_one.trans hd)]
          omega

end

end Timer

namespace TimingModule

variable [HHWheelTimer] {s s' : TimingModule} {t : RSkJsTimer} {target : Int}

/-- What covers a timer in the map. Before the expired timers are listed nothing has to. -/
def Covers (s : TimingModule) (t : RSkJsTimer) : Prop :=
  match s.firing with
  | .idle => s.WakesBy t.target_
  | .fired _ => True
  | .calling _ nextScheduledTarget jsTimersToCall =>
    (∃ expired ∈ jsTimersToCall, expired.object = t.object ∧
      expired.callbackId_ = t.callbackId_) ∨
      nextScheduledTarget ≤ t.target_ ∨ s.WakesBy t.target_

/-- What covers a timer that is being made. -/
def CoversNew (s : TimingModule) (t : RSkJsTimer) : Prop :=
  match s.firing with
  | .fired _ => True
  | _ => s.WakesBy t.target_

/-- What holds besides in a run that meets the condition. -/
structure Wakeful (s : TimingModule) : Prop where
  cb : ∀ timer ∈ s.timer_, timer.cb_ = true
  queue : s.js ≠ .deleting → ∀ timer ∈ s.timer_, RescheduleQueue timer.tasks
  deleting : s.js = .deleting → s.jsTimers_ = []
  covers : ∀ t ∈ s.jsTimers_, s.Covers t
  coversNew : ∀ t, s.js = .inserting t → s.CoversNew t

theorem Covers.mono (h : s.Covers t) (hfiring : s'.firing = s.firing)
    (hwakes : s.WakesBy t.target_ → s'.WakesBy t.target_) : s'.Covers t := by
  unfold Covers at h ⊢
  rw [hfiring]
  cases hs : s.firing with
  | idle =>
    rw [hs] at h
    exact hwakes h
  | fired now => trivial
  | calling now nextScheduledTarget jsTimersToCall =>
    rw [hs] at h
    exact h.imp_right (Or.imp_right hwakes)

theorem CoversNew.mono (h : s.CoversNew t) (hfiring : s'.firing = s.firing)
    (hwakes : s.WakesBy t.target_ → s'.WakesBy t.target_) : s'.CoversNew t := by
  unfold CoversNew at h ⊢
  rw [hfiring]
  cases hs : s.firing with
  | idle =>
    rw [hs] at h
    exact hwakes h
  | fired now => trivial
  | calling now nextScheduledTarget jsTimersToCall =>
    rw [hs] at h
    exact hwakes h

theorem CoversNew.covers (h : s.CoversNew t) : s.Covers t := by
  unfold CoversNew at h
  unfold Covers
  cases hs : s.firing with
  | idle =>
    rw [hs] at h
    exact h
  | fired now => trivial
  | calling now nextScheduledTarget jsTimersToCall =>
    rw [hs] at h
    exact .inr (.inr h)

theorem wakesBy_iff {timer : Timer} (htimer : s.timer_ = some timer) (target : Int) :
    s.WakesBy target ↔ timer.WakesBy target := by
  unfold WakesBy
  rw [htimer]
  exact ⟨fun ⟨_, hmem, h⟩ => Option.some.inj hmem ▸ h, fun h => ⟨timer, rfl, h⟩⟩

/-! ## Steps that change the timer -/

/-- A step that leaves a timer awake that was. -/
theorem Wakeful.withTimer (h : s.Wakeful) {timer : Timer} (htimer : s'.timer_ = some timer)
    (hjsTimers : s'.jsTimers_ = s.jsTimers_) (hfiring : s'.firing = s.firing)
    (hcb : timer.cb_ = true) (hqueue : s'.js ≠ .deleting → RescheduleQueue timer.tasks)
    (hdeleting : s'.js = .deleting → s.jsTimers_ = [])
    (hwakes : s'.js ≠ .deleting → ∀ target, s.WakesBy target → timer.WakesBy target)
    (hnew : ∀ t, s'.js = .inserting t → s'.CoversNew t) : s'.Wakeful := by
  refine ⟨?_, ?_, fun hjs => hjsTimers.trans (hdeleting hjs), ?_, hnew⟩
  · intro other hmem
    obtain rfl := Option.some.inj (htimer.symm.trans hmem)
    exact hcb
  · intro hjs other hmem
    obtain rfl := Option.some.inj (htimer.symm.trans hmem)
    exact hqueue hjs
  · intro t ht
    rw [hjsTimers] at ht
    have hjs : s'.js ≠ .deleting := by
      intro hjs
      rw [hdeleting hjs] at ht
      cases ht
    exact (h.covers t ht).mono hfiring fun hw => (wakesBy_iff htimer _).mpr (hwakes hjs _ hw)

/-- Once the callback is called nothing has to be covered. -/
theorem Wakeful.fired (h : s.Wakeful) {timer : Timer} {now : Int} (htimer : s'.timer_ = some timer)
    (hjsTimers : s'.jsTimers_ = s.jsTimers_) (hjs : s'.js = s.js)
    (hfiring : s'.firing = .fired now) (hcb : timer.cb_ = true)
    (hqueue : s.js ≠ .deleting → RescheduleQueue timer.tasks) : s'.Wakeful := by
  refine ⟨?_, ?_, ?_, ?_, ?_⟩
  · intro other hmem
    obtain rfl := Option.some.inj (htimer.symm.trans hmem)
    exact hcb
  · intro hne other hmem
    obtain rfl := Option.some.inj (htimer.symm.trans hmem)
    exact hqueue (hjs ▸ hne)
  · intro hdeleting
    rw [hjsTimers]
    exact h.deleting (hjs ▸ hdeleting)
  · intro t _
    unfold Covers
    rw [hfiring]
    trivial
  · intro t _
    unfold CoversNew
    rw [hfiring]
    trivial

/-- The timer that `createTimer` uses. -/
theorem Wakeful.timer (h : s.Wakeful) (hjs : s.js = .idle) (duration : ℚ) :
    (s.timer_.getD (Timer.create duration false true false s.now)).cb_ = true ∧
      RescheduleQueue (s.timer_.getD (Timer.create duration false true false s.now)).tasks ∧
      ∀ target, s.WakesBy target →
        (s.timer_.getD (Timer.create duration false true false s.now)).WakesBy target := by
  cases htimer : s.timer_ with
  | none =>
    refine ⟨rfl, trivial, ?_⟩
    rintro target ⟨timer, hmem, -⟩
    rw [htimer] at hmem
    cases hmem
  | some timer =>
    refine ⟨h.cb timer htimer, h.queue (by simp [hjs]) timer htimer, ?_⟩
    exact fun target => (wakesBy_iff htimer target).mp

theorem Wakeful.createTimer (h : s.Wakeful) (hjs : s.js = .idle)
    (callbackId duration jsSchedulingTime : ℚ) (repeats : Bool) :
    (s.createTimer callbackId duration jsSchedulingTime repeats).Wakeful := by
  obtain ⟨hcb, hqueue, hwakes⟩ := h.timer hjs duration
  unfold TimingModule.createTimer
  generalize s.timer_.getD (Timer.create duration false true false s.now) = timer at *
  dsimp only
  split
  · refine h.withTimer rfl rfl rfl hcb (fun _ => hqueue.append trivial) (by simp [hjs]) ?_
      (by simp [hjs])
    exact fun _ target hw => (hwakes target hw).push rfl rfl id (by simp)
  · refine h.withTimer rfl rfl rfl (Timer.cb_reschedule hcb _ _)
      (fun _ => Timer.queue_reschedule hcb hqueue) (by simp [createTimerForNextFrame]) ?_ ?_
    · exact fun _ target hw => (hwakes target hw).reschedule hcb _ _
    · intro t ht
      obtain rfl := JsThread.inserting.inj ht
      unfold CoversNew
      split
      · trivial
      · exact (wakesBy_iff rfl _).mpr (Timer.reschedule_wakesBy hcb hqueue fun _ => le_rfl)

theorem Wakeful.timeoutExpired (h : s.Wakeful) (hfiring : s.firing = .idle) {timer : Timer}
    (htimer : s.timer_ = some timer) :
    Wakeful { s with
      timer_ := some timer.expire
      firing := if timer.timerCallback_ then .fired s.now else .idle } := by
  have hqueue : s.js ≠ .deleting → RescheduleQueue timer.tasks := fun hjs => h.queue hjs _ htimer
  cases hslot : timer.timerCallback_ with
  | true => exact h.fired rfl rfl rfl rfl (h.cb timer htimer) hqueue
  | false =>
    have hwakes : ∀ target, s.WakesBy target → timer.expire.WakesBy target := fun target hw =>
      ((wakesBy_iff htimer target).mp hw).expire hslot
    refine h.withTimer rfl rfl hfiring.symm (h.cb timer htimer) hqueue h.deleting
      (fun _ => hwakes) ?_
    exact fun t ht => (h.coversNew t ht).mono hfiring.symm
      fun hw => (wakesBy_iff rfl _).mpr (hwakes _ hw)

/-! ## Steps that change the map -/

theorem Wakeful.insert (h : s.Wakeful) (hjs : s.js = .inserting t) :
    Wakeful { s with jsTimers_ := eraseTimer t.callbackId_ s.jsTimers_ ++ [t], js := .idle } := by
  refine ⟨h.cb, fun _ => h.queue (by simp [hjs]), by simp, ?_, by simp⟩
  intro u hu
  rcases List.mem_append.mp hu with hu | hu
  · exact (h.covers u (mem_of_mem_eraseTimer hu).1).mono rfl id
  · rw [List.mem_singleton.mp hu]
    exact ((h.coversNew t hjs).mono rfl id).covers

theorem Wakeful.deleteTimer (h : s.Wakeful) (hjs : s.js = .idle) (timerId : ℚ) :
    Wakeful { s with jsTimers_ := eraseTimer timerId s.jsTimers_, js := .erased } := by
  refine ⟨h.cb, fun _ => h.queue (by simp [hjs]), by simp, ?_, by simp⟩
  intro u hu
  exact (h.covers u (mem_of_mem_eraseTimer hu).1).mono rfl id

/-- An empty map, or a JS thread that goes on. -/
theorem Wakeful.abort (h : s.Wakeful) (hempty : s.jsTimers_ = []) {timer : Timer}
    (htimer : s.timer_ = some timer) :
    Wakeful { s with timer_ := some timer.abort, js := .deleting } := by
  have hcb : timer.abort.cb_ = true := by
    unfold Timer.abort
    split <;> exact h.cb timer htimer
  exact h.withTimer rfl rfl rfl hcb (by simp) (fun _ => hempty) (by simp) (by simp)

theorem Wakeful.kept (h : s.Wakeful) (hjs : s.js = .erased) : Wakeful { s with js := .idle } := by
  refine ⟨h.cb, fun _ => h.queue (by simp [hjs]), by simp, ?_, by simp⟩
  exact fun u hu => (h.covers u hu).mono rfl id

theorem Wakeful.deleted (h : s.Wakeful) (hjs : s.js = .deleting) :
    Wakeful { s with timer_ := none, js := .idle } := by
  refine ⟨by simp, by simp, by simp, ?_, by simp⟩
  intro u hu
  have hempty := h.deleting hjs
  rw [show TimingModule.jsTimers_ { s with timer_ := none, js := .idle } = s.jsTimers_ from rfl,
    hempty] at hu
  cases hu

/-! ## `timerDidFire` -/

theorem Wakeful.listExpired (h : s.Wakeful)
    (hnew : ∀ t, s.js = .inserting t → s.WakesBy t.target_) (now : Int) :
    (s.listExpired now).Wakeful := by
  refine ⟨h.cb, h.queue, h.deleting, ?_, ?_⟩
  · intro t ht
    rcases listed_listTimers ht with hmem | hle
    · exact .inl ⟨t, hmem, rfl, rfl⟩
    · exact .inr (.inl hle)
  · exact hnew

theorem Wakeful.updateExpired (h : s.Wakeful) {now nextScheduledTarget : Int} {expired : RSkJsTimer}
    {jsTimersToCall : List RSkJsTimer}
    (hfiring : s.firing = .calling now nextScheduledTarget (expired :: jsTimersToCall)) :
    (s.updateExpired now nextScheduledTarget expired jsTimersToCall).Wakeful := by
  have hcovers : ∀ t ∈ s.jsTimers_, (∃ e ∈ expired :: jsTimersToCall, e.object = t.object ∧
      e.callbackId_ = t.callbackId_) ∨ nextScheduledTarget ≤ t.target_ ∨ s.WakesBy t.target_ := by
    intro t ht
    have := h.covers t ht
    unfold Covers at this
    rwa [hfiring] at this
  have hnew : ∀ t, s.js = .inserting t → s.WakesBy t.target_ := by
    intro t ht
    have := h.coversNew t ht
    unfold CoversNew at this
    rwa [hfiring] at this
  unfold TimingModule.updateExpired
  split
  · refine ⟨h.cb, h.queue, ?_, ?_, hnew⟩
    · intro hjs
      dsimp only
      rw [h.deleting hjs, List.map_nil]
    · intro t ht
      obtain ⟨u, hu, rfl⟩ := List.mem_map.mp ht
      unfold Covers
      dsimp only
      by_cases hobject : u.object = expired.object
      · rw [if_pos hobject]
        refine .inr (.inl ?_)
        dsimp only
        split <;> omega
      · rw [if_neg hobject]
        rcases hcovers u hu with ⟨e, he, heq, hid⟩ | hle | hw
        · rcases List.mem_cons.mp he with rfl | he
          · exact absurd heq.symm hobject
          · exact .inl ⟨e, he, heq, hid⟩
        · refine .inr (.inl (le_trans ?_ hle))
          split <;> omega
        · exact .inr (.inr hw)
  · refine ⟨h.cb, h.queue, ?_, ?_, hnew⟩
    · intro hjs
      dsimp only
      rw [h.deleting hjs]
      rfl
    · intro t ht
      obtain ⟨hmem, hne⟩ := mem_of_mem_eraseTimer ht
      refine (hcovers t hmem).imp_left ?_
      rintro ⟨e, he, hobject, hid⟩
      rcases List.mem_cons.mp he with rfl | he
      · exact absurd hid.symm hne
      · exact ⟨e, he, hobject, hid⟩

/-- With no expired timers left the map is empty, or the timer is rescheduled for the next
target. -/
theorem Wakeful.covers_called (h : s.Wakeful) {now nextScheduledTarget : Int}
    (hfiring : s.firing = .calling now nextScheduledTarget []) (ht : t ∈ s.jsTimers_) :
    nextScheduledTarget ≤ t.target_ ∨ s.WakesBy t.target_ := by
  have := h.covers t ht
  unfold Covers at this
  rw [hfiring] at this
  refine this.resolve_left ?_
  rintro ⟨e, he, -⟩
  cases he

theorem Wakeful.coversNew_called (h : s.Wakeful) {now nextScheduledTarget : Int}
    {jsTimersToCall : List RSkJsTimer}
    (hfiring : s.firing = .calling now nextScheduledTarget jsTimersToCall)
    (hjs : s.js = .inserting t) : s.WakesBy t.target_ := by
  have := h.coversNew t hjs
  unfold CoversNew at this
  rwa [hfiring] at this

theorem Wakeful.rest (h : s.Wakeful) {now nextScheduledTarget : Int}
    (hfiring : s.firing = .calling now nextScheduledTarget []) (hempty : s.jsTimers_ = []) :
    Wakeful { s with firing := .idle } := by
  refine ⟨h.cb, h.queue, h.deleting, ?_, fun t => h.coversNew_called hfiring⟩
  intro t ht
  rw [show TimingModule.jsTimers_ { s with firing := .idle } = s.jsTimers_ from rfl, hempty] at ht
  cases ht

theorem Wakeful.rearm (h : s.Wakeful) {now nextScheduledTarget : Int} {timer : Timer}
    (hfiring : s.firing = .calling now nextScheduledTarget []) (hne : s.jsTimers_ ≠ [])
    (htimer : s.timer_ = some timer) {targetDuration : ℚ}
    (hduration : targetDuration = max ((nextScheduledTarget - s.now : Int) : ℚ) 0) :
    Wakeful { s with
      timer_ := some (timer.reschedule targetDuration false s.now 0)
      firing := .idle } := by
  have hjs : s.js ≠ .deleting := fun hjs => hne (h.deleting hjs)
  have hcb := h.cb timer htimer
  have hqueue := h.queue hjs timer htimer
  have hwakes : ∀ target, s.WakesBy target →
      (timer.reschedule targetDuration false s.now 0).WakesBy target := fun target hw =>
    ((wakesBy_iff htimer target).mp hw).reschedule hcb _ _
  refine ⟨?_, ?_, h.deleting, ?_, ?_⟩
  · intro other hmem
    obtain rfl := Option.some.inj hmem
    exact Timer.cb_reschedule hcb _ _
  · intro _ other hmem
    obtain rfl := Option.some.inj hmem
    exact Timer.queue_reschedule hcb hqueue
  · intro t ht
    refine (wakesBy_iff rfl _).mpr ?_
    rcases h.covers_called hfiring ht with hle | hw
    · refine Timer.reschedule_wakesBy hcb hqueue fun hge => ?_
      have hnext : targetDuration = (nextScheduledTarget - s.now : Int) := by
        rw [hduration] at hge ⊢
        exact max_eq_left (le_of_not_gt fun hlt => by
          rw [max_eq_right hlt.le] at hge
          exact absurd hge (by norm_num))
      have hwhole := wholeMilliseconds_eq (zero_le_one.trans hge)
      rw [hnext, Int.floor_intCast] at hwhole
      rw [hnext]
      omega
    · exact hwakes _ hw
  · intro t ht
    exact (wakesBy_iff rfl _).mpr (hwakes _ (h.coversNew_called hfiring ht))

section

variable [LawfulHHWheelTimer]

theorem Wakeful.runTask (h : s.Wakeful) {timer : Timer}
    (htimer : s.timer_ = some timer) {task : TimerTask} {tasks : List TimerTask}
    (htasks : timer.tasks = task :: tasks) (hintime : timer.RunsInTime s.now task) :
    (s.runTask timer task tasks).Wakeful := by
  obtain ⟨hcb, -, -, htasks'⟩ := Timer.runTask_frame { timer with tasks := tasks } s.now task
  have hqueue : s.js ≠ .deleting →
      RescheduleQueue ({ timer with tasks := tasks }.runTask s.now task).tasks := by
    intro hjs
    have := h.queue hjs timer htimer
    rw [htasks] at this
    rw [htasks']
    exact this.tail
  cases hskips : task.skipsSlot with
  | true =>
    cases task with
    | scheduleTimerTimeout call =>
      exact h.fired rfl rfl rfl rfl (h.cb timer htimer) hqueue
    | _ => cases hskips
  | false =>
    have hwakes : s.js ≠ .deleting → ∀ target, s.WakesBy target →
        ({ timer with tasks := tasks }.runTask s.now task).WakesBy target := fun hjs target hw =>
      ((wakesBy_iff htimer target).mp hw).runTask htasks (h.queue hjs timer htimer) hintime hskips
    have hkeeps : ∀ s' : TimingModule,
        s'.timer_ = some ({ timer with tasks := tasks }.runTask s.now task) →
        s'.jsTimers_ = s.jsTimers_ → s'.firing = s.firing → s'.js = s.js → s'.Wakeful := by
      intro s' htimer' hjsTimers hfiring' hjs
      refine h.withTimer htimer' hjsTimers hfiring' (hcb.trans (h.cb timer htimer))
        (hjs ▸ hqueue) (hjs ▸ h.deleting) (hjs ▸ hwakes) ?_
      intro t ht
      rw [hjs] at ht
      exact (h.coversNew t ht).mono hfiring' fun hw =>
        (wakesBy_iff htimer' _).mpr (hwakes (by simp [ht]) _ hw)
    cases task with
    | scheduleTimerTimeout call => cases hskips
    | _ => exact hkeeps _ rfl rfl rfl rfl

theorem Wakeful.exec {op : TimingOp} (h : s.Wakeful) (hok : op.KeepsTimers s)
    (hexec : op.exec s = some s') : s'.Wakeful := by
  cases op with
  | tick milliseconds =>
    obtain rfl := Option.some.inj hexec
    exact ⟨h.cb, h.queue, h.deleting, fun t ht => (h.covers t ht).mono rfl id,
      fun t ht => (h.coversNew t ht).mono rfl id⟩
  | createTimer callbackId duration jsSchedulingTime repeats =>
    obtain ⟨hjs, ⟨⟩⟩ := Option.ite_none_right_eq_some.mp hexec
    exact h.createTimer hjs callbackId duration jsSchedulingTime repeats
  | insert =>
    simp only [TimingOp.exec] at hexec
    split at hexec
    · rename_i t hjs
      obtain rfl := Option.some.inj hexec
      exact h.insert hjs
    · cases hexec
  | deleteTimer timerId =>
    obtain ⟨hjs, ⟨⟩⟩ := Option.ite_none_right_eq_some.mp hexec
    exact h.deleteTimer hjs timerId
  | abortIfEmpty =>
    obtain ⟨hjs, hexec⟩ := Option.ite_none_right_eq_some.mp hexec
    split at hexec
    · rename_i hempty
      obtain ⟨timer, htimer, rfl⟩ := Option.map_eq_some_iff.mp hexec
      exact h.abort hempty htimer
    · obtain rfl := Option.some.inj hexec
      exact h.kept hjs
  | deleted =>
    obtain ⟨⟨hjs, -⟩, ⟨⟩⟩ := Option.ite_none_right_eq_some.mp hexec
    exact h.deleted hjs
  | runTask =>
    obtain ⟨-, hexec⟩ := Option.ite_none_right_eq_some.mp hexec
    split at hexec
    · rename_i timer htimer
      split at hexec
      · cases hexec
      · rename_i task tasks htasks
        obtain rfl := Option.some.inj hexec
        exact h.runTask htimer htasks (hok timer htimer task (by rw [htasks]; rfl))
    · cases hexec
  | timeoutExpired =>
    obtain ⟨hfiring, hexec⟩ := Option.ite_none_right_eq_some.mp hexec
    split at hexec
    · rename_i timer htimer
      obtain ⟨-, ⟨⟩⟩ := Option.ite_none_right_eq_some.mp hexec
      exact h.timeoutExpired hfiring htimer
    · cases hexec
  | listExpired =>
    simp only [TimingOp.exec] at hexec
    split at hexec
    · rename_i now hfiring
      obtain rfl := Option.some.inj hexec
      refine h.listExpired ?_ now
      intro t ht
      simp only [TimingOp.KeepsTimers, ht] at hok
      exact hok
    · cases hexec
  | updateExpired =>
    simp only [TimingOp.exec] at hexec
    split at hexec
    · rename_i now nextScheduledTarget expired jsTimersToCall hfiring
      obtain ⟨-, ⟨⟩⟩ := Option.ite_none_right_eq_some.mp hexec
      exact h.updateExpired hfiring
    · cases hexec
  | rearm =>
    simp only [TimingOp.exec] at hexec
    split at hexec
    · rename_i now nextScheduledTarget hfiring
      split at hexec
      · rename_i hempty
        obtain rfl := Option.some.inj hexec
        exact h.rest hfiring hempty
      · rename_i hne
        obtain ⟨timer, htimer, rfl⟩ := Option.map_eq_some_iff.mp hexec
        exact h.rearm hfiring hne htimer rfl
    · cases hexec

/-- In every run whose steps meet the condition every timer is covered between the calls. -/
theorem timingRun_noneForgotten (hrun : Run timingStep TimingOp.KeepsTimers {} s) :
    s.NoneForgotten := by
  have hwakeful : s.Wakeful := by
    refine hrun.invariant (P := Wakeful) ?_ ⟨by simp, by simp, by simp, by simp, by simp⟩
    intro t op u ht hok hstep
    exact ht.exec hok hstep
  intro _ hfiring t ht
  have := hwakeful.covers t ht
  unfold Covers at this
  rwa [hfiring] at this

end

end TimingModule

section

open DeadlineWheel TimingModule

/-- Of two timers the first fires, and the other is armed for again. -/
theorem timingRun_noneForgotten_two_timers : ∃ s : TimingModule, s.NoneForgotten ∧
    s.js = .idle ∧ s.firing = .idle ∧ s.called = [[1]] ∧ s.jsTimers_.map (·.target_) = [50] := by
  have hfold : ([.createTimer 1 30 0 false, .insert, .runTask, .createTimer 2 50 0 false, .insert,
      .runTask, .tick 30, .timeoutExpired, .listExpired, .updateExpired, .rearm].foldlM
        (fun s (op : TimingOp) => if op.KeepsTimers s then op.exec s else none) {}).map
          (fun s => ((s.js, s.firing), s.called, s.jsTimers_.map (·.target_))) =
      some ((.idle, .idle), [[1]], [50]) := by
    decide +kernel
  obtain ⟨s, hrun, hs⟩ := Option.map_eq_some_iff.mp hfold
  obtain ⟨hthreads, hrest⟩ := Prod.mk.inj hs
  obtain ⟨hjs, hfiring⟩ := Prod.mk.inj hthreads
  obtain ⟨hcalled, htargets⟩ := Prod.mk.inj hrest
  exact ⟨s, timingRun_noneForgotten (Run.of_checked_exec hrun), hjs, hfiring,
    hcalled, htargets⟩

/-- A timer for `100` milliseconds is made when the other timer is armed for `5000`. -/
theorem nearer_timer_forgotten :
    ¬ ∀ s : TimingModule, Run timingStep anyStep {} s → s.NoneForgotten := by
  intro hall
  have hfold : ([.createTimer 1 5000 0 false, .insert, .runTask, .createTimer 2 100 0 false,
      .insert, .runTask].foldlM TimingOp.exec {}).map
        (fun s => ((s.js, s.firing), decide (∃ t ∈ s.jsTimers_, ¬ s.WakesBy t.target_))) =
      some ((.idle, .idle), true) := by
    decide +kernel
  obtain ⟨s, hrun, hs⟩ := Option.map_eq_some_iff.mp hfold
  obtain ⟨hthreads, hforgotten⟩ := Prod.mk.inj hs
  obtain ⟨hjs, hfiring⟩ := Prod.mk.inj hthreads
  obtain ⟨t, ht, hnot⟩ := of_decide_eq_true hforgotten
  exact hnot (hall s (Run.of_exec hrun) hjs hfiring t ht)

end

end ReactNativeSkia
