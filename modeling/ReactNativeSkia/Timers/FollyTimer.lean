import Mathlib.Data.Rat.Floor
import Mathlib.Tactic.Linarith

/-!
# The timer

`rns::sdk::Timer` (`ReactSkia/sdk/FollyTimer.cpp`). folly is not part of this repository: the wheel
and the one callback that a timer schedules there are a parameter. The clock counts whole
milliseconds. A call of the timer and a closure of its event loop are one step each.
-/

namespace ReactNativeSkia

/-- What the timer uses of `HHWheelTimer` and of the callback in it. -/
class HHWheelTimer where
  Wheel : Type
  idle : Wheel
  /-- When the scheduled callback is due. -/
  deadline : Wheel → Option Int
  isScheduled : Wheel → Bool
  /-- In milliseconds. -/
  getTimeRemaining : Wheel → Int → Int
  scheduleTimeout : Wheel → Int → Nat → Wheel
  cancelAll : Wheel → Wheel
  /-- The callback leaves the wheel before it is called. -/
  expire : Wheel → Wheel

/-- Documented behaviour of `HHWheelTimer`. A callback that is scheduled again is due at the new
time only. -/
class LawfulHHWheelTimer [HHWheelTimer] : Prop where
  deadline_idle : HHWheelTimer.deadline HHWheelTimer.idle = none
  isScheduled_eq : ∀ wheel, HHWheelTimer.isScheduled wheel = (HHWheelTimer.deadline wheel).isSome
  getTimeRemaining_eq : ∀ wheel now due, HHWheelTimer.deadline wheel = some due →
    HHWheelTimer.getTimeRemaining wheel now = max (due - now) 0
  deadline_scheduleTimeout : ∀ wheel now timeout,
    HHWheelTimer.deadline (HHWheelTimer.scheduleTimeout wheel now timeout) = some (now + timeout)
  deadline_cancelAll : ∀ wheel, HHWheelTimer.deadline (HHWheelTimer.cancelAll wheel) = none
  deadline_expire : ∀ wheel, HHWheelTimer.deadline (HHWheelTimer.expire wheel) = none

/-- A wheel that holds nothing but the deadline. -/
@[reducible] def deadlineWheel : HHWheelTimer where
  Wheel := Option Int
  idle := none
  deadline due := due
  isScheduled := Option.isSome
  getTimeRemaining due now := due.elim 0 fun due => max (due - now) 0
  scheduleTimeout _ now timeout := some (now + timeout)
  cancelAll _ := none
  expire _ := none

namespace DeadlineWheel

scoped instance : HHWheelTimer := deadlineWheel

scoped instance : LawfulHHWheelTimer where
  deadline_idle := rfl
  isScheduled_eq _ := rfl
  getTimeRemaining_eq _ _ due h := by obtain rfl : _ = some due := h; rfl
  deadline_scheduleTimeout _ _ _ := rfl
  deadline_cancelAll _ := rfl
  deadline_expire _ := rfl

end DeadlineWheel

/-- A call of `start` or `reschedule`: when it was made, what it asked for, and how many calls of
`abort` had been made. The code keeps no more of it than the duration. -/
structure TimerCall where
  time : Int
  duration : ℚ
  aborts : Nat
  deriving DecidableEq, Repr

/-- The closures that wait in the event loop. -/
inductive TimerTask where
  /-- `timeoutCb`, queued at once. -/
  | scheduleTimerTimeout (call : TimerCall)
  /-- The closure of `start`. -/
  | startTimeout (call : TimerCall)
  /-- The closure of `reschedule`. -/
  | rescheduleTimeout (call : TimerCall)
  /-- The closure of a repeating timer. -/
  | repeatTimeout (call : TimerCall) (targetDuration : ℚ)
  | cancelAll
  /-- A function handed to `scheduleImmediate`, with its bound argument. -/
  | function (argument : ℚ)
  deriving DecidableEq, Repr

/-- `timeoutCb` itself, which does not look at the slot. -/
def TimerTask.skipsSlot : TimerTask → Bool
  | .scheduleTimerTimeout _ => true
  | _ => false

/-- `cb_` and `timerCallback_` tell whether `cb_` and `timerCallback_.cb` hold a function.
`armedBy` is the call whose closure scheduled the timeout last. -/
structure Timer [HHWheelTimer] where
  targetDuration_ : ℚ
  repeats_ : Bool
  cb_ : Bool
  timerCallback_ : Bool := false
  wheel : HHWheelTimer.Wheel := HHWheelTimer.idle
  armedBy : TimerCall := ⟨0, 0, 0⟩
  tasks : List TimerTask := []

/-- The cast to `unsigned long long`. -/
def wholeMilliseconds (duration : ℚ) : Nat := ⌊duration⌋.toNat

theorem wholeMilliseconds_eq {duration : ℚ} (h : 0 ≤ duration) :
    (wholeMilliseconds duration : Int) = ⌊duration⌋ :=
  Int.toNat_of_nonneg (Int.floor_nonneg.mpr h)

namespace Timer

section

variable [HHWheelTimer]

def deadline (timer : Timer) : Option Int := HHWheelTimer.deadline timer.wheel

def isScheduled (timer : Timer) : Bool := HHWheelTimer.isScheduled timer.wheel

/-- `count()/1000` divides integers. -/
def getTimeRemaining (timer : Timer) (now : Int) : ℚ :=
  if timer.isScheduled then ((HHWheelTimer.getTimeRemaining timer.wheel now).tdiv 1000 : Int) else 0

/-- `runInEventBaseThread`. -/
def push (timer : Timer) (task : TimerTask) : Timer := { timer with tasks := timer.tasks ++ [task] }

def scheduleImmediate (timer : Timer) (argument : ℚ) : Timer := timer.push (.function argument)

def start (timer : Timer) (now : Int) (aborts : Nat) : Timer :=
  if !timer.cb_ then timer
  else if timer.isScheduled then timer
  else
    let call : TimerCall := { time := now, duration := timer.targetDuration_, aborts := aborts }
    if timer.targetDuration_ < 1 then timer.push (.scheduleTimerTimeout call)
    else { timer with timerCallback_ := true }.push (.startTimeout call)

/-- The constructor. -/
def create (duration : ℚ) (repeats cb autostart : Bool) (now : Int) : Timer :=
  let timer : Timer := { targetDuration_ := duration, repeats_ := repeats, cb_ := cb }
  if autostart then timer.start now 0 else timer

def abort (timer : Timer) : Timer :=
  if timer.isScheduled then { timer with timerCallback_ := false }.push .cancelAll
  else { timer with timerCallback_ := false }

def reschedule (timer : Timer) (duration : ℚ) (repeats : Bool) (now : Int) (aborts : Nat) :
    Timer :=
  if !timer.cb_ then timer
  else
    let timer := { timer with repeats_ := repeats }
    let call : TimerCall := { time := now, duration := duration, aborts := aborts }
    if duration < 1 then
      (if timer.isScheduled then timer.abort else timer).push (.scheduleTimerTimeout call)
    else { timer with timerCallback_ := true }.push (.rescheduleTimeout call)

def scheduleTimeout (timer : Timer) (call : TimerCall) (duration : ℚ) (now : Int) : Timer :=
  { timer with
    wheel := HHWheelTimer.scheduleTimeout timer.wheel now (wholeMilliseconds duration)
    armedBy := call }

/-- The test in the closure of `reschedule`. -/
def replaces (timer : Timer) (duration : ℚ) (now : Int) : Bool :=
  timer.isScheduled == false || decide (duration < timer.getTimeRemaining now)

/-- What a closure does to the timer. The callback comes after that. -/
def runTask (timer : Timer) (now : Int) : TimerTask → Timer
  | .startTimeout call =>
    if timer.timerCallback_ then timer.scheduleTimeout call timer.targetDuration_ now else timer
  | .rescheduleTimeout call =>
    if timer.timerCallback_ && timer.replaces call.duration now then
      { timer.scheduleTimeout call call.duration now with targetDuration_ := call.duration }
    else timer
  | .repeatTimeout call targetDuration =>
    if timer.timerCallback_ then timer.scheduleTimeout call targetDuration now else timer
  | .cancelAll => { timer with wheel := HHWheelTimer.cancelAll timer.wheel }
  | .scheduleTimerTimeout _ | .function _ => timer

/-- `scheduleTimerTimeout` after its callback, which took `elapsed` milliseconds. -/
def afterCallback (timer : Timer) (call : TimerCall) (elapsed : ℚ) : Timer :=
  if timer.repeats_ then
    let targetDuration := max (timer.targetDuration_ - max elapsed 0) 0
    if targetDuration < 1 then timer.push (.scheduleTimerTimeout call)
    else timer.push (.repeatTimeout call targetDuration)
  else timer

/-- The scheduled timeout has come due. -/
def isDue (timer : Timer) (now : Int) : Bool := timer.deadline.any fun due => decide (due ≤ now)

def expire (timer : Timer) : Timer := { timer with wheel := HHWheelTimer.expire timer.wheel }

theorem deadline_congr {timer timer' : Timer} (hwheel : timer'.wheel = timer.wheel) :
    timer'.deadline = timer.deadline := by
  unfold deadline
  rw [hwheel]

theorem reschedule_of_le {timer : Timer} {duration : ℚ} (hcb : timer.cb_ = true)
    (hd : 1 ≤ duration) (repeats : Bool) (now : Int) (aborts : Nat) :
    timer.reschedule duration repeats now aborts =
      { timer with repeats_ := repeats, timerCallback_ := true }.push
        (.rescheduleTimeout { time := now, duration := duration, aborts := aborts }) := by
  unfold reschedule
  simp only [hcb, Bool.not_true, Bool.false_eq_true, if_false, not_lt.mpr hd]

theorem reschedule_of_lt {timer : Timer} {duration : ℚ} (hcb : timer.cb_ = true)
    (hd : duration < 1) (repeats : Bool) (now : Int) (aborts : Nat) :
    timer.reschedule duration repeats now aborts =
      { timer with
        repeats_ := repeats
        timerCallback_ := !timer.isScheduled && timer.timerCallback_
        tasks := timer.tasks ++ ((if timer.isScheduled then [.cancelAll] else []) ++
          [.scheduleTimerTimeout { time := now, duration := duration, aborts := aborts }]) } := by
  unfold reschedule
  simp only [hcb, Bool.not_true, Bool.false_eq_true, if_false, hd, if_true]
  cases h : timer.isScheduled with
  | false => simp only [isScheduled, push] at h ⊢; simp [h]
  | true => simp only [isScheduled, abort, push] at h ⊢; simp [h]

theorem isDue_iff (timer : Timer) (now : Int) :
    timer.isDue now = true ↔ ∃ due, timer.deadline = some due ∧ due ≤ now := by
  unfold isDue
  cases timer.deadline with
  | none => simp
  | some due => simp

/-- What a closure of the timer leaves as it is. -/
theorem runTask_frame (timer : Timer) (now : Int) (task : TimerTask) :
    (timer.runTask now task).cb_ = timer.cb_ ∧
      (timer.runTask now task).timerCallback_ = timer.timerCallback_ ∧
      (timer.runTask now task).repeats_ = timer.repeats_ ∧
      (timer.runTask now task).tasks = timer.tasks := by
  cases task with
  | scheduleTimerTimeout call => exact ⟨rfl, rfl, rfl, rfl⟩
  | function argument => exact ⟨rfl, rfl, rfl, rfl⟩
  | cancelAll => exact ⟨rfl, rfl, rfl, rfl⟩
  | startTimeout call => simp only [runTask]; split <;> exact ⟨rfl, rfl, rfl, rfl⟩
  | rescheduleTimeout call => simp only [runTask]; split <;> exact ⟨rfl, rfl, rfl, rfl⟩
  | repeatTimeout call targetDuration =>
    simp only [runTask]
    split <;> exact ⟨rfl, rfl, rfl, rfl⟩

theorem afterCallback_of_not_repeats {timer : Timer} (h : timer.repeats_ = false)
    (call : TimerCall) (elapsed : ℚ) : timer.afterCallback call elapsed = timer := by
  unfold afterCallback
  rw [h, if_neg Bool.false_ne_true]

section

variable [LawfulHHWheelTimer] {timer : Timer} {due now : Int}

theorem isScheduled_eq (timer : Timer) : timer.isScheduled = timer.deadline.isSome :=
  LawfulHHWheelTimer.isScheduled_eq timer.wheel

theorem getTimeRemaining_eq (h : timer.deadline = some due) (now : Int) :
    timer.getTimeRemaining now = (max (due - now) 0 / 1000 : Int) := by
  unfold getTimeRemaining
  rw [isScheduled_eq, h, Option.isSome_some, if_pos rfl,
    LawfulHHWheelTimer.getTimeRemaining_eq _ _ _ h,
    Int.tdiv_eq_ediv_of_nonneg (le_max_right _ _)]

/-- A closure replaces a deadline that is more than `1000` times its duration away. -/
theorem replaces_iff (timer : Timer) (duration : ℚ) (now : Int) :
    timer.replaces duration now = true ↔
      ∀ due, timer.deadline = some due → duration < (max (due - now) 0 / 1000 : Int) := by
  unfold replaces
  cases h : timer.deadline with
  | none => simp [isScheduled_eq, h]
  | some due =>
    rw [isScheduled_eq, h, getTimeRemaining_eq h]
    simp

/-- What replaces a deadline is earlier. -/
theorem lt_of_replaces {duration : ℚ} (hreplaces : timer.replaces duration now = true)
    (hd : 1 ≤ duration) (hdue : timer.deadline = some due) : now + ⌊duration⌋ < due := by
  have hlt : ⌊duration⌋ < max (due - now) 0 / 1000 :=
    Int.cast_lt.mp ((Int.floor_le _).trans_lt ((replaces_iff _ _ _).mp hreplaces due hdue))
  have hfloor : (1 : Int) ≤ ⌊duration⌋ := Int.le_floor.mpr (by exact_mod_cast hd)
  omega

theorem deadline_scheduleTimeout (timer : Timer) (call : TimerCall) (duration : ℚ) (now : Int) :
    (timer.scheduleTimeout call duration now).deadline =
      some (now + wholeMilliseconds duration) :=
  LawfulHHWheelTimer.deadline_scheduleTimeout _ _ _

/-- What the closure of `reschedule` leaves the timer armed for. -/
theorem deadline_runTask {timer : Timer} (hcb : timer.timerCallback_ = true) (call : TimerCall)
    (hd : 1 ≤ call.duration) (now : Int) :
    (timer.runTask now (.rescheduleTimeout call)).deadline =
      if timer.replaces call.duration now then some (now + ⌊call.duration⌋)
      else timer.deadline := by
  simp only [runTask, hcb, Bool.true_and]
  split
  · rw [← wholeMilliseconds_eq (zero_le_one.trans hd)]
    exact timer.deadline_scheduleTimeout call call.duration now
  · rfl

end

end

end Timer

/-- The callback was called for `call`, after `aborts` calls of `abort`. -/
structure TimerInvocation where
  call : TimerCall
  time : Int
  aborts : Nat
  deriving DecidableEq, Repr

/-- A timer, the clock, and what has happened: the calls of `abort` that have returned and those
of the callback. -/
structure TimerSystem [HHWheelTimer] where
  timer : Timer
  now : Int := 0
  aborts : Nat := 0
  invocations : List TimerInvocation := []

inductive TimerOp where
  | tick (milliseconds : Nat)
  | start
  | reschedule (duration : ℚ) (repeats : Bool)
  | abort
  /-- The loop runs the closure at the head of its queue. The callback takes `elapsed`
  milliseconds. -/
  | runTask (elapsed : ℚ)
  | timeoutExpired (elapsed : ℚ)
  deriving DecidableEq, Repr

section

variable [HHWheelTimer]

namespace TimerSystem

/-- `scheduleTimerTimeout`. -/
def scheduleTimerTimeout (s : TimerSystem) (call : TimerCall) (elapsed : ℚ) : TimerSystem :=
  { s with
    invocations :=
      if s.timer.cb_ then s.invocations ++ [{ call := call, time := s.now, aborts := s.aborts }]
      else s.invocations
    timer := s.timer.afterCallback call elapsed }

def runTask (s : TimerSystem) (elapsed : ℚ) (task : TimerTask) (tasks : List TimerTask) :
    TimerSystem :=
  let s := { s with timer := { s.timer with tasks := tasks }.runTask s.now task }
  match task with
  | .scheduleTimerTimeout call => s.scheduleTimerTimeout call elapsed
  | _ => s

def timeoutExpired (s : TimerSystem) (elapsed : ℚ) : TimerSystem :=
  let s := { s with timer := s.timer.expire }
  if s.timer.timerCallback_ then s.scheduleTimerTimeout s.timer.armedBy elapsed else s

end TimerSystem

namespace TimerOp

/-- `none` if there is no closure to run and no timeout due. -/
def exec (s : TimerSystem) : TimerOp → Option TimerSystem
  | tick milliseconds => some { s with now := s.now + milliseconds }
  | start => some { s with timer := s.timer.start s.now s.aborts }
  | reschedule duration repeats =>
    some { s with timer := s.timer.reschedule duration repeats s.now s.aborts }
  | abort => some { s with timer := s.timer.abort, aborts := s.aborts + 1 }
  | runTask elapsed =>
    match s.timer.tasks with
    | [] => none
    | task :: tasks => some (s.runTask elapsed task tasks)
  | timeoutExpired elapsed =>
    if s.timer.isDue s.now then some (s.timeoutExpired elapsed) else none

end TimerOp

def timerStep (s : TimerSystem) (op : TimerOp) (s' : TimerSystem) : Prop := op.exec s = some s'

/-- A timer that has just been made by the constructor. -/
def TimerSystem.create (duration : ℚ) (repeats autostart : Bool) (now : Int) : TimerSystem :=
  { timer := Timer.create duration repeats true autostart now, now := now }

end

end ReactNativeSkia
