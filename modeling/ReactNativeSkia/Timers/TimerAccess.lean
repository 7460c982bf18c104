import ReactNativeSkia.Timers.TimingModule

/-!
# The memory of the timing module

The same two threads of `RSkTimingModule`, with each use of `timer_` and each use of a pointer in
`jsTimersToCall` (`ReactSkia/core_modules/RSkTimingModule.cpp:47-146, 170-181`) as a step of its
own. `jsTimersToCall` holds plain pointers to timers that the map owns: a pointer is the number of
the allocation, and what it points to is in the map or has been freed.
-/

namespace ReactNativeSkia

/-- Where the JS thread is in `createTimer` and `deleteTimer`. -/
inductive JsCall where
  | idle
  /-- Behind the test of `timer_ == nullptr`. -/
  | creating (callbackId duration jsSchedulingTime : ℚ) (repeats : Bool)
  /-- Before the section of `createTimerForNextFrame`. -/
  | inserting (timer : RSkJsTimer)
  /-- After the section of `deleteTimer`. -/
  | erased
  /-- At `timer_->abort()`. -/
  | aborting
  /-- In the destructor of the timer. -/
  | deleting
  deriving DecidableEq, Repr

/-- Where the event loop is in `timerDidFire`. -/
inductive FiringCall where
  | idle
  | fired (now : Int)
  /-- In the loop that fills `sortedTimers`, with the pointers it has not read yet. -/
  | naming (now nextScheduledTarget : Int) (jsTimersToCall unread : List Nat)
    (sortedTimers : List ℚ)
  /-- At `timer->repeats_` of the first pointer. -/
  | testing (now nextScheduledTarget : Int) (jsTimersToCall : List Nat)
  /-- At `timer->reschedule(now)`. -/
  | rescheduling (now nextScheduledTarget : Int) (timer : Nat) (jsTimersToCall : List Nat)
  /-- At the test of the new `target_`. -/
  | comparing (now nextScheduledTarget : Int) (timer : Nat) (jsTimersToCall : List Nat)
  /-- In the section that erases `timer->callbackId_`. -/
  | erasing (now nextScheduledTarget : Int) (timer : Nat) (jsTimersToCall : List Nat)
  /-- At `timer_->reschedule(targetDuration,false)`. -/
  | waking (nextScheduledTarget : Int)
  deriving DecidableEq, Repr

namespace JsCall

/-- The next step dereferences `timer_`. -/
def usesTimer : JsCall → Bool
  | creating _ _ _ _ | aborting => true
  | _ => false

end JsCall

namespace FiringCall

/-- The next step dereferences `timer_`. -/
def usesTimer : FiringCall → Bool
  | waking _ => true
  | _ => false

/-- The pointer that the next step dereferences. -/
def touches : FiringCall → Option Nat
  | naming _ _ _ unread _ => unread.head?
  | testing _ _ jsTimersToCall => jsTimersToCall.head?
  | rescheduling _ _ timer _ | comparing _ _ timer _ | erasing _ _ timer _ => some timer
  | idle | fired _ | waking _ => none

/-- The pointers that are still to be dereferenced. -/
def pending : FiringCall → List Nat
  | naming _ _ jsTimersToCall _ _ => jsTimersToCall
  | testing _ _ jsTimersToCall => jsTimersToCall
  | rescheduling _ _ timer jsTimersToCall | comparing _ _ timer jsTimersToCall
  | erasing _ _ timer jsTimersToCall => timer :: jsTimersToCall
  | idle | fired _ | waking _ => []

end FiringCall

structure TimerAccess [HHWheelTimer] where
  timer_ : Option Timer := none
  jsTimers_ : List RSkJsTimer := []
  js : JsCall := .idle
  firing : FiringCall := .idle
  now : Int := 0
  allocated : Nat := 0
  called : List (List ℚ) := []

inductive TimerAccessOp where
  | tick (milliseconds : Nat)
  /-- `createTimer` makes the timer if there is none. -/
  | createTimer (callbackId duration jsSchedulingTime : ℚ) (repeats : Bool)
  /-- `scheduleImmediate`, or `createTimerForNextFrame` up to its section. -/
  | useTimer
  | insert
  | deleteTimer (timerId : ℚ)
  /-- `jsTimers_.empty()`. -/
  | testEmpty
  | abort
  /-- The destructor of the timer has joined its thread. -/
  | deleted
  | runTask
  | timeoutExpired
  | listExpired
  /-- `timer->callbackId_` goes to `sortedTimers`. -/
  | name
  | callTimers
  | testRepeats
  | reschedule
  | compareTarget
  | erase
  /-- `jsTimers_.size() > 0`. -/
  | testSize
  | wake
  deriving DecidableEq, Repr

namespace TimerAccess

variable [HHWheelTimer]

/-- What a pointer points to, if it has not been freed. -/
def entry (s : TimerAccess) (object : Nat) : Option RSkJsTimer :=
  s.jsTimers_.find? fun timer => decide (timer.object = object)

/-- A closure of the event loop. `timerDidFire` takes the time first. -/
def runTask (s : TimerAccess) (timer : Timer) (task : TimerTask) (tasks : List TimerTask) :
    TimerAccess :=
  let s := { s with timer_ := some ({ timer with tasks := tasks }.runTask s.now task) }
  match task with
  | .scheduleTimerTimeout _ => { s with firing := .fired s.now }
  | .function callbackId => { s with called := s.called ++ [[callbackId]] }
  | _ => s

/-- `createTimerForNextFrame` up to its section, or `scheduleImmediate`. -/
def useTimer (s : TimerAccess) (timer : Timer) (callbackId duration jsSchedulingTime : ℚ)
    (repeats : Bool) : TimerAccess :=
  if duration = 0 ∧ repeats = false then
    { s with timer_ := some (timer.scheduleImmediate callbackId), js := .idle }
  else
    let jsSchedulingOverhead : ℚ :=
      max ((s.now - (wholeMilliseconds jsSchedulingTime : Int) : Int) : ℚ) 0
    let targetDuration := max (duration - jsSchedulingOverhead) 0
    { s with
      allocated := s.allocated + 1
      timer_ := some (timer.reschedule targetDuration false s.now 0)
      js := .inserting
        { target_ := s.now + wholeMilliseconds targetDuration
          callbackId_ := callbackId
          repeats_ := repeats
          duration_ := duration
          object := s.allocated } }

def listExpired (s : TimerAccess) (now : Int) : TimerAccess :=
  let lists := listTimers now s.jsTimers_
  let jsTimersToCall := lists.1.map RSkJsTimer.object
  { s with firing := .naming now lists.2 jsTimersToCall jsTimersToCall [] }

def callTimers (s : TimerAccess) (now nextScheduledTarget : Int) (jsTimersToCall : List Nat)
    (sortedTimers : List ℚ) : TimerAccess :=
  { s with
    called := if jsTimersToCall = [] then s.called else s.called ++ [sortedTimers]
    firing := .testing now nextScheduledTarget jsTimersToCall }

end TimerAccess

namespace TimerAccessOp

variable [HHWheelTimer]

/-- `none` if the step is not the next of its thread, and where what the code does is undefined:
a null `timer_` or a freed timer is used. -/
def exec (s : TimerAccess) : TimerAccessOp → Option TimerAccess
  | tick milliseconds => some { s with now := s.now + milliseconds }
  | createTimer callbackId duration jsSchedulingTime repeats =>
    if s.js = .idle then
      some { s with
        timer_ := some (s.timer_.getD (Timer.create duration false true false s.now))
        js := .creating callbackId duration jsSchedulingTime repeats }
    else none
  | useTimer =>
    match s.js with
    | .creating callbackId duration jsSchedulingTime repeats =>
      s.timer_.map fun timer => s.useTimer timer callbackId duration jsSchedulingTime repeats
    | _ => none
  | insert =>
    match s.js with
    | .inserting timer =>
      some { s with
        jsTimers_ := eraseTimer timer.callbackId_ s.jsTimers_ ++ [timer]
        js := .idle }
    | _ => none
  | deleteTimer timerId =>
    if s.js = .idle then some { s with jsTimers_ := eraseTimer timerId s.jsTimers_, js := .erased }
    else none
  | testEmpty =>
    if s.js = .erased then
      some { s with js := if s.jsTimers_ = [] then .aborting else .idle }
    else none
  | abort =>
    if s.js = .aborting then
      s.timer_.map fun timer => { s with timer_ := some timer.abort, js := .deleting }
    else none
  | deleted =>
    if s.js = .deleting ∧ s.firing = .idle then some { s with timer_ := none, js := .idle }
    else none
  | runTask =>
    if s.firing = .idle then
      match s.timer_ with
      | some timer =>
        match timer.tasks with
        | [] => none
        | task :: tasks => some (s.runTask timer task tasks)
      | none => none
    else none
  | timeoutExpired =>
    if s.firing = .idle then
      match s.timer_ with
      | some timer =>
        if timer.isDue s.now then
          some { s with
            timer_ := some timer.expire
            firing := if timer.timerCallback_ then .fired s.now else .idle }
        else none
      | none => none
    else none
  | listExpired =>
    match s.firing with
    | .fired now => some (s.listExpired now)
    | _ => none
  | name =>
    match s.firing with
    | .naming now next jsTimersToCall (timer :: unread) sortedTimers =>
      (s.entry timer).map fun entry =>
        { s with
          firing := .naming now next jsTimersToCall unread (sortedTimers ++ [entry.callbackId_]) }
    | _ => none
  | callTimers =>
    match s.firing with
    | .naming now next jsTimersToCall [] sortedTimers =>
      some (s.callTimers now next jsTimersToCall sortedTimers)
    | _ => none
  | testRepeats =>
    match s.firing with
    | .testing now next (timer :: jsTimersToCall) =>
      (s.entry timer).map fun entry =>
        { s with
          firing :=
            if entry.repeats_ then .rescheduling now next timer jsTimersToCall
            else .erasing now next timer jsTimersToCall }
    | _ => none
  | reschedule =>
    match s.firing with
    | .rescheduling now next timer jsTimersToCall =>
      (s.entry timer).map fun entry =>
        { s with
          jsTimers_ := s.jsTimers_.map fun t =>
            if t.object = timer then
              { t with target_ := now + wholeMilliseconds entry.duration_ }
            else t
          firing := .comparing now next timer jsTimersToCall }
    | _ => none
  | compareTarget =>
    match s.firing with
    | .comparing now next timer jsTimersToCall =>
      (s.entry timer).map fun entry =>
        { s with
          firing := .testing now (if entry.target_ < next then entry.target_ else next)
            jsTimersToCall }
    | _ => none
  | erase =>
    match s.firing with
    | .erasing now next timer jsTimersToCall =>
      (s.entry timer).map fun entry =>
        { s with
          jsTimers_ := eraseTimer entry.callbackId_ s.jsTimers_
          firing := .testing now next jsTimersToCall }
    | _ => none
  | testSize =>
    match s.firing with
    | .testing _ next [] =>
      some { s with firing := if s.jsTimers_ = [] then .idle else .waking next }
    | _ => none
  | wake =>
    match s.firing with
    | .waking next =>
      let targetDuration : ℚ := max ((next - s.now : Int) : ℚ) 0
      s.timer_.map fun timer =>
        { s with
          timer_ := some (timer.reschedule targetDuration false s.now 0)
          firing := .idle }
    | _ => none

end TimerAccessOp

def timerAccessStep [HHWheelTimer] (s : TimerAccess) (op : TimerAccessOp) (s' : TimerAccess) :
    Prop :=
  op.exec s = some s'

end ReactNativeSkia
