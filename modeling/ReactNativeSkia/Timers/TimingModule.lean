import ReactNativeSkia.Timers.FollyTimer
import Mathlib.Data.List.Sort

/-!
# The JS timers

`RSkTimingModule` (`ReactSkia/core_modules/RSkTimingModule.cpp`) keeps all JS timers in a map and
wakes up for them with one timer. The critical sections of `jsTimerList_`, the calls of that timer
and the closures of its event loop are the steps of two threads. The timer does not repeat, so that
nothing comes after `timerDidFire` in its loop. Idle events are left out, and so is a missing
`bridgeInstance_`.
-/

namespace ReactNativeSkia

/-- `object` is where the timer is allocated. -/
structure RSkJsTimer where
  target_ : Int
  callbackId_ : ℚ
  repeats_ : Bool
  duration_ : ℚ
  object : Nat
  deriving DecidableEq, Repr

/-- Where the JS thread is in `createTimer` and `deleteTimer`. -/
inductive JsThread where
  | idle
  /-- Before the section of `createTimerForNextFrame`. -/
  | inserting (timer : RSkJsTimer)
  /-- After the section of `deleteTimer`. -/
  | erased
  /-- In the destructor of the timer. -/
  | deleting
  deriving DecidableEq, Repr

/-- Where the event loop is in `timerDidFire`. -/
inductive FiringThread where
  | idle
  /-- Before the section that lists the expired timers. -/
  | fired (now : Int)
  /-- Behind it, with the timers that are still to be rescheduled or erased. -/
  | calling (now nextScheduledTarget : Int) (jsTimersToCall : List RSkJsTimer)
  deriving DecidableEq, Repr

/-- `jsTimers_` is a map from `callbackId_`, in any order. `allocated` counts the timers made so
far, and `called` are the calls of `callTimers` in JS. -/
structure TimingModule [HHWheelTimer] where
  timer_ : Option Timer := none
  jsTimers_ : List RSkJsTimer := []
  js : JsThread := .idle
  firing : FiringThread := .idle
  now : Int := 0
  allocated : Nat := 0
  called : List (List ℚ) := []

inductive TimingOp where
  | tick (milliseconds : Nat)
  | createTimer (callbackId duration jsSchedulingTime : ℚ) (repeats : Bool)
  | insert
  | deleteTimer (timerId : ℚ)
  /-- `deleteTimer` looks whether the map is empty. -/
  | abortIfEmpty
  /-- The destructor of the timer has joined its thread. -/
  | deleted
  | runTask
  | timeoutExpired
  /-- `timerDidFire` lists the expired timers, and calls them. -/
  | listExpired
  /-- `timerDidFire` reschedules or erases the next of them. -/
  | updateExpired
  /-- `timerDidFire` reschedules the timer. -/
  | rearm
  deriving DecidableEq, Repr

/-- `getFutureTime`, in a year. -/
def getFutureTime (now : Int) : Int := now + 31536000000

/-- One turn of the loop of `timerDidFire` over the map. -/
def listTimer (now : Int) (lists : List RSkJsTimer × Int) (timer : RSkJsTimer) :
    List RSkJsTimer × Int :=
  if timer.target_ ≤ now then
    (lists.1.orderedInsert (fun newItem inList => newItem.target_ ≤ inList.target_) timer, lists.2)
  else (lists.1, if timer.target_ < lists.2 then timer.target_ else lists.2)

/-- The expired timers by their targets, and the next target of the others. -/
def listTimers (now : Int) (jsTimers : List RSkJsTimer) : List RSkJsTimer × Int :=
  jsTimers.foldl (listTimer now) ([], getFutureTime now)

def eraseTimer (callbackId : ℚ) (jsTimers : List RSkJsTimer) : List RSkJsTimer :=
  jsTimers.filter fun timer => decide (timer.callbackId_ ≠ callbackId)

namespace TimingModule

variable [HHWheelTimer]

def createTimerForNextFrame (s : TimingModule) (timer : Timer) (callbackId jsDuration : ℚ)
    (jsSchedulingTime : Int) (repeats : Bool) : TimingModule :=
  let jsSchedulingOverhead : ℚ := max ((s.now - jsSchedulingTime : Int) : ℚ) 0
  let targetDuration := max (jsDuration - jsSchedulingOverhead) 0
  { s with
    allocated := s.allocated + 1
    timer_ := some (timer.reschedule targetDuration false s.now 0)
    js := .inserting
      { target_ := s.now + wholeMilliseconds targetDuration
        callbackId_ := callbackId
        repeats_ := repeats
        duration_ := jsDuration
        object := s.allocated } }

def createTimer (s : TimingModule) (callbackId duration jsSchedulingTime : ℚ) (repeats : Bool) :
    TimingModule :=
  let timer := s.timer_.getD (Timer.create duration false true false s.now)
  if duration = 0 ∧ repeats = false then
    { s with timer_ := some (timer.scheduleImmediate callbackId) }
  else
    s.createTimerForNextFrame timer callbackId duration (wholeMilliseconds jsSchedulingTime) repeats

/-- A closure of the event loop. `timerDidFire` takes the time first. -/
def runTask (s : TimingModule) (timer : Timer) (task : TimerTask) (tasks : List TimerTask) :
    TimingModule :=
  let s := { s with timer_ := some ({ timer with tasks := tasks }.runTask s.now task) }
  match task with
  | .scheduleTimerTimeout _ => { s with firing := .fired s.now }
  | .function callbackId => { s with called := s.called ++ [[callbackId]] }
  | _ => s

def listExpired (s : TimingModule) (now : Int) : TimingModule :=
  let lists := listTimers now s.jsTimers_
  { s with
    called := if lists.1 = [] then s.called else s.called ++ [lists.1.map RSkJsTimer.callbackId_]
    firing := .calling now lists.2 lists.1 }

/-- `jsTimersToCall` holds plain pointers. -/
def updateExpired (s : TimingModule) (now nextScheduledTarget : Int) (timer : RSkJsTimer)
    (jsTimersToCall : List RSkJsTimer) : TimingModule :=
  if timer.repeats_ then
    let target := now + wholeMilliseconds timer.duration_
    { s with
      jsTimers_ := s.jsTimers_.map fun t =>
        if t.object = timer.object then { t with target_ := target } else t
      firing := .calling now (if target < nextScheduledTarget then target else nextScheduledTarget)
        jsTimersToCall }
  else
    { s with
      jsTimers_ := eraseTimer timer.callbackId_ s.jsTimers_
      firing := .calling now nextScheduledTarget jsTimersToCall }

end TimingModule

namespace TimingOp

variable [HHWheelTimer]

/-- `none` if the step is not the next of its thread, and where what the code does is undefined:
if there is no timer to use, or the expired timer has been freed. -/
def exec (s : TimingModule) : TimingOp → Option TimingModule
  | tick milliseconds => some { s with now := s.now + milliseconds }
  | createTimer callbackId duration jsSchedulingTime repeats =>
    if s.js = .idle then some (s.createTimer callbackId duration jsSchedulingTime repeats) else none
  | insert =>
    match s.js with
    | .inserting timer =>
      some { s with
        jsTimers_ := eraseTimer timer.callbackId_ s.jsTimers_ ++ [timer]
        js := .idle }
    | _ => none
  | deleteTimer timerId =>
    if s.js = .idle then some { s with jsTimers_ := eraseTimer timerId s.jsTimers_, js := .erased }
    else none
  | abortIfEmpty =>
    if s.js = .erased then
      if s.jsTimers_ = [] then
        s.timer_.map fun timer => { s with timer_ := some timer.abort, js := .deleting }
      else some { s with js := .idle }
    else none
  | deleted =>
    if s.js = .deleting ∧ s.firing = .idle then some { s with timer_ := none, js := .idle }
    else none
  | runTask =>
    if s.firing = .idle then
      match s.timer_ with
      | some timer =>
        match timer.tasks with
        | [] => none
        | task :: tasks => some (s.runTask timer task tasks)
      | none => none
    else none
  | timeoutExpired =>
    if s.firing = .idle then
      match s.timer_ with
      | some timer =>
        if timer.isDue s.now then
          some { s with
            timer_ := some timer.expire
            firing := if timer.timerCallback_ then .fired s.now else .idle }
        else none
      | none => none
    else none
  | listExpired =>
    match s.firing with
    | .fired now => some (s.listExpired now)
    | _ => none
  | updateExpired =>
    match s.firing with
    | .calling now nextScheduledTarget (timer :: jsTimersToCall) =>
      if ∃ t ∈ s.jsTimers_, t.object = timer.object then
        some (s.updateExpired now nextScheduledTarget timer jsTimersToCall)
      else none
    | _ => none
  | rearm =>
    match s.firing with
    | .calling _ nextScheduledTarget [] =>
      if s.jsTimers_ = [] then some { s with firing := .idle }
      else
        let targetDuration : ℚ := max ((nextScheduledTarget - s.now : Int) : ℚ) 0
        s.timer_.map fun timer =>
          { s with
            timer_ := some (timer.reschedule targetDuration false s.now 0)
            firing := .idle }
    | _ => none

end TimingOp

def timingStep [HHWheelTimer] (s : TimingModule) (op : TimingOp) (s' : TimingModule) : Prop :=
  op.exec s = some s'

/-!
## What JS gets of its timers

JS makes and deletes timers in `RSkTimingModule`, and `callTimers` calls them. The log keeps what JS
has asked for beside the module, and the calls that it got.
-/

/-- A call of `createTimer` at `time`. `scheduled` is `jsSchedulingTime`, in whole milliseconds. -/
structure MadeTimer where
  callbackId : ℚ
  duration : ℚ
  repeats : Bool
  time : Int
  scheduled : Int
  deriving DecidableEq, Repr

namespace MadeTimer

/-- `createTimer` hands it to the event loop at once. -/
def IsImmediate (timer : MadeTimer) : Prop := timer.duration = 0 ∧ timer.repeats = false

/-- Its duration has passed at `time`, but for the millisecond that may be cut off. -/
def IsDue (timer : MadeTimer) (time : Int) : Prop :=
  ((min timer.time timer.scheduled : Int) : ℚ) + timer.duration < time + 1

end MadeTimer

/-- A timer in a call of `callTimers`. `deleted` tells whether `deleteTimer` was called for it
before. -/
structure JsTimerCall where
  callbackId : ℚ
  time : Int
  deleted : Bool
  deriving DecidableEq, Repr

structure TimingLog [HHWheelTimer] where
  module : TimingModule := {}
  made : List MadeTimer := []
  deleted : List ℚ := []
  calls : List JsTimerCall := []

section

variable [HHWheelTimer]

namespace TimingModule

/-- The time that `timerDidFire` has taken, or takes next. -/
def baseClock (s : TimingModule) : Int :=
  match s.firing with
  | .idle => s.now
  | .fired now | .calling now _ _ => now

/-- What the calls of `callTimers` between `s` and `s'` are for. -/
def newCalls (s s' : TimingModule) : List ℚ := (s'.called.drop s.called.length).flatten

end TimingModule

namespace TimingOp

def makes (now : Int) : TimingOp → List MadeTimer
  | .createTimer callbackId duration jsSchedulingTime repeats =>
    [{ callbackId := callbackId
       duration := duration
       repeats := repeats
       time := now
       scheduled := wholeMilliseconds jsSchedulingTime }]
  | _ => []

def deletes : TimingOp → List ℚ
  | .deleteTimer timerId => [timerId]
  | _ => []

/-- JS takes the ids from a counter. -/
def TakesFreshId (s : TimingLog) : TimingOp → Prop
  | .createTimer callbackId _ _ _ =>
    callbackId ∉ s.made.map MadeTimer.callbackId ∧ callbackId ∉ s.deleted
  | _ => True

instance (s : TimingLog) : ∀ op : TimingOp, Decidable (op.TakesFreshId s)
  | .createTimer _ _ _ _ => inferInstanceAs (Decidable (_ ∧ _))
  | .tick _ | .insert | .deleteTimer _ | .abortIfEmpty | .deleted | .runTask | .timeoutExpired
  | .listExpired | .updateExpired | .rearm => isTrue trivial

end TimingOp

namespace TimingLog

def record (s : TimingLog) (op : TimingOp) (module : TimingModule) : TimingLog :=
  { module := module
    made := s.made ++ op.makes s.module.now
    deleted := s.deleted ++ op.deletes
    calls := s.calls ++ (s.module.newCalls module).map fun callbackId =>
      { callbackId := callbackId
        time := s.module.baseClock
        deleted := decide (callbackId ∈ s.deleted) } }

def exec (s : TimingLog) (op : TimingOp) : Option TimingLog := (op.exec s.module).map (s.record op)

/-- What JS is promised. A call comes when its timer is due, and not after `deleteTimer`. If a timer
is called again, it repeats, and its duration lies between the calls. -/
structure Honoured (s : TimingLog) : Prop where
  ids : (s.made.map MadeTimer.callbackId).Nodup
  due : ∀ call ∈ s.calls, ∃ timer ∈ s.made, timer.callbackId = call.callbackId ∧
    timer.IsDue call.time ∧ (call.deleted = true → timer.IsImmediate)
  apart : s.calls.Pairwise fun call call' => call.callbackId = call'.callbackId →
    ∃ timer ∈ s.made, timer.callbackId = call.callbackId ∧ timer.repeats = true ∧
      call.time + (wholeMilliseconds timer.duration : Int) ≤ call'.time

end TimingLog

def timingLogStep (s : TimingLog) (op : TimingOp) (s' : TimingLog) : Prop := s.exec op = some s'

end

end ReactNativeSkia
