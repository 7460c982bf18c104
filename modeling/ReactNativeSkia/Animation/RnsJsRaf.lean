import Mathlib.Algebra.Order.Ring.Rat
import Mathlib.Logic.Function.Basic

/-!
# Animation frames

`RnsJsRequestAnimation` (`ReactSkia/utils/RnsJsRaf.cpp`, `RnsJsRaf.h`): objects that ask JS for one
call in the next frame, and ask again at the end of that call. `requestAnimationFrame` queues a
call for the next frame and gives it a number from 1 on, `cancelAnimationFrame` removes a call that
has not begun. The static `previousValue` of the frame callback is the same for all objects. An
object is known by its number.
-/

namespace ReactNativeSkia

/-- `rafId_` is 0 for `Value(0)`, and before the first request. -/
structure RnsJsRequestAnimation where
  isActive_ : Bool := false
  rafId_ : Nat := 0
  deriving DecidableEq, Repr

/-- A call that `requestAnimationFrame` has queued. -/
structure QueuedCall where
  rafId : Nat
  object : Nat
  deriving DecidableEq, Repr

/-- A run of a user callback; `isActive` tells of the object at its start. -/
structure CallbackRun where
  object : Nat
  timestamp : ℚ
  isActive : Bool
  deriving DecidableEq, Repr

/-- A frame that is delivered: the calls that have not begun and the object whose callback is
running. The rest is what the frame is judged by: the active objects at its start and the frame
each object was called in before, the objects whose call has begun, those stopped before that,
and those whose callback has run. -/
structure AnimationFrame where
  timestamp : ℚ
  calls : List QueuedCall
  callback : Option Nat := none
  wasActive : Nat → Bool
  previousFrame : Nat → Option ℚ
  begun : List Nat := []
  stopped : List Nat := []
  ran : List Nat := []

/-- `queue` are the calls for the next frame. `lastFrame` is the last frame an object was called
in; `called` and `frames` tell of the whole run. -/
structure AnimationLoop where
  objects : Nat → RnsJsRequestAnimation := fun _ => {}
  previousValue : Option ℚ := none
  queue : List QueuedCall := []
  nextRafId : Nat := 1
  frame : Option AnimationFrame := none
  lastTimestamp : Option ℚ := none
  lastFrame : Nat → Option ℚ := fun _ => none
  called : List CallbackRun := []
  frames : List AnimationFrame := []

inductive AnimationOp where
  /-- `start()`, from anywhere. -/
  | start (object : Nat)
  | stop (object : Nat)
  /-- A frame begins; time does not go back. -/
  | beginFrame (timestamp : ℚ)
  /-- The next call of the frame, up to the user callback if that is run. -/
  | call
  /-- The user callback returns, and the call ends. -/
  | callbackReturns
  | endFrame
  deriving DecidableEq, Repr

def rnsAnimationFrameRate : Nat := 60

/-- `RNS_ANIMATION_FRAME_RATE_THROTTLE`, a division of integers. -/
def rnsAnimationFrameRateThrottle : Nat := 1 / rnsAnimationFrameRate

/-- The calls that are left without the one of this number. -/
def withoutCall (rafId : Nat) (calls : List QueuedCall) : List QueuedCall :=
  calls.filter fun call => call.rafId ≠ rafId

/-- An object is stopped. -/
def AnimationFrame.noteStopped (frame : AnimationFrame) (object : Nat) : AnimationFrame :=
  if object ∈ frame.begun then frame else { frame with stopped := frame.stopped ++ [object] }

namespace AnimationLoop

/-- The object whose callback is running. -/
def running (s : AnimationLoop) : Option Nat := s.frame.bind AnimationFrame.callback

def setObject (s : AnimationLoop) (object : Nat) (raf : RnsJsRequestAnimation) : AnimationLoop :=
  { s with objects := Function.update s.objects object raf }

/-- `rafId_ = RnsRequestAnimationFrame()`. -/
def requestAnimationFrame (s : AnimationLoop) (object : Nat) : AnimationLoop :=
  if (s.objects object).isActive_ then
    { s.setObject object { s.objects object with rafId_ := s.nextRafId } with
      queue := s.queue ++ [⟨s.nextRafId, object⟩]
      nextRafId := s.nextRafId + 1 }
  else s.setObject object { s.objects object with rafId_ := 0 }

def start (s : AnimationLoop) (object : Nat) : AnimationLoop :=
  if (s.objects object).isActive_ then s
  else (s.setObject object { s.objects object with isActive_ := true }).requestAnimationFrame object

/-- `RnsCancelAnimationFrame`. -/
def cancelAnimationFrame (s : AnimationLoop) (rafId : Nat) : AnimationLoop :=
  if rafId ≠ 0 then
    { s with
      queue := withoutCall rafId s.queue
      frame := s.frame.map fun frame => { frame with calls := withoutCall rafId frame.calls } }
  else s

def noteStopped (s : AnimationLoop) (object : Nat) : AnimationLoop :=
  { s with frame := s.frame.map fun frame => frame.noteStopped object }

def stop (s : AnimationLoop) (object : Nat) : AnimationLoop :=
  if (s.objects object).isActive_ then
    ((s.setObject object { s.objects object with isActive_ := false }).cancelAnimationFrame
      (s.objects object).rafId_).noteStopped object
  else s

def beginFrame (s : AnimationLoop) (timestamp : ℚ) : AnimationLoop :=
  { s with
    queue := []
    lastTimestamp := some timestamp
    frame := some {
      timestamp := timestamp
      calls := s.queue
      wasActive := fun object => (s.objects object).isActive_
      previousFrame := s.lastFrame } }

/-- The host function of an object, up to the user callback or to the end. -/
def call (s : AnimationLoop) (frame : AnimationFrame) (object : Nat) (rest : List QueuedCall) :
    AnimationLoop :=
  let previousValue := s.previousValue.getD frame.timestamp
  let frame := { frame with calls := rest, begun := frame.begun ++ [object] }
  let s := { s with
    previousValue := some previousValue
    lastFrame := Function.update s.lastFrame object (some frame.timestamp) }
  if frame.timestamp - previousValue > (rnsAnimationFrameRateThrottle * 1000 : Nat) then
    { s with
      frame := some { frame with callback := some object, ran := frame.ran ++ [object] }
      called := s.called ++ [⟨object, frame.timestamp, (s.objects object).isActive_⟩] }
  else { s with frame := some frame }.requestAnimationFrame object

/-- The end of the host function. -/
def callbackReturns (s : AnimationLoop) (frame : AnimationFrame) (object : Nat) : AnimationLoop :=
  { s with
    previousValue := some frame.timestamp
    frame := some { frame with callback := none } }.requestAnimationFrame object

end AnimationLoop

/-- `none` if that is not what happens next. -/
def AnimationOp.exec (s : AnimationLoop) : AnimationOp → Option AnimationLoop
  | start object => some (s.start object)
  | stop object => some (s.stop object)
  | beginFrame timestamp =>
    if s.frame.isNone ∧ ∀ last ∈ s.lastTimestamp, last ≤ timestamp then
      some (s.beginFrame timestamp)
    else none
  | call =>
    s.frame.bind fun frame =>
      match frame.callback, frame.calls with
      | none, queued :: rest => some (s.call frame queued.object rest)
      | _, _ => none
  | callbackReturns =>
    s.frame.bind fun frame =>
      match frame.callback with
      | some object => some (s.callbackReturns frame object)
      | none => none
  | endFrame =>
    s.frame.bind fun frame =>
      match frame.callback, frame.calls with
      | none, [] => some { s with frame := none, frames := s.frames ++ [frame] }
      | _, _ => none

def AnimationStep (s : AnimationLoop) (op : AnimationOp) (t : AnimationLoop) : Prop :=
  op.exec s = some t

end ReactNativeSkia
