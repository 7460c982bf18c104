import ReactNativeSkia.Compositor.Skia
import ReactNativeSkia.Misc.Run
import Mathlib.Logic.Function.Basic

/-!
# The compositor's lock and render task

`Compositor::begin`, `commit`, `setViewportSize` and `invalidate` with the render task that
`commit` dispatches to the main loop (`compositor/Compositor.cpp:74-78, 254-321`), as steps of
any number of calling threads. What a caller does while it holds `isMutating` is one step;
a `commit` that schedules a task dispatches it in a second step, after the unlock. Rendering
itself touches neither the lock nor `renderState_`.
-/

namespace ReactNativeSkia

inductive UpdateState where
  | Idle
  | Scheduled
  | InProgress
  deriving DecidableEq, Repr

/-- Who may hold `isMutating`: a thread that calls the compositor, or the render task. -/
inductive Holder where
  | caller (thread : Nat)
  | renderTask
  deriving DecidableEq, Repr

/-- The compositor as far as scheduling goes. -/
structure Scheduling where
  windowContext_ : Bool
  viewportSize : SkISize
  update : UpdateState := .Idle
  isMutating : Option Holder := none
  /-- The threads between `begin` and the `commit` that follows it. -/
  begun : Nat → Bool := fun _ => false
  /-- The threads in a `commit` that has unlocked but not yet dispatched its task. -/
  dispatching : List Nat := []
  /-- Render tasks in the queue of the main loop. -/
  queued : Nat := 0
  /-- A render task holds the lock. -/
  running : Bool := false
  /-- How often `isMutating` has been locked. -/
  locks : Nat := 0
  /-- How often it has been unlocked by its holder. -/
  unlocks : Nat := 0
  /-- It has been unlocked by someone who did not hold it. -/
  misused : Bool := false

namespace Scheduling

def lock (s : Scheduling) (who : Holder) : Scheduling :=
  { s with isMutating := some who, locks := s.locks + 1 }

def unlock (s : Scheduling) (who : Holder) : Scheduling :=
  if s.isMutating = some who then { s with isMutating := none, unlocks := s.unlocks + 1 }
  else { s with isMutating := none, misused := true }

/-- `Compositor::commit` up to its last unlock (`Compositor.cpp:260-302`). -/
def commit (s : Scheduling) (thread : Nat) (immediate : Bool) : Scheduling :=
  if !s.windowContext_ then s.unlock (.caller thread)
  else if immediate then s.unlock (.caller thread)
  else
    match s.update with
    | .Idle =>
      { { s with update := .Scheduled }.unlock (.caller thread) with
        dispatching := thread :: s.dispatching }
    | .InProgress => s.unlock (.caller thread)
    | .Scheduled => s.unlock (.caller thread)

/-- Render tasks that have been created and have not finished. -/
def outstanding (s : Scheduling) : Nat := s.dispatching.length + s.queued + s.running.toNat

end Scheduling

/-- What happens to the compositor, and on which thread. -/
inductive CompositorCall where
  | begin (thread : Nat)
  | commit (thread : Nat) (immediate : Bool)
  | setViewportSize (thread : Nat) (size : SkISize)
  | invalidate (thread : Nat)
  | dispatch (thread : Nat)
  | startTask
  | finishTask
  deriving DecidableEq, Repr

namespace CompositorCall

/-- `none` when the step cannot be taken: the lock is not free, or the thread is elsewhere. -/
def exec (s : Scheduling) : CompositorCall → Option Scheduling
  | begin thread =>
    if s.isMutating = none ∧ s.begun thread = false ∧ thread ∉ s.dispatching then
      some { s.lock (.caller thread) with begun := Function.update s.begun thread true }
    else none
  | commit thread immediate =>
    if s.begun thread = true ∧ thread ∉ s.dispatching then
      some ({ s with begun := Function.update s.begun thread false }.commit thread immediate)
    else none
  | setViewportSize thread size =>
    if thread ∉ s.dispatching then
      if size = s.viewportSize then some s
      else some ({ s with viewportSize := size }.commit thread false)
    else none
  | invalidate thread =>
    if thread ∉ s.dispatching then some { s with windowContext_ := false } else none
  | dispatch thread =>
    if thread ∈ s.dispatching then
      some { s with dispatching := s.dispatching.erase thread, queued := s.queued + 1 }
    else none
  | startTask =>
    if 0 < s.queued ∧ s.running = false ∧ s.isMutating = none then
      some { s.lock .renderTask with queued := s.queued - 1, running := true }
    else none
  | finishTask =>
    if s.running = true then
      some { { s with update := .Idle }.unlock .renderTask with running := false }
    else none

/-- The call does not change the size of the viewport. -/
def KeepsSize (s : Scheduling) : CompositorCall → Prop
  | setViewportSize _ size => size = s.viewportSize
  | _ => True

instance (s : Scheduling) (call : CompositorCall) : Decidable (call.KeepsSize s) :=
  match call with
  | setViewportSize _ size => inferInstanceAs (Decidable (size = s.viewportSize))
  | begin _ | commit _ _ | invalidate _ | dispatch _ | startTask | finishTask => .isTrue trivial

end CompositorCall

def callStep (s : Scheduling) (call : CompositorCall) (s' : Scheduling) : Prop :=
  call.exec s = some s'

namespace Scheduling

/-- A compositor as its constructor leaves it, with or without a window. -/
def constructed (windowContext : Bool) (viewportSize : SkISize) : Scheduling :=
  { windowContext_ := windowContext, viewportSize := viewportSize }

end Scheduling

end ReactNativeSkia
