import Mathlib.Algebra.Group.Nat.Defs
import ReactNativeSkia.Misc.ListMap

/-!
# The notification center

`NotificationCenter` (`ReactSkia/sdk/NotificationCenter.h`, `NotificationCenter.cpp`). Any number
of threads call it; the closures that register and dispatch run on a thread of its own, one after
the other. The lock, the body and the unlock of each section are steps, and so is each callback. A
callback may call the center as well. The arguments of an event are left out: all listeners of an
event take those of its emits. So are calls without a callback, which return before the lock.
-/

namespace ReactNativeSkia

inductive CenterThread where
  /-- `eventNotifierThread_`. -/
  | notifier
  | caller (number : Nat)
  deriving DecidableEq, Repr

/-- The closures that wait for `eventNotifierThread_`. -/
inductive CenterHandler where
  | addlistenerHandler (listener_id : Nat) (eventName : String)
  | dispatchHandler (eventName : String)
  deriving DecidableEq, Repr

/-- Where a thread is in `addListener` and `removeListener`. -/
inductive CenterCall where
  | idle
  /-- In front of the lock of `addListener`. -/
  | adding (eventName : String)
  | queueing (eventName : String)
  /-- In front of the lock of `removeListener`. -/
  | removing (listener_id : Nat)
  | erasing (listener_id : Nat)
  /-- At the end of the section, with the id if a listener was to be removed. -/
  | leaving (removed : Option Nat)
  deriving DecidableEq, Repr

/-- What one dispatch does. `index` is the place of its closure among all closures, `returned` the
ids for which `removeListener` had returned when it started, `begun` those for which it had been
called when it ended, and `called` the listeners that it has called. -/
structure Emission where
  index : Nat
  eventName : String
  returned : List Nat
  called : List Nat := []
  begun : List Nat := []
  deriving DecidableEq, Repr

/-- Where `eventNotifierThread_` is in a closure. -/
inductive NotifierThread where
  | idle
  | registering (listener_id : Nat) (eventName : String) (locked : Bool)
  /-- At the end of the scope of `lock_guard`. -/
  | registered
  | dispatching (emission : Emission) (locked : Bool)
  /-- At the early return, with the lock held. -/
  | returning (emission : Emission)
  /-- At `mutex.unlock()`, with the copy of the listeners. -/
  | unlocking (emission : Emission) (handle : List Nat)
  /-- In the loop over the copy. `unique_lock` still owns the mutex. -/
  | calling (emission : Emission) (handle : List Nat)
  deriving DecidableEq, Repr

/-- The code keeps of `closures` what has not run yet: those from `done` on. `erased` are the ids
with which `removeListener` has been in its section, `begun` and `returned` those with which it has
been called and has returned. `registered` are the ids that have been pushed. -/
structure NotificationCenter where
  mutex : Option CenterThread := none
  last_listener : Nat := 0
  listenersList : List (String × List Nat) := []
  closures : List CenterHandler := []
  done : Nat := 0
  notifier : NotifierThread := .idle
  calls : CenterThread → CenterCall := fun _ => .idle
  begun : List Nat := []
  erased : List Nat := []
  returned : List Nat := []
  registered : List Nat := []
  emissions : List Emission := []

inductive CenterOp where
  | addListener (thread : CenterThread) (eventName : String)
  | removeListener (thread : CenterThread) (listener_id : Nat)
  | emit (thread : CenterThread) (eventName : String)
  | lock (thread : CenterThread)
  /-- The body of `addListener`. -/
  | queueHandler (thread : CenterThread)
  /-- The body of `removeListener`. -/
  | erase (thread : CenterThread)
  | unlock (thread : CenterThread)
  /-- `eventNotifierThread_` starts the next closure. -/
  | nextHandler
  | lockHandler
  | register
  | find
  /-- `mutex.unlock()`. -/
  | unlockByHand
  /-- The next callback. -/
  | call
  /-- The guard of the closure goes out of scope, and the closure ends. -/
  | endHandler
  deriving DecidableEq, Repr

namespace NotificationCenter

/-- The id that `addListener` hands out next, an `unsigned int`. -/
def nextId (s : NotificationCenter) : Nat := (s.last_listener + 1) % 2 ^ 32

/-- `eventNotifierThread_` calls from its callbacks only. -/
def mayCall (s : NotificationCenter) : CenterThread → Bool
  | .caller _ => true
  | .notifier =>
    match s.notifier with
    | .calling emission _ => !emission.called.isEmpty
    | _ => false

def withCall (s : NotificationCenter) (thread : CenterThread) (call : CenterCall) :
    NotificationCenter :=
  { s with calls := Function.update s.calls thread call }

/-- `runInEventBaseThread`. -/
def queue (s : NotificationCenter) (handler : CenterHandler) : NotificationCenter :=
  { s with closures := s.closures ++ [handler] }

def queueHandler (s : NotificationCenter) (thread : CenterThread) (eventName : String) :
    NotificationCenter :=
  ({ s with last_listener := s.nextId }.queue
    (.addlistenerHandler s.nextId eventName)).withCall thread (.leaving none)

def erase (s : NotificationCenter) (thread : CenterThread) (listener_id : Nat) :
    NotificationCenter :=
  { s with
    listenersList := ListMap.erase listener_id s.listenersList
    erased := s.erased ++ [listener_id] }.withCall thread (.leaving (some listener_id))

def register (s : NotificationCenter) (listener_id : Nat) (eventName : String) :
    NotificationCenter :=
  { s with
    listenersList := ListMap.push eventName listener_id s.listenersList
    registered := s.registered ++ [listener_id]
    notifier := .registered }

/-- The closure of a dispatch ends. -/
def endDispatch (s : NotificationCenter) (emission : Emission) : NotificationCenter :=
  { s with
    mutex := none
    done := s.done + 1
    notifier := .idle
    emissions := s.emissions ++ [{ emission with begun := s.begun }] }

end NotificationCenter

namespace CenterOp

/-- `none` if that is not what the thread does next. An unlock frees the mutex, whoever holds it. -/
def exec (s : NotificationCenter) : CenterOp → Option NotificationCenter
  | addListener thread eventName =>
    if s.calls thread = .idle ∧ s.mayCall thread = true then
      some (s.withCall thread (.adding eventName))
    else none
  | removeListener thread listener_id =>
    if s.calls thread = .idle ∧ s.mayCall thread = true then
      some ({ s with begun := s.begun ++ [listener_id] }.withCall thread (.removing listener_id))
    else none
  | emit thread eventName =>
    if s.calls thread = .idle ∧ s.mayCall thread = true then
      some (s.queue (.dispatchHandler eventName))
    else none
  | lock thread =>
    if s.mutex = none then
      match s.calls thread with
      | .adding eventName =>
        some ({ s with mutex := some thread }.withCall thread (.queueing eventName))
      | .removing listener_id =>
        some ({ s with mutex := some thread }.withCall thread (.erasing listener_id))
      | _ => none
    else none
  | queueHandler thread =>
    match s.calls thread with
    | .queueing eventName => some (s.queueHandler thread eventName)
    | _ => none
  | erase thread =>
    match s.calls thread with
    | .erasing listener_id => some (s.erase thread listener_id)
    | _ => none
  | unlock thread =>
    match s.calls thread with
    | .leaving removed =>
      some ({ s with
        mutex := none
        returned := s.returned ++ removed.toList }.withCall thread .idle)
    | _ => none
  | nextHandler =>
    if s.notifier = .idle then
      match s.closures[s.done]? with
      | some (.addlistenerHandler listener_id eventName) =>
        some { s with notifier := .registering listener_id eventName false }
      | some (.dispatchHandler eventName) =>
        some { s with
          notifier := .dispatching
            { index := s.done, eventName := eventName, returned := s.returned } false }
      | none => none
    else none
  | lockHandler =>
    if s.mutex = none then
      match s.notifier with
      | .registering listener_id eventName false =>
        some { s with
          mutex := some .notifier, notifier := .registering listener_id eventName true }
      | .dispatching emission false =>
        some { s with mutex := some .notifier, notifier := .dispatching emission true }
      | _ => none
    else none
  | register =>
    match s.notifier with
    | .registering listener_id eventName true => some (s.register listener_id eventName)
    | _ => none
  | find =>
    match s.notifier with
    | .dispatching emission true =>
      match ListMap.find emission.eventName s.listenersList with
      | none => some { s with notifier := .returning emission }
      | some handle => some { s with notifier := .unlocking emission handle }
    | _ => none
  | unlockByHand =>
    match s.notifier with
    | .unlocking emission handle =>
      some { s with mutex := none, notifier := .calling emission handle }
    | _ => none
  | call =>
    match s.notifier with
    | .calling emission (listener_id :: handle) =>
      if s.calls .notifier = .idle then
        some { s with
          notifier := .calling { emission with called := emission.called ++ [listener_id] } handle }
      else none
    | _ => none
  | endHandler =>
    match s.notifier with
    | .registered => some { s with mutex := none, done := s.done + 1, notifier := .idle }
    | .returning emission => some (s.endDispatch emission)
    | .calling emission [] =>
      if s.calls .notifier = .idle then some (s.endDispatch emission) else none
    | _ => none

end CenterOp

def centerStep (s : NotificationCenter) (op : CenterOp) (s' : NotificationCenter) : Prop :=
  op.exec s = some s'

end ReactNativeSkia
