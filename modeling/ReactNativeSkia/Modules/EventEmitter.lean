import Mathlib.Algebra.Group.Nat.Defs

/-!
# Event emitters

`RSkBaseEventEmitter` (`ReactSkia/LegacyNativeModules/RSkBaseEventEmitter.h`,
`RSkBaseEventEmitter.cpp`) counts the listeners of JS and tells a derived class when to observe.
`RSkTVNavigationEventEmitter` (`ReactSkia/modules/RSkTVNavigationEventEmitter.cpp`) is one of these:
it is a listener of the default notification center while it observes. The center hands out its ids
to other listeners as well, and its own thread registers a listener some time after `addListener`.
Sending events is left out.
-/

namespace ReactNativeSkia

inductive ObserveCall where
  | startObserving
  | stopObserving
  deriving DecidableEq, Repr

/-- The virtual methods of a derived class, and `act` for what else happens to its object. -/
structure DerivedEmitter (σ α : Type) where
  startObserving : σ → σ
  stopObserving : σ → σ
  act : α → σ → σ

/-- `calls` are the calls of the virtual methods. -/
structure BaseEventEmitter (σ : Type) where
  listenerCount_ : Int := 0
  calls : List ObserveCall := []
  derived : σ
  deriving DecidableEq, Repr

inductive EmitterOp (α : Type) where
  | addListener (eventName : String)
  | removeListeners (removeCount : Nat)
  | act (a : α)
  deriving DecidableEq, Repr

namespace BaseEventEmitter

variable {σ α : Type} (cls : DerivedEmitter σ α) (s : BaseEventEmitter σ)

def startObserving : BaseEventEmitter σ :=
  { s with
    calls := s.calls ++ [.startObserving]
    derived := cls.startObserving s.derived }

def stopObserving : BaseEventEmitter σ :=
  { s with
    calls := s.calls ++ [.stopObserving]
    derived := cls.stopObserving s.derived }

/-- The event name is not used. -/
def addListener (_eventName : String) : BaseEventEmitter σ :=
  let s := { s with listenerCount_ := s.listenerCount_ + 1 }
  if s.listenerCount_ = 1 then s.startObserving cls else s

def removeListeners (removeCount : Int) : BaseEventEmitter σ :=
  let s := { s with listenerCount_ := max (s.listenerCount_ - removeCount) 0 }
  if s.listenerCount_ = 0 then s.stopObserving cls else s

end BaseEventEmitter

namespace EmitterOp

variable {σ α : Type} (cls : DerivedEmitter σ α)

def exec (s : BaseEventEmitter σ) : EmitterOp α → BaseEventEmitter σ
  | addListener eventName => s.addListener cls eventName
  | removeListeners removeCount => s.removeListeners cls removeCount
  | act a => { s with derived := cls.act a s.derived }

end EmitterOp

def emitterStep {σ α : Type} (cls : DerivedEmitter σ α) (s : BaseEventEmitter σ)
    (op : EmitterOp α) (s' : BaseEventEmitter σ) : Prop :=
  op.exec cls s = s'

/-! ## The emitter of the navigation events -/

/-- With what the default center has of the emitter: the listeners whose registration waits for the
thread of the center, and those in its table. `removals` tells for each `removeListener` whether it
has found the listener in the table. -/
structure TVNavigation where
  navEventId_ : Nat := 2 ^ 32 - 1
  last_listener : Nat := 0
  queued : List Nat := []
  registered : List Nat := []
  removals : List Bool := []
  deriving DecidableEq, Repr

/-- What the center does besides. -/
inductive TVNavigationAct where
  /-- Another user of the center calls `addListener`. -/
  | otherListener
  /-- The thread of the center registers the next listener of the emitter. -/
  | register
  deriving DecidableEq, Repr

namespace TVNavigation

variable (e : TVNavigation)

/-- `NotificationCenter::addListener`. -/
def centerAddListener : Nat × TVNavigation :=
  let listener_id := (e.last_listener + 1) % 2 ^ 32
  (listener_id, { e with last_listener := listener_id, queued := e.queued ++ [listener_id] })

/-- `NotificationCenter::removeListener`. -/
def centerRemoveListener (listener_id : Nat) : TVNavigation :=
  { e with
    registered := e.registered.erase listener_id
    removals := e.removals ++ [decide (listener_id ∈ e.registered)] }

def startObserving : TVNavigation :=
  let (listener_id, e) := e.centerAddListener
  { e with navEventId_ := listener_id }

def stopObserving : TVNavigation := e.centerRemoveListener e.navEventId_

def act : TVNavigationAct → TVNavigation
  | .otherListener => { e with last_listener := (e.last_listener + 1) % 2 ^ 32 }
  | .register =>
    match e.queued with
    | [] => e
    | listener_id :: queued =>
      { e with queued := queued, registered := e.registered ++ [listener_id] }

end TVNavigation

/-- `RSkTVNavigationEventEmitter`. -/
def tvNavigationEventEmitter : DerivedEmitter TVNavigation TVNavigationAct where
  startObserving := TVNavigation.startObserving
  stopObserving := TVNavigation.stopObserving
  act a e := e.act a

end ReactNativeSkia
