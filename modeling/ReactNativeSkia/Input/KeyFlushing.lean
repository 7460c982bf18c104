import ReactNativeSkia.Input.InputEventManager

/-!
# Key throttling, step by step

`RSkInputEventManager::keyHandler` with key throttling and `inputWorkerThreadFunction`
(`ReactSkia/core_modules/RSkInputEventManager.cpp:61-71, 84-108`), which share a
`ThreadSafeQueue` (`ReactSkia/sdk/ThreadSafeQueue.h`). The handler takes one event after the
other. Each operation of the queue locks it, so these are the steps; how long the worker waits
for active clients is left open.
-/

namespace ReactNativeSkia

/-- Where the handler is. -/
inductive KeyHandlerAt where
  | idle
  /-- A release has ended a repeat: in front of `isEmpty`. -/
  | testing (keyInput : RSkKeyInput)
  | clearing (keyInput : RSkKeyInput)
  | pushing (keyInput : RSkKeyInput)
  deriving DecidableEq, Repr

/-- `worker` is what the worker has popped and not yet handed to `processKey`, `processed` what it
has handed over. `arrived` is what `keyHandler` has made of the events. -/
structure KeyFlushing where
  manager : InputEventManager := {}
  handler : KeyHandlerAt := .idle
  worker : Option RSkKeyInput := none
  arrived : List RSkKeyInput := []
  processed : List RSkKeyInput := []
  deriving DecidableEq, Repr

inductive KeyFlushingOp where
  /-- `keyHandler` up to its first use of the queue. -/
  | receive (event : KeyEvent)
  | isEmpty
  | clear
  | push
  | pop
  | processKey
  deriving DecidableEq, Repr

namespace InputEventManager

/-- What `keyHandler` does to `keyRepeat` and `previousKeyType`. -/
def note (s : InputEventManager) (event : KeyEvent) : InputEventManager :=
  let s :=
    if s.previousKeyType = event.eventKeyType ∧ event.eventKeyAction = .RNS_KEY_Press then
      { s with keyRepeat := true }
    else s
  let s :=
    if event.eventKeyAction = .RNS_KEY_Release then
      { s with previousKeyType := .RNS_KEY_UnKnown, keyRepeat := false }
    else s
  { s with previousKeyType := event.eventKeyType }

/-- The release of a repeated key. -/
def endsRepeat (s : InputEventManager) (event : KeyEvent) : Bool :=
  event.eventKeyAction = .RNS_KEY_Release && s.keyRepeat

def keyInput (s : InputEventManager) (event : KeyEvent) : RSkKeyInput :=
  ⟨event.eventKeyType, event.eventKeyAction, (s.note event).keyRepeat⟩

def clear (s : InputEventManager) : InputEventManager := { s with keyQueue_ := [] }

end InputEventManager

namespace KeyFlushing

def receive (s : KeyFlushing) (event : KeyEvent) : KeyFlushing :=
  let keyInput := s.manager.keyInput event
  { s with
    manager := s.manager.note event
    handler := if s.manager.endsRepeat event then .testing keyInput else .pushing keyInput
    arrived := s.arrived ++ [keyInput] }

end KeyFlushing

/-- `none` if that is not what the thread does next. -/
def KeyFlushingOp.exec (s : KeyFlushing) : KeyFlushingOp → Option KeyFlushing
  | receive event => if s.handler = .idle then some (s.receive event) else none
  | isEmpty =>
    match s.handler with
    | .testing keyInput =>
      some { s with
        handler := if s.manager.keyQueue_ = [] then .pushing keyInput else .clearing keyInput }
    | _ => none
  | clear =>
    match s.handler with
    | .clearing keyInput =>
      some { s with manager := s.manager.clear, handler := .pushing keyInput }
    | _ => none
  | push =>
    match s.handler with
    | .pushing keyInput =>
      some { s with manager := s.manager.handOn true keyInput, handler := .idle }
    | _ => none
  | pop =>
    match s.worker, s.manager.keyQueue_ with
    | none, keyInput :: rest =>
      some { s with manager := { s.manager with keyQueue_ := rest }, worker := some keyInput }
    | _, _ => none
  | processKey =>
    match s.worker with
    | some keyInput => some { s with worker := none, processed := s.processed ++ [keyInput] }
    | none => none

def KeyFlushingStep (s : KeyFlushing) (op : KeyFlushingOp) (t : KeyFlushing) : Prop :=
  op.exec s = some t

end ReactNativeSkia
