import ReactNativeSkia.Sdk.NotificationCenter

/-!
# Key throttling

`RSkInputEventManager::inputWorkerThreadFunction` waits until no client is active. A client becomes
active when `RSkSpatialNavigator` sends a notification with a completion callback. That goes over
the notification center to `RSkTVNavigationEventEmitter`, and over `sendEventWithName` of
`RSkBaseEventEmitter` to the JS thread. Other users of the center run as well; the event is observed
by the emitter only. A notification is known by the number of its closure.
-/

namespace ReactNativeSkia

/-- `tvEventName_`. -/
def tvEventName : String := "RCTTVNavigationEventNotification"

/-- The thread that JS runs on. -/
def jsThread : CenterThread := .caller 0

/-- Where `inputWorkerThreadFunction` is. -/
inductive InputWorker where
  /-- In front of the comparison of `activeInputClients_`. -/
  | looking
  /-- In front of `sem_wait`. -/
  | waiting
  /-- Takes a key from the queue and hands it to `processKey`. -/
  | processing
  deriving DecidableEq, Repr

/-- `jsQueue` are the completion callbacks that wait for the JS thread. `emitted` are the
notifications with a completion callback, and `completed` those whose callback has run. -/
structure KeyThrottling where
  center : NotificationCenter := {}
  activeInputClients_ : Int := 0
  keyEventPost_ : Nat := 1
  worker : InputWorker := .looking
  listenerCount_ : Int := 0
  navEventId_ : Nat := 2 ^ 32 - 1
  jsQueue : List Nat := []
  emitted : List Nat := []
  completed : List Nat := []

inductive ThrottlingOp where
  /-- A step of the center that has nothing to do with the emitter. -/
  | center (op : CenterOp)
  /-- `RSkSpatialNavigator::sendNotificationWithEventType`, or the same of the input event manager,
  which has no callback. -/
  | sendNotificationWithEventType (thread : CenterThread) (completeCallback : Bool)
  /-- The center looks for the listeners. -/
  | find
  /-- The center calls a listener. -/
  | call
  /-- JS calls `addListener`. -/
  | addListener
  /-- JS calls `removeListeners`. -/
  | removeListeners (removeCount : Int)
  /-- The JS thread runs the next completion callback. -/
  | complete
  /-- `inputWorkerThreadFunction` compares. -/
  | look
  | semWait
  /-- `processKey` has returned. -/
  | processed
  deriving DecidableEq, Repr

namespace KeyThrottling

/-- The counter is an `int`. -/
def onEventEmit (s : KeyThrottling) : KeyThrottling :=
  { s with activeInputClients_ := (s.activeInputClients_ + 1).bmod (2 ^ 32) }

def onEventComplete (s : KeyThrottling) : KeyThrottling :=
  if s.activeInputClients_ > 0 then
    { s with
      activeInputClients_ := s.activeInputClients_ - 1
      keyEventPost_ :=
        if s.activeInputClients_ - 1 = 0 then s.keyEventPost_ + 1 else s.keyEventPost_ }
  else s

/-- The counter goes up before the notification is emitted. -/
def sendNotificationWithEventType (s : KeyThrottling) (completeCallback : Bool)
    (center : NotificationCenter) : KeyThrottling :=
  if completeCallback then
    { s.onEventEmit with center := center, emitted := s.emitted ++ [s.center.closures.length] }
  else { s with center := center }

/-- `sendEventWithName`, called for a notification. -/
def sendEventWithName (s : KeyThrottling) (notification : Nat) : KeyThrottling :=
  if s.listenerCount_ ≥ 1 ∧ notification ∈ s.emitted then
    { s with jsQueue := s.jsQueue ++ [notification] }
  else s

def addListener (s : KeyThrottling) : Option KeyThrottling :=
  let s := { s with listenerCount_ := s.listenerCount_ + 1 }
  if s.listenerCount_ = 1 then
    -- startObserving
    ((CenterOp.addListener jsThread tvEventName).exec s.center).map fun center =>
      { s with center := center }
  else some s

def removeListeners (s : KeyThrottling) (removeCount : Int) : Option KeyThrottling :=
  let s := { s with listenerCount_ := max (s.listenerCount_ - removeCount) 0 }
  if s.listenerCount_ = 0 then
    -- stopObserving
    ((CenterOp.removeListener jsThread s.navEventId_).exec s.center).map fun center =>
      { s with center := center }
  else some s

/-- What `startObserving` stores, as soon as the center has the id. -/
def navEventId (s : KeyThrottling) (op : CenterOp) : Nat :=
  if op = .queueHandler jsThread ∧ s.center.calls jsThread = .queueing tvEventName then
    s.center.nextId
  else s.navEventId_

/-- The JS thread is not in the center. -/
def jsIdle (s : KeyThrottling) : Bool := s.center.calls jsThread = .idle

end KeyThrottling

/-- The steps of the center that others take. -/
def CenterOp.ofOthers : CenterOp → Bool
  | find | call => false
  | addListener _ eventName => eventName ≠ tvEventName
  | _ => true

open KeyThrottling

/-- `none` if that is not what happens next. -/
def ThrottlingOp.exec (s : KeyThrottling) : ThrottlingOp → Option KeyThrottling
  | center op =>
    if op.ofOthers = true then
      (op.exec s.center).map fun center =>
        { s with center := center, navEventId_ := s.navEventId op }
    else none
  | sendNotificationWithEventType thread completeCallback =>
    ((CenterOp.emit thread tvEventName).exec s.center).map
      (s.sendNotificationWithEventType completeCallback)
  | find => (CenterOp.find.exec s.center).map fun center => { s with center := center }
  | call =>
    match s.center.notifier with
    | .calling emission _ =>
      (CenterOp.call.exec s.center).map fun center =>
        { s with center := center }.sendEventWithName emission.index
    | _ => none
  | addListener => if s.jsIdle = true then s.addListener else none
  | removeListeners removeCount =>
    if s.jsIdle = true then s.removeListeners removeCount else none
  | complete =>
    match s.jsQueue with
    | notification :: rest =>
      if s.jsIdle = true then
        some { s.onEventComplete with
          jsQueue := rest, completed := s.completed ++ [notification] }
      else none
    | [] => none
  | look =>
    if s.worker = .looking then
      some { s with worker := if s.activeInputClients_ > 0 then .waiting else .processing }
    else none
  | semWait =>
    if s.worker = .waiting ∧ s.keyEventPost_ ≠ 0 then
      some { s with worker := .looking, keyEventPost_ := s.keyEventPost_ - 1 }
    else none
  | processed =>
    if s.worker = .processing then some { s with worker := .looking } else none

def ThrottlingStep (s : KeyThrottling) (op : ThrottlingOp) (t : KeyThrottling) : Prop :=
  op.exec s = some t

end ReactNativeSkia
