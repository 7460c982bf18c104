import ReactNativeSkia.Sdk.Alert

/-!
# The window of the alerts, step by step

`Alert::triggerRenderRequest` with `createAlertWindow` (`ReactSkia/sdk/Alert.cpp:130-203`), and what
`WindowDelegator::createWindow`, `createNativeWindow` and `closeWindow`
(`ReactSkia/sdk/WindowDelegator.cpp:41-115`) make of it. A request holds the mutex of the actions
from its first step to its last one. The callback of the window sets the state without it. A press
comes once there is a native window, whether the callback has run or not. `closeWindow` waits for
the thread of the window; that it may wait for ever is left open.
-/

namespace ReactNativeSkia

/-- What `WindowDelegator` has of a window. -/
inductive WindowLife where
  | none
  /-- `createWindow` has been entered. -/
  | creating
  /-- `createNativeWindow` has made the window. -/
  | created
  /-- The callback has been called. -/
  | ready
  deriving DecidableEq, Repr

/-- A call to `WindowDelegator`, with the window that it finds. -/
inductive WindowCall where
  | createWindow (window : WindowLife)
  | closeWindow (window : WindowLife)
  deriving DecidableEq, Repr

/-- Where `triggerRenderRequest` is, with the mutex of the actions. -/
inductive AlertRequestStage where
  /-- In front of the test of `alertWindowState_`. -/
  | testing
  /-- In front of `createAlertWindow`. -/
  | creating
  /-- In `closeWindow`. -/
  | closing
  /-- In front of the draw. -/
  | drawing
  deriving DecidableEq, Repr

structure AlertWindow where
  alert : Alert := {}
  window : WindowLife := .none
  request : Option (AlertCaller × AlertRequestStage) := .none
  calls : List WindowCall := []
  deriving DecidableEq, Repr

inductive AlertWindowOp where
  | showAlert (alertData : AlertInfo)
  | onHWKeyHandler (keyValue : RnsKey) (eventKeyAction : RnsKeyAction) (ownWindow : Bool)
  | readIndex
  | removeAlert
  | createNativeWindow
  | windowReadyToDrawCB
  /-- `triggerRenderRequest` up to its mutex. -/
  | triggerRenderRequest (caller : AlertCaller)
  | testState
  | createAlertWindow
  /-- `closeWindow` is through. -/
  | windowClosed
  | drawRecentAlert
  deriving DecidableEq, Repr

namespace AlertWindow

/-- The window is there to be pressed at. -/
def native (s : AlertWindow) : Bool := s.window = .created || s.window = .ready

def setAlert (s : AlertWindow) (alert : Alert) : AlertWindow := { s with alert := alert }

/-- The request is through, and gives back its mutexes. -/
def finish (s : AlertWindow) (caller : AlertCaller) : AlertWindow :=
  { s with alert := s.alert.finish caller, request := none }

/-- The list is not locked by the callback. -/
def testState (s : AlertWindow) (caller : AlertCaller) (components : AlertComponents) :
    AlertWindow :=
  if s.alert.alertWindowState_ ≠ .ALERT_WINDOW_ACTIVE then
    { s with request := some (caller, .creating) }
  else if s.alert.alertInfoList_ = [] then
    { s with
      request := some (caller, .closing)
      calls := s.calls ++ [.closeWindow s.window] }
  else if components = .ALERT_BACKGROUND ∨ s.alert.msgPendingToBeChanged_ = true then
    s.finish caller
  else { s with request := some (caller, .drawing) }

/-- A thread is started for the new window, whatever there is of an old one. -/
def createAlertWindow (s : AlertWindow) : AlertWindow :=
  { s with
    alert := { s.alert with alertWindowState_ := .ALERT_WINDOW_ON_CREATION }
    window := .creating
    calls := s.calls ++ [.createWindow s.window] }

def windowClosed (s : AlertWindow) : AlertWindow :=
  { s with alert := s.alert.closeWindow, window := .none }

def windowReady (s : AlertWindow) : AlertWindow :=
  { s with
    window := .ready
    alert := { s.alert with
      alertWindowState_ := .ALERT_WINDOW_ACTIVE
      ready := [.ALERT_BACKGROUND, .ALERT_TITLE_AND_MESSAGE] } }

end AlertWindow

/-- `none` if that is not what happens next. -/
def AlertWindowOp.exec (s : AlertWindow) : AlertWindowOp → Option AlertWindow
  | showAlert alertData => ((AlertOp.showAlert alertData).exec s.alert).map s.setAlert
  | onHWKeyHandler keyValue eventKeyAction ownWindow =>
    if s.alert.press = none ∧ (ownWindow = true → s.native = true) then
      if s.alert.handles keyValue eventKeyAction ownWindow then
        some (s.setAlert s.alert.handlePress)
      else some s
    else none
  | readIndex => (AlertOp.readIndex.exec s.alert).map s.setAlert
  | removeAlert => (AlertOp.removeAlert.exec s.alert).map s.setAlert
  | createNativeWindow =>
    if s.window = .creating then some { s with window := .created } else none
  | windowReadyToDrawCB =>
    if s.window = .created ∧ s.alert.ready = [] then some s.windowReady else none
  | triggerRenderRequest caller =>
    if s.request = none ∧ (s.alert.request caller).isSome then
      some { s with request := some (caller, .testing) }
    else none
  | testState =>
    match s.request with
    | some (caller, .testing) => (s.alert.request caller).map (s.testState caller)
    | _ => none
  | createAlertWindow =>
    match s.request with
    | some (caller, .creating) => some (s.createAlertWindow.finish caller)
    | _ => none
  | windowClosed =>
    match s.request with
    | some (caller, .closing) => some (s.windowClosed.finish caller)
    | _ => none
  | drawRecentAlert =>
    match s.request with
    | some (caller, .drawing) =>
      some { s with alert := s.alert.drawRecentAlert caller, request := none }
    | _ => none

def AlertWindowStep (s : AlertWindow) (op : AlertWindowOp) (t : AlertWindow) : Prop :=
  op.exec s = some t

end ReactNativeSkia
