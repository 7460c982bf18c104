import Mathlib.Data.List.Basic
import ReactNativeSkia.Misc.CString
import ReactNativeSkia.Sdk.RNSKeyCodeMapping

/-!
# Alerts

`Alert` (`ReactSkia/sdk/Alert.cpp`, `Alert.h`). Calls of `showAlert` hold the mutex of the list
from the push to the end of the render request, and so does a press from the removal on. The press
marks the message as pending before it takes the mutex. `windowReadyToDrawCB` renders without it.
What is drawn of an alert, and where, is left out.
-/

namespace ReactNativeSkia

structure AlertInfo where
  alertTitle : Chars
  alertMessage : Chars
  deriving DecidableEq, Repr

/-- An alert of the list, numbered by the calls of `showAlert`. -/
structure ShownAlert extends AlertInfo where
  call : Nat
  deriving DecidableEq, Repr

inductive AlertWindowState where
  | ALERT_WINDOW_ON_CREATION
  | ALERT_WINDOW_ACTIVE
  | ALERT_WINDOW_DESTRUCTED
  deriving DecidableEq, Repr

inductive AlertComponents where
  | ALERT_BACKGROUND
  | ALERT_TITLE_AND_MESSAGE
  deriving DecidableEq, Repr

/-- Who asks for the alert to be rendered. -/
inductive AlertCaller where
  | showAlert
  | onHWKeyHandler
  | windowReadyToDrawCB
  deriving DecidableEq, Repr

/-- Where a press is in `onHWKeyHandler`. -/
inductive AlertPressStage where
  /-- In front of the read of `idOfMessageOnDisplay_`. -/
  | pending
  /-- In front of the mutex of the list. -/
  | locking (msgIndex : Nat)
  /-- In front of `triggerRenderRequest`. -/
  | removed
  deriving DecidableEq, Repr

/-- A press, with the alert that was on display when it was handled. -/
structure AlertPress where
  stage : AlertPressStage
  onDisplay : Option ShownAlert
  deriving DecidableEq, Repr

/-- What a press has done to the list. -/
structure Dismissal where
  onDisplay : Option ShownAlert
  before : List ShownAlert
  after : List ShownAlert
  deriving DecidableEq, Repr

/-- `listOwner` holds `alertListAccessCtrlMutex_`, and `drawing` is in front of the draw, with
`alertActiontCtrlMutex_`. `ready` is what `windowReadyToDrawCB` has still to render. `onDisplay` is
what has been drawn last in the present window. -/
structure Alert where
  alertInfoList_ : List ShownAlert := []
  idOfMessageOnDisplay_ : Int := -1
  msgPendingToBeChanged_ : Bool := false
  alertWindowState_ : AlertWindowState := .ALERT_WINDOW_DESTRUCTED
  listOwner : Option AlertCaller := none
  drawing : Option AlertCaller := none
  press : Option AlertPress := none
  ready : List AlertComponents := []
  onDisplay : Option ShownAlert := none
  shown : List ShownAlert := []
  displayed : List ShownAlert := []
  dismissals : List Dismissal := []
  deriving DecidableEq, Repr

inductive AlertOp where
  | showAlert (alertData : AlertInfo)
  /-- A press that `onHWKeyHandler` does not return from at once marks the message. -/
  | onHWKeyHandler (keyValue : RnsKey) (eventKeyAction : RnsKeyAction) (ownWindow : Bool)
  | readIndex
  | removeAlert
  /-- The window has been created. -/
  | windowReadyToDrawCB
  /-- `triggerRenderRequest` up to the draw. -/
  | triggerRenderRequest (caller : AlertCaller)
  | drawRecentAlert
  deriving DecidableEq, Repr

namespace Alert

/-- The element behind the displayed one is erased if the list has grown. -/
def removeAlertFromAlertList (s : Alert) (msgIndex : Nat) : List ShownAlert :=
  if s.alertInfoList_ = [] ∨ s.alertInfoList_.length < msgIndex then s.alertInfoList_
  else if (s.alertInfoList_.length : Int) = s.idOfMessageOnDisplay_ then s.alertInfoList_.dropLast
  else s.alertInfoList_.eraseIdx msgIndex

def push (s : Alert) (alertData : AlertInfo) : Alert :=
  let alert : ShownAlert := { alertData with call := s.shown.length }
  { s with
    alertInfoList_ := s.alertInfoList_ ++ [alert]
    shown := s.shown ++ [alert]
    listOwner := some .showAlert }

/-- What `onHWKeyHandler` does not return from at once. -/
def handles (s : Alert) (keyValue : RnsKey) (eventKeyAction : RnsKeyAction) (ownWindow : Bool) :
    Bool :=
  ownWindow && eventKeyAction == .RNS_KEY_Press && keyValue == .RNS_KEY_Select &&
    s.idOfMessageOnDisplay_ != -1

def handlePress (s : Alert) : Alert :=
  { s with
    msgPendingToBeChanged_ := true
    press := some ⟨.pending, s.onDisplay⟩ }

def setStage (s : Alert) (press : AlertPress) (stage : AlertPressStage) : Alert :=
  { s with press := some { press with stage := stage } }

def remove (s : Alert) (press : AlertPress) (msgIndex : Nat) : Alert :=
  let after := s.removeAlertFromAlertList msgIndex
  { s.setStage press .removed with
    alertInfoList_ := after
    msgPendingToBeChanged_ := false
    listOwner := some .onHWKeyHandler
    dismissals := s.dismissals ++ [⟨press.onDisplay, s.alertInfoList_, after⟩] }

/-- The component that the caller asks for next, if that is what it does. -/
def request (s : Alert) : AlertCaller → Option AlertComponents
  | .showAlert =>
    if s.listOwner = some .showAlert then some .ALERT_TITLE_AND_MESSAGE else none
  | .onHWKeyHandler =>
    if s.listOwner = some .onHWKeyHandler then some .ALERT_TITLE_AND_MESSAGE else none
  | .windowReadyToDrawCB => s.ready.head?

/-- The caller is through with its request. -/
def finish (s : Alert) : AlertCaller → Alert
  | .showAlert => { s with listOwner := none, drawing := none }
  | .onHWKeyHandler => { s with listOwner := none, drawing := none, press := none }
  | .windowReadyToDrawCB => { s with drawing := none, ready := s.ready.tail }

/-- The last alert is closed with its window. -/
def closeWindow (s : Alert) : Alert :=
  { s with alertWindowState_ := .ALERT_WINDOW_DESTRUCTED, onDisplay := none }

/-- A request that draws an alert stops in front of the draw. -/
def triggerRenderRequest (s : Alert) (caller : AlertCaller) (components : AlertComponents) :
    Alert :=
  if s.alertWindowState_ ≠ .ALERT_WINDOW_ACTIVE then
    { s with alertWindowState_ := .ALERT_WINDOW_ON_CREATION }.finish caller
  else if s.alertInfoList_ = [] then s.closeWindow.finish caller
  else if components = .ALERT_BACKGROUND ∨ s.msgPendingToBeChanged_ = true then s.finish caller
  else { s with drawing := some caller }

def drawRecentAlert (s : Alert) (caller : AlertCaller) : Alert :=
  { s with
    idOfMessageOnDisplay_ := s.alertInfoList_.length
    onDisplay := s.alertInfoList_.getLast?
    displayed := s.displayed ++ s.alertInfoList_.getLast?.toList }.finish caller

end Alert

/-- `none` if that is not what happens next. Presses are handled while the window is active, one
after the other. -/
def AlertOp.exec (s : Alert) : AlertOp → Option Alert
  | showAlert alertData => if s.listOwner = none then some (s.push alertData) else none
  | onHWKeyHandler keyValue eventKeyAction ownWindow =>
    if s.press = none ∧ s.alertWindowState_ = .ALERT_WINDOW_ACTIVE then
      if s.handles keyValue eventKeyAction ownWindow then some s.handlePress else some s
    else none
  | readIndex =>
    match s.press with
    | some ⟨.pending, onDisplay⟩ =>
      some (s.setStage ⟨.pending, onDisplay⟩ (.locking s.idOfMessageOnDisplay_.toNat))
    | _ => none
  | removeAlert =>
    match s.press, s.listOwner with
    | some ⟨.locking msgIndex, onDisplay⟩, none =>
      some (s.remove ⟨.locking msgIndex, onDisplay⟩ msgIndex)
    | _, _ => none
  | windowReadyToDrawCB =>
    if s.alertWindowState_ = .ALERT_WINDOW_ON_CREATION ∧ s.ready = [] then
      some { s with
        alertWindowState_ := .ALERT_WINDOW_ACTIVE
        ready := [.ALERT_BACKGROUND, .ALERT_TITLE_AND_MESSAGE] }
    else none
  | triggerRenderRequest caller =>
    match s.drawing, s.request caller with
    | none, some components => some (s.triggerRenderRequest caller components)
    | _, _ => none
  | drawRecentAlert =>
    match s.drawing with
    | some caller => some (s.drawRecentAlert caller)
    | none => none

def AlertStep (s : Alert) (op : AlertOp) (t : Alert) : Prop :=
  op.exec s = some t

end ReactNativeSkia
