import ReactNativeSkia.Components.TextInputEvents
import ReactNativeSkia.Navigation.Component
import Mathlib.Logic.Function.Basic

/-!
# Focus and editing mode

The focus of the navigator and all text inputs of an app: `updateFocusCandidate`, which blurs the
old focus and has the new one enter editing mode, and `requestForEditingMode`, which goes the other
way round (`ReactSkia/core_modules/RSkSpatialNavigator.cpp:67-95, 418-437`,
`ReactSkia/components/RSkComponentTextInput.cpp:505-620`). The queue of the keys is one for all
inputs, as in the source; the posts of the semaphore, for which no step here waits, are counted for
each input. The tree is left out: it says which candidates the navigator comes up with.
-/

namespace ReactNativeSkia

/-- What is sent on: the notifications of the navigator and the events of the text inputs. -/
inductive FocusEvent where
  | blur (component : LayerId)
  | focus (component : LayerId)
  | textInput (component : LayerId) (event : TextInputEvent)
  deriving DecidableEq, Repr

/-- The navigator and the text inputs made so far; `keys` is `inputQueue` with its indices. -/
structure FocusFlow where
  currentFocus_ : Option LayerId := none
  inputs : LayerId → Option TextInput := fun _ => none
  keys : KeyQueue RnsKey := {}
  events : List FocusEvent := []

namespace FocusFlow

/-- The text input with the queue that all of them use. -/
def input (s : FocusFlow) (component : LayerId) : Option TextInput :=
  (s.inputs component).map fun input => input.withKeys s.keys

def emit (s : FocusFlow) (event : FocusEvent) : FocusFlow :=
  { s with events := s.events ++ [event] }

/-- What an operation leaves behind of a text input, and what it has sent. -/
def put (s : FocusFlow) (component : LayerId) (result : TextInput × List TextInputEvent) :
    FocusFlow :=
  { s with
    inputs := Function.update s.inputs component (some result.1)
    keys := result.1.keys
    events := s.events ++ result.2.map (.textInput component) }

/-- A component that is no text input does nothing. -/
def handle (s : FocusFlow) (component : LayerId) (op : TextInputOp) : Option FocusFlow :=
  match s.input component with
  | none => some s
  | some input => (op.emit input).map (s.put component)

/-- The constructor, which resets a variable that all inputs share. -/
def construct (s : FocusFlow) (component : LayerId) : Option FocusFlow :=
  match s.inputs component with
  | some _ => none
  | none => some { s with
      inputs := Function.update s.inputs component (some {})
      keys := { s.keys with isKeyRepeateOn := false } }

def onHandleBlur (s : FocusFlow) (component : LayerId) : FocusFlow :=
  match s.input component with
  | none => s
  | some input => s.put component input.resignFromEditingMode

/-- `updateFocusCandidate` with `needScroll` false, as it is called by default. -/
def moveFocus (s : FocusFlow) (focusCandidate : LayerId) : FocusFlow :=
  if s.currentFocus_ = some focusCandidate then s
  else
    let s :=
      match s.currentFocus_ with
      | none => s
      | some currentFocus => (s.emit (.blur currentFocus)).onHandleBlur currentFocus
    { s.emit (.focus focusCandidate) with currentFocus_ := some focusCandidate }

/-- `requestForEditingMode` takes the focus first. -/
def requestForEditingMode (s : FocusFlow) (component : LayerId) : FocusFlow :=
  match s.input component with
  | none => s
  | some input =>
    if input.isInEditingMode_ then s
    else
      let s := s.moveFocus component
      match s.input component with
      | none => s
      | some input => s.put component input.requestForEditingMode

/-- `updateFocusCandidate` up to the scrolling (`RSkSpatialNavigator.cpp:418-437`). -/
def updateFocusCandidate (s : FocusFlow) (focusCandidate : LayerId) (needScroll : Bool) :
    FocusFlow :=
  if s.currentFocus_ = some focusCandidate then s
  else if needScroll then (s.moveFocus focusCandidate).requestForEditingMode focusCandidate
  else s.moveFocus focusCandidate

/-- `updateSpatialNavigatorState`, which calls no handler. -/
def updateSpatialNavigatorState (s : FocusFlow) (operation : NavigatorStateOperation)
    (candidate : LayerId) : FocusFlow :=
  match operation with
  | .ComponentAdded => s
  | .ComponentRemoved | .ComponentUpdated =>
    if s.currentFocus_ = some candidate then
      { s.emit (.blur candidate) with currentFocus_ := none }
    else s

/-- `onHandleKey` of a component; the flag is `stopPropagate`. -/
def onHandleKey (s : FocusFlow) (component : LayerId) (eventKeyType : RnsKey) (keyRepeat : Bool)
    (keyAction : RnsKeyAction) : Option (FocusFlow × Bool) :=
  match s.input component with
  | none => some (s, false)
  | some input => (input.onHandleKey eventKeyType keyRepeat keyAction).map fun result =>
      (s.put component (result.input, result.events), result.stopPropagation)

/-- The key as the component in focus gets it. -/
def sendToFocused (s : FocusFlow) (eventKeyType : RnsKey) (keyRepeat : Bool)
    (keyAction : RnsKeyAction) : Option (FocusFlow × Bool) :=
  match s.currentFocus_ with
  | none => some (s, false)
  | some currentFocused => s.onHandleKey currentFocused eventKeyType keyRepeat keyAction

/-- `processKey` (`ReactSkia/core_modules/RSkInputEventManager.cpp:107-137`) without the callbacks;
`target` is where the key takes the focus, if it does. -/
def processKey (s : FocusFlow) (eventKeyType : RnsKey) (keyRepeat : Bool)
    (keyAction : RnsKeyAction) (target : Option LayerId) : Option FocusFlow := do
  let (s, stopPropagate) ← s.sendToFocused eventKeyType keyRepeat keyAction
  if !stopPropagate && decide (keyAction = .RNS_KEY_Press) then
    match target with
    | none => return s
    | some focusCandidate => return s.updateFocusCandidate focusCandidate false
  else return s

/-- A round of the thread of an input, which ends with the focus of the input. -/
def processQueuedKey (s : FocusFlow) (component : LayerId)
    (stopPropagation waitForupdateProps : Bool) : Option FocusFlow :=
  match s.input component with
  | none => none
  | some input =>
    if input.isTextInputInFocus_ then
      s.handle component (.processQueuedKey stopPropagation waitForupdateProps)
    else none

end FocusFlow

/-- What happens to the focus and to the text inputs, each at once. -/
inductive FocusOp where
  | construct (component : LayerId)
  | updateFocusCandidate (focusCandidate : LayerId) (needScroll : Bool)
  | updateSpatialNavigatorState (operation : NavigatorStateOperation) (candidate : LayerId)
  | processKey (eventKeyType : RnsKey) (keyRepeat : Bool) (keyAction : RnsKeyAction)
      (target : Option LayerId)
  | processQueuedKey (component : LayerId) (stopPropagation waitForupdateProps : Bool)
  | updateComponentProps (component : LayerId) (props : TextInputProps) (forceUpdate : Bool)
  | setTextAndSelection (component : LayerId) (text : List Char)
  /-- The command `focus`. -/
  | requestForEditingMode (component : LayerId)
  /-- The command `blur`. -/
  | resignFromEditingMode (component : LayerId)

def FocusFlow.exec (s : FocusFlow) : FocusOp → Option FocusFlow
  | .construct component => s.construct component
  | .updateFocusCandidate focusCandidate needScroll =>
    some (s.updateFocusCandidate focusCandidate needScroll)
  | .updateSpatialNavigatorState operation candidate =>
    some (s.updateSpatialNavigatorState operation candidate)
  | .processKey eventKeyType keyRepeat keyAction target =>
    s.processKey eventKeyType keyRepeat keyAction target
  | .processQueuedKey component stopPropagation waitForupdateProps =>
    s.processQueuedKey component stopPropagation waitForupdateProps
  | .updateComponentProps component props forceUpdate =>
    s.handle component (.updateComponentProps props forceUpdate)
  | .setTextAndSelection component text => s.handle component (.setTextAndSelection text)
  | .requestForEditingMode component => some (s.requestForEditingMode component)
  | .resignFromEditingMode component => some (s.onHandleBlur component)

def focusStep (s : FocusFlow) (op : FocusOp) (s' : FocusFlow) : Prop := s.exec op = some s'

/-- The component that the navigator is told to drop. -/
def FocusOp.dropped : FocusOp → Option LayerId
  | .updateSpatialNavigatorState .ComponentRemoved candidate
  | .updateSpatialNavigatorState .ComponentUpdated candidate => some candidate
  | _ => none

/-- The component is a text input in editing mode. -/
def FocusFlow.isInEditingMode (s : FocusFlow) (component : LayerId) : Bool :=
  (s.inputs component).any TextInput.isInEditingMode_

/-- The focus is not taken away from an input in editing mode by a removal or by its props:
`updateSpatialNavigatorState` calls no `onHandleBlur`. -/
def KeepsEditor (s : FocusFlow) (op : FocusOp) : Prop :=
  op.dropped = s.currentFocus_ → op.dropped.any s.isInEditingMode = false

instance (s : FocusFlow) (op : FocusOp) : Decidable (KeepsEditor s op) :=
  inferInstanceAs (Decidable (_ → _))

/-- What is in focus and what is in editing mode after an event, `none` if it is out of order: one
session at a time, which opens in the focus and closes before another component has it. -/
def FocusEvent.next : Option LayerId × Option LayerId → FocusEvent →
    Option (Option LayerId × Option LayerId)
  | (current, editor), .blur component =>
    if current = some component then some (none, editor) else none
  | (current, editor), .focus component =>
    if current = none ∧ editor = none then some (some component, none) else none
  | (current, editor), .textInput component (.onFocus _) =>
    if current = some component ∧ editor = none then some (current, some component) else none
  | (current, editor), .textInput component (.onBlur _) =>
    if editor = some component then some (current, none) else none
  | (current, editor), .textInput component _ =>
    if editor = some component then some (current, editor) else none

/-! ## One input among the others -/

/-- A text input is in focus. -/
def FocusFlow.isTextInputInFocus (s : FocusFlow) : Bool :=
  s.currentFocus_.any fun component => (s.inputs component).any TextInput.isTextInputInFocus_

def FocusOp.constructs : FocusOp → Bool
  | .construct _ => true
  | _ => false

/-- `KeepsEditor`, and no input is made during a burst of another: the constructor would end it. -/
def KeepsBurst (s : FocusFlow) (op : FocusOp) : Prop :=
  KeepsEditor s op ∧
    (op.constructs = true → s.isTextInputInFocus = true → s.keys.isKeyRepeateOn = false)

instance (s : FocusFlow) (op : FocusOp) : Decidable (KeepsBurst s op) :=
  inferInstanceAs (Decidable (_ ∧ _))

/-- The events of one input among all that has been sent. -/
def FocusFlow.eventsOf (s : FocusFlow) (component : LayerId) : List TextInputEvent :=
  s.events.filterMap fun event =>
    match event with
    | .textInput sender event => if sender = component then some event else none
    | _ => none

/-- The input does not tell the queue of all from one of its own: outside of its focus the queue
holds nothing of it. -/
structure TextInput.Alike (keys : KeyQueue RnsKey) (input alone : TextInput) : Prop where
  same : alone = input.withKeys alone.keys
  queue : input.isTextInputInFocus_ = true → alone.keys = keys
  idle : input.isTextInputInFocus_ = false → alone.keys.inputQueue = []

end ReactNativeSkia
