import ReactNativeSkia.Components.TextInput

/-!
# The events of a text input

The operations of `RSkComponentTextInput` with the events that they send, and the order in which
React expects these: an editing session opens with a focus and closes with a submit, an end and a
blur, keys are reported inside of it, and what follows from a key comes right behind it.
-/

namespace ReactNativeSkia

namespace TextInputOp

/-- The operation with its events in order. -/
def emit (s : TextInput) : TextInputOp → Option (TextInput × List TextInputEvent)
  | onHandleKey eventKeyType keyRepeat keyAction =>
    (s.onHandleKey eventKeyType keyRepeat keyAction).map fun result =>
      (result.input, result.events)
  | processQueuedKey stopPropagation waitForupdateProps =>
    (s.processQueuedKey stopPropagation waitForupdateProps).map fun result =>
      match result with
      | none => (s, [])
      | some result => (result.input, result.events)
  | updateComponentProps props forceUpdate => some (s.updateComponentProps props forceUpdate, [])
  | setTextAndSelection text => some (s.setTextAndSelection text, [])
  | requestForEditingMode => some s.requestForEditingMode
  | resignFromEditingMode => some s.resignFromEditingMode

end TextInputOp

/-- A text input with all the events it has sent. -/
structure TextInputLog where
  input : TextInput := {}
  events : List TextInputEvent := []
  deriving DecidableEq, Repr

def TextInputLog.exec (s : TextInputLog) (op : TextInputOp) : Option TextInputLog :=
  (op.emit s.input).map fun result => { input := result.1, events := s.events ++ result.2 }

def textInputLogStep (s : TextInputLog) (op : TextInputOp) (s' : TextInputLog) : Prop :=
  s.exec op = some s'

/-- Where the events of an editing session are: the name is that of the last event. -/
inductive EditingPhase where
  | blurred
  | focused
  | pressed
  | changed
  | resized
  | submitted
  | ended
  deriving DecidableEq, Repr

namespace EditingPhase

/-- The next event of a session, `none` if it is out of order. -/
def next : EditingPhase → TextInputEvent → Option EditingPhase
  | .blurred, .onFocus _ => some .focused
  | .focused, .onKeyPress _ _ | .pressed, .onKeyPress _ _ => some .pressed
  | .pressed, .onChange _ => some .changed
  | .changed, .onContentSizeChange _ => some .resized
  | .resized, .onSelectionChange _ | .pressed, .onSelectionChange _ => some .focused
  | .focused, .onSubmitEditing _ | .pressed, .onSubmitEditing _ => some .submitted
  | .submitted, .onEndEditing _ => some .ended
  | .ended, .onBlur _ => some .blurred
  | _, _ => none

/-- Between two operations a session is closed, or open with nothing owed to the last key. -/
def Rests (isInEditingMode : Bool) : EditingPhase → Prop
  | .blurred => isInEditingMode = false
  | .focused | .pressed => isInEditingMode = true
  | _ => False

end EditingPhase

/-- The count by which React tells the changes apart. -/
def TextInputEvent.changeCount : TextInputEvent → Option Int
  | .onChange metrics => some metrics.eventCount
  | _ => none

end ReactNativeSkia
