import ReactNativeSkia.Components.KeyQueue
import ReactNativeSkia.Sdk.RNSKeyCodeMapping
import Mathlib.Tactic.Simps.Basic

/-!
# The text input

`RSkComponentTextInput` (`ReactSkia/components/RSkComponentTextInput.cpp:178-600`) without what is
drawn: the caret, the placeholder, the colours, the metrics of the paragraph and the on-screen
keyboard. A `std::string` is the list of its characters, and `none` stands for an index outside
the string that `insert` or `erase` is applied to.
-/

namespace ReactNativeSkia

/-- `cursor`, `locationFromEnd` being counted from the end and `end_` the length of the text. -/
@[ext] structure Cursor where
  locationFromEnd : Int := 0
  end_ : Int := 0
  deriving DecidableEq, Repr

/-- The props that the code reads, those of `traits` included. -/
structure TextInputProps where
  text : List Char := []
  value : Option (List Char) := none
  defaultValue : Option (List Char) := none
  maxLength : Int := 0
  editable : Bool := true
  clearTextOnFocus : Bool := false
  deriving DecidableEq, Repr

/-- `TextInputMetrics`, its range being of length 0. -/
structure TextInputMetrics where
  text : List Char := []
  selectionLocation : Int := 0
  eventCount : Int := 0
  deriving DecidableEq, Repr

/-- The events of the `TextInputEventEmitter`. Only a key press that moves the cursor comes with
an event count. -/
inductive TextInputEvent where
  | onKeyPress (text : List Char) (eventCount : Option Int)
  | onChange (metrics : TextInputMetrics)
  | onContentSizeChange (metrics : TextInputMetrics)
  | onSelectionChange (metrics : TextInputMetrics)
  | onFocus (metrics : TextInputMetrics)
  | onSubmitEditing (metrics : TextInputMetrics)
  | onEndEditing (metrics : TextInputMetrics)
  | onBlur (metrics : TextInputMetrics)
  deriving DecidableEq, Repr

/-- The component, the queue of its keys and the semaphore, which are global in the source. -/
structure TextInput where
  props : TextInputProps := {}
  isInEditingMode_ : Bool := false
  editable_ : Bool := true
  isTextInputInFocus_ : Bool := false
  eventCount_ : Int := 0
  maxLength_ : Int := 0
  displayString_ : List Char := []
  cursor_ : Cursor := {}
  keys : KeyQueue RnsKey := {}
  jsUpdateSem : Nat := 0
  deriving DecidableEq, Repr

/-- What the processing of a key leaves behind: the component, the two flags that it may write to,
and the events in order. -/
structure KeyResult where
  input : TextInput
  stopPropagation : Bool
  waitForupdateProps : Bool
  events : List TextInputEvent := []
  deriving DecidableEq, Repr

/-- `std::string::insert` of a string at an index. -/
def insertString (textString : List Char) (index : Int) (text : List Char) :
    Option (List Char) :=
  if 0 ≤ index ∧ index ≤ textString.length then
    some (textString.take index.toNat ++ text ++ textString.drop index.toNat)
  else none

/-- `std::string::erase` of the character at an index. -/
def eraseChar (textString : List Char) (index : Int) : Option (List Char) :=
  if 0 ≤ index ∧ index < textString.length then some (textString.eraseIdx index.toNat) else none

namespace RnsKey

/-- In the range of the displayable characters. -/
def isDisplayable (key : RnsKey) : Bool := key.between .RNS_KEY_1 .RNS_KEY_Less

/-- In the range of the keys that a controlled input queues. -/
def isQueued (key : RnsKey) : Bool := key.between .RNS_KEY_Up .RNS_KEY_Back

end RnsKey

namespace TextInput

@[simps] def withEnd (s : TextInput) (end_ : Int) : TextInput :=
  { s with cursor_ := { locationFromEnd := s.cursor_.locationFromEnd, end_ := end_ } }

@[simps] def withLocationFromEnd (s : TextInput) (locationFromEnd : Int) : TextInput :=
  { s with cursor_ := { locationFromEnd := locationFromEnd, end_ := s.cursor_.end_ } }

@[simps] def withKeys (s : TextInput) (keys : KeyQueue RnsKey) : TextInput :=
  { s with keys := keys }

/-- `requestForEditingMode` (`RSkComponentTextInput.cpp:526-572`). -/
def requestForEditingMode (s : TextInput) : TextInput × List TextInputEvent :=
  if s.isInEditingMode_ then (s, [])
  else
    let s := { s with isInEditingMode_ := true }
    (if s.props.clearTextOnFocus && !s.displayString_.isEmpty then
        { s with displayString_ := [], cursor_ := { locationFromEnd := 0, end_ := 0 } }
      else s,
      [.onFocus {}])

/-- `resignFromEditingMode` (`RSkComponentTextInput.cpp:574-602`). -/
def resignFromEditingMode (s : TextInput) : TextInput × List TextInputEvent :=
  if !s.isInEditingMode_ then (s, [])
  else
    let s :=
      if s.isTextInputInFocus_ then { s with isTextInputInFocus_ := false, keys := s.keys.clear }
      else s
    let textInputMetrics : TextInputMetrics :=
      { text := s.displayString_, eventCount := s.eventCount_ }
    ({ s with isInEditingMode_ := false },
      [.onSubmitEditing textInputMetrics, .onEndEditing textInputMetrics,
        .onBlur textInputMetrics])

/-! ## `processEventKey` (`RSkComponentTextInput.cpp:279-393`) -/

/-- The text with a character at the cursor. -/
def insertAtCursor (s : TextInput) (textString text : List Char) : Option (List Char) :=
  if s.cursor_.locationFromEnd ≠ 0 then
    insertString textString (s.cursor_.end_ - s.cursor_.locationFromEnd) text
  else some (textString ++ text)

/-- What `updateString` makes of the edited text: a longer text than `maxLength_` overwrites the
shown characters and adds none. -/
def updateDisplayString (s : TextInput) (textString : List Char) (textLengthBeforeEdit : Nat) :
    TextInput :=
  let displayString_ :=
    if s.displayString_ = textString then s.displayString_
    else if s.maxLength_ ≠ 0 ∧ (textString.length : Int) > s.maxLength_ ∧
        textString.length > textLengthBeforeEdit then
      textString.take textLengthBeforeEdit ++ s.displayString_.drop textLengthBeforeEdit
    else textString
  { s with displayString_ := displayString_ }.withEnd displayString_.length

/-- What follows the edit. -/
def finishEdit (s : TextInput) (eventKeyType : RnsKey) (textString : List Char)
    (textLengthBeforeEdit : Nat) (waitForupdateProps updateString : Bool) : KeyResult :=
  let location := s.cursor_.end_ - s.cursor_.locationFromEnd
  let s := if updateString then s.updateDisplayString textString textLengthBeforeEdit else s
  let s := { s with eventCount_ := s.eventCount_ + 1 }
  let textInputMetrics : TextInputMetrics :=
    { text := textString, selectionLocation := location, eventCount := s.eventCount_ }
  { input := s
    stopPropagation := true
    waitForupdateProps := waitForupdateProps
    events := .onKeyPress (RNSKeyMap eventKeyType) none ::
      if s.maxLength_ ≠ 0 ∧ (textString.length : Int) > s.maxLength_ then []
      else [.onChange textInputMetrics, .onContentSizeChange textInputMetrics,
        .onSelectionChange textInputMetrics] }

/-- The cursor moves by one, if there is room. -/
def moveCursor (s : TextInput) (eventKeyType : RnsKey) : KeyResult :=
  let keyPress : TextInputEvent := .onKeyPress (RNSKeyMap eventKeyType) (some s.eventCount_)
  let moved (locationFromEnd : Int) : KeyResult :=
    { input := s.withLocationFromEnd locationFromEnd
      stopPropagation := true
      waitForupdateProps := false
      events := [keyPress,
        .onSelectionChange { selectionLocation := s.cursor_.end_ - locationFromEnd }] }
  let stays : KeyResult :=
    { input := s, stopPropagation := true, waitForupdateProps := false, events := [keyPress] }
  if eventKeyType = .RNS_KEY_Left then
    if s.cursor_.locationFromEnd < s.cursor_.end_ then moved (s.cursor_.locationFromEnd + 1)
    else stays
  else if s.cursor_.locationFromEnd > 0 then moved (s.cursor_.locationFromEnd - 1)
  else stays

/-- `processEventKey` on the copy `textString` of the text. -/
def processText (s : TextInput) (textString : List Char) (eventKeyType : RnsKey)
    (stopPropagation waitForupdateProps updateString : Bool) : Option KeyResult :=
  if eventKeyType.isDisplayable then do
    let edited ← s.insertAtCursor textString (RNSKeyMap eventKeyType)
    return (s.withEnd edited.length).finishEdit eventKeyType edited
      textString.length waitForupdateProps updateString
  else if eventKeyType = .RNS_KEY_Left ∨ eventKeyType = .RNS_KEY_Right then
    some (s.moveCursor eventKeyType)
  else if eventKeyType = .RNS_KEY_Up ∨ eventKeyType = .RNS_KEY_Down then
    some { input := s, stopPropagation := true, waitForupdateProps := false }
  else if eventKeyType = .RNS_KEY_Back ∨ eventKeyType = .RNS_KEY_Delete then
    if textString ≠ [] ∧ s.cursor_.end_ ≠ s.cursor_.locationFromEnd then do
      let edited ← eraseChar textString (s.cursor_.end_ - s.cursor_.locationFromEnd - 1)
      return (s.withEnd edited.length).finishEdit eventKeyType edited
        textString.length waitForupdateProps updateString
    else
      some (s.finishEdit eventKeyType textString textString.length false updateString)
  else if eventKeyType = .RNS_KEY_Select then
    let (s, events) := { s with eventCount_ := s.eventCount_ + 1 }.resignFromEditingMode
    some { input := s, stopPropagation := true, waitForupdateProps := waitForupdateProps,
           events := events }
  else if eventKeyType = .RNS_KEY_Caps_Lock ∨ eventKeyType = .RNS_KEY_Shift_L ∨
      eventKeyType = .RNS_KEY_Shift_R then
    some { input := s, stopPropagation := true, waitForupdateProps := false }
  else some { input := s, stopPropagation := stopPropagation, waitForupdateProps := false }

def processEventKey (s : TextInput) (eventKeyType : RnsKey)
    (stopPropagation waitForupdateProps updateString : Bool) : Option KeyResult :=
  s.processText s.displayString_ eventKeyType stopPropagation waitForupdateProps updateString

/-! ## `onHandleKey` (`RSkComponentTextInput.cpp:186-277`) -/

/-- The key event that is not a press. -/
def releaseStopsPropagation (s : TextInput) (eventKeyType : RnsKey) : Bool :=
  (!s.isInEditingMode_ && decide (eventKeyType = .RNS_KEY_Select)) ||
    (s.isInEditingMode_ && eventKeyType.isQueued)

/-- The focus that a key takes in a controlled input; the second component tells that a thread is
started. -/
def takeFocus (s : TextInput) : TextInput × Bool :=
  if s.isTextInputInFocus_ then (s, false)
  else ({ s with isTextInputInFocus_ := true, keys := s.keys.resetRepeat }, true)

/-- What `onHandleKey` does with `Select` in a controlled input. -/
def selectControlled (s : TextInput) : TextInput × List TextInputEvent :=
  let s := { s with isTextInputInFocus_ := false, keys := s.keys.clear }
  { s with eventCount_ := s.eventCount_ + 1 }.resignFromEditingMode

/-- A press in a controlled input: the critical sections one after the other. -/
def handleControlledKey (s : TextInput) (eventKeyType : RnsKey) (keyRepeat : Bool) :
    Option KeyResult := do
  let s := s.takeFocus.1
  let (keys, burstEnds) ← s.keys.noteRepeat keyRepeat
  let s := s.withKeys keys
  if burstEnds then return { input := s, stopPropagation := false, waitForupdateProps := false }
  else if eventKeyType.isQueued then
    return { input := s.withKeys (s.keys.push eventKeyType), stopPropagation := true,
             waitForupdateProps := false }
  else if eventKeyType = .RNS_KEY_Select then
    return { input := s.selectControlled.1, stopPropagation := true, waitForupdateProps := false,
             events := s.selectControlled.2 }
  else return { input := s, stopPropagation := false, waitForupdateProps := false }

def onHandleKey (s : TextInput) (eventKeyType : RnsKey) (keyRepeat : Bool)
    (keyAction : RnsKeyAction) : Option KeyResult :=
  if !s.editable_ then
    some { input := s, stopPropagation := false, waitForupdateProps := false }
  else if keyAction = .RNS_KEY_Release then
    some { input := s, stopPropagation := s.releaseStopsPropagation eventKeyType,
           waitForupdateProps := false }
  else if s.isInEditingMode_ = false ∧ eventKeyType = .RNS_KEY_Select then
    some { input := s.requestForEditingMode.1, stopPropagation := false,
           waitForupdateProps := false, events := s.requestForEditingMode.2 }
  else if s.isInEditingMode_ then
    if s.props.value.isSome then s.handleControlledKey eventKeyType keyRepeat
    else s.processEventKey eventKeyType false false true
  else some { input := s, stopPropagation := false, waitForupdateProps := false }

/-! ## The other events -/

/-- A round of `keyEventProcessingThread` (`RSkComponentTextInput.cpp:395-424`) up to the wait,
with the flags as the thread has them: `none` in the result is a round that finds the queue
empty. -/
def processQueuedKey (s : TextInput) (stopPropagation waitForupdateProps : Bool) :
    Option (Option KeyResult) :=
  match s.keys.pop with
  | none => some none
  | some (eventKeyType, keys) =>
    ((s.withKeys keys).processEventKey eventKeyType stopPropagation waitForupdateProps false).map
      some

/-- The props replace the text (`RSkComponentTextInput.cpp:437-440`). -/
def replacesText (s : TextInput) (props : TextInputProps) (forceUpdate : Bool) : Bool :=
  decide (props.text ≠ s.displayString_) &&
    (props.value.isSome || (props.defaultValue.isSome && forceUpdate))

/-- The critical section of an update and of `setTextAndSelection`. -/
def withText (s : TextInput) (textString : List Char) : TextInput :=
  { s with displayString_ := textString }.withEnd textString.length

/-- `sem_post`, if there is a thread to wait for it. -/
def postUpdate (s : TextInput) : TextInput :=
  if s.isTextInputInFocus_ then { s with jsUpdateSem := s.jsUpdateSem + 1 } else s

/-- `updateComponentProps` up to `sem_post`. -/
def updateText (s : TextInput) (props : TextInputProps) (forceUpdate : Bool) : TextInput :=
  let s := { s with maxLength_ := props.maxLength }
  if s.replacesText props forceUpdate then s.withText props.text else s

/-- The rest of `updateComponentProps`, and the props that its caller stores. -/
def storeProps (s : TextInput) (props : TextInputProps) : TextInput :=
  { s with editable_ := props.editable, props := props }

/-- `updateComponentProps` (`RSkComponentTextInput.cpp:426-503`). -/
def updateComponentProps (s : TextInput) (props : TextInputProps) (forceUpdate : Bool) :
    TextInput :=
  let updated := s.updateText props forceUpdate
  (if s.replacesText props forceUpdate then updated.postUpdate else updated).storeProps props

/-- `handleCommand` with the command `setTextAndSelection`
(`RSkComponentTextInput.cpp:505-516`). -/
def setTextAndSelection (s : TextInput) (text : List Char) : TextInput :=
  (s.withText text).postUpdate

end TextInput

/-- What happens to one text input, each at once. `processQueuedKey` is a round of the thread; the
focus and the blur come as commands and from the focus engine. -/
inductive TextInputOp where
  | onHandleKey (eventKeyType : RnsKey) (keyRepeat : Bool) (keyAction : RnsKeyAction)
  | processQueuedKey (stopPropagation waitForupdateProps : Bool)
  | updateComponentProps (props : TextInputProps) (forceUpdate : Bool)
  | setTextAndSelection (text : List Char)
  | requestForEditingMode
  | resignFromEditingMode

namespace TextInputOp

/-- `none` if an index is out of range or the queue is used while it is empty. -/
def exec (s : TextInput) : TextInputOp → Option TextInput
  | onHandleKey eventKeyType keyRepeat keyAction =>
    (s.onHandleKey eventKeyType keyRepeat keyAction).map KeyResult.input
  | processQueuedKey stopPropagation waitForupdateProps =>
    (s.processQueuedKey stopPropagation waitForupdateProps).map fun result =>
      (result.map KeyResult.input).getD s
  | updateComponentProps props forceUpdate => some (s.updateComponentProps props forceUpdate)
  | setTextAndSelection text => some (s.setTextAndSelection text)
  | requestForEditingMode => some s.requestForEditingMode.1
  | resignFromEditingMode => some s.resignFromEditingMode.1

end TextInputOp

def textInputStep (s : TextInput) (op : TextInputOp) (s' : TextInput) : Prop :=
  op.exec s = some s'

end ReactNativeSkia
