import ReactNativeSkia.Components.TextInput

/-!
# A controlled input and its app

One text input with a `value`, the thread that `keyEventProcessingThread` runs on, and an app that
answers every `onChange` by committing its text as the new value. `onHandleKey` goes from one
critical section to the next, the thread from one access of shared state to the next, and an
update is what happens before, at and after `sem_post`
(`ReactSkia/components/RSkComponentTextInput.cpp:186-277, 395-449`).
-/

namespace ReactNativeSkia

/-- The keys that edit the text or move in it. -/
def RnsKey.isEditKey (key : RnsKey) : Bool :=
  key.isDisplayable || decide (key = .RNS_KEY_Back ∨ key = .RNS_KEY_Delete ∨
    key = .RNS_KEY_Left ∨ key = .RNS_KEY_Right)

/-- The text of an `onChange`. -/
def TextInputEvent.changedText : TextInputEvent → Option (List Char)
  | .onChange metrics => some metrics.text
  | _ => none

/-- Where the main thread is in `onHandleKey`. -/
inductive KeyHandler where
  | idle
  | noting (key : RnsKey)
  | pushing (key : RnsKey)
  deriving DecidableEq, Repr

/-- Where the thread is, with its own `waitForupdateProps`. -/
inductive KeyWorker where
  | absent
  | looping (waitForupdateProps : Bool)
  /-- The queue was not empty. -/
  | found (waitForupdateProps : Bool)
  | taken (key : RnsKey) (waitForupdateProps : Bool)
  /-- In `processEventKey`, with its copy of the text. -/
  | copied (key : RnsKey) (textString : List Char) (waitForupdateProps : Bool)
  /-- At `sem_wait`. -/
  | waiting (waitForupdateProps : Bool)
  deriving DecidableEq, Repr

/-- Where an update is. -/
inductive PropsUpdate where
  | idle
  | posting (props : TextInputProps)
  | storing (props : TextInputProps)
  deriving DecidableEq, Repr

/-- `commits` are the texts of the `onChange` events that are still to be committed, and `typed`
the keys in the order of their arrival. -/
structure ControlledInput where
  input : TextInput
  handler : KeyHandler := .idle
  worker : KeyWorker := .absent
  update : PropsUpdate := .idle
  commits : List (List Char) := []
  typed : List RnsKey := []
  deriving DecidableEq, Repr

inductive ControlledOp where
  /-- `onHandleKey` of a press that is not a repeat, up to its first section. -/
  | onHandleKey (key : RnsKey)
  | noteRepeat
  | push
  /-- The tests of the loop of the thread. -/
  | test
  | pop
  | copyText
  | processEventKey
  | wake
  /-- The first text that is to be committed reaches `updateComponentProps`. -/
  | updateComponentProps
  | post
  | store
  deriving DecidableEq, Repr

namespace KeyWorker

/-- The key that the thread has taken and not handled. -/
def key : KeyWorker → List RnsKey
  | taken key _ | copied key _ _ => [key]
  | _ => []

end KeyWorker

namespace KeyHandler

def key : KeyHandler → List RnsKey
  | noting key | pushing key => [key]
  | idle => []

end KeyHandler

namespace ControlledInput

/-- The first section and the way on. -/
def noteRepeat (s : ControlledInput) (key : RnsKey) : Option ControlledInput :=
  (s.input.keys.noteRepeat false).map fun result =>
    { s with
      input := s.input.withKeys result.1
      handler := if !result.2 && key.isQueued then .pushing key else .idle }

/-- The end of `processEventKey` on the copy of the text. -/
def processEventKey (s : ControlledInput) (key : RnsKey) (textString : List Char)
    (waitForupdateProps : Bool) : Option ControlledInput :=
  (s.input.processText textString key false waitForupdateProps false).map fun result =>
    { s with
      input := result.input
      worker :=
        if result.waitForupdateProps then .waiting result.waitForupdateProps
        else .looping result.waitForupdateProps
      commits := s.commits ++ result.events.filterMap TextInputEvent.changedText }

/-- The update with a text of the app, up to `sem_post`. -/
def commit (s : ControlledInput) (text : List Char) (commits : List (List Char)) :
    ControlledInput :=
  let props := { s.input.props with text := text, value := some text }
  { s with
    input := s.input.updateText props false
    update := if s.input.replacesText props false then .posting props else .storing props
    commits := commits }

end ControlledInput

namespace ControlledOp

/-- `none` if that is not what comes next, or if an index is out of range. -/
def exec (s : ControlledInput) : ControlledOp → Option ControlledInput
  | onHandleKey key =>
    if s.handler = .idle ∧ key.isEditKey = true ∧ s.input.editable_ = true ∧
        s.input.isInEditingMode_ = true ∧ s.input.props.value.isSome = true then
      some { s with
        input := s.input.takeFocus.1
        worker := if s.input.takeFocus.2 then .looping true else s.worker
        handler := .noting key
        typed := s.typed ++ [key] }
    else none
  | noteRepeat =>
    match s.handler with
    | .noting key => s.noteRepeat key
    | _ => none
  | push =>
    match s.handler with
    | .pushing key =>
      some { s with input := s.input.withKeys (s.input.keys.push key), handler := .idle }
    | _ => none
  | test =>
    match s.worker with
    | .looping waitForupdateProps =>
      if !s.input.isTextInputInFocus_ then some { s with worker := .absent }
      else if s.input.keys.inputQueue = [] then some s
      else some { s with worker := .found waitForupdateProps }
    | _ => none
  | pop =>
    match s.worker with
    | .found waitForupdateProps =>
      s.input.keys.pop.map fun result =>
        { s with
          input := s.input.withKeys result.2
          worker := .taken result.1 waitForupdateProps }
    | _ => none
  | copyText =>
    match s.worker with
    | .taken key waitForupdateProps =>
      some { s with worker := .copied key s.input.displayString_ waitForupdateProps }
    | _ => none
  | processEventKey =>
    match s.worker with
    | .copied key textString waitForupdateProps =>
      s.processEventKey key textString waitForupdateProps
    | _ => none
  | wake =>
    match s.worker with
    | .waiting waitForupdateProps =>
      if 0 < s.input.jsUpdateSem then
        some { s with
          input := { s.input with jsUpdateSem := s.input.jsUpdateSem - 1 }
          worker := .looping waitForupdateProps }
      else none
    | _ => none
  | updateComponentProps =>
    match s.update, s.commits with
    | .idle, text :: commits => some (s.commit text commits)
    | _, _ => none
  | post =>
    match s.update with
    | .posting props => some { s with input := s.input.postUpdate, update := .storing props }
    | _ => none
  | store =>
    match s.update with
    | .storing props => some { s with input := s.input.storeProps props, update := .idle }
    | _ => none

end ControlledOp

def controlledStep (s : ControlledInput) (op : ControlledOp) (s' : ControlledInput) : Prop :=
  op.exec s = some s'

namespace TextInput

/-- The same input without a value. -/
def uncontrolled (s : TextInput) : TextInput := { s with props := { s.props with value := none } }

/-- The presses of the keys one after the other. -/
def pressKeys (s : TextInput) (keys : List RnsKey) : Option TextInput :=
  keys.foldlM (fun s key => (s.onHandleKey key false .RNS_KEY_Press).map KeyResult.input) s

end TextInput

end ReactNativeSkia
