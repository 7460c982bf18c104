import ReactNativeSkia.Components.KeyQueue
import ReactNativeSkia.Sdk.RNSKeyCodeMapping

/-!
# The two sides of the input queue

`onHandleKey`, a blur and the threads that `keyEventProcessingThread` runs on
(`ReactSkia/components/RSkComponentTextInput.cpp:186-277, 395-424, 574-586`), for an editable input
with a `value`. The critical sections of `inputQueueMutex` and the unlocked reads and writes are
the steps. A press has a number, which the code does not see, so that two presses of one key are
not the same. What `processEventKey` does to the text is left out, and so is how long a thread
waits for an update.
-/

namespace ReactNativeSkia

/-- A press that has reached an input in editing mode. -/
structure KeyPress where
  number : Nat
  eventKeyType : RnsKey
  keyRepeat : Bool
  deriving DecidableEq, Repr

/-- A press that is not a repeat, of a key that is queued. -/
def KeyPress.counts (press : KeyPress) : Bool :=
  !press.keyRepeat && press.eventKeyType.between .RNS_KEY_Up .RNS_KEY_Back

/-- Where the main thread is in `onHandleKey` and `resignFromEditingMode`. -/
inductive MainThread where
  | idle
  /-- Before the section that looks at `keyRepeat`. -/
  | noting (press : KeyPress)
  /-- Before the section that pushes. -/
  | pushing (press : KeyPress)
  /-- With `Select`, before `isTextInputInFocus_` is cleared. -/
  | selecting
  /-- Before the section that swaps the queue with an empty one. -/
  | clearing
  /-- Before `isInEditingMode_` is cleared. -/
  | resigning
  deriving DecidableEq, Repr

/-- Where a thread is in the loop of `keyEventProcessingThread`. -/
inductive KeyThread where
  /-- Before the test of `isTextInputInFocus_`. -/
  | looping
  /-- Before the test of `inputQueue.empty()`. -/
  | testing
  /-- The queue was not empty. -/
  | found
  | taken (press : KeyPress)
  /-- At `sem_wait`. -/
  | waiting
  | exited
  deriving DecidableEq, Repr

/-- The shared variables and the threads, the one started last coming first. `handled` are the
calls of `processEventKey` in order. `accepted` are the presses that count, in the order of their
arrival, without those that were queued when the input left editing mode. `emptyPop` tells that
`front()` or `pop()` met an empty queue. -/
structure KeyThreads where
  isInEditingMode_ : Bool := false
  isTextInputInFocus_ : Bool := false
  keys : KeyQueue KeyPress := {}
  main : MainThread := .idle
  threads : List KeyThread := []
  handled : List KeyPress := []
  accepted : List KeyPress := []
  arrived : Nat := 0
  emptyPop : Bool := false
  deriving DecidableEq, Repr

/-- A step of the main thread, or of one of the other threads. -/
inductive KeyThreadsOp where
  /-- `requestForEditingMode`. -/
  | requestForEditingMode
  /-- `onHandleKey` up to its first section. -/
  | onHandleKey (eventKeyType : RnsKey) (keyRepeat : Bool)
  | noteRepeat
  | push
  | select
  | clear
  | resign
  /-- The start of `resignFromEditingMode` on a blur. -/
  | blur
  | testFocus (thread : Nat)
  | testEmpty (thread : Nat)
  | pop (thread : Nat)
  /-- `processEventKey`, which leaves the thread waiting or not. -/
  | processEventKey (thread : Nat) (waitForupdateProps : Bool)
  | wake (thread : Nat)
  deriving DecidableEq, Repr

namespace KeyThread

/-- What the thread has taken from the queue and not handed on. -/
def press : KeyThread → List KeyPress
  | taken press => [press]
  | _ => []

end KeyThread

namespace MainThread

/-- What has arrived and is not queued yet. -/
def press : MainThread → List KeyPress
  | noting press | pushing press => [press]
  | _ => []

end MainThread

namespace KeyThreads

def withMain (s : KeyThreads) (main : MainThread) : KeyThreads := { s with main := main }

def withThread (s : KeyThreads) (thread : Nat) (t : KeyThread) : KeyThreads :=
  { s with threads := s.threads.set thread t }

/-- A focused input has a thread already. -/
def takeFocus (s : KeyThreads) : KeyThreads :=
  if s.isTextInputInFocus_ then s
  else { s with
    isTextInputInFocus_ := true
    keys := s.keys.resetRepeat
    threads := .looping :: s.threads }

def arrive (s : KeyThreads) (eventKeyType : RnsKey) (keyRepeat : Bool) : KeyThreads :=
  let press : KeyPress :=
    { number := s.arrived, eventKeyType := eventKeyType, keyRepeat := keyRepeat }
  { s with
    arrived := s.arrived + 1
    accepted := if press.counts then s.accepted ++ [press] else s.accepted
    main := .noting press }

/-- The first section, and which way `onHandleKey` goes on. -/
def noteRepeat (s : KeyThreads) (press : KeyPress) : KeyThreads :=
  match s.keys.noteRepeat press.keyRepeat with
  | none => { s with emptyPop := true, main := .idle }
  | some (keys, burstEnds) =>
    { s with
      keys := keys
      main :=
        if burstEnds then .idle
        else if press.eventKeyType.between .RNS_KEY_Up .RNS_KEY_Back then .pushing press
        else if press.eventKeyType = .RNS_KEY_Select then .selecting
        else .idle }

def clear (s : KeyThreads) : KeyThreads :=
  { s with
    accepted := s.accepted.filter fun press => decide (press ∉ s.keys.inputQueue)
    keys := s.keys.clear
    main := .resigning }

/-- The section of a thread that takes the front of the queue. -/
def pop (s : KeyThreads) (thread : Nat) : KeyThreads :=
  match s.keys.pop with
  | none => { s with emptyPop := true }.withThread thread .exited
  | some (press, keys) => { s with keys := keys }.withThread thread (.taken press)

end KeyThreads

namespace KeyThreadsOp

/-- `none` if that is not what the thread does next. -/
def exec (s : KeyThreads) : KeyThreadsOp → Option KeyThreads
  | requestForEditingMode =>
    if s.main = .idle then some { s with isInEditingMode_ := true } else none
  | onHandleKey eventKeyType keyRepeat =>
    if s.main = .idle ∧ s.isInEditingMode_ = true then
      some (s.takeFocus.arrive eventKeyType keyRepeat)
    else none
  | noteRepeat =>
    match s.main with
    | .noting press => some (s.noteRepeat press)
    | _ => none
  | push =>
    match s.main with
    | .pushing press => some ({ s with keys := s.keys.push press }.withMain .idle)
    | _ => none
  | select =>
    if s.main = .selecting then some ({ s with isTextInputInFocus_ := false }.withMain .clearing)
    else none
  | clear => if s.main = .clearing then some s.clear else none
  | resign =>
    if s.main = .resigning then some ({ s with isInEditingMode_ := false }.withMain .idle)
    else none
  | blur =>
    if s.main = .idle ∧ s.isInEditingMode_ = true then
      if s.isTextInputInFocus_ then
        some ({ s with isTextInputInFocus_ := false }.withMain .clearing)
      else some (s.withMain .resigning)
    else none
  | testFocus thread =>
    if s.threads[thread]? = some .looping then
      some (s.withThread thread (if s.isTextInputInFocus_ then .testing else .exited))
    else none
  | testEmpty thread =>
    if s.threads[thread]? = some .testing then
      some (s.withThread thread (if s.keys.inputQueue = [] then .looping else .found))
    else none
  | pop thread => if s.threads[thread]? = some .found then some (s.pop thread) else none
  | processEventKey thread waitForupdateProps =>
    match s.threads[thread]? with
    | some (.taken press) =>
      some ({ s with handled := s.handled ++ [press] }.withThread thread
        (if waitForupdateProps then .waiting else .looping))
    | _ => none
  | wake thread =>
    if s.threads[thread]? = some .waiting then some (s.withThread thread .looping) else none

end KeyThreadsOp

def keyThreadsStep (s : KeyThreads) (op : KeyThreadsOp) (s' : KeyThreads) : Prop :=
  op.exec s = some s'

end ReactNativeSkia
