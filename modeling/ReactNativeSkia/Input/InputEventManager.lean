import ReactNativeSkia.Sdk.RNSKeyCodeMapping

/-!
# The input event manager

`RSkInputEventManager::keyHandler` (`ReactSkia/core_modules/RSkInputEventManager.cpp`) with the
global variables `keyRepeat` and `previousKeyType`. With key throttling it queues what it hands on,
without it calls `processKey`.
-/

namespace ReactNativeSkia

structure KeyEvent where
  eventKeyType : RnsKey
  eventKeyAction : RnsKeyAction
  deriving DecidableEq, Repr

structure RSkKeyInput where
  key_ : RnsKey
  action_ : RnsKeyAction
  repeat_ : Bool
  deriving DecidableEq, Repr

/-- `handed` is everything that `keyHandler` has handed on, in order. -/
structure InputEventManager where
  keyRepeat : Bool := false
  previousKeyType : RnsKey := .RNS_KEY_UnKnown
  keyQueue_ : List RSkKeyInput := []
  handed : List RSkKeyInput := []
  deriving DecidableEq, Repr

namespace InputEventManager

/-- The branch for `RNS_KEY_Release`. The end of a repeat flushes the queue. -/
def release (s : InputEventManager) : InputEventManager :=
  { s with
    previousKeyType := .RNS_KEY_UnKnown
    keyRepeat := false
    keyQueue_ := if s.keyRepeat then [] else s.keyQueue_ }

def handOn (s : InputEventManager) (throttling : Bool) (keyInput : RSkKeyInput) :
    InputEventManager :=
  { s with
    keyQueue_ := if throttling then s.keyQueue_ ++ [keyInput] else s.keyQueue_
    handed := s.handed ++ [keyInput] }

def keyHandler (throttling : Bool) (s : InputEventManager) (event : KeyEvent) :
    InputEventManager :=
  let s :=
    if s.previousKeyType = event.eventKeyType ∧ event.eventKeyAction = .RNS_KEY_Press then
      { s with keyRepeat := true }
    else s
  let s := if event.eventKeyAction = .RNS_KEY_Release then s.release else s
  let keyInput : RSkKeyInput := ⟨event.eventKeyType, event.eventKeyAction, s.keyRepeat⟩
  { s with previousKeyType := event.eventKeyType }.handOn throttling keyInput

end InputEventManager

end ReactNativeSkia
