import ReactNativeSkia.Components.TextInput
import ReactNativeSkia.Misc.TextZipper
import ReactNativeSkia.Sdk.OnScreenKeyboard

/-!
# Typing on the on-screen keyboard

What `drawKBKeyFont` draws of a key (`ReactSkia/sdk/OnScreenKeyBoard.cpp:346-395`), the key events
that `onHWkeyHandler` and `processKey` emit (`:521-664`), and the text input that they reach
(`ReactSkia/core_modules/RSkInputEventManager.cpp`). The icons of the function keys stand for their
names. A press that emits no key does not reach the text input.
-/

namespace ReactNativeSkia

def LOWER_TO_UPPER_CASE_OFFSET : Nat := 32

/-- What is drawn of a key. -/
structure KeyTile where
  keyName : List Char
  keyType : KeyType
  deriving DecidableEq, Repr

def KeyInfo.tile (kbLayoutType : KBLayoutType) (key : KeyInfo) : KeyTile :=
  { keyName :=
      if key.keyType = .KEY_TYPE_TEXT ∧ kbLayoutType = .ALPHA_UPPERCASE_LAYOUT ∧
          key.keyName.head?.any Char.isAlpha then
        (key.keyName.take 1).map fun c => Char.ofNat (c.toNat - LOWER_TO_UPPER_CASE_OFFSET)
      else key.keyName
    keyType := key.keyType }

/-- What the user of an editor asks for. -/
inductive Keystroke where
  | insert (text : List Char)
  | delete
  | left
  | right
  | submit
  deriving DecidableEq, Repr

namespace Keystroke

/-- Text that there is no room for is put over the text behind the cursor. -/
def apply (maxLength : Int) (z : TextZipper Char) : Keystroke → TextZipper Char
  | insert text =>
    if maxLength ≠ 0 ∧ ((z.insert text).text.length : Int) > maxLength then z.overtype text
    else z.insert text
  | delete => z.backspace
  | left => z.left
  | right => z.right
  | submit => z

/-- What a function key says. -/
def ofName (keyName : List Char) : Option Keystroke :=
  if keyName = "space".toList then some (.insert [' '])
  else if keyName = "delete".toList then some .delete
  else if keyName = "left".toList then some .left
  else if keyName = "right".toList then some .right
  else if keyName = "return".toList then some .submit
  else none

/-- What a key says. -/
def ofTile (tile : KeyTile) : Option Keystroke :=
  match tile.keyType with
  | .KEY_TYPE_TEXT => some (.insert tile.keyName)
  | .KEY_TYPE_FUNCTION => ofName tile.keyName
  | .KEY_TYPE_TOGGLE | .KEY_TYPE_COUNT => none

/-- What the key of another keyboard is pressed for. -/
def ofKey (keyValue : RnsKey) : Option Keystroke :=
  if keyValue.isDisplayable then some (.insert (RNSKeyMap keyValue))
  else
    match keyValue with
    | .RNS_KEY_Delete | .RNS_KEY_Back => some .delete
    | .RNS_KEY_Left => some .left
    | .RNS_KEY_Right => some .right
    | .RNS_KEY_Select => some .submit
    | _ => none

end Keystroke

namespace OnScreenKeyboard

variable {Pos : Type} (layouts : KBLayouts) (s : OnScreenKeyboard Pos)

/-- The value of a key that is found in the layout. -/
def knownKeyValue (keyValue : RnsKey) : Int :=
  if (s.knownKey layouts keyValue).isSome then keyValue.ctorIdx
  else RnsKey.RNS_KEY_UnKnown.ctorIdx

/-- `OSKkeyValue` at the end of `processKey`: what is emitted, if it is not `RNS_KEY_UnKnown`. -/
def emittedKeyValue (keyValue : RnsKey) : Int :=
  if keyValue = .RNS_KEY_UnKnown ∨ s.oskState_ ≠ .OSK_STATE_ACTIVE ∨
      (navigation keyValue).isSome then
    RnsKey.RNS_KEY_UnKnown.ctorIdx
  else if keyValue = .RNS_KEY_Select then
    match s.keyInfoAt layouts s.currentFocussIndex_ with
    | some key =>
      if key.keyValue = .RNS_KEY_Select then s.knownKeyValue layouts .RNS_KEY_Select
      else if key.keyType = .KEY_TYPE_TOGGLE then RnsKey.RNS_KEY_UnKnown.ctorIdx
      else layoutKeyValue s.kbLayoutType key
    | none => RnsKey.RNS_KEY_UnKnown.ctorIdx
  else s.knownKeyValue layouts keyValue

/-- The press that is emitted for a press. -/
def pressedKey (keyValue : RnsKey) : Option RnsKey :=
  if s.emittedKeyValue layouts keyValue = RnsKey.RNS_KEY_UnKnown.ctorIdx then none
  else some (RnsKey.ofNat (s.emittedKeyValue layouts keyValue).toNat)

/-- The release that is emitted for a release. -/
def releasedKey (keyValue : RnsKey) : RnsKey :=
  if s.emittedOSKKey_ ≠ RnsKey.RNS_KEY_UnKnown.ctorIdx then RnsKey.ofNat s.emittedOSKKey_.toNat
  else keyValue

end OnScreenKeyboard

/-- The keyboard at a text input. The keys were drawn for `shownAs` last. `strokes` is what the
presses have asked for, and `lastPressed` the last press emitted since the keyboard was left. -/
structure OSKSession (Pos : Type) where
  osk : OnScreenKeyboard Pos := {}
  shownAs : KBLayoutType := .ALPHA_LOWERCASE_LAYOUT
  input : TextInput := {}
  strokes : List Keystroke := []
  lastPressed : Option RnsKey := none

inductive OSKSessionOp where
  | launch (oskConfig : OSKConfig) (mainscreenSize : SkSize)
  | windowReadyToDrawCB
  | press (keyValue : RnsKey) (keyRepeat : Bool)
  | release (keyValue : RnsKey) (keyRepeat : Bool)
  | exit
  deriving DecidableEq, Repr

namespace OSKSession

variable {Pos : Type} (layouts : KBLayouts) (geometry : KeyGeometry Pos) (s : OSKSession Pos)

/-- The keys are drawn for the type that the layout has when it is drawn. -/
def withOSK (osk : OnScreenKeyboard Pos) : OSKSession Pos :=
  { s with
    osk := osk
    shownAs :=
      if osk.draws.length = s.osk.draws.length then s.shownAs else osk.kbLayoutType }

/-- The key on the screen. -/
def tileAt (index : SkPoint) : Option KeyTile := do
  let draw ← s.osk.draws.getLast?
  let key ← atIndex (layouts.layout draw.keyboard).keyInfo index
  some (key.tile s.shownAs)

/-- What a press asks for: what the key in focus says, or another key that is in the layout. -/
def stroke (keyValue : RnsKey) : Option Keystroke :=
  if s.osk.oskState_ ≠ .OSK_STATE_ACTIVE ∨ (navigation keyValue).isSome then none
  else if keyValue = .RNS_KEY_Select then
    (s.tileAt layouts s.osk.currentFocussIndex_).bind Keystroke.ofTile
  else (s.osk.knownKey layouts keyValue).bind fun _ => Keystroke.ofKey keyValue

/-- `onHandleKey`, if there is a key. -/
def handleKey (key : Option RnsKey) (keyRepeat : Bool) (keyAction : RnsKeyAction) :
    Option TextInput :=
  match key with
  | some key => (s.input.onHandleKey key keyRepeat keyAction).map KeyResult.input
  | none => some s.input

def press (keyValue : RnsKey) (keyRepeat : Bool) : Option (OSKSession Pos) := do
  let osk ← s.osk.processKey layouts geometry keyValue
  let input ← s.handleKey (s.osk.pressedKey layouts keyValue) keyRepeat .RNS_KEY_Press
  some { s.withOSK osk with
    input := input
    strokes := s.strokes ++ (s.stroke layouts keyValue).toList
    lastPressed := (s.osk.pressedKey layouts keyValue).or s.lastPressed }

def release (keyValue : RnsKey) (keyRepeat : Bool) : Option (OSKSession Pos) := do
  let input ← s.handleKey (some (s.osk.releasedKey keyValue)) keyRepeat .RNS_KEY_Release
  some { s with input := input }

def exec : OSKSessionOp → Option (OSKSession Pos)
  | .launch oskConfig mainscreenSize => some (s.withOSK (s.osk.launch oskConfig mainscreenSize))
  | .windowReadyToDrawCB => (s.osk.windowReadyToDrawCB layouts geometry).map s.withOSK
  | .press keyValue keyRepeat => s.press layouts geometry keyValue keyRepeat
  | .release keyValue keyRepeat => s.release keyValue keyRepeat
  | .exit => some { s.withOSK s.osk.exit with lastPressed := none }

end OSKSession

def oskSessionStep {Pos : Type} (layouts : KBLayouts) (geometry : KeyGeometry Pos)
    (s : OSKSession Pos) (op : OSKSessionOp) (t : OSKSession Pos) : Prop :=
  s.exec layouts geometry op = some t

end ReactNativeSkia
