import Mathlib.Data.Finset.Basic
import Mathlib.Logic.Function.Basic
import ReactNativeSkia.Sdk.OSKLayout

/-!
# The on-screen keyboard

`OnScreenKeyboard` (`ReactSkia/sdk/OnScreenKeyBoard.cpp`, `OnScreenKeyBoard.h`): launch, exit, the
first draw, and the keys. The positions and neighbours of each layout are kept from one launch to
the next, and all three share one flag that asks for new ones. An access that throws has no result.
The text display, the drawing itself and the repeats of key throttling are left out.
-/

namespace ReactNativeSkia

structure OSKConfig where
  type : OSKTypes
  enablesReturnKeyAutomatically : Bool
  deriving DecidableEq, Repr

inductive OSKState where
  | OSK_STATE_LAUNCH_INPROGRESS
  | OSK_STATE_ACTIVE
  | OSK_STATE_EXIT_INPROGRESS
  | OSK_STATE_INACTIVE
  deriving DecidableEq, Repr

/-- A run of `drawKBLayout`: the layout in use, its positions, and the screen size. -/
structure LayoutDraw (Pos : Type) where
  keyboard : Keyboard
  keyPos : List (List Pos)
  screenSize : SkSize

/-- `keyboard` is the one behind the pointers of `oskLayout_`. `highlighted` are the tiles that show
the highlight, `createdFor` is the screen size that a layout has been created for last, and `draws`
is what `drawKBLayout` has drawn. -/
structure OnScreenKeyboard (Pos : Type) where
  oskConfig_ : OSKConfig := ⟨.OSK_ALPHA_NUMERIC_KB, false⟩
  keyboard : Keyboard := .alphaNumericKB
  kbLayoutType : KBLayoutType := .ALPHA_LOWERCASE_LAYOUT
  keyPos : Keyboard → List (List Pos) := fun _ => []
  siblingInfo : Keyboard → List (List KeySiblingInfo) := fun _ => []
  screenSize_ : SkSize := ⟨0, 0⟩
  generateOSKLayout_ : Bool := true
  currentFocussIndex_ : SkPoint := ⟨0, 0⟩
  lastFocussIndex_ : SkPoint := ⟨0, 0⟩
  oskState_ : OSKState := .OSK_STATE_INACTIVE
  autoActivateReturnKey_ : Bool := false
  emittedOSKKey_ : Int := RnsKey.RNS_KEY_UnKnown.ctorIdx
  highlighted : Finset SkPoint := ∅
  createdFor : Keyboard → Option SkSize := fun _ => none
  draws : List (LayoutDraw Pos) := []

inductive OSKOp where
  | launch (oskConfig : OSKConfig) (mainscreenSize : SkSize)
  | windowReadyToDrawCB
  | processKey (keyValue : RnsKey)
  | exit
  deriving DecidableEq, Repr

/-- The neighbour that a navigation key moves to. -/
def navigation : RnsKey → Option (KeySiblingInfo → SkPoint)
  | .RNS_KEY_Right => some KeySiblingInfo.siblingRight
  | .RNS_KEY_Left => some KeySiblingInfo.siblingLeft
  | .RNS_KEY_Up => some KeySiblingInfo.siblingUp
  | .RNS_KEY_Down => some KeySiblingInfo.siblingDown
  | _ => none

/-- The value that a key of the layout stands for: upper case is 26 in front of lower case. -/
def layoutKeyValue (kbLayoutType : KBLayoutType) (key : KeyInfo) : Int :=
  if key.keyType = .KEY_TYPE_TEXT ∧ kbLayoutType = .ALPHA_UPPERCASE_LAYOUT ∧
      key.keyName.head?.any Char.isAlpha then
    key.keyValue.ctorIdx - 26
  else key.keyValue.ctorIdx

/-- The places of a layout, row by row. -/
def places {α : Type} (rows : List (List α)) : List SkPoint :=
  (List.range rows.length).flatMap fun rowIndex =>
    (List.range (rows.getD rowIndex []).length).map fun keyIndex => ⟨keyIndex, rowIndex⟩

namespace OnScreenKeyboard

variable {Pos : Type} (layouts : KBLayouts) (geometry : KeyGeometry Pos)
  (s : OnScreenKeyboard Pos)

/-- The table of the layout in use. -/
def layout : KBLayout := layouts.layout s.keyboard

def keyInfoAt (index : SkPoint) : Option KeyInfo := atIndex (s.layout layouts).keyInfo index

def keyPosAt (index : SkPoint) : Option Pos := atIndex (s.keyPos s.keyboard) index

/-! ## Drawing -/

def createOSKLayout : OnScreenKeyboard Pos :=
  let s := { s with keyboard := keyboardOf s.oskConfig_.type s.kbLayoutType }
  if !(s.keyPos s.keyboard).isEmpty && !s.generateOSKLayout_ then s
  else
    let keyPos := layouts.keyPositions geometry s.keyboard s.screenSize_
    { s with
      generateOSKLayout_ := false
      keyPos := Function.update s.keyPos s.keyboard keyPos
      siblingInfo :=
        Function.update s.siblingInfo s.keyboard ((s.layout layouts).siblingInfo geometry keyPos)
      createdFor := Function.update s.createdFor s.keyboard (some s.screenSize_) }

/-- The accesses of `drawKBKeyFont`. -/
def drawKBKeyFont (index : SkPoint) : Option Unit := do
  let _ ← s.keyInfoAt layouts index
  let _ ← s.keyPosAt index

/-- The accesses of the drawing of the layout: the last key gives the height, and the first one
begins the partition. -/
def drawKeys : Option Unit := do
  let keyInfo := (s.layout layouts).keyInfo
  let rowCount := keyInfo.length - 1
  let row ← keyInfo[rowCount]?
  let _ ← s.keyPosAt ⟨row.length - 1, rowCount⟩
  (places keyInfo).forM (s.drawKBKeyFont layouts)
  if s.oskConfig_.type ≠ .OSK_NUMERIC_KB then s.drawKBKeyFont layouts ⟨0, 0⟩

def focus (index : SkPoint) : OnScreenKeyboard Pos := { s with currentFocussIndex_ := index }

/-- The keyboard has been drawn over, and no tile is highlighted. -/
def noteDraw : OnScreenKeyboard Pos :=
  { s with
    highlighted := ∅
    draws := s.draws ++ [⟨s.keyboard, s.keyPos s.keyboard, s.screenSize_⟩] }

def drawKBLayout : Option (OnScreenKeyboard Pos) :=
  if s.oskState_ ≠ .OSK_STATE_ACTIVE then some s
  else
    let s := s.createOSKLayout layouts geometry
    let s := s.focus (s.layout layouts).defaultFocussIndex
    (s.drawKeys layouts).map fun _ => s.noteDraw

/-- The tile in focus is highlighted, and the last one is drawn over. -/
def light : OnScreenKeyboard Pos :=
  { s with highlighted := insert s.currentFocussIndex_ (s.highlighted.erase s.lastFocussIndex_) }

def drawHighLightOnKey : Option (OnScreenKeyboard Pos) :=
  if s.oskState_ ≠ .OSK_STATE_ACTIVE then some s
  else do
    s.drawKBKeyFont layouts s.lastFocussIndex_
    s.drawKBKeyFont layouts s.currentFocussIndex_
    some s.light

/-! ## Launch and exit -/

/-- Only another screen size asks for new layouts. -/
def launchOSKWindow (mainscreenSize : SkSize) : OnScreenKeyboard Pos :=
  { s with
    generateOSKLayout_ := s.screenSize_ ≠ mainscreenSize
    screenSize_ := mainscreenSize
    kbLayoutType :=
      if s.oskConfig_.type = .OSK_ALPHA_NUMERIC_KB then .ALPHA_LOWERCASE_LAYOUT
      else s.kbLayoutType
    autoActivateReturnKey_ :=
      s.oskConfig_.enablesReturnKeyAutomatically || s.autoActivateReturnKey_ }

def configure (oskConfig : OSKConfig) : OnScreenKeyboard Pos :=
  { s with oskConfig_ := oskConfig, oskState_ := .OSK_STATE_LAUNCH_INPROGRESS }

/-- Another instance is refused. -/
def launch (oskConfig : OSKConfig) (mainscreenSize : SkSize) : OnScreenKeyboard Pos :=
  if s.oskState_ = .OSK_STATE_LAUNCH_INPROGRESS ∨ s.oskState_ = .OSK_STATE_ACTIVE then s
  else
    (s.configure oskConfig).launchOSKWindow mainscreenSize

def setState (oskState : OSKState) : OnScreenKeyboard Pos := { s with oskState_ := oskState }

/-- The window can be drawn. -/
def windowReadyToDrawCB : Option (OnScreenKeyboard Pos) :=
  if s.oskState_ = .OSK_STATE_LAUNCH_INPROGRESS then do
    let s ← (s.setState .OSK_STATE_ACTIVE).drawKBLayout layouts geometry
    s.drawHighLightOnKey layouts
  else some s

def exit : OnScreenKeyboard Pos :=
  if s.oskState_ = .OSK_STATE_EXIT_INPROGRESS ∨ s.oskState_ = .OSK_STATE_INACTIVE then s
  else
    { s with
      oskState_ := .OSK_STATE_INACTIVE
      autoActivateReturnKey_ := false
      lastFocussIndex_ := ⟨0, 0⟩
      currentFocussIndex_ := ⟨0, 0⟩
      emittedOSKKey_ := RnsKey.RNS_KEY_UnKnown.ctorIdx }

/-! ## Keys -/

/-- The first key of the layout in use that has the value. -/
def findKey (keyValue : RnsKey) : Option SkPoint :=
  (places (s.layout layouts).keyInfo).find? fun index =>
    (s.keyInfoAt layouts index).any fun key =>
      layoutKeyValue s.kbLayoutType key = keyValue.ctorIdx

/-- Case 3 of `processKey`: only keys of a keyboard are looked for. -/
def knownKey (keyValue : RnsKey) : Option SkPoint :=
  if keyValue = .RNS_KEY_Select ∨
      (keyValue.ctorIdx < RnsKey.RNS_KEY_UnKnown.ctorIdx ∧
        RnsKey.RNS_KEY_1.ctorIdx ≤ keyValue.ctorIdx) then
    s.findKey layouts keyValue
  else none

/-- The layout that the key turns to, if it is another one. -/
def toggles (key : KeyInfo) : Option KBLayoutType :=
  key.togglesTo.filter (· ≠ s.kbLayoutType)

def emitKey (oskKeyValue : Int) : OnScreenKeyboard Pos :=
  if oskKeyValue ≠ RnsKey.RNS_KEY_UnKnown.ctorIdx then { s with emittedOSKKey_ := oskKeyValue }
  else s

/-- The return key is enabled and has the focus. -/
def focusReturnKey : OnScreenKeyboard Pos :=
  { s with
    autoActivateReturnKey_ := false
    currentFocussIndex_ := (s.layout layouts).returnKeyIndex }

def enableReturnKey (oskKeyValue : Int) : Option (OnScreenKeyboard Pos) :=
  if oskKeyValue ≠ RnsKey.RNS_KEY_UnKnown.ctorIdx ∧ s.autoActivateReturnKey_ then
    (s.focusReturnKey layouts).drawHighLightOnKey layouts
  else some s

def moveFocus (hlCandidate : SkPoint) : Option (OnScreenKeyboard Pos) :=
  if s.lastFocussIndex_ ≠ hlCandidate then (s.focus hlCandidate).drawHighLightOnKey layouts
  else some s

/-- Behind the cases. -/
def finishKey (hlCandidate : SkPoint) (oskKeyValue : Int) : Option (OnScreenKeyboard Pos) := do
  let s ← s.enableReturnKey layouts oskKeyValue
  let s ← s.moveFocus layouts hlCandidate
  some (s.emitKey oskKeyValue)

/-- The end of `processKey` for case 3. -/
def finishKnownKey (keyValue : RnsKey) : Option (OnScreenKeyboard Pos) :=
  match s.knownKey layouts keyValue with
  | some index => s.finishKey layouts index keyValue.ctorIdx
  | none => s.finishKey layouts s.lastFocussIndex_ RnsKey.RNS_KEY_UnKnown.ctorIdx

def setLayoutType (kbLayoutType : KBLayoutType) : OnScreenKeyboard Pos :=
  { s with kbLayoutType := kbLayoutType }

/-- A toggle key draws its layout and sets the default focus. -/
def turnLayout (key : KeyInfo) : Option (OnScreenKeyboard Pos) :=
  match s.toggles key with
  | some next => do
    let s ← (s.setLayoutType next).drawKBLayout layouts geometry
    s.drawHighLightOnKey layouts
  | none => some s

/-- Case 2 of `processKey` with the key in focus. A key that is itself `RNS_KEY_Select` goes on
to case 3. -/
def selectKey (key : KeyInfo) : Option (OnScreenKeyboard Pos) :=
  if key.keyValue = .RNS_KEY_Select then s.finishKnownKey layouts .RNS_KEY_Select
  else if key.keyType = .KEY_TYPE_TOGGLE then do
    let t ← s.turnLayout layouts geometry key
    t.finishKey layouts s.lastFocussIndex_ RnsKey.RNS_KEY_UnKnown.ctorIdx
  else s.finishKey layouts s.lastFocussIndex_ (layoutKeyValue s.kbLayoutType key)

/-- `lastFocussIndex_` takes the place of the focus. -/
def noteFocus : OnScreenKeyboard Pos := { s with lastFocussIndex_ := s.currentFocussIndex_ }

/-- The cases of `processKey`. -/
def handleKey (keyValue : RnsKey) : Option (OnScreenKeyboard Pos) :=
  match navigation keyValue with
  | some sibling => do
    let siblings ← atIndex (s.siblingInfo s.keyboard) s.currentFocussIndex_
    s.finishKey layouts (sibling siblings) RnsKey.RNS_KEY_UnKnown.ctorIdx
  | none =>
    if keyValue = .RNS_KEY_Select then do
      let key ← s.keyInfoAt layouts s.currentFocussIndex_
      s.selectKey layouts geometry key
    else s.finishKnownKey layouts keyValue

def processKey (keyValue : RnsKey) : Option (OnScreenKeyboard Pos) :=
  if keyValue = .RNS_KEY_UnKnown then some s
  else if s.oskState_ ≠ .OSK_STATE_ACTIVE then some s
  else s.noteFocus.handleKey layouts geometry keyValue

end OnScreenKeyboard

section

variable {Pos : Type} (layouts : KBLayouts) (geometry : KeyGeometry Pos)

def OSKOp.exec (s : OnScreenKeyboard Pos) : OSKOp → Option (OnScreenKeyboard Pos)
  | launch oskConfig mainscreenSize => some (s.launch oskConfig mainscreenSize)
  | windowReadyToDrawCB => s.windowReadyToDrawCB layouts geometry
  | processKey keyValue => s.processKey layouts geometry keyValue
  | exit => some s.exit

def OSKStep (s : OnScreenKeyboard Pos) (op : OSKOp) (t : OnScreenKeyboard Pos) : Prop :=
  op.exec layouts geometry s = some t

end

end ReactNativeSkia
