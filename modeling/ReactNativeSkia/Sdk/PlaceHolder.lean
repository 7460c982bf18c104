import Mathlib.Algebra.Order.Ring.Rat
import ReactNativeSkia.Misc.CString
import ReactNativeSkia.Misc.WhileLoop

/-!
# The place holder of the keyboard

`OnScreenKeyboard::drawPlaceHolderDisplayString` (`ReactSkia/sdk/OnScreenKeyBoard.cpp`) and
`OSK_PLACEHOLDER_RESERVED_LENGTH` (`OSKConfig.h`). The text is shown in a window on its characters.
Heights, fonts and paints are left out, and an index is taken to fit in an `int` and in an
`SkScalar`. The width of a slice is a parameter.
-/

namespace ReactNativeSkia

def OSK_PLACEHOLDER_CURSOR_WIDTH : ℚ := 3

def OSK_PLACEHOLDER_LEFT_INSET : ℚ := 2

def OSK_PLACEHOLDER_RIGHT_INSET : ℚ := 3

def OSK_PLACEHOLDER_RESERVED_LENGTH : ℚ :=
  OSK_PLACEHOLDER_CURSOR_WIDTH + OSK_PLACEHOLDER_LEFT_INSET + OSK_PLACEHOLDER_RIGHT_INSET

/-- What `drawPlaceHolderDisplayString` reads of `oskLayout_` and `oskConfig_`. -/
structure PlaceHolderLayout where
  placeHolderLength : ℚ
  horizontalStartOffset : ℚ
  showCursor : Bool
  deriving DecidableEq, Repr

/-- What is drawn on the place holder. -/
inductive PlaceHolderDraw where
  | clearScreen (x width : ℚ)
  | drawSimpleText (text : Chars) (x : ℚ)
  | drawLine (x : ℚ)
  | dirty (x width : ℚ)
  deriving DecidableEq, Repr

/-- `visibleDisplayStringRange_`, where −1 means that nothing is set. -/
structure DisplayStringRange where
  x : Int := -1
  y : Int := -1
  deriving DecidableEq, Repr

/-- `oskState_` is `OSK_STATE_ACTIVE`. -/
structure PlaceHolder where
  displayString_ : Chars := []
  cursorPosition_ : Int := 0
  visibleDisplayStringRange_ : DisplayStringRange := {}
  displayStrWidth_ : ℚ := 0
  drawn : List PlaceHolderDraw := []
  deriving DecidableEq, Repr

/-- The local variables of `drawPlaceHolderDisplayString`. -/
structure VisibleRange where
  visibleRangeStart : Int
  visibleRangeEnd : Int
  textWidth : ℚ
  deriving DecidableEq, Repr

/-- `i < size` for an `int` and a `size_t`: a negative number becomes one that is greater than any
length. -/
def ltSize (i : Int) (size : Nat) : Bool := 0 ≤ i ∧ i < size

/-- `i <= size`. -/
def leSize (i : Int) (size : Nat) : Bool := 0 ≤ i ∧ i ≤ size

namespace PlaceHolder

variable (getStringBound : Chars → Int → Int → ℚ) (layout : PlaceHolderLayout) (s : PlaceHolder)

/-- The text has to be narrower than the place holder. -/
def fits (textWidth : ℚ) : Bool :=
  textWidth + OSK_PLACEHOLDER_RESERVED_LENGTH < layout.placeHolderLength

/-- `displayString_.length()-1`, for a text that is not empty. -/
def lastIndex : Int := s.displayString_.length - 1

def measured (visibleRangeStart visibleRangeEnd : Int) : VisibleRange :=
  { visibleRangeStart, visibleRangeEnd,
    textWidth := getStringBound s.displayString_ visibleRangeStart visibleRangeEnd }

@[simp]
theorem measured_visibleRangeStart (first last : Int) :
    (s.measured getStringBound first last).visibleRangeStart = first := rfl

@[simp]
theorem measured_visibleRangeEnd (first last : Int) :
    (s.measured getStringBound first last).visibleRangeEnd = last := rfl

/-- The first and the second step: the range of before, moved so that it has the cursor. -/
def adjustedRange : VisibleRange :=
  let range := s.visibleDisplayStringRange_
  s.measured getStringBound
    (if range.x = -1 then 0
      else if s.cursorPosition_ > range.x then range.x
      else s.cursorPosition_)
    (if range.y = -1 ∨ range.y > s.lastIndex then s.lastIndex
      else if s.cursorPosition_ ≤ range.y then range.y
      else s.cursorPosition_)

/-- The third step. -/
def expandedRange : VisibleRange :=
  let range := s.adjustedRange getStringBound
  if fits layout range.textWidth ∧
      ltSize (range.visibleRangeEnd - range.visibleRangeStart) (s.displayString_.length - 1) then
    if range.visibleRangeEnd ≠ s.lastIndex then
      s.measured getStringBound range.visibleRangeStart s.lastIndex
    else s.measured getStringBound 0 range.visibleRangeEnd
  else range

/-- One round of the fourth step. -/
def contract (range : VisibleRange) : VisibleRange :=
  if s.cursorPosition_ ≥ range.visibleRangeEnd - 1 then
    s.measured getStringBound (range.visibleRangeStart + 1) range.visibleRangeEnd
  else s.measured getStringBound range.visibleRangeStart (range.visibleRangeEnd - 1)

/-- All four steps. -/
def visibleRange (fuel : Nat) : Option VisibleRange :=
  whileLoop (fun range => !fits layout range.textWidth) (s.contract getStringBound) fuel
    (s.expandedRange getStringBound layout)

/-- `none` if `pos` is behind the end, where `substr` throws. -/
def substr (text : Chars) (pos count : Int) : Option Chars :=
  if leSize pos text.length then
    some (if count < 0 then text.drop pos.toNat else (text.drop pos.toNat).take count.toNat)
  else none

def clampCursor : Int :=
  if leSize s.cursorPosition_ s.displayString_.length then s.cursorPosition_
  else s.displayString_.length

/-- The window on the text, and the width of what is in it. -/
def showRange (fuel : Nat) : Option (PlaceHolder × ℚ) :=
  if s.displayString_ = [] then some (s, 0)
  else
    match s.visibleRange getStringBound layout fuel with
    | none => none
    | some range =>
      (substr s.displayString_ range.visibleRangeStart
          (range.visibleRangeEnd - range.visibleRangeStart + 1)).map fun text =>
        ({ s with
            cursorPosition_ := s.clampCursor
            visibleDisplayStringRange_ := ⟨range.visibleRangeStart, range.visibleRangeEnd⟩
            displayString_ := text },
          range.textWidth)

/-- Where the cursor is drawn. -/
def cursorX : ℚ :=
  let newcursorPosition :=
    if s.cursorPosition_ ≥ s.visibleDisplayStringRange_.x + 1 then
      s.cursorPosition_ - s.visibleDisplayStringRange_.x
    else 0
  (if newcursorPosition ≠ 0 then getStringBound s.displayString_ 0 (newcursorPosition - 1)
    else 0) + (layout.horizontalStartOffset + OSK_PLACEHOLDER_LEFT_INSET)

/-- `none` if the fuel does not suffice or `substr` throws. -/
def drawPlaceHolderDisplayString (fuel : Nat) : Option PlaceHolder :=
  (s.showRange getStringBound layout fuel).map fun (shown, textWidth) =>
    { shown with
      displayStrWidth_ :=
        if fits layout textWidth then textWidth + OSK_PLACEHOLDER_RESERVED_LENGTH
        else layout.placeHolderLength
      drawn :=
        s.drawn ++
          [.clearScreen layout.horizontalStartOffset s.displayStrWidth_] ++
          (if shown.displayString_ = [] then []
            else [.drawSimpleText shown.displayString_
              (layout.horizontalStartOffset + OSK_PLACEHOLDER_LEFT_INSET)]) ++
          (if layout.showCursor then [.drawLine (shown.cursorX getStringBound layout)] else []) ++
          [.dirty layout.horizontalStartOffset layout.placeHolderLength] }

end PlaceHolder

end ReactNativeSkia
