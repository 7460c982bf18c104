import Mathlib.Algebra.BigOperators.Group.List.Basic
import Mathlib.Data.List.DropRight
import ReactNativeSkia.Sdk.PlaceHolder

/-!
# The width of a slice of the typed text

`OnScreenKeyboard::getStringBound` (`ReactSkia/sdk/OnScreenKeyBoard.cpp`). The font ignores spaces
at the ends of what it measures, and a space counts for `spaceWidth_`, which `launchOSKWindow` sets
to the width of a space and one more.
-/

namespace ReactNativeSkia

def space : UInt8 := 32

/-- The text without the spaces at its ends. -/
def trimSpaces (text : Chars) : Chars := (text.dropWhile (· = space)).rdropWhile (· = space)

/-- A font with the widths of its characters, and what `measureText` says. -/
structure SkFont where
  width : UInt8 → ℚ
  measureText : Chars → ℚ
  width_nonneg : ∀ c, 0 ≤ width c
  measureText_eq : ∀ text, measureText text = ((trimSpaces text).map width).sum

/-- What `getStringBound` measures: `byteLength` characters from `startIndex` on, and spaces. -/
structure MeasuredSlice where
  startIndex : UInt32
  byteLength : UInt32
  spaceCount : Nat
  deriving DecidableEq, Repr

/-- `!stringToMeasure.compare(0,1," ")`. -/
def beginsWithSpace (text : Chars) : Bool := text.head? = some space

def endsWithSpace (text : Chars) : Bool := text.getLast? = some space

def measuredSlice (stringToMeasure : Chars) (startIndex endIndex : UInt32) : MeasuredSlice :=
  let startIndex := if beginsWithSpace stringToMeasure then startIndex + 1 else startIndex
  let endIndex := if endsWithSpace stringToMeasure then endIndex - 1 else endIndex
  { startIndex := startIndex
    byteLength := endIndex - startIndex + 1
    spaceCount := (beginsWithSpace stringToMeasure).toNat + (endsWithSpace stringToMeasure).toNat }

namespace SkFont

variable (font : SkFont)

def spaceWidth_ : ℚ := font.width space + 1

/-- What is read behind the end of the text is left out. -/
def getStringBound (stringToMeasure : Chars) (startIndex endIndex : UInt32) : ℚ :=
  if stringToMeasure = [] then 0
  else
    let slice := measuredSlice stringToMeasure startIndex endIndex
    font.measureText ((stringToMeasure.drop slice.startIndex.toNat).take slice.byteLength.toNat) +
      font.spaceWidth_ * slice.spaceCount

/-- As `drawPlaceHolderDisplayString` calls it, with indices of type `int`. -/
def stringBound (stringToMeasure : Chars) (startIndex endIndex : Int) : ℚ :=
  font.getStringBound stringToMeasure (UInt32.ofInt startIndex) (UInt32.ofInt endIndex)

end SkFont

end ReactNativeSkia
