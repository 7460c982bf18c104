import ReactNativeSkia.Compositor.Skia
import Mathlib.Algebra.Order.Round

/-!
# Invalidate masks and the scroll bar

`LayerInvalidateMask` (`layers/Layer.h:40`) as its bits, and `ScrollLayer::ScrollBar`
(`layers/ScrollLayer.cpp:16-223`). The bar's scalars are exact rationals.
-/

namespace ReactNativeSkia

/-- The bits of `LayerInvalidateMask`. -/
structure LayerInvalidateMask where
  paint : Bool
  layout : Bool
  remove : Bool
  deriving DecidableEq, Repr

def LayerInvalidateNone : LayerInvalidateMask := ⟨false, false, false⟩
def LayerPaintInvalidate : LayerInvalidateMask := ⟨true, false, false⟩
def LayerLayoutInvalidate : LayerInvalidateMask := ⟨false, true, false⟩
def LayerRemoveInvalidate : LayerInvalidateMask := ⟨false, false, true⟩
def LayerInvalidateAll : LayerInvalidateMask := ⟨true, true, false⟩

namespace LayerInvalidateMask

def or (a b : LayerInvalidateMask) : LayerInvalidateMask :=
  ⟨a.paint || b.paint, a.layout || b.layout, a.remove || b.remove⟩

def and (a b : LayerInvalidateMask) : LayerInvalidateMask :=
  ⟨a.paint && b.paint, a.layout && b.layout, a.remove && b.remove⟩

@[simp] theorem or_layout (a b : LayerInvalidateMask) :
    (a.or b).layout = (a.layout || b.layout) := rfl

@[simp] theorem or_remove (a b : LayerInvalidateMask) :
    (a.or b).remove = (a.remove || b.remove) := rfl

@[simp] theorem and_remove_layout (a : LayerInvalidateMask) :
    (a.and LayerRemoveInvalidate).layout = false := by
  simp [LayerInvalidateMask.and, LayerRemoveInvalidate]

@[simp] theorem and_remove_remove (a : LayerInvalidateMask) :
    (a.and LayerRemoveInvalidate).remove = a.remove := by
  simp [LayerInvalidateMask.and, LayerRemoveInvalidate]

/-- After `& LayerRemoveInvalidate` the test with `==` in `Layer::prePaint` and the test of
the bit in `ScrollLayer::prePaint` say the same. -/
theorem and_remove_eq_iff (a : LayerInvalidateMask) :
    a.and LayerRemoveInvalidate = LayerRemoveInvalidate ↔ a.remove = true := by
  simp [LayerInvalidateMask.and, LayerRemoveInvalidate]

theorem layout_of_eq_none {a : LayerInvalidateMask} (h : a = LayerInvalidateNone) :
    a.layout = false := by
  simp [h, LayerInvalidateNone]

end LayerInvalidateMask

inductive ScrollBarPosition where
  | left
  | right
  | top
  | bottom
  deriving DecidableEq, Repr

def SCROLLBAR_THICKNESS : Int := 5
def SCROLLBAR_MIN_LENGTH : Int := 20

/-- `ScrollLayer::ScrollBar`. Translations are whole numbers wherever the source sets them. -/
structure ScrollBar where
  mask_ : LayerInvalidateMask := LayerInvalidateNone
  barPosition_ : ScrollBarPosition := .right
  barFrame_ : SkIRect := .MakeEmpty
  barFrameInsets_ : SkIRect := .MakeEmpty
  barOffsetTranslate_ : Int × Int := (0, 0)
  barOffsetMultiplier_ : ℚ × ℚ := (1, 1)
  scrollContentSize_ : SkISize := ⟨0, 0⟩
  scrollFrame_ : SkIRect := .MakeEmpty
  scrollPos_ : ℚ × ℚ := (0, 0)

namespace ScrollBar

/-- `showScrollBar`: hiding a shown bar leaves it to be removed by the next damage. -/
def showScrollBar (b : ScrollBar) (show_ : Bool) : ScrollBar :=
  if show_ then { b with mask_ := LayerPaintInvalidate }
  else if b.mask_ = LayerPaintInvalidate then { b with mask_ := LayerRemoveInvalidate }
  else { b with mask_ := LayerInvalidateNone }

def updateBarOffset (b : ScrollBar) : ScrollBar :=
  match b.barPosition_ with
  | .top | .bottom =>
    { b with barOffsetTranslate_ :=
        (round (b.scrollPos_.1 * b.barOffsetMultiplier_.1), b.barOffsetTranslate_.2) }
  | .left | .right =>
    { b with barOffsetTranslate_ :=
        (b.barOffsetTranslate_.1, round (b.scrollPos_.2 * b.barOffsetMultiplier_.2)) }

/-- The top and bottom arm of `calculateBarLayoutMetrics`. -/
def calculateHorizontalBar (b : ScrollBar) : ScrollBar :=
  if b.scrollContentSize_.width ≤ b.scrollFrame_.width then
    { b with barFrame_ := .MakeEmpty, barOffsetMultiplier_ := (0, 0),
             barOffsetTranslate_ := (0, 0) }
  else
    let barScrollAreaLength :=
      b.scrollFrame_.width - b.barFrameInsets_.left - b.barFrameInsets_.right
    let b : ScrollBar :=
      -- no scrollable area: a bar of minimum length in the middle
      if barScrollAreaLength ≤ SCROLLBAR_MIN_LENGTH then
        { b with
          barOffsetMultiplier_ := (0, 1)
          barFrame_ := .MakeXYWH ((b.scrollFrame_.width - SCROLLBAR_MIN_LENGTH).tdiv 2) 0
            SCROLLBAR_MIN_LENGTH SCROLLBAR_THICKNESS }
      else
        let widthFactor : ℚ := barScrollAreaLength / b.scrollContentSize_.width
        let scrollBarLength :=
          max SCROLLBAR_MIN_LENGTH (round (widthFactor * b.scrollFrame_.width))
        let offsetMultiplier : ℚ := ((barScrollAreaLength - scrollBarLength : Int) : ℚ) /
          ((b.scrollContentSize_.width - b.scrollFrame_.width : Int) : ℚ)
        { b with
          barOffsetMultiplier_ := (offsetMultiplier, 1)
          barFrame_ := .MakeXYWH b.barFrameInsets_.left 0 scrollBarLength SCROLLBAR_THICKNESS }
    let b : ScrollBar :=
      if b.barPosition_ = .top then
        { b with barFrame_ := b.barFrame_.makeOffset 0 b.barFrameInsets_.top }
      else
        { b with
          barFrame_ := b.barFrame_.makeOffset 0 (-b.barFrameInsets_.bottom)
          barOffsetTranslate_ :=
            (b.barOffsetTranslate_.1, b.scrollFrame_.height - SCROLLBAR_THICKNESS) }
    b.updateBarOffset

/-- The left and right arm of `calculateBarLayoutMetrics`. -/
def calculateVerticalBar (b : ScrollBar) : ScrollBar :=
  if b.scrollContentSize_.height ≤ b.scrollFrame_.height then
    { b with barFrame_ := .MakeEmpty, barOffsetMultiplier_ := (0, 0),
             barOffsetTranslate_ := (0, 0) }
  else
    let barScrollAreaLength :=
      b.scrollFrame_.height - b.barFrameInsets_.top - b.barFrameInsets_.bottom
    let b : ScrollBar :=
      if barScrollAreaLength ≤ SCROLLBAR_MIN_LENGTH then
        { b with
          barOffsetMultiplier_ := (1, 0)
          barFrame_ := .MakeXYWH 0 ((b.scrollFrame_.height - SCROLLBAR_MIN_LENGTH).tdiv 2)
            SCROLLBAR_THICKNESS SCROLLBAR_MIN_LENGTH }
      else
        let heightFactor : ℚ := barScrollAreaLength / b.scrollContentSize_.height
        let scrollBarLength :=
          max SCROLLBAR_MIN_LENGTH (round (heightFactor * b.scrollFrame_.height))
        let offsetMultiplier : ℚ := ((barScrollAreaLength - scrollBarLength : Int) : ℚ) /
          ((b.scrollContentSize_.height - b.scrollFrame_.height : Int) : ℚ)
        { b with
          barOffsetMultiplier_ := (1, offsetMultiplier)
          barFrame_ := .MakeXYWH 0 b.barFrameInsets_.top SCROLLBAR_THICKNESS scrollBarLength }
    let b : ScrollBar :=
      if b.barPosition_ = .left then
        { b with barFrame_ := b.barFrame_.makeOffset b.barFrameInsets_.left 0 }
      else
        { b with
          barFrame_ := b.barFrame_.makeOffset (-b.barFrameInsets_.right) 0
          barOffsetTranslate_ :=
            (b.scrollFrame_.width - SCROLLBAR_THICKNESS, b.barOffsetTranslate_.2) }
    b.updateBarOffset

def calculateBarLayoutMetrics (b : ScrollBar) : ScrollBar :=
  match b.barPosition_ with
  | .top | .bottom => b.calculateHorizontalBar
  | .left | .right => b.calculateVerticalBar

def setScrollBarOffset (b : ScrollBar) (scrollPos : ℚ × ℚ) : ScrollBar :=
  if b.scrollPos_ = scrollPos then b else { b with scrollPos_ := scrollPos }.updateBarOffset

def setScrollBarPosition (b : ScrollBar) (position : ScrollBarPosition) : ScrollBar :=
  if b.barPosition_ = position then b
  else { b with barPosition_ := position }.calculateBarLayoutMetrics

def setScrollBarInsets (b : ScrollBar) (frameInsets : SkIRect) : ScrollBar :=
  if b.barFrameInsets_ = frameInsets then b
  else { b with barFrameInsets_ := frameInsets }.calculateBarLayoutMetrics

def updateScrollLayerLayout (b : ScrollBar) (scrollContentSize : SkISize)
    (scrollFrame : SkIRect) : ScrollBar :=
  if b.scrollContentSize_ = scrollContentSize ∧ b.scrollFrame_ = scrollFrame then b
  else { b with scrollContentSize_ := scrollContentSize
                scrollFrame_ := scrollFrame }.calculateBarLayoutMetrics

/-- `getScrollBarAbsFrame`: the damage of the bar, and the bar with a served removal. -/
def getScrollBarAbsFrame (b : ScrollBar) (scrollAbsFrame : SkIRect)
    (layerMask : LayerInvalidateMask) : SkIRect × ScrollBar :=
  if b.mask_ ≠ LayerInvalidateNone then
    if layerMask = LayerInvalidateNone ∧ b.mask_ = LayerPaintInvalidate then (.MakeEmpty, b)
    else
      let barAbsFrame := b.barFrame_.makeOffset
        (scrollAbsFrame.left + b.barOffsetTranslate_.1)
        (scrollAbsFrame.top + b.barOffsetTranslate_.2)
      (barAbsFrame,
        if b.mask_ = LayerRemoveInvalidate then b.showScrollBar false else b)
  else (.MakeEmpty, b)

end ScrollBar

end ReactNativeSkia
