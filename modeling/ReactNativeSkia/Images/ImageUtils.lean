import Mathlib.Data.Rat.Defs
import ReactNativeSkia.Misc.AspectBox

/-!
# Where an image is drawn

`computeTargetRect` (`ReactSkia/views/common/RSkImageUtils.cpp`) in rational arithmetic.
-/

namespace ReactNativeSkia

/-- `SkRect`, whose `x` and `y` are `left` and `top`. -/
abbrev SkRect := Box ℚ

abbrev SkRect.MakeXYWH (x y w h : ℚ) : SkRect := Box.xywh x y w h

structure Size where
  width : ℚ
  height : ℚ
  deriving DecidableEq, Repr

inductive ImageResizeMode where
  | Cover
  | Contain
  | Center
  | Repeat
  | Stretch
  deriving DecidableEq, Repr

namespace RSkImageUtils

/-- The sides in mode `Contain`, which mode `Repeat` uses as well. -/
def containSize (srcAR targetAR : ℚ) (targetRect : SkRect) : Size :=
  if targetAR ≤ srcAR then ⟨targetRect.width, targetRect.width / srcAR⟩
  else ⟨targetRect.height * srcAR, targetRect.height⟩

/-- The sides in mode `Center`. The second test overwrites what the first one has set. -/
def centerSize (srcSize : Size) (srcAR : ℚ) (targetRect : SkRect) : Size :=
  let size : Size :=
    if srcSize.height > targetRect.height then ⟨targetRect.width, targetRect.width / srcAR⟩
    else srcSize
  if srcSize.width > targetRect.width then ⟨targetRect.height * srcAR, targetRect.height⟩
  else size

def computeTargetRect (srcSize : Size) (targetRect : SkRect) (resizeMode : ImageResizeMode) :
    SkRect :=
  let srcAR := srcSize.width / srcSize.height
  let targetAR := targetRect.width / targetRect.height
  match resizeMode with
  | .Cover =>
    if targetAR ≤ srcAR then
      let height := targetRect.height
      let width := height * srcAR
      SkRect.MakeXYWH (targetRect.left + (targetRect.width - width) / 2) targetRect.top width height
    else
      let width := targetRect.width
      let height := width / srcAR
      SkRect.MakeXYWH targetRect.left (targetRect.top + (targetRect.height - height) / 2) width
        height
  | .Contain =>
    let size := containSize srcAR targetAR targetRect
    SkRect.MakeXYWH (targetRect.left + (targetRect.width - size.width) / 2)
      (targetRect.top + (targetRect.height - size.height) / 2) size.width size.height
  | .Center =>
    let size := centerSize srcSize srcAR targetRect
    SkRect.MakeXYWH (targetRect.left + (targetRect.width - size.width) / 2)
      (targetRect.top + (targetRect.height - size.height) / 2) size.width size.height
  | .Repeat =>
    if srcSize.width ≤ targetRect.width ∧ srcSize.height ≤ targetRect.height then
      SkRect.MakeXYWH targetRect.left targetRect.top srcSize.width srcSize.height
    else
      let size := containSize srcAR targetAR targetRect
      SkRect.MakeXYWH targetRect.left targetRect.top size.width size.height
  | .Stretch => targetRect

end RSkImageUtils

end ReactNativeSkia
