import ReactNativeSkia.Components.ViewProps
import ReactNativeSkia.Images.ImageUtils
import ReactNativeSkia.Misc.EvenOdd
import ReactNativeSkia.Mounting.Component

/-!
# Backgrounds and borders

`drawBackground` and `drawBorder` of `RSkDrawUtils`
(`ReactSkia/views/common/RSkDrawUtils.cpp:95-375`) in rational arithmetic, for solid borders of
square corners: dashes, dots and corner radii are left out. The canvas is the list of the calls
that are made on it, and `covers` says what Skia fills.
-/

namespace ReactNativeSkia

abbrev Point := ℚ × ℚ

structure RectangleEdges (α : Type) where
  left : α
  top : α
  right : α
  bottom : α
  deriving DecidableEq

def RectangleEdges.isUniform {α : Type} [DecidableEq α] (edges : RectangleEdges α) : Bool :=
  decide (edges.left = edges.top) && decide (edges.left = edges.right) &&
    decide (edges.left = edges.bottom)

/-- `BorderMetrics` without the radii and the styles. -/
structure BorderMetrics where
  borderColors : RectangleEdges SharedColor
  borderWidths : RectangleEdges ℚ

inductive FrameType where
  | FilledRect
  | MonoChromeStrokedRect
  | PolyChromeStrokedRect
  | DiscretePath
  | InvisibleFrame
  deriving DecidableEq, Repr

inductive BorderEdges where
  | RightEdge
  | LeftEdge
  | TopEdge
  | BottomEdge
  deriving DecidableEq, Repr

/-- `PathMetrics` of square corners. -/
structure PathMetrics where
  outterStart : Point
  outterEnd : Point
  innerStart : Point
  innerEnd : Point

inductive PaintStyle where
  | kStrokeAndFill_Style
  | kStroke_Style
  deriving DecidableEq, Repr

/-- A call on the canvas. -/
inductive DrawCall where
  | drawRRect (rect : SkRect) (style : PaintStyle) (strokeWidth : Int) (color : SkColor)
  | drawPath (path : List Point) (color : SkColor)

def SkRect.inset (r : SkRect) (dx dy : ℚ) : SkRect :=
  ⟨r.left + dx, r.top + dy, r.right - dx, r.bottom - dy⟩

/-- The point lies in the rect, whose left and top sides belong to it. -/
def SkRect.covers (r : SkRect) (p : Point) : Bool :=
  decide (r.left ≤ p.1 ∧ p.1 < r.right ∧ r.top ≤ p.2 ∧ p.2 < r.bottom)

namespace DrawCall

def color : DrawCall → SkColor
  | drawRRect _ _ _ color => color
  | drawPath _ color => color

/-- What a call fills: half of a stroke lies outside of its rect and half inside. A hairline, the
stroke of width zero, is left out. -/
def covers (p : Point) : DrawCall → Bool
  | drawRRect rect .kStrokeAndFill_Style strokeWidth _ =>
    SkRect.covers (SkRect.inset rect (-(strokeWidth / 2)) (-(strokeWidth / 2))) p
  | drawRRect rect .kStroke_Style strokeWidth _ =>
    SkRect.covers (SkRect.inset rect (-(strokeWidth / 2)) (-(strokeWidth / 2))) p &&
      !SkRect.covers (SkRect.inset rect (strokeWidth / 2) (strokeWidth / 2)) p
  | drawPath path _ => EvenOdd.fills p path

end DrawCall

/-- The colours painted at a point, the last one on top. -/
def paintedAt (p : Point) (calls : List DrawCall) : List SkColor :=
  (calls.filter (DrawCall.covers p)).map DrawCall.color

namespace RSkDrawUtils

/-- A colour that is not specified is black. -/
def isBorderColorVisible (color : SharedColor) : Bool :=
  match color with
  | none => true
  | some color => decide (color.alpha ≠ 0)

def isBorderEdgeVisible (color : SharedColor) (thickness : ℚ) : Bool :=
  decide (thickness ≠ 0) && isBorderColorVisible color

def hasVisibleBorder (borderColor : RectangleEdges SharedColor) (borderWidth : RectangleEdges ℚ) :
    Bool :=
  isBorderEdgeVisible borderColor.left borderWidth.left ||
    isBorderEdgeVisible borderColor.right borderWidth.right ||
    isBorderEdgeVisible borderColor.top borderWidth.top ||
    isBorderEdgeVisible borderColor.bottom borderWidth.bottom

/-- A background that is not specified is transparent. -/
def hasVisibleBackGround (color : SharedColor) : Bool :=
  match color with
  | none => false
  | some color => decide (color.alpha ≠ 0)

def detectFrameBorderType (borderColor : RectangleEdges SharedColor)
    (borderWidth : RectangleEdges ℚ) : FrameType :=
  if !hasVisibleBorder borderColor borderWidth then .InvisibleFrame
  else if !borderWidth.isUniform then .DiscretePath
  else if borderColor.isUniform then .MonoChromeStrokedRect
  else if isBorderColorVisible borderColor.left && isBorderColorVisible borderColor.right &&
      isBorderColorVisible borderColor.top && isBorderColorVisible borderColor.bottom then
    .PolyChromeStrokedRect
  else .DiscretePath

def hasUniformBorderEdges (borderProps : BorderMetrics) : Bool :=
  borderProps.borderColors.isUniform && borderProps.borderWidths.isUniform

/-- `drawRect`. The stroke width of the paint is an `int`, that of the inset is not. -/
def drawRect (frameType : FrameType) (frame : SkRect) (borderProps : BorderMetrics)
    (color : SkColor) : DrawCall :=
  let rectStrokeWidth :=
    if !hasUniformBorderEdges borderProps && decide (frameType = .FilledRect) then 0
    else borderProps.borderWidths.left
  let rect :=
    if rectStrokeWidth > 0 then SkRect.inset frame (rectStrokeWidth / 2) (rectStrokeWidth / 2)
    else frame
  .drawRRect rect
    (if frameType = .FilledRect then .kStrokeAndFill_Style else .kStroke_Style)
    (floatToInt rectStrokeWidth) color

def createPath (pathMetrics : PathMetrics) : List Point :=
  [pathMetrics.outterStart, pathMetrics.outterEnd, pathMetrics.innerEnd, pathMetrics.innerStart,
    pathMetrics.outterStart]

/-- The corners of the side of an edge. -/
def pathMetrics (borderEdge : BorderEdges) (frame : SkRect) (borderWidths : RectangleEdges ℚ) :
    PathMetrics :=
  match borderEdge with
  | .RightEdge =>
    { outterStart := (frame.right, frame.top)
      outterEnd := (frame.right, frame.bottom)
      innerStart := (frame.right - borderWidths.right, frame.top + borderWidths.top)
      innerEnd := (frame.right - borderWidths.right, frame.bottom - borderWidths.bottom) }
  | .BottomEdge =>
    { outterStart := (frame.left, frame.bottom)
      outterEnd := (frame.right, frame.bottom)
      innerStart := (frame.left + borderWidths.left, frame.bottom - borderWidths.bottom)
      innerEnd := (frame.right - borderWidths.right, frame.bottom - borderWidths.bottom) }
  | .LeftEdge =>
    { outterStart := (frame.left, frame.top)
      outterEnd := (frame.left, frame.bottom)
      innerStart := (frame.left + borderWidths.left, frame.top + borderWidths.top)
      innerEnd := (frame.left + borderWidths.left, frame.bottom - borderWidths.bottom) }
  | .TopEdge =>
    { outterStart := (frame.left, frame.top)
      outterEnd := (frame.right, frame.top)
      innerStart := (frame.left + borderWidths.left, frame.top + borderWidths.top)
      innerEnd := (frame.right - borderWidths.right, frame.top + borderWidths.top) }

end RSkDrawUtils

/-- The value of an edge. -/
def RectangleEdges.at {α : Type} (edges : RectangleEdges α) : BorderEdges → α
  | .RightEdge => edges.right
  | .LeftEdge => edges.left
  | .TopEdge => edges.top
  | .BottomEdge => edges.bottom

namespace RSkDrawUtils

def createAndDrawDiscretePath (borderEdge : BorderEdges) (frame : SkRect)
    (borderProps : BorderMetrics) : DrawCall :=
  .drawPath (createPath (pathMetrics borderEdge frame borderProps.borderWidths))
    (RSkColorFromSharedColor (borderProps.borderColors.at borderEdge) SK_ColorBLACK)

def drawBackground (frame : SkRect) (borderProps : BorderMetrics) (backgroundColor : SharedColor) :
    List DrawCall :=
  if hasVisibleBackGround backgroundColor then
    [drawRect .FilledRect frame borderProps
      (RSkColorFromSharedColor backgroundColor SK_ColorTRANSPARENT)]
  else []

def blackColor : ColorComponents := ⟨0, 0, 0, 1⟩

/-- `BACKGROUND_COLOR_DIFFERENT_FROM_BORDER_COLOR`; a background that is not specified is equal to
no colour. -/
def backgroundColorDifferentFromBorderColor (color backgroundColor : SharedColor) : Bool :=
  decide (some (color.getD blackColor) ≠ backgroundColor)

/-- `CHECK_SIDE_VISIBILITY_AND_DRAW_SIDE_FOR_BORDER`. -/
def drawSideForBorder (frame : SkRect) (borderProps : BorderMetrics)
    (backgroundColor : SharedColor) (side : BorderEdges) : List DrawCall :=
  let color := borderProps.borderColors.at side
  if backgroundColorDifferentFromBorderColor color backgroundColor &&
      isBorderEdgeVisible color (borderProps.borderWidths.at side) then
    [createAndDrawDiscretePath side frame borderProps]
  else []

def drawBorder (frame : SkRect) (borderProps : BorderMetrics) (backgroundColor : SharedColor) :
    List DrawCall :=
  let frameType := detectFrameBorderType borderProps.borderColors borderProps.borderWidths
  if frameType = .MonoChromeStrokedRect ∧
      backgroundColorDifferentFromBorderColor borderProps.borderColors.left backgroundColor then
    [drawRect .MonoChromeStrokedRect frame borderProps
      (RSkColorFromSharedColor borderProps.borderColors.left SK_ColorBLACK)]
  else if frameType = .PolyChromeStrokedRect ∨ frameType = .DiscretePath then
    drawSideForBorder frame borderProps backgroundColor .RightEdge ++
      drawSideForBorder frame borderProps backgroundColor .LeftEdge ++
      drawSideForBorder frame borderProps backgroundColor .TopEdge ++
      drawSideForBorder frame borderProps backgroundColor .BottomEdge
  else []

end RSkDrawUtils

end ReactNativeSkia
