import ReactNativeSkia.Compositor.Layers.Layer

/-!
# Pre-painting

`Layer::addDamageRect`, `Layer::preRoll`, `Layer::prePaint` and `ScrollLayer::prePaint`
(`layers/Layer.cpp:23-43, 163-231, 337-362`, `layers/ScrollLayer.cpp:281-396`), in the build
with `RNS_SHELL_PARTIAL_UPDATES` and without `SCROLL_LAYER_BITMAP`. The recursion over the
children gets a number of levels; `none` says that they did not suffice.
-/

namespace ReactNativeSkia

abbrev FrameDamages := List SkIRect

/-- `PaintContext` without the canvas; `offset` is a whole number of pixels wherever it is
set. -/
structure PaintContext where
  damageRect : FrameDamages
  supportPartialUpdate : Bool
  offset : Int × Int := (0, 0)
  deriving DecidableEq

/-- The loop of `addDamageRect` over the rectangles from the iterator on: each one the new
rectangle fully covers is erased, after which none is searched for that covers the new
one. -/
def addDamageRectFrom (dirtyAbsFrameRect : SkIRect) (checkIfAlreadyCovered : Bool) :
    FrameDamages → FrameDamages
  | [] => [dirtyAbsFrameRect]
  | dirtRect :: rest =>
    if dirtyAbsFrameRect ≠ dirtRect ∧ dirtyAbsFrameRect.contains dirtRect = true then
      addDamageRectFrom dirtyAbsFrameRect false rest
    else if checkIfAlreadyCovered && dirtRect.contains dirtyAbsFrameRect then
      dirtRect :: rest
    else dirtRect :: addDamageRectFrom dirtyAbsFrameRect checkIfAlreadyCovered rest

/-- `Layer::addDamageRect(FrameDamages&, SkIRect)` (`Layer.cpp:23-43`). -/
def addDamageRect (damageRectList : FrameDamages) (dirtyAbsFrameRect : SkIRect) : FrameDamages :=
  addDamageRectFrom dirtyAbsFrameRect true damageRectList

namespace PaintContext

def addDamageRect (context : PaintContext) (dirtyAbsFrameRect : SkIRect) : PaintContext :=
  { context with
    damageRect := ReactNativeSkia.addDamageRect context.damageRect dirtyAbsFrameRect }

end PaintContext

namespace Layer

variable [Skia]

/-- `Layer::getFrameBoundsWithShadow` (`Layer.cpp:46-69`): the mask filter comes first. -/
def getFrameBoundsWithShadow (l : Layer) : SkIRect :=
  match l.shadowMaskFilter, l.shadowImageFilter with
  | some f, _ => Skia.maskFilterBounds f l.shadowOffset l.frame_
  | none, some f => (Skia.imageFilterBounds f l.frame_).join l.frame_
  | none, none => l.frame_

/-- Step 1 of `calculateTransformMatrix`: the matrix to start from. -/
def inheritedMatrix (parent : Option Layer) (l : Layer) : Skia.Matrix :=
  match parent with
  | none => Skia.identity
  | some p =>
    if l.skipParentMatrix_ then Skia.identity
    else Skia.preTranslate p.absoluteTransformMatrix_
      (Skia.ofInt p.frame_.left) (Skia.ofInt p.frame_.top)

/-- Step 2: the own transform about the anchor point, on top of `m`. -/
def applyTransform (l : Layer) (m : Skia.Matrix) : Skia.Matrix :=
  if Skia.isIdentity l.transformMatrix then m
  else
    let Xtrans := Skia.add (Skia.ofInt l.frame_.left)
      (Skia.mul (Skia.ofInt l.frame_.width) l.anchorPosition_.1)
    let Ytrans := Skia.add (Skia.ofInt l.frame_.top)
      (Skia.mul (Skia.ofInt l.frame_.height) l.anchorPosition_.2)
    Skia.preTranslate
      (Skia.preConcat (Skia.preTranslate m Xtrans Ytrans) l.transformMatrix)
      (Skia.neg Xtrans) (Skia.neg Ytrans)

/-- `Layer::calculateTransformMatrix` on a reset matrix (`Layer.cpp:337-362`). -/
def calculateTransformMatrix (parent : Option Layer) (l : Layer) : Skia.Matrix :=
  l.applyTransform (l.inheritedMatrix parent)

/-- The layout branch of `preRoll` without its damage: matrix, absolute frame, frame bounds
and the new bounds. -/
def layOut (parent : Option Layer) (l : Layer) : Layer :=
  let m := l.calculateTransformMatrix parent
  let absFrame := Skia.mapRect m l.frame_
  let frameBounds := if l.isShadowVisible then l.getFrameBoundsWithShadow else l.frame_
  l.withGeometry m frameBounds absFrame
    (if l.isShadowVisible then Skia.mapRect m frameBounds else absFrame)

/-- `Layer::preRoll` (`Layer.cpp:163-206`): the layer after it, and the context. -/
def preRoll (parent : Option Layer) (l : Layer) (context : PaintContext) (forceLayout : Bool) :
    Layer × PaintContext :=
  let laid := if forceLayout || l.invalidateMask_.layout then l.layOut parent else l
  let context :=
    if l.invalidateMask_.layout && context.supportPartialUpdate && !l.bounds_.isEmpty &&
        !laid.bounds_.contains l.bounds_ then
      context.addDamageRect l.bounds_
    else context
  let context :=
    if context.supportPartialUpdate && decide (l.invalidateMask_ ≠ LayerInvalidateNone) then
      context.addDamageRect laid.bounds_
    else context
  (laid, context)

/-- A dirty rectangle of the children moved to the screen and cut to the scroll frame. -/
def screenDirtyRect (l : Layer) (rect : SkIRect) : Option SkIRect :=
  ((rect.makeOffset (-l.scrollOffsetX_) (-l.scrollOffsetY_)).makeOffset
    l.absFrame_.left l.absFrame_.top).intersect l.absFrame_

/-- The scroll bar takes over a changed layout (`ScrollLayer.cpp:345`). -/
def layOutScrollbar (l : Layer) : Layer :=
  if l.invalidateMask_.layout then
    l.withScrollbar (l.scrollbar_.updateScrollLayerLayout l.contentSize_ l.frame_)
  else l

/-- The damage of the scroll bar (`ScrollLayer.cpp:349-352`). -/
def addScrollBarDamage (l : Layer) (context : PaintContext) : Layer × PaintContext :=
  if context.supportPartialUpdate then
    let (scrollBarFrame, scrollbar) :=
      l.scrollbar_.getScrollBarAbsFrame l.absFrame_ l.invalidateMask_
    (l.withScrollbar scrollbar,
      if scrollBarFrame ≠ .MakeEmpty then context.addDamageRect scrollBarFrame else context)
  else (l, context)

/-- The damage of the children, for the parent's list, unless the layer has damaged its whole
frame itself (`ScrollLayer.cpp:357-378`). -/
def addChildrenDamage (l : Layer) (context : PaintContext) : PaintContext :=
  if context.supportPartialUpdate && decide (l.invalidateMask_ = LayerInvalidateNone) then
    (l.bitmapSurfaceDamage_.filterMap l.screenDirtyRect).foldl PaintContext.addDamageRect context
  else context

/-- The part of `ScrollLayer::prePaint` after its children. -/
def scrollPrePaintEnd (l : Layer) (context : PaintContext) : Layer × PaintContext :=
  let (l, context) := l.layOutScrollbar.addScrollBarDamage context
  (l.withMask (l.invalidateMask_.and LayerRemoveInvalidate), l.addChildrenDamage context)

end Layer

namespace Heap

variable [Skia]

/-- The virtual `prePaint` of a child, at one level less. -/
abbrev PrePaint :=
  Heap → LayerId → PaintContext → Bool → Option (Heap × PaintContext)

/-- The loop over the children of both `prePaint`s: `enter` is what the parent does to a
child first, `marked` its test on the child's mask afterwards. The result lists
`recycleChildList`. -/
def prePaintChildren (prePaint : PrePaint) (enter : Layer → Layer)
    (marked : LayerInvalidateMask → Bool) (forceChildrenLayout : Bool) :
    List LayerId → Nat → Heap → PaintContext →
      Option (Heap × PaintContext × List (Nat × LayerId))
  | [], _, h, context => some (h, context, [])
  | layer :: rest, index, h, context => do
    let (h, context) ← prePaint (h.modify layer enter) layer context forceChildrenLayout
    let (h', context, recycleChildList) ←
      prePaintChildren prePaint enter marked forceChildrenLayout rest (index + 1) h context
    return (h', context,
      if marked (h.layer layer).invalidateMask_ then (index, layer) :: recycleChildList
      else recycleChildList)

/-- The removal loop, from the largest index down. -/
def recycle (h : Heap) (p : LayerId) (recycleChildList : List (Nat × LayerId)) : Heap :=
  recycleChildList.foldr (fun entry h => h.removeChildAt p entry.2 entry.1) h

/-- `Layer::prePaint` (`Layer.cpp:208-231`). -/
def layerPrePaint (prePaint : PrePaint) : PrePaint := fun h layer context forceLayout => do
  let l := h.layer layer
  let forceChildrenLayout := forceLayout || l.invalidateMask_.layout
  let (l, context) := l.preRoll (h.parentLayer layer) context forceLayout
  let h := h.set layer (l.withMask (l.invalidateMask_.and LayerRemoveInvalidate))
  let (h, context, recycleChildList) ←
    prePaintChildren prePaint id (fun mask => decide (mask = LayerRemoveInvalidate))
      forceChildrenLayout l.children_ 0 h context
  return (h.recycle layer recycleChildList, context)

/-- `ScrollLayer::prePaint` (`ScrollLayer.cpp:281-396`): the children add their damage to
`bitmapSurfaceDamage_`. -/
def scrollPrePaint (prePaint : PrePaint) : PrePaint := fun h layer context forceLayout => do
  let l := h.layer layer
  let forceChildrenLayout := forceLayout || l.invalidateMask_.layout
  let (l, context) := l.preRoll (h.parentLayer layer) context forceLayout
  let bitmapPaintContext : PaintContext :=
    { damageRect := l.bitmapSurfaceDamage_, supportPartialUpdate := true }
  let (h, bitmapPaintContext, recycleChildList) ←
    prePaintChildren prePaint (Layer.setSkipParentMatrix true) LayerInvalidateMask.remove
      forceChildrenLayout l.children_ 0 (h.set layer l) bitmapPaintContext
  let h := h.recycle layer recycleChildList
  let (l, context) :=
    ((h.layer layer).withBitmapSurfaceDamage bitmapPaintContext.damageRect).scrollPrePaintEnd
      context
  return (h.set layer l, context)

/-- The virtual call `layer->prePaint(context, forceLayout)` with that many levels of
children. -/
def prePaintLevels : Nat → PrePaint
  | 0 => fun _ _ _ _ => none
  | n + 1 => fun h layer context forceLayout =>
    if (h.layer layer).isScroll then
      scrollPrePaint (prePaintLevels n) h layer context forceLayout
    else layerPrePaint (prePaintLevels n) h layer context forceLayout

/-- `layer->prePaint(context, forceLayout)`: no path downwards is longer than the number of
layers unless it runs in a circle. -/
def prePaint (h : Heap) (layer : LayerId) (context : PaintContext) (forceLayout : Bool) :
    Option (Heap × PaintContext) :=
  prePaintLevels (h.nextId + 1) h layer context forceLayout

end Heap

end ReactNativeSkia
