import ReactNativeSkia.Compositor.Layers.PrePaint

/-!
# Painting

`Layer::paint`, `Layer::needsPainting` and `ScrollLayer::paint` (`layers/Layer.cpp:247-281,
307-335, 379-395`, `layers/ScrollLayer.cpp:460-491, 541-560`), in the build with
`RNS_SHELL_PARTIAL_UPDATES` and without `SCROLL_LAYER_BITMAP`. What a paint does to the
canvas is the list of its calls; what a layer draws itself is one of them.
-/

namespace ReactNativeSkia

/-- The calls on the canvas. `restore` goes back to the matching `save`. -/
inductive CanvasOp [Skia] where
  | save
  | setMatrix (m : Skia.Matrix)
  | saveLayerAlpha (bounds : SkIRect) (alpha : ℚ)
  | paintSelf (layer : LayerId)
  | clipRect (r : SkIRect)
  | paintScrollBar (layer : LayerId)
  | paintBorder (layer : LayerId)
  | restore

namespace CanvasOp

/-- The layer whose `paintSelf` runs. -/
def painted? [Skia] : CanvasOp → Option LayerId
  | paintSelf layer => some layer
  | _ => none

end CanvasOp

variable [Skia]

namespace Layer

/-- The bounds with the scroll offset of the context. -/
def screenBounds (l : Layer) (offset : Int × Int) : SkIRect :=
  if offset ≠ (0, 0) then l.bounds_.makeOffset offset.1 offset.2 else l.bounds_

/-- The bounds intersect a rectangle of the damage. -/
def hits (l : Layer) (context : PaintContext) : Bool :=
  context.damageRect.any fun dirtRect =>
    ((l.screenBounds context.offset).intersect dirtRect).isSome

/-- `Layer::needsPainting` (`Layer.cpp:307-335`). -/
def needsPainting (l : Layer) (context : PaintContext) : Bool :=
  if l.frame_.isEmpty || l.isHidden_ then false
  else if !context.supportPartialUpdate then true
  else l.hits context

/-- `Layer::applyLayerTransformMatrix`: the matrix set on the canvas. -/
def screenMatrix (l : Layer) (offset : Int × Int) : Skia.Matrix :=
  Skia.preConcat
    (if offset ≠ (0, 0) then
      Skia.preTranslate Skia.identity (Skia.ofInt offset.1) (Skia.ofInt offset.2)
    else Skia.identity)
    l.absoluteTransformMatrix_

/-- `Layer::applyLayerOpacity`. -/
def applyLayerOpacity (l : Layer) : List CanvasOp :=
  if 0 ≤ l.opacity ∧ l.opacity < 255 then [.saveLayerAlpha l.frameBounds_ l.opacity] else []

/-- The context that `ScrollLayer::paintSelfAndChildren` sets up for the children. -/
def scrolledContext (l : Layer) (context : PaintContext) : PaintContext :=
  { context with
    offset := (context.offset.1 + (l.absFrame_.left - l.scrollOffsetX_),
      context.offset.2 + (l.absFrame_.top - l.scrollOffsetY_)) }

end Layer

namespace Heap

/-- The virtual `paint` of a child, at one level less. -/
abbrev Paint := Heap → LayerId → PaintContext → Option (Heap × List CanvasOp)

/-- `Layer::paintChildren` (`Layer.cpp:247-256`). -/
def paintChildren (paint : Paint) (context : PaintContext) :
    List LayerId → Heap → Option (Heap × List CanvasOp)
  | [], h => some (h, [])
  | layer :: rest, h =>
    if (h.layer layer).needsPainting context then do
      let (h, ops) ← paint h layer context
      let (h, ops') ← paintChildren paint context rest h
      return (h, ops ++ ops')
    else paintChildren paint context rest h

/-- `Layer::paint` (`Layer.cpp:258-281`). -/
def layerPaint (paint : Paint) : Paint := fun h layer context => do
  let l := h.layer layer
  if l.opacity ≤ 0 then
    return (h, [.save, .setMatrix (l.screenMatrix context.offset), .restore])
  else
    let (h, ops) ← paintChildren paint context l.children_ h
    return (h, [.save, .setMatrix (l.screenMatrix context.offset)] ++ l.applyLayerOpacity ++
      [.paintSelf layer] ++ (if l.masksToBounds_ then [.clipRect l.frame_] else []) ++ ops ++
      [.restore])

/-- `ScrollLayer::paint` with `paintSelfAndChildren` (`ScrollLayer.cpp:460-491, 541-560`). -/
def scrollPaint (paint : Paint) : Paint := fun h layer context => do
  let l := h.layer layer
  if l.opacity ≤ 0 then
    return (h, [.save, .setMatrix (l.screenMatrix context.offset), .restore])
  else
    let (h, ops) ← paintChildren paint (l.scrolledContext context) l.children_ h
    return (h.modify layer (·.withBitmapSurfaceDamage []),
      [.save, .setMatrix (l.screenMatrix context.offset)] ++ l.applyLayerOpacity ++
      [.paintSelf layer, .clipRect l.frame_] ++ ops ++
      [.paintScrollBar layer, .paintBorder layer, .restore])

/-- The virtual call `layer->paint(context)` with that many levels of children. -/
def paintLevels : Nat → Paint
  | 0 => fun _ _ _ => none
  | n + 1 => fun h layer context =>
    if (h.layer layer).isScroll then scrollPaint (paintLevels n) h layer context
    else layerPaint (paintLevels n) h layer context

/-- `layer->paint(context)`. -/
def paint (h : Heap) (layer : LayerId) (context : PaintContext) :
    Option (Heap × List CanvasOp) :=
  paintLevels (h.nextId + 1) h layer context

/-- The layers whose `paintSelf` runs in `layer->paint(context)`, in order. -/
def paintOrder (h : Heap) (layer : LayerId) (context : PaintContext) : Option (List LayerId) :=
  (h.paint layer context).map fun r => r.2.filterMap CanvasOp.painted?

end Heap

end ReactNativeSkia
