import ReactNativeSkia.Compositor.Compositor

/-!
# What is on the screen

The calls of a frame (`Heap.paint`) carried out on one pixel of the back buffer, and the buffers
that the window context hands round (`bufferAge`, `swapBuffers`): a buffer of age `n` holds the
frame swapped `n` swaps ago, and one of age 0 anything. What a picture does to a pixel is the
`playback` of Skia.
-/

namespace ReactNativeSkia

/-- What the calls on the canvas do to the colour of a pixel. -/
class SkiaCanvas [Skia] where
  Picture : Type
  Colour : Type
  transparent : Colour
  /-- `SkPicture::playback` under a matrix. -/
  playback : Picture → Skia.Matrix → Pixel → Colour → Colour
  /-- The pixel lies in the rectangle under the matrix. -/
  inside : Skia.Matrix → SkIRect → Pixel → Bool
  /-- What `restore` makes of the backdrop and a layer saved with an alpha. -/
  blend : ℚ → Colour → Colour → Colour

/-- Documented behaviour of Skia: a saved layer with nothing drawn on it leaves no trace, and the
identity matrix is one. -/
class LawfulCanvas [Skia] [SkiaCanvas] : Prop where
  blend_transparent : ∀ (alpha : ℚ) (backdrop : SkiaCanvas.Colour),
    SkiaCanvas.blend alpha backdrop SkiaCanvas.transparent = backdrop
  preConcat_identity : ∀ m : Skia.Matrix, Skia.preConcat Skia.identity m = m

open SkiaCanvas

section
variable [Skia] [SkiaCanvas]

/-- What a layer draws itself, and for a scroll layer its border and its scroll bar. -/
structure LayerPictures where
  picture : Picture
  border : Picture
  scrollBar : Picture

/-! ## One pixel of a canvas -/

/-- What `restore` goes back to, with the backdrop and the alpha of a saved layer. -/
structure CanvasSave where
  matrix : Skia.Matrix
  clipped : Bool
  layer : Option (Colour × ℚ) := none

/-- `clipped` says that the clip leaves the pixel out. -/
structure PixelCanvas where
  colour : Colour
  matrix : Skia.Matrix := Skia.identity
  clipped : Bool := false
  saves : List CanvasSave := []

namespace PixelCanvas

def drawPicture (s : PixelCanvas) (picture : Picture) (p : Pixel) : PixelCanvas :=
  if s.clipped then s else { s with colour := playback picture s.matrix p s.colour }

/-- `SkAutoCanvasRestore` goes back over the layers saved since. -/
def restoreFrom (s : PixelCanvas) : List CanvasSave → PixelCanvas
  | [] => s
  | save :: saves =>
    let s := { s with matrix := save.matrix, clipped := save.clipped, saves := saves }
    match save.layer with
    | none => s
    | some (backdrop, alpha) =>
      restoreFrom
        { s with colour := if save.clipped then backdrop else blend alpha backdrop s.colour } saves

end PixelCanvas

def CanvasOp.draw (pictures : LayerId → LayerPictures) (p : Pixel) (s : PixelCanvas) :
    CanvasOp → PixelCanvas
  | save => { s with saves := ⟨s.matrix, s.clipped, none⟩ :: s.saves }
  | setMatrix m => { s with matrix := m }
  | saveLayerAlpha _ alpha =>
    { s with
      colour := transparent
      saves := ⟨s.matrix, s.clipped, some (s.colour, alpha)⟩ :: s.saves }
  | paintSelf layer => s.drawPicture (pictures layer).picture p
  | clipRect r => { s with clipped := s.clipped || !inside s.matrix r p }
  | paintScrollBar layer => s.drawPicture (pictures layer).scrollBar p
  | paintBorder layer => s.drawPicture (pictures layer).border p
  | restore => s.restoreFrom s.saves

def drawOps (pictures : LayerId → LayerPictures) (p : Pixel) (ops : List CanvasOp)
    (s : PixelCanvas) : PixelCanvas :=
  ops.foldl (CanvasOp.draw pictures p) s

/-- The colour that a repaint of the whole tree onto `colour` leaves at the pixel. -/
def Heap.repaint (h : Heap) (pictures : LayerId → LayerPictures) (root : LayerId) (p : Pixel)
    (colour : Colour) : Option Colour :=
  (h.paint root { damageRect := [], supportPartialUpdate := false }).map fun r =>
    (drawOps pictures p r.2 { colour := colour }).colour

/-- Clip path and calls of the frame that `renderFrame` paints. -/
def Compositor.frameOps (c : Compositor) (h : Heap) (root : LayerId) (bufferAge : Int32) :
    Option (Option (List SkIRect) × List CanvasOp) := do
  let (h, context) ← h.prePaint root c.paintContext false
  let (c, clipPath) :=
    { c with surfaceDamage_ := context.damageRect, needsResize := false }.beginClip bufferAge
  let (_, ops) ← h.paint root c.paintContext
  return (clipPath, ops)

/-- What a frame makes of a pixel of the back buffer. -/
def paintPixel (pictures : LayerId → LayerPictures) (clipPath : Option (List SkIRect))
    (ops : List CanvasOp) (p : Pixel) (colour : Colour) : Colour :=
  (drawOps pictures p ops
    { colour := colour, clipped := clipPath.any fun path => !decide (Rect.Covered path p) }).colour

/-! ## The screen -/

/-- The layers, what they draw, and the frames that have been swapped, the newest first. -/
structure Screen where
  compositor : Compositor
  heap : Heap
  pictures : LayerId → LayerPictures
  frames : List RenderedFrame := []
  images : List (Pixel → Colour) := []

/-- What happens to the layers and the compositor. A component sets the fields of its layer and its
pictures and invalidates it with a mask, which is also how it takes the layer out. -/
inductive ScreenOp where
  | begin
  | addDamageRect (damage : SkIRect)
  | create (type : LayerType)
  | update (layer : LayerId) (props : Layer) (pictures : LayerPictures) (mask : LayerInvalidateMask)
  | insertChild (p child : LayerId) (index : Nat)
  /-- `unswapped` is in a buffer that has not been swapped yet. -/
  | renderLayerTree (bufferAge : Int32) (unswapped : Pixel → Colour)

namespace Layer

/-- What `updateProps` and `setFrame` set. -/
def withProps (l props : Layer) : Layer :=
  { l with
    frame_ := props.frame_
    anchorPosition_ := props.anchorPosition_
    transformMatrix := props.transformMatrix
    opacity := props.opacity
    shadowOffset := props.shadowOffset
    shadowImageFilter := props.shadowImageFilter
    shadowMaskFilter := props.shadowMaskFilter
    isShadowVisible := props.isShadowVisible
    isHidden_ := props.isHidden_
    masksToBounds_ := props.masksToBounds_ }

end Layer

namespace Screen

/-- What the buffer of an age holds. -/
def backBuffer (s : Screen) (bufferAge : Int32) (unswapped : Pixel → Colour) : Pixel → Colour :=
  if bufferAge.toInt ≤ 0 then unswapped else s.images.getD (bufferAge.toInt.toNat - 1) unswapped

/-- `none` if the age is more than the number of swaps, or a loop does not end. -/
def renderLayerTree (s : Screen) (bufferAge : Int32) (unswapped : Pixel → Colour) :
    Option Screen := do
  if (s.images.length : Int) < bufferAge.toInt then none
  else
    let (compositor, heap, frame) ← s.compositor.renderLayerTree s.heap bufferAge
    match frame with
    | none => return { s with compositor := compositor, heap := heap }
    | some frame =>
      let root ← s.compositor.rootLayer_
      let (clipPath, ops) ← s.compositor.frameOps s.heap root bufferAge
      let image := fun p =>
        paintPixel s.pictures clipPath ops p (s.backBuffer bufferAge unswapped p)
      return { s with
        compositor := compositor
        heap := heap
        frames := frame :: s.frames
        images := image :: s.images }

end Screen

namespace ScreenOp

def exec (s : Screen) : ScreenOp → Option Screen
  | begin => some { s with compositor := s.compositor.clearDamage }
  | addDamageRect damage => some { s with compositor := s.compositor.addDamage damage }
  | create type => some { s with heap := s.heap.create type }
  | update layer props pictures mask =>
    some { s with
      heap := s.heap.modify layer fun l => (l.withProps props).invalidate mask
      pictures := Function.update s.pictures layer pictures }
  | insertChild p child index =>
    (s.heap.insertChild p child index).map fun heap => { s with heap := heap }
  | renderLayerTree bufferAge unswapped => s.renderLayerTree bufferAge unswapped

end ScreenOp

def screenStep (s : Screen) (op : ScreenOp) (t : Screen) : Prop := op.exec s = some t

end

end ReactNativeSkia
