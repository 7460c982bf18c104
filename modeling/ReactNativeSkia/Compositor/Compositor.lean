import ReactNativeSkia.Compositor.Layers.Paint

/-!
# Rendering a frame

`Compositor::beginClip` and `Compositor::renderLayerTree` (`compositor/Compositor.cpp:116-251`),
in the build with `RNS_SHELL_PARTIAL_UPDATES` and `RNS_SHELL_BUFFER_AGE`. Lists and vectors
keep the order of the source: `frameDamageHistory_` has the oldest frame first.
-/

namespace ReactNativeSkia

def RNS_SHELL_MAX_FRAME_DAMAGE_HISTORY : Nat := 5

/-- What rendering uses of `Compositor`. Of the window context and the back buffer only whether
they are there; the viewport is a whole number of pixels. -/
structure Compositor where
  windowContext_ : Bool
  backBuffer_ : Bool
  rootLayer_ : Option LayerId
  supportPartialUpdate_ : Bool
  surfaceDamage_ : FrameDamages
  frameDamageHistory_ : List FrameDamages
  viewportSize : SkISize
  needsResize : Bool
  deriving DecidableEq

/-- A frame that got as far as `swapBuffers`. -/
structure RenderedFrame where
  /-- `currentFrameDamages`: the damage of the frame itself. -/
  own : FrameDamages
  bufferAge : Int32
  /-- The clip path, unless `beginClip` returned before setting one. -/
  clipPath : Option (List SkIRect)
  /-- `surfaceDamage_` as passed to `swapBuffers`. -/
  swapped : FrameDamages
  viewport : SkIRect
  deriving DecidableEq

namespace Compositor

/-- The entire surface. -/
def viewportRect (c : Compositor) : SkIRect := ⟨0, 0, c.viewportSize.width, c.viewportSize.height⟩

/-- `bufferAge > frameDamageHistory_.size()`, which compares unsigned. -/
def ageExceeds (bufferAge : Int32) (size : Nat) : Bool :=
  decide ((bufferAge.toInt % 2 ^ 64).toNat > size)

/-- The loop over the history, newest entry first, with the remaining `age`. `dirtyRects` is a
reference to the newest entry, so the assignment in each round overwrites that entry. -/
def addHistoryDamage (dirtyRects surfaceDamage clipPath : FrameDamages) :
    List FrameDamages → Nat → FrameDamages × FrameDamages × List SkIRect
  | [], _ => (dirtyRects, surfaceDamage, clipPath)
  | _, 0 => (dirtyRects, surfaceDamage, clipPath)
  | frameDamages :: rest, age + 1 =>
    addHistoryDamage frameDamages (frameDamages.foldl addDamageRect surfaceDamage)
      (clipPath ++ frameDamages) rest age

/-- `Compositor::beginClip()` (`Compositor.cpp:117-161`): the compositor after it and the clip
path, if one is set. -/
def beginClip (c : Compositor) (bufferAge : Int32) : Compositor × Option (List SkIRect) :=
  if c.surfaceDamage_ = [] then (c, none)
  else if bufferAge = 1 then (c, some c.surfaceDamage_)
  else if bufferAge = 0 || ageExceeds bufferAge c.frameDamageHistory_.length then
    ({ c with surfaceDamage_ := addDamageRect [] c.viewportRect }, some [c.viewportRect])
  else
    match c.frameDamageHistory_.reverse with
    | [] => (c, some c.surfaceDamage_)
    | newest :: older =>
      let (newest, damage, clipPath) :=
        addHistoryDamage newest c.surfaceDamage_ c.surfaceDamage_ (newest :: older)
          (bufferAge.toInt - 1).toNat
      ({ c with surfaceDamage_ := damage, frameDamageHistory_ := (newest :: older).reverse },
        some clipPath)

/-- The end of `renderLayerTree`: the history keeps its last entries. -/
def pushHistory (c : Compositor) (currentFrameDamages : FrameDamages) : Compositor :=
  let history :=
    if c.frameDamageHistory_.length ≥ RNS_SHELL_MAX_FRAME_DAMAGE_HISTORY then
      c.frameDamageHistory_.tail
    else c.frameDamageHistory_
  { c with frameDamageHistory_ := history ++ [currentFrameDamages] }

def paintContext (c : Compositor) : PaintContext :=
  { damageRect := c.surfaceDamage_, supportPartialUpdate := c.supportPartialUpdate_ }

section
variable [Skia]

/-- The part of `renderLayerTree` after the checks: pre-paint, clip, paint, swap, history. -/
def renderFrame (c : Compositor) (h : Heap) (root : LayerId) (bufferAge : Int32) :
    Option (Compositor × Heap × Option RenderedFrame) := do
  let (h, context) ← h.prePaint root c.paintContext false
  let currentFrameDamages := context.damageRect
  let (c, clipPath) :=
    { c with surfaceDamage_ := currentFrameDamages, needsResize := false }.beginClip bufferAge
  if !(h.layer root).needsPainting c.paintContext then
    return (c, h, none)
  else
    let (h, _) ← h.paint root c.paintContext
    return (c.pushHistory currentFrameDamages, h,
      some ⟨currentFrameDamages, bufferAge, clipPath, c.surfaceDamage_, c.viewportRect⟩)

/-- `Compositor::renderLayerTree` (`Compositor.cpp:164-251`) with the layers as they stand and
the age that the window context reports: the frame, if one is swapped. -/
def renderLayerTree (c : Compositor) (h : Heap) (bufferAge : Int32) :
    Option (Compositor × Heap × Option RenderedFrame) :=
  match c.rootLayer_ with
  | some root =>
    if c.windowContext_ && c.backBuffer_ then c.renderFrame h root bufferAge
    else some (c, h, none)
  | none => some (c, h, none)

end

/-- `Compositor::begin` clears the damage. -/
def clearDamage (c : Compositor) : Compositor := { c with surfaceDamage_ := [] }

/-- `Compositor::addDamageRect` (`Compositor.h:54`). -/
def addDamage (c : Compositor) (damage : SkIRect) : Compositor :=
  if c.supportPartialUpdate_ && !damage.isEmpty then
    { c with surfaceDamage_ := c.surfaceDamage_ ++ [damage] }
  else c

/-- `Compositor::setRootLayer`. -/
def setRootLayer (c : Compositor) (layer : Option LayerId) : Compositor :=
  { c with rootLayer_ := layer }

/-- What `Compositor::setViewportSize` changes before it commits. -/
def resize (c : Compositor) (size : SkISize) : Compositor :=
  if size = c.viewportSize then c else { c with viewportSize := size, needsResize := true }

/-- `Compositor::invalidate`. -/
def invalidate (c : Compositor) : Compositor :=
  { c with windowContext_ := false, backBuffer_ := false }

end Compositor

end ReactNativeSkia
