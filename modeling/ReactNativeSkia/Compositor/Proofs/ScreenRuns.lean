import ReactNativeSkia.Compositor.Proofs.BufferAge
import ReactNativeSkia.Compositor.Proofs.ScreenSteps

/-!
# The screen shows the layers

A frame repaints its damage only, on top of an older one. Over runs of components that change
their layers and frames in buffers of any age, every frame still leaves on the whole screen what a
repaint of all layers would.
-/

namespace ReactNativeSkia

open Rect SkiaCanvas

section
variable [Skia] [SkiaCanvas]

/-! ## The clip of a frame -/

namespace Compositor

variable {c : Compositor} {bufferAge : Int32}

omit [Skia] [SkiaCanvas] in
/-- What a buffer without an age holds does not matter. -/
theorem beginClip_of_nonpos (hne : c.surfaceDamage_ ≠ [])
    (hsize : c.frameDamageHistory_.length < 2 ^ 31) (hage : bufferAge.toInt ≤ 0) :
    c.beginClip bufferAge =
      ({ c with surfaceDamage_ := addDamageRect [] c.viewportRect }, some [c.viewportRect]) := by
  have hone : bufferAge ≠ 1 := by
    rintro rfl
    exact absurd hage (by decide)
  have hfull : (bufferAge = 0 || ageExceeds bufferAge c.frameDamageHistory_.length) = true := by
    rw [Bool.or_eq_true, decide_eq_true_eq, ageExceeds_iff bufferAge hsize]
    rcases hage.lt_or_eq with hneg | hzero
    · exact .inr (.inl hneg)
    · exact .inl (Int32.toInt_inj.mp hzero)
  unfold beginClip
  rw [if_neg hne, if_neg hone, if_pos hfull]

omit [Skia] [SkiaCanvas] in
theorem beginClip_path (c : Compositor) (bufferAge : Int32) (hne : c.surfaceDamage_ ≠ []) :
    ∃ path, (c.beginClip bufferAge).2 = some path ∧
      ∀ q, Covered path q ↔ Covered (c.beginClip bufferAge).1.surfaceDamage_ q := by
  have hsome : ∃ path, (c.beginClip bufferAge).2 = some path := by
    unfold beginClip
    rw [if_neg hne]
    split
    · exact ⟨_, rfl⟩
    · split
      · exact ⟨_, rfl⟩
      · split <;> exact ⟨_, rfl⟩
  obtain ⟨path, hpath⟩ := hsome
  exact ⟨path, hpath, beginClip_clipPath (Prod.ext rfl hpath)⟩

/-- What neither the calls between two frames nor a frame touch. -/
structure SameSetup (c c' : Compositor) : Prop where
  windowContext_ : c'.windowContext_ = c.windowContext_
  backBuffer_ : c'.backBuffer_ = c.backBuffer_
  rootLayer_ : c'.rootLayer_ = c.rootLayer_
  supportPartialUpdate_ : c'.supportPartialUpdate_ = c.supportPartialUpdate_
  viewportSize : c'.viewportSize = c.viewportSize

omit [Skia] [SkiaCanvas] in
theorem beginClip_sameSetup (c : Compositor) (bufferAge : Int32) :
    c.SameSetup (c.beginClip bufferAge).1 := by
  unfold beginClip
  split
  · exact ⟨rfl, rfl, rfl, rfl, rfl⟩
  · split
    · exact ⟨rfl, rfl, rfl, rfl, rfl⟩
    · split
      · exact ⟨rfl, rfl, rfl, rfl, rfl⟩
      · split <;> exact ⟨rfl, rfl, rfl, rfl, rfl⟩

omit [Skia] [SkiaCanvas] in
theorem addDamage_sameSetup (c : Compositor) (damage : SkIRect) :
    c.SameSetup (c.addDamage damage) := by
  unfold addDamage
  split <;> exact ⟨rfl, rfl, rfl, rfl, rfl⟩

omit [Skia] [SkiaCanvas] in
theorem SameSetup.viewportRect {c c' : Compositor} (hc : c.SameSetup c') :
    c'.viewportRect = c.viewportRect := by
  rw [Compositor.viewportRect, Compositor.viewportRect, hc.viewportSize]

section
variable {c' : Compositor} {clipPath : Option (List SkIRect)} {h h' : Heap} {root : LayerId}
  {context' : PaintContext}

omit [SkiaCanvas] in
/-- The frame behind the pre-paint and the clip. -/
theorem renderFrame_eq (hpre : h.prePaint root c.paintContext false = some (h', context'))
    (hclip : (c.atClip context'.damageRect).beginClip bufferAge = (c', clipPath)) :
    c.renderFrame h root bufferAge =
      if (h'.layer root).needsPainting c'.paintContext = true then
        (h'.paint root c'.paintContext).map fun r => (c'.pushHistory context'.damageRect, r.1,
          some ⟨context'.damageRect, bufferAge, clipPath, c'.surfaceDamage_, c'.viewportRect⟩)
      else some (c', h', none) := by
  simp only [atClip] at hclip
  cases hneeds : (h'.layer root).needsPainting c'.paintContext with
  | true => simp [renderFrame, hpre, hclip, hneeds, Option.map_eq_bind]
  | false => simp [renderFrame, hpre, hclip, hneeds]

omit [SkiaCanvas] in
theorem frameOps_eq (hpre : h.prePaint root c.paintContext false = some (h', context'))
    (hclip : (c.atClip context'.damageRect).beginClip bufferAge = (c', clipPath)) :
    c.frameOps h root bufferAge =
      (h'.paint root c'.paintContext).map fun r => (clipPath, r.2) := by
  simp only [atClip] at hclip
  simp [frameOps, hpre, hclip, Option.map_eq_bind]

end

end Compositor

omit [Skia] [SkiaCanvas] in
/-- A pixel of the viewport that a frame with damage does not repaint is damaged neither by it nor
by the frames that its buffer lacks. -/
theorem FrameLog.Fits.not_covered {s : FrameLog} (hs : s.Fits) {own : FrameDamages}
    {bufferAge : Int32} (hne : own ≠ []) {p : Pixel} (hp : p ∈ s.compositor.viewportRect)
    (hout : ¬ Covered ((s.compositor.atClip own).beginClip bufferAge).1.surfaceDamage_ p) :
    0 < bufferAge.toInt ∧ ¬ Covered own p ∧
      ∀ f ∈ s.frames.take (bufferAge.toInt - 1).toNat, ¬ Covered f.own p := by
  have hcomplete := hs.complete_frame (f := ⟨own, bufferAge, none,
    ((s.compositor.atClip own).beginClip bufferAge).1.surfaceDamage_,
    s.compositor.viewportRect⟩) hne rfl rfl
  rcases hcomplete with hcovers | hfull
  · refine ⟨?_, fun hown => hout (hcovers p (.inl hown)),
      fun f hf hfp => hout (hcovers p (.inr ⟨f, hf, hfp⟩))⟩
    by_contra hage
    rw [Compositor.beginClip_of_nonpos (c := s.compositor.atClip own) hne hs.history.length_lt
      (not_lt.mp hage)] at hout
    exact hout ((covered_addDamageRect [] _ p).mpr (.inr hp))
  · exact absurd (hfull p hp) hout

namespace Screen

/-- From one frame to the next only the pixels of its own damage change. -/
def Handed (viewport : SkIRect) : List RenderedFrame → List (Pixel → Colour) → Prop
  | [], [] => True
  | f :: frames, i :: images =>
    (∀ j ∈ images.head?, ∀ p ∈ viewport, ¬ Covered f.own p → i p = j p) ∧
      Handed viewport frames images
  | _, _ => False

/-- The root covers the viewport and clears it before anything else is drawn. -/
structure FillsViewport (h : Heap) (pictures : LayerId → LayerPictures) (root : LayerId)
    (viewport : SkIRect) : Prop where
  covers : ∀ p ∈ viewport, p ∈ (h.layer root).bounds_
  shown : (h.layer root).isShown = true
  solid : 255 ≤ (h.layer root).opacity
  clears : ∀ p ∈ viewport, ∀ c c',
    playback (pictures root).picture (h.layer root).absoluteTransformMatrix_ p c =
      playback (pictures root).picture (h.layer root).absoluteTransformMatrix_ p c'

/-- A frame whose pre-paint ends in `h'` with the damage `own`: what the ancestors move is in the
damage, the history survives the age, no damaged layer is below one that the clip misses, and
layers draw inside their bounds. -/
structure PaintsWhole (s : Screen) (root : LayerId) (bufferAge : Int32) (h' : Heap)
    (own : FrameDamages) : Prop where
  plain : s.heap.PlainBelow root
  moves : s.heap.MovesCovered root h' own
  age : own ≠ [] → s.compositor.AgeKeepsHistory bufferAge
  reach : h'.HitsReach root ((s.compositor.atClip own).beginClip bufferAge).1.paintContext
  within : ∀ p ∈ s.compositor.viewportRect, h'.TreeStaysWithin s.pictures root p
  fills : FillsViewport h' s.pictures root s.compositor.viewportRect

/-- A screen just opened, with layers that no frame has shown. -/
structure Opened (s : Screen) (root : LayerId) : Prop where
  constructed : FrameLog.Constructed ⟨s.compositor, s.frames⟩
  images : s.images = []
  ready : (s.compositor.windowContext_ && s.compositor.backBuffer_) = true
  rootLayer : s.compositor.rootLayer_ = some root
  supports : s.compositor.supportPartialUpdate_ = true
  forest : s.heap.Forest
  root_lt : root < s.heap.nextId

/-- The invariant: a pixel of the newest frame that is not pending is as the layers make it. -/
structure Shows (s : Screen) (root : LayerId) : Prop where
  fits : FrameLog.Fits ⟨s.compositor, s.frames⟩
  ready : (s.compositor.windowContext_ && s.compositor.backBuffer_) = true
  rootLayer : s.compositor.rootLayer_ = some root
  supports : s.compositor.supportPartialUpdate_ = true
  forest : s.heap.Forest
  root_lt : root < s.heap.nextId
  handed : Handed s.compositor.viewportRect s.frames s.images
  shown : ∀ i ∈ s.images.head?, ∀ p ∈ s.compositor.viewportRect, ¬ s.heap.Pending root p →
    ∀ c, s.heap.pixelTree s.pictures root p c = i p

end Screen

/-- What keeps the screen right. -/
def ScreenOp.KeepsScreen (root : LayerId) (s : Screen) : ScreenOp → Prop
  | begin | addDamageRect _ | create _ => True
  | update layer props drawn mask => s.heap.Announced s.pictures layer props drawn mask
  | insertChild p child _ =>
    (p < s.heap.nextId ∧ child < s.heap.nextId) ∧ ¬ Below s.heap.children child p ∧
      s.heap.InsertAnnounced root p child
  | renderLayerTree bufferAge _ => ∀ h' context',
    s.heap.prePaint root s.compositor.paintContext false = some (h', context') →
      s.PaintsWhole root bufferAge h' context'.damageRect

namespace Screen

variable {s s' : Screen} {root : LayerId} {viewport : SkIRect} {p : Pixel}
  {frames : List RenderedFrame} {images : List (Pixel → Colour)}

theorem Handed.length_eq (hh : Handed viewport frames images) :
    images.length = frames.length := by
  induction frames generalizing images with
  | nil =>
    cases images with
    | nil => rfl
    | cons i images => exact hh.elim
  | cons f frames ih =>
    cases images with
    | nil => exact hh.elim
    | cons i images => exact congrArg (· + 1) (ih hh.2)

/-- A pixel that the last `n` frames have not damaged is as it was before them. -/
theorem Handed.eq (hh : Handed viewport frames images) (hp : p ∈ viewport) {n : Nat}
    (hout : ∀ f ∈ frames.take n, ¬ Covered f.own p) {i j : Pixel → Colour}
    (hi : i ∈ images.head?) (hj : images[n]? = some j) : i p = j p := by
  induction n generalizing frames images i with
  | zero =>
    rw [← List.head?_eq_getElem?] at hj
    rw [Option.mem_def, hj, Option.some.injEq] at hi
    rw [hi]
  | succ n ih =>
    cases images with
    | nil => cases hi
    | cons k images =>
      cases frames with
      | nil => exact hh.elim
      | cons f frames =>
        obtain rfl : k = i := Option.some.inj hi
        rw [List.getElem?_cons_succ] at hj
        cases images with
        | nil => cases hj
        | cons l images =>
          rw [List.take_succ_cons] at hout
          have hf := hout f List.mem_cons_self
          rw [hh.1 l rfl p hp hf]
          exact ih hh.2 (fun g hg => hout g (List.mem_cons_of_mem f hg)) rfl hj

/-- What the layers make of a pixel of the viewport does not depend on what was there. -/
theorem FillsViewport.pixelTree_eq {h : Heap} {pictures : LayerId → LayerPictures}
    (hfills : FillsViewport h pictures root viewport) (hp : p ∈ viewport) (c c' : Colour) :
    h.pixelTree pictures root p c = h.pixelTree pictures root p c' := by
  have hpos : ¬ (h.layer root).opacity ≤ 0 := by
    have := hfills.solid
    linarith
  unfold Heap.pixelTree
  rw [treeFold_succ, Layer.pixelNode, if_pos (hfills.covers p hp), if_pos hfills.shown]
  unfold Layer.paintNode withAlpha
  rw [if_neg hpos, if_neg hpos, if_neg (not_lt.mpr hfills.solid)]
  rw [if_neg (not_lt.mpr hfills.solid)]
  dsimp only
  rw [hfills.clears p hp c c']

/-! ## One frame -/

/-- What a render of a screen that is ready does: nothing comes of it if the clip misses the root,
else the root is painted into the buffer of that age. -/
theorem renderLayerTree_cases {bufferAge : Int32} {unswapped : Pixel → Colour}
    (hready : (s.compositor.windowContext_ && s.compositor.backBuffer_) = true)
    (hroot : s.compositor.rootLayer_ = some root)
    (hr : s.renderLayerTree bufferAge unswapped = some s') :
    bufferAge.toInt ≤ s.images.length ∧ ∃ h' context' c clipPath,
      s.heap.prePaint root s.compositor.paintContext false = some (h', context') ∧
      (s.compositor.atClip context'.damageRect).beginClip bufferAge = (c, clipPath) ∧
      (((h'.layer root).needsPainting c.paintContext = false ∧
          s' = { s with compositor := c, heap := h' }) ∨
        ((h'.layer root).needsPainting c.paintContext = true ∧ ∃ h'' ops frame,
          h'.paint root c.paintContext = some (h'', ops) ∧ frame.own = context'.damageRect ∧
          s' = { s with
            compositor := c.pushHistory context'.damageRect
            heap := h''
            frames := frame :: s.frames
            images := (fun p => paintPixel s.pictures clipPath ops p
              (s.backBuffer bufferAge unswapped p)) :: s.images })) := by
  unfold renderLayerTree at hr
  split at hr
  · cases hr
  rename_i hage
  refine ⟨not_lt.mp hage, ?_⟩
  obtain ⟨⟨compositor, heap, frame⟩, hrender, hrest⟩ := Option.bind_eq_some_iff.mp hr
  have hpreSome : ∃ r, s.heap.prePaint root s.compositor.paintContext false = some r := by
    rw [Compositor.renderLayerTree, hroot] at hrender
    dsimp only at hrender
    rw [if_pos hready] at hrender
    obtain ⟨r, hpre, -⟩ := Option.bind_eq_some_iff.mp hrender
    exact ⟨r, hpre⟩
  obtain ⟨⟨h', context'⟩, hpre⟩ := hpreSome
  obtain ⟨c, clipPath, hclip⟩ : ∃ c clipPath,
      (s.compositor.atClip context'.damageRect).beginClip bufferAge = (c, clipPath) := ⟨_, _, rfl⟩
  refine ⟨h', context', c, clipPath, hpre, hclip, ?_⟩
  rw [Compositor.renderLayerTree, hroot] at hrender
  dsimp only at hrender
  rw [if_pos hready, Compositor.renderFrame_eq hpre hclip] at hrender
  by_cases hneeds : (h'.layer root).needsPainting c.paintContext = true
  · rw [if_pos hneeds] at hrender
    obtain ⟨⟨h'', ops⟩, hops, hend⟩ := Option.map_eq_some_iff.mp hrender
    obtain ⟨rfl, rfl, rfl⟩ := Prod.mk.inj hend |>.imp_right Prod.mk.inj
    have hframeOps := Compositor.frameOps_eq hpre hclip
    rw [hops] at hframeOps
    dsimp only at hrest
    rw [hroot] at hrest
    change (s.compositor.frameOps s.heap root bufferAge).bind _ = some s' at hrest
    rw [hframeOps] at hrest
    exact .inr ⟨hneeds, h'', ops, _, hops, rfl, (Option.some.inj hrest).symm⟩
  · rw [if_neg hneeds] at hrender
    obtain ⟨rfl, rfl, rfl⟩ := Prod.mk.inj (Option.some.inj hrender) |>.imp_right Prod.mk.inj
    exact .inl ⟨Bool.eq_false_of_not_eq_true hneeds, (Option.some.inj hrest).symm⟩

/-- For the compositor it is a frame like any other. -/
theorem renderLayerTree_frame {bufferAge : Int32} {unswapped : Pixel → Colour}
    (hr : s.renderLayerTree bufferAge unswapped = some s') :
    FrameOp.exec ⟨s.compositor, s.frames⟩ (.renderLayerTree s.heap bufferAge) =
      some ⟨s'.compositor, s'.frames⟩ := by
  unfold renderLayerTree at hr
  split at hr
  · cases hr
  obtain ⟨⟨compositor, heap, frame⟩, hrender, hrest⟩ := Option.bind_eq_some_iff.mp hr
  rw [FrameOp.exec, hrender]
  cases frame with
  | none =>
    cases hrest
    rfl
  | some frame =>
    obtain ⟨root, -, hrest⟩ := Option.bind_eq_some_iff.mp hrest
    obtain ⟨⟨clipPath, ops⟩, -, hend⟩ := Option.bind_eq_some_iff.mp hrest
    cases hend
    rfl

section
variable {h' : Heap} {context' : PaintContext} {bufferAge : Int32} {unswapped : Pixel → Colour}

theorem Shows.frame_fits (hs : s.Shows root)
    (hpre : s.heap.prePaint root s.compositor.paintContext false = some (h', context'))
    (hok : s.PaintsWhole root bufferAge h' context'.damageRect)
    (hr : s.renderLayerTree bufferAge unswapped = some s') :
    FrameLog.Fits ⟨s'.compositor, s'.frames⟩ := by
  apply hs.fits.render _ (renderLayerTree_frame hr)
  intro own hown
  have hdamage : s.compositor.ownDamage s.heap = some context'.damageRect := by
    rw [Compositor.ownDamage, hs.rootLayer]
    dsimp only
    rw [if_pos hs.ready, hpre]
    rfl
  rw [hdamage] at hown
  cases hown
  exact hok.age

/-- A pre-paint finds what it is specified to do. -/
theorem Shows.prePainted (hs : s.Shows root)
    (hpre : s.heap.prePaint root s.compositor.paintContext false = some (h', context')) :
    Heap.PrePainted s.heap root s.compositor.paintContext false h' context' := by
  obtain ⟨h₁, context₁, hrun, hp⟩ :=
    Heap.prePaint_spec hs.forest root s.compositor.paintContext false
  rw [hpre] at hrun
  cases hrun
  exact hp

variable [LawfulCanvas]

/-- A pixel that the frame does not damage is on the screen already. -/
theorem Shows.kept (hs : s.Shows root)
    (hpre : s.heap.prePaint root s.compositor.paintContext false = some (h', context'))
    (hok : s.PaintsWhole root bufferAge h' context'.damageRect) {i : Pixel → Colour}
    (hi : i ∈ s.images.head?) (hp : p ∈ s.compositor.viewportRect)
    (hout : ¬ Covered context'.damageRect p) (c : Colour) :
    h'.pixelTree s.pictures root p c = i p := by
  have hpainted := hs.prePainted hpre
  rw [hpainted.pixelTree_eq hs.forest hok.plain hs.supports hok.moves hout]
  apply hs.shown i hi p hp
  intro hpending
  exact hout (hpainted.covered_of_pending hs.forest hok.plain hs.supports hok.moves hpending)

variable {c : Compositor} {clipPath : Option (List SkIRect)}

omit [LawfulCanvas] in
/-- A pixel of the viewport that the clip leaves out has no damage, and the buffer, which has an
age, holds there what the newest frame shows. -/
theorem Shows.of_not_covered (hs : s.Shows root) {own : FrameDamages}
    (hclip : (s.compositor.atClip own).beginClip bufferAge = (c, clipPath))
    (hne : own ≠ []) (hage : bufferAge.toInt ≤ s.images.length)
    (hp : p ∈ s.compositor.viewportRect) (hout : ¬ Covered c.surfaceDamage_ p) :
    ¬ Covered own p ∧ ∃ i ∈ s.images.head?, s.backBuffer bufferAge unswapped p = i p := by
  have hclip' : c = ((s.compositor.atClip own).beginClip bufferAge).1 := by rw [hclip]
  rw [hclip'] at hout
  obtain ⟨hpos, hown, hframes⟩ := hs.fits.not_covered hne hp hout
  refine ⟨hown, ?_⟩
  have hindex : bufferAge.toInt.toNat - 1 < s.images.length := by omega
  obtain ⟨i, hi⟩ : ∃ i, i ∈ s.images.head? := by
    cases himages : s.images with
    | nil => simp [himages] at hindex
    | cons i images => exact ⟨i, rfl⟩
  refine ⟨i, hi, ?_⟩
  have hback : s.backBuffer bufferAge unswapped = s.images[bufferAge.toInt.toNat - 1] := by
    rw [backBuffer, if_neg (not_le.mpr hpos), List.getD_eq_getElem?_getD,
      List.getElem?_eq_getElem hindex]
    rfl
  have htoNat : (bufferAge.toInt - 1).toNat = bufferAge.toInt.toNat - 1 := by omega
  rw [htoNat] at hframes
  rw [hback]
  exact (hs.handed.eq hp hframes hi (List.getElem?_eq_getElem hindex)).symm

/-- A frame whose clip misses the root damages nothing of the viewport. -/
theorem Shows.skipped (hs : s.Shows root)
    (hpre : s.heap.prePaint root s.compositor.paintContext false = some (h', context'))
    (hclip : (s.compositor.atClip context'.damageRect).beginClip bufferAge = (c, clipPath))
    (hok : s.PaintsWhole root bufferAge h' context'.damageRect)
    (hskip : (h'.layer root).needsPainting c.paintContext = false) {i : Pixel → Colour}
    (hi : i ∈ s.images.head?) (hp : p ∈ s.compositor.viewportRect) (colour : Colour) :
    h'.pixelTree s.pictures root p colour = i p := by
  apply hs.kept hpre hok hi hp
  intro hown
  have hcovered : Covered c.surfaceDamage_ p := by
    by_contra hout
    have hne : context'.damageRect ≠ [] := by
      intro hnil
      rw [hnil, covered_nil] at hown
      exact hown
    have hclip' : c = ((s.compositor.atClip context'.damageRect).beginClip bufferAge).1 := by
      rw [hclip]
    rw [hclip'] at hout
    exact (hs.fits.not_covered hne hp hout).2.1 hown
  have hsupports : c.paintContext.supportPartialUpdate = true := by
    have hframe := (s.compositor.atClip context'.damageRect).beginClip_frame bufferAge
    rw [hclip] at hframe
    exact hframe.1.trans hs.supports
  rw [Layer.needsPainting_eq, hok.fills.shown, hsupports] at hskip
  have hmiss : (h'.layer root).hits c.paintContext = false := by simpa using hskip
  exact Layer.not_mem_of_not_hits rfl hcovered hmiss (hok.fills.covers p hp)

/-- A frame that is painted makes of every pixel of the viewport what the layers make of it. -/
theorem Shows.painted (hs : s.Shows root)
    (hpre : s.heap.prePaint root s.compositor.paintContext false = some (h', context'))
    (hclip : (s.compositor.atClip context'.damageRect).beginClip bufferAge = (c, clipPath))
    (hok : s.PaintsWhole root bufferAge h' context'.damageRect)
    (hage : bufferAge.toInt ≤ s.images.length)
    (hpaint : (h'.layer root).needsPainting c.paintContext = true) {h'' : Heap}
    {ops : List CanvasOp} (hops : h'.paint root c.paintContext = some (h'', ops)) :
    h'' = h' ∧ ∀ p ∈ s.compositor.viewportRect, ∀ colour,
      h'.pixelTree s.pictures root p colour =
        paintPixel s.pictures clipPath ops p (s.backBuffer bufferAge unswapped p) := by
  have hclip' : c = ((s.compositor.atClip context'.damageRect).beginClip bufferAge).1 := by
    rw [hclip]
  have hframe := (s.compositor.atClip context'.damageRect).beginClip_frame bufferAge
  rw [← hclip'] at hframe
  have hsupports : c.paintContext.supportPartialUpdate = true := hframe.1.trans hs.supports
  have hne : context'.damageRect ≠ [] := by
    intro hnil
    rw [Compositor.beginClip_of_nil (by rw [Compositor.atClip, hnil])] at hclip'
    have hcontext : c.paintContext = ⟨[], true, (0, 0)⟩ := by
      rw [Compositor.paintContext, hclip', Compositor.atClip, hnil]
      exact congrArg (PaintContext.mk [] · (0, 0)) hs.supports
    rw [hcontext, Compositor.needsPainting_nil] at hpaint
    cases hpaint
  obtain ⟨path, hpath, hcovers⟩ :=
    (s.compositor.atClip context'.damageRect).beginClip_path bufferAge hne
  rw [hclip] at hpath hcovers
  dsimp only at hpath hcovers
  have hpainted := hs.prePainted hpre
  have hreach := hok.reach
  rw [← hclip'] at hreach
  obtain ⟨ops', hops', hpixel⟩ := Heap.paintPixel_eq s.pictures (hpainted.forest hs.forest)
    (hpainted.plainBelow hs.forest hok.plain) rfl hsupports hreach hpaint hcovers
  rw [hops] at hops'
  obtain ⟨rfl, rfl⟩ := Prod.mk.inj (Option.some.inj hops')
  refine ⟨rfl, ?_⟩
  intro p hp colour
  rw [hpath, hpixel p (hok.within p hp)]
  by_cases hin : Covered c.paintContext.damageRect p
  · rw [if_pos hin]
    exact hok.fills.pixelTree_eq hp _ _
  · rw [if_neg hin]
    obtain ⟨hown, i, hi, hback⟩ := hs.of_not_covered hclip hne hage hp hin
    rw [hback]
    exact hs.kept hpre hok hi hp hown colour

/-- A frame leaves the screen right, and all of it. -/
theorem Shows.render (hs : s.Shows root)
    (hok : ScreenOp.KeepsScreen root s (.renderLayerTree bufferAge unswapped))
    (hr : s.renderLayerTree bufferAge unswapped = some s') :
    s'.Shows root ∧ ∀ i ∈ s'.images.head?, ∀ p ∈ s'.compositor.viewportRect, ∀ colour,
      s'.heap.repaint s'.pictures root p colour = some (i p) := by
  obtain ⟨hage, h', context', c, clipPath, hpre, hclip, hcase⟩ :=
    renderLayerTree_cases hs.ready hs.rootLayer hr
  have hwhole := hok h' context' hpre
  have hfits := hs.frame_fits hpre hwhole hr
  have hpainted := hs.prePainted hpre
  have hforest := hpainted.forest hs.forest
  have hlt : root < h'.nextId := by
    rw [hpainted.nextId]
    exact hs.root_lt
  have hplain := hpainted.plainBelow hs.forest hwhole.plain
  have hsetup := (s.compositor.atClip context'.damageRect).beginClip_sameSetup bufferAge
  rw [hclip] at hsetup
  have hsame : s.compositor.SameSetup c := ⟨hsetup.1, hsetup.2, hsetup.3, hsetup.4, hsetup.5⟩
  -- it is enough that the newest frame shows what the layers make of each pixel
  suffices hnew : s'.compositor.viewportRect = s.compositor.viewportRect ∧ s'.heap = h' ∧
      s'.pictures = s.pictures ∧ s.compositor.SameSetup s'.compositor ∧
      Handed s.compositor.viewportRect s'.frames s'.images ∧
      ∀ i ∈ s'.images.head?, ∀ p ∈ s.compositor.viewportRect, ∀ colour,
        h'.pixelTree s.pictures root p colour = i p by
    obtain ⟨hview, hheap, hpictures, hsame', hhanded, hshown⟩ := hnew
    constructor
    · constructor
      · exact hfits
      · rw [hsame'.windowContext_, hsame'.backBuffer_]
        exact hs.ready
      · exact hsame'.rootLayer_.trans hs.rootLayer
      · exact hsame'.supportPartialUpdate_.trans hs.supports
      · rw [hheap]
        exact hforest
      · rw [hheap]
        exact hlt
      · rw [hview]
        exact hhanded
      · intro i hi p hp _ colour
        rw [hview] at hp
        rw [hheap, hpictures]
        exact hshown i hi p hp colour
    · intro i hi p hp colour
      rw [hview] at hp
      rw [hheap, hpictures, Heap.repaint_eq hforest hplain (hwhole.within p hp)
        hwhole.fills.shown]
      exact congrArg some (hshown i hi p hp colour)
  rcases hcase with ⟨hskip, rfl⟩ | ⟨hpaint, h'', ops, frame, hops, hown, rfl⟩
  · refine ⟨hsame.viewportRect, rfl, rfl, hsame, hs.handed, ?_⟩
    intro i hi p hp
    exact hs.skipped hpre hclip hwhole hskip hi hp
  · obtain ⟨rfl, hpixels⟩ := hs.painted hpre hclip hwhole hage hpaint hops
    refine ⟨hsame.viewportRect, rfl, rfl, ⟨hsame.1, hsame.2, hsame.3, hsame.4, hsame.5⟩,
      ⟨?_, hs.handed⟩, ?_⟩
    · -- outside the damage the frame is as the one before
      intro j hj p hp hout
      rw [hown] at hout
      exact (hpixels p hp (j p)).symm.trans (hs.kept hpre hwhole hj hp hout (j p))
    · intro i hi p hp colour
      cases hi
      exact hpixels p hp colour

/-! ## Runs -/

omit [LawfulCanvas] in
/-- A screen with other layers and another compositor, on which the pixels that are not pending
are the same. -/
theorem Shows.congr (hs : s.Shows root) {compositor : Compositor} {heap : Heap}
    {pictures : LayerId → LayerPictures} (hsetup : s.compositor.SameSetup compositor)
    (hfits : FrameLog.Fits ⟨compositor, s.frames⟩) (hforest : heap.Forest)
    (hlt : s.heap.nextId ≤ heap.nextId)
    (hkeeps : s.heap.KeepsPixels s.pictures heap pictures root) :
    Shows { s with compositor := compositor, heap := heap, pictures := pictures } root := by
  constructor
  · exact hfits
  · change (compositor.windowContext_ && compositor.backBuffer_) = true
    rw [hsetup.windowContext_, hsetup.backBuffer_]
    exact hs.ready
  · exact hsetup.rootLayer_.trans hs.rootLayer
  · exact hsetup.supportPartialUpdate_.trans hs.supports
  · exact hforest
  · exact hs.root_lt.trans_le hlt
  · change Handed compositor.viewportRect s.frames s.images
    rw [hsetup.viewportRect]
    exact hs.handed
  · intro i hi p hp hpending colour
    obtain ⟨hbefore, htree⟩ := hkeeps p hpending
    change p ∈ compositor.viewportRect at hp
    rw [hsetup.viewportRect] at hp
    change heap.pixelTree pictures root p colour = i p
    rw [htree]
    exact hs.shown i hi p hp hbefore colour

omit [LawfulCanvas] in
/-- For the compositor alone. -/
theorem Shows.frameOp_fits (hs : s.Shows root) (op : FrameOp) {t : FrameLog}
    (hok : op.KeepsHistory ⟨s.compositor, s.frames⟩)
    (hexec : op.exec ⟨s.compositor, s.frames⟩ = some t) : t.Fits :=
  hs.fits.step hok hexec

/-- The step lemma. -/
theorem Shows.step (hs : s.Shows root) {op : ScreenOp} (hok : op.KeepsScreen root s)
    (hstep : screenStep s op s') : s'.Shows root := by
  have hsetup : s.compositor.SameSetup s.compositor := ⟨rfl, rfl, rfl, rfl, rfl⟩
  cases op with
  | begin =>
    cases hstep
    have hfits := hs.frameOp_fits .begin trivial rfl
    exact hs.congr ⟨rfl, rfl, rfl, rfl, rfl⟩ hfits hs.forest le_rfl fun q hq => ⟨hq, rfl⟩
  | addDamageRect damage =>
    cases hstep
    have hfits := hs.frameOp_fits (.addDamageRect damage) trivial rfl
    exact hs.congr (s.compositor.addDamage_sameSetup damage) hfits hs.forest le_rfl
      fun q hq => ⟨hq, rfl⟩
  | create type =>
    cases hstep
    apply hs.congr hsetup hs.fits (hs.forest.create type) (Nat.le_succ _)
    exact Heap.create_keepsPixels hs.forest hs.root_lt type
  | update layer props drawn mask =>
    cases hstep
    apply hs.congr hsetup hs.fits
    · exact (s.heap.updateLayer_sameLinks layer props mask).forest hs.forest
    · exact le_rfl
    · exact Heap.updateLayer_keepsPixels hok
  | insertChild p child index =>
    obtain ⟨⟨hp, hchild⟩, hnot, hannounced⟩ := hok
    obtain ⟨heap, hins, rfl⟩ := Option.map_eq_some_iff.mp hstep
    obtain ⟨l, hl⟩ := hs.forest.linked.ends p
    have hmem : child ∉ p :: l := fun hmem => hnot ((hs.forest.linked.below_iff hl).mpr hmem)
    apply hs.congr hsetup hs.fits
    · exact hs.forest.insertChild hl hmem hp hchild hins
    · exact (hs.forest.insertChild_children hnot hins).1.ge
    · exact Heap.insertChild_keepsPixels hs.forest hnot hins hannounced
  | renderLayerTree bufferAge unswapped => exact (hs.render hok hstep).1

omit [LawfulCanvas] in
theorem Opened.shows (hs : s.Opened root) : s.Shows root where
  fits := hs.constructed.fits
  ready := hs.ready
  rootLayer := hs.rootLayer
  supports := hs.supports
  forest := hs.forest
  root_lt := hs.root_lt
  handed := by
    have hframes : s.frames = [] := hs.constructed.frames
    rw [hs.images, hframes]
    trivial
  shown i hi := by
    rw [hs.images] at hi
    cases hi

/-- In every run of components that announce what they change and of frames that repaint what moves,
the next such frame, whatever the age of its buffer and however little of it is repainted, leaves
the whole viewport as a repaint of all layers would. -/
theorem screenRun_repainted {s₀ : Screen} (hs₀ : s₀.Opened root)
    (hrun : Run screenStep (fun s op => op.KeepsScreen root s) s₀ s)
    (hok : ScreenOp.KeepsScreen root s (.renderLayerTree bufferAge unswapped))
    (hstep : screenStep s (.renderLayerTree bufferAge unswapped) s') :
    ∀ i ∈ s'.images.head?, ∀ p ∈ s'.compositor.viewportRect, ∀ colour,
      s'.heap.repaint s'.pictures root p colour = some (i p) := by
  have hshows := hrun.invariant (P := fun t => t.Shows root)
    (fun _ _ _ hs hok hstep => hs.step hok hstep) hs₀.shows
  exact (hshows.render hok hstep).2

end

end Screen

end

namespace Screen

open TranslationSkia

/-! ## Two frames of a window -/

/-- Pictures that fill a rectangle with a colour; colour 0 is transparent. -/
@[reducible] def rectCanvas : SkiaCanvas where
  Picture := SkIRect × Nat
  Colour := Nat
  transparent := 0
  playback picture m p colour := if p ∈ Skia.mapRect m picture.1 then picture.2 else colour
  inside m r p := decide (p ∈ Skia.mapRect m r)
  blend _ backdrop colour := if colour = 0 then backdrop else colour

local instance canvas : SkiaCanvas := rectCanvas

local instance rectCanvas_lawful : LawfulCanvas where
  blend_transparent _ _ := if_pos rfl
  preConcat_identity m := Prod.ext (zero_add m.1) (zero_add m.2)

def filled (frame : SkIRect) (colour : Nat) : LayerPictures :=
  ⟨(frame, colour), (frame, colour), (frame, colour)⟩

def windowFrame : SkIRect := .MakeXYWH 0 0 100 100

def buttonFrame : SkIRect := .MakeXYWH 10 10 20 20

/-- A window with a button. -/
def window : Screen where
  compositor := FrameLog.start.compositor
  heap := Heap.ofLayers
    [{ children_ := [1], frame_ := windowFrame }, { parent_ := some 0, frame_ := buttonFrame }]
  pictures x := if x = 0 then filled windowFrame 1 else filled buttonFrame 2

/-- The first frame, another colour for the button, and a frame in the same buffer. -/
def firstFrame : ScreenOp := .renderLayerTree 0 fun _ => (0 : Nat)

def recolourButton : ScreenOp :=
  .update 1 { frame_ := buttonFrame } (filled buttonFrame 3) LayerPaintInvalidate

def nextFrame : ScreenOp := .renderLayerTree 1 fun _ => (0 : Nat)

/-- What the conditions on a frame look at in a layer. -/
structure LayerFacts where
  frame_ : SkIRect
  bounds_ : SkIRect
  matrix : ℚ × ℚ
  opacity : ℚ
  isHidden_ : Bool
  masksToBounds_ : Bool
  children_ : List LayerId
  type_ : LayerType
  invalidateMask_ : LayerInvalidateMask
  deriving DecidableEq

def layerFacts (l : Layer) : LayerFacts :=
  ⟨l.frame_, l.bounds_, l.absoluteTransformMatrix_, l.opacity, l.isHidden_, l.masksToBounds_,
    l.children_, l.type_, l.invalidateMask_⟩

def windowFacts (h : Heap) : LayerFacts × LayerFacts :=
  (layerFacts (h.layer 0), layerFacts (h.layer 1))

/-- The window after a frame, but for the mask of the button. -/
def painted (mask : LayerInvalidateMask) : LayerFacts × LayerFacts :=
  (layerFacts
      { children_ := [1]
        frame_ := windowFrame
        bounds_ := windowFrame
        invalidateMask_ := LayerInvalidateNone },
    layerFacts { frame_ := buttonFrame, bounds_ := buttonFrame, invalidateMask_ := mask })

def screenFacts (s : Screen) :
    (LayerFacts × LayerFacts) × SkIRect × (SkIRect × Nat) × (SkIRect × Nat) :=
  (windowFacts s.heap, s.compositor.viewportRect, (s.pictures 0).picture, (s.pictures 1).picture)

/-- The layers behind the pre-paint of a frame, and whether the clip hits the root. -/
def frameFacts (s : Screen) (bufferAge : Int32) : Option ((LayerFacts × LayerFacts) × Bool) :=
  (s.heap.prePaint 0 s.compositor.paintContext false).map fun r =>
    (windowFacts r.1, (r.1.layer 0).hits
      ((s.compositor.atClip r.2.damageRect).beginClip bufferAge).1.paintContext)

theorem window_opened : window.Opened 0 where
  constructed := ⟨rfl, rfl, rfl⟩
  images := rfl
  ready := rfl
  rootLayer := rfl
  supports := rfl
  forest := Heap.ofLayers_forest (by decide) (by decide) (by decide) (by decide)
  root_lt := by decide

/-- Layers 0 and 1, one below the other. -/
theorem below_of_children {h : Heap} (h0 : h.children 0 = [1]) (h1 : h.children 1 = [])
    {x : LayerId} (hx : Below h.children 0 x) : x = 0 ∨ x = 1 := by
  induction hx with
  | refl => exact .inl rfl
  | tail _ hc ih =>
    rcases ih with rfl | rfl
    · rw [h0, List.mem_singleton] at hc
      exact .inr hc
    · rw [h1] at hc
      cases hc



theorem mapRect_origin (r : SkIRect) : Skia.mapRect ((0, 0) : ℚ × ℚ) r = r := by
  simp [Skia.mapRect]

theorem filled_staysWithin {l : Layer} {frame : SkIRect} {picture : SkIRect × Nat} (p : Pixel)
    (hpicture : picture.1 = frame) (hbounds : l.bounds_ = frame)
    (hmatrix : l.absoluteTransformMatrix_ = ((0, 0) : ℚ × ℚ)) (hmasks : l.masksToBounds_ = false) :
    l.StaysWithin picture p := by
  intro hp
  rw [hbounds, ← hpicture] at hp
  rw [hmatrix, hmasks]
  constructor
  · intro c
    change (if p ∈ Skia.mapRect ((0, 0) : ℚ × ℚ) picture.1 then picture.2 else c) = c
    rw [mapRect_origin, if_neg hp]
  · intro hmask
    cases hmask

/-- The pre-paint lays the layer out, or leaves it where it is. -/
def LayerFacts.InPlace (old new : LayerFacts) : Prop :=
  (old.invalidateMask_.layout = true ∨ old.bounds_ = new.bounds_ ∧ old.matrix = new.matrix) ∧
    old.invalidateMask_.remove = false ∧ old.type_ = .default

theorem window_inPlace {s : Screen} {h' : Heap} {damage : FrameDamages}
    (h0 : s.heap.children 0 = [1]) (h1 : s.heap.children 1 = [])
    (hin0 : (layerFacts (s.heap.layer 0)).InPlace (layerFacts (h'.layer 0)))
    (hin1 : (layerFacts (s.heap.layer 1)).InPlace (layerFacts (h'.layer 1))) :
    s.heap.PlainBelow 0 ∧ s.heap.MovesCovered 0 h' damage := by
  have hin : ∀ x, Below s.heap.children 0 x →
      (layerFacts (s.heap.layer x)).InPlace (layerFacts (h'.layer x)) := by
    intro x hx
    rcases below_of_children h0 h1 hx with rfl | rfl
    · exact hin0
    · exact hin1
  constructor
  · intro x hx
    have htype : (s.heap.layer x).type_ = .default := (hin x hx).2.2
    rw [Layer.isScroll, htype]
    rfl
  · intro x hx hlayout hmoves
    exfalso
    rcases hmoves with hmoves | ⟨⟨y, ⟨hy, -, hremove⟩, -⟩, -⟩
    · rcases (hin x hx).1 with hlaid | ⟨hbounds, hmatrix⟩
      · exact Bool.false_ne_true (hlayout.symm.trans hlaid)
      · rcases hmoves with hne | hne
        · exact hne hbounds.symm
        · exact hne hmatrix.symm
    · exact Bool.false_ne_true ((hin y hy).2.1.symm.trans hremove)

/-- A frame of the window in which layers are laid out or stay where they are. -/
theorem paintsWhole_of_facts {s : Screen} {bufferAge : Int32} {colour : Nat}
    {old : LayerFacts × LayerFacts}
    (hscreen : screenFacts s = (old, windowFrame, (windowFrame, 1), (buttonFrame, colour)))
    (hchildren : old.1.children_ = [1] ∧ old.2.children_ = [])
    (hin : old.1.InPlace (painted LayerInvalidateNone).1 ∧
      old.2.InPlace (painted LayerInvalidateNone).2)
    (hframe : frameFacts s bufferAge = some (painted LayerInvalidateNone, true))
    (hage : bufferAge.toInt ≤ 2) {h' : Heap} {context' : PaintContext}
    (hpre : s.heap.prePaint 0 s.compositor.paintContext false = some (h', context')) :
    s.PaintsWhole 0 bufferAge h' context'.damageRect := by
  rw [frameFacts, hpre] at hframe
  obtain ⟨hnew, hhits⟩ := Prod.mk.inj (Option.some.inj hframe)
  obtain ⟨hnew0, hnew1⟩ := Prod.mk.inj hnew
  simp only [screenFacts, Prod.mk.injEq] at hscreen
  obtain ⟨rfl, hviewport, hroot, hbutton⟩ := hscreen
  rw [← hnew] at hin
  obtain ⟨hplain, hmoves⟩ : s.heap.PlainBelow 0 ∧
      s.heap.MovesCovered 0 h' context'.damageRect :=
    window_inPlace hchildren.1 hchildren.2 hin.1 hin.2
  have hlinks : h'.children 0 = [1] ∧ h'.children 1 = [] :=
    ⟨congrArg LayerFacts.children_ hnew0, congrArg LayerFacts.children_ hnew1⟩
  have hbelow' : ∀ x, Below h'.children 0 x → x = 0 ∨ x = 1 :=
    fun _ => below_of_children hlinks.1 hlinks.2
  have hstays : ∀ x, Below h'.children 0 x → ∀ p,
      (h'.layer x).StaysWithin (s.pictures x).picture p := by
    intro x hx p
    rcases hbelow' x hx with rfl | rfl
    · exact filled_staysWithin p (congrArg Prod.fst hroot) (congrArg LayerFacts.bounds_ hnew0)
        (congrArg LayerFacts.matrix hnew0) (congrArg LayerFacts.masksToBounds_ hnew0)
    · exact filled_staysWithin p (congrArg Prod.fst hbutton) (congrArg LayerFacts.bounds_ hnew1)
        (congrArg LayerFacts.matrix hnew1) (congrArg LayerFacts.masksToBounds_ hnew1)
  refine ⟨hplain, hmoves, fun _ => .inl hage, ?_, fun p _ x hx => hstays x hx p, ?_⟩
  · -- the clip hits the root, and the button has no children
    intro x hx hmiss _ c hc
    rcases hbelow' x hx with rfl | rfl
    · rw [hhits] at hmiss
      cases hmiss
    · rw [hlinks.2] at hc
      cases hc
  · have hbounds : (h'.layer 0).bounds_ = windowFrame := congrArg LayerFacts.bounds_ hnew0
    have hframe : (h'.layer 0).frame_ = windowFrame := congrArg LayerFacts.frame_ hnew0
    have hhidden : (h'.layer 0).isHidden_ = false := congrArg LayerFacts.isHidden_ hnew0
    have hopacity : (h'.layer 0).opacity = 2559999 / 10000 := congrArg LayerFacts.opacity hnew0
    have hmatrix : (h'.layer 0).absoluteTransformMatrix_ = ((0, 0) : ℚ × ℚ) :=
      congrArg LayerFacts.matrix hnew0
    rw [hviewport]
    constructor
    · intro p hp
      rw [hbounds]
      exact hp
    · rw [Layer.isShown, hframe, hhidden]
      decide
    · rw [hopacity]
      norm_num
    · intro p hp c c'
      rw [hmatrix, hroot]
      change (if p ∈ Skia.mapRect ((0, 0) : ℚ × ℚ) windowFrame then (1 : Nat) else c) =
        if p ∈ Skia.mapRect ((0, 0) : ℚ × ℚ) windowFrame then (1 : Nat) else c'
      rw [mapRect_origin, if_pos hp, if_pos hp]

theorem screenRun_repainted_recoloured : ∃ s,
    [firstFrame, recolourButton, nextFrame].foldlM ScreenOp.exec window = some s ∧
      ∀ i ∈ s.images.head?, ∀ p ∈ s.compositor.viewportRect, ∀ colour,
        s.heap.repaint s.pictures 0 p colour = some (i p) := by
  -- the screen after the first frame, and after the update
  have hone : (firstFrame.exec window).map screenFacts =
      some (painted LayerInvalidateNone, windowFrame, (windowFrame, 1), (buttonFrame, 2)) := by
    decide +kernel
  obtain ⟨s₁, hs₁, hone⟩ := Option.map_eq_some_iff.mp hone
  have htwo : ((firstFrame.exec window).bind recolourButton.exec).map screenFacts =
      some (painted LayerPaintInvalidate, windowFrame, (windowFrame, 1), (buttonFrame, 3)) := by
    decide +kernel
  have hframe : ((firstFrame.exec window).bind recolourButton.exec).bind (frameFacts · 1) =
      some (painted LayerInvalidateNone, true) := by
    decide +kernel
  have hthree : (((firstFrame.exec window).bind recolourButton.exec).bind nextFrame.exec).isSome =
      true := by
    decide +kernel
  rw [hs₁, Option.bind_some] at htwo hframe hthree
  obtain ⟨s₂, hs₂, htwo⟩ := Option.map_eq_some_iff.mp htwo
  rw [hs₂, Option.bind_some] at hframe hthree
  obtain ⟨s₃, hs₃⟩ := Option.isSome_iff_exists.mp hthree
  refine ⟨s₃, ?_, ?_⟩
  · change (firstFrame.exec window).bind (fun s => (recolourButton.exec s).bind fun s =>
      (nextFrame.exec s).bind some) = some s₃
    rw [hs₁, Option.bind_some, hs₂, Option.bind_some, hs₃]
    rfl
  · have hfirst : firstFrame.KeepsScreen 0 window := by
      intro h' context' hpre
      have hwindow : screenFacts window =
        (windowFacts window.heap, windowFrame, (windowFrame, 1), (buttonFrame, 2)) := rfl
      exact paintsWhole_of_facts hwindow ⟨rfl, rfl⟩ ⟨⟨.inl rfl, rfl, rfl⟩, ⟨.inl rfl, rfl, rfl⟩⟩
        (by decide +kernel) (by decide) hpre
    have hsecond : recolourButton.KeepsScreen 0 s₁ := by
      simp only [screenFacts, Prod.mk.injEq] at hone
      obtain ⟨-, h1⟩ := Prod.mk.inj hone.1
      have hmask : (s₁.heap.layer 1).invalidateMask_ = LayerInvalidateNone :=
        congrArg LayerFacts.invalidateMask_ h1
      have hchildren : s₁.heap.children 1 = [] := congrArg LayerFacts.children_ h1
      constructor
      · intro hnone
        rw [hmask] at hnone
        cases hnone
      · intro _ y hy q hq
        rcases Below.cases_head_iff.mp hy with rfl | ⟨z, hz, -⟩
        · exact hq
        · rw [hchildren] at hz
          cases hz
    have hthird : nextFrame.KeepsScreen 0 s₂ := by
      intro h' context' hpre
      exact paintsWhole_of_facts htwo ⟨rfl, rfl⟩
        ⟨⟨.inr ⟨rfl, rfl⟩, rfl, rfl⟩, ⟨.inr ⟨rfl, rfl⟩, rfl, rfl⟩⟩ hframe (by decide) hpre
    exact screenRun_repainted window_opened ((Run.single hfirst hs₁).tail hsecond hs₂) hthird hs₃

end Screen
end ReactNativeSkia
