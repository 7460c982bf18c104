import ReactNativeSkia.Compositor.Screen
import ReactNativeSkia.Compositor.Layers.Proofs.DamageSound
import ReactNativeSkia.Compositor.Layers.Proofs.PaintOrder
import ReactNativeSkia.Misc.TreeFold

/-!
# What a paint makes of a pixel

The calls of a paint, carried out on one pixel, are a walk down the layers. As long as no layer
draws outside its bounds, what counts at a pixel are the layers whose bounds hold it, and a partial
paint of damage that holds it does what a full one does.
-/

namespace ReactNativeSkia

open Rect SkiaCanvas

variable [Skia] [SkiaCanvas]

/-! ## Layers at a pixel -/

/-- Drawing with an opacity. -/
def withAlpha (alpha : ℚ) (draw : Colour → Colour) (backdrop : Colour) : Colour :=
  if alpha < 255 then blend alpha backdrop (draw transparent) else draw backdrop

namespace Layer

/-- What `paint` makes of a pixel, from what the children that it enters do. -/
def paintNode (l : Layer) (picture : Picture) (p : Pixel) (children : Colour → Colour)
    (backdrop : Colour) : Colour :=
  if l.opacity ≤ 0 then backdrop
  else
    withAlpha l.opacity (fun c =>
      let c := playback picture l.absoluteTransformMatrix_ p c
      if l.masksToBounds_ && !inside l.absoluteTransformMatrix_ l.frame_ p then c
      else children c) backdrop

/-- Whether a paint may enter the layer. -/
def isShown (l : Layer) : Bool := !l.frame_.isEmpty && !l.isHidden_

/-- What the layer lets through of what is drawn below it outside its bounds: nothing, or all of it
with an opacity. -/
def reach (l : Layer) : Option ℚ :=
  if l.isShown = false ∨ l.opacity ≤ 0 ∨ l.masksToBounds_ = true then none
  else some (min l.opacity 255)

def letThrough (reach : Option ℚ) (children : Colour → Colour) : Colour → Colour :=
  match reach with
  | none => id
  | some alpha => withAlpha alpha children

/-- What the layer makes of a pixel if it draws inside its bounds only. -/
def pixelNode (l : Layer) (picture : Picture) (p : Pixel) (children : Colour → Colour) :
    Colour → Colour :=
  if p ∈ l.bounds_ then if l.isShown then l.paintNode picture p children else id
  else letThrough l.reach children

/-- Neither the picture nor the clip of the layer gets to the pixel from outside the bounds. -/
def StaysWithin (l : Layer) (picture : Picture) (p : Pixel) : Prop :=
  p ∉ l.bounds_ → (∀ c, playback picture l.absoluteTransformMatrix_ p c = c) ∧
    (l.masksToBounds_ = true → inside l.absoluteTransformMatrix_ l.frame_ p = false)

variable {l l' : Layer} {picture : Picture} {p : Pixel} {children : Colour → Colour}

theorem pixelNode_of_not_mem (h : p ∉ l.bounds_) :
    l.pixelNode picture p children = letThrough l.reach children := if_neg h

theorem pixelNode_of_hidden (h : l.isShown = false) : l.pixelNode picture p children = id := by
  unfold pixelNode
  split
  · rw [h]
    rfl
  · rw [reach, if_pos (Or.inl h)]
    rfl

omit [SkiaCanvas] in
theorem reach_congr (hframe : l'.frame_ = l.frame_) (hhidden : l'.isHidden_ = l.isHidden_)
    (hopacity : l'.opacity = l.opacity) (hmasks : l'.masksToBounds_ = l.masksToBounds_) :
    l'.reach = l.reach := by
  unfold reach isShown
  rw [hframe, hhidden, hopacity, hmasks]

/-- Only these fields count. -/
theorem pixelNode_congr (hframe : l'.frame_ = l.frame_) (hhidden : l'.isHidden_ = l.isHidden_)
    (hopacity : l'.opacity = l.opacity) (hmasks : l'.masksToBounds_ = l.masksToBounds_)
    (hbounds : l'.bounds_ = l.bounds_)
    (hmatrix : l'.absoluteTransformMatrix_ = l.absoluteTransformMatrix_) :
    l'.pixelNode picture p = l.pixelNode picture p := by
  have hpaint : l'.paintNode picture p = l.paintNode picture p := by
    funext children backdrop
    unfold paintNode
    rw [hframe, hopacity, hmasks, hmatrix]
  funext children
  unfold pixelNode
  rw [reach_congr hframe hhidden hopacity hmasks, hpaint, hbounds]
  unfold isShown
  rw [hframe, hhidden]

variable [LawfulCanvas]

theorem withAlpha_id (alpha : ℚ) : withAlpha alpha id = id := by
  funext backdrop
  unfold withAlpha
  split
  · exact LawfulCanvas.blend_transparent alpha backdrop
  · rfl

theorem letThrough_id (reach : Option ℚ) : letThrough reach id = id := by
  cases reach with
  | none => rfl
  | some alpha => exact withAlpha_id alpha

/-- A layer that stays within its bounds does just that. -/
theorem paintNode_eq_pixelNode (hshown : l.isShown = true) (hwithin : l.StaysWithin picture p) :
    l.paintNode picture p = l.pixelNode picture p := by
  funext children
  by_cases hp : p ∈ l.bounds_
  · rw [pixelNode, if_pos hp, if_pos hshown]
  · rw [pixelNode_of_not_mem hp]
    obtain ⟨hpicture, hclip⟩ := hwithin hp
    funext backdrop
    unfold paintNode
    by_cases hopacity : l.opacity ≤ 0
    · rw [if_pos hopacity, reach, if_pos (Or.inr (Or.inl hopacity))]
      rfl
    · rw [if_neg hopacity]
      simp only [hpicture]
      cases hmasks : l.masksToBounds_ with
      | true =>
        rw [reach, if_pos (Or.inr (Or.inr hmasks)), hclip hmasks]
        exact congrFun (withAlpha_id l.opacity) backdrop
      | false =>
        have hreach : l.reach = some (min l.opacity 255) := by
          rw [reach, if_neg]
          simp [hshown, hopacity, hmasks]
        rw [hreach]
        unfold letThrough withAlpha
        by_cases halpha : l.opacity < 255
        · simp [halpha, min_eq_left halpha.le]
        · simp [halpha]

end Layer

/-! ## The calls of a paint -/

namespace PixelCanvas

/-- The colour changes, unless the clip leaves the pixel out, and nothing else. -/
def recolour (s : PixelCanvas) (f : Colour → Colour) : PixelCanvas :=
  if s.clipped then s else { s with colour := f s.colour }

variable (s : PixelCanvas) (f g : Colour → Colour)

theorem recolour_id : s.recolour id = s := by
  unfold recolour
  split <;> rfl

theorem recolour_recolour : (s.recolour f).recolour g = s.recolour (g ∘ f) := by
  cases hclipped : s.clipped with
  | true => simp [recolour, hclipped]
  | false => simp [recolour, hclipped]

end PixelCanvas

open PixelCanvas

section
variable {pictures : LayerId → LayerPictures} {p : Pixel} {context : PaintContext}

theorem drawOps_append (ops ops' : List CanvasOp) (s : PixelCanvas) :
    drawOps pictures p (ops ++ ops') s = drawOps pictures p ops' (drawOps pictures p ops s) :=
  List.foldl_append

variable [LawfulCanvas]

theorem screenMatrix_zero (l : Layer) : l.screenMatrix (0, 0) = l.absoluteTransformMatrix_ :=
  LawfulCanvas.preConcat_identity _

/-- The calls of `Layer::paint` around those of its children. -/
theorem drawOps_layer {l : Layer} {x : LayerId} (hopacity : 0 < l.opacity) {ops : List CanvasOp}
    {act : Colour → Colour} (hops : ∀ s, drawOps pictures p ops s = s.recolour act)
    (s : PixelCanvas) :
    drawOps pictures p ([.save, .setMatrix (l.screenMatrix (0, 0))] ++ l.applyLayerOpacity ++
      [.paintSelf x] ++ (if l.masksToBounds_ then [.clipRect l.frame_] else []) ++ ops ++
      [.restore]) s = s.recolour (l.paintNode (pictures x).picture p act) := by
  obtain ⟨colour, matrix, clipped, saves⟩ := s
  have hpaint : ∀ backdrop, l.paintNode (pictures x).picture p act backdrop =
      withAlpha l.opacity (fun c =>
        if l.masksToBounds_ && !inside l.absoluteTransformMatrix_ l.frame_ p then
          playback (pictures x).picture l.absoluteTransformMatrix_ p c
        else act (playback (pictures x).picture l.absoluteTransformMatrix_ p c)) backdrop := by
    intro backdrop
    rw [Layer.paintNode, if_neg (not_le.mpr hopacity)]
  simp only [drawOps_append, hops, screenMatrix_zero]
  by_cases halpha : l.opacity < 255
  · have happly : l.applyLayerOpacity = [.saveLayerAlpha l.frameBounds_ l.opacity] :=
      if_pos ⟨hopacity.le, halpha⟩
    cases clipped <;> cases hmasks : l.masksToBounds_ <;>
      cases hinside : inside l.absoluteTransformMatrix_ l.frame_ p <;>
      simp [drawOps, CanvasOp.draw, recolour, drawPicture, restoreFrom, happly, hpaint, withAlpha,
        halpha, hmasks, hinside]
  · have happly : l.applyLayerOpacity = [] := if_neg fun h => halpha h.2
    cases clipped <;> cases hmasks : l.masksToBounds_ <;>
      cases hinside : inside l.absoluteTransformMatrix_ l.frame_ p <;>
      simp [drawOps, CanvasOp.draw, recolour, drawPicture, restoreFrom, happly, hpaint, withAlpha,
        halpha, hmasks, hinside]

end

namespace Heap

/-- What a paint of a layer makes of a pixel, at that many levels. -/
def paintedTree (h : Heap) (pictures : LayerId → LayerPictures) (context : PaintContext)
    (p : Pixel) (n : Nat) (x : LayerId) : Colour → Colour :=
  treeFold (fun y => (h.layer y).paintNode (pictures y).picture p) (h.paintedChildren context) n x

section
variable {h : Heap} {pictures : LayerId → LayerPictures} {p : Pixel} {context : PaintContext}
  {n : Nat} {x : LayerId}

theorem paintChildren_draw (paint : Paint) (cs : List LayerId) {act : LayerId → Colour → Colour}
    (hpaint : ∀ c ∈ cs, ∃ ops, paint h c context = some (h, ops) ∧
      ∀ s, drawOps pictures p ops s = s.recolour (act c)) :
    ∃ ops, paintChildren paint context cs h = some (h, ops) ∧
      ∀ s, drawOps pictures p ops s = s.recolour fun colour =>
        (cs.filter fun c => (h.layer c).needsPainting context).foldl (fun c y => act y c)
          colour := by
  induction cs with
  | nil => exact ⟨[], rfl, fun s => s.recolour_id.symm⟩
  | cons c cs ih =>
    obtain ⟨ops', hrest, hdraw'⟩ := ih fun d hd => hpaint d (List.mem_cons_of_mem _ hd)
    cases hn : (h.layer c).needsPainting context with
    | true =>
      obtain ⟨ops, hc, hdraw⟩ := hpaint c List.mem_cons_self
      refine ⟨ops ++ ops', by simp [paintChildren, hn, hc, hrest], ?_⟩
      intro s
      rw [drawOps_append, hdraw, hdraw', recolour_recolour]
      refine congrArg s.recolour (funext fun colour => ?_)
      simp [hn]
    | false =>
      refine ⟨ops', by simp [paintChildren, hn, hrest], ?_⟩
      intro s
      rw [hdraw']
      refine congrArg s.recolour (funext fun colour => ?_)
      simp [hn]

variable [LawfulCanvas]

/-- Carried out on a pixel, the calls of a paint of plain layers are a walk down the layers that
it enters. -/
theorem paintLevels_draw (pictures : LayerId → LayerPictures) (p : Pixel)
    (hoffset : context.offset = (0, 0)) (hd : DepthLt h.children n x)
    (hplain : h.PlainBelow x) :
    ∃ ops, paintLevels n h x context = some (h, ops) ∧
      ∀ s, drawOps pictures p ops s = s.recolour (h.paintedTree pictures context p n x) := by
  induction n generalizing x with
  | zero => exact hd.elim
  | succ n ih =>
    have hx := hplain x (Below.refl x)
    obtain ⟨ops, hops, hdraw⟩ := paintChildren_draw (paintLevels n) (h.children x)
      fun c hc => ih (hd c hc) fun y hy => hplain y (hy.head hc)
    have hrun : paintLevels (n + 1) h x context = layerPaint (paintLevels n) h x context := by
      simp only [paintLevels, hx, Bool.false_eq_true, if_false]
    rw [hrun]
    unfold layerPaint
    dsimp only
    by_cases hopacity : (h.layer x).opacity ≤ 0
    · rw [if_pos hopacity]
      refine ⟨_, rfl, ?_⟩
      intro s
      have hnode : h.paintedTree pictures context p (n + 1) x = id :=
        funext fun backdrop => if_pos hopacity
      rw [hnode, recolour_id]
      rfl
    · rw [if_neg hopacity]
      change ∃ ops', (paintChildren _ context (h.children x) h).bind _ = some (h, ops') ∧ _
      rw [hops]
      refine ⟨_, rfl, ?_⟩
      intro s
      rw [hoffset]
      exact drawOps_layer (not_le.mp hopacity) hdraw s

end

/-! ## What the bounds say -/

/-- What the layers make of a pixel if each draws inside its bounds only. -/
def pixelTree (h : Heap) (pictures : LayerId → LayerPictures) (root : LayerId) (p : Pixel) :
    Colour → Colour :=
  treeFold (fun y => (h.layer y).pixelNode (pictures y).picture p) h.children (h.nextId + 1) root

/-- No layer of the tree draws at the pixel from outside its bounds. -/
def TreeStaysWithin (h : Heap) (pictures : LayerId → LayerPictures) (root : LayerId) (p : Pixel) :
    Prop :=
  ∀ x, Below h.children root x → (h.layer x).StaysWithin (pictures x).picture p

/-- A layer that the damage misses has no child that the damage hits, unless it lets nothing of
its children through. -/
def HitsReach (h : Heap) (root : LayerId) (context : PaintContext) : Prop :=
  ∀ x, Below h.children root x → (h.layer x).hits context = false → (h.layer x).reach ≠ none →
    ∀ c ∈ h.children x, (h.layer c).hits context = false

end Heap

omit [SkiaCanvas] in
theorem Layer.needsPainting_eq (l : Layer) (context : PaintContext) :
    l.needsPainting context =
      (l.isShown && (!context.supportPartialUpdate || l.hits context)) := by
  unfold Layer.needsPainting Layer.isShown
  cases l.frame_.isEmpty <;> cases l.isHidden_ <;> cases context.supportPartialUpdate <;> rfl

omit [SkiaCanvas] in
theorem Layer.not_mem_of_not_hits {l : Layer} {context : PaintContext} {p : Pixel}
    (hoffset : context.offset = (0, 0)) (hp : Covered context.damageRect p)
    (hmiss : l.hits context = false) : p ∉ l.bounds_ := by
  intro hmem
  obtain ⟨r, hr, hmeets⟩ := exists_intersect_of_covered hmem hp
  have hhits : l.hits context = true := by
    refine List.any_eq_true.mpr ⟨r, hr, ?_⟩
    rw [screenBounds, hoffset, if_neg (not_not.mpr rfl)]
    exact hmeets
  rw [hmiss] at hhits
  cases hhits

namespace Heap

section
variable {h : Heap} {pictures : LayerId → LayerPictures} {p : Pixel} {context : PaintContext}
  {root x : LayerId}

theorem treeFold_pixelNode_hidden (hx : (h.layer x).isShown = false) (n : Nat) :
    treeFold (fun y => (h.layer y).pixelNode (pictures y).picture p) h.children n x = id := by
  cases n with
  | zero => rfl
  | succ n => exact Layer.pixelNode_of_hidden hx

variable [LawfulCanvas]

/-- At a damaged pixel a layer that the damage misses does nothing. -/
theorem HitsReach.idle (hreach : h.HitsReach root context) (hoffset : context.offset = (0, 0))
    (hp : Covered context.damageRect p) (hx : Below h.children root x)
    (hmiss : (h.layer x).hits context = false) (n : Nat) :
    treeFold (fun y => (h.layer y).pixelNode (pictures y).picture p) h.children n x = id := by
  induction n generalizing x with
  | zero => rfl
  | succ n ih =>
    rw [treeFold_succ, Layer.pixelNode_of_not_mem (Layer.not_mem_of_not_hits hoffset hp hmiss)]
    cases hr : (h.layer x).reach with
    | none => rfl
    | some alpha =>
      have hthrough : (h.layer x).reach ≠ none := by simp [hr]
      have hrest : (fun c => (h.children x).foldl (fun c y =>
          treeFold (fun y => (h.layer y).pixelNode (pictures y).picture p) h.children n y c) c) =
          id :=
        funext (foldl_idle fun y hy => ih (hx.tail hy) (hreach x hx hmiss hthrough y hy))
      rw [hrest]
      exact Layer.letThrough_id _

/-- A paint that leaves out idle parts only. -/
theorem paintedTree_eq_pixelTree (hwithin : h.TreeStaysWithin pictures root p)
    (hidle : ∀ x, Below h.children root x → (h.layer x).needsPainting context = false → ∀ n,
      treeFold (fun y => (h.layer y).pixelNode (pictures y).picture p) h.children n x = id)
    (hroot : (h.layer root).needsPainting context = true) :
    h.paintedTree pictures context p (h.nextId + 1) root = h.pixelTree pictures root p := by
  refine treeFold_congr (fun x => (h.layer x).needsPainting context = true) ?_ ?_ ?_ ?_
    (Below.refl root) hroot
  · intro x hx hmiss n
    exact hidle x hx (Bool.eq_false_of_not_eq_true hmiss) n
  · intro x _ _ y hy hmiss
    exact absurd (List.mem_filter.mp hy).2 hmiss
  · intro x hx hneeds
    rw [Layer.needsPainting_eq, Bool.and_eq_true] at hneeds
    exact Layer.paintNode_eq_pixelNode hneeds.1 (hwithin x hx)
  · intro x _ _
    rw [paintedChildren, List.filter_filter]
    refine List.filter_congr fun c _ => ?_
    cases (h.layer c).needsPainting context <;> rfl

theorem paint_draw (pictures : LayerId → LayerPictures) (context : PaintContext) (hf : h.Forest)
    (hplain : h.PlainBelow root) (hoffset : context.offset = (0, 0)) :
    ∃ ops, h.paint root context = some (h, ops) ∧ ∀ p s, drawOps pictures p ops s =
      s.recolour (h.paintedTree pictures context p (h.nextId + 1) root) := by
  have hd := hf.linked.depthLt hf.range root
  obtain ⟨ops, hops, -⟩ := paintLevels_draw pictures (0, 0) hoffset hd hplain
  refine ⟨ops, hops, ?_⟩
  intro p
  obtain ⟨ops', hops', hdraw⟩ := paintLevels_draw pictures p hoffset hd hplain
  rw [hops] at hops'
  cases hops'
  exact hdraw

/-- A full repaint does what the bounds say. -/
theorem repaint_eq (hf : h.Forest) (hplain : h.PlainBelow root)
    (hwithin : h.TreeStaysWithin pictures root p) (hroot : (h.layer root).isShown = true)
    (colour : Colour) :
    h.repaint pictures root p colour = some (h.pixelTree pictures root p colour) := by
  let context : PaintContext := { damageRect := [], supportPartialUpdate := false }
  obtain ⟨ops, hops, hdraw⟩ := paint_draw pictures context hf hplain rfl
  have htree : h.paintedTree pictures { damageRect := [], supportPartialUpdate := false } p
      (h.nextId + 1) root = h.pixelTree pictures root p := by
    apply paintedTree_eq_pixelTree hwithin
    · intro x _ hmiss
      rw [Layer.needsPainting_eq] at hmiss
      exact treeFold_pixelNode_hidden (by simpa using hmiss)
    · rw [Layer.needsPainting_eq, hroot]
      rfl
  rw [repaint, hops, Option.map_some, hdraw, htree]
  rfl

/-- So does a partial one at the pixels in its clip, and it leaves the others alone. -/
theorem paintPixel_eq (pictures : LayerId → LayerPictures) (hf : h.Forest)
    (hplain : h.PlainBelow root)
    (hoffset : context.offset = (0, 0)) (hsupport : context.supportPartialUpdate = true)
    (hreach : h.HitsReach root context) (hroot : (h.layer root).needsPainting context = true)
    {path : List SkIRect} (hpath : ∀ q, Covered path q ↔ Covered context.damageRect q) :
    ∃ ops, h.paint root context = some (h, ops) ∧ ∀ p, h.TreeStaysWithin pictures root p →
      ∀ colour, paintPixel pictures (some path) ops p colour =
        if Covered context.damageRect p then h.pixelTree pictures root p colour else colour := by
  obtain ⟨ops, hops, hdraw⟩ := paint_draw pictures context hf hplain hoffset
  refine ⟨ops, hops, ?_⟩
  intro p hwithin colour
  rw [paintPixel, hdraw]
  by_cases hp : Covered context.damageRect p
  · have htree : h.paintedTree pictures context p (h.nextId + 1) root =
        h.pixelTree pictures root p := by
      apply paintedTree_eq_pixelTree hwithin _ hroot
      intro x hx hmiss
      rw [Layer.needsPainting_eq, hsupport] at hmiss
      cases hshown : (h.layer x).isShown with
      | false => exact treeFold_pixelNode_hidden hshown
      | true =>
        rw [hshown] at hmiss
        exact hreach.idle hoffset hp hx (by simpa using hmiss)
    rw [htree, if_pos hp]
    simp [recolour, (hpath p).mpr hp]
  · have hout : ¬Covered path p := fun h => hp ((hpath p).mp h)
    rw [if_neg hp]
    simp [recolour, hout]

end

end Heap

end ReactNativeSkia
