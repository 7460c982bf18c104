import ReactNativeSkia.Compositor.Layers.Proofs.ScrollDamage

/-!
# Where a paint draws

Each layer is drawn with the matrix that its own `applyLayerTransformMatrix` has set: the one of
its cached matrix and of the offset that the scroll layers around it add up to, whatever the
damage leaves out and however deep they nest.
-/

namespace ReactNativeSkia

variable [Skia]

namespace CanvasOp

/-- The layers that are drawn, each with the matrix the canvas then has, from the current matrix
and the saved ones on. -/
def drawnFrom : Skia.Matrix → List Skia.Matrix → List CanvasOp → List (LayerId × Skia.Matrix)
  | _, _, [] => []
  | m, saved, .save :: ops => drawnFrom m (m :: saved) ops
  | _, saved, .setMatrix m :: ops => drawnFrom m saved ops
  | m, saved, .paintSelf layer :: ops => (layer, m) :: drawnFrom m saved ops
  | _, m :: saved, .restore :: ops => drawnFrom m saved ops
  | m, saved, _ :: ops => drawnFrom m saved ops

/-- The calls leave the matrices as they were, and what they draw satisfies `P`. -/
def Draws (P : LayerId → Skia.Matrix → Prop) (ops : List CanvasOp) : Prop :=
  ∀ m saved rest, ∃ drawn, drawnFrom m saved (ops ++ rest) = drawn ++ drawnFrom m saved rest ∧
    ∀ e ∈ drawn, P e.1 e.2

section
variable {P : LayerId → Skia.Matrix → Prop} {ops ops' : List CanvasOp}

theorem Draws.nil : Draws P [] := fun _ _ _ => ⟨[], rfl, by simp⟩

theorem Draws.append (h : Draws P ops) (h' : Draws P ops') : Draws P (ops ++ ops') := by
  intro m saved rest
  obtain ⟨drawn, heq, hall⟩ := h m saved (ops' ++ rest)
  obtain ⟨drawn', heq', hall'⟩ := h' m saved rest
  refine ⟨drawn ++ drawn', ?_, ?_⟩
  · rw [List.append_assoc, heq, heq', List.append_assoc]
  · intro e he
    rcases List.mem_append.mp he with he | he
    · exact hall e he
    · exact hall' e he

/-- Calls that no matrix depends on. -/
theorem Draws.of_idle (h : ∀ op ∈ ops, ∀ m saved rest,
    drawnFrom m saved (op :: rest) = drawnFrom m saved rest) : Draws P ops := by
  induction ops with
  | nil => exact .nil
  | cons op ops ih =>
    intro m saved rest
    obtain ⟨drawn, heq, hall⟩ := ih (fun op' hop => h op' (List.mem_cons_of_mem _ hop)) m saved
      rest
    refine ⟨drawn, ?_, hall⟩
    rw [List.cons_append, h op List.mem_cons_self, heq]

/-- The calls of a layer between its `save` and the matching `restore`. -/
theorem Draws.saved {m : Skia.Matrix} {layer : LayerId} {before after : List CanvasOp}
    (hbefore : ∀ op ∈ before, ∀ m saved rest,
      drawnFrom m saved (op :: rest) = drawnFrom m saved rest)
    (hP : P layer m) (hafter : Draws P after) :
    Draws P ([.save, .setMatrix m] ++ before ++ [.paintSelf layer] ++ after ++ [.restore]) := by
  intro m' saved rest
  obtain ⟨drawn, heq, hall⟩ := hafter m (m' :: saved) ([.restore] ++ rest)
  refine ⟨(layer, m) :: drawn, ?_, ?_⟩
  · have hskip (tail : List CanvasOp) : drawnFrom m (m' :: saved) (before ++ tail) =
        drawnFrom m (m' :: saved) tail := by
      induction before with
      | nil => rfl
      | cons op before ih =>
        rw [List.cons_append, hbefore op List.mem_cons_self]
        exact ih fun op' hop => hbefore op' (List.mem_cons_of_mem _ hop)
    simp only [List.append_assoc, List.cons_append, List.nil_append, drawnFrom, hskip]
    simp only [List.cons_append, List.nil_append] at heq
    rw [heq]
    simp only [drawnFrom]
  · intro e he
    rcases List.mem_cons.mp he with rfl | he
    · exact hP
    · exact hall e he

end

end CanvasOp

namespace Heap

/-- Equal but for the damage that a paint clears. -/
def SamePicture (h h' : Heap) : Prop :=
  h'.nextId = h.nextId ∧ ∀ x, ∃ damage, h'.layer x = (h.layer x).withBitmapSurfaceDamage damage

section
variable {h h' h'' : Heap} {root x : LayerId}

theorem SamePicture.refl (h : Heap) : h.SamePicture h :=
  ⟨rfl, fun x => ⟨(h.layer x).bitmapSurfaceDamage_, rfl⟩⟩

theorem SamePicture.clear (hs : h.SamePicture h') (x : LayerId) :
    h.SamePicture (h'.modify x (·.withBitmapSurfaceDamage [])) := by
  refine ⟨hs.1, fun y => ?_⟩
  obtain ⟨damage, heq⟩ := hs.2 y
  rw [modify_layer]
  split
  · rename_i hy
    subst hy
    exact ⟨[], by rw [heq]; rfl⟩
  · exact ⟨damage, heq⟩

/-- The matrix that a layer should be drawn with. -/
def DrawnFittingly (h : Heap) (root x : LayerId) (m : Skia.Matrix) : Prop :=
  Below h.children root x ∧ m = (h.layer x).screenMatrix
    (h.contextWithin (h.enclosingScrolls x) ⟨[], true, (0, 0)⟩).offset

/-- The offset of the context is the one the scroll layers around `x` add up to. -/
def ContextFits (h : Heap) (x : LayerId) (context : PaintContext) : Prop :=
  context.offset = (h.contextWithin (h.enclosingScrolls x) ⟨[], true, (0, 0)⟩).offset

/-- What a virtual call of `paint` does on any layer below the root in a fitting context. -/
def PaintFits (h : Heap) (root : LayerId) (paint : Paint) : Prop :=
  ∀ h₁ x context h₂ ops, h.SamePicture h₁ → Below h.children root x → h.ContextFits x context →
    paint h₁ x context = some (h₂, ops) →
    h.SamePicture h₂ ∧ CanvasOp.Draws (h.DrawnFittingly root) ops

/-- Children of a plain layer get its context, those of a scroll layer its scrolled one. -/
theorem Forest.contextFits_child (hf : h.Forest) {p c : LayerId} (hc : c ∈ h.children p)
    {context : PaintContext} (hctx : h.ContextFits p context) :
    h.ContextFits c
      (if (h.layer p).isScroll then (h.layer p).scrolledContext context else context) := by
  unfold ContextFits at hctx ⊢
  rw [hf.enclosingScrolls_parent ((hf.linked.mem_iff p c).mp hc)]
  split
  · simp only [Layer.scrolledContext, contextWithin, List.foldr_cons] at hctx ⊢
    rw [hctx]
  · exact hctx

theorem PaintFits.children {paint : Paint} (hpaint : h.PaintFits root paint)
    (hx : Below h.children root x) {context : PaintContext} {cs : List LayerId}
    (hcs : ∀ c ∈ cs, c ∈ h.children x ∧ h.ContextFits c context) {h₁ h₂ : Heap}
    {ops : List CanvasOp} (hs : h.SamePicture h₁)
    (hrun : paintChildren paint context cs h₁ = some (h₂, ops)) :
    h.SamePicture h₂ ∧ CanvasOp.Draws (h.DrawnFittingly root) ops := by
  induction cs generalizing h₁ ops with
  | nil =>
    obtain ⟨rfl, rfl⟩ := Prod.mk.inj (Option.some.inj hrun)
    exact ⟨hs, .nil⟩
  | cons c cs ih =>
    have hrest : ∀ d ∈ cs, d ∈ h.children x ∧ h.ContextFits d context := fun d hd =>
      hcs d (List.mem_cons_of_mem _ hd)
    rw [paintChildren] at hrun
    split at hrun
    · obtain ⟨⟨h₃, ops₁⟩, hself, hrun⟩ := Option.bind_eq_some_iff.mp hrun
      obtain ⟨⟨h₄, ops₂⟩, hothers, hrun⟩ := Option.bind_eq_some_iff.mp hrun
      obtain ⟨rfl, rfl⟩ := Prod.mk.inj (Option.some.inj hrun)
      obtain ⟨hc, hctx⟩ := hcs c List.mem_cons_self
      obtain ⟨hs₃, hdraws₁⟩ := hpaint h₁ c context h₃ ops₁ hs (hx.tail hc) hctx hself
      obtain ⟨hs₄, hdraws₂⟩ := ih hrest hs₃ hothers
      exact ⟨hs₄, hdraws₁.append hdraws₂⟩
    · exact ih hrest hs hrun

theorem applyLayerOpacity_idle (l : Layer) : ∀ op ∈ l.applyLayerOpacity, ∀ m saved rest,
    CanvasOp.drawnFrom m saved (op :: rest) = CanvasOp.drawnFrom m saved rest := by
  intro op hop m saved rest
  unfold Layer.applyLayerOpacity at hop
  split at hop
  · obtain rfl := List.mem_singleton.mp hop
    cases saved <;> rfl
  · cases hop

/-- A transparent layer sets its matrix and draws nothing. -/
theorem draws_transparent {P : LayerId → Skia.Matrix → Prop} (m : Skia.Matrix) :
    CanvasOp.Draws P [.save, .setMatrix m, .restore] :=
  fun _ _ _ => ⟨[], rfl, by simp⟩

theorem PaintFits.layerPaint {paint : Paint} (hpaint : h.PaintFits root paint) (hf : h.Forest)
    {x : LayerId} (hx : Below h.children root x) (hplain : (h.layer x).isScroll = false)
    {context : PaintContext} (hctx : h.ContextFits x context) {h₁ h₂ : Heap}
    {ops : List CanvasOp} (hs : h.SamePicture h₁)
    (hrun : Heap.layerPaint paint h₁ x context = some (h₂, ops)) :
    h.SamePicture h₂ ∧ CanvasOp.Draws (h.DrawnFittingly root) ops := by
  obtain ⟨damage, hlayer⟩ := hs.2 x
  unfold Heap.layerPaint at hrun
  simp only [hlayer] at hrun
  split at hrun
  · obtain ⟨rfl, rfl⟩ := Prod.mk.inj (Option.some.inj hrun)
    exact ⟨hs, draws_transparent _⟩
  · obtain ⟨⟨h₃, ops'⟩, hchildren, hrun⟩ := Option.bind_eq_some_iff.mp hrun
    obtain ⟨rfl, rfl⟩ := Prod.mk.inj (Option.some.inj hrun)
    have hcs : ∀ c ∈ h.children x, c ∈ h.children x ∧ h.ContextFits c context := by
      intro c hc
      have hchild := hf.contextFits_child hc hctx
      rw [hplain, if_neg Bool.false_ne_true] at hchild
      exact ⟨hc, hchild⟩
    obtain ⟨hs₃, hdraws⟩ := hpaint.children hx hcs hs hchildren
    refine ⟨hs₃, ?_⟩
    have hclip : CanvasOp.Draws (h.DrawnFittingly root)
        (if (h.layer x).masksToBounds_ then [.clipRect (h.layer x).frame_] else []) := by
      refine .of_idle fun op hop m saved rest => ?_
      split at hop
      · obtain rfl := List.mem_singleton.mp hop
        cases saved <;> rfl
      · cases hop
    have hself : h.DrawnFittingly root x ((h.layer x).screenMatrix context.offset) :=
      ⟨hx, by rw [hctx]⟩
    have hall := CanvasOp.Draws.saved (applyLayerOpacity_idle (h.layer x)) hself
      (hclip.append hdraws)
    rw [← List.append_assoc] at hall
    exact hall

theorem PaintFits.scrollPaint {paint : Paint} (hpaint : h.PaintFits root paint) (hf : h.Forest)
    {x : LayerId} (hx : Below h.children root x) (hscroll : (h.layer x).isScroll = true)
    {context : PaintContext} (hctx : h.ContextFits x context) {h₁ h₂ : Heap}
    {ops : List CanvasOp} (hs : h.SamePicture h₁)
    (hrun : Heap.scrollPaint paint h₁ x context = some (h₂, ops)) :
    h.SamePicture h₂ ∧ CanvasOp.Draws (h.DrawnFittingly root) ops := by
  obtain ⟨damage, hlayer⟩ := hs.2 x
  unfold Heap.scrollPaint at hrun
  simp only [hlayer] at hrun
  split at hrun
  · obtain ⟨rfl, rfl⟩ := Prod.mk.inj (Option.some.inj hrun)
    exact ⟨hs, draws_transparent _⟩
  · obtain ⟨⟨h₃, ops'⟩, hchildren, hrun⟩ := Option.bind_eq_some_iff.mp hrun
    obtain ⟨rfl, rfl⟩ := Prod.mk.inj (Option.some.inj hrun)
    have hcs : ∀ c ∈ h.children x, c ∈ h.children x ∧
        h.ContextFits c ((h.layer x).scrolledContext context) := by
      intro c hc
      have hchild := hf.contextFits_child hc hctx
      rw [hscroll, if_pos rfl] at hchild
      exact ⟨hc, hchild⟩
    obtain ⟨hs₃, hdraws⟩ := hpaint.children hx hcs hs hchildren
    refine ⟨hs₃.clear x, ?_⟩
    have hclip : CanvasOp.Draws (h.DrawnFittingly root) [.clipRect (h.layer x).frame_] := by
      refine .of_idle fun op hop m saved rest => ?_
      obtain rfl := List.mem_singleton.mp hop
      cases saved <;> rfl
    have hend : CanvasOp.Draws (h.DrawnFittingly root) [.paintScrollBar x, .paintBorder x] := by
      refine .of_idle fun op hop m saved rest => ?_
      rcases List.mem_pair.mp hop with rfl | rfl
      · cases saved <;> rfl
      · cases saved <;> rfl
    have hself : h.DrawnFittingly root x ((h.layer x).screenMatrix context.offset) :=
      ⟨hx, by rw [hctx]⟩
    have hall := CanvasOp.Draws.saved (applyLayerOpacity_idle (h.layer x)) hself
      (hclip.append (hdraws.append hend))
    simp only [List.append_assoc, List.cons_append, List.nil_append] at hall ⊢
    exact hall

/-- The virtual call at every number of levels. -/
theorem Forest.paintFits (hf : h.Forest) (n : Nat) : h.PaintFits root (paintLevels n) := by
  induction n with
  | zero =>
    intro h₁ x context h₂ ops _ _ _ hrun
    cases hrun
  | succ n ih =>
    intro h₁ x context h₂ ops hs hx hctx hrun
    obtain ⟨damage, hlayer⟩ := hs.2 x
    have htype : (h₁.layer x).isScroll = (h.layer x).isScroll := by rw [hlayer]; rfl
    simp only [paintLevels, htype] at hrun
    split at hrun
    · rename_i hscroll
      exact ih.scrollPaint hf hx hscroll hctx hs hrun
    · rename_i hplain
      exact ih.layerPaint hf hx (Bool.eq_false_iff.mpr hplain) hctx hs hrun

/-- Whatever a paint from a root draws, it draws with the matrix that the layer should have. -/
theorem Forest.paint_drawn (hf : h.Forest) (hroot : h.parent root = none)
    {context : PaintContext} (hzero : context.offset = (0, 0)) {h' : Heap} {ops : List CanvasOp}
    (hrun : h.paint root context = some (h', ops)) {x : LayerId} {m : Skia.Matrix}
    (hx : (x, m) ∈ CanvasOp.drawnFrom Skia.identity [] ops) : h.DrawnFittingly root x m := by
  have hctx : h.ContextFits root context := by
    unfold ContextFits
    rw [hzero, hf.enclosingScrolls_eq (.root hroot)]
    rfl
  obtain ⟨-, hdraws⟩ := hf.paintFits (h.nextId + 1) h root context h' ops (.refl h)
    (Below.refl root) hctx hrun
  obtain ⟨drawn, heq, hall⟩ := hdraws Skia.identity [] []
  rw [List.append_nil] at heq
  rw [heq] at hx
  rcases List.mem_append.mp hx with hx | hx
  · exact hall (x, m) hx
  · cases hx

end

end Heap

end ReactNativeSkia
