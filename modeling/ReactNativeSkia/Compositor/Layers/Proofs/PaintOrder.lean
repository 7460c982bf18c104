import ReactNativeSkia.Compositor.Layers.Paint
import ReactNativeSkia.Compositor.Layers.Proofs.Links
import ReactNativeSkia.Misc.Preorder

/-!
# The order in which layers are painted

Plain layers are painted in preorder, cut at the layers that need no painting. A partial
paint therefore misses a layer that the damage hits exactly if some layer above it is not
hit.
-/

namespace ReactNativeSkia

open Rect

section
variable [Skia]

/-- A plain layer that a full repaint draws. -/
structure Layer.PlainVisible (l : Layer) : Prop where
  plain : l.isScroll = false
  opacity : 0 < l.opacity
  shown : l.isHidden_ = false
  unmasked : l.masksToBounds_ = false
  nonempty : l.frame_.isEmpty = false

theorem Layer.PlainVisible.needsPainting_iff {l : Layer} (hl : l.PlainVisible)
    (context : PaintContext) : l.needsPainting context =
      (!context.supportPartialUpdate || l.hits context) := by
  unfold Layer.needsPainting
  rw [hl.nonempty, hl.shown]
  cases context.supportPartialUpdate <;> simp

namespace Heap

/-- The children that the traversal enters. -/
def paintedChildren (h : Heap) (context : PaintContext) (p : LayerId) : List LayerId :=
  (h.children p).filter fun c => (h.layer c).needsPainting context

section
variable {h : Heap} {root x : LayerId} {context : PaintContext} {n : Nat}

theorem paintChildren_order (paint : Paint) (context : PaintContext) (cs : List LayerId)
    {order : LayerId → List LayerId}
    (hpaint : ∀ c ∈ cs, ∃ ops, paint h c context = some (h, ops) ∧
      ops.filterMap CanvasOp.painted? = order c) :
    ∃ ops, paintChildren paint context cs h = some (h, ops) ∧
      ops.filterMap CanvasOp.painted? =
        (cs.filter fun c => (h.layer c).needsPainting context).flatMap order := by
  induction cs with
  | nil => exact ⟨[], rfl, rfl⟩
  | cons c cs ih =>
    obtain ⟨ops', hrest, hord'⟩ := ih fun d hd => hpaint d (List.mem_cons_of_mem _ hd)
    cases hn : (h.layer c).needsPainting context with
    | true =>
      obtain ⟨ops, hc, hord⟩ := hpaint c List.mem_cons_self
      refine ⟨ops ++ ops', ?_, ?_⟩
      · simp [paintChildren, hn, hc, hrest]
      · simp [hn, hord, hord']
    | false =>
      refine ⟨ops', ?_, ?_⟩
      · simp [paintChildren, hn, hrest]
      · simp [hn, hord']

theorem applyLayerOpacity_painted (l : Layer) :
    l.applyLayerOpacity.filterMap CanvasOp.painted? = [] := by
  unfold Layer.applyLayerOpacity
  split <;> rfl

/-- Plain layers are painted in the preorder of the entered children, and painting leaves
them as they are. -/
theorem paintLevels_order (context : PaintContext) (hd : DepthLt h.children n x)
    (hplain : ∀ y, Below h.children x y → (h.layer y).PlainVisible) :
    ∃ ops, paintLevels n h x context = some (h, ops) ∧
      ops.filterMap CanvasOp.painted? = preorder (h.paintedChildren context) n x := by
  induction n generalizing x with
  | zero => exact hd.elim
  | succ n ih =>
    have hx := hplain x (Below.refl x)
    obtain ⟨ops, hops, hord⟩ := paintChildren_order (paintLevels n) context (h.children x)
      fun c hc => ih (hd c hc) fun y hy => hplain y (hy.head hc)
    refine ⟨[.save, .setMatrix ((h.layer x).screenMatrix context.offset)] ++
      (h.layer x).applyLayerOpacity ++ [.paintSelf x] ++ [] ++ ops ++ [.restore], ?_, ?_⟩
    · simp only [paintLevels, hx.plain, layerPaint, not_le.mpr hx.opacity, if_false, hx.unmasked,
        Bool.false_eq_true]
      change (paintChildren _ context (h.children x) h).bind _ = _
      rw [hops]
      rfl
    · have hstart : List.filterMap CanvasOp.painted?
          [.save, .setMatrix ((h.layer x).screenMatrix context.offset)] = [] := rfl
      have hself : List.filterMap CanvasOp.painted? [.paintSelf x] = [x] := rfl
      have hend : List.filterMap CanvasOp.painted? [.restore] = [] := rfl
      simp only [List.filterMap_append, applyLayerOpacity_painted, hord, hstart, hself, hend,
        List.append_nil, List.nil_append, List.singleton_append, preorder,
        paintedChildren]

theorem paintOrder_eq (hf : h.Forest)
    (hplain : ∀ y, Below h.children root y → (h.layer y).PlainVisible) (context : PaintContext) :
    h.paintOrder root context =
      some (preorder (h.paintedChildren context) (h.nextId + 1) root) := by
  obtain ⟨ops, hops, hord⟩ := paintLevels_order context
    (hf.linked.depthLt hf.range root) hplain
  rw [paintOrder, paint, hops, Option.map_some, hord]

/-- A full repaint draws every layer, in preorder. -/
theorem preorder_full (hplain : ∀ y, Below h.children root y → (h.layer y).PlainVisible)
    (context : PaintContext) (hs : context.supportPartialUpdate = false) :
    preorder (h.paintedChildren context) n root = preorder h.children n root := by
  apply preorder_congr
  intro p hp
  rw [paintedChildren, List.filter_eq_self]
  intro c hc
  simp [(hplain c (hp.tail hc)).needsPainting_iff, hs]

/-- The partial paint is the full repaint with some layers left out. -/
theorem paintedChildren_sublist (h : Heap) (context : PaintContext) (p : LayerId) :
    (h.paintedChildren context p).Sublist (h.children p) := List.filter_sublist

/-- The layers that the damage hits have parents that it hits. -/
def HitsUpward (h : Heap) (root : LayerId) (context : PaintContext) : Prop :=
  ∀ p, Below h.children root p → ∀ c ∈ h.children p,
    (h.layer c).hits context = true → (h.layer p).hits context = true

/-- Each layer that the damage hits is painted once, in the order of the full repaint. -/
def PaintsDamage (h : Heap) (root : LayerId) (context : PaintContext)
    (partialOrder fullOrder : List LayerId) : Prop :=
  (∀ x, Below h.children root x → (h.layer x).hits context = true → partialOrder.count x = 1) ∧
  partialOrder.filter (fun x => (h.layer x).hits context) =
    fullOrder.filter fun x => (h.layer x).hits context

/-- The traversal reaches every layer that is hit exactly if hits go upwards. -/
theorem reaches_hits_iff (hf : h.Forest)
    (hplain : ∀ y, Below h.children root y → (h.layer y).PlainVisible)
    (hs : context.supportPartialUpdate = true) (hroot : (h.layer root).hits context = true) :
    (∀ x, Below h.children root x → (h.layer x).hits context = true →
      Below (h.paintedChildren context) root x) ↔ h.HitsUpward root context := by
  have hneeds : ∀ {y}, Below h.children root y →
      (h.layer y).needsPainting context = (h.layer y).hits context := fun hy => by
    simp [(hplain _ hy).needsPainting_iff, hs]
  constructor
  · intro hall p hp c hc hhit
    rcases Relation.ReflTransGen.cases_tail (hall c (hp.tail hc) hhit) with rfl | ⟨q, hq, hcq⟩
    · exact absurd hp (hf.linked.not_below_of_child hc)
    · have hcq' : c ∈ h.children q := (List.mem_filter.mp hcq).1
      have hpq : q = p := Option.some.inj
        (((hf.linked.mem_iff q c).mp hcq').symm.trans ((hf.linked.mem_iff p c).mp hc))
      subst hpq
      rcases Relation.ReflTransGen.cases_tail hq with rfl | ⟨r, -, hqr⟩
      · exact hroot
      · rw [← hneeds hp]
        exact (List.mem_filter.mp hqr).2
  · intro hup x hx
    induction hx with
    | refl => exact fun _ => Below.refl root
    | @tail p c hp hc ih =>
      intro hhit
      refine (ih (hup p hp c hc hhit)).tail (List.mem_filter.mpr ⟨hc, ?_⟩)
      rw [hneeds (Below.tail hp hc)]
      exact hhit

/-- With partial updates on and the root hit, `paint` of visible plain layers paints what the
damage hits, once and in the order of the full repaint, exactly if no layer that is hit has
a parent that is not. -/
theorem paint_paintsDamage_iff (hf : h.Forest)
    (hplain : ∀ y, Below h.children root y → (h.layer y).PlainVisible)
    (hs : context.supportPartialUpdate = true) (hroot : (h.layer root).hits context = true) :
    ∃ partialOrder fullOrder, h.paintOrder root context = some partialOrder ∧
      h.paintOrder root { context with supportPartialUpdate := false } = some fullOrder ∧
      (h.PaintsDamage root context partialOrder fullOrder ↔ h.HitsUpward root context) := by
  have hd := hf.linked.depthLt hf.range root
  refine ⟨_, _, paintOrder_eq hf hplain context, paintOrder_eq hf hplain _, ?_⟩
  rw [preorder_full hplain { context with supportPartialUpdate := false } rfl,
    ← reaches_hits_iff hf hplain hs hroot]
  have hsub := preorder_sublist (n := h.nextId + 1) (x := root) (h.paintedChildren_sublist context)
  have hnodup := nodup_preorder hf.linked hd
  have hmem : ∀ {x}, x ∈ preorder (h.paintedChildren context) (h.nextId + 1) root ↔
      Below (h.paintedChildren context) root x :=
    mem_preorder (hd.of_subset fun p _ hc => (h.paintedChildren_sublist context p).subset hc)
  constructor
  · rintro ⟨hcount, -⟩ x hx hhit
    rw [← hmem, ← List.count_pos_iff, hcount x hx hhit]
    exact Nat.one_pos
  · intro hall
    constructor
    · intro x hx hhit
      exact List.count_eq_one_of_mem (hnodup.sublist hsub) (hmem.mpr (hall x hx hhit))
    · -- a part of the full order with the same members, each once
      refine (hsub.filter _).eq_of_length (List.Perm.length_eq ?_)
      refine (List.perm_ext_iff_of_nodup ((hnodup.sublist hsub).filter _)
        (hnodup.filter _)).mpr fun x => ?_
      rw [List.mem_filter, List.mem_filter, hmem, mem_preorder hd]
      constructor
      · intro hx
        exact ⟨(mem_preorder hd).mp (hsub.subset (hmem.mpr hx.1)), hx.2⟩
      · intro hx
        exact ⟨hall x hx.1 hx.2, hx.2⟩

end

end Heap

end

namespace Heap

open TranslationSkia

/-- A layer and its child, which lies to the right of it. -/
def overflowHeap : Heap := ofLayers
  [{ children_ := [1]
     frame_ := .MakeXYWH 0 0 100 100
     bounds_ := .MakeXYWH 0 0 100 100 },
   { parent_ := some 0
     children_ := [2]
     frame_ := .MakeXYWH 0 0 10 10
     bounds_ := .MakeXYWH 0 0 10 10 },
   { parent_ := some 1
     frame_ := .MakeXYWH 20 0 10 10
     bounds_ := .MakeXYWH 20 0 10 10 }]

theorem overflowHeap_forest : overflowHeap.Forest :=
  ofLayers_forest (by decide) (by decide) (by decide) (by decide)

theorem overflowHeap_plainVisible (y : LayerId) (hy : Below overflowHeap.children 0 y) :
    (overflowHeap.layer y).PlainVisible := by
  have hlt : y < 3 := ofLayers_below_lt (by decide) (by decide) hy
  have hall : ∀ y < 3, (overflowHeap.layer y).isScroll = false ∧
      0 < (overflowHeap.layer y).opacity ∧ (overflowHeap.layer y).isHidden_ = false ∧
      (overflowHeap.layer y).masksToBounds_ = false ∧
      (overflowHeap.layer y).frame_.isEmpty = false := by
    decide +kernel
  obtain ⟨hplain, hopacity, hshown, hunmasked, hnonempty⟩ := hall y hlt
  exact ⟨hplain, hopacity, hshown, hunmasked, hnonempty⟩

/-- The damage hits the child only; the layer between it and the root is skipped with it. -/
theorem overflowing_child_not_painted : ¬ ∀ (h : Heap) (root : LayerId) (context : PaintContext)
    (partialOrder fullOrder : List LayerId), h.Forest →
    (∀ y, Below h.children root y → (h.layer y).PlainVisible) →
    context.supportPartialUpdate = true → (h.layer root).hits context = true →
    h.paintOrder root context = some partialOrder →
    h.paintOrder root { context with supportPartialUpdate := false } = some fullOrder →
    h.PaintsDamage root context partialOrder fullOrder := by
  intro hall
  have hpaints := hall overflowHeap 0 ⟨[.MakeXYWH 20 0 10 10], true, (0, 0)⟩ [0] [0, 1, 2]
    overflowHeap_forest overflowHeap_plainVisible rfl (by decide) (by decide +kernel)
    (by decide +kernel)
  have hbelow : Below overflowHeap.children 0 2 :=
    ((Below.refl 0).tail (p := 0) (c := 1) (by decide)).tail (by decide)
  have hcount := hpaints.1 2 hbelow (by decide)
  revert hcount
  decide

theorem paint_paintsDamage_iff_overflow : ∃ partialOrder fullOrder,
    overflowHeap.paintOrder 0 ⟨[.MakeXYWH 20 0 10 10], true, (0, 0)⟩ = some partialOrder ∧
    overflowHeap.paintOrder 0 ⟨[.MakeXYWH 20 0 10 10], false, (0, 0)⟩ = some fullOrder ∧
    (overflowHeap.PaintsDamage 0 ⟨[.MakeXYWH 20 0 10 10], true, (0, 0)⟩ partialOrder fullOrder ↔
      overflowHeap.HitsUpward 0 ⟨[.MakeXYWH 20 0 10 10], true, (0, 0)⟩) :=
  paint_paintsDamage_iff overflowHeap_forest overflowHeap_plainVisible rfl (by decide)

end Heap

end ReactNativeSkia
