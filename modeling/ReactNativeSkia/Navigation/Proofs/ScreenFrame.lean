import ReactNativeSkia.Navigation.Proofs.Tree
import ReactNativeSkia.Compositor.Layers.Proofs.PaintOffset

/-!
# Where the focus engine and the painter see a component

`getScreenFrame` walks up through the scroll views and takes their offsets from the components;
painting goes down through the scroll layers and adds up their offsets in the context. Over any
nesting the two end at the same rectangle, and it is the one that the canvas gets.
-/

namespace ReactNativeSkia

open Rect

section
variable [Skia]

/-- Documented behaviour of `SkMatrix` on whole-number translations: `preConcat` adds them up. -/
class LawfulPreConcat : Prop where
  translates_preConcat : ∀ (m n : Skia.Matrix) (dx dy ex ey : Int), Skia.Translates m dx dy →
    Skia.Translates n ex ey → Skia.Translates (Skia.preConcat m n) (dx + ex) (dy + ey)

namespace ComponentTree

/-- The components below `root` with the layers of `h`: the scroll views above a component are
the scroll layers above its layer, the root view is on top, and a scroll view does not scroll
across. -/
structure OnLayers (t : ComponentTree) (h : Heap) (root : LayerId) : Prop where
  forest : t.Forest
  layer : ∀ x, (t.component x).layer = h.layer x
  scrollable : ∀ x, Below h.children root x → ∀ l, ParentChain t.parent x l →
    (l.filter fun s => (t.component s).isScrollable) = h.enclosingScrolls x
  rootView : ∀ x, (t.component x).class_ = .RSkComponentRootView → t.parent x = none
  inactive : ∀ x, (t.component x).isScrollable = true →
    if (t.component x).scrollView.isHorizontalScroll_ then (h.layer x).scrollOffsetY_ = 0
    else (h.layer x).scrollOffsetX_ = 0

section
variable {t : ComponentTree} {h : Heap} {root x : LayerId} {l : List LayerId}

theorem isScrollable_of_isContainer (hc : t.isContainer x = true)
    (hroot : (t.component x).class_ ≠ .RSkComponentRootView) :
    (t.component x).isScrollable = true := by
  unfold isContainer NavComponent.isContainer at hc
  unfold NavComponent.isScrollable
  have hor := of_decide_eq_true hc
  exact decide_eq_true (hor.resolve_left hroot)

theorem isContainer_of_isScrollable (hs : (t.component x).isScrollable = true) :
    t.isContainer x = true := decide_eq_true (Or.inr (of_decide_eq_true hs))

/-- The scroll offset of a scroll view is the one of its layer on both axes. -/
theorem OnLayers.getScrollOffset_eq (ht : t.OnLayers h root)
    (hs : (t.component x).isScrollable = true) :
    (t.component x).getScrollOffset = ((h.layer x).scrollOffsetX_, (h.layer x).scrollOffsetY_) := by
  have hinactive := ht.inactive x hs
  have hlayer : (t.component x).scrollView.layer = h.layer x := ht.layer x
  rw [NavComponent.getScrollOffset, if_pos hs, ScrollView.getScrollOffset, hlayer]
  cases hh : (t.component x).scrollView.isHorizontalScroll_ with
  | true =>
    rw [hh, if_pos rfl] at hinactive
    rw [if_pos rfl, Layer.getScrollPosition, hinactive]
  | false =>
    rw [hh, if_neg Bool.false_ne_true] at hinactive
    rw [if_neg Bool.false_ne_true, Layer.getScrollPosition, hinactive]

/-- The first container above a component is its first scroll view, if it has one: a root view
comes last. -/
theorem OnLayers.find?_eq (ht : t.OnLayers h root) (hl : ParentChain t.parent x l)
    {s : LayerId} {rest : List LayerId}
    (hs : (l.filter fun s => (t.component s).isScrollable) = s :: rest) :
    l.find? t.isContainer = some s := by
  induction hl with
  | root _ => cases hs
  | @step x p l hp hl ih =>
    rw [List.filter_cons] at hs
    split at hs
    · rename_i hscrollable
      obtain ⟨rfl, -⟩ := List.cons.inj hs
      rw [List.find?_cons, isContainer_of_isScrollable hscrollable]
    · rename_i hplain
      cases hc : t.isContainer p with
      | false => rw [List.find?_cons, hc, ih hs]
      | true =>
        have hclass : (t.component p).class_ = .RSkComponentRootView := by
          by_contra hne
          exact hplain (isScrollable_of_isContainer hc hne)
        cases hl with
        | root _ => cases hs
        | step hq _ => rw [ht.rootView p hclass] at hq; cases hq

/-- The walk up, through what is left of the enclosing scroll layers. -/
theorem OnLayers.getScreenFrameLevels_eq (ht : t.OnLayers h root) (hf : h.Forest)
    (hroot : h.parent root = none) {scrolls : List LayerId} (hx : Below h.children root x)
    (hscrolls : h.enclosingScrolls x = scrolls) {n : Nat} (hn : scrolls.length < n)
    {context : PaintContext} (hzero : context.offset = (0, 0)) :
    t.getScreenFrameLevels n x = some ((h.layer x).absFrame_.makeOffset
      (h.contextWithin scrolls context).offset.1 (h.contextWithin scrolls context).offset.2) := by
  induction scrolls generalizing x n with
  | nil =>
    obtain ⟨n, rfl⟩ : ∃ m, n = m + 1 := ⟨n - 1, by omega⟩
    obtain ⟨l, hl⟩ := ht.forest.ends x
    have hnone := (ht.scrollable x hx l hl).trans hscrolls
    rw [getScreenFrameLevels, ht.forest.nearestAncestorContainer_eq hl]
    have habs : (t.component x).getLayerAbsoluteFrame = (h.layer x).absFrame_ := by
      rw [NavComponent.getLayerAbsoluteFrame, ht.layer]
    have hzero' : (h.contextWithin [] context).offset = (0, 0) := hzero
    rw [hzero', SkIRect.makeOffset, offset_zero]
    cases hfind : l.find? t.isContainer with
    | none =>
      show some (t.component x).getLayerAbsoluteFrame = _
      rw [habs]
    | some container =>
      have hplain : (t.component container).isScrollable = false := by
        simpa using List.filter_eq_nil_iff.mp hnone container (List.mem_of_find?_eq_some hfind)
      simp [hplain, habs]
  | cons s rest ih =>
    obtain ⟨n, rfl⟩ : ∃ m, n = m + 1 := ⟨n - 1, by omega⟩
    obtain ⟨l, hl⟩ := ht.forest.ends x
    have hfilter := (ht.scrollable x hx l hl).trans hscrolls
    have hscrollable : (t.component s).isScrollable = true := by
      have hin : s ∈ l.filter fun s => (t.component s).isScrollable :=
        hfilter ▸ List.mem_cons_self
      exact (List.mem_filter.mp hin).2
    obtain ⟨hmem, -, hrest⟩ := hf.enclosingScrolls_cons hscrolls
    have hs : Below h.children root s := hf.below_of_enclosing hx hmem (by simp [hroot])
    have houter := ih hs hrest (n := n) (by simpa using hn)
    have habs : (t.component x).getLayerAbsoluteFrame = (h.layer x).absFrame_ := by
      rw [NavComponent.getLayerAbsoluteFrame, ht.layer]
    rw [getScreenFrameLevels, ht.forest.nearestAncestorContainer_eq hl, ht.find?_eq hl hfilter]
    simp only [Option.bind_eq_bind, Option.bind_some, hscrollable, houter, habs,
      ht.getScrollOffset_eq hscrollable, Bool.not_true, Bool.false_eq_true, if_false,
      Option.pure_def, Option.some.injEq]
    -- both sides move by the same amounts, in another order
    simp only [Heap.contextWithin, List.foldr_cons, Layer.scrolledContext, Rect.offset,
      Rect.mk.injEq]
    refine ⟨?_, ?_, ?_, ?_⟩ <;> omega

/-- The scroll layers around a layer are among the ancestors of its component. -/
theorem OnLayers.enclosingScrolls_length_le (ht : t.OnLayers h root)
    (hx : Below h.children root x) : (h.enclosingScrolls x).length ≤ t.nextId := by
  obtain ⟨l, hl⟩ := ht.forest.ends x
  rw [← ht.scrollable x hx l hl]
  exact (List.length_filter_le _ _).trans (ParentChain.length_le ht.forest.range hl)

theorem OnLayers.getScreenFrame_eq (ht : t.OnLayers h root) (hf : h.Forest)
    (hroot : h.parent root = none) (hx : Below h.children root x) {context : PaintContext}
    (hzero : context.offset = (0, 0)) :
    t.getScreenFrame x = some ((h.layer x).absFrame_.makeOffset
      (h.contextWithin (h.enclosingScrolls x) context).offset.1
      (h.contextWithin (h.enclosingScrolls x) context).offset.2) :=
  ht.getScreenFrameLevels_eq hf hroot hx rfl
    (Nat.lt_succ_of_le (ht.enclosingScrolls_length_le hx)) hzero

end

end ComponentTree

/-- The matrix set on the canvas moves the frame to the absolute frame and by the offset. -/
theorem Layer.Moved.mapRect_screenMatrix [LawfulSkia] [LawfulPreConcat] {l : Layer} (hl : l.Moved)
    (offset : Int × Int) :
    Skia.mapRect (l.screenMatrix offset) l.frame_ =
      l.absFrame_.makeOffset offset.1 offset.2 := by
  obtain ⟨dx, dy, hd, habs⟩ := hl
  have hstart : Skia.Translates (if offset ≠ (0, 0) then
      Skia.preTranslate Skia.identity (Skia.ofInt offset.1) (Skia.ofInt offset.2)
      else Skia.identity) offset.1 offset.2 := by
    split
    · have ht := LawfulSkia.translates_preTranslate Skia.identity 0 0 offset.1 offset.2
        LawfulSkia.translates_identity
      simpa using ht
    · rename_i hzero
      rw [not_not.mp hzero]
      exact LawfulSkia.translates_identity
  have hm := LawfulPreConcat.translates_preConcat _ _ _ _ _ _ hstart hd
  rw [Layer.screenMatrix, hm l.frame_, habs, SkIRect.makeOffset, offset_offset]
  rw [add_comm dx, add_comm dy]

namespace ComponentTree

/-- A component for each layer: scroll views for the scroll layers and views for the others. -/
def ofLayers (h : Heap) : ComponentTree where
  nextId := h.nextId
  component x :=
    { class_ := if (h.layer x).isScroll then .RSkComponentScrollView else .RSkComponentView
      parent_ := h.parent x
      scrollView := { layer := h.layer x } }

theorem ofLayers_isScrollable (h : Heap) (x : LayerId) :
    ((ofLayers h).component x).isScrollable = (h.layer x).isScroll := by
  by_cases hs : (h.layer x).isScroll = true
  · simp [ofLayers, NavComponent.isScrollable, hs]
  · simp [ofLayers, NavComponent.isScrollable, hs]

theorem ofLayers_onLayers {h : Heap} (hf : h.Forest) (root : LayerId)
    (hinactive : ∀ x, (h.layer x).scrollOffsetX_ = 0) : (ofLayers h).OnLayers h root where
  forest := ⟨hf.linked.ends, hf.range⟩
  layer _ := rfl
  scrollable x _ l hl := by
    simp only [ofLayers_isScrollable]
    exact (hf.enclosingScrolls_eq hl).symm
  rootView x hx := by
    simp only [ofLayers] at hx
    split at hx <;> cases hx
  inactive x _ := hinactive x

end ComponentTree

end

theorem translationSkia_lawfulPreConcat : @LawfulPreConcat translationSkia := by
  let _ : Skia := translationSkia
  constructor
  intro m n dx dy ex ey hm hn
  obtain ⟨hmx, hmy⟩ := (translationSkia_translates_iff m dx dy).mp hm
  obtain ⟨hnx, hny⟩ := (translationSkia_translates_iff n ex ey).mp hn
  refine (translationSkia_translates_iff _ _ _).mpr ⟨?_, ?_⟩
  · simp only [Skia.preConcat, hmx, hnx, Int.cast_add]
  · simp only [Skia.preConcat, hmy, hny, Int.cast_add]

namespace TranslationSkia

scoped instance lawfulPreConcat : LawfulPreConcat := translationSkia_lawfulPreConcat

end TranslationSkia

namespace ComponentTree

open TranslationSkia Heap

end ComponentTree

end ReactNativeSkia
