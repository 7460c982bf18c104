import ReactNativeSkia.Compositor.Layers.Paint
import ReactNativeSkia.Compositor.Layers.Proofs.DamageSound
import ReactNativeSkia.Compositor.Layers.Proofs.Settled

/-!
# Damage through nested scroll layers

A scroll layer keeps the damage of its children in its own list and hands it on, moved to
the screen and cut to its frame; painting adds up the same offsets the other way in
`context.offset`. Pixel by pixel the two agree at every depth.
-/

namespace ReactNativeSkia

open Rect

section
variable [Skia]

/-- A rectangle of the content of a scroll layer, on the screen of the scroll layer and cut
to its frame. -/
def Layer.onScreen (l : Layer) (r : SkIRect) : SkIRect :=
  (r.offset (l.absFrame_.left - l.scrollOffsetX_) (l.absFrame_.top - l.scrollOffsetY_)).inter
    l.absFrame_

/-- A dirty rectangle that shows at a pixel of the scroll frame has a part on the screen. -/
theorem Layer.exists_screenDirtyRect (l : Layer) {d : SkIRect} {q : Pixel}
    (hd : (q.1 - (l.absFrame_.left - l.scrollOffsetX_),
      q.2 - (l.absFrame_.top - l.scrollOffsetY_)) ∈ d)
    (hq : q ∈ l.absFrame_) : ∃ e, l.screenDirtyRect d = some e ∧ q ∈ e := by
  have hin : q ∈ (d.offset (-l.scrollOffsetX_) (-l.scrollOffsetY_)).offset l.absFrame_.left
      l.absFrame_.top := by
    rw [offset_offset, mem_offset, neg_add_eq_sub, neg_add_eq_sub]
    exact hd
  exact ⟨_, (intersect_eq_some_iff _ _ _).mpr ⟨rfl, q, hin, hq⟩, (mem_inter _ _ q).mpr ⟨hin, hq⟩⟩

/-- The damage list of a scroll layer with an empty mask is handed on, moved and cut. -/
theorem Layer.emitted_onScreen {l l' : Layer} (hscroll : l.isScroll = true)
    (hm : l.invalidateMask_ = LayerInvalidateNone) {r : SkIRect}
    (hr : ∀ q ∈ r, Covered l'.bitmapSurfaceDamage_ q) :
    ∀ q ∈ l'.onScreen r, Covered (l.emitted l') q := by
  intro q hq
  simp only [onScreen, mem_inter, mem_offset] at hq
  obtain ⟨d, hd, hqd⟩ := hr _ hq.1
  obtain ⟨e, he, hqe⟩ := l'.exists_screenDirtyRect hqd hq.2
  rw [emitted, hscroll, if_pos rfl, covered_append, scrollDamage, covered_cons]
  refine Or.inr (Or.inr ?_)
  simp only [withScrollbar_invalidateMask_, withMask_invalidateMask_, hm, if_true]
  exact ⟨e, List.mem_filterMap.mpr ⟨d, hd, he⟩, hqe⟩

namespace Heap

/-- The proper ancestors, nearest first. -/
def ancestorsFrom (h : Heap) : Nat → LayerId → List LayerId
  | 0, _ => []
  | n + 1, x =>
    match h.parent x with
    | none => []
    | some p => p :: h.ancestorsFrom n p

/-- The enclosing scroll layers, innermost first. -/
def enclosingScrolls (h : Heap) (x : LayerId) : List LayerId :=
  (h.ancestorsFrom h.nextId x).filter fun s => (h.layer s).isScroll

/-- A rectangle in the coordinates that `scrolls` enclose, carried out to the screen. -/
def clipThrough (h : Heap) (scrolls : List LayerId) (r : SkIRect) : SkIRect :=
  scrolls.foldl (fun r s => (h.layer s).onScreen r) r

/-- What is left of the bounds of a layer on the screen. -/
def screenRect (h : Heap) (x : LayerId) : SkIRect :=
  h.clipThrough (h.enclosingScrolls x) (h.layer x).bounds_

/-- The context with which the scroll layers around a layer have it painted: each sets up the
offset for its children, the outermost first. -/
def contextWithin (h : Heap) (scrolls : List LayerId) (context : PaintContext) : PaintContext :=
  scrolls.foldr (fun s context => (h.layer s).scrolledContext context) context

/-- The damage list that a layer within `scrolls` adds to. -/
def damageListOf (h : Heap) (damage : FrameDamages) : List LayerId → FrameDamages
  | [] => damage
  | s :: _ => (h.layer s).bitmapSurfaceDamage_

/-! ## Walks up -/

section
variable {h h' : Heap} {root x y : LayerId} {l : List LayerId} {force : Bool}
  {context context' : PaintContext}

theorem ancestorsFrom_chain (hl : ParentChain h.parent x l) {n : Nat} (hn : l.length ≤ n) :
    h.ancestorsFrom n x = l := by
  induction hl generalizing n with
  | root hx =>
    cases n with
    | zero => rfl
    | succ n => rw [ancestorsFrom, hx]
  | step hp _ ih =>
    cases n with
    | zero => simp at hn
    | succ n => simp only [ancestorsFrom, hp, ih (Nat.le_of_succ_le_succ hn)]

theorem Forest.enclosingScrolls_eq (hf : h.Forest) (hl : ParentChain h.parent x l) :
    h.enclosingScrolls x = l.filter fun s => (h.layer s).isScroll := by
  rw [enclosingScrolls, ancestorsFrom_chain hl (hf.chain_length_le hl)]

/-- What encloses the innermost enclosing scroll layer. -/
theorem Forest.enclosingScrolls_cons (hf : h.Forest) {s : LayerId} {rest : List LayerId}
    (hx : h.enclosingScrolls x = s :: rest) :
    s ∈ h.enclosingScrolls x ∧ (h.layer s).isScroll = true ∧ h.enclosingScrolls s = rest := by
  obtain ⟨l, hl⟩ := hf.linked.ends x
  have hmem : s ∈ h.enclosingScrolls x := hx ▸ List.mem_cons_self
  rw [hf.enclosingScrolls_eq hl] at hx
  have hs : (h.layer s).isScroll = true := by
    have hin : s ∈ l.filter fun s => (h.layer s).isScroll := hx ▸ List.mem_cons_self
    exact (List.mem_filter.mp hin).2
  refine ⟨hmem, hs, ?_⟩
  clear hmem
  induction hl with
  | root _ => cases hx
  | @step x p l hp hl ih =>
    rw [List.filter_cons] at hx
    split at hx
    · obtain ⟨rfl, hrest⟩ := List.cons.inj hx
      rw [hf.enclosingScrolls_eq hl, hrest]
    · exact ih hx

theorem Forest.enclosingScrolls_split (hf : h.Forest) {s : LayerId}
    (hs : s ∈ h.enclosingScrolls x) :
    ∃ pre, h.enclosingScrolls x = pre ++ s :: h.enclosingScrolls s := by
  obtain ⟨scrolls, hscrolls⟩ : ∃ scrolls, h.enclosingScrolls x = scrolls := ⟨_, rfl⟩
  induction scrolls generalizing x with
  | nil => rw [hscrolls] at hs; cases hs
  | cons t rest ih =>
    obtain ⟨-, -, hrest⟩ := hf.enclosingScrolls_cons hscrolls
    rw [hscrolls] at hs ⊢
    rcases List.mem_cons.mp hs with rfl | hs
    · exact ⟨[], by rw [hrest]; rfl⟩
    · obtain ⟨pre, hpre⟩ := ih (hrest ▸ hs) hrest
      exact ⟨t :: pre, by rw [← hrest, hpre]; rfl⟩

theorem Forest.enclosingScrolls_parent (hf : h.Forest) {p : LayerId} (hp : h.parent x = some p) :
    h.enclosingScrolls x =
      if (h.layer p).isScroll then p :: h.enclosingScrolls p else h.enclosingScrolls p := by
  obtain ⟨l, hl⟩ := hf.linked.ends p
  rw [hf.enclosingScrolls_eq hl, hf.enclosingScrolls_eq (.step hp hl), List.filter_cons]

/-- Enclosing scroll layers of a layer below a root lie below the root too. -/
theorem Forest.below_of_enclosing (hf : h.Forest) (hx : Below h.children root x) {s : LayerId}
    (hs : s ∈ h.enclosingScrolls x) (hroot : ∀ p, h.parent root ≠ some p) :
    Below h.children root s := by
  obtain ⟨l, hl⟩ := hf.linked.ends x
  rw [hf.enclosingScrolls_eq hl] at hs
  have hsx : Below h.children s x :=
    (hf.linked.below_iff hl).mpr (List.mem_cons_of_mem _ (List.mem_filter.mp hs).1)
  rcases hf.linked.below_total hx hsx with hrs | hsr
  · exact hrs
  · rcases Relation.ReflTransGen.cases_tail hsr with rfl | ⟨p, -, hp⟩
    · exact Below.refl _
    · exact absurd ((hf.linked.mem_iff p root).mp hp) (hroot p)

/-! ## Pixels on the way out and in -/

/-- On the way out a pixel moves by the offset that the contexts add up to on the way in. -/
theorem mem_offset_of_mem_clipThrough (scrolls : List LayerId) {r : SkIRect} {p : Pixel}
    (hp : p ∈ h.clipThrough scrolls r) {context : PaintContext} (hc : context.offset = (0, 0)) :
    p ∈ r.offset (h.contextWithin scrolls context).offset.1
      (h.contextWithin scrolls context).offset.2 := by
  induction scrolls generalizing r with
  | nil => simpa [contextWithin, hc, clipThrough] using hp
  | cons s scrolls ih =>
    have hin := ih (r := (h.layer s).onScreen r) hp
    simp only [Layer.onScreen, mem_offset, mem_inter] at hin
    have hr := hin.1
    simp only [contextWithin, List.foldr_cons, Layer.scrolledContext, mem_offset] at hr ⊢
    rwa [sub_add_eq_sub_sub, sub_add_eq_sub_sub]

theorem clipThrough_append (pre post : List LayerId) (r : SkIRect) :
    h.clipThrough (pre ++ post) r = h.clipThrough post (h.clipThrough pre r) :=
  List.foldl_append

/-- A pixel that gets out passes through the frame of every scroll layer on the way. -/
theorem mem_absFrame_of_mem_clipThrough {pre post : List LayerId} {s : LayerId} {r : SkIRect}
    {p : Pixel} (hp : p ∈ h.clipThrough (pre ++ s :: post) r) {context : PaintContext}
    (hc : context.offset = (0, 0)) :
    p ∈ (h.layer s).absFrame_.offset (h.contextWithin post context).offset.1
      (h.contextWithin post context).offset.2 := by
  rw [clipThrough_append] at hp
  have hin := mem_offset_of_mem_clipThrough post
    (r := (h.layer s).onScreen (h.clipThrough pre r)) hp hc
  simp only [Layer.onScreen, mem_offset, mem_inter] at hin ⊢
  exact hin.2

theorem contextWithin_damage (scrolls : List LayerId) (context : PaintContext) :
    (h.contextWithin scrolls context).damageRect = context.damageRect ∧
    (h.contextWithin scrolls context).supportPartialUpdate = context.supportPartialUpdate := by
  induction scrolls with
  | nil => exact ⟨rfl, rfl⟩
  | cons s scrolls ih => exact ih

/-- A layer that shows a damaged pixel needs painting. -/
theorem needsPainting_of_mem {s : Layer} {scrolls : List LayerId} {context : PaintContext}
    {p : Pixel} (hshown : s.isHidden_ = false) (htr : s.Translated)
    (hp : p ∈ s.bounds_.offset (h.contextWithin scrolls context).offset.1
      (h.contextWithin scrolls context).offset.2)
    (hd : Covered context.damageRect p) :
    s.needsPainting (h.contextWithin scrolls context) = true := by
  obtain ⟨dx, dy, -, habs, hbounds⟩ := htr
  have hframe : s.frame_.isEmpty = false := by
    have hne := isEmpty_eq_false_of_mem hp
    rwa [isEmpty_offset, hbounds, habs, isEmpty_offset] at hne
  have hscreen : s.screenBounds (h.contextWithin scrolls context).offset =
      s.bounds_.offset (h.contextWithin scrolls context).offset.1
        (h.contextWithin scrolls context).offset.2 := by
    unfold Layer.screenBounds
    split
    · rfl
    · rename_i hz
      rw [not_not.mp hz, offset_zero]
  have hhits : s.hits (h.contextWithin scrolls context) = true := by
    obtain ⟨d, hdm, hdi⟩ := exists_intersect_of_covered hp hd
    rw [Layer.hits, (contextWithin_damage scrolls context).1, List.any_eq_true]
    exact ⟨d, hdm, hscreen ▸ hdi⟩
  unfold Layer.needsPainting
  rw [hframe, hshown, hhits]
  simp

/-! ## A pre-paint -/

/-- What a layer emits is in the list of the innermost scroll layer around it. -/
theorem PrePainted.covered_of_emitted (hp : PrePainted h root context force h' context')
    (hf : h.Forest) (hroot : h.parent root = none) (hs : context.supportPartialUpdate = true)
    (hx : Below h'.children root x) {q : Pixel}
    (hq : Covered ((h.layer x).emitted (h'.layer x)) q) :
    Covered (h'.damageListOf context'.damageRect (h'.enclosingScrolls x)) q := by
  have hf' := hp.forest hf
  -- up from `x` through plain layers `y` that share its context
  have up : ∀ {y}, Below h'.children root y → h.SameContext y x →
      Covered (h'.damageListOf context'.damageRect (h'.enclosingScrolls y)) q := by
    intro y hy
    induction hy with
    | refl =>
      intro hsame
      have hnone : h'.parent root = none := by
        cases hpar : h'.parent root with
        | none => rfl
        | some p =>
          rw [hp.parent_of_parent hpar] at hroot
          cases hroot
      rw [hf'.enclosingScrolls_eq (.root hnone)]
      exact (hp.damage q).mpr (Or.inr ⟨hs, x, hsame, hq⟩)
    | @tail p c hbp hc ih =>
      intro hsame
      have hpar' := (hf'.linked.mem_iff p c).mp hc
      have hc' : c ∈ h.children p := (hf.linked.mem_iff p c).mpr (hp.parent_of_parent hpar')
      rw [hf'.enclosingScrolls_parent hpar', hp.isScroll_eq]
      cases hscroll : (h.layer p).isScroll with
      | true =>
        rw [if_pos rfl]
        have hbelow := ((hp.below_iff hf).mp hbp).1
        exact (hp.bitmap p hbelow hscroll q).mpr (Or.inr ⟨c, hc', x, hsame, hq⟩)
      | false =>
        rw [if_neg Bool.false_ne_true]
        exact ih (sameContext_head_iff.mpr (Or.inr ⟨hscroll, c, hc', hsame⟩))
  exact up hx .root

/-- Damage in the list of a layer gets out through scroll layers with empty masks. -/
theorem PrePainted.covered_clipThrough (hp : PrePainted h root context force h' context')
    (hf : h.Forest) (hroot : h.parent root = none) (hs : context.supportPartialUpdate = true)
    (scrolls : List LayerId) (hx : Below h'.children root x)
    (hscrolls : h'.enclosingScrolls x = scrolls)
    (hm : ∀ s ∈ scrolls, (h.layer s).invalidateMask_ = LayerInvalidateNone) {r : SkIRect}
    (hr : ∀ q ∈ r, Covered (h'.damageListOf context'.damageRect scrolls) q) :
    ∀ q ∈ h'.clipThrough scrolls r, Covered context'.damageRect q := by
  have hf' := hp.forest hf
  induction scrolls generalizing x r with
  | nil => exact hr
  | cons s rest ih =>
    obtain ⟨hmem, hscroll, hrest⟩ := hf'.enclosingScrolls_cons hscrolls
    rw [hp.isScroll_eq] at hscroll
    have hs' : Below h'.children root s := hf'.below_of_enclosing hx hmem (by
      intro p hpar
      rw [hp.parent_of_parent hpar] at hroot
      cases hroot)
    have hemit := Layer.emitted_onScreen hscroll (hm s List.mem_cons_self) hr
    apply ih hs' hrest (fun t ht => hm t (List.mem_cons_of_mem _ ht))
    intro q hq
    rw [← hrest]
    exact hp.covered_of_emitted hf hroot hs hs' (hemit q hq)

end

end Heap

end

namespace Heap

open TranslationSkia

/-- A layer to be painted in a scroll layer in a scroll layer, the outer one scrolled by twenty
pixels. -/
def nestedHeap : Heap := ofLayers
  [{ children_ := [1]
     frame_ := .MakeXYWH 0 0 100 100
     absFrame_ := .MakeXYWH 0 0 100 100
     bounds_ := .MakeXYWH 0 0 100 100
     invalidateMask_ := LayerInvalidateNone },
   { parent_ := some 0
     type_ := .scroll
     children_ := [2]
     frame_ := .MakeXYWH 10 10 50 50
     absFrame_ := .MakeXYWH 10 10 50 50
     bounds_ := .MakeXYWH 10 10 50 50
     scrollOffsetY_ := 20
     invalidateMask_ := LayerInvalidateNone },
   { parent_ := some 1
     type_ := .scroll
     children_ := [3]
     frame_ := .MakeXYWH 0 30 40 40
     absFrame_ := .MakeXYWH 0 30 40 40
     bounds_ := .MakeXYWH 0 30 40 40
     skipParentMatrix_ := true
     invalidateMask_ := LayerInvalidateNone },
   { parent_ := some 2
     frame_ := .MakeXYWH 5 5 10 10
     absFrame_ := .MakeXYWH 5 5 10 10
     bounds_ := .MakeXYWH 5 5 10 10
     skipParentMatrix_ := true
     invalidateMask_ := LayerPaintInvalidate }]

theorem nestedHeap_forest : nestedHeap.Forest :=
  ofLayers_forest (by decide) (by decide) (by decide) (by decide)

theorem nestedHeap_settled (x : LayerId) : (nestedHeap.layer x).Settled := by
  refine ofLayers_forall (P := Layer.Settled) (fun l hl => ?_) Layer.settled_default x
  simp only [List.mem_cons, List.not_mem_nil, or_false] at hl
  rcases hl with rfl | rfl | rfl | rfl <;>
    exact ⟨LawfulSkia.isIdentity_identity, rfl, rfl,
      fun _ => ⟨0, 0, LawfulSkia.translates_identity, (offset_zero _).symm, rfl⟩⟩

end Heap

end ReactNativeSkia
