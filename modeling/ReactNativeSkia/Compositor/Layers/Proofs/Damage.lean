import ReactNativeSkia.Compositor.Layers.PrePaint

/-!
# What the damage list covers

`addDamageRect` absorbs rectangles in both directions, so a damage list is only known by
the pixels it covers: adding a rectangle adds exactly its pixels. From this, the pixels that
one layer adds in `preRoll` and at the end of `ScrollLayer::prePaint`.
-/

namespace ReactNativeSkia

open Rect

theorem covered_addDamageRectFrom (r : SkIRect) (check : Bool) (ds : FrameDamages) (q : Pixel) :
    Covered (addDamageRectFrom r check ds) q ↔ Covered ds q ∨ q ∈ r := by
  induction ds generalizing check with
  | nil => simp [addDamageRectFrom]
  | cons d ds ih =>
    unfold addDamageRectFrom
    split
    · -- an erased rectangle lies within the new one
      rename_i hd
      rw [ih, covered_cons]
      have hsub : q ∈ d → q ∈ r := mem_of_contains hd.2
      tauto
    · split
      · -- the new rectangle lies within one that stays
        rename_i hd
        have hsub : q ∈ r → q ∈ d := mem_of_contains (Bool.and_eq_true _ _ ▸ hd).2
        rw [covered_cons]
        tauto
      · rw [covered_cons, covered_cons, ih]
        tauto

/-- Absorbed or not, a new rectangle adds exactly its own pixels. -/
@[simp] theorem covered_addDamageRect (ds : FrameDamages) (r : SkIRect) (q : Pixel) :
    Covered (addDamageRect ds r) q ↔ Covered ds q ∨ q ∈ r :=
  covered_addDamageRectFrom r true ds q

theorem covered_foldl_addDamageRect (rs ds : FrameDamages) (q : Pixel) :
    Covered (rs.foldl addDamageRect ds) q ↔ Covered ds q ∨ Covered rs q := by
  induction rs generalizing ds with
  | nil => simp
  | cons r rs ih =>
    rw [List.foldl_cons, ih, covered_addDamageRect, covered_cons]
    tauto

namespace PaintContext

@[simp] theorem addDamageRect_support (c : PaintContext) (r : SkIRect) :
    (c.addDamageRect r).supportPartialUpdate = c.supportPartialUpdate := rfl

@[simp] theorem covered_addDamageRect (c : PaintContext) (r : SkIRect) (q : Pixel) :
    Covered (c.addDamageRect r).damageRect q ↔ Covered c.damageRect q ∨ q ∈ r :=
  ReactNativeSkia.covered_addDamageRect c.damageRect r q

theorem ite_addDamageRect_support (b : Prop) [Decidable b] (c : PaintContext) (r : SkIRect) :
    (if b then c.addDamageRect r else c).supportPartialUpdate = c.supportPartialUpdate := by
  split <;> rfl

theorem covered_ite_addDamageRect (b : Prop) [Decidable b] (c : PaintContext) (r : SkIRect)
    (q : Pixel) :
    Covered (if b then c.addDamageRect r else c).damageRect q ↔
      Covered c.damageRect q ∨ (b ∧ q ∈ r) := by
  split <;> simp [*]

@[simp] theorem foldl_addDamageRect_support (rs : FrameDamages) (c : PaintContext) :
    (rs.foldl addDamageRect c).supportPartialUpdate = c.supportPartialUpdate := by
  induction rs generalizing c with
  | nil => rfl
  | cons r rs ih => rw [List.foldl_cons, ih, addDamageRect_support]

@[simp] theorem covered_foldl (rs : FrameDamages) (c : PaintContext) (q : Pixel) :
    Covered (rs.foldl addDamageRect c).damageRect q ↔ Covered c.damageRect q ∨ Covered rs q := by
  induction rs generalizing c with
  | nil => simp
  | cons r rs ih =>
    rw [List.foldl_cons, ih, covered_addDamageRect, covered_cons]
    tauto

end PaintContext

namespace Layer

variable [Skia]

/-- The geometry after `preRoll` with `forceLayout`. -/
def rolled (parent : Option Layer) (forceLayout : Bool) (l : Layer) : Layer :=
  if forceLayout || l.invalidateMask_.layout then l.layOut parent else l

/-- What `preRoll` adds to the damage of a context that supports partial updates: the old
bounds if the own layout bit is set and the new ones do not contain them, the new bounds if
any bit is set. -/
def preRollDamage (l : Layer) (newBounds : SkIRect) : FrameDamages :=
  (if l.invalidateMask_.layout && !l.bounds_.isEmpty && !newBounds.contains l.bounds_ then
    [l.bounds_] else []) ++
  (if l.invalidateMask_ ≠ LayerInvalidateNone then [newBounds] else [])

theorem preRoll_fst (parent : Option Layer) (l : Layer) (c : PaintContext) (force : Bool) :
    (l.preRoll parent c force).1 = l.rolled parent force := rfl

@[simp] theorem preRoll_support (parent : Option Layer) (l : Layer) (c : PaintContext)
    (force : Bool) :
    (l.preRoll parent c force).2.supportPartialUpdate = c.supportPartialUpdate := by
  simp only [preRoll, PaintContext.ite_addDamageRect_support]

theorem covered_preRoll (parent : Option Layer) (l : Layer) (c : PaintContext) (force : Bool)
    (q : Pixel) :
    Covered (l.preRoll parent c force).2.damageRect q ↔ Covered c.damageRect q ∨
      (c.supportPartialUpdate = true ∧
        Covered (l.preRollDamage (l.rolled parent force).bounds_) q) := by
  simp only [preRoll, preRollDamage, rolled, covered_append, covered_ite_singleton,
    PaintContext.covered_ite_addDamageRect, PaintContext.ite_addDamageRect_support,
    Bool.and_eq_true, decide_eq_true_eq]
  tauto

/-- The pixels `preRoll` adds, read off the mask: old bounds that are left out lie within the
new ones. -/
theorem covered_preRollDamage (l : Layer) (newBounds : SkIRect) (q : Pixel) :
    Covered (l.preRollDamage newBounds) q ↔
      (l.invalidateMask_ ≠ LayerInvalidateNone ∧ q ∈ newBounds) ∨
      (l.invalidateMask_.layout = true ∧ q ∈ l.bounds_) := by
  simp only [preRollDamage, covered_append, covered_ite_singleton, Bool.and_eq_true,
    Bool.not_eq_true']
  constructor
  · rintro (⟨⟨⟨hl, -⟩, -⟩, hq⟩ | hn)
    · exact Or.inr ⟨hl, hq⟩
    · exact Or.inl hn
  · rintro (hn | ⟨hl, hq⟩)
    · exact Or.inr hn
    · have hne : l.invalidateMask_ ≠ LayerInvalidateNone := by
        intro hnone
        rw [LayerInvalidateMask.layout_of_eq_none hnone] at hl
        cases hl
      cases hc : newBounds.contains l.bounds_ with
      | true => exact Or.inr ⟨hne, mem_of_contains hc hq⟩
      | false => exact Or.inl ⟨⟨⟨hl, isEmpty_eq_false_of_mem hq⟩, rfl⟩, hq⟩

/-! ## The end of `ScrollLayer::prePaint` -/

/-- What a scroll layer adds at its end: its bar, and unless it has damaged its whole frame
the damage of its children on the screen. -/
def scrollDamage (l : Layer) : FrameDamages :=
  (l.layOutScrollbar.scrollbar_.getScrollBarAbsFrame l.absFrame_ l.invalidateMask_).1 ::
  (if l.invalidateMask_ = LayerInvalidateNone then
    l.bitmapSurfaceDamage_.filterMap l.screenDirtyRect else [])

theorem layOutScrollbar_eq (l : Layer) :
    l.layOutScrollbar = l.withScrollbar l.layOutScrollbar.scrollbar_ := by
  unfold layOutScrollbar
  split <;> rfl

theorem addScrollBarDamage_fst (l : Layer) (c : PaintContext) :
    (l.addScrollBarDamage c).1 = l.withScrollbar (l.addScrollBarDamage c).1.scrollbar_ := by
  unfold addScrollBarDamage
  split <;> rfl

theorem addScrollBarDamage_support (l : Layer) (c : PaintContext) :
    (l.addScrollBarDamage c).2.supportPartialUpdate = c.supportPartialUpdate := by
  unfold addScrollBarDamage
  split
  · exact PaintContext.ite_addDamageRect_support _ _ _
  · rfl

theorem covered_addScrollBarDamage (l : Layer) (c : PaintContext) (q : Pixel) :
    Covered (l.addScrollBarDamage c).2.damageRect q ↔ Covered c.damageRect q ∨
      (c.supportPartialUpdate = true ∧
        q ∈ (l.scrollbar_.getScrollBarAbsFrame l.absFrame_ l.invalidateMask_).1) := by
  unfold addScrollBarDamage
  split
  · rename_i hs
    -- an empty bar is not added, and would add nothing
    have hempty : q ∈ (l.scrollbar_.getScrollBarAbsFrame l.absFrame_ l.invalidateMask_).1 →
        (l.scrollbar_.getScrollBarAbsFrame l.absFrame_ l.invalidateMask_).1 ≠ .MakeEmpty := by
      intro hq he
      rw [he] at hq
      exact not_mem_empty q hq
    simp only [PaintContext.covered_ite_addDamageRect]
    tauto
  · simp [*]

theorem addChildrenDamage_support (l : Layer) (c : PaintContext) :
    (l.addChildrenDamage c).supportPartialUpdate = c.supportPartialUpdate := by
  unfold addChildrenDamage
  split
  · exact PaintContext.foldl_addDamageRect_support _ _
  · rfl

theorem covered_addChildrenDamage (l : Layer) (c : PaintContext) (q : Pixel) :
    Covered (l.addChildrenDamage c).damageRect q ↔ Covered c.damageRect q ∨
      (c.supportPartialUpdate = true ∧ l.invalidateMask_ = LayerInvalidateNone ∧
        Covered (l.bitmapSurfaceDamage_.filterMap l.screenDirtyRect) q) := by
  unfold addChildrenDamage
  simp only [Bool.and_eq_true, decide_eq_true_eq]
  split
  · rename_i h
    simp [h.1, h.2]
  · tauto

theorem scrollPrePaintEnd_support (l : Layer) (c : PaintContext) :
    (l.scrollPrePaintEnd c).2.supportPartialUpdate = c.supportPartialUpdate := by
  unfold scrollPrePaintEnd
  exact (addChildrenDamage_support _ _).trans (addScrollBarDamage_support _ _)

/-- The end touches the scroll bar and the mask of the layer, nothing else. -/
theorem scrollPrePaintEnd_fst (l : Layer) (c : PaintContext) :
    (l.scrollPrePaintEnd c).1 =
      (l.withMask (l.invalidateMask_.and LayerRemoveInvalidate)).withScrollbar
        (l.scrollPrePaintEnd c).1.scrollbar_ := by
  unfold scrollPrePaintEnd
  dsimp only
  rw [addScrollBarDamage_fst, layOutScrollbar_eq]
  rfl

theorem covered_scrollPrePaintEnd (l : Layer) (c : PaintContext) (q : Pixel) :
    Covered (l.scrollPrePaintEnd c).2.damageRect q ↔ Covered c.damageRect q ∨
      (c.supportPartialUpdate = true ∧ Covered l.scrollDamage q) := by
  have hmask : l.layOutScrollbar.invalidateMask_ = l.invalidateMask_ := by
    rw [layOutScrollbar_eq, withScrollbar_invalidateMask_]
  have habs : l.layOutScrollbar.absFrame_ = l.absFrame_ := by
    rw [layOutScrollbar_eq, withScrollbar_absFrame_]
  have hrects : (l.layOutScrollbar.addScrollBarDamage c).1.bitmapSurfaceDamage_.filterMap
      (l.layOutScrollbar.addScrollBarDamage c).1.screenDirtyRect =
      l.bitmapSurfaceDamage_.filterMap l.screenDirtyRect := by
    rw [addScrollBarDamage_fst, layOutScrollbar_eq]
    rfl
  have hmask' : (l.layOutScrollbar.addScrollBarDamage c).1.invalidateMask_ =
      l.invalidateMask_ := by
    rw [addScrollBarDamage_fst, withScrollbar_invalidateMask_, hmask]
  unfold scrollPrePaintEnd
  dsimp only
  rw [covered_addChildrenDamage, covered_addScrollBarDamage, addScrollBarDamage_support, hmask',
    hrects, hmask, habs, scrollDamage, covered_cons]
  by_cases hn : l.invalidateMask_ = LayerInvalidateNone
  · simp only [hn, if_true]
    tauto
  · simp only [hn, if_false, covered_nil]
    tauto

/-! ## Without partial updates -/

theorem preRoll_unsupported (parent : Option Layer) (l : Layer) {c : PaintContext} (force : Bool)
    (hs : c.supportPartialUpdate = false) : (l.preRoll parent c force).2 = c := by
  simp [preRoll, hs]

theorem scrollPrePaintEnd_unsupported (l : Layer) {c : PaintContext}
    (hs : c.supportPartialUpdate = false) : (l.scrollPrePaintEnd c).2 = c := by
  simp [scrollPrePaintEnd, addScrollBarDamage, addChildrenDamage, hs]

end Layer

namespace Heap

variable [Skia]

theorem prePaintChildren_unsupported {prePaint : PrePaint}
    (hpre : ∀ h x c force h' c', c.supportPartialUpdate = false →
      prePaint h x c force = some (h', c') → c' = c)
    {enter : Layer → Layer} {marked : LayerInvalidateMask → Bool} {force : Bool}
    {cs : List LayerId} {index : Nat} {h h' : Heap} {c c' : PaintContext}
    {recycled : List (Nat × LayerId)} (hs : c.supportPartialUpdate = false)
    (hrun : prePaintChildren prePaint enter marked force cs index h c = some (h', c', recycled)) :
    c' = c := by
  induction cs generalizing index h c recycled with
  | nil =>
    cases hrun
    rfl
  | cons x cs ih =>
    obtain ⟨⟨h₁, c₁⟩, hx, hrest⟩ := Option.bind_eq_some_iff.mp hrun
    obtain ⟨⟨h₂, c₂, recycled₂⟩, hcs, hend⟩ := Option.bind_eq_some_iff.mp hrest
    obtain rfl := hpre _ _ _ _ _ _ hs hx
    cases hend
    exact ih hs hcs

/-- Without partial updates a pre-paint reports no damage to its context. -/
theorem prePaintLevels_unsupported (n : Nat) (h : Heap) (x : LayerId) (c : PaintContext)
    (force : Bool) (h' : Heap) (c' : PaintContext) (hs : c.supportPartialUpdate = false)
    (hrun : prePaintLevels n h x c force = some (h', c')) : c' = c := by
  induction n generalizing h x c force h' c' with
  | zero => cases hrun
  | succ n ih =>
    simp only [prePaintLevels] at hrun
    split at hrun
    · obtain ⟨⟨h₁, c₁, recycled⟩, -, hend⟩ := Option.bind_eq_some_iff.mp hrun
      have hc : c' = (((h₁.recycle x recycled).layer x).withBitmapSurfaceDamage
          c₁.damageRect |>.scrollPrePaintEnd
            ((h.layer x).preRoll (h.parentLayer x) c force).2).2 :=
        (congrArg Prod.snd (Option.some.inj hend)).symm
      rw [hc, Layer.preRoll_unsupported _ _ _ hs, Layer.scrollPrePaintEnd_unsupported _ hs]
    · obtain ⟨⟨h₁, c₁, recycled⟩, hcs, hend⟩ := Option.bind_eq_some_iff.mp hrun
      have hloop : prePaintChildren _ id _ _ _ 0 _
          ((h.layer x).preRoll (h.parentLayer x) c force).2 = some (h₁, c₁, recycled) := hcs
      have hc : c' = c₁ := (congrArg Prod.snd (Option.some.inj hend)).symm
      rw [Layer.preRoll_unsupported _ _ _ hs] at hloop
      rw [hc]
      exact prePaintChildren_unsupported (fun h x c force h' c' hs => ih h x c force h' c' hs) hs
        hloop

end Heap

end ReactNativeSkia
