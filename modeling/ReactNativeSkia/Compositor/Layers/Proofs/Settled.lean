import ReactNativeSkia.Compositor.Layers.Proofs.PrePaint

/-!
# Cached geometry of untransformed layers

Without own transforms and shadows every matrix is a whole-number translation, and the
absolute frame and the bounds of a layer that has been laid out are its frame moved by it.
Constructors, invalidations and pre-paints keep this.
-/

namespace ReactNativeSkia

variable [Skia]

namespace Layer

/-- Matrix and absolute frame fit the frame. -/
def Moved (l : Layer) : Prop :=
  ∃ dx dy, Skia.Translates l.absoluteTransformMatrix_ dx dy ∧ l.absFrame_ = l.frame_.offset dx dy

/-- A layer without transform whose absolute frame fits, unless it is due for layout. -/
structure Untransformed (l : Layer) : Prop where
  transform : Skia.isIdentity l.transformMatrix = true
  cached : l.invalidateMask_.layout = false → l.Moved

/-- Matrix, absolute frame and bounds fit the frame. -/
def Translated (l : Layer) : Prop :=
  ∃ dx dy, Skia.Translates l.absoluteTransformMatrix_ dx dy ∧
    l.absFrame_ = l.frame_.offset dx dy ∧ l.bounds_ = l.absFrame_

/-- A layer without transform and shadow whose cached geometry fits, unless it is due for
layout. No code sets `isHidden_`. -/
structure Settled (l : Layer) : Prop where
  transform : Skia.isIdentity l.transformMatrix = true
  shadow : l.isShadowVisible = false
  shown : l.isHidden_ = false
  cached : l.invalidateMask_.layout = false → l.Translated

theorem Translated.moved {l : Layer} (hl : l.Translated) : l.Moved := by
  obtain ⟨dx, dy, hd, habs, -⟩ := hl
  exact ⟨dx, dy, hd, habs⟩

theorem Settled.untransformed {l : Layer} (hl : l.Settled) : l.Untransformed where
  transform := hl.transform
  cached hlay := (hl.cached hlay).moved

/-- A layer just constructed is due for layout. -/
theorem settled_default [LawfulSkia] : ({} : Layer).Settled where
  transform := LawfulSkia.isIdentity_identity
  shadow := rfl
  shown := rfl
  cached hl := by cases hl

theorem Settled.invalidate {l : Layer} (hl : l.Settled) (mask : LayerInvalidateMask) :
    (l.invalidate mask).Settled where
  transform := hl.transform
  shadow := hl.shadow
  shown := hl.shown
  cached hm := hl.cached (by simp_all [Layer.invalidate])

/-- A new frame with the layout bit that goes with it. -/
theorem Settled.setFrame {l : Layer} (hl : l.Settled) (frame : SkIRect)
    {mask : LayerInvalidateMask} (hm : mask.layout = true) :
    ((l.setFrame frame).invalidate mask).Settled where
  transform := hl.transform
  shadow := hl.shadow
  shown := hl.shown
  cached hl := by simp [Layer.invalidate, hm] at hl

variable [LawfulSkia]

theorem Untransformed.layOut_moved {l : Layer} (hl : l.Untransformed) {parent : Option Layer}
    (hp : ∀ p, parent = some p → ∃ dx dy, Skia.Translates p.absoluteTransformMatrix_ dx dy) :
    (l.layOut parent).Moved := by
  have hm : ∃ dx dy, Skia.Translates (l.calculateTransformMatrix parent) dx dy := by
    rw [calculateTransformMatrix, applyTransform, if_pos hl.transform]
    cases parent with
    | none => exact ⟨0, 0, LawfulSkia.translates_identity⟩
    | some p =>
      rw [inheritedMatrix]
      split
      · exact ⟨0, 0, LawfulSkia.translates_identity⟩
      · obtain ⟨dx, dy, hd⟩ := hp p rfl
        exact ⟨_, _, LawfulSkia.translates_preTranslate _ dx dy _ _ hd⟩
  obtain ⟨dx, dy, hd⟩ := hm
  exact ⟨dx, dy, hd, hd l.frame_⟩

theorem Untransformed.rolled_moved {l : Layer} (hl : l.Untransformed) {parent : Option Layer}
    (force : Bool)
    (hp : ∀ p, parent = some p → ∃ dx dy, Skia.Translates p.absoluteTransformMatrix_ dx dy) :
    (l.rolled parent force).Moved := by
  unfold rolled
  split
  · exact hl.layOut_moved hp
  · rename_i hn
    simp only [Bool.or_eq_true, not_or, Bool.not_eq_true] at hn
    exact hl.cached hn.2

omit [LawfulSkia] in
/-- Without a shadow the bounds are the absolute frame. -/
theorem Settled.rolled_bounds {l : Layer} (hl : l.Settled) (parent : Option Layer)
    (force : Bool) : (l.rolled parent force).bounds_ = (l.rolled parent force).absFrame_ := by
  unfold rolled
  split
  · simp [layOut, hl.shadow]
  · rename_i hn
    simp only [Bool.or_eq_true, not_or, Bool.not_eq_true] at hn
    obtain ⟨dx, dy, -, -, hbounds⟩ := hl.cached hn.2
    exact hbounds

end Layer

namespace Heap

variable [LawfulSkia] {h h' : Heap} {root x : LayerId} {context context' : PaintContext}
  {force : Bool}

/-- A pre-paint of a root leaves every layer it reaches with a fitting absolute frame. -/
theorem PrePainted.moved (hp : PrePainted h root context force h' context') (hf : h.Forest)
    (hroot : h.parent root = none)
    (hs : ∀ y, Below h.children root y → (h.layer y).Untransformed)
    (hx : Below h.children root x) : (h'.layer x).Moved := by
  have step : ∀ {x}, Below h.children root x →
      (∀ p, h.parent x = some p → (h'.layer p).Moved) → (h'.layer x).Moved := by
    intro x hx hpar
    obtain ⟨b, hv⟩ := exists_visits_of_below force hx
    have hset : ∀ skip, ((h.layer x).setSkipParentMatrix skip).Untransformed := fun skip =>
      ⟨(hs x hx).transform, (hs x hx).cached⟩
    have hpar' : ∀ p, (h.parent x).map h'.layer = some p →
        ∃ dx dy, Skia.Translates p.absoluteTransformMatrix_ dx dy := by
      intro p hp'
      obtain ⟨q, hq, rfl⟩ := Option.map_eq_some_iff.mp hp'
      obtain ⟨dx, dy, hd, -⟩ := hpar q hq
      exact ⟨dx, dy, hd⟩
    rw [hp.visited x b hv]
    exact (hset _).rolled_moved b hpar'
  induction hx with
  | refl =>
    apply step (Below.refl root)
    intro p hp'
    rw [hroot] at hp'
    cases hp'
  | @tail p c hbp hc ih =>
    apply step (Below.tail hbp hc)
    intro q hq
    rw [(hf.linked.mem_iff p c).mp hc] at hq
    cases hq
    exact ih

/-- A pre-paint of a root leaves every layer it reaches with fitting geometry. -/
theorem PrePainted.translated (hp : PrePainted h root context force h' context') (hf : h.Forest)
    (hroot : h.parent root = none) (hs : ∀ y, Below h.children root y → (h.layer y).Settled)
    (hx : Below h.children root x) : (h'.layer x).Translated := by
  obtain ⟨dx, dy, hd, habs⟩ := hp.moved hf hroot (fun y hy => (hs y hy).untransformed) hx
  refine ⟨dx, dy, hd, habs, ?_⟩
  obtain ⟨b, hv⟩ := exists_visits_of_below force hx
  have hset : ∀ skip, ((h.layer x).setSkipParentMatrix skip).Settled := fun skip =>
    ⟨(hs x hx).transform, (hs x hx).shadow, (hs x hx).shown, (hs x hx).cached⟩
  rw [hp.visited x b hv]
  exact (hset _).rolled_bounds _ b

/-- Settled layers stay settled over a pre-paint of a root. -/
theorem PrePainted.settled (hp : PrePainted h root context force h' context') (hf : h.Forest)
    (hroot : h.parent root = none) (hs : ∀ y, Below h.children root y → (h.layer y).Settled)
    (hx : Below h.children root x) : (h'.layer x).Settled := by
  have htr := hp.translated hf hroot hs hx
  obtain ⟨b, hv⟩ := exists_visits_of_below force hx
  rw [hp.visited x b hv] at htr ⊢
  refine ⟨?_, ?_, ?_, fun _ => htr⟩ <;> rw [Layer.finished, Layer.rolled_eq]
  · exact (hs x hx).transform
  · exact (hs x hx).shadow
  · exact (hs x hx).shown

end Heap

end ReactNativeSkia
