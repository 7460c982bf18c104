import ReactNativeSkia.Compositor.Layers.Proofs.Damage
import ReactNativeSkia.Compositor.Layers.Proofs.Links

/-!
# What a pre-paint does to a forest

`Heap.PrePainted` describes the heap and the damage that `prePaint` of a layer leaves, layer
by layer: which layers are reached and with which `forceLayout`, the record each is left
with, the pixels each adds to the damage list of its context. `prePaintLevels_spec` shows
that in a forest `prePaint` returns and does just that.
-/

namespace ReactNativeSkia

open Rect

variable [Skia]

namespace Layer

/-- Only the matrix and the frame of the parent matter to the layout of a child. -/
theorem rolled_congr {p p' : Option Layer} (l : Layer) (force : Bool)
    (h : p.map (fun q => (q.absoluteTransformMatrix_, q.frame_)) =
      p'.map (fun q => (q.absoluteTransformMatrix_, q.frame_))) :
    l.rolled p force = l.rolled p' force := by
  have hm : l.inheritedMatrix p = l.inheritedMatrix p' := by
    cases p with
    | none =>
      cases p' with
      | none => rfl
      | some q' => cases h
    | some q =>
      cases p' with
      | none => cases h
      | some q' =>
        simp only [Option.map_some, Option.some.injEq, Prod.mk.injEq] at h
        simp only [inheritedMatrix, h.1, h.2]
  simp only [rolled, layOut, calculateTransformMatrix, hm]

/-- The record `l` after its pre-paint: laid out below `parent` if forced or due, its mask
reset but for the remove bit, its vector and pointer as the removals leave them. The damage
list and the scroll bar of a scroll layer are those of `l'`. -/
def finished (l l' : Layer) (parent : Option Layer) (force skip unlink : Bool)
    (kept : List LayerId) : Layer :=
  ((((((l.setSkipParentMatrix skip).rolled parent force).withMask
    (l.invalidateMask_.and LayerRemoveInvalidate)).withChildren kept).withParent
      (if unlink then none else l.parent_)).withBitmapSurfaceDamage
        l'.bitmapSurfaceDamage_).withScrollbar l'.scrollbar_

section
variable (l l' : Layer) (parent : Option Layer) (force skip unlink : Bool) (kept : List LayerId)

/-- Layout changes nothing but the cached geometry. -/
theorem rolled_eq : l.rolled parent force = l.withGeometry
    (l.rolled parent force).absoluteTransformMatrix_ (l.rolled parent force).frameBounds_
    (l.rolled parent force).absFrame_ (l.rolled parent force).bounds_ := by
  unfold rolled
  split <;> rfl

@[simp] theorem rolled_children_ : (l.rolled parent force).children_ = l.children_ := by
  rw [rolled_eq]; rfl

@[simp] theorem rolled_parent_ : (l.rolled parent force).parent_ = l.parent_ := by
  rw [rolled_eq]; rfl

@[simp] theorem rolled_invalidateMask_ :
    (l.rolled parent force).invalidateMask_ = l.invalidateMask_ := by
  rw [rolled_eq]; rfl

@[simp] theorem rolled_type_ : (l.rolled parent force).type_ = l.type_ := by
  rw [rolled_eq]; rfl

@[simp] theorem rolled_frame_ : (l.rolled parent force).frame_ = l.frame_ := by
  rw [rolled_eq]; rfl

@[simp] theorem rolled_bitmapSurfaceDamage_ :
    (l.rolled parent force).bitmapSurfaceDamage_ = l.bitmapSurfaceDamage_ := by
  rw [rolled_eq]; rfl

@[simp] theorem finished_children_ :
    (l.finished l' parent force skip unlink kept).children_ = kept := rfl

@[simp] theorem finished_parent_ : (l.finished l' parent force skip unlink kept).parent_ =
    if unlink then none else l.parent_ := rfl

@[simp] theorem finished_invalidateMask_ :
    (l.finished l' parent force skip unlink kept).invalidateMask_ =
      l.invalidateMask_.and LayerRemoveInvalidate := rfl

end

/-- The rectangles a visited layer adds to its context, from its record before (`l`) and
after (`l'`). -/
def emitted (l l' : Layer) : FrameDamages :=
  l.preRollDamage l'.bounds_ ++
    if l.isScroll then
      ((l'.withMask l.invalidateMask_).withScrollbar l.scrollbar_).scrollDamage
    else []

end Layer

namespace Heap

/-- `prePaint` of `root` with `force` reaches a layer with this `forceLayout`. -/
inductive Visits (h : Heap) (root : LayerId) (force : Bool) : LayerId → Bool → Prop where
  | root : Visits h root force root force
  | child {p c : LayerId} {b : Bool} (hp : Visits h root force p b) (hc : c ∈ h.children p) :
      Visits h root force c (b || (h.layer p).invalidateMask_.layout)

/-- The layer adds its damage to the context that `root` gets: no scroll layer lies between
the two. -/
inductive SameContext (h : Heap) (root : LayerId) : LayerId → Prop where
  | root : SameContext h root root
  | child {p c : LayerId} (hp : SameContext h root p) (hplain : (h.layer p).isScroll = false)
      (hc : c ∈ h.children p) : SameContext h root c

/-- The children that are not marked for removal. -/
def kept (h : Heap) (x : LayerId) : List LayerId :=
  (h.children x).filter fun c => !(h.layer c).invalidateMask_.remove

theorem mem_kept_iff {h : Heap} {x c : LayerId} : c ∈ h.kept x ↔
    c ∈ h.children x ∧ (h.layer c).invalidateMask_.remove = false := by
  rw [kept, List.mem_filter, Bool.not_eq_true']

/-- A pre-paint of `root` reaches the layer and takes it out of its parent. -/
def Recycled (h : Heap) (root x : LayerId) : Prop :=
  Below h.children root x ∧ x ≠ root ∧ (h.layer x).invalidateMask_.remove = true

def parentIsScroll (h : Heap) (x : LayerId) : Bool := (h.parentLayer x).any Layer.isScroll

section
variable {h h' : Heap} {root x c : LayerId} {force b : Bool}

theorem Visits.reached (hv : h.Visits root force x b) : Below h.children root x := by
  induction hv with
  | root => exact Below.refl root
  | child _ hc ih => exact ih.tail hc

/-- How the layer was reached: from the caller, or from its parent. -/
theorem Visits.cases_last (hv : h.Visits root force x b) : (x = root ∧ b = force) ∨
    ∃ p b', h.Visits root force p b' ∧ x ∈ h.children p ∧
      b = (b' || (h.layer p).invalidateMask_.layout) := by
  cases hv with
  | root => exact Or.inl ⟨rfl, rfl⟩
  | child hp hc => exact Or.inr ⟨_, _, hp, hc, rfl⟩

theorem exists_visits_of_below (force : Bool) (hb : Below h.children root x) :
    ∃ b, h.Visits root force x b := by
  induction hb with
  | refl => exact ⟨force, .root⟩
  | tail _ hc ih =>
    obtain ⟨b, hv⟩ := ih
    exact ⟨_, hv.child hc⟩

theorem SameContext.reached (hs : h.SameContext root x) : Below h.children root x := by
  induction hs with
  | root => exact Below.refl root
  | child _ _ hc ih => exact ih.tail hc

theorem visits_head_iff : h.Visits root force x b ↔ (x = root ∧ b = force) ∨
    ∃ c ∈ h.children root, h.Visits c (force || (h.layer root).invalidateMask_.layout) x b := by
  constructor
  · intro hv
    induction hv with
    | root => exact Or.inl ⟨rfl, rfl⟩
    | child _ hc ih =>
      rcases ih with ⟨rfl, rfl⟩ | ⟨d, hd, hv⟩
      · exact Or.inr ⟨_, hc, .root⟩
      · exact Or.inr ⟨d, hd, hv.child hc⟩
  · rintro (⟨rfl, rfl⟩ | ⟨c, hc, hv⟩)
    · exact .root
    · induction hv with
      | root => exact Visits.root.child hc
      | child _ hd ih => exact ih.child hd

theorem sameContext_head_iff : h.SameContext root x ↔ x = root ∨
    ((h.layer root).isScroll = false ∧ ∃ c ∈ h.children root, h.SameContext c x) := by
  constructor
  · intro hs
    induction hs with
    | root => exact Or.inl rfl
    | child _ hplain hc ih =>
      rcases ih with rfl | ⟨hroot, d, hd, hs⟩
      · exact Or.inr ⟨hplain, _, hc, .root⟩
      · exact Or.inr ⟨hroot, d, hd, hs.child hplain hc⟩
  · rintro (rfl | ⟨hroot, c, hc, hs⟩)
    · exact .root
    · induction hs with
      | root => exact SameContext.root.child hroot hc
      | child _ hplain hd ih => exact ih.child hplain hd

/-- What the traversal looks at agrees in both heaps from `a` down. -/
def AgreeBelow (h h' : Heap) (a : LayerId) : Prop :=
  ∀ x, Below h.children a x → h'.children x = h.children x ∧
    (h'.layer x).invalidateMask_ = (h.layer x).invalidateMask_ ∧
    (h'.layer x).type_ = (h.layer x).type_

namespace AgreeBelow

variable {a : LayerId}

theorem below_iff (hag : AgreeBelow h h' a) :
    Below h'.children a x ↔ Below h.children a x :=
  Below.congr fun y hy => (hag y hy).1

theorem symm (hag : AgreeBelow h h' a) : AgreeBelow h' h a := by
  intro x hx
  obtain ⟨hc, hm, ht⟩ := hag x (hag.below_iff.mp hx)
  exact ⟨hc.symm, hm.symm, ht.symm⟩

theorem visits (hag : AgreeBelow h h' a) (hv : h.Visits a force x b) :
    h'.Visits a force x b := by
  induction hv with
  | root => exact .root
  | @child p c b hp hc ih =>
    obtain ⟨hch, hm, -⟩ := hag p hp.reached
    rw [← hm]
    exact ih.child (hch ▸ hc)

theorem sameContext (hag : AgreeBelow h h' a) (hs : h.SameContext a x) :
    h'.SameContext a x := by
  induction hs with
  | root => exact .root
  | @child p c hp hplain hc ih =>
    obtain ⟨hch, -, ht⟩ := hag p hp.reached
    exact ih.child (by simpa only [Layer.isScroll, ht] using hplain) (hch ▸ hc)

theorem sameContext_iff (hag : AgreeBelow h h' a) :
    h'.SameContext a x ↔ h.SameContext a x :=
  ⟨hag.symm.sameContext, hag.sameContext⟩

end AgreeBelow

end

/-! ## The specification -/

/-- The outcome of `prePaint` of `root`. -/
structure PrePainted (h : Heap) (root : LayerId) (context : PaintContext) (force : Bool)
    (h' : Heap) (context' : PaintContext) : Prop where
  nextId : h'.nextId = h.nextId
  support : context'.supportPartialUpdate = context.supportPartialUpdate
  unreached : ∀ x, ¬ Below h.children root x → h'.layer x = h.layer x
  visited : ∀ x b, h.Visits root force x b →
    h'.layer x = (h.layer x).finished (h'.layer x) ((h.parent x).map h'.layer) b
      ((h.layer x).skipParentMatrix_ || (decide (x ≠ root) && h.parentIsScroll x))
      (decide (x ≠ root) && (h.layer x).invalidateMask_.remove) (h.kept x)
  damage : ∀ q, Covered context'.damageRect q ↔ Covered context.damageRect q ∨
    (context.supportPartialUpdate = true ∧
      ∃ x, h.SameContext root x ∧ Covered ((h.layer x).emitted (h'.layer x)) q)
  bitmap : ∀ s, Below h.children root s → (h.layer s).isScroll = true → ∀ q,
    Covered (h'.layer s).bitmapSurfaceDamage_ q ↔ Covered (h.layer s).bitmapSurfaceDamage_ q ∨
      ∃ c ∈ h.children s, ∃ x, h.SameContext c x ∧
        Covered ((h.layer x).emitted (h'.layer x)) q

/-- The outcome of the loop over the children `cs` of one layer; `skips` tells whether the
loop sets `skipParentMatrix_`. The removals come after it. -/
structure ChildrenPainted (h : Heap) (cs : List LayerId) (skips : Bool) (context : PaintContext)
    (force : Bool) (h' : Heap) (context' : PaintContext) : Prop where
  nextId : h'.nextId = h.nextId
  support : context'.supportPartialUpdate = context.supportPartialUpdate
  unreached : ∀ x, (∀ c ∈ cs, ¬ Below h.children c x) → h'.layer x = h.layer x
  visited : ∀ c ∈ cs, ∀ x b, h.Visits c force x b →
    h'.layer x = (h.layer x).finished (h'.layer x) ((h.parent x).map h'.layer) b
      ((h.layer x).skipParentMatrix_ || if x = c then skips else h.parentIsScroll x)
      (decide (x ≠ c) && (h.layer x).invalidateMask_.remove) (h.kept x)
  damage : ∀ q, Covered context'.damageRect q ↔ Covered context.damageRect q ∨
    (context.supportPartialUpdate = true ∧ ∃ c ∈ cs,
      ∃ x, h.SameContext c x ∧ Covered ((h.layer x).emitted (h'.layer x)) q)
  bitmap : ∀ c ∈ cs, ∀ s, Below h.children c s → (h.layer s).isScroll = true → ∀ q,
    Covered (h'.layer s).bitmapSurfaceDamage_ q ↔ Covered (h.layer s).bitmapSurfaceDamage_ q ∨
      ∃ d ∈ h.children s, ∃ x, h.SameContext d x ∧
        Covered ((h.layer x).emitted (h'.layer x)) q

namespace PrePainted

variable {h h' : Heap} {root : LayerId} {context context' : PaintContext} {force : Bool}

theorem children_eq (hp : PrePainted h root context force h' context') (x : LayerId) :
    (Below h.children root x ∧ h'.children x = h.kept x) ∨
    (¬ Below h.children root x ∧ h'.children x = h.children x) := by
  by_cases hx : Below h.children root x
  · obtain ⟨b, hv⟩ := exists_visits_of_below force hx
    refine Or.inl ⟨hx, ?_⟩
    unfold children
    rw [hp.visited x b hv, Layer.finished_children_]
  · refine Or.inr ⟨hx, ?_⟩
    unfold children
    rw [hp.unreached x hx]

theorem parent_of_recycled (hp : PrePainted h root context force h' context') {x : LayerId}
    (hx : h.Recycled root x) : h'.parent x = none := by
  obtain ⟨hb, hne, hm⟩ := hx
  obtain ⟨b, hv⟩ := exists_visits_of_below force hb
  unfold parent
  rw [hp.visited x b hv, Layer.finished_parent_]
  simp [hne, hm]

theorem parent_of_not_recycled (hp : PrePainted h root context force h' context') {x : LayerId}
    (hx : ¬ h.Recycled root x) : h'.parent x = h.parent x := by
  by_cases hb : Below h.children root x
  · obtain ⟨b, hv⟩ := exists_visits_of_below force hb
    unfold parent
    rw [hp.visited x b hv, Layer.finished_parent_, if_neg]
    simp only [Bool.and_eq_true, decide_eq_true_eq]
    exact fun hc => hx ⟨hb, hc⟩
  · unfold parent
    rw [hp.unreached x hb]

theorem mask_eq (hp : PrePainted h root context force h' context') {x : LayerId}
    (hx : Below h.children root x) :
    (h'.layer x).invalidateMask_ = (h.layer x).invalidateMask_.and LayerRemoveInvalidate := by
  obtain ⟨b, hv⟩ := exists_visits_of_below force hx
  rw [hp.visited x b hv, Layer.finished_invalidateMask_]

theorem isScroll_eq (hp : PrePainted h root context force h' context') (x : LayerId) :
    (h'.layer x).isScroll = (h.layer x).isScroll := by
  by_cases hx : Below h.children root x
  · obtain ⟨b, hv⟩ := exists_visits_of_below force hx
    rw [hp.visited x b hv, Layer.finished, Layer.rolled_eq]
    rfl
  · rw [hp.unreached x hx]

theorem scrollOffset_eq (hp : PrePainted h root context force h' context') (x : LayerId) :
    (h'.layer x).scrollOffsetX_ = (h.layer x).scrollOffsetX_ ∧
      (h'.layer x).scrollOffsetY_ = (h.layer x).scrollOffsetY_ := by
  by_cases hx : Below h.children root x
  · obtain ⟨b, hv⟩ := exists_visits_of_below force hx
    rw [hp.visited x b hv, Layer.finished, Layer.rolled_eq]
    exact ⟨rfl, rfl⟩
  · rw [hp.unreached x hx]
    exact ⟨rfl, rfl⟩

theorem parent_of_parent (hp : PrePainted h root context force h' context') {x p : LayerId}
    (hx : h'.parent x = some p) : h.parent x = some p := by
  by_cases hr : h.Recycled root x
  · rw [hp.parent_of_recycled hr] at hx
    cases hx
  · rwa [hp.parent_of_not_recycled hr] at hx

/-- A pre-paint removes links on both sides only. -/
theorem forest (hp : PrePainted h root context force h' context') (hf : h.Forest) :
    h'.Forest := by
  have hsub : ∀ x, h'.parent x = h.parent x ∨ h'.parent x = none := by
    intro x
    by_cases hx : h.Recycled root x
    · exact Or.inr (hp.parent_of_recycled hx)
    · exact Or.inl (hp.parent_of_not_recycled hx)
  refine ⟨⟨?_, ?_, ?_⟩, ?_⟩
  · intro p c
    have hlink : ∀ {q}, h'.parent c = some q → h.parent c = some q := by
      intro q hq
      rcases hsub c with heq | hn
      · rw [← heq, hq]
      · rw [hn] at hq; cases hq
    rcases hp.children_eq p with ⟨hb, hch⟩ | ⟨hb, hch⟩
    · rw [hch, mem_kept_iff, hf.linked.mem_iff]
      constructor
      · rintro ⟨hpc, hm⟩
        rw [hp.parent_of_not_recycled, hpc]
        rintro ⟨-, -, hm'⟩
        rw [hm] at hm'
        cases hm'
      · intro hpc
        refine ⟨hlink hpc, ?_⟩
        have hc : c ∈ h.children p := (hf.linked.mem_iff p c).mpr (hlink hpc)
        have hne : c ≠ root := by
          rintro rfl
          exact hf.linked.not_below_of_child hc hb
        cases hm : (h.layer c).invalidateMask_.remove with
        | false => rfl
        | true =>
          rw [hp.parent_of_recycled ⟨hb.tail hc, hne, hm⟩] at hpc
          cases hpc
    · rw [hch, hf.linked.mem_iff]
      constructor
      · intro hpc
        rw [hp.parent_of_not_recycled, hpc]
        rintro ⟨hbc, hne, -⟩
        rcases Relation.ReflTransGen.cases_tail hbc with rfl | ⟨q, hq, hcq⟩
        · exact hne rfl
        · have hqp := (hf.linked.mem_iff q c).mp hcq
          rw [hpc] at hqp
          cases hqp
          exact hb hq
      · exact hlink
  · intro p
    rcases hp.children_eq p with ⟨-, hch⟩ | ⟨-, hch⟩
    · rw [hch]
      exact (hf.linked.nodup p).filter _
    · rw [hch]
      exact hf.linked.nodup p
  · exact fun x => (hf.linked.ends x).mono hsub
  · intro x p hx
    rw [hp.nextId]
    rcases hsub x with heq | hn
    · exact hf.range x p (heq ▸ hx)
    · rw [hn] at hx; cases hx

end PrePainted

end Heap

end ReactNativeSkia
