import ReactNativeSkia.Compositor.Layers.Proofs.PrePaint

/-!
# When the damage of a pre-paint is sound

Old and new pixels of every layer that changes should be in the damage list after a
pre-paint. For plain layers this comes down to the layers that `forceLayout` moves although
they have no layout bit of their own, and to those that leave the tree below a marked layer:
`preRoll` adds nothing for them.
-/

namespace ReactNativeSkia

open Rect

section
variable [Skia]

namespace Heap

/-- The layer leaves the tree of `root`, itself or with an ancestor. -/
def Leaves (h : Heap) (root x : LayerId) : Prop := ∃ y, h.Recycled root y ∧ Below h.children y x

/-- What the pre-paint of `root` will make of a layer, found by walking up to `root`: the
`forceLayout` it is reached with, and its record laid out below that of its parent. -/
def laidOutFrom (h : Heap) (root : LayerId) (force : Bool) : Nat → LayerId → Bool × Layer
  | 0, x => (force, (h.layer x).rolled (h.parentLayer x) force)
  | n + 1, x =>
    if x = root then (force, (h.layer x).rolled (h.parentLayer x) force)
    else
      match h.parent x with
      | none => (force, (h.layer x).rolled none force)
      | some p =>
        let (b, l) := h.laidOutFrom root force n p
        let b := b || (h.layer p).invalidateMask_.layout
        (b, (h.layer x).rolled (some l) b)

/-- The bounds that frames, transforms and masks give a layer in the pre-paint of `root`. -/
def newBounds (h : Heap) (root : LayerId) (force : Bool) (x : LayerId) : SkIRect :=
  (h.laidOutFrom root force h.nextId x).2.bounds_

/-- The pixels that `preRoll` adds below `root`: the new bounds of invalidated layers and the
old bounds of those with a layout bit. -/
def Damaged (h : Heap) (root : LayerId) (force : Bool) (q : Pixel) : Prop :=
  ∃ y, Below h.children root y ∧
    (((h.layer y).invalidateMask_ ≠ LayerInvalidateNone ∧ q ∈ h.newBounds root force y) ∨
      ((h.layer y).invalidateMask_.layout = true ∧ q ∈ (h.layer y).bounds_))

/-- Every layer that changes place without a layout bit of its own, or leaves the tree with
an empty mask, lies within the damage that other layers cause. -/
def OthersCover (h : Heap) (root : LayerId) (damage : FrameDamages) (force : Bool) : Prop :=
  ∀ x, Below h.children root x → (h.layer x).invalidateMask_.layout = false →
    (h.newBounds root force x ≠ (h.layer x).bounds_ ∨
      (h.Leaves root x ∧ (h.layer x).invalidateMask_ = LayerInvalidateNone)) →
    (∀ q ∈ (h.layer x).bounds_, Covered damage q ∨ h.Damaged root force q) ∧
    ((h.layer x).invalidateMask_ = LayerInvalidateNone → ¬ h.Leaves root x →
      ∀ q ∈ h.newBounds root force x, Covered damage q ∨ h.Damaged root force q)

/-- Every layer of the tree that moves, is invalidated or leaves has its old pixels in the
damage, and its new ones if it stays. -/
def DamageSound (h : Heap) (root : LayerId) (h' : Heap) (damage : FrameDamages) : Prop :=
  ∀ x, Below h.children root x →
    ((h'.layer x).bounds_ ≠ (h.layer x).bounds_ ∨
      (h.layer x).invalidateMask_ ≠ LayerInvalidateNone ∨ h.Leaves root x) →
    (∀ q ∈ (h.layer x).bounds_, Covered damage q) ∧
    (¬ h.Leaves root x → ∀ q ∈ (h'.layer x).bounds_, Covered damage q)

/-- No scroll layers from `root` down. -/
def PlainBelow (h : Heap) (root : LayerId) : Prop :=
  ∀ x, Below h.children root x → (h.layer x).isScroll = false

section
variable {h h' : Heap} {root x : LayerId} {force b : Bool} {context context' : PaintContext}

theorem PlainBelow.sameContext_iff (hp : h.PlainBelow root) :
    h.SameContext root x ↔ Below h.children root x := by
  refine ⟨SameContext.reached, ?_⟩
  intro hb
  induction hb with
  | refl => exact .root
  | tail hp' hc ih => exact ih.child (hp _ hp') hc

/-- The children vectors after a pre-paint reach what has not left. -/
theorem PrePainted.below_iff (hp : PrePainted h root context force h' context') (hf : h.Forest) :
    Below h'.children root x ↔ Below h.children root x ∧ ¬ h.Leaves root x := by
  have hkept : ∀ {p c}, Below h.children root p → (c ∈ h'.children p ↔
      c ∈ h.children p ∧ (h.layer c).invalidateMask_.remove = false) := by
    intro p c hb
    rcases hp.children_eq p with ⟨-, hch⟩ | ⟨hn, -⟩
    · rw [hch, mem_kept_iff]
    · exact absurd hb hn
  constructor
  · intro hb
    induction hb with
    | refl =>
      refine ⟨Below.refl root, ?_⟩
      rintro ⟨y, ⟨hry, hne, -⟩, hyr⟩
      exact hne (hf.linked.below_antisymm hyr hry)
    | @tail p c _ hc ih =>
      obtain ⟨hbp, hstay⟩ := ih
      obtain ⟨hc, hm⟩ := (hkept hbp).mp hc
      refine ⟨hbp.tail hc, ?_⟩
      rintro ⟨y, hy, hyc⟩
      rcases Relation.ReflTransGen.cases_tail hyc with rfl | ⟨q, hyq, hcq⟩
      · rw [hy.2.2] at hm
        cases hm
      · have hqp : q = p := Option.some.inj
          (((hf.linked.mem_iff q c).mp hcq).symm.trans ((hf.linked.mem_iff p c).mp hc))
        exact hstay ⟨y, hy, hqp ▸ hyq⟩
  · rintro ⟨hb, hstay⟩
    induction hb with
    | refl => exact Below.refl root
    | @tail p c hbp hc ih =>
      have hstay' : ¬ h.Leaves root p := by
        rintro ⟨y, hy, hyp⟩
        exact hstay ⟨y, hy, hyp.tail hc⟩
      refine (ih hstay').tail ((hkept hbp).mpr ⟨hc, ?_⟩)
      cases hm : (h.layer c).invalidateMask_.remove with
      | false => rfl
      | true =>
        refine absurd ⟨c, ⟨Below.tail hbp hc, ?_, hm⟩, Below.refl c⟩ hstay
        rintro rfl
        exact hf.linked.not_below_of_child hc hbp

/-- Among plain layers `skipParentMatrix_` stays as it is. -/
theorem PrePainted.rolled_of_plain (hp : PrePainted h root context force h' context')
    (hf : h.Forest) (hplain : h.PlainBelow root) (hv : h.Visits root force x b) :
    ((h'.layer x).absoluteTransformMatrix_, (h'.layer x).frame_) =
      (((h.layer x).rolled ((h.parent x).map h'.layer) b).absoluteTransformMatrix_,
        ((h.layer x).rolled ((h.parent x).map h'.layer) b).frame_) ∧
    (h'.layer x).bounds_ = ((h.layer x).rolled ((h.parent x).map h'.layer) b).bounds_ := by
  have hskip : ((h.layer x).skipParentMatrix_ || (decide (x ≠ root) && h.parentIsScroll x)) =
      (h.layer x).skipParentMatrix_ := by
    by_cases hx : x = root
    · simp [hx]
    · rcases Relation.ReflTransGen.cases_tail hv.reached with rfl | ⟨p, hbp, hxp⟩
      · exact absurd rfl hx
      · simp [parentIsScroll, parentLayer, (hf.linked.mem_iff p x).mp hxp, hplain p hbp]
  have hvis := hp.visited x b hv
  rw [hskip] at hvis
  rw [hvis]
  exact ⟨rfl, rfl⟩

/-- Among plain layers the walk up finds what the pre-paint has done. -/
theorem PrePainted.laidOutFrom_eq (hp : PrePainted h root context force h' context')
    (hf : h.Forest) (hplain : h.PlainBelow root) (hv : h.Visits root force x b)
    {l : List LayerId} (hl : ParentChain h.parent x l) {n : Nat} (hn : l.length ≤ n) :
    (h.laidOutFrom root force n x).1 = b ∧
    ((h.laidOutFrom root force n x).2.absoluteTransformMatrix_,
      (h.laidOutFrom root force n x).2.frame_) =
      ((h'.layer x).absoluteTransformMatrix_, (h'.layer x).frame_) ∧
    (h.laidOutFrom root force n x).2.bounds_ = (h'.layer x).bounds_ := by
  induction hv generalizing n l with
  | root =>
    have hpar : (h.parent root).map h'.layer = h.parentLayer root := by
      unfold parentLayer
      cases hq : h.parent root with
      | none => rfl
      | some q =>
        rw [Option.map_some, Option.map_some, hp.unreached]
        exact hf.linked.not_below_of_child ((hf.linked.mem_iff q root).mpr hq)
    obtain ⟨hgeo, hbounds⟩ := hp.rolled_of_plain hf hplain .root
    rw [hpar] at hgeo hbounds
    have hself : h.laidOutFrom root force n root =
        (force, (h.layer root).rolled (h.parentLayer root) force) := by
      cases n with
      | zero => rfl
      | succ n => rw [laidOutFrom, if_pos rfl]
    rw [hself]
    exact ⟨rfl, hgeo.symm, hbounds.symm⟩
  | @child p c b hv hc ih =>
    have hpar := (hf.linked.mem_iff p c).mp hc
    have hne : c ≠ root := by
      rintro rfl
      exact hf.linked.not_below_of_child hc hv.reached
    obtain ⟨m, rfl, hm⟩ := hl.cases_parent hpar
    cases n with
    | zero => simp at hn
    | succ n =>
      obtain ⟨hb, hgeo, -⟩ := ih hm (Nat.le_of_succ_le_succ hn)
      obtain ⟨hgeo', hbounds'⟩ := hp.rolled_of_plain hf hplain (hv.child hc)
      have hroll : (h.layer c).rolled (some (h.laidOutFrom root force n p).2)
          (b || (h.layer p).invalidateMask_.layout) =
          (h.layer c).rolled ((h.parent c).map h'.layer)
            (b || (h.layer p).invalidateMask_.layout) :=
        Layer.rolled_congr _ _ (by rw [hpar]; simpa using hgeo)
      have hstep : h.laidOutFrom root force (n + 1) c =
          (b || (h.layer p).invalidateMask_.layout,
            (h.layer c).rolled (some (h.laidOutFrom root force n p).2)
              (b || (h.layer p).invalidateMask_.layout)) := by
        rw [laidOutFrom, if_neg hne, hpar]
        simp only [hb]
      rw [hstep, hroll]
      exact ⟨rfl, hgeo'.symm, hbounds'.symm⟩

theorem PrePainted.newBounds_eq (hp : PrePainted h root context force h' context')
    (hf : h.Forest) (hplain : h.PlainBelow root) (hx : Below h.children root x) :
    h.newBounds root force x = (h'.layer x).bounds_ := by
  obtain ⟨b, hv⟩ := exists_visits_of_below force hx
  obtain ⟨l, hl⟩ := hf.linked.ends x
  exact (hp.laidOutFrom_eq hf hplain hv hl (hf.chain_length_le hl)).2.2

/-- Among plain layers the damage list gains exactly the damaged pixels. -/
theorem PrePainted.covered_iff (hp : PrePainted h root context force h' context')
    (hf : h.Forest) (hplain : h.PlainBelow root) (hs : context.supportPartialUpdate = true)
    (q : Pixel) :
    Covered context'.damageRect q ↔ Covered context.damageRect q ∨ h.Damaged root force q := by
  rw [hp.damage]
  refine or_congr Iff.rfl ?_
  simp only [hs, true_and, hplain.sameContext_iff]
  refine exists_congr fun y => and_congr_right fun hy => ?_
  rw [Layer.emitted, hplain y hy, if_neg Bool.false_ne_true, List.append_nil,
    Layer.covered_preRollDamage, hp.newBounds_eq hf hplain hy]

/-- The damage of a pre-paint of plain layers is sound exactly if others cover the layers
that `preRoll` adds nothing for. -/
theorem PrePainted.damageSound_iff (hp : PrePainted h root context force h' context')
    (hf : h.Forest) (hplain : h.PlainBelow root) (hs : context.supportPartialUpdate = true) :
    h.DamageSound root h' context'.damageRect ↔
      h.OthersCover root context.damageRect force := by
  have hcov := hp.covered_iff hf hplain hs
  constructor
  · intro hsound x hx hlay hch
    have hb := hp.newBounds_eq hf hplain hx
    obtain ⟨hold, hnew⟩ := hsound x hx (by
      rcases hch with hch | ⟨hl, -⟩
      · exact Or.inl (hb ▸ hch)
      · exact Or.inr (Or.inr hl))
    constructor
    · intro q hq
      exact (hcov q).mp (hold q hq)
    · intro _ hl q hq
      exact (hcov q).mp (hnew hl q (hb ▸ hq))
  · intro hoth x hx hch
    have hb := hp.newBounds_eq hf hplain hx
    -- what the mask of the layer itself makes damage
    have hpaint : (h.layer x).invalidateMask_ ≠ LayerInvalidateNone →
        ∀ q ∈ (h'.layer x).bounds_, Covered context'.damageRect q := fun hm q hq =>
      (hcov q).mpr (Or.inr ⟨x, hx, Or.inl ⟨hm, hb ▸ hq⟩⟩)
    cases hlay : (h.layer x).invalidateMask_.layout with
    | true =>
      have hm : (h.layer x).invalidateMask_ ≠ LayerInvalidateNone := fun hn => by
        rw [LayerInvalidateMask.layout_of_eq_none hn] at hlay
        cases hlay
      constructor
      · intro q hq
        exact (hcov q).mpr (Or.inr ⟨x, hx, Or.inr ⟨hlay, hq⟩⟩)
      · intro _
        exact hpaint hm
    | false =>
      by_cases hm : (h.layer x).invalidateMask_ = LayerInvalidateNone
      · -- nothing of its own: it moves or leaves
        have hch' : h.newBounds root force x ≠ (h.layer x).bounds_ ∨
            (h.Leaves root x ∧ (h.layer x).invalidateMask_ = LayerInvalidateNone) := by
          rcases hch with hch | hch | hch
          · exact Or.inl (hb ▸ hch)
          · exact absurd hm hch
          · exact Or.inr ⟨hch, hm⟩
        obtain ⟨hold, hnew⟩ := hoth x hx hlay hch'
        constructor
        · intro q hq
          exact (hcov q).mpr (hold q hq)
        · intro hl q hq
          exact (hcov q).mpr (hnew hm hl q (hb ▸ hq))
      · constructor
        · intro q hq
          by_cases hmove : h.newBounds root force x = (h.layer x).bounds_
          · exact hpaint hm q (hb ▸ hmove ▸ hq)
          · exact (hcov q).mpr ((hoth x hx hlay (Or.inl hmove)).1 q hq)
        · intro _
          exact hpaint hm

/-- With partial updates on, `prePaint` of plain layers returns, and its damage list is sound
exactly if every layer without a layout bit that an ancestor moves, or that leaves with an
empty mask, lies within the damage of others. -/
theorem prePaint_damageSound_iff (hf : h.Forest) (hplain : h.PlainBelow root)
    (context : PaintContext) (hs : context.supportPartialUpdate = true) (force : Bool) :
    ∃ h' context', h.prePaint root context force = some (h', context') ∧
      (h.DamageSound root h' context'.damageRect ↔
        h.OthersCover root context.damageRect force) := by
  obtain ⟨h', context', hrun, hp⟩ := prePaint_spec hf root context force
  exact ⟨h', context', hrun, hp.damageSound_iff hf hplain hs⟩

end

end Heap

end

namespace Heap

open TranslationSkia

/-- A layer has been moved down by fifty pixels; its child lies to the right of it. -/
def movedHeap : Heap := ofLayers
  [{ children_ := [1]
     frame_ := .MakeXYWH 0 0 100 100
     bounds_ := .MakeXYWH 0 0 100 100
     absFrame_ := .MakeXYWH 0 0 100 100
     invalidateMask_ := LayerInvalidateNone },
   { parent_ := some 0
     children_ := [2]
     frame_ := .MakeXYWH 0 50 10 10
     bounds_ := .MakeXYWH 0 0 10 10
     absFrame_ := .MakeXYWH 0 0 10 10
     invalidateMask_ := LayerLayoutInvalidate },
   { parent_ := some 1
     frame_ := .MakeXYWH 20 0 10 10
     bounds_ := .MakeXYWH 20 0 10 10
     absFrame_ := .MakeXYWH 20 0 10 10
     invalidateMask_ := LayerInvalidateNone }]

theorem movedHeap_forest : movedHeap.Forest :=
  ofLayers_forest (by decide) (by decide) (by decide) (by decide)

/-- The child is laid out again with its parent, but its old pixels are not in the damage. -/
theorem moved_child_not_damaged : ¬ ∀ (h : Heap) (root : LayerId) (context : PaintContext)
    (h' : Heap) (context' : PaintContext), h.Forest → h.PlainBelow root →
    (∀ x, (h.layer x).isShadowVisible = false) → context.supportPartialUpdate = true →
    h.prePaint root context false = some (h', context') →
    h.DamageSound root h' context'.damageRect := by
  intro hall
  have hrun : (movedHeap.prePaint 0 ⟨[], true, (0, 0)⟩ false).map (fun r =>
      (decide (Covered r.2.damageRect (20, 0)), (r.1.layer 2).bounds_)) =
      some (false, .MakeXYWH 20 50 10 10) := by
    decide +kernel
  cases hpp : movedHeap.prePaint 0 ⟨[], true, (0, 0)⟩ false with
  | none => simp [hpp] at hrun
  | some r =>
    rw [hpp] at hrun
    obtain ⟨hcov, hbounds⟩ := Prod.mk.inj (Option.some.inj hrun)
    have hbelow : Below movedHeap.children 0 2 :=
      ((Below.refl 0).tail (p := 0) (c := 1) (by decide)).tail (by decide)
    have hsound := hall movedHeap 0 ⟨[], true, (0, 0)⟩ r.1 r.2 movedHeap_forest
      (fun x _ => ofLayers_forall (P := fun l => l.isScroll = false) (by decide) (by decide) x)
      (fun x => ofLayers_forall (P := fun l => l.isShadowVisible = false) (by decide) (by decide) x)
      rfl hpp 2 hbelow (Or.inl (by rw [hbounds]; decide))
    exact of_decide_eq_false hcov (hsound.1 (20, 0) (by decide))

theorem prePaint_damageSound_iff_moved : ∃ h' context',
    movedHeap.prePaint 0 ⟨[], true, (0, 0)⟩ false = some (h', context') ∧
      (movedHeap.DamageSound 0 h' context'.damageRect ↔ movedHeap.OthersCover 0 [] false) :=
  prePaint_damageSound_iff movedHeap_forest
    (fun x _ => ofLayers_forall (P := fun l => l.isScroll = false) (by decide) (by decide) x)
    ⟨[], true, (0, 0)⟩ rfl false

end Heap

end ReactNativeSkia
