import ReactNativeSkia.Compositor.Proofs.PaintedPixel
import ReactNativeSkia.Compositor.Layers.Proofs.LinkRuns
import ReactNativeSkia.Misc.Tombstones

/-!
# What changes a pixel between two frames

A pixel is pending if a layer of the tree whose bounds hold it is invalidated. Whatever is done to
the layers, as long as it is invalidated, the other pixels keep what the layers make of them, and so
does the pre-paint for the pixels outside its damage.
-/

namespace ReactNativeSkia

open Rect SkiaCanvas

variable [Skia] [SkiaCanvas]

namespace Heap

/-- The bounds of an invalidated layer of the tree hold the pixel. -/
def Pending (h : Heap) (root : LayerId) (p : Pixel) : Prop :=
  ∃ x, Below h.children root x ∧ (h.layer x).invalidateMask_ ≠ LayerInvalidateNone ∧
    p ∈ (h.layer x).bounds_

/-- The pre-paint gives the layer another place. -/
def Moves (h h' : Heap) (x : LayerId) : Prop :=
  (h'.layer x).bounds_ ≠ (h.layer x).bounds_ ∨
    (h'.layer x).absoluteTransformMatrix_ ≠ (h.layer x).absoluteTransformMatrix_

/-- Every layer that its ancestors move, or that leaves with them and an empty mask, does so within
the damage. -/
def MovesCovered (h : Heap) (root : LayerId) (h' : Heap) (damage : FrameDamages) : Prop :=
  ∀ x, Below h.children root x → (h.layer x).invalidateMask_.layout = false →
    (h.Moves h' x ∨ (h.Leaves root x ∧ (h.layer x).invalidateMask_ = LayerInvalidateNone)) →
    (∀ q ∈ (h.layer x).bounds_, Covered damage q) ∧
    ((h.layer x).invalidateMask_ = LayerInvalidateNone → ¬ h.Leaves root x →
      ∀ q ∈ (h'.layer x).bounds_, Covered damage q)

section
variable {h h' : Heap} {root x : LayerId} {context context' : PaintContext} {p : Pixel}
  {pictures : LayerId → LayerPictures}

/-! ## The pre-paint -/

omit [SkiaCanvas] in
/-- A pre-paint leaves alone what a component sets. -/
theorem PrePainted.props_eq {force : Bool} (hp : PrePainted h root context force h' context')
    (x : LayerId) :
    (h'.layer x).frame_ = (h.layer x).frame_ ∧ (h'.layer x).isHidden_ = (h.layer x).isHidden_ ∧
      (h'.layer x).opacity = (h.layer x).opacity ∧
      (h'.layer x).masksToBounds_ = (h.layer x).masksToBounds_ := by
  by_cases hx : Below h.children root x
  · obtain ⟨b, hv⟩ := exists_visits_of_below force hx
    rw [hp.visited x b hv, Layer.finished, Layer.rolled_eq]
    exact ⟨rfl, rfl, rfl, rfl⟩
  · rw [hp.unreached x hx]
    exact ⟨rfl, rfl, rfl, rfl⟩

omit [SkiaCanvas] in
theorem PrePainted.plainBelow {force : Bool} (hp : PrePainted h root context force h' context')
    (hf : h.Forest) (hplain : h.PlainBelow root) : h'.PlainBelow root := by
  intro x hx
  rw [hp.isScroll_eq]
  exact hplain x ((hp.below_iff hf).mp hx).1

omit [SkiaCanvas] in
theorem PrePainted.covered_new (hp : PrePainted h root context false h' context')
    (hf : h.Forest) (hplain : h.PlainBelow root) (hs : context.supportPartialUpdate = true)
    (hx : Below h.children root x) (hmask : (h.layer x).invalidateMask_ ≠ LayerInvalidateNone)
    (hmem : p ∈ (h'.layer x).bounds_) : Covered context'.damageRect p := by
  rw [hp.covered_iff hf hplain hs]
  refine .inr ⟨x, hx, .inl ⟨hmask, ?_⟩⟩
  rw [hp.newBounds_eq hf hplain hx]
  exact hmem

omit [SkiaCanvas] in
theorem PrePainted.covered_old (hp : PrePainted h root context false h' context')
    (hf : h.Forest) (hplain : h.PlainBelow root) (hs : context.supportPartialUpdate = true)
    (hx : Below h.children root x) (hlayout : (h.layer x).invalidateMask_.layout = true)
    (hmem : p ∈ (h.layer x).bounds_) : Covered context'.damageRect p := by
  rw [hp.covered_iff hf hplain hs]
  exact .inr ⟨x, hx, .inr ⟨hlayout, hmem⟩⟩

omit [SkiaCanvas] in
/-- What is pending is damage. -/
theorem PrePainted.covered_of_pending (hp : PrePainted h root context false h' context')
    (hf : h.Forest) (hplain : h.PlainBelow root) (hs : context.supportPartialUpdate = true)
    (hmoves : h.MovesCovered root h' context'.damageRect) (hpending : h.Pending root p) :
    Covered context'.damageRect p := by
  obtain ⟨x, hx, hmask, hmem⟩ := hpending
  cases hlayout : (h.layer x).invalidateMask_.layout with
  | true => exact hp.covered_old hf hplain hs hx hlayout hmem
  | false =>
    by_cases hbounds : (h'.layer x).bounds_ = (h.layer x).bounds_
    · rw [← hbounds] at hmem
      exact hp.covered_new hf hplain hs hx hmask hmem
    · exact (hmoves x hx hlayout (.inl (.inl hbounds))).1 p hmem

omit [SkiaCanvas] in
/-- Outside the damage a layer that moves draws neither before nor after. -/
theorem PrePainted.not_mem_of_moves (hp : PrePainted h root context false h' context')
    (hf : h.Forest) (hplain : h.PlainBelow root) (hs : context.supportPartialUpdate = true)
    (hmoves : h.MovesCovered root h' context'.damageRect) (hx : Below h.children root x)
    (hstays : ¬ h.Leaves root x) (hmove : h.Moves h' x) (hq : ¬ Covered context'.damageRect p) :
    p ∉ (h.layer x).bounds_ ∧ p ∉ (h'.layer x).bounds_ := by
  constructor
  · intro hmem
    cases hlayout : (h.layer x).invalidateMask_.layout with
    | true => exact hq (hp.covered_old hf hplain hs hx hlayout hmem)
    | false => exact hq ((hmoves x hx hlayout (.inl hmove)).1 p hmem)
  · intro hmem
    by_cases hmask : (h.layer x).invalidateMask_ = LayerInvalidateNone
    · have hlayout := LayerInvalidateMask.layout_of_eq_none hmask
      exact hq ((hmoves x hx hlayout (.inl hmove)).2 hmask hstays p hmem)
    · exact hq (hp.covered_new hf hplain hs hx hmask hmem)

omit [SkiaCanvas] in
theorem PrePainted.not_mem_of_leaves (hp : PrePainted h root context false h' context')
    (hf : h.Forest) (hplain : h.PlainBelow root) (hs : context.supportPartialUpdate = true)
    (hmoves : h.MovesCovered root h' context'.damageRect) (hx : Below h.children root x)
    (hleaves : h.Leaves root x) (hq : ¬ Covered context'.damageRect p) :
    p ∉ (h.layer x).bounds_ := by
  intro hmem
  by_cases hmask : (h.layer x).invalidateMask_ = LayerInvalidateNone
  · have hlayout := LayerInvalidateMask.layout_of_eq_none hmask
    exact hq ((hmoves x hx hlayout (.inr ⟨hleaves, hmask⟩)).1 p hmem)
  · exact hq (hp.covered_of_pending hf hplain hs hmoves ⟨x, hx, hmask, hmem⟩)

omit [SkiaCanvas] in
theorem Forest.not_leaves_root (hf : h.Forest) : ¬ h.Leaves root root := by
  rintro ⟨y, ⟨hy, hne, -⟩, hyroot⟩
  exact hne (hf.linked.below_antisymm hyroot hy)

variable [LawfulCanvas]

/-- Nothing below a layer draws at a pixel that is in no bounds there. -/
theorem treeFold_pixelNode_idle (hx : ∀ y, Below h.children x y → p ∉ (h.layer y).bounds_)
    (n : Nat) :
    treeFold (fun y => (h.layer y).pixelNode (pictures y).picture p) h.children n x = id := by
  apply treeFold_idle
  intro y hy
  rw [Layer.pixelNode_of_not_mem (hx y hy)]
  exact Layer.letThrough_id _

/-- Outside its damage a pre-paint changes nothing. -/
theorem PrePainted.pixelTree_eq (hp : PrePainted h root context false h' context')
    (hf : h.Forest) (hplain : h.PlainBelow root) (hs : context.supportPartialUpdate = true)
    (hmoves : h.MovesCovered root h' context'.damageRect)
    (hq : ¬ Covered context'.damageRect p) :
    h'.pixelTree pictures root p = h.pixelTree pictures root p := by
  classical
  have hchildren : ∀ x, Below h.children root x → h'.children x = h.kept x := by
    intro x hx
    rcases hp.children_eq x with ⟨-, hkept⟩ | ⟨hnot, -⟩
    · exact hkept
    · exact absurd hx hnot
  have hmarked : ∀ x c, Below h.children root x → c ∈ h.children x → c ∉ h.kept x →
      h.Leaves root c := by
    intro x c hx hc hnot
    refine ⟨c, ⟨hx.tail hc, ?_, ?_⟩, Below.refl c⟩
    · rintro rfl
      exact hf.linked.not_below_of_child hc hx
    · by_contra hmark
      exact hnot (mem_kept_iff.mpr ⟨hc, Bool.eq_false_of_not_eq_true hmark⟩)
  unfold pixelTree
  rw [hp.nextId]
  refine treeFold_congr (fun x => ¬ h.Leaves root x) ?_ ?_ ?_ ?_ (Below.refl root)
    hf.not_leaves_root
  · -- what leaves is idle
    intro x hx hleaves n
    obtain ⟨z, hz, hzx⟩ := not_not.mp hleaves
    apply treeFold_pixelNode_idle
    intro y hy
    exact hp.not_mem_of_leaves hf hplain hs hmoves (hx.trans hy) ⟨z, hz, hzx.trans hy⟩ hq
  · -- what stays keeps nothing that leaves
    intro x hx hstays y hy hleaves
    rw [hchildren x hx, mem_kept_iff] at hy
    obtain ⟨z, hz, hzy⟩ := not_not.mp hleaves
    rcases Relation.ReflTransGen.cases_tail hzy with rfl | ⟨w, hzw, hyw⟩
    · have hmark := hz.2.2
      rw [hy.2] at hmark
      cases hmark
    · have hwx : w = x := Option.some.inj
        (((hf.linked.mem_iff w y).mp hyw).symm.trans ((hf.linked.mem_iff x y).mp hy.1))
      subst hwx
      exact absurd ⟨z, hz, hzw⟩ hstays
  · intro x hx hstays
    obtain ⟨hframe, hhidden, hopacity, hmasks⟩ := hp.props_eq x
    by_cases hmove : h.Moves h' x
    · obtain ⟨hold, hnew⟩ := hp.not_mem_of_moves hf hplain hs hmoves hx hstays hmove hq
      funext children
      rw [Layer.pixelNode_of_not_mem hold, Layer.pixelNode_of_not_mem hnew,
        Layer.reach_congr hframe hhidden hopacity hmasks]
    · simp only [Moves, not_or, not_not] at hmove
      exact Layer.pixelNode_congr hframe hhidden hopacity hmasks hmove.1 hmove.2
  · intro x hx _
    rw [hchildren x hx, kept, List.filter_filter]
    refine List.filter_congr fun c hc => ?_
    by_cases hleaves : h.Leaves root c
    · simp [hleaves]
    · have hkept : c ∈ h.kept x := by
        by_contra hnot
        exact hleaves (hmarked x c hx hc hnot)
      simp [hleaves, (mem_kept_iff.mp hkept).2]

end

/-! ## What is done to the layers between two frames -/

/-- A pixel that is not pending afterwards was not before, and the layers make the same of it. -/
def KeepsPixels (h : Heap) (pictures : LayerId → LayerPictures) (h' : Heap)
    (pictures' : LayerId → LayerPictures) (root : LayerId) : Prop :=
  ∀ p, ¬ h'.Pending root p →
    ¬ h.Pending root p ∧ h'.pixelTree pictures' root p = h.pixelTree pictures root p

/-- A component that changes a layer of the tree, or what it draws, invalidates it, and where the
layer lets through something else of what lies below it, all of that lies within its bounds. -/
def Announced (h : Heap) (pictures : LayerId → LayerPictures) (x : LayerId) (props : Layer)
    (drawn : LayerPictures) (mask : LayerInvalidateMask) : Prop :=
  ((h.layer x).invalidateMask_.or mask = LayerInvalidateNone →
    (h.layer x).withProps props = h.layer x ∧ drawn = pictures x) ∧
  (((h.layer x).withProps props).reach ≠ (h.layer x).reach →
    ∀ y, Below h.children x y → ∀ q ∈ (h.layer y).bounds_, q ∈ (h.layer x).bounds_)

/-- A layer that is put into the tree brings nothing with it that is not invalidated, and none is
taken out of the tree. -/
def InsertAnnounced (h : Heap) (root p c : LayerId) : Prop :=
  (Below h.children root c → Below h.children root p) ∧
  (Below h.children root p → ∀ y, Below h.children c y → ∀ q ∈ (h.layer y).bounds_, h.Pending c q)

section
variable {h h' : Heap} {root x p c : LayerId} {q : Pixel} {pictures : LayerId → LayerPictures}

omit [SkiaCanvas] in
theorem create_children (hf : h.Forest) (type : LayerType) :
    (h.create type).children = h.children := by
  funext x
  by_cases hx : x = h.nextId
  · subst hx
    have hnone : h.children h.nextId = [] :=
      List.eq_nil_iff_forall_not_mem.mpr fun c hc =>
        Nat.lt_irrefl _ (hf.range c _ ((hf.linked.mem_iff _ c).mp hc)).2
    simp [children, create, ← hnone]
  · simp [children, create, hx]

omit [SkiaCanvas] in
theorem create_parent (hf : h.Forest) (type : LayerType) :
    (h.create type).parent = h.parent := by
  funext x
  by_cases hx : x = h.nextId
  · subst hx
    have hnone : h.parent h.nextId = none :=
      Option.eq_none_iff_forall_ne_some.mpr fun p hp => Nat.lt_irrefl _ (hf.range _ p hp).1
    simp [parent, create, ← hnone]
  · simp [parent, create, hx]

omit [SkiaCanvas] in
theorem Forest.create (hf : h.Forest) (type : LayerType) : (h.create type).Forest := by
  refine ⟨?_, ?_⟩
  · rw [create_parent hf, create_children hf]
    exact hf.linked
  · intro x p hx
    rw [create_parent hf] at hx
    obtain ⟨hlt, hlt'⟩ := hf.range x p hx
    exact ⟨Nat.lt_succ_of_lt hlt, Nat.lt_succ_of_lt hlt'⟩

omit [SkiaCanvas] in
theorem Forest.below_lt (hf : h.Forest) (hroot : root < h.nextId)
    (hx : Below h.children root x) : x < h.nextId := by
  induction hx with
  | refl => exact hroot
  | tail _ hc _ => exact (hf.range _ _ ((hf.linked.mem_iff _ _).mp hc)).1

theorem create_keepsPixels (hf : h.Forest) (hroot : root < h.nextId) (type : LayerType) :
    h.KeepsPixels pictures (h.create type) pictures root := by
  have hlayer : ∀ x, Below h.children root x → (h.create type).layer x = h.layer x := by
    intro x hx
    have hne : x ≠ h.nextId := (hf.below_lt hroot hx).ne
    simp [create, hne]
  intro q hq
  constructor
  · rintro ⟨x, hx, hmask, hmem⟩
    apply hq
    refine ⟨x, ?_, ?_, ?_⟩
    · rw [create_children hf]
      exact hx
    · rw [hlayer x hx]
      exact hmask
    · rw [hlayer x hx]
      exact hmem
  · have hd := hf.linked.depthLt hf.range root
    unfold pixelTree
    rw [create_children hf]
    change treeFold _ _ (h.nextId + 1 + 1) root = _
    rw [treeFold_of_depthLt hd (Nat.le_succ _)]
    apply treeFold_congr (fun _ => True)
    · intro x _ hx
      exact absurd trivial hx
    · intro x _ _ y _ hy
      exact absurd trivial hy
    · intro x hx _
      rw [hlayer x hx]
    · intro x _ _
      rfl
    · exact Below.refl root
    · trivial

omit [Skia] [SkiaCanvas] in
theorem or_eq_none {a b : LayerInvalidateMask} (hnone : a.or b = LayerInvalidateNone) :
    a = LayerInvalidateNone := by
  obtain ⟨paint, layout, remove⟩ := a
  simp only [LayerInvalidateMask.or, LayerInvalidateNone, LayerInvalidateMask.mk.injEq,
    Bool.or_eq_false_iff] at hnone ⊢
  exact ⟨hnone.1.1, hnone.2.1.1, hnone.2.2.1⟩

/-- What a component does to its layer. -/
def updateLayer (h : Heap) (x : LayerId) (props : Layer) (mask : LayerInvalidateMask) : Heap :=
  h.modify x fun l => (l.withProps props).invalidate mask

variable {props : Layer} {drawn : LayerPictures} {mask : LayerInvalidateMask}

omit [SkiaCanvas] in
theorem updateLayer_sameLinks (h : Heap) (x : LayerId) (props : Layer)
    (mask : LayerInvalidateMask) : h.SameLinks (h.updateLayer x props mask) :=
  h.sameLinks_modify x (fun _ => rfl) (fun _ => rfl)

omit [SkiaCanvas] in
theorem updateLayer_self (h : Heap) (x : LayerId) (props : Layer) (mask : LayerInvalidateMask) :
    (h.updateLayer x props mask).layer x = ((h.layer x).withProps props).invalidate mask :=
  modify_layer_self ..

omit [SkiaCanvas] in
theorem updateLayer_ne {y : LayerId} (hy : y ≠ x) :
    (h.updateLayer x props mask).layer y = h.layer y :=
  modify_layer_ne _ _ hy

omit [SkiaCanvas] in
theorem updateLayer_bounds (h : Heap) (x : LayerId) (props : Layer) (mask : LayerInvalidateMask)
    (y : LayerId) : ((h.updateLayer x props mask).layer y).bounds_ = (h.layer y).bounds_ := by
  by_cases hy : y = x
  · rw [hy, updateLayer_self]
    rfl
  · rw [updateLayer_ne hy]

omit [SkiaCanvas] in
theorem updateLayer_pending (hq : h.Pending root q) :
    (h.updateLayer x props mask).Pending root q := by
  obtain ⟨y, hy, hmask, hmem⟩ := hq
  refine ⟨y, ?_, ?_, ?_⟩
  · rw [(h.updateLayer_sameLinks x props mask).2.2]
    exact hy
  · by_cases hyx : y = x
    · rw [hyx, updateLayer_self]
      rw [hyx] at hmask
      exact fun hnone => hmask (or_eq_none hnone)
    · rw [updateLayer_ne hyx]
      exact hmask
  · rw [updateLayer_bounds]
    exact hmem

omit [SkiaCanvas] in
/-- An update that leaves the mask empty does nothing. -/
theorem updateLayer_of_silent (hnone : (h.layer x).invalidateMask_.or mask = LayerInvalidateNone)
    (hprops : (h.layer x).withProps props = h.layer x) : h.updateLayer x props mask = h := by
  have hlayer : (h.updateLayer x props mask).layer = h.layer := by
    funext y
    by_cases hy : y = x
    · rw [hy, updateLayer_self, hprops, Layer.invalidate, hnone, ← or_eq_none hnone]
      rfl
    · exact updateLayer_ne hy
  exact congrArg (Heap.mk h.nextId) hlayer

variable [LawfulCanvas]

/-- Outside its bounds an update of a layer shows only through what it lets through. -/
theorem updateLayer_pixelTree (hout : Below h.children root x → q ∉ (h.layer x).bounds_)
    (hthrough : ((h.layer x).withProps props).reach ≠ (h.layer x).reach →
      Below h.children root x → ∀ y, Below h.children x y → q ∉ (h.layer y).bounds_) :
    (h.updateLayer x props mask).pixelTree (Function.update pictures x drawn) root q =
      h.pixelTree pictures root q := by
  obtain ⟨-, -, hchildren⟩ := h.updateLayer_sameLinks x props mask
  have hnode : ∀ y, y ≠ x → ((h.updateLayer x props mask).layer y).pixelNode
      (Function.update pictures x drawn y).picture q =
        (h.layer y).pixelNode (pictures y).picture q := by
    intro y hy
    rw [updateLayer_ne hy, Function.update_of_ne hy]
  unfold pixelTree
  by_cases hreach : ((h.layer x).withProps props).reach = (h.layer x).reach
  · apply treeFold_congr (fun _ => True)
    · intro y _ hy
      exact absurd trivial hy
    · intro y _ _ z _ hz
      exact absurd trivial hz
    · intro y hy _
      by_cases hyx : y = x
      · rw [hyx] at hy ⊢
        funext children
        have hnew : q ∉ ((h.updateLayer x props mask).layer x).bounds_ := by
          rw [updateLayer_bounds]
          exact hout hy
        rw [Layer.pixelNode_of_not_mem (hout hy), Layer.pixelNode_of_not_mem hnew,
          updateLayer_self]
        exact congrArg (Layer.letThrough · children) hreach
      · exact hnode y hyx
    · intro y _ _
      rw [hchildren]
    · exact Below.refl root
    · trivial
  · -- nothing below the layer draws at the pixel, before or after
    have hidle : Below h.children root x → ∀ n,
        treeFold (fun y => ((h.updateLayer x props mask).layer y).pixelNode
          (Function.update pictures x drawn y).picture q)
          (h.updateLayer x props mask).children n x = id := by
      intro hx
      apply treeFold_pixelNode_idle
      intro y hy
      rw [hchildren] at hy
      rw [updateLayer_bounds]
      exact hthrough hreach hx y hy
    by_cases hroot : root = x
    · rw [hroot] at hidle hthrough ⊢
      rw [treeFold_pixelNode_idle (hthrough hreach (Below.refl x))]
      exact hidle (Below.refl x) _
    · apply treeFold_congr (fun y => y ≠ x)
      · intro y hy hyx
        rw [not_not.mp hyx] at hy ⊢
        exact treeFold_pixelNode_idle (hthrough hreach hy)
      · intro y hy _ z hz hzx
        rw [hchildren] at hz
        rw [not_not.mp hzx] at hz ⊢
        exact hidle (hy.tail hz)
      · intro y _ hyx
        exact hnode y hyx
      · intro y _ _
        rw [hchildren]
      · exact Below.refl root
      · exact hroot

theorem updateLayer_keepsPixels (ha : h.Announced pictures x props drawn mask) :
    h.KeepsPixels pictures (h.updateLayer x props mask) (Function.update pictures x drawn)
      root := by
  obtain ⟨hquiet, hthrough⟩ := ha
  by_cases hnone : (h.layer x).invalidateMask_.or mask = LayerInvalidateNone
  · obtain ⟨hprops, hdrawn⟩ := hquiet hnone
    rw [updateLayer_of_silent hnone hprops, hdrawn, Function.update_eq_self]
    exact fun q hq => ⟨hq, rfl⟩
  · intro q hq
    have hout : Below h.children root x → q ∉ (h.layer x).bounds_ := by
      intro hx hmem
      apply hq
      refine ⟨x, ?_, ?_, ?_⟩
      · rw [(h.updateLayer_sameLinks x props mask).2.2]
        exact hx
      · rw [updateLayer_self]
        exact hnone
      · rw [updateLayer_bounds]
        exact hmem
    refine ⟨fun hpending => hq (updateLayer_pending hpending), ?_⟩
    apply updateLayer_pixelTree hout
    intro hreach hx y hy hmem
    exact hout hx (hthrough hreach y hy q hmem)

end

/-! ## Putting a layer into the tree -/

section
variable {h h' : Heap} {root x y p c : LayerId} {q : Pixel} {i : Nat}
  {pictures : LayerId → LayerPictures}

omit [SkiaCanvas] in
/-- Apart from the layer that is put in, the vectors stay as they are. -/
theorem Forest.insertChild_children (hf : h.Forest) (hpc : ¬ Below h.children c p)
    (hins : h.insertChild p c i = some h') :
    h'.nextId = h.nextId ∧ c ∈ h'.children p ∧
      ∀ x, live [c] (h'.children x) = live [c] (h.children x) ∧
        (x ≠ p → ∀ y ∈ h'.children x, y ∈ h.children x) := by
  obtain ⟨l, hl⟩ := hf.linked.ends p
  have hc : c ∉ p :: l := fun hc => hpc ((hf.linked.below_iff hl).mpr hc)
  obtain ⟨h'', hins', hnext, -, hchildren⟩ := hf.insertChild_spec hl hc i
  rw [hins] at hins'
  cases hins'
  have hremoved : ∀ x, live [c] ((h.removeFromParent c).children x) = live [c] (h.children x) ∧
      ∀ y ∈ (h.removeFromParent c).children x, y ∈ h.children x := by
    intro x
    cases hpar : h.parent c with
    | none =>
      rw [removeFromParent_of_none hpar]
      exact ⟨rfl, fun y hy => hy⟩
    | some r =>
      rw [(hf.removeFromParent_spec hpar).2.2]
      by_cases hxr : x = r
      · rw [hxr, Function.update_self]
        exact ⟨live_erase_of_mem (List.mem_singleton_self c), fun y => List.mem_of_mem_erase⟩
      · rw [Function.update_of_ne hxr]
        exact ⟨rfl, fun y hy => hy⟩
  refine ⟨hnext, ?_, ?_⟩
  · rw [hchildren, Function.update_self, List.mem_insertIdx (Nat.min_le_right _ _)]
    exact .inl rfl
  · intro x
    by_cases hxp : x = p
    · rw [hxp, hchildren, Function.update_self,
        live_insertIdx_of_mem (List.mem_singleton_self c) (Nat.min_le_right _ _)]
      exact ⟨(hremoved p).1, fun hne => absurd rfl hne⟩
    · rw [hchildren, Function.update_of_ne hxp]
      exact ⟨(hremoved x).1, fun _ => (hremoved x).2⟩

omit [SkiaCanvas] in
theorem Forest.insertChild_mem_iff (hf : h.Forest) (hpc : ¬ Below h.children c p)
    (hins : h.insertChild p c i = some h') (hyc : y ≠ c) :
    y ∈ h'.children x ↔ y ∈ h.children x := by
  have hlive := ((hf.insertChild_children hpc hins).2.2 x).1
  have hy : y ∉ [c] := by simpa using hyc
  constructor
  · intro hmem
    exact (mem_live.mp (hlive ▸ mem_live.mpr ⟨hmem, hy⟩)).1
  · intro hmem
    exact (mem_live.mp (hlive ▸ mem_live.mpr ⟨hmem, hy⟩)).1

omit [SkiaCanvas] in
/-- Paths below the layer stay. -/
theorem Forest.insertChild_below_within (hf : h.Forest) (hpc : ¬ Below h.children c p)
    (hins : h.insertChild p c i = some h') (hcx : Below h.children c x)
    (hxy : Below h.children x y) : Below h'.children x y := by
  induction hxy with
  | refl => exact Below.refl x
  | @tail z w hz hw ih =>
    have hwc : w ≠ c := by
      rintro rfl
      exact hf.linked.not_below_of_child hw (hcx.trans hz)
    exact ih.tail ((hf.insertChild_mem_iff hpc hins hwc).mpr hw)

omit [SkiaCanvas] in
/-- The layer brings what was below it, and no more. -/
theorem Forest.insertChild_below_self (hf : h.Forest) (hpc : ¬ Below h.children c p)
    (hins : h.insertChild p c i = some h') : Below h'.children c y ↔ Below h.children c y := by
  constructor
  · intro hy
    induction hy with
    | refl => exact Below.refl c
    | @tail x z _ hz ih =>
      have hxp : x ≠ p := by
        rintro rfl
        exact hpc ih
      exact ih.tail (((hf.insertChild_children hpc hins).2.2 x).2 hxp z hz)
  · exact hf.insertChild_below_within hpc hins (Below.refl c)

omit [SkiaCanvas] in
/-- What is not below the layer stays where it is. -/
theorem Forest.insertChild_below_of_not (hf : h.Forest) (hpc : ¬ Below h.children c p)
    (hins : h.insertChild p c i = some h') (hx : Below h.children root x)
    (hxc : ¬ Below h.children c x) : Below h'.children root x := by
  induction hx with
  | refl => exact Below.refl root
  | @tail y z _ hz ih =>
    have hyc : ¬ Below h.children c y := fun hy => hxc (hy.tail hz)
    have hzc : z ≠ c := by
      rintro rfl
      exact hxc (Below.refl z)
    exact (ih hyc).tail ((hf.insertChild_mem_iff hpc hins hzc).mpr hz)

omit [SkiaCanvas] in
/-- Nothing falls out of the tree unless the layer is taken out of it. -/
theorem Forest.insertChild_below (hf : h.Forest) (hpc : ¬ Below h.children c p)
    (hins : h.insertChild p c i = some h')
    (hkept : Below h.children root c → Below h.children root p)
    (hx : Below h.children root x) : Below h'.children root x := by
  by_cases hxc : Below h.children c x
  · rcases hf.linked.below_total hx hxc with hrc | hcr
    · have hp := hf.insertChild_below_of_not hpc hins (hkept hrc) hpc
      have hc := hp.tail (hf.insertChild_children hpc hins).2.1
      exact hc.trans ((hf.insertChild_below_self hpc hins).mpr hxc)
    · exact hf.insertChild_below_within hpc hins hcr hx
  · exact hf.insertChild_below_of_not hpc hins hx hxc

omit [SkiaCanvas] in
/-- What draws at a pixel below the layer makes it pending, if the layer is in the tree. -/
theorem InsertAnnounced.not_mem (ha : h.InsertAnnounced root p c) (hf : h.Forest)
    (hpc : ¬ Below h.children c p) (hins : h.insertChild p c i = some h')
    (hp : Below h.children root p) (hq : ¬ h'.Pending root q) (hy : Below h.children c y) :
    q ∉ (h.layer y).bounds_ := by
  intro hmem
  obtain ⟨z, hz, hmask, hzmem⟩ := ha.2 hp y hy q hmem
  apply hq
  have hroot := hf.insertChild_below hpc hins ha.1 hp
  have hc := hroot.tail (hf.insertChild_children hpc hins).2.1
  obtain ⟨parent, children, hlayer⟩ := onlyLinks_insertChild hins z
  refine ⟨z, hc.trans ((hf.insertChild_below_self hpc hins).mpr hz), ?_, ?_⟩
  · rw [hlayer]
    exact hmask
  · rw [hlayer]
    exact hzmem

variable [LawfulCanvas]

theorem insertChild_keepsPixels (hf : h.Forest) (hpc : ¬ Below h.children c p)
    (hins : h.insertChild p c i = some h') (ha : h.InsertAnnounced root p c) :
    h.KeepsPixels pictures h' pictures root := by
  have hlinks := onlyLinks_insertChild hins
  have hbounds : ∀ x, (h'.layer x).bounds_ = (h.layer x).bounds_ := by
    intro x
    obtain ⟨parent, children, hlayer⟩ := hlinks x
    rw [hlayer]
    rfl
  obtain ⟨hnext, -, hvectors⟩ := hf.insertChild_children hpc hins
  intro q hq
  constructor
  · rintro ⟨x, hx, hmask, hxmem⟩
    apply hq
    obtain ⟨parent, children, hlayer⟩ := hlinks x
    refine ⟨x, hf.insertChild_below hpc hins ha.1 hx, ?_, ?_⟩
    · rw [hlayer]
      exact hmask
    · rw [hbounds]
      exact hxmem
  · have hroot : root ∉ [c] := by
      rw [List.mem_singleton]
      rintro rfl
      exact hpc (ha.1 (Below.refl root))
    unfold pixelTree
    rw [hnext]
    refine treeFold_congr (fun x => x ∉ [c]) ?_ ?_ ?_ ?_ (Below.refl root) hroot
    · intro x hx hxc
      obtain rfl : x = c := by simpa using hxc
      apply treeFold_pixelNode_idle
      intro y hy
      exact ha.not_mem hf hpc hins (ha.1 hx) hq hy
    · intro x hx hxc y hy hyc n
      obtain rfl : y = c := by simpa using hyc
      apply treeFold_pixelNode_idle
      intro z hz
      rw [hf.insertChild_below_self hpc hins] at hz
      rw [hbounds]
      have hxp : Below h.children root p := by
        by_cases hxp : x = p
        · exact hxp ▸ hx
        · exact ha.1 (hx.tail ((hvectors x).2 hxp y hy))
      exact ha.not_mem hf hpc hins hxp hq hz
    · intro x _ _
      obtain ⟨parent, children, hlayer⟩ := hlinks x
      rw [hlayer]
      exact Layer.pixelNode_congr rfl rfl rfl rfl rfl rfl
    · intro x _ _
      exact (hvectors x).1

end

end Heap

end ReactNativeSkia
