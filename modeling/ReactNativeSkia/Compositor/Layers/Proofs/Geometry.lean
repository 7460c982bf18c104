import ReactNativeSkia.Compositor.Layers.Proofs.DamageSound
import ReactNativeSkia.Compositor.Layers.Proofs.LinkRuns

/-!
# Cached geometry over runs

`absoluteTransformMatrix_` and `absFrame_` are only recomputed under a layout bit or a
`forceLayout`. Over any run of moves and frame or transform changes, each with its layout
bit, and of pre-paints of roots, a layer that is not due for layout, nor its parent, keeps
the geometry its parent gives it. After a pre-paint that is every layer of the tree, as long
as no layer below a plain parent still carries the `skipParentMatrix_` that a scroll layer
once set: nothing ever resets it.
-/

namespace ReactNativeSkia

section
variable [Skia]

/-! ## From scratch -/

namespace Layer

/-- The matrix that the layers above give a layer: a scroll layer starts a new chain. -/
def startMatrix (parent : Option Layer) : Skia.Matrix :=
  match parent with
  | none => Skia.identity
  | some p =>
    if p.isScroll then Skia.identity
    else Skia.preTranslate p.absoluteTransformMatrix_
      (Skia.ofInt p.frame_.left) (Skia.ofInt p.frame_.top)

/-- Matrix and absolute frame are the ones the parent gives. -/
def FitsBelow (l : Layer) (parent : Option Layer) : Prop :=
  l.absoluteTransformMatrix_ = l.applyTransform (startMatrix parent) ∧
    l.absFrame_ = Skia.mapRect l.absoluteTransformMatrix_ l.frame_

end Layer

/-- A layout whose flag tells a scroll parent gives the geometry that fits, and without a
layout it is kept. -/
theorem Layer.rolled_fitsBelow {l : Layer} {parent : Option Layer} {force : Bool}
    (hflag : ∀ p, parent = some p → l.skipParentMatrix_ = p.isScroll)
    (hold : force = false → l.invalidateMask_.layout = false → l.FitsBelow parent) :
    (l.rolled parent force).FitsBelow parent := by
  unfold rolled
  split
  · have hm : l.inheritedMatrix parent = startMatrix parent := by
      cases parent with
      | none => rfl
      | some p => rw [inheritedMatrix, startMatrix, hflag p rfl]
    refine ⟨?_, rfl⟩
    rw [← hm]
    rfl
  · rename_i hn
    simp only [Bool.or_eq_true, not_or, Bool.not_eq_true] at hn
    exact hold hn.1 hn.2

namespace Heap

/-- The matrix of a layer recomputed from the frames and transforms of its ancestors up to,
but not through, the nearest scroll layer. -/
def scratchMatrixFrom (h : Heap) : Nat → LayerId → Skia.Matrix
  | 0, x => (h.layer x).applyTransform Skia.identity
  | n + 1, x =>
    (h.layer x).applyTransform <|
      match h.parent x with
      | none => Skia.identity
      | some p =>
        if (h.layer p).isScroll then Skia.identity
        else Skia.preTranslate (h.scratchMatrixFrom n p)
          (Skia.ofInt (h.layer p).frame_.left) (Skia.ofInt (h.layer p).frame_.top)

def scratchMatrix (h : Heap) (x : LayerId) : Skia.Matrix := h.scratchMatrixFrom h.nextId x

def scratchAbsFrame (h : Heap) (x : LayerId) : SkIRect :=
  Skia.mapRect (h.scratchMatrix x) (h.layer x).frame_

end Heap

/-! ## Edits -/

/-- The changes to the layers, each invalidating the layout of the layer it is about, and the
pre-paint of a root. -/
inductive LayerEdit where
  | insertChild (p child : LayerId) (index : Nat)
  | removeFromParent (child : LayerId)
  | setFrame (layer : LayerId) (frame : SkIRect)
  | setTransformMatrix (layer : LayerId) (m : Skia.Matrix)
  | prePaint (root : LayerId) (context : PaintContext) (forceLayout : Bool)

namespace Heap

/-- No layer below `root` with a plain parent carries the flag that a scroll layer sets. -/
def FlagsFit (h : Heap) (root : LayerId) : Prop :=
  ∀ p, Below h.children root p → (h.layer p).isScroll = false → ∀ c ∈ h.children p,
    (h.layer c).skipParentMatrix_ = false

end Heap

namespace LayerEdit

/-- `none` if a walk does not end. -/
def exec (h : Heap) : LayerEdit → Option Heap
  | insertChild p child index =>
    (h.insertChild p child index).map (·.invalidate child LayerLayoutInvalidate)
  | removeFromParent child =>
    some ((h.removeFromParent child).invalidate child LayerLayoutInvalidate)
  | setFrame layer frame =>
    some ((h.modify layer (·.setFrame frame)).invalidate layer LayerLayoutInvalidate)
  | setTransformMatrix layer m =>
    some ((h.modify layer (·.setTransformMatrix m)).invalidate layer LayerLayoutInvalidate)
  | prePaint root context forceLayout => (h.prePaint root context forceLayout).map Prod.fst

/-- The arguments are constructed layers, and a pre-paint starts at a root. -/
def InRange (h : Heap) : LayerEdit → Prop
  | insertChild p child _ => p < h.nextId ∧ child < h.nextId
  | removeFromParent layer | setFrame layer _ | setTransformMatrix layer _ => layer < h.nextId
  | prePaint root _ _ => root < h.nextId ∧ h.parent root = none

instance (h : Heap) (e : LayerEdit) : Decidable (e.InRange h) :=
  match e with
  | insertChild _ _ _ => inferInstanceAs (Decidable (_ ∧ _))
  | removeFromParent _ => inferInstanceAs (Decidable (_ < _))
  | setFrame _ _ => inferInstanceAs (Decidable (_ < _))
  | setTransformMatrix _ _ => inferInstanceAs (Decidable (_ < _))
  | prePaint _ _ _ => inferInstanceAs (Decidable (_ ∧ _))

/-- `exec` for constructed layers and roots. -/
def exec? (h : Heap) (e : LayerEdit) : Option Heap := if e.InRange h then e.exec h else none

/-- No layer is inserted below itself, and the flags fit whenever a root is pre-painted. -/
def KeepsGeometry (h : Heap) : LayerEdit → Prop
  | insertChild p child _ => child ≠ p ∧ h.hasAncestor p child = some false
  | prePaint root _ _ => h.FlagsFit root
  | _ => True

end LayerEdit

def editStep (h : Heap) (e : LayerEdit) (h' : Heap) : Prop := e.InRange h ∧ e.exec h = some h'

theorem editStep_of_exec? {h h' : Heap} {e : LayerEdit} (hs : e.exec? h = some h') :
    editStep h e h' := by
  unfold LayerEdit.exec? at hs
  split at hs
  · exact ⟨‹_›, hs⟩
  · cases hs

namespace Heap

/-- Layers as their constructor leaves them, with any frames, transforms and types. -/
structure Fresh (h : Heap) : Prop where
  unlinked : h.Unlinked
  mask : ∀ x, (h.layer x).invalidateMask_ = LayerInvalidateAll

/-- The invariant: links are consistent, nothing is marked for removal, and the geometry of a
layer fits its parent unless one of the two is due for layout. -/
structure GeometryFits (h : Heap) : Prop where
  forest : h.Forest
  unmarked : ∀ x, (h.layer x).invalidateMask_.remove = false
  fits : ∀ x, (h.layer x).invalidateMask_.layout = false →
    (∀ p, h.parent x = some p → (h.layer p).invalidateMask_.layout = false) →
    (h.layer x).FitsBelow (h.parentLayer x)

theorem Fresh.geometryFits {h : Heap} (hfresh : h.Fresh) : h.GeometryFits where
  forest := hfresh.unlinked.forest
  unmarked x := by rw [hfresh.mask]; rfl
  fits x hx := by rw [hfresh.mask] at hx; cases hx

section
variable {h h' : Heap} {root x c p : LayerId} {force : Bool} {context context' : PaintContext}

/-- An edit of `c` that leaves all other layers with their parents and records. -/
theorem GeometryFits.edited (hg : h.GeometryFits) (hf : h'.Forest)
    (hother : ∀ y, y ≠ c → ∃ cs, h'.layer y = (h.layer y).withChildren cs)
    (hmask : (h'.layer c).invalidateMask_.layout = true)
    (hrem : (h'.layer c).invalidateMask_.remove = false) : h'.GeometryFits := by
  refine ⟨hf, ?_, ?_⟩
  · intro y
    by_cases hyc : y = c
    · rw [hyc, hrem]
    · obtain ⟨cs, hl⟩ := hother y hyc
      rw [hl]
      exact hg.unmarked y
  · intro y hy hpar
    have hyc : y ≠ c := by
      rintro rfl
      rw [hmask] at hy
      cases hy
    obtain ⟨cs, hl⟩ := hother y hyc
    have hpy : h'.parent y = h.parent y := by
      unfold parent
      rw [hl]
      rfl
    -- a parent that is not due for layout is not `c`
    have hparent : ∀ q, h.parent y = some q → ∃ cs, h'.layer q = (h.layer q).withChildren cs := by
      intro q hq
      refine hother q ?_
      rintro rfl
      rw [hpar q (hpy.trans hq)] at hmask
      cases hmask
    rw [hl] at hy
    have hfit := hg.fits y hy fun q hq => by
      obtain ⟨cs', hq'⟩ := hparent q hq
      have hclean := hpar q (hpy.trans hq)
      rwa [hq'] at hclean
    have hstart : Layer.startMatrix (h'.parentLayer y) = Layer.startMatrix (h.parentLayer y) := by
      unfold parentLayer
      rw [hpy]
      cases hq : h.parent y with
      | none => rfl
      | some q =>
        obtain ⟨cs', hq'⟩ := hparent q hq
        rw [Option.map_some, Option.map_some, hq']
        rfl
    unfold Layer.FitsBelow at hfit ⊢
    rw [hstart, hl]
    exact hfit

theorem invalidate_layer_ne (h : Heap) {x y : LayerId} (mask : LayerInvalidateMask) (hne : y ≠ x) :
    (h.invalidate x mask).layer y = h.layer y := h.modify_layer_ne _ hne

/-- The bits of the layer an edit is about. -/
theorem invalidate_layout_mask (h : Heap) (x : LayerId)
    (hrem : (h.layer x).invalidateMask_.remove = false) :
    ((h.invalidate x LayerLayoutInvalidate).layer x).invalidateMask_.layout = true ∧
    ((h.invalidate x LayerLayoutInvalidate).layer x).invalidateMask_.remove = false := by
  unfold invalidate
  rw [modify_layer_self]
  simp [Layer.invalidate, hrem, LayerLayoutInvalidate]

/-- Link operations, followed by the layout bit for the layer they are about. -/
theorem GeometryFits.relinked (hg : h.GeometryFits) {h₁ : Heap} (hf : h₁.Forest)
    (hlinks : OnlyLinks h h₁) (hpar : ∀ y, y ≠ c → h₁.parent y = h.parent y) :
    (h₁.invalidate c LayerLayoutInvalidate).GeometryFits := by
  have hrem : (h₁.layer c).invalidateMask_.remove = false := by
    obtain ⟨q, cs, hc⟩ := hlinks c
    rw [hc]
    exact hg.unmarked c
  obtain ⟨hlay, hrem'⟩ := h₁.invalidate_layout_mask c hrem
  refine hg.edited ((h₁.invalidate_sameLinks c _).forest hf) (fun y hy => ?_) hlay hrem'
  obtain ⟨q, cs, hl⟩ := hlinks y
  have hq : q = (h.layer y).parent_ := by
    have hpy := hpar y hy
    unfold parent at hpy
    rw [hl] at hpy
    exact hpy
  rw [invalidate_layer_ne _ _ hy, hl, hq]
  exact ⟨cs, rfl⟩

/-- A change of a layer's own record, followed by its layout bit. -/
theorem GeometryFits.modified (hg : h.GeometryFits) (f : Layer → Layer)
    (hp : ∀ l, (f l).parent_ = l.parent_) (hch : ∀ l, (f l).children_ = l.children_)
    (hm : ∀ l, (f l).invalidateMask_ = l.invalidateMask_) (c : LayerId) :
    ((h.modify c f).invalidate c LayerLayoutInvalidate).GeometryFits := by
  have hrem : ((h.modify c f).layer c).invalidateMask_.remove = false := by
    rw [modify_layer_self, hm]
    exact hg.unmarked c
  obtain ⟨hlay, hrem'⟩ := (h.modify c f).invalidate_layout_mask c hrem
  refine hg.edited (((h.modify c f).invalidate_sameLinks c _).forest
    ((h.sameLinks_modify c hp hch).forest hg.forest)) (fun y hy => ?_) hlay hrem'
  rw [invalidate_layer_ne _ _ hy, modify_layer_ne _ _ hy]
  exact ⟨_, rfl⟩

/-- A layer that is not laid out keeps what a child reads of it. -/
theorem PrePainted.startMatrix_of_clean (hp : PrePainted h root context force h' context')
    (hv : h.Visits root force x false) (hl : (h.layer x).invalidateMask_.layout = false) :
    Layer.startMatrix (some (h'.layer x)) = Layer.startMatrix (some (h.layer x)) := by
  have hkeep : ∀ parent skip, ((h.layer x).setSkipParentMatrix skip).rolled parent false =
      (h.layer x).setSkipParentMatrix skip := by
    intro parent skip
    rw [Layer.rolled, if_neg (by simp [hl])]
  rw [hp.visited x false hv, Layer.finished, hkeep]
  rfl

/-- The step lemma for pre-paints. -/
theorem PrePainted.geometryFits (hp : PrePainted h root context force h' context')
    (hg : h.GeometryFits) (hroot : h.parent root = none) (hflags : h.FlagsFit root) :
    h'.GeometryFits := by
  have hf := hg.forest
  have hparent : ∀ y, h'.parent y = h.parent y := fun y =>
    hp.parent_of_not_recycled fun hr => by
      have hm := hr.2.2
      rw [hg.unmarked y] at hm
      cases hm
  refine ⟨hp.forest hf, ?_, ?_⟩
  · intro y
    by_cases hb : Below h.children root y
    · rw [hp.mask_eq hb]
      simpa using hg.unmarked y
    · rw [hp.unreached y hb]
      exact hg.unmarked y
  · intro y hy hpar
    have hlayer : h'.parentLayer y = (h.parent y).map h'.layer := by
      rw [parentLayer, hparent]
    by_cases hb : Below h.children root y
    · obtain ⟨b, hv⟩ := exists_visits_of_below force hb
      have hroll : (((h.layer y).setSkipParentMatrix ((h.layer y).skipParentMatrix_ ||
          (decide (y ≠ root) && h.parentIsScroll y))).rolled
          ((h.parent y).map h'.layer) b).FitsBelow ((h.parent y).map h'.layer) := by
        refine Layer.rolled_fitsBelow ?_ ?_
        · intro p hp'
          obtain ⟨q, hq, rfl⟩ := Option.map_eq_some_iff.mp hp'
          have hyq := (hf.linked.mem_iff q y).mpr hq
          have hne : y ≠ root := by
            rintro rfl
            rw [hroot] at hq
            cases hq
          have hbq : Below h.children root q := by
            rcases Relation.ReflTransGen.cases_tail hb with rfl | ⟨r, hbr, hyr⟩
            · exact absurd rfl hne
            · rwa [Option.some.inj (hq.symm.trans ((hf.linked.mem_iff r y).mp hyr))]
          rw [hp.isScroll_eq, Layer.setSkipParentMatrix_skipParentMatrix_]
          cases hscroll : (h.layer q).isScroll with
          | true => simp [hne, parentIsScroll, parentLayer, hq, hscroll]
          | false => simp [parentIsScroll, parentLayer, hq, hscroll, hflags q hbq hscroll y hyq]
        · rintro rfl hclean
          rcases hv.cases_last with ⟨rfl, -⟩ | ⟨q, b', hvq, hc, hb'⟩
          · have hfit := hg.fits y hclean fun q hq => by rw [hroot] at hq; cases hq
            rw [parentLayer, hroot] at hfit
            rw [hroot]
            exact hfit
          · -- neither the layer nor its parent was laid out
            obtain ⟨rfl, hclean'⟩ := (Bool.or_eq_false_iff.mp hb'.symm)
            have hq := (hf.linked.mem_iff q y).mp hc
            have hfit := hg.fits y hclean fun r hr => by
              rwa [Option.some.inj (hr.symm.trans hq)]
            rw [parentLayer, hq, Option.map_some] at hfit
            rw [hq, Option.map_some]
            unfold Layer.FitsBelow at hfit ⊢
            rw [hp.startMatrix_of_clean hvq hclean']
            exact hfit
      rw [hlayer, hp.visited y b hv]
      exact hroll
    · have hq : ∀ q, h.parent y = some q → h'.layer q = h.layer q := fun q hq =>
        hp.unreached q fun hbq => hb (hbq.tail ((hf.linked.mem_iff q y).mpr hq))
      rw [hp.unreached y hb] at hy ⊢
      have hfit := hg.fits y hy fun q hqy => by
        have hclean := hpar q ((hparent y).trans hqy)
        rwa [hq q hqy] at hclean
      have hsame : (h.parent y).map h'.layer = h.parentLayer y := by
        unfold parentLayer
        cases hqy : h.parent y with
        | none => rfl
        | some q => rw [Option.map_some, Option.map_some, hq q hqy]
      rw [hlayer, hsame]
      exact hfit

theorem removeFromParent_parent_ne {y : LayerId} (hf : h.Forest) (c : LayerId) (hy : y ≠ c) :
    (h.removeFromParent c).parent y = h.parent y := by
  cases hc : h.parent c with
  | none => rw [removeFromParent_of_none hc]
  | some q => rw [(hf.removeFromParent_spec hc).2.1, Function.update_of_ne hy]

/-- The step lemma: every edit returns and keeps the geometry fitting. -/
theorem GeometryFits.exec (hg : h.GeometryFits) {e : LayerEdit} (hr : e.InRange h)
    (hok : e.KeepsGeometry h) : ∃ h', e.exec h = some h' ∧ h'.GeometryFits := by
  have hf := hg.forest
  cases e with
  | insertChild p c i =>
    obtain ⟨l, hl⟩ := hf.linked.ends p
    have hmem := (hf.notAbove_iff hl).mp hok
    obtain ⟨h₁, hins, -, hpar, -⟩ := hf.insertChild_spec hl hmem i
    refine ⟨h₁.invalidate c LayerLayoutInvalidate, by simp [LayerEdit.exec, hins], ?_⟩
    refine hg.relinked (hf.insertChild hl hmem hr.1 hr.2 hins) (onlyLinks_insertChild hins) ?_
    intro y hy
    rw [hpar, Function.update_of_ne hy, removeFromParent_parent_ne hf c hy]
  | removeFromParent c =>
    exact ⟨_, rfl, hg.relinked (hf.removeFromParent c) (h.onlyLinks_removeFromParent c)
      fun y hy => removeFromParent_parent_ne hf c hy⟩
  | setFrame c frame =>
    exact ⟨_, rfl, hg.modified (·.setFrame frame) (fun _ => rfl) (fun _ => rfl) (fun _ => rfl) c⟩
  | setTransformMatrix c m =>
    exact ⟨_, rfl,
      hg.modified (·.setTransformMatrix m) (fun _ => rfl) (fun _ => rfl) (fun _ => rfl) c⟩
  | prePaint root context force =>
    obtain ⟨h', context', hrun, hp⟩ := prePaint_spec hf root context force
    exact ⟨h', by simp [LayerEdit.exec, hrun], hp.geometryFits hg hr.2 hok⟩

theorem editRun_geometryFits {h₀ : Heap} (hfresh : h₀.Fresh)
    (hrun : Run editStep (fun h e => e.KeepsGeometry h) h₀ h) : h.GeometryFits := by
  refine hrun.invariant (fun s e t hg hok hs => ?_) hfresh.geometryFits
  obtain ⟨h', hexec, hg'⟩ := hg.exec hs.1 hok
  rw [hs.2] at hexec
  cases hexec
  exact hg'

/-- In a tree with nothing due for layout, fitting geometry is the geometry from scratch. -/
theorem GeometryFits.eq_scratch (hg : h.GeometryFits) (hroot : h.parent root = none)
    (hclean : ∀ y, Below h.children root y → (h.layer y).invalidateMask_.layout = false)
    (hx : Below h.children root x) {l : List LayerId} (hl : ParentChain h.parent x l) {n : Nat}
    (hn : l.length ≤ n) :
    (h.layer x).absoluteTransformMatrix_ = h.scratchMatrixFrom n x := by
  have hlinked := hg.forest.linked
  induction hx generalizing n l with
  | refl =>
    have hfit := (hg.fits root (hclean root (Below.refl root)) fun q hq => by
      rw [hroot] at hq
      cases hq).1
    rw [parentLayer, hroot] at hfit
    cases n with
    | zero => exact hfit
    | succ n =>
      rw [hfit]
      simp only [scratchMatrixFrom, hroot]
      rfl
  | @tail p c hp hc ih =>
    have hpar := (hlinked.mem_iff p c).mp hc
    have hfit := (hg.fits c (hclean c (Below.tail hp hc)) fun q hq => by
      rw [Option.some.inj (hq.symm.trans hpar)]
      exact hclean p hp).1
    rw [parentLayer, hpar] at hfit
    obtain ⟨m, rfl, hm⟩ := hl.cases_parent hpar
    cases n with
    | zero => simp at hn
    | succ n =>
      rw [hfit]
      simp only [scratchMatrixFrom, hpar, ← ih hm (Nat.le_of_succ_le_succ hn)]
      rfl

/-- After any run of edits that inserts no layer below itself and pre-paints roots only when
the flags below them fit, one more such pre-paint returns and leaves every layer of the tree
with the matrix and the absolute frame from scratch. -/
theorem prePaint_geometry_eq_scratch {h₀ : Heap} (hfresh : h₀.Fresh)
    (hrun : Run editStep (fun h e => e.KeepsGeometry h) h₀ h) (hroot : h.parent root = none)
    (hflags : h.FlagsFit root) (context : PaintContext) (force : Bool) :
    ∃ h' context', h.prePaint root context force = some (h', context') ∧
      ∀ x, Below h'.children root x →
        (h'.layer x).absoluteTransformMatrix_ = h'.scratchMatrix x ∧
        (h'.layer x).absFrame_ = h'.scratchAbsFrame x := by
  have hg := editRun_geometryFits hfresh hrun
  obtain ⟨h', context', hpp, hp⟩ := prePaint_spec hg.forest root context force
  have hg' := hp.geometryFits hg hroot hflags
  have hf' := hg'.forest
  have hroot' : h'.parent root = none := by
    cases hpar : h'.parent root with
    | none => rfl
    | some p =>
      rw [hp.parent_of_parent hpar] at hroot
      cases hroot
  have hclean : ∀ y, Below h'.children root y →
      (h'.layer y).invalidateMask_.layout = false := fun y hy => by
    rw [hp.mask_eq ((hp.below_iff hg.forest).mp hy).1]
    simp
  refine ⟨h', context', hpp, ?_⟩
  intro x hx
  obtain ⟨l, hl⟩ := hf'.linked.ends x
  have hm : (h'.layer x).absoluteTransformMatrix_ = h'.scratchMatrix x :=
    hg'.eq_scratch hroot' hclean hx hl (hf'.chain_length_le hl)
  have hpar : ∀ q, h'.parent x = some q → (h'.layer q).invalidateMask_.layout = false := by
    intro q hq
    rcases Relation.ReflTransGen.cases_tail hx with rfl | ⟨r, hbr, hxr⟩
    · rw [hroot'] at hq
      cases hq
    · rw [Option.some.inj (hq.symm.trans ((hf'.linked.mem_iff r x).mp hxr))]
      exact hclean r hbr
  refine ⟨hm, ?_⟩
  rw [scratchAbsFrame, ← hm]
  exact (hg'.fits x (hclean x hx) hpar).2

end

end Heap

end

namespace Heap

open TranslationSkia

/-- A root, a scroll layer, a plain layer away from the origin, and a layer to move. -/
def moveHeap : Heap := ofLayers
  [{ frame_ := .MakeXYWH 0 0 100 100 },
   { type_ := .scroll, frame_ := .MakeXYWH 0 0 50 50 },
   { frame_ := .MakeXYWH 60 0 30 30 },
   { frame_ := .MakeXYWH 1 2 10 10 }]

theorem moveHeap_fresh : moveHeap.Fresh where
  unlinked :=
    ⟨ofLayers_forall (P := fun l => l.parent_ = none) (by decide) rfl,
      ofLayers_forall (P := fun l => l.children_ = []) (by decide) rfl⟩
  mask := ofLayers_forall (P := fun l => l.invalidateMask_ = LayerInvalidateAll) (by decide) rfl

/-- Layer 3 is painted in the scroll layer and moves to the plain layer. -/
def moveEdits : List LayerEdit :=
  [.insertChild 0 1 0, .insertChild 0 2 1, .insertChild 1 3 0,
    .prePaint 0 ⟨[], true, (0, 0)⟩ false, .insertChild 2 3 0]

/-- In the plain layer it is still laid out as if at the origin. -/
theorem moved_out_of_scroll_is_stale : ¬ ∀ (h₀ h : Heap) (root : LayerId)
    (context : PaintContext) (h' : Heap) (context' : PaintContext), h₀.Fresh →
    Run editStep anyStep h₀ h → h.parent root = none →
    h.prePaint root context false = some (h', context') → ∀ x, Below h'.children root x →
      (h'.layer x).absoluteTransformMatrix_ = h'.scratchMatrix x ∧
      (h'.layer x).absFrame_ = h'.scratchAbsFrame x := by
  intro hall
  have hval : ((moveEdits.foldlM LayerEdit.exec? moveHeap).bind fun h =>
      (h.prePaint 0 ⟨[], true, (0, 0)⟩ false).map fun r =>
        (decide (h.parent 0 = none), r.1.children 0, r.1.children 2,
          decide ((r.1.layer 3).absFrame_ = r.1.scratchAbsFrame 3))) =
      some (true, [1, 2], [3], false) := by
    decide +kernel
  obtain ⟨h, hrun, hval⟩ := Option.bind_eq_some_iff.mp hval
  obtain ⟨⟨h', context'⟩, hpp, hval⟩ := Option.map_eq_some_iff.mp hval
  simp only [Prod.mk.injEq, decide_eq_true_eq, decide_eq_false_iff_not] at hval
  obtain ⟨hroot, hc₀, hc₂, hstale⟩ := hval
  have hrun' : Run editStep anyStep moveHeap h :=
    Run.of_foldlM (fun _ _ _ hs => ⟨trivial, editStep_of_exec? hs⟩) hrun
  have hbelow : Below h'.children 0 3 :=
    ((Below.refl 0).tail (p := 0) (c := 2) (by simp [hc₀])).tail (by simp [hc₂])
  exact hstale (hall moveHeap h 0 _ h' context' moveHeap_fresh hrun' hroot hpp 3 hbelow).2

theorem prePaint_geometry_eq_scratch_insert : ∃ h : Heap,
    LayerEdit.exec moveHeap (.insertChild 0 2 0) = some h ∧
    ∃ h' context', h.prePaint 0 ⟨[], true, (0, 0)⟩ false = some (h', context') ∧
      ∀ x, Below h'.children 0 x →
        (h'.layer x).absoluteTransformMatrix_ = h'.scratchMatrix x ∧
        (h'.layer x).absFrame_ = h'.scratchAbsFrame x := by
  obtain ⟨h, hs⟩ : ∃ h, LayerEdit.exec moveHeap (.insertChild 0 2 0) = some h :=
    Option.isSome_iff_exists.mp (by decide)
  have hrun : Run editStep (fun h e => e.KeepsGeometry h) moveHeap h :=
    Run.single (a := .insertChild 0 2 0) ⟨by decide, by decide⟩ ⟨⟨by decide, by decide⟩, hs⟩
  have hroot : h.parent 0 = none := by
    have hpar : (LayerEdit.exec moveHeap (.insertChild 0 2 0)).map (·.parent 0) = some none := by
      decide
    rw [hs] at hpar
    exact Option.some.inj hpar
  -- no layer has been in a scroll layer yet
  have hskip : ∀ x, (h.layer x).skipParentMatrix_ = false := by
    have hs' := hs
    simp only [LayerEdit.exec] at hs'
    obtain ⟨h₁, hins, rfl⟩ := Option.map_eq_some_iff.mp hs'
    intro x
    obtain ⟨p, cs, hx⟩ := onlyLinks_insertChild hins x
    have h₀ : (moveHeap.layer x).skipParentMatrix_ = false :=
      ofLayers_forall (P := fun l => l.skipParentMatrix_ = false) (by decide) rfl x
    rw [invalidate, modify_layer]
    split
    · rename_i he
      subst he
      rw [hx]
      exact h₀
    · rw [hx]
      exact h₀
  exact ⟨h, hs, prePaint_geometry_eq_scratch moveHeap_fresh hrun hroot
    (fun _ _ _ c _ => hskip c) ⟨[], true, (0, 0)⟩ false⟩

end Heap

end ReactNativeSkia
