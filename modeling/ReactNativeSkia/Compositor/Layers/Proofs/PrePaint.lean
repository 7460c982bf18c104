import ReactNativeSkia.Compositor.Layers.Proofs.PrePaintSpec

/-!
# `prePaint` meets its specification

The removal loop first, then the loop over the children by induction on the list, then
`prePaint` by induction on its levels. What one child's pre-paint reaches lies below that
child, so in a forest the siblings still to come are as they were.
-/

namespace ReactNativeSkia

open Rect

namespace Heap

/-! ## The removal loop -/

/-- `recycleChildList` of a list of children that starts at `index`. -/
def markedFrom (marked : LayerId → Bool) : List LayerId → Nat → List (Nat × LayerId)
  | [], _ => []
  | c :: cs, index =>
    if marked c then (index, c) :: markedFrom marked cs (index + 1)
    else markedFrom marked cs (index + 1)

theorem markedFrom_congr {marked marked' : LayerId → Bool} {cs : List LayerId}
    (h : ∀ c ∈ cs, marked c = marked' c) (index : Nat) :
    markedFrom marked cs index = markedFrom marked' cs index := by
  induction cs generalizing index with
  | nil => rfl
  | cons c cs ih =>
    simp only [markedFrom, h c List.mem_cons_self,
      ih (fun d hd => h d (List.mem_cons_of_mem _ hd))]

variable [Skia]

/-- Erasing from the largest collected index down meets each marked child at its index: the
unmarked ones stay in order, and only the marked ones lose their parent. -/
theorem recycle_markedFrom (h : Heap) (p : LayerId) (marked : LayerId → Bool)
    (pre cs : List LayerId) (hp : h.children p = pre ++ cs) (hcs : p ∉ cs) :
    (h.recycle p (markedFrom marked cs pre.length)).nextId = h.nextId ∧
    (h.recycle p (markedFrom marked cs pre.length)).layer p =
      (h.layer p).withChildren (pre ++ cs.filter fun c => !marked c) ∧
    ∀ x, x ≠ p → (h.recycle p (markedFrom marked cs pre.length)).layer x =
      if x ∈ cs ∧ marked x = true then (h.layer x).withParent none else h.layer x := by
  induction cs generalizing pre with
  | nil =>
    rw [List.append_nil] at hp
    refine ⟨rfl, ?_, fun x _ => by simp [markedFrom, recycle]⟩
    simp only [List.filter_nil, List.append_nil, ← hp]
    rfl
  | cons c cs ih =>
    have hcp : c ≠ p := fun he => hcs (he ▸ List.mem_cons_self)
    obtain ⟨hn, hself, hother⟩ := ih (pre ++ [c]) (by simp [hp])
      (fun hm => hcs (List.mem_cons_of_mem _ hm))
    rw [List.length_append, List.length_singleton] at hn hself hother
    cases hm : marked c with
    | false =>
      simp only [markedFrom, hm, Bool.false_eq_true, if_false]
      refine ⟨hn, ?_, ?_⟩
      · rw [hself]
        simp [hm]
      · intro x hx
        rw [hother x hx]
        by_cases hxc : x = c <;> simp [hxc, hm]
    | true =>
      simp only [markedFrom, hm, if_true]
      change ((h.recycle p (markedFrom marked cs (pre.length + 1))).removeChildAt p c
        pre.length).nextId = _ ∧ ((h.recycle p (markedFrom marked cs
        (pre.length + 1))).removeChildAt p c pre.length).layer p = _ ∧ ∀ x, x ≠ p →
        ((h.recycle p (markedFrom marked cs (pre.length + 1))).removeChildAt p c
        pre.length).layer x = _
      generalize h.recycle p (markedFrom marked cs (pre.length + 1)) = h₁ at hn hself hother ⊢
      have hch : h₁.children p = pre ++ c :: cs.filter fun d => !marked d := by
        unfold children
        rw [hself]
        simp
      have hlt : ¬ pre.length ≥ (h₁.children p).length := by
        rw [hch]
        simp
      rw [removeChildAt, if_neg hlt]
      refine ⟨hn, ?_, ?_⟩
      · have hc' : (h₁.clearParent c).layer p = h₁.layer p := h₁.modify_layer_ne _ hcp.symm
        rw [modify_layer_self, hc']
        have herase : (h₁.layer p).children_.eraseIdx pre.length =
            pre ++ cs.filter fun d => !marked d := by
          rw [show (h₁.layer p).children_ = _ from hch,
            List.eraseIdx_append_of_length_le (Nat.le_refl _)]
          simp
        rw [herase, hself]
        simp only [List.filter_cons, hm]
        rfl
      · intro x hx
        rw [modify_layer_ne _ _ hx, clearParent, modify_layer]
        by_cases hxc : x = c
        · subst hxc
          rw [if_pos rfl, if_pos ⟨List.mem_cons_self, hm⟩, hother x hx]
          split <;> rfl
        · rw [if_neg hxc, hother x hx]
          simp [hxc]

/-! ## The loop over the children -/

theorem emitted_setSkipParentMatrix (l l' : Layer) (b : Bool) :
    (l.setSkipParentMatrix b).emitted l' = l.emitted l' := rfl

theorem finished_setSkipParentMatrix (l l' : Layer) (parent : Option Layer)
    (b force skip unlink : Bool) (kept : List LayerId) :
    (l.setSkipParentMatrix b).finished l' parent force skip unlink kept =
      l.finished l' parent force skip unlink kept := rfl

/-- What `enter` does to a child in either loop. -/
def Enters (enter : Layer → Layer) (skips : Bool) : Prop :=
  ∀ l : Layer, enter l = l.setSkipParentMatrix (l.skipParentMatrix_ || skips)

/-- A pre-paint at `n` levels that meets the specification. -/
def Meets (prePaint : PrePaint) (n : Nat) : Prop :=
  ∀ (h : Heap) (x : LayerId) (context : PaintContext) (force : Bool), h.Forest →
    DepthLt h.children n x → ∃ h' context', prePaint h x context force = some (h', context') ∧
      PrePainted h x context force h' context'

section
variable {h hA hB h' : Heap} {p c : LayerId} {cs : List LayerId} {skips force : Bool}
  {context contextB context' : PaintContext}

/-- Entering a child changes its `skipParentMatrix_` only. -/
theorem modify_enter_sameLinks {enter : Layer → Layer} (henter : Enters enter skips)
    (h : Heap) (c : LayerId) : h.SameLinks (h.modify c enter) :=
  h.sameLinks_modify c (fun l => by rw [henter l]; rfl) (fun l => by rw [henter l]; rfl)

theorem modify_enter_layer {enter : Layer → Layer} (henter : Enters enter skips)
    (h : Heap) (c x : LayerId) : (h.modify c enter).layer x =
      (h.layer x).setSkipParentMatrix
        ((h.layer x).skipParentMatrix_ || (decide (x = c) && skips)) := by
  rw [modify_layer]
  by_cases hx : x = c
  · subst hx
    rw [if_pos rfl, henter]
    simp
  · rw [if_neg hx]
    simp [hx, Layer.setSkipParentMatrix]

theorem modify_enter_agree {enter : Layer → Layer} (henter : Enters enter skips)
    (h : Heap) (c a : LayerId) : AgreeBelow h (h.modify c enter) a := by
  intro x _
  refine ⟨congrFun (modify_enter_sameLinks henter h c).2.2 x, ?_, ?_⟩ <;>
    rw [modify_enter_layer henter] <;> rfl

theorem parentIsScroll_congr {h h' : Heap} {x : LayerId} (hp : h'.parent x = h.parent x)
    (ht : ∀ q, h.parent x = some q → (h'.layer q).type_ = (h.layer q).type_) :
    h'.parentIsScroll x = h.parentIsScroll x := by
  unfold parentIsScroll parentLayer
  rw [hp]
  cases hq : h.parent x with
  | none => rfl
  | some q => simp [Layer.isScroll, ht q hq]

theorem kept_congr {h h' : Heap} {x : LayerId} (hc : h'.children x = h.children x)
    (hm : ∀ c ∈ h.children x, (h'.layer c).invalidateMask_ = (h.layer c).invalidateMask_) :
    h'.kept x = h.kept x := by
  unfold kept
  rw [hc]
  exact List.filter_congr fun c hmem => by rw [hm c hmem]

/-- The heap between two children of one layer: what lies below one child is done, the rest
is as before the loop. -/
structure Between (h : Heap) (p c : LayerId) (cs : List LayerId) (hB h' : Heap) : Prop where
  /-- Nothing outside the part below `c` was reached for `c`. -/
  before : ∀ x, ¬ Below h.children c x → hB.layer x = h.layer x
  /-- Nothing outside the parts below the other children is reached for them. -/
  after : ∀ x, (∀ d ∈ cs, ¬ Below h.children d x) → h'.layer x = hB.layer x
  apart : ∀ d ∈ cs, ∀ x, Below h.children d x → ¬ Below h.children c x
  above : ∀ d ∈ c :: cs, ¬ Below h.children d p

namespace Between

theorem agree (hb : Between h p c cs hB h') {d : LayerId} (hd : d ∈ cs) :
    AgreeBelow h hB d := by
  intro x hx
  have hl := hb.before x (hb.apart d hd x hx)
  exact ⟨congrArg Layer.children_ hl, congrArg Layer.invalidateMask_ hl,
    congrArg Layer.type_ hl⟩

theorem after_below (hb : Between h p c cs hB h') {x : LayerId} (hx : Below h.children c x) :
    h'.layer x = hB.layer x :=
  hb.after x fun d hd hdx => hb.apart d hd x hdx hx

end Between

theorem before_of_painted {enter : Layer → Layer} (henter : Enters enter skips)
    (hp : PrePainted (h.modify c enter) c context force hB contextB) {x : LayerId}
    (hx : ¬ Below h.children c x) : hB.layer x = h.layer x := by
  rw [hp.unreached x (by rw [(modify_enter_sameLinks henter h c).2.2]; exact hx), modify_layer_ne]
  rintro rfl
  exact hx (Below.refl x)

theorem between_of_painted {enter : Layer → Layer} (henter : Enters enter skips)
    (hf : h.Forest) (hc : c ∈ h.children p) (hcs : ∀ d ∈ cs, d ∈ h.children p) (hnd : c ∉ cs)
    (hp : PrePainted (h.modify c enter) c context force hB contextB)
    (hr : ChildrenPainted hB cs skips contextB force h' context') : Between h p c cs hB h' := by
  have apart : ∀ d ∈ cs, ∀ x, Below h.children d x → ¬ Below h.children c x := by
    intro d hd x hdx hcx
    rw [hf.linked.disjoint_children hc (hcs d hd) hcx hdx] at hnd
    exact hnd hd
  refine ⟨fun x hx => before_of_painted henter hp hx, ?_, apart, ?_⟩
  · intro x hx
    refine hr.unreached x fun d hd hdx => hx d hd ?_
    refine (Below.congr fun y hy => ?_).mp hdx
    exact congrArg Layer.children_ (before_of_painted henter hp (apart d hd y hy))
  · intro d hd
    rcases List.mem_cons.mp hd with rfl | hd
    · exact hf.linked.not_below_of_child hc
    · exact hf.linked.not_below_of_child (hcs d hd)

/-- What the pre-paint of the first child made of a layer stays. -/
theorem Between.visited_first {enter : Layer → Layer} (hb : Between h p c cs hB h')
    (henter : Enters enter skips) (hf : h.Forest) (hc : c ∈ h.children p)
    (hp : PrePainted (h.modify c enter) c context force hB contextB) {x : LayerId} {b : Bool}
    (hv : h.Visits c force x b) :
    h'.layer x = (h.layer x).finished (h'.layer x) ((h.parent x).map h'.layer) b
      ((h.layer x).skipParentMatrix_ || if x = c then skips else h.parentIsScroll x)
      (decide (x ≠ c) && (h.layer x).invalidateMask_.remove) (h.kept x) := by
  obtain ⟨-, hpar, hch⟩ := modify_enter_sameLinks henter h c
  have hlay := modify_enter_layer henter h c
  have hx := hv.reached
  have hvis := hp.visited x b ((modify_enter_agree henter h c c).visits hv)
  have hps : (h.modify c enter).parentIsScroll x = h.parentIsScroll x :=
    parentIsScroll_congr (congrFun hpar x) fun q _ => by rw [hlay q]; rfl
  have hk : (h.modify c enter).kept x = h.kept x :=
    kept_congr (congrFun hch x) fun e _ => by rw [hlay e]; rfl
  -- the parent of a layer below `c` is below `c` or is `p`
  have hup {q : LayerId} (hq : h.parent x = some q) : h'.layer q = hB.layer q := by
    rcases Relation.ReflTransGen.cases_tail hx with rfl | ⟨r, hr', hxr⟩
    · have hqp := (hf.linked.mem_iff p x).mp hc
      obtain rfl : q = p := Option.some.inj (hq.symm.trans hqp)
      exact hb.after q fun d hd => hb.above d (List.mem_cons_of_mem _ hd)
    · have hqr := (hf.linked.mem_iff r x).mp hxr
      obtain rfl : q = r := Option.some.inj (hq.symm.trans hqr)
      exact hb.after_below hr'
  have hmap : ((h.modify c enter).parent x).map hB.layer = (h.parent x).map h'.layer := by
    rw [hpar]
    cases hq : h.parent x with
    | none => rfl
    | some q => simp [hup hq]
  have hskip : ((h.layer x).skipParentMatrix_ || (decide (x = c) && skips) ||
      (decide (x ≠ c) && h.parentIsScroll x)) =
      ((h.layer x).skipParentMatrix_ || if x = c then skips else h.parentIsScroll x) := by
    by_cases hxc : x = c <;> simp [hxc]
  rw [hmap, hps, hk, hlay, finished_setSkipParentMatrix] at hvis
  rw [hb.after_below hx, ← hskip]
  exact hvis

/-- The other children find their layers as they were before the loop. -/
theorem Between.visited_rest (hb : Between h p c cs hB h') (hf : h.Forest)
    (hr : ChildrenPainted hB cs skips contextB force h' context') {d x : LayerId} {b : Bool}
    (hd : d ∈ cs) (hv : h.Visits d force x b) :
    h'.layer x = (h.layer x).finished (h'.layer x) ((h.parent x).map h'.layer) b
      ((h.layer x).skipParentMatrix_ || if x = d then skips else h.parentIsScroll x)
      (decide (x ≠ d) && (h.layer x).invalidateMask_.remove) (h.kept x) := by
  have hx := hv.reached
  have hbx := hb.before x (hb.apart d hd x hx)
  have hvis := hr.visited d hd x b ((hb.agree hd).visits hv)
  have hk : hB.kept x = h.kept x :=
    kept_congr (congrArg Layer.children_ hbx) fun e he => by
      rw [hb.before e (hb.apart d hd e (hx.tail he))]
  have hps : (if x = d then skips else hB.parentIsScroll x) =
      if x = d then skips else h.parentIsScroll x := by
    by_cases hxd : x = d
    · rw [if_pos hxd, if_pos hxd]
    · rw [if_neg hxd, if_neg hxd]
      apply parentIsScroll_congr (congrArg Layer.parent_ hbx)
      intro q hq
      have hxq := (hf.linked.mem_iff q x).mpr hq
      rcases Relation.ReflTransGen.cases_tail hx with rfl | ⟨r, hr', hxr⟩
      · exact absurd rfl hxd
      · have hqr := (hf.linked.mem_iff r x).mp hxr
        obtain rfl : q = r := Option.some.inj (hq.symm.trans hqr)
        rw [hb.before q (hb.apart d hd q hr')]
  have hpx : hB.parent x = h.parent x := congrArg Layer.parent_ hbx
  rw [hps, hk, hpx, hbx] at hvis
  exact hvis

/-- The children painted after one child, as seen from before it. -/
theorem ChildrenPainted.cons {enter : Layer → Layer} (henter : Enters enter skips)
    (hf : h.Forest) (hc : c ∈ h.children p) (hcs : ∀ d ∈ cs, d ∈ h.children p) (hnd : c ∉ cs)
    (hp : PrePainted (h.modify c enter) c context force hB contextB)
    (hr : ChildrenPainted hB cs skips contextB force h' context') :
    ChildrenPainted h (c :: cs) skips context force h' context' := by
  have hb := between_of_painted henter hf hc hcs hnd hp hr
  obtain ⟨-, -, hch⟩ := modify_enter_sameLinks henter h c
  have hlay := modify_enter_layer henter h c
  have hagr := modify_enter_agree henter h c
  -- emissions below `c` and below the others, in terms of the first and the last heap
  have hemit : ∀ {x}, Below h.children c x →
      ((h.modify c enter).layer x).emitted (hB.layer x) = (h.layer x).emitted (h'.layer x) := by
    intro x hx
    rw [hlay x, emitted_setSkipParentMatrix, hb.after_below hx]
  have hemit' : ∀ {d x}, d ∈ cs → Below h.children d x →
      (hB.layer x).emitted (h'.layer x) = (h.layer x).emitted (h'.layer x) := by
    intro d x hd hx
    rw [hb.before x (hb.apart d hd x hx)]
  refine ⟨hr.nextId.trans hp.nextId, hr.support.trans hp.support, ?_, ?_, ?_, ?_⟩
  · intro x hx
    rw [hb.after x fun d hd => hx d (List.mem_cons_of_mem _ hd),
      hb.before x (hx c List.mem_cons_self)]
  · intro d hd x b hv
    rcases List.mem_cons.mp hd with rfl | hd
    · exact hb.visited_first henter hf hc hp hv
    · exact hb.visited_rest hf hr hd hv
  · intro q
    rw [hr.damage, hp.damage, hp.support, or_assoc, ← and_or_left]
    refine or_congr Iff.rfl (and_congr_right fun _ => ?_)
    rw [List.exists_mem_cons_iff]
    refine or_congr (exists_congr fun x => ?_) (exists_congr fun d => and_congr_right fun hd =>
      exists_congr fun x => ?_)
    · rw [(hagr c).sameContext_iff]
      exact and_congr_right fun hs => by rw [hemit hs.reached]
    · rw [(hb.agree hd).sameContext_iff]
      exact and_congr_right fun hs => by rw [hemit' hd hs.reached]
  · intro d hd s hs hscroll q
    rcases List.mem_cons.mp hd with rfl | hd
    · have hbit := hp.bitmap s ((hagr d).below_iff.mpr hs)
        (by rw [hlay s]; exact hscroll) q
      rw [hb.after_below hs, hbit, hlay s, hch]
      refine or_congr Iff.rfl (exists_congr fun e => and_congr_right fun he =>
        exists_congr fun x => ?_)
      rw [(hagr e).sameContext_iff]
      exact and_congr_right fun hx => by
        rw [hemit (Relation.ReflTransGen.trans (hs.tail he) hx.reached)]
    · have hbs := hb.before s (hb.apart d hd s hs)
      have hbit := hr.bitmap d hd s ((hb.agree hd).below_iff.mpr hs)
        (by rw [hbs]; exact hscroll) q
      have hchs : hB.children s = h.children s := congrArg Layer.children_ hbs
      rw [hbit, hbs, hchs]
      refine or_congr Iff.rfl (exists_congr fun e => and_congr_right fun he =>
        exists_congr fun x => ?_)
      have hage : AgreeBelow h hB e := fun y hy =>
        hb.agree hd y (Relation.ReflTransGen.trans (hs.tail he) hy)
      rw [hage.sameContext_iff]
      exact and_congr_right fun hx => by
        rw [hemit' hd (Relation.ReflTransGen.trans (hs.tail he) hx.reached)]

end

/-- The loop over the children returns and paints each of them, and it collects the marked
ones with their indices. -/
theorem prePaintChildren_spec {prePaint : PrePaint} {n : Nat} (hpre : Meets prePaint n)
    {enter : Layer → Layer} {skips : Bool} (henter : Enters enter skips)
    (marked : LayerInvalidateMask → Bool)
    (hmarked : ∀ m : LayerInvalidateMask, marked (m.and LayerRemoveInvalidate) = m.remove)
    (force : Bool) (p : LayerId) (cs : List LayerId) (index : Nat) (h : Heap)
    (context : PaintContext) (hf : h.Forest) (hcs : ∀ d ∈ cs, d ∈ h.children p)
    (hnd : cs.Nodup) (hdepth : ∀ d ∈ cs, DepthLt h.children n d) :
    ∃ h' context', prePaintChildren prePaint enter marked force cs index h context =
      some (h', context',
        markedFrom (fun c => (h.layer c).invalidateMask_.remove) cs index) ∧
      ChildrenPainted h cs skips context force h' context' := by
  induction cs generalizing index h context with
  | nil =>
    refine ⟨h, context, rfl, rfl, rfl, fun _ _ => rfl, ?_, ?_, ?_⟩
    · intro c hc; cases hc
    · simp
    · intro c hc; cases hc
  | cons c cs ih =>
    obtain ⟨hnc, hnd⟩ := List.nodup_cons.mp hnd
    have hc := hcs c List.mem_cons_self
    have hcs' : ∀ d ∈ cs, d ∈ h.children p := fun d hd => hcs d (List.mem_cons_of_mem _ hd)
    have hlinks := modify_enter_sameLinks henter h c
    obtain ⟨hB, contextB, hrun, hp⟩ := hpre (h.modify c enter) c context force
      (hlinks.forest hf) (by rw [hlinks.2.2]; exact hdepth c List.mem_cons_self)
    -- the siblings to come, and what lies below them, are as before
    have hbefore : ∀ {d}, d ∈ cs → ∀ x, Below h.children d x → hB.layer x = h.layer x := by
      intro d hd x hdx
      refine before_of_painted henter hp fun hcx => hnc ?_
      rw [hf.linked.disjoint_children hc (hcs' d hd) hcx hdx]
      exact hd
    have hpB : hB.children p = h.children p := congrArg Layer.children_
      (before_of_painted henter hp (hf.linked.not_below_of_child hc))
    obtain ⟨h', context', hloop, hr⟩ := ih (index + 1) hB contextB
      (hp.forest (hlinks.forest hf)) (fun d hd => by rw [hpB]; exact hcs' d hd) hnd
      (fun d hd => (hdepth d (List.mem_cons_of_mem _ hd)).congr fun x hx =>
        congrArg Layer.children_ (hbefore hd x hx))
    have hrest : markedFrom (fun d => (hB.layer d).invalidateMask_.remove) cs (index + 1) =
        markedFrom (fun d => (h.layer d).invalidateMask_.remove) cs (index + 1) :=
      markedFrom_congr (fun d hd => by rw [hbefore hd d (Below.refl d)]) _
    have hmask : marked (hB.layer c).invalidateMask_ = (h.layer c).invalidateMask_.remove := by
      rw [hp.mask_eq (Below.refl c), hmarked, modify_enter_layer henter]
      rfl
    refine ⟨h', context', ?_, ChildrenPainted.cons henter hf hc hcs' hnc hp hr⟩
    simp only [prePaintChildren, hrun, Option.bind_eq_bind, Option.bind_some, hloop, hrest,
      hmask, markedFrom]
    rfl

/-! ## One layer -/

theorem emitted_withParent (l l' : Layer) (p : Option LayerId) :
    l.emitted (l'.withParent p) = l.emitted l' := by
  simp only [Layer.emitted, Layer.scrollDamage, Layer.layOutScrollbar, apply_ite Layer.scrollbar_]
  rfl

theorem finished_congr {p p' : Option Layer} (l l' : Layer) (force skip unlink : Bool)
    (kept : List LayerId)
    (h : p.map (fun q => (q.absoluteTransformMatrix_, q.frame_)) =
      p'.map (fun q => (q.absoluteTransformMatrix_, q.frame_))) :
    l.finished l' p force skip unlink kept = l.finished l' p' force skip unlink kept := by
  unfold Layer.finished
  rw [Layer.rolled_congr _ force h]

theorem exists_sameContext_iff {h : Heap} {x : LayerId} (hplain : (h.layer x).isScroll = false)
    (P : LayerId → Prop) : (∃ y, h.SameContext x y ∧ P y) ↔
      P x ∨ ∃ c ∈ h.children x, ∃ y, h.SameContext c y ∧ P y := by
  constructor
  · rintro ⟨y, hy, hP⟩
    rcases sameContext_head_iff.mp hy with rfl | ⟨-, c, hc, hcy⟩
    · exact Or.inl hP
    · exact Or.inr ⟨c, hc, y, hcy, hP⟩
  · rintro (hP | ⟨c, hc, y, hcy, hP⟩)
    · exact ⟨x, .root, hP⟩
    · exact ⟨y, sameContext_head_iff.mpr (Or.inr ⟨hplain, c, hc, hcy⟩), hP⟩

theorem sameContext_of_isScroll {h : Heap} {x y : LayerId}
    (hscroll : (h.layer x).isScroll = true) : h.SameContext x y ↔ y = x := by
  rw [sameContext_head_iff, hscroll]
  simp

/-- The heaps in the pre-paint of `x`: `h₁` before the loop over the children, `h₂` after it
and `h'` at the end. -/
structure Closes (h h₁ h₂ h' : Heap) (x : LayerId) (force : Bool) : Prop where
  links : h.SameLinks h₁
  type : (h₁.layer x).type_ = (h.layer x).type_
  before : ∀ y, y ≠ x → h₁.layer y = h.layer y
  nextId : h'.nextId = h₂.nextId
  self : h'.layer x = (h.layer x).finished (h'.layer x) (h.parentLayer x) force
    (h.layer x).skipParentMatrix_ false (h.kept x)
  matrix : (h'.layer x).absoluteTransformMatrix_ = (h₂.layer x).absoluteTransformMatrix_
  frame : (h'.layer x).frame_ = (h₂.layer x).frame_
  after : ∀ y, y ≠ x → h'.layer y =
    if y ∈ h.children x ∧ (h.layer y).invalidateMask_.remove = true then
      (h₂.layer y).withParent none
    else h₂.layer y

namespace Closes

variable {h h₁ h₂ h' : Heap} {x : LayerId} {force force' : Bool} {context context' : PaintContext}

theorem ne_of_below (hf : h.Forest) {c y : LayerId} (hc : c ∈ h.children x)
    (hy : Below h.children c y) : y ≠ x := by
  rintro rfl
  exact hf.linked.not_below_of_child hc hy

theorem agree (hcl : Closes h h₁ h₂ h' x force) (hf : h.Forest) {c : LayerId}
    (hc : c ∈ h.children x) : AgreeBelow h h₁ c := by
  intro y hy
  have hl := hcl.before y (ne_of_below hf hc hy)
  exact ⟨congrArg Layer.children_ hl, congrArg Layer.invalidateMask_ hl,
    congrArg Layer.type_ hl⟩

/-- Removals do not touch what the layout of a child reads of its parent. -/
theorem geometry (hcl : Closes h h₁ h₂ h' x force) (q : LayerId) :
    ((h'.layer q).absoluteTransformMatrix_, (h'.layer q).frame_) =
      ((h₂.layer q).absoluteTransformMatrix_, (h₂.layer q).frame_) := by
  by_cases hq : q = x
  · subst hq
    rw [hcl.matrix, hcl.frame]
  · rw [hcl.after q hq]
    split <;> rfl

theorem emitted (hcl : Closes h h₁ h₂ h' x force) (hf : h.Forest) {c y : LayerId}
    (hc : c ∈ h.children x) (hy : Below h.children c y) :
    (h₁.layer y).emitted (h₂.layer y) = (h.layer y).emitted (h'.layer y) := by
  have hne := ne_of_below hf hc hy
  rw [hcl.before y hne, hcl.after y hne]
  split
  · rw [emitted_withParent]
  · rfl

/-- The pixels that the children emit, seen from before and after the whole. -/
theorem exists_emitted_iff (hcl : Closes h h₁ h₂ h' x force) (hf : h.Forest) (q : Pixel) :
    (∃ c ∈ h.children x, ∃ y, h₁.SameContext c y ∧
      Covered ((h₁.layer y).emitted (h₂.layer y)) q) ↔
    ∃ c ∈ h.children x, ∃ y, h.SameContext c y ∧
      Covered ((h.layer y).emitted (h'.layer y)) q := by
  refine exists_congr fun c => and_congr_right fun hc => exists_congr fun y => ?_
  rw [(hcl.agree hf hc).sameContext_iff]
  exact and_congr_right fun hy => by rw [hcl.emitted hf hc hy.reached]

theorem unreached (hcl : Closes h h₁ h₂ h' x force) (hf : h.Forest)
    (hr : ChildrenPainted h₁ (h.children x) (h.layer x).isScroll context force' h₂ context')
    {y : LayerId} (hy : ¬ Below h.children x y) : h'.layer y = h.layer y := by
  have hne : y ≠ x := by
    rintro rfl
    exact hy (Below.refl y)
  rw [hcl.after y hne, if_neg fun hm => hy ((Below.refl x).tail hm.1), hr.unreached y,
    hcl.before y hne]
  intro c hc hcy
  exact hy (Below.head hc ((hcl.agree hf hc).below_iff.mp hcy))

theorem visited (hcl : Closes h h₁ h₂ h' x force) (hf : h.Forest)
    (hr : ChildrenPainted h₁ (h.children x) (h.layer x).isScroll context
      (force || (h.layer x).invalidateMask_.layout) h₂ context')
    (y : LayerId) (b : Bool) (hv : h.Visits x force y b) :
    h'.layer y = (h.layer y).finished (h'.layer y) ((h.parent y).map h'.layer) b
      ((h.layer y).skipParentMatrix_ || (decide (y ≠ x) && h.parentIsScroll y))
      (decide (y ≠ x) && (h.layer y).invalidateMask_.remove) (h.kept y) := by
  rcases visits_head_iff.mp hv with ⟨rfl, rfl⟩ | ⟨c, hc, hv⟩
  · -- the layer itself: its parent is out of reach
    have hpar : (h.parent y).map h'.layer = h.parentLayer y := by
      unfold parentLayer
      cases hq : h.parent y with
      | none => rfl
      | some q =>
        rw [Option.map_some, Option.map_some, hcl.unreached hf hr]
        exact hf.linked.not_below_of_child ((hf.linked.mem_iff q y).mpr hq)
    rw [hpar]
    simpa using hcl.self
  · have hy := hv.reached
    have hne := ne_of_below hf hc hy
    have hvis := hr.visited c hc y b ((hcl.agree hf hc).visits hv)
    have hk : h₁.kept y = h.kept y :=
      kept_congr (congrFun hcl.links.2.2 y) fun d hd => by
        rw [hcl.before d (ne_of_below hf hc (hy.tail hd))]
    have hps : h₁.parentIsScroll y = h.parentIsScroll y := by
      apply parentIsScroll_congr (congrFun hcl.links.2.1 y)
      intro q _
      by_cases hq : q = x
      · rw [hq, hcl.type]
      · rw [hcl.before q hq]
    have hgeo : ((h.parent y).map h₂.layer).map (fun q => (q.absoluteTransformMatrix_, q.frame_))
        = ((h.parent y).map h'.layer).map (fun q => (q.absoluteTransformMatrix_, q.frame_)) := by
      cases h.parent y with
      | none => rfl
      | some q => simp only [Option.map_some, hcl.geometry q]
    rw [hk, hps, hcl.links.2.1, hcl.before y hne, finished_congr _ _ _ _ _ _ hgeo] at hvis
    by_cases hyc : y = c
    · subst hyc
      have hpx : h.parentIsScroll y = (h.layer x).isScroll := by
        simp [parentIsScroll, parentLayer, (hf.linked.mem_iff x y).mp hc]
      rw [if_pos rfl] at hvis
      rw [hpx, hcl.after y hne]
      cases hm : (h.layer y).invalidateMask_.remove with
      | true =>
        rw [if_pos ⟨hc, rfl⟩]
        simp only [ne_eq, not_true, decide_false, Bool.false_and, hne, not_false_eq_true,
          decide_true, Bool.true_and] at hvis ⊢
        rw [hvis]
        rfl
      | false =>
        rw [if_neg (by simp)]
        simpa [hm, hne] using hvis
    · have hnot : y ∉ h.children x := fun hyx =>
        hyc (hf.linked.disjoint_children hyx hc (Below.refl y) hy)
      rw [hcl.after y hne, if_neg fun hm => hnot hm.1]
      simpa [hyc, hne] using hvis

theorem bitmap (hcl : Closes h h₁ h₂ h' x force) (hf : h.Forest)
    (hr : ChildrenPainted h₁ (h.children x) (h.layer x).isScroll context force' h₂ context')
    {c s : LayerId} (hc : c ∈ h.children x) (hs : Below h.children c s)
    (hscroll : (h.layer s).isScroll = true) (q : Pixel) :
    Covered (h'.layer s).bitmapSurfaceDamage_ q ↔ Covered (h.layer s).bitmapSurfaceDamage_ q ∨
      ∃ d ∈ h.children s, ∃ y, h.SameContext d y ∧
        Covered ((h.layer y).emitted (h'.layer y)) q := by
  have hne := ne_of_below hf hc hs
  have hbit := hr.bitmap c hc s ((hcl.agree hf hc).below_iff.mpr hs)
    (by rw [hcl.before s hne]; exact hscroll) q
  have hself : (h'.layer s).bitmapSurfaceDamage_ = (h₂.layer s).bitmapSurfaceDamage_ := by
    rw [hcl.after s hne]
    split <;> rfl
  rw [hself, hbit, hcl.before s hne, hcl.links.2.2]
  refine or_congr Iff.rfl (exists_congr fun d => and_congr_right fun hd => exists_congr fun y => ?_)
  have hag : AgreeBelow h h₁ d := fun z hz => hcl.agree hf hc z ((hs.tail hd).trans hz)
  rw [hag.sameContext_iff]
  exact and_congr_right fun hy => by rw [hcl.emitted hf hc ((hs.tail hd).trans hy.reached)]

end Closes

section
variable {h h₁ h₂ : Heap} {x : LayerId} {n : Nat} {force force' : Bool}
  {context context₁ context₂ : PaintContext} {prePaint : PrePaint} {l₁ : Layer}

/-- The heap before the loop, if only geometry and mask of the layer have changed. -/
theorem sameLinks_start (hl : l₁.parent_ = (h.layer x).parent_)
    (hc : l₁.children_ = (h.layer x).children_) : h.SameLinks (h.set x l₁) :=
  h.sameLinks_set x hl hc

theorem layer_after_loop (hf : h.Forest) (hlinks : h.SameLinks (h.set x l₁)) {skips : Bool}
    (hr : ChildrenPainted (h.set x l₁) (h.children x) skips context force' h₂ context₂) :
    h₂.layer x = l₁ := by
  rw [hr.unreached x, set_layer_self]
  intro c hc
  rw [hlinks.2.2]
  exact hf.linked.not_below_of_child hc

/-- The removals after the loop. -/
theorem recycle_after_loop (hf : h.Forest) (hlinks : h.SameLinks (h.set x l₁)) {skips : Bool}
    (hr : ChildrenPainted (h.set x l₁) (h.children x) skips context force' h₂ context₂) :
    (h₂.recycle x (markedFrom (fun c => ((h.set x l₁).layer c).invalidateMask_.remove)
      (h.children x) 0)).nextId = h₂.nextId ∧
    (h₂.recycle x (markedFrom (fun c => ((h.set x l₁).layer c).invalidateMask_.remove)
      (h.children x) 0)).layer x = l₁.withChildren (h.kept x) ∧
    ∀ y, y ≠ x → (h₂.recycle x (markedFrom (fun c => ((h.set x l₁).layer c).invalidateMask_.remove)
      (h.children x) 0)).layer y =
        if y ∈ h.children x ∧ (h.layer y).invalidateMask_.remove = true then
          (h₂.layer y).withParent none
        else h₂.layer y := by
  have hnot : x ∉ h.children x := fun hm => hf.linked.not_below_of_child hm (Below.refl x)
  have hx := layer_after_loop hf hlinks hr
  have hch : h₂.children x = [] ++ h.children x := by
    rw [List.nil_append]
    exact (congrArg Layer.children_ hx).trans ((set_layer_self h x l₁) ▸ congrFun hlinks.2.2 x)
  have hmarks : markedFrom (fun c => ((h.set x l₁).layer c).invalidateMask_.remove)
      (h.children x) 0 = markedFrom (fun c => (h.layer c).invalidateMask_.remove)
      (h.children x) 0 :=
    markedFrom_congr (fun c hc => by rw [h.set_layer_ne l₁ (ne_of_mem_of_not_mem hc hnot)]) 0
  obtain ⟨hn, hself, hother⟩ := recycle_markedFrom h₂ x
    (fun c => (h.layer c).invalidateMask_.remove) [] (h.children x) hch hnot
  rw [hmarks]
  refine ⟨hn, ?_, hother⟩
  rw [hx] at hself
  exact hself

theorem withChildren_eq_finished (l : Layer) (parent : Option Layer) (force : Bool)
    (kept : List LayerId) :
    ((l.rolled parent force).withMask (l.invalidateMask_.and LayerRemoveInvalidate)).withChildren
      kept = l.finished (((l.rolled parent force).withMask
        (l.invalidateMask_.and LayerRemoveInvalidate)).withChildren kept) parent force
        l.skipParentMatrix_ false kept := by
  rw [Layer.finished, show l.setSkipParentMatrix l.skipParentMatrix_ = l from rfl, Layer.rolled_eq]
  rfl

theorem withScrollbar_eq_finished (l : Layer) (parent : Option Layer) (force : Bool)
    (kept : List LayerId) (damage : FrameDamages) (scrollbar : ScrollBar) :
    ((((l.rolled parent force).withChildren kept).withBitmapSurfaceDamage damage).withMask
      (l.invalidateMask_.and LayerRemoveInvalidate)).withScrollbar scrollbar =
    l.finished (((((l.rolled parent force).withChildren kept).withBitmapSurfaceDamage
      damage).withMask (l.invalidateMask_.and LayerRemoveInvalidate)).withScrollbar scrollbar)
      parent force l.skipParentMatrix_ false kept := by
  rw [Layer.finished, show l.setSkipParentMatrix l.skipParentMatrix_ = l from rfl, Layer.rolled_eq]
  rfl

theorem layerPrePaint_meets (hpre : Meets prePaint n) (hf : h.Forest)
    (hd : DepthLt h.children (n + 1) x) (hplain : (h.layer x).isScroll = false) :
    ∃ h' context', layerPrePaint prePaint h x context force = some (h', context') ∧
      PrePainted h x context force h' context' := by
  obtain ⟨l₁, hl₁⟩ : ∃ l₁, l₁ = ((h.layer x).rolled (h.parentLayer x) force).withMask
    ((h.layer x).invalidateMask_.and LayerRemoveInvalidate) := ⟨_, rfl⟩
  have hlinks : h.SameLinks (h.set x l₁) := by
    refine sameLinks_start ?_ ?_ <;> rw [hl₁] <;> simp
  obtain ⟨h₂, context₂, hloop, hr⟩ := prePaintChildren_spec hpre
    (show Enters id false from fun l => by simp [Layer.setSkipParentMatrix])
    (fun mask => decide (mask = LayerRemoveInvalidate))
    (fun m => by simp [LayerInvalidateMask.and_remove_eq_iff])
    (force || (h.layer x).invalidateMask_.layout) x (h.children x) 0 (h.set x l₁)
    ((h.layer x).preRoll (h.parentLayer x) context force).2 (hlinks.forest hf)
    (fun d hd => by rw [hlinks.2.2]; exact hd) (hf.linked.nodup x)
    (fun d hdx => by rw [hlinks.2.2]; exact hd d hdx)
  obtain ⟨hn, hself, hother⟩ := recycle_after_loop hf hlinks hr
  have hrun : layerPrePaint prePaint h x context force =
      some (h₂.recycle x (markedFrom (fun c => ((h.set x l₁).layer c).invalidateMask_.remove)
        (h.children x) 0), context₂) := by
    unfold layerPrePaint
    simp only [Layer.preRoll_fst, Layer.rolled_children_, Layer.rolled_invalidateMask_, ← hl₁]
    change (prePaintChildren prePaint id _ _ (h.children x) 0 (h.set x l₁) _).bind _ = _
    rw [hloop]
    rfl
  have hcl : Closes h (h.set x l₁) h₂ (h₂.recycle x (markedFrom
      (fun c => ((h.set x l₁).layer c).invalidateMask_.remove) (h.children x) 0)) x force := by
    refine ⟨hlinks, by rw [set_layer_self, hl₁]; simp, fun y hy => h.set_layer_ne _ hy, hn, ?_,
      ?_, ?_, hother⟩
    · rw [hself, hl₁]
      exact withChildren_eq_finished _ _ _ _
    · rw [hself, layer_after_loop hf hlinks hr]
      rfl
    · rw [hself, layer_after_loop hf hlinks hr]
      rfl
  rw [← hplain] at hr
  refine ⟨_, _, hrun, hn.trans hr.nextId, hr.support.trans (Layer.preRoll_support _ _ _ _),
    fun y hy => hcl.unreached hf hr hy, hcl.visited hf hr, ?_, ?_⟩
  · intro q
    have hemit : Covered ((h.layer x).preRollDamage
        ((h.layer x).rolled (h.parentLayer x) force).bounds_) q ↔
        Covered ((h.layer x).emitted ((h₂.recycle x (markedFrom
          (fun c => ((h.set x l₁).layer c).invalidateMask_.remove) (h.children x) 0)).layer x))
          q := by
      rw [hself, hl₁, Layer.emitted, hplain, if_neg Bool.false_ne_true, List.append_nil]
      rfl
    rw [hr.damage, Layer.covered_preRoll, Layer.preRoll_support, hcl.exists_emitted_iff hf,
      or_assoc, ← and_or_left, exists_sameContext_iff hplain, hemit]
  · intro s hs hscroll q
    rcases Below.cases_head_iff.mp hs with rfl | ⟨c, hc, hs⟩
    · rw [hplain] at hscroll
      cases hscroll
    · exact hcl.bitmap hf hr hc hs hscroll q

theorem scrollPrePaint_meets (hpre : Meets prePaint n) (hf : h.Forest)
    (hd : DepthLt h.children (n + 1) x) (hscroll : (h.layer x).isScroll = true) :
    ∃ h' context', scrollPrePaint prePaint h x context force = some (h', context') ∧
      PrePainted h x context force h' context' := by
  obtain ⟨l₁, hl₁⟩ : ∃ l₁, l₁ = (h.layer x).rolled (h.parentLayer x) force := ⟨_, rfl⟩
  have hlinks : h.SameLinks (h.set x l₁) := by
    refine sameLinks_start ?_ ?_ <;> rw [hl₁] <;> simp
  obtain ⟨h₂, context₂, hloop, hr⟩ := prePaintChildren_spec hpre
    (show Enters (Layer.setSkipParentMatrix true) true from fun l => by rw [Bool.or_true])
    LayerInvalidateMask.remove
    (fun m => by simp)
    (force || (h.layer x).invalidateMask_.layout) x (h.children x) 0 (h.set x l₁)
    { damageRect := (h.layer x).bitmapSurfaceDamage_, supportPartialUpdate := true }
    (hlinks.forest hf)
    (fun d hd => by rw [hlinks.2.2]; exact hd) (hf.linked.nodup x)
    (fun d hdx => by rw [hlinks.2.2]; exact hd d hdx)
  obtain ⟨hn, hself, hother⟩ := recycle_after_loop hf hlinks hr
  have hx := layer_after_loop hf hlinks hr
  -- the record the end of `prePaint` starts from
  obtain ⟨l₃, hl₃⟩ : ∃ l₃, l₃ = (l₁.withChildren (h.kept x)).withBitmapSurfaceDamage
    context₂.damageRect := ⟨_, rfl⟩
  obtain ⟨context₁, hc₁⟩ : ∃ context₁, context₁ =
    ((h.layer x).preRoll (h.parentLayer x) context force).2 := ⟨_, rfl⟩
  obtain ⟨h₃, hh₃⟩ : ∃ h₃, h₃ = h₂.recycle x (markedFrom
    (fun c => ((h.set x l₁).layer c).invalidateMask_.remove) (h.children x) 0) := ⟨_, rfl⟩
  rw [← hh₃] at hn hself hother
  obtain ⟨l', hl'⟩ : ∃ l', l' = (l₃.scrollPrePaintEnd context₁).1 := ⟨_, rfl⟩
  have hch₁ : l₁.children_ = h.children x := by rw [hl₁, Layer.rolled_children_]; rfl
  have hbit₁ : l₁.bitmapSurfaceDamage_ = (h.layer x).bitmapSurfaceDamage_ := by
    rw [hl₁, Layer.rolled_bitmapSurfaceDamage_]
  have hrun : scrollPrePaint prePaint h x context force =
      some (h₃.set x l', (l₃.scrollPrePaintEnd context₁).2) := by
    unfold scrollPrePaint
    simp only [Layer.preRoll_fst, ← hl₁, ← hc₁, hch₁, hbit₁]
    change (prePaintChildren prePaint _ _ _ (h.children x) 0 (h.set x l₁) _).bind _ = _
    rw [hloop]
    simp only [Option.bind_some, ← hh₃, hself, ← hl₃, hl']
    rfl
  have hl'eq : l' = ((((((h.layer x).rolled (h.parentLayer x) force).withChildren
      (h.kept x)).withBitmapSurfaceDamage context₂.damageRect).withMask
      ((h.layer x).invalidateMask_.and LayerRemoveInvalidate)).withScrollbar l'.scrollbar_) := by
    rw [hl', Layer.scrollPrePaintEnd_fst, hl₃, hl₁]
    simp
  have hcl : Closes h (h.set x l₁) h₂ (h₃.set x l') x force := by
    refine ⟨hlinks, by rw [set_layer_self, hl₁]; simp, fun y hy => h.set_layer_ne _ hy, hn, ?_,
      ?_, ?_, fun y hy => by rw [set_layer_ne _ _ hy]; exact hother y hy⟩
    · rw [set_layer_self, hl'eq]
      exact withScrollbar_eq_finished _ _ _ _ _ _
    · rw [set_layer_self, hx, hl'eq, hl₁]
      rfl
    · rw [set_layer_self, hx, hl'eq, hl₁]
      rfl
  -- the end starts from the mask and the scroll bar that the layer had
  have hend : (l'.withMask (h.layer x).invalidateMask_).withScrollbar (h.layer x).scrollbar_ =
      l₃ := by
    rw [hl'eq, hl₃, hl₁, Layer.rolled_eq]
    rfl
  have hbounds : l'.bounds_ = ((h.layer x).rolled (h.parentLayer x) force).bounds_ := by
    rw [hl'eq]
    rfl
  rw [← hscroll] at hr
  refine ⟨_, _, hrun, hn.trans hr.nextId, ?_, fun y hy => hcl.unreached hf hr hy,
    hcl.visited hf hr, ?_, ?_⟩
  · rw [Layer.scrollPrePaintEnd_support, hc₁, Layer.preRoll_support]
  · intro q
    rw [Layer.covered_scrollPrePaintEnd, hc₁, Layer.covered_preRoll, Layer.preRoll_support,
      or_assoc, ← and_or_left]
    simp only [sameContext_of_isScroll hscroll, exists_eq_left, set_layer_self, Layer.emitted,
      hscroll, if_true, covered_append, hend, hbounds]
  · intro s hs hscroll' q
    rcases Below.cases_head_iff.mp hs with rfl | ⟨c, hc, hs⟩
    · have hself' : ((h₃.set s l').layer s).bitmapSurfaceDamage_ = context₂.damageRect := by
        rw [set_layer_self, hl'eq]
        rfl
      rw [hself', hr.damage, hcl.exists_emitted_iff hf]
      simp only [hscroll, true_and]
    · exact hcl.bitmap hf hr hc hs hscroll' q

/-- At as many levels as the paths downwards need, `prePaint` returns and meets the
specification. -/
theorem prePaintLevels_spec (n : Nat) : Meets (prePaintLevels n) n := by
  induction n with
  | zero =>
    intro h x context force _ hd
    exact hd.elim
  | succ n ih =>
    intro h x context force hf hd
    simp only [prePaintLevels]
    cases hs : (h.layer x).isScroll with
    | true =>
      rw [if_pos rfl]
      exact scrollPrePaint_meets ih hf hd hs
    | false =>
      rw [if_neg Bool.false_ne_true]
      exact layerPrePaint_meets ih hf hd hs

/-- In a forest `prePaint` of any layer returns and meets the specification. -/
theorem prePaint_spec (hf : h.Forest) (x : LayerId) (context : PaintContext) (force : Bool) :
    ∃ h' context', h.prePaint x context force = some (h', context') ∧
      PrePainted h x context force h' context' :=
  prePaintLevels_spec _ h x context force hf (hf.linked.depthLt hf.range x)

end

end Heap

end ReactNativeSkia
