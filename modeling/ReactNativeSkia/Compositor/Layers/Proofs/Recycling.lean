import ReactNativeSkia.Compositor.Layers.Proofs.PrePaint
import ReactNativeSkia.Misc.Descent

/-!
# The removals of a pre-paint

The children that a `prePaint` takes out of its layer are collected with their indices in one loop
and erased in another, from the largest index down. Nothing is asked of the links but that the
children lists lead to an end: the pre-paint of a child reaches the layers below the child only,
and of the list of its parent it changes nothing.
-/

namespace ReactNativeSkia

namespace Heap

section
variable [Skia]

/-- The loop of either `prePaint` over the children of a layer, with what comes before it. -/
def collect (prePaint : PrePaint) (h : Heap) (layer : LayerId) (context : PaintContext)
    (forceLayout : Bool) : Option (Heap × PaintContext × List (Nat × LayerId)) :=
  let forceChildrenLayout := forceLayout || (h.layer layer).invalidateMask_.layout
  let (l, context) := (h.layer layer).preRoll (h.parentLayer layer) context forceLayout
  if (h.layer layer).isScroll then
    prePaintChildren prePaint (Layer.setSkipParentMatrix true) LayerInvalidateMask.remove
      forceChildrenLayout l.children_ 0 (h.set layer l)
      { damageRect := l.bitmapSurfaceDamage_, supportPartialUpdate := true }
  else
    prePaintChildren prePaint id (fun mask => decide (mask = LayerRemoveInvalidate))
      forceChildrenLayout l.children_ 0
      (h.set layer (l.withMask (l.invalidateMask_.and LayerRemoveInvalidate))) context

/-- When its turn comes, each entry of the list stands at its index. -/
def ErasesOwn (h : Heap) (p : LayerId) : List (Nat × LayerId) → Prop
  | [] => True
  | entry :: rest =>
    h.ErasesOwn p rest ∧ ((h.recycle p rest).children p)[entry.1]? = some entry.2

/-- What the removal loop of `x` does: `h₁` is the heap in front of it, and `h'` the one at the end
of the pre-paint. -/
structure Recycles (h : Heap) (x : LayerId) (h₁ : Heap) (recycleChildList : List (Nat × LayerId))
    (h' : Heap) : Prop where
  collected : recycleChildList =
    markedFrom (fun c => (h.layer c).invalidateMask_.remove) (h.children x) 0
  erasesOwn : h₁.ErasesOwn x recycleChildList
  erased : h'.children x = (h₁.recycle x recycleChildList).children x
  kept : h'.children x = h.kept x
  parented : ∀ c ∈ h'.children x, h'.parent c = some x
  unparented : ∀ c ∈ h.children x, (h.layer c).invalidateMask_.remove = true →
    h'.parent c = none

variable {h h' h₁ h₂ : Heap} {x p c : LayerId} {cs ds : List LayerId} {n : Nat}
  {prePaint : PrePaint} {context : PaintContext} {force : Bool}

/-! ## The two loops in `prePaint` -/

theorem layerPrePaint_eq (hplain : (h.layer x).isScroll = false) :
    layerPrePaint prePaint h x context force =
      (h.collect prePaint x context force).map fun (h₁, context, recycleChildList) =>
        (h₁.recycle x recycleChildList, context) := by
  unfold layerPrePaint collect
  dsimp only
  rw [hplain, if_neg Bool.false_ne_true, Option.map_eq_bind]
  rfl

theorem scrollPrePaint_eq (hscroll : (h.layer x).isScroll = true) :
    scrollPrePaint prePaint h x context force =
      (h.collect prePaint x context force).map fun (h₁, bitmapPaintContext, recycleChildList) =>
        let h₂ := h₁.recycle x recycleChildList
        let (l, context) :=
          ((h₂.layer x).withBitmapSurfaceDamage bitmapPaintContext.damageRect).scrollPrePaintEnd
            ((h.layer x).preRoll (h.parentLayer x) context force).2
        (h₂.set x l, context) := by
  unfold scrollPrePaint collect
  dsimp only
  rw [if_pos hscroll, Option.map_eq_bind]
  rfl

/-! ## What a pre-paint leaves alone -/

/-- A pre-paint of the layers `cs` has changed nothing that is not below them. It has only taken
children out of lists, and the pointers of marked layers. -/
structure Trims (h h' : Heap) (cs : List LayerId) : Prop where
  outside : ∀ y, (∀ c ∈ cs, ¬ Below h.children c y) → h'.layer y = h.layer y
  children : ∀ y, ∀ c ∈ h'.children y, c ∈ h.children y
  remove : ∀ y, (h'.layer y).invalidateMask_.remove = (h.layer y).invalidateMask_.remove
  parent : ∀ y, h'.parent y = h.parent y ∨
    ((h.layer y).invalidateMask_.remove = true ∧ h'.parent y = none)

namespace Trims

theorem nil (h : Heap) : Trims h h [] where
  outside _ _ := rfl
  children _ _ hc := hc
  remove _ := rfl
  parent _ := Or.inl rfl

/-- A layer is replaced. -/
theorem set {l : Layer} (hparent : l.parent_ = h.parent x) (hchildren : l.children_ = h.children x)
    (hremove : l.invalidateMask_.remove = (h.layer x).invalidateMask_.remove) :
    Trims h (h.set x l) [x] where
  outside y hy := by
    rw [set_layer_ne]
    rintro rfl
    exact hy y (List.mem_singleton_self y) (Below.refl y)
  children y c hc := by
    rwa [(h.sameLinks_set x hparent hchildren).2.2] at hc
  remove y := by
    rw [set_layer]
    split
    · subst y
      exact hremove
    · rfl
  parent y := Or.inl (congrFun (h.sameLinks_set x hparent hchildren).2.1 y)

theorem below (ht : Trims h h' cs) {a y : LayerId} (hb : Below h'.children a y) :
    Below h.children a y := by
  induction hb with
  | refl => exact Below.refl a
  | tail _ hc ih => exact ih.tail (ht.children _ _ hc)

theorem depthLt (ht : Trims h h' cs) (hd : DepthLt h.children n x) : DepthLt h'.children n x :=
  hd.of_subset ht.children

theorem append (ht : Trims h h₁ cs) (ht' : Trims h₁ h' ds) : Trims h h' (cs ++ ds) where
  outside y hy := by
    rw [ht'.outside y, ht.outside y]
    · exact fun c hc => hy c (List.mem_append_left ds hc)
    · exact fun d hd hb => hy d (List.mem_append_right cs hd) (ht.below hb)
  children y c hc := ht.children y c (ht'.children y c hc)
  remove y := (ht'.remove y).trans (ht.remove y)
  parent y := by
    rcases ht'.parent y with heq | ⟨hmarked, hnone⟩
    · rw [heq]
      exact ht.parent y
    · exact Or.inr ⟨(ht.remove y).symm.trans hmarked, hnone⟩

/-- More layers, or the ones above them. -/
theorem mono (ht : Trims h h' cs) (hcs : ∀ c ∈ cs, ∃ d ∈ ds, Below h.children d c) :
    Trims h h' ds where
  outside y hy := by
    refine ht.outside y fun c hc hb => ?_
    obtain ⟨d, hd, hdc⟩ := hcs c hc
    exact hy d hd (hdc.trans hb)
  children := ht.children
  remove := ht.remove
  parent := ht.parent

theorem trans (ht : Trims h h₁ [x]) (ht' : Trims h₁ h' [x]) : Trims h h' [x] := by
  refine (ht.append ht').mono fun c hc => ⟨x, List.mem_singleton_self x, ?_⟩
  rw [show c = x by simpa using hc]
  exact Below.refl x

end Trims

/-- The removals of all children that are marked. -/
theorem recycle_marked (hnot : x ∉ h.children x)
    (hrecycle : h.recycle x (markedFrom (fun c => (h.layer c).invalidateMask_.remove)
      (h.children x) 0) = h') :
    h'.layer x = (h.layer x).withChildren (h.kept x) ∧ ∀ y, y ≠ x → h'.layer y =
      if y ∈ h.children x ∧ (h.layer y).invalidateMask_.remove = true then
        (h.layer y).withParent none
      else h.layer y := by
  subst hrecycle
  exact (recycle_markedFrom h x (fun c => (h.layer c).invalidateMask_.remove) []
    (h.children x) rfl hnot).2

theorem trims_recycle (hnot : x ∉ h.children x)
    (hrecycle : h.recycle x (markedFrom (fun c => (h.layer c).invalidateMask_.remove)
      (h.children x) 0) = h') : Trims h h' [x] := by
  obtain ⟨hself, hother⟩ := recycle_marked hnot hrecycle
  refine ⟨?_, ?_, ?_, ?_⟩
  · intro y hy
    have hbelow := hy x (List.mem_singleton_self x)
    rw [hother y (by rintro rfl; exact hbelow (Below.refl y)), if_neg]
    exact fun hmarked => hbelow ((Below.refl x).tail hmarked.1)
  · intro y c hc
    by_cases hy : y = x
    · subst y
      unfold children at hc
      rw [hself, Layer.withChildren_children_] at hc
      exact (mem_kept_iff.mp hc).1
    · unfold children at hc
      rw [hother y hy] at hc
      split at hc <;> exact hc
  · intro y
    by_cases hy : y = x
    · rw [hy, hself]
      rfl
    · rw [hother y hy]
      split <;> rfl
  · intro y
    unfold parent
    by_cases hy : y = x
    · rw [hy, hself]
      exact Or.inl rfl
    · rw [hother y hy]
      split
      · rename_i hmarked
        exact Or.inr ⟨hmarked.2, rfl⟩
      · exact Or.inl rfl

/-- A pre-paint at `n` levels that trims, and resets the mask of its layer. -/
def Trimming (prePaint : PrePaint) (n : Nat) : Prop :=
  ∀ (h : Heap) (x : LayerId) (context : PaintContext) (force : Bool), DepthLt h.children n x →
    ∃ h' context', prePaint h x context force = some (h', context') ∧ Trims h h' [x] ∧
      (h'.layer x).invalidateMask_ = (h.layer x).invalidateMask_.and LayerRemoveInvalidate

/-- The loop collects the children that are marked at its start. -/
theorem prePaintChildren_trims (hpre : Trimming prePaint n) {enter : Layer → Layer} {skips : Bool}
    (henter : Enters enter skips) (marked : LayerInvalidateMask → Bool)
    (hmarked : ∀ m : LayerInvalidateMask, marked (m.and LayerRemoveInvalidate) = m.remove)
    (force : Bool) (index : Nat) (context : PaintContext)
    (hdepth : ∀ c ∈ cs, DepthLt h.children n c) :
    ∃ h' context', prePaintChildren prePaint enter marked force cs index h context =
      some (h', context', markedFrom (fun c => (h.layer c).invalidateMask_.remove) cs index) ∧
      Trims h h' cs := by
  induction cs generalizing index h context with
  | nil => exact ⟨h, context, rfl, .nil h⟩
  | cons c cs ih =>
    have hentered : Trims h (h.modify c enter) [c] :=
      .set (by rw [henter]; rfl) (by rw [henter]; rfl) (by rw [henter]; rfl)
    obtain ⟨hB, contextB, hrun, htrims, hmask⟩ := hpre (h.modify c enter) c context force
      (hentered.depthLt (hdepth c List.mem_cons_self))
    have hfirst := hentered.trans htrims
    obtain ⟨h', context', hloop, hrest⟩ := ih (index + 1) contextB fun d hd =>
      hfirst.depthLt (hdepth d (List.mem_cons_of_mem c hd))
    refine ⟨h', context', ?_, hfirst.append hrest⟩
    have hmark : marked (hB.layer c).invalidateMask_ = (h.layer c).invalidateMask_.remove := by
      rw [hmask, hmarked, hentered.remove]
    have hmarks := markedFrom_congr (fun d (_ : d ∈ cs) => hfirst.remove d) (index + 1)
    simp only [prePaintChildren, hrun, Option.bind_eq_bind, Option.bind_some, hloop, hmarks,
      hmark, markedFrom]
    rfl

/-- The loop over the children leaves the layer itself as it was entered. -/
theorem collect_trims (hpre : Trimming prePaint n) (hdepth : DepthLt h.children (n + 1) x)
    (context : PaintContext) (force : Bool) :
    ∃ h₁ context₁, h.collect prePaint x context force = some (h₁, context₁,
        markedFrom (fun c => (h.layer c).invalidateMask_.remove) (h.children x) 0) ∧
      Trims h h₁ [x] ∧ h₁.children x = h.children x ∧ (h₁.layer x).invalidateMask_ =
        if (h.layer x).isScroll then (h.layer x).invalidateMask_
        else (h.layer x).invalidateMask_.and LayerRemoveInvalidate := by
  have hstart {l : Layer} {h₁ : Heap} (hself : Trims h (h.set x l) [x])
      (hloop : Trims (h.set x l) h₁ (h.children x)) : Trims h h₁ [x] ∧ h₁.layer x = l := by
    constructor
    · refine (hself.append hloop).mono fun c hc => ⟨x, List.mem_singleton_self x, ?_⟩
      rcases List.mem_append.mp hc with hc | hc
      · rw [show c = x by simpa using hc]
        exact Below.refl x
      · exact (Below.refl x).tail hc
    · rw [hloop.outside, set_layer_self]
      exact fun c hc hb => hdepth.not_below_child hc (hself.below hb)
  have hchildren (l : Layer) : ∀ c ∈ h.children x, Trims h (h.set x l) [x] →
      DepthLt (h.set x l).children n c := fun c hc hself => hself.depthLt (hdepth c hc)
  unfold collect
  simp only [Layer.preRoll_fst, Layer.rolled_children_, Layer.rolled_invalidateMask_]
  by_cases hscroll : (h.layer x).isScroll = true
  · rw [if_pos hscroll, if_pos hscroll]
    have hself : Trims h (h.set x ((h.layer x).rolled (h.parentLayer x) force)) [x] :=
      .set (by simp [parent]) (by simp [children]) (by simp)
    obtain ⟨h₁, context₁, hrun, hloop⟩ := prePaintChildren_trims hpre
      (show Enters (Layer.setSkipParentMatrix true) true from fun l => by rw [Bool.or_true])
      LayerInvalidateMask.remove (fun m => by simp)
      (force || (h.layer x).invalidateMask_.layout) 0
      { damageRect := (h.layer x).bitmapSurfaceDamage_, supportPartialUpdate := true }
      fun c hc => hchildren _ c hc hself
    obtain ⟨htrims, hx⟩ := hstart hself hloop
    rw [markedFrom_congr fun c _ => hself.remove c] at hrun
    rw [Layer.rolled_bitmapSurfaceDamage_]
    refine ⟨h₁, context₁, hrun, htrims, ?_, ?_⟩
    · unfold children
      rw [hx, Layer.rolled_children_]
    · rw [hx, Layer.rolled_invalidateMask_]
  · rw [if_neg hscroll, if_neg hscroll]
    have hself : Trims h (h.set x (((h.layer x).rolled (h.parentLayer x) force).withMask
        ((h.layer x).invalidateMask_.and LayerRemoveInvalidate))) [x] :=
      .set (by simp [parent]) (by simp [children]) (by simp)
    obtain ⟨h₁, context₁, hrun, hloop⟩ := prePaintChildren_trims hpre
      (show Enters id false from fun l => by simp [Layer.setSkipParentMatrix])
      (fun mask => decide (mask = LayerRemoveInvalidate))
      (fun m => by simp [LayerInvalidateMask.and_remove_eq_iff])
      (force || (h.layer x).invalidateMask_.layout) 0
      ((h.layer x).preRoll (h.parentLayer x) context force).2
      fun c hc => hchildren _ c hc hself
    obtain ⟨htrims, hx⟩ := hstart hself hloop
    rw [markedFrom_congr fun c _ => hself.remove c] at hrun
    refine ⟨h₁, context₁, hrun, htrims, ?_, ?_⟩
    · unfold children
      rw [hx, Layer.withMask_children_, Layer.rolled_children_]
    · rw [hx, Layer.withMask_invalidateMask_]

/-- The end of either `prePaint`. -/
theorem prePaintLevels_eq {context₁ : PaintContext} {recycleChildList : List (Nat × LayerId)}
    (hcollect : h.collect (prePaintLevels n) x context force =
      some (h₁, context₁, recycleChildList)) (hrecycle : h₁.recycle x recycleChildList = h₂) :
    ∃ l context', prePaintLevels (n + 1) h x context force = some (h₂.set x l, context') ∧
      l.parent_ = h₂.parent x ∧ l.children_ = h₂.children x ∧ l.invalidateMask_ =
        if (h.layer x).isScroll then (h₂.layer x).invalidateMask_.and LayerRemoveInvalidate
        else (h₂.layer x).invalidateMask_ := by
  subst hrecycle
  simp only [prePaintLevels]
  by_cases hscroll : (h.layer x).isScroll = true
  · rw [if_pos hscroll, if_pos hscroll, scrollPrePaint_eq hscroll, hcollect, Option.map_some]
    refine ⟨(Layer.scrollPrePaintEnd _ _).1, _, rfl, ?_, ?_, ?_⟩ <;>
      rw [Layer.scrollPrePaintEnd_fst] <;> rfl
  · rw [if_neg hscroll, if_neg hscroll, layerPrePaint_eq (Bool.not_eq_true _ ▸ hscroll), hcollect,
      Option.map_some]
    refine ⟨_, context₁, ?_, rfl, rfl, rfl⟩
    rw [set, Function.update_eq_self]

theorem prePaintLevels_trims (n : Nat) : Trimming (prePaintLevels n) n := by
  induction n with
  | zero => exact fun _ _ _ _ hdepth => hdepth.elim
  | succ n ih =>
    intro h x context force hdepth
    obtain ⟨h₁, context₁, hcollect, htrims, hchildren, hmask⟩ :=
      collect_trims ih hdepth context force
    have hnot : x ∉ h₁.children x := by
      rw [hchildren]
      exact fun hx => hdepth.not_below_child hx (Below.refl x)
    rw [← markedFrom_congr (fun c _ => htrims.remove c), ← hchildren] at hcollect
    obtain ⟨l, context', hrun, hparent, hlist, hl⟩ := prePaintLevels_eq hcollect rfl
    have hremoved := trims_recycle hnot rfl
    have hreset : l.invalidateMask_ = (h.layer x).invalidateMask_.and LayerRemoveInvalidate := by
      rw [hl, (recycle_marked hnot rfl).1, Layer.withChildren_invalidateMask_, hmask]
      split <;> rfl
    refine ⟨_, context', hrun, (htrims.trans hremoved).trans (.set hparent hlist ?_), ?_⟩
    · rw [hreset, hremoved.remove, htrims.remove, LayerInvalidateMask.and_remove_remove]
    · rw [set_layer_self, hreset]

/-- Each collected child stands at its index when the larger indices are gone. -/
theorem erasesOwn_markedFrom (marked : LayerId → Bool) (before : List LayerId)
    (hp : h.children p = before ++ cs) (hcs : p ∉ cs) :
    h.ErasesOwn p (markedFrom marked cs before.length) := by
  induction cs generalizing before with
  | nil => trivial
  | cons c cs ih =>
    have hp' : h.children p = (before ++ [c]) ++ cs := by simp [hp]
    have hcs' : p ∉ cs := fun hmem => hcs (List.mem_cons_of_mem c hmem)
    have hrest := ih (before ++ [c]) hp' hcs'
    obtain ⟨-, hself, -⟩ := recycle_markedFrom h p marked (before ++ [c]) cs hp' hcs'
    rw [List.length_append, List.length_singleton] at hrest hself
    simp only [markedFrom]
    split
    · refine ⟨hrest, ?_⟩
      unfold children
      rw [hself]
      simp
    · exact hrest

/-- The pre-paint of a layer below which the children lists come to an end: the loop over the
children collects the marked ones, each is erased at an index where it stands, and what stays is
the rest in its order, with the layer as parent. -/
theorem prePaint_recycles (hdepth : DepthLt h.children (n + 1) x)
    (hparents : ∀ c ∈ h.children x, h.parent c = some x) (context : PaintContext)
    (force : Bool) :
    ∃ h₁ context₁ recycleChildList h' context',
      h.collect (prePaintLevels n) x context force = some (h₁, context₁, recycleChildList) ∧
      prePaintLevels (n + 1) h x context force = some (h', context') ∧
      Recycles h x h₁ recycleChildList h' := by
  obtain ⟨h₁, context₁, hcollect, htrims, hchildren, -⟩ :=
    collect_trims (prePaintLevels_trims n) hdepth context force
  have hnot : x ∉ h.children x := fun hx => hdepth.not_below_child hx (Below.refl x)
  have hmarks := markedFrom_congr (fun c (_ : c ∈ h.children x) => htrims.remove c) 0
  obtain ⟨l, context', hrun, -, hlist, -⟩ := prePaintLevels_eq hcollect rfl
  generalize hrecycle : h₁.recycle x (markedFrom _ (h.children x) 0) = h₂ at hrun hlist
  have hmarked : h₁.recycle x (markedFrom (fun c => (h₁.layer c).invalidateMask_.remove)
      (h₁.children x) 0) = h₂ := by
    rwa [hchildren, hmarks]
  obtain ⟨hself, hother⟩ := recycle_marked (hchildren ▸ hnot) hmarked
  have hkept : (h₂.set x l).children x = h.kept x := by
    unfold children
    rw [set_layer_self, hlist, children, hself, Layer.withChildren_children_, kept, kept, hchildren]
    exact List.filter_congr fun c _ => by rw [htrims.remove c]
  have hparent {c : LayerId} (hc : c ∈ h.children x) : (h₂.set x l).parent c =
      if (h.layer c).invalidateMask_.remove = true then none else some x := by
    have hne : c ≠ x := ne_of_mem_of_not_mem hc hnot
    unfold parent
    rw [set_layer_ne _ _ hne, hother c hne, hchildren, htrims.remove c]
    split
    · rename_i hmarked
      rw [if_pos hmarked.2]
      rfl
    · rename_i hunmarked
      have hunmarked : ¬ (h.layer c).invalidateMask_.remove = true :=
        fun hmarked => hunmarked ⟨hc, hmarked⟩
      rw [if_neg hunmarked, ← hparents c hc]
      exact (htrims.parent c).resolve_right fun hcut => hunmarked hcut.1
  refine ⟨h₁, context₁, _, _, context', hcollect, hrun, rfl, ?_, ?_, hkept, ?_, ?_⟩
  · exact erasesOwn_markedFrom _ [] hchildren hnot
  · rw [hrecycle, ← hlist]
    unfold children
    rw [set_layer_self]
  · intro c hc
    obtain ⟨hmem, hunmarked⟩ := mem_kept_iff.mp (hkept ▸ hc)
    rw [hparent hmem, hunmarked]
    rfl
  · intro c hc hmarked
    rw [hparent hc, if_pos hmarked]

end

open TranslationSkia

/-- A layer with three children, of which the second one is marked. -/
def markedHeap : Heap := ofLayers
  [{ children_ := [1, 2, 3] },
   { parent_ := some 0 },
   { parent_ := some 0, invalidateMask_ := LayerRemoveInvalidate },
   { parent_ := some 0 }]

theorem prePaint_recycles_middle : ∃ h' context',
    prePaintLevels 2 markedHeap 0 ⟨[], true, (0, 0)⟩ false = some (h', context') ∧
      h'.children 0 = [1, 3] ∧ h'.parent 2 = none := by
  obtain ⟨h₁, context₁, _, h', context', -, hrun, hrecycles⟩ :=
    prePaint_recycles (by decide : DepthLt markedHeap.children 2 0) (by decide)
      ⟨[], true, (0, 0)⟩ false
  refine ⟨h', context', hrun, ?_, hrecycles.unparented 2 (by decide) (by decide)⟩
  rw [hrecycles.kept]
  decide

end Heap

end ReactNativeSkia
