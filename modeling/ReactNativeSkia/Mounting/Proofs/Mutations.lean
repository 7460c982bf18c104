import ReactNativeSkia.Mounting.MountingManager
import ReactNativeSkia.Compositor.Layers.Proofs.LinkRuns

/-!
# What a mutation does

Each mutation leaves links and remove bits as they are, inserts one layer, or marks one layer
for removal. Which one, and on which layers, is its `TreeEdit`; `processMutation_spec` says what
follows for links, marks, component parents and providers. Everything else about mutations is
derived from it.
-/

namespace ReactNativeSkia

/-- The change a mutation makes to the tree of views, with the views it names looked up. -/
inductive TreeEdit where
  | keep
  | insert (p c : LayerId) (index : Int32)
  | remove (p c : LayerId) (index : Int32)
  deriving DecidableEq

section
variable [Skia]

namespace Heap

/-- The remove bit of a layer. -/
def marked (h : Heap) (c : LayerId) : Bool := (h.layer c).invalidateMask_.remove

end Heap

namespace MountingManager

/-- The edit of a mutation; an insertion or removal of views that do not exist is none. -/
def edit (m : MountingManager) (mutation : ShadowViewMutation) : TreeEdit :=
  match mutation.type with
  | .Insert =>
    match m.getComponent mutation.parentShadowView, m.getComponent mutation.newChildShadowView with
    | some p, some c => .insert p c mutation.index
    | _, _ => .keep
  | .Remove =>
    match m.getComponent mutation.parentShadowView, m.getComponent mutation.oldChildShadowView with
    | some p, some c => .remove p c mutation.index
    | _, _ => .keep
  | .Create | .Delete | .Update => .keep

/-- The providers hand out constructed components only. -/
def Registered (m : MountingManager) : Prop :=
  ∀ handle provider tag c, m.registry_ handle = some provider →
    provider.getComponent tag = some c → c < m.layers.nextId

/-- Nothing that concerns the tree has changed, but that a component may be new. -/
structure Keeps (m m' : MountingManager) : Prop where
  nextId : m.layers.nextId ≤ m'.layers.nextId
  parent : m'.layers.parent = m.layers.parent
  children : m'.layers.children = m.layers.children
  marked : ∀ x < m.layers.nextId, m'.layers.marked x = m.layers.marked x
  getParent : ∀ x, m'.getParent x = m.getParent x ∨
    (m.layers.nextId ≤ x ∧ m'.getParent x = none)

/-- One layer has been linked, with its component. -/
structure Inserts (m : MountingManager) (p c : LayerId) (index : Int32) (m' : MountingManager) :
    Prop where
  nextId : m'.layers.nextId = m.layers.nextId
  forest : m'.layers.Forest
  parent : m'.layers.parent = Function.update m.layers.parent c (some p)
  children : m.layers.parent c = none → m'.layers.children =
    Function.update m.layers.children p ((m.layers.children p).insertIdx
      (min (toSizeT index) (m.layers.children p).length) c)
  marked : m'.layers.marked = m.layers.marked
  getParent : m'.getParent = Function.update m.getParent c (some p)

/-- One layer has been marked, and its component has lost its parent. -/
structure Marks (m : MountingManager) (c : LayerId) (m' : MountingManager) : Prop where
  nextId : m'.layers.nextId = m.layers.nextId
  parent : m'.layers.parent = m.layers.parent
  children : m'.layers.children = m.layers.children
  marked : m'.layers.marked = Function.update m.layers.marked c true
  getParent : m'.getParent = Function.update m.getParent c none

variable {m m' : MountingManager} {mutation : ShadowViewMutation}

theorem Keeps.refl (m : MountingManager) : m.Keeps m where
  nextId := Nat.le_refl _
  parent := rfl
  children := rfl
  marked _ _ := rfl
  getParent _ := Or.inl rfl

theorem Registered.getComponent_lt (hr : m.Registered) {shadowView : ShadowView} {c : LayerId}
    (hc : m.getComponent shadowView = some c) : c < m.layers.nextId := by
  obtain ⟨provider, hprovider, hget⟩ := Option.bind_eq_some_iff.mp hc
  exact hr _ provider _ c hprovider hget

/-- Links, marks and component parents are the same. -/
structure SameTree (m m' : MountingManager) : Prop where
  links : m.layers.SameLinks m'.layers
  marked : m'.layers.marked = m.layers.marked
  getParent : m'.getParent = m.getParent

theorem SameTree.keeps (hs : m.SameTree m') : m.Keeps m' where
  nextId := Nat.le_of_eq hs.links.1.symm
  parent := hs.links.2.1
  children := hs.links.2.2
  marked x _ := congrFun hs.marked x
  getParent x := Or.inl (congrFun hs.getParent x)

/-! ## The instructions -/

theorem updateComponentData_sameTree (m : MountingManager) (c : LayerId) (view : ShadowView)
    (updateMask : ComponentUpdateMask) (force : Bool) :
    m.SameTree (m.updateComponentData c view updateMask force) := by
  refine ⟨m.layers.sameLinks_modify c (fun _ => by simp) (fun _ => by simp), ?_, ?_⟩
  · funext x
    simp only [updateComponentData, setComponent_layers, withLayers_layers, Heap.marked,
      Heap.modify_layer]
    split
    · rename_i hx
      simp [hx]
    · rfl
  · funext x
    simp only [getParent, updateComponentData, setComponent_component, Function.update_apply]
    split
    · rename_i hx
      simp [hx]
    · rfl

theorem updateMountInstruction_sameTree (m : MountingManager) (mutation : ShadowViewMutation) :
    m.SameTree (m.updateMountInstruction mutation) ∧
      (m.Registered → (m.updateMountInstruction mutation).Registered) := by
  have hrefl : m.SameTree m := ⟨⟨rfl, rfl, rfl⟩, rfl, rfl⟩
  unfold updateMountInstruction
  dsimp only
  split
  · exact ⟨hrefl, id⟩
  · split
    · exact ⟨m.updateComponentData_sameTree _ _ _ _, id⟩
    · exact ⟨hrefl, id⟩

theorem deleteMountInstruction_keeps (m : MountingManager) (mutation : ShadowViewMutation) :
    m.Keeps (m.deleteMountInstruction mutation) ∧
      (m.Registered → (m.deleteMountInstruction mutation).Registered) := by
  unfold deleteMountInstruction
  dsimp only
  split
  · exact ⟨.refl m, id⟩
  · rename_i provider hprovider
    split
    · exact ⟨.refl m, id⟩
    · refine ⟨⟨Nat.le_refl _, rfl, rfl, fun _ _ => rfl, fun _ => Or.inl rfl⟩,
        fun hr handle provider' tag c hp hc => ?_⟩
      simp only [setProvider_registry_, Function.update_apply] at hp
      split at hp
      · cases hp
        refine hr _ provider tag c hprovider ?_
        simp only [RSkComponentProvider.getComponent, RSkComponentProvider.deleteComponent,
          Function.update_apply] at hc ⊢
        split at hc
        · rename_i hroot
          rw [if_pos hroot, hc]
        · rename_i hroot
          split at hc
          · cases hc
          · rw [if_neg hroot, hc]
      · exact hr handle provider' tag c hp hc

/-- A new component has neither parent nor children, and its layer no mark. -/
theorem createMountInstruction_keeps (hf : m.layers.Forest) (mutation : ShadowViewMutation) :
    m.Keeps (m.createMountInstruction mutation) := by
  have hparent : m.layers.parent m.layers.nextId = none :=
    Option.eq_none_iff_forall_ne_some.mpr fun p hp => Nat.lt_irrefl _ (hf.range _ p hp).1
  have hchildren : m.layers.children m.layers.nextId = [] :=
    List.eq_nil_iff_forall_not_mem.mpr fun c hc =>
      Nat.lt_irrefl _ (hf.range c _ ((hf.linked.mem_iff _ c).mp hc)).2
  unfold createMountInstruction
  dsimp only
  split
  · exact .refl m
  · refine ⟨Nat.le_succ _, ?_, ?_, ?_, ?_⟩
    · funext x
      simp only [withLayers_layers, Heap.parent, Heap.create, Function.update_apply]
      split
      · rename_i hx
        rw [hx]
        exact hparent.symm
      · rfl
    · funext x
      simp only [withLayers_layers, Heap.children, Heap.create, Function.update_apply]
      split
      · rename_i hx
        rw [hx]
        exact hchildren.symm
      · rfl
    · intro x hx
      simp only [withLayers_layers, Heap.marked, Heap.create,
        Function.update_of_ne (Nat.ne_of_lt hx)]
    · intro x
      simp only [getParent, withLayers_component, setComponent_component, Function.update_apply]
      split
      · rename_i hx
        exact Or.inr ⟨Nat.le_of_eq hx.symm, rfl⟩
      · exact Or.inl rfl

theorem Registered.createMountInstruction (hr : m.Registered) (mutation : ShadowViewMutation) :
    (m.createMountInstruction mutation).Registered := by
  unfold MountingManager.createMountInstruction
  dsimp only
  split
  · exact hr
  · rename_i provider hprovider
    intro handle provider' tag c hp hc
    simp only [withLayers_layers, withLayers_registry_, setComponent_registry_,
      setProvider_registry_, Function.update_apply, Heap.create] at hp ⊢
    refine Nat.lt_succ_iff.mpr ?_
    split at hp
    · cases hp
      have hold := hr _ provider tag c hprovider
      simp only [RSkComponentProvider.getComponent, RSkComponentProvider.createAndAddComponent,
        Function.update_apply] at hc hold
      split at hc
      · rw [Option.some.injEq] at hc
        exact Nat.le_of_eq hc.symm
      · rename_i hroot
        rw [if_neg hroot] at hold
        split at hc
        · cases hc
          exact Nat.le_refl _
        · exact Nat.le_of_lt (hold hc)
    · exact Nat.le_of_lt (hr handle provider' tag c hp hc)

/-- Linking a layer overrides what unlinking did to its pointer. -/
theorem update_removeFromParent_parent {h : Heap} (hf : h.Forest) (c : LayerId)
    (q : Option LayerId) :
    Function.update (h.removeFromParent c).parent c q = Function.update h.parent c q := by
  cases hc : h.parent c with
  | none => rw [Heap.removeFromParent_of_none hc]
  | some p => rw [(hf.removeFromParent_spec hc).2.1, Function.update_idem]

theorem mountChildComponent_inserts (hf : m.layers.Forest) {p c : LayerId}
    (hp : p < m.layers.nextId) (hc : c < m.layers.nextId)
    (hnot : c ≠ p ∧ m.layers.hasAncestor p c = some false) (index : Int32) :
    ∃ m', m.mountChildComponent p (some c) index = some m' ∧ m.Inserts p c index m' ∧
      (m.Registered → m'.Registered) := by
  obtain ⟨l, hl⟩ := hf.linked.ends p
  have hcl : c ∉ p :: l := (hf.notAbove_iff hl).mp hnot
  obtain ⟨h', hins, hn, hpar, hch⟩ := hf.insertChild_spec hl hcl (toSizeT index)
  refine ⟨_, by rw [mountChildComponent, hins]; rfl, ⟨hn, ?_, ?_, ?_, ?_, ?_⟩,
    ?_⟩
  · exact hf.insertChild hl hcl hp hc hins
  · exact hpar.trans (update_removeFromParent_parent hf c _)
  · intro hnone
    rw [withLayers_layers, hch, Heap.removeFromParent_of_none hnone]
  · funext x
    obtain ⟨q, cs, hx⟩ := Heap.onlyLinks_insertChild hins x
    simp only [withLayers_layers, Heap.marked, hx, Layer.withChildren_invalidateMask_,
      Layer.withParent_invalidateMask_]
  · funext x
    simp only [getParent, withLayers_component, setComponent_component, Function.update_apply]
    split
    · rfl
    · rfl
  · intro hr handle provider tag d hprovider hd
    rw [withLayers_layers, hn]
    exact hr handle provider tag d hprovider hd

theorem unmountChildComponent_marks (m : MountingManager) (c : LayerId) :
    m.Marks c (m.unmountChildComponent (some c)) where
  nextId := rfl
  parent := (m.layers.invalidate_sameLinks c LayerRemoveInvalidate).2.1
  children := (m.layers.invalidate_sameLinks c LayerRemoveInvalidate).2.2
  marked := by
    funext x
    simp only [unmountChildComponent, withLayers_layers, Heap.marked, Heap.invalidate,
      Heap.modify_layer, Function.update_apply]
    split
    · simp [Layer.invalidate, LayerRemoveInvalidate]
    · rfl
  getParent := by
    funext x
    simp only [getParent, unmountChildComponent, withLayers_component, setComponent_component,
      Function.update_apply]
    split
    · rfl
    · rfl

/-! ## The specification -/

/-- The layers an edit names exist. -/
theorem edit_insert_lt (hr : m.Registered) {p c : LayerId} {index : Int32}
    (he : m.edit mutation = .insert p c index) : p < m.layers.nextId ∧ c < m.layers.nextId := by
  unfold edit at he
  split at he
  · split at he
    · rename_i hp hc
      cases he
      exact ⟨hr.getComponent_lt hp, hr.getComponent_lt hc⟩
    · cases he
  · split at he <;> cases he
  all_goals cases he

/-- What a mutation leaves, by its edit. -/
def Spec (m : MountingManager) (m' : MountingManager) : TreeEdit → Prop
  | .keep => m.Keeps m'
  | .insert p c index => m.Inserts p c index m'
  | .remove _ c _ => m.Marks c m'

/-- No layer is inserted below itself. -/
def EditFits (m : MountingManager) : TreeEdit → Prop
  | .insert p c _ => c ≠ p ∧ m.layers.hasAncestor p c = some false
  | .keep | .remove _ _ _ => True

/-- The update before an insertion does not matter to it. -/
theorem Inserts.of_sameTree {m₁ : MountingManager} {p c : LayerId} {index : Int32}
    (hs : m.SameTree m₁) (hi : m₁.Inserts p c index m') : m.Inserts p c index m' where
  nextId := hi.nextId.trans hs.links.1
  forest := hi.forest
  parent := by rw [hi.parent, hs.links.2.1]
  children hnone := by
    rw [← hs.links.2.1] at hnone
    rw [hi.children hnone, hs.links.2.2]
  marked := hi.marked.trans hs.marked
  getParent := by rw [hi.getParent, hs.getParent]

theorem notAbove_of_sameLinks {h h' : Heap} (hf : h.Forest) (hs : h.SameLinks h') {p c : LayerId}
    (hnot : c ≠ p ∧ h.hasAncestor p c = some false) :
    c ≠ p ∧ h'.hasAncestor p c = some false := by
  obtain ⟨l, hl⟩ := hf.linked.ends p
  have hl' : ParentChain h'.parent p l := hs.2.1 ▸ hl
  exact ((hs.forest hf).notAbove_iff hl').mpr ((hf.notAbove_iff hl).mp hnot)

theorem insertMountInstruction_spec (hf : m.layers.Forest) (hr : m.Registered)
    (htype : mutation.type = .Insert) (hfits : m.EditFits (m.edit mutation)) :
    ∃ m', m.insertMountInstruction mutation = some m' ∧ m.Spec m' (m.edit mutation) ∧
      m'.Registered := by
  unfold insertMountInstruction
  cases hc : m.getComponent mutation.newChildShadowView with
  | none =>
    have he : m.edit mutation = .keep := by
      simp only [edit, htype, hc]
      split <;> simp_all
    rw [he]
    cases hp : m.getComponent mutation.parentShadowView with
    | none => exact ⟨m, rfl, .refl m, hr⟩
    | some p => exact ⟨m, rfl, .refl m, hr⟩
  | some c =>
    have hs := m.updateComponentData_sameTree c mutation.newChildShadowView
      ComponentUpdateMaskAll true
    cases hp : m.getComponent mutation.parentShadowView with
    | none =>
      have he : m.edit mutation = .keep := by simp only [edit, htype, hp]
      rw [he]
      exact ⟨_, rfl, hs.keeps, hr⟩
    | some p =>
      have he : m.edit mutation = .insert p c mutation.index := by
        simp only [edit, htype, hp, hc]
      obtain ⟨hpn, hcn⟩ := edit_insert_lt hr he
      rw [he] at hfits ⊢
      have hn := hs.links.1
      obtain ⟨m', hm', hins, hr'⟩ := mountChildComponent_inserts (hs.links.forest hf)
        (by rwa [hn]) (by rwa [hn]) (notAbove_of_sameLinks hf hs.links hfits) mutation.index
      exact ⟨m', hm', hins.of_sameTree hs, hr' hr⟩

theorem removeMountInstruction_spec (hr : m.Registered) (htype : mutation.type = .Remove) :
    m.Spec (m.removeMountInstruction mutation) (m.edit mutation) ∧
      (m.removeMountInstruction mutation).Registered := by
  unfold removeMountInstruction
  cases hp : m.getComponent mutation.parentShadowView with
  | none =>
    have he : m.edit mutation = .keep := by simp only [edit, htype, hp]
    rw [he]
    exact ⟨.refl m, hr⟩
  | some p =>
    cases hc : m.getComponent mutation.oldChildShadowView with
    | none =>
      have he : m.edit mutation = .keep := by simp only [edit, htype, hp, hc]
      rw [he]
      exact ⟨.refl m, hr⟩
    | some c =>
      have he : m.edit mutation = .remove p c mutation.index := by
        simp only [edit, htype, hp, hc]
      rw [he]
      exact ⟨m.unmountChildComponent_marks c, hr⟩

/-- From a forest a mutation that inserts no layer below itself returns, and it changes the
tree as its edit says. -/
theorem processMutation_spec (hf : m.layers.Forest) (hr : m.Registered)
    (hfits : m.EditFits (m.edit mutation)) :
    ∃ m', m.processMutation mutation = some m' ∧ m.Spec m' (m.edit mutation) ∧
      m'.Registered := by
  unfold processMutation
  cases htype : mutation.type with
  | Insert => exact insertMountInstruction_spec hf hr htype hfits
  | Remove => exact ⟨_, rfl, removeMountInstruction_spec hr htype⟩
  | Create =>
    have he : m.edit mutation = .keep := by simp only [edit, htype]
    rw [he]
    exact ⟨_, rfl, createMountInstruction_keeps hf mutation, hr.createMountInstruction mutation⟩
  | Delete =>
    have he : m.edit mutation = .keep := by simp only [edit, htype]
    obtain ⟨hkeeps, hreg⟩ := m.deleteMountInstruction_keeps mutation
    rw [he]
    exact ⟨_, rfl, hkeeps, hreg hr⟩
  | Update =>
    have he : m.edit mutation = .keep := by simp only [edit, htype]
    obtain ⟨hsame, hreg⟩ := m.updateMountInstruction_sameTree mutation
    rw [he]
    exact ⟨_, rfl, hsame.keeps, hreg hr⟩

/-- What a mutation leaves is a forest again. -/
theorem Spec.forest {e : TreeEdit} (hf : m.layers.Forest) (hs : m.Spec m' e) :
    m'.layers.Forest := by
  cases e with
  | keep =>
    refine ⟨by rw [hs.parent, hs.children]; exact hf.linked, ?_⟩
    intro x p hx
    rw [hs.parent] at hx
    obtain ⟨hxn, hpn⟩ := hf.range x p hx
    exact ⟨hxn.trans_le hs.nextId, hpn.trans_le hs.nextId⟩
  | insert p c index => exact Inserts.forest hs
  | remove p c index => exact (Heap.SameLinks.forest ⟨hs.nextId, hs.parent, hs.children⟩ hf)

end MountingManager

end

/-! ## A window to run mutations in -/

namespace MountingManager

open TranslationSkia

/-- A view whose updates write nothing but its frame. -/
def plainView (componentHandle : ComponentHandle) (tag : Tag) : ShadowView where
  componentHandle := componentHandle
  tag := tag
  props := ⟨0, fun _ _ l => l, fun _ _ _ => rfl, fun _ _ _ => rfl, fun _ _ _ => rfl⟩
  state := ⟨0, fun _ _ l => l, fun _ _ _ => LayerInvalidateAll, fun _ _ _ => rfl,
    fun _ _ _ => rfl, fun _ _ _ => rfl, fun _ _ _ => rfl⟩
  eventEmitter := 0
  layoutMetrics := {}

/-- A root view with layer 0 and a provider of plain views without components. -/
def window : MountingManager where
  layers := Heap.fresh 1
  component _ := {}
  registry_ handle :=
    if handle = 0 then some { layerType := .picture, isRootView := true, component_ := some 0 }
    else if handle = 1 then some { layerType := .picture }
    else none

theorem window_registered : window.Registered := by
  intro handle provider tag c hprovider hc
  simp only [window] at hprovider
  split at hprovider
  · cases hprovider
    cases hc
    decide
  · split at hprovider
    · cases hprovider
      cases hc
    · cases hprovider

/-- A mutation of the plain view `tag` under the root view. -/
def rootMutation (type : ShadowViewMutation.Type) (tag : Tag) (index : Int32) :
    ShadowViewMutation where
  type := type
  parentShadowView := plainView 0 1
  oldChildShadowView := plainView 1 tag
  newChildShadowView := plainView 1 tag
  index := index

end MountingManager

end ReactNativeSkia
