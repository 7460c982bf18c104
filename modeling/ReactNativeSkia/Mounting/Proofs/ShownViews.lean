import ReactNativeSkia.Mounting.ShownViews
import ReactNativeSkia.Mounting.Proofs.Mutations

/-!
# A mounted view shows the shadow view last given

`updateProps` writes only what has changed, and `UpdateMountInstruction` passes on only what has
changed. As long as both compare with what they have passed on last, nothing is lost by it: the
component is in the state that forcing all the props of the last view would leave.
-/

namespace ReactNativeSkia

/-! ## Updates against the props shown -/

section
variable {α β : Type*} [DecidableEq α]

theorem updateProp_force (oldProp newProp : α) (show_ : α → β) (shown : β) :
    updateProp true oldProp newProp show_ shown = show_ newProp := rfl

/-- A prop that is shown stays shown. -/
theorem updateProp_shown (oldProp newProp : α) (show_ : α → β) :
    updateProp false oldProp newProp show_ (show_ oldProp) = show_ newProp := by
  by_cases h : oldProp = newProp
  · simp [updateProp, h]
  · simp [updateProp, h]

theorem updateProp_id (oldProp newProp : α) : updateProp false oldProp newProp id oldProp = newProp :=
  updateProp_shown oldProp newProp id

end

theorem LayerStyle.needsShadowPainting_congr {layer layer' : LayerStyle}
    (hopacity : layer.opacity = layer'.opacity)
    (hshadowOpacity : layer.shadowOpacity = layer'.shadowOpacity)
    (hcolor : layer.shadowColor = layer'.shadowColor)
    (hoffset : layer.shadowOffset = layer'.shadowOffset) :
    layer.needsShadowPainting = layer'.needsShadowPainting := by
  unfold LayerStyle.needsShadowPainting
  rw [hopacity, hshadowOpacity, hcolor, hoffset]

namespace ViewComponent

/-- Forced props leave nothing of what was there. -/
theorem updateComponentData_force (c : ViewComponent) (props : ViewProps) :
    c.updateComponentData props true = showing props := by
  have hvisible : (c.updateShadowProps props true).needsShadowPainting =
      (shadowStyle props).needsShadowPainting :=
    LayerStyle.needsShadowPainting_congr rfl rfl rfl rfl
  simp only [updateComponentData, updateProps, hvisible]
  simp [updateCommonProps, updateShadowProps, createShadowFilter, updateProp_force, showing,
    shadowStyle]

theorem createShadowFilter_eq_false {c : ViewComponent} {props : ViewProps}
    (h : c.createShadowFilter props false = false) :
    c.props.shadowRadius = props.shadowRadius ∧ c.props.shadowOffset = props.shadowOffset ∧
      c.props.shadowColor = props.shadowColor := by
  simp only [createShadowFilter, Bool.false_or, Bool.or_eq_false_iff, decide_eq_false_iff_not,
    not_not] at h
  exact ⟨h.1.1.2, h.1.2, h.2⟩

/-- The shadow of the new props, on a layer that shows the old ones. -/
theorem updateShadowProps_showing (props newProps : ViewProps) :
    (showing props).updateShadowProps newProps false =
      { (showing props).layer with
        opacity := opacityTo8Bit newProps.opacity
        shadowOpacity := opacityTo8Bit newProps.shadowOpacity
        shadowRadius := newProps.shadowRadius
        shadowOffset := newProps.shadowOffset
        shadowColor := RSkColorFromSharedColor newProps.shadowColor SK_ColorBLACK } := by
  simp only [updateShadowProps, showing, shadowStyle, updateProp_shown, updateProp_id]

theorem updateCommonProps_showing (props newProps : ViewProps) :
    (showing props).updateCommonProps newProps false = (showing newProps).commonProps := by
  have hforeground := updateProp_shown props.foregroundColor newProps.foregroundColor
    (RSkColorFromSharedColor · SK_ColorTRANSPARENT)
  have hzIndex := updateProp_shown props.zIndex newProps.zIndex (·.getD 0)
  simp only [updateCommonProps, showing, updateProp_id, hforeground, hzIndex]

/-- Props that are shown are updated to the new ones. -/
theorem updateComponentData_showing (props newProps : ViewProps) :
    (showing props).updateComponentData newProps false = showing newProps := by
  have hvisible : ((showing props).updateShadowProps newProps false).needsShadowPainting =
      (shadowStyle newProps).needsShadowPainting := by
    rw [updateShadowProps_showing]
    exact LayerStyle.needsShadowPainting_congr rfl rfl rfl rfl
  have hbackground := updateProp_shown props.backgroundColor newProps.backgroundColor
    (RSkColorFromSharedColor · SK_ColorTRANSPARENT)
  simp only [updateComponentData, updateProps, updateCommonProps_showing, hvisible]
  simp only [updateShadowProps_showing]
  cases hfilter : (showing props).createShadowFilter newProps false with
  | true =>
    simp [showing, shadowStyle, hbackground, updateProp_shown, updateProp_id]
  | false =>
    obtain ⟨hradius, hoffset, hcolor⟩ := createShadowFilter_eq_false hfilter
    simp only [showing] at hradius hoffset hcolor
    simp [showing, shadowStyle, hbackground, updateProp_shown, updateProp_id, hradius, hoffset,
      hcolor]

end ViewComponent

section
variable [Skia]

namespace MountingManager

variable {m m' : MountingManager} {mutation : ShadowViewMutation}

theorem getComponent_eq_lookup (m : MountingManager) (view : ShadowView) :
    m.getComponent view = m.lookup (view.key m.kind) := by
  unfold getComponent getProvider lookup ShadowView.key kind
  cases hprovider : m.registry_ view.componentHandle with
  | none => simp
  | some provider =>
    by_cases hroot : provider.isRootView = true
    · simp [RSkComponentProvider.getComponent, hroot]
    · simp [RSkComponentProvider.getComponent, hroot]

/-- The registry and the number of layers are the same. -/
def SameRegistry (m m' : MountingManager) : Prop :=
  m'.registry_ = m.registry_ ∧ m'.layers.nextId = m.layers.nextId

theorem SameRegistry.lookup_eq (h : m.SameRegistry m') : m'.lookup = m.lookup := by
  funext key
  rw [lookup, lookup, h.1]

theorem SameRegistry.kind_eq (h : m.SameRegistry m') : m'.kind = m.kind := by
  funext handle
  rw [kind, kind, h.1]

/-- The component of `view` gets the parts of it in the mask; no other data change. -/
def Updates (m m' : MountingManager) (view : ShadowView) (updateMask : ComponentUpdateMask) :
    Prop :=
  m.SameRegistry m' ∧ ∀ x, ∃ parent, m'.component x =
    ((if m.getComponent view = some x then (m.component x).updateData view updateMask
      else m.component x).withParent parent)

theorem removeFromParent_sameId (h : Heap) (c : LayerId) :
    (h.removeFromParent c).nextId = h.nextId := by
  unfold Heap.removeFromParent
  split
  · rfl
  · unfold Heap.removeChild
    split
    · rfl
    · unfold Heap.removeChildAt
      split
      · rfl
      · rfl

theorem insertChild_sameId {h h' : Heap} {p c : LayerId} {i : Nat}
    (hi : h.insertChild p c i = some h') : h'.nextId = h.nextId := by
  unfold Heap.insertChild at hi
  split at hi
  · cases hi
  · rename_i h₁ hset
    cases hi
    refine Eq.trans ?_ (removeFromParent_sameId h c)
    simp only [Heap.setParent] at hset
    split at hset
    · cases hset
    · cases hset
      rfl
    · cases hset
      rfl

theorem keeps_self (m : MountingManager) :
    m.SameRegistry m ∧ ∀ x, ∃ q, m.component x = (m.component x).withParent q :=
  ⟨⟨rfl, rfl⟩, fun x => ⟨(m.component x).parent_, rfl⟩⟩

theorem mountChildComponent_updates {parent : LayerId} {child : Option LayerId} {index : Int32}
    (h : m.mountChildComponent parent child index = some m') :
    m.SameRegistry m' ∧ ∀ x, ∃ q, m'.component x = (m.component x).withParent q := by
  cases child with
  | none =>
    cases h
    exact m.keeps_self
  | some child =>
    obtain ⟨layers, hinsert, rfl⟩ := Option.map_eq_some_iff.mp h
    refine ⟨⟨rfl, insertChild_sameId hinsert⟩, ?_⟩
    intro x
    simp only [withLayers_component, setComponent_component, Function.update_apply]
    split
    · rename_i hx
      exact ⟨some parent, by rw [hx]⟩
    · exact ⟨(m.component x).parent_, rfl⟩

theorem insertMountInstruction_updates (h : m.insertMountInstruction mutation = some m') :
    m.Updates m' mutation.newChildShadowView ComponentUpdateMaskAll := by
  unfold insertMountInstruction at h
  cases hchild : m.getComponent mutation.newChildShadowView with
  | none =>
    simp only [hchild] at h
    have hmounted : m.SameRegistry m' ∧ ∀ x, ∃ q, m'.component x = (m.component x).withParent q := by
      split at h
      · cases h
        exact m.keeps_self
      · exact mountChildComponent_updates h
    obtain ⟨hsame, hdata⟩ := hmounted
    refine ⟨hsame, ?_⟩
    intro x
    obtain ⟨q, hq⟩ := hdata x
    exact ⟨q, by simp [hchild, hq]⟩
  | some child =>
    simp only [hchild] at h
    let updated := m.updateComponentData child mutation.newChildShadowView
      ComponentUpdateMaskAll true
    have hmounted : updated.SameRegistry m' ∧
        ∀ x, ∃ q, m'.component x = (updated.component x).withParent q := by
      split at h
      · cases h
        exact updated.keeps_self
      · exact mountChildComponent_updates h
    obtain ⟨hsame, hdata⟩ := hmounted
    refine ⟨hsame, ?_⟩
    intro x
    obtain ⟨q, hq⟩ := hdata x
    refine ⟨q, ?_⟩
    rw [hq, hchild]
    simp only [updated, updateComponentData, setComponent_component, Function.update_apply,
      Option.some.injEq, eq_comm (a := child)]
    split
    · rename_i hx
      rw [hx]
    · rfl

/-- The mask of `updateMountInstruction`. -/
def changedMask (mutation : ShadowViewMutation) : ComponentUpdateMask where
  props := decide (mutation.oldChildShadowView.props.address ≠
    mutation.newChildShadowView.props.address)
  state := decide (mutation.oldChildShadowView.state.address ≠
    mutation.newChildShadowView.state.address)
  eventEmitter := decide (mutation.oldChildShadowView.eventEmitter ≠
    mutation.newChildShadowView.eventEmitter)
  layoutMetrics := decide (mutation.oldChildShadowView.layoutMetrics ≠
    mutation.newChildShadowView.layoutMetrics)

theorem updateMountInstruction_updates (m : MountingManager) (mutation : ShadowViewMutation) :
    m.Updates (m.updateMountInstruction mutation) mutation.newChildShadowView
      (changedMask mutation) := by
  unfold updateMountInstruction
  dsimp only
  split
  · rename_i hchild
    refine ⟨⟨rfl, rfl⟩, ?_⟩
    intro x
    exact ⟨(m.component x).parent_, by simp [hchild, RSkComponent.withParent]⟩
  · rename_i child hchild
    split
    · refine ⟨⟨rfl, rfl⟩, ?_⟩
      intro x
      rw [hchild]
      simp only [updateComponentData, setComponent_component, Function.update_apply,
        Option.some.injEq, eq_comm (a := child)]
      split
      · rename_i hx
        exact ⟨(m.component x).parent_, by rw [hx]; rfl⟩
      · exact ⟨(m.component x).parent_, rfl⟩
    · rename_i hnone
      have hmask : changedMask mutation = ComponentUpdateMaskNone := of_not_not hnone
      refine ⟨⟨rfl, rfl⟩, ?_⟩
      intro x
      refine ⟨(m.component x).parent_, ?_⟩
      rw [hmask]
      simp [RSkComponent.updateData, ComponentUpdateMaskNone, RSkComponent.withParent]

theorem removeMountInstruction_data (m : MountingManager) (mutation : ShadowViewMutation) :
    m.SameRegistry (m.removeMountInstruction mutation) ∧
      ∀ x, ∃ parent, (m.removeMountInstruction mutation).component x =
        (m.component x).withParent parent := by
  have hrefl : m.SameRegistry m ∧ ∀ x, ∃ parent, m.component x =
      (m.component x).withParent parent :=
    ⟨⟨rfl, rfl⟩, fun x => ⟨(m.component x).parent_, rfl⟩⟩
  unfold removeMountInstruction
  dsimp only
  split
  · exact hrefl
  · unfold unmountChildComponent
    split
    · exact hrefl
    · refine ⟨⟨rfl, rfl⟩, ?_⟩
      intro x
      simp only [withLayers_component, setComponent_component, Function.update_apply]
      split
      · rename_i hx
        exact ⟨none, by rw [hx]⟩
      · exact ⟨(m.component x).parent_, rfl⟩

/-! ## Keys -/

theorem lookup_setProvider (m : MountingManager) (view : ShadowView)
    (provider : RSkComponentProvider) (key : ViewKey) :
    (m.setProvider view provider).lookup key =
      if key.1 = view.componentHandle then
        match key.2 with
        | none => if provider.isRootView then provider.component_ else none
        | some tag => if provider.isRootView then none else provider.registry_ tag
      else m.lookup key := by
  unfold lookup
  simp only [setProvider_registry_, Function.update_apply]
  split
  · rfl
  · rfl

theorem kind_setProvider (m : MountingManager) (view : ShadowView)
    {provider provider' : RSkComponentProvider} (h : m.getProvider view = some provider)
    (hroot : provider'.isRootView = provider.isRootView) :
    (m.setProvider view provider').kind = m.kind := by
  funext handle
  unfold kind
  simp only [setProvider_registry_, Function.update_apply]
  split
  · rename_i hhandle
    have hold : m.registry_ view.componentHandle = some provider := h
    simp [hhandle, hold, hroot]
  · rfl

theorem kind_of_getProvider {view : ShadowView} {provider : RSkComponentProvider}
    (h : m.getProvider view = some provider) :
    m.kind view.componentHandle = some provider.isRootView :=
  congrArg (Option.map RSkComponentProvider.isRootView) h

/-- A created component is at its key, and every other component where it was. -/
theorem createMountInstruction_lookup {provider : RSkComponentProvider}
    (h : m.getProvider mutation.newChildShadowView = some provider) :
    (m.createMountInstruction mutation).kind = m.kind ∧
      (m.createMountInstruction mutation).lookup =
        Function.update m.lookup (mutation.newChildShadowView.key m.kind)
          (some m.layers.nextId) := by
  have hkind := m.kind_of_getProvider h
  simp only [createMountInstruction, h]
  refine ⟨m.kind_setProvider _ h rfl, ?_⟩
  funext key
  change (m.setProvider _ _).lookup key = _
  rw [lookup_setProvider, Function.update_apply]
  obtain ⟨handle, tag⟩ := key
  by_cases hhandle : handle = mutation.newChildShadowView.componentHandle
  · subst hhandle
    cases hroot : provider.isRootView with
    | true =>
      cases tag with
      | none => simp [ShadowView.key, hkind, hroot, RSkComponentProvider.createAndAddComponent]
      | some tag =>
        have hold : m.registry_ mutation.newChildShadowView.componentHandle = some provider := h
        simp [ShadowView.key, hkind, hroot, RSkComponentProvider.createAndAddComponent, lookup,
          hold]
    | false =>
      have hold : m.registry_ mutation.newChildShadowView.componentHandle = some provider := h
      cases tag with
      | none =>
        simp [ShadowView.key, hkind, hroot, RSkComponentProvider.createAndAddComponent, lookup,
          hold]
      | some tag =>
        simp [ShadowView.key, hkind, hroot, RSkComponentProvider.createAndAddComponent, lookup,
          hold, Function.update_apply]
  · simp [ShadowView.key, hhandle]

/-- A key without a component has none after a deletion either. -/
theorem lookup_update_none {view : ShadowView} (h : m.getComponent view = none) :
    m.lookup = Function.update m.lookup (view.key m.kind) none := by
  rw [getComponent_eq_lookup] at h
  rw [← h, Function.update_eq_self]

/-- A deletion takes the component of its key, unless that is the root view. -/
theorem deleteMountInstruction_lookup (m : MountingManager) (mutation : ShadowViewMutation) :
    (m.deleteMountInstruction mutation).kind = m.kind ∧
      (m.deleteMountInstruction mutation).lookup =
        if m.kind mutation.oldChildShadowView.componentHandle = some true then m.lookup
        else Function.update m.lookup (mutation.oldChildShadowView.key m.kind) none := by
  unfold deleteMountInstruction
  dsimp only
  split
  · rename_i hprovider
    have hkind : m.kind mutation.oldChildShadowView.componentHandle = none :=
      congrArg (Option.map RSkComponentProvider.isRootView) hprovider
    have hnone : m.getComponent mutation.oldChildShadowView = none := by
      simp [getComponent, hprovider]
    exact ⟨rfl, by rw [hkind, if_neg (by simp)]; exact lookup_update_none hnone⟩
  · rename_i provider hprovider
    have hkind := m.kind_of_getProvider hprovider
    split
    · rename_i hcomponent
      have hnone : m.getComponent mutation.oldChildShadowView = none := by
        simp [getComponent, hprovider, hcomponent]
      refine ⟨rfl, ?_⟩
      split
      · rfl
      · exact lookup_update_none hnone
    · refine ⟨m.kind_setProvider _ hprovider rfl, ?_⟩
      have hold : m.registry_ mutation.oldChildShadowView.componentHandle = some provider :=
        hprovider
      funext key
      rw [lookup_setProvider]
      obtain ⟨handle, tag⟩ := key
      by_cases hhandle : handle = mutation.oldChildShadowView.componentHandle
      · subst hhandle
        cases hroot : provider.isRootView with
        | true =>
          cases tag with
          | none => simp [hkind, hroot, RSkComponentProvider.deleteComponent, lookup, hold]
          | some tag => simp [hkind, hroot, RSkComponentProvider.deleteComponent, lookup, hold]
        | false =>
          cases tag with
          | none =>
            simp [ShadowView.key, hkind, hroot, RSkComponentProvider.deleteComponent, lookup, hold]
          | some tag =>
            simp [ShadowView.key, hkind, hroot, RSkComponentProvider.deleteComponent, lookup, hold,
              Function.update_apply]
      · simp only [hhandle, if_false]
        split
        · rfl
        · simp [ShadowView.key, hhandle]

theorem deleteMountInstruction_component (m : MountingManager) (mutation : ShadowViewMutation) :
    (m.deleteMountInstruction mutation).component = m.component ∧
      (m.deleteMountInstruction mutation).layers = m.layers := by
  unfold deleteMountInstruction
  dsimp only
  split
  · exact ⟨rfl, rfl⟩
  · split
    · exact ⟨rfl, rfl⟩
    · exact ⟨rfl, rfl⟩

end MountingManager

theorem RSkComponent.Has.withParent {c : RSkComponent} {view : ShadowView} (h : c.Has view)
    (parent : Option LayerId) : (c.withParent parent).Has view :=
  ⟨h.props, h.eventEmitter, h.layoutMetrics, h.state⟩

/-- A component that gets all parts of a view has its data. -/
theorem RSkComponent.has_updateData_all (c : RSkComponent) (view : ShadowView) :
    (c.updateData view ComponentUpdateMaskAll).Has view :=
  ⟨rfl, rfl, rfl, rfl⟩

/-- The parts that have changed since the view it has are enough. -/
theorem RSkComponent.Has.updateData {c : RSkComponent} {mutation : ShadowViewMutation}
    (h : c.Has mutation.oldChildShadowView) :
    (c.updateData mutation.newChildShadowView (MountingManager.changedMask mutation)).Has
      mutation.newChildShadowView := by
  refine ⟨?_, ?_, ?_, ?_⟩
  · simp only [RSkComponent.updateData, MountingManager.changedMask, h.props]
    split <;> simp_all
  · simp only [RSkComponent.updateData, MountingManager.changedMask, h.eventEmitter]
    split <;> simp_all
  · simp only [RSkComponent.updateData, MountingManager.changedMask, h.layoutMetrics]
    split <;> simp_all
  · simp only [RSkComponent.updateData, MountingManager.changedMask, h.state]
    split <;> simp_all

namespace MountedViews

variable {viewProps : SharedProps → ViewProps} {blank : ViewComponent} {m m' : MountedViews}
  {views : ShadowViews} {mutation : ShadowViewMutation}

/-- Nothing has changed that is shown. -/
theorem Shows.same (hs : m.Shows viewProps views) (hsame : m.manager.SameRegistry m'.manager)
    (hdata : ∀ x, ∃ parent, m'.manager.component x = (m.manager.component x).withParent parent)
    (hviews : m'.views = m.views) : m'.Shows viewProps views := by
  have hlookup := hsame.lookup_eq
  refine ⟨?_, ?_, ?_, ?_, ?_⟩
  · intro key
    rw [hlookup]
    exact hs.isSome_eq key
  · intro key c given hc hgiven
    rw [hlookup] at hc
    obtain ⟨parent, hparent⟩ := hdata c
    rw [hparent]
    exact (hs.has key c given hc hgiven).withParent parent
  · intro key c given hc hgiven hinserted
    rw [hlookup] at hc
    rw [hviews]
    exact hs.shows key c given hc hgiven hinserted
  · rw [hlookup]
    exact hs.injective
  · rw [hlookup, hsame.2]
    exact hs.lt_nextId

/-- The component of one key has been given another view. -/
theorem Shows.given (hs : m.Shows viewProps views) {view : ShadowView}
    {updateMask : ComponentUpdateMask}
    (hupdates : m.manager.Updates m'.manager view updateMask) {c : LayerId} {new : GivenView}
    (hc : m.manager.getComponent view = some c)
    (hhas : ((m.manager.component c).updateData view updateMask).Has new.view)
    (hshown : new.inserted = true → m'.views c = .showing (viewProps new.view.props))
    (hothers : ∀ x, x ≠ c → m'.views x = m.views x) :
    m'.Shows viewProps (Function.update views (view.key m.manager.kind) (some new)) := by
  obtain ⟨hsame, hdata⟩ := hupdates
  have hlookup := hsame.lookup_eq
  have hkey := hc
  rw [MountingManager.getComponent_eq_lookup] at hkey
  refine ⟨?_, ?_, ?_, ?_, ?_⟩
  · intro key
    rw [hlookup, Function.update_apply]
    split
    · rename_i heq
      simp [heq, hkey]
    · exact hs.isSome_eq key
  · intro key x given hx hgiven
    rw [hlookup] at hx
    obtain ⟨parent, hparent⟩ := hdata x
    rw [hparent, hc]
    by_cases heq : key = view.key m.manager.kind
    · subst heq
      rw [Function.update_self] at hgiven
      cases hgiven
      obtain rfl : c = x := Option.some.inj (hkey.symm.trans hx)
      rw [if_pos rfl]
      exact hhas.withParent parent
    · rw [Function.update_of_ne heq] at hgiven
      have hne : c ≠ x := fun h => heq (hs.injective _ _ x hx (h ▸ hkey))
      rw [if_neg (fun h => hne (Option.some.inj h))]
      exact (hs.has key x given hx hgiven).withParent parent
  · intro key x given hx hgiven hinserted
    rw [hlookup] at hx
    by_cases heq : key = view.key m.manager.kind
    · subst heq
      rw [Function.update_self] at hgiven
      cases hgiven
      obtain rfl : c = x := Option.some.inj (hkey.symm.trans hx)
      exact hshown hinserted
    · rw [Function.update_of_ne heq] at hgiven
      have hne : x ≠ c := fun h => heq (hs.injective _ _ x hx (h ▸ hkey))
      rw [hothers x hne]
      exact hs.shows key x given hx hgiven hinserted
  · rw [hlookup]
    exact hs.injective
  · rw [hlookup, hsame.2]
    exact hs.lt_nextId

theorem Shows.given_none (hs : m.Shows viewProps views) {view : ShadowView}
    (hc : m.manager.getComponent view = none) : views (view.key m.manager.kind) = none := by
  rw [MountingManager.getComponent_eq_lookup] at hc
  have hsome := hs.isSome_eq (view.key m.manager.kind)
  simpa [hc] using hsome.symm

theorem Shows.given_some (hs : m.Shows viewProps views) {view : ShadowView} {c : LayerId}
    (hc : m.manager.getComponent view = some c) :
    ∃ given, views (view.key m.manager.kind) = some given := by
  rw [MountingManager.getComponent_eq_lookup] at hc
  have hsome := hs.isSome_eq (view.key m.manager.kind)
  rw [hc] at hsome
  exact Option.isSome_iff_exists.mp hsome.symm

theorem Shows.create (hs : m.Shows viewProps views) (htype : mutation.type = .Create)
    (h : m.processMutation viewProps blank mutation = some m') :
    m'.manager.kind = m.manager.kind ∧
      m'.Shows viewProps (views.apply m.manager.kind mutation) := by
  simp only [processMutation, MountingManager.processMutation, htype, viewsAfter,
    Option.map_some, Option.some.injEq] at h
  subst h
  cases hprovider : m.manager.getProvider mutation.newChildShadowView with
  | none =>
    have hkind : m.manager.kind mutation.newChildShadowView.componentHandle = none :=
      congrArg (Option.map RSkComponentProvider.isRootView) hprovider
    have hnew : m.manager.createMountInstruction mutation = m.manager := by
      simp [MountingManager.createMountInstruction, hprovider]
    simp only [ShadowViews.apply, htype, hkind]
    exact ⟨congrArg MountingManager.kind hnew, hs.same (by rw [hnew]; exact ⟨rfl, rfl⟩)
      (by rw [hnew]; exact fun x => ⟨(m.manager.component x).parent_, rfl⟩) rfl⟩
  | some provider =>
    have hkind := m.manager.kind_of_getProvider hprovider
    obtain ⟨hkinds, hlookup⟩ := m.manager.createMountInstruction_lookup hprovider
    have hcomponent : (m.manager.createMountInstruction mutation).component =
        Function.update m.manager.component m.manager.layers.nextId
          (.new mutation.newChildShadowView) := by
      simp only [MountingManager.createMountInstruction, hprovider]
      rfl
    have hnext : (m.manager.createMountInstruction mutation).layers.nextId =
        m.manager.layers.nextId + 1 := by
      simp [MountingManager.createMountInstruction, hprovider, Heap.create]
    simp only [ShadowViews.apply, htype, hkind, Option.isSome_some, if_true]
    refine ⟨hkinds, ⟨?_, ?_, ?_, ?_, ?_⟩⟩
    · intro key
      simp only [hlookup, Function.update_apply]
      split
      · rfl
      · exact hs.isSome_eq key
    · intro key c given hc hgiven
      simp only [hlookup, hcomponent, Function.update_apply] at hc hgiven ⊢
      by_cases heq : key = mutation.newChildShadowView.key m.manager.kind
      · rw [if_pos heq] at hc hgiven
        cases hc
        cases hgiven
        rw [if_pos rfl]
        exact ⟨rfl, rfl, rfl, rfl⟩
      · rw [if_neg heq] at hc hgiven
        rw [if_neg (Nat.ne_of_lt (hs.lt_nextId key c hc))]
        exact hs.has key c given hc hgiven
    · intro key c given hc hgiven hinserted
      simp only [hlookup, Function.update_apply] at hc hgiven ⊢
      by_cases heq : key = mutation.newChildShadowView.key m.manager.kind
      · rw [if_pos heq] at hgiven
        cases hgiven
        cases hinserted
      · rw [if_neg heq] at hc hgiven
        rw [if_neg (Nat.ne_of_lt (hs.lt_nextId key c hc))]
        exact hs.shows key c given hc hgiven hinserted
    · -- the new component is at its key only, as the others are older
      intro key key' c hc hc'
      simp only [hlookup, Function.update_apply] at hc hc'
      split at hc
      · cases hc
        split at hc'
        · rename_i heq heq'
          exact heq.trans heq'.symm
        · exact absurd (hs.lt_nextId key' _ hc') (Nat.lt_irrefl _)
      · split at hc'
        · cases hc'
          exact absurd (hs.lt_nextId key _ hc) (Nat.lt_irrefl _)
        · exact hs.injective key key' c hc hc'
    · intro key c hc
      simp only [hlookup, hnext, Function.update_apply] at hc ⊢
      split at hc
      · cases hc
        exact Nat.lt_succ_self _
      · exact Nat.lt_succ_of_lt (hs.lt_nextId key c hc)

theorem Shows.delete (hs : m.Shows viewProps views) (htype : mutation.type = .Delete)
    (h : m.processMutation viewProps blank mutation = some m') :
    m'.manager.kind = m.manager.kind ∧
      m'.Shows viewProps (views.apply m.manager.kind mutation) := by
  simp only [processMutation, MountingManager.processMutation, htype, viewsAfter,
    Option.map_some, Option.some.injEq] at h
  subst h
  obtain ⟨hkinds, hlookup⟩ := m.manager.deleteMountInstruction_lookup mutation
  obtain ⟨hcomponent, hlayers⟩ := m.manager.deleteMountInstruction_component mutation
  refine ⟨hkinds, ?_⟩
  simp only [ShadowViews.apply, htype]
  split at hlookup
  · rename_i hroot
    rw [if_pos hroot]
    refine ⟨?_, ?_, ?_, ?_, ?_⟩
    · simpa only [hlookup] using hs.isSome_eq
    · simpa only [hlookup, hcomponent] using hs.has
    · simpa only [hlookup] using hs.shows
    · simpa only [hlookup] using hs.injective
    · simpa only [hlookup, hlayers] using hs.lt_nextId
  · rename_i hroot
    rw [if_neg hroot]
    have hold : ∀ {key c}, Function.update m.manager.lookup
        (mutation.oldChildShadowView.key m.manager.kind) none key = some c →
        key ≠ mutation.oldChildShadowView.key m.manager.kind ∧ m.manager.lookup key = some c := by
      intro key c hc
      rw [Function.update_apply] at hc
      split at hc
      · cases hc
      · rename_i hne
        exact ⟨hne, hc⟩
    refine ⟨?_, ?_, ?_, ?_, ?_⟩
    · intro key
      simp only [hlookup, Function.update_apply]
      split
      · rfl
      · exact hs.isSome_eq key
    · intro key c given hc hgiven
      simp only [hlookup, hcomponent] at hc ⊢
      obtain ⟨hne, hc⟩ := hold hc
      rw [Function.update_of_ne hne] at hgiven
      exact hs.has key c given hc hgiven
    · intro key c given hc hgiven
      simp only [hlookup] at hc
      obtain ⟨hne, hc⟩ := hold hc
      rw [Function.update_of_ne hne] at hgiven
      exact hs.shows key c given hc hgiven
    · intro key key' c hc hc'
      simp only [hlookup] at hc hc'
      exact hs.injective key key' c (hold hc).2 (hold hc').2
    · intro key c hc
      simp only [hlookup, hlayers] at hc ⊢
      exact hs.lt_nextId key c (hold hc).2

theorem Shows.insert (hs : m.Shows viewProps views) (htype : mutation.type = .Insert)
    (h : m.processMutation viewProps blank mutation = some m') :
    m'.manager.kind = m.manager.kind ∧
      m'.Shows viewProps (views.apply m.manager.kind mutation) := by
  obtain ⟨manager, hmanager, rfl⟩ := Option.map_eq_some_iff.mp h
  simp only [MountingManager.processMutation, htype] at hmanager
  have hupdates := MountingManager.insertMountInstruction_updates hmanager
  refine ⟨hupdates.1.kind_eq, ?_⟩
  simp only [ShadowViews.apply, htype, viewsAfter]
  cases hchild : m.manager.getComponent mutation.newChildShadowView with
  | none =>
    have hnone := hs.given_none hchild
    rw [hnone, Option.map_none, ← hnone, Function.update_eq_self]
    refine hs.same hupdates.1 ?_ rfl
    simpa [hchild] using hupdates.2
  | some c =>
    obtain ⟨given, hgiven⟩ := hs.given_some hchild
    rw [hgiven, Option.map_some]
    refine hs.given hupdates hchild (RSkComponent.has_updateData_all _ _) ?_ ?_
    · intro _
      simp [ViewComponent.updateComponentData_force]
    · intro x hx
      exact Function.update_of_ne hx _ _

theorem Shows.update (hs : m.Shows viewProps views) (htype : mutation.type = .Update)
    (haccepts : views.Accepts viewProps m.manager.kind mutation)
    (h : m.processMutation viewProps blank mutation = some m') :
    m'.manager.kind = m.manager.kind ∧
      m'.Shows viewProps (views.apply m.manager.kind mutation) := by
  obtain ⟨manager, hmanager, rfl⟩ := Option.map_eq_some_iff.mp h
  simp only [MountingManager.processMutation, htype, Option.some.injEq] at hmanager
  subst hmanager
  have hupdates := m.manager.updateMountInstruction_updates mutation
  refine ⟨hupdates.1.kind_eq, ?_⟩
  simp only [ShadowViews.apply, htype, viewsAfter]
  cases hchild : m.manager.getComponent mutation.newChildShadowView with
  | none =>
    have hnone := hs.given_none hchild
    rw [hnone, Option.map_none, ← hnone, Function.update_eq_self]
    refine hs.same hupdates.1 ?_ rfl
    simpa [hchild] using hupdates.2
  | some c =>
    obtain ⟨given, hgiven⟩ := hs.given_some hchild
    obtain ⟨hview, hobject⟩ := haccepts htype given hgiven
    have hkey := hchild
    rw [MountingManager.getComponent_eq_lookup] at hkey
    have hhas := hs.has _ c given hkey hgiven
    rw [hview] at hhas
    rw [hgiven, Option.map_some]
    refine hs.given hupdates hchild hhas.updateData ?_ ?_
    · intro hinserted
      have hshown := hs.shows _ c given hkey hgiven hinserted
      rw [hview] at hshown
      dsimp only
      split
      · rw [Function.update_self, hshown, ViewComponent.updateComponentData_showing]
      · rename_i hsame
        rw [hshown, hobject (of_not_not hsame)]
    · intro x hx
      dsimp only
      split
      · exact Function.update_of_ne hx _ _
      · rfl

theorem Shows.processMutation (hs : m.Shows viewProps views)
    (haccepts : views.Accepts viewProps m.manager.kind mutation)
    (h : MountedViews.processMutation viewProps blank m mutation = some m') :
    m'.manager.kind = m.manager.kind ∧
      m'.Shows viewProps (views.apply m.manager.kind mutation) := by
  cases htype : mutation.type with
  | Create => exact hs.create htype h
  | Delete => exact hs.delete htype h
  | Insert => exact hs.insert htype h
  | Update => exact hs.update htype haccepts h
  | Remove =>
    simp only [MountedViews.processMutation, MountingManager.processMutation, htype, viewsAfter,
      Option.map_some, Option.some.injEq] at h
    subst h
    obtain ⟨hsame, hdata⟩ := m.manager.removeMountInstruction_data mutation
    simp only [ShadowViews.apply, htype]
    exact ⟨hsame.kind_eq, hs.same hsame hdata rfl⟩

end MountedViews

end

namespace MountedViews

open TranslationSkia

/-- Two objects of props: the second one is translucent. -/
def twoProps (props : SharedProps) : ViewProps :=
  { opacity := if props.address = 0 then 1 else 1 / 2 }

def windowViews : MountedViews :=
  { manager := .window, views := fun _ => .showing {} }

/-- The root view has been given, and nothing else. -/
def windowGiven : ShadowViews :=
  Function.update (fun _ => none) (0, none) (some ⟨MountingManager.plainView 0 1, false⟩)

theorem windowViews_shows : windowViews.Shows twoProps windowGiven := by
  have hlookup : ∀ key, windowViews.manager.lookup key =
      if key = (0, none) then some 0 else none := by
    intro key
    obtain ⟨handle, tag⟩ := key
    unfold windowViews MountingManager.window MountingManager.lookup
    by_cases hroot : handle = 0
    · cases tag <;> simp [hroot]
    · by_cases hplain : handle = 1
      · cases tag <;> simp [hplain]
      · simp [hroot, hplain]
  refine ⟨?_, ?_, ?_, ?_, ?_⟩
  · intro key
    rw [hlookup, windowGiven, Function.update_apply]
    split <;> rfl
  · intro key c given hc hgiven
    rw [hlookup] at hc
    rw [windowGiven, Function.update_apply] at hgiven
    split at hgiven
    · cases hgiven
      exact ⟨rfl, rfl, rfl, rfl⟩
    · cases hgiven
  · intro key c given hc hgiven hinserted
    rw [windowGiven, Function.update_apply] at hgiven
    split at hgiven
    · cases hgiven
      cases hinserted
    · cases hgiven
  · intro key key' c hc hc'
    rw [hlookup] at hc hc'
    split at hc
    · rename_i hkey
      split at hc'
      · rename_i hkey'
        exact hkey.trans hkey'.symm
      · cases hc'
    · cases hc
  · intro key c hc
    rw [hlookup] at hc
    split at hc
    · cases hc
      decide
    · cases hc

/-- A plain view made translucent and resized. -/
def fade : ShadowViewMutation :=
  let old := MountingManager.plainView 1 2
  { MountingManager.rootMutation .Update 2 (-1) with
    newChildShadowView :=
      { old with props := { old.props with address := 1 }, layoutMetrics := { width := 8 } } }

end MountedViews

end ReactNativeSkia
