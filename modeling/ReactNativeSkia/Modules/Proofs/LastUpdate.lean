import ReactNativeSkia.Modules.Uimanager
import ReactNativeSkia.Misc.FixedBase
import ReactNativeSkia.Misc.Lists

/-!
# The last native update of an attribute

`updateProps` leaves an attribute alone whose new value is the stored one, and `updateView` does
not store what it has shown. So every attribute is shown against a fixed base, apart from the
others.
-/

namespace ReactNativeSkia

/-- The layer attributes that native updates name. -/
inductive ViewAttribute where
  | opacity
  | shadowOpacity
  | shadowRadius
  | shadowOffset
  | shadowColor
  | backgroundColor
  | transform
  | overflow
  deriving DecidableEq, Repr

namespace ViewAttribute

/-- What `updateProps` compares of the attribute. -/
def Value : ViewAttribute → Type
  | opacity | shadowOpacity | shadowRadius => ℚ
  | shadowOffset => ℚ × ℚ
  | shadowColor | backgroundColor => SharedColor
  | transform => Transform
  | overflow => Bool

/-- What the layer keeps of it. -/
def Shown : ViewAttribute → Type
  | opacity | shadowOpacity | shadowRadius => ℚ
  | shadowOffset => ℚ × ℚ
  | shadowColor | backgroundColor => SkColor
  | transform => SkMatrix
  | overflow => Bool

instance instDecidableEqValue : ∀ a : ViewAttribute, DecidableEq a.Value
  | opacity | shadowOpacity | shadowRadius => inferInstanceAs (DecidableEq ℚ)
  | shadowOffset => inferInstanceAs (DecidableEq (ℚ × ℚ))
  | shadowColor | backgroundColor => inferInstanceAs (DecidableEq SharedColor)
  | transform => inferInstanceAs (DecidableEq Transform)
  | overflow => inferInstanceAs (DecidableEq Bool)

/-- The layer value that a value derives. -/
def derive : ∀ a : ViewAttribute, a.Value → a.Shown
  | opacity | shadowOpacity => opacityTo8Bit
  | shadowRadius | shadowOffset | overflow => id
  | shadowColor => (RSkColorFromSharedColor · SK_ColorBLACK)
  | backgroundColor => (RSkColorFromSharedColor · SK_ColorTRANSPARENT)
  | transform => RSkTransformTo2DMatrix

end ViewAttribute

def ViewProps.value (props : ViewProps) : ∀ a : ViewAttribute, a.Value
  | .opacity => props.opacity
  | .shadowOpacity => props.shadowOpacity
  | .shadowRadius => props.shadowRadius
  | .shadowOffset => props.shadowOffset
  | .shadowColor => props.shadowColor
  | .backgroundColor => props.backgroundColor
  | .transform => props.transform
  | .overflow => props.getClipsContentToBounds

/-- The value that an update gives, if it names the attribute. -/
def RawProps.value? (rawProps : RawProps) : ∀ a : ViewAttribute, Option a.Value
  | .opacity => rawProps.opacity
  | .shadowOpacity => rawProps.shadowOpacity
  | .shadowRadius => rawProps.shadowRadius
  | .shadowOffset => rawProps.shadowOffset
  | .shadowColor => rawProps.shadowColor
  | .backgroundColor => rawProps.backgroundColor
  | .transform => rawProps.transform
  | .overflow => rawProps.overflow.map fun overflow => decide (overflow ≠ .visible)

def LayerStyle.shown (layer : LayerStyle) : ∀ a : ViewAttribute, a.Shown
  | .opacity => layer.opacity
  | .shadowOpacity => layer.shadowOpacity
  | .shadowRadius => layer.shadowRadius
  | .shadowOffset => layer.shadowOffset
  | .shadowColor => layer.shadowColor
  | .backgroundColor => layer.backgroundColor
  | .transform => layer.transformMatrix
  | .overflow => layer.masksToBounds_

/-! ## One update -/

section
variable (c : ViewComponent) (newProps : ViewProps) (rawProps : RawProps) (a : ViewAttribute)

/-- `updateProps` treats every attribute alike, and none looks at another. -/
theorem updateProps_shown (forceUpdate : Bool) :
    (c.updateProps newProps forceUpdate).layer.shown a =
      updateProp forceUpdate (c.props.value a) (newProps.value a) a.derive (c.layer.shown a) := by
  cases a <;> rfl

theorem updateProp_false {α β : Type*} [DecidableEq α] (oldProp newProp : α) (show_ : α → β)
    (shown : β) :
    updateProp false oldProp newProp show_ shown = applyChanged oldProp show_ shown newProp := by
  simp [updateProp, applyChanged]

theorem cloneProps_value (props : ViewProps) :
    (cloneProps props rawProps).value a = (rawProps.value? a).getD (props.value a) := by
  cases a
  case overflow =>
    -- the comparison is of the clipping, which an overflow decides
    exact (Option.getD_map (fun overflow => decide (overflow ≠ Overflow.visible)) _ _).symm
  all_goals rfl

theorem updateComponent_props : (Uimanager.updateComponent c rawProps).props = c.props := rfl

theorem updateComponent_shown :
    (Uimanager.updateComponent c rawProps).layer.shown a =
      (rawProps.value? a).elim (c.layer.shown a)
        (applyChanged (c.props.value a) a.derive (c.layer.shown a)) := by
  unfold Uimanager.updateComponent
  rw [updateProps_shown, cloneProps_value, updateProp_false]
  cases rawProps.value? a with
  | none => exact applyChanged_base
  | some value => rfl

end

/-- After a React update the layer shows the stored props, if it has shown those before or the
update is forced. -/
theorem updateComponentData_shown {c : ViewComponent} {newProps : ViewProps} {forceUpdate : Bool}
    (h : forceUpdate = true ∨ ∀ a, c.layer.shown a = a.derive (c.props.value a))
    (a : ViewAttribute) :
    (c.updateComponentData newProps forceUpdate).layer.shown a =
      a.derive ((c.updateComponentData newProps forceUpdate).props.value a) := by
  refine (updateProps_shown c newProps a forceUpdate).trans ?_
  unfold updateProp
  split_ifs with hchanged
  · rfl
  · obtain ⟨hforce, hsame⟩ : forceUpdate = false ∧ c.props.value a = newProps.value a := by
      simpa using hchanged
    rw [(h.resolve_left (by simp [hforce])) a, hsame]
    rfl

/-! ## The shadow filters -/

/-- The filters and the visibility are those of the layer's shadow. -/
structure LayerStyle.ShadowInStep (layer : LayerStyle) : Prop where
  image : layer.shadowImageFilter = some ⟨layer.shadowOffset.1, layer.shadowOffset.2,
    layer.shadowRadius, layer.shadowRadius, layer.shadowColor⟩
  mask : layer.shadowMaskFilter = some ⟨layer.shadowRadius⟩
  visible : layer.isShadowVisible = layer.needsShadowPainting

/-- A forced update, as on creation, makes the filters, and every other keeps them in step. -/
theorem updateProps_shadowInStep {c : ViewComponent} {newProps : ViewProps} {forceUpdate : Bool}
    (h : forceUpdate = true ∨ c.layer.ShadowInStep) :
    (c.updateProps newProps forceUpdate).layer.ShadowInStep := by
  by_cases hcreate : c.createShadowFilter newProps forceUpdate = true
  · constructor <;> simp [ViewComponent.updateProps, hcreate, LayerStyle.needsShadowPainting]
  · simp only [ViewComponent.createShadowFilter, Bool.or_eq_true, decide_eq_true_eq, not_or,
      not_not] at hcreate
    obtain ⟨⟨⟨⟨hforce, hopacity⟩, hradius⟩, hoffset⟩, hcolor⟩ := hcreate
    have hshadow := h.resolve_left hforce
    -- none of the four shadow props has changed, so the layer keeps them with their filters
    constructor
    · simp [ViewComponent.updateProps, ViewComponent.createShadowFilter,
        ViewComponent.updateShadowProps, updateProp, hforce, hopacity, hradius, hoffset, hcolor,
        hshadow.image]
    · simp [ViewComponent.updateProps, ViewComponent.createShadowFilter,
        ViewComponent.updateShadowProps, updateProp, hforce, hopacity, hradius, hoffset, hcolor,
        hshadow.mask]
    · rfl

/-! ## The component of a call -/

/-- The view has its component in one provider alone, and names tell the providers apart. -/
structure Uimanager.Mounted (m : Uimanager) (kv : RegisteredProvider) (tag : Tag)
    (component : LayerId) : Prop where
  registered : kv ∈ m.registry_
  descriptor : m.hasComponentDescriptor kv.handle = true
  component_eq : kv.provider.getComponent tag = some component
  not_root : kv.name ≠ "RootView"
  tag_unique : ∀ other ∈ m.registry_, other.name ≠ "RootView" →
    (other.provider.getComponent tag).isSome → other = kv
  name_unique : ∀ other ∈ m.registry_, other.name = kv.name → other = kv

/-- A mounted view is found by its tag alone and by its tag and the name of its provider. -/
theorem Uimanager.Mounted.findComponent {m : Uimanager} {kv : RegisteredProvider} {tag : Tag}
    {component : LayerId} (h : m.Mounted kv tag component) {viewManagerName : String}
    (hname : viewManagerName = "" ∨ viewManagerName = kv.name) :
    m.findComponent tag viewManagerName = some component := by
  have hbyTag : m.getProviderByTag tag = some kv := by
    refine find?_eq_of_unique h.registered (by simp [h.not_root, h.component_eq]) ?_
    intro other hother hfound
    obtain ⟨hroot, hsome⟩ := of_decide_eq_true hfound
    exact h.tag_unique other hother hroot hsome
  have hbyName : m.getProviderByName kv.name = some kv := by
    refine find?_eq_of_unique h.registered (by simp) ?_
    intro other hother hfound
    exact h.name_unique other hother (of_decide_eq_true hfound)
  have hprovider : (if viewManagerName.isEmpty then m.getProviderByTag tag
      else m.getProviderByName viewManagerName) = some kv := by
    split_ifs with hempty
    · exact hbyTag
    · obtain rfl | rfl := hname
      · exact absurd rfl hempty
      · exact hbyName
  unfold Uimanager.findComponent
  rw [hprovider]
  simp [h.descriptor, h.component_eq]

/-! ## Sequences of updates -/

/-- The arguments of `updateView`. -/
structure ViewCall where
  tag : Tag
  viewManagerName : String
  props : RawProps

namespace Uimanager

variable (m : Uimanager) (component : LayerId) (calls : List ViewCall) (a : ViewAttribute)

def updateViews : Uimanager :=
  calls.foldl (fun m call => m.updateView call.tag call.viewManagerName call.props) m

/-- The values that the calls on the component give to the attribute. -/
def given : List a.Value :=
  calls.filterMap fun call =>
    if m.findComponent call.tag call.viewManagerName = some component then call.props.value? a
    else none

section
variable (tag : Tag) (viewManagerName : String) (rawProps : RawProps)

theorem updateView_findComponent :
    (m.updateView tag viewManagerName rawProps).findComponent = m.findComponent := by
  unfold updateView
  split <;> rfl

theorem updateView_component :
    (m.updateView tag viewManagerName rawProps).components component =
      if m.findComponent tag viewManagerName = some component then
        updateComponent (m.components component) rawProps
      else m.components component := by
  unfold updateView
  split
  · next hfind => simp [hfind]
  · next found hfind =>
    rw [hfind]
    by_cases hsame : found = component
    · subst hsame
      simp
    · simp [hsame, Function.update_of_ne (Ne.symm hsame)]

end

/-- What is shown in the end comes from the values given, one after the other. -/
theorem updateViews_shown :
    ((m.updateViews calls).components component).layer.shown a =
      (m.given component calls a).foldl
        (applyChanged ((m.components component).props.value a) a.derive)
        ((m.components component).layer.shown a) := by
  induction calls generalizing m with
  | nil => rfl
  | cons call calls ih =>
    refine (ih _).trans ?_
    unfold given
    rw [updateView_findComponent, updateView_component, List.filterMap_cons]
    split_ifs with hfind
    · rw [updateComponent_props, updateComponent_shown]
      cases call.props.value? a <;> rfl
    · rfl

/-- The filters of a mounted component follow its shadow props through any native updates. -/
theorem updateViews_shadowInStep (h : (m.components component).layer.ShadowInStep) :
    ((m.updateViews calls).components component).layer.ShadowInStep := by
  induction calls generalizing m with
  | nil => exact h
  | cons call calls ih =>
    apply ih
    rw [updateView_component]
    split_ifs
    · exact updateProps_shadowInStep (.inr h)
    · exact h

/-- The layer has the value of the last update of every attribute, and what no update has named
is unchanged. -/
def LastUpdateWins : Prop :=
  ∀ a : ViewAttribute, ((m.updateViews calls).components component).layer.shown a =
    match (m.given component calls a).getLast? with
    | some value => a.derive value
    | none => (m.components component).layer.shown a

/-- Where the last value of an attribute is the stored one, the last of the values that differ
from it derives the same for the layer; if there is none, the layer has had that all along. -/
def ReturnsShown : Prop :=
  ∀ a : ViewAttribute, ∀ value ∈ (m.given component calls a).getLast?,
    value = (m.components component).props.value a →
      lastChanged ((m.components component).props.value a) a.derive
        ((m.components component).layer.shown a) (m.given component calls a) = a.derive value

end Uimanager

theorem lastUpdateWins_iff (m : Uimanager) (component : LayerId) (calls : List ViewCall) :
    m.LastUpdateWins component calls ↔ m.ReturnsShown component calls := by
  refine forall_congr' fun a => ?_
  rw [m.updateViews_shown component calls a]
  cases hlast : (m.given component calls a).getLast? with
  | none => simp [List.getLast?_eq_none_iff.mp hlast]
  | some value => simpa using foldl_applyChanged_eq_last hlast

/-- A component in front of its first update. -/
def createdView : ViewComponent where
  props := {}
  commonProps := ⟨SK_ColorTRANSPARENT, 0, (0, 0, 0, 0), 0⟩
  layer := { backgroundColor := SK_ColorTRANSPARENT, backfaceVisibility := 0 }

/-- A view with tag 7 as it is mounted, with the default props. -/
def oneView : Uimanager where
  registry_ := [{
    handle := 1
    name := "View"
    provider := {
      layerType := .picture
      registry_ := Function.update (fun _ => none) 7 (some 3) } }]
  hasComponentDescriptor := fun _ => true
  components := fun _ => createdView.updateComponentData {} true

/-- A view fades to half and back to the stored opacity of one: it stays at half. -/
theorem return_to_stored_ignored :
    ¬ ∀ (m : Uimanager) (component : LayerId) (calls : List ViewCall),
      m.LastUpdateWins component calls := by
  intro h
  have hopacity : ((oneView.updateViews [⟨7, "View", { opacity := some (1 / 2) }⟩,
      ⟨7, "", { opacity := some 1 }⟩]).components 3).layer.opacity = opacityTo8Bit 1 :=
    h oneView 3 _ .opacity
  revert hopacity
  decide +kernel

end ReactNativeSkia
