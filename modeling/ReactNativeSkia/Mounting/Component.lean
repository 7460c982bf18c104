import ReactNativeSkia.Compositor.Layers.Layer
import Mathlib.Data.Rat.Defs

/-!
# Components and their providers

`RSkComponent` as far as its layer and its parent go (`ReactSkia/components/RSkComponent.cpp:
26-31, 92-98, 227-330`), and the providers that keep the components by their tags
(`RSkComponentProvider.h`, `RSkComponentProviderRootView.cpp`). `requiresLayer` makes one layer
for a component right after the component is made, and nothing replaces it, so a component goes
by the name of its layer. A destroyed component keeps its record.
-/

namespace ReactNativeSkia

abbrev Tag := Int

abbrev ComponentHandle := Int

/-- The conversion of a `Float` to `int` drops the fraction. -/
def floatToInt (q : ℚ) : Int := q.num.tdiv q.den

/-- `LayoutMetrics`: the frame, and a code for the metrics that are only compared. -/
structure LayoutMetrics where
  x : ℚ := 0
  y : ℚ := 0
  width : ℚ := 0
  height : ℚ := 0
  others : Nat := 0
  deriving DecidableEq

def LayoutMetrics.frame (m : LayoutMetrics) : SkIRect :=
  .MakeXYWH (floatToInt m.x) (floatToInt m.y) (floatToInt m.width) (floatToInt m.height)

/-- `Props::Shared`, compared by address. `updateProps oldProps forceUpdate` is what
`RSkComponent::updateProps` and the `updateComponentProps` of the component's class write to
the layer: neither its links nor its remove bit. -/
structure SharedProps [Skia] where
  address : Nat
  updateProps : Nat → Bool → Layer → Layer
  parent_eq : ∀ old force l, (updateProps old force l).parent_ = l.parent_
  children_eq : ∀ old force l, (updateProps old force l).children_ = l.children_
  remove_eq : ∀ old force l,
    (updateProps old force l).invalidateMask_.remove = l.invalidateMask_.remove

/-- `State::Shared`, compared by address, with what the `updateComponentState` of the component's
class writes to the layer and the mask it returns. -/
structure SharedState [Skia] where
  address : Nat
  updateComponentState : Nat → Bool → Layer → Layer
  invalidateMask : Nat → Bool → Layer → LayerInvalidateMask
  parent_eq : ∀ old force l, (updateComponentState old force l).parent_ = l.parent_
  children_eq : ∀ old force l, (updateComponentState old force l).children_ = l.children_
  remove_eq : ∀ old force l,
    (updateComponentState old force l).invalidateMask_.remove = l.invalidateMask_.remove
  mask_eq : ∀ old force l, (invalidateMask old force l).remove = false

/-- A `ShadowView` without its name and surface. -/
structure ShadowView [Skia] where
  componentHandle : ComponentHandle
  tag : Tag
  props : SharedProps
  state : SharedState
  eventEmitter : Nat
  layoutMetrics : LayoutMetrics

/-- The bits of `ComponentUpdateMask`. -/
structure ComponentUpdateMask where
  props : Bool
  eventEmitter : Bool
  state : Bool
  layoutMetrics : Bool
  deriving DecidableEq, Repr

def ComponentUpdateMaskNone : ComponentUpdateMask := ⟨false, false, false, false⟩

def ComponentUpdateMaskAll : ComponentUpdateMask := ⟨true, true, true, true⟩

/-- `RSkComponent`: the parent, by its layer, and `component_` with the shared pointers as
addresses. -/
structure RSkComponent where
  parent_ : Option LayerId := none
  tag : Tag := 0
  props : Nat := 0
  eventEmitter : Nat := 0
  layoutMetrics : LayoutMetrics := {}
  state : Nat := 0

namespace RSkComponent

/-- The constructor of `RSkComponent`. -/
def new [Skia] (shadowView : ShadowView) : RSkComponent :=
  { tag := shadowView.tag
    props := shadowView.props.address
    eventEmitter := shadowView.eventEmitter
    layoutMetrics := shadowView.layoutMetrics
    state := shadowView.state.address }

def withParent (c : RSkComponent) (p : Option LayerId) : RSkComponent := { c with parent_ := p }

@[simp] theorem withParent_parent_ (c : RSkComponent) (p : Option LayerId) :
    (c.withParent p).parent_ = p := rfl

variable [Skia]

/-- What `updateComponentData` writes to `component_`. -/
def updateData (c : RSkComponent) (newShadowView : ShadowView) (updateMask : ComponentUpdateMask) :
    RSkComponent :=
  { c with
    layoutMetrics := if updateMask.layoutMetrics then newShadowView.layoutMetrics
      else c.layoutMetrics
    props := if updateMask.props then newShadowView.props.address else c.props
    state := if updateMask.state then newShadowView.state.address else c.state
    eventEmitter := if updateMask.eventEmitter then newShadowView.eventEmitter
      else c.eventEmitter }

@[simp] theorem updateData_parent_ (c : RSkComponent) (newShadowView : ShadowView)
    (updateMask : ComponentUpdateMask) :
    (c.updateData newShadowView updateMask).parent_ = c.parent_ := rfl

/-- What `updateComponentData` and `drawAndSubmit` do to the layer
(`RSkComponent.cpp:227-288`); the pictures are left out. -/
def updateLayer (c : RSkComponent) (newShadowView : ShadowView) (updateMask : ComponentUpdateMask)
    (forceUpdate : Bool) (layer : Layer) : Layer :=
  let layer :=
    if updateMask.layoutMetrics then layer.setFrame newShadowView.layoutMetrics.frame else layer
  let layer :=
    if updateMask.props then newShadowView.props.updateProps c.props forceUpdate layer else layer
  let layoutMask := if updateMask.layoutMetrics then LayerInvalidateAll else LayerInvalidateNone
  -- `updateProps` returns `LayerInvalidateAll` whatever has changed
  let propsMask := if updateMask.props then LayerInvalidateAll else LayerInvalidateNone
  let stateMask :=
    if updateMask.state then newShadowView.state.invalidateMask c.state forceUpdate layer
    else LayerInvalidateNone
  let layer :=
    if updateMask.state then
      newShadowView.state.updateComponentState c.state forceUpdate layer
    else layer
  layer.invalidate ((layoutMask.or propsMask).or stateMask)

section
variable (c : RSkComponent) (newShadowView : ShadowView) (updateMask : ComponentUpdateMask)
  (forceUpdate : Bool) (layer : Layer)

@[simp] theorem updateLayer_parent_ :
    (c.updateLayer newShadowView updateMask forceUpdate layer).parent_ = layer.parent_ := by
  simp only [updateLayer, Layer.invalidate, Layer.withMask_parent_]
  split <;> split <;> split <;>
    simp [SharedProps.parent_eq, SharedState.parent_eq]

@[simp] theorem updateLayer_children_ :
    (c.updateLayer newShadowView updateMask forceUpdate layer).children_ = layer.children_ := by
  simp only [updateLayer, Layer.invalidate, Layer.withMask_children_]
  split <;> split <;> split <;>
    simp [SharedProps.children_eq, SharedState.children_eq]

/-- No update marks a layer for removal, and none takes the mark away. -/
@[simp] theorem updateLayer_remove :
    (c.updateLayer newShadowView updateMask forceUpdate layer).invalidateMask_.remove =
      layer.invalidateMask_.remove := by
  simp only [updateLayer, Layer.invalidate, Layer.withMask_invalidateMask_]
  split <;> split <;> split <;>
    simp [SharedProps.remove_eq, SharedState.remove_eq, SharedState.mask_eq, LayerInvalidateAll,
      LayerInvalidateNone]

end

end RSkComponent

/-- `RSkComponentProvider` and its override for the root view, which keeps one component for
all tags; `layerType` is the type the provider's components pass to their constructor. -/
structure RSkComponentProvider where
  layerType : LayerType
  isRootView : Bool := false
  component_ : Option LayerId := none
  registry_ : Tag → Option LayerId := fun _ => none

namespace RSkComponentProvider

def getComponent (provider : RSkComponentProvider) (tag : Tag) : Option LayerId :=
  if provider.isRootView then provider.component_ else provider.registry_ tag

/-- `CreateAndAddComponent`, given the component that `CreateComponent` makes. -/
def createAndAddComponent (provider : RSkComponentProvider) (tag : Tag) (component : LayerId) :
    RSkComponentProvider :=
  { provider with
    component_ := if provider.isRootView then some component else provider.component_
    registry_ := Function.update provider.registry_ tag (some component) }

def deleteComponent (provider : RSkComponentProvider) (tag : Tag) : RSkComponentProvider :=
  { provider with registry_ := Function.update provider.registry_ tag none }

end RSkComponentProvider

end ReactNativeSkia
