import ReactNativeSkia.Components.ViewProps
import ReactNativeSkia.Mounting.Component

/-!
# Native updates of a view

`Uimanager::updateView` (`ReactSkia/LegacyNativeModules/uimanager/UiManagerModule.cpp:165-188`)
with the searches of `ComponentViewRegistry` (`ReactSkia/ComponentViewRegistry.cpp:45-77`). The
flush notifications and the drawing are left out. A native prop is given by its parsed value; a
null is the default of its prop.
-/

namespace ReactNativeSkia

/-- The props that a native update names, with their values. -/
structure RawProps where
  opacity : Option ℚ := none
  foregroundColor : Option SharedColor := none
  backgroundColor : Option SharedColor := none
  shadowColor : Option SharedColor := none
  shadowOffset : Option (ℚ × ℚ) := none
  shadowOpacity : Option ℚ := none
  shadowRadius : Option ℚ := none
  transform : Option Transform := none
  backfaceVisibility : Option Int := none
  pointerEvents : Option Int := none
  hitSlop : Option (ℚ × ℚ × ℚ × ℚ) := none
  overflow : Option Overflow := none
  zIndex : Option (Option Int) := none

/-- `ComponentDescriptor::cloneProps`: a prop that is not named keeps its value. -/
def cloneProps (props : ViewProps) (rawProps : RawProps) : ViewProps where
  opacity := rawProps.opacity.getD props.opacity
  foregroundColor := rawProps.foregroundColor.getD props.foregroundColor
  backgroundColor := rawProps.backgroundColor.getD props.backgroundColor
  shadowColor := rawProps.shadowColor.getD props.shadowColor
  shadowOffset := rawProps.shadowOffset.getD props.shadowOffset
  shadowOpacity := rawProps.shadowOpacity.getD props.shadowOpacity
  shadowRadius := rawProps.shadowRadius.getD props.shadowRadius
  transform := rawProps.transform.getD props.transform
  backfaceVisibility := rawProps.backfaceVisibility.getD props.backfaceVisibility
  pointerEvents := rawProps.pointerEvents.getD props.pointerEvents
  hitSlop := rawProps.hitSlop.getD props.hitSlop
  overflow := rawProps.overflow.getD props.overflow
  zIndex := rawProps.zIndex.getD props.zIndex

/-- A provider with its `GetDescriptorProvider`. -/
structure RegisteredProvider where
  handle : ComponentHandle
  name : String
  provider : RSkComponentProvider

/-- `registry_` in the order of iteration, the handles for which there is a component descriptor,
and the components by their layers. -/
structure Uimanager where
  registry_ : List RegisteredProvider
  hasComponentDescriptor : ComponentHandle → Bool
  components : LayerId → ViewComponent

namespace Uimanager

/-- `ComponentViewRegistry::GetProvider(ComponentName)`. -/
def getProviderByName (m : Uimanager) (componentName : String) : Option RegisteredProvider :=
  m.registry_.find? fun kv => kv.name = componentName

/-- `ComponentViewRegistry::GetProvider(int)`. -/
def getProviderByTag (m : Uimanager) (tag : Tag) : Option RegisteredProvider :=
  m.registry_.find? fun kv => kv.name ≠ "RootView" ∧ (kv.provider.getComponent tag).isSome

/-- The component that `updateView` finds; it does nothing without one. -/
def findComponent (m : Uimanager) (tag : Tag) (viewManagerName : String) : Option LayerId :=
  match if viewManagerName.isEmpty then m.getProviderByTag tag
    else m.getProviderByName viewManagerName with
  | none => none
  | some provider =>
    if m.hasComponentDescriptor provider.handle then provider.provider.getComponent tag else none

/-- `updateView` on its component (`:180-184`): the new props are not stored. -/
def updateComponent (c : ViewComponent) (props : RawProps) : ViewComponent :=
  let oldProps := c.props
  let newProps := cloneProps oldProps props
  c.updateProps newProps false

def updateView (m : Uimanager) (tag : Tag) (viewManagerName : String) (props : RawProps) :
    Uimanager :=
  match m.findComponent tag viewManagerName with
  | none => m
  | some component =>
    { m with
      components := Function.update m.components component
        (updateComponent (m.components component) props) }

end Uimanager

end ReactNativeSkia
