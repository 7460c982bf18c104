import ReactNativeSkia.Components.ScrollView

/-!
# Components as the focus engine sees them

The tree of `RSkComponent`s with their `Container` part (`ReactSkia/components/RSkComponent.cpp:
227-376`, `ReactSkia/core_modules/RSkSpatialNavigatorContainer.cpp`), in the build for a TV. Only
`RSkComponentRootView` and `RSkComponentScrollView` override `isContainer`, and only the latter
the functions that scroll; both say what is visible in them. A component goes by the name of its
layer, as for the mounting manager, and the links between the layers are left out here.
-/

namespace ReactNativeSkia

inductive ComponentClass where
  | RSkComponentRootView
  | RSkComponentScrollView
  | RSkComponentTextInput
  /-- Every other class. -/
  | RSkComponentView
  deriving DecidableEq, Repr

/-- What the focus engine reads of `ViewProps`, and `autoFocus` of `TextInputProps`. -/
structure FocusProps where
  isTVSelectable : Bool := false
  focusable : Bool := false
  hasTVPreferredFocus : Bool := false
  autoFocus : Bool := false
  zIndex : Option Int := none
  deriving DecidableEq, Repr

/-- A component: `props` is `component_.props`, `zIndex` and `hasTVPreferredFocus` are those of
`component_.commonProps`, and `scrollView` is the part of a scroll view, with the layer that every
component has. -/
structure NavComponent [Skia] where
  class_ : ComponentClass := .RSkComponentView
  parent_ : Option LayerId := none
  tag : Tag := 0
  props : FocusProps := {}
  zIndex : Int := 0
  hasTVPreferredFocus : Bool := false
  navComponentList_ : List LayerId := []
  scrollView : ScrollView := {}

/-- All components made so far. -/
structure ComponentTree [Skia] where
  nextId : LayerId
  component : LayerId → NavComponent

inductive NavigatorStateOperation where
  | ComponentAdded
  | ComponentRemoved
  | ComponentUpdated
  deriving DecidableEq, Repr

/-- The calls of `updateSpatialNavigatorState`, in order. -/
abbrev NavigatorCalls := List (NavigatorStateOperation × LayerId)

variable [Skia]

namespace NavComponent

def layer (c : NavComponent) : Layer := c.scrollView.layer

def getLayerAbsoluteFrame (c : NavComponent) : SkIRect := c.layer.absFrame_

def isContainer (c : NavComponent) : Bool :=
  decide (c.class_ = .RSkComponentRootView ∨ c.class_ = .RSkComponentScrollView)

def isScrollable (c : NavComponent) : Bool := decide (c.class_ = .RSkComponentScrollView)

/-- `isFocusable` (`RSkComponent.cpp:332-343`). -/
def isFocusable (c : NavComponent) : Bool :=
  c.props.isTVSelectable || c.props.focusable || c.isContainer

def getScrollOffset (c : NavComponent) : Int × Int :=
  if c.isScrollable then c.scrollView.getScrollOffset else (0, 0)

@[simps] def withParent (c : NavComponent) (p : Option LayerId) : NavComponent :=
  { c with parent_ := p }

@[simps] def withNavComponentList (c : NavComponent) (candidates : List LayerId) : NavComponent :=
  { c with navComponentList_ := candidates }

@[simps] def withScrollView (c : NavComponent) (scrollView : ScrollView) : NavComponent :=
  { c with scrollView := scrollView }

/-- The props of `updateComponentData` and `RSkComponent::updateProps` that the focus engine
reads (`RSkComponent.cpp:213-219, 244-247`). -/
def updateProps (c : NavComponent) (props : FocusProps) (forceUpdate : Bool) : NavComponent :=
  { c with
    props := props
    zIndex :=
      if forceUpdate ∨ c.props.zIndex ≠ props.zIndex then props.zIndex.getD 0 else c.zIndex
    hasTVPreferredFocus :=
      if forceUpdate ∨ c.props.hasTVPreferredFocus ≠ props.hasTVPreferredFocus then
        props.hasTVPreferredFocus
      else c.hasTVPreferredFocus }

end NavComponent

namespace ComponentTree

@[simps] def modify (t : ComponentTree) (x : LayerId) (f : NavComponent → NavComponent) :
    ComponentTree :=
  { t with component := Function.update t.component x (f (t.component x)) }

def parent (t : ComponentTree) (x : LayerId) : Option LayerId := (t.component x).parent_

def navComponentList (t : ComponentTree) (x : LayerId) : List LayerId :=
  (t.component x).navComponentList_

def isContainer (t : ComponentTree) (x : LayerId) : Bool := (t.component x).isContainer

def isFocusable (t : ComponentTree) (x : LayerId) : Bool := (t.component x).isFocusable

/-! ## Walks up -/

/-- The loop of `nearestAncestorContainer` from `container` on. -/
def nearestAncestorContainerFrom (t : ComponentTree) :
    Nat → Option LayerId → Option (Option LayerId)
  | _, none => some none
  | 0, some _ => none
  | n + 1, some container =>
    if t.isContainer container then some (some container)
    else t.nearestAncestorContainerFrom n (t.parent container)

/-- `nearestAncestorContainer` (`RSkComponent.cpp:345-352`): `none` if the walk does not end. -/
def nearestAncestorContainer (t : ComponentTree) (x : LayerId) : Option (Option LayerId) :=
  t.nearestAncestorContainerFrom t.nextId (t.parent x)

/-- The loop of `hasAncestor` from `container` on. -/
def hasAncestorFrom (t : ComponentTree) : Nat → Option LayerId → LayerId → Option Bool
  | _, none, _ => some false
  | 0, some _, _ => none
  | n + 1, some container, ancestor =>
    if t.isContainer container ∧ container = ancestor then some true
    else t.hasAncestorFrom n (t.parent container) ancestor

/-- `hasAncestor` (`RSkComponent.cpp:354-360`). -/
def hasAncestor (t : ComponentTree) (x ancestor : LayerId) : Option Bool :=
  t.hasAncestorFrom t.nextId (t.parent x) ancestor

/-- `getScreenFrame` (`RSkComponent.cpp:362-376`) with that many calls of itself. -/
def getScreenFrameLevels (t : ComponentTree) : Nat → LayerId → Option SkIRect
  | 0, _ => none
  | n + 1, x => do
    let container ← t.nearestAncestorContainer x
    let absFrame := (t.component x).getLayerAbsoluteFrame
    match container with
    | none => return absFrame
    | some container =>
      if !(t.component container).isScrollable then return absFrame
      else
        let containerScreenFrame ← t.getScreenFrameLevels n container
        let containerScrollOffset := (t.component container).getScrollOffset
        return (absFrame.makeOffset (-containerScrollOffset.1) (-containerScrollOffset.2)
          ).makeOffset containerScreenFrame.left containerScreenFrame.top

def getScreenFrame (t : ComponentTree) (x : LayerId) : Option SkIRect :=
  t.getScreenFrameLevels (t.nextId + 1) x

/-! ## Containers -/

/-- `addComponent` (`RSkSpatialNavigatorContainer.cpp:16-21`). -/
def addComponent (t : ComponentTree) (container newCandidate : LayerId) :
    ComponentTree × NavigatorCalls :=
  (t.modify container fun c => c.withNavComponentList (c.navComponentList_ ++ [newCandidate]),
    [(.ComponentAdded, newCandidate)])

/-- `mergeComponent` (`RSkSpatialNavigatorContainer.cpp:23-27`): the list that it clears is its
own copy. -/
def mergeComponent (t : ComponentTree) (container : LayerId) (candidates : List LayerId) :
    ComponentTree :=
  t.modify container fun c => c.withNavComponentList (c.navComponentList_ ++ candidates)

/-- What `removeComponent` and `updateComponent` do to a candidate that they find. -/
def eraseComponent (t : ComponentTree) (container candidate : LayerId)
    (operation : NavigatorStateOperation) : ComponentTree × NavigatorCalls :=
  (t.modify container fun c => c.withNavComponentList (c.navComponentList_.erase candidate),
    [(operation, candidate)])

/-- `removeComponent` (`RSkSpatialNavigatorContainer.cpp:29-37`). -/
def removeComponent (t : ComponentTree) (container candidate : LayerId) :
    ComponentTree × NavigatorCalls :=
  if candidate ∈ t.navComponentList container then
    t.eraseComponent container candidate .ComponentRemoved
  else (t, [])

/-- `updateComponent` (`RSkSpatialNavigatorContainer.cpp:39-54`). -/
def updateComponent (t : ComponentTree) (container candidate : LayerId) :
    ComponentTree × NavigatorCalls :=
  if candidate ∈ t.navComponentList container then
    if t.isFocusable candidate then (t, [])
    else t.eraseComponent container candidate .ComponentUpdated
  else if t.isFocusable candidate then t.addComponent container candidate
  else (t, [])

/-! ## Mounting -/

/-- The container that `mountChildComponent` adds to. -/
def containerToAdd (t : ComponentTree) (x : LayerId) : Option LayerId :=
  if t.isContainer x then some x
  else (t.nearestAncestorContainer x).map fun container => container.getD x

/-- `mountChildComponent` (`RSkComponent.cpp:290-312`): `none` if a walk does not end. -/
def mountChildComponent (t : ComponentTree) (x newChildComponent : LayerId) :
    Option (ComponentTree × NavigatorCalls) := do
  let t := t.modify newChildComponent (·.withParent (some x))
  let containerToAdd ← t.containerToAdd x
  if t.isFocusable newChildComponent then
    let (t, calls) := t.addComponent containerToAdd newChildComponent
    if !t.isContainer newChildComponent ∧ t.navComponentList newChildComponent ≠ [] then
      return (t.mergeComponent containerToAdd (t.navComponentList newChildComponent), calls)
    else return (t, calls)
  else if t.navComponentList newChildComponent ≠ [] then
    return (t.mergeComponent containerToAdd (t.navComponentList newChildComponent), [])
  else return (t, [])

/-- `unmountChildComponent` (`RSkComponent.cpp:314-330`); the parent it is called on does not
matter. -/
def unmountChildComponent (t : ComponentTree) (oldChildComponent : LayerId) :
    Option (ComponentTree × NavigatorCalls) := do
  let containerRemoveFrom ← t.nearestAncestorContainer oldChildComponent
  let (t, calls) :=
    match containerRemoveFrom with
    | some container =>
      if t.isFocusable oldChildComponent then t.removeComponent container oldChildComponent
      else (t, [])
    | none => (t, [])
  return (t.modify oldChildComponent (·.withParent none), calls)

/-- The props of `updateComponentData` as far as the containers go (`RSkComponent.cpp:244-255`). -/
def updateProps (t : ComponentTree) (x : LayerId) (props : FocusProps) (forceUpdate : Bool) :
    Option (ComponentTree × NavigatorCalls) := do
  let t := t.modify x (·.updateProps props forceUpdate)
  let containerInUpdate ← t.nearestAncestorContainer x
  match containerInUpdate with
  | some container => return t.updateComponent container x
  | none => return (t, [])

end ComponentTree

end ReactNativeSkia
