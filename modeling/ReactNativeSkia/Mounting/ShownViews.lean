import ReactNativeSkia.Mounting.MountingManager
import ReactNativeSkia.Components.ViewProps

/-!
# Mounted views and the shadow views they show

The mounting manager together with what `updateProps` writes for each component, and the
purpose of the two: a component shows the shadow view that React has last given for its tag.
`ShadowViews` is kept from the mutations alone; `MountedViews` runs the instructions.
-/

namespace ReactNativeSkia

namespace ViewComponent

/-- The layer attributes of the shadow, from the props alone. -/
def shadowStyle (props : ViewProps) : LayerStyle where
  backgroundColor := RSkColorFromSharedColor props.backgroundColor SK_ColorTRANSPARENT
  backfaceVisibility := props.backfaceVisibility
  opacity := opacityTo8Bit props.opacity
  shadowOpacity := opacityTo8Bit props.shadowOpacity
  shadowRadius := props.shadowRadius
  shadowOffset := props.shadowOffset
  shadowColor := RSkColorFromSharedColor props.shadowColor SK_ColorBLACK

/-- The component that shows the props, and nothing of what has been there before. -/
def showing (props : ViewProps) : ViewComponent where
  props := props
  commonProps :=
    { foregroundColor := RSkColorFromSharedColor props.foregroundColor SK_ColorTRANSPARENT
      pointerEvents := props.pointerEvents
      hitSlop := props.hitSlop
      zIndex := props.zIndex.getD 0 }
  layer :=
    { shadowStyle props with
      transformMatrix := RSkTransformTo2DMatrix props.transform
      masksToBounds_ := props.getClipsContentToBounds
      isShadowVisible := (shadowStyle props).needsShadowPainting
      shadowImageFilter := some ⟨props.shadowOffset.1, props.shadowOffset.2, props.shadowRadius,
        props.shadowRadius, RSkColorFromSharedColor props.shadowColor SK_ColorBLACK⟩
      shadowMaskFilter := some ⟨props.shadowRadius⟩ }

end ViewComponent

/-- The place of a component in the providers: the root view has one for all tags. -/
abbrev ViewKey := ComponentHandle × Option Tag

section
variable [Skia]

namespace MountingManager

/-- Which handles have a provider, and which of them is that of the root view. -/
def kind (m : MountingManager) (handle : ComponentHandle) : Option Bool :=
  (m.registry_ handle).map RSkComponentProvider.isRootView

/-- The component at a key. -/
def lookup (m : MountingManager) (key : ViewKey) : Option LayerId :=
  (m.registry_ key.1).bind fun provider =>
    match key.2 with
    | none => if provider.isRootView then provider.component_ else none
    | some tag => if provider.isRootView then none else provider.registry_ tag

end MountingManager

/-- The key of a shadow view, by the kind of its provider. -/
def ShadowView.key (view : ShadowView) (kind : ComponentHandle → Option Bool) : ViewKey :=
  (view.componentHandle, if kind view.componentHandle = some true then none else some view.tag)

/-- The mounting manager and, by their layers, the components as `updateProps` leaves them. -/
structure MountedViews where
  manager : MountingManager
  views : LayerId → ViewComponent

namespace MountedViews

/-- What a mutation makes of the views: `viewProps` is what a `Props::Shared` points to, and
`blank` what the constructors leave in the members that they do not set. -/
def viewsAfter (viewProps : SharedProps → ViewProps) (blank : ViewComponent) (m : MountedViews)
    (mutation : ShadowViewMutation) : LayerId → ViewComponent :=
  let oldChildShadowView := mutation.oldChildShadowView
  let newChildShadowView := mutation.newChildShadowView
  let newProps := viewProps newChildShadowView.props
  match mutation.type with
  | .Create =>
    match m.manager.getProvider newChildShadowView with
    | none => m.views
    | some _ =>
      Function.update m.views m.manager.layers.nextId { blank with props := newProps }
  | .Insert =>
    match m.manager.getComponent newChildShadowView with
    | none => m.views
    | some child =>
      Function.update m.views child ((m.views child).updateComponentData newProps true)
  | .Update =>
    match m.manager.getComponent newChildShadowView with
    | none => m.views
    | some child =>
      if oldChildShadowView.props.address ≠ newChildShadowView.props.address then
        Function.update m.views child ((m.views child).updateComponentData newProps false)
      else m.views
  | .Delete | .Remove => m.views

def processMutation (viewProps : SharedProps → ViewProps) (blank : ViewComponent)
    (m : MountedViews) (mutation : ShadowViewMutation) : Option MountedViews :=
  (m.manager.processMutation mutation).map fun manager =>
    { manager := manager, views := m.viewsAfter viewProps blank mutation }

/-- The loop of `ProcessMutations` over the mutations of any number of transactions. -/
def processMutations (viewProps : SharedProps → ViewProps) (blank : ViewComponent)
    (m : MountedViews) (mutations : List ShadowViewMutation) : Option MountedViews :=
  mutations.foldlM (processMutation viewProps blank) m

end MountedViews

/-- The shadow view last given for a key, and whether a view has been inserted with it. -/
structure GivenView where
  view : ShadowView
  inserted : Bool

abbrev ShadowViews := ViewKey → Option GivenView

namespace ShadowViews

/-- What a mutation gives. -/
def apply (kind : ComponentHandle → Option Bool) (views : ShadowViews)
    (mutation : ShadowViewMutation) : ShadowViews :=
  let new := mutation.newChildShadowView
  let old := mutation.oldChildShadowView
  match mutation.type with
  | .Create =>
    if (kind new.componentHandle).isSome then
      Function.update views (new.key kind) (some ⟨new, false⟩)
    else views
  | .Delete =>
    if kind old.componentHandle = some true then views
    else Function.update views (old.key kind) none
  | .Insert =>
    Function.update views (new.key kind) ((views (new.key kind)).map fun _ => ⟨new, true⟩)
  | .Update =>
    Function.update views (new.key kind)
      ((views (new.key kind)).map fun given => ⟨new, given.inserted⟩)
  | .Remove => views

/-- React updates from the view it has last given, and props at one address are one object. -/
def Accepts (viewProps : SharedProps → ViewProps) (kind : ComponentHandle → Option Bool)
    (views : ShadowViews) (mutation : ShadowViewMutation) : Prop :=
  mutation.type = .Update → ∀ given,
    views (mutation.newChildShadowView.key kind) = some given →
      given.view = mutation.oldChildShadowView ∧
        (mutation.oldChildShadowView.props.address = mutation.newChildShadowView.props.address →
          viewProps mutation.oldChildShadowView.props =
            viewProps mutation.newChildShadowView.props)

def AcceptsAll (viewProps : SharedProps → ViewProps) (kind : ComponentHandle → Option Bool) :
    ShadowViews → List ShadowViewMutation → Prop
  | _, [] => True
  | views, mutation :: mutations =>
    views.Accepts viewProps kind mutation ∧
      AcceptsAll viewProps kind (views.apply kind mutation) mutations

end ShadowViews

/-- The data of a component are those of the view. -/
structure RSkComponent.Has (c : RSkComponent) (view : ShadowView) : Prop where
  props : c.props = view.props.address
  eventEmitter : c.eventEmitter = view.eventEmitter
  layoutMetrics : c.layoutMetrics = view.layoutMetrics
  state : c.state = view.state.address

/-- Every component has the data of the view last given for its key, and one that has been
inserted shows its props. -/
structure MountedViews.Shows (viewProps : SharedProps → ViewProps) (m : MountedViews)
    (views : ShadowViews) : Prop where
  isSome_eq : ∀ key, (m.manager.lookup key).isSome = (views key).isSome
  has : ∀ key c given, m.manager.lookup key = some c → views key = some given →
    (m.manager.component c).Has given.view
  shows : ∀ key c given, m.manager.lookup key = some c → views key = some given →
    given.inserted = true → m.views c = .showing (viewProps given.view.props)
  injective : ∀ key key' c, m.manager.lookup key = some c → m.manager.lookup key' = some c →
    key = key'
  lt_nextId : ∀ key c, m.manager.lookup key = some c → c < m.manager.layers.nextId

end

end ReactNativeSkia
