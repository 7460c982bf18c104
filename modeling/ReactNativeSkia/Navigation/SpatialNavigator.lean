import ReactNativeSkia.Navigation.Component
import ReactNativeSkia.Misc.SortedSet

/-!
# The spatial navigator

`RSkSpatialNavigator` (`ReactSkia/core_modules/RSkSpatialNavigator.cpp:67-475`) with the searches of
`Container` (`RSkSpatialNavigatorContainer.cpp:56-104`) and `setNeedFocusUpdate`
(`RSkComponent.cpp:100-109`), in the build for a TV. Every walk gets a number of levels, and
`none` says that they did not suffice. Of the events only the focus ones are kept, in a log that
nothing reads; the blur events and the handlers are left out, as none of them writes to the
navigator.
-/

namespace ReactNativeSkia

variable [Skia]

namespace ComponentTree

/-! ## The virtual functions of a container -/

def scrollCandidate (t : ComponentTree) (container : LayerId) : Option LayerId → ScrollCandidate
  | none => .null
  | some candidate =>
    if candidate = container then .this
    else .other (t.component candidate).getLayerAbsoluteFrame

/-- `isVisible` of a container (`RSkComponentRootView.cpp:29-40` for the root view). -/
def isVisible (t : ComponentTree) (container candidate : LayerId) : Bool :=
  let candidateRect := (t.component candidate).getLayerAbsoluteFrame
  match (t.component container).class_ with
  | .RSkComponentScrollView => (t.component container).scrollView.isVisible candidateRect
  | .RSkComponentRootView => (t.component container).getLayerAbsoluteFrame.contains candidateRect
  | _ => false

def canScrollInDirection (t : ComponentTree) (container : LayerId) (direction : RnsKey) : Bool :=
  (t.component container).isScrollable &&
    (t.component container).scrollView.canScrollInDirection direction

def scrollInDirection (t : ComponentTree) (container : LayerId) (candidate : Option LayerId)
    (direction : RnsKey) : ComponentTree × ScrollStatus :=
  if (t.component container).isScrollable then
    let (scrollView, status) := (t.component container).scrollView.scrollInDirection
      (t.scrollCandidate container candidate) direction
    (t.modify container (·.withScrollView scrollView), status)
  else (t, .noScroll)

def scrollTo (t : ComponentTree) (container : LayerId) (candidate : Option LayerId) :
    ComponentTree :=
  if (t.component container).isScrollable then
    t.modify container (·.withScrollView ((t.component container).scrollView.scrollTo
      (t.scrollCandidate container candidate)).1)
  else t

/-! ## Defaults -/

/-- `firstInContainer` of what is visible (`RSkSpatialNavigatorContainer.cpp:56-78`). -/
def firstInContainer (t : ComponentTree) : Nat → LayerId → Option (Option LayerId)
  | 0, _ => none
  | n + 1, container =>
    match t.navComponentList container with
    | [] => some none
    | firstCandidate :: _ =>
      if !t.isVisible container firstCandidate then some none
      else if t.isContainer firstCandidate then
        (t.firstInContainer n firstCandidate).map fun first => some (first.getD firstCandidate)
      else some (some firstCandidate)

/-- The preferred focus of a candidate, given the function itself for a container. -/
def preferredFocusOf (t : ComponentTree)
    (preferredFocusInContainer : LayerId → Option (Option LayerId)) (candidate : LayerId) :
    Option (Option LayerId) :=
  if t.isContainer candidate then preferredFocusInContainer candidate else some (some candidate)

/-- The loop of `preferredFocusInContainer` over the candidates from the last one on. -/
def preferredFocusFrom (t : ComponentTree)
    (preferredFocusInContainer : LayerId → Option (Option LayerId)) :
    List LayerId → Option (Option LayerId)
  | [] => some none
  | candidate :: rest => do
    let preferredFocus ← t.preferredFocusOf preferredFocusInContainer candidate
    match preferredFocus with
    | none => t.preferredFocusFrom preferredFocusInContainer rest
    | some preferredFocus =>
      if (t.component preferredFocus).props.hasTVPreferredFocus then
        return some preferredFocus
      else t.preferredFocusFrom preferredFocusInContainer rest

/-- `preferredFocusInContainer` (`RSkSpatialNavigatorContainer.cpp:80-104`). -/
def preferredFocusInContainer (t : ComponentTree) : Nat → LayerId → Option (Option LayerId)
  | 0, _ => none
  | n + 1, container =>
    t.preferredFocusFrom (t.preferredFocusInContainer n) (t.navComponentList container).reverse

/-- `findDefaultFocusInContainer` (`RSkSpatialNavigator.cpp:270-287`). -/
def findDefaultFocusInContainer (t : ComponentTree) (n : Nat) (container : LayerId) :
    Option (Option LayerId) := do
  let nextFocus ← t.preferredFocusInContainer n container
  match nextFocus with
  | some nextFocus => return some nextFocus
  | none => t.firstInContainer n container

/-! ## Candidates in a direction -/

/-- A candidate with its screen frame. -/
abbrev Candidate := LayerId × SkIRect

/-- The first two values that differ decide. -/
def firstDifference : List (Int × Int) → Bool
  | [] => false
  | (a, b) :: rest => if a < b then true else if b < a then false else firstDifference rest

/-- `sortDirectionComparator` (`RSkSpatialNavigator.cpp:97-187`). -/
def sortDirectionComparator (t : ComponentTree) (direction : RnsKey)
    (listItem newItem : Candidate) : Bool :=
  let list := listItem.2
  let new := newItem.2
  if list = new then
    let listData := t.component listItem.1
    let newData := t.component newItem.1
    if listData.zIndex > newData.zIndex then true
    else if newData.zIndex > listData.zIndex then false
    else decide (listData.tag > newData.tag)
  else if direction = .RNS_KEY_Right then
    firstDifference [(list.left, new.left), (list.top, new.top), (list.width, new.width),
      (list.height, new.height)]
  else if direction = .RNS_KEY_Left then
    firstDifference [(new.right, list.right), (list.top, new.top), (list.width, new.width),
      (list.height, new.height)]
  else if direction = .RNS_KEY_Up then
    firstDifference [(new.bottom, list.bottom), (list.left, new.left), (list.height, new.height),
      (list.width, new.width)]
  else if direction = .RNS_KEY_Down then
    firstDifference [(list.top, new.top), (list.left, new.left), (list.height, new.height),
      (list.width, new.width)]
  else false

/-- The front of the sorted set of the candidates: of two that the comparator takes for equal
the set keeps the first. -/
def front (t : ComponentTree) (direction : RnsKey) (candidates : List Candidate) :
    Option Candidate :=
  candidates.foldl (fun front candidate =>
    match front with
    | none => some candidate
    | some item =>
      if t.sortDirectionComparator direction candidate item then some candidate else some item)
    none

/-- A `SortedCandidateList` into which the candidates have been inserted in this order. -/
def SortedCandidateList (t : ComponentTree) (direction : RnsKey) (candidates : List Candidate) :
    List Candidate :=
  sortedInsertAll (t.sortDirectionComparator direction) candidates

/-- `isValidCandidate` (`RSkSpatialNavigator.cpp:232-268`). -/
def isValidCandidate (direction : RnsKey) (current candidate : SkIRect) : Bool :=
  if candidate = current then false
  else if direction = .RNS_KEY_Right then decide (candidate.left > current.left)
  else if direction = .RNS_KEY_Left then decide (candidate.right < current.right)
  else if direction = .RNS_KEY_Up then decide (candidate.bottom < current.bottom)
  else if direction = .RNS_KEY_Down then decide (candidate.top > current.top)
  else false

/-- The candidate goes to the overlapping set. -/
def overlaps (keyEvent : RnsKey) (current candidate : SkIRect) : Bool :=
  if keyEvent = .RNS_KEY_Right ∨ keyEvent = .RNS_KEY_Left then
    !(decide (candidate.bottom < current.top) || decide (candidate.top > current.bottom))
  else if keyEvent = .RNS_KEY_Up ∨ keyEvent = .RNS_KEY_Down then
    !(decide (candidate.right < current.left) || decide (candidate.left > current.right))
  else false

/-- The candidate goes to the other set. -/
def isBeyond (keyEvent : RnsKey) (current candidate : SkIRect) : Bool :=
  if keyEvent = .RNS_KEY_Up then
    !overlaps keyEvent current candidate && decide (candidate.bottom ≤ current.top)
  else if keyEvent = .RNS_KEY_Down then
    !overlaps keyEvent current candidate && decide (candidate.top ≥ current.bottom)
  else false

/-- `pickCandidateInDirection` on the fronts of the two sets
(`RSkSpatialNavigator.cpp:189-230`). -/
def pickCandidateInDirection (t : ComponentTree) (keyEvent : RnsKey)
    (overLapping nonOverLapping : Option Candidate) : Option LayerId :=
  let nextFocus :=
    if keyEvent = .RNS_KEY_Up ∨ keyEvent = .RNS_KEY_Down then
      match overLapping, nonOverLapping with
      | some nextFocus, some front =>
        if keyEvent = .RNS_KEY_Up ∧ nextFocus.2.bottom < front.2.bottom then some front
        else if keyEvent = .RNS_KEY_Down ∧ nextFocus.2.top > front.2.top then some front
        else some nextFocus
      | none, some front => some front
      | nextFocus, none => nextFocus
    else overLapping
  match nextFocus with
  | some nextFocus => if (t.component nextFocus.1).tag = -1 then none else some nextFocus.1
  | none => none

end ComponentTree

/-- The tree, the navigator, and the components in the tasks that `setNeedFocusUpdate` has
dispatched, in order. `scrolledNull` tells that `scrollTo` was called through a null container, and
`focusEvents` are the components that have been sent a focus event, in order. -/
structure SpatialNavigator where
  tree : ComponentTree
  rootContainer_ : LayerId
  currentFocus_ : Option LayerId := none
  currentContainer_ : Option LayerId := none
  tasks : List LayerId := []
  scrolledNull : Bool := false
  focusEvents : List LayerId := []

namespace SpatialNavigator

@[simps] def withTree (s : SpatialNavigator) (tree : ComponentTree) : SpatialNavigator :=
  { s with tree := tree }

/-- `updateSpatialNavigatorState` (`RSkSpatialNavigator.cpp:67-95`). -/
def updateSpatialNavigatorState (s : SpatialNavigator)
    (call : NavigatorStateOperation × LayerId) : SpatialNavigator :=
  match call.1 with
  | .ComponentAdded => s
  | .ComponentRemoved | .ComponentUpdated =>
    if s.currentFocus_ = some call.2 then { s with currentFocus_ := none } else s

def afterCalls (s : SpatialNavigator) (result : ComponentTree × NavigatorCalls) :
    SpatialNavigator :=
  result.2.foldl updateSpatialNavigatorState (s.withTree result.1)

def mountChildComponent (s : SpatialNavigator) (parent newChildComponent : LayerId) :
    Option SpatialNavigator :=
  (s.tree.mountChildComponent parent newChildComponent).map s.afterCalls

def unmountChildComponent (s : SpatialNavigator) (oldChildComponent : LayerId) :
    Option SpatialNavigator :=
  (s.tree.unmountChildComponent oldChildComponent).map s.afterCalls

def setNeedFocusUpdate (s : SpatialNavigator) (component : LayerId) : SpatialNavigator :=
  { s with tasks := s.tasks ++ [component] }

/-- `updateProps` of the component and of its class: the containers come after the tasks
(`RSkComponent.cpp:213-219, 244-255`, `RSkComponentTextInput.cpp:487-489`). -/
def updateProps (s : SpatialNavigator) (component : LayerId) (props : FocusProps)
    (forceUpdate : Bool) : Option SpatialNavigator :=
  let c := s.tree.component component
  let s :=
    if c.class_ = .RSkComponentTextInput ∧ forceUpdate ∧ props.autoFocus then
      s.setNeedFocusUpdate component
    else s
  let s :=
    if (forceUpdate ∨ c.props.hasTVPreferredFocus ≠ props.hasTVPreferredFocus) ∧
        props.hasTVPreferredFocus then
      s.setNeedFocusUpdate component
    else s
  (s.tree.updateProps component props forceUpdate).map s.afterCalls

def updatePropsIfAny (s : SpatialNavigator) (component : LayerId) (props : Option FocusProps)
    (forceUpdate : Bool) : Option SpatialNavigator :=
  match props with
  | some props => s.updateProps component props forceUpdate
  | none => some s

/-- `updateComponentData` as far as the navigator goes (`RSkComponent.cpp:227-276`); the new
layout itself is left to `relayout`. -/
def updateComponentData (s : SpatialNavigator) (component : LayerId) (layoutMetrics : Bool)
    (props : Option FocusProps) (forceUpdate : Bool) : Option SpatialNavigator := do
  let s ← s.updatePropsIfAny component props forceUpdate
  return if !forceUpdate && (s.tree.component component).hasTVPreferredFocus && layoutMetrics then
    s.setNeedFocusUpdate component else s

/-- The container that becomes the current one with a focus candidate. -/
def containerOfCandidate (s : SpatialNavigator) (focusCandidate : LayerId) :
    Option (Option LayerId) :=
  if s.tree.isContainer focusCandidate then some (some focusCandidate)
  else s.tree.nearestAncestorContainer focusCandidate

/-- `updateFocusCandidate` of a component (`RSkSpatialNavigator.cpp:418-437`). -/
def updateFocusCandidate (s : SpatialNavigator) (focusCandidate : LayerId) (needScroll : Bool) :
    Option SpatialNavigator :=
  if s.currentFocus_ = some focusCandidate then some s
  else do
    let currentContainer_ ← s.containerOfCandidate focusCandidate
    let s := { s with
      currentFocus_ := some focusCandidate
      currentContainer_ := currentContainer_
      focusEvents := s.focusEvents ++ [focusCandidate] }
    if needScroll then
      match currentContainer_ with
      | some container => return s.withTree (s.tree.scrollTo container focusCandidate)
      | none => return { s with scrolledNull := true }
    else return s

/-- The task that is first in the queue; a component that has been destroyed does nothing. -/
def runTask (s : SpatialNavigator) (alive : Bool) : Option SpatialNavigator :=
  match s.tasks with
  | [] => none
  | self :: tasks =>
    let s := { s with tasks := tasks }
    if alive then s.updateFocusCandidate self true else some s

/-- `findFocusCandidateInContainer` (`RSkSpatialNavigator.cpp:289-362`). -/
def findFocusCandidateInContainer (s : SpatialNavigator) (n : Nat) (container : LayerId)
    (keyEvent : RnsKey) (visibleOnly : Bool) : Option (Option LayerId) :=
  match s.currentFocus_ with
  | none => s.tree.findDefaultFocusInContainer n container
  | some currentFocus => do
    let current ← s.tree.getScreenFrame currentFocus
    let frames ← (s.tree.navComponentList container).mapM s.tree.getScreenFrame
    let candidates := ((s.tree.navComponentList container).zip frames).filter fun candidate =>
      decide (candidate.1 ≠ currentFocus) &&
        (!visibleOnly || s.tree.isVisible container candidate.1) &&
        ComponentTree.isValidCandidate keyEvent current candidate.2
    return s.tree.pickCandidateInDirection keyEvent
      (s.tree.front keyEvent (candidates.filter fun candidate =>
        ComponentTree.overlaps keyEvent current candidate.2))
      (s.tree.front keyEvent (candidates.filter fun candidate =>
        ComponentTree.isBeyond keyEvent current candidate.2))

/-- A container in the list is looked into, given `advanceFocusInDirection` itself. -/
def advanceIntoCandidate (advanceFocusInDirection :
    SpatialNavigator → LayerId → Option (SpatialNavigator × Bool))
    (s : SpatialNavigator) (focusCandidate : LayerId) : Option (SpatialNavigator × Bool) :=
  if s.tree.isContainer focusCandidate then advanceFocusInDirection s focusCandidate
  else some (s, false)

/-- The end of `advanceFocusInDirection`. -/
def moveFocus (advanceFocusInDirection :
    SpatialNavigator → LayerId → Option (SpatialNavigator × Bool))
    (s : SpatialNavigator) (focusCandidate : LayerId) : Option (SpatialNavigator × Bool) := do
  let (s, consumed) ← advanceIntoCandidate advanceFocusInDirection s focusCandidate
  if consumed then return (s, true)
  else return (← s.updateFocusCandidate focusCandidate false, true)

def containerIsCurrentFocusAncestor (s : SpatialNavigator) (container : LayerId) : Option Bool :=
  match s.currentFocus_ with
  | none => some false
  | some currentFocus =>
    if container = currentFocus then some true else s.tree.hasAncestor currentFocus container

/-- `advanceFocusInDirection` (`RSkSpatialNavigator.cpp:364-416`). -/
def advanceFocusInDirection (keyEvent : RnsKey) :
    Nat → SpatialNavigator → LayerId → Option (SpatialNavigator × Bool)
  | 0, _, _ => none
  | n + 1, s, container => do
    let containerIsCurrentFocusAncestor ← s.containerIsCurrentFocusAncestor container
    let visibleOnly := s.currentFocus_.isSome &&
      !(containerIsCurrentFocusAncestor && s.tree.canScrollInDirection container keyEvent)
    let focusCandidate ← s.findFocusCandidateInContainer n container keyEvent visibleOnly
    match focusCandidate with
    | none =>
      if !containerIsCurrentFocusAncestor then return (s, false)
      else
        let (tree, status) := s.tree.scrollInDirection container none keyEvent
        return (s.withTree tree, decide (status = .scrollOnly))
    | some focusCandidate =>
      if s.tree.isVisible container focusCandidate then
        moveFocus (advanceFocusInDirection keyEvent n) s focusCandidate
      else
        let (tree, status) := s.tree.scrollInDirection container (some focusCandidate) keyEvent
        match status with
        | .noScroll => return (s.withTree tree, false)
        | .scrollOnly => return (s.withTree tree, true)
        | .scrollToFocus =>
          moveFocus (advanceFocusInDirection keyEvent n) (s.withTree tree) focusCandidate

/-- The loop of `navigateInDirection` with that many rounds. -/
def navigateFrom (keyEvent : RnsKey) (levels : Nat) :
    Nat → SpatialNavigator → LayerId → Option SpatialNavigator
  | 0, _, _ => none
  | n + 1, s, container => do
    let (s, consumed) ← advanceFocusInDirection keyEvent levels s container
    let next ← s.tree.nearestAncestorContainer container
    if consumed then return s
    else
      match next with
      | none => return s
      | some container => navigateFrom keyEvent levels n s container

/-- `navigateInDirection` (`RSkSpatialNavigator.cpp:439-451`). -/
def navigateInDirection (s : SpatialNavigator) (keyEvent : RnsKey) (levels : Nat) :
    Option SpatialNavigator :=
  let container := s.currentContainer_.getD s.rootContainer_
  navigateFrom keyEvent levels levels { s with currentContainer_ := some container } container

/-- `handleKeyEvent` (`RSkSpatialNavigator.cpp:453-469`). -/
def handleKeyEvent (s : SpatialNavigator) (eventKeyType : RnsKey) (eventKeyAction : RnsKeyAction)
    (levels : Nat) : Option SpatialNavigator :=
  if eventKeyAction ≠ .RNS_KEY_Press then some s
  else if eventKeyType = .RNS_KEY_Up ∨ eventKeyType = .RNS_KEY_Down ∨
      eventKeyType = .RNS_KEY_Left ∨ eventKeyType = .RNS_KEY_Right then
    s.navigateInDirection eventKeyType levels
  else some s

/-- Layout updates, pre-paints and scrolling: other scroll views and layers. -/
def relayout (s : SpatialNavigator) (scrollView : LayerId → ScrollView) : SpatialNavigator :=
  s.withTree { s.tree with
    component := fun x => (s.tree.component x).withScrollView (scrollView x) }

end SpatialNavigator

/-- What happens to the tree and the navigator. -/
inductive NavigatorOp where
  | mountChildComponent (parent newChildComponent : LayerId)
  | unmountChildComponent (oldChildComponent : LayerId)
  | updateComponentData (component : LayerId) (layoutMetrics : Bool) (props : Option FocusProps)
      (forceUpdate : Bool)
  | handleKeyEvent (eventKeyType : RnsKey) (eventKeyAction : RnsKeyAction)
  | runTask (alive : Bool)
  | relayout (scrollView : LayerId → ScrollView)

namespace NavigatorOp

/-- The operation with that many levels for its walks. -/
def exec (s : SpatialNavigator) (levels : Nat) : NavigatorOp → Option SpatialNavigator
  | mountChildComponent parent newChildComponent => s.mountChildComponent parent newChildComponent
  | unmountChildComponent oldChildComponent => s.unmountChildComponent oldChildComponent
  | updateComponentData component layoutMetrics props forceUpdate =>
    s.updateComponentData component layoutMetrics props forceUpdate
  | handleKeyEvent eventKeyType eventKeyAction =>
    s.handleKeyEvent eventKeyType eventKeyAction levels
  | runTask alive => s.runTask alive
  | relayout scrollView => some (s.relayout scrollView)

/-- The arguments are components made before. -/
def InRange (s : SpatialNavigator) : NavigatorOp → Prop
  | mountChildComponent parent newChildComponent =>
    parent < s.tree.nextId ∧ newChildComponent < s.tree.nextId
  | unmountChildComponent component | updateComponentData component _ _ _ =>
    component < s.tree.nextId
  | _ => True

end NavigatorOp

def navigatorStep (s : SpatialNavigator) (op : NavigatorOp) (s' : SpatialNavigator) : Prop :=
  op.InRange s ∧ ∃ levels, op.exec s levels = some s'

end ReactNativeSkia
