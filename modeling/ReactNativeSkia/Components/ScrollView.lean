import ReactNativeSkia.Sdk.RNSKeyCodeMapping
import ReactNativeSkia.Compositor.Layers.Layer
import ReactNativeSkia.Mounting.Component
import ReactNativeSkia.Misc.Run

/-!
# The scroll view component

`RSkComponentScrollView` (`ReactSkia/components/RSkComponentScrollView.cpp:55-528`) on its scroll
layer (`layers/ScrollLayer.cpp:240-265`), in the build with `FEATURE_SCROLL_INDICATOR`. Scroll
positions are whole numbers wherever the code makes them, so an `SkPoint` of one is a pair of
integers. Events to JS, the timer that hides the bar and the colour of the bar are left out.
-/

namespace ReactNativeSkia

/-- What `updateComponentProps` reads of `ScrollViewProps`. -/
structure ScrollViewProps where
  scrollEnabled : Bool := true
  pagingEnabled : Bool := false
  snapToOffsets : List ℚ := []
  contentOffset : ℚ × ℚ := (0, 0)
  showsHorizontalScrollIndicator : Bool := true
  showsVerticalScrollIndicator : Bool := true
  /-- Left, top, right and bottom. -/
  scrollIndicatorInsets : ℚ × ℚ × ℚ × ℚ := (0, 0, 0, 0)
  deriving DecidableEq

inductive ScrollStatus where
  | noScroll
  | scrollOnly
  | scrollToFocus
  deriving DecidableEq, Repr

inductive ScrollDirectionType where
  | ScrollDirectionForward
  | ScrollDirectionBackward
  deriving DecidableEq, Repr

/-- The `RSkComponent*` that the scroll functions get: null, the scroll view itself, or another
component with its absolute frame. -/
inductive ScrollCandidate where
  | null
  | this
  | other (layerAbsoluteFrame : SkIRect)
  deriving DecidableEq

/-- An argument of a command, as far as the commands tell arguments apart. -/
inductive Dynamic where
  | double (value : ℚ)
  | bool (value : Bool)
  | other
  deriving DecidableEq

/-- The component with its scroll layer; `props` is `component_.props`. -/
structure ScrollView [Skia] where
  layer : Layer := { type_ := .scroll }
  props : ScrollViewProps := {}
  pagingEnabled_ : Bool := false
  scrollEnabled_ : Bool := true
  isHorizontalScroll_ : Bool := false
  snapToOffsets_ : List Int := []
  contentOffset_ : ℚ × ℚ := (0, 0)
  showHorizontalScrollIndicator_ : Bool := false
  showVerticalScrollIndicator_ : Bool := false
  drawScrollIndicator_ : Bool := false

/-- `*std::upper_bound` in a sorted vector. -/
def upperBound (offsets : List Int) (value : Int) : Option Int :=
  offsets.find? fun offset => decide (value < offset)

/-- `*(std::lower_bound - 1)` in a sorted vector. -/
def beforeLowerBound (offsets : List Int) (value : Int) : Option Int :=
  (offsets.takeWhile fun offset => decide (offset < value)).getLast?

namespace Layer

variable [Skia]

def getScrollPosition (l : Layer) : Int × Int := (l.scrollOffsetX_, l.scrollOffsetY_)

/-- `ScrollLayer::setScrollPosition` (`ScrollLayer.cpp:258-265`). -/
def setScrollPosition (l : Layer) (scrollPos : Int × Int) : Layer :=
  { l with
    scrollOffsetX_ := scrollPos.1
    scrollOffsetY_ := scrollPos.2
    scrollbar_ := l.scrollbar_.setScrollBarOffset (scrollPos.1, scrollPos.2) }

/-- `ScrollLayer::setContentSize` when the size has changed (`ScrollLayer.cpp:242-255`). -/
def setContentSize (l : Layer) (contentSize : SkISize) : Layer :=
  { l with
    contentSize_ := contentSize
    scrollbar_ := l.scrollbar_.updateScrollLayerLayout contentSize l.frame_ }

end Layer

namespace ScrollView

variable [Skia]

@[simps] def withLayer (v : ScrollView) (layer : Layer) : ScrollView := { v with layer := layer }

/-- `handleScroll(SkPoint, bool)` (`RSkComponentScrollView.cpp:490-511`). -/
def handleScroll (v : ScrollView) (scrollPos : Int × Int) : ScrollView × ScrollStatus :=
  if scrollPos = v.layer.getScrollPosition then (v, .noScroll)
  else
    let layer := v.layer.setScrollPosition scrollPos
    let layer :=
      if v.drawScrollIndicator_ then layer.withScrollbar (layer.scrollbar_.showScrollBar true)
      else layer
    (v.withLayer (layer.invalidate LayerPaintInvalidate), .scrollOnly)

/-- The position that `handleScroll(int, int, bool)` scrolls to
(`RSkComponentScrollView.cpp:474-488`). -/
def clampedPosition (v : ScrollView) (x y : Int) : Int × Int :=
  if v.isHorizontalScroll_ then
    (min (max 0 x) (v.layer.contentSize_.width - v.layer.frame_.width), 0)
  else if v.layer.contentSize_.height ≤ v.layer.frame_.height then (0, 0)
  else (0, min (max 0 y) (v.layer.contentSize_.height - v.layer.frame_.height))

/-- `handleScroll(int, int, bool)`, which `updateScrollOffset` calls too. -/
def handleScrollXY (v : ScrollView) (x y : Int) : ScrollView × ScrollStatus :=
  v.handleScroll (v.clampedPosition x y)

/-- `handleScroll(rnsKey, SkIRect)` (`RSkComponentScrollView.cpp:448-472`). -/
def handleScrollTo (v : ScrollView) (direction : RnsKey) (candidateFrame : SkIRect) :
    ScrollView × ScrollStatus :=
  let frame := v.layer.frame_
  let scrollPos := v.layer.getScrollPosition
  let nextScrollPos :=
    if direction = .RNS_KEY_Right then (candidateFrame.right - frame.width, scrollPos.2)
    else if direction = .RNS_KEY_Left then (candidateFrame.left, scrollPos.2)
    else if direction = .RNS_KEY_Down then (scrollPos.1, candidateFrame.bottom - frame.height)
    else if direction = .RNS_KEY_Up then (scrollPos.1, candidateFrame.top)
    else scrollPos
  ((v.handleScrollXY nextScrollPos.1 nextScrollPos.2).1, .scrollToFocus)

def getScrollOffset (v : ScrollView) : Int × Int :=
  if v.isHorizontalScroll_ then (v.layer.getScrollPosition.1, 0)
  else (0, v.layer.getScrollPosition.2)

def isVisible (v : ScrollView) (candidateFrame : SkIRect) : Bool :=
  (SkIRect.MakeXYWH v.layer.getScrollPosition.1 v.layer.getScrollPosition.2 v.layer.frame_.width
    v.layer.frame_.height).contains candidateFrame

/-- `canScrollInDirection` (`RSkComponentScrollView.cpp:231-265`). -/
def canScrollInDirection (v : ScrollView) (direction : RnsKey) : Bool :=
  let contentSize := v.layer.contentSize_
  let frame := v.layer.frame_
  let scrollPos := v.layer.getScrollPosition
  if !v.scrollEnabled_ then false
  else if v.isHorizontalScroll_ then
    if direction = .RNS_KEY_Right then decide (contentSize.width - scrollPos.1 > frame.width)
    else if direction = .RNS_KEY_Left then decide (scrollPos.1 ≠ 0)
    else false
  else if contentSize.height < frame.height then false
  else if direction = .RNS_KEY_Down then decide (contentSize.height - scrollPos.2 > frame.height)
  else if direction = .RNS_KEY_Up then decide (scrollPos.2 ≠ 0)
  else false

/-- `calculateNextScrollOffset` (`RSkComponentScrollView.cpp:344-372`). -/
def calculateNextScrollOffset (v : ScrollView) (scrollDirection : ScrollDirectionType)
    (contentLength viewLength scrollOffset : Int) : Int :=
  let defaultOffset := if v.pagingEnabled_ then viewLength else viewLength.tdiv 2
  match scrollDirection with
  | .ScrollDirectionForward =>
    if contentLength - (scrollOffset + defaultOffset) ≤ viewLength then contentLength - viewLength
    else scrollOffset + defaultOffset
  | .ScrollDirectionBackward =>
    if scrollOffset ≤ defaultOffset then 0 else scrollOffset - defaultOffset

/-- `getNextScrollPosition` (`RSkComponentScrollView.cpp:374-396`). -/
def getNextScrollPosition (v : ScrollView) (direction : RnsKey) : Int × Int :=
  let contentSize := v.layer.contentSize_
  let frame := v.layer.frame_
  let scrollPos := v.layer.getScrollPosition
  if direction = .RNS_KEY_Right ∨ direction = .RNS_KEY_Left then
    (v.calculateNextScrollOffset
      (if direction = .RNS_KEY_Right then .ScrollDirectionForward else .ScrollDirectionBackward)
      contentSize.width frame.width scrollPos.1, scrollPos.2)
  else if direction = .RNS_KEY_Down ∨ direction = .RNS_KEY_Up then
    (scrollPos.1, v.calculateNextScrollOffset
      (if direction = .RNS_KEY_Down then .ScrollDirectionForward else .ScrollDirectionBackward)
      contentSize.height frame.height scrollPos.2)
  else scrollPos

/-- `handleSnapToOffsetScroll` (`RSkComponentScrollView.cpp:398-470`). -/
def handleSnapToOffsetScroll (v : ScrollView) (direction : RnsKey) (candidate : ScrollCandidate) :
    ScrollView × ScrollStatus :=
  let frameLength :=
    if v.isHorizontalScroll_ then v.layer.frame_.width else v.layer.frame_.height
  let contentLength :=
    if v.isHorizontalScroll_ then v.layer.contentSize_.width else v.layer.contentSize_.height
  let scrollPos := v.layer.getScrollPosition
  let scrollOffset := if v.isHorizontalScroll_ then scrollPos.1 else scrollPos.2
  let (currentOffset, upper, status) : Int × Option Int × ScrollStatus :=
    match candidate with
    | .other frame =>
      let currentOffset := if v.isHorizontalScroll_ then frame.left else frame.top
      (currentOffset, upperBound v.snapToOffsets_ currentOffset, .scrollToFocus)
    | _ =>
      (scrollOffset, upperBound v.snapToOffsets_ (scrollOffset + frameLength), .scrollOnly)
  let nextOffset := upper.getD scrollOffset
  let prevOffset := (beforeLowerBound v.snapToOffsets_ currentOffset).getD (-1)
  if direction = .RNS_KEY_Right ∨ direction = .RNS_KEY_Down then
    if nextOffset = currentOffset then (v, .noScroll)
    else
      let nextOffset :=
        if contentLength - nextOffset < frameLength then contentLength - frameLength
        else nextOffset
      ((v.handleScroll (if direction = .RNS_KEY_Right then (nextOffset, scrollPos.2)
        else (scrollPos.1, nextOffset))).1, status)
  else if direction = .RNS_KEY_Left ∨ direction = .RNS_KEY_Up then
    if prevOffset = -1 then (v, .noScroll)
    else
      ((v.handleScroll (if direction = .RNS_KEY_Left then (prevOffset, scrollPos.2)
        else (scrollPos.1, prevOffset))).1, status)
  else (v, .noScroll)

/-- `scrollInDirection` (`RSkComponentScrollView.cpp:267-299`). -/
def scrollInDirection (v : ScrollView) (candidate : ScrollCandidate) (direction : RnsKey) :
    ScrollView × ScrollStatus :=
  if !v.canScrollInDirection direction then (v, .noScroll)
  else if v.snapToOffsets_ ≠ [] then v.handleSnapToOffsetScroll direction candidate
  else
    let scrollPos := v.getNextScrollPosition direction
    match candidate with
    | .other candidateFrame =>
      if v.isVisible candidateFrame then (v, .noScroll)
      else
        let visibleRect := SkIRect.MakeXYWH scrollPos.1 scrollPos.2 v.layer.frame_.width
          v.layer.frame_.height
        if (visibleRect.intersect candidateFrame).isNone then v.handleScroll scrollPos
        else
          ((if v.pagingEnabled_ then v.handleScroll scrollPos
            else v.handleScrollTo direction candidateFrame).1, .scrollToFocus)
    | _ => v.handleScroll scrollPos

/-- `scrollTo` (`RSkComponentScrollView.cpp:301-318`). -/
def scrollTo (v : ScrollView) (candidate : ScrollCandidate) : ScrollView × ScrollStatus :=
  match candidate with
  | .other candidateFrame =>
    if v.isVisible candidateFrame then (v, .noScroll)
    else
      let currentScrollPos := v.layer.getScrollPosition
      let direction : RnsKey :=
        if v.isHorizontalScroll_ then
          if candidateFrame.left < currentScrollPos.1 then .RNS_KEY_Left else .RNS_KEY_Right
        else if candidateFrame.top < currentScrollPos.2 then .RNS_KEY_Up
        else .RNS_KEY_Down
      v.handleScrollTo direction candidateFrame
  | _ => (v, .noScroll)

/-- `handleCommand` (`RSkComponentScrollView.cpp:165-227`). An argument of another type than the
command reads throws before anything is written. -/
def handleCommand (v : ScrollView) (commandName : String) (args : List Dynamic) : ScrollView :=
  if commandName = "scrollToEnd" then
    match args with
    | [.bool _] =>
      if v.isHorizontalScroll_ then
        (v.handleScroll (v.layer.contentSize_.width - v.layer.frame_.width, 0)).1
      else if v.layer.contentSize_.height ≤ v.layer.frame_.height then v
      else (v.handleScroll (0, v.layer.contentSize_.height - v.layer.frame_.height)).1
    | _ => v
  else if commandName = "scrollTo" then
    match args with
    | [.double x, .double y, .bool _] => (v.handleScrollXY (floatToInt x) (floatToInt y)).1
    | _ => v
  else if commandName = "flashScrollIndicators" then
    if v.drawScrollIndicator_ then
      v.withLayer (v.layer.withScrollbar (v.layer.scrollbar_.showScrollBar true))
    else v
  else v

/-- `drawScrollIndicator_` as both updates set it. -/
def updateScrollIndicator (v : ScrollView) : ScrollView :=
  { v with
    drawScrollIndicator_ :=
      if v.isHorizontalScroll_ then v.showHorizontalScrollIndicator_
      else v.showVerticalScrollIndicator_ }

/-- The content offset of `updateComponentProps` (`RSkComponentScrollView.cpp:72-76`). -/
def updateContentOffset (v : ScrollView) (newviewProps : ScrollViewProps) (forceUpdate : Bool) :
    ScrollView :=
  if forceUpdate ∨ v.props.contentOffset ≠ newviewProps.contentOffset then
    ({ v with contentOffset_ := newviewProps.contentOffset }.handleScrollXY
      (floatToInt newviewProps.contentOffset.1) (floatToInt newviewProps.contentOffset.2)).1
  else v

/-- The insets of `updateComponentProps` (`RSkComponentScrollView.cpp:90-98`). -/
def updateScrollIndicatorInsets (v : ScrollView) (newviewProps : ScrollViewProps)
    (forceUpdate : Bool) : ScrollView :=
  let insets := newviewProps.scrollIndicatorInsets
  if forceUpdate ∨ v.props.scrollIndicatorInsets ≠ insets then
    v.withLayer (v.layer.withScrollbar (v.layer.scrollbar_.setScrollBarInsets
      ⟨round insets.1, round insets.2.1, round insets.2.2.1, round insets.2.2.2⟩))
  else v

/-- `updateComponentProps` (`RSkComponentScrollView.cpp:55-115`). -/
def updateComponentProps (v : ScrollView) (newviewProps : ScrollViewProps) (forceUpdate : Bool) :
    ScrollView :=
  let v : ScrollView :=
    { v with
      scrollEnabled_ := newviewProps.scrollEnabled
      pagingEnabled_ := newviewProps.pagingEnabled
      snapToOffsets_ := (newviewProps.snapToOffsets.map floatToInt).mergeSort }
  let v := v.updateContentOffset newviewProps forceUpdate
  let v := v.updateScrollIndicatorInsets newviewProps forceUpdate
  { v with
    showHorizontalScrollIndicator_ := newviewProps.showsHorizontalScrollIndicator
    showVerticalScrollIndicator_ := newviewProps.showsVerticalScrollIndicator
    : ScrollView }.updateScrollIndicator

/-- `updateComponentState` (`RSkComponentScrollView.cpp:117-163`), and whether it returns
`LayerInvalidateAll`. -/
def updateComponentState (v : ScrollView) (contentSize : SkISize) : ScrollView × Bool :=
  if v.layer.contentSize_ = contentSize then (v, false)
  else
    let v := v.withLayer (v.layer.setContentSize contentSize)
    let isHorizontalScroll := decide (contentSize.width > v.layer.frame_.width)
    if isHorizontalScroll ≠ v.isHorizontalScroll_ then
      let v := { v with isHorizontalScroll_ := isHorizontalScroll : ScrollView
        }.updateScrollIndicator
      let v := v.withLayer (v.layer.withScrollbar (v.layer.scrollbar_.setScrollBarPosition
        (if isHorizontalScroll then .bottom else .right)))
      ((v.handleScrollXY (floatToInt v.contentOffset_.1) (floatToInt v.contentOffset_.2)).1, true)
    else
      ((v.handleScrollXY v.layer.scrollOffsetX_ v.layer.scrollOffsetY_).1, true)

/-- The layout of an update. -/
def updateLayout (v : ScrollView) : Option SkIRect → ScrollView
  | some frame => v.withLayer (v.layer.setFrame frame)
  | none => v

/-- The props of an update. -/
def updateProps (v : ScrollView) (forceUpdate : Bool) : Option ScrollViewProps → ScrollView
  | some props => { v.updateComponentProps props forceUpdate with props := props }
  | none => v

/-- The state of an update, and whether it invalidates the layer. -/
def updateState (v : ScrollView) : Option SkISize → ScrollView × Bool
  | some contentSize => v.updateComponentState contentSize
  | none => (v, false)

/-- `RSkComponent::updateComponentData` on a scroll view (`RSkComponent.cpp:227-276`): the
layout, the props and the state that come with the update, in this order, and the invalidation.
Of `updateProps` only the part of the scroll view is here. -/
def updateComponentData (v : ScrollView) (frame : Option SkIRect) (props : Option ScrollViewProps)
    (contentSize : Option SkISize) (forceUpdate : Bool) : ScrollView :=
  let (v, stateChanged) :=
    ((v.updateLayout frame).updateProps forceUpdate props).updateState contentSize
  v.withLayer (v.layer.invalidate
    (if frame.isSome ∨ props.isSome ∨ stateChanged then LayerInvalidateAll
    else LayerInvalidateNone))

end ScrollView

/-- The operations on one scroll view. -/
inductive ScrollOp where
  | updateComponentData (frame : Option SkIRect) (props : Option ScrollViewProps)
      (contentSize : Option SkISize) (forceUpdate : Bool)
  | handleCommand (commandName : String) (args : List Dynamic)
  | scrollInDirection (candidate : ScrollCandidate) (direction : RnsKey)
  | scrollTo (candidate : ScrollCandidate)

/-- Frames and content sizes are not negative. -/
def ScrollOp.Sized : ScrollOp → Prop
  | .updateComponentData frame _ contentSize _ =>
    (∀ r ∈ frame, 0 ≤ r.width ∧ 0 ≤ r.height) ∧ ∀ s ∈ contentSize, 0 ≤ s.width ∧ 0 ≤ s.height
  | _ => True

namespace ScrollView

variable [Skia]

def exec (v : ScrollView) : ScrollOp → ScrollView
  | .updateComponentData frame props contentSize forceUpdate =>
    v.updateComponentData frame props contentSize forceUpdate
  | .handleCommand commandName args => v.handleCommand commandName args
  | .scrollInDirection candidate direction => (v.scrollInDirection candidate direction).1
  | .scrollTo candidate => (v.scrollTo candidate).1

end ScrollView

def scrollStep [Skia] (v : ScrollView) (op : ScrollOp) (v' : ScrollView) : Prop :=
  op.Sized ∧ v' = v.exec op

end ReactNativeSkia
