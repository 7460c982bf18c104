import ReactNativeSkia.Animation.RnsJsRaf

/-!
# Activity indicators

`RSkComponentActivityIndicatorManager` and the calls it gets from `RSkComponentActivityIndicator`
(`ReactSkia/components/RSkComponentActivityIndicatorManager.cpp:34-93`,
`RSkComponentActivityIndicator.cpp:30-45, 92-97`). The manager has weak pointers to the components
and one animation request, object 0 of the frame loop. A component is known by its tag, lives while
the registry or a running frame has a reference to it, and has a layer. The frame goes through
the vector by position, up to the end that the vector had before the loop.
-/

namespace ReactNativeSkia

/-- `registered` tells whether the registry has a reference. -/
structure ActivityIndicator where
  animating : Bool
  initialPropertiesParsed_ : Bool := false
  registered : Bool := true
  deriving DecidableEq, Repr

/-- A running `handleActivityIndicatorAnimation`: `firstComponent`, the position in the vector, the
end, and the `component` of the loop's body. `before` is the list at the start and `rotated` the
layers that have been rotated. -/
structure IndicatorFrame where
  firstComponent : Nat
  iter : Nat := 0
  last : Nat
  component : Option Nat := none
  before : List Nat
  rotated : List Nat := []
  deriving DecidableEq, Repr

/-- What a frame has done, with the list behind it. -/
structure IndicatorFrameDone where
  before : List Nat
  after : List Nat
  rotated : List Nat
  deriving DecidableEq, Repr

/-- `components` are those alive. -/
structure ActivityIndicators where
  loop : AnimationLoop := {}
  components : Nat → Option ActivityIndicator := fun _ => none
  actIndComponentList_ : List Nat := []
  frame : Option IndicatorFrame := none
  frames : List IndicatorFrameDone := []

inductive IndicatorOp where
  | create (tag : Nat) (animating : Bool)
  /-- React updates the props. -/
  | updateProps (tag : Nat) (animating : Bool)
  /-- The registry drops its reference. -/
  | delete (tag : Nat)
  /-- JS begins or ends a frame, or runs the calls of it. -/
  | js (op : AnimationOp)
  /-- The loop locks and rotates the next component. -/
  | rotate
  /-- The body of the loop ends, and its reference goes. -/
  | release
  /-- The function ends, and the reference to the first component goes. -/
  | finish
  deriving DecidableEq, Repr

/-- `animRequest_`. -/
def animRequest : Nat := 0

/-- What JS does by itself. -/
def AnimationOp.ofJs : AnimationOp → Bool
  | start _ | stop _ => false
  | _ => true

/-- A reference of the frame keeps the component alive. -/
def IndicatorFrame.holds (frame : IndicatorFrame) (tag : Nat) : Bool :=
  frame.firstComponent = tag || frame.component = some tag

namespace ActivityIndicators

/-- A weak pointer to the component can be locked. -/
def alive (s : ActivityIndicators) (tag : Nat) : Bool := (s.components tag).isSome

def setComponent (s : ActivityIndicators) (tag : Nat) (component : Option ActivityIndicator) :
    ActivityIndicators :=
  { s with components := Function.update s.components tag component }

def addComponent (s : ActivityIndicators) (tag : Nat) : ActivityIndicators :=
  if s.alive tag then
    let list := s.actIndComponentList_ ++ [tag]
    { s with
      actIndComponentList_ := list
      loop := if list.length = 1 then s.loop.start animRequest else s.loop }
  else s

/-- The first entry goes that has expired or has the tag. -/
def removeComponent (s : ActivityIndicators) (tag : Nat) : ActivityIndicators :=
  if s.actIndComponentList_.isEmpty then s
  else
    let list := s.actIndComponentList_.eraseP fun entry => !s.alive entry || entry == tag
    { s with
      actIndComponentList_ := list
      loop := if list.length = 0 then s.loop.stop animRequest else s.loop }

/-- `updateComponentProps`, and the assignment of the props behind it. -/
def updateComponentProps (s : ActivityIndicators) (tag : Nat) (component : ActivityIndicator)
    (animating : Bool) : ActivityIndicators :=
  let s :=
    if !component.initialPropertiesParsed_ || component.animating != animating then
      if animating then s.addComponent tag else s.removeComponent tag
    else s
  s.setComponent tag
    (some { component with initialPropertiesParsed_ := true, animating := animating })

/-- The destructor runs when the weak pointers have expired. -/
def destroy (s : ActivityIndicators) (tag : Nat) : ActivityIndicators :=
  (s.setComponent tag none).removeComponent tag

/-- The frame gives back a reference. -/
def giveBack (s : ActivityIndicators) (tag : Nat) : ActivityIndicators :=
  if ∃ component ∈ s.components tag, component.registered = false then s.destroy tag else s

/-- `handleActivityIndicatorAnimation` up to the loop. -/
def handleActivityIndicatorAnimation (s : ActivityIndicators) : ActivityIndicators :=
  match s.actIndComponentList_ with
  | [] => s
  | first :: _ =>
    if s.alive first then
      { s with
        frame := some {
          firstComponent := first
          last := s.actIndComponentList_.length
          before := s.actIndComponentList_ } }
    else s

end ActivityIndicators

namespace IndicatorOp

/-- `none` if that is not what happens next. -/
def exec (s : ActivityIndicators) : IndicatorOp → Option ActivityIndicators
  | create tag animating =>
    if s.frame = none ∧ s.alive tag = false then
      some (s.setComponent tag (some { animating := animating }))
    else none
  | updateProps tag animating =>
    if s.frame = none then
      (s.components tag).map fun component => s.updateComponentProps tag component animating
    else none
  | delete tag =>
    match s.components tag with
    | some component =>
      if component.registered then
        if (s.frame.any fun frame => frame.holds tag) then
          some (s.setComponent tag (some { component with registered := false }))
        else some (s.destroy tag)
      else none
    | none => none
  | js op =>
    if s.frame = none ∧ op.ofJs = true then
      (op.exec s.loop).map fun loop =>
        if op = .call ∧ loop.running = some animRequest then
          { s with loop := loop }.handleActivityIndicatorAnimation
        else { s with loop := loop }
    else none
  | rotate =>
    s.frame.bind fun frame =>
      if frame.component = none ∧ frame.iter < frame.last then
        match s.actIndComponentList_[frame.iter]? with
        | some tag =>
          if s.alive tag then
            some { s with
              frame := some { frame with
                component := some tag
                rotated := frame.rotated ++ [tag] } }
          else some { s with frame := some { frame with iter := frame.iter + 1 } }
        -- behind the entries an erase has left an empty pointer
        | none => some { s with frame := some { frame with iter := frame.iter + 1 } }
      else none
  | release =>
    s.frame.bind fun frame =>
      frame.component.map fun tag =>
        let s := if frame.firstComponent = tag then s else s.giveBack tag
        { s with frame := some { frame with component := none, iter := frame.iter + 1 } }
  | finish =>
    s.frame.bind fun frame =>
      if frame.component = none ∧ frame.last ≤ frame.iter then
        let s := s.giveBack frame.firstComponent
        some { s with
          frame := none
          frames := s.frames ++ [{
            before := frame.before
            after := s.actIndComponentList_
            rotated := frame.rotated }] }
      else none

end IndicatorOp

def IndicatorStep (s : ActivityIndicators) (op : IndicatorOp) (t : ActivityIndicators) : Prop :=
  op.exec s = some t

end ReactNativeSkia
