import Mathlib.Data.Fin.VecNotation
import Mathlib.Data.Fintype.Basic
import Mathlib.Data.Rat.Floor

/-!
# View props on the layer

`RSkComponent::updateProps` (`ReactSkia/components/RSkComponent.cpp:111-225`) with the conversions
of `views/common/RSkConversion.h` and `needsShadowPainting` (`:378-393`), and the props branch of
`updateComponentData` (`:243-249`). Floating point numbers are rationals, so nothing is rounded.
The invalidate mask, which is `LayerInvalidateAll` whatever has changed, and the focus prop of TV
builds are left out.
-/

namespace ReactNativeSkia

/-- What `colorComponentsFromColor` makes of a colour. -/
structure ColorComponents where
  red : ℚ
  green : ℚ
  blue : ℚ
  alpha : ℚ
  deriving DecidableEq

abbrev SharedColor := Option ColorComponents

/-- `Transform::matrix`. -/
abbrev Transform := Fin 16 → ℚ

def Transform.Identity : Transform := fun i => if i.val % 5 = 0 then 1 else 0

inductive Overflow where
  | visible
  | hidden
  | scroll
  deriving DecidableEq, Repr

/-- What `updateProps` reads of `ViewProps`; the enumerations as `int`. -/
structure ViewProps where
  opacity : ℚ := 1
  foregroundColor : SharedColor := none
  backgroundColor : SharedColor := none
  shadowColor : SharedColor := none
  shadowOffset : ℚ × ℚ := (0, -3)
  shadowOpacity : ℚ := 0
  shadowRadius : ℚ := 3
  transform : Transform := .Identity
  backfaceVisibility : Int := 0
  pointerEvents : Int := 0
  /-- Left, top, right and bottom. -/
  hitSlop : ℚ × ℚ × ℚ × ℚ := (0, 0, 0, 0)
  overflow : Overflow := .visible
  zIndex : Option Int := none
  deriving DecidableEq

def ViewProps.getClipsContentToBounds (props : ViewProps) : Bool :=
  decide (props.overflow ≠ .visible)

structure SkColor where
  a : Nat
  r : Nat
  g : Nat
  b : Nat
  deriving DecidableEq, Repr

def SK_ColorBLACK : SkColor := ⟨255, 0, 0, 0⟩

def SK_ColorTRANSPARENT : SkColor := ⟨0, 0, 0, 0⟩

/-- The entries row by row. -/
abbrev SkMatrix := Fin 9 → ℚ

/-- The arguments of `SkImageFilters::DropShadowOnly`. -/
structure DropShadowOnly where
  dx : ℚ
  dy : ℚ
  sigmaX : ℚ
  sigmaY : ℚ
  color : SkColor
  deriving DecidableEq

/-- The arguments of `SkMaskFilter::MakeBlur`, less the style, which is always normal. -/
structure MakeBlur where
  sigma : ℚ
  deriving DecidableEq

def MAX_8BIT : ℚ := 25599 / 100

/-- `RSkColorFromSharedColor`; `SkColorSetARGB` takes whole numbers, so the fractions go. -/
def RSkColorFromSharedColor (sharedColor : SharedColor) (defaultColor : SkColor) : SkColor :=
  match sharedColor with
  | some colorValue =>
    ⟨⌊colorValue.alpha * MAX_8BIT⌋₊, ⌊colorValue.red * MAX_8BIT⌋₊,
      ⌊colorValue.green * MAX_8BIT⌋₊, ⌊colorValue.blue * MAX_8BIT⌋₊⟩
  | none => defaultColor

def RSkTransformTo2DMatrix (t : Transform) : SkMatrix :=
  ![t 0, t 4, t 12, t 1, t 5, t 13, t 3, t 7, t 15]

/-- `((opacity > 1.0) ? 1.0 : opacity) * MAX_8BIT`. -/
def opacityTo8Bit (opacity : ℚ) : ℚ := (if opacity > 1 then 1 else opacity) * MAX_8BIT

def isOpaque (opacity : ℚ) : Bool := decide (opacity ≥ MAX_8BIT)

/-- The fields of `RnsShell::Layer` that `updateProps` writes. -/
structure LayerStyle where
  backgroundColor : SkColor
  backfaceVisibility : Int
  opacity : ℚ := 2559999 / 10000
  transformMatrix : SkMatrix := RSkTransformTo2DMatrix .Identity
  shadowOpacity : ℚ := 0
  shadowRadius : ℚ := 3
  shadowColor : SkColor := SK_ColorBLACK
  shadowOffset : ℚ × ℚ := (0, -3)
  shadowImageFilter : Option DropShadowOnly := none
  shadowMaskFilter : Option MakeBlur := none
  isShadowVisible : Bool := false
  masksToBounds_ : Bool := false

/-- `needsShadowPainting`. An `SkSize` is empty if one of its sides is not positive. -/
def LayerStyle.needsShadowPainting (layer : LayerStyle) : Bool :=
  !(decide (layer.shadowOpacity = 0) || decide (layer.opacity = 0) ||
    decide (layer.shadowColor.a = 0) ||
    ((decide (layer.shadowOffset.1 ≤ 0) || decide (layer.shadowOffset.2 ≤ 0)) &&
      isOpaque layer.opacity))

/-- The `CommonProps` that `updateProps` writes. -/
structure CommonProps where
  foregroundColor : SkColor
  pointerEvents : Int
  hitSlop : ℚ × ℚ × ℚ × ℚ
  zIndex : Int := 0

/-- A component with its layer; `props` is `component_.props`. -/
structure ViewComponent where
  props : ViewProps
  commonProps : CommonProps
  layer : LayerStyle

/-- One prop of `updateProps`: what has not changed is left as it is. -/
def updateProp {α β : Type*} [DecidableEq α] (forceUpdate : Bool) (oldProp newProp : α)
    (show_ : α → β) (shown : β) : β :=
  if forceUpdate || decide (oldProp ≠ newProp) then show_ newProp else shown

namespace ViewComponent

/-- The opacity and the shadow props (`:118-152`). -/
def updateShadowProps (c : ViewComponent) (newviewProps : ViewProps) (forceUpdate : Bool) :
    LayerStyle :=
  { c.layer with
    opacity := updateProp forceUpdate c.props.opacity newviewProps.opacity opacityTo8Bit
      c.layer.opacity
    shadowOpacity := updateProp forceUpdate c.props.shadowOpacity newviewProps.shadowOpacity
      opacityTo8Bit c.layer.shadowOpacity
    shadowRadius := updateProp forceUpdate c.props.shadowRadius newviewProps.shadowRadius id
      c.layer.shadowRadius
    shadowOffset := updateProp forceUpdate c.props.shadowOffset newviewProps.shadowOffset id
      c.layer.shadowOffset
    shadowColor := updateProp forceUpdate c.props.shadowColor newviewProps.shadowColor
      (RSkColorFromSharedColor · SK_ColorBLACK) c.layer.shadowColor }

def createShadowFilter (c : ViewComponent) (newviewProps : ViewProps) (forceUpdate : Bool) :
    Bool :=
  forceUpdate || decide (c.props.shadowOpacity ≠ newviewProps.shadowOpacity) ||
    decide (c.props.shadowRadius ≠ newviewProps.shadowRadius) ||
    decide (c.props.shadowOffset ≠ newviewProps.shadowOffset) ||
    decide (c.props.shadowColor ≠ newviewProps.shadowColor)

def updateCommonProps (c : ViewComponent) (newviewProps : ViewProps) (forceUpdate : Bool) :
    CommonProps where
  foregroundColor := updateProp forceUpdate c.props.foregroundColor newviewProps.foregroundColor
    (RSkColorFromSharedColor · SK_ColorTRANSPARENT) c.commonProps.foregroundColor
  pointerEvents := updateProp forceUpdate c.props.pointerEvents newviewProps.pointerEvents id
    c.commonProps.pointerEvents
  hitSlop := updateProp forceUpdate c.props.hitSlop newviewProps.hitSlop id
    c.commonProps.hitSlop
  zIndex := updateProp forceUpdate c.props.zIndex newviewProps.zIndex (·.getD 0)
    c.commonProps.zIndex

/-- `updateProps`. It compares with `component_.props`, and leaves them to its callers. -/
def updateProps (c : ViewComponent) (newviewProps : ViewProps) (forceUpdate : Bool) :
    ViewComponent :=
  let layer := c.updateShadowProps newviewProps forceUpdate
  let createShadowFilter := c.createShadowFilter newviewProps forceUpdate
  { c with
    commonProps := c.updateCommonProps newviewProps forceUpdate
    layer := { layer with
      isShadowVisible := layer.needsShadowPainting
      shadowImageFilter :=
        if createShadowFilter then
          some ⟨layer.shadowOffset.1, layer.shadowOffset.2, layer.shadowRadius,
            layer.shadowRadius, layer.shadowColor⟩
        else layer.shadowImageFilter
      shadowMaskFilter :=
        if createShadowFilter then some ⟨layer.shadowRadius⟩ else layer.shadowMaskFilter
      backgroundColor := updateProp forceUpdate c.props.backgroundColor
        newviewProps.backgroundColor (RSkColorFromSharedColor · SK_ColorTRANSPARENT)
        layer.backgroundColor
      transformMatrix := updateProp forceUpdate c.props.transform newviewProps.transform
        RSkTransformTo2DMatrix layer.transformMatrix
      backfaceVisibility := updateProp forceUpdate c.props.backfaceVisibility
        newviewProps.backfaceVisibility id layer.backfaceVisibility
      masksToBounds_ := updateProp forceUpdate c.props.getClipsContentToBounds
        newviewProps.getClipsContentToBounds id layer.masksToBounds_ } }

/-- `updateComponentData` of a React update with `ComponentUpdateMaskProps`. -/
def updateComponentData (c : ViewComponent) (newProps : ViewProps) (forceUpdate : Bool) :
    ViewComponent :=
  { c.updateProps newProps forceUpdate with props := newProps }

end ViewComponent

end ReactNativeSkia
