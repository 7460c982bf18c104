import ReactNativeSkia.Compositor.Layers.ScrollBar
import ReactNativeSkia.Misc.ParentForest
import Mathlib.Tactic.Simps.Basic

/-!
# Layers and their links

`RnsShell::Layer` (`layers/Layer.h`, `layers/Layer.cpp:101-161, 291-305`) with the fields
`ScrollLayer` adds. Layers live in a heap and are named by the identifier that
`nextUniqueId` gave them, so that a parent pointer may disagree with a children vector and
a layer may be linked below itself. A walk along parent pointers gets as many steps as
there are layers; when they do not suffice the C++ loop does not end, and the walk is
`none`.
-/

namespace ReactNativeSkia

abbrev LayerId := Nat

inductive LayerType where
  | default
  | virtual
  | picture
  | scroll
  | textured
  deriving DecidableEq, Repr

/-- One layer object. The last five fields are those of `ScrollLayer`. -/
structure Layer [Skia] where
  parent_ : Option LayerId := none
  type_ : LayerType := .default
  children_ : List LayerId := []
  frame_ : SkIRect := .MakeEmpty
  frameBounds_ : SkIRect := .MakeEmpty
  absFrame_ : SkIRect := .MakeEmpty
  bounds_ : SkIRect := .MakeEmpty
  anchorPosition_ : Skia.Scalar × Skia.Scalar := (Skia.half, Skia.half)
  absoluteTransformMatrix_ : Skia.Matrix := Skia.identity
  transformMatrix : Skia.Matrix := Skia.identity
  opacity : ℚ := 2559999 / 10000
  shadowOffset : Skia.Scalar × Skia.Scalar := (Skia.ofInt 0, Skia.ofInt (-3))
  shadowImageFilter : Option Skia.ImageFilter := none
  shadowMaskFilter : Option Skia.MaskFilter := none
  isShadowVisible : Bool := false
  isHidden_ : Bool := false
  masksToBounds_ : Bool := false
  skipParentMatrix_ : Bool := false
  invalidateMask_ : LayerInvalidateMask := LayerInvalidateAll
  bitmapSurfaceDamage_ : List SkIRect := []
  scrollOffsetX_ : Int := 0
  scrollOffsetY_ : Int := 0
  contentSize_ : SkISize := ⟨0, 0⟩
  scrollbar_ : ScrollBar := {}

/-- All layer objects: those with identifiers below `nextId` have been constructed. -/
structure Heap [Skia] where
  nextId : Nat
  layer : LayerId → Layer

namespace Layer

variable [Skia]

def isScroll (l : Layer) : Bool := decide (l.type_ = .scroll)

@[simps] def withParent (l : Layer) (p : Option LayerId) : Layer := { l with parent_ := p }

@[simps] def withChildren (l : Layer) (cs : List LayerId) : Layer := { l with children_ := cs }

@[simps] def setFrame (l : Layer) (frame : SkIRect) : Layer := { l with frame_ := frame }

@[simps] def setTransformMatrix (l : Layer) (m : Skia.Matrix) : Layer :=
  { l with transformMatrix := m }

@[simps] def withMask (l : Layer) (mask : LayerInvalidateMask) : Layer :=
  { l with invalidateMask_ := mask }

/-- `Layer::invalidate` (`Layer.h:127`): bits are only ever added. -/
def invalidate (l : Layer) (mask : LayerInvalidateMask) : Layer :=
  l.withMask (l.invalidateMask_.or mask)

@[simps] def withGeometry (l : Layer) (m : Skia.Matrix) (frameBounds absFrame bounds : SkIRect) :
    Layer :=
  { l with
    absoluteTransformMatrix_ := m
    frameBounds_ := frameBounds
    absFrame_ := absFrame
    bounds_ := bounds }

@[simps] def withBitmapSurfaceDamage (l : Layer) (damage : List SkIRect) : Layer :=
  { l with bitmapSurfaceDamage_ := damage }

@[simps] def withScrollbar (l : Layer) (scrollbar : ScrollBar) : Layer :=
  { l with scrollbar_ := scrollbar }

@[simps] def setSkipParentMatrix (skipParentMatrix : Bool) (l : Layer) : Layer :=
  { l with skipParentMatrix_ := skipParentMatrix }

end Layer

namespace Heap

variable [Skia]

def set (h : Heap) (x : LayerId) (l : Layer) : Heap :=
  { h with layer := Function.update h.layer x l }

def modify (h : Heap) (x : LayerId) (f : Layer → Layer) : Heap := h.set x (f (h.layer x))

def parent (h : Heap) (x : LayerId) : Option LayerId := (h.layer x).parent_

def children (h : Heap) (x : LayerId) : List LayerId := (h.layer x).children_

/-- `Layer::Create` of a type that it knows (`Layer.cpp:71-83`). -/
def create (h : Heap) (type : LayerType) : Heap :=
  { nextId := h.nextId + 1, layer := Function.update h.layer h.nextId { type_ := type } }

def invalidate (h : Heap) (layer : LayerId) (mask : LayerInvalidateMask) : Heap :=
  h.modify layer (·.invalidate mask)

/-- What the parent pointer of a layer leads to. -/
def parentLayer (h : Heap) (x : LayerId) : Option Layer := (h.parent x).map h.layer

@[simp] theorem set_nextId (h : Heap) (x : LayerId) (l : Layer) : (h.set x l).nextId = h.nextId :=
  rfl

@[simp] theorem modify_nextId (h : Heap) (x : LayerId) (f : Layer → Layer) :
    (h.modify x f).nextId = h.nextId := rfl

theorem set_layer (h : Heap) (x : LayerId) (l : Layer) (y : LayerId) :
    (h.set x l).layer y = if y = x then l else h.layer y := by
  simp only [set, Function.update_apply]

@[simp] theorem set_layer_self (h : Heap) (x : LayerId) (l : Layer) :
    (h.set x l).layer x = l := by
  simp [set_layer]

theorem set_layer_ne (h : Heap) {x y : LayerId} (l : Layer) (hne : y ≠ x) :
    (h.set x l).layer y = h.layer y := by
  simp [set_layer, hne]

theorem modify_layer (h : Heap) (x : LayerId) (f : Layer → Layer) (y : LayerId) :
    (h.modify x f).layer y = if y = x then f (h.layer x) else h.layer y := by
  simp only [modify, set_layer]

@[simp] theorem modify_layer_self (h : Heap) (x : LayerId) (f : Layer → Layer) :
    (h.modify x f).layer x = f (h.layer x) := by
  simp [modify_layer]

theorem modify_layer_ne (h : Heap) {x y : LayerId} (f : Layer → Layer) (hne : y ≠ x) :
    (h.modify x f).layer y = h.layer y := by
  simp [modify_layer, hne]

/-! ## Walks along parent pointers -/

/-- The loop of `hasAncestor` from the layer that `layer` points to. -/
def hasAncestorFrom (h : Heap) : Nat → Option LayerId → LayerId → Option Bool
  | _, none, _ => some false
  | 0, some _, _ => none
  | n + 1, some layer, ancestor =>
    if layer = ancestor then some true else h.hasAncestorFrom n (h.parent layer) ancestor

/-- `Layer::hasAncestor` (`Layer.cpp:291-297`). -/
def hasAncestor (h : Heap) (layer ancestor : LayerId) : Option Bool :=
  h.hasAncestorFrom h.nextId (h.parent layer) ancestor

/-- The loop of `rootLayer`. -/
def rootLayerFrom (h : Heap) : Nat → LayerId → Option LayerId
  | n, layer =>
    match h.parent layer with
    | none => some layer
    | some p =>
      match n with
      | 0 => none
      | n + 1 => h.rootLayerFrom n p

/-- `Layer::rootLayer` (`Layer.cpp:112-117`). -/
def rootLayer (h : Heap) (layer : LayerId) : Option LayerId := h.rootLayerFrom h.nextId layer

/-! ## Linking and unlinking -/

/-- `Layer::setParent` (`Layer.cpp:299-305`): refuses, without telling the caller, to set a
parent that has the layer as an ancestor. -/
def setParent (h : Heap) (child : LayerId) (layer : Option LayerId) : Option Heap :=
  match layer with
  | none => some (h.modify child (·.withParent none))
  | some p =>
    match h.hasAncestor p child with
    | none => none
    | some true => some h
    | some false => some (h.modify child (·.withParent (some p)))

/-- `setParent(nullptr)`, which never looks at the ancestors. -/
def clearParent (h : Heap) (child : LayerId) : Heap := h.modify child (·.withParent none)

/-- `Layer::removeChild(Layer *child, size_t index)` (`Layer.cpp:136-145`). -/
def removeChildAt (h : Heap) (p child : LayerId) (index : Nat) : Heap :=
  if index ≥ (h.children p).length then h
  else (h.clearParent child).modify p fun l => l.withChildren (l.children_.eraseIdx index)

/-- `Layer::removeChild(Layer *child)` (`Layer.cpp:147-155`). -/
def removeChild (h : Heap) (p child : LayerId) : Heap :=
  match (h.children p).idxOf? child with
  | none => h
  | some index => h.removeChildAt p child index

/-- `Layer::removeFromParent` (`Layer.cpp:157-160`). -/
def removeFromParent (h : Heap) (child : LayerId) : Heap :=
  match h.parent child with
  | none => h
  | some p => h.removeChild p child

/-- `Layer::insertChild` (`Layer.cpp:123-134`): the vector insert follows whatever
`setParent` did. -/
def insertChild (h : Heap) (p child : LayerId) (index : Nat) : Option Heap :=
  match (h.removeFromParent child).setParent child (some p) with
  | none => none
  | some h =>
    let index := min index (h.children p).length
    some (h.modify p fun l => l.withChildren (l.children_.insertIdx index child))

/-- `Layer::appendChild` (`Layer.cpp:119-121`). -/
def appendChild (h : Heap) (p child : LayerId) : Option Heap :=
  h.insertChild p child (h.children p).length

end Heap

end ReactNativeSkia
