import ReactNativeSkia.Mounting.Component

/-!
# The mounting manager

`MountingManager::ProcessMutations` and its five instructions
(`ReactSkia/MountingManager.cpp:108-239`), with `mountChildComponent` and
`unmountChildComponent` (`components/RSkComponent.cpp:290-330`). The calls of `begin` and
`commit` around the loop are those of the compositor. Navigation lists are left out.
-/

namespace ReactNativeSkia

inductive ShadowViewMutation.Type where
  | Create
  | Delete
  | Insert
  | Remove
  | Update
  deriving DecidableEq, Repr

structure ShadowViewMutation [Skia] where
  type : ShadowViewMutation.Type
  parentShadowView : ShadowView
  oldChildShadowView : ShadowView
  newChildShadowView : ShadowView
  index : Int32

/-- The layers, the components and `ComponentViewRegistry::registry_`. -/
structure MountingManager [Skia] where
  layers : Heap
  component : LayerId → RSkComponent
  registry_ : ComponentHandle → Option RSkComponentProvider

/-- The conversion from `int` to `size_t`. -/
def toSizeT (index : Int32) : Nat := (index.toInt % 2 ^ 64).toNat

namespace MountingManager

variable [Skia]

def getProvider (m : MountingManager) (shadowView : ShadowView) : Option RSkComponentProvider :=
  m.registry_ shadowView.componentHandle

def getComponent (m : MountingManager) (shadowView : ShadowView) : Option LayerId :=
  (m.getProvider shadowView).bind (·.getComponent shadowView.tag)

@[simps] def setProvider (m : MountingManager) (shadowView : ShadowView)
    (provider : RSkComponentProvider) : MountingManager :=
  { m with registry_ := Function.update m.registry_ shadowView.componentHandle (some provider) }

@[simps] def setComponent (m : MountingManager) (c : LayerId) (component : RSkComponent) :
    MountingManager :=
  { m with component := Function.update m.component c component }

@[simps] def withLayers (m : MountingManager) (layers : Heap) : MountingManager :=
  { m with layers := layers }

/-- `RSkComponent::getParent`, by its layer. -/
def getParent (m : MountingManager) (c : LayerId) : Option LayerId := (m.component c).parent_

/-- `RSkComponent::updateComponentData`. -/
def updateComponentData (m : MountingManager) (c : LayerId) (newShadowView : ShadowView)
    (updateMask : ComponentUpdateMask) (forceUpdate : Bool) : MountingManager :=
  (m.withLayers (m.layers.modify c
    ((m.component c).updateLayer newShadowView updateMask forceUpdate))).setComponent c
      ((m.component c).updateData newShadowView updateMask)

/-- `RSkComponent::mountChildComponent` of the component `parent`; `none` if the walk of
`setParent` does not end. -/
def mountChildComponent (m : MountingManager) (parent : LayerId)
    (newChildComponent : Option LayerId) (index : Int32) : Option MountingManager :=
  match newChildComponent with
  | none => some m
  | some child =>
    (m.layers.insertChild parent child (toSizeT index)).map
      ((m.setComponent child ((m.component child).withParent (some parent))).withLayers ·)

/-- `RSkComponent::unmountChildComponent`, which reads neither its own component nor the
index. -/
def unmountChildComponent (m : MountingManager) (oldChildComponent : Option LayerId) :
    MountingManager :=
  match oldChildComponent with
  | none => m
  | some child =>
    (m.setComponent child ((m.component child).withParent none)).withLayers
      (m.layers.invalidate child LayerRemoveInvalidate)

def createMountInstruction (m : MountingManager) (mutation : ShadowViewMutation) :
    MountingManager :=
  let shadowView := mutation.newChildShadowView
  match m.getProvider shadowView with
  | none => m
  | some provider =>
    let component := m.layers.nextId
    ((m.setProvider shadowView (provider.createAndAddComponent shadowView.tag component)
      ).setComponent component (.new shadowView)).withLayers (m.layers.create provider.layerType)

def deleteMountInstruction (m : MountingManager) (mutation : ShadowViewMutation) :
    MountingManager :=
  let shadowView := mutation.oldChildShadowView
  match m.getProvider shadowView with
  | none => m
  | some provider =>
    match provider.getComponent shadowView.tag with
    | none => m
    | some _ => m.setProvider shadowView (provider.deleteComponent shadowView.tag)

def insertMountInstruction (m : MountingManager) (mutation : ShadowViewMutation) :
    Option MountingManager :=
  let newChildComponent := m.getComponent mutation.newChildShadowView
  let parentComponent := m.getComponent mutation.parentShadowView
  let m :=
    match newChildComponent with
    | none => m
    | some child =>
      m.updateComponentData child mutation.newChildShadowView ComponentUpdateMaskAll true
  match parentComponent with
  | none => some m
  | some parent => m.mountChildComponent parent newChildComponent mutation.index

def removeMountInstruction (m : MountingManager) (mutation : ShadowViewMutation) :
    MountingManager :=
  let oldChildComponent := m.getComponent mutation.oldChildShadowView
  match m.getComponent mutation.parentShadowView with
  | none => m
  | some _ => m.unmountChildComponent oldChildComponent

def updateMountInstruction (m : MountingManager) (mutation : ShadowViewMutation) :
    MountingManager :=
  let oldChildShadowView := mutation.oldChildShadowView
  let newChildShadowView := mutation.newChildShadowView
  match m.getComponent newChildShadowView with
  | none => m
  | some child =>
    let updateMask : ComponentUpdateMask :=
      { props := decide (oldChildShadowView.props.address ≠ newChildShadowView.props.address)
        state := decide (oldChildShadowView.state.address ≠ newChildShadowView.state.address)
        eventEmitter :=
          decide (oldChildShadowView.eventEmitter ≠ newChildShadowView.eventEmitter)
        layoutMetrics :=
          decide (oldChildShadowView.layoutMetrics ≠ newChildShadowView.layoutMetrics) }
    if updateMask ≠ ComponentUpdateMaskNone then
      m.updateComponentData child newChildShadowView updateMask false
    else m

def processMutation (m : MountingManager) (mutation : ShadowViewMutation) :
    Option MountingManager :=
  match mutation.type with
  | .Create => some (m.createMountInstruction mutation)
  | .Delete => some (m.deleteMountInstruction mutation)
  | .Insert => m.insertMountInstruction mutation
  | .Remove => some (m.removeMountInstruction mutation)
  | .Update => some (m.updateMountInstruction mutation)

/-- The loop of `ProcessMutations`. -/
def processMutations (m : MountingManager) (mutations : List ShadowViewMutation) :
    Option MountingManager :=
  mutations.foldlM processMutation m

end MountingManager

end ReactNativeSkia
