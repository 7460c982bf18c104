import ReactNativeSkia.Mounting.Proofs.Mutations
import ReactNativeSkia.Compositor.Layers.Proofs.PrePaint

/-!
# Mounted views are drawn

A component that is mounted has its layer in the vector of its parent's layer, and a layer in
a vector whose component is not mounted there is marked for removal. A pre-paint of the root
takes the marked layers out of the vectors below it. What it must not meet there is a layer
that is marked and mounted: nothing ever clears the mark of a removed view, so a view inserted
again is taken out again.
-/

namespace ReactNativeSkia

section
variable [Skia]

/-- What happens to a window between two frames, and the pre-paint of a frame. -/
inductive WindowStep where
  | mutate (mutation : ShadowViewMutation)
  | prePaint (context : PaintContext) (forceLayout : Bool)

namespace MountingManager

def prePaint (m : MountingManager) (root : LayerId) (context : PaintContext)
    (forceLayout : Bool) : Option MountingManager :=
  (m.layers.prePaint root context forceLayout).map fun painted => m.withLayers painted.1

/-- The layers in the vector of a layer are those of the components mounted there. -/
def MountedIffDrawn (m : MountingManager) : Prop :=
  ∀ p c, c ∈ m.layers.children p ↔ m.getParent c = some p

/-- A marked layer below the root is not mounted, and a marked layer elsewhere is. -/
def RemovedUnmounted (m : MountingManager) (root : LayerId) : Prop :=
  ∀ p, ∀ c ∈ m.layers.children p, m.layers.marked c = true →
    (Below m.layers.children root p ↔ m.getParent c = none)

end MountingManager

namespace WindowStep

def exec (root : LayerId) (m : MountingManager) : WindowStep → Option MountingManager
  | mutate mutation => m.processMutation mutation
  | prePaint context forceLayout => m.prePaint root context forceLayout

/-- No layer is inserted below itself, and a pre-paint meets no marked layer that is mounted
below the root, nor one that is not mounted elsewhere. -/
def KeepsMounted (root : LayerId) (m : MountingManager) : WindowStep → Prop
  | mutate mutation => m.EditFits (m.edit mutation)
  | prePaint _ _ => m.RemovedUnmounted root

end WindowStep

def windowStep (root : LayerId) (m : MountingManager) (step : WindowStep)
    (m' : MountingManager) : Prop :=
  step.exec root m = some m'

namespace MountingManager

/-- Nothing is linked and nothing mounted yet. -/
structure Started (m : MountingManager) : Prop where
  layers : m.layers.Unlinked
  getParent : ∀ c, m.getParent c = none
  registered : m.Registered

/-- The invariant. -/
structure Tracked (m : MountingManager) : Prop where
  forest : m.layers.Forest
  registered : m.Registered
  mounted : ∀ p c, m.getParent c = some p → c ∈ m.layers.children p
  pending : ∀ p, ∀ c ∈ m.layers.children p, m.getParent c = some p ∨
    (m.getParent c = none ∧ m.layers.marked c = true)

variable {m m' start : MountingManager} {root : LayerId}

theorem Started.tracked (hs : m.Started) : m.Tracked where
  forest := hs.layers.forest
  registered := hs.registered
  mounted p c hc := by rw [hs.getParent] at hc; cases hc
  pending p c hc := by rw [hs.layers.children] at hc; cases hc

/-! ## Mutations -/

theorem Tracked.keeps (hm : m.Tracked) (hs : m.Keeps m') (hr : m'.Registered) : m'.Tracked where
  forest := Spec.forest (e := .keep) hm.forest hs
  registered := hr
  mounted p c hc := by
    rw [hs.children]
    rcases hs.getParent c with heq | ⟨-, hnone⟩
    · exact hm.mounted p c (heq ▸ hc)
    · rw [hnone] at hc
      cases hc
  pending p c hc := by
    rw [hs.children] at hc
    have hlt := (hm.forest.range c p ((hm.forest.linked.mem_iff p c).mp hc)).1
    rw [hs.marked c hlt]
    rcases hs.getParent c with heq | ⟨hge, -⟩
    · rw [heq]
      exact hm.pending p c hc
    · exact absurd hlt (Nat.not_lt.mpr hge)

theorem Tracked.inserts (hm : m.Tracked) {p c : LayerId} {index : Int32}
    (hs : m.Inserts p c index m') (hr : m'.Registered) : m'.Tracked where
  forest := hs.forest
  registered := hr
  mounted q d hd := by
    rw [hs.forest.linked.mem_iff, hs.parent]
    rw [hs.getParent] at hd
    by_cases hdc : d = c
    · subst hdc
      rwa [Function.update_self] at hd ⊢
    · rw [Function.update_of_ne hdc] at hd ⊢
      exact (hm.forest.linked.mem_iff q d).mp (hm.mounted q d hd)
  pending q d hd := by
    rw [hs.forest.linked.mem_iff, hs.parent] at hd
    rw [hs.getParent, hs.marked]
    by_cases hdc : d = c
    · subst hdc
      rw [Function.update_self] at hd ⊢
      exact Or.inl hd
    · rw [Function.update_of_ne hdc] at hd ⊢
      exact hm.pending q d ((hm.forest.linked.mem_iff q d).mpr hd)

theorem Tracked.marks (hm : m.Tracked) {c : LayerId} (hs : m.Marks c m')
    (hr : m'.Registered) : m'.Tracked where
  forest := Heap.SameLinks.forest ⟨hs.nextId, hs.parent, hs.children⟩ hm.forest
  registered := hr
  mounted q d hd := by
    rw [hs.children]
    rw [hs.getParent] at hd
    by_cases hdc : d = c
    · subst hdc
      rw [Function.update_self] at hd
      cases hd
    · rw [Function.update_of_ne hdc] at hd
      exact hm.mounted q d hd
  pending q d hd := by
    rw [hs.children] at hd
    rw [hs.getParent, hs.marked]
    by_cases hdc : d = c
    · subst hdc
      simp
    · rw [Function.update_of_ne hdc, Function.update_of_ne hdc]
      exact hm.pending q d hd

theorem Tracked.mutation (hm : m.Tracked) {mutation : ShadowViewMutation}
    (hfits : m.EditFits (m.edit mutation)) (hstep : m.processMutation mutation = some m') :
    m'.Tracked := by
  obtain ⟨m₁, hm₁, hspec, hr⟩ := processMutation_spec hm.forest hm.registered hfits
  rw [hstep] at hm₁
  cases hm₁
  cases he : m.edit mutation with
  | keep =>
    rw [he] at hspec
    exact hm.keeps hspec hr
  | insert p c index =>
    rw [he] at hspec
    exact hm.inserts hspec hr
  | remove p c index =>
    rw [he] at hspec
    exact hm.marks hspec hr

/-! ## Pre-paints -/

variable {context context' : PaintContext} {forceLayout : Bool} {h' : Heap}

/-- A pre-paint leaves drawn exactly what is mounted if and only if it met no marked layer
that is mounted below the root, nor one that is not mounted elsewhere. -/
theorem Tracked.mountedIffDrawn_iff (hm : m.Tracked)
    (hp : m.layers.PrePainted root context forceLayout h' context') :
    (m.withLayers h').MountedIffDrawn ↔ m.RemovedUnmounted root := by
  constructor
  · intro hdrawn p c hc hmark
    have hiff : c ∈ h'.children p ↔ m.getParent c = some p := hdrawn p c
    rcases hp.children_eq p with ⟨hbelow, hch⟩ | ⟨hout, hch⟩
    · rw [hch, Heap.mem_kept_iff, ← Heap.marked, hmark] at hiff
      refine iff_of_true hbelow ?_
      rcases hm.pending p c hc with hpar | ⟨hnone, -⟩
      · exact absurd (hiff.mpr hpar).2 Bool.noConfusion
      · exact hnone
    · rw [hch] at hiff
      refine iff_of_false hout ?_
      rw [hiff.mp hc]
      exact Option.some_ne_none p
  · intro hremoved p c
    have hiff : c ∈ h'.children p ↔ m.getParent c = some p := by
      rcases hp.children_eq p with ⟨hbelow, hch⟩ | ⟨hout, hch⟩
      · rw [hch, Heap.mem_kept_iff, ← Heap.marked]
        constructor
        · rintro ⟨hc, hmark⟩
          rcases hm.pending p c hc with hpar | ⟨-, hmark'⟩
          · exact hpar
          · rw [hmark] at hmark'
            cases hmark'
        · intro hpar
          have hc := hm.mounted p c hpar
          refine ⟨hc, Bool.eq_false_iff.mpr fun hmark => ?_⟩
          rw [(hremoved p c hc hmark).mp hbelow] at hpar
          cases hpar
      · rw [hch]
        constructor
        · intro hc
          rcases hm.pending p c hc with hpar | ⟨hnone, hmark⟩
          · exact hpar
          · exact absurd ((hremoved p c hc hmark).mpr hnone) hout
        · intro hpar
          exact hm.mounted p c hpar
    exact hiff

theorem Tracked.painted (hm : m.Tracked)
    (hp : m.layers.PrePainted root context forceLayout h' context')
    (hremoved : m.RemovedUnmounted root) : (m.withLayers h').Tracked := by
  have hdrawn := (hm.mountedIffDrawn_iff hp).mpr hremoved
  refine ⟨hp.forest hm.forest, fun handle provider tag c hprovider hc => ?_,
    fun p c => (hdrawn p c).mpr, fun p c hc => Or.inl ((hdrawn p c).mp hc)⟩
  rw [withLayers_layers, hp.nextId]
  exact hm.registered handle provider tag c hprovider hc

theorem Tracked.prePaint (hm : m.Tracked) (root : LayerId) (context : PaintContext)
    (forceLayout : Bool) : ∃ m', m.prePaint root context forceLayout = some m' ∧
      (m'.MountedIffDrawn ↔ m.RemovedUnmounted root) ∧
      (m.RemovedUnmounted root → m'.Tracked) := by
  obtain ⟨h', context', hpaint, hp⟩ := Heap.prePaint_spec hm.forest root context forceLayout
  exact ⟨m.withLayers h', by rw [MountingManager.prePaint, hpaint]; rfl, hm.mountedIffDrawn_iff hp,
    hm.painted hp⟩

/-! ## Runs -/

theorem Tracked.step (hm : m.Tracked) {step : WindowStep} (hok : step.KeepsMounted root m)
    (hstep : windowStep root m step m') : m'.Tracked := by
  cases step with
  | mutate mutation => exact hm.mutation hok hstep
  | prePaint context forceLayout =>
    obtain ⟨m₁, hm₁, -, htracked⟩ := hm.prePaint root context forceLayout
    obtain rfl : m₁ = m' := Option.some.inj (hm₁.symm.trans hstep)
    exact htracked hok

theorem Tracked.run (hm : start.Tracked)
    (hrun : Run (windowStep root) (fun m step => step.KeepsMounted root m) start m) :
    m.Tracked :=
  hrun.invariant (fun _ _ _ htracked hok hstep => htracked.step hok hstep) hm

/-- A transaction is a run of its mutations. -/
theorem run_of_processMutations {mutations : List ShadowViewMutation}
    (hms : m.processMutations mutations = some m') :
    Run (windowStep root) anyStep m m' := by
  induction mutations generalizing m with
  | nil =>
    obtain rfl : m = m' := Option.some.inj hms
    exact Run.refl m
  | cons mutation mutations ih =>
    rw [processMutations, List.foldlM_cons] at hms
    obtain ⟨m₁, hstep, hrest⟩ := Option.bind_eq_some_iff.mp hms
    exact (Run.single (a := .mutate mutation) trivial hstep).trans (ih hrest)

/-- After a run whose steps meet the condition the next pre-paint returns, and it leaves a
layer in the vector of another exactly when its component is mounted there, if and only if it
meets the condition too. -/
theorem run_mountedIffDrawn (hstart : start.Started)
    (hrun : Run (windowStep root) (fun m step => step.KeepsMounted root m) start m)
    (context : PaintContext) (forceLayout : Bool) :
    ∃ m', windowStep root m (.prePaint context forceLayout) m' ∧
      (m'.MountedIffDrawn ↔ m.RemovedUnmounted root) := by
  obtain ⟨m', hpaint, hiff, -⟩ := (hstart.tracked.run hrun).prePaint root context forceLayout
  exact ⟨m', hpaint, hiff⟩

end MountingManager

end

namespace MountingManager

open TranslationSkia

theorem window_started : window.Started where
  layers := Heap.fresh_unlinked 1
  getParent _ := rfl
  registered := window_registered

/-- A view is inserted, drawn, removed and inserted again: the next pre-paint takes it out. -/
theorem reinserted_view_not_drawn : ¬ ∀ (start m m' : MountingManager) (root : LayerId)
    (context : PaintContext) (forceLayout : Bool), start.Started →
      Run (windowStep root) anyStep start m → windowStep root m (.prePaint context forceLayout) m' →
        m'.MountedIffDrawn := by
  intro hall
  let steps : List WindowStep := [.mutate (rootMutation .Create 2 (-1)),
    .mutate (rootMutation .Insert 2 0), .prePaint ⟨[], true, (0, 0)⟩ false,
    .mutate (rootMutation .Remove 2 0), .mutate (rootMutation .Insert 2 0)]
  have hval : (steps.foldlM (fun m (step : WindowStep) => step.exec 0 m) window).map (fun m =>
      (m.prePaint 0 ⟨[], true, (0, 0)⟩ false).map fun m' =>
        (m'.layers.children 0, m'.getParent 1)) = some (some ([], some 0)) := by
    decide +kernel
  obtain ⟨m, hm, hval⟩ := Option.map_eq_some_iff.mp hval
  obtain ⟨m', hm', hval⟩ := Option.map_eq_some_iff.mp hval
  obtain ⟨hchildren, hparent⟩ := Prod.mk.inj hval
  have hrun : Run (windowStep 0) anyStep window m :=
    Run.of_exec hm
  have hdrawn := (hall window m m' 0 _ _ window_started hrun hm' 0 1).mpr hparent
  rw [hchildren] at hdrawn
  cases hdrawn

/-- A view is created, inserted and drawn. -/
theorem run_mountedIffDrawn_insert : ∃ m m' : MountingManager,
    Run (windowStep 0) (fun m step => step.KeepsMounted 0 m) window m ∧
      windowStep 0 m (.prePaint ⟨[], true, (0, 0)⟩ false) m' ∧
      (m'.MountedIffDrawn ↔ m.RemovedUnmounted 0) := by
  let created := window.createMountInstruction (rootMutation .Create 2 (-1))
  obtain ⟨m, hm⟩ : ∃ m, created.processMutation (rootMutation .Insert 2 0) = some m :=
    Option.isSome_iff_exists.mp (by decide +kernel)
  have hfits : created.EditFits (created.edit (rootMutation .Insert 2 0)) := by
    have hedit : created.edit (rootMutation .Insert 2 0) = .insert 0 1 0 := by decide +kernel
    rw [hedit]
    exact ⟨by decide, by decide +kernel⟩
  have hcreated : Run (windowStep 0) (fun m step => step.KeepsMounted 0 m) window created :=
    Run.single (a := .mutate (rootMutation .Create 2 (-1))) trivial rfl
  have hrun := hcreated.tail (a := .mutate (rootMutation .Insert 2 0)) hfits hm
  obtain ⟨m', hpaint, hiff⟩ :=
    run_mountedIffDrawn window_started hrun ⟨[], true, (0, 0)⟩ false
  exact ⟨m, m', hrun, hpaint, hiff⟩

end MountingManager

end ReactNativeSkia
