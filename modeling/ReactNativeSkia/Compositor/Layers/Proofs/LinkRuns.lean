import ReactNativeSkia.Compositor.Layers.Proofs.PrePaint
import ReactNativeSkia.Misc.Run

/-!
# Runs of link operations

Any sequence of `insertChild`, `appendChild`, `removeFromParent` and `removeChild` on the
constructed layers. `insertChild` does not look at whether `setParent` refused, so the links
stay a forest as long as no layer is inserted below itself, and not one step longer.
-/

namespace ReactNativeSkia

inductive LinkOp where
  | insertChild (p child : LayerId) (index : Nat)
  | appendChild (p child : LayerId)
  | removeFromParent (child : LayerId)
  | removeChild (p child : LayerId)
  deriving DecidableEq, Repr

section
variable [Skia]

namespace LinkOp

/-- `none` if the walk of `setParent` does not end. -/
def exec (h : Heap) : LinkOp → Option Heap
  | insertChild p child index => h.insertChild p child index
  | appendChild p child => h.appendChild p child
  | removeFromParent child => some (h.removeFromParent child)
  | removeChild p child => some (h.removeChild p child)

/-- The arguments are constructed layers. -/
def InRange (h : Heap) : LinkOp → Prop
  | insertChild p child _ | appendChild p child | removeChild p child =>
    p < h.nextId ∧ child < h.nextId
  | removeFromParent child => child < h.nextId

/-- The layer to insert is neither the new parent nor an ancestor of it. -/
def NotAbove (h : Heap) : LinkOp → Prop
  | insertChild p child _ | appendChild p child => child ≠ p ∧ h.hasAncestor p child = some false
  | removeFromParent _ | removeChild _ _ => True

end LinkOp

/-- A call with constructed layers as arguments that returns. -/
def linkStep (h : Heap) (op : LinkOp) (h' : Heap) : Prop := op.InRange h ∧ op.exec h = some h'

namespace Heap

/-- Layers as their constructor leaves them, as far as links go. -/
structure Unlinked (h : Heap) : Prop where
  parent : ∀ x, h.parent x = none
  children : ∀ x, h.children x = []

theorem Unlinked.forest {h : Heap} (hu : h.Unlinked) : h.Forest where
  linked := {
    mem_iff p c := by simp [hu.parent, hu.children]
    nodup p := by simp [hu.children]
    ends x := .of_root (hu.parent x) }
  range x p hx := by rw [hu.parent] at hx; cases hx

section
variable {h h' : Heap} {p c : LayerId}

theorem Forest.notAbove_iff (hf : h.Forest) {l : List LayerId} (hl : ParentChain h.parent p l) :
    c ≠ p ∧ h.hasAncestor p c = some false ↔ c ∉ p :: l := by
  rw [hf.hasAncestor_eq hl]
  simp

theorem Forest.removeChild (hf : h.Forest) (p c : LayerId) : (h.removeChild p c).Forest := by
  cases hi : (h.children p).idxOf? c with
  | none => simpa only [Heap.removeChild, hi] using hf
  | some i =>
    have hmem : c ∈ h.children p := by
      by_contra hn
      rw [List.idxOf?_eq_none_iff.mpr hn] at hi
      cases hi
    have hrm := hf.removeFromParent c
    rwa [Heap.removeFromParent, (hf.linked.mem_iff p c).mp hmem] at hrm

/-- A layer inserted under itself ends up as its own parent. -/
theorem insertChild_self (hf : h.Forest) (c : LayerId) (i : Nat) :
    ∃ h', h.insertChild c c i = some h' ∧ h'.parent c = some c := by
  have hnone := removeFromParent_parent_self hf c
  have hset := setParent_of_not_above (hf.removeFromParent c) (.root hnone) (c := c) (by simp)
  refine ⟨_, by simp only [insertChild, hset]; rfl, ?_⟩
  simp [parent]

/-- A layer inserted below itself is refused by `setParent` and inserted all the same. -/
theorem insertChild_ancestor (hf : h.Forest) {l : List LayerId} (hl : ParentChain h.parent p l)
    (hc : c ∈ l) (i : Nat) :
    ∃ h', h.insertChild p c i = some h' ∧ c ∈ h'.children p ∧ h'.parent c = none := by
  obtain ⟨m, hm, hcm⟩ := removeFromParent_chain_of_mem hf hl hc
  have hset : (h.removeFromParent c).setParent c (some p) = some (h.removeFromParent c) := by
    simp [setParent, (hf.removeFromParent c).hasAncestor_eq hm, hcm]
  refine ⟨_, by simp only [insertChild, hset]; rfl, ?_, ?_⟩
  · simp only [children, modify_layer_self, Layer.withChildren_children_]
    rw [List.mem_insertIdx (Nat.min_le_right _ _)]
    exact Or.inl rfl
  · have hne : c ≠ p := by
      rintro rfl
      exact hl.not_mem_self hc
    simp only [parent, modify_layer_ne _ _ hne]
    exact removeFromParent_parent_self hf c

/-- From a forest `insertChild` returns, and it leaves a forest exactly if the layer is
neither the new parent nor an ancestor of it. -/
theorem Forest.insertChild_iff (hf : h.Forest) (hp : p < h.nextId) (hc : c < h.nextId) (i : Nat) :
    ∃ h', h.insertChild p c i = some h' ∧
      ((c ≠ p ∧ h.hasAncestor p c = some false → h'.Forest) ∧
        (Linked h'.parent h'.children → c ≠ p ∧ h.hasAncestor p c = some false)) := by
  obtain ⟨l, hl⟩ := hf.linked.ends p
  rw [hf.notAbove_iff hl]
  by_cases hmem : c ∈ p :: l
  · rcases List.mem_cons.mp hmem with rfl | hcl
    · obtain ⟨h', hins, hself⟩ := insertChild_self hf c i
      refine ⟨h', hins, fun hn => absurd hmem hn, ?_⟩
      intro hlk
      exact absurd (hlk.ends c) (ChainEnds.not_of_loop hself)
    · obtain ⟨h', hins, hin, hnone⟩ := insertChild_ancestor hf hl hcl i
      refine ⟨h', hins, fun hn => absurd hmem hn, ?_⟩
      intro hlk
      have hsome := (hlk.mem_iff p c).mp hin
      rw [hnone] at hsome
      cases hsome
  · obtain ⟨h', hins, -⟩ := hf.insertChild_spec hl hmem i
    exact ⟨h', hins, fun _ => hf.insertChild hl hmem hp hc hins, fun _ => hmem⟩

/-- The step lemma: from a forest every operation returns, and it leaves a forest exactly
under the condition. -/
theorem Forest.exec_iff (hf : h.Forest) {op : LinkOp} (hr : op.InRange h) :
    ∃ h', op.exec h = some h' ∧ ((op.NotAbove h → h'.Forest) ∧
      (Linked h'.parent h'.children → op.NotAbove h)) := by
  cases op with
  | insertChild p c i => exact hf.insertChild_iff hr.1 hr.2 i
  | appendChild p c => exact hf.insertChild_iff hr.1 hr.2 _
  | removeFromParent c => exact ⟨_, rfl, fun _ => hf.removeFromParent c, fun _ => trivial⟩
  | removeChild p c => exact ⟨_, rfl, fun _ => hf.removeChild p c, fun _ => trivial⟩

theorem linkStep_forest {op : LinkOp} (hf : h.Forest) (hok : op.NotAbove h)
    (hs : linkStep h op h') : h'.Forest := by
  obtain ⟨h'', hexec, hkeep, -⟩ := hf.exec_iff hs.1
  rw [hs.2] at hexec
  cases hexec
  exact hkeep hok

theorem linkRun_forest {h₀ : Heap} (hu : h₀.Unlinked)
    (hrun : Run linkStep (fun h op => op.NotAbove h) h₀ h) : h.Forest :=
  hrun.invariant (fun _ _ _ hf hok hs => linkStep_forest hf hok hs) hu.forest

/-- Links in a run that inserts no layer below itself: both sides agree, no vector repeats a
layer, every chain ends, and with it `rootLayer`, `hasAncestor` and `prePaint`. The next
operation returns too, and it keeps the links consistent exactly if it does not insert a
layer below itself. -/
theorem linkRun_linked {h₀ : Heap} (hu : h₀.Unlinked)
    (hrun : Run linkStep (fun h op => op.NotAbove h) h₀ h) :
    ((∀ p c, c ∈ h.children p ↔ h.parent c = some p) ∧ (∀ p, (h.children p).Nodup) ∧
      ∀ x, ChainEnds h.parent x) ∧
    (∀ x, (h.rootLayer x).isSome = true) ∧
    (∀ x a, (h.hasAncestor x a).isSome = true) ∧
    (∀ x context force, (h.prePaint x context force).isSome = true) ∧
    ∀ op : LinkOp, op.InRange h → ∃ h', op.exec h = some h' ∧
      (op.NotAbove h ↔ Linked h'.parent h'.children) := by
  have hf := linkRun_forest hu hrun
  refine ⟨⟨hf.linked.mem_iff, hf.linked.nodup, hf.linked.ends⟩, hf.rootLayer_isSome,
    hf.hasAncestor_isSome, ?_, ?_⟩
  · intro x context force
    obtain ⟨h', context', hpp, -⟩ := prePaint_spec hf x context force
    rw [hpp]
    rfl
  · intro op hr
    obtain ⟨h', hexec, hkeep, hback⟩ := hf.exec_iff hr
    exact ⟨h', hexec, fun hok => (hkeep hok).linked, hback⟩

end

/-- `n` layers just constructed. -/
def fresh (n : Nat) : Heap := ⟨n, fun _ => {}⟩

theorem fresh_unlinked (n : Nat) : (fresh n).Unlinked := ⟨fun _ => rfl, fun _ => rfl⟩

end Heap

end

namespace Heap

open TranslationSkia

/-- Two layers appended to one another: the second call is refused by `setParent`, and layer 1
gets a child that has no parent. -/
theorem appendChild_ancestor_breaks_links : ¬ ∀ h₀ h : Heap, h₀.Unlinked →
    Run linkStep anyStep h₀ h → ((∀ p c, c ∈ h.children p ↔ h.parent c = some p) ∧
      (∀ p, (h.children p).Nodup) ∧ ∀ x, ChainEnds h.parent x) := by
  intro hall
  obtain ⟨h₁, hs₁⟩ : ∃ h₁, (fresh 2).appendChild 0 1 = some h₁ :=
    Option.isSome_iff_exists.mp (by decide)
  obtain ⟨h₂, hs₂⟩ : ∃ h₂, h₁.appendChild 1 0 = some h₂ := by
    have hsome : (((fresh 2).appendChild 0 1).bind fun h => h.appendChild 1 0).isSome = true := by
      decide
    rw [hs₁] at hsome
    exact Option.isSome_iff_exists.mp hsome
  have hn₁ : h₁.nextId = 2 := by
    have hn : ((fresh 2).appendChild 0 1).map Heap.nextId = some 2 := by decide
    rw [hs₁] at hn
    exact Option.some.inj hn
  have hlinks : (((fresh 2).appendChild 0 1).bind fun h => h.appendChild 1 0).map
      (fun h => (h.children 1, h.parent 0)) = some ([0], none) := by
    decide
  rw [hs₁, Option.bind_some, hs₂] at hlinks
  obtain ⟨hch, hpar⟩ := Prod.mk.inj (Option.some.inj hlinks)
  have hrun : Run linkStep anyStep (fresh 2) h₂ :=
    (Run.single (a := .appendChild 0 1) trivial ⟨⟨by decide, by decide⟩, hs₁⟩).tail
      (a := .appendChild 1 0) trivial ⟨by simp [LinkOp.InRange, hn₁], hs₂⟩
  have hiff := (hall _ _ (fresh_unlinked 2) hrun).1 1 0
  rw [hch, hpar] at hiff
  simp at hiff

theorem linkRun_linked_append : ∃ h : Heap, (fresh 2).appendChild 0 1 = some h ∧
    (∀ p c, c ∈ h.children p ↔ h.parent c = some p) := by
  obtain ⟨h, hs⟩ : ∃ h, (fresh 2).appendChild 0 1 = some h :=
    Option.isSome_iff_exists.mp (by decide)
  have hrun : Run linkStep (fun h op => op.NotAbove h) (fresh 2) h :=
    Run.single (a := .appendChild 0 1) ⟨by decide, by decide⟩ ⟨⟨by decide, by decide⟩, hs⟩
  exact ⟨h, hs, (linkRun_linked (fresh_unlinked 2) hrun).1.1⟩

end Heap

end ReactNativeSkia
