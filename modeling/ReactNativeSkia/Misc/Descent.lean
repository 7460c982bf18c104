import Mathlib.Data.Finite.Defs
import Mathlib.Order.WellFounded
import Mathlib.Data.Set.Finite.Basic
import Mathlib.Order.Preorder.Finite
import ReactNativeSkia.Misc.ParentForest

/-!
# Paths downwards that end

By the children lists of a node the paths downwards from it may share nodes, and they may run in a
circle. They have a common bound if and only if they end; if only finitely many nodes lie below,
that is if none of these lies below a child of its own.
-/

namespace ReactNativeSkia

variable {ι : Type*} {children children' : ι → List ι} {n m : Nat} {a c x : ι}

namespace DepthLt

theorem succ (h : DepthLt children n x) : DepthLt children (n + 1) x := by
  induction n generalizing x with
  | zero => exact h.elim
  | succ n ih => exact fun c hc => ih (h c hc)

theorem mono (h : DepthLt children n x) (hle : n ≤ m) : DepthLt children m x := by
  induction m, hle using Nat.le_induction with
  | base => exact h
  | succ m _ ih => exact ih.succ

theorem child (h : DepthLt children n x) (hc : c ∈ children x) : DepthLt children n c := by
  cases n with
  | zero => exact h.elim
  | succ n => exact (h c hc).succ

theorem below (h : DepthLt children n a) (hb : Below children a x) : DepthLt children n x := by
  induction hb with
  | refl => exact h
  | tail _ hc ih => exact ih.child hc

theorem of_subset (hsub : ∀ x, ∀ c ∈ children' x, c ∈ children x) (h : DepthLt children n x) :
    DepthLt children' n x := by
  induction n generalizing x with
  | zero => exact h
  | succ n ih =>
    intro c hc
    exact ih (h c (hsub x c hc))

/-- A circle has paths of every length. -/
theorem not_below_child (h : DepthLt children n x) (hc : c ∈ children x) :
    ¬ Below children c x := by
  intro hb
  induction n with
  | zero => exact h
  | succ n ih => exact ih ((h c hc).below hb)

end DepthLt

/-- No node below `a` lies below a child of its own. -/
def NoCircle (children : ι → List ι) (a : ι) : Prop :=
  ∀ x, Below children a x → ∀ c ∈ children x, ¬ Below children c x

theorem DepthLt.noCircle (h : DepthLt children n a) : NoCircle children a :=
  fun _ hx _ hc => (h.below hx).not_below_child hc

/-- The children of a node have a common bound if each has one. -/
theorem exists_depthLt_of_children (h : ∀ c ∈ children x, ∃ n, DepthLt children n c) :
    ∃ n, DepthLt children n x := by
  suffices ∀ cs : List ι, (∀ c ∈ cs, ∃ n, DepthLt children n c) →
      ∃ n, ∀ c ∈ cs, DepthLt children n c by
    obtain ⟨n, hn⟩ := this (children x) h
    exact ⟨n + 1, hn⟩
  intro cs hcs
  induction cs with
  | nil => exact ⟨0, by simp⟩
  | cons c cs ih =>
    obtain ⟨n, hn⟩ := hcs c List.mem_cons_self
    obtain ⟨m, hm⟩ := ih fun d hd => hcs d (List.mem_cons_of_mem _ hd)
    refine ⟨max n m, fun d hd => ?_⟩
    rcases List.mem_cons.mp hd with rfl | hd
    · exact hn.mono (Nat.le_max_left _ _)
    · exact (hm d hd).mono (Nat.le_max_right _ _)

/-- Among finitely many nodes the paths downwards are bounded unless there is a circle. -/
theorem NoCircle.exists_depthLt (h : NoCircle children a)
    (hfinite : {x | Below children a x}.Finite) : ∃ n, DepthLt children n a := by
  have : Finite {x // Below children a x} := hfinite.to_subtype
  let strictly (x y : {x // Below children a x}) : Prop :=
    ∃ c ∈ children y.1, Below children c x.1
  have htrans : IsTrans _ strictly := by
    refine ⟨fun x y z ⟨c, hc, hcx⟩ ⟨d, hd, hdy⟩ => ⟨d, hd, ?_⟩⟩
    exact hdy.trans (hcx.head hc)
  have hirrefl : Std.Irrefl strictly := ⟨fun x ⟨c, hc, hcx⟩ => h x.1 x.2 c hc hcx⟩
  have hwf : WellFounded strictly := Finite.wellFounded_of_trans_of_irrefl strictly
  suffices ∀ x : {x // Below children a x}, ∃ n, DepthLt children n x.1 from
    this ⟨a, Below.refl a⟩
  intro x
  induction x using hwf.induction with
  | h x ih =>
    refine exists_depthLt_of_children fun c hc => ?_
    exact ih ⟨c, x.2.tail hc⟩ ⟨c, hc, Below.refl c⟩

theorem exists_depthLt_iff (hfinite : {x | Below children a x}.Finite) :
    (∃ n, DepthLt children n a) ↔ NoCircle children a :=
  ⟨fun ⟨_, h⟩ => h.noCircle, fun h => h.exists_depthLt hfinite⟩

end ReactNativeSkia
