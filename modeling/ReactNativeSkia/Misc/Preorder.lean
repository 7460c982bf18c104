import ReactNativeSkia.Misc.Descent
import Mathlib.Data.List.Flatten

/-!
# Preorder

The nodes below a node, parents before children and earlier siblings before later ones. In
linked nodes the preorder lists every node once, and pruning the children lists prunes the
preorder without changing the order of what stays.
-/

namespace ReactNativeSkia

variable {ι : Type*} {children children' : ι → List ι} {x y : ι} {n : Nat}

/-- The preorder of `n` levels. -/
def preorder (children : ι → List ι) : Nat → ι → List ι
  | 0, _ => []
  | n + 1, x => x :: (children x).flatMap (preorder children n)

theorem mem_preorder (hd : DepthLt children n x) :
    y ∈ preorder children n x ↔ Below children x y := by
  induction n generalizing x with
  | zero => exact hd.elim
  | succ n ih =>
    rw [preorder, List.mem_cons, List.mem_flatMap, Below.cases_head_iff]
    exact or_congr Iff.rfl (exists_congr fun c => and_congr_right fun hc => ih (hd c hc))

theorem nodup_preorder {parent : ι → Option ι} (h : Linked parent children)
    (hd : DepthLt children n x) : (preorder children n x).Nodup := by
  induction n generalizing x with
  | zero => exact hd.elim
  | succ n ih =>
    rw [preorder, List.nodup_cons, List.nodup_flatMap]
    refine ⟨?_, fun c hc => ih (hd c hc), ?_⟩
    · intro hx
      obtain ⟨c, hc, hcx⟩ := List.mem_flatMap.mp hx
      exact h.not_below_of_child hc ((mem_preorder (hd c hc)).mp hcx)
    · -- the parts below two children have nothing in common
      apply List.Nodup.pairwise_of_forall_ne (h.nodup x)
      intro b hb c hc hne z hzb hzc
      exact hne (h.disjoint_children hb hc ((mem_preorder (hd b hb)).mp hzb)
        ((mem_preorder (hd c hc)).mp hzc))

/-- Children lists that agree below `x` give the same preorder. -/
theorem preorder_congr (heq : ∀ y, Below children x y → children' y = children y) :
    preorder children' n x = preorder children n x := by
  induction n generalizing x with
  | zero => rfl
  | succ n ih =>
    rw [preorder, preorder, heq x (Below.refl x)]
    refine congrArg (x :: ·) (List.flatMap_congr fun c hc => ih fun y hy => heq y (hy.head hc))

theorem preorder_sublist (hsub : ∀ x, (children' x).Sublist (children x)) :
    (preorder children' n x).Sublist (preorder children n x) := by
  induction n generalizing x with
  | zero => exact List.Sublist.refl _
  | succ n ih =>
    refine List.Sublist.cons_cons x ?_
    exact (List.Sublist.flatMap_right _ fun c _ => ih).trans ((hsub x).flatMap _)

end ReactNativeSkia
