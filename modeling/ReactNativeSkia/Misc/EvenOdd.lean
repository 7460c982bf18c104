import Mathlib.Algebra.Order.Ring.Defs
import Mathlib.Tactic.Linarith
import Mathlib.Tactic.Ring

/-!
# Filling a closed path by the even-odd rule

A point is inside when the ray from it to the right crosses the path an odd number of times. An
edge counts from its upper end on and without its lower one, and so do the sides of a box; then
paths that share an edge share no point along it.
-/

namespace ReactNativeSkia

namespace EvenOdd

variable {K : Type*} [CommRing K] [LinearOrder K]

/-- The ray crosses the edge from `a` down to `b`. -/
def crossesDown (p a b : K × K) : Bool :=
  decide (a.2 ≤ p.2 ∧ p.2 < b.2 ∧ (p.1 - a.1) * (b.2 - a.2) < (p.2 - a.2) * (b.1 - a.1))

/-- The ray crosses the edge between `a` and `b`. -/
def crosses (p a b : K × K) : Bool := crossesDown p a b || crossesDown p b a

/-- Whether the ray crosses the open path an odd number of times. -/
def odd (p : K × K) : List (K × K) → Bool
  | [] => false
  | [_] => false
  | a :: b :: path => xor (crosses p a b) (odd p (b :: path))

/-- A path that ends where it starts. -/
def fills (p : K × K) (path : List (K × K)) : Bool := odd p path

theorem crosses_comm (p a b : K × K) : crosses p a b = crosses p b a := Bool.or_comm _ _

/-- A level edge is crossed by no ray. -/
theorem crosses_level (p : K × K) {a b : K × K} (h : a.2 = b.2) : crosses p a b = false := by
  have hempty : ∀ {x y : K × K}, x.2 = y.2 → crossesDown p x y = false := by
    intro x y hxy
    refine decide_eq_false ?_
    rw [hxy]
    exact fun hp => absurd hp.2.1 (not_lt.mpr hp.1)
  rw [crosses, hempty h, hempty h.symm, Bool.or_false]

/-- Only one direction of an edge counts. -/
theorem crosses_eq_crossesDown (p : K × K) {a b : K × K} (h : a.2 ≤ b.2) :
    crosses p a b = crossesDown p a b := by
  have hup : crossesDown p b a = false := by
    refine decide_eq_false ?_
    exact fun hp => absurd (lt_of_le_of_lt hp.1 hp.2.1) (not_lt.mpr h)
  rw [crosses, hup, Bool.or_false]

/-- The four edges of a quadrilateral. -/
theorem fills_quadrilateral (p a b c d : K × K) :
    fills p [a, b, c, d, a] =
      xor (crosses p a b) (xor (crosses p b c) (xor (crosses p c d) (crosses p d a))) := by
  simp [fills, odd]

section
variable [IsStrictOrderedRing K]

/-- An upright edge is crossed from its left. -/
theorem crossesDown_upright (p : K × K) {a b : K × K} (h : a.1 = b.1) :
    crossesDown p a b = decide (a.2 ≤ p.2 ∧ p.2 < b.2 ∧ p.1 < a.1) := by
  refine decide_eq_decide.mpr (and_congr_right fun htop => and_congr_right fun hbottom => ?_)
  have hpos : 0 < b.2 - a.2 := sub_pos.mpr (lt_of_le_of_lt htop hbottom)
  rw [← h, sub_self, mul_zero]
  constructor
  · intro hneg
    by_contra hle
    exact absurd hneg (not_lt.mpr (mul_nonneg (sub_nonneg.mpr (not_lt.mp hle)) hpos.le))
  · exact fun hlt => mul_neg_of_neg_of_pos (sub_neg.mpr hlt) hpos

end

end EvenOdd

end ReactNativeSkia
