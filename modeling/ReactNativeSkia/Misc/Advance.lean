import Mathlib.Data.Set.Finite.Basic
import Mathlib.Data.Set.Finite.Lattice
import Mathlib.Order.Preorder.Finite

/-!
# Sequences that stay or advance

A sequence each of whose steps stays where it is or goes strictly further by some measure. It
never comes back to what it has left, and with finitely many values it comes to rest.
-/

namespace ReactNativeSkia

variable {β κ : Type*} [LinearOrder κ]

/-- Each step stays or goes further. -/
def Advances (measure : β → κ) (f : ℕ → β) : Prop :=
  ∀ n, f (n + 1) = f n ∨ measure (f n) < measure (f (n + 1))

namespace Advances

variable {measure : β → κ} {f : ℕ → β} {i j : ℕ}

/-- The same holds of many steps. -/
theorem le (h : Advances measure f) (hij : i ≤ j) :
    f j = f i ∨ measure (f i) < measure (f j) := by
  induction j, hij using Nat.le_induction with
  | base => exact Or.inl rfl
  | succ j _ ih =>
    rcases h j with heq | hlt
    · rw [heq]
      exact ih
    · refine Or.inr ?_
      rcases ih with heq | hlt'
      · rwa [← heq]
      · exact hlt'.trans hlt

/-- With finitely many values the sequence comes to rest: at one with the greatest measure. -/
theorem eventually_stays (h : Advances measure f) (hfinite : (Set.range f).Finite) :
    ∃ n, ∀ i, n ≤ i → f i = f n := by
  obtain ⟨m, ⟨n, rfl⟩, hmax⟩ := hfinite.exists_maximalFor measure _ ⟨f 0, Set.mem_range_self 0⟩
  refine ⟨n, fun i hi => ?_⟩
  refine (h.le hi).resolve_right fun hlt => ?_
  exact not_lt.mpr (hmax (Set.mem_range_self i) hlt.le) hlt

end Advances

end ReactNativeSkia
