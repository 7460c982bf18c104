import Mathlib.Order.Basic

/-!
# While loops

A loop with a bound on how often its condition is tested. What holds at its end follows from an
invariant, and that it ends from an invariant with a number that becomes smaller.
-/

namespace ReactNativeSkia

variable {σ : Type*} {cond : σ → Bool} {body : σ → σ}

/-- `none` if the condition still holds after `fuel` tests. -/
def whileLoop (cond : σ → Bool) (body : σ → σ) : ℕ → σ → Option σ
  | 0, _ => none
  | fuel + 1, s => if cond s then whileLoop cond body fuel (body s) else some s

/-- The invariant rule. -/
theorem whileLoop_invariant {I : σ → Prop} (keeps : ∀ s, I s → cond s = true → I (body s))
    {fuel : ℕ} {s t : σ} (h : whileLoop cond body fuel s = some t) (hs : I s) :
    I t ∧ cond t = false := by
  induction fuel generalizing s with
  | zero => simp [whileLoop] at h
  | succ fuel ih =>
    rw [whileLoop] at h
    split at h
    · rename_i hcond
      exact ih h (keeps s hs hcond)
    · rename_i hcond
      cases h
      exact ⟨hs, Bool.eq_false_iff.mpr hcond⟩

/-- The rule for termination: each round makes `variant` smaller. -/
theorem whileLoop_terminates {I : σ → Prop} (variant : σ → ℕ)
    (keeps : ∀ s, I s → cond s = true → I (body s) ∧ variant (body s) < variant s)
    {s : σ} (hs : I s) : ∃ fuel t, whileLoop cond body fuel s = some t := by
  induction hn : variant s using Nat.strongRecOn generalizing s with
  | _ n ih =>
    by_cases hcond : cond s = true
    · obtain ⟨hbody, hlt⟩ := keeps s hs hcond
      obtain ⟨fuel, t, ht⟩ := ih (variant (body s)) (hn ▸ hlt) hbody rfl
      exact ⟨fuel + 1, t, by rw [whileLoop, if_pos hcond, ht]⟩
    · exact ⟨1, s, by rw [whileLoop, if_neg hcond]⟩

end ReactNativeSkia
