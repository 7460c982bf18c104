import Mathlib.Data.List.Induction

/-!
# Updates against a fixed base

A sequence of values is applied one after the other to something that shows a function of them.
A value is applied only if it differs from a base, and the base is never moved along. So what is
shown in the end is that of the last value that differs from the base, and a return to the base
itself is not shown.
-/

namespace ReactNativeSkia

variable {α β : Type*} [DecidableEq α] (base : α) (show_ : α → β)

/-- The value is shown if it differs from the base. -/
def applyChanged (shown : β) (value : α) : β := if base ≠ value then show_ value else shown

variable {base : α} {show_ : α → β} {shown : β} {value : α} {values : List α}

@[simp] theorem applyChanged_base : applyChanged base show_ shown base = shown := by
  simp [applyChanged]

theorem applyChanged_of_ne (h : base ≠ value) :
    applyChanged base show_ shown value = show_ value :=
  if_pos h

/-- What has been shown last, of the values that differ from the base. -/
def lastChanged (base : α) (show_ : α → β) (shown : β) (values : List α) : β :=
  ((values.filter (base ≠ ·)).getLast?.map show_).getD shown

theorem foldl_applyChanged (values : List α) :
    values.foldl (applyChanged base show_) shown = lastChanged base show_ shown values := by
  induction values using List.reverseRecOn with
  | nil => rfl
  | append_singleton values value ih =>
    rw [List.foldl_append, List.foldl_cons, List.foldl_nil, ih]
    unfold lastChanged
    by_cases hchanged : base = value
    · subst hchanged
      simp
    · rw [applyChanged_of_ne hchanged, List.filter_append]
      simp [hchanged]

/-- The last value is shown in the end exactly if it differs from the base, or if what has been
shown last anyway is the same. -/
theorem foldl_applyChanged_eq_last (hlast : values.getLast? = some value) :
    values.foldl (applyChanged base show_) shown = show_ value ↔
      (value = base → lastChanged base show_ shown values = show_ value) := by
  rw [foldl_applyChanged]
  refine ⟨fun h _ => h, fun h => ?_⟩
  by_cases hbase : value = base
  · exact h hbase
  · obtain ⟨front, rfl⟩ := List.getLast?_eq_some_iff.mp hlast
    unfold lastChanged
    rw [List.filter_append]
    simp [Ne.symm hbase]

end ReactNativeSkia
