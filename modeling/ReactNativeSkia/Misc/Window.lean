import Mathlib.Algebra.Order.Group.Defs
import Mathlib.Algebra.Order.Group.Lattice
import Mathlib.Tactic.Abel

/-!
# Windows on a line

A window of a fixed length looks from an offset at a content that begins at zero. It shows a span
if all of it is in the window, and it meets the span if a part of it is. Clamping the offset to
the content hides nothing that was shown.
-/

namespace ReactNativeSkia

variable {α : Type*} [AddCommGroup α] [LinearOrder α] {length content offset next a b : α}

/-- The window has all of the span from `a` to `b`. -/
def Shows (length offset a b : α) : Prop := offset ≤ a ∧ b ≤ offset + length

/-- The window has a part of the half-open span from `a` to `b`. -/
def Meets (length offset a b : α) : Prop := max offset a < min (offset + length) b

instance (length offset a b : α) : Decidable (Shows length offset a b) :=
  inferInstanceAs (Decidable (_ ∧ _))

instance (length offset a b : α) : Decidable (Meets length offset a b) :=
  inferInstanceAs (Decidable (_ < _))

/-- The nearest offset at which the window does not leave the content. -/
def clampOffset (length content offset : α) : α := min (max 0 offset) (content - length)

/-- A window as long as the content shows all of it. -/
theorem shows_all (h : content ≤ length) (ha : 0 ≤ a) (hb : b ≤ content) : Shows length 0 a b :=
  ⟨ha, by rw [zero_add]; exact hb.trans h⟩

variable [IsOrderedAddMonoid α]

/-- The window with the start of a span at its start. -/
theorem shows_start (h : b - a ≤ length) : Shows length a a b :=
  ⟨le_rfl, sub_le_iff_le_add'.mp h⟩

/-- The window with the end of a span at its end. -/
theorem shows_end (h : b - a ≤ length) : Shows length (b - length) a b :=
  ⟨sub_le_comm.mp h, (sub_add_cancel b length).ge⟩

/-- Clamping hides nothing of the content that was shown. -/
theorem Shows.clampOffset (h : Shows length offset a b) (ha : 0 ≤ a) (hb : b ≤ content) :
    Shows length (clampOffset length content offset) a b := by
  constructor
  · exact (min_le_left _ _).trans (max_le ha h.1)
  · rw [← sub_le_iff_le_add]
    refine le_min ?_ (sub_le_sub_right hb length)
    exact (sub_le_iff_le_add.mpr h.2).trans (le_max_right 0 offset)

theorem meets_iff :
    Meets length offset a b ↔ 0 < length ∧ a < b ∧ offset < b ∧ a < offset + length := by
  unfold Meets
  rw [max_lt_iff, lt_min_iff, lt_min_iff, lt_add_iff_pos_right]
  constructor
  · rintro ⟨⟨hlength, hoffset⟩, hstart, hspan⟩
    exact ⟨hlength, hspan, hoffset, hstart⟩
  · rintro ⟨hlength, hspan, hoffset, hstart⟩
    exact ⟨⟨hlength, hoffset⟩, hstart, hspan⟩

/-- A span that fits into the window is met if the window begins before its end and ends after
its start. -/
theorem meets_iff_of_fits (hfits : b - a ≤ length) :
    Meets length offset a b ↔ a < b ∧ offset < b ∧ a < offset + length := by
  rw [meets_iff]
  refine ⟨And.right, fun h => ⟨?_, h⟩⟩
  exact (sub_pos.mpr h.1).trans_le hfits

/-- Forward to an offset beyond the start of the span, or to the last one: the window does not end
before the span, so it meets the span unless it begins after it. -/
theorem meets_forward_iff (hfits : b - a ≤ length) (hnext : a < next) (hb : b ≤ content) :
    Meets length (min (content - length) next) a b ↔
      a < b ∧ (next < b ∨ content - length < b) := by
  rw [meets_iff_of_fits hfits, min_lt_iff]
  constructor
  · rintro ⟨hspan, hbegins, -⟩
    exact ⟨hspan, hbegins.symm⟩
  · rintro ⟨hspan, hbegins⟩
    refine ⟨hspan, hbegins.symm, ?_⟩
    have hlength : 0 < length := (sub_pos.mpr hspan).trans_le hfits
    rw [← sub_lt_iff_lt_add, lt_min_iff]
    constructor
    · exact sub_lt_sub_right (hspan.trans_le hb) length
    · exact (sub_lt_self a hlength).trans hnext

/-- Backward to an offset before the span: the window meets the span unless it ends before it. -/
theorem meets_backward_iff (hfits : b - a ≤ length) (hnext : next < a) :
    Meets length next a b ↔ a < b ∧ a - length < next := by
  rw [meets_iff_of_fits hfits, sub_lt_iff_lt_add]
  constructor
  · rintro ⟨hspan, -, hends⟩
    exact ⟨hspan, hends⟩
  · rintro ⟨hspan, hends⟩
    exact ⟨hspan, hnext.trans hspan, hends⟩

end ReactNativeSkia
