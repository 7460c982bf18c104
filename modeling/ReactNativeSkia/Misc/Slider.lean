import Mathlib.Algebra.Order.Round
import Mathlib.Algebra.Order.Field.Basic
import Mathlib.Data.Rat.Floor

/-!
# Sliders

The room that a slider has in its track is shared out over the values of a range and rounded to
whole numbers. The slider is at the start of its track for zero, at the end for the last value, and
in between for the others, in their order.
-/

namespace ReactNativeSkia

variable {α : Type*} [Field α] [LinearOrder α] [IsStrictOrderedRing α] [FloorRing α]
  {room track : ℤ} {range offset x y : α}

theorem round_mono (h : x ≤ y) : round x ≤ round y := by
  rw [round_eq, round_eq]
  exact Int.floor_le_floor (add_le_add_left h _)

/-- How far the slider has moved for a value of the range. -/
def sliderOffset (room : ℤ) (range offset : α) : ℤ := round (offset * ((room : α) / range))

theorem sliderOffset_zero : sliderOffset room range 0 = 0 := by
  rw [sliderOffset, zero_mul, round_zero]

theorem sliderOffset_range (h : 0 < range) : sliderOffset room range range = room := by
  rw [sliderOffset, mul_div_cancel₀ _ h.ne', round_intCast]

theorem sliderOffset_mono (hroom : 0 ≤ room) (hrange : 0 ≤ range) (h : x ≤ y) :
    sliderOffset room range x ≤ sliderOffset room range y := by
  apply round_mono
  exact mul_le_mul_of_nonneg_right h (div_nonneg (Int.cast_nonneg hroom) hrange)

/-- The slider stays within the room that it has. -/
theorem sliderOffset_mem (hroom : 0 ≤ room) (h0 : 0 ≤ offset) (hle : offset ≤ range) :
    0 ≤ sliderOffset room range offset ∧ sliderOffset room range offset ≤ room := by
  have hmono {x y : α} (h : x ≤ y) := sliderOffset_mono hroom (h0.trans hle) h
  constructor
  · exact sliderOffset_zero.ge.trans (hmono h0)
  · rcases (h0.trans hle).eq_or_lt with hzero | hpos
    · rw [sliderOffset, ← hzero, div_zero, mul_zero, round_zero]
      exact hroom
    · exact (hmono hle).trans (sliderOffset_range hpos).le

/-- The part of the track for a part of the whole is no longer than the track. -/
theorem round_part_le {part whole : α} (htrack : 0 ≤ track) (hwhole : 0 < whole)
    (hpart : part ≤ whole) : round ((track : α) / whole * part) ≤ track := by
  have hle : (track : α) / whole * part ≤ track := by
    calc (track : α) / whole * part
        ≤ track / whole * whole :=
          mul_le_mul_of_nonneg_left hpart (div_nonneg (Int.cast_nonneg htrack) hwhole.le)
      _ = track := div_mul_cancel₀ _ hwhole.ne'
  exact (round_mono hle).trans (round_intCast track).le

end ReactNativeSkia
