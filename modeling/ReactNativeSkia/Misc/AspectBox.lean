import Mathlib.Algebra.Order.Field.Basic
import Mathlib.Tactic.Linarith
import Mathlib.Tactic.Ring

/-!
# Boxes of an aspect ratio

Boxes with edges in an ordered field, boxes put at the middle or the corner of another one, and the
box of a ratio that has the width or the height of another one. Which of these two fits is decided
by the ratios; it is then the largest of its ratio that fits, and the other one the smallest that
does not leave anything out.
-/

namespace ReactNativeSkia

/-- A rectangle by its edges, `top` above `bottom`. -/
structure Box (K : Type*) where
  left : K
  top : K
  right : K
  bottom : K
  deriving DecidableEq, Repr

namespace Box

variable {K : Type*} {a b : Box K} {ratio w h : K}

section Edges

variable [Field K]

def xywh (x y w h : K) : Box K := ⟨x, y, x + w, y + h⟩

def width (b : Box K) : K := b.right - b.left

def height (b : Box K) : K := b.bottom - b.top

/-- The box of width `w` and height `h` around the middle of `b`. -/
def middle (b : Box K) (w h : K) : Box K :=
  xywh (b.left + (b.width - w) / 2) (b.top + (b.height - h) / 2) w h

/-- The middles coincide. -/
def Centred (a b : Box K) : Prop :=
  a.left + a.right = b.left + b.right ∧ a.top + a.bottom = b.top + b.bottom

/-- The left and the right edges coincide. -/
def SharesWidth (a b : Box K) : Prop := a.left = b.left ∧ a.right = b.right

/-- The top and the bottom edges coincide. -/
def SharesHeight (a b : Box K) : Prop := a.top = b.top ∧ a.bottom = b.bottom

@[simp] theorem width_xywh (x y w h : K) : (xywh x y w h).width = w := by
  simp [xywh, width]

@[simp] theorem height_xywh (x y w h : K) : (xywh x y w h).height = h := by
  simp [xywh, height]

@[simp] theorem width_middle (b : Box K) (w h : K) : (b.middle w h).width = w := by
  simp [middle]

@[simp] theorem height_middle (b : Box K) (w h : K) : (b.middle w h).height = h := by
  simp [middle]

theorem middle_width (b : Box K) (h : K) :
    b.middle b.width h = xywh b.left (b.top + (b.height - h) / 2) b.width h := by
  simp [middle]

theorem middle_height (b : Box K) (w : K) :
    b.middle w b.height = xywh (b.left + (b.width - w) / 2) b.top w b.height := by
  simp [middle]

end Edges

variable [Field K] [LinearOrder K] [IsStrictOrderedRing K]

/-! ## Places -/

/-- `a` lies in `b`. -/
def Within (a b : Box K) : Prop :=
  b.left ≤ a.left ∧ b.top ≤ a.top ∧ a.right ≤ b.right ∧ a.bottom ≤ b.bottom

/-- The room at the sides of a box at the middle. -/
theorem middle_eq (b : Box K) (w h : K) :
    b.middle w h =
      ⟨b.left + (b.width - w) / 2, b.top + (b.height - h) / 2,
        b.right - (b.width - w) / 2, b.bottom - (b.height - h) / 2⟩ := by
  simp only [middle, xywh, width, height, mk.injEq, true_and]
  constructor
  · ring
  · ring

theorem centred_middle (b : Box K) (w h : K) : (b.middle w h).Centred b := by
  rw [middle_eq]
  constructor
  · dsimp only
    ring
  · dsimp only
    ring

theorem middle_within_iff : (b.middle w h).Within b ↔ w ≤ b.width ∧ h ≤ b.height := by
  rw [middle_eq, Within]
  constructor
  · intro hin
    constructor
    · linarith only [hin.1]
    · linarith only [hin.2.1]
  · intro hle
    refine ⟨?_, ?_, ?_, ?_⟩
    · linarith only [hle.1]
    · linarith only [hle.2]
    · linarith only [hle.1]
    · linarith only [hle.2]

theorem within_middle_iff : b.Within (b.middle w h) ↔ b.width ≤ w ∧ b.height ≤ h := by
  rw [middle_eq, Within]
  constructor
  · intro hin
    constructor
    · linarith only [hin.1]
    · linarith only [hin.2.1]
  · intro hle
    refine ⟨?_, ?_, ?_, ?_⟩
    · linarith only [hle.1]
    · linarith only [hle.2]
    · linarith only [hle.1]
    · linarith only [hle.2]

theorem corner_within_iff :
    (xywh b.left b.top w h).Within b ↔ w ≤ b.width ∧ h ≤ b.height := by
  simp only [Within, xywh, width, height, le_refl, true_and, le_sub_iff_add_le']

theorem sharesWidth_middle (b : Box K) (h : K) : (b.middle b.width h).SharesWidth b := by
  simp [middle_eq, SharesWidth]

theorem sharesHeight_middle (b : Box K) (w : K) : (b.middle w b.height).SharesHeight b := by
  simp [middle_eq, SharesHeight]

theorem width_le_of_within (hab : a.Within b) : a.width ≤ b.width := by
  obtain ⟨hl, -, hr, -⟩ := hab
  exact sub_le_sub hr hl

theorem height_le_of_within (hab : a.Within b) : a.height ≤ b.height := by
  obtain ⟨-, ht, -, hb⟩ := hab
  exact sub_le_sub hb ht

/-! ## Ratios -/

/-- The box has an area. -/
def Positive (b : Box K) : Prop := 0 < b.width ∧ 0 < b.height

/-- The box has an area, and its sides have the ratio. -/
def HasRatio (b : Box K) (ratio : K) : Prop := b.Positive ∧ b.width / b.height = ratio

omit [IsStrictOrderedRing K] in
theorem width_eq_of_hasRatio (hb : b.HasRatio ratio) : b.width = b.height * ratio := by
  rw [← hb.2, mul_div_cancel₀ _ hb.1.2.ne']

theorem ratio_pos_of_hasRatio (hb : b.HasRatio ratio) : 0 < ratio := by
  rw [← hb.2]
  exact div_pos hb.1.1 hb.1.2

/-- Sides worked out from the width have the ratio. -/
theorem hasRatio_of_width (hratio : 0 < ratio) (hw : 0 < w) (hbw : b.width = w)
    (hbh : b.height = w / ratio) : b.HasRatio ratio := by
  rw [HasRatio, Positive, hbw, hbh]
  exact ⟨⟨hw, div_pos hw hratio⟩, div_div_cancel₀ hw.ne'⟩

/-- Sides worked out from the height have the ratio. -/
theorem hasRatio_of_height (hratio : 0 < ratio) (hh : 0 < h) (hbh : b.height = h)
    (hbw : b.width = h * ratio) : b.HasRatio ratio := by
  rw [HasRatio, Positive, hbw, hbh]
  exact ⟨⟨mul_pos hh hratio, hh⟩, mul_div_cancel_left₀ ratio hh.ne'⟩

theorem height_eq_of_hasRatio (hb : b.HasRatio ratio) : b.height = b.width / ratio := by
  rw [eq_div_iff (ratio_pos_of_hasRatio hb).ne', width_eq_of_hasRatio hb]

/-- A box as wide as `w` of at least its ratio is no higher. -/
theorem height_le_iff_ratio_le (hratio : 0 < ratio) (hh : 0 < h) :
    w / ratio ≤ h ↔ w / h ≤ ratio :=
  div_le_comm₀ hratio hh

/-- A box as high as `h` of at least its ratio is no narrower. -/
theorem width_le_iff_ratio_le (hh : 0 < h) : w ≤ h * ratio ↔ w / h ≤ ratio :=
  (div_le_iff₀' hh).symm

/-! ## The sides of the largest box and of the smallest -/

/-- Width and height of the largest box of a ratio in `b`. -/
def containSides (b : Box K) (ratio : K) : K × K :=
  if b.width / b.height ≤ ratio then (b.width, b.width / ratio)
  else (b.height * ratio, b.height)

/-- Width and height of the smallest box of a ratio around `b`. -/
def coverSides (b : Box K) (ratio : K) : K × K :=
  if b.width / b.height ≤ ratio then (b.height * ratio, b.height)
  else (b.width, b.width / ratio)

/-- No box of the ratio in `b` has longer sides. -/
theorem le_containSides (ha : a.HasRatio ratio) (hab : a.Within b) :
    a.width ≤ (b.containSides ratio).1 ∧ a.height ≤ (b.containSides ratio).2 := by
  have hwidth := width_le_of_within hab
  have hheight := height_le_of_within hab
  unfold containSides
  split
  · refine ⟨hwidth, ?_⟩
    rw [height_eq_of_hasRatio ha]
    exact div_le_div_of_nonneg_right hwidth (ratio_pos_of_hasRatio ha).le
  · refine ⟨?_, hheight⟩
    rw [width_eq_of_hasRatio ha]
    exact mul_le_mul_of_nonneg_right hheight (ratio_pos_of_hasRatio ha).le

/-- No box of the ratio around `b` has shorter sides. -/
theorem coverSides_le (ha : a.HasRatio ratio) (hab : b.Within a) :
    (b.coverSides ratio).1 ≤ a.width ∧ (b.coverSides ratio).2 ≤ a.height := by
  have hwidth := width_le_of_within hab
  have hheight := height_le_of_within hab
  unfold coverSides
  split
  · refine ⟨?_, hheight⟩
    rw [width_eq_of_hasRatio ha]
    exact mul_le_mul_of_nonneg_right hheight (ratio_pos_of_hasRatio ha).le
  · refine ⟨hwidth, ?_⟩
    rw [height_eq_of_hasRatio ha]
    exact div_le_div_of_nonneg_right hwidth (ratio_pos_of_hasRatio ha).le

section Sides

variable (hw : 0 < b.width) (hh : 0 < b.height) (hratio : 0 < ratio)

include hh hratio

theorem containSides_le :
    (b.containSides ratio).1 ≤ b.width ∧ (b.containSides ratio).2 ≤ b.height := by
  unfold containSides
  split
  · rename_i hle
    exact ⟨le_rfl, (height_le_iff_ratio_le hratio hh).mpr hle⟩
  · rename_i hle
    have hnot := mt (width_le_iff_ratio_le hh).mp hle
    exact ⟨(not_le.mp hnot).le, le_rfl⟩

theorem le_coverSides :
    b.width ≤ (b.coverSides ratio).1 ∧ b.height ≤ (b.coverSides ratio).2 := by
  unfold coverSides
  split
  · rename_i hle
    exact ⟨(width_le_iff_ratio_le hh).mpr hle, le_rfl⟩
  · rename_i hle
    have hnot := mt (height_le_iff_ratio_le hratio hh).mp hle
    exact ⟨le_rfl, (not_le.mp hnot).le⟩

include hw

theorem hasRatio_of_containSides (haw : a.width = (b.containSides ratio).1)
    (hah : a.height = (b.containSides ratio).2) : a.HasRatio ratio := by
  unfold containSides at haw hah
  split at haw
  · rename_i hle
    rw [if_pos hle] at hah
    exact hasRatio_of_width hratio hw haw hah
  · rename_i hle
    rw [if_neg hle] at hah
    exact hasRatio_of_height hratio hh hah haw

theorem hasRatio_of_coverSides (haw : a.width = (b.coverSides ratio).1)
    (hah : a.height = (b.coverSides ratio).2) : a.HasRatio ratio := by
  unfold coverSides at haw hah
  split at haw
  · rename_i hle
    rw [if_pos hle] at hah
    exact hasRatio_of_height hratio hh hah haw
  · rename_i hle
    rw [if_neg hle] at hah
    exact hasRatio_of_width hratio hw haw hah

end Sides

end Box

end ReactNativeSkia
