import ReactNativeSkia.Views.DrawUtils
import Mathlib.Tactic.Linarith
import Mathlib.Data.Rat.Floor

/-!
# What backgrounds and borders paint

The border is mitred: each corner is cut by the line from the corner of the frame to the corner of
the content, and each side gets what is on its side of the two cuts. The four discrete paths fill
these parts and nothing else, and the stroked rect of a uniform border fills their union.
-/

namespace ReactNativeSkia

namespace RSkDrawUtils

variable {frame : SkRect} {widths : RectangleEdges ℚ} {p : Point}

/-- The part of the frame that belongs to a side of the border. -/
def InSide (frame : SkRect) (widths : RectangleEdges ℚ) (p : Point) : BorderEdges → Prop
  | .TopEdge => frame.top ≤ p.2 ∧ p.2 < frame.top + widths.top ∧
      (p.2 - frame.top) * widths.left ≤ (p.1 - frame.left) * widths.top ∧
      (p.2 - frame.top) * widths.right < (frame.right - p.1) * widths.top
  | .BottomEdge => frame.bottom - widths.bottom ≤ p.2 ∧ p.2 < frame.bottom ∧
      (frame.bottom - p.2) * widths.left ≤ (p.1 - frame.left) * widths.bottom ∧
      (frame.bottom - p.2) * widths.right < (frame.right - p.1) * widths.bottom
  | .LeftEdge => frame.top ≤ p.2 ∧ p.2 < frame.bottom ∧ frame.left ≤ p.1 ∧
      p.1 < frame.left + widths.left ∧
      (p.2 < frame.top + widths.top →
        (p.1 - frame.left) * widths.top < (p.2 - frame.top) * widths.left) ∧
      (frame.bottom - widths.bottom ≤ p.2 →
        (p.1 - frame.left) * widths.bottom < (frame.bottom - p.2) * widths.left)
  | .RightEdge => frame.top ≤ p.2 ∧ p.2 < frame.bottom ∧ frame.right - widths.right ≤ p.1 ∧
      p.1 < frame.right ∧
      (p.2 < frame.top + widths.top →
        (frame.right - p.1) * widths.top ≤ (p.2 - frame.top) * widths.right) ∧
      (frame.bottom - widths.bottom ≤ p.2 →
        (frame.right - p.1) * widths.bottom ≤ (frame.bottom - p.2) * widths.right)

/-- The frame without its border. -/
def content (frame : SkRect) (widths : RectangleEdges ℚ) : SkRect :=
  ⟨frame.left + widths.left, frame.top + widths.top, frame.right - widths.right,
    frame.bottom - widths.bottom⟩

/-- The border has room in the frame. -/
structure Fits (frame : SkRect) (widths : RectangleEdges ℚ) : Prop where
  left : 0 ≤ widths.left
  top : 0 ≤ widths.top
  right : 0 ≤ widths.right
  bottom : 0 ≤ widths.bottom
  horizontal : widths.left + widths.right ≤ frame.right - frame.left
  vertical : widths.top + widths.bottom ≤ frame.bottom - frame.top

/-! ## The cuts of the corners -/

section
variable (frame : SkRect) (widths : RectangleEdges ℚ) (p : Point)

theorem crosses_topLeft (h : 0 ≤ widths.top) :
    EvenOdd.crosses p (frame.left, frame.top) (frame.left + widths.left, frame.top + widths.top) =
      decide ((frame.top ≤ p.2 ∧ p.2 < frame.top + widths.top) ∧
        (p.1 - frame.left) * widths.top < (p.2 - frame.top) * widths.left) := by
  rw [EvenOdd.crosses_eq_crossesDown p (by simpa using h), EvenOdd.crossesDown]
  simp only [add_sub_cancel_left, and_assoc]

theorem crosses_topRight (h : 0 ≤ widths.top) :
    EvenOdd.crosses p (frame.right, frame.top)
        (frame.right - widths.right, frame.top + widths.top) =
      decide ((frame.top ≤ p.2 ∧ p.2 < frame.top + widths.top) ∧
        (p.2 - frame.top) * widths.right < (frame.right - p.1) * widths.top) := by
  rw [EvenOdd.crosses_eq_crossesDown p (by simpa using h), EvenOdd.crossesDown]
  refine decide_eq_decide.mpr ?_
  rw [and_assoc]
  refine and_congr_right fun _ => and_congr_right fun _ => ?_
  constructor <;> intro hlt <;> linarith

theorem crosses_bottomLeft (h : 0 ≤ widths.bottom) :
    EvenOdd.crosses p (frame.left + widths.left, frame.bottom - widths.bottom)
        (frame.left, frame.bottom) =
      decide ((frame.bottom - widths.bottom ≤ p.2 ∧ p.2 < frame.bottom) ∧
        (p.1 - frame.left) * widths.bottom < (frame.bottom - p.2) * widths.left) := by
  rw [EvenOdd.crosses_eq_crossesDown p (by simpa using h), EvenOdd.crossesDown]
  refine decide_eq_decide.mpr ?_
  rw [and_assoc]
  refine and_congr_right fun _ => and_congr_right fun _ => ?_
  constructor <;> intro hlt <;> linarith

theorem crosses_bottomRight (h : 0 ≤ widths.bottom) :
    EvenOdd.crosses p (frame.right - widths.right, frame.bottom - widths.bottom)
        (frame.right, frame.bottom) =
      decide ((frame.bottom - widths.bottom ≤ p.2 ∧ p.2 < frame.bottom) ∧
        (frame.bottom - p.2) * widths.right < (frame.right - p.1) * widths.bottom) := by
  rw [EvenOdd.crosses_eq_crossesDown p (by simpa using h), EvenOdd.crossesDown]
  refine decide_eq_decide.mpr ?_
  rw [and_assoc]
  refine and_congr_right fun _ => and_congr_right fun _ => ?_
  constructor <;> intro hlt <;> linarith

theorem crosses_upright (x top bottom : ℚ) (h : top ≤ bottom) :
    EvenOdd.crosses p (x, top) (x, bottom) = decide (top ≤ p.2 ∧ p.2 < bottom ∧ p.1 < x) := by
  rw [EvenOdd.crosses_eq_crossesDown p h]
  exact EvenOdd.crossesDown_upright p rfl

end

/-- On the level of the top side its left cut is left of its right one. -/
theorem Fits.top_cuts (hf : Fits frame widths) (hp : p.2 < frame.top + widths.top)
    (hleft : (p.1 - frame.left) * widths.top < (p.2 - frame.top) * widths.left) :
    (p.2 - frame.top) * widths.right < (frame.right - p.1) * widths.top := by
  have hroom : (widths.left + widths.right) * widths.top ≤
      (frame.right - frame.left) * widths.top :=
    mul_le_mul_of_nonneg_right hf.horizontal hf.top
  have hdepth : (p.2 - frame.top) * (widths.left + widths.right) ≤
      widths.top * (widths.left + widths.right) :=
    mul_le_mul_of_nonneg_right (by linarith) (add_nonneg hf.left hf.right)
  linarith

theorem Fits.bottom_cuts (hf : Fits frame widths) (hp : frame.bottom - widths.bottom ≤ p.2)
    (hleft : (p.1 - frame.left) * widths.bottom < (frame.bottom - p.2) * widths.left) :
    (frame.bottom - p.2) * widths.right < (frame.right - p.1) * widths.bottom := by
  have hroom : (widths.left + widths.right) * widths.bottom ≤
      (frame.right - frame.left) * widths.bottom :=
    mul_le_mul_of_nonneg_right hf.horizontal hf.bottom
  have hdepth : (frame.bottom - p.2) * (widths.left + widths.right) ≤
      widths.bottom * (widths.left + widths.right) :=
    mul_le_mul_of_nonneg_right (by linarith) (add_nonneg hf.left hf.right)
  linarith

/-! ## The discrete paths -/

theorem xor_decide_iff {a b : Prop} [Decidable a] [Decidable b] (h : b → a) :
    xor (decide a) (decide b) = true ↔ a ∧ ¬b := by
  by_cases ha : a <;> by_cases hb : b <;> simp_all

theorem fills_topEdge (hf : Fits frame widths) :
    EvenOdd.fills p (createPath (pathMetrics .TopEdge frame widths)) = true ↔
      InSide frame widths p .TopEdge := by
  simp only [createPath, pathMetrics]
  rw [EvenOdd.fills_quadrilateral, EvenOdd.crosses_level p (by rfl : (frame.left, frame.top).2 =
      (frame.right, frame.top).2), crosses_topRight frame widths p hf.top,
    EvenOdd.crosses_level p (by rfl : (frame.right - widths.right, frame.top + widths.top).2 =
      (frame.left + widths.left, frame.top + widths.top).2), EvenOdd.crosses_comm,
    crosses_topLeft frame widths p hf.top, Bool.false_xor, Bool.false_xor, xor_decide_iff]
  · simp only [InSide]
    constructor
    · rintro ⟨⟨hband, hright⟩, hleft⟩
      exact ⟨hband.1, hband.2, not_lt.mp fun h => hleft ⟨hband, h⟩, hright⟩
    · rintro ⟨htop, hbottom, hleft, hright⟩
      exact ⟨⟨⟨htop, hbottom⟩, hright⟩, fun h => absurd h.2 (not_lt.mpr hleft)⟩
  · exact fun h => ⟨h.1, hf.top_cuts h.1.2 h.2⟩

theorem fills_bottomEdge (hf : Fits frame widths) :
    EvenOdd.fills p (createPath (pathMetrics .BottomEdge frame widths)) = true ↔
      InSide frame widths p .BottomEdge := by
  simp only [createPath, pathMetrics]
  rw [EvenOdd.fills_quadrilateral, EvenOdd.crosses_level p (by rfl :
      (frame.left, frame.bottom).2 = (frame.right, frame.bottom).2),
    EvenOdd.crosses_comm p (frame.right, frame.bottom),
    crosses_bottomRight frame widths p hf.bottom,
    EvenOdd.crosses_level p (by rfl :
      (frame.right - widths.right, frame.bottom - widths.bottom).2 =
        (frame.left + widths.left, frame.bottom - widths.bottom).2),
    crosses_bottomLeft frame widths p hf.bottom, Bool.false_xor, Bool.false_xor, xor_decide_iff]
  · simp only [InSide]
    constructor
    · rintro ⟨⟨hband, hright⟩, hleft⟩
      exact ⟨hband.1, hband.2, not_lt.mp fun h => hleft ⟨hband, h⟩, hright⟩
    · rintro ⟨htop, hbottom, hleft, hright⟩
      exact ⟨⟨⟨htop, hbottom⟩, hright⟩, fun h => absurd h.2 (not_lt.mpr hleft)⟩
  · exact fun h => ⟨h.1, hf.bottom_cuts h.1.1 h.2⟩

/-- A point left of the frame is left of the cuts. -/
theorem cut_of_lt {x left depth width room : ℚ} (hx : x < left) (hroom : 0 < room)
    (hdepth : 0 ≤ depth) (hwidth : 0 ≤ width) : (x - left) * room < depth * width :=
  lt_of_lt_of_le (mul_neg_of_neg_of_pos (sub_neg.mpr hx) hroom) (mul_nonneg hdepth hwidth)

/-- A point left of a cut is within the width of the side. -/
theorem lt_of_cut {x left depth width room : ℚ} (hcut : (x - left) * room < depth * width)
    (hroom : 0 < room) (hdepth : depth ≤ room) (hwidth : 0 ≤ width) : x < left + width := by
  have h : (x - left) * room < width * room :=
    lt_of_lt_of_le hcut (by linarith [mul_le_mul_of_nonneg_right hdepth hwidth])
  linarith [lt_of_mul_lt_mul_right h hroom.le]

theorem fills_leftEdge (hf : Fits frame widths) :
    EvenOdd.fills p (createPath (pathMetrics .LeftEdge frame widths)) = true ↔
      InSide frame widths p .LeftEdge := by
  have hl := hf.left
  have ht := hf.top
  have hb := hf.bottom
  have hv := hf.vertical
  simp only [createPath, pathMetrics]
  rw [EvenOdd.fills_quadrilateral, crosses_upright p _ _ _ (by linarith),
    EvenOdd.crosses_comm p (frame.left, frame.bottom),
    crosses_bottomLeft frame widths p hf.bottom,
    EvenOdd.crosses_comm p (frame.left + widths.left, frame.bottom - widths.bottom),
    crosses_upright p _ _ _ (by linarith), EvenOdd.crosses_comm p _ (frame.left, frame.top),
    crosses_topLeft frame widths p hf.top]
  simp only [InSide]
  by_cases htop : frame.top ≤ p.2
  · by_cases hcorner : p.2 < frame.top + widths.top
    · have hbottom : p.2 < frame.bottom := by linarith
      have hmid : ¬ frame.top + widths.top ≤ p.2 := not_le.mpr hcorner
      have hend : ¬ frame.bottom - widths.bottom ≤ p.2 := by linarith
      simp only [htop, hcorner, hbottom, hmid, hend, true_and, false_and, decide_false,
        Bool.false_xor, true_implies, false_implies, and_true, Bool.xor_comm (decide (p.1 < _))]
      rw [xor_decide_iff fun h => cut_of_lt h (by linarith) (by linarith) hl]
      constructor
      · rintro ⟨hcut, hx⟩
        exact ⟨not_lt.mp hx, lt_of_cut hcut (by linarith) (by linarith) hl, hcut⟩
      · rintro ⟨hx, -, hcut⟩
        exact ⟨hcut, not_lt.mpr hx⟩
    · have hmid : frame.top + widths.top ≤ p.2 := not_lt.mp hcorner
      by_cases hend : frame.bottom - widths.bottom ≤ p.2
      · by_cases hbottom : p.2 < frame.bottom
        · have hnot : ¬ p.2 < frame.bottom - widths.bottom := not_lt.mpr hend
          simp only [htop, hcorner, hbottom, hmid, hend, hnot, true_and, false_and, and_false,
            decide_false, Bool.xor_false, true_implies, false_implies, and_true,
            Bool.xor_comm (decide (p.1 < _))]
          rw [xor_decide_iff fun h => cut_of_lt h (by linarith) (by linarith) hl]
          constructor
          · rintro ⟨hcut, hx⟩
            exact ⟨not_lt.mp hx, lt_of_cut hcut (by linarith) (by linarith) hl, hcut⟩
          · rintro ⟨hx, -, hcut⟩
            exact ⟨hcut, not_lt.mpr hx⟩
        · have hnot : ¬ p.2 < frame.bottom - widths.bottom := not_lt.mpr hend
          simp [hcorner, hbottom, hnot]
      · have hbottom : p.2 < frame.bottom := by linarith
        have hin : p.2 < frame.bottom - widths.bottom := not_le.mp hend
        simp only [htop, hcorner, hbottom, hmid, hend, hin, true_and, false_and, and_false,
          decide_false, Bool.xor_false, Bool.false_xor, false_implies, and_true,
          Bool.xor_comm (decide (p.1 < frame.left))]
        rw [xor_decide_iff fun h => by linarith, not_lt]
        exact and_comm
  · have hend : ¬ frame.bottom - widths.bottom ≤ p.2 := by linarith
    have hmid : ¬ frame.top + widths.top ≤ p.2 := by linarith
    simp [htop, hend, hmid]

/-- A point left of a cut of the right side is left of the frame's edge. -/
theorem lt_of_cut_right {x right depth width room : ℚ}
    (hcut : depth * width < (right - x) * room) (hroom : 0 < room) (hdepth : 0 ≤ depth)
    (hwidth : 0 ≤ width) : x < right := by
  have h : 0 < (right - x) * room := lt_of_le_of_lt (mul_nonneg hdepth hwidth) hcut
  linarith [(mul_pos_iff_of_pos_right hroom).mp h]

theorem le_of_not_cut_right {x right depth width room : ℚ}
    (hcut : (right - x) * room ≤ depth * width) (hroom : 0 < room) (hdepth : depth ≤ room)
    (hwidth : 0 ≤ width) : right - width ≤ x := by
  have h : (right - x) * room ≤ width * room :=
    hcut.trans (by linarith [mul_le_mul_of_nonneg_right hdepth hwidth])
  linarith [le_of_mul_le_mul_right h hroom]

theorem fills_rightEdge (hf : Fits frame widths) :
    EvenOdd.fills p (createPath (pathMetrics .RightEdge frame widths)) = true ↔
      InSide frame widths p .RightEdge := by
  have hr := hf.right
  have ht := hf.top
  have hb := hf.bottom
  have hv := hf.vertical
  simp only [createPath, pathMetrics]
  rw [EvenOdd.fills_quadrilateral, crosses_upright p _ _ _ (by linarith),
    EvenOdd.crosses_comm p (frame.right, frame.bottom),
    crosses_bottomRight frame widths p hf.bottom,
    EvenOdd.crosses_comm p (frame.right - widths.right, frame.bottom - widths.bottom),
    crosses_upright p _ _ _ (by linarith), EvenOdd.crosses_comm p _ (frame.right, frame.top),
    crosses_topRight frame widths p hf.top]
  simp only [InSide]
  by_cases htop : frame.top ≤ p.2
  · by_cases hcorner : p.2 < frame.top + widths.top
    · have hbottom : p.2 < frame.bottom := by linarith
      have hmid : ¬ frame.top + widths.top ≤ p.2 := not_le.mpr hcorner
      have hend : ¬ frame.bottom - widths.bottom ≤ p.2 := by linarith
      simp only [htop, hcorner, hbottom, hmid, hend, true_and, false_and, decide_false,
        Bool.false_xor, true_implies, false_implies, and_true]
      rw [xor_decide_iff fun h => lt_of_cut_right h (by linarith) (by linarith) hr, not_lt]
      constructor
      · rintro ⟨hx, hcut⟩
        exact ⟨le_of_not_cut_right hcut (by linarith) (by linarith) hr, hx, hcut⟩
      · exact fun h => h.2
    · have hmid : frame.top + widths.top ≤ p.2 := not_lt.mp hcorner
      by_cases hend : frame.bottom - widths.bottom ≤ p.2
      · by_cases hbottom : p.2 < frame.bottom
        · have hnot : ¬ p.2 < frame.bottom - widths.bottom := not_lt.mpr hend
          simp only [htop, hcorner, hbottom, hmid, hend, hnot, true_and, false_and, and_false,
            decide_false, Bool.xor_false, true_implies, false_implies]
          rw [xor_decide_iff fun h => lt_of_cut_right h (by linarith) (by linarith) hr, not_lt]
          constructor
          · rintro ⟨hx, hcut⟩
            exact ⟨le_of_not_cut_right hcut (by linarith) (by linarith) hr, hx, hcut⟩
          · exact fun h => h.2
        · have hnot : ¬ p.2 < frame.bottom - widths.bottom := not_lt.mpr hend
          simp [hcorner, hbottom, hnot]
      · have hbottom : p.2 < frame.bottom := by linarith
        have hin : p.2 < frame.bottom - widths.bottom := not_le.mp hend
        simp only [htop, hcorner, hbottom, hmid, hend, hin, true_and, false_and, and_false,
          decide_false, Bool.xor_false, Bool.false_xor, false_implies, and_true]
        rw [xor_decide_iff fun h => by linarith, not_lt]
        exact and_comm
  · have hend : ¬ frame.bottom - widths.bottom ≤ p.2 := by linarith
    have hmid : ¬ frame.top + widths.top ≤ p.2 := by linarith
    simp [htop, hend, hmid]

/-- A discrete path fills the part of its side. -/
theorem fills_iff_inSide (hf : Fits frame widths) (side : BorderEdges) :
    EvenOdd.fills p (createPath (pathMetrics side frame widths)) = true ↔
      InSide frame widths p side := by
  cases side with
  | RightEdge => exact fills_rightEdge hf
  | LeftEdge => exact fills_leftEdge hf
  | TopEdge => exact fills_topEdge hf
  | BottomEdge => exact fills_bottomEdge hf

/-! ## The parts of the sides -/

/-- The levels of the top and the bottom sides are apart. -/
theorem Fits.not_top_bottom (hf : Fits frame widths) (htop : InSide frame widths p .TopEdge)
    (hbottom : InSide frame widths p .BottomEdge) : False := by
  linarith [htop.2.1, hbottom.1, hf.vertical]

theorem Fits.not_left_right (hf : Fits frame widths) (hleft : InSide frame widths p .LeftEdge)
    (hright : InSide frame widths p .RightEdge) : False := by
  linarith [hleft.2.2.2.1, hright.2.2.1, hf.horizontal]

/-- Across a cut there is another side. -/
theorem not_left_of_top (htop : InSide frame widths p .TopEdge) :
    ¬ InSide frame widths p .LeftEdge :=
  fun hleft => absurd (hleft.2.2.2.2.1 htop.2.1) (not_lt.mpr htop.2.2.1)

theorem not_right_of_top (htop : InSide frame widths p .TopEdge) :
    ¬ InSide frame widths p .RightEdge :=
  fun hright => absurd htop.2.2.2 (not_lt.mpr (hright.2.2.2.2.1 htop.2.1))

theorem not_left_of_bottom (hbottom : InSide frame widths p .BottomEdge) :
    ¬ InSide frame widths p .LeftEdge :=
  fun hleft => absurd (hleft.2.2.2.2.2 hbottom.1) (not_lt.mpr hbottom.2.2.1)

theorem not_right_of_bottom (hbottom : InSide frame widths p .BottomEdge) :
    ¬ InSide frame widths p .RightEdge :=
  fun hright => absurd hbottom.2.2.2 (not_lt.mpr (hright.2.2.2.2.2 hbottom.1))

/-- The parts of the sides have no point in common. -/
theorem inSide_unique (hf : Fits frame widths) {side side' : BorderEdges}
    (h : InSide frame widths p side) (h' : InSide frame widths p side') : side = side' := by
  cases side with
  | RightEdge =>
    cases side' with
    | RightEdge => rfl
    | LeftEdge => exact (hf.not_left_right h' h).elim
    | TopEdge => exact absurd h (not_right_of_top h')
    | BottomEdge => exact absurd h (not_right_of_bottom h')
  | LeftEdge =>
    cases side' with
    | RightEdge => exact (hf.not_left_right h h').elim
    | LeftEdge => rfl
    | TopEdge => exact absurd h (not_left_of_top h')
    | BottomEdge => exact absurd h (not_left_of_bottom h')
  | TopEdge =>
    cases side' with
    | RightEdge => exact absurd h' (not_right_of_top h)
    | LeftEdge => exact absurd h' (not_left_of_top h)
    | TopEdge => rfl
    | BottomEdge => exact (hf.not_top_bottom h h').elim
  | BottomEdge =>
    cases side' with
    | RightEdge => exact absurd h' (not_right_of_bottom h)
    | LeftEdge => exact absurd h' (not_left_of_bottom h)
    | TopEdge => exact (hf.not_top_bottom h' h).elim
    | BottomEdge => rfl

theorem covers_iff (r : SkRect) (p : Point) : SkRect.covers r p = true ↔
    r.left ≤ p.1 ∧ p.1 < r.right ∧ r.top ≤ p.2 ∧ p.2 < r.bottom := by
  simp [SkRect.covers]

/-- Right of the left cut a point is right of the frame's left edge. -/
theorem le_of_not_cut {x left depth width room : ℚ} (hcut : depth * width ≤ (x - left) * room)
    (hroom : 0 < room) (hdepth : 0 ≤ depth) (hwidth : 0 ≤ width) : left ≤ x :=
  not_lt.mp fun hx => absurd (cut_of_lt hx hroom hdepth hwidth) (not_lt.mpr hcut)

/-- The part of a side is in the frame, and the content is not reached. -/
theorem Fits.covers_of_inSide (hf : Fits frame widths) {side : BorderEdges}
    (h : InSide frame widths p side) :
    SkRect.covers frame p = true ∧ SkRect.covers (content frame widths) p = false := by
  obtain ⟨hl, ht, hr, hb, hh, hv⟩ := hf
  rw [← Bool.not_eq_true, covers_iff, covers_iff]
  cases side with
  | TopEdge =>
    obtain ⟨htop, hcorner, hleft, hright⟩ := h
    have hx := le_of_not_cut hleft (by linarith) (by linarith) hl
    have hx' := lt_of_cut_right hright (by linarith) (by linarith) hr
    exact ⟨⟨hx, hx', htop, by linarith⟩, fun hc => absurd hc.2.2.1 (not_le.mpr hcorner)⟩
  | BottomEdge =>
    obtain ⟨hcorner, hbottom, hleft, hright⟩ := h
    have hx := le_of_not_cut hleft (by linarith) (by linarith) hl
    have hx' := lt_of_cut_right hright (by linarith) (by linarith) hr
    exact ⟨⟨hx, hx', by linarith, hbottom⟩, fun hc => absurd hc.2.2.2 (not_lt.mpr hcorner)⟩
  | LeftEdge =>
    obtain ⟨htop, hbottom, hx, hx', -, -⟩ := h
    exact ⟨⟨hx, by linarith, htop, hbottom⟩, fun hc => absurd hc.1 (not_le.mpr hx')⟩
  | RightEdge =>
    obtain ⟨htop, hbottom, hx, hx', -, -⟩ := h
    exact ⟨⟨by linarith, hx', htop, hbottom⟩, fun hc => absurd hc.2.1 (not_lt.mpr hx)⟩

/-- At the level of the top or the bottom side the cuts decide. -/
theorem Fits.exists_inSide_of_top (hf : Fits frame widths) (hp : SkRect.covers frame p = true)
    (hcorner : p.2 < frame.top + widths.top) : ∃ side, InSide frame widths p side := by
  obtain ⟨hl, ht, hr, hb, hh, hv⟩ := hf
  obtain ⟨hx, hx', htop, hbottom⟩ := (covers_iff frame p).mp hp
  have hend : ¬ frame.bottom - widths.bottom ≤ p.2 := by linarith
  by_cases hleft : (p.1 - frame.left) * widths.top < (p.2 - frame.top) * widths.left
  · refine ⟨.LeftEdge, htop, hbottom, hx, ?_, fun _ => hleft, fun h => absurd h hend⟩
    exact lt_of_cut hleft (by linarith) (by linarith) hl
  · by_cases hright : (p.2 - frame.top) * widths.right < (frame.right - p.1) * widths.top
    · exact ⟨.TopEdge, htop, hcorner, not_lt.mp hleft, hright⟩
    · refine ⟨.RightEdge, htop, hbottom, ?_, hx', fun _ => not_lt.mp hright,
        fun h => absurd h hend⟩
      exact le_of_not_cut_right (not_lt.mp hright) (by linarith) (by linarith) hr

theorem Fits.exists_inSide_of_bottom (hf : Fits frame widths)
    (hp : SkRect.covers frame p = true) (hcorner : frame.bottom - widths.bottom ≤ p.2) :
    ∃ side, InSide frame widths p side := by
  obtain ⟨hl, ht, hr, hb, hh, hv⟩ := hf
  obtain ⟨hx, hx', htop, hbottom⟩ := (covers_iff frame p).mp hp
  have hstart : ¬ p.2 < frame.top + widths.top := by linarith
  by_cases hleft : (p.1 - frame.left) * widths.bottom < (frame.bottom - p.2) * widths.left
  · refine ⟨.LeftEdge, htop, hbottom, hx, ?_, fun h => absurd h hstart, fun _ => hleft⟩
    exact lt_of_cut hleft (by linarith) (by linarith) hl
  · by_cases hright : (frame.bottom - p.2) * widths.right < (frame.right - p.1) * widths.bottom
    · exact ⟨.BottomEdge, hcorner, hbottom, not_lt.mp hleft, hright⟩
    · refine ⟨.RightEdge, htop, hbottom, ?_, hx', fun h => absurd h hstart,
        fun _ => not_lt.mp hright⟩
      exact le_of_not_cut_right (not_lt.mp hright) (by linarith) (by linarith) hr

/-- Every point of the border is in the part of a side, and no other point is. -/
theorem exists_inSide_iff (hf : Fits frame widths) :
    (∃ side, InSide frame widths p side) ↔
      SkRect.covers frame p = true ∧ SkRect.covers (content frame widths) p = false := by
  constructor
  · exact fun ⟨_, h⟩ => hf.covers_of_inSide h
  · rintro ⟨hp, hcontent⟩
    by_cases hcorner : p.2 < frame.top + widths.top
    · exact hf.exists_inSide_of_top hp hcorner
    · by_cases hend : frame.bottom - widths.bottom ≤ p.2
      · exact hf.exists_inSide_of_bottom hp hend
      · obtain ⟨hx, hx', htop, hbottom⟩ := (covers_iff frame p).mp hp
        by_cases hleft : p.1 < frame.left + widths.left
        · exact ⟨.LeftEdge, htop, hbottom, hx, hleft, fun h => absurd h hcorner,
            fun h => absurd h hend⟩
        · refine ⟨.RightEdge, htop, hbottom, ?_, hx', fun h => absurd h hcorner,
            fun h => absurd h hend⟩
          by_contra hright
          rw [← Bool.not_eq_true, covers_iff] at hcontent
          exact hcontent ⟨not_lt.mp hleft, not_le.mp hright, not_lt.mp hcorner, not_le.mp hend⟩

end RSkDrawUtils

end ReactNativeSkia
