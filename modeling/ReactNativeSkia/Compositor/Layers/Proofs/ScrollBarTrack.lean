import ReactNativeSkia.Compositor.Layers.ScrollBar
import ReactNativeSkia.Misc.Slider

/-!
# The track of a scroll bar

A scroll bar is laid out along one axis in the same way in all four positions: between the insets
there is a track, the bar has a length within the track, and the room that is left is shared out
over the offsets.
-/

namespace ReactNativeSkia

namespace ScrollBar

/-! ## Along the bar -/

def isHorizontal (b : ScrollBar) : Bool :=
  match b.barPosition_ with
  | .top | .bottom => true
  | .left | .right => false

def frameLength (b : ScrollBar) : Int :=
  if b.isHorizontal then b.scrollFrame_.width else b.scrollFrame_.height

def contentLength (b : ScrollBar) : Int :=
  if b.isHorizontal then b.scrollContentSize_.width else b.scrollContentSize_.height

def startInset (b : ScrollBar) : Int :=
  if b.isHorizontal then b.barFrameInsets_.left else b.barFrameInsets_.top

def endInset (b : ScrollBar) : Int :=
  if b.isHorizontal then b.barFrameInsets_.right else b.barFrameInsets_.bottom

def offset (b : ScrollBar) : ℚ :=
  if b.isHorizontal then b.scrollPos_.1 else b.scrollPos_.2

/-- `barScrollAreaLength`. -/
def trackLength (b : ScrollBar) : Int := b.frameLength - b.startInset - b.endInset

/-- The content is longer than the frame. -/
def Scrolls (b : ScrollBar) : Prop := b.frameLength < b.contentLength

instance (b : ScrollBar) : Decidable b.Scrolls := inferInstanceAs (Decidable (_ < _))

/-- `scrollBarLength`. -/
def barLength (b : ScrollBar) : Int :=
  if b.trackLength ≤ SCROLLBAR_MIN_LENGTH then SCROLLBAR_MIN_LENGTH
  else max SCROLLBAR_MIN_LENGTH
    (round ((b.trackLength : ℚ) / (b.contentLength : ℚ) * (b.frameLength : ℚ)))

/-- `offsetMultiplier`. -/
def multiplier (b : ScrollBar) : ℚ :=
  if b.trackLength ≤ SCROLLBAR_MIN_LENGTH then 0
  else ((b.trackLength - b.barLength : Int) : ℚ) / ((b.contentLength - b.frameLength : Int) : ℚ)

/-- Where the bar begins at offset zero. -/
def barStart (b : ScrollBar) : Int :=
  if b.trackLength ≤ SCROLLBAR_MIN_LENGTH then (b.frameLength - SCROLLBAR_MIN_LENGTH).tdiv 2
  else b.startInset

/-- The bar frame of a layout. -/
def layoutFrame (b : ScrollBar) : SkIRect :=
  match b.barPosition_ with
  | .top =>
    (SkIRect.MakeXYWH b.barStart 0 b.barLength SCROLLBAR_THICKNESS).makeOffset 0
      b.barFrameInsets_.top
  | .bottom =>
    (SkIRect.MakeXYWH b.barStart 0 b.barLength SCROLLBAR_THICKNESS).makeOffset 0
      (-b.barFrameInsets_.bottom)
  | .left =>
    (SkIRect.MakeXYWH 0 b.barStart SCROLLBAR_THICKNESS b.barLength).makeOffset
      b.barFrameInsets_.left 0
  | .right =>
    (SkIRect.MakeXYWH 0 b.barStart SCROLLBAR_THICKNESS b.barLength).makeOffset
      (-b.barFrameInsets_.right) 0

def layoutMultiplier (b : ScrollBar) : ℚ × ℚ :=
  if b.isHorizontal then (b.multiplier, 1) else (1, b.multiplier)

/-- The translation of a layout. At the top and on the left one part is left as it was. -/
def layoutTranslate (b : ScrollBar) : Int × Int :=
  match b.barPosition_ with
  | .top => (round (b.offset * b.multiplier), b.barOffsetTranslate_.2)
  | .bottom => (round (b.offset * b.multiplier), b.scrollFrame_.height - SCROLLBAR_THICKNESS)
  | .left => (b.barOffsetTranslate_.1, round (b.offset * b.multiplier))
  | .right => (b.scrollFrame_.width - SCROLLBAR_THICKNESS, round (b.offset * b.multiplier))

variable {b b' : ScrollBar}

/-- What `calculateBarLayoutMetrics` makes of a bar that scrolls. -/
theorem calculate_of_scrolls (h : b.Scrolls) :
    b.calculateBarLayoutMetrics =
      { b with
        barFrame_ := b.layoutFrame
        barOffsetMultiplier_ := b.layoutMultiplier
        barOffsetTranslate_ := b.layoutTranslate } := by
  have hle := not_le.mpr h
  unfold calculateBarLayoutMetrics calculateHorizontalBar calculateVerticalBar
  unfold layoutFrame layoutMultiplier layoutTranslate barStart multiplier barLength trackLength
  unfold frameLength contentLength startInset endInset offset isHorizontal at *
  cases hp : b.barPosition_ with
  | top | bottom | left | right =>
    simp only [hp, if_true, Bool.false_eq_true, if_false] at hle ⊢
    simp only [hle, if_false]
    split
    · simp [updateBarOffset]
    · simp [updateBarOffset]

theorem calculate_of_not_scrolls (h : ¬b.Scrolls) :
    b.calculateBarLayoutMetrics =
      { b with
        barFrame_ := .MakeEmpty
        barOffsetMultiplier_ := (0, 0)
        barOffsetTranslate_ := (0, 0) } := by
  have hle := not_lt.mp h
  unfold calculateBarLayoutMetrics calculateHorizontalBar calculateVerticalBar
  unfold frameLength contentLength isHorizontal at hle
  cases hp : b.barPosition_ with
  | top | bottom | left | right =>
    simp only [hp, if_true, Bool.false_eq_true, if_false] at hle ⊢
    simp only [hle, if_true]

/-! ## The bar in its track -/

/-- Where the bar begins. -/
def barBegin (b : ScrollBar) : Int :=
  if b.isHorizontal then b.barFrame_.left + b.barOffsetTranslate_.1
  else b.barFrame_.top + b.barOffsetTranslate_.2

/-- Where the bar ends. -/
def barEnd (b : ScrollBar) : Int :=
  if b.isHorizontal then b.barFrame_.right + b.barOffsetTranslate_.1
  else b.barFrame_.bottom + b.barOffsetTranslate_.2

/-- The bar after a layout and a scroll to this position. -/
def scrolledTo (b : ScrollBar) (scrollPos : ℚ × ℚ) : ScrollBar :=
  b.calculateBarLayoutMetrics.setScrollBarOffset scrollPos

/-- The part of a scroll position along the bar. -/
def along (b : ScrollBar) (scrollPos : ℚ × ℚ) : ℚ :=
  if b.isHorizontal then scrollPos.1 else scrollPos.2

/-- A scroll after a layout is a layout with the new offset. -/
theorem scrolledTo_eq (h : b.Scrolls) (scrollPos : ℚ × ℚ) :
    b.scrolledTo scrollPos = { b with scrollPos_ := scrollPos }.calculateBarLayoutMetrics := by
  have h' : Scrolls { b with scrollPos_ := scrollPos } := h
  rw [scrolledTo, calculate_of_scrolls h, calculate_of_scrolls h', setScrollBarOffset]
  split
  · rename_i heq
    dsimp only at heq
    rw [← heq]
  · obtain ⟨_, position⟩ := b
    cases position with
    | top | bottom | left | right => rfl

/-- The bar begins where the slider is. -/
theorem barBegin_scrolledTo (h : b.Scrolls) (scrollPos : ℚ × ℚ) :
    (b.scrolledTo scrollPos).barBegin = b.barStart + round (b.along scrollPos * b.multiplier) := by
  have h' : Scrolls { b with scrollPos_ := scrollPos } := h
  rw [scrolledTo_eq h, calculate_of_scrolls h']
  obtain ⟨_, position⟩ := b
  cases position with
  | top | bottom => exact congrArg (· + _) (add_zero _)
  | left | right => exact congrArg (· + _) (add_zero _)

theorem barEnd_scrolledTo (h : b.Scrolls) (scrollPos : ℚ × ℚ) :
    (b.scrolledTo scrollPos).barEnd = (b.scrolledTo scrollPos).barBegin + b.barLength := by
  have h' : Scrolls { b with scrollPos_ := scrollPos } := h
  rw [barBegin_scrolledTo h, scrolledTo_eq h, calculate_of_scrolls h']
  obtain ⟨_, position⟩ := b
  cases position with
  | top | bottom => exact (congrArg (· + _) (add_zero _)).trans (add_right_comm _ _ _)
  | left | right => exact (congrArg (· + _) (add_zero _)).trans (add_right_comm _ _ _)

/-- The track is longer than the least length of a bar, and begins and ends within the frame. -/
structure HasTrack (b : ScrollBar) : Prop where
  scrolls : b.Scrolls
  startInset : 0 ≤ b.startInset
  endInset : 0 ≤ b.endInset
  long : SCROLLBAR_MIN_LENGTH < b.trackLength

theorem HasTrack.barStart_eq (h : b.HasTrack) : b.barStart = b.startInset :=
  if_neg (not_le.mpr h.long)

/-- The bar is no longer than its track. -/
theorem HasTrack.barLength_le (h : b.HasTrack) : b.barLength ≤ b.trackLength := by
  have hmin : 0 ≤ SCROLLBAR_MIN_LENGTH := by decide
  have htrack : 0 ≤ b.trackLength := hmin.trans h.long.le
  have hframe : b.trackLength ≤ b.frameLength := by
    have hstart := h.startInset
    have hend := h.endInset
    unfold trackLength
    omega
  have hcontent : 0 < b.contentLength := (htrack.trans hframe).trans_lt h.scrolls
  have hpart : (b.frameLength : ℚ) ≤ b.contentLength := Int.cast_le.mpr h.scrolls.le
  rw [barLength, if_neg (not_le.mpr h.long)]
  exact max_le h.long.le (round_part_le htrack (Int.cast_pos.mpr hcontent) hpart)

/-- The bar moves like a slider with the room that its length leaves. -/
theorem HasTrack.slider (h : b.HasTrack) (offset : ℚ) :
    round (offset * b.multiplier) = sliderOffset (b.trackLength - b.barLength)
      ((b.contentLength - b.frameLength : Int) : ℚ) offset := by
  rw [multiplier, if_neg (not_le.mpr h.long), sliderOffset]

/-- With insets that leave a track of more than the least length, the bar lies within the track at
every offset: at its start for offset zero, at its end for the last offset, and the further the
larger the offset. -/
theorem scrolledTo_inTrack (b : ScrollBar) (h : b.HasTrack) :
    (∀ scrollPos, 0 ≤ b.along scrollPos →
      b.along scrollPos ≤ ((b.contentLength - b.frameLength : Int) : ℚ) →
      b.startInset ≤ (b.scrolledTo scrollPos).barBegin ∧
        (b.scrolledTo scrollPos).barEnd ≤ b.frameLength - b.endInset) ∧
    (∀ scrollPos, b.along scrollPos = 0 →
      (b.scrolledTo scrollPos).barBegin = b.startInset) ∧
    (∀ scrollPos, b.along scrollPos = ((b.contentLength - b.frameLength : Int) : ℚ) →
      (b.scrolledTo scrollPos).barEnd = b.frameLength - b.endInset) ∧
    ∀ scrollPos scrollPos', b.along scrollPos ≤ b.along scrollPos' →
      (b.scrolledTo scrollPos).barBegin ≤ (b.scrolledTo scrollPos').barBegin := by
  have hroom : 0 ≤ b.trackLength - b.barLength := sub_nonneg.mpr h.barLength_le
  have hrange : (0 : ℚ) < ((b.contentLength - b.frameLength : Int) : ℚ) :=
    Int.cast_pos.mpr (sub_pos.mpr h.scrolls)
  have htrack : b.startInset + b.trackLength = b.frameLength - b.endInset := by
    unfold trackLength
    omega
  have hbegin (scrollPos : ℚ × ℚ) : (b.scrolledTo scrollPos).barBegin =
      b.startInset + sliderOffset (b.trackLength - b.barLength)
        ((b.contentLength - b.frameLength : Int) : ℚ) (b.along scrollPos) := by
    rw [barBegin_scrolledTo h.scrolls, h.barStart_eq, h.slider]
  refine ⟨fun scrollPos h0 hle => ?_, fun scrollPos hzero => ?_, fun scrollPos hlast => ?_,
    fun scrollPos scrollPos' hle => ?_⟩
  · have hmem := sliderOffset_mem hroom h0 hle
    rw [barEnd_scrolledTo h.scrolls, hbegin]
    omega
  · rw [hbegin, hzero, sliderOffset_zero, add_zero]
  · rw [barEnd_scrolledTo h.scrolls, hbegin, hlast, sliderOffset_range hrange]
    omega
  · rw [hbegin, hbegin]
    exact Int.add_le_add_left (sliderOffset_mono hroom hrange.le hle) _

/-- A bar on the right of a frame of 100 by 50 with a content of 100 by 200. -/
def rightBar : ScrollBar where
  barFrameInsets_ := ⟨0, 2, 0, 3⟩
  scrollContentSize_ := ⟨100, 200⟩
  scrollFrame_ := ⟨0, 0, 100, 50⟩

theorem scrolledTo_inTrack_rightBar :
    2 ≤ (rightBar.scrolledTo (0, 75)).barBegin ∧ (rightBar.scrolledTo (0, 150)).barEnd = 47 := by
  have htrack : rightBar.HasTrack := ⟨by decide, by decide, by decide, by decide⟩
  obtain ⟨hmem, -, hlast, -⟩ := scrolledTo_inTrack rightBar htrack
  have hhalf : (75 : ℚ) ≤ 150 := by norm_num
  exact ⟨(hmem (0, 75) (by decide +kernel) hhalf).1, hlast (0, 150) rfl⟩

end ScrollBar

end ReactNativeSkia
