import Mathlib.Data.Int.Init
import Mathlib.Tactic.Linarith
import Mathlib.Tactic.Ring
import ReactNativeSkia.Sdk.PlaceHolder

/-!
# The window on the typed text

The first three steps choose a range and the loop contracts it, at the end if the cursor is more
than one character in front of it and at the start otherwise. A range in the text with the cursor at
it stays one, unless the two characters after the cursor do not fit together: then the start passes
the cursor. A cursor behind the last character makes the range end behind the text.
-/

namespace ReactNativeSkia

/-- The widths of slices add up, and each single character fits. -/
structure MeasuresSlices (layout : PlaceHolderLayout) (measure : Int → Int → ℚ)
    (length : Int) : Prop where
  additive : ∀ first middle last, 0 ≤ first → first ≤ middle → middle < last → last < length →
    measure first last = measure first middle + measure (middle + 1) last
  nonneg : ∀ i, 0 ≤ i → i < length → 0 ≤ measure i i
  single : ∀ i, 0 ≤ i → i < length → PlaceHolder.fits layout (measure i i) = true

namespace MeasuresSlices

variable {layout : PlaceHolderLayout} {measure : Int → Int → ℚ} {length : Int}
  {first first' last last' : Int}

theorem slice_nonneg (h : MeasuresSlices layout measure length) (hfirst : 0 ≤ first)
    (hle : first ≤ last) (hlast : last < length) : 0 ≤ measure first last := by
  induction last, hle using Int.leInduction with
  | base => exact h.nonneg first hfirst hlast
  | succ last hle ih =>
    rw [h.additive first last (last + 1) hfirst hle (by omega) hlast]
    exact add_nonneg (ih (by omega)) (h.nonneg (last + 1) (by omega) hlast)

/-- A part of a slice is not wider. -/
theorem slice_mono (h : MeasuresSlices layout measure length) (hfirst : 0 ≤ first)
    (hstart : first ≤ first') (hle : first' ≤ last') (hend : last' ≤ last)
    (hlast : last < length) : measure first' last' ≤ measure first last := by
  have hright : measure first' last' ≤ measure first' last := by
    rcases hend.eq_or_lt with rfl | hlt
    · exact le_refl _
    · rw [h.additive first' last' last (by omega) hle hlt hlast]
      have hright : 0 ≤ measure (last' + 1) last :=
        h.slice_nonneg (by omega) (by omega) hlast
      linarith
  have hleft : measure first' last ≤ measure first last := by
    rcases hstart.eq_or_lt with rfl | hlt
    · exact le_refl _
    · rw [h.additive first (first' - 1) last hfirst (by omega) (by omega) hlast,
        Int.sub_add_cancel]
      have hleft : 0 ≤ measure first (first' - 1) :=
        h.slice_nonneg hfirst (by omega) (by omega)
      linarith
  exact hright.trans hleft

theorem fits_of_slice (h : MeasuresSlices layout measure length) (hfirst : 0 ≤ first)
    (hstart : first ≤ first') (hle : first' ≤ last') (hend : last' ≤ last)
    (hlast : last < length) (hfits : PlaceHolder.fits layout (measure first last) = true) :
    PlaceHolder.fits layout (measure first' last') = true := by
  have hmono := h.slice_mono hfirst hstart hle hend hlast
  simp only [PlaceHolder.fits, decide_eq_true_eq] at hfits ⊢
  linarith

end MeasuresSlices

namespace PlaceHolder

/-- A text with a cursor, and a range that is not set or not reversed. -/
structure TextInput (s : PlaceHolder) : Prop where
  text : s.displayString_ ≠ []
  cursor_nonneg : 0 ≤ s.cursorPosition_
  cursor_le : s.cursorPosition_ ≤ s.displayString_.length
  range : s.visibleDisplayStringRange_ = {} ∨
    0 ≤ s.visibleDisplayStringRange_.x ∧
      s.visibleDisplayStringRange_.x ≤ s.visibleDisplayStringRange_.y

/-- A window on the text that fits, with the cursor at one of its characters or behind the last. -/
structure ShowsCursor (getStringBound : Chars → Int → Int → ℚ) (layout : PlaceHolderLayout)
    (s : PlaceHolder) (range : DisplayStringRange) : Prop where
  start_nonneg : 0 ≤ range.x
  start_le : range.x ≤ range.y
  end_lt : range.y < s.displayString_.length
  slice_fits : fits layout (getStringBound s.displayString_ range.x range.y) = true
  cursor_ge : range.x ≤ s.cursorPosition_
  cursor_le : s.cursorPosition_ ≤ range.y + 1

/-- It comes to an end, and with such a window. -/
structure Follows (getStringBound : Chars → Int → Int → ℚ) (layout : PlaceHolderLayout)
    (s : PlaceHolder) : Prop where
  terminates : ∃ fuel shown, s.drawPlaceHolderDisplayString getStringBound layout fuel = some shown
  shows : ∀ fuel shown, s.drawPlaceHolderDisplayString getStringBound layout fuel = some shown →
    ShowsCursor getStringBound layout s shown.visibleDisplayStringRange_

/-- When the cursor is behind the text, the range of before is not set, or reaches behind the text
as well and starts in it, or fits up to there and starts at the third character or later. When two
characters follow the cursor, they fit together, or the range of before ends in front of the first
of them and does not fit up to there. -/
structure CursorInReach (getStringBound : Chars → Int → Int → ℚ) (layout : PlaceHolderLayout)
    (s : PlaceHolder) : Prop where
  behind : s.cursorPosition_ = s.displayString_.length →
    s.visibleDisplayStringRange_ = {} ∨
      s.displayString_.length ≤ s.visibleDisplayStringRange_.y ∧
        s.visibleDisplayStringRange_.x < s.displayString_.length ∨
      s.visibleDisplayStringRange_.y < s.displayString_.length ∧
        2 ≤ s.visibleDisplayStringRange_.x ∧
        fits layout (getStringBound s.displayString_ s.visibleDisplayStringRange_.x
          s.displayString_.length) = true
  inside : s.cursorPosition_ + 2 ≤ s.displayString_.length →
    fits layout (getStringBound s.displayString_ s.cursorPosition_ (s.cursorPosition_ + 1)) =
        true ∨
      s.visibleDisplayStringRange_ ≠ {} ∧
        s.visibleDisplayStringRange_.y ≤ s.cursorPosition_ ∧
        fits layout (getStringBound s.displayString_
          (min s.visibleDisplayStringRange_.x s.cursorPosition_) s.cursorPosition_) = false

variable {getStringBound : Chars → Int → Int → ℚ} {layout : PlaceHolderLayout} {s : PlaceHolder}
  {range : VisibleRange}

/-- The invariant of a loop that keeps the cursor. -/
structure Keeps (getStringBound : Chars → Int → Int → ℚ) (layout : PlaceHolderLayout)
    (s : PlaceHolder) (range : VisibleRange) : Prop where
  measured : range =
    s.measured getStringBound range.visibleRangeStart range.visibleRangeEnd
  start_nonneg : 0 ≤ range.visibleRangeStart
  start_le : range.visibleRangeStart ≤ range.visibleRangeEnd
  end_lt : range.visibleRangeEnd < s.displayString_.length
  cursor_ge : range.visibleRangeStart ≤ s.cursorPosition_
  cursor_le : s.cursorPosition_ ≤ range.visibleRangeEnd + 1
  pair_fits : s.cursorPosition_ < range.visibleRangeEnd →
    fits layout (getStringBound s.displayString_ s.cursorPosition_ (s.cursorPosition_ + 1)) = true

/-- The invariant of a loop that does not end with a window at the cursor. -/
inductive Misses (getStringBound : Chars → Int → Int → ℚ) (layout : PlaceHolderLayout)
    (s : PlaceHolder) (range : VisibleRange) : Prop
  | reversed (h : range.visibleRangeEnd < range.visibleRangeStart)
  | behind (hcursor : s.cursorPosition_ = s.displayString_.length)
      (hend : range.visibleRangeEnd = s.displayString_.length)
  | passed (h : s.cursorPosition_ < range.visibleRangeStart)
  | pair (hmeasured : range =
        s.measured getStringBound range.visibleRangeStart range.visibleRangeEnd)
      (hstart : 0 ≤ range.visibleRangeStart)
      (hcursor : range.visibleRangeStart ≤ s.cursorPosition_)
      (hend : s.cursorPosition_ < range.visibleRangeEnd)
      (hlast : range.visibleRangeEnd < s.displayString_.length)
      (hfits : fits layout (getStringBound s.displayString_ s.cursorPosition_
        (s.cursorPosition_ + 1)) = false)

/-! ## The loop -/

theorem Keeps.textWidth (h : Keeps getStringBound layout s range) :
    range.textWidth = getStringBound s.displayString_ range.visibleRangeStart
      range.visibleRangeEnd := by
  conv_lhs => rw [h.measured]
  rfl

theorem Keeps.showsCursor (h : Keeps getStringBound layout s range)
    (hfits : fits layout range.textWidth = true) :
    ShowsCursor getStringBound layout s ⟨range.visibleRangeStart, range.visibleRangeEnd⟩ :=
  ⟨h.start_nonneg, h.start_le, h.end_lt, h.textWidth ▸ hfits, h.cursor_ge, h.cursor_le⟩

/-- A round keeps the invariant and makes the range shorter. -/
theorem Keeps.contract
    (hmeasure : MeasuresSlices layout (getStringBound s.displayString_) s.displayString_.length)
    (h : Keeps getStringBound layout s range) (hfits : fits layout range.textWidth = false) :
    Keeps getStringBound layout s (s.contract getStringBound range) ∧
      ((s.contract getStringBound range).visibleRangeEnd -
          (s.contract getStringBound range).visibleRangeStart).toNat <
        (range.visibleRangeEnd - range.visibleRangeStart).toNat := by
  have hstart := h.start_nonneg
  have hend := h.end_lt
  have hcursor := h.cursor_ge
  have hcursor' := h.cursor_le
  rw [h.textWidth] at hfits
  -- A single character fits, so there are two at least.
  have hlt : range.visibleRangeStart < range.visibleRangeEnd := by
    refine lt_of_le_of_ne h.start_le fun heq => ?_
    rw [← heq, hmeasure.single range.visibleRangeStart hstart (by omega)] at hfits
    exact absurd hfits (by simp)
  unfold PlaceHolder.contract
  split
  · -- The range is not the pair after the cursor.
    have hne : range.visibleRangeStart ≠ s.cursorPosition_ := by
      intro heq
      have hpair := h.pair_fits (by omega)
      rw [show s.cursorPosition_ + 1 = range.visibleRangeEnd by omega, ← heq, hfits] at hpair
      exact absurd hpair (by simp)
    refine ⟨⟨rfl, ?_, ?_, hend, ?_, hcursor', h.pair_fits⟩, ?_⟩
    · exact Int.le_add_one hstart
    · exact hlt
    · exact lt_of_le_of_ne hcursor hne
    · simp only [measured_visibleRangeStart, measured_visibleRangeEnd]
      omega
  · have hpair := h.pair_fits (by omega)
    refine ⟨⟨rfl, hstart, Int.le_sub_one_of_lt hlt, ?_, hcursor, ?_, fun _ => hpair⟩, ?_⟩
    all_goals
      simp only [measured_visibleRangeStart, measured_visibleRangeEnd]
      omega

/-- The loop ends with a window that has the cursor. -/
theorem Keeps.visibleRange
    (hmeasure : MeasuresSlices layout (getStringBound s.displayString_) s.displayString_.length)
    (h : Keeps getStringBound layout s (s.expandedRange getStringBound layout)) :
    (∃ fuel range, s.visibleRange getStringBound layout fuel = some range) ∧
      ∀ fuel range, s.visibleRange getStringBound layout fuel = some range →
        ShowsCursor getStringBound layout s ⟨range.visibleRangeStart, range.visibleRangeEnd⟩ := by
  have keeps : ∀ range, Keeps getStringBound layout s range →
      (!fits layout range.textWidth) = true →
      Keeps getStringBound layout s (s.contract getStringBound range) ∧
        ((s.contract getStringBound range).visibleRangeEnd -
            (s.contract getStringBound range).visibleRangeStart).toNat <
          (range.visibleRangeEnd - range.visibleRangeStart).toNat := by
    intro range hkeeps hcond
    exact hkeeps.contract hmeasure (by simpa using hcond)
  refine ⟨whileLoop_terminates (I := Keeps getStringBound layout s)
    (fun range => (range.visibleRangeEnd - range.visibleRangeStart).toNat) keeps h, ?_⟩
  intro fuel range hrange
  obtain ⟨hkeeps, hcond⟩ := whileLoop_invariant (I := Keeps getStringBound layout s)
    (fun range hkeeps hcond => (keeps range hkeeps hcond).1) hrange h
  exact hkeeps.showsCursor (by simpa using hcond)

/-- No range at which the loop ends has the cursor in the text. -/
theorem Misses.not_showsCursor
    (hmeasure : MeasuresSlices layout (getStringBound s.displayString_) s.displayString_.length)
    (h : Misses getStringBound layout s range) :
    ¬ShowsCursor getStringBound layout s ⟨range.visibleRangeStart, range.visibleRangeEnd⟩ := by
  intro hshows
  have hle := hshows.start_le
  have hlt := hshows.end_lt
  have hge := hshows.cursor_ge
  simp only at hle hlt hge
  cases h with
  | reversed h => omega
  | behind hcursor hend => omega
  | passed h => omega
  | pair hmeasured hstart hcursor hend hlast hfits =>
    have hpair : fits layout (getStringBound s.displayString_ s.cursorPosition_
        (s.cursorPosition_ + 1)) = true :=
      hmeasure.fits_of_slice hstart hcursor (by omega) (by omega) hlast hshows.slice_fits
    rw [hfits] at hpair
    exact absurd hpair (by simp)

theorem Misses.contract (h : Misses getStringBound layout s range) :
    Misses getStringBound layout s (s.contract getStringBound range) := by
  unfold PlaceHolder.contract
  split
  · cases h with
    | reversed h => exact .reversed (by simp; omega)
    | behind hcursor hend => exact .behind hcursor hend
    | passed h => exact .passed (by simp; omega)
    | pair hmeasured hstart hcursor hend hlast hfits =>
      -- The start stays at the cursor or passes it.
      by_cases hat : range.visibleRangeStart = s.cursorPosition_
      · exact .passed (by simp; omega)
      · exact .pair rfl (by simp; omega) (by simp; omega) hend
          hlast hfits
  · cases h with
    | reversed h => exact .reversed (by simp; omega)
    | behind hcursor hend => omega
    | passed h => exact .passed h
    | pair hmeasured hstart hcursor hend hlast hfits =>
      exact .pair rfl hstart hcursor (by simp; omega)
        (by simp; omega) hfits

theorem Misses.visibleRange
    (hmeasure : MeasuresSlices layout (getStringBound s.displayString_) s.displayString_.length)
    (h : Misses getStringBound layout s (s.expandedRange getStringBound layout)) {fuel : Nat}
    {range : VisibleRange} (hrange : s.visibleRange getStringBound layout fuel = some range) :
    ¬ShowsCursor getStringBound layout s ⟨range.visibleRangeStart, range.visibleRangeEnd⟩ :=
  (whileLoop_invariant (I := Misses getStringBound layout s)
    (fun _ hmisses _ => hmisses.contract) hrange h).1.not_showsCursor hmeasure

/-! ## The first three steps -/

/-- Where the range of before starts when it has been moved to the cursor. -/
def adjustedStart (s : PlaceHolder) : Int :=
  if s.visibleDisplayStringRange_ = {} then 0
  else min s.visibleDisplayStringRange_.x s.cursorPosition_

/-- Where it ends. -/
def adjustedEnd (s : PlaceHolder) : Int :=
  if s.visibleDisplayStringRange_ = {} ∨
      s.displayString_.length ≤ s.visibleDisplayStringRange_.y then
    s.displayString_.length - 1
  else max s.visibleDisplayStringRange_.y s.cursorPosition_

theorem TextInput.adjustedRange_eq (h : TextInput s) :
    s.adjustedRange getStringBound =
      s.measured getStringBound s.adjustedStart s.adjustedEnd := by
  have hstart : (if s.visibleDisplayStringRange_.x = -1 then 0
      else if s.cursorPosition_ > s.visibleDisplayStringRange_.x then
        s.visibleDisplayStringRange_.x
      else s.cursorPosition_) = s.adjustedStart := by
    unfold adjustedStart
    rcases h.range with hunset | ⟨hx, -⟩
    · simp [hunset]
    · have hset : s.visibleDisplayStringRange_ ≠ {} := fun heq => by simp [heq] at hx
      simp only [hset, if_false]
      split_ifs <;> omega
  have hend : (if s.visibleDisplayStringRange_.y = -1 ∨
        s.visibleDisplayStringRange_.y > s.lastIndex then s.lastIndex
      else if s.cursorPosition_ ≤ s.visibleDisplayStringRange_.y then
        s.visibleDisplayStringRange_.y
      else s.cursorPosition_) = s.adjustedEnd := by
    unfold adjustedEnd lastIndex
    rcases h.range with hunset | ⟨hx, hxy⟩
    · simp [hunset]
    · have hset : s.visibleDisplayStringRange_ ≠ {} := fun heq => by simp [heq] at hx
      simp only [hset, false_or]
      split_ifs <;> omega
  exact congrArg₂ (s.measured getStringBound) hstart hend

/-- The range can be expanded. -/
def Expands (getStringBound : Chars → Int → Int → ℚ) (layout : PlaceHolderLayout)
    (s : PlaceHolder) : Prop :=
  fits layout (getStringBound s.displayString_ s.adjustedStart s.adjustedEnd) = true ∧
    0 ≤ s.adjustedEnd - s.adjustedStart ∧
    s.adjustedEnd - s.adjustedStart < s.displayString_.length - 1

/-- What the third step does. -/
theorem TextInput.expandedRange_cases (h : TextInput s)
    (getStringBound : Chars → Int → Int → ℚ) (layout : PlaceHolderLayout) :
    (¬Expands getStringBound layout s ∧
        s.expandedRange getStringBound layout =
          s.measured getStringBound s.adjustedStart s.adjustedEnd) ∨
      (Expands getStringBound layout s ∧ s.adjustedEnd ≠ s.displayString_.length - 1 ∧
        s.expandedRange getStringBound layout =
          s.measured getStringBound s.adjustedStart (s.displayString_.length - 1)) ∨
      (Expands getStringBound layout s ∧ s.adjustedEnd = s.displayString_.length - 1 ∧
        s.expandedRange getStringBound layout = s.measured getStringBound 0 s.adjustedEnd) := by
  have hlength := List.length_pos_iff.mpr h.text
  have hexpanded : s.expandedRange getStringBound layout =
      if fits layout (getStringBound s.displayString_ s.adjustedStart s.adjustedEnd) = true ∧
          ltSize (s.adjustedEnd - s.adjustedStart) (s.displayString_.length - 1) = true then
        if s.adjustedEnd ≠ s.displayString_.length - 1 then
          s.measured getStringBound s.adjustedStart (s.displayString_.length - 1)
        else s.measured getStringBound 0 s.adjustedEnd
      else s.measured getStringBound s.adjustedStart s.adjustedEnd := by
    unfold expandedRange
    rw [h.adjustedRange_eq]
    rfl
  have hexpands : (fits layout (getStringBound s.displayString_ s.adjustedStart s.adjustedEnd) =
        true ∧
      ltSize (s.adjustedEnd - s.adjustedStart) (s.displayString_.length - 1) = true) ↔
      Expands getStringBound layout s := by
    unfold Expands ltSize
    simp only [decide_eq_true_eq]
    refine and_congr_right' (and_congr_right' ?_)
    omega
  rw [hexpanded]
  by_cases hexpand : Expands getStringBound layout s
  · rw [if_pos (hexpands.mpr hexpand)]
    by_cases hend : s.adjustedEnd = s.displayString_.length - 1
    · rw [if_neg (not_not_intro hend)]
      exact Or.inr (Or.inr ⟨hexpand, hend, rfl⟩)
    · rw [if_pos hend]
      exact Or.inr (Or.inl ⟨hexpand, hend, rfl⟩)
  · rw [if_neg (fun hcond => hexpand (hexpands.mp hcond))]
    exact Or.inl ⟨hexpand, rfl⟩

theorem adjustedStart_eq_min (hset : s.visibleDisplayStringRange_ ≠ {}) :
    s.adjustedStart = min s.visibleDisplayStringRange_.x s.cursorPosition_ := if_neg hset

theorem TextInput.adjustedStart_bounds (h : TextInput s) :
    0 ≤ s.adjustedStart ∧ s.adjustedStart ≤ s.cursorPosition_ := by
  have hnonneg := h.cursor_nonneg
  unfold adjustedStart
  rcases h.range with hunset | hset
  · simp [hunset, hnonneg]
  · split_ifs <;> omega

theorem adjustedEnd_bounds (hcursor : s.cursorPosition_ < s.displayString_.length) :
    s.cursorPosition_ ≤ s.adjustedEnd ∧ s.adjustedEnd < s.displayString_.length := by
  unfold adjustedEnd
  split_ifs <;> omega

/-- The range of before ends in front of the cursor, and has been moved to it. -/
theorem adjustedEnd_eq_cursor_iff
    (hpair : s.cursorPosition_ + 2 ≤ s.displayString_.length) :
    s.adjustedEnd = s.cursorPosition_ ↔ s.visibleDisplayStringRange_ ≠ {} ∧
      s.visibleDisplayStringRange_.y ≤ s.cursorPosition_ := by
  unfold adjustedEnd
  split_ifs with hwhole
  · refine iff_of_false (by omega) ?_
    rintro ⟨hset, hy⟩
    rcases hwhole with hunset | hlength
    · exact hset hunset
    · omega
  · rw [not_or] at hwhole
    exact ⟨fun hmax => ⟨hwhole.1, by omega⟩, fun hy => by omega⟩

/-- A cursor in the text is in the range that the loop starts with. -/
theorem TextInput.expandedRange_inside (h : TextInput s)
    (getStringBound : Chars → Int → Int → ℚ) (layout : PlaceHolderLayout)
    (hcursor : s.cursorPosition_ < s.displayString_.length) :
    ∃ first last, s.expandedRange getStringBound layout = s.measured getStringBound first last ∧
      0 ≤ first ∧ first ≤ s.cursorPosition_ ∧ s.cursorPosition_ ≤ last ∧
      last < s.displayString_.length ∧
      (s.cursorPosition_ + 2 ≤ s.displayString_.length →
        (s.cursorPosition_ < last ↔ ¬(s.visibleDisplayStringRange_ ≠ {} ∧
          s.visibleDisplayStringRange_.y ≤ s.cursorPosition_ ∧
          fits layout (getStringBound s.displayString_
            (min s.visibleDisplayStringRange_.x s.cursorPosition_) s.cursorPosition_) =
              false))) := by
  have hstart := h.adjustedStart_bounds
  have hend := adjustedEnd_bounds hcursor
  rcases h.expandedRange_cases getStringBound layout with
    ⟨hexpand, hrange⟩ | ⟨hexpand, hne, hrange⟩ | ⟨hexpand, heq, hrange⟩
  · refine ⟨_, _, hrange, hstart.1, hstart.2, hend.1, hend.2, fun hpair => ?_⟩
    constructor
    · rintro hlt ⟨hset, hy, -⟩
      have := (adjustedEnd_eq_cursor_iff hpair).mpr ⟨hset, hy⟩
      omega
    · intro hmoved
      refine lt_of_le_of_ne hend.1 fun heq => hmoved ?_
      obtain ⟨hset, hy⟩ := (adjustedEnd_eq_cursor_iff hpair).mp heq.symm
      refine ⟨hset, hy, ?_⟩
      rw [Bool.eq_false_iff]
      intro hfits
      refine hexpand ⟨?_, by omega, by omega⟩
      rw [adjustedStart_eq_min hset, ← heq]
      exact hfits
  · refine ⟨_, _, hrange, hstart.1, hstart.2, by omega, by omega, fun hpair => ?_⟩
    refine iff_of_true (by omega) ?_
    rintro ⟨hset, hy, hfits⟩
    have hfits' := hexpand.1
    rw [adjustedStart_eq_min hset, (adjustedEnd_eq_cursor_iff hpair).mpr ⟨hset, hy⟩, hfits]
      at hfits'
    exact absurd hfits' (by simp)
  · refine ⟨_, _, hrange, le_refl 0, h.cursor_nonneg, hend.1, hend.2, fun hpair => ?_⟩
    refine iff_of_true (by omega) ?_
    rintro ⟨hset, hy, -⟩
    have := (adjustedEnd_eq_cursor_iff hpair).mpr ⟨hset, hy⟩
    omega

/-- A cursor behind the text is at the end of the range that the loop starts with, or the range is
not one in the text. -/
theorem TextInput.expandedRange_behind (h : TextInput s)
    (getStringBound : Chars → Int → Int → ℚ) (layout : PlaceHolderLayout)
    (hcursor : s.cursorPosition_ = s.displayString_.length) :
    ∃ first last, s.expandedRange getStringBound layout = s.measured getStringBound first last ∧
      0 ≤ first ∧
      (CursorInReach getStringBound layout s ∧ first ≤ last ∧
          last = s.displayString_.length - 1 ∨
        ¬CursorInReach getStringBound layout s ∧
          (last < first ∨ last = s.displayString_.length)) := by
  have hlength := List.length_pos_iff.mpr h.text
  have hreach : CursorInReach getStringBound layout s ↔ _ :=
    ⟨fun hreach => hreach.behind hcursor, fun hbehind => ⟨fun _ => hbehind, fun _ => by omega⟩⟩
  have hcases := h.expandedRange_cases getStringBound layout
  rw [hreach]
  unfold Expands at hcases
  rcases h.range with hunset | ⟨hx, hxy⟩
  · have hstart : s.adjustedStart = 0 := if_pos hunset
    have hend : s.adjustedEnd = s.displayString_.length - 1 := if_pos (Or.inl hunset)
    rw [hstart, hend] at hcases
    rcases hcases with ⟨-, hrange⟩ | ⟨-, hne, -⟩ | ⟨-, -, hrange⟩
    · exact ⟨_, _, hrange, le_refl 0, Or.inl ⟨Or.inl hunset, by omega, rfl⟩⟩
    · exact absurd rfl hne
    · exact ⟨_, _, hrange, le_refl 0, Or.inl ⟨Or.inl hunset, by omega, rfl⟩⟩
  · have hset : s.visibleDisplayStringRange_ ≠ {} := fun heq => by simp [heq] at hx
    have hstart := adjustedStart_eq_min hset
    by_cases hy : (s.displayString_.length : Int) ≤ s.visibleDisplayStringRange_.y
    · have hend : s.adjustedEnd = s.displayString_.length - 1 := if_pos (Or.inr hy)
      rw [hend] at hcases
      by_cases hin : s.visibleDisplayStringRange_.x < s.displayString_.length
      · rw [min_eq_left (by omega)] at hstart
        rw [hstart] at hcases
        rcases hcases with ⟨-, hrange⟩ | ⟨-, hne, -⟩ | ⟨-, -, hrange⟩
        · exact ⟨_, _, hrange, hx, Or.inl ⟨Or.inr (Or.inl ⟨hy, hin⟩), by omega, rfl⟩⟩
        · exact absurd rfl hne
        · exact ⟨_, _, hrange, le_refl 0, Or.inl ⟨Or.inr (Or.inl ⟨hy, hin⟩), by omega, rfl⟩⟩
      · -- The range starts behind the text as well.
        rw [min_eq_right (by omega), hcursor] at hstart
        rw [hstart] at hcases
        rcases hcases with ⟨-, hrange⟩ | ⟨-, hne, -⟩ | ⟨hexpand, -, -⟩
        · refine ⟨_, _, hrange, by omega, Or.inr ⟨?_, Or.inl (by omega)⟩⟩
          rintro (hunset | ⟨-, hx'⟩ | ⟨hy', -⟩)
          · exact hset hunset
          · exact hin hx'
          · omega
        · exact absurd rfl hne
        · omega
    · have hend : s.adjustedEnd = s.displayString_.length := by
        unfold adjustedEnd
        rw [if_neg (not_or.mpr ⟨hset, hy⟩)]
        omega
      rw [min_eq_left (by omega)] at hstart
      rw [hstart, hend] at hcases
      rcases hcases with ⟨hexpand, hrange⟩ | ⟨hexpand, -, hrange⟩ | ⟨-, heq, -⟩
      · refine ⟨_, _, hrange, hx, Or.inr ⟨?_, Or.inr rfl⟩⟩
        rintro (hunset | ⟨hy', -⟩ | ⟨-, hthird, hfits⟩)
        · exact hset hunset
        · exact hy hy'
        · exact hexpand ⟨hfits, by omega, by omega⟩
      · exact ⟨_, _, hrange, hx, Or.inl
          ⟨Or.inr (Or.inr ⟨by omega, by omega, hexpand.1⟩), by omega, rfl⟩⟩
      · omega

theorem TextInput.keeps_expandedRange (h : TextInput s)
    (hreach : CursorInReach getStringBound layout s) :
    Keeps getStringBound layout s (s.expandedRange getStringBound layout) := by
  rcases h.cursor_le.eq_or_lt with hcursor | hcursor
  · obtain ⟨first, last, hrange, hfirst, ⟨-, hle, hlast⟩ | ⟨hreach', -⟩⟩ :=
      h.expandedRange_behind getStringBound layout hcursor
    · rw [hrange]
      refine ⟨rfl, hfirst, hle, ?_, ?_, ?_, ?_⟩
      all_goals
        simp only [measured_visibleRangeStart, measured_visibleRangeEnd]
        omega
    · exact absurd hreach hreach'
  · obtain ⟨first, last, hrange, hfirst, hle, hge, hlast, hmoved⟩ :=
      h.expandedRange_inside getStringBound layout hcursor
    rw [hrange]
    refine ⟨rfl, hfirst, hle.trans hge, hlast, hle, by simp; omega, fun hlt => ?_⟩
    have hpair : s.cursorPosition_ + 2 ≤ s.displayString_.length := by
      simp only [measured_visibleRangeEnd] at hlt
      omega
    exact (hreach.inside hpair).resolve_right ((hmoved hpair).mp hlt)

theorem TextInput.misses_expandedRange (h : TextInput s)
    (hreach : ¬CursorInReach getStringBound layout s) :
    Misses getStringBound layout s (s.expandedRange getStringBound layout) := by
  rcases h.cursor_le.eq_or_lt with hcursor | hcursor
  · obtain ⟨first, last, hrange, -, ⟨hreach', -⟩ | ⟨-, hlast⟩⟩ :=
      h.expandedRange_behind getStringBound layout hcursor
    · exact absurd hreach' hreach
    · rw [hrange]
      rcases hlast with hreversed | hbehind
      · exact .reversed hreversed
      · exact .behind hcursor hbehind
  · obtain ⟨first, last, hrange, hfirst, hle, hge, hlast, hmoved⟩ :=
      h.expandedRange_inside getStringBound layout hcursor
    have hinside : ¬(s.cursorPosition_ + 2 ≤ s.displayString_.length → _) :=
      fun hinside => hreach ⟨fun hbehind => absurd hbehind hcursor.ne, hinside⟩
    obtain ⟨hpair, hneither⟩ := Classical.not_imp.mp hinside
    obtain ⟨hfits, hstays⟩ := not_or.mp hneither
    rw [hrange]
    exact .pair rfl hfirst hle ((hmoved hpair).mpr hstays) hlast (Bool.eq_false_iff.mpr hfits)

/-! ## What is drawn -/

theorem drawPlaceHolderDisplayString_eq_some (h : TextInput s) {fuel : Nat} {shown : PlaceHolder}
    (hshown : s.drawPlaceHolderDisplayString getStringBound layout fuel = some shown) :
    ∃ range, s.visibleRange getStringBound layout fuel = some range ∧
      shown.visibleDisplayStringRange_ = ⟨range.visibleRangeStart, range.visibleRangeEnd⟩ := by
  unfold drawPlaceHolderDisplayString showRange at hshown
  rw [if_neg h.text] at hshown
  obtain ⟨⟨shown', textWidth⟩, hshow, rfl⟩ := Option.map_eq_some_iff.mp hshown
  split at hshow
  · simp at hshow
  · rename_i range hrange
    obtain ⟨text, -, htext⟩ := Option.map_eq_some_iff.mp hshow
    cases htext
    exact ⟨range, hrange, rfl⟩

theorem exists_drawPlaceHolderDisplayString (h : TextInput s) {fuel : Nat}
    (hrange : s.visibleRange getStringBound layout fuel = some range)
    (hstart : 0 ≤ range.visibleRangeStart)
    (hle : range.visibleRangeStart ≤ s.displayString_.length) :
    ∃ shown, s.drawPlaceHolderDisplayString getStringBound layout fuel = some shown := by
  have hsubstr : leSize range.visibleRangeStart s.displayString_.length = true :=
    decide_eq_true ⟨hstart, hle⟩
  simp [drawPlaceHolderDisplayString, showRange, h.text, hrange, substr, hsubstr]

/-- The window follows the cursor if and only if the cursor is in reach. -/
theorem follows_iff (h : TextInput s)
    (hmeasure : MeasuresSlices layout (getStringBound s.displayString_) s.displayString_.length) :
    Follows getStringBound layout s ↔ CursorInReach getStringBound layout s := by
  constructor
  · intro hfollows
    by_contra hreach
    obtain ⟨fuel, shown, hshown⟩ := hfollows.terminates
    obtain ⟨range, hrange, heq⟩ := drawPlaceHolderDisplayString_eq_some h hshown
    have hshows := hfollows.shows fuel shown hshown
    rw [heq] at hshows
    exact (h.misses_expandedRange hreach).visibleRange hmeasure hrange hshows
  · intro hreach
    obtain ⟨⟨fuel, range, hrange⟩, hshows⟩ := (h.keeps_expandedRange hreach).visibleRange hmeasure
    refine ⟨⟨fuel, ?_⟩, fun fuel' shown hshown => ?_⟩
    · have hwindow := hshows fuel range hrange
      exact exists_drawPlaceHolderDisplayString h hrange hwindow.start_nonneg
        (hwindow.start_le.trans hwindow.end_lt.le)
    · obtain ⟨range', hrange', heq⟩ := drawPlaceHolderDisplayString_eq_some h hshown
      rw [heq]
      exact hshows fuel' range' hrange'

/-- Characters of width ten in a place holder of a hundred. -/
theorem measuresSlices_ten (length : Int) :
    MeasuresSlices ⟨100, 0, true⟩ (fun first last => (last - first + 1 : Int) * 10) length where
  additive first middle last _ _ _ _ := by
    push_cast
    ring
  nonneg i _ _ := by simp
  single i _ _ := by
    simp only [sub_self, zero_add, Int.cast_one, one_mul]
    decide +kernel

/-- The cursor stands in front of the second of three characters, and no range is set. -/
theorem follows_iff_unset :
    Follows (fun _ first last => (last - first + 1 : Int) * 10) ⟨100, 0, true⟩
      { displayString_ := [97, 98, 99], cursorPosition_ := 1 } :=
  (follows_iff ⟨by simp, by simp, by simp, Or.inl rfl⟩ (measuresSlices_ten 3)).mpr
    ⟨fun h => by simp at h, fun _ => Or.inl (by decide +kernel)⟩

/-- After a second character has been typed at the end the window ends behind the text. -/
theorem typed_behind_window :
    ∃ s : PlaceHolder, TextInput s ∧
      MeasuresSlices ⟨100, 0, true⟩ (fun first last => (last - first + 1 : Int) * 10)
        s.displayString_.length ∧
      ¬Follows (fun _ first last => (last - first + 1 : Int) * 10) ⟨100, 0, true⟩ s := by
  refine ⟨{ displayString_ := [97, 98], cursorPosition_ := 2
            visibleDisplayStringRange_ := ⟨0, 0⟩ },
    ⟨by simp, by simp, by simp, Or.inr (by simp)⟩, measuresSlices_ten 2, fun hfollows => ?_⟩
  obtain ⟨shown, hshown⟩ : ∃ shown, drawPlaceHolderDisplayString
      (fun _ first last => (last - first + 1 : Int) * 10) ⟨100, 0, true⟩
      { displayString_ := [97, 98], cursorPosition_ := 2
        visibleDisplayStringRange_ := ⟨0, 0⟩ } 1 = some shown ∧
      shown.visibleDisplayStringRange_ = ⟨0, 2⟩ := by
    decide +kernel
  exact absurd (hfollows.shows 1 shown hshown.1).end_lt (by simp [hshown.2])

end PlaceHolder

end ReactNativeSkia
