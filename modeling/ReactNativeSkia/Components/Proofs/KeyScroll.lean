import ReactNativeSkia.Components.Proofs.ScrollToFocus
import ReactNativeSkia.Misc.Advance
import Mathlib.Data.Int.Interval

/-!
# Scrolling with the keys

A key that finds nothing to focus scrolls by half a frame or a whole one, and to the end if less is
left. The test whether the view can be scrolled is another formula; it says no exactly at the end.
-/

namespace ReactNativeSkia

/-- A key towards the end of the content. -/
abbrev RnsKey.IsForward (direction : RnsKey) : Prop :=
  direction = .RNS_KEY_Right ∨ direction = .RNS_KEY_Down

/-- How far an offset lies in the direction of a key. -/
def toward (direction : RnsKey) (offset : Int) : Int :=
  if direction.IsForward then offset else -offset

section
variable [Skia]

namespace ScrollView

/-- The offset at the end in the direction of a key. -/
def extremeOffset (v : ScrollView) (direction : RnsKey) : Int :=
  if direction.IsForward then v.endOffset else 0

/-- The key runs along the active axis. -/
def OnAxis (v : ScrollView) (direction : RnsKey) : Prop :=
  if v.isHorizontalScroll_ then direction = .RNS_KEY_Right ∨ direction = .RNS_KEY_Left
  else direction = .RNS_KEY_Down ∨ direction = .RNS_KEY_Up

/-- The next offset along the active axis. -/
def nextOffset (v : ScrollView) (direction : RnsKey) : Int :=
  v.calculateNextScrollOffset
    (if direction.IsForward then .ScrollDirectionForward else .ScrollDirectionBackward)
    v.contentLength v.frameLength v.activeOffset

/-- The view after a key that finds nothing to focus. -/
def keyScrolled (direction : RnsKey) (v : ScrollView) : ScrollView :=
  (v.scrollInDirection .null direction).1

variable {v v' : ScrollView} {direction : RnsKey}

theorem getNextScrollPosition_eq (h : v.OnAxis direction) :
    v.getNextScrollPosition direction =
      if v.isHorizontalScroll_ then (v.nextOffset direction, v.layer.getScrollPosition.2)
      else (v.layer.getScrollPosition.1, v.nextOffset direction) := by
  unfold OnAxis at h
  unfold getNextScrollPosition nextOffset contentLength frameLength activeOffset
  cases hh : v.isHorizontalScroll_ with
  | true =>
    simp only [hh, if_true] at h ⊢
    rcases h with rfl | rfl <;> rfl
  | false =>
    simp only [hh, Bool.false_eq_true, if_false] at h ⊢
    rcases h with rfl | rfl <;> rfl

/-- The test agrees with the end of the content. -/
theorem InRange.canScroll_iff (h : v.InRange) (henabled : v.scrollEnabled_ = true)
    (haxis : v.OnAxis direction) :
    v.canScrollInDirection direction = true ↔
      if direction.IsForward then v.activeOffset < v.endOffset else 0 < v.activeOffset := by
  unfold InRange PositionInRange Layer.getScrollPosition at h
  unfold OnAxis at haxis
  unfold canScrollInDirection activeOffset endOffset Layer.getScrollPosition
  cases hh : v.isHorizontalScroll_ with
  | true =>
    simp only [hh, if_true] at h haxis ⊢
    rcases haxis with rfl | rfl
    · simp [henabled, RnsKey.IsForward]
      omega
    · simp [henabled, RnsKey.IsForward]
      omega
  | false =>
    simp only [hh, Bool.false_eq_true, if_false] at h haxis ⊢
    rcases haxis with rfl | rfl
    · simp [henabled, RnsKey.IsForward]
      omega
    · simp [henabled, RnsKey.IsForward]
      omega

/-- A step from between the ends goes on, by a frame at most. -/
theorem nextOffset_toward (hlength : 2 ≤ v.frameLength)
    (hroom : if direction.IsForward then v.activeOffset < v.endOffset else 0 < v.activeOffset) :
    toward direction v.activeOffset < toward direction (v.nextOffset direction) ∧
      toward direction (v.nextOffset direction) ≤
        toward direction v.activeOffset + v.frameLength := by
  have hhalf : v.frameLength.tdiv 2 = v.frameLength / 2 :=
    Int.tdiv_eq_ediv_of_nonneg (by omega)
  have hstep : ∃ step, (if v.pagingEnabled_ then v.frameLength else v.frameLength.tdiv 2) = step ∧
      1 ≤ step ∧ step ≤ v.frameLength := by
    refine ⟨_, rfl, ?_⟩
    rw [hhalf]
    split <;> omega
  obtain ⟨step, hstep, hpos, hle⟩ := hstep
  rw [endOffset_eq] at hroom
  unfold toward nextOffset calculateNextScrollOffset
  rw [hstep]
  by_cases hforward : direction.IsForward
  · simp only [if_pos hforward] at hroom ⊢
    split <;> omega
  · simp only [if_neg hforward] at hroom ⊢
    split <;> omega

theorem canScrollInDirection_enabled (h : v.canScrollInDirection direction = true) :
    v.scrollEnabled_ = true := by
  by_contra hnot
  rw [canScrollInDirection, if_pos (by simp [hnot])] at h
  cases h

/-- One press: the offset goes on towards the end and stays in range. -/
theorem InRange.keyScrolled (h : v.InRange) (hsnap : v.snapToOffsets_ = [])
    (hlength : 2 ≤ v.frameLength) (hcan : v.canScrollInDirection direction = true) :
    toward direction v.activeOffset < toward direction (v.keyScrolled direction).activeOffset ∧
      toward direction (v.keyScrolled direction).activeOffset ≤
        toward direction v.activeOffset + v.frameLength ∧
      (v.keyScrolled direction).InRange := by
  obtain ⟨hroom, haxis⟩ := h.room hcan
  have henabled := canScrollInDirection_enabled hcan
  have hscrolled : v.keyScrolled direction =
      (v.handleScroll (v.getNextScrollPosition direction)).1 := by
    simp [ScrollView.keyScrolled, scrollInDirection, hcan, hsnap]
  have hoffset : (v.keyScrolled direction).activeOffset = v.nextOffset direction := by
    rw [hscrolled, handleScroll_activeOffset, getNextScrollPosition_eq haxis]
    split <;> rfl
  have hnext := nextOffset_toward hlength ((h.canScroll_iff henabled haxis).mp hcan)
  rw [hoffset]
  refine ⟨hnext.1, hnext.2, ?_⟩
  rw [hscrolled, getNextScrollPosition_eq haxis, h.scroll_iff hroom, endOffset_eq]
  have hrange := h.activeOffset_range hroom
  rw [endOffset_eq] at hroom hrange
  exact v.calculateNextScrollOffset_range _ (by omega) hroom hrange.1 hrange.2

/-- The view still has its content, frame and settings, and its offset is in range. -/
structure Scrolled (v v' : ScrollView) : Prop where
  extent : v.SameExtent v'
  onlyLayer : v.OnlyLayer v'
  inRange : v'.InRange

theorem keyScrolled_of_not_canScroll (h : v.canScrollInDirection direction = false) :
    v.keyScrolled direction = v := by
  simp [ScrollView.keyScrolled, scrollInDirection, h]

theorem OnlyLayer.trans {u : ScrollView} (h : u.OnlyLayer v) (h' : v.OnlyLayer v') :
    u.OnlyLayer v' := by
  obtain ⟨layer, rfl⟩ := h
  obtain ⟨layer', rfl⟩ := h'
  exact ⟨layer', rfl⟩

theorem Scrolled.frameLength (h : Scrolled v v') : v'.frameLength = v.frameLength := by
  rw [ScrollView.frameLength, ScrollView.frameLength, h.extent.isHorizontal, h.extent.frame]

theorem Scrolled.endOffset (h : Scrolled v v') : v'.endOffset = v.endOffset := by
  rw [ScrollView.endOffset, ScrollView.endOffset, h.extent.isHorizontal, h.extent.contentSize,
    h.extent.frame]

theorem Scrolled.step (h : Scrolled v v') (hsnap : v.snapToOffsets_ = [])
    (hlength : 2 ≤ v.frameLength) : Scrolled v (v'.keyScrolled direction) where
  extent := h.extent.trans (v'.scrollInDirection_scrollsOnce .null direction).sameExtent
  onlyLayer := h.onlyLayer.trans (v'.scrollInDirection_scrollsOnce .null direction).onlyLayer
  inRange := by
    cases hcan : v'.canScrollInDirection direction with
    | false =>
      rw [keyScrolled_of_not_canScroll hcan]
      exact h.inRange
    | true =>
      rw [← h.frameLength] at hlength
      exact (h.inRange.keyScrolled (h.onlyLayer.snapToOffsets.trans hsnap) hlength hcan).2.2

theorem scrolled_iterate (h : v.InRange) (hsnap : v.snapToOffsets_ = [])
    (hlength : 2 ≤ v.frameLength) (direction : RnsKey) (n : ℕ) :
    Scrolled v ((ScrollView.keyScrolled direction)^[n] v) := by
  induction n with
  | zero => exact ⟨.refl v, .refl v, h⟩
  | succ n ih =>
    rw [Function.iterate_succ_apply']
    exact ih.step hsnap hlength

/-- Presses in one direction advance the offset or leave it where it is. -/
theorem advances_iterate (h : v.InRange) (hsnap : v.snapToOffsets_ = [])
    (hlength : 2 ≤ v.frameLength) (direction : RnsKey) :
    Advances (toward direction) fun n =>
      ((ScrollView.keyScrolled direction)^[n] v).activeOffset := by
  intro n
  have hn := scrolled_iterate h hsnap hlength direction n
  simp only [Function.iterate_succ_apply']
  cases hcan : ((ScrollView.keyScrolled direction)^[n] v).canScrollInDirection direction with
  | false => exact Or.inl (congrArg activeOffset (keyScrolled_of_not_canScroll hcan))
  | true =>
    rw [← hn.frameLength] at hlength
    exact Or.inr
      (hn.inRange.keyScrolled (hn.onlyLayer.snapToOffsets.trans hsnap) hlength hcan).1

theorem finite_iterate (h : v.InRange) (hsnap : v.snapToOffsets_ = [])
    (hlength : 2 ≤ v.frameLength) (hroom : 0 < v.endOffset) (direction : RnsKey) :
    (Set.range fun n => ((ScrollView.keyScrolled direction)^[n] v).activeOffset).Finite := by
  apply (Set.finite_Icc 0 v.endOffset).subset
  rintro _ ⟨n, rfl⟩
  have hn := scrolled_iterate h hsnap hlength direction n
  have hrange := hn.inRange.activeOffset_range (hn.endOffset.symm ▸ hroom)
  rw [hn.endOffset] at hrange
  exact hrange

/-- Where the view can be scrolled no further, the offset is the last one. -/
theorem Scrolled.activeOffset_eq (h : Scrolled v v') (henabled : v.scrollEnabled_ = true)
    (haxis : v.OnAxis direction) (hroom : 0 < v.endOffset)
    (hcan : v'.canScrollInDirection direction = false) :
    v'.activeOffset = v.extremeOffset direction := by
  have henabled' : v'.scrollEnabled_ = true := by
    obtain ⟨layer, rfl⟩ := h.onlyLayer
    exact henabled
  have haxis' : v'.OnAxis direction := by
    rw [OnAxis, h.extent.isHorizontal]
    exact haxis
  have hrange := h.inRange.activeOffset_range (h.endOffset.symm ▸ hroom)
  have hnot := mt (h.inRange.canScroll_iff henabled' haxis').mpr (by simp [hcan])
  rw [h.endOffset] at hrange hnot
  unfold extremeOffset
  by_cases hforward : direction.IsForward
  · rw [if_pos hforward] at hnot ⊢
    omega
  · rw [if_neg hforward] at hnot ⊢
    omega

end ScrollView

end

open TranslationSkia

namespace ScrollView

end ScrollView

end ReactNativeSkia
