import ReactNativeSkia.Components.Proofs.ScrollRange
import ReactNativeSkia.Misc.Window
import Mathlib.Data.List.Pairwise
import Mathlib.Data.List.Sort

/-!
# Scrolling to the focus

What a scroll view shows is a window of the length of its frame. A scroll to a component puts the
window at the start or the end of the component before it is clamped. A snap puts it at an offset
from the list, which need not be anywhere near the component.
-/

namespace ReactNativeSkia

/-! ## Binary search -/

section
variable {offsets : List Int} {value o : Int}

theorem upperBound_eq_none (h : upperBound offsets value = none) : ∀ o ∈ offsets, o ≤ value := by
  intro o ho
  have hnot := List.find?_eq_none.mp h o ho
  simpa using hnot

/-- The first offset beyond the value is the least. -/
theorem upperBound_le (hsorted : offsets.Pairwise (· ≤ ·)) (h : upperBound offsets value = some o) :
    ∀ o' ∈ offsets, value < o' → o ≤ o' := by
  obtain ⟨-, before, after, rfl, hbefore⟩ := List.find?_eq_some_iff_append.mp h
  intro o' ho' hlt
  rcases List.mem_append.mp ho' with hmem | hmem
  · have hnot := hbefore o' hmem
    simp only [hlt, decide_true, Bool.not_true, Bool.false_eq_true] at hnot
  · rcases List.mem_cons.mp hmem with rfl | hmem
    · exact le_rfl
    · exact (List.pairwise_cons.mp (List.pairwise_append.mp hsorted).2.1).1 o' hmem

/-- In sorted offsets those before the value come first. -/
theorem takeWhile_lt_eq_filter (hsorted : offsets.Pairwise (· ≤ ·)) :
    offsets.takeWhile (fun offset => decide (offset < value)) =
      offsets.filter fun offset => decide (offset < value) := by
  induction offsets with
  | nil => rfl
  | cons x offsets ih =>
    obtain ⟨hle, hsorted⟩ := List.pairwise_cons.mp hsorted
    by_cases hlt : x < value
    · simp [hlt, ih hsorted]
    · have hnone : offsets.filter (fun offset => decide (offset < value)) = [] := by
        refine List.filter_eq_nil_iff.mpr fun y hy => ?_
        simpa using (not_lt.mp hlt).trans (hle y hy)
      simp [hlt, hnone]

/-- The last offset before the value is the greatest. -/
theorem beforeLowerBound_eq_some (hsorted : offsets.Pairwise (· ≤ ·))
    (h : beforeLowerBound offsets value = some o) :
    o ∈ offsets ∧ o < value ∧ ∀ o' ∈ offsets, o' < value → o' ≤ o := by
  rw [beforeLowerBound, takeWhile_lt_eq_filter hsorted] at h
  have hmem := List.mem_filter.mp (List.mem_of_getLast? h)
  refine ⟨hmem.1, by simpa using hmem.2, fun o' ho' hlt => ?_⟩
  have ho : o' ∈ offsets.filter fun offset => decide (offset < value) :=
    List.mem_filter.mpr ⟨ho', by simpa using hlt⟩
  have hlast := (hsorted.filter _).rel_getLast ho
  rw [List.getLast?_eq_some_getLast (List.ne_nil_of_mem ho)] at h
  exact hlast.trans (Option.some.inj h).le
end

section
variable [Skia]

namespace ScrollView

/-! ## What a scroll leaves alone -/

/-- Only the layer has changed. -/
def OnlyLayer (v v' : ScrollView) : Prop := ∃ layer, v' = v.withLayer layer

theorem OnlyLayer.refl (v : ScrollView) : v.OnlyLayer v := ⟨v.layer, rfl⟩

theorem handleScroll_onlyLayer (v : ScrollView) (pos : Int × Int) :
    v.OnlyLayer (v.handleScroll pos).1 := by
  unfold handleScroll
  split
  · exact .refl v
  · exact ⟨_, rfl⟩

theorem ScrollsOnce.onlyLayer {v : ScrollView} {result : ScrollView × ScrollStatus}
    (h : v.ScrollsOnce result) : v.OnlyLayer result.1 := by
  cases h with
  | stays => exact .refl v
  | scrolls pos => exact v.handleScroll_onlyLayer pos

theorem handleCommand_onlyLayer (v : ScrollView) (commandName : String) (args : List Dynamic) :
    v.OnlyLayer (v.handleCommand commandName args) := by
  unfold handleCommand
  split
  · split
    · split
      · exact v.handleScroll_onlyLayer _
      · split
        · exact .refl v
        · exact v.handleScroll_onlyLayer _
    · exact .refl v
  · split
    · split
      · exact v.handleScroll_onlyLayer _
      · exact .refl v
    · split
      · split
        · exact ⟨_, rfl⟩
        · exact .refl v
      · exact .refl v

theorem OnlyLayer.snapToOffsets {v v' : ScrollView} (h : v.OnlyLayer v') :
    v'.snapToOffsets_ = v.snapToOffsets_ := by
  obtain ⟨layer, rfl⟩ := h
  rfl

theorem updateComponentData_snapToOffsets (v : ScrollView) (frame : Option SkIRect)
    (props : Option ScrollViewProps) (contentSize : Option SkISize) (forceUpdate : Bool) :
    (v.updateComponentData frame props contentSize forceUpdate).snapToOffsets_ =
      props.elim v.snapToOffsets_ fun p => (p.snapToOffsets.map floatToInt).mergeSort := by
  have hstate (u : ScrollView) : (u.updateState contentSize).1.snapToOffsets_ =
      u.snapToOffsets_ := by
    cases contentSize with
    | none => rfl
    | some s =>
      show (u.updateComponentState s).1.snapToOffsets_ = u.snapToOffsets_
      unfold updateComponentState
      split
      · rfl
      · simp only
        split <;> exact (handleScroll_onlyLayer _ _).snapToOffsets
  have hprops (u : ScrollView) : (u.updateProps forceUpdate props).snapToOffsets_ =
      props.elim u.snapToOffsets_ fun p => (p.snapToOffsets.map floatToInt).mergeSort := by
    cases props with
    | none => rfl
    | some p =>
      have hinsets (w : ScrollView) :
          (w.updateScrollIndicatorInsets p forceUpdate).snapToOffsets_ = w.snapToOffsets_ := by
        unfold updateScrollIndicatorInsets
        dsimp only
        split <;> rfl
      refine (hinsets _).trans ?_
      unfold updateContentOffset
      split
      · exact (handleScroll_onlyLayer _ _).snapToOffsets
      · rfl
  calc (v.updateComponentData frame props contentSize forceUpdate).snapToOffsets_
      = (((v.updateLayout frame).updateProps forceUpdate props).updateState
          contentSize).1.snapToOffsets_ := rfl
    _ = _ := by
      rw [hstate, hprops]
      cases frame <;> rfl

/-- In every run from a new scroll view the snap offsets are sorted. -/
theorem run_snapToOffsets_sorted {p : ScrollViewProps} {v : ScrollView}
    (h : Run scrollStep anyStep { props := p } v) : v.snapToOffsets_.Pairwise (· ≤ ·) := by
  refine h.invariant (P := fun v => v.snapToOffsets_.Pairwise (· ≤ ·)) ?_ List.Pairwise.nil
  rintro u op _ hsorted - ⟨-, rfl⟩
  cases op with
  | updateComponentData frame props contentSize forceUpdate =>
    show (u.updateComponentData frame props contentSize forceUpdate).snapToOffsets_.Pairwise _
    rw [updateComponentData_snapToOffsets]
    cases props with
    | none => exact hsorted
    | some p => exact List.pairwise_mergeSort' (· ≤ ·) _
  | handleCommand commandName args =>
    exact (u.handleCommand_onlyLayer commandName args).snapToOffsets ▸ hsorted
  | scrollInDirection candidate direction =>
    exact (u.scrollInDirection_scrollsOnce candidate direction).onlyLayer.snapToOffsets ▸ hsorted
  | scrollTo candidate => exact (u.scrollTo_scrollsOnce candidate).onlyLayer.snapToOffsets ▸ hsorted

/-! ## Windows -/

/-- The length of the content along the active axis. -/
def contentLength (v : ScrollView) : Int :=
  if v.isHorizontalScroll_ then v.layer.contentSize_.width else v.layer.contentSize_.height

/-- Where a component begins on the active axis. -/
def spanStart (v : ScrollView) (frame : SkIRect) : Int :=
  if v.isHorizontalScroll_ then frame.left else frame.top

/-- Where a component ends on the active axis. -/
def spanEnd (v : ScrollView) (frame : SkIRect) : Int :=
  if v.isHorizontalScroll_ then frame.right else frame.bottom

/-- The component is to be seen on the active axis from end to end. -/
def Reveals (v : ScrollView) (frame : SkIRect) : Prop :=
  Shows v.frameLength v.activeOffset (v.spanStart frame) (v.spanEnd frame)

/-- A part of the component is to be seen on the active axis. -/
def PartlyReveals (v : ScrollView) (frame : SkIRect) : Prop :=
  Meets v.frameLength v.activeOffset (v.spanStart frame) (v.spanEnd frame)

instance (v : ScrollView) (frame : SkIRect) : Decidable (v.Reveals frame) :=
  inferInstanceAs (Decidable (Shows _ _ _ _))

instance (v : ScrollView) (frame : SkIRect) : Decidable (v.PartlyReveals frame) :=
  inferInstanceAs (Decidable (Meets _ _ _ _))

/-- The component lies within the content. -/
structure WithinContent (v : ScrollView) (frame : SkIRect) : Prop where
  left : 0 ≤ frame.left
  top : 0 ≤ frame.top
  right : frame.right ≤ v.layer.contentSize_.width
  bottom : frame.bottom ≤ v.layer.contentSize_.height

/-- The view scrolls horizontally exactly if its content is wider than its frame. -/
def AxisAccurate (v : ScrollView) : Prop :=
  v.isHorizontalScroll_ = decide (v.layer.contentSize_.width > v.layer.frame_.width)

variable {v v' : ScrollView} {frame : SkIRect} {direction : RnsKey}

theorem endOffset_eq (v : ScrollView) : v.endOffset = v.contentLength - v.frameLength := by
  unfold endOffset contentLength frameLength
  split <;> rfl

theorem WithinContent.spanStart_nonneg (h : v.WithinContent frame) : 0 ≤ v.spanStart frame := by
  unfold spanStart
  split
  · exact h.left
  · exact h.top

theorem WithinContent.spanEnd_le (h : v.WithinContent frame) :
    v.spanEnd frame ≤ v.contentLength := by
  unfold spanEnd contentLength
  split
  · exact h.right
  · exact h.bottom

theorem AxisAccurate.fitsContent (h : v.AxisAccurate) : v.FitsContent := by
  intro hh
  rw [AxisAccurate, hh] at h
  exact (of_decide_eq_true h.symm).le

/-- After a scroll the same component is looked for in the same length of frame. -/
theorem SameExtent.reveals_iff (h : v.SameExtent v') :
    v'.Reveals frame ↔
      Shows v.frameLength v'.activeOffset (v.spanStart frame) (v.spanEnd frame) := by
  simp only [Reveals, frameLength, spanStart, spanEnd, h.isHorizontal, h.frame]

theorem SameExtent.partlyReveals_iff (h : v.SameExtent v') :
    v'.PartlyReveals frame ↔
      Meets v.frameLength v'.activeOffset (v.spanStart frame) (v.spanEnd frame) := by
  simp only [PartlyReveals, frameLength, spanStart, spanEnd, h.isHorizontal, h.frame]

theorem handleScroll_activeOffset (v : ScrollView) (pos : Int × Int) :
    (v.handleScroll pos).1.activeOffset = if v.isHorizontalScroll_ then pos.1 else pos.2 := by
  have hpos := v.handleScroll_position pos
  obtain ⟨hx, hy⟩ := Prod.mk.inj hpos
  rw [activeOffset, (v.handleScroll_sameExtent pos).isHorizontal, hx, hy]

/-! ## To a component -/

/-- A scroll to where the component would be seen shows it: clamping does not hide it, and a
content that is no longer than the frame is seen from its start. -/
theorem handleScrollXY_reveals {x y : Int} (hwithin : v.WithinContent frame)
    (hshows : Shows v.frameLength (if v.isHorizontalScroll_ then x else y) (v.spanStart frame)
      (v.spanEnd frame)) :
    (v.handleScrollXY x y).1.Reveals frame := by
  have hclamped := hshows.clampOffset hwithin.spanStart_nonneg hwithin.spanEnd_le
  have hall (h : v.contentLength ≤ v.frameLength) :=
    shows_all h hwithin.spanStart_nonneg hwithin.spanEnd_le
  rw [handleScrollXY, (v.handleScroll_sameExtent _).reveals_iff, handleScroll_activeOffset]
  unfold clampedPosition
  cases hh : v.isHorizontalScroll_ with
  | true => simpa [clampOffset, contentLength, frameLength, hh] using hclamped
  | false =>
    by_cases hle : v.layer.contentSize_.height ≤ v.layer.frame_.height
    · simpa [contentLength, frameLength, hh, hle] using hall
    · simpa [clampOffset, contentLength, frameLength, hh, hle] using hclamped

/-- Along the active axis the view scrolls to the start or the end of the component. -/
theorem handleScrollTo_reveals (hwithin : v.WithinContent frame)
    (hlength : v.spanEnd frame - v.spanStart frame ≤ v.frameLength)
    (hdir : if v.isHorizontalScroll_ then direction = .RNS_KEY_Right ∨ direction = .RNS_KEY_Left
      else direction = .RNS_KEY_Down ∨ direction = .RNS_KEY_Up) :
    (v.handleScrollTo direction frame).1.Reveals frame := by
  have hstart := shows_start hlength
  have hend := shows_end hlength
  refine handleScrollXY_reveals hwithin ?_
  cases hh : v.isHorizontalScroll_ with
  | true =>
    simp only [hh, if_true, spanStart, spanEnd, frameLength] at hdir hstart hend ⊢
    rcases hdir with rfl | rfl
    · exact hend
    · exact hstart
  | false =>
    simp only [hh, Bool.false_eq_true, if_false, spanStart, spanEnd, frameLength]
      at hdir hstart hend ⊢
    rcases hdir with rfl | rfl
    · exact hend
    · exact hstart

/-- A key scrolls to the focus only where the view can be scrolled. -/
theorem canScrollInDirection_of_scrollToFocus {candidate : ScrollCandidate}
    (hstatus : (v.scrollInDirection candidate direction).2 = .scrollToFocus) :
    v.canScrollInDirection direction = true := by
  unfold scrollInDirection at hstatus
  split at hstatus
  · cases hstatus
  · rename_i hcan
    simpa using hcan

/-- Without paging and snap offsets, a scroll to the focus is one to the component. -/
theorem scrollInDirection_of_scrollToFocus (hpaging : v.pagingEnabled_ = false)
    (hsnap : v.snapToOffsets_ = [])
    (hstatus : (v.scrollInDirection (.other frame) direction).2 = .scrollToFocus) :
    v.canScrollInDirection direction = true ∧
      (v.scrollInDirection (.other frame) direction).1 =
        (v.handleScrollTo direction frame).1 := by
  have honly (pos : Int × Int) : (v.handleScroll pos).2 ≠ .scrollToFocus := by
    unfold handleScroll
    split <;> simp
  have hcan : v.canScrollInDirection direction = true :=
    canScrollInDirection_of_scrollToFocus hstatus
  refine ⟨hcan, ?_⟩
  unfold scrollInDirection at hstatus ⊢
  simp only [hcan, hsnap, hpaging, Bool.not_true, Bool.false_eq_true, ne_eq, not_true_eq_false,
    if_false] at hstatus ⊢
  split at hstatus
  · cases hstatus
  · rename_i hvisible
    rw [if_neg hvisible]
    split at hstatus
    · exact absurd hstatus (honly _)
    · rename_i hintersect
      rw [if_neg hintersect]

/-- The condition under which a snap shows a part of the component. Forward: an offset lies inside
it, or it reaches into the last window; and if no offset follows its start, it is already to be
seen. Backward: an offset lies less than a frame before it. -/
def SnapReveals (v : ScrollView) (direction : RnsKey) (frame : SkIRect) : Prop :=
  v.spanStart frame < v.spanEnd frame ∧
    if direction = .RNS_KEY_Right ∨ direction = .RNS_KEY_Down then
      if ∃ o ∈ v.snapToOffsets_, v.spanStart frame < o then
        (∃ o ∈ v.snapToOffsets_, v.spanStart frame < o ∧ o < v.spanEnd frame) ∨
          v.endOffset < v.spanEnd frame
      else v.activeOffset < v.spanEnd frame ∧ v.spanStart frame < v.activeOffset + v.frameLength
    else ∃ o ∈ v.snapToOffsets_, v.spanStart frame - v.frameLength < o ∧ o < v.spanStart frame

/-- A snap to the focus goes forward or backward from the component, and some offset is there. -/
theorem handleSnapToOffsetScroll_of_scrollToFocus
    (hstatus : (v.handleSnapToOffsetScroll direction (.other frame)).2 = .scrollToFocus) :
    ((direction = .RNS_KEY_Right ∨ direction = .RNS_KEY_Down) ∧
      (v.snapUpper (.other frame)).getD v.activeOffset ≠ v.snapOrigin (.other frame)) ∨
    (¬(direction = .RNS_KEY_Right ∨ direction = .RNS_KEY_Down) ∧
      (direction = .RNS_KEY_Left ∨ direction = .RNS_KEY_Up) ∧
      (beforeLowerBound v.snapToOffsets_ (v.snapOrigin (.other frame))).getD (-1) ≠ -1) := by
  by_cases hforward : direction = .RNS_KEY_Right ∨ direction = .RNS_KEY_Down
  · refine Or.inl ⟨hforward, fun heq => ?_⟩
    rw [handleSnapToOffsetScroll_forward v hforward, if_pos heq] at hstatus
    cases hstatus
  · by_cases hbackward : direction = .RNS_KEY_Left ∨ direction = .RNS_KEY_Up
    · refine Or.inr ⟨hforward, hbackward, fun heq => ?_⟩
      rw [handleSnapToOffsetScroll_backward v hforward hbackward, if_pos heq] at hstatus
      cases hstatus
    · rw [handleSnapToOffsetScroll_across v hforward hbackward] at hstatus
      cases hstatus

/-- A scroll along the active axis meets the component as the window at the offset does. -/
theorem scroll_partlyReveals_iff {key : RnsKey} {offset : Int}
    (haxis : v.axisPosition direction key offset =
      if v.isHorizontalScroll_ then (offset, v.layer.getScrollPosition.2)
      else (v.layer.getScrollPosition.1, offset)) :
    (v.handleScroll (v.axisPosition direction key offset)).1.PartlyReveals frame ↔
      Meets v.frameLength offset (v.spanStart frame) (v.spanEnd frame) := by
  rw [(v.handleScroll_sameExtent _).partlyReveals_iff, handleScroll_activeOffset, haxis]
  cases v.isHorizontalScroll_ <;> rfl

/-- Forward the view scrolls to the first offset after the start of the component, or stays where it
is if there is none. -/
theorem snapForward_partlyReveals_iff (hsorted : v.snapToOffsets_.Pairwise (· ≤ ·))
    (hrange : v.InRange) (hwithin : v.WithinContent frame)
    (hlength : v.spanEnd frame - v.spanStart frame ≤ v.frameLength)
    (hcan : v.canScrollInDirection direction = true)
    (hforward : direction = .RNS_KEY_Right ∨ direction = .RNS_KEY_Down)
    (hne : (v.snapUpper (.other frame)).getD v.activeOffset ≠ v.snapOrigin (.other frame)) :
    (v.handleSnapToOffsetScroll direction (.other frame)).1.PartlyReveals frame ↔
      v.SnapReveals direction frame := by
  obtain ⟨hroom, hdir⟩ := hrange.room hcan
  have haxis (offset : Int) := snap_axis hdir (Or.inl ⟨rfl, hforward⟩)
    v.layer.getScrollPosition offset
  rw [handleSnapToOffsetScroll_forward v hforward, if_neg hne,
    scroll_partlyReveals_iff (haxis _), SnapReveals, if_pos hforward, endOffset_eq]
  have hupper : v.snapUpper (.other frame) =
      upperBound v.snapToOffsets_ (v.spanStart frame) := rfl
  rw [hupper]
  cases hnext : upperBound v.snapToOffsets_ (v.spanStart frame) with
  | none =>
    have hnone : ¬∃ o ∈ v.snapToOffsets_, v.spanStart frame < o := by
      rintro ⟨o, ho, hlt⟩
      exact not_lt.mpr (upperBound_eq_none hnext o ho) hlt
    have hoffset : min (v.contentLength - v.frameLength) v.activeOffset = v.activeOffset := by
      rw [← endOffset_eq]
      exact min_eq_right (hrange.activeOffset_range hroom).2
    rw [if_neg hnone, Option.getD_none, hoffset, meets_iff_of_fits hlength]
  | some o =>
    have hmem : o ∈ v.snapToOffsets_ := List.mem_of_find?_eq_some hnext
    have hgt : v.spanStart frame < o := lt_of_upperBound hnext
    rw [if_pos ⟨o, hmem, hgt⟩, Option.getD_some,
      meets_forward_iff hlength hgt hwithin.spanEnd_le]
    refine and_congr_right fun _ => or_congr_left ⟨fun h => ⟨o, hmem, hgt, h⟩, ?_⟩
    rintro ⟨o', hmem', hgt', hlt'⟩
    exact (upperBound_le hsorted hnext o' hmem' hgt').trans_lt hlt'

/-- Backward the view scrolls to the last offset before the start of the component. -/
theorem snapBackward_partlyReveals_iff (hsorted : v.snapToOffsets_.Pairwise (· ≤ ·))
    (hrange : v.InRange) (hlength : v.spanEnd frame - v.spanStart frame ≤ v.frameLength)
    (hcan : v.canScrollInDirection direction = true)
    (hforward : ¬(direction = .RNS_KEY_Right ∨ direction = .RNS_KEY_Down))
    (hbackward : direction = .RNS_KEY_Left ∨ direction = .RNS_KEY_Up)
    (hne : (beforeLowerBound v.snapToOffsets_ (v.snapOrigin (.other frame))).getD (-1) ≠ -1) :
    (v.handleSnapToOffsetScroll direction (.other frame)).1.PartlyReveals frame ↔
      v.SnapReveals direction frame := by
  obtain ⟨-, hdir⟩ := hrange.room hcan
  have haxis (offset : Int) := snap_axis hdir (Or.inr ⟨rfl, hforward⟩)
    v.layer.getScrollPosition offset
  rw [handleSnapToOffsetScroll_backward v hforward hbackward, if_neg hne,
    scroll_partlyReveals_iff (haxis _), SnapReveals, if_neg hforward]
  have horigin : v.snapOrigin (.other frame) = v.spanStart frame := rfl
  rw [horigin] at hne ⊢
  cases hprev : beforeLowerBound v.snapToOffsets_ (v.spanStart frame) with
  | none =>
    rw [hprev] at hne
    exact absurd rfl hne
  | some o =>
    obtain ⟨hmem, hlt, hgreatest⟩ := beforeLowerBound_eq_some hsorted hprev
    rw [Option.getD_some, meets_backward_iff hlength hlt]
    refine and_congr_right fun _ => ⟨fun h => ⟨o, hmem, h, hlt⟩, ?_⟩
    rintro ⟨o', hmem', hgt', hlt'⟩
    exact hgt'.trans_le (hgreatest o' hmem' hlt')

end ScrollView

end

open TranslationSkia

namespace ScrollView

/-- A list of 100 by 200 in a frame of 100 by 50, with these snap offsets. -/
def snapList (snapToOffsets : List Int) : ScrollView where
  snapToOffsets_ := snapToOffsets
  layer := { type_ := .scroll, frame_ := ⟨0, 0, 100, 50⟩, contentSize_ := ⟨100, 200⟩ }

/-- An item of the list that is partly past the next half frame. -/
def snapListItem : SkIRect := ⟨0, 60, 100, 90⟩

theorem snapListItem_withinContent (offsets : List Int) :
    (snapList offsets).WithinContent snapListItem where
  left := by decide
  top := by decide
  right := le_refl (100 : Int)
  bottom := (by decide : (90 : Int) ≤ 200)

theorem snapList_inRange (offsets : List Int) : (snapList offsets).InRange :=
  ⟨le_refl _, (by decide : (0 : Int) ≤ max 0 (200 - 50)), rfl⟩

end ScrollView

end ReactNativeSkia
