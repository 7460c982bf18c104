import ReactNativeSkia.Components.ScrollView

/-!
# The range of the scroll offset

A scroll position should lie between the start and the end of the content on the active axis and
be zero on the other. Every scroll to a clamped position does this as long as the content is at
least as wide as the frame of a horizontal view; the end of the content and the snap offsets are
scrolled to unclamped, and a new frame is not followed by a scroll at all.
-/

namespace ReactNativeSkia

/-- Position `pos` is in range for this orientation, content and frame. -/
def PositionInRange (isHorizontal : Bool) (contentSize : SkISize) (frame : SkIRect)
    (pos : Int × Int) : Prop :=
  if isHorizontal then 0 ≤ pos.1 ∧ pos.1 ≤ max 0 (contentSize.width - frame.width) ∧ pos.2 = 0
  else 0 ≤ pos.2 ∧ pos.2 ≤ max 0 (contentSize.height - frame.height) ∧ pos.1 = 0

instance (isHorizontal : Bool) (contentSize : SkISize) (frame : SkIRect) (pos : Int × Int) :
    Decidable (PositionInRange isHorizontal contentSize frame pos) := by
  unfold PositionInRange
  infer_instance

theorem lt_of_upperBound {offsets : List Int} {value o : Int}
    (h : upperBound offsets value = some o) : value < o := by
  simpa using List.find?_some h

/-- The key that the view can be scrolled with decides which coordinate a snap changes. -/
theorem snap_axis {isHorizontal : Bool} {direction key : RnsKey}
    (hdir : if isHorizontal then direction = .RNS_KEY_Right ∨ direction = .RNS_KEY_Left
      else direction = .RNS_KEY_Down ∨ direction = .RNS_KEY_Up)
    (hkey : key = .RNS_KEY_Right ∧ (direction = .RNS_KEY_Right ∨ direction = .RNS_KEY_Down) ∨
      key = .RNS_KEY_Left ∧ ¬(direction = .RNS_KEY_Right ∨ direction = .RNS_KEY_Down))
    (pos : Int × Int) (offset : Int) :
    (if direction = key then (offset, pos.2) else (pos.1, offset)) =
      if isHorizontal then (offset, pos.2) else (pos.1, offset) := by
  cases isHorizontal with
  | true =>
    simp only [if_true] at hdir ⊢
    rcases hdir with rfl | rfl <;> rcases hkey with ⟨rfl, hk⟩ | ⟨rfl, hk⟩ <;> simp at hk ⊢
  | false =>
    simp only [Bool.false_eq_true, if_false] at hdir ⊢
    rcases hdir with rfl | rfl <;> rcases hkey with ⟨rfl, hk⟩ | ⟨rfl, hk⟩ <;> simp at hk ⊢

namespace ScrollView

variable [Skia]

def InRange (v : ScrollView) : Prop :=
  PositionInRange v.isHorizontalScroll_ v.layer.contentSize_ v.layer.frame_
    v.layer.getScrollPosition

/-- The frame of a horizontal view is no wider than its content. -/
def FitsContent (v : ScrollView) : Prop :=
  v.isHorizontalScroll_ = true → v.layer.frame_.width ≤ v.layer.contentSize_.width

/-- The farthest offset on the active axis. -/
def endOffset (v : ScrollView) : Int :=
  if v.isHorizontalScroll_ then v.layer.contentSize_.width - v.layer.frame_.width
  else v.layer.contentSize_.height - v.layer.frame_.height

/-- The position on the active axis. -/
def activeOffset (v : ScrollView) : Int :=
  if v.isHorizontalScroll_ then v.layer.scrollOffsetX_ else v.layer.scrollOffsetY_

/-- The coordinate that the snap offsets are compared with. -/
def snapOrigin (v : ScrollView) : ScrollCandidate → Int
  | .other frame => if v.isHorizontalScroll_ then frame.left else frame.top
  | _ => v.activeOffset

/-- The length of the frame along the active axis. -/
def frameLength (v : ScrollView) : Int :=
  if v.isHorizontalScroll_ then v.layer.frame_.width else v.layer.frame_.height

/-- The position with `offset` put in the coordinate that `key` stands for. -/
def axisPosition (v : ScrollView) (direction key : RnsKey) (offset : Int) : Int × Int :=
  if direction = key then (offset, v.layer.getScrollPosition.2)
  else (v.layer.getScrollPosition.1, offset)

/-- The snap offset that a forward key looks for. -/
def snapUpper (v : ScrollView) : ScrollCandidate → Option Int
  | .other frame => upperBound v.snapToOffsets_ (v.snapOrigin (.other frame))
  | _ => upperBound v.snapToOffsets_ (v.activeOffset + v.frameLength)

/-- What a snap for the candidate reports. -/
def snapStatus : ScrollCandidate → ScrollStatus
  | .other _ => .scrollToFocus
  | _ => .scrollOnly

/-- The snap offset that a key leads to is one that the view can be scrolled to: forward, the
next one after another component is not negative; backward, the last one before is `-1`, which
the code takes for none, or in range. -/
def SnapsInRange (v : ScrollView) (candidate : ScrollCandidate) (direction : RnsKey) : Prop :=
  if direction = .RNS_KEY_Right ∨ direction = .RNS_KEY_Down then
    ∀ frame, candidate = .other frame →
      ∀ o ∈ upperBound v.snapToOffsets_ (v.snapOrigin candidate), 0 ≤ o
  else
    ∀ o ∈ beforeLowerBound v.snapToOffsets_ (v.snapOrigin candidate),
      o = -1 ∨ (0 ≤ o ∧ o ≤ v.endOffset)

/-- The props of an update make the view scroll to their content offset. -/
def Rescrolls (v : ScrollView) (props : Option ScrollViewProps) (forceUpdate : Bool) : Prop :=
  ∃ p ∈ props, forceUpdate = true ∨ v.props.contentOffset ≠ p.contentOffset

/-- The operation meets the code's own assumptions. An update changes the size of the content, or
scrolls to a content offset that fits, or leaves the offset before the end that its new frame
gives; a command and a scroll to a candidate find a view that fits its content; and a key snaps
to an offset that the view can be scrolled to. -/
def KeepsInRange (v : ScrollView) : ScrollOp → Prop
  | .updateComponentData frame props contentSize forceUpdate =>
    (∃ s ∈ contentSize, v.layer.contentSize_ ≠ s) ∨
      (v.Rescrolls props forceUpdate ∧ (v.updateLayout frame).FitsContent) ∨
      (¬v.Rescrolls props forceUpdate ∧
        ∀ r ∈ frame, v.activeOffset ≤ max 0 (v.updateLayout (some r)).endOffset)
  | .handleCommand commandName args =>
    (commandName = "scrollToEnd" ∧ ∃ b, args = [.bool b]) ∨
      (commandName = "scrollTo" ∧ ∃ x y b, args = [.double x, .double y, .bool b]) →
      v.FitsContent
  | .scrollInDirection candidate direction =>
    v.canScrollInDirection direction = true → v.snapToOffsets_ ≠ [] →
      v.SnapsInRange candidate direction
  | .scrollTo candidate =>
    ∀ frame, candidate = .other frame → v.isVisible frame = false → v.FitsContent

/-- What a scroll leaves alone. -/
structure SameExtent (v v' : ScrollView) : Prop where
  isHorizontal : v'.isHorizontalScroll_ = v.isHorizontalScroll_
  contentSize : v'.layer.contentSize_ = v.layer.contentSize_
  frame : v'.layer.frame_ = v.layer.frame_

section
variable {v v' : ScrollView}

theorem SameExtent.refl (v : ScrollView) : v.SameExtent v := ⟨rfl, rfl, rfl⟩

theorem SameExtent.trans {u : ScrollView} (h : u.SameExtent v) (h' : v.SameExtent v') :
    u.SameExtent v' :=
  ⟨h'.isHorizontal.trans h.isHorizontal, h'.contentSize.trans h.contentSize,
    h'.frame.trans h.frame⟩

/-- `handleScroll` scrolls to the position it is given, whether it was there already or not. -/
theorem handleScroll_position (v : ScrollView) (pos : Int × Int) :
    (v.handleScroll pos).1.layer.getScrollPosition = pos := by
  unfold handleScroll
  split
  · rename_i h
    exact h.symm
  · split <;> rfl

theorem handleScroll_sameExtent (v : ScrollView) (pos : Int × Int) :
    v.SameExtent (v.handleScroll pos).1 := by
  unfold handleScroll
  split
  · exact .refl v
  · split <;> exact ⟨rfl, rfl, rfl⟩

theorem handleScroll_inRange_iff (v : ScrollView) (pos : Int × Int) :
    (v.handleScroll pos).1.InRange ↔
      PositionInRange v.isHorizontalScroll_ v.layer.contentSize_ v.layer.frame_ pos := by
  have h := v.handleScroll_sameExtent pos
  rw [InRange, h.isHorizontal, h.contentSize, h.frame, handleScroll_position]

/-- A clamped position is in range unless a horizontal view is wider than its content: then the
upper bound of the clamp is negative. -/
theorem clampedPosition_inRange_iff (v : ScrollView) (x y : Int) :
    PositionInRange v.isHorizontalScroll_ v.layer.contentSize_ v.layer.frame_
      (v.clampedPosition x y) ↔ v.FitsContent := by
  unfold PositionInRange clampedPosition FitsContent
  cases v.isHorizontalScroll_ with
  | true =>
    simp only [if_true, forall_const, and_true]
    omega
  | false =>
    simp only [Bool.false_eq_true, if_false, false_implies, iff_true]
    split <;> simp only [and_true] <;> omega

theorem handleScrollXY_inRange_iff (v : ScrollView) (x y : Int) :
    (v.handleScrollXY x y).1.InRange ↔ v.FitsContent := by
  rw [handleScrollXY, handleScroll_inRange_iff, clampedPosition_inRange_iff]

theorem handleScrollTo_inRange_iff (v : ScrollView) (direction : RnsKey) (frame : SkIRect) :
    (v.handleScrollTo direction frame).1.InRange ↔ v.FitsContent := by
  rw [handleScrollTo]
  exact v.handleScrollXY_inRange_iff _ _

/-! ## Keys -/

/-- Where the view can be scrolled there is room, and the key runs along the active axis. -/
theorem InRange.room (h : v.InRange) {direction : RnsKey}
    (hcan : v.canScrollInDirection direction = true) :
    0 < v.endOffset ∧
      if v.isHorizontalScroll_ then direction = .RNS_KEY_Right ∨ direction = .RNS_KEY_Left
      else direction = .RNS_KEY_Down ∨ direction = .RNS_KEY_Up := by
  unfold InRange PositionInRange at h
  unfold canScrollInDirection at hcan
  unfold endOffset
  cases hh : v.isHorizontalScroll_ with
  | true =>
    simp only [hh, if_true, Layer.getScrollPosition] at h hcan ⊢
    split at hcan
    · cases hcan
    · split at hcan
      · rename_i hd
        replace hcan := of_decide_eq_true hcan
        exact ⟨by omega, Or.inl hd⟩
      · split at hcan
        · rename_i hd
          replace hcan := of_decide_eq_true hcan
          exact ⟨by omega, Or.inr hd⟩
        · cases hcan
  | false =>
    simp only [hh, Bool.false_eq_true, if_false, Layer.getScrollPosition] at h hcan ⊢
    split at hcan
    · cases hcan
    · split at hcan
      · cases hcan
      · split at hcan
        · rename_i hd
          replace hcan := of_decide_eq_true hcan
          exact ⟨by omega, Or.inl hd⟩
        · split at hcan
          · rename_i hd
            replace hcan := of_decide_eq_true hcan
            exact ⟨by omega, Or.inr hd⟩
          · cases hcan

theorem fitsContent_of_room (h : 0 < v.endOffset) : v.FitsContent := by
  intro hh
  rw [endOffset, if_pos hh] at h
  omega

/-- A step of half a view or a whole one stays between the ends. -/
theorem calculateNextScrollOffset_range (v : ScrollView) (scrollDirection : ScrollDirectionType)
    {contentLength viewLength offset : Int} (hview : 0 ≤ viewLength)
    (hroom : 0 < contentLength - viewLength) (h0 : 0 ≤ offset)
    (hend : offset ≤ contentLength - viewLength) :
    0 ≤ v.calculateNextScrollOffset scrollDirection contentLength viewLength offset ∧
      v.calculateNextScrollOffset scrollDirection contentLength viewLength offset ≤
        contentLength - viewLength := by
  have hhalf : viewLength.tdiv 2 = viewLength / 2 := Int.tdiv_eq_ediv_of_nonneg hview
  unfold calculateNextScrollOffset
  rw [hhalf]
  cases scrollDirection with
  | ScrollDirectionForward =>
    simp only
    split <;> split <;> omega
  | ScrollDirectionBackward =>
    simp only
    split <;> split <;> omega

/-- The next position for a key that can scroll is in range. -/
theorem InRange.next (h : v.InRange) (hw : 0 ≤ v.layer.frame_.width)
    (hht : 0 ≤ v.layer.frame_.height) {direction : RnsKey}
    (hcan : v.canScrollInDirection direction = true) :
    PositionInRange v.isHorizontalScroll_ v.layer.contentSize_ v.layer.frame_
      (v.getNextScrollPosition direction) := by
  obtain ⟨hroom, hdir⟩ := h.room hcan
  unfold InRange PositionInRange at h
  unfold endOffset at hroom
  unfold getNextScrollPosition PositionInRange
  cases hh : v.isHorizontalScroll_ with
  | true =>
    simp only [hh, if_true] at h hroom hdir ⊢
    rw [if_pos hdir]
    have hnext := v.calculateNextScrollOffset_range
      (if direction = .RNS_KEY_Right then .ScrollDirectionForward else .ScrollDirectionBackward)
      hw hroom h.1 (by omega)
    exact ⟨hnext.1, by omega, h.2.2⟩
  | false =>
    simp only [hh, Bool.false_eq_true, if_false] at h hroom hdir ⊢
    rw [if_neg (by rcases hdir with rfl | rfl <;> decide), if_pos hdir]
    have hnext := v.calculateNextScrollOffset_range
      (if direction = .RNS_KEY_Down then .ScrollDirectionForward else .ScrollDirectionBackward)
      hht hroom h.1 (by omega)
    exact ⟨hnext.1, by omega, h.2.2⟩

/-- Where the position ends up on the active axis decides whether it is in range. -/
theorem InRange.scroll_iff (h : v.InRange) (hroom : 0 < v.endOffset) (offset : Int) :
    (v.handleScroll (if v.isHorizontalScroll_ then (offset, v.layer.getScrollPosition.2)
      else (v.layer.getScrollPosition.1, offset))).1.InRange ↔
      0 ≤ offset ∧ offset ≤ v.endOffset := by
  rw [handleScroll_inRange_iff]
  unfold InRange PositionInRange at h
  unfold PositionInRange endOffset at *
  cases hh : v.isHorizontalScroll_ with
  | true =>
    simp only [hh, if_true] at h hroom ⊢
    omega
  | false =>
    simp only [hh, Bool.false_eq_true, if_false] at h hroom ⊢
    omega

/-- Where there is room a position in range lies between zero and the end. -/
theorem InRange.activeOffset_range (h : v.InRange) (hroom : 0 < v.endOffset) :
    0 ≤ v.activeOffset ∧ v.activeOffset ≤ v.endOffset := by
  unfold InRange PositionInRange Layer.getScrollPosition at h
  unfold endOffset at hroom
  unfold activeOffset endOffset
  cases hh : v.isHorizontalScroll_ with
  | true =>
    simp only [hh, if_true] at h hroom ⊢
    omega
  | false =>
    simp only [hh, Bool.false_eq_true, if_false] at h hroom ⊢
    omega

/-- What a forward key does with the offset it finds. -/
theorem handleSnapToOffsetScroll_forward (v : ScrollView) {direction : RnsKey}
    (hforward : direction = .RNS_KEY_Right ∨ direction = .RNS_KEY_Down)
    (candidate : ScrollCandidate) :
    v.handleSnapToOffsetScroll direction candidate =
      if (v.snapUpper candidate).getD v.activeOffset = v.snapOrigin candidate then (v, .noScroll)
      else ((v.handleScroll (v.axisPosition direction .RNS_KEY_Right
        (min v.endOffset ((v.snapUpper candidate).getD v.activeOffset)))).1,
        snapStatus candidate) := by
  have hmin (next : Int) : min v.endOffset next =
      if (if v.isHorizontalScroll_ then v.layer.contentSize_.width
          else v.layer.contentSize_.height) - next < v.frameLength then
        (if v.isHorizontalScroll_ then v.layer.contentSize_.width
          else v.layer.contentSize_.height) - v.frameLength
      else next := by
    unfold endOffset frameLength
    cases v.isHorizontalScroll_ <;> simp only [Bool.false_eq_true, if_true, if_false] <;>
      split <;> omega
  rw [hmin]
  unfold handleSnapToOffsetScroll
  simp only [if_pos hforward]
  cases candidate with
  | null => rfl
  | this => rfl
  | other frame => rfl

/-- What a backward key does with the offset it finds. -/
theorem handleSnapToOffsetScroll_backward (v : ScrollView) {direction : RnsKey}
    (hforward : ¬(direction = .RNS_KEY_Right ∨ direction = .RNS_KEY_Down))
    (hbackward : direction = .RNS_KEY_Left ∨ direction = .RNS_KEY_Up)
    (candidate : ScrollCandidate) :
    v.handleSnapToOffsetScroll direction candidate =
      if (beforeLowerBound v.snapToOffsets_ (v.snapOrigin candidate)).getD (-1) = -1 then
        (v, .noScroll)
      else ((v.handleScroll (v.axisPosition direction .RNS_KEY_Left
        ((beforeLowerBound v.snapToOffsets_ (v.snapOrigin candidate)).getD (-1)))).1,
        snapStatus candidate) := by
  unfold handleSnapToOffsetScroll
  simp only [if_neg hforward, if_pos hbackward]
  cases candidate with
  | null => rfl
  | this => rfl
  | other frame => rfl

/-- A key across both directions does nothing. -/
theorem handleSnapToOffsetScroll_across (v : ScrollView) {direction : RnsKey}
    (hforward : ¬(direction = .RNS_KEY_Right ∨ direction = .RNS_KEY_Down))
    (hbackward : ¬(direction = .RNS_KEY_Left ∨ direction = .RNS_KEY_Up))
    (candidate : ScrollCandidate) :
    v.handleSnapToOffsetScroll direction candidate = (v, .noScroll) := by
  unfold handleSnapToOffsetScroll
  simp only [if_neg hforward, if_neg hbackward]

/-- A key that snaps forward keeps the position in range exactly if the next offset after another
component is not negative: beyond the end it is clamped, and past the view it is positive. -/
theorem InRange.snapForward_iff (h : v.InRange) (hlength : 0 ≤ v.frameLength) {direction : RnsKey}
    (hcan : v.canScrollInDirection direction = true)
    (hforward : direction = .RNS_KEY_Right ∨ direction = .RNS_KEY_Down)
    (candidate : ScrollCandidate) :
    (v.handleSnapToOffsetScroll direction candidate).1.InRange ↔
      ∀ frame, candidate = .other frame →
        ∀ o ∈ upperBound v.snapToOffsets_ (v.snapOrigin candidate), 0 ≤ o := by
  obtain ⟨hroom, hdir⟩ := h.room hcan
  have hoffset := h.activeOffset_range hroom
  have hnext (o : Int) : (v.handleScroll (v.axisPosition direction .RNS_KEY_Right
      (min v.endOffset o))).1.InRange ↔ 0 ≤ o := by
    rw [axisPosition, snap_axis hdir (Or.inl ⟨rfl, hforward⟩), h.scroll_iff hroom]
    omega
  rw [handleSnapToOffsetScroll_forward v hforward, apply_ite Prod.fst]
  cases hupper : v.snapUpper candidate with
  | none =>
    have hnone (frame : SkIRect) (hf : candidate = .other frame) :
        upperBound v.snapToOffsets_ (v.snapOrigin candidate) = none := by
      subst hf
      exact hupper
    rw [Option.getD_none]
    refine iff_of_true ?_ fun frame hf o ho => ?_
    · split
      · exact h
      · exact (hnext _).mpr hoffset.1
    · rw [hnone frame hf] at ho
      cases ho
  | some o =>
    rw [Option.getD_some]
    cases candidate with
    | other frame =>
      have hgt : v.snapOrigin (.other frame) < o := lt_of_upperBound hupper
      rw [if_neg (by omega), hnext]
      refine ⟨fun ho _ _ o' ho' => ?_, fun ho => ho frame rfl o hupper⟩
      obtain rfl : o = o' := Option.some.inj (hupper.symm.trans ho')
      exact ho
    | null =>
      have hgt : v.activeOffset + v.frameLength < o := lt_of_upperBound hupper
      have hne : o ≠ v.snapOrigin .null := by
        show o ≠ v.activeOffset
        omega
      rw [if_neg hne, hnext]
      exact iff_of_true (by omega) fun frame hf => by cases hf
    | this =>
      have hgt : v.activeOffset + v.frameLength < o := lt_of_upperBound hupper
      have hne : o ≠ v.snapOrigin .this := by
        show o ≠ v.activeOffset
        omega
      rw [if_neg hne, hnext]
      exact iff_of_true (by omega) fun frame hf => by cases hf

/-- A key that snaps backward keeps the position in range exactly if the last offset before the
component, or before the position, is in range or taken for none. -/
theorem InRange.snapBackward_iff (h : v.InRange) {direction : RnsKey}
    (hcan : v.canScrollInDirection direction = true)
    (hbackward : ¬(direction = .RNS_KEY_Right ∨ direction = .RNS_KEY_Down))
    (candidate : ScrollCandidate) :
    (v.handleSnapToOffsetScroll direction candidate).1.InRange ↔
      ∀ o ∈ beforeLowerBound v.snapToOffsets_ (v.snapOrigin candidate),
        o = -1 ∨ (0 ≤ o ∧ o ≤ v.endOffset) := by
  obtain ⟨hroom, hdir⟩ := h.room hcan
  have hkey : direction = .RNS_KEY_Left ∨ direction = .RNS_KEY_Up := by
    split at hdir
    · exact Or.inl (hdir.resolve_left fun hr => hbackward (Or.inl hr))
    · exact Or.inr (hdir.resolve_left fun hd => hbackward (Or.inr hd))
  rw [handleSnapToOffsetScroll_backward v hbackward hkey, apply_ite Prod.fst]
  cases hlower : beforeLowerBound v.snapToOffsets_ (v.snapOrigin candidate) with
  | none => simpa using h
  | some o =>
    rw [Option.getD_some]
    split
    · rename_i ho
      simpa [ho] using h
    · rename_i ho
      rw [axisPosition, snap_axis hdir (Or.inr ⟨rfl, hbackward⟩), h.scroll_iff hroom]
      simp [ho]

theorem InRange.scrollInDirection_iff (h : v.InRange) (hw : 0 ≤ v.layer.frame_.width)
    (hht : 0 ≤ v.layer.frame_.height) (candidate : ScrollCandidate) (direction : RnsKey) :
    (v.scrollInDirection candidate direction).1.InRange ↔
      v.KeepsInRange (.scrollInDirection candidate direction) := by
  have hlength : 0 ≤ v.frameLength := by
    unfold frameLength
    split
    · exact hw
    · exact hht
  show _ ↔ (v.canScrollInDirection direction = true → v.snapToOffsets_ ≠ [] →
    v.SnapsInRange candidate direction)
  unfold scrollInDirection
  cases hcan : v.canScrollInDirection direction with
  | false => simpa using h
  | true =>
    have hnext := (v.handleScroll_inRange_iff _).mpr (h.next hw hht hcan)
    have hfits := fitsContent_of_room (h.room hcan).1
    simp only [Bool.not_true, Bool.false_eq_true, if_false, forall_const]
    by_cases hsnap : v.snapToOffsets_ ≠ []
    · rw [if_pos hsnap, SnapsInRange]
      simp only [hsnap, ne_eq, not_false_eq_true, forall_const]
      split
      · rename_i hforward
        exact h.snapForward_iff hlength hcan hforward candidate
      · rename_i hbackward
        exact h.snapBackward_iff hcan hbackward candidate
    · rw [if_neg hsnap]
      refine iff_of_true ?_ fun hs => absurd hs hsnap
      cases candidate with
      | null => exact hnext
      | this => exact hnext
      | other frame =>
        simp only
        split
        · exact h
        · split
          · exact hnext
          · show (if v.pagingEnabled_ then v.handleScroll (v.getNextScrollPosition direction)
              else v.handleScrollTo direction frame).1.InRange
            split
            · exact hnext
            · exact (v.handleScrollTo_inRange_iff _ _).mpr hfits

theorem InRange.scrollTo_iff (h : v.InRange) (candidate : ScrollCandidate) :
    (v.scrollTo candidate).1.InRange ↔ v.KeepsInRange (.scrollTo candidate) := by
  unfold scrollTo KeepsInRange
  cases candidate with
  | null => exact iff_of_true h fun frame hf => by cases hf
  | this => exact iff_of_true h fun frame hf => by cases hf
  | other frame =>
    cases hvisible : v.isVisible frame with
    | true =>
      simp only [hvisible, if_true]
      refine iff_of_true h fun frame' hf hv => ?_
      obtain rfl := ScrollCandidate.other.inj hf
      rw [hvisible] at hv
      cases hv
    | false =>
      simp only [hvisible, Bool.false_eq_true, if_false]
      rw [handleScrollTo_inRange_iff]
      exact ⟨fun hfits _ _ _ => hfits, fun hall => hall frame rfl hvisible⟩

/-! ## Commands and updates -/

/-- The end of the content is in range unless the view is horizontal and wider than its content. -/
theorem InRange.scrollToEnd_iff (h : v.InRange) (b : Bool) :
    (v.handleCommand "scrollToEnd" [.bool b]).InRange ↔ v.FitsContent := by
  unfold handleCommand FitsContent
  simp only [if_true]
  cases hh : v.isHorizontalScroll_ with
  | true =>
    rw [if_pos rfl, handleScroll_inRange_iff, hh]
    simp only [PositionInRange, if_true, forall_const, and_true]
    omega
  | false =>
    refine iff_of_true ?_ fun ht => by cases ht
    rw [if_neg Bool.false_ne_true]
    split
    · exact h
    · rw [handleScroll_inRange_iff, hh]
      simp only [PositionInRange, Bool.false_eq_true, if_false, and_true]
      omega

theorem InRange.handleCommand_iff (h : v.InRange) (commandName : String) (args : List Dynamic) :
    (v.handleCommand commandName args).InRange ↔
      v.KeepsInRange (.handleCommand commandName args) := by
  show _ ↔ ((commandName = "scrollToEnd" ∧ ∃ b, args = [.bool b]) ∨
    (commandName = "scrollTo" ∧ ∃ x y b, args = [.double x, .double y, .bool b]) → v.FitsContent)
  by_cases hend : commandName = "scrollToEnd"
  · subst hend
    by_cases hargs : ∃ b, args = [.bool b]
    · obtain ⟨b, rfl⟩ := hargs
      rw [h.scrollToEnd_iff b]
      exact ⟨fun hfits _ => hfits, fun hall => hall (Or.inl ⟨rfl, b, rfl⟩)⟩
    · refine iff_of_true ?_ ?_
      · unfold handleCommand
        rw [if_pos rfl]
        split
        · exact (hargs ⟨_, rfl⟩).elim
        · exact h
      · rintro (⟨-, hb⟩ | ⟨hc, -⟩)
        · exact (hargs hb).elim
        · exact absurd hc (by decide)
  · by_cases hto : commandName = "scrollTo"
    · subst hto
      by_cases hargs : ∃ x y b, args = [.double x, .double y, .bool b]
      · obtain ⟨x, y, b, rfl⟩ := hargs
        rw [show v.handleCommand "scrollTo" [.double x, .double y, .bool b] =
          (v.handleScrollXY (floatToInt x) (floatToInt y)).1 from rfl, handleScrollXY_inRange_iff]
        exact ⟨fun hfits _ => hfits, fun hall => hall (Or.inr ⟨rfl, x, y, b, rfl⟩)⟩
      · refine iff_of_true ?_ ?_
        · unfold handleCommand
          rw [if_neg hend, if_pos rfl]
          split
          · exact (hargs ⟨_, _, _, rfl⟩).elim
          · exact h
        · rintro (⟨hc, -⟩ | ⟨-, hb⟩)
          · exact (hend hc).elim
          · exact (hargs hb).elim
    · refine iff_of_true ?_ ?_
      · unfold handleCommand
        rw [if_neg hend, if_neg hto]
        split
        · split
          · exact h
          · exact h
        · exact h
      · rintro (⟨hc, -⟩ | ⟨hc, -⟩)
        · exact (hend hc).elim
        · exact (hto hc).elim

theorem InRange.congr (h : v.SameExtent v')
    (hpos : v'.layer.getScrollPosition = v.layer.getScrollPosition) :
    v'.InRange ↔ v.InRange := by
  rw [InRange, InRange, h.isHorizontal, h.contentSize, h.frame, hpos]

/-- A content offset scrolls or does nothing. -/
theorem updateContentOffset_inRange_iff (v : ScrollView) (p : ScrollViewProps)
    (forceUpdate : Bool) :
    (v.updateContentOffset p forceUpdate).InRange ↔
      if forceUpdate = true ∨ v.props.contentOffset ≠ p.contentOffset then v.FitsContent
      else v.InRange := by
  unfold updateContentOffset
  split
  · exact handleScrollXY_inRange_iff _ _ _
  · rfl

theorem updateContentOffset_sameExtent (v : ScrollView) (p : ScrollViewProps)
    (forceUpdate : Bool) : v.SameExtent (v.updateContentOffset p forceUpdate) := by
  unfold updateContentOffset
  split
  · have h := handleScroll_sameExtent { v with contentOffset_ := p.contentOffset }
      ({ v with contentOffset_ := p.contentOffset : ScrollView }.clampedPosition
        (floatToInt p.contentOffset.1) (floatToInt p.contentOffset.2))
    exact ⟨h.isHorizontal, h.contentSize, h.frame⟩
  · exact .refl v

theorem updateScrollIndicatorInsets_sameExtent (v : ScrollView) (p : ScrollViewProps)
    (forceUpdate : Bool) : v.SameExtent (v.updateScrollIndicatorInsets p forceUpdate) := by
  unfold updateScrollIndicatorInsets
  simp only
  split
  · exact ⟨rfl, rfl, rfl⟩
  · exact .refl v

theorem updateScrollIndicatorInsets_position (v : ScrollView) (p : ScrollViewProps)
    (forceUpdate : Bool) :
    (v.updateScrollIndicatorInsets p forceUpdate).layer.getScrollPosition =
      v.layer.getScrollPosition := by
  unfold updateScrollIndicatorInsets
  simp only
  split <;> rfl

theorem updateScrollIndicatorInsets_inRange_iff (v : ScrollView) (p : ScrollViewProps)
    (forceUpdate : Bool) :
    (v.updateScrollIndicatorInsets p forceUpdate).InRange ↔ v.InRange :=
  InRange.congr (v.updateScrollIndicatorInsets_sameExtent p forceUpdate)
    (v.updateScrollIndicatorInsets_position p forceUpdate)

/-- Of the props only the content offset moves the view. -/
theorem updateComponentProps_inRange_iff (v : ScrollView) (p : ScrollViewProps)
    (forceUpdate : Bool) :
    (v.updateComponentProps p forceUpdate).InRange ↔
      if forceUpdate = true ∨ v.props.contentOffset ≠ p.contentOffset then v.FitsContent
      else v.InRange := by
  let u : ScrollView :=
    { v with
      scrollEnabled_ := p.scrollEnabled
      pagingEnabled_ := p.pagingEnabled
      snapToOffsets_ := (p.snapToOffsets.map floatToInt).mergeSort }
  calc (v.updateComponentProps p forceUpdate).InRange
      ↔ ((u.updateContentOffset p forceUpdate).updateScrollIndicatorInsets p
          forceUpdate).InRange := Iff.rfl
    _ ↔ (u.updateContentOffset p forceUpdate).InRange :=
        updateScrollIndicatorInsets_inRange_iff _ _ _
    _ ↔ _ := u.updateContentOffset_inRange_iff p forceUpdate

theorem updateComponentProps_contentSize (v : ScrollView) (p : ScrollViewProps)
    (forceUpdate : Bool) :
    (v.updateComponentProps p forceUpdate).layer.contentSize_ = v.layer.contentSize_ := by
  let u : ScrollView :=
    { v with
      scrollEnabled_ := p.scrollEnabled
      pagingEnabled_ := p.pagingEnabled
      snapToOffsets_ := (p.snapToOffsets.map floatToInt).mergeSort }
  exact ((u.updateContentOffset_sameExtent p forceUpdate).trans
    (updateScrollIndicatorInsets_sameExtent _ p forceUpdate)).contentSize

/-- A new size of the content turns the view the way that fits and scrolls it again. -/
theorem updateComponentState_inRange_iff (v : ScrollView) (contentSize : SkISize) :
    (v.updateComponentState contentSize).1.InRange ↔
      v.layer.contentSize_ ≠ contentSize ∨ v.InRange := by
  unfold updateComponentState
  by_cases hsame : v.layer.contentSize_ = contentSize
  · rw [if_pos hsame]
    simp [hsame]
  · rw [if_neg hsame]
    refine iff_of_true ?_ (Or.inl hsame)
    simp only
    split
    · rw [handleScrollXY_inRange_iff]
      intro hh
      exact (of_decide_eq_true hh).le
    · rename_i hturn
      rw [handleScrollXY_inRange_iff]
      intro hh
      exact (of_decide_eq_true ((Decidable.not_not.mp hturn).trans hh)).le

theorem updateLayout_props (v : ScrollView) (frame : Option SkIRect) :
    (v.updateLayout frame).props = v.props := by
  cases frame <;> rfl

theorem updateLayout_contentSize (v : ScrollView) (frame : Option SkIRect) :
    (v.updateLayout frame).layer.contentSize_ = v.layer.contentSize_ := by
  cases frame <;> rfl

theorem updateProps_contentSize (v : ScrollView) (forceUpdate : Bool)
    (props : Option ScrollViewProps) :
    (v.updateProps forceUpdate props).layer.contentSize_ = v.layer.contentSize_ := by
  cases props with
  | none => rfl
  | some p => exact v.updateComponentProps_contentSize p forceUpdate

theorem updateProps_inRange_iff (v : ScrollView) (forceUpdate : Bool)
    (props : Option ScrollViewProps) :
    (v.updateProps forceUpdate props).InRange ↔
      (v.Rescrolls props forceUpdate ∧ v.FitsContent) ∨
        (¬v.Rescrolls props forceUpdate ∧ v.InRange) := by
  cases props with
  | none => simp [updateProps, Rescrolls]
  | some p =>
    have hsome : v.Rescrolls (some p) forceUpdate ↔
        forceUpdate = true ∨ v.props.contentOffset ≠ p.contentOffset := by
      simp [Rescrolls]
    refine (v.updateComponentProps_inRange_iff p forceUpdate).trans ?_
    rw [hsome]
    split
    · rename_i hscroll
      simp [hscroll]
    · rename_i hscroll
      simp [hscroll]

/-- What an update with any of its three parts does to the range. -/
theorem updateComponentData_inRange_iff (v : ScrollView) (frame : Option SkIRect)
    (props : Option ScrollViewProps) (contentSize : Option SkISize) (forceUpdate : Bool) :
    (v.updateComponentData frame props contentSize forceUpdate).InRange ↔
      (∃ s ∈ contentSize, v.layer.contentSize_ ≠ s) ∨
        (v.Rescrolls props forceUpdate ∧ (v.updateLayout frame).FitsContent) ∨
        (¬v.Rescrolls props forceUpdate ∧ (v.updateLayout frame).InRange) := by
  have hrescrolls : (v.updateLayout frame).Rescrolls props forceUpdate ↔
      v.Rescrolls props forceUpdate := by
    rw [Rescrolls, updateLayout_props, Rescrolls]
  have hprops := (v.updateLayout frame).updateProps_inRange_iff forceUpdate props
  rw [hrescrolls] at hprops
  rw [← hprops]
  cases contentSize with
  | none =>
    show ((v.updateLayout frame).updateProps forceUpdate props).InRange ↔ _
    simp
  | some s =>
    have hstate := ((v.updateLayout frame).updateProps forceUpdate props
      ).updateComponentState_inRange_iff s
    rw [updateProps_contentSize, updateLayout_contentSize] at hstate
    refine hstate.trans ?_
    simp

/-- A new frame keeps the offset in range if the end that it gives is not before the offset. -/
theorem InRange.updateLayout_iff (h : v.InRange) (frame : Option SkIRect) :
    (v.updateLayout frame).InRange ↔
      ∀ r ∈ frame, v.activeOffset ≤ max 0 (v.updateLayout (some r)).endOffset := by
  cases frame with
  | none => simpa [updateLayout] using h
  | some r =>
    simp only [Option.mem_some_iff, forall_eq']
    unfold InRange PositionInRange at h ⊢
    unfold activeOffset endOffset
    cases hh : v.isHorizontalScroll_ with
    | true =>
      simp only [hh, if_true, updateLayout, withLayer, Layer.getScrollPosition, Layer.setFrame]
        at h ⊢
      omega
    | false =>
      simp only [hh, Bool.false_eq_true, if_false, updateLayout, withLayer,
        Layer.getScrollPosition, Layer.setFrame] at h ⊢
      omega

/-- One operation on a view in range keeps it there exactly if it meets the assumptions. -/
theorem InRange.exec_iff (h : v.InRange) (hw : 0 ≤ v.layer.frame_.width)
    (hht : 0 ≤ v.layer.frame_.height) (op : ScrollOp) :
    (v.exec op).InRange ↔ v.KeepsInRange op := by
  cases op with
  | updateComponentData frame props contentSize forceUpdate =>
    refine (v.updateComponentData_inRange_iff frame props contentSize forceUpdate).trans ?_
    rw [h.updateLayout_iff frame]
    rfl
  | handleCommand commandName args => exact h.handleCommand_iff commandName args
  | scrollInDirection candidate direction =>
    exact h.scrollInDirection_iff hw hht candidate direction
  | scrollTo candidate => exact h.scrollTo_iff candidate

/-! ## Runs -/

theorem SameExtent.handleScrollXY (h : v.SameExtent v') (x y : Int) :
    v.SameExtent (v'.handleScrollXY x y).1 :=
  h.trans (v'.handleScroll_sameExtent _)

theorem handleScroll_of_noScroll {pos : Int × Int} (h : (v.handleScroll pos).2 = .noScroll) :
    (v.handleScroll pos).1 = v := by
  unfold handleScroll at h ⊢
  split
  · rfl
  · rename_i hne
    simp [hne] at h

/-- What a call that may scroll comes to: the view stays as it is, or it is scrolled once, and
nothing is reported to be scrolled only if nothing was. -/
inductive ScrollsOnce (v : ScrollView) : ScrollView × ScrollStatus → Prop where
  | stays : v.ScrollsOnce (v, .noScroll)
  | scrolls (pos : Int × Int) (status : ScrollStatus)
      (hstatus : status = .noScroll → (v.handleScroll pos).2 = .noScroll) :
      v.ScrollsOnce ((v.handleScroll pos).1, status)

section
variable {result : ScrollView × ScrollStatus}

theorem ScrollsOnce.sameExtent (h : v.ScrollsOnce result) : v.SameExtent result.1 := by
  cases h with
  | stays => exact .refl v
  | scrolls pos => exact v.handleScroll_sameExtent pos

/-- A call that reports that nothing was scrolled has changed nothing. -/
theorem ScrollsOnce.eq_of_noScroll (h : v.ScrollsOnce result) (hresult : result.2 = .noScroll) :
    result.1 = v := by
  cases h with
  | stays => rfl
  | scrolls pos status hstatus => exact handleScroll_of_noScroll (hstatus hresult)

end

theorem handleScroll_scrollsOnce (v : ScrollView) (pos : Int × Int) :
    v.ScrollsOnce (v.handleScroll pos) := .scrolls pos _ id

theorem handleScrollTo_scrollsOnce (v : ScrollView) (direction : RnsKey)
    (candidateFrame : SkIRect) : v.ScrollsOnce (v.handleScrollTo direction candidateFrame) :=
  .scrolls _ _ fun hstatus => by cases hstatus

theorem handleSnapToOffsetScroll_scrollsOnce (v : ScrollView) (direction : RnsKey)
    (candidate : ScrollCandidate) :
    v.ScrollsOnce (v.handleSnapToOffsetScroll direction candidate) := by
  have hscrolls (pos : Int × Int) :
      v.ScrollsOnce ((v.handleScroll pos).1, snapStatus candidate) := by
    refine .scrolls pos _ fun hstatus => ?_
    cases candidate <;> cases hstatus
  by_cases hforward : direction = .RNS_KEY_Right ∨ direction = .RNS_KEY_Down
  · rw [handleSnapToOffsetScroll_forward v hforward]
    split
    · exact .stays
    · exact hscrolls _
  · by_cases hbackward : direction = .RNS_KEY_Left ∨ direction = .RNS_KEY_Up
    · rw [handleSnapToOffsetScroll_backward v hforward hbackward]
      split
      · exact .stays
      · exact hscrolls _
    · rw [handleSnapToOffsetScroll_across v hforward hbackward]
      exact .stays

theorem scrollInDirection_scrollsOnce (v : ScrollView) (candidate : ScrollCandidate)
    (direction : RnsKey) : v.ScrollsOnce (v.scrollInDirection candidate direction) := by
  unfold scrollInDirection
  split
  · exact .stays
  · split
    · exact v.handleSnapToOffsetScroll_scrollsOnce direction candidate
    · cases candidate with
      | null => exact v.handleScroll_scrollsOnce _
      | this => exact v.handleScroll_scrollsOnce _
      | other frame =>
        simp only
        split
        · exact .stays
        · split
          · exact v.handleScroll_scrollsOnce _
          · split
            · exact .scrolls _ _ fun hstatus => by cases hstatus
            · exact .scrolls _ _ fun hstatus => by cases hstatus

theorem scrollTo_scrollsOnce (v : ScrollView) (candidate : ScrollCandidate) :
    v.ScrollsOnce (v.scrollTo candidate) := by
  unfold scrollTo
  split
  · split
    · exact .stays
    · exact v.handleScrollTo_scrollsOnce _ _
  · exact .stays

theorem handleCommand_sameExtent (v : ScrollView) (commandName : String) (args : List Dynamic) :
    v.SameExtent (v.handleCommand commandName args) := by
  unfold handleCommand
  split
  · split
    · split
      · exact v.handleScroll_sameExtent _
      · split
        · exact .refl v
        · exact v.handleScroll_sameExtent _
    · exact .refl v
  · split
    · split
      · exact (SameExtent.refl v).handleScrollXY _ _
      · exact .refl v
    · split
      · split
        · exact ⟨rfl, rfl, rfl⟩
        · exact .refl v
      · exact .refl v

theorem updateProps_frame (v : ScrollView) (forceUpdate : Bool) (props : Option ScrollViewProps) :
    (v.updateProps forceUpdate props).layer.frame_ = v.layer.frame_ := by
  cases props with
  | none => rfl
  | some p =>
    let u : ScrollView :=
      { v with
        scrollEnabled_ := p.scrollEnabled
        pagingEnabled_ := p.pagingEnabled
        snapToOffsets_ := (p.snapToOffsets.map floatToInt).mergeSort }
    exact ((u.updateContentOffset_sameExtent p forceUpdate).trans
      (updateScrollIndicatorInsets_sameExtent _ p forceUpdate)).frame

theorem updateState_frame (v : ScrollView) (contentSize : Option SkISize) :
    (v.updateState contentSize).1.layer.frame_ = v.layer.frame_ := by
  cases contentSize with
  | none => rfl
  | some s =>
    show (v.updateComponentState s).1.layer.frame_ = v.layer.frame_
    unfold updateComponentState
    split
    · rfl
    · simp only
      split <;> exact (handleScroll_sameExtent _ _).frame

/-- The frame is the one of the last layout. -/
theorem updateComponentData_frame (v : ScrollView) (frame : Option SkIRect)
    (props : Option ScrollViewProps) (contentSize : Option SkISize) (forceUpdate : Bool) :
    (v.updateComponentData frame props contentSize forceUpdate).layer.frame_ =
      frame.getD v.layer.frame_ := by
  calc (v.updateComponentData frame props contentSize forceUpdate).layer.frame_
      = (((v.updateLayout frame).updateProps forceUpdate props).updateState
          contentSize).1.layer.frame_ := rfl
    _ = (v.updateLayout frame).layer.frame_ := by rw [updateState_frame, updateProps_frame]
    _ = frame.getD v.layer.frame_ := by cases frame <;> rfl

/-- A frame that no layout made negative. -/
def FrameSized (v : ScrollView) : Prop := 0 ≤ v.layer.frame_.width ∧ 0 ≤ v.layer.frame_.height

theorem FrameSized.exec (h : v.FrameSized) {op : ScrollOp} (hop : op.Sized) :
    (v.exec op).FrameSized := by
  cases op with
  | updateComponentData frame props contentSize forceUpdate =>
    show FrameSized (v.updateComponentData frame props contentSize forceUpdate)
    rw [FrameSized, updateComponentData_frame]
    cases frame with
    | none => exact h
    | some r => exact hop.1 r rfl
  | handleCommand commandName args =>
    show FrameSized (v.handleCommand commandName args)
    rw [FrameSized, (v.handleCommand_sameExtent commandName args).frame]
    exact h
  | scrollInDirection candidate direction =>
    show FrameSized (v.scrollInDirection candidate direction).1
    rw [FrameSized, (v.scrollInDirection_scrollsOnce candidate direction).sameExtent.frame]
    exact h
  | scrollTo candidate =>
    show FrameSized (v.scrollTo candidate).1
    rw [FrameSized, (v.scrollTo_scrollsOnce candidate).sameExtent.frame]
    exact h

theorem fresh_inRange (p : ScrollViewProps) : InRange { props := p } := by
  unfold InRange
  exact ⟨le_refl _, le_max_left _ _, rfl⟩

end

end ScrollView

namespace ScrollView

open TranslationSkia

/-- A first update that lays a view of 50 by 50 out around a content of 50 by 100. -/
def layOut : ScrollOp :=
  .updateComponentData (some (.MakeXYWH 0 0 50 50)) (some {}) (some ⟨50, 100⟩) true

def scrollToEnd : ScrollOp := .handleCommand "scrollToEnd" [.bool false]

/-- An update with a frame of 50 by 80 and nothing else. -/
def grow : ScrollOp := .updateComponentData (some (.MakeXYWH 0 0 50 80)) none none false

theorem layOut_sized : layOut.Sized := by
  constructor
  · rintro r hr
    obtain rfl := Option.some.inj hr
    decide
  · rintro s hs
    obtain rfl := Option.some.inj hs
    decide

theorem grow_sized : grow.Sized := by
  constructor
  · rintro r hr
    obtain rfl := Option.some.inj hr
    decide
  · rintro s hs
    cases hs

end ScrollView

end ReactNativeSkia
