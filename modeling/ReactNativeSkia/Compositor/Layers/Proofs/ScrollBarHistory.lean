import ReactNativeSkia.Compositor.Layers.Proofs.ScrollBarTrack
import ReactNativeSkia.Misc.Run

/-!
# The history of a scroll bar

Every setter but that of the offset lays the bar out anew as soon as its value changes. A bar at the
top or on the left keeps the part of the translation that belongs to the other axis, and a bar that
gets its first values back is not as it was before anything was set.
-/

namespace ReactNativeSkia

/-- The setters. -/
inductive ScrollBarOp where
  | setScrollBarPosition (position : ScrollBarPosition)
  | setScrollBarInsets (frameInsets : SkIRect)
  | updateScrollLayerLayout (scrollContentSize : SkISize) (scrollFrame : SkIRect)
  | setScrollBarOffset (scrollPos : ℚ × ℚ)

namespace ScrollBar

def exec (b : ScrollBar) : ScrollBarOp → ScrollBar
  | .setScrollBarPosition position => b.setScrollBarPosition position
  | .setScrollBarInsets frameInsets => b.setScrollBarInsets frameInsets
  | .updateScrollLayerLayout scrollContentSize scrollFrame =>
    b.updateScrollLayerLayout scrollContentSize scrollFrame
  | .setScrollBarOffset scrollPos => b.setScrollBarOffset scrollPos

/-- The frame, the multiplier and the translation. -/
def geometry (b : ScrollBar) : SkIRect × (ℚ × ℚ) × (Int × Int) :=
  (b.barFrame_, b.barOffsetMultiplier_, b.barOffsetTranslate_)

/-- A new bar that is given the values of this one and nothing else. -/
def fresh (b : ScrollBar) : ScrollBar :=
  (({ : ScrollBar}.setScrollBarPosition b.barPosition_).setScrollBarInsets
    b.barFrameInsets_).updateScrollLayerLayout b.scrollContentSize_ b.scrollFrame_
    |>.setScrollBarOffset b.scrollPos_

/-- The geometry is the one of a new bar. -/
def HistoryFree (b : ScrollBar) : Prop := b.geometry = b.fresh.geometry

/-- Apart from the offset the bar has the values of a new one. -/
def Initial (b : ScrollBar) : Prop :=
  b.barPosition_ = .right ∧ b.barFrameInsets_ = .MakeEmpty ∧ b.scrollContentSize_ = ⟨0, 0⟩ ∧
    b.scrollFrame_ = .MakeEmpty

instance (b : ScrollBar) : Decidable b.Initial := inferInstanceAs (Decidable (_ ∧ _ ∧ _ ∧ _))

/-- Nothing is left over in the part of the translation that a layout does not write. -/
def CrossClear (b : ScrollBar) : Prop :=
  b.Scrolls → (b.barPosition_ = .top → b.barOffsetTranslate_.2 = 0) ∧
    (b.barPosition_ = .left → b.barOffsetTranslate_.1 = 0)

instance (b : ScrollBar) : Decidable b.CrossClear :=
  inferInstanceAs (Decidable (_ → (_ → _) ∧ (_ → _)))

/-- The condition under which a setter forgets what was set before. Nothing changes, or the bar
does not get its first values back; and a new position at the top or on the left finds no
translation on the other axis. -/
def ForgetsHistory (b : ScrollBar) : ScrollBarOp → Prop
  | .setScrollBarPosition position =>
    b.barPosition_ = position ∨ ¬{ b with barPosition_ := position : ScrollBar}.Initial ∧
      { b with barPosition_ := position : ScrollBar}.CrossClear
  | .setScrollBarInsets frameInsets =>
    b.barFrameInsets_ = frameInsets ∨ ¬{ b with barFrameInsets_ := frameInsets : ScrollBar}.Initial
  | .updateScrollLayerLayout scrollContentSize scrollFrame =>
    (b.scrollContentSize_ = scrollContentSize ∧ b.scrollFrame_ = scrollFrame) ∨
      ¬{ b with scrollContentSize_ := scrollContentSize, scrollFrame_ := scrollFrame
          : ScrollBar}.Initial
  | .setScrollBarOffset _ => True

/-- The same values without a translation. -/
def untranslated (b : ScrollBar) : ScrollBar := { b with barOffsetTranslate_ := (0, 0) }

/-- The values that a layout goes by. -/
structure SameLayout (b b' : ScrollBar) : Prop where
  barPosition : b'.barPosition_ = b.barPosition_
  barFrameInsets : b'.barFrameInsets_ = b.barFrameInsets_
  scrollContentSize : b'.scrollContentSize_ = b.scrollContentSize_
  scrollFrame : b'.scrollFrame_ = b.scrollFrame_
  scrollPos : b'.scrollPos_ = b.scrollPos_

variable {b b' : ScrollBar}

/-! ## A layout -/

theorem SameLayout.trans {c : ScrollBar} (h : b.SameLayout b') (h' : b'.SameLayout c) :
    b.SameLayout c :=
  ⟨h'.barPosition.trans h.barPosition, h'.barFrameInsets.trans h.barFrameInsets,
    h'.scrollContentSize.trans h.scrollContentSize, h'.scrollFrame.trans h.scrollFrame,
    h'.scrollPos.trans h.scrollPos⟩

theorem calculate_sameLayout (b : ScrollBar) : b.SameLayout b.calculateBarLayoutMetrics := by
  by_cases h : b.Scrolls
  · rw [calculate_of_scrolls h]
    exact ⟨rfl, rfl, rfl, rfl, rfl⟩
  · rw [calculate_of_not_scrolls h]
    exact ⟨rfl, rfl, rfl, rfl, rfl⟩

theorem SameLayout.scrolls_iff (h : b.SameLayout b') : b'.Scrolls ↔ b.Scrolls := by
  unfold Scrolls frameLength contentLength isHorizontal
  rw [h.barPosition, h.scrollContentSize, h.scrollFrame]

/-- Bars with the same values and the same translation are laid out in the same way. -/
theorem SameLayout.calculate_geometry (h : b.SameLayout b')
    (htranslate : b'.barOffsetTranslate_ = b.barOffsetTranslate_) :
    b'.calculateBarLayoutMetrics.geometry = b.calculateBarLayoutMetrics.geometry := by
  by_cases hs : b.Scrolls
  · rw [calculate_of_scrolls hs, calculate_of_scrolls (h.scrolls_iff.mpr hs)]
    obtain ⟨_, position⟩ := b
    obtain ⟨_, position'⟩ := b'
    obtain ⟨hposition, hinsets, hcontent, hframe, hpos⟩ := h
    dsimp only at hposition hinsets hcontent hframe hpos htranslate
    subst hposition hinsets hcontent hframe hpos htranslate
    rfl
  · rw [calculate_of_not_scrolls hs, calculate_of_not_scrolls (mt h.scrolls_iff.mp hs)]
    rfl

/-- Only at the top and on the left a part of the translation is left over. -/
theorem layoutTranslate_eq_untranslated_iff (b : ScrollBar) :
    b.layoutTranslate = b.untranslated.layoutTranslate ↔
      (b.barPosition_ = .top → b.barOffsetTranslate_.2 = 0) ∧
        (b.barPosition_ = .left → b.barOffsetTranslate_.1 = 0) := by
  obtain ⟨_, position⟩ := b
  cases position with
  | top =>
    constructor
    · intro h
      exact ⟨fun _ => (Prod.mk.inj h).2, fun hp => by cases hp⟩
    · intro h
      exact Prod.ext rfl (h.1 rfl)
  | left =>
    constructor
    · intro h
      exact ⟨fun hp => (by cases hp), fun _ => (Prod.mk.inj h).1⟩
    · intro h
      exact Prod.ext (h.2 rfl) rfl
  | bottom => exact iff_of_true rfl ⟨fun hp => (by cases hp), fun hp => by cases hp⟩
  | right => exact iff_of_true rfl ⟨fun hp => (by cases hp), fun hp => by cases hp⟩

/-- A layout gives the geometry of one from no translation exactly if nothing is left over. -/
theorem calculate_geometry_iff (b : ScrollBar) :
    b.calculateBarLayoutMetrics.geometry = b.untranslated.calculateBarLayoutMetrics.geometry ↔
      b.CrossClear := by
  by_cases hs : b.Scrolls
  · have hs' : b.untranslated.Scrolls := hs
    rw [calculate_of_scrolls hs, calculate_of_scrolls hs', CrossClear, forall_prop_of_true hs,
      ← layoutTranslate_eq_untranslated_iff]
    constructor
    · intro h
      exact (Prod.mk.inj (Prod.mk.inj h).2).2
    · intro h
      exact congrArg (fun translate => (b.layoutFrame, b.layoutMultiplier, translate)) h
  · have hs' : ¬b.untranslated.Scrolls := hs
    rw [calculate_of_not_scrolls hs, calculate_of_not_scrolls hs']
    exact iff_of_true rfl fun h => absurd h hs

/-- An offset set after a layout gives the geometry of a layout with this offset. -/
theorem setScrollBarOffset_calculate (b : ScrollBar) (scrollPos : ℚ × ℚ) :
    (b.calculateBarLayoutMetrics.setScrollBarOffset scrollPos).geometry =
      { b with scrollPos_ := scrollPos }.calculateBarLayoutMetrics.geometry := by
  by_cases hs : b.Scrolls
  · exact congrArg geometry (scrolledTo_eq hs scrollPos)
  · have hs' : ¬Scrolls { b with scrollPos_ := scrollPos } := hs
    rw [calculate_of_not_scrolls hs, calculate_of_not_scrolls hs', setScrollBarOffset]
    split
    · rfl
    · unfold updateBarOffset geometry
      cases b.barPosition_ with
      | top | bottom | left | right => simp

/-- An offset sets the geometry by the geometry and the position. -/
theorem setScrollBarOffset_geometry (hgeometry : b'.geometry = b.geometry)
    (hposition : b'.barPosition_ = b.barPosition_) (hpos : b'.scrollPos_ = b.scrollPos_)
    (scrollPos : ℚ × ℚ) :
    (b'.setScrollBarOffset scrollPos).geometry = (b.setScrollBarOffset scrollPos).geometry := by
  obtain ⟨hframe, hrest⟩ := Prod.mk.inj hgeometry
  obtain ⟨hmultiplier, htranslate⟩ := Prod.mk.inj hrest
  unfold setScrollBarOffset updateBarOffset geometry
  rw [hpos]
  split
  · rw [hframe, hmultiplier, htranslate]
  · dsimp only
    rw [hposition]
    cases b.barPosition_ with
    | top | bottom | left | right => simp only [hframe, hmultiplier, htranslate]

/-! ## A new bar -/

theorem fresh_congr (h : b.SameLayout b') : b'.fresh = b.fresh := by
  unfold fresh
  rw [h.barPosition, h.barFrameInsets, h.scrollContentSize, h.scrollFrame, h.scrollPos]

theorem fresh_geometry_of_initial (h : b.Initial) :
    b.fresh.geometry = (.MakeEmpty, (1, 1), (0, round b.scrollPos_.2)) := by
  obtain ⟨hposition, hinsets, hcontent, hframe⟩ := h
  rw [fresh, hposition, hinsets, hcontent, hframe]
  show (ScrollBar.setScrollBarOffset {} b.scrollPos_).geometry = _
  unfold setScrollBarOffset
  split
  · rename_i hpos
    rw [← hpos]
    simp [geometry]
  · simp [updateBarOffset, geometry]

theorem not_scrolls_of_empty (hcontent : b.scrollContentSize_ = ⟨0, 0⟩)
    (hframe : b.scrollFrame_ = .MakeEmpty) : ¬b.Scrolls := by
  unfold Scrolls frameLength contentLength
  rw [hcontent, hframe]
  cases b.isHorizontal <;> decide

/-- Without a content the first two setters change the multiplier at most. -/
theorem setScrollBarInsets_setScrollBarPosition (position : ScrollBarPosition)
    (frameInsets : SkIRect) :
    ({ : ScrollBar}.setScrollBarPosition position).setScrollBarInsets frameInsets =
      { barPosition_ := position
        barFrameInsets_ := frameInsets
        barOffsetMultiplier_ :=
          if position = .right ∧ frameInsets = .MakeEmpty then (1, 1) else (0, 0) } := by
  have hposition : { : ScrollBar}.setScrollBarPosition position =
      { barPosition_ := position
        barOffsetMultiplier_ := if position = .right then (1, 1) else (0, 0) } := by
    unfold setScrollBarPosition
    by_cases hp : position = .right
    · subst hp
      rfl
    · rw [if_neg fun h => hp h.symm, if_neg hp,
        calculate_of_not_scrolls (not_scrolls_of_empty rfl rfl)]
  rw [hposition, setScrollBarInsets]
  by_cases hinsets : frameInsets = .MakeEmpty
  · subst hinsets
    simp
  · rw [if_neg fun h => hinsets h.symm, calculate_of_not_scrolls (not_scrolls_of_empty rfl rfl)]
    simp [hinsets]

/-- A new bar that gets some value is laid out from no translation. -/
theorem fresh_geometry_of_not_initial (h : ¬b.Initial) :
    b.fresh.geometry = b.untranslated.calculateBarLayoutMetrics.geometry := by
  -- the bar as it is before the offset is set
  obtain ⟨start, hstart⟩ : ∃ start : ScrollBar,
      start = { b with barOffsetTranslate_ := (0, 0), scrollPos_ := (0, 0) } := ⟨_, rfl⟩
  have hset (laidOut : ScrollBar) (hsame : start.SameLayout laidOut)
      (hgeometry : laidOut.geometry = start.calculateBarLayoutMetrics.geometry) :
      (laidOut.setScrollBarOffset b.scrollPos_).geometry =
        b.untranslated.calculateBarLayoutMetrics.geometry := by
    have hcalculate := start.calculate_sameLayout
    rw [setScrollBarOffset_geometry hgeometry
      (hsame.barPosition.trans hcalculate.barPosition.symm)
      (hsame.scrollPos.trans hcalculate.scrollPos.symm), setScrollBarOffset_calculate, hstart]
    rfl
  rw [fresh, setScrollBarInsets_setScrollBarPosition, updateScrollLayerLayout]
  by_cases hlayout : (⟨0, 0⟩ : SkISize) = b.scrollContentSize_ ∧ SkIRect.MakeEmpty = b.scrollFrame_
  · obtain ⟨hcontent, hframe⟩ := hlayout
    have hsome : ¬(b.barPosition_ = .right ∧ b.barFrameInsets_ = .MakeEmpty) := by
      rintro ⟨hposition, hinsets⟩
      exact h ⟨hposition, hinsets, hcontent.symm, hframe.symm⟩
    have hempty : start.scrollContentSize_ = ⟨0, 0⟩ ∧ start.scrollFrame_ = .MakeEmpty := by
      rw [hstart]
      exact ⟨hcontent.symm, hframe.symm⟩
    rw [if_pos ⟨hcontent, hframe⟩, if_neg hsome]
    refine hset _ ?_ ?_
    · rw [hstart]
      exact ⟨rfl, rfl, hcontent, hframe, rfl⟩
    · rw [calculate_of_not_scrolls (not_scrolls_of_empty hempty.1 hempty.2)]
      rfl
  · rw [if_neg hlayout]
    refine hset _ (SameLayout.trans ?_ (calculate_sameLayout _))
      (SameLayout.calculate_geometry ?_ ?_)
    · rw [hstart]
      exact ⟨rfl, rfl, rfl, rfl, rfl⟩
    · rw [hstart]
      exact ⟨rfl, rfl, rfl, rfl, rfl⟩
    · rw [hstart]

/-! ## Steps -/

/-- After a layout the bar is as a new one exactly if it has not got its first values back and
nothing was left over. -/
theorem calculate_historyFree_iff (b : ScrollBar) :
    b.calculateBarLayoutMetrics.HistoryFree ↔ ¬b.Initial ∧ b.CrossClear := by
  rw [HistoryFree, fresh_congr b.calculate_sameLayout]
  by_cases h : b.Initial
  · refine iff_of_false (fun heq => ?_) fun hnot => hnot.1 h
    -- a new bar still has the multiplier that no layout gives
    rw [fresh_geometry_of_initial h,
      calculate_of_not_scrolls (not_scrolls_of_empty h.2.2.1 h.2.2.2)] at heq
    have hmultiplier := (Prod.mk.inj (Prod.mk.inj heq).2).1
    exact absurd (Prod.mk.inj hmultiplier).1 zero_ne_one
  · rw [fresh_geometry_of_not_initial h, calculate_geometry_iff]
    exact (and_iff_right h).symm

/-- A bar that is as a new one has no translation on the other axis at the top and on the left. -/
theorem HistoryFree.translate_eq_zero (h : b.HistoryFree) :
    (b.barPosition_ = .top → b.barOffsetTranslate_.2 = 0) ∧
      (b.barPosition_ = .left → b.barOffsetTranslate_.1 = 0) := by
  by_cases hinitial : b.Initial
  · rw [hinitial.1]
    exact ⟨fun hp => (by cases hp), fun hp => by cases hp⟩
  · rw [HistoryFree, fresh_geometry_of_not_initial hinitial] at h
    have htranslate := (Prod.mk.inj (Prod.mk.inj h).2).2
    by_cases hs : b.untranslated.Scrolls
    · rw [calculate_of_scrolls hs] at htranslate
      rw [htranslate]
      exact ⟨fun hp => by simp [layoutTranslate, untranslated, hp],
        fun hp => by simp [layoutTranslate, untranslated, hp]⟩
    · rw [calculate_of_not_scrolls hs] at htranslate
      rw [htranslate]
      exact ⟨fun _ => rfl, fun _ => rfl⟩

/-- The offset writes itself and the translation. -/
theorem setScrollBarOffset_eq (b : ScrollBar) (scrollPos : ℚ × ℚ) :
    ∃ translate, b.setScrollBarOffset scrollPos =
      { b with scrollPos_ := scrollPos, barOffsetTranslate_ := translate } := by
  unfold setScrollBarOffset
  split
  · rename_i heq
    exact ⟨b.barOffsetTranslate_, by rw [← heq]⟩
  · unfold updateBarOffset
    dsimp only
    split <;> exact ⟨_, rfl⟩

/-- An offset leaves a bar as a new one. -/
theorem HistoryFree.setScrollBarOffset (h : b.HistoryFree) (scrollPos : ℚ × ℚ) :
    (b.setScrollBarOffset scrollPos).HistoryFree := by
  obtain ⟨translate, heq⟩ := b.setScrollBarOffset_eq scrollPos
  rw [HistoryFree] at h ⊢
  by_cases hinitial : b.Initial
  · have hset : (b.setScrollBarOffset scrollPos).Initial := by
      rw [heq]
      exact hinitial
    have hpos : (b.setScrollBarOffset scrollPos).scrollPos_ = scrollPos := by rw [heq]
    rw [fresh_geometry_of_initial hset, hpos]
    rw [fresh_geometry_of_initial hinitial] at h
    unfold ScrollBar.setScrollBarOffset
    split
    · rename_i hold
      rw [← hold, h]
    · obtain ⟨hframe, hrest⟩ := Prod.mk.inj h
      obtain ⟨hmultiplier, htranslate⟩ := Prod.mk.inj hrest
      simp [updateBarOffset, hinitial.1, geometry, hframe, hmultiplier, htranslate]
  · have hset : ¬(b.setScrollBarOffset scrollPos).Initial := by
      rw [heq]
      exact hinitial
    have hsame := b.untranslated.calculate_sameLayout
    rw [fresh_geometry_of_not_initial hinitial] at h
    rw [fresh_geometry_of_not_initial hset, setScrollBarOffset_geometry h hsame.barPosition.symm
      hsame.scrollPos.symm, setScrollBarOffset_calculate, heq]
    rfl

/-- A setter returns early or lays the bar out with its value. -/
theorem HistoryFree.ite_calculate_iff (h : b.HistoryFree) {same : Prop} [Decidable same]
    (u : ScrollBar) :
    (if same then b else u.calculateBarLayoutMetrics).HistoryFree ↔
      same ∨ ¬u.Initial ∧ u.CrossClear := by
  by_cases hsame : same
  · rw [if_pos hsame]
    exact iff_of_true h (Or.inl hsame)
  · rw [if_neg hsame, calculate_historyFree_iff, or_iff_right hsame]

/-- A setter leaves a bar as a new one exactly under the condition above. -/
theorem HistoryFree.exec_iff (h : b.HistoryFree) (op : ScrollBarOp) :
    (b.exec op).HistoryFree ↔ b.ForgetsHistory op := by
  -- only a new position can find a translation on the other axis
  have hcross {u : ScrollBar} (hposition : u.barPosition_ = b.barPosition_)
      (htranslate : u.barOffsetTranslate_ = b.barOffsetTranslate_) : u.CrossClear := by
    intro _
    rw [hposition, htranslate]
    exact h.translate_eq_zero
  cases op with
  | setScrollBarPosition position => exact h.ite_calculate_iff _
  | setScrollBarInsets frameInsets =>
    exact (h.ite_calculate_iff _).trans (or_congr_right (and_iff_left (hcross rfl rfl)))
  | updateScrollLayerLayout scrollContentSize scrollFrame =>
    exact (h.ite_calculate_iff _).trans (or_congr_right (and_iff_left (hcross rfl rfl)))
  | setScrollBarOffset scrollPos => exact iff_of_true (h.setScrollBarOffset scrollPos) trivial

end ScrollBar

/-- One setter is called. -/
def scrollBarStep (b : ScrollBar) (op : ScrollBarOp) (b' : ScrollBar) : Prop := b' = b.exec op

namespace ScrollBar

/-- In every run from a new bar whose setters meet the condition the bar is as a new one that is
given the last values only. -/
theorem run_historyFree {b : ScrollBar} (h : Run scrollBarStep ForgetsHistory {} b) :
    b.HistoryFree := by
  refine h.invariant (P := HistoryFree) ?_ rfl
  rintro c op _ hc hok rfl
  exact (hc.exec_iff op).mpr hok

instance (b : ScrollBar) (op : ScrollBarOp) : Decidable (b.ForgetsHistory op) := by
  cases op <;> unfold ForgetsHistory <;> infer_instance

/-- A content of 200 by 100 in a frame of 100 by 50. -/
def layOutBar : ScrollBarOp := .updateScrollLayerLayout ⟨200, 100⟩ ⟨0, 0, 100, 50⟩

theorem run_historyFree_bottom :
    (({ : ScrollBar}.exec layOutBar).exec (.setScrollBarPosition .bottom)).HistoryFree := by
  refine run_historyFree ?_
  have hlayOut :
      Run scrollBarStep ForgetsHistory ({} : ScrollBar) ({ : ScrollBar}.exec layOutBar) :=
    Run.single (a := layOutBar) (by decide) rfl
  exact hlayOut.tail (a := .setScrollBarPosition .bottom) (by decide +kernel) rfl

/-- A bar that comes from the bottom to the top is still translated downwards. -/
theorem not_run_historyFree :
    ¬ ∀ b : ScrollBar, Run scrollBarStep anyStep {} b → b.HistoryFree := by
  intro hall
  have hrun : Run scrollBarStep anyStep ({} : ScrollBar)
      ((({ : ScrollBar}.exec layOutBar).exec (.setScrollBarPosition .bottom)).exec
        (.setScrollBarPosition .top)) :=
    ((Run.single (a := layOutBar) trivial rfl).tail (a := .setScrollBarPosition .bottom) trivial
      rfl).tail (a := .setScrollBarPosition .top) trivial rfl
  have hfree := hall _ hrun
  unfold HistoryFree at hfree
  revert hfree
  decide +kernel

end ScrollBar

end ReactNativeSkia
