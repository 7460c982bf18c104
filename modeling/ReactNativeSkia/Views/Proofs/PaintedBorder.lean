import ReactNativeSkia.Views.Proofs.BorderSides

/-!
# One picture for every frame type

`drawBorder` picks a stroked rect or up to four paths by the type of the frame. Whatever it picks,
a point of the border gets the colour of the side it belongs to, over the background.
-/

namespace ReactNativeSkia

theorem floatToInt_of_den {q : ℚ} (h : q.den = 1) : (floatToInt q : ℚ) = q := by
  have hnum : floatToInt q = q.num := by
    simp [floatToInt, h]
  rw [hnum]
  exact Rat.den_eq_one_iff q |>.mp h

theorem RectangleEdges.at_eq_left {α : Type} [DecidableEq α] {edges : RectangleEdges α}
    (h : edges.isUniform = true) (side : BorderEdges) : edges.at side = edges.left := by
  simp only [isUniform, Bool.and_eq_true, decide_eq_true_iff] at h
  cases side with
  | RightEdge => exact h.1.2.symm
  | LeftEdge => rfl
  | TopEdge => exact h.1.1.symm
  | BottomEdge => exact h.2.symm

theorem paintedAt_append (p : Point) (calls calls' : List DrawCall) :
    paintedAt p (calls ++ calls') = paintedAt p calls ++ paintedAt p calls' := by
  simp [paintedAt]

namespace RSkDrawUtils

variable {frame : SkRect} {borderProps : BorderMetrics} {backgroundColor : SharedColor}
  {p : Point}

/-- The stroke of a uniform border is a whole number of pixels wide. -/
def WholeStroke (borderProps : BorderMetrics) : Prop :=
  hasUniformBorderEdges borderProps = true → borderProps.borderWidths.left.den = 1

/-! ## Rects -/

/-- Half of the stroke outside of the inset rect makes up for the inset. -/
theorem inset_inset_neg (r : SkRect) (w : ℚ) :
    SkRect.inset (SkRect.inset r (w / 2) (w / 2)) (-(w / 2)) (-(w / 2)) = r := by
  simp [SkRect.inset]

theorem inset_inset (r : SkRect) (w : ℚ) :
    SkRect.inset (SkRect.inset r (w / 2) (w / 2)) (w / 2) (w / 2) = SkRect.inset r w w := by
  simp only [SkRect.inset, Box.mk.injEq]
  refine ⟨?_, ?_, ?_, ?_⟩ <;> ring

theorem inset_zero (r : SkRect) : SkRect.inset r 0 0 = r := by
  simp [SkRect.inset]

/-- The background fills the frame, with and without a stroke. -/
theorem covers_drawRect_filled (hf : Fits frame borderProps.borderWidths)
    (hwhole : WholeStroke borderProps) (color : SkColor) :
    (drawRect .FilledRect frame borderProps color).covers p = SkRect.covers frame p := by
  cases huniform : hasUniformBorderEdges borderProps with
  | false => simp [drawRect, huniform, DrawCall.covers, floatToInt, inset_zero]
  | true =>
    have hint := floatToInt_of_den (hwhole huniform)
    rcases eq_or_lt_of_le hf.left with hzero | hpos
    · simp [drawRect, huniform, DrawCall.covers, ← hzero, floatToInt, inset_zero]
    · simp only [drawRect, huniform, DrawCall.covers, Bool.not_true, Bool.false_and,
        Bool.false_eq_true, if_false, if_true, hpos, hint, inset_inset_neg]

/-- The stroked rect covers the border and not the content. -/
theorem covers_drawRect_stroked (hwhole : WholeStroke borderProps)
    (huniform : hasUniformBorderEdges borderProps = true)
    (hpos : 0 < borderProps.borderWidths.left) (color : SkColor) :
    (drawRect .MonoChromeStrokedRect frame borderProps color).covers p =
      (SkRect.covers frame p && !SkRect.covers (content frame borderProps.borderWidths) p) := by
  have hint := floatToInt_of_den (hwhole huniform)
  have hedges := RectangleEdges.at_eq_left (Bool.and_eq_true_iff.mp huniform).2
  have hcontent : content frame borderProps.borderWidths =
      SkRect.inset frame borderProps.borderWidths.left borderProps.borderWidths.left := by
    have htop := hedges .TopEdge
    have hright := hedges .RightEdge
    have hbottom := hedges .BottomEdge
    simp only [RectangleEdges.at] at htop hright hbottom
    simp only [content, SkRect.inset, htop, hright, hbottom]
  rw [hcontent]
  simp only [drawRect, huniform, DrawCall.covers, Bool.not_true, Bool.false_and,
    Bool.false_eq_true, if_false, reduceCtorEq, if_true, hpos, hint, inset_inset_neg, inset_inset]

/-! ## The border -/

/-- The colour a side is drawn in, if it is drawn. -/
def sideColors (borderProps : BorderMetrics) (backgroundColor : SharedColor) (side : BorderEdges) :
    List SkColor :=
  if backgroundColorDifferentFromBorderColor (borderProps.borderColors.at side) backgroundColor &&
      isBorderEdgeVisible (borderProps.borderColors.at side) (borderProps.borderWidths.at side) then
    [RSkColorFromSharedColor (borderProps.borderColors.at side) SK_ColorBLACK]
  else []

/-- The background at a point. -/
def backgroundColors (frame : SkRect) (backgroundColor : SharedColor) (p : Point) : List SkColor :=
  if SkRect.covers frame p && hasVisibleBackGround backgroundColor then
    [RSkColorFromSharedColor backgroundColor SK_ColorTRANSPARENT]
  else []

theorem paintedAt_drawBackground (hf : Fits frame borderProps.borderWidths)
    (hwhole : WholeStroke borderProps) :
    paintedAt p (drawBackground frame borderProps backgroundColor) =
      backgroundColors frame backgroundColor p := by
  unfold drawBackground backgroundColors
  cases hvisible : hasVisibleBackGround backgroundColor with
  | false => simp [paintedAt]
  | true =>
    have hcovers := covers_drawRect_filled (p := p) hf hwhole
      (RSkColorFromSharedColor backgroundColor SK_ColorTRANSPARENT)
    cases hp : SkRect.covers frame p with
    | false => simp [paintedAt, hcovers, hp]
    | true =>
      rw [hp] at hcovers
      simp only [if_true, Bool.and_self, paintedAt, List.filter_cons, hcovers, List.filter_nil,
        List.map_cons, List.map_nil]
      rfl

theorem paintedAt_drawSideForBorder (hf : Fits frame borderProps.borderWidths)
    (backgroundColor : SharedColor) (p : Point) (side : BorderEdges) :
    (InSide frame borderProps.borderWidths p side →
      paintedAt p (drawSideForBorder frame borderProps backgroundColor side) =
        sideColors borderProps backgroundColor side) ∧
    (¬ InSide frame borderProps.borderWidths p side →
      paintedAt p (drawSideForBorder frame borderProps backgroundColor side) = []) := by
  have hcovers : (createAndDrawDiscretePath side frame borderProps).covers p = true ↔
      InSide frame borderProps.borderWidths p side := fills_iff_inSide hf side
  unfold drawSideForBorder sideColors
  dsimp only
  split
  · constructor
    · intro hp
      simp only [paintedAt, List.filter_cons, hcovers.mpr hp, if_true, List.filter_nil,
        List.map_cons, List.map_nil]
      rfl
    · intro hp
      simp [paintedAt, mt hcovers.mp hp]
  · exact ⟨fun _ => rfl, fun _ => rfl⟩

/-- Of the four paths the one of the point's side is painted there. -/
theorem paintedAt_drawSides (hf : Fits frame borderProps.borderWidths) :
    (∀ side, InSide frame borderProps.borderWidths p side →
      paintedAt p (drawSideForBorder frame borderProps backgroundColor .RightEdge ++
        drawSideForBorder frame borderProps backgroundColor .LeftEdge ++
        drawSideForBorder frame borderProps backgroundColor .TopEdge ++
        drawSideForBorder frame borderProps backgroundColor .BottomEdge) =
          sideColors borderProps backgroundColor side) ∧
    ((∀ side, ¬ InSide frame borderProps.borderWidths p side) →
      paintedAt p (drawSideForBorder frame borderProps backgroundColor .RightEdge ++
        drawSideForBorder frame borderProps backgroundColor .LeftEdge ++
        drawSideForBorder frame borderProps backgroundColor .TopEdge ++
        drawSideForBorder frame borderProps backgroundColor .BottomEdge) = []) := by
  have hside := paintedAt_drawSideForBorder hf backgroundColor p
  simp only [paintedAt_append]
  constructor
  · intro side hp
    have hothers : ∀ other, other ≠ side →
        paintedAt p (drawSideForBorder frame borderProps backgroundColor other) = [] :=
      fun other hne => (hside other).2 fun hp' => hne (inSide_unique hf hp' hp)
    cases side with
    | RightEdge => simp [(hside _).1 hp, hothers .LeftEdge, hothers .TopEdge, hothers .BottomEdge]
    | LeftEdge => simp [(hside _).1 hp, hothers .RightEdge, hothers .TopEdge, hothers .BottomEdge]
    | TopEdge => simp [(hside _).1 hp, hothers .RightEdge, hothers .LeftEdge, hothers .BottomEdge]
    | BottomEdge => simp [(hside _).1 hp, hothers .RightEdge, hothers .LeftEdge, hothers .TopEdge]
  · intro hp
    simp [(hside _).2 (hp _)]

/-- Without a visible border no side is drawn. -/
theorem sideColors_invisible
    (h : hasVisibleBorder borderProps.borderColors borderProps.borderWidths = false)
    (side : BorderEdges) : sideColors borderProps backgroundColor side = [] := by
  simp only [hasVisibleBorder, Bool.or_eq_false_iff] at h
  obtain ⟨⟨⟨hleft, hright⟩, htop⟩, hbottom⟩ := h
  cases side with
  | RightEdge => simp [sideColors, RectangleEdges.at, hright]
  | LeftEdge => simp [sideColors, RectangleEdges.at, hleft]
  | TopEdge => simp [sideColors, RectangleEdges.at, htop]
  | BottomEdge => simp [sideColors, RectangleEdges.at, hbottom]

/-- All sides of a uniform border are visible, if one is. -/
theorem isBorderEdgeVisible_of_uniform (huniform : hasUniformBorderEdges borderProps = true)
    (h : hasVisibleBorder borderProps.borderColors borderProps.borderWidths = true) :
    isBorderEdgeVisible borderProps.borderColors.left borderProps.borderWidths.left = true := by
  obtain ⟨hcolors, hwidths⟩ := Bool.and_eq_true_iff.mp huniform
  have hcolor := RectangleEdges.at_eq_left hcolors
  have hwidth := RectangleEdges.at_eq_left hwidths
  have hright := And.intro (hcolor .RightEdge) (hwidth .RightEdge)
  have htop := And.intro (hcolor .TopEdge) (hwidth .TopEdge)
  have hbottom := And.intro (hcolor .BottomEdge) (hwidth .BottomEdge)
  simp only [RectangleEdges.at] at hright htop hbottom
  simpa [hasVisibleBorder, hright, htop, hbottom] using h

/-- The stroked rect paints each side in the one colour there is. -/
theorem paintedAt_monoChrome (hf : Fits frame borderProps.borderWidths)
    (hwhole : WholeStroke borderProps) (huniform : hasUniformBorderEdges borderProps = true)
    (hpos : 0 < borderProps.borderWidths.left) (color : SkColor) :
    (∀ side, InSide frame borderProps.borderWidths p side →
      paintedAt p [drawRect .MonoChromeStrokedRect frame borderProps color] = [color]) ∧
    ((∀ side, ¬ InSide frame borderProps.borderWidths p side) →
      paintedAt p [drawRect .MonoChromeStrokedRect frame borderProps color] = []) := by
  have hcovers : (drawRect .MonoChromeStrokedRect frame borderProps color).covers p = _ :=
    covers_drawRect_stroked hwhole huniform hpos color
  constructor
  · intro side hp
    obtain ⟨hin, hout⟩ := hf.covers_of_inSide hp
    rw [hin, hout] at hcovers
    simp only [paintedAt, List.filter_cons, hcovers, Bool.not_false, Bool.and_self, if_true,
      List.filter_nil, List.map_cons, List.map_nil]
    rfl
  · intro hp
    have hout : (drawRect .MonoChromeStrokedRect frame borderProps color).covers p = false := by
      rw [hcovers, Bool.and_eq_false_iff, Bool.not_eq_false']
      by_contra h
      rw [not_or, Bool.not_eq_false, Bool.not_eq_true] at h
      obtain ⟨side, hside⟩ := (exists_inSide_iff hf).mpr h
      exact hp side hside
    simp [paintedAt, hout]

theorem paintedAt_drawBorder (hf : Fits frame borderProps.borderWidths)
    (hwhole : WholeStroke borderProps) :
    (∀ side, InSide frame borderProps.borderWidths p side →
      paintedAt p (drawBorder frame borderProps backgroundColor) =
        sideColors borderProps backgroundColor side) ∧
    ((∀ side, ¬ InSide frame borderProps.borderWidths p side) →
      paintedAt p (drawBorder frame borderProps backgroundColor) = []) := by
  unfold drawBorder detectFrameBorderType
  cases hvisible : hasVisibleBorder borderProps.borderColors borderProps.borderWidths with
  | false => simp [paintedAt, sideColors_invisible hvisible]
  | true =>
    cases hwidths : borderProps.borderWidths.isUniform with
    | false =>
      simp only [Bool.not_true, Bool.not_false, Bool.false_eq_true, if_false, if_true,
        reduceCtorEq, false_and, or_true]
      exact paintedAt_drawSides hf
    | true =>
      cases hcolors : borderProps.borderColors.isUniform with
      | false =>
        simp only [Bool.not_true, Bool.false_eq_true, if_false]
        split
        · simp only [reduceCtorEq, false_and, if_false, true_or, if_true]
          exact paintedAt_drawSides hf
        · simp only [reduceCtorEq, false_and, if_false, or_true, if_true]
          exact paintedAt_drawSides hf
      | true =>
        have huniform : hasUniformBorderEdges borderProps = true := by
          simp [hasUniformBorderEdges, hcolors, hwidths]
        have hedge := isBorderEdgeVisible_of_uniform huniform hvisible
        have hne : borderProps.borderWidths.left ≠ 0 := by
          simp only [isBorderEdgeVisible, Bool.and_eq_true, decide_eq_true_iff] at hedge
          exact hedge.1
        have hpos := lt_of_le_of_ne hf.left (Ne.symm hne)
        simp only [Bool.not_true, Bool.false_eq_true, if_false, if_true, true_and, reduceCtorEq,
          or_self, sideColors, RectangleEdges.at_eq_left hcolors,
          RectangleEdges.at_eq_left hwidths, hedge, Bool.and_true]
        split
        · exact paintedAt_monoChrome hf hwhole huniform hpos _
        · exact ⟨fun _ _ => rfl, fun _ => rfl⟩

/-- A frame of ten by eight with a border of the default colour, two wide. -/
def card : SkRect := ⟨0, 0, 10, 8⟩

def cardBorder : BorderMetrics := ⟨⟨none, none, none, none⟩, ⟨2, 2, 2, 2⟩⟩

end RSkDrawUtils

end ReactNativeSkia
