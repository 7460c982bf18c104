import ReactNativeSkia.Components.Paragraph
import ReactNativeSkia.Misc.Run

/-!
# What a paragraph paints

The builder of every paint is new, but the paragraph style and the shadow that it starts from are
those that earlier paints have left. Much of them is overwritten before it is read. A paint draws
what a new component would draw exactly if the rest is still as it was in the beginning.
-/

namespace ReactNativeSkia

/-! ## The texts of an attributed string -/

/-- The fragments that are no attachments. -/
def texts (fragments : List Fragment) : List Fragment :=
  fragments.filter fun fragment => !fragment.isAttachment

def attachmentCount (fragments : List Fragment) : Nat :=
  fragments.countP (·.isAttachment) % 2 ^ 32

def ParagraphStyle.afterTexts (paraStyle : ParagraphStyle) (fragments : List Fragment) :
    ParagraphStyle :=
  fragments.foldl (fun paraStyle fragment => paraStyle.afterText fragment.textAttributes) paraStyle

def TextShadow.afterTexts (shadow : TextShadow) (fragments : List Fragment) : TextShadow :=
  fragments.foldl (fun shadow fragment => shadow.afterText fragment.textAttributes) shadow

/-- A text overwrites the number of lines and, if it has one, the alignment. -/
theorem afterTexts_eq_iff (paraStyle paraStyle' : ParagraphStyle) (fragments : List Fragment) :
    paraStyle.afterTexts fragments = paraStyle'.afterTexts fragments ↔
      paraStyle.ellipsis = paraStyle'.ellipsis ∧
      (fragments = [] → paraStyle.maxLines = paraStyle'.maxLines) ∧
      ((∀ fragment ∈ fragments, fragment.textAttributes.alignment = none) →
        paraStyle.textAlign = paraStyle'.textAlign) := by
  induction fragments generalizing paraStyle paraStyle' with
  | nil =>
    obtain ⟨align, lines, ellipsis⟩ := paraStyle
    obtain ⟨align', lines', ellipsis'⟩ := paraStyle'
    simp only [ParagraphStyle.afterTexts, List.foldl_nil, ParagraphStyle.mk.injEq]
    constructor
    · rintro ⟨halign, hlines, hellipsis⟩
      exact ⟨hellipsis, fun _ => hlines, fun _ => halign⟩
    · rintro ⟨hellipsis, hlines, halign⟩
      exact ⟨halign (by simp), hlines trivial, hellipsis⟩
  | cons fragment fragments ih =>
    refine (ih _ _).trans ?_
    cases halignment : fragment.textAttributes.alignment <;>
      simp [ParagraphStyle.afterText, halignment]

theorem afterTexts_ellipsis (paraStyle : ParagraphStyle) (fragments : List Fragment) :
    (paraStyle.afterTexts fragments).ellipsis = paraStyle.ellipsis := by
  induction fragments generalizing paraStyle with
  | nil => rfl
  | cons fragment fragments ih => exact ih (paraStyle.afterText fragment.textAttributes)

/-- The builder holds what the texts so far have handed to it, under the style of the layout. -/
def RSkSkTextLayout.Building (textLayout : RSkSkTextLayout)
    (handed : List (Option TextStyle × Chars)) : Prop :=
  textLayout.builder = some ⟨textLayout.paraStyle, [], handed⟩

theorem RSkComponentParagraph.startTextLayout_building (c : RSkComponentParagraph) :
    c.startTextLayout.Building [] := rfl

/-! ## Lines -/

/-- The paragraph with the lines that `setTextLines` leaves it. -/
def ParagraphRecord.limited (paragraph : ParagraphRecord) (getLineMetrics : GetLineMetrics)
    (data : ParagraphData) : ParagraphRecord :=
  let numberOfLines := getTextLines (getLineMetrics paragraph data.contentSize.1)
    data.paragraphAttributes_.maximumNumberOfLines data.contentSize.2
  if numberOfLines = 0 then paragraph
  else
    { paragraph with
      paragraphStyle := paragraph.paragraphStyle.limitLines numberOfLines
        data.paragraphAttributes_ }

/-- With no lines there is nothing to limit. -/
theorem limited_no_lines (paragraph : ParagraphRecord) (data : ParagraphData) :
    paragraph.limited (fun _ _ => []) data = paragraph := by
  simp [ParagraphRecord.limited, getTextLines, getLines]

theorem setTextLines_paragraph (getLineMetrics : GetLineMetrics) {textLayout : RSkSkTextLayout}
    {handed : List (Option TextStyle × Chars)} (h : textLayout.Building handed)
    (data : ParagraphData) :
    (setTextLines getLineMetrics
      { textLayout with paragraph := textLayout.builder.map (·.Build) } data.contentSize
      data.paragraphAttributes_).paragraph =
      some ((⟨textLayout.paraStyle, handed⟩ : ParagraphRecord).limited getLineMetrics data) := by
  rw [RSkSkTextLayout.Building] at h
  simp only [setTextLines, h, Option.map_some, ParagraphBuilder.Build,
    ParagraphRecord.limited]
  split_ifs
  · rfl
  · rfl

theorem setTextLines_ellipsis (getLineMetrics : GetLineMetrics) (textLayout : RSkSkTextLayout)
    (contentSize : ℚ × ℚ) {paragraphAttributes : ParagraphAttributes}
    (h : paragraphAttributes.maximumNumberOfLines = 0 ∨
      paragraphAttributes.ellipsizeMode ≠ .Tail) :
    (setTextLines getLineMetrics textLayout contentSize
      paragraphAttributes).paraStyle.ellipsis = textLayout.paraStyle.ellipsis := by
  have hlimit : ¬ (paragraphAttributes.maximumNumberOfLines ≠ 0 ∧
      paragraphAttributes.ellipsizeMode = .Tail) := by
    rintro ⟨hlines, htail⟩
    exact h.elim hlines fun hmode => hmode htail
  unfold setTextLines
  split
  · rfl
  · dsimp only
    split
    · rfl
    · exact if_neg hlimit

theorem setTextLines_shadow (getLineMetrics : GetLineMetrics) (textLayout : RSkSkTextLayout)
    (contentSize : ℚ × ℚ) (paragraphAttributes : ParagraphAttributes) :
    (setTextLines getLineMetrics textLayout contentSize paragraphAttributes).shadow =
      textLayout.shadow := by
  unfold setTextLines
  split
  · rfl
  · dsimp only
    split <;> rfl

/-! ## Texts handed to the builder -/

section
variable [TextDefaults]

def buildFragmentText (textLayout : RSkSkTextLayout) (fragment : Fragment) : RSkSkTextLayout :=
  buildText textLayout fragment.textAttributes (cString fragment.string) true

theorem buildParagraph_eq (textLayout : RSkSkTextLayout) (fragments : List Fragment) :
    buildParagraph textLayout fragments true =
      ((texts fragments).foldl buildFragmentText textLayout, attachmentCount fragments) := by
  suffices h : ∀ (textLayout : RSkSkTextLayout) (count : Nat), count < 2 ^ 32 →
      fragments.foldl (fun built fragment => buildFragment built.1 built.2 fragment true)
        (textLayout, count) =
      ((texts fragments).foldl buildFragmentText textLayout,
        (count + fragments.countP (·.isAttachment)) % 2 ^ 32) by
    simpa [attachmentCount, buildParagraph] using h textLayout 0 (by decide)
  induction fragments with
  | nil =>
    intro textLayout count hcount
    simp only [texts, List.foldl_nil, List.filter_nil, List.countP_nil, Nat.add_zero,
      Nat.mod_eq_of_lt hcount]
  | cons fragment fragments ih =>
    intro textLayout count hcount
    rw [List.foldl_cons, buildFragment]
    cases hattachment : fragment.isAttachment with
    | true =>
      simp only [if_true, texts, List.filter_cons, hattachment, Bool.not_true,
        Bool.false_eq_true, if_false, List.countP_cons]
      rw [ih _ _ (Nat.mod_lt _ (by decide))]
      refine congrArg₂ Prod.mk rfl ?_
      omega
    | false =>
      simp only [Bool.false_eq_true, if_false, texts, List.filter_cons, hattachment,
        Bool.not_false, if_true, List.countP_cons]
      exact ih _ _ hcount

/-- The texts as the builder gets them, for the shadow that the first of them finds. -/
def styledTexts : TextShadow → List Fragment → List (Option TextStyle × Chars)
  | _, [] => []
  | shadow, fragment :: fragments =>
    (some (fragment.textAttributes.style (shadow.layerShadows fragment.textAttributes) true),
      cString (cString fragment.string)) ::
      styledTexts (shadow.afterText fragment.textAttributes) fragments

theorem buildFragmentText_building {textLayout : RSkSkTextLayout}
    {handed : List (Option TextStyle × Chars)} (h : textLayout.Building handed)
    (fragment : Fragment) :
    (buildFragmentText textLayout fragment).Building
      (handed ++ styledTexts textLayout.shadow [fragment]) := by
  rw [RSkSkTextLayout.Building] at h ⊢
  simp [buildFragmentText, buildText, h, ParagraphBuilder.setParagraphStyle,
    ParagraphBuilder.pushStyle, ParagraphBuilder.addText, ParagraphBuilder.pop, styledTexts]

theorem foldl_buildFragmentText {textLayout : RSkSkTextLayout}
    {handed : List (Option TextStyle × Chars)} (h : textLayout.Building handed)
    (fragments : List Fragment) :
    (fragments.foldl buildFragmentText textLayout).shadow = textLayout.shadow.afterTexts fragments ∧
      (fragments.foldl buildFragmentText textLayout).paraStyle =
        textLayout.paraStyle.afterTexts fragments ∧
      (fragments.foldl buildFragmentText textLayout).Building
        (handed ++ styledTexts textLayout.shadow fragments) := by
  induction fragments generalizing textLayout handed with
  | nil => exact ⟨rfl, rfl, by simpa [styledTexts] using h⟩
  | cons fragment fragments ih =>
    obtain ⟨hshadow, hstyle, hbuilding⟩ := ih (buildFragmentText_building h fragment)
    refine ⟨hshadow, hstyle, ?_⟩
    rw [List.append_assoc] at hbuilding
    exact hbuilding

/-! ## What a paint draws -/

namespace RSkComponentParagraph

variable (getLineMetrics : GetLineMetrics) (c : RSkComponentParagraph)

/-- The paragraph before its lines are limited. -/
def built : ParagraphRecord where
  paragraphStyle := c.textLayout.paraStyle.afterTexts (texts c.data.attributedString)
  texts := styledTexts c.startTextLayout.shadow (texts c.data.attributedString)

theorem drawn_eq :
    c.drawn getLineMetrics =
      if attachmentCount c.data.attributedString = 0 then
        some (c.built.limited getLineMetrics c.data)
      else none := by
  obtain ⟨-, hstyle, hbuilding⟩ := foldl_buildFragmentText c.startTextLayout_building
    (texts c.data.attributedString)
  have hlines := setTextLines_paragraph getLineMetrics hbuilding c.data
  unfold drawn onPaint
  rw [buildParagraph_eq]
  by_cases hcount : attachmentCount c.data.attributedString = 0
  · simp only [hcount, if_true, Option.bind_some]
    rw [hlines, hstyle]
    rfl
  · simp [hcount]

theorem onPaint_lastPaint :
    (c.onPaint getLineMetrics).lastPaint = some ⟨c.data, c.drawn getLineMetrics⟩ := by
  unfold drawn onPaint
  dsimp only
  split <;> rfl

/-- The shadow is moved in place: a paint leaves it where its texts have moved it to, and the next
one starts from there unless the layer shows a shadow. -/
theorem onPaint_shadow :
    (c.onPaint getLineMetrics).textLayout.shadow =
      c.startTextLayout.shadow.afterTexts (texts c.data.attributedString) := by
  obtain ⟨hshadow, -, -⟩ := foldl_buildFragmentText c.startTextLayout_building
    (texts c.data.attributedString)
  unfold onPaint
  rw [buildParagraph_eq]
  dsimp only
  split
  · exact (setTextLines_shadow _ _ _ _).trans hshadow
  · exact hshadow

end RSkComponentParagraph

/-! ## What a paint reads -/

/-- A text without a background shows the shadow that it finds. -/
theorem styledTexts_eq_iff (shadow shadow' : TextShadow) (fragments : List Fragment) :
    styledTexts shadow fragments = styledTexts shadow' fragments ↔
      ((∃ fragment ∈ fragments, fragment.textAttributes.backgroundColor = none) →
        shadow = shadow') := by
  induction fragments generalizing shadow shadow' with
  | nil => simp [styledTexts]
  | cons fragment fragments ih =>
    unfold styledTexts
    cases hbackground : fragment.textAttributes.backgroundColor with
    | none =>
      simp only [List.mem_cons, exists_eq_or_imp, hbackground, true_or, true_imp_iff]
      constructor
      · intro h
        have hshadows := congrArg (·.shadows) (Option.some.inj (Prod.mk.inj (List.cons.inj h).1).1)
        simp only [TextAttributes.style, TextShadow.layerShadows, hbackground, Option.isNone_none,
          if_true, List.cons_append, List.cons.injEq] at hshadows
        exact hshadows.1
      · rintro rfl
        rfl
    | some color =>
      simp [TextShadow.layerShadows, TextShadow.afterText, hbackground, ih]

namespace RSkComponentParagraph

/-- If the next paint draws something, then nothing that it reads has been left by an earlier one:
the ellipsis is always read, the number of lines if there is no text, the alignment if no text has
one, and the shadow if the layer shows none and some text has no background. -/
def ReadsNothingLeft (c : RSkComponentParagraph) : Prop :=
  attachmentCount c.data.attributedString = 0 →
    c.textLayout.paraStyle.ellipsis = TextDefaults.paragraphStyle.ellipsis ∧
    (texts c.data.attributedString = [] →
      c.textLayout.paraStyle.maxLines = TextDefaults.paragraphStyle.maxLines) ∧
    ((∀ fragment ∈ texts c.data.attributedString, fragment.textAttributes.alignment = none) →
      c.textLayout.paraStyle.textAlign = TextDefaults.paragraphStyle.textAlign) ∧
    (c.data.layer.isShadowVisible = false →
      (∃ fragment ∈ texts c.data.attributedString,
        fragment.textAttributes.backgroundColor = none) →
      c.textLayout.shadow = TextDefaults.textShadow)

instance (c : RSkComponentParagraph) : Decidable c.ReadsNothingLeft := by
  unfold ReadsNothingLeft
  infer_instance

@[simp] theorem new_data (data : ParagraphData) : (new data).data = data := rfl

theorem built_eq_iff (c : RSkComponentParagraph)
    (hcount : attachmentCount c.data.attributedString = 0) :
    c.built = (new c.data).built ↔ c.ReadsNothingLeft := by
  simp only [built, ParagraphRecord.mk.injEq, ReadsNothingLeft, hcount, true_imp_iff, new_data]
  rw [afterTexts_eq_iff, styledTexts_eq_iff]
  cases hvisible : c.data.layer.isShadowVisible <;>
    simp [startTextLayout, new, RSkSkTextLayout.new, hvisible, and_assoc]

/-- Whatever the lines are, the next paint draws what a new component would draw exactly if it
reads nothing that earlier ones have left. -/
theorem drawsAsNew_iff (c : RSkComponentParagraph) :
    (∀ getLineMetrics, c.drawn getLineMetrics = (new c.data).drawn getLineMetrics) ↔
      c.ReadsNothingLeft := by
  by_cases hcount : attachmentCount c.data.attributedString = 0
  · rw [← built_eq_iff c hcount]
    constructor
    · intro h
      -- a paragraph without lines is drawn as it has been built
      have hdrawn := h fun _ _ => []
      rw [drawn_eq, drawn_eq, limited_no_lines, limited_no_lines] at hdrawn
      simpa [hcount] using hdrawn
    · intro h getLineMetrics
      rw [drawn_eq, drawn_eq, h, new_data]
  · simp [drawn_eq, ReadsNothingLeft, hcount]

/-- The last paint has drawn what a new component would have drawn. -/
def LastPaintAsNew (getLineMetrics : GetLineMetrics) (c : RSkComponentParagraph) : Prop :=
  ∀ paint ∈ c.lastPaint, paint.drawn = (new paint.data).drawn getLineMetrics

end RSkComponentParagraph

/-! ## Runs -/

/-- A paint reads nothing that earlier paints have left. -/
def ParagraphOp.ReadsNothingLeft (c : RSkComponentParagraph) : ParagraphOp → Prop
  | .paint => c.ReadsNothingLeft
  | _ => True

instance (c : RSkComponentParagraph) :
    ∀ op : ParagraphOp, Decidable (op.ReadsNothingLeft c)
  | .paint => inferInstanceAs (Decidable c.ReadsNothingLeft)
  | .updateState _ | .updateProps _ | .updateLayout _ | .updateLayer _ => isTrue trivial

section
variable {getLineMetrics : GetLineMetrics} {c c' : RSkComponentParagraph} {op : ParagraphOp}
  {data : ParagraphData}

theorem lastPaintAsNew_step (h : c.LastPaintAsNew getLineMetrics)
    (hop : op.ReadsNothingLeft c) (hstep : ParagraphStep getLineMetrics c op c') :
    c'.LastPaintAsNew getLineMetrics := by
  subst hstep
  cases op with
  | paint =>
    intro paint hpaint
    obtain rfl := Option.some.inj ((c.onPaint_lastPaint getLineMetrics).symm.trans hpaint)
    exact c.drawsAsNew_iff.mpr hop getLineMetrics
  | updateState _ | updateProps _ | updateLayout _ | updateLayer _ => exact h

/-- In a run whose paints read nothing left by earlier ones, the last paint has always drawn what
a new component with the same state, props, layout and layer would draw. The next one does so
too, for all lines that there may be, exactly if it reads nothing left either. -/
theorem paragraphRun_paintsAsNew
    (hrun : Run (ParagraphStep getLineMetrics) (fun c op => op.ReadsNothingLeft c) (.new data) c) :
    c.LastPaintAsNew getLineMetrics ∧
      ((∀ getLineMetrics, c.drawn getLineMetrics =
        (RSkComponentParagraph.new c.data).drawn getLineMetrics) ↔ c.ReadsNothingLeft) := by
  refine ⟨?_, c.drawsAsNew_iff⟩
  apply hrun.invariant (P := fun c => c.LastPaintAsNew getLineMetrics)
  · exact fun c op c' h hop hstep => lastPaintAsNew_step h hop hstep
  · intro paint hpaint
    cases hpaint

end

/-! ## Data that leave nothing to read -/

/-- Some text has an alignment, no shadow but the layer's is read, and no ellipsis is set. -/
structure ParagraphData.SetsItsStyle (data : ParagraphData) : Prop where
  alignment : ∃ fragment ∈ texts data.attributedString, fragment.textAttributes.alignment ≠ none
  shadow : data.layer.isShadowVisible = true ∨ ∀ fragment ∈ texts data.attributedString,
    fragment.textAttributes.backgroundColor ≠ none
  no_ellipsis : data.paragraphAttributes_.maximumNumberOfLines = 0 ∨
    data.paragraphAttributes_.ellipsizeMode ≠ .Tail

/-- Only a limit with an ellipsis at the tail sets the ellipsis. -/
theorem onPaint_ellipsis (getLineMetrics : GetLineMetrics) {c : RSkComponentParagraph}
    (h : c.data.paragraphAttributes_.maximumNumberOfLines = 0 ∨
      c.data.paragraphAttributes_.ellipsizeMode ≠ .Tail) :
    (c.onPaint getLineMetrics).textLayout.paraStyle.ellipsis =
      c.textLayout.paraStyle.ellipsis := by
  obtain ⟨-, hstyle, -⟩ := foldl_buildFragmentText c.startTextLayout_building
    (texts c.data.attributedString)
  have hbuilt : ((texts c.data.attributedString).foldl buildFragmentText
      c.startTextLayout).paraStyle.ellipsis = c.textLayout.paraStyle.ellipsis :=
    (congrArg ParagraphStyle.ellipsis hstyle).trans (afterTexts_ellipsis _ _)
  unfold RSkComponentParagraph.onPaint
  rw [buildParagraph_eq]
  dsimp only
  split
  · exact (setTextLines_ellipsis _ _ _ h).trans hbuilt
  · exact hbuilt

theorem ParagraphData.SetsItsStyle.readsNothingLeft {c : RSkComponentParagraph}
    (h : c.data.SetsItsStyle)
    (hellipsis : c.textLayout.paraStyle.ellipsis = TextDefaults.paragraphStyle.ellipsis) :
    c.ReadsNothingLeft := by
  obtain ⟨fragment, hmem, halignment⟩ := h.alignment
  refine fun _ => ⟨hellipsis, fun hempty => ?_, fun hnone => ?_, fun hhidden => ?_⟩
  · rw [hempty] at hmem
    cases hmem
  · exact absurd (hnone fragment hmem) halignment
  · rintro ⟨fragment, hmem, hbackground⟩
    refine h.shadow.elim (fun hvisible => ?_) fun hall => absurd hbackground (hall _ hmem)
    rw [hhidden] at hvisible
    cases hvisible

/-- If all data painted set their own style, every paint draws as a new component would. -/
theorem paragraphRun_setsItsStyle {getLineMetrics : GetLineMetrics} {c : RSkComponentParagraph}
    {data : ParagraphData}
    (hrun : Run (ParagraphStep getLineMetrics)
      (fun c op => op = .paint → c.data.SetsItsStyle) (.new data) c) :
    c.LastPaintAsNew getLineMetrics := by
  refine (hrun.invariant (P := fun c => c.LastPaintAsNew getLineMetrics ∧
    c.textLayout.paraStyle.ellipsis = TextDefaults.paragraphStyle.ellipsis) ?_ ⟨?_, rfl⟩).1
  · rintro c op c' ⟨hlast, hellipsis⟩ hop hstep
    cases op with
    | paint =>
      have hstyle := hop rfl
      have hreads : ParagraphOp.paint.ReadsNothingLeft c := hstyle.readsNothingLeft hellipsis
      refine ⟨lastPaintAsNew_step hlast hreads hstep, ?_⟩
      subst hstep
      exact (onPaint_ellipsis getLineMetrics hstyle.no_ellipsis).trans hellipsis
    | updateState _ | updateProps _ | updateLayout _ | updateLayer _ =>
      subst hstep
      exact ⟨hlast, hellipsis⟩
  · intro paint hpaint
    cases hpaint

end

namespace DocumentedText

/-- The values that the libraries document. -/
scoped instance textDefaults : TextDefaults where
  fontSize := 14
  fontSizeMultiplier := 1
  foregroundColor := some ⟨0, 0, 0, 1⟩
  backgroundColor := some ⟨0, 0, 0, 0⟩
  undefinedColor := ⟨0, 0, 0, 0⟩
  textShadow := ⟨SK_ColorBLACK, (0, 0), 0⟩
  paragraphStyle := ⟨.kStart, SIZE_MAX, none⟩

end DocumentedText

open DocumentedText

/-- Two lines, or one if the paragraph style has an ellipsis and no other limit. -/
def twoLines : GetLineMetrics := fun paragraph _ =>
  if paragraph.paragraphStyle.ellipsis.isSome ∧ paragraph.paragraphStyle.maxLines = SIZE_MAX then
    [⟨10, 0⟩]
  else [⟨10, 0⟩, ⟨20, 1⟩]

/-- A text with an alignment and a background, painted; then another alignment and a limit. -/
def alignedTexts : List ParagraphOp :=
  [.paint,
    .updateState [{ string := chars "b", textAttributes :=
      { alignment := some .Left, backgroundColor := some ⟨1, 1, 1, 1⟩ } }],
    .updateProps { maximumNumberOfLines := 1, ellipsizeMode := .Tail },
    .updateLayout (100, 100),
    .paint]

def centeredText : ParagraphData where
  attributedString := [{
    string := chars "a"
    textAttributes := { alignment := some .Center, backgroundColor := some ⟨1, 1, 1, 1⟩ } }]
  contentSize := (50, 50)

theorem paragraphRun_paintsAsNew_aligned : ∃ c : RSkComponentParagraph,
    c.LastPaintAsNew twoLines ∧ ¬ c.ReadsNothingLeft ∧
      (c.lastPaint.bind (·.drawn)).map (·.paragraphStyle) = some ⟨.kLeft, 1, some "…"⟩ := by
  have hfold : (alignedTexts.foldlM (fun (c : RSkComponentParagraph) (op : ParagraphOp) =>
      if op.ReadsNothingLeft c then some (op.exec twoLines c) else none) (.new centeredText)).map
        (fun c => (decide c.ReadsNothingLeft,
          (c.lastPaint.bind (·.drawn)).map (·.paragraphStyle))) =
      some (false, some ⟨.kLeft, 1, some "…"⟩) := by
    decide +kernel
  obtain ⟨c, hfold, hc⟩ := Option.map_eq_some_iff.mp hfold
  obtain ⟨hreads, hstyle⟩ := Prod.mk.inj hc
  have hrun : Run (ParagraphStep twoLines) (fun c op => op.ReadsNothingLeft c)
      (.new centeredText) c := by
    refine Run.of_foldlM (fun c op c' hexec => ?_) hfold
    obtain ⟨hop, hexec⟩ := Option.ite_none_right_eq_some.mp hexec
    exact ⟨hop, Option.some.inj hexec⟩
  exact ⟨c, (paragraphRun_paintsAsNew hrun).1, of_decide_eq_false hreads, hstyle⟩

def shadowedText : ParagraphData where
  attributedString := [{
    string := chars "a", textAttributes := { textShadowOffset := some (1, 1) } }]

/-- A text whose shadow is to the right and below, painted twice without any change: the second
paint has moved the first shadow. -/
theorem second_paint_moves_shadow :
    ¬ ∀ (getLineMetrics : GetLineMetrics) (data : ParagraphData) (c : RSkComponentParagraph),
      Run (ParagraphStep getLineMetrics) anyStep (.new data) c →
        c.LastPaintAsNew getLineMetrics := by
  intro h
  have hrun : Run (ParagraphStep twoLines) anyStep (.new shadowedText)
      (((RSkComponentParagraph.new shadowedText).onPaint twoLines).onPaint twoLines) :=
    (Run.single (a := .paint) trivial rfl).tail (a := .paint) trivial rfl
  have hdrawn := h twoLines shadowedText _ hrun _
    (RSkComponentParagraph.onPaint_lastPaint twoLines _)
  revert hdrawn
  decide +kernel

end ReactNativeSkia
