import ReactNativeSkia.Components.Proofs.TextCursor
import ReactNativeSkia.Misc.TextZipper

/-!
# What a key does to the shown text

While the cursor is in the text, an uncontrolled text input is a text with a cursor. The distance of
the cursor from the end is the length of the text after it, so an insertion and a deletion leave it
alone. A character that makes the text too long is put into the shown text all the same, and what it
pushes over the end of the shown text is lost.
-/

namespace ReactNativeSkia

/-- The keys that edit the text, move the cursor or do neither. -/
def RnsKey.IsEditing (key : RnsKey) : Prop :=
  key.isDisplayable = true ∨ key = .RNS_KEY_Left ∨ key = .RNS_KEY_Right ∨ key = .RNS_KEY_Delete ∨
    key = .RNS_KEY_Back ∨ key = .RNS_KEY_Up ∨ key = .RNS_KEY_Down

instance (key : RnsKey) : Decidable key.IsEditing :=
  inferInstanceAs (Decidable (_ ∨ _ ∨ _ ∨ _ ∨ _ ∨ _ ∨ _))

/-- What the editor does with a key. -/
def TextZipper.typeKey (z : TextZipper Char) (key : RnsKey) : TextZipper Char :=
  if key.isDisplayable then z.insert (RNSKeyMap key)
  else
    match key with
    | .RNS_KEY_Left => z.left
    | .RNS_KEY_Right => z.right
    | .RNS_KEY_Back | .RNS_KEY_Delete => z.backspace
    | _ => z

/-- The same with a maximum length: of a text that is too long as much is shown as there was
before. -/
def TextZipper.typeKeyWithin (z : TextZipper Char) (maxLength : Int) (key : RnsKey) :
    TextZipper Char :=
  if key.isDisplayable = true ∧ maxLength ≠ 0 ∧ ((z.typeKey key).text.length : Int) > maxLength then
    z.overtype (RNSKeyMap key)
  else z.typeKey key

/-- The key makes a text that is reported if it is not too long. -/
def RnsKey.Edits (key : RnsKey) : Prop :=
  key.isDisplayable = true ∨ key = .RNS_KEY_Back ∨ key = .RNS_KEY_Delete

instance (key : RnsKey) : Decidable key.Edits := inferInstanceAs (Decidable (_ ∨ _ ∨ _))

theorem RnsKey.not_isDisplayable_of_erases {key : RnsKey}
    (hkey : key = .RNS_KEY_Back ∨ key = .RNS_KEY_Delete) : ¬ key.isDisplayable = true := by
  rcases hkey with rfl | rfl <;> decide

/-- The text of the last `onChange`. -/
def reportedText (events : List TextInputEvent) : Option (List Char) :=
  (events.filterMap fun
    | .onChange textInputMetrics => some textInputMetrics.text
    | _ => none).getLast?

/-- What is reported of a key. -/
def TextZipper.report (z : TextZipper Char) (maxLength : Int) (key : RnsKey) :
    Option (List Char) :=
  if key.Edits ∧ ¬ (maxLength ≠ 0 ∧ ((z.typeKey key).text.length : Int) > maxLength) then
    some (z.typeKey key).text
  else none

namespace TextInput

/-- The input has the text and the cursor of the editor. -/
structure Shows (s : TextInput) (z : TextZipper Char) : Prop where
  displayString : s.displayString_ = z.text
  locationFromEnd : s.cursor_.locationFromEnd = z.after.length
  end_ : s.cursor_.end_ = z.text.length

variable {s s' : TextInput} {z z' : TextZipper Char} {key : RnsKey}

/-- The text before the cursor and the text after it. -/
def zipper (s : TextInput) : TextZipper Char :=
  ⟨s.displayString_.take (s.cursor_.end_ - s.cursor_.locationFromEnd).toNat,
    s.displayString_.drop (s.cursor_.end_ - s.cursor_.locationFromEnd).toNat⟩

theorem Inside.shows_zipper (h : s.Inside) : s.Shows s.zipper := by
  obtain ⟨hnonneg, hle, hlength⟩ := h
  have htext : s.zipper.text = s.displayString_ := List.take_append_drop _ _
  refine ⟨htext.symm, ?_, ?_⟩
  · rw [zipper, List.length_drop]
    omega
  · rw [htext]
    exact hlength

theorem Shows.cursor (h : s.Shows z) :
    s.cursor_.end_ - s.cursor_.locationFromEnd = z.cursor := by
  have hlength := z.length_text
  rw [h.end_, h.locationFromEnd]
  omega

theorem Shows.eq_zipper (h : s.Shows z) : z = s.zipper := by
  rw [zipper, h.cursor, h.displayString, Int.toNat_natCast, z.take_cursor, z.drop_cursor]

theorem Shows.congr (h : s.Shows z) (hcursor : s'.cursor_ = s.cursor_)
    (htext : s'.displayString_ = s.displayString_) : s'.Shows z where
  displayString := htext.trans h.displayString
  locationFromEnd := hcursor ▸ h.locationFromEnd
  end_ := hcursor ▸ h.end_

/-! ## Edits -/

theorem Shows.insertAtCursor (h : s.Shows z) (new : List Char) :
    s.insertAtCursor s.displayString_ new = some (z.insert new).text := by
  have hlength := z.length_text
  unfold TextInput.insertAtCursor
  rw [h.displayString]
  split
  · rw [h.cursor, insertString, if_pos ⟨by omega, by omega⟩, Int.toNat_natCast,
      z.insert_text]
  · rename_i hend
    have hafter : z.after = [] := by
      rw [h.locationFromEnd] at hend
      exact List.length_eq_zero_iff.mp (by omega)
    rw [TextZipper.text, TextZipper.text, TextZipper.insert, hafter, List.append_nil,
      List.append_nil]

/-- With something before the cursor, its last character is erased. -/
theorem Shows.eraseChar (h : s.Shows z) (hne : z.before ≠ []) :
    eraseChar s.displayString_ (s.cursor_.end_ - s.cursor_.locationFromEnd - 1) =
      some z.backspace.text := by
  obtain ⟨l, c, hz⟩ := z.start_or_concat.resolve_left hne
  have hlength := z.length_text
  have hcursor : z.cursor = l.length + 1 := by
    rw [hz]
    exact List.length_append
  have hindex : (z.cursor : Int) - 1 = l.length := by omega
  rw [h.cursor, hindex, h.displayString, ReactNativeSkia.eraseChar,
    if_pos ⟨by omega, by omega⟩, Int.toNat_natCast, hz, TextZipper.backspace_text]

theorem Shows.moveLeft (h : s.Shows z) : (s.moveCursor .RNS_KEY_Left).input.Shows z.left := by
  have hlength := z.length_text
  have hend := h.end_
  have hlocation := h.locationFromEnd
  unfold moveCursor
  rw [if_pos rfl]
  rcases z.start_or_concat with hnil | ⟨l, c, hz⟩
  · have hcursor : z.cursor = 0 := by rw [TextZipper.cursor, hnil, List.length_nil]
    rw [if_neg (by omega), TextZipper.left, hnil]
    exact h
  · have hcursor : z.cursor = l.length + 1 := by
      rw [hz]
      exact List.length_append
    have htext := z.left_text
    rw [if_pos (by omega)]
    exact {
      displayString := h.displayString.trans htext.symm
      locationFromEnd := by
        rw [hz, TextZipper.left_concat]
        show s.cursor_.locationFromEnd + 1 = ((z.after.length + 1 : Nat) : Int)
        omega
      end_ := by
        rw [htext]
        exact h.end_ }

theorem Shows.moveRight (h : s.Shows z) :
    (s.moveCursor .RNS_KEY_Right).input.Shows z.right := by
  obtain ⟨l, r⟩ := z
  have hlocation := h.locationFromEnd
  unfold moveCursor
  rw [if_neg (by decide)]
  cases r with
  | nil =>
    rw [if_neg (by simp [hlocation])]
    exact h
  | cons c r =>
    have htext := TextZipper.right_text ⟨l, c :: r⟩
    simp only [List.length_cons] at hlocation
    rw [if_pos (by omega)]
    exact {
      displayString := h.displayString.trans htext.symm
      locationFromEnd := by
        show s.cursor_.locationFromEnd - 1 = (r.length : Int)
        omega
      end_ := by
        rw [htext]
        exact h.end_ }

/-! ## What follows an edit -/

/-- A text of this length is too long. -/
def Overflows (s : TextInput) (length : Int) : Prop := s.maxLength_ ≠ 0 ∧ length > s.maxLength_

instance (s : TextInput) (length : Int) : Decidable (s.Overflows length) :=
  inferInstanceAs (Decidable (_ ∧ _))

/-- A text that is not too long, or not longer than before, is shown. -/
theorem updateDisplayString_of_room {edited : List Char} {n : Nat}
    (h : ¬ (s.Overflows edited.length ∧ edited.length > n)) :
    (s.updateDisplayString edited n).displayString_ = edited := by
  unfold updateDisplayString
  simp only [withEnd_displayString_]
  split
  · assumption
  · rw [if_neg fun hlong => h ⟨⟨hlong.1, hlong.2.1⟩, hlong.2.2⟩]

/-- Of any other text as much is shown as there was before. -/
theorem updateDisplayString_of_overflow {edited : List Char}
    (h : s.Overflows edited.length) (hlonger : edited.length > s.displayString_.length) :
    (s.updateDisplayString edited s.displayString_.length).displayString_ =
      edited.take s.displayString_.length := by
  unfold updateDisplayString
  simp only [withEnd_displayString_]
  split
  · rename_i heq
    rw [heq] at hlonger
    omega
  · rw [if_pos ⟨h.1, h.2, hlonger⟩, List.drop_length, List.append_nil]

theorem Shows.finishEdit (h : s.Shows z) (hafter : z'.after = z.after) (end_ : Int) {n : Nat}
    (wait : Bool) (hroom : ¬ (s.Overflows z'.text.length ∧ z'.text.length > n)) :
    ((s.withEnd end_).finishEdit key z'.text n wait true).input.Shows z' := by
  have hshown := updateDisplayString_of_room (s := s.withEnd end_) hroom
  exact {
    displayString := hshown
    locationFromEnd := hafter ▸ h.locationFromEnd
    end_ := congrArg (fun text : List Char => (text.length : Int)) hshown }

theorem Shows.finishEdit_of_overflow (h : s.Shows z) {new : List Char} (hnew : new ≠ [])
    (end_ : Int) (wait : Bool) (hfull : s.Overflows (z.insert new).text.length) :
    ((s.withEnd end_).finishEdit key (z.insert new).text s.displayString_.length wait
      true).input.Shows (z.overtype new) := by
  have hlonger : (z.insert new).text.length > s.displayString_.length := by
    have hpos := List.length_pos_iff.mpr hnew
    rw [z.length_insert, h.displayString]
    omega
  have hshown : ((s.withEnd end_).updateDisplayString (z.insert new).text
      s.displayString_.length).displayString_ = (z.overtype new).text := by
    rw [z.overtype_text, ← h.displayString]
    exact updateDisplayString_of_overflow (s := s.withEnd end_) hfull hlonger
  exact {
    displayString := hshown
    locationFromEnd := by
      rw [z.length_overtype_after]
      exact h.locationFromEnd
    end_ := congrArg (fun text : List Char => (text.length : Int)) hshown }

theorem finishEdit_report (edited : List Char) (n : Nat) (wait update : Bool) :
    reportedText (s.finishEdit key edited n wait update).events =
      if s.Overflows edited.length then none else some edited := by
  obtain ⟨textInputMetrics, htext, hevents⟩ : ∃ textInputMetrics : TextInputMetrics,
      textInputMetrics.text = edited ∧ (s.finishEdit key edited n wait update).events =
        .onKeyPress (RNSKeyMap key) none ::
          if s.Overflows edited.length then []
          else [.onChange textInputMetrics, .onContentSizeChange textInputMetrics,
            .onSelectionChange textInputMetrics] := by
    cases update with
    | true => exact ⟨_, rfl, rfl⟩
    | false => exact ⟨_, rfl, rfl⟩
  rw [hevents, reportedText]
  split
  · rfl
  · simp [htext]

/-! ## Texts of the app -/

theorem postUpdate_shown (s : TextInput) :
    s.postUpdate.cursor_ = s.cursor_ ∧ s.postUpdate.displayString_ = s.displayString_ := by
  unfold postUpdate
  split
  · exact ⟨rfl, rfl⟩
  · exact ⟨rfl, rfl⟩

theorem setTextAndSelection_shown (s : TextInput) (text : List Char) :
    (s.setTextAndSelection text).cursor_ = (s.withText text).cursor_ ∧
      (s.setTextAndSelection text).displayString_ = text :=
  postUpdate_shown (s.withText text)

/-- An update puts the text of the props in place or leaves the text alone. -/
theorem updateComponentProps_shown (s : TextInput) (props : TextInputProps) (forceUpdate : Bool) :
    (s.replacesText props forceUpdate = true ∧
        (s.updateComponentProps props forceUpdate).cursor_ = (s.withText props.text).cursor_ ∧
        (s.updateComponentProps props forceUpdate).displayString_ = props.text) ∨
      (s.replacesText props forceUpdate = false ∧
        (s.updateComponentProps props forceUpdate).cursor_ = s.cursor_ ∧
        (s.updateComponentProps props forceUpdate).displayString_ = s.displayString_) := by
  have hreplaces : ({ s with maxLength_ := props.maxLength } : TextInput).replacesText props
      forceUpdate = s.replacesText props forceUpdate := rfl
  unfold updateComponentProps updateText
  simp only [hreplaces]
  cases s.replacesText props forceUpdate with
  | true => exact Or.inl ⟨rfl, postUpdate_shown _⟩
  | false => exact Or.inr ⟨rfl, rfl, rfl⟩

/-- A focus clears the text or leaves it alone, and reports nothing. -/
theorem requestForEditingMode_shown (s : TextInput) :
    reportedText s.requestForEditingMode.2 = none ∧
      ((s.isInEditingMode_ = false ∧ s.props.clearTextOnFocus = true ∧ s.displayString_ ≠ [] ∧
          s.requestForEditingMode.1.cursor_ = { locationFromEnd := 0, end_ := 0 } ∧
          s.requestForEditingMode.1.displayString_ = []) ∨
        ((s.isInEditingMode_ = false → s.props.clearTextOnFocus = true → s.displayString_ = []) ∧
          s.requestForEditingMode.1.cursor_ = s.cursor_ ∧
          s.requestForEditingMode.1.displayString_ = s.displayString_)) := by
  unfold requestForEditingMode
  split
  · rename_i hediting
    refine ⟨rfl, Or.inr ⟨fun hnot => ?_, rfl, rfl⟩⟩
    rw [hediting] at hnot
    cases hnot
  · rename_i hediting
    refine ⟨rfl, ?_⟩
    dsimp only
    split
    · rename_i hclears
      rw [Bool.and_eq_true, Bool.not_eq_true', List.isEmpty_eq_false_iff] at hclears
      exact Or.inl ⟨Bool.of_not_eq_true hediting, hclears.1, hclears.2, rfl, rfl⟩
    · rename_i hkeeps
      refine Or.inr ⟨fun _ hclears => ?_, rfl, rfl⟩
      by_contra hne
      refine hkeeps ?_
      rw [Bool.and_eq_true, Bool.not_eq_true', List.isEmpty_eq_false_iff]
      exact ⟨hclears, hne⟩

/-! ## Every key -/

/-- What a key does to the input, and what is reported of it. -/
structure KeyShown (s : TextInput) (z : TextZipper Char) (key : RnsKey) (result : KeyResult) :
    Prop where
  shows : result.input.Shows (z.typeKeyWithin s.maxLength_ key)
  report : reportedText result.events = z.report s.maxLength_ key
  maxLength_ : result.input.maxLength_ = s.maxLength_

theorem typeKey_of_displayable (z : TextZipper Char) (hkey : key.isDisplayable = true) :
    z.typeKey key = z.insert (RNSKeyMap key) := if_pos hkey

theorem typeKey_of_erases (z : TextZipper Char)
    (hkey : key = .RNS_KEY_Back ∨ key = .RNS_KEY_Delete) : z.typeKey key = z.backspace := by
  rcases hkey with rfl | rfl <;> rfl

theorem typeKeyWithin_of_overflow (hkey : key.isDisplayable = true)
    (hfull : s.Overflows (z.insert (RNSKeyMap key)).text.length) :
    z.typeKeyWithin s.maxLength_ key = z.overtype (RNSKeyMap key) := by
  rw [TextZipper.typeKeyWithin, typeKey_of_displayable z hkey, if_pos ⟨hkey, hfull⟩]

theorem typeKeyWithin_of_room (hkey : key.isDisplayable = true)
    (hroom : ¬ s.Overflows (z.insert (RNSKeyMap key)).text.length) :
    z.typeKeyWithin s.maxLength_ key = z.insert (RNSKeyMap key) := by
  rw [TextZipper.typeKeyWithin, typeKey_of_displayable z hkey, if_neg fun hlong => hroom hlong.2]

theorem Shows.overflows_insert_iff (h : s.Shows z) (hkey : key.isDisplayable = true) :
    s.Overflows (z.insert (RNSKeyMap key)).text.length ↔
      s.Overflows (s.displayString_.length + 1) := by
  rw [z.length_insert, RnsKey.RNSKeyMap_length hkey, ← h.displayString, Int.natCast_add_one]

theorem typeKeyWithin_of_not_displayable (z : TextZipper Char) (maxLength : Int)
    (hkey : ¬ key.isDisplayable = true) : z.typeKeyWithin maxLength key = z.typeKey key :=
  if_neg fun h => hkey h.1

theorem report_of_not_edits (z : TextZipper Char) (maxLength : Int) (hkey : ¬ key.Edits) :
    z.report maxLength key = none := if_neg fun h => hkey h.1

theorem report_of_edits (z : TextZipper Char) (s : TextInput) (hkey : key.Edits) :
    z.report s.maxLength_ key =
      if s.Overflows (z.typeKey key).text.length then none else some (z.typeKey key).text := by
  unfold TextZipper.report
  by_cases hfull : s.Overflows (z.typeKey key).text.length
  · rw [if_neg fun h => h.2 hfull, if_pos hfull]
  · rw [if_pos ⟨hkey, hfull⟩, if_neg hfull]

/-- A key that neither edits nor moves. -/
theorem typeKey_of_other (z : TextZipper Char) (hkey : ¬ key.Edits)
    (hmove : ¬ (key = .RNS_KEY_Left ∨ key = .RNS_KEY_Right)) : z.typeKey key = z := by
  unfold TextZipper.typeKey
  rw [if_neg fun h => hkey (.inl h)]
  split
  · exact absurd (.inl rfl) hmove
  · exact absurd (.inr rfl) hmove
  · exact absurd (.inr (.inl rfl)) hkey
  · exact absurd (.inr (.inr rfl)) hkey
  · rfl

theorem moveCursor_report (s : TextInput) (key : RnsKey) :
    reportedText (s.moveCursor key).events = none := by
  unfold moveCursor
  dsimp only
  split
  · split
    · rfl
    · rfl
  · split
    · rfl
    · rfl

theorem moveCursor_maxLength_ (s : TextInput) (key : RnsKey) :
    (s.moveCursor key).input.maxLength_ = s.maxLength_ := by
  unfold moveCursor
  dsimp only
  split
  · split
    · rfl
    · rfl
  · split
    · rfl
    · rfl

theorem resignFromEditingMode_shown (s : TextInput) :
    s.resignFromEditingMode.1.cursor_ = s.cursor_ ∧
      s.resignFromEditingMode.1.displayString_ = s.displayString_ ∧
      s.resignFromEditingMode.1.maxLength_ = s.maxLength_ ∧
      reportedText s.resignFromEditingMode.2 = none := by
  unfold resignFromEditingMode
  split
  · exact ⟨rfl, rfl, rfl, rfl⟩
  · split
    · exact ⟨rfl, rfl, rfl, rfl⟩
    · exact ⟨rfl, rfl, rfl, rfl⟩

/-- Of any other key nothing is seen in the text. -/
theorem processEventKey_of_other (s : TextInput) (hkey : ¬ key.Edits)
    (hmove : ¬ (key = .RNS_KEY_Left ∨ key = .RNS_KEY_Right)) (stop wait update : Bool) :
    ∃ result, s.processEventKey key stop wait update = some result ∧
      result.input.cursor_ = s.cursor_ ∧ result.input.displayString_ = s.displayString_ ∧
      result.input.maxLength_ = s.maxLength_ ∧ reportedText result.events = none := by
  obtain ⟨hdisplayable, herase⟩ := not_or.mp hkey
  unfold TextInput.processEventKey processText
  rw [if_neg hdisplayable, if_neg hmove, if_neg herase]
  split
  · exact ⟨_, rfl, rfl, rfl, rfl, rfl⟩
  · split
    · exact ⟨_, rfl, resignFromEditingMode_shown { s with eventCount_ := s.eventCount_ + 1 }⟩
    · split
      · exact ⟨_, rfl, rfl, rfl, rfl, rfl⟩
      · exact ⟨_, rfl, rfl, rfl, rfl, rfl⟩

theorem Shows.displayable (h : s.Shows z) (hkey : key.isDisplayable = true) (stop wait : Bool) :
    ∃ result, s.processEventKey key stop wait true = some result ∧ s.KeyShown z key result := by
  have hnew : RNSKeyMap key ≠ [] := by
    intro hnil
    have hlength := RnsKey.RNSKeyMap_length hkey
    rw [hnil] at hlength
    cases hlength
  unfold TextInput.processEventKey processText
  rw [if_pos hkey, h.insertAtCursor]
  refine ⟨_, rfl, ?_, ?_, rfl⟩
  · by_cases hfull : s.Overflows (z.insert (RNSKeyMap key)).text.length
    · rw [typeKeyWithin_of_overflow hkey hfull]
      exact h.finishEdit_of_overflow hnew _ wait hfull
    · rw [typeKeyWithin_of_room hkey hfull]
      have hafter : (z.insert (RNSKeyMap key)).after = z.after := rfl
      exact h.finishEdit hafter _ wait fun hlong => hfull hlong.1
  · rw [finishEdit_report, report_of_edits z s (.inl hkey), typeKey_of_displayable z hkey]
    rfl

theorem processEventKey_of_erases (s : TextInput)
    (hkey : key = .RNS_KEY_Back ∨ key = .RNS_KEY_Delete) (stop wait : Bool) :
    s.processEventKey key stop wait true =
      if s.displayString_ ≠ [] ∧ s.cursor_.end_ ≠ s.cursor_.locationFromEnd then do
        let edited ← eraseChar s.displayString_
          (s.cursor_.end_ - s.cursor_.locationFromEnd - 1)
        return (s.withEnd edited.length).finishEdit key edited s.displayString_.length wait true
      else some (s.finishEdit key s.displayString_ s.displayString_.length false true) := by
  rcases hkey with rfl | rfl <;> rfl

/-- With the cursor at the start there is nothing to delete. -/
theorem Shows.at_start_iff (h : s.Shows z) :
    z.before = [] ↔ s.cursor_.end_ = s.cursor_.locationFromEnd := by
  have hcursor := h.cursor
  rw [← List.length_eq_zero_iff]
  change z.cursor = 0 ↔ _
  omega

theorem Shows.ne_nil (h : s.Shows z) (hne : z.before ≠ []) : s.displayString_ ≠ [] := by
  rw [h.displayString]
  exact List.append_ne_nil_of_left_ne_nil hne z.after

theorem Shows.backspace (h : s.Shows z) (hkey : key = .RNS_KEY_Back ∨ key = .RNS_KEY_Delete)
    (stop wait : Bool) :
    ∃ result, s.processEventKey key stop wait true = some result ∧ s.KeyShown z key result := by
  have hnot := RnsKey.not_isDisplayable_of_erases hkey
  have htype := typeKey_of_erases z hkey
  have hafter : z.backspace.after = z.after := rfl
  rw [s.processEventKey_of_erases hkey]
  by_cases hstart : z.before = []
  · have hsame := TextZipper.backspace_of_start hstart
    rw [if_neg fun hne => hne.2 (h.at_start_iff.mp hstart), h.displayString]
    refine ⟨_, rfl, ?_, ?_, rfl⟩
    · rw [typeKeyWithin_of_not_displayable z _ hnot, htype, hsame]
      exact h.finishEdit rfl s.cursor_.end_ false fun hlong => absurd hlong.2 (Nat.lt_irrefl _)
    · rw [finishEdit_report, report_of_edits z s (.inr hkey), htype, hsame]
  · have hshorter : z.backspace.text.length ≤ s.displayString_.length := by
      have hlength := TextZipper.length_backspace hstart
      rw [h.displayString]
      omega
    rw [if_pos ⟨h.ne_nil hstart, mt h.at_start_iff.mpr hstart⟩, h.eraseChar hstart]
    refine ⟨_, rfl, ?_, ?_, rfl⟩
    · rw [typeKeyWithin_of_not_displayable z _ hnot, htype]
      exact h.finishEdit hafter _ wait fun hlong => absurd hlong.2 (Nat.not_lt.mpr hshorter)
    · rw [finishEdit_report, report_of_edits z s (.inr hkey), htype]
      rfl

theorem processEventKey_of_moves (s : TextInput)
    (hkey : key = .RNS_KEY_Left ∨ key = .RNS_KEY_Right) (stop wait update : Bool) :
    s.processEventKey key stop wait update = some (s.moveCursor key) := by
  rcases hkey with rfl | rfl <;> rfl

theorem Shows.move (h : s.Shows z) (hkey : key = .RNS_KEY_Left ∨ key = .RNS_KEY_Right) :
    s.KeyShown z key (s.moveCursor key) where
  shows := by
    rcases hkey with rfl | rfl
    · exact h.moveLeft
    · exact h.moveRight
  report := by
    rw [moveCursor_report]
    rcases hkey with rfl | rfl
    · rfl
    · rfl
  maxLength_ := moveCursor_maxLength_ s key

theorem Shows.other (h : s.Shows z) (hkey : ¬ key.Edits)
    (hmove : ¬ (key = .RNS_KEY_Left ∨ key = .RNS_KEY_Right)) (stop wait : Bool) :
    ∃ result, s.processEventKey key stop wait true = some result ∧ s.KeyShown z key result := by
  obtain ⟨result, hresult, hcursor, htext, hmax, hreport⟩ :=
    s.processEventKey_of_other hkey hmove stop wait true
  refine ⟨result, hresult, ?_, hreport.trans (report_of_not_edits z _ hkey).symm, hmax⟩
  rw [typeKeyWithin_of_not_displayable z _ fun hd => hkey (.inl hd), typeKey_of_other z hkey hmove]
  exact h.congr hcursor htext

/-- Every key of the editor does to the input what it does to the editor. -/
theorem Shows.editing (h : s.Shows z) (hkey : key.IsEditing) (stop wait : Bool) :
    ∃ result, s.processEventKey key stop wait true = some result ∧ s.KeyShown z key result := by
  rcases hkey with hkey | rfl | rfl | rfl | rfl | rfl | rfl
  · exact h.displayable hkey stop wait
  · exact ⟨_, rfl, h.move (Or.inl rfl)⟩
  · exact ⟨_, rfl, h.move (Or.inr rfl)⟩
  · exact h.backspace (Or.inr rfl) stop wait
  · exact h.backspace (Or.inl rfl) stop wait
  · exact h.other (by decide) (by decide) stop wait
  · exact h.other (by decide) (by decide) stop wait

/-- And no other key is seen in the text. -/
theorem Shows.processEventKey (h : s.Shows z) (key : RnsKey) (stop wait : Bool) :
    ∃ result, s.processEventKey key stop wait true = some result ∧ s.KeyShown z key result := by
  by_cases hkey : key.IsEditing
  · exact h.editing hkey stop wait
  · obtain ⟨hdisplayable, hleft, hright, hdelete, hback, -⟩ :
        ¬ key.isDisplayable = true ∧ key ≠ .RNS_KEY_Left ∧ key ≠ .RNS_KEY_Right ∧
          key ≠ .RNS_KEY_Delete ∧ key ≠ .RNS_KEY_Back ∧ key ≠ .RNS_KEY_Up ∧
          key ≠ .RNS_KEY_Down := by
      simpa [RnsKey.IsEditing] using hkey
    exact h.other (not_or.mpr ⟨hdisplayable, not_or.mpr ⟨hback, hdelete⟩⟩)
      (not_or.mpr ⟨hleft, hright⟩) stop wait

end TextInput

/-- What happens to an uncontrolled input. A key comes with the two flags that it may write to. -/
inductive UncontrolledOp where
  | processEventKey (eventKeyType : RnsKey) (stopPropagation waitForupdateProps : Bool)
  | updateComponentProps (props : TextInputProps) (forceUpdate : Bool)
  | setTextAndSelection (text : List Char)
  | requestForEditingMode
  | resignFromEditingMode

namespace UncontrolledOp

/-- The input, and the text that is reported to the app or comes from it. `none` if an index is
out of range. -/
def exec (s : TextInput) : UncontrolledOp → Option (TextInput × Option (List Char))
  | processEventKey eventKeyType stopPropagation waitForupdateProps =>
    (s.processEventKey eventKeyType stopPropagation waitForupdateProps true).map fun result =>
      (result.input, reportedText result.events)
  | updateComponentProps props forceUpdate =>
    some (s.updateComponentProps props forceUpdate,
      if s.replacesText props forceUpdate then some props.text else none)
  | setTextAndSelection text => some (s.setTextAndSelection text, some text)
  | requestForEditingMode =>
    some (s.requestForEditingMode.1, reportedText s.requestForEditingMode.2)
  | resignFromEditingMode =>
    some (s.resignFromEditingMode.1, reportedText s.resignFromEditingMode.2)

end UncontrolledOp

end ReactNativeSkia
