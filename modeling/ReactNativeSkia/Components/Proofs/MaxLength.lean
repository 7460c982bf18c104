import ReactNativeSkia.Components.Proofs.ShownText

/-!
# The maximum length

A character for which there is no room is not reported, and the shown text is to stay as it is. The
source copies as much of the edited text over the shown one as that is long, which changes nothing
only where the text behind the cursor repeats the character. A deletion from a text that is too long
and stays so is shown and not reported.
-/

namespace ReactNativeSkia

namespace TextInput

/-- The text and the cursor are left alone if there is no room for the character, and otherwise the
edited text is shown. -/
def HonoursMaxLength (s : TextInput) (key : RnsKey) (s' : TextInput) : Prop :=
  if ((s.zipper.insert (RNSKeyMap key)).text.length : Int) > s.maxLength_ then
    s'.displayString_ = s.displayString_ ∧ s'.cursor_ = s.cursor_
  else s'.displayString_ = (s.zipper.insert (RNSKeyMap key)).text

/-- There is room for a character, or the text behind the cursor is nothing but this one. -/
def HasRoomFor (s : TextInput) (key : RnsKey) : Prop :=
  s.Overflows (s.displayString_.length + 1) → ∀ d ∈ s.zipper.after, RNSKeyMap key = [d]

/-- What a deletion leaves of the text is not too long. -/
def ErasesWithin (s : TextInput) : Prop :=
  s.displayString_ ≠ [] → s.cursor_.end_ ≠ s.cursor_.locationFromEnd →
    ¬ s.Overflows (s.displayString_.length - 1)

end TextInput

/-- The app is told of what becomes of the text. -/
def UncontrolledOp.KeepsDisplay (s : TextInput) : UncontrolledOp → Prop
  | .processEventKey key _ _ =>
    (key.isDisplayable = true → s.HasRoomFor key) ∧
      (key = .RNS_KEY_Back ∨ key = .RNS_KEY_Delete → s.ErasesWithin)
  | .requestForEditingMode =>
    s.isInEditingMode_ = false → s.props.clearTextOnFocus = true → s.displayString_ = []
  | _ => True

/-- The input, and the last text that was reported to the app or came from it. -/
def displayStep (p : TextInput × List Char) (op : UncontrolledOp) (q : TextInput × List Char) :
    Prop :=
  (op.exec p.1).map (fun r => (r.1, r.2.getD p.2)) = some q

namespace TextInput

variable {s s' : TextInput} {z : TextZipper Char} {key : RnsKey}

/-! ## One key on the shown text -/

/-- A character that makes the text too long. -/
theorem Shows.overtype_iff (h : s.Shows z) (hkey : key.isDisplayable = true)
    (hfull : s.Overflows (s.displayString_.length + 1)) :
    (z.overtype (RNSKeyMap key)).text = z.text ↔ s.HasRoomFor key := by
  obtain ⟨c, hc⟩ := List.length_eq_one_iff.mp (RnsKey.RNSKeyMap_length hkey)
  rw [hc, z.overtype_singleton_text_iff, h.eq_zipper, HasRoomFor, hc]
  constructor
  · intro hrepeats _ d hd
    rw [hrepeats d hd]
  · intro hroom d hd
    exact (List.cons.inj (hroom hfull d hd)).1.symm

/-- With the cursor in the text, a character leaves the text alone or is shown as it should, or it
pushes out a character that is different. -/
theorem Shows.honoursMaxLength_iff (h : s.Shows z) (hmax : 0 < s.maxLength_)
    (hkey : key.isDisplayable = true)
    (hshows : s'.Shows (z.typeKeyWithin s.maxLength_ key)) :
    s.HonoursMaxLength key s' ↔ s.HasRoomFor key := by
  have hfull := h.overflows_insert_iff hkey
  unfold HonoursMaxLength
  rw [← h.eq_zipper]
  by_cases hlong : ((z.insert (RNSKeyMap key)).text.length : Int) > s.maxLength_
  · have hover : s.Overflows (s.displayString_.length + 1) := hfull.mp ⟨by omega, hlong⟩
    rw [typeKeyWithin_of_overflow hkey (hfull.mpr hover)] at hshows
    rw [if_pos hlong, hshows.displayString, h.displayString, ← h.overtype_iff hkey hover]
    refine and_iff_left_of_imp fun hsame => ?_
    have hlocation : s'.cursor_.locationFromEnd = s.cursor_.locationFromEnd := by
      rw [hshows.locationFromEnd, z.length_overtype_after, h.locationFromEnd]
    have hend : s'.cursor_.end_ = s.cursor_.end_ := by
      rw [hshows.end_, hsame, h.end_]
    exact Cursor.ext hlocation hend
  · have hroom : ¬ s.Overflows (z.insert (RNSKeyMap key)).text.length := fun hover => hlong hover.2
    rw [typeKeyWithin_of_room hkey hroom] at hshows
    rw [if_neg hlong]
    exact iff_of_true hshows.displayString fun hover => absurd (hfull.mpr hover) hroom

/-- To move the cursor changes no text. -/
theorem typeKey_text_of_not_edits (z : TextZipper Char) (hkey : ¬ key.Edits) :
    (z.typeKey key).text = z.text := by
  by_cases hmove : key = .RNS_KEY_Left ∨ key = .RNS_KEY_Right
  · rcases hmove with rfl | rfl
    · exact z.left_text
    · exact z.right_text
  · rw [typeKey_of_other z hkey hmove]

/-- A deletion is shown, and it is reported or there was nothing to delete. -/
theorem Shows.erased_iff (h : s.Shows z) :
    z.backspace.text =
        (if s.Overflows z.backspace.text.length then none else some z.backspace.text).getD z.text ↔
      s.ErasesWithin := by
  by_cases hstart : z.before = []
  · refine iff_of_true ?_ fun _ hne => absurd (h.at_start_iff.mp hstart) hne
    rw [TextZipper.backspace_of_start hstart]
    split
    · rfl
    · rfl
  · have hlength := TextZipper.length_backspace hstart
    have hshorter : ((s.displayString_.length : Int) - 1) = z.backspace.text.length := by
      rw [h.displayString]
      omega
    unfold ErasesWithin
    rw [hshorter]
    by_cases hfull : s.Overflows z.backspace.text.length
    · rw [if_pos hfull, Option.getD_none]
      refine iff_of_false ?_ fun hwithin =>
        hwithin (h.ne_nil hstart) (mt h.at_start_iff.mpr hstart) hfull
      intro hsame
      rw [hsame] at hlength
      omega
    · rw [if_neg hfull]
      exact iff_of_true rfl fun _ _ => hfull

/-- What the app was last told of is shown, unless a character goes lost or a deletion is not
reported. -/
theorem Shows.typed_iff (h : s.Shows z) (key : RnsKey) (stop wait : Bool) :
    (z.typeKeyWithin s.maxLength_ key).text = (z.report s.maxLength_ key).getD z.text ↔
      (UncontrolledOp.processEventKey key stop wait).KeepsDisplay s := by
  by_cases hkey : key.isDisplayable = true
  · have herase : ¬ (key = .RNS_KEY_Back ∨ key = .RNS_KEY_Delete) :=
      fun he => RnsKey.not_isDisplayable_of_erases he hkey
    rw [report_of_edits z s (.inl hkey), typeKey_of_displayable z hkey]
    by_cases hfull : s.Overflows (z.insert (RNSKeyMap key)).text.length
    · rw [typeKeyWithin_of_overflow hkey hfull, if_pos hfull, Option.getD_none,
        h.overtype_iff hkey ((h.overflows_insert_iff hkey).mp hfull)]
      exact ⟨fun hroom => ⟨fun _ => hroom, fun he => absurd he herase⟩, fun hok => hok.1 hkey⟩
    · rw [typeKeyWithin_of_room hkey hfull, if_neg hfull]
      exact iff_of_true rfl ⟨fun _ hover => absurd ((h.overflows_insert_iff hkey).mpr hover) hfull,
        fun he => absurd he herase⟩
  · rw [typeKeyWithin_of_not_displayable z _ hkey]
    by_cases herase : key = .RNS_KEY_Back ∨ key = .RNS_KEY_Delete
    · rw [report_of_edits z s (.inr herase), typeKey_of_erases z herase, h.erased_iff]
      exact ⟨fun hwithin => ⟨fun hd => absurd hd hkey, fun _ => hwithin⟩, fun hok => hok.2 herase⟩
    · rw [report_of_not_edits z _ (not_or.mpr ⟨hkey, herase⟩), Option.getD_none]
      exact iff_of_true (typeKey_text_of_not_edits z (not_or.mpr ⟨hkey, herase⟩))
        ⟨fun hd => absurd hd hkey, fun he => absurd he herase⟩

/-! ## Every operation -/

/-- The cursor is at or before the end of the text. A shorter text from the app may have left it
before the start. -/
structure Placed (s : TextInput) : Prop where
  nonneg : 0 ≤ s.cursor_.locationFromEnd
  length : s.cursor_.end_ = s.displayString_.length

theorem Inside.placed (h : s.Inside) : s.Placed := ⟨h.nonneg, h.length⟩

theorem Shows.placed (h : s.Shows z) : s.Placed where
  nonneg := h.locationFromEnd ▸ Int.natCast_nonneg _
  length := by rw [h.end_, h.displayString]

theorem Placed.congr (h : s.Placed) (hcursor : s'.cursor_ = s.cursor_)
    (htext : s'.displayString_ = s.displayString_) : s'.Placed where
  nonneg := hcursor ▸ h.nonneg
  length := by rw [hcursor, htext, h.length]

theorem moveCursor_displayString_ (s : TextInput) (key : RnsKey) :
    (s.moveCursor key).input.displayString_ = s.displayString_ := by
  unfold moveCursor
  dsimp only
  split
  · split
    · rfl
    · rfl
  · split
    · rfl
    · rfl

theorem Placed.moveCursor (h : s.Placed) (key : RnsKey) : (s.moveCursor key).input.Placed := by
  have hnonneg := h.nonneg
  unfold TextInput.moveCursor
  dsimp only
  split
  · split
    · exact ⟨Int.le_add_one hnonneg, h.length⟩
    · exact h
  · split
    · rename_i hpos
      exact ⟨Int.sub_nonneg_of_le hpos, h.length⟩
    · exact h

/-- With the cursor before the start of the text no key edits it. -/
theorem Placed.processEventKey_of_stranded (h : s.Placed)
    (hstranded : s.cursor_.end_ < s.cursor_.locationFromEnd) {stop wait : Bool}
    {result : KeyResult} (hexec : s.processEventKey key stop wait true = some result) :
    result.input.Placed ∧ result.input.displayString_ = s.displayString_ ∧
      (reportedText result.events).getD s.displayString_ = s.displayString_ ∧
      (UncontrolledOp.processEventKey key stop wait).KeepsDisplay s := by
  have hlength := h.length
  by_cases hedits : key.Edits
  · rcases hedits with hkey | herase
    · -- the index of the insertion is negative
      have hnone : s.insertAtCursor s.displayString_ (RNSKeyMap key) = none := by
        rw [insertAtCursor, if_pos (by omega), insertString, if_neg (by omega)]
      rw [TextInput.processEventKey, processText, if_pos hkey, hnone] at hexec
      cases hexec
    · rw [s.processEventKey_of_erases herase] at hexec
      split at hexec
      · -- so is the index of the deletion
        have hnone : eraseChar s.displayString_
            (s.cursor_.end_ - s.cursor_.locationFromEnd - 1) = none := if_neg (by omega)
        rw [hnone] at hexec
        cases hexec
      · rename_i hnot
        obtain rfl := Option.some.inj hexec
        have hshown : (s.updateDisplayString s.displayString_
            s.displayString_.length).displayString_ = s.displayString_ :=
          updateDisplayString_of_room fun hlong => absurd hlong.2 (Nat.lt_irrefl _)
        refine ⟨⟨h.nonneg, rfl⟩, hshown, ?_,
          fun hd => absurd hd (RnsKey.not_isDisplayable_of_erases herase),
          fun _ hsome hne => absurd ⟨hsome, hne⟩ hnot⟩
        rw [finishEdit_report]
        split
        · rfl
        · rfl
  · have hkeeps : (UncontrolledOp.processEventKey key stop wait).KeepsDisplay s :=
      ⟨fun hd => absurd (.inl hd) hedits, fun he => absurd (.inr he) hedits⟩
    by_cases hmove : key = .RNS_KEY_Left ∨ key = .RNS_KEY_Right
    · rw [s.processEventKey_of_moves hmove] at hexec
      obtain rfl := Option.some.inj hexec
      refine ⟨h.moveCursor key, moveCursor_displayString_ s key, ?_, hkeeps⟩
      rw [moveCursor_report, Option.getD_none]
    · obtain ⟨result', hresult, hcursor, htext, -, hreport⟩ :=
        s.processEventKey_of_other hedits hmove stop wait true
      obtain rfl := Option.some.inj (hresult.symm.trans hexec)
      refine ⟨h.congr hcursor htext, htext, ?_, hkeeps⟩
      rw [hreport, Option.getD_none]

/-- Whatever happens to an uncontrolled input, the shown text is still the last one that was
reported to the app or came from it if and only if the condition is met. -/
theorem Placed.exec_iff (h : s.Placed) {op : UncontrolledOp} {report : Option (List Char)}
    (hexec : op.exec s = some (s', report)) :
    s'.Placed ∧ (s'.displayString_ = report.getD s.displayString_ ↔ op.KeepsDisplay s) := by
  cases op with
  | processEventKey key stop wait =>
    obtain ⟨result, hkey, heq⟩ := Option.map_eq_some_iff.mp hexec
    obtain ⟨rfl, rfl⟩ := Prod.mk.inj heq
    by_cases hstranded : s.cursor_.end_ < s.cursor_.locationFromEnd
    · obtain ⟨hplaced, htext, hreport, hkeeps⟩ := h.processEventKey_of_stranded hstranded hkey
      exact ⟨hplaced, iff_of_true (htext.trans hreport.symm) hkeeps⟩
    · have hshows := Inside.shows_zipper ⟨h.nonneg, Int.not_lt.mp hstranded, h.length⟩
      obtain ⟨result', hkey', hshown⟩ := hshows.processEventKey key stop wait
      obtain rfl := Option.some.inj (hkey'.symm.trans hkey)
      refine ⟨hshown.shows.placed, ?_⟩
      rw [hshown.shows.displayString, hshown.report, hshows.displayString,
        hshows.typed_iff key stop wait]
  | updateComponentProps props forceUpdate =>
    obtain ⟨rfl, rfl⟩ := Prod.mk.inj (Option.some.inj hexec)
    rcases s.updateComponentProps_shown props forceUpdate with
      ⟨hreplaces, hcursor, htext⟩ | ⟨hreplaces, hcursor, htext⟩
    · refine ⟨⟨?_, ?_⟩, iff_of_true ?_ trivial⟩
      · rw [hcursor]
        exact h.nonneg
      · rw [hcursor, htext]
        rfl
      · rw [hreplaces, htext]
        rfl
    · refine ⟨h.congr hcursor htext, iff_of_true ?_ trivial⟩
      rw [hreplaces, htext]
      rfl
  | setTextAndSelection text =>
    obtain ⟨rfl, rfl⟩ := Prod.mk.inj (Option.some.inj hexec)
    obtain ⟨hcursor, htext⟩ := s.setTextAndSelection_shown text
    refine ⟨⟨?_, ?_⟩, iff_of_true htext trivial⟩
    · rw [hcursor]
      exact h.nonneg
    · rw [hcursor, htext]
      rfl
  | requestForEditingMode =>
    obtain ⟨rfl, rfl⟩ := Prod.mk.inj (Option.some.inj hexec)
    obtain ⟨hreport, ⟨hediting, hclears, hne, hcursor, htext⟩ | ⟨hkeeps, hcursor, htext⟩⟩ :=
      s.requestForEditingMode_shown
    · refine ⟨⟨?_, ?_⟩, iff_of_false ?_ fun hok => hne (hok hediting hclears)⟩
      · exact Int.le_of_eq (congrArg Cursor.locationFromEnd hcursor).symm
      · rw [hcursor, htext]
        rfl
      · rw [hreport, htext, Option.getD_none]
        exact Ne.symm hne
    · refine ⟨h.congr hcursor htext, iff_of_true ?_ hkeeps⟩
      rw [hreport, htext, Option.getD_none]
  | resignFromEditingMode =>
    obtain ⟨rfl, rfl⟩ := Prod.mk.inj (Option.some.inj hexec)
    obtain ⟨hcursor, htext, -, hreport⟩ := s.resignFromEditingMode_shown
    refine ⟨h.congr hcursor htext, iff_of_true ?_ trivial⟩
    rw [hreport, htext, Option.getD_none]

/-- In a run whose operations meet the condition the two texts do not part. -/
theorem Placed.run (h : s.Placed) {lastText : List Char}
    (hrun : Run displayStep (fun p op => op.KeepsDisplay p.1) (s, s.displayString_)
      (s', lastText)) : s'.displayString_ = lastText := by
  refine (hrun.invariant (P := fun p => p.1.Placed ∧ p.1.displayString_ = p.2) ?_ ⟨h, rfl⟩).2
  rintro ⟨u, text⟩ op ⟨v, text'⟩ ⟨hplaced, hsame⟩ hok hstep
  obtain ⟨⟨v', report⟩, hexec, heq⟩ := Option.map_eq_some_iff.mp hstep
  obtain ⟨rfl, rfl⟩ := Prod.mk.inj heq
  obtain ⟨hplaced', hiff⟩ := hplaced.exec_iff hexec
  refine ⟨hplaced', ?_⟩
  rw [← hsame]
  exact hiff.mpr hok

/-- Within a maximum length a character does what it should if and only if there is room for it or
it stands already everywhere behind the cursor; and as long as every operation meets the condition,
the shown text is the last one that was reported to the app or came from it. -/
theorem maxLength_iff (s : TextInput) (hinside : s.Inside) (hmax : 0 < s.maxLength_) :
    (∀ key stop wait, key.isDisplayable = true →
      ∃ result, s.processEventKey key stop wait true = some result ∧
        (s.HonoursMaxLength key result.input ↔ s.HasRoomFor key)) ∧
    (∀ s' lastText, Run displayStep (fun p op => op.KeepsDisplay p.1) (s, s.displayString_)
      (s', lastText) → s'.displayString_ = lastText) := by
  constructor
  · intro key stop wait hkey
    obtain ⟨result, hresult, hshown⟩ := hinside.shows_zipper.displayable hkey stop wait
    exact ⟨result, hresult, hinside.shows_zipper.honoursMaxLength_iff hmax hkey hshown.shows⟩
  · intro s' lastText hrun
    exact hinside.placed.run hrun

/-- With the cursor at the end of a full text a character is turned down, and Back is reported. -/
theorem maxLength_iff_ab :
    (∃ result : KeyResult,
      TextInput.processEventKey
        { displayString_ := ['a', 'b'], cursor_ := { end_ := 2 }, maxLength_ := 2 }
        .RNS_KEY_x false true true = some result ∧
      result.input.displayString_ = ['a', 'b']) ∧
    ∃ s', displayStep
        ({ displayString_ := ['a', 'b'], cursor_ := { end_ := 2 }, maxLength_ := 2 }, ['a', 'b'])
        (.processEventKey .RNS_KEY_Back false true) (s', ['a']) ∧
      s'.displayString_ = ['a'] := by
  obtain ⟨htyped, hshown⟩ := maxLength_iff
    { displayString_ := ['a', 'b'], cursor_ := { end_ := 2 }, maxLength_ := 2 }
    ⟨by decide, by decide, rfl⟩ (by decide)
  constructor
  · obtain ⟨result, hresult, hiff⟩ := htyped .RNS_KEY_x false true rfl
    have hroom := hiff.mpr fun _ d hd => absurd hd List.not_mem_nil
    exact ⟨result, hresult, hroom.1⟩
  · have hstep : displayStep
        ({ displayString_ := ['a', 'b'], cursor_ := { end_ := 2 }, maxLength_ := 2 }, ['a', 'b'])
        (.processEventKey .RNS_KEY_Back false true)
        ({ displayString_ := ['a'], cursor_ := { end_ := 1 }, maxLength_ := 2, eventCount_ := 1 },
          ['a']) := rfl
    have hkeeps : (UncontrolledOp.processEventKey .RNS_KEY_Back false true).KeepsDisplay
        { displayString_ := ['a', 'b'], cursor_ := { end_ := 2 }, maxLength_ := 2 } :=
      ⟨fun hkey => absurd hkey (by decide), fun _ _ _ hfull => absurd hfull.2 (by decide)⟩
    exact ⟨_, hstep, hshown _ _ (Run.single hkeeps hstep)⟩

/-- One before the end of it, the last character is lost. -/
theorem full_text_loses_character : ¬ ∀ (s : TextInput) (key : RnsKey) (stop wait : Bool),
    s.Inside → 0 < s.maxLength_ → key.isDisplayable = true →
      ∃ result, s.processEventKey key stop wait true = some result ∧
        s.HonoursMaxLength key result.input := by
  intro hall
  obtain ⟨result, hresult, hhonours⟩ := hall
    { displayString_ := ['a', 'b'], cursor_ := { locationFromEnd := 1, end_ := 2 },
      maxLength_ := 2 } .RNS_KEY_x false true ⟨by decide, by decide, rfl⟩ (by decide) rfl
  obtain rfl := Option.some.inj hresult
  exact absurd hhonours.1 (by decide)

end TextInput

end ReactNativeSkia
