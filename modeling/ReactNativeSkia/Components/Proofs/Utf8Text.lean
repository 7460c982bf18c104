import ReactNativeSkia.Components.Proofs.ShownText
import ReactNativeSkia.Misc.PrefixCode

/-!
# Characters of several bytes

The text of an input is counted in bytes, and a move of the cursor and a deletion take one byte. A
text of the app is UTF-8, so what they take should be a character of one byte.
-/

namespace ReactNativeSkia

/-- The shown text is valid UTF-8, and the cursor stands between two of its characters. -/
def TextInput.OnBoundary (s : TextInput) : Prop :=
  ∃ z, s.Shows z ∧ PrefixCode.utf8.Aligned z

/-- The byte that a key takes or that a character pushes out is a character. -/
def TextInput.TakesCharacter (s : TextInput) (key : RnsKey) : Prop :=
  (key = .RNS_KEY_Left ∨ key = .RNS_KEY_Back ∨ key = .RNS_KEY_Delete →
      ∀ b ∈ s.zipper.before.getLast?, b.toNat < 128) ∧
    (key = .RNS_KEY_Right → ∀ b ∈ s.zipper.after.head?, b.toNat < 128) ∧
    (key.isDisplayable = true → s.Overflows (s.displayString_.length + 1) →
      ∀ b ∈ s.zipper.after.getLast?, b.toNat < 128)

namespace UncontrolledOp

/-- The texts of the app are valid UTF-8 and come while the cursor is at the end. -/
def SetsAtEnd (s : TextInput) : UncontrolledOp → Prop
  | updateComponentProps props forceUpdate =>
    s.replacesText props forceUpdate = true →
      s.cursor_.locationFromEnd = 0 ∧ PrefixCode.utf8.IsText props.text
  | setTextAndSelection text =>
    s.cursor_.locationFromEnd = 0 ∧ PrefixCode.utf8.IsText text
  | _ => True

/-- The keys take characters. -/
def TakesCharacters (s : TextInput) : UncontrolledOp → Prop
  | processEventKey key _ _ => s.TakesCharacter key
  | _ => True

end UncontrolledOp

def uncontrolledStep (s : TextInput) (op : UncontrolledOp) (s' : TextInput) : Prop :=
  (op.exec s).map Prod.fst = some s'

/-- The displayable characters are of one byte. -/
theorem RnsKey.RNSKeyMap_single {key : RnsKey} (hkey : key.isDisplayable = true) :
    ∃ c, RNSKeyMap key = [c] ∧ PrefixCode.utf8.Single c := by
  have hascii : ((RNSKeyMap key).all fun c => decide (c.toNat < 128)) = true := by
    revert hkey
    cases key <;> decide
  obtain ⟨c, hc⟩ := List.length_eq_one_iff.mp (RNSKeyMap_length hkey)
  have hsmall := List.all_eq_true.mp hascii c (hc ▸ List.mem_singleton_self c)
  exact ⟨c, hc, (PrefixCode.utf8_single_iff c).mpr (of_decide_eq_true hsmall)⟩

namespace TextInput

variable {s s' : TextInput} {z : TextZipper Char} {key : RnsKey}

/-! ## One key -/

theorem Shows.onBoundary_iff (h : s.Shows z) : s.OnBoundary ↔ PrefixCode.utf8.Aligned z := by
  constructor
  · rintro ⟨z', hz', haligned⟩
    rw [h.eq_zipper, ← hz'.eq_zipper]
    exact haligned
  · exact fun haligned => ⟨z, h, haligned⟩

/-- A displayable character keeps to whole characters, unless there is no room for it. -/
theorem Shows.aligned_displayable_iff (h : s.Shows z) (haligned : PrefixCode.utf8.Aligned z)
    (hkey : key.isDisplayable = true) :
    PrefixCode.utf8.Aligned (z.typeKeyWithin s.maxLength_ key) ↔
      (s.Overflows (s.displayString_.length + 1) →
        ∀ b ∈ z.after.getLast?, b.toNat < 128) := by
  obtain ⟨c, hc, hsingle⟩ := RnsKey.RNSKeyMap_single hkey
  have hiff := h.overflows_insert_iff hkey
  by_cases hfull : s.Overflows (s.displayString_.length + 1)
  · rw [typeKeyWithin_of_overflow hkey (hiff.mpr hfull), hc, haligned.overtype_iff hsingle]
    simp only [PrefixCode.utf8_single_iff, hfull, forall_const]
  · rw [typeKeyWithin_of_room hkey (mt hiff.mp hfull), hc]
    exact iff_of_true (haligned.insert hsingle.isText) fun hover => absurd hover hfull

/-- A key keeps to whole characters if and only if what it takes or pushes out is one. -/
theorem Shows.aligned_iff (h : s.Shows z) (haligned : PrefixCode.utf8.Aligned z) (key : RnsKey) :
    PrefixCode.utf8.Aligned (z.typeKeyWithin s.maxLength_ key) ↔ s.TakesCharacter key := by
  rw [TakesCharacter, ← h.eq_zipper]
  by_cases hkey : key.isDisplayable = true
  · have hne (key' : RnsKey) (hkey' : ¬ key'.isDisplayable = true) : key ≠ key' :=
      fun heq => hkey' (heq ▸ hkey)
    have htakes : ¬ (key = .RNS_KEY_Left ∨ key = .RNS_KEY_Back ∨ key = .RNS_KEY_Delete) :=
      not_or.mpr ⟨hne _ (by decide), not_or.mpr ⟨hne _ (by decide), hne _ (by decide)⟩⟩
    have hright : key ≠ .RNS_KEY_Right := hne _ (by decide)
    rw [h.aligned_displayable_iff haligned hkey]
    exact ⟨fun hroom => ⟨fun ht => absurd ht htakes, fun ht => absurd ht hright, fun _ => hroom⟩,
      fun hok => hok.2.2 hkey⟩
  · rw [typeKeyWithin_of_not_displayable z _ hkey, ← and_assoc,
      and_iff_left fun hd => absurd hd hkey]
    by_cases hback : key = .RNS_KEY_Back ∨ key = .RNS_KEY_Delete
    · have hright : key ≠ .RNS_KEY_Right := by
        rcases hback with rfl | rfl <;> decide
      rw [typeKey_of_erases z hback, haligned.backspace_iff,
        and_iff_left fun ht => absurd ht hright]
      simp only [PrefixCode.utf8_single_iff, Or.inr hback, forall_const]
    · by_cases hmove : key = .RNS_KEY_Left ∨ key = .RNS_KEY_Right
      · rcases hmove with rfl | rfl
        · rw [and_iff_left fun ht => nomatch ht]
          simp only [← PrefixCode.utf8_single_iff, true_or, forall_const]
          exact haligned.left_iff
        · rw [and_iff_right fun ht => absurd ht (by decide)]
          simp only [← PrefixCode.utf8_single_iff, forall_const]
          exact haligned.right_iff
      · rw [typeKey_of_other z (not_or.mpr ⟨hkey, hback⟩) hmove]
        refine iff_of_true haligned ⟨fun ht => ?_, fun ht => absurd (.inr ht) hmove⟩
        rcases ht with ht | ht
        · exact absurd (.inl ht) hmove
        · exact absurd ht hback

/-- A key leaves whole characters and the cursor between them if and only if it takes one. -/
theorem OnBoundary.processEventKey (h : s.OnBoundary) (key : RnsKey) (stop wait : Bool) :
    ∃ result, s.processEventKey key stop wait true = some result ∧
      (result.input.OnBoundary ↔ s.TakesCharacter key) := by
  obtain ⟨z, hshows, haligned⟩ := h
  obtain ⟨result, hresult, hshown⟩ := hshows.processEventKey key stop wait
  exact ⟨result, hresult, hshown.shows.onBoundary_iff.trans (hshows.aligned_iff haligned key)⟩

/-! ## Every operation -/

theorem onBoundary_of_atEnd (hvalid : PrefixCode.utf8.IsText s.displayString_)
    (hend : s.cursor_.end_ = s.displayString_.length) (hlocation : s.cursor_.locationFromEnd = 0) :
    s.OnBoundary := by
  have htext := TextZipper.atEnd_text (l := s.displayString_)
  refine ⟨TextZipper.atEnd s.displayString_, ⟨htext.symm, hlocation, ?_⟩, hvalid,
    PrefixCode.isText_nil⟩
  rw [htext]
  exact hend

theorem OnBoundary.congr (h : s.OnBoundary) (hcursor : s'.cursor_ = s.cursor_)
    (htext : s'.displayString_ = s.displayString_) : s'.OnBoundary := by
  obtain ⟨z, hshows, haligned⟩ := h
  exact ⟨z, hshows.congr hcursor htext, haligned⟩

/-- A text that comes while the cursor is at the end leaves it there. -/
theorem onBoundary_of_withText {text : List Char} (hvalid : PrefixCode.utf8.IsText text)
    (hlocation : s.cursor_.locationFromEnd = 0) (hcursor : s'.cursor_ = (s.withText text).cursor_)
    (htext : s'.displayString_ = text) : s'.OnBoundary := by
  refine onBoundary_of_atEnd (htext ▸ hvalid) ?_ ?_
  · rw [hcursor, htext]
    rfl
  · rw [hcursor]
    exact hlocation

theorem OnBoundary.exec (h : s.OnBoundary) {op : UncontrolledOp} (hsets : op.SetsAtEnd s)
    (htakes : op.TakesCharacters s) (hstep : uncontrolledStep s op s') : s'.OnBoundary := by
  obtain ⟨⟨s', report⟩, hexec, rfl⟩ := Option.map_eq_some_iff.mp hstep
  cases op with
  | processEventKey key stop wait =>
    obtain ⟨result, hkey, heq⟩ := Option.map_eq_some_iff.mp hexec
    obtain ⟨rfl, -⟩ := Prod.mk.inj heq
    obtain ⟨result', hkey', hiff⟩ := h.processEventKey key stop wait
    obtain rfl := Option.some.inj (hkey'.symm.trans hkey)
    exact hiff.mpr htakes
  | updateComponentProps props forceUpdate =>
    obtain ⟨rfl, -⟩ := Prod.mk.inj (Option.some.inj hexec)
    rcases s.updateComponentProps_shown props forceUpdate with
      ⟨hreplaces, hcursor, htext⟩ | ⟨-, hcursor, htext⟩
    · obtain ⟨hlocation, hvalid⟩ := hsets hreplaces
      exact onBoundary_of_withText hvalid hlocation hcursor htext
    · exact h.congr hcursor htext
  | setTextAndSelection text =>
    obtain ⟨rfl, -⟩ := Prod.mk.inj (Option.some.inj hexec)
    obtain ⟨hcursor, htext⟩ := s.setTextAndSelection_shown text
    exact onBoundary_of_withText hsets.2 hsets.1 hcursor htext
  | requestForEditingMode =>
    obtain ⟨rfl, -⟩ := Prod.mk.inj (Option.some.inj hexec)
    obtain ⟨-, ⟨-, -, -, hcursor, htext⟩ | ⟨-, hcursor, htext⟩⟩ := s.requestForEditingMode_shown
    · refine onBoundary_of_atEnd ?_ ?_ ?_
      · rw [htext]
        exact PrefixCode.isText_nil
      · rw [hcursor, htext]
        rfl
      · rw [hcursor]
    · exact h.congr hcursor htext
  | resignFromEditingMode =>
    obtain ⟨rfl, -⟩ := Prod.mk.inj (Option.some.inj hexec)
    obtain ⟨hcursor, htext, -⟩ := s.resignFromEditingMode_shown
    exact h.congr hcursor htext

/-- As long as every key takes a character, the text is valid UTF-8 with the cursor between two
characters, and the next key keeps it so if and only if it takes one, too. -/
theorem utf8_run (s s' : TextInput) (hvalid : PrefixCode.utf8.IsText s.displayString_)
    (hend : s.cursor_.end_ = s.displayString_.length) (hlocation : s.cursor_.locationFromEnd = 0)
    (hrun : Run uncontrolledStep (fun s op => op.SetsAtEnd s ∧ op.TakesCharacters s) s s') :
    s'.OnBoundary ∧ ∀ key stop wait, ∃ result,
      s'.processEventKey key stop wait true = some result ∧
        (result.input.OnBoundary ↔ s'.TakesCharacter key) := by
  have hboundary : s'.OnBoundary := by
    refine hrun.invariant (P := OnBoundary) ?_ (onBoundary_of_atEnd hvalid hend hlocation)
    intro u op v hu hok hstep
    exact hu.exec hok.1 hok.2 hstep
  exact ⟨hboundary, fun key stop wait => hboundary.processEventKey key stop wait⟩

/-- Before the last character of `éa` another one is typed. -/
theorem utf8_run_accent :
    TextInput.OnBoundary
      { displayString_ := ['\u00c3', '\u00a9', 'b', 'a'],
        cursor_ := { locationFromEnd := 1, end_ := 4 }, eventCount_ := 1 } := by
  have hvalid : PrefixCode.utf8.IsText ['\u00c3', '\u00a9', 'a'] := ⟨['é', 'a'], by decide⟩
  have hleft : uncontrolledStep
      { displayString_ := ['\u00c3', '\u00a9', 'a'], cursor_ := { end_ := 3 } }
      (.processEventKey .RNS_KEY_Left false false)
      { displayString_ := ['\u00c3', '\u00a9', 'a'],
        cursor_ := { locationFromEnd := 1, end_ := 3 } } := rfl
  have hb : uncontrolledStep
      { displayString_ := ['\u00c3', '\u00a9', 'a'],
        cursor_ := { locationFromEnd := 1, end_ := 3 } }
      (.processEventKey .RNS_KEY_b false false)
      { displayString_ := ['\u00c3', '\u00a9', 'b', 'a'],
        cursor_ := { locationFromEnd := 1, end_ := 4 }, eventCount_ := 1 } := rfl
  have hleftTakes : TextInput.TakesCharacter
      { displayString_ := ['\u00c3', '\u00a9', 'a'], cursor_ := { end_ := 3 } }
      .RNS_KEY_Left := by
    refine ⟨?_, ⟨fun ht => (nomatch ht), fun hd => (nomatch hd)⟩⟩
    rintro - _ ⟨⟩
    decide
  have hbTakes : TextInput.TakesCharacter
      { displayString_ := ['\u00c3', '\u00a9', 'a'],
        cursor_ := { locationFromEnd := 1, end_ := 3 } } .RNS_KEY_b :=
    ⟨fun ht => by simp at ht, ⟨fun ht => (nomatch ht), fun _ hfull => absurd rfl hfull.1⟩⟩
  have hrun : Run uncontrolledStep (fun s op => op.SetsAtEnd s ∧ op.TakesCharacters s) _ _ :=
    Run.single (a := .processEventKey .RNS_KEY_Left false false) ⟨trivial, hleftTakes⟩ hleft
  exact (utf8_run _ _ hvalid rfl rfl (hrun.tail
    (a := .processEventKey .RNS_KEY_b false false) ⟨trivial, hbTakes⟩ hb)).1

/-- Back takes the second byte of `é` and leaves the first one. -/
theorem back_splits_character : ¬ ∀ s s' : TextInput,
    PrefixCode.utf8.IsText s.displayString_ → s.cursor_.end_ = s.displayString_.length →
      s.cursor_.locationFromEnd = 0 →
        Run uncontrolledStep (fun s op => op.SetsAtEnd s) s s' → s'.OnBoundary := by
  intro hall
  have hvalid : PrefixCode.utf8.IsText ['\u00c3', '\u00a9'] := ⟨['é'], by decide⟩
  have hset : uncontrolledStep {} (.setTextAndSelection ['\u00c3', '\u00a9'])
      { displayString_ := ['\u00c3', '\u00a9'], cursor_ := { end_ := 2 } } := rfl
  have hempty : PrefixCode.utf8.IsText (TextInput.displayString_ {}) := PrefixCode.isText_nil
  have hsets : (UncontrolledOp.setTextAndSelection ['\u00c3', '\u00a9']).SetsAtEnd {} :=
    ⟨rfl, hvalid⟩
  have hboundary := hall {} _ hempty rfl rfl (Run.single hsets hset)
  obtain ⟨result, hresult, hiff⟩ := hboundary.processEventKey .RNS_KEY_Back false false
  have hback : uncontrolledStep
      { displayString_ := ['\u00c3', '\u00a9'], cursor_ := { end_ := 2 } }
      (.processEventKey .RNS_KEY_Back false false) result.input := by
    rw [uncontrolledStep, UncontrolledOp.exec, hresult]
    rfl
  have hsplit := hall {} _ hempty rfl rfl ((Run.single hsets hset).tail
    (a := .processEventKey .RNS_KEY_Back false false) trivial hback)
  exact absurd ((hiff.mp hsplit).1 (.inr (.inl rfl)) '\u00a9' rfl) (by decide)

end TextInput

end ReactNativeSkia
