import ReactNativeSkia.Components.TextInput
import ReactNativeSkia.Misc.Run
import Mathlib.Data.List.Basic

/-!
# The cursor stays in the text

The header says that `end` is the length of the string, and the two indices of an edit are
distances from it. A new text from the props or a command sets the length and leaves the distance
from the end, and a key of a controlled input sets the length before the text is there.
-/

namespace ReactNativeSkia

namespace TextInput

/-- The cursor is a place in the text. -/
structure Inside (s : TextInput) : Prop where
  nonneg : 0 ≤ s.cursor_.locationFromEnd
  le : s.cursor_.locationFromEnd ≤ s.cursor_.end_
  length : s.cursor_.end_ = s.displayString_.length

/-- The burst of a focused input starts inside the queue. -/
def BurstFits (s : TextInput) : Prop :=
  s.isTextInputInFocus_ = true → s.keys.Fits

end TextInput

/-- A new text is as long as the cursor is from the end, and the thread is not handed a key that
edits the text. -/
def TextInputOp.KeepsCursor (s : TextInput) : TextInputOp → Prop
  | .updateComponentProps props forceUpdate =>
    s.replacesText props forceUpdate = true → s.cursor_.locationFromEnd ≤ props.text.length
  | .setTextAndSelection text => s.cursor_.locationFromEnd ≤ text.length
  | .processQueuedKey _ _ =>
    ∀ key ∈ s.keys.inputQueue.head?, key.isDisplayable = false ∧
      (key = .RNS_KEY_Back ∨ key = .RNS_KEY_Delete →
        s.cursor_.end_ = s.cursor_.locationFromEnd)
  | _ => True

namespace RnsKey

theorem RNSKeyMap_length {key : RnsKey} (h : key.isDisplayable = true) :
    (RNSKeyMap key).length = 1 := by
  revert h
  cases key <;> decide

end RnsKey

namespace TextInput

variable {s s' : TextInput} {key : RnsKey} {text edited : List Char} {n : Nat}

/-! ## Edits -/

theorem insertString_eq {index : Int} (h : 0 ≤ index) (h' : index ≤ text.length)
    (new : List Char) :
    ∃ edited, insertString text index new = some edited ∧
      edited.length = text.length + new.length := by
  refine ⟨_, if_pos ⟨h, h'⟩, ?_⟩
  simp only [List.length_append, List.length_take, List.length_drop]
  omega

theorem eraseChar_eq {index : Int} (h : 0 ≤ index) (h' : index < text.length) :
    ∃ edited, eraseChar text index = some edited ∧ edited.length + 1 = text.length := by
  refine ⟨_, if_pos ⟨h, h'⟩, ?_⟩
  rw [List.length_eraseIdx]
  split
  · omega
  · omega

/-- The index of an insertion is in the text. -/
theorem Inside.insertAtCursor (h : s.Inside) (new : List Char) :
    ∃ edited, s.insertAtCursor s.displayString_ new = some edited ∧
      edited.length = s.displayString_.length + new.length := by
  obtain ⟨hnonneg, hle, hlength⟩ := h
  unfold TextInput.insertAtCursor
  split
  · exact insertString_eq (by omega) (by omega) new
  · exact ⟨_, rfl, List.length_append⟩

/-- The index of a deletion is in the text. -/
theorem Inside.eraseChar (h : s.Inside) (hne : s.cursor_.end_ ≠ s.cursor_.locationFromEnd) :
    ∃ edited, eraseChar s.displayString_ (s.cursor_.end_ - s.cursor_.locationFromEnd - 1) =
      some edited ∧ edited.length + 1 = s.displayString_.length := by
  obtain ⟨hnonneg, hle, hlength⟩ := h
  exact eraseChar_eq (by omega) (by omega)

section
variable {wait : Bool}

@[simp] theorem updateDisplayString_locationFromEnd :
    (s.updateDisplayString edited n).cursor_.locationFromEnd = s.cursor_.locationFromEnd := rfl

@[simp] theorem updateDisplayString_end_ :
    (s.updateDisplayString edited n).cursor_.end_ =
      (s.updateDisplayString edited n).displayString_.length := rfl

/-- The shown text is the edited one or, as long as before, the start of it. -/
theorem updateDisplayString_length (edited : List Char) (hn : n = s.displayString_.length) :
    (s.updateDisplayString edited n).displayString_.length = edited.length ∨
      (s.updateDisplayString edited n).displayString_.length = n ∧ n < edited.length := by
  unfold updateDisplayString
  simp only
  split
  · rename_i heq
    exact Or.inl (congrArg List.length heq)
  · split
    · rename_i hlong
      refine Or.inr ⟨?_, hlong.2.2⟩
      rw [withEnd_displayString_, List.length_append, List.length_take, List.length_drop]
      omega
    · exact Or.inl rfl

/-- An edit that is shown at once keeps the cursor in the text, if the text had room for it before
and after. -/
theorem finishEdit_inside (hnonneg : 0 ≤ s.cursor_.locationFromEnd)
    (hn : n = s.displayString_.length) (hle : s.cursor_.locationFromEnd ≤ n)
    (hedited : s.cursor_.locationFromEnd ≤ edited.length) :
    (s.finishEdit key edited n wait true).input.Inside := by
  refine ⟨hnonneg, ?_, rfl⟩
  show s.cursor_.locationFromEnd ≤ ((s.updateDisplayString edited n).displayString_.length : Int)
  rcases updateDisplayString_length edited hn with heq | ⟨heq, -⟩
  · omega
  · omega

theorem Inside.withLocationFromEnd (h : s.Inside) {l : Int} (hl : 0 ≤ l)
    (hle : l ≤ s.cursor_.end_) : (s.withLocationFromEnd l).Inside := ⟨hl, hle, h.length⟩

/-- A key that only moves the cursor. -/
theorem Inside.moveCursor (h : s.Inside) : (s.moveCursor key).input.Inside := by
  have hnonneg := h.nonneg
  have hle := h.le
  unfold TextInput.moveCursor
  simp only
  split
  · split
    · exact h.withLocationFromEnd (by omega) (by omega)
    · exact h
  · split
    · exact h.withLocationFromEnd (by omega) (by omega)
    · exact h

theorem Inside.resignFromEditingMode (h : s.Inside) : s.resignFromEditingMode.1.Inside := by
  unfold TextInput.resignFromEditingMode
  split
  · exact h
  · split
    · exact ⟨h.nonneg, h.le, h.length⟩
    · exact ⟨h.nonneg, h.le, h.length⟩

theorem Inside.room (h : s.Inside) : s.cursor_.locationFromEnd ≤ s.displayString_.length :=
  le_of_le_of_eq h.le h.length

/-- What a key does to an input with its cursor in the text. -/
inductive KeyCase (s : TextInput) (key : RnsKey) (wait updateString : Bool) : KeyResult → Prop where
  | inserts (edited : List Char) (hkey : key.isDisplayable = true)
      (hedited : edited.length = s.displayString_.length + 1) :
      KeyCase s key wait updateString ((s.withEnd edited.length).finishEdit key edited
        s.displayString_.length wait updateString)
  | erases (edited : List Char) (hkey : key = .RNS_KEY_Back ∨ key = .RNS_KEY_Delete)
      (hcursor : s.cursor_.end_ ≠ s.cursor_.locationFromEnd)
      (hedited : edited.length + 1 = s.displayString_.length) :
      KeyCase s key wait updateString ((s.withEnd edited.length).finishEdit key edited
        s.displayString_.length wait updateString)
  | erasesNothing (hkey : key.isDisplayable = false)
      (hcursor : s.cursor_.end_ = s.cursor_.locationFromEnd) :
      KeyCase s key wait updateString (s.finishEdit key s.displayString_ s.displayString_.length
        false updateString)
  | editsNothing (result : KeyResult) (hkey : key.isDisplayable = false)
      (hback : ¬ (key = .RNS_KEY_Back ∨ key = .RNS_KEY_Delete)) (hin : result.input.Inside) :
      KeyCase s key wait updateString result

/-- Every key is handled, its indices being in the text. -/
theorem Inside.processEventKey_cases (h : s.Inside) (key : RnsKey) (stop wait updateString : Bool) :
    ∃ result, s.processEventKey key stop wait updateString = some result ∧
      s.KeyCase key wait updateString result := by
  unfold TextInput.processEventKey processText
  split
  · rename_i hkey
    obtain ⟨edited, heq, hlen⟩ := h.insertAtCursor (RNSKeyMap key)
    rw [RnsKey.RNSKeyMap_length hkey] at hlen
    rw [heq]
    exact ⟨_, rfl, .inserts edited hkey hlen⟩
  · rename_i hkey
    rw [Bool.not_eq_true] at hkey
    split
    · rename_i hmove
      refine ⟨_, rfl, .editsNothing _ hkey ?_ h.moveCursor⟩
      rcases hmove with rfl | rfl <;> decide
    · split
      · rename_i hup
        refine ⟨_, rfl, .editsNothing _ hkey ?_ h⟩
        rcases hup with rfl | rfl <;> decide
      · split
        · rename_i hback
          split
          · rename_i hne
            obtain ⟨edited, heq, hlen⟩ := h.eraseChar hne.2
            rw [heq]
            exact ⟨_, rfl, .erases edited hback hne.2 hlen⟩
          · rename_i hnot
            refine ⟨_, rfl, .erasesNothing hkey ?_⟩
            by_contra hne
            refine hnot ⟨fun hnil => ?_, hne⟩
            have hnonneg := h.nonneg
            have hle := h.le
            have hlength := h.length
            rw [hnil, List.length_nil] at hlength
            omega
        · rename_i hback
          split
          · exact ⟨_, rfl, .editsNothing _ hkey hback
              (Inside.resignFromEditingMode ⟨h.nonneg, h.le, h.length⟩)⟩
          · split
            · exact ⟨_, rfl, .editsNothing _ hkey hback h⟩
            · exact ⟨_, rfl, .editsNothing _ hkey hback h⟩

/-- In an uncontrolled input the cursor stays in the text. -/
theorem KeyCase.inside {result : KeyResult} (hcase : s.KeyCase key wait true result)
    (h : s.Inside) : result.input.Inside := by
  have hnonneg := h.nonneg
  have hle := h.le
  have hlength := h.length
  cases hcase with
  | inserts edited hkey hedited =>
    exact finishEdit_inside hnonneg rfl h.room
      (show s.cursor_.locationFromEnd ≤ edited.length by omega)
  | erases edited hkey hcursor hedited =>
    exact finishEdit_inside hnonneg rfl h.room
      (show s.cursor_.locationFromEnd ≤ edited.length by omega)
  | erasesNothing hkey hcursor => exact finishEdit_inside hnonneg rfl h.room h.room
  | editsNothing result hkey hback hin => exact hin

/-- Handed over by the thread, a key that edits the text takes the cursor away from it, and no
other key does. -/
theorem KeyCase.inside_iff {result : KeyResult} (hcase : s.KeyCase key wait false result)
    (h : s.Inside) : result.input.Inside ↔ key.isDisplayable = false ∧
      (key = .RNS_KEY_Back ∨ key = .RNS_KEY_Delete →
        s.cursor_.end_ = s.cursor_.locationFromEnd) := by
  cases hcase with
  | inserts edited hkey hedited =>
    constructor
    · intro hin
      have hend : (edited.length : Int) = s.displayString_.length := hin.length
      omega
    · intro hno
      rw [hkey] at hno
      cases hno.1
  | erases edited hkey hcursor hedited =>
    constructor
    · intro hin
      have hend : (edited.length : Int) = s.displayString_.length := hin.length
      omega
    · exact fun hno => absurd (hno.2 hkey) hcursor
  | erasesNothing hkey hcursor =>
    exact ⟨fun _ => ⟨hkey, fun _ => hcursor⟩, fun _ => ⟨h.nonneg, h.le, h.length⟩⟩
  | editsNothing result hkey hback hin =>
    exact ⟨fun _ => ⟨hkey, fun hedit => absurd hedit hback⟩, fun _ => hin⟩

/-! ## The queue -/

theorem BurstFits.resignFromEditingMode (h : s.BurstFits) :
    s.resignFromEditingMode.1.BurstFits := by
  unfold TextInput.resignFromEditingMode
  split
  · exact h
  · split
    · intro hfocus
      cases hfocus
    · exact h

/-- A key that is handled leaves the queue alone, unless the focus goes. -/
theorem BurstFits.processEventKey (h : s.BurstFits) {stop updateString : Bool}
    {result : KeyResult} (hrun : s.processEventKey key stop wait updateString = some result) :
    result.input.BurstFits := by
  unfold TextInput.processEventKey processText at hrun
  have hfinish {e : Int} (n : Nat) (edited : List Char) (w : Bool) :
      ((s.withEnd e).finishEdit key edited n w updateString).input.BurstFits ∧
        (s.finishEdit key edited n w updateString).input.BurstFits := by
    unfold TextInput.finishEdit
    cases updateString with
    | true => exact ⟨h, h⟩
    | false => exact ⟨h, h⟩
  split at hrun
  · obtain ⟨edited, -, hrun⟩ := Option.bind_eq_some_iff.mp hrun
    obtain rfl := Option.some.inj hrun
    exact (hfinish _ _ _).1
  · split at hrun
    · obtain rfl := Option.some.inj hrun
      unfold TextInput.moveCursor
      simp only
      split <;> split <;> exact h
    · split at hrun
      · obtain rfl := Option.some.inj hrun
        exact h
      · split at hrun
        · split at hrun
          · obtain ⟨edited, -, hrun⟩ := Option.bind_eq_some_iff.mp hrun
            obtain rfl := Option.some.inj hrun
            exact (hfinish _ _ _).1
          · obtain rfl := Option.some.inj hrun
            exact (hfinish (e := 0) _ _ _).2
        · split at hrun
          · obtain rfl := Option.some.inj hrun
            exact BurstFits.resignFromEditingMode h
          · split at hrun
            · obtain rfl := Option.some.inj hrun
              exact h
            · obtain rfl := Option.some.inj hrun
              exact h

/-- Both at once. -/
structure Fits (s : TextInput) : Prop where
  inside : s.Inside
  burst : s.BurstFits

/-- A new text moves the end of the cursor only. -/
theorem Inside.withText_iff (h : s.Inside) (text : List Char) :
    (s.withText text).Inside ↔ s.cursor_.locationFromEnd ≤ text.length :=
  ⟨fun hin => hin.le, fun hle => ⟨h.nonneg, hle, rfl⟩⟩

/-- Only the cursor and the text are looked at. -/
theorem inside_congr (hcursor : s'.cursor_ = s.cursor_)
    (htext : s'.displayString_ = s.displayString_) : s'.Inside ↔ s.Inside := by
  constructor
  · rintro ⟨hnonneg, hle, hlength⟩
    rw [hcursor] at hnonneg hle hlength
    exact ⟨hnonneg, hle, htext ▸ hlength⟩
  · rintro ⟨hnonneg, hle, hlength⟩
    rw [← hcursor] at hnonneg hle hlength
    exact ⟨hnonneg, hle, htext ▸ hlength⟩

theorem postUpdate_inside_iff : s.postUpdate.Inside ↔ s.Inside := by
  unfold postUpdate
  split
  · exact inside_congr rfl rfl
  · exact Iff.rfl

theorem storeProps_inside_iff (props : TextInputProps) :
    (s.storeProps props).Inside ↔ s.Inside := inside_congr rfl rfl

theorem updateText_inside_iff (props : TextInputProps) (forceUpdate : Bool) :
    (s.updateText props forceUpdate).Inside ↔
      if s.replacesText props forceUpdate then (s.withText props.text).Inside else s.Inside := by
  have hreplaces : ({ s with maxLength_ := props.maxLength } : TextInput).replacesText props
      forceUpdate = s.replacesText props forceUpdate := rfl
  unfold TextInput.updateText
  simp only [hreplaces]
  split
  · exact inside_congr rfl rfl
  · exact inside_congr rfl rfl

/-- New props put the text in place if they replace it, and else nothing that counts here. -/
theorem updateComponentProps_inside_iff (props : TextInputProps) (forceUpdate : Bool) :
    (s.updateComponentProps props forceUpdate).Inside ↔
      if s.replacesText props forceUpdate then (s.withText props.text).Inside else s.Inside := by
  unfold TextInput.updateComponentProps
  rw [storeProps_inside_iff, ← updateText_inside_iff]
  split
  · exact postUpdate_inside_iff
  · exact Iff.rfl

theorem BurstFits.updateText (h : s.BurstFits) (props : TextInputProps) (forceUpdate : Bool) :
    (s.updateText props forceUpdate).BurstFits := by
  unfold TextInput.updateText
  simp only
  split
  · exact h
  · exact h

theorem BurstFits.postUpdate (h : s.BurstFits) : s.postUpdate.BurstFits := by
  unfold TextInput.postUpdate
  split
  · exact h
  · exact h

theorem Inside.requestForEditingMode (h : s.Inside) : s.requestForEditingMode.1.Inside := by
  unfold TextInput.requestForEditingMode
  split
  · exact h
  · simp only
    split
    · exact ⟨Int.le_refl 0, Int.le_refl 0, rfl⟩
    · exact ⟨h.nonneg, h.le, h.length⟩

theorem BurstFits.requestForEditingMode (h : s.BurstFits) :
    s.requestForEditingMode.1.BurstFits := by
  unfold TextInput.requestForEditingMode
  split
  · exact h
  · simp only
    split
    · exact h
    · exact h

theorem BurstFits.takeFocus (h : s.BurstFits) : s.takeFocus.1.keys.Fits := by
  unfold TextInput.takeFocus
  split
  · rename_i hfocus
    exact h hfocus
  · exact KeyQueue.resetRepeat_fits _

/-- A press in a controlled input leaves the text and the cursor alone. -/
theorem Fits.handleControlledKey (h : s.Fits) (key : RnsKey) (keyRepeat : Bool) :
    ∃ result, s.handleControlledKey key keyRepeat = some result ∧ result.input.Fits := by
  have hfocus : s.takeFocus.1.Inside := by
    unfold takeFocus
    split
    · exact h.inside
    · exact ⟨h.inside.nonneg, h.inside.le, h.inside.length⟩
  obtain ⟨⟨keys, burstEnds⟩, hnote, hkeys⟩ := h.burst.takeFocus.noteRepeat keyRepeat
  have hin (q : KeyQueue RnsKey) : (s.takeFocus.1.withKeys q).Inside :=
    ⟨hfocus.nonneg, hfocus.le, hfocus.length⟩
  unfold TextInput.handleControlledKey
  simp only [hnote, Option.bind_eq_bind, Option.bind_some]
  split
  · exact ⟨_, rfl, hin keys, fun _ => hkeys⟩
  · split
    · exact ⟨_, rfl, hin _, fun _ => hkeys.push key⟩
    · split
      · refine ⟨_, rfl, Inside.resignFromEditingMode ⟨hfocus.nonneg, hfocus.le, hfocus.length⟩,
          BurstFits.resignFromEditingMode fun hno => ?_⟩
        cases hno
      · exact ⟨_, rfl, hin keys, fun _ => hkeys⟩

theorem Fits.onHandleKey (h : s.Fits) (key : RnsKey) (keyRepeat : Bool)
    (keyAction : RnsKeyAction) :
    ∃ result, s.onHandleKey key keyRepeat keyAction = some result ∧ result.input.Fits := by
  unfold TextInput.onHandleKey
  split
  · exact ⟨_, rfl, h⟩
  · split
    · exact ⟨_, rfl, h⟩
    · split
      · exact ⟨_, rfl, h.inside.requestForEditingMode, h.burst.requestForEditingMode⟩
      · split
        · split
          · exact h.handleControlledKey key keyRepeat
          · obtain ⟨result, heq, hcase⟩ := h.inside.processEventKey_cases key false false true
            exact ⟨result, heq, hcase.inside h.inside, h.burst.processEventKey heq⟩
        · exact ⟨_, rfl, h⟩

theorem Fits.processQueuedKey (h : s.Fits) (stop wait : Bool) :
    ∃ s', (TextInputOp.processQueuedKey stop wait).exec s = some s' ∧ s'.BurstFits ∧
      (s'.Inside ↔ (TextInputOp.processQueuedKey stop wait).KeepsCursor s) := by
  unfold TextInputOp.exec TextInput.processQueuedKey
  cases hqueue : s.keys.inputQueue with
  | nil =>
    have hpop : s.keys.pop = none := by
      unfold KeyQueue.pop
      rw [hqueue]
    rw [hpop]
    refine ⟨s, rfl, h.burst, fun _ key hkey => ?_, fun _ => h.inside⟩
    rw [hqueue] at hkey
    cases hkey
  | cons key inputQueue =>
    obtain ⟨keys, hpop⟩ : ∃ keys, s.keys.pop = some (key, keys) := by
      unfold KeyQueue.pop
      rw [hqueue]
      exact ⟨_, rfl⟩
    have hin : (s.withKeys keys).Inside := ⟨h.inside.nonneg, h.inside.le, h.inside.length⟩
    obtain ⟨result, heq, hcase⟩ := hin.processEventKey_cases key stop wait false
    rw [hpop]
    simp only [heq, Option.map_some, Option.getD_some]
    have hburst : (s.withKeys keys).BurstFits := fun hfocus => (h.burst hfocus).pop hpop
    refine ⟨_, rfl, hburst.processEventKey heq, ?_⟩
    rw [hcase.inside_iff hin]
    unfold TextInputOp.KeepsCursor
    rw [hqueue]
    constructor
    · intro hno k hk
      obtain rfl := Option.some.inj hk
      exact hno
    · intro hno
      exact hno key rfl

/-- The step lemma: no index is out of range, and the cursor stays in the text if and only if the
operation meets the condition. -/
theorem Fits.exec_iff (h : s.Fits) (op : TextInputOp) :
    ∃ s', op.exec s = some s' ∧ s'.BurstFits ∧ (s'.Inside ↔ op.KeepsCursor s) := by
  cases op with
  | onHandleKey key keyRepeat keyAction =>
    obtain ⟨result, heq, hfits⟩ := h.onHandleKey key keyRepeat keyAction
    refine ⟨result.input, ?_, hfits.burst, fun _ => trivial, fun _ => hfits.inside⟩
    simp only [TextInputOp.exec, heq, Option.map_some]
  | processQueuedKey stop wait => exact h.processQueuedKey stop wait
  | updateComponentProps props forceUpdate =>
    refine ⟨_, rfl, ?_, ?_⟩
    · have hburst := h.burst.updateText props forceUpdate
      unfold TextInput.updateComponentProps
      simp only
      split
      · exact hburst.postUpdate
      · exact hburst
    · rw [updateComponentProps_inside_iff]
      unfold TextInputOp.KeepsCursor
      split
      · rename_i hreplaces
        rw [h.inside.withText_iff]
        exact ⟨fun hle _ => hle, fun hle => hle hreplaces⟩
      · rename_i hkeeps
        exact ⟨fun _ hreplaces => absurd hreplaces hkeeps, fun _ => h.inside⟩
  | setTextAndSelection text =>
    exact ⟨_, rfl, BurstFits.postUpdate h.burst,
      postUpdate_inside_iff.trans (h.inside.withText_iff text)⟩
  | requestForEditingMode =>
    exact ⟨_, rfl, h.burst.requestForEditingMode, fun _ => trivial,
      fun _ => h.inside.requestForEditingMode⟩
  | resignFromEditingMode =>
    exact ⟨_, rfl, h.burst.resignFromEditingMode, fun _ => trivial,
      fun _ => h.inside.resignFromEditingMode⟩

/-- As the constructor leaves it. -/
structure Fresh (s : TextInput) : Prop where
  text : s.displayString_ = []
  cursor : s.cursor_ = { locationFromEnd := 0, end_ := 0 }
  focus : s.isTextInputInFocus_ = false

theorem Fresh.fits (h : s.Fresh) : s.Fits := by
  refine ⟨⟨?_, ?_, ?_⟩, fun hfocus => ?_⟩
  · simp only [h.cursor, Int.le_refl]
  · simp only [h.cursor, Int.le_refl]
  · rw [h.cursor, h.text]
    rfl
  · rw [h.focus] at hfocus
    cases hfocus

/-- In every run whose operations meet the condition the cursor is in the text, and whatever comes
next edits the text at an index that it has. -/
theorem textRun_inside (hfresh : s.Fresh)
    (hrun : Run textInputStep (fun s op => op.KeepsCursor s) s s') :
    s'.Inside ∧ ∀ op : TextInputOp, (op.exec s').isSome := by
  have hfits : s'.Fits := by
    refine hrun.invariant (P := Fits) ?_ hfresh.fits
    intro u op v hu hok hstep
    obtain ⟨v', hexec, hburst, hiff⟩ := hu.exec_iff op
    obtain rfl := Option.some.inj (hstep.symm.trans hexec)
    exact ⟨hiff.mpr hok, hburst⟩
  refine ⟨hfits.inside, fun op => ?_⟩
  obtain ⟨v, hexec, -⟩ := hfits.exec_iff op
  exact Option.isSome_iff_exists.mpr ⟨v, hexec⟩

/-- A character is typed, the cursor goes before it, and the app sets a text that is longer. -/
theorem textRun_inside_longer_value :
    (TextInput.setTextAndSelection
      { displayString_ := ['a'], cursor_ := { locationFromEnd := 1, end_ := 1 },
        isInEditingMode_ := true, eventCount_ := 1 } ['a', 'b']).Inside := by
  have htype : textInputStep {} .requestForEditingMode { isInEditingMode_ := true } := rfl
  have hkey : textInputStep { isInEditingMode_ := true }
      (.onHandleKey .RNS_KEY_a false .RNS_KEY_Press)
      { isInEditingMode_ := true, displayString_ := ['a'],
        cursor_ := { locationFromEnd := 0, end_ := 1 }, eventCount_ := 1 } := by
    show _ = _
    decide
  have hleft : textInputStep
      { isInEditingMode_ := true, displayString_ := ['a'],
        cursor_ := { locationFromEnd := 0, end_ := 1 }, eventCount_ := 1 }
      (.onHandleKey .RNS_KEY_Left false .RNS_KEY_Press)
      { isInEditingMode_ := true, displayString_ := ['a'],
        cursor_ := { locationFromEnd := 1, end_ := 1 }, eventCount_ := 1 } := by
    show _ = _
    decide
  refine (textRun_inside (s := {}) ⟨rfl, rfl, rfl⟩
    ((((Run.single (a := .requestForEditingMode) trivial htype).tail
      (a := .onHandleKey .RNS_KEY_a false .RNS_KEY_Press) trivial hkey).tail
      (a := .onHandleKey .RNS_KEY_Left false .RNS_KEY_Press) trivial hleft).tail
      (a := .setTextAndSelection ['a', 'b']) ?_ rfl)).1
  show (1 : Int) ≤ 2
  decide

/-- The same with a shorter text: the cursor is before the start of it, and the next character
has no place. -/
theorem shorter_value_strands_cursor : ¬ ∀ s s' : TextInput, s.Fresh →
    Run textInputStep anyStep s s' →
      s'.Inside ∧ ∀ op : TextInputOp, (op.exec s').isSome := by
  intro hall
  have hfold : [.requestForEditingMode, .onHandleKey .RNS_KEY_a false .RNS_KEY_Press,
      .onHandleKey .RNS_KEY_Left false .RNS_KEY_Press, .setTextAndSelection []].foldlM
        TextInputOp.exec {} = some
      ({ isInEditingMode_ := true, cursor_ := { locationFromEnd := 1, end_ := 0 },
         eventCount_ := 1 } : TextInput) := by
    decide
  have hrun : Run textInputStep anyStep _ _ :=
    Run.of_exec hfold
  have hnext := (hall _ _ ⟨rfl, rfl, rfl⟩ hrun).2 (.onHandleKey .RNS_KEY_b false .RNS_KEY_Press)
  revert hnext
  decide

end

end TextInput

end ReactNativeSkia
