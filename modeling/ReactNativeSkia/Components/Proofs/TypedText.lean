import ReactNativeSkia.Components.Proofs.ShownText

/-!
# Typing refines an editor

An uncontrolled text input without a maximum length behaves like a text with a cursor: no text is
too long to be shown, and the length of the text is kept up by every edit.
-/

namespace ReactNativeSkia

/-- The editor gets the keys one after the other. -/
def TextZipper.typeKeys (z : TextZipper Char) (keys : List RnsKey) : TextZipper Char :=
  keys.foldl typeKey z

namespace TextInput

/-- The keys of an uncontrolled input one after the other, each with the flags that it comes
with. -/
def typeKeys (s : TextInput) (keys : List (RnsKey × Bool × Bool)) : Option TextInput :=
  keys.foldlM (fun s key =>
    (s.processEventKey key.1 key.2.1 key.2.2 true).map KeyResult.input) s

/-- The input has the text and the cursor of the editor. -/
structure Tracks (s : TextInput) (z : TextZipper Char) : Prop where
  maxLength : s.maxLength_ = 0
  displayString : s.displayString_ = z.text
  locationFromEnd : s.cursor_.locationFromEnd = z.after.length
  end_ : s.cursor_.end_ = z.text.length

variable {s : TextInput} {z : TextZipper Char} {key : RnsKey}

theorem Tracks.shows (h : s.Tracks z) : s.Shows z :=
  ⟨h.displayString, h.locationFromEnd, h.end_⟩

/-- Without a maximum length no text is too long. -/
theorem typeKeyWithin_zero (z : TextZipper Char) (key : RnsKey) :
    z.typeKeyWithin 0 key = z.typeKey key := if_neg fun h => h.2.1 rfl

/-- Every key does to the input what it does to the editor. -/
theorem Tracks.processEventKey (h : s.Tracks z) (hkey : key.IsEditing) (stop wait : Bool) :
    ∃ result, s.processEventKey key stop wait true = some result ∧
      result.input.Tracks (z.typeKey key) := by
  obtain ⟨result, hresult, hshown⟩ := h.shows.editing hkey stop wait
  have hshows := hshown.shows
  rw [h.maxLength, typeKeyWithin_zero] at hshows
  exact ⟨result, hresult, {
    maxLength := hshown.maxLength_.trans h.maxLength
    displayString := hshows.displayString
    locationFromEnd := hshows.locationFromEnd
    end_ := hshows.end_ }⟩

/-- The same for all keys of a sequence. -/
theorem Tracks.typeKeys (h : s.Tracks z) (keys : List (RnsKey × Bool × Bool))
    (hkeys : ∀ key ∈ keys, key.1.IsEditing) :
    ∃ s', s.typeKeys keys = some s' ∧
      s'.Tracks (z.typeKeys (keys.map Prod.fst)) := by
  induction keys generalizing s z with
  | nil => exact ⟨s, rfl, h⟩
  | cons key keys ih =>
    obtain ⟨result, hresult, hstep⟩ :=
      h.processEventKey (hkeys key List.mem_cons_self) key.2.1 key.2.2
    obtain ⟨s', hrest, htracks⟩ :=
      ih hstep fun key' hmem => hkeys key' (List.mem_cons_of_mem key hmem)
    refine ⟨s', ?_, htracks⟩
    rw [TextInput.typeKeys, List.foldlM_cons, hresult]
    exact hrest

/-- An uncontrolled input with no maximum length and its cursor at the end of the text goes on,
whatever editing keys it gets, with the text and the cursor of the editor. -/
theorem typeKeys_refines (s : TextInput) (keys : List (RnsKey × Bool × Bool))
    (hmax : s.maxLength_ = 0) (hend : s.cursor_.end_ = s.displayString_.length)
    (hcursor : s.cursor_.locationFromEnd = 0) (hkeys : ∀ key ∈ keys, key.1.IsEditing) :
    ∃ s', s.typeKeys keys = some s' ∧
      s'.displayString_ =
        ((TextZipper.atEnd s.displayString_).typeKeys (keys.map Prod.fst)).text ∧
      s'.cursor_.end_ - s'.cursor_.locationFromEnd =
        ((TextZipper.atEnd s.displayString_).typeKeys (keys.map Prod.fst)).cursor := by
  have hstart : s.Tracks (TextZipper.atEnd s.displayString_) := {
    maxLength := hmax
    displayString := TextZipper.atEnd_text.symm
    locationFromEnd := hcursor
    end_ := by
      rw [TextZipper.atEnd_text]
      exact hend }
  obtain ⟨s', hrun, htracks⟩ := hstart.typeKeys keys hkeys
  exact ⟨s', hrun, htracks.displayString, htracks.shows.cursor⟩

/-- To the left twice, a character, to the right and Back. -/
theorem typeKeys_refines_ab :
    ((({ displayString_ := ['a', 'b'], cursor_ := { end_ := 2 } } : TextInput).typeKeys
      [(.RNS_KEY_Left, false, false), (.RNS_KEY_Left, false, true), (.RNS_KEY_1, true, false),
        (.RNS_KEY_Right, false, false), (.RNS_KEY_Back, true, true)]).map
      fun s => (s.displayString_, s.cursor_.end_ - s.cursor_.locationFromEnd)) =
      some (['1', 'b'], 1) := by
  obtain ⟨s', hrun, htext, hcursor⟩ := typeKeys_refines
    { displayString_ := ['a', 'b'], cursor_ := { end_ := 2 } }
    [(.RNS_KEY_Left, false, false), (.RNS_KEY_Left, false, true), (.RNS_KEY_1, true, false),
      (.RNS_KEY_Right, false, false), (.RNS_KEY_Back, true, true)] rfl rfl rfl (by decide)
  rw [hrun, Option.map_some, htext, hcursor]
  decide

end TextInput

end ReactNativeSkia
