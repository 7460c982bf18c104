import ReactNativeSkia.Components.Proofs.ShownText
import ReactNativeSkia.Sdk.OSKTyping
import ReactNativeSkia.Sdk.Proofs.KeyGeometry

/-!
# What is typed is what is shown

Whatever turns the layout to another type draws it, so the keys on the screen are those of the
layout in use, in its letter case. Except for one key of the numeric layout a key emits the value of
what is drawn of it.
-/

namespace ReactNativeSkia

variable {Pos : Type} {layouts : KBLayouts} {geometry : KeyGeometry Pos}

/-! ## The keys of the layouts -/

/-- The key of the numeric layout that shows a minus sign and types an underscore. -/
def KeyInfo.isMinus (key : KeyInfo) : Bool :=
  key.keyName = ['-'] ∧ key.keyValue = .RNS_KEY_Underscore

/-- The value of the key stands for what is drawn of it. -/
def KeyInfo.SaysValue (kbLayoutType : KBLayoutType) (key : KeyInfo) : Prop :=
  (RnsKey.ofNat (layoutKeyValue kbLayoutType key).toNat).ctorIdx = layoutKeyValue kbLayoutType key ∧
    layoutKeyValue kbLayoutType key ≠ RnsKey.RNS_KEY_UnKnown.ctorIdx ∧
    Keystroke.ofTile (key.tile kbLayoutType) =
      Keystroke.ofKey (RnsKey.ofNat (layoutKeyValue kbLayoutType key).toNat)

/-- A key that turns to another layout asks for nothing, and every other one says its value. The
return key has its value in each layout. -/
def KeyInfo.Truthful (kbLayoutType : KBLayoutType) (key : KeyInfo) : Prop :=
  if key.keyType = .KEY_TYPE_TOGGLE then key.keyValue ≠ .RNS_KEY_Select
  else
    (key.isMinus = true ∨ key.SaysValue kbLayoutType) ∧
      (key.keyValue = .RNS_KEY_Select →
        layoutKeyValue kbLayoutType key = RnsKey.RNS_KEY_Select.ctorIdx)

instance (kbLayoutType : KBLayoutType) (key : KeyInfo) :
    Decidable (key.SaysValue kbLayoutType) :=
  inferInstanceAs (Decidable (_ ∧ _ ∧ _))

instance (kbLayoutType : KBLayoutType) (key : KeyInfo) :
    Decidable (key.Truthful kbLayoutType) := by
  unfold KeyInfo.Truthful
  infer_instance

theorem oskLayout_truthful (keyboard : Keyboard) (kbLayoutType : KBLayoutType) :
    ∀ row ∈ (oskLayout keyboard).keyInfo, ∀ key ∈ row, key.Truthful kbLayoutType := by
  cases keyboard with
  | numericKB => cases kbLayoutType <;> decide +kernel
  | symbolKB => cases kbLayoutType <;> decide +kernel
  | alphaNumericKB => cases kbLayoutType <;> decide +kernel

/-! ## The emitted key -/

namespace OnScreenKeyboard

variable {s t : OnScreenKeyboard Pos} {keyValue : RnsKey} {key : KeyInfo} {index : SkPoint}

theorem drawHighLightOnKey_emitted (h : s.drawHighLightOnKey layouts = some t) :
    t.emittedOSKKey_ = s.emittedOSKKey_ := by
  unfold drawHighLightOnKey at h
  split at h
  · obtain rfl := Option.some.inj h
    rfl
  · obtain ⟨_, -, h⟩ := Option.bind_eq_some_iff.mp h
    obtain ⟨_, -, h⟩ := Option.bind_eq_some_iff.mp h
    obtain rfl := Option.some.inj h
    rfl

theorem finishKey_emitted {oskKeyValue : Int}
    (h : s.finishKey layouts index oskKeyValue = some t) :
    t.emittedOSKKey_ =
      if oskKeyValue ≠ RnsKey.RNS_KEY_UnKnown.ctorIdx then oskKeyValue else s.emittedOSKKey_ := by
  obtain ⟨u, hu, h⟩ := Option.bind_eq_some_iff.mp h
  obtain ⟨v, hv, h⟩ := Option.bind_eq_some_iff.mp h
  obtain rfl := Option.some.inj h
  have hu' : u.emittedOSKKey_ = s.emittedOSKKey_ := by
    unfold enableReturnKey at hu
    split at hu
    · exact (drawHighLightOnKey_emitted hu).trans rfl
    · rw [Option.some.inj hu]
  have hv' : v.emittedOSKKey_ = u.emittedOSKKey_ := by
    unfold moveFocus at hv
    split at hv
    · exact (drawHighLightOnKey_emitted hv).trans rfl
    · rw [Option.some.inj hv]
  unfold emitKey
  split
  · rfl
  · exact hv'.trans hu'

theorem finishKnownKey_emitted (h : s.finishKnownKey layouts keyValue = some t) :
    t.emittedOSKKey_ =
      if s.knownKeyValue layouts keyValue ≠ RnsKey.RNS_KEY_UnKnown.ctorIdx then
        s.knownKeyValue layouts keyValue
      else s.emittedOSKKey_ := by
  unfold finishKnownKey at h
  unfold knownKeyValue
  cases hknown : s.knownKey layouts keyValue with
  | some index =>
    rw [hknown] at h
    exact finishKey_emitted h
  | none =>
    rw [hknown] at h
    exact finishKey_emitted h

theorem drawn_emitted (s : OnScreenKeyboard Pos) :
    (s.drawn layouts geometry).emittedOSKKey_ = s.emittedOSKKey_ := by
  unfold drawn createOSKLayout
  dsimp only
  split <;> rfl

theorem turnLayout_emitted (hactive : s.oskState_ = .OSK_STATE_ACTIVE)
    (h : s.turnLayout layouts geometry key = some t) : t.emittedOSKKey_ = s.emittedOSKKey_ := by
  unfold turnLayout at h
  split at h
  · rename_i next _
    obtain ⟨u, hu, h⟩ := Option.bind_eq_some_iff.mp h
    obtain rfl := drawKBLayout_cases (s := s.setLayoutType next) hactive hu
    rw [drawHighLightOnKey_emitted h]
    exact drawn_emitted _
  · rw [Option.some.inj h]

theorem emittedKeyValue_quiet (h : keyValue = .RNS_KEY_UnKnown ∨
      s.oskState_ ≠ .OSK_STATE_ACTIVE ∨ (navigation keyValue).isSome) :
    s.emittedKeyValue layouts keyValue = RnsKey.RNS_KEY_UnKnown.ctorIdx := if_pos h

theorem emittedKeyValue_select (hactive : s.oskState_ = .OSK_STATE_ACTIVE)
    (hkey : s.keyInfoAt layouts s.currentFocussIndex_ = some key) :
    s.emittedKeyValue layouts .RNS_KEY_Select =
      if key.keyValue = .RNS_KEY_Select then s.knownKeyValue layouts .RNS_KEY_Select
      else if key.keyType = .KEY_TYPE_TOGGLE then RnsKey.RNS_KEY_UnKnown.ctorIdx
      else layoutKeyValue s.kbLayoutType key := by
  unfold emittedKeyValue
  rw [if_neg (by simp [hactive, navigation]), if_pos rfl, hkey]

theorem emittedKeyValue_other (hactive : s.oskState_ = .OSK_STATE_ACTIVE)
    (hunknown : keyValue ≠ .RNS_KEY_UnKnown) (hnavigation : navigation keyValue = none)
    (hselect : keyValue ≠ .RNS_KEY_Select) :
    s.emittedKeyValue layouts keyValue = s.knownKeyValue layouts keyValue := by
  unfold emittedKeyValue
  rw [if_neg (by simp [hactive, hunknown, hnavigation]), if_neg hselect]

/-- `emittedOSKKey_` is the key that is emitted, or the one before. -/
theorem processKey_emitted (h : s.processKey layouts geometry keyValue = some t) :
    t.emittedOSKKey_ =
      if s.emittedKeyValue layouts keyValue ≠ RnsKey.RNS_KEY_UnKnown.ctorIdx then
        s.emittedKeyValue layouts keyValue
      else s.emittedOSKKey_ := by
  unfold processKey at h
  split at h
  · rename_i hunknown
    obtain rfl := Option.some.inj h
    rw [emittedKeyValue_quiet (.inl hunknown), if_neg (not_not.mpr rfl)]
  rename_i hunknown
  split at h
  · rename_i hinactive
    obtain rfl := Option.some.inj h
    rw [emittedKeyValue_quiet (.inr (.inl hinactive)), if_neg (not_not.mpr rfl)]
  rename_i hactive
  rw [not_not] at hactive
  unfold handleKey at h
  cases hnavigation : navigation keyValue with
  | some sibling =>
    rw [hnavigation] at h
    obtain ⟨siblings, -, h⟩ := Option.bind_eq_some_iff.mp h
    rw [emittedKeyValue_quiet (.inr (.inr (Option.isSome_of_eq_some hnavigation)))]
    exact (finishKey_emitted h).trans rfl
  | none =>
    simp only [hnavigation] at h
    split at h
    · rename_i hselect
      subst hselect
      obtain ⟨key, hkey, h⟩ := Option.bind_eq_some_iff.mp h
      rw [emittedKeyValue_select hactive hkey]
      unfold selectKey at h
      split at h
      · rename_i hreturn
        rw [if_pos hreturn]
        exact (finishKnownKey_emitted h).trans rfl
      · rename_i hreturn
        rw [if_neg hreturn]
        split at h
        · rename_i htoggle
          rw [if_pos htoggle, if_neg (not_not.mpr rfl)]
          obtain ⟨u, hu, h⟩ := Option.bind_eq_some_iff.mp h
          rw [finishKey_emitted h, if_neg (not_not.mpr rfl),
            turnLayout_emitted (s := s.noteFocus) hactive hu]
          rfl
        · rename_i htoggle
          rw [if_neg htoggle]
          exact (finishKey_emitted h).trans rfl
    · rename_i hselect
      rw [emittedKeyValue_other hactive hunknown hnavigation hselect]
      exact (finishKnownKey_emitted h).trans rfl

end OnScreenKeyboard

/-! ## The screen -/

namespace OSKSession

variable {s t : OSKSession Pos} {keyValue : RnsKey} {keyRepeat : Bool}

/-- The keys on the screen are those of the layout in use, for its type. -/
def ShowsLayout (s : OSKSession Pos) : Prop :=
  s.osk.oskState_ = .OSK_STATE_ACTIVE → s.shownAs = s.osk.kbLayoutType ∧
    ∃ draw ∈ s.osk.draws.getLast?, draw.keyboard = s.osk.keyboard

theorem ShowsLayout.sameLayout (h : s.ShowsLayout) {osk : OnScreenKeyboard Pos}
    (hsame : OnScreenKeyboard.SameLayout s.osk osk) : (s.withOSK osk).ShowsLayout := by
  intro hactive
  obtain ⟨hshown, hdraw⟩ := h (hsame.oskState_ ▸ hactive)
  unfold withOSK
  dsimp only
  rw [hsame.draws, if_pos rfl, hsame.kbLayoutType, hsame.keyboard]
  exact ⟨hshown, hdraw⟩

/-- A layout that has just been drawn. -/
theorem showsLayout_drawn {u osk : OnScreenKeyboard Pos}
    (hsame : OnScreenKeyboard.SameLayout (u.drawn layouts geometry) osk)
    (hdraws : u.draws = s.osk.draws) :
    (s.withOSK osk).ShowsLayout := by
  intro _
  have hdrawn : osk.draws = s.osk.draws ++
      [⟨(u.drawn layouts geometry).keyboard,
        (u.drawn layouts geometry).keyPos (u.drawn layouts geometry).keyboard,
        (u.drawn layouts geometry).screenSize_⟩] := by
    rw [hsame.draws, ← hdraws]
    simp [OnScreenKeyboard.drawn, OnScreenKeyboard.noteDraw, OnScreenKeyboard.focus]
  unfold withOSK
  dsimp only
  rw [hdrawn, if_neg (by simp), hsame.keyboard]
  exact ⟨rfl, _, List.getLast?_concat, rfl⟩

theorem ShowsLayout.left (h : s.ShowsLayout) {osk : OnScreenKeyboard Pos}
    (hleft : osk = s.osk ∨ osk.oskState_ ≠ .OSK_STATE_ACTIVE) : (s.withOSK osk).ShowsLayout := by
  rcases hleft with rfl | hleft
  · exact h.sameLayout (by constructor <;> rfl)
  · exact fun hactive => absurd hactive hleft

theorem ShowsLayout.processKey (h : s.ShowsLayout) {osk : OnScreenKeyboard Pos}
    (hstep : s.osk.processKey layouts geometry keyValue = some osk) :
    (s.withOSK osk).ShowsLayout := by
  rcases OnScreenKeyboard.processKey_cases hstep with hsame | ⟨-, next, -, hsame⟩
  · exact h.sameLayout hsame
  · exact showsLayout_drawn hsame rfl

theorem ShowsLayout.windowReadyToDrawCB (h : s.ShowsLayout) {osk : OnScreenKeyboard Pos}
    (hstep : s.osk.windowReadyToDrawCB layouts geometry = some osk) :
    (s.withOSK osk).ShowsLayout := by
  rcases OnScreenKeyboard.windowReadyToDrawCB_cases hstep with rfl | ⟨-, hsame⟩
  · exact h.left (.inl rfl)
  · exact showsLayout_drawn hsame rfl

/-! ## What a press asks for -/

theorem pressedKey_of_unknown {osk : OnScreenKeyboard Pos}
    (h : osk.emittedKeyValue layouts keyValue = RnsKey.RNS_KEY_UnKnown.ctorIdx) :
    osk.pressedKey layouts keyValue = none := if_pos h

theorem pressedKey_of_value {osk : OnScreenKeyboard Pos} {value : Int}
    (h : osk.emittedKeyValue layouts keyValue = value)
    (hvalue : value ≠ RnsKey.RNS_KEY_UnKnown.ctorIdx) :
    osk.pressedKey layouts keyValue = some (RnsKey.ofNat value.toNat) := by
  subst h
  exact if_neg hvalue

/-- The return key in focus is found in the layout. -/
theorem knownKeyValue_return {osk : OnScreenKeyboard Pos} {key : KeyInfo}
    (hkey : osk.keyInfoAt layouts osk.currentFocussIndex_ = some key)
    (hvalue : layoutKeyValue osk.kbLayoutType key = RnsKey.RNS_KEY_Select.ctorIdx) :
    osk.knownKeyValue layouts .RNS_KEY_Select = RnsKey.RNS_KEY_Select.ctorIdx := by
  have hfound : (osk.findKey layouts .RNS_KEY_Select).isSome := by
    refine List.find?_isSome.mpr ⟨osk.currentFocussIndex_, ?_, ?_⟩
    · exact mem_places.mpr (Option.isSome_of_eq_some hkey)
    · rw [hkey]
      simpa using hvalue
  unfold OnScreenKeyboard.knownKeyValue OnScreenKeyboard.knownKey
  rw [if_pos (Or.inl rfl), if_pos hfound]

theorem truthful_of_keyInfoAt {osk : OnScreenKeyboard Pos} {key : KeyInfo} {index : SkPoint}
    (h : osk.keyInfoAt oskLayouts index = some key) : key.Truthful osk.kbLayoutType := by
  obtain ⟨row, hrow, hkey⟩ := Option.bind_eq_some_iff.mp h
  exact oskLayout_truthful osk.keyboard osk.kbLayoutType row (List.mem_of_getElem? hrow) key
    (List.mem_of_getElem? hkey)

/-- The key in focus says what it emits. -/
theorem ShowsLayout.select (h : s.ShowsLayout) (hactive : s.osk.oskState_ = .OSK_STATE_ACTIVE)
    (hfocus : ∀ key ∈ s.osk.keyInfoAt oskLayouts s.osk.currentFocussIndex_,
      key.isMinus = false) :
    (s.tileAt oskLayouts s.osk.currentFocussIndex_).bind Keystroke.ofTile =
      (s.osk.pressedKey oskLayouts .RNS_KEY_Select).bind Keystroke.ofKey := by
  obtain ⟨hshown, draw, hdraw, hkeyboard⟩ := h hactive
  have htile : s.tileAt oskLayouts s.osk.currentFocussIndex_ =
      (s.osk.keyInfoAt oskLayouts s.osk.currentFocussIndex_).map
        (KeyInfo.tile s.osk.kbLayoutType) := by
    rw [tileAt, hdraw, hshown]
    show (atIndex (oskLayouts.layout draw.keyboard).keyInfo _).bind _ = _
    rw [hkeyboard]
    exact Option.map_eq_bind.symm
  rw [htile]
  cases hkey : s.osk.keyInfoAt oskLayouts s.osk.currentFocussIndex_ with
  | none =>
    have hnone : s.osk.emittedKeyValue oskLayouts .RNS_KEY_Select =
        RnsKey.RNS_KEY_UnKnown.ctorIdx := by
      unfold OnScreenKeyboard.emittedKeyValue
      rw [if_neg (by simp [hactive, navigation]), if_pos rfl, hkey]
    rw [pressedKey_of_unknown hnone]
    rfl
  | some key =>
    have htruthful := truthful_of_keyInfoAt hkey
    have hemitted := OnScreenKeyboard.emittedKeyValue_select hactive hkey
    unfold KeyInfo.Truthful at htruthful
    rw [Option.map_some, Option.bind_some]
    split at htruthful
    · rename_i htoggle
      rw [if_neg htruthful, if_pos htoggle] at hemitted
      rw [pressedKey_of_unknown hemitted, Keystroke.ofTile, KeyInfo.tile, htoggle]
      rfl
    · rename_i htoggle
      obtain ⟨htells, hreturn⟩ := htruthful
      obtain ⟨-, hvalue, hsame⟩ := htells.resolve_left (by simp [hfocus key hkey])
      split at hemitted
      · rename_i hselect
        have hvalue := hreturn hselect
        rw [hsame, hvalue, pressedKey_of_value
          (hemitted.trans (knownKeyValue_return hkey hvalue)) (by decide)]
        rfl
      · rw [hsame, pressedKey_of_value hemitted hvalue]
        rfl

/-- What is typed is what is shown. -/
theorem ShowsLayout.stroke_eq (h : s.ShowsLayout)
    (hfocus : keyValue = .RNS_KEY_Select →
      ∀ key ∈ s.osk.keyInfoAt oskLayouts s.osk.currentFocussIndex_, key.isMinus = false) :
    s.stroke oskLayouts keyValue =
      (s.osk.pressedKey oskLayouts keyValue).bind Keystroke.ofKey := by
  unfold stroke
  by_cases hquiet : s.osk.oskState_ ≠ .OSK_STATE_ACTIVE ∨ (navigation keyValue).isSome
  · rw [if_pos hquiet,
      pressedKey_of_unknown (OnScreenKeyboard.emittedKeyValue_quiet (.inr hquiet))]
    rfl
  rw [if_neg hquiet]
  obtain ⟨hactive, hnavigation⟩ := not_or.mp hquiet
  rw [not_not] at hactive
  split
  · rename_i hselect
    subst hselect
    exact h.select hactive (hfocus rfl)
  rename_i hselect
  by_cases hunknown : keyValue = .RNS_KEY_UnKnown
  · subst hunknown
    rw [pressedKey_of_unknown (OnScreenKeyboard.emittedKeyValue_quiet (.inl rfl))]
    rfl
  have hemitted : s.osk.emittedKeyValue oskLayouts keyValue = _ :=
    OnScreenKeyboard.emittedKeyValue_other hactive hunknown
      (Option.not_isSome_iff_eq_none.mp hnavigation) hselect
  unfold OnScreenKeyboard.knownKeyValue at hemitted
  cases hknown : s.osk.knownKey oskLayouts keyValue with
  | none =>
    rw [hknown] at hemitted
    rw [pressedKey_of_unknown hemitted]
    rfl
  | some index =>
    rw [hknown, Option.isSome_some, if_pos rfl] at hemitted
    have hvalue : (keyValue.ctorIdx : Int) ≠ RnsKey.RNS_KEY_UnKnown.ctorIdx := by
      intro heq
      apply hunknown
      rw [← RnsKey.ofNat_ctorIdx keyValue, Int.ofNat_inj.mp heq]
      rfl
    rw [pressedKey_of_value hemitted hvalue, Int.toNat_natCast, RnsKey.ofNat_ctorIdx]
    rfl

/-- What is emitted is a key. -/
theorem emittedKeyValue_cast (osk : OnScreenKeyboard Pos) (keyValue : RnsKey)
    (hfocus : keyValue = .RNS_KEY_Select →
      ∀ key ∈ osk.keyInfoAt oskLayouts osk.currentFocussIndex_, key.isMinus = false) :
    (RnsKey.ofNat (osk.emittedKeyValue oskLayouts keyValue).toNat).ctorIdx =
      osk.emittedKeyValue oskLayouts keyValue := by
  have hknown (key : RnsKey) : (RnsKey.ofNat (osk.knownKeyValue oskLayouts key).toNat).ctorIdx =
      osk.knownKeyValue oskLayouts key := by
    unfold OnScreenKeyboard.knownKeyValue
    split
    · rw [Int.toNat_natCast, RnsKey.ofNat_ctorIdx]
    · rfl
  unfold OnScreenKeyboard.emittedKeyValue
  split
  · rfl
  split
  · rename_i hselect
    split
    · rename_i key hkey
      have htruthful := truthful_of_keyInfoAt hkey
      unfold KeyInfo.Truthful at htruthful
      split
      · exact hknown _
      split
      · rfl
      · rename_i htoggle
        rw [if_neg htoggle] at htruthful
        exact (htruthful.1.resolve_left (by simp [hfocus hselect key hkey])).1
    · rfl
  · exact hknown keyValue

/-! ## The text -/

/-- An input does with a key what the key is pressed for. -/
theorem typeKeyWithin_eq (z : TextZipper Char) (maxLength : Int) (key : RnsKey) :
    z.typeKeyWithin maxLength key =
      (Keystroke.ofKey key).toList.foldl (Keystroke.apply maxLength) z := by
  by_cases hkey : key.isDisplayable = true
  · unfold TextZipper.typeKeyWithin Keystroke.ofKey
    rw [TextInput.typeKey_of_displayable z hkey, if_pos hkey]
    simp only [hkey, true_and]
    rfl
  · rw [TextInput.typeKeyWithin_of_not_displayable z maxLength hkey]
    unfold TextZipper.typeKey Keystroke.ofKey
    rw [if_neg hkey, if_neg hkey]
    cases key <;> rfl

/-- The press of a key on an uncontrolled input in editing mode. -/
theorem handleKey_press {z : TextZipper Char} {input : TextInput} (h : s.input.Shows z)
    (heditable : s.input.editable_ = true) (hediting : s.input.isInEditingMode_ = true)
    (hvalue : s.input.props.value = none) {key : Option RnsKey}
    (hstep : s.handleKey key keyRepeat .RNS_KEY_Press = some input) :
    input.Shows ((key.bind Keystroke.ofKey).toList.foldl
        (Keystroke.apply s.input.maxLength_) z) ∧
      input.maxLength_ = s.input.maxLength_ := by
  cases key with
  | none =>
    obtain rfl := Option.some.inj hstep
    exact ⟨h, rfl⟩
  | some key =>
    obtain ⟨result, hresult, rfl⟩ := Option.map_eq_some_iff.mp hstep
    unfold TextInput.onHandleKey at hresult
    rw [heditable, hediting, hvalue] at hresult
    obtain ⟨shown, hshown, hkey⟩ := h.processEventKey key false false
    obtain rfl : shown = result := Option.some.inj (hshown.symm.trans hresult)
    refine ⟨?_, hkey.maxLength_⟩
    rw [Option.bind_some, ← typeKeyWithin_eq]
    exact hkey.shows

theorem handleKey_release {input : TextInput} {key : Option RnsKey}
    (hstep : s.handleKey key keyRepeat .RNS_KEY_Release = some input) : input = s.input := by
  cases key with
  | none => exact (Option.some.inj hstep).symm
  | some key =>
    obtain ⟨result, hresult, rfl⟩ := Option.map_eq_some_iff.mp hstep
    unfold TextInput.onHandleKey at hresult
    split at hresult
    · obtain rfl := Option.some.inj hresult
      rfl
    · rw [if_pos rfl] at hresult
      obtain rfl := Option.some.inj hresult
      rfl

end OSKSession

/-- A press finds an uncontrolled input in editing mode, and not the key that types another
character than it shows. -/
def OSKSessionOp.Types (s : OSKSession Pos) : OSKSessionOp → Prop
  | .press keyValue _ =>
    s.input.editable_ = true ∧ s.input.isInEditingMode_ = true ∧ s.input.props.value = none ∧
      (keyValue = .RNS_KEY_Select →
        ∀ key ∈ s.osk.keyInfoAt oskLayouts s.osk.currentFocussIndex_, key.isMinus = false)
  | _ => True

instance (s : OSKSession Pos) : ∀ op : OSKSessionOp, Decidable (op.Types s)
  | .press _ _ => inferInstanceAs (Decidable (_ ∧ _ ∧ _ ∧ (_ → _)))
  | .launch _ _ | .windowReadyToDrawCB | .release _ _ | .exit => isTrue trivial

namespace OSKSession

variable {s t : OSKSession Pos} {input : TextInput}

/-- What holds in a session. -/
structure TypesShown (input : TextInput) (s : OSKSession Pos) : Prop where
  layout : s.ShowsLayout
  shows : s.input.Shows (s.strokes.foldl (Keystroke.apply input.maxLength_) input.zipper)
  maxLength_ : s.input.maxLength_ = input.maxLength_
  emitted : s.osk.emittedOSKKey_ = (s.lastPressed.getD .RNS_KEY_UnKnown).ctorIdx
  known : s.lastPressed ≠ some .RNS_KEY_UnKnown
  left : s.osk.oskState_ = .OSK_STATE_EXIT_INPROGRESS ∨ s.osk.oskState_ = .OSK_STATE_INACTIVE →
    s.osk.emittedOSKKey_ = RnsKey.RNS_KEY_UnKnown.ctorIdx

theorem TypesShown.withOSK (h : s.TypesShown input) {osk : OnScreenKeyboard Pos}
    (hlayout : (s.withOSK osk).ShowsLayout) (hemitted : osk.emittedOSKKey_ = s.osk.emittedOSKKey_)
    (hleft : osk = s.osk ∨ osk.oskState_ = .OSK_STATE_LAUNCH_INPROGRESS ∨
      osk.oskState_ = .OSK_STATE_ACTIVE) : (s.withOSK osk).TypesShown input := by
  refine ⟨hlayout, h.shows, h.maxLength_, hemitted.trans h.emitted, h.known, ?_⟩
  intro hexit
  rcases hleft with rfl | hlaunch | hactive
  · exact h.left hexit
  · exact absurd hexit (by simp [OSKSession.withOSK, hlaunch])
  · exact absurd hexit (by simp [OSKSession.withOSK, hactive])

theorem TypesShown.launch (h : s.TypesShown input) (oskConfig : OSKConfig)
    (mainscreenSize : SkSize) :
    (s.withOSK (s.osk.launch oskConfig mainscreenSize)).TypesShown input := by
  unfold OnScreenKeyboard.launch
  split
  · exact h.withOSK (h.layout.left (.inl rfl)) rfl (.inl rfl)
  · refine h.withOSK (h.layout.left (.inr ?_)) rfl (.inr (.inl rfl))
    exact fun hactive => nomatch hactive

theorem TypesShown.windowReadyToDrawCB (h : s.TypesShown input) {osk : OnScreenKeyboard Pos}
    (hstep : s.osk.windowReadyToDrawCB layouts geometry = some osk) :
    (s.withOSK osk).TypesShown input := by
  have hlayout := h.layout.windowReadyToDrawCB hstep
  unfold OnScreenKeyboard.windowReadyToDrawCB at hstep
  split at hstep
  · obtain ⟨u, hu, hstep⟩ := Option.bind_eq_some_iff.mp hstep
    obtain rfl := OnScreenKeyboard.drawKBLayout_cases
      (s := s.osk.setState .OSK_STATE_ACTIVE) rfl hu
    refine h.withOSK hlayout ?_ (.inr (.inr ?_))
    · rw [OnScreenKeyboard.drawHighLightOnKey_emitted hstep]
      exact OnScreenKeyboard.drawn_emitted _
    · rw [(OnScreenKeyboard.drawHighLightOnKey_sameLayout hstep).oskState_]
      simp [OnScreenKeyboard.drawn, OnScreenKeyboard.noteDraw, OnScreenKeyboard.focus,
        OnScreenKeyboard.setState]
  · obtain rfl := Option.some.inj hstep
    exact h.withOSK hlayout rfl (.inl rfl)

theorem TypesShown.press (h : s.TypesShown input) {keyValue : RnsKey} {keyRepeat : Bool}
    (htypes : OSKSessionOp.Types s (.press keyValue keyRepeat))
    (hstep : s.press oskLayouts geometry keyValue keyRepeat = some t) : t.TypesShown input := by
  obtain ⟨heditable, hediting, hvalue, hfocus⟩ := htypes
  obtain ⟨osk, hosk, hstep⟩ := Option.bind_eq_some_iff.mp hstep
  obtain ⟨input', hinput, hstep⟩ := Option.bind_eq_some_iff.mp hstep
  obtain rfl := Option.some.inj hstep
  obtain ⟨hshows, hmax⟩ := handleKey_press h.shows heditable hediting hvalue hinput
  have hstate : osk.oskState_ = s.osk.oskState_ := by
    rcases OnScreenKeyboard.processKey_cases hosk with hsame | ⟨hactive, next, -, hsame⟩
    · exact hsame.oskState_
    · rw [hsame.oskState_]
      simp [OnScreenKeyboard.drawn, OnScreenKeyboard.noteDraw, OnScreenKeyboard.focus,
        OnScreenKeyboard.setLayoutType, OnScreenKeyboard.noteFocus]
  have hemitted := OnScreenKeyboard.processKey_emitted hosk
  have htext : input'.Shows ((s.strokes ++ (s.stroke oskLayouts keyValue).toList).foldl
      (Keystroke.apply input.maxLength_) input.zipper) := by
    rw [List.foldl_append, h.layout.stroke_eq hfocus, ← h.maxLength_]
    exact h.maxLength_ ▸ hshows
  by_cases hunknown : s.osk.emittedKeyValue oskLayouts keyValue = RnsKey.RNS_KEY_UnKnown.ctorIdx
  · rw [if_neg (not_not.mpr hunknown)] at hemitted
    rw [pressedKey_of_unknown hunknown, Option.none_or]
    refine ⟨h.layout.processKey hosk, htext, hmax.trans h.maxLength_, hemitted.trans h.emitted,
      h.known, ?_⟩
    exact fun hexit => hemitted.trans (h.left (hstate ▸ hexit))
  · have hcast := emittedKeyValue_cast s.osk keyValue hfocus
    rw [if_pos hunknown] at hemitted
    rw [pressedKey_of_value rfl hunknown, Option.some_or]
    refine ⟨h.layout.processKey hosk, htext, hmax.trans h.maxLength_, hemitted.trans hcast.symm,
      ?_, ?_⟩
    · intro heq
      rw [Option.some.inj heq] at hcast
      exact hunknown hcast.symm
    · intro hexit
      refine absurd (OnScreenKeyboard.emittedKeyValue_quiet (.inr (.inl fun hactive => ?_))) hunknown
      rw [← hstate] at hactive
      exact absurd hexit (by simp [OSKSession.withOSK, hactive])

theorem TypesShown.exit (h : s.TypesShown input) :
    TypesShown input { s.withOSK s.osk.exit with lastPressed := none } := by
  unfold OnScreenKeyboard.exit
  split
  · rename_i hexit
    have hlayout : ShowsLayout (s.withOSK s.osk) := h.layout.left (.inl rfl)
    refine ⟨hlayout, h.shows, h.maxLength_, h.left hexit, ?_, h.left⟩
    exact fun hnone => nomatch hnone
  · refine ⟨?_, h.shows, h.maxLength_, rfl, ?_, fun _ => rfl⟩
    · exact fun hactive => nomatch hactive
    · exact fun hnone => nomatch hnone

theorem TypesShown.exec {op : OSKSessionOp} (h : s.TypesShown input) (htypes : op.Types s)
    (hstep : oskSessionStep oskLayouts geometry s op t) : t.TypesShown input := by
  unfold oskSessionStep at hstep
  cases op with
  | launch oskConfig mainscreenSize =>
    obtain rfl := Option.some.inj hstep
    exact h.launch oskConfig mainscreenSize
  | windowReadyToDrawCB =>
    obtain ⟨osk, hosk, rfl⟩ := Option.map_eq_some_iff.mp hstep
    exact h.windowReadyToDrawCB hosk
  | press keyValue keyRepeat => exact h.press htypes hstep
  | release keyValue keyRepeat =>
    obtain ⟨input', hinput, hstep⟩ := Option.bind_eq_some_iff.mp hstep
    obtain rfl := Option.some.inj hstep
    obtain rfl := handleKey_release hinput
    exact h
  | exit =>
    obtain rfl := Option.some.inj hstep
    exact h.exit

theorem TypesShown.init (hinside : input.Inside) :
    TypesShown input ({ input := input } : OSKSession Pos) where
  layout := fun hactive => nomatch hactive
  shows := hinside.shows_zipper
  maxLength_ := rfl
  emitted := rfl
  known := fun hnone => nomatch hnone
  left _ := rfl

/-- In every run of the keyboard at an input the text is what the keys that are shown in focus
when they are selected, and the other keys that are pressed, ask for. A release is that of the last
press that has been emitted. -/
theorem oskRun_types_shown (hinside : input.Inside)
    (hrun : Run (oskSessionStep oskLayouts geometry) (fun s op => op.Types s)
      { input := input } s) :
    s.input.Shows (s.strokes.foldl (Keystroke.apply input.maxLength_) input.zipper) ∧
      ∀ keyValue, s.osk.releasedKey keyValue = s.lastPressed.getD keyValue := by
  have h := hrun.invariant (P := TypesShown input) (fun _ _ _ hs htypes hstep =>
    hs.exec htypes hstep) (.init hinside)
  refine ⟨h.shows, fun keyValue => ?_⟩
  have hemitted := h.emitted
  have hknown := h.known
  unfold OnScreenKeyboard.releasedKey
  cases hlast : s.lastPressed with
  | none =>
    rw [hlast] at hemitted
    exact if_neg (not_not.mpr hemitted)
  | some key =>
    rw [hlast] at hemitted hknown
    have hvalue : s.osk.emittedOSKKey_ ≠ RnsKey.RNS_KEY_UnKnown.ctorIdx := by
      intro heq
      apply hknown
      have hsame := Int.ofNat_inj.mp (hemitted.symm.trans heq)
      rw [← RnsKey.ofNat_ctorIdx key, show key.ctorIdx = _ from hsame]
      rfl
    rw [if_pos hvalue, hemitted, Int.toNat_natCast, Option.getD_some, Option.getD_some,
      RnsKey.ofNat_ctorIdx]

/-- The key in focus, then the key that turns the layout to capitals, and the key in focus again. -/
def capitalKeys : List OSKSessionOp :=
  [.launch ⟨.OSK_ALPHA_NUMERIC_KB, false⟩ ⟨1280, 720⟩, .windowReadyToDrawCB,
    .press .RNS_KEY_Select false, .release .RNS_KEY_Select false] ++
    List.replicate 7 (.press .RNS_KEY_Left true) ++
    [.press .RNS_KEY_Select false, .press .RNS_KEY_Select true]

theorem oskRun_types_shown_capital : ∃ s : OSKSession (Int × Int),
    s.input.displayString_ = ['d', 'D'] ∧ s.strokes = [.insert ['d'], .insert ['D']] ∧
      s.input.Shows ⟨['d', 'D'], []⟩ := by
  have hfold : (capitalKeys.foldlM (fun s (op : OSKSessionOp) =>
      if op.Types s then s.exec oskLayouts tileGeometry op else none)
        { input := { isInEditingMode_ := true } }).map
        (fun s => (s.input.displayString_, s.strokes)) =
      some (['d', 'D'], [.insert ['d'], .insert ['D']]) := by
    decide +kernel
  obtain ⟨s, hrun, hs⟩ := Option.map_eq_some_iff.mp hfold
  obtain ⟨htext, hstrokes⟩ := Prod.mk.inj hs
  have hrun : Run (oskSessionStep oskLayouts tileGeometry) (fun s op => op.Types s)
      { input := { isInEditingMode_ := true } } s := Run.of_checked_exec hrun
  have hshows := (oskRun_types_shown ⟨Int.le_refl _, Int.le_refl _, rfl⟩ hrun).1
  rw [hstrokes] at hshows
  exact ⟨s, htext, hstrokes, hshows⟩

end OSKSession

end ReactNativeSkia
