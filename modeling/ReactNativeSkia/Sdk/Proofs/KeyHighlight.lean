import Mathlib.Tactic.FinCases
import ReactNativeSkia.Sdk.Proofs.KeyGeometry

/-!
# The highlighted key

The highlight is drawn over the last focus, once for the return key that a valid key enables and
once more for the key that the focus moves to. The second time the last focus is still the one in
front of the event. So the return key keeps its highlight if the focus moves on from it, and
exactly then more than one key shows it.
-/

namespace ReactNativeSkia

variable {Pos : Type} {layouts : KBLayouts} {geometry : KeyGeometry Pos}
  {s t : OnScreenKeyboard Pos} {index hlCandidate : SkPoint} {oskKeyValue : Int}

namespace OnScreenKeyboard

/-- Exactly the tile in focus is highlighted. -/
def Lit (s : OnScreenKeyboard Pos) : Prop := s.highlighted = {s.currentFocussIndex_}

instance (s : OnScreenKeyboard Pos) : Decidable s.Lit := by
  unfold Lit
  infer_instance

/-- The layout of an active keyboard is there, and the focus is on one of its keys. -/
structure InFocus (layouts : KBLayouts) (geometry : KeyGeometry Pos) (s : OnScreenKeyboard Pos) :
    Prop where
  keyboard : s.keyboard = keyboardOf s.oskConfig_.type s.kbLayoutType
  created : ∃ screenSize, Created layouts geometry s s.keyboard screenSize
  focus : (s.keyInfoAt layouts s.currentFocussIndex_).isSome

/-- The key that a key event finds in the layout. A selected key is looked for only if it is itself
`RNS_KEY_Select`. -/
def movesTo (layouts : KBLayouts) (s : OnScreenKeyboard Pos) (keyValue : RnsKey) :
    Option SkPoint :=
  if keyValue = .RNS_KEY_Select ∧
      ¬ (s.keyInfoAt layouts s.currentFocussIndex_).any (·.keyValue = .RNS_KEY_Select) then
    none
  else s.knownKey layouts keyValue

/-- While the return key waits to be enabled, the key that is found is the one in focus, or the
return key is one of the two. A layout that is turned to can be drawn. -/
def HighlightsOne (layouts : KBLayouts) (s : OnScreenKeyboard Pos) (keyValue : RnsKey) : Prop :=
  (∀ index ∈ s.movesTo layouts keyValue, s.autoActivateReturnKey_ = true →
    index = s.currentFocussIndex_ ∨
      (s.layout layouts).returnKeyIndex ∈ [s.currentFocussIndex_, index]) ∧
  ∀ next ∈ s.turnsTo layouts keyValue,
    (layouts.layout (keyboardOf s.oskConfig_.type next)).Drawable s.oskConfig_.type

instance (s : OnScreenKeyboard Pos) (keyValue : RnsKey) :
    Decidable (s.HighlightsOne layouts keyValue) := by
  unfold HighlightsOne
  infer_instance

/-- A call has a result with one highlight exactly under the condition, and in any case its focus
is on a key. -/
structure Settles (layouts : KBLayouts) (geometry : KeyGeometry Pos)
    (r : Option (OnScreenKeyboard Pos)) (condition : Prop) : Prop where
  lit : (∃ t, r = some t ∧ t.Lit) ↔ condition
  inFocus : ∀ t, r = some t → t.InFocus layouts geometry

theorem Settles.congr {r : Option (OnScreenKeyboard Pos)} {condition other : Prop}
    (h : Settles layouts geometry r condition) (heq : condition ↔ other) :
    Settles layouts geometry r other :=
  ⟨h.lit.trans heq, h.inFocus⟩

/-! ## Drawing a highlight -/

theorem Created.keyPosAt {screenSize : SkSize}
    (h : Created layouts geometry s s.keyboard screenSize) :
    (s.keyPosAt index).isSome = (s.keyInfoAt layouts index).isSome := by
  unfold OnScreenKeyboard.keyPosAt keyInfoAt layout
  refine atIndex_isSome_congr ?_
  rw [h.keyPos]
  exact KBLayouts.keyPositions_length _ _

/-- A key is drawn exactly if it is in the layout. -/
theorem drawKBKeyFont_eq_some {screenSize : SkSize}
    (h : Created layouts geometry s s.keyboard screenSize) :
    s.drawKBKeyFont layouts index = some () ↔ (s.keyInfoAt layouts index).isSome := by
  have hpos : (s.keyPosAt index).isSome = (s.keyInfoAt layouts index).isSome := h.keyPosAt
  unfold drawKBKeyFont
  cases hkey : s.keyInfoAt layouts index with
  | none => simp
  | some key =>
    rw [hkey] at hpos
    obtain ⟨pos, hpos⟩ := Option.isSome_iff_exists.mp hpos
    simp [hpos]

theorem drawHighLightOnKey_eq (hactive : s.oskState_ = .OSK_STATE_ACTIVE) {screenSize : SkSize}
    (h : Created layouts geometry s s.keyboard screenSize)
    (hlast : (s.keyInfoAt layouts s.lastFocussIndex_).isSome)
    (hcurrent : (s.keyInfoAt layouts s.currentFocussIndex_).isSome) :
    s.drawHighLightOnKey layouts = some s.light := by
  unfold drawHighLightOnKey
  rw [if_neg (not_not.mpr hactive), (drawKBKeyFont_eq_some h).mpr hlast,
    (drawKBKeyFont_eq_some h).mpr hcurrent]
  rfl

/-- The whole layout is drawn exactly if it can be. -/
theorem drawKeys_eq_some {screenSize : SkSize}
    (h : Created layouts geometry s s.keyboard screenSize) :
    s.drawKeys layouts = some () ↔ (s.layout layouts).Drawable s.oskConfig_.type := by
  have hall : (places (s.layout layouts).keyInfo).forM (s.drawKBKeyFont layouts) = some () :=
    forM_eq_some.mpr fun index hindex =>
      (drawKBKeyFont_eq_some h).mpr (mem_places.mp hindex)
  have hcorner {row : List KeyInfo} (hrow : (s.layout layouts).keyInfo.getLast? = some row) :
      (s.keyPosAt ⟨row.length - 1, (s.layout layouts).keyInfo.length - 1⟩).isSome ↔ row ≠ [] := by
    rw [h.keyPosAt]
    unfold keyInfoAt
    rw [atIndex_isSome, ← List.getLast?_eq_getElem?, hrow]
    cases row <;> simp
  have hfirst : s.drawKBKeyFont layouts ⟨0, 0⟩ = some () ↔
      ∃ row ∈ (s.layout layouts).keyInfo.head?, row ≠ [] := by
    rw [drawKBKeyFont_eq_some h]
    unfold keyInfoAt
    rw [atIndex_isSome, List.head?_eq_getElem?]
    simp only [List.length_pos_iff]
    rfl
  unfold drawKeys KBLayout.Drawable
  rw [← hfirst]
  dsimp only
  rw [← List.getLast?_eq_getElem?]
  cases hrow : (s.layout layouts).keyInfo.getLast? with
  | none => simp
  | some row =>
    have hcorner := hcorner hrow
    cases hpos : s.keyPosAt ⟨row.length - 1, (s.layout layouts).keyInfo.length - 1⟩ with
    | none =>
      rw [hpos] at hcorner
      simpa [hpos] using fun hne => absurd (hcorner.mpr hne) (by simp)
    | some pos =>
      rw [hpos] at hcorner
      simp only [hpos, hall, Option.bind_eq_bind, Option.bind_some]
      rw [and_iff_right ⟨row, rfl, hcorner.mp rfl⟩]
      split
      · exact (imp_iff_right ‹_›).symm
      · exact iff_of_true rfl fun hne => absurd hne ‹_›

/-- Drawing the layout has a result exactly if the layout can be drawn. -/
theorem drawKBLayout_eq (hactive : s.oskState_ = .OSK_STATE_ACTIVE)
    (hkept : Kept layouts geometry s) :
    s.drawKBLayout layouts geometry =
      if (layouts.layout (keyboardOf s.oskConfig_.type s.kbLayoutType)).Drawable
        s.oskConfig_.type then some (s.drawn layouts geometry)
      else none := by
  obtain ⟨screenSize, hcreated⟩ := hkept.created
  have hfocus : Created layouts geometry
      ((s.createOSKLayout layouts geometry).focus
        ((s.createOSKLayout layouts geometry).layout layouts).defaultFocussIndex)
      (s.createOSKLayout layouts geometry).keyboard screenSize :=
    hcreated.congr rfl rfl rfl
  have hdraw := drawKeys_eq_some hfocus
  have hlayout : (s.createOSKLayout layouts geometry).layout layouts =
      layouts.layout (keyboardOf s.oskConfig_.type s.kbLayoutType) :=
    congrArg layouts.layout (createOSKLayout_keyboard layouts geometry s)
  have hconfig := createOSKLayout_oskConfig_ layouts geometry s
  have hiff : ((s.createOSKLayout layouts geometry).layout layouts).Drawable
        (s.createOSKLayout layouts geometry).oskConfig_.type ↔
      (layouts.layout (keyboardOf s.oskConfig_.type s.kbLayoutType)).Drawable
        s.oskConfig_.type := by
    rw [hlayout, hconfig]
  have hdraw := hdraw.trans hiff
  unfold drawKBLayout
  rw [if_neg (not_not.mpr hactive)]
  dsimp only
  split
  · rw [hdraw.mpr ‹_›]
    rfl
  · rw [Option.map_eq_none_iff]
    exact Option.eq_none_iff_forall_ne_some.mpr fun _ hsome => absurd (hdraw.mp hsome) ‹_›

/-- The focus of a layout that has just been drawn. -/
theorem Kept.drawn_inFocus (hkept : Kept layouts geometry s) :
    (s.drawn layouts geometry).InFocus layouts geometry where
  keyboard := by
    simp [OnScreenKeyboard.drawn, noteDraw, OnScreenKeyboard.focus]
  created := by
    obtain ⟨screenSize, hcreated⟩ := hkept.created
    exact ⟨screenSize, hcreated.congr rfl rfl rfl⟩
  focus := ((s.createOSKLayout layouts geometry).layout layouts).default_exists

theorem InFocus.congr (h : InFocus layouts geometry s) (hst : SameLayout s t)
    (hfocus : (s.keyInfoAt layouts t.currentFocussIndex_).isSome) :
    InFocus layouts geometry t where
  keyboard := by rw [hst.keyboard, hst.oskConfig_, hst.kbLayoutType, h.keyboard]
  created := by
    obtain ⟨screenSize, hcreated⟩ := h.created
    rw [hst.keyboard]
    exact ⟨screenSize, hcreated.congr hst.keyPos hst.siblingInfo hst.createdFor⟩
  focus := by
    unfold keyInfoAt layout at hfocus ⊢
    rwa [hst.keyboard]

/-- The first highlight on a layout that has just been drawn. -/
theorem light_drawn_lit (s : OnScreenKeyboard Pos) : (s.drawn layouts geometry).light.Lit := by
  simp [Lit, light, drawn, noteDraw]

/-- Where one tile has been highlighted, one is afterwards if it was the last one that is drawn
over or the one in focus. -/
theorem light_lit_iff (h : s.highlighted = {index}) :
    s.light.Lit ↔ index = s.lastFocussIndex_ ∨ index = s.currentFocussIndex_ := by
  show insert s.currentFocussIndex_ (s.highlighted.erase s.lastFocussIndex_) =
    {s.currentFocussIndex_} ↔ _
  rw [h]
  by_cases hlast : index = s.lastFocussIndex_
  · rw [hlast, Finset.erase_singleton]
    simp
  · rw [Finset.erase_eq_of_notMem (by simpa using Ne.symm hlast), or_iff_right hlast]
    constructor
    · intro hpair
      have hmem : index ∈ ({s.currentFocussIndex_} : Finset SkPoint) := by
        rw [← hpair]
        simp
      exact Finset.mem_singleton.mp hmem
    · rintro rfl
      simp

/-! ## The end of a key event -/

/-- Nothing follows a key that is not valid and leaves the focus. -/
theorem finishKey_unknown :
    s.finishKey layouts s.lastFocussIndex_ RnsKey.RNS_KEY_UnKnown.ctorIdx = some s := by
  simp [finishKey, enableReturnKey, moveFocus, emitKey]

/-- The state that a key event is handled in. -/
structure Noted (layouts : KBLayouts) (geometry : KeyGeometry Pos) (s : OnScreenKeyboard Pos) :
    Prop where
  active : s.oskState_ = .OSK_STATE_ACTIVE
  inFocus : s.InFocus layouts geometry
  last : (s.keyInfoAt layouts s.lastFocussIndex_).isSome
  lit : s.Lit

/-- The highlight goes to a key of the layout. -/
theorem Noted.drawHighLightOnKey (h : Noted layouts geometry s) (hst : SameLayout s t)
    (hlast : t.lastFocussIndex_ = s.lastFocussIndex_)
    (hcurrent : (s.keyInfoAt layouts t.currentFocussIndex_).isSome) :
    t.drawHighLightOnKey layouts = some t.light := by
  obtain ⟨screenSize, hcreated⟩ := (h.inFocus.congr hst hcurrent).created
  refine drawHighLightOnKey_eq (hst.oskState_.trans h.active) hcreated ?_ ?_
  · have hplace := h.last
    unfold keyInfoAt layout at hplace ⊢
    rwa [hlast, hst.keyboard]
  · unfold keyInfoAt layout at hcurrent ⊢
    rwa [hst.keyboard]

/-- The return key takes the highlight if a valid key finds it waiting. -/
theorem Noted.enableReturnKey (h : Noted layouts geometry s) (oskKeyValue : Int)
    (hlast : s.lastFocussIndex_ = s.currentFocussIndex_) :
    ∃ t, s.enableReturnKey layouts oskKeyValue = some t ∧ Noted layouts geometry t ∧
      SameLayout s t ∧ t.lastFocussIndex_ = s.currentFocussIndex_ ∧
      t.currentFocussIndex_ =
        if oskKeyValue ≠ RnsKey.RNS_KEY_UnKnown.ctorIdx ∧ s.autoActivateReturnKey_ then
          (s.layout layouts).returnKeyIndex
        else s.currentFocussIndex_ := by
  unfold OnScreenKeyboard.enableReturnKey
  split
  · have hst : SameLayout s (s.focusReturnKey layouts) := by constructor <;> rfl
    have hreturn := (s.layout layouts).return_exists
    have hstlight : SameLayout s (s.focusReturnKey layouts).light := by constructor <;> rfl
    refine ⟨_, h.drawHighLightOnKey hst rfl hreturn, ⟨h.active, ?_, h.last, ?_⟩, hstlight,
      hlast, rfl⟩
    · exact h.inFocus.congr hstlight hreturn
    · exact (light_lit_iff (s := s.focusReturnKey layouts) h.lit).mpr (.inl hlast.symm)
  · exact ⟨s, rfl, h, by constructor <;> rfl, hlast, rfl⟩

theorem Noted.moveFocus (h : Noted layouts geometry s)
    (hcandidate : (s.keyInfoAt layouts hlCandidate).isSome) :
    ∃ t, s.moveFocus layouts hlCandidate = some t ∧ t.InFocus layouts geometry ∧
      (t.Lit ↔ hlCandidate = s.lastFocussIndex_ ∨
        s.currentFocussIndex_ ∈ [s.lastFocussIndex_, hlCandidate]) := by
  unfold OnScreenKeyboard.moveFocus
  split
  · rename_i hne
    have hst : SameLayout s (s.focus hlCandidate).light := by constructor <;> rfl
    refine ⟨_, h.drawHighLightOnKey (focus_sameLayout s _) rfl hcandidate,
      h.inFocus.congr hst hcandidate, ?_⟩
    rw [light_lit_iff (s := s.focus hlCandidate) h.lit, or_iff_right (Ne.symm hne)]
    simp [OnScreenKeyboard.focus]
  · rename_i heq
    exact ⟨s, rfl, h.inFocus, iff_of_true h.lit (.inl (not_not.mp heq).symm)⟩

theorem emitKey_lit (oskKeyValue : Int) : (s.emitKey oskKeyValue).Lit ↔ s.Lit := by
  unfold emitKey
  split <;> rfl

theorem InFocus.emitKey (h : s.InFocus layouts geometry) :
    (s.emitKey oskKeyValue).InFocus layouts geometry := by
  refine h.congr (emitKey_sameLayout s _) ?_
  unfold OnScreenKeyboard.emitKey
  split <;> exact h.focus

/-- The end of a key event, from the place of the focus. -/
theorem Noted.finishKey (h : Noted layouts geometry s)
    (hlast : s.lastFocussIndex_ = s.currentFocussIndex_)
    (hcandidate : (s.keyInfoAt layouts hlCandidate).isSome) :
    Settles layouts geometry (s.finishKey layouts hlCandidate oskKeyValue)
      (oskKeyValue ≠ RnsKey.RNS_KEY_UnKnown.ctorIdx → s.autoActivateReturnKey_ = true →
        hlCandidate = s.currentFocussIndex_ ∨
          (s.layout layouts).returnKeyIndex ∈ [s.currentFocussIndex_, hlCandidate]) := by
  obtain ⟨u, hu, hnoted, hsame, hulast, hucurrent⟩ :=
    h.enableReturnKey oskKeyValue hlast
  have hucandidate : (u.keyInfoAt layouts hlCandidate).isSome := by
    unfold keyInfoAt layout at hcandidate ⊢
    rwa [hsame.keyboard]
  obtain ⟨t, ht, hfocus, hlit⟩ := hnoted.moveFocus hucandidate
  have heq : s.finishKey layouts hlCandidate oskKeyValue = some (t.emitKey oskKeyValue) := by
    unfold OnScreenKeyboard.finishKey
    rw [hu]
    show (u.moveFocus layouts hlCandidate).bind _ = _
    rw [ht]
    rfl
  rw [heq]
  constructor
  · rw [← emitKey_lit oskKeyValue, hulast, hucurrent] at hlit
    simp only [Option.some.injEq, exists_eq_left', hlit]
    split
    · rename_i hvalid
      simp [hvalid]
    · rename_i hvalid
      refine iff_of_true (.inr (by simp)) fun hvalue hauto => absurd ⟨hvalue, hauto⟩ hvalid
  · rintro _ ⟨⟩
    exact hfocus.emitKey

/-! ## The cases of a key event -/

variable {keyValue : RnsKey} {key : KeyInfo}

/-- A key that is found is in the layout, and it is a valid one. -/
theorem knownKey_exists (h : s.knownKey layouts keyValue = some index) :
    (s.keyInfoAt layouts index).isSome ∧
      (keyValue.ctorIdx : Int) ≠ RnsKey.RNS_KEY_UnKnown.ctorIdx := by
  obtain ⟨hvalid, hfind⟩ := Option.ite_none_right_eq_some.mp h
  refine ⟨mem_places.mp (List.mem_of_find?_eq_some hfind), ?_⟩
  rcases hvalid with rfl | ⟨hlt, -⟩
  · decide
  · omega

/-- Case 3 of a key event. -/
theorem Noted.finishKnownKey (h : Noted layouts geometry s)
    (hlast : s.lastFocussIndex_ = s.currentFocussIndex_) :
    Settles layouts geometry (s.finishKnownKey layouts keyValue)
      (∀ index ∈ s.knownKey layouts keyValue, s.autoActivateReturnKey_ = true →
        index = s.currentFocussIndex_ ∨
          (s.layout layouts).returnKeyIndex ∈ [s.currentFocussIndex_, index]) := by
  unfold OnScreenKeyboard.finishKnownKey
  split
  · rename_i index hknown
    obtain ⟨hplace, hvalid⟩ := knownKey_exists hknown
    refine (h.finishKey hlast hplace).congr ?_
    rw [imp_iff_right hvalid, hknown]
    simp
  · rename_i hknown
    refine (h.finishKey hlast h.last).congr (iff_of_true (fun hvalid => absurd rfl hvalid) ?_)
    rw [hknown]
    exact fun _ hmem => absurd hmem (Option.not_mem_none _)

/-- A layout that is turned to has the place of the toggle key, and the highlight goes to its
default key. -/
theorem Noted.turnLayout (h : Noted layouts geometry s) (hkept : Kept layouts geometry s)
    (hlast : s.lastFocussIndex_ = s.currentFocussIndex_)
    (hkey : s.keyInfoAt layouts s.currentFocussIndex_ = some key) {next : KBLayoutType}
    (hnext : s.toggles key = some next) :
    s.turnLayout layouts geometry key =
      if (layouts.layout (keyboardOf s.oskConfig_.type next)).Drawable s.oskConfig_.type then
        some ((s.setLayoutType next).drawn layouts geometry).light
      else none := by
  have hkeptNext : Kept layouts geometry (s.setLayoutType next) := hkept.congr rfl rfl rfl
  have hdraw := drawKBLayout_eq (s := s.setLayoutType next) h.active hkeptNext
  have hshown := hkeptNext.drawn_inFocus
  obtain ⟨screenSize, hcreated⟩ := hshown.created
  have hplace : (atIndex (layouts.layout (keyboardOf s.oskConfig_.type next)).keyInfo
      s.currentFocussIndex_).isSome := by
    unfold keyInfoAt layout at hkey
    rw [h.inFocus.keyboard] at hkey
    exact layouts.toggle_exists _ _ _ _ _ hkey (Option.eq_some_of_filter_eq_some hnext)
  have hhighlight : ((s.setLayoutType next).drawn layouts geometry).drawHighLightOnKey layouts =
      some ((s.setLayoutType next).drawn layouts geometry).light := by
    refine drawHighLightOnKey_eq ?_ hcreated ?_ hshown.focus
    · simpa [drawn, noteDraw, OnScreenKeyboard.focus, setLayoutType] using h.active
    · unfold keyInfoAt layout
      rw [hshown.keyboard]
      simpa [drawn, noteDraw, OnScreenKeyboard.focus, setLayoutType, hlast] using hplace
  unfold OnScreenKeyboard.turnLayout
  rw [hnext]
  show ((s.setLayoutType next).drawKBLayout layouts geometry).bind
    (OnScreenKeyboard.drawHighLightOnKey layouts) = _
  rw [hdraw]
  show (if (layouts.layout (keyboardOf s.oskConfig_.type next)).Drawable s.oskConfig_.type then
    some ((s.setLayoutType next).drawn layouts geometry) else none).bind _ = _
  split
  · exact hhighlight
  · rfl

/-- Case 2 of a key event. -/
theorem Noted.selectKey (h : Noted layouts geometry s) (hkept : Kept layouts geometry s)
    (hlast : s.lastFocussIndex_ = s.currentFocussIndex_)
    (hkey : s.keyInfoAt layouts s.currentFocussIndex_ = some key) :
    Settles layouts geometry (s.selectKey layouts geometry key)
      (s.HighlightsOne layouts .RNS_KEY_Select) := by
  have hturns : s.turnsTo layouts .RNS_KEY_Select = s.toggles key := by
    unfold turnsTo
    rw [if_pos rfl, hkey]
    rfl
  have hmoves : s.movesTo layouts .RNS_KEY_Select =
      if key.keyValue = .RNS_KEY_Select then s.knownKey layouts .RNS_KEY_Select else none := by
    unfold movesTo
    rw [hkey]
    simp only [Option.any_some, decide_eq_true_eq, true_and, ite_not]
  have hnone (hno : ¬ (key.keyValue ≠ .RNS_KEY_Select ∧ key.keyType = .KEY_TYPE_TOGGLE)) :
      s.toggles key = none := by
    unfold toggles KeyInfo.togglesTo
    rw [if_neg hno]
    rfl
  unfold HighlightsOne OnScreenKeyboard.selectKey
  rw [hturns, hmoves]
  split
  · rename_i hselect
    refine (h.finishKnownKey hlast).congr ?_
    rw [hnone fun hno => hno.1 hselect]
    simp
  · rename_i hselect
    split
    · rename_i htoggle
      cases hnext : s.toggles key with
      | none =>
        have hturn : s.turnLayout layouts geometry key = some s := by
          unfold OnScreenKeyboard.turnLayout
          rw [hnext]
        rw [hturn, Option.bind_eq_bind, Option.bind_some, finishKey_unknown]
        refine ⟨iff_of_true ⟨s, rfl, h.lit⟩ (by simp), ?_⟩
        rintro _ ⟨⟩
        exact h.inFocus
      | some next =>
        generalize ht : ((s.setLayoutType next).drawn layouts geometry).light = t
        have htlast : t.lastFocussIndex_ = s.lastFocussIndex_ := by
          subst ht
          simp [light, drawn, noteDraw, OnScreenKeyboard.focus, setLayoutType]
        have htfocus : t.InFocus layouts geometry := by
          subst ht
          have hshown := Kept.drawn_inFocus (s := s.setLayoutType next) (hkept.congr rfl rfl rfl)
          exact hshown.congr (by constructor <;> rfl) hshown.focus
        have htlit : t.Lit := ht ▸ light_drawn_lit (s.setLayoutType next)
        rw [h.turnLayout hkept hlast hkey hnext, ht, Option.bind_eq_bind]
        split
        · rw [Option.bind_some, ← htlast, finishKey_unknown]
          refine ⟨iff_of_true ⟨t, rfl, htlit⟩ (by simpa), ?_⟩
          rintro _ ⟨⟩
          exact htfocus
        · exact ⟨iff_of_false (by simp) (by simpa), fun _ hnone => by cases hnone⟩
    · rename_i htoggle
      refine (h.finishKey hlast h.last).congr (iff_of_true (fun _ _ => .inl hlast) ?_)
      rw [hnone fun hno => htoggle hno.2]
      simp

/-- The neighbours of a key in focus are keys too. -/
theorem InFocus.siblings_exist (h : s.InFocus layouts geometry) :
    ∃ siblings, atIndex (s.siblingInfo s.keyboard) s.currentFocussIndex_ = some siblings ∧
      siblings.Exist (s.layout layouts) := by
  obtain ⟨screenSize, hcreated⟩ := h.created
  have hlength : (s.keyPos s.keyboard).map List.length =
      (s.layout layouts).keyInfo.map List.length := by
    rw [hcreated.keyPos]
    exact KBLayouts.keyPositions_length _ _
  have hplace : (atIndex ((s.layout layouts).siblingInfo geometry (s.keyPos s.keyboard))
      s.currentFocussIndex_).isSome := by
    rw [atIndex_isSome_congr (KBLayout.siblingInfo_length geometry hlength)]
    exact h.focus
  obtain ⟨siblings, hsiblings⟩ := Option.isSome_iff_exists.mp hplace
  refine ⟨siblings, ?_, KBLayout.siblingInfo_exist hlength hsiblings⟩
  rw [hcreated.siblingInfo]
  exact hsiblings

/-- A navigation key is none that is found, and turns to no layout. -/
theorem highlightsOne_of_navigation {sibling : KeySiblingInfo → SkPoint}
    (h : navigation keyValue = some sibling) : s.HighlightsOne layouts keyValue := by
  have hkey : keyValue ∈ [.RNS_KEY_Right, .RNS_KEY_Left, .RNS_KEY_Up, .RNS_KEY_Down] := by
    unfold navigation at h
    split at h <;> simp at h ⊢
  have hmoves : s.movesTo layouts keyValue = none := by
    unfold movesTo knownKey
    fin_cases hkey <;> rfl
  have hturns : s.turnsTo layouts keyValue = none := by
    unfold turnsTo
    fin_cases hkey <;> rfl
  unfold HighlightsOne
  rw [hmoves, hturns]
  simp

theorem Noted.handleKey (h : Noted layouts geometry s) (hkept : Kept layouts geometry s)
    (hlast : s.lastFocussIndex_ = s.currentFocussIndex_) :
    Settles layouts geometry (s.handleKey layouts geometry keyValue)
      (s.HighlightsOne layouts keyValue) := by
  unfold OnScreenKeyboard.handleKey
  split
  · rename_i sibling hnavigation
    obtain ⟨siblings, hsiblings, hexist⟩ := h.inFocus.siblings_exist
    have hplace : (s.keyInfoAt layouts (sibling siblings)).isSome := by
      unfold navigation at hnavigation
      split at hnavigation <;> cases hnavigation
      · exact hexist.right
      · exact hexist.left
      · exact hexist.up
      · exact hexist.down
    rw [hsiblings, Option.bind_eq_bind, Option.bind_some]
    refine (h.finishKey hlast hplace).congr (iff_of_true (fun hvalid => absurd rfl hvalid) ?_)
    exact highlightsOne_of_navigation hnavigation
  · split
    · rename_i hselect
      obtain ⟨key, hkey⟩ := Option.isSome_iff_exists.mp h.inFocus.focus
      rw [hkey, hselect]
      exact h.selectKey hkept hlast hkey
    · rename_i hselect
      refine (h.finishKnownKey hlast).congr ?_
      unfold HighlightsOne turnsTo movesTo
      rw [if_neg hselect, if_neg fun hsel => hselect hsel.1]
      simp

/-- A key event on an active keyboard with one highlight leaves one highlight exactly under the
condition, and all places that it reads are there. -/
theorem InFocus.processKey (h : s.InFocus layouts geometry) (keyValue : RnsKey)
    (hkept : Kept layouts geometry s) (hactive : s.oskState_ = .OSK_STATE_ACTIVE) (hlit : s.Lit) :
    Settles layouts geometry (s.processKey layouts geometry keyValue)
      (s.HighlightsOne layouts keyValue) := by
  unfold OnScreenKeyboard.processKey
  rw [if_neg (not_not.mpr hactive)]
  split
  · rename_i hunknown
    subst hunknown
    refine ⟨iff_of_true ⟨s, rfl, hlit⟩ ⟨fun index hindex => ?_, fun next hnext => ?_⟩, ?_⟩
    · cases hindex
    · cases hnext
    · rintro _ ⟨⟩
      exact h
  · have hnoted : Noted layouts geometry s.noteFocus :=
      ⟨hactive, h.congr (by constructor <;> rfl) h.focus, h.focus, hlit⟩
    exact hnoted.handleKey (hkept.congr rfl rfl rfl) rfl

end OnScreenKeyboard

/-- A key event of the run leaves one highlight. -/
def OSKOp.HighlightsOne (layouts : KBLayouts) (s : OnScreenKeyboard Pos) : OSKOp → Prop
  | processKey keyValue => s.oskState_ = .OSK_STATE_ACTIVE → s.HighlightsOne layouts keyValue
  | _ => True

instance (s : OnScreenKeyboard Pos) : (op : OSKOp) → Decidable (op.HighlightsOne layouts s)
  | .launch _ _ => isTrue trivial
  | .windowReadyToDrawCB => isTrue trivial
  | .processKey keyValue =>
    inferInstanceAs
      (Decidable (s.oskState_ = .OSK_STATE_ACTIVE → s.HighlightsOne layouts keyValue))
  | .exit => isTrue trivial

namespace OnScreenKeyboard

/-- The first draw ends with a highlight. -/
theorem windowReadyToDrawCB_eq (hlaunch : s.oskState_ = .OSK_STATE_LAUNCH_INPROGRESS)
    (h : s.windowReadyToDrawCB layouts geometry = some t) :
    t = ((s.setState .OSK_STATE_ACTIVE).drawn layouts geometry).light := by
  unfold windowReadyToDrawCB at h
  rw [if_pos hlaunch] at h
  obtain ⟨u, hu, h⟩ := Option.bind_eq_some_iff.mp h
  obtain rfl := drawKBLayout_cases (s := s.setState .OSK_STATE_ACTIVE) rfl hu
  have hactive : ((s.setState .OSK_STATE_ACTIVE).drawn layouts geometry).oskState_ =
      .OSK_STATE_ACTIVE := by
    simp [drawn, noteDraw, focus, setState]
  unfold drawHighLightOnKey at h
  rw [if_neg (not_not.mpr hactive)] at h
  obtain ⟨_, -, h⟩ := Option.bind_eq_some_iff.mp h
  obtain ⟨_, -, h⟩ := Option.bind_eq_some_iff.mp h
  exact (Option.some.inj h).symm

/-- While the keyboard is active, exactly the tile in focus is highlighted. -/
structure ShowsFocus (layouts : KBLayouts) (geometry : KeyGeometry Pos)
    (s : OnScreenKeyboard Pos) : Prop where
  kept : Kept layouts geometry s
  inFocus : s.oskState_ = .OSK_STATE_ACTIVE → s.InFocus layouts geometry
  lit : s.oskState_ = .OSK_STATE_ACTIVE → s.Lit

theorem ShowsFocus.init : ShowsFocus layouts geometry {} where
  kept := .init
  inFocus := fun h => by cases h
  lit := fun h => by cases h

theorem ShowsFocus.step {op : OSKOp} (h : ShowsFocus layouts geometry s)
    (hone : op.HighlightsOne layouts s) (hstep : OSKStep layouts geometry s op t) :
    ShowsFocus layouts geometry t := by
  have hkept := h.kept.step hstep
  cases op with
  | launch oskConfig mainscreenSize =>
    obtain rfl := Option.some.inj hstep
    unfold launch at hkept ⊢
    split
    · exact h
    · rw [if_neg ‹_›] at hkept
      exact ⟨hkept, fun hactive => (by cases hactive), fun hactive => (by cases hactive)⟩
  | windowReadyToDrawCB =>
    by_cases hlaunch : s.oskState_ = .OSK_STATE_LAUNCH_INPROGRESS
    · obtain rfl := windowReadyToDrawCB_eq hlaunch hstep
      have hshown := Kept.drawn_inFocus (s := s.setState .OSK_STATE_ACTIVE)
        (h.kept.congr rfl rfl rfl)
      exact ⟨hkept, fun _ => hshown.congr (by constructor <;> rfl) hshown.focus,
        fun _ => light_drawn_lit _⟩
    · obtain rfl := Option.some.inj ((if_neg hlaunch).symm.trans hstep)
      exact h
  | processKey keyValue =>
    by_cases hactive : s.oskState_ = .OSK_STATE_ACTIVE
    · have hsettles := (h.inFocus hactive).processKey keyValue h.kept hactive (h.lit hactive)
      obtain ⟨u, hu, hlit⟩ := hsettles.lit.mpr (hone hactive)
      obtain rfl : t = u := Option.some.inj (hstep.symm.trans hu)
      exact ⟨hkept, fun _ => hsettles.inFocus t hu, fun _ => hlit⟩
    · have hsame : t = s := by
        have hstep : s.processKey layouts geometry keyValue = some t := hstep
        unfold processKey at hstep
        rw [if_pos hactive, ite_self] at hstep
        exact (Option.some.inj hstep).symm
      exact hsame ▸ h
  | exit =>
    obtain rfl := Option.some.inj hstep
    unfold exit at hkept ⊢
    split
    · exact h
    · rw [if_neg ‹_›] at hkept
      exact ⟨hkept, fun hactive => (by cases hactive), fun hactive => (by cases hactive)⟩

end OnScreenKeyboard

/-- In every state that the keyboard can come to under the condition, an active one highlights
exactly the tile in focus, and the next key event has a result that does so, too, exactly if it
meets the condition itself. -/
theorem oskRun_highlights_focus
    (hrun : Run (OSKStep layouts geometry) (fun s op => op.HighlightsOne layouts s) {} s)
    (hactive : s.oskState_ = .OSK_STATE_ACTIVE) :
    s.highlighted = {s.currentFocussIndex_} ∧
      ∀ keyValue, (∃ t, s.processKey layouts geometry keyValue = some t ∧
          t.highlighted = {t.currentFocussIndex_}) ↔ s.HighlightsOne layouts keyValue := by
  have hshows := hrun.invariant (P := OnScreenKeyboard.ShowsFocus layouts geometry)
    (fun _ _ _ h hone hstep => h.step hone hstep) .init
  refine ⟨hshows.lit hactive, fun keyValue => ?_⟩
  exact ((hshows.inFocus hactive).processKey keyValue hshows.kept hactive (hshows.lit hactive)).lit

/-- The key in focus is selected, which enables the return key, and a key is pressed. -/
def typedKeys : List OSKOp :=
  [.launch ⟨.OSK_ALPHA_NUMERIC_KB, true⟩ ⟨1280, 720⟩, .windowReadyToDrawCB,
    .processKey .RNS_KEY_Down, .processKey .RNS_KEY_Select, .processKey .RNS_KEY_a]

theorem oskRun_highlights_focus_typed : ∃ s : OnScreenKeyboard (Int × Int),
    s.currentFocussIndex_ = ⟨4, 0⟩ ∧ s.highlighted = {s.currentFocussIndex_} := by
  have hfold : (typedKeys.foldlM (fun s (op : OSKOp) =>
      if op.HighlightsOne oskLayouts s then op.exec oskLayouts tileGeometry s else none) {}).map
        (fun s => (s.oskState_, s.currentFocussIndex_)) = some (.OSK_STATE_ACTIVE, ⟨4, 0⟩) := by
    decide +kernel
  obtain ⟨s, hrun, hs⟩ := Option.map_eq_some_iff.mp hfold
  obtain ⟨hactive, hfocus⟩ := Prod.mk.inj hs
  exact ⟨s, hfocus, (oskRun_highlights_focus (Run.of_checked_exec hrun) hactive).1⟩

/-- A key is pressed while the return key waits for a valid one. -/
def pressedKey : List OSKOp :=
  [.launch ⟨.OSK_ALPHA_NUMERIC_KB, true⟩ ⟨1280, 720⟩, .windowReadyToDrawCB,
    .processKey .RNS_KEY_a]

theorem return_key_stays_highlighted : ¬ ∀ s : OnScreenKeyboard (Int × Int),
    Run (OSKStep oskLayouts tileGeometry) anyStep {} s → s.oskState_ = .OSK_STATE_ACTIVE →
      s.highlighted = {s.currentFocussIndex_} := by
  intro hall
  have hfold : (pressedKey.foldlM (OSKOp.exec oskLayouts tileGeometry) {}).map
      (fun s => (s.oskState_, s.currentFocussIndex_, s.highlighted)) =
        some (.OSK_STATE_ACTIVE, ⟨4, 0⟩, {⟨4, 0⟩, ⟨13, 2⟩}) := by
    decide +kernel
  obtain ⟨s, hrun, hs⟩ := Option.map_eq_some_iff.mp hfold
  obtain ⟨hactive, hfocus, hlit⟩ := by simpa only [Prod.mk.injEq] using hs
  have hone := hall s (Run.of_exec hrun) hactive
  rw [hfocus, hlit] at hone
  exact absurd hone (by decide)

end ReactNativeSkia
