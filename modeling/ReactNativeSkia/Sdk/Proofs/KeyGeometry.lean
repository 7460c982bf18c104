import ReactNativeSkia.Misc.Run
import ReactNativeSkia.Sdk.Proofs.KeySiblings

/-!
# The positions of the layout in use

A layout is created when it has no positions or the flag asks for new ones, and the flag is gone
with the first layout that is created. Each kept layout is whole, for the screen size it has been
created for; that this is the present one holds as long as no layout of another size is drawn
without the flag.
-/

namespace ReactNativeSkia

variable {Pos : Type} {layouts : KBLayouts} {geometry : KeyGeometry Pos}
  {s t u : OnScreenKeyboard Pos}

namespace OnScreenKeyboard

/-- The layout has been created for the screen size. -/
structure Created (layouts : KBLayouts) (geometry : KeyGeometry Pos) (s : OnScreenKeyboard Pos)
    (keyboard : Keyboard) (screenSize : SkSize) : Prop where
  createdFor : s.createdFor keyboard = some screenSize
  keyPos : s.keyPos keyboard = layouts.keyPositions geometry keyboard screenSize
  siblingInfo : s.siblingInfo keyboard =
    (layouts.layout keyboard).siblingInfo geometry (s.keyPos keyboard)

/-- A layout that is kept has been created. -/
def Kept (layouts : KBLayouts) (geometry : KeyGeometry Pos) (s : OnScreenKeyboard Pos) : Prop :=
  ∀ keyboard, s.keyPos keyboard = [] ∨ ∃ screenSize, Created layouts geometry s keyboard screenSize

/-- Nothing has changed but the focus, the return key, the emitted key and the highlight. -/
structure SameLayout (s t : OnScreenKeyboard Pos) : Prop where
  oskConfig_ : t.oskConfig_ = s.oskConfig_
  keyboard : t.keyboard = s.keyboard
  kbLayoutType : t.kbLayoutType = s.kbLayoutType
  keyPos : t.keyPos = s.keyPos
  siblingInfo : t.siblingInfo = s.siblingInfo
  screenSize_ : t.screenSize_ = s.screenSize_
  generateOSKLayout_ : t.generateOSKLayout_ = s.generateOSKLayout_
  oskState_ : t.oskState_ = s.oskState_
  createdFor : t.createdFor = s.createdFor
  draws : t.draws = s.draws

theorem SameLayout.trans (h : SameLayout s t) (h' : SameLayout t u) : SameLayout s u where
  oskConfig_ := h'.oskConfig_.trans h.oskConfig_
  keyboard := h'.keyboard.trans h.keyboard
  kbLayoutType := h'.kbLayoutType.trans h.kbLayoutType
  keyPos := h'.keyPos.trans h.keyPos
  siblingInfo := h'.siblingInfo.trans h.siblingInfo
  screenSize_ := h'.screenSize_.trans h.screenSize_
  generateOSKLayout_ := h'.generateOSKLayout_.trans h.generateOSKLayout_
  oskState_ := h'.oskState_.trans h.oskState_
  createdFor := h'.createdFor.trans h.createdFor
  draws := h'.draws.trans h.draws

theorem Created.congr {keyboard : Keyboard} {screenSize : SkSize}
    (h : Created layouts geometry s keyboard screenSize) (hkeyPos : t.keyPos = s.keyPos)
    (hsiblingInfo : t.siblingInfo = s.siblingInfo) (hcreatedFor : t.createdFor = s.createdFor) :
    Created layouts geometry t keyboard screenSize where
  createdFor := by rw [hcreatedFor, h.createdFor]
  keyPos := by rw [hkeyPos, h.keyPos]
  siblingInfo := by rw [hsiblingInfo, hkeyPos, h.siblingInfo]

theorem Kept.congr (h : Kept layouts geometry s) (hkeyPos : t.keyPos = s.keyPos)
    (hsiblingInfo : t.siblingInfo = s.siblingInfo) (hcreatedFor : t.createdFor = s.createdFor) :
    Kept layouts geometry t := by
  intro keyboard
  rcases h keyboard with hempty | ⟨screenSize, hcreated⟩
  · exact .inl (by rw [hkeyPos, hempty])
  · exact .inr ⟨screenSize, hcreated.congr hkeyPos hsiblingInfo hcreatedFor⟩

/-! ## Creating a layout -/

section create

variable (layouts geometry s)

@[simp] theorem createOSKLayout_keyboard : (s.createOSKLayout layouts geometry).keyboard =
    keyboardOf s.oskConfig_.type s.kbLayoutType := by
  unfold createOSKLayout
  dsimp only
  split <;> rfl

@[simp] theorem createOSKLayout_oskConfig_ :
    (s.createOSKLayout layouts geometry).oskConfig_ = s.oskConfig_ := by
  unfold createOSKLayout
  dsimp only
  split <;> rfl

@[simp] theorem createOSKLayout_kbLayoutType :
    (s.createOSKLayout layouts geometry).kbLayoutType = s.kbLayoutType := by
  unfold createOSKLayout
  dsimp only
  split <;> rfl

@[simp] theorem createOSKLayout_screenSize_ :
    (s.createOSKLayout layouts geometry).screenSize_ = s.screenSize_ := by
  unfold createOSKLayout
  dsimp only
  split <;> rfl

@[simp] theorem createOSKLayout_oskState_ :
    (s.createOSKLayout layouts geometry).oskState_ = s.oskState_ := by
  unfold createOSKLayout
  dsimp only
  split <;> rfl

@[simp] theorem createOSKLayout_lastFocussIndex_ :
    (s.createOSKLayout layouts geometry).lastFocussIndex_ = s.lastFocussIndex_ := by
  unfold createOSKLayout
  dsimp only
  split <;> rfl

@[simp] theorem createOSKLayout_draws :
    (s.createOSKLayout layouts geometry).draws = s.draws := by
  unfold createOSKLayout
  dsimp only
  split <;> rfl

end create

theorem Kept.createOSKLayout (h : Kept layouts geometry s) :
    Kept layouts geometry (s.createOSKLayout layouts geometry) := by
  unfold OnScreenKeyboard.createOSKLayout
  dsimp only
  split
  · exact h.congr rfl rfl rfl
  · intro keyboard
    by_cases heq : keyboard = keyboardOf s.oskConfig_.type s.kbLayoutType
    · subst heq
      exact .inr ⟨s.screenSize_, by simp, by simp, by simp [layout]⟩
    · refine (h keyboard).imp (fun hempty => ?_) fun ⟨screenSize, hcreated⟩ => ⟨screenSize, ?_⟩
      · simpa [heq] using hempty
      · exact ⟨by simpa [heq] using hcreated.createdFor, by simpa [heq] using hcreated.keyPos,
          by simpa [heq] using hcreated.siblingInfo⟩

/-- The layout in use is there afterwards. -/
theorem Kept.created (h : Kept layouts geometry s) :
    ∃ screenSize, Created layouts geometry (s.createOSKLayout layouts geometry)
      (s.createOSKLayout layouts geometry).keyboard screenSize := by
  refine (h.createOSKLayout _).resolve_left ?_
  unfold OnScreenKeyboard.createOSKLayout
  dsimp only
  split
  · rename_i hkept
    simp only [Bool.and_eq_true, Bool.not_eq_true', List.isEmpty_eq_false_iff] at hkept
    exact hkept.1
  · simpa [KBLayouts.keyPositions, List.mapIdx_eq_nil_iff] using KBLayout.keyInfo_ne_nil

/-- It is there for the present screen size, unless it is taken over from another one. -/
theorem Kept.created_screenSize (h : Kept layouts geometry s)
    (hfresh : s.generateOSKLayout_ = false →
      ∀ screenSize ∈ s.createdFor (keyboardOf s.oskConfig_.type s.kbLayoutType),
        screenSize = s.screenSize_) :
    Created layouts geometry (s.createOSKLayout layouts geometry)
      (s.createOSKLayout layouts geometry).keyboard s.screenSize_ := by
  obtain ⟨screenSize, hcreated⟩ := h.created
  suffices screenSize = s.screenSize_ from this ▸ hcreated
  have hsize := hcreated.createdFor
  rw [createOSKLayout_keyboard] at hsize
  unfold OnScreenKeyboard.createOSKLayout at hsize
  dsimp only at hsize
  split at hsize
  · rename_i hkept
    simp only [Bool.and_eq_true, Bool.not_eq_true'] at hkept
    exact hfresh hkept.2 screenSize hsize
  · simpa using hsize.symm

/-! ## Drawing -/

/-- The layout in use has been created and drawn, and the focus is on its default key. -/
def drawn (layouts : KBLayouts) (geometry : KeyGeometry Pos) (s : OnScreenKeyboard Pos) :
    OnScreenKeyboard Pos :=
  let s := s.createOSKLayout layouts geometry
  (s.focus (s.layout layouts).defaultFocussIndex).noteDraw

/-- What drawing the layout comes to. -/
theorem drawKBLayout_cases (hactive : s.oskState_ = .OSK_STATE_ACTIVE)
    (h : s.drawKBLayout layouts geometry = some t) : t = s.drawn layouts geometry := by
  unfold drawKBLayout at h
  rw [if_neg (not_not.mpr hactive)] at h
  obtain ⟨_, -, rfl⟩ := Option.map_eq_some_iff.mp h
  rfl

/-- Drawing the highlight moves no layout. -/
theorem drawHighLightOnKey_sameLayout (h : s.drawHighLightOnKey layouts = some t) :
    SameLayout s t := by
  unfold drawHighLightOnKey at h
  split at h
  · obtain rfl := Option.some.inj h
    constructor <;> rfl
  · obtain ⟨_, -, h⟩ := Option.bind_eq_some_iff.mp h
    obtain ⟨_, -, h⟩ := Option.bind_eq_some_iff.mp h
    obtain rfl := Option.some.inj h
    constructor <;> rfl

theorem focus_sameLayout (s : OnScreenKeyboard Pos) (index : SkPoint) :
    SameLayout s (s.focus index) := by
  constructor <;> rfl

theorem emitKey_sameLayout (s : OnScreenKeyboard Pos) (oskKeyValue : Int) :
    SameLayout s (s.emitKey oskKeyValue) := by
  unfold emitKey
  split <;> constructor <;> rfl

theorem enableReturnKey_sameLayout {oskKeyValue : Int}
    (h : s.enableReturnKey layouts oskKeyValue = some t) : SameLayout s t := by
  unfold enableReturnKey at h
  split at h
  · exact SameLayout.trans (by constructor <;> rfl) (drawHighLightOnKey_sameLayout h)
  · obtain rfl := Option.some.inj h
    constructor <;> rfl

theorem moveFocus_sameLayout {hlCandidate : SkPoint}
    (h : s.moveFocus layouts hlCandidate = some t) : SameLayout s t := by
  unfold moveFocus at h
  split at h
  · exact (focus_sameLayout s _).trans (drawHighLightOnKey_sameLayout h)
  · obtain rfl := Option.some.inj h
    constructor <;> rfl

theorem finishKey_sameLayout {hlCandidate : SkPoint} {oskKeyValue : Int}
    (h : s.finishKey layouts hlCandidate oskKeyValue = some t) : SameLayout s t := by
  obtain ⟨u, hu, h⟩ := Option.bind_eq_some_iff.mp h
  obtain ⟨v, hv, h⟩ := Option.bind_eq_some_iff.mp h
  obtain rfl := Option.some.inj h
  exact ((enableReturnKey_sameLayout hu).trans (moveFocus_sameLayout hv)).trans
    (emitKey_sameLayout v _)

theorem finishKnownKey_sameLayout {keyValue : RnsKey}
    (h : s.finishKnownKey layouts keyValue = some t) : SameLayout s t := by
  unfold finishKnownKey at h
  split at h
  · exact finishKey_sameLayout h
  · exact finishKey_sameLayout h

/-- The layout that a key event turns to. -/
def turnsTo (layouts : KBLayouts) (s : OnScreenKeyboard Pos) (keyValue : RnsKey) :
    Option KBLayoutType :=
  if keyValue = .RNS_KEY_Select then
    (s.keyInfoAt layouts s.currentFocussIndex_).bind s.toggles
  else none

theorem turnLayout_cases {key : KeyInfo} (hactive : s.oskState_ = .OSK_STATE_ACTIVE)
    (h : s.turnLayout layouts geometry key = some t) :
    SameLayout s t ∨
      ∃ next ∈ s.toggles key, SameLayout ((s.setLayoutType next).drawn layouts geometry) t := by
  unfold turnLayout at h
  split at h
  · rename_i next hnext
    obtain ⟨u, hu, h⟩ := Option.bind_eq_some_iff.mp h
    obtain rfl := drawKBLayout_cases (s := s.setLayoutType next) hactive hu
    exact .inr ⟨next, hnext, drawHighLightOnKey_sameLayout h⟩
  · obtain rfl := Option.some.inj h
    exact .inl (by constructor <;> rfl)

theorem selectKey_cases {key : KeyInfo} (hactive : s.oskState_ = .OSK_STATE_ACTIVE)
    (h : s.selectKey layouts geometry key = some t) :
    SameLayout s t ∨
      ∃ next ∈ s.toggles key, SameLayout ((s.setLayoutType next).drawn layouts geometry) t := by
  unfold selectKey at h
  split at h
  · exact .inl (finishKnownKey_sameLayout h)
  split at h
  · obtain ⟨u, hu, h⟩ := Option.bind_eq_some_iff.mp h
    have hut := finishKey_sameLayout h
    rcases turnLayout_cases hactive hu with hsu | ⟨next, hnext, hsu⟩
    · exact .inl (hsu.trans hut)
    · exact .inr ⟨next, hnext, hsu.trans hut⟩
  · exact .inl (finishKey_sameLayout h)

/-- A key event leaves the layout, or it turns to another one and draws it. -/
theorem processKey_cases {keyValue : RnsKey}
    (h : s.processKey layouts geometry keyValue = some t) :
    SameLayout s t ∨
      s.oskState_ = .OSK_STATE_ACTIVE ∧ ∃ next ∈ s.turnsTo layouts keyValue,
        SameLayout ((s.noteFocus.setLayoutType next).drawn layouts geometry) t := by
  have hnote : SameLayout s s.noteFocus := by constructor <;> rfl
  unfold processKey at h
  split at h
  · obtain rfl := Option.some.inj h
    exact .inl (by constructor <;> rfl)
  split at h
  · obtain rfl := Option.some.inj h
    exact .inl (by constructor <;> rfl)
  rename_i hactive
  rw [not_not] at hactive
  unfold handleKey at h
  split at h
  · obtain ⟨siblings, -, h⟩ := Option.bind_eq_some_iff.mp h
    exact .inl (hnote.trans (finishKey_sameLayout h))
  split at h
  · rename_i hselect
    obtain ⟨key, hkey, h⟩ := Option.bind_eq_some_iff.mp h
    rcases selectKey_cases (s := s.noteFocus) hactive h with hst | ⟨next, hnext, hst⟩
    · exact .inl (hnote.trans hst)
    · refine .inr ⟨hactive, next, ?_, hst⟩
      exact (if_pos hselect).trans (Option.bind_eq_some_iff.mpr ⟨key, hkey, hnext⟩)
  · exact .inl (hnote.trans (finishKnownKey_sameLayout h))

/-- The window being ready, the layout of the launch is drawn. -/
theorem windowReadyToDrawCB_cases (h : s.windowReadyToDrawCB layouts geometry = some t) :
    t = s ∨ s.oskState_ = .OSK_STATE_LAUNCH_INPROGRESS ∧
      SameLayout ((s.setState .OSK_STATE_ACTIVE).drawn layouts geometry) t := by
  unfold windowReadyToDrawCB at h
  split at h
  · obtain ⟨u, hu, h⟩ := Option.bind_eq_some_iff.mp h
    obtain rfl := drawKBLayout_cases (s := s.setState .OSK_STATE_ACTIVE) rfl hu
    exact .inr ⟨‹_›, drawHighLightOnKey_sameLayout h⟩
  · exact .inl (Option.some.inj h).symm

/-- Every draw has shown the positions for the screen size of then, and the layout in use has
those for the present one. -/
structure FitsScreen (layouts : KBLayouts) (geometry : KeyGeometry Pos)
    (s : OnScreenKeyboard Pos) : Prop where
  draws : ∀ draw ∈ s.draws,
    draw.keyPos = layouts.keyPositions geometry draw.keyboard draw.screenSize
  shown : s.oskState_ = .OSK_STATE_ACTIVE →
    s.keyPos s.keyboard = layouts.keyPositions geometry s.keyboard s.screenSize_

theorem FitsScreen.congr (h : FitsScreen layouts geometry s) (hst : SameLayout s t) :
    FitsScreen layouts geometry t where
  draws := by
    rw [hst.draws]
    exact h.draws
  shown := by
    rw [hst.oskState_, hst.keyPos, hst.keyboard, hst.screenSize_]
    exact h.shown

/-- A draw of a layout that is not taken over from another screen size. -/
theorem FitsScreen.drawn
    (h : ∀ draw ∈ s.draws,
      draw.keyPos = layouts.keyPositions geometry draw.keyboard draw.screenSize)
    (hkept : Kept layouts geometry s)
    (hfresh : s.generateOSKLayout_ = false →
      ∀ screenSize ∈ s.createdFor (keyboardOf s.oskConfig_.type s.kbLayoutType),
        screenSize = s.screenSize_) :
    FitsScreen layouts geometry (s.drawn layouts geometry) := by
  have hcreated := (hkept.created_screenSize hfresh).keyPos
  constructor
  · intro draw hdraw
    simp only [OnScreenKeyboard.drawn, noteDraw, focus, createOSKLayout_draws, List.mem_append,
      List.mem_singleton] at hdraw
    rcases hdraw with hdraw | rfl
    · exact h draw hdraw
    · simpa using hcreated
  · intro _
    simpa [OnScreenKeyboard.drawn, noteDraw, focus] using hcreated

theorem Kept.drawn (h : Kept layouts geometry s) :
    Kept layouts geometry (s.drawn layouts geometry) :=
  h.createOSKLayout.congr rfl rfl rfl

end OnScreenKeyboard

namespace OSKOp

/-- The layout that an operation draws. -/
def drawnLayout (layouts : KBLayouts) (s : OnScreenKeyboard Pos) : OSKOp → Option Keyboard
  | windowReadyToDrawCB =>
    if s.oskState_ = .OSK_STATE_LAUNCH_INPROGRESS then
      some (keyboardOf s.oskConfig_.type s.kbLayoutType)
    else none
  | processKey keyValue =>
    if s.oskState_ = .OSK_STATE_ACTIVE then
      (s.turnsTo layouts keyValue).map (keyboardOf s.oskConfig_.type)
    else none
  | _ => none

/-- A layout that is drawn while the flag is gone has not been created for another screen size. -/
def DrawsFresh (layouts : KBLayouts) (s : OnScreenKeyboard Pos) (op : OSKOp) : Prop :=
  ∀ keyboard ∈ op.drawnLayout layouts s, s.generateOSKLayout_ = false →
    ∀ screenSize ∈ s.createdFor keyboard, screenSize = s.screenSize_

instance (s : OnScreenKeyboard Pos) (op : OSKOp) : Decidable (op.DrawsFresh layouts s) := by
  unfold DrawsFresh
  infer_instance

end OSKOp

namespace OnScreenKeyboard

theorem Kept.step {op : OSKOp} (h : Kept layouts geometry s)
    (hstep : OSKStep layouts geometry s op t) : Kept layouts geometry t := by
  cases op with
  | launch oskConfig mainscreenSize =>
    obtain rfl := Option.some.inj hstep
    unfold launch
    split
    · exact h
    · exact h.congr rfl rfl rfl
  | windowReadyToDrawCB =>
    rcases windowReadyToDrawCB_cases hstep with rfl | ⟨-, hst⟩
    · exact h
    · have hdrawn := Kept.drawn (s := s.setState .OSK_STATE_ACTIVE) (h.congr rfl rfl rfl)
      exact hdrawn.congr hst.keyPos hst.siblingInfo hst.createdFor
  | processKey keyValue =>
    rcases processKey_cases hstep with hst | ⟨-, next, -, hst⟩
    · exact h.congr hst.keyPos hst.siblingInfo hst.createdFor
    · have hdrawn := Kept.drawn (s := s.noteFocus.setLayoutType next) (h.congr rfl rfl rfl)
      exact hdrawn.congr hst.keyPos hst.siblingInfo hst.createdFor
  | exit =>
    obtain rfl := Option.some.inj hstep
    unfold exit
    split
    · exact h
    · exact h.congr rfl rfl rfl

theorem Kept.init : Kept layouts geometry {} := fun _ => .inl rfl

theorem FitsScreen.step {op : OSKOp} (h : FitsScreen layouts geometry s)
    (hkept : Kept layouts geometry s) (hfresh : op.DrawsFresh layouts s)
    (hstep : OSKStep layouts geometry s op t) : FitsScreen layouts geometry t := by
  cases op with
  | launch oskConfig mainscreenSize =>
    obtain rfl := Option.some.inj hstep
    unfold launch
    split
    · exact h
    · exact ⟨h.draws, fun hactive => by cases hactive⟩
  | windowReadyToDrawCB =>
    rcases windowReadyToDrawCB_cases hstep with rfl | ⟨hlaunch, hst⟩
    · exact h
    · refine FitsScreen.congr (FitsScreen.drawn (s := s.setState .OSK_STATE_ACTIVE) h.draws
        (hkept.congr rfl rfl rfl) (hfresh _ ?_)) hst
      exact if_pos hlaunch
  | processKey keyValue =>
    rcases processKey_cases hstep with hst | ⟨hactive, next, hnext, hst⟩
    · exact h.congr hst
    · refine FitsScreen.congr (FitsScreen.drawn (s := s.noteFocus.setLayoutType next) h.draws
        (hkept.congr rfl rfl rfl) (hfresh _ ?_)) hst
      exact (if_pos hactive).trans (Option.mem_map_of_mem _ hnext)
  | exit =>
    obtain rfl := Option.some.inj hstep
    unfold exit
    split
    · exact h
    · exact ⟨h.draws, fun hactive => by cases hactive⟩

theorem FitsScreen.init : FitsScreen layouts geometry {} where
  draws := fun _ h => absurd h List.not_mem_nil
  shown := fun h => by cases h

end OnScreenKeyboard

/-- As long as no layout of another screen size is taken over, what is drawn is worked out for the
screen size of the time, and so is the layout in use of an active keyboard. -/
theorem oskRun_fitsScreen
    (hrun : Run (OSKStep layouts geometry) (fun s op => op.DrawsFresh layouts s) {} s) :
    s.FitsScreen layouts geometry := by
  have hinv := hrun.invariant
    (P := fun s => s.FitsScreen layouts geometry ∧ s.Kept layouts geometry)
    (fun _ _ _ h hfresh hstep => ⟨h.1.step h.2 hfresh hstep, h.2.step hstep⟩)
    ⟨.init, .init⟩
  exact hinv.1

/-! ## The layouts of the source on a screen -/

/-- The groups of a layout on the base screen: where the first tile begins, how far the next one is
behind it, and how wide it is. -/
def groupTiles : Keyboard → Nat → Int × Int × Int
  | .numericKB, _ => (442, 102, 62)
  | .symbolKB, 0 => (212, 139, 124)
  | .symbolKB, 1 => (342, 56, 41)
  | .symbolKB, _ => (1012, 78, 48)
  | .alphaNumericKB, 0 => (212, 139, 124)
  | .alphaNumericKB, 1 => (342, 55, 40)
  | .alphaNumericKB, 2 => (512, 55, 40)
  | .alphaNumericKB, _ => (1012, 63, 48)

/-- The keys of the same group directly in front of a key. -/
def groupKeyIndex (row : List KeyInfo) (columnIndex : Nat) : Nat :=
  match row[columnIndex]? with
  | some key =>
    ((row.take columnIndex).reverse.takeWhile (·.kbPartitionId = key.kbPartitionId)).length
  | none => 0

/-- The tiles of the base screen, scaled by the width. -/
def tileGeometry : KeyGeometry (Int × Int) where
  position keyboard screenSize index :=
    let row := (oskLayout keyboard).keyInfo.getD index.y []
    let group := (row[index.x]?.map KeyInfo.kbPartitionId).getD 0
    let (start, step, width) := groupTiles keyboard group
    let left := start + step * groupKeyIndex row index.x
    (left * screenSize.width / 1280, (left + width) * screenSize.width / 1280)
  fLeft := Prod.fst
  fRight := Prod.snd

/-- A numeric keyboard, and on another screen an alphanumeric one and its symbols. -/
def twoScreens : List OSKOp :=
  [.launch ⟨.OSK_NUMERIC_KB, false⟩ ⟨1280, 720⟩, .windowReadyToDrawCB, .exit,
   .launch ⟨.OSK_ALPHA_NUMERIC_KB, false⟩ ⟨1920, 1080⟩, .windowReadyToDrawCB,
   .processKey .RNS_KEY_Right, .processKey .RNS_KEY_Right, .processKey .RNS_KEY_Right,
   .processKey .RNS_KEY_Right, .processKey .RNS_KEY_Right, .processKey .RNS_KEY_Right,
   .processKey .RNS_KEY_Right, .processKey .RNS_KEY_Up, .processKey .RNS_KEY_Select]

theorem oskRun_fitsScreen_two_screens : ∃ s : OnScreenKeyboard (Int × Int),
    s.FitsScreen oskLayouts tileGeometry ∧
      s.draws.map (fun draw => (draw.keyboard, draw.screenSize)) =
        [(.numericKB, ⟨1280, 720⟩), (.alphaNumericKB, ⟨1920, 1080⟩),
          (.symbolKB, ⟨1920, 1080⟩)] := by
  have hfold : (twoScreens.foldlM (fun s (op : OSKOp) =>
      if op.DrawsFresh oskLayouts s then op.exec oskLayouts tileGeometry s else none) {}).map
        (fun s => s.draws.map fun draw => (draw.keyboard, draw.screenSize)) =
      some [(.numericKB, ⟨1280, 720⟩), (.alphaNumericKB, ⟨1920, 1080⟩),
        (.symbolKB, ⟨1920, 1080⟩)] := by
    decide +kernel
  obtain ⟨s, hrun, hdraws⟩ := Option.map_eq_some_iff.mp hfold
  exact ⟨s, oskRun_fitsScreen (Run.of_checked_exec hrun), hdraws⟩

/-- The numeric keyboard again, on the other screen. -/
def numericAgain : List OSKOp :=
  [.launch ⟨.OSK_NUMERIC_KB, false⟩ ⟨1280, 720⟩, .windowReadyToDrawCB, .exit,
   .launch ⟨.OSK_ALPHA_NUMERIC_KB, false⟩ ⟨1920, 1080⟩, .windowReadyToDrawCB, .exit,
   .launch ⟨.OSK_NUMERIC_KB, false⟩ ⟨1920, 1080⟩, .windowReadyToDrawCB]

theorem positions_of_another_screen : ¬ ∀ s : OnScreenKeyboard (Int × Int),
    Run (OSKStep oskLayouts tileGeometry) anyStep {} s →
      s.FitsScreen oskLayouts tileGeometry := by
  intro hall
  have hfold : (numericAgain.foldlM (OSKOp.exec oskLayouts tileGeometry) {}).map
      (fun s => (s.oskState_, s.keyboard, s.screenSize_, s.keyPosAt ⟨0, 0⟩)) =
        some (.OSK_STATE_ACTIVE, .numericKB, ⟨1920, 1080⟩, some (442, 504)) := by
    decide +kernel
  obtain ⟨s, hrun, hs⟩ := Option.map_eq_some_iff.mp hfold
  obtain ⟨hactive, hkeyboard, hsize, hpos⟩ := by simpa only [Prod.mk.injEq] using hs
  have hshown := (hall s (Run.of_exec hrun)).shown hactive
  unfold OnScreenKeyboard.keyPosAt at hpos
  rw [hshown, hkeyboard, hsize] at hpos
  exact absurd hpos (by decide +kernel)

end ReactNativeSkia
