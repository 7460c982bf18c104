import ReactNativeSkia.Navigation.Proofs.OneEditor

/-!
# Each text input as if it were alone

The text inputs share one queue. As one of them at most is in focus, and leaves the queue empty
behind it, none of them can tell.
-/

namespace ReactNativeSkia

namespace TextInput

variable {s s' : TextInput}

/-! ## Outside of the focus -/

theorem resignFromEditingMode_withKeys (hidle : s.isTextInputInFocus_ = false)
    (keys : KeyQueue RnsKey) :
    (s.withKeys keys).resignFromEditingMode =
      (s.resignFromEditingMode.1.withKeys keys, s.resignFromEditingMode.2) := by
  unfold resignFromEditingMode
  cases hmode : s.isInEditingMode_ with
  | true => simp [withKeys, hidle, hmode]
  | false => simp [withKeys, hmode]

theorem finishEdit_withKeys (keys : KeyQueue RnsKey) (eventKeyType : RnsKey)
    (textString : List Char) (length : Nat) (wait updateString : Bool) :
    (s.withKeys keys).finishEdit eventKeyType textString length wait updateString =
      { s.finishEdit eventKeyType textString length wait updateString with
        input := (s.finishEdit eventKeyType textString length wait updateString).input.withKeys
          keys } := by
  cases updateString with
  | true => rfl
  | false => rfl

theorem moveCursor_withKeys (keys : KeyQueue RnsKey) (eventKeyType : RnsKey) :
    (s.withKeys keys).moveCursor eventKeyType =
      { s.moveCursor eventKeyType with
        input := (s.moveCursor eventKeyType).input.withKeys keys } := by
  unfold moveCursor
  by_cases hleft : eventKeyType = .RNS_KEY_Left
  · by_cases hmoves : s.cursor_.locationFromEnd < s.cursor_.end_
    · simp [hleft, hmoves, withKeys, withLocationFromEnd]
    · simp [hleft, hmoves, withKeys]
  · by_cases hmoves : s.cursor_.locationFromEnd > 0
    · simp [hleft, hmoves, withKeys, withLocationFromEnd]
    · simp [hleft, hmoves, withKeys]

/-- A key that is processed outside of the focus does not look at the queue. -/
theorem processText_withKeys (hidle : s.isTextInputInFocus_ = false) (keys : KeyQueue RnsKey)
    (textString : List Char) (eventKeyType : RnsKey) (stop wait updateString : Bool) :
    (s.withKeys keys).processText textString eventKeyType stop wait updateString =
      (s.processText textString eventKeyType stop wait updateString).map fun result =>
        { result with input := result.input.withKeys keys } := by
  have hend : ∀ n, (s.withKeys keys).withEnd n = (s.withEnd n).withKeys keys := fun _ => rfl
  have hcounted : ({ s.withKeys keys with eventCount_ := s.eventCount_ + 1 } : TextInput) =
      ({ s with eventCount_ := s.eventCount_ + 1 } : TextInput).withKeys keys := rfl
  unfold processText
  split
  · simp only [insertAtCursor, withKeys_cursor_, hend, finishEdit_withKeys]
    split
    · cases insertString textString (s.cursor_.end_ - s.cursor_.locationFromEnd)
        (RNSKeyMap eventKeyType) with
      | none => rfl
      | some edited => rfl
    · rfl
  split
  · rw [moveCursor_withKeys]
    rfl
  split
  · rfl
  split
  · simp only [withKeys_cursor_, hend, finishEdit_withKeys]
    split
    · cases eraseChar textString (s.cursor_.end_ - s.cursor_.locationFromEnd - 1) with
      | none => rfl
      | some edited => rfl
    · rfl
  split
  · simp only [withKeys_eventCount_, hcounted]
    rw [resignFromEditingMode_withKeys (by exact hidle)]
    rfl
  split
  · rfl
  · rfl

theorem resignFromEditingMode_idle (hidle : s.isTextInputInFocus_ = false) :
    s.resignFromEditingMode.1.isTextInputInFocus_ = false := by
  unfold resignFromEditingMode
  split
  · exact hidle
  · simp [hidle]

/-- Only `onHandleKey` takes the focus. -/
theorem processText_idle (hidle : s.isTextInputInFocus_ = false) {textString : List Char}
    {eventKeyType : RnsKey} {stop wait updateString : Bool} {result : KeyResult}
    (h : s.processText textString eventKeyType stop wait updateString = some result) :
    result.input.isTextInputInFocus_ = false := by
  have hfinish : ∀ (t : TextInput) (edited : List Char) (length : Nat) (wait : Bool),
      (t.finishEdit eventKeyType edited length wait updateString).input.isTextInputInFocus_ =
        t.isTextInputInFocus_ := by
    intro t edited length wait
    cases updateString with
    | true => rfl
    | false => rfl
  unfold processText at h
  split at h
  · obtain ⟨edited, -, h⟩ := Option.bind_eq_some_iff.mp h
    cases h
    rw [hfinish]
    exact hidle
  split at h
  · cases h
    unfold moveCursor
    dsimp only
    split
    · split
      · exact hidle
      · exact hidle
    · split
      · exact hidle
      · exact hidle
  split at h
  · cases h
    exact hidle
  split at h
  · split at h
    · obtain ⟨edited, -, h⟩ := Option.bind_eq_some_iff.mp h
      cases h
      rw [hfinish]
      exact hidle
    · cases h
      rw [hfinish]
      exact hidle
  split at h
  · cases h
    exact resignFromEditingMode_idle hidle
  split at h
  · cases h
    exact hidle
  · cases h
    exact hidle

/-- Whoever takes the focus starts the bursts anew. -/
theorem handleControlledKey_withKeys (hidle : s.isTextInputInFocus_ = false)
    {keys : KeyQueue RnsKey} (hkeys : keys.inputQueue = s.keys.inputQueue)
    (eventKeyType : RnsKey) (keyRepeat : Bool) :
    (s.withKeys keys).handleControlledKey eventKeyType keyRepeat =
      s.handleControlledKey eventKeyType keyRepeat := by
  have htake : (s.withKeys keys).takeFocus.1 = s.takeFocus.1 := by
    simp [takeFocus, withKeys, hidle, KeyQueue.resetRepeat, hkeys]
  unfold handleControlledKey
  rw [htake]

end TextInput

/-- The operations that leave the queue alone outside of the focus. -/
def TextInputOp.leavesQueue : TextInputOp → Prop
  | .onHandleKey _ _ _ | .processQueuedKey _ _ => False
  | _ => True

namespace TextInput

variable {op : TextInputOp} {events : List TextInputEvent}

/-- The idle operations do not look at the queue either. -/
theorem emit_withKeys {s : TextInput} (op : TextInputOp) (hidle : s.isTextInputInFocus_ = false)
    (hop : op.leavesQueue) :
    ∃ (s' : TextInput) (events : List TextInputEvent), s'.isTextInputInFocus_ = false ∧
      ∀ keys, op.emit (s.withKeys keys) = some (s'.withKeys keys, events) := by
  cases op with
  | onHandleKey | processQueuedKey => exact hop.elim
  | updateComponentProps props forceUpdate =>
    refine ⟨s.updateComponentProps props forceUpdate, [], ?_, ?_⟩
    · rw [(updateComponentProps_keeps s props forceUpdate).2.2.1, hidle]
    · intro keys
      have hreplaces : ∀ t : TextInput, t.displayString_ = s.displayString_ →
          t.replacesText props forceUpdate = s.replacesText props forceUpdate := by
        intro t ht
        simp only [replacesText, ht]
      simp only [TextInputOp.emit, updateComponentProps, updateText]
      rw [hreplaces (s.withKeys keys) rfl, hreplaces { s.withKeys keys with
        maxLength_ := props.maxLength } rfl, hreplaces { s with maxLength_ := props.maxLength } rfl]
      cases s.replacesText props forceUpdate with
      | true => simp [postUpdate, withText, storeProps, withKeys, withEnd, hidle]
      | false => simp [storeProps, withKeys]
  | setTextAndSelection text =>
    refine ⟨s.setTextAndSelection text, [], ?_, ?_⟩
    · simp [setTextAndSelection, postUpdate, withText, hidle]
    · intro keys
      simp [TextInputOp.emit, setTextAndSelection, postUpdate, withText, withKeys, withEnd, hidle]
  | requestForEditingMode =>
    refine ⟨s.requestForEditingMode.1, s.requestForEditingMode.2, ?_, ?_⟩
    · unfold TextInput.requestForEditingMode
      split
      · exact hidle
      · dsimp only
        split
        · exact hidle
        · exact hidle
    · intro keys
      simp only [TextInputOp.emit, TextInput.requestForEditingMode, withKeys_isInEditingMode_,
        withKeys_props, withKeys_displayString_]
      split
      · rfl
      · split
        · rfl
        · rfl
  | resignFromEditingMode =>
    refine ⟨s.resignFromEditingMode.1, s.resignFromEditingMode.2,
      resignFromEditingMode_idle hidle, ?_⟩
    intro keys
    simp only [TextInputOp.emit]
    rw [resignFromEditingMode_withKeys hidle]

/-- A press outside of the focus: the queues are empty, and start anew if they are used. -/
theorem onHandleKey_withKeys {s s' : TextInput} (hidle : s.isTextInputInFocus_ = false)
    {keys keys' : KeyQueue RnsKey} (hkeys : keys.inputQueue = []) (hkeys' : keys'.inputQueue = [])
    {eventKeyType : RnsKey} {keyRepeat : Bool} {keyAction : RnsKeyAction}
    (h : (TextInputOp.onHandleKey eventKeyType keyRepeat keyAction).emit (s.withKeys keys) =
      some (s', events)) :
    (TextInputOp.onHandleKey eventKeyType keyRepeat keyAction).emit (s.withKeys keys') =
        some (s', events) ∨
      s'.keys = keys ∧ s'.isTextInputInFocus_ = false ∧
        (TextInputOp.onHandleKey eventKeyType keyRepeat keyAction).emit (s.withKeys keys') =
          some (s'.withKeys keys', events) := by
  obtain ⟨entered, entering, hentered, hrequest⟩ :=
    emit_withKeys .requestForEditingMode hidle trivial
  have hrequest : ∀ keys, (s.withKeys keys).requestForEditingMode =
      (entered.withKeys keys, entering) := fun keys => Option.some.inj (hrequest keys)
  simp only [TextInputOp.emit, TextInput.onHandleKey, withKeys_editable_,
    withKeys_isInEditingMode_, withKeys_props, releaseStopsPropagation, hrequest] at h ⊢
  by_cases heditable : (!s.editable_) = true
  · rw [if_pos heditable] at h ⊢
    cases h
    exact .inr ⟨rfl, hidle, rfl⟩
  rw [if_neg heditable] at h ⊢
  by_cases hrelease : keyAction = .RNS_KEY_Release
  · rw [if_pos hrelease] at h ⊢
    cases h
    exact .inr ⟨rfl, hidle, rfl⟩
  rw [if_neg hrelease] at h ⊢
  by_cases hselect : s.isInEditingMode_ = false ∧ eventKeyType = .RNS_KEY_Select
  · rw [if_pos hselect] at h ⊢
    cases h
    exact .inr ⟨rfl, hentered, rfl⟩
  rw [if_neg hselect] at h ⊢
  by_cases hediting : s.isInEditingMode_ = true
  · rw [if_pos hediting] at h ⊢
    by_cases hvalue : s.props.value.isSome = true
    · rw [if_pos hvalue] at h ⊢
      have hsame := handleControlledKey_withKeys (s := s.withKeys keys) hidle
        (hkeys'.trans hkeys.symm) eventKeyType keyRepeat
      exact .inl (hsame ▸ h)
    · rw [if_neg hvalue] at h ⊢
      simp only [processEventKey, withKeys_displayString_] at h ⊢
      rw [processText_withKeys hidle] at h ⊢
      simp only [Option.map_map, Option.map_eq_some_iff] at h ⊢
      obtain ⟨result, hresult, heq⟩ := h
      cases heq
      have hidle' := processText_idle hidle hresult
      exact .inr ⟨rfl, hidle', result, hresult, rfl⟩
  · rw [if_neg hediting] at h ⊢
    cases h
    exact .inr ⟨rfl, hidle, rfl⟩

/-- The step of an input among the others is the step of the input alone. -/
theorem Alike.emit {keys : KeyQueue RnsKey} {input alone input' : TextInput}
    (h : Alike keys input alone)
    (htyping : input.isTextInputInFocus_ = true → input.isInEditingMode_ = true)
    (hqueue : input.isTextInputInFocus_ = false → ¬op.leavesQueue → keys.inputQueue = [])
    (hemit : op.emit (input.withKeys keys) = some (input', events)) :
    (∃ alone', op.emit alone = some (alone', events) ∧ Alike input'.keys input' alone') ∧
      (input.isTextInputInFocus_ = false → op.leavesQueue → input'.keys = keys) := by
  have hequal : (input.withKeys keys).Queues →
      ∀ {input' : TextInput}, op.emit (input.withKeys keys) = some (input', events) →
        Alike input'.keys input' input' := by
    intro hqueues input' hemit
    refine ⟨rfl, fun _ => rfl, ?_⟩
    intro hidle
    by_contra hne
    exact absurd ((Emits.emit hqueues hemit).queues.queued hne) (by simp [hidle])
  cases hidle : input.isTextInputInFocus_ with
  | true =>
    obtain rfl : alone = input.withKeys keys := by rw [h.same, h.queue hidle]
    refine ⟨⟨input', hemit, hequal ⟨htyping, fun _ => hidle⟩ hemit⟩, ?_⟩
    exact fun hfalse => nomatch hfalse
  | false =>
    have hempty := h.idle hidle
    have hwithKeys : alone = input.withKeys alone.keys := h.same
    by_cases hop : op.leavesQueue
    · obtain ⟨idle', sent, hidle', hsame⟩ := emit_withKeys op hidle hop
      rw [hsame keys] at hemit
      cases hemit
      refine ⟨⟨idle'.withKeys alone.keys, ?_, ⟨rfl, ?_, fun _ => hempty⟩⟩, fun _ _ => rfl⟩
      · rw [hwithKeys]
        exact hsame alone.keys
      · exact fun hfocus => absurd (hidle'.symm.trans hfocus) Bool.false_ne_true
    · have hkeys := hqueue hidle hop
      refine ⟨?_, fun _ h => absurd h hop⟩
      cases op with
      | onHandleKey eventKeyType keyRepeat keyAction =>
        cases onHandleKey_withKeys hidle hkeys hempty hemit with
        | inl hsame =>
          refine ⟨input', by rwa [hwithKeys], hequal ⟨htyping, ?_⟩ hemit⟩
          exact fun hne => absurd hkeys hne
        | inr hsame =>
          obtain ⟨-, hidle', hsame⟩ := hsame
          refine ⟨input'.withKeys alone.keys, by rw [hwithKeys]; exact hsame, rfl, ?_,
            fun _ => hempty⟩
          exact fun hfocus => absurd (hidle'.symm.trans hfocus) Bool.false_ne_true
      | processQueuedKey stop wait =>
        have hnone : ∀ t : TextInput, t.keys.inputQueue = [] →
            (TextInputOp.processQueuedKey stop wait).emit t = some (t, []) := by
          intro t ht
          simp [TextInputOp.emit, TextInput.processQueuedKey, KeyQueue.pop, ht]
        rw [hnone _ hkeys] at hemit
        cases hemit
        refine ⟨alone, hnone alone hempty, hwithKeys, ?_, fun _ => hempty⟩
        exact fun hfocus => absurd (hidle.symm.trans hfocus) Bool.false_ne_true
      | updateComponentProps | setTextAndSelection | requestForEditingMode
      | resignFromEditingMode => exact absurd trivial hop

end TextInput

namespace FocusFlow

variable {s s' : FocusFlow} {editor : Option LayerId} {component : LayerId}

/-! ## Runs -/

/-- The invariant: what has happened to an input is a run of the input alone. -/
structure Alone (s : FocusFlow) : Prop where
  run : ∀ c input, s.inputs c = some input → ∃ log : TextInputLog,
    Run textInputLogStep anyStep {} log ∧ TextInput.Alike s.keys input log.input ∧
      log.events = s.eventsOf c
  unmade : ∀ c, s.inputs c = none → s.eventsOf c = []

theorem eventsOf_put (c : LayerId) (result : TextInput × List TextInputEvent) :
    (s.put component result).eventsOf c =
      s.eventsOf c ++ if component = c then result.2 else [] := by
  unfold eventsOf put
  rw [List.filterMap_append, List.filterMap_map]
  congr 1
  by_cases hc : component = c
  · simp [hc]
  · simp [hc]

theorem Alone.put (hs : s.Alone) (hone : s.OneEditor editor) (op : TextInputOp)
    (hown : (editor = none ∨ editor = some component) ∨ op.leavesQueue)
    {input input' : TextInput} {events : List TextInputEvent}
    (hinput : s.input component = some input) (h : op.emit input = some (input', events)) :
    (s.put component (input', events)).Alone := by
  obtain ⟨stored, hstored, rfl⟩ := Option.map_eq_some_iff.mp hinput
  obtain ⟨log, hrun, halike, hevents⟩ := hs.run component stored hstored
  have htyping : stored.isTextInputInFocus_ = true → stored.isInEditingMode_ = true :=
    fun hfocus => (hone.editing component stored hstored).mpr
      (hone.typing component stored hstored hfocus)
  have hqueue : stored.isTextInputInFocus_ = false → ¬op.leavesQueue →
      s.keys.inputQueue = [] := by
    intro hidle hop
    by_contra hne
    obtain ⟨c, owner, hc, howner, hfocus⟩ := hone.queued hne
    cases hown.resolve_right hop with
    | inl hnone => exact nomatch hnone.symm.trans hc
    | inr hsome =>
      obtain rfl : component = c := Option.some.inj (hsome.symm.trans hc)
      obtain rfl : stored = owner := Option.some.inj (hstored.symm.trans howner)
      exact absurd (hidle.symm.trans hfocus) Bool.false_ne_true
  obtain ⟨⟨alone', halone', halike'⟩, hleaves⟩ := halike.emit htyping hqueue h
  -- whoever else is in focus finds the queue as it was
  have hother : ∀ c ≠ component, ∀ t, s.inputs c = some t → t.isTextInputInFocus_ = true →
      input'.keys = s.keys := by
    intro c hc t ht hfocus
    have heditor := hone.typing c t ht hfocus
    have hidle : stored.isTextInputInFocus_ = false := by
      cases hidle : stored.isTextInputInFocus_ with
      | false => rfl
      | true =>
        have hsame := hone.typing component stored hstored hidle
        exact absurd (Option.some.inj (heditor.symm.trans hsame)) hc
    cases hown with
    | inl hown =>
      cases hown with
      | inl hnone => exact nomatch hnone.symm.trans heditor
      | inr hsome => exact absurd (Option.some.inj (heditor.symm.trans hsome)) hc
    | inr hop => exact hleaves hidle hop
  refine ⟨?_, ?_⟩
  · intro c t ht
    by_cases hc : c = component
    · subst hc
      obtain rfl : input' = t := by simpa [FocusFlow.put] using ht
      refine ⟨{ input := alone', events := log.events ++ events }, ?_, halike', ?_⟩
      · refine hrun.tail (a := op) trivial ?_
        unfold textInputLogStep TextInputLog.exec
        rw [halone']
        rfl
      · rw [eventsOf_put, if_pos rfl, hevents]
    · have hold : s.inputs c = some t := by simpa [FocusFlow.put, hc] using ht
      obtain ⟨log', hrun', halike', hevents'⟩ := hs.run c t hold
      refine ⟨log', hrun', ⟨halike'.same, ?_, halike'.idle⟩, ?_⟩
      · intro hfocus
        exact (halike'.queue hfocus).trans (hother c hc t hold hfocus).symm
      · rw [eventsOf_put, if_neg (Ne.symm hc), List.append_nil, hevents']
  · intro c hnone
    by_cases hc : c = component
    · subst hc
      simp [FocusFlow.put] at hnone
    · have hold : s.inputs c = none := by simpa [FocusFlow.put, hc] using hnone
      rw [eventsOf_put, if_neg (Ne.symm hc), List.append_nil, hs.unmade c hold]

/-- The notifications of the navigator are no events of the inputs. -/
theorem Alone.emit (hs : s.Alone) (event : FocusEvent) (hevent : ∀ c e, event ≠ .textInput c e)
    (currentFocus_ : Option LayerId) :
    ({ s.emit event with currentFocus_ := currentFocus_ } : FocusFlow).Alone := by
  have hevents : ∀ c, ({ s.emit event with currentFocus_ := currentFocus_ } :
      FocusFlow).eventsOf c = s.eventsOf c := by
    intro c
    cases event with
    | blur | focus => simp [eventsOf, FocusFlow.emit]
    | textInput sender e => exact absurd rfl (hevent sender e)
  refine ⟨?_, ?_⟩
  · intro c input hinput
    rw [hevents]
    exact hs.run c input hinput
  · intro c hnone
    rw [hevents]
    exact hs.unmade c hnone

theorem Alone.handle (hs : s.Alone) (hone : s.OneEditor editor) (op : TextInputOp)
    (hown : (editor = none ∨ editor = some component) ∨ op.leavesQueue)
    (h : s.handle component op = some s') : s'.Alone := by
  unfold FocusFlow.handle at h
  split at h
  · cases h
    exact hs
  · rename_i input hinput
    obtain ⟨⟨input', events⟩, hemit, rfl⟩ := Option.map_eq_some_iff.mp h
    exact hs.put hone op hown hinput hemit

theorem Alone.onHandleBlur (hs : s.Alone) (hone : s.OneEditor editor) (component : LayerId) :
    (s.onHandleBlur component).Alone := by
  unfold FocusFlow.onHandleBlur
  split
  · exact hs
  · rename_i input hinput
    exact hs.put hone .resignFromEditingMode (.inr trivial) hinput rfl

theorem Alone.moveFocus (hs : s.Alone) (hsingle : s.Single) (focusCandidate : LayerId) :
    (s.moveFocus focusCandidate).Alone := by
  unfold FocusFlow.moveFocus
  split
  · exact hs
  obtain ⟨editor, hone, -⟩ := hsingle
  cases hcurrent : s.currentFocus_ with
  | none => exact hs.emit _ (by simp) _
  | some currentFocus =>
    have hblurred := hs.emit (.blur currentFocus) (by simp) none
    have hresigned := hblurred.onHandleBlur (hone.blur hcurrent) currentFocus
    rw [← onHandleBlur_unfocused] at hresigned
    exact hresigned.emit (.focus focusCandidate) (by simp) (some focusCandidate)

theorem Alone.requestForEditingMode (hs : s.Alone) (hsingle : s.Single) (component : LayerId) :
    (s.requestForEditingMode component).Alone := by
  unfold FocusFlow.requestForEditingMode
  split
  · exact hs
  split
  · exact hs
  have hmoved := hs.moveFocus hsingle component
  obtain ⟨editor, hone, -⟩ := (hsingle.moveFocus component).1
  dsimp only
  split
  · exact hmoved
  · rename_i input hinput
    exact hmoved.put hone .requestForEditingMode (.inr trivial) hinput rfl

theorem Alone.updateFocusCandidate (hs : s.Alone) (hsingle : s.Single)
    (focusCandidate : LayerId) (needScroll : Bool) :
    (s.updateFocusCandidate focusCandidate needScroll).Alone := by
  have hmoved := hs.moveFocus hsingle focusCandidate
  unfold FocusFlow.updateFocusCandidate
  split
  · exact hs
  split
  · exact hmoved.requestForEditingMode (hsingle.moveFocus focusCandidate).1 focusCandidate
  · exact hmoved

theorem Alone.updateSpatialNavigatorState (hs : s.Alone) (operation : NavigatorStateOperation)
    (candidate : LayerId) : (s.updateSpatialNavigatorState operation candidate).Alone := by
  have hremoved := hs.emit (.blur candidate) (by simp) none
  unfold FocusFlow.updateSpatialNavigatorState
  split
  · exact hs
  · split
    · exact hremoved
    · exact hs
  · split
    · exact hremoved
    · exact hs

theorem Alone.processKey (hs : s.Alone) (hsingle : s.Single) {eventKeyType : RnsKey}
    {keyRepeat : Bool} {keyAction : RnsKeyAction} {target : Option LayerId}
    (h : s.processKey eventKeyType keyRepeat keyAction target = some s') : s'.Alone := by
  unfold FocusFlow.processKey at h
  obtain ⟨⟨handled, stopPropagate⟩, hhandled, h⟩ := Option.bind_eq_some_iff.mp h
  have hsingle' := hsingle.sendToFocused hhandled
  have hs' : handled.Alone := by
    obtain ⟨editor, hone, hfocus⟩ := hsingle
    unfold FocusFlow.sendToFocused at hhandled
    split at hhandled
    · cases hhandled
      exact hs
    rename_i currentFocused hcurrent
    unfold FocusFlow.onHandleKey at hhandled
    split at hhandled
    · cases hhandled
      exact hs
    · rename_i input hinput
      obtain ⟨result, hresult, heq⟩ := Option.map_eq_some_iff.mp hhandled
      cases heq
      refine hs.put hone (.onHandleKey eventKeyType keyRepeat keyAction)
        (.inl (hcurrent ▸ hfocus)) hinput ?_
      rw [TextInputOp.emit, hresult]
      rfl
  dsimp only at h
  split at h
  · split at h
    · cases h
      exact hs'
    · cases h
      exact hs'.updateFocusCandidate hsingle' _ false
  · cases h
    exact hs'

theorem Alone.construct (hs : s.Alone) (hsingle : s.Single)
    (hburst : s.isTextInputInFocus = true → s.keys.isKeyRepeateOn = false)
    (h : s.construct component = some s') : s'.Alone := by
  obtain ⟨editor, hone, hfocus⟩ := hsingle
  unfold FocusFlow.construct at h
  split at h
  · cases h
  rename_i hnew
  cases h
  -- an input in focus finds the flag as the constructor leaves it
  have hkeys : ∀ c input, s.inputs c = some input → input.isTextInputInFocus_ = true →
      ({ s.keys with isKeyRepeateOn := false } : KeyQueue RnsKey) = s.keys := by
    intro c input hinput htyping
    have heditor := hone.typing c input hinput htyping
    have hcurrent : s.currentFocus_ = some c := by
      cases hfocus with
      | inl hnone => exact nomatch hnone.symm.trans heditor
      | inr hsome => exact hsome.symm.trans heditor
    have hoff := hburst (by simp [isTextInputInFocus, hcurrent, hinput, htyping])
    rw [← hoff]
  refine ⟨?_, ?_⟩
  · intro c input hinput
    by_cases hc : c = component
    · subst hc
      obtain rfl : ({} : TextInput) = input := by simpa using hinput
      refine ⟨{}, .refl _, ⟨rfl, ?_, fun _ => rfl⟩, (hs.unmade c hnew).symm⟩
      exact fun htyping => absurd htyping Bool.false_ne_true
    · have hold : s.inputs c = some input := by simpa [hc] using hinput
      obtain ⟨log, hrun, halike, hevents⟩ := hs.run c input hold
      refine ⟨log, hrun, ⟨halike.same, ?_, halike.idle⟩, hevents⟩
      intro htyping
      exact (halike.queue htyping).trans (hkeys c input hold htyping).symm
  · intro c hnone
    by_cases hc : c = component
    · subst hc
      simp at hnone
    · exact hs.unmade c (by simpa [hc] using hnone)

theorem Alone.step (hs : s.Alone) (hsingle : s.Single) {op : FocusOp} (hkeeps : KeepsBurst s op)
    (hstep : focusStep s op s') : s'.Alone := by
  unfold focusStep at hstep
  cases op with
  | construct component => exact hs.construct hsingle (hkeeps.2 rfl) hstep
  | updateFocusCandidate focusCandidate needScroll =>
    cases hstep
    exact hs.updateFocusCandidate hsingle focusCandidate needScroll
  | updateSpatialNavigatorState operation candidate =>
    cases hstep
    exact hs.updateSpatialNavigatorState operation candidate
  | processKey eventKeyType keyRepeat keyAction target => exact hs.processKey hsingle hstep
  | processQueuedKey component stop wait =>
    simp only [exec, FocusFlow.processQueuedKey] at hstep
    split at hstep
    · cases hstep
    rename_i input hinput
    split at hstep
    · rename_i htyping
      obtain ⟨editor, hone, -⟩ := hsingle
      obtain ⟨stored, hstored, rfl⟩ := Option.map_eq_some_iff.mp hinput
      exact hs.handle hone (.processQueuedKey stop wait)
        (.inl (.inr (hone.typing component stored hstored htyping))) hstep
    · cases hstep
  | updateComponentProps component props forceUpdate =>
    obtain ⟨editor, hone, -⟩ := hsingle
    exact hs.handle hone (.updateComponentProps props forceUpdate) (.inr trivial) hstep
  | setTextAndSelection component text =>
    obtain ⟨editor, hone, -⟩ := hsingle
    exact hs.handle hone (.setTextAndSelection text) (.inr trivial) hstep
  | requestForEditingMode component =>
    cases hstep
    exact hs.requestForEditingMode hsingle component
  | resignFromEditingMode component =>
    cases hstep
    obtain ⟨editor, hone, -⟩ := hsingle
    exact hs.onHandleBlur hone component

end FocusFlow

end ReactNativeSkia
