import ReactNativeSkia.Components.TextInputEvents
import ReactNativeSkia.Misc.Run
import Mathlib.Data.List.Basic

/-!
# The events of a text input come in order

Each operation takes a session at rest to a session at rest, and counts the changes on. The queue
of a controlled input is empty outside of the sessions, so the thread has no key to report there.
-/

namespace ReactNativeSkia

open EditingPhase

namespace TextInput

/-- The thread finds keys only while the input is in focus, and so in editing mode. -/
structure Queues (s : TextInput) : Prop where
  typing : s.isTextInputInFocus_ = true → s.isInEditingMode_ = true
  queued : s.keys.inputQueue ≠ [] → s.isTextInputInFocus_ = true

/-- What the events of an operation do to a session at rest and to the count. -/
structure Emits (s s' : TextInput) (events : List TextInputEvent) : Prop where
  queues : s'.Queues
  phase : ∀ q, Rests s.isInEditingMode_ q →
    ∃ q', events.foldlM next q = some q' ∧ Rests s'.isInEditingMode_ q'
  count : s.eventCount_ ≤ s'.eventCount_
  changes : (events.filterMap TextInputEvent.changeCount).Pairwise (· < ·)
  fresh : ∀ n ∈ events.filterMap TextInputEvent.changeCount,
    s.eventCount_ < n ∧ n ≤ s'.eventCount_

variable {s s' : TextInput}

/-- An operation without events that stays in its mode. -/
theorem Emits.quiet (hqueues : s'.Queues) (hmode : s'.isInEditingMode_ = s.isInEditingMode_)
    (hcount : s'.eventCount_ = s.eventCount_) : s.Emits s' [] where
  queues := hqueues
  phase q hq := ⟨q, rfl, by rwa [hmode]⟩
  count := Int.le_of_eq hcount.symm
  changes := List.Pairwise.nil
  fresh _ hn := absurd hn List.not_mem_nil

theorem Queues.congr (hs : s.Queues) (hkeys : s'.keys = s.keys)
    (hmode : s'.isInEditingMode_ = s.isInEditingMode_)
    (hfocus : s'.isTextInputInFocus_ = s.isTextInputInFocus_) : s'.Queues := by
  refine ⟨?_, ?_⟩
  · rw [hmode, hfocus]
    exact hs.typing
  · rw [hkeys, hfocus]
    exact hs.queued

/-! ## Entering and leaving editing mode -/

theorem Emits.requestForEditingMode (hs : s.Queues) :
    s.Emits s.requestForEditingMode.1 s.requestForEditingMode.2 := by
  unfold TextInput.requestForEditingMode
  split
  · exact .quiet hs rfl rfl
  · rename_i hmode
    refine ⟨?_, ?_, ?_, ?_, ?_⟩
    · dsimp only
      split
      · exact ⟨fun _ => rfl, hs.queued⟩
      · exact ⟨fun _ => rfl, hs.queued⟩
    · intro q hq
      cases q with
      | blurred => exact ⟨.focused, rfl, by dsimp only; split <;> rfl⟩
      | focused | pressed => exact absurd hq hmode
      | changed | resized | submitted | ended => exact hq.elim
    · dsimp only
      split <;> exact Int.le_refl _
    · exact List.Pairwise.nil
    · exact fun _ hn => absurd hn List.not_mem_nil

/-- Whoever leaves editing mode leaves no key behind. -/
theorem resignFromEditingMode_spec (hs : s.Queues) :
    s.resignFromEditingMode.1.Queues ∧
      s.resignFromEditingMode.1.isInEditingMode_ = false ∧
      s.resignFromEditingMode.1.eventCount_ = s.eventCount_ := by
  unfold TextInput.resignFromEditingMode
  split
  · rename_i hmode
    exact ⟨hs, by simpa using hmode, rfl⟩
  · dsimp only
    split
    · refine ⟨⟨?_, fun hne => absurd rfl hne⟩, rfl, rfl⟩
      exact fun hfocus => absurd hfocus Bool.false_ne_true
    · rename_i hfocus
      exact ⟨⟨fun h => absurd h hfocus, hs.queued⟩, rfl, rfl⟩

theorem Emits.resignFromEditingMode (hs : s.Queues) :
    s.Emits s.resignFromEditingMode.1 s.resignFromEditingMode.2 := by
  obtain ⟨hqueues, hmode, hcount⟩ := resignFromEditingMode_spec hs
  refine ⟨hqueues, ?_, Int.le_of_eq hcount.symm, ?_, ?_⟩
  · intro q hq
    rw [hmode]
    unfold TextInput.resignFromEditingMode
    split
    · rename_i hedit
      have hfalse : s.isInEditingMode_ = false := by simpa using hedit
      rw [hfalse] at hq
      exact ⟨q, rfl, hq⟩
    · rename_i hedit
      have htrue : s.isInEditingMode_ = true := by simpa using hedit
      cases q with
      | blurred => exact absurd (htrue.symm.trans hq) (by decide)
      | focused | pressed => exact ⟨.blurred, rfl, rfl⟩
      | changed | resized | submitted | ended => exact hq.elim
  · unfold TextInput.resignFromEditingMode
    split <;> exact List.Pairwise.nil
  · unfold TextInput.resignFromEditingMode
    split <;> exact fun _ hn => absurd hn List.not_mem_nil

/-- The mode and the count are what matters of the state before. -/
theorem Emits.of_eq {t : TextInput} {events : List TextInputEvent} (h : t.Emits s' events)
    (hmode : t.isInEditingMode_ = s.isInEditingMode_) (hcount : s.eventCount_ ≤ t.eventCount_) :
    s.Emits s' events := by
  refine ⟨h.queues, ?_, Int.le_trans hcount h.count, h.changes, ?_⟩
  · rw [← hmode]
    exact h.phase
  · intro n hn
    have hn := h.fresh n hn
    exact ⟨Int.lt_of_le_of_lt hcount hn.1, hn.2⟩

/-! ## Keys -/

/-- The metrics that follow an edit carry the next count. -/
theorem finishEdit_events (eventKeyType : RnsKey) (textString : List Char) (length : Nat)
    (wait updateString : Bool) :
    (s.finishEdit eventKeyType textString length wait updateString).events =
      .onKeyPress (RNSKeyMap eventKeyType) none ::
        if s.maxLength_ ≠ 0 ∧ (textString.length : Int) > s.maxLength_ then []
        else
          let metrics : TextInputMetrics :=
            { text := textString
              selectionLocation := s.cursor_.end_ - s.cursor_.locationFromEnd
              eventCount := s.eventCount_ + 1 }
          [.onChange metrics, .onContentSizeChange metrics, .onSelectionChange metrics] := by
  cases updateString with
  | false => rfl
  | true => rfl

theorem Emits.finishEdit (hs : s.Queues) (hmode : s.isInEditingMode_ = true)
    (eventKeyType : RnsKey) (textString : List Char) (length : Nat) (wait updateString : Bool) :
    s.Emits (s.finishEdit eventKeyType textString length wait updateString).input
      (s.finishEdit eventKeyType textString length wait updateString).events := by
  have hinput : ∀ updateString,
      (s.finishEdit eventKeyType textString length wait updateString).input.keys = s.keys ∧
      (s.finishEdit eventKeyType textString length wait updateString).input.isInEditingMode_ =
        s.isInEditingMode_ ∧
      (s.finishEdit eventKeyType textString length wait updateString).input.isTextInputInFocus_ =
        s.isTextInputInFocus_ ∧
      (s.finishEdit eventKeyType textString length wait updateString).input.eventCount_ =
        s.eventCount_ + 1 := by
    intro updateString
    cases updateString with
    | true => exact ⟨rfl, rfl, rfl, rfl⟩
    | false => exact ⟨rfl, rfl, rfl, rfl⟩
  obtain ⟨hkeys, hmode', hfocus, hcount⟩ := hinput updateString
  refine ⟨hs.congr hkeys hmode' hfocus, ?_, by omega, ?_, ?_⟩
  · intro q hq
    rw [hmode', hmode]
    rw [hmode] at hq
    rw [finishEdit_events]
    cases q with
    | blurred => cases hq
    | focused | pressed =>
      split
      · exact ⟨.pressed, rfl, rfl⟩
      · exact ⟨.focused, rfl, rfl⟩
    | changed | resized | submitted | ended => exact hq.elim
  · rw [finishEdit_events]
    split
    · exact List.Pairwise.nil
    · exact List.pairwise_singleton _ _
  · intro n hn
    -- the one change has the new count
    have hnew : n = s.eventCount_ + 1 := by
      rw [finishEdit_events] at hn
      split at hn
      · exact absurd hn List.not_mem_nil
      · exact List.mem_singleton.mp hn
    omega

theorem Emits.moveCursor (hs : s.Queues) (hmode : s.isInEditingMode_ = true)
    (eventKeyType : RnsKey) :
    s.Emits (s.moveCursor eventKeyType).input (s.moveCursor eventKeyType).events := by
  have hstays : s.Emits s [.onKeyPress (RNSKeyMap eventKeyType) (some s.eventCount_)] := by
    refine ⟨hs, ?_, Int.le_refl _, List.Pairwise.nil, fun _ hn => absurd hn List.not_mem_nil⟩
    intro q hq
    rw [hmode] at hq ⊢
    cases q with
    | blurred => cases hq
    | focused | pressed => exact ⟨.pressed, rfl, rfl⟩
    | changed | resized | submitted | ended => exact hq.elim
  have hmoved : ∀ locationFromEnd, s.Emits (s.withLocationFromEnd locationFromEnd)
      [.onKeyPress (RNSKeyMap eventKeyType) (some s.eventCount_),
        .onSelectionChange { selectionLocation := s.cursor_.end_ - locationFromEnd }] := by
    intro locationFromEnd
    refine ⟨hs.congr rfl rfl rfl, ?_, Int.le_refl _, List.Pairwise.nil,
      fun _ hn => absurd hn List.not_mem_nil⟩
    intro q hq
    rw [withLocationFromEnd_isInEditingMode_, hmode]
    rw [hmode] at hq
    cases q with
    | blurred => cases hq
    | focused | pressed => exact ⟨.focused, rfl, rfl⟩
    | changed | resized | submitted | ended => exact hq.elim
  unfold TextInput.moveCursor
  dsimp only
  split
  · split
    · exact hmoved _
    · exact hstays
  · split
    · exact hmoved _
    · exact hstays

/-- A key that is processed in editing mode. -/
theorem Emits.processText (hs : s.Queues) (hmode : s.isInEditingMode_ = true)
    {textString : List Char} {eventKeyType : RnsKey} {stop wait updateString : Bool}
    {result : KeyResult}
    (h : s.processText textString eventKeyType stop wait updateString = some result) :
    s.Emits result.input result.events := by
  have hedit : ∀ (n : Int) (edited : List Char) (length : Nat),
      s.Emits ((s.withEnd n).finishEdit eventKeyType edited length wait updateString).input
        ((s.withEnd n).finishEdit eventKeyType edited length wait updateString).events := by
    intro n edited length
    have hend : (s.withEnd n).Queues := hs.congr rfl rfl rfl
    exact (Emits.finishEdit hend hmode eventKeyType edited length wait updateString).of_eq rfl
      (Int.le_refl _)
  unfold TextInput.processText at h
  split at h
  · obtain ⟨edited, -, h⟩ := Option.bind_eq_some_iff.mp h
    cases h
    exact hedit _ _ _
  split at h
  · cases h
    exact .moveCursor hs hmode eventKeyType
  split at h
  · cases h
    exact .quiet hs rfl rfl
  split at h
  · split at h
    · obtain ⟨edited, -, h⟩ := Option.bind_eq_some_iff.mp h
      cases h
      exact hedit _ _ _
    · cases h
      exact .finishEdit hs hmode eventKeyType textString _ false updateString
  split at h
  · cases h
    have hcounted : ({ s with eventCount_ := s.eventCount_ + 1 } : TextInput).Queues :=
      hs.congr rfl rfl rfl
    exact (Emits.resignFromEditingMode hcounted).of_eq rfl (by dsimp only; omega)
  split at h
  · cases h
    exact .quiet hs rfl rfl
  · cases h
    exact .quiet hs rfl rfl

/-- A press in a controlled input that is in editing mode. -/
theorem Emits.handleControlledKey (hmode : s.isInEditingMode_ = true) {eventKeyType : RnsKey}
    {keyRepeat : Bool} {result : KeyResult}
    (h : s.handleControlledKey eventKeyType keyRepeat = some result) :
    s.Emits result.input result.events := by
  have hfocus : s.takeFocus.1.isTextInputInFocus_ = true ∧
      s.takeFocus.1.isInEditingMode_ = true ∧ s.takeFocus.1.eventCount_ = s.eventCount_ := by
    unfold TextInput.takeFocus
    split
    · rename_i hfocus
      exact ⟨hfocus, hmode, rfl⟩
    · exact ⟨rfl, hmode, rfl⟩
  obtain ⟨hfocus, hfocusMode, hcount⟩ := hfocus
  have hqueues : ∀ keys, (s.takeFocus.1.withKeys keys).Queues :=
    fun keys => ⟨fun _ => hfocusMode, fun _ => hfocus⟩
  have hquiet : ∀ keys, s.Emits (s.takeFocus.1.withKeys keys) [] :=
    fun keys => .quiet (hqueues keys) (hfocusMode.trans hmode.symm) hcount
  unfold TextInput.handleControlledKey at h
  obtain ⟨⟨keys, burstEnds⟩, -, h⟩ := Option.bind_eq_some_iff.mp h
  dsimp only at h
  split at h
  · cases h
    exact hquiet keys
  split at h
  · cases h
    exact hquiet _
  split at h
  · cases h
    have hcleared : ∀ t : TextInput, ({ t with isTextInputInFocus_ := false
                                               keys := t.keys.clear
                                               eventCount_ := t.eventCount_ + 1 } :
        TextInput).Queues := fun _ =>
      ⟨fun hfocus => absurd hfocus Bool.false_ne_true, fun hne => absurd rfl hne⟩
    have hcounted : s.eventCount_ ≤ (s.takeFocus.1.withKeys keys).eventCount_ + 1 := by
      rw [withKeys_eventCount_, hcount]
      omega
    exact (Emits.resignFromEditingMode (hcleared _)).of_eq (hfocusMode.trans hmode.symm) hcounted
  · cases h
    exact hquiet keys

theorem Emits.onHandleKey (hs : s.Queues) {eventKeyType : RnsKey} {keyRepeat : Bool}
    {keyAction : RnsKeyAction} {result : KeyResult}
    (h : s.onHandleKey eventKeyType keyRepeat keyAction = some result) :
    s.Emits result.input result.events := by
  unfold TextInput.onHandleKey at h
  split at h
  · cases h
    exact .quiet hs rfl rfl
  split at h
  · cases h
    exact .quiet hs rfl rfl
  split at h
  · cases h
    exact .requestForEditingMode hs
  split at h
  · rename_i hmode
    split at h
    · exact .handleControlledKey hmode h
    · exact .processText hs hmode h
  · cases h
    exact .quiet hs rfl rfl

/-! ## Runs -/

/-- An update of the props leaves alone what the events depend on. -/
theorem updateComponentProps_keeps (s : TextInput) (props : TextInputProps) (forceUpdate : Bool) :
    (s.updateComponentProps props forceUpdate).keys = s.keys ∧
      (s.updateComponentProps props forceUpdate).isInEditingMode_ = s.isInEditingMode_ ∧
      (s.updateComponentProps props forceUpdate).isTextInputInFocus_ = s.isTextInputInFocus_ ∧
      (s.updateComponentProps props forceUpdate).eventCount_ = s.eventCount_ := by
  have hreplaces : ({ s with maxLength_ := props.maxLength } : TextInput).replacesText props
      forceUpdate = s.replacesText props forceUpdate := rfl
  unfold TextInput.updateComponentProps TextInput.updateText
  simp only [hreplaces]
  cases s.replacesText props forceUpdate with
  | false => exact ⟨rfl, rfl, rfl, rfl⟩
  | true =>
    simp only [if_true, TextInput.postUpdate]
    split
    · exact ⟨rfl, rfl, rfl, rfl⟩
    · exact ⟨rfl, rfl, rfl, rfl⟩

theorem Emits.emit (hs : s.Queues) {op : TextInputOp} {events : List TextInputEvent}
    (h : op.emit s = some (s', events)) : s.Emits s' events := by
  cases op with
  | onHandleKey eventKeyType keyRepeat keyAction =>
    obtain ⟨result, hresult, heq⟩ := Option.map_eq_some_iff.mp h
    cases heq
    exact .onHandleKey hs hresult
  | processQueuedKey stop wait =>
    obtain ⟨result, hresult, heq⟩ := Option.map_eq_some_iff.mp h
    unfold TextInput.processQueuedKey at hresult
    cases hkeys : s.keys.inputQueue with
    | nil =>
      simp only [KeyQueue.pop, hkeys, Option.some.injEq] at hresult
      subst hresult
      cases heq
      exact .quiet hs rfl rfl
    | cons key inputQueue =>
      simp only [KeyQueue.pop, hkeys] at hresult
      obtain ⟨processed, hprocessed, rfl⟩ := Option.map_eq_some_iff.mp hresult
      cases heq
      have hfocus : s.isTextInputInFocus_ = true := hs.queued (by simp [hkeys])
      have hediting := hs.typing hfocus
      have hpopped : (s.withKeys { s.keys with
          inputQueue := inputQueue
          keyRepeateStartIndex := s.keys.keyRepeateStartIndex - 1 }).Queues :=
        ⟨hs.typing, fun _ => hfocus⟩
      exact (Emits.processText hpopped hediting hprocessed).of_eq rfl (Int.le_refl _)
  | updateComponentProps props forceUpdate =>
    cases h
    obtain ⟨hkeys, hmode, hfocus, hcount⟩ := updateComponentProps_keeps s props forceUpdate
    exact .quiet (hs.congr hkeys hmode hfocus) hmode hcount
  | setTextAndSelection text =>
    cases h
    unfold TextInput.setTextAndSelection TextInput.postUpdate
    split
    · exact .quiet (hs.congr rfl rfl rfl) rfl rfl
    · exact .quiet (hs.congr rfl rfl rfl) rfl rfl
  | requestForEditingMode =>
    have heq : s.requestForEditingMode = (s', events) := Option.some.inj h
    simpa only [heq] using Emits.requestForEditingMode hs
  | resignFromEditingMode =>
    have heq : s.resignFromEditingMode = (s', events) := Option.some.inj h
    simpa only [heq] using Emits.resignFromEditingMode hs

end TextInput

namespace TextInputLog

open TextInput

variable {s s' : TextInputLog}

/-- The operations do to the input what they do without the log. -/
theorem exec_input (s : TextInputLog) (op : TextInputOp) :
    (s.exec op).map TextInputLog.input = op.exec s.input := by
  cases op with
  | onHandleKey eventKeyType keyRepeat keyAction =>
    simp [exec, TextInputOp.emit, TextInputOp.exec, Function.comp_def]
  | processQueuedKey stop wait =>
    simp only [exec, TextInputOp.emit, TextInputOp.exec, Option.map_map]
    congr 1
    funext result
    cases result <;> rfl
  | updateComponentProps props forceUpdate => rfl
  | setTextAndSelection text => rfl
  | requestForEditingMode => rfl
  | resignFromEditingMode => rfl

/-- The invariant: the log ends at rest, and its changes are numbered upwards. -/
structure InOrder (s : TextInputLog) : Prop where
  queues : s.input.Queues
  phase : ∃ q, s.events.foldlM EditingPhase.next .blurred = some q ∧
    EditingPhase.Rests s.input.isInEditingMode_ q
  changes : (s.events.filterMap TextInputEvent.changeCount).Pairwise (· < ·)
  counted : ∀ n ∈ s.events.filterMap TextInputEvent.changeCount, n ≤ s.input.eventCount_

theorem InOrder.step (hs : s.InOrder) {op : TextInputOp} (hstep : textInputLogStep s op s') :
    s'.InOrder := by
  obtain ⟨⟨input, events⟩, hemit, rfl⟩ := Option.map_eq_some_iff.mp hstep
  have h := Emits.emit hs.queues hemit
  obtain ⟨q, hq, hrests⟩ := hs.phase
  obtain ⟨q', hq', hrests'⟩ := h.phase q hrests
  refine ⟨h.queues, ⟨q', ?_, hrests'⟩, ?_, ?_⟩
  · rw [List.foldlM_append, hq]
    exact hq'
  · rw [List.filterMap_append, List.pairwise_append]
    refine ⟨hs.changes, h.changes, ?_⟩
    intro n hn n' hn'
    exact Int.lt_of_le_of_lt (hs.counted n hn) (h.fresh n' hn').1
  · intro n hn
    rw [List.filterMap_append, List.mem_append] at hn
    cases hn with
    | inl hold => exact Int.le_trans (hs.counted n hold) h.count
    | inr hnew => exact (h.fresh n hnew).2

end TextInputLog

end ReactNativeSkia
