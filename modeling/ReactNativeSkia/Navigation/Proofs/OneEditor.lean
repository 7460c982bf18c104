import ReactNativeSkia.Components.Proofs.EventOrder
import ReactNativeSkia.Navigation.FocusFlow

/-!
# One editor at a time

A text input in editing mode is the current focus, and the keys in the queue are its own. What is
sent shows it: a session opens in the focus and is over before the focus is another's.
-/

namespace ReactNativeSkia

/-- The input that a phase leaves in editing mode. -/
def EditingPhase.editor (component : LayerId) : EditingPhase → Option LayerId
  | .blurred => none
  | _ => some component

/-- The order within an input is an order among all of them. -/
theorem FocusEvent.next_phase {component : LayerId} {current : Option LayerId}
    {q q' : EditingPhase} {event : TextInputEvent} (h : q.next event = some q')
    (hcurrent : q = .blurred → current = some component) :
    FocusEvent.next (current, q.editor component) (.textInput component event) =
      some (current, q'.editor component) := by
  unfold EditingPhase.next at h
  split at h
  all_goals cases h
  · simp [FocusEvent.next, EditingPhase.editor, hcurrent rfl]
  all_goals simp [FocusEvent.next, EditingPhase.editor]

theorem FocusEvent.foldlM_phase {component : LayerId} {q q' : EditingPhase}
    {events : List TextInputEvent} (h : events.foldlM EditingPhase.next q = some q') :
    (events.map (FocusEvent.textInput component)).foldlM FocusEvent.next
      (some component, q.editor component) = some (some component, q'.editor component) := by
  induction events generalizing q with
  | nil =>
    cases h
    rfl
  | cons event events ih =>
    rw [List.foldlM_cons] at h
    obtain ⟨q₁, hq₁, h⟩ := Option.bind_eq_some_iff.mp h
    rw [List.map_cons, List.foldlM_cons, FocusEvent.next_phase hq₁ fun _ => rfl]
    exact ih h

namespace FocusFlow

variable {s s' : FocusFlow} {editor : Option LayerId} {component : LayerId}

/-- The invariant: `editor` is the one input in editing mode, and owns the queue. -/
structure OneEditor (s : FocusFlow) (editor : Option LayerId) : Prop where
  events : s.events.foldlM FocusEvent.next (none, none) = some (s.currentFocus_, editor)
  editing : ∀ c input, s.inputs c = some input →
    (input.isInEditingMode_ = true ↔ editor = some c)
  made : ∀ c, editor = some c → ∃ input, s.inputs c = some input
  typing : ∀ c input, s.inputs c = some input → input.isTextInputInFocus_ = true →
    editor = some c
  queued : s.keys.inputQueue ≠ [] → ∃ c input, editor = some c ∧ s.inputs c = some input ∧
    input.isTextInputInFocus_ = true

theorem OneEditor.queues (hs : s.OneEditor editor) {input : TextInput}
    (hinput : s.input component = some input) (hown : editor = none ∨ editor = some component) :
    input.Queues := by
  obtain ⟨stored, hstored, rfl⟩ := Option.map_eq_some_iff.mp hinput
  refine ⟨?_, ?_⟩
  · intro hfocus
    exact (hs.editing component stored hstored).mpr (hs.typing component stored hstored hfocus)
  · intro hne
    obtain ⟨c, owner, hc, howner, hfocus⟩ := hs.queued hne
    cases hown with
    | inl hnone => exact nomatch hnone.symm.trans hc
    | inr hsome =>
      obtain rfl : component = c := Option.some.inj (hsome.symm.trans hc)
      obtain rfl : stored = owner := Option.some.inj (hstored.symm.trans howner)
      exact hfocus

/-- An operation without events that leaves the mode and the queue alone. -/
theorem OneEditor.put_quiet (hs : s.OneEditor editor) {input input' : TextInput}
    (hinput : s.input component = some input) (hkeys : input'.keys = input.keys)
    (hmode : input'.isInEditingMode_ = input.isInEditingMode_)
    (hfocus : input'.isTextInputInFocus_ = input.isTextInputInFocus_) :
    (s.put component (input', [])).OneEditor editor := by
  obtain ⟨stored, hstored, rfl⟩ := Option.map_eq_some_iff.mp hinput
  refine ⟨?_, ?_, ?_, ?_, ?_⟩
  · simpa [put] using hs.events
  · intro c t ht
    by_cases hc : c = component
    · subst hc
      obtain rfl : input' = t := by simpa [put] using ht
      rw [hmode]
      exact hs.editing c stored hstored
    · exact hs.editing c t (by simpa [put, hc] using ht)
  · intro c heditor
    by_cases hc : c = component
    · subst hc
      exact ⟨input', by simp [put]⟩
    · obtain ⟨t, ht⟩ := hs.made c heditor
      exact ⟨t, by simpa [put, hc] using ht⟩
  · intro c t ht htyping
    by_cases hc : c = component
    · subst hc
      obtain rfl : input' = t := by simpa [put] using ht
      exact hs.typing c stored hstored (hfocus ▸ htyping)
    · exact hs.typing c t (by simpa [put, hc] using ht) htyping
  · intro hne
    obtain ⟨c, owner, heditor, howner, htyping⟩ := hs.queued (by simpa [put, hkeys] using hne)
    by_cases hc : c = component
    · subst hc
      obtain rfl : stored = owner := Option.some.inj (hstored.symm.trans howner)
      exact ⟨c, input', heditor, by simp [put], hfocus.trans htyping⟩
    · exact ⟨c, owner, heditor, by simpa [put, hc] using howner, htyping⟩

/-- What an operation leaves behind of the one input that may be in editing mode. -/
theorem OneEditor.put_own (hs : s.OneEditor editor) (hown : editor = none ∨ editor = some component)
    {input' : TextInput} (events : List TextInputEvent) (hqueues : input'.Queues)
    (hevents : (events.map (FocusEvent.textInput component)).foldlM FocusEvent.next
      (s.currentFocus_, editor) =
        some (s.currentFocus_, if input'.isInEditingMode_ then some component else none)) :
    (s.put component (input', events)).OneEditor
      (if input'.isInEditingMode_ then some component else none) := by
  have hother : ∀ c ≠ component, editor ≠ some c := by
    intro c hc heditor
    cases hown with
    | inl hnone => exact nomatch hnone.symm.trans heditor
    | inr hsome => exact hc (Option.some.inj (heditor.symm.trans hsome))
  have hnot : ∀ c ≠ component,
      (if input'.isInEditingMode_ then some component else none) ≠ some c := by
    intro c hc
    split
    · exact fun h => hc (Option.some.inj h).symm
    · exact fun h => nomatch h
  refine ⟨?_, ?_, ?_, ?_, ?_⟩
  · simp only [put]
    rw [List.foldlM_append, hs.events]
    exact hevents
  · intro c t ht
    by_cases hc : c = component
    · subst hc
      obtain rfl : input' = t := by simpa [put] using ht
      cases input'.isInEditingMode_ with
      | false => simp
      | true => simp
    · have heditor := hs.editing c t (by simpa [put, hc] using ht)
      exact ⟨fun h => absurd (heditor.mp h) (hother c hc), fun h => absurd h (hnot c hc)⟩
  · intro c heditor
    by_cases hc : c = component
    · subst hc
      exact ⟨input', by simp [put]⟩
    · exact absurd heditor (hnot c hc)
  · intro c t ht htyping
    by_cases hc : c = component
    · subst hc
      obtain rfl : input' = t := by simpa [put] using ht
      rw [if_pos (hqueues.typing htyping)]
    · have hold : s.inputs c = some t := by simpa [put, hc] using ht
      exact absurd (hs.typing c t hold htyping) (hother c hc)
  · intro hne
    have htyping := hqueues.queued hne
    exact ⟨component, input', by rw [if_pos (hqueues.typing htyping)], by simp [put], htyping⟩

/-- The one editor is in focus. -/
def Single (s : FocusFlow) : Prop :=
  ∃ editor, s.OneEditor editor ∧ (editor = none ∨ editor = s.currentFocus_)

/-! ## The text inputs -/

/-- An operation of the input in focus. -/
theorem Single.put (hs : s.Single) (hcurrent : s.currentFocus_ = some component)
    (op : TextInputOp) {input input' : TextInput} {events : List TextInputEvent}
    (hinput : s.input component = some input) (h : op.emit input = some (input', events)) :
    (s.put component (input', events)).Single := by
  obtain ⟨editor, hone, hfocus⟩ := hs
  have hown : editor = none ∨ editor = some component := by rwa [hcurrent] at hfocus
  have hemits := TextInput.Emits.emit (hone.queues hinput hown) h
  obtain ⟨stored, hstored, rfl⟩ := Option.map_eq_some_iff.mp hinput
  have hediting := hone.editing component stored hstored
  obtain ⟨q, hrests, heditor⟩ : ∃ q : EditingPhase,
      EditingPhase.Rests stored.isInEditingMode_ q ∧ q.editor component = editor := by
    cases hmode : stored.isInEditingMode_ with
    | true => exact ⟨.focused, rfl, (hediting.mp hmode).symm⟩
    | false =>
      refine ⟨.blurred, rfl, ?_⟩
      cases hown with
      | inl hnone => exact hnone.symm
      | inr hsome => exact absurd (hediting.mpr hsome) (by simp [hmode])
  obtain ⟨q', hq', hrests'⟩ := hemits.phase q hrests
  have heditor' : q'.editor component =
      if input'.isInEditingMode_ then some component else none := by
    cases q' with
    | blurred => rw [show input'.isInEditingMode_ = false from hrests']; rfl
    | focused | pressed => rw [show input'.isInEditingMode_ = true from hrests']; rfl
    | changed | resized | submitted | ended => exact hrests'.elim
  refine ⟨_, hone.put_own hown events hemits.queues ?_, ?_⟩
  · rw [← heditor, ← heditor', hcurrent]
    exact FocusEvent.foldlM_phase hq'
  · change _ ∨ _ = s.currentFocus_
    rw [hcurrent]
    split
    · exact .inr rfl
    · exact .inl rfl

/-- An update of any input. -/
theorem Single.handle_quiet (hs : s.Single) {op : TextInputOp} (f : TextInput → TextInput)
    (hop : ∀ input, op.emit input = some (f input, []))
    (hkeeps : ∀ input, (f input).keys = input.keys ∧
      (f input).isInEditingMode_ = input.isInEditingMode_ ∧
      (f input).isTextInputInFocus_ = input.isTextInputInFocus_)
    (h : s.handle component op = some s') : s'.Single := by
  obtain ⟨editor, hone, hfocus⟩ := hs
  unfold handle at h
  split at h
  · cases h
    exact ⟨editor, hone, hfocus⟩
  · rename_i input hinput
    rw [hop input] at h
    cases h
    obtain ⟨hkeys, hmode, htyping⟩ := hkeeps input
    exact ⟨editor, hone.put_quiet hinput hkeys hmode htyping, hfocus⟩

/-- Whoever is the editor, it resigns. -/
theorem OneEditor.onHandleBlur (hs : s.OneEditor editor)
    (hown : editor = none ∨ editor = some component) :
    (s.onHandleBlur component).OneEditor none := by
  unfold FocusFlow.onHandleBlur
  split
  · rename_i hinput
    cases hown with
    | inl hnone => exact hnone ▸ hs
    | inr hsome =>
      obtain ⟨input, hmade⟩ := hs.made component hsome
      rw [FocusFlow.input, hmade] at hinput
      cases hinput
  · rename_i input hinput
    obtain ⟨hqueues, hmode, -⟩ :=
      TextInput.resignFromEditingMode_spec (hs.queues hinput hown)
    obtain ⟨stored, hstored, rfl⟩ := Option.map_eq_some_iff.mp hinput
    have hediting := hs.editing component stored hstored
    have hput := hs.put_own hown (stored.withKeys s.keys).resignFromEditingMode.2
      hqueues ?_
    · rwa [hmode] at hput
    rw [hmode]
    -- the events are none, or those that close the session of the editor
    unfold TextInput.resignFromEditingMode
    cases hstoredMode : stored.isInEditingMode_ with
    | true =>
      rw [hediting.mp hstoredMode]
      simp [hstoredMode, FocusEvent.next]
    | false =>
      cases hown with
      | inl hnone => simp [hstoredMode, hnone]
      | inr hsome => exact absurd (hediting.mpr hsome) (by simp [hstoredMode])

/-! ## The focus -/

@[simp] theorem put_currentFocus_ (result : TextInput × List TextInputEvent) :
    (s.put component result).currentFocus_ = s.currentFocus_ := rfl

@[simp] theorem onHandleBlur_currentFocus_ :
    (s.onHandleBlur component).currentFocus_ = s.currentFocus_ := by
  unfold FocusFlow.onHandleBlur
  split
  · rfl
  · rfl

theorem OneEditor.blur (hs : s.OneEditor editor) (hcurrent : s.currentFocus_ = some component) :
    ({ s.emit (.blur component) with currentFocus_ := none } : FocusFlow).OneEditor editor := by
  refine ⟨?_, hs.editing, hs.made, hs.typing, hs.queued⟩
  simp only [emit]
  rw [List.foldlM_append, hs.events, hcurrent]
  simp [FocusEvent.next]

theorem OneEditor.focus (hs : s.OneEditor none) (hcurrent : s.currentFocus_ = none)
    (focusCandidate : LayerId) :
    ({ s.emit (.focus focusCandidate) with currentFocus_ := some focusCandidate } :
      FocusFlow).OneEditor none := by
  refine ⟨?_, hs.editing, hs.made, hs.typing, hs.queued⟩
  simp only [emit]
  rw [List.foldlM_append, hs.events, hcurrent]
  simp [FocusEvent.next]

/-- The handler does not look at the focus. -/
theorem onHandleBlur_unfocused (s : FocusFlow) (component : LayerId) :
    { s.onHandleBlur component with currentFocus_ := none } =
      ({ s with currentFocus_ := none } : FocusFlow).onHandleBlur component := by
  have hinput : ({ s with currentFocus_ := none } : FocusFlow).input component =
      s.input component := rfl
  unfold FocusFlow.onHandleBlur
  rw [hinput]
  split
  · rfl
  · rfl

/-- The old focus resigns before the new one is set. -/
theorem Single.moveFocus (hs : s.Single) (focusCandidate : LayerId) :
    (s.moveFocus focusCandidate).Single ∧
      (s.moveFocus focusCandidate).currentFocus_ = some focusCandidate := by
  unfold FocusFlow.moveFocus
  split
  · rename_i hcurrent
    exact ⟨hs, hcurrent⟩
  obtain ⟨editor, hone, hfocus⟩ := hs
  refine ⟨⟨none, ?_, .inl rfl⟩, rfl⟩
  cases hcurrent : s.currentFocus_ with
  | none =>
    have hnone : editor = none := by simpa [hcurrent] using hfocus
    exact (hnone ▸ hone).focus hcurrent focusCandidate
  | some currentFocus =>
    have hblurred := hone.blur hcurrent
    have hresigned := hblurred.onHandleBlur (hcurrent ▸ hfocus)
    have hfocused := hresigned.focus (by simp) focusCandidate
    rwa [← onHandleBlur_unfocused] at hfocused

theorem Single.requestForEditingMode (hs : s.Single) (component : LayerId) :
    (s.requestForEditingMode component).Single := by
  unfold FocusFlow.requestForEditingMode
  split
  · exact hs
  split
  · exact hs
  obtain ⟨hmoved, hcurrent⟩ := hs.moveFocus component
  dsimp only
  split
  · exact hmoved
  · rename_i input hinput
    exact hmoved.put hcurrent .requestForEditingMode hinput rfl

theorem Single.updateFocusCandidate (hs : s.Single) (focusCandidate : LayerId)
    (needScroll : Bool) : (s.updateFocusCandidate focusCandidate needScroll).Single := by
  unfold FocusFlow.updateFocusCandidate
  split
  · exact hs
  split
  · exact (hs.moveFocus focusCandidate).1.requestForEditingMode focusCandidate
  · exact (hs.moveFocus focusCandidate).1

/-- A removal takes no editor with it, by the condition. -/
theorem Single.updateSpatialNavigatorState (hs : s.Single)
    (operation : NavigatorStateOperation) (candidate : LayerId)
    (hkeeps : KeepsEditor s (.updateSpatialNavigatorState operation candidate)) :
    (s.updateSpatialNavigatorState operation candidate).Single := by
  have hremoved : s.currentFocus_ = some candidate →
      s.isInEditingMode candidate = false →
      ({ s.emit (.blur candidate) with currentFocus_ := none } : FocusFlow).Single := by
    intro hcurrent hidle
    obtain ⟨editor, hone, hfocus⟩ := hs
    refine ⟨editor, hone.blur hcurrent, .inl ?_⟩
    cases hfocus with
    | inl hnone => exact hnone
    | inr hsome =>
      obtain ⟨input, hinput⟩ := hone.made candidate (hsome.trans hcurrent)
      have hediting := (hone.editing candidate input hinput).mpr (hsome.trans hcurrent)
      rw [isInEditingMode, hinput, Option.any_some, hediting] at hidle
      cases hidle
  unfold FocusFlow.updateSpatialNavigatorState
  split
  · exact hs
  · split
    · rename_i hcurrent
      exact hremoved hcurrent (by simpa [FocusOp.dropped] using hkeeps hcurrent.symm)
    · exact hs
  · split
    · rename_i hcurrent
      exact hremoved hcurrent (by simpa [FocusOp.dropped] using hkeeps hcurrent.symm)
    · exact hs

/-! ## Runs -/

theorem Single.construct (hs : s.Single) (h : s.construct component = some s') : s'.Single := by
  obtain ⟨editor, hone, hfocus⟩ := hs
  unfold FocusFlow.construct at h
  split at h
  · cases h
  rename_i hnew
  cases h
  have hother : ∀ c input, s.inputs c = some input → c ≠ component := by
    intro c input hinput heq
    rw [heq, hnew] at hinput
    cases hinput
  have hnot : editor ≠ some component := by
    intro heditor
    obtain ⟨input, hinput⟩ := hone.made component heditor
    exact hother component input hinput rfl
  refine ⟨editor, ⟨hone.events, ?_, ?_, ?_, ?_⟩, hfocus⟩
  · intro c input hinput
    by_cases hc : c = component
    · subst hc
      obtain rfl : ({} : TextInput) = input := by simpa using hinput
      exact ⟨fun h => absurd h Bool.false_ne_true, fun h => absurd h hnot⟩
    · exact hone.editing c input (by simpa [hc] using hinput)
  · intro c heditor
    obtain ⟨input, hinput⟩ := hone.made c heditor
    exact ⟨input, by simpa [hother c input hinput] using hinput⟩
  · intro c input hinput htyping
    by_cases hc : c = component
    · subst hc
      obtain rfl : ({} : TextInput) = input := by simpa using hinput
      exact absurd htyping Bool.false_ne_true
    · exact hone.typing c input (by simpa [hc] using hinput) htyping
  · intro hne
    obtain ⟨c, input, heditor, hinput, htyping⟩ := hone.queued hne
    exact ⟨c, input, heditor, by simpa [hother c input hinput] using hinput, htyping⟩

theorem Single.sendToFocused (hs : s.Single) {eventKeyType : RnsKey} {keyRepeat : Bool}
    {keyAction : RnsKeyAction} {stopPropagate : Bool}
    (h : s.sendToFocused eventKeyType keyRepeat keyAction = some (s', stopPropagate)) :
    s'.Single := by
  unfold FocusFlow.sendToFocused at h
  split at h
  · cases h
    exact hs
  rename_i currentFocused hcurrent
  unfold FocusFlow.onHandleKey at h
  split at h
  · cases h
    exact hs
  · rename_i input hinput
    obtain ⟨result, hresult, heq⟩ := Option.map_eq_some_iff.mp h
    cases heq
    refine hs.put hcurrent (.onHandleKey eventKeyType keyRepeat keyAction) hinput ?_
    rw [TextInputOp.emit, hresult]
    rfl

/-- The key goes to the focus, and from there perhaps the focus to another. -/
theorem Single.processKey (hs : s.Single) {eventKeyType : RnsKey} {keyRepeat : Bool}
    {keyAction : RnsKeyAction} {target : Option LayerId}
    (h : s.processKey eventKeyType keyRepeat keyAction target = some s') : s'.Single := by
  unfold FocusFlow.processKey at h
  obtain ⟨⟨handled, stopPropagate⟩, hhandled, h⟩ := Option.bind_eq_some_iff.mp h
  have hs' := hs.sendToFocused hhandled
  dsimp only at h
  split at h
  · split at h
    · cases h
      exact hs'
    · cases h
      exact hs'.updateFocusCandidate _ false
  · cases h
    exact hs'

theorem Single.processQueuedKey (hs : s.Single) {stop wait : Bool}
    (h : s.processQueuedKey component stop wait = some s') : s'.Single := by
  unfold FocusFlow.processQueuedKey at h
  split at h
  · cases h
  rename_i input hinput
  split at h
  · rename_i htyping
    unfold handle at h
    rw [hinput] at h
    obtain ⟨⟨input', events⟩, hemit, rfl⟩ := Option.map_eq_some_iff.mp h
    obtain ⟨stored, hstored, rfl⟩ := Option.map_eq_some_iff.mp hinput
    have hcurrent : s.currentFocus_ = some component := by
      obtain ⟨editor, hone, hfocus⟩ := hs
      have heditor := hone.typing component stored hstored htyping
      cases hfocus with
      | inl hnone => exact nomatch hnone.symm.trans heditor
      | inr hsome => exact hsome.symm.trans heditor
    exact hs.put hcurrent _ hinput hemit
  · cases h

theorem Single.onHandleBlur (hs : s.Single) (component : LayerId) :
    (s.onHandleBlur component).Single := by
  obtain ⟨editor, hone, hfocus⟩ := hs
  by_cases hown : editor = none ∨ editor = some component
  · exact ⟨none, hone.onHandleBlur hown, .inl rfl⟩
  · -- another input is the editor, and this one has nothing to resign from
    have hnot : editor ≠ some component := fun h => hown (.inr h)
    unfold FocusFlow.onHandleBlur
    split
    · exact ⟨editor, hone, hfocus⟩
    · rename_i input hinput
      obtain ⟨stored, hstored, rfl⟩ := Option.map_eq_some_iff.mp hinput
      have hmode : (stored.withKeys s.keys).isInEditingMode_ = false := by
        have hediting := (hone.editing component stored hstored).not.mpr hnot
        simpa using hediting
      have hresigns : (stored.withKeys s.keys).resignFromEditingMode =
          (stored.withKeys s.keys, []) := by
        unfold TextInput.resignFromEditingMode
        rw [hmode]
        rfl
      rw [hresigns]
      exact ⟨editor, hone.put_quiet hinput rfl rfl rfl, hfocus⟩

theorem Single.step (hs : s.Single) {op : FocusOp} (hkeeps : KeepsEditor s op)
    (hstep : focusStep s op s') : s'.Single := by
  unfold focusStep at hstep
  cases op with
  | construct component => exact hs.construct hstep
  | updateFocusCandidate focusCandidate needScroll =>
    cases hstep
    exact hs.updateFocusCandidate focusCandidate needScroll
  | updateSpatialNavigatorState operation candidate =>
    cases hstep
    exact hs.updateSpatialNavigatorState operation candidate hkeeps
  | processKey eventKeyType keyRepeat keyAction target => exact hs.processKey hstep
  | processQueuedKey component stop wait => exact hs.processQueuedKey hstep
  | updateComponentProps component props forceUpdate =>
    refine hs.handle_quiet (fun input => input.updateComponentProps props forceUpdate)
      (fun _ => rfl) ?_ hstep
    intro input
    obtain ⟨hkeys, hmode, htyping, -⟩ :=
      TextInput.updateComponentProps_keeps input props forceUpdate
    exact ⟨hkeys, hmode, htyping⟩
  | setTextAndSelection component text =>
    refine hs.handle_quiet (fun input => input.setTextAndSelection text) (fun _ => rfl) ?_ hstep
    intro input
    unfold TextInput.setTextAndSelection TextInput.postUpdate
    split
    · exact ⟨rfl, rfl, rfl⟩
    · exact ⟨rfl, rfl, rfl⟩
  | requestForEditingMode component =>
    cases hstep
    exact hs.requestForEditingMode component
  | resignFromEditingMode component =>
    cases hstep
    exact hs.onHandleBlur component

theorem single_start : ({} : FocusFlow).Single := by
  refine ⟨none, ⟨rfl, ?_, ?_, ?_, ?_⟩, .inl rfl⟩
  · exact fun _ _ h => nomatch h
  · exact fun _ h => nomatch h
  · exact fun _ _ h => nomatch h
  · exact fun hne => absurd rfl hne

end FocusFlow

end ReactNativeSkia
