import ReactNativeSkia.Components.ControlledInput
import ReactNativeSkia.Components.Proofs.TextCursor

/-!
# A controlled input with an echoing app

The thread that waits for the answer to every edit keeps in step with an uncontrolled input. It
stops waiting for good after a key that did not edit, so that from then on an edit may start from
a text that an answer on its way will replace.
-/

namespace ReactNativeSkia

/-- The key reads the text that it changes. -/
def RnsKey.readsText (key : RnsKey) : Bool :=
  key.isDisplayable || decide (key = .RNS_KEY_Back ∨ key = .RNS_KEY_Delete)

theorem RnsKey.isQueued_of_isEditKey {key : RnsKey} (h : key.isEditKey = true) :
    key.isQueued = true := by
  revert h
  cases key <;> decide

namespace TextInput

variable {s ref : TextInput} {key : RnsKey} {text edited : List Char} {n : Nat}
  {stop wait updateString : Bool} {result : KeyResult}

/-! ## What an edit key does -/

theorem processText_displayable (hkey : key.isDisplayable = true)
    (hedited : s.insertAtCursor text (RNSKeyMap key) = some edited) :
    s.processText text key stop wait updateString =
      some ((s.withEnd edited.length).finishEdit key edited text.length wait updateString) := by
  unfold processText
  rw [if_pos hkey, hedited]
  rfl

theorem processText_move (hkey : key = .RNS_KEY_Left ∨ key = .RNS_KEY_Right) :
    s.processText text key stop wait updateString = some (s.moveCursor key) := by
  rcases hkey with rfl | rfl
  · rfl
  · rfl

theorem processText_back (hkey : key = .RNS_KEY_Back ∨ key = .RNS_KEY_Delete) :
    s.processText text key stop wait updateString =
      if text ≠ [] ∧ s.cursor_.end_ ≠ s.cursor_.locationFromEnd then
        (eraseChar text (s.cursor_.end_ - s.cursor_.locationFromEnd - 1)).map fun edited =>
          (s.withEnd edited.length).finishEdit key edited text.length wait updateString
      else some (s.finishEdit key text text.length false updateString) := by
  have hmap (o : Option (List Char)) (f : List Char → KeyResult) :
      (do let edited ← o; return f edited) = o.map f := by
    cases o <;> rfl
  rcases hkey with rfl | rfl
  · unfold processText
    simp only [← hmap]
    rfl
  · unfold processText
    simp only [← hmap]
    rfl

theorem updateDisplayString_noLimit (h : s.maxLength_ = 0) (edited : List Char) (n : Nat) :
    (s.updateDisplayString edited n).displayString_ = edited := by
  unfold updateDisplayString
  rw [withEnd_displayString_]
  simp only [h, ne_eq, not_true_eq_false, false_and, if_false]
  split
  · assumption
  · rfl

/-- Without a limit the edited text is shown, and the cursor keeps its distance from the end. -/
theorem finishEdit_shown (h : s.maxLength_ = 0) (key : RnsKey) (edited : List Char) (n : Nat)
    (wait : Bool) :
    (s.finishEdit key edited n wait true).input.displayString_ = edited ∧
      (s.finishEdit key edited n wait true).input.cursor_ =
        { locationFromEnd := s.cursor_.locationFromEnd, end_ := edited.length } := by
  have hshown := updateDisplayString_noLimit h edited n
  have hcursor : (s.updateDisplayString edited n).cursor_ =
      { locationFromEnd := s.cursor_.locationFromEnd
        end_ := (s.updateDisplayString edited n).displayString_.length } := rfl
  rw [hshown] at hcursor
  exact ⟨hshown, hcursor⟩

theorem finishEdit_changed (h : s.maxLength_ = 0) :
    (s.finishEdit key edited n wait updateString).events.filterMap TextInputEvent.changedText =
      [edited] := by
  have hlimit : (if updateString then s.updateDisplayString edited n else s).maxLength_ = 0 := by
    split
    · exact h
    · exact h
  unfold finishEdit
  simp only
  rw [if_neg (fun hlong => hlong.1 hlimit)]
  rfl

/-! ## The uncontrolled input -/

/-- An uncontrolled input in editing mode that takes keys. -/
structure EditorMode (s : TextInput) : Prop where
  editing : s.isInEditingMode_ = true
  editable : s.editable_ = true
  value : s.props.value = none
  limit : s.maxLength_ = 0

theorem EditorMode.onHandleKey (h : s.EditorMode) (key : RnsKey) :
    s.onHandleKey key false .RNS_KEY_Press = s.processEventKey key false false true := by
  unfold TextInput.onHandleKey
  rw [h.editable, h.editing, h.value]
  simp

theorem EditorMode.finishEdit (h : s.EditorMode) (e : Int) :
    ((s.withEnd e).finishEdit key edited n wait true).input.EditorMode :=
  ⟨h.editing, h.editable, h.value, h.limit⟩

theorem moveCursor_input (s : TextInput) (key : RnsKey) :
    ∃ l, (s.moveCursor key).input = s.withLocationFromEnd l ∧
      (s.moveCursor key).waitForupdateProps = false ∧
      (s.moveCursor key).events.filterMap TextInputEvent.changedText = [] := by
  unfold moveCursor
  simp only
  split
  · split
    · exact ⟨_, rfl, rfl, rfl⟩
    · exact ⟨s.cursor_.locationFromEnd, rfl, rfl, rfl⟩
  · split
    · exact ⟨_, rfl, rfl, rfl⟩
    · exact ⟨s.cursor_.locationFromEnd, rfl, rfl, rfl⟩

theorem moveCursor_congr (hcursor : ref.cursor_ = s.cursor_) :
    (ref.moveCursor key).input.cursor_ = (s.moveCursor key).input.cursor_ := by
  unfold moveCursor
  simp only [hcursor]
  split
  · split
    · unfold withLocationFromEnd
      simp only [hcursor]
    · exact hcursor
  · split
    · unfold withLocationFromEnd
      simp only [hcursor]
    · exact hcursor

/-- What a key leaves in the controlled input, and in the uncontrolled one. -/
inductive EchoCase (key : RnsKey) (text : List Char) (wait : Bool) (ref ref' : TextInput)
    (result : KeyResult) : Prop where
  /-- The thread will not wait any more, and the text is the same. -/
  | moves (hwait : result.waitForupdateProps = false)
      (hchanged : result.events.filterMap TextInputEvent.changedText = [])
      (href : ref'.displayString_ = ref.displayString_)
  | erasesNothing (hreads : key.readsText = true) (hwait : result.waitForupdateProps = false)
      (hchanged : result.events.filterMap TextInputEvent.changedText = [text])
      (href : ref'.displayString_ = ref.displayString_)
  | edits (edited : List Char) (hreads : key.readsText = true)
      (hwait : result.waitForupdateProps = wait)
      (hchanged : result.events.filterMap TextInputEvent.changedText = [edited])
      (href : ref'.displayString_ = edited) (hlength : edited ≠ text)

/-- Only the cursor and the number of the events differ. -/
def SameBut (s s' : TextInput) : Prop :=
  ∃ cursor eventCount, s' = { s with cursor_ := cursor, eventCount_ := eventCount }

/-- An edit of both. -/
theorem echo_edit (hmode : ref.EditorMode) (hlimit : s.maxLength_ = 0)
    (hcursor : ref.cursor_ = s.cursor_) (hreads : key.readsText = true)
    (hlength : edited.length ≠ text.length) (n : Nat) (wait : Bool) :
    ((ref.withEnd edited.length).finishEdit key edited n false true).input.cursor_ =
        ((s.withEnd edited.length).finishEdit key edited n wait false).input.cursor_ ∧
      EchoCase key text wait ref
        ((ref.withEnd edited.length).finishEdit key edited n false true).input
        ((s.withEnd edited.length).finishEdit key edited n wait false) := by
  obtain ⟨hshown, hcursor'⟩ := finishEdit_shown (s := ref.withEnd edited.length) hmode.limit key
    edited n false
  refine ⟨?_, .edits edited hreads rfl (finishEdit_changed hlimit) hshown fun heq => ?_⟩
  · rw [hcursor']
    show Cursor.mk ref.cursor_.locationFromEnd _ = Cursor.mk s.cursor_.locationFromEnd _
    rw [hcursor]
  · exact hlength (congrArg List.length heq)

/-- The step of the simulation: both inputs have the same cursor, and the copy is the text of the
uncontrolled one if the key reads it. -/
theorem echo_key (href : ref.Inside) (hmode : ref.EditorMode) (hlimit : s.maxLength_ = 0)
    (hcursor : ref.cursor_ = s.cursor_) (hkey : key.isEditKey = true)
    (htext : key.readsText = true → text = ref.displayString_)
    (hrun : s.processText text key stop wait false = some result) :
    ∃ ref', (ref.onHandleKey key false .RNS_KEY_Press).map KeyResult.input = some ref' ∧
      ref'.Inside ∧ ref'.EditorMode ∧ ref'.cursor_ = result.input.cursor_ ∧
      s.SameBut result.input ∧ EchoCase key text wait ref ref' result := by
  rw [hmode.onHandleKey]
  obtain ⟨refResult, hrefRun, hcase⟩ := href.processEventKey_cases key false false true
  have hin := hcase.inside href
  refine ⟨refResult.input, by rw [hrefRun]; rfl, hin, ?_⟩
  unfold TextInput.processEventKey at hrefRun
  have hinsert (new : List Char) : ref.insertAtCursor text new = s.insertAtCursor text new := by
    unfold insertAtCursor
    rw [hcursor]
  by_cases hdisp : key.isDisplayable = true
  · have hreads : key.readsText = true := by
      unfold RnsKey.readsText
      rw [hdisp, Bool.true_or]
    obtain rfl := htext hreads
    obtain ⟨edited, hedited, hlength⟩ := href.insertAtCursor (RNSKeyMap key)
    rw [RnsKey.RNSKeyMap_length hdisp] at hlength
    rw [processText_displayable hdisp hedited] at hrefRun
    rw [processText_displayable hdisp ((hinsert _).symm.trans hedited)] at hrun
    obtain rfl := Option.some.inj hrefRun
    obtain rfl := Option.some.inj hrun
    have hne : edited.length ≠ ref.displayString_.length := by omega
    obtain ⟨hcursor', hecho⟩ := echo_edit hmode hlimit hcursor hreads hne
      ref.displayString_.length wait
    exact ⟨hmode.finishEdit _, hcursor', ⟨_, _, rfl⟩, hecho⟩
  · by_cases hback : key = .RNS_KEY_Back ∨ key = .RNS_KEY_Delete
    · have hreads : key.readsText = true := by
        unfold RnsKey.readsText
        rw [decide_eq_true hback, Bool.or_true]
      obtain rfl := htext hreads
      rw [processText_back hback] at hrefRun hrun
      rw [← hcursor] at hrun
      by_cases hne : ref.displayString_ ≠ [] ∧ ref.cursor_.end_ ≠ ref.cursor_.locationFromEnd
      · obtain ⟨edited, hedited, hlength⟩ := href.eraseChar hne.2
        rw [if_pos hne, hedited] at hrefRun hrun
        obtain rfl := Option.some.inj hrefRun
        obtain rfl := Option.some.inj hrun
        have hshorter : edited.length ≠ ref.displayString_.length := by omega
        obtain ⟨hcursor', hecho⟩ := echo_edit hmode hlimit hcursor hreads hshorter
          ref.displayString_.length wait
        exact ⟨hmode.finishEdit _, hcursor', ⟨_, _, rfl⟩, hecho⟩
      · rw [if_neg hne] at hrefRun hrun
        obtain rfl := Option.some.inj hrefRun
        obtain rfl := Option.some.inj hrun
        obtain ⟨hshown, hcursor'⟩ := finishEdit_shown hmode.limit key ref.displayString_
          ref.displayString_.length false
        refine ⟨⟨hmode.editing, hmode.editable, hmode.value, hmode.limit⟩, ?_, ⟨_, _, rfl⟩,
          .erasesNothing hreads rfl (finishEdit_changed hlimit) hshown⟩
        rw [hcursor', ← href.length]
        exact hcursor
    · have hmove : key = .RNS_KEY_Left ∨ key = .RNS_KEY_Right := by
        unfold RnsKey.isEditKey at hkey
        rcases Bool.or_eq_true_iff.mp hkey with hkey | hkey
        · exact absurd hkey hdisp
        · rcases of_decide_eq_true hkey with h | h | h
          · exact absurd (Or.inl h) hback
          · exact absurd (Or.inr h) hback
          · exact h
      rw [processText_move hmove] at hrefRun hrun
      obtain rfl := Option.some.inj hrefRun
      obtain rfl := Option.some.inj hrun
      obtain ⟨l, hinput, hwait, hchanged⟩ := s.moveCursor_input key
      obtain ⟨l', hrefInput, -, -⟩ := ref.moveCursor_input key
      refine ⟨?_, moveCursor_congr hcursor, ?_, .moves hwait hchanged ?_⟩
      · rw [hrefInput]
        exact ⟨hmode.editing, hmode.editable, hmode.value, hmode.limit⟩
      · rw [hinput]
        exact ⟨_, _, rfl⟩
      · rw [hrefInput]
        rfl

/-! ## What an answer does -/

/-- The limit of the props does not matter for whether they replace the text. -/
theorem updateText_eq (s : TextInput) (props : TextInputProps) (forceUpdate : Bool) :
    s.updateText props forceUpdate =
      if s.replacesText props forceUpdate then
        { s with maxLength_ := props.maxLength }.withText props.text
      else { s with maxLength_ := props.maxLength } :=
  rfl

theorem replacesText_answer (s : TextInput) (text : List Char) :
    s.replacesText { s.props with text := text, value := some text } false =
      decide (text ≠ s.displayString_) := by
  unfold replacesText
  simp

end TextInput

/-! ## The invariant -/

namespace KeyWorker

/-- A thread that has not started yet will wait. -/
def waitForupdateProps : KeyWorker → Bool
  | absent => true
  | looping wait | found wait | taken _ wait | copied _ _ wait | waiting wait => wait

end KeyWorker

namespace ControlledInput

/-- The text that the last answer will leave. -/
def lastText (s : ControlledInput) : List Char :=
  s.commits.getLast?.getD s.input.displayString_

/-- An update has replaced the text and not told the thread yet. -/
def Posting (s : ControlledInput) : Prop := ∃ props, s.update = .posting props

/-- No answer is on its way. -/
def Quiet (s : ControlledInput) : Prop :=
  s.commits = [] ∧ ¬ s.Posting ∧ s.input.jsUpdateSem = 0

/-- One answer is on its way: a text that is not shown yet, or shown, or told to the thread. -/
def OneAnswer (s : ControlledInput) : Prop :=
  (∃ text, s.commits = [text] ∧ text ≠ s.input.displayString_ ∧ ¬ s.Posting ∧
      s.input.jsUpdateSem = 0) ∨
    (s.commits = [] ∧ s.Posting ∧ s.input.jsUpdateSem = 0) ∨
    (s.commits = [] ∧ ¬ s.Posting ∧ s.input.jsUpdateSem = 1)

/-- An input that is edited, its props, and those of an update. -/
structure Configured (s : ControlledInput) : Prop where
  editing : s.input.isInEditingMode_ = true
  editable : s.input.editable_ = true
  limit : s.input.maxLength_ = 0
  props : s.input.props.maxLength = 0 ∧ s.input.props.editable = true
  update : ∀ props, s.update = .posting props ∨ s.update = .storing props →
    props.maxLength = 0 ∧ props.editable = true
  off : s.input.keys.isKeyRepeateOn = false
  focus : s.worker ≠ .absent → s.input.isTextInputInFocus_ = true
  absent : s.worker = .absent → s.input.isTextInputInFocus_ = false

/-- How far the thread and the answers are. -/
structure Waits (s : ControlledInput) : Prop where
  waiting : ∀ wait, s.worker = .waiting wait → wait = true ∧ s.OneAnswer
  quiet : s.worker.waitForupdateProps = true → (∀ wait, s.worker ≠ .waiting wait) → s.Quiet
  copied : ∀ key text wait, s.worker = .copied key text wait → key.readsText = true →
    text = s.input.displayString_ ∧ ∀ text ∈ s.commits, text = s.input.displayString_
  behind : ∀ text ∈ s.commits.dropLast, text = s.input.displayString_

/-- After the keys that have been handled an uncontrolled input has the same cursor, and the text
that the last answer will leave. -/
structure Echoes (start : TextInput) (s : ControlledInput) : Prop where
  configured : s.Configured
  waits : s.Waits
  keys : ∀ key ∈ s.typed, key.isEditKey = true
  reference : ∃ handled ref, start.uncontrolled.pressKeys handled = some ref ∧
    s.typed = handled ++ s.worker.key ++ s.input.keys.inputQueue ++ s.handler.key ∧
    ref.EditorMode ∧ ref.Inside ∧ ref.cursor_ = s.input.cursor_ ∧
    ref.displayString_ = s.lastText

end ControlledInput

/-- A thread that does not wait starts on a key that reads the text only when every answer on its
way leaves the text as it is. -/
def ControlledOp.KeepsText (s : ControlledInput) : ControlledOp → Prop
  | .copyText =>
    s.worker.waitForupdateProps = false → ∀ key ∈ s.worker.key, key.readsText = true →
      ∀ text ∈ s.commits, text = s.input.displayString_
  | _ => True

instance (s : ControlledInput) (op : ControlledOp) : Decidable (op.KeepsText s) := by
  cases op <;> unfold ControlledOp.KeepsText <;> infer_instance

namespace ControlledInput

variable {start : TextInput} {s s' : ControlledInput} {key : RnsKey}

/-! ## The main thread -/

theorem Echoes.onHandleKey (h : s.Echoes start)
    (hrun : (ControlledOp.onHandleKey key).exec s = some s') : s'.Echoes start := by
  simp only [ControlledOp.exec] at hrun
  split at hrun
  · rename_i hpre
    obtain rfl := Option.some.inj hrun
    obtain ⟨handled, ref, hpress, htyped, hmode, hin, hcursor, htext⟩ := h.reference
    have hkeys : ∀ k ∈ s.typed ++ [key], k.isEditKey = true := by
      intro k hk
      rcases List.mem_append.mp hk with hk | hk
      · exact h.keys k hk
      · rw [List.mem_singleton.mp hk]
        exact hpre.2.1
    rw [hpre.1] at htyped
    have hc := h.configured
    unfold TextInput.takeFocus
    split
    · -- the thread has started already
      refine ⟨⟨hc.editing, hc.editable, hc.limit, hc.props, hc.update, hc.off, hc.focus,
        hc.absent⟩, ⟨h.waits.waiting, h.waits.quiet, h.waits.copied, h.waits.behind⟩, hkeys,
        handled, ref, hpress, ?_, hmode, hin, hcursor, htext⟩
      simp only [Bool.false_eq_true, if_false]
      rw [htyped]
      show handled ++ _ ++ _ ++ [] ++ [key] = handled ++ _ ++ _ ++ [key]
      rw [List.append_nil]
    · rename_i hfocus
      have habsent : s.worker = .absent := by
        by_contra hne
        exact hfocus (hc.focus hne)
      have hquiet : s.Quiet := by
        refine h.waits.quiet (by rw [habsent]; rfl) fun wait hwait => ?_
        rw [habsent] at hwait
        cases hwait
      refine ⟨⟨hc.editing, hc.editable, hc.limit, hc.props, hc.update, rfl, fun _ => rfl, ?_⟩,
        ⟨?_, ?_, ?_, h.waits.behind⟩, hkeys, handled, ref, hpress, ?_, hmode, hin, hcursor, htext⟩
      · intro heq
        cases heq
      · intro wait heq
        cases heq
      · exact fun _ _ => hquiet
      · intro k text wait heq
        cases heq
      · rw [htyped, habsent]
        show handled ++ [] ++ _ ++ [] ++ [key] = handled ++ [] ++ _ ++ [key]
        rw [List.append_nil (handled ++ [] ++ _)]
        rfl
  · cases hrun

theorem Echoes.noteRepeat (h : s.Echoes start) (hhandler : s.handler = .noting key)
    (hrun : s.noteRepeat key = some s') : s'.Echoes start := by
  obtain ⟨handled, ref, hpress, htyped, hmode, hin, hcursor, htext⟩ := h.reference
  have hc := h.configured
  have hkey : key.isEditKey = true := by
    apply h.keys
    rw [htyped, hhandler]
    exact List.mem_append_right _ (List.mem_singleton.mpr rfl)
  unfold ControlledInput.noteRepeat at hrun
  rw [KeyQueue.noteRepeat_false hc.off] at hrun
  simp only [Option.map_some, Bool.not_false, Bool.true_and,
    RnsKey.isQueued_of_isEditKey hkey, if_true] at hrun
  obtain rfl := Option.some.inj hrun
  refine ⟨⟨hc.editing, hc.editable, hc.limit, hc.props, hc.update, hc.off, hc.focus, hc.absent⟩,
    ⟨h.waits.waiting, h.waits.quiet, h.waits.copied, h.waits.behind⟩, h.keys,
    handled, ref, hpress, ?_, hmode, hin, hcursor, htext⟩
  rw [htyped, hhandler]
  rfl

theorem Echoes.push (h : s.Echoes start) (hhandler : s.handler = .pushing key) :
    Echoes start { s with
      input := s.input.withKeys (s.input.keys.push key), handler := .idle } := by
  obtain ⟨handled, ref, hpress, htyped, hmode, hin, hcursor, htext⟩ := h.reference
  have hc := h.configured
  refine ⟨⟨hc.editing, hc.editable, hc.limit, hc.props, hc.update, hc.off, hc.focus, hc.absent⟩,
    ⟨h.waits.waiting, h.waits.quiet, h.waits.copied, h.waits.behind⟩, h.keys,
    handled, ref, hpress, ?_, hmode, hin, hcursor, htext⟩
  rw [htyped, hhandler]
  show handled ++ s.worker.key ++ s.input.keys.inputQueue ++ [key] =
    handled ++ s.worker.key ++ (s.input.keys.inputQueue ++ [key]) ++ []
  rw [List.append_nil, List.append_assoc _ s.input.keys.inputQueue]

/-! ## The thread -/

/-- A step of the thread up to its copy of the text. -/
theorem Echoes.worker (h : s.Echoes start) (worker : KeyWorker) (keys : KeyQueue RnsKey)
    (habsent : s.worker ≠ .absent) (habsent' : worker ≠ .absent)
    (hnow : ∀ wait, s.worker ≠ .waiting wait) (hnext : ∀ wait, worker ≠ .waiting wait)
    (hwait : worker.waitForupdateProps = s.worker.waitForupdateProps)
    (hcopied : ∀ key text wait, worker = .copied key text wait → key.readsText = true →
      text = s.input.displayString_ ∧ ∀ text ∈ s.commits, text = s.input.displayString_)
    (hoff : keys.isKeyRepeateOn = s.input.keys.isKeyRepeateOn)
    (hkeys : s.worker.key ++ s.input.keys.inputQueue = worker.key ++ keys.inputQueue) :
    Echoes start { s with input := s.input.withKeys keys, worker := worker } := by
  obtain ⟨handled, ref, hpress, htyped, hmode, hin, hcursor, htext⟩ := h.reference
  have hc := h.configured
  refine ⟨⟨hc.editing, hc.editable, hc.limit, hc.props, hc.update, hoff.trans hc.off,
    fun _ => hc.focus habsent, fun heq => absurd heq habsent'⟩,
    ⟨fun wait heq => absurd heq (hnext wait), fun hquiet _ => ?_, hcopied, h.waits.behind⟩,
    h.keys, handled, ref, hpress, ?_, hmode, hin, hcursor, htext⟩
  · exact h.waits.quiet (hwait ▸ hquiet) hnow
  · rw [htyped, List.append_assoc handled, hkeys, ← List.append_assoc handled]
    rfl

theorem Echoes.test (h : s.Echoes start) {wait : Bool} (hworker : s.worker = .looping wait) :
    Echoes start { s with worker := .found wait } := by
  refine h.worker (.found wait) s.input.keys ?_ ?_ ?_ ?_ ?_ ?_ rfl ?_
  · rw [hworker]
    exact fun heq => nomatch heq
  · exact fun heq => nomatch heq
  · intro wait heq
    rw [hworker] at heq
    cases heq
  · exact fun _ heq => nomatch heq
  · rw [hworker]
    rfl
  · exact fun _ _ _ heq => nomatch heq
  · rw [hworker]
    rfl

theorem Echoes.pop (h : s.Echoes start) {wait : Bool} (hworker : s.worker = .found wait)
    {keys : KeyQueue RnsKey} (hpop : s.input.keys.pop = some (key, keys)) :
    Echoes start { s with input := s.input.withKeys keys, worker := .taken key wait } := by
  obtain ⟨hqueue, hoff⟩ : s.input.keys.inputQueue = key :: keys.inputQueue ∧
      keys.isKeyRepeateOn = s.input.keys.isKeyRepeateOn := by
    unfold KeyQueue.pop at hpop
    split at hpop
    · cases hpop
    · rename_i hqueue
      obtain ⟨rfl, rfl⟩ := Prod.mk.inj (Option.some.inj hpop)
      exact ⟨hqueue, rfl⟩
  refine h.worker _ keys ?_ ?_ ?_ ?_ ?_ ?_ hoff ?_
  · rw [hworker]
    exact fun heq => nomatch heq
  · exact fun heq => nomatch heq
  · intro wait heq
    rw [hworker] at heq
    cases heq
  · exact fun _ heq => nomatch heq
  · rw [hworker]
    rfl
  · exact fun _ _ _ heq => nomatch heq
  · rw [hworker, hqueue]
    rfl

theorem Echoes.copyText (h : s.Echoes start) {wait : Bool} (hworker : s.worker = .taken key wait)
    (hok : ControlledOp.copyText.KeepsText s) :
    Echoes start { s with worker := .copied key s.input.displayString_ wait } := by
  have hquiet : s.worker.waitForupdateProps = true → s.Quiet := by
    intro hwait
    refine h.waits.quiet hwait fun wait heq => ?_
    rw [hworker] at heq
    cases heq
  refine h.worker (.copied key s.input.displayString_ wait) s.input.keys
    ?_ ?_ ?_ ?_ ?_ ?_ rfl ?_
  · rw [hworker]
    exact fun heq => nomatch heq
  · exact fun heq => nomatch heq
  · intro wait heq
    rw [hworker] at heq
    cases heq
  · exact fun _ heq => nomatch heq
  · rw [hworker]
    rfl
  · intro k text w heq hreads
    obtain ⟨rfl, rfl, rfl⟩ := KeyWorker.copied.inj heq
    refine ⟨rfl, ?_⟩
    cases hw : s.worker.waitForupdateProps with
    | true =>
      rw [(hquiet hw).1]
      exact fun _ hin => nomatch hin
    | false => exact hok hw key (by rw [hworker]; exact List.mem_singleton.mpr rfl) hreads
  · rw [hworker]
    rfl

/-- The text that the last answer will leave, when no answer changes the text. -/
theorem lastText_eq (h : ∀ text ∈ s.commits, text = s.input.displayString_) :
    s.lastText = s.input.displayString_ := by
  unfold lastText
  cases hlast : s.commits.getLast? with
  | none => rfl
  | some text => exact h text (List.mem_of_getLast? hlast)

theorem pressKeys_append {s' s'' : TextInput} {keys : List RnsKey}
    (hkeys : start.pressKeys keys = some s')
    (hkey : (s'.onHandleKey key false .RNS_KEY_Press).map KeyResult.input = some s'') :
    start.pressKeys (keys ++ [key]) = some s'' := by
  unfold TextInput.pressKeys at hkeys ⊢
  rw [List.foldlM_append, hkeys]
  simp only [Option.bind_eq_bind, Option.bind_some, List.foldlM_cons, List.foldlM_nil, hkey]
  rfl

theorem Configured.handled (h : s.Configured) {input : TextInput}
    (hsame : s.input.SameBut input) (hfocus : s.input.isTextInputInFocus_ = true)
    (worker : KeyWorker) (hne : worker ≠ .absent) (commits : List (List Char)) :
    Configured { s with input := input, worker := worker, commits := commits } := by
  obtain ⟨cursor, eventCount, rfl⟩ := hsame
  exact ⟨h.editing, h.editable, h.limit, h.props, h.update, h.off, fun _ => hfocus,
    fun heq => absurd heq hne⟩

/-- A thread that loops on without waiting. -/
theorem Waits.looping {input : TextInput} (hsame : s.input.SameBut input)
    {commits : List (List Char)}
    (hbehind : ∀ text ∈ commits.dropLast, text = s.input.displayString_) :
    Waits { s with input := input, worker := .looping false, commits := commits } := by
  obtain ⟨cursor, eventCount, rfl⟩ := hsame
  exact ⟨fun wait heq => (nomatch heq), fun hquiet => (nomatch hquiet),
    fun k t w heq => (nomatch heq), hbehind⟩

/-- A thread that waits for the answer to its edit, the only one on its way. -/
theorem Waits.edited (h : s.Waits) {input : TextInput} (hsame : s.input.SameBut input)
    (hworker : s.worker = .copied key text true) {edited : List Char}
    (hne : edited ≠ s.input.displayString_) :
    Waits { s with
      input := input, worker := .waiting true, commits := s.commits ++ [edited] } := by
  obtain ⟨hcommits, hupdate, hzero⟩ : s.Quiet := by
    refine h.quiet (by rw [hworker]; rfl) fun w heq => ?_
    rw [hworker] at heq
    cases heq
  obtain ⟨cursor, eventCount, rfl⟩ := hsame
  rw [hcommits]
  refine ⟨fun w heq => ?_, fun _ hno => absurd rfl (hno true),
    fun k t w heq => (nomatch heq), fun t ht => (nomatch ht)⟩
  obtain rfl := KeyWorker.waiting.inj heq
  exact ⟨rfl, Or.inl ⟨edited, rfl, hne, hupdate, hzero⟩⟩

/-- The key that the thread handles is handled by the uncontrolled input as well. -/
theorem Echoes.processEventKey (h : s.Echoes start) {text : List Char} {wait : Bool}
    (hworker : s.worker = .copied key text wait)
    (hrun : s.processEventKey key text wait = some s') : s'.Echoes start := by
  obtain ⟨result, hprocess, rfl⟩ := Option.map_eq_some_iff.mp hrun
  obtain ⟨handled, ref, hpress, htyped, hmode, hin, hcursor, htext⟩ := h.reference
  have hc := h.configured
  rw [hworker] at htyped
  have hkey : key.isEditKey = true := by
    apply h.keys
    rw [htyped]
    simp [KeyWorker.key]
  have hcopied := h.waits.copied key text wait hworker
  have hcopy (hreads : key.readsText = true) : text = ref.displayString_ := by
    obtain ⟨htext', hall⟩ := hcopied hreads
    rw [htext, lastText_eq hall, htext']
  have hfocus : s.input.isTextInputInFocus_ = true :=
    hc.focus (by rw [hworker]; exact fun heq => nomatch heq)
  obtain ⟨ref', hrefRun, hin', hmode', hcursor', hsame, hcase⟩ :=
    TextInput.echo_key hin hmode hc.limit hcursor hkey hcopy hprocess
  have hpress' := pressKeys_append hpress hrefRun
  have htyped' : s.typed = (handled ++ [key]) ++ [] ++ s.input.keys.inputQueue ++
      s.handler.key := by
    rw [htyped, List.append_nil]
    rfl
  have hdisplay : result.input.displayString_ = s.input.displayString_ := by
    obtain ⟨cursor, eventCount, heq⟩ := hsame
    rw [heq]
  have hqueue : result.input.keys.inputQueue = s.input.keys.inputQueue := by
    obtain ⟨cursor, eventCount, heq⟩ := hsame
    rw [heq]
  cases hcase with
  | moves hwait hchanged href =>
    rw [hwait, hchanged, List.append_nil, if_neg Bool.false_ne_true]
    refine ⟨hc.handled hsame hfocus (.looping false) (fun heq => nomatch heq) _,
      .looping hsame h.waits.behind, h.keys, handled ++ [key], ref', hpress', ?_, hmode', hin',
      hcursor', ?_⟩
    · rw [hqueue]
      exact htyped'
    · rw [href, htext]
      unfold lastText
      rw [hdisplay]
  | erasesNothing hreads hwait hchanged href =>
    obtain ⟨htext', hall⟩ := hcopied hreads
    rw [hwait, hchanged, if_neg Bool.false_ne_true]
    refine ⟨hc.handled hsame hfocus (.looping false) (fun heq => nomatch heq) _,
      .looping hsame ?_, h.keys, handled ++ [key], ref', hpress', ?_, hmode', hin', hcursor', ?_⟩
    · rw [List.dropLast_concat]
      exact hall
    · rw [hqueue]
      exact htyped'
    · unfold lastText
      rw [List.getLast?_concat, Option.getD_some, href]
      exact (hcopy hreads).symm
  | edits edited hreads hwait hchanged href hne =>
    obtain ⟨htext', hall⟩ := hcopied hreads
    have hlast : ({ s with
        input := result.input
        worker := if result.waitForupdateProps then .waiting result.waitForupdateProps
          else .looping result.waitForupdateProps
        commits := s.commits ++ [edited] } : ControlledInput).lastText = edited := by
      unfold lastText
      rw [List.getLast?_concat]
      rfl
    rw [hchanged]
    refine ⟨hc.handled hsame hfocus _ ?_ _, ?_, h.keys, handled ++ [key], ref', hpress', ?_,
      hmode', hin', hcursor', href.trans hlast.symm⟩
    · split
      · exact fun heq => nomatch heq
      · exact fun heq => nomatch heq
    · rw [hwait]
      cases wait with
      | false =>
        refine .looping hsame ?_
        rw [List.dropLast_concat]
        exact hall
      | true =>
        refine h.waits.edited hsame hworker fun heq => hne ?_
        rw [heq, ← htext']
    · rw [hqueue]
      split
      · exact htyped'
      · exact htyped'

theorem Echoes.wake (h : s.Echoes start) {wait : Bool} (hworker : s.worker = .waiting wait)
    (hsem : 0 < s.input.jsUpdateSem) :
    Echoes start { s with
      input := { s.input with jsUpdateSem := s.input.jsUpdateSem - 1 }
      worker := .looping wait } := by
  obtain ⟨handled, ref, hpress, htyped, hmode, hin, hcursor, htext⟩ := h.reference
  have hc := h.configured
  obtain ⟨rfl, hanswer⟩ := h.waits.waiting wait hworker
  have hquiet : s.commits = [] ∧ ¬ s.Posting ∧ s.input.jsUpdateSem - 1 = 0 := by
    rcases hanswer with ⟨_, _, _, _, hzero⟩ | ⟨_, _, hzero⟩ | ⟨hcommits, hupdate, hone⟩
    · omega
    · omega
    · exact ⟨hcommits, hupdate, by omega⟩
  refine ⟨⟨hc.editing, hc.editable, hc.limit, hc.props, hc.update, hc.off,
    fun _ => hc.focus (by rw [hworker]; exact fun heq => nomatch heq), fun heq => (nomatch heq)⟩,
    ⟨fun w heq => (nomatch heq), fun _ _ => hquiet, fun k t w heq => (nomatch heq),
      h.waits.behind⟩,
    h.keys, handled, ref, hpress, ?_, hmode, hin, hcursor, htext⟩
  rw [htyped, hworker]
  rfl

/-! ## The answers -/

/-- An answer with the text that is shown. -/
theorem commit_shown {commits : List (List Char)} (hshown : text = s.input.displayString_) :
    s.commit text commits = { s with
      input := { s.input with maxLength_ := s.input.props.maxLength }
      update := .storing { s.input.props with text := text, value := some text }
      commits := commits } := by
  have hreplaces := s.input.replacesText_answer text
  rw [decide_eq_false (not_not.mpr hshown)] at hreplaces
  unfold ControlledInput.commit
  simp only [TextInput.updateText_eq, hreplaces, if_neg Bool.false_ne_true]

/-- An answer with another text. -/
theorem commit_replacing {commits : List (List Char)} (hne : text ≠ s.input.displayString_) :
    s.commit text commits = { s with
      input := { s.input with maxLength_ := s.input.props.maxLength }.withText text
      update := .posting { s.input.props with text := text, value := some text }
      commits := commits } := by
  have hreplaces := s.input.replacesText_answer text
  rw [decide_eq_true hne] at hreplaces
  unfold ControlledInput.commit
  simp only [TextInput.updateText_eq, hreplaces, if_true]

theorem not_quiet_of_commits {commits : List (List Char)} (hcommits : s.commits = text :: commits) :
    ¬ s.Quiet := by
  rintro ⟨hnil, -⟩
  rw [hcommits] at hnil
  cases hnil

theorem OneAnswer.of_commits {commits : List (List Char)} (h : s.OneAnswer)
    (hcommits : s.commits = text :: commits) :
    text ≠ s.input.displayString_ ∧ s.input.jsUpdateSem = 0 := by
  rw [OneAnswer, hcommits] at h
  rcases h with ⟨t, heq, hne, -, hzero⟩ | ⟨hnil, -⟩ | ⟨hnil, -⟩
  · obtain ⟨rfl, -⟩ := List.cons.inj heq
    exact ⟨hne, hzero⟩
  · cases hnil
  · cases hnil

/-- An answer that is shown already changes nothing. -/
theorem Echoes.commit_shown (h : s.Echoes start) {commits : List (List Char)}
    (hcommits : s.commits = text :: commits) (hshown : text = s.input.displayString_) :
    (s.commit text commits).Echoes start := by
  obtain ⟨handled, ref, hpress, htyped, hmode, hin, hcursor, htext⟩ := h.reference
  have hc := h.configured
  rw [ControlledInput.commit_shown hshown]
  refine ⟨⟨hc.editing, hc.editable, hc.props.1, hc.props, ?_, hc.off, hc.focus, hc.absent⟩,
    ⟨fun wait heq => ?_, fun hwait hno =>
      absurd (h.waits.quiet hwait hno) (not_quiet_of_commits hcommits), ?_, ?_⟩,
    h.keys, handled, ref, hpress, htyped, hmode, hin, hcursor, ?_⟩
  · rintro p (hp | hp)
    · cases hp
    · obtain rfl := PropsUpdate.storing.inj hp
      exact hc.props
  · exact absurd hshown ((h.waits.waiting wait heq).2.of_commits hcommits).1
  · intro k t w hw hreads
    obtain ⟨ht, hall⟩ := h.waits.copied k t w hw hreads
    rw [hcommits] at hall
    exact ⟨ht, fun u hu => hall u (List.mem_cons_of_mem _ hu)⟩
  · intro t ht
    apply h.waits.behind
    rw [hcommits]
    cases commits with
    | nil => cases ht
    | cons a l => exact List.mem_cons_of_mem _ ht
  · rw [htext]
    unfold lastText
    rw [hcommits]
    cases commits with
    | nil => exact hshown
    | cons a l => rw [List.getLast?_cons_cons]

/-- Only the last answer brings another text: that of the uncontrolled input. -/
theorem Echoes.commit_replacing (h : s.Echoes start) {commits : List (List Char)}
    (hcommits : s.commits = text :: commits) (hne : text ≠ s.input.displayString_) :
    (s.commit text commits).Echoes start := by
  obtain ⟨handled, ref, hpress, htyped, hmode, hin, hcursor, htext⟩ := h.reference
  have hc := h.configured
  have hbehind := h.waits.behind
  obtain rfl : commits = [] := by
    cases commits with
    | nil => rfl
    | cons a l =>
      rw [hcommits] at hbehind
      exact absurd (hbehind text List.mem_cons_self) hne
  have hlast : ref.displayString_ = text := by
    rw [htext]
    unfold lastText
    rw [hcommits]
    rfl
  rw [ControlledInput.commit_replacing hne]
  refine ⟨⟨hc.editing, hc.editable, hc.props.1, hc.props, ?_, hc.off, hc.focus, hc.absent⟩,
    ⟨fun wait heq => ?_, fun hwait hno =>
      absurd (h.waits.quiet hwait hno) (not_quiet_of_commits hcommits), ?_, ?_⟩,
    h.keys, handled, ref, hpress, htyped, hmode, hin, ?_, hlast⟩
  · rintro p (hp | hp)
    · obtain rfl := PropsUpdate.posting.inj hp
      exact hc.props
    · cases hp
  · obtain ⟨rfl, hanswer⟩ := h.waits.waiting wait heq
    exact ⟨rfl, Or.inr (Or.inl ⟨rfl, ⟨_, rfl⟩, (hanswer.of_commits hcommits).2⟩)⟩
  · intro k t w hw hreads
    obtain ⟨-, hall⟩ := h.waits.copied k t w hw hreads
    rw [hcommits] at hall
    exact absurd (hall text List.mem_cons_self) hne
  · intro t ht
    cases ht
  · have hend := hin.length
    rw [hlast] at hend
    show ref.cursor_ = Cursor.mk s.input.cursor_.locationFromEnd text.length
    rw [← hcursor, ← hend]

theorem Echoes.commit (h : s.Echoes start) {commits : List (List Char)}
    (hcommits : s.commits = text :: commits) : (s.commit text commits).Echoes start := by
  by_cases hshown : text = s.input.displayString_
  · exact h.commit_shown hcommits hshown
  · exact h.commit_replacing hcommits hshown

theorem Echoes.post (h : s.Echoes start) {props : TextInputProps}
    (hupdate : s.update = .posting props) :
    Echoes start { s with input := s.input.postUpdate, update := .storing props } := by
  obtain ⟨handled, ref, hpress, htyped, hmode, hin, hcursor, htext⟩ := h.reference
  have hc := h.configured
  have hposting : s.Posting := ⟨props, hupdate⟩
  have hfocus : s.input.isTextInputInFocus_ = true := by
    refine hc.focus fun habsent => ?_
    refine (h.waits.quiet (by rw [habsent]; rfl) fun wait heq => ?_).2.1 hposting
    rw [habsent] at heq
    cases heq
  unfold TextInput.postUpdate
  rw [if_pos hfocus]
  refine ⟨⟨hc.editing, hc.editable, hc.limit, hc.props, ?_, hc.off, hc.focus, hc.absent⟩,
    ⟨fun wait heq => ?_, fun hwait hno => absurd hposting (h.waits.quiet hwait hno).2.1,
      h.waits.copied, h.waits.behind⟩,
    h.keys, handled, ref, hpress, htyped, hmode, hin, hcursor, htext⟩
  · rintro p (hp | hp)
    · cases hp
    · obtain rfl := PropsUpdate.storing.inj hp
      exact hc.update _ (Or.inl hupdate)
  · obtain ⟨rfl, hanswer⟩ := h.waits.waiting wait heq
    rcases hanswer with ⟨_, _, _, hno, _⟩ | ⟨hnil, -, hzero⟩ | ⟨_, hno, _⟩
    · exact absurd hposting hno
    · refine ⟨rfl, Or.inr (Or.inr ⟨hnil, ?_, by simp only; omega⟩)⟩
      rintro ⟨p, hp⟩
      cases hp
    · exact absurd hposting hno

theorem Echoes.store (h : s.Echoes start) {props : TextInputProps}
    (hupdate : s.update = .storing props) :
    Echoes start { s with input := s.input.storeProps props, update := .idle } := by
  obtain ⟨handled, ref, hpress, htyped, hmode, hin, hcursor, htext⟩ := h.reference
  have hc := h.configured
  have hprops := hc.update props (Or.inr hupdate)
  have hposting : s.Posting ↔ ({ s with
      input := s.input.storeProps props, update := .idle } : ControlledInput).Posting := by
    constructor
    · rintro ⟨p, hp⟩
      rw [hupdate] at hp
      cases hp
    · rintro ⟨p, hp⟩
      cases hp
  refine ⟨⟨hc.editing, hprops.2, hc.limit, hprops, ?_, hc.off, hc.focus, hc.absent⟩,
    ⟨fun wait heq => ?_, fun hwait hno => ?_, h.waits.copied, h.waits.behind⟩,
    h.keys, handled, ref, hpress, htyped, hmode, hin, hcursor, htext⟩
  · rintro p (hp | hp)
    · cases hp
    · cases hp
  · have hanswer := h.waits.waiting wait heq
    unfold OneAnswer at hanswer ⊢
    rw [← hposting]
    exact hanswer
  · have hquiet := h.waits.quiet hwait hno
    unfold Quiet at hquiet ⊢
    rw [← hposting]
    exact hquiet

/-! ## Runs -/

/-- The step lemma. -/
theorem Echoes.exec (h : s.Echoes start) {op : ControlledOp} (hok : op.KeepsText s)
    (hrun : op.exec s = some s') : s'.Echoes start := by
  cases op with
  | onHandleKey key => exact h.onHandleKey hrun
  | noteRepeat =>
    simp only [ControlledOp.exec] at hrun
    split at hrun
    · rename_i hhandler
      exact h.noteRepeat hhandler hrun
    · cases hrun
  | push =>
    simp only [ControlledOp.exec] at hrun
    split at hrun
    · rename_i hhandler
      obtain rfl := Option.some.inj hrun
      exact h.push hhandler
    · cases hrun
  | test =>
    simp only [ControlledOp.exec] at hrun
    split at hrun
    · rename_i wait hworker
      have hfocus := h.configured.focus (by rw [hworker]; exact fun heq => nomatch heq)
      rw [hfocus, Bool.not_true, if_neg Bool.false_ne_true] at hrun
      split at hrun
      · obtain rfl := Option.some.inj hrun
        exact h
      · obtain rfl := Option.some.inj hrun
        exact h.test hworker
    · cases hrun
  | pop =>
    simp only [ControlledOp.exec] at hrun
    split at hrun
    · rename_i wait hworker
      obtain ⟨⟨key, keys⟩, hpop, rfl⟩ := Option.map_eq_some_iff.mp hrun
      exact h.pop hworker hpop
    · cases hrun
  | copyText =>
    simp only [ControlledOp.exec] at hrun
    split at hrun
    · rename_i key wait hworker
      obtain rfl := Option.some.inj hrun
      exact h.copyText hworker hok
    · cases hrun
  | processEventKey =>
    simp only [ControlledOp.exec] at hrun
    split at hrun
    · rename_i key text wait hworker
      exact h.processEventKey hworker hrun
    · cases hrun
  | wake =>
    simp only [ControlledOp.exec] at hrun
    split at hrun
    · rename_i wait hworker
      split at hrun
      · rename_i hsem
        obtain rfl := Option.some.inj hrun
        exact h.wake hworker hsem
      · cases hrun
    · cases hrun
  | updateComponentProps =>
    simp only [ControlledOp.exec] at hrun
    split at hrun
    · rename_i hcommits
      obtain rfl := Option.some.inj hrun
      exact h.commit hcommits
    · cases hrun
  | post =>
    simp only [ControlledOp.exec] at hrun
    split at hrun
    · rename_i props hupdate
      obtain rfl := Option.some.inj hrun
      exact h.post hupdate
    · cases hrun
  | store =>
    simp only [ControlledOp.exec] at hrun
    split at hrun
    · rename_i props hupdate
      obtain rfl := Option.some.inj hrun
      exact h.store hupdate
    · cases hrun

/-- An input with a value in editing mode, before its first key. -/
structure Start (start : TextInput) : Prop where
  inside : start.Inside
  editing : start.isInEditingMode_ = true
  editable : start.editable_ = true
  limit : start.maxLength_ = 0
  props : start.props.maxLength = 0 ∧ start.props.editable = true
  value : start.props.value.isSome = true
  focus : start.isTextInputInFocus_ = false
  keys : start.keys = {}
  semaphore : start.jsUpdateSem = 0

theorem Start.echoes (h : Start start) : Echoes start { input := start } := by
  refine ⟨⟨h.editing, h.editable, h.limit, h.props, ?_, ?_, ?_, fun _ => h.focus⟩,
    ⟨?_, fun _ _ => ⟨rfl, ?_, h.semaphore⟩, ?_, ?_⟩, ?_, [], start.uncontrolled, rfl, ?_,
    ⟨h.editing, h.editable, rfl, h.limit⟩, ⟨h.inside.nonneg, h.inside.le, h.inside.length⟩,
    rfl, rfl⟩
  · rintro props (heq | heq)
    · cases heq
    · cases heq
  · show start.keys.isKeyRepeateOn = false
    rw [h.keys]
  · exact fun hne => absurd rfl hne
  · intro wait heq
    cases heq
  · rintro ⟨props, heq⟩
    cases heq
  · intro key text wait heq
    cases heq
  · intro text hin
    cases hin
  · intro key hin
    cases hin
  · show [] = [] ++ [] ++ start.keys.inputQueue ++ []
    rw [h.keys]
    rfl

/-- Nothing is on its way. -/
structure Quiescent (s : ControlledInput) : Prop where
  handler : s.handler = .idle
  queue : s.input.keys.inputQueue = []
  worker : s.worker = .absent ∨ ∃ wait, s.worker = .looping wait
  commits : s.commits = []
  update : s.update = .idle

/-- In every run whose steps meet the condition the input is what an uncontrolled one is after the
same keys, whenever nothing is on its way. -/
theorem controlledRun_echoes (hstart : Start start)
    (hrun : Run controlledStep (fun s op => op.KeepsText s) { input := start } s)
    (hquiescent : s.Quiescent) :
    ∃ ref, start.uncontrolled.pressKeys s.typed = some ref ∧
      s.input.displayString_ = ref.displayString_ ∧ s.input.cursor_ = ref.cursor_ := by
  have hechoes : s.Echoes start := by
    refine hrun.invariant (P := Echoes start) ?_ hstart.echoes
    intro u op v hu hok hstep
    exact hu.exec hok hstep
  obtain ⟨handled, ref, hpress, htyped, -, -, hcursor, htext⟩ := hechoes.reference
  have hworker : s.worker.key = [] := by
    rcases hquiescent.worker with heq | ⟨wait, heq⟩
    · rw [heq]
      rfl
    · rw [heq]
      rfl
  rw [hworker, hquiescent.queue, hquiescent.handler] at htyped
  have hall : s.typed = handled := by
    rw [htyped]
    show handled ++ [] ++ [] ++ [] = handled
    simp
  refine ⟨ref, hall ▸ hpress, ?_, hcursor.symm⟩
  rw [htext]
  unfold lastText
  rw [hquiescent.commits]
  rfl

/-- An empty input with a value in editing mode. -/
def emptyInput : TextInput :=
  { isInEditingMode_ := true, props := { value := some [] } }

theorem emptyInput_start : Start emptyInput :=
  ⟨⟨Int.le_refl 0, Int.le_refl 0, rfl⟩, rfl, rfl, rfl, ⟨rfl, rfl⟩, rfl, rfl, rfl, rfl⟩

/-- Key a is typed and answered, then the cursor goes before it and key b is typed. -/
theorem controlledRun_echoes_insertion : ∃ s : ControlledInput, s.Quiescent ∧
    ∃ ref, emptyInput.uncontrolled.pressKeys s.typed = some ref ∧
      s.input.displayString_ = ref.displayString_ ∧ s.input.cursor_ = ref.cursor_ := by
  have hfold : ([.onHandleKey .RNS_KEY_a, .noteRepeat, .push, .test, .pop,
      .onHandleKey .RNS_KEY_Left, .copyText, .processEventKey, .noteRepeat, .push,
      .updateComponentProps, .post, .wake, .store, .test, .pop, .copyText, .processEventKey,
      .onHandleKey .RNS_KEY_b, .noteRepeat, .push, .test, .pop, .copyText, .processEventKey,
      .updateComponentProps, .post, .store].foldlM
        (fun s (op : ControlledOp) => if op.KeepsText s then op.exec s else none)
        { input := emptyInput }).map (fun s =>
          ((s.handler, s.worker, s.update), s.input.keys.inputQueue, s.commits)) = some
      ((.idle, .looping false, .idle), [], []) := by
    decide
  obtain ⟨s, hrun, hs⟩ := Option.map_eq_some_iff.mp hfold
  simp only [Prod.mk.injEq] at hs
  obtain ⟨⟨hhandler, hworker, hupdate⟩, hqueue, hcommits⟩ := hs
  have hquiescent : s.Quiescent :=
    ⟨hhandler, hqueue, Or.inr ⟨false, hworker⟩, hcommits, hupdate⟩
  exact ⟨s, hquiescent, controlledRun_echoes emptyInput_start
    (Run.of_checked_exec hrun) hquiescent⟩

/-- The cursor cannot go left, the thread stops waiting, and key b replaces key a. -/
theorem edit_after_move_lost : ¬ ∀ (start : TextInput) (s : ControlledInput), Start start →
    Run controlledStep anyStep { input := start } s → s.Quiescent →
      ∃ ref, start.uncontrolled.pressKeys s.typed = some ref ∧
        s.input.displayString_ = ref.displayString_ ∧ s.input.cursor_ = ref.cursor_ := by
  intro hall
  have hfold : [.onHandleKey .RNS_KEY_Left, .noteRepeat, .push, .onHandleKey .RNS_KEY_a,
      .noteRepeat, .push, .onHandleKey .RNS_KEY_b, .noteRepeat, .push,
      .test, .pop, .copyText, .processEventKey, .test, .pop, .copyText, .processEventKey,
      .test, .pop, .copyText, .processEventKey,
      .updateComponentProps, .post, .store, .updateComponentProps, .post, .store].foldlM
        ControlledOp.exec { input := emptyInput } = some
      { input := { emptyInput with
          props := { text := ['b'], value := some ['b'] }
          isTextInputInFocus_ := true
          eventCount_ := 2
          displayString_ := ['b']
          cursor_ := { locationFromEnd := 0, end_ := 1 }
          jsUpdateSem := 2 }
        worker := .looping false
        typed := [.RNS_KEY_Left, .RNS_KEY_a, .RNS_KEY_b] } := by
    decide
  obtain ⟨ref, hpress, hdisplay, -⟩ := hall emptyInput _ emptyInput_start
    (Run.of_exec hfold)
    ⟨rfl, rfl, Or.inr ⟨false, rfl⟩, rfl, rfl⟩
  have href : (emptyInput.uncontrolled.pressKeys [.RNS_KEY_Left, .RNS_KEY_a, .RNS_KEY_b]).map
      TextInput.displayString_ = some ['a', 'b'] := by
    decide
  rw [hpress, Option.map_some, ← hdisplay] at href
  revert href
  decide

end ControlledInput

end ReactNativeSkia
