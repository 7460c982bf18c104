import ReactNativeSkia.Input.KeyFlushing
import ReactNativeSkia.Misc.Run

/-!
# What a flush may drop

A flush is meant for the repeats of the key that has been released. It empties the queue of
whatever is there, and how much that is depends on the worker: as long as only repeats are queued
when a flush comes, every other press and every release goes through, once and in order.
-/

namespace ReactNativeSkia

variable {s t : KeyFlushing}

/-- A press that is flagged as a repeat. -/
def RSkKeyInput.isRepeat (keyInput : RSkKeyInput) : Bool :=
  keyInput.action_ = .RNS_KEY_Press && keyInput.repeat_

/-- What the handler is to push. -/
def KeyHandlerAt.keyInputs : KeyHandlerAt → List RSkKeyInput
  | idle => []
  | testing keyInput | clearing keyInput | pushing keyInput => [keyInput]

namespace KeyFlushing

/-- What is not a repeat, in order. -/
def lasting (keyInputs : List RSkKeyInput) : List RSkKeyInput :=
  keyInputs.filter fun keyInput => !keyInput.isRepeat

/-- The handler is done, and the worker with all it has been given. -/
def Drained (s : KeyFlushing) : Prop :=
  s.handler = .idle ∧ s.worker = none ∧ s.manager.keyQueue_ = []

/-- Only repeats are dropped. -/
structure DropsRepeats (s : KeyFlushing) : Prop where
  /-- Nothing is processed twice or out of order. -/
  once : s.processed.Sublist s.arrived
  /-- Nothing but a repeat is passed over. -/
  inOrder : lasting s.processed <+: lasting s.arrived
  all : s.Drained → lasting s.processed = lasting s.arrived

/-- What is on its way to `processKey`, the next first. -/
def onItsWay (s : KeyFlushing) : List RSkKeyInput :=
  s.worker.toList ++ s.manager.keyQueue_ ++ s.handler.keyInputs

end KeyFlushing

/-- A flush finds only repeats in the queue. -/
def KeyFlushingOp.FlushesRepeats (s : KeyFlushing) (op : KeyFlushingOp) : Prop :=
  op = .clear → ∀ keyInput ∈ s.manager.keyQueue_, keyInput.isRepeat = true

instance (s : KeyFlushing) (op : KeyFlushingOp) : Decidable (op.FlushesRepeats s) := by
  unfold KeyFlushingOp.FlushesRepeats
  infer_instance

/-! ## The steps together -/

/-- With nobody in between, the steps of the handler are `keyHandler`. -/
theorem keyHandler_eq_steps (m : InputEventManager) (event : KeyEvent) :
    m.keyHandler true event =
      (if m.endsRepeat event then (m.note event).clear else m.note event).handOn true
        (m.keyInput event) := by
  by_cases hrelease : event.eventKeyAction = .RNS_KEY_Release
  · cases hrepeat : m.keyRepeat <;>
      simp [InputEventManager.keyHandler, InputEventManager.endsRepeat, InputEventManager.note,
        InputEventManager.keyInput, InputEventManager.clear, InputEventManager.handOn,
        InputEventManager.release, hrelease, hrepeat]
  · simp [InputEventManager.keyHandler, InputEventManager.endsRepeat, InputEventManager.note,
      InputEventManager.keyInput, InputEventManager.handOn, hrelease]

namespace KeyFlushing

@[simp] theorem lasting_append (l l' : List RSkKeyInput) :
    lasting (l ++ l') = lasting l ++ lasting l' := List.filter_append ..

theorem lasting_eq_nil {l : List RSkKeyInput} (h : ∀ keyInput ∈ l, keyInput.isRepeat = true) :
    lasting l = [] := by
  rw [lasting, List.filter_eq_nil_iff]
  intro keyInput hmem
  simp [h keyInput hmem]

@[simp] theorem note_keyQueue (m : InputEventManager) (event : KeyEvent) :
    (m.note event).keyQueue_ = m.keyQueue_ := by
  unfold InputEventManager.note
  dsimp only
  split <;> split <;> rfl

theorem keyInputs_receive (s : KeyFlushing) (event : KeyEvent) :
    (s.receive event).handler.keyInputs = [s.manager.keyInput event] := by
  simp only [receive]
  split <;> rfl

/-! ## The invariant -/

structure Keeps (s : KeyFlushing) : Prop where
  /-- What has not been dropped is processed or on its way. -/
  sublist : (s.processed ++ s.onItsWay).Sublist s.arrived
  lasting : lasting (s.processed ++ s.onItsWay) = lasting s.arrived

theorem Keeps.init : Keeps {} := ⟨List.Sublist.refl _, rfl⟩

/-- A step that drops nothing. -/
theorem Keeps.congr (h : s.Keeps)
    (hway : t.processed ++ t.onItsWay = s.processed ++ s.onItsWay)
    (harrived : t.arrived = s.arrived) : t.Keeps := by
  refine ⟨?_, ?_⟩
  · rw [hway, harrived]
    exact h.sublist
  · rw [hway, harrived]
    exact h.lasting

theorem Keeps.receive (h : s.Keeps) (hidle : s.handler = .idle) (event : KeyEvent) :
    (s.receive event).Keeps := by
  have hway : (s.receive event).processed ++ (s.receive event).onItsWay =
      (s.processed ++ s.onItsWay) ++ [s.manager.keyInput event] := by
    rw [onItsWay, keyInputs_receive]
    simp [onItsWay, KeyHandlerAt.keyInputs, KeyFlushing.receive, hidle]
  refine ⟨?_, ?_⟩
  · rw [hway]
    exact h.sublist.append (List.Sublist.refl _)
  · rw [hway, lasting_append, h.lasting]
    exact (lasting_append _ _).symm

theorem Keeps.clear (h : s.Keeps) {keyInput : RSkKeyInput}
    (hhandler : s.handler = .clearing keyInput)
    (hrepeats : ∀ k ∈ s.manager.keyQueue_, k.isRepeat = true) :
    Keeps { s with manager := s.manager.clear, handler := .pushing keyInput } := by
  have hbefore : s.onItsWay = s.worker.toList ++ s.manager.keyQueue_ ++ [keyInput] := by
    simp [onItsWay, KeyHandlerAt.keyInputs, hhandler]
  obtain ⟨hsublist, hlasting⟩ := h
  rw [hbefore] at hsublist hlasting
  refine ⟨?_, ?_⟩
  · apply List.Sublist.trans _ hsublist
    simp [onItsWay, KeyHandlerAt.keyInputs, InputEventManager.clear]
  · rw [← hlasting]
    simp [onItsWay, KeyHandlerAt.keyInputs, InputEventManager.clear, lasting_eq_nil hrepeats]

theorem Keeps.step (h : s.Keeps) {op : KeyFlushingOp} (hok : op.FlushesRepeats s)
    (hexec : op.exec s = some t) : t.Keeps := by
  cases op with
  | receive event =>
    obtain ⟨hidle, ⟨⟩⟩ := Option.ite_none_right_eq_some.mp hexec
    exact h.receive hidle event
  | isEmpty =>
    simp only [KeyFlushingOp.exec] at hexec
    split at hexec
    · rename_i keyInput hhandler
      obtain rfl := Option.some.inj hexec
      refine h.congr ?_ rfl
      simp only [onItsWay, hhandler]
      split <;> rfl
    · cases hexec
  | clear =>
    simp only [KeyFlushingOp.exec] at hexec
    split at hexec
    · rename_i keyInput hhandler
      obtain rfl := Option.some.inj hexec
      exact h.clear hhandler (hok rfl)
    · cases hexec
  | push =>
    simp only [KeyFlushingOp.exec] at hexec
    split at hexec
    · rename_i keyInput hhandler
      obtain rfl := Option.some.inj hexec
      refine h.congr ?_ rfl
      simp [onItsWay, KeyHandlerAt.keyInputs, hhandler, InputEventManager.handOn]
    · cases hexec
  | pop =>
    simp only [KeyFlushingOp.exec] at hexec
    split at hexec
    · rename_i keyInput rest hworker hqueue
      obtain rfl := Option.some.inj hexec
      refine h.congr ?_ rfl
      simp [onItsWay, KeyHandlerAt.keyInputs, hworker, hqueue]
    · cases hexec
  | processKey =>
    simp only [KeyFlushingOp.exec] at hexec
    split at hexec
    · rename_i keyInput hworker
      obtain rfl := Option.some.inj hexec
      refine h.congr ?_ rfl
      simp [onItsWay, KeyHandlerAt.keyInputs, hworker]
    · cases hexec

theorem Keeps.dropsRepeats (h : s.Keeps) : s.DropsRepeats where
  once := (List.sublist_append_left _ _).trans h.sublist
  inOrder := by
    rw [← h.lasting, lasting_append]
    exact List.prefix_append _ _
  all := by
    rintro ⟨hhandler, hworker, hqueue⟩
    have hway : s.onItsWay = [] := by
      simp [onItsWay, KeyHandlerAt.keyInputs, hhandler, hworker, hqueue]
    rw [← h.lasting, hway, List.append_nil]

end KeyFlushing

/-! ## Runs -/

end ReactNativeSkia
