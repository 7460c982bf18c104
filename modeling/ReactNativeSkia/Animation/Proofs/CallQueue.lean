import Mathlib.Data.List.Basic
import ReactNativeSkia.Animation.RnsJsRaf

/-!
# The queued calls of the animation objects

An active object has one call queued, whose number is in `rafId_`; while its own callback is
running it has none until the callback returns. An object that is not active has none. The numbers
of the objects differ, so that a cancellation meets no call of another object.
-/

namespace ReactNativeSkia

variable {s t : AnimationLoop} {object : Nat}

namespace AnimationLoop

/-! ## The queued calls of an object -/

/-- All calls that have not begun. -/
def calls (s : AnimationLoop) : List QueuedCall :=
  s.queue ++ (s.frame.map AnimationFrame.calls).getD []

def callsOf (s : AnimationLoop) (object : Nat) : List QueuedCall :=
  s.calls.filter (·.object = object)

/-- One call of the object that can be cancelled, or none. -/
def Holds (s : AnimationLoop) (object : Nat) : Prop :=
  ((s.objects object).isActive_ = true ∧
    s.callsOf object = [⟨(s.objects object).rafId_, object⟩] ∧ (s.objects object).rafId_ ≠ 0) ∨
  (s.callsOf object = [] ∧
    ((s.objects object).isActive_ = false ∨ s.running = some object))

/-- No two objects have the same number. -/
structure Numbered (s : AnimationLoop) : Prop where
  pos : 0 < s.nextRafId
  fresh : ∀ object, (s.objects object).rafId_ < s.nextRafId
  distinct : ∀ object object', (s.objects object).rafId_ = (s.objects object').rafId_ →
    (s.objects object).rafId_ ≠ 0 → object = object'

section

variable {object' : Nat} {queued : QueuedCall}

theorem mem_calls_iff : queued ∈ s.calls ↔ queued ∈ s.callsOf queued.object := by
  simp [callsOf]

/-- A call that is queued can be cancelled. -/
theorem Holds.of_mem (h : s.Holds queued.object) (hmem : queued ∈ s.calls) :
    (s.objects queued.object).isActive_ = true ∧
      queued.rafId = (s.objects queued.object).rafId_ ∧ queued.rafId ≠ 0 := by
  rw [mem_calls_iff] at hmem
  rcases h with ⟨hactive, hcalls, hne⟩ | ⟨hcalls, -⟩
  · rw [hcalls, List.mem_singleton] at hmem
    have hrafId : queued.rafId = (s.objects queued.object).rafId_ := congrArg QueuedCall.rafId hmem
    exact ⟨hactive, hrafId, hrafId ▸ hne⟩
  · rw [hcalls] at hmem
    cases hmem

theorem Holds.of_inactive (h : s.Holds object) (hactive : (s.objects object).isActive_ = false) :
    s.callsOf object = [] := by
  rcases h with ⟨hactive', -⟩ | ⟨hcalls, -⟩
  · rw [hactive] at hactive'
    cases hactive'
  · exact hcalls

/-- What an object holds is read off itself, its calls and whether its callback is running. -/
theorem Holds.congr (h : s.Holds object) (hobject : t.objects object = s.objects object)
    (hcalls : t.callsOf object = s.callsOf object)
    (hrunning : s.running = some object → t.running = some object) : t.Holds object := by
  unfold Holds
  rw [hobject, hcalls]
  rcases h with hone | ⟨hnone, hinactive | hrun⟩
  · exact Or.inl hone
  · exact Or.inr ⟨hnone, Or.inl hinactive⟩
  · exact Or.inr ⟨hnone, Or.inr (hrunning hrun)⟩

theorem Numbered.congr (h : s.Numbered) (hnext : t.nextRafId = s.nextRafId)
    (hobjects : ∀ object, (t.objects object).rafId_ = (s.objects object).rafId_) :
    t.Numbered where
  pos := hnext ▸ h.pos
  fresh object := by
    rw [hobjects, hnext]
    exact h.fresh object
  distinct object object' := by
    rw [hobjects, hobjects]
    exact h.distinct object object'

theorem Numbered.setActive (h : s.Numbered) (object : Nat) (isActive : Bool) :
    (s.setObject object { s.objects object with isActive_ := isActive }).Numbered := by
  refine h.congr rfl fun object' => ?_
  by_cases heq : object' = object
  · subst heq
    simp [setObject]
  · simp [setObject, Function.update_of_ne heq]

end

/-! ## Requests -/

section

variable (s object)

@[simp] theorem requestAnimationFrame_frame :
    (s.requestAnimationFrame object).frame = s.frame := by
  unfold requestAnimationFrame
  split <;> rfl

@[simp] theorem requestAnimationFrame_previousValue :
    (s.requestAnimationFrame object).previousValue = s.previousValue := by
  unfold requestAnimationFrame
  split <;> rfl

@[simp] theorem requestAnimationFrame_lastTimestamp :
    (s.requestAnimationFrame object).lastTimestamp = s.lastTimestamp := by
  unfold requestAnimationFrame
  split <;> rfl

@[simp] theorem requestAnimationFrame_lastFrame :
    (s.requestAnimationFrame object).lastFrame = s.lastFrame := by
  unfold requestAnimationFrame
  split <;> rfl

@[simp] theorem requestAnimationFrame_called :
    (s.requestAnimationFrame object).called = s.called := by
  unfold requestAnimationFrame
  split <;> rfl

@[simp] theorem requestAnimationFrame_frames :
    (s.requestAnimationFrame object).frames = s.frames := by
  unfold requestAnimationFrame
  split <;> rfl

end

theorem requestAnimationFrame_objects_of_ne {object' : Nat} (hne : object' ≠ object) :
    (s.requestAnimationFrame object).objects object' = s.objects object' := by
  unfold requestAnimationFrame
  split <;> exact Function.update_of_ne hne _ _

theorem callsOf_requestAnimationFrame_of_ne {object' : Nat} (hne : object' ≠ object) :
    (s.requestAnimationFrame object).callsOf object' = s.callsOf object' := by
  unfold requestAnimationFrame
  split
  · simp [callsOf, calls, setObject, hne.symm]
  · rfl

/-- A request of an object that has no call queued. -/
theorem holds_requestAnimationFrame (h : s.Numbered) (hnone : s.callsOf object = []) :
    (s.requestAnimationFrame object).Holds object := by
  unfold requestAnimationFrame
  split
  · rename_i hactive
    have hcalls := hnone
    simp only [callsOf, calls, List.filter_append, List.append_eq_nil_iff] at hcalls
    refine Or.inl ⟨by simpa [setObject] using hactive, ?_, ?_⟩
    · simp [callsOf, calls, setObject, hcalls.1, hcalls.2]
    · have hpos := h.pos
      simp only [setObject, Function.update_self]
      omega
  · rename_i hactive
    exact Or.inr ⟨hnone, Or.inl (by simpa [setObject] using hactive)⟩

theorem numbered_requestAnimationFrame (h : s.Numbered) :
    (s.requestAnimationFrame object).Numbered := by
  unfold requestAnimationFrame
  split
  · refine ⟨Nat.succ_pos _, ?_, ?_⟩
    · intro object'
      by_cases heq : object' = object
      · subst heq
        simp [setObject]
      · have hfresh := h.fresh object'
        simp only [setObject, Function.update_of_ne heq]
        omega
    · -- the new number is larger than all others
      intro a b
      have hfresh := h.fresh
      by_cases ha : a = object <;> by_cases hb : b = object
      · intros
        rw [ha, hb]
      · subst ha
        simp only [setObject, Function.update_self, Function.update_of_ne hb]
        intro heq
        exact absurd (hfresh b) (by omega)
      · subst hb
        simp only [setObject, Function.update_self, Function.update_of_ne ha]
        intro heq
        exact absurd (hfresh a) (by omega)
      · simp only [setObject, Function.update_of_ne ha, Function.update_of_ne hb]
        exact h.distinct a b
  · refine ⟨h.pos, ?_, ?_⟩
    · intro object'
      by_cases heq : object' = object
      · subst heq
        simpa [setObject] using h.pos
      · simpa [setObject, Function.update_of_ne heq] using h.fresh object'
    · intro a b
      by_cases ha : a = object
      · subst ha
        simp [setObject]
      · by_cases hb : b = object
        · subst hb
          simp only [setObject, Function.update_self, Function.update_of_ne ha]
          intro heq hne
          exact absurd heq hne
        · simp only [setObject, Function.update_of_ne ha, Function.update_of_ne hb]
          exact h.distinct a b

/-! ## What the queues keep -/

/-- The calls and the numbers. -/
structure Queues (s : AnimationLoop) : Prop where
  holds : ∀ object, s.Holds object
  numbered : s.Numbered

/-- Between the frames an active object has one call, and the others have none. -/
theorem Queues.countP_queue (h : s.Queues) (hframe : s.frame = none) (object : Nat) :
    s.queue.countP (·.object = object) = if (s.objects object).isActive_ then 1 else 0 := by
  have hcallsOf : s.callsOf object = s.queue.filter (·.object = object) := by
    simp [callsOf, calls, hframe]
  rw [List.countP_eq_length_filter, ← hcallsOf]
  rcases h.holds object with ⟨hactive, hone, -⟩ | ⟨hnone, hinactive | hrunning⟩
  · rw [hone, if_pos hactive]
    rfl
  · rw [hnone, hinactive]
    rfl
  · simp [running, hframe] at hrunning

/-- A request after a step that has left the object without a call. -/
theorem Queues.request (hnumbered : t.Numbered) (hnone : t.callsOf object = [])
    (hothers : ∀ object' ≠ object, t.Holds object') :
    (t.requestAnimationFrame object).Queues where
  holds object' := by
    by_cases heq : object' = object
    · subst heq
      exact holds_requestAnimationFrame hnumbered hnone
    · refine (hothers object' heq).congr (requestAnimationFrame_objects_of_ne heq)
        (callsOf_requestAnimationFrame_of_ne heq) ?_
      simp [running]
  numbered := numbered_requestAnimationFrame hnumbered

theorem Queues.start (h : s.Queues) (object : Nat) : (s.start object).Queues := by
  unfold AnimationLoop.start
  split
  · exact h
  · rename_i hactive
    have hnone := (h.holds object).of_inactive (Bool.eq_false_iff.mpr hactive)
    apply Queues.request
    · exact h.numbered.setActive object true
    · exact hnone
    · intro object' hne
      exact (h.holds object').congr (Function.update_of_ne hne _ _) rfl id

/-! ### `stop` -/

theorem withoutCall_append (rafId : Nat) (calls calls' : List QueuedCall) :
    withoutCall rafId (calls ++ calls') = withoutCall rafId calls ++ withoutCall rafId calls' :=
  List.filter_append ..

theorem withoutCall_eq_self {rafId : Nat} {calls : List QueuedCall}
    (h : ∀ queued ∈ calls, queued.rafId ≠ rafId) : withoutCall rafId calls = calls := by
  rw [withoutCall, List.filter_eq_self]
  intro queued hmem
  simpa using h queued hmem

theorem callsOf_cancelAnimationFrame {rafId : Nat} (hne : rafId ≠ 0) (object : Nat) :
    (s.cancelAnimationFrame rafId).callsOf object = withoutCall rafId (s.callsOf object) := by
  have hcalls : (s.cancelAnimationFrame rafId).calls = withoutCall rafId s.calls := by
    unfold cancelAnimationFrame calls
    rw [if_pos hne, withoutCall_append]
    cases s.frame <;> rfl
  rw [callsOf, hcalls, callsOf, withoutCall, withoutCall, List.filter_comm]

theorem callsOf_cancel_setObject (s : AnimationLoop) (object : Nat) (raf : RnsJsRequestAnimation)
    (rafId object' : Nat) :
    ((s.setObject object raf).cancelAnimationFrame rafId).callsOf object' =
      (s.cancelAnimationFrame rafId).callsOf object' := by
  unfold cancelAnimationFrame
  split <;> rfl

@[simp] theorem callsOf_noteStopped (s : AnimationLoop) (object object' : Nat) :
    (s.noteStopped object).callsOf object' = s.callsOf object' := by
  unfold callsOf calls noteStopped
  cases s.frame with
  | none => rfl
  | some frame =>
    simp only [Option.map_some, Option.getD_some, AnimationFrame.noteStopped]
    split <;> rfl

@[simp] theorem running_noteStopped (s : AnimationLoop) (object : Nat) :
    (s.noteStopped object).running = s.running := by
  unfold running noteStopped
  cases s.frame with
  | none => rfl
  | some frame =>
    simp only [Option.map_some, Option.bind_some, AnimationFrame.noteStopped]
    split <;> rfl

@[simp] theorem running_cancelAnimationFrame (s : AnimationLoop) (rafId : Nat) :
    (s.cancelAnimationFrame rafId).running = s.running := by
  unfold running cancelAnimationFrame
  split
  · cases s.frame <;> rfl
  · rfl

@[simp] theorem cancelAnimationFrame_objects (s : AnimationLoop) (rafId : Nat) :
    (s.cancelAnimationFrame rafId).objects = s.objects := by
  unfold cancelAnimationFrame
  split <;> rfl

@[simp] theorem cancelAnimationFrame_nextRafId (s : AnimationLoop) (rafId : Nat) :
    (s.cancelAnimationFrame rafId).nextRafId = s.nextRafId := by
  unfold cancelAnimationFrame
  split <;> rfl

/-- The number in `rafId_` is that of no other object's call. -/
theorem Queues.rafId_ne (h : s.Queues) {queued : QueuedCall} (hmem : queued ∈ s.calls)
    (hne : queued.object ≠ object) : queued.rafId ≠ (s.objects object).rafId_ := by
  obtain ⟨-, hrafId, hpos⟩ := (h.holds queued.object).of_mem hmem
  intro heq
  rw [hrafId] at heq hpos
  exact hne (h.numbered.distinct _ _ heq hpos)

/-- A cancelled object has no call. -/
theorem Queues.callsOf_cancel_self (h : s.Queues) (object : Nat) :
    (s.cancelAnimationFrame (s.objects object).rafId_).callsOf object = [] := by
  by_cases hzero : (s.objects object).rafId_ = 0
  · rw [hzero, show s.cancelAnimationFrame 0 = s from rfl]
    rcases h.holds object with ⟨-, -, hne⟩ | ⟨hnone, -⟩
    · exact absurd hzero hne
    · exact hnone
  · rw [callsOf_cancelAnimationFrame hzero]
    rcases h.holds object with ⟨-, hcalls, -⟩ | ⟨hnone, -⟩
    · rw [hcalls]
      simp [withoutCall]
    · rw [hnone]
      rfl

/-- The others keep theirs. -/
theorem Queues.callsOf_cancel_of_ne (h : s.Queues) {object' : Nat} (hne : object' ≠ object) :
    (s.cancelAnimationFrame (s.objects object).rafId_).callsOf object' = s.callsOf object' := by
  by_cases hzero : (s.objects object).rafId_ = 0
  · rw [hzero]
    rfl
  · rw [callsOf_cancelAnimationFrame hzero]
    apply withoutCall_eq_self
    intro queued hmem
    obtain ⟨hcalls, hobject⟩ := List.mem_filter.mp hmem
    apply h.rafId_ne hcalls
    rw [of_decide_eq_true hobject]
    exact hne

theorem Queues.stop (h : s.Queues) (object : Nat) : (s.stop object).Queues := by
  unfold AnimationLoop.stop
  split
  · rename_i hactive
    refine ⟨?_, ?_⟩
    · intro object'
      by_cases heq : object' = object
      · subst heq
        refine Or.inr ⟨?_, Or.inl ?_⟩
        · rw [callsOf_noteStopped, callsOf_cancel_setObject]
          exact h.callsOf_cancel_self object'
        · simp [noteStopped, setObject]
      · apply (h.holds object').congr
        · simp [noteStopped, setObject, Function.update_of_ne heq]
        · rw [callsOf_noteStopped, callsOf_cancel_setObject]
          exact h.callsOf_cancel_of_ne heq
        · intro hrunning
          rw [running_noteStopped, running_cancelAnimationFrame]
          exact hrunning
    · apply (h.numbered.setActive object false).congr
      · simp [noteStopped]
      · simp [noteStopped]
  · exact h

/-! ### Frames -/

theorem Queues.beginFrame (h : s.Queues) (hframe : s.frame = none) (timestamp : ℚ) :
    (s.beginFrame timestamp).Queues := by
  refine ⟨?_, h.numbered.congr rfl fun _ => rfl⟩
  intro object
  refine (h.holds object).congr (t := s.beginFrame timestamp) rfl ?_ ?_
  · simp [callsOf, calls, AnimationLoop.beginFrame, hframe]
  · simp [running, hframe]

/-- A call that begins is its object's only one. -/
theorem Queues.callsOf_rest (h : s.Queues) {frame : AnimationFrame} {queued : QueuedCall}
    {rest : List QueuedCall} (hframe : s.frame = some frame) (hcalls : frame.calls = queued :: rest)
    (object : Nat) :
    (s.queue ++ rest).filter (·.object = object) =
      if object = queued.object then [] else s.callsOf object := by
  have hall : s.calls = s.queue ++ queued :: rest := by simp [calls, hframe, hcalls]
  split
  · rename_i heq
    subst heq
    have hmem : queued ∈ s.calls := by simp [hall]
    rcases h.holds queued.object with ⟨-, hone, -⟩ | ⟨hnone, -⟩
    · have hlength := congrArg List.length hone
      simp only [callsOf, hall, List.filter_append, List.filter_cons, List.length_append,
        decide_true, if_true, List.length_cons, List.length_nil] at hlength
      rw [List.filter_append, List.append_eq_nil_iff]
      exact ⟨List.eq_nil_of_length_eq_zero (by omega), List.eq_nil_of_length_eq_zero (by omega)⟩
    · rw [mem_calls_iff, hnone] at hmem
      cases hmem
  · rename_i hne
    simp [callsOf, hall, Ne.symm hne]

section

variable {frame frame' : AnimationFrame} {queued : QueuedCall} {rest : List QueuedCall}

/-- A call that has begun is no longer queued, and its object is left without one. -/
theorem Queues.callsOf_begun (h : s.Queues) (hframe : s.frame = some frame)
    (hcalls : frame.calls = queued :: rest) (hqueue : t.queue = s.queue)
    (htframe : t.frame = some frame') (hrest : frame'.calls = rest) (object : Nat) :
    t.callsOf object = if object = queued.object then [] else s.callsOf object := by
  rw [← h.callsOf_rest hframe hcalls object, callsOf, calls, hqueue, htframe, ← hrest]
  rfl

theorem Queues.callsOf_begun_self (h : s.Queues) (hframe : s.frame = some frame)
    (hcalls : frame.calls = queued :: rest) (hqueue : t.queue = s.queue)
    (htframe : t.frame = some frame') (hrest : frame'.calls = rest) :
    t.callsOf queued.object = [] := by
  rw [h.callsOf_begun hframe hcalls hqueue htframe hrest, if_pos rfl]

/-- The other objects hold what they have held. -/
theorem Queues.holds_of_ne (h : s.Queues) (hframe : s.frame = some frame)
    (hidle : frame.callback = none) (hobjects : t.objects = s.objects)
    (hcallsOf : ∀ object, t.callsOf object =
      if object = queued.object then [] else s.callsOf object)
    (hne : object ≠ queued.object) : t.Holds object := by
  apply (h.holds object).congr
  · rw [hobjects]
  · rw [hcallsOf, if_neg hne]
  · intro hrunning
    simp [running, hframe, hidle] at hrunning

theorem Queues.call (h : s.Queues) (hframe : s.frame = some frame)
    (hcalls : frame.calls = queued :: rest) (hidle : frame.callback = none) :
    (s.call frame queued.object rest).Queues := by
  unfold AnimationLoop.call
  dsimp only
  split
  · refine ⟨?_, h.numbered.congr rfl fun _ => rfl⟩
    intro object
    by_cases heq : object = queued.object
    · subst heq
      exact Or.inr ⟨h.callsOf_begun_self hframe hcalls rfl rfl rfl, Or.inr rfl⟩
    · exact h.holds_of_ne hframe hidle rfl (h.callsOf_begun hframe hcalls rfl rfl rfl) heq
  · refine Queues.request (h.numbered.congr rfl fun _ => rfl) ?_ ?_
    · exact h.callsOf_begun_self hframe hcalls rfl rfl rfl
    · intro object hne
      exact h.holds_of_ne hframe hidle rfl (h.callsOf_begun hframe hcalls rfl rfl rfl) hne

end

theorem Queues.callbackReturns (h : s.Queues) {frame : AnimationFrame}
    (hframe : s.frame = some frame) (hrunning : frame.callback = some object)
    (hnone : s.callsOf object = []) : (s.callbackReturns frame object).Queues := by
  unfold AnimationLoop.callbackReturns
  have hcallsOf : ∀ object', { s with
      previousValue := some frame.timestamp
      frame := some { frame with callback := none } }.callsOf object' = s.callsOf object' := by
    intro object'
    simp [callsOf, calls, hframe]
  apply Queues.request
  · exact h.numbered.congr rfl fun _ => rfl
  · rw [hcallsOf, hnone]
  · intro object' hne
    refine (h.holds object').congr rfl (hcallsOf object') ?_
    intro hrunning'
    simp only [running, hframe, Option.bind_some, hrunning, Option.some.injEq] at hrunning'
    exact absurd hrunning'.symm hne

theorem Queues.endFrame (h : s.Queues) {frame : AnimationFrame} (hframe : s.frame = some frame)
    (hidle : frame.callback = none) (hcalls : frame.calls = []) :
    Queues { s with frame := none, frames := s.frames ++ [frame] } := by
  refine ⟨?_, h.numbered.congr rfl fun _ => rfl⟩
  intro object
  refine (h.holds object).congr rfl ?_ ?_
  · simp [callsOf, calls, hframe, hcalls]
  · simp [running, hframe, hidle]

theorem Queues.init : Queues {} where
  holds _ := Or.inr ⟨rfl, Or.inl rfl⟩
  numbered := ⟨Nat.one_pos, fun _ => Nat.one_pos, fun _ _ _ hne => absurd rfl hne⟩

end AnimationLoop

end ReactNativeSkia
