import Mathlib.Data.List.Nodup
import ReactNativeSkia.Animation.Proofs.CallQueue
import ReactNativeSkia.Misc.Run

/-!
# The frame loop of the animation objects

The loop goes on as it should with two exceptions. An object that is active again when its own
callback returns has queued one call at the restart, and the loop queues another. And the throttle
compares with the time of the last callback of any object, so it lets a callback run only if no
other one has run at the same time.
-/

namespace ReactNativeSkia

variable {s t : AnimationLoop} {object : Nat} {frame : AnimationFrame}

/-- The object is active when its turn comes, and has been called in an earlier frame. -/
def AnimationFrame.Due (frame : AnimationFrame) (object : Nat) : Prop :=
  frame.wasActive object = true ∧ object ∉ frame.stopped ∧
    ∃ previous ∈ frame.previousFrame object, previous < frame.timestamp

instance (frame : AnimationFrame) (object : Nat) : Decidable (frame.Due object) := by
  unfold AnimationFrame.Due
  infer_instance

namespace AnimationLoop

/-- The loop neither stalls nor doubles. -/
structure Sound (s : AnimationLoop) : Prop where
  /-- Between the frames. -/
  queued : s.frame = none → ∀ object,
    s.queue.countP (·.object = object) = if (s.objects object).isActive_ then 1 else 0
  active : ∀ run ∈ s.called, run.isActive = true
  once : ∀ frame ∈ s.frames, ∀ object, frame.Due object → frame.ran.count object = 1
  atMostOnce : ∀ frame ∈ s.frames, ∀ object, frame.ran.count object ≤ 1

/-- The object whose call comes next in the frame. -/
def next (s : AnimationLoop) : Option Nat :=
  s.frame.bind fun frame => frame.calls.head?.map QueuedCall.object

def timestamp (s : AnimationLoop) : Option ℚ := s.frame.map AnimationFrame.timestamp

end AnimationLoop

/-- A call of an object that has been called before comes before all callbacks of the same time,
and an object that is active when its callback returns has not been restarted in it. -/
def AnimationOp.KeepsLoop (s : AnimationLoop) : AnimationOp → Prop
  | call => ∀ object ∈ s.next, ∀ timestamp ∈ s.timestamp,
      (∃ previous ∈ s.lastFrame object, previous < timestamp) →
        ∀ run ∈ s.called, run.timestamp ≠ timestamp
  | callbackReturns => ∀ object ∈ s.running, (s.objects object).isActive_ = true →
      ∀ queued ∈ s.queue, queued.object ≠ object
  | _ => True

instance (s : AnimationLoop) : (op : AnimationOp) → Decidable (op.KeepsLoop s)
  | .call | .callbackReturns => by unfold AnimationOp.KeepsLoop; infer_instance
  | .start _ | .stop _ | .beginFrame _ | .endFrame => isTrue trivial

namespace AnimationLoop

/-! ## The frame that is being delivered -/

section

variable {lastFrame : Nat → Option ℚ} {lastTimestamp : Option ℚ} {called : List CallbackRun}

/-- `lastFrame`, `lastTimestamp` and `called` are those of the loop. -/
structure Delivers (lastFrame : Nat → Option ℚ) (lastTimestamp : Option ℚ)
    (called : List CallbackRun) (frame : AnimationFrame) : Prop where
  time : lastTimestamp = some frame.timestamp
  /-- No object is called twice. -/
  nodup : (frame.calls.map QueuedCall.object ++ frame.begun).Nodup
  ran : frame.ran.Sublist frame.begun
  callback : ∀ object ∈ frame.callback, object ∈ frame.begun ∧
    ∃ run ∈ called, run.timestamp = frame.timestamp
  due : ∀ object, frame.wasActive object = true → object ∉ frame.stopped →
    object ∈ frame.begun ∨ object ∈ frame.calls.map QueuedCall.object
  ranDue : ∀ object ∈ frame.begun,
    (∃ previous ∈ frame.previousFrame object, previous < frame.timestamp) → object ∈ frame.ran
  previous : ∀ object ∉ frame.begun, frame.previousFrame object = lastFrame object

/-- The frame at its end. -/
theorem Delivers.count_ran_le (h : Delivers lastFrame lastTimestamp called frame)
    (object : Nat) : frame.ran.count object ≤ 1 := by
  have hbegun : frame.begun.Nodup := (List.nodup_append.mp h.nodup).2.1
  exact List.nodup_iff_count_le_one.mp (hbegun.sublist h.ran) object

theorem Delivers.count_ran_eq (h : Delivers lastFrame lastTimestamp called frame)
    (hcalls : frame.calls = []) (hdue : frame.Due object) : frame.ran.count object = 1 := by
  obtain ⟨hactive, hstopped, hprevious⟩ := hdue
  have hbegun : object ∈ frame.begun := by
    rcases h.due object hactive hstopped with hbegun | hwaiting
    · exact hbegun
    · simp [hcalls] at hwaiting
  have hran : 0 < frame.ran.count object :=
    List.count_pos_iff.mpr (h.ranDue object hbegun hprevious)
  have hle := h.count_ran_le object
  omega

/-- An object is stopped, and only calls of its own are cancelled. -/
theorem Delivers.stop (h : Delivers lastFrame lastTimestamp called frame)
    {calls' : List QueuedCall} (hsublist : calls'.Sublist frame.calls)
    (hkept : ∀ queued ∈ frame.calls, queued.object ≠ object → queued ∈ calls') :
    Delivers lastFrame lastTimestamp called
      ({ frame with calls := calls' }.noteStopped object) := by
  have hnodup : (calls'.map QueuedCall.object ++ frame.begun).Nodup :=
    h.nodup.sublist ((hsublist.map _).append (List.Sublist.refl _))
  have hdue : ∀ object', frame.wasActive object' = true → object' ∉ frame.stopped →
      (object' = object → object ∈ frame.begun) →
      object' ∈ frame.begun ∨ object' ∈ calls'.map QueuedCall.object := by
    intro object' hactive hstopped hself
    rcases h.due object' hactive hstopped with hbegun | hwaiting
    · exact Or.inl hbegun
    · obtain ⟨queued, hmem, rfl⟩ := List.mem_map.mp hwaiting
      by_cases heq : queued.object = object
      · exact Or.inl (heq ▸ hself heq)
      · exact Or.inr (List.mem_map_of_mem (hkept queued hmem heq))
  unfold AnimationFrame.noteStopped
  split
  · rename_i hbegun
    exact ⟨h.time, hnodup, h.ran, h.callback,
      fun object' hactive hstopped => hdue object' hactive hstopped fun _ => hbegun, h.ranDue,
      h.previous⟩
  · refine ⟨h.time, hnodup, h.ran, h.callback, ?_, h.ranDue, h.previous⟩
    intro object' hactive hstopped
    rw [List.mem_append, List.mem_singleton, not_or] at hstopped
    exact hdue object' hactive hstopped.1 fun heq => absurd heq hstopped.2

/-- A call begins whose callback is run, or is not due. -/
theorem Delivers.begin (h : Delivers lastFrame lastTimestamp called frame) {queued : QueuedCall}
    {rest : List QueuedCall} {callback : Option Nat} {ran : List Nat} {called' : List CallbackRun}
    (hcalls : frame.calls = queued :: rest)
    (hran : ran = frame.ran ++ [queued.object] ∨ ran = frame.ran ∧
      ¬ ∃ previous ∈ lastFrame queued.object, previous < frame.timestamp)
    (hcallback : ∀ object ∈ callback, object = queued.object ∧
      ∃ run ∈ called', run.timestamp = frame.timestamp) :
    Delivers (Function.update lastFrame queued.object (some frame.timestamp)) lastTimestamp called'
      { frame with
        calls := rest
        begun := frame.begun ++ [queued.object]
        callback := callback
        ran := ran } := by
  have hnodup := h.nodup
  rw [hcalls, List.map_cons, List.cons_append, List.nodup_cons] at hnodup
  have hnot : queued.object ∉ frame.begun := fun hmem =>
    hnodup.1 (List.mem_append_right _ hmem)
  refine ⟨h.time, ?_, ?_, ?_, ?_, ?_, ?_⟩
  · rw [← List.append_assoc]
    refine hnodup.2.append (List.nodup_singleton _) ?_
    simpa using hnodup.1
  · rcases hran with rfl | ⟨rfl, -⟩
    · exact h.ran.append (List.Sublist.refl _)
    · exact h.ran.trans (List.sublist_append_left _ _)
  · intro object hmem
    obtain ⟨rfl, hrun⟩ := hcallback object hmem
    exact ⟨List.mem_append_right _ (List.mem_singleton_self _), hrun⟩
  · intro object hactive hstopped
    rcases h.due object hactive hstopped with hbegun | hwaiting
    · exact Or.inl (List.mem_append_left _ hbegun)
    · rw [hcalls, List.map_cons, List.mem_cons] at hwaiting
      rcases hwaiting with rfl | hwaiting
      · exact Or.inl (List.mem_append_right _ (List.mem_singleton_self _))
      · exact Or.inr hwaiting
  · intro object hmem hprevious
    rcases List.mem_append.mp hmem with hbegun | hnew
    · have hold := h.ranDue object hbegun hprevious
      rcases hran with rfl | ⟨rfl, -⟩
      · exact List.mem_append_left _ hold
      · exact hold
    · obtain rfl := List.mem_singleton.mp hnew
      rcases hran with rfl | ⟨-, hnone⟩
      · exact List.mem_append_right _ (List.mem_singleton_self _)
      · rw [h.previous _ hnot] at hprevious
        exact absurd hprevious hnone
  · intro object hmem
    rw [List.mem_append, List.mem_singleton, not_or] at hmem
    rw [Function.update_of_ne hmem.2]
    exact h.previous object hmem.1

end

/-! ## The invariant -/

structure Tracks (s : AnimationLoop) : Prop where
  queues : s.Queues
  delivers : ∀ frame ∈ s.frame, Delivers s.lastFrame s.lastTimestamp s.called frame
  active : ∀ run ∈ s.called, run.isActive = true
  frames : ∀ frame ∈ s.frames, ∀ object,
    (frame.Due object → frame.ran.count object = 1) ∧ frame.ran.count object ≤ 1
  times : ∀ run ∈ s.called, ∃ last ∈ s.lastTimestamp, run.timestamp ≤ last
  notCalled : s.previousValue = none → ∀ object, s.lastFrame object = none
  reached : ∀ previous ∈ s.previousValue, ∃ last ∈ s.lastTimestamp, previous ≤ last
  /-- The static is the time of a callback, or that of the first call of all. -/
  previous : ∀ previous ∈ s.previousValue, (∃ run ∈ s.called, run.timestamp = previous) ∨
    ∀ object, ∀ last ∈ s.lastFrame object, previous ≤ last

theorem Tracks.init : Tracks {} where
  queues := .init
  delivers := by simp
  active := by simp
  frames := by simp
  times := by simp
  notCalled := by simp
  reached := by simp
  previous := by simp

/-- A step that leaves the times and the logs alone. -/
theorem Tracks.congr (h : s.Tracks) (hqueues : t.Queues)
    (hdelivers : ∀ frame ∈ t.frame, Delivers s.lastFrame s.lastTimestamp s.called frame)
    (hprevious : t.previousValue = s.previousValue)
    (hlastTimestamp : t.lastTimestamp = s.lastTimestamp) (hlastFrame : t.lastFrame = s.lastFrame)
    (hcalled : t.called = s.called) (hframes : t.frames = s.frames) : t.Tracks where
  queues := hqueues
  delivers := by
    rw [hlastFrame, hlastTimestamp, hcalled]
    exact hdelivers
  active := hcalled ▸ h.active
  frames := hframes ▸ h.frames
  times := by
    rw [hcalled, hlastTimestamp]
    exact h.times
  notCalled := by
    rw [hprevious, hlastFrame]
    exact h.notCalled
  reached := by
    rw [hprevious, hlastTimestamp]
    exact h.reached
  previous := by
    rw [hprevious, hcalled, hlastFrame]
    exact h.previous

theorem Tracks.start (h : s.Tracks) (object : Nat) : (s.start object).Tracks := by
  apply h.congr (h.queues.start object)
  all_goals unfold AnimationLoop.start
  · split
    · exact h.delivers
    · simpa [setObject] using h.delivers
  all_goals
    split
    · rfl
    · simp [setObject]

theorem mem_frame_stop {frame' : AnimationFrame}
    (hactive : (s.objects object).isActive_ = true) (hmem : frame' ∈ (s.stop object).frame) :
    ∃ frame ∈ s.frame, ∃ calls', frame' = { frame with calls := calls' }.noteStopped object ∧
      calls'.Sublist frame.calls ∧
      ∀ queued ∈ frame.calls, queued.rafId ≠ (s.objects object).rafId_ → queued ∈ calls' := by
  unfold AnimationLoop.stop at hmem
  rw [if_pos hactive] at hmem
  obtain ⟨frame₁, hframe₁, rfl⟩ := Option.map_eq_some_iff.mp hmem
  unfold cancelAnimationFrame at hframe₁
  split at hframe₁
  · obtain ⟨frame, hframe, rfl⟩ := Option.map_eq_some_iff.mp hframe₁
    refine ⟨frame, hframe, _, rfl, List.filter_sublist, ?_⟩
    intro queued hmem hne
    simpa [withoutCall] using ⟨hmem, hne⟩
  · exact ⟨frame₁, hframe₁, frame₁.calls, rfl, List.Sublist.refl _, fun _ hmem _ => hmem⟩

theorem Tracks.stop (h : s.Tracks) (object : Nat) : (s.stop object).Tracks := by
  by_cases hactive : (s.objects object).isActive_ = true
  · apply h.congr (h.queues.stop object)
    · intro frame' hmem
      obtain ⟨frame, hframe, calls', rfl, hsublist, hkept⟩ := mem_frame_stop hactive hmem
      apply (h.delivers frame hframe).stop hsublist
      intro queued hqueued hne
      apply hkept queued hqueued
      apply h.queues.rafId_ne _ hne
      rw [Option.mem_def] at hframe
      simp [calls, hframe, hqueued]
    all_goals
      unfold AnimationLoop.stop cancelAnimationFrame
      rw [if_pos hactive]
      split <;> rfl
  · unfold AnimationLoop.stop
    rwa [if_neg hactive]

/-- The calls of a frame are those queued before it. -/
theorem Tracks.beginFrame (h : s.Tracks) (hframe : s.frame = none) {timestamp : ℚ}
    (htime : ∀ last ∈ s.lastTimestamp, last ≤ timestamp) : (s.beginFrame timestamp).Tracks where
  queues := h.queues.beginFrame hframe timestamp
  delivers := by
    intro frame hmem
    obtain rfl := Option.some.inj hmem
    refine ⟨rfl, ?_, List.Sublist.refl _, by simp, ?_, by simp, fun _ _ => rfl⟩
    · -- no object has two calls
      rw [List.append_nil, List.nodup_iff_count_le_one]
      intro object
      have hcount := h.queues.countP_queue hframe object
      rw [List.count, List.countP_map]
      show s.queue.countP (fun queued => queued.object == object) ≤ 1
      simp only [beq_eq_decide]
      rw [hcount]
      split <;> omega
    · intro object hactive _
      have hcount := h.queues.countP_queue hframe object
      rw [if_pos hactive] at hcount
      have hpos : 0 < s.queue.countP (·.object = object) := by omega
      obtain ⟨queued, hmem, heq⟩ := List.countP_pos_iff.mp hpos
      exact Or.inr (List.mem_map.mpr ⟨queued, hmem, of_decide_eq_true heq⟩)
  active := h.active
  frames := h.frames
  times := by
    intro run hmem
    obtain ⟨last, hlast, hle⟩ := h.times run hmem
    exact ⟨timestamp, rfl, hle.trans (htime last hlast)⟩
  notCalled := h.notCalled
  reached := by
    intro previous hmem
    obtain ⟨last, hlast, hle⟩ := h.reached previous hmem
    exact ⟨timestamp, rfl, hle.trans (htime last hlast)⟩
  previous := h.previous

/-- The throttle lets an object's callback run that has been called in an earlier frame, if no
callback has run at this time. -/
theorem Tracks.lt_of_earlier (h : s.Tracks) (hframe : s.frame = some frame)
    (hearlier : ∃ previous ∈ s.lastFrame object, previous < frame.timestamp)
    (halone : ∀ run ∈ s.called, run.timestamp ≠ frame.timestamp) :
    frame.timestamp - s.previousValue.getD frame.timestamp >
      (rnsAnimationFrameRateThrottle * 1000 : Nat) := by
  obtain ⟨last, hlast, hlt⟩ := hearlier
  have hthrottle : ((rnsAnimationFrameRateThrottle * 1000 : Nat) : ℚ) = 0 := by
    simp [rnsAnimationFrameRateThrottle, rnsAnimationFrameRate]
  rw [hthrottle]
  cases hprevious : s.previousValue with
  | none =>
    rw [h.notCalled hprevious object] at hlast
    cases hlast
  | some previous =>
    apply sub_pos.mpr
    rcases h.previous previous hprevious with ⟨run, hrun, rfl⟩ | hfirst
    · obtain ⟨time, htime, hle⟩ := h.times run hrun
      rw [(h.delivers frame hframe).time] at htime
      obtain rfl := Option.some.inj htime
      exact lt_of_le_of_ne hle (halone run hrun)
    · exact (hfirst object last hlast).trans_lt hlt

/-- In a call the static is a time that has been delivered, also in the first call of all. -/
theorem Tracks.reached_getD (h : s.Tracks) (hframe : s.frame = some frame) :
    ∃ last ∈ s.lastTimestamp, s.previousValue.getD frame.timestamp ≤ last := by
  cases hprevious : s.previousValue with
  | none => exact ⟨frame.timestamp, (h.delivers frame hframe).time, le_refl _⟩
  | some previous => exact h.reached previous hprevious

/-- The static after a call that runs no callback. -/
theorem Tracks.previous_getD (h : s.Tracks) (hframe : s.frame = some frame) (caller : Nat) :
    (∃ run ∈ s.called, run.timestamp = s.previousValue.getD frame.timestamp) ∨
      ∀ object, ∀ last ∈ Function.update s.lastFrame caller (some frame.timestamp) object,
        s.previousValue.getD frame.timestamp ≤ last := by
  have hle : s.previousValue.getD frame.timestamp ≤ frame.timestamp := by
    obtain ⟨last, hlast, hle⟩ := h.reached_getD hframe
    rw [(h.delivers frame hframe).time] at hlast
    exact hle.trans_eq (Option.some.inj hlast).symm
  have hlater (hothers : ∀ object ≠ caller, ∀ last ∈ s.lastFrame object,
      s.previousValue.getD frame.timestamp ≤ last) (object : Nat) :
      ∀ last ∈ Function.update s.lastFrame caller (some frame.timestamp) object,
        s.previousValue.getD frame.timestamp ≤ last := by
    intro last hlast
    by_cases heq : object = caller
    · subst heq
      rw [Function.update_self] at hlast
      exact hle.trans_eq (Option.some.inj hlast)
    · rw [Function.update_of_ne heq] at hlast
      exact hothers object heq last hlast
  cases hprevious : s.previousValue with
  | none =>
    rw [hprevious] at hlater
    refine Or.inr (hlater fun object _ last hlast => ?_)
    rw [h.notCalled hprevious object] at hlast
    cases hlast
  | some previous =>
    rw [hprevious] at hlater
    rcases h.previous previous hprevious with hrun | hfirst
    · exact Or.inl hrun
    · exact Or.inr (hlater fun object _ => hfirst object)

theorem Tracks.call (h : s.Tracks) {queued : QueuedCall} {rest : List QueuedCall}
    (hframe : s.frame = some frame) (hcalls : frame.calls = queued :: rest)
    (hidle : frame.callback = none)
    (halone : (∃ previous ∈ s.lastFrame queued.object, previous < frame.timestamp) →
      ∀ run ∈ s.called, run.timestamp ≠ frame.timestamp) :
    (s.call frame queued.object rest).Tracks := by
  have hqueues := h.queues.call hframe hcalls hidle
  have hdelivers := h.delivers frame hframe
  have hactive : (s.objects queued.object).isActive_ = true :=
    ((h.queues.holds queued.object).of_mem (by simp [calls, hframe, hcalls])).1
  have hreached := h.reached_getD hframe
  have hprevious := h.previous_getD hframe queued.object
  unfold AnimationLoop.call at hqueues ⊢
  dsimp only at hqueues ⊢
  split at hqueues
  · rename_i hrun
    rw [if_pos hrun]
    refine ⟨hqueues, ?_, ?_, h.frames, ?_, by simp, ?_, ?_⟩
    · intro frame' hmem
      obtain rfl := Option.some.inj hmem
      apply hdelivers.begin hcalls (Or.inl rfl)
      intro object hobject
      exact ⟨(Option.some.inj hobject).symm, _, List.mem_append_right _ (List.mem_singleton_self _),
        rfl⟩
    · intro run hmem
      rcases List.mem_append.mp hmem with hold | hnew
      · exact h.active run hold
      · rw [List.mem_singleton.mp hnew]
        exact hactive
    · intro run hmem
      rcases List.mem_append.mp hmem with hold | hnew
      · exact h.times run hold
      · rw [List.mem_singleton.mp hnew]
        exact ⟨frame.timestamp, hdelivers.time, le_refl _⟩
    · intro previous hmem
      rw [← Option.some.inj hmem]
      exact hreached
    · intro previous hmem
      rw [← Option.some.inj hmem]
      rcases hprevious with ⟨run, hmem, heq⟩ | hfirst
      · exact Or.inl ⟨run, List.mem_append_left _ hmem, heq⟩
      · exact Or.inr hfirst
  · rename_i hrun
    rw [if_neg hrun]
    refine ⟨hqueues, ?_, ?_, ?_, ?_, ?_, ?_, ?_⟩
    · intro frame' hmem
      rw [requestAnimationFrame_frame] at hmem
      obtain rfl := Option.some.inj hmem
      simp only [requestAnimationFrame_lastFrame, requestAnimationFrame_lastTimestamp,
        requestAnimationFrame_called]
      apply hdelivers.begin hcalls (Or.inr ⟨rfl, ?_⟩)
      · simp [hidle]
      · intro hearlier
        exact hrun (h.lt_of_earlier hframe hearlier (halone hearlier))
    · simpa using h.active
    · simpa using h.frames
    · simpa using h.times
    · simp
    · intro previous hmem
      simp only [requestAnimationFrame_previousValue, requestAnimationFrame_lastTimestamp] at hmem ⊢
      rw [← Option.some.inj hmem]
      exact hreached
    · intro previous hmem
      simp only [requestAnimationFrame_previousValue, requestAnimationFrame_called,
        requestAnimationFrame_lastFrame] at hmem ⊢
      rw [← Option.some.inj hmem]
      exact hprevious

theorem Tracks.callbackReturns (h : s.Tracks) (hframe : s.frame = some frame)
    (hrunning : frame.callback = some object)
    (hrestart : (s.objects object).isActive_ = true → ∀ queued ∈ s.queue, queued.object ≠ object) :
    (s.callbackReturns frame object).Tracks := by
  have hdelivers := h.delivers frame hframe
  obtain ⟨hbegun, hrun⟩ := hdelivers.callback object hrunning
  have hnone : s.callsOf object = [] := by
    cases hactive : (s.objects object).isActive_ with
    | false => exact (h.queues.holds object).of_inactive hactive
    | true =>
      -- the frame has no second call of the object
      have hwaiting : object ∉ frame.calls.map QueuedCall.object := fun hmem =>
        List.disjoint_of_nodup_append hdelivers.nodup hmem hbegun
      rw [callsOf, List.filter_eq_nil_iff]
      intro queued hmem
      simp only [calls, hframe, Option.map_some, Option.getD_some, List.mem_append] at hmem
      rw [decide_eq_true_eq]
      rcases hmem with hqueue | hcalls
      · exact hrestart hactive queued hqueue
      · rintro rfl
        exact hwaiting (List.mem_map_of_mem hcalls)
  refine ⟨h.queues.callbackReturns hframe hrunning hnone, ?_, ?_, ?_, ?_, ?_, ?_, ?_⟩
  all_goals unfold AnimationLoop.callbackReturns
  · intro frame' hmem
    rw [requestAnimationFrame_frame] at hmem
    obtain rfl := Option.some.inj hmem
    simp only [requestAnimationFrame_lastFrame, requestAnimationFrame_lastTimestamp,
      requestAnimationFrame_called]
    exact { hdelivers with callback := by simp }
  · simpa using h.active
  · simpa using h.frames
  · simpa using h.times
  · simp
  · simp [hdelivers.time]
  · intro previous hmem
    simp only [requestAnimationFrame_previousValue, requestAnimationFrame_called,
      requestAnimationFrame_lastFrame] at hmem ⊢
    rw [← Option.some.inj hmem]
    exact Or.inl hrun

theorem Tracks.endFrame (h : s.Tracks) (hframe : s.frame = some frame)
    (hidle : frame.callback = none) (hcalls : frame.calls = []) :
    Tracks { s with frame := none, frames := s.frames ++ [frame] } where
  queues := h.queues.endFrame hframe hidle hcalls
  delivers := by simp
  active := h.active
  frames := by
    intro frame' hmem object
    rcases List.mem_append.mp hmem with hold | hnew
    · exact h.frames frame' hold object
    · obtain rfl := List.mem_singleton.mp hnew
      have hdelivers := h.delivers frame' hframe
      exact ⟨hdelivers.count_ran_eq hcalls, hdelivers.count_ran_le object⟩
  times := h.times
  notCalled := h.notCalled
  reached := h.reached
  previous := h.previous

theorem Tracks.step (h : s.Tracks) {op : AnimationOp} (hok : op.KeepsLoop s)
    (hexec : op.exec s = some t) : t.Tracks := by
  cases op with
  | start object =>
    obtain rfl := Option.some.inj hexec
    exact h.start object
  | stop object =>
    obtain rfl := Option.some.inj hexec
    exact h.stop object
  | beginFrame timestamp =>
    obtain ⟨⟨hframe, htime⟩, ⟨⟩⟩ := Option.ite_none_right_eq_some.mp hexec
    exact h.beginFrame (Option.isNone_iff_eq_none.mp hframe) htime
  | call =>
    obtain ⟨frame, hframe, hexec⟩ := Option.bind_eq_some_iff.mp hexec
    split at hexec
    · rename_i queued rest hidle hcalls
      obtain rfl := Option.some.inj hexec
      refine h.call hframe hcalls hidle ?_
      apply hok
      · simp [next, hframe, hcalls]
      · simp [timestamp, hframe]
    · cases hexec
  | callbackReturns =>
    obtain ⟨frame, hframe, hexec⟩ := Option.bind_eq_some_iff.mp hexec
    split at hexec
    · rename_i object hrunning
      obtain rfl := Option.some.inj hexec
      refine h.callbackReturns hframe hrunning ?_
      apply hok
      simp [running, hframe, hrunning]
    · cases hexec
  | endFrame =>
    obtain ⟨frame, hframe, hexec⟩ := Option.bind_eq_some_iff.mp hexec
    split at hexec
    · rename_i hidle hcalls
      obtain rfl := Option.some.inj hexec
      exact h.endFrame hframe hidle hcalls
    · cases hexec

theorem Tracks.sound (h : s.Tracks) : s.Sound where
  queued hframe object := h.queues.countP_queue hframe object
  active := h.active
  once frame hmem object := (h.frames frame hmem object).1
  atMostOnce frame hmem object := (h.frames frame hmem object).2

end AnimationLoop

/-! ## Runs -/

/-- The loop neither stalls nor doubles while every step keeps it. -/
theorem animationRun_sound (hrun : Run AnimationStep (fun s op => op.KeepsLoop s) {} s) :
    s.Sound := by
  have htracks : s.Tracks :=
    hrun.invariant (P := AnimationLoop.Tracks) (fun _ _ _ h hok hstep => h.step hok hstep) .init
  exact htracks.sound

/-- One object that stops itself in the third frame. -/
def stopInCallback : List AnimationOp :=
  [.start 0, .beginFrame 16, .call, .endFrame, .beginFrame 33, .call, .callbackReturns, .endFrame,
    .beginFrame 50, .call, .stop 0, .callbackReturns, .endFrame]

theorem animationRun_sound_one_object : ∃ s : AnimationLoop, s.Sound ∧
    s.frames.map AnimationFrame.ran = [[], [0], [0]] ∧ s.queue = [] := by
  have hfold : (stopInCallback.foldlM
      (fun s (op : AnimationOp) => if op.KeepsLoop s then op.exec s else none) {}).map
        (fun s => (s.frames.map AnimationFrame.ran, s.queue)) = some ([[], [0], [0]], []) := by
    decide +kernel
  obtain ⟨s, hrun, hs⟩ := Option.map_eq_some_iff.mp hfold
  obtain ⟨hran, hqueue⟩ := Prod.mk.inj hs
  exact ⟨s, animationRun_sound (Run.of_checked_exec hrun), hran, hqueue⟩

/-- Two objects: in the second frame the callback of the first one runs and that of the second
one does not. -/
def twoObjects : List AnimationOp :=
  [.start 0, .start 1, .beginFrame 16, .call, .call, .endFrame,
    .beginFrame 33, .call, .callbackReturns, .call, .endFrame]

theorem second_object_stalls : ¬ ∀ s : AnimationLoop, Run AnimationStep anyStep {} s →
    s.Sound := by
  intro hall
  have hfold : (twoObjects.foldlM AnimationOp.exec {}).map (fun s => decide
      (∃ frame ∈ s.frames, frame.Due 1 ∧ frame.ran.count 1 = 0)) = some true := by
    decide +kernel
  obtain ⟨s, hrun, hs⟩ := Option.map_eq_some_iff.mp hfold
  obtain ⟨frame, hmem, hdue, hcount⟩ := of_decide_eq_true hs
  have honce := (hall s (Run.of_exec hrun)).once frame hmem 1 hdue
  omega

end ReactNativeSkia
