import ReactNativeSkia.Compositor.Scheduling

/-!
# Lock and scheduling discipline

The lock belongs to the thread between its `begin` and its `commit`, or to the render task
that runs, and a render update is scheduled exactly while one render task is outstanding.
`setViewportSize` breaks this: when the size changes it commits without having begun.
-/

namespace ReactNativeSkia

namespace Scheduling

/-- The invariant. -/
structure Disciplined (s : Scheduling) : Prop where
  proper : s.misused = false
  balance : s.locks = s.unlocks + s.isMutating.isSome.toNat
  callers : ∀ thread, s.begun thread = true ↔ s.isMutating = some (.caller thread)
  task : s.running = true ↔ s.isMutating = some .renderTask
  state : (s.update = .Scheduled ∧ s.outstanding = 1) ∨ (s.update = .Idle ∧ s.outstanding = 0)

theorem disciplined_constructed (windowContext : Bool) (size : SkISize) :
    (constructed windowContext size).Disciplined where
  proper := rfl
  balance := rfl
  callers _ := by simp [constructed]
  task := by simp [constructed]
  state := Or.inr ⟨rfl, rfl⟩

variable {s s' : Scheduling}

theorem Disciplined.begin_step (hs : s.Disciplined) {thread : Nat}
    (hstep : callStep s (.begin thread) s') : s'.Disciplined := by
  simp only [callStep, CompositorCall.exec] at hstep
  split at hstep
  · rename_i hfree
    cases hstep
    refine ⟨hs.proper, ?_, ?_, ?_, hs.state⟩
    · have hb := hs.balance
      simp only [hfree.1] at hb
      simpa [lock] using hb
    · intro t
      have hc := hs.callers t
      rw [hfree.1] at hc
      simp only [lock, Function.update_apply, Option.some.injEq, Holder.caller.injEq]
      split
      · simp [*]
      · rename_i hne
        rw [hc]
        simp [Ne.symm hne]
    · have ht := hs.task
      rw [hfree.1] at ht
      simp only [lock, ht]
      simp
  · cases hstep

/-- Releasing the lock at the end of a `commit` of its holder. -/
theorem Disciplined.release (hs : s.Disciplined) {thread : Nat} (hb : s.begun thread = true)
    (update : UpdateState) (dispatching : List Nat)
    (hstate : (update = .Scheduled ∧ dispatching.length + s.queued + s.running.toNat = 1) ∨
      (update = .Idle ∧ dispatching.length + s.queued + s.running.toNat = 0)) :
    ({ s with
      isMutating := none
      unlocks := s.unlocks + 1
      begun := Function.update s.begun thread false
      update := update
      dispatching := dispatching } : Scheduling).Disciplined := by
  have howner := (hs.callers thread).mp hb
  refine ⟨hs.proper, ?_, ?_, ?_, hstate⟩
  · have hbal := hs.balance
    simp only [howner] at hbal
    simpa using hbal
  · intro t
    have hc := hs.callers t
    rw [howner] at hc
    simp only [Function.update_apply]
    split
    · simp
    · rename_i hne
      rw [hc]
      simp [Ne.symm hne]
  · have ht := hs.task
    rw [howner] at ht
    simp only [ht]
    simp

theorem Disciplined.commit_step (hs : s.Disciplined) {thread : Nat} {immediate : Bool}
    (hstep : callStep s (.commit thread immediate) s') : s'.Disciplined := by
  simp only [callStep, CompositorCall.exec] at hstep
  split at hstep
  · rename_i hb
    cases hstep
    have howner := (hs.callers thread).mp hb.1
    have hkeep := hs.release hb.1 s.update s.dispatching hs.state
    simp only [commit, unlock, howner, if_true]
    split
    · exact hkeep
    · split
      · exact hkeep
      · rcases hs.state with ⟨hup, -⟩ | ⟨hup, hout⟩
        · simpa only [hup] using hkeep
        · -- the only `commit` that schedules
          have hone : (thread :: s.dispatching).length + s.queued + s.running.toNat = 1 := by
            simp only [outstanding] at hout
            simp only [List.length_cons]
            omega
          simpa only [hup] using
            hs.release hb.1 .Scheduled (thread :: s.dispatching) (Or.inl ⟨rfl, hone⟩)
  · cases hstep

theorem Disciplined.setViewportSize_step (hs : s.Disciplined) {thread : Nat} {size : SkISize}
    (hsize : size = s.viewportSize) (hstep : callStep s (.setViewportSize thread size) s') :
    s'.Disciplined := by
  simp only [callStep, CompositorCall.exec, hsize, if_true] at hstep
  split at hstep
  · cases hstep
    exact hs
  · cases hstep

theorem Disciplined.invalidate_step (hs : s.Disciplined) {thread : Nat}
    (hstep : callStep s (.invalidate thread) s') : s'.Disciplined := by
  simp only [callStep, CompositorCall.exec] at hstep
  split at hstep
  · cases hstep
    exact ⟨hs.proper, hs.balance, hs.callers, hs.task, hs.state⟩
  · cases hstep

theorem Disciplined.dispatch_step (hs : s.Disciplined) {thread : Nat}
    (hstep : callStep s (.dispatch thread) s') : s'.Disciplined := by
  simp only [callStep, CompositorCall.exec] at hstep
  split at hstep
  · rename_i hmem
    cases hstep
    refine ⟨hs.proper, hs.balance, hs.callers, hs.task, ?_⟩
    -- the task only moves from its thread to the queue
    have hlen := List.length_erase_of_mem hmem
    have hpos := List.length_pos_of_mem hmem
    have hmoved : (s.dispatching.erase thread).length + (s.queued + 1) + s.running.toNat =
        s.outstanding := by
      simp only [outstanding]
      omega
    simpa only [outstanding, hmoved] using hs.state
  · cases hstep

theorem Disciplined.startTask_step (hs : s.Disciplined) (hstep : callStep s .startTask s') :
    s'.Disciplined := by
  simp only [callStep, CompositorCall.exec] at hstep
  split at hstep
  · rename_i hfree
    obtain ⟨hqueued, hrunning, hlock⟩ := hfree
    cases hstep
    refine ⟨hs.proper, ?_, ?_, ?_, ?_⟩
    · have hbal := hs.balance
      simp only [hlock] at hbal
      simpa [lock] using hbal
    · intro t
      have hc := hs.callers t
      rw [hlock] at hc
      simp [lock, hc]
    · simp [lock]
    · have hmoved : s.dispatching.length + (s.queued - 1) + true.toNat = s.outstanding := by
        simp only [outstanding, hrunning, Bool.toNat_true, Bool.toNat_false]
        omega
      simpa only [outstanding, lock, hmoved] using hs.state
  · cases hstep

theorem Disciplined.finishTask_step (hs : s.Disciplined) (hstep : callStep s .finishTask s') :
    s'.Disciplined := by
  simp only [callStep, CompositorCall.exec] at hstep
  split at hstep
  · rename_i hrunning
    cases hstep
    have howner := hs.task.mp hrunning
    simp only [unlock, howner, if_true]
    refine ⟨hs.proper, ?_, ?_, ?_, Or.inr ⟨rfl, ?_⟩⟩
    · have hbal := hs.balance
      simp only [howner] at hbal
      simpa using hbal
    · intro t
      have hc := hs.callers t
      rw [howner] at hc
      simp [hc]
    · simp
    · -- the task that finishes was the only one
      have hout : s.outstanding = 1 := by
        rcases hs.state with h | h
        · exact h.2
        · have := h.2
          simp only [outstanding, hrunning, Bool.toNat_true] at this
          omega
      simp only [outstanding, hrunning, Bool.toNat_true] at hout
      simp only [outstanding, Bool.toNat_false]
      omega
  · cases hstep

/-- Every call keeps the discipline, if it does not change the size of the viewport. -/
theorem Disciplined.step (hs : s.Disciplined) {call : CompositorCall} (hkeeps : call.KeepsSize s)
    (hstep : callStep s call s') : s'.Disciplined := by
  cases call with
  | begin thread => exact hs.begin_step hstep
  | commit thread immediate => exact hs.commit_step hstep
  | setViewportSize thread size => exact hs.setViewportSize_step hkeeps hstep
  | invalidate thread => exact hs.invalidate_step hstep
  | dispatch thread => exact hs.dispatch_step hstep
  | startTask => exact hs.startTask_step hstep
  | finishTask => exact hs.finishTask_step hstep

theorem Disciplined.run (h : Run callStep (fun s call => call.KeepsSize s) s s')
    (hs : s.Disciplined) : s'.Disciplined :=
  h.invariant (fun _ _ _ hd hkeeps hstep => hd.step hkeeps hstep) hs

/-- In every state that a run reaches in which no `setViewportSize` changes the size, the
update is scheduled exactly when there is one render task that has not finished, there never
are two, and every acquisition of the lock is released once, by its holder. -/
theorem run_disciplined {windowContext : Bool} {size : SkISize}
    (h : Run callStep (fun s call => call.KeepsSize s) (constructed windowContext size) s) :
    (s.update = .Scheduled ↔ s.outstanding = 1) ∧ s.outstanding ≤ 1 ∧
      (s.dispatching = [] → (s.update = .Scheduled ↔ s.queued + s.running.toNat = 1)) ∧
      s.misused = false ∧ s.locks = s.unlocks + s.isMutating.isSome.toNat := by
  have hd := Disciplined.run h (disciplined_constructed windowContext size)
  have hiff : s.update = .Scheduled ↔ s.outstanding = 1 := by
    rcases hd.state with ⟨hup, hout⟩ | ⟨hup, hout⟩
    · exact iff_of_true hup hout
    · refine iff_of_false ?_ ?_
      · rw [hup]
        exact UpdateState.noConfusion
      · omega
  refine ⟨hiff, ?_, ?_, hd.proper, hd.balance⟩
  · rcases hd.state with ⟨-, hout⟩ | ⟨-, hout⟩ <;> omega
  · intro hnone
    rw [hiff, outstanding, hnone, List.length_nil, Nat.zero_add]

/-- A frame is scheduled, a second thread finds it scheduled, it is drawn, and the size is set
to what it already is. -/
theorem run_disciplined_one_frame :
    ∃ s, Run callStep (fun s call => call.KeepsSize s) (constructed true ⟨10, 10⟩) s ∧
      (s.update = .Scheduled ↔ s.outstanding = 1) ∧ s.outstanding ≤ 1 ∧
      (s.dispatching = [] → (s.update = .Scheduled ↔ s.queued + s.running.toNat = 1)) ∧
      s.misused = false ∧ s.locks = s.unlocks + s.isMutating.isSome.toNat := by
  let calls : List CompositorCall := [.begin 1, .commit 1 false, .begin 0, .dispatch 1,
    .commit 0 false, .startTask, .finishTask, .setViewportSize 1 ⟨10, 10⟩]
  obtain ⟨s, hs⟩ : ∃ s, calls.foldlM (fun s call => if call.KeepsSize s then call.exec s else none)
      (constructed true ⟨10, 10⟩) = some s :=
    Option.isSome_iff_exists.mp (by decide +kernel)
  have hrun : Run callStep (fun s call => call.KeepsSize s) (constructed true ⟨10, 10⟩) s :=
    Run.of_checked_exec hs
  exact ⟨s, hrun, run_disciplined hrun⟩

/-- `setViewportSize` with a new size unlocks the lock of whoever holds it. -/
theorem setViewportSize_misuses {thread : Nat} {size : SkISize} (hsize : size ≠ s.viewportSize)
    (howner : s.isMutating ≠ some (.caller thread))
    (hstep : callStep s (.setViewportSize thread size) s') : s'.misused = true := by
  simp only [callStep, CompositorCall.exec, hsize, if_false] at hstep
  split at hstep
  · cases hstep
    simp only [commit, unlock, howner, if_false]
    repeat' split
    all_goals rfl
  · cases hstep

/-- The first `setViewportSize` that changes the size unlocks the lock without holding it. -/
theorem setViewportSize_unlocks_unheld :
    ∃ s, Run callStep anyStep (constructed true ⟨10, 10⟩) s ∧ s.misused = true :=
  ⟨_, Run.single (a := .setViewportSize 0 ⟨20, 20⟩) trivial rfl, rfl⟩

end Scheduling

end ReactNativeSkia
