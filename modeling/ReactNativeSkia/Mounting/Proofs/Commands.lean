import ReactNativeSkia.Mounting.Transactions
import ReactNativeSkia.Mounting.Proofs.Transactions

/-!
# A command runs after the transactions it was sent after

A command waits behind a task that will pull its revision, or the loop that is running pulls it
before it ends. What a command waits for is fixed when it is dispatched; from then on no step of
the JS thread takes it away, and the main loop gives it up only by pulling.
-/

namespace ReactNativeSkia

namespace TransactionFlow

variable {s s' : TransactionFlow}

/-- The revision is pulled, or the loop that is running is going to pull it. -/
def PullsBy (s : TransactionFlow) (revision : Nat) : Prop :=
  revision ≤ s.pulled ∨ s.BeforePull ∨ (s.followUpTransactionRequired_ = true ∧ s.AfterPull)

/-- Nothing is pulled or mounted that is not committed. -/
def InOrder (s : TransactionFlow) : Prop := s.mounted ≤ s.pulled ∧ s.pulled ≤ s.committed

theorem PullsBy.schedulerDidFinishTransaction {revision : Nat} (h : s.PullsBy revision)
    (step : FlowStep) (hstep : s.schedulerDidFinishTransaction step = some s') :
    s'.PullsBy revision := by
  cases step with
  | commit | readInFlight | writeInFlight | dispatch =>
    obtain ⟨-, hs'⟩ := Option.ite_none_right_eq_some.mp hstep
    cases hs'
    exact h
  | writeFollowUp =>
    obtain ⟨-, hs'⟩ := Option.ite_none_right_eq_some.mp hstep
    cases hs'
    exact h.imp_right (Or.imp_right (And.imp_left fun _ => rfl))
  | startTask | perform => cases hstep

theorem PullsBy.performTransaction {revision : Nat} (h : s.PullsBy revision)
    (hcommitted : revision ≤ s.committed) (hstep : s.performTransaction = some s') :
    s'.PullsBy revision := by
  unfold PullsBy BeforePull AfterPull at h ⊢
  unfold TransactionFlow.performTransaction at hstep
  split at hstep
  · cases hstep
  · cases hstep
    exact Or.inr (Or.inl (Or.inr (Or.inl rfl)))
  · cases hstep
    exact Or.inr (Or.inl (Or.inr (Or.inr rfl)))
  · cases hstep
    exact Or.inl hcommitted
  · rename_i hmain
    cases hstep
    simpa [hmain] using h
  · rename_i hmain
    cases hstep
    simpa [hmain] using h
  · rename_i hmain
    cases hstep
    by_cases hfollow : s.followUpTransactionRequired_ = true
    · simp [hfollow]
    · exact Or.inl (by simpa [hmain, hfollow] using h)

/-- A task that starts is before its pull. -/
theorem pullsBy_startTask {revision : Nat} (hstep : s.exec .startTask = some s') :
    s'.PullsBy revision := by
  obtain ⟨-, hs'⟩ := Option.ite_none_right_eq_some.mp hstep
  cases hs'
  exact Or.inr (Or.inl (Or.inl rfl))

theorem PullsBy.exec {revision : Nat} (h : s.PullsBy revision)
    (hcommitted : revision ≤ s.committed) {step : FlowStep} (hstep : s.exec step = some s') :
    s'.PullsBy revision := by
  cases step with
  | startTask => exact pullsBy_startTask hstep
  | perform => exact h.performTransaction hcommitted hstep
  | commit => exact h.schedulerDidFinishTransaction .commit hstep
  | readInFlight => exact h.schedulerDidFinishTransaction .readInFlight hstep
  | writeFollowUp => exact h.schedulerDidFinishTransaction .writeFollowUp hstep
  | writeInFlight => exact h.schedulerDidFinishTransaction .writeInFlight hstep
  | dispatch => exact h.schedulerDidFinishTransaction .dispatch hstep

/-- Outside a call a revision that is not pulled has a task in the queue or the running loop. -/
theorem Followed.pullsBy (hs : s.Followed) (hjs : s.js = .outside) (hqueued : s.queued = 0) :
    s.PullsBy s.committed := by
  by_cases hpulled : s.pulled = s.committed
  · exact Or.inl (Nat.le_of_eq hpulled.symm)
  · have hwill := hs.pending hpulled
    simp only [WillPull, hjs, hqueued, reduceCtorEq, Nat.lt_irrefl, false_or] at hwill
    exact Or.inr hwill

theorem InOrder.exec (hs : s.InOrder) {step : FlowStep} (hstep : s.exec step = some s') :
    s'.InOrder ∧ s.committed ≤ s'.committed := by
  obtain ⟨hmounted, hpulled⟩ := hs
  cases step with
  | commit =>
    obtain ⟨-, hs'⟩ := Option.ite_none_right_eq_some.mp hstep
    cases hs'
    exact ⟨⟨hmounted, Nat.le_succ_of_le hpulled⟩, Nat.le_succ _⟩
  | readInFlight | writeFollowUp | writeInFlight | dispatch | startTask =>
    obtain ⟨-, hs'⟩ := Option.ite_none_right_eq_some.mp hstep
    cases hs'
    exact ⟨⟨hmounted, hpulled⟩, Nat.le_refl _⟩
  | perform =>
    change s.performTransaction = some s' at hstep
    unfold TransactionFlow.performTransaction at hstep
    have hmounted_committed := Nat.le_trans hmounted hpulled
    split at hstep <;> cases hstep <;> simp [InOrder, hmounted, hpulled, hmounted_committed]

theorem queued_performTransaction (hstep : s.performTransaction = some s') :
    s'.queued = s.queued := by
  unfold TransactionFlow.performTransaction at hstep
  split at hstep <;> cases hstep <;> rfl

/-- The main loop is idle only once what it has pulled is mounted. -/
theorem PullsBy.mounted {revision : Nat} (h : s.PullsBy revision) (hs : s.Followed)
    (hmain : s.main = .idle) : revision ≤ s.mounted := by
  have hmounted : s.mounted = s.pulled :=
    of_not_not fun hne => by simpa [hmain] using hs.mounting hne
  rw [hmounted]
  simpa [PullsBy, BeforePull, AfterPull, hmain] using h

end TransactionFlow

namespace CommandFlow

open TransactionFlow

variable {registered : Nat → Int → Bool} {s s' : CommandFlow}

/-- The commands before the first `performTransaction` of the queue. -/
def leading : List MainTask → List ViewCommand
  | .handleCommand command :: tasks => command :: leading tasks
  | _ => []

theorem leading_append_performTransaction (tasks : List MainTask) :
    leading (tasks ++ [.performTransaction]) = leading tasks := by
  induction tasks with
  | nil => rfl
  | cons task tasks ih =>
    cases task with
    | performTransaction => rfl
    | handleCommand command => simp [leading, ih]

theorem mem_leading_append {tasks : List MainTask} {command new : ViewCommand}
    (h : command ∈ leading (tasks ++ [.handleCommand new])) :
    command ∈ leading tasks ∨ command = new ∧ tasks.count .performTransaction = 0 := by
  induction tasks with
  | nil => simpa [leading] using h
  | cons task tasks ih =>
    cases task with
    | performTransaction => simp [leading] at h
    | handleCommand first =>
      simp only [List.cons_append, leading, List.mem_cons] at h ⊢
      cases h with
      | inl hfirst => exact Or.inl (Or.inl hfirst)
      | inr hrest =>
        apply (ih hrest).imp Or.inr
        simp

/-- The condition of `schedulerDidFinishTransaction` on the steps of the transactions. -/
def KeepsFollowUp (s : CommandFlow) (step : CommandStep) : Prop :=
  ∀ flowStep, step = .flow flowStep → s.flow.KeepsFollowUp flowStep

/-- The invariant: a command at the front of the queue has its revision pulled before the main
loop comes to it. -/
structure Ordered (registered : Nat → Int → Bool) (s : CommandFlow) : Prop where
  followed : s.flow.Followed
  inOrder : s.flow.InOrder
  queued : s.flow.queued = s.tasks.count .performTransaction
  committed : ∀ command ∈ s.dispatched, command.revision ≤ s.flow.committed
  pulls : ∀ command ∈ leading s.tasks, s.flow.PullsBy command.revision
  handed : s.dispatched = s.ran.map CommandRun.command ++ s.waiting
  mounted : ∀ run ∈ s.ran, run.command.revision ≤ run.mounted ∧
    run.mounted ≤ s.flow.committed ∧ run.found = registered run.mounted run.command.tag

theorem mem_waiting_of_leading {tasks : List MainTask} {command : ViewCommand}
    (h : command ∈ leading tasks) : .handleCommand command ∈ tasks := by
  induction tasks with
  | nil => exact absurd h List.not_mem_nil
  | cons task tasks ih =>
    cases task with
    | performTransaction => exact absurd h List.not_mem_nil
    | handleCommand first =>
      cases List.mem_cons.mp h with
      | inl hfirst => exact hfirst ▸ List.mem_cons_self
      | inr hrest => exact List.mem_cons_of_mem _ (ih hrest)

theorem Ordered.leading_committed (hs : s.Ordered registered) {command : ViewCommand}
    (h : command ∈ leading s.tasks) : command.revision ≤ s.flow.committed := by
  apply hs.committed
  rw [hs.handed]
  apply List.mem_append_right
  exact List.mem_filterMap.mpr ⟨_, mem_waiting_of_leading h, rfl⟩

/-- What a step of the transactions keeps whatever it does to the queue. -/
theorem Ordered.flow (hs : s.Ordered registered) {step : FlowStep} {flow : TransactionFlow}
    {tasks : List MainTask} (hkeeps : s.flow.KeepsFollowUp step)
    (hstep : s.flow.exec step = some flow)
    (hqueued : flow.queued = tasks.count .performTransaction)
    (hpulls : ∀ command ∈ leading tasks, flow.PullsBy command.revision)
    (hwaiting : ({ s with flow := flow, tasks := tasks } : CommandFlow).waiting = s.waiting) :
    ({ s with flow := flow, tasks := tasks } : CommandFlow).Ordered registered := by
  obtain ⟨hinOrder, hcommitted⟩ := hs.inOrder.exec hstep
  refine ⟨hs.followed.step hkeeps hstep, hinOrder, hqueued, ?_, hpulls, ?_, ?_⟩
  · intro command hcommand
    exact Nat.le_trans (hs.committed command hcommand) hcommitted
  · rw [hwaiting]
    exact hs.handed
  · intro run hrun
    obtain ⟨hrevision, hmounted, hfound⟩ := hs.mounted run hrun
    exact ⟨hrevision, Nat.le_trans hmounted hcommitted, hfound⟩

theorem Ordered.leading_exec (hs : s.Ordered registered) {step : FlowStep}
    {flow : TransactionFlow} (hstep : s.flow.exec step = some flow) :
    ∀ command ∈ leading s.tasks, flow.PullsBy command.revision :=
  fun command hcommand =>
    (hs.pulls command hcommand).exec (hs.leading_committed hcommand) hstep

theorem Ordered.flowStep (hs : s.Ordered registered) {step : FlowStep}
    (hkeeps : s.flow.KeepsFollowUp step) (hstep : commandStep registered s (.flow step) s') :
    s'.Ordered registered := by
  obtain ⟨flow, hflow, hrest⟩ := Option.bind_eq_some_iff.mp hstep
  obtain ⟨tasks, htasks, hs'⟩ := Option.bind_eq_some_iff.mp hrest
  cases hs'
  cases step with
  | dispatch =>
    cases htasks
    refine hs.flow hkeeps hflow ?_ ?_ ?_
    · obtain ⟨-, hdispatched⟩ := Option.ite_none_right_eq_some.mp hflow
      cases hdispatched
      simp [hs.queued]
    · rw [leading_append_performTransaction]
      exact hs.leading_exec hflow
    · simp [waiting]
  | startTask =>
    simp only [tasksAfter] at htasks
    split at htasks
    · rename_i rest hqueue
      cases htasks
      refine hs.flow hkeeps hflow ?_ ?_ ?_
      · obtain ⟨-, hstarted⟩ := Option.ite_none_right_eq_some.mp hflow
        cases hstarted
        simp [hs.queued, hqueue]
      · exact fun _ _ => pullsBy_startTask hflow
      · simp [waiting, hqueue]
    · cases htasks
  | perform =>
    cases htasks
    refine hs.flow hkeeps hflow ?_ (hs.leading_exec hflow) rfl
    rw [← hs.queued]
    exact queued_performTransaction hflow
  | commit | readInFlight | writeFollowUp | writeInFlight =>
    cases htasks
    refine hs.flow hkeeps hflow ?_ (hs.leading_exec hflow) rfl
    obtain ⟨-, hcalled⟩ := Option.ite_none_right_eq_some.mp hflow
    cases hcalled
    exact hs.queued

theorem Ordered.schedulerDidDispatchCommand (hs : s.Ordered registered) {tag : Int}
    {commandName : String}
    (hstep : commandStep registered s (.schedulerDidDispatchCommand tag commandName) s') :
    s'.Ordered registered := by
  obtain ⟨hjs, hs'⟩ := Option.ite_none_right_eq_some.mp hstep
  cases hs'
  refine ⟨hs.followed, hs.inOrder, ?_, ?_, ?_, ?_, hs.mounted⟩
  · simp [hs.queued]
  · intro command hcommand
    cases List.mem_append.mp hcommand with
    | inl hold => exact hs.committed command hold
    | inr hnew => exact Nat.le_of_eq (congrArg ViewCommand.revision (List.mem_singleton.mp hnew))
  · intro command hcommand
    cases mem_leading_append hcommand with
    | inl hold => exact hs.pulls command hold
    | inr hnew =>
      obtain ⟨rfl, hnone⟩ := hnew
      exact hs.followed.pullsBy hjs (hs.queued.trans hnone)
  · simp [waiting, hs.handed]

theorem Ordered.runCommand (hs : s.Ordered registered)
    (hstep : commandStep registered s .runCommand s') : s'.Ordered registered := by
  change s.runCommand registered = some s' at hstep
  unfold CommandFlow.runCommand at hstep
  split at hstep
  · rename_i command tasks hmain hqueue
    cases hstep
    have hpulls := hs.pulls command (by simp [hqueue, leading])
    have hmounted := hpulls.mounted hs.followed hmain
    refine ⟨hs.followed, hs.inOrder, ?_, hs.committed, ?_, ?_, ?_⟩
    · simp [hs.queued, hqueue]
    · intro later hlater
      exact hs.pulls later (by simp [hqueue, leading, hlater])
    · simp [hs.handed, waiting, hqueue]
    · intro run hrun
      cases List.mem_append.mp hrun with
      | inl hold => exact hs.mounted run hold
      | inr hnew =>
        rw [List.mem_singleton.mp hnew]
        exact ⟨hmounted, Nat.le_trans hs.inOrder.1 hs.inOrder.2, rfl⟩
  · cases hstep

theorem Ordered.step (hs : s.Ordered registered) {step : CommandStep}
    (hkeeps : s.KeepsFollowUp step) (hstep : commandStep registered s step s') :
    s'.Ordered registered := by
  cases step with
  | flow flowStep => exact hs.flowStep (hkeeps flowStep rfl) hstep
  | schedulerDidDispatchCommand tag commandName => exact hs.schedulerDidDispatchCommand hstep
  | runCommand => exact hs.runCommand hstep

theorem ordered_start : ({} : CommandFlow).Ordered registered := by
  refine ⟨followed_start, ⟨Nat.le_refl _, Nat.le_refl _⟩, rfl, ?_, ?_, rfl, ?_⟩
  all_goals exact fun _ h => absurd h List.not_mem_nil

instance (s : CommandFlow) (step : CommandStep) : Decidable (s.KeepsFollowUp step) :=
  match step with
  | .flow flowStep => decidable_of_iff (s.flow.KeepsFollowUp flowStep) (by simp [KeepsFollowUp])
  | .schedulerDidDispatchCommand _ _ | .runCommand =>
    isTrue (by simp [KeepsFollowUp])

end CommandFlow

end ReactNativeSkia
