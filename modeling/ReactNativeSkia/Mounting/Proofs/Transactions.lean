import ReactNativeSkia.Mounting.Transactions
import Mathlib.Tactic.ByContra

/-!
# No committed transaction is lost

A revision that is not yet pulled has someone who will pull it: a task in the queue, a call
that will queue one, a loop that has not pulled yet or will go round again. The test at the
end of the loop is the one step that can lose the last of them, when it falls between the
read and the write of a `schedulerDidFinishTransaction` that saw the transaction in flight.
-/

namespace ReactNativeSkia

namespace TransactionFlow

/-- The loop has not left its body: it is before the pull, or after it and before the test. -/
def BeforePull (s : TransactionFlow) : Prop :=
  s.main = .clearFollowUp ∨ s.main = .setInFlight ∨ s.main = .pullTransaction

def AfterPull (s : TransactionFlow) : Prop :=
  s.main = .processMutations ∨ s.main = .clearInFlight ∨ s.main = .testFollowUp

/-- Someone will pull again. -/
def WillPull (s : TransactionFlow) : Prop :=
  s.js = .entered ∨ s.js = .sawIdle ∨ s.js = .marked ∨ 0 < s.queued ∨ s.BeforePull ∨
    ((s.js = .sawInFlight ∨ s.followUpTransactionRequired_ = true) ∧ s.AfterPull)

/-- The invariant. -/
structure Followed (s : TransactionFlow) : Prop where
  inFlight : s.transactionInFlight_ = true →
    s.js = .marked ∨ 0 < s.queued ∨ s.BeforePull ∨ s.main = .processMutations ∨
      s.main = .clearInFlight
  pending : s.pulled ≠ s.committed → s.WillPull
  mounting : s.mounted ≠ s.pulled → s.main = .processMutations

/-- The last test of the loop does not let go of a revision that the JS thread is about to
ask a follow-up for. -/
def KeepsFollowUp (s : TransactionFlow) (step : FlowStep) : Prop :=
  step = .perform → s.main = .testFollowUp → s.followUpTransactionRequired_ = false →
    s.queued = 0 → s.js = .sawInFlight → s.pulled = s.committed

instance (s : TransactionFlow) (step : FlowStep) : Decidable (s.KeepsFollowUp step) := by
  unfold KeepsFollowUp
  infer_instance

variable {s s' : TransactionFlow}

/-- The steps of the JS thread. -/
theorem Followed.schedulerDidFinishTransaction (hs : s.Followed) (step : FlowStep)
    (hstep : s.schedulerDidFinishTransaction step = some s') : s'.Followed := by
  obtain ⟨hflight, hpending, hmounting⟩ := hs
  cases step with
  | commit =>
    obtain ⟨hjs, hs'⟩ := Option.ite_none_right_eq_some.mp hstep
    cases hs'
    exact ⟨fun h => by simpa [hjs, BeforePull] using hflight h, fun _ => Or.inl rfl, hmounting⟩
  | readInFlight =>
    obtain ⟨hjs, hs'⟩ := Option.ite_none_right_eq_some.mp hstep
    cases hs'
    refine ⟨?_, ?_, hmounting⟩
    · intro h
      have hwho := hflight h
      simp only [hjs, reduceCtorEq, false_or] at hwho
      exact Or.inr hwho
    · intro _
      -- a flag seen in flight belongs to a task that still has its test to make
      by_cases h : s.transactionInFlight_ = true
      · have hwho := hflight h
        simp only [hjs, reduceCtorEq, false_or] at hwho
        simp only [WillPull, BeforePull, AfterPull, h, if_true] at hwho ⊢
        grind
      · simp [WillPull, h]
  | writeFollowUp =>
    obtain ⟨hjs, hs'⟩ := Option.ite_none_right_eq_some.mp hstep
    cases hs'
    refine ⟨?_, ?_, hmounting⟩
    · intro h
      have hwho := hflight h
      simp only [hjs, reduceCtorEq, false_or] at hwho
      exact Or.inr hwho
    · intro h
      have hwho := hpending h
      simp only [WillPull, BeforePull, AfterPull, hjs, reduceCtorEq, false_or] at hwho ⊢
      grind
  | writeInFlight =>
    obtain ⟨-, hs'⟩ := Option.ite_none_right_eq_some.mp hstep
    cases hs'
    exact ⟨fun _ => Or.inl rfl, fun _ => Or.inr (Or.inr (Or.inl rfl)), hmounting⟩
  | dispatch =>
    obtain ⟨-, hs'⟩ := Option.ite_none_right_eq_some.mp hstep
    cases hs'
    exact ⟨fun _ => Or.inr (Or.inl (Nat.succ_pos _)),
      fun _ => Or.inr (Or.inr (Or.inr (Or.inl (Nat.succ_pos _)))), hmounting⟩
  | startTask => cases hstep
  | perform => cases hstep

/-- The steps of the loop. -/
theorem Followed.performTransaction (hs : s.Followed) (hkeeps : s.KeepsFollowUp .perform)
    (hstep : s.performTransaction = some s') : s'.Followed := by
  obtain ⟨hflight, hpending, hmounting⟩ := hs
  unfold TransactionFlow.performTransaction at hstep
  have hrevision : s.main ≠ .processMutations → s.mounted = s.pulled := fun h =>
    of_not_not (mt hmounting h)
  split at hstep
  · cases hstep
  · rename_i hmain
    cases hstep
    refine ⟨fun _ => ?_, fun _ => ?_, fun h => absurd (hrevision ?_) h⟩
    · simp [BeforePull]
    · simp [WillPull, BeforePull]
    · simp [hmain]
  · rename_i hmain
    cases hstep
    refine ⟨fun _ => ?_, fun _ => ?_, fun h => absurd (hrevision ?_) h⟩
    · simp [BeforePull]
    · simp [WillPull, BeforePull]
    · simp [hmain]
  · cases hstep
    exact ⟨fun _ => by simp, fun h => absurd rfl h, fun _ => rfl⟩
  · rename_i hmain
    cases hstep
    refine ⟨fun _ => by simp, fun h => ?_, fun h => absurd rfl h⟩
    simpa [WillPull, BeforePull, AfterPull, hmain] using hpending h
  · rename_i hmain
    cases hstep
    refine ⟨?_, ?_, ?_⟩
    · intro h
      exact absurd h Bool.false_ne_true
    · intro h
      simpa [WillPull, BeforePull, AfterPull, hmain] using hpending h
    · intro h
      exact absurd (hrevision (by simp [hmain])) h
  · rename_i hmain
    cases hstep
    refine ⟨?_, ?_, fun h => absurd (hrevision ?_) h⟩
    · intro h
      have hwho := hflight h
      simp only [BeforePull, hmain, reduceCtorEq, or_false] at hwho
      exact hwho.imp_right Or.inl
    · intro h
      have hwho := hpending h
      by_cases hfollow : s.followUpTransactionRequired_ = true
      · simp [WillPull, BeforePull, hfollow]
      · -- the loop ends: by the condition someone else is going to pull
        have hlast := hkeeps rfl hmain ((Bool.not_eq_true _).mp hfollow)
        simp only [WillPull, BeforePull, AfterPull, hmain, hfollow, reduceCtorEq] at hwho ⊢
        rcases Nat.eq_zero_or_pos s.queued with h0 | hpos
        · have hjs : s.js ≠ .sawInFlight := fun hjs => h (hlast h0 hjs)
          grind
        · exact Or.inr (Or.inr (Or.inr (Or.inl hpos)))
    · simp [hmain]

theorem Followed.startTask (hs : s.Followed) (hstep : s.exec .startTask = some s') :
    s'.Followed := by
  obtain ⟨⟨hmain, -⟩, hs'⟩ := Option.ite_none_right_eq_some.mp hstep
  cases hs'
  refine ⟨?_, ?_, ?_⟩
  · intro _
    simp [BeforePull]
  · intro _
    simp [WillPull, BeforePull]
  · intro h
    have hprocess := hs.mounting h
    simp [hmain] at hprocess

theorem Followed.step (hs : s.Followed) {step : FlowStep} (hkeeps : s.KeepsFollowUp step)
    (hstep : flowStep s step s') : s'.Followed := by
  cases step with
  | startTask => exact hs.startTask hstep
  | perform => exact hs.performTransaction hkeeps hstep
  | commit => exact hs.schedulerDidFinishTransaction .commit hstep
  | readInFlight => exact hs.schedulerDidFinishTransaction .readInFlight hstep
  | writeFollowUp => exact hs.schedulerDidFinishTransaction .writeFollowUp hstep
  | writeInFlight => exact hs.schedulerDidFinishTransaction .writeInFlight hstep
  | dispatch => exact hs.schedulerDidFinishTransaction .dispatch hstep

theorem followed_start : ({} : TransactionFlow).Followed :=
  ⟨fun h => absurd h Bool.false_ne_true, fun h => absurd rfl h, fun h => absurd rfl h⟩

theorem Followed.run (h : Run flowStep KeepsFollowUp s s') (hs : s.Followed) : s'.Followed :=
  h.invariant (fun _ _ _ hf hkeeps hstep => hf.step hkeeps hstep) hs

/-- In every quiescent state of such a run the last revision committed is mounted. -/
theorem run_mounted (h : Run flowStep KeepsFollowUp {} s) (hq : s.Quiescent) :
    s.pulled = s.committed ∧ s.mounted = s.committed := by
  obtain ⟨hjs, hmain, hqueued⟩ := hq
  have hf := Followed.run h followed_start
  have hpulled : s.pulled = s.committed := by
    by_contra hne
    have := hf.pending hne
    simp [WillPull, BeforePull, AfterPull, hjs, hmain, hqueued] at this
  have hmounted : s.mounted = s.pulled := by
    by_contra hne
    have := hf.mounting hne
    simp [hmain] at this
  exact ⟨hpulled, hmounted.trans hpulled⟩

/-- Two commits whose task is in flight when the second one asks for a follow-up. -/
theorem run_mounted_follow_up :
    ∃ s, Run flowStep KeepsFollowUp {} s ∧ s.Quiescent ∧ s.pulled = s.committed ∧
      s.mounted = s.committed := by
  let steps : List FlowStep := [.commit, .readInFlight, .writeInFlight, .dispatch, .startTask,
    .perform, .perform, .perform, .commit, .readInFlight, .writeFollowUp, .perform, .perform,
    .perform, .perform, .perform, .perform, .perform, .perform, .perform]
  let last : TransactionFlow := { committed := 2, pulled := 2, mounted := 2 }
  have hs : steps.foldlM (fun (s : TransactionFlow) step =>
      if s.KeepsFollowUp step then s.exec step else none) {} = some last := by decide +kernel
  have hrun : Run flowStep KeepsFollowUp {} last :=
    Run.of_checked_exec hs
  have hq : last.Quiescent := by decide
  exact ⟨last, hrun, hq, run_mounted hrun hq⟩

/-- A test that lets go of a revision strands it: once the JS thread has written its
follow-up nothing is left that would pull it. -/
theorem dropped_follow_up_stranded (hmain : s.main = .testFollowUp)
    (hfollow : s.followUpTransactionRequired_ = false) (hqueued : s.queued = 0)
    (hjs : s.js = .sawInFlight) (hlost : s.pulled ≠ s.committed) :
    ∃ s', Run flowStep anyStep s s' ∧ s'.Quiescent ∧ s'.pulled ≠ s'.committed := by
  have htest : flowStep s .perform { s with main := .idle } := by
    simp [flowStep, exec, TransactionFlow.performTransaction, hmain, hfollow]
  have hwrite : flowStep { s with main := .idle } .writeFollowUp
      { s with main := .idle, js := .outside, followUpTransactionRequired_ := true } := by
    simp [flowStep, exec, TransactionFlow.schedulerDidFinishTransaction, hjs]
  exact ⟨_, (Run.single (a := .perform) trivial htest).tail trivial hwrite, ⟨rfl, rfl, hqueued⟩,
    hlost⟩

/-- The second commit sees the first one in flight, and its follow-up comes after the last
test. -/
theorem commit_stranded :
    ∃ s, Run flowStep anyStep {} s ∧ s.Quiescent ∧ s.mounted ≠ s.committed := by
  let steps : List FlowStep := [.commit, .readInFlight, .writeInFlight, .dispatch, .startTask,
    .perform, .perform, .perform, .perform, .commit, .readInFlight, .perform, .perform,
    .writeFollowUp]
  let last : TransactionFlow :=
    { followUpTransactionRequired_ := true, committed := 2, pulled := 1, mounted := 1 }
  have hs : steps.foldlM exec {} = some last := by decide +kernel
  exact ⟨last, Run.of_exec hs, by decide, by decide⟩

end TransactionFlow

end ReactNativeSkia
