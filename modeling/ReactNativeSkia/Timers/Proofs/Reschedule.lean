import ReactNativeSkia.Timers.FollyTimer
import Mathlib.Data.List.Basic

/-!
# The earliest of several calls

While nothing fires, calls of `reschedule` should leave the timer armed for the earliest deadline.
The closure of a call compares its duration with the remaining milliseconds divided by `1000`, and
so may keep a deadline that is later.
-/

namespace ReactNativeSkia

/-- When the closure of a call runs, and what the call asked for. -/
structure TimerRequest where
  time : Int
  duration : ℚ

def TimerRequest.due (request : TimerRequest) : Int := request.time + ⌊request.duration⌋

/-- Calls of `reschedule` for a millisecond or more, closures and the clock, and no more. -/
def TimerOp.IsReschedule : TimerOp → Prop
  | .tick _ | .runTask _ => True
  | .reschedule duration _ => 1 ≤ duration
  | .start | .abort | .timeoutExpired _ => False

/-- The calls whose closures run, in order. `waiting` are the durations of those that are queued. -/
def timerRequests (now : Int) (waiting : List ℚ) : List TimerOp → List TimerRequest
  | [] => []
  | .tick milliseconds :: ops => timerRequests (now + milliseconds) waiting ops
  | .reschedule duration _ :: ops => timerRequests now (waiting ++ [duration]) ops
  | .runTask _ :: ops =>
    match waiting with
    | [] => timerRequests now [] ops
    | duration :: waiting =>
      { time := now, duration := duration } :: timerRequests now waiting ops
  | .start :: ops | .abort :: ops | .timeoutExpired _ :: ops => timerRequests now waiting ops

/-- The earliest of a deadline, if there is one, and of what the calls ask for. -/
def earliest (due : Option Int) (requests : List TimerRequest) : Option Int :=
  (due.toList ++ requests.map TimerRequest.due).min?

/-- A call that asks for less than the earliest deadline so far asks for less than a thousandth of
the way there. -/
def FarBelow (due : Option Int) (requests : List TimerRequest) : Prop :=
  ∀ (before : List TimerRequest) (request : TimerRequest) (after : List TimerRequest),
    requests = before ++ request :: after → ∀ M, earliest due before = some M → request.due < M →
      request.duration < ((M - request.time) / 1000 : Int)

section

variable {due : Option Int} {request : TimerRequest} {requests : List TimerRequest}

theorem earliest_nil (due : Option Int) : earliest due [] = due := by
  cases due <;> rfl

theorem earliest_cons (due : Option Int) (request : TimerRequest) (requests : List TimerRequest) :
    earliest due (request :: requests) = earliest (earliest due [request]) requests := by
  cases due <;> rfl

theorem earliest_append (due : Option Int) (before after : List TimerRequest) :
    earliest due (before ++ after) = earliest (earliest due before) after := by
  induction before generalizing due with
  | nil => rw [List.nil_append, earliest_nil]
  | cons request before ih =>
    rw [List.cons_append, earliest_cons, ih, earliest_cons due request before]

theorem farBelow_nil (due : Option Int) : FarBelow due [] := by
  intro before request after h
  cases before <;> cases h

theorem farBelow_cons :
    FarBelow due (request :: requests) ↔
      (∀ M, due = some M → request.due < M →
        request.duration < ((M - request.time) / 1000 : Int)) ∧
      FarBelow (earliest due [request]) requests := by
  constructor
  · intro h
    constructor
    · intro M hM
      exact h [] request requests rfl M (by rw [earliest_nil, hM])
    · intro before r after heq M hM
      exact h (request :: before) r after (by rw [heq]; rfl) M (by rw [earliest_cons, hM])
  · rintro ⟨hhead, htail⟩ before r after heq M hM
    cases before with
    | nil =>
      obtain ⟨rfl, rfl⟩ := List.cons.inj heq
      rw [earliest_nil] at hM
      exact hhead M hM
    | cons first before =>
      obtain ⟨rfl, rfl⟩ := List.cons.inj heq
      rw [earliest_cons] at hM
      exact htail before r after rfl M hM

end

namespace Timer

variable [HHWheelTimer] [LawfulHHWheelTimer]

/-- One closure keeps the earlier of the two deadlines unless the new one is too near. -/
theorem runTask_earliest {timer : Timer} (hcb : timer.timerCallback_ = true) (call : TimerCall)
    (hd : 1 ≤ call.duration) (now : Int) :
    (timer.runTask now (.rescheduleTimeout call)).deadline =
        earliest timer.deadline [{ time := now, duration := call.duration }] ↔
      ∀ M, timer.deadline = some M → now + ⌊call.duration⌋ < M →
        call.duration < ((M - now) / 1000 : Int) := by
  rw [deadline_runTask hcb call hd]
  cases h : timer.deadline with
  | none =>
    have hreplaces : timer.replaces call.duration now = true := by
      rw [replaces_iff, h]
      exact fun _ hM => absurd hM (by simp)
    rw [if_pos hreplaces]
    exact ⟨fun _ M hM => absurd hM (by simp), fun _ => rfl⟩
  | some M =>
    have hreplaces : timer.replaces call.duration now = true ↔
        call.duration < (max (M - now) 0 / 1000 : Int) := by
      rw [replaces_iff, h]
      exact ⟨fun hall => hall M rfl, fun hlt _ hM => Option.some.inj hM ▸ hlt⟩
    have hfloor : (1 : Int) ≤ ⌊call.duration⌋ := Int.le_floor.mpr (by exact_mod_cast hd)
    have hearliest : earliest (some M) [{ time := now, duration := call.duration }] =
        some (min M (now + ⌊call.duration⌋)) := rfl
    rw [hearliest]
    constructor
    · intro heq M' hM' hlt
      obtain rfl := Option.some.inj hM'
      rw [min_eq_right hlt.le] at heq
      by_cases hr : timer.replaces call.duration now = true
      · have := hreplaces.mp hr
        rwa [max_eq_left (by omega)] at this
      · rw [if_neg hr] at heq
        exact absurd (Option.some.inj heq) hlt.ne'
    · intro hall
      by_cases hr : timer.replaces call.duration now = true
      · rw [if_pos hr, min_eq_right (lt_of_replaces hr hd h).le]
      · rw [if_neg hr]
        by_cases hlt : now + ⌊call.duration⌋ < M
        · refine absurd (hreplaces.mpr ?_) hr
          rw [max_eq_left (by omega)]
          exact hall M rfl hlt
        · rw [min_eq_left (not_lt.mp hlt)]

end Timer

namespace TimerSystem

section

variable [HHWheelTimer]

/-- The queue holds closures of `reschedule` for these durations, and they will find the slot
filled. -/
structure Awaits (s : TimerSystem) (waiting : List ℚ) : Prop where
  cb : s.timer.cb_ = true
  tasks : ∃ calls : List TimerCall, s.timer.tasks = calls.map .rescheduleTimeout ∧
    calls.map TimerCall.duration = waiting
  least : ∀ duration ∈ waiting, 1 ≤ duration
  filled : waiting ≠ [] → s.timer.timerCallback_ = true

/-- After each of the steps the timer is armed for the earliest of the deadline at the start and of
what the calls ask for whose closures have run by then. -/
def KeepsEarliest (s : TimerSystem) (waiting : List ℚ) (ops : List TimerOp) : Prop :=
  ∀ before, before <+: ops → ∀ t, before.foldlM TimerOp.exec s = some t →
    t.timer.deadline = earliest s.timer.deadline (timerRequests s.now waiting before)

variable {s s' : TimerSystem} {waiting waiting' : List ℚ} {op : TimerOp}

theorem keepsEarliest_nil (s : TimerSystem) (waiting : List ℚ) : s.KeepsEarliest waiting [] := by
  intro before hbefore t ht
  obtain rfl := List.prefix_nil.mp hbefore
  obtain rfl : s = t := Option.some.inj ht
  rw [timerRequests, earliest_nil]

theorem keepsEarliest_cons (hexec : op.exec s = some s') (requests : List TimerRequest)
    (hrequests : ∀ ops, timerRequests s.now waiting (op :: ops) =
      requests ++ timerRequests s'.now waiting' ops) (ops : List TimerOp) :
    s.KeepsEarliest waiting (op :: ops) ↔
      s'.timer.deadline = earliest s.timer.deadline requests ∧ s'.KeepsEarliest waiting' ops := by
  have hfold : ∀ before, (op :: before).foldlM TimerOp.exec s = before.foldlM TimerOp.exec s' := by
    intro before
    rw [List.foldlM_cons, hexec]
    rfl
  constructor
  · intro h
    have hstep : s'.timer.deadline = earliest s.timer.deadline requests := by
      have := h [op] (List.prefix_cons_inj _ |>.mpr (List.nil_prefix)) s' (by rw [hfold]; rfl)
      rwa [hrequests, timerRequests, List.append_nil] at this
    refine ⟨hstep, ?_⟩
    intro before hbefore t ht
    rw [h (op :: before) ((List.prefix_cons_inj _).mpr hbefore) t (by rw [hfold, ht]), hrequests,
      earliest_append, hstep]
  · rintro ⟨hstep, htail⟩ before hbefore t ht
    rcases List.prefix_cons_iff.mp hbefore with rfl | ⟨before, rfl, hprefix⟩
    · obtain rfl : s = t := Option.some.inj ht
      rw [timerRequests, earliest_nil]
    · rw [hfold] at ht
      rw [htail before hprefix t ht, hrequests, earliest_append, hstep]

/-! ## What a step does to the queue -/

theorem Awaits.tick (h : s.Awaits waiting) {milliseconds : Nat}
    (hexec : (TimerOp.tick milliseconds).exec s = some s') :
    s'.now = s.now + milliseconds ∧ s'.timer.deadline = s.timer.deadline ∧ s'.Awaits waiting := by
  obtain rfl := Option.some.inj hexec
  exact ⟨rfl, rfl, h.cb, h.tasks, h.least, h.filled⟩

theorem Awaits.reschedule (h : s.Awaits waiting) {duration : ℚ} {repeats : Bool}
    (hd : 1 ≤ duration) (hexec : (TimerOp.reschedule duration repeats).exec s = some s') :
    s'.now = s.now ∧ s'.timer.deadline = s.timer.deadline ∧ s'.Awaits (waiting ++ [duration]) := by
  simp only [TimerOp.exec, Timer.reschedule_of_le h.cb hd] at hexec
  obtain rfl := Option.some.inj hexec
  obtain ⟨calls, htasks, hdurations⟩ := h.tasks
  refine ⟨rfl, rfl, h.cb, ?_, ?_, fun _ => rfl⟩
  · refine ⟨calls ++ [{ time := s.now, duration := duration, aborts := s.aborts }], ?_, ?_⟩
    · rw [List.map_append, ← htasks]
      rfl
    · rw [List.map_append, hdurations]
      rfl
  · intro d hmem
    rcases List.mem_append.mp hmem with hmem | hmem
    · exact h.least d hmem
    · rwa [List.mem_singleton.mp hmem]

/-- There is a closure to run only if a call waits. -/
theorem Awaits.runTask (h : s.Awaits waiting) {elapsed : ℚ}
    (hexec : (TimerOp.runTask elapsed).exec s = some s') :
    ∃ call waiting', waiting = TimerCall.duration call :: waiting' ∧ s'.now = s.now ∧
      s'.timer.deadline = (s.timer.runTask s.now (.rescheduleTimeout call)).deadline ∧
      s'.Awaits waiting' := by
  obtain ⟨calls, htasks, hdurations⟩ := h.tasks
  cases calls with
  | nil =>
    simp only [TimerOp.exec, htasks, List.map_nil] at hexec
    cases hexec
  | cons call calls =>
    simp only [TimerOp.exec, htasks, List.map_cons] at hexec
    obtain rfl := Option.some.inj hexec
    rw [List.map_cons] at hdurations
    subst hdurations
    have hfilled := h.filled (List.cons_ne_nil _ _)
    refine ⟨call, _, rfl, rfl, ?_, ?_⟩
    · simp only [TimerSystem.runTask, Timer.runTask]
      split <;> split <;> first | rfl | contradiction
    · obtain ⟨hcb, htimerCallback, -, hrest⟩ := Timer.runTask_frame
        { s.timer with tasks := calls.map .rescheduleTimeout } s.now (.rescheduleTimeout call)
      refine ⟨hcb.trans h.cb, ⟨calls, hrest, rfl⟩, ?_, fun _ => htimerCallback.trans hfilled⟩
      exact fun duration hmem => h.least duration (List.mem_cons_of_mem _ hmem)

end

section

variable [HHWheelTimer] [LawfulHHWheelTimer] {s s' : TimerSystem}

theorem Awaits.keepsEarliest_farBelow {ops : List TimerOp} {waiting : List ℚ} (h : s.Awaits waiting)
    (hops : ∀ op ∈ ops, op.IsReschedule) (hrun : ops.foldlM TimerOp.exec s = some s') :
    s.KeepsEarliest waiting ops ↔
      FarBelow s.timer.deadline (timerRequests s.now waiting ops) := by
  induction ops generalizing s waiting with
  | nil => exact iff_of_true (keepsEarliest_nil s waiting) (farBelow_nil _)
  | cons op ops ih =>
    rw [List.foldlM_cons] at hrun
    obtain ⟨t, hexec, hrest⟩ := Option.bind_eq_some_iff.mp hrun
    have hop := hops op List.mem_cons_self
    have hops' : ∀ op ∈ ops, op.IsReschedule := fun op hmem =>
      hops op (List.mem_cons_of_mem _ hmem)
    cases op with
    | tick milliseconds =>
      obtain ⟨hnow, hdeadline, h'⟩ := h.tick hexec
      rw [keepsEarliest_cons hexec [] (fun _ => by rw [hnow]; rfl), ih h' hops' hrest, hdeadline,
        hnow]
      exact and_iff_right (earliest_nil _).symm
    | reschedule duration repeats =>
      obtain ⟨hnow, hdeadline, h'⟩ := h.reschedule hop hexec
      rw [keepsEarliest_cons hexec [] (fun _ => by rw [hnow]; rfl), ih h' hops' hrest, hdeadline,
        hnow]
      exact and_iff_right (earliest_nil _).symm
    | runTask elapsed =>
      obtain ⟨call, waiting, rfl, hnow, hdeadline, h'⟩ := h.runTask hexec
      have hfilled := h.filled (List.cons_ne_nil _ _)
      have hleast := h.least _ List.mem_cons_self
      rw [keepsEarliest_cons hexec [{ time := s.now, duration := call.duration }]
          (fun _ => by rw [hnow]; rfl), ih h' hops' hrest, hdeadline, hnow]
      have hstep := Timer.runTask_earliest hfilled call hleast s.now
      simp only [timerRequests]
      rw [farBelow_cons]
      refine Iff.trans (and_congr_right fun heq => ?_) (and_congr_left' hstep)
      rw [heq]
    | start => exact hop.elim
    | abort => exact hop.elim
    | timeoutExpired elapsed => exact hop.elim

/-- Calls of `reschedule` leave a timer with an empty queue armed for the earliest deadline, after
each closure, exactly if every call that asks for less than the earliest deadline so far is far
below it. -/
theorem keepsEarliest_iff {ops : List TimerOp} (hcb : s.timer.cb_ = true)
    (htasks : s.timer.tasks = []) (hops : ∀ op ∈ ops, op.IsReschedule)
    (hrun : ops.foldlM TimerOp.exec s = some s') :
    s.KeepsEarliest [] ops ↔ FarBelow s.timer.deadline (timerRequests s.now [] ops) := by
  have h : s.Awaits [] := ⟨hcb, ⟨[], htasks, rfl⟩, by simp, fun h => absurd rfl h⟩
  exact h.keepsEarliest_farBelow hops hrun

end

end TimerSystem

section

open DeadlineWheel TimerSystem

/-- A timer armed for `5000`. -/
def armedSystem : TimerSystem :=
  { timer := { targetDuration_ := 5000, repeats_ := false, cb_ := true, timerCallback_ := true,
               wheel := some 5000 } }

/-- A call for `3` milliseconds finds `4999` left. -/
theorem keepsEarliest_iff_three :
    armedSystem.KeepsEarliest [] [.reschedule 3 false, .tick 1, .runTask 0] := by
  refine (keepsEarliest_iff rfl rfl ?_ rfl).mpr ?_
  · simp [TimerOp.IsReschedule]
  · refine farBelow_cons.mpr ⟨?_, farBelow_nil _⟩
    intro M hM
    obtain rfl := Option.some.inj hM
    exact fun _ => by decide +kernel

/-- The constructor and its closure arm the timer for `5000`. A call for `100` milliseconds, whose
closure runs at once, leaves it so. -/
theorem later_deadline_kept :
    ∃ s t : TimerSystem,
      (TimerOp.runTask 0).exec (TimerSystem.create 5000 false true 0) = some s ∧
      s.timer.cb_ = true ∧ s.timer.tasks = [] ∧ s.timer.deadline = some 5000 ∧
      [TimerOp.reschedule 100 false, .runTask 0].foldlM TimerOp.exec s = some t ∧
      t.timer.tasks = [] ∧ t.timer.deadline = some 5000 ∧
      earliest s.timer.deadline
        (timerRequests s.now [] [TimerOp.reschedule 100 false, .runTask 0]) = some 100 := by
  refine ⟨_, _, rfl, ?_, ?_, ?_, rfl, ?_, ?_, ?_⟩ <;> decide +kernel

end

end ReactNativeSkia
