import ReactNativeSkia.Caches.ExpiryCache
import ReactNativeSkia.Misc.Run

/-!
# Entries expire on time

The timer of a cache is armed for no later than the next expiry time, or its callback is queued,
which runs at once. An insertion that expires earlier has to replace what the timer is armed for,
which it does not if the durations are too close.
-/

namespace ReactNativeSkia

namespace Timer

variable [HHWheelTimer]

/-- A call of `scheduleTimerTimeout` waits in the queue. -/
def hasFiring (timer : Timer) : Bool := timer.tasks.any TimerTask.skipsSlot

/-- The callback will be called by each of the times, or at once. -/
def FiresBy (timer : Timer) (times : List ℚ) : Prop :=
  timer.hasFiring = true ∨
    timer.timerCallback_ = true ∧
      ∃ due, timer.deadline = some due ∧ ∀ time ∈ times, (due : ℚ) ≤ time

/-- A closure of `reschedule` that finds the timer armed for later than it asks for replaces that:
its duration is less than the whole seconds that remain. -/
def ArmsInTime (timer : Timer) (now : Int) : TimerTask → Prop
  | .rescheduleTimeout call =>
    timer.timerCallback_ = true → ∀ due ∈ timer.deadline, now + ⌊call.duration⌋ < due →
      call.duration < ((due - now) / 1000 : Int)
  | _ => True

/-- So do all closures that run before the first `scheduleTimerTimeout`. -/
def QueueInTime (now : Int) : Timer → List TimerTask → Prop
  | _, [] => True
  | timer, task :: rest =>
    task.skipsSlot = true ∨
      timer.ArmsInTime now task ∧ (timer.runTask now task).QueueInTime now rest

instance (timer : Timer) (now : Int) : ∀ task, Decidable (timer.ArmsInTime now task)
  | .rescheduleTimeout _ => by unfold ArmsInTime; infer_instance
  | .scheduleTimerTimeout _ | .startTimeout _ | .repeatTimeout _ _ | .cancelAll | .function _ =>
    isTrue trivial

instance decidableQueueInTime (now : Int) : (timer : Timer) → (tasks : List TimerTask) →
    Decidable (timer.QueueInTime now tasks)
  | _, [] => isTrue trivial
  | timer, task :: rest =>
    have := decidableQueueInTime now (timer.runTask now task) rest
    inferInstanceAs (Decidable (_ ∨ _ ∧ _))

end Timer

/-- The entries that have expired are removed, and no others. -/
def CacheFiring.Exact {Key Value : Type} (firing : CacheFiring Key Value) : Prop :=
  ∀ entry, entry ∈ firing.after ↔
    entry ∈ firing.before ∧ (firing.time : ℚ) < entry.2.cacheExpiryTime

namespace ExpiryCache

variable {Key Value : Type} [HHWheelTimer]

def expiryTimes (s : ExpiryCache Key Value) : List ℚ :=
  s.cacheMap_.map fun entry => entry.2.cacheExpiryTime

/-- With an entry in the map the callback will be called by the first expiry time. It removes what
has expired. No call goes through a null pointer. -/
structure ExpiresOnTime (s : ExpiryCache Key Value) : Prop where
  fires : s.cacheMap_ ≠ [] → ∃ timer, s.timer_ = some timer ∧ timer.FiresBy s.expiryTimes
  exact : ∀ firing ∈ s.firings, firing.Exact
  notNull : s.nullUsed = false

/-- Before the closures run. -/
def SettlesInTime (s : ExpiryCache Key Value) : Prop :=
  ∀ timer ∈ s.timer_, timer.QueueInTime s.now timer.tasks

instance (s : ExpiryCache Key Value) : Decidable s.SettlesInTime := by
  unfold SettlesInTime
  infer_instance

end ExpiryCache

section

variable {Key Value : Type} [HHWheelTimer] [DecidableEq Key]

/-- The closures that an operation on the network cache lets run arm the timer in time. -/
def ThreadSafeCacheOp.InTime (s : ExpiryCache Key Value) (op : ThreadSafeCacheOp Key Value) :
    Prop :=
  ∀ t ∈ op.act s, t.SettlesInTime

omit [HHWheelTimer] [DecidableEq Key] in
def ImageCacheOp.clears : ImageCacheOp Key Value → Bool
  | clearMemory _ => true
  | _ => false

/-- So do those of the image cache, which is not cleared before the first insertion. -/
def ImageCacheOp.InTime (s : ExpiryCache Key Value) (op : ImageCacheOp Key Value) : Prop :=
  (∀ t ∈ op.act s, t.SettlesInTime) ∧ (op.clears = true → s.timer_.isSome = true)

instance (s : ExpiryCache Key Value) (op : ThreadSafeCacheOp Key Value) :
    Decidable (op.InTime s) := by
  unfold ThreadSafeCacheOp.InTime
  infer_instance

instance (s : ExpiryCache Key Value) (op : ImageCacheOp Key Value) : Decidable (op.InTime s) := by
  unfold ImageCacheOp.InTime
  infer_instance

end

/-! ## Closures that run at once -/

namespace Timer

variable [HHWheelTimer]

theorem runClosures_frame (timer : Timer) (now : Int) (tasks : List TimerTask) :
    (timer.runClosures now tasks).cb_ = timer.cb_ ∧
      (timer.runClosures now tasks).repeats_ = timer.repeats_ ∧
      (timer.runClosures now tasks).timerCallback_ = timer.timerCallback_ := by
  induction tasks generalizing timer with
  | nil => exact ⟨rfl, rfl, rfl⟩
  | cons task rest ih =>
    obtain ⟨hcb, hslot, hrepeats, -⟩ := timer.runTask_frame now task
    obtain ⟨hcb', hrepeats', hslot'⟩ := ih (timer.runTask now task)
    have hrest := And.intro (hcb'.trans hcb) (And.intro (hrepeats'.trans hrepeats)
      (hslot'.trans hslot))
    cases task with
    | scheduleTimerTimeout call => exact ⟨rfl, rfl, rfl⟩
    | startTimeout call => exact hrest
    | rescheduleTimeout call => exact hrest
    | repeatTimeout call targetDuration => exact hrest
    | cancelAll => exact hrest
    | function argument => exact hrest

/-- A closure that does not skip the slot is run and forgotten. -/
theorem runClosures_cons {task : TimerTask} (hskips : task.skipsSlot = false) (timer : Timer)
    (now : Int) (rest : List TimerTask) :
    timer.runClosures now (task :: rest) = (timer.runTask now task).runClosures now rest := by
  cases task with
  | scheduleTimerTimeout call => cases hskips
  | startTimeout call => rfl
  | rescheduleTimeout call => rfl
  | repeatTimeout call targetDuration => rfl
  | cancelAll => rfl
  | function argument => rfl

/-- Calls of `scheduleTimerTimeout` stay. -/
theorem runClosures_hasFiring (timer : Timer) (now : Int) (tasks : List TimerTask) :
    (timer.runClosures now tasks).hasFiring = tasks.any TimerTask.skipsSlot := by
  induction tasks generalizing timer with
  | nil => rfl
  | cons task rest ih =>
    cases hskips : task.skipsSlot with
    | true =>
      obtain ⟨call, rfl⟩ : ∃ call, task = .scheduleTimerTimeout call := by
        cases task with
        | scheduleTimerTimeout call => exact ⟨call, rfl⟩
        | startTimeout call => cases hskips
        | rescheduleTimeout call => cases hskips
        | repeatTimeout call targetDuration => cases hskips
        | cancelAll => cases hskips
        | function argument => cases hskips
      rfl
    | false =>
      rw [runClosures_cons hskips, ih, List.any_cons, hskips]
      rfl

theorem runClosures_quiet (timer : Timer) (now : Int) (tasks : List TimerTask) :
    (timer.runClosures now tasks).tasks = [] ∨ (timer.runClosures now tasks).hasFiring = true := by
  induction tasks generalizing timer with
  | nil => exact .inl rfl
  | cons task rest ih =>
    cases task with
    | scheduleTimerTimeout call => exact .inr rfl
    | startTimeout call => exact ih _
    | rescheduleTimeout call => exact ih _
    | repeatTimeout call targetDuration => exact ih _
    | cancelAll => exact ih _
    | function argument => exact ih _

/-- Between two operations nothing waits but calls of `scheduleTimerTimeout` and what is behind
them. -/
theorem settle_of_quiet {timer : Timer} (h : timer.tasks = [] ∨ timer.hasFiring = true) (now : Int)
    {times : List ℚ} (hfires : timer.FiresBy times) : (timer.settle now).FiresBy times := by
  unfold settle
  rcases h with htasks | hfiring
  · have hsettle : timer.runClosures now timer.tasks = { timer with tasks := [] } := by
      rw [htasks]
      rfl
    rw [hsettle]
    rcases hfires with hfiring | harmed
    · unfold hasFiring at hfiring
      rw [htasks] at hfiring
      cases hfiring
    · exact .inr harmed
  · refine .inl ?_
    rw [runClosures_hasFiring]
    exact hfiring

variable [LawfulHHWheelTimer]

/-- What a closure of `reschedule` arms the timer for. -/
theorem runTask_in_time {timer : Timer} {now : Int} {call : TimerCall}
    (hslot : timer.timerCallback_ = true) (hd : 1 ≤ call.duration)
    (harms : timer.ArmsInTime now (.rescheduleTimeout call)) :
    ∃ due, (timer.runTask now (.rescheduleTimeout call)).deadline = some due ∧
      due ≤ now + ⌊call.duration⌋ ∧ ∀ old ∈ timer.deadline, due ≤ old := by
  rw [deadline_runTask hslot call hd]
  cases hreplaces : timer.replaces call.duration now with
  | true =>
    rw [if_pos rfl]
    refine ⟨_, rfl, le_refl _, fun old hold => ?_⟩
    exact (lt_of_replaces hreplaces hd hold).le
  | false =>
    rw [if_neg Bool.false_ne_true]
    have hkeeps : ¬timer.replaces call.duration now = true := by simp [hreplaces]
    rw [replaces_iff] at hkeeps
    push Not at hkeeps
    obtain ⟨due, hdue, hle⟩ := hkeeps
    refine ⟨due, hdue, ?_, fun old hold => ?_⟩
    · -- a later deadline would have been replaced
      by_contra hlate
      have hfloor : (1 : Int) ≤ ⌊call.duration⌋ := Int.le_floor.mpr (by exact_mod_cast hd)
      have hlt := harms hslot due hdue (by omega)
      rw [max_eq_left (by omega)] at hle
      exact absurd hlt (not_lt.mpr hle)
    · rw [hdue] at hold
      exact (Option.some.inj hold).le

/-- The last closure decides. -/
theorem runClosures_reschedule_last {timer : Timer} {now : Int} {call : TimerCall}
    (hslot : timer.timerCallback_ = true) (hd : 1 ≤ call.duration) {tasks : List TimerTask}
    (hskips : tasks.any TimerTask.skipsSlot = false)
    (hruns : timer.QueueInTime now (tasks ++ [.rescheduleTimeout call])) :
    ∃ due, (timer.runClosures now (tasks ++ [.rescheduleTimeout call])).deadline = some due ∧
      due ≤ now + ⌊call.duration⌋ := by
  induction tasks generalizing timer with
  | nil =>
    rcases hruns with ⟨⟨⟩⟩ | ⟨harms, -⟩
    obtain ⟨due, hdue, hle, -⟩ := runTask_in_time hslot hd harms
    exact ⟨due, hdue, hle⟩
  | cons task rest ih =>
    rw [List.any_cons, Bool.or_eq_false_iff] at hskips
    rcases hruns with hskip | ⟨-, hrest⟩
    · rw [hskips.1] at hskip
      cases hskip
    · rw [List.cons_append, runClosures_cons hskips.1]
      exact ih ((timer.runTask_frame now task).2.1.trans hslot) hskips.2 hrest

variable {timer : Timer} {now : Int} {duration : ℚ}

/-- A timer that is rescheduled fires by the time asked for. With nothing in its queue it fires by
the time it has been armed for as well. -/
theorem settle_reschedule (hcb : timer.cb_ = true)
    (hruns : (timer.reschedule duration false now 0).QueueInTime now
      (timer.reschedule duration false now 0).tasks) :
    ((timer.reschedule duration false now 0).settle now).hasFiring = true ∨
      ((timer.reschedule duration false now 0).settle now).timerCallback_ = true ∧
      ∃ due, ((timer.reschedule duration false now 0).settle now).deadline = some due ∧
        (due : ℚ) ≤ now + duration ∧ (timer.tasks = [] → ∀ old ∈ timer.deadline, due ≤ old) := by
  unfold settle
  by_cases hd : 1 ≤ duration
  · rw [reschedule_of_le hcb hd] at hruns ⊢
    simp only [push] at hruns ⊢
    have hfloor {due : Int} (hle : due ≤ now + ⌊duration⌋) : (due : ℚ) ≤ now + duration := by
      have hle' : (due : ℚ) ≤ now + (⌊duration⌋ : Int) := by exact_mod_cast hle
      have := Int.floor_le duration
      linarith
    cases hskips : timer.tasks.any TimerTask.skipsSlot with
    | true =>
      refine .inl ?_
      rw [runClosures_hasFiring, List.any_append, hskips]
      rfl
    | false =>
      refine .inr ⟨(runClosures_frame _ _ _).2.2, ?_⟩
      by_cases htasks : timer.tasks = []
      · simp only [htasks, List.nil_append] at hruns ⊢
        rcases hruns with ⟨⟨⟩⟩ | ⟨harms, -⟩
        obtain ⟨due, hdue, hle, hold⟩ := runTask_in_time rfl hd harms
        exact ⟨due, hdue, hfloor hle, fun _ => hold⟩
      · obtain ⟨due, hdue, hle⟩ := runClosures_reschedule_last rfl hd hskips hruns
        exact ⟨due, hdue, hfloor hle, fun h => absurd h htasks⟩
  · refine .inl ?_
    rw [reschedule_of_lt hcb (not_le.mp hd), runClosures_hasFiring]
    simp [TimerTask.skipsSlot]

theorem create_of_le (hd : 1 ≤ duration) : create duration false true true now =
    { targetDuration_ := duration, repeats_ := false, cb_ := true, timerCallback_ := true,
      tasks := [.startTimeout ⟨now, duration, 0⟩] } := by
  have hscheduled : HHWheelTimer.isScheduled HHWheelTimer.idle = false := by
    rw [LawfulHHWheelTimer.isScheduled_eq, LawfulHHWheelTimer.deadline_idle]
    rfl
  simp [create, start, isScheduled, hscheduled, not_lt.mpr hd, push]

/-- A timer fires by the duration it is created with. -/
theorem settle_create {times : List ℚ} (htimes : ∀ time ∈ times, (now : ℚ) + duration ≤ time) :
    ((create duration false true true now).settle now).FiresBy times := by
  unfold settle
  by_cases hd : 1 ≤ duration
  · rw [create_of_le hd]
    refine .inr ⟨rfl, now + wholeMilliseconds duration,
      deadline_scheduleTimeout _ ⟨now, duration, 0⟩ _ _, fun time htime => ?_⟩
    have := htimes time htime
    have hfloor := Int.floor_le duration
    rw [wholeMilliseconds_eq (zero_le_one.trans hd)]
    push_cast
    linarith
  · have hscheduled : HHWheelTimer.isScheduled HHWheelTimer.idle = false := by
      rw [LawfulHHWheelTimer.isScheduled_eq, LawfulHHWheelTimer.deadline_idle]
      rfl
    refine .inl ?_
    rw [runClosures_hasFiring]
    simp [create, start, isScheduled, hscheduled, not_le.mp hd, push, TimerTask.skipsSlot]

omit [LawfulHHWheelTimer] in
theorem reschedule_hasFiring (h : timer.hasFiring = true) :
    (timer.reschedule duration false now 0).hasFiring = true := by
  unfold hasFiring at h ⊢
  unfold reschedule abort push
  dsimp only
  split_ifs <;> simp [h]

omit [LawfulHHWheelTimer] in
theorem reschedule_frame (timer : Timer) (duration : ℚ) (now : Int) :
    (timer.reschedule duration false now 0).cb_ = timer.cb_ ∧
      (timer.repeats_ = false → (timer.reschedule duration false now 0).repeats_ = false) := by
  unfold reschedule abort push
  dsimp only
  split_ifs <;> exact ⟨rfl, fun h => by first | exact h | rfl⟩

end Timer

/-! ## The loop of the callback -/

section

variable {Key Value : Type}

theorem eraseExpired_fst (currentTime scheduleTimeExpiry : ℚ)
    (map : List (Key × CacheData Value)) : (eraseExpired currentTime scheduleTimeExpiry map).1 =
      map.filter fun entry => currentTime < entry.2.cacheExpiryTime := by
  induction map generalizing scheduleTimeExpiry with
  | nil => rfl
  | cons entry rest ih =>
    unfold eraseExpired
    split
    · rename_i hexpired
      rw [ih, List.filter_cons_of_neg (by simpa using hexpired)]
    · rename_i hexpired
      dsimp only
      rw [ih, List.filter_cons_of_pos (by simpa using hexpired)]

/-- The next expiry time is no later than that of any entry that is left. -/
theorem eraseExpired_snd_le (currentTime scheduleTimeExpiry : ℚ)
    (map : List (Key × CacheData Value)) :
    (eraseExpired currentTime scheduleTimeExpiry map).2 ≤ scheduleTimeExpiry ∧
      ∀ entry ∈ (eraseExpired currentTime scheduleTimeExpiry map).1,
        (eraseExpired currentTime scheduleTimeExpiry map).2 ≤ entry.2.cacheExpiryTime := by
  induction map generalizing scheduleTimeExpiry with
  | nil => exact ⟨le_refl _, by rintro _ ⟨⟩⟩
  | cons entry rest ih =>
    unfold eraseExpired
    split
    · exact ih scheduleTimeExpiry
    · dsimp only
      have hnext : (if scheduleTimeExpiry > entry.2.cacheExpiryTime then entry.2.cacheExpiryTime
          else scheduleTimeExpiry) ≤ scheduleTimeExpiry ∧
          (if scheduleTimeExpiry > entry.2.cacheExpiryTime then entry.2.cacheExpiryTime
          else scheduleTimeExpiry) ≤ entry.2.cacheExpiryTime := by
        split
        · rename_i hlater
          exact ⟨le_of_lt hlater, le_refl _⟩
        · rename_i hlater
          exact ⟨le_refl _, not_lt.mp hlater⟩
      obtain ⟨hle, hrest⟩ := ih (if scheduleTimeExpiry > entry.2.cacheExpiryTime then
        entry.2.cacheExpiryTime else scheduleTimeExpiry)
      refine ⟨hle.trans hnext.1, fun other hother => ?_⟩
      rcases List.mem_cons.mp hother with rfl | hother
      · exact hle.trans hnext.2
      · exact hrest other hother

end

namespace ExpiryCache

variable {Key Value : Type} [HHWheelTimer] {s : ExpiryCache Key Value}

/-- What holds when the closures have not run yet. -/
structure Acted (s : ExpiryCache Key Value) : Prop where
  timer : ∀ timer ∈ s.timer_, timer.cb_ = true ∧ timer.repeats_ = false
  fires : s.cacheMap_ ≠ [] → ∃ timer, s.timer_ = some timer ∧
    (timer.settle s.now).FiresBy (s.scheduleTimeExpiry_ :: s.expiryTimes)
  exact : ∀ firing ∈ s.firings, firing.Exact
  notNull : s.nullUsed = false

/-- What holds between two operations. -/
structure Keeps (s : ExpiryCache Key Value) : Prop where
  timer : ∀ timer ∈ s.timer_, timer.cb_ = true ∧ timer.repeats_ = false ∧
    (timer.tasks = [] ∨ timer.hasFiring = true)
  fires : s.cacheMap_ ≠ [] → ∃ timer, s.timer_ = some timer ∧
    timer.FiresBy (s.scheduleTimeExpiry_ :: s.expiryTimes)
  exact : ∀ firing ∈ s.firings, firing.Exact
  notNull : s.nullUsed = false

theorem Keeps.expiresOnTime (h : s.Keeps) : s.ExpiresOnTime where
  fires hmap := by
    obtain ⟨timer, htimer, hfires⟩ := h.fires hmap
    refine ⟨timer, htimer, hfires.imp_right ?_⟩
    rintro ⟨hslot, due, hdue, htimes⟩
    exact ⟨hslot, due, hdue, fun time htime => htimes time (List.mem_cons_of_mem _ htime)⟩
  exact := h.exact
  notNull := h.notNull

theorem Acted.settle (h : s.Acted) : s.settle.Keeps where
  timer timer htimer := by
    obtain ⟨before, hbefore, rfl⟩ := Option.map_eq_some_iff.mp htimer
    obtain ⟨hcb, hrepeats⟩ := h.timer before hbefore
    obtain ⟨hcb', hrepeats', -⟩ := before.runClosures_frame s.now before.tasks
    exact ⟨hcb'.trans hcb, hrepeats'.trans hrepeats, before.runClosures_quiet s.now before.tasks⟩
  fires hmap := by
    obtain ⟨timer, htimer, hfires⟩ := h.fires hmap
    refine ⟨timer.settle s.now, ?_, hfires⟩
    unfold ExpiryCache.settle
    rw [htimer]
    rfl
  exact := h.exact
  notNull := h.notNull

/-- An operation that leaves the timer alone and no more entries than there are. -/
theorem Keeps.acted (h : s.Keeps) {t : ExpiryCache Key Value} (htimer : t.timer_ = s.timer_)
    (hschedule : t.scheduleTimeExpiry_ = s.scheduleTimeExpiry_)
    (hmap : t.cacheMap_ ⊆ s.cacheMap_) (hfirings : t.firings = s.firings)
    (hnull : t.nullUsed = s.nullUsed) : t.Acted where
  timer timer hin := by
    obtain ⟨hcb, hrepeats, -⟩ := h.timer timer (htimer ▸ hin)
    exact ⟨hcb, hrepeats⟩
  fires hne := by
    have hne' : s.cacheMap_ ≠ [] := fun hnil => hne (List.subset_nil.mp (hnil ▸ hmap))
    obtain ⟨timer, hsome, hfires⟩ := h.fires hne'
    refine ⟨timer, htimer.trans hsome, ?_⟩
    refine Timer.settle_of_quiet (h.timer timer hsome).2.2 _ (hfires.imp_right ?_)
    rintro ⟨hslot, due, hdue, htimes⟩
    refine ⟨hslot, due, hdue, fun time htime => htimes time ?_⟩
    rw [hschedule] at htime
    exact List.cons_subset_cons _ (List.map_subset _ hmap) htime
  exact := hfirings ▸ h.exact
  notNull := hnull.trans h.notNull

section

variable [LawfulHHWheelTimer] {timer : Timer} {duration : ℚ}

/-- The timer is rescheduled for all that it has not been armed for in time. -/
theorem reschedule_acted (htimer : s.timer_ = some timer) (hcb : timer.cb_ = true)
    (hrepeats : timer.repeats_ = false) (hsettles : (s.reschedule duration).SettlesInTime)
    (htimes : timer.hasFiring = true ∨ ∀ time ∈ s.scheduleTimeExpiry_ :: s.expiryTimes,
      (s.now : ℚ) + duration ≤ time ∨
        timer.tasks = [] ∧ ∃ old ∈ timer.deadline, (old : ℚ) ≤ time)
    (hexact : ∀ firing ∈ s.firings, firing.Exact) (hnull : s.nullUsed = false) :
    (s.reschedule duration).Acted := by
  have hs : s.reschedule duration =
      { s with timer_ := some (timer.reschedule duration false s.now 0) } := by
    unfold reschedule onTimer
    rw [htimer]
  rw [hs] at hsettles ⊢
  obtain ⟨hcb', hrepeats'⟩ := timer.reschedule_frame duration s.now
  refine ⟨?_, fun _ => ⟨_, rfl, ?_⟩, hexact, hnull⟩
  · rintro _ ⟨⟩
    exact ⟨hcb'.trans hcb, hrepeats' hrepeats⟩
  · have hruns := hsettles _ rfl
    rcases htimes with hfiring | htimes
    · refine .inl ?_
      unfold Timer.settle
      rw [Timer.runClosures_hasFiring]
      exact Timer.reschedule_hasFiring hfiring
    · refine (Timer.settle_reschedule hcb hruns).imp_right ?_
      rintro ⟨hslot, due, hdue, hle, hold⟩
      refine ⟨hslot, due, hdue, fun time htime => ?_⟩
      rcases htimes time htime with htime | ⟨htasks, old, hin, hle'⟩
      · exact hle.trans htime
      · have : (due : ℚ) ≤ old := by exact_mod_cast hold htasks old hin
        exact this.trans hle'

/-- An entry has been inserted into a map that was empty, or whose timer fires in time. -/
theorem scheduleExpiry_acted {expiryTime : ℚ}
    (htimer : ∀ timer ∈ s.timer_, timer.cb_ = true ∧ timer.repeats_ = false ∧
      (timer.tasks = [] ∨ timer.hasFiring = true))
    (hmap : s.cacheMap_.length = 1 ∧ s.expiryTimes = [expiryTime] ∨
      ∃ timer times, s.timer_ = some timer ∧ timer.FiresBy (s.scheduleTimeExpiry_ :: times) ∧
        ∀ time ∈ s.expiryTimes, time = expiryTime ∨ time ∈ times)
    (hexact : ∀ firing ∈ s.firings, firing.Exact) (hnull : s.nullUsed = false)
    (hsettles : (s.scheduleExpiry expiryTime).SettlesInTime) :
    (s.scheduleExpiry expiryTime).Acted := by
  -- what a timer that is rescheduled has to fire by
  have htimes (timer : Timer) (hsome : s.timer_ = some timer) : timer.hasFiring = true ∨
      ∀ time ∈ expiryTime :: s.expiryTimes, (s.now : ℚ) + (expiryTime - s.now) ≤ time ∨
        timer.tasks = [] ∧ ∃ old ∈ timer.deadline, (old : ℚ) ≤ time := by
    rcases hmap with ⟨-, htimes⟩ | ⟨timer', times, hsome', hfires, htimes⟩
    · refine .inr fun time htime => .inl ?_
      rw [htimes] at htime
      obtain rfl : time = expiryTime := by simpa using htime
      linarith
    · obtain rfl := Option.some.inj (hsome'.symm.trans hsome)
      rcases hfires with hfiring | ⟨-, due, hdue, hle⟩
      · exact .inl hfiring
      · rcases (htimer timer' hsome).2.2 with htasks | hfiring
        · refine .inr fun time htime => ?_
          rcases List.mem_cons.mp htime with rfl | htime
          · exact .inl (by linarith)
          · rcases htimes time htime with rfl | htime
            · exact .inl (by linarith)
            · exact .inr ⟨htasks, due, hdue, hle time (List.mem_cons_of_mem _ htime)⟩
        · exact .inl hfiring
  unfold scheduleExpiry at hsettles ⊢
  by_cases hone : s.cacheMap_.length = 1
  · rw [if_pos hone] at hsettles ⊢
    dsimp only at hsettles ⊢
    cases hsome : s.timer_ with
    | none =>
      rw [hsome] at hsettles
      have hexpiry : s.expiryTimes = [expiryTime] := by
        rcases hmap with ⟨-, hexpiry⟩ | ⟨timer, times, htimer', -⟩
        · exact hexpiry
        · rw [hsome] at htimer'
          cases htimer'
      refine ⟨?_, fun _ => ⟨_, rfl, Timer.settle_create fun time htime => ?_⟩, hexact, hnull⟩
      · rintro _ ⟨⟩
        unfold Timer.create Timer.start Timer.push
        dsimp only
        split_ifs <;> exact ⟨rfl, rfl⟩
      · have htime' : time ∈ expiryTime :: s.expiryTimes := htime
        rw [hexpiry] at htime'
        obtain rfl : time = expiryTime := by simpa using htime'
        linarith
    | some timer =>
      rw [hsome] at hsettles
      obtain ⟨hcb, hrepeats, -⟩ := htimer timer hsome
      exact reschedule_acted rfl hcb hrepeats hsettles (htimes timer hsome) hexact hnull
  · rw [if_neg hone] at hsettles ⊢
    rcases hmap with ⟨hone', -⟩ | ⟨timer, times, hsome, hfires, hin⟩
    · exact absurd hone' hone
    obtain ⟨hcb, hrepeats, hquiet⟩ := htimer timer hsome
    by_cases hearlier : expiryTime < s.scheduleTimeExpiry_
    · rw [if_pos hearlier] at hsettles ⊢
      exact reschedule_acted hsome hcb hrepeats hsettles (htimes timer hsome) hexact hnull
    · rw [if_neg hearlier]
      refine ⟨fun timer h => ?_, fun _ => ⟨timer, hsome, ?_⟩, hexact, hnull⟩
      · obtain ⟨hcb, hrepeats, -⟩ := htimer timer h
        exact ⟨hcb, hrepeats⟩
      · refine Timer.settle_of_quiet hquiet _ (hfires.imp_right ?_)
        rintro ⟨hslot, due, hdue, hle⟩
        refine ⟨hslot, due, hdue, fun time htime => ?_⟩
        have hschedule := hle _ List.mem_cons_self
        rcases List.mem_cons.mp htime with rfl | htime
        · exact hschedule
        · rcases hin time htime with rfl | htime
          · exact hschedule.trans (not_lt.mp hearlier)
          · exact hle time (List.mem_cons_of_mem _ htime)

/-- The callback. -/
theorem expiryTimerCallback_acted (htimer : s.timer_ = some timer) (hcb : timer.cb_ = true)
    (hrepeats : timer.repeats_ = false) (hexact : ∀ firing ∈ s.firings, firing.Exact)
    (hnull : s.nullUsed = false) (hsettles : s.expiryTimerCallback.SettlesInTime) :
    s.expiryTimerCallback.Acted := by
  have hfirings : ∀ firing ∈ s.firings ++ [⟨s.now, s.cacheMap_,
      (eraseExpired s.now (s.now + futureMilliseconds : Int) s.cacheMap_).1⟩],
      firing.Exact := by
    intro firing hfiring
    rcases List.mem_append.mp hfiring with hfiring | hfiring
    · exact hexact firing hfiring
    · obtain rfl := List.mem_singleton.mp hfiring
      intro entry
      rw [eraseExpired_fst, List.mem_filter, decide_eq_true_iff]
  obtain ⟨-, hnext⟩ := eraseExpired_snd_le s.now (s.now + futureMilliseconds : Int) s.cacheMap_
  unfold expiryTimerCallback at hsettles ⊢
  dsimp only at hsettles ⊢
  split at hsettles
  · rename_i hleft
    rw [if_pos hleft]
    refine reschedule_acted htimer hcb hrepeats hsettles (.inr fun time htime => .inl ?_) hfirings
      hnull
    rcases List.mem_cons.mp htime with rfl | htime
    · dsimp only
      linarith
    · obtain ⟨entry, hentry, rfl⟩ := List.mem_map.mp htime
      have := hnext entry hentry
      linarith
  · rename_i hleft
    rw [if_neg hleft]
    refine ⟨fun other hother => ?_, fun hmap => absurd hmap hleft, hfirings, hnull⟩
    obtain rfl := Option.some.inj (htimer.symm.trans hother)
    exact ⟨hcb, hrepeats⟩

omit [LawfulHHWheelTimer] in
/-- The timer does not repeat. -/
theorem scheduleTimerTimeout_eq (hcb : timer.cb_ = true) (hrepeats : timer.repeats_ = false)
    (call : TimerCall) : s.scheduleTimerTimeout timer call =
      ({ s with timer_ := some timer } : ExpiryCache Key Value).expiryTimerCallback := by
  have hafter : ∃ after, ({ s with timer_ := some timer } :
      ExpiryCache Key Value).expiryTimerCallback.timer_ = some after ∧ after.repeats_ = false := by
    unfold expiryTimerCallback
    dsimp only
    split
    · exact ⟨_, rfl, (Timer.reschedule_frame timer _ s.now).2 hrepeats⟩
    · exact ⟨timer, rfl, hrepeats⟩
  obtain ⟨after, hsome, hrepeats'⟩ := hafter
  unfold scheduleTimerTimeout
  dsimp only
  rw [if_pos hcb]
  unfold onTimer
  rw [hsome]
  dsimp only
  rw [Timer.afterCallback_of_not_repeats hrepeats', ← hsome]

theorem scheduleTimerTimeout_acted (hcb : timer.cb_ = true) (hrepeats : timer.repeats_ = false)
    (hexact : ∀ firing ∈ s.firings, firing.Exact) (hnull : s.nullUsed = false) {call : TimerCall}
    (hsettles : (s.scheduleTimerTimeout timer call).SettlesInTime) :
    (s.scheduleTimerTimeout timer call).Acted := by
  rw [scheduleTimerTimeout_eq hcb hrepeats] at hsettles ⊢
  exact expiryTimerCallback_acted rfl hcb hrepeats hexact hnull hsettles

/-- What the timer does keeps the entries on time. -/
theorem Keeps.timerOp (h : s.Keeps) {op : CacheTimerOp} {t : ExpiryCache Key Value}
    (hact : op.act s = some t) (hsettles : t.SettlesInTime) : t.Acted := by
  cases op with
  | tick milliseconds =>
    obtain rfl := Option.some.inj hact
    exact h.acted rfl rfl (List.Subset.refl _) rfl rfl
  | runTask =>
    simp only [CacheTimerOp.act] at hact
    split at hact
    · cases hact
    · rename_i timer htimer
      obtain ⟨hcb, hrepeats, -⟩ := h.timer timer htimer
      split at hact
      · obtain rfl := Option.some.inj hact
        refine scheduleTimerTimeout_acted ?_ ?_ h.exact h.notNull hsettles
        · exact hcb
        · exact hrepeats
      · cases hact
  | timeoutExpired =>
    simp only [CacheTimerOp.act] at hact
    split at hact
    · cases hact
    · rename_i timer htimer
      obtain ⟨hcb, hrepeats, hquiet⟩ := h.timer timer htimer
      split_ifs at hact with hdue hslot
      · obtain rfl := Option.some.inj hact
        refine scheduleTimerTimeout_acted ?_ ?_ h.exact h.notNull hsettles
        · exact hcb
        · exact hrepeats
      · -- the slot is empty, so that something else is queued
        obtain rfl := Option.some.inj hact
        refine ⟨?_, fun hmap => ⟨_, rfl, ?_⟩, h.exact, h.notNull⟩
        · rintro _ ⟨⟩
          exact ⟨hcb, hrepeats⟩
        · obtain ⟨timer', htimer', hfires⟩ := h.fires hmap
          obtain rfl := Option.some.inj (htimer'.symm.trans htimer)
          rcases hfires with hfiring | ⟨hset, -⟩
          · refine .inl ?_
            unfold Timer.settle
            rw [Timer.runClosures_hasFiring]
            exact hfiring
          · exact absurd hset hslot

end

end ExpiryCache

section

variable {Key Value : Type} [DecidableEq Key]

/-- An assignment adds no expiry time but the one of its entry. -/
theorem mem_assignEntry {key : Key} {data : CacheData Value} {map : List (Key × CacheData Value)}
    {entry : Key × CacheData Value} (h : entry ∈ assignEntry key data map) :
    entry = (key, data) ∨ entry ∈ map := by
  induction map with
  | nil => exact .inl (List.mem_singleton.mp h)
  | cons first rest ih =>
    unfold assignEntry at h
    split at h
    · exact (List.mem_cons.mp h).imp_right (List.mem_cons_of_mem _)
    · rcases List.mem_cons.mp h with rfl | h
      · exact .inr List.mem_cons_self
      · exact (ih h).imp_right (List.mem_cons_of_mem _)

theorem mem_insertEntry {key : Key} {data : CacheData Value} {map : List (Key × CacheData Value)}
    {entry : Key × CacheData Value} (h : entry ∈ insertEntry key data map) :
    entry = (key, data) ∨ entry ∈ map := by
  unfold insertEntry at h
  split at h
  · exact .inr h
  · exact (List.mem_append.mp h).symm.imp_left List.mem_singleton.mp

end

namespace ExpiryCache

variable {Key Value : Type} [HHWheelTimer] [LawfulHHWheelTimer] {s : ExpiryCache Key Value}

/-- An insertion behind which the map has the new entry, and none that it has not had. -/
theorem Keeps.insertion (h : s.Keeps) (key : Key) (data : CacheData Value)
    {map : List (Key × CacheData Value)}
    (hnil : s.cacheMap_ = [] → map = [(key, data)])
    (hmem : ∀ entry ∈ map, entry = (key, data) ∨ entry ∈ s.cacheMap_)
    (hsettles : (({ s with cacheMap_ := map } : ExpiryCache Key Value).scheduleExpiry
      data.cacheExpiryTime).SettlesInTime) :
    (({ s with cacheMap_ := map } : ExpiryCache Key Value).scheduleExpiry
      data.cacheExpiryTime).Acted := by
  refine scheduleExpiry_acted h.timer ?_ h.exact h.notNull hsettles
  by_cases hempty : s.cacheMap_ = []
  · refine .inl ?_
    unfold expiryTimes
    dsimp only
    rw [hnil hempty]
    exact ⟨rfl, rfl⟩
  · obtain ⟨timer, htimer, hfires⟩ := h.fires hempty
    refine .inr ⟨timer, s.expiryTimes, htimer, hfires, fun time htime => ?_⟩
    obtain ⟨entry, hentry, rfl⟩ := List.mem_map.mp htime
    rcases hmem entry hentry with rfl | hentry
    · exact .inl rfl
    · exact .inr (List.mem_map_of_mem hentry)

omit [LawfulHHWheelTimer] in
/-- Fewer entries expire on time as well. -/
theorem Keeps.erase (h : s.Keeps) (erased : Key → Bool) : (s.erase erased).Keeps where
  timer := h.timer
  fires hmap := by
    have hsub : (s.erase erased).cacheMap_ ⊆ s.cacheMap_ := List.filter_subset_self _
    have hne : s.cacheMap_ ≠ [] := fun hnil => hmap (List.subset_nil.mp (hnil ▸ hsub))
    obtain ⟨timer, htimer, hfires⟩ := h.fires hne
    refine ⟨timer, htimer, hfires.imp_right ?_⟩
    rintro ⟨hslot, due, hdue, htimes⟩
    refine ⟨hslot, due, hdue, fun time htime => htimes time ?_⟩
    exact List.cons_subset_cons _ (List.map_subset _ hsub) htime
  exact := h.exact
  notNull := h.notNull

omit [LawfulHHWheelTimer] in
theorem Keeps.self_acted (h : s.Keeps) : s.Acted :=
  h.acted rfl rfl (List.Subset.refl _) rfl rfl

variable [DecidableEq Key]

theorem Keeps.setCache (h : s.Keeps) {key : Key} {value : Value} {cacheExpiryTime : ℚ}
    (hsettles : (s.setCache key value cacheExpiryTime).SettlesInTime) :
    (s.setCache key value cacheExpiryTime).Acted := by
  refine h.insertion key ⟨value, cacheExpiryTime⟩ (fun hnil => ?_)
    (fun _ => mem_assignEntry) hsettles
  rw [hnil]
  rfl

theorem Keeps.imageDataInsertInCache (h : s.Keeps) {path : Key} {imageData : Option Value}
    {expiryTime : ℚ} {evicted : Option (List Key)}
    (hsettles : (s.imageDataInsertInCache path imageData expiryTime evicted).SettlesInTime) :
    (s.imageDataInsertInCache path imageData expiryTime evicted).Acted := by
  cases imageData with
  | none => exact h.self_acted
  | some image =>
    have herased := h.erase fun key => (evicted.getD []).contains key
    unfold ExpiryCache.imageDataInsertInCache at hsettles ⊢
    dsimp only at hsettles ⊢
    split at hsettles
    · rename_i hroom
      rw [if_pos hroom]
      refine herased.insertion path ⟨image, expiryTime⟩ (fun hnil => ?_)
        (fun _ => mem_insertEntry) hsettles
      rw [hnil]
      rfl
    · rename_i hroom
      rw [if_neg hroom]
      exact herased.self_acted

omit [LawfulHHWheelTimer] in
theorem Keeps.clearMemory (h : s.Keeps) (inUse : List Key) (htimer : s.timer_.isSome = true) :
    (s.clearMemory inUse).Acted := by
  have herased := h.erase fun key => !inUse.contains key
  unfold ExpiryCache.clearMemory
  dsimp only
  split
  · rename_i hempty
    obtain ⟨timer, hsome⟩ := Option.isSome_iff_exists.mp htimer
    obtain ⟨hcb, hrepeats, -⟩ := h.timer timer hsome
    have hsome' : (s.erase fun key => !inUse.contains key).timer_ = some timer := hsome
    unfold onTimer
    rw [hsome']
    refine ⟨?_, fun hmap => absurd hempty hmap, h.exact, h.notNull⟩
    rintro _ ⟨⟩
    unfold Timer.abort Timer.push
    split_ifs
    · exact ⟨hcb, hrepeats⟩
    · exact ⟨hcb, hrepeats⟩
  · exact herased.self_acted

omit [DecidableEq Key] [LawfulHHWheelTimer] in
theorem init_keeps (now : Int) : Keeps ({ now := now } : ExpiryCache Key Value) where
  timer := by rintro _ ⟨⟩
  fires hmap := absurd rfl hmap
  exact := by rintro _ ⟨⟩
  notNull := rfl

theorem Keeps.threadSafeCacheStep (h : s.Keeps) {op : ThreadSafeCacheOp Key Value}
    {t : ExpiryCache Key Value} (hok : op.InTime s) (hstep : ThreadSafeCacheStep s op t) :
    t.Keeps := by
  obtain ⟨acted, hact, rfl⟩ := Option.map_eq_some_iff.mp hstep
  have hsettles : acted.SettlesInTime := hok acted hact
  refine Acted.settle ?_
  cases op with
  | setCache key value cacheExpiryTime =>
    obtain rfl := Option.some.inj hact
    exact h.setCache hsettles
  | timer op => exact h.timerOp hact hsettles

theorem Keeps.imageCacheStep (h : s.Keeps) {op : ImageCacheOp Key Value}
    {t : ExpiryCache Key Value} (hok : op.InTime s) (hstep : ImageCacheStep s op t) : t.Keeps := by
  obtain ⟨acted, hact, rfl⟩ := Option.map_eq_some_iff.mp hstep
  have hsettles : acted.SettlesInTime := hok.1 acted hact
  refine Acted.settle ?_
  cases op with
  | imageDataInsertInCache path imageData expiryTime evicted =>
    obtain ⟨-, hacted⟩ := Option.ite_none_right_eq_some.mp hact
    obtain rfl := Option.some.inj hacted
    exact h.imageDataInsertInCache hsettles
  | clearMemory inUse =>
    obtain rfl := Option.some.inj hact
    exact h.clearMemory inUse (hok.2 rfl)
  | timer op => exact h.timerOp hact hsettles

/-- The entries of both caches expire on time in a run whose closures arm the timer in time, if the
image cache is not cleared before the first insertion. -/
theorem cacheRun_expiresOnTime (now : Int) :
    (∀ s : ExpiryCache Key Value,
      Run ThreadSafeCacheStep (fun s op => op.InTime s) { now := now } s → s.ExpiresOnTime) ∧
    ∀ s : ExpiryCache Key Value,
      Run ImageCacheStep (fun s op => op.InTime s) { now := now } s → s.ExpiresOnTime := by
  constructor
  · intro s hrun
    have hkeeps : s.Keeps := hrun.invariant (P := Keeps)
      (fun _ _ _ h hok hstep => h.threadSafeCacheStep hok hstep) (init_keeps now)
    exact hkeeps.expiresOnTime
  · intro s hrun
    have hkeeps : s.Keeps := hrun.invariant (P := Keeps)
      (fun _ _ _ h hok hstep => h.imageCacheStep hok hstep) (init_keeps now)
    exact hkeeps.expiresOnTime

end ExpiryCache

namespace ExpiryCache

open DeadlineWheel

/-- An entry is inserted that expires long before the other one, and both caches erase what has
expired. The image cache is cleared in between. -/
theorem cacheRun_expiresOnTime_early :
    (∃ s : ExpiryCache String Unit, s.ExpiresOnTime ∧
      s.cacheMap_.map Prod.fst = ["later"] ∧ s.firings.map (·.time) = [5000]) ∧
    ∃ s : ExpiryCache String Unit, s.ExpiresOnTime ∧
      s.cacheMap_.map Prod.fst = ["kept"] ∧ s.firings.map (·.time) = [200, 300, 301] := by
  constructor
  · have hfold : ([.setCache "later" () 20000000, .setCache "earlier" () 5000, .timer (.tick 5000),
        .timer .timeoutExpired].foldlM
          (fun (s : ExpiryCache String Unit) (op : ThreadSafeCacheOp String Unit) =>
            if op.InTime s then (op.act s).map ExpiryCache.settle else none) {}).map
          (fun s => (s.cacheMap_.map Prod.fst, s.firings.map (·.time))) =
        some (["later"], [5000]) := by
      decide +kernel
    obtain ⟨s, hrun, hs⟩ := Option.map_eq_some_iff.mp hfold
    obtain ⟨hmap, hfirings⟩ := Prod.mk.inj hs
    refine ⟨s, (cacheRun_expiresOnTime 0).1 s ?_, hmap, hfirings⟩
    exact Run.of_checked_exec hrun
  · have hfold : ([.imageDataInsertInCache "first" (some ()) 3000 none, .clearMemory [],
        .imageDataInsertInCache "second" (some ()) 200 none,
        .imageDataInsertInCache "kept" (some ()) 900000 none, .timer (.tick 200),
        .timer .timeoutExpired, .imageDataInsertInCache "third" (some ()) (601 / 2) none,
        .timer (.tick 100), .timer .timeoutExpired, .timer (.tick 1), .timer .runTask].foldlM
          (fun (s : ExpiryCache String Unit) (op : ImageCacheOp String Unit) =>
            if op.InTime s then (op.act s).map ExpiryCache.settle else none) {}).map
          (fun s => (s.cacheMap_.map Prod.fst, s.firings.map (·.time))) =
        some (["kept"], [200, 300, 301]) := by
      decide +kernel
    obtain ⟨s, hrun, hs⟩ := Option.map_eq_some_iff.mp hfold
    obtain ⟨hmap, hfirings⟩ := Prod.mk.inj hs
    refine ⟨s, (cacheRun_expiresOnTime 0).2 s ?_, hmap, hfirings⟩
    exact Run.of_checked_exec hrun

/-- An entry that expires after five seconds behind one that expires after ten waits for it. A call
of `clearMemory` before the first insertion goes through a null pointer. -/
theorem not_expiresOnTime_of_later :
    (¬ ∀ s : ExpiryCache String Unit, Run ThreadSafeCacheStep anyStep {} s → s.ExpiresOnTime) ∧
    ¬ ∀ s : ExpiryCache String Unit, Run ImageCacheStep anyStep {} s → s.ExpiresOnTime := by
  constructor
  · intro hall
    have hfold : ([.setCache "later" () 10000, .setCache "earlier" () 5000].foldlM
        (fun (s : ExpiryCache String Unit) (op : ThreadSafeCacheOp String Unit) =>
          (op.act s).map ExpiryCache.settle) {}).map
        (fun s => (s.expiryTimes, s.timer_.map fun timer => (timer.hasFiring, timer.deadline))) =
      some ([10000, 5000], some (false, some 10000)) := by
      decide +kernel
    obtain ⟨s, hrun, hs⟩ := Option.map_eq_some_iff.mp hfold
    obtain ⟨htimes, htimer⟩ := Prod.mk.inj hs
    have hontime := hall s (Run.of_exec hrun)
    have hne : s.cacheMap_ ≠ [] := by
      intro hnil
      simp [expiryTimes, hnil] at htimes
    obtain ⟨timer, hsome, hfires⟩ := hontime.fires hne
    rw [hsome] at htimer
    simp only [Option.map_some, Option.some.injEq, Prod.mk.injEq] at htimer
    rcases hfires with hfiring | ⟨-, due, hdue, hle⟩
    · rw [htimer.1] at hfiring
      cases hfiring
    · obtain rfl := Option.some.inj (hdue.symm.trans htimer.2)
      have := hle 5000 (by simp [htimes])
      norm_num at this
  · intro hall
    have hfold : ([.clearMemory []].foldlM
        (fun (s : ExpiryCache String Unit) (op : ImageCacheOp String Unit) =>
          (op.act s).map ExpiryCache.settle) {}).map (·.nullUsed) = some true := by
      decide +kernel
    obtain ⟨s, hrun, hnull⟩ := Option.map_eq_some_iff.mp hfold
    have hontime := hall s (Run.of_exec hrun)
    rw [hontime.notNull] at hnull
    cases hnull

end ExpiryCache

end ReactNativeSkia
