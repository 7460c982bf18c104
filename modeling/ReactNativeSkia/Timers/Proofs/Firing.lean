import ReactNativeSkia.Timers.Proofs.TimerMap
import ReactNativeSkia.Misc.Run
import Mathlib.Data.List.Nodup

/-!
# One firing

While no JS timer is created or deleted, `timerDidFire` has the map for itself. Each turn of its
second loop takes one of the expired timers from what is left to be served, so the map is always
what came of the others.
-/

namespace ReactNativeSkia

/-- What a firing at `now` makes of a timer. -/
def RSkJsTimer.served (now : Int) (t : RSkJsTimer) : Option RSkJsTimer :=
  if t.target_ ≤ now then
    if t.repeats_ then some { t with target_ := now + wholeMilliseconds t.duration_ } else none
  else some t

/-- The steps of `timerDidFire`, and the time. -/
def TimingOp.OfFiring : TimingOp → Prop
  | .tick _ | .listExpired | .updateExpired | .rearm => True
  | _ => False

instance : ∀ op : TimingOp, Decidable op.OfFiring
  | .tick _ | .listExpired | .updateExpired | .rearm => isTrue trivial
  | .createTimer _ _ _ _ | .insert | .deleteTimer _ | .abortIfEmpty | .deleted | .runTask
  | .timeoutExpired => isFalse id

namespace TimingModule

variable [HHWheelTimer]

def targets (s : TimingModule) : Set Int := {target | ∃ t ∈ s.jsTimers_, t.target_ = target}

/-- `s'` is `s` after a firing at `now`. The timer is rescheduled at `time`. -/
structure Served (s : TimingModule) (now : Int) (s' : TimingModule) : Prop where
  calls : ∃ jsTimersToCall : List RSkJsTimer,
    jsTimersToCall.Perm (s.jsTimers_.filter fun t => decide (t.target_ ≤ now)) ∧
      (jsTimersToCall.Pairwise fun t u => t.target_ ≤ u.target_) ∧
      s'.called = if jsTimersToCall = [] then s.called
        else s.called ++ [jsTimersToCall.map RSkJsTimer.callbackId_]
  jsTimers : s'.jsTimers_ = s.jsTimers_.filterMap (RSkJsTimer.served now)
  rescheduled : s'.jsTimers_ ≠ [] → ∃ timer ∈ s.timer_, ∃ next time,
    IsLeast (insert (getFutureTime now) s'.targets) next ∧ s.now ≤ time ∧ time ≤ s'.now ∧
      s'.timer_ = some (timer.reschedule (max ((next - time : Int) : ℚ) 0) false time 0)
  kept : s'.jsTimers_ = [] → s'.timer_ = s.timer_

end TimingModule

/-! ## The map while it is served -/

namespace RSkJsTimer

variable {now : Int} {t u : RSkJsTimer}

theorem served_of_pending (ht : now < t.target_) : t.served now = some t :=
  if_neg (Int.not_le.mpr ht)

theorem served_of_repeats (ht : t.target_ ≤ now) (hrepeats : t.repeats_ = true) :
    t.served now = some { t with target_ := now + wholeMilliseconds t.duration_ } := by
  rw [served, if_pos ht, if_pos hrepeats]

theorem served_of_once (ht : t.target_ ≤ now) (honce : ¬ t.repeats_ = true) :
    t.served now = none := by
  rw [served, if_pos ht, if_neg honce]

/-- A timer that is left is the same object under the same id. -/
theorem served_same (h : t.served now = some u) :
    u.object = t.object ∧ u.callbackId_ = t.callbackId_ := by
  unfold served at h
  split at h
  · split at h
    · obtain rfl := Option.some.inj h
      exact ⟨rfl, rfl⟩
    · cases h
  · obtain rfl := Option.some.inj h
    exact ⟨rfl, rfl⟩

/-- The same, unless the timer is one of `rest`. -/
def servedUnless (now : Int) (rest : List RSkJsTimer) (t : RSkJsTimer) : Option RSkJsTimer :=
  if t ∈ rest then some t else t.served now

theorem servedUnless_same {rest : List RSkJsTimer} (h : t.servedUnless now rest = some u) :
    u.object = t.object ∧ u.callbackId_ = t.callbackId_ := by
  unfold servedUnless at h
  split at h
  · obtain rfl := Option.some.inj h
    exact ⟨rfl, rfl⟩
  · exact served_same h

theorem servedUnless_cons_of_ne {rest : List RSkJsTimer} (hne : t ≠ u) :
    t.servedUnless now (u :: rest) = t.servedUnless now rest := by
  have hmem : t ∈ u :: rest ↔ t ∈ rest := List.mem_cons.trans (or_iff_right hne)
  unfold servedUnless
  by_cases ht : t ∈ rest
  · rw [if_pos ht, if_pos (hmem.mpr ht)]
  · rw [if_neg ht, if_neg (mt hmem.mp ht)]

end RSkJsTimer

/-- The map with the timers of `rest` still to be served. -/
def servedBut (now : Int) (rest jsTimers : List RSkJsTimer) : List RSkJsTimer :=
  jsTimers.filterMap (RSkJsTimer.servedUnless now rest)

/-- The targets of the others in it. -/
def servedTargets (now : Int) (rest jsTimers : List RSkJsTimer) : Set Int :=
  {target | ∃ t ∈ jsTimers, t ∉ rest ∧ ∃ u ∈ t.served now, u.target_ = target}

section

variable {now : Int} {jsTimers rest : List RSkJsTimer} {x : RSkJsTimer}

/-- At first the timers of `rest` are all that have expired. -/
theorem servedBut_expired (hrest : ∀ t, t ∈ rest ↔ t ∈ jsTimers ∧ t.target_ ≤ now) :
    servedBut now rest jsTimers = jsTimers := by
  have hsome : ∀ t ∈ jsTimers, t.servedUnless now rest = some t := by
    intro t ht
    unfold RSkJsTimer.servedUnless
    split
    · rfl
    · rename_i hnot
      exact if_neg fun hexpired => hnot ((hrest t).mpr ⟨ht, hexpired⟩)
  rw [servedBut, List.filterMap_congr hsome, List.filterMap_some]

theorem servedTargets_expired (hrest : ∀ t, t ∈ rest ↔ t ∈ jsTimers ∧ t.target_ ≤ now) :
    servedTargets now rest jsTimers = pendingTargets now jsTimers := by
  ext target
  constructor
  · rintro ⟨t, ht, hnot, u, hu, rfl⟩
    have hpending : now < t.target_ :=
      Int.not_le.mp fun hexpired => hnot ((hrest t).mpr ⟨ht, hexpired⟩)
    rw [RSkJsTimer.served_of_pending hpending] at hu
    obtain rfl := Option.some.inj hu
    exact ⟨t, ht, hpending, rfl⟩
  · rintro ⟨t, ht, hpending, rfl⟩
    exact ⟨t, ht, fun hmem => Int.not_le.mpr hpending ((hrest t).mp hmem).2, t,
      RSkJsTimer.served_of_pending hpending, rfl⟩

/-- At last they are none. -/
theorem servedBut_nil :
    servedBut now [] jsTimers = jsTimers.filterMap (RSkJsTimer.served now) := by
  refine List.filterMap_congr fun t _ => ?_
  exact if_neg List.not_mem_nil

theorem servedTargets_nil :
    servedTargets now [] jsTimers =
      {target | ∃ t ∈ jsTimers.filterMap (RSkJsTimer.served now), t.target_ = target} := by
  ext target
  constructor
  · rintro ⟨t, ht, -, u, hu, rfl⟩
    exact ⟨u, List.mem_filterMap.mpr ⟨t, ht, hu⟩, rfl⟩
  · rintro ⟨u, hu, rfl⟩
    obtain ⟨t, ht, hserved⟩ := List.mem_filterMap.mp hu
    exact ⟨t, ht, List.not_mem_nil, u, hserved, rfl⟩

/-- A repeating timer gets its new target. -/
theorem servedBut_repeating (hobjects : (jsTimers.map RSkJsTimer.object).Nodup)
    (hx : x ∈ jsTimers) (hexpired : x.target_ ≤ now) (hrepeats : x.repeats_ = true)
    (hnot : x ∉ rest) :
    servedBut now rest jsTimers = (servedBut now (x :: rest) jsTimers).map fun t =>
      if t.object = x.object then { t with target_ := now + wholeMilliseconds x.duration_ }
      else t := by
  rw [servedBut, servedBut, List.map_filterMap]
  refine List.filterMap_congr fun t ht => ?_
  by_cases heq : t = x
  · subst heq
    rw [RSkJsTimer.servedUnless, RSkJsTimer.servedUnless, if_neg hnot, if_pos List.mem_cons_self,
      RSkJsTimer.served_of_repeats hexpired hrepeats, Option.map_some, if_pos rfl]
  · rw [RSkJsTimer.servedUnless_cons_of_ne heq]
    cases hserved : t.servedUnless now rest with
    | none => rfl
    | some u =>
      have hobject : u.object ≠ x.object := by
        rw [(RSkJsTimer.servedUnless_same hserved).1]
        exact fun hsame => heq (List.inj_on_of_nodup_map hobjects ht hx hsame)
      rw [Option.map_some, if_neg hobject]

/-- Any other timer leaves the map. -/
theorem servedBut_once (hids : (jsTimers.map RSkJsTimer.callbackId_).Nodup) (hx : x ∈ jsTimers)
    (hexpired : x.target_ ≤ now) (honce : ¬ x.repeats_ = true) (hnot : x ∉ rest) :
    servedBut now rest jsTimers =
      eraseTimer x.callbackId_ (servedBut now (x :: rest) jsTimers) := by
  rw [servedBut, servedBut, eraseTimer, List.filter_filterMap]
  refine List.filterMap_congr fun t ht => ?_
  by_cases heq : t = x
  · subst heq
    rw [RSkJsTimer.servedUnless, RSkJsTimer.servedUnless, if_neg hnot, if_pos List.mem_cons_self,
      RSkJsTimer.served_of_once hexpired honce, Option.filter_some_neg (by simp)]
  · rw [RSkJsTimer.servedUnless_cons_of_ne heq]
    cases hserved : t.servedUnless now rest with
    | none => rfl
    | some u =>
      have hid : u.callbackId_ ≠ x.callbackId_ := by
        rw [(RSkJsTimer.servedUnless_same hserved).2]
        exact fun hsame => heq (List.inj_on_of_nodup_map hids ht hx hsame)
      rw [Option.filter_some, if_pos (decide_eq_true hid)]

/-- A repeating timer adds its new target to the others. -/
theorem servedTargets_repeating (hx : x ∈ jsTimers) (hexpired : x.target_ ≤ now)
    (hrepeats : x.repeats_ = true) (hnot : x ∉ rest) :
    servedTargets now rest jsTimers =
      insert (now + (wholeMilliseconds x.duration_ : Int))
        (servedTargets now (x :: rest) jsTimers) := by
  have hserved := RSkJsTimer.served_of_repeats hexpired hrepeats
  ext target
  constructor
  · rintro ⟨t, ht, hmem, u, hu, rfl⟩
    by_cases heq : t = x
    · rw [heq, hserved] at hu
      obtain rfl := Option.some.inj hu
      exact Set.mem_insert _ _
    · exact Set.mem_insert_of_mem _
        ⟨t, ht, List.not_mem_cons_of_ne_of_not_mem heq hmem, u, hu, rfl⟩
  · rintro (rfl | ⟨t, ht, hmem, u, hu, rfl⟩)
    · exact ⟨x, hx, hnot, _, hserved, rfl⟩
    · exact ⟨t, ht, List.not_mem_of_not_mem_cons hmem, u, hu, rfl⟩

theorem servedTargets_once (hexpired : x.target_ ≤ now) (honce : ¬ x.repeats_ = true) :
    servedTargets now rest jsTimers = servedTargets now (x :: rest) jsTimers := by
  have hserved := RSkJsTimer.served_of_once hexpired honce
  ext target
  constructor
  · rintro ⟨t, ht, hmem, u, hu, rfl⟩
    have hne : t ≠ x := by
      rintro rfl
      rw [hserved] at hu
      cases hu
    exact ⟨t, ht, List.not_mem_cons_of_ne_of_not_mem hne hmem, u, hu, rfl⟩
  · rintro ⟨t, ht, hmem, u, hu, rfl⟩
    exact ⟨t, ht, List.not_mem_of_not_mem_cons hmem, u, hu, rfl⟩

end

/-! ## The steps of the firing -/

namespace TimingModule

variable [HHWheelTimer] {s u v : TimingModule} {now next : Int} {rest : List RSkJsTimer}
  {timer : Timer}

/-- `u` is `s` in the second loop of `timerDidFire`. -/
structure Serving (s : TimingModule) (now next : Int) (rest : List RSkJsTimer) (u : TimingModule) :
    Prop where
  firing : u.firing = .calling now next rest
  listed : rest <:+ (listTimers now s.jsTimers_).1
  jsTimers : u.jsTimers_ = servedBut now rest s.jsTimers_
  next : IsLeast (insert (getFutureTime now) (servedTargets now rest s.jsTimers_)) next
  called : u.called = (s.listExpired now).called
  timer_ : u.timer_ = s.timer_
  now : s.now ≤ u.now

/-- `u` is `s` somewhere in `timerDidFire`, or after it. -/
inductive InFiring (s : TimingModule) (now : Int) (u : TimingModule) : Prop where
  | fired (hfiring : u.firing = .fired now) (hjsTimers : u.jsTimers_ = s.jsTimers_)
      (hcalled : u.called = s.called) (htimer : u.timer_ = s.timer_) (hnow : s.now ≤ u.now)
  | serving (next : Int) (rest : List RSkJsTimer) (h : s.Serving now next rest u)
  | served (hfiring : u.firing = .idle) (h : s.Served now u)

theorem Serving.nodup (h : s.Serving now next rest u)
    (hids : (s.jsTimers_.map RSkJsTimer.callbackId_).Nodup) : rest.Nodup := by
  have hdistinct : s.jsTimers_.Nodup := hids.of_map
  have hlisted := (perm_listTimers now s.jsTimers_).nodup_iff.mpr (hdistinct.filter _)
  exact hlisted.sublist h.listed.sublist

theorem Serving.mem (h : s.Serving now next rest u) {t : RSkJsTimer} (ht : t ∈ rest) :
    t ∈ s.jsTimers_ ∧ t.target_ ≤ now := mem_listTimers.mp (h.listed.subset ht)

theorem Serving.tick (h : s.Serving now next rest u) (milliseconds : Nat) :
    s.Serving now next rest { u with now := u.now + milliseconds } := by
  have hnow : s.now ≤ u.now + milliseconds := by
    have := h.now
    omega
  exact ⟨h.firing, h.listed, h.jsTimers, h.next, h.called, h.timer_, hnow⟩

/-- The first loop. -/
theorem serving_listExpired (now : Int) (hjsTimers : u.jsTimers_ = s.jsTimers_)
    (hcalled : u.called = s.called) (htimer : u.timer_ = s.timer_) (hnow : s.now ≤ u.now) :
    s.Serving now (listTimers now s.jsTimers_).2 (listTimers now s.jsTimers_).1
      (u.listExpired now) where
  firing := by rw [listExpired, hjsTimers]
  listed := List.suffix_refl _
  jsTimers := by
    rw [servedBut_expired fun t => mem_listTimers]
    exact hjsTimers
  next := by
    rw [servedTargets_expired fun t => mem_listTimers]
    exact isLeast_listTimers now s.jsTimers_
  called := by
    rw [listExpired, listExpired, hjsTimers, hcalled]
  timer_ := htimer
  now := hnow

/-- A turn of the second loop. -/
theorem Serving.updateExpired {x : RSkJsTimer} (h : s.Serving now next (x :: rest) u)
    (hids : (s.jsTimers_.map RSkJsTimer.callbackId_).Nodup)
    (hobjects : (s.jsTimers_.map RSkJsTimer.object).Nodup) :
    ∃ next', s.Serving now next' rest (u.updateExpired now next x rest) := by
  obtain ⟨hx, hexpired⟩ := h.mem List.mem_cons_self
  have hnot : x ∉ rest := (List.nodup_cons.mp (h.nodup hids)).1
  have hlisted : rest <:+ (listTimers now s.jsTimers_).1 := (List.suffix_cons x rest).trans h.listed
  unfold TimingModule.updateExpired
  by_cases hrepeats : x.repeats_ = true
  · rw [if_pos hrepeats]
    refine ⟨_, rfl, hlisted, ?_, ?_, h.called, h.timer_, h.now⟩
    · rw [servedBut_repeating hobjects hx hexpired hrepeats hnot, ← h.jsTimers]
    · rw [servedTargets_repeating hx hexpired hrepeats hnot, Set.insert_comm]
      exact isLeast_insert_of_lt h.next
  · rw [if_neg hrepeats]
    refine ⟨_, rfl, hlisted, ?_, ?_, h.called, h.timer_, h.now⟩
    · rw [servedBut_once hids hx hexpired hrepeats hnot, ← h.jsTimers]
    · rw [servedTargets_once hexpired hrepeats]
      exact h.next

/-- What the first loop passes on. -/
theorem listExpired_calls (s : TimingModule) (now : Int) :
    ∃ jsTimersToCall : List RSkJsTimer,
      jsTimersToCall.Perm (s.jsTimers_.filter fun t => decide (t.target_ ≤ now)) ∧
        (jsTimersToCall.Pairwise fun t u => t.target_ ≤ u.target_) ∧
        (s.listExpired now).called = if jsTimersToCall = [] then s.called
          else s.called ++ [jsTimersToCall.map RSkJsTimer.callbackId_] :=
  ⟨_, perm_listTimers now s.jsTimers_, sorted_listTimers now s.jsTimers_, rfl⟩

/-- Behind the second loop. -/
theorem Serving.rearm (h : s.Serving now next [] u) (hstep : timingStep u .rearm v) :
    v.firing = .idle ∧ s.Served now v := by
  have hjsTimers : u.jsTimers_ = s.jsTimers_.filterMap (RSkJsTimer.served now) :=
    h.jsTimers.trans servedBut_nil
  have hcalls := s.listExpired_calls now
  rw [← h.called] at hcalls
  unfold timingStep TimingOp.exec at hstep
  simp only [h.firing] at hstep
  split at hstep
  · rename_i hempty
    obtain rfl := Option.some.inj hstep
    exact ⟨rfl, hcalls, hjsTimers, fun hne => absurd hempty hne, fun _ => h.timer_⟩
  · rename_i hne
    obtain ⟨timer, htimer, rfl⟩ := Option.map_eq_some_iff.mp hstep
    refine ⟨rfl, hcalls, hjsTimers, fun _ => ?_, fun hempty => absurd hempty hne⟩
    refine ⟨timer, h.timer_ ▸ htimer, next, u.now, ?_, h.now, Int.le_refl _, rfl⟩
    have hleast := h.next
    rw [servedTargets_nil, ← hjsTimers] at hleast
    exact hleast

theorem Served.tick (h : s.Served now u) (milliseconds : Nat) :
    s.Served now { u with now := u.now + milliseconds } := by
  refine ⟨h.calls, h.jsTimers, fun hne => ?_, h.kept⟩
  obtain ⟨timer, htimer, next, time, hleast, hle, hle', hrescheduled⟩ := h.rescheduled hne
  refine ⟨timer, htimer, next, time, hleast, hle, ?_, hrescheduled⟩
  show time ≤ u.now + milliseconds
  omega

theorem InFiring.tick (h : s.InFiring now u) (milliseconds : Nat) :
    s.InFiring now { u with now := u.now + milliseconds } := by
  cases h with
  | fired hfiring hjsTimers hcalled htimer hnow =>
    refine .fired hfiring hjsTimers hcalled htimer ?_
    show s.now ≤ u.now + milliseconds
    omega
  | serving next rest h => exact .serving next rest (h.tick milliseconds)
  | served hfiring h => exact .served hfiring (h.tick milliseconds)

/-- The steps of the firing follow each other. -/
theorem firingStep_cases {op : TimingOp} (hop : op.OfFiring) (hstep : timingStep u op v) :
    (∃ milliseconds : Nat, v = { u with now := u.now + milliseconds }) ∨
      (∃ now, u.firing = .fired now ∧ v = u.listExpired now) ∨
      (∃ now next x rest, u.firing = .calling now next (x :: rest) ∧
        v = u.updateExpired now next x rest) ∨
      (∃ now next, u.firing = .calling now next [] ∧ timingStep u .rearm v) := by
  cases op with
  | tick milliseconds => exact .inl ⟨milliseconds, (Option.some.inj hstep).symm⟩
  | listExpired =>
    unfold timingStep TimingOp.exec at hstep
    cases hfiring : u.firing with
    | fired now =>
      simp only [hfiring] at hstep
      exact .inr (.inl ⟨now, rfl, (Option.some.inj hstep).symm⟩)
    | idle =>
      simp only [hfiring] at hstep
      cases hstep
    | calling now next rest =>
      simp only [hfiring] at hstep
      cases hstep
  | updateExpired =>
    unfold timingStep TimingOp.exec at hstep
    cases hfiring : u.firing with
    | calling now next rest =>
      simp only [hfiring] at hstep
      cases rest with
      | nil => cases hstep
      | cons x rest =>
        obtain ⟨-, hstep⟩ := Option.ite_none_right_eq_some.mp hstep
        exact .inr (.inr (.inl ⟨now, next, x, rest, rfl, (Option.some.inj hstep).symm⟩))
    | idle =>
      simp only [hfiring] at hstep
      cases hstep
    | fired now =>
      simp only [hfiring] at hstep
      cases hstep
  | rearm =>
    have hrearm := hstep
    unfold timingStep TimingOp.exec at hstep
    cases hfiring : u.firing with
    | calling now next rest =>
      simp only [hfiring] at hstep
      cases rest with
      | nil => exact .inr (.inr (.inr ⟨now, next, rfl, hrearm⟩))
      | cons x rest => cases hstep
    | idle =>
      simp only [hfiring] at hstep
      cases hstep
    | fired now =>
      simp only [hfiring] at hstep
      cases hstep
  | createTimer callbackId duration jsSchedulingTime repeats => exact hop.elim
  | insert => exact hop.elim
  | deleteTimer timerId => exact hop.elim
  | abortIfEmpty => exact hop.elim
  | deleted => exact hop.elim
  | runTask => exact hop.elim
  | timeoutExpired => exact hop.elim

/-- A step of the firing, the timers being different ones. -/
theorem InFiring.exec (h : s.InFiring now u)
    (hids : (s.jsTimers_.map RSkJsTimer.callbackId_).Nodup)
    (hobjects : (s.jsTimers_.map RSkJsTimer.object).Nodup) {op : TimingOp} (hop : op.OfFiring)
    (hstep : timingStep u op v) : s.InFiring now v := by
  rcases firingStep_cases hop hstep with ⟨milliseconds, rfl⟩ | ⟨now', hstage, rfl⟩ |
    ⟨now', next', x, rest', hstage, rfl⟩ | ⟨now', next', hstage, hrearm⟩
  · exact h.tick milliseconds
  · cases h with
    | fired hfiring hjsTimers hcalled htimer hnow =>
      obtain rfl := FiringThread.fired.inj (hfiring.symm.trans hstage)
      exact .serving _ _ (serving_listExpired now hjsTimers hcalled htimer hnow)
    | serving next rest h => cases h.firing.symm.trans hstage
    | served hfiring h => cases hfiring.symm.trans hstage
  · cases h with
    | fired hfiring => cases hfiring.symm.trans hstage
    | serving next rest h =>
      obtain ⟨rfl, rfl, rfl⟩ := FiringThread.calling.inj (h.firing.symm.trans hstage)
      obtain ⟨next', hserving⟩ := h.updateExpired hids hobjects
      exact .serving next' rest' hserving
    | served hfiring h => cases hfiring.symm.trans hstage
  · cases h with
    | fired hfiring => cases hfiring.symm.trans hstage
    | serving next rest h =>
      obtain ⟨rfl, rfl, rfl⟩ := FiringThread.calling.inj (h.firing.symm.trans hstage)
      exact .served (h.rearm hrearm).1 (h.rearm hrearm).2
    | served hfiring h => cases hfiring.symm.trans hstage

/-! ## The timers of a run -/

/-- The timers in the map are different ones, and the one being made is another one. -/
structure Distinct (s : TimingModule) : Prop where
  timers : DistinctTimers s.jsTimers_ s.allocated
  inserting : ∀ t, s.js = .inserting t →
    t.object < s.allocated ∧ ∀ u ∈ s.jsTimers_, u.object ≠ t.object

/-- A step that makes no timer and leaves the map alone. -/
theorem Distinct.congr (h : u.Distinct) (hjsTimers : v.jsTimers_ = u.jsTimers_)
    (hallocated : v.allocated = u.allocated)
    (hjs : v.js = u.js ∨ ∀ t, v.js ≠ .inserting t) : v.Distinct where
  timers := by
    rw [hjsTimers, hallocated]
    exact h.timers
  inserting t heq := by
    rcases hjs with hjs | hjs
    · rw [hjsTimers, hallocated]
      exact h.inserting t (hjs ▸ heq)
    · exact absurd heq (hjs t)

/-- A step that takes timers out of the map. -/
theorem Distinct.erase (h : u.Distinct) (callbackId : ℚ)
    (hjsTimers : v.jsTimers_ = eraseTimer callbackId u.jsTimers_)
    (hallocated : v.allocated = u.allocated)
    (hjs : v.js = u.js ∨ ∀ t, v.js ≠ .inserting t) : v.Distinct where
  timers := by
    rw [hjsTimers, hallocated]
    exact h.timers.erase callbackId
  inserting t heq := by
    rcases hjs with hjs | hjs
    · obtain ⟨hlt, hnew⟩ := h.inserting t (hjs ▸ heq)
      rw [hjsTimers, hallocated]
      exact ⟨hlt, fun w hw => hnew w ((eraseTimer_sublist _ _).subset hw)⟩
    · exact absurd heq (hjs t)

theorem Distinct.createTimer (h : u.Distinct) (callbackId duration jsSchedulingTime : ℚ)
    (repeats : Bool) :
    (u.createTimer callbackId duration jsSchedulingTime repeats).Distinct := by
  unfold TimingModule.createTimer
  dsimp only
  split
  · exact h.congr rfl rfl (.inl rfl)
  · refine ⟨h.timers.mono (Nat.le_succ _), fun t heq => ?_⟩
    obtain rfl := JsThread.inserting.inj heq
    exact ⟨Nat.lt_succ_self _, fun w hw => Nat.ne_of_lt (h.timers.allocated w hw)⟩

theorem Distinct.updateExpired (h : u.Distinct) (now next : Int) (x : RSkJsTimer)
    (rest : List RSkJsTimer) : (u.updateExpired now next x rest).Distinct := by
  unfold TimingModule.updateExpired
  split
  · refine ⟨h.timers.retarget _ _, fun t heq => ?_⟩
    obtain ⟨hlt, hnew⟩ := h.inserting t heq
    refine ⟨hlt, fun w hw hsame => ?_⟩
    obtain ⟨w', hw', heq'⟩ := exists_retarget_iff.mp ⟨w, hw, rfl⟩
    exact hnew w' hw' (heq'.trans hsame)
  · exact h.erase x.callbackId_ rfl rfl (.inl rfl)

theorem Distinct.runTask (h : u.Distinct) (timer : Timer) (task : TimerTask)
    (tasks : List TimerTask) : (u.runTask timer task tasks).Distinct := by
  cases task with
  | scheduleTimerTimeout call => exact h.congr rfl rfl (.inl rfl)
  | startTimeout call => exact h.congr rfl rfl (.inl rfl)
  | rescheduleTimeout call => exact h.congr rfl rfl (.inl rfl)
  | repeatTimeout call targetDuration => exact h.congr rfl rfl (.inl rfl)
  | cancelAll => exact h.congr rfl rfl (.inl rfl)
  | function argument => exact h.congr rfl rfl (.inl rfl)

theorem Distinct.firingStep {op : TimingOp} (h : u.Distinct) (hop : op.OfFiring)
    (hstep : timingStep u op v) : v.Distinct := by
  rcases firingStep_cases hop hstep with ⟨milliseconds, rfl⟩ | ⟨now, -, rfl⟩ |
    ⟨now, next, x, rest, -, rfl⟩ | ⟨now, next, hstage, hrearm⟩
  · exact h.congr rfl rfl (.inl rfl)
  · exact h.congr rfl rfl (.inl rfl)
  · exact h.updateExpired now next x rest
  · unfold timingStep TimingOp.exec at hrearm
    simp only [hstage] at hrearm
    split at hrearm
    · obtain rfl := Option.some.inj hrearm
      exact h.congr rfl rfl (.inl rfl)
    · obtain ⟨timer, -, rfl⟩ := Option.map_eq_some_iff.mp hrearm
      exact h.congr rfl rfl (.inl rfl)

theorem Distinct.exec {op : TimingOp} (h : u.Distinct) (hstep : timingStep u op v) :
    v.Distinct := by
  have hfiring (hop : op.OfFiring) : v.Distinct := h.firingStep hop hstep
  unfold timingStep TimingOp.exec at hstep
  cases op with
  | tick milliseconds => exact hfiring trivial
  | listExpired => exact hfiring trivial
  | updateExpired => exact hfiring trivial
  | rearm => exact hfiring trivial
  | createTimer callbackId duration jsSchedulingTime repeats =>
    obtain ⟨-, hstep⟩ := Option.ite_none_right_eq_some.mp hstep
    obtain rfl := Option.some.inj hstep
    exact h.createTimer callbackId duration jsSchedulingTime repeats
  | insert =>
    cases hjs : u.js with
    | inserting t =>
      simp only [hjs] at hstep
      obtain rfl := Option.some.inj hstep
      obtain ⟨hlt, hnew⟩ := h.inserting t hjs
      exact ⟨h.timers.insert hlt hnew, fun _ heq => nomatch heq⟩
    | idle => simp [hjs] at hstep
    | erased => simp [hjs] at hstep
    | deleting => simp [hjs] at hstep
  | deleteTimer timerId =>
    obtain ⟨-, hstep⟩ := Option.ite_none_right_eq_some.mp hstep
    obtain rfl := Option.some.inj hstep
    exact h.erase timerId rfl rfl (.inr fun _ heq => nomatch heq)
  | abortIfEmpty =>
    obtain ⟨-, hstep⟩ := Option.ite_none_right_eq_some.mp hstep
    split at hstep
    · obtain ⟨timer, -, rfl⟩ := Option.map_eq_some_iff.mp hstep
      exact h.congr rfl rfl (.inr fun _ heq => nomatch heq)
    · obtain rfl := Option.some.inj hstep
      exact h.congr rfl rfl (.inr fun _ heq => nomatch heq)
  | deleted =>
    obtain ⟨-, hstep⟩ := Option.ite_none_right_eq_some.mp hstep
    obtain rfl := Option.some.inj hstep
    exact h.congr rfl rfl (.inr fun _ heq => nomatch heq)
  | runTask =>
    obtain ⟨-, hstep⟩ := Option.ite_none_right_eq_some.mp hstep
    split at hstep
    · rename_i timer htimer
      split at hstep
      · cases hstep
      · obtain rfl := Option.some.inj hstep
        exact h.runTask _ _ _
    · cases hstep
  | timeoutExpired =>
    obtain ⟨-, hstep⟩ := Option.ite_none_right_eq_some.mp hstep
    split at hstep
    · obtain ⟨-, hstep⟩ := Option.ite_none_right_eq_some.mp hstep
      obtain rfl := Option.some.inj hstep
      exact h.congr rfl rfl (.inl rfl)
    · cases hstep

/-- In every run the timers in the map are different ones. -/
theorem timingRun_distinct (hrun : Run timingStep anyStep {} s) : s.Distinct := by
  refine hrun.invariant (P := Distinct) ?_ ⟨DistinctTimers.nil 0, fun _ heq => nomatch heq⟩
  intro u op v hu _ hstep
  exact hu.exec hstep

/-! ## A whole firing -/

theorem Serving.completes (h : s.Serving now next rest u)
    (hids : (s.jsTimers_.map RSkJsTimer.callbackId_).Nodup)
    (hobjects : (s.jsTimers_.map RSkJsTimer.object).Nodup) (htimer : s.timer_ = some timer) :
    ∃ v, Run timingStep (fun _ op => op.OfFiring) u v ∧ v.firing = .idle := by
  induction rest generalizing u next with
  | nil =>
    obtain ⟨v, hstep⟩ : ∃ v, timingStep u .rearm v := by
      unfold timingStep TimingOp.exec
      simp only [h.firing, h.timer_, htimer, Option.map_some]
      split
      · exact ⟨_, rfl⟩
      · exact ⟨_, rfl⟩
    exact ⟨v, Run.single (a := .rearm) trivial hstep, (h.rearm hstep).1⟩
  | cons x rest ih =>
    have hheld : ∃ t ∈ u.jsTimers_, t.object = x.object := by
      refine ⟨x, ?_, rfl⟩
      rw [h.jsTimers]
      exact List.mem_filterMap.mpr
        ⟨x, (h.mem List.mem_cons_self).1, if_pos List.mem_cons_self⟩
    have hstep : timingStep u .updateExpired (u.updateExpired now next x rest) := by
      unfold timingStep TimingOp.exec
      simp only [h.firing]
      exact if_pos hheld
    obtain ⟨next', hserving⟩ := h.updateExpired hids hobjects
    obtain ⟨v, hrun, hidle⟩ := ih hserving
    exact ⟨v, (Run.single (a := .updateExpired) trivial hstep).trans hrun, hidle⟩

theorem InFiring.completes (h : s.InFiring now u)
    (hids : (s.jsTimers_.map RSkJsTimer.callbackId_).Nodup)
    (hobjects : (s.jsTimers_.map RSkJsTimer.object).Nodup) (htimer : s.timer_ = some timer) :
    ∃ v, Run timingStep (fun _ op => op.OfFiring) u v ∧ v.firing = .idle := by
  cases h with
  | fired hfiring hjsTimers hcalled htimer' hnow =>
    have hstep : timingStep u .listExpired (u.listExpired now) := by
      unfold timingStep TimingOp.exec
      simp only [hfiring]
    obtain ⟨v, hrun, hidle⟩ :=
      (serving_listExpired now hjsTimers hcalled htimer' hnow).completes hids hobjects htimer
    exact ⟨v, (Run.single (a := .listExpired) trivial hstep).trans hrun, hidle⟩
  | serving next rest h => exact h.completes hids hobjects htimer
  | served hfiring h => exact ⟨u, Run.refl u, hfiring⟩

/-- A firing that has the map for itself comes to its end, and it has served the expired timers
then. -/
theorem timerDidFire_served (s : TimingModule) (now : Int) (timer : Timer)
    (hfiring : s.firing = .fired now) (htimer : s.timer_ = some timer)
    (hids : (s.jsTimers_.map RSkJsTimer.callbackId_).Nodup)
    (hobjects : (s.jsTimers_.map RSkJsTimer.object).Nodup) :
    (∀ u, Run timingStep (fun _ op => op.OfFiring) s u →
      ∃ v, Run timingStep (fun _ op => op.OfFiring) u v ∧ v.firing = .idle) ∧
    (∀ v, Run timingStep (fun _ op => op.OfFiring) s v → v.firing = .idle → s.Served now v) := by
  have hinvariant {u : TimingModule} (hrun : Run timingStep (fun _ op => op.OfFiring) s u) :
      s.InFiring now u := by
    refine hrun.invariant (P := s.InFiring now) ?_ (.fired hfiring rfl rfl rfl (Int.le_refl _))
    intro u op v hu hop hstep
    exact hu.exec hids hobjects hop hstep
  constructor
  · exact fun u hrun => (hinvariant hrun).completes hids hobjects htimer
  · intro v hrun hidle
    cases hinvariant hrun with
    | fired hfired => cases hidle.symm.trans hfired
    | serving next rest h => cases hidle.symm.trans h.firing
    | served hfired h => exact h

end TimingModule

section

open DeadlineWheel TimingModule

/-- A module that fires at `now`. -/
def firingAt (now : Int) (jsTimers : List RSkJsTimer) : TimingModule :=
  { timer_ := some (Timer.create 0 false true false now)
    jsTimers_ := jsTimers
    firing := .fired now
    now := now }

/-- Of two timers that have expired one is made again, and the third one is not touched. -/
theorem timerDidFire_served_three : ∃ s' : TimingModule,
    s'.firing = .idle ∧ s'.jsTimers_ =
      [{ target_ := 17, callbackId_ := 2, repeats_ := true, duration_ := 10, object := 1 },
        { target_ := 50, callbackId_ := 3, repeats_ := false, duration_ := 45, object := 2 }] := by
  obtain ⟨hends, hserves⟩ := timerDidFire_served (firingAt 7
    [{ target_ := 5, callbackId_ := 1, repeats_ := false, duration_ := 5, object := 0 },
      { target_ := 3, callbackId_ := 2, repeats_ := true, duration_ := 10, object := 1 },
      { target_ := 50, callbackId_ := 3, repeats_ := false, duration_ := 45, object := 2 }])
    7 _ rfl rfl (by decide +kernel) (by decide)
  obtain ⟨s', hrun, hidle⟩ := hends _ (Run.refl _)
  refine ⟨s', hidle, (hserves s' hrun hidle).jsTimers.trans ?_⟩
  decide +kernel

/-- A repeating timer of more than a year and half a millisecond gets a target in whole
milliseconds, and the timer is rescheduled for a year. -/
theorem long_duration_cut : ∃ s s' : TimingModule,
    s.firing = .fired 0 ∧ s.timer_.isSome = true ∧
      (s.jsTimers_.map RSkJsTimer.callbackId_).Nodup ∧
      (s.jsTimers_.map RSkJsTimer.object).Nodup ∧
      Run timingStep (fun _ op => op.OfFiring) s s' ∧ s'.firing = .idle ∧
      (¬ ∀ t ∈ s.jsTimers_, t.target_ ≤ 0 → t.repeats_ = true →
        ∃ u ∈ s'.jsTimers_, u.callbackId_ = t.callbackId_ ∧ (u.target_ : ℚ) = 0 + t.duration_) ∧
      (s'.jsTimers_ ≠ [] ∧ ¬ ∃ timer ∈ s.timer_, ∃ next time, IsLeast s'.targets next ∧
        s.now ≤ time ∧ time ≤ s'.now ∧
        s'.timer_ = some (timer.reschedule (max ((next - time : Int) : ℚ) 0) false time 0)) := by
  have hfold : ([.listExpired, .updateExpired, .rearm].foldlM
      (fun s (op : TimingOp) => if op.OfFiring then op.exec s else none) (firingAt 0
        [{ target_ := 0, callbackId_ := 1, repeats_ := true, duration_ := 126144000001 / 2,
           object := 0 }])).map
        (fun s => ((s.firing, s.now), s.jsTimers_, s.timer_.map Timer.tasks)) =
      some ((.idle, 0),
        [{ target_ := 63072000000, callbackId_ := 1, repeats_ := true,
           duration_ := 126144000001 / 2, object := 0 }],
        some [.rescheduleTimeout { time := 0, duration := 31536000000, aborts := 0 }]) := by
    decide +kernel
  obtain ⟨s', hrun, hs⟩ := Option.map_eq_some_iff.mp hfold
  obtain ⟨hthread, hrest⟩ := Prod.mk.inj hs
  obtain ⟨hidle, hnow⟩ := Prod.mk.inj hthread
  obtain ⟨hjsTimers, htasks⟩ := Prod.mk.inj hrest
  refine ⟨_, s', rfl, rfl, by decide, by decide, Run.of_checked_exec hrun, hidle, ?_, ?_, ?_⟩
  · intro hall
    obtain ⟨u, hu, -, htarget⟩ := hall _ List.mem_cons_self (by decide) rfl
    rw [hjsTimers, List.mem_singleton] at hu
    subst hu
    revert htarget
    decide +kernel
  · rw [hjsTimers]
    exact List.cons_ne_nil _ _
  · rintro ⟨timer, htimer, next, time, ⟨⟨u, hu, rfl⟩, -⟩, hle, hle', htimer'⟩
    obtain rfl := Option.some.inj htimer
    rw [hjsTimers, List.mem_singleton] at hu
    subst hu
    obtain rfl : time = 0 := by
      rw [hnow] at hle'
      exact Int.le_antisymm hle' hle
    rw [htimer'] at htasks
    revert htasks
    decide +kernel

end

end ReactNativeSkia
