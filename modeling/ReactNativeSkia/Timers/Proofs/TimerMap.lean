import ReactNativeSkia.Timers.TimingModule
import Mathlib.Data.List.Nodup
import Mathlib.Order.Bounds.Basic

/-!
# The map of the timers

The timers in the map have different ids and are different objects. `timerDidFire` goes over the map
once: it lists the timers whose target has come, and it looks for the next target of the others.
-/

namespace ReactNativeSkia

variable {now : Int} {jsTimers : List RSkJsTimer} {t : RSkJsTimer} {allocated : Nat}

theorem eraseTimer_sublist (callbackId : ℚ) (jsTimers : List RSkJsTimer) :
    (eraseTimer callbackId jsTimers).Sublist jsTimers := List.filter_sublist

/-! A timer that gets a new target keeps its id and its object. -/

section

variable {object o : Nat} {target : Int}

theorem map_callbackId_retarget :
    (jsTimers.map fun t => if t.object = object then { t with target_ := target } else t).map
      (·.callbackId_) = jsTimers.map (·.callbackId_) := by
  rw [List.map_map]
  refine List.map_congr_left fun t _ => ?_
  simp only [Function.comp_apply]
  split <;> rfl

theorem map_object_retarget :
    (jsTimers.map fun t => if t.object = object then { t with target_ := target } else t).map
      (·.object) = jsTimers.map (·.object) := by
  rw [List.map_map]
  refine List.map_congr_left fun t _ => ?_
  simp only [Function.comp_apply]
  split <;> rfl

theorem exists_retarget_iff :
    (∃ t ∈ jsTimers.map fun t => if t.object = object then { t with target_ := target } else t,
      t.object = o) ↔ ∃ t ∈ jsTimers, t.object = o := by
  rw [← List.mem_map, map_object_retarget]
  exact List.mem_map

end

/-! ## Different timers -/

/-- The timers are different ones, and all of them have been allocated. -/
structure DistinctTimers (jsTimers : List RSkJsTimer) (allocated : Nat) : Prop where
  ids : (jsTimers.map (·.callbackId_)).Nodup
  objects : (jsTimers.map (·.object)).Nodup
  allocated : ∀ t ∈ jsTimers, t.object < allocated

namespace DistinctTimers

theorem nil (allocated : Nat) : DistinctTimers [] allocated :=
  ⟨List.nodup_nil, List.nodup_nil, fun _ ht => nomatch ht⟩

theorem mono (h : DistinctTimers jsTimers allocated) {allocated' : Nat}
    (hle : allocated ≤ allocated') : DistinctTimers jsTimers allocated' :=
  ⟨h.ids, h.objects, fun t ht => Nat.lt_of_lt_of_le (h.allocated t ht) hle⟩

theorem erase (h : DistinctTimers jsTimers allocated) (callbackId : ℚ) :
    DistinctTimers (eraseTimer callbackId jsTimers) allocated where
  ids := h.ids.sublist ((eraseTimer_sublist _ _).map _)
  objects := h.objects.sublist ((eraseTimer_sublist _ _).map _)
  allocated t ht := h.allocated t ((eraseTimer_sublist _ _).subset ht)

/-- A new object takes the place of the timer with its id. -/
theorem insert (h : DistinctTimers jsTimers allocated) (hlt : t.object < allocated)
    (hnew : ∀ u ∈ jsTimers, u.object ≠ t.object) :
    DistinctTimers (eraseTimer t.callbackId_ jsTimers ++ [t]) allocated := by
  have hsub := eraseTimer_sublist t.callbackId_ jsTimers
  constructor
  · rw [List.map_append, List.map_singleton]
    refine List.nodup_append.mpr ⟨h.ids.sublist (hsub.map _), List.nodup_singleton _, ?_⟩
    intro id hid id' hid'
    obtain ⟨u, hu, rfl⟩ := List.mem_map.mp hid
    obtain rfl := List.mem_singleton.mp hid'
    exact of_decide_eq_true (List.mem_filter.mp hu).2
  · rw [List.map_append, List.map_singleton]
    refine List.nodup_append.mpr ⟨h.objects.sublist (hsub.map _), List.nodup_singleton _, ?_⟩
    intro o ho o' ho'
    obtain ⟨u, hu, rfl⟩ := List.mem_map.mp ho
    obtain rfl := List.mem_singleton.mp ho'
    exact hnew u (hsub.subset hu)
  · intro u hu
    rcases List.mem_append.mp hu with hu | hu
    · exact h.allocated u (hsub.subset hu)
    · obtain rfl := List.mem_singleton.mp hu
      exact hlt

theorem retarget (h : DistinctTimers jsTimers allocated) (object : Nat) (target : Int) :
    DistinctTimers (jsTimers.map fun t =>
      if t.object = object then { t with target_ := target } else t) allocated := by
  constructor
  · rw [map_callbackId_retarget]
    exact h.ids
  · rw [map_object_retarget]
    exact h.objects
  · intro t ht
    obtain ⟨u, hu, heq⟩ := exists_retarget_iff.mp ⟨t, ht, rfl⟩
    exact heq ▸ h.allocated u hu

end DistinctTimers

/-! ## The expired timers -/

theorem perm_foldl_listTimer (lists : List RSkJsTimer × Int) :
    ((jsTimers.foldl (listTimer now) lists).1).Perm
      (lists.1 ++ jsTimers.filter fun t => decide (t.target_ ≤ now)) := by
  induction jsTimers generalizing lists with
  | nil => simp
  | cons t jsTimers ih =>
    refine (ih (listTimer now lists t)).trans ?_
    unfold listTimer
    by_cases ht : t.target_ ≤ now
    · rw [if_pos ht, List.filter_cons_of_pos (by simpa using ht)]
      refine ((List.perm_orderedInsert _ t lists.1).append_right _).trans ?_
      exact List.perm_middle.symm
    · rw [if_neg ht, List.filter_cons_of_neg (by simpa using ht)]

/-- Each expired timer is listed once. -/
theorem perm_listTimers (now : Int) (jsTimers : List RSkJsTimer) :
    ((listTimers now jsTimers).1).Perm (jsTimers.filter fun t => decide (t.target_ ≤ now)) :=
  perm_foldl_listTimer ([], getFutureTime now)

/-- By their targets. -/
theorem sorted_foldl_listTimer {lists : List RSkJsTimer × Int}
    (h : lists.1.Pairwise fun t u => t.target_ ≤ u.target_) :
    (jsTimers.foldl (listTimer now) lists).1.Pairwise fun t u => t.target_ ≤ u.target_ := by
  induction jsTimers generalizing lists with
  | nil => exact h
  | cons t jsTimers ih =>
    refine ih ?_
    unfold listTimer
    split
    · have : Std.Total fun t u : RSkJsTimer => t.target_ ≤ u.target_ :=
        ⟨fun t u => Int.le_total t.target_ u.target_⟩
      have : IsTrans RSkJsTimer fun t u => t.target_ ≤ u.target_ :=
        ⟨fun _ _ _ htu huv => Int.le_trans htu huv⟩
      exact h.orderedInsert t _
    · exact h

theorem sorted_listTimers (now : Int) (jsTimers : List RSkJsTimer) :
    (listTimers now jsTimers).1.Pairwise fun t u => t.target_ ≤ u.target_ :=
  sorted_foldl_listTimer List.Pairwise.nil

theorem mem_listTimers : t ∈ (listTimers now jsTimers).1 ↔ t ∈ jsTimers ∧ t.target_ ≤ now := by
  rw [(perm_listTimers now jsTimers).mem_iff, List.mem_filter, decide_eq_true_iff]

/-- The targets of the timers that have not expired. -/
def pendingTargets (now : Int) (jsTimers : List RSkJsTimer) : Set Int :=
  {target | ∃ t ∈ jsTimers, now < t.target_ ∧ t.target_ = target}

theorem pendingTargets_nil : pendingTargets now [] = ∅ := by
  refine Set.eq_empty_of_forall_notMem ?_
  rintro target ⟨t, ht, -⟩
  exact absurd ht List.not_mem_nil

theorem pendingTargets_cons_of_expired (ht : t.target_ ≤ now) :
    pendingTargets now (t :: jsTimers) = pendingTargets now jsTimers := by
  ext target
  constructor
  · rintro ⟨u, hu, hpending, rfl⟩
    rcases List.mem_cons.mp hu with rfl | hu
    · exact absurd ht (Int.not_le.mpr hpending)
    · exact ⟨u, hu, hpending, rfl⟩
  · rintro ⟨u, hu, hpending, rfl⟩
    exact ⟨u, List.mem_cons_of_mem t hu, hpending, rfl⟩

theorem pendingTargets_cons_of_pending (ht : now < t.target_) :
    pendingTargets now (t :: jsTimers) = insert t.target_ (pendingTargets now jsTimers) := by
  ext target
  constructor
  · rintro ⟨u, hu, hpending, rfl⟩
    rcases List.mem_cons.mp hu with rfl | hu
    · exact Set.mem_insert _ _
    · exact Set.mem_insert_of_mem _ ⟨u, hu, hpending, rfl⟩
  · rintro (rfl | ⟨u, hu, hpending, rfl⟩)
    · exact ⟨t, List.mem_cons_self, ht, rfl⟩
    · exact ⟨u, List.mem_cons_of_mem t hu, hpending, rfl⟩

/-- A running minimum. -/
theorem isLeast_insert_of_lt {targets : Set Int} {next target : Int} (h : IsLeast targets next) :
    IsLeast (insert target targets) (if target < next then target else next) := by
  have hmin : (if target < next then target else next) = min target next := by
    split <;> omega
  rw [hmin]
  exact h.insert target

theorem isLeast_foldl_listTimer {lists : List RSkJsTimer × Int} {targets : Set Int}
    (h : IsLeast targets lists.2) :
    IsLeast (targets ∪ pendingTargets now jsTimers)
      (jsTimers.foldl (listTimer now) lists).2 := by
  induction jsTimers generalizing lists targets with
  | nil =>
    rw [pendingTargets_nil, Set.union_empty]
    exact h
  | cons t jsTimers ih =>
    rw [List.foldl_cons]
    by_cases ht : t.target_ ≤ now
    · rw [pendingTargets_cons_of_expired ht]
      refine ih ?_
      rw [listTimer, if_pos ht]
      exact h
    · rw [pendingTargets_cons_of_pending (Int.not_le.mp ht), Set.union_insert, ← Set.insert_union]
      refine ih ?_
      rw [listTimer, if_neg ht]
      exact isLeast_insert_of_lt h

/-- The next target is the first of the others, if it is not too far away. -/
theorem isLeast_listTimers (now : Int) (jsTimers : List RSkJsTimer) :
    IsLeast (insert (getFutureTime now) (pendingTargets now jsTimers))
      (listTimers now jsTimers).2 := by
  rw [← Set.singleton_union]
  exact isLeast_foldl_listTimer isLeast_singleton

end ReactNativeSkia
