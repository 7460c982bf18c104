import Mathlib.Data.List.Chain
import ReactNativeSkia.Misc.Run
import ReactNativeSkia.Modules.EventEmitter

/-!
# Starts and stops of an emitter

The counter starts the observation when it comes to one. It stops it whenever it is zero after
`removeListeners`, and so also when it has been zero before. The calls of the virtual methods are in
turn as long as nothing is removed at zero.
-/

namespace ReactNativeSkia

/-- Starts and stops in turn, a start first. -/
structure Alternating (calls : List ObserveCall) : Prop where
  head : ∀ call ∈ calls.head?, call = .startObserving
  chain : calls.IsChain (· ≠ ·)

/-- The last call is a start if and only if there is a listener. -/
structure Observes {σ : Type} (s : BaseEventEmitter σ) : Prop where
  alternates : Alternating s.calls
  observing_iff : s.calls.getLast? = some .startObserving ↔ 1 ≤ s.listenerCount_

/-- Listeners are removed only while there is one. -/
def removesSome {σ α : Type} (s : BaseEventEmitter σ) : EmitterOp α → Prop
  | .removeListeners _ => s.listenerCount_ ≠ 0
  | _ => True

namespace Alternating

variable {calls : List ObserveCall}

theorem nil : Alternating [] := ⟨by simp, List.isChain_nil⟩

/-- What comes after `calls` differs from its last call, and from a stop if there is none. -/
theorem append_iff (h : Alternating calls) (call : ObserveCall) :
    Alternating (calls ++ [call]) ↔ call ≠ calls.getLast?.getD .stopObserving := by
  rcases List.eq_nil_or_concat calls with rfl | ⟨before, last, rfl⟩
  · constructor
    · intro h'
      simp [h'.head call rfl]
    · intro hcall
      refine ⟨?_, List.isChain_singleton _⟩
      cases call
      · simp
      · simp at hcall
  · constructor
    · intro h'
      have hlast := (List.isChain_append.mp h'.chain).2.2 last (by simp) call (by simp)
      simpa [eq_comm] using hlast
    · intro hcall
      refine ⟨?_, List.isChain_append.mpr ⟨h.chain, List.isChain_singleton _, ?_⟩⟩
      · intro first hfirst
        apply h.head first
        rwa [List.head?_append_of_ne_nil] at hfirst
        simp
      · intro x hx y hy
        simp only [List.concat_eq_append, List.getLast?_append, List.getLast?_singleton,
          Option.some_or, Option.getD_some] at hcall
        simp only [List.concat_eq_append, List.getLast?_append, List.getLast?_singleton,
          Option.some_or, Option.mem_some_iff] at hx
        simp only [List.head?_cons, Option.mem_some_iff] at hy
        rw [← hx, ← hy]
        exact hcall.symm

theorem append_start_iff (h : Alternating calls) :
    Alternating (calls ++ [.startObserving]) ↔ calls.getLast? ≠ some .startObserving := by
  rw [h.append_iff]
  rcases calls.getLast? with _ | _ | _ <;> simp

theorem append_stop_iff (h : Alternating calls) :
    Alternating (calls ++ [.stopObserving]) ↔ calls.getLast? = some .startObserving := by
  rw [h.append_iff]
  rcases calls.getLast? with _ | _ | _ <;> simp

end Alternating

namespace BaseEventEmitter

variable {σ α : Type} {cls : DerivedEmitter σ α} {s : BaseEventEmitter σ}

theorem observes_initial (derived : σ) : Observes { derived := derived } :=
  ⟨Alternating.nil, by simp⟩

theorem exec_nonneg (hcount : 0 ≤ s.listenerCount_) (op : EmitterOp α) :
    0 ≤ (op.exec cls s).listenerCount_ := by
  cases op with
  | addListener eventName =>
    simp only [EmitterOp.exec, addListener, startObserving]
    split <;> simp only <;> omega
  | removeListeners removeCount =>
    simp only [EmitterOp.exec, removeListeners, stopObserving]
    split <;> simp only <;> omega
  | act a => exact hcount

theorem observes_addListener (h : Observes s) (hcount : 0 ≤ s.listenerCount_)
    (eventName : String) : Observes (s.addListener cls eventName) := by
  have hobserving := h.observing_iff
  simp only [addListener]
  split
  · rename_i hfirst
    refine ⟨h.alternates.append_start_iff.mpr ?_, ?_⟩
    · intro hlast
      have := hobserving.mp hlast
      omega
    · simp [startObserving, hfirst]
  · rename_i hfirst
    refine ⟨h.alternates, hobserving.trans ?_⟩
    simp only at hfirst ⊢
    omega

/-- A stop is in turn if and only if there has been a listener. -/
theorem observes_removeListeners_iff (h : Observes s) (hcount : 0 ≤ s.listenerCount_)
    (removeCount : Nat) :
    Observes (s.removeListeners cls removeCount) ↔ s.listenerCount_ ≠ 0 := by
  have hobserving := h.observing_iff
  simp only [removeListeners]
  split
  · rename_i hlast
    have hstop : Alternating (s.calls ++ [.stopObserving]) ↔ s.listenerCount_ ≠ 0 := by
      rw [h.alternates.append_stop_iff, hobserving]
      omega
    refine ⟨fun h' => hstop.mp h'.alternates, fun hsome => ⟨hstop.mpr hsome, ?_⟩⟩
    simp [stopObserving, hlast]
  · rename_i hlast
    have hcounts : 1 ≤ s.listenerCount_ ↔ 1 ≤ max (s.listenerCount_ - removeCount) 0 := by omega
    exact iff_of_true ⟨h.alternates, hobserving.trans hcounts⟩ (by omega)

/-- One call keeps starts and stops in turn if and only if it removes nothing at zero. -/
theorem observes_exec_iff (h : Observes s) (hcount : 0 ≤ s.listenerCount_) (op : EmitterOp α) :
    Observes (op.exec cls s) ↔ removesSome s op := by
  cases op with
  | addListener eventName => exact iff_of_true (observes_addListener h hcount eventName) trivial
  | removeListeners removeCount => exact observes_removeListeners_iff h hcount removeCount
  | act a => exact iff_of_true ⟨h.alternates, h.observing_iff⟩ trivial

theorem observes_run {derived : σ}
    (h : Run (emitterStep cls) removesSome { derived := derived } s) :
    Observes s ∧ 0 ≤ s.listenerCount_ := by
  refine h.invariant (P := fun s => Observes s ∧ 0 ≤ s.listenerCount_) ?_
    ⟨observes_initial derived, Int.le_refl 0⟩
  rintro s op _ ⟨hobserves, hcount⟩ hop rfl
  exact ⟨(observes_exec_iff hobserves hcount op).mpr hop, exec_nonneg hcount op⟩

end BaseEventEmitter

/-! ## The emitter of the navigation events -/

/-- At most one listener waits for its registration or is in the table, and each one that has been
removed has been in the table. -/
structure HoldsOne (e : TVNavigation) : Prop where
  one : (e.queued ++ e.registered).length ≤ 1
  found : ∀ removal ∈ e.removals, removal = true

/-- Listeners are removed only while there is one, and the last one only after the thread of the
center has registered the listener of the emitter. -/
def removesRegistered (s : BaseEventEmitter TVNavigation) :
    EmitterOp TVNavigationAct → Prop
  | .removeListeners removeCount =>
    s.listenerCount_ ≠ 0 ∧ (s.listenerCount_ ≤ removeCount → s.derived.queued = [])
  | _ => True

namespace TVNavigation

/-- The emitter holds its listener while there are listeners of JS. -/
structure Tracks (s : BaseEventEmitter TVNavigation) : Prop where
  observes : Observes s
  nonneg : 0 ≤ s.listenerCount_
  held : s.derived.queued ++ s.derived.registered =
    if s.listenerCount_ = 0 then [] else [s.derived.navEventId_]
  found : ∀ removal ∈ s.derived.removals, removal = true

variable {s : BaseEventEmitter TVNavigation} {e : TVNavigation}

/-- The registration of a single listener takes it from the one list to the other. -/
theorem held_register (hone : (e.queued ++ e.registered).length ≤ 1) :
    (e.act .register).queued ++ (e.act .register).registered = e.queued ++ e.registered := by
  rcases hqueued : e.queued with _ | ⟨listener_id, queued⟩
  · simp [act, hqueued]
  · rw [hqueued, List.cons_append, List.length_cons, List.length_append] at hone
    obtain rfl : queued = [] := List.eq_nil_of_length_eq_zero (by omega)
    have hregistered : e.registered = [] := List.eq_nil_of_length_eq_zero (by omega)
    simp [act, hqueued, hregistered]

theorem act_navEventId_ (a : TVNavigationAct) : (e.act a).navEventId_ = e.navEventId_ := by
  cases a with
  | otherListener => rfl
  | register =>
    simp only [act]
    split <;> rfl

theorem act_removals (a : TVNavigationAct) : (e.act a).removals = e.removals := by
  cases a with
  | otherListener => rfl
  | register =>
    simp only [act]
    split <;> rfl

namespace Tracks

theorem initial : Tracks { derived := {} } :=
  ⟨BaseEventEmitter.observes_initial _, Int.le_refl 0, rfl, by simp⟩

theorem holdsOne (h : Tracks s) : HoldsOne s.derived := by
  refine ⟨?_, h.found⟩
  rw [h.held]
  split <;> simp

theorem addListener (h : Tracks s) (eventName : String) :
    Tracks (s.addListener tvNavigationEventEmitter eventName) := by
  have hobserves : Observes (s.addListener tvNavigationEventEmitter eventName) :=
    BaseEventEmitter.observes_addListener h.observes h.nonneg eventName
  have hnonneg : 0 ≤ (s.addListener tvNavigationEventEmitter eventName).listenerCount_ :=
    BaseEventEmitter.exec_nonneg h.nonneg (.addListener eventName : EmitterOp TVNavigationAct)
  refine ⟨hobserves, hnonneg, ?_, ?_⟩
  · have hheld := h.held
    have hcount := h.nonneg
    simp only [BaseEventEmitter.addListener]
    split
    · rename_i hfirst
      rw [if_pos (by omega)] at hheld
      obtain ⟨hqueued, hregistered⟩ := List.append_eq_nil_iff.mp hheld
      simp [BaseEventEmitter.startObserving, tvNavigationEventEmitter, startObserving,
        centerAddListener, hqueued, hregistered, hfirst]
    · rename_i hfirst
      rw [if_neg (by omega)] at hheld
      simp only [hheld]
      rw [if_neg (by omega)]
  · simp only [BaseEventEmitter.addListener]
    split
    · exact h.found
    · exact h.found

theorem act (h : Tracks s) (a : TVNavigationAct) :
    Tracks { s with derived := s.derived.act a } := by
  refine ⟨⟨h.observes.alternates, h.observes.observing_iff⟩, h.nonneg, ?_, ?_⟩
  · have hheld : (s.derived.act a).queued ++ (s.derived.act a).registered =
        s.derived.queued ++ s.derived.registered := by
      cases a with
      | otherListener => rfl
      | register => exact held_register h.holdsOne.one
    rw [hheld, act_navEventId_]
    exact h.held
  · rw [act_removals]
    exact h.found

/-- The last stop finds the listener if and only if it has been registered. -/
theorem stop_found_iff (h : Tracks s) (hsome : s.listenerCount_ ≠ 0) :
    s.derived.navEventId_ ∈ s.derived.registered ↔ s.derived.queued = [] := by
  have hheld := h.held
  rw [if_neg hsome] at hheld
  rcases hqueued : s.derived.queued with _ | ⟨listener_id, queued⟩
  · rw [hqueued, List.nil_append] at hheld
    simp [hheld]
  · rw [hqueued, List.cons_append, List.cons.injEq, List.append_eq_nil_iff] at hheld
    simp [hheld.2.2]

theorem removeListeners (h : Tracks s) {removeCount : Nat}
    (hremoves : removesRegistered s (.removeListeners removeCount)) :
    Tracks (s.removeListeners tvNavigationEventEmitter removeCount) := by
  obtain ⟨hsome, hregistered⟩ := hremoves
  have hobserves : Observes (s.removeListeners tvNavigationEventEmitter removeCount) :=
    (BaseEventEmitter.observes_removeListeners_iff h.observes h.nonneg removeCount).mpr hsome
  have hnonneg : 0 ≤ (s.removeListeners tvNavigationEventEmitter removeCount).listenerCount_ :=
    BaseEventEmitter.exec_nonneg h.nonneg
      (.removeListeners removeCount : EmitterOp TVNavigationAct)
  refine ⟨hobserves, hnonneg, ?_, ?_⟩
  · have hheld := h.held
    rw [if_neg hsome] at hheld
    simp only [BaseEventEmitter.removeListeners]
    split
    · rename_i hlast
      have hqueued := hregistered (by omega)
      rw [hqueued, List.nil_append] at hheld
      simp [BaseEventEmitter.stopObserving, tvNavigationEventEmitter, stopObserving,
        centerRemoveListener, hqueued, hheld, hlast]
    · exact hheld
  · simp only [BaseEventEmitter.removeListeners]
    split
    · rename_i hlast
      have hfound := (h.stop_found_iff hsome).mpr (hregistered (by omega))
      intro removal hremoval
      rcases List.mem_append.mp hremoval with hbefore | hnow
      · exact h.found removal hbefore
      · simpa [hfound] using hnow
    · exact h.found

/-- One call keeps what an emitter is to do if and only if it meets the condition. -/
theorem exec_iff (h : Tracks s) (op : EmitterOp TVNavigationAct) :
    (Observes (op.exec tvNavigationEventEmitter s) ∧
        HoldsOne (op.exec tvNavigationEventEmitter s).derived) ↔
      removesRegistered s op := by
  cases op with
  | addListener eventName =>
    have hadd := h.addListener eventName
    exact iff_of_true ⟨hadd.observes, hadd.holdsOne⟩ trivial
  | removeListeners removeCount =>
    constructor
    · rintro ⟨hobserves, hholds⟩
      have hsome :=
        (BaseEventEmitter.observes_removeListeners_iff h.observes h.nonneg removeCount).mp
          hobserves
      refine ⟨hsome, fun hall => ?_⟩
      rw [← h.stop_found_iff hsome]
      have hlast : max (s.listenerCount_ - removeCount) 0 = 0 := by omega
      have hremoval := hholds.found (decide (s.derived.navEventId_ ∈ s.derived.registered)) (by
        simp [EmitterOp.exec, BaseEventEmitter.removeListeners, hlast,
          BaseEventEmitter.stopObserving, tvNavigationEventEmitter, stopObserving,
          centerRemoveListener])
      exact of_decide_eq_true hremoval
    · intro hremoves
      have hremove := h.removeListeners hremoves
      exact ⟨hremove.observes, hremove.holdsOne⟩
  | act a =>
    have hact := h.act a
    exact iff_of_true ⟨hact.observes, hact.holdsOne⟩ trivial

theorem exec (h : Tracks s) {op : EmitterOp TVNavigationAct} (hop : removesRegistered s op) :
    Tracks (op.exec tvNavigationEventEmitter s) := by
  cases op with
  | addListener eventName => exact h.addListener eventName
  | removeListeners removeCount => exact h.removeListeners hop
  | act a => exact h.act a

theorem of_run (h : Run (emitterStep tvNavigationEventEmitter) removesRegistered
    { derived := {} } s) : Tracks s := by
  refine h.invariant (P := Tracks) ?_ initial
  rintro s op _ htracks hop rfl
  exact htracks.exec hop

end Tracks

end TVNavigation

/-- In every run that removes nothing at zero starts and stops are in turn, and the next call keeps
them so if and only if it does not remove at zero either. The emitter of the navigation events holds
one listener at most in every run that in addition removes the last one after its registration. -/
theorem emitterRun_alternates {σ α : Type} (cls : DerivedEmitter σ α) (derived : σ) :
    (∀ s : BaseEventEmitter σ, Run (emitterStep cls) removesSome { derived := derived } s →
      Observes s ∧ ∀ op s', emitterStep cls s op s' → (Observes s' ↔ removesSome s op)) ∧
      ∀ s : BaseEventEmitter TVNavigation,
        Run (emitterStep tvNavigationEventEmitter) removesRegistered { derived := {} } s →
          (Observes s ∧ HoldsOne s.derived) ∧
            ∀ op s', emitterStep tvNavigationEventEmitter s op s' →
              (Observes s' ∧ HoldsOne s'.derived ↔ removesRegistered s op) := by
  constructor
  · intro s hrun
    obtain ⟨hobserves, hcount⟩ := BaseEventEmitter.observes_run hrun
    refine ⟨hobserves, ?_⟩
    rintro op _ rfl
    exact BaseEventEmitter.observes_exec_iff hobserves hcount op
  · intro s hrun
    have htracks := TVNavigation.Tracks.of_run hrun
    refine ⟨⟨htracks.observes, htracks.holdsOne⟩, ?_⟩
    rintro op _ rfl
    exact htracks.exec_iff op

/-- A listener is added, registered and removed. -/
theorem emitterRun_alternates_once :
    Observes ({ calls := [.startObserving, .stopObserving], derived := () } :
        BaseEventEmitter Unit) ∧
      HoldsOne { navEventId_ := 1, last_listener := 1, removals := [true] } := by
  let cls : DerivedEmitter Unit Unit := ⟨id, id, fun _ => id⟩
  constructor
  · have hadd : Run (emitterStep cls) removesSome { derived := () }
        { listenerCount_ := 1, calls := [.startObserving], derived := () } :=
      Run.single (a := .addListener "message") trivial rfl
    exact ((emitterRun_alternates cls ()).1 _
      (hadd.tail (a := .removeListeners 1) (by simp [removesSome]) rfl)).1
  · have hadd : Run (emitterStep tvNavigationEventEmitter) removesRegistered { derived := {} }
        { listenerCount_ := 1
          calls := [.startObserving]
          derived := { navEventId_ := 1, last_listener := 1, queued := [1] } } :=
      Run.single (a := .addListener "onTVNavEvent") trivial rfl
    have hregister : Run (emitterStep tvNavigationEventEmitter) removesRegistered { derived := {} }
        { listenerCount_ := 1
          calls := [.startObserving]
          derived := { navEventId_ := 1, last_listener := 1, registered := [1] } } :=
      hadd.tail (a := .act .register) trivial rfl
    exact ((emitterRun_alternates cls ()).2
      { calls := [.startObserving, .stopObserving]
        derived := { navEventId_ := 1, last_listener := 1, removals := [true] } }
      (hregister.tail (a := .removeListeners 1) (by simp [removesRegistered]) rfl)).1.2

/-- `removeListeners(0)` on an emitter without listeners stops what has not been started, with an id
that is no listener's. -/
theorem removeListeners_zero_stops :
    ∃ s : BaseEventEmitter TVNavigation,
      Run (emitterStep tvNavigationEventEmitter) anyStep { derived := {} } s ∧
        ¬Alternating s.calls ∧ s.derived.removals = [false] := by
  refine ⟨(EmitterOp.removeListeners 0).exec tvNavigationEventEmitter { derived := {} },
    Run.single trivial rfl, ?_, rfl⟩
  intro h
  exact absurd (h.head .stopObserving rfl) (by decide)

end ReactNativeSkia
