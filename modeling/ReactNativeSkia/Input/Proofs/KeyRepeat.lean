import Mathlib.Data.List.Induction
import ReactNativeSkia.Input.InputEventManager

/-!
# Which presses are repeats

A press is handed on as a repeat if the event before it was of the same key, or if some press has
been a repeat since the last release. It should be one if the key is held down: the event before it
was a press of the same key.
-/

namespace ReactNativeSkia

open RnsKeyAction

variable {throttling : Bool} {events before after : List KeyEvent} {event : KeyEvent}
  {key : RnsKey}

namespace InputEventManager

/-- An earlier press of the key, with no release and no press of another key since. -/
def IsRepeat (before : List KeyEvent) (key : RnsKey) : Prop :=
  ∃ early late, before = early ++ ⟨key, RNS_KEY_Press⟩ :: late ∧
    ∀ e ∈ late, e.eventKeyAction ≠ RNS_KEY_Release ∧
      (e.eventKeyAction = RNS_KEY_Press → e.eventKeyType = key)

/-- Since the last release a key has been pressed twice in a row. -/
def Repeated (before : List KeyEvent) : Prop :=
  ∃ early key late,
    before = early ++ ⟨key, RNS_KEY_Press⟩ :: ⟨key, RNS_KEY_Press⟩ :: late ∧
      ∀ e ∈ late, e.eventKeyAction ≠ RNS_KEY_Release

/-- A press after these events is told from a repeat: the key has not just been released, it is
not `RNS_KEY_UnKnown` at the start, and no other key has come in while one was repeated. -/
def Clear (before : List KeyEvent) (key : RnsKey) : Prop :=
  match before.getLast? with
  | none => key ≠ .RNS_KEY_UnKnown
  | some last =>
    (last.eventKeyAction = RNS_KEY_Release → last.eventKeyType ≠ key) ∧
      (last.eventKeyAction = RNS_KEY_Press → last.eventKeyType ≠ key → ¬ Repeated before)

def AllClear (events : List KeyEvent) : Prop :=
  ∀ before key after, events = before ++ ⟨key, RNS_KEY_Press⟩ :: after → Clear before key

/-- Presses and releases only. -/
def PressOrRelease (events : List KeyEvent) : Prop :=
  ∀ e ∈ events, e.eventKeyAction = RNS_KEY_Press ∨ e.eventKeyAction = RNS_KEY_Release

def run (throttling : Bool) (events : List KeyEvent) : InputEventManager :=
  events.foldl (keyHandler throttling) {}

/-- Each press is handed on as a repeat exactly if it is one. -/
def RepeatsExact (throttling : Bool) (events : List KeyEvent) : Prop :=
  ∀ before key after, events = before ++ ⟨key, RNS_KEY_Press⟩ :: after →
    ((run throttling events).handed[before.length]? = some ⟨key, RNS_KEY_Press, true⟩ ↔
      IsRepeat before key)

/-! ## One event -/

section

variable (throttling) (s : InputEventManager) (event)

@[simp] theorem keyHandler_previousKeyType :
    (s.keyHandler throttling event).previousKeyType = event.eventKeyType := rfl

theorem keyHandler_handed : (s.keyHandler throttling event).handed =
    s.handed ++ [⟨event.eventKeyType, event.eventKeyAction,
      (s.keyHandler throttling event).keyRepeat⟩] := by
  simp only [keyHandler, handOn]
  split <;> split <;> rfl

theorem keyHandler_press (key : RnsKey) :
    (s.keyHandler throttling ⟨key, RNS_KEY_Press⟩).keyRepeat =
      (s.keyRepeat || decide (s.previousKeyType = key)) := by
  by_cases hkey : s.previousKeyType = key
  · simp [keyHandler, handOn, hkey]
  · simp [keyHandler, handOn, hkey]

theorem keyHandler_release (key : RnsKey) :
    (s.keyHandler throttling ⟨key, RNS_KEY_Release⟩).keyRepeat = false := by
  simp [keyHandler, handOn, release]

variable {throttling s event} in
theorem keyHandler_of_keyRepeat (hkeyRepeat : s.keyRepeat = true)
    (hrelease : event.eventKeyAction ≠ RNS_KEY_Release) :
    (s.keyHandler throttling event).keyRepeat = true := by
  simp only [keyHandler, handOn, if_neg hrelease]
  split
  · rfl
  · exact hkeyRepeat

end

/-! ## Sequences of events -/

theorem run_append (throttling : Bool) (before : List KeyEvent) (event : KeyEvent) :
    run throttling (before ++ [event]) = (run throttling before).keyHandler throttling event := by
  unfold run
  rw [List.foldl_append]
  rfl

theorem run_previousKeyType (throttling : Bool) (before : List KeyEvent) :
    (run throttling before).previousKeyType =
      (before.getLast?.map KeyEvent.eventKeyType).getD .RNS_KEY_UnKnown := by
  induction before using List.reverseRecOn with
  | nil => rfl
  | append_singleton before event _ =>
    rw [run_append, keyHandler_previousKeyType, List.getLast?_concat]
    rfl

/-- What has been handed on stays, and there is one entry for each event. -/
theorem foldl_handed (throttling : Bool) (s : InputEventManager) (events : List KeyEvent) :
    ∃ rest, (events.foldl (keyHandler throttling) s).handed = s.handed ++ rest ∧
      rest.length = events.length := by
  induction events generalizing s with
  | nil => exact ⟨[], (List.append_nil _).symm, rfl⟩
  | cons event events ih =>
    obtain ⟨rest, hhanded, hlength⟩ := ih (s.keyHandler throttling event)
    rw [keyHandler_handed, List.append_assoc] at hhanded
    refine ⟨_, hhanded, ?_⟩
    rw [List.length_append, hlength, List.length_cons]
    exact Nat.add_comm _ _

theorem run_handed_length (throttling : Bool) (before : List KeyEvent) :
    (run throttling before).handed.length = before.length := by
  obtain ⟨rest, hhanded, hlength⟩ := foldl_handed throttling {} before
  unfold run
  rw [hhanded]
  exact hlength

/-- The flag of a press is that of `keyRepeat` behind it. -/
theorem handed_press (throttling : Bool) (before : List KeyEvent) (key : RnsKey)
    (after : List KeyEvent) :
    (run throttling (before ++ ⟨key, RNS_KEY_Press⟩ :: after)).handed[before.length]? =
      some ⟨key, RNS_KEY_Press,
        (run throttling before).keyRepeat ||
          decide ((run throttling before).previousKeyType = key)⟩ := by
  obtain ⟨rest, hhanded, -⟩ := foldl_handed throttling
    (run throttling (before ++ [⟨key, RNS_KEY_Press⟩])) after
  have hsplit : run throttling (before ++ ⟨key, RNS_KEY_Press⟩ :: after) =
      after.foldl (keyHandler throttling) (run throttling (before ++ [⟨key, RNS_KEY_Press⟩])) := by
    unfold run
    rw [List.foldl_append, List.foldl_append]
    rfl
  rw [hsplit, hhanded, run_append, keyHandler_handed, keyHandler_press, List.append_assoc,
    List.getElem?_append_right (Nat.le_of_eq (run_handed_length _ _)), run_handed_length,
    Nat.sub_self]
  rfl

/-- In a sequence of presses and releases a repeat directly follows a press of its key. -/
theorem isRepeat_iff (hevents : PressOrRelease before) :
    IsRepeat before key ↔ before.getLast? = some ⟨key, RNS_KEY_Press⟩ := by
  constructor
  · rintro ⟨early, late, rfl, hlate⟩
    cases late using List.reverseRecOn with
    | nil => exact List.getLast?_concat
    | append_singleton late last =>
      have hlast := hlate last (List.mem_append_right _ (List.mem_singleton.mpr rfl))
      have haction : last.eventKeyAction = RNS_KEY_Press := by
        refine (hevents last ?_).resolve_right hlast.1
        exact List.mem_append_right _ (List.mem_cons_of_mem _
          (List.mem_append_right _ (List.mem_singleton.mpr rfl)))
      rw [← List.cons_append, ← List.append_assoc, List.getLast?_concat]
      obtain ⟨eventKeyType, eventKeyAction⟩ := last
      obtain rfl : eventKeyAction = RNS_KEY_Press := haction
      obtain rfl : eventKeyType = key := hlast.2 rfl
      rfl
  · intro hlast
    obtain ⟨early, rfl⟩ := List.getLast?_eq_some_iff.mp hlast
    exact ⟨early, [], rfl, fun e he => nomatch he⟩

/-- A press taken for a repeat by its key follows a press of it, if it is clear. -/
theorem getLast?_of_previous (h : Clear before key) (hevents : PressOrRelease before)
    (hprevious : (run throttling before).previousKeyType = key) :
    before.getLast? = some ⟨key, RNS_KEY_Press⟩ := by
  unfold Clear at h
  rw [run_previousKeyType] at hprevious
  cases hlast : before.getLast? with
  | none =>
    rw [hlast] at h hprevious
    exact absurd hprevious.symm h
  | some last =>
    rw [hlast] at h hprevious
    obtain ⟨eventKeyType, eventKeyAction⟩ := last
    obtain rfl : eventKeyType = key := hprevious
    rcases hevents _ (List.mem_of_getLast? hlast) with haction | haction
    · obtain rfl : eventKeyAction = RNS_KEY_Press := haction
      rfl
    · exact absurd rfl (h.1 haction)

theorem Repeated.getLast? (h : Repeated before) :
    ∃ last, before.getLast? = some last ∧ last.eventKeyAction ≠ RNS_KEY_Release := by
  obtain ⟨early, key, late, rfl, hlate⟩ := h
  cases late using List.reverseRecOn with
  | nil => exact ⟨⟨key, RNS_KEY_Press⟩, by simp, by rintro ⟨⟩⟩
  | append_singleton late last =>
    refine ⟨last, ?_, hlate last (List.mem_append_right _ (List.mem_singleton.mpr rfl))⟩
    rw [← List.cons_append, ← List.cons_append, ← List.append_assoc, List.getLast?_concat]

/-- A press taken for a repeat because one is going on follows a press of its key, if it is
clear. -/
theorem getLast?_of_repeated (h : Clear before key) (hevents : PressOrRelease before)
    (hrepeated : Repeated before) : before.getLast? = some ⟨key, RNS_KEY_Press⟩ := by
  obtain ⟨⟨eventKeyType, eventKeyAction⟩, hlast, hrelease⟩ := hrepeated.getLast?
  unfold Clear at h
  rw [hlast] at h ⊢
  obtain rfl : eventKeyAction = RNS_KEY_Press :=
    (hevents _ (List.mem_of_getLast? hlast)).resolve_right hrelease
  obtain rfl : eventKeyType = key := by
    by_contra hkey
    exact h.2 rfl hkey hrepeated
  rfl

theorem Repeated.append (h : Repeated before) (hrelease : event.eventKeyAction ≠ RNS_KEY_Release) :
    Repeated (before ++ [event]) := by
  obtain ⟨early, key, late, rfl, hlate⟩ := h
  refine ⟨early, key, late ++ [event], by simp, fun e he => ?_⟩
  rcases List.mem_append.mp he with he | he
  · exact hlate e he
  · rwa [List.mem_singleton.mp he]

/-- A press behind one of the same key. -/
theorem repeated_concat (before : List KeyEvent) (key : RnsKey) :
    Repeated (before ++ [⟨key, RNS_KEY_Press⟩] ++ [⟨key, RNS_KEY_Press⟩]) :=
  ⟨before, key, [], by simp, fun _ he => nomatch he⟩

/-- While a key is repeated `keyRepeat` is set. -/
theorem keyRepeat_of_repeated (hrepeated : Repeated before) :
    (run throttling before).keyRepeat = true := by
  obtain ⟨early, key, late, rfl, hlate⟩ := hrepeated
  induction late using List.reverseRecOn with
  | nil =>
    have hsplit : early ++ [⟨key, RNS_KEY_Press⟩, ⟨key, RNS_KEY_Press⟩] =
        early ++ [⟨key, RNS_KEY_Press⟩] ++ [⟨key, RNS_KEY_Press⟩] := by simp
    rw [hsplit, run_append, keyHandler_press, run_previousKeyType, List.getLast?_concat]
    exact (Bool.or_eq_true _ _).mpr (.inr (decide_eq_true rfl))
  | append_singleton late last ih =>
    have hkeyRepeat := ih fun e he => hlate e (List.mem_append_left _ he)
    have hlast := hlate last (List.mem_append_right _ (List.mem_singleton.mpr rfl))
    rw [← List.cons_append, ← List.cons_append, ← List.append_assoc, run_append]
    exact keyHandler_of_keyRepeat hkeyRepeat hlast

/-- A part of a sequence in which all presses are clear. -/
theorem AllClear.of_append (h : AllClear (before ++ after)) : AllClear before := by
  rintro first key last rfl
  exact h first key (last ++ after) (by rw [List.append_assoc, List.cons_append])

/-- `keyRepeat` is set only while a key is repeated, if no press is taken for a repeat. -/
theorem repeated_of_keyRepeat (hclear : AllClear before) (hevents : PressOrRelease before)
    (hkeyRepeat : (run throttling before).keyRepeat = true) : Repeated before := by
  induction before using List.reverseRecOn with
  | nil => cases hkeyRepeat
  | append_singleton before last ih =>
    obtain ⟨key, action⟩ := last
    have hbefore : PressOrRelease before := fun e he => hevents e (List.mem_append_left _ he)
    rw [run_append] at hkeyRepeat
    rcases hevents _ (List.mem_append_right _ (List.mem_singleton.mpr rfl)) with haction | haction
    · obtain rfl : action = RNS_KEY_Press := haction
      rw [keyHandler_press, Bool.or_eq_true, decide_eq_true_iff] at hkeyRepeat
      rcases hkeyRepeat with hkeyRepeat | hprevious
      · exact (ih hclear.of_append hbefore hkeyRepeat).append (by rintro ⟨⟩)
      · -- the last key is this one, and was pressed
        have hlast := getLast?_of_previous (hclear before key [] rfl) hbefore hprevious
        obtain ⟨early, rfl⟩ := List.getLast?_eq_some_iff.mp hlast
        exact repeated_concat early key
    · obtain rfl : action = RNS_KEY_Release := haction
      rw [keyHandler_release] at hkeyRepeat
      cases hkeyRepeat

/-- In a sequence of presses and releases the presses are handed on as repeats exactly if they are
repeats, provided each of them is clear, and only then. -/
theorem repeatsExact_iff (throttling : Bool) (hevents : PressOrRelease events) :
    RepeatsExact throttling events ↔ AllClear events := by
  have hbefore {before key after}
      (heq : events = before ++ ⟨key, RNS_KEY_Press⟩ :: after) : PressOrRelease before :=
    fun e he => hevents e (heq ▸ List.mem_append_left _ he)
  constructor
  · intro hexact before key after heq
    have hpress := hexact before key after heq
    subst heq
    rw [handed_press, isRepeat_iff (hbefore rfl)] at hpress
    have hflag (hset : ((run throttling before).keyRepeat ||
        decide ((run throttling before).previousKeyType = key)) = true) :
        before.getLast? = some ⟨key, RNS_KEY_Press⟩ := hpress.mp (by rw [hset])
    unfold Clear
    rw [run_previousKeyType] at hflag
    cases hlast : before.getLast? with
    | none =>
      rintro rfl
      rw [hlast] at hflag
      exact absurd (hflag (by simp)) (by simp)
    | some last =>
      rw [hlast] at hflag
      refine ⟨fun hrelease hkey => ?_, fun _ hkey hrepeated => ?_⟩
      · have := Option.some.inj (hflag (by simp [hkey]))
        rw [this] at hrelease
        cases hrelease
      · have := Option.some.inj (hflag (by simp [keyRepeat_of_repeated hrepeated]))
        exact hkey (congrArg KeyEvent.eventKeyType this)
  · intro hclear before key after heq
    have hpress := hclear before key after heq
    subst heq
    rw [handed_press, isRepeat_iff (hbefore rfl)]
    constructor
    · intro hflag
      have hset := congrArg RSkKeyInput.repeat_ (Option.some.inj hflag)
      rcases (Bool.or_eq_true _ _).mp hset with hkeyRepeat | hprevious
      · exact getLast?_of_repeated hpress (hbefore rfl)
          (repeated_of_keyRepeat hclear.of_append (hbefore rfl) hkeyRepeat)
      · exact getLast?_of_previous hpress (hbefore rfl) (of_decide_eq_true hprevious)
    · intro hlast
      rw [run_previousKeyType, hlast]
      simp

/-- A key held down, released, and pressed again after another key. -/
theorem repeatsExact_iff_held :
    let events : List KeyEvent := [⟨.RNS_KEY_Up, RNS_KEY_Press⟩, ⟨.RNS_KEY_Up, RNS_KEY_Press⟩,
      ⟨.RNS_KEY_Up, RNS_KEY_Release⟩, ⟨.RNS_KEY_Down, RNS_KEY_Press⟩,
      ⟨.RNS_KEY_Down, RNS_KEY_Release⟩, ⟨.RNS_KEY_Up, RNS_KEY_Press⟩]
    PressOrRelease events ∧ (RepeatsExact true events ↔ AllClear events) := by
  intro events
  have hevents : PressOrRelease events := by
    unfold PressOrRelease
    decide
  exact ⟨hevents, repeatsExact_iff true hevents⟩

/-- Pressing a key twice, with its release in between, passes for a repeat. -/
theorem not_repeatsExact_of_pressed_again :
    ¬ ∀ throttling events, PressOrRelease events → RepeatsExact throttling events := by
  intro h
  let before : List KeyEvent :=
    [⟨.RNS_KEY_Select, RNS_KEY_Press⟩, ⟨.RNS_KEY_Select, RNS_KEY_Release⟩]
  have hevents : PressOrRelease (before ++ [⟨.RNS_KEY_Select, RNS_KEY_Press⟩]) := by
    unfold PressOrRelease
    decide
  have hrepeat : IsRepeat before .RNS_KEY_Select :=
    (h false _ hevents before .RNS_KEY_Select [] rfl).mp rfl
  rw [isRepeat_iff fun e he => hevents e (List.mem_append_left _ he)] at hrepeat
  exact absurd hrepeat (by decide)

end InputEventManager

end ReactNativeSkia
