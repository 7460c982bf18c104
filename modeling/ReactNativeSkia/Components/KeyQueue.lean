/-!
# The input queue of a controlled text input

`inputQueue`, `isKeyRepeateOn` and `keyRepeateStartIndex`
(`ReactSkia/components/RSkComponentTextInput.cpp:41-46`) with the critical sections of
`inputQueueMutex`, for entries of any kind. `none` stands for a `front()` or `pop()` on an empty
queue.
-/

namespace ReactNativeSkia

structure KeyQueue (α : Type) where
  inputQueue : List α := []
  isKeyRepeateOn : Bool := false
  keyRepeateStartIndex : Nat := 0
  deriving DecidableEq, Repr

namespace KeyQueue

variable {α : Type}

/-- The loop that moves `keyRepeateStartIndex` entries to the temporary queue. -/
def moveToTemp : Nat → List α → Option (List α)
  | 0, _ => some []
  | _ + 1, [] => none
  | n + 1, key :: inputQueue => (moveToTemp n inputQueue).map (key :: ·)

/-- The section of `onHandleKey` that looks at `keyRepeat` (`RSkComponentTextInput.cpp:236-255`).
The flag tells that the function returns at the end of a burst. -/
def noteRepeat (q : KeyQueue α) (keyRepeat : Bool) : Option (KeyQueue α × Bool) :=
  if q.isKeyRepeateOn && !keyRepeat then
    (moveToTemp q.keyRepeateStartIndex q.inputQueue).map fun temp =>
      ({ inputQueue := temp, isKeyRepeateOn := false, keyRepeateStartIndex := 0 }, true)
  else
    some ({ q with
      isKeyRepeateOn := keyRepeat
      keyRepeateStartIndex :=
        if keyRepeat && !q.isKeyRepeateOn then q.inputQueue.length
        else q.keyRepeateStartIndex }, false)

def push (q : KeyQueue α) (key : α) : KeyQueue α :=
  { q with inputQueue := q.inputQueue ++ [key] }

/-- The swap with an empty queue. -/
def clear (q : KeyQueue α) : KeyQueue α := { q with inputQueue := [] }

/-- What `onHandleKey` resets before it starts the thread. -/
def resetRepeat (q : KeyQueue α) : KeyQueue α :=
  { q with isKeyRepeateOn := false, keyRepeateStartIndex := 0 }

/-- The section of `keyEventProcessingThread` (`RSkComponentTextInput.cpp:410-415`). -/
def pop (q : KeyQueue α) : Option (α × KeyQueue α) :=
  match q.inputQueue with
  | [] => none
  | key :: inputQueue =>
    some (key, { q with
      inputQueue := inputQueue
      keyRepeateStartIndex := q.keyRepeateStartIndex - 1 })

/-! ## The burst starts inside the queue -/

def Fits (q : KeyQueue α) : Prop := q.keyRepeateStartIndex ≤ q.inputQueue.length

section
variable {q : KeyQueue α}

/-- The loop takes the start of a queue that is long enough. -/
theorem moveToTemp_eq {n : Nat} {inputQueue : List α} (h : n ≤ inputQueue.length) :
    moveToTemp n inputQueue = some (inputQueue.take n) := by
  induction n generalizing inputQueue with
  | zero => rfl
  | succ n ih =>
    cases inputQueue with
    | nil => simp at h
    | cons key inputQueue =>
      rw [moveToTemp, ih (Nat.le_of_succ_le_succ h)]
      rfl

theorem noteRepeat_endsBurst (h : q.Fits) (hburst : q.isKeyRepeateOn = true) :
    q.noteRepeat false = some ({
      inputQueue := q.inputQueue.take q.keyRepeateStartIndex
      isKeyRepeateOn := false
      keyRepeateStartIndex := 0 }, true) := by
  unfold noteRepeat
  rw [hburst, moveToTemp_eq h]
  rfl

theorem noteRepeat_goesOn {keyRepeat : Bool}
    (h : q.isKeyRepeateOn = false ∨ keyRepeat = true) :
    q.noteRepeat keyRepeat = some ({ q with
      isKeyRepeateOn := keyRepeat
      keyRepeateStartIndex :=
        if keyRepeat && !q.isKeyRepeateOn then q.inputQueue.length
        else q.keyRepeateStartIndex }, false) := by
  unfold noteRepeat
  rcases h with h | h
  · rw [h]
    rfl
  · rw [h, Bool.not_true, Bool.and_false]
    rfl

/-- Without repeats the section changes nothing. -/
theorem noteRepeat_false (h : q.isKeyRepeateOn = false) : q.noteRepeat false = some (q, false) := by
  obtain ⟨inputQueue, isKeyRepeateOn, keyRepeateStartIndex⟩ := q
  obtain rfl := h
  rfl

theorem Fits.noteRepeat (h : q.Fits) (keyRepeat : Bool) :
    ∃ result, q.noteRepeat keyRepeat = some result ∧ result.1.Fits := by
  by_cases hburst : q.isKeyRepeateOn = false ∨ keyRepeat = true
  · refine ⟨_, noteRepeat_goesOn hburst, ?_⟩
    unfold Fits
    simp only
    split
    · exact Nat.le_refl _
    · exact h
  · simp only [not_or, Bool.not_eq_false, Bool.not_eq_true] at hburst
    obtain ⟨hon, rfl⟩ := hburst
    exact ⟨_, noteRepeat_endsBurst h hon, Nat.zero_le _⟩

theorem Fits.push (h : q.Fits) (key : α) : (q.push key).Fits := by
  unfold Fits KeyQueue.push
  rw [List.length_append]
  exact Nat.le_add_right_of_le h

theorem resetRepeat_fits (q : KeyQueue α) : q.resetRepeat.Fits := Nat.zero_le _

theorem Fits.pop (h : q.Fits) {key : α} {q' : KeyQueue α} (hpop : q.pop = some (key, q')) :
    q'.Fits := by
  unfold KeyQueue.pop at hpop
  split at hpop
  · cases hpop
  · rename_i hqueue
    obtain ⟨-, rfl⟩ := Prod.mk.inj (Option.some.inj hpop)
    unfold Fits at h ⊢
    rw [hqueue, List.length_cons] at h
    exact Nat.sub_le_of_le_add h

end

end KeyQueue

end ReactNativeSkia
