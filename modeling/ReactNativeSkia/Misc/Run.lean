import Mathlib.Logic.Relation

/-!
# Runs of a labelled step relation

A run is a finite sequence of steps, each of which meets a condition on its label and the
state before it; the unconditional run is the one with the trivial condition. The
induction over runs is done here once: what holds initially and is kept by every admitted
step holds at the end.
-/

namespace ReactNativeSkia

variable {S A : Type*}

/-- One step whose label the condition `ok` admits in the state before it. -/
def Admitted (step : S → A → S → Prop) (ok : S → A → Prop) (s t : S) : Prop :=
  ∃ a, ok s a ∧ step s a t

/-- A finite sequence of admitted steps. -/
def Run (step : S → A → S → Prop) (ok : S → A → Prop) : S → S → Prop :=
  Relation.ReflTransGen (Admitted step ok)

/-- The condition that admits every step. -/
def anyStep (_ : S) (_ : A) : Prop := True

namespace Run

variable {step : S → A → S → Prop} {ok : S → A → Prop} {s t u : S}

theorem refl (s : S) : Run step ok s s := Relation.ReflTransGen.refl

theorem tail (h : Run step ok s t) {a : A} (ha : ok t a) (hs : step t a u) :
    Run step ok s u := Relation.ReflTransGen.tail h ⟨a, ha, hs⟩

theorem single {a : A} (ha : ok s a) (hs : step s a t) : Run step ok s t :=
  (refl s).tail ha hs

theorem trans (h : Run step ok s t) (h' : Run step ok t u) : Run step ok s u :=
  Relation.ReflTransGen.trans h h'

/-- The invariant rule: an invariant of the initial state kept by every admitted step is an
invariant of every state a run reaches. -/
theorem invariant {P : S → Prop} (keeps : ∀ s a t, P s → ok s a → step s a t → P t)
    (h : Run step ok s t) (hs : P s) : P t := by
  induction h with
  | refl => exact hs
  | tail _ hstep ih =>
    obtain ⟨a, ha, hst⟩ := hstep
    exact keeps _ a _ ih ha hst

/-- A list of labels executed one after the other is a run. -/
theorem of_foldlM {exec : S → A → Option S}
    (hexec : ∀ s a t, exec s a = some t → ok s a ∧ step s a t) {as : List A}
    (h : as.foldlM exec s = some t) : Run step ok s t := by
  induction as generalizing s with
  | nil =>
    obtain rfl : s = t := Option.some.inj h
    exact refl s
  | cons a as ih =>
    rw [List.foldlM_cons] at h
    obtain ⟨u, hu, hrest⟩ := Option.bind_eq_some_iff.mp h
    obtain ⟨hok, hstep⟩ := hexec s a u hu
    exact (single hok hstep).trans (ih hrest)

/-- Labels executed one after the other, without a condition. -/
theorem of_exec {exec : S → A → Option S} {as : List A} (h : as.foldlM exec s = some t) :
    Run (fun s a t => exec s a = some t) anyStep s t :=
  of_foldlM (fun _ _ _ hexec => ⟨trivial, hexec⟩) h

/-- Labels executed one after the other, each of which has been found to meet the condition. -/
theorem of_checked_exec [∀ s a, Decidable (ok s a)] {exec : S → A → Option S} {as : List A}
    (h : as.foldlM (fun s a => if ok s a then exec s a else none) s = some t) :
    Run (fun s a t => exec s a = some t) ok s t :=
  of_foldlM (fun _ _ _ hexec => Option.ite_none_right_eq_some.mp hexec) h

end Run

end ReactNativeSkia
