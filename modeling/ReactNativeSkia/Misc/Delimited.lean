import Mathlib.Data.List.Basic
import Mathlib.Data.List.TakeWhile

/-!
# Parts behind a delimiter

A list in front of the first delimiter, and the part behind it, which may be missing together with
the delimiter.
-/

namespace ReactNativeSkia

variable {α : Type*} {d : α} {front front' rest : List α} {part part' : Option (List α)}

/-- A part with its delimiter in front. -/
def delimited (d : α) : Option (List α) → List α
  | none => []
  | some part => d :: part

theorem delimited_injective (h : delimited d part = delimited d part') : part = part' := by
  cases part with
  | none =>
    cases part' with
    | none => rfl
    | some q => cases h
  | some p =>
    cases part' with
    | none => cases h
    | some q =>
      simp only [delimited, List.cons.injEq, true_and] at h
      rw [h]

/-- A pattern that begins with the delimiter is not found in front of it. -/
theorem infix_append_iff_of_notMem {pattern : List α} (h : d ∉ front) :
    d :: pattern <:+: front ++ rest ↔ d :: pattern <:+: rest := by
  induction front with
  | nil => rfl
  | cons c front ih =>
    rw [List.mem_cons, not_or] at h
    rw [List.cons_append, List.infix_cons_iff, ih h.2, List.cons_prefix_cons]
    constructor
    · intro hor
      rcases hor with hprefix | hinfix
      · exact absurd hprefix.1 h.1
      · exact hinfix
    · intro hinfix
      exact .inr hinfix

variable [DecidableEq α]

theorem takeWhile_append_delimited (h : d ∉ front) :
    (front ++ delimited d part).takeWhile (· ≠ d) = front := by
  have hpos : ∀ c ∈ front, decide (c ≠ d) = true := by
    intro c hc
    exact decide_eq_true fun heq => h (heq ▸ hc)
  rw [List.takeWhile_append_of_pos hpos]
  cases part with
  | none => simp [delimited]
  | some p => simp [delimited]

theorem dropWhile_append_delimited (h : d ∉ front) :
    (front ++ delimited d part).dropWhile (· ≠ d) = delimited d part := by
  have hpos : ∀ c ∈ front, decide (c ≠ d) = true := by
    intro c hc
    exact decide_eq_true fun heq => h (heq ▸ hc)
  rw [List.dropWhile_append_of_pos hpos]
  cases part with
  | none => simp [delimited]
  | some p => simp [delimited]

/-- Whatever is in front of the first delimiter, it and the part behind are determined. -/
theorem append_delimited_inj (h : d ∉ front) (h' : d ∉ front')
    (heq : front ++ delimited d part = front' ++ delimited d part') :
    front = front' ∧ part = part' := by
  constructor
  · rw [← takeWhile_append_delimited h, heq, takeWhile_append_delimited h']
  · apply delimited_injective
    rw [← dropWhile_append_delimited h, heq, dropWhile_append_delimited h']

theorem idxOf_append_cons (h : d ∉ front) : (front ++ d :: rest).idxOf d = front.length := by
  rw [List.idxOf_append_of_notMem h, List.idxOf_cons_self, Nat.add_zero]

theorem drop_idxOf_append_cons (h : d ∉ front) (n : Nat) :
    (front ++ d :: rest).drop ((front ++ d :: rest).idxOf d + n) = (d :: rest).drop n := by
  rw [idxOf_append_cons h, List.drop_append]
  simp

theorem take_idxOf_append_cons (h : d ∉ front) :
    (front ++ d :: rest).take ((front ++ d :: rest).idxOf d) = front := by
  rw [idxOf_append_cons h, List.take_left']
  rfl

end ReactNativeSkia
