import Mathlib.Data.List.Basic

/-!
# Texts with a cursor

The text before the cursor and the text after it, both in reading order. An editor inserts and
deletes at the end of the first and moves one character between the two.
-/

namespace ReactNativeSkia

/-- A text and a place in it. -/
structure TextZipper (α : Type*) where
  before : List α
  after : List α
  deriving DecidableEq, Repr

namespace TextZipper

variable {α : Type*} {z : TextZipper α} {l r : List α} {c : α}

def text (z : TextZipper α) : List α := z.before ++ z.after

def cursor (z : TextZipper α) : Nat := z.before.length

/-- The text with the cursor at its end. -/
def atEnd (text : List α) : TextZipper α := ⟨text, []⟩

def insert (z : TextZipper α) (new : List α) : TextZipper α := ⟨z.before ++ new, z.after⟩

/-- An insertion that pushes as much out at the end of the text. -/
def overtype (z : TextZipper α) (new : List α) : TextZipper α :=
  ⟨z.before, (new ++ z.after).take z.after.length⟩

def backspace (z : TextZipper α) : TextZipper α := ⟨z.before.dropLast, z.after⟩

def left (z : TextZipper α) : TextZipper α :=
  match z.before.getLast? with
  | some c => ⟨z.before.dropLast, c :: z.after⟩
  | none => z

def right (z : TextZipper α) : TextZipper α :=
  match z.after with
  | c :: after => ⟨z.before ++ [c], after⟩
  | [] => z

/-- The cursor is at the start, or there is a last character before it. -/
theorem start_or_concat (z : TextZipper α) :
    z.before = [] ∨ ∃ l c, z = ⟨l ++ [c], z.after⟩ := by
  rcases List.eq_nil_or_concat' z.before with hnil | ⟨l, c, hconcat⟩
  · exact Or.inl hnil
  · refine Or.inr ⟨l, c, ?_⟩
    rw [← hconcat]

@[simp] theorem left_concat : (⟨l ++ [c], r⟩ : TextZipper α).left = ⟨l, c :: r⟩ := by
  simp [left]

@[simp] theorem backspace_concat : (⟨l ++ [c], r⟩ : TextZipper α).backspace = ⟨l, r⟩ := by
  simp [backspace]

@[simp] theorem atEnd_text : (atEnd l).text = l := List.append_nil l

theorem length_text (z : TextZipper α) : z.text.length = z.cursor + z.after.length :=
  List.length_append

theorem take_cursor (z : TextZipper α) : z.text.take z.cursor = z.before :=
  List.take_left

theorem drop_cursor (z : TextZipper α) : z.text.drop z.cursor = z.after :=
  List.drop_left

/-- To move the cursor changes no text. -/
theorem left_text (z : TextZipper α) : z.left.text = z.text := by
  rcases z.start_or_concat with hnil | ⟨l, c, hz⟩
  · rw [left, hnil]
    rfl
  · rw [hz, left_concat]
    exact (List.append_assoc l [c] z.after).symm

theorem right_text (z : TextZipper α) : z.right.text = z.text := by
  obtain ⟨l, r⟩ := z
  cases r with
  | nil => rfl
  | cons c r => exact List.append_assoc l [c] r

/-- An insertion is one at the index of the cursor. -/
theorem insert_text (z : TextZipper α) (new : List α) :
    (z.insert new).text = z.text.take z.cursor ++ new ++ z.text.drop z.cursor := by
  rw [take_cursor, drop_cursor]
  rfl

theorem length_insert (z : TextZipper α) (new : List α) :
    (z.insert new).text.length = z.text.length + new.length := by
  simp only [text, insert, List.length_append]
  omega

theorem overtype_text (z : TextZipper α) (new : List α) :
    (z.overtype new).text = (z.insert new).text.take z.text.length := by
  have hbefore : z.before.take (z.before.length + z.after.length) = z.before :=
    List.take_of_length_le (Nat.le_add_right _ _)
  simp only [text, overtype, insert, List.append_assoc, List.length_append, List.take_append,
    hbefore, Nat.add_sub_cancel_left]

theorem length_overtype_after (z : TextZipper α) (new : List α) :
    (z.overtype new).after.length = z.after.length := by
  simp only [overtype, List.length_take, List.length_append]
  omega

/-- One character pushes out the last one. -/
theorem overtype_singleton (z : TextZipper α) (c : α) :
    z.overtype [c] = ⟨z.before, (c :: z.after).dropLast⟩ := by
  rw [overtype, List.singleton_append, List.dropLast_eq_take]
  rfl

theorem dropLast_cons_eq_self_iff (c : α) (l : List α) :
    (c :: l).dropLast = l ↔ ∀ d ∈ l, d = c := by
  induction l generalizing c with
  | nil => simp
  | cons d l ih =>
    rw [List.dropLast_cons_cons, List.cons.injEq, ih, List.forall_mem_cons]
    constructor
    · rintro ⟨rfl, hl⟩
      exact ⟨rfl, hl⟩
    · rintro ⟨rfl, hl⟩
      exact ⟨rfl, hl⟩

/-- Nothing is seen of that if the text behind the cursor repeats the character. -/
theorem overtype_singleton_text_iff (z : TextZipper α) (c : α) :
    (z.overtype [c]).text = z.text ↔ ∀ d ∈ z.after, d = c := by
  rw [overtype_singleton, text, text, List.append_cancel_left_eq, dropLast_cons_eq_self_iff]

theorem backspace_of_start (hstart : z.before = []) : z.backspace = z := by
  rw [backspace, hstart, List.dropLast_nil, ← hstart]

theorem length_backspace (hne : z.before ≠ []) :
    z.backspace.text.length + 1 = z.text.length := by
  obtain ⟨l, c, hz⟩ := z.start_or_concat.resolve_left hne
  rw [hz, backspace_concat]
  simp only [text, List.length_append, List.length_cons, List.length_nil]
  omega

/-- A deletion is one at the index before the cursor. -/
theorem backspace_text : (⟨l ++ [c], r⟩ : TextZipper α).backspace.text =
    (⟨l ++ [c], r⟩ : TextZipper α).text.eraseIdx l.length := by
  rw [backspace_concat, text, text, List.append_assoc,
    List.eraseIdx_append_of_length_le (Nat.le_refl l.length), Nat.sub_self]
  rfl

end TextZipper

end ReactNativeSkia
