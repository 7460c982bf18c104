import Mathlib.Data.List.Basic

/-!
# Lists

An entry that is replaced changes a count by itself alone, one that is the only one of its kind is
found, and erasing by a predicate is erasing the entry it stands for. Lists of lists keep their
shape if every row keeps its length.
-/

namespace ReactNativeSkia

section
variable {α : Type*} {p : α → Bool} {l : List α} {a : α} {i : Nat}

theorem countP_set_add (hi : l[i]? = some a) (b : α) (p : α → Bool) :
    (l.set i b).countP p + (if p a then 1 else 0) = l.countP p + if p b then 1 else 0 := by
  obtain ⟨hlt, heq⟩ := List.getElem?_eq_some_iff.mp hi
  have hle := List.boole_getElem_le_countP (p := p) hlt
  have hset := List.countP_set (p := p) (a := b) hlt
  rw [heq] at hle hset
  omega

theorem find?_eq_of_unique (hmem : a ∈ l) (ha : p a = true)
    (hunique : ∀ b ∈ l, p b = true → b = a) : l.find? p = some a := by
  cases hfind : l.find? p with
  | none => exact absurd ha (by simpa using List.find?_eq_none.mp hfind a hmem)
  | some b => rw [hunique b (List.mem_of_find?_eq_some hfind) (List.find?_some hfind)]

theorem eraseP_eq_erase [DecidableEq α] (h : ∀ b ∈ l, p b = (b == a)) :
    l.eraseP p = l.erase a := by
  induction l with
  | nil => rfl
  | cons b l ih =>
    rw [List.eraseP_cons, List.erase_cons, h b List.mem_cons_self,
      ih fun b hmem => h b (List.mem_cons_of_mem _ hmem)]
    cases b == a <;> rfl

end

theorem forM_eq_some {α : Type} {f : α → Option Unit} {l : List α} :
    l.forM f = some () ↔ ∀ a ∈ l, f a = some () := by
  induction l with
  | nil => simp
  | cons a l ih =>
    rw [List.forall_mem_cons, ← ih]
    show ((f a).bind fun _ => l.forM f) = some () ↔ _
    cases f a with
    | none => simp
    | some u => simp

section
variable {α β : Type} {rows : List (List α)}

theorem map_length_mapIdx {f : Nat → List α → List β}
    (h : ∀ i row, rows[i]? = some row → (f i row).length = row.length) :
    (rows.mapIdx f).map List.length = rows.map List.length := by
  refine List.ext_getElem? fun i => ?_
  simp only [List.getElem?_map, List.getElem?_mapIdx, Option.map_map]
  cases hrow : rows[i]? with
  | none => rfl
  | some row => exact congrArg some (h i row hrow)

theorem length_getD_of_map_length {others : List (List β)}
    (h : rows.map List.length = others.map List.length) (i : Nat) :
    (rows.getD i []).length = (others.getD i []).length := by
  have hlength {γ : Type} (rows : List (List γ)) :
      (rows.getD i []).length = (rows.map List.length).getD i 0 := by
    simp only [List.getD_eq_getElem?_getD, List.getElem?_map]
    cases rows[i]? with
    | none => rfl
    | some row => rfl
  rw [hlength, hlength, h]

end

end ReactNativeSkia
