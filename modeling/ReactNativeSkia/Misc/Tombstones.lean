import Mathlib.Data.List.Basic
import Mathlib.Data.List.Nodup

/-!
# Lists whose removed entries stay behind

`live gone l` is `l` without the entries that are gone. Two lists that are edited alike, one
of which keeps its removed entries, have the same live entries; an insertion at one index
into both keeps this exactly if the live entries before the index are the same.
-/

namespace ReactNativeSkia

variable {α : Type*} {gone l k : List α} {a b : α} {i : Nat}

theorem insertIdx_eq_take_append (hi : i ≤ l.length) :
    l.insertIdx i a = l.take i ++ a :: l.drop i := by
  induction l generalizing i with
  | nil =>
    obtain rfl : i = 0 := Nat.le_zero.mp hi
    rfl
  | cons b l ih =>
    cases i with
    | zero => rfl
    | succ i =>
      rw [List.insertIdx_succ_cons, ih (Nat.le_of_succ_le_succ hi)]
      rfl

variable [DecidableEq α]

def live (gone l : List α) : List α := l.filter fun a => decide (a ∉ gone)

theorem mem_live : a ∈ live gone l ↔ a ∈ l ∧ a ∉ gone := by simp [live]

theorem live_append (gone l k : List α) : live gone (l ++ k) = live gone l ++ live gone k :=
  List.filter_append ..

theorem live_cons_of_mem (ha : a ∈ gone) : live gone (a :: l) = live gone l := by
  simp [live, ha]

theorem live_cons_of_not_mem (ha : a ∉ gone) : live gone (a :: l) = a :: live gone l := by
  simp [live, ha]

theorem live_eq_self (h : ∀ a ∈ l, a ∉ gone) : live gone l = l :=
  List.filter_eq_self.mpr fun a ha => by simpa using h a ha

theorem live_take_append_drop (gone l : List α) (i : Nat) :
    live gone (l.take i) ++ live gone (l.drop i) = live gone l := by
  rw [← live_append, List.take_append_drop]

theorem live_insertIdx_of_mem (ha : a ∈ gone) (hi : i ≤ l.length) :
    live gone (l.insertIdx i a) = live gone l := by
  rw [insertIdx_eq_take_append hi, live_append, live_cons_of_mem ha, live_take_append_drop]

theorem live_erase_of_mem (ha : a ∈ gone) : live gone (l.erase a) = live gone l := by
  induction l with
  | nil => rfl
  | cons b l ih =>
    by_cases hb : b = a
    · subst hb
      rw [List.erase_cons_head, live_cons_of_mem ha]
    · rw [List.erase_cons_tail (by simpa using hb)]
      by_cases hgone : b ∈ gone
      · rw [live_cons_of_mem hgone, live_cons_of_mem hgone, ih]
      · rw [live_cons_of_not_mem hgone, live_cons_of_not_mem hgone, ih]

theorem live_insertIdx_of_not_mem (ha : a ∉ gone) (hi : i ≤ l.length) :
    live gone (l.insertIdx i a) = live gone (l.take i) ++ a :: live gone (l.drop i) := by
  rw [insertIdx_eq_take_append hi, live_append, live_cons_of_not_mem ha]

/-- A new entry put at one index into both lists. -/
theorem live_insertIdx_eq_iff (ha : a ∉ gone) (hl : a ∉ l) (hil : i ≤ l.length)
    (hik : i ≤ k.length) :
    live gone (l.insertIdx i a) = live gone (k.insertIdx i a) ↔
      live gone l = live gone k ∧ live gone (l.take i) = live gone (k.take i) := by
  have hnot : ∀ {m : List α}, m.Sublist l → a ∉ live gone m := fun hm hmem =>
    hl (hm.subset (mem_live.mp hmem).1)
  rw [live_insertIdx_of_not_mem ha hil, live_insertIdx_of_not_mem ha hik,
    List.append_cons_inj_of_notMem (hnot (List.take_sublist i l)) (hnot (List.drop_sublist i l)),
    ← live_take_append_drop gone l i, ← live_take_append_drop gone k i]
  constructor
  · rintro ⟨htake, -, hdrop⟩
    exact ⟨by rw [htake, hdrop], htake⟩
  · rintro ⟨hall, htake⟩
    rw [htake] at hall
    exact ⟨htake, rfl, List.append_cancel_left hall⟩

/-- An entry that is gone may be erased. -/
theorem live_eraseIdx_of_mem (hi : l[i]? = some a) (ha : a ∈ gone) :
    live gone (l.eraseIdx i) = live gone l := by
  obtain ⟨hlt, hget⟩ := List.getElem?_eq_some_iff.mp hi
  have hdrop : l.drop i = a :: l.drop (i + 1) := by rw [List.drop_eq_getElem_cons hlt, hget]
  rw [List.eraseIdx_eq_take_drop_succ, live_append, ← live_take_append_drop gone l i, hdrop,
    live_cons_of_mem ha]

theorem mem_eraseIdx_of_nodup (hl : l.Nodup) (hi : l[i]? = some a) :
    b ∈ l.eraseIdx i ↔ b ∈ l ∧ b ≠ a := by
  obtain ⟨hlt, rfl⟩ := List.getElem?_eq_some_iff.mp hi
  rw [← List.Nodup.erase_getElem hl i hlt, hl.mem_erase_iff, and_comm]

end ReactNativeSkia
