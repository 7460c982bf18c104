import Mathlib.Data.List.Nodup

/-!
# Maps from keys to lists

An association list whose values are lists. A value is pushed at the end of the list of its key,
and erased wherever it is met first; a key whose list becomes empty leaves the map.
-/

namespace ReactNativeSkia

namespace ListMap

variable {κ α : Type*} {map : List (κ × List α)} {key key' : κ}

/-- No key has two entries. -/
def Keyed (map : List (κ × List α)) : Prop := (map.map Prod.fst).Nodup

section
variable [DecidableEq κ]

def find (key : κ) : List (κ × List α) → Option (List α)
  | [] => none
  | (k, values) :: map => if k = key then some values else find key map

/-- The list of a key, empty if the key is not in the map. -/
def values (map : List (κ × List α)) (key : κ) : List α := (find key map).getD []

def push (key : κ) (value : α) : List (κ × List α) → List (κ × List α)
  | [] => [(key, [value])]
  | (k, values) :: map =>
    if k = key then (k, values ++ [value]) :: map else (k, values) :: push key value map

variable {value : α}

theorem values_cons_self (key : κ) (vs : List α) (map : List (κ × List α)) :
    values ((key, vs) :: map) key = vs := by
  unfold values find
  rw [if_pos rfl]
  rfl

theorem values_cons_ne (h : key' ≠ key) (vs : List α) (map : List (κ × List α)) :
    values ((key', vs) :: map) key = values map key := by
  unfold values
  rw [find, if_neg h]

theorem values_of_not_mem (h : key ∉ map.map Prod.fst) : values map key = [] := by
  induction map with
  | nil => rfl
  | cons entry map ih =>
    rw [List.map_cons, List.mem_cons, not_or] at h
    rw [values_cons_ne (Ne.symm h.1)]
    exact ih h.2

theorem values_push_self (map : List (κ × List α)) (key : κ) (value : α) :
    values (push key value map) key = values map key ++ [value] := by
  induction map with
  | nil => exact values_cons_self _ _ _
  | cons entry map ih =>
    unfold push
    by_cases hk : entry.1 = key
    · subst hk
      rw [if_pos rfl, values_cons_self, values_cons_self]
    · rw [if_neg hk, values_cons_ne hk, values_cons_ne hk]
      exact ih

theorem values_push_ne (h : key' ≠ key) (map : List (κ × List α)) (value : α) :
    values (push key' value map) key = values map key := by
  induction map with
  | nil => exact values_cons_ne h _ _
  | cons entry map ih =>
    unfold push
    by_cases hk : entry.1 = key'
    · rw [if_pos hk, values_cons_ne (hk ▸ h), values_cons_ne (hk ▸ h)]
    · rw [if_neg hk]
      by_cases hk' : entry.1 = key
      · rw [← hk', values_cons_self, values_cons_self]
      · rw [values_cons_ne hk', values_cons_ne hk']
        exact ih

theorem mem_keys_push {k : κ} (h : k ∈ (push key value map).map Prod.fst) :
    k = key ∨ k ∈ map.map Prod.fst := by
  induction map with
  | nil => exact Or.inl (List.mem_singleton.mp h)
  | cons entry map ih =>
    unfold push at h
    split at h
    · exact Or.inr h
    · rcases List.mem_cons.mp h with heq | h
      · exact Or.inr (List.mem_cons.mpr (Or.inl heq))
      · exact (ih h).imp_right (List.mem_cons_of_mem _)

theorem Keyed.push (h : Keyed map) (key : κ) (value : α) : Keyed (push key value map) := by
  induction map with
  | nil => exact List.nodup_singleton _
  | cons entry map ih =>
    obtain ⟨hnot, hmap⟩ := List.nodup_cons.mp h
    unfold ListMap.push
    split
    · exact h
    · rename_i hk
      refine List.nodup_cons.mpr ⟨fun hin => ?_, ih hmap⟩
      exact (mem_keys_push hin).elim hk hnot

end

section
variable [DecidableEq α]

def erase (value : α) : List (κ × List α) → List (κ × List α)
  | [] => []
  | (k, values) :: map =>
    if value ∈ values then
      if values.erase value = [] then map else (k, values.erase value) :: map
    else (k, values) :: erase value map

theorem keys_erase_sublist (value : α) (map : List (κ × List α)) :
    ((erase value map).map Prod.fst).Sublist (map.map Prod.fst) := by
  induction map with
  | nil => exact List.Sublist.refl _
  | cons entry map ih =>
    unfold erase
    split
    · split
      · exact List.sublist_cons_self _ _
      · exact List.Sublist.refl _
    · exact ih.cons_cons _

theorem Keyed.erase (h : Keyed map) (value : α) : Keyed (erase value map) :=
  List.Nodup.sublist (keys_erase_sublist value map) h

/-- A value that is under one key at most is erased from its list. -/
theorem values_erase [DecidableEq κ] {value : α} (h : Keyed map)
    (hone : ∀ k k', value ∈ values map k → value ∈ values map k' → k = k') (key : κ) :
    values (erase value map) key = (values map key).erase value := by
  induction map with
  | nil => rfl
  | cons entry map ih =>
    obtain ⟨k, vs⟩ := entry
    obtain ⟨hnot, hmap⟩ := List.nodup_cons.mp h
    unfold erase
    by_cases hin : value ∈ vs
    · rw [if_pos hin]
      have hk : value ∈ values ((k, vs) :: map) k := by rwa [values_cons_self]
      by_cases hkey : k = key
      · subst hkey
        rw [values_cons_self]
        split
        · rename_i hempty
          rw [hempty]
          exact values_of_not_mem hnot
        · exact values_cons_self _ _ _
      · have hother : value ∉ values ((k, vs) :: map) key := fun hin' => hkey (hone _ _ hk hin')
        rw [List.erase_of_not_mem hother, values_cons_ne hkey]
        split
        · rfl
        · exact values_cons_ne hkey _ _
    · rw [if_neg hin]
      by_cases hkey : k = key
      · subst hkey
        rw [values_cons_self, values_cons_self, List.erase_of_not_mem hin]
      · rw [values_cons_ne hkey, values_cons_ne hkey]
        refine ih hmap fun k₁ k₂ h₁ h₂ => ?_
        have hlift {k' : κ} (h' : value ∈ values map k') : value ∈ values ((k, vs) :: map) k' := by
          rw [values_cons_ne]
          · exact h'
          · rintro rfl
            rw [values_of_not_mem hnot] at h'
            cases h'
        exact hone _ _ (hlift h₁) (hlift h₂)

end

end ListMap

end ReactNativeSkia
