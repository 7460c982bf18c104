import Mathlib.Data.List.MinMax
import Mathlib.Data.List.Nodup
import Mathlib.Data.List.Lex

/-!
# Sets kept as sorted vectors

A new item goes behind everything that the comparator puts before it, unless an item that the
comparator takes for equal is there already. Where the comparator is the order of a key and the
keys of the items differ, nothing is lost, and the first item is the one with the least key in
whatever order the items came.
-/

namespace ReactNativeSkia

variable {α κ : Type*}

/-- The vector with `x` at its place, or as it is. -/
def sortedInsert (before : α → α → Bool) (x : α) : List α → List α
  | [] => [x]
  | y :: l =>
    if before y x then y :: sortedInsert before x l
    else if before x y then x :: y :: l
    else y :: l

/-- The vector after inserting the items one by one. -/
def sortedInsertAll (before : α → α → Bool) (items : List α) : List α :=
  items.foldl (fun set x => sortedInsert before x set) []

/-- The item kept so far, unless the next one comes before it. -/
def keepFirst (before : α → α → Bool) : Option α → α → Option α
  | none, x => some x
  | some y, x => if before x y then some x else some y

section
variable [LinearOrder κ]

/-- The comparator is the order of a key. -/
def ComparesBy (before : α → α → Bool) (key : α → κ) : Prop :=
  ∀ a b, before a b = true ↔ key a < key b

variable {before : α → α → Bool} {key : α → κ} {l l' items : List α} {x a b c m : α}

namespace ComparesBy

theorem irrefl (h : ComparesBy before key) (a : α) : before a a = false :=
  Bool.eq_false_iff.mpr fun ha => lt_irrefl _ ((h a a).mp ha)

theorem trans (h : ComparesBy before key) (hab : before a b = true) (hbc : before b c = true) :
    before a c = true :=
  (h a c).mpr (((h a b).mp hab).trans ((h b c).mp hbc))

/-- Of two items with different keys exactly one comes first. -/
theorem total (h : ComparesBy before key) (hne : key a ≠ key b) :
    before a b = true ↔ before b a = false := by
  rw [← Bool.not_eq_true, h a b, h b a]
  constructor
  · intro hab hba
    exact lt_asymm hab hba
  · intro hba
    exact lt_of_le_of_ne (not_lt.mp hba) hne

/-! ## Insertion -/

/-- An item whose key is new stays, and so does everything else. -/
theorem sortedInsert_perm (h : ComparesBy before key) (hx : key x ∉ l.map key) :
    (sortedInsert before x l).Perm (x :: l) := by
  induction l with
  | nil => exact List.Perm.refl _
  | cons y l ih =>
    rw [List.map_cons, List.mem_cons, not_or] at hx
    rw [sortedInsert]
    split
    · exact ((ih hx.2).cons y).trans (List.Perm.swap x y l)
    · rename_i hyx
      rw [if_pos ((h.total hx.1).mpr (Bool.eq_false_iff.mpr hyx))]

theorem mem_of_mem_sortedInsert (ha : a ∈ sortedInsert before x l) : a = x ∨ a ∈ l := by
  induction l with
  | nil => exact Or.inl (List.mem_singleton.mp ha)
  | cons y l ih =>
    rw [sortedInsert] at ha
    split at ha
    · rcases List.mem_cons.mp ha with rfl | ha
      · exact Or.inr List.mem_cons_self
      · exact (ih ha).imp_right (List.mem_cons_of_mem y)
    · split at ha
      · exact List.mem_cons.mp ha
      · exact Or.inr ha

theorem sortedInsert_pairwise (h : ComparesBy before key)
    (hl : l.Pairwise fun a b => key a < key b) :
    (sortedInsert before x l).Pairwise fun a b => key a < key b := by
  induction l with
  | nil => exact List.pairwise_singleton _ x
  | cons y l ih =>
    obtain ⟨hy, hl'⟩ := List.pairwise_cons.mp hl
    rw [sortedInsert]
    split
    · rename_i hyx
      refine List.pairwise_cons.mpr ⟨fun a ha => ?_, ih hl'⟩
      rcases mem_of_mem_sortedInsert ha with rfl | ha
      · exact (h y a).mp hyx
      · exact hy a ha
    · split
      · rename_i hxy
        refine List.pairwise_cons.mpr ⟨fun a ha => ?_, hl⟩
        have hlt := (h x y).mp hxy
        rcases List.mem_cons.mp ha with rfl | ha
        · exact hlt
        · exact hlt.trans (hy a ha)
      · exact hl

/-- The items so far and the items to come make up the vector in the end. -/
theorem foldl_sortedInsert_perm (h : ComparesBy before key) {set : List α}
    (hnodup : ((set ++ items).map key).Nodup) :
    (items.foldl (fun set x => sortedInsert before x set) set).Perm (set ++ items) := by
  induction items generalizing set with
  | nil => simp
  | cons x items ih =>
    have hmoved : (set ++ x :: items).Perm (x :: set ++ items) := List.perm_middle
    have hnodup' := ((hmoved.map key).nodup_iff).mp hnodup
    have hx : key x ∉ set.map key := by
      rw [List.cons_append, List.map_cons, List.nodup_cons, List.map_append,
        List.mem_append, not_or] at hnodup'
      exact hnodup'.1.1
    have hins := (h.sortedInsert_perm hx).append_right items
    rw [List.foldl_cons]
    refine (ih ?_).trans (hins.trans hmoved.symm)
    exact ((hins.map key).nodup_iff).mpr hnodup'

theorem sortedInsertAll_perm (h : ComparesBy before key) (hnodup : (items.map key).Nodup) :
    (sortedInsertAll before items).Perm items := by
  have hnodup' : (([] ++ items).map key).Nodup := hnodup
  exact h.foldl_sortedInsert_perm hnodup'

theorem sortedInsertAll_pairwise (h : ComparesBy before key) (items : List α) :
    (sortedInsertAll before items).Pairwise fun a b => key a < key b := by
  have hfold (set : List α) (hset : set.Pairwise fun a b => key a < key b) :
      (items.foldl (fun set x => sortedInsert before x set) set).Pairwise
        fun a b => key a < key b := by
    induction items generalizing set with
    | nil => exact hset
    | cons x items ih => exact ih _ (h.sortedInsert_pairwise hset)
  exact hfold [] List.Pairwise.nil

end ComparesBy

/-! ## The first item -/

/-- The item with the least key, the first one of several. -/
def leastBy (key : α → κ) (items : List α) : Option α := items.argmin key

theorem leastBy_eq_none : leastBy key items = none ↔ items = [] := List.argmin_eq_none

theorem leastBy_mem (h : leastBy key items = some m) : m ∈ items := List.argmin_mem h

theorem leastBy_le (h : leastBy key items = some m) (ha : a ∈ items) : key m ≤ key a :=
  List.le_of_mem_argmin ha h

/-- Where the keys differ, the least of them names one item. -/
theorem leastBy_eq_some_iff (hnodup : (items.map key).Nodup) :
    leastBy key items = some m ↔ m ∈ items ∧ ∀ a ∈ items, key m ≤ key a := by
  constructor
  · intro hm
    exact ⟨leastBy_mem hm, fun a ha => leastBy_le hm ha⟩
  · rintro ⟨hm, hle⟩
    cases hmin : leastBy key items with
    | none =>
      rw [leastBy_eq_none.mp hmin] at hm
      cases hm
    | some m' =>
      have hm' := leastBy_mem hmin
      have hkey : key m' = key m := le_antisymm (leastBy_le hmin hm) (hle m' hm')
      rw [List.inj_on_of_nodup_map hnodup hm' hm hkey]

theorem leastBy_perm (hnodup : (l.map key).Nodup) (hperm : l.Perm l') :
    leastBy key l' = leastBy key l := by
  have hnodup' := ((hperm.map key).nodup_iff).mp hnodup
  apply Option.ext
  intro m
  rw [leastBy_eq_some_iff hnodup', leastBy_eq_some_iff hnodup]
  simp only [hperm.mem_iff]

namespace ComparesBy

/-- A scan that keeps an item until one comes that is before it. -/
theorem foldl_keepFirst (h : ComparesBy before key) :
    items.foldl (keepFirst before) none = leastBy key items := by
  have hstep : keepFirst before = List.argAux fun a b => key a < key b := by
    funext item a
    cases item with
    | none => rfl
    | some b => simp only [keepFirst, List.argAux, h a b]
  rw [hstep]
  rfl

theorem head?_sortedInsertAll (h : ComparesBy before key) (hnodup : (items.map key).Nodup) :
    (sortedInsertAll before items).head? = leastBy key items := by
  have hperm := h.sortedInsertAll_perm hnodup
  have hnodup' := ((hperm.map key).nodup_iff).mpr hnodup
  have hsorted := h.sortedInsertAll_pairwise items
  rw [leastBy_perm hnodup' hperm]
  cases hset : sortedInsertAll before items with
  | nil => rfl
  | cons m set =>
    rw [hset] at hsorted hnodup'
    refine ((leastBy_eq_some_iff hnodup').mpr ⟨List.mem_cons_self, fun a ha => ?_⟩).symm
    rcases List.mem_cons.mp ha with rfl | ha
    · exact le_rfl
    · exact ((List.pairwise_cons.mp hsorted).1 a ha).le

end ComparesBy

end

end ReactNativeSkia
