import ReactNativeSkia.Compositor.Layers.Proofs.Damage

/-!
# The damage list has no redundant rectangle

`Layer::addDamageRect` erases while it iterates, gives up the search for a covering rectangle
at the first erasure and may return early. On a list whose rectangles do not contain each
other it does something simpler: the list stays if one of its rectangles contains the new one;
otherwise the rectangles within the new one go and the new one is put at the end. In both
cases no rectangle contains another one again.
-/

namespace ReactNativeSkia

open Rect

/-- No non-empty rectangle of the list has all its pixels in another one, an equal rectangle
elsewhere in the list included. -/
def Irredundant (ds : FrameDamages) : Prop :=
  ∀ (i j : Nat) (hi : i < ds.length) (hj : j < ds.length), i ≠ j → ds[i].isEmpty = false →
    ¬ ∀ q : Pixel, q ∈ ds[i] → q ∈ ds[j]

/-- Neither rectangle contains the other, in the sense of `SkIRect::contains`. -/
def Apart (a b : SkIRect) : Prop := a.contains b = false ∧ b.contains a = false

theorem not_forall_mem_of_contains_eq_false {a b : SkIRect} (hb : b.isEmpty = false)
    (h : a.contains b = false) : ¬ ∀ q : Pixel, q ∈ b → q ∈ a := by
  rw [← contains_iff_forall_mem hb, h]
  simp

theorem irredundant_of_pairwise {ds : FrameDamages} (h : ds.Pairwise Apart) :
    Irredundant ds := by
  intro i j hi hj hij hne
  rw [List.pairwise_iff_getElem] at h
  apply not_forall_mem_of_contains_eq_false hne
  rcases Nat.lt_or_gt_of_ne hij with hlt | hgt
  · exact (h i j hi hj hlt).2
  · exact (h j i hj hi hgt).1

/-! ## What one call does -/

/-- The rectangles Check 1 leaves in the list. -/
def uncovered (r : SkIRect) (ds : FrameDamages) : FrameDamages :=
  ds.filter fun d => !r.contains d

theorem uncovered_cons (r d : SkIRect) (ds : FrameDamages) :
    uncovered r (d :: ds) =
      if r.contains d then uncovered r ds else d :: uncovered r ds := by
  cases hd : r.contains d <;> simp [uncovered, hd]

/-- After the first erasure only Check 1 is left; a list without the new rectangle loses
every rectangle within it. -/
theorem addDamageRectFrom_false {r : SkIRect} {ds : FrameDamages} (hr : r ∉ ds) :
    addDamageRectFrom r false ds = uncovered r ds ++ [r] := by
  induction ds with
  | nil => rfl
  | cons d ds ih =>
    rw [List.mem_cons, not_or] at hr
    rw [addDamageRectFrom, uncovered_cons, ih hr.2]
    cases hd : r.contains d with
    | true => simp [hr.1]
    | false => simp

/-- Nothing that contains the new rectangle is left of a list from which it erases one: it
would contain the erased rectangle as well. -/
theorem contains_eq_false_of_erased {r d : SkIRect} {ds : FrameDamages}
    (h : (d :: ds).Pairwise Apart) (hne : r ≠ d) (hd : r.contains d = true) :
    ∀ e ∈ d :: ds, e.contains r = false := by
  intro e he
  rw [List.pairwise_cons] at h
  by_contra her
  rw [Bool.not_eq_false] at her
  rcases List.mem_cons.mp he with rfl | he
  · exact hne (contains_antisymm hd her)
  · have hapart : d.contains e = false ∧ e.contains d = false := h.1 e he
    rw [contains_trans her hd] at hapart
    cases hapart.2

theorem not_mem_of_contains_eq_false {r : SkIRect} {ds : FrameDamages}
    (hself : r.contains r = true) (h : ∀ e ∈ ds, e.contains r = false) : r ∉ ds := by
  intro hr
  rw [h r hr] at hself
  cases hself

/-- A list with a rectangle that contains the new one stays as it is. -/
theorem addDamageRect_of_covered {r : SkIRect} {ds : FrameDamages} (h : ds.Pairwise Apart)
    (hc : ∃ d ∈ ds, d.contains r = true) : addDamageRect ds r = ds := by
  unfold addDamageRect
  induction ds with
  | nil => simp at hc
  | cons d ds ih =>
    unfold addDamageRectFrom
    split
    · -- Check 1 does not erase here
      rename_i hd
      obtain ⟨e, he, her⟩ := hc
      rw [contains_eq_false_of_erased h hd.1 hd.2 e he] at her
      cases her
    · split
      · rfl
      · rename_i hd
        rw [Bool.true_and] at hd
        obtain ⟨e, he, her⟩ := hc
        rcases List.mem_cons.mp he with rfl | he
        · exact absurd her hd
        · rw [ih (List.pairwise_cons.mp h).2 ⟨e, he, her⟩]

/-- A list without such a rectangle gives way to the new one. -/
theorem addDamageRect_of_not_covered {r : SkIRect} {ds : FrameDamages} (h : ds.Pairwise Apart)
    (hc : ∀ d ∈ ds, d.contains r = false) : addDamageRect ds r = uncovered r ds ++ [r] := by
  unfold addDamageRect
  induction ds with
  | nil => rfl
  | cons d ds ih =>
    have hrest : ∀ e ∈ ds, e.contains r = false := fun e he => hc e (List.mem_cons_of_mem d he)
    unfold addDamageRectFrom
    split
    · rename_i hd
      have hself : r.contains r = true := contains_self_of_contains hd.2
      rw [addDamageRectFrom_false (not_mem_of_contains_eq_false hself hrest)]
      simp [uncovered_cons, hd.2]
    · rename_i hd
      have hrd : r.contains d = false := by
        by_contra hrd
        rw [Bool.not_eq_false] at hrd
        have heq : r = d := by
          by_contra hne
          exact hd ⟨hne, hrd⟩
        have hdr := hc d List.mem_cons_self
        rw [← heq, contains_self_of_contains hrd] at hdr
        cases hdr
      rw [hc d List.mem_cons_self, Bool.and_false, if_neg (by simp),
        ih (List.pairwise_cons.mp h).2 hrest]
      simp [uncovered_cons, hrd]

theorem pairwise_uncovered_append {r : SkIRect} {ds : FrameDamages} (h : ds.Pairwise Apart)
    (hc : ∀ d ∈ ds, d.contains r = false) : (uncovered r ds ++ [r]).Pairwise Apart := by
  rw [List.pairwise_append]
  refine ⟨h.filter _, List.pairwise_singleton _ _, ?_⟩
  intro d hd e he
  obtain ⟨hmem, hrd⟩ := List.mem_filter.mp hd
  rw [List.mem_singleton.mp he]
  exact ⟨hc d hmem, by simpa using hrd⟩

/-- One call keeps the rectangles of the list apart. -/
theorem pairwise_addDamageRect {ds : FrameDamages} (r : SkIRect) (h : ds.Pairwise Apart) :
    (addDamageRect ds r).Pairwise Apart := by
  by_cases hc : ∃ d ∈ ds, d.contains r = true
  · rwa [addDamageRect_of_covered h hc]
  · have hc' : ∀ d ∈ ds, d.contains r = false := by
      intro d hd
      by_contra hdr
      exact hc ⟨d, hd, by simpa using hdr⟩
    rw [addDamageRect_of_not_covered h hc']
    exact pairwise_uncovered_append h hc'

/-- And so do any number of calls. -/
theorem pairwise_foldl_addDamageRect (rs : List SkIRect) {ds : FrameDamages}
    (h : ds.Pairwise Apart) : (rs.foldl addDamageRect ds).Pairwise Apart := by
  induction rs generalizing ds with
  | nil => exact h
  | cons r rs ih => exact ih (pairwise_addDamageRect r h)

/-! ## Every sequence of rectangles -/

/-- The list made of any rectangles covers exactly their pixels, and none of its non-empty
rectangles lies within another one. -/
theorem damageList_exact_irredundant (rs : List SkIRect) :
    (∀ q : Pixel, Covered (rs.foldl addDamageRect []) q ↔ ∃ r ∈ rs, q ∈ r) ∧
      Irredundant (rs.foldl addDamageRect []) := by
  constructor
  · intro q
    rw [covered_foldl_addDamageRect]
    simp [Covered]
  · exact irredundant_of_pairwise (pairwise_foldl_addDamageRect rs List.Pairwise.nil)

end ReactNativeSkia
