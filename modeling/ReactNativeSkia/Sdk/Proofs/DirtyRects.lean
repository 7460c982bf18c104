import ReactNativeSkia.Compositor.Layers.Proofs.DamageList
import ReactNativeSkia.Sdk.WindowDelegator

/-!
# The two damage collectors

`WindowDelegator::generateDirtyRect` tests whether the new rectangle is covered before it erases
and stops at the first rectangle that covers it. `Layer::addDamageRect` erases first and gives up
the search for a covering rectangle at the first erasure. On a list whose rectangles do not contain
each other, which is the only kind either of them makes of non-empty rectangles, they do the same.
-/

namespace ReactNativeSkia

open Rect

namespace WindowDelegator

/-- The test for an equal rectangle adds nothing for a rectangle with pixels. -/
theorem eq_or_contains_iff {r d : SkIRect} (hr : r.isEmpty = false) :
    (d = r ∨ d.contains r = true) ↔ d.contains r = true := by
  constructor
  · intro h
    rcases h with rfl | h
    · exact contains_self hr
    · exact h
  · intro h
    exact .inr h

theorem generateRect_cons {r d : SkIRect} (hr : r.isEmpty = false) (ds : FrameDamages) :
    generateRect r (d :: ds) =
      if d.contains r = true then d :: ds
      else if r.contains d = true then generateRect r ds else d :: generateRect r ds := by
  simp only [generateRect, eq_or_contains_iff hr]

/-- A list with a rectangle that contains the new one stays as it is: nothing in front of that
rectangle is within the new one. -/
theorem generateRect_of_covered {r : SkIRect} (hr : r.isEmpty = false) {ds : FrameDamages}
    (h : ds.Pairwise Apart) (hc : ∃ d ∈ ds, d.contains r = true) : generateRect r ds = ds := by
  induction ds with
  | nil => simp at hc
  | cons d ds ih =>
    rw [generateRect_cons hr]
    by_cases hdr : d.contains r = true
    · rw [if_pos hdr]
    · obtain ⟨e, he, her⟩ := hc
      have hrd : ¬ r.contains d = true := by
        intro hrd
        have hne : r ≠ d := by
          intro heq
          rw [← heq] at hdr
          exact hdr (contains_self hr)
        rw [contains_eq_false_of_erased h hne hrd e he] at her
        cases her
      have hmem : e ∈ ds := by
        rcases List.mem_cons.mp he with rfl | he
        · exact absurd her hdr
        · exact he
      rw [if_neg hdr, if_neg hrd, ih (List.pairwise_cons.mp h).2 ⟨e, hmem, her⟩]

/-- Any other list gives way to the new rectangle, whatever its rectangles are. -/
theorem generateRect_of_not_covered {r : SkIRect} (hr : r.isEmpty = false) {ds : FrameDamages}
    (hc : ∀ d ∈ ds, d.contains r = false) : generateRect r ds = uncovered r ds ++ [r] := by
  induction ds with
  | nil => rfl
  | cons d ds ih =>
    have hdr : ¬ d.contains r = true := by
      rw [hc d List.mem_cons_self]
      simp
    have hrest : ∀ e ∈ ds, e.contains r = false := fun e he => hc e (List.mem_cons_of_mem d he)
    rw [generateRect_cons hr, if_neg hdr, uncovered_cons, ih hrest]
    split <;> rfl

/-- One turn of either collector on rectangles that are apart. -/
theorem generateRect_eq_addDamageRect {r : SkIRect} (hr : r.isEmpty = false) {ds : FrameDamages}
    (h : ds.Pairwise Apart) : generateRect r ds = addDamageRect ds r := by
  by_cases hc : ∃ d ∈ ds, d.contains r = true
  · rw [generateRect_of_covered hr h hc, addDamageRect_of_covered h hc]
  · have hc' : ∀ d ∈ ds, d.contains r = false := by
      intro d hd
      by_contra hdr
      exact hc ⟨d, hd, by simpa using hdr⟩
    rw [generateRect_of_not_covered hr hc', addDamageRect_of_not_covered h hc']

theorem generateDirtyRect_append (dirtyRects_ rs ss : List SkIRect) :
    generateDirtyRect dirtyRects_ (rs ++ ss) =
      generateDirtyRect (generateDirtyRect dirtyRects_ rs) ss := by
  simp only [generateDirtyRect, List.foldl_append]

/-- Rectangles handed over in one call or in a call for each. -/
theorem foldl_generateDirtyRect (dirtyRects_ rs : List SkIRect) :
    rs.foldl (fun dirtyRects r => generateDirtyRect dirtyRects [r]) dirtyRects_ =
      generateDirtyRect dirtyRects_ rs := by
  induction rs generalizing dirtyRects_ with
  | nil => rfl
  | cons r rs ih => rw [List.foldl_cons, ih, ← generateDirtyRect_append, List.singleton_append]

/-- The collectors agree from any list whose rectangles are apart, and keep them apart. -/
theorem generateDirtyRect_eq_foldl {rs : List SkIRect} (hrs : ∀ r ∈ rs, r.isEmpty = false)
    {ds : FrameDamages} (h : ds.Pairwise Apart) :
    generateDirtyRect ds rs = rs.foldl addDamageRect ds := by
  induction rs generalizing ds with
  | nil => rfl
  | cons r rs ih =>
    have hr := generateRect_eq_addDamageRect (hrs r List.mem_cons_self) h
    have hrest : ∀ e ∈ rs, e.isEmpty = false := fun e he => hrs e (List.mem_cons_of_mem r he)
    calc
      generateDirtyRect ds (r :: rs) = generateDirtyRect (generateRect r ds) rs := rfl
      _ = generateDirtyRect (addDamageRect ds r) rs := by rw [hr]
      _ = rs.foldl addDamageRect (addDamageRect ds r) := ih hrest (pairwise_addDamageRect r h)

/-- Fed the same non-empty rectangles one by one, both collectors end with the same list. -/
theorem collectors_agree (rs : List SkIRect) (hrs : ∀ r ∈ rs, r.isEmpty = false) :
    rs.foldl (fun dirtyRects r => generateDirtyRect dirtyRects [r]) [] =
      rs.foldl addDamageRect [] := by
  rw [foldl_generateDirtyRect]
  exact generateDirtyRect_eq_foldl hrs List.Pairwise.nil

theorem collectors_agree_covered :
    [⟨0, 0, 4, 4⟩, ⟨6, 0, 8, 2⟩, ⟨1, 1, 2, 2⟩, ⟨5, 0, 9, 9⟩].foldl
        (fun dirtyRects r => generateDirtyRect dirtyRects [r]) [] =
      [⟨0, 0, 4, 4⟩, ⟨6, 0, 8, 2⟩, ⟨1, 1, 2, 2⟩, ⟨5, 0, 9, 9⟩].foldl addDamageRect [] :=
  collectors_agree _ (by decide)

end WindowDelegator

end ReactNativeSkia
