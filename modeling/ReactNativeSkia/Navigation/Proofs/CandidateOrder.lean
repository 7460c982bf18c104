import ReactNativeSkia.Navigation.SpatialNavigator

/-!
# The order of the candidates

`sortDirectionComparator` compares by one rule where two frames are the same and by another where
they differ. Both are parts of one order: that of the edges which decide in the direction of the
key, followed by the `zIndex` and the tag. The edges determine the frame, so the two rules never
contradict each other.
-/

namespace ReactNativeSkia

/-- The keys that move the focus. -/
def RnsKey.IsDirection (key : RnsKey) : Prop :=
  key = .RNS_KEY_Right ∨ key = .RNS_KEY_Left ∨ key = .RNS_KEY_Up ∨ key = .RNS_KEY_Down

instance (key : RnsKey) : Decidable key.IsDirection := by
  unfold RnsKey.IsDirection
  infer_instance

namespace ComponentTree

theorem firstDifference_cons (a b : Int) (rest : List (Int × Int)) :
    firstDifference ((a, b) :: rest) = true ↔
      a < b ∨ (a = b ∧ firstDifference rest = true) := by
  rw [firstDifference]
  split
  · rename_i hlt
    exact iff_of_true rfl (Or.inl hlt)
  · split
    · rename_i hnot hgt
      refine iff_of_false Bool.false_ne_true ?_
      rintro (hlt | ⟨heq, -⟩)
      · exact hnot hlt
      · omega
    · rename_i hnot hnot'
      have heq : a = b := by omega
      simp [heq]

@[simp] theorem firstDifference_nil : firstDifference [] = false := rfl

/-- The edges and lengths that decide in a direction, the first one first. -/
def edgeKey (direction : RnsKey) (frame : SkIRect) : List Int :=
  if direction = .RNS_KEY_Right then [frame.left, frame.top, frame.width, frame.height]
  else if direction = .RNS_KEY_Left then [-frame.right, frame.top, frame.width, frame.height]
  else if direction = .RNS_KEY_Up then [-frame.bottom, frame.left, frame.height, frame.width]
  else [frame.top, frame.left, frame.height, frame.width]

@[simp] theorem length_edgeKey (direction : RnsKey) (frame : SkIRect) :
    (edgeKey direction frame).length = 4 := by
  unfold edgeKey
  split
  · rfl
  · split
    · rfl
    · split <;> rfl

/-- The edges that decide determine the frame. -/
theorem edgeKey_injective (direction : RnsKey) : Function.Injective (edgeKey direction) := by
  intro a b h
  obtain ⟨al, at', ar, ab⟩ := a
  obtain ⟨bl, bt, br, bb⟩ := b
  unfold edgeKey at h
  simp only [Rect.width, Rect.height] at h
  rw [Rect.mk.injEq]
  split at h
  · simp only [List.cons.injEq, and_true] at h
    omega
  · split at h
    · simp only [List.cons.injEq, and_true] at h
      omega
    · split at h
      · simp only [List.cons.injEq, and_true] at h
        omega
      · simp only [List.cons.injEq, and_true] at h
        omega

theorem append_lt_append_iff (a c d : List Int) : a ++ c < a ++ d ↔ c < d := by
  induction a with
  | nil => rfl
  | cons x a ih => rw [List.cons_append, List.cons_append, List.cons_lt_cons_self, ih]

/-- A part that differs decides, whatever follows it. -/
theorem append_lt_append_of_ne {a b : List Int} (hlength : a.length = b.length) (hne : a ≠ b)
    (c d : List Int) : a ++ c < b ++ d ↔ a < b := by
  induction a generalizing b with
  | nil => exact absurd (List.length_eq_zero_iff.mp hlength.symm).symm hne
  | cons x a ih =>
    cases b with
    | nil => cases hlength
    | cons y b =>
      rw [List.cons_append, List.cons_append, List.cons_lt_cons_iff, List.cons_lt_cons_iff]
      by_cases hxy : x = y
      · subst hxy
        rw [ih (Nat.succ.inj hlength) fun hab => hne (congrArg _ hab)]
      · simp [hxy]

section
variable [Skia]

/-- What a candidate is sorted by. -/
def sortKey (t : ComponentTree) (direction : RnsKey) (candidate : Candidate) : List Int :=
  edgeKey direction candidate.2 ++
    [-(t.component candidate.1).zIndex, -(t.component candidate.1).tag]

/-- The tag of a candidate. -/
def candidateTag (t : ComponentTree) (candidate : Candidate) : Tag :=
  (t.component candidate.1).tag

variable {t : ComponentTree} {direction : RnsKey} {candidates : List Candidate}

/-- The comparator is the order of the keys. -/
theorem sortDirectionComparator_comparesBy (t : ComponentTree) (hdir : direction.IsDirection) :
    ComparesBy (t.sortDirectionComparator direction) (t.sortKey direction) := by
  intro a b
  unfold sortDirectionComparator sortKey
  simp only
  by_cases hframe : a.2 = b.2
  · -- the same frame: what follows the edges decides
    rw [if_pos hframe, hframe, append_lt_append_iff]
    simp only [List.cons_lt_cons_iff]
    split
    · simp
      omega
    · split
      · simp
        omega
      · rename_i hnot hnot'
        have hz : (t.component a.1).zIndex = (t.component b.1).zIndex := by omega
        simp [hz]
  · rw [if_neg hframe, append_lt_append_of_ne (by simp) fun h => hframe (edgeKey_injective _ h)]
    unfold edgeKey
    rcases hdir with rfl | rfl | rfl | rfl
    · simp [firstDifference_cons, List.cons_lt_cons_iff]
    · simp [firstDifference_cons, List.cons_lt_cons_iff]
      omega
    · simp [firstDifference_cons, List.cons_lt_cons_iff]
      omega
    · simp [firstDifference_cons, List.cons_lt_cons_iff]

/-- Components with different tags have different keys. -/
theorem sortKey_ne {a b : Candidate} (h : t.candidateTag a ≠ t.candidateTag b) :
    t.sortKey direction a ≠ t.sortKey direction b := by
  intro heq
  have hlast := congrArg List.getLast? heq
  unfold sortKey at hlast
  simp only [List.getLast?_append, List.getLast?_cons_cons, List.getLast?_singleton,
    Option.some_or, Option.some.injEq, neg_inj] at hlast
  exact h hlast

theorem sortKey_nodup (h : (candidates.map t.candidateTag).Nodup) :
    (candidates.map (t.sortKey direction)).Nodup :=
  (List.Nodup.of_map _ h).map_on fun a ha b hb heq => by
    by_contra hne
    exact sortKey_ne (fun htag => hne (List.inj_on_of_nodup_map h ha hb htag)) heq

/-- In each direction the comparator is irreflexive and transitive, and of two candidates with
different tags exactly one comes before the other. A list of candidates with pairwise distinct
tags goes into the sorted set completely in whatever order it is inserted, and the first one of
the set is always the same. -/
theorem sortDirectionComparator_strictTotal (t : ComponentTree) (hdir : direction.IsDirection) :
    (∀ a, t.sortDirectionComparator direction a a = false) ∧
    (∀ a b c, t.sortDirectionComparator direction a b = true →
      t.sortDirectionComparator direction b c = true →
      t.sortDirectionComparator direction a c = true) ∧
    (∀ a b, t.candidateTag a ≠ t.candidateTag b →
      (t.sortDirectionComparator direction a b = true ↔
        t.sortDirectionComparator direction b a = false)) ∧
    ∀ candidates inserted : List Candidate, (candidates.map t.candidateTag).Nodup →
      inserted.Perm candidates →
      (t.SortedCandidateList direction inserted).Perm candidates ∧
      (t.SortedCandidateList direction inserted).head? =
        (t.SortedCandidateList direction candidates).head? := by
  have hkey := sortDirectionComparator_comparesBy t hdir
  refine ⟨hkey.irrefl, fun a b c => hkey.trans, fun a b h => hkey.total (sortKey_ne h), ?_⟩
  intro candidates inserted htags hperm
  have hnodup : (candidates.map (t.sortKey direction)).Nodup := sortKey_nodup htags
  have hnodup' := ((hperm.map _).nodup_iff).mpr hnodup
  refine ⟨(hkey.sortedInsertAll_perm hnodup').trans hperm, ?_⟩
  rw [SortedCandidateList, SortedCandidateList, hkey.head?_sortedInsertAll hnodup',
    hkey.head?_sortedInsertAll hnodup, leastBy_perm hnodup hperm.symm]

end

open TranslationSkia

/-- Components with their identifiers for tags, the odd ones on a higher level. -/
def taggedTree : ComponentTree where
  nextId := 4
  component x := { tag := x, zIndex := x % 2 }

/-- Two components in one place and a third one further off, inserted in two orders. -/
theorem sortDirectionComparator_strictTotal_same_frame :
    (taggedTree.SortedCandidateList .RNS_KEY_Right
      [(3, ⟨20, 0, 30, 10⟩), (2, ⟨0, 0, 10, 10⟩), (1, ⟨0, 0, 10, 10⟩)]).head? =
    (taggedTree.SortedCandidateList .RNS_KEY_Right
      [(1, ⟨0, 0, 10, 10⟩), (2, ⟨0, 0, 10, 10⟩), (3, ⟨20, 0, 30, 10⟩)]).head? :=
  ((taggedTree.sortDirectionComparator_strictTotal (Or.inl rfl)).2.2.2 _ _ (by decide)
    (by decide)).2

end ComponentTree

end ReactNativeSkia
