import ReactNativeSkia.Navigation.Proofs.CandidateOrder
import ReactNativeSkia.Navigation.Proofs.FocusState

/-!
# The best candidate in a direction

`findFocusCandidateInContainer` fills one sorted set with the candidates that overlap the current
focus and another with those that are completely beyond it, and compares the first items of the
two. Together this is a search for the closest leading edge among all candidates that the rules
let through.
-/

namespace ReactNativeSkia

namespace ComponentTree

/-- How far along the direction the leading edge of a frame is: the left edge for `Right`, the
right one for `Left`, the bottom for `Up` and the top for `Down`. -/
def leadingEdge (direction : RnsKey) (frame : SkIRect) : Int :=
  if direction = .RNS_KEY_Right then frame.left
  else if direction = .RNS_KEY_Left then -frame.right
  else if direction = .RNS_KEY_Up then -frame.bottom
  else frame.top

/-- The closed intervals from `a` to `b` and from `c` to `d` touch or overlap. -/
def Touch (a b c d : Int) : Prop := a ≤ d ∧ c ≤ b

/-- The overlap rule: for `Right` and `Left` the vertical extents touch; for `Up` and `Down` the
horizontal extents do, or the candidate is completely beyond the current frame. -/
def OverlapRule (direction : RnsKey) (current candidate : SkIRect) : Prop :=
  if direction = .RNS_KEY_Right ∨ direction = .RNS_KEY_Left then
    Touch candidate.top candidate.bottom current.top current.bottom
  else
    Touch candidate.left candidate.right current.left current.right ∨
      if direction = .RNS_KEY_Up then candidate.bottom ≤ current.top
      else current.bottom ≤ candidate.top

/-- The closed extents of frames that are not inverted touch if they have a point in common. -/
theorem touch_iff_exists {a b c d : Int} (hab : a ≤ b) (hcd : c ≤ d) :
    Touch a b c d ↔ ∃ y, (a ≤ y ∧ y ≤ b) ∧ c ≤ y ∧ y ≤ d := by
  constructor
  · rintro ⟨had, hcb⟩
    exact ⟨max a c, by omega, by omega⟩
  · rintro ⟨y, h, h'⟩
    exact ⟨by omega, by omega⟩

section
variable {direction : RnsKey} {current candidate : SkIRect}

/-- The candidate has to lie strictly further in the direction; that its frame is another one
follows. -/
theorem isValidCandidate_iff (hdir : direction.IsDirection) :
    isValidCandidate direction current candidate = true ↔
      leadingEdge direction current < leadingEdge direction candidate := by
  unfold isValidCandidate leadingEdge
  by_cases heq : candidate = current
  · simp [heq]
  · rw [if_neg heq]
    rcases hdir with rfl | rfl | rfl | rfl
    · simp
    · simp
    · simp
    · simp

/-- The rules of the two sets together. -/
theorem overlaps_or_isBeyond_iff (hdir : direction.IsDirection) :
    overlaps direction current candidate = true ∨ isBeyond direction current candidate = true ↔
      OverlapRule direction current candidate := by
  unfold isBeyond overlaps OverlapRule Touch
  rcases hdir with rfl | rfl | rfl | rfl
  · simp [and_comm]
  · simp [and_comm]
  · simp
    omega
  · simp
    omega

/-- The leading edge comes first in the order of the candidates. -/
theorem leadingEdge_le_of_edgeKey_append_le (hdir : direction.IsDirection) {a b : SkIRect}
    {c d : List Int} (h : edgeKey direction a ++ c ≤ edgeKey direction b ++ d) :
    leadingEdge direction a ≤ leadingEdge direction b := by
  by_contra hlt
  rw [not_le] at hlt
  refine not_lt.mpr h ?_
  unfold leadingEdge at hlt
  unfold edgeKey
  rcases hdir with rfl | rfl | rfl | rfl
  · exact List.cons_lt_cons_iff.mpr (Or.inl (by simpa using hlt))
  · exact List.cons_lt_cons_iff.mpr (Or.inl (by simpa using hlt))
  · exact List.cons_lt_cons_iff.mpr (Or.inl (by simpa using hlt))
  · exact List.cons_lt_cons_iff.mpr (Or.inl (by simpa using hlt))

end

section
variable [Skia] {t : ComponentTree} {direction : RnsKey} {x : LayerId} {l : List LayerId}
  {candidates candidates' : List Candidate}

/-- The screen frame of a component, which in a forest every component has. -/
def screenFrame (t : ComponentTree) (x : LayerId) : SkIRect := (t.getScreenFrame x).getD .MakeEmpty

/-- With more levels than there are components above it the walk ends: the next call starts at one
of these. -/
theorem Forest.getScreenFrameLevels_isSome (ht : t.Forest) {n : Nat}
    (hl : ParentChain t.parent x l) (hn : l.length < n) :
    (t.getScreenFrameLevels n x).isSome = true := by
  induction n generalizing x l with
  | zero => omega
  | succ n ih =>
    rw [getScreenFrameLevels, ht.nearestAncestorContainer_eq hl]
    cases hfind : l.find? t.isContainer with
    | none => rfl
    | some container =>
      obtain ⟨m, hm, hlt, -⟩ := hl.of_mem (List.mem_of_find?_eq_some hfind)
      obtain ⟨frame, hframe⟩ := Option.isSome_iff_exists.mp (ih hm (by omega))
      simp only [Option.bind_eq_bind, Option.bind_some, hframe]
      split <;> rfl

theorem Forest.getScreenFrame_eq (ht : t.Forest) (x : LayerId) :
    t.getScreenFrame x = some (t.screenFrame x) := by
  obtain ⟨l, hl⟩ := ht.ends x
  obtain ⟨frame, hframe⟩ := Option.isSome_iff_exists.mp (ht.getScreenFrameLevels_isSome hl
    (Nat.lt_succ_of_le (ParentChain.length_le ht.range hl)))
  rw [screenFrame, getScreenFrame, hframe, Option.getD_some]

theorem mapM_getScreenFrame (h : ∀ x, t.getScreenFrame x = some (t.screenFrame x))
    (l : List LayerId) : l.mapM t.getScreenFrame = some (l.map t.screenFrame) := by
  induction l with
  | nil => rfl
  | cons x l ih => rw [List.mapM_cons, h, ih]; rfl

/-! ## The first items of the two sets -/

/-- The front of a set is the candidate with the least key. -/
theorem front_eq_leastBy (hdir : direction.IsDirection) :
    t.front direction candidates = leastBy (t.sortKey direction) candidates := by
  rw [← (sortDirectionComparator_comparesBy t hdir).foldl_keepFirst, front]
  congr 1
  funext item candidate
  cases item <;> rfl

/-- The one of two candidates with the closer leading edge, the first one if they are equally
close. -/
def closer (direction : RnsKey) : Option Candidate → Option Candidate → Option Candidate
  | some a, some b =>
    if leadingEdge direction b.2 < leadingEdge direction a.2 then some b else some a
  | some a, none => some a
  | none, b => b

/-- The component of a candidate; the tag `-1` stands for none. -/
def focusOf (t : ComponentTree) (candidate : Candidate) : Option LayerId :=
  if (t.component candidate.1).tag = -1 then none else some candidate.1

/-- Candidates beyond the current focus are in play for `Up` and `Down` only. -/
theorem pickCandidateInDirection_eq (hdir : direction.IsDirection)
    {overLapping nonOverLapping : Option Candidate}
    (hbeyond : direction = .RNS_KEY_Right ∨ direction = .RNS_KEY_Left → nonOverLapping = none) :
    t.pickCandidateInDirection direction overLapping nonOverLapping =
      (closer direction overLapping nonOverLapping).bind t.focusOf := by
  unfold pickCandidateInDirection closer leadingEdge focusOf
  rcases hdir with rfl | rfl | rfl | rfl
  · rw [hbeyond (Or.inl rfl)]
    cases overLapping with
    | none => rfl
    | some a => rfl
  · rw [hbeyond (Or.inr rfl)]
    cases overLapping with
    | none => rfl
    | some a => rfl
  · cases overLapping with
    | none => cases nonOverLapping <;> rfl
    | some a =>
      cases nonOverLapping with
      | none => rfl
      | some b => by_cases hlt : a.2.bottom < b.2.bottom <;> simp [hlt]
  · cases overLapping with
    | none => cases nonOverLapping <;> rfl
    | some a =>
      cases nonOverLapping with
      | none => rfl
      | some b => by_cases hlt : b.2.top < a.2.top <;> simp [hlt]

theorem leadingEdge_le_of_leastBy (hdir : direction.IsDirection) {a b : Candidate}
    (ha : leastBy (t.sortKey direction) candidates = some a) (hb : b ∈ candidates) :
    leadingEdge direction a.2 ≤ leadingEdge direction b.2 := by
  have hle : t.sortKey direction a ≤ t.sortKey direction b := leastBy_le ha hb
  exact leadingEdge_le_of_edgeKey_append_le hdir hle

/-- There is nothing to choose only if both sets are empty. -/
theorem closer_eq_none_iff :
    closer direction (leastBy (t.sortKey direction) candidates)
      (leastBy (t.sortKey direction) candidates') = none ↔ candidates = [] ∧ candidates' = [] := by
  have hfirst : leastBy (t.sortKey direction) candidates = none ↔ candidates = [] :=
    leastBy_eq_none
  have hsecond : leastBy (t.sortKey direction) candidates' = none ↔ candidates' = [] :=
    leastBy_eq_none
  rw [← hfirst, ← hsecond]
  cases leastBy (t.sortKey direction) candidates with
  | none => simp [closer]
  | some a =>
    cases leastBy (t.sortKey direction) candidates' with
    | none => simp [closer]
    | some b =>
      simp only [closer, reduceCtorEq, false_and, iff_false]
      split <;> simp

/-- The chosen candidate is in one of the sets, and nothing in either is closer. -/
theorem closer_eq_some (hdir : direction.IsDirection) {a : Candidate}
    (h : closer direction (leastBy (t.sortKey direction) candidates)
      (leastBy (t.sortKey direction) candidates') = some a) :
    (a ∈ candidates ∨ a ∈ candidates') ∧ ∀ b, b ∈ candidates ∨ b ∈ candidates' →
      leadingEdge direction a.2 ≤ leadingEdge direction b.2 := by
  cases hfirst : leastBy (t.sortKey direction) candidates with
  | none =>
    rw [hfirst] at h
    have hnil := leastBy_eq_none.mp hfirst
    refine ⟨Or.inr (leastBy_mem h), fun b hb => ?_⟩
    rcases hb with hb | hb
    · rw [hnil] at hb
      cases hb
    · exact leadingEdge_le_of_leastBy hdir h hb
  | some c =>
    cases hsecond : leastBy (t.sortKey direction) candidates' with
    | none =>
      rw [hfirst, hsecond] at h
      obtain rfl := Option.some.inj h
      have hnil := leastBy_eq_none.mp hsecond
      refine ⟨Or.inl (leastBy_mem hfirst), fun b hb => ?_⟩
      rcases hb with hb | hb
      · exact leadingEdge_le_of_leastBy hdir hfirst hb
      · rw [hnil] at hb
        cases hb
    | some d =>
      rw [hfirst, hsecond, closer] at h
      have hc {b : Candidate} (hb : b ∈ candidates) := leadingEdge_le_of_leastBy hdir hfirst hb
      have hd {b : Candidate} (hb : b ∈ candidates') := leadingEdge_le_of_leastBy hdir hsecond hb
      split at h
      · rename_i hlt
        obtain rfl := Option.some.inj h
        refine ⟨Or.inr (leastBy_mem hsecond), fun b hb => ?_⟩
        rcases hb with hb | hb
        · exact hlt.le.trans (hc hb)
        · exact hd hb
      · rename_i hnot
        obtain rfl := Option.some.inj h
        refine ⟨Or.inl (leastBy_mem hfirst), fun b hb => ?_⟩
        rcases hb with hb | hb
        · exact hc hb
        · exact (not_lt.mp hnot).trans (hd hb)

/-! ## Lists in another order -/

/-- Only lists differ. -/
theorem relinked_getScreenFrame (lists : LayerId → List LayerId) (x : LayerId) :
    (t.relinked t.parent lists).getScreenFrame x = t.getScreenFrame x := by
  have hnearest (n : Nat) (o : Option LayerId) :
      (t.relinked t.parent lists).nearestAncestorContainerFrom n o =
        t.nearestAncestorContainerFrom n o := by
    induction n generalizing o with
    | zero => cases o <;> rfl
    | succ n ih =>
      cases o with
      | none => rfl
      | some container =>
        simp only [nearestAncestorContainerFrom, relinked_isContainer, relinked_parent, ih]
  have hlevels (n : Nat) (x : LayerId) :
      (t.relinked t.parent lists).getScreenFrameLevels n x = t.getScreenFrameLevels n x := by
    induction n generalizing x with
    | zero => rfl
    | succ n ih =>
      simp only [getScreenFrameLevels, nearestAncestorContainer, relinked_nextId,
        relinked_parent, hnearest, ih]
      rfl
  exact hlevels _ x

theorem relinked_screenFrame (lists : LayerId → List LayerId) :
    (t.relinked t.parent lists).screenFrame = t.screenFrame :=
  funext fun x => by rw [screenFrame, relinked_getScreenFrame, screenFrame]

theorem relinked_sortKey (lists : LayerId → List LayerId) :
    (t.relinked t.parent lists).sortKey direction = t.sortKey direction := rfl

end

end ComponentTree

namespace SpatialNavigator

open ComponentTree

section
variable [Skia] {s : SpatialNavigator} {t : ComponentTree} {keyEvent : RnsKey}
  {container current x : LayerId} {list : List LayerId} {n : Nat}

/-- Component `x` is another one than the current focus, lies further in the direction and passes
the overlap rule. -/
structure PassesRules (t : ComponentTree) (keyEvent : RnsKey) (current x : LayerId) : Prop where
  ne : x ≠ current
  further : leadingEdge keyEvent (t.screenFrame current) < leadingEdge keyEvent (t.screenFrame x)
  overlap : OverlapRule keyEvent (t.screenFrame current) (t.screenFrame x)

/-- The candidates of a list, with their frames, that are further in the direction. -/
def furtherCandidates (t : ComponentTree) (keyEvent : RnsKey) (current : LayerId)
    (list : List LayerId) : List Candidate :=
  (list.map fun x => (x, t.screenFrame x)).filter fun candidate =>
    decide (candidate.1 ≠ current) &&
      isValidCandidate keyEvent (t.screenFrame current) candidate.2

/-- Those that go into the first set. -/
def overLapping (t : ComponentTree) (keyEvent : RnsKey) (current : LayerId)
    (list : List LayerId) : List Candidate :=
  (furtherCandidates t keyEvent current list).filter fun candidate =>
    overlaps keyEvent (t.screenFrame current) candidate.2

/-- Those that go into the second set. -/
def nonOverLapping (t : ComponentTree) (keyEvent : RnsKey) (current : LayerId)
    (list : List LayerId) : List Candidate :=
  (furtherCandidates t keyEvent current list).filter fun candidate =>
    isBeyond keyEvent (t.screenFrame current) candidate.2

/-- The two sets together are the candidates that the rules let through. -/
theorem mem_overLapping_or_nonOverLapping (t : ComponentTree) (current : LayerId)
    (list : List LayerId) (hdir : keyEvent.IsDirection) (e : Candidate) :
    e ∈ overLapping t keyEvent current list ∨ e ∈ nonOverLapping t keyEvent current list ↔
      e.2 = t.screenFrame e.1 ∧ e.1 ∈ list ∧ PassesRules t keyEvent current e.1 := by
  simp only [overLapping, nonOverLapping, furtherCandidates, List.mem_filter]
  rw [← and_or_left, overlaps_or_isBeyond_iff hdir, Bool.and_eq_true, decide_eq_true_eq,
    isValidCandidate_iff hdir, List.mem_map]
  constructor
  · rintro ⟨⟨⟨x, hx, rfl⟩, hne, hfurther⟩, hoverlap⟩
    exact ⟨rfl, hx, hne, hfurther, hoverlap⟩
  · rintro ⟨hframe, hx, hne, hfurther, hoverlap⟩
    rw [← hframe] at hfurther hoverlap
    exact ⟨⟨⟨e.1, hx, Prod.ext rfl hframe.symm⟩, hne, hfurther⟩, hoverlap⟩

theorem nonOverLapping_eq_nil (h : keyEvent = .RNS_KEY_Right ∨ keyEvent = .RNS_KEY_Left) :
    nonOverLapping t keyEvent current list = [] := by
  unfold nonOverLapping isBeyond
  rcases h with rfl | rfl
  · simp
  · simp

theorem overLapping_relinked (lists : LayerId → List LayerId) :
    overLapping (t.relinked t.parent lists) keyEvent current list =
      overLapping t keyEvent current list := by
  simp only [overLapping, furtherCandidates, relinked_screenFrame]

theorem nonOverLapping_relinked (lists : LayerId → List LayerId) :
    nonOverLapping (t.relinked t.parent lists) keyEvent current list =
      nonOverLapping t keyEvent current list := by
  simp only [nonOverLapping, furtherCandidates, relinked_screenFrame]

/-- The closer one of the first items of the two sets. -/
def closestCandidate (t : ComponentTree) (keyEvent : RnsKey) (current : LayerId)
    (list : List LayerId) : Option Candidate :=
  closer keyEvent (leastBy (t.sortKey keyEvent) (overLapping t keyEvent current list))
    (leastBy (t.sortKey keyEvent) (nonOverLapping t keyEvent current list))

theorem closestCandidate_eq_none_iff (hdir : keyEvent.IsDirection) :
    closestCandidate t keyEvent current list = none ↔
      ∀ x ∈ list, ¬ PassesRules t keyEvent current x := by
  have hmem := mem_overLapping_or_nonOverLapping t current list hdir
  constructor
  · intro hnone x hx hpasses
    obtain ⟨hfirst, hsecond⟩ := closer_eq_none_iff.mp hnone
    have hin := (hmem (x, t.screenFrame x)).mpr ⟨rfl, hx, hpasses⟩
    rw [hfirst, hsecond] at hin
    simp at hin
  · intro hall
    cases hclosest : closestCandidate t keyEvent current list with
    | none => rfl
    | some e =>
      obtain ⟨-, hx, hpasses⟩ := (hmem e).mp (closer_eq_some hdir hclosest).1
      exact absurd hpasses (hall e.1 hx)

/-- It passes the rules, and nothing else that does is closer. -/
theorem closestCandidate_eq_some (hdir : keyEvent.IsDirection) {e : Candidate}
    (h : closestCandidate t keyEvent current list = some e) :
    e.1 ∈ list ∧ PassesRules t keyEvent current e.1 ∧
      ∀ y ∈ list, PassesRules t keyEvent current y →
        leadingEdge keyEvent (t.screenFrame e.1) ≤ leadingEdge keyEvent (t.screenFrame y) := by
  have hmem := mem_overLapping_or_nonOverLapping t current list hdir
  obtain ⟨hin, hclosest⟩ := closer_eq_some hdir h
  obtain ⟨hframe, hx, hpasses⟩ := (hmem e).mp hin
  refine ⟨hx, hpasses, fun y hy hpasses' => ?_⟩
  rw [← hframe]
  exact hclosest (y, t.screenFrame y) ((hmem _).mpr ⟨rfl, hy, hpasses'⟩)

theorem closestCandidate_relinked (lists : LayerId → List LayerId) :
    closestCandidate (t.relinked t.parent lists) keyEvent current list =
      closestCandidate t keyEvent current list := by
  simp only [closestCandidate, relinked_sortKey, overLapping_relinked, nonOverLapping_relinked]

/-- What the search returns, in terms of the least keys of the two sets. -/
theorem findFocusCandidateInContainer_eq (n : Nat) (container : LayerId)
    (hforest : s.tree.Forest) (hdir : keyEvent.IsDirection)
    (hfocus : s.currentFocus_ = some current) :
    s.findFocusCandidateInContainer n container keyEvent false =
      some ((closestCandidate s.tree keyEvent current
        (s.tree.navComponentList container)).bind s.tree.focusOf) := by
  rw [closestCandidate,
    ← pickCandidateInDirection_eq hdir fun h => by rw [nonOverLapping_eq_nil h]; rfl,
    ← front_eq_leastBy hdir, ← front_eq_leastBy hdir]
  unfold findFocusCandidateInContainer overLapping nonOverLapping furtherCandidates
  rw [hfocus]
  simp [hforest.getScreenFrame_eq, mapM_getScreenFrame hforest.getScreenFrame_eq,
    List.map_prod_left_eq_zip]

/-- A set of candidates with different tags has the same first item after a list in another
order. -/
theorem leastBy_filter_perm {list' : List LayerId} (p q : Candidate → Bool)
    (htags : (list.map fun x => (t.component x).tag).Nodup) (hperm : list.Perm list') :
    leastBy (t.sortKey keyEvent)
        (((list'.map fun x => (x, t.screenFrame x)).filter p).filter q) =
      leastBy (t.sortKey keyEvent)
        (((list.map fun x => (x, t.screenFrame x)).filter p).filter q) := by
  refine leastBy_perm (sortKey_nodup ?_) (((hperm.map _).filter p).filter q)
  refine List.Nodup.sublist ((List.filter_sublist.trans List.filter_sublist).map _) ?_
  rw [List.map_map]
  exact htags

theorem closestCandidate_perm {list' : List LayerId}
    (htags : (list.map fun x => (t.component x).tag).Nodup) (hperm : list.Perm list') :
    closestCandidate t keyEvent current list' = closestCandidate t keyEvent current list := by
  unfold closestCandidate overLapping nonOverLapping furtherCandidates
  rw [leastBy_filter_perm _ _ htags hperm, leastBy_filter_perm _ _ htags hperm]

/-- With pairwise distinct tags other than `-1` the search in a direction returns null exactly if
no candidate passes the rules; otherwise it returns one that does and that no other one is closer
than. A list in another order makes no difference. -/
theorem findFocusCandidateInContainer_best (s : SpatialNavigator) (n : Nat)
    (container : LayerId) (hforest : s.tree.Forest) (hdir : keyEvent.IsDirection)
    (hfocus : s.currentFocus_ = some current)
    (htags : ((s.tree.navComponentList container).map fun x => (s.tree.component x).tag).Nodup)
    (hne : ∀ x ∈ s.tree.navComponentList container, (s.tree.component x).tag ≠ -1) :
    ∃ result, s.findFocusCandidateInContainer n container keyEvent false = some result ∧
      (result = none ↔
        ∀ x ∈ s.tree.navComponentList container, ¬ PassesRules s.tree keyEvent current x) ∧
      (∀ x, result = some x →
        x ∈ s.tree.navComponentList container ∧ PassesRules s.tree keyEvent current x ∧
        ∀ y ∈ s.tree.navComponentList container, PassesRules s.tree keyEvent current y →
          leadingEdge keyEvent (s.tree.screenFrame x) ≤
            leadingEdge keyEvent (s.tree.screenFrame y)) ∧
      ∀ candidates : List LayerId, candidates.Perm (s.tree.navComponentList container) →
        (s.withTree (s.tree.modify container (·.withNavComponentList candidates))
          ).findFocusCandidateInContainer n container keyEvent false = some result := by
  have hfind := findFocusCandidateInContainer_eq n container hforest hdir hfocus
  obtain ⟨list, hlist⟩ : ∃ list, list = s.tree.navComponentList container := ⟨_, rfl⟩
  rw [← hlist] at hfind htags hne ⊢
  have htag (e : Candidate) (he : closestCandidate s.tree keyEvent current list = some e) :
      s.tree.focusOf e = some e.1 :=
    if_neg (hne e.1 (closestCandidate_eq_some hdir he).1)
  refine ⟨_, hfind, ?_, ?_, ?_⟩
  · rw [← closestCandidate_eq_none_iff hdir]
    cases hclosest : closestCandidate s.tree keyEvent current list with
    | none => exact iff_of_true rfl rfl
    | some e =>
      rw [Option.bind_some, htag e hclosest]
      exact iff_of_false (Option.some_ne_none e.1) (Option.some_ne_none e)
  · intro x hx
    obtain ⟨e, he, hx⟩ := Option.bind_eq_some_iff.mp hx
    rw [htag e he] at hx
    obtain rfl := Option.some.inj hx
    exact closestCandidate_eq_some hdir he
  · intro candidates hperm
    have hmodify : s.tree.modify container (·.withNavComponentList candidates) =
        s.tree.relinked s.tree.parent
          (Function.update s.tree.navComponentList container candidates) :=
      relinked_withList container fun _ => candidates
    rw [hmodify]
    have hfind' := findFocusCandidateInContainer_eq (s := s.withTree (s.tree.relinked s.tree.parent
      (Function.update s.tree.navComponentList container candidates))) n container
      ⟨hforest.ends, hforest.range⟩ hdir hfocus
    rw [hfind']
    simp only [withTree_tree, relinked_navComponentList, Function.update_self,
      closestCandidate_relinked]
    rw [closestCandidate_perm htags hperm.symm]
    rfl

end

end SpatialNavigator

open TranslationSkia

/-- A component without children, in this place of the content of its parent. -/
def placedView (parent : LayerId) (tag : Tag) (absFrame : SkIRect) : NavComponent where
  parent_ := some parent
  tag := tag
  props := { focusable := true }
  scrollView := { layer := { absFrame_ := absFrame } }

/-- A root view with a view on its left and a scroll view on its right, which cannot be scrolled
and has two views in a row. -/
def nestedTree : ComponentTree where
  nextId := 5
  component x :=
    if x = 0 then
      { class_ := .RSkComponentRootView
        navComponentList_ := [1, 2]
        scrollView := { layer := { absFrame_ := ⟨0, 0, 100, 100⟩ } } }
    else if x = 1 then placedView 0 1 ⟨0, 0, 10, 10⟩
    else if x = 2 then
      { class_ := .RSkComponentScrollView
        parent_ := some 0
        tag := 2
        navComponentList_ := [3, 4]
        scrollView := {
          scrollEnabled_ := false
          layer := {
            type_ := .scroll
            frame_ := ⟨20, 0, 100, 100⟩
            absFrame_ := ⟨20, 0, 100, 100⟩ } } }
    else if x = 3 then placedView 2 3 ⟨0, 0, 10, 10⟩
    else if x = 4 then placedView 2 4 ⟨20, 0, 30, 10⟩
    else {}

theorem nestedTree_forest : nestedTree.Forest := by
  apply ComponentTree.Forest.of_lt
  intro x p hp
  have hsmall : ∀ x < 5, ∀ p ∈ nestedTree.parent x, p < x := by decide
  by_cases hx : x < 5
  · exact ⟨hsmall x hx p hp, hx⟩
  · obtain ⟨y, rfl⟩ := Nat.exists_eq_add_of_le' (not_lt.mp hx)
    cases hp

/-- The view on the left has the focus. -/
def nestedNavigator : SpatialNavigator where
  tree := nestedTree
  rootContainer_ := 0
  currentFocus_ := some 1
  currentContainer_ := some 0

namespace SpatialNavigator

/-- From the view on the left the scroll view is the best candidate to the right. -/
theorem findFocusCandidateInContainer_best_nested :
    PassesRules nestedTree .RNS_KEY_Right 1 2 ∧
    (nestedNavigator.withTree (nestedTree.modify 0 (·.withNavComponentList [2, 1]))
      ).findFocusCandidateInContainer 0 0 .RNS_KEY_Right false = some (some 2) := by
  obtain ⟨result, hfind, -, hbest, hperm⟩ := findFocusCandidateInContainer_best nestedNavigator 0 0
    nestedTree_forest (Or.inl rfl : RnsKey.IsDirection .RNS_KEY_Right) rfl (by decide) (by decide)
  have hresult : nestedNavigator.findFocusCandidateInContainer 0 0 .RNS_KEY_Right false =
      some (some 2) := by
    decide +kernel
  obtain rfl := Option.some.inj (hfind.symm.trans hresult)
  exact ⟨(hbest 2 rfl).2.1, hperm [2, 1] (by decide)⟩

end SpatialNavigator

end ReactNativeSkia
