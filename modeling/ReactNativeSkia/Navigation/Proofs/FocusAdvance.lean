import ReactNativeSkia.Navigation.Proofs.FocusSearch
import ReactNativeSkia.Components.Proofs.ScrollRange
import ReactNativeSkia.Misc.Advance

/-!
# Keys advance the focus

In a tree of nested containers none of which scrolls, whatever a key focuses was found by the
search from the old focus: a candidate, or a container into which the descent found nothing. Both
lie strictly further in the direction of the key, so repeated presses come to rest.
-/

namespace ReactNativeSkia

section
variable [Skia]

namespace ComponentTree

variable {t : ComponentTree} {k x : LayerId} {l : List LayerId}

theorem scrollInDirection_of_noScroll {candidate : Option LayerId} {direction : RnsKey}
    (h : (t.scrollInDirection k candidate direction).2 = .noScroll) :
    (t.scrollInDirection k candidate direction).1 = t := by
  unfold scrollInDirection at h ⊢
  split
  · rename_i hscrollable
    rw [if_pos hscrollable] at h
    have hview := (ScrollView.scrollInDirection_scrollsOnce _ _ direction).eq_of_noScroll h
    show t.modify k (·.withScrollView _) = t
    rw [hview]
    exact congrArg (ComponentTree.mk t.nextId) (Function.update_eq_self k t.component)
  · rfl

theorem hasAncestorFrom_isSome (hl : ParentChain t.parent x l) {n : Nat} (hn : l.length ≤ n)
    (ancestor : LayerId) : (t.hasAncestorFrom n (t.parent x) ancestor).isSome = true := by
  induction hl generalizing n with
  | root hx =>
    rw [hx]
    cases n <;> rfl
  | @step x p l hp _ ih =>
    cases n with
    | zero => simp at hn
    | succ n =>
      rw [hp, hasAncestorFrom]
      split
      · rfl
      · exact ih (Nat.le_of_succ_le_succ hn)

theorem Forest.hasAncestor_isSome (ht : t.Forest) (x ancestor : LayerId) :
    (t.hasAncestor x ancestor).isSome = true := by
  obtain ⟨l, hl⟩ := ht.ends x
  exact hasAncestorFrom_isSome hl (ParentChain.length_le ht.range hl) ancestor

/-- A tree of nested containers that do not scroll: what a container lists has been made, the
containers among it are mounted below it, and asked to scroll it does nothing. -/
structure Still (t : ComponentTree) : Prop where
  forest : t.Forest
  made : ∀ k, ∀ x ∈ t.navComponentList k, x < t.nextId
  nested : ∀ k, ∀ x ∈ t.navComponentList k, t.isContainer x = true →
    ∃ l, ParentChain t.parent x l ∧ k ∈ l
  noScroll : ∀ k candidate direction, (t.scrollInDirection k candidate direction).2 = .noScroll

theorem Still.scrollInDirection_eq (h : t.Still) (k : LayerId) (candidate : Option LayerId)
    (direction : RnsKey) : t.scrollInDirection k candidate direction = (t, .noScroll) :=
  Prod.ext (scrollInDirection_of_noScroll (h.noScroll k candidate direction))
    (h.noScroll k candidate direction)

end ComponentTree

namespace SpatialNavigator

open ComponentTree

/-- The focus has moved to `c` by one focus event. -/
def focusedOn (s : SpatialNavigator) (c : LayerId) (container : Option LayerId) :
    SpatialNavigator :=
  { s with
    currentFocus_ := some c
    currentContainer_ := container
    focusEvents := s.focusEvents ++ [c] }

/-- What a call of `advanceFocusInDirection` from the focus `current` does: nothing, or one move
of the focus further in the direction. -/
inductive Advanced (s : SpatialNavigator) (keyEvent : RnsKey) (current : LayerId) :
    SpatialNavigator → Bool → Prop where
  | stays : Advanced s keyEvent current s false
  | moves (c : LayerId) (container : Option LayerId) (hlt : c < s.tree.nextId)
      (hfurther : leadingEdge keyEvent (s.tree.screenFrame current) <
        leadingEdge keyEvent (s.tree.screenFrame c)) :
      Advanced s keyEvent current (s.focusedOn c container) true

section
variable {s s' : SpatialNavigator} {keyEvent : RnsKey} {current container c : LayerId} {n : Nat}
  {consumed : Bool}

/-- What a search finds is in the list, is another component and lies further. -/
theorem findFocusCandidateInContainer_further (hforest : s.tree.Forest)
    (hdir : keyEvent.IsDirection) (hfocus : s.currentFocus_ = some current) {visibleOnly : Bool}
    (hfind : s.findFocusCandidateInContainer n container keyEvent visibleOnly = some (some c)) :
    c ∈ s.tree.navComponentList container ∧ c ≠ current ∧
      leadingEdge keyEvent (s.tree.screenFrame current) <
        leadingEdge keyEvent (s.tree.screenFrame c) := by
  unfold findFocusCandidateInContainer at hfind
  rw [hfocus] at hfind
  simp only [hforest.getScreenFrame_eq, mapM_getScreenFrame hforest.getScreenFrame_eq,
    Option.bind_eq_bind, Option.bind_some, Option.pure_def, Option.some.injEq] at hfind
  obtain ⟨e, rfl, hfront⟩ := pickCandidateInDirection_mem hfind
  have hin : e ∈ ((s.tree.navComponentList container).zip
      ((s.tree.navComponentList container).map s.tree.screenFrame)).filter fun candidate =>
        decide (candidate.1 ≠ current) &&
          (!visibleOnly || s.tree.isVisible container candidate.1) &&
          isValidCandidate keyEvent (s.tree.screenFrame current) candidate.2 := by
    rcases hfront with hfront | hfront
    · exact List.mem_of_mem_filter (front_mem hfront)
    · exact List.mem_of_mem_filter (front_mem hfront)
  obtain ⟨hzip, hvalid⟩ := List.mem_filter.mp hin
  simp only [Bool.and_eq_true, decide_eq_true_eq] at hvalid
  rw [← List.map_prod_left_eq_zip, List.mem_map] at hzip
  obtain ⟨x, hx, rfl⟩ := hzip
  exact ⟨hx, hvalid.1.1, (isValidCandidate_iff hdir).mp hvalid.2⟩

theorem findFocusCandidateInContainer_isSome (hforest : s.tree.Forest)
    (hfocus : s.currentFocus_ = some current) (visibleOnly : Bool)
    (container : LayerId) (keyEvent : RnsKey) :
    (s.findFocusCandidateInContainer n container keyEvent visibleOnly).isSome = true := by
  unfold findFocusCandidateInContainer
  rw [hfocus]
  simp [hforest.getScreenFrame_eq, mapM_getScreenFrame hforest.getScreenFrame_eq]

/-- The end of an advance: a move of the focus, unless the descent has made one. -/
theorem moveFocus_advanced {advance : SpatialNavigator → LayerId →
      Option (SpatialNavigator × Bool)}
    (hfocus : s.currentFocus_ = some current) (hlt : c < s.tree.nextId) (hne : c ≠ current)
    (hfurther : leadingEdge keyEvent (s.tree.screenFrame current) <
      leadingEdge keyEvent (s.tree.screenFrame c))
    (hinto : ∀ u b, advance s c = some (u, b) → s.Advanced keyEvent current u b)
    (hrun : moveFocus advance s c = some (s', consumed)) :
    s.Advanced keyEvent current s' consumed := by
  unfold moveFocus at hrun
  obtain ⟨⟨u, b⟩, hdown, hrun⟩ := Option.bind_eq_some_iff.mp hrun
  have hu : s.Advanced keyEvent current u b := by
    unfold advanceIntoCandidate at hdown
    split at hdown
    · exact hinto u b hdown
    · obtain ⟨rfl, rfl⟩ := Prod.mk.inj (Option.some.inj hdown)
      exact .stays
  cases hu with
  | stays =>
    simp only [Bool.false_eq_true, if_false] at hrun
    obtain ⟨v, hupdate, hrun⟩ := Option.bind_eq_some_iff.mp hrun
    obtain ⟨rfl, rfl⟩ := Prod.mk.inj (Option.some.inj hrun)
    unfold updateFocusCandidate at hupdate
    rw [if_neg fun heq => hne (Option.some.inj (heq.symm.trans hfocus))] at hupdate
    obtain ⟨k, -, hupdate⟩ := Option.bind_eq_some_iff.mp hupdate
    obtain rfl := Option.some.inj hupdate
    exact .moves c k hlt hfurther
  | moves d k hlt' hfurther' =>
    obtain ⟨rfl, rfl⟩ := Prod.mk.inj (Option.some.inj hrun)
    exact .moves d k hlt' hfurther'

/-- The induction is on the levels, which every container in a list goes down by one. -/
theorem advanceFocusInDirection_advanced (hstill : s.tree.Still) (hdir : keyEvent.IsDirection)
    (hfocus : s.currentFocus_ = some current)
    (hrun : advanceFocusInDirection keyEvent n s container = some (s', consumed)) :
    s.Advanced keyEvent current s' consumed := by
  induction n generalizing s' container consumed with
  | zero => cases hrun
  | succ n ih =>
    unfold advanceFocusInDirection at hrun
    obtain ⟨isAncestor, -, hrun⟩ := Option.bind_eq_some_iff.mp hrun
    obtain ⟨focusCandidate, hfind, hrun⟩ := Option.bind_eq_some_iff.mp hrun
    simp only [hstill.scrollInDirection_eq] at hrun
    cases focusCandidate with
    | none =>
      simp only at hrun
      split at hrun
      · obtain ⟨rfl, rfl⟩ := Prod.mk.inj (Option.some.inj hrun)
        exact .stays
      · obtain ⟨rfl, rfl⟩ := Prod.mk.inj (Option.some.inj hrun)
        exact .stays
    | some c =>
      obtain ⟨hin, hne, hfurther⟩ :=
        findFocusCandidateInContainer_further hstill.forest hdir hfocus hfind
      simp only at hrun
      split at hrun
      · exact moveFocus_advanced hfocus (hstill.made container c hin) hne hfurther
          (fun u b hu => ih hu) hrun
      · obtain ⟨rfl, rfl⟩ := Prod.mk.inj (Option.some.inj hrun)
        exact .stays

theorem updateFocusCandidate_isSome (hforest : s.tree.Forest) (c : LayerId) :
    (s.updateFocusCandidate c false).isSome = true := by
  have hcontainer : ∃ k, s.containerOfCandidate c = some k := by
    obtain ⟨l, hl⟩ := hforest.ends c
    unfold containerOfCandidate
    split
    · exact ⟨_, rfl⟩
    · exact ⟨_, hforest.nearestAncestorContainer_eq hl⟩
  obtain ⟨k, hk⟩ := hcontainer
  unfold updateFocusCandidate
  split
  · rfl
  · simp [hk]

theorem containerIsCurrentFocusAncestor_isSome (hforest : s.tree.Forest) (container : LayerId) :
    (s.containerIsCurrentFocusAncestor container).isSome = true := by
  unfold containerIsCurrentFocusAncestor
  split
  · rfl
  · split
    · rfl
    · exact hforest.hasAncestor_isSome _ container

/-- A candidate can be focused once the search in it, if it is a container, comes to an end. -/
theorem moveFocus_isSome (hstill : s.tree.Still) (hdir : keyEvent.IsDirection)
    (hfocus : s.currentFocus_ = some current)
    (hinto : s.tree.isContainer c = true →
      (advanceFocusInDirection keyEvent n s c).isSome = true) :
    (moveFocus (advanceFocusInDirection keyEvent n) s c).isSome = true := by
  have hdown : ∃ u b, advanceIntoCandidate (advanceFocusInDirection keyEvent n) s c = some (u, b) ∧
      s.Advanced keyEvent current u b := by
    unfold advanceIntoCandidate
    split
    · rename_i hcontainer
      obtain ⟨⟨u, b⟩, hu⟩ := Option.isSome_iff_exists.mp (hinto hcontainer)
      exact ⟨u, b, hu, advanceFocusInDirection_advanced hstill hdir hfocus hu⟩
    · exact ⟨s, false, rfl, .stays⟩
  obtain ⟨u, b, hdown, hu⟩ := hdown
  unfold moveFocus
  simp only [hdown, Option.bind_eq_bind, Option.bind_some]
  cases hu with
  | stays =>
    obtain ⟨v, hv⟩ := Option.isSome_iff_exists.mp (updateFocusCandidate_isSome hstill.forest c)
    simp [hv]
  | moves => rfl

/-- Every container in a list has more ancestors than the container of the list, so that as many
levels as there are components suffice. -/
theorem advanceFocusInDirection_isSome (hstill : s.tree.Still) (hdir : keyEvent.IsDirection)
    (hfocus : s.currentFocus_ = some current) {l : List LayerId}
    (hl : ParentChain s.tree.parent container l) (hn : s.tree.nextId < n + l.length) :
    (advanceFocusInDirection keyEvent n s container).isSome = true := by
  induction n generalizing container l with
  | zero =>
    have hle := ParentChain.length_le hstill.forest.range hl
    exact absurd (hn.trans_le ((Nat.zero_add _).trans_le hle)) (lt_irrefl _)
  | succ n ih =>
    obtain ⟨isAncestor, hancestor⟩ := Option.isSome_iff_exists.mp
      (containerIsCurrentFocusAncestor_isSome hstill.forest container)
    have hsearch := findFocusCandidateInContainer_isSome (n := n) hstill.forest hfocus
      (s.currentFocus_.isSome &&
        !(isAncestor && s.tree.canScrollInDirection container keyEvent)) container keyEvent
    obtain ⟨focusCandidate, hfind⟩ := Option.isSome_iff_exists.mp hsearch
    unfold advanceFocusInDirection
    simp only [hancestor, hfind, hstill.scrollInDirection_eq, Option.bind_eq_bind,
      Option.bind_some]
    cases focusCandidate with
    | none =>
      simp only
      split <;> rfl
    | some c =>
      simp only
      split
      · obtain ⟨hin, -⟩ := findFocusCandidateInContainer_further hstill.forest hdir hfocus hfind
        refine moveFocus_isSome hstill hdir hfocus fun hcontainer => ?_
        obtain ⟨m, hm, hmem⟩ := hstill.nested container c hin hcontainer
        obtain ⟨l', hl', hlt, -⟩ := hm.of_mem hmem
        rw [← hl.unique hl'] at hlt
        have hlevels : n + 1 + l.length ≤ n + m.length := by omega
        exact ih hm (hn.trans_le hlevels)
      · rfl

/-! ## A press of a key -/

theorem navigateFrom_advanced (hstill : s.tree.Still) (hdir : keyEvent.IsDirection)
    (hfocus : s.currentFocus_ = some current) {levels : Nat}
    (hrun : navigateFrom keyEvent levels n s container = some s') :
    ∃ consumed, s.Advanced keyEvent current s' consumed := by
  induction n generalizing container with
  | zero => cases hrun
  | succ n ih =>
    unfold navigateFrom at hrun
    obtain ⟨⟨u, consumed⟩, hadvance, hrun⟩ := Option.bind_eq_some_iff.mp hrun
    obtain ⟨next, -, hrun⟩ := Option.bind_eq_some_iff.mp hrun
    have hu := advanceFocusInDirection_advanced hstill hdir hfocus hadvance
    cases hu with
    | stays =>
      cases next with
      | none =>
        obtain rfl := Option.some.inj hrun
        exact ⟨false, .stays⟩
      | some above => exact ih hrun
    | moves c k hlt hfurther =>
      obtain rfl := Option.some.inj hrun
      exact ⟨true, .moves c k hlt hfurther⟩

/-- The loop goes to a container with fewer ancestors in every round. -/
theorem navigateFrom_isSome (hstill : s.tree.Still) (hdir : keyEvent.IsDirection)
    (hfocus : s.currentFocus_ = some current) {levels : Nat} {l : List LayerId}
    (hl : ParentChain s.tree.parent container l) (hlevels : s.tree.nextId < levels)
    (hn : l.length < n) :
    (navigateFrom keyEvent levels n s container).isSome = true := by
  induction n generalizing container l with
  | zero => exact absurd hn (Nat.not_lt_zero _)
  | succ n ih =>
    obtain ⟨⟨u, consumed⟩, hadvance⟩ := Option.isSome_iff_exists.mp
      (advanceFocusInDirection_isSome hstill hdir hfocus hl
        (hlevels.trans_le (Nat.le_add_right _ _)))
    have hu := advanceFocusInDirection_advanced hstill hdir hfocus hadvance
    unfold navigateFrom
    simp only [hadvance, Option.bind_eq_bind, Option.bind_some]
    cases hu with
    | stays =>
      rw [hstill.forest.nearestAncestorContainer_eq hl, Option.bind_some]
      cases habove : l.find? s.tree.isContainer with
      | none => rfl
      | some above =>
        obtain ⟨m, hm, hlt, -⟩ := hl.of_mem (List.mem_of_find?_eq_some habove)
        exact ih hm (hlt.trans_le (Nat.le_of_lt_succ hn))
    | moves c k hlt hfurther =>
      have htree : (s.focusedOn c k).tree = s.tree := rfl
      rw [htree, hstill.forest.nearestAncestorContainer_eq hl]
      rfl

theorem navigateInDirection_advanced (hstill : s.tree.Still) (hdir : keyEvent.IsDirection)
    (hfocus : s.currentFocus_ = some current) {levels : Nat}
    (hrun : s.navigateInDirection keyEvent levels = some s') :
    s'.tree = s.tree ∧
      ((s'.currentFocus_ = some current ∧ s'.focusEvents = s.focusEvents) ∨
        ∃ c, c < s.tree.nextId ∧ s'.currentFocus_ = some c ∧
          s'.focusEvents = s.focusEvents ++ [c] ∧
          leadingEdge keyEvent (s.tree.screenFrame current) <
            leadingEdge keyEvent (s.tree.screenFrame c)) := by
  obtain ⟨consumed, hadvanced⟩ := navigateFrom_advanced
    (s := { s with currentContainer_ := some (s.currentContainer_.getD s.rootContainer_) })
    hstill hdir hfocus hrun
  cases hadvanced with
  | stays => exact ⟨rfl, Or.inl ⟨hfocus, rfl⟩⟩
  | moves c k hlt hfurther => exact ⟨rfl, Or.inr ⟨c, hlt, rfl, rfl, hfurther⟩⟩

theorem navigateInDirection_isSome (hstill : s.tree.Still) (hdir : keyEvent.IsDirection)
    (hfocus : s.currentFocus_ = some current) :
    (s.navigateInDirection keyEvent (s.tree.nextId + 1)).isSome = true := by
  obtain ⟨l, hl⟩ := hstill.forest.ends (s.currentContainer_.getD s.rootContainer_)
  have hlevels : s.tree.nextId < s.tree.nextId + 1 := Nat.lt_succ_self _
  exact navigateFrom_isSome
    (s := { s with currentContainer_ := some (s.currentContainer_.getD s.rootContainer_) })
    hstill hdir hfocus hl hlevels
    (Nat.lt_succ_of_le (ParentChain.length_le hstill.forest.range hl))

end

/-! ## Repeated presses -/

/-- Each state comes from the one before it by a press of the key. -/
def Presses (keyEvent : RnsKey) (σ : ℕ → SpatialNavigator) : Prop :=
  ∀ i, ∃ levels, (σ i).navigateInDirection keyEvent levels = some (σ (i + 1))

/-- What has been focused since `s`, with the focus `current` that `s` had: the last of it has the
focus, and each lies further than the one before. -/
structure FocusedSince (s : SpatialNavigator) (keyEvent : RnsKey) (current : LayerId)
    (s' : SpatialNavigator) (focused : List LayerId) : Prop where
  tree : s'.tree = s.tree
  focusEvents : s'.focusEvents = s.focusEvents ++ focused
  last : s'.currentFocus_ = (current :: focused).getLast?
  further : (current :: focused).IsChain fun x y =>
    leadingEdge keyEvent (s.tree.screenFrame x) < leadingEdge keyEvent (s.tree.screenFrame y)
  made : ∀ x ∈ focused, x < s.tree.nextId

/-- How far the focus lies in the direction. -/
def focusEdge (s : SpatialNavigator) (keyEvent : RnsKey) (currentFocus : Option LayerId) : Int :=
  leadingEdge keyEvent (s.tree.screenFrame (currentFocus.getD s.rootContainer_))

section
variable {s s' : SpatialNavigator} {keyEvent : RnsKey} {current : LayerId} {focused : List LayerId}
  {σ : ℕ → SpatialNavigator}

theorem FocusedSince.refl (hfocus : s.currentFocus_ = some current) :
    FocusedSince s keyEvent current s [] where
  tree := rfl
  focusEvents := (List.append_nil _).symm
  last := hfocus
  further := List.isChain_singleton current
  made := by simp

/-- A press adds at most one component, which lies further than the old focus. -/
theorem FocusedSince.press {s'' : SpatialNavigator} {levels : Nat} (hstill : s.tree.Still)
    (hdir : keyEvent.IsDirection) (h : FocusedSince s keyEvent current s' focused)
    (hrun : s'.navigateInDirection keyEvent levels = some s'') :
    (∃ focused', FocusedSince s keyEvent current s'' focused') ∧
      (s''.currentFocus_ = s'.currentFocus_ ∨
        s.focusEdge keyEvent s'.currentFocus_ < s.focusEdge keyEvent s''.currentFocus_) := by
  obtain ⟨x, hx⟩ : ∃ x, (current :: focused).getLast? = some x :=
    ⟨_, List.getLast?_eq_some_getLast (List.cons_ne_nil _ _)⟩
  have hfocus : s'.currentFocus_ = some x := h.last.trans hx
  obtain ⟨htree, hstays | ⟨c, hlt, hc, hevents, hfurther⟩⟩ :=
    navigateInDirection_advanced (h.tree ▸ hstill) hdir hfocus hrun
  · obtain ⟨hsame, hevents⟩ := hstays
    refine ⟨⟨focused, ?_⟩, Or.inl (hsame.trans hfocus.symm)⟩
    exact {
      tree := htree.trans h.tree
      focusEvents := hevents.trans h.focusEvents
      last := hsame.trans hx.symm
      further := h.further
      made := h.made }
  · rw [h.tree] at hlt hfurther
    refine ⟨⟨focused ++ [c], ?_⟩, Or.inr ?_⟩
    · exact {
        tree := htree.trans h.tree
        focusEvents := by rw [hevents, h.focusEvents, List.append_assoc]
        last := by rw [hc, ← List.cons_append, List.getLast?_concat]
        further := by
          rw [← List.cons_append, List.isChain_append]
          refine ⟨h.further, List.isChain_singleton c, fun y hy z hz => ?_⟩
          obtain rfl : x = y := Option.some.inj (hx.symm.trans hy)
          obtain rfl : c = z := Option.some.inj hz
          exact hfurther
        made := by
          intro y hy
          rcases List.mem_append.mp hy with hy | hy
          · exact h.made y hy
          · exact List.mem_singleton.mp hy ▸ hlt }
    · rw [hfocus, hc]
      exact hfurther

theorem FocusedSince.nodup (h : FocusedSince s keyEvent current s' focused) :
    (current :: focused).Nodup := by
  have htrans : IsTrans LayerId fun x y =>
      leadingEdge keyEvent (s.tree.screenFrame x) < leadingEdge keyEvent (s.tree.screenFrame y) :=
    ⟨fun _ _ _ => lt_trans⟩
  refine h.further.pairwise.imp fun hlt heq => ?_
  rw [heq] at hlt
  exact lt_irrefl _ hlt

theorem Presses.focusedSince (h : Presses keyEvent σ) (hstill : (σ 0).tree.Still)
    (hdir : keyEvent.IsDirection) (hfocus : (σ 0).currentFocus_ = some current) (i : ℕ) :
    ∃ focused, FocusedSince (σ 0) keyEvent current (σ i) focused := by
  induction i with
  | zero => exact ⟨[], .refl hfocus⟩
  | succ i ih =>
    obtain ⟨focused, hi⟩ := ih
    obtain ⟨levels, hrun⟩ := h i
    exact (hi.press hstill hdir hrun).1

theorem Presses.advances (h : Presses keyEvent σ) (hstill : (σ 0).tree.Still)
    (hdir : keyEvent.IsDirection) (hfocus : (σ 0).currentFocus_ = some current) :
    Advances ((σ 0).focusEdge keyEvent) fun i => (σ i).currentFocus_ := by
  intro i
  obtain ⟨focused, hi⟩ := h.focusedSince hstill hdir hfocus i
  obtain ⟨levels, hrun⟩ := h i
  exact (hi.press hstill hdir hrun).2

/-- Only a component that has been made, or the first focus, ever has the focus. -/
theorem Presses.finite (h : Presses keyEvent σ) (hstill : (σ 0).tree.Still)
    (hdir : keyEvent.IsDirection) (hfocus : (σ 0).currentFocus_ = some current) :
    (Set.range fun i => (σ i).currentFocus_).Finite := by
  refine (((Set.finite_lt_nat (σ 0).tree.nextId).insert current).image some).subset ?_
  rintro _ ⟨i, rfl⟩
  obtain ⟨focused, hi⟩ := h.focusedSince hstill hdir hfocus i
  simp only [hi.last]
  obtain ⟨x, hx⟩ : ∃ x, (current :: focused).getLast? = some x :=
    ⟨_, List.getLast?_eq_some_getLast (List.cons_ne_nil _ _)⟩
  refine ⟨x, ?_, hx.symm⟩
  rcases List.mem_cons.mp (List.mem_of_getLast? hx) with rfl | hmem
  · exact Set.mem_insert _ _
  · exact Set.mem_insert_of_mem _ (hi.made x hmem)

/-- A press of a direction key comes to an end and moves the focus at most once, to a component
that lies strictly further in the direction. Hence no component is focused twice however often the
key is pressed, and at last the focus stays where it is. Not even the visibility of the components
is needed. -/
theorem navigateInDirection_advances (s : SpatialNavigator) (keyEvent : RnsKey)
    (current : LayerId) (hstill : s.tree.Still) (hdir : keyEvent.IsDirection)
    (hfocus : s.currentFocus_ = some current) :
    (∃ levels s', s.navigateInDirection keyEvent levels = some s') ∧
      (∀ levels s', s.navigateInDirection keyEvent levels = some s' →
        (s'.currentFocus_ = some current ∧ s'.focusEvents = s.focusEvents) ∨
          ∃ c, s'.currentFocus_ = some c ∧ s'.focusEvents = s.focusEvents ++ [c] ∧
            leadingEdge keyEvent (s.tree.screenFrame current) <
              leadingEdge keyEvent (s.tree.screenFrame c)) ∧
      ∀ σ, σ 0 = s → Presses keyEvent σ →
        (∀ i, ∃ focused, (σ i).focusEvents = s.focusEvents ++ focused ∧
          (current :: focused).Nodup) ∧
        ∃ n, ∀ i, n ≤ i → (σ i).currentFocus_ = (σ n).currentFocus_ := by
  refine ⟨?_, ?_, ?_⟩
  · exact ⟨_, Option.isSome_iff_exists.mp (navigateInDirection_isSome hstill hdir hfocus)⟩
  · intro levels s' hrun
    obtain ⟨-, hstays | ⟨c, -, hmoves⟩⟩ := navigateInDirection_advanced hstill hdir hfocus hrun
    · exact Or.inl hstays
    · exact Or.inr ⟨c, hmoves⟩
  · rintro σ rfl hpresses
    refine ⟨fun i => ?_, ?_⟩
    · obtain ⟨focused, hi⟩ := hpresses.focusedSince hstill hdir hfocus i
      exact ⟨focused, hi.focusEvents, hi.nodup⟩
    · exact (hpresses.advances hstill hdir hfocus).eventually_stays
        (hpresses.finite hstill hdir hfocus)

end

end SpatialNavigator

end

open TranslationSkia

theorem nestedTree_still : nestedTree.Still where
  forest := nestedTree_forest
  made := by
    intro k x hx
    have hsmall : ∀ k < 5, ∀ x ∈ nestedTree.navComponentList k, x < 5 := by decide
    by_cases hk : k < 5
    · exact hsmall k hk x hx
    · obtain ⟨y, rfl⟩ := Nat.exists_eq_add_of_le' (not_lt.mp hk)
      cases hx
  nested := by
    intro k x hx hcontainer
    have hsmall : ∀ k < 5, ∀ x ∈ nestedTree.navComponentList k,
        nestedTree.isContainer x = true → nestedTree.parent x = some k ∧ k = 0 := by decide
    by_cases hk : k < 5
    · obtain ⟨hparent, rfl⟩ := hsmall k hk x hx hcontainer
      exact ⟨[0], .step hparent (.root rfl), List.mem_singleton_self 0⟩
    · obtain ⟨y, rfl⟩ := Nat.exists_eq_add_of_le' (not_lt.mp hk)
      cases hx
  noScroll := by
    intro k candidate direction
    have hsmall : ∀ k < 5, (nestedTree.component k).isScrollable = true →
        (nestedTree.component k).scrollView.scrollEnabled_ = false := by decide
    unfold ComponentTree.scrollInDirection
    split
    · rename_i hscrollable
      have hdisabled : (nestedTree.component k).scrollView.scrollEnabled_ = false := by
        by_cases hk : k < 5
        · exact hsmall k hk hscrollable
        · obtain ⟨y, rfl⟩ := Nat.exists_eq_add_of_le' (not_lt.mp hk)
          cases hscrollable
      simp [ScrollView.scrollInDirection, ScrollView.canScrollInDirection, hdisabled]
    · rfl

namespace SpatialNavigator

open ComponentTree

/-- From the view on the left the key goes into the scroll view, to the first of its views. -/
theorem navigateInDirection_advances_nested :
    ∃ s', nestedNavigator.navigateInDirection .RNS_KEY_Right 6 = some s' ∧
      s'.focusEvents = [3] ∧ leadingEdge .RNS_KEY_Right (nestedTree.screenFrame 1) <
        leadingEdge .RNS_KEY_Right (nestedTree.screenFrame 3) := by
  have hpressed : (nestedNavigator.navigateInDirection .RNS_KEY_Right 6).map
      (fun s' => (s'.currentFocus_, s'.focusEvents)) = some (some 3, [3]) := by
    decide +kernel
  obtain ⟨s', hrun, hs'⟩ := Option.map_eq_some_iff.mp hpressed
  obtain ⟨hfocus, hevents⟩ := Prod.mk.inj hs'
  have hdir : RnsKey.IsDirection .RNS_KEY_Right := Or.inl rfl
  obtain ⟨-, hmove, -⟩ := navigateInDirection_advances nestedNavigator .RNS_KEY_Right 1
    nestedTree_still hdir rfl
  rcases hmove 6 s' hrun with ⟨-, hsame⟩ | ⟨c, hc, -, hfurther⟩
  · rw [hevents] at hsame
    cases hsame
  · obtain rfl := Option.some.inj (hfocus.symm.trans hc)
    exact ⟨s', hrun, hevents, hfurther⟩

end SpatialNavigator

end ReactNativeSkia
