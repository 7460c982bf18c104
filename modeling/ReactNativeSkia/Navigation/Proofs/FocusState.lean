import ReactNativeSkia.Navigation.SpatialNavigator
import ReactNativeSkia.Navigation.Proofs.NavLists

/-!
# The focus refers to the mounted tree

`currentFocus_` and `currentContainer_` should point into the tree of the root container and fit
each other. A focus is only cleared for the very component that is found in the list of its
container, so it stays behind when something above it is unmounted, and a preferred-focus task or
a stale list entry leads to components that are not mounted.
-/

namespace ReactNativeSkia

/-- A fold that keeps an element or takes the next one ends with one of them. -/
theorem mem_of_foldl_pick {α : Type} {f : Option α → α → Option α}
    (hf : ∀ item a, f item a = some a ∨ f item a = item) {l : List α}
    {item : Option α} {e : α} (h : l.foldl f item = some e) :
    item = some e ∨ e ∈ l := by
  induction l generalizing item with
  | nil => exact Or.inl h
  | cons a l ih =>
    rw [List.foldl_cons] at h
    rcases ih h with heq | hmem
    · rcases hf item a with htaken | hkept
      · obtain rfl := Option.some.inj (htaken.symm.trans heq)
        exact Or.inr List.mem_cons_self
      · exact Or.inl (hkept.symm.trans heq)
    · exact Or.inr (List.mem_cons_of_mem _ hmem)

section

variable [Skia]

namespace ComponentTree

/-- The same components with other scroll views. -/
def rescrolled (t : ComponentTree) (scrollView : LayerId → ScrollView) : ComponentTree :=
  { t with component := fun x => (t.component x).withScrollView (scrollView x) }

/-- The containers that a search may look into from `start` on: those above it, and those in the
lists. -/
inductive Searched (t : ComponentTree) (start : LayerId) : LayerId → Prop where
  | start : t.Searched start start
  | up {k k' : LayerId} (h : t.Searched start k)
      (hk : t.nearestAncestorContainer k = some (some k')) : t.Searched start k'
  | down {k d : LayerId} (h : t.Searched start k) (hd : d ∈ t.navComponentList k)
      (hc : t.isContainer d = true) : t.Searched start d

end ComponentTree

namespace SpatialNavigator

/-- Mounted: in the tree of the root container. -/
def Attached (s : SpatialNavigator) (x : LayerId) : Prop := s.tree.AtOrBelow s.rootContainer_ x

/-- The navigator refers to the mounted tree. -/
structure FocusFits (s : SpatialNavigator) : Prop where
  focus : ∀ f, s.currentFocus_ = some f → s.Attached f ∧ s.tree.isFocusable f = true
  container : ∀ k, s.currentContainer_ = some k → s.Attached k ∧ s.tree.isContainer k = true
  nearest : ∀ f, s.currentFocus_ = some f →
    if s.tree.isContainer f then s.currentContainer_ = some f
    else s.tree.nearestAncestorContainer f = some s.currentContainer_
  scrolled : s.scrolledNull = false

/-- A tree below a root container. -/
structure Rooted (s : SpatialNavigator) : Prop where
  forest : s.tree.Forest
  isContainer : s.tree.isContainer s.rootContainer_ = true
  top : s.tree.parent s.rootContainer_ = none

end SpatialNavigator

namespace NavigatorOp

/-- The operation meets the code's assumptions. A child is mounted while it is not mounted, not
below itself, and is not the root container. Unmounting keeps away from the current container, and
takes the focus away only as the unmounted child itself, from the list of the nearest container.
A focused component that an update leaves unfocusable is in the list of the nearest container. A
search for a key looks into lists of mounted focusable components only. The component of a task,
if it is still there, has the focus or is mounted and focusable. -/
def KeepsFocus (s : SpatialNavigator) : NavigatorOp → Prop
  | mountChildComponent p c =>
    s.tree.parent c = none ∧ ¬ s.tree.AtOrBelow c p ∧ c ≠ s.rootContainer_
  | unmountChildComponent c =>
    s.tree.parent c ≠ none →
      (∀ k, s.currentContainer_ = some k → ¬ s.tree.AtOrBelow c k) ∧
      ∀ f, s.currentFocus_ = some f → s.tree.AtOrBelow c f →
        f = c ∧ ∃ k, s.tree.nearestAncestorContainer c = some (some k) ∧
          c ∈ s.tree.navComponentList k
  | updateComponentData x _ props forceUpdate =>
    s.currentFocus_ = some x →
      ∀ p ∈ props, (s.tree.withProps x p forceUpdate).isFocusable x = false →
        ∃ k, s.tree.nearestAncestorContainer x = some (some k) ∧ x ∈ s.tree.navComponentList k
  | handleKeyEvent eventKeyType eventKeyAction =>
    eventKeyAction = .RNS_KEY_Press →
      eventKeyType = .RNS_KEY_Up ∨ eventKeyType = .RNS_KEY_Down ∨
        eventKeyType = .RNS_KEY_Left ∨ eventKeyType = .RNS_KEY_Right →
      ∀ k, s.tree.Searched (s.currentContainer_.getD s.rootContainer_) k →
        ∀ d ∈ s.tree.navComponentList k, s.Attached d ∧ s.tree.isFocusable d = true
  | runTask alive =>
    alive = true → ∀ c ∈ s.tasks.head?,
      s.currentFocus_ = some c ∨ (s.Attached c ∧ s.tree.isFocusable c = true)
  | relayout _ => True

end NavigatorOp

namespace ComponentTree

section
variable {t : ComponentTree} {start k c : LayerId} {view : LayerId → ScrollView}

theorem rescrolled_self (t : ComponentTree) :
    t.rescrolled (fun x => (t.component x).scrollView) = t := rfl

theorem rescrolled_modify (y : LayerId) (v : ScrollView) :
    (t.rescrolled view).modify y (·.withScrollView v) =
      t.rescrolled (Function.update view y v) := by
  unfold rescrolled modify
  simp only [mk.injEq, true_and]
  funext x
  by_cases hx : x = y
  · subst hx
    simp [NavComponent.withScrollView]
  · simp [hx]

/-- The walk up does not look at scroll views. -/
theorem rescrolled_nearestAncestorContainer (x : LayerId) :
    (t.rescrolled view).nearestAncestorContainer x = t.nearestAncestorContainer x := by
  have hfrom : ∀ n o, (t.rescrolled view).nearestAncestorContainerFrom n o =
      t.nearestAncestorContainerFrom n o := by
    intro n
    induction n with
    | zero => intro o; cases o <;> rfl
    | succ n ih =>
      intro o
      cases o with
      | none => rfl
      | some container =>
        simp only [nearestAncestorContainerFrom]
        rw [ih]
        rfl
  exact hfrom _ _

theorem scrollInDirection_rescrolled (view : LayerId → ScrollView) (y : LayerId)
    (candidate : Option LayerId) (direction : RnsKey) :
    ∃ view', ((t.rescrolled view).scrollInDirection y candidate direction).1 =
      t.rescrolled view' := by
  unfold scrollInDirection
  split
  · exact ⟨_, rescrolled_modify y _⟩
  · exact ⟨view, rfl⟩

theorem scrollTo_rescrolled (view : LayerId → ScrollView) (y : LayerId)
    (candidate : Option LayerId) :
    ∃ view', (t.rescrolled view).scrollTo y candidate = t.rescrolled view' := by
  unfold scrollTo
  split
  · exact ⟨_, rescrolled_modify y _⟩
  · exact ⟨view, rfl⟩

/-! ## What a search finds -/

theorem rescrolled_searched :
    (t.rescrolled view).Searched start k ↔ t.Searched start k := by
  constructor
  · intro h
    induction h with
    | start => exact .start
    | up _ hk ih => exact ih.up (by rwa [rescrolled_nearestAncestorContainer] at hk)
    | down _ hd hc ih => exact ih.down hd hc
  · intro h
    induction h with
    | start => exact .start
    | up _ hk ih => exact ih.up (by rwa [rescrolled_nearestAncestorContainer])
    | down _ hd hc ih => exact ih.down hd hc

/-- Something in a list that may be looked into. -/
def Listed (t : ComponentTree) (start c : LayerId) : Prop :=
  ∃ k, t.Searched start k ∧ c ∈ t.navComponentList k

theorem firstInContainer_listed {n : Nat} (hk : t.Searched start k)
    (hrun : t.firstInContainer n k = some (some c)) : t.Listed start c := by
  induction n generalizing k c with
  | zero => cases hrun
  | succ n ih =>
    unfold firstInContainer at hrun
    split at hrun
    · cases hrun
    · rename_i first rest hlist
      have hin : first ∈ t.navComponentList k := hlist ▸ List.mem_cons_self
      split at hrun
      · cases hrun
      · split at hrun
        · rename_i hcont
          obtain ⟨found, hfound, heq⟩ := Option.map_eq_some_iff.mp hrun
          cases found with
          | none =>
            obtain rfl := Option.some.inj heq
            exact ⟨k, hk, hin⟩
          | some found =>
            obtain rfl := Option.some.inj heq
            exact ih (hk.down hin hcont) hfound
        · obtain rfl := Option.some.inj (Option.some.inj hrun)
          exact ⟨k, hk, hin⟩

theorem preferredFocusInContainer_listed {n : Nat} (hk : t.Searched start k)
    (hrun : t.preferredFocusInContainer n k = some (some c)) : t.Listed start c := by
  induction n generalizing k c with
  | zero => cases hrun
  | succ n ih =>
    have hfrom : ∀ l : List LayerId, (∀ d ∈ l, d ∈ t.navComponentList k) →
        t.preferredFocusFrom (t.preferredFocusInContainer n) l = some (some c) →
        t.Listed start c := by
      intro l hl hrun
      induction l with
      | nil => cases hrun
      | cons d l ihl =>
        have hd := hl d List.mem_cons_self
        have hrest := ihl fun e he => hl e (List.mem_cons_of_mem _ he)
        unfold preferredFocusFrom at hrun
        obtain ⟨found, hfound, hrun⟩ := Option.bind_eq_some_iff.mp hrun
        cases found with
        | none => exact hrest hrun
        | some found =>
          simp only at hrun
          split at hrun
          · obtain rfl := Option.some.inj (Option.some.inj hrun)
            unfold preferredFocusOf at hfound
            split at hfound
            · rename_i hcont
              exact ih (hk.down hd hcont) hfound
            · obtain rfl := Option.some.inj (Option.some.inj hfound)
              exact ⟨k, hk, hd⟩
          · exact hrest hrun
    exact hfrom _ (fun d hd => List.mem_reverse.mp hd) hrun

theorem findDefaultFocusInContainer_listed {n : Nat} (hk : t.Searched start k)
    (hrun : t.findDefaultFocusInContainer n k = some (some c)) : t.Listed start c := by
  unfold findDefaultFocusInContainer at hrun
  obtain ⟨found, hfound, hrun⟩ := Option.bind_eq_some_iff.mp hrun
  cases found with
  | none => exact firstInContainer_listed hk hrun
  | some found =>
    obtain rfl := Option.some.inj (Option.some.inj hrun)
    exact preferredFocusInContainer_listed hk hfound

/-- The front of a set is one of the candidates. -/
theorem front_mem {direction : RnsKey} {candidates : List Candidate} {e : Candidate}
    (h : t.front direction candidates = some e) : e ∈ candidates := by
  refine (mem_of_foldl_pick ?_ h).resolve_left (by simp)
  intro item a
  cases item with
  | none => exact Or.inl rfl
  | some item =>
    dsimp only
    split
    · exact Or.inl rfl
    · exact Or.inr rfl

theorem pickCandidateInDirection_mem {keyEvent : RnsKey}
    {overLapping nonOverLapping : Option Candidate}
    (h : t.pickCandidateInDirection keyEvent overLapping nonOverLapping = some c) :
    ∃ e : Candidate, e.1 = c ∧ (overLapping = some e ∨ nonOverLapping = some e) := by
  unfold pickCandidateInDirection at h
  simp only at h
  split at h
  · rename_i nextFocus hnext
    split at h
    · cases h
    · refine ⟨nextFocus, Option.some.inj h, ?_⟩
      split at hnext
      · split at hnext
        · split at hnext
          · exact Or.inr hnext
          · split at hnext
            · exact Or.inr hnext
            · exact Or.inl hnext
        · exact Or.inr hnext
        · exact Or.inl hnext
      · exact Or.inl hnext
  · cases h

end

end ComponentTree

namespace SpatialNavigator

section
variable {s s' : SpatialNavigator} {t : ComponentTree} {start container c x : LayerId}
  {view : LayerId → ScrollView} {keyEvent : RnsKey} {n : Nat}

theorem findFocusCandidateInContainer_listed {visibleOnly : Bool}
    (hk : s.tree.Searched start container)
    (hrun : s.findFocusCandidateInContainer n container keyEvent visibleOnly = some (some c)) :
    s.tree.Listed start c := by
  unfold findFocusCandidateInContainer at hrun
  split at hrun
  · exact ComponentTree.findDefaultFocusInContainer_listed hk hrun
  · obtain ⟨current, -, hrun⟩ := Option.bind_eq_some_iff.mp hrun
    obtain ⟨frames, -, hrun⟩ := Option.bind_eq_some_iff.mp hrun
    obtain ⟨e, rfl, hfront⟩ := ComponentTree.pickCandidateInDirection_mem (Option.some.inj hrun)
    have hin : e ∈ (s.tree.navComponentList container).zip frames := by
      rcases hfront with hfront | hfront
      · exact List.mem_of_mem_filter (List.mem_of_mem_filter (ComponentTree.front_mem hfront))
      · exact List.mem_of_mem_filter (List.mem_of_mem_filter (ComponentTree.front_mem hfront))
    exact ⟨container, hk, (List.of_mem_zip hin).1⟩

/-! ## The focus moves -/

/-- Only scroll views and the two pointers have changed, and the pointers fit. -/
structure Navigating (s s' : SpatialNavigator) : Prop where
  tree : ∃ view, s'.tree = s.tree.rescrolled view
  root : s'.rootContainer_ = s.rootContainer_
  fits : s'.FocusFits

theorem FocusFits.navigating (h : s.FocusFits) : s.Navigating s := ⟨⟨_, rfl⟩, rfl, h⟩

theorem Navigating.trans {s'' : SpatialNavigator} (h : s.Navigating s')
    (h' : s'.Navigating s'') : s.Navigating s'' := by
  obtain ⟨view, hview⟩ := h.tree
  obtain ⟨view', hview'⟩ := h'.tree
  exact ⟨⟨view', by rw [hview', hview]; rfl⟩, h'.root.trans h.root, h'.fits⟩

/-- A mounted component below the root container, or that one itself, is in a container. -/
theorem Rooted.nearest (hs : s.Rooted) (hx : s.Attached x) (hc : s.tree.isContainer x = false) :
    ∃ k, s.tree.nearestAncestorContainer x = some (some k) ∧ s.Attached k ∧
      s.tree.isContainer k = true := by
  obtain ⟨l, hl, hin⟩ := hx
  have hroot : s.rootContainer_ ∈ l := by
    refine (List.mem_cons.mp hin).resolve_left ?_
    rintro heq
    rw [← heq, hs.isContainer] at hc
    cases hc
  obtain ⟨k, hk⟩ : ∃ k, l.find? s.tree.isContainer = some k :=
    Option.isSome_iff_exists.mp (List.find?_isSome.mpr ⟨_, hroot, hs.isContainer⟩)
  have hkl := List.mem_of_find?_eq_some hk
  obtain ⟨m, hm, -, -⟩ := hl.of_mem hkl
  refine ⟨k, by rw [hs.forest.nearestAncestorContainer_eq hl, hk], ⟨m, hm, ?_⟩,
    List.find?_some hk⟩
  -- the root container ends both chains
  have hlast := hl.getLast?_of_root hs.top hroot
  obtain ⟨pre, post, rfl⟩ := List.append_of_mem hkl
  obtain rfl := hm.unique hl.of_append
  rw [List.getLast?_append_of_ne_nil _ (by simp)] at hlast
  exact List.mem_of_getLast? hlast

theorem FocusFits.rescrolled (h : s.FocusFits) (view : LayerId → ScrollView) :
    (s.withTree (s.tree.rescrolled view)).FocusFits where
  focus := h.focus
  container := h.container
  nearest f hf := by
    have hnear := h.nearest f hf
    simp only [withTree_tree, ComponentTree.rescrolled_nearestAncestorContainer]
    exact hnear
  scrolled := h.scrolled

theorem Rooted.rescrolled (h : s.Rooted) (view : LayerId → ScrollView) :
    (s.withTree (s.tree.rescrolled view)).Rooted :=
  ⟨⟨h.forest.ends, h.forest.range⟩, h.isContainer, h.top⟩

/-- The focus goes to a mounted component, and so does the current container. -/
theorem updateFocusCandidate_fits (hs : s.Rooted) (hf : s.FocusFits) (hc : s.Attached c)
    (hfocus : s.tree.isFocusable c = true) {needScroll : Bool}
    (hrun : s.updateFocusCandidate c needScroll = some s') :
    s.Navigating s' := by
  unfold updateFocusCandidate at hrun
  split at hrun
  · obtain rfl := Option.some.inj hrun
    exact ⟨⟨_, rfl⟩, rfl, hf⟩
  · obtain ⟨current, hcurrent, hrun⟩ := Option.bind_eq_some_iff.mp hrun
    have hfound : ∃ k, current = some k ∧ s.Attached k ∧ s.tree.isContainer k = true ∧
        if s.tree.isContainer c then current = some c
        else s.tree.nearestAncestorContainer c = some current := by
      unfold containerOfCandidate at hcurrent
      split at hcurrent
      · rename_i hcont
        exact ⟨c, (Option.some.inj hcurrent).symm, hc, hcont,
          by rw [if_pos hcont]; exact (Option.some.inj hcurrent).symm⟩
      · rename_i hcont
        obtain ⟨k, hk, hatt, hkc⟩ := hs.nearest hc (Bool.eq_false_iff.mpr hcont)
        rw [hk] at hcurrent
        exact ⟨k, (Option.some.inj hcurrent).symm, hatt, hkc,
          by rw [if_neg hcont, hk, Option.some.inj hcurrent]⟩
    obtain ⟨k, rfl, hatt, hkc, hnear⟩ := hfound
    have hfits : ({ s with
        currentFocus_ := some c
        currentContainer_ := some k
        focusEvents := s.focusEvents ++ [c] } : SpatialNavigator).FocusFits := by
      refine ⟨?_, ?_, ?_, hf.scrolled⟩
      · intro f heq
        obtain rfl := Option.some.inj heq
        exact ⟨hc, hfocus⟩
      · intro k' heq
        obtain rfl := Option.some.inj heq
        exact ⟨hatt, hkc⟩
      · intro f heq
        obtain rfl := Option.some.inj heq
        exact hnear
    split at hrun
    · obtain rfl := Option.some.inj hrun
      obtain ⟨view, hview⟩ :=
        s.tree.scrollTo_rescrolled (fun x => (s.tree.component x).scrollView) k (some c)
      rw [ComponentTree.rescrolled_self] at hview
      refine ⟨⟨view, hview⟩, rfl, ?_⟩
      show (withTree _ (s.tree.scrollTo k (some c))).FocusFits
      rw [hview]
      exact hfits.rescrolled view
    · obtain rfl := Option.some.inj hrun
      exact ⟨⟨_, rfl⟩, rfl, hfits⟩

/-- What the searches from `start` find is mounted and focusable. -/
def SearchesMounted (s : SpatialNavigator) (start : LayerId) : Prop :=
  ∀ k, s.tree.Searched start k → ∀ d ∈ s.tree.navComponentList k,
    s.Attached d ∧ s.tree.isFocusable d = true

theorem Navigating.searched {k : LayerId} (h : s.Navigating s') :
    s'.tree.Searched start k ↔ s.tree.Searched start k := by
  obtain ⟨view, hview⟩ := h.tree
  rw [hview, ComponentTree.rescrolled_searched]

theorem Navigating.searchesMounted (h : s.Navigating s') (hs : s.SearchesMounted start) :
    s'.SearchesMounted start := by
  intro k hk d hd
  rw [h.searched] at hk
  obtain ⟨view, hview⟩ := h.tree
  unfold Attached
  rw [hview] at hd ⊢
  rw [h.root]
  exact hs k hk d hd

theorem Navigating.rooted (h : s.Navigating s') (hs : s.Rooted) : s'.Rooted := by
  obtain ⟨view, hview⟩ := h.tree
  have hrescrolled := hs.rescrolled view
  exact ⟨hview ▸ hrescrolled.forest, by rw [hview, h.root]; exact hrescrolled.isContainer,
    by rw [hview, h.root]; exact hrescrolled.top⟩

theorem FocusFits.scrollInDirection (hf : s.FocusFits) (container : LayerId)
    (candidate : Option LayerId) (direction : RnsKey) :
    s.Navigating (s.withTree (s.tree.scrollInDirection container candidate direction).1) := by
  obtain ⟨view, hview⟩ := s.tree.scrollInDirection_rescrolled
    (fun x => (s.tree.component x).scrollView) container candidate direction
  rw [ComponentTree.rescrolled_self] at hview
  rw [hview]
  exact ⟨⟨view, rfl⟩, rfl, hf.rescrolled view⟩

/-- A step down into a container keeps the pointers fitting, and so does the move that follows. -/
theorem moveFocus_navigating {advance : SpatialNavigator → LayerId →
      Option (SpatialNavigator × Bool)} {consumed : Bool}
    (hs : s.Rooted) (hf : s.FocusFits) (hmounted : s.SearchesMounted start)
    (hadvance : s.tree.Searched start c →
      ∀ u b, advance s c = some (u, b) → s.Navigating u)
    (hc : s.tree.Listed start c) (hrun : moveFocus advance s c = some (s', consumed)) :
    s.Navigating s' := by
  obtain ⟨k, hk, hin⟩ := hc
  obtain ⟨hatt, hfocus⟩ := hmounted k hk c hin
  unfold moveFocus at hrun
  obtain ⟨⟨u, b⟩, hinto, hrun⟩ := Option.bind_eq_some_iff.mp hrun
  have hnav : s.Navigating u := by
    unfold advanceIntoCandidate at hinto
    split at hinto
    · rename_i hcont
      exact hadvance (hk.down hin hcont) u b hinto
    · obtain ⟨rfl, -⟩ := Prod.mk.inj (Option.some.inj hinto)
      exact hf.navigating
  simp only at hrun
  split at hrun
  · obtain ⟨rfl, -⟩ := Prod.mk.inj (Option.some.inj hrun)
    exact hnav
  · obtain ⟨v, hupdate, hrun⟩ := Option.bind_eq_some_iff.mp hrun
    obtain ⟨rfl, -⟩ := Prod.mk.inj (Option.some.inj hrun)
    obtain ⟨view, hview⟩ := hnav.tree
    refine hnav.trans (updateFocusCandidate_fits (hnav.rooted hs) hnav.fits ?_ ?_ hupdate)
    · unfold Attached
      rw [hview, hnav.root]
      exact hatt
    · rw [hview]
      exact hfocus

/-- A call of `advanceFocusInDirection`: the induction is on the levels, which every container in
a list goes down by one. -/
theorem advanceFocusInDirection_navigating {consumed : Bool} (hs : s.Rooted) (hf : s.FocusFits)
    (hmounted : s.SearchesMounted start) (hk : s.tree.Searched start container)
    (hrun : advanceFocusInDirection keyEvent n s container = some (s', consumed)) :
    s.Navigating s' := by
  induction n generalizing s s' container consumed with
  | zero => cases hrun
  | succ n ih =>
    unfold advanceFocusInDirection at hrun
    obtain ⟨isAncestor, -, hrun⟩ := Option.bind_eq_some_iff.mp hrun
    obtain ⟨focusCandidate, hfind, hrun⟩ := Option.bind_eq_some_iff.mp hrun
    cases focusCandidate with
    | none =>
      simp only at hrun
      split at hrun
      · obtain ⟨rfl, -⟩ := Prod.mk.inj (Option.some.inj hrun)
        exact hf.navigating
      · obtain ⟨rfl, -⟩ := Prod.mk.inj (Option.some.inj hrun)
        exact hf.scrollInDirection container none keyEvent
    | some c =>
      have hc := findFocusCandidateInContainer_listed hk hfind
      have hmove {u u' : SpatialNavigator} {b : Bool} (hu : s.Navigating u)
          (hmove : moveFocus (advanceFocusInDirection keyEvent n) u c = some (u', b)) :
          s.Navigating u' := by
        obtain ⟨view, hview⟩ := hu.tree
        refine hu.trans (moveFocus_navigating (hu.rooted hs) hu.fits (hu.searchesMounted hmounted)
          (fun hsearched v b' hv => ?_) ?_ hmove)
        · exact ih (hu.rooted hs) hu.fits (hu.searchesMounted hmounted) hsearched hv
        · obtain ⟨k, hk, hin⟩ := hc
          exact ⟨k, hu.searched.mpr hk, hview ▸ hin⟩
      simp only at hrun
      split at hrun
      · exact hmove hf.navigating hrun
      · have hscroll := hf.scrollInDirection container (some c) keyEvent
        split at hrun
        · obtain ⟨rfl, -⟩ := Prod.mk.inj (Option.some.inj hrun)
          exact hscroll
        · obtain ⟨rfl, -⟩ := Prod.mk.inj (Option.some.inj hrun)
          exact hscroll
        · exact hmove hscroll hrun

/-- The rounds of `navigateInDirection`. -/
theorem navigateFrom_navigating {levels : Nat} (hs : s.Rooted) (hf : s.FocusFits)
    (hmounted : s.SearchesMounted start) (hk : s.tree.Searched start container)
    (hrun : navigateFrom keyEvent levels n s container = some s') : s.Navigating s' := by
  induction n generalizing s container with
  | zero => cases hrun
  | succ n ih =>
    unfold navigateFrom at hrun
    obtain ⟨⟨u, consumed⟩, hadvance, hrun⟩ := Option.bind_eq_some_iff.mp hrun
    have hu := advanceFocusInDirection_navigating hs hf hmounted hk hadvance
    obtain ⟨next, hnext, hrun⟩ := Option.bind_eq_some_iff.mp hrun
    split at hrun
    · obtain rfl := Option.some.inj hrun
      exact hu
    · split at hrun
      · obtain rfl := Option.some.inj hrun
        exact hu
      · rename_i k'
        refine hu.trans (ih (hu.rooted hs) hu.fits (hu.searchesMounted hmounted) ?_ hrun)
        exact (hu.searched.mpr hk).up hnext

/-- A key that is pressed. -/
theorem FocusFits.handleKeyEvent (hf : s.FocusFits) (hs : s.Rooted) {eventKeyType : RnsKey}
    {eventKeyAction : RnsKeyAction} {levels : Nat}
    (hmounted : eventKeyAction = .RNS_KEY_Press →
      eventKeyType = .RNS_KEY_Up ∨ eventKeyType = .RNS_KEY_Down ∨
        eventKeyType = .RNS_KEY_Left ∨ eventKeyType = .RNS_KEY_Right →
      s.SearchesMounted (s.currentContainer_.getD s.rootContainer_))
    (hrun : s.handleKeyEvent eventKeyType eventKeyAction levels = some s') : s.Navigating s' := by
  unfold SpatialNavigator.handleKeyEvent at hrun
  split at hrun
  · obtain rfl := Option.some.inj hrun
    exact hf.navigating
  · rename_i hpress
    split at hrun
    · rename_i hkey
      -- without a current container the root container becomes it
      have hstart : ({ s with
          currentContainer_ := some (s.currentContainer_.getD s.rootContainer_) } :
          SpatialNavigator).FocusFits := by
        refine ⟨hf.focus, ?_, ?_, hf.scrolled⟩
        · intro k heq
          obtain rfl := Option.some.inj heq
          cases hcontainer : s.currentContainer_ with
          | none =>
            obtain ⟨l, hl⟩ := hs.forest.ends s.rootContainer_
            exact ⟨⟨l, hl, List.mem_cons_self⟩, hs.isContainer⟩
          | some k => exact hf.container k hcontainer
        · intro f heq
          have hnear := hf.nearest f heq
          cases hcontainer : s.currentContainer_ with
          | some k => rwa [hcontainer] at hnear
          | none =>
            rw [hcontainer] at hnear
            split at hnear
            · cases hnear
            · rename_i hcont
              obtain ⟨k, hk, -⟩ := hs.nearest (hf.focus f heq).1 (Bool.eq_false_iff.mpr hcont)
              rw [hk] at hnear
              cases hnear
      have hnav := navigateFrom_navigating (s := { s with
        currentContainer_ := some (s.currentContainer_.getD s.rootContainer_) })
        ⟨hs.forest, hs.isContainer, hs.top⟩ hstart
        (hmounted (not_not.mp hpress) hkey) .start hrun
      exact ⟨hnav.tree, hnav.root, hnav.fits⟩
    · obtain rfl := Option.some.inj hrun
      exact hf.navigating

/-! ## The tree changes -/

/-- The calls of a tree operation only take the focus away, from what they remove or update. -/
structure Called (s s' : SpatialNavigator) (calls : NavigatorCalls) : Prop where
  root : s'.rootContainer_ = s.rootContainer_
  container : s'.currentContainer_ = s.currentContainer_
  scrolled : s'.scrolledNull = s.scrolledNull
  focus : ∀ f, s'.currentFocus_ = some f →
    s.currentFocus_ = some f ∧ ∀ operation, (operation, f) ∈ calls → operation = .ComponentAdded

theorem foldl_called (calls : NavigatorCalls) (s : SpatialNavigator) :
    s.Called (calls.foldl updateSpatialNavigatorState s) calls ∧
      (calls.foldl updateSpatialNavigatorState s).tree = s.tree := by
  induction calls generalizing s with
  | nil => exact ⟨⟨rfl, rfl, rfl, fun f hf => ⟨hf, fun _ h => nomatch h⟩⟩, rfl⟩
  | cons call calls ih =>
    obtain ⟨h, htree⟩ := ih (s.updateSpatialNavigatorState call)
    have hcall : (s.updateSpatialNavigatorState call).tree = s.tree ∧
        (s.updateSpatialNavigatorState call).rootContainer_ = s.rootContainer_ ∧
        (s.updateSpatialNavigatorState call).currentContainer_ = s.currentContainer_ ∧
        (s.updateSpatialNavigatorState call).scrolledNull = s.scrolledNull ∧
        ∀ f, (s.updateSpatialNavigatorState call).currentFocus_ = some f →
          s.currentFocus_ = some f ∧ (call.2 = f → call.1 = .ComponentAdded) := by
      unfold updateSpatialNavigatorState
      obtain ⟨operation, c⟩ := call
      cases operation with
      | ComponentAdded => simp
      | ComponentRemoved | ComponentUpdated =>
        simp only
        split
        · simp
        · rename_i hne
          refine ⟨rfl, rfl, rfl, rfl, fun f hf => ⟨hf, ?_⟩⟩
          rintro rfl
          exact absurd hf hne
    obtain ⟨htree', hroot, hcontainer, hscrolled, hfocus⟩ := hcall
    refine ⟨⟨h.root.trans hroot, h.container.trans hcontainer, h.scrolled.trans hscrolled,
      fun f hf => ?_⟩, htree.trans htree'⟩
    obtain ⟨hmid, hrest⟩ := h.focus f hf
    obtain ⟨hold, hadded⟩ := hfocus f hmid
    refine ⟨hold, fun operation hin => ?_⟩
    rcases List.mem_cons.mp hin with rfl | hin
    · exact hadded rfl
    · exact hrest operation hin

theorem afterCalls_called {calls : NavigatorCalls} (h : s.afterCalls (t, calls) = s') :
    s.Called s' calls ∧ s'.tree = t := by
  obtain ⟨hcalled, htree⟩ := foldl_called calls (s.withTree t)
  obtain rfl := h
  exact ⟨⟨hcalled.root, hcalled.container, hcalled.scrolled, hcalled.focus⟩, htree⟩

/-- The pointers go on fitting when what they point to keeps its place in the tree. -/
theorem FocusFits.called (hf : s.FocusFits) (hs : s.tree.Forest) {calls : NavigatorCalls}
    (hcalls : s.Called s' calls) (hs' : s'.tree.Forest)
    (hisContainer : s'.tree.isContainer = s.tree.isContainer)
    (hchain : ∀ x l, (s'.currentFocus_ = some x ∨ s'.currentContainer_ = some x) →
      ParentChain s.tree.parent x l → s.rootContainer_ ∈ x :: l →
      ParentChain s'.tree.parent x l)
    (hfocusable : ∀ f, s'.currentFocus_ = some f → s'.tree.isFocusable f = true) :
    s'.FocusFits where
  focus f h := by
    obtain ⟨⟨l, hl, hin⟩, -⟩ := hf.focus f (hcalls.focus f h).1
    refine ⟨⟨l, hchain f l (Or.inl h) hl hin, ?_⟩, hfocusable f h⟩
    rw [hcalls.root]
    exact hin
  container k h := by
    obtain ⟨⟨l, hl, hin⟩, hcont⟩ := hf.container k (hcalls.container ▸ h)
    refine ⟨⟨l, hchain k l (Or.inr h) hl hin, ?_⟩, by rw [hisContainer]; exact hcont⟩
    rw [hcalls.root]
    exact hin
  nearest f h := by
    have hold := (hcalls.focus f h).1
    obtain ⟨⟨l, hl, hin⟩, -⟩ := hf.focus f hold
    have hnear := hf.nearest f hold
    rw [hs.nearestAncestorContainer_eq hl] at hnear
    rw [hs'.nearestAncestorContainer_eq (hchain f l (Or.inl h) hl hin), hisContainer,
      hcalls.container]
    exact hnear
  scrolled := hcalls.scrolled.trans hf.scrolled

/-- The step lemma for mounting. -/
theorem FocusFits.mountChildComponent (hf : s.FocusFits) (hs : s.Rooted) {p : LayerId}
    (hc : s.tree.parent c = none) (hnot : ¬ s.tree.AtOrBelow c p) (hroot : c ≠ s.rootContainer_)
    (hcn : c < s.tree.nextId) (hpn : p < s.tree.nextId)
    (hrun : s.mountChildComponent p c = some s') : s'.FocusFits ∧ s'.Rooted := by
  obtain ⟨⟨t', calls⟩, hmount, hs'⟩ := Option.map_eq_some_iff.mp hrun
  obtain ⟨hcalled, htree⟩ := afterCalls_called hs'
  have hforest := hs.forest.mounted hnot hcn hpn hmount
  obtain ⟨lp, hp⟩ := hs.forest.ends p
  rw [hs.forest.mountChildComponent_eq hp (ComponentTree.not_atOrBelow hp hnot) hcn hpn] at hmount
  obtain ⟨rfl, -⟩ := Prod.mk.inj (Option.some.inj hmount)
  rw [← htree] at hforest
  refine ⟨hf.called hs.forest hcalled hforest (by rw [htree]; rfl) ?_ ?_, hforest, ?_, ?_⟩
  · intro x l _ hl hin
    rw [htree]
    refine hl.update_of_not_mem (fun hcx => ?_) _
    -- a root on a chain from the root container is that container
    rcases List.mem_cons.mp hcx with rfl | hcx
    · cases hl with
      | root _ => exact hroot (List.mem_singleton.mp hin).symm
      | step hq _ => rw [hc] at hq; cases hq
    · have hlast := hl.getLast?_of_root hc hcx
      rcases List.mem_cons.mp hin with heq | hin
      · have htop := hs.top
        rw [heq] at htop
        cases hl with
        | root _ => cases hcx
        | step hq _ => rw [htop] at hq; cases hq
      · rw [hl.getLast?_of_root hs.top hin] at hlast
        exact hroot (Option.some.inj hlast).symm
  · intro f h
    rw [htree]
    exact (hf.focus f (hcalled.focus f h).1).2
  · rw [htree, hcalled.root]
    exact hs.isContainer
  · rw [htree, hcalled.root]
    exact (Function.update_of_ne hroot.symm _ _).trans hs.top

/-- The step lemma for unmounting. -/
theorem FocusFits.unmountChildComponent (hf : s.FocusFits) (hs : s.Rooted)
    (hok : (NavigatorOp.unmountChildComponent c).KeepsFocus s)
    (hrun : s.unmountChildComponent c = some s') : s'.FocusFits ∧ s'.Rooted := by
  obtain ⟨⟨t', calls⟩, hunmount, hs'⟩ := Option.map_eq_some_iff.mp hrun
  obtain ⟨hcalled, htree⟩ := afterCalls_called hs'
  have hforest := hs.forest.unmounted hunmount
  obtain ⟨lc, hlc⟩ := hs.forest.ends c
  rw [hs.forest.unmountChildComponent_eq hlc] at hunmount
  obtain ⟨rfl, hcalls⟩ := Prod.mk.inj (Option.some.inj hunmount)
  rw [← htree] at hforest
  refine ⟨hf.called hs.forest hcalled hforest (by rw [htree]; rfl) ?_ ?_, hforest, ?_, ?_⟩
  · intro x l hx hl hin
    rw [htree]
    show ParentChain (Function.update s.tree.parent c none) x l
    by_cases hroot : s.tree.parent c = none
    · have hsame : Function.update s.tree.parent c none = s.tree.parent :=
        hroot ▸ Function.update_eq_self c s.tree.parent
      rw [hsame]
      exact hl
    · obtain ⟨hcontainer, hfocus⟩ := hok hroot
      refine hl.update_of_not_mem (fun hcx => ?_) none
      have hbelow : s.tree.AtOrBelow c x := ⟨l, hl, hcx⟩
      rcases hx with hx | hx
      · -- the focus would have been taken away
        obtain ⟨hold, hkept⟩ := hcalled.focus x hx
        obtain ⟨rfl, k, hk, hlisted⟩ := hfocus x hold hbelow
        rw [hs.forest.nearestAncestorContainer_eq hlc] at hk
        have hfound : s.tree.isFocusable x = true ∧
            s.tree.FoundAt x (lc.find? s.tree.isContainer) :=
          ⟨(hf.focus x hold).2, k, Option.some.inj hk, hlisted⟩
        rw [if_pos hfound] at hcalls
        cases hkept .ComponentRemoved (hcalls ▸ List.mem_singleton.mpr rfl)
      · exact hcontainer x (hcalled.container ▸ hx) hbelow
  · intro f h
    rw [htree]
    exact (hf.focus f (hcalled.focus f h).1).2
  · rw [htree, hcalled.root]
    exact hs.isContainer
  · rw [htree, hcalled.root]
    show Function.update s.tree.parent c none s.rootContainer_ = none
    by_cases hc : s.rootContainer_ = c
    · rw [hc, Function.update_self]
    · rw [Function.update_of_ne hc]
      exact hs.top

/-- The step lemma for new props. -/
theorem FocusFits.updateProps (hf : s.FocusFits) (hs : s.Rooted) {props : FocusProps}
    {forceUpdate : Bool}
    (hok : s.currentFocus_ = some x →
      (s.tree.withProps x props forceUpdate).isFocusable x = false →
      ∃ k, s.tree.nearestAncestorContainer x = some (some k) ∧ x ∈ s.tree.navComponentList k)
    (hrun : (s.tree.updateProps x props forceUpdate).map s.afterCalls = some s') :
    s'.FocusFits ∧ s'.Rooted := by
  obtain ⟨⟨t', calls⟩, hupdate, hs'⟩ := Option.map_eq_some_iff.mp hrun
  obtain ⟨hcalled, htree⟩ := afterCalls_called hs'
  have hforest := hs.forest.updated hupdate
  obtain ⟨l, hl⟩ := hs.forest.ends x
  rw [hs.forest.updateProps_eq hl] at hupdate
  obtain ⟨rfl, hcalls⟩ := Prod.mk.inj (Option.some.inj hupdate)
  rw [← htree] at hforest
  have hparent : s'.tree.parent = s.tree.parent := by
    rw [htree, ComponentTree.relinked_parent]
  have hisContainer : s'.tree.isContainer = s.tree.isContainer := by
    rw [htree, ComponentTree.relinked_isContainer, ComponentTree.withProps_isContainer]
  have hfocusable : s'.tree.isFocusable = (s.tree.withProps x props forceUpdate).isFocusable := by
    rw [htree, ComponentTree.relinked_isFocusable]
  refine ⟨hf.called hs.forest hcalled hforest hisContainer ?_ ?_, hforest, ?_, ?_⟩
  · intro y m _ hm _
    rw [hparent]
    exact hm
  · intro f h
    obtain ⟨hold, hkept⟩ := hcalled.focus f h
    rw [hfocusable]
    by_cases hfx : f = x
    · subst hfx
      by_contra hnot
      rw [Bool.not_eq_true] at hnot
      obtain ⟨k, hk, hlisted⟩ := hok hold hnot
      rw [hs.forest.nearestAncestorContainer_eq hl] at hk
      have hfound : s.tree.FoundAt f (l.find? s.tree.isContainer) :=
        ⟨k, Option.some.inj hk, hlisted⟩
      rw [if_pos hfound, if_neg (by rw [hnot]; simp)] at hcalls
      cases hkept .ComponentUpdated (hcalls ▸ List.mem_singleton.mpr rfl)
    · rw [ComponentTree.withProps_isFocusable_ne _ _ _ _ hfx]
      exact (hf.focus f hold).2
  · rw [hisContainer, hcalled.root]
    exact hs.isContainer
  · rw [hparent, hcalled.root]
    exact hs.top

/-- Tasks are not looked at. -/
theorem FocusFits.withTasks (hf : s.FocusFits) (tasks : List LayerId) :
    ({ s with tasks := tasks } : SpatialNavigator).FocusFits :=
  ⟨hf.focus, hf.container, hf.nearest, hf.scrolled⟩

theorem Rooted.withTasks (hs : s.Rooted) (tasks : List LayerId) :
    ({ s with tasks := tasks } : SpatialNavigator).Rooted :=
  ⟨hs.forest, hs.isContainer, hs.top⟩

/-- The tasks come first, whatever they are. -/
theorem updateProps_eq (s : SpatialNavigator) (x : LayerId) (props : FocusProps)
    (forceUpdate : Bool) :
    ∃ tasks, s.updateProps x props forceUpdate =
      (s.tree.updateProps x props forceUpdate).map
        ({ s with tasks := tasks } : SpatialNavigator).afterCalls := by
  unfold SpatialNavigator.updateProps setNeedFocusUpdate
  simp only
  split
  · split
    · exact ⟨_, rfl⟩
    · exact ⟨_, rfl⟩
  · split
    · exact ⟨_, rfl⟩
    · exact ⟨s.tasks, rfl⟩

theorem FocusFits.updateComponentData (hf : s.FocusFits) (hs : s.Rooted) {layoutMetrics : Bool}
    {props : Option FocusProps} {forceUpdate : Bool}
    (hok : (NavigatorOp.updateComponentData x layoutMetrics props forceUpdate).KeepsFocus s)
    (hrun : s.updateComponentData x layoutMetrics props forceUpdate = some s') :
    s'.FocusFits ∧ s'.Rooted := by
  unfold SpatialNavigator.updateComponentData at hrun
  obtain ⟨u, hu, hrun⟩ := Option.bind_eq_some_iff.mp hrun
  have hfits : u.FocusFits ∧ u.Rooted := by
    unfold updatePropsIfAny at hu
    cases props with
    | none =>
      obtain rfl := Option.some.inj hu
      exact ⟨hf, hs⟩
    | some props =>
      obtain ⟨tasks, heq⟩ := s.updateProps_eq x props forceUpdate
      simp only [heq] at hu
      exact (hf.withTasks tasks).updateProps (hs.withTasks tasks)
        (fun hx => hok hx props rfl) hu
  obtain rfl := Option.some.inj hrun
  split
  · exact ⟨hfits.1.withTasks _, hfits.2.withTasks _⟩
  · exact hfits

theorem FocusFits.runTask (hf : s.FocusFits) (hs : s.Rooted) {alive : Bool}
    (hok : (NavigatorOp.runTask alive).KeepsFocus s) (hrun : s.runTask alive = some s') :
    s'.FocusFits ∧ s'.Rooted := by
  unfold SpatialNavigator.runTask at hrun
  split at hrun
  · cases hrun
  · rename_i c tasks htasks
    split at hrun
    · rename_i halive
      rcases hok halive c (by rw [htasks]; rfl) with hfocus | ⟨hatt, hfocusable⟩
      · unfold updateFocusCandidate at hrun
        rw [if_pos hfocus] at hrun
        obtain rfl := Option.some.inj hrun
        exact ⟨hf.withTasks tasks, hs.withTasks tasks⟩
      · have hnav := updateFocusCandidate_fits (hs.withTasks tasks) (hf.withTasks tasks)
          hatt hfocusable hrun
        exact ⟨hnav.fits, hnav.rooted (hs.withTasks tasks)⟩
    · obtain rfl := Option.some.inj hrun
      exact ⟨hf.withTasks tasks, hs.withTasks tasks⟩

/-- The step lemma. -/
theorem FocusFits.exec (hf : s.FocusFits) (hs : s.Rooted) {op : NavigatorOp} {levels : Nat}
    (hr : op.InRange s) (hok : op.KeepsFocus s) (hrun : op.exec s levels = some s') :
    s'.FocusFits ∧ s'.Rooted := by
  cases op with
  | mountChildComponent p c =>
    exact hf.mountChildComponent hs hok.1 hok.2.1 hok.2.2 hr.2 hr.1 hrun
  | unmountChildComponent c => exact hf.unmountChildComponent hs hok hrun
  | updateComponentData x layoutMetrics props forceUpdate =>
    exact hf.updateComponentData hs hok hrun
  | handleKeyEvent eventKeyType eventKeyAction =>
    have hnav := hf.handleKeyEvent hs hok hrun
    exact ⟨hnav.fits, hnav.rooted hs⟩
  | runTask alive => exact hf.runTask hs hok hrun
  | relayout scrollView =>
    obtain rfl := Option.some.inj hrun
    exact ⟨hf.rescrolled scrollView, hs.rescrolled scrollView⟩

/-- Nothing is mounted yet, and there is no focus. -/
structure Fresh (s : SpatialNavigator) : Prop where
  tree : s.tree.Fresh
  isContainer : s.tree.isContainer s.rootContainer_ = true
  focus : s.currentFocus_ = none
  container : s.currentContainer_ = none
  tasks : s.tasks = []
  scrolled : s.scrolledNull = false

theorem Fresh.fits (h : s.Fresh) : s.FocusFits := by
  refine ⟨?_, ?_, ?_, h.scrolled⟩
  · intro f hf
    rw [h.focus] at hf
    cases hf
  · intro k hk
    rw [h.container] at hk
    cases hk
  · intro f hf
    rw [h.focus] at hf
    cases hf

/-- In every run whose operations meet the assumptions the focus refers to the mounted tree. -/
theorem navigatorRun_fits (hfresh : s.Fresh)
    (hrun : Run navigatorStep (fun s op => op.KeepsFocus s) s s') : s'.FocusFits := by
  have hinv : s'.FocusFits ∧ s'.Rooted := by
    refine hrun.invariant (P := fun s => s.FocusFits ∧ s.Rooted) ?_
      ⟨hfresh.fits, hfresh.tree.forest, hfresh.isContainer, hfresh.tree.unmounted _⟩
    rintro u op v ⟨hf, hs⟩ hok ⟨hr, levels, hexec⟩
    exact hf.exec hs hr hok hexec
  exact hinv.1

end

end SpatialNavigator

end

namespace SpatialNavigator

open TranslationSkia

/-- The components of `assembly` and a navigator on the root view. -/
def assemblyNavigator : SpatialNavigator where
  tree := ComponentTree.assembly
  rootContainer_ := 0

theorem assemblyNavigator_fresh : assemblyNavigator.Fresh :=
  ⟨ComponentTree.assembly_fresh, by decide, rfl, rfl, rfl, rfl⟩

instance (s : SpatialNavigator) (op : NavigatorOp) : Decidable (op.InRange s) := by
  cases op <;> unfold NavigatorOp.InRange <;> infer_instance

def preferredProps : FocusProps := { focusable := true, hasTVPreferredFocus := true }

/-- The focusable view is mounted on the root view, and its task takes the focus to it. -/
theorem navigatorRun_fits_preferred : ∃ s' : SpatialNavigator, s'.currentFocus_ = some 2 ∧
    s'.FocusFits := by
  obtain ⟨s₁, h₁⟩ : ∃ s₁, NavigatorOp.exec assemblyNavigator 0 (.mountChildComponent 0 2) =
      some s₁ := Option.isSome_iff_exists.mp (by decide)
  have hsome : ((NavigatorOp.exec assemblyNavigator 0 (.mountChildComponent 0 2)).bind
      fun s => NavigatorOp.exec s 0 (.updateComponentData 2 false (some preferredProps)
        false)).isSome = true := by
    decide
  have hn : (NavigatorOp.exec assemblyNavigator 0 (.mountChildComponent 0 2)).map (fun s =>
      (s.tree.nextId, s.currentFocus_)) = some (3, none) := by
    decide
  have htask : (((NavigatorOp.exec assemblyNavigator 0 (.mountChildComponent 0 2)).bind
      fun s => NavigatorOp.exec s 0 (.updateComponentData 2 false (some preferredProps)
        false)).map fun s => (s.tasks, s.rootContainer_, s.tree.parent 2, s.tree.parent 0,
          s.tree.isFocusable 2)) = some ([2], 0, some 0, none, true) := by
    decide
  have hfocus : (((NavigatorOp.exec assemblyNavigator 0 (.mountChildComponent 0 2)).bind
      fun s => NavigatorOp.exec s 0 (.updateComponentData 2 false (some preferredProps)
        false)).bind fun s => s.runTask true).map currentFocus_ = some (some 2) := by
    decide
  rw [h₁] at hsome hn htask hfocus
  rw [Option.bind_some] at hsome htask hfocus
  obtain ⟨s₂, h₂⟩ := Option.isSome_iff_exists.mp hsome
  rw [h₂] at htask hfocus
  obtain ⟨hn₁, hfocus₁⟩ :=
    by simpa only [Option.map_some, Option.some.injEq, Prod.mk.injEq] using hn
  obtain ⟨htasks, hroot, hp₂, hp₀, hfocusable⟩ :=
    by simpa only [Option.map_some, Option.some.injEq, Prod.mk.injEq] using htask
  obtain ⟨s₃, h₃, hfocus₃⟩ := Option.map_eq_some_iff.mp hfocus
  have hmount : NavigatorOp.KeepsFocus assemblyNavigator (.mountChildComponent 0 2) := by
    refine ⟨by decide, ?_, by decide⟩
    rintro ⟨l, hl, hin⟩
    cases hl with
    | root _ => exact absurd (List.mem_singleton.mp hin) (by decide)
    | step hp _ => cases hp
  have hattached : s₂.Attached 2 := by
    unfold Attached
    rw [hroot]
    exact ⟨[0], .step hp₂ (.root hp₀), by simp⟩
  refine ⟨s₃, hfocus₃, navigatorRun_fits assemblyNavigator_fresh
    (((Run.single (a := .mountChildComponent 0 2) hmount ⟨by decide, 0, h₁⟩).tail
      (a := .updateComponentData 2 false (some preferredProps) false) ?_ ⟨?_, 0, h₂⟩).tail
      (a := .runTask true) ?_ ⟨trivial, 0, h₃⟩)⟩
  · intro hfocus
    rw [hfocus₁] at hfocus
    cases hfocus
  · intro _ c hc
    rw [htasks] at hc
    obtain rfl := Option.some.inj hc
    exact Or.inr ⟨hattached, hfocusable⟩
  · simp [NavigatorOp.InRange, hn₁]

/-- The focusable view is mounted on the plain view and has the focus when the plain view is
unmounted. -/
theorem focus_left_behind : ¬ ∀ s s' : SpatialNavigator, s.Fresh →
    Run navigatorStep anyStep s s' → s'.FocusFits := by
  intro hall
  obtain ⟨exec, hexec⟩ : ∃ exec : SpatialNavigator → NavigatorOp → Option SpatialNavigator,
      exec = fun s op => if op.InRange s then op.exec s 0 else none := ⟨_, rfl⟩
  have hrun : ([.mountChildComponent 0 1, .mountChildComponent 1 2,
      .updateComponentData 2 false (some preferredProps) false, .runTask true,
      .unmountChildComponent 1].foldlM exec assemblyNavigator).map (fun s =>
        (s.currentFocus_, s.rootContainer_, s.tree.parent 2, s.tree.parent 1)) =
      some (some 2, 0, some 1, none) := by
    rw [hexec]
    decide
  obtain ⟨s, hfold, hs⟩ := Option.map_eq_some_iff.mp hrun
  simp only [Prod.mk.injEq] at hs
  obtain ⟨hfocus, hroot, hp₂, hp₁⟩ := hs
  have hfits := hall assemblyNavigator s assemblyNavigator_fresh
    (Run.of_foldlM (fun s op s' h => ⟨trivial, by
      rw [hexec] at h
      simp only at h
      split at h
      · rename_i hr
        exact ⟨hr, 0, h⟩
      · cases h⟩) hfold)
  obtain ⟨⟨l, hl, hin⟩, -⟩ := hfits.focus 2 hfocus
  rw [hroot] at hin
  obtain rfl := hl.unique (.step hp₂ (.root hp₁))
  simp at hin

end SpatialNavigator

end ReactNativeSkia
