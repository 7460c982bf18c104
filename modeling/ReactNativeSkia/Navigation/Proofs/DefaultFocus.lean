import ReactNativeSkia.Navigation.Proofs.FocusSearch
import ReactNativeSkia.Misc.Preorder

/-!
# The default focus

The search for a preferred focus looks through a container for preferred entries, but the answer
from within takes the place of the container: a container that is preferred itself is passed over.
-/

namespace ReactNativeSkia

section
variable [Skia]

namespace ComponentTree

/-! ## Depth-first order -/

/-- The list of a container; a plain component has nothing in it. -/
def entries (t : ComponentTree) (x : LayerId) : List LayerId :=
  if t.isContainer x then t.navComponentList x else []

def hasTVPreferredFocus (t : ComponentTree) (x : LayerId) : Bool :=
  (t.component x).props.hasTVPreferredFocus

/-- What can be reached through the lists of `n` levels, a container before its entries. -/
def reachable (t : ComponentTree) (n : Nat) (container : LayerId) : List LayerId :=
  (preorder t.entries n container).tail

/-- The component that is to have the focus by default, if one is preferred. -/
def lastPreferred (t : ComponentTree) (n : Nat) (container : LayerId) : Option LayerId :=
  ((t.reachable n container).filter t.hasTVPreferredFocus).getLast?

/-- The default focus is the last preferred component, or the first in the container. -/
def DefaultFocusHonours (t : ComponentTree) (n : Nat) (container : LayerId) : Prop :=
  ∃ result, t.findDefaultFocusInContainer n container = some result ∧
    (∀ x, t.lastPreferred n container = some x → result = some x) ∧
    (t.lastPreferred n container = none → t.firstInContainer n container = some result)

/-- The search for a preferred focus takes this one into account. -/
def isPreferredView (t : ComponentTree) (x : LayerId) : Bool :=
  t.hasTVPreferredFocus x && !t.isContainer x

/-- The last preferred component among these that is not a container. -/
def lastPreferredView (t : ComponentTree) (l : List LayerId) : Option LayerId :=
  (l.filter t.isPreferredView).getLast?

/-- There is no first entry of the container to be seen. -/
def Stops (t : ComponentTree) (container : LayerId) : Prop :=
  ∀ first ∈ (t.navComponentList container).head?, t.isVisible container first = false

/-- From container to first entry, as long as that is visible, the way ends at this component. -/
inductive LeadsTo (t : ComponentTree) : LayerId → LayerId → Prop where
  | ends {container x : LayerId} (hfirst : (t.navComponentList container).head? = some x)
      (hvisible : t.isVisible container x = true) (hstops : t.isContainer x = true → t.Stops x) :
      LeadsTo t container x
  | goesOn {container first x : LayerId}
      (hfirst : (t.navComponentList container).head? = some first)
      (hvisible : t.isVisible container first = true) (hcontainer : t.isContainer first = true)
      (h : LeadsTo t first x) : LeadsTo t container x

variable {t : ComponentTree} {n : Nat} {container c x : LayerId} {l : List LayerId}

theorem entries_of_isContainer (h : t.isContainer x = true) : t.entries x = t.navComponentList x :=
  if_pos h

theorem entries_of_not_isContainer (h : t.isContainer x = false) : t.entries x = [] :=
  if_neg (by simp [h])

theorem reachable_succ (h : t.isContainer container = true) :
    t.reachable (n + 1) container =
      (t.navComponentList container).flatMap (preorder t.entries n) := by
  rw [reachable, preorder, List.tail_cons, entries_of_isContainer h]

theorem preorder_view (hd : DepthLt t.entries n x) (h : t.isContainer x = false) :
    preorder t.entries n x = [x] := by
  cases n with
  | zero => exact hd.elim
  | succ n => rw [preorder, entries_of_not_isContainer h, List.flatMap_nil]

theorem preorder_container (hd : DepthLt t.entries n x) :
    preorder t.entries n x = x :: t.reachable n x := by
  cases n with
  | zero => exact hd.elim
  | succ n => rfl

theorem lastPreferredView_append (l₁ l₂ : List LayerId) :
    t.lastPreferredView (l₁ ++ l₂) = (t.lastPreferredView l₂).or (t.lastPreferredView l₁) := by
  rw [lastPreferredView, List.filter_append, List.getLast?_append]
  rfl

theorem lastPreferredView_cons_container (h : t.isContainer x = true) :
    t.lastPreferredView (x :: l) = t.lastPreferredView l := by
  simp [lastPreferredView, isPreferredView, h]

theorem lastPreferredView_some (h : t.lastPreferredView l = some x) :
    x ∈ l ∧ t.hasTVPreferredFocus x = true ∧ t.isContainer x = false := by
  have hmem := List.mem_filter.mp (List.mem_of_getLast? h)
  simpa [isPreferredView] using hmem

/-! ## What the searches return -/

/-- One candidate decides if something preferred that is not a container is found in it. -/
theorem preferredFocusFrom_cons {f : LayerId → Option (Option LayerId)}
    (hd : DepthLt t.entries n c)
    (hf : t.isContainer c = true → f c = some (t.lastPreferredView (t.reachable n c))) :
    t.preferredFocusFrom f (c :: l) =
      match t.lastPreferredView (preorder t.entries n c) with
      | some x => some (some x)
      | none => t.preferredFocusFrom f l := by
  rw [preferredFocusFrom, preferredFocusOf]
  cases hcontainer : t.isContainer c with
  | true =>
    rw [if_pos rfl, hf hcontainer, preorder_container hd,
      lastPreferredView_cons_container hcontainer]
    cases hlast : t.lastPreferredView (t.reachable n c) with
    | none => rfl
    | some x =>
      have hpreferred : (t.component x).props.hasTVPreferredFocus = true :=
        (lastPreferredView_some hlast).2.1
      simp [hpreferred]
  | false =>
    rw [preorder_view hd hcontainer]
    cases hpreferred : (t.component c).props.hasTVPreferredFocus with
    | true => simp [lastPreferredView, isPreferredView, hasTVPreferredFocus, hcontainer, hpreferred]
    | false => simp [lastPreferredView, isPreferredView, hasTVPreferredFocus, hpreferred]

/-- The loop from the last candidate on finds the last in depth-first order. -/
theorem preferredFocusFrom_reverse {f : LayerId → Option (Option LayerId)} (l : List LayerId)
    (hd : ∀ c ∈ l, DepthLt t.entries n c)
    (hf : ∀ c ∈ l, t.isContainer c = true →
      f c = some (t.lastPreferredView (t.reachable n c))) :
    t.preferredFocusFrom f l.reverse =
      some (t.lastPreferredView (l.flatMap (preorder t.entries n))) := by
  induction l using List.reverseRecOn with
  | nil => rfl
  | append_singleton l c ih =>
    have hc : c ∈ l ++ [c] := List.mem_append_right l (List.mem_singleton_self c)
    rw [List.reverse_append, List.reverse_singleton, List.singleton_append,
      preferredFocusFrom_cons (hd c hc) (hf c hc),
      ih (fun b hb => hd b (List.mem_append_left _ hb))
        (fun b hb => hf b (List.mem_append_left _ hb)),
      List.flatMap_append, List.flatMap_singleton, lastPreferredView_append]
    cases t.lastPreferredView (preorder t.entries n c) <;> rfl

/-- The search for a preferred focus returns the last preferred component that is not a
container. -/
theorem preferredFocusInContainer_eq (hcontainer : t.isContainer container = true)
    (hd : DepthLt t.entries n container) :
    t.preferredFocusInContainer n container =
      some (t.lastPreferredView (t.reachable n container)) := by
  induction n generalizing container with
  | zero => exact hd.elim
  | succ n ih =>
    have hbelow : ∀ c ∈ t.navComponentList container, DepthLt t.entries n c := by
      rw [← entries_of_isContainer hcontainer]
      exact hd
    rw [preferredFocusInContainer, reachable_succ hcontainer]
    exact preferredFocusFrom_reverse _ hbelow fun c hc hcc => ih hcc (hbelow c hc)

theorem firstInContainer_cons {first : LayerId} {rest : List LayerId}
    (hlist : t.navComponentList container = first :: rest)
    (hvisible : t.isVisible container first = true) :
    t.firstInContainer (n + 1) container =
      if t.isContainer first then (t.firstInContainer n first).map fun x => some (x.getD first)
      else some (some first) := by
  rw [firstInContainer, hlist]
  simp [hvisible]

/-- Where there is nothing to be seen the way does not begin. -/
theorem not_leadsTo (h : t.Stops container) : ¬ t.LeadsTo container x := by
  rintro (⟨hfirst, hvisible, -⟩ | ⟨hfirst, hvisible, -, -⟩)
  · rw [h _ hfirst] at hvisible
    cases hvisible
  · rw [h _ hfirst] at hvisible
    cases hvisible

/-- The first component in a container is the one to which the way leads. -/
theorem firstInContainer_eq (hcontainer : t.isContainer container = true)
    (hd : DepthLt t.entries n container) :
    ∃ result, t.firstInContainer n container = some result ∧
      (result = none → t.Stops container) ∧ ∀ x, result = some x ↔ t.LeadsTo container x := by
  induction n generalizing container with
  | zero => exact hd.elim
  | succ n ih =>
    cases hlist : t.navComponentList container with
    | nil =>
      have hstops : t.Stops container := by simp [Stops, hlist]
      refine ⟨none, by rw [firstInContainer, hlist], fun _ => hstops, fun x => ?_⟩
      exact iff_of_false (by simp) (not_leadsTo hstops)
    | cons first rest =>
      have hhead : (t.navComponentList container).head? = some first := by rw [hlist]; rfl
      cases hvisible : t.isVisible container first with
      | false =>
        have hstops : t.Stops container := by simpa [Stops, hlist] using hvisible
        refine ⟨none, by simp [firstInContainer, hlist, hvisible], fun _ => hstops, fun x => ?_⟩
        exact iff_of_false (by simp) (not_leadsTo hstops)
      | true =>
        rw [firstInContainer_cons hlist hvisible]
        cases hfirst : t.isContainer first with
        | false =>
          refine ⟨some first, by simp, by simp, fun x => ⟨?_, ?_⟩⟩
          · rintro ⟨⟩
            exact .ends hhead hvisible (by simp [hfirst])
          · rintro (⟨hx, -, -⟩ | ⟨hx, -, hc, -⟩)
            · exact hhead.symm.trans hx
            · obtain rfl := Option.some.inj (hhead.symm.trans hx)
              rw [hfirst] at hc
              cases hc
        | true =>
          have hbelow : DepthLt t.entries n first := by
            refine hd first ?_
            rw [entries_of_isContainer hcontainer, hlist]
            exact List.mem_cons_self
          obtain ⟨inner, hinner, hnone, hsome⟩ := ih hfirst hbelow
          refine ⟨some (inner.getD first), by simp [hinner], by simp, fun x => ⟨?_, ?_⟩⟩
          · rintro ⟨⟩
            cases inner with
            | none => exact .ends hhead hvisible fun _ => hnone rfl
            | some y => exact .goesOn hhead hvisible hfirst ((hsome y).mp rfl)
          · rintro (⟨hx, -, hstops⟩ | ⟨hx, -, -, hlead⟩)
            · obtain rfl := Option.some.inj (hhead.symm.trans hx)
              cases inner with
              | none => rfl
              | some y => exact absurd ((hsome y).mp rfl) (not_leadsTo (hstops hfirst))
            · obtain rfl := Option.some.inj (hhead.symm.trans hx)
              rw [(hsome x).mpr hlead, Option.getD_some]

theorem findDefaultFocusInContainer_eq (hcontainer : t.isContainer container = true)
    (hd : DepthLt t.entries n container) :
    ∃ first, t.firstInContainer n container = some first ∧
      (∀ x, first = some x ↔ t.LeadsTo container x) ∧
      t.findDefaultFocusInContainer n container =
        some ((t.lastPreferredView (t.reachable n container)).or first) := by
  obtain ⟨first, hfirst, -, hlead⟩ := firstInContainer_eq hcontainer hd
  refine ⟨first, hfirst, hlead, ?_⟩
  rw [findDefaultFocusInContainer, preferredFocusInContainer_eq hcontainer hd]
  cases t.lastPreferredView (t.reachable n container) with
  | none => exact hfirst
  | some x => rfl

/-! ## When a preference is honoured -/

theorem lastPreferredView_eq_none :
    t.lastPreferredView l = none ↔
      ∀ y ∈ l, t.hasTVPreferredFocus y = true → t.isContainer y = true := by
  rw [lastPreferredView, List.getLast?_eq_none_iff, List.filter_eq_nil_iff]
  simp [isPreferredView]

theorem lastPreferred_eq_none :
    t.lastPreferred n container = none ↔
      ∀ y ∈ t.reachable n container, t.hasTVPreferredFocus y = false := by
  rw [lastPreferred, List.getLast?_eq_none_iff, List.filter_eq_nil_iff]
  simp

/-- If the last preferred component is not a container, it is the last such. -/
theorem lastPreferredView_of_lastPreferred (hlast : t.lastPreferred n container = some x)
    (hview : t.isContainer x = false) :
    t.lastPreferredView (t.reachable n container) = some x := by
  obtain ⟨before, hbefore⟩ := List.getLast?_eq_some_iff.mp hlast
  have hfilter : (t.reachable n container).filter t.isPreferredView =
      (before ++ [x]).filter fun y => !t.isContainer y := by
    rw [← hbefore, List.filter_filter]
    exact List.filter_congr fun y _ => Bool.and_comm _ _
  rw [lastPreferredView, hfilter]
  simp [List.filter_append, hview]

/-- The default focus honours a preference exactly if nothing is preferred, or the last preferred
component is not a container, or only containers are preferred and the last of them happens to be
the first component to be seen. -/
theorem findDefaultFocusInContainer_honours_iff (t : ComponentTree) (n : Nat)
    (container : LayerId) (hcontainer : t.isContainer container = true)
    (hd : DepthLt t.entries n container) :
    t.DefaultFocusHonours n container ↔
      ∀ x, t.lastPreferred n container = some x → t.isContainer x = false ∨
        ((∀ y ∈ t.reachable n container, t.hasTVPreferredFocus y = true →
          t.isContainer y = true) ∧ t.LeadsTo container x) := by
  obtain ⟨first, hfirst, hlead, hfind⟩ := findDefaultFocusInContainer_eq hcontainer hd
  constructor
  · rintro ⟨result, hresult, hpreferred, -⟩ x hlast
    obtain rfl := Option.some.inj (hfind.symm.trans hresult)
    have hx := hpreferred x hlast
    cases hview : t.lastPreferredView (t.reachable n container) with
    | none =>
      rw [hview, Option.none_or] at hx
      exact Or.inr ⟨lastPreferredView_eq_none.mp hview, (hlead x).mp hx⟩
    | some y =>
      rw [hview, Option.some_or] at hx
      obtain rfl := Option.some.inj hx
      exact Or.inl (lastPreferredView_some hview).2.2
  · intro hcond
    refine ⟨_, hfind, fun x hlast => ?_, fun hlast => ?_⟩
    · rcases hcond x hlast with hview | ⟨hcontainers, hx⟩
      · rw [lastPreferredView_of_lastPreferred hlast hview, Option.some_or]
      · rw [lastPreferredView_eq_none.mpr hcontainers, Option.none_or]
        exact (hlead x).mpr hx
    · have hnone : t.lastPreferredView (t.reachable n container) = none := by
        refine lastPreferredView_eq_none.mpr fun y hy hpreferred => ?_
        rw [lastPreferred_eq_none.mp hlast y hy] at hpreferred
        cases hpreferred
      rw [hnone, Option.none_or]
      exact hfirst

end ComponentTree

end

open TranslationSkia

namespace ComponentTree

/-- The nested tree with one preferred component. -/
def nestedTreePreferring (x : LayerId) : ComponentTree :=
  nestedTree.modify x fun c => { c with props := { c.props with hasTVPreferredFocus := true } }

theorem findDefaultFocusInContainer_honours_iff_view :
    (nestedTreePreferring 4).DefaultFocusHonours 4 0 := by
  refine (findDefaultFocusInContainer_honours_iff (nestedTreePreferring 4) 4 0 ?_ ?_).mpr ?_
  · decide
  · decide
  · intro x hx
    have hlast : (nestedTreePreferring 4).lastPreferred 4 0 = some 4 := by decide
    obtain rfl := Option.some.inj (hlast.symm.trans hx)
    exact Or.inl (by decide)

/-- The preferred scroll view does not get the focus. -/
theorem not_findDefaultFocusInContainer_honours :
    ¬ (nestedTreePreferring 2).DefaultFocusHonours 4 0 := by
  rintro ⟨result, hresult, hpreferred, -⟩
  have hfind : (nestedTreePreferring 2).findDefaultFocusInContainer 4 0 = some (some 1) := by
    decide +kernel
  have hlast : (nestedTreePreferring 2).lastPreferred 4 0 = some 2 := by decide +kernel
  rw [hfind] at hresult
  rw [← Option.some.inj hresult] at hpreferred
  exact absurd (hpreferred 2 hlast) (by decide)

end ComponentTree

end ReactNativeSkia
