import ReactNativeSkia.Navigation.Proofs.Tree
import ReactNativeSkia.Misc.Run

/-!
# The lists of the containers mirror the tree

Each mounted focusable component should be listed once, by its nearest container, or by the top of
its tree while it has none, and nothing should be listed but what is mounted below. The lists
miss this where the code leaves entries behind: a plain child that is mounted with focusable
components below it keeps them in its own list, and an unmounted subtree takes nothing but its
root out of the lists above.
-/

namespace ReactNativeSkia

/-- The operations on the tree. -/
inductive TreeOp where
  | mountChildComponent (parent newChildComponent : LayerId)
  | unmountChildComponent (oldChildComponent : LayerId)
  | updateProps (component : LayerId) (props : FocusProps) (forceUpdate : Bool)

theorem count_update_append (lists : LayerId → List LayerId) (k : LayerId)
    (added : List LayerId) (o d : LayerId) :
    (Function.update lists k (lists k ++ added) o).count d =
      (lists o).count d + if o = k then added.count d else 0 := by
  by_cases hok : o = k
  · subst hok
    rw [Function.update_self, List.count_append, if_pos rfl]
  · rw [Function.update_of_ne hok, if_neg hok, Nat.add_zero]

section
variable [Skia]

namespace ComponentTree

/-- Where a component with the ancestors `l` should be listed. -/
def home (t : ComponentTree) (l : List LayerId) : Option LayerId :=
  (l.find? t.isContainer).or l.getLast?

/-- The component itself or one above it is a container. -/
def InContainer (t : ComponentTree) (x : LayerId) : Prop :=
  t.isContainer x = true ∨ ∃ k, t.nearestAncestorContainer x = some (some k)

/-- The lists mirror the tree. -/
structure Mirrored (t : ComponentTree) : Prop where
  listed : ∀ c l, ParentChain t.parent c l → l ≠ [] → t.isFocusable c = true → ∀ o,
    (t.navComponentList o).count c = if t.home l = some o then 1 else 0
  below : ∀ o, ∀ d ∈ t.navComponentList o, ∃ l, ParentChain t.parent d l ∧ o ∈ l

/-- Components just made. -/
structure Fresh (t : ComponentTree) : Prop where
  unmounted : ∀ x, t.parent x = none
  empty : ∀ x, t.navComponentList x = []

theorem Fresh.forest {t : ComponentTree} (h : t.Fresh) : t.Forest where
  ends x := .of_root (h.unmounted x)
  range x p hp := by rw [h.unmounted] at hp; cases hp

theorem Fresh.mirrored {t : ComponentTree} (h : t.Fresh) : t.Mirrored where
  listed c l hl hne := by
    cases hl with
    | root _ => exact absurd rfl hne
    | step hp _ => rw [h.unmounted] at hp; cases hp
  below o d hd := by rw [h.empty] at hd; cases hd

end ComponentTree

namespace TreeOp

def exec (t : ComponentTree) : TreeOp → Option ComponentTree
  | mountChildComponent parent newChildComponent =>
    (t.mountChildComponent parent newChildComponent).map Prod.fst
  | unmountChildComponent oldChildComponent =>
    (t.unmountChildComponent oldChildComponent).map Prod.fst
  | updateProps component props forceUpdate =>
    (t.updateProps component props forceUpdate).map Prod.fst

/-- The arguments are components made before. -/
def InRange (t : ComponentTree) : TreeOp → Prop
  | mountChildComponent parent newChildComponent =>
    parent < t.nextId ∧ newChildComponent < t.nextId
  | unmountChildComponent component | updateProps component _ _ => component < t.nextId

/-- The operation meets the code's assumptions. A child is mounted while it is not mounted, and
not below itself; a plain one has no focusable component in its own list, and a focusable one
gets below a container or directly below the top. No list outside an unmounted subtree holds
anything of it but the focusable root of the subtree, which has a container above it. What
becomes focusable is not listed yet, except at most once by its container, or once by the top if
it has none. -/
def KeepsLists (t : ComponentTree) : TreeOp → Prop
  | mountChildComponent p c =>
    t.parent c = none ∧ ¬ t.AtOrBelow c p ∧
      (t.isContainer c = false → ∀ d ∈ t.navComponentList c, t.isFocusable d = false) ∧
      (t.isFocusable c = true → t.InContainer p ∨ t.parent p = none)
  | unmountChildComponent c =>
    ∀ o d, ¬ t.AtOrBelow c o → t.AtOrBelow c d → d ∈ t.navComponentList o →
      d = c ∧ t.isFocusable c = true ∧ ∃ k, t.nearestAncestorContainer c = some (some k)
  | updateProps x props forceUpdate =>
    t.isFocusable x = false → (t.withProps x props forceUpdate).isFocusable x = true →
      ∀ l, ParentChain t.parent x l → l ≠ [] → ∀ o,
        if t.home l = some o then
          (t.navComponentList o).count x ≤ 1 ∧
            (l.find? t.isContainer = none → x ∈ t.navComponentList o)
        else x ∉ t.navComponentList o

end TreeOp

def treeStep (t : ComponentTree) (op : TreeOp) (t' : ComponentTree) : Prop :=
  op.InRange t ∧ op.exec t = some t'

namespace ComponentTree

section
variable {t t' : ComponentTree} {x p c d : LayerId} {l m : List LayerId}

/-- A component that is not mounted is in no list. -/
theorem Mirrored.not_mem_of_root (hm : t.Mirrored) (hc : t.parent c = none) (o : LayerId) :
    c ∉ t.navComponentList o := by
  intro hin
  obtain ⟨l, hl, ho⟩ := hm.below o c hin
  cases hl with
  | root _ => cases ho
  | step hp _ => rw [hc] at hp; cases hp

/-- A focusable component is in the list of its home, and in no other. -/
theorem Mirrored.mem_iff_home (hm : t.Mirrored) (hl : ParentChain t.parent x l) (hne : l ≠ [])
    (hx : t.isFocusable x = true) (o : LayerId) :
    x ∈ t.navComponentList o ↔ t.home l = some o := by
  rw [← List.count_pos_iff, hm.listed x l hl hne hx o]
  split
  · rename_i ho
    exact ⟨fun _ => ho, fun _ => Nat.one_pos⟩
  · rename_i ho
    exact ⟨fun hpos => absurd hpos (Nat.lt_irrefl 0), fun heq => absurd heq ho⟩

/-! ## Mounting -/

/-- Where a child mounted on `p` is added is where it should be listed. -/
theorem home_eq_mountContainer (hp : ParentChain t.parent p l)
    (h : (p :: l).find? t.isContainer = none → l = []) :
    t.home (p :: l) = some (t.mountContainer p l) := by
  unfold home mountContainer
  cases hc : t.isContainer p with
  | true => simp [hc]
  | false =>
    rw [List.find?_cons, hc] at h ⊢
    cases hfind : l.find? t.isContainer with
    | none =>
      obtain rfl := h hfind
      simp
    | some k => simp

theorem home_append_of_some (hfind : l.find? t.isContainer = some x) (m : List LayerId) :
    t.home (l ++ m) = some x := by
  unfold home
  rw [List.find?_append, hfind]
  rfl

/-- A focusable component below `c` keeps its home when `c` is mounted, since a plain `c` has
none in its own list. -/
theorem Mirrored.home_append (hm : t.Mirrored) (hdm : ParentChain t.parent d m) (hcm : c ∈ m)
    (hroot : t.parent c = none) (hd : t.isFocusable d = true)
    (hplain : t.isContainer c = false → ∀ d ∈ t.navComponentList c, t.isFocusable d = false)
    (n : List LayerId) : t.home (m ++ n) = t.home m := by
  cases hfind : m.find? t.isContainer with
  | some q =>
    have hhome := home_append_of_some hfind []
    rw [List.append_nil] at hhome
    rw [home_append_of_some hfind, hhome]
  | none =>
    -- then `d` would be in the list of a plain `c`
    have hhome : t.home m = some c := by
      rw [home, hfind, Option.none_or, hdm.getLast?_of_root hroot hcm]
    have hin := (hm.mem_iff_home hdm (List.ne_nil_of_mem hcm) hd c).mpr hhome
    have hcontainer : t.isContainer c = false := by
      simpa using List.find?_eq_none.mp hfind c hcm
    exact absurd hd (Bool.eq_false_iff.mp (hplain hcontainer d hin))

/-- What mounting `c` adds to one list. -/
def mountedBy (t : ComponentTree) (c : LayerId) : List LayerId :=
  (if t.isFocusable c then [c] else []) ++ if t.isContainer c then [] else t.navComponentList c

theorem mem_mountedBy (h : d ∈ t.mountedBy c) :
    d = c ∨ t.isContainer c = false ∧ d ∈ t.navComponentList c := by
  rcases List.mem_append.mp h with h | h
  · split at h
    · exact Or.inl (List.mem_singleton.mp h)
    · cases h
  · split at h
    · cases h
    · rename_i hcontainer
      exact Or.inr ⟨Bool.eq_false_iff.mpr hcontainer, h⟩

theorem count_mountedBy_self (hc : t.isFocusable c = true) (hnot : c ∉ t.navComponentList c) :
    (t.mountedBy c).count c = 1 := by
  have hmerged : (if t.isContainer c then [] else t.navComponentList c).count c = 0 := by
    split
    · rfl
    · exact List.count_eq_zero.mpr hnot
  rw [mountedBy, List.count_append, hmerged, if_pos hc, List.count_singleton_self]

theorem count_mountedBy_ne (hdc : d ≠ c) (hd : t.isFocusable d = true)
    (hplain : t.isContainer c = false → ∀ d ∈ t.navComponentList c, t.isFocusable d = false) :
    (t.mountedBy c).count d = 0 := by
  refine List.count_eq_zero.mpr fun hin => ?_
  rcases mem_mountedBy hin with heq | ⟨hcontainer, hin⟩
  · exact hdc heq
  · exact absurd hd (Bool.eq_false_iff.mp (hplain hcontainer d hin))

/-- The step lemma for mounting. -/
theorem Mirrored.mountChildComponent (hm : t.Mirrored) (ht : t.Forest)
    (hp : ParentChain t.parent p l) (hnot : c ∉ p :: l) (hcn : c < t.nextId) (hpn : p < t.nextId)
    (hroot : t.parent c = none)
    (hplain : t.isContainer c = false → ∀ d ∈ t.navComponentList c, t.isFocusable d = false)
    (hfocus : t.isFocusable c = true → (p :: l).find? t.isContainer = none → l = []) {calls}
    (hrun : t.mountChildComponent p c = some (t', calls)) : t'.Mirrored := by
  obtain ⟨k, hk⟩ : ∃ k, k = t.mountContainer p l := ⟨_, rfl⟩
  have hkmem : k ∈ p :: l := hk ▸ t.mountContainer_mem p l
  rw [ht.mountChildComponent_eq hp hnot hcn hpn] at hrun
  obtain ⟨rfl, -⟩ := Prod.mk.inj (Option.some.inj hrun)
  rw [← hk, List.append_assoc]
  -- the chains of what is at or below `c` go on through `p`
  have hchain {d : LayerId} {m : List LayerId} (hd : ParentChain t.parent d m) :
      ParentChain (Function.update t.parent c (some p)) d
        (if c ∈ d :: m then m ++ p :: l else m) := by
    split
    · rename_i hc
      exact hd.link hroot hp hnot hc
    · rename_i hc
      exact hd.update_of_not_mem hc (some p)
  have hnotin (o : LayerId) : c ∉ t.navComponentList o := hm.not_mem_of_root hroot o
  constructor
  · intro d l' hl' hne hd o
    rw [relinked_parent] at hl'
    rw [relinked_isFocusable] at hd
    obtain ⟨m, hdm⟩ := ht.ends d
    obtain rfl := hl'.unique (hchain hdm)
    show (Function.update t.navComponentList k (t.navComponentList k ++ t.mountedBy c) o).count d =
      if t.home _ = some o then 1 else 0
    rw [count_update_append]
    by_cases hdc : d = c
    · subst hdc
      obtain rfl := hdm.unique (.root hroot)
      rw [if_pos List.mem_cons_self, List.nil_append, home_eq_mountContainer hp (hfocus hd), ← hk,
        List.count_eq_zero.mpr (hnotin o), Nat.zero_add, count_mountedBy_self hd (hnotin d)]
      simp only [Option.some.injEq, eq_comm]
    · rw [count_mountedBy_ne hdc hd hplain, ite_self, Nat.add_zero]
      by_cases hcd : c ∈ d :: m
      · have hcm : c ∈ m := (List.mem_cons.mp hcd).resolve_left (Ne.symm hdc)
        rw [if_pos hcd, hm.home_append hdm hcm hroot hd hplain]
        exact hm.listed d m hdm (List.ne_nil_of_mem hcm) hd o
      · rw [if_neg hcd] at hne ⊢
        exact hm.listed d m hdm hne hd o
  · intro o d hin
    show ∃ l', ParentChain (Function.update t.parent c (some p)) d l' ∧ o ∈ l'
    have hold : ∀ {o}, d ∈ t.navComponentList o →
        ∃ l', ParentChain (Function.update t.parent c (some p)) d l' ∧ o ∈ l' ∧
          (o = c → k ∈ l') := by
      intro o hin
      obtain ⟨m, hdm, ho⟩ := hm.below o d hin
      refine ⟨_, hchain hdm, ?_, ?_⟩
      · split
        · exact List.mem_append_left _ ho
        · exact ho
      · rintro rfl
        rw [if_pos (List.mem_cons_of_mem _ ho)]
        exact List.mem_append_right _ hkmem
    rw [relinked_navComponentList] at hin
    by_cases hok : o = k
    · subst hok
      rw [Function.update_self] at hin
      rcases List.mem_append.mp hin with hin | hin
      · obtain ⟨l', hl', ho, -⟩ := hold hin
        exact ⟨l', hl', ho⟩
      · rcases mem_mountedBy hin with rfl | ⟨-, hin⟩
        · have hself := hchain (.root hroot)
          rw [if_pos List.mem_cons_self] at hself
          exact ⟨_, hself, hkmem⟩
        · obtain ⟨l', hl', -, ho⟩ := hold hin
          exact ⟨l', hl', ho rfl⟩
    · rw [Function.update_of_ne hok] at hin
      obtain ⟨l', hl', ho, -⟩ := hold hin
      exact ⟨l', hl', ho⟩

/-! ## Unmounting -/

/-- A chain that is cut behind `c` leads home as before, unless it led above `c`. -/
theorem home_cut (t : ComponentTree) (pre : List LayerId) (c : LayerId) (l : List LayerId) :
    (∃ q ∈ l, t.home (pre ++ c :: l) = some q) ∨
      t.home (pre ++ c :: l) = t.home (pre ++ [c]) := by
  cases hfind : pre.find? t.isContainer with
  | some q => exact Or.inr (by rw [home_append_of_some hfind, home_append_of_some hfind])
  | none =>
    unfold home
    rw [List.find?_append, List.find?_append, hfind, Option.none_or, Option.none_or,
      List.find?_cons, List.find?_cons]
    cases t.isContainer c with
    | true => exact Or.inr rfl
    | false =>
      cases hfl : l.find? t.isContainer with
      | some q => exact Or.inl ⟨q, List.mem_of_find?_eq_some hfl, by simp⟩
      | none =>
        cases l with
        | nil => exact Or.inr rfl
        | cons a l =>
          refine Or.inl ⟨(a :: l).getLast (by simp), List.getLast_mem _, ?_⟩
          simp [List.getLast?_eq_some_getLast]

/-- The step lemma for unmounting. -/
theorem Mirrored.unmountChildComponent (hm : t.Mirrored) (ht : t.Forest)
    (hl : ParentChain t.parent c l)
    (hleft : ∀ o d, ¬ t.AtOrBelow c o → t.AtOrBelow c d → d ∈ t.navComponentList o →
      d = c ∧ t.isFocusable c = true ∧ ∃ k, l.find? t.isContainer = some k) {calls}
    (hrun : t.unmountChildComponent c = some (t', calls)) : t'.Mirrored := by
  rw [ht.unmountChildComponent_eq hl] at hrun
  obtain ⟨rfl, -⟩ := Prod.mk.inj (Option.some.inj hrun)
  -- an ancestor of `c` is outside the subtree
  have hout {o : LayerId} (ho : o ∈ l) : ¬ t.AtOrBelow c o := by
    rintro ⟨n, hn, hcn⟩
    obtain ⟨n', hn', hlt, -⟩ := hl.of_mem ho
    obtain rfl := hn.unique hn'
    rcases List.mem_cons.mp hcn with rfl | hcn
    · exact hl.not_mem_self ho
    · obtain ⟨l', hl', hlt', -⟩ := hn.of_mem hcn
      obtain rfl := hl.unique hl'
      omega
  have hcount {d : LayerId} (hdc : d ≠ c) (o : LayerId) :
      ((if t.isFocusable c = true ∧ l.find? t.isContainer = some o then
        (t.navComponentList o).erase c else t.navComponentList o).count d) =
        (t.navComponentList o).count d := by
    split
    · exact List.count_erase_of_ne hdc
    · rfl
  constructor
  · intro d l' hl' hne hd o
    rw [relinked_parent] at hl'
    rw [relinked_isFocusable] at hd
    rw [relinked_navComponentList]
    show _ = if t.home l' = some o then 1 else 0
    obtain ⟨m, hdm⟩ := ht.ends d
    by_cases hcd : c ∈ d :: m
    · rcases chain_cut hdm hcd with ⟨rfl, hcut⟩ | ⟨pre, post, hdc, rfl, hpost, hcut⟩
      · exact absurd (hl'.unique hcut) hne
      · obtain rfl := hl'.unique hcut
        obtain rfl := hl.unique hpost
        have hne' : pre ++ c :: l ≠ [] := List.append_ne_nil_of_right_ne_nil _ (by simp)
        rw [hcount hdc, hm.listed d _ hdm hne' hd]
        -- had `d` been listed above `c`, it would be left there
        have hhome : t.home (pre ++ c :: l) = t.home (pre ++ [c]) := by
          rcases t.home_cut pre c l with ⟨q, hql, hq⟩ | heq
          · have hin := (hm.mem_iff_home hdm hne' hd q).mpr hq
            exact absurd (hleft q d (hout hql) ⟨_, hdm, hcd⟩ hin).1 hdc
          · exact heq
        rw [hhome]
    · have hsame := hdm.update_of_not_mem hcd none
      obtain rfl := hl'.unique hsame
      have hdc : d ≠ c := by
        rintro rfl
        exact hcd List.mem_cons_self
      rw [hcount hdc]
      exact hm.listed d l' hdm hne hd o
  · intro o d hin
    rw [relinked_navComponentList] at hin
    show ∃ l', ParentChain (Function.update t.parent c none) d l' ∧ o ∈ l'
    have hold : d ∈ t.navComponentList o := by
      split at hin
      · exact List.mem_of_mem_erase hin
      · exact hin
    obtain ⟨m, hdm, ho⟩ := hm.below o d hold
    by_cases hcd : c ∈ d :: m
    · rcases chain_cut hdm hcd with ⟨rfl, -⟩ | ⟨pre, post, hdc, rfl, hpost, hcut⟩
      · -- `c` itself is no longer in the list of its container
        obtain rfl := hl.unique hdm
        obtain ⟨-, hfocus, k, hk⟩ := hleft o d (hout ho) ⟨_, hdm, hcd⟩ hold
        have hhome : t.home l = some k := by
          rw [home, hk]
          rfl
        have hne := List.ne_nil_of_mem ho
        obtain rfl : k = o :=
          Option.some.inj (hhome.symm.trans ((hm.mem_iff_home hdm hne hfocus o).mp hold))
        have hone := hm.listed d l hdm hne hfocus k
        rw [if_pos hhome] at hone
        rw [if_pos ⟨hfocus, hk⟩] at hin
        have hgone := List.count_erase_self (a := d) (l := t.navComponentList k)
        exact absurd hin (List.count_eq_zero.mp (by omega))
      · obtain rfl := hl.unique hpost
        rcases List.mem_append.mp ho with ho | ho
        · exact ⟨_, hcut, List.mem_append_left _ ho⟩
        · rcases List.mem_cons.mp ho with rfl | ho
          · exact ⟨_, hcut, List.mem_append_right _ List.mem_cons_self⟩
          · exact absurd (hleft o d (hout ho) ⟨_, hdm, hcd⟩ hold).1 hdc
    · exact ⟨m, hdm.update_of_not_mem hcd none, ho⟩

/-! ## Updates -/

theorem count_updatedList_ne (hdx : d ≠ x) (candidates : List LayerId) :
    (t.updatedList x candidates).count d = candidates.count d := by
  unfold updatedList
  split
  · split
    · rfl
    · simp [Ne.symm hdx]
  · exact List.count_erase_of_ne hdx

/-- The container of what is focusable lists it once after an update. -/
theorem count_updatedList_self (hx : t.isFocusable x = true) {candidates : List LayerId}
    (hle : candidates.count x ≤ 1) : (t.updatedList x candidates).count x = 1 := by
  rw [updatedList, if_pos hx]
  split
  · rename_i hin
    have hpos := List.count_pos_iff.mpr hin
    omega
  · rename_i hin
    rw [List.count_append, List.count_eq_zero.mpr hin, List.count_singleton_self]

/-- What is focusable is listed by its home only, and not twice; by the top of its tree it is
listed already. -/
theorem Mirrored.mem_home (hm : t.Mirrored) (hl : ParentChain t.parent x l) (hne : l ≠ [])
    (hx : t.isFocusable x = true) (o : LayerId) :
    if t.home l = some o then
      (t.navComponentList o).count x ≤ 1 ∧
        (l.find? t.isContainer = none → x ∈ t.navComponentList o)
    else x ∉ t.navComponentList o := by
  have hmem := hm.mem_iff_home hl hne hx o
  split
  · rename_i ho
    have hlisted := hm.listed x l hl hne hx o
    rw [if_pos ho] at hlisted
    exact ⟨hlisted.le, fun _ => hmem.mpr ho⟩
  · rename_i ho
    exact fun hin => ho (hmem.mp hin)

/-- The step lemma for props. -/
theorem Mirrored.updateProps (hm : t.Mirrored) (ht : t.Forest) (hl : ParentChain t.parent x l)
    {props : FocusProps} {forceUpdate : Bool}
    (hnew : t.isFocusable x = false → (t.withProps x props forceUpdate).isFocusable x = true →
      l ≠ [] → ∀ o, if t.home l = some o then
        (t.navComponentList o).count x ≤ 1 ∧
          (l.find? t.isContainer = none → x ∈ t.navComponentList o)
        else x ∉ t.navComponentList o) {calls}
    (hrun : t.updateProps x props forceUpdate = some (t', calls)) : t'.Mirrored := by
  rw [ht.updateProps_eq hl] at hrun
  obtain ⟨rfl, -⟩ := Prod.mk.inj (Option.some.inj hrun)
  have hhome (m : List LayerId) : ((t.withProps x props forceUpdate).relinked t.parent
      (fun o => if l.find? t.isContainer = some o then
        (t.withProps x props forceUpdate).updatedList x (t.navComponentList o)
        else t.navComponentList o)).home m = t.home m := by
    rw [home, relinked_isContainer, withProps_isContainer, home]
  constructor
  · intro d m hdm hne hd o
    rw [relinked_parent] at hdm
    rw [relinked_isFocusable] at hd
    rw [hhome, relinked_navComponentList]
    by_cases hdx : d = x
    · subst hdx
      obtain rfl := hl.unique hdm
      have hbo : if t.home l = some o then
          (t.navComponentList o).count d ≤ 1 ∧
            (l.find? t.isContainer = none → d ∈ t.navComponentList o)
          else d ∉ t.navComponentList o := by
        cases hold : t.isFocusable d with
        | true => exact hm.mem_home hl hne hold o
        | false => exact hnew hold hd hne o
      by_cases ho : t.home l = some o
      · rw [if_pos ho] at hbo ⊢
        by_cases hk : l.find? t.isContainer = some o
        · rw [if_pos hk]
          exact count_updatedList_self hd hbo.1
        · rw [if_neg hk]
          have hnone : l.find? t.isContainer = none := by
            cases hfind : l.find? t.isContainer with
            | none => rfl
            | some q =>
              rw [home, hfind, Option.some_or] at ho
              rw [hfind] at hk
              exact absurd ho hk
          have hpos := List.count_pos_iff.mpr (hbo.2 hnone)
          omega
      · rw [if_neg ho] at hbo ⊢
        have hk : l.find? t.isContainer ≠ some o := by
          intro hk
          exact ho (by rw [home, hk, Option.some_or])
        rw [if_neg hk]
        exact List.count_eq_zero.mpr hbo
    · rw [withProps_isFocusable_ne _ _ _ _ hdx] at hd
      have hlisted := hm.listed d m hdm hne hd o
      split
      · rw [count_updatedList_ne hdx]
        exact hlisted
      · exact hlisted
  · intro o d hin
    rw [relinked_navComponentList] at hin
    show ∃ m, ParentChain t.parent d m ∧ o ∈ m
    by_cases hk : l.find? t.isContainer = some o
    · rw [if_pos hk] at hin
      by_cases hdx : d = x
      · subst hdx
        exact ⟨l, hl, List.mem_of_find?_eq_some hk⟩
      · refine hm.below o d (List.count_pos_iff.mp ?_)
        rw [← count_updatedList_ne hdx]
        exact List.count_pos_iff.mpr hin
    · rw [if_neg hk] at hin
      exact hm.below o d hin

/-! ## Runs -/

theorem InContainer.find? (ht : t.Forest) (hp : ParentChain t.parent p l)
    (h : t.InContainer p ∨ t.parent p = none)
    (hnone : (p :: l).find? t.isContainer = none) : l = [] := by
  have hall := List.find?_eq_none.mp hnone
  rcases h with (hc | ⟨k, hk⟩) | hroot
  · exact absurd hc (hall p List.mem_cons_self)
  · rw [ht.nearestAncestorContainer_eq hp] at hk
    have hfind := Option.some.inj hk
    exact absurd (List.find?_some hfind)
      (hall k (List.mem_cons_of_mem _ (List.mem_of_find?_eq_some hfind)))
  · cases hp with
    | root _ => rfl
    | step hq _ => rw [hroot] at hq; cases hq

/-- What an operation returns is a forest again. -/
theorem Forest.exec (ht : t.Forest) {op : TreeOp} (hr : op.InRange t) (hok : op.KeepsLists t)
    (hrun : op.exec t = some t') : t'.Forest := by
  cases op with
  | mountChildComponent p c =>
    obtain ⟨⟨t₁, calls⟩, hmount, rfl⟩ := Option.map_eq_some_iff.mp hrun
    exact ht.mounted hok.2.1 hr.2 hr.1 hmount
  | unmountChildComponent c =>
    obtain ⟨⟨t₁, calls⟩, hunmount, rfl⟩ := Option.map_eq_some_iff.mp hrun
    exact ht.unmounted hunmount
  | updateProps x props forceUpdate =>
    obtain ⟨⟨t₁, calls⟩, hupdate, rfl⟩ := Option.map_eq_some_iff.mp hrun
    exact ht.updated hupdate

/-- The step lemma. -/
theorem Mirrored.exec (hm : t.Mirrored) (ht : t.Forest) {op : TreeOp} (hr : op.InRange t)
    (hok : op.KeepsLists t) (hrun : op.exec t = some t') : t'.Mirrored := by
  cases op with
  | mountChildComponent p c =>
    obtain ⟨hroot, hnot, hplain, hfocus⟩ := hok
    obtain ⟨l, hp⟩ := ht.ends p
    obtain ⟨⟨t₁, calls⟩, hmount, rfl⟩ := Option.map_eq_some_iff.mp hrun
    exact hm.mountChildComponent ht hp (not_atOrBelow hp hnot) hr.2 hr.1 hroot hplain
      (fun hc => InContainer.find? ht hp (hfocus hc)) hmount
  | unmountChildComponent c =>
    obtain ⟨l, hl⟩ := ht.ends c
    obtain ⟨⟨t₁, calls⟩, hunmount, rfl⟩ := Option.map_eq_some_iff.mp hrun
    refine hm.unmountChildComponent ht hl (fun o d ho hd hin => ?_) hunmount
    obtain ⟨hdc, hc, k, hk⟩ := hok o d ho hd hin
    rw [ht.nearestAncestorContainer_eq hl] at hk
    exact ⟨hdc, hc, k, Option.some.inj hk⟩
  | updateProps x props forceUpdate =>
    obtain ⟨l, hl⟩ := ht.ends x
    obtain ⟨⟨t₁, calls⟩, hupdate, rfl⟩ := Option.map_eq_some_iff.mp hrun
    exact hm.updateProps ht hl (fun hold hnew => hok hold hnew l hl) hupdate

/-- In every run from components just made whose operations meet the assumptions the lists mirror
the tree. -/
theorem treeRun_mirrored (hfresh : t.Fresh)
    (hrun : Run treeStep (fun t op => op.KeepsLists t) t t') : t'.Mirrored := by
  have hinv : t'.Mirrored ∧ t'.Forest := by
    refine hrun.invariant (P := fun t => t.Mirrored ∧ t.Forest) ?_
      ⟨hfresh.mirrored, hfresh.forest⟩
    intro s op u hs hok hstep
    exact ⟨hs.1.exec hs.2 hstep.1 hok hstep.2, hs.2.exec hstep.1 hok hstep.2⟩
  exact hinv.1

end

end ComponentTree

end

namespace ComponentTree

open TranslationSkia

/-- A root view, a plain view and a focusable view. -/
def assembly : ComponentTree where
  nextId := 3
  component x :=
    if x = 0 then { class_ := .RSkComponentRootView }
    else if x = 2 then { props := { focusable := true } }
    else {}

theorem assembly_fresh : assembly.Fresh where
  unmounted x := by
    simp only [assembly, parent]
    split
    · rfl
    · split <;> rfl
  empty x := by
    simp only [assembly, navComponentList]
    split
    · rfl
    · split <;> rfl

theorem treeRun_mirrored_focusable : ∃ t' : ComponentTree,
    TreeOp.exec assembly (.mountChildComponent 0 2) = some t' ∧ t'.Mirrored := by
  obtain ⟨t', ht'⟩ : ∃ t', TreeOp.exec assembly (.mountChildComponent 0 2) = some t' :=
    Option.isSome_iff_exists.mp (by decide)
  refine ⟨t', ht', treeRun_mirrored assembly_fresh
    (Run.single (a := .mountChildComponent 0 2) ?_ ⟨⟨by decide, by decide⟩, ht'⟩)⟩
  refine ⟨by decide, ?_, fun _ d hd => ?_, fun _ => Or.inl (Or.inl (by decide))⟩
  · rintro ⟨l, hl, hin⟩
    cases hl with
    | root _ => exact absurd (List.mem_singleton.mp hin) (by decide)
    | step hp _ => cases hp
  · cases hd

/-- A focusable view is mounted in a plain view and that in the root view: the plain view keeps
it in its list. -/
theorem assembled_view_listed_twice : ¬ ∀ t t' : ComponentTree, t.Fresh →
    Run treeStep anyStep t t' → t'.Mirrored := by
  intro hall
  obtain ⟨t₁, h₁⟩ : ∃ t₁, TreeOp.exec assembly (.mountChildComponent 1 2) = some t₁ :=
    Option.isSome_iff_exists.mp (by decide)
  have hsome : ((TreeOp.exec assembly (.mountChildComponent 1 2)).bind
      fun t => TreeOp.exec t (.mountChildComponent 0 1)).isSome = true := by
    decide
  have hparents : ((TreeOp.exec assembly (.mountChildComponent 1 2)).bind
      fun t => TreeOp.exec t (.mountChildComponent 0 1)).map (fun t =>
        (t.parent 2, t.parent 1, t.parent 0)) = some (some 1, some 0, none) := by
    decide
  have hlists : ((TreeOp.exec assembly (.mountChildComponent 1 2)).bind
      fun t => TreeOp.exec t (.mountChildComponent 0 1)).map (fun t =>
        (t.isFocusable 2, t.navComponentList 0, t.navComponentList 1)) =
      some (true, [2], [2]) := by
    decide
  have hn : (TreeOp.exec assembly (.mountChildComponent 1 2)).map ComponentTree.nextId =
      some 3 := by
    decide
  rw [h₁] at hsome hparents hlists hn
  obtain ⟨t₂, h₂⟩ := Option.isSome_iff_exists.mp hsome
  rw [Option.bind_some] at h₂ hparents hlists
  rw [h₂] at hparents hlists
  obtain ⟨hp₂, hp₁, hp₀⟩ :=
    by simpa only [Option.map_some, Option.some.injEq, Prod.mk.injEq] using hparents
  obtain ⟨hfocus, hlist₀, hlist₁⟩ :=
    by simpa only [Option.map_some, Option.some.injEq, Prod.mk.injEq] using hlists
  have hn₁ : t₁.nextId = 3 := Option.some.inj hn
  have hrun : Run treeStep anyStep assembly t₂ :=
    (Run.single (a := .mountChildComponent 1 2) trivial ⟨⟨by decide, by decide⟩, h₁⟩).tail
      (a := .mountChildComponent 0 1) trivial ⟨by simp [TreeOp.InRange, hn₁], h₂⟩
  have hchain : ParentChain t₂.parent 2 [1, 0] := .step hp₂ (.step hp₁ (.root hp₀))
  have hmirrored := hall assembly t₂ assembly_fresh hrun
  have hcount₀ := hmirrored.listed 2 [1, 0] hchain (by simp) hfocus 0
  have hcount₁ := hmirrored.listed 2 [1, 0] hchain (by simp) hfocus 1
  rw [hlist₀] at hcount₀
  rw [hlist₁] at hcount₁
  -- both counts are one, but a component has one home only
  have hhome₀ : t₂.home [1, 0] = some 0 := by
    by_contra hne
    simp [hne] at hcount₀
  rw [hhome₀] at hcount₁
  simp at hcount₁

end ComponentTree

end ReactNativeSkia
