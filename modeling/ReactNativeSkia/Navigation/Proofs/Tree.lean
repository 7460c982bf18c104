import ReactNativeSkia.Navigation.Component

/-!
# The component tree under mounting

What the walks up find in a tree, and what each of the three operations does to the parent
pointers and to the lists of the containers.
-/

namespace ReactNativeSkia

variable [Skia]

namespace ComponentTree

/-- Parent pointers among the components made so far, none of which runs in a circle. -/
structure Forest (t : ComponentTree) : Prop where
  ends : ∀ x, ChainEnds t.parent x
  range : ∀ x p, t.parent x = some p → x < t.nextId ∧ p < t.nextId

/-- The component is `c` or mounted below it. -/
def AtOrBelow (t : ComponentTree) (c d : LayerId) : Prop :=
  ∃ l, ParentChain t.parent d l ∧ c ∈ d :: l

/-- The same components with other parents and lists. -/
def relinked (t : ComponentTree) (parent : LayerId → Option LayerId)
    (lists : LayerId → List LayerId) : ComponentTree :=
  { t with
    component := fun x => ((t.component x).withParent (parent x)).withNavComponentList (lists x) }

/-- The component with the props of an update. -/
def withProps (t : ComponentTree) (x : LayerId) (props : FocusProps) (forceUpdate : Bool) :
    ComponentTree :=
  t.modify x (·.updateProps props forceUpdate)

/-- The container that a child mounted on `p` is added to, when `l` are the ancestors of `p`. -/
def mountContainer (t : ComponentTree) (p : LayerId) (l : List LayerId) : LayerId :=
  if t.isContainer p then p else (l.find? t.isContainer).getD p

section
variable {t : ComponentTree} {x p c : LayerId} {l : List LayerId}
  {d : LayerId} {m : List LayerId} {parent : LayerId → Option LayerId}
  {lists : LayerId → List LayerId}

@[simp] theorem relinked_nextId : (t.relinked parent lists).nextId = t.nextId := rfl

@[simp] theorem relinked_parent : (t.relinked parent lists).parent = parent := rfl

@[simp] theorem relinked_navComponentList : (t.relinked parent lists).navComponentList = lists :=
  rfl

@[simp] theorem relinked_isContainer : (t.relinked parent lists).isContainer = t.isContainer :=
  rfl

@[simp] theorem relinked_isFocusable : (t.relinked parent lists).isFocusable = t.isFocusable :=
  rfl

theorem relinked_self : t.relinked t.parent t.navComponentList = t := rfl

theorem relinked_withParent (c : LayerId) (q : Option LayerId) :
    (t.relinked parent lists).modify c (·.withParent q) =
      t.relinked (Function.update parent c q) lists := by
  unfold relinked modify
  simp only [mk.injEq, true_and]
  funext y
  by_cases hy : y = c
  · subst hy
    simp [NavComponent.withParent, NavComponent.withNavComponentList]
  · simp [hy]

theorem relinked_withList (k : LayerId) (f : List LayerId → List LayerId) :
    (t.relinked parent lists).modify k
        (fun c => c.withNavComponentList (f c.navComponentList_)) =
      t.relinked parent (Function.update lists k (f (lists k))) := by
  unfold relinked modify
  simp only [mk.injEq, true_and]
  funext y
  by_cases hy : y = k
  · subst hy
    simp [NavComponent.withParent, NavComponent.withNavComponentList]
  · simp [hy]

/-! ## Walks up -/

/-- With enough steps the loop finds the first container of the chain. -/
theorem nearestAncestorContainerFrom_chain (hl : ParentChain t.parent x l) {n : Nat}
    (hn : l.length ≤ n) :
    t.nearestAncestorContainerFrom n (t.parent x) = some (l.find? t.isContainer) := by
  induction hl generalizing n with
  | root hx =>
    rw [hx]
    cases n <;> rfl
  | @step x p l hp _ ih =>
    cases n with
    | zero => simp at hn
    | succ n =>
      rw [hp, nearestAncestorContainerFrom]
      cases hc : t.isContainer p with
      | true => simp [hc]
      | false => simp [hc, ih (Nat.le_of_succ_le_succ hn)]

theorem Forest.nearestAncestorContainer_eq (ht : t.Forest) (hl : ParentChain t.parent x l) :
    t.nearestAncestorContainer x = some (l.find? t.isContainer) :=
  nearestAncestorContainerFrom_chain hl (ParentChain.length_le ht.range hl)

/-- Parents that were made before their children do not run in a circle. -/
theorem Forest.of_lt (h : ∀ x p, t.parent x = some p → p < x ∧ x < t.nextId) : t.Forest where
  ends x := by
    induction x using Nat.strong_induction_on with
    | _ x ih =>
      cases hp : t.parent x with
      | none => exact ChainEnds.of_root hp
      | some p => exact ChainEnds.of_parent hp (ih p (h x p hp).1)
  range x p hp := ⟨(h x p hp).2, (h x p hp).1.trans (h x p hp).2⟩

theorem Forest.containerToAdd_eq (ht : t.Forest) (hl : ParentChain t.parent p l) :
    t.containerToAdd p = some (t.mountContainer p l) := by
  unfold containerToAdd mountContainer
  rw [ht.nearestAncestorContainer_eq hl]
  split <;> rfl

/-- The container is the parent or above it. -/
theorem mountContainer_mem (t : ComponentTree) (p : LayerId) (l : List LayerId) :
    t.mountContainer p l ∈ p :: l := by
  unfold mountContainer
  split
  · exact List.mem_cons_self
  · cases hfind : l.find? t.isContainer with
    | none => exact List.mem_cons_self
    | some k => exact List.mem_cons_of_mem _ (List.mem_of_find?_eq_some hfind)

theorem not_atOrBelow (hl : ParentChain t.parent d l) (h : ¬ t.AtOrBelow c d) : c ∉ d :: l :=
  fun hc => h ⟨l, hl, hc⟩

/-- What is at or below `c` has its chain cut behind `c`. -/
theorem chain_cut (hd : ParentChain t.parent d m) (hc : c ∈ d :: m) :
    (d = c ∧ ParentChain (Function.update t.parent c none) d []) ∨
      ∃ pre post, d ≠ c ∧ m = pre ++ c :: post ∧ ParentChain t.parent c post ∧
        ParentChain (Function.update t.parent c none) d (pre ++ [c]) := by
  by_cases hdc : d = c
  · subst hdc
    exact Or.inl ⟨rfl, .root (Function.update_self _ _ _)⟩
  · have hcm := (List.mem_cons.mp hc).resolve_left (Ne.symm hdc)
    obtain ⟨pre, post, rfl, hpre⟩ := List.eq_append_cons_of_mem hcm
    refine Or.inr ⟨pre, post, hdc, rfl, hd.of_append, hd.cut fun hin => ?_⟩
    rcases List.mem_cons.mp hin with heq | hin
    · exact hdc heq.symm
    · exact hpre hin

theorem Forest.relink (hends : ∀ x, ChainEnds parent x)
    (hrange : ∀ x p, parent x = some p → x < t.nextId ∧ p < t.nextId) :
    (t.relinked parent lists).Forest := ⟨hends, hrange⟩

theorem Forest.link (ht : t.Forest) (lists : LayerId → List LayerId)
    (hp : ParentChain t.parent p l) (hnot : c ∉ p :: l) (hcn : c < t.nextId) (hpn : p < t.nextId) :
    (t.relinked (Function.update t.parent c (some p)) lists).Forest := by
  refine Forest.relink (ChainEnds.link ht.ends hp hnot) fun x q hq => ?_
  by_cases hx : x = c
  · subst hx
    rw [Function.update_self] at hq
    obtain rfl := Option.some.inj hq
    exact ⟨hcn, hpn⟩
  · rw [Function.update_of_ne hx] at hq
    exact ht.range x q hq

/-! ## The operations -/

theorem relinked_addComponent (k c : LayerId) :
    (t.relinked parent lists).addComponent k c =
      (t.relinked parent (Function.update lists k (lists k ++ [c])), [(.ComponentAdded, c)]) := by
  rw [addComponent, relinked_withList k fun candidates => candidates ++ [c]]

theorem relinked_mergeComponent (k : LayerId) (candidates : List LayerId) :
    (t.relinked parent lists).mergeComponent k candidates =
      t.relinked parent (Function.update lists k (lists k ++ candidates)) := by
  rw [mergeComponent, relinked_withList k fun old => old ++ candidates]

theorem relinked_eraseComponent (k c : LayerId) (operation : NavigatorStateOperation) :
    (t.relinked parent lists).eraseComponent k c operation =
      (t.relinked parent (Function.update lists k ((lists k).erase c)), [(operation, c)]) := by
  rw [eraseComponent, relinked_withList k fun candidates => candidates.erase c]

/-- Mounting `c` on `p` adds it, and what a plain `c` has in its list, to one container. -/
theorem Forest.mountChildComponent_eq (ht : t.Forest) (hp : ParentChain t.parent p l)
    (hnot : c ∉ p :: l) (hcn : c < t.nextId) (hpn : p < t.nextId) :
    t.mountChildComponent p c = some (t.relinked (Function.update t.parent c (some p))
      (Function.update t.navComponentList (t.mountContainer p l)
        (t.navComponentList (t.mountContainer p l) ++ (if t.isFocusable c then [c] else []) ++
          if t.isContainer c then [] else t.navComponentList c)),
      if t.isFocusable c then [(.ComponentAdded, c)] else []) := by
  obtain ⟨k, hk⟩ : ∃ k, k = t.mountContainer p l := ⟨_, rfl⟩
  have hck : c ≠ k := by
    rintro rfl
    exact hnot (hk ▸ t.mountContainer_mem p l)
  have hlink : t.modify c (·.withParent (some p)) =
      t.relinked (Function.update t.parent c (some p)) t.navComponentList :=
    relinked_withParent c (some p)
  have hforest := ht.link t.navComponentList hp hnot hcn hpn
  have hadd := hforest.containerToAdd_eq (hp.update_of_not_mem hnot (some p))
  have hkeep : (t.relinked (Function.update t.parent c (some p)) t.navComponentList
      ).mountContainer p l = k := hk.symm
  rw [hkeep] at hadd
  have hother : Function.update t.navComponentList k (t.navComponentList k ++ [c]) c =
      t.navComponentList c := Function.update_of_ne hck _ _
  rw [mountChildComponent, hlink, ← hk]
  simp only [hadd, Option.bind_eq_bind, Option.bind_some, relinked_isFocusable,
    relinked_addComponent, relinked_isContainer, relinked_navComponentList, hother,
    relinked_mergeComponent, Option.pure_def, Function.update_self, Function.update_idem]
  cases hfocus : t.isFocusable c with
  | true =>
    cases hcontainer : t.isContainer c with
    | true => simp
    | false =>
      by_cases hnil : t.navComponentList c = []
      · simp [hnil]
      · simp [hnil]
  | false =>
    have hcontainer : t.isContainer c = false := by
      unfold isFocusable NavComponent.isFocusable at hfocus
      exact (Bool.or_eq_false_iff.mp hfocus).2
    by_cases hnil : t.navComponentList c = []
    · simp [hnil, Function.update_eq_self]
    · simp [hnil, hcontainer]

/-- `c` is in the list that `removeComponent` looks at. -/
def FoundAt (t : ComponentTree) (c : LayerId) (container : Option LayerId) : Prop :=
  ∃ k ∈ container, c ∈ t.navComponentList k

instance (t : ComponentTree) (c : LayerId) (container : Option LayerId) :
    Decidable (t.FoundAt c container) := by
  unfold FoundAt
  infer_instance

/-- Unmounting `c` takes a focusable `c` out of the list of the nearest container. -/
theorem Forest.unmountChildComponent_eq (ht : t.Forest) (hl : ParentChain t.parent c l) :
    t.unmountChildComponent c = some (t.relinked (Function.update t.parent c none)
      (fun o => if t.isFocusable c = true ∧ l.find? t.isContainer = some o then
        (t.navComponentList o).erase c else t.navComponentList o),
      if t.isFocusable c = true ∧ t.FoundAt c (l.find? t.isContainer) then
        [(.ComponentRemoved, c)] else []) := by
  have hclear (lists : LayerId → List LayerId) :
      (t.relinked t.parent lists).modify c (·.withParent none) =
        t.relinked (Function.update t.parent c none) lists := relinked_withParent c none
  have hkeep : t.modify c (·.withParent none) =
      t.relinked (Function.update t.parent c none) t.navComponentList :=
    hclear t.navComponentList
  rw [unmountChildComponent, ht.nearestAncestorContainer_eq hl]
  simp only [Option.bind_eq_bind, Option.bind_some, Option.pure_def, Option.some.injEq]
  cases hfind : l.find? t.isContainer with
  | none => simp [FoundAt, hkeep]
  | some k =>
    cases hfocus : t.isFocusable c with
    | false => simp [hkeep]
    | true =>
      have herase : t.eraseComponent k c .ComponentRemoved =
          (t.relinked t.parent (Function.update t.navComponentList k
            ((t.navComponentList k).erase c)), [(.ComponentRemoved, c)]) :=
        relinked_eraseComponent k c _
      have hlists : (fun o => if some k = some o then (t.navComponentList o).erase c
          else t.navComponentList o) =
          Function.update t.navComponentList k ((t.navComponentList k).erase c) := by
        funext o
        by_cases ho : o = k
        · simp [ho]
        · simp [ho, Ne.symm ho]
      simp only [true_and, if_true, hlists, removeComponent]
      by_cases hin : c ∈ t.navComponentList k
      · simp [hin, herase, hclear, FoundAt]
      · simp [hin, hkeep, FoundAt, List.erase_of_not_mem, Function.update_eq_self]

section
variable (t x) (props : FocusProps) (forceUpdate : Bool)

/-- A field that new props leave alone. -/
theorem withProps_field {α : Type} (f : NavComponent → α)
    (hf : ∀ c, f (c.updateProps props forceUpdate) = f c) (y : LayerId) :
    f ((t.withProps x props forceUpdate).component y) = f (t.component y) := by
  unfold withProps modify
  by_cases hy : y = x
  · subst hy
    simp [hf]
  · simp [hy]

@[simp] theorem withProps_parent : (t.withProps x props forceUpdate).parent = t.parent :=
  funext (t.withProps_field x props forceUpdate NavComponent.parent_ fun _ => rfl)

@[simp] theorem withProps_navComponentList :
    (t.withProps x props forceUpdate).navComponentList = t.navComponentList :=
  funext (t.withProps_field x props forceUpdate NavComponent.navComponentList_ fun _ => rfl)

@[simp] theorem withProps_isContainer :
    (t.withProps x props forceUpdate).isContainer = t.isContainer :=
  funext (t.withProps_field x props forceUpdate NavComponent.isContainer fun _ => rfl)

theorem withProps_isFocusable_ne {y : LayerId} (hy : y ≠ x) :
    (t.withProps x props forceUpdate).isFocusable y = t.isFocusable y := by
  unfold withProps isFocusable modify
  simp [hy]

end

/-- The list of the nearest container of `x` after an update of `x`. -/
def updatedList (t : ComponentTree) (x : LayerId) (candidates : List LayerId) : List LayerId :=
  if t.isFocusable x then if x ∈ candidates then candidates else candidates ++ [x]
  else candidates.erase x

/-- New props of `x` bring the list of the nearest container up to date. -/
theorem Forest.updateProps_eq (ht : t.Forest) (hl : ParentChain t.parent x l)
    (props : FocusProps) (forceUpdate : Bool) :
    t.updateProps x props forceUpdate =
      some ((t.withProps x props forceUpdate).relinked t.parent
        (fun o => if l.find? t.isContainer = some o then
          (t.withProps x props forceUpdate).updatedList x (t.navComponentList o)
          else t.navComponentList o),
        if t.FoundAt x (l.find? t.isContainer) then
          if (t.withProps x props forceUpdate).isFocusable x then []
          else [(.ComponentUpdated, x)]
        else if (t.withProps x props forceUpdate).isFocusable x ∧ (l.find? t.isContainer).isSome
          then [(.ComponentAdded, x)] else []) := by
  have hfoundAt (container : Option LayerId) :
      t.FoundAt x container ↔ (t.withProps x props forceUpdate).FoundAt x container := by
    rw [FoundAt, FoundAt, withProps_navComponentList]
  obtain ⟨t₁, ht₁⟩ : ∃ t₁, t₁ = t.withProps x props forceUpdate := ⟨_, rfl⟩
  have hparent : t₁.parent = t.parent := by rw [ht₁, withProps_parent]
  have hlists : t₁.navComponentList = t.navComponentList := by
    rw [ht₁, withProps_navComponentList]
  have hcontainer : t₁.isContainer = t.isContainer := by rw [ht₁, withProps_isContainer]
  have hforest : t₁.Forest := ⟨fun y => hparent ▸ ht.ends y, fun y q hq => by
    rw [hparent] at hq
    rw [ht₁]
    exact ht.range y q hq⟩
  have hnear := hforest.nearestAncestorContainer_eq (hparent ▸ hl)
  have hdef : t.updateProps x props forceUpdate =
      (t₁.nearestAncestorContainer x).map fun containerInUpdate =>
        containerInUpdate.elim (t₁, []) fun container => t₁.updateComponent container x := by
    rw [hnear]
    unfold ComponentTree.updateProps
    dsimp only
    rw [← withProps, ← ht₁, hnear]
    cases l.find? t₁.isContainer with
    | none => rfl
    | some container => rfl
  rw [hdef, hnear, Option.map_some, hcontainer]
  simp only [hfoundAt, ← ht₁, ← hlists, ← hparent]
  cases hfind : l.find? t.isContainer with
  | none => simp [FoundAt, relinked_self]
  | some k =>
    have hupdate : (fun o =>
        if some k = some o then t₁.updatedList x (t₁.navComponentList o)
        else t₁.navComponentList o) = Function.update t₁.navComponentList k
          (t₁.updatedList x (t₁.navComponentList k)) := by
      funext o
      by_cases ho : o = k
      · simp [ho]
      · simp [ho, Ne.symm ho]
    have herase : t₁.eraseComponent k x .ComponentUpdated =
        (t₁.relinked t₁.parent (Function.update t₁.navComponentList k
          ((t₁.navComponentList k).erase x)), [(.ComponentUpdated, x)]) :=
      relinked_eraseComponent k x _
    have hadd : t₁.addComponent k x =
        (t₁.relinked t₁.parent (Function.update t₁.navComponentList k
          (t₁.navComponentList k ++ [x])), [(.ComponentAdded, x)]) :=
      relinked_addComponent k x
    simp only [hupdate]
    simp only [updateComponent, updatedList]
    by_cases hin : x ∈ t₁.navComponentList k
    · cases hfocus : t₁.isFocusable x with
      | true => simp [hin, FoundAt, relinked_self, Function.update_eq_self]
      | false => simp [hin, herase, FoundAt]
    · cases hfocus : t₁.isFocusable x with
      | true => simp [hin, hadd, FoundAt]
      | false =>
        simp [hin, FoundAt, List.erase_of_not_mem, relinked_self, Function.update_eq_self]

/-! ## What an operation returns is a forest again -/

theorem Forest.mounted (ht : t.Forest) (hnot : ¬ t.AtOrBelow c p) (hcn : c < t.nextId)
    (hpn : p < t.nextId) {t' : ComponentTree} {calls}
    (hrun : t.mountChildComponent p c = some (t', calls)) : t'.Forest := by
  obtain ⟨l, hp⟩ := ht.ends p
  have hnot' := not_atOrBelow hp hnot
  rw [ht.mountChildComponent_eq hp hnot' hcn hpn] at hrun
  obtain ⟨rfl, -⟩ := Prod.mk.inj (Option.some.inj hrun)
  exact ht.link _ hp hnot' hcn hpn

theorem Forest.unmounted (ht : t.Forest) {t' : ComponentTree} {calls}
    (hrun : t.unmountChildComponent c = some (t', calls)) : t'.Forest := by
  obtain ⟨l, hl⟩ := ht.ends c
  rw [ht.unmountChildComponent_eq hl] at hrun
  obtain ⟨rfl, -⟩ := Prod.mk.inj (Option.some.inj hrun)
  refine Forest.relink (fun x => (ht.ends x).mono fun y => ?_) fun x q hq => ?_
  · by_cases hy : y = c
    · exact Or.inr (by rw [hy, Function.update_self])
    · exact Or.inl (Function.update_of_ne hy _ _)
  · by_cases hx : x = c
    · rw [hx, Function.update_self] at hq
      cases hq
    · rw [Function.update_of_ne hx] at hq
      exact ht.range x q hq

theorem Forest.updated (ht : t.Forest) {props : FocusProps} {forceUpdate : Bool}
    {t' : ComponentTree} {calls} (hrun : t.updateProps x props forceUpdate = some (t', calls)) :
    t'.Forest := by
  obtain ⟨l, hl⟩ := ht.ends x
  rw [ht.updateProps_eq hl] at hrun
  obtain ⟨rfl, -⟩ := Prod.mk.inj (Option.some.inj hrun)
  exact Forest.relink ht.ends ht.range

end

end ComponentTree

end ReactNativeSkia
