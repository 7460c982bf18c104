import Mathlib.Data.List.Nodup
import Mathlib.Data.Finset.Card
import Mathlib.Data.Finset.Range
import Mathlib.Logic.Relation
import Mathlib.Logic.Function.Basic
import Mathlib.Data.List.Perm.Basic

/-!
# Parent pointers

Nodes that each hold at most one pointer to a parent. `ParentChain parent x l` lists the
proper ancestors of `x`, nearest first, and exists exactly when following the pointers from
`x` comes to an end. Over finitely many nodes the chains bound the depth, so that walks
upwards and downwards both terminate.
-/

namespace ReactNativeSkia

variable {ι : Type*} {parent parent' : ι → Option ι}

/-- `l` is the list of proper ancestors of a node, nearest first, up to a root. -/
inductive ParentChain (parent : ι → Option ι) : ι → List ι → Prop where
  | root {x : ι} (h : parent x = none) : ParentChain parent x []
  | step {x p : ι} {l : List ι} (h : parent x = some p) (c : ParentChain parent p l) :
      ParentChain parent x (p :: l)

namespace ParentChain

variable {x y p c : ι} {l m : List ι}

theorem unique (h : ParentChain parent x l) (h' : ParentChain parent x m) : l = m := by
  induction h generalizing m with
  | root hx =>
    cases h' with
    | root _ => rfl
    | step hp _ => rw [hx] at hp; cases hp
  | step hp _ ih =>
    cases h' with
    | root hx => rw [hp] at hx; cases hx
    | step hp' hc' =>
      rw [hp] at hp'
      cases hp'
      rw [ih hc']

/-- The chain of a node that has a parent begins with it. -/
theorem cases_parent (h : ParentChain parent x l) (hp : parent x = some p) :
    ∃ m, l = p :: m ∧ ParentChain parent p m := by
  cases h with
  | root hnone =>
    rw [hp] at hnone
    cases hnone
  | step hp' hm =>
    rw [hp] at hp'
    cases hp'
    exact ⟨_, rfl, hm⟩

/-- An ancestor's own chain is what follows it in the list. -/
theorem of_mem (h : ParentChain parent x l) (hy : y ∈ l) :
    ∃ m, ParentChain parent y m ∧ m.length < l.length ∧ ∀ z ∈ m, z ∈ l := by
  induction h with
  | root _ => cases hy
  | @step x p l hp hc ih =>
    rcases List.mem_cons.mp hy with rfl | hy
    · exact ⟨l, hc, Nat.lt_succ_self _, fun z hz => List.mem_cons_of_mem _ hz⟩
    · obtain ⟨m, hm, hlt, hsub⟩ := ih hy
      exact ⟨m, hm, Nat.lt_succ_of_lt hlt, fun z hz => List.mem_cons_of_mem _ (hsub z hz)⟩

/-- No node is its own ancestor: its chain would be a proper part of itself. -/
theorem not_mem_self (h : ParentChain parent x l) : x ∉ l := by
  intro hx
  obtain ⟨m, hm, hlt, -⟩ := h.of_mem hx
  rw [h.unique hm] at hlt
  exact Nat.lt_irrefl _ hlt

theorem nodup (h : ParentChain parent x l) : (x :: l).Nodup := by
  induction h with
  | root _ => simp
  | @step x p l hp hc ih =>
    exact List.nodup_cons.mpr ⟨(ParentChain.step hp hc).not_mem_self, ih⟩

/-- Pointers that agree along the chain give the same chain. -/
theorem congr (h : ParentChain parent x l) (heq : ∀ z ∈ x :: l, parent' z = parent z) :
    ParentChain parent' x l := by
  induction h with
  | root hx => exact .root (by rw [heq _ List.mem_cons_self, hx])
  | step hp _ ih =>
    refine .step (by rw [heq _ List.mem_cons_self, hp]) (ih fun z hz => heq z ?_)
    exact List.mem_cons_of_mem _ hz

/-- With all linked nodes among `n` identifiers, a chain has at most `n` members. -/
theorem length_lt {parent : Nat → Option Nat} {x n : Nat} {l : List Nat}
    (h : ParentChain parent x l) (hx : x < n) (hl : ∀ y ∈ l, y < n) : l.length < n := by
  have hsub : (x :: l).toFinset ⊆ Finset.range n := by
    intro y hy
    rw [List.mem_toFinset] at hy
    rw [Finset.mem_range]
    rcases List.mem_cons.mp hy with rfl | hy
    · exact hx
    · exact hl y hy
  have hcard := Finset.card_le_card hsub
  rw [List.toFinset_card_of_nodup h.nodup, Finset.card_range] at hcard
  exact hcard

/-- Linked or not, a node has at most `n` proper ancestors. -/
theorem length_le {parent : Nat → Option Nat} {x n : Nat} {l : List Nat}
    (hrange : ∀ x p, parent x = some p → x < n ∧ p < n) (h : ParentChain parent x l) :
    l.length ≤ n := by
  have hlt : ∀ y ∈ l, y < n := by
    induction h with
    | root _ => intro y hy; cases hy
    | step hp _ ih =>
      intro y hy
      rcases List.mem_cons.mp hy with rfl | hy
      · exact (hrange _ _ hp).2
      · exact ih y hy
  cases h with
  | root _ => exact Nat.zero_le _
  | step hp hl => exact Nat.le_of_lt ((step hp hl).length_lt (hrange _ _ hp).1 hlt)

/-- What follows a node in a chain is its own chain. -/
theorem of_append {pre : List ι} (h : ParentChain parent x (pre ++ c :: l)) :
    ParentChain parent c l := by
  induction pre generalizing x with
  | nil =>
    cases h with
    | step _ hl => exact hl
  | cons p pre ih =>
    cases h with
    | step _ hl => exact ih hl

end ParentChain

/-- Following the parent pointers from `x` comes to an end. -/
def ChainEnds (parent : ι → Option ι) (x : ι) : Prop := ∃ l, ParentChain parent x l

namespace ChainEnds

variable {x y p c : ι}

theorem of_root (h : parent x = none) : ChainEnds parent x := ⟨[], .root h⟩

theorem of_parent (h : parent x = some p) (hp : ChainEnds parent p) : ChainEnds parent x := by
  obtain ⟨l, hl⟩ := hp
  exact ⟨p :: l, .step h hl⟩

/-- A pointer that closes a loop leaves its node with no end. -/
theorem not_of_loop {c : ι} (hc : parent c = some c) : ¬ ChainEnds parent c := by
  rintro ⟨l, hl⟩
  cases hl with
  | root hx => rw [hc] at hx; cases hx
  | step hp hl' =>
    rw [hc] at hp
    cases hp
    exact (ParentChain.step hc hl').not_mem_self List.mem_cons_self

/-- Clearing pointers keeps every chain finite. -/
theorem mono (hsub : ∀ x, parent' x = parent x ∨ parent' x = none) (h : ChainEnds parent x) :
    ChainEnds parent' x := by
  obtain ⟨l, hl⟩ := h
  induction hl with
  | @root x hx =>
    refine of_root ?_
    rcases hsub x with heq | hn
    · rw [heq, hx]
    · exact hn
  | @step x p l hp _ ih =>
    rcases hsub x with heq | hn
    · exact of_parent (heq.trans hp) ih
    · exact of_root hn

end ChainEnds

/-! ## Changing one pointer -/

section
variable [DecidableEq ι]

namespace ParentChain

variable {x p c : ι} {l m : List ι}

/-- A chain that the node is not on stays. -/
theorem update_of_not_mem (h : ParentChain parent x l) (hc : c ∉ x :: l) (q : Option ι) :
    ParentChain (Function.update parent c q) x l := by
  apply h.congr
  intro z hz
  refine Function.update_of_ne ?_ _ _
  rintro rfl
  exact hc hz

/-- Pointing a root at `p` puts `p` and its ancestors behind every chain through it. -/
theorem link (h : ParentChain parent x l) (hroot : parent c = none)
    (hp : ParentChain parent p m) (hnot : c ∉ p :: m) (hc : c ∈ x :: l) :
    ParentChain (Function.update parent c (some p)) x (l ++ p :: m) := by
  induction h with
  | @root x hx =>
    obtain rfl := List.mem_singleton.mp hc
    exact .step (Function.update_self _ _ _) (hp.update_of_not_mem hnot _)
  | @step x q l hq _ ih =>
    by_cases hxc : c = x
    · subst hxc
      rw [hroot] at hq
      cases hq
    · refine .step ?_ (ih ((List.mem_cons.mp hc).resolve_left hxc))
      rw [Function.update_of_ne (Ne.symm hxc), hq]

/-- Clearing the pointer of `c` cuts every chain through it behind it. -/
theorem cut {pre : List ι} (h : ParentChain parent x (pre ++ c :: l)) (hc : c ∉ x :: pre) :
    ParentChain (Function.update parent c none) x (pre ++ [c]) := by
  induction pre generalizing x with
  | nil =>
    have hxc : x ≠ c := fun heq => hc (by simp [heq])
    cases h with
    | step hq _ =>
      refine .step ?_ (.root (Function.update_self _ _ _))
      rw [Function.update_of_ne hxc, hq]
  | cons q pre ih =>
    have hxc : x ≠ c := fun heq => hc (by simp [heq])
    cases h with
    | step hq hl =>
      refine .step ?_ (ih hl fun hm => hc (List.mem_cons_of_mem _ hm))
      rw [Function.update_of_ne hxc, hq]

omit [DecidableEq ι] in
/-- A root on a chain is its last node. -/
theorem getLast?_of_root (h : ParentChain parent x l) (hroot : parent c = none) (hc : c ∈ l) :
    l.getLast? = some c := by
  induction h with
  | root _ => cases hc
  | @step x q l hq hl ih =>
    cases hl with
    | root _ =>
      obtain rfl := List.mem_singleton.mp hc
      rfl
    | @step _ r l hr hl =>
      rw [List.getLast?_cons_cons]
      refine ih ((List.mem_cons.mp hc).resolve_left ?_)
      rintro rfl
      rw [hroot] at hr
      cases hr

end ParentChain

namespace ChainEnds

/-- Pointing `c` at `p` keeps every chain finite, unless `c` is `p` or an ancestor of `p`. -/
theorem link (h : ∀ x, ChainEnds parent x) {c p : ι} {l : List ι}
    (hp : ParentChain parent p l) (hc : c ∉ p :: l) (x : ι) :
    ChainEnds (Function.update parent c (some p)) x := by
  have hp' := hp.update_of_not_mem hc (some p)
  obtain ⟨m, hm⟩ := h x
  induction hm with
  | @root x hx =>
    by_cases hxc : x = c
    · exact of_parent (by simp [hxc]) ⟨l, hp'⟩
    · exact of_root (by simp [hxc, hx])
  | @step x q m hq _ ih =>
    by_cases hxc : x = c
    · exact of_parent (by simp [hxc]) ⟨l, hp'⟩
    · exact of_parent (by simp [hxc, hq]) ih

end ChainEnds

end

/-! ## Downwards -/

/-- `x` is `a` or lies below it, by the children lists. -/
def Below (children : ι → List ι) : ι → ι → Prop :=
  Relation.ReflTransGen fun p c => c ∈ children p

/-- Every path downwards from `x` has fewer than `n` steps. -/
def DepthLt (children : ι → List ι) : Nat → ι → Prop
  | 0, _ => False
  | n + 1, x => ∀ c ∈ children x, DepthLt children n c

instance DepthLt.decidable (children : ι → List ι) :
    (n : Nat) → (x : ι) → Decidable (DepthLt children n x)
  | 0, _ => inferInstanceAs (Decidable False)
  | n + 1, x =>
    have : ∀ c, Decidable (DepthLt children n c) := DepthLt.decidable children n
    inferInstanceAs (Decidable (∀ c ∈ children x, DepthLt children n c))

namespace Below

variable {children children' : ι → List ι} {a b c x y p : ι}

theorem refl (a : ι) : Below children a a := Relation.ReflTransGen.refl

theorem tail (h : Below children a p) (hc : c ∈ children p) : Below children a c :=
  Relation.ReflTransGen.tail h hc

theorem head (hc : c ∈ children a) (h : Below children c x) : Below children a x :=
  Relation.ReflTransGen.head hc h

theorem trans (h : Below children a b) (h' : Below children b c) : Below children a c :=
  Relation.ReflTransGen.trans h h'

theorem cases_head_iff :
    Below children a x ↔ x = a ∨ ∃ c ∈ children a, Below children c x := by
  unfold Below
  rw [Relation.ReflTransGen.cases_head_iff]
  simp only [eq_comm]

/-- Children lists that agree below `a` have the same nodes below `a`. -/
theorem congr (heq : ∀ x, Below children a x → children' x = children x) :
    Below children' a x ↔ Below children a x := by
  constructor
  · intro h
    induction h with
    | refl => exact refl a
    | @tail p c _ hc ih =>
      exact ih.tail (heq p ih ▸ hc)
  · intro h
    induction h with
    | refl => exact refl a
    | @tail p c hp hc ih =>
      exact ih.tail ((heq p hp).symm ▸ hc)

end Below

theorem DepthLt.congr {children children' : ι → List ι} {n : Nat} {a : ι}
    (heq : ∀ x, Below children a x → children' x = children x) (h : DepthLt children n a) :
    DepthLt children' n a := by
  induction n generalizing a with
  | zero => exact h
  | succ n ih =>
    intro c hc
    rw [heq a (Below.refl a)] at hc
    exact ih (fun x hx => heq x (hx.head hc)) (h c hc)

/-- Parent pointers and children lists that describe the same links. -/
structure Linked (parent : ι → Option ι) (children : ι → List ι) : Prop where
  mem_iff : ∀ p c, c ∈ children p ↔ parent c = some p
  nodup : ∀ p, (children p).Nodup
  ends : ∀ x, ChainEnds parent x

namespace Linked

variable {children : ι → List ι} {a b c x p : ι}

/-- Going down from `a` to `x` is going up from `x` to `a`. -/
theorem below_iff (h : Linked parent children) {l : List ι} (hx : ParentChain parent x l) :
    Below children a x ↔ a ∈ x :: l := by
  constructor
  · intro hax
    induction hax generalizing l with
    | refl => exact List.mem_cons_self
    | @tail p c _ hc ih =>
      have hp := (h.mem_iff p c).mp hc
      cases hx with
      | root hn => rw [hn] at hp; cases hp
      | step hp' hl =>
        rw [hp] at hp'
        cases hp'
        exact List.mem_cons_of_mem _ (ih hl)
  · intro ha
    induction hx with
    | root _ =>
      rw [List.mem_singleton] at ha
      exact ha ▸ Below.refl _
    | @step x p l hp _ ih =>
      rcases List.mem_cons.mp ha with rfl | ha
      · exact Below.refl _
      · exact (ih ha).tail ((h.mem_iff p x).mpr hp)

theorem below_antisymm (h : Linked parent children) (hab : Below children a b)
    (hba : Below children b a) : a = b := by
  obtain ⟨l, hl⟩ := h.ends a
  obtain ⟨m, hm⟩ := h.ends b
  rcases List.mem_cons.mp ((h.below_iff hm).mp hab) with rfl | ha
  · rfl
  · obtain ⟨k, hk, -, hkm⟩ := hm.of_mem ha
    rcases List.mem_cons.mp ((h.below_iff hk).mp hba) with rfl | hb
    · rfl
    · exact absurd (hkm b hb) hm.not_mem_self

theorem not_below_of_child (h : Linked parent children) (hc : c ∈ children a) :
    ¬ Below children c a := by
  intro hca
  have hca' : c = a := h.below_antisymm hca ((Below.refl a).tail hc)
  subst hca'
  exact ChainEnds.not_of_loop ((h.mem_iff c c).mp hc) (h.ends c)

/-- Two ancestors of one node lie on one line. -/
theorem below_total (h : Linked parent children) (hax : Below children a x)
    (hbx : Below children b x) : Below children a b ∨ Below children b a := by
  induction hax generalizing b with
  | refl => exact Or.inr hbx
  | @tail p c hap hc ih =>
    rcases Relation.ReflTransGen.cases_tail hbx with rfl | ⟨q, hbq, hcq⟩
    · exact Or.inl (Below.tail hap hc)
    · have hpq : p = q := by
        have hp := (h.mem_iff p c).mp hc
        rw [(h.mem_iff q c).mp hcq] at hp
        exact (Option.some.inj hp).symm
      subst hpq
      exact ih hbq

/-- The parts below two children of one node have nothing in common. -/
theorem disjoint_children (h : Linked parent children) (hb : b ∈ children p)
    (hc : c ∈ children p) (hbx : Below children b x) (hcx : Below children c x) : b = c := by
  have upper : ∀ {b c : ι}, b ∈ children p → c ∈ children p → Below children b c → b = c := by
    intro b c hb hc hbc
    rcases Relation.ReflTransGen.cases_tail hbc with rfl | ⟨q, hbq, hcq⟩
    · rfl
    · have hp := (h.mem_iff p c).mp hc
      rw [(h.mem_iff q c).mp hcq] at hp
      cases Option.some.inj hp
      exact absurd hbq (h.not_below_of_child hb)
  rcases h.below_total hbx hcx with hbc | hcb
  · exact upper hb hc hbc
  · exact (upper hc hb hcb).symm

/-- With all links among `n` identifiers every path downwards has at most `n` steps. -/
theorem depthLt {parent : Nat → Option Nat} {children : Nat → List Nat} {n : Nat}
    (h : Linked parent children) (hlt : ∀ x p, parent x = some p → x < n ∧ p < n) (x : Nat) :
    DepthLt children (n + 1) x := by
  have chain_lt : ∀ {x l}, ParentChain parent x l → ∀ y ∈ l, y < n := by
    intro x l hl
    induction hl with
    | root _ => intro y hy; cases hy
    | step hp _ ih =>
      intro y hy
      rcases List.mem_cons.mp hy with rfl | hy
      · exact (hlt _ _ hp).2
      · exact ih y hy
  -- The longer the chain above a node, the shorter the paths below it.
  have down : ∀ k x l, ParentChain parent x l → n ≤ l.length + k →
      DepthLt children (k + 1) x := by
    intro k
    induction k with
    | zero =>
      intro x l hl hn c hc
      have hp := (h.mem_iff x c).mp hc
      have hcl := (ParentChain.step hp hl).length_lt (hlt c x hp).1 (chain_lt (.step hp hl))
      simp only [List.length_cons] at hcl
      omega
    | succ k ih =>
      intro x l hl hn c hc
      refine ih c (x :: l) (.step ((h.mem_iff x c).mp hc) hl) ?_
      simp only [List.length_cons]
      omega
  obtain ⟨l, hl⟩ := h.ends x
  exact down n x l hl (Nat.le_add_left n _)

/-! ## Changing one link -/

variable [DecidableEq ι]

/-- Taking `c` out of its parent's list and clearing its pointer. -/
theorem unlink (h : Linked parent children) (hc : parent c = some p) :
    Linked (Function.update parent c none)
      (Function.update children p ((children p).erase c)) where
  mem_iff q x := by
    by_cases hq : q = p
    · subst hq
      simp only [Function.update_self, (h.nodup q).mem_erase_iff, h.mem_iff,
        Function.update_apply]
      by_cases hx : x = c <;> simp [hx]
    · simp only [Function.update_of_ne hq, h.mem_iff, Function.update_apply]
      by_cases hx : x = c
      · simp [hx, hc, Ne.symm hq]
      · simp [hx]
  nodup q := by
    by_cases hq : q = p
    · subst hq
      simpa only [Function.update_self] using (h.nodup q).erase c
    · simpa only [Function.update_of_ne hq] using h.nodup q
  ends x := by
    apply (h.ends x).mono
    intro y
    by_cases hy : y = c <;> simp [hy]

/-- Putting an unlinked `c` into the list of a node that is not below it. -/
theorem link (h : Linked parent children) (hc : parent c = none) {l : List ι}
    (hp : ParentChain parent p l) (hl : c ∉ p :: l) {i : Nat} (hi : i ≤ (children p).length) :
    Linked (Function.update parent c (some p))
      (Function.update children p ((children p).insertIdx i c)) where
  mem_iff q x := by
    by_cases hq : q = p
    · subst hq
      rw [Function.update_self, List.mem_insertIdx hi, h.mem_iff]
      by_cases hx : x = c <;> simp [hx]
    · simp only [Function.update_of_ne hq, h.mem_iff, Function.update_apply]
      by_cases hx : x = c
      · simp [hx, hc, Ne.symm hq]
      · simp [hx]
  nodup q := by
    by_cases hq : q = p
    · subst hq
      rw [Function.update_self, (List.perm_insertIdx c (children q) hi).nodup_iff,
        List.nodup_cons, h.mem_iff, hc]
      exact ⟨by simp, h.nodup q⟩
    · simpa only [Function.update_of_ne hq] using h.nodup q
  ends x := ChainEnds.link h.ends hp hl x

end Linked

end ReactNativeSkia
