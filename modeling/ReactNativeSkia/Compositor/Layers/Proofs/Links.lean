import ReactNativeSkia.Compositor.Layers.Layer

/-!
# The layers as a forest

`Heap.Forest` says that parent pointers and children vectors describe the same links, that
no vector repeats a layer, that every parent chain ends and that links stay among the
constructed layers. Under it the walks of `rootLayer` and `hasAncestor` end, and
`removeFromParent` and an `insertChild` of a layer that is neither the parent itself nor
above it keep it.
-/

namespace ReactNativeSkia

variable [Skia]

/-- Consistent links among the layers constructed so far. -/
structure Heap.Forest (h : Heap) : Prop where
  linked : Linked h.parent h.children
  range : ∀ x p, h.parent x = some p → x < h.nextId ∧ p < h.nextId

namespace Heap

/-! ## Heaps with the same links -/

/-- The two heaps agree on every parent pointer and every children vector. -/
def SameLinks (h h' : Heap) : Prop :=
  h'.nextId = h.nextId ∧ h'.parent = h.parent ∧ h'.children = h.children

theorem sameLinks_set (h : Heap) (x : LayerId) {l : Layer} (hp : l.parent_ = h.parent x)
    (hc : l.children_ = h.children x) : h.SameLinks (h.set x l) := by
  refine ⟨rfl, ?_, ?_⟩
  · funext y
    by_cases hy : y = x
    · subst hy; simp [parent, hp]
    · simp [parent, set_layer, hy]
  · funext y
    by_cases hy : y = x
    · subst hy; simp [children, hc]
    · simp [children, set_layer, hy]

theorem sameLinks_modify (h : Heap) (x : LayerId) {f : Layer → Layer}
    (hp : ∀ l, (f l).parent_ = l.parent_) (hc : ∀ l, (f l).children_ = l.children_) :
    h.SameLinks (h.modify x f) :=
  h.sameLinks_set x (hp _) (hc _)

theorem invalidate_sameLinks (h : Heap) (x : LayerId) (mask : LayerInvalidateMask) :
    h.SameLinks (h.invalidate x mask) :=
  h.sameLinks_modify x (fun _ => rfl) (fun _ => rfl)

theorem SameLinks.forest {h h' : Heap} (hs : h.SameLinks h') (hf : h.Forest) : h'.Forest := by
  obtain ⟨hn, hp, hc⟩ := hs
  exact ⟨by rw [hp, hc]; exact hf.linked, by rw [hp, hn]; exact hf.range⟩

/-! ## Walks in a forest -/

namespace Forest

variable {h : Heap} {x p c : LayerId}

/-- Linked or not, a layer has at most `nextId` proper ancestors. -/
theorem chain_length_le (hf : h.Forest) {l : List LayerId} (hl : ParentChain h.parent x l) :
    l.length ≤ h.nextId := ParentChain.length_le hf.range hl

end Forest

/-- With enough steps the loop of `hasAncestor` looks the layer up in the chain. -/
theorem hasAncestorFrom_chain {h : Heap} {x a : LayerId} {l : List LayerId} {n : Nat}
    (hl : ParentChain h.parent x l) (hn : l.length ≤ n) :
    h.hasAncestorFrom n (h.parent x) a = some (decide (a ∈ l)) := by
  induction hl generalizing n with
  | root hx => simp [hx, hasAncestorFrom]
  | @step x p l hp _ ih =>
    cases n with
    | zero => simp at hn
    | succ n =>
      rw [hp, hasAncestorFrom]
      by_cases hpa : p = a
      · simp [hpa]
      · rw [if_neg hpa, ih (Nat.le_of_succ_le_succ hn)]
        simp [Ne.symm hpa]

theorem rootLayerFrom_isSome {h : Heap} {x : LayerId} {l : List LayerId} {n : Nat}
    (hl : ParentChain h.parent x l) (hn : l.length ≤ n) :
    (h.rootLayerFrom n x).isSome = true := by
  induction hl generalizing n with
  | root hx => unfold rootLayerFrom; simp [hx]
  | step hp _ ih =>
    cases n with
    | zero => simp at hn
    | succ n =>
      unfold rootLayerFrom
      rw [hp]
      exact ih (Nat.le_of_succ_le_succ hn)

theorem Forest.hasAncestor_eq {h : Heap} (hf : h.Forest) {x a : LayerId} {l : List LayerId}
    (hl : ParentChain h.parent x l) : h.hasAncestor x a = some (decide (a ∈ l)) :=
  hasAncestorFrom_chain hl (hf.chain_length_le hl)

theorem Forest.hasAncestor_isSome {h : Heap} (hf : h.Forest) (x a : LayerId) :
    (h.hasAncestor x a).isSome = true := by
  obtain ⟨l, hl⟩ := hf.linked.ends x
  simp [hf.hasAncestor_eq hl]

theorem Forest.rootLayer_isSome {h : Heap} (hf : h.Forest) (x : LayerId) :
    (h.rootLayer x).isSome = true := by
  obtain ⟨l, hl⟩ := hf.linked.ends x
  exact rootLayerFrom_isSome hl (hf.chain_length_le hl)

/-! ## What the link operations do to pointers and vectors -/

theorem parent_set (h : Heap) (x : LayerId) (l : Layer) :
    (h.set x l).parent = Function.update h.parent x l.parent_ := by
  funext y
  by_cases hy : y = x
  · subst hy; simp [parent]
  · simp [parent, set_layer, hy]

theorem children_set (h : Heap) (x : LayerId) (l : Layer) :
    (h.set x l).children = Function.update h.children x l.children_ := by
  funext y
  by_cases hy : y = x
  · subst hy; simp [children]
  · simp [children, set_layer, hy]

theorem clearParent_parent (h : Heap) (c : LayerId) :
    (h.clearParent c).parent = Function.update h.parent c none :=
  h.parent_set c _

theorem clearParent_children (h : Heap) (c : LayerId) :
    (h.clearParent c).children = h.children :=
  (h.children_set c _).trans (Function.update_eq_self c h.children)

theorem removeFromParent_of_none {h : Heap} {c : LayerId} (hc : h.parent c = none) :
    h.removeFromParent c = h := by
  simp [removeFromParent, hc]

/-- In a forest `removeFromParent` clears the pointer and takes the layer out of the
vector of its parent. -/
theorem Forest.removeFromParent_spec {h : Heap} (hf : h.Forest) {c q : LayerId}
    (hc : h.parent c = some q) :
    (h.removeFromParent c).nextId = h.nextId ∧
    (h.removeFromParent c).parent = Function.update h.parent c none ∧
    (h.removeFromParent c).children =
      Function.update h.children q ((h.children q).erase c) := by
  have hmem : c ∈ h.children q := (hf.linked.mem_iff q c).mpr hc
  have herase := List.erase_eq_eraseIdx (h.children q) c
  cases hi : (h.children q).idxOf? c with
  | none => exact absurd hmem (List.idxOf?_eq_none_iff.mp hi)
  | some i =>
    obtain ⟨hlt, -⟩ := List.idxOf?_eq_some_iff.mp hi
    simp only [hi] at herase
    have hnot : ¬ i ≥ (h.children q).length := Nat.not_le.mpr hlt
    simp only [removeFromParent, hc, removeChild, hi, removeChildAt, if_neg hnot]
    refine ⟨rfl, ?_, ?_⟩
    · rw [modify, parent_set]
      exact (Function.update_eq_self q (h.clearParent c).parent).trans (h.clearParent_parent c)
    · rw [modify, children_set]
      change Function.update (h.clearParent c).children q
        (((h.clearParent c).children q).eraseIdx i) = _
      rw [clearParent_children, herase]

theorem Forest.removeFromParent {h : Heap} (hf : h.Forest) (c : LayerId) :
    (h.removeFromParent c).Forest := by
  cases hc : h.parent c with
  | none => rw [removeFromParent_of_none hc]; exact hf
  | some q =>
    obtain ⟨hn, hp, hch⟩ := hf.removeFromParent_spec hc
    refine ⟨by rw [hp, hch]; exact hf.linked.unlink hc, ?_⟩
    rw [hp, hn]
    intro x p hx
    by_cases hxc : x = c
    · simp [hxc] at hx
    · rw [Function.update_of_ne hxc] at hx
      exact hf.range x p hx

theorem removeFromParent_parent_self {h : Heap} (hf : h.Forest) (c : LayerId) :
    (h.removeFromParent c).parent c = none := by
  cases hc : h.parent c with
  | none => rw [removeFromParent_of_none hc, hc]
  | some q => rw [(hf.removeFromParent_spec hc).2.1, Function.update_self]

theorem removeFromParent_nextId {h : Heap} (hf : h.Forest) (c : LayerId) :
    (h.removeFromParent c).nextId = h.nextId := by
  cases hc : h.parent c with
  | none => rw [removeFromParent_of_none hc]
  | some q => exact (hf.removeFromParent_spec hc).1

/-- Unlinking `c` does not change the chain of a layer that `c` is not above. -/
theorem removeFromParent_chain {h : Heap} (hf : h.Forest) {c p : LayerId} {l : List LayerId}
    (hl : ParentChain h.parent p l) (hc : c ∉ p :: l) :
    ParentChain (h.removeFromParent c).parent p l := by
  cases hq : h.parent c with
  | none => rwa [removeFromParent_of_none hq]
  | some q =>
    rw [(hf.removeFromParent_spec hq).2.1]
    refine hl.congr fun z hz => Function.update_of_ne ?_ _ _
    rintro rfl
    exact hc hz

/-- Unlinking a layer cuts it off the chains that went through it. -/
theorem removeFromParent_chain_of_mem {h : Heap} (hf : h.Forest) {c p : LayerId}
    {l : List LayerId} (hl : ParentChain h.parent p l) (hc : c ∈ l) :
    ∃ m, ParentChain (h.removeFromParent c).parent p m ∧ c ∈ m := by
  have hself := removeFromParent_parent_self hf c
  induction hl with
  | root _ => cases hc
  | @step x q l hq hl ih =>
    have hxc : x ≠ c := by
      rintro rfl
      exact (ParentChain.step hq hl).not_mem_self hc
    have hx : (h.removeFromParent c).parent x = some q := by
      cases hr : h.parent c with
      | none => rw [removeFromParent_of_none hr, hq]
      | some r => rw [(hf.removeFromParent_spec hr).2.1, Function.update_of_ne hxc, hq]
    by_cases hqc : q = c
    · subst hqc
      exact ⟨[q], .step hx (.root hself), List.mem_singleton_self q⟩
    · obtain ⟨m, hm, hcm⟩ := ih ((List.mem_cons.mp hc).resolve_left (Ne.symm hqc))
      exact ⟨q :: m, .step hx hm, List.mem_cons_of_mem _ hcm⟩

/-- The parent that `setParent` leaves to a detached layer that is `p` or not above it. -/
theorem setParent_of_not_above {h : Heap} (hf : h.Forest) {c p : LayerId} {l : List LayerId}
    (hl : ParentChain h.parent p l) (hc : c ∉ l) :
    h.setParent c (some p) = some (h.modify c (·.withParent (some p))) := by
  simp [setParent, hf.hasAncestor_eq hl, hc]

/-- `insertChild` below a layer that `c` is neither equal to nor above. -/
theorem Forest.insertChild_spec {h : Heap} (hf : h.Forest) {p c : LayerId} {l : List LayerId}
    (hl : ParentChain h.parent p l) (hc : c ∉ p :: l) (i : Nat) :
    ∃ h', h.insertChild p c i = some h' ∧ h'.nextId = h.nextId ∧
      h'.parent = Function.update (h.removeFromParent c).parent c (some p) ∧
      h'.children = Function.update (h.removeFromParent c).children p
        (((h.removeFromParent c).children p).insertIdx
          (min i ((h.removeFromParent c).children p).length) c) := by
  have hl' := removeFromParent_chain hf hl hc
  have hset := setParent_of_not_above (hf.removeFromParent c) hl'
    (fun hm => hc (List.mem_cons_of_mem _ hm))
  refine ⟨_, by simp only [insertChild, hset]; rfl, ?_, ?_, ?_⟩
  · exact removeFromParent_nextId hf c
  · rw [modify, parent_set]
    exact (Function.update_eq_self p _).trans (parent_set _ c _)
  · have hch : ((h.removeFromParent c).modify c (·.withParent (some p))).children =
        (h.removeFromParent c).children :=
      (children_set _ c _).trans (Function.update_eq_self c _)
    have hp : (((h.removeFromParent c).modify c (·.withParent (some p))).layer p).children_ =
        (h.removeFromParent c).children p := congrFun hch p
    rw [modify, children_set, hch, Layer.withChildren_children_, hp]

theorem Forest.insertChild {h : Heap} (hf : h.Forest) {p c : LayerId} {l : List LayerId}
    (hl : ParentChain h.parent p l) (hc : c ∉ p :: l) (hpn : p < h.nextId) (hcn : c < h.nextId)
    {i : Nat} {h' : Heap} (hi : h.insertChild p c i = some h') : h'.Forest := by
  obtain ⟨h'', hi', hn, hp, hch⟩ := hf.insertChild_spec hl hc i
  rw [hi] at hi'
  cases hi'
  have hf' := hf.removeFromParent c
  refine ⟨?_, ?_⟩
  · rw [hp, hch]
    exact hf'.linked.link (removeFromParent_parent_self hf c) (removeFromParent_chain hf hl hc) hc
      (Nat.min_le_right _ _)
  · rw [hp, hn]
    intro x q hx
    by_cases hxc : x = c
    · subst hxc
      rw [Function.update_self] at hx
      cases hx
      exact ⟨hcn, hpn⟩
    · rw [Function.update_of_ne hxc] at hx
      have hlt := hf'.range x q hx
      rwa [removeFromParent_nextId hf c] at hlt

/-! ## What the link operations leave alone -/

/-- The layers differ in parent pointers and children vectors only. -/
def OnlyLinks (h h' : Heap) : Prop :=
  ∀ x, ∃ p cs, h'.layer x = ((h.layer x).withParent p).withChildren cs

theorem OnlyLinks.refl (h : Heap) : OnlyLinks h h := fun _ => ⟨_, _, rfl⟩

theorem OnlyLinks.trans {h h' h'' : Heap} (ho : OnlyLinks h h') (ho' : OnlyLinks h' h'') :
    OnlyLinks h h'' := by
  intro x
  obtain ⟨p, cs, hx⟩ := ho x
  obtain ⟨p', cs', hx'⟩ := ho' x
  exact ⟨p', cs', by rw [hx', hx]; rfl⟩

theorem onlyLinks_modify (h : Heap) (x : LayerId) {f : Layer → Layer}
    (hf : ∀ l, ∃ p cs, f l = (l.withParent p).withChildren cs) : OnlyLinks h (h.modify x f) := by
  intro y
  rw [modify_layer]
  split
  · rename_i hy
    subst hy
    exact hf _
  · exact ⟨_, _, rfl⟩

theorem onlyLinks_withParent (h : Heap) (x : LayerId) (p : Option LayerId) :
    OnlyLinks h (h.modify x (·.withParent p)) :=
  h.onlyLinks_modify x fun _ => ⟨_, _, rfl⟩

theorem onlyLinks_removeFromParent (h : Heap) (c : LayerId) :
    OnlyLinks h (h.removeFromParent c) := by
  unfold removeFromParent
  split
  · exact .refl h
  · unfold removeChild
    split
    · exact .refl h
    · unfold removeChildAt
      split
      · exact .refl h
      · exact (h.onlyLinks_withParent c none).trans (onlyLinks_modify _ _ fun _ => ⟨_, _, rfl⟩)

theorem onlyLinks_setParent {h h' : Heap} {c : LayerId} {p : Option LayerId}
    (hs : h.setParent c p = some h') : OnlyLinks h h' := by
  unfold setParent at hs
  split at hs
  · cases hs
    exact h.onlyLinks_withParent c none
  · split at hs
    · cases hs
    · cases hs
      exact .refl h
    · cases hs
      exact h.onlyLinks_withParent c _

theorem onlyLinks_insertChild {h h' : Heap} {p c : LayerId} {i : Nat}
    (hi : h.insertChild p c i = some h') : OnlyLinks h h' := by
  unfold insertChild at hi
  split at hi
  · cases hi
  · rename_i h₁ hs
    cases hi
    exact (h.onlyLinks_removeFromParent c).trans
      ((onlyLinks_setParent hs).trans (onlyLinks_modify _ _ fun _ => ⟨_, _, rfl⟩))

/-! ## Heaps given by a list of layers -/

/-- The layers of a list, named by their positions. -/
def ofLayers (ls : List Layer) : Heap := ⟨ls.length, fun x => ls.getD x {}⟩

theorem ofLayers_forall {ls : List Layer} {P : Layer → Prop} (hls : ∀ l ∈ ls, P l) (h : P {})
    (x : LayerId) : P ((ofLayers ls).layer x) := by
  by_cases hx : x < ls.length
  · have hget : (ofLayers ls).layer x = ls[x] := by simp [ofLayers, hx]
    rw [hget]
    exact hls _ (List.getElem_mem hx)
  · have hget : (ofLayers ls).layer x = {} := by
      simp [ofLayers, List.getElem?_eq_none (Nat.not_lt.mp hx)]
    rw [hget]
    exact h

theorem ofLayers_below_lt {ls : List Layer}
    (hlt : ∀ p < ls.length, ∀ c ∈ (ofLayers ls).children p, c < ls.length) {x y : LayerId}
    (hx : x < ls.length) (hb : Below (ofLayers ls).children x y) : y < ls.length := by
  induction hb with
  | refl => exact hx
  | tail _ hc ih => exact hlt _ ih _ hc

/-- A forest whose parents come before their children in the list. -/
theorem ofLayers_forest {ls : List Layer}
    (hmem : ∀ p < ls.length, ∀ c < ls.length,
      c ∈ (ofLayers ls).children p ↔ (ofLayers ls).parent c = some p)
    (hlt : ∀ p < ls.length, ∀ c ∈ (ofLayers ls).children p, c < ls.length)
    (hnd : ∀ p < ls.length, ((ofLayers ls).children p).Nodup)
    (hpar : ∀ c < ls.length, ∀ p ∈ (ofLayers ls).parent c, p < c) : (ofLayers ls).Forest := by
  have hout : ∀ x, ¬ x < ls.length → (ofLayers ls).layer x = {} := by
    intro x hx
    simp [ofLayers, List.getElem?_eq_none (Nat.not_lt.mp hx)]
  have hpout : ∀ x, ¬ x < ls.length → (ofLayers ls).parent x = none := fun x hx => by
    rw [parent, hout x hx]
  have hcout : ∀ x, ¬ x < ls.length → (ofLayers ls).children x = [] := fun x hx => by
    rw [children, hout x hx]
  have hlt' : ∀ x p, (ofLayers ls).parent x = some p → x < ls.length ∧ p < x := by
    intro x p hx
    by_cases hxl : x < ls.length
    · exact ⟨hxl, hpar x hxl p hx⟩
    · rw [hpout x hxl] at hx
      cases hx
  refine ⟨⟨?_, ?_, ?_⟩, ?_⟩
  · intro p c
    by_cases hp : p < ls.length
    · by_cases hc : c < ls.length
      · exact hmem p hp c hc
      · rw [hpout c hc]
        exact ⟨fun hm => absurd (hlt p hp c hm) hc, fun hn => by cases hn⟩
    · rw [hcout p hp]
      constructor
      · intro hm
        cases hm
      · intro hx
        exact absurd ((hlt' c p hx).2.trans (hlt' c p hx).1) hp
  · intro p
    by_cases hp : p < ls.length
    · exact hnd p hp
    · rw [hcout p hp]
      exact List.nodup_nil
  · intro x
    induction x using Nat.strong_induction_on with
    | _ x ih =>
      cases hx : (ofLayers ls).parent x with
      | none => exact .of_root hx
      | some p => exact .of_parent hx (ih p (hlt' x p hx).2)
  · intro x p hx
    exact ⟨(hlt' x p hx).1, (hlt' x p hx).2.trans (hlt' x p hx).1⟩

end Heap

end ReactNativeSkia
