import ReactNativeSkia.Mounting.Proofs.Mutations
import ReactNativeSkia.Mounting.Proofs.Drawn
import ReactNativeSkia.Misc.Tombstones

/-!
# Mounting a list of mutations

`ViewTree` is what a list of mutations is about: ordered lists of children, from which a
removal takes the entry at its index and into which an insertion puts one. The vectors of the
layers keep the removed entries until a pre-paint, while the index of an insertion counts
without them. `processMutations_children_iff` says when the two agree in the end.
-/

namespace ReactNativeSkia

/-- The tree that the mutations of a list edit, and the views the list has removed so far. -/
structure ViewTree where
  children : LayerId → List LayerId
  removed : List LayerId := []

namespace ViewTree

def edit (t : ViewTree) : TreeEdit → ViewTree
  | .keep => t
  | .insert p c index =>
    { t with
      children := Function.update t.children p ((t.children p).insertIdx index.toInt.toNat c) }
  | .remove p c index =>
    { children := Function.update t.children p ((t.children p).eraseIdx index.toInt.toNat)
      removed := c :: t.removed }

/-- A removal names the child at its index; an insertion puts a view that is no child and has
not been removed at an index of the list or behind it. -/
def Accepts (t : ViewTree) : TreeEdit → Prop
  | .keep => True
  | .insert p c index => 0 ≤ index.toInt ∧ index.toInt ≤ (t.children p).length ∧
      c ∉ t.removed ∧ ∀ q, c ∉ t.children q
  | .remove p c index => 0 ≤ index.toInt ∧ (t.children p)[index.toInt.toNat]? = some c

theorem removed_subset_edit (t : ViewTree) (e : TreeEdit) : t.removed ⊆ (t.edit e).removed := by
  cases e with
  | keep => exact fun _ hc => hc
  | insert p c index => exact fun _ hc => hc
  | remove p c index => exact List.subset_cons_self c t.removed

end ViewTree

/-- The index of an accepted insertion is what `insertChild` is called with. -/
theorem toSizeT_of_nonneg {index : Int32} (h : 0 ≤ index.toInt) :
    toSizeT index = index.toInt.toNat := by
  have hlt := index.toInt_lt
  rw [toSizeT, Int.emod_eq_of_lt h (by omega)]

section
variable [Skia]

namespace MountingManager

/-- The tree whose children lists are the vectors of the layers. -/
def viewTree (m : MountingManager) : ViewTree := { children := m.layers.children }

/-- The tree after a list of mutations. -/
def editedTree (m : MountingManager) (t : ViewTree) : List ShadowViewMutation → ViewTree
  | [] => t
  | mutation :: mutations =>
    match m.processMutation mutation with
    | none => t
    | some m' => m'.editedTree (t.edit (m.edit mutation)) mutations

/-- Every mutation fits the tree as it is when its turn comes, and inserts no layer below
itself. -/
def ValidList (m : MountingManager) (t : ViewTree) : List ShadowViewMutation → Prop
  | [] => True
  | mutation :: mutations =>
    t.Accepts (m.edit mutation) ∧ m.EditFits (m.edit mutation) ∧
      ∀ m', m.processMutation mutation = some m' →
        m'.ValidList (t.edit (m.edit mutation)) mutations

/-- A mutation whose edit and result are known. -/
theorem validList_cons {m : MountingManager} {t : ViewTree} {mutation : ShadowViewMutation}
    {mutations : List ShadowViewMutation} (e : TreeEdit) (m' : MountingManager)
    (he : m.edit mutation = e)
    (hacc : t.Accepts e) (hfits : m.EditFits e) (hm' : m.processMutation mutation = some m')
    (hrest : m'.ValidList (t.edit e) mutations) : m.ValidList t (mutation :: mutations) := by
  subst he
  refine ⟨hacc, hfits, ?_⟩
  intro m₁ hm₁
  obtain rfl : m' = m₁ := Option.some.inj (hm'.symm.trans hm₁)
  exact hrest

/-- An insertion below `p` of a view that stays, into a vector whose entries before the index
are those of the children list, as far as they stay. -/
def InsertFits (m : MountingManager) (t : ViewTree) (gone : List LayerId) (p : LayerId) :
    TreeEdit → Prop
  | .insert q c index => q = p → c ∉ gone → m.layers.marked c = false ∧
      live gone ((t.children p).take index.toInt.toNat) =
        live gone ((m.layers.children p).take index.toInt.toNat)
  | .keep | .remove _ _ _ => True

/-- Every insertion of a list below `p` fits; `gone` is what the whole list removes. -/
def InsertsFit (m : MountingManager) (t : ViewTree) (gone : List LayerId) (p : LayerId) :
    List ShadowViewMutation → Prop
  | [] => True
  | mutation :: mutations =>
    m.InsertFits t gone p (m.edit mutation) ∧
      ∀ m', m.processMutation mutation = some m' →
        m'.InsertsFit (t.edit (m.edit mutation)) gone p mutations

/-- The children of `p` that stay are not marked. -/
def Unmarked (m : MountingManager) (gone : List LayerId) (p : LayerId) : Prop :=
  ∀ c ∈ m.layers.children p, c ∉ gone → m.layers.marked c = false

/-! ## Vectors that follow the tree -/

/-- The vectors hold the children and the removed views, and the latter are marked. -/
structure Follows (m : MountingManager) (t : ViewTree) : Prop where
  forest : m.layers.Forest
  registered : m.Registered
  mem_iff : ∀ p c, c ∈ t.children p ↔ c ∈ m.layers.children p ∧ c ∉ t.removed
  nodup : ∀ p, (t.children p).Nodup
  removed : ∀ c ∈ t.removed, c < m.layers.nextId ∧ m.layers.marked c = true

variable {m m' : MountingManager} {t : ViewTree}

theorem follows_viewTree (hf : m.layers.Forest) (hr : m.Registered) : m.Follows m.viewTree where
  forest := hf
  registered := hr
  mem_iff p c := by simp [viewTree]
  nodup := hf.linked.nodup
  removed c hc := by cases hc

theorem Follows.length_le (hm : m.Follows t) (p : LayerId) :
    (t.children p).length ≤ (m.layers.children p).length :=
  ((hm.nodup p).subperm fun c hc => ((hm.mem_iff p c).mp hc).1).length_le

theorem Follows.parent_eq_none (hm : m.Follows t) {c : LayerId} (hc : c ∉ t.removed)
    (hnot : ∀ q, c ∉ t.children q) : m.layers.parent c = none := by
  refine Option.eq_none_iff_forall_ne_some.mpr fun q hq => hnot q ?_
  exact (hm.mem_iff q c).mpr ⟨(hm.forest.linked.mem_iff q c).mpr hq, hc⟩

/-- The vectors after an accepted insertion. -/
theorem Follows.inserts_children (hm : m.Follows t) {p c : LayerId} {index : Int32}
    (hacc : t.Accepts (.insert p c index)) (hs : m.Inserts p c index m') :
    m'.layers.children = Function.update m.layers.children p
      ((m.layers.children p).insertIdx index.toInt.toNat c) := by
  obtain ⟨hpos, hle, hgone, hnot⟩ := hacc
  have hlen := hm.length_le p
  rw [hs.children (hm.parent_eq_none hgone hnot), toSizeT_of_nonneg hpos, Nat.min_eq_left]
  omega

theorem Follows.keeps (hm : m.Follows t) (hs : m.Keeps m') (hr : m'.Registered) :
    m'.Follows t where
  forest := Spec.forest (e := .keep) hm.forest hs
  registered := hr
  mem_iff p c := by rw [hs.children, hm.mem_iff]
  nodup := hm.nodup
  removed c hc := by
    obtain ⟨hlt, hmark⟩ := hm.removed c hc
    exact ⟨hlt.trans_le hs.nextId, by rw [hs.marked c hlt, hmark]⟩

theorem Follows.inserts (hm : m.Follows t) {p c : LayerId} {index : Int32}
    (hacc : t.Accepts (.insert p c index)) (hs : m.Inserts p c index m') (hr : m'.Registered) :
    m'.Follows (t.edit (.insert p c index)) := by
  have hch := hm.inserts_children hacc hs
  obtain ⟨hpos, hle, hgone, hnot⟩ := hacc
  have hlen := hm.length_le p
  have hi : index.toInt.toNat ≤ (t.children p).length := by omega
  refine ⟨hs.forest, hr, ?_, ?_, ?_⟩
  · intro q d
    rw [hch]
    simp only [ViewTree.edit, Function.update_apply]
    split
    · rw [List.mem_insertIdx hi, List.mem_insertIdx (hi.trans hlen), hm.mem_iff]
      by_cases hdc : d = c
      · simp [hdc, hgone]
      · simp [hdc]
    · exact hm.mem_iff q d
  · intro q
    simp only [ViewTree.edit, Function.update_apply]
    split
    · rw [(List.perm_insertIdx c _ hi).nodup_iff]
      exact List.nodup_cons.mpr ⟨hnot p, hm.nodup p⟩
    · exact hm.nodup q
  · intro d hd
    rw [hs.nextId, hs.marked]
    exact hm.removed d hd

theorem Follows.marks (hm : m.Follows t) {p c : LayerId} {index : Int32}
    (hacc : t.Accepts (.remove p c index)) (hs : m.Marks c m') (hr : m'.Registered) :
    m'.Follows (t.edit (.remove p c index)) := by
  obtain ⟨hpos, hget⟩ := hacc
  have hc := (hm.mem_iff p c).mp (List.mem_of_getElem? hget)
  have hpar := (hm.forest.linked.mem_iff p c).mp hc.1
  refine ⟨Heap.SameLinks.forest ⟨hs.nextId, hs.parent, hs.children⟩ hm.forest, hr, ?_,
    ?_, ?_⟩
  · intro q d
    rw [hs.children]
    simp only [ViewTree.edit, Function.update_apply, List.mem_cons, not_or]
    split
    · rename_i hq
      subst hq
      rw [mem_eraseIdx_of_nodup (hm.nodup q) hget, hm.mem_iff, and_assoc, and_comm (b := d ≠ c)]
    · rename_i hq
      rw [hm.mem_iff]
      constructor
      · intro hd
        refine ⟨hd.1, ?_, hd.2⟩
        rintro rfl
        have hqd := (hm.forest.linked.mem_iff q d).mp hd.1
        rw [hpar] at hqd
        exact hq (Option.some.inj hqd).symm
      · intro hd
        exact ⟨hd.1, hd.2.2⟩
  · intro q
    simp only [ViewTree.edit, Function.update_apply]
    split
    · exact (hm.nodup p).sublist (List.eraseIdx_sublist ..)
    · exact hm.nodup q
  · intro d hd
    rw [hs.nextId, hs.marked]
    rcases List.mem_cons.mp hd with rfl | hd
    · exact ⟨(hm.forest.range d p hpar).1, Function.update_self ..⟩
    · obtain ⟨hlt, hmark⟩ := hm.removed d hd
      refine ⟨hlt, ?_⟩
      by_cases hdc : d = c
      · rw [hdc, Function.update_self]
      · rw [Function.update_of_ne hdc, hmark]

/-- The children of `p` and the entries of its vector agree as far as they stay. -/
def Agrees (m : MountingManager) (t : ViewTree) (gone : List LayerId) (p : LayerId) : Prop :=
  live gone (t.children p) = live gone (m.layers.children p) ∧ m.Unmarked gone p

variable {gone : List LayerId} {p : LayerId}

theorem Follows.agrees_keeps (hm : m.Follows t) (hs : m.Keeps m') :
    m'.Agrees t gone p ↔ m.Agrees t gone p := by
  unfold Agrees Unmarked
  rw [hs.children]
  refine and_congr_right fun _ => forall₂_congr fun c hc => ?_
  rw [hs.marked c (hm.forest.range c p ((hm.forest.linked.mem_iff p c).mp hc)).1]

theorem Follows.agrees_inserts (hm : m.Follows t) {q c : LayerId} {index : Int32}
    (hacc : t.Accepts (.insert q c index)) (hs : m.Inserts q c index m') :
    m'.Agrees (t.edit (.insert q c index)) gone p ↔
      m.Agrees t gone p ∧ m.InsertFits t gone p (.insert q c index) := by
  have hch := hm.inserts_children hacc hs
  obtain ⟨hpos, hle, -, hnot⟩ := hacc
  have hlen := hm.length_le q
  have hi : index.toInt.toNat ≤ (t.children q).length := by omega
  unfold Agrees Unmarked InsertFits
  rw [hch, hs.marked]
  simp only [ViewTree.edit]
  by_cases hq : q = p
  · subst hq
    simp only [Function.update_self, forall_const, List.mem_insertIdx (hi.trans hlen),
      forall_eq_or_imp]
    by_cases hc : c ∈ gone
    · rw [live_insertIdx_of_mem hc hi, live_insertIdx_of_mem hc (hi.trans hlen)]
      simp [hc]
    · rw [live_insertIdx_eq_iff hc (hnot q) hi (hi.trans hlen)]
      simp only [hc, not_false_eq_true, forall_const]
      tauto
  · simp only [Function.update_of_ne (Ne.symm hq), hq, false_implies, and_true]

theorem agrees_marks {q c : LayerId} {index : Int32} (hacc : t.Accepts (.remove q c index))
    (hc : c ∈ gone) (hs : m.Marks c m') :
    m'.Agrees (t.edit (.remove q c index)) gone p ↔ m.Agrees t gone p := by
  have hlive : live gone ((t.edit (.remove q c index)).children p) = live gone (t.children p) := by
    simp only [ViewTree.edit, Function.update_apply]
    split
    · rename_i hp
      subst hp
      exact live_eraseIdx_of_mem hacc.2 hc
    · rfl
  unfold Agrees Unmarked
  rw [hlive, hs.children, hs.marked]
  refine and_congr_right fun _ => forall₂_congr fun d _ => imp_congr_right fun hd => ?_
  rw [Function.update_of_ne]
  rintro rfl
  exact hd hc

/-! ## Lists of mutations -/

theorem removed_subset_editedTree (m : MountingManager) (t : ViewTree)
    (mutations : List ShadowViewMutation) :
    t.removed ⊆ (m.editedTree t mutations).removed := by
  induction mutations generalizing m t with
  | nil => exact fun _ hc => hc
  | cons mutation mutations ih =>
    unfold editedTree
    split
    · exact fun _ hc => hc
    · rename_i m' _
      exact fun c hc => ih m' _ (t.removed_subset_edit _ hc)

/-- One mutation of a valid list. -/
theorem Follows.mutation (hm : m.Follows t) {mutation : ShadowViewMutation}
    (hacc : t.Accepts (m.edit mutation)) (hfits : m.EditFits (m.edit mutation)) :
    ∃ m', m.processMutation mutation = some m' ∧ m'.Follows (t.edit (m.edit mutation)) ∧
      ∀ gone p, (t.edit (m.edit mutation)).removed ⊆ gone →
        (m'.Agrees (t.edit (m.edit mutation)) gone p ↔
          m.Agrees t gone p ∧ m.InsertFits t gone p (m.edit mutation)) := by
  obtain ⟨m', hm', hspec, hr⟩ := processMutation_spec hm.forest hm.registered hfits
  refine ⟨m', hm', ?_⟩
  cases he : m.edit mutation with
  | keep =>
    rw [he] at hspec
    refine ⟨hm.keeps hspec hr, ?_⟩
    intro gone p _
    simpa only [InsertFits, and_true, ViewTree.edit] using hm.agrees_keeps hspec
  | insert q c index =>
    rw [he] at hspec hacc
    exact ⟨hm.inserts hacc hspec hr, fun gone p _ => hm.agrees_inserts hacc hspec⟩
  | remove q c index =>
    rw [he] at hspec hacc
    refine ⟨hm.marks hacc hspec hr, ?_⟩
    intro gone p hgone
    simpa only [InsertFits, and_true] using
      agrees_marks hacc (hgone List.mem_cons_self) hspec

/-- A valid list of mutations: it is processed, and in the end a vector agrees with the
children exactly if it did so at the start and every insertion fitted. -/
theorem Follows.mutations (hm : m.Follows t) {mutations : List ShadowViewMutation}
    (hvalid : m.ValidList t mutations) :
    ∃ m', m.processMutations mutations = some m' ∧ m'.Follows (m.editedTree t mutations) ∧
      ∀ gone p, (m.editedTree t mutations).removed ⊆ gone →
        (m'.Agrees (m.editedTree t mutations) gone p ↔
          m.Agrees t gone p ∧ m.InsertsFit t gone p mutations) := by
  induction mutations generalizing m t with
  | nil => exact ⟨m, rfl, hm, fun gone p _ => (and_iff_left trivial).symm⟩
  | cons mutation mutations ih =>
    obtain ⟨hacc, hfits, hrest⟩ := hvalid
    obtain ⟨m₁, hm₁, hfollows, hstep⟩ := hm.mutation hacc hfits
    obtain ⟨m', hm', hend, hlist⟩ := ih hfollows (hrest m₁ hm₁)
    have htree : m.editedTree t (mutation :: mutations) =
        m₁.editedTree (t.edit (m.edit mutation)) mutations := by
      rw [editedTree, hm₁]
    rw [htree]
    refine ⟨m', by rw [processMutations, List.foldlM_cons, hm₁]; exact hm', hend,
      fun gone p hgone => ?_⟩
    have hgone₁ : (t.edit (m.edit mutation)).removed ⊆ gone := fun c hc =>
      hgone (removed_subset_editedTree m₁ _ mutations hc)
    rw [hlist gone p hgone, hstep gone p hgone₁, and_assoc]
    refine and_congr_right fun _ => and_congr_right fun _ => ?_
    constructor
    · intro h m₂ hm₂
      obtain rfl : m₁ = m₂ := Option.some.inj (hm₁.symm.trans hm₂)
      exact h
    · intro h
      exact h m₁ hm₁

/-- Without its marked entries the vector of `p` is the list of children exactly if the two
agree as far as they stay. -/
theorem Follows.kept_eq_iff (hm : m.Follows t) (p : LayerId) :
    m.layers.kept p = t.children p ↔ m.Agrees t t.removed p := by
  have hlive : live t.removed (t.children p) = t.children p :=
    live_eq_self fun c hc => ((hm.mem_iff p c).mp hc).2
  have hkept : m.Unmarked t.removed p →
      live t.removed (m.layers.children p) = m.layers.kept p := by
    intro hun
    apply List.filter_congr
    intro c hc
    by_cases hgone : c ∈ t.removed
    · have hmark := (hm.removed c hgone).2
      simp only [Heap.marked] at hmark
      simp [hgone, hmark]
    · have hmark := hun c hc hgone
      simp only [Heap.marked] at hmark
      simp [hgone, hmark]
  unfold Agrees
  rw [hlive]
  constructor
  · intro heq
    have hun : m.Unmarked t.removed p := fun c hc hgone => by
      have hmem : c ∈ m.layers.kept p := heq ▸ (hm.mem_iff p c).mpr ⟨hc, hgone⟩
      exact (Heap.mem_kept_iff.mp hmem).2
    exact ⟨by rw [hkept hun, heq], hun⟩
  · rintro ⟨heq, hun⟩
    rw [← hkept hun, heq]

/-- A valid list of mutations is processed and the next pre-paint of the root returns. Then
the vector of every mounted layer is the list that the edits make if and only if, for each of
these layers, no child that stays was marked at the start, and every insertion of a view that
stays is that of an unmarked layer at an index before which the vector has, as far as they
stay, the same entries as the list. -/
theorem processMutations_children_iff (hf : m.layers.Forest) (hr : m.Registered)
    {mutations : List ShadowViewMutation} (hvalid : m.ValidList m.viewTree mutations)
    (root : LayerId) (context : PaintContext) (forceLayout : Bool) :
    ∃ m' m'', m.processMutations mutations = some m' ∧
      m'.prePaint root context forceLayout = some m'' ∧
      ((∀ p, Below (m.editedTree m.viewTree mutations).children root p →
          m''.layers.children p = (m.editedTree m.viewTree mutations).children p) ↔
        ∀ p, Below (m.editedTree m.viewTree mutations).children root p →
          m.Unmarked (m.editedTree m.viewTree mutations).removed p ∧
            m.InsertsFit m.viewTree (m.editedTree m.viewTree mutations).removed p mutations) := by
  obtain ⟨m', hm', hfollows, hlist⟩ := (follows_viewTree hf hr).mutations hvalid
  obtain ⟨h', context', hpaint, hp⟩ :=
    Heap.prePaint_spec hfollows.forest root context forceLayout
  refine ⟨m', m'.withLayers h', hm', by rw [MountingManager.prePaint, hpaint]; rfl,
    forall₂_congr fun p hbelow => ?_⟩
  have hbelow' : Below m'.layers.children root p := by
    refine Relation.ReflTransGen.mono (fun q c hc => ?_) root p hbelow
    exact ((hfollows.mem_iff q c).mp hc).1
  have hch : (m'.withLayers h').layers.children p = m'.layers.kept p := by
    rcases hp.children_eq p with ⟨-, hch⟩ | ⟨hout, -⟩
    · exact hch
    · exact absurd hbelow' hout
  rw [hch, hfollows.kept_eq_iff, hlist _ p (List.Subset.refl _)]
  refine and_congr_left fun _ => ?_
  exact and_iff_right rfl

end MountingManager

end

namespace MountingManager

open TranslationSkia

/-- A root view with two mounted views, whose tags are 2 and 3. -/
def twoViews : MountingManager where
  layers := Heap.ofLayers [{ children_ := [1, 2] }, { parent_ := some 0 }, { parent_ := some 0 }]
  component c := { parent_ := if c = 1 ∨ c = 2 then some 0 else none }
  registry_ handle :=
    if handle = 0 then some { layerType := .picture, isRootView := true, component_ := some 0 }
    else if handle = 1 then
      some {
        layerType := .picture
        registry_ := fun tag => if tag = 2 then some 1 else if tag = 3 then some 2 else none }
    else none

theorem twoViews_forest : twoViews.layers.Forest :=
  Heap.ofLayers_forest (by decide) (by decide) (by decide) (by decide)

theorem twoViews_registered : twoViews.Registered := by
  intro handle provider tag c hprovider hc
  simp only [twoViews] at hprovider
  split at hprovider
  · cases hprovider
    cases hc
    decide
  · split at hprovider
    · cases hprovider
      simp only [RSkComponentProvider.getComponent, Bool.false_eq_true, if_false] at hc
      split at hc
      · cases hc
        decide
      · split at hc
        · cases hc
          decide
        · cases hc
    · cases hprovider

/-- The first child is removed, and a new view is put behind the second. -/
def replaceFirst : List ShadowViewMutation :=
  [rootMutation .Create 4 (-1), rootMutation .Remove 2 0, rootMutation .Insert 4 1]

theorem replaceFirst_valid : twoViews.ValidList twoViews.viewTree replaceFirst := by
  let created := twoViews.createMountInstruction (rootMutation .Create 4 (-1))
  let removed := created.removeMountInstruction (rootMutation .Remove 2 0)
  obtain ⟨m', hm'⟩ : ∃ m', removed.processMutation (rootMutation .Insert 4 1) = some m' :=
    Option.isSome_iff_exists.mp (by decide +kernel)
  have hnew : ∀ q, 3 ∉ ((twoViews.viewTree.edit .keep).edit (.remove 0 1 0)).children q := by
    intro q
    rcases q with _ | _ | _ | q
    · decide
    · decide
    · decide
    · exact List.not_mem_nil
  refine validList_cons .keep created (by decide +kernel) trivial trivial rfl ?_
  refine validList_cons (.remove 0 1 0) removed (by decide +kernel)
    ⟨by decide, by decide +kernel⟩ trivial rfl ?_
  exact validList_cons (.insert 0 3 1) m' (by decide +kernel)
    ⟨by decide, by decide, by decide, hnew⟩ ⟨by decide, by decide +kernel⟩ hm' trivial

/-- The removed child still counts in the vector, so the new view comes first. -/
theorem inserted_view_misplaced : ¬ ∀ (m m' m'' : MountingManager)
    (mutations : List ShadowViewMutation) (root : LayerId) (context : PaintContext)
    (forceLayout : Bool), m.layers.Forest → m.Registered → m.ValidList m.viewTree mutations →
      m.processMutations mutations = some m' → m'.prePaint root context forceLayout = some m'' →
        ∀ p, Below (m.editedTree m.viewTree mutations).children root p →
          m''.layers.children p = (m.editedTree m.viewTree mutations).children p := by
  intro hall
  have hval : (twoViews.processMutations replaceFirst).map (fun m' =>
      (m'.prePaint 0 ⟨[], true, (0, 0)⟩ false).map fun m'' => m''.layers.children 0) =
        some (some [3, 2]) := by
    decide +kernel
  obtain ⟨m', hm', hval⟩ := Option.map_eq_some_iff.mp hval
  obtain ⟨m'', hm'', hval⟩ := Option.map_eq_some_iff.mp hval
  have hlist := hall twoViews m' m'' replaceFirst 0 _ _ twoViews_forest twoViews_registered
    replaceFirst_valid hm' hm'' 0 (Below.refl 0)
  have htree : (twoViews.editedTree twoViews.viewTree replaceFirst).children 0 = [2, 3] := by
    decide +kernel
  rw [hval, htree] at hlist
  revert hlist
  decide

theorem processMutations_children_iff_replaceFirst : ∃ m' m'',
    twoViews.processMutations replaceFirst = some m' ∧
      m'.prePaint 0 ⟨[], true, (0, 0)⟩ false = some m'' ∧
      ((∀ p, Below (twoViews.editedTree twoViews.viewTree replaceFirst).children 0 p →
          m''.layers.children p =
            (twoViews.editedTree twoViews.viewTree replaceFirst).children p) ↔
        ∀ p, Below (twoViews.editedTree twoViews.viewTree replaceFirst).children 0 p →
          twoViews.Unmarked (twoViews.editedTree twoViews.viewTree replaceFirst).removed p ∧
            twoViews.InsertsFit twoViews.viewTree
              (twoViews.editedTree twoViews.viewTree replaceFirst).removed p replaceFirst) :=
  processMutations_children_iff twoViews_forest twoViews_registered replaceFirst_valid 0
    ⟨[], true, (0, 0)⟩ false

end MountingManager

end ReactNativeSkia
