import ReactNativeSkia.Sdk.Proofs.KeySiblings

/-!
# The neighbours of a key

For any rows of keys and any tiles. Left and right undo each other, and the search up or down looks
at the rows in their order round the layout, with the own row as the last one: it stops at the first
that has a key of the group which is not to the left of the key.
-/

namespace ReactNativeSkia

variable {Pos : Type}

/-- The layout of any rows, with the first key as its default. -/
def KBLayout.ofRows (keyInfo : List (List KeyInfo)) (hrows : keyInfo ≠ [])
    (hkeys : ∀ row ∈ keyInfo, row ≠ []) : KBLayout :=
  have hfirst : (atIndex keyInfo ⟨0, 0⟩).isSome := by
    obtain ⟨row, rows, rfl⟩ := List.exists_cons_of_ne_nil hrows
    exact atIndex_isSome.mpr ⟨row, rfl, List.length_pos_of_ne_nil (hkeys row List.mem_cons_self)⟩
  { keyInfo := keyInfo
    returnKeyIndex := ⟨0, 0⟩
    defaultFocussIndex := ⟨0, 0⟩
    return_exists := hfirst
    default_exists := hfirst }

/-- A key with its tile is in the group, and its right edge is not to the left of `x`. -/
def Reaches (geometry : KeyGeometry Pos) (keyInfo : List (List KeyInfo)) (keyPos : List (List Pos))
    (groupID : Nat) (x : Int) (index : SkPoint) : Prop :=
  ∃ key ∈ atIndex keyInfo index, ∃ pos ∈ atIndex keyPos index,
    key.kbPartitionId = groupID ∧ x ≤ geometry.fRight pos

/-- `sibling` is in the first of the rows `rowAt 1`, ..., `rowAt rows` that has a key which
reaches. -/
def Nearest (reaches : SkPoint → Prop) (rows : Nat) (rowAt : Nat → Nat) (sibling : SkPoint) :
    Prop :=
  ∃ k, 0 < k ∧ k ≤ rows ∧ sibling.y = rowAt k ∧ reaches sibling ∧
    ∀ j, 0 < j → j < k → ∀ i, ¬ reaches ⟨i, rowAt j⟩

/-- The neighbours of the key at `index`, among those of all keys. -/
structure KeySiblingInfo.WellDefined (siblings : KeySiblingInfo)
    (siblingInfo : List (List KeySiblingInfo)) (layout : KBLayout) (reaches : SkPoint → Prop)
    (index : SkPoint) : Prop where
  exist : siblings.Exist layout
  rightOfLeft : (atIndex siblingInfo siblings.siblingLeft).map siblingRight = some index
  leftOfRight : (atIndex siblingInfo siblings.siblingRight).map siblingLeft = some index
  up : Nearest reaches layout.keyInfo.length
    (fun k => (index.y + layout.keyInfo.length - k) % layout.keyInfo.length) siblings.siblingUp
  down : Nearest reaches layout.keyInfo.length
    (fun k => (index.y + k) % layout.keyInfo.length) siblings.siblingDown

namespace KBLayout

variable {geometry : KeyGeometry Pos} {keyPos : List (List Pos)} {layout : KBLayout}
  {groupID : Nat} {x : Int} {next : Nat → Nat} {index : SkPoint}

/-- What stands in a placed row. -/
theorem placedRow_getElem?_eq_some {i rowIndex : Nat} {key : KeyInfo} {pos : Pos} :
    (layout.placedRow keyPos rowIndex)[i]? = some (key, pos) ↔
      atIndex layout.keyInfo ⟨i, rowIndex⟩ = some key ∧
        atIndex keyPos ⟨i, rowIndex⟩ = some pos := by
  unfold placedRow atIndex
  rw [List.getElem?_zip_eq_some, List.getD_eq_getElem?_getD, List.getD_eq_getElem?_getD]
  have hgetD {α : Type} (rows : List (List α)) (a : α) : (rows[rowIndex]?.getD [])[i]? = some a ↔
      (rows[rowIndex]?.bind fun row => row[i]?) = some a := by
    cases rows[rowIndex]? with
    | none => simp
    | some row => simp
  exact and_congr (hgetD _ _) (hgetD _ _)

/-- The test of the search, for tiles that do not end before they begin. -/
theorem besides_iff {key : KeyInfo} {pos : Pos} (h : geometry.fLeft pos ≤ geometry.fRight pos) :
    besides geometry groupID x (key, pos) = true ↔
      key.kbPartitionId = groupID ∧ x ≤ geometry.fRight pos := by
  simp only [besides, Bool.and_eq_true, decide_eq_true_eq, Bool.or_eq_true]
  refine and_congr eq_comm (or_iff_right_of_imp fun hx => ?_)
  exact hx.trans h

theorem exists_besides_iff (hwidth : ∀ row ∈ keyPos, ∀ pos ∈ row,
    geometry.fLeft pos ≤ geometry.fRight pos) {i rowIndex : Nat} :
    (∃ placed, (layout.placedRow keyPos rowIndex)[i]? = some placed ∧
        besides geometry groupID x placed = true) ↔
      Reaches geometry layout.keyInfo keyPos groupID x ⟨i, rowIndex⟩ := by
  have htile {pos : Pos} (hpos : atIndex keyPos ⟨i, rowIndex⟩ = some pos) :
      geometry.fLeft pos ≤ geometry.fRight pos := by
    obtain ⟨row, hrow, hpos⟩ := Option.bind_eq_some_iff.mp hpos
    exact hwidth row (List.mem_of_getElem? hrow) pos (List.mem_of_getElem? hpos)
  constructor
  · rintro ⟨⟨key, pos⟩, hplaced, hbesides⟩
    obtain ⟨hkey, hpos⟩ := placedRow_getElem?_eq_some.mp hplaced
    exact ⟨key, hkey, pos, hpos, (besides_iff (htile hpos)).mp hbesides⟩
  · rintro ⟨key, hkey, pos, hpos, hreaches⟩
    exact ⟨(key, pos), placedRow_getElem?_eq_some.mpr ⟨hkey, hpos⟩,
      (besides_iff (htile hpos)).mpr hreaches⟩

/-- A search that finds something has looked at the rows it has come by. -/
theorem neighbour_some {rows rowIndex : Nat}
    (h : layout.neighbour geometry keyPos groupID x next rows rowIndex = some index) :
    ∃ k < rows, index.y = next^[k + 1] rowIndex ∧
      (∃ placed, (layout.placedRow keyPos index.y)[index.x]? = some placed ∧
        besides geometry groupID x placed = true) ∧
      ∀ j < k, ∀ placed ∈ layout.placedRow keyPos (next^[j + 1] rowIndex),
        besides geometry groupID x placed = false := by
  induction rows generalizing rowIndex with
  | zero => cases h
  | succ rows ih =>
    simp only [neighbour] at h
    split at h
    · rename_i i hfound
      obtain rfl := Option.some.inj h
      obtain ⟨hlt, hbesides, -⟩ := List.findIdx?_eq_some_iff_getElem.mp hfound
      exact ⟨0, Nat.succ_pos rows, rfl, ⟨_, List.getElem?_eq_getElem hlt, hbesides⟩, by simp⟩
    · rename_i hnone
      obtain ⟨k, hk, hrow, hfound, hbefore⟩ := ih h
      refine ⟨k + 1, by omega, hrow, hfound, ?_⟩
      rintro (_ | j) hj
      · exact List.findIdx?_eq_none_iff.mp hnone
      · exact hbefore j (by omega)

theorem neighbour_nearest (hwidth : ∀ row ∈ keyPos, ∀ pos ∈ row,
    geometry.fLeft pos ≤ geometry.fRight pos) {rows rowIndex : Nat} {rowAt : Nat → Nat}
    (hrowAt : ∀ k < rows, next^[k + 1] rowIndex = rowAt (k + 1))
    (h : layout.neighbour geometry keyPos groupID x next rows rowIndex = some index) :
    Nearest (Reaches geometry layout.keyInfo keyPos groupID x) rows rowAt index := by
  obtain ⟨k, hk, hrow, hfound, hbefore⟩ := neighbour_some h
  refine ⟨k + 1, Nat.succ_pos k, hk, hrow.trans (hrowAt k hk),
    (exists_besides_iff hwidth).mp hfound, ?_⟩
  intro j hj hjk i hreaches
  obtain ⟨j, rfl⟩ := Nat.exists_eq_succ_of_ne_zero hj.ne'
  rw [Nat.succ_eq_add_one, ← hrowAt j (by omega)] at hreaches
  obtain ⟨placed, hplaced, hbesides⟩ := (exists_besides_iff hwidth).mpr hreaches
  rw [hbefore j (by omega) placed (List.mem_of_getElem? hplaced)] at hbesides
  cases hbesides

theorem rowBelow_iterate {i : Nat} (hi : i < layout.keyInfo.length) (k : Nat) :
    layout.rowBelow^[k] i = (i + k) % layout.keyInfo.length := by
  rw [iterate_ring (fun _ => rowBelow_ring) hi, Nat.mul_one]

theorem rowAbove_iterate {i k : Nat} (hi : i < layout.keyInfo.length)
    (hk : k ≤ layout.keyInfo.length) :
    layout.rowAbove^[k] i = (i + layout.keyInfo.length - k) % layout.keyInfo.length := by
  rw [iterate_ring (fun _ => rowAbove_ring) hi]
  cases k with
  | zero => simp
  | succ k =>
    obtain ⟨m, hm⟩ := Nat.exists_eq_add_of_le hk
    -- one row up is all rows but one down
    have hround : i + (k + 1) * (k + m) = i + m + k * (k + 1 + m) := by
      have hleft : (k + 1) * (k + m) = k * (k + m) + (k + m) := Nat.succ_mul k (k + m)
      have hright : k * (k + m + 1) = k * (k + m) + k := Nat.mul_succ k (k + m)
      rw [show k + 1 + m = k + m + 1 by omega]
      omega
    rw [hm, show k + 1 + m - 1 = k + m by omega, show i + (k + 1 + m) - (k + 1) = i + m by omega,
      hround, Nat.add_mul_mod_self_right]

/-- The neighbours of a key with its position. -/
theorem siblings_wellDefined (h : keyPos.map List.length = layout.keyInfo.map List.length)
    (hwidth : ∀ row ∈ keyPos, ∀ pos ∈ row, geometry.fLeft pos ≤ geometry.fRight pos)
    {key : KeyInfo} {pos : Pos} {row : List KeyInfo} (hrow : layout.keyInfo[index.y]? = some row)
    (hkey : row[index.x]? = some key) (hpos : atIndex keyPos index = some pos) :
    (layout.siblings geometry keyPos index.y row.length index.x (key, pos)).WellDefined
      (layout.siblingInfo geometry keyPos) layout
      (Reaches geometry layout.keyInfo keyPos key.kbPartitionId (geometry.fLeft pos)) index := by
  have hplace : atIndex layout.keyInfo index = some key := by
    rw [atIndex, hrow, Option.bind_some, hkey]
  have hx := (List.getElem?_eq_some_iff.mp hkey).1
  have hy := (List.getElem?_eq_some_iff.mp hrow).1
  -- the neighbours of another key of the row
  have hrowSiblings {x : Nat} (hx : x < row.length) : ∃ key pos,
      atIndex (layout.siblingInfo geometry keyPos) ⟨x, index.y⟩ =
        some (layout.siblings geometry keyPos index.y row.length x (key, pos)) := by
    obtain ⟨pos, hpos⟩ : ∃ pos, atIndex keyPos ⟨x, index.y⟩ = some pos := by
      rw [← Option.isSome_iff_exists, atIndex_isSome_congr h]
      exact atIndex_isSome.mpr ⟨row, hrow, hx⟩
    exact ⟨_, pos, atIndex_siblingInfo geometry hrow (List.getElem?_eq_getElem hx) hpos⟩
  have hvertical {next rowAt : Nat → Nat} (hback : next^[layout.keyInfo.length] index.y = index.y)
      (hrowAt : ∀ k < layout.keyInfo.length, next^[k + 1] index.y = rowAt (k + 1)) :
      Nearest (Reaches geometry layout.keyInfo keyPos key.kbPartitionId (geometry.fLeft pos))
        layout.keyInfo.length rowAt ((layout.neighbour geometry keyPos key.kbPartitionId
          (geometry.fLeft pos) next layout.keyInfo.length index.y).getD ⟨0, 0⟩) := by
    obtain ⟨sibling, hsibling⟩ := neighbour_found geometry hplace hpos hback
    rw [hsibling]
    exact neighbour_nearest hwidth hrowAt hsibling
  refine ⟨siblings_exist hrow hkey hpos, ?_, ?_, ?_, ?_⟩
  · have hleft : (if index.x ≠ 0 then index.x - 1 else row.length - 1) < row.length := by
      split <;> omega
    obtain ⟨_, _, hsiblings⟩ := hrowSiblings hleft
    refine (congrArg (Option.map _) hsiblings).trans (congrArg some ?_)
    refine congrArg (fun x => (⟨x, index.y⟩ : SkPoint)) ?_
    split <;> split <;> omega
  · have hright : (if index.x < row.length - 1 then index.x + 1 else 0) < row.length := by
      split <;> omega
    obtain ⟨_, _, hsiblings⟩ := hrowSiblings hright
    refine (congrArg (Option.map _) hsiblings).trans (congrArg some ?_)
    refine congrArg (fun x => (⟨x, index.y⟩ : SkPoint)) ?_
    split <;> split <;> omega
  · exact hvertical (ring_back (fun _ => rowAbove_ring) hy) fun k hk => rowAbove_iterate hy hk
  · exact hvertical (ring_back (fun _ => rowBelow_ring) hy) fun k _ => rowBelow_iterate hy (k + 1)

/-- Every key has neighbours that are keys of the layout, right and left undo each other, and up and
down lead to the nearest row with a key of the group that reaches. -/
theorem neighbours_wellDefined (keyInfo : List (List KeyInfo)) (hrows : keyInfo ≠ [])
    (hkeys : ∀ row ∈ keyInfo, row ≠ []) (geometry : KeyGeometry Pos) (keyPos : List (List Pos))
    (hshape : keyPos.map List.length = keyInfo.map List.length)
    (hwidth : ∀ row ∈ keyPos, ∀ pos ∈ row, geometry.fLeft pos ≤ geometry.fRight pos)
    (index : SkPoint) {key : KeyInfo} (hkey : atIndex keyInfo index = some key) :
    ∃ pos, atIndex keyPos index = some pos ∧ ∃ siblings,
      atIndex ((ofRows keyInfo hrows hkeys).siblingInfo geometry keyPos) index = some siblings ∧
      siblings.WellDefined ((ofRows keyInfo hrows hkeys).siblingInfo geometry keyPos)
        (ofRows keyInfo hrows hkeys)
        (Reaches geometry keyInfo keyPos key.kbPartitionId (geometry.fLeft pos)) index := by
  obtain ⟨pos, hpos⟩ : ∃ pos, atIndex keyPos index = some pos := by
    rw [← Option.isSome_iff_exists, atIndex_isSome_congr hshape, hkey]
    rfl
  obtain ⟨row, hrow, hkey⟩ := Option.bind_eq_some_iff.mp hkey
  have hsiblings := (ofRows keyInfo hrows hkeys).atIndex_siblingInfo geometry hrow hkey hpos
  exact ⟨pos, hpos, _, hsiblings, siblings_wellDefined hshape hwidth hrow hkey hpos⟩

/-- Two rows of different lengths, and a key that is alone in its group. -/
def raggedKeyInfo : List (List KeyInfo) :=
  [[⟨['1'], .RNS_KEY_1, .KEY_TYPE_TEXT, GROUP1⟩, ⟨['a'], .RNS_KEY_a, .KEY_TYPE_TEXT, GROUP2⟩],
   [⟨['2'], .RNS_KEY_2, .KEY_TYPE_TEXT, GROUP1⟩]]

/-- Tiles given by their edges. -/
def edgesGeometry : KeyGeometry (Int × Int) := ⟨fun _ _ _ => (0, 0), Prod.fst, Prod.snd⟩

theorem neighbours_wellDefined_ragged :
    (atIndex ((ofRows raggedKeyInfo (by decide) (by decide)).siblingInfo edgesGeometry
      [[(0, 4), (10, 14)], [(0, 4)]]) ⟨1, 0⟩).isSome := by
  obtain ⟨_, _, siblings, hsiblings, -⟩ := neighbours_wellDefined raggedKeyInfo (by decide)
    (by decide) edgesGeometry [[(0, 4), (10, 14)], [(0, 4)]] (by decide) (by decide) ⟨1, 0⟩ rfl
  exact Option.isSome_of_eq_some hsiblings

end KBLayout

end ReactNativeSkia
