import Mathlib.Logic.Function.Iterate
import ReactNativeSkia.Misc.Lists
import ReactNativeSkia.Sdk.OnScreenKeyboard

/-!
# Positions and neighbours that exist

`createOSKLayout` gives every key of a layout a position and four neighbours, and nothing else. The
neighbours are keys of the layout: left and right go round in the row, and the search up or down
comes back to the row it has begun in, where it finds the key itself at the latest.
-/

namespace ReactNativeSkia

/-! ## Rows of the same lengths -/

section Rows

variable {α β : Type} {rows : List (List α)} {index : SkPoint}

theorem mem_places : index ∈ places rows ↔ (atIndex rows index).isSome := by
  obtain ⟨x, y⟩ := index
  rw [atIndex_isSome]
  unfold places
  simp only [List.mem_flatMap, List.mem_range, List.mem_map, SkPoint.mk.injEq]
  constructor
  · rintro ⟨_, hy, _, hx, rfl, rfl⟩
    rw [List.getD_eq_getElem?_getD, List.getElem?_eq_getElem hy] at hx
    exact ⟨_, List.getElem?_eq_getElem hy, hx⟩
  · rintro ⟨row, hrow, hx⟩
    have hy := (List.getElem?_eq_some_iff.mp hrow).1
    refine ⟨y, hy, x, ?_, rfl, rfl⟩
    rw [List.getD_eq_getElem?_getD, hrow]
    exact hx

end Rows

/-- Steps of one length round a ring of rows. -/
theorem iterate_ring {next : Nat → Nat} {rows width : Nat}
    (hnext : ∀ i < rows, next i = (i + width) % rows) {i : Nat} (hi : i < rows) (k : Nat) :
    next^[k] i = (i + k * width) % rows := by
  induction k with
  | zero => simp [Nat.mod_eq_of_lt hi]
  | succ k ih =>
    rw [Function.iterate_succ_apply', ih, hnext _ (Nat.mod_lt _ (by omega)), Nat.mod_add_mod,
      Nat.succ_mul, Nat.add_assoc]

variable {Pos : Type} {geometry : KeyGeometry Pos} {keyPos : List (List Pos)}

namespace KBLayouts

variable {layouts : KBLayouts}

theorem keyPositions_length (keyboard : Keyboard) (screenSize : SkSize) :
    (layouts.keyPositions geometry keyboard screenSize).map List.length =
      (layouts.layout keyboard).keyInfo.map List.length :=
  map_length_mapIdx fun _ _ _ => List.length_mapIdx

end KBLayouts

namespace KBLayout

variable {layout : KBLayout} {groupID : Nat} {x : Int} {next : Nat → Nat} {index : SkPoint}

/-- A layout has a key, the one it begins with. -/
theorem keyInfo_ne_nil : layout.keyInfo ≠ [] := by
  intro hnil
  have hdefault := layout.default_exists
  rw [hnil] at hdefault
  simp [atIndex] at hdefault

/-- A key of the layout and its position stand in the placed row. -/
theorem placedRow_getElem? {key : KeyInfo} {pos : Pos}
    (hkey : atIndex layout.keyInfo index = some key) (hpos : atIndex keyPos index = some pos) :
    (layout.placedRow keyPos index.y)[index.x]? = some (key, pos) := by
  unfold atIndex at hkey hpos
  obtain ⟨row, hrow, hkey⟩ := Option.bind_eq_some_iff.mp hkey
  obtain ⟨posRow, hposRow, hpos⟩ := Option.bind_eq_some_iff.mp hpos
  unfold placedRow
  rw [List.getD_eq_getElem?_getD, List.getD_eq_getElem?_getD, hrow, hposRow]
  exact List.getElem?_zip_eq_some.mpr ⟨hkey, hpos⟩

theorem length_placedRow (h : keyPos.map List.length = layout.keyInfo.map List.length)
    (rowIndex : Nat) :
    (layout.placedRow keyPos rowIndex).length = (layout.keyInfo.getD rowIndex []).length := by
  unfold placedRow
  rw [List.length_zip, length_getD_of_map_length h, min_self]

/-- What stands in a placed row is in the layout. -/
theorem exists_of_lt_placedRow {i rowIndex : Nat}
    (h : i < (layout.placedRow keyPos rowIndex).length) :
    (atIndex layout.keyInfo ⟨i, rowIndex⟩).isSome := by
  unfold placedRow at h
  rw [List.length_zip, List.getD_eq_getElem?_getD] at h
  rw [atIndex_isSome]
  cases hrow : layout.keyInfo[rowIndex]? with
  | none => simp [hrow] at h
  | some row =>
    rw [hrow, Option.getD_some] at h
    exact ⟨row, rfl, lt_of_lt_of_le h (min_le_left _ _)⟩

/-- A neighbour that is found is a key of the layout. -/
theorem neighbour_exists {rows rowIndex : Nat}
    (h : layout.neighbour geometry keyPos groupID x next rows rowIndex = some index) :
    (atIndex layout.keyInfo index).isSome := by
  induction rows generalizing rowIndex with
  | zero => cases h
  | succ rows ih =>
    simp only [neighbour] at h
    split at h
    · obtain rfl := Option.some.inj h
      exact exists_of_lt_placedRow (List.findIdx?_eq_some_iff_getElem.mp ‹_›).1
    · exact ih h

/-- A search without result has looked at all rows it has come by. -/
theorem neighbour_none {rows rowIndex : Nat}
    (h : layout.neighbour geometry keyPos groupID x next rows rowIndex = none) :
    ∀ k < rows, ∀ placed ∈ layout.placedRow keyPos (next^[k + 1] rowIndex),
      besides geometry groupID x placed = false := by
  induction rows generalizing rowIndex with
  | zero => exact fun _ hk => absurd hk (Nat.not_lt_zero _)
  | succ rows ih =>
    simp only [neighbour] at h
    split at h
    · cases h
    · rintro (_ | k) hk
      · exact List.findIdx?_eq_none_iff.mp ‹_›
      · exact ih h k (by omega)

/-- A search that comes back to the row of a key finds a neighbour for it. -/
theorem neighbour_found (geometry : KeyGeometry Pos) {key : KeyInfo} {pos : Pos}
    (hkey : atIndex layout.keyInfo index = some key) (hpos : atIndex keyPos index = some pos)
    (hback : next^[layout.keyInfo.length] index.y = index.y) :
    ∃ sibling, layout.neighbour geometry keyPos key.kbPartitionId (geometry.fLeft pos) next
      layout.keyInfo.length index.y = some sibling := by
  rw [← Option.isSome_iff_exists, ← Option.ne_none_iff_isSome]
  intro hnone
  have hpositive := List.length_pos_of_ne_nil layout.keyInfo_ne_nil
  have hown := neighbour_none hnone (layout.keyInfo.length - 1) (by omega) (key, pos) ?_
  · simp [besides] at hown
  · rw [Nat.sub_add_cancel hpositive, hback]
    exact List.mem_of_getElem? (placedRow_getElem? hkey hpos)

theorem rowBelow_ring {i : Nat} (hi : i < layout.keyInfo.length) :
    layout.rowBelow i = (i + 1) % layout.keyInfo.length := by
  unfold rowBelow
  split
  · rw [Nat.mod_eq_of_lt (by omega)]
  · rw [show i + 1 = layout.keyInfo.length by omega, Nat.mod_self]

theorem rowAbove_ring {i : Nat} (hi : i < layout.keyInfo.length) :
    layout.rowAbove i = (i + (layout.keyInfo.length - 1)) % layout.keyInfo.length := by
  unfold rowAbove
  split
  · rw [show i + (layout.keyInfo.length - 1) = i - 1 + layout.keyInfo.length by omega,
      Nat.add_mod_right, Nat.mod_eq_of_lt (by omega)]
  · rw [Nat.mod_eq_of_lt (by omega)]
    omega

/-- Both directions come back to the row after as many steps as there are rows. -/
theorem ring_back {width : Nat}
    (hnext : ∀ i < layout.keyInfo.length, next i = (i + width) % layout.keyInfo.length)
    {i : Nat} (hi : i < layout.keyInfo.length) : next^[layout.keyInfo.length] i = i := by
  rw [iterate_ring hnext hi, Nat.add_mul_mod_self_left, Nat.mod_eq_of_lt hi]

end KBLayout

/-- The four neighbours are keys of the layout. -/
structure KeySiblingInfo.Exist (siblings : KeySiblingInfo) (layout : KBLayout) : Prop where
  right : (atIndex layout.keyInfo siblings.siblingRight).isSome
  left : (atIndex layout.keyInfo siblings.siblingLeft).isSome
  up : (atIndex layout.keyInfo siblings.siblingUp).isSome
  down : (atIndex layout.keyInfo siblings.siblingDown).isSome

namespace KBLayout

variable {layout : KBLayout} {index : SkPoint}

theorem siblings_exist {key : KeyInfo} {pos : Pos} {row : List KeyInfo}
    (hrow : layout.keyInfo[index.y]? = some row) (hkey : row[index.x]? = some key)
    (hpos : atIndex keyPos index = some pos) :
    (layout.siblings geometry keyPos index.y row.length index.x (key, pos)).Exist layout := by
  have hplace : atIndex layout.keyInfo index = some key := by
    unfold atIndex
    rw [hrow, Option.bind_some, hkey]
  have hx := (List.getElem?_eq_some_iff.mp hkey).1
  have hy := (List.getElem?_eq_some_iff.mp hrow).1
  have hvertical {next : Nat → Nat} (hback : next^[layout.keyInfo.length] index.y = index.y) :
      (atIndex layout.keyInfo ((layout.neighbour geometry keyPos key.kbPartitionId
        (geometry.fLeft pos) next layout.keyInfo.length index.y).getD ⟨0, 0⟩)).isSome := by
    obtain ⟨sibling, hsibling⟩ := neighbour_found geometry hplace hpos hback
    rw [hsibling]
    exact neighbour_exists hsibling
  constructor
  · refine atIndex_isSome.mpr ⟨row, hrow, ?_⟩
    show (if index.x < row.length - 1 then index.x + 1 else 0) < row.length
    split <;> omega
  · refine atIndex_isSome.mpr ⟨row, hrow, ?_⟩
    show (if index.x ≠ 0 then index.x - 1 else row.length - 1) < row.length
    split <;> omega
  · exact hvertical (ring_back (fun _ => rowAbove_ring) hy)
  · exact hvertical (ring_back (fun _ => rowBelow_ring) hy)

theorem siblingInfo_length (geometry : KeyGeometry Pos)
    (h : keyPos.map List.length = layout.keyInfo.map List.length) :
    (layout.siblingInfo geometry keyPos).map List.length = layout.keyInfo.map List.length := by
  refine map_length_mapIdx fun rowIndex row hrow => ?_
  rw [List.length_mapIdx, length_placedRow h, List.getD_eq_getElem?_getD, hrow, Option.getD_some]

/-- What step 3 leaves for a key. -/
theorem atIndex_siblingInfo (geometry : KeyGeometry Pos) {key : KeyInfo} {pos : Pos}
    {row : List KeyInfo} (hrow : layout.keyInfo[index.y]? = some row)
    (hkey : row[index.x]? = some key) (hpos : atIndex keyPos index = some pos) :
    atIndex (layout.siblingInfo geometry keyPos) index =
      some (layout.siblings geometry keyPos index.y row.length index.x (key, pos)) := by
  have hplaced := placedRow_getElem? (show atIndex layout.keyInfo index = some key by
    rw [atIndex, hrow, Option.bind_some, hkey]) hpos
  unfold atIndex siblingInfo
  rw [List.getElem?_mapIdx, hrow, Option.map_some, Option.bind_some, List.getElem?_mapIdx,
    hplaced, Option.map_some]

/-- What is read of the neighbours leads to keys of the layout. -/
theorem siblingInfo_exist (h : keyPos.map List.length = layout.keyInfo.map List.length)
    {siblings : KeySiblingInfo}
    (hsiblings : atIndex (layout.siblingInfo geometry keyPos) index = some siblings) :
    siblings.Exist layout := by
  have hplace : (atIndex layout.keyInfo index).isSome := by
    rw [← atIndex_isSome_congr (siblingInfo_length geometry h), hsiblings]
    rfl
  have hpos : (atIndex keyPos index).isSome := by
    rw [atIndex_isSome_congr h]
    exact hplace
  obtain ⟨key, hkey⟩ := Option.isSome_iff_exists.mp hplace
  obtain ⟨pos, hpos⟩ := Option.isSome_iff_exists.mp hpos
  obtain ⟨row, hrow, hkey⟩ := Option.bind_eq_some_iff.mp hkey
  rw [atIndex_siblingInfo geometry hrow hkey hpos] at hsiblings
  obtain rfl := Option.some.inj hsiblings
  exact siblings_exist hrow hkey hpos

end KBLayout

end ReactNativeSkia
