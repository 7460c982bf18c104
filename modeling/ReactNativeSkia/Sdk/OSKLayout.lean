import ReactNativeSkia.Sdk.RNSKeyCodeMapping

/-!
# Layouts of the on-screen keyboard

The keys of `ReactSkia/sdk/OSKLayout.h` and what `OnScreenKeyboard::createOSKLayout` works out for
them (`OnScreenKeyBoard.cpp:689-905`): the positions, and for each key its neighbours. How a
position comes out of the screen size, the fonts and the groups of the layout is floating-point
arithmetic and font metrics of Skia, so it is a parameter. The highlight tiles have integral edges.
A position is given by key and row.
-/

namespace ReactNativeSkia

structure SkSize where
  width : Int
  height : Int
  deriving DecidableEq, Repr

/-- The place of a key: `x` in its row, `y` for the row. -/
structure SkPoint where
  x : Nat
  y : Nat
  deriving DecidableEq, Repr

inductive OSKTypes where
  | OSK_ALPHA_NUMERIC_KB
  | OSK_NUMERIC_KB
  | OSK_TYPE_END
  deriving DecidableEq, Repr

inductive KBLayoutType where
  | ALPHA_LOWERCASE_LAYOUT
  | ALPHA_UPPERCASE_LAYOUT
  | SYMBOL_LAYOUT
  | NUMERIC_LAYOUT
  deriving DecidableEq, Repr

inductive KeyType where
  | KEY_TYPE_TOGGLE
  | KEY_TYPE_TEXT
  | KEY_TYPE_FUNCTION
  | KEY_TYPE_COUNT
  deriving DecidableEq, Repr

structure KeyInfo where
  keyName : List Char
  keyValue : RnsKey
  keyType : KeyType
  kbPartitionId : Nat
  deriving DecidableEq, Repr

structure KeySiblingInfo where
  siblingRight : SkPoint
  siblingLeft : SkPoint
  siblingUp : SkPoint
  siblingDown : SkPoint
  deriving DecidableEq, Repr

/-- `rows.at(index.y()).at(index.x())`; `none` if it throws. -/
def atIndex {α : Type} (rows : List (List α)) (index : SkPoint) : Option α :=
  rows[index.y]?.bind fun row => row[index.x]?

section atIndex

variable {α β : Type} {rows : List (List α)} {index : SkPoint}

theorem atIndex_isSome :
    (atIndex rows index).isSome ↔ ∃ row, rows[index.y]? = some row ∧ index.x < row.length := by
  unfold atIndex
  cases rows[index.y]? with
  | none => simp
  | some row => simp

/-- The rows are as long, so the same places are there. -/
theorem atIndex_isSome_congr {others : List (List β)}
    (h : rows.map List.length = others.map List.length) :
    (atIndex rows index).isSome = (atIndex others index).isSome := by
  have hy := congrArg (fun lengths => lengths[index.y]?) h
  simp only [List.getElem?_map] at hy
  unfold atIndex
  cases hrow : rows[index.y]? with
  | none =>
    rw [hrow, Option.map_none] at hy
    rw [Option.map_eq_none_iff.mp hy.symm]
    rfl
  | some row =>
    rw [hrow, Option.map_some] at hy
    obtain ⟨other, hother, hlength⟩ := Option.map_eq_some_iff.mp hy.symm
    rw [hother, Option.bind_some, Option.bind_some, Bool.eq_iff_iff]
    simp [hlength]

end atIndex

/-- The three layouts that are kept. -/
inductive Keyboard where
  | numericKB
  | symbolKB
  | alphaNumericKB
  deriving DecidableEq, Repr

/-- What is fixed of a layout. -/
structure KBLayout where
  keyInfo : List (List KeyInfo)
  returnKeyIndex : SkPoint
  defaultFocussIndex : SkPoint
  return_exists : (atIndex keyInfo returnKeyIndex).isSome
  default_exists : (atIndex keyInfo defaultFocussIndex).isSome

/-- The layout that `createOSKLayout` selects. -/
def keyboardOf (oskType : OSKTypes) (kbLayoutType : KBLayoutType) : Keyboard :=
  if oskType = .OSK_NUMERIC_KB then .numericKB
  else if kbLayoutType = .SYMBOL_LAYOUT then .symbolKB
  else .alphaNumericKB

def toggleKeyMap (keyName : List Char) : Option KBLayoutType :=
  if keyName = "123ABC".toList then some .ALPHA_UPPERCASE_LAYOUT
  else if keyName = "123abc".toList then some .ALPHA_LOWERCASE_LAYOUT
  else if keyName = "@?#".toList then some .SYMBOL_LAYOUT
  else none

namespace KeyInfo

/-- The layout that `RNS_KEY_Select` on the key turns to. -/
def togglesTo (key : KeyInfo) : Option KBLayoutType :=
  if key.keyValue ≠ .RNS_KEY_Select ∧ key.keyType = .KEY_TYPE_TOGGLE then
    toggleKeyMap key.keyName
  else none

end KeyInfo

/-- A toggle key turns to a layout that has its place. -/
structure KBLayouts where
  layout : Keyboard → KBLayout
  toggle_exists : ∀ oskType shown next index key,
    atIndex (layout (keyboardOf oskType shown)).keyInfo index = some key →
    key.togglesTo = some next →
    (atIndex (layout (keyboardOf oskType next)).keyInfo index).isSome

/-- Steps 1 and 2 of `createOSKLayout` for a key, and the edges of its highlight tile. -/
structure KeyGeometry (Pos : Type) where
  position : Keyboard → SkSize → SkPoint → Pos
  fLeft : Pos → Int
  fRight : Pos → Int

namespace KBLayout

variable {Pos : Type} (layout : KBLayout)

/-- A key with its position is a candidate for the key in the same group whose tile begins at
`x`. -/
def besides (geometry : KeyGeometry Pos) (groupID : Nat) (x : Int) : KeyInfo × Pos → Bool
  | (key, pos) =>
    groupID = key.kbPartitionId && (x ≤ geometry.fLeft pos || x ≤ geometry.fRight pos)

/-- The keys of a row with their positions. -/
def placedRow (keyPos : List (List Pos)) (rowIndex : Nat) : List (KeyInfo × Pos) :=
  (layout.keyInfo.getD rowIndex []).zip (keyPos.getD rowIndex [])

/-- The search for a neighbour, row after row from behind `rowIndex` on. -/
def neighbour (geometry : KeyGeometry Pos) (keyPos : List (List Pos)) (groupID : Nat) (x : Int)
    (next : Nat → Nat) : Nat → Nat → Option SkPoint
  | 0, _ => none
  | rows + 1, rowIndex =>
    let index := next rowIndex
    match (layout.placedRow keyPos index).findIdx? (besides geometry groupID x) with
    | some i => some ⟨i, index⟩
    | none => neighbour geometry keyPos groupID x next rows index

def rowAbove (index : Nat) : Nat :=
  if index ≠ 0 then index - 1 else layout.keyInfo.length - 1

def rowBelow (index : Nat) : Nat :=
  if index ≠ layout.keyInfo.length - 1 then index + 1 else 0

/-- Step 3 of `createOSKLayout` for a key. A neighbour that is not found stays at its initial
value. -/
def siblings (geometry : KeyGeometry Pos) (keyPos : List (List Pos)) (rowIndex keyCount : Nat)
    (columnIndex : Nat) (placed : KeyInfo × Pos) : KeySiblingInfo :=
  let (key, pos) := placed
  let vertical (next : Nat → Nat) : SkPoint :=
    (layout.neighbour geometry keyPos key.kbPartitionId (geometry.fLeft pos) next
      layout.keyInfo.length rowIndex).getD ⟨0, 0⟩
  { siblingLeft := ⟨if columnIndex ≠ 0 then columnIndex - 1 else keyCount - 1, rowIndex⟩
    siblingRight := ⟨if columnIndex < keyCount - 1 then columnIndex + 1 else 0, rowIndex⟩
    siblingUp := vertical layout.rowAbove
    siblingDown := vertical layout.rowBelow }

/-- All of step 3. -/
def siblingInfo (geometry : KeyGeometry Pos) (keyPos : List (List Pos)) :
    List (List KeySiblingInfo) :=
  layout.keyInfo.mapIdx fun rowIndex row =>
    (layout.placedRow keyPos rowIndex).mapIdx
      (layout.siblings geometry keyPos rowIndex row.length)

/-- What the drawing of the layout reads besides the keys one by one: the last key of the last
row and, for a keyboard that has groups, the first key. -/
def Drawable (oskType : OSKTypes) : Prop :=
  (∃ row ∈ layout.keyInfo.getLast?, row ≠ []) ∧
    (oskType ≠ .OSK_NUMERIC_KB → ∃ row ∈ layout.keyInfo.head?, row ≠ [])

instance (oskType : OSKTypes) : Decidable (layout.Drawable oskType) := by
  unfold Drawable
  infer_instance

end KBLayout

namespace KBLayouts

variable {Pos : Type} (layouts : KBLayouts)

/-- The positions that `createOSKLayout` works out. -/
def keyPositions (geometry : KeyGeometry Pos) (keyboard : Keyboard) (screenSize : SkSize) :
    List (List Pos) :=
  (layouts.layout keyboard).keyInfo.mapIdx fun rowIndex row =>
    row.mapIdx fun columnIndex _ => geometry.position keyboard screenSize ⟨columnIndex, rowIndex⟩

end KBLayouts

/-! ## The layouts of the source -/

/-- The groups of a layout (`partitionID`). -/
def GROUP1 : Nat := 0

def GROUP2 : Nat := 1

def GROUP3 : Nat := 2

def GROUP4 : Nat := 3

def alphaNumericKBKeyInfo : List (List KeyInfo) :=
  [[⟨"123ABC".toList, .RNS_KEY_UnKnown, .KEY_TYPE_TOGGLE, GROUP1⟩,
    ⟨['1'], .RNS_KEY_1, .KEY_TYPE_TEXT, GROUP2⟩,
    ⟨['2'], .RNS_KEY_2, .KEY_TYPE_TEXT, GROUP2⟩,
    ⟨['3'], .RNS_KEY_3, .KEY_TYPE_TEXT, GROUP2⟩,
    ⟨['a'], .RNS_KEY_a, .KEY_TYPE_TEXT, GROUP3⟩,
    ⟨['b'], .RNS_KEY_b, .KEY_TYPE_TEXT, GROUP3⟩,
    ⟨['c'], .RNS_KEY_c, .KEY_TYPE_TEXT, GROUP3⟩,
    ⟨['d'], .RNS_KEY_d, .KEY_TYPE_TEXT, GROUP3⟩,
    ⟨['e'], .RNS_KEY_e, .KEY_TYPE_TEXT, GROUP3⟩,
    ⟨['f'], .RNS_KEY_f, .KEY_TYPE_TEXT, GROUP3⟩,
    ⟨['g'], .RNS_KEY_g, .KEY_TYPE_TEXT, GROUP3⟩,
    ⟨['h'], .RNS_KEY_h, .KEY_TYPE_TEXT, GROUP3⟩,
    ⟨['i'], .RNS_KEY_i, .KEY_TYPE_TEXT, GROUP3⟩,
    ⟨"space".toList, .RNS_KEY_Space, .KEY_TYPE_FUNCTION, GROUP4⟩],
   [⟨"123abc".toList, .RNS_KEY_UnKnown, .KEY_TYPE_TOGGLE, GROUP1⟩,
    ⟨['4'], .RNS_KEY_4, .KEY_TYPE_TEXT, GROUP2⟩,
    ⟨['5'], .RNS_KEY_5, .KEY_TYPE_TEXT, GROUP2⟩,
    ⟨['6'], .RNS_KEY_6, .KEY_TYPE_TEXT, GROUP2⟩,
    ⟨['j'], .RNS_KEY_j, .KEY_TYPE_TEXT, GROUP3⟩,
    ⟨['k'], .RNS_KEY_k, .KEY_TYPE_TEXT, GROUP3⟩,
    ⟨['l'], .RNS_KEY_l, .KEY_TYPE_TEXT, GROUP3⟩,
    ⟨['m'], .RNS_KEY_m, .KEY_TYPE_TEXT, GROUP3⟩,
    ⟨['n'], .RNS_KEY_n, .KEY_TYPE_TEXT, GROUP3⟩,
    ⟨['o'], .RNS_KEY_o, .KEY_TYPE_TEXT, GROUP3⟩,
    ⟨['p'], .RNS_KEY_p, .KEY_TYPE_TEXT, GROUP3⟩,
    ⟨['q'], .RNS_KEY_q, .KEY_TYPE_TEXT, GROUP3⟩,
    ⟨['r'], .RNS_KEY_r, .KEY_TYPE_TEXT, GROUP3⟩,
    ⟨"delete".toList, .RNS_KEY_Delete, .KEY_TYPE_FUNCTION, GROUP4⟩],
   [⟨"@?#".toList, .RNS_KEY_UnKnown, .KEY_TYPE_TOGGLE, GROUP1⟩,
    ⟨['7'], .RNS_KEY_7, .KEY_TYPE_TEXT, GROUP2⟩,
    ⟨['8'], .RNS_KEY_8, .KEY_TYPE_TEXT, GROUP2⟩,
    ⟨['9'], .RNS_KEY_9, .KEY_TYPE_TEXT, GROUP2⟩,
    ⟨['s'], .RNS_KEY_s, .KEY_TYPE_TEXT, GROUP3⟩,
    ⟨['t'], .RNS_KEY_t, .KEY_TYPE_TEXT, GROUP3⟩,
    ⟨['u'], .RNS_KEY_u, .KEY_TYPE_TEXT, GROUP3⟩,
    ⟨['v'], .RNS_KEY_v, .KEY_TYPE_TEXT, GROUP3⟩,
    ⟨['w'], .RNS_KEY_w, .KEY_TYPE_TEXT, GROUP3⟩,
    ⟨['x'], .RNS_KEY_x, .KEY_TYPE_TEXT, GROUP3⟩,
    ⟨['y'], .RNS_KEY_y, .KEY_TYPE_TEXT, GROUP3⟩,
    ⟨['z'], .RNS_KEY_z, .KEY_TYPE_TEXT, GROUP3⟩,
    ⟨['.'], .RNS_KEY_Period, .KEY_TYPE_TEXT, GROUP3⟩,
    ⟨"return".toList, .RNS_KEY_Select, .KEY_TYPE_FUNCTION, GROUP4⟩],
   [⟨['-'], .RNS_KEY_Minus, .KEY_TYPE_TEXT, GROUP2⟩,
    ⟨['0'], .RNS_KEY_0, .KEY_TYPE_TEXT, GROUP2⟩,
    ⟨['_'], .RNS_KEY_Underscore, .KEY_TYPE_TEXT, GROUP2⟩,
    ⟨['!'], .RNS_KEY_Exclam, .KEY_TYPE_TEXT, GROUP3⟩,
    ⟨['@'], .RNS_KEY_At, .KEY_TYPE_TEXT, GROUP3⟩,
    ⟨['#'], .RNS_KEY_Numbersign, .KEY_TYPE_TEXT, GROUP3⟩,
    ⟨['?'], .RNS_KEY_Question, .KEY_TYPE_TEXT, GROUP3⟩,
    ⟨['*'], .RNS_KEY_Asterisk, .KEY_TYPE_TEXT, GROUP3⟩,
    ⟨[','], .RNS_KEY_Comma, .KEY_TYPE_TEXT, GROUP3⟩,
    ⟨[';'], .RNS_KEY_Semicolon, .KEY_TYPE_TEXT, GROUP3⟩,
    ⟨"right".toList, .RNS_KEY_Right, .KEY_TYPE_FUNCTION, GROUP3⟩,
    ⟨"left".toList, .RNS_KEY_Left, .KEY_TYPE_FUNCTION, GROUP3⟩]]

def alphaNumericKB : KBLayout where
  keyInfo := alphaNumericKBKeyInfo
  returnKeyIndex := ⟨13, 2⟩
  defaultFocussIndex := ⟨7, 0⟩
  return_exists := by decide
  default_exists := by decide

def symbolKBKBKeyInfo : List (List KeyInfo) :=
  [[⟨"123ABC".toList, .RNS_KEY_UnKnown, .KEY_TYPE_TOGGLE, GROUP1⟩,
    ⟨['!'], .RNS_KEY_Exclam, .KEY_TYPE_TEXT, GROUP2⟩,
    ⟨['@'], .RNS_KEY_At, .KEY_TYPE_TEXT, GROUP2⟩,
    ⟨['#'], .RNS_KEY_Numbersign, .KEY_TYPE_TEXT, GROUP2⟩,
    ⟨['$'], .RNS_KEY_Dollar, .KEY_TYPE_TEXT, GROUP2⟩,
    ⟨['^'], .RNS_KEY_Asciicircum, .KEY_TYPE_TEXT, GROUP2⟩,
    ⟨['&'], .RNS_KEY_Ampersand, .KEY_TYPE_TEXT, GROUP2⟩,
    ⟨['*'], .RNS_KEY_Asterisk, .KEY_TYPE_TEXT, GROUP2⟩,
    ⟨['~'], .RNS_KEY_Asciitilde, .KEY_TYPE_TEXT, GROUP2⟩,
    ⟨['('], .RNS_KEY_ParenLeft, .KEY_TYPE_TEXT, GROUP2⟩,
    ⟨[')'], .RNS_KEY_ParenRight, .KEY_TYPE_TEXT, GROUP2⟩,
    ⟨[','], .RNS_KEY_Comma, .KEY_TYPE_TEXT, GROUP2⟩,
    ⟨['.'], .RNS_KEY_Period, .KEY_TYPE_TEXT, GROUP2⟩,
    ⟨"space".toList, .RNS_KEY_Space, .KEY_TYPE_FUNCTION, GROUP3⟩],
   [⟨"123abc".toList, .RNS_KEY_UnKnown, .KEY_TYPE_TOGGLE, GROUP1⟩,
    ⟨[';'], .RNS_KEY_Semicolon, .KEY_TYPE_TEXT, GROUP2⟩,
    ⟨[':'], .RNS_KEY_Colon, .KEY_TYPE_TEXT, GROUP2⟩,
    ⟨['|'], .RNS_KEY_Bar, .KEY_TYPE_TEXT, GROUP2⟩,
    ⟨[Char.ofNat 92], .RNS_KEY_BackSlash, .KEY_TYPE_TEXT, GROUP2⟩,
    ⟨['/'], .RNS_KEY_Shash, .KEY_TYPE_TEXT, GROUP2⟩,
    ⟨[Char.ofNat 123], .RNS_KEY_BraceLeft, .KEY_TYPE_TEXT, GROUP2⟩,
    ⟨[Char.ofNat 125], .RNS_KEY_BraceRight, .KEY_TYPE_TEXT, GROUP2⟩,
    ⟨['['], .RNS_KEY_BracketLeft, .KEY_TYPE_TEXT, GROUP2⟩,
    ⟨[']'], .RNS_KEY_BracketRight, .KEY_TYPE_TEXT, GROUP2⟩,
    ⟨[Char.ofNat 96], .RNS_KEY_Grave, .KEY_TYPE_TEXT, GROUP2⟩,
    ⟨[Char.ofNat 39], .RNS_KEY_Apostrophe, .KEY_TYPE_TEXT, GROUP2⟩,
    ⟨['_'], .RNS_KEY_Underscore, .KEY_TYPE_TEXT, GROUP2⟩,
    ⟨"delete".toList, .RNS_KEY_Delete, .KEY_TYPE_FUNCTION, GROUP3⟩],
   [⟨"@?#".toList, .RNS_KEY_UnKnown, .KEY_TYPE_TOGGLE, GROUP1⟩,
    ⟨['%'], .RNS_KEY_Percent, .KEY_TYPE_TEXT, GROUP2⟩,
    ⟨['>'], .RNS_KEY_Greater, .KEY_TYPE_TEXT, GROUP2⟩,
    ⟨['<'], .RNS_KEY_Less, .KEY_TYPE_TEXT, GROUP2⟩,
    ⟨['?'], .RNS_KEY_Question, .KEY_TYPE_TEXT, GROUP2⟩,
    ⟨[Char.ofNat 34], .RNS_KEY_Quotedbl, .KEY_TYPE_TEXT, GROUP2⟩,
    ⟨['='], .RNS_KEY_Equal, .KEY_TYPE_TEXT, GROUP2⟩,
    ⟨['+'], .RNS_KEY_Plus, .KEY_TYPE_TEXT, GROUP2⟩,
    ⟨['-'], .RNS_KEY_Minus, .KEY_TYPE_TEXT, GROUP2⟩,
    ⟨"right".toList, .RNS_KEY_Right, .KEY_TYPE_FUNCTION, GROUP2⟩,
    ⟨"left".toList, .RNS_KEY_Left, .KEY_TYPE_FUNCTION, GROUP2⟩,
    ⟨"return".toList, .RNS_KEY_Select, .KEY_TYPE_FUNCTION, GROUP3⟩]]

def symbolKB : KBLayout where
  keyInfo := symbolKBKBKeyInfo
  returnKeyIndex := ⟨11, 2⟩
  defaultFocussIndex := ⟨7, 0⟩
  return_exists := by decide
  default_exists := by decide

def numericKBKeyKeyInfo : List (List KeyInfo) :=
  [[⟨['1'], .RNS_KEY_1, .KEY_TYPE_TEXT, GROUP1⟩,
    ⟨['2'], .RNS_KEY_2, .KEY_TYPE_TEXT, GROUP1⟩,
    ⟨['3'], .RNS_KEY_3, .KEY_TYPE_TEXT, GROUP1⟩,
    ⟨['-'], .RNS_KEY_Underscore, .KEY_TYPE_TEXT, GROUP1⟩],
   [⟨['4'], .RNS_KEY_4, .KEY_TYPE_TEXT, GROUP1⟩,
    ⟨['5'], .RNS_KEY_5, .KEY_TYPE_TEXT, GROUP1⟩,
    ⟨['6'], .RNS_KEY_6, .KEY_TYPE_TEXT, GROUP1⟩,
    ⟨"space".toList, .RNS_KEY_Space, .KEY_TYPE_FUNCTION, GROUP1⟩],
   [⟨['7'], .RNS_KEY_7, .KEY_TYPE_TEXT, GROUP1⟩,
    ⟨['8'], .RNS_KEY_8, .KEY_TYPE_TEXT, GROUP1⟩,
    ⟨['9'], .RNS_KEY_9, .KEY_TYPE_TEXT, GROUP1⟩,
    ⟨"delete".toList, .RNS_KEY_Delete, .KEY_TYPE_FUNCTION, GROUP1⟩],
   [⟨[','], .RNS_KEY_Comma, .KEY_TYPE_TEXT, GROUP1⟩,
    ⟨['0'], .RNS_KEY_0, .KEY_TYPE_TEXT, GROUP1⟩,
    ⟨['.'], .RNS_KEY_Period, .KEY_TYPE_TEXT, GROUP1⟩,
    ⟨"return".toList, .RNS_KEY_Select, .KEY_TYPE_FUNCTION, GROUP1⟩]]

def numericKB : KBLayout where
  keyInfo := numericKBKeyKeyInfo
  returnKeyIndex := ⟨3, 3⟩
  defaultFocussIndex := ⟨2, 0⟩
  return_exists := by decide
  default_exists := by decide

/-- No row is longer than the grid, and the toggle keys begin the first three rows. -/
def TogglesLead (keyInfo : List (List KeyInfo)) : Prop :=
  keyInfo.length ≤ 4 ∧ (∀ row ∈ keyInfo, row.length ≤ 14) ∧
    ∀ y < 4, ∀ x < 14, ∀ key ∈ atIndex keyInfo ⟨x, y⟩, key.togglesTo.isSome → x = 0 ∧ y < 3

instance (keyInfo : List (List KeyInfo)) : Decidable (TogglesLead keyInfo) := by
  unfold TogglesLead
  infer_instance

theorem TogglesLead.place {keyInfo : List (List KeyInfo)} {index : SkPoint} {key : KeyInfo}
    {next : KBLayoutType} (h : TogglesLead keyInfo) (hkey : atIndex keyInfo index = some key)
    (hnext : key.togglesTo = some next) : index.x = 0 ∧ index.y < 3 := by
  obtain ⟨hlength, hwidth, hplace⟩ := h
  obtain ⟨row, hrow, hx⟩ := atIndex_isSome.mp (Option.isSome_of_eq_some hkey)
  have hy := (List.getElem?_eq_some_iff.mp hrow).1
  have hx14 := hwidth row (List.mem_of_getElem? hrow)
  exact hplace index.y (by omega) index.x (by omega) key hkey (Option.isSome_of_eq_some hnext)

/-- The layout tables of `OSKLayout.h`. -/
def oskLayout : Keyboard → KBLayout
  | .numericKB => numericKB
  | .symbolKB => symbolKB
  | .alphaNumericKB => alphaNumericKB

theorem oskLayout_togglesLead {keyboard : Keyboard} (h : keyboard ≠ .numericKB) :
    TogglesLead (oskLayout keyboard).keyInfo ∧
      ∀ y < 3, (atIndex (oskLayout keyboard).keyInfo ⟨0, y⟩).isSome := by
  cases keyboard with
  | numericKB => contradiction
  | symbolKB => decide +kernel
  | alphaNumericKB => decide +kernel

theorem keyboardOf_ne_numericKB {oskType : OSKTypes} (h : oskType ≠ .OSK_NUMERIC_KB)
    (kbLayoutType : KBLayoutType) : keyboardOf oskType kbLayoutType ≠ .numericKB := by
  unfold keyboardOf
  rw [if_neg h]
  split <;> decide

/-- The layouts of the source. -/
def oskLayouts : KBLayouts where
  layout := oskLayout
  toggle_exists := by
    intro oskType shown next index key hkey hnext
    by_cases hnumeric : oskType = .OSK_NUMERIC_KB
    · unfold keyboardOf at hkey ⊢
      rw [if_pos hnumeric] at hkey ⊢
      exact Option.isSome_of_eq_some hkey
    · have hfrom := (oskLayout_togglesLead (keyboardOf_ne_numericKB hnumeric shown)).1
      have hto := (oskLayout_togglesLead (keyboardOf_ne_numericKB hnumeric next)).2
      obtain ⟨hx, hy⟩ := hfrom.place hkey hnext
      obtain ⟨x, y⟩ := index
      obtain rfl : x = 0 := hx
      exact hto y hy

end ReactNativeSkia
