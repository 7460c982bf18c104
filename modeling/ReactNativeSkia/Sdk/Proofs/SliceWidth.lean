import Mathlib.Algebra.Order.BigOperators.Group.List
import Mathlib.Data.List.DropRight
import Mathlib.Tactic.Linarith
import Mathlib.Tactic.NormNum
import Mathlib.Tactic.Ring
import ReactNativeSkia.Sdk.Proofs.TextWindow
import ReactNativeSkia.Sdk.SliceWidth

/-!
# Slices and the spaces of the text

`getStringBound` looks for spaces at the ends of the whole text. It takes away a character at that
end of the slice and adds a space for it, whatever the character is, and all other spaces of the
slice count for less or for nothing.
-/

namespace ReactNativeSkia

/-- The characters from `startIndex` to `endIndex`. -/
def sliceOf (text : Chars) (startIndex endIndex : UInt32) : Chars :=
  (text.drop startIndex.toNat).take (endIndex.toNat + 1 - startIndex.toNat)

/-- The width of a character that counts each space. -/
def SkFont.countedWidth (font : SkFont) (c : UInt8) : ℚ :=
  if c = space then font.spaceWidth_ else font.width c

/-- The slice is as wide as its characters with all spaces, and what is measured is in the text. -/
structure CountsOwnSpaces (font : SkFont) (text : Chars) (startIndex endIndex : UInt32) : Prop where
  width : font.getStringBound text startIndex endIndex =
    ((sliceOf text startIndex endIndex).map font.countedWidth).sum
  no_wrap : ((measuredSlice text startIndex endIndex).byteLength.toNat : Int) =
    endIndex.toNat + 1 - startIndex.toNat - (measuredSlice text startIndex endIndex).spaceCount
  within : (measuredSlice text startIndex endIndex).startIndex.toNat +
    (measuredSlice text startIndex endIndex).byteLength.toNat ≤ text.length

/-- The slice begins and ends with one space where the text does, and has no others. The characters
between them are less than 2^32. -/
def SpacesAtEnds (text : Chars) (startIndex endIndex : UInt32) : Prop :=
  ∃ inner, sliceOf text startIndex endIndex =
      List.replicate (beginsWithSpace text).toNat space ++ inner ++
        List.replicate (endsWithSpace text).toNat space ∧
    space ∉ inner ∧ inner.length < 2 ^ 32

variable {font : SkFont} {text chars : Chars} {startIndex endIndex : UInt32}

/-! ## Trimmed texts -/

theorem trimSpaces_sublist (chars : Chars) : (trimSpaces chars).Sublist chars :=
  (List.rdropWhile_prefix _ _).sublist.trans (List.dropWhile_sublist _)

theorem trimSpaces_eq_self (h : space ∉ chars) : trimSpaces chars = chars := by
  have hdrop : chars.dropWhile (· = space) = chars := by
    rw [List.dropWhile_eq_self_iff]
    intro hlength heq
    exact h (of_decide_eq_true heq ▸ List.getElem_mem hlength)
  unfold trimSpaces
  rw [hdrop, List.rdropWhile_eq_self_iff]
  intro hne heq
  exact h (of_decide_eq_true heq ▸ List.getLast_mem hne)

namespace SkFont

theorem sum_countedWidth (chars : Chars) :
    (chars.map font.countedWidth).sum = (chars.map font.width).sum + chars.count space := by
  induction chars with
  | nil => simp
  | cons c chars ih =>
    rw [List.map_cons, List.sum_cons, List.map_cons, List.sum_cons, ih, List.count_cons]
    unfold countedWidth
    split
    · rename_i hspace
      simp [hspace, spaceWidth_]
      ring
    · rename_i hspace
      simp [hspace]
      ring

theorem measureText_le (chars : Chars) : font.measureText chars ≤ (chars.map font.width).sum := by
  rw [font.measureText_eq]
  refine ((trimSpaces_sublist chars).map font.width).sum_le_sum ?_
  intro width hwidth
  obtain ⟨c, -, rfl⟩ := List.mem_map.mp hwidth
  exact font.width_nonneg c

theorem measureText_eq_sum (h : space ∉ chars) :
    font.measureText chars = (chars.map font.countedWidth).sum := by
  rw [sum_countedWidth, font.measureText_eq, trimSpaces_eq_self h, List.count_eq_zero.mpr h]
  simp

/-- Every other character is wider than a space counts. -/
def Wide (font : SkFont) : Prop := ∀ c ≠ space, font.spaceWidth_ < font.width c

theorem Wide.spaceWidth_le (h : Wide font) (c : UInt8) :
    font.spaceWidth_ ≤ font.countedWidth c := by
  unfold countedWidth
  split
  · exact le_refl _
  · rename_i hspace
    exact (h c hspace).le

theorem Wide.length_mul_le (h : Wide font) (chars : Chars) :
    font.spaceWidth_ * chars.length ≤ (chars.map font.countedWidth).sum := by
  induction chars with
  | nil => simp
  | cons c chars ih =>
    have hc := h.spaceWidth_le c
    rw [List.map_cons, List.sum_cons, List.length_cons]
    push_cast
    linarith

/-- Characters that are no wider than as many spaces are spaces. -/
theorem Wide.eq_replicate (h : Wide font)
    (hsum : (chars.map font.countedWidth).sum ≤ font.spaceWidth_ * chars.length) :
    chars = List.replicate chars.length space := by
  induction chars with
  | nil => rfl
  | cons c chars ih =>
    have hchars := h.length_mul_le chars
    have hc := h.spaceWidth_le c
    rw [List.map_cons, List.sum_cons, List.length_cons] at hsum
    push_cast at hsum
    have hspace : c = space := by
      by_contra hne
      have hlt : font.spaceWidth_ < font.countedWidth c := by
        rw [countedWidth, if_neg hne]
        exact h c hne
      linarith
    rw [List.length_cons, List.replicate_succ, ← ih (by linarith), hspace]

theorem sum_replicate_space (n : Nat) :
    ((List.replicate n space).map font.countedWidth).sum = font.spaceWidth_ * n := by
  rw [List.map_replicate, List.sum_replicate, countedWidth, if_pos rfl, nsmul_eq_mul, mul_comm]

/-- Spaces are measured right as the characters at both ends, if there are none between them. -/
theorem measureText_add_eq_sum {front inner back : Chars}
    (hfront : front = List.replicate front.length space) (hinner : space ∉ inner)
    (hback : back = List.replicate back.length space) :
    font.measureText inner + font.spaceWidth_ * (front.length + back.length : Nat) =
      ((front ++ inner ++ back).map font.countedWidth).sum := by
  rw [measureText_eq_sum hinner, List.map_append, List.map_append, List.sum_append,
    List.sum_append, hfront, hback, sum_replicate_space, sum_replicate_space]
  simp only [List.length_replicate]
  push_cast
  ring

/-- With a wide font there is no other way. -/
theorem Wide.of_measureText_add_eq_sum (h : Wide font) {front inner back : Chars}
    (hsum : font.measureText inner + font.spaceWidth_ * (front.length + back.length : Nat) =
      ((front ++ inner ++ back).map font.countedWidth).sum) :
    front = List.replicate front.length space ∧ space ∉ inner ∧
      back = List.replicate back.length space := by
  rw [List.map_append, List.map_append, List.sum_append, List.sum_append,
    sum_countedWidth inner] at hsum
  push_cast at hsum
  have hfront := h.length_mul_le front
  have hback := h.length_mul_le back
  have hinner := font.measureText_le inner
  have hcount : (0 : ℚ) ≤ inner.count space := Nat.cast_nonneg _
  refine ⟨h.eq_replicate (by linarith), ?_, h.eq_replicate (by linarith)⟩
  have hzero : (inner.count space : ℚ) ≤ 0 := by linarith
  exact List.count_eq_zero.mp (Nat.le_zero.mp (by exact_mod_cast hzero))

end SkFont

/-! ## What is measured -/

/-- A list without its first and its last elements. -/
theorem take_append_inner_append_drop {α : Type} (l : List α) {front back : Nat}
    (h : front + back ≤ l.length) :
    l.take front ++ (l.drop front).take (l.length - front - back) ++ l.drop (l.length - back) =
      l := by
  have hdrop : l.drop (l.length - back) =
      (l.drop front).drop (l.length - front - back) := by
    rw [List.drop_drop]
    congr 1
    omega
  rw [hdrop, List.append_assoc, List.take_append_drop, List.take_append_drop]

theorem length_sliceOf (hlast : endIndex.toNat < text.length) :
    (sliceOf text startIndex endIndex).length = endIndex.toNat + 1 - startIndex.toNat := by
  unfold sliceOf
  rw [List.length_take, List.length_drop]
  omega

/-- `byteLength` is computed without a sign. -/
theorem byteLength_eq (hle : startIndex ≤ endIndex) :
    ((measuredSlice text startIndex endIndex).byteLength.toNat : Int) =
      (endIndex.toNat + 1 - startIndex.toNat -
        (measuredSlice text startIndex endIndex).spaceCount) % 2 ^ 32 := by
  have hle' := UInt32.le_iff_toNat_le.mp hle
  have hend := endIndex.toNat_lt
  unfold measuredSlice
  cases beginsWithSpace text <;> cases endsWithSpace text <;>
    simp [UInt32.toNat_add, UInt32.toNat_sub] <;> omega

theorem startIndex_eq (text : Chars) (startIndex endIndex : UInt32) :
    (measuredSlice text startIndex endIndex).startIndex.toNat =
      (startIndex.toNat + (beginsWithSpace text).toNat) % 2 ^ 32 := by
  have hstart := startIndex.toNat_lt
  unfold measuredSlice
  cases beginsWithSpace text
  · simp
  · simp [UInt32.toNat_add]

theorem spaceCount_eq : (measuredSlice text startIndex endIndex).spaceCount =
    (beginsWithSpace text).toNat + (endsWithSpace text).toNat := rfl

/-- The characters at the ends of the slice that are taken for the spaces of the text, and those
between them. -/
def sliceInner (text : Chars) (startIndex endIndex : UInt32) : Chars :=
  ((sliceOf text startIndex endIndex).drop (beginsWithSpace text).toNat).take
    ((sliceOf text startIndex endIndex).length - (beginsWithSpace text).toNat -
      (endsWithSpace text).toNat)

def sliceFront (text : Chars) (startIndex endIndex : UInt32) : Chars :=
  (sliceOf text startIndex endIndex).take (beginsWithSpace text).toNat

def sliceBack (text : Chars) (startIndex endIndex : UInt32) : Chars :=
  (sliceOf text startIndex endIndex).drop
    ((sliceOf text startIndex endIndex).length - (endsWithSpace text).toNat)

/-- The slice is long enough for the spaces of the text, and what is left of it has less than 2^32
characters. -/
def LongEnough (text : Chars) (startIndex endIndex : UInt32) : Prop :=
  (beginsWithSpace text).toNat + (endsWithSpace text).toNat ≤
      (sliceOf text startIndex endIndex).length ∧
    (sliceOf text startIndex endIndex).length <
      (beginsWithSpace text).toNat + (endsWithSpace text).toNat + 2 ^ 32

theorem no_wrap_iff (hle : startIndex ≤ endIndex) (hlast : endIndex.toNat < text.length) :
    ((measuredSlice text startIndex endIndex).byteLength.toNat : Int) =
        endIndex.toNat + 1 - startIndex.toNat -
          (measuredSlice text startIndex endIndex).spaceCount ↔
      LongEnough text startIndex endIndex := by
  have hle' := UInt32.le_iff_toNat_le.mp hle
  unfold LongEnough
  rw [length_sliceOf hlast, byteLength_eq hle, spaceCount_eq]
  push_cast
  omega

/-- What is read is what is between the ends. -/
theorem read_eq_sliceInner (hle : startIndex ≤ endIndex) (hlast : endIndex.toNat < text.length)
    (hlong : LongEnough text startIndex endIndex) :
    (text.drop (measuredSlice text startIndex endIndex).startIndex.toNat).take
        (measuredSlice text startIndex endIndex).byteLength.toNat =
      sliceInner text startIndex endIndex := by
  have hle' := UInt32.le_iff_toNat_le.mp hle
  have hend := endIndex.toNat_lt
  have hbytes := (no_wrap_iff hle hlast).mpr hlong
  rw [spaceCount_eq] at hbytes
  obtain ⟨hspaces, -⟩ := hlong
  unfold sliceInner
  rw [length_sliceOf hlast] at hspaces ⊢
  have hlength : (measuredSlice text startIndex endIndex).byteLength.toNat =
      endIndex.toNat + 1 - startIndex.toNat - (beginsWithSpace text).toNat -
        (endsWithSpace text).toNat := by
    omega
  rw [hlength]
  -- Nothing is read if nothing is left, wherever the start is.
  rcases Nat.eq_zero_or_pos (endIndex.toNat + 1 - startIndex.toNat - (beginsWithSpace text).toNat -
      (endsWithSpace text).toNat) with hzero | hpos
  · rw [hzero, List.take_zero, List.take_zero]
  · have hstart : (measuredSlice text startIndex endIndex).startIndex.toNat =
        startIndex.toNat + (beginsWithSpace text).toNat := by
      rw [startIndex_eq, Nat.mod_eq_of_lt (by omega)]
    unfold sliceOf
    rw [hstart, List.drop_take, List.drop_drop, List.take_take]
    congr 1
    omega

theorem read_within (hle : startIndex ≤ endIndex) (hlast : endIndex.toNat < text.length)
    (hlong : LongEnough text startIndex endIndex) :
    (measuredSlice text startIndex endIndex).startIndex.toNat +
      (measuredSlice text startIndex endIndex).byteLength.toNat ≤ text.length := by
  have hle' := UInt32.le_iff_toNat_le.mp hle
  have hbytes := (no_wrap_iff hle hlast).mpr hlong
  have hstart := startIndex_eq text startIndex endIndex
  have hmod := Nat.mod_le (startIndex.toNat + (beginsWithSpace text).toNat) (2 ^ 32)
  have hspaces := hlong.1
  rw [spaceCount_eq] at hbytes
  rw [length_sliceOf hlast] at hspaces
  omega

theorem slice_eq_append (hlong : LongEnough text startIndex endIndex) :
    sliceOf text startIndex endIndex =
      sliceFront text startIndex endIndex ++ sliceInner text startIndex endIndex ++
        sliceBack text startIndex endIndex :=
  (take_append_inner_append_drop _ hlong.1).symm

theorem length_sliceFront (hlong : LongEnough text startIndex endIndex) :
    (sliceFront text startIndex endIndex).length = (beginsWithSpace text).toNat := by
  have hspaces := hlong.1
  unfold sliceFront
  rw [List.length_take]
  omega

theorem length_sliceBack (hlong : LongEnough text startIndex endIndex) :
    (sliceBack text startIndex endIndex).length = (endsWithSpace text).toNat := by
  have hspaces := hlong.1
  unfold sliceBack
  rw [List.length_drop]
  omega

theorem getStringBound_eq (htext : text ≠ []) (hle : startIndex ≤ endIndex)
    (hlast : endIndex.toNat < text.length) (hlong : LongEnough text startIndex endIndex) :
    font.getStringBound text startIndex endIndex =
      font.measureText (sliceInner text startIndex endIndex) +
        font.spaceWidth_ * ((sliceFront text startIndex endIndex).length +
          (sliceBack text startIndex endIndex).length : Nat) := by
  unfold SkFont.getStringBound
  rw [if_neg htext]
  simp only
  rw [read_eq_sliceInner hle hlast hlong, length_sliceFront hlong, length_sliceBack hlong,
    spaceCount_eq]

/-- The slice is spaces of the text around characters that are no spaces. -/
theorem spacesAtEnds_iff (hlong : LongEnough text startIndex endIndex) :
    SpacesAtEnds text startIndex endIndex ↔
      sliceFront text startIndex endIndex =
          List.replicate (sliceFront text startIndex endIndex).length space ∧
        space ∉ sliceInner text startIndex endIndex ∧
        sliceBack text startIndex endIndex =
          List.replicate (sliceBack text startIndex endIndex).length space := by
  have hslice := slice_eq_append hlong
  rw [length_sliceFront hlong, length_sliceBack hlong]
  constructor
  · rintro ⟨inner, heq, hinner, -⟩
    rw [heq] at hslice
    have hback := List.append_inj' hslice (by simp [length_sliceBack hlong])
    have hfront := List.append_inj hback.1 (by simp [length_sliceFront hlong])
    exact ⟨hfront.1.symm, hfront.2 ▸ hinner, hback.2.symm⟩
  · rintro ⟨hfront, hinner, hback⟩
    refine ⟨sliceInner text startIndex endIndex, ?_, hinner, ?_⟩
    · rw [← hfront, ← hback]
      exact hslice
    · have hlength := congrArg List.length hslice
      have hshort := hlong.2
      rw [List.length_append, List.length_append, length_sliceFront hlong,
        length_sliceBack hlong] at hlength
      omega

theorem SpacesAtEnds.longEnough (h : SpacesAtEnds text startIndex endIndex) :
    LongEnough text startIndex endIndex := by
  obtain ⟨inner, hslice, -, hshort⟩ := h
  unfold LongEnough
  rw [hslice]
  simp only [List.length_append, List.length_replicate]
  omega

/-! ## All fonts -/

theorem SpacesAtEnds.countsOwnSpaces (h : SpacesAtEnds text startIndex endIndex) (htext : text ≠ [])
    (hle : startIndex ≤ endIndex) (hlast : endIndex.toNat < text.length) :
    CountsOwnSpaces font text startIndex endIndex := by
  have hlong := h.longEnough
  obtain ⟨hfront, hinner, hback⟩ := (spacesAtEnds_iff hlong).mp h
  refine ⟨?_, (no_wrap_iff hle hlast).mpr hlong, read_within hle hlast hlong⟩
  rw [getStringBound_eq htext hle hlast hlong, slice_eq_append hlong]
  exact SkFont.measureText_add_eq_sum hfront hinner hback

theorem SkFont.Wide.spacesAtEnds (hwide : font.Wide) (htext : text ≠ [])
    (hle : startIndex ≤ endIndex) (hlast : endIndex.toNat < text.length)
    (h : CountsOwnSpaces font text startIndex endIndex) :
    SpacesAtEnds text startIndex endIndex := by
  have hlong := (no_wrap_iff hle hlast).mp h.no_wrap
  have hwidth := h.width
  rw [getStringBound_eq htext hle hlast hlong, slice_eq_append hlong] at hwidth
  exact (spacesAtEnds_iff hlong).mpr (hwide.of_measureText_add_eq_sum hwidth)

/-- Characters of width six and spaces of width one. -/
def sixFont : SkFont where
  width c := if c = space then 1 else 6
  measureText chars := ((trimSpaces chars).map fun c => if c = space then 1 else 6).sum
  width_nonneg c := by
    split <;> norm_num
  measureText_eq _ := rfl

theorem sixFont_wide : sixFont.Wide := by
  intro c hc
  norm_num [sixFont, SkFont.spaceWidth_, hc]

/-- A slice counts its own spaces with all fonts if and only if it has those of the text at its ends
and no others. -/
theorem countsOwnSpaces_iff (htext : text ≠ []) (hle : startIndex ≤ endIndex)
    (hlast : endIndex.toNat < text.length) :
    (∀ font : SkFont, CountsOwnSpaces font text startIndex endIndex) ↔
      SpacesAtEnds text startIndex endIndex :=
  ⟨fun h => sixFont_wide.spacesAtEnds htext hle hlast (h sixFont),
    fun h _ => h.countsOwnSpaces htext hle hlast⟩

/-- The whole of a text that begins with a space. -/
theorem countsOwnSpaces_iff_leading : CountsOwnSpaces sixFont [32, 97, 98] 0 2 :=
  (countsOwnSpaces_iff (by simp) (by decide) (by decide)).mpr
    ⟨[97, 98], by decide, by decide, by decide⟩ sixFont

/-- The first character of a text that ends with a space: nothing is measured, and the space is
added. -/
theorem first_not_measured :
    sixFont.getStringBound [97, 32] 0 0 = 2 ∧ ¬CountsOwnSpaces sixFont [97, 32] 0 0 := by
  have hbound : sixFont.getStringBound [97, 32] 0 0 = 2 := by decide +kernel
  refine ⟨hbound, fun h => ?_⟩
  have hwidth := h.width
  rw [hbound] at hwidth
  revert hwidth
  decide +kernel

/-! ## Texts without spaces -/

theorem toNat_ofInt {i : Int} (hnonneg : 0 ≤ i) (hlt : i < 2 ^ 32) :
    (UInt32.ofInt i).toNat = i.toNat := by
  rw [UInt32.ofInt, Int.emod_eq_of_lt hnonneg hlt, UInt32.toNat_ofNat']
  omega

theorem SkFont.stringBound_eq_sum {first last : Int} (htext : space ∉ text)
    (hlength : text.length < 2 ^ 32) (hfirst : 0 ≤ first) (hle : first ≤ last)
    (hlast : last < text.length) :
    font.stringBound text first last =
      (((text.drop first.toNat).take (last.toNat + 1 - first.toNat)).map font.width).sum := by
  have hstart := toNat_ofInt hfirst (by omega)
  have hend := toNat_ofInt (hfirst.trans hle) (by omega)
  have hslice : sliceOf text (UInt32.ofInt first) (UInt32.ofInt last) =
      (text.drop first.toNat).take (last.toNat + 1 - first.toNat) := by
    unfold sliceOf
    rw [hstart, hend]
  have hno : space ∉ (text.drop first.toNat).take (last.toNat + 1 - first.toNat) :=
    fun h => htext (List.mem_of_mem_drop (List.mem_of_mem_take h))
  have hbegins : beginsWithSpace text = false :=
    decide_eq_false fun h => htext (List.mem_of_head? h)
  have hends : endsWithSpace text = false :=
    decide_eq_false fun h => htext (List.mem_of_getLast? h)
  have hne : text ≠ [] := by
    rintro rfl
    simp at hlast
    omega
  have hspaces : SpacesAtEnds text (UInt32.ofInt first) (UInt32.ofInt last) := by
    refine ⟨_, ?_, hno, ?_⟩
    · rw [hbegins, hends, hslice]
      simp
    · rw [List.length_take, List.length_drop]
      omega
  have hcounts : CountsOwnSpaces font text (UInt32.ofInt first) (UInt32.ofInt last) :=
    hspaces.countsOwnSpaces hne (UInt32.le_iff_toNat_le.mpr (by omega)) (by omega)
  unfold stringBound
  rw [hcounts.width, hslice, sum_countedWidth, List.count_eq_zero.mpr hno]
  simp

/-- The widths of a text without spaces add up. -/
theorem SkFont.measuresSlices {layout : PlaceHolderLayout} (htext : space ∉ text)
    (hlength : text.length < 2 ^ 32)
    (hsingle : ∀ c ∈ text, PlaceHolder.fits layout (font.width c) = true) :
    MeasuresSlices layout (font.stringBound text) text.length := by
  have hone : ∀ i : Int, 0 ≤ i → i < text.length →
      ∃ c ∈ text, font.stringBound text i i = font.width c := by
    intro i hnonneg hlt
    have hget : i.toNat < text.length := by omega
    refine ⟨text[i.toNat], List.getElem_mem hget, ?_⟩
    rw [stringBound_eq_sum htext hlength hnonneg (le_refl i) hlt, Nat.add_sub_cancel_left,
      List.drop_eq_getElem_cons hget, List.take_succ_cons, List.take_zero, List.map_singleton,
      List.sum_singleton]
  refine ⟨?_, ?_, ?_⟩
  · intro first middle last hfirst hle hlt hlast
    rw [stringBound_eq_sum htext hlength hfirst (by omega) hlast,
      stringBound_eq_sum htext hlength hfirst hle (by omega),
      stringBound_eq_sum htext hlength (by omega) (by omega) hlast, ← List.sum_append,
      ← List.map_append]
    congr 2
    rw [show last.toNat + 1 - first.toNat = (middle.toNat + 1 - first.toNat) +
        (last.toNat + 1 - (middle + 1).toNat) by omega, List.take_add, List.drop_drop]
    congr 3
    omega
  · intro i hnonneg hlt
    obtain ⟨c, -, hc⟩ := hone i hnonneg hlt
    rw [hc]
    exact font.width_nonneg c
  · intro i hnonneg hlt
    obtain ⟨c, hmem, hc⟩ := hone i hnonneg hlt
    rw [hc]
    exact hsingle c hmem

end ReactNativeSkia
