import ReactNativeSkia.Misc.TextZipper
import Mathlib.Data.List.Basic

/-!
# Prefix codes

Each character is written as a word of symbols, no word begins another one, and a symbol that is a
word on its own is met in no other word. A text is cut into its words in one way, so an editor that
works symbol by symbol keeps to whole words exactly where the symbol that it takes is a word. UTF-8
is such a code.
-/

namespace ReactNativeSkia

/-- The words of a code. -/
structure PrefixCode (α β : Type*) where
  encode : α → List β
  encode_ne_nil : ∀ a, encode a ≠ []
  eq_of_prefix : ∀ a a', encode a <+: encode a' → a = a'
  eq_of_mem : ∀ a b a', encode a = [b] → b ∈ encode a' → a = a'

namespace PrefixCode

variable {α β : Type*} {code : PrefixCode α β} {a : α} {b : β} {x y : List β} {z : TextZipper β}

/-- The words of the characters one after the other. -/
def text (code : PrefixCode α β) (m : List α) : List β := m.flatMap code.encode

def IsText (code : PrefixCode α β) (x : List β) : Prop := ∃ m, x = code.text m

/-- The symbol is a word. -/
def Single (code : PrefixCode α β) (b : β) : Prop := ∃ a, code.encode a = [b]

@[simp] theorem text_nil : code.text [] = [] := rfl

@[simp] theorem text_cons (m : List α) : code.text (a :: m) = code.encode a ++ code.text m :=
  List.flatMap_cons

theorem text_append (l m : List α) : code.text (l ++ m) = code.text l ++ code.text m :=
  List.flatMap_append

theorem text_concat (m : List α) : code.text (m ++ [a]) = code.text m ++ code.encode a := by
  rw [text_append, text_cons, text_nil, List.append_nil]

theorem isText_nil : code.IsText [] := ⟨[], rfl⟩

theorem isText_encode (a : α) : code.IsText (code.encode a) := by
  refine ⟨[a], ?_⟩
  rw [text_cons, text_nil, List.append_nil]

theorem IsText.append (hx : code.IsText x) (hy : code.IsText y) : code.IsText (x ++ y) := by
  obtain ⟨l, rfl⟩ := hx
  obtain ⟨m, rfl⟩ := hy
  exact ⟨l ++ m, (text_append l m).symm⟩

theorem Single.isText (h : code.Single b) : code.IsText [b] := by
  obtain ⟨a, ha⟩ := h
  rw [← ha]
  exact isText_encode a

/-- Two texts that begin alike begin with the same word. -/
theorem eq_of_append_eq {a a' : α} (h : code.encode a ++ x = code.encode a' ++ y) : a = a' := by
  rcases List.prefix_or_prefix_of_prefix (List.prefix_append (code.encode a) x)
    (h ▸ List.prefix_append (code.encode a') y) with hpre | hpre
  · exact code.eq_of_prefix a a' hpre
  · exact (code.eq_of_prefix a' a hpre).symm

/-- What follows a text in a text is a text. -/
theorem isText_append_iff (l : List α) : code.IsText (code.text l ++ x) ↔ code.IsText x := by
  refine ⟨fun h => ?_, IsText.append ⟨l, rfl⟩⟩
  obtain ⟨m, hm⟩ := h
  induction l generalizing m with
  | nil => exact ⟨m, hm⟩
  | cons a l ih =>
    rw [text_cons, List.append_assoc] at hm
    cases m with
    | nil =>
      rw [text_nil, List.append_eq_nil_iff] at hm
      exact absurd hm.1 (code.encode_ne_nil a)
    | cons a' m =>
      rw [text_cons] at hm
      obtain rfl := eq_of_append_eq hm
      exact ih m (List.append_cancel_left hm)

/-- Of a word only nothing and the whole of it is a text. -/
theorem isText_prefix_iff (h : x <+: code.encode a) :
    code.IsText x ↔ x = [] ∨ x = code.encode a := by
  constructor
  · rintro ⟨m, rfl⟩
    cases m with
    | nil => exact Or.inl rfl
    | cons a' m =>
      rw [text_cons] at h ⊢
      obtain rfl := code.eq_of_prefix a' a ((List.prefix_append _ _).trans h)
      exact Or.inr (h.eq_of_length_le (List.prefix_append _ _).length_le)
  · rintro (rfl | rfl)
    · exact isText_nil
    · exact isText_encode a

theorem isText_singleton_iff : code.IsText [b] ↔ code.Single b := by
  refine ⟨?_, Single.isText⟩
  rintro ⟨m, hm⟩
  cases m with
  | nil => cases hm
  | cons a m =>
    rw [text_cons] at hm
    rcases List.append_eq_singleton_iff.mp hm.symm with ⟨hnil, -⟩ | ⟨hword, -⟩
    · exact absurd hnil (code.encode_ne_nil a)
    · exact ⟨a, hword⟩

/-- A text has no words, or a last word with a last symbol. -/
theorem IsText.nil_or_concat (h : code.IsText x) :
    x = [] ∨ ∃ m a w b, code.encode a = w ++ [b] ∧ x = code.text m ++ w ++ [b] := by
  obtain ⟨m, rfl⟩ := h
  rcases List.eq_nil_or_concat' m with rfl | ⟨m, a, rfl⟩
  · exact Or.inl rfl
  · obtain ⟨w, b, hword⟩ :=
      (List.eq_nil_or_concat' (code.encode a)).resolve_left (code.encode_ne_nil a)
    refine Or.inr ⟨m, a, w, b, hword, ?_⟩
    rw [text_concat, hword, List.append_assoc]

/-- Without its last symbol a text is one if and only if that is a word. -/
theorem IsText.dropLast_iff (h : code.IsText x) :
    code.IsText x.dropLast ↔ ∀ b ∈ x.getLast?, code.Single b := by
  rcases h.nil_or_concat with rfl | ⟨m, a, w, b, hword, rfl⟩
  · exact iff_of_true isText_nil fun b hb => absurd hb (Option.not_mem_none b)
  · have hpre : w <+: code.encode a := ⟨[b], hword.symm⟩
    rw [List.dropLast_concat, List.getLast?_concat, isText_append_iff, isText_prefix_iff hpre]
    constructor
    · rintro hw _ ⟨⟩
      rcases hw with rfl | rfl
      · exact ⟨a, hword⟩
      · rw [List.self_eq_append_right] at hword
        cases hword
    · intro hsingle
      obtain ⟨a', ha'⟩ := hsingle b rfl
      have hmem : b ∈ code.encode a := by
        rw [hword]
        exact List.mem_append_right w List.mem_cons_self
      obtain rfl := code.eq_of_mem a' b a ha' hmem
      rw [ha'] at hword
      exact Or.inl (List.self_eq_append_left.mp hword)

/-! ## Texts with a cursor -/

/-- The cursor stands between two words of a text. -/
def Aligned (code : PrefixCode α β) (z : TextZipper β) : Prop :=
  code.IsText z.before ∧ code.IsText z.after

theorem Aligned.insert (h : code.Aligned z) (hx : code.IsText x) : code.Aligned (z.insert x) :=
  ⟨h.1.append hx, h.2⟩

theorem Aligned.backspace_iff (h : code.Aligned z) :
    code.Aligned z.backspace ↔ ∀ b ∈ z.before.getLast?, code.Single b :=
  (and_iff_left h.2).trans h.1.dropLast_iff

theorem Aligned.left_iff (h : code.Aligned z) :
    code.Aligned z.left ↔ ∀ b ∈ z.before.getLast?, code.Single b := by
  rcases z.start_or_concat with hnil | ⟨l, b, hz⟩
  · rw [TextZipper.left, hnil]
    exact iff_of_true h fun b hb => absurd hb (Option.not_mem_none b)
  · rw [← h.backspace_iff, hz, TextZipper.left_concat, TextZipper.backspace_concat]
    refine and_congr_right ?_
    rintro ⟨m, rfl⟩
    have hb : code.IsText [b] := by
      have hbefore := h.1
      rw [hz] at hbefore
      exact (isText_append_iff m).mp hbefore
    exact iff_of_true (hb.append h.2) h.2

theorem Aligned.right_iff (h : code.Aligned z) :
    code.Aligned z.right ↔ ∀ b ∈ z.after.head?, code.Single b := by
  obtain ⟨l, r⟩ := z
  obtain ⟨⟨m, rfl⟩, hr⟩ := h
  cases r with
  | nil => exact iff_of_true ⟨⟨m, rfl⟩, hr⟩ fun b hb => absurd hb (Option.not_mem_none b)
  | cons b r =>
    have hiff : code.Aligned (⟨code.text m, b :: r⟩ : TextZipper β).right ↔
        code.Single b ∧ code.IsText r :=
      and_congr ((isText_append_iff m).trans isText_singleton_iff) Iff.rfl
    have hrest : code.Single b → code.IsText r := by
      rintro ⟨a, ha⟩
      have hword : code.text [a] = [b] := by rw [text_cons, text_nil, List.append_nil, ha]
      refine (isText_append_iff [a]).mp ?_
      rw [hword]
      exact hr
    rw [hiff, and_iff_left_of_imp hrest]
    constructor
    · rintro hb _ ⟨⟩
      exact hb
    · intro hall
      exact hall b rfl

/-- A symbol that is a word pushes out the last one. -/
theorem Aligned.overtype_iff (h : code.Aligned z) (hb : code.Single b) :
    code.Aligned (z.overtype [b]) ↔ ∀ d ∈ z.after.getLast?, code.Single d := by
  rw [TextZipper.overtype_singleton]
  refine (and_iff_right h.1).trans ?_
  have hafter : code.IsText (b :: z.after) := hb.isText.append h.2
  rw [hafter.dropLast_iff]
  cases z.after with
  | nil =>
    refine iff_of_true ?_ fun d hd => absurd hd (Option.not_mem_none d)
    rintro _ ⟨⟩
    exact hb
  | cons c r => rw [List.getLast?_cons_cons]

/-! ## UTF-8 -/

theorem toUInt8_ofUInt8 (b : UInt8) : (Char.ofUInt8 b).toUInt8 = b := by
  show b.toUInt32.toUInt8 = b
  exact UInt8.toUInt8_toUInt32 b

theorem ofUInt8_injective : Function.Injective Char.ofUInt8 :=
  Function.LeftInverse.injective toUInt8_ofUInt8

/-- The first word is read back. -/
theorem utf8EncodeChar_eq_of_append {c c' : Char} {x y : List UInt8}
    (h : String.utf8EncodeChar c ++ x = String.utf8EncodeChar c' ++ y) : c = c' := by
  have hread := congrArg (fun bytes => bytes.toByteArray.utf8DecodeChar? 0) h
  simpa [List.toByteArray_append, ByteArray.utf8DecodeChar?_utf8EncodeChar_append] using hread

/-- A byte that is a word begins every word that it is met in. -/
theorem utf8EncodeChar_eq_of_mem {c c' : Char} {b : UInt8} (h : String.utf8EncodeChar c = [b])
    (hmem : b ∈ String.utf8EncodeChar c') : c = c' := by
  have hfirst := UInt8.isUTF8FirstByte_getElem_zero_utf8EncodeChar (c := c)
  simp only [h, List.getElem_cons_zero] at hfirst
  obtain ⟨i, hi, hget⟩ := List.getElem_of_mem hmem
  rw [← hget, UInt8.isUTF8FirstByte_getElem_utf8EncodeChar] at hfirst
  subst hfirst
  obtain ⟨d, t, hword⟩ := List.exists_cons_of_length_pos hi
  simp only [hword, List.getElem_cons_zero] at hget
  refine utf8EncodeChar_eq_of_append (x := t) (y := []) ?_
  rw [h, hword, hget, List.append_nil]
  rfl

/-- In the characters of a `std::string`, which are bytes. -/
def utf8 : PrefixCode Char Char where
  encode c := (String.utf8EncodeChar c).map Char.ofUInt8
  encode_ne_nil c hnil := String.utf8EncodeChar_ne_nil (List.map_eq_nil_iff.mp hnil)
  eq_of_prefix c c' hpre := by
    obtain ⟨t, ht⟩ := (List.prefix_map_iff_of_injective ofUInt8_injective).mp hpre
    refine utf8EncodeChar_eq_of_append (x := t) (y := []) ?_
    rw [ht, List.append_nil]
  eq_of_mem c b c' hword hmem := by
    obtain ⟨b, hbyte, rfl⟩ := List.map_eq_singleton_iff.mp hword
    exact utf8EncodeChar_eq_of_mem hbyte ((List.mem_map_of_injective ofUInt8_injective).mp hmem)

theorem utf8_encode_of_lt {c : Char} (hc : c.toNat < 128) : utf8.encode c = [c] := by
  have hsmall : c.val.toNat ≤ 0x7f := Nat.lt_succ_iff.mp hc
  have hword : String.utf8EncodeChar c = [UInt8.ofNat c.val.toNat] := if_pos hsmall
  have hbyte : Char.ofUInt8 (UInt8.ofNat c.val.toNat) = c := by
    refine Char.ext (UInt32.toNat_inj.mp ?_)
    show (UInt8.ofNat c.val.toNat).toUInt32.toNat = c.val.toNat
    rw [UInt8.toNat_toUInt32, UInt8.toNat_ofNat']
    omega
  show (String.utf8EncodeChar c).map Char.ofUInt8 = [c]
  rw [hword, List.map_singleton, hbyte]

/-- The words of one byte are the characters below 128. -/
theorem utf8_single_iff (b : Char) : utf8.Single b ↔ b.toNat < 128 := by
  constructor
  · rintro ⟨c, hc⟩
    have hsize : c.utf8Size = 1 := by
      have hlength := congrArg List.length hc
      rwa [utf8, List.length_map, String.length_utf8EncodeChar] at hlength
    have hsmall : c.toNat < 128 := by
      have hle := Char.utf8Size_eq_one_iff.mp hsize
      exact Nat.lt_succ_iff.mpr (UInt32.le_iff_toNat_le.mp hle)
    rw [utf8_encode_of_lt hsmall] at hc
    obtain rfl := List.singleton_inj.mp hc
    exact hsmall
  · exact fun hb => ⟨b, utf8_encode_of_lt hb⟩

end PrefixCode

end ReactNativeSkia
