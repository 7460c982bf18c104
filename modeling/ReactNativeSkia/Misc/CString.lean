import Mathlib.Data.List.TakeWhile

/-!
# C strings

The characters of a string are bytes. A C string ends in front of the first zero.
-/

namespace ReactNativeSkia

/-- The characters of a `std::string` or of a buffer. -/
abbrev Chars := List UInt8

/-- The characters of a literal. -/
def chars (literal : String) : Chars := literal.toUTF8.toList

/-- What a C string reaches. -/
def cString (chars : Chars) : Chars := chars.takeWhile (· ≠ 0)

variable {chars behind : Chars}

theorem cString_eq_self (h : 0 ∉ chars) : cString chars = chars := by
  refine List.takeWhile_eq_self_iff.mpr fun c hc => ?_
  exact decide_eq_true fun heq => h (heq ▸ hc)

theorem cString_append (h : 0 ∉ chars) (hbehind : cString behind = []) :
    cString (chars ++ behind) = chars := by
  have hself := cString_eq_self h
  unfold cString at hself hbehind ⊢
  rw [List.takeWhile_append, hself, if_pos rfl, hbehind, List.append_nil]

/-- A C string with its zero. -/
theorem cString_terminated (h : 0 ∉ chars) : cString (chars ++ [0]) = chars :=
  cString_append h rfl

end ReactNativeSkia
