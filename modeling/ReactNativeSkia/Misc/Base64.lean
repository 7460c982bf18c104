import Mathlib.Data.List.Basic
import Mathlib.Tactic.Common

/-!
# Base64

Three bytes at a time as four digits of six bits, with padding where fewer than three are left, and
the way back. Only the last group may be padded. Characters are bytes.
-/

namespace ReactNativeSkia

namespace Base64

/-- `A` to `Z`, `a` to `z`, `0` to `9`, `+` and `/`. -/
def digit (n : Nat) : UInt8 :=
  if n < 26 then UInt8.ofNat (65 + n)
  else if n < 52 then UInt8.ofNat (97 + (n - 26))
  else if n < 62 then UInt8.ofNat (48 + (n - 52))
  else if n = 62 then 43
  else 47

def value (c : UInt8) : Option Nat := (List.range 64).find? fun n => digit n == c

/-- `=`. -/
def pad : UInt8 := 61

theorem value_digit {n : Nat} (h : n < 64) : value (digit n) = some n := by
  revert n
  decide

theorem digit_ne_pad {n : Nat} (h : n < 64) : digit n ≠ pad := by
  revert n
  decide

def encode : List UInt8 → List UInt8
  | a :: b :: c :: rest =>
    digit (a.toNat / 4) :: digit (a.toNat % 4 * 16 + b.toNat / 16) ::
      digit (b.toNat % 16 * 4 + c.toNat / 64) :: digit (c.toNat % 64) :: encode rest
  | [a, b] =>
    [digit (a.toNat / 4), digit (a.toNat % 4 * 16 + b.toNat / 16), digit (b.toNat % 16 * 4), pad]
  | [a] => [digit (a.toNat / 4), digit (a.toNat % 4 * 16), pad, pad]
  | [] => []

/-- The bytes of a group of four characters; `padded` tells whether padding may stand here. -/
def decodeGroup (padded : Bool) (p q r s : UInt8) : Option (List UInt8) := do
  let x ← value p
  let y ← value q
  let first := UInt8.ofNat (x * 4 + y / 16)
  if padded ∧ r = pad ∧ s = pad then return [first]
  let z ← value r
  let second := UInt8.ofNat (y % 16 * 16 + z / 4)
  if padded ∧ s = pad then return [first, second]
  let w ← value s
  return [first, second, UInt8.ofNat (z % 4 * 64 + w)]

def decode : List UInt8 → Option (List UInt8)
  | p :: q :: r :: s :: rest => do
    let bytes ← decodeGroup rest.isEmpty p q r s
    let more ← decode rest
    return bytes ++ more
  | [] => some []
  | _ => none

theorem ofNat_eq {b : UInt8} {n : Nat} (h : n = b.toNat) : UInt8.ofNat n = b := by
  rw [h, UInt8.ofNat_toNat]

theorem decodeGroup_digits {a b c : UInt8} (padded : Bool) :
    decodeGroup padded (digit (a.toNat / 4)) (digit (a.toNat % 4 * 16 + b.toNat / 16))
      (digit (b.toNat % 16 * 4 + c.toNat / 64)) (digit (c.toNat % 64)) = some [a, b, c] := by
  have ha : a.toNat < 256 := a.toNat_lt
  have hb : b.toNat < 256 := b.toNat_lt
  have hc : c.toNat < 256 := c.toNat_lt
  have hw : c.toNat % 64 < 64 := by omega
  rw [decodeGroup, value_digit (by omega), value_digit (by omega), value_digit (by omega),
    value_digit hw]
  simp only [Option.bind_eq_bind, Option.bind_some, digit_ne_pad hw, and_false, if_false]
  rw [ofNat_eq (b := a) (by omega), ofNat_eq (b := b) (by omega), ofNat_eq (b := c) (by omega)]
  rfl

theorem decodeGroup_two {a b : UInt8} :
    decodeGroup true (digit (a.toNat / 4)) (digit (a.toNat % 4 * 16 + b.toNat / 16))
      (digit (b.toNat % 16 * 4)) pad = some [a, b] := by
  have ha : a.toNat < 256 := a.toNat_lt
  have hb : b.toNat < 256 := b.toNat_lt
  have hz : b.toNat % 16 * 4 < 64 := by omega
  rw [decodeGroup, value_digit (by omega), value_digit (by omega), value_digit hz]
  simp only [Option.bind_eq_bind, Option.bind_some, digit_ne_pad hz, and_false, false_and,
    if_false, and_self, if_true]
  rw [ofNat_eq (b := a) (by omega), ofNat_eq (b := b) (by omega)]
  rfl

theorem decodeGroup_one {a : UInt8} :
    decodeGroup true (digit (a.toNat / 4)) (digit (a.toNat % 4 * 16)) pad pad = some [a] := by
  have ha : a.toNat < 256 := a.toNat_lt
  rw [decodeGroup, value_digit (by omega), value_digit (by omega)]
  simp only [Option.bind_eq_bind, Option.bind_some, and_self, if_true]
  rw [ofNat_eq (b := a) (by omega)]
  rfl

/-- Decoding gives back the bytes. -/
theorem decode_encode (bytes : List UInt8) : decode (encode bytes) = some bytes := by
  induction bytes using encode.induct with
  | case1 a b c rest ih =>
    rw [encode, decode, decodeGroup_digits, ih]
    rfl
  | case2 a b =>
    rw [encode, decode, List.isEmpty_nil, decodeGroup_two]
    rfl
  | case3 a =>
    rw [encode, decode, List.isEmpty_nil, decodeGroup_one]
    rfl
  | case4 => rfl

/-- Three quarters of the text are room enough for the bytes. -/
theorem length_le_of_encode (bytes : List UInt8) :
    bytes.length ≤ (encode bytes).length * 3 / 4 := by
  induction bytes using encode.induct with
  | case1 a b c rest ih =>
    simp only [encode, List.length_cons]
    omega
  | case2 a b => simp [encode]
  | case3 a => simp [encode]
  | case4 => simp [encode]

end Base64

end ReactNativeSkia
