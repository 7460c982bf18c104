import ReactNativeSkia.Sdk.CurlResponse

/-!
# The fields that forbid or limit caching

What a `Cache-Control` field says: names and directives are compared without regard to case, and
white space around them does not count.
-/

namespace ReactNativeSkia

def lowerCase (c : UInt8) : UInt8 := if 65 ≤ c ∧ c ≤ 90 then c + 32 else c

def isBlank (c : UInt8) : Bool := c == 32 || c == 9

/-- Without the white space around it. -/
def trimBlanks (chars : Chars) : Chars :=
  ((chars.dropWhile isBlank).reverse.dropWhile isBlank).reverse

/-- The name of a directive and what is behind its equals sign. -/
def parseDirective (token : Chars) : Chars × Chars :=
  ((trimBlanks (token.takeWhile (· ≠ 61))).map lowerCase,
    trimBlanks ((token.dropWhile (· ≠ 61)).drop 1))

/-- The directives of the value of a field. -/
def directives (value : Chars) : List (Chars × Chars) := (value.splitOn 44).map parseDirective

/-- The seconds of `max-age`. -/
def maxAge (value : Chars) : Option Nat := ((directives value).lookup (chars "max-age")).map decimal

/-- The value forbids that the response is stored, or served without asking. -/
def forbidsCaching (value : Chars) : Bool :=
  (directives value).any fun directive =>
    directive.1 == chars "no-store" || directive.1 == chars "no-cache"

/-- The name and the value of a header line, which ends in front of a carriage return or a line
feed. -/
def parseField (line : Chars) : Option (Chars × Chars) :=
  let content := line.takeWhile fun c => c ≠ 13 && c ≠ 10
  if 58 ∈ content then
    some ((content.takeWhile (· ≠ 58)).map lowerCase,
      trimBlanks ((content.dropWhile (· ≠ 58)).drop 1))
  else none

/-- Some field of the lines is a `Cache-Control` that forbids caching. -/
def uncacheable (lines : List Chars) : Bool :=
  lines.any fun line =>
    (parseField line).any fun field =>
      field.1 == chars "cache-control" && forbidsCaching field.2

end ReactNativeSkia
