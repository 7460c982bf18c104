import Mathlib.Algebra.Group.Nat.Defs
import Mathlib.Data.List.Infix
import ReactNativeSkia.Misc.CString

/-!
# Responses

`CurlResponse` and the callbacks that fill it (`ReactSkia/sdk/CurlNetworking.h`,
`CurlNetworking.cpp`). Each transfer writes its body into one buffer, from an offset that the
progress callback may set back. The offset is an `int`: the callback does not check it, and what
it writes beyond the range is undefined.
-/

namespace ReactNativeSkia

structure CurlResponse where
  headerBuffer : List (Chars × Chars) := []
  responseBuffer : Option Chars := none
  responseBufferOffset : Nat := 0
  contentSize : Nat := 0
  headerBufferSize : Nat := 0
  deriving DecidableEq, Repr

/-- The name and the value of a header line. -/
def splitHeader : Chars → Option (Chars × Chars)
  | 58 :: 32 :: rest => some ([], rest.takeWhile (· ≠ 13))
  | c :: rest => (splitHeader rest).map fun (name, value) => (c :: name, value)
  | [] => none

/-- The number that the characters start with. -/
def decimal (chars : Chars) : Nat :=
  (chars.takeWhile fun c => 48 ≤ c && c ≤ 57).foldl (fun n c => 10 * n + (c.toNat - 48)) 0

/-- The `long` of `strtol`, cut to an `int`. -/
def longToInt (n : Int) : Int :=
  Int.bmod (max (-9223372036854775808) (min 9223372036854775807 n)) 4294967296

/-- `atoi`. -/
def atoi (chars : Chars) : Int :=
  match chars.dropWhile fun c => c == 32 || 9 ≤ c && c ≤ 13 with
  | 45 :: rest => longToInt (-decimal rest)
  | 43 :: rest => longToInt (decimal rest)
  | rest => longToInt (decimal rest)

/-- What is left of a token by `strtok_r` with `=`. -/
def afterEquals (token : Chars) : Chars :=
  ((token.dropWhile (· = 61)).dropWhile (· ≠ 61)).drop 1

/-- `THREADSAFE_MAX_CACHE_HWM_LIMIT`. -/
def maxCacheHwmLimit : Nat := 10 * 1024 * 1024 * 95 / 100

/-- `overallCurrentSize_` is never changed. -/
def needEvict (requiredSize : Nat) : Bool := !(0 + requiredSize < maxCacheHwmLimit)

namespace CurlResponse

/-- `writeCallbackCurlWrapper`. `realloc` keeps what is in front of the offset. -/
def writeCallback (response : CurlResponse) (buffer : Chars) : Option CurlResponse :=
  let offset := response.responseBufferOffset + buffer.length
  if offset < 2 ^ 31 then
    some { response with
      responseBuffer := some
        ((response.responseBuffer.getD []).take response.responseBufferOffset ++ buffer ++ [0])
      responseBufferOffset := offset
      contentSize := offset }
  else none

/-- `headerCallbackCurlWrapper`. -/
def headerCallback (response : CurlResponse) (line : Chars) : CurlResponse :=
  { response with
    headerBuffer :=
      match splitHeader line with
      | some (name, value) =>
        (name, value) :: response.headerBuffer.filter fun header => header.1 ≠ name
      | none => response.headerBuffer
    headerBufferSize := response.headerBufferSize + line.length }

def shouldCacheData (response : CurlResponse) : Bool :=
  match response.headerBuffer.lookup (chars "Cache-Control") with
  | none => true
  | some control =>
    if chars "no-store" <:+: control then false
    else if chars "no-cache" <:+: control then false
    else if chars "max-age" <:+: control then
      match ((cString control).splitOn 44).find? fun token => chars "max-age" <:+: token with
      | none => true
      | some token => atoi (afterEquals token) ≠ 0
    else true

end CurlResponse

end ReactNativeSkia
