import Mathlib.Algebra.Group.Int.Defs
import Mathlib.Algebra.Group.Nat.Defs
import Mathlib.Data.List.TakeWhile

namespace Tproxy

/-- The string in a buffer: the bytes before the first NUL. -/
def cStr (buf : List UInt8) : List UInt8 := buf.takeWhile (· ≠ 0)

theorem cStr_of_free {buf : List UInt8} (free : 0 ∉ buf) : cStr buf = buf := by
  refine List.takeWhile_eq_self_iff.mpr fun c member => decide_eq_true ?_
  intro nul
  exact free (nul ▸ member)

theorem cStr_free (buf : List UInt8) : 0 ∉ cStr buf := by
  intro member
  have nonzero := List.mem_takeWhile_imp member
  simp only [ne_eq, not_true_eq_false, decide_false, Bool.false_eq_true] at nonzero

theorem cStr_cStr (buf : List UInt8) : cStr (cStr buf) = cStr buf := cStr_of_free (cStr_free buf)

/-- `strnlen` and a copy of what it counts. -/
def strncopy (buf : List UInt8) (n : Nat) : List UInt8 := (cStr buf).take n

theorem strncopy_of_length_le {buf : List UInt8} {n : Nat} (fits : (cStr buf).length ≤ n) :
    strncopy buf n = cStr buf :=
  List.take_of_length_le fits

section Numbers

def isDigit (c : UInt8) : Bool := 48 ≤ c && c ≤ 57

/-- `isspace` in the C locale. -/
def isSpace (c : UInt8) : Bool := c = 32 || 9 ≤ c && c ≤ 13

def digitsValue (digits : List UInt8) : Nat :=
  digits.foldl (fun n c => 10 * n + (c.toNat - 48)) 0

/-- `strtol` in base 10 with a 64-bit `long`: the value and the rest that
`endptr` points to. Without digits that is the whole string. -/
def strtol (s : List UInt8) : Int × List UInt8 :=
  let signed := s.dropWhile isSpace
  let (negative, digits) := match signed with
    | 45 :: rest => (true, rest)
    | 43 :: rest => (false, rest)
    | _ => (false, signed)
  if digits.takeWhile isDigit = [] then (0, s)
  else
    let n : Int := digitsValue (digits.takeWhile isDigit)
    (max (-2 ^ 63) (min (2 ^ 63 - 1) (if negative then -n else n)), digits.dropWhile isDigit)

/-- `strtoul` in base 10 with a 64-bit `unsigned long`, as `strtol`. -/
def strtoul (s : List UInt8) : Nat × List UInt8 :=
  let signed := s.dropWhile isSpace
  let (negative, digits) := match signed with
    | 45 :: rest => (true, rest)
    | 43 :: rest => (false, rest)
    | _ => (false, signed)
  if digits.takeWhile isDigit = [] then (0, s)
  else
    let n := digitsValue (digits.takeWhile isDigit)
    (if n ≥ 2 ^ 64 then 2 ^ 64 - 1 else if negative then (2 ^ 64 - n) % 2 ^ 64 else n,
      digits.dropWhile isDigit)

/-- The tokens that repeated calls of `strtok_r` with one separator return. -/
def strtok (sep : UInt8) (s : List UInt8) : List (List UInt8) := (s.splitOn sep).filter (· ≠ [])

/-- One octet of a dotted address, without leading zeros. -/
def inetOctet (part : List UInt8) : Option UInt8 :=
  if part ≠ [] ∧ part.all isDigit ∧ (part.length = 1 ∨ part.head? ≠ some 48) ∧
      digitsValue part ≤ 255 then some (UInt8.ofNat (digitsValue part))
  else none

/-- `inet_pton(AF_INET, ..)`: the address in host byte order. -/
def inetPton4 (s : List UInt8) : Option (BitVec 32) :=
  match (s.splitOn 46).mapM inetOctet with
  | some [a, b, c, d] =>
    some (BitVec.ofNat 32 (((a.toNat * 256 + b.toNat) * 256 + c.toNat) * 256 + d.toNat))
  | _ => none

end Numbers

end Tproxy
