/-
Binary floating-point numbers of 64 bits, held by their bits. Their value is
exact: a sign, a natural significand and a power of two, counted in units of
the smallest positive double (2 to the power -1074). Comparing two doubles, or
a double with an integer, is therefore comparing integers, and rounding a
decimal to a double is one division of natural numbers.
-/
import IdentitySearch.Number.Digits

namespace IdentitySearch

/-- A 64-bit binary floating-point number. -/
structure Double where
  bits : UInt64
deriving DecidableEq

namespace Double

open Number

-- ======================================================== the fields

/-- The bits without the sign, as a number. -/
def magnitude (x : Double) : Nat :=
  x.bits.toNat % (1 <<< 63)

/-- Whether the sign bit is set. -/
def negative (x : Double) : Bool :=
  1 <<< 63 ≤ x.bits.toNat

/-- The magnitude of the infinities: all exponent bits, no fraction. -/
def infiniteMagnitude : Nat :=
  2047 <<< 52

/-- Neither a number nor an infinity. -/
def isNaN (x : Double) : Bool :=
  infiniteMagnitude < x.magnitude

/-- An infinity or not a number. -/
def isInfiniteOrNaN (x : Double) : Bool :=
  infiniteMagnitude ≤ x.magnitude

/-- How often the smallest unit is doubled. -/
def scale (x : Double) : Nat :=
  (x.magnitude >>> 52) - 1

/-- The significand: below 2^53, and at least 2^52 for a normal number. -/
def significand (x : Double) : Nat :=
  x.magnitude - (x.scale <<< 52)

/-- How many units of 2^-1074 one is. -/
def unitsPerOne : Nat :=
  1 <<< 1074

/-- The value in units of 2^-1074. An infinity stands beyond every finite
one. -/
def units (x : Double) : Int :=
  let n : Nat := x.significand <<< x.scale
  if x.negative then -(n : Int) else n

/-- The integer that a double is, if it is one. -/
def integral? (x : Double) : Option Int :=
  if x.units % unitsPerOne = 0 then some (x.units / unitsPerOne) else none

-- ====================================================== constructing

/-- The double with the given sign and magnitude. -/
def ofMagnitude (negative : Bool) (magnitude : Nat) : Double :=
  ⟨UInt64.ofNat (magnitude + if negative then 1 <<< 63 else 0)⟩

def infinity (negative : Bool) : Double :=
  ofMagnitude negative infiniteMagnitude

/-- The quiet value that is not a number. -/
def nan : Double :=
  ofMagnitude false (infiniteMagnitude + (1 <<< 51))

/-- The double nearest to `num / den`; a tie goes to the even significand, and
what is too large becomes an infinity. The magnitude `k * 2^52 + s` is the one
with significand `s` doubled `k` times, also when rounding carried `s` to
2^53. -/
def ofRatio (negative : Bool) (num den : Nat) : Double :=
  let scaled := num * unitsPerOne
  let k := Nat.log2 (scaled / den) - 52
  let s := roundDiv scaled (den <<< k)
  ofMagnitude negative (min ((k <<< 52) + s) infiniteMagnitude)

/-- The double nearest to `coefficient * 10^exponent`. Beyond 10^310 all is
infinite and below 10^-330 all is zero, so no larger power is ever formed. -/
def ofDecimal (negative : Bool) (coefficient : Nat)
    (exponent : Int) : Double :=
  if coefficient = 0 then ofMagnitude negative 0
  else
    let reach : Int := (digits coefficient).length + exponent
    if 310 < reach then infinity negative
    else if reach < -330 then ofMagnitude negative 0
    else if 0 ≤ exponent then
      ofRatio negative (coefficient * Nat.pow 10 exponent.toNat) 1
    else ofRatio negative coefficient (Nat.pow 10 (-exponent).toNat)

/-- The double nearest to an integer. -/
def ofInt (n : Int) : Double :=
  ofRatio (n < 0) n.natAbs 1

end Double

end IdentitySearch
