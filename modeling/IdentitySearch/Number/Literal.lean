/-
Number literals as they stand in a predicate, already trimmed: whole numbers of
64 bits and floating-point numbers. A sign of either kind may come first. A
whole number outside 64 bits is no literal; a floating-point number too large
is an infinity, and both infinities and the not-a-number have names of their
own, in any case of letters.
-/
import IdentitySearch.Number.Double
import IdentitySearch.Text.Ascii

namespace IdentitySearch.Number

-- ===================================================== signs, digits

/-- Whether a minus stands first, and the text after the sign if there is
one. -/
def splitSign : List Char → Bool × List Char
  | '-' :: rest => (true, rest)
  | '+' :: rest => (false, rest)
  | cs => (false, cs)

/-- The integer that a sign and digits write. -/
def readInt? (cs : List Char) : Option Int :=
  let (negative, rest) := splitSign cs
  let (ds, after) := spanDigits rest
  if ds.isEmpty || !after.isEmpty then none
  else some (if negative then -(ofDigits ds : Int) else ofDigits ds)

/-- A whole number that fits 64 bits. -/
def readLong? (cs : List Char) : Option Int64 :=
  match readInt? cs with
  | some n =>
    if Int64.minValue.toInt ≤ n ∧ n ≤ Int64.maxValue.toInt
      then some (Int64.ofInt n) else none
  | none => none

-- ================================================== floating point

/-- A number in scientific writing: `coefficient * 10^exponent`. -/
structure Scientific where
  coefficient : Nat
  exponent : Int

/-- The exponent after the digits: nothing, or a letter e, a sign and
digits. -/
def readExponent? : List Char → Option Int
  | [] => some 0
  | c :: rest => if c = 'e' ∨ c = 'E' then readInt? rest else none

/-- Digits with an optional point and exponent; at least one digit in all. -/
def readScientific? (cs : List Char) : Option Scientific :=
  let (whole, rest) := spanDigits cs
  let (fraction, rest) := match rest with
    | '.' :: r => spanDigits r
    | r => ([], r)
  if whole.isEmpty && fraction.isEmpty then none
  else (readExponent? rest).map fun e =>
    ⟨ofDigits (whole ++ fraction), e - fraction.length⟩

/-- A floating-point number: a sign, then digits or one of the names. -/
def readDouble? (cs : List Char) : Option Double :=
  let (negative, rest) := splitSign cs
  let name := Text.lower (String.ofList rest)
  if name = "inf" ∨ name = "infinity" then some (Double.infinity negative)
  else if name = "nan" then some Double.nan
  else (readScientific? rest).map fun s =>
    Double.ofDecimal negative s.coefficient s.exponent

end IdentitySearch.Number
