/-
Doubles as texts of fifteen significant digits, the precision at which numbers
are put into columns of text: no zeros at the end, but always a decimal point
with a digit after it, and an exponent where the first digit counts less than
10^-4 or more than 10^14.
-/
import IdentitySearch.Number.Shortest

namespace IdentitySearch.Double

open Number

/-- How many significant digits are kept. -/
def precision : Nat := 15

/-- A finite double other than zero, rounded to the significant digits that are
kept; a half goes away from zero. -/
def rounded (x : Double) : Decimal :=
  let i := x.interval
  let exponent := i.point - precision
  let j := i.shift exponent
  (⟨Tie.away.round j.value j.den, exponent⟩ : Decimal).stripped

/-- Digits with a point after the first one and at least one digit behind
it. -/
def pointed : List Char → List Char
  | [] => []
  | [d] => [d, '.', '0']
  | d :: rest => d :: '.' :: rest

/-- The text of a double in a column of text. Zero has no sign there. -/
def columnText (x : Double) : String :=
  if x.isNaN then ""
  else if x.isInfiniteOrNaN then String.ofList (signed x.negative "Inf".toList)
  else if x.magnitude = 0 then "0.0"
  else
    let d := x.rounded
    let ds := digits d.coefficient
    let first : Int := ds.length + d.exponent - 1
    let body :=
      if first < -4 || 14 < first then
        pointed ds ++ 'e' :: (if 0 ≤ first then '+' else '-') :: paddedDigits 2
          first.natAbs
      else if 0 ≤ d.exponent then positional ds d.exponent ++ ['.', '0']
      else positional ds d.exponent
    String.ofList (signed x.negative body)

end IdentitySearch.Double
