/-
The shortest decimal that reads back as a given double: of all decimals that
round to it, one with the fewest digits, and of those the nearest. Two of them
can be equally near (1125899906842624.25 lies halfway between .2 and .3), and a
tie rule chooses. Two texts are made of it: one that never uses an exponent and
settles ties away from zero, and the one of JSON numbers, which settles them to
the even digit.
-/
import IdentitySearch.Number.Double

namespace IdentitySearch

/-- The number `coefficient * 10^exponent`. -/
structure Decimal where
  coefficient : Nat
  exponent : Int
deriving DecidableEq

namespace Decimal

open Number

/-- The same number without zeros at the end of its coefficient. -/
def stripped (d : Decimal) : Decimal :=
  let ds := digits d.coefficient
  let kept := (ds.reverse.dropWhile (· == '0')).reverse
  ⟨ofDigits kept, d.exponent + (ds.length - kept.length : Nat)⟩

end Decimal

namespace Double

open Number

-- ============================================ the shortest decimal

/-- Which of two equally near digits is taken. -/
inductive Tie
  | away
  | even
deriving DecidableEq

/-- The rounded quotient of two numbers; the rule settles a half. -/
def Tie.round : Tie → Nat → Nat → Nat
  | .away, num, den => (2 * num + den) / (2 * den)
  | .even, num, den => roundDiv num den

/-- A positive finite value `value / den` with the ends of the interval of
reals that round to it, over the same denominator. -/
structure Interval where
  low : Nat
  value : Nat
  high : Nat
  den : Nat
  closed : Bool

/-- The reals that round to a finite double other than zero. Neighbours are one
unit of the last place apart, but half of that below a power of two. -/
def interval (x : Double) : Interval :=
  let step := 1 <<< x.scale
  let value := 4 * x.significand * step
  let below := if x.significand = 1 <<< 52 ∧ 0 < x.scale then step
      else 2 * step
  { low := value - below, value := value, high := value + 2 * step
    den := 4 * unitsPerOne, closed := x.significand % 2 = 0 }

/-- The interval with all its numbers divided by 10^exponent. -/
def Interval.shift (i : Interval) (exponent : Int) : Interval :=
  if 0 ≤ exponent then { i with den := i.den * Nat.pow 10 exponent.toNat }
  else
    let p := Nat.pow 10 (-exponent).toNat
    { i with low := i.low * p, value := i.value * p, high := i.high * p }

/-- Whether a natural number lies in the interval. -/
def Interval.holds (i : Interval) (n : Nat) : Bool :=
  let m := n * i.den
  if i.closed then i.low ≤ m && m ≤ i.high else i.low < m && m < i.high

/-- The natural number of the interval nearest to its value, if it holds
one. -/
def Interval.nearest? (tie : Tie) (i : Interval) : Option Nat :=
  let down := i.value / i.den
  match i.holds down, i.holds (down + 1) with
  | true, true => some (tie.round i.value i.den)
  | true, false => some down
  | false, true => some (down + 1)
  | false, false => none

/-- The place of the decimal point after the first digit: the value is below
10^point and not below 10^(point - 1). -/
def Interval.point (i : Interval) : Int :=
  (digits (i.value * Nat.pow 10 400 / i.den)).length - 400

/-- The shortest decimal in the interval: the first grid of 1, 2, ... 17 digits
that has a point in it. Seventeen digits always suffice. -/
def Interval.shortest (tie : Tie) (i : Interval) : Decimal :=
  let found := (List.range 17).findSome? fun (n : Nat) =>
    let exponent := i.point - (n + 1 : Nat)
    ((i.shift exponent).nearest? tie).map fun c => (⟨c, exponent⟩ : Decimal)
  (found.getD ⟨i.value, 0⟩).stripped

/-- The shortest decimal that reads back as a finite double other than zero. -/
def shortest (tie : Tie) (x : Double) : Decimal :=
  x.interval.shortest tie

-- ===================================================== as plain text

/-- Digits with a decimal point set `exponent` places from their end. -/
def positional (ds : List Char) (exponent : Int) : List Char :=
  if 0 ≤ exponent then ds ++ List.replicate exponent.toNat '0'
  else
    let places := (-exponent).toNat
    if places < ds.length then
      ds.take (ds.length - places) ++ '.' :: ds.drop (ds.length - places)
    else '0' :: '.' :: List.replicate (places - ds.length) '0' ++ ds

/-- A text with a minus before it where the sign asks for one. -/
def signed (negative : Bool) (cs : List Char) : List Char :=
  if negative then '-' :: cs else cs

/-- The text of a double with the fewest digits and never an exponent. Of two
equally near texts it is the one farther from zero. -/
def plain (x : Double) : String :=
  String.ofList <|
    if x.isNaN then "NaN".toList
    else if x.isInfiniteOrNaN then signed x.negative "inf".toList
    else if x.magnitude = 0 then signed x.negative ['0']
    else
      let d := x.shortest .away
      signed x.negative (positional (digits d.coefficient) d.exponent)

-- ===================================================== as JSON text

/-- Digits with the point after the first one and a signed power of ten. -/
def scientific (ds : List Char) (power : Int) : List Char :=
  let mantissa := match ds with
    | [] => []
    | [d] => [d]
    | d :: rest => d :: '.' :: rest
  mantissa ++ 'e' :: (if 0 ≤ power then '+' else '-') :: digits power.natAbs

/-- The JSON text of a finite double: positional with at least one decimal
while the first digit counts between 10^-5 and 10^15, else scientific. What is
not finite has no JSON number. -/
def json? (x : Double) : Option String :=
  if x.isInfiniteOrNaN then none
  else if x.magnitude = 0
    then some (String.ofList (signed x.negative "0.0".toList))
  else
    let d := x.shortest .even
    let ds := digits d.coefficient
    let first : Int := ds.length + d.exponent - 1
    let body :=
      if first < -5 || 15 < first then scientific ds first
      else if 0 ≤ d.exponent then positional ds d.exponent ++ ['.', '0']
      else positional ds d.exponent
    some (String.ofList (signed x.negative body))

end Double

end IdentitySearch
