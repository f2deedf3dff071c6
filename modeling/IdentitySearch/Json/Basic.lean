/-
JSON values, as wide as the texts they come from: members stay in the order of
the text and may repeat, numbers keep whether they were written with a fraction
or an exponent, and a string that holds half of a surrogate pair is grammatical
but denotes no text. Whether a value is sound, that is free of such strings,
free of numbers out of range and not nested too deep, is asked separately,
because members that nobody reads need only be grammatical.
-/
import IdentitySearch.Number.Double

namespace IdentitySearch

/-- A JSON number as it is written. -/
inductive Numeral where
  /-- A whole number without fraction and exponent; minus zero is not one. -/
  | integer (n : Int)
  /-- `coefficient * 10^exponent`, with a sign. -/
  | decimal (negative : Bool) (coefficient : Nat) (exponent : Int)
deriving DecidableEq

/-- The double nearest to a number. -/
def Numeral.double : Numeral → Double
  | .integer n => Double.ofDecimal (n < 0) n.natAbs 0
  | .decimal negative coefficient exponent =>
    Double.ofDecimal negative coefficient exponent

/-- Whether a number is small enough for a finite double. -/
def Numeral.inRange (n : Numeral) : Bool :=
  !n.double.isInfiniteOrNaN

/-- A JSON value. Where a string stands, `none` is a string that denotes no
text. -/
inductive Json where
  | null
  | bool (b : Bool)
  | number (n : Numeral)
  | string (s : Option String)
  | array (items : List Json)
  | object (members : List (Option String × Json))

namespace Json

def text (s : String) : Json := .string (some s)

def integer (n : Int) : Json := .number (.integer n)

/-- An object with these members. -/
def record (members : List (String × Json)) : Json :=
  .object (members.map fun (name, value) => (some name, value))

-- ========================================================= soundness

mutual

/-- Whether a value can be read whole: its strings denote texts, its numbers
are in range, and at most `levels` arrays and objects enclose one another. -/
def isSound (levels : Nat) : Json → Bool
  | .null => true
  | .bool _ => true
  | .number n => n.inRange
  | .string s => s.isSome
  | .array items => 1 ≤ levels && areSound (levels - 1) items
  | .object members => 1 ≤ levels && areSoundMembers (levels - 1) members

/-- Whether all items of an array are sound. -/
def areSound (levels : Nat) : List Json → Bool
  | [] => true
  | item :: rest => isSound levels item && areSound levels rest

/-- Whether all members of an object are sound. -/
def areSoundMembers (levels : Nat) : List (Option String × Json) → Bool
  | [] => true
  | (name, value) :: rest =>
    name.isSome && isSound levels value && areSoundMembers levels rest

end

end Json

end IdentitySearch
