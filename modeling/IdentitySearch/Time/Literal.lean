/-
Date literals. Two forms are read: a full timestamp (date, time of day to the
second or finer, offset from universal time) and a bare date, which stands for
its first instant. The bare form is lenient: a signed year of any length,
numbers without leading zeros, blanks before a number.
-/
import IdentitySearch.Time.Instant
import IdentitySearch.Text.Blank
import IdentitySearch.Text.Ascii

namespace IdentitySearch.Instant

open Number

-- ================================================= parts of a literal

/-- A number of at least one and at most `most` digits. -/
def readUpTo? (most : Nat) (cs : List Char) : Option (Nat × List Char) :=
  let ds := (cs.take most).takeWhile isDigit
  if ds.isEmpty then none else some (ofDigits ds, cs.drop ds.length)

/-- A number of exactly `width` digits. -/
def readExactly? (width : Nat) (cs : List Char) : Option (Nat × List Char) :=
  let ds := cs.take width
  if ds.length = width ∧ ds.all isDigit then some (ofDigits ds, cs.drop width)
  else none

/-- The text after a character that has to come first. -/
def expect? (c : Char) : List Char → Option (List Char)
  | d :: rest => if d = c then some rest else none
  | [] => none

/-- An optional fraction of a second, in billionths; digits past the ninth are
skipped. -/
def readFraction? : List Char → Option (Nat × List Char)
  | '.' :: rest =>
    let (ds, after) := spanDigits rest
    if ds.isEmpty then none
    else
      let kept := ds.take 9
      some (ofDigits kept * Nat.pow 10 (9 - kept.length), after)
  | cs => some (0, cs)

/-- An offset in minutes: the letter Z, or a sign, two digits of hours, a colon
and two digits of minutes. The sign may be the typographic minus. -/
def readOffset? : List Char → Option (Int × List Char)
  | [] => none
  | c :: rest =>
    if c = 'Z' ∨ c = 'z' then some (0, rest)
    else if c = '+' ∨ c = '-' ∨ c = '\u2212' then do
      let (hours, rest) ← readExactly? 2 rest
      let rest ← expect? ':' rest
      let (minutes, rest) ← readExactly? 2 rest
      if hours ≤ 23 ∧ minutes ≤ 59 then
        let ahead : Int := hours * 60 + minutes
        some (if c = '+' then ahead else -ahead, rest)
      else none
    else none

-- ======================================================= the two forms

/-- A full timestamp. Between date and time stands a T or a space. -/
def readTimestamp? (cs : List Char) : Option Instant := do
  let (year, cs) ← readExactly? 4 cs
  let (month, cs) ← readExactly? 2 (← expect? '-' cs)
  let (day, cs) ← readExactly? 2 (← expect? '-' cs)
  let cs ← match cs with
    | c :: rest => if c = 'T' ∨ c = 't' ∨ c = ' ' then some rest else none
    | [] => none
  let (hour, cs) ← readExactly? 2 cs
  let (minute, cs) ← readExactly? 2 (← expect? ':' cs)
  let (second, cs) ← readExactly? 2 (← expect? ':' cs)
  let (nanos, cs) ← readFraction? cs
  let (offset, cs) ← readOffset? cs
  if cs.isEmpty then
    ofLocal? (← Date.make? year month day) hour minute second nanos offset
  else none

/-- A year: with a sign of any length, without one of at most four digits. -/
def readYear? : List Char → Option (Int × List Char)
  | [] => none
  | c :: rest =>
    if c = '-'
      then (readUpTo? rest.length rest).map fun (y, cs) => (-(y : Int), cs)
    else if c = '+'
      then (readUpTo? rest.length rest).map fun (y, cs) => ((y : Int), cs)
    else (readUpTo? 4 (c :: rest)).map fun (y, cs) => ((y : Int), cs)

/-- The years that have dates. -/
def isYear (year : Int) : Bool :=
  -262143 ≤ year && year ≤ 262142

/-- A bare date: year, month and day with hyphens between. -/
def readDate? (cs : List Char) : Option Date := do
  let (year, cs) ← readYear? (Text.trimStart cs)
  let (month, cs) ← readUpTo? 2 (Text.trimStart (← expect? '-' cs))
  let (day, cs) ← readUpTo? 2 (Text.trimStart (← expect? '-' cs))
  if cs.isEmpty ∧ isYear year then Date.make? year month day else none

/-- The instant that a trimmed literal names. -/
def read? (cs : List Char) : Option Instant :=
  match readTimestamp? cs with
  | some t => some t
  | none => (readDate? cs).map startOfDay

end IdentitySearch.Instant
