/-
Instants in universal time, and the text form that the views store them in: the
date and the time of day to the second, so that comparing texts compares times.
Offsets are whole minutes, hence an instant keeps its minute of the day, its
second (60 is a leap second) and the fraction apart.
-/
import IdentitySearch.Time.Date
import IdentitySearch.Number.Digits

namespace IdentitySearch

/-- An instant in universal time. -/
structure Instant where
  date : Date
  /-- Minute of the day. -/
  minute : Nat
  /-- Second of the minute; 60 in a leap second. -/
  second : Nat
  /-- Billionths of a second. -/
  nanos : Nat
  minute_lt : minute < 1440
  second_le : second ≤ 60
  nanos_lt : nanos < 1000000000
deriving DecidableEq

namespace Instant

open Number

/-- The first instant of a day. -/
def startOfDay (date : Date) : Instant :=
  ⟨date, 0, 0, 0, by decide, by decide, by decide⟩

/-- The date and minute in universal time of a local date and minute whose
clock is `offset` minutes ahead. The offset is shorter than a day. -/
def toUniversal (date : Date) (minute : Nat) (offset : Int) : Date × Int :=
  let m := (minute : Int) - offset
  if m < 0 then (date.previous, m + 1440)
  else if 1440 ≤ m then (date.next, m - 1440)
  else (date, m)

/-- The instant of a local time, if its parts are in range. -/
def ofLocal? (date : Date) (hour minute second nanos : Nat) (offset : Int) :
    Option Instant :=
  if hour ≤ 23 ∧ minute ≤ 59 then
    let (day, m) := toUniversal date (hour * 60 + minute) offset
    if h : (0 ≤ m ∧ m < 1440) ∧ second ≤ 60 ∧ nanos < 1000000000 then
      some ⟨day, m.toNat, second, nanos, by omega, h.2.1, h.2.2⟩
    else none
  else none

-- ============================================================== text

/-- A year of four digits; outside 0 to 9999 it has a sign. -/
def yearText (year : Int) : List Char :=
  if 0 ≤ year ∧ year ≤ 9999 then paddedDigits 4 year.toNat
  else (if year < 0 then '-' else '+') :: paddedDigits 4 year.natAbs

/-- The date and the time of day, to the second. -/
def wholeSeconds (t : Instant) : List Char :=
  yearText t.date.year ++ '-' :: paddedDigits 2 t.date.month
    ++ '-' :: paddedDigits 2 t.date.day
    ++ 'T' :: paddedDigits 2 (t.minute / 60)
    ++ ':' :: paddedDigits 2 (t.minute % 60)
    ++ ':' :: paddedDigits 2 t.second

/-- The stored text: whole seconds, the fraction dropped. -/
def text (t : Instant) : String :=
  String.ofList (t.wholeSeconds ++ ['Z'])

/-- The fraction with as many groups of three digits as it needs. -/
def fractionText (nanos : Nat) : List Char :=
  if nanos = 0 then []
  else if nanos % 1000000 = 0 then '.' :: paddedDigits 3 (nanos / 1000000)
  else if nanos % 1000 = 0 then '.' :: paddedDigits 6 (nanos / 1000)
  else '.' :: paddedDigits 9 nanos

/-- The exact text, fraction included. -/
def exactText (t : Instant) : String :=
  String.ofList (t.wholeSeconds ++ fractionText t.nanos ++ ['Z'])

end Instant

end IdentitySearch
