/-
Dates of the Gregorian calendar, extended to all years on both sides. A `Date`
is valid by construction: its month and day exist. Stepping to a neighbouring
day is all the arithmetic that reading an offset needs, since an offset is
shorter than a day.
-/

namespace IdentitySearch

/-- Whether a year has a 29th of February. -/
def isLeapYear (year : Int) : Bool :=
  year % 4 = 0 && (year % 100 ≠ 0 || year % 400 = 0)

/-- The number of days of a month. -/
def daysInMonth (year : Int) (month : Nat) : Nat :=
  if month = 2 then (if isLeapYear year then 29 else 28)
  else if month = 4 ∨ month = 6 ∨ month = 9 ∨ month = 11 then 30
  else 31

/-- Every month has a day. -/
theorem daysInMonth_pos (year : Int) (month : Nat) :
    1 ≤ daysInMonth year month := by
  unfold daysInMonth
  repeat' split
  all_goals omega

/-- A day of the calendar. -/
structure Date where
  year : Int
  month : Nat
  day : Nat
  one_le_month : 1 ≤ month
  month_le : month ≤ 12
  one_le_day : 1 ≤ day
  day_le : day ≤ daysInMonth year month
deriving DecidableEq

namespace Date

/-- The date with these parts, if there is one. -/
def make? (year : Int) (month day : Nat) : Option Date :=
  if h : (1 ≤ month ∧ month ≤ 12) ∧ 1 ≤ day ∧ day ≤ daysInMonth year month then
    some ⟨year, month, day, h.1.1, h.1.2, h.2.1, h.2.2⟩
  else none

def next (d : Date) : Date :=
  if h : d.day + 1 ≤ daysInMonth d.year d.month then
    ⟨d.year, d.month, d.day + 1, d.one_le_month, d.month_le, by omega, h⟩
  else if h' : d.month + 1 ≤ 12 then
    ⟨d.year, d.month + 1, 1, by omega, h', by omega, daysInMonth_pos _ _⟩
  else ⟨d.year + 1, 1, 1, by omega, by omega, by omega, daysInMonth_pos _ _⟩

def previous (d : Date) : Date :=
  if h : 1 ≤ d.day - 1 then
    ⟨d.year, d.month, d.day - 1, d.one_le_month, d.month_le, h,
      Nat.le_trans (Nat.sub_le _ _) d.day_le⟩
  else if h' : 1 ≤ d.month - 1 then
    ⟨d.year, d.month - 1, daysInMonth d.year (d.month - 1), h',
      Nat.le_trans (Nat.sub_le _ _) d.month_le, daysInMonth_pos _ _,
      Nat.le_refl _⟩
  else ⟨d.year - 1, 12,
    31, by omega, by omega, by omega, by simp [daysInMonth]⟩

end Date

end IdentitySearch
