/-
The days of the calendar in order. Days are numbered (`Date.dayNumber`): the
next date has the next number, and the earlier of two dates, by year, month and
day, has the smaller one. So instants stand on one line of minutes, on which an
offset is a distance: the instant of a local time is as many minutes back as
the clock is ahead (`Instant.minutes_ofLocal?`). Inside a minute there are its
seconds, of which it may have 61.

A day is counted in three steps: the days before its year, in closed form with
the leap years in it; those before its month, added up month by month; and its
day. Each step grows, and ends where the next one begins: twelve months fill a
year (`daysBeforeMonth_end`), a year brings one to the next
(`daysBeforeYear_succ`), and no day of a month reaches beyond it
(`daysBeforeMonth_add_day_le`). From this both directions of the order follow,
since of two dates one precedes the other or they are the same
(`precedes_trichotomy`).

All of this is arithmetic on a valid date, whose month and day are bounded by
its own fields; `omega` closes it once the three counts are named.
-/
import Mathlib.Tactic.SplitIfs
import IdentitySearch.Time.Instant

namespace IdentitySearch

-- ================================================================= years

/-- The days of a year. -/
def daysInYear (year : Int) : Nat :=
  if isLeapYear year then 366 else 365

/-- The days of a year before the first of a month. -/
def daysBeforeMonth (year : Int) : Nat → Nat
  | 0 | 1 => 0
  | month + 2 =>
    daysBeforeMonth year (month + 1) + daysInMonth year (month + 1)

/-- The days before the first of January of a year, counted from that of the
year one. -/
def daysBeforeYear (year : Int) : Int :=
  365 * (year - 1) + (year - 1) / 4 - (year - 1) / 100 + (year - 1) / 400

theorem daysInMonth_le (year : Int) (month : Nat) :
    daysInMonth year month ≤ 31 := by
  unfold daysInMonth
  split_ifs <;> decide

/-- A year begins as many days after the last one as that one had. -/
theorem daysBeforeYear_succ (year : Int) :
    daysBeforeYear (year + 1) = daysBeforeYear year + daysInYear year := by
  have hleap : isLeapYear year = true
      ↔ year % 4 = 0 ∧ (year % 100 ≠ 0 ∨ year % 400 = 0) := by
    simp [isLeapYear]
  unfold daysBeforeYear daysInYear
  simp only [hleap]
  split <;> omega

theorem daysBeforeYear_mono {y z : Int} (h : y ≤ z) :
    daysBeforeYear y ≤ daysBeforeYear z := by
  unfold daysBeforeYear
  omega

/-- Twelve months are a year. -/
theorem daysBeforeMonth_end (year : Int) :
    daysBeforeMonth year 13 = daysInYear year := by
  cases hleap : isLeapYear year <;> simp [daysBeforeMonth, daysInMonth,
    daysInYear, hleap]

/-- A month begins as many days after the last one as that one had, -/
theorem daysBeforeMonth_succ (year : Int) {month : Nat} (h : 1 ≤ month) :
    daysBeforeMonth year (month + 1)
      = daysBeforeMonth year month + daysInMonth year month := by
  cases month with
  | zero => omega
  | succ m => rfl

/-- and a later month does not begin earlier. -/
theorem daysBeforeMonth_mono (year : Int) {m n : Nat} (h : m ≤ n) :
    daysBeforeMonth year m ≤ daysBeforeMonth year n := by
  induction h with
  | refl => exact Nat.le_refl _
  | @step n _ ih =>
    cases n with
    | zero => exact ih
    | succ n => exact Nat.le_trans ih (Nat.le_add_right _ _)

-- ================================================================= dates

namespace Date

/-- The number of a day, on a count of all days. -/
def dayNumber (d : Date) : Int :=
  daysBeforeYear d.year + daysBeforeMonth d.year d.month + d.day

/-- A date is no later than the end of its month, -/
theorem daysBeforeMonth_add_day_le (d : Date) :
    daysBeforeMonth d.year d.month + d.day
      ≤ daysBeforeMonth d.year (d.month + 1) := by
  rw [daysBeforeMonth_succ _ d.one_le_month]
  exact Nat.add_le_add_left d.day_le _

/-- and no later than the end of its year. -/
theorem dayNumber_le (d : Date) :
    d.dayNumber ≤ daysBeforeYear (d.year + 1) := by
  have hmonth := d.daysBeforeMonth_add_day_le
  have hyear : daysBeforeMonth d.year (d.month + 1)
      ≤ daysBeforeMonth d.year 13 :=
    daysBeforeMonth_mono d.year (by have := d.month_le; omega)
  rw [daysBeforeMonth_end] at hyear
  rw [daysBeforeYear_succ, dayNumber]
  omega

/-- A date comes after the days before its year. -/
theorem daysBeforeYear_lt (d : Date) :
    daysBeforeYear d.year < d.dayNumber := by
  have hday := d.one_le_day
  rw [dayNumber]
  omega

/-- The next date has the next number. -/
theorem dayNumber_next (d : Date) : d.next.dayNumber = d.dayNumber + 1 := by
  have hmonth := d.month_le
  have hday := d.day_le
  have hsucc := daysBeforeMonth_succ d.year d.one_le_month
  unfold next
  split
  · -- in the same month
    show daysBeforeYear d.year + daysBeforeMonth d.year d.month
        + ((d.day + 1 : Nat) : Int) = _
    rw [dayNumber]
    omega
  · split
    · show daysBeforeYear d.year + daysBeforeMonth d.year (d.month + 1)
          + ((1 : Nat) : Int) = _
      rw [dayNumber, hsucc]
      omega
    · -- after the last of December
      have hlast : d.month = 12 := by omega
      have hend : daysBeforeMonth d.year (d.month + 1)
          = daysInYear d.year := by
        rw [hlast]
        exact daysBeforeMonth_end d.year
      have hfirst : daysBeforeMonth (d.year + 1) 1 = 0 := rfl
      show daysBeforeYear (d.year + 1) + daysBeforeMonth (d.year + 1) 1
          + ((1 : Nat) : Int) = _
      rw [dayNumber, hfirst, daysBeforeYear_succ]
      omega

/-- The date before has the number before. -/
theorem dayNumber_previous (d : Date) :
    d.previous.dayNumber = d.dayNumber - 1 := by
  have hmonth := d.one_le_month
  have hday := d.one_le_day
  unfold previous
  split
  · show daysBeforeYear d.year + daysBeforeMonth d.year d.month
        + ((d.day - 1 : Nat) : Int) = _
    rw [dayNumber]
    omega
  · split
    · next hmore =>
      -- on the last day of the month before
      have hsucc := daysBeforeMonth_succ d.year hmore
      rw [Nat.sub_add_cancel hmonth] at hsucc
      show daysBeforeYear d.year + daysBeforeMonth d.year (d.month - 1)
        + (daysInMonth d.year (d.month - 1) : Int) = _
      rw [dayNumber]
      omega
    · have hfirst : daysBeforeMonth d.year d.month = 0 := by
        have hone : d.month = 1 := by omega
        rw [hone]
        rfl
      have hend : daysBeforeMonth (d.year - 1) 12 + 31
          = daysInYear (d.year - 1) :=
        daysBeforeMonth_end (d.year - 1)
      have hyear := daysBeforeYear_succ (d.year - 1)
      rw [Int.sub_add_cancel] at hyear
      show daysBeforeYear (d.year - 1) + daysBeforeMonth (d.year - 1) 12
          + ((31 : Nat) : Int) = _
      rw [dayNumber, hfirst]
      omega

/-- One date is before another one in the order of years, months and days. -/
def Precedes (d e : Date) : Prop :=
  d.year < e.year ∨ d.year = e.year
    ∧ (d.month < e.month ∨ d.month = e.month ∧ d.day < e.day)

/-- The date that comes first has the smaller number. -/
theorem Precedes.dayNumber_lt {d e : Date} (h : d.Precedes e) :
    d.dayNumber < e.dayNumber := by
  rcases h with hyear | ⟨hyear, hmonth | ⟨hmonth, hday⟩⟩
  · calc d.dayNumber ≤ daysBeforeYear (d.year + 1) := d.dayNumber_le
      _ ≤ daysBeforeYear e.year := daysBeforeYear_mono hyear
      _ < e.dayNumber := e.daysBeforeYear_lt
  · have hend := d.daysBeforeMonth_add_day_le
    have hmore : daysBeforeMonth e.year (d.month + 1)
        ≤ daysBeforeMonth e.year e.month :=
      daysBeforeMonth_mono e.year hmonth
    have hday := e.one_le_day
    rw [dayNumber, dayNumber, hyear]
    rw [hyear] at hend
    omega
  · rw [dayNumber, dayNumber, hyear, hmonth]
    omega

theorem eq_iff {d e : Date} :
    d = e ↔ d.year = e.year ∧ d.month = e.month ∧ d.day = e.day := by
  obtain ⟨y, m, n⟩ := d
  rw [mk.injEq]

theorem precedes_trichotomy (d e : Date) :
    d.Precedes e ∨ d = e ∨ e.Precedes d := by
  rw [eq_iff, Precedes, Precedes]
  omega

/-- The earlier date is the one with the smaller number. -/
theorem dayNumber_lt_iff {d e : Date} :
    d.dayNumber < e.dayNumber ↔ d.Precedes e := by
  refine ⟨fun h => ?_, Precedes.dayNumber_lt⟩
  rcases d.precedes_trichotomy e with hless | rfl | hmore
  · exact hless
  · exact absurd h (Int.lt_irrefl _)
  · exact absurd h (Int.lt_asymm hmore.dayNumber_lt)

/-- No two dates have one number. -/
theorem dayNumber_inj {d e : Date} : d.dayNumber = e.dayNumber ↔ d = e := by
  refine ⟨fun h => ?_, congrArg dayNumber⟩
  rcases d.precedes_trichotomy e with hless | heq | hmore
  · exact absurd h (Int.ne_of_lt hless.dayNumber_lt)
  · exact heq
  · exact absurd h (Int.ne_of_gt hmore.dayNumber_lt)

end Date

-- ============================================================== instants

namespace Instant

/-- The minute in which an instant lies, on a count of all minutes. -/
def minutes (t : Instant) : Int :=
  1440 * t.date.dayNumber + t.minute

/-- One instant is before another one, fractions of seconds apart. -/
def Before (a b : Instant) : Prop :=
  a.minutes < b.minutes ∨ a.minutes = b.minutes ∧ a.second < b.second

/-- Two instants lie in the same second. -/
def SameSecond (a b : Instant) : Prop :=
  a.minutes = b.minutes ∧ a.second = b.second

instance (a b : Instant) : Decidable (a.Before b) :=
  inferInstanceAs (Decidable (_ ∨ _ ∧ _))

instance (a b : Instant) : Decidable (a.SameSecond b) :=
  inferInstanceAs (Decidable (_ ∧ _))

/-- A clock that is ahead shows the minutes of universal time and those that it
is ahead. -/
theorem minutes_toUniversal (date : Date) (minute : Nat) (offset : Int) :
    1440 * (toUniversal date minute offset).1.dayNumber
      + (toUniversal date minute offset).2
      = 1440 * date.dayNumber + minute - offset := by
  unfold toUniversal
  have hnext := date.dayNumber_next
  have hprevious := date.dayNumber_previous
  dsimp only
  split
  · dsimp only
    omega
  · split
    · dsimp only
      omega
    · dsimp only
      omega

/-- The instant of a local time. -/
theorem minutes_ofLocal? {date : Date} {hour minute second nanos : Nat}
    {offset : Int} {t : Instant}
    (h : ofLocal? date hour minute second nanos offset = some t) :
    t.minutes = 1440 * date.dayNumber + (hour * 60 + minute : Nat) - offset
      ∧ t.second = second ∧ t.nanos = nanos := by
  have huniversal := minutes_toUniversal date (hour * 60 + minute) offset
  unfold ofLocal? at h
  split at h
  · dsimp only at h
    split at h
    · next hrange =>
      cases h
      refine ⟨?_, rfl, rfl⟩
      rw [minutes, ← huniversal]
      dsimp only
      omega
    · cases h
  · cases h

/-- Instants are compared by date, minute and second. -/
theorem before_iff {a b : Instant} :
    a.Before b ↔ a.date.Precedes b.date ∨ a.date = b.date
      ∧ (a.minute < b.minute ∨ a.minute = b.minute ∧ a.second < b.second) := by
  have ha := a.minute_lt
  have hb := b.minute_lt
  rw [← Date.dayNumber_lt_iff, ← Date.dayNumber_inj, Before, minutes, minutes]
  omega

/-- Instants lie in the same second if they agree in date, minute and
second. -/
theorem sameSecond_iff {a b : Instant} :
    a.SameSecond b
      ↔ a.date = b.date ∧ a.minute = b.minute ∧ a.second = b.second := by
  have ha := a.minute_lt
  have hb := b.minute_lt
  rw [← Date.dayNumber_inj, SameSecond, minutes, minutes]
  omega

/-- Of two instants in different seconds one is before the other. -/
theorem before_trichotomy (a b : Instant) :
    a.Before b ∨ a.SameSecond b ∨ b.Before a := by
  unfold Before SameSecond
  omega

end Instant

end IdentitySearch
