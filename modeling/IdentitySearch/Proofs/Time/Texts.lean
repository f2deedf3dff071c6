/-
The order of stored dates. A date is stored as text, and its text is a run of
numbers from the year down to the second, each of a fixed number of digits but
the first. So dates of one year are in the order of their texts
(`Instant.rest_lt_iff`), and the texts of two instants are the same if and only
if the instants lie in the same second (`Instant.text_eq_iff`).

Years of four digits are in order too. Others have a sign, and the signs come
before the digits, the plus first: a year past 9999 is stored before every year
up to it. Of two years with the same sign the digits are compared, from the
left; so of two years before the year zero with equally many digits the later
one comes first.

# How texts of years are compared

- A year has four digits or more. Behind them comes a hyphen, which is before
  every digit, so of two runs of digits that begin alike the shorter one is
  first (`DigitsBefore`, `digits_hyphen_lt_iff`).
- The sign comes first, and its place among the characters is a number
  (`signRank`): plus, minus, and none, where a digit stands.
- Both together are `YearBefore`, which is a strict order of its own on years:
  of two years one is before the other or they are the same
  (`yearBefore_trichotomy`), and never both (`yearBefore_asymm`).

Two instants are in order where this one agrees with the order of years
(`InOrder`), as it does wherever both have four digits.
-/
import IdentitySearch.Proofs.Number.Digits
import IdentitySearch.Proofs.Text.Bytes
import IdentitySearch.Proofs.Time.Calendar

namespace IdentitySearch.Instant

open Number

variable {l k : List Char}

-- ================================================================= years

/-- The number of digits that a year is written with. -/
def yearWidth (n : Nat) : Nat :=
  max 4 (digits n).length

theorem length_paddedDigits_four (n : Nat) :
    (paddedDigits 4 n).length = yearWidth n := by
  rw [paddedDigits, List.length_append, List.length_replicate, yearWidth]
  omega

/-- The digits of a year come before those of another one: the longer run is
cut to the length of the shorter one, which goes first where that makes them
equal. -/
def DigitsBefore (m n : Nat) : Prop :=
  if yearWidth m < yearWidth n then m ≤ n / 10 ^ (yearWidth n - yearWidth m)
  else if yearWidth n < yearWidth m
    then m / 10 ^ (yearWidth m - yearWidth n) < n
  else m < n

/-- The hyphen behind a number comes before every digit. -/
theorem hyphen_lt {c : Char} (h : isDigit c = true) : '-' < c := by
  have hvalue := (toNat_of_isDigit h).1
  exact Char.lt_def.2 (UInt32.lt_iff_toNat_lt.2 (show 45 < c.toNat by omega))

/-- Two years without signs are compared by their digits, and by what follows
only if they are the same. -/
theorem digits_hyphen_lt_iff (m n : Nat) :
    paddedDigits 4 m ++ '-' :: l < paddedDigits 4 n ++ '-' :: k
      ↔ DigitsBefore m n ∨ m = n ∧ l < k := by
  have hdigits : ∀ n, ∀ c ∈ paddedDigits 4 n, isDigit c = true :=
    fun n c => isDigit_of_mem_paddedDigits
  have hhyphen : ∀ c, isDigit c = true → '-' < c := fun c => hyphen_lt
  rw [DigitsBefore]
  rcases Nat.lt_trichotomy (yearWidth m) (yearWidth n) with
    hless | hsame | hmore
  · -- the shorter one ends at its hyphen, which is before any digit
    have hne : m ≠ n := fun h => Nat.lt_irrefl _ (h ▸ hless)
    have horder := (append_mark_lt_iff_of_shorter hhyphen (hdigits m)
        (hdigits n) (by rwa [length_paddedDigits_four,
          length_paddedDigits_four]) (l := l) (k := k)).1
    rw [horder, if_pos hless, or_iff_left fun h => hne h.1,
      length_paddedDigits_four, length_paddedDigits_four,
        ofDigits_paddedDigits, ofDigits_paddedDigits]
  · -- equally long ones are compared as numbers
    have horder := append_lt_append_iff (l := '-' :: l) (k := '-' :: k)
      (by rw [length_paddedDigits_four, length_paddedDigits_four, hsame])
        (hdigits m) (hdigits n)
    rw [horder, hsame, if_neg (Nat.lt_irrefl _), if_neg (Nat.lt_irrefl _),
      ofDigits_paddedDigits, ofDigits_paddedDigits, List.cons_lt_cons_iff]
    simp
  · have hne : m ≠ n := fun h => Nat.lt_irrefl _ (h ▸ hmore)
    have horder := (append_mark_lt_iff_of_shorter hhyphen (hdigits n)
        (hdigits m) (by rwa [length_paddedDigits_four,
          length_paddedDigits_four]) (l := k) (k := l)).2
    rw [horder, if_neg (Nat.lt_asymm hmore), if_pos hmore,
      or_iff_left fun h => hne h.1, length_paddedDigits_four,
        length_paddedDigits_four, ofDigits_paddedDigits, ofDigits_paddedDigits]

/-- The place of a year among the years of other signs: a plus comes first and
a hyphen second, before every digit. -/
def signRank (year : Int) : Nat :=
  if 9999 < year then 0 else if year < 0 then 1 else 2

theorem eq_iff_of_signRank {y z : Int} (h : signRank y = signRank z) :
    y = z ↔ y.natAbs = z.natAbs := by
  unfold signRank at h
  split_ifs at h <;> omega

/-- A year is written before another one. -/
def YearBefore (y z : Int) : Prop :=
  signRank y < signRank z ∨ signRank y = signRank z
    ∧ DigitsBefore y.natAbs z.natAbs

/-- The sign of a year; those of four digits have none. -/
def yearSign (year : Int) : List Char :=
  match signRank year with
  | 0 => ['+']
  | 1 => ['-']
  | _ => []

/-- A year is written as its sign and its digits. -/
theorem yearText_eq (year : Int) :
    yearText year = yearSign year ++ paddedDigits 4 year.natAbs := by
  unfold yearText yearSign signRank
  by_cases hlarge : 9999 < year
  · rw [if_neg (by omega), if_neg (by omega), if_pos hlarge]
    rfl
  · by_cases hneg : year < 0
    · rw [if_neg (by omega), if_pos hneg, if_neg hlarge, if_pos hneg]
      rfl
    · have htoNat : year.toNat = year.natAbs := by omega
      rw [if_pos (by omega), if_neg hlarge, if_neg hneg, htoNat]
      rfl

/-- Signs are told apart by the first character. -/
theorem yearText_lt_of_signRank {y z : Int} (h : signRank y < signRank z) :
    yearText y ++ l < yearText z ++ k := by
  obtain ⟨d, ds, hds⟩ : ∃ d ds, paddedDigits 4 z.natAbs = d :: ds :=
    List.exists_cons_of_ne_nil (by simp [paddedDigits, digits_ne_nil])
  have hd : '-' < d :=
    hyphen_lt (isDigit_of_mem_paddedDigits (hds ▸ List.mem_cons_self))
  have hplus : '+' < d := lt_trans (by decide) hd
  rw [yearText_eq, yearText_eq, hds]
  have hranks : signRank y = 0 ∧ signRank z = 1 ∨ signRank y = 0
      ∧ signRank z = 2
      ∨ signRank y = 1 ∧ signRank z = 2 := by
    unfold signRank at h ⊢
    split_ifs at h ⊢ <;> omega
  rcases hranks with ⟨hy, hz⟩ | ⟨hy, hz⟩ | ⟨hy, hz⟩
  · rw [yearSign, yearSign, hy, hz]
    exact List.cons_lt_cons_iff.2 (.inl (by decide))
  · rw [yearSign, yearSign, hy, hz]
    exact List.cons_lt_cons_iff.2 (.inl hplus)
  · rw [yearSign, yearSign, hy, hz]
    exact List.cons_lt_cons_iff.2 (.inl hd)

/-- Texts that begin with years are in the order of these, and of what follows
if they are the same. -/
theorem yearText_hyphen_lt_iff (y z : Int) :
    yearText y ++ '-' :: l < yearText z ++ '-' :: k
      ↔ YearBefore y z ∨ y = z ∧ l < k := by
  rcases Nat.lt_trichotomy (signRank y) (signRank z) with hless | hsame | hmore
  · exact iff_of_true (yearText_lt_of_signRank hless) (.inl (.inl hless))
  · have hsign : yearSign y = yearSign z := by
      rw [yearSign, hsame, yearSign]
    rw [yearText_eq, yearText_eq, hsign, List.append_assoc, List.append_assoc,
      append_left_lt_iff, digits_hyphen_lt_iff, YearBefore,
      eq_iff_of_signRank hsame, hsame]
    simp
  · refine iff_of_false (List.lt_asymm (yearText_lt_of_signRank hmore)) ?_
    have hne : y ≠ z := fun h => Nat.lt_irrefl _ (h ▸ hmore)
    simp only [YearBefore, hne, false_and, or_false]
    omega

/-- Of two different years one is before the other, -/
theorem yearBefore_trichotomy (y z : Int) :
    YearBefore y z ∨ y = z ∨ YearBefore z y := by
  have htotal : DigitsBefore y.natAbs z.natAbs ∨ y.natAbs = z.natAbs
      ∨ DigitsBefore z.natAbs y.natAbs := by
    unfold DigitsBefore
    split_ifs <;> omega
  unfold YearBefore
  rcases Nat.lt_trichotomy (signRank y) (signRank z) with hless | hsame | hmore
  · exact .inl (.inl hless)
  · rcases htotal with hbefore | habs | hafter
    · exact .inl (.inr ⟨hsame, hbefore⟩)
    · exact .inr (.inl ((eq_iff_of_signRank hsame).2 habs))
    · exact .inr (.inr (.inr ⟨hsame.symm, hafter⟩))
  · exact .inr (.inr (.inl hmore))

/-- and not the other before the one, -/
theorem yearBefore_asymm {y z : Int} (h : YearBefore y z) :
    ¬ YearBefore z y := by
  unfold YearBefore DigitsBefore at *
  split_ifs at * <;> omega

/-- so none is before itself. -/
theorem yearBefore_irrefl (y : Int) : ¬ YearBefore y y :=
  fun h => yearBefore_asymm h h

/-- Years of four digits are written in their order. -/
theorem yearBefore_iff_of_four_digits {y z : Int} (hy : 0 ≤ y ∧ y ≤ 9999)
    (hz : 0 ≤ z ∧ z ≤ 9999) :
    YearBefore y z ↔ y < z := by
  have hwidth : ∀ n, n < 10000 → yearWidth n = 4 := by
    intro n hn
    have hlength : (digits n).length ≤ 4 :=
      (Nat.length_toDigits_le_iff (by decide) (by decide)).2 hn
    rw [yearWidth, Nat.max_eq_left hlength]
  have hy' := hwidth y.natAbs (by omega)
  have hz' := hwidth z.natAbs (by omega)
  rw [YearBefore, DigitsBefore, hy', hz', signRank, signRank]
  split_ifs <;> omega

/-- A year past 9999 is written before every year up to it. -/
theorem yearBefore_of_past {y z : Int} (hy : 9999 < y) (hz : z ≤ 9999) :
    YearBefore y z := by
  refine .inl ?_
  unfold signRank
  split_ifs <;> omega

-- ============================================================== instants

variable (a b : Instant)

/-- What stands behind the year. -/
def rest : List Char :=
  paddedDigits 2 a.date.month ++ '-' :: (paddedDigits 2 a.date.day ++ 'T' ::
    (paddedDigits 2 (a.minute / 60) ++ ':' :: (paddedDigits 2 (a.minute % 60)
      ++ ':' :: (paddedDigits 2 a.second ++ ['Z']))))

theorem toList_text :
    a.text.toList = yearText a.date.year ++ '-' :: a.rest := by
  rw [text, String.toList_ofList, wholeSeconds, rest]
  simp only [List.append_assoc, List.cons_append]

/-- Numbers of two digits are compared one after the other, the first one
first. -/
theorem field_lt_iff {m n : Nat} (hm : m < 100) (hn : n < 100) (mark : Char) :
    paddedDigits 2 m ++ mark :: l < paddedDigits 2 n ++ mark :: k
      ↔ m < n ∨ m = n ∧ l < k := by
  rw [paddedDigits_append_lt_iff (by decide) hm hn, List.cons_lt_cons_iff]
  simp

/-- Behind the year, texts are compared by month, day and time. -/
theorem rest_lt_iff : a.rest < b.rest ↔ a.date.month < b.date.month
    ∨ a.date.month = b.date.month ∧ (a.date.day < b.date.day
      ∨ a.date.day = b.date.day ∧ (a.minute < b.minute
        ∨ a.minute = b.minute ∧ a.second < b.second)) := by
  have hsmall : ∀ t : Instant, t.date.month < 100 ∧ t.date.day < 100
      ∧ t.minute / 60 < 100
      ∧ t.minute % 60 < 100 ∧ t.second < 100 := by
    intro t
    have hmonth := t.date.month_le
    have hday : t.date.day ≤ 31 :=
      Nat.le_trans t.date.day_le (daysInMonth_le _ _)
    have hminute := t.minute_lt
    have hsecond := t.second_le
    omega
  obtain ⟨hmonth, hday, hhour, hminute, hsecond⟩ := hsmall a
  obtain ⟨hmonth', hday', hhour', hminute', hsecond'⟩ := hsmall b
  rw [rest, rest, field_lt_iff hmonth hmonth', field_lt_iff hday hday',
    field_lt_iff hhour hhour', field_lt_iff hminute hminute',
      field_lt_iff hsecond hsecond']
  simp only [List.lt_irrefl, and_false, or_false]
  omega

/-- Texts are in the order of the years as they are written, and within a year
in that of time. -/
theorem text_lt_iff : Text.bytes a.text < Text.bytes b.text
    ↔ YearBefore a.date.year b.date.year ∨ a.date.year = b.date.year
      ∧ a.Before b := by
  rw [Text.bytes_lt_iff, String.lt_iff_toList_lt, toList_text, toList_text,
    yearText_hyphen_lt_iff, rest_lt_iff, before_iff, Date.Precedes]
  refine or_congr_right (and_congr_right fun hyear => ?_)
  rw [Date.eq_iff]
  omega

/-- Two instants have the same text if and only if they lie in the same
second. -/
theorem text_eq_iff : a.text = b.text ↔ a.SameSecond b := by
  constructor
  · intro h
    -- neither text is before the other one
    have hless : ¬ Text.bytes a.text < Text.bytes b.text :=
      h ▸ List.lt_irrefl _
    have hmore : ¬ Text.bytes b.text < Text.bytes a.text :=
      h ▸ List.lt_irrefl _
    rw [text_lt_iff, not_or] at hless hmore
    have hyear : a.date.year = b.date.year := by
      rcases yearBefore_trichotomy a.date.year b.date.year with
        hbefore | hyear | hafter
      · exact absurd hbefore hless.1
      · exact hyear
      · exact absurd hafter hmore.1
    rcases before_trichotomy a b with hbefore | hsame | hafter
    · exact absurd ⟨hyear, hbefore⟩ hless.2
    · exact hsame
    · exact absurd ⟨hyear.symm, hafter⟩ hmore.2
  · intro h
    obtain ⟨hdate, hminute, hsecond⟩ := sameSecond_iff.1 h
    rw [text, text, wholeSeconds, wholeSeconds, hdate, hminute, hsecond]

/-- The years of two instants are the same, or are written in their order. -/
def InOrder : Prop :=
  a.date.year = b.date.year
    ∨ (YearBefore a.date.year b.date.year ↔ a.date.year < b.date.year)

/-- The order of two texts is that of time exactly if the years are written in
their order. -/
theorem text_lt_iff_before_iff :
    (Text.bytes a.text < Text.bytes b.text ↔ a.Before b) ↔ a.InOrder b := by
  rw [text_lt_iff, InOrder]
  by_cases hyear : a.date.year = b.date.year
  · simp only [hyear, yearBefore_irrefl, true_and, false_or, true_or]
  · have hbefore : a.Before b ↔ a.date.year < b.date.year := by
      rw [before_iff, Date.eq_iff, Date.Precedes]
      omega
    simp only [hyear, false_and, or_false, false_or, hbefore]

variable {a b}

/-- Two instants are in order whichever is named first. -/
theorem InOrder.symm (h : a.InOrder b) : b.InOrder a := by
  rcases h with hyear | hyears
  · exact .inl hyear.symm
  · rcases yearBefore_trichotomy a.date.year b.date.year with
      hbefore | hyear | hafter
    · have hless := hyears.1 hbefore
      exact .inr (iff_of_false (yearBefore_asymm hbefore) (Int.lt_asymm hless))
    · exact .inl hyear.symm
    · have hnot : ¬ a.date.year < b.date.year :=
        fun h => yearBefore_asymm hafter (hyears.2 h)
      have hne : a.date.year ≠ b.date.year :=
        fun h => yearBefore_irrefl _ (h ▸ hafter)
      exact .inr (iff_of_true hafter (by omega))

theorem inOrder_of_four_digits (ha : 0 ≤ a.date.year ∧ a.date.year ≤ 9999)
    (hb : 0 ≤ b.date.year ∧ b.date.year ≤ 9999) : a.InOrder b :=
  .inr (yearBefore_iff_of_four_digits ha hb)

/-- Past the year 9999 time goes on, and texts start over. -/
theorem not_inOrder_of_past (ha : a.date.year ≤ 9999)
    (hb : 9999 < b.date.year) :
    ¬ a.InOrder b := by
  intro h
  rcases h with hyear | hyears
  · omega
  · exact yearBefore_asymm (yearBefore_of_past hb ha) (hyears.2 (by omega))

end IdentitySearch.Instant
