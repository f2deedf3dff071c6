/-
Comparisons of dates. Dates are stored as text and compared as text, by the
database and from the left. A comparison with a date therefore selects by time
as long as the years of what is compared are written in their order
(`Setting.date_comparisons`): years of four digits are, and dates of one year,
but not a date up to the year 9999 and one past it. A literal can name such a
date though it has a year of four digits itself, since its offset may move it
over the end of the year (`offset_moves_past_all_dates`). Equality asks for no
order, and is right for every date.

- A literal that is bound as a date was parsed as one, and what it is compared
  with is a date too (`Setting.Compares.of_date`). Such a comparison is never a
  pattern, since only texts have patterns.
- Two texts of dates are equal if the dates are in the same second, and come in
  the order of the dates if the years are in order (`Cell.equals_dates`,
  `Cell.before_dates`). So each comparator says of the texts what it says of
  the dates (`Comparator.truth_dates_iff`).
- The rest is what any comparison selects
  (`Setting.Compares.selects_date_iff`), with what the database stores there
  known to be dates.
-/
import IdentitySearch.Proofs.Selection.Comparisons
import IdentitySearch.Proofs.Time.Texts

namespace IdentitySearch

open Outcome

-- ============================================================= literals

namespace BindValue

theorem parse_eq_ok {type : ValueType} {literal : String} {v : BindValue} :
    parse type literal = .ok v ↔ read? type literal = some v := by
  unfold parse
  cases read? type literal <;> simp

/-- Only what is read as a date is one. -/
theorem type_of_parse_date {type : ValueType} {literal : String} {b : Instant}
    (h : parse type literal = .ok (.date b)) : type = .date := by
  rw [parse_eq_ok] at h
  cases type with
  | date => rfl
  | string | enum | long | double | boolean => simp [read?] at h

/-- What is parsed as a date is one. -/
theorem exists_date_of_parse {literal : String} {v : BindValue}
    (h : parse .date literal = .ok v) :
    ∃ a, v = .date a := by
  obtain ⟨a, -, rfl⟩ := Option.map_eq_some_iff.1 (parse_eq_ok.1 h)
  exact ⟨a, rfl⟩

end BindValue

-- ============================================================ comparing

/-- A comparator between two instants, their fractions of seconds apart. -/
def Comparator.Relates : Comparator → Instant → Instant → Prop
  | .eq, a, b => a.SameSecond b
  | .ne, a, b => ¬ a.SameSecond b
  | .lt, a, b => a.Before b
  | .ge, a, b => ¬ a.Before b
  | .gt, a, b => b.Before a
  | .le, a, b => ¬ b.Before a
  | .like, _, _ | .notLike, _, _ => False

namespace Cell

/-- The text of a date equals those of the same second. -/
theorem equals_dates (a b : Instant) :
    equals (.text a.text) (.text b.text)
      = .ofBool (decide (a.SameSecond b)) := by
  simp [equals, compareWith, same, rank, units, content, Instant.text_eq_iff]

/-- The text of a date is before another one if the date is, where the years
are written in their order. -/
theorem before_dates {a b : Instant} (h : a.InOrder b) :
    compareWith before (.text a.text) (.text b.text)
      = .ofBool (decide (a.Before b)) := by
  have htext : a.text < b.text ↔ a.Before b := by
    rw [← Text.bytes_lt_iff]
    exact (Instant.text_lt_iff_before_iff a b).2 h
  simp [compareWith, before, rank, content, htext]

end Cell

/-- Texts of dates are compared as the dates are. -/
theorem Comparator.truth_dates_iff {c : Comparator}
    (hc : c ≠ .like ∧ c ≠ .notLike) {a b : Instant}
    (horder : c = .eq ∨ a.InOrder b) (escape : Option Char) :
    c.truth escape (.text a.text) (.text b.text) = .holds ↔ c.Relates a b := by
  have hyes : ∀ (p : Prop) [Decidable p], Truth.ofBool (decide p) = .holds
      ↔ p := by
    intro p _
    rw [Truth.ofBool_eq_holds, decide_eq_true_iff]
  have hno : ∀ (p : Prop) [Decidable p], (Truth.ofBool (decide p)).not = .holds
      ↔ ¬ p := by
    intro p _
    rw [Truth.not_eq_holds, Truth.ofBool_eq_fails, decide_eq_false_iff_not]
  -- but for equality, the years are written in their order
  rcases horder with rfl | h
  · rw [truth, Cell.equals_dates, hyes, Relates]
  · cases c with
    | eq => rw [truth, Cell.equals_dates, hyes, Relates]
    | ne => rw [truth, Cell.equals_dates, hno, Relates]
    | lt => rw [truth, Cell.before_dates h, hyes, Relates]
    | ge => rw [truth, Cell.before_dates h, hno, Relates]
    | gt => rw [truth, Cell.before_dates h.symm, hyes, Relates]
    | le => rw [truth, Cell.before_dates h.symm, hno, Relates]
    | like => exact absurd rfl hc.1
    | notLike => exact absurd rfl hc.2

-- ============================================================ selecting

/-- A core field of dates is kept as text. -/
theorem CoreField.affinity_of_date {kind : Kind} {name : String}
    {field : CoreField} (h : kind.field? name = some field)
    (htype : field.type = .date) :
    field.column.affinity = .text := by
  rw [affinity_eq h, htype]
  rfl

/-- An operator without a pattern compares without one. -/
theorem Operator.comparator_of_not_pattern {op : Operator}
    (h : op.isPattern = false) :
    op.comparator ≠ .like ∧ op.comparator ≠ .notLike := by
  cases op with
  | like | ilike => cases h
  | _ => decide

namespace Setting

variable {s : Setting} {p : Predicate} {t : ValueTest} {b : Instant}

/-- Only attributes that are dates are compared with a date, -/
theorem type_of_forSchema_date {schema : Schema} {literal : String}
    (h : BindValue.forSchema schema literal = .ok (.date b)) :
    schema.type = .date := by
  unfold BindValue.forSchema at h
  split at h
  · cases h
  · exact BindValue.type_of_parse_date h

/-- and only such core fields, by an operator without a pattern. -/
theorem of_fieldValue_date {field : CoreField} {op : Operator}
    {literal : String} (h : s.fieldValue field op literal = .ok (.date b)) :
    op.isPattern = false ∧ field.type = .date := by
  unfold fieldValue at h
  split at h
  · obtain ⟨_, -, h⟩ := map_eq_ok.1 h
    cases h
  · split at h
    · cases h
    · next hpattern =>
        exact ⟨Bool.eq_false_iff.2 hpattern, BindValue.type_of_parse_date h⟩

/-- A date is compared as it is, in a column of texts. -/
theorem Compares.of_date (h : s.Compares p t)
    (hvalue : t.comparison.value = .date b) :
    t.comparison.folded = false ∧ t.comparison.column.affinity = .text
      ∧ t.comparison.comparator ≠ .like
      ∧ t.comparison.comparator ≠ .notLike := by
  cases h with
  | «attribute» found compares fits read =>
    rename_i key text op schema value
    cases (show value = .date b from hvalue)
    cases hpattern : op.isPattern with
    | true => simp [hpattern] at read
    | false =>
      have htype := type_of_forSchema_date (by simpa [hpattern] using read)
      refine ⟨?_, ?_, Operator.comparator_of_not_pattern hpattern⟩
      · simp [comparison, htype, ValueType.isTextual]
      · simp [comparison, htype, ValueType.column, Column.affinity]
  | field found compares fits read =>
    rename_i name text op field value
    cases (show value = .date b from hvalue)
    obtain ⟨hpattern, htype⟩ := of_fieldValue_date read
    refine ⟨?_, CoreField.affinity_of_date found htype,
      Operator.comparator_of_not_pattern hpattern⟩
    simp [comparison, htype, ValueType.isTextual]

end Setting

namespace ValueTest

variable (t : ValueTest) (db : Database)

/-- An identity has a row with the text of an instant. -/
def Stores (key : String) (a : Instant) : Prop :=
  ∃ row ∈ t.rowsOf db key, row.get t.comparison.column = .text a.text

/-- Every row of an identity holds the text of an instant, or NULL. -/
def HoldsDates (key : String) : Prop :=
  ∀ row ∈ t.rowsOf db key, row.get t.comparison.column = .null
    ∨ ∃ a : Instant, row.get t.comparison.column = .text a.text

end ValueTest

namespace Setting

variable {s : Setting} {p : Predicate} {t : ValueTest} {b : Instant}
  {db : Database} {key : String}

/-- A comparison with a date selects those who have one that relates to it so
in time, as long as the years are written in their order. Equality needs no
order. -/
theorem Compares.selects_date_iff (h : s.Compares p t)
    (hvalue : t.comparison.value = .date b) (hdates : t.HoldsDates db key)
    (horder : ∀ a, t.Stores db key a → t.comparison.comparator = .eq
      ∨ a.InOrder b) :
    (t.selection false).Selects db key
      ↔ ∃ a, t.Stores db key a ∧ t.comparison.comparator.Relates a b := by
  obtain ⟨hfolded, haffinity, hcomparator⟩ := h.of_date hvalue
  have htruth : ∀ row, t.comparison.truth row = t.comparison.comparator.truth
      (if t.comparison.escaped then some '\\' else none)
        (row.get t.comparison.column)
      (.text b.text) := by
    intro row
    rw [Comparison.truth, hfolded, hvalue, haffinity]
    rfl
  rw [ValueTest.selects_iff]
  constructor
  · intro hselects
    obtain ⟨row, hrow, hholds⟩ := hselects
    -- a cell of NULL holds for no comparator
    rcases hdates row hrow with hnull | ⟨a, ha⟩
    · have hunknown := Comparison.truth_eq_unknown_iff.2 (.inl hnull)
      rw [hunknown] at hholds
      cases hholds
    · have hstores : t.Stores db key a := ⟨row, hrow, ha⟩
      have hrelates :=
        Comparator.truth_dates_iff hcomparator (horder a hstores)
      rw [htruth, ha, Bool.not_false, Truth.ofBool, if_pos rfl,
        hrelates] at hholds
      exact ⟨a, hstores, hholds⟩
  · intro hrelated
    obtain ⟨a, hstores, hrelates⟩ := hrelated
    obtain ⟨row, hrow, ha⟩ := hstores
    refine ⟨row, hrow, ?_⟩
    have horder := horder a ⟨row, hrow, ha⟩
    rw [htruth, ha]
    exact (Comparator.truth_dates_iff hcomparator horder _).2 hrelates

/-- Date literals follow time as far as their years are written in order. Two
literals have the same text if and only if they name the same second. Their
texts are in the order of time exactly if the years that they name in universal
time are the same or written in their order, and as long as this is so for the
dates that are stored, a comparison with a literal selects by time. -/
theorem date_comparisons (s : Setting) {literal other : String}
    {v w : BindValue} (hliteral : BindValue.parse .date literal = .ok v)
    (hother : BindValue.parse .date other = .ok w) :
    ∃ a b, v = .date a ∧ w = .date b
      ∧ (a.text = b.text ↔ a.SameSecond b)
      ∧ ((Text.bytes a.text < Text.bytes b.text ↔ a.Before b) ↔ a.InOrder b)
      ∧ ∀ p t, s.Compares p t → t.comparison.value = .date b →
        ∃ u, s.ofPredicate p false = .ok u ∧ ∀ db key, t.HoldsDates db key →
          (∀ stored, t.Stores db key stored →
            t.comparison.comparator = .eq ∨ stored.InOrder b) →
          (u.selection.Selects db key ↔ ∃ stored, t.Stores db key stored
            ∧ t.comparison.comparator.Relates stored b) := by
  obtain ⟨a, rfl⟩ := BindValue.exists_date_of_parse hliteral
  obtain ⟨b, rfl⟩ := BindValue.exists_date_of_parse hother
  refine ⟨a, b, rfl, rfl, a.text_eq_iff b, a.text_lt_iff_before_iff b,
    fun p t h hvalue => ?_⟩
  refine ⟨_, ofPredicate_of_compares h false, fun db key hdates horder => ?_⟩
  exact h.selects_date_iff hvalue hdates horder

end Setting

-- ============================================================ birthdays

namespace Births

/-- Noon on the first of March of the year 2024. -/
def noon : Instant :=
  { Instant.startOfDay ((Date.make? 2024 3 1).get rfl) with
    minute := 720, minute_lt := by decide }

/-- Half an hour before that day. -/
def eve : Instant :=
  { Instant.startOfDay ((Date.make? 2024 2 29).get rfl) with
    minute := 1410, minute_lt := by decide }

/-- A second before one o'clock in the year 10000. -/
def past : Instant :=
  { Instant.startOfDay ((Date.make? 10000 1 1).get rfl) with
    minute := 59, second := 59, minute_lt := by decide, second_le := by
      decide }

def born : Schema := { key := "born", type := .date }

def setting : Setting where
  kind := .user
  dialect := .generic
  directory := (MemoryDirectory.empty.addSchema born).directory
  realmField := CoreField.realmName

/-- A user who was born at noon. -/
def row : Row :=
  ⟨[(.anyId, .text "u1"), (.schemaId, .text "born"),
    (.dateValue, .text "2024-03-01T12:00:00Z")]⟩

def database : Database :=
  (Database.blank.withTable (.field .user)
    (some [⟨[(.anyId, .text "u1")]⟩])).withTable (.attribute .user)
    (some [row])

/-- Whoever was born since an instant. -/
def sinceTest (b : Instant) : ValueTest :=
  ⟨.attribute .user, some born,
    { column := .dateValue, comparator := .ge, value := .date b }⟩

end Births

open Births in
/-- A timestamp of the year 9999 whose offset moves it into the next year: a
user who was born before it is not found among those who were. -/
theorem offset_moves_past_all_dates :
    BindValue.parse .date "2024-03-01T12:00:00Z" = .ok (.date noon)
      ∧ BindValue.parse .date "9999-12-31T23:59:59-01:00" = .ok (.date past)
      ∧ past.text = "+10000-01-01T00:59:59Z" ∧ noon.Before past
      ∧ ¬ Text.bytes noon.text < Text.bytes past.text
      ∧ ∃ u, setting.ofPredicate
        (.attribute "born" .le (some "9999-12-31T23:59:59-01:00")) false
          = .ok u ∧ ¬ u.selection.Selects database "u1" := by
  have hpast : BindValue.parse .date "9999-12-31T23:59:59-01:00"
      = .ok (.date past) := rfl
  have hbefore : noon.Before past := by decide
  refine ⟨rfl, hpast, rfl, hbefore, ?_, ?_⟩
  · intro hless
    have hin :=
      (Instant.text_lt_iff_before_iff noon past).1 (iff_of_true hless hbefore)
    exact Instant.not_inOrder_of_past (by decide) (by decide) hin
  · have hfound : setting.directory.schema? "born" = .ok (some born) := rfl
    have hcompares : setting.Compares
        (.attribute "born" .le (some "9999-12-31T23:59:59-01:00")) _ :=
      .attribute hfound rfl (fun h => nomatch h) hpast
    refine ⟨_, Setting.ofPredicate_of_compares hcompares false, ?_⟩
    show Cell.text "u1" ∉ _
    decide

open Births in
/-- Noon of the first of March is later than half past midnight in a zone an
hour ahead, which is the evening before, and is found as later. -/
theorem date_comparisons_births :
    BindValue.parse .date "2024-03-01T12:00:00Z" = .ok (.date noon)
      ∧ BindValue.parse .date "2024-03-01 00:30:00+01:00" = .ok (.date eve)
      ∧ noon.text ≠ eve.text ∧ ¬ Text.bytes noon.text < Text.bytes eve.text
      ∧ ∃ u, setting.ofPredicate
        (.attribute "born" .ge (some "2024-03-01 00:30:00+01:00")) false
          = .ok u ∧ u.selection.Selects database "u1" := by
  have hnoon : BindValue.parse .date "2024-03-01T12:00:00Z"
      = .ok (.date noon) := rfl
  have heve : BindValue.parse .date "2024-03-01 00:30:00+01:00"
      = .ok (.date eve) := by
    rfl
  obtain ⟨a, b, ha, hb, hequal, hless, hselects⟩ :=
    Setting.date_comparisons setting hnoon heve
  cases ha
  cases hb
  have hafter : ¬ noon.Before eve := by decide
  have hfound : setting.directory.schema? "born" = .ok (some born) := rfl
  have hcompares : setting.Compares
      (.attribute "born" .ge (some "2024-03-01 00:30:00+01:00"))
        (sinceTest eve) :=
    .attribute hfound rfl (fun h => nomatch h) heve
  have hrows : (sinceTest eve).rowsOf database "u1" = [row] := by
    rfl
  have hborn : row.get .dateValue = .text noon.text := by rfl
  have hdates : (sinceTest eve).HoldsDates database "u1" := by
    intro r hr
    rw [hrows, List.mem_singleton] at hr
    rw [hr]
    exact .inr ⟨noon, hborn⟩
  have horder : ∀ stored, (sinceTest eve).Stores database "u1" stored →
      stored.InOrder eve := by
    intro stored hstored
    obtain ⟨r, hr, htext⟩ := hstored
    rw [hrows, List.mem_singleton] at hr
    have hsame : noon.text = stored.text := by
      rw [hr] at htext
      exact Cell.text.inj (hborn.symm.trans htext)
    have hdate :=
      (Instant.sameSecond_iff.1 ((noon.text_eq_iff stored).1 hsame)).1
    exact Instant.inOrder_of_four_digits (hdate ▸ by decide) (by decide)
  obtain ⟨u, hu, hkeys⟩ := hselects _ (sinceTest eve) hcompares rfl
  refine ⟨hnoon, heve, ?_, fun h => hafter ((hless.2 (.inl rfl)).1 h),
    u, hu, ?_⟩
  · rw [ne_eq, hequal]
    decide
  · refine (hkeys database "u1" hdates fun stored h =>
      .inr (horder stored h)).2 ⟨noon, ?_, hafter⟩
    exact ⟨row, hrows ▸ List.mem_cons_self, hborn⟩

end IdentitySearch
