/-
What comparisons select. A comparison is a question about the rows that hold a
value: the rows of a view, or those of them that are of one attribute
(`ValueTest`). It is answered unless a NULL is compared, and with the
comparator turned round the answer is the opposite one
(`Comparison.truth_negated`).

So negation by the comparator divides those who have something to compare, and
nobody else: an identity that is without the attribute, or whose column is
NULL, is selected by neither of the two (`comparisons_divide`).

# From truth values to selections

- Truth has three values. That a comparison is unknown exactly where one side
  is NULL is followed through everything that is done to the sides before they
  are compared: folding to lower case, reading numbers, and the affinity of the
  column (`comparand_eq_null_iff`). None of them makes a NULL of something
  else.
- `Setting.Compares` says which test a predicate is compiled to: by an
  attribute or by a core field, with a literal that can be read. Both ways of
  compiling end in the same selection (`ofPredicate_of_compares`).
- Whom it selects is then a statement about the rows of one identity
  (`ValueTest.selects_iff`), and with one row at most nobody is on both sides
  (`not_selects_both`).
-/
import IdentitySearch.Directory.Memory
import IdentitySearch.Proofs.Selection.Holders

namespace IdentitySearch

open Outcome

-- ================================================================ truth

theorem Comparator.truth_inverse (escape : Option Char) (c : Comparator)
    (a b : Cell) :
    c.inverse.truth escape a b = (c.truth escape a b).not := by
  cases c <;> simp only [inverse, truth, Truth.not_not]

/-- Cells are compared unless one of them is NULL, -/
theorem Cell.compareWith_eq_unknown_iff {test : Cell → Cell → Bool}
    {a b : Cell} :
    compareWith test a b = .unknown ↔ a = .null ∨ b = .null := by
  unfold compareWith
  by_cases h : a = .null ∨ b = .null
  · rw [if_pos h]
    exact iff_of_true rfl h
  · rw [if_neg h]
    refine iff_of_false ?_ h
    cases test a b <;> exact Truth.noConfusion

/-- as every other cell has a text, -/
theorem Cell.text?_eq_none_iff {c : Cell} : c.text? = none ↔ c = .null := by
  cases c <;> simp [text?]

/-- by which it is like a pattern or not. -/
theorem Cell.isLike_eq_unknown_iff {escape : Option Char} {a b : Cell} :
    a.isLike escape b = .unknown ↔ a = .null ∨ b = .null := by
  rw [← text?_eq_none_iff, ← text?_eq_none_iff (c := b)]
  unfold isLike
  cases a.text? with
  | none => simp
  | some s =>
    cases b.text? with
    | none => simp
    | some p =>
      cases hlike : Pattern.isLike escape p s <;> simp [hlike, Truth.ofBool]

theorem Truth.not_eq_unknown {t : Truth} :
    t.not = .unknown ↔ t = .unknown := by
  cases t <;> simp [Truth.not]

/-- A comparator says nothing exactly if one side is NULL. -/
theorem Comparator.truth_eq_unknown_iff {escape : Option Char} {c : Comparator}
    {a b : Cell} :
    c.truth escape a b = .unknown ↔ a = .null ∨ b = .null := by
  cases c <;> simp only [truth, Cell.equals, Truth.not_eq_unknown,
    Cell.compareWith_eq_unknown_iff, Cell.isLike_eq_unknown_iff]
  -- where the sides are swapped
  all_goals exact or_comm

/-- Folding makes no NULL. -/
theorem Cell.lowered_eq_null_iff {c : Cell} :
    c.lowered = .null ↔ c = .null := by
  rw [← text?_eq_none_iff (c := c)]
  unfold lowered
  cases c.text? <;> simp

/-- What a text writes is a number. -/
theorem Cell.ne_null_of_readNumber? {s : String} {c : Cell}
    (h : readNumber? s = some c) :
    c ≠ .null := by
  unfold readNumber? at h
  simp only at h
  split at h
  · cases h
    exact Cell.noConfusion
  · obtain ⟨d, -, rfl⟩ := Option.map_eq_some_iff.1 h
    exact Cell.noConfusion

/-- Reading a number makes no NULL either. -/
theorem Cell.numeric_eq_null_iff {c : Cell} :
    c.numeric = .null ↔ c = .null := by
  cases c with
  | null | integer n | real x => exact Iff.rfl
  | text s =>
    refine iff_of_false ?_ Cell.noConfusion
    show (readNumber? s).getD (.text s) ≠ .null
    cases hread : readNumber? s with
    | none => exact Cell.noConfusion
    | some c => exact ne_null_of_readNumber? hread

/-- No affinity makes NULL of a value, or a value of NULL. -/
theorem Cell.comparand_eq_null_iff {affinity : Affinity} {c : Cell} :
    c.comparand affinity = .null ↔ c = .null := by
  cases affinity with
  | text =>
    show c.stored .text = .null ↔ _
    rw [← text?_eq_none_iff (c := c), stored]
    cases c.text? <;> simp
  | integer | real => exact numeric_eq_null_iff

namespace Comparison

/-- The comparison with its comparator turned round. -/
def negated (c : Comparison) : Comparison :=
  { c with comparator := c.comparator.inverse }

/-- A comparison is negated by its comparator, folded or not. -/
theorem truth_negated (c : Comparison) (row : Row) :
    c.negated.truth row = (c.truth row).not := by
  unfold truth negated
  by_cases hfolded : c.folded = true
  · simp only [hfolded, if_true]
    exact Comparator.truth_inverse _ _ _ _
  · simp only [hfolded]
    exact Comparator.truth_inverse _ _ _ _

/-- A comparison says nothing about a row exactly if the column or the value is
NULL. -/
theorem truth_eq_unknown_iff {c : Comparison} {row : Row} :
    c.truth row = .unknown
      ↔ row.get c.column = .null ∨ Cell.ofValue c.value = .null := by
  unfold truth
  by_cases hfolded : c.folded = true
  · simp only [hfolded, if_true]
    rw [Comparator.truth_eq_unknown_iff, Cell.lowered_eq_null_iff,
      Cell.lowered_eq_null_iff]
  · simp only [hfolded]
    exact Comparator.truth_eq_unknown_iff.trans
      (or_congr_right Cell.comparand_eq_null_iff)

end Comparison

-- =============================================================== values

/-- What a comparison comes to: the view that holds the values, the attribute
whose rows are meant if it is one, and the question about each of them. -/
structure ValueTest where
  view : View
  schema : Option Schema
  comparison : Comparison

namespace ValueTest

variable (t : ValueTest) (db : Database)

/-- The rows of an identity that a comparison is about. -/
def rowsOf (key : String) : List Row :=
  (db.rows t.view).filter fun row =>
    row.get .anyId = .text key
      ∧ ∀ schema ∈ t.schema, row.get .schemaId = .text schema.key

/-- An identity has something to compare, and there is something to compare it
with. -/
def Comparable (key : String) : Prop :=
  Cell.ofValue t.comparison.value ≠ .null
    ∧ ∃ row ∈ t.rowsOf db key, row.get t.comparison.column ≠ .null

/-- Whether an identity may have several values. -/
def isMultivalued : Bool :=
  t.schema.any Schema.multivalue

/-- The condition on a row, or the one with the comparator turned round. -/
def condition (negate : Bool) : Formula :=
  let asked :=
    Atom.compare (if negate then t.comparison.negated else t.comparison)
  match t.schema with
  | none => .atom asked
  | some schema =>
    .join (.atom (Setting.keyIs .schemaId schema.key)) .and asked

/-- The identities with a row on which the condition holds. -/
def selection (negate : Bool) : Selection :=
  ⟨t.view, t.condition negate⟩

theorem mem_rowsOf {key : String} {row : Row} :
    row ∈ t.rowsOf db key ↔ row ∈ db.rows t.view ∧ row.get .anyId = .text key
      ∧ ∀ schema ∈ t.schema, row.get .schemaId = .text schema.key := by
  simp [rowsOf]

/-- The condition of a test holds of the rows of the attribute that answer it
as asked. -/
theorem holds_condition (negate : Bool) (row : Row) :
    (t.condition negate).Holds db row ↔
      (∀ schema ∈ t.schema, row.get .schemaId = .text schema.key)
        ∧ t.comparison.truth row = .ofBool (!negate) := by
  have hasked : (Atom.compare
      (if negate then t.comparison.negated else t.comparison)).Holds db row
      ↔ t.comparison.truth row = .ofBool (!negate) := by
    cases negate with
    | false => exact Iff.rfl
    | true =>
      show t.comparison.negated.truth row = .holds
          ↔ t.comparison.truth row = .fails
      rw [Comparison.truth_negated, Truth.not_eq_holds]
  unfold condition
  cases t.schema with
  | none => simp [Formula.holds_atom, hasked]
  -- of an attribute the rows are marked with it, and the condition asks for
  -- the mark first
  | some schema =>
    have hschema := Setting.holds_keyIs db
        (show Column.affinity .schemaId = .text from rfl) schema.key row
    simp only [Formula.holds_and db
      (show (Formula.atom _).isRun = true from rfl), Formula.holds_atom,
        hschema, hasked, Option.mem_def, Option.some.injEq, forall_eq']

/-- Selected are those with a row that answers the comparison so, and not
otherwise. -/
theorem selects_iff (negate : Bool) (key : String) :
    (t.selection negate).Selects db key
      ↔ ∃ row ∈ t.rowsOf db key,
        t.comparison.truth row = .ofBool (!negate) := by
  rw [Selection.selects_iff]
  simp only [selection, holds_condition, mem_rowsOf]
  constructor
  · intro h
    rcases h with ⟨row, hrow, ⟨hschema, htruth⟩, hkey⟩
    exact ⟨row, ⟨hrow, hkey, hschema⟩, htruth⟩
  · intro h
    rcases h with ⟨row, ⟨hrow, hkey, hschema⟩, htruth⟩
    exact ⟨row, hrow, ⟨hschema, htruth⟩, hkey⟩

/-- Selected by a comparison or by its negation are those who have something to
compare. -/
theorem selects_or_iff (key : String) :
    (t.selection false).Selects db key ∨ (t.selection true).Selects db key
      ↔ t.Comparable db key := by
  have hknown : ∀ row,
      (t.comparison.truth row = .holds ∨ t.comparison.truth row = .fails)
      ↔ ¬ t.comparison.truth row = .unknown := by
    intro row
    cases t.comparison.truth row <;> simp
  rw [selects_iff, selects_iff, Comparable]
  simp only [← exists_or, ← and_or_left]
  show (∃ row, row ∈ t.rowsOf db key
    ∧ (t.comparison.truth row = .holds ∨ t.comparison.truth row = .fails)) ↔ _
  simp only [hknown, Comparison.truth_eq_unknown_iff, not_or]
  constructor
  · intro h
    rcases h with ⟨row, hrow, hcolumn, hvalue⟩
    exact ⟨hvalue, row, hrow, hcolumn⟩
  · intro h
    rcases h with ⟨hvalue, row, hrow, hcolumn⟩
    exact ⟨row, hrow, hcolumn, hvalue⟩

/-- Where there is one row at most, nobody is selected by both. -/
theorem not_selects_both {key : String} (h : (t.rowsOf db key).length ≤ 1) :
    ¬ ((t.selection false).Selects db key
      ∧ (t.selection true).Selects db key) := by
  intro hboth
  obtain ⟨row, hrow, hholds⟩ := (t.selects_iff db false key).1 hboth.1
  obtain ⟨other, hother, hfails⟩ := (t.selects_iff db true key).1 hboth.2
  have hsame : row = other := by
    match hrows : t.rowsOf db key, h with
    | [], _ => rw [hrows] at hrow; cases hrow
    | [only], _ =>
      rw [hrows, List.mem_singleton] at hrow hother
      rw [hrow, hother]
    | _ :: _ :: _, h => simp at h
  rw [hsame, hfails] at hholds
  cases hholds

end ValueTest

-- ============================================================= lowering

/-- A core field is stored as the values of attributes of its type are. -/
theorem CoreField.affinity_eq {kind : Kind} {name : String} {field : CoreField}
    (h : kind.field? name = some field) :
    field.column.affinity = field.type.column.affinity := by
  have hall : ∀ f ∈ kind.fields,
      f.column.affinity = f.type.column.affinity := by
    cases kind <;> decide
  exact hall field (List.mem_of_find?_eq_some h)

namespace Setting

variable (s : Setting)

/-- A comparison is in order: it names an attribute or a core field, its
operator fits the type, and its literal is read as a value. -/
inductive Compares : Predicate → ValueTest → Prop
  | «attribute» {key text : String} {op : Operator} {schema : Schema}
      {value : BindValue}
      (found : s.directory.schema? key = .ok (some schema))
      (compares : op.isNullCheck = false)
      (fits : op.isPattern = true → schema.type.isTextual = true)
      (read : (if op.isPattern then .ok (.text text)
        else BindValue.forSchema schema text)
        = .ok value) :
    Compares (.attribute key op (some text)) ⟨.attributes s.kind schema.unique,
      some schema,
        s.comparison schema.type.column op value false schema.type.isTextual⟩
  | field {name text : String} {op : Operator} {field : CoreField}
      {value : BindValue} (found : s.kind.field? name = some field)
      (compares : op.isNullCheck = false) (fits : op.isPattern = true →
        field.type.isTextual = true) (read : s.fieldValue field op text
          = .ok value) : Compares (.field name op (some text)) ⟨s.fieldView,
        none, s.comparison field.column op value false field.type.isTextual⟩

/-- A negated comparison is the comparison with its comparator turned round. -/
theorem comparison_negate (column : Column) (op : Operator) (value : BindValue)
    (negate textual : Bool) :
    s.comparison column op value negate textual
      = if negate then (s.comparison column op value false textual).negated
        else s.comparison column op value false textual := by
  cases negate <;> rfl

/-- A literal that is no pattern, or one for texts, is compared. -/
theorem not_unfit {op : Operator} {type : ValueType}
    (fits : op.isPattern = true → type.isTextual = true) :
    (op.isPattern && !type.isTextual) = false := by
  cases hp : op.isPattern with
  | false => rfl
  | true => rw [fits hp]; rfl

/-- A comparison of an attribute is compiled, and negated as a whole if there
are several values. -/
theorem ofAttribute_of_reads {subject text : String} {op : Operator}
    {schema : Schema} {value : BindValue} (compares : op.isNullCheck = false)
    (fits : op.isPattern = true → schema.type.isTextual = true)
    (read : (if op.isPattern then .ok (.text text)
      else BindValue.forSchema schema text)
      = .ok value) (negate : Bool) :
    s.ofAttribute schema subject op (some text) negate
      = .ok (if negate && schema.multivalue then
          s.among true (.select true .anyId (.attributes s.kind schema.unique)
            (.join (.atom (keyIs .schemaId schema.key)) .and (.compare
              (s.comparison schema.type.column op value false
                schema.type.isTextual))))
        else ⟨.attributes s.kind schema.unique,
          .join (.atom (keyIs .schemaId schema.key)) .and
          (.compare (s.comparison schema.type.column op value negate
            schema.type.isTextual))⟩) := by
  unfold ofAttribute
  simp only [compares, not_unfit fits]
  refine bind_eq_ok.2 ⟨text, rfl, ?_⟩
  -- a pattern is the literal as it is, anything else is read
  cases hp : op.isPattern
  all_goals
    simp only [hp, if_true, Bool.false_eq_true, if_false] at read ⊢
    rw [read]
    cases hwhole : negate && schema.multivalue <;> rfl

/-- A comparison of a core field is compiled. -/
theorem field_of_reads {name text : String} {op : Operator} {field : CoreField}
    {value : BindValue} (found : s.kind.field? name = some field)
    (compares : op.isNullCheck = false)
    (fits : op.isPattern = true → field.type.isTextual = true)
    (read : s.fieldValue field op text = .ok value) (negate : Bool) :
    s.field name op (some text) negate = .ok (s.identities (.compare
      (s.comparison field.column op value negate field.type.isTextual))) := by
  unfold Setting.field
  simp only [found, compares, not_unfit fits]
  exact bind_eq_ok.2 ⟨text, rfl, bind_eq_ok.2 ⟨value, read, rfl⟩⟩

variable {s} {p : Predicate} {t : ValueTest}

/-- A comparison in order is compiled. Its negation turns the comparator round,
except that an attribute of several values is negated as a whole. -/
theorem ofPredicate_of_compares (h : s.Compares p t) (negate : Bool) :
    s.ofPredicate p negate = .ok ⟨if negate && t.isMultivalued then
      s.among true (.select true .anyId t.view (t.condition false))
      else t.selection negate, t.schema⟩ := by
  cases h with
  | «attribute» found compares fits read =>
    rename_i key text op schema value
    show attributeNamed s key op (some text) negate = _
    unfold attributeNamed
    rw [found]
    refine bind_eq_ok.2 ⟨_, rfl,
      bind_eq_ok.2 ⟨_, ofAttribute_of_reads s compares fits read negate, ?_⟩⟩
    rw [comparison_negate s _ _ _ negate]
    rfl
  | field found compares fits read =>
    refine map_eq_ok.2 ⟨_,
      field_of_reads s found compares fits read negate, ?_⟩
    rw [comparison_negate s _ _ _ negate]
    cases negate <;> rfl

/-- A comparison that is negated by its comparator, and its negation: those who
have something to compare are selected by one of the two, and nobody else is.
Whoever has one value at most is not selected by both. -/
theorem comparisons_divide (db : Database) (h : s.Compares p t)
    (hsingle : t.isMultivalued = false) :
    ∃ asked negated, s.ofPredicate p false = .ok asked
      ∧ s.ofPredicate p true = .ok negated
      ∧ (∀ key, asked.selection.Selects db key
        ∨ negated.selection.Selects db key
          ↔ t.Comparable db key)
      ∧ ∀ key, (t.rowsOf db key).length ≤ 1 →
          ¬ (asked.selection.Selects db key
            ∧ negated.selection.Selects db key) := by
  have hnegated := ofPredicate_of_compares h true
  rw [hsingle, Bool.and_false, if_neg Bool.false_ne_true] at hnegated
  refine ⟨_, _, ofPredicate_of_compares h false, hnegated, fun key => ?_,
    fun key hone => ?_⟩
  · exact t.selects_or_iff db key
  · exact t.not_selects_both db hone

end Setting

-- ========================================================== one address

namespace OneAddress

/-- Two users, of whom one has an e-mail address and a status and the other
neither. -/
def database : Database :=
  (Database.blank.withTable (.field .user)
    (some [⟨[(.anyId, .text "u1"), (.status, .text "active")]⟩,
      ⟨[(.anyId, .text "u2")]⟩])).withTable (.attribute .user)
    (some [⟨[(.anyId, .text "u1"), (.schemaId, .text "email"),
      (.stringValue, .text "ann@x")]⟩])

/-- An attribute of one value. -/
def email : Schema := { key := "email", type := .string }

def setting : Setting where
  kind := .user
  dialect := .generic
  directory := (MemoryDirectory.empty.addSchema email).directory
  realmField := CoreField.realmName

/-- The e-mail address that is asked for. -/
def byEmail : Predicate := .attribute "email" .eq (some "ann@x")

def emailTest : ValueTest :=
  ⟨.attribute .user, some email,
    { column := .stringValue, comparator := .eq, value := .text "ann@x" }⟩

/-- The status that is asked for. -/
def byStatus : Predicate := .field "status" .eq (some "active")

def statusTest : ValueTest :=
  ⟨.field .user, none,
    { column := .status, comparator := .eq, value := .text "active" }⟩

/-- An attribute is compared in the view of attributes, -/
theorem compares_byEmail : setting.Compares byEmail emailTest := by
  have hfound : setting.directory.schema? "email" = .ok (some email) := rfl
  have hread : BindValue.forSchema email "ann@x" = .ok (.text "ann@x") := rfl
  exact .attribute hfound rfl (fun h => nomatch h) hread

/-- and a core field in that of the core fields. -/
theorem compares_byStatus : setting.Compares byStatus statusTest := by
  have hfound : setting.kind.field? "status"
      = some { name := "status", column := .status, type := .string } := rfl
  have hread : BindValue.parse .string "active" = .ok (.text "active") := rfl
  exact .field hfound rfl (fun h => nomatch h) hread

end OneAddress

open OneAddress in
/-- A user without an e-mail address is neither among those who have this one
nor among those who have not. -/
theorem absent_value_on_neither_side :
    database.Identified ∧ database.Lists setting.fieldView "u2"
      ∧ setting.Compares byEmail emailTest ∧ emailTest.isMultivalued = false
      ∧ (∀ key, (emailTest.rowsOf database key).length ≤ 1)
      ∧ ∃ asked negated, setting.ofPredicate byEmail false = .ok asked
          ∧ setting.ofPredicate byEmail true = .ok negated
          ∧ ¬ asked.selection.Selects database "u2"
          ∧ ¬ negated.selection.Selects database "u2" := by
  refine ⟨by decide, by decide, compares_byEmail, rfl,
    fun key => ?_, ?_⟩
  · exact Nat.le_trans (List.length_filter_le _ _) (by decide)
  · refine ⟨_, _, rfl, rfl, ?_, ?_⟩
    · show Cell.text "u2" ∉ _
      decide
    · show Cell.text "u2" ∉ _
      decide

open OneAddress in
/-- Who is active is found by asking for it or for the opposite, and not by
both; who has no status is found by neither. -/
theorem comparisons_divide_one_address :
    setting.Compares byStatus statusTest ∧ statusTest.isMultivalued = false
      ∧ (statusTest.rowsOf database "u1").length ≤ 1
      ∧ ∃ asked negated, setting.ofPredicate byStatus false = .ok asked
          ∧ setting.ofPredicate byStatus true = .ok negated
          ∧ (asked.selection.Selects database "u1"
            ∨ negated.selection.Selects database "u1")
          ∧ ¬ (asked.selection.Selects database "u1"
            ∧ negated.selection.Selects database "u1")
          ∧ ¬ (asked.selection.Selects database "u2"
            ∨ negated.selection.Selects database "u2") := by
  have hone : (statusTest.rowsOf database "u1").length ≤ 1 := by decide
  have hann : statusTest.Comparable database "u1" := by
    refine ⟨by decide, ⟨[(.anyId, .text "u1"), (.status, .text "active")]⟩,
      ?_, by decide⟩
    decide
  have hbob : ¬ statusTest.Comparable database "u2" := by
    rintro ⟨-, row, hrow, hnull⟩
    revert row
    decide
  obtain ⟨asked, negated, hasked, hnegated, hunion, hboth⟩ :=
    Setting.comparisons_divide database compares_byStatus rfl
  exact ⟨compares_byStatus, rfl, hone, asked, negated, hasked, hnegated,
    (hunion "u1").2 hann, hboth "u1" hone, fun h => hbob ((hunion "u2").1 h)⟩

end IdentitySearch
