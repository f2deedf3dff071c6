/-
Literals that differ in the case of letters. Where case does not count, a
comparison sees of its literal only the letters made small
(`Setting.truth_comparison_folded`), so two spellings of a literal select the
same identities. Whether a spelling is taken at all is another matter. A
pattern always is, and so is the literal of a text; but an enumeration takes
the values it lists in the letters in which it lists them, whatever the
operator makes of their case. There, and nowhere else, one of two spellings may
be refused (`Setting.spellings_select_alike`).

The two questions are kept apart. What a literal is compared as is decided by
the test alone, and two tests on one view that are alike in truth select alike
in both polarities (`ValueTest.cells_eq`). Whether there is a test at all is
decided by the schema and the operator (`Schema.read_text_iff`): a value passes
unless the schema restricts it (`Schema.Restricts`), and then it must be
listed. An enumeration that lists nothing restricts nothing.
-/
import IdentitySearch.Proofs.Selection.Comparisons

namespace IdentitySearch

open Outcome

-- ============================================================ literals

namespace Schema

variable {schema : Schema}

/-- An operator takes no other literals than the values that a schema lists. -/
def Restricts (schema : Schema) (op : Operator) : Prop :=
  op.isPattern = false ∧ schema.type = .enum ∧ schema.enumValues ≠ []

/-- What is taken is compared as it is written. -/
theorem read_text_iff (textual : schema.type.isTextual = true) (op : Operator)
    (literal : String) (value : BindValue) :
    (if op.isPattern then .ok (.text literal)
      else BindValue.forSchema schema literal) = .ok value
      ↔ value = .text literal
        ∧ (schema.Restricts op → literal ∈ schema.enumValues) := by
  have hread : BindValue.parse schema.type literal = .ok (.text literal) := by
    cases htype : schema.type with
    | string => exact BindValue.parse_string literal
    | enum => exact BindValue.parse_enum literal
    | boolean | date | double | long =>
      rw [htype] at textual
      cases textual
  have hwritten : (Except.ok (.text literal) : Except Error BindValue)
      = .ok value
      ↔ value = .text literal := by
    rw [Except.ok.injEq]
    exact eq_comm
  cases hpattern : op.isPattern with
  | true =>
    have hfree : ¬ schema.Restricts op :=
      fun h => by simp [Restricts, hpattern] at h
    simpa [hfree] using hwritten
  | false =>
    simp only [Bool.false_eq_true, if_false, Restricts, hpattern, true_and]
    unfold BindValue.forSchema
    split
    · next hout =>
      refine iff_of_false (fun h => nomatch h) fun h => ?_
      exact hout.2.2 (h.2 ⟨hout.1, hout.2.1⟩)
    · next hin =>
      rw [hread, hwritten, and_iff_left]
      intro hlists
      exact Classical.byContradiction fun hnot => hin ⟨hlists.1,
        hlists.2, hnot⟩

end Schema

-- =============================================================== tests

namespace ValueTest

variable {t t' : ValueTest} (hview : t.view = t'.view)
  (hschema : t.schema = t'.schema)
  (htruth : t.comparison.truth = t'.comparison.truth)

include hschema htruth in
/-- Conditions that give the same answer about every row come to the same
question. -/
theorem prepare_condition_eq (negate : Bool) (db : Database) :
    (t.condition negate).prepare db = (t'.condition negate).prepare db := by
  have hasked : (Atom.compare
      (if negate then t.comparison.negated else t.comparison)).prepare db
      = (Atom.compare (if negate then t'.comparison.negated
        else t'.comparison)).prepare db := by
    simp only [Atom.prepare, Test.mk.injEq]
    cases negate with
    | false => exact htruth
    | true =>
      funext row
      simp only [if_true, Comparison.truth_negated, htruth]
  unfold condition
  rw [← hschema]
  cases t.schema with
  | none => simp only [Formula.prepare, hasked]
  | some schema => simp only [Formula.prepare, hasked]

include hview hschema htruth in
/-- Tests of the same rows that answer alike select the same, negated or
not. -/
theorem cells_eq (s : Setting) (negate : Bool) (db : Database) :
    (if negate && t.isMultivalued then
      s.among true (.select true .anyId t.view (t.condition false))
      else t.selection negate).cells db
    = (if negate && t'.isMultivalued then
      s.among true (.select true .anyId t'.view (t'.condition false))
      else t'.selection negate).cells db := by
  have hprepared := prepare_condition_eq hschema htruth
  have hmultivalued : t.isMultivalued = t'.isMultivalued := by
    rw [isMultivalued, hschema, isMultivalued]
  rw [hmultivalued]
  cases negate && t'.isMultivalued with
  | true =>
    simp only [if_true, Selection.cells, Selection.query, Setting.among,
      Setting.identities, Selection.ofAtom, Query.cells, Formula.prepare,
        Atom.prepare, hview, hprepared]
  | false =>
    simp only [Bool.false_eq_true, if_false, Selection.cells, Selection.query,
      selection, Query.cells, hview, hprepared]

end ValueTest

-- ============================================================ spellings

namespace Setting

variable (s : Setting)

/-- A comparison in which case does not count sees of its literal the small
letters. -/
theorem truth_comparison_folded {op : Operator}
    (folds : op.ignoresCase = true) {literal other : String}
    (hcase : Text.sameIgnoringCase literal other = true) (column : Column)
    (negate : Bool) :
    (s.comparison column op (.text literal) negate true).truth
      = (s.comparison column op (.text other) negate true).truth := by
  have hlower : Text.lower literal = Text.lower other := by
    simpa [Text.sameIgnoringCase] using hcase
  funext row
  simp only [Comparison.truth, comparison, folds, Bool.and_true, if_true,
    Cell.ofValue, Cell.lowered, Cell.text?, hlower]

/-- A comparison of an attribute is compiled only if its literal is read. -/
theorem exists_read_of_ofAttribute {subject text : String}
    {op : Operator} {schema : Schema}
    {negate : Bool} {t : Selection} (compares : op.isNullCheck = false)
    (fits : op.isPattern = true → schema.type.isTextual = true)
    (h : s.ofAttribute schema subject op (some text) negate = .ok t) :
    ∃ value, (if op.isPattern then .ok (.text text)
      else BindValue.forSchema schema text)
      = .ok value := by
  unfold ofAttribute at h
  simp only [compares, not_unfit fits] at h
  obtain ⟨_, hliteral, h⟩ := bind_eq_ok.1 h
  cases hliteral
  cases hp : op.isPattern
  all_goals
    simp only [hp, if_true, Bool.false_eq_true, if_false] at h ⊢
    obtain ⟨value, hvalue, -⟩ := bind_eq_ok.1 h
    exact ⟨value, hvalue⟩

/-- The test that a comparison with a literal as it is written comes to. -/
def spellingTest (schema : Schema) (op : Operator)
    (literal : String) : ValueTest :=
  ⟨.attributes s.kind schema.unique, some schema,
    s.comparison schema.type.column op
      (.text literal) false schema.type.isTextual⟩

section spellings

variable {s} {key : String} {schema : Schema} {op : Operator}
  (found : s.directory.schema? key = .ok (some schema))
  (textual : schema.type.isTextual = true) (folds : op.ignoresCase = true)

include folds in
theorem compares_of_folds : op.isNullCheck = false := by
  cases op <;> first | rfl | cases folds

include found textual folds in
/-- A spelling that is taken is compared as it is written. -/
theorem compares_spelling {literal : String}
    (h : schema.Restricts op → literal ∈ schema.enumValues) :
    s.Compares (.attribute key op (some literal))
      (s.spellingTest schema op literal) :=
  .attribute found (compares_of_folds folds) (fun _ => textual)
    ((Schema.read_text_iff textual op literal _).2 ⟨rfl, h⟩)

include found textual folds in
/-- A comparison that does not look at case is compiled exactly if its literal
may stand there. -/
theorem exists_spelling_iff (literal : String) (negate : Bool) :
    (∃ u, s.ofPredicate (.attribute key op (some literal)) negate = .ok u)
      ↔ (schema.Restricts op → literal ∈ schema.enumValues) := by
  constructor
  · intro h
    obtain ⟨u, h⟩ := h
    obtain ⟨own, hown, h⟩ := bind_eq_ok.1 h
    rw [found] at hown
    cases hown
    obtain ⟨t, ht, -⟩ := bind_eq_ok.1 h
    obtain ⟨value, hread⟩ :=
      s.exists_read_of_ofAttribute (compares_of_folds folds)
        (fun _ => textual) ht
    exact ((Schema.read_text_iff textual op literal value).1 hread).2
  · intro h
    exact ⟨_,
      ofPredicate_of_compares (compares_spelling found textual folds h) negate⟩

include found textual folds in
/-- Where case does not count, two spellings of a literal select the same
identities, negated or not. Both may stand there unless the schema is an
enumeration that lists its values and they are compared as a whole: then those
may that are listed. -/
theorem spellings_select_alike {literal other : String}
    (hcase : Text.sameIgnoringCase literal other = true) (negate : Bool) :
    (∀ text,
      (∃ u, s.ofPredicate (.attribute key op (some text)) negate = .ok u)
        ↔ (schema.Restricts op → text ∈ schema.enumValues))
      ∧ ∀ u, s.ofPredicate (.attribute key op (some literal)) negate = .ok u →
        ∀ u', s.ofPredicate (.attribute key op (some other)) negate = .ok u' →
          u.schema = u'.schema
            ∧ ∀ db : Database, u.selection.cells db = u'.selection.cells db := by
  have hcompiled :=
    fun text => exists_spelling_iff found textual folds text negate
  refine ⟨hcompiled, fun u hu u' hu' => ?_⟩
  have hcompares :=
    compares_spelling found textual folds ((hcompiled literal).1 ⟨u, hu⟩)
  have hcompares' :=
    compares_spelling found textual folds ((hcompiled other).1 ⟨u', hu'⟩)
  cases hu.symm.trans (ofPredicate_of_compares hcompares negate)
  cases hu'.symm.trans (ofPredicate_of_compares hcompares' negate)
  have hview : (s.spellingTest schema op literal).view
      = (s.spellingTest schema op other).view :=
    rfl
  have hschema : (s.spellingTest schema op literal).schema
      = (s.spellingTest schema op other).schema := rfl
  have htruth : (s.spellingTest schema op literal).comparison.truth
      = (s.spellingTest schema op other).comparison.truth := by
    simp only [spellingTest, textual]
    exact s.truth_comparison_folded folds hcase _ false
  exact ⟨hschema, ValueTest.cells_eq hview hschema htruth s negate⟩

end spellings

end Setting

-- ============================================================ colours

namespace Spelled

/-- A text without fixed values. -/
def nick : Schema := { key := "nick", type := .string }

/-- An enumeration that lists one of its values twice, in two spellings. -/
def paint : Schema :=
  { key := "paint", type := .enum, enumValues := ["red", "Red"] }

def setting : Setting where
  kind := .user
  dialect := .generic
  directory :=
    ((MemoryDirectory.empty.addSchema nick).addSchema paint).directory
  realmField := CoreField.realmName

/-- Two users, of whom one has a name and the other a colour. -/
def database : Database :=
  (Database.blank.withTable (.field .user)
    (some [⟨[(.anyId, .text "u1")]⟩, ⟨[(.anyId, .text "u2")]⟩])).withTable
    (.attribute .user)
    (some [⟨[(.anyId, .text "u1"), (.schemaId, .text "nick"),
        (.stringValue, .text "Annie")]⟩,
      ⟨[(.anyId, .text "u2"), (.schemaId, .text "paint"),
        (.stringValue, .text "RED")]⟩])

end Spelled

open Spelled in
/-- A colour is refused in capitals, also where case does not count, and taken
in the letters in which it is listed. -/
theorem enumeration_refuses_spelling :
    setting.directory.schema? "paint" = .ok (some paint)
      ∧ paint.type.isTextual = true
      ∧ Operator.ieq.ignoresCase = true
      ∧ Text.sameIgnoringCase "red" "RED" = true
      ∧ (∃ u, setting.ofPredicate
        (.attribute "paint" .ieq (some "red")) false = .ok u
          ∧ u.selection.Selects database "u2")
      ∧ setting.ofPredicate (.attribute "paint" .ieq (some "RED")) false
          = .error (.unlistedLiteral "RED" "paint" ["red", "Red"]) := by
  refine ⟨rfl, rfl, rfl, rfl, ⟨_, rfl, ?_⟩, rfl⟩
  show Cell.text "u2" ∈ _
  decide

open Spelled in
/-- Names are found in capitals as in small letters, in a pattern too; of a
colour two spellings are listed and taken, and the third one is not. -/
theorem spellings_select_alike_names_and_colours :
    Text.sameIgnoringCase "ann%" "ANN%" = true
      ∧ (∃ u u', setting.ofPredicate
        (.attribute "nick" .ilike (some "ann%")) false = .ok u
        ∧ setting.ofPredicate (.attribute "nick" .ilike (some "ANN%")) false
          = .ok u'
        ∧ u.selection.cells database = u'.selection.cells database
        ∧ u'.selection.cells database = [.text "u1"])
      ∧ (∃ u u',
        setting.ofPredicate (.attribute "paint" .ieq (some "red")) true = .ok u
        ∧ setting.ofPredicate (.attribute "paint" .ieq (some "Red")) true
          = .ok u'
        ∧ u.selection.cells database = u'.selection.cells database)
      ∧ ¬ ∃ u, setting.ofPredicate (.attribute "paint" .ieq (some "RED")) true
        = .ok u := by
  have hnick : setting.directory.schema? "nick" = .ok (some nick) := rfl
  have hpaint : setting.directory.schema? "paint" = .ok (some paint) := rfl
  have hname : Text.sameIgnoringCase "ann%" "ANN%" = true := rfl
  have hcolour : Text.sameIgnoringCase "red" "Red" = true := rfl
  have hilike : Operator.ilike.ignoresCase = true := rfl
  have hieq : Operator.ieq.ignoresCase = true := rfl
  have hpattern : ¬ nick.Restricts .ilike := fun h => nomatch h.1
  obtain ⟨hnames, hsame⟩ :=
    Setting.spellings_select_alike hnick rfl hilike hname false
  obtain ⟨hcolours, halike⟩ :=
    Setting.spellings_select_alike hpaint rfl hieq hcolour true
  refine ⟨hname, ?_, ?_, ?_⟩
  · obtain ⟨u, hu⟩ := (hnames "ann%").2 fun h => absurd h hpattern
    obtain ⟨u', hu'⟩ := (hnames "ANN%").2 fun h => absurd h hpattern
    refine ⟨u, u', hu, hu', (hsame u hu u' hu').2 database, ?_⟩
    cases hu'
    decide
  · obtain ⟨u, hu⟩ := (hcolours "red").2 fun _ => by decide
    obtain ⟨u', hu'⟩ := (hcolours "Red").2 fun _ => by decide
    exact ⟨u, u', hu, hu', (halike u hu u' hu').2 database⟩
  · intro h
    have hlisted := (hcolours "RED").1 h ⟨rfl, rfl, by decide⟩
    revert hlisted
    decide

end IdentitySearch
