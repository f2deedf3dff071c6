/-
Schemas put into a table and read back. Everything but the values of an
enumeration comes back as it was. The values share one column, and what is read
from it is what remains of each value on its own
(`SchemaRow.readValues_storedValues`): the value falls apart at its semicolons,
the pieces lose the blanks at their ends, and the empty ones are gone. So a
schema comes back unchanged exactly if this leaves its values alone, and
otherwise an enumeration takes other literals than before
(`Metadata.stored_schema_reads_back`).

- Of blanks all that is used is that a text is trimmed if it neither begins nor
  ends with one, and that trimming leaves such a text alone
  (`Text.trim_eq_self_iff`).
- A separator splits a text as it splits its two sides, hence reading goes
  value by value (`readValues_append`, and the values by induction from there).
- What comes back always survives (`survives_of_mem_readValues`), and what
  survives comes back (`readValues_of_survives`). A list can therefore only
  come back unchanged if each of its values does, since a value that does not
  survive cannot be in what is read.
- An enumeration that lost a value or gained one differs in a literal that it
  takes; there is always one it does not take (`Schema.exists_unlisted`).
-/
import Mathlib.Data.Fintype.EquivFin
import Mathlib.Data.List.DropRight
import IdentitySearch.Directory.Metadata
import IdentitySearch.Value
import IdentitySearch.Proofs.Outcome
import IdentitySearch.Proofs.Text.Pieces

namespace IdentitySearch

open Outcome

-- ================================================================ blanks

namespace Text

/-- No blank stands at either end. -/
def Trimmed (cs : List Char) : Prop :=
  cs.head?.any isBlank = false ∧ cs.getLast?.any isBlank = false

instance (cs : List Char) : Decidable (Trimmed cs) :=
  inferInstanceAs (Decidable (_ ∧ _))

/-- A trimmed text is a beginning of what is left without the blanks in
front, -/
theorem trim_isPrefix (cs : List Char) : trim cs <+: cs.dropWhile isBlank :=
  List.rdropWhile_prefix isBlank _

/-- is a part of the text, -/
theorem trim_sublist (cs : List Char) : (trim cs).Sublist cs :=
  (trim_isPrefix cs).sublist.trans (List.dropWhile_sublist isBlank)

/-- and has blanks at neither end. -/
theorem trimmed_trim (cs : List Char) : Trimmed (trim cs) := by
  constructor
  · cases htrim : trim cs with
    | nil => rfl
    | cons c rest =>
      obtain ⟨more, hmore⟩ := trim_isPrefix cs
      have hfirst := List.head?_dropWhile_not isBlank cs
      rw [← hmore, htrim] at hfirst
      simpa using hfirst
  · rw [Option.any_eq_false]
    intro c hc
    have hne : trim cs ≠ [] := fun h => by simp [h] at hc
    rw [List.getLast?_eq_some_getLast hne, Option.some_inj] at hc
    rw [← hc, Bool.eq_false_iff]
    exact List.rdropWhile_last_not isBlank _ hne

/-- Trimming leaves alone what has no blank at its ends, and nothing else. -/
theorem trim_eq_self_iff : trim cs = cs ↔ Trimmed cs := by
  constructor
  · intro h
    rw [← h]
    exact trimmed_trim cs
  · intro h
    cases cs with
    | nil => rfl
    | cons c rest =>
      have hstart : (c :: rest).dropWhile isBlank = c :: rest := by
        have hc : isBlank c = false := h.1
        simp [hc]
      show ((c :: rest).dropWhile isBlank).rdropWhile isBlank = c :: rest
      rw [hstart, List.rdropWhile_eq_self_iff]
      intro hne
      have hlast := h.2
      rw [List.getLast?_eq_some_getLast hne] at hlast
      simpa using hlast

end Text

-- ================================================================ values

namespace SchemaRow

/-- A value that comes back from a column of several values as it was put in:
there is something of it, without a semicolon and without blanks at its
ends. -/
structure Survives (value : String) : Prop where
  ne_empty : value.toList ≠ []
  unmarked : ';' ∉ value.toList
  trimmed : Text.Trimmed value.toList

instance (value : String) : Decidable (Survives value) :=
  decidable_of_iff (value.toList ≠ [] ∧ ';' ∉ value.toList
    ∧ Text.Trimmed value.toList) ⟨fun h => ⟨h.1, h.2.1, h.2.2⟩,
    fun h => ⟨h.1, h.2, h.3⟩⟩

/-- What is read of a text is read on either side of a semicolon by itself. -/
theorem readValues_append (left right : String) :
    readValues (some (left ++ ";" ++ right))
      = readValues (some left) ++ readValues (some right) := by
  have hmark : ";".toList = [';'] := rfl
  simp only [readValues, String.toList_append, hmark, List.append_assoc,
    List.singleton_append, Text.splitAll_append_mark, List.map_append,
    List.filter_append]

/-- Of several values that which remains of each is read. -/
theorem readValues_joined (value : String) (more : List String) :
    readValues (some (Text.joined ";" (value :: more)))
      = (value :: more).flatMap fun v => readValues (some v) := by
  induction more generalizing value with
  | nil => simp [Text.joined]
  | cons next rest ih =>
    rw [Text.joined, readValues_append, ih, List.flatMap_cons (x := value)]

/-- What is read from the column of some values is what is read from each. -/
theorem readValues_storedValues (values : List String) :
    readValues (storedValues values)
      = values.flatMap fun v => readValues (some v) := by
  cases values with
  | nil => rfl
  | cons value more => exact readValues_joined value more

/-- What is read always survives, -/
theorem survives_of_mem_readValues {text value : String}
    (h : value ∈ readValues (some text)) :
    Survives value := by
  obtain ⟨cs, hcs, rfl⟩ := List.mem_map.1 h
  obtain ⟨htrim, hne⟩ := List.mem_filter.1 hcs
  obtain ⟨piece, hpiece, rfl⟩ := List.mem_map.1 htrim
  constructor
  · rw [String.toList_ofList]
    simpa using hne
  · rw [String.toList_ofList]
    exact fun hmark => Text.not_mem_of_mem_splitAll hpiece
      ((Text.trim_sublist piece).subset hmark)
  · rw [String.toList_ofList]
    exact Text.trimmed_trim piece

/-- and of a value that survives nothing else is read. -/
theorem readValues_of_survives {value : String} (h : Survives value) :
    readValues (some value) = [value] := by
  have htrim : Text.trim value.toList = value.toList :=
    Text.trim_eq_self_iff.2 h.trimmed
  simp [readValues, Text.splitAll_of_not_mem h.unmarked, htrim, h.ne_empty]

end SchemaRow

-- =============================================================== schemas

namespace Schema

/-- A schema with what remains of its values once they are stored. -/
def stored (s : Schema) : Schema :=
  { s with enumValues := s.enumValues.flatMap fun v =>
    SchemaRow.readValues (some v) }

/-- Every value of a stored schema survives being stored. -/
theorem survives_of_mem_stored {s : Schema} {v : String}
    (h : v ∈ s.stored.enumValues) :
    SchemaRow.Survives v := by
  obtain ⟨text, -, hread⟩ := List.mem_flatMap.1 h
  exact SchemaRow.survives_of_mem_readValues hread

/-- A schema is left alone exactly if each of its values survives. -/
theorem stored_eq_self_iff (s : Schema) :
    s.stored = s ↔ ∀ v ∈ s.enumValues, SchemaRow.Survives v := by
  constructor
  · intro h v hv
    rw [← h] at hv
    exact survives_of_mem_stored hv
  · intro h
    have hvalues : s.enumValues.flatMap
        (fun v => SchemaRow.readValues (some v)) = s.enumValues :=
      calc s.enumValues.flatMap (fun v => SchemaRow.readValues (some v))
          = s.enumValues.flatMap (fun v => [v]) :=
            List.flatMap_congr fun v hv =>
              SchemaRow.readValues_of_survives (h v hv)
        _ = s.enumValues := List.flatMap_singleton' s.enumValues
    rw [stored, hvalues]

/-- Some text is not among the values. -/
theorem exists_unlisted (s : Schema) : ∃ literal, literal ∉ s.enumValues := by
  obtain ⟨literal, h⟩ := Infinite.exists_notMem_finset s.enumValues.toFinset
  exact ⟨literal, by simpa using h⟩

end Schema

namespace BindValue

/-- An enumeration takes the literals that it lists, and all if it lists
none. -/
theorem isOk_forSchema_enum {s : Schema} (h : s.type = .enum)
    (literal : String) :
    (forSchema s literal).isOk = true
      ↔ s.enumValues = [] ∨ literal ∈ s.enumValues := by
  unfold forSchema
  rw [h]
  split
  · next hout =>
    refine iff_of_false (fun h => nomatch h) ?_
    rw [not_or]
    exact hout.2
  · next hin =>
    refine iff_of_true rfl ?_
    by_cases hempty : s.enumValues = []
    · exact .inl hempty
    · exact .inr
        (Classical.byContradiction fun hnot => hin ⟨rfl, hempty, hnot⟩)

/-- Other types do not look at the values. -/
theorem forSchema_of_ne_enum {s : Schema} (h : s.type ≠ .enum)
    (literal : String) :
    forSchema s literal = parse s.type literal :=
  if_neg fun hlisted => h hlisted.1

/-- The literals of a schema are the same after it is stored exactly if it is
no enumeration or each of its values survives. -/
theorem forSchema_stored_iff (s : Schema) :
    (∀ literal, (forSchema s.stored literal).isOk = (forSchema s literal).isOk)
      ↔ (s.type = .enum → ∀ v ∈ s.enumValues, SchemaRow.Survives v) := by
  constructor
  · intro hsame htype v hv
    have htaken : ∀ literal, s.stored.enumValues = []
        ∨ literal ∈ s.stored.enumValues
        ↔ s.enumValues = [] ∨ literal ∈ s.enumValues := by
      intro literal
      rw [← isOk_forSchema_enum htype,
        ← isOk_forSchema_enum (s := s.stored) htype, hsame]
    rcases (htaken v).2 (.inr hv) with hempty | hread
    · -- without values everything is taken, and with some of them it is not
      obtain ⟨literal, hout⟩ := s.exists_unlisted
      rcases (htaken literal).1 (.inl hempty) with hnone | hlisted
      · exact absurd hnone (List.ne_nil_of_mem hv)
      · exact absurd hlisted hout
    · exact Schema.survives_of_mem_stored hread
  · intro h literal
    by_cases htype : s.type = .enum
    · rw [s.stored_eq_self_iff.2 (h htype)]
    · rw [forSchema_of_ne_enum htype,
        forSchema_of_ne_enum (s := s.stored) htype]
      rfl

end BindValue

-- ================================================================ tables

/-- A schema that is stored is read with what remains of its values. -/
theorem SchemaRow.schema_ofSchema (s : Schema) :
    (ofSchema s).schema = .ok s.stored := by
  have hflag : ∀ position column b,
      readFlag position column (flag b) = .ok b := by
    intro position column b
    cases b <;> rfl
  have htype : ValueType.parse? s.type.name = some s.type := by
    cases s.type <;> rfl
  refine bind_eq_ok.2 ⟨s.multivalue, hflag 2 _ _,
    bind_eq_ok.2 ⟨s.unique, hflag 3 _ _, ?_⟩⟩
  have hparse : ValueType.parse? (ofSchema s).type = some s.type := htype
  rw [hparse]
  show Except.ok _ = Except.ok s.stored
  rw [Schema.stored, ← readValues_storedValues]
  rfl

namespace Metadata

/-- A key is free where the table of schemas is there and none of its rows has
it. -/
theorem schema?_eq_none_iff {m : Metadata} {key : String} :
    m.schema? key = .ok none
      ↔ ∃ rows, m.schemas = some rows ∧ ∀ r ∈ rows, r.key ≠ key := by
  unfold schema?
  rw [bind_eq_ok]
  constructor
  · intro h
    obtain ⟨rows, hrows, h⟩ := h
    cases hschemas : m.schemas with
    | none =>
      rw [hschemas] at hrows
      cases hrows
    | some found =>
      rw [hschemas] at hrows
      cases hrows
      refine ⟨rows, rfl, fun r hr heq => ?_⟩
      cases hfind : rows.find? fun r => r.key = key with
      | none => simpa [heq] using List.find?_eq_none.1 hfind r hr
      | some row =>
        rw [hfind] at h
        obtain ⟨s, -, h⟩ := bind_eq_ok.1 h
        cases h
  · intro h
    obtain ⟨rows, hschemas, hfree⟩ := h
    refine ⟨rows, by rw [hschemas]; rfl, ?_⟩
    have hfind : (rows.find? fun r => r.key = key) = none := by
      simpa using hfree
    rw [hfind]
    rfl

/-- A schema is put in where its key is free. What is read back is the schema
with what remains of its values: the schema itself exactly if every value
survives. An enumeration takes the literals that it took before exactly
then. -/
theorem stored_schema_reads_back {m : Metadata} {s : Schema}
    (h : m.schema? s.key = .ok none) :
    ∃ m', m.insertSchema s = .ok m' ∧ m'.schema? s.key = .ok (some s.stored)
      ∧ (s.stored = s ↔ ∀ v ∈ s.enumValues, SchemaRow.Survives v)
      ∧ ((∀ literal, (BindValue.forSchema s.stored literal).isOk
            = (BindValue.forSchema s literal).isOk)
          ↔ (s.type = .enum → ∀ v ∈ s.enumValues, SchemaRow.Survives v)) := by
  obtain ⟨rows, hschemas, hfree⟩ := schema?_eq_none_iff.1 h
  have hnew : ¬ (rows.any fun r => decide (r.key = s.key)) = true := by
    simpa using hfree
  have hinsert : m.insertSchema s
      = .ok { m with schemas := some (rows ++ [.ofSchema s]) } := by
    unfold insertSchema insertSchemaRow
    rw [hschemas]
    exact if_neg hnew
  have hfind :
      ((rows ++ [SchemaRow.ofSchema s]).find? fun r => decide (r.key = s.key))
      = some (.ofSchema s) := by
    have hold : (rows.find? fun r => decide (r.key = s.key)) = none := by
      simpa using hfree
    rw [List.find?_append, hold]
    simp [SchemaRow.ofSchema]
  refine ⟨_, hinsert, bind_eq_ok.2 ⟨rows ++ [.ofSchema s], rfl, ?_⟩,
    s.stored_eq_self_iff, BindValue.forSchema_stored_iff s⟩
  rw [hfind]
  exact bind_eq_ok.2 ⟨_, SchemaRow.schema_ofSchema s, rfl⟩

end Metadata

-- =============================================================== colours

namespace Colours

/-- An enumeration with values of some shape. -/
def colour (values : List String) : Schema :=
  { key := "colour", type := .enum, multivalue := true, enumValues := values }

/-- Tables that know another attribute. -/
def tables : Metadata :=
  { Metadata.fresh with
    schemas := some [.ofSchema { key := "badge", type := .long }] }

end Colours

open Colours in
/-- A value with a semicolon comes back as two, and is refused from then on. -/
theorem semicolon_divides_value :
    Metadata.fresh.schema? "colour" = .ok none
      ∧ ∃ m, Metadata.fresh.insertSchema (colour ["red;green", "blue"]) = .ok m
          ∧ m.schema? "colour" = .ok (some (colour ["red", "green", "blue"]))
          ∧ colour ["red", "green", "blue"] ≠ colour ["red;green", "blue"]
          ∧ (BindValue.forSchema
            (colour ["red;green", "blue"]) "red;green").isOk = true
          ∧ (BindValue.forSchema
            (colour ["red", "green", "blue"]) "red;green").isOk = false := by
  refine ⟨by decide, _, rfl, ?_, ?_, ?_, ?_⟩ <;> decide

open Colours in
/-- Colours with blanks inside come back, and a colour with a blank in front
does not, nor does the empty one. -/
theorem stored_schema_reads_back_colours :
    tables.schema? "colour" = .ok none
      ∧ (∃ m, tables.insertSchema (colour ["red", "dark blue", "½"]) = .ok m
          ∧ m.schema? "colour" = .ok (some (colour ["red", "dark blue", "½"])))
      ∧ ∃ m, tables.insertSchema (colour [" red", ""]) = .ok m
          ∧ m.schema? "colour" ≠ .ok (some (colour [" red", ""]))
          ∧ ¬ ∀ literal,
            (BindValue.forSchema (colour [" red", ""]).stored literal).isOk
              = (BindValue.forSchema (colour [" red", ""]) literal).isOk := by
  have hfree : tables.schema? "colour" = .ok none := rfl
  refine ⟨hfree, ?_, ?_⟩
  · have hsurvive : ∀ v ∈ (colour ["red", "dark blue", "½"]).enumValues,
        SchemaRow.Survives v := by
      decide
    obtain ⟨m, hm, hread, hsame, -⟩ :=
      Metadata.stored_schema_reads_back
        (s := colour ["red", "dark blue", "½"]) hfree
    rw [hsame.2 hsurvive] at hread
    exact ⟨m, hm, hread⟩
  · have hlost : ¬ ∀ v ∈ (colour [" red", ""]).enumValues,
        SchemaRow.Survives v := by
      decide
    obtain ⟨m, hm, hread, hsame, hliterals⟩ :=
      Metadata.stored_schema_reads_back (s := colour [" red", ""]) hfree
    refine ⟨m, hm, fun heq => hlost (hsame.1 ?_),
      fun hequal => hlost (hliterals.1 hequal rfl)⟩
    exact Option.some.inj (Except.ok.inj (hread.symm.trans heq))

end IdentitySearch
