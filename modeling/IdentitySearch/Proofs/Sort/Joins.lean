/-
Sorting drops nobody. A sort joins views to the identities, and an identity
without a row in one of them would be lost. The core fields have a row for
everyone. A view of attributes is augmented as soon as one attribute may be
missing, and then has a row for everyone too; it is left alone only where every
attribute is required of every identity. So on consistent views every source of
a plan has a row for every identity (`joins_of_lists`).

It is not enough that a source has a row: a plan reads only rows of the
attribute that is sorted by, and so this is what the row has to be of. A row of
NULLs is of the attribute it stands for (`Row.isOf_absent`). Where nothing is
augmented the row has to be in the database, and what says so is that the
database fulfils its schemas (`Database.Fulfils`), for those attributes only
that the sort names and that are required.
-/
import IdentitySearch.Proofs.Sort.Plans
import IdentitySearch.Proofs.Statement.Answers

namespace IdentitySearch

variable {db : Database} {kind : Kind} {d : Directory}

-- ============================================================= absence

/-- A row of NULLs has the key of its identity, -/
@[simp] theorem Row.absent_anyId (key : Cell) (schema : String) :
    (Row.absent key schema).get .anyId = key := rfl

/-- and is of the attribute it stands for. -/
theorem Row.isOf_absent (key : Cell) (schema : String) :
    (Row.absent key schema).isOf schema = true := by
  have hschema : (Row.absent key schema).get .schemaId = .text schema := rfl
  rw [isOf, hschema, Truth.isHolds_iff, Cell.equals_text]

/-- A text is none of some other texts. -/
theorem Cell.isIn_not_eq_holds {key : String} {cells : List Cell}
    (htexts : ∀ c ∈ cells, ∃ other, c = .text other)
    (hkey : Cell.text key ∉ cells) :
    ((Cell.text key).isIn cells).not = .holds := by
  rw [Truth.not_eq_holds, isIn_eq_fails]
  intro c hc
  obtain ⟨other, rfl⟩ := htexts c hc
  rw [equals_eq_fails, ← Bool.not_eq_true, same_text]
  refine ⟨by simp, by simp, ?_⟩
  intro h
  rw [h] at hkey
  exact hkey hc

/-- An augmented source has a row of the attribute for every identity. -/
theorem Source.exists_mem_augmented {v identities : View} (hv : db.Keyed v)
    (schema : String) {key : String} (hkey : db.Lists identities key) :
    ∃ row ∈ (Source.augmented v identities schema).rows db,
      row.isOf schema = true ∧ row.get .anyId = .text key := by
  simp only [Source.rows, List.mem_append]
  by_cases hown : ∃ row ∈ db.rows v, row.isOf schema = true
    ∧ row.get .anyId = .text key
  · obtain ⟨row, hrow, hschema, hanyId⟩ := hown
    exact ⟨row, .inl (List.mem_filter.2 ⟨hrow, hschema⟩), hschema, hanyId⟩
  · obtain ⟨row, hrow, hanyId⟩ := hkey
    refine ⟨Row.absent (row.get .anyId) schema, .inr ?_,
      Row.isOf_absent _ _, hanyId⟩
    refine List.mem_map.2 ⟨row, List.mem_filter.2 ⟨hrow, ?_⟩, rfl⟩
    rw [Truth.isHolds_iff, hanyId]
    apply Cell.isIn_not_eq_holds
    · intro c hc
      obtain ⟨other, hother, rfl⟩ := List.mem_map.1 hc
      exact hv other (List.mem_filter.1 hother).1
    · intro hmem
      obtain ⟨other, hother, hsame⟩ := List.mem_map.1 hmem
      obtain ⟨hrows, hschema⟩ := List.mem_filter.1 hother
      exact hown ⟨other, hrows, hschema, hsame⟩

-- ============================================================== sources

/-- Every attribute that clauses name, if it is required of everyone, is held
by everyone. -/
def Database.Fulfils (db : Database) (kind : Kind) (d : Directory)
    (clauses : List SortClause) :
    Prop :=
  ∀ clause ∈ clauses, ∀ schema,
    kind.sortKey? d clause.property = .ok (some (.attribute schema)) →
        schema.isMandatory = true → ∀ key, db.Lists (.field kind) key →
      ∃ row ∈ db.rows (.attributes kind schema.unique),
        row.isOf schema.key = true ∧ row.get .anyId = .text key

namespace SortPlan

/-- A view of the plan is a view of some item, and is read for its
attribute. -/
theorem schemaOf?_eq_of_mem_views {p : SortPlan} {v : View}
    (hv : v ∈ p.views) :
    ∃ item ∈ p.items, item.view = v ∧ p.schemaOf? v = item.schema := by
  obtain ⟨item, hitem, hview⟩ := mem_views.1 hv
  unfold schemaOf?
  cases hfind : p.items.find? fun item => item.view = v with
  | none =>
    have hnot := List.find?_eq_none.1 hfind item hitem
    exact absurd hview (by simpa using hnot)
  | some item =>
    exact ⟨item,
      List.mem_of_find?_eq_some hfind, by simpa using List.find?_some hfind,
        rfl⟩

/-- Every source of a plan has a row that the plan admits for every
identity. -/
theorem joins_of_lists (hdb : db.Consistent kind) {clauses : List SortClause}
    {p : SortPlan} (hp : make kind d clauses = .ok p)
    (hrows : db.Fulfils kind d clauses) {augment : Bool}
    (haugment : p.optional = true → augment = true) {key : String}
    (hkey : db.Lists (.field kind) key) :
    ∀ source ∈ p.sources (.field kind) augment,
      ∃ row ∈ source.rows db, p.admits source.view row = true
        ∧ row.get .anyId = .text key := by
  obtain ⟨keys, hkeys, hconflict, rfl⟩ := make_eq_ok_iff.1 hp
  intro source hsource
  obtain ⟨v, hv, rfl⟩ := List.mem_map.1 hsource
  obtain ⟨item, hitem, rfl, hschema⟩ := schemaOf?_eq_of_mem_views hv
  obtain ⟨sortKey, direction, hmem, rfl⟩ := mem_items_ofKeys.1 hitem
  unfold SortPlan.source
  rw [hschema]
  cases sortKey with
  | field f =>
    obtain ⟨row, hrow, hanyId⟩ := hkey
    exact ⟨row, hrow, admits_field keys row, hanyId⟩
  | «attribute» schema =>
    have hs : schema ∈ schemas keys := mem_schemas.2 ⟨direction, hmem⟩
    cases augment with
    | true =>
      obtain ⟨row, hrow, hof, hanyId⟩ :=
        Source.exists_mem_augmented
          (hdb.keyed_attributes schema.unique) schema.key hkey
      exact ⟨row, hrow, admits_attributes hconflict hs hof, hanyId⟩
    | false =>
      have hoptional : (ofKeys kind keys).optional = false := by
        rw [← Bool.not_eq_true]
        exact fun h => Bool.false_ne_true (haugment h)
      obtain ⟨clause, hclause, hnamed⟩ :=
        Kind.exists_clause_of_mem_sortKeys hkeys hmem
      obtain ⟨row, hrow, hof, hanyId⟩ := hrows clause hclause schema hnamed
        (isMandatory_of_optional_eq_false hoptional hs) key hkey
      exact ⟨row, hrow, admits_attributes hconflict hs hof, hanyId⟩

end SortPlan

end IdentitySearch
