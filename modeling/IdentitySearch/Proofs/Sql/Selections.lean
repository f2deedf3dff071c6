/-
What selections select. A row is kept where its condition holds, and a
condition without an OR outside of parentheses (a run) holds where all its
atoms do. Every selection that conditions are compiled to has such a run, so a
conjunct joined to its right is never caught by a looser OR to its left. Two
selections together:

- joined by AND they select the keys that both select (`selects_combine_and`);
- joined by OR they select the keys that the left one selects, and of the right
  one those that the view of the left one lists (`selects_combine_or`). The
  rows are the left view's, so a key that this view does not list has no row
  for the right part to hold on.

Conditions are read as they are evaluated, from the left: what is joined by AND
is gathered until an OR closes it, and a formula holds if what is closed holds
or what is still gathered does. A run never closes anything
(`Formula.closed_of_isRun`), and this is the invariant behind both rules of
joining: at the end of a run only what is gathered matters. All that is said
about selections later on goes by keys (`Selection.Selects`) and by these two
rules, and never looks at a formula again.
-/
import IdentitySearch.Proofs.Sql.Cells

namespace IdentitySearch

-- =============================================================== views

namespace Database

/-- A view has a row with this key. -/
def Lists (db : Database) (v : View) (key : String) : Prop :=
  ∃ row ∈ db.rows v, row.get .anyId = .text key

/-- A view has a row with this key and this other text in a column. -/
def Pairs (db : Database) (v : View) (column : Column)
    (key other : String) : Prop :=
  ∃ row ∈ db.rows v, row.get .anyId = .text key ∧ row.get column = .text other

/-- No row of a view is without a key. -/
def Keyed (db : Database) (v : View) : Prop :=
  ∀ row ∈ db.rows v, ∃ key, row.get .anyId = .text key

/-- What the views of a kind promise: no row of core fields or attributes is
without a key, and whoever has an attribute has core fields. A key is a text,
since that is what its column makes of anything but NULL. -/
structure Consistent (db : Database) (kind : Kind) : Prop where
  keyed : db.Keyed (.field kind)
  keyed_attributes : ∀ unique, db.Keyed (.attributes kind unique)
  listed : ∀ unique key, db.Lists (.attributes kind unique) key →
    db.Lists (.field kind) key

variable (db : Database)

instance (v : View) : Decidable (db.Keyed v) :=
  decidable_of_iff (∀ row ∈ db.rows v, (row.get .anyId).storage = .text)
    (forall₂_congr fun row _ => by cases row.get .anyId <;>
      simp [Cell.storage])

instance (v : View) (key : String) : Decidable (db.Lists v key) :=
  inferInstanceAs (Decidable (∃ row ∈ db.rows v, row.get .anyId = .text key))

/-- Consistency, row by row. -/
theorem consistent_iff (kind : Kind) :
    db.Consistent kind ↔
      db.Keyed (.field kind) ∧ ∀ unique, db.Keyed (.attributes kind unique)
        ∧ ∀ row ∈ db.rows (.attributes kind unique),
          ∃ other ∈ db.rows (.field kind),
            other.get .anyId = row.get .anyId := by
  constructor
  · intro h
    rcases h with ⟨hfield, hattributes, hlisted⟩
    refine ⟨hfield, fun unique => ⟨hattributes unique, fun row hrow => ?_⟩⟩
    obtain ⟨key, hkey⟩ := hattributes unique row hrow
    rw [hkey]
    exact hlisted unique key ⟨row, hrow, hkey⟩
  · intro h
    rcases h with ⟨hfield, hattributes⟩
    refine ⟨hfield, fun unique => (hattributes unique).1, ?_⟩
    intro unique key hkey
    obtain ⟨row, hrow, hkey⟩ := hkey
    obtain ⟨other, hother, hsame⟩ := (hattributes unique).2 row hrow
    exact ⟨other, hother, hsame.trans hkey⟩

instance (kind : Kind) : Decidable (db.Consistent kind) :=
  decidable_of_iff' _ (db.consistent_iff kind)

end Database

variable (db : Database)

-- =========================================================== conditions

/-- A condition holds on a row. -/
def Formula.Holds (f : Formula) (row : Row) : Prop :=
  (f.prepare db).test.on row = .holds

/-- An atom holds on a row. -/
def Atom.Holds (a : Atom) (row : Row) : Prop :=
  (a.prepare db).on row = .holds

/-- A condition is a conjunction of atoms. -/
def Formula.isRun : Formula → Bool
  | .atom _ => true
  | .join left .and _ => left.isRun
  | .join _ .or _ => false

namespace Formula

/-- A conjunction leaves no alternative closed. -/
theorem closed_of_isRun {f : Formula} (h : f.isRun = true) (row : Row) :
    (f.prepare db).closed row = .fails :=
  match f, h with
  | .atom _, _ => rfl
  | .join left .and _, h => closed_of_isRun (f := left) h row

/-- An atom alone holds where it is true. -/
theorem holds_atom (a : Atom) (row : Row) :
    (Formula.atom a).Holds db row ↔ a.Holds db row := by
  show Truth.or .fails ((a.prepare db).on row) = .holds ↔ _
  rw [Truth.or_eq_holds]
  exact ⟨fun h => h.resolve_left (by simp), .inr⟩

/-- A conjunct after a conjunction is one conjunct more. -/
theorem holds_and {left : Formula} (h : left.isRun = true) (right : Atom)
    (row : Row) :
    (left.join .and right).Holds db row
      ↔ left.Holds db row ∧ right.Holds db row := by
  have hclosed := closed_of_isRun db h row
  have hleft : left.Holds db row ↔ (left.prepare db).run row = .holds := by
    show ((left.prepare db).closed row).or _ = .holds ↔ _
    rw [hclosed, Truth.or_eq_holds]
    simp
  show ((left.prepare db).closed row).or (((left.prepare db).run row).and _)
      = .holds ↔ _
  rw [hclosed, Truth.or_eq_holds, Truth.and_eq_holds, hleft]
  simp [Atom.Holds]

/-- A disjunct is an alternative to all that stands before it. -/
theorem holds_or (left : Formula) (right : Atom) (row : Row) :
    (left.join .or right).Holds db row
      ↔ left.Holds db row ∨ right.Holds db row := by
  show Truth.or (((left.prepare db).closed row).or ((left.prepare db).run row))
      _ = .holds ↔ _
  rw [Truth.or_eq_holds]
  rfl

end Formula

namespace Atom

theorem holds_paren (f : Formula) (row : Row) :
    (Atom.paren f).Holds db row ↔ f.Holds db row :=
  Iff.rfl

/-- On a row with a key, asking for the key of a query asks whether the query
selects it. -/
theorem holds_keyIn {row : Row} {key : String}
    (hkey : row.get .anyId = .text key) (q : Query) :
    (Atom.keyIn false q).Holds db row ↔ .text key ∈ q.cells db := by
  show (row.get .anyId).isIn (q.cells db) = .holds ↔ _
  rw [hkey, Cell.text_isIn]

end Atom

-- ============================================================== queries

namespace Query

/-- The cells of a column on the rows that are kept, repetitions included. -/
def found (column : Column) (v : View) (condition : Formula) : List Cell :=
  ((db.rows v).filter fun row =>
    ((condition.prepare db).test.on row).isHolds).map fun row => row.get column

/-- What is found are the cells of rows on which the condition holds. -/
theorem mem_found {column : Column} {v : View} {condition : Formula}
    {c : Cell} :
    c ∈ found db column v condition ↔
      ∃ row ∈ db.rows v, condition.Holds db row ∧ row.get column = c := by
  simp only [found, List.mem_map, List.mem_filter, Truth.isHolds_iff,
    and_assoc]
  rfl

/-- A text is selected if it stands in the column on some row that is kept. -/
theorem text_mem_cells_select (distinct : Bool) (column : Column) (v : View)
    (condition : Formula) (s : String) :
    .text s ∈ (Query.select distinct column v condition).cells db ↔
      ∃ row ∈ db.rows v, condition.Holds db row
        ∧ row.get column = .text s := by
  rw [← mem_found, Query.cells]
  cases distinct with
  | false => exact Iff.rfl
  | true => exact text_mem_distinctBy

/-- Every cell that is selected stands in the column on some row. -/
theorem exists_of_mem_cells_select {distinct : Bool} {column : Column}
    {v : View} {condition : Formula} {c : Cell}
    (h : c ∈ (Query.select distinct column v condition).cells db) :
    ∃ row ∈ db.rows v, row.get column = c := by
  rw [Query.cells] at h
  have hfound : c ∈ found db column v condition := by
    cases distinct with
    | false => exact h
    | true => exact mem_of_mem_distinctBy h
  obtain ⟨row, hrow, -, hc⟩ := (mem_found db).1 hfound
  exact ⟨row, hrow, hc⟩

end Query

-- =========================================================== selections

namespace Selection

/-- A selection selects a key. -/
def Selects (s : Selection) (key : String) : Prop :=
  .text key ∈ s.cells db

/-- A key is selected if the view has a row with it on which the condition
holds. -/
theorem selects_iff (s : Selection) (key : String) :
    s.Selects db key ↔
      ∃ row ∈ db.rows s.view, s.condition.Holds db row
        ∧ row.get .anyId = .text key :=
  Query.text_mem_cells_select db true .anyId s.view s.condition key

/-- A selection finds nothing but what its view lists. -/
theorem lists_of_selects {s : Selection} {key : String}
    (h : s.Selects db key) :
    db.Lists s.view key := by
  obtain ⟨row, hrow, -, hkey⟩ := (selects_iff db s key).1 h
  exact ⟨row, hrow, hkey⟩

/-- Two selections joined by AND select what both select. -/
theorem selects_combine_and {left : Selection}
    (h : left.condition.isRun = true) (right : Selection) (key : String) :
    (left.combine .and right).Selects db key
      ↔ left.Selects db key ∧ right.Selects db key := by
  rw [selects_iff, selects_iff db left]
  simp only [combine, Formula.holds_atom, Atom.holds_paren]
  constructor
  · intro hgiven
    rcases hgiven with ⟨row, hrow, hboth, hkey⟩
    obtain ⟨hleft, hright⟩ := (Formula.holds_and db h _ row).1 hboth
    exact ⟨⟨row, hrow, hleft, hkey⟩, (Atom.holds_keyIn db hkey _).1 hright⟩
  · intro hgiven
    rcases hgiven with ⟨⟨row, hrow, hleft, hkey⟩, hright⟩
    have hboth := (Formula.holds_and db h _ row).2 ⟨hleft,
        (Atom.holds_keyIn db hkey _).2 hright⟩
    exact ⟨row, hrow, hboth, hkey⟩

/-- Two selections joined by OR select what the left one selects, and of the
right one what the left view lists. -/
theorem selects_combine_or (left right : Selection) (key : String) :
    (left.combine .or right).Selects db key ↔
      left.Selects db key ∨ db.Lists left.view key ∧ right.Selects db key := by
  rw [selects_iff, selects_iff db left]
  simp only [combine, Formula.holds_atom, Atom.holds_paren, Formula.holds_or]
  constructor
  · intro h
    rcases h with ⟨row, hrow, hleft | hright, hkey⟩
    · exact .inl ⟨row, hrow, hleft, hkey⟩
    · exact .inr ⟨⟨row, hrow, hkey⟩, (Atom.holds_keyIn db hkey _).1 hright⟩
  · intro h
    rcases h with ⟨row, hrow, hleft, hkey⟩ | ⟨⟨row, hrow, hkey⟩, hright⟩
    · exact ⟨row, hrow, .inl hleft, hkey⟩
    · exact ⟨row, hrow, .inr ((Atom.holds_keyIn db hkey _).2 hright), hkey⟩

end Selection

end IdentitySearch
