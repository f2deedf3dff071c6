/-
The columns that hold keys. Every view names an identity in its first column;
views of relationships and memberships name another one beside it. Where none
of these columns is ever NULL, a query for keys finds texts and nothing else
(`Query.exists_eq_text`). That is what makes NOT IN the plain complement of IN:
no answer depends on a NULL, so a key is among the keys of a query or it is not
(`Atom.holds_keyIn_iff`).

With a NULL in one of these columns NOT IN would be unknown for every key that
is not found, and a negated condition would select nobody. That they are texts
(`Database.Identified`) is therefore assumed of a database wherever something
is negated, and of nothing but its keys: cells with values are NULL as they
like. For a given database it is decided by its rows
(`Database.identified_iff`).
-/
import IdentitySearch.Proofs.Sql.Selections

namespace IdentitySearch

-- ============================================================== columns

/-- The columns of a view that name identities. -/
def View.keyColumns : View → List Column
  | .relationship _ => [.anyId, .rightAnyId]
  | .membership _ | .dynGroupMembership _ => [.anyId, .groupId]
  | _ => [.anyId]

theorem View.anyId_mem_keyColumns (v : View) : .anyId ∈ v.keyColumns := by
  cases v <;> simp [keyColumns]

/-- No identity is named by NULL. As before, a key is a text, since that is
what its column makes of anything else. -/
def Database.Identified (db : Database) : Prop :=
  ∀ v, ∀ column ∈ v.keyColumns, ∀ row ∈ db.rows v, ∃ key,
    row.get column = .text key

namespace Database

variable {db : Database}

/-- Views of an identified database have keys in all rows. -/
theorem Identified.keyed (h : db.Identified) (v : View) : db.Keyed v :=
  h v .anyId v.anyId_mem_keyColumns

/-- Whether a database is identified is decided by the kinds of cells in its
rows. -/
theorem identified_iff :
    db.Identified ↔ ∀ v ∈ View.all, ∀ column ∈ v.keyColumns,
    ∀ row ∈ db.rows v, (row.get column).storage = .text := by
  have htext : ∀ c : Cell, (∃ key, c = .text key) ↔ c.storage = .text := by
    intro c
    cases c <;> simp [Cell.storage]
  constructor
  · intro h v _ column hcolumn row hrow
    rw [← htext]
    exact h v column hcolumn row hrow
  · intro h v column hcolumn row hrow
    rw [htext]
    exact h v v.mem_all column hcolumn row hrow

instance (db : Database) : Decidable db.Identified :=
  decidable_of_iff' _ identified_iff

end Database

-- ============================================================== queries

/-- A query asks for keys: every column it selects names identities. -/
def Query.FindsKeys : Query → Prop
  | .select _ column v _ => column ∈ v.keyColumns
  | .union left right => left.FindsKeys ∧ right.FindsKeys

/-- A query for identities finds keys. -/
theorem Query.findsKeys_select (distinct : Bool) (v : View)
    (condition : Formula) :
    (Query.select distinct .anyId v condition).FindsKeys :=
  v.anyId_mem_keyColumns

variable {db : Database} (h : db.Identified)

include h in
/-- What a query for keys finds is a text, by induction over its unions. -/
theorem Query.exists_eq_text {q : Query} (hq : q.FindsKeys) {c : Cell}
    (hc : c ∈ q.cells db) :
    ∃ key, c = .text key :=
  match q, hq with
  | .select _ column v _, hq => by
    obtain ⟨row, hrow, rfl⟩ := exists_of_mem_cells_select db hc
    exact h v column hq row hrow
  | .union left right, hq => by
    rw [Query.cells] at hc
    rcases List.mem_append.1 (mem_of_mem_distinctBy hc) with hc | hc
    · exact exists_eq_text (q := left) hq.1 hc
    · exact exists_eq_text (q := right) hq.2 hc

/-- A union finds what either side finds. -/
theorem Query.text_mem_cells_union (left right : Query) (key : String) :
    .text key ∈ (Query.union left right).cells db
      ↔ .text key ∈ left.cells db ∨ .text key ∈ right.cells db := by
  rw [Query.cells, text_mem_distinctBy, List.mem_append]

-- ============================================================== NOT IN

/-- Among texts alone, whether a text is one of them is never unknown. -/
theorem Cell.text_isIn_eq {key : String} {cells : List Cell}
    (htexts : ∀ c ∈ cells, ∃ other, c = .text other) :
    (Cell.text key).isIn cells = .ofBool (decide (.text key ∈ cells)) := by
  by_cases hkey : .text key ∈ cells
  · rw [text_isIn.2 hkey, decide_eq_true hkey]
    rfl
  · rw [decide_eq_false hkey]
    show (Cell.text key).isIn cells = .fails
    rw [isIn_eq_fails]
    intro c hc
    obtain ⟨other, rfl⟩ := htexts c hc
    rw [equals_eq_fails, ← Bool.not_eq_true, same_text]
    refine ⟨Cell.noConfusion, Cell.noConfusion, fun heq => hkey ?_⟩
    rw [heq]
    exact hc

include h in
/-- On a row with a key, IN asks whether the key is found, and NOT IN whether
it is not. -/
theorem Atom.holds_keyIn_iff {row : Row} {key : String}
    (hkey : row.get .anyId = .text key) {q : Query} (hq : q.FindsKeys)
    (negated : Bool) :
    (Atom.keyIn negated q).Holds db row
      ↔ (.text key ∈ q.cells db ↔ negated = false) := by
  have hin : (Cell.text key).isIn (q.cells db)
      = .ofBool (decide (.text key ∈ q.cells db)) :=
    Cell.text_isIn_eq fun c hc => Query.exists_eq_text h hq hc
  cases negated with
  | false =>
    rw [Atom.holds_keyIn db hkey]
    simp
  | true =>
    show ((row.get .anyId).isIn (q.cells db)).not = .holds ↔ _
    rw [hkey, hin, Truth.not_eq_holds, Truth.ofBool_eq_fails,
      decide_eq_false_iff_not]
    simp

end IdentitySearch
