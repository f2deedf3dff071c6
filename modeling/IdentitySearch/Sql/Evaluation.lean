/-
What queries select from a database. Conjunction binds tighter than
disjunction: along a condition, a run of atoms joined by AND is one
alternative, and an OR begins the next. A condition is first prepared, which
evaluates every query in it once, and then asked about one row after the other.

What has been read of a condition so far comes to two truth values for a row:
that of the alternatives that are closed, of which one has to hold, and that of
the run which is still open. An atom after an AND goes on with the run; after
an OR it begins another one, and the run before it is closed. At the end the
condition is the disjunction of both.
-/
import IdentitySearch.Sql.Query
import IdentitySearch.Sql.Database

namespace IdentitySearch

-- ========================================================= comparisons

/-- The truth value of a comparator between two cells. -/
def Comparator.truth (escape : Option Char) (cmp : Comparator)
    (a b : Cell) : Truth :=
  match cmp with
  | .eq => a.equals b
  | .ne => (a.equals b).not
  | .lt => Cell.compareWith Cell.before a b
  | .ge => (Cell.compareWith Cell.before a b).not
  | .gt => Cell.compareWith Cell.before b a
  | .le => (Cell.compareWith Cell.before b a).not
  | .like => a.isLike escape b
  | .notLike => (a.isLike escape b).not

/-- The truth value of a comparison on a row. The value takes the affinity of
the column, unless case is folded, which makes both sides texts. -/
def Comparison.truth (c : Comparison) (row : Row) : Truth :=
  let cell := row.get c.column
  let value := Cell.ofValue c.value
  let escape := if c.escaped then some '\\' else none
  if c.folded then c.comparator.truth escape cell.lowered value.lowered
  else c.comparator.truth escape cell (value.comparand c.column.affinity)

-- ============================================================= queries

/-- A question about rows. -/
structure Test where
  on : Row → Truth

/-- A condition that is read from left to right: the alternatives that an OR
has closed, and the run of atoms that is still open. -/
structure OpenTest where
  closed : Row → Truth
  run : Row → Truth

/-- The question that a condition comes to. -/
def OpenTest.test (t : OpenTest) : Test :=
  ⟨fun row => (t.closed row).or (t.run row)⟩

/-- One of several equal elements, the first. -/
def distinctBy {α : Type} (same : α → α → Bool) : List α → List α
  | [] => []
  | a :: rest => a :: (distinctBy same rest).filter fun b => !same a b

mutual

def Formula.prepare (db : Database) : Formula → OpenTest
  | .atom a => ⟨fun _ => .fails, (a.prepare db).on⟩
  | .join left c right =>
    let l := left.prepare db
    let r := right.prepare db
    match c with
    | .and => ⟨l.closed, fun row => (l.run row).and (r.on row)⟩
    | .or => ⟨fun row => (l.closed row).or (l.run row), r.on⟩

def Atom.prepare (db : Database) : Atom → Test
  | .compare c => ⟨c.truth⟩
  | .isNull column negated =>
    ⟨fun row => .ofBool ((row.get column = .null) != negated)⟩
  | .keyIn negated q =>
    let keys := q.cells db
    ⟨fun row =>
      let found := (row.get .anyId).isIn keys
      if negated then found.not else found⟩
  | .never => ⟨fun _ => .fails⟩
  | .paren f => (f.prepare db).test

/-- The cells that a query selects. -/
def Query.cells (db : Database) : Query → List Cell
  | .select distinct column view condition =>
    let t := (condition.prepare db).test
    let found := ((db.rows view).filter fun row => (t.on row).isHolds).map
        fun row => row.get column
    if distinct then distinctBy Cell.same found else found
  | .union left right => distinctBy Cell.same (left.cells db ++ right.cells db)

end

/-- The keys that a selection selects. -/
def Selection.cells (db : Database) (s : Selection) : List Cell :=
  s.query.cells db

-- ======================================================= small lemmas

/-- What is kept was there. -/
theorem mem_of_mem_distinctBy {α : Type} {same : α → α → Bool} {a : α}
    {l : List α} (h : a ∈ distinctBy same l) : a ∈ l := by
  induction l with
  | nil => simp [distinctBy] at h
  | cons b rest ih =>
    simp only [distinctBy, List.mem_cons, List.mem_filter] at h
    rcases h with rfl | ⟨h, -⟩
    · simp
    · simp [ih h]

end IdentitySearch
