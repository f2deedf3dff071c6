/-
What statements answer on a database. Names are looked up before anything is
evaluated, so a missing view is reported whatever the condition is. A search
joins to every visible identity the rows that its plan reads, drops repeated
rows, sorts what is left, with NULL before everything, and only then applies
the window.

- The identities of a target are the cells that its condition selects and that
  are visible; a count is their number.
- A join chooses one row of every source that has the key of the identity, in
  all ways in which this is possible. An identity with two values of an
  attribute has two rows, and an identity without a row in some source has
  none.
- Rows are sorted by the cells of their items, each in its direction; rows with
  equal cells stay in the order in which they came.
- The window is put on rows and not on keys. Dropping repeated keys is left to
  whoever asked.
-/
import IdentitySearch.Statement.Basic
import IdentitySearch.Sql.Evaluation
import IdentitySearch.Error

namespace IdentitySearch

-- =========================================================== visibility

/-- Whether an identity is visible; NULL is no identity. -/
def Visibility.admits (db : Database) (kind : Kind) : Visibility → Cell → Bool
  | .everyone => fun key => key ≠ .null
  | .nobody => fun _ => false
  | .inRealms keys =>
    let realms := keys.map Cell.text
    let inside := ((db.rows (.field kind)).filter fun row =>
      ((row.get .realmId).isIn realms).isHolds).map fun row => row.get .anyId
    fun key => (key.isIn inside).isHolds

/-- The views that a visibility reads. -/
def Visibility.views (kind : Kind) : Visibility → List View
  | .inRealms _ => [.field kind]
  | .everyone | .nobody => []

/-- The identities of a target. -/
def Target.cells (db : Database) (t : Target) : List Cell :=
  (t.selection.cells db).filter (t.visibility.admits db t.kind)

-- ============================================================== joining

/-- The columns of attribute values. -/
def Column.valueColumns : List Column :=
  [.booleanValue, .dateValue, .doubleValue, .longValue, .stringValue]

/-- Whether the row of a view is about a schema. -/
def Row.isOf (row : Row) (schema : String) : Bool :=
  ((row.get .schemaId).equals (.text schema)).isHolds

/-- The row of NULLs of an identity that is without the attribute. -/
def Row.absent (key : Cell) (schema : String) : Row :=
  ⟨(.anyId, key) :: (.schemaId, .text schema) :: Column.valueColumns.map
    (·, .null)⟩

/-- The rows of a source. Repetitions do not matter, since the rows of a search
are distinct. -/
def Source.rows (db : Database) : Source → List Row
  | .plain v => db.rows v
  | .augmented v identities schema =>
    let own := (db.rows v).filter fun row => row.isOf schema
    let holders := own.map fun row => row.get .anyId
    own ++ ((db.rows identities).filter fun row =>
        (((row.get .anyId).isIn holders).not).isHolds).map
      fun row => Row.absent (row.get .anyId) schema

/-- Whether the row of a view passes the restrictions of the items on it. -/
def SortPlan.admits (p : SortPlan) (v : View) (row : Row) : Bool :=
  p.items.all fun item => item.view ≠ v || match item.schema with
    | none => true
    | some schema => row.isOf schema

/-- One row of each joined view. -/
abbrev JoinedRow := List (View × Row)

def JoinedRow.choices : List (View × List Row) → List JoinedRow
  | [] => [[]]
  | (v, rows) :: rest =>
    rows.flatMap fun row => (choices rest).map ((v, row) :: ·)

/-- The cell of a sort item. -/
def SortItem.cell (item : SortItem) (joined : JoinedRow) : Cell :=
  match joined.lookup item.view with
  | none => .null
  | some row => row.get item.column

-- ============================================================== sorting

/-- A row of a search: the key and the cells it is sorted by. -/
structure SortedRow where
  key : Cell
  cells : List Cell
deriving DecidableEq

/-- Whether two rows of a search are the same. -/
def SortedRow.same (a b : SortedRow) : Bool :=
  a.key.same b.key && a.cells.length = b.cells.length
    && (a.cells.zip b.cells).all fun (c, d) => c.same d

/-- Whether a cell stands before another one in a direction. -/
def Direction.before (d : Direction) (a b : Cell) : Bool :=
  match d with
  | .ascending => a.before b
  | .descending => b.before a

/-- Whether cells stand before others: the first that differ decide. -/
def Direction.precede : List Direction → List Cell → List Cell → Bool
  | d :: ds, a :: as, b :: bs =>
    d.before a b || !d.before b a && precede ds as bs
  | _, _, _ => false

namespace SearchStatement

/-- The rows of the sources, by view. -/
def joinable (db : Database) (s : SearchStatement) : List (View × List Row) :=
  s.sources.map fun source =>
    (source.view, (source.rows db).filter (s.plan.admits source.view))

/-- The rows of a search that belong to one identity. -/
def rowsOf (s : SearchStatement) (joinable : List (View × List Row))
    (key : Cell) :
    List SortedRow :=
  (JoinedRow.choices (joinable.map fun (v, rows) =>
      (v, rows.filter fun row => (key.equals (row.get .anyId)).isHolds))).map
    fun joined => ⟨key, s.plan.items.map fun item => item.cell joined⟩

/-- The rows of a search in their order, without the window. -/
def sortedRows (db : Database) (s : SearchStatement) : List SortedRow :=
  let joinable := s.joinable db
  let directions := s.plan.items.map SortItem.direction
  (distinctBy SortedRow.same
      ((s.target.cells db).flatMap (s.rowsOf joinable))).mergeSort fun a b =>
    !Direction.precede directions b.cells a.cells

end SearchStatement

/-- The part of a list that lies in a window. -/
def Window.apply {α : Type} (w : Window) (l : List α) : List α :=
  (l.drop w.offset).take w.limit

/-- The integers of a database end here. -/
def Window.offsetLimit : Nat := 1 <<< 63

-- ============================================================== answers

namespace Database

/-- Answers only if every view is there. -/
def requireViews (db : Database) (views : List View) : Except Error Unit :=
  match db.missing? views with
  | none => .ok ()
  | some v => .error (.store (.missingTable v.sqlName))

/-- The answer of a count. -/
def count (db : Database) (s : CountStatement) : Except Error Nat := do
  db.requireViews
    (s.target.selection.query.views ++ s.target.visibility.views s.target.kind)
  return (s.target.cells db).length

/-- The answer of a search. -/
def fetch (db : Database)
    (s : SearchStatement) : Except Error (List String) := do
  db.requireViews
    (s.target.selection.query.views ++ s.sources.flatMap Source.views
    ++ s.target.visibility.views s.target.kind)
  let keys := (s.sortedRows db).filterMap fun row => row.key.text?
  match s.window with
  | none => return keys
  | some w =>
    if w.offset < Window.offsetLimit then return w.apply keys
    else .error (.store .offsetTooLarge)

end Database

end IdentitySearch
