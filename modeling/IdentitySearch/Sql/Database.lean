/-
The content of a database: the rows of every view, where a view may be missing
altogether.
-/
import IdentitySearch.Catalog.View
import IdentitySearch.Sql.Cell

namespace IdentitySearch

/-- The rows of every view; a view without rows is not the same as no view. -/
structure Database where
  table? : View → Option (List Row)

namespace Database

def blank : Database := ⟨fun _ => some []⟩

def bare : Database := ⟨fun _ => none⟩

/-- The rows of a view; a missing view has none. -/
def rows (db : Database) (v : View) : List Row :=
  (db.table? v).getD []

/-- The first of some views that is missing. -/
def missing? (db : Database) (views : List View) : Option View :=
  views.find? fun v => (db.table? v).isNone

/-- The database with other rows for one view. -/
def withTable (db : Database) (v : View)
    (rows : Option (List Row)) : Database :=
  ⟨fun w => if w = v then rows else db.table? w⟩

end Database

end IdentitySearch
