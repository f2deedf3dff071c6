/-
The SQL of a sort plan: the sources that join its views to the identities, the
conditions that tie them together, the columns that are selected for sorting
and the ORDER BY clause. An attribute view may be augmented with a row of NULLs
for every identity that is without the attribute, so that sorting by it does
not drop the identity.
-/
import IdentitySearch.Sort.Plan
import IdentitySearch.Sql.Fragment

namespace IdentitySearch

-- ============================================================== sources

/-- Where the rows of a joined view come from. -/
inductive Source where
  /-- The view itself. -/
  | plain (v : View)
  /-- The rows of a view for one schema, and a row of NULLs for every identity
  that has none among them. -/
  | augmented (v identities : View) (schema : String)
deriving DecidableEq

namespace Source

/-- A source in SQL, under the alias of its view. -/
def fragment : Source → Fragment
  | .plain v => .ofText (v.sqlName ++ " " ++ v.alias)
  | .augmented v identities schema =>
    Fragment.ofText
      ("(SELECT any_id, schema_id, booleanvalue, datevalue, doublevalue, "
        ++ "longvalue, stringvalue FROM " ++ v.sqlName ++ " WHERE schema_id=")
      ++ .placeholder (.text schema) ++ .ofText " UNION SELECT any_id, "
      ++ .placeholder (.text schema)
      ++ .ofText (" AS schema_id, NULL AS booleanvalue, NULL AS datevalue, "
        ++ "NULL AS doublevalue, NULL AS longvalue, NULL AS stringvalue FROM "
        ++ identities.sqlName ++ " WHERE any_id NOT IN (SELECT any_id FROM "
        ++ v.sqlName ++ " WHERE schema_id=")
      ++ .placeholder (.text schema) ++ .ofText (")) " ++ v.alias)

/-- The view under whose alias a source is joined. -/
def view : Source → View
  | .plain v | .augmented v _ _ => v

/-- The views that a source reads, in the order in which a database looks their
names up. -/
def views : Source → List View
  | .plain v => [v]
  | .augmented v identities _ => [identities, v]

end Source

-- ================================================================ items

def SortItem.columnName (position : Nat) : String :=
  "ob_" ++ toString position

def SortItem.selectText (item : SortItem) (position : Nat) : String :=
  item.view.alias ++ "." ++ item.column.sqlName ++ " AS "
    ++ columnName position

/-- The term of the ORDER BY clause. -/
def SortItem.orderText (item : SortItem) (position : Nat) : String :=
  columnName position ++ " " ++ item.direction.keyword

/-- The restriction of the view to the schema of an attribute. -/
def SortItem.restriction? (item : SortItem) : Option Fragment :=
  item.schema.map fun key =>
    .ofText (item.view.alias ++ ".schema_id=") ++ .placeholder (.text key)

-- ================================================================ plans

namespace SortPlan

/-- The source of a view. With `augment`, attribute views are augmented. -/
def source (p : SortPlan) (identities : View) (augment : Bool)
    (v : View) : Source :=
  match p.schemaOf? v with
  | none => .plain v
  | some schema => if augment then .augmented v identities schema else .plain v

/-- The sources of the views. -/
def sources (p : SortPlan) (identities : View)
    (augment : Bool) : List Source :=
  p.views.map (p.source identities augment)

/-- The condition that joins a view to the identities. -/
def joinText (v : View) : String :=
  "u.any_id=" ++ v.alias ++ ".any_id"

/-- The conditions that join the views, then the restrictions of the items. -/
def conditions (p : SortPlan) : List Fragment :=
  p.views.map (fun v => .ofText (joinText v))
    ++ p.items.filterMap SortItem.restriction?

/-- The selected sort columns, each after a comma. -/
def selectList (p : SortPlan) : String :=
  Text.joined "" (p.items.mapIdx fun i item => ", " ++ item.selectText i)

/-- The ORDER BY clause; without items there is none. -/
def orderClause (p : SortPlan) : String :=
  if p.isEmpty then ""
  else " ORDER BY "
    ++ Text.joined ", " (p.items.mapIdx fun i item => item.orderText i)

end SortPlan

end IdentitySearch
