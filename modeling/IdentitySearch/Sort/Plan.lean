/-
Sort plans. A sort clause names a core field or, failing that, an attribute;
what is neither is passed over. Core fields are read from the view of core
fields, attributes from the view that holds their values. A view is joined only
once, so it can serve one attribute at most: clauses that ask one view for two
attributes conflict.
-/
import IdentitySearch.Directory
import IdentitySearch.KeySet
import IdentitySearch.Page
import IdentitySearch.Catalog.Field
import IdentitySearch.Catalog.View

namespace IdentitySearch

-- ============================================================ resolving

/-- What a sort clause names. -/
inductive SortKey where
  | field (f : CoreField)
  | attribute (s : Schema)
deriving DecidableEq

/-- What a property names for a kind, if anything; a core field comes before an
attribute of the same name. -/
def Kind.sortKey? (kind : Kind) (d : Directory) (property : String) :
    Except Error (Option SortKey) :=
  match kind.field? property with
  | some f => .ok (some (.field f))
  | none => (d.schema? property).map fun found => found.map .attribute

/-- The keys that sort clauses name, with their directions. Clauses that name
nothing are left out. -/
def Kind.sortKeys (kind : Kind) (d : Directory) :
    List SortClause → Except Error (List (SortKey × Direction))
  | [] => .ok []
  | clause :: rest => do
    let key? ← kind.sortKey? d clause.property
    let keys ← kind.sortKeys d rest
    match key? with
    | none => return keys
    | some key => return (key, clause.direction) :: keys

/-- The schema of an attribute. -/
def SortKey.schema? : SortKey → Option Schema
  | .field _ => none
  | .attribute s => some s

-- ================================================================ plans

/-- One key of an ordering: a column of a view, and the schema to which the
rows of the view are restricted if the key is an attribute. -/
structure SortItem where
  view : View
  column : Column
  direction : Direction
  schema : Option String
deriving DecidableEq

/-- The item for a key. -/
def SortItem.ofKey (kind : Kind) (direction : Direction) : SortKey → SortItem
  | .field f => ⟨.field kind, f.column, direction, none⟩
  | .attribute s =>
    ⟨.attributes kind s.unique, s.type.column, direction, some s.key⟩

/-- The ordering of a search, the most significant item first. -/
structure SortPlan where
  items : List SortItem := []
  /-- Whether an identity may be without one of the attributes. -/
  optional : Bool := false
deriving DecidableEq

namespace SortPlan

/-- The plan for some keys. -/
def ofKeys (kind : Kind) (keys : List (SortKey × Direction)) : SortPlan where
  items := keys.map fun (key, direction) => .ofKey kind direction key
  optional := (keys.filterMap fun k => k.1.schema?).any fun s => !s.isMandatory

/-- The attributes that are asked of one of the two views of values. -/
def attributesIn (unique : Bool)
    (keys : List (SortKey × Direction)) : KeySet :=
  .ofList (((keys.filterMap fun k => k.1.schema?).filter fun s =>
    s.unique = unique).map Schema.key)

/-- The attributes that conflict: two or more in one view. -/
def conflict? (keys : List (SortKey × Direction)) : Option KeySet :=
  [true, false].findSome? fun unique =>
    let asked := attributesIn unique keys
    if asked.keys.length > 1 then some asked else none

/-- The plan for sort clauses. -/
def make (kind : Kind) (d : Directory) (clauses : List SortClause) :
    Except Error SortPlan := do
  let keys ← kind.sortKeys d clauses
  match conflict? keys with
  | some asked => .error (.conflictingSort asked.keys)
  | none => return ofKeys kind keys

/-- Whether there is nothing to sort by. -/
def isEmpty (p : SortPlan) : Bool :=
  p.items.isEmpty

/-- The views that a plan reads, each once, in the order of their first
items. -/
def views (p : SortPlan) : List View :=
  (p.items.map SortItem.view).eraseDups

/-- The schema to which the rows of a view are restricted: that of the first
item that reads the view. -/
def schemaOf? (p : SortPlan) (v : View) : Option String :=
  (p.items.find? fun item => item.view = v).bind SortItem.schema

end SortPlan

end IdentitySearch
