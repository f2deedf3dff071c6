/-
Dumps: the content of a database as JSON. A dump has realms, schemas and
dynamic realms, rows by view, and the names of tables that are to be missing;
all others are there, empty if nothing is said about them. An empty text is a
database without any table.
-/
import IdentitySearch.Store.Content
import IdentitySearch.Catalog.Wire
import IdentitySearch.Json.Reader

namespace IdentitySearch

-- ================================================================ cells

/-- The cell that a JSON scalar stands for: whole numbers of 64 bits are
integers, other numbers are reals, truth values are numbers. -/
def Cell.ofJson? : Json → Option Cell
  | .null => some .null
  | .bool b => some (.integer (if b then 1 else 0))
  | .number (.integer n) =>
    if Int64.minValue.toInt ≤ n ∧ n ≤ Int64.maxValue.toInt
      then some (.integer n)
    else some (.real (Double.ofInt n))
  | .number n => some (.real n.double)
  | .string s => s.map .text
  | .array _ | .object _ => none

/-- The columns of a JSON object with what they hold. -/
def NamedCells.ofJson? : Json → Option NamedCells
  | .object members => Json.traverse? (fun (name, value) =>
      name.bind fun n => (Cell.ofJson? value).map (n, ·)) members
  | _ => none

/-- The row of a view that a JSON object stands for; columns convert what they
store. -/
def Row.ofJson? (j : Json) : Option Row := do
  let named ← NamedCells.ofJson? j
  let cells ← Json.traverse? (fun (name, cell) =>
    (Column.ofSqlName? name).map fun c => (c, cell.stored c.affinity)) named
  return ⟨cells⟩

-- ================================================================ dumps

namespace Content

/-- A member of an object that may be left out. -/
def part? {α : Type} (name : String) (shape : Json → Option (List α))
    (j : Json) :
    Option (List α) :=
  match j with
  | .object members =>
    Json.optional? [] shape (Json.valuesOf name members).head?
  | _ => none

/-- The identifier and the key of a dynamic realm. -/
def dynRealm? (j : Json) : Option (String × String) :=
  match j.fields? ["id", "key"] with
  | some [id, key] => do
    return (← Json.required? Json.text? id, ← Json.required? Json.text? key)
  | _ => none

/-- The rows of every view that an object names. -/
def tables? : Json → Option (List (View × List Row))
  | .object members => Json.traverse? (fun (name, rows) => do
      let v ← name.bind View.ofSqlName?
      return (v, ← Json.list? Row.ofJson? rows)) members
  | _ => none

/-- Inserts one after the other; one that is refused spoils all. -/
def insertAll {α : Type} (insert : Metadata → α → Except Error Metadata)
    (m : Metadata) (items : List α) : Option Metadata :=
  match items.foldlM insert m with
  | .ok m => some m
  | .error _ => none

def ofJson? (j : Json) : Option Content := do
  let realms ← part? "realms" (Json.list? Realm.ofJson?) j
  let schemas ← part? "schemas" (Json.list? Schema.ofJson?) j
  let dynRealms ← part? "dyn_realms" (Json.list? dynRealm?) j
  let tables ← part? "tables" tables? j
  let drops ← part? "drop" (Json.list? Json.text?) j
  let m ← insertAll Metadata.insertRealm .fresh realms
  let m ← insertAll Metadata.insertSchema m schemas
  let m ← insertAll (fun m (id, key) => m.insertDynRealm id key) m dynRealms
  let filled := tables.foldl (fun (c : Content) (v, rows) =>
      c.insertRows v rows) { fresh with metadata := m }
  return drops.foldl Content.drop filled

def read? (s : String) : Option Content :=
  if s.isEmpty then some bare else (Json.read? s).bind ofJson?

end Content

end IdentitySearch
