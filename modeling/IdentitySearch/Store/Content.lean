/-
What a database holds: the tables of the directory and the search views. It is
store and directory of an engine at once. Rows may also be put into the
directory by the names of their columns, in which case what is left out takes
its default.
-/
import IdentitySearch.Engine
import IdentitySearch.Directory.Metadata
import IdentitySearch.Statement.Evaluation
import IdentitySearch.Statement.Limits

namespace IdentitySearch

/-- What a database holds. -/
structure Content where
  metadata : Metadata
  database : Database

namespace Content

/-- No table and no view exists. -/
def bare : Content := ⟨.bare, .bare⟩

def fresh : Content := ⟨.fresh, .blank⟩

/-- Removes the table or view of this name. -/
def drop (c : Content) (name : String) : Content :=
  match View.ofSqlName? name with
  | some v => { c with database := c.database.withTable v none }
  | none => { c with metadata := c.metadata.drop name }

/-- Puts rows into a view. -/
def insertRows (c : Content) (v : View) (rows : List Row) : Content :=
  { c with database :=
    c.database.withTable v (some (c.database.rows v ++ rows)) }

-- =============================================================== engine

/-- The product that answers when the dialect is asked for. -/
def product : String := "SQLite"

/-- The store of a database. -/
def store (c : Content) : Store where
  detect := .ok (.ofProduct product)
  count s := s.target.limited (c.database.count s)
  fetch s := s.target.limited (c.database.fetch s)

/-- The engine that searches a database. -/
def engine (c : Content) (config : Config) : Engine :=
  { config := config, directory := c.metadata.directory, store := c.store }

end Content

-- ================================================= rows by column names

/-- A row as columns with what they hold. -/
abbrev NamedCells := List (String × Cell)

namespace NamedCells

/-- A row whose columns are named in small letters; their case does not
matter. -/
def lowered (row : NamedCells) : NamedCells :=
  row.map fun (column, cell) => (Text.lower column, cell)

/-- The text in a column. -/
def text (table : String) (row : NamedCells) (column : String)
    (default : Cell := .null) :
    Except Error String :=
  match ((row.lookup column).getD default).text? with
  | none => .error (.store (.notNull table column))
  | some s => .ok s

/-- The text in a column that may be NULL. -/
def text? (row : NamedCells) (column : String) : Option String :=
  (row.lookup column).bind Cell.text?

/-- What a column for whole numbers stores; zero if it is left out. -/
def integer (table : String) (row : NamedCells)
    (column : String) : Except Error Cell :=
  match ((row.lookup column).getD (.integer 0)).stored .integer with
  | .null => .error (.store (.notNull table column))
  | c => .ok c

end NamedCells

namespace Metadata

/-- Inserts a schema by columns. A schema without a key is never found, so it
leaves no trace. -/
def insertNamedSchema (m : Metadata)
    (row : NamedCells) : Except Error Metadata := do
  let type ← row.text schemaTable "schema_type"
  let multivalue ← row.integer schemaTable "multivalue"
  let unique ← row.integer schemaTable "unique_constraint"
  let mandatory ← row.text schemaTable "mandatory_condition" (.text "false")
  match row.text? "schema_key" with
  | none => return m
  | some key =>
    m.insertSchemaRow ⟨key, type, multivalue, unique, mandatory,
      row.text? "enum_values"⟩

/-- Inserts a dynamic realm by columns. One without an identifier is never
found, so it leaves no trace. -/
def insertNamedDynRealm (m : Metadata)
    (row : NamedCells) : Except Error Metadata := do
  let key ← row.text dynRealmTable "dyn_realm_key"
  match row.text? "id" with
  | none => return m
  | some id => m.insertDynRealm id key

/-- Inserts a realm by columns. -/
def insertNamedRealm (m : Metadata)
    (row : NamedCells) : Except Error Metadata := do
  let path ← row.text realmTable "full_path"
  m.insertRealmRow ⟨row.text? "realm_key", path⟩

/-- Whether the table of this name exists. -/
def hasTable (m : Metadata) (table : String) : Bool :=
  (table = schemaTable && m.schemas.isSome)
    || (table = realmTable && m.realms.isSome)
    || (table = dynRealmTable && m.dynRealms.isSome)

/-- The columns of a table. -/
def columns (table : String) : List String :=
  if table = schemaTable then
    ["schema_key", "schema_type", "multivalue", "unique_constraint",
      "mandatory_condition", "enum_values"]
  else if table = realmTable then ["realm_key", "full_path"]
  else ["id", "dyn_realm_key"]

/-- Inserts a row by columns into the table of this name. The case of names
does not matter. -/
def insertNamed (m : Metadata) (table : String) (row : NamedCells) :
    Except Error Metadata :=
  let name := Text.lower table
  if !m.hasTable name then .error (.store (.missingTable table))
  else match row.find? fun (column, _) =>
    !(columns name).contains (Text.lower column) with
    | some (column, _) => .error (.store (.missingColumn table column))
    | none =>
      if name = schemaTable then m.insertNamedSchema row.lowered
      else if name = realmTable then m.insertNamedRealm row.lowered
      else m.insertNamedDynRealm row.lowered

end Metadata

end IdentitySearch
