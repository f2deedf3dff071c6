/-
The directory that is kept in the tables of a database: one of schemas, one of
realms, one of dynamic realms. Each table may be missing, and then its lookups
fail and nothing can be put in. Rows are unique by key, realms by full path as
well. The values of an enumeration share one column, with semicolons between.

A row is not yet what it stands for: the type of a stored schema need not name
one, and the key of a stored realm may be NULL. A lookup reads only the rows it
is about and fails if one of them cannot be read. For the realms at or below a
path these are all realms, wherever they are, since they are selected after
they are read.
-/
import IdentitySearch.Directory
import IdentitySearch.Text.Blank
import IdentitySearch.Sql.Cell

namespace IdentitySearch

-- ============================================================== schemas

/-- A stored schema. The type is a text that need not name a value type, and a
truth value need not be stored as a number. -/
structure SchemaRow where
  key : String
  type : String
  multivalue : Cell := .integer 0
  unique : Cell := .integer 0
  mandatoryCondition : String := "false"
  enumValues : Option String := none
deriving DecidableEq

namespace SchemaRow

/-- The values of an enumeration as they are stored; none are NULL. -/
def storedValues (values : List String) : Option String :=
  if values.isEmpty then none else some (Text.joined ";" values)

/-- The values of an enumeration as they are read: without blanks around them,
and without those that are empty then. -/
def readValues : Option String → List String
  | none => []
  | some text =>
    (((Text.splitAll ';' text.toList).map Text.trim).filter fun cs =>
      !cs.isEmpty).map String.ofList

/-- A truth value as it is stored. -/
def flag (b : Bool) : Cell := .integer (if b then 1 else 0)

/-- A stored truth value as it is read; zero is false. -/
def readFlag (position : Nat) (column : String) : Cell → Except Error Bool
  | .integer n => .ok (n ≠ 0)
  | c => .error (.directory (.wrongStorage c.storage position column))

/-- A schema as it is stored. -/
def ofSchema (s : Schema) : SchemaRow where
  key := s.key
  type := s.type.name
  multivalue := flag s.multivalue
  unique := flag s.unique
  mandatoryCondition := s.mandatoryCondition
  enumValues := storedValues s.enumValues

/-- A stored schema as it is read. -/
def schema (r : SchemaRow) : Except Error Schema := do
  let multivalue ← readFlag 2 "multivalue" r.multivalue
  let unique ← readFlag 3 "unique_constraint" r.unique
  match ValueType.parse? r.type with
  | none => .error (.directory (.unknownValueType r.type r.key))
  | some type =>
    return { key := r.key, type := type, multivalue := multivalue,
             unique := unique, mandatoryCondition := r.mandatoryCondition,
               enumValues := readValues r.enumValues }

end SchemaRow

-- =============================================================== realms

/-- A stored realm. Its key may be NULL, as that of no realm is. -/
structure RealmRow where
  key : Option String
  fullPath : String
deriving DecidableEq

namespace RealmRow

/-- A realm as it is stored. -/
def ofRealm (r : Realm) : RealmRow :=
  ⟨some r.key, r.fullPath⟩

/-- A stored realm as it is read. -/
def realm (r : RealmRow) : Except Error Realm :=
  match r.key with
  | some key => .ok ⟨key, r.fullPath⟩
  | none => .error (.directory (.wrongStorage .null 0 "realm_key"))

end RealmRow

-- =============================================================== tables

/-- The tables of a directory, each with its rows in the order in which they
came in; `none` is a table that does not exist. -/
structure Metadata where
  schemas : Option (List SchemaRow) := none
  realms : Option (List RealmRow) := none
  dynRealms : Option (List (String × String)) := none

namespace Metadata

def schemaTable : String := "plain_schema"

def realmTable : String := "realm"

def dynRealmTable : String := "dyn_realm"

def bare : Metadata := {}

/-- Creates the tables that are missing. -/
def create (m : Metadata) : Metadata where
  schemas := some (m.schemas.getD [])
  realms := some (m.realms.getD [])
  dynRealms := some (m.dynRealms.getD [])

def fresh : Metadata := bare.create

/-- Removes the table of this name. -/
def drop (m : Metadata) (table : String) : Metadata :=
  if table = schemaTable then { m with schemas := none }
  else if table = realmTable then { m with realms := none }
  else if table = dynRealmTable then { m with dynRealms := none }
  else m

-- ============================================================ inserting

def insertSchemaRow (m : Metadata) (row : SchemaRow) : Except Error Metadata :=
  match m.schemas with
  | none => .error (.store (.missingTable schemaTable))
  | some rows =>
    if rows.any fun r => r.key = row.key then
      .error (.store (.notUnique schemaTable "schema_key"))
    else .ok { m with schemas := some (rows ++ [row]) }

def insertSchema (m : Metadata) (schema : Schema) : Except Error Metadata :=
  m.insertSchemaRow (.ofSchema schema)

/-- Inserts a stored realm. A path that is taken is reported before a key, and
NULL is never taken. -/
def insertRealmRow (m : Metadata) (row : RealmRow) : Except Error Metadata :=
  match m.realms with
  | none => .error (.store (.missingTable realmTable))
  | some rows =>
    if rows.any fun r => r.fullPath = row.fullPath then
      .error (.store (.notUnique realmTable "full_path"))
    else if row.key.isSome && rows.any fun r => r.key = row.key then
      .error (.store (.notUnique realmTable "realm_key"))
    else .ok { m with realms := some (rows ++ [row]) }

def insertRealm (m : Metadata) (realm : Realm) : Except Error Metadata :=
  m.insertRealmRow (.ofRealm realm)

def insertDynRealm (m : Metadata) (id key : String) : Except Error Metadata :=
  match m.dynRealms with
  | none => .error (.store (.missingTable dynRealmTable))
  | some rows =>
    if rows.any fun r => r.1 = id
      then .error (.store (.notUnique dynRealmTable "id"))
    else .ok { m with dynRealms := some (rows ++ [(id, key)]) }

-- ============================================================== lookups

/-- The rows of a table, for a lookup. -/
def rowsOf {α : Type}
    (table : String) : Option (List α) → Except Error (List α)
  | some rows => .ok rows
  | none => .error (.directory (.missingTable table))

/-- The schema with this key. -/
def schema? (m : Metadata) (key : String) : Except Error (Option Schema) := do
  let rows ← rowsOf schemaTable m.schemas
  match rows.find? fun r => r.key = key with
  | none => return none
  | some row => return some (← row.schema)

/-- The realm with this full path. -/
def realm? (m : Metadata)
    (fullPath : String) : Except Error (Option Realm) := do
  let rows ← rowsOf realmTable m.realms
  match rows.find? fun r => r.fullPath = fullPath with
  | none => return none
  | some row => return some (← row.realm)

/-- The keys of the realms at or below both paths, in the order of their full
paths. All realms are read, wherever they are. -/
def realmsWithin (m : Metadata)
    (path base : String) : Except Error (List String) := do
  let rows ← rowsOf realmTable m.realms
  let realms ← (rows.mergeSort fun r s => r.fullPath ≤ s.fullPath).mapM
      RealmRow.realm
  return (realms.filter fun r =>
    Realm.isUnder r.fullPath path
      && Realm.isUnder r.fullPath base).map Realm.key

/-- The key of the dynamic realm with this identifier. -/
def dynRealm? (m : Metadata) (id : String) : Except Error (Option String) := do
  let rows ← rowsOf dynRealmTable m.dynRealms
  return rows.lookup id

def directory (m : Metadata) : Directory where
  schema? := m.schema?
  realm? := m.realm?
  realmsWithin := m.realmsWithin
  dynRealm? := m.dynRealm?

end Metadata

end IdentitySearch
