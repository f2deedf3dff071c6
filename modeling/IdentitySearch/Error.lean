/-
Everything that can go wrong, by cause. Three groups of causes come from the
caller: a realm that does not exist, search parameters that do not fit
together, and a condition that does not fit the catalog. The other two are
faults of the store and of the directory. The wording of every message is in
this file and nowhere else.
-/
import IdentitySearch.Kind
import IdentitySearch.Catalog.Column
import IdentitySearch.Catalog.ValueType
import IdentitySearch.Text.Quoted

namespace IdentitySearch

-- ============================================================ faults

/-- Why a store or a directory could not answer. -/
inductive Fault where
  /-- A table or view does not exist. -/
  | missingTable (name : String)
  /-- A row with this value exists already. -/
  | notUnique (table column : String)
  /-- A value is required. -/
  | notNull (table column : String)
  /-- A table has no column of this name. -/
  | missingColumn (table column : String)
  /-- What is stored cannot be read as what the column is for. -/
  | wrongStorage (found : Storage) (position : Nat) (column : String)
  /-- A stored schema has a value type that does not exist. -/
  | unknownValueType (name key : String)
  /-- The database file cannot be opened. -/
  | cannotOpen (path : String)
  /-- The file is no database. -/
  | notDatabase
  /-- A condition is too high as a tree of expressions. -/
  | tooDeep
  /-- An offset does not fit the integers of the database. -/
  | offsetTooLarge
  /-- Anything else, in the words of whoever reports it. -/
  | reported (text : String)
deriving DecidableEq

/-- The wording of a fault. -/
def Fault.message : Fault → String
  | .missingTable name => "no such table: " ++ name
  | .notUnique table column =>
    "UNIQUE constraint failed: " ++ table ++ "." ++ column
  | .notNull table column =>
    "NOT NULL constraint failed: " ++ table ++ "." ++ column
  | .missingColumn table column =>
    "table " ++ table ++ " has no column named " ++ column
  | .wrongStorage found position column =>
    "Invalid column type " ++ found.name ++ " at index: " ++ toString position
      ++ ", name: " ++ column
  | .unknownValueType name key =>
    "unknown schema type " ++ name ++ " for " ++ key
  | .cannotOpen path => "unable to open database file: " ++ path
  | .notDatabase => "file is not a database"
  | .tooDeep => "Expression tree is too large (maximum depth 1000)"
  | .offsetTooLarge => "datatype mismatch"
  | .reported text => text

-- ============================================================ errors

/-- The group that a cause of failure belongs to. -/
inductive ErrorGroup where
  | invalidRealm
  | invalidParameters
  | invalidExpression
  | store
  | directory
deriving DecidableEq

/-- How messages of a group begin. -/
def ErrorGroup.heading : ErrorGroup → String
  | .invalidRealm => "invalid realm: "
  | .invalidParameters => "invalid search parameters: "
  | .invalidExpression => "invalid search expression: "
  | .store => "store error: "
  | .directory => "directory error: "

/-- A cause of failure. -/
inductive Error where
  /-- No realm has this full path. -/
  | unknownRealm (path : String)
  /-- Ordering by these attributes at once is not possible. -/
  | conflictingSort (keys : List String)
  /-- A configuration text cannot be read. -/
  | unreadableConfiguration
  /-- No attribute schema has this key. -/
  | unknownSchema (key : String)
  /-- The kind has no core field of this name. -/
  | unknownField (name : String) (kind : Kind)
  /-- A comparison comes without a literal. -/
  | missingLiteral (subject : String)
  /-- A literal cannot be read as a value of its type. -/
  | badLiteral (literal : String) (type : ValueType)
  /-- A literal is none of the values of an enumeration. -/
  | unlistedLiteral (literal schema : String) (values : List String)
  /-- A predicate has no meaning for the kind. -/
  | notApplicable (predicate : String) (kind : Kind)
  /-- A predicate over keys lists none. -/
  | noKeys (predicate : String)
  /-- The store failed. -/
  | store (fault : Fault)
  /-- The directory failed. -/
  | directory (fault : Fault)
deriving DecidableEq

namespace Error

/-- The group of a cause. -/
def group : Error → ErrorGroup
  | .unknownRealm _ => .invalidRealm
  | .conflictingSort _ | .unreadableConfiguration => .invalidParameters
  | .unknownSchema _ | .unknownField _ _ | .missingLiteral _ | .badLiteral _ _
  | .unlistedLiteral _ _ _ | .notApplicable _ _ | .noKeys _ =>
    .invalidExpression
  | .store _ => .store
  | .directory _ => .directory

/-- Whether the cause lies in what the caller asked for. -/
def isClient (e : Error) : Bool :=
  match e.group with
  | .invalidRealm | .invalidParameters | .invalidExpression => true
  | .store | .directory => false

/-- What a literal of a type is called in messages. -/
def literalNoun : ValueType → String
  | .string => "string"
  | .enum => "enum"
  | .boolean => "boolean"
  | .date => "date"
  | .double => "double"
  | .long => "long"

/-- The wording of a cause without its heading. -/
def detail : Error → String
  | .unknownRealm path => "Invalid realm specified: " ++ path
  | .conflictingSort keys =>
    "Order by more than one attribute is not allowed; remove one from "
      ++ Text.joined ", " keys
  | .unreadableConfiguration => "invalid search configuration"
  | .unknownSchema key => "Invalid schema key " ++ key
  | .unknownField name kind =>
    "Invalid core field " ++ name ++ " for " ++ kind.name
  | .missingLiteral subject => "missing expression for " ++ subject
  | .badLiteral literal type =>
    "'" ++ literal ++ "' is not a valid " ++ literalNoun type ++ " value"
  | .unlistedLiteral literal schema values =>
    "'" ++ literal ++ "' is not one of the values of " ++ schema ++ ": "
      ++ Text.quotedList values
  | .notApplicable predicate kind =>
    predicate ++ " is not applicable to " ++ kind.name
  | .noKeys predicate => predicate ++ " requires at least one key"
  | .store fault => fault.message
  | .directory fault => fault.message

/-- The message of a cause. -/
def message (e : Error) : String :=
  e.group.heading ++ e.detail

end Error

end IdentitySearch
