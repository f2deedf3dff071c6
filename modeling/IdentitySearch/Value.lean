/-
Bind values: what stands for the placeholders of a statement. A literal of a
predicate is text; it is read according to the type of the attribute or field
it is compared with, and what cannot be read is an error of the caller.
-/
import IdentitySearch.Error
import IdentitySearch.Catalog.Schema
import IdentitySearch.Number.Literal
import IdentitySearch.Number.Shortest
import IdentitySearch.Time.Literal
import IdentitySearch.Json.Writer

namespace IdentitySearch

/-- A value bound to a placeholder. -/
inductive BindValue where
  | text (s : String)
  | long (n : Int64)
  | double (x : Double)
  | boolean (b : Bool)
  | date (t : Instant)
deriving DecidableEq

namespace BindValue

-- ============================================================ reading

/-- A truth value: one of two words, in any case of letters. -/
def readBoolean? (cs : List Char) : Option Bool :=
  let word := Text.lower (String.ofList cs)
  if word = "true" then some true
  else if word = "false" then some false
  else none

/-- The value that a literal writes in a type, if it writes one. Blanks around
it do not count, except in text. -/
def read? (type : ValueType) (literal : String) : Option BindValue :=
  let trimmed := Text.trim literal.toList
  match type with
  | .string | .enum => some (.text literal)
  | .long => (Number.readLong? trimmed).map .long
  | .double => (Number.readDouble? trimmed).map .double
  | .boolean => (readBoolean? trimmed).map .boolean
  | .date => (Instant.read? trimmed).map .date

/-- The value that a literal writes in a type. -/
def parse (type : ValueType) (literal : String) : Except Error BindValue :=
  match read? type literal with
  | some value => .ok value
  | none => .error (.badLiteral literal type)

/-- The value that a literal writes for a schema. An enumeration that lists its
values takes only those. -/
def forSchema (schema : Schema) (literal : String) : Except Error BindValue :=
  if schema.type = .enum ∧ schema.enumValues ≠ []
    ∧ literal ∉ schema.enumValues then
    .error (.unlistedLiteral literal schema.key schema.enumValues)
  else parse schema.type literal

-- =============================================================== text

/-- A value as it is shown to a reader. -/
def display : BindValue → String
  | .text s => "'" ++ s ++ "'"
  | .long n => toString n.toInt
  | .double x => x.plain
  | .boolean b => if b then "1" else "0"
  | .date t => "'" ++ t.text ++ "'"

/-- A value as JSON text: an object whose only member is named for the kind of
value. What is no finite number is null. -/
def json (v : BindValue) : String :=
  let (name, body) := match v with
    | .text s => ("String", Json.quotedString s)
    | .long n => ("Long", Json.writeInt n.toInt)
    | .double x => ("Double", (x.json?.getD "null").toList)
    | .boolean b => ("Boolean", Json.write (.bool b))
    | .date t => ("Date", Json.quotedString t.exactText)
  String.ofList ('\x7b' :: Json.quotedString name ++ ':' :: body ++ ['\x7d'])

theorem parse_string (literal : String) :
    parse .string literal = .ok (.text literal) :=
  rfl

theorem parse_enum (literal : String) :
    parse .enum literal = .ok (.text literal) :=
  rfl

end BindValue

end IdentitySearch
