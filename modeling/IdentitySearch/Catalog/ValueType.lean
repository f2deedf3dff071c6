/-
The semantic types of attribute and core-field values. The type of an attribute
decides which column of the attribute views holds its values, and which
operators make sense for it.
-/
import IdentitySearch.Catalog.Column
import IdentitySearch.Text.Ascii

namespace IdentitySearch

/-- The semantic type of a value. -/
inductive ValueType where
  | string
  | enum
  | boolean
  | date
  | double
  | long
deriving DecidableEq

namespace ValueType

def all : List ValueType := [.string, .enum, .boolean, .date, .double, .long]

def name : ValueType → String
  | .string => "String"
  | .enum => "Enum"
  | .boolean => "Boolean"
  | .date => "Date"
  | .double => "Double"
  | .long => "Long"

def ofName? (s : String) : Option ValueType :=
  all.find? fun t => t.name = s

/-- The value type with this name in any case of letters. -/
def parse? (s : String) : Option ValueType :=
  all.find? fun t => Text.sameIgnoringCase t.name s

/-- The column of the attribute views that holds values of a type. -/
def column : ValueType → Column
  | .string | .enum => .stringValue
  | .boolean => .booleanValue
  | .date => .dateValue
  | .double => .doubleValue
  | .long => .longValue

/-- Patterns and case folding apply to text only. -/
def isTextual : ValueType → Bool
  | .string | .enum => true
  | _ => false

theorem ofName?_name (t : ValueType) : ofName? t.name = some t := by
  cases t <;> rfl

end ValueType

end IdentitySearch
