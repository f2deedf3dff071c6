/-
Attribute schemas. A schema describes one custom attribute: its value type,
whether an identity may hold several values, whether values are unique among
identities (such values have a view of their own), when the attribute is
required, and for enumerations which values there are.
-/
import IdentitySearch.Catalog.ValueType

namespace IdentitySearch

/-- The description of a custom attribute. -/
structure Schema where
  key : String
  type : ValueType
  multivalue : Bool := false
  unique : Bool := false
  /-- When the attribute is required; the text `true` means always. -/
  mandatoryCondition : String := "false"
  /-- The values of an enumeration; none listed means any. -/
  enumValues : List String := []
deriving DecidableEq

/-- Whether every identity holds the attribute. -/
def Schema.isMandatory (s : Schema) : Bool :=
  s.mandatoryCondition = "true"

end IdentitySearch
