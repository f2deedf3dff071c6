/-
SQL dialects. One of them needs to be told which character escapes the
wildcards of a pattern; the others are treated alike.
-/
import IdentitySearch.Text.Ascii

namespace IdentitySearch

/-- A dialect of SQL. -/
inductive Dialect where
  | generic
  | oracle
deriving DecidableEq

namespace Dialect

def name : Dialect → String
  | .generic => "generic"
  | .oracle => "oracle"

def ofName? (s : String) : Option Dialect :=
  if s = "generic" then some .generic
  else if s = "oracle" then some .oracle
  else none

/-- Whether a pattern has to say which character escapes its wildcards. -/
def needsEscape : Dialect → Bool
  | .generic => false
  | .oracle => true

/-- The clause that makes the backslash the escape character of a pattern. -/
def escapeText : String := " ESCAPE '\\'"

/-- The clause after a pattern, if the dialect needs one. -/
def escapeClause? (d : Dialect) : Option String :=
  if d.needsEscape then some escapeText else none

/-- The dialect of a database product, by its name. -/
def ofProduct (product : String) : Dialect :=
  if Text.occurs "oracle".toList (Text.lower product).toList then .oracle
    else .generic

theorem ofName?_name (d : Dialect) : ofName? d.name = some d := by
  cases d <;> rfl

end Dialect

end IdentitySearch
