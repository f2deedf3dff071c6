/-
The limit on heights, applied to the answers of a database. A condition that is
too high as text is refused before anything is looked up; one that becomes too
high while names are looked up is refused after the views are known to be
there. Below the limit an answer is what the statement asks for.
-/
import IdentitySearch.Statement.Basic
import IdentitySearch.Sql.Height
import IdentitySearch.Error

namespace IdentitySearch.Target

/-- The answer about a target, or the refusal of a condition that is too
high. -/
def limited {α : Type} (t : Target)
    (answer : Except Error α) : Except Error α :=
  let q := t.selection.query
  if heightLimit < q.height then .error (.store .tooDeep)
  else match answer with
    | .error e => .error e
    | .ok a =>
      if heightLimit < q.nesting then .error (.store .tooDeep) else .ok a

end IdentitySearch.Target
