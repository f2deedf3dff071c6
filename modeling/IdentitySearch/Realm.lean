/-
Realms and their full paths. Realms form a tree; a full path names a realm by
the segments that lead to it, each after a slash, and the root by a lone slash.
Lying below is a question of whole segments: the realm /evening is not below
/even. A scope text that is not a path may name a group whose owner it speaks
for.
-/
import IdentitySearch.Text.Ascii

namespace IdentitySearch

/-- A realm. -/
structure Realm where
  key : String
  fullPath : String
deriving DecidableEq

namespace Realm

/-- The full path of the root. -/
def rootPath : String := "/"

/-- Whether a path begins with a slash. -/
def isPath (s : String) : Bool :=
  s.toList.head? = some '/'

/-- Whether a path is another one or lies below it. -/
def isUnder (path ancestor : String) : Bool :=
  if ancestor = rootPath then isPath path
  else match Text.after? ancestor.toList path.toList with
    | none => false
    | some rest => rest.isEmpty || rest.head? = some '/'

/-- The path and the group of a scope `<path>@<group>`: one mark, and neither
side empty. -/
def ownedGroup? (scope : String) : Option (String × String) :=
  match Text.splitFirst? '@' scope.toList with
  | none => none
  | some (path, group) =>
    if path.isEmpty || group.isEmpty || group.contains '@' then none
    else some (String.ofList path, String.ofList group)

end Realm

end IdentitySearch
