/-
The directory: where attribute schemas, realms and dynamic realms are looked
up. Every lookup may fail, and a lookup that finds nothing is not a failure.
-/
import IdentitySearch.Error
import IdentitySearch.Realm
import IdentitySearch.Catalog.Schema

namespace IdentitySearch

/-- The lookups that a search needs. -/
structure Directory where
  /-- The schema with this key. -/
  schema? : (key : String) → Except Error (Option Schema)
  /-- The realm with this full path. -/
  realm? : (fullPath : String) → Except Error (Option Realm)
  /-- The keys of the realms that lie at or below both paths, in the order of
  their full paths. -/
  realmsWithin : (path base : String) → Except Error (List String)
  /-- The key of the dynamic realm with this identifier. -/
  dynRealm? : (id : String) → Except Error (Option String)

/-- The realm with this full path; it is an error that there is none. -/
def Directory.realm (d : Directory) (fullPath : String) : Except Error Realm :=
  match d.realm? fullPath with
  | .error e => .error e
  | .ok none => .error (.unknownRealm fullPath)
  | .ok (some realm) => .ok realm

end IdentitySearch
