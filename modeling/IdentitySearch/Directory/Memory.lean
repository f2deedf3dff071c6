/-
A directory kept in memory. Schemas are kept by key, realms by full path and
dynamic realms by identifier; adding another under the same name replaces the
first. Its lookups never fail.
-/
import IdentitySearch.Directory

namespace IdentitySearch

/-- A directory kept in memory. Realms are in ascending order of full path. -/
structure MemoryDirectory where
  schemas : List Schema := []
  realms : List Realm := []
  dynRealms : List (String × String) := []

namespace MemoryDirectory

/-- A directory that knows nothing. -/
def empty : MemoryDirectory := {}

/-- A realm put among others at the place of its full path, instead of the one
that has it already. -/
def placeRealm (realm : Realm) : List Realm → List Realm
  | [] => [realm]
  | r :: rest =>
    if realm.fullPath < r.fullPath then realm :: r :: rest
    else if realm.fullPath = r.fullPath then realm :: rest
    else r :: placeRealm realm rest

def addSchema (d : MemoryDirectory) (schema : Schema) : MemoryDirectory :=
  { d with schemas := schema :: d.schemas.filter fun s => s.key ≠ schema.key }

def addRealm (d : MemoryDirectory) (realm : Realm) : MemoryDirectory :=
  { d with realms := placeRealm realm d.realms }

def addDynRealm (d : MemoryDirectory) (id key : String) : MemoryDirectory :=
  { d with dynRealms := (id, key) :: d.dynRealms.filter fun r => r.1 ≠ id }

/-- The keys of the realms at or below both paths. -/
def realmsWithin (d : MemoryDirectory) (path base : String) : List String :=
  (d.realms.filter fun r => Realm.isUnder r.fullPath path
    && Realm.isUnder r.fullPath base)
    |>.map Realm.key

def directory (d : MemoryDirectory) : Directory where
  schema? key := .ok (d.schemas.find? fun s => s.key = key)
  realm? fullPath := .ok (d.realms.find? fun r => r.fullPath = fullPath)
  realmsWithin path base := .ok (d.realmsWithin path base)
  dynRealm? id := .ok (d.dynRealms.lookup id)

end MemoryDirectory

end IdentitySearch
