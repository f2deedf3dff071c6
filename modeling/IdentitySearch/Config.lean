/-
The configuration of a search engine: the tenant domain, a dialect that spares
asking the database, a limit for page sizes, and the name of the core field
that refers to the realm.
-/
import IdentitySearch.Dialect
import IdentitySearch.Error
import IdentitySearch.Catalog.Field
import IdentitySearch.Json.Reader
import IdentitySearch.Json.Shape

namespace IdentitySearch

/-- The configuration of a search engine. -/
structure Config where
  domain : String := "Master"
  dialect : Option Dialect := none
  /-- The largest page size; below 2^32. -/
  maxPageSize : Option Nat := none
  realmField : String := CoreField.realmName
deriving DecidableEq

namespace Config

/-- A page size within the limit. -/
def clampPageSize (c : Config) (size : Nat) : Nat :=
  match c.maxPageSize with
  | none => size
  | some limit => min size limit

/-- The configuration that a JSON value describes; what is left out has its
usual value. -/
def ofJson? (j : Json) : Option Config :=
  match j.fields? ["domain", "dialect", "max_page_size", "realm_field"] with
  | some [domain, dialect, maxPageSize, realmField] =>
    let usual : Config := {}
    match Json.optional? usual.domain Json.text? domain,
        Json.optional? usual.dialect
          (Json.nullable? fun v => v.name?.bind Dialect.ofName?) dialect,
        Json.optional? usual.maxPageSize
          (Json.nullable? Json.count?) maxPageSize,
        Json.optional? usual.realmField Json.text? realmField with
    | some domain, some dialect, some maxPageSize, some realmField =>
      some ⟨domain, dialect, maxPageSize, realmField⟩
    | _, _, _, _ => none
  | _ => none

def parse (s : String) : Except Error Config :=
  match (Json.read? s).bind ofJson? with
  | some c => .ok c
  | none => .error .unreadableConfiguration

end Config

end IdentitySearch
