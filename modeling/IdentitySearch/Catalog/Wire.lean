/-
Schemas and realms as JSON.
-/
import IdentitySearch.Catalog.Schema
import IdentitySearch.Realm
import IdentitySearch.Json.Shape

namespace IdentitySearch

namespace Schema

def toJson (s : Schema) : Json :=
  .record
    [ ("key", .text s.key),
      ("schema_type", .text s.type.name),
      ("multivalue", .bool s.multivalue),
      ("unique_constraint", .bool s.unique),
      ("mandatory_condition", .text s.mandatoryCondition),
      ("enum_values", .array (s.enumValues.map .text)) ]

/-- The schema that a JSON value describes; only the enumeration values may be
left out. -/
def ofJson? (j : Json) : Option Schema :=
  match j.fields? ["key", "schema_type", "multivalue", "unique_constraint",
      "mandatory_condition", "enum_values"] with
  | some [key, type, multivalue, unique, mandatory, enumValues] =>
    match Json.required? Json.text? key,
        Json.required? (fun v => v.name?.bind ValueType.ofName?) type,
        Json.required? Json.bool? multivalue, Json.required? Json.bool? unique,
        Json.required? Json.text? mandatory,
        Json.optional? [] (Json.list? Json.text?) enumValues with
    | some key, some type, some multivalue, some unique, some mandatory,
        some enumValues => some ⟨key, type, multivalue, unique, mandatory,
          enumValues⟩
    | _, _, _, _, _, _ => none
  | _ => none

end Schema

namespace Realm

def toJson (r : Realm) : Json :=
  .record [("key", .text r.key), ("full_path", .text r.fullPath)]

def ofJson? (j : Json) : Option Realm :=
  match j.fields? ["key", "full_path"] with
  | some [key, fullPath] =>
    match Json.required? Json.text? key,
      Json.required? Json.text? fullPath with
    | some key, some fullPath => some ⟨key, fullPath⟩
    | _, _ => none
  | _ => none

end Realm

end IdentitySearch
