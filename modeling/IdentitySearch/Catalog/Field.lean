/-
The core fields of an identity: properties that every identity of a kind has,
each a column of the core-field view. Fields that refer to another entity (the
realm, owners, the type of an any object) hold its key.
-/
import IdentitySearch.Catalog.ValueType
import IdentitySearch.Kind

namespace IdentitySearch

/-- A core field. -/
structure CoreField where
  name : String
  column : Column
  type : ValueType
  /-- Whether the column holds the key of another entity. -/
  isReference : Bool := false
deriving DecidableEq

namespace CoreField

def realmName : String := "realm"

/-- A field that holds the key of another entity. -/
def reference (name : String) (column : Column) : CoreField :=
  { name := name, column := column, type := .string, isReference := true }

/-- The fields of every kind. -/
def common : List CoreField :=
  [ { name := "key", column := .anyId, type := .string },
    reference realmName .realmId,
    { name := "creator", column := .creator, type := .string },
    { name := "creationDate", column := .creationDate, type := .date },
    { name := "lastModifier", column := .lastModifier, type := .string },
    { name := "lastChangeDate", column := .lastChangeDate, type := .date } ]

/-- The fields of one kind only. -/
def particular : Kind → List CoreField
  | .user =>
    [ { name := "username", column := .username, type := .string },
      { name := "status", column := .status, type := .string },
      { name := "failedLogins", column := .failedLogins, type := .long },
      { name := "lastLoginDate", column := .lastLoginDate, type := .date },
      { name := "changePwdDate", column := .changePwdDate, type := .date },
      { name := "suspended", column := .suspended, type := .boolean },
      { name := "mustChangePassword",
        column := .mustChangePassword, type := .boolean },
          { name := "cipherAlgorithm", column := .cipherAlgorithm,
            type := .enum } ]
  | .group =>
    [ { name := "name", column := .name, type := .string },
      reference "userOwner" .userOwnerId,
      reference "groupOwner" .groupOwnerId ]
  | .anyObject =>
    [ { name := "name", column := .name, type := .string },
      { name := "status", column := .status, type := .string },
      reference "type" .typeId ]

end CoreField

/-- The core fields of a kind, in catalog order. -/
def Kind.fields (kind : Kind) : List CoreField :=
  CoreField.common ++ CoreField.particular kind

def Kind.field? (kind : Kind) (name : String) : Option CoreField :=
  kind.fields.find? fun f => f.name = name

end IdentitySearch
