/-
The columns of the search views and the type of value each of them stores. A
column converts what is stored in it, and what it is compared with, to its
affinity.
-/

namespace IdentitySearch

/-- What a column makes of the values stored in it. -/
inductive Affinity where
  | text
  | integer
  | real
deriving DecidableEq

/-- The kinds of values that a column can hold. -/
inductive Storage where
  | null
  | integer
  | real
  | text
deriving DecidableEq

def Storage.name : Storage → String
  | .null => "Null"
  | .integer => "Integer"
  | .real => "Real"
  | .text => "Text"

/-- A column of a search view. -/
inductive Column where
  -- on every view
  | anyId
  -- core columns
  | realmId | creator | creationDate | lastModifier | lastChangeDate
  | username | status | failedLogins | lastLoginDate | changePwdDate
  | suspended | mustChangePassword | cipherAlgorithm
  | name | userOwnerId | groupOwnerId | typeId
  -- attribute values
  | schemaId | booleanValue | dateValue | doubleValue | longValue | stringValue
  -- assignments
  | groupId | roleId | privilegeId | resourceId | anyTypeClassId | dynRealmId
  | rightAnyId | relationshipType
deriving DecidableEq

namespace Column

def all : List Column :=
  [.anyId, .realmId, .creator, .creationDate, .lastModifier, .lastChangeDate,
   .username, .status, .failedLogins, .lastLoginDate, .changePwdDate,
   .suspended, .mustChangePassword, .cipherAlgorithm, .name, .userOwnerId,
   .groupOwnerId, .typeId, .schemaId, .booleanValue, .dateValue, .doubleValue,
   .longValue, .stringValue, .groupId, .roleId, .privilegeId, .resourceId,
   .anyTypeClassId, .dynRealmId, .rightAnyId, .relationshipType]

def sqlName : Column → String
  | .anyId => "any_id"
  | .realmId => "realm_id"
  | .creator => "creator"
  | .creationDate => "creation_date"
  | .lastModifier => "last_modifier"
  | .lastChangeDate => "last_change_date"
  | .username => "username"
  | .status => "status"
  | .failedLogins => "failed_logins"
  | .lastLoginDate => "last_login_date"
  | .changePwdDate => "change_pwd_date"
  | .suspended => "suspended"
  | .mustChangePassword => "must_change_password"
  | .cipherAlgorithm => "cipher_algorithm"
  | .name => "name"
  | .userOwnerId => "user_owner_id"
  | .groupOwnerId => "group_owner_id"
  | .typeId => "type_id"
  | .schemaId => "schema_id"
  | .booleanValue => "booleanvalue"
  | .dateValue => "datevalue"
  | .doubleValue => "doublevalue"
  | .longValue => "longvalue"
  | .stringValue => "stringvalue"
  | .groupId => "group_id"
  | .roleId => "role_id"
  | .privilegeId => "privilege_id"
  | .resourceId => "resource_id"
  | .anyTypeClassId => "anytypeclass_id"
  | .dynRealmId => "dynrealm_id"
  | .rightAnyId => "right_any_id"
  | .relationshipType => "type"

def ofSqlName? (s : String) : Option Column :=
  all.find? fun c => c.sqlName = s

/-- Counters, truth values and numbers are stored as numbers, all else as
text. -/
def affinity : Column → Affinity
  | .failedLogins | .suspended | .mustChangePassword | .booleanValue
  | .longValue => .integer
  | .doubleValue => .real
  | _ => .text

theorem ofSqlName?_sqlName (c : Column) : ofSqlName? c.sqlName = some c := by
  cases c <;> decide

theorem mem_all (c : Column) : c ∈ all := by
  cases c <;> simp [all]

end Column

end IdentitySearch
