/-
Search conditions: a tree of conjunctions and disjunctions over predicates.
Negation exists at the leaves only. A predicate is about an attribute, a core
field, or an assignment of the identity (class, relationship, membership, role,
privilege, resource, dynamic realm).
-/

namespace IdentitySearch

-- ========================================================== operators

/-- How an attribute or a field is compared. -/
inductive Operator where
  | eq
  | ieq
  | like
  | ilike
  | ge
  | gt
  | le
  | lt
  | isNull
  | isNotNull
deriving DecidableEq

namespace Operator

def all : List Operator :=
  [.eq, .ieq, .like, .ilike, .ge, .gt, .le, .lt, .isNull, .isNotNull]

def name : Operator → String
  | .eq => "EQ"
  | .ieq => "IEQ"
  | .like => "LIKE"
  | .ilike => "ILIKE"
  | .ge => "GE"
  | .gt => "GT"
  | .le => "LE"
  | .lt => "LT"
  | .isNull => "IS_NULL"
  | .isNotNull => "IS_NOT_NULL"

def ofName? (s : String) : Option Operator :=
  all.find? fun op => op.name = s

/-- Whether only the presence of a value is tested, so no literal is needed. -/
def isNullCheck : Operator → Bool
  | .isNull | .isNotNull => true
  | _ => false

/-- Whether the literal is a pattern. -/
def isPattern : Operator → Bool
  | .like | .ilike => true
  | _ => false

/-- Whether the case of letters is ignored. -/
def ignoresCase : Operator → Bool
  | .ieq | .ilike => true
  | _ => false

theorem ofName?_name (op : Operator) : ofName? op.name = some op := by
  cases op <;> rfl

end Operator

-- ========================================================= predicates

/-- A statement about one identity. -/
inductive Predicate where
  /-- Compares a custom attribute. -/
  | attribute (schema : String) (op : Operator) (literal : Option String)
  /-- Compares a core field. -/
  | field (name : String) (op : Operator) (literal : Option String)
  /-- The any object has this type. -/
  | anyType (key : String)
  /-- The auxiliary class is assigned. -/
  | auxClass (key : String)
  /-- There is a relationship to one of these. -/
  | relationship (targets : List String)
  /-- There is a relationship of this type, on either side of it. -/
  | relationshipType (key : String)
  /-- Is a member of one of these groups. -/
  | membership (groups : List String)
  /-- Is a group that has one of these members. -/
  | member (members : List String)
  /-- The role is assigned. -/
  | role (key : String)
  /-- The privilege is granted through a role. -/
  | privilege (key : String)
  /-- The resource is assigned. -/
  | resource (key : String)
  /-- Belongs to the dynamic realm. -/
  | dynRealm (key : String)
deriving DecidableEq

namespace Predicate

/-- What a predicate is called in messages. -/
def title : Predicate → String
  | .attribute _ _ _ => "AttrCond"
  | .field _ _ _ => "AnyCond"
  | .anyType _ => "AnyTypeCond"
  | .auxClass _ => "AuxClassCond"
  | .relationship _ => "RelationshipCond"
  | .relationshipType _ => "RelationshipTypeCond"
  | .membership _ => "MembershipCond"
  | .member _ => "MemberCond"
  | .role _ => "RoleCond"
  | .privilege _ => "PrivilegeCond"
  | .resource _ => "ResourceCond"
  | .dynRealm _ => "DynRealmCond"

end Predicate

-- ========================================================= conditions

/-- A condition. -/
inductive Condition where
  | leaf (p : Predicate)
  | notLeaf (p : Predicate)
  | and (left right : Condition)
  | or (left right : Condition)
deriving DecidableEq

namespace Condition

/-- All of the conditions hold; nested to the left. There is no condition over
none. -/
def all? : List Condition → Option Condition
  | [] => none
  | c :: rest => some (rest.foldl .and c)

/-- One of the conditions holds; nested to the left. There is no condition over
none. -/
def any? : List Condition → Option Condition
  | [] => none
  | c :: rest => some (rest.foldl .or c)

/-- The number of predicates in a condition. -/
def leafCount : Condition → Nat
  | .leaf _ | .notLeaf _ => 1
  | .and left right | .or left right => left.leafCount + right.leafCount

/-- The predicates of a condition from left to right, each with whether it is
negated. -/
def leaves : Condition → List (Predicate × Bool)
  | .leaf p => [(p, false)]
  | .notLeaf p => [(p, true)]
  | .and left right | .or left right => left.leaves ++ right.leaves

end Condition

end IdentitySearch
