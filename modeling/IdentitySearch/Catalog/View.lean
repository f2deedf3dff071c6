/-
The search views. Every kind has a view of its core fields (one row an
identity), two views of attribute values, and views of its resources and
auxiliary classes; kinds that can be members of groups have views of
relationships, memberships and inherited resources; users alone have roles and
privileges; dynamic realms share one view. A view that a kind does not have
cannot be written down.
-/
import IdentitySearch.Kind

namespace IdentitySearch

/-- What a view holds. -/
inductive ViewRole where
  | field
  | attribute
  | uniqueAttribute
  | relationship
  | membership
  | dynGroupMembership
  | role
  | privilege
  | dynRoleMembership
  | dynPrivilegeMembership
  | resource
  | groupResource
  | dynRealmMembership
  | auxClass
deriving DecidableEq

/-- The alias under which a view of a role is joined. -/
def ViewRole.alias : ViewRole → String
  | .field => "sv"
  | .attribute => "sva"
  | .uniqueAttribute => "svu"
  | .relationship => "svr"
  | .membership => "svm"
  | .dynGroupMembership => "svdg"
  | .role => "svrl"
  | .privilege => "svp"
  | .dynRoleMembership => "svdr"
  | .dynPrivilegeMembership => "svdp"
  | .resource => "svres"
  | .groupResource => "svgr"
  | .dynRealmMembership => "svdrl"
  | .auxClass => "svac"

/-- A search view. -/
inductive View where
  | field (kind : Kind)
  | attribute (kind : Kind)
  | uniqueAttribute (kind : Kind)
  | resource (kind : Kind)
  | auxClass (kind : Kind)
  | relationship (kind : MemberKind)
  | membership (kind : MemberKind)
  | dynGroupMembership (kind : MemberKind)
  | groupResource (kind : MemberKind)
  | role
  | privilege
  | dynRoleMembership
  | dynPrivilegeMembership
  | dynRealmMembership
deriving DecidableEq

namespace View

/-- The role of a view. -/
def viewRole : View → ViewRole
  | .field _ => .field
  | .attribute _ => .attribute
  | .uniqueAttribute _ => .uniqueAttribute
  | .resource _ => .resource
  | .auxClass _ => .auxClass
  | .relationship _ => .relationship
  | .membership _ => .membership
  | .dynGroupMembership _ => .dynGroupMembership
  | .groupResource _ => .groupResource
  | .role => .role
  | .privilege => .privilege
  | .dynRoleMembership => .dynRoleMembership
  | .dynPrivilegeMembership => .dynPrivilegeMembership
  | .dynRealmMembership => .dynRealmMembership

/-- The alias under which a view is joined. -/
def «alias» (v : View) : String :=
  v.viewRole.alias

/-- The name of the core-field view of a kind, which starts the names of the
other views of that kind. -/
def stem : Kind → String
  | .user => "user_search"
  | .group => "group_search"
  | .anyObject => "anyobject_search"

/-- The letter that tells relationships and memberships of users and of any
objects apart. -/
def memberLetter : MemberKind → String
  | .user => "u"
  | .anyObject => "a"

def sqlName : View → String
  | .field k => stem k
  | .attribute k => stem k ++ "_attr"
  | .uniqueAttribute k => stem k ++ "_unique_attr"
  | .resource k => stem k ++ "_resource"
  | .auxClass k => stem k ++ "_auxclass"
  | .relationship m => stem m.kind ++ "_" ++ memberLetter m ++ "relationship"
  | .membership m => stem m.kind ++ "_" ++ memberLetter m ++ "membership"
  | .dynGroupMembership m => stem m.kind ++ "_dyngmemb"
  | .groupResource m => stem m.kind ++ "_group_res"
  | .role => "user_search_role"
  | .privilege => "user_search_priv"
  | .dynRoleMembership => "user_search_dynrmemb"
  | .dynPrivilegeMembership => "user_search_dynpriv"
  | .dynRealmMembership => "search_dynrealmmembership"

/-- The view of attribute values: unique values have a view of their own. -/
def attributes (kind : Kind) (unique : Bool) : View :=
  if unique then .uniqueAttribute kind else .attribute kind

def all : List View :=
  Kind.all.flatMap (fun k =>
    [.field k, .attribute k, .uniqueAttribute k, .resource k, .auxClass k])
  ++ MemberKind.all.flatMap (fun m =>
    [.relationship m, .membership m, .dynGroupMembership m, .groupResource m])
  ++ [.role, .privilege, .dynRoleMembership, .dynPrivilegeMembership,
      .dynRealmMembership]

def ofSqlName? (s : String) : Option View :=
  all.find? fun v => v.sqlName = s

theorem mem_all (v : View) : v ∈ all := by
  cases v <;> (try rename_i k; cases k) <;>
    simp [all, Kind.all, MemberKind.all]

theorem ofSqlName?_sqlName (v : View) : ofSqlName? v.sqlName = some v := by
  cases v <;> (try rename_i k; cases k) <;> rfl

end View

/-- The view of a role that a kind has, if it has one. -/
def Kind.view? (kind : Kind) : ViewRole → Option View
  | .field => some (.field kind)
  | .attribute => some (.attribute kind)
  | .uniqueAttribute => some (.uniqueAttribute kind)
  | .resource => some (.resource kind)
  | .auxClass => some (.auxClass kind)
  | .dynRealmMembership => some .dynRealmMembership
  | .relationship => kind.member?.map .relationship
  | .membership => kind.member?.map .membership
  | .dynGroupMembership => kind.member?.map .dynGroupMembership
  | .groupResource => kind.member?.map .groupResource
  | .role => if kind = .user then some .role else none
  | .privilege => if kind = .user then some .privilege else none
  | .dynRoleMembership =>
    if kind = .user then some .dynRoleMembership else none
  | .dynPrivilegeMembership =>
    if kind = .user then some .dynPrivilegeMembership else none

end IdentitySearch
