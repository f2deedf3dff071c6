/-
What an administrator may see. He holds scopes, each a text of one of three
forms: a realm path, which grants the realm and in a recursive search all below
it; `<path>@<group>`, which grants what belongs to a group that he owns; and
the identifier of a dynamic realm, which grants its members. Without scopes
everything is granted. Realms become a restriction on the rows of the search
(`Visibility`); dynamic realms and owned groups become conditions beside the
one he asks for.
-/
import IdentitySearch.Condition
import IdentitySearch.Directory
import IdentitySearch.KeySet
import IdentitySearch.Catalog.Field
import IdentitySearch.Catalog.View
import IdentitySearch.Sql.Fragment

namespace IdentitySearch

-- =========================================================== visibility

/-- Which identities are not hidden by their realm. -/
inductive Visibility where
  | everyone
  | nobody
  /-- Those in one of these realms. -/
  | inRealms (keys : List String)
deriving DecidableEq

/-- A visibility in SQL, over identities under the alias `u`. -/
def Visibility.fragment (kind : Kind) : Visibility → Fragment
  | .everyone => .ofText "u.any_id IS NOT NULL"
  | .nobody => .ofText "1=2"
  | .inRealms keys =>
    Fragment.ofText
      ("u.any_id IN (SELECT any_id FROM " ++ (View.field kind).sqlName
        ++ " WHERE realm_id IN (")
      ++ .join ", " (keys.map fun key => .placeholder (.text key))
        ++ .ofText "))"

-- =============================================================== grants

/-- What scopes grant. -/
structure Grants where
  realms : KeySet := .empty
  dynRealms : KeySet := .empty
  /-- The groups that are owned. -/
  groups : KeySet := .empty
deriving DecidableEq

namespace Grants

def nothing : Grants := {}

/-- What a recursive search is granted by one scope more. A path must name a
realm and grants those at or below it that are within the base as well; a
dynamic realm that does not exist grants nothing. -/
def withScope (d : Directory) (base : Realm) (g : Grants) (scope : String) :
    Except Error Grants :=
  match Realm.ownedGroup? scope with
  | some (_, group) => .ok { g with groups := g.groups.insert group }
  | none =>
    if Realm.isPath scope then do
      let realm ← d.realm scope
      let keys ← d.realmsWithin realm.fullPath base.fullPath
      return { g with realms := (KeySet.ofList keys).union g.realms }
    else do
      match ← d.dynRealm? scope with
      | none => return g
      | some key => return { g with dynRealms := g.dynRealms.insert key }

/-- Dynamic realms decide alone: where there is one, realms do not count. -/
def settle (g : Grants) : Grants :=
  if g.dynRealms.isEmpty then g else { g with realms := .empty }

/-- What scopes grant to a search at and below the base. -/
def atOrBelow (d : Directory) (base : Realm) (scopes : List String) :
    Except Error Grants :=
  (scopes.foldlM (withScope d base) nothing).map settle

/-- What scopes grant to a search in the base alone: the base, if it is at or
below one of them. -/
def inBase (base : Realm) (scopes : List String) : Grants :=
  if scopes.any fun scope => Realm.isUnder base.fullPath scope then
    { nothing with realms := KeySet.empty.insert base.key }
  else nothing

/-- The visibility that grants come to. -/
def visibility (g : Grants) : Visibility :=
  if !g.realms.isEmpty then .inRealms g.realms.keys
  else if g.dynRealms.isEmpty && g.groups.isEmpty then .nobody
  else .everyone

end Grants

-- =============================================================== filter

/-- What a search is restricted to. -/
structure ScopeFilter where
  grants : Grants
  visibility : Visibility
deriving DecidableEq

namespace ScopeFilter

/-- The restriction of a search by scopes. -/
def make (d : Directory) (base : Realm) (recursive : Bool)
    (scopes : List String) :
    Except Error ScopeFilter :=
  if scopes.isEmpty then .ok ⟨.nothing, .everyone⟩
  else if recursive then
    (Grants.atOrBelow d base scopes).map fun g => ⟨g, g.visibility⟩
  else
    let g := Grants.inBase base scopes
    .ok ⟨g, g.visibility⟩

/-- What belongs to an owned group: for groups the group itself, else its
members. -/
def ownedBy (kind : Kind) (group : String) : Predicate :=
  if kind = .group then .field "key" .eq (some group) else .membership [group]

/-- One of the granted dynamic realms. -/
def dynRealmCondition? (f : ScopeFilter) : Option Condition :=
  Condition.any? (f.grants.dynRealms.keys.map fun key => .leaf (.dynRealm key))

/-- One of the owned groups. -/
def groupCondition? (f : ScopeFilter) (kind : Kind) : Option Condition :=
  Condition.any?
    (f.grants.groups.keys.map fun group => .leaf (ownedBy kind group))

/-- The condition of a search together with what it is restricted to. -/
def restrict (f : ScopeFilter) (kind : Kind) (c : Condition) : Condition :=
  (f.dynRealmCondition?.toList ++ (f.groupCondition? kind).toList).foldl .and c

end ScopeFilter

end IdentitySearch
