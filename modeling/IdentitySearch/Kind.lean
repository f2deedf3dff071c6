/-
The three kinds of identity, and the two of them that can be members of groups.
Each kind has its own family of views, so nearly everything else is indexed by
a kind.
-/
import IdentitySearch.Text.Ascii

namespace IdentitySearch

/-- A kind of identity. -/
inductive Kind where
  | user
  | group
  | anyObject
deriving DecidableEq

namespace Kind

def all : List Kind := [.user, .group, .anyObject]

def name : Kind → String
  | .user => "USER"
  | .group => "GROUP"
  | .anyObject => "ANY_OBJECT"

def ofName? (s : String) : Option Kind :=
  all.find? fun k => k.name = s

/-- The kind with this name in any case of letters. -/
def parse? (s : String) : Option Kind :=
  all.find? fun k => Text.sameIgnoringCase k.name s

theorem mem_all (k : Kind) : k ∈ all := by
  cases k <;> simp [all]

theorem ofName?_name (k : Kind) : ofName? k.name = some k := by
  cases k <;> rfl

end Kind

/-- A kind whose identities can be members of groups and have relationships. -/
inductive MemberKind where
  | user
  | anyObject
deriving DecidableEq

namespace MemberKind

def all : List MemberKind := [.user, .anyObject]

/-- A kind of member, as a kind. -/
def kind : MemberKind → Kind
  | .user => .user
  | .anyObject => .anyObject

end MemberKind

/-- The kind as a kind of member, unless it is the kind of groups. -/
def Kind.member? : Kind → Option MemberKind
  | .user => some .user
  | .group => none
  | .anyObject => some .anyObject

end IdentitySearch
