/-
The selection of a condition. A conjunction or disjunction is compiled from
left to right, so the first predicate that does not fit the catalog is the one
that is reported. Along with the query come the attributes that the condition
compares and whether one of them is optional, since then an identity may be
without it.
-/
import IdentitySearch.KeySet
import IdentitySearch.Selection.OfPredicate

namespace IdentitySearch

/-- The selection of a condition. -/
structure ConditionSelection where
  selection : Selection
  /-- The attributes that the condition compares. -/
  schemas : KeySet
  /-- Whether one of them is not required of every identity. -/
  optional : Bool

namespace ConditionSelection

/-- The selection of a single predicate. -/
def ofPredicate (p : PredicateSelection) : ConditionSelection :=
  match p.schema with
  | none => ⟨p.selection, .empty, false⟩
  | some schema =>
    ⟨p.selection, KeySet.empty.insert schema.key, !schema.isMandatory⟩

/-- The selection of two conditions joined by a connective. -/
def combine (left : ConditionSelection) (c : Connective)
    (right : ConditionSelection) :
    ConditionSelection :=
  ⟨left.selection.combine c right.selection, left.schemas.union right.schemas,
    left.optional || right.optional⟩

end ConditionSelection

/-- The selection of a condition. -/
def Setting.ofCondition (s : Setting) : Condition →
    Except Error ConditionSelection
  | .leaf p => (s.ofPredicate p false).map .ofPredicate
  | .notLeaf p => (s.ofPredicate p true).map .ofPredicate
  | .and left right => do
    let l ← s.ofCondition left
    let r ← s.ofCondition right
    return l.combine .and r
  | .or left right => do
    let l ← s.ofCondition left
    let r ← s.ofCondition right
    return l.combine .or r

end IdentitySearch
