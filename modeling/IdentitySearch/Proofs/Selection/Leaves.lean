/-
Which view a leaf is asked of. Everything but an attribute is asked of the core
fields, where every identity of the kind has a row. An attribute is asked of
the rows that hold its values, unless what is asked for is that there are no
such rows (`Operator.asksValues`). The condition of a leaf is a run, whatever
it asks.

The view is read off the leaf and the directory (`Kind.askedView`), before
anything is compiled, and what the leaf compiles to is then seen to select from
this view (`Setting.ofPredicate_eq_ok`). This is how it is known of a tree from
which view it selects: from the view of its leftmost leaf. On consistent
databases both views have keys in all rows, and whom either lists has core
fields (`Kind.lists_field`), so a leaf finds identities of the kind and nobody
else.
-/
import IdentitySearch.Selection.OfPredicate
import IdentitySearch.Proofs.Outcome
import IdentitySearch.Proofs.Sql.Selections

namespace IdentitySearch

open Outcome

/-- Whether a comparison is asked of the rows of values. It is not where an
attribute with several values is negated as a whole, nor where nothing can be
found. -/
def Operator.asksValues (op : Operator) (schema : Schema)
    (negate : Bool) : Bool :=
  if op.isNullCheck then (op == .isNull) == negate
  else (!op.isPattern || schema.type.isTextual)
    && !(negate && schema.multivalue)

/-- A leaf of a condition: a predicate, and whether it is negated. -/
abbrev Condition.Leaf := Predicate × Bool

namespace Kind

variable (kind : Kind) (d : Directory)

/-- The view that a leaf is asked of. -/
def askedView : Condition.Leaf → View
  | (.attribute key op _, negate) =>
    match d.schema? key with
    | .ok (some schema) =>
      if op.asksValues schema negate then .attributes kind schema.unique
        else .field kind
    | _ => .field kind
  | _ => .field kind

/-- A leaf is asked of the core fields or of the attributes of its kind. -/
theorem askedView_cases (leaf : Condition.Leaf) :
    kind.askedView d leaf = .field kind
      ∨ ∃ unique, kind.askedView d leaf = .attributes kind unique := by
  unfold askedView
  split
  · split
    · split
      · exact .inr ⟨_, rfl⟩
      · exact .inl rfl
    · exact .inl rfl
  · exact .inl rfl

variable {kind d} {db : Database} (h : db.Consistent kind)
  {leaf : Condition.Leaf}
include h

/-- On consistent views every leaf is asked of rows with keys. -/
theorem keyed_askedView : db.Keyed (kind.askedView d leaf) := by
  rcases kind.askedView_cases d leaf with hv | ⟨unique, hv⟩
  · rw [hv]
    exact h.keyed
  · rw [hv]
    exact h.keyed_attributes unique

/-- On consistent views whoever is listed by the view of a leaf is an
identity. -/
theorem lists_field {key : String}
    (hkey : db.Lists (kind.askedView d leaf) key) :
    db.Lists (.field kind) key := by
  rcases kind.askedView_cases d leaf with hv | ⟨unique, hv⟩
  · rwa [hv] at hkey
  · rw [hv] at hkey
    exact h.listed unique key hkey

end Kind

namespace Setting

variable (s : Setting)

-- ============================================================== plain

/-- A comparison of a core field is an atom on the core fields. -/
theorem field_eq_ok {name : String} {op : Operator}
    {expression : Option String} {negate : Bool} {t : Selection}
    (h : s.field name op expression negate = .ok t) :
    ∃ a, t = s.identities a := by
  unfold field at h
  split at h
  · cases h
  · next field _ =>
    simp only at h
    split at h
    · cases h
      exact ⟨_, rfl⟩
    · split at h
      · cases h
        exact ⟨_, rfl⟩
      · obtain ⟨text, -, h⟩ := bind_eq_ok.1 h
        obtain ⟨value, -, h⟩ := bind_eq_ok.1 h
        cases h
        exact ⟨_, rfl⟩

/-- What is assigned is asked for by one atom on the core fields. -/
theorem assigned_eq_ok {p : Predicate}
    {direct dynamic : ViewRole} {column : Column} {negate : Bool}
    {key : String} {more : List String} {t : Selection}
    (h : s.assigned p direct dynamic column negate key more = .ok t) :
    ∃ a, t = s.identities a := by
  obtain ⟨v, -, h⟩ := bind_eq_ok.1 h
  obtain ⟨w, -, h⟩ := bind_eq_ok.1 h
  cases h
  exact ⟨_, rfl⟩

/-- Whatever is not an attribute is an atom on the core fields. -/
theorem ofPlain_eq_ok {p : Predicate} {negate : Bool} {t : Selection}
    (h : s.ofPlain p negate = .ok t) : ∃ a, t = s.identities a := by
  cases p with
  | «attribute» schema op literal =>
    cases h
    exact ⟨_, rfl⟩
  | field name op literal => exact s.field_eq_ok h
  | anyType key =>
    simp only [ofPlain] at h
    split at h
    · cases h
      exact ⟨_, rfl⟩
    · cases h
  -- only the view has to exist for the kind
  | auxClass key | relationshipType key | dynRealm key =>
    obtain ⟨v, -, h⟩ := bind_eq_ok.1 h
    cases h
    exact ⟨_, rfl⟩
  | relationship targets =>
    obtain ⟨v, -, h⟩ := bind_eq_ok.1 h
    obtain ⟨keys, -, h⟩ := bind_eq_ok.1 h
    cases h
    exact ⟨_, rfl⟩
  | membership groups =>
    obtain ⟨keys, -, h⟩ := bind_eq_ok.1 h
    exact s.assigned_eq_ok h
  | member members =>
    simp only [ofPlain] at h
    split at h
    · obtain ⟨keys, -, h⟩ := bind_eq_ok.1 h
      cases h
      exact ⟨_, rfl⟩
    · cases h
  | role key | privilege key => exact s.assigned_eq_ok h
  | resource key =>
    obtain ⟨v, -, h⟩ := bind_eq_ok.1 h
    simp only at h
    split at h
    · cases h
      exact ⟨_, rfl⟩
    · cases h
      exact ⟨_, rfl⟩

-- ========================================================= attributes

/-- An attribute is asked of its values or, if it is the absence of values that
is asked for, of the core fields; by a conjunction in either case. -/
theorem ofAttribute_eq_ok {schema : Schema} {subject : String} {op : Operator}
    {expression : Option String} {negate : Bool} {t : Selection}
    (h : s.ofAttribute schema subject op expression negate = .ok t) :
    t.view = (if op.asksValues schema negate
      then .attributes s.kind schema.unique
      else s.fieldView) ∧ t.condition.isRun = true := by
  unfold ofAttribute at h
  unfold Operator.asksValues
  simp only at h
  by_cases hnull : op.isNullCheck = true
  · simp only [hnull, if_true] at h ⊢
    cases hpolarity : (op == .isNull) <;> cases negate
    all_goals
      simp only [hpolarity] at h ⊢
      cases h
      exact ⟨rfl, rfl⟩
  · simp only [hnull, Bool.false_eq_true, if_false] at h ⊢
    split at h
    · next hpattern =>
      cases h
      rw [Bool.and_eq_true, Bool.not_eq_true'] at hpattern
      simp only [hpattern.1, hpattern.2]
      exact ⟨rfl, rfl⟩
    · next hpattern =>
      obtain ⟨text, -, h⟩ := bind_eq_ok.1 h
      have hreadable : (!op.isPattern || schema.type.isTextual) = true := by
        cases hp : op.isPattern <;>
          cases ht : schema.type.isTextual <;> simp_all
      simp only [hreadable, Bool.true_and]
      -- the value is read in two ways, and it does not matter which
      split at h
      all_goals
        obtain ⟨value, -, h⟩ := bind_eq_ok.1 h
        cases hwhole : negate && schema.multivalue
        all_goals
          rw [hwhole] at h
          cases h
          exact ⟨rfl, rfl⟩

/-- A leaf is asked of its view, by a conjunction. -/
theorem ofPredicate_eq_ok {p : Predicate} {negate : Bool}
    {t : PredicateSelection} (h : s.ofPredicate p negate = .ok t) :
    t.selection.view = s.kind.askedView s.directory (p, negate)
      ∧ t.selection.condition.isRun = true := by
  unfold ofPredicate at h
  split at h
  · next key op expression =>
    obtain ⟨found, hfound, h⟩ := bind_eq_ok.1 h
    cases found with
    | none => cases h
    | some schema =>
      obtain ⟨u, hu, h⟩ := bind_eq_ok.1 h
      cases h
      simp only [Kind.askedView, hfound]
      exact s.ofAttribute_eq_ok hu
  · next p hp =>
    obtain ⟨u, hu, rfl⟩ := map_eq_ok.1 h
    obtain ⟨a, rfl⟩ := s.ofPlain_eq_ok hu
    refine ⟨?_, rfl⟩
    unfold Kind.askedView
    split
    · next heq =>
      cases heq
      exact absurd rfl (hp _ _ _)
    · rfl

end Setting

end IdentitySearch
