/-
Which conditions are in order. A predicate is checked before anything is made
of it, and neither its negation nor the dialect has a part in the checks: it
comes to the same schema or the same error either way
(`Setting.schema_ofPredicate_withDialect`). A tree is in order if its leaves
are, and its error is that of the first leaf, from the left, that has one; no
connective adds an error or hides one (`Setting.verdict_ofCondition`). What is
recorded about a tree that compiles is recorded about its leaves.

Only what a predicate comes to is compared, that is its error or the fact that
there is none (`verdict`), since what is made of it does depend on polarity and
dialect. For a predicate this goes by cases, of which those that compare a
value are long and the others are the same chain of checks read twice. For a
tree it is an induction that reads the leaves from left to right
(`Condition.leaves`), in which both connectives are one case.

What is recorded is the set of attributes that are compared somewhere
(`Setting.Touches`), that is the schemas its leaves read (`Setting.Reads`), and
whether one of them is left out by some identities.
-/
import IdentitySearch.Directory.Memory
import IdentitySearch.Proofs.Selection.Trees

namespace IdentitySearch

open Outcome

namespace Setting

variable (s : Setting)

-- ========================================================== predicates

section predicates

variable (dialect : Dialect) (negate negate' : Bool)

/-- The same for another dialect. -/
def withDialect : Setting :=
  { s with dialect := dialect }

/-- A comparison of an attribute is checked for its operator, its literal and
its type, in either polarity, -/
theorem verdict_ofAttribute (schema : Schema) (subject : String)
    (op : Operator) (literal : Option String) :
    verdict
      ((s.withDialect dialect).ofAttribute schema subject op literal negate)
      = verdict (s.ofAttribute schema subject op literal negate') := by
  unfold ofAttribute
  cases hnull : op.isNullCheck with
  | true =>
    -- a null check needs no literal
    simp only [if_true]
    split <;> split <;> rfl
  | false =>
    simp only [Bool.false_eq_true, if_false]
    cases hunfit : op.isPattern && !schema.type.isTextual with
    | true => rfl
    | false =>
      refine map_bind_congr fun text _ => ?_
      cases op.isPattern
      all_goals
        refine map_bind_congr fun value _ => ?_
        cases negate && schema.multivalue <;> cases negate'
          && schema.multivalue <;> rfl

/-- a comparison of a core field for its name as well, -/
theorem verdict_field (name : String) (op : Operator)
    (literal : Option String) :
    verdict ((s.withDialect dialect).field name op literal negate)
      = verdict (s.field name op literal negate') := by
  have hkind : (s.withDialect dialect).kind = s.kind := rfl
  unfold Setting.field
  rw [hkind]
  cases s.kind.field? name with
  | none => rfl
  | some field =>
    cases hnull : op.isNullCheck with
    | true =>
      simp only [if_true]
      rfl
    | false =>
      simp only [Bool.false_eq_true, if_false]
      cases hunfit : op.isPattern && !field.type.isTextual with
      | true => rfl
      | false =>
        exact map_bind_congr fun text _ => map_bind_congr fun value _ => rfl

/-- and what is assigned to identities for its keys alone. -/
theorem verdict_assigned (p : Predicate) (direct dynamic : ViewRole)
    (column : Column) (key : String) (more : List String) :
    verdict ((s.withDialect dialect).assigned p direct dynamic column
      negate key more)
      = verdict (s.assigned p direct dynamic column negate' key more) :=
  map_bind_congr fun _ _ => map_bind_congr fun _ _ => rfl

/-- What is asked of a predicate that compares no attribute is asked in either
polarity and for either dialect. -/
theorem verdict_ofPlain (p : Predicate) :
    verdict ((s.withDialect dialect).ofPlain p negate)
      = verdict (s.ofPlain p negate') := by
  cases p with
  | «attribute» key op literal => rfl
  | field name op literal =>
    exact s.verdict_field dialect negate negate' name op literal
  | anyType key =>
    show verdict (if s.kind = .anyObject then _ else _) = _
    unfold ofPlain
    split <;> rfl
  | auxClass key => exact map_bind_congr fun _ _ => rfl
  | relationshipType key => exact map_bind_congr fun _ _ => rfl
  | relationship targets =>
    exact map_bind_congr fun _ _ => map_bind_congr fun _ _ => rfl
  | membership groups =>
    exact map_bind_congr fun _ _ =>
      s.verdict_assigned dialect negate negate' _ _ _ _ _ _
  -- members are asked of groups only, and this is checked first
  | member members =>
    show verdict (if s.kind = .group then _ else _) = _
    unfold ofPlain
    split
    · exact map_bind_congr fun _ _ => rfl
    · rfl
  | role key => exact s.verdict_assigned dialect negate negate' _ _ _ _ _ _
  | privilege key =>
    exact s.verdict_assigned dialect negate negate' _ _ _ _ _ _
  | resource key =>
    refine map_bind_congr fun _ _ => ?_
    have hkind : (s.withDialect dialect).kind = s.kind := rfl
    rw [hkind]
    cases s.kind.view? .groupResource <;> rfl
  | dynRealm key => exact map_bind_congr fun _ _ => rfl

/-- What compares no attribute is compiled without a schema. -/
theorem ofPredicate_of_ne {p : Predicate}
    (h : ¬ ∃ key op literal, p = .attribute key op literal) :
    s.ofPredicate p negate = (s.ofPlain p negate).map fun selection =>
      ⟨selection, none⟩ := by
  cases p with
  | «attribute» key op literal => exact absurd ⟨key, op, literal, rfl⟩ h
  | _ => rfl

/-- Either a predicate succeeds in both polarities and for both dialects, or it
fails in all of them with the same error. -/
theorem verdict_ofPredicate (p : Predicate) :
    verdict ((s.withDialect dialect).ofPredicate p negate)
      = verdict (s.ofPredicate p negate') := by
  by_cases hp : ∃ key op literal, p = .attribute key op literal
  · obtain ⟨key, op, literal, rfl⟩ := hp
    refine map_bind_congr fun found _ => ?_
    cases found with
    | none => rfl
    | some schema =>
      have hchecked :=
        s.verdict_ofAttribute dialect negate negate' schema key op literal
      exact (verdict_return _).trans (hchecked.trans (verdict_return _).symm)
  · rw [ofPredicate_of_ne _ _ hp, ofPredicate_of_ne _ _ hp, verdict_map,
      verdict_map]
    exact s.verdict_ofPlain dialect negate negate' p

/-- A predicate compares an attribute whose schema is this one. -/
def Reads (p : Predicate) (schema : Schema) : Prop :=
  ∃ key op literal, p = .attribute key op literal
    ∧ s.directory.schema? key = .ok (some schema)

variable {s negate} in
/-- The schema of what was made is that of the attribute that is compared. -/
theorem schema_eq_some_iff {p : Predicate} {u : PredicateSelection}
    (h : s.ofPredicate p negate = .ok u) (schema : Schema) :
    u.schema = some schema ↔ s.Reads p schema := by
  by_cases hp : ∃ key op literal, p = .attribute key op literal
  · obtain ⟨key, op, literal, rfl⟩ := hp
    obtain ⟨found, hfound, h⟩ := bind_eq_ok.1 h
    cases found with
    | none => cases h
    | some own =>
      obtain ⟨selection, -, h⟩ := bind_eq_ok.1 h
      cases h
      constructor
      · intro hown
        cases hown
        exact ⟨key, op, literal, rfl, hfound⟩
      · intro hreads
        obtain ⟨_, _, _, hp, hschema⟩ := hreads
        cases hp
        rw [hfound] at hschema
        injection hschema
  · rw [ofPredicate_of_ne _ _ hp] at h
    obtain ⟨selection, -, rfl⟩ := map_eq_ok.1 h
    refine iff_of_false (fun h => nomatch h) fun hreads => ?_
    obtain ⟨key, op, literal, hreads, -⟩ := hreads
    exact hp ⟨key, op, literal, hreads⟩

/-- A predicate comes to the same schema, or to the same error, in both
polarities and for both dialects. -/
theorem schema_ofPredicate_withDialect (p : Predicate) :
    ((s.withDialect dialect).ofPredicate p negate).map (·.schema)
      = (s.ofPredicate p negate').map (·.schema) := by
  refine map_eq_of_verdict (s.verdict_ofPredicate dialect negate negate' p)
    fun u hu u' hu' => ?_
  refine Option.ext fun schema => ?_
  exact (schema_eq_some_iff hu schema).trans
    (schema_eq_some_iff hu' schema).symm

end predicates

-- ============================================================== trees

/-- A condition has a leaf that compares an attribute whose schema is this
one. -/
def Touches (c : Condition) (schema : Schema) : Prop :=
  ∃ leaf ∈ c.leaves, s.Reads leaf.1 schema

/-- A tree touches what one of its sides touches, -/
theorem touches_join (j : Connective) (left right : Condition)
    (schema : Schema) :
    s.Touches (.join j left right) schema
      ↔ s.Touches left schema ∨ s.Touches right schema := by
  simp only [Touches, Condition.leaves_join, List.mem_append, or_and_right,
    exists_or]

/-- and a leaf what it reads. -/
theorem touches_ofLeaf (leaf : Condition.Leaf) (schema : Schema) :
    s.Touches (.ofLeaf leaf) schema ↔ s.Reads leaf.1 schema := by
  simp only [Touches, Condition.leaves_ofLeaf, List.mem_singleton,
    exists_eq_left]

/-- A condition compiles, or fails, as its leaves do from left to right. -/
theorem verdict_ofCondition (c : Condition) :
    verdict (s.ofCondition c) = verdict (s.ofLeaves c) := by
  induction c using Condition.byJoins with
  | leaf leaf =>
    rw [ofCondition_ofLeaf, ofLeaves_leaf, verdict_map, verdict_map]
  | join j left right hl hr =>
    rw [ofLeaves_join]
    cases j <;> exact verdict_seq hl hr _ _

/-- What is recorded about a condition that compiles: the attributes that its
leaves compare, and whether one of them is optional. -/
theorem recorded_ofCondition {c : Condition} {t : ConditionSelection}
    (h : s.ofCondition c = .ok t) :
    (∀ key, key ∈ t.schemas ↔ ∃ schema, s.Touches c schema ∧ schema.key = key)
      ∧ (t.optional = true
        ↔ ∃ schema, s.Touches c schema ∧ schema.isMandatory = false) := by
  induction c using Condition.byJoins generalizing t with
  | leaf leaf =>
    rw [ofCondition_ofLeaf] at h
    obtain ⟨u, hu, rfl⟩ := map_eq_ok.1 h
    have hreads := schema_eq_some_iff hu
    simp only [touches_ofLeaf, ← hreads]
    rw [ConditionSelection.ofPredicate]
    cases u.schema with
    | none => exact ⟨by simp [KeySet.not_mem_empty], by simp⟩
    | some schema =>
      simp only [Option.some.injEq, exists_eq_left']
      refine ⟨fun key => ?_, iff_of_eq (Bool.not_eq_true' _)⟩
      rw [KeySet.mem_insert, or_iff_left (KeySet.not_mem_empty key)]
      exact eq_comm
  | join j left right hl hr =>
    obtain ⟨l, r, hleft, hright, rfl⟩ := (s.ofCondition_join_eq_ok j).1 h
    simp only [touches_join, or_and_right, exists_or]
    constructor
    · intro key
      rw [← (hl hleft).1, ← (hr hright).1]
      exact KeySet.mem_union
    · rw [← (hl hleft).2, ← (hr hright).2]
      exact Bool.or_eq_true_iff

/-- Whether a condition is in order is a matter of its leaves. A predicate
comes to the same schema or to the same error in both polarities and for both
dialects. A tree compiles if every leaf does, and fails with the error of the
first leaf that does not, whatever joins them and whatever is wrong further
right. What is recorded about it when it compiles is what its leaves
compare. -/
theorem validity_of_leaves :
    (∀ p, ∃ outcome : Except Error (Option Schema), ∀ dialect negate,
        ((s.withDialect dialect).ofPredicate p negate).map (·.schema)
          = outcome)
      ∧ ∀ c,
        (s.Compiles c
          ↔ ∀ leaf ∈ c.leaves, ∃ u, s.ofPredicate leaf.1 leaf.2 = .ok u)
        ∧ (∀ e, s.ofCondition c = .error e ↔
            ∃ before leaf after, c.leaves = before ++ leaf :: after
              ∧ (∀ earlier ∈ before, ∃ u,
                s.ofPredicate earlier.1 earlier.2 = .ok u)
              ∧ s.ofPredicate leaf.1 leaf.2 = .error e)
        ∧ ∀ t, s.ofCondition c = .ok t →
            (∀ key, key ∈ t.schemas
              ↔ ∃ schema, s.Touches c schema ∧ schema.key = key)
            ∧ (t.optional = true ↔ ∃ schema, s.Touches c schema
              ∧ schema.isMandatory = false) := by
  refine ⟨fun p => ⟨(s.ofPredicate p false).map (·.schema),
    fun dialect negate => ?_⟩, fun c => ?_⟩
  · exact s.schema_ofPredicate_withDialect dialect negate false p
  · have hverdict := s.verdict_ofCondition c
    refine ⟨?_, fun e => ?_, fun t ht => s.recorded_ofCondition ht⟩
    · exact (exists_ok_iff_of_verdict hverdict).trans exists_mapM_iff
    · exact (error_iff_of_verdict hverdict e).trans mapM_eq_error

end Setting

-- ============================================================ two trees

namespace TwoTrees

/-- An attribute that everyone has. -/
def badge : Schema :=
  { key := "badge", type := .long, mandatoryCondition := "true" }

/-- An attribute that not everyone has. -/
def email : Schema := { key := "email", type := .string }

def setting : Setting where
  kind := .user
  dialect := .generic
  directory :=
    ((MemoryDirectory.empty.addSchema badge).addSchema email).directory
  realmField := CoreField.realmName

/-- A tree that is in order. -/
def sound : Condition :=
  .or (.notLeaf (.attribute "badge" .eq (some "7")))
    (.leaf (.attribute "email" .like (some "a%")))

/-- A tree with two leaves that are not. -/
def faulty : Condition :=
  .and (.leaf (.role "r"))
    (.or (.notLeaf (.attribute "badge" .eq (some "seven")))
      (.leaf (.member ["u2"])))

end TwoTrees

open TwoTrees in
/-- A tree over two attributes is in order and records both; in the other one a
literal is no number, and this is its error. Users have no members, negated or
not. -/
theorem validity_of_leaves_two_trees :
    (∃ t, setting.ofCondition sound = .ok t ∧ "badge" ∈ t.schemas
      ∧ "email" ∈ t.schemas
        ∧ t.optional = true)
      ∧ setting.ofCondition faulty = .error (.badLiteral "seven" .long)
      ∧ ((setting.withDialect .oracle).ofPredicate (.member ["u2"]) true).map
        (·.schema)
          = .error (.notApplicable "MemberCond" .user) := by
  obtain ⟨hpredicate, htree⟩ := Setting.validity_of_leaves setting
  have hbadge : setting.Touches sound badge :=
    ⟨_, .head _, "badge", _, _, rfl, rfl⟩
  have hemail : setting.Touches sound email :=
    ⟨_, .tail _ (.head _), "email", _, _, rfl, rfl⟩
  refine ⟨?_, ?_, ?_⟩
  · have hleaves : ∀ leaf ∈ sound.leaves, ∃ u,
        setting.ofPredicate leaf.1 leaf.2 = .ok u := by
      simp only [sound, Condition.leaves, List.cons_append, List.nil_append,
        List.forall_mem_cons, List.not_mem_nil, false_imp_iff,
        implies_true, and_true]
      exact ⟨⟨_, rfl⟩, _, rfl⟩
    obtain ⟨t, ht⟩ := (htree sound).1.2 hleaves
    obtain ⟨hschemas, hoptional⟩ := (htree sound).2.2 t ht
    exact ⟨t, ht, (hschemas _).2 ⟨badge, hbadge, rfl⟩,
      (hschemas _).2 ⟨email, hemail, rfl⟩, hoptional.2 ⟨email, hemail, rfl⟩⟩
  · refine ((htree faulty).2.1 _).2 ⟨[(.role "r", false)], _, _, rfl, ?_, rfl⟩
    exact List.forall_mem_singleton.2 ⟨_, rfl⟩
  · obtain ⟨outcome, houtcome⟩ := hpredicate (.member ["u2"])
    rw [houtcome .oracle true, ← houtcome .generic false]
    rfl

end IdentitySearch
