/-
Conditions for another dialect. A dialect has no say in what is asked: a
condition compiles for another one if it does for this one, to the same
selection with its comparisons written for the other dialect, and fails with
the same error otherwise (`Setting.ofCondition_withDialect`). That holds for a
comparison wherever it stands, also in a query of its own and with its
comparator turned round. And each comparison is one that a leaf asks, so that
without leaves with a pattern there is none whose text depends on the dialect
(`Setting.mayAsk_ofCondition`).

# What is followed through the compiler

- Compiling for a dialect and then writing for another one are the two sides of
  one equation, predicate by predicate: by attributes
  (`ofAttribute_withDialect`), by core fields (`field_withDialect`), and by
  anything else, which compares keys alone. The equation says errors too, so it
  is no question of success.
- What a comparison may be, the predicate says that it was compiled from
  (`Predicate.MayAsk`): the column and the value of a pattern are texts, and
  only a predicate with a pattern compares with one. Every way in which
  predicates are compiled keeps to it, whatever it nests.
- A condition takes its comparisons from its leaves, so what is left is one
  induction over its joins.

A bound pattern without a backslash is read alike with and without the clause
(`BindsUnescaped`); this is decided on what was compiled, since that is where
literals have become patterns.
-/
import IdentitySearch.Proofs.Selection.Comparisons
import IdentitySearch.Proofs.Selection.Validity
import IdentitySearch.Proofs.Sql.Dialects

namespace IdentitySearch

open Outcome

-- =========================================================== selections

namespace Selection

/-- The same selection for a dialect. -/
def inDialect (d : Dialect) (t : Selection) : Selection :=
  ⟨t.view, t.condition.inDialect d⟩

/-- The comparisons of a selection. -/
def comparisons (t : Selection) : List Comparison :=
  t.condition.comparisons

variable {d : Dialect} {t : Selection}

theorem inDialect_eq_self (h : ∀ c ∈ t.comparisons, c.inDialect d = c) :
    t.inDialect d = t :=
  congrArg (Selection.mk t.view) (Formula.inDialect_eq_self h)

end Selection

/-- Joined atoms compare what the atoms compare, in their order. -/
theorem Formula.comparisons_joinAll (c : Connective) (first : Atom)
    (rest : List Atom) :
    (joinAll c first rest).comparisons
      = (first :: rest).flatMap Atom.comparisons := by
  have hfold : ∀ f : Formula,
      (rest.foldl (fun f a => .join f c a) f).comparisons
      = f.comparisons ++ rest.flatMap Atom.comparisons := by
    induction rest with
    | nil => exact fun f => (List.append_nil _).symm
    | cons a rest ih =>
      intro f
      rw [List.foldl_cons, ih, comparisons, List.append_assoc,
        List.flatMap_cons]
  exact hfold (.atom first)

/-- The same selection of a predicate for a dialect. -/
def PredicateSelection.inDialect (d : Dialect)
    (u : PredicateSelection) : PredicateSelection :=
  { u with selection := u.selection.inDialect d }

namespace ConditionSelection

/-- The same selection of a condition for a dialect. -/
def inDialect (d : Dialect) (t : ConditionSelection) : ConditionSelection :=
  { t with selection := t.selection.inDialect d }

theorem ofPredicate_inDialect (d : Dialect) (u : PredicateSelection) :
    ofPredicate (u.inDialect d) = (ofPredicate u).inDialect d := by
  obtain ⟨selection, schema⟩ := u
  cases schema <;> rfl

end ConditionSelection

-- ========================================================== comparisons

theorem Operator.isLike_comparator (op : Operator) :
    op.comparator.isLike = op.isPattern := by
  cases op <;> rfl

theorem Comparator.isLike_inverse (c : Comparator) :
    c.inverse.isLike = c.isLike := by
  cases c <;> rfl

/-- Texts are kept in a column of texts. -/
theorem ValueType.affinity_of_isTextual {type : ValueType}
    (h : type.isTextual = true) :
    type.column.affinity = .text := by
  cases type with
  | string | enum => rfl
  | boolean | date | double | long => cases h

/-- Whether a predicate compares with a pattern. -/
def Predicate.isPattern : Predicate → Bool
  | .attribute _ op _ | .field _ op _ => op.isPattern
  | _ => false

/-- What a predicate may compare: all is in order, and a pattern is its own. -/
structure Predicate.MayAsk (p : Predicate) (c : Comparison) : Prop where
  inOrder : c.InOrder
  pattern : c.comparator.isLike = true → p.isPattern = true

/-- Any predicate may ask for equality or for the opposite. -/
theorem Predicate.mayAsk_of_plain (p : Predicate) {c : Comparison}
    (hlike : c.comparator.isLike = false) (hescaped : c.escaped = false) :
    p.MayAsk c := by
  have hnone : ¬ c.comparator.isLike = true := Bool.eq_false_iff.1 hlike
  refine ⟨⟨fun h => ?_, fun h => absurd h hnone, fun h => absurd h hnone⟩,
    fun h => absurd h hnone⟩
  exact absurd h (Bool.eq_false_iff.1 hescaped)

/-- A predicate without a pattern asks the same in every dialect. -/
theorem Predicate.MayAsk.inDialect_eq_self {p : Predicate} {c : Comparison}
    (h : p.MayAsk c) (hp : p.isPattern = false) (d : Dialect) :
    c.inDialect d = c := by
  refine c.inDialect_eq_self h.inOrder ?_ d
  rw [← Bool.not_eq_true]
  exact fun hlike => nomatch hp.symm.trans (h.pattern hlike)

namespace Setting

variable (s : Setting)

section comparison

variable (column : Column) (op : Operator) (value : BindValue)
  (negate textual : Bool)

/-- A comparison takes its value for a pattern if the operator does, in either
polarity. -/
theorem isLike_comparison :
    (s.comparison column op value negate textual).comparator.isLike
      = op.isPattern := by
  cases negate with
  | false => exact op.isLike_comparator
  | true => exact op.comparator.isLike_inverse.trans op.isLike_comparator

/-- A comparison is compiled for a dialect as it would be written for it. -/
theorem inDialect_comparison (d : Dialect) :
    (s.comparison column op value negate textual).inDialect d
      = (s.withDialect d).comparison column op value negate textual := by
  rw [Comparison.inDialect, isLike_comparison]
  rfl

variable {column op value} in
/-- A comparison is in order if the operator takes a pattern only for a column
of texts and binds a text for it. -/
theorem mayAsk_comparison {p : Predicate}
    (hp : op.isPattern = true → p.isPattern = true)
    (hcolumn : op.isPattern = true → column.affinity = .text)
    (hvalue : op.isPattern = true → ∃ text, value = .text text) :
    p.MayAsk (s.comparison column op value negate textual) := by
  have hlike := s.isLike_comparison column op value negate textual
  rw [← hlike] at hp hcolumn hvalue
  refine ⟨⟨fun hescaped => ?_, hcolumn, hvalue⟩, hp⟩
  rw [hlike]
  exact (Bool.and_eq_true_iff.1 hescaped).1

end comparison

/-- The literal of a pattern is bound as a text, also where it is a path and
stands for a realm. -/
theorem exists_text_of_fieldValue {field : CoreField} {op : Operator}
    {text : String} {value : BindValue}
    (h : s.fieldValue field op text = .ok value) (hop : op.isPattern = true) :
    ∃ bound, value = .text bound := by
  unfold fieldValue at h
  split at h
  · obtain ⟨realm, -, rfl⟩ := map_eq_ok.1 h
    exact ⟨realm.key, rfl⟩
  · cases h
    exact ⟨text, rfl⟩

-- =============================================================== pieces

section pieces

variable (p : Predicate)

/-- Any predicate may compare a key, -/
theorem mayAsk_keyIs (column : Column) (key : String) :
    ∀ c ∈ (keyIs column key).comparisons, p.MayAsk c := by
  rw [keyIs, Atom.comparisons, List.forall_mem_singleton]
  exact p.mayAsk_of_plain rfl rfl

/-- and one key after the other. -/
theorem mayAsk_keyIsAny (column : Column) (key : String) (more : List String) :
    ∀ c ∈ (keyIsAny column key more).comparisons, p.MayAsk c := by
  intro c hc
  rw [keyIsAny, Formula.comparisons_joinAll, ← List.map_cons,
    List.mem_flatMap] at hc
  obtain ⟨a, ha, hc⟩ := hc
  obtain ⟨k, -, rfl⟩ := List.mem_map.1 ha
  exact mayAsk_keyIs p column k c hc

variable {p} in
/-- What is looked for in some queries, or outside of them, compares what they
compare. -/
theorem mayAsk_amongAny (negate : Bool) {q : Query} {more : List Query}
    (h : ∀ listed ∈ q :: more, ∀ c ∈ listed.comparisons, p.MayAsk c) :
    ∀ c ∈ (s.amongAny negate q more).comparisons, p.MayAsk c := by
  intro c hc
  change c ∈ (Formula.joinAll _ _ _).comparisons at hc
  rw [Formula.comparisons_joinAll, ← List.map_cons, List.mem_flatMap] at hc
  obtain ⟨a, ha, hc⟩ := hc
  obtain ⟨listed, hlisted, rfl⟩ := List.mem_map.1 ha
  exact h listed hlisted c hc

/-- Those to whom something is assigned are found by keys, directly and
dynamically. -/
theorem mayAsk_assigned {asked : Predicate}
    {direct dynamic : ViewRole} {column : Column} {negate : Bool}
    {key : String} {more : List String} {t : Selection}
    (h : s.assigned asked direct dynamic column negate key more = .ok t) :
    ∀ c ∈ t.comparisons, p.MayAsk c := by
  obtain ⟨v, -, h⟩ := bind_eq_ok.1 h
  obtain ⟨w, -, h⟩ := bind_eq_ok.1 h
  cases h
  refine s.mayAsk_amongAny negate ?_
  rw [List.forall_mem_cons, List.forall_mem_singleton]
  exact ⟨mayAsk_keyIsAny p column key more, mayAsk_keyIsAny p column key more⟩

end pieces

-- =========================================================== predicates

/-- What the selection of a core field compares. -/
theorem mayAsk_field {name : String} {op : Operator} {literal : Option String}
    {negate : Bool} {t : Selection}
    (h : s.field name op literal negate = .ok t) :
    ∀ c ∈ t.comparisons, (Predicate.field name op literal).MayAsk c := by
  unfold field at h
  split at h
  · cases h
  · next field hfield =>
    simp only at h
    split at h
    · cases h
      exact List.forall_mem_nil _
    · split at h
      · cases h
        exact List.forall_mem_nil _
      · -- the field fits the operator, so a pattern stands in a column of
        -- texts
        next hfits =>
        obtain ⟨text, -, h⟩ := bind_eq_ok.1 h
        obtain ⟨value, hvalue, h⟩ := bind_eq_ok.1 h
        cases h
        refine List.forall_mem_singleton.2
          (s.mayAsk_comparison negate _ id (fun hop => ?_) ?_)
        · refine (CoreField.affinity_eq hfield).trans
            (ValueType.affinity_of_isTextual ?_)
          simpa [hop] using hfits
        · exact s.exists_text_of_fieldValue hvalue

/-- What a selection by an attribute compares. -/
theorem mayAsk_ofAttribute {schema : Schema} {subject : String} {op : Operator}
    {literal : Option String} {negate : Bool} {t : Selection}
    (h : s.ofAttribute schema subject op literal negate = .ok t) :
    ∀ c ∈ t.comparisons,
      (Predicate.attribute subject op literal).MayAsk c := by
  have hschema :=
    mayAsk_keyIs (.attribute subject op literal) .schemaId schema.key
  unfold ofAttribute at h
  simp only at h
  split at h
  · split at h <;> cases h <;> exact hschema
  · split at h
    · cases h
      exact List.forall_mem_nil _
    · next hfits =>
      have hcolumn : op.isPattern = true →
          schema.type.column.affinity = .text := by
        refine fun hop => ValueType.affinity_of_isTextual ?_
        simpa [hop] using hfits
      have hrows : ∀ {value : BindValue},
          (op.isPattern = true → ∃ text, value = .text text) →
          ∀ negate, ∀ c ∈ (keyIs .schemaId schema.key).comparisons
            ++ [s.comparison schema.type.column op value negate
              schema.type.isTextual],
          (Predicate.attribute subject op literal).MayAsk c := by
        intro value hvalue negate
        refine List.forall_mem_append.2 ⟨hschema,
          List.forall_mem_singleton.2 ?_⟩
        exact s.mayAsk_comparison negate _ id hcolumn hvalue
      obtain ⟨text, -, h⟩ := bind_eq_ok.1 h
      -- a pattern is bound as it is, anything else is read
      split at h
      · obtain ⟨value, hvalue, h⟩ := bind_eq_ok.1 h
        cases hvalue
        cases hwhole : negate && schema.multivalue <;>
          rw [hwhole] at h <;> cases h
        · exact hrows (fun _ => ⟨text, rfl⟩) negate
        · exact hrows (fun _ => ⟨text, rfl⟩) false
      · next hplain =>
        obtain ⟨value, -, h⟩ := bind_eq_ok.1 h
        cases hwhole : negate && schema.multivalue <;>
          rw [hwhole] at h <;> cases h
        · exact hrows (fun hop => absurd hop hplain) negate
        · exact hrows (fun hop => absurd hop hplain) false

/-- What the selection of a predicate that compares no attribute compares. -/
theorem mayAsk_ofPlain {p : Predicate} {negate : Bool} {t : Selection}
    (h : s.ofPlain p negate = .ok t) : ∀ c ∈ t.comparisons, p.MayAsk c := by
  cases p with
  | «attribute» key op literal =>
    cases h
    exact List.forall_mem_nil _
  | field name op literal => exact s.mayAsk_field h
  | anyType key =>
    simp only [ofPlain] at h
    split at h
    · cases h
      refine List.forall_mem_singleton.2 (Predicate.mayAsk_of_plain _ ?_ rfl)
      cases negate <;> rfl
    · cases h
  | auxClass key =>
    obtain ⟨v, -, h⟩ := bind_eq_ok.1 h
    cases h
    exact mayAsk_keyIsAny _ .anyTypeClassId key []
  | relationshipType key =>
    obtain ⟨v, -, h⟩ := bind_eq_ok.1 h
    cases h
    exact List.forall_mem_append.2 ⟨mayAsk_keyIs _ .relationshipType key,
      mayAsk_keyIs _ .relationshipType key⟩
  | relationship targets =>
    obtain ⟨v, -, h⟩ := bind_eq_ok.1 h
    obtain ⟨keys, -, h⟩ := bind_eq_ok.1 h
    cases h
    exact mayAsk_keyIsAny _ .rightAnyId keys.1 keys.2
  | membership groups =>
    obtain ⟨keys, -, h⟩ := bind_eq_ok.1 h
    exact s.mayAsk_assigned _ h
  -- members are looked for by their keys in every one of the four views
  | member members =>
    simp only [ofPlain] at h
    split at h
    · obtain ⟨keys, -, h⟩ := bind_eq_ok.1 h
      cases h
      have hkeys := mayAsk_keyIsAny (.member members) .anyId keys.1 keys.2
      refine s.mayAsk_amongAny negate ?_
      simp only [List.forall_mem_cons]
      exact ⟨hkeys, hkeys, hkeys, hkeys, List.forall_mem_nil _⟩
    · cases h
  | role key | privilege key => exact s.mayAsk_assigned _ h
  -- a resource is held directly, and for some kinds through a group too
  | resource key =>
    have hown := mayAsk_keyIs (.resource key) .resourceId key
    obtain ⟨v, -, h⟩ := bind_eq_ok.1 h
    simp only at h
    split at h
    · cases h
      exact hown
    · cases h
      exact List.forall_mem_append.2 ⟨hown, hown⟩
  | dynRealm key =>
    obtain ⟨v, -, h⟩ := bind_eq_ok.1 h
    cases h
    refine s.mayAsk_amongAny negate (List.forall_mem_singleton.2 ?_)
    exact mayAsk_keyIsAny _ .dynRealmId key []

/-- Whatever the selection of a predicate compares, the predicate may ask. -/
theorem mayAsk_ofPredicate {p : Predicate} {negate : Bool}
    {u : PredicateSelection} (h : s.ofPredicate p negate = .ok u) :
    ∀ c ∈ u.selection.comparisons, p.MayAsk c := by
  unfold ofPredicate at h
  split at h
  · obtain ⟨found, -, h⟩ := bind_eq_ok.1 h
    cases found with
    | none => cases h
    | some schema =>
      obtain ⟨t, ht, h⟩ := bind_eq_ok.1 h
      cases h
      exact s.mayAsk_ofAttribute ht
  · obtain ⟨t, ht, rfl⟩ := map_eq_ok.1 h
    exact s.mayAsk_ofPlain ht

-- ======================================================= other dialects

section dialects

variable (d : Dialect)

/-- By an attribute the same rows are selected for every dialect, but for the
clause after a pattern, or there is the same error. -/
theorem ofAttribute_withDialect (schema : Schema) (subject : String)
    (op : Operator) (literal : Option String) (negate : Bool) :
    (s.withDialect d).ofAttribute schema subject op literal negate
      = (s.ofAttribute schema subject op literal negate).map
        (·.inDialect d) := by
  unfold ofAttribute
  cases op.isNullCheck with
  | true =>
    simp only [if_true]
    split <;> rfl
  | false =>
    simp only [Bool.false_eq_true, if_false]
    cases hunfit : op.isPattern && !schema.type.isTextual with
    | true => rfl
    | false =>
      simp only [Bool.false_eq_true, if_false, ← inDialect_comparison]
      rw [Outcome.map_bind]
      refine bind_congr_ok fun text _ => ?_
      cases op.isPattern
      all_goals
        refine (bind_congr_ok fun value _ => ?_).trans
          (Outcome.map_bind _ _ _).symm
        cases negate && schema.multivalue <;> rfl

/-- And so they are by a core field. -/
theorem field_withDialect (name : String) (op : Operator)
    (literal : Option String) (negate : Bool) :
    (s.withDialect d).field name op literal negate
      = (s.field name op literal negate).map (·.inDialect d) := by
  have hkind : (s.withDialect d).kind = s.kind := rfl
  unfold Setting.field
  rw [hkind]
  cases s.kind.field? name with
  | none => rfl
  | some field =>
    cases op.isNullCheck with
    | true => rfl
    | false =>
      simp only [Bool.false_eq_true, if_false]
      cases hunfit : op.isPattern && !field.type.isTextual with
      | true => rfl
      | false =>
        simp only [Bool.false_eq_true, if_false, ← inDialect_comparison]
        rw [Outcome.map_bind]
        refine bind_congr_ok fun text _ => ?_
        rw [Outcome.map_bind]
        rfl

/-- What a predicate without a pattern comes to is the same for every
dialect. -/
theorem ofPlain_inDialect {p : Predicate} (hp : p.isPattern = false)
    (negate : Bool) :
    (s.ofPlain p negate).map (·.inDialect d) = s.ofPlain p negate := by
  cases h : s.ofPlain p negate with
  | error e => rfl
  | ok t =>
    refine congrArg Except.ok (Selection.inDialect_eq_self fun c hc => ?_)
    exact (s.mayAsk_ofPlain h c hc).inDialect_eq_self hp d

/-- A predicate that compares no attribute is compiled for a dialect. -/
theorem ofPlain_withDialect (p : Predicate) (negate : Bool) :
    (s.withDialect d).ofPlain p negate
      = (s.ofPlain p negate).map (·.inDialect d) := by
  have hplain :=
    fun hp : p.isPattern = false => (s.ofPlain_inDialect d hp negate).symm
  cases p with
  | «attribute» key op literal => rfl
  | field name op literal => exact s.field_withDialect d name op literal negate
  | _ => exact hplain rfl

/-- A predicate comes to the same selection for every dialect, but for the
clause after a pattern, or to the same error. -/
theorem ofPredicate_withDialect (p : Predicate) (negate : Bool) :
    (s.withDialect d).ofPredicate p negate
      = (s.ofPredicate p negate).map (·.inDialect d) := by
  by_cases hp : ∃ key op literal, p = .attribute key op literal
  · obtain ⟨key, op, literal, rfl⟩ := hp
    show attributeNamed _ key op literal negate
        = (attributeNamed s key op literal negate).map _
    unfold attributeNamed
    rw [Outcome.map_bind]
    refine bind_congr_ok fun found _ => ?_
    cases found with
    | none => rfl
    | some schema =>
      simp only [ofAttribute_withDialect]
      cases s.ofAttribute schema key op literal negate <;> rfl
  · rw [ofPredicate_of_ne _ _ hp, ofPredicate_of_ne _ _ hp,
      ofPlain_withDialect]
    cases s.ofPlain p negate <;> rfl

theorem ofCondition_join (j : Connective) (left right : Condition) :
    s.ofCondition (.join j left right) = (s.ofCondition left >>= fun l =>
      s.ofCondition right >>= fun r => .ok (l.combine j r)) := by
  cases j <;> rfl

/-- A condition is compiled for another dialect to the same selection, but for
the clauses after patterns, or fails with the same error. -/
theorem ofCondition_withDialect (c : Condition) :
    (s.withDialect d).ofCondition c
      = (s.ofCondition c).map (·.inDialect d) := by
  induction c using Condition.byJoins with
  | leaf leaf =>
    rw [ofCondition_ofLeaf, ofCondition_ofLeaf, ofPredicate_withDialect]
    cases s.ofPredicate leaf.1 leaf.2 with
    | error e => rfl
    | ok u =>
      exact congrArg Except.ok (ConditionSelection.ofPredicate_inDialect d u)
  | join j left right hl hr =>
    rw [ofCondition_join, ofCondition_join, hl, hr]
    cases s.ofCondition left with
    | error e => rfl
    | ok l => cases s.ofCondition right <;> rfl

end dialects

/-- Each comparison of a compiled condition is one that a leaf asks. -/
theorem mayAsk_ofCondition {c : Condition} {t : ConditionSelection}
    (h : s.ofCondition c = .ok t) :
    ∀ asked ∈ t.selection.comparisons, ∃ leaf ∈ c.leaves,
      leaf.1.MayAsk asked := by
  induction c using Condition.byJoins generalizing t with
  | leaf leaf =>
    rw [ofCondition_ofLeaf] at h
    obtain ⟨u, hu, rfl⟩ := map_eq_ok.1 h
    rw [selection_ofPredicate, Condition.leaves_ofLeaf]
    exact fun asked hasked => ⟨leaf, List.mem_singleton.2 rfl,
      s.mayAsk_ofPredicate hu asked hasked⟩
  | join j left right hl hr =>
    obtain ⟨l, r, hleft, hright, rfl⟩ := (s.ofCondition_join_eq_ok j).1 h
    intro asked hasked
    rw [Condition.leaves_join]
    rcases List.mem_append.1 hasked with hasked | hasked
    · obtain ⟨leaf, hleaf, hasks⟩ := hl hleft asked hasked
      exact ⟨leaf, List.mem_append_left _ hleaf, hasks⟩
    · obtain ⟨leaf, hleaf, hasks⟩ := hr hright asked hasked
      exact ⟨leaf, List.mem_append_right _ hleaf, hasks⟩

/-- Without leaves with a pattern a condition is compiled to the same for every
dialect. -/
theorem ofCondition_withDialect_of_no_pattern (d : Dialect) {c : Condition}
    (h : ∀ leaf ∈ c.leaves, leaf.1.isPattern = false) :
    (s.withDialect d).ofCondition c = s.ofCondition c := by
  rw [ofCondition_withDialect]
  cases ht : s.ofCondition c with
  | error e => rfl
  | ok t =>
    refine congrArg
      (fun selection => Except.ok (⟨selection, _, _⟩ : ConditionSelection))
        (Selection.inDialect_eq_self fun asked hasked => ?_)
    obtain ⟨leaf, hleaf, hasks⟩ := s.mayAsk_ofCondition ht asked hasked
    exact hasks.inDialect_eq_self (h leaf hleaf) d

-- ================================================== patterns as bound

/-- No pattern that is bound for a condition has a backslash. -/
def BindsUnescaped (c : Condition) : Prop :=
  ∀ t, s.ofCondition c = .ok t →
    ∀ asked ∈ t.selection.comparisons, asked.Unescaped

instance (c : Condition) : Decidable (s.BindsUnescaped c) :=
  match h : s.ofCondition c with
  | .error _ => .isTrue fun _ ht => nomatch h.symm.trans ht
  | .ok t => decidable_of_iff (∀ asked ∈ t.selection.comparisons,
    asked.Unescaped) ⟨fun hall u hu => by cases h.symm.trans hu; exact hall,
    fun hall => hall t h⟩

variable {s} {c : Condition}

/-- What has no pattern binds none with a backslash. -/
theorem bindsUnescaped_of_no_pattern
    (h : ∀ leaf ∈ c.leaves, leaf.1.isPattern = false) :
    s.BindsUnescaped c := by
  intro t ht asked hasked hlike
  obtain ⟨leaf, hleaf, hasks⟩ := s.mayAsk_ofCondition ht asked hasked
  exact nomatch (h leaf hleaf).symm.trans (hasks.pattern hlike)

/-- What is joined binds what both sides bind. -/
theorem BindsUnescaped.join {j : Connective} {left right : Condition}
    (hl : s.BindsUnescaped left) (hr : s.BindsUnescaped right) :
    s.BindsUnescaped (.join j left right) := by
  intro t ht asked hasked
  obtain ⟨l, r, hleft, hright, rfl⟩ := (s.ofCondition_join_eq_ok j).1 ht
  rcases List.mem_append.1 hasked with hasked | hasked
  · exact hl l hleft asked hasked
  · exact hr r hright asked hasked

/-- Conjuncts without patterns bind none. -/
theorem BindsUnescaped.foldl_and (h : s.BindsUnescaped c)
    {more : List Condition}
    (hmore : ∀ d ∈ more, ∀ leaf ∈ d.leaves, leaf.1.isPattern = false) :
    s.BindsUnescaped (more.foldl .and c) := by
  induction more generalizing c with
  | nil => exact h
  | cons d rest ih =>
    rw [List.forall_mem_cons] at hmore
    exact ih (h.join (j := .and) (bindsUnescaped_of_no_pattern hmore.1))
      hmore.2

/-- A condition whose patterns have no backslash selects the same for every
dialect. -/
theorem cells_inDialect_of_bindsUnescaped (d : Dialect) (db : Database)
    {t : ConditionSelection} (h : s.BindsUnescaped c)
    (ht : s.ofCondition c = .ok t) :
    (t.selection.inDialect d).cells db = t.selection.cells db := by
  refine Query.cells_inDialect (q := t.selection.query) db
    fun asked hasked => ?_
  obtain ⟨leaf, -, hasks⟩ := s.mayAsk_ofCondition ht asked hasked
  exact asked.truth_inDialect hasks.inOrder (h t ht asked hasked) d

end Setting

end IdentitySearch
