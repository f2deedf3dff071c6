/-
Compiled conditions are local. Whatever a predicate asks, in either polarity,
it asks of rows about the identity in question: of its own row, or through a
query that selects a column of keys under a condition without further queries
(`ofPredicate_local`). Two conditions joined ask the right one about the
identity on the left, so whole trees are local (`ofCondition_local`), and the
rows that mention an identity decide whether it satisfies a condition
(`satisfies_iff_of_agreeOn`).

To be local is a property of the syntax, and is kept by each of the few ways in
which selections are built: of identities under an atom, in a query or outside
of it, in one of several queries. A nested query has to select a column that
holds keys of the kind (`View.keyColumns`), which is where assignments and
relationships differ: they are read from either side. It may ask anything of
the row itself.

So the cases of a predicate only say which of these ways was taken, and there
is one induction, over the joins of a tree.
-/
import IdentitySearch.Proofs.Selection.Holders
import IdentitySearch.Proofs.Sql.Locality

namespace IdentitySearch

open Outcome

/-- A selection decides about each identity by the rows that mention it. -/
def Selection.Local (s : Selection) : Prop :=
  s.query.Local

-- =============================================================== pieces

/-- A run of atoms is local if each of them is, -/
theorem Formula.local_foldl (own : Prop) (c : Connective) {f : Formula}
    (hf : f.Local own) {more : List Atom} (hmore : ∀ a ∈ more, a.Local own) :
    (more.foldl (fun f a => .join f c a) f).Local own := by
  induction more generalizing f with
  | nil => exact hf
  | cons a rest ih =>
    rw [List.forall_mem_cons] at hmore
    exact ih ⟨hf, hmore.1⟩ hmore.2

/-- wherever it begins. -/
theorem Formula.local_joinAll (own : Prop) (c : Connective) {first : Atom}
    {more : List Atom} (h : ∀ a ∈ first :: more, a.Local own) :
    (Formula.joinAll c first more).Local own := by
  rw [List.forall_mem_cons] at h
  exact local_foldl own c (f := .atom first) h.1 h.2

namespace Setting

/-- A column that is compared with keys needs no row but its own. -/
theorem local_keyIsAny (own : Prop) (column : Column) (key : String)
    (more : List String) :
    (keyIsAny column key more).Local own := by
  refine Formula.local_joinAll own .or fun a ha => ?_
  rw [← List.map_cons] at ha
  obtain ⟨k, -, rfl⟩ := List.mem_map.1 ha
  trivial

theorem local_listedWith (v : View) (column : Column) (key : String)
    (more : List String) :
    (listedWith v column key more).Local :=
  ⟨v.anyId_mem_keyColumns, local_keyIsAny _ column key more⟩

theorem local_pairedWith {selected : Column} {v : View}
    (h : selected ∈ v.keyColumns) (column : Column) (key : String) :
    (pairedWith selected v column key).Local :=
  ⟨h, trivial⟩

variable (s : Setting)

/-- Identities are selected locally by a local atom: -/
theorem local_identities {a : Atom} (h : a.Local (Column.anyId = .anyId)) :
    (s.identities a).Local :=
  ⟨View.anyId_mem_keyColumns _, h⟩

/-- in a local query or outside of it, -/
theorem local_among (negate : Bool) {q : Query} (h : q.Local) :
    (s.among negate q).Local :=
  s.local_identities ⟨rfl, h⟩

/-- in one of several or outside of all. -/
theorem local_amongAny (negate : Bool) {q : Query} {more : List Query}
    (h : ∀ p ∈ q :: more, p.Local) : (s.amongAny negate q more).Local := by
  refine s.local_identities (Formula.local_joinAll _ _ fun a ha => ?_)
  rw [← List.map_cons] at ha
  obtain ⟨p, hp, rfl⟩ := List.mem_map.1 ha
  exact ⟨rfl, h p hp⟩

-- =========================================================== predicates

/-- Assignments are asked locally, direct ones and dynamic ones, -/
theorem local_assigned {p : Predicate} {direct dynamic : ViewRole}
    {column : Column} {negate : Bool} {key : String} {more : List String}
    {t : Selection}
    (h : s.assigned p direct dynamic column negate key more = .ok t) :
    t.Local := by
  obtain ⟨v, w, -, -, rfl⟩ := s.assigned_eq_ok_iff.1 h
  refine s.local_amongAny negate ?_
  simp [local_listedWith]

/-- and core fields are asked of the row itself. -/
theorem local_field {name : String} {op : Operator}
    {expression : Option String} {negate : Bool} {t : Selection}
    (h : s.field name op expression negate = .ok t) : t.Local := by
  unfold field at h
  split at h
  · cases h
  · simp only at h
    split at h
    · cases h
      exact s.local_identities trivial
    · split at h
      · cases h
        exact s.local_identities trivial
      · obtain ⟨text, -, h⟩ := bind_eq_ok.1 h
        obtain ⟨value, -, h⟩ := bind_eq_ok.1 h
        cases h
        exact s.local_identities trivial

/-- A predicate that is about no attribute is local. -/
theorem ofPlain_local {p : Predicate} {negate : Bool} {t : Selection}
    (h : s.ofPlain p negate = .ok t) : t.Local := by
  cases p with
  | «attribute» schema op literal =>
    cases h
    exact s.local_identities trivial
  | field name op literal => exact s.local_field h
  | anyType key =>
    simp only [ofPlain] at h
    split at h
    · cases h
      exact s.local_identities trivial
    · cases h
  | auxClass key =>
    cases h
    exact s.local_among negate (local_listedWith _ _ _ _)
  -- a relationship is found from its left end and from its right one
  | relationshipType key =>
    obtain ⟨v, hv, h⟩ := bind_eq_ok.1 h
    rw [view_eq_ok_iff, Kind.view?] at hv
    obtain ⟨m, -, rfl⟩ := Option.map_eq_some_iff.1 hv
    cases h
    refine s.local_among negate ⟨local_pairedWith ?_ _ _,
      local_pairedWith ?_ _ _⟩
    all_goals simp [View.keyColumns]
  | relationship targets =>
    obtain ⟨v, -, h⟩ := bind_eq_ok.1 h
    obtain ⟨keys, -, h⟩ := bind_eq_ok.1 h
    cases h
    exact s.local_among negate (local_listedWith _ _ _ _)
  | membership groups =>
    obtain ⟨keys, -, h⟩ := bind_eq_ok.1 h
    exact s.local_assigned h
  -- all four views list members beside their group
  | member members =>
    simp only [ofPlain] at h
    split at h
    · obtain ⟨keys, -, h⟩ := bind_eq_ok.1 h
      cases h
      refine s.local_amongAny negate ?_
      simp [Query.Local, View.keyColumns, local_keyIsAny]
    · cases h
  | role key | privilege key => exact s.local_assigned h
  | resource key =>
    have hown : ∀ v, (pairedWith .anyId v .resourceId key).Local := fun v =>
      local_pairedWith v.anyId_mem_keyColumns _ _
    obtain ⟨v, -, h⟩ := bind_eq_ok.1 h
    simp only at h
    split at h
    · cases h
      exact s.local_among negate (hown _)
    · cases h
      exact s.local_among negate ⟨hown _, hown _⟩
  | dynRealm key =>
    cases h
    have hlisted : ∀ p ∈ [listedWith .dynRealmMembership .dynRealmId key []],
        p.Local := by
      simp [local_listedWith]
    exact s.local_amongAny negate hlisted

/-- A predicate about an attribute is local, also where it is negated as a
whole. -/
theorem ofAttribute_local {schema : Schema} {subject : String} {op : Operator}
    {expression : Option String} {negate : Bool} {t : Selection}
    (h : s.ofAttribute schema subject op expression negate = .ok t) :
    t.Local := by
  have hvalues : ∀ {f : Formula}, (∀ own, f.Local own) →
      (Query.select true .anyId (.attributes s.kind schema.unique) f).Local :=
        fun hf =>
    ⟨View.anyId_mem_keyColumns _, hf _⟩
  unfold ofAttribute at h
  simp only at h
  split at h
  · split at h
    · cases h
      exact s.local_among true (hvalues fun _ => trivial)
    · cases h
      exact hvalues fun _ => trivial
  · split at h
    · cases h
      exact s.local_identities trivial
    · obtain ⟨text, -, h⟩ := bind_eq_ok.1 h
      -- the value is read in two ways, and it does not matter which
      split at h
      all_goals
        obtain ⟨value, -, h⟩ := bind_eq_ok.1 h
        cases hwhole : negate && schema.multivalue
        all_goals
          rw [hwhole] at h
          cases h
      · exact hvalues fun _ => ⟨trivial, trivial⟩
      · exact s.local_among true (hvalues fun _ => ⟨trivial, trivial⟩)
      · exact hvalues fun _ => ⟨trivial, trivial⟩
      · exact s.local_among true (hvalues fun _ => ⟨trivial, trivial⟩)

/-- A predicate is local in either polarity. -/
theorem ofPredicate_local {p : Predicate} {negate : Bool}
    {t : PredicateSelection} (h : s.ofPredicate p negate = .ok t) :
    t.selection.Local := by
  unfold ofPredicate at h
  split at h
  · obtain ⟨found, -, h⟩ := bind_eq_ok.1 h
    cases found with
    | none => cases h
    | some schema =>
      obtain ⟨u, hu, h⟩ := bind_eq_ok.1 h
      cases h
      exact s.ofAttribute_local hu
  · obtain ⟨u, hu, rfl⟩ := map_eq_ok.1 h
    exact s.ofPlain_local hu

-- ================================================================ trees

theorem local_combine {left right : Selection} (hl : left.Local)
    (hr : right.Local) (c : Connective) : (left.combine c right).Local :=
  ⟨View.anyId_mem_keyColumns _, hl.2, rfl, hr⟩

/-- A compiled condition is local. -/
theorem ofCondition_local {c : Condition} {t : ConditionSelection}
    (h : s.ofCondition c = .ok t) : t.selection.Local := by
  induction c using Condition.byJoins generalizing t with
  | leaf leaf =>
    rw [ofCondition_ofLeaf] at h
    obtain ⟨u, hu, rfl⟩ := map_eq_ok.1 h
    rw [selection_ofPredicate]
    exact s.ofPredicate_local hu
  | join j left right hl hr =>
    obtain ⟨l, r, hleft, hright, rfl⟩ := (s.ofCondition_join_eq_ok j).1 h
    exact local_combine (hl hleft) (hr hright) j

variable {db₁ db₂ : Database} (h₁ : db₁.Identified) (h₂ : db₂.Identified)
  {key : String}
  (hagree : db₁.AgreeOn db₂ key)

include h₁ h₂ hagree in
/-- Whether an identity satisfies a condition is decided by the rows that
mention it. -/
theorem satisfies_iff_of_agreeOn (c : Condition) :
    s.Satisfies db₁ c key ↔ s.Satisfies db₂ c key := by
  unfold Satisfies
  refine exists_congr fun t => and_congr_right fun ht => ?_
  exact Query.mem_cells_iff_of_agreeOn h₁ h₂ hagree (s.ofCondition_local ht)

end Setting

end IdentitySearch
