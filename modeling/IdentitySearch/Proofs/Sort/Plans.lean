/-
What a plan that was made is like. Each of its items is the item of a key that
one of the clauses names. Two attributes that are read from one view are the
same attribute, since anything else would conflict
(`key_eq_of_conflict?_eq_none`); so the rows of an attribute view that a plan
admits are those of its one attribute, and of the core fields it admits all
rows.

What a property names is read once more as a function that cannot fail
(`Kind.names?`), which agrees with the resolver wherever that one succeeds
(`names?_eq`). With it the keys of a plan are a `filterMap` over the clauses
(`Kind.named_eq`), and which clause a key came from, and what became of a
clause, are questions about membership in a list.

What it admits of a view a plan decides by the first item on it (`admits_iff`).
So it has to be shown that any other item on the view would have decided alike,
and this is where a plan without conflict is needed (`admits_attributes`).
-/
import IdentitySearch.Sort.Text
import IdentitySearch.Statement.Evaluation
import IdentitySearch.Proofs.Outcome

namespace IdentitySearch

open Outcome

variable {kind : Kind} {d : Directory}

/-- What a property names where its lookup does not fail: a core field before
an attribute of the same name, and nothing if it is neither. -/
def Kind.names? (kind : Kind) (d : Directory)
    (property : String) : Option SortKey :=
  match kind.field? property, d.schema? property with
  | some f, _ => some (.field f)
  | none, .ok (some s) => some (.attribute s)
  | none, _ => none

/-- What clauses name, in their order and in the directions they ask for. -/
def Kind.named (kind : Kind) (d : Directory) (clauses : List SortClause) :
    List (SortKey × Direction) :=
  clauses.filterMap fun clause => (kind.names? d clause.property).map (·,
    clause.direction)

/-- What is resolved is what is named. -/
theorem Kind.names?_eq {property : String} {key? : Option SortKey}
    (h : kind.sortKey? d property = .ok key?) :
    kind.names? d property = key? := by
  unfold sortKey? at h
  unfold names?
  split at h
  · next f hfield =>
    cases h
    rw [hfield]
  · next hfield =>
    obtain ⟨found, hfound, rfl⟩ := map_eq_ok.1 h
    cases found <;> rw [hfield, hfound] <;> rfl

/-- The keys of clauses are what they name. -/
theorem Kind.named_eq {clauses : List SortClause}
    {keys : List (SortKey × Direction)}
    (h : kind.sortKeys d clauses = .ok keys) :
    kind.named d clauses = keys := by
  induction clauses generalizing keys with
  | nil =>
    cases h
    rfl
  | cons clause rest ih =>
    obtain ⟨found, hfound, h⟩ := bind_eq_ok.1 h
    obtain ⟨more, hmore, h⟩ := bind_eq_ok.1 h
    have hnames := names?_eq hfound
    cases found with
    | none =>
      cases h
      rw [named, List.filterMap_cons_none (by rw [hnames]; rfl)]
      exact ih hmore
    | some key =>
      cases h
      rw [named, List.filterMap_cons_some (by rw [hnames]; rfl)]
      exact congrArg _ (ih hmore)

/-- The keys that clauses name come from the clauses. -/
theorem Kind.exists_clause_of_mem_sortKeys {clauses : List SortClause}
    {keys : List (SortKey × Direction)}
    (h : kind.sortKeys d clauses = .ok keys) {key : SortKey}
    {direction : Direction} (hkey : (key, direction) ∈ keys) :
    ∃ clause ∈ clauses, kind.sortKey? d clause.property = .ok (some key) := by
  induction clauses generalizing keys with
  | nil =>
    cases h
    cases hkey
  | cons clause rest ih =>
    obtain ⟨found, hfound, h⟩ := bind_eq_ok.1 h
    obtain ⟨more, hmore, h⟩ := bind_eq_ok.1 h
    cases found with
    | none =>
      cases h
      obtain ⟨c, hc, hnamed⟩ := ih hmore hkey
      exact ⟨c, List.mem_cons_of_mem _ hc, hnamed⟩
    | some k =>
      cases h
      rcases List.mem_cons.1 hkey with heq | hkey
      · cases heq
        exact ⟨clause, List.mem_cons_self, hfound⟩
      · obtain ⟨c, hc, hnamed⟩ := ih hmore hkey
        exact ⟨c, List.mem_cons_of_mem _ hc, hnamed⟩

/-- A clause that names something gives a key. -/
theorem Kind.mem_sortKeys_of_clause {clauses : List SortClause}
    {keys : List (SortKey × Direction)}
    (h : kind.sortKeys d clauses = .ok keys) {clause : SortClause}
    (hclause : clause ∈ clauses) {key : SortKey}
    (hnamed : kind.sortKey? d clause.property = .ok (some key)) :
    (key, clause.direction) ∈ keys := by
  induction clauses generalizing keys with
  | nil => cases hclause
  | cons first rest ih =>
    obtain ⟨found, hfound, h⟩ := bind_eq_ok.1 h
    obtain ⟨more, hmore, h⟩ := bind_eq_ok.1 h
    rcases List.mem_cons.1 hclause with rfl | hclause
    · cases hfound.symm.trans hnamed
      cases h
      exact List.mem_cons_self
    · cases found with
      | none =>
        cases h
        exact ih hmore hclause
      | some k =>
        cases h
        exact List.mem_cons_of_mem _ (ih hmore hclause)

namespace SortPlan

/-- The attributes among the keys of an ordering. -/
def schemas (keys : List (SortKey × Direction)) : List Schema :=
  keys.filterMap fun k => k.1.schema?

/-- The schemas among keys are those of their attributes, -/
theorem mem_schemas {keys : List (SortKey × Direction)} {schema : Schema} :
    schema ∈ schemas keys
      ↔ ∃ direction, (SortKey.attribute schema, direction) ∈ keys := by
  simp only [schemas, List.mem_filterMap, Prod.exists]
  constructor
  · intro h
    rcases h with ⟨key, direction, hmem, hkey⟩
    cases key with
    | field f => cases hkey
    | «attribute» other =>
      cases hkey
      exact ⟨direction, hmem⟩
  · intro h
    rcases h with ⟨direction, hmem⟩
    exact ⟨_, direction, hmem, rfl⟩

/-- and the attributes of one view are the keys of those that are unique, or
not. -/
theorem mem_attributesIn {unique : Bool} {keys : List (SortKey × Direction)}
    {key : String} :
    key ∈ attributesIn unique keys
      ↔ ∃ s ∈ schemas keys, s.unique = unique ∧ s.key = key := by
  simp only [attributesIn, KeySet.mem_ofList, List.mem_map, List.mem_filter,
    decide_eq_true_eq, schemas, and_assoc]

/-- Without a conflict, attributes that are read from one view have one key. -/
theorem key_eq_of_conflict?_eq_none {keys : List (SortKey × Direction)}
    (h : conflict? keys = none) {a b : Schema} (ha : a ∈ schemas keys)
    (hb : b ∈ schemas keys) (hab : a.unique = b.unique) : a.key = b.key := by
  have hfew : ¬ 1 < (attributesIn a.unique keys).keys.length := by
    unfold conflict? at h
    rw [List.findSome?_eq_none_iff] at h
    intro hmany
    have hone := h a.unique (by cases a.unique <;> simp)
    rw [if_pos hmany] at hone
    cases hone
  have hmemA : a.key ∈ (attributesIn a.unique keys).keys :=
    mem_attributesIn.2 ⟨a, ha, rfl, rfl⟩
  have hmemB : b.key ∈ (attributesIn a.unique keys).keys :=
    mem_attributesIn.2 ⟨b, hb, hab.symm, rfl⟩
  match hkeys : (attributesIn a.unique keys).keys with
  | [] =>
    rw [hkeys] at hmemA
    cases hmemA
  | [k] =>
    rw [hkeys, List.mem_singleton] at hmemA hmemB
    rw [hmemA, hmemB]
  | _ :: _ :: _ =>
    rw [hkeys] at hfew
    simp at hfew

/-- A plan for clauses is the plan for the keys that they name, which do not
conflict. -/
theorem make_eq_ok_iff {clauses : List SortClause} {p : SortPlan} :
    make kind d clauses = .ok p ↔
      ∃ keys, kind.sortKeys d clauses = .ok keys ∧ conflict? keys = none
        ∧ p = ofKeys kind keys := by
  constructor
  · intro h
    obtain ⟨keys, hkeys, h⟩ := bind_eq_ok.1 h
    split at h
    · cases h
    · next hconflict =>
      cases h
      exact ⟨keys, hkeys, hconflict, rfl⟩
  · intro hgiven
    rcases hgiven with ⟨keys, hkeys, hconflict, rfl⟩
    refine bind_eq_ok.2 ⟨keys, hkeys, ?_⟩
    rw [hconflict]
    rfl

/-- The items of a plan are those of its keys. -/
theorem mem_items_ofKeys {keys : List (SortKey × Direction)}
    {item : SortItem} :
    item ∈ (ofKeys kind keys).items
      ↔ ∃ key direction, (key, direction) ∈ keys
        ∧ SortItem.ofKey kind direction key = item := by
  simp [ofKeys]

/-- A plan is optional if one of its attributes is. -/
theorem optional_ofKeys_iff {keys : List (SortKey × Direction)} :
    (ofKeys kind keys).optional = true
      ↔ ∃ s ∈ schemas keys, s.isMandatory = false := by
  show (schemas keys).any _ = true ↔ _
  simp

/-- Unless a plan is optional, everyone has to have what it sorts by. -/
theorem isMandatory_of_optional_eq_false {keys : List (SortKey × Direction)}
    (h : (ofKeys kind keys).optional = false) {schema : Schema}
    (hs : schema ∈ schemas keys) :
    schema.isMandatory = true := by
  rw [← Bool.not_eq_false]
  intro hmandatory
  rw [optional_ofKeys_iff.2 ⟨schema, hs, hmandatory⟩] at h
  cases h

theorem mem_views {p : SortPlan} {v : View} :
    v ∈ p.views ↔ ∃ item ∈ p.items, item.view = v := by
  simp [views, List.mem_eraseDups]

/-- A row of a view is admitted if it is of every attribute that is read from
it. -/
theorem admits_iff {p : SortPlan} {v : View} {row : Row} :
    p.admits v row = true ↔
      ∀ item ∈ p.items, item.view = v → ∀ schema, item.schema = some schema →
        row.isOf schema = true := by
  rw [admits, List.all_eq_true]
  refine forall₂_congr fun item _ => ?_
  by_cases hv : item.view = v
  · cases item.schema <;> simp [hv]
  · simp [hv]

theorem attributes_ne_field (unique : Bool) :
    View.attributes kind unique ≠ .field kind := by
  cases unique <;> exact fun h => nomatch h

theorem attributes_injective {u w : Bool}
    (h : View.attributes kind u = .attributes kind w) :
    u = w := by
  cases u <;> cases w <;> first | rfl | cases h

/-- Every row of the core fields is admitted. -/
theorem admits_field (keys : List (SortKey × Direction)) (row : Row) :
    (ofKeys kind keys).admits (.field kind) row = true := by
  rw [admits_iff]
  intro item hitem hview schema hschema
  obtain ⟨key, direction, -, rfl⟩ := mem_items_ofKeys.1 hitem
  cases key with
  | field f => cases hschema
  | «attribute» s => exact absurd hview (attributes_ne_field s.unique)

/-- Of the view of an attribute those rows are admitted that are of the
attribute. -/
theorem admits_attributes {keys : List (SortKey × Direction)}
    (h : conflict? keys = none) {schema : Schema} (hs : schema ∈ schemas keys)
    {row : Row} (hrow : row.isOf schema.key = true) :
    (ofKeys kind keys).admits (.attributes kind schema.unique) row = true := by
  rw [admits_iff]
  intro item hitem hview key hkey
  obtain ⟨sortKey, direction, hmem, rfl⟩ := mem_items_ofKeys.1 hitem
  cases sortKey with
  | field f => cases hkey
  | «attribute» other =>
    cases hkey
    have hunique : other.unique = schema.unique := attributes_injective hview
    rw [key_eq_of_conflict?_eq_none h
      (mem_schemas.2 ⟨direction, hmem⟩) hs hunique]
    exact hrow

end SortPlan

end IdentitySearch
