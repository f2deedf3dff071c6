/-
One row for each identity. Where the core fields have one row for each identity
and the attributes that are sorted by have one value at most, a search joins
each identity to one row, and no key comes twice among its rows
(`nodup_keys_of_keysDiffer`). The rows of NULLs change nothing about it, since
they stand in only for those without a value.

Rows are told apart by their keys (`Row.KeysDiffer`), which is asked of each
view only after the plan has admitted what it reads: two values of different
attributes are not in each other's way, though they are in one view. From
sources to joins it is a product of lists with at most one element each
(`JoinedRow.length_choices_le_one`). This is the case in which pages tile the
result.
-/
import Mathlib.Data.List.Basic
import IdentitySearch.Proofs.Sort.Joins

namespace IdentitySearch

/-- No two of some rows have the same key. -/
def Row.KeysDiffer (rows : List Row) : Prop :=
  rows.Pairwise fun a b => a.get .anyId ≠ b.get .anyId

instance (rows : List Row) : Decidable (Row.KeysDiffer rows) :=
  inferInstanceAs (Decidable (List.Pairwise _ rows))

/-- Core fields have one row for each identity, and the attributes that clauses
name have one value at most. -/
structure Database.SingleValued (db : Database) (kind : Kind) (d : Directory)
    (clauses : List SortClause) : Prop where
  fields : Row.KeysDiffer (db.rows (.field kind))
  attributes : ∀ clause ∈ clauses, ∀ schema,
    kind.sortKey? d clause.property = .ok (some (.attribute schema)) →
      Row.KeysDiffer
        ((db.rows (.attributes kind schema.unique)).filter fun row =>
        row.isOf schema.key)

variable {db : Database}

-- =============================================================== sources

/-- Own rows and rows of NULLs are of different identities. -/
theorem Source.keysDiffer_augmented {v identities : View} {schema : String}
    (hown : Row.KeysDiffer ((db.rows v).filter fun row => row.isOf schema))
    (hidentities : Row.KeysDiffer (db.rows identities)) :
    Row.KeysDiffer ((Source.augmented v identities schema).rows db) := by
  unfold Row.KeysDiffer Source.rows
  refine List.pairwise_append.2 ⟨hown, ?_, ?_⟩
  · rw [List.pairwise_map]
    exact hidentities.filter _
  · intro row hrow absent habsent heq
    obtain ⟨other, hother, rfl⟩ := List.mem_map.1 habsent
    have hout := (List.mem_filter.1 hother).2
    rw [Truth.isHolds_iff, Truth.not_eq_holds, Cell.isIn_eq_fails] at hout
    have hdiffers := hout _ (List.mem_map_of_mem hrow)
    rw [Cell.equals_eq_fails, heq, Row.absent_anyId,
      Cell.same_refl] at hdiffers
    cases hdiffers.2.2

/-- The rows that a plan admits from its sources have different keys. -/
theorem SortPlan.keysDiffer_of_singleValued {kind : Kind} {d : Directory}
    {clauses : List SortClause} {p : SortPlan}
    (hp : make kind d clauses = .ok p) (h : db.SingleValued kind d clauses)
    (augment : Bool) :
    ∀ source ∈ p.sources (.field kind) augment,
      Row.KeysDiffer ((source.rows db).filter (p.admits source.view)) := by
  obtain ⟨keys, hkeys, -, rfl⟩ := make_eq_ok_iff.1 hp
  intro source hsource
  obtain ⟨v, hv, rfl⟩ := List.mem_map.1 hsource
  obtain ⟨item, hitem, rfl, hschema⟩ := schemaOf?_eq_of_mem_views hv
  obtain ⟨sortKey, direction, hmem, rfl⟩ := mem_items_ofKeys.1 hitem
  unfold SortPlan.source
  rw [hschema]
  cases sortKey with
  | field f => exact h.fields.filter _
  | «attribute» schema =>
    obtain ⟨clause, hclause, hnamed⟩ :=
      Kind.exists_clause_of_mem_sortKeys hkeys hmem
    have hvalues := h.attributes clause hclause schema hnamed
    cases augment with
    | true => exact (Source.keysDiffer_augmented hvalues h.fields).filter _
    | false =>
      -- what the plan admits from the view is of the attribute
      refine hvalues.sublist (List.monotone_filter_right _ fun row hrow => ?_)
      exact admits_iff.1 hrow _ hitem rfl schema.key rfl

-- ================================================================= joins

/-- With one row to choose at most from each view, there is one choice at
most. -/
theorem JoinedRow.length_choices_le_one {l : List (View × List Row)}
    (h : ∀ p ∈ l, p.2.length ≤ 1) : (choices l).length ≤ 1 := by
  induction l with
  | nil => simp [choices]
  | cons p rest ih =>
    obtain ⟨v, rows⟩ := p
    rw [List.forall_mem_cons] at h
    have hrest := ih h.2
    rcases rows with _ | ⟨row, _ | ⟨other, more⟩⟩
    · simp [choices]
    · simpa [choices] using hrest
    · simp at h

/-- Of rows whose keys differ, one at most has some key. -/
theorem Row.length_le_one {rows : List Row} (h : KeysDiffer rows)
    {key : String} (hkey : ∀ row ∈ rows, row.get .anyId = .text key) :
    rows.length ≤ 1 := by
  match rows with
  | [] | [_] => simp
  | row :: other :: rest =>
    have hsame := (hkey row (by simp)).trans (hkey other (by simp)).symm
    exact absurd hsame ((List.pairwise_cons.1 h).1 other (by simp))

namespace SearchStatement

variable {s : SearchStatement}

/-- Where every source has one row at most for each identity, an identity has
one row at most in the search. -/
theorem length_rowsOf_le_one (h : ∀ source ∈ s.sources,
      Row.KeysDiffer ((source.rows db).filter (s.plan.admits source.view)))
    (key : String) :
    (s.rowsOf (s.joinable db) (.text key)).length ≤ 1 := by
  rw [rowsOf, List.length_map]
  apply JoinedRow.length_choices_le_one
  intro p hp
  obtain ⟨q, hq, rfl⟩ := List.mem_map.1 hp
  obtain ⟨source, hsource, rfl⟩ := List.mem_map.1 hq
  apply Row.length_le_one ((h source hsource).filter _)
  intro row hrow
  exact Cell.text_equals.1 (Truth.isHolds_iff.1 (List.mem_filter.1 hrow).2)

/-- Then the rows that are joined are all of different identities, -/
theorem pairwise_joinedRows (hkeyed : db.Keyed s.target.selection.view)
    (h : ∀ source ∈ s.sources,
      Row.KeysDiffer ((source.rows db).filter (s.plan.admits source.view))) :
    (s.joinedRows db).Pairwise fun a b => a.key ≠ b.key := by
  refine List.pairwise_flatMap.2 ⟨fun c hc => ?_, Target.pairwise_cells.imp ?_⟩
  · obtain ⟨key, rfl⟩ := Target.exists_eq_text hkeyed hc
    match hrows : s.rowsOf (s.joinable db) (.text key),
      length_rowsOf_le_one h key with
    | [], _ => exact .nil
    | [row], _ => exact List.pairwise_singleton _ row
    | _ :: _ :: _, hlength => simp at hlength
  · intro c₁ c₂ hdiffer a ha b hb heq
    rw [key_of_mem_rowsOf ha, key_of_mem_rowsOf hb] at heq
    rw [heq, Cell.same_refl] at hdiffer
    cases hdiffer

/-- and so no key comes twice among the rows. -/
theorem nodup_keys_of_keysDiffer (hkeyed : db.Keyed s.target.selection.view)
    (h : ∀ source ∈ s.sources,
      Row.KeysDiffer ((source.rows db).filter (s.plan.admits source.view))) :
    (s.keys db).Nodup := by
  have hdistinct : (s.distinctRows db).Pairwise fun a b => a.key ≠ b.key :=
    (pairwise_joinedRows hkeyed h).sublist (distinctBy_sublist _)
  have hsorted : (s.sortedRows db).Pairwise fun a b => a.key ≠ b.key :=
    ((List.mergeSort_perm (s.distinctRows db) _).pairwise_iff fun hne =>
      hne.symm).2 hdistinct
  have hkeys : ((s.keys db).map Cell.text).Nodup := by
    rw [map_text_keys hkeyed]
    exact List.pairwise_map.2 hsorted
  exact List.Pairwise.of_map Cell.text
    (fun _ _ hne heq => hne (congrArg Cell.text heq)) hkeys

end SearchStatement

end IdentitySearch
