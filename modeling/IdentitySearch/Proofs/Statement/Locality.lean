/-
What a search joins to an identity is decided by the rows that mention the
identity. A view gives the rows with its key; an augmented source gives a row
of NULLs where these have none of the attribute, and whether they do is again
decided by them (`Source.mem_rows_iff_of_agreeOn`). So two databases that agree
about every identity of a target give a search the same rows
(`mem_joinedRows_iff_of_agreeOn`), and where it is sorted by the key of an
identity, the same list (`keys_eq_of_agreeOn`).

Agreement is of sets of rows, not of tables: in what order a table lists its
rows is not decided by which rows it has, and two rows with the same places
come in that order. A sort by the key leaves no two rows of different
identities with the same places (`key_eq_of_places_eq`), and then the list is
decided by the set.

The rows of a search are looked at one identity at a time (`rowsAbout`): for
each source the rows about it, and a joined row for each way to choose one from
every source (`rowsOf_joinable`). A choice is a congruence in what it chooses
from (`mem_choices_map_congr`), which is all that agreement is carried through.
-/
import IdentitySearch.Proofs.Selection.Locality
import IdentitySearch.Proofs.Sort.Joins
import IdentitySearch.Proofs.Sort.Places

namespace IdentitySearch

variable {db₁ db₂ : Database} {key : String}

-- ============================================================== sources

/-- A row of an augmented source is of the attribute, or it is the row of NULLs
of an identity that no such row is about. -/
theorem Source.mem_augmented_iff {db : Database}
    {v identities : View} (hv : db.Keyed v) {schema : String} {row : Row}
    (hrow : row.get .anyId = .text key) :
    row ∈ (Source.augmented v identities schema).rows db ↔
      (row ∈ db.rows v ∧ row.isOf schema = true)
      ∨ (∃ other ∈ db.rows identities, other.get .anyId = .text key)
        ∧ (¬ ∃ other ∈ db.rows v, other.isOf schema = true
          ∧ other.get .anyId = .text key)
        ∧ row = Row.absent (.text key) schema := by
  have hholders : ∀ c ∈ ((db.rows v).filter (·.isOf schema)).map
      (·.get .anyId),
      ∃ other, c = .text other := by
    intro c hc
    obtain ⟨other, hother, rfl⟩ := List.mem_map.1 hc
    exact hv other (List.mem_filter.1 hother).1
  have habsent : (((Cell.text key).isIn
      (((db.rows v).filter (·.isOf schema)).map (·.get .anyId))).not).isHolds
        = true
        ↔ ¬ ∃ other ∈ db.rows v, other.isOf schema = true
          ∧ other.get .anyId = .text key := by
    rw [Cell.text_isIn_eq hholders, Truth.isHolds_iff, Truth.not_eq_holds,
      Truth.ofBool_eq_fails, decide_eq_false_iff_not, List.mem_map]
    simp only [List.mem_filter, and_assoc]
  simp only [rows, List.mem_append, List.mem_map, List.mem_filter]
  refine or_congr_right ⟨fun h => ?_, fun h => ?_⟩
  · obtain ⟨other, ⟨hother, hnone⟩, rfl⟩ := h
    rw [Row.absent_anyId] at hrow
    rw [hrow, habsent] at hnone
    exact ⟨⟨other, hother, hrow⟩, hnone, by rw [hrow]⟩
  · obtain ⟨⟨other, hother, hkey⟩, hnone, rfl⟩ := h
    refine ⟨other, ⟨hother, ?_⟩, by rw [hkey]⟩
    rw [hkey, habsent]
    exact hnone

/-- A row of a source about an identity is in both databases or in neither. -/
theorem Source.mem_rows_iff_of_agreeOn (h₁ : db₁.Identified)
    (h₂ : db₂.Identified) (hagree : db₁.AgreeOn db₂ key) (source : Source)
    {row : Row} (hrow : row.get .anyId = .text key) :
    row ∈ source.rows db₁ ↔ row ∈ source.rows db₂ := by
  have hsame : ∀ v, ∀ other : Row, other.get .anyId = .text key →
      (other ∈ db₁.rows v ↔ other ∈ db₂.rows v) := fun v other hother =>
    hagree v other (Row.mentions_of_anyId hother)
  cases source with
  | plain v => exact hsame v row hrow
  | augmented v identities schema =>
    have hown : (∃ other ∈ db₁.rows v, other.isOf schema = true
        ∧ other.get .anyId = .text key)
        ↔ ∃ other ∈ db₂.rows v, other.isOf schema = true
          ∧ other.get .anyId = .text key :=
      exists_congr fun other => and_congr_left fun h => hsame v other h.2
    have hlisted :
        (∃ other ∈ db₁.rows identities, other.get .anyId = .text key)
        ↔ ∃ other ∈ db₂.rows identities, other.get .anyId = .text key :=
      exists_congr fun other => and_congr_left fun h =>
        hsame identities other h
    rw [mem_augmented_iff (h₁.keyed v) hrow,
      mem_augmented_iff (h₂.keyed v) hrow, hown, hlisted, hsame v row hrow]

-- ============================================================== choices

namespace JoinedRow

/-- From the same rows the same are chosen. -/
theorem mem_choices_map_congr {α : Type} {view : α → View} {f g : α → List Row}
    {l : List α} (h : ∀ a ∈ l, ∀ row, row ∈ f a ↔ row ∈ g a)
    (joined : JoinedRow) :
    joined ∈ choices (l.map fun a => (view a, f a))
      ↔ joined ∈ choices (l.map fun a => (view a, g a)) := by
  induction l generalizing joined with
  | nil => exact Iff.rfl
  | cons a rest ih =>
    rw [List.forall_mem_cons] at h
    simp only [List.map_cons, choices, List.mem_flatMap, List.mem_map,
      h.1, ih h.2]

/-- What is chosen has a row of each view. -/
theorem exists_of_mem_choices {l : List (View × List Row)} {joined : JoinedRow}
    (h : joined ∈ choices l) {v : View} (hv : v ∈ l.map Prod.fst) :
    ∃ row rows, joined.lookup v = some row ∧ (v, rows) ∈ l ∧ row ∈ rows := by
  induction l generalizing joined with
  | nil => cases hv
  | cons p rest ih =>
    obtain ⟨w, rows⟩ := p
    simp only [choices, List.mem_flatMap, List.mem_map] at h
    obtain ⟨row, hrow, others, hothers, rfl⟩ := h
    by_cases heq : v = w
    · subst heq
      exact ⟨row, rows, by simp, List.mem_cons_self, hrow⟩
    · have hrest : v ∈ rest.map Prod.fst :=
        (List.mem_cons.1 hv).resolve_left heq
      obtain ⟨found, frows, hlookup, hmem, hfound⟩ := ih hothers hrest
      refine ⟨found, frows, ?_, List.mem_cons_of_mem _ hmem, hfound⟩
      rw [List.lookup_cons, beq_false_of_ne heq, hlookup]

/-- Where each view has a row of some sort, there is a choice of such rows. -/
theorem exists_mem_choices {P : View → Row → Prop} {l : List (View × List Row)}
    (h : ∀ p ∈ l, ∃ row ∈ p.2, P p.1 row) :
    ∃ joined ∈ choices l, ∀ v ∈ l.map Prod.fst, ∃ row,
      joined.lookup v = some row ∧ P v row := by
  induction l with
  | nil => exact ⟨[], List.mem_singleton_self _, fun v hv => nomatch hv⟩
  | cons p rest ih =>
    obtain ⟨w, rows⟩ := p
    rw [List.forall_mem_cons] at h
    obtain ⟨⟨row, hrow, hsort⟩, hothers⟩ := h
    obtain ⟨others, hchoice, hlookup⟩ := ih hothers
    refine ⟨(w, row) :: others, ?_, fun v hv => ?_⟩
    · exact List.mem_flatMap.2 ⟨row, hrow, List.mem_map_of_mem hchoice⟩
    · by_cases heq : v = w
      · subst heq
        exact ⟨row, by simp, hsort⟩
      · have hrest : v ∈ rest.map Prod.fst :=
          (List.mem_cons.1 hv).resolve_left heq
        obtain ⟨found, hfound, hof⟩ := hlookup v hrest
        exact ⟨found, by rw [List.lookup_cons, beq_false_of_ne heq, hfound],
          hof⟩

end JoinedRow

/-- A source reads its view, augmented or not. -/
theorem SortPlan.view_source {p : SortPlan} {identities v : View}
    {augment : Bool} :
    (p.source identities augment v).view = v := by
  unfold SortPlan.source
  split
  · rfl
  · split <;> rfl

namespace SearchStatement

variable {s : SearchStatement}

/-- The rows of a source that are joined to an identity. -/
def rowsAbout (s : SearchStatement) (db : Database) (key : Cell)
    (source : Source) : List Row :=
  ((source.rows db).filter (s.plan.admits source.view)).filter fun row =>
    (key.equals (row.get .anyId)).isHolds

/-- Rows about an identity are those with its key that the plan admits. -/
theorem mem_rowsAbout {db : Database} {source : Source} {row : Row} :
    row ∈ s.rowsAbout db (.text key) source ↔
      row ∈ source.rows db ∧ s.plan.admits source.view row = true
        ∧ row.get .anyId = .text key := by
  rw [rowsAbout, List.mem_filter, List.mem_filter, Truth.isHolds_iff,
    Cell.text_equals, and_assoc]

/-- What is joined to an identity is a choice of rows about it, read by the
items of the plan. -/
theorem rowsOf_joinable (db : Database) (key : Cell) :
    s.rowsOf (s.joinable db) key
      = (JoinedRow.choices (s.sources.map fun source =>
          (source.view, s.rowsAbout db key source))).map fun joined =>
            ⟨key, s.plan.items.map fun item => item.cell joined⟩ := by
  rw [rowsOf, joinable, List.map_map]
  rfl

theorem mem_views_of_mem_items {item : SortItem} (h : item ∈ s.plan.items) :
    item.view ∈ s.sources.map Source.view := by
  have hview : item.view ∈ s.plan.views := SortPlan.mem_views.2 ⟨item, h, rfl⟩
  exact List.mem_map.2 ⟨_, List.mem_map_of_mem hview, SortPlan.view_source⟩

/-- What is joined to an identity has a row for each item, from the source of
its view. -/
theorem exists_lookup {db : Database} {joined : JoinedRow}
    (h : joined ∈ JoinedRow.choices (s.sources.map fun source =>
      (source.view, s.rowsAbout db (.text key) source)))
    {item : SortItem} (hitem : item ∈ s.plan.items) :
    ∃ row ∈ s.rowsAbout db (.text key)
        (s.plan.source (.field s.target.kind) s.augmented item.view),
      joined.lookup item.view = some row
        ∧ item.cell joined = row.get item.column := by
  have hview : item.view ∈ (s.sources.map fun source =>
      (source.view, s.rowsAbout db (.text key) source)).map Prod.fst := by
    rw [List.map_map]
    exact mem_views_of_mem_items hitem
  obtain ⟨row, rows, hlookup, hmem, hrow⟩ :=
    JoinedRow.exists_of_mem_choices h hview
  obtain ⟨source, hsource, heq⟩ := List.mem_map.1 hmem
  obtain ⟨hsame, rfl⟩ := Prod.mk.inj heq
  obtain ⟨v, -, rfl⟩ := List.mem_map.1 hsource
  rw [SortPlan.view_source] at hsame
  subst hsame
  refine ⟨row, hrow, hlookup, ?_⟩
  unfold SortItem.cell
  rw [hlookup]

/-- In the rows of an identity, an item that sorts by keys has the key of the
identity. -/
theorem cell_eq_key {db : Database} {joined : JoinedRow}
    (h : joined ∈ JoinedRow.choices (s.sources.map fun source =>
      (source.view, s.rowsAbout db (.text key) source)))
    {item : SortItem} (hitem : item ∈ s.plan.items)
    (hcolumn : item.column = .anyId) :
    item.cell joined = .text key := by
  obtain ⟨row, hrow, -, hcell⟩ := exists_lookup h hitem
  rw [hcell, hcolumn]
  exact (mem_rowsAbout.1 hrow).2.2

/-- Sorted by keys, rows in the same place are of the same identity. -/
theorem key_eq_of_places_eq {db : Database}
    (hkeyed : db.Keyed s.target.selection.view) {item : SortItem}
    (hitem : item ∈ s.plan.items) (hcolumn : item.column = .anyId)
    {a b : SortedRow} (ha : a ∈ s.joinedRows db) (hb : b ∈ s.joinedRows db)
    (hplaces : (s.trace a).2 = (s.trace b).2) : a.key = b.key := by
  have hplace : ∀ row ∈ s.joinedRows db, ∃ cells : SortItem → Cell,
      row.cells = s.plan.items.map cells ∧ cells item = row.key := by
    intro row hrow
    obtain ⟨key, hkey⟩ := exists_key_eq_text hkeyed hrow
    have hjoined := (mem_joinedRows.1 hrow).2
    rw [hkey, rowsOf_joinable] at hjoined
    obtain ⟨joined, hchoice, rfl⟩ := List.mem_map.1 hjoined
    exact ⟨fun item => item.cell joined, rfl,
      cell_eq_key hchoice hitem hcolumn⟩
  obtain ⟨cells, hcells, hcell⟩ := hplace a ha
  obtain ⟨others, hothers, hother⟩ := hplace b hb
  rw [trace, trace, directions, hcells, hothers, Direction.places_map,
    Direction.places_map, List.map_inj_left] at hplaces
  have hsame := Direction.place_inj.1 (hplaces item hitem)
  obtain ⟨key, hkey⟩ := exists_key_eq_text hkeyed hb
  rw [hcell, hother, hkey, Cell.same_text] at hsame
  rw [hsame, hkey]

/-- The rows of an identity in a search are the same in both databases. -/
theorem mem_rowsOf_iff_of_agreeOn (h₁ : db₁.Identified) (h₂ : db₂.Identified)
    (hagree : db₁.AgreeOn db₂ key) (row : SortedRow) :
    row ∈ s.rowsOf (s.joinable db₁) (.text key)
      ↔ row ∈ s.rowsOf (s.joinable db₂) (.text key) := by
  have habout : ∀ source ∈ s.sources, ∀ other,
      other ∈ s.rowsAbout db₁ (.text key) source
      ↔ other ∈ s.rowsAbout db₂ (.text key) source := by
    intro source _ other
    rw [mem_rowsAbout, mem_rowsAbout]
    refine ⟨fun h => ⟨?_, h.2⟩, fun h => ⟨?_, h.2⟩⟩
    · exact (source.mem_rows_iff_of_agreeOn h₁ h₂ hagree h.2.2).1 h.1
    · exact (source.mem_rows_iff_of_agreeOn h₁ h₂ hagree h.2.2).2 h.1
  rw [rowsOf_joinable, rowsOf_joinable, List.mem_map, List.mem_map]
  simp only [JoinedRow.mem_choices_map_congr habout]

-- ============================================================== targets

variable (h₁ : db₁.Identified) (h₂ : db₂.Identified)
  (htarget : ∀ key, s.target.Includes db₁ key ↔ s.target.Includes db₂ key)
  (hagree : ∀ key, s.target.Includes db₁ key → db₁.AgreeOn db₂ key)

include h₁ h₂ htarget hagree

/-- Databases that agree about the identities of a target give a search the
same rows. -/
theorem mem_joinedRows_iff_of_agreeOn (row : SortedRow) :
    row ∈ s.joinedRows db₁ ↔ row ∈ s.joinedRows db₂ := by
  rw [mem_joinedRows, mem_joinedRows]
  constructor
  · intro h
    obtain ⟨hcell, hrow⟩ := h
    obtain ⟨key, hkey⟩ := Target.exists_eq_text (h₁.keyed _) hcell
    rw [hkey] at hcell hrow ⊢
    rw [Target.text_mem_cells] at hcell ⊢
    exact ⟨(htarget key).1 hcell,
      (mem_rowsOf_iff_of_agreeOn h₁ h₂ (hagree key hcell) row).1 hrow⟩
  · intro h
    obtain ⟨hcell, hrow⟩ := h
    obtain ⟨key, hkey⟩ := Target.exists_eq_text (h₂.keyed _) hcell
    rw [hkey] at hcell hrow ⊢
    rw [Target.text_mem_cells] at hcell ⊢
    have hincluded := (htarget key).2 hcell
    exact ⟨hincluded,
      (mem_rowsOf_iff_of_agreeOn h₁ h₂ (hagree key hincluded) row).2 hrow⟩

/-- So the same identities are listed, in whatever order. -/
theorem mem_keys_iff_of_agreeOn (key : String) :
    key ∈ s.keys db₁ ↔ key ∈ s.keys db₂ := by
  rw [mem_keys_iff_joinedRows (h₁.keyed _),
    mem_keys_iff_joinedRows (h₂.keyed _)]
  simp only [mem_joinedRows_iff_of_agreeOn h₁ h₂ htarget hagree]

/-- Sorted by keys, they give the same list. -/
theorem keys_eq_of_agreeOn {item : SortItem} (hitem : item ∈ s.plan.items)
    (hcolumn : item.column = .anyId) : s.keys db₁ = s.keys db₂ :=
  keys_eq_of_mem_joinedRows_iff (h₁.keyed _) (h₂.keyed _)
    (mem_joinedRows_iff_of_agreeOn h₁ h₂ htarget hagree)
    fun _ ha _ hb => key_eq_of_places_eq (h₁.keyed _) hitem hcolumn ha hb

end SearchStatement

end IdentitySearch
