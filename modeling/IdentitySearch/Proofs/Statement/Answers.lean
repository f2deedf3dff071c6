/-
What a database answers to the two statements. Where the rows of a view all
have keys, the identities of a target are distinct texts (`Target.cells_eq`),
so a count is the number of them. A search joins rows to them: an identity is
found if every source has a row for it that the plan admits
(`SearchStatement.mem_keys_iff`). Without sources nothing is lost.

Either statement is answered if its condition is not too high and its views are
there.

# From cells to keys

- The database works on cells, and drops repetitions among them as it does
  among all cells. A reader wants texts. Both are the same where every cell of
  the column is a text, which `Keyed` says of a view.
- Rows are joined by choosing one row of each source, so an identity has a
  joined row if it has a row in each of them (`exists_mem_rowsOf_iff`). Which
  rows are chosen does not matter to who is found.
- Repetitions among joined rows are dropped, and the rest is sorted; neither
  adds or loses a key (`mem_keys_iff_joinedRows`).

What is said of failures is exact too: a statement is answered if and only if
the database can (`count_eq_ok_iff`, `fetch_eq_ok_iff`), and then with these
keys in the window of the statement.
-/
import IdentitySearch.Store.Content
import IdentitySearch.Proofs.Outcome
import IdentitySearch.Proofs.Sql.Demands
import IdentitySearch.Proofs.Scope.Visibility

namespace IdentitySearch

variable (db : Database)

-- =============================================================== targets

namespace Target

/-- A target includes an identity. -/
def Includes (t : Target) (key : String) : Prop :=
  t.selection.Selects db key ∧ t.visibility.Shows db t.kind key

/-- The identities of a target, as texts. -/
def keys (t : Target) : List String :=
  (t.cells db).filterMap Cell.text?

variable {db} {t : Target}

theorem text_mem_cells (key : String) :
    .text key ∈ t.cells db ↔ t.Includes db key := by
  rw [cells, List.mem_filter, Visibility.admits_text]
  rfl

/-- Where every row of the view has a key, every cell is a text. -/
theorem exists_eq_text (h : db.Keyed t.selection.view) {c : Cell}
    (hc : c ∈ t.cells db) :
    ∃ key, c = .text key := by
  obtain ⟨row, hrow, rfl⟩ :=
    Query.exists_of_mem_cells_select db (List.mem_filter.1 hc).1
  exact h row hrow

/-- Under a view with keys the cells of a target are texts, -/
theorem cells_eq (h : db.Keyed t.selection.view) :
    t.cells db = (t.keys db).map .text := by
  have hmap :=
    Cell.map_text_filterMap (f := id) fun c hc => exists_eq_text h hc
  rw [List.map_id] at hmap
  exact hmap.symm

/-- and these are who is included. -/
theorem mem_keys (h : db.Keyed t.selection.view) (key : String) :
    key ∈ t.keys db ↔ t.Includes db key := by
  rw [← text_mem_cells, cells_eq h, List.mem_map]
  simp

/-- No identity comes twice. -/
theorem pairwise_cells : (t.cells db).Pairwise fun a b => a.same b = false :=
  (pairwise_distinctBy _).filter _

/-- So nobody is listed twice, -/
theorem nodup_keys (h : db.Keyed t.selection.view) : (t.keys db).Nodup := by
  have hcells : (t.cells db).Pairwise _ := pairwise_cells
  rw [cells_eq h, List.pairwise_map] at hcells
  refine hcells.imp fun hsame => ?_
  intro heq
  subst heq
  rw [Cell.same_refl] at hsame
  cases hsame

/-- and counting cells is counting keys. -/
theorem length_cells (h : db.Keyed t.selection.view) :
    (t.cells db).length = (t.keys db).length := by
  rw [cells_eq h, List.length_map]

end Target

-- =============================================================== joining

/-- There is a choice of rows if every view has one. -/
theorem JoinedRow.exists_mem_choices_iff (l : List (View × List Row)) :
    (∃ joined, joined ∈ choices l) ↔ ∀ p ∈ l, ∃ row, row ∈ p.2 := by
  induction l with
  | nil => simp [choices]
  | cons p rest ih =>
    obtain ⟨v, rows⟩ := p
    rw [List.forall_mem_cons, ← ih]
    simp only [choices, List.mem_flatMap, List.mem_map]
    constructor
    · intro h
      rcases h with ⟨_, row, hrow, joined, hjoined, rfl⟩
      exact ⟨⟨row, hrow⟩, joined, hjoined⟩
    · intro h
      rcases h with ⟨⟨row, hrow⟩, joined, hjoined⟩
      exact ⟨_, row, hrow, joined, hjoined, rfl⟩

/-- Rows of a search that are the same have the same key. -/
theorem SortedRow.key_same {a b : SortedRow} (h : a.same b = true) :
    a.key.same b.key = true := by
  rw [same, Bool.and_eq_true, Bool.and_eq_true] at h
  exact h.1.1

namespace SearchStatement

/-- The keys of the rows of a search, in their order and without the window. -/
def keys (s : SearchStatement) : List String :=
  (s.sortedRows db).filterMap fun row => row.key.text?

/-- A source has a row for an identity. -/
def Joins (s : SearchStatement) (key : String) (source : Source) : Prop :=
  ∃ row ∈ source.rows db, s.plan.admits source.view row = true
    ∧ row.get .anyId = .text key

/-- An identity has a row in a search if every source has one for it. -/
theorem exists_mem_rowsOf_iff (s : SearchStatement) (key : String) :
    (∃ row, row ∈ s.rowsOf (s.joinable db) (.text key))
      ↔ ∀ source ∈ s.sources, s.Joins db key source := by
  simp only [rowsOf, List.mem_map]
  rw [exists_comm]
  simp only [exists_and_left, exists_eq', and_true]
  rw [JoinedRow.exists_mem_choices_iff]
  constructor
  · intro hchoices source hsource
    obtain ⟨row, hrow⟩ :=
      hchoices _ (List.mem_map_of_mem (List.mem_map_of_mem hsource))
    obtain ⟨hadmitted, hkey⟩ := List.mem_filter.1 hrow
    obtain ⟨hrow, hadmits⟩ := List.mem_filter.1 hadmitted
    exact ⟨row, hrow, hadmits, Cell.text_equals.1 (Truth.isHolds_iff.1 hkey)⟩
  · intro hjoins p hp
    obtain ⟨q, hq, rfl⟩ := List.mem_map.1 hp
    obtain ⟨source, hsource, rfl⟩ := List.mem_map.1 hq
    obtain ⟨row, hrow, hadmits, hkey⟩ := hjoins source hsource
    refine ⟨row, List.mem_filter.2 ⟨List.mem_filter.2 ⟨hrow, hadmits⟩, ?_⟩⟩
    exact Truth.isHolds_iff.2 (Cell.text_equals.2 hkey)

/-- The rows that are joined for a key have it. -/
theorem key_of_mem_rowsOf {s : SearchStatement}
    {joinable : List (View × List Row)} {key : Cell} {row : SortedRow}
    (h : row ∈ s.rowsOf joinable key) : row.key = key := by
  obtain ⟨joined, -, rfl⟩ := List.mem_map.1 h
  rfl

variable {db} {s : SearchStatement}

/-- The rows of a search before they are sorted. -/
def joinedRows (db : Database) (s : SearchStatement) : List SortedRow :=
  (s.target.cells db).flatMap (s.rowsOf (s.joinable db))

/-- The rows of a search as they are joined, each once. -/
def distinctRows (db : Database) (s : SearchStatement) : List SortedRow :=
  distinctBy SortedRow.same (s.joinedRows db)

/-- The rows of a search are joined in the order that is asked for. -/
def InOrder (db : Database) (s : SearchStatement) : Prop :=
  (s.distinctRows db).Pairwise fun a b =>
    (!Direction.precede (s.plan.items.map SortItem.direction) b.cells a.cells)
      = true

instance : Decidable (s.InOrder db) :=
  inferInstanceAs (Decidable (List.Pairwise _ _))

/-- Rows that are joined in order need no sorting. -/
theorem keys_of_inOrder (h : s.InOrder db) :
    s.keys db = (s.distinctRows db).filterMap fun row => row.key.text? := by
  show ((s.distinctRows db).mergeSort _).filterMap _ = _
  rw [List.mergeSort_of_pairwise h]

/-- So all rows of a search have texts for keys. -/
theorem exists_key_eq_text (h : db.Keyed s.target.selection.view)
    {row : SortedRow} (hrow : row ∈ s.joinedRows db) :
    ∃ key, row.key = .text key := by
  obtain ⟨c, hc, hrow⟩ := List.mem_flatMap.1 hrow
  rw [key_of_mem_rowsOf hrow]
  exact Target.exists_eq_text h hc

theorem map_text_keys (h : db.Keyed s.target.selection.view) :
    (s.keys db).map .text = (s.sortedRows db).map SortedRow.key :=
  Cell.map_text_filterMap fun _ hrow =>
    exists_key_eq_text h (mem_of_mem_distinctBy (List.mem_mergeSort.1 hrow))

/-- The rows of a search have the keys of the joined rows. -/
theorem mem_keys_iff_joinedRows (h : db.Keyed s.target.selection.view)
    (key : String) :
    key ∈ s.keys db ↔ ∃ row ∈ s.joinedRows db, row.key = .text key := by
  have hmap : key ∈ s.keys db ↔ Cell.text key ∈ (s.keys db).map .text := by
    simp
  rw [hmap, map_text_keys h]
  simp only [List.mem_map, sortedRows, List.mem_mergeSort]
  constructor
  · intro hgiven
    rcases hgiven with ⟨row, hrow, hkey⟩
    exact ⟨row, mem_of_mem_distinctBy hrow, hkey⟩
  · intro hgiven
    rcases hgiven with ⟨row, hrow, hkey⟩
    have hsame : ∀ a ∈ s.joinedRows db, ∀ b ∈ s.joinedRows db,
        a.same b = true → a.key = b.key := by
      intro a _ b hb hab
      obtain ⟨other, hother⟩ := exists_key_eq_text h hb
      have hkeys := SortedRow.key_same hab
      rw [hother] at hkeys ⊢
      exact Cell.same_text.1 hkeys
    obtain ⟨left, hleft, heq⟩ := exists_mem_distinctBy hsame hrow
    exact ⟨left, hleft, heq.trans hkey⟩

/-- A search finds the identities of its target that every source has a row
for. -/
theorem mem_keys_iff (h : db.Keyed s.target.selection.view) (key : String) :
    key ∈ s.keys db ↔
      s.target.Includes db key
        ∧ ∀ source ∈ s.sources, s.Joins db key source := by
  rw [mem_keys_iff_joinedRows h, ← Target.text_mem_cells,
    ← exists_mem_rowsOf_iff]
  simp only [joinedRows, List.mem_flatMap]
  constructor
  · intro hgiven
    rcases hgiven with ⟨row, ⟨c, hc, hrow⟩, hkey⟩
    rw [key_of_mem_rowsOf hrow] at hkey
    rw [hkey] at hc hrow
    exact ⟨hc, row, hrow⟩
  · intro hgiven
    rcases hgiven with ⟨hc, row, hrow⟩
    exact ⟨row, ⟨_, hc, hrow⟩, key_of_mem_rowsOf hrow⟩

/-- An unsorted search lists the identities of its target as they were
selected. -/
theorem keys_of_items_eq_nil (hitems : s.plan.items = []) :
    s.keys db = s.target.keys db := by
  have hsources : s.sources = [] := by
    simp [sources, SortPlan.sources, SortPlan.views, hitems]
  have hrows : ∀ key, s.rowsOf (s.joinable db) key = [⟨key, []⟩] :=
    fun key => by
    simp [rowsOf, joinable, hsources, JoinedRow.choices, hitems]
  have hjoined : s.joinedRows db = (s.target.cells db).map fun key =>
      ⟨key, []⟩ := by
    rw [joinedRows, funext hrows]
    exact List.map_eq_flatMap.symm
  have hdistinct : s.distinctRows db = (s.target.cells db).map fun key =>
      ⟨key, []⟩ := by
    rw [distinctRows, hjoined]
    apply distinctBy_of_pairwise
    rw [List.pairwise_map]
    refine (Target.pairwise_cells (t := s.target)).imp fun hab => ?_
    simp [SortedRow.same, hab]
  have hordered : s.InOrder db := by
    unfold InOrder
    rw [hitems]
    exact List.pairwise_of_forall fun _ _ => rfl
  rw [keys_of_inOrder hordered, hdistinct, List.filterMap_map]
  rfl

/-- Those of some keys that are in the window of a search. -/
def inWindow (s : SearchStatement) (keys : List String) : List String :=
  match s.window with
  | none => keys
  | some w => w.apply keys

end SearchStatement

-- ============================================================== answers

/-- A database can answer about a target. -/
structure Target.Answerable (t : Target) : Prop where
  nesting_le : t.selection.query.nesting ≤ heightLimit
  has : ∀ v ∈ t.selection.query.views, db.Has v
  has_visibility : ∀ v ∈ t.visibility.views t.kind, db.Has v

instance (t : Target) : Decidable (t.Answerable db) :=
  decidable_of_iff (t.selection.query.nesting ≤ heightLimit
      ∧ (∀ v ∈ t.selection.query.views, db.Has v)
      ∧ ∀ v ∈ t.visibility.views t.kind, db.Has v)
    ⟨fun ⟨h₁, h₂, h₃⟩ => ⟨h₁, h₂, h₃⟩, fun ⟨h₁, h₂, h₃⟩ => ⟨h₁, h₂, h₃⟩⟩

/-- A database can answer a search. -/
structure SearchStatement.Answerable (s : SearchStatement) : Prop where
  target : s.target.Answerable db
  has_sources : ∀ source ∈ s.sources, ∀ v ∈ source.views, db.Has v
  offset_lt : ∀ w, s.window = some w → w.offset < Window.offsetLimit

instance (s : SearchStatement) : Decidable (s.Answerable db) :=
  decidable_of_iff (s.target.Answerable db
    ∧ (∀ source ∈ s.sources, ∀ v ∈ source.views, db.Has v)
      ∧ ∀ w ∈ s.window, w.offset < Window.offsetLimit)
    ⟨fun ⟨h₁, h₂, h₃⟩ => ⟨h₁, h₂, h₃⟩, fun ⟨h₁, h₂, h₃⟩ => ⟨h₁, h₂, h₃⟩⟩

/-- Views that are required are there, or the first one that is not is the
error. -/
theorem Database.requireViews_eq_ok_iff (views : List View) :
    db.requireViews views = .ok () ↔ ∀ v ∈ views, db.Has v := by
  unfold requireViews
  have hmissing : db.missing? views = none ↔ ∀ v ∈ views, db.Has v := by
    simp [missing?, Has, Option.isSome_iff_ne_none]
  rw [← hmissing]
  cases db.missing? views <;> simp

/-- An answer is given where the condition is not too high. -/
theorem Target.limited_eq_ok_iff {α : Type} (t : Target)
    (answer : Except Error α) (a : α) :
    t.limited answer = .ok a
      ↔ t.selection.query.nesting ≤ heightLimit ∧ answer = .ok a := by
  have hheight := t.selection.query.height_le_nesting
  unfold limited
  by_cases hhigh : heightLimit < t.selection.query.height
  · simp only [hhigh, if_true]
    refine iff_of_false (fun h => nomatch h) fun h => ?_
    have hlow := h.1
    omega
  · simp only [hhigh, if_false]
    cases answer with
    | error e => exact iff_of_false (fun h => nomatch h) fun h => nomatch h.2
    | ok b =>
      simp only
      by_cases hdeep : heightLimit < t.selection.query.nesting
      · rw [if_pos hdeep]
        refine iff_of_false (fun h => nomatch h) fun h => ?_
        have hlow := h.1
        omega
      · rw [if_neg hdeep]
        exact ⟨fun h => ⟨by omega, h⟩, And.right⟩

namespace Content

variable (c : Content)

/-- What is counted are the identities of the target. -/
theorem count_eq_ok_iff (s : CountStatement) (n : Nat) :
    c.store.count s = .ok n ↔
      s.target.Answerable c.database
        ∧ (s.target.cells c.database).length = n := by
  show s.target.limited (c.database.count s) = .ok n ↔ _
  rw [Target.limited_eq_ok_iff]
  constructor
  · intro hgiven
    rcases hgiven with ⟨hnesting, h⟩
    obtain ⟨_, hviews, h⟩ := Outcome.bind_eq_ok.1 h
    cases h
    rw [Database.requireViews_eq_ok_iff, List.forall_mem_append] at hviews
    exact ⟨⟨hnesting, hviews.1, hviews.2⟩, rfl⟩
  · intro hgiven
    rcases hgiven with ⟨⟨hnesting, hviews, hvisibility⟩, rfl⟩
    refine ⟨hnesting, Outcome.bind_eq_ok.2 ⟨(), ?_, rfl⟩⟩
    rw [Database.requireViews_eq_ok_iff, List.forall_mem_append]
    exact ⟨hviews, hvisibility⟩

/-- What is listed are the keys in the window. -/
theorem fetch_eq_ok_iff (s : SearchStatement) (keys : List String) :
    c.store.fetch s = .ok keys
      ↔ s.Answerable c.database ∧ s.inWindow (s.keys c.database) = keys := by
  -- the views are asked for in one list: those of the selection, the sources
  -- and the visibility
  have hviews : (c.database.requireViews (s.target.selection.query.views
        ++ s.sources.flatMap Source.views
          ++ s.target.visibility.views s.target.kind) = .ok ())
      ↔ (∀ v ∈ s.target.selection.query.views, c.database.Has v)
        ∧ (∀ source ∈ s.sources, ∀ v ∈ source.views, c.database.Has v)
        ∧ ∀ v ∈ s.target.visibility.views s.target.kind, c.database.Has v := by
    rw [Database.requireViews_eq_ok_iff, List.forall_mem_append,
      List.forall_mem_append, List.forall_mem_flatMap, and_assoc]
  show s.target.limited (c.database.fetch s) = .ok keys ↔ _
  rw [Target.limited_eq_ok_iff]
  constructor
  · intro hgiven
    rcases hgiven with ⟨hnesting, h⟩
    obtain ⟨_, hpresent, h⟩ := Outcome.bind_eq_ok.1 h
    obtain ⟨hselection, hsources, hvisibility⟩ := hviews.1 hpresent
    have htarget : s.target.Answerable c.database :=
      ⟨hnesting, hselection, hvisibility⟩
    unfold SearchStatement.inWindow
    cases hwindow : s.window with
    | none =>
      simp only [hwindow] at h
      cases h
      exact ⟨⟨htarget, hsources, fun w hw => by simp [hwindow] at hw⟩, rfl⟩
    | some w =>
      simp only [hwindow] at h
      split at h
      · next hoffset =>
        cases h
        refine ⟨⟨htarget, hsources, fun w' hw' => ?_⟩, rfl⟩
        cases hwindow.symm.trans hw'
        exact hoffset
      · cases h
  · intro hgiven
    rcases hgiven with
      ⟨⟨⟨hnesting, hselection, hvisibility⟩, hsources, hoffset⟩, rfl⟩
    refine ⟨hnesting, Outcome.bind_eq_ok.2 ⟨(),
      hviews.2 ⟨hselection, hsources, hvisibility⟩, ?_⟩⟩
    unfold SearchStatement.inWindow
    cases hwindow : s.window with
    | none => rfl
    | some w => exact if_pos (hoffset w hwindow)

end Content

end IdentitySearch
