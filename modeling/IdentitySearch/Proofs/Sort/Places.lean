/-
The order of rows as a linear order. A cell has a place among all cells, given
by its class, its number and its text (`Cell.place`): cells have the same place
exactly if they are the same, and one stands before another exactly if its
place is less. Turned round for a descending item, and one item after the
other, the places of the cells of a row are in the order that a search sorts by
(`Direction.precede_iff`).

So what a search lists after sorting depends on which rows it joins, and not on
the order in which they come (`SearchStatement.keys_eq_of_mem_joinedRows_iff`),
provided that rows in the same place are of the same identity.

The order of the database is a Boolean test on rows. That it is transitive and
total, as sorting needs it, is not shown for the test: places are in a linear
order that the library has, lexicographic over classes, numbers and texts, with
a dual for what descends, and the test is that order on them. A row is then no
more than its key and its places (`trace`), and a sorted list of traces is
determined by what is in it (`sortedRows_eq`).
-/
import Mathlib.Data.List.Lex
import Mathlib.Data.List.Sort
import Mathlib.Data.Prod.Lex
import Mathlib.Data.String.Basic
import Mathlib.Data.Sum.Order
import Mathlib.Tactic.Tauto
import IdentitySearch.Proofs.Statement.Answers

namespace IdentitySearch

-- =============================================================== places

/-- A place among all cells. -/
abbrev Place := ℕ ×ₗ ℤ ×ₗ String

/-- A place in ascending or in descending order. -/
abbrev DirectedPlace := Place ⊕ₗ Placeᵒᵈ

/-- The place of a cell: its class, then its number, then its text. -/
def Cell.place (c : Cell) : Place :=
  toLex (c.rank, toLex (c.units, c.content))

theorem Cell.place_inj {a b : Cell} : a.place = b.place ↔ a.same b = true := by
  rw [same_iff]
  simp [place]

/-- A number has no text, and nothing else has a number. -/
theorem Cell.units_or_content (c : Cell) :
    (c.rank = 1 ∧ c.content = "") ∨ (c.rank ≠ 1 ∧ c.units = 0) := by
  cases c <;> simp [rank, content, units]

/-- A cell is before another one exactly if its place is less. -/
theorem Cell.place_lt {a b : Cell} :
    a.place < b.place ↔ a.before b = true := by
  unfold place before
  rw [Prod.Lex.toLex_lt_toLex, Prod.Lex.toLex_lt_toLex]
  have ha := a.units_or_content
  have hb := b.units_or_content
  by_cases hrank : a.rank = b.rank
  · rw [if_pos hrank]
    -- of one class, numbers are told apart by their number alone, and
    -- everything else by its text
    by_cases hnumber : a.rank = 1
    · have hcontents : a.content = b.content := by
        rw [(ha.resolve_right fun h => h.1 hnumber).2,
          (hb.resolve_right fun h => h.1 (hrank ▸ hnumber)).2]
      rw [if_pos hnumber, hcontents]
      simp [hrank]
    · have hunits : a.units = b.units := by
        rw [(ha.resolve_left fun h => hnumber h.1).2,
          (hb.resolve_left fun h => hnumber (hrank ▸ h.1)).2]
      rw [if_neg hnumber, hunits, decide_eq_true_eq]
      simp [hrank]
  · simp [hrank]

namespace Direction

/-- The place of a cell in a direction. -/
def place (d : Direction) (c : Cell) : DirectedPlace :=
  match d with
  | .ascending => Sum.inlₗ c.place
  | .descending => Sum.inrₗ (OrderDual.toDual c.place)

/-- The direction does not put different cells in one place, -/
theorem place_inj {d : Direction} {a b : Cell} :
    d.place a = d.place b ↔ a.same b = true := by
  rw [← Cell.place_inj]
  cases d <;> simp [place]

/-- and what is before in it has the lesser place. -/
theorem place_lt {d : Direction} {a b : Cell} :
    d.place a < d.place b ↔ d.before a b = true := by
  cases d with
  | ascending =>
    show Sum.inlₗ a.place < Sum.inlₗ b.place ↔ a.before b = true
    rw [Sum.Lex.inl_lt_inl_iff, Cell.place_lt]
  | descending =>
    show Sum.inrₗ (OrderDual.toDual a.place)
        < Sum.inrₗ (OrderDual.toDual b.place) ↔ b.before a = true
    rw [Sum.Lex.inr_lt_inr_iff, OrderDual.toDual_lt_toDual, Cell.place_lt]

/-- The places of cells, each in its direction. -/
def places (ds : List Direction) (cells : List Cell) : List DirectedPlace :=
  List.zipWith place ds cells

/-- Cells stand before others exactly if their places are less, the first that
differ deciding. -/
theorem precede_iff {ds : List Direction} {as bs : List Cell}
    (ha : as.length = ds.length) (hb : bs.length = ds.length) :
    precede ds as bs = true ↔ places ds as < places ds bs := by
  induction ds generalizing as bs with
  | nil =>
    cases List.eq_nil_of_length_eq_zero ha
    exact iff_of_false Bool.false_ne_true (List.not_lt_nil _)
  | cons d ds ih =>
    obtain ⟨a, as, rfl⟩ := List.exists_cons_of_length_eq_add_one ha
    obtain ⟨b, bs, rfl⟩ := List.exists_cons_of_length_eq_add_one hb
    have hrest := ih (Nat.succ.inj ha) (Nat.succ.inj hb)
    show (d.before a b || !d.before b a && precede ds as bs) = true
      ↔ d.place a :: places ds as < d.place b :: places ds bs
    rw [List.cons_lt_cons_iff, ← hrest, Bool.or_eq_true, Bool.and_eq_true,
      Bool.not_eq_true', ← Bool.not_eq_true, ← place_lt, ← place_lt, not_lt,
        le_iff_lt_or_eq]
    tauto

/-- Cells have the same places exactly if they are the same, one by one. -/
theorem places_inj {ds : List Direction} {as bs : List Cell}
    (ha : as.length = ds.length) (hb : bs.length = ds.length) :
    places ds as = places ds bs
      ↔ ((as.zip bs).all fun (c, d) => c.same d) = true := by
  induction ds generalizing as bs with
  | nil =>
    cases List.eq_nil_of_length_eq_zero ha
    exact iff_of_true rfl rfl
  | cons d ds ih =>
    obtain ⟨a, as, rfl⟩ := List.exists_cons_of_length_eq_add_one ha
    obtain ⟨b, bs, rfl⟩ := List.exists_cons_of_length_eq_add_one hb
    show d.place a :: places ds as = d.place b :: places ds bs ↔ _
    rw [List.cons_eq_cons, place_inj, ih (Nat.succ.inj ha) (Nat.succ.inj hb),
      List.zip_cons_cons, List.all_cons, Bool.and_eq_true]

/-- Places are given item by item. -/
theorem places_map {α : Type} (items : List α) (direction : α → Direction)
    (cell : α → Cell) :
    places (items.map direction) (items.map cell)
      = items.map fun item => (direction item).place (cell item) := by
  rw [places, List.zipWith_map, List.zipWith_self]

/-- Images of a list are in order if the first that differ are. -/
theorem map_lt_map_iff {α β : Type} [LinearOrder β] {f g : α → β}
    {l : List α} :
    l.map f < l.map g ↔ ∃ same a rest, l = same ++ a :: rest
      ∧ (∀ b ∈ same, f b = g b) ∧ f a < g a := by
  induction l with
  | nil => simp
  | cons c rest ih =>
    rw [List.map_cons, List.map_cons, List.cons_lt_cons_iff, ih]
    constructor
    · intro h
      rcases h with hlt | ⟨heq, same, a, more, rfl, hsame, hlt⟩
      · exact ⟨[], c, rest, rfl, by simp, hlt⟩
      · exact ⟨c :: same, a, more, rfl,
          List.forall_mem_cons.2 ⟨heq, hsame⟩, hlt⟩
    · intro h
      obtain ⟨same, a, more, hsplit, hsame, hlt⟩ := h
      cases same with
      | nil =>
        cases hsplit
        exact .inl hlt
      | cons b same =>
        cases hsplit
        obtain ⟨heq, hsame⟩ := List.forall_mem_cons.1 hsame
        exact .inr ⟨heq, same, a, more, rfl, hsame, hlt⟩

end Direction

-- ================================================================ rows

namespace SearchStatement

variable {db db₁ db₂ : Database} {s : SearchStatement}

/-- The directions that a search sorts by. -/
def directions (s : SearchStatement) : List Direction :=
  s.plan.items.map SortItem.direction

/-- A row as far as sorting and listing are concerned: its key and its
places. -/
def trace (s : SearchStatement)
    (row : SortedRow) : Cell × List DirectedPlace :=
  (row.key, Direction.places s.directions row.cells)

/-- What is joined to an identity: one row of each view. -/
theorem mem_joinedRows {row : SortedRow} :
    row ∈ s.joinedRows db ↔ row.key ∈ s.target.cells db
      ∧ row ∈ s.rowsOf (s.joinable db) row.key := by
  simp only [joinedRows, List.mem_flatMap]
  constructor
  · intro h
    obtain ⟨c, hc, hrow⟩ := h
    rw [key_of_mem_rowsOf hrow]
    exact ⟨hc, hrow⟩
  · exact fun h => ⟨row.key, h⟩

/-- A row has a cell for each item. -/
theorem length_cells_of_mem_joinedRows {row : SortedRow}
    (h : row ∈ s.joinedRows db) :
    row.cells.length = s.directions.length := by
  obtain ⟨joined, -, heq⟩ := List.mem_map.1 (mem_joinedRows.1 h).2
  rw [← heq, directions, List.length_map, List.length_map]

/-- Rows that are joined are the same exactly if they have the same key in the
same places. -/
theorem trace_eq_iff (hkeyed : db.Keyed s.target.selection.view)
    {a b : SortedRow} (ha : a ∈ s.joinedRows db) (hb : b ∈ s.joinedRows db) :
    s.trace a = s.trace b ↔ a.same b = true := by
  have hlength := length_cells_of_mem_joinedRows ha
  have hother := length_cells_of_mem_joinedRows hb
  obtain ⟨key, hkey⟩ := exists_key_eq_text hkeyed hb
  have hkeys : a.key = b.key ↔ a.key.same b.key = true := by
    rw [hkey, Cell.same_text]
  rw [trace, trace, Prod.mk.injEq, Direction.places_inj hlength hother, hkeys,
    SortedRow.same, Bool.and_eq_true, Bool.and_eq_true, decide_eq_true_eq]
  simp [hlength, hother]

/-- To sort the rows is to sort their traces by their places. -/
theorem sortedRows_eq :
    (s.sortedRows db).map s.trace
      = ((s.distinctRows db).map s.trace).mergeSort fun x y =>
        decide (x.2 ≤ y.2) := by
  refine List.map_mergeSort fun a ha b hb => ?_
  have hprecede := Direction.precede_iff
    (length_cells_of_mem_joinedRows (mem_of_mem_distinctBy hb))
    (length_cells_of_mem_joinedRows (mem_of_mem_distinctBy ha))
  rw [Bool.eq_iff_iff, Bool.not_eq_true', ← Bool.not_eq_true,
    decide_eq_true_eq]
  exact (not_congr hprecede).trans not_lt

/-- The traces of the distinct rows are those of the joined rows, each once. -/
theorem nodup_trace (hkeyed : db.Keyed s.target.selection.view) :
    ((s.distinctRows db).map s.trace).Nodup := by
  refine List.pairwise_map.2
    ((pairwise_distinctBy (s.joinedRows db)).imp_of_mem ?_)
  intro a b ha hb hdiffer heq
  rw [trace_eq_iff hkeyed (mem_of_mem_distinctBy ha)
    (mem_of_mem_distinctBy hb), hdiffer] at heq
  cases heq

/-- Dropping repetitions loses no trace. -/
theorem mem_trace (hkeyed : db.Keyed s.target.selection.view)
    {x : Cell × List DirectedPlace} :
    x ∈ (s.distinctRows db).map s.trace
      ↔ ∃ row ∈ s.joinedRows db, s.trace row = x := by
  rw [List.mem_map]
  constructor
  · intro h
    obtain ⟨row, hrow, rfl⟩ := h
    exact ⟨row, mem_of_mem_distinctBy hrow, rfl⟩
  · intro h
    obtain ⟨row, hrow, rfl⟩ := h
    exact exists_mem_distinctBy (f := s.trace)
      (fun a ha b hb hsame => (trace_eq_iff hkeyed ha hb).2 hsame) hrow

/-- Rows are sorted by their places. -/
theorem pairwise_trace (db : Database) (s : SearchStatement) :
    ((s.sortedRows db).map s.trace).Pairwise fun x y => x.2 ≤ y.2 := by
  rw [sortedRows_eq]
  have htrans : ∀ x y z : Cell × List DirectedPlace,
      decide (x.2 ≤ y.2) = true → decide (y.2 ≤ z.2) = true →
        decide (x.2 ≤ z.2) = true := by
    intro x y z hxy hyz
    rw [decide_eq_true_eq] at hxy hyz ⊢
    exact le_trans hxy hyz
  have htotal : ∀ x y : Cell × List DirectedPlace,
      (decide (x.2 ≤ y.2) || decide (y.2 ≤ x.2)) = true := by
    intro x y
    rw [Bool.or_eq_true, decide_eq_true_eq, decide_eq_true_eq]
    exact le_total _ _
  simpa only [decide_eq_true_eq] using
    List.pairwise_mergeSort htrans htotal ((s.distinctRows db).map s.trace)

/-- The sorted rows have the traces of the joined ones. -/
theorem mem_trace_sortedRows (hkeyed : db.Keyed s.target.selection.view)
    {x : Cell × List DirectedPlace} :
    x ∈ (s.sortedRows db).map s.trace
      ↔ ∃ row ∈ s.joinedRows db, s.trace row = x := by
  rw [sortedRows_eq, List.mem_mergeSort, mem_trace hkeyed]

/-- A search lists keys as they stand in a list sorted by places, in which each
key has the places of the rows that are joined for it. -/
theorem exists_standings (hkeyed : db.Keyed s.target.selection.view) :
    ∃ standings : List (String × List DirectedPlace),
      s.keys db = standings.map Prod.fst
      ∧ standings.Pairwise (fun x y => x.2 ≤ y.2)
      ∧ ∀ key places, (key, places) ∈ standings ↔
          ∃ row ∈ s.joinedRows db, s.trace row = (.text key, places) := by
  refine ⟨((s.sortedRows db).map s.trace).filterMap fun x =>
    x.1.text?.map (·, x.2), ?_, ?_, ?_⟩
  · rw [List.map_filterMap, List.filterMap_map]
    refine List.filterMap_congr fun row _ => ?_
    show row.key.text? = (row.key.text?.map _).map _
    cases row.key.text? <;> rfl
  · refine (pairwise_trace db s).filterMap _ fun x y hxy a ha b hb => ?_
    obtain ⟨_, -, rfl⟩ := Option.map_eq_some_iff.1 ha
    obtain ⟨_, -, rfl⟩ := Option.map_eq_some_iff.1 hb
    exact hxy
  · intro key places
    simp only [List.mem_filterMap, mem_trace_sortedRows hkeyed]
    constructor
    · intro h
      obtain ⟨_, ⟨row, hrow, rfl⟩, hread⟩ := h
      obtain ⟨other, hother⟩ := exists_key_eq_text hkeyed hrow
      refine ⟨row, hrow, ?_⟩
      rw [trace, hother] at hread ⊢
      cases hread
      rfl
    · intro h
      obtain ⟨row, hrow, htrace⟩ := h
      exact ⟨_, ⟨row, hrow, htrace⟩, rfl⟩

/-- Searches that join the same rows list the same keys in the same order,
where rows in the same place have the same key. -/
theorem keys_eq_of_mem_joinedRows_iff (h₁ : db₁.Keyed s.target.selection.view)
    (h₂ : db₂.Keyed s.target.selection.view)
    (hrows : ∀ row, row ∈ s.joinedRows db₁ ↔ row ∈ s.joinedRows db₂)
    (hkeys : ∀ a ∈ s.joinedRows db₁, ∀ b ∈ s.joinedRows db₁,
      (s.trace a).2 = (s.trace b).2 → a.key = b.key) :
    s.keys db₁ = s.keys db₂ := by
  have hperm : ((s.distinctRows db₁).map s.trace).Perm
      ((s.distinctRows db₂).map s.trace) := by
    refine (List.perm_ext_iff_of_nodup (nodup_trace h₁) (nodup_trace h₂)).2
      fun x => ?_
    rw [mem_trace h₁, mem_trace h₂]
    simp only [hrows]
  have htraces : (s.sortedRows db₁).map s.trace
      = (s.sortedRows db₂).map s.trace := by
    refine List.Perm.eq_of_pairwise ?_ (pairwise_trace db₁ s)
      (pairwise_trace db₂ s) ?_
    · intro x y hx hy hxy hyx
      rw [mem_trace_sortedRows h₁] at hx
      rw [mem_trace_sortedRows h₂] at hy
      obtain ⟨a, ha, rfl⟩ := hx
      obtain ⟨b, hb, rfl⟩ := hy
      have hplaces := le_antisymm hxy hyx
      exact Prod.ext (hkeys a ha b ((hrows b).2 hb) hplaces) hplaces
    · rw [sortedRows_eq, sortedRows_eq]
      exact (List.mergeSort_perm _ _).trans
        (hperm.trans (List.mergeSort_perm _ _).symm)
  have hread : ∀ db, s.keys db = ((s.sortedRows db).map s.trace).filterMap
      fun x => x.1.text? := by
    intro db
    rw [List.filterMap_map]
    rfl
  rw [hread, hread, htraces]

end SearchStatement

end IdentitySearch
