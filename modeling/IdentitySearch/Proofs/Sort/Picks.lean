/-
What an identity is sorted by. For a sort, rows are picked for an identity: one
of its core fields, and of each attribute the row of one of its values, or none
if it has no value (`Pick.IsOf`). The cells of these rows are its places in the
keys of the sort, one of them for each pick; an identity with several values
has several, and counts with the first (`Pick.IsFirst`).

The rows that a search joins to an identity are its picks and nothing else
(`SearchStatement.trace_iff_pick`): an attribute is read from a view in which
only its rows are admitted, and the rows of NULLs stand for the picks of none.
So whom a search lists first comes first by its picks
(`SearchStatement.keys_in_order`).

# Two descriptions of one order

What is stated here knows nothing of joins: which of two cells comes first
(`Cell.Lower`), which way a key is read (`Direction.Puts`), which of two picks
precedes the other (`Pick.Precedes`). The search compares places, which carry
their direction with them. That these are the same order is shown cell by cell
(`Cell.lower_iff`), then for one key (`Direction.puts_iff`) and for a list of
keys (`Pick.precedes_iff`).

- From a joined row to a pick: the view of each key has its row, and the row is
  read as the value picked there (`SortsBy.exists_pick`).
- From a pick to a joined row: each view of the search has a row that shows the
  pick (`SortsBy.exists_shows`), and such rows can be chosen together
  (`SortsBy.exists_joined`). Two keys may share a view, which is why a pick is
  one row for each attribute and not for each key.
-/
import IdentitySearch.Proofs.Distinct
import IdentitySearch.Proofs.Sort.Acceptance
import IdentitySearch.Proofs.Statement.Locality
import IdentitySearch.Proofs.Text.Bytes

namespace IdentitySearch

-- ================================================================ cells

/-- A cell is lower than another one: NULL than everything else, a number than
a number of greater value and than any text, and a text than one whose bytes
come later. -/
inductive Cell.Lower : Cell → Cell → Prop
  | null {c : Cell} (h : c ≠ .null) : Lower .null c
  | number {a b : Cell} (ha : a.rank = 1) (hb : b.rank = 1)
      (h : a.units < b.units) : Lower a b
  | number_text {a : Cell} (ha : a.rank = 1) (t : String) : Lower a (.text t)
  | text {s t : String} (h : Text.bytes s < Text.bytes t) :
      Lower (.text s) (.text t)

/-- Which of two cells a direction puts first. -/
def Direction.Puts (d : Direction) (a b : Cell) : Prop :=
  match d with
  | .ascending => a.Lower b
  | .descending => b.Lower a

/-- The order that is stated is the one that cells are compared by, -/
theorem Cell.lower_iff {a b : Cell} : a.Lower b ↔ a.before b = true := by
  constructor
  · intro h
    cases h with
    | null h => cases b <;> first | rfl | exact absurd rfl h
    | number ha hb h =>
      unfold before
      rw [if_pos (ha.trans hb.symm), if_pos ha]
      exact decide_eq_true h
    | number_text ha t =>
      unfold before
      rw [ha]
      rfl
    | text h => exact decide_eq_true (Text.bytes_lt_iff.1 h)
  · intro h
    cases a with
    | null =>
      refine .null fun hb => ?_
      subst hb
      cases h
    | integer n =>
      cases b with
      | null => cases h
      | text t => exact .number_text rfl t
      | integer m => exact .number rfl rfl (of_decide_eq_true h)
      | real y => exact .number rfl rfl (of_decide_eq_true h)
    | real x =>
      cases b with
      | null => cases h
      | text t => exact .number_text rfl t
      | integer m => exact .number rfl rfl (of_decide_eq_true h)
      | real y => exact .number rfl rfl (of_decide_eq_true h)
    | text s =>
      cases b with
      | null | integer m | real y => cases h
      | text t => exact .text (Text.bytes_lt_iff.2 (of_decide_eq_true h))

/-- and a direction reads it forwards or backwards. -/
theorem Direction.puts_iff {d : Direction} {a b : Cell} :
    d.Puts a b ↔ d.place a < d.place b := by
  rw [place_lt]
  cases d <;> exact Cell.lower_iff

-- ================================================================ picks

/-- A row with a value of an attribute of an identity. -/
structure Database.HoldsValue (db : Database) (kind : Kind) (id : String)
    (s : Schema) (row : Row) :
    Prop where
  mem : row ∈ db.rows (.attributes kind s.unique)
  isOf : row.isOf s.key = true
  anyId : row.get .anyId = .text id

/-- Rows picked for an identity: one of its core fields, and for each
attribute, unique or not, the row of a value or none. -/
structure Pick where
  fields : Row
  value? : (unique : Bool) → (key : String) → Option Row

namespace Pick

/-- The cell that a key sorts by; where no value was picked, that is NULL. -/
def cell (x : Pick) : SortKey → Cell
  | .field f => x.fields.get f.column
  | .attribute s =>
    match x.value? s.unique s.key with
    | some row => row.get s.type.column
    | none => .null

/-- What is picked for a key is of the identity, and none is picked only if
there is none. -/
def Fits (x : Pick) (db : Database) (kind : Kind)
    (id : String) : SortKey → Prop
  | .field _ =>
    x.fields ∈ db.rows (.field kind) ∧ x.fields.get .anyId = .text id
  | .attribute s =>
    match x.value? s.unique s.key with
    | some row => db.HoldsValue kind id s row
    | none => ∀ row, ¬ db.HoldsValue kind id s row

/-- What fits sorts by a value of the attribute, or by NULL if there is
none. -/
theorem Fits.cell_attribute {x : Pick} {db : Database} {kind : Kind}
    {id : String} {s : Schema} (h : x.Fits db kind id (.attribute s)) :
    (∃ row, db.HoldsValue kind id s row
      ∧ x.cell (.attribute s) = row.get s.type.column)
      ∨ (∀ row, ¬ db.HoldsValue kind id s row)
        ∧ x.cell (.attribute s) = .null := by
  cases hvalue : x.value? s.unique s.key with
  | some row =>
    simp only [Fits, hvalue] at h
    exact .inl ⟨row, h, by simp only [cell, hvalue]⟩
  | none =>
    simp only [Fits, hvalue] at h
    exact .inr ⟨h, by simp only [cell, hvalue]⟩

/-- A pick for an identity, as far as some keys are concerned. -/
def IsOf (x : Pick) (db : Database) (kind : Kind)
    (keys : List (SortKey × Direction)) (id : String) :
    Prop :=
  ∀ k ∈ keys, x.Fits db kind id k.1

/-- A pick comes before another one: at the first key where one cell is lower
than the other, the direction puts its cell first. -/
def Precedes (keys : List (SortKey × Direction)) (x y : Pick) : Prop :=
  ∃ same key direction rest, keys = same ++ (key, direction) :: rest
    ∧ (∀ k ∈ same, ¬ (x.cell k.1).Lower (y.cell k.1)
      ∧ ¬ (y.cell k.1).Lower (x.cell k.1))
    ∧ direction.Puts (x.cell key) (y.cell key)

/-- The first pick for an identity, or one of the first. -/
structure IsFirst (x : Pick) (db : Database) (kind : Kind)
    (keys : List (SortKey × Direction))
    (id : String) : Prop where
  isOf : x.IsOf db kind keys id
  first : ∀ y : Pick, y.IsOf db kind keys id → ¬ y.Precedes keys x

/-- The places of a pick. -/
def places (x : Pick)
    (keys : List (SortKey × Direction)) : List DirectedPlace :=
  keys.map fun k => k.2.place (x.cell k.1)

/-- A row of a view has the cells of a pick, for all keys that are read from
it. -/
def Shows (x : Pick) (kind : Kind) (keys : List (SortKey × Direction))
    (v : View) (row : Row) : Prop :=
  ∀ k ∈ keys, (SortItem.ofKey kind k.2 k.1).view = v →
    row.get (SortItem.ofKey kind k.2 k.1).column = x.cell k.1

/-- A pick precedes another one if its places come first, as a list. -/
theorem precedes_iff {keys : List (SortKey × Direction)} {x y : Pick} :
    x.Precedes keys y ↔ x.places keys < y.places keys := by
  have hlevel : ∀ k : SortKey × Direction,
      (¬ (x.cell k.1).Lower (y.cell k.1) ∧ ¬ (y.cell k.1).Lower (x.cell k.1))
        ↔ k.2.place (x.cell k.1) = k.2.place (y.cell k.1) := by
    intro k
    rw [Cell.lower_iff, Cell.lower_iff, ← Cell.place_lt, ← Cell.place_lt,
      Direction.place_inj, ← Cell.place_inj, not_lt, not_lt, and_comm,
        le_antisymm_iff]
  simp only [Precedes, places, Direction.map_lt_map_iff, hlevel,
    Direction.puts_iff, Prod.exists]

/-- The places of a first pick come no later than those of any other. -/
theorem IsFirst.places_le {x y : Pick} {db : Database} {kind : Kind}
    {keys : List (SortKey × Direction)} {id : String}
    (h : x.IsFirst db kind keys id) (hy : y.IsOf db kind keys id) :
    x.places keys ≤ y.places keys :=
  not_lt.1 fun hlt => h.first y hy (precedes_iff.2 hlt)

end Pick

/-- Identities are listed by their first picks, and each of them has one. -/
structure Database.ListsInOrder (db : Database) (kind : Kind)
    (keys : List (SortKey × Direction))
    (ids : List String) : Prop where
  first : ∀ id ∈ ids, ∃ x : Pick, x.IsFirst db kind keys id
  ordered : ids.Pairwise fun a b => ∀ x y : Pick,
    x.IsFirst db kind keys a → y.IsFirst db kind keys b → ¬ y.Precedes keys x

-- ================================================================= rows

theorem Row.absent_value (key : Cell) (schema : String) (type : ValueType) :
    (Row.absent key schema).get type.column = .null := by
  cases type <;> rfl

namespace SearchStatement

variable {db : Database} {kind : Kind} {keys : List (SortKey × Direction)}
  {id : String}

/-- The rows of an identity that the source of a view has. -/
def rowsIn (s : SearchStatement) (db : Database) (id : String)
    (v : View) : List Row :=
  s.rowsAbout db (.text id)
    (s.plan.source (.field s.target.kind) s.augmented v)

/-- A search for identities of a kind by some keys, which do not conflict. -/
structure SortsBy (s : SearchStatement) (kind : Kind)
    (keys : List (SortKey × Direction)) : Prop where
  kind_eq : s.target.kind = kind
  plan_eq : s.plan = .ofKeys kind keys
  conflict? : SortPlan.conflict? keys = none

variable {s : SearchStatement} (hs : s.SortsBy kind keys)
  (hdb : db.Consistent kind)

include hs

/-- Every key of the sort is read by an item of the plan, -/
theorem SortsBy.mem_items {key : SortKey} {direction : Direction}
    (h : (key, direction) ∈ keys) :
    .ofKey kind direction key ∈ s.plan.items := by
  rw [hs.plan_eq]
  exact SortPlan.mem_items_ofKeys.2 ⟨key, direction, h, rfl⟩

/-- and its view is the view of one attribute only. -/
theorem SortsBy.schemaOf? {key : SortKey} {direction : Direction}
    (h : (key, direction) ∈ keys) :
    s.plan.schemaOf? (SortItem.ofKey kind direction key).view
      = (SortItem.ofKey kind direction key).schema := by
  have hitem := hs.mem_items h
  rw [hs.plan_eq] at hitem ⊢
  exact SortPlan.schemaOf?_of_mem_items hs.conflict? hitem

/-- Of the core fields these are all its rows. -/
theorem SortsBy.mem_rowsIn_field {f : CoreField} {direction : Direction}
    (h : (.field f, direction) ∈ keys) {row : Row} :
    row ∈ s.rowsIn db id (.field kind)
      ↔ row ∈ db.rows (.field kind) ∧ row.get .anyId = .text id := by
  have hschema : s.plan.schemaOf? (.field kind) = none := hs.schemaOf? h
  have hadmits : s.plan.admits (.field kind) row = true := by
    rw [hs.plan_eq]
    exact SortPlan.admits_field keys row
  rw [rowsIn, mem_rowsAbout, SortPlan.source, hschema]
  show _ ∧ s.plan.admits (.field kind) row = true ∧ _ ↔ _
  rw [hadmits]
  simp [Source.rows]

include hdb

/-- Of an attribute these are the rows of its values; where there is none and
the source is augmented, it is the row of NULLs. -/
theorem SortsBy.mem_rowsIn_attribute {t : Schema} {direction : Direction}
    (h : (.attribute t, direction) ∈ keys) {row : Row} :
    row ∈ s.rowsIn db id (.attributes kind t.unique) ↔
      db.HoldsValue kind id t row
        ∨ s.augmented = true ∧ db.Lists (.field kind) id
          ∧ (∀ other, ¬ db.HoldsValue kind id t other)
          ∧ row = Row.absent (.text id) t.key := by
  have hschema : s.plan.schemaOf? (.attributes kind t.unique) = some t.key :=
    hs.schemaOf? h
  -- what the plan admits from the view is of this attribute, since it is the
  -- only one read there
  have hadmits : s.plan.admits (.attributes kind t.unique) row = true
      ↔ row.isOf t.key = true := by
    rw [hs.plan_eq]
    refine ⟨fun hadmitted => ?_,
      SortPlan.admits_attributes hs.conflict? (SortPlan.mem_schemas.2 ⟨_, h⟩)⟩
    have hitem := hs.mem_items h
    rw [hs.plan_eq] at hitem
    exact SortPlan.admits_iff.1 hadmitted _ hitem rfl t.key rfl
  rw [rowsIn, mem_rowsAbout, SortPlan.view_source, hadmits, SortPlan.source,
    hschema, hs.kind_eq]
  cases s.augmented with
  | false =>
    simp only [Bool.false_eq_true, if_false, false_and, or_false, Source.rows]
    exact ⟨fun h => ⟨h.1, h.2.1, h.2.2⟩, fun h => ⟨h.mem, h.isOf, h.anyId⟩⟩
  | true =>
    simp only [if_true, true_and]
    constructor
    · intro hrow
      obtain ⟨hmem, hof, hid⟩ := hrow
      rw [Source.mem_augmented_iff (hdb.keyed_attributes t.unique) hid] at hmem
      rcases hmem with hmem | ⟨hlisted, hnone, habsent⟩
      · exact .inl ⟨hmem.1, hof, hid⟩
      · exact .inr ⟨hlisted, fun other hother => hnone ⟨other, hother.mem,
          hother.isOf, hother.anyId⟩, habsent⟩
    · intro hrow
      rcases hrow with hrow | ⟨hlisted, hnone, rfl⟩
      · refine ⟨?_, hrow.isOf, hrow.anyId⟩
        exact (Source.mem_augmented_iff (hdb.keyed_attributes t.unique)
          hrow.anyId).2 (.inl ⟨hrow.mem, hrow.isOf⟩)
      · refine ⟨?_, Row.isOf_absent _ _, Row.absent_anyId _ _⟩
        refine (Source.mem_augmented_iff (hdb.keyed_attributes t.unique)
          (Row.absent_anyId _ _)).2 (.inr ⟨hlisted, fun hother => ?_, rfl⟩)
        obtain ⟨other, hmem, hof, hid⟩ := hother
        exact hnone other ⟨hmem, hof, hid⟩

/-- What is joined to an identity is a pick for it. -/
theorem SortsBy.exists_pick {joined : JoinedRow}
    (h : joined ∈ JoinedRow.choices (s.sources.map fun source =>
      (source.view, s.rowsAbout db (.text id) source))) :
    ∃ x : Pick, x.IsOf db kind keys id
      ∧ ∀ k ∈ keys,
        (SortItem.ofKey kind k.2 k.1).cell joined = x.cell k.1 := by
  -- a row of NULLs is none of the view, and stands for the pick of none
  let x : Pick := {
    fields := (joined.lookup (.field kind)).getD ⟨[]⟩
    value? := fun unique _ => (joined.lookup (.attributes kind unique)).filter
      fun row =>
      row ∈ db.rows (.attributes kind unique) }
  have hfits : ∀ k ∈ keys, x.Fits db kind id k.1
      ∧ (SortItem.ofKey kind k.2 k.1).cell joined = x.cell k.1 := by
    intro k hk
    obtain ⟨key, direction⟩ := k
    obtain ⟨row, hrow, hlookup, hcell⟩ := exists_lookup h (hs.mem_items hk)
    rw [hcell]
    cases key with
    | field f =>
      have hfields : x.fields = row := congrArg (Option.getD · _) hlookup
      refine ⟨?_, congrArg (Row.get · f.column) hfields.symm⟩
      show x.fields ∈ _ ∧ x.fields.get .anyId = _
      rw [hfields]
      exact (hs.mem_rowsIn_field hk).1 hrow
    | «attribute» t =>
      have hvalue : x.value? t.unique t.key
          = (some row).filter fun row =>
            row ∈ db.rows (.attributes kind t.unique) :=
        congrArg (Option.filter _) hlookup
      rcases (hs.mem_rowsIn_attribute hdb hk).1 hrow with
        hheld | ⟨-, -, hnone, rfl⟩
      · rw [Option.filter_some, if_pos (decide_eq_true hheld.mem)] at hvalue
        simp only [Pick.Fits, Pick.cell, hvalue]
        exact ⟨hheld, rfl⟩
      · have hnot : Row.absent (.text id) t.key ∉ db.rows
            (.attributes kind t.unique) := fun hmem =>
          hnone _ ⟨hmem, Row.isOf_absent _ _, Row.absent_anyId _ _⟩
        rw [Option.filter_some, if_neg (by simpa using hnot)] at hvalue
        simp only [Pick.Fits, Pick.cell, hvalue]
        exact ⟨hnone, Row.absent_value _ _ t.type⟩
  exact ⟨x, fun k hk => (hfits k hk).1, fun k hk => (hfits k hk).2⟩

omit hdb in
/-- All keys in the view of an attribute are of this attribute. -/
theorem SortsBy.eq_attribute {t : Schema} {direction : Direction}
    (h : (.attribute t, direction) ∈ keys) {k : SortKey × Direction}
    (hk : k ∈ keys)
    (hview : (SortItem.ofKey kind k.2 k.1).view = .attributes kind t.unique) :
    ∃ other : Schema, k.1 = .attribute other ∧ other.unique = t.unique
      ∧ other.key = t.key := by
  obtain ⟨key, other⟩ := k
  cases key with
  | field f => exact absurd hview.symm (SortPlan.attributes_ne_field t.unique)
  | «attribute» u =>
    have hunique : u.unique = t.unique := SortPlan.attributes_injective hview
    exact ⟨u, rfl, hunique, SortPlan.key_eq_of_conflict?_eq_none hs.conflict?
      (SortPlan.mem_schemas.2 ⟨_, hk⟩) (SortPlan.mem_schemas.2 ⟨_, h⟩) hunique⟩

/-- Each view has a row with the cells of a pick, if it has one for the
identity at all. -/
theorem SortsBy.exists_shows {x : Pick} (hx : x.IsOf db kind keys id)
    {v : View} (hv : v ∈ s.plan.views) (hrow : ∃ row, row ∈ s.rowsIn db id v) :
    ∃ row ∈ s.rowsIn db id v, x.Shows kind keys v row := by
  obtain ⟨item, hitem, rfl⟩ := SortPlan.mem_views.1 hv
  rw [hs.plan_eq] at hitem
  obtain ⟨key, direction, hk, rfl⟩ := SortPlan.mem_items_ofKeys.1 hitem
  cases key with
  | field f =>
    refine ⟨x.fields, (hs.mem_rowsIn_field hk).2 (hx _ hk),
      fun k _ hview => ?_⟩
    obtain ⟨key, other⟩ := k
    cases key with
    | field g => rfl
    | «attribute» t =>
      exact absurd hview (SortPlan.attributes_ne_field t.unique)
  | «attribute» t =>
    have hfits := hx _ hk
    have hshows : ∀ row : Row, (∀ type : ValueType, row.get type.column = (
        match x.value? t.unique t.key with
        | some own => own.get type.column
        | none => .null)) →
          x.Shows kind keys (.attributes kind t.unique) row := by
      intro row hcells k hk' hview
      obtain ⟨u, hu, hunique, hkey⟩ := hs.eq_attribute hk hk' hview
      rw [hu]
      show row.get u.type.column = x.cell (.attribute u)
      rw [hcells, Pick.cell, hunique, hkey]
    cases hvalue : x.value? t.unique t.key with
    | some own =>
      simp only [Pick.Fits, hvalue] at hfits
      exact ⟨own, (hs.mem_rowsIn_attribute hdb hk).2 (.inl hfits),
        hshows own (by simp [hvalue])⟩
    | none =>
      simp only [Pick.Fits, hvalue] at hfits
      obtain ⟨row, hrow⟩ := hrow
      rcases (hs.mem_rowsIn_attribute hdb hk).1 hrow with
        hheld | ⟨-, -, -, habsent⟩
      · exact absurd hheld (hfits row)
      · refine ⟨row, hrow, hshows row fun type => ?_⟩
        rw [hvalue, habsent, Row.absent_value]

/-- A pick for an identity is joined to it, if anything is. -/
theorem SortsBy.exists_joined
    (hjoins : ∀ source ∈ s.sources, s.Joins db id source) {x : Pick}
    (hx : x.IsOf db kind keys id) :
    ∃ joined ∈ JoinedRow.choices (s.sources.map fun source =>
        (source.view, s.rowsAbout db (.text id) source)),
      ∀ k ∈ keys, (SortItem.ofKey kind k.2 k.1).cell joined = x.cell k.1 := by
  have hchosen : ∀ p ∈ s.sources.map fun source =>
      (source.view, s.rowsAbout db (.text id) source),
      ∃ row ∈ p.2, x.Shows kind keys p.1 row := by
    intro p hp
    obtain ⟨source, hsource, rfl⟩ := List.mem_map.1 hp
    obtain ⟨row, hrow⟩ := hjoins source hsource
    have hrows : ∃ row, row ∈ s.rowsAbout db (.text id) source :=
      ⟨row, mem_rowsAbout.2 hrow⟩
    obtain ⟨v, hv, rfl⟩ := List.mem_map.1 hsource
    simp only [SortPlan.view_source]
    exact hs.exists_shows hdb hx hv hrows
  obtain ⟨joined, hchoice, hlookup⟩ := JoinedRow.exists_mem_choices hchosen
  refine ⟨joined, hchoice, fun k hk => ?_⟩
  have hview :
      (SortItem.ofKey kind k.2 k.1).view ∈ (s.sources.map fun source =>
      (source.view, s.rowsAbout db (.text id) source)).map Prod.fst := by
    rw [List.map_map]
    exact mem_views_of_mem_items (hs.mem_items hk)
  obtain ⟨row, hrow, hshows⟩ := hlookup _ hview
  rw [← hshows k hk rfl, SortItem.cell, hrow]

omit hdb in
/-- The trace of what is joined, key by key. -/
theorem SortsBy.trace_joined (joined : JoinedRow) :
    s.trace ⟨.text id, s.plan.items.map fun item => item.cell joined⟩
      = (.text id, keys.map fun k =>
        k.2.place ((SortItem.ofKey kind k.2 k.1).cell joined)) := by
  refine Prod.ext rfl ?_
  show Direction.places (s.plan.items.map SortItem.direction) _ = _
  rw [Direction.places_map, hs.plan_eq]
  show List.map _ (List.map _ keys) = _
  rw [List.map_map]
  refine List.map_congr_left fun k _ => ?_
  obtain ⟨key, direction⟩ := k
  cases key <;> rfl

variable (hkeyed : db.Keyed s.target.selection.view)

include hkeyed

/-- The rows that a search joins to an identity it lists are the picks for
it. -/
theorem SortsBy.trace_iff_pick (hid : id ∈ s.keys db)
    (places : List DirectedPlace) :
    (∃ row ∈ s.joinedRows db, s.trace row = (.text id, places)) ↔
      ∃ x : Pick, x.IsOf db kind keys id ∧ x.places keys = places := by
  obtain ⟨hincluded, hjoins⟩ := (mem_keys_iff hkeyed id).1 hid
  -- equal cells have equal places, whatever the directions are
  have hplaces : ∀ {joined : JoinedRow} {x : Pick},
      (∀ k ∈ keys, (SortItem.ofKey kind k.2 k.1).cell joined = x.cell k.1) →
        (keys.map fun k => k.2.place
          ((SortItem.ofKey kind k.2 k.1).cell joined)) = x.places keys :=
    fun hcells => List.map_congr_left fun k hk =>
      congrArg k.2.place (hcells k hk)
  constructor
  · intro h
    obtain ⟨row, hrow, htrace⟩ := h
    have hkey : row.key = .text id := congrArg Prod.fst htrace
    have hjoined := (mem_joinedRows.1 hrow).2
    rw [hkey, rowsOf_joinable] at hjoined
    obtain ⟨joined, hchoice, rfl⟩ := List.mem_map.1 hjoined
    obtain ⟨x, hx, hcells⟩ := hs.exists_pick hdb hchoice
    refine ⟨x, hx, ?_⟩
    rw [hs.trace_joined, hplaces hcells] at htrace
    exact congrArg Prod.snd htrace
  · intro h
    obtain ⟨x, hx, rfl⟩ := h
    obtain ⟨joined, hchoice, hcells⟩ := hs.exists_joined hdb hjoins hx
    refine ⟨⟨.text id, s.plan.items.map fun item => item.cell joined⟩,
      mem_joinedRows.2 ⟨?_, ?_⟩, ?_⟩
    · exact (Target.text_mem_cells id).2 hincluded
    · rw [rowsOf_joinable]
      exact List.mem_map_of_mem hchoice
    · rw [hs.trace_joined, hplaces hcells]

/-- A search lists the identities by their first picks. -/
theorem SortsBy.keys_in_order :
    db.ListsInOrder kind keys (s.keys db).eraseDups := by
  obtain ⟨standings, hkeys, hsorted, hmem⟩ := exists_standings (s := s) hkeyed
  have hpick : ∀ {id places}, id ∈ s.keys db → ((id, places) ∈ standings ↔
      ∃ x : Pick, x.IsOf db kind keys id ∧ x.places keys = places) :=
    fun hid => (hmem _ _).trans (hs.trace_iff_pick hdb hkeyed hid _)
  constructor
  · intro id hid
    rw [List.mem_eraseDups] at hid
    obtain ⟨⟨_, places⟩, hin, rfl, hfirst⟩ := Distinct.exists_first_of_pairwise
      (f := Prod.fst) (fun x => le_refl x.2) hsorted (hkeys ▸ hid)
    obtain ⟨x, hx, hplaces⟩ := (hpick hid).1 hin
    refine ⟨x, hx, fun y hy hprecedes => ?_⟩
    rw [Pick.precedes_iff, hplaces] at hprecedes
    exact not_lt.2
      (hfirst (_, y.places keys) ((hpick hid).2 ⟨y, hy, rfl⟩) rfl) hprecedes
  · have horder := Distinct.pairwise_eraseDups_map (f := Prod.fst) hsorted
    rw [← hkeys] at horder
    refine horder.imp_of_mem fun {a b} ha hb hab x y hx hy hprecedes => ?_
    rw [List.mem_eraseDups] at ha hb
    obtain ⟨⟨_, places⟩, hin, rfl, hbefore⟩ := hab
    -- the first pick of the left one comes no later than the row for which it
    -- is listed
    obtain ⟨z, hz, hplaces⟩ := (hpick ha).1 hin
    have hle := hbefore (b, y.places keys) ((hpick hb).2 ⟨y, hy.isOf, rfl⟩) rfl
    rw [← hplaces] at hle
    exact not_lt.2 ((hx.places_le hz).trans hle)
      (Pick.precedes_iff.1 hprecedes)

end SearchStatement

end IdentitySearch
