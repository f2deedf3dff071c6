/-
Which sorts are accepted, and what their plans are like. A sort is turned down
exactly if it asks one view for two attributes (`Kind.Clashes`), which is said
of what the clauses name and not of the plan, so it does not matter in which
order they come, in which direction or how often. Since a plan that is made has
one attribute to a view, the schema that its sources take from the first item
on a view is that of every item on it (`SortPlan.Follows.schema`).

# The order of the argument

- Clauses are resolved one after the other. A property is a core field, or a
  schema, or nothing, and a core field hides a schema of its name
  (`Kind.sortKey?_eq_attribute_iff`). If the directory answers, all of them are
  resolved.
- The keys that came of it conflict if there are two attributes among those
  that are unique, or among those that are not (`conflict?_eq_none_iff`). These
  are the attributes that the clauses ask for (`Kind.mem_schemas_of_sortKeys`),
  so a conflict is a clash.
- The set of attributes is ordered and without repetitions, so two different
  ones are in it if it has more than one (`KeySet.exists_ne_of_one_lt`), and
  the error names them all (`make_eq_error`).
- What a plan is like is read off the keys it is made of, field by field
  (`follows_of_make`).
-/
import Mathlib.Data.List.Nodup
import IdentitySearch.Directory.Memory
import IdentitySearch.Proofs.Distinct
import IdentitySearch.Proofs.Sort.Joins

namespace IdentitySearch

open Outcome

/-- Looking up a schema does not fail. -/
def Directory.Answers (d : Directory) : Prop :=
  ∀ key, ∃ found, d.schema? key = .ok found

namespace Kind

variable (kind : Kind) (d : Directory)

/-- An attribute that one of some clauses is about: its property is no core
field, and is the key of a schema. -/
def AsksFor (clauses : List SortClause) (s : Schema) : Prop :=
  ∃ clause ∈ clauses, kind.field? clause.property = none
    ∧ d.schema? clause.property = .ok (some s)

/-- Two different attributes are asked for that are both unique, or both
not. -/
def Clashes (clauses : List SortClause) : Prop :=
  ∃ a b, kind.AsksFor d clauses a ∧ kind.AsksFor d clauses b
    ∧ a.unique = b.unique ∧ a.key ≠ b.key

/-- The item for a clause, if it names something. -/
def item? (clause : SortClause) : Option SortItem :=
  (kind.names? d clause.property).map fun
    | .field f => ⟨.field kind, f.column, clause.direction, none⟩
    | .attribute s =>
      ⟨.attributes kind s.unique, s.type.column, clause.direction, some s.key⟩

end Kind

/-- The first `n` names of sort columns. -/
def SortPlan.names (n : Nat) : List String :=
  (List.range n).map fun i => "ob_" ++ toString i

/-- What a plan for some clauses should be like. -/
structure SortPlan.Follows (p : SortPlan) (kind : Kind) (d : Directory)
    (clauses : List SortClause) :
    Prop where
  /-- There is an item for each clause that names something, in the order of
  the clauses. -/
  items : p.items = clauses.filterMap (kind.item? d)
  /-- The columns that are selected have the names `ob_0`, `ob_1` and so on,
  without gaps. -/
  selected : p.selectList = Text.joined "" (List.zipWith (fun item name => ", "
    ++ item.view.alias ++ "." ++ item.column.sqlName ++ " AS " ++ name) p.items
    (names p.items.length))
  /-- They are sorted by under these names. -/
  ordered : p.orderClause = if p.items = [] then ""
    else " ORDER BY " ++ Text.joined ", " (List.zipWith (fun item name =>
      name ++ " " ++ item.direction.keyword) p.items (names p.items.length))
  named : (names p.items.length).Nodup
  once : p.views.Nodup
  views : ∀ v, v ∈ p.views ↔ ∃ item ∈ p.items, item.view = v
  /-- Items that are read from one view are restricted to one schema, or none
  of them is. -/
  agree : ∀ a ∈ p.items, ∀ b ∈ p.items, a.view = b.view → a.schema = b.schema
  /-- The schema that is taken for a view is that of every item on it. -/
  schema : ∀ item ∈ p.items, p.schemaOf? item.view = item.schema
  source : ∀ item ∈ p.items, ∀ identities, p.source identities true item.view
    = match item.schema with
      | some key => .augmented item.view identities key
      | none => .plain item.view
  restriction : ∀ item ∈ p.items,
    item.restriction? = (p.schemaOf? item.view).map fun key =>
    .ofText (item.view.alias ++ ".schema_id=") ++ .placeholder (.text key)
  optional : p.optional = true
    ↔ ∃ s, kind.AsksFor d clauses s ∧ s.isMandatory = false

variable {kind : Kind} {d : Directory} {clauses : List SortClause}

-- ============================================================ resolving

namespace Kind

theorem sortKey?_of_field?_eq_some {property : String} {f : CoreField}
    (h : kind.field? property = some f) :
    kind.sortKey? d property = .ok (some (.field f)) := by
  rw [sortKey?, h]

/-- Any other property is looked up among the schemas. -/
theorem sortKey?_of_field?_eq_none {property : String}
    (h : kind.field? property = none) :
    kind.sortKey? d property = (d.schema? property).map fun found =>
      found.map .attribute := by
  rw [sortKey?, h]

/-- So an attribute is sorted by if a schema has its name and no core field
does. -/
theorem sortKey?_eq_attribute_iff {property : String} {s : Schema} :
    kind.sortKey? d property = .ok (some (.attribute s)) ↔
      kind.field? property = none ∧ d.schema? property = .ok (some s) := by
  cases hfield : kind.field? property with
  | some f => simp [sortKey?_of_field?_eq_some hfield]
  | none =>
    rw [sortKey?_of_field?_eq_none hfield, map_eq_ok]
    simp

/-- Where lookups do not fail, clauses always name some keys. -/
theorem exists_sortKeys (hd : d.Answers) (clauses : List SortClause) :
    ∃ keys, kind.sortKeys d clauses = .ok keys := by
  have hnamed : ∀ property, ∃ key?, kind.sortKey? d property = .ok key? := by
    intro property
    cases hfield : kind.field? property with
    | some f => exact ⟨_, sortKey?_of_field?_eq_some hfield⟩
    | none =>
      obtain ⟨found, hfound⟩ := hd property
      exact ⟨_, (sortKey?_of_field?_eq_none hfield).trans
        (map_eq_ok.2 ⟨found, hfound, rfl⟩)⟩
  induction clauses with
  | nil => exact ⟨[], rfl⟩
  | cons clause rest ih =>
    obtain ⟨key?, hkey⟩ := hnamed clause.property
    obtain ⟨keys, hkeys⟩ := ih
    cases key? with
    | none => exact ⟨keys,
      bind_eq_ok.2 ⟨none, hkey, bind_eq_ok.2 ⟨keys, hkeys, rfl⟩⟩⟩
    | some key =>
      exact ⟨_, bind_eq_ok.2 ⟨some key, hkey, bind_eq_ok.2 ⟨keys, hkeys, rfl⟩⟩⟩

/-- The items of a plan are those of its clauses, in their order, without those
that name nothing. -/
theorem items_of_sortKeys {keys : List (SortKey × Direction)}
    (h : kind.sortKeys d clauses = .ok keys) :
    (SortPlan.ofKeys kind keys).items = clauses.filterMap (kind.item? d) := by
  rw [← named_eq h]
  show List.map _ (List.filterMap _ clauses) = _
  rw [List.map_filterMap]
  refine List.filterMap_congr fun clause _ => ?_
  rw [item?, Option.map_map]
  refine congrArg (Option.map · _) (funext fun key => ?_)
  cases key <;> rfl

/-- The attributes among the keys are those that are asked for. -/
theorem mem_schemas_of_sortKeys {keys : List (SortKey × Direction)}
    (h : kind.sortKeys d clauses = .ok keys) {s : Schema} :
    s ∈ SortPlan.schemas keys ↔ kind.AsksFor d clauses s := by
  rw [SortPlan.mem_schemas]
  constructor
  · intro hs
    obtain ⟨direction, hmem⟩ := hs
    obtain ⟨clause, hclause, hnamed⟩ := exists_clause_of_mem_sortKeys h hmem
    exact ⟨clause, hclause, sortKey?_eq_attribute_iff.1 hnamed⟩
  · intro hs
    obtain ⟨clause, hclause, hnamed⟩ := hs
    exact ⟨_,
      mem_sortKeys_of_clause h hclause (sortKey?_eq_attribute_iff.2 hnamed)⟩

/-- Which attributes are asked for depends on the properties of the clauses
alone. -/
theorem asksFor_congr {others : List SortClause}
    (h : ∀ property, property ∈ others.map SortClause.property
      ↔ property ∈ clauses.map SortClause.property) (s : Schema) :
    kind.AsksFor d others s ↔ kind.AsksFor d clauses s := by
  have hproperty : ∀ l : List SortClause, kind.AsksFor d l s ↔
      ∃ property ∈ l.map SortClause.property,
        kind.field? property = none ∧ d.schema? property = .ok (some s) := by
    simp [AsksFor]
  simp only [hproperty, h]

end Kind

-- ============================================================== clashes

/-- A set of two or more keys has two different ones. -/
theorem KeySet.exists_ne_of_one_lt {asked : KeySet}
    (h : 1 < asked.keys.length) :
    ∃ a ∈ asked, ∃ b ∈ asked, a ≠ b := by
  have hlt := List.pairwise_iff_getElem.1 asked.ascending 0 1
      (by omega) h Nat.zero_lt_one
  refine ⟨asked.keys[0], List.getElem_mem _, asked.keys[1], List.getElem_mem _,
    fun heq => ?_⟩
  rw [heq] at hlt
  exact String.lt_irrefl _ hlt

namespace SortPlan

/-- Attributes conflict if there are two or more that are read from one
view. -/
theorem of_conflict?_eq_some {keys : List (SortKey × Direction)}
    {asked : KeySet} (h : conflict? keys = some asked) :
    ∃ unique, asked = attributesIn unique keys ∧ 1 < asked.keys.length := by
  obtain ⟨unique, -, hasked⟩ := List.exists_of_findSome?_eq_some h
  dsimp only at hasked
  split at hasked
  · next hmany =>
    cases hasked
    exact ⟨unique, rfl, hmany⟩
  · cases hasked

/-- Keys do not conflict if those of one view are all the same. -/
theorem conflict?_eq_none_iff {keys : List (SortKey × Direction)} :
    conflict? keys = none ↔
      ∀ a ∈ schemas keys, ∀ b ∈ schemas keys, a.unique = b.unique →
        a.key = b.key := by
  constructor
  · intro h a ha b hb hab
    exact key_eq_of_conflict?_eq_none h ha hb hab
  · intro h
    cases hconflict : conflict? keys with
    | none => rfl
    | some asked =>
      obtain ⟨unique, rfl, hmany⟩ := of_conflict?_eq_some hconflict
      obtain ⟨_, ha, _, hb, hne⟩ := KeySet.exists_ne_of_one_lt hmany
      obtain ⟨a, hsa, hua, rfl⟩ := mem_attributesIn.1 ha
      obtain ⟨b, hsb, hub, rfl⟩ := mem_attributesIn.1 hb
      exact absurd (h a hsa b hsb (hua.trans hub.symm)) hne

/-- The conflict among the keys is the clash of what was asked for. -/
theorem conflict?_eq_none_iff_not_clashes {keys : List (SortKey × Direction)}
    (h : kind.sortKeys d clauses = .ok keys) :
    conflict? keys = none ↔ ¬ kind.Clashes d clauses := by
  simp only [conflict?_eq_none_iff, Kind.mem_schemas_of_sortKeys h]
  constructor
  · intro hall hclash
    obtain ⟨a, b, ha, hb, hunique, hne⟩ := hclash
    exact hne (hall a ha b hb hunique)
  · intro hclash a ha b hb hunique
    exact Classical.byContradiction fun hne => hclash ⟨a, b, ha, hb,
      hunique, hne⟩

/-- A sort is turned down for the attributes of one view, of which it asks for
several. -/
theorem make_eq_error {e : Error} (hd : d.Answers)
    (h : make kind d clauses = .error e) :
    ∃ (unique : Bool) (asked : KeySet), e = .conflictingSort asked.keys
      ∧ 1 < asked.keys.length
      ∧ ∀ key, key ∈ asked
        ↔ ∃ s, kind.AsksFor d clauses s ∧ s.unique = unique ∧ s.key = key := by
  obtain ⟨keys, hkeys⟩ := kind.exists_sortKeys hd clauses
  rcases bind_eq_error.1 h with hfail | ⟨found, hfound, h⟩
  · cases hkeys.symm.trans hfail
  · cases hkeys.symm.trans hfound
    split at h
    · next asked hconflict =>
      cases h
      obtain ⟨unique, rfl, hmany⟩ := of_conflict?_eq_some hconflict
      refine ⟨unique, _, rfl, hmany, fun key => ?_⟩
      simp only [mem_attributesIn, Kind.mem_schemas_of_sortKeys hkeys]
    · cases h

/-- There is a plan exactly if nothing clashes. -/
theorem isOk_make_iff (hd : d.Answers) :
    (make kind d clauses).isOk = true ↔ ¬ kind.Clashes d clauses := by
  obtain ⟨keys, hkeys⟩ := kind.exists_sortKeys hd clauses
  rw [isOk_iff, ← conflict?_eq_none_iff_not_clashes hkeys]
  simp only [make_eq_ok_iff, hkeys, Except.ok.injEq]
  simp

-- ================================================================ plans

/-- No two columns have one name, since a number is read back from its
digits. -/
theorem names_nodup (n : Nat) : (names n).Nodup := by
  refine List.Nodup.map (fun i j hij => ?_) List.nodup_range
  have hdigits : Nat.toDigits 10 i = Nat.toDigits 10 j := by
    simpa using congrArg String.toList hij
  rw [← Nat.ofDigitChars_ten_toDigits (n := i), hdigits,
    Nat.ofDigitChars_ten_toDigits]

/-- Texts made of the elements of a list by their positions. -/
theorem mapIdx_eq_zipWith_names (items : List SortItem)
    (f : SortItem → String → String) :
    (items.mapIdx fun i item => f item (SortItem.columnName i))
      = List.zipWith f items (names items.length) := by
  apply List.ext_getElem
  · simp [names]
  · intro i _ _
    simp [names, SortItem.columnName]

/-- Items that are read from one view have one schema, since two would
conflict. -/
theorem schema_eq_of_view_eq {keys : List (SortKey × Direction)}
    (h : conflict? keys = none) {a b : SortItem}
    (ha : a ∈ (ofKeys kind keys).items) (hb : b ∈ (ofKeys kind keys).items)
    (hview : a.view = b.view) : a.schema = b.schema := by
  obtain ⟨keyA, directionA, hmemA, rfl⟩ := mem_items_ofKeys.1 ha
  obtain ⟨keyB, directionB, hmemB, rfl⟩ := mem_items_ofKeys.1 hb
  cases keyA with
  | field f =>
    cases keyB with
    | field g => rfl
    | «attribute» t => exact absurd hview.symm (attributes_ne_field t.unique)
  | «attribute» s =>
    cases keyB with
    | field g => exact absurd hview (attributes_ne_field s.unique)
    | «attribute» t =>
      exact congrArg some (key_eq_of_conflict?_eq_none h (mem_schemas.2 ⟨_,
        hmemA⟩) (mem_schemas.2 ⟨_, hmemB⟩) (attributes_injective hview))

/-- Every item on a view has the schema that its source takes. -/
theorem schemaOf?_of_mem_items {keys : List (SortKey × Direction)}
    (h : conflict? keys = none) {item : SortItem}
    (hitem : item ∈ (ofKeys kind keys).items) :
    (ofKeys kind keys).schemaOf? item.view = item.schema := by
  obtain ⟨first, hfirst, hview, hschema⟩ :=
    schemaOf?_eq_of_mem_views (mem_views.2 ⟨item, hitem, rfl⟩)
  rw [hschema, schema_eq_of_view_eq h hfirst hitem hview]

/-- A plan that is made is as it should be. -/
theorem follows_of_make {p : SortPlan} (h : make kind d clauses = .ok p) :
    p.Follows kind d clauses := by
  obtain ⟨keys, hkeys, hconflict, rfl⟩ := make_eq_ok_iff.1 h
  have hschema : ∀ item ∈ (ofKeys kind keys).items,
      (ofKeys kind keys).schemaOf? item.view = item.schema :=
    fun _ hitem => schemaOf?_of_mem_items hconflict hitem
  constructor
  case items => exact Kind.items_of_sortKeys hkeys
  case selected =>
    rw [← mapIdx_eq_zipWith_names]
    simp only [selectList, SortItem.selectText, String.append_assoc]
  case ordered =>
    rw [← mapIdx_eq_zipWith_names]
    simp only [orderClause, isEmpty, List.isEmpty_iff, SortItem.orderText]
  case named => exact names_nodup _
  case once => exact Distinct.nodup_eraseDups _
  case views => exact fun v => mem_views
  case agree =>
    exact fun a ha b hb hview => schema_eq_of_view_eq hconflict ha hb hview
  case schema => exact hschema
  case source =>
    intro item hitem identities
    rw [SortPlan.source, hschema item hitem]
    cases item.schema <;> rfl
  case restriction =>
    intro item hitem
    rw [hschema item hitem]
    rfl
  case optional =>
    simp only [optional_ofKeys_iff, Kind.mem_schemas_of_sortKeys hkeys]

/-- A sort is turned down exactly if it asks one view for two attributes, and
the error names all that it asks of it; otherwise there is a plan, and it is as
it should be. Nothing but the properties that are named decides about it. -/
theorem make_fails_iff_clashes (kind : Kind) (d : Directory) (hd : d.Answers)
    (clauses : List SortClause) :
    ((∃ e, make kind d clauses = .error e) ↔ kind.Clashes d clauses)
      ∧ (∀ e, make kind d clauses = .error e → e.group = .invalidParameters
          ∧ ∃ (unique : Bool) (asked : KeySet), e = .conflictingSort asked.keys
            ∧ 1 < asked.keys.length
            ∧ ∀ key, key ∈ asked ↔ ∃ s, kind.AsksFor d clauses s
              ∧ s.unique = unique ∧ s.key = key)
      ∧ (∀ p, make kind d clauses = .ok p → p.Follows kind d clauses)
      ∧ ∀ others : List SortClause,
          (∀ property, property ∈ others.map SortClause.property
            ↔ property ∈ clauses.map SortClause.property) →
          (make kind d others).isOk = (make kind d clauses).isOk := by
  refine ⟨?_, fun e he => ?_, fun p hp => follows_of_make hp,
    fun others hsame => ?_⟩
  · rw [← not_iff_not, ← isOk_make_iff hd, isOk_iff]
    cases make kind d clauses <;> simp
  · obtain ⟨unique, asked, rfl, hasked⟩ := make_eq_error hd he
    exact ⟨rfl, unique, asked, rfl, hasked⟩
  · rw [Bool.eq_iff_iff, isOk_make_iff hd, isOk_make_iff hd]
    simp only [Kind.Clashes, Kind.asksFor_congr hsame]

end SortPlan

-- ============================================================= wardrobe

namespace Wardrobe

/-- A unique attribute and three that are not, of which one has the name of a
core field. -/
def directory : Directory :=
  ((((MemoryDirectory.empty.addSchema
    { key := "badge", type := .long, unique := true }).addSchema
    { key := "colour", type := .string,
      mandatoryCondition := "true" }).addSchema
    { key := "size", type := .double }).addSchema
    { key := "username", type := .date }).directory

theorem answers : directory.Answers :=
  fun _ => ⟨_, rfl⟩

/-- By a core field, an attribute of each sort and one of them again, and by
nothing. -/
def outfit : List SortClause :=
  [⟨"username", .ascending⟩, ⟨"colour", .descending⟩, ⟨"shape", .ascending⟩,
    ⟨"badge", .ascending⟩, ⟨"colour", .ascending⟩]

/-- By one attribute too many. -/
def oneMore : List SortClause :=
  outfit ++ [⟨"size", .ascending⟩]

end Wardrobe

open Wardrobe in
/-- Colour and size are both not unique, so one of them has to go; the badge
may stay, and sorting by it makes the plan an optional one. -/
theorem make_fails_iff_clashes_wardrobe :
    directory.Answers
      ∧ (∃ p, SortPlan.make .user directory outfit = .ok p
        ∧ p.Follows .user directory outfit
          ∧ p.items.length = 4 ∧ p.optional = true)
      ∧ Kind.Clashes .user directory oneMore
      ∧ SortPlan.make .user directory oneMore
        = .error (.conflictingSort ["colour", "size"])
      ∧ (SortPlan.make .user directory oneMore.reverse).isOk = false := by
  have hmade : (SortPlan.make .user directory outfit).isOk = true := rfl
  have hclash : SortPlan.make .user directory oneMore
      = .error (.conflictingSort ["colour", "size"]) := rfl
  obtain ⟨-, -, hfollows, -⟩ :=
    SortPlan.make_fails_iff_clashes .user directory answers outfit
  obtain ⟨hfails, -, -, hsame⟩ :=
    SortPlan.make_fails_iff_clashes .user directory answers oneMore
  obtain ⟨p, hp⟩ := isOk_iff.1 hmade
  have hitems : p.items.length = 4 := by
    rw [(hfollows p hp).items]
    rfl
  have hoptional : p.optional = true :=
    (hfollows p hp).optional.2
      ⟨{ key := "badge", type := .long, unique := true },
        ⟨⟨"badge", .ascending⟩, by decide, by decide, rfl⟩, by decide⟩
  refine ⟨answers, ⟨p, hp, hfollows p hp, hitems, hoptional⟩,
    hfails.1 ⟨_, hclash⟩, hclash, ?_⟩
  rw [hsame oneMore.reverse (by simp [oneMore, outfit, or_comm, or_left_comm]),
    hclash]
  rfl

end IdentitySearch
