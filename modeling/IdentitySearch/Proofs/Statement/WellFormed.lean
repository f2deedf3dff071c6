/-
Statements are well formed, and bind their values in the order of their parts.
A compiled condition is built from the conditions of its leaves, from left to
right, however they are joined (`Setting.builtFromLeaves_ofCondition`); a count
from the selection and the visibility of its target
(`CountStatement.assembled`); a search from the selection, the sources that are
joined to it, the restrictions of the sort items to their attributes, and the
visibility (`SearchStatement.assembled`).

# Where the order could go wrong

- The first selection of a statement is opened at its WHERE, and the rest of
  the statement is put in front of its condition (`openFirstWhere_eq_opening`).
  Its head has no placeholder, so the order of values is kept.
- A combined selection nests the right side in the condition of the left one
  (`built_combine`): the leaves of the left come first, as they do in the tree.
- In the list of columns and in the order of a search there are names only,
  whatever is sorted by (`plain_selectList`, `plain_orderClause`); so nothing
  is bound between the selection and the sources.

For each of these the text is followed piece by piece with the parentheses that
are open, as `Fragment.Built` has it.
-/
import IdentitySearch.Selection.OfCondition
import IdentitySearch.Statement.Basic
import IdentitySearch.Proofs.Selection.Trees
import IdentitySearch.Proofs.Sql.WellFormed

namespace IdentitySearch

open Outcome

-- =========================================================== selections

namespace Selection

/-- The text that a selection begins with. -/
def opening (s : Selection) : String :=
  "SELECT DISTINCT any_id FROM " ++ s.view.sqlName ++ " WHERE "

/-- The text of a selection up to its condition is its stem with the WHERE, -/
theorem stem_append_where (s : Selection) :
    s.stem ++ "WHERE " = s.opening := by
  have hspace : " " ++ "WHERE " = " WHERE " := rfl
  unfold stem opening
  rw [String.append_assoc, hspace]

/-- and binds nothing. -/
theorem plain_opening (s : Selection) : Text.Plain s.opening := by
  rw [← stem_append_where, stem_append]
  exact Query.plain_head _ _ _

/-- A selection is its opening and its condition. -/
theorem fragment_eq_opening (s : Selection) :
    s.fragment = .ofText s.opening ++ s.condition.fragment := by
  rw [fragment_eq, stem_append_where]

/-- The parenthesis opens behind the opening, before the whole condition. -/
theorem openFirstWhere_eq_opening (s : Selection) :
    s.fragment.openFirstWhere
      = .ofText s.opening ++ .ofText "(" ++ s.condition.fragment := by
  rw [openFirstWhere_fragment, stem_append_where]

/-- A selection binds what its condition binds. -/
theorem params_fragment (s : Selection) :
    s.fragment.params = s.condition.fragment.params := by
  rw [fragment_eq_opening]
  rfl

/-- A selection is built from what its condition is built from. -/
theorem built_of_condition {s : Selection} {parts : List Fragment}
    (h : s.condition.fragment.Built 0 0 parts) :
    s.fragment.Built 0 0 parts := by
  rw [fragment_eq_opening]
  exact .append (.plain s.plain_opening) h

/-- What is combined is built from what the left condition is built from, then
from what the right one is. -/
theorem built_combine (c : Connective) {left right : Selection}
    {ls rs : List Fragment} (hl : left.condition.fragment.Built 0 0 ls)
    (hr : right.condition.fragment.Built 0 0 rs) :
    (left.combine c right).condition.fragment.Built 0 0 (ls ++ rs) := by
  have hopen : (Fragment.ofText "(").Built 0 1 [] := .literal rfl (by decide)
  have hjoin : (Fragment.ofText c.text).Built 0 0 [] := .plain c.plain_text
  have hin : (Fragment.ofText "any_id IN (").Built 0 1 [] :=
    .literal rfl (by decide)
  have hclose : (Fragment.ofText ")").Built 1 0 [] := .literal rfl (by decide)
  have hright := (hin.append ((built_of_condition hr).within 1)).append hclose
  have hboth := (hl.append hjoin).append hright
  have hwhole := (hopen.append (hboth.within 1)).append hclose
  simp only [List.nil_append, List.append_nil] at hwhole
  simp only [combine, Formula.fragment, Atom.fragment]
  exact hwhole

end Selection

-- =========================================================== conditions

namespace Setting

variable (s : Setting)

/-- A condition is compiled to text that is built from the conditions of its
leaves. -/
def BuiltFromLeaves (c : Condition) (t : ConditionSelection) : Prop :=
  ∃ leaves, s.ofLeaves c = .ok leaves
    ∧ t.selection.condition.fragment.Built 0 0
      (leaves.map fun leaf => leaf.selection.condition.fragment)

/-- A leaf is built from itself, -/
theorem builtFromLeaves_leaf {p : Predicate} {negate : Bool}
    {u : PredicateSelection} (h : s.ofPredicate p negate = .ok u) :
    s.BuiltFromLeaves (.ofLeaf (p, negate)) (.ofPredicate u) := by
  refine ⟨[u], by rw [ofLeaves_leaf, h]; rfl, ?_⟩
  rw [selection_ofPredicate]
  exact .part u.selection.condition.nests

variable {s} in
/-- and what is joined from the leaves of the left side and then of the right
one. -/
theorem BuiltFromLeaves.join {left right : Condition}
    {l r : ConditionSelection} (hl : s.BuiltFromLeaves left l)
    (hr : s.BuiltFromLeaves right r) (j : Connective) :
    s.BuiltFromLeaves (.join j left right) (l.combine j r) := by
  rcases hl with ⟨ls, hls, hleft⟩
  rcases hr with ⟨rs, hrs, hright⟩
  refine ⟨ls ++ rs, by rw [ofLeaves_join, hls, hrs]; rfl, ?_⟩
  rw [List.map_append]
  exact Selection.built_combine j hleft hright

/-- A compiled condition is built from the conditions of its leaves, from left
to right. -/
theorem builtFromLeaves_ofCondition {c : Condition} {t : ConditionSelection}
    (h : s.ofCondition c = .ok t) : s.BuiltFromLeaves c t := by
  induction c using Condition.byJoins generalizing t with
  | leaf leaf =>
    rw [ofCondition_ofLeaf] at h
    obtain ⟨u, hu, rfl⟩ := map_eq_ok.1 h
    exact s.builtFromLeaves_leaf hu
  | join j left right hl hr =>
    obtain ⟨l, r, hleft, hright, rfl⟩ := (s.ofCondition_join_eq_ok j).1 h
    exact (hl hleft).join (hr hright) j

end Setting

-- ============================================================== sources

/-- A source closes the parentheses that it opens. -/
theorem Source.nests (s : Source) : s.fragment.Nests 0 0 := by
  cases s with
  | plain v =>
    have hspace : Text.Plain " " := .literal rfl (by decide)
    exact .plain ((v.plain_sqlName.append hspace).append v.plain_alias)
  | augmented v identities schema =>
    have hview := Fragment.Nests.plain v.plain_sqlName
    have hidentities := Fragment.Nests.plain identities.plain_sqlName
    have hschema := Fragment.Nests.placeholder (.text schema)
    have hof : (Fragment.ofText " WHERE schema_id=").Nests 0 0 :=
      .literal rfl (by decide)
    -- the rows of the schema, within the parenthesis of the source
    have hopen : (Fragment.ofText
        "(SELECT any_id, schema_id, booleanvalue, datevalue, doublevalue, "
        ++ .ofText "longvalue, stringvalue FROM ").Nests 0 1 :=
      .append (m := 1) (.literal rfl (by decide)) (.literal rfl (by decide))
    have hrows :=
      ((hopen.append hview.inside).append hof.inside).append hschema.inside
    -- the rows of NULLs
    have hunion : (Fragment.ofText " UNION SELECT any_id, ").Nests 1 1 :=
      .literal rfl (by decide)
    have hnulls : (Fragment.ofText
          " AS schema_id, NULL AS booleanvalue, NULL AS datevalue, "
        ++ .ofText
          "NULL AS doublevalue, NULL AS longvalue, NULL AS stringvalue FROM "
        ).Nests 1 1 :=
      .append (m := 1) (.literal rfl (by decide)) (.literal rfl (by decide))
    have hnulls :=
      ((hunion.append hschema.inside).append hnulls).append hidentities.inside
    -- without the identities that are in the view
    have hwithout : (Fragment.ofText
        " WHERE any_id NOT IN (SELECT any_id FROM ").Nests 1 2 :=
      .literal rfl (by decide)
    have hclose : (Fragment.ofText ")) ").Nests 2 0 := .literal rfl (by decide)
    have hwithout :=
      (((hwithout.append (hview.within 2)).append (hof.within 2)).append
        (hschema.within 2)).append (hclose.append (.plain v.plain_alias))
    have hwhole := (hrows.append hnulls).append hwithout
    simp only [Source.fragment, Fragment.ofText_append,
      Fragment.append_assoc] at hwhole ⊢
    exact hwhole

/-- The restriction of an item to its attribute is closed in itself. -/
theorem SortItem.nests_restriction {item : SortItem} {f : Fragment}
    (h : item.restriction? = some f) : f.Nests 0 0 := by
  obtain ⟨key, -, rfl⟩ := Option.map_eq_some_iff.1 h
  have hcolumn : Text.Plain ".schema_id=" := .literal rfl (by decide)
  exact .append (.plain (item.view.plain_alias.append hcolumn))
    (.placeholder _)

/-- What restricts a statement to realms is closed in itself, however many they
are, and so is what shows everyone or nobody. -/
theorem Visibility.nests (v : Visibility) (kind : Kind) :
    (v.fragment kind).Nests 0 0 := by
  cases v with
  | everyone => exact .literal rfl (by decide)
  | nobody => exact .literal rfl (by decide)
  | inRealms keys =>
    have hopen :
        (Fragment.ofText "u.any_id IN (SELECT any_id FROM ").Nests 0 1 :=
      .literal rfl (by decide)
    have hrealms : (Fragment.ofText " WHERE realm_id IN (").Nests 1 2 :=
      .literal rfl (by decide)
    have hclose : (Fragment.ofText "))").Nests 2 0 := .literal rfl (by decide)
    have hview := Fragment.Nests.plain (View.plain_sqlName (.field kind))
    -- the keys of the realms, within both parentheses
    have hkeys : (Fragment.join ", "
        (keys.map fun key => .placeholder (.text key))).Nests 0 0 := by
      refine Fragment.Nests.join (.literal rfl (by decide)) fun f hf => ?_
      obtain ⟨key, -, rfl⟩ := List.mem_map.1 hf
      exact Fragment.Nests.placeholder _
    exact (((hopen.append hview.inside).append hrealms).append
      (hkeys.within 2)).append hclose

-- ================================================================ plans

namespace SortPlan

variable (p : SortPlan)

/-- The names of the columns that are sorted by have no marks, -/
theorem plain_columnName (position : Nat) :
    Text.Plain (SortItem.columnName position) := by
  have hprefix : Text.Plain "ob_" := .literal rfl (by decide)
  exact hprefix.append (Text.plain_toString position)

/-- so the list of them has none, -/
theorem plain_selectList : Text.Plain p.selectList := by
  have hcomma : Text.Plain ", " := .literal rfl (by decide)
  have hdot : Text.Plain "." := .literal rfl (by decide)
  have has : Text.Plain " AS " := .literal rfl (by decide)
  refine Text.plain_joined Text.plain_empty fun s hs => ?_
  obtain ⟨i, hi, rfl⟩ := List.mem_mapIdx.1 hs
  exact hcomma.append ((((View.plain_alias _).append hdot).append
    (Column.plain_sqlName _)).append has |>.append (plain_columnName i))

/-- and the order by them has none. -/
theorem plain_orderClause : Text.Plain p.orderClause := by
  unfold orderClause
  split
  · exact Text.plain_empty
  · have hby : Text.Plain " ORDER BY " := .literal rfl (by decide)
    refine hby.append
      (Text.plain_joined (.literal rfl (by decide)) fun s hs => ?_)
    obtain ⟨i, hi, rfl⟩ := List.mem_mapIdx.1 hs
    have hspace : Text.Plain " " := .literal rfl (by decide)
    refine ((plain_columnName i).append hspace).append ?_
    cases p.items[i].direction <;> exact .literal rfl (by decide)

theorem plain_joinText (v : View) : Text.Plain (joinText v) := by
  have hkey : Text.Plain "u.any_id=" := .literal rfl (by decide)
  exact (hkey.append v.plain_alias).append (.literal rfl (by decide))

/-- The restrictions of the items to their attributes. -/
def restrictions : List Fragment :=
  p.items.filterMap SortItem.restriction?

theorem nests_of_mem_restrictions {f : Fragment} (h : f ∈ p.restrictions) :
    f.Nests 0 0 := by
  obtain ⟨item, -, hitem⟩ := List.mem_filterMap.1 h
  exact SortItem.nests_restriction hitem

/-- What ties the views together binds nothing; the restrictions do. -/
theorem built_conditions :
    ∃ parts, List.Forall₂ (Fragment.Built 0 0) p.conditions parts
    ∧ parts.flatten = p.restrictions := by
  refine ⟨p.views.map (fun _ => []) ++ p.restrictions.map (fun f => [f]),
    List.rel_append ?_ ?_, ?_⟩
  · rw [List.forall₂_map_left_iff, List.forall₂_map_right_iff]
    exact List.forall₂_same.2 fun v _ => .plain (plain_joinText v)
  · rw [List.forall₂_map_right_iff]
    exact List.forall₂_same.2 fun f hf =>
      .part (p.nests_of_mem_restrictions hf)
  · rw [List.flatten_append, ← List.flatMap_def, ← List.flatMap_def,
      List.flatMap_singleton', List.flatMap_eq_nil_iff.2 fun _ _ => rfl,
        List.nil_append]

end SortPlan

-- =========================================================== statements

namespace Target

variable (t : Target)

/-- The selection of a target, and its visibility. -/
theorem built_selection :
    t.selection.fragment.Built 0 0 [t.selection.fragment] :=
  .part t.selection.nests

theorem built_visibility :
    (t.visibility.fragment t.kind).Built 0 0 [t.visibility.fragment t.kind] :=
  .part (t.visibility.nests t.kind)

end Target

/-- A count is assembled from the selection and the visibility of its
target. -/
theorem CountStatement.assembled (s : CountStatement) : s.fragment.Assembled
    [s.target.selection.fragment,
      s.target.visibility.fragment s.target.kind] := by
  have hopen : (Fragment.ofText
      "SELECT COUNT(any_id) FROM (SELECT u.any_id FROM (").Built 0 2 [] :=
    .literal rfl (by decide)
  have hwhere : (Fragment.ofText ") u WHERE ").Built 2 1 [] :=
    .literal rfl (by decide)
  have hclose : (Fragment.ofText ") count_any_id").Built 1 0 [] :=
    .literal rfl (by decide)
  have hhead :=
    (hopen.append (s.target.built_selection.within 2)).append hwhere
  exact ((hhead.append (s.target.built_visibility.within 1)).append
    hclose).assembled

namespace SearchStatement

/-- Sources are listed one after the other. -/
theorem built_sourceList (sources : List Source) :
    (sourceList sources).Built 0 0 (sources.map Source.fragment) := by
  induction sources with
  | nil => exact .empty
  | cons s rest ih =>
    have hcomma : (Fragment.ofText ", ").Built 0 0 [] :=
      .literal rfl (by decide)
    exact (hcomma.append (.part s.nests)).append ih

/-- The conditions of a search are the joins and restrictions of its plan, and
the visibility behind them. -/
theorem built_conditions (s : SearchStatement) :
    (Fragment.join " AND " s.conditions).Built 0 0
    (s.plan.restrictions ++ [s.target.visibility.fragment s.target.kind]) := by
  obtain ⟨parts, hparts, hrestrictions⟩ := s.plan.built_conditions
  rw [← hrestrictions, ← List.flatten_concat]
  exact .join (.literal rfl (by decide))
    (List.rel_append hparts (.cons s.target.built_visibility .nil))

/-- A search is assembled from the selection of its target, the sources that
are joined to it, the restrictions of the sort items to their attributes, and
the visibility of its target. -/
theorem assembled (s : SearchStatement) : s.fragment.Assembled
    (s.target.selection.fragment :: (s.sources.map Source.fragment
      ++ (s.plan.restrictions
        ++ [s.target.visibility.fragment s.target.kind]))) := by
  have hselect : (Fragment.ofText "SELECT DISTINCT u.any_id").Built 0 0 [] :=
    .literal rfl (by decide)
  have hopen : (Fragment.ofText " FROM (").Built 0 1 [] :=
    .literal rfl (by decide)
  have hclose : (Fragment.ofText ") u").Built 1 0 [] :=
    .literal rfl (by decide)
  have hwhere : (Fragment.ofText " WHERE ").Built 0 0 [] :=
    .literal rfl (by decide)
  have hhead := (hselect.append (.plain s.plan.plain_selectList)).append hopen
  have htarget :=
    (hhead.append (s.target.built_selection.within 1)).append hclose
  have hwhole :=
    (((htarget.append (built_sourceList s.sources)).append hwhere).append
      s.built_conditions).append (.plain s.plan.plain_orderClause)
  simp only [List.nil_append, List.append_nil, List.append_assoc] at hwhole
  exact hwhole.assembled

end SearchStatement

end IdentitySearch
