/-
What compiled trees mean. A key satisfies a condition if the condition compiles
and its selection selects the key. A conjunction is satisfied by what satisfies
both parts (`satisfies_and`). A disjunction is read from the view that its
leftmost leaf is asked of: it is satisfied by what satisfies the left part, and
of the right part by what that view lists (`satisfies_or`). So a whole tree is
evaluated over its leaves, save that each OR cuts its right side down to one
view (`satisfies_iff`).

The core fields list every identity. Where no OR begins with a leaf that is
asked of attribute values, nothing is cut (`Condition.reaches_iff_of_begins`).

# Two kinds of induction

Most of what is proved of trees treats both connectives alike: a tree is a
leaf, or it is joined, whichever way (`Condition.byJoins`). Compiling is like
that, and so is what it needs of its parts: a joined tree compiles exactly if
both sides do, to their combination (`ofCondition_join_eq_ok`). Only meaning
tells AND from OR, and its inductions have a case for each.

Parts of a tree are compared with the whole by `Within` and `Splits`: what a
part demands of a database the whole demands too, and no more than its parts.
Restrictions put conditions on the right of a tree, one after the other, so
both are kept by joining on the right and then by folds.
-/
import IdentitySearch.Selection.OfCondition
import IdentitySearch.Proofs.Selection.Leaves
import IdentitySearch.Proofs.Sql.Demands

namespace IdentitySearch

open Outcome

-- ========================================================= evaluation

namespace Condition

/-- A leaf as a condition. -/
def ofLeaf : Leaf → Condition
  | (p, false) => .leaf p
  | (p, true) => .notLeaf p

/-- Two conditions joined by a connective. -/
def join : Connective → Condition → Condition → Condition
  | .and => .and
  | .or => .or

/-- What holds of every leaf, and of what is joined if it does of both parts,
holds of every condition. -/
@[elab_as_elim]
theorem byJoins {motive : Condition → Prop}
    (leaf : ∀ leaf, motive (.ofLeaf leaf))
    (join : ∀ j left right, motive left → motive right →
      motive (.join j left right)) (c : Condition) : motive c := by
  induction c with
  | leaf p => exact leaf (p, false)
  | notLeaf p => exact leaf (p, true)
  | and left right hl hr => exact join .and left right hl hr
  | or left right hl hr => exact join .or left right hl hr

theorem leaves_ofLeaf (leaf : Leaf) : (ofLeaf leaf).leaves = [leaf] := by
  rcases leaf with ⟨p, negate⟩
  cases negate <;> rfl

theorem leaves_join (j : Connective) (left right : Condition) :
    (join j left right).leaves = left.leaves ++ right.leaves := by
  cases j <;> rfl

/-- The leaf that a condition begins with. -/
def leftmost : Condition → Leaf
  | .leaf p => (p, false)
  | .notLeaf p => (p, true)
  | .and left _ | .or left _ => left.leftmost

/-- A condition is true of whatever its leaves are true of. -/
def Evaluates (holds : Leaf → Prop) : Condition → Prop
  | .leaf p => holds (p, false)
  | .notLeaf p => holds (p, true)
  | .and left right => left.Evaluates holds ∧ right.Evaluates holds
  | .or left right => left.Evaluates holds ∨ right.Evaluates holds

/-- The same, but the right side of an OR counts only where the leaf that the
left side begins with is asked of a view that lists the identity. -/
def Reaches (listed holds : Leaf → Prop) : Condition → Prop
  | .leaf p => holds (p, false)
  | .notLeaf p => holds (p, true)
  | .and left right => left.Reaches listed holds ∧ right.Reaches listed holds
  | .or left right =>
    left.Reaches listed holds ∨ listed left.leftmost
      ∧ right.Reaches listed holds

/-- Every OR in a condition begins with a leaf of some sort. -/
def OrsBegin (sort : Leaf → Prop) : Condition → Prop
  | .leaf _ | .notLeaf _ => True
  | .and left right => left.OrsBegin sort ∧ right.OrsBegin sort
  | .or left right => sort left.leftmost ∧ left.OrsBegin sort
    ∧ right.OrsBegin sort

variable {listed holds : Leaf → Prop}

/-- What is cut down was true before. -/
theorem evaluates_of_reaches {c : Condition} (h : c.Reaches listed holds) :
    c.Evaluates holds := by
  induction c with
  | leaf p | notLeaf p => exact h
  | and left right hl hr => exact ⟨hl h.1, hr h.2⟩
  | or left right hl hr => exact h.imp hl fun h => hr h.2

/-- Nothing is cut down where every OR begins with a leaf whose view lists the
identity. -/
theorem reaches_iff_of_begins {c : Condition} (hc : c.OrsBegin listed) :
    c.Reaches listed holds ↔ c.Evaluates holds := by
  induction c with
  | leaf p | notLeaf p => exact Iff.rfl
  | and left right hl hr =>
    simp only [Reaches, Evaluates, hl hc.1, hr hc.2]
  | or left right hl hr =>
    simp only [Reaches, Evaluates, hl hc.2.1, hr hc.2.2, hc.1, true_and]

/-- What is true of something is true of one of its leaves. -/
theorem exists_of_evaluates {c : Condition} (h : c.Evaluates holds) :
    ∃ leaf, holds leaf := by
  induction c with
  | leaf p | notLeaf p => exact ⟨_, h⟩
  | and left right hl hr => exact hl h.1
  | or left right hl hr => exact h.elim hl hr

/-- What every OR begins with may be described more widely. -/
theorem OrsBegin.imp {sort sort' : Leaf → Prop}
    (himp : ∀ leaf, sort leaf → sort' leaf) {c : Condition}
    (hc : c.OrsBegin sort) : c.OrsBegin sort' := by
  induction c with
  | leaf p | notLeaf p => trivial
  | and left right hl hr => exact ⟨hl hc.1, hr hc.2⟩
  | or left right hl hr => exact ⟨himp _ hc.1, hl hc.2.1, hr hc.2.2⟩

end Condition

-- ========================================================== compiling

namespace Setting

variable (s : Setting) (db : Database)

/-- A condition compiles. -/
def Compiles (c : Condition) : Prop :=
  ∃ t, s.ofCondition c = .ok t

/-- A condition compiles and selects a key. -/
def Satisfies (c : Condition) (key : String) : Prop :=
  ∃ t, s.ofCondition c = .ok t ∧ t.selection.Selects db key

/-- The view that a condition is read from. -/
def firstView (c : Condition) : View :=
  s.kind.askedView s.directory c.leftmost

/-- What is joined compiles if both parts do. -/
theorem ofCondition_join_eq_ok (j : Connective) {left right : Condition}
    {t : ConditionSelection} :
    s.ofCondition (.join j left right) = .ok t ↔
      ∃ l r, s.ofCondition left = .ok l ∧ s.ofCondition right = .ok r
        ∧ t = l.combine j r := by
  -- either connective is compiled from left to right
  cases j
  all_goals
    constructor
    · intro h
      obtain ⟨l, hl, h⟩ := bind_eq_ok.1 h
      obtain ⟨r, hr, h⟩ := bind_eq_ok.1 h
      cases h
      exact ⟨l, r, hl, hr, rfl⟩
    · intro h
      rcases h with ⟨l, r, hl, hr, rfl⟩
      exact bind_eq_ok.2 ⟨l, hl, bind_eq_ok.2 ⟨r, hr, rfl⟩⟩

theorem selection_ofPredicate (p : PredicateSelection) :
    (ConditionSelection.ofPredicate p).selection = p.selection := by
  unfold ConditionSelection.ofPredicate
  split <;> rfl

/-- A leaf is compiled as its predicate, in the polarity of the leaf. -/
theorem ofCondition_ofLeaf (leaf : Condition.Leaf) :
    s.ofCondition (.ofLeaf leaf)
      = (s.ofPredicate leaf.1 leaf.2).map .ofPredicate := by
  obtain ⟨p, negate⟩ := leaf
  cases negate <;> rfl

theorem firstView_join (j : Connective) (left right : Condition) :
    s.firstView (.join j left right) = s.firstView left := by
  cases j <;> rfl

theorem firstView_ofLeaf (leaf : Condition.Leaf) :
    s.firstView (.ofLeaf leaf) = s.kind.askedView s.directory leaf := by
  obtain ⟨p, negate⟩ := leaf
  cases negate <;> rfl

/-- A compiled condition is a run on the view that it is read from. -/
theorem ofCondition_eq_ok {c : Condition} {t : ConditionSelection}
    (h : s.ofCondition c = .ok t) :
    t.selection.view = s.firstView c ∧ t.selection.condition.isRun = true := by
  induction c using Condition.byJoins generalizing t with
  | leaf leaf =>
    rw [ofCondition_ofLeaf] at h
    obtain ⟨u, hu, rfl⟩ := map_eq_ok.1 h
    rw [selection_ofPredicate, firstView_ofLeaf]
    exact s.ofPredicate_eq_ok hu
  | join j left right hl hr =>
    obtain ⟨l, r, hleft, -, rfl⟩ := (s.ofCondition_join_eq_ok j).1 h
    rw [firstView_join]
    exact ⟨(hl hleft).1, rfl⟩

/-- A joined tree compiles exactly if both sides do. -/
theorem compiles_join (j : Connective) {left right : Condition} :
    s.Compiles (.join j left right) ↔ s.Compiles left ∧ s.Compiles right := by
  constructor
  · intro hgiven
    rcases hgiven with ⟨t, h⟩
    obtain ⟨l, r, hl, hr, -⟩ := (s.ofCondition_join_eq_ok j).1 h
    exact ⟨⟨l, hl⟩, r, hr⟩
  · intro hgiven
    rcases hgiven with ⟨⟨l, hl⟩, r, hr⟩
    exact ⟨_, (s.ofCondition_join_eq_ok j).2 ⟨l, r, hl, hr, rfl⟩⟩

-- ============================================================== leaves

/-- The selections of the leaves of a condition, from left to right. -/
def ofLeaves (c : Condition) : Except Error (List PredicateSelection) :=
  c.leaves.mapM fun leaf => s.ofPredicate leaf.1 leaf.2

/-- The leaves of what is joined are compiled from left to right. -/
theorem ofLeaves_join (j : Connective) (left right : Condition) :
    s.ofLeaves (.join j left right)
      = (do return (← s.ofLeaves left) ++ (← s.ofLeaves right)) := by
  unfold ofLeaves
  rw [Condition.leaves_join, List.mapM_append]

/-- A single predicate is compiled by itself. -/
theorem ofLeaves_leaf (p : Predicate) (negate : Bool) :
    s.ofLeaves (.ofLeaf (p, negate)) = (s.ofPredicate p negate).map ([·]) := by
  rw [ofLeaves, Condition.leaves_ofLeaf, List.mapM_cons, List.mapM_nil]
  rfl

-- ============================================================= demands

/-- Whenever a condition compiles, another one does, and it demands no more. -/
def Within (part whole : Condition) : Prop :=
  ∀ t, s.ofCondition whole = .ok t →
    ∃ u, s.ofCondition part = .ok u ∧ u.selection.Within t.selection

/-- The left side is within the whole, -/
theorem within_join_left (j : Connective) (left right : Condition) :
    s.Within left (.join j left right) := by
  intro t ht
  obtain ⟨l, r, hl, -, rfl⟩ := (s.ofCondition_join_eq_ok j).1 ht
  exact ⟨l, hl, Selection.within_combine_left _ _ _⟩

/-- and so is the right one. -/
theorem within_join_right (j : Connective) (left right : Condition) :
    s.Within right (.join j left right) := by
  intro t ht
  obtain ⟨l, r, -, hr, rfl⟩ := (s.ofCondition_join_eq_ok j).1 ht
  exact ⟨r, hr, Selection.within_combine_right _ _ _⟩

/-- Whenever two conditions compile, a third one does, and it reads no view
that neither of them reads. -/
def Splits (whole left right : Condition) : Prop :=
  ∀ l r, s.ofCondition left = .ok l → s.ofCondition right = .ok r →
    ∃ t, s.ofCondition whole = .ok t
      ∧ t.selection.query.views
        ⊆ l.selection.query.views ++ r.selection.query.views

/-- Nothing but the two sides is in a joined tree. -/
theorem splits_join (j : Connective) (left right : Condition) :
    s.Splits (.join j left right) left right := by
  intro l r hl hr
  refine ⟨l.combine j r,
    (s.ofCondition_join_eq_ok j).2 ⟨l, r, hl, hr, rfl⟩, ?_⟩
  exact Selection.views_combine_subset (List.subset_append_left _ _)
    (List.subset_append_right _ _)

variable {s}

/-- A part stays within the whole if both have something joined to them. -/
theorem Within.and_right {part whole : Condition} (h : s.Within part whole)
    (d : Condition) :
    s.Within (.and part d) (.and whole d) := by
  intro t ht
  obtain ⟨w, r, hw, hr, rfl⟩ := (s.ofCondition_join_eq_ok .and).1 ht
  obtain ⟨u, hu, hwithin⟩ := h w hw
  refine ⟨u.combine .and r,
    (s.ofCondition_join_eq_ok .and).2 ⟨u, r, hu, hr, rfl⟩, ?_⟩
  exact hwithin.combine_and (s.ofCondition_eq_ok hu).2
    (s.ofCondition_eq_ok hw).2

/-- The same conjuncts after two conditions leave the one within the other. -/
theorem Within.foldl_and {part whole : Condition} (h : s.Within part whole)
    (more : List Condition) :
    s.Within (more.foldl .and part) (more.foldl .and whole) := by
  induction more generalizing part whole with
  | nil => exact h
  | cons d rest ih => exact ih (h.and_right d)

/-- What a tree is split into may have the same condition on either side. -/
theorem Splits.and_right {whole left right : Condition}
    (h : s.Splits whole left right) (d : Condition) :
    s.Splits (.and whole d) (.and left d) (.and right d) := by
  intro l r hl hr
  obtain ⟨l, m, hleft, hm, rfl⟩ := (s.ofCondition_join_eq_ok .and).1 hl
  obtain ⟨r, n, hright, hn, rfl⟩ := (s.ofCondition_join_eq_ok .and).1 hr
  obtain ⟨t, ht, hviews⟩ := h l r hleft hright
  refine ⟨t.combine .and m,
    (s.ofCondition_join_eq_ok .and).2 ⟨t, m, ht, hm, rfl⟩, ?_⟩
  -- the views of the whole are those of both parts and those of the condition,
  -- which is in both parts
  have hl :=
    (Selection.within_combine_left l.selection .and m.selection).views_subset
  have hm :=
    (Selection.within_combine_right l.selection .and m.selection).views_subset
  have hr :=
    (Selection.within_combine_left r.selection .and n.selection).views_subset
  refine Selection.views_combine_subset (fun v hv => ?_) fun v hv => ?_
  · rcases List.mem_append.1 (hviews hv) with hin | hin
    · exact List.mem_append_left _ (hl hin)
    · exact List.mem_append_right _ (hr hin)
  · exact List.mem_append_left _ (hm hv)

/-- The same conjuncts after all three change nothing about it. -/
theorem Splits.foldl_and {whole left right : Condition}
    (h : s.Splits whole left right) (more : List Condition) :
    s.Splits (more.foldl .and whole) (more.foldl .and left)
      (more.foldl .and right) := by
  induction more generalizing whole left right with
  | nil => exact h
  | cons d rest ih => exact ih (h.and_right d)

/-- A condition is within the same with conjuncts after it. -/
theorem within_foldl_and (c : Condition) (more : List Condition) :
    s.Within c (more.foldl .and c) := by
  induction more generalizing c with
  | nil => exact fun t ht => ⟨t, ht, .refl _⟩
  | cons d rest ih =>
    intro t ht
    obtain ⟨u, hu, hwithin⟩ := ih (.and c d) t ht
    obtain ⟨v, hv, hleft⟩ := s.within_join_left .and c d u hu
    exact ⟨v, hv, hleft.trans hwithin⟩

-- ========================================================= satisfying

variable {db}

/-- Whom a compiled condition selects satisfies it. -/
theorem satisfies_iff_selects {c : Condition} {t : ConditionSelection}
    (h : s.ofCondition c = .ok t) (key : String) :
    s.Satisfies db c key ↔ t.selection.Selects db key := by
  constructor
  · intro hgiven
    rcases hgiven with ⟨u, hu, hkey⟩
    cases h.symm.trans hu
    exact hkey
  · exact fun hkey => ⟨t, h, hkey⟩

/-- What satisfies a condition is listed by the view that it is read from. -/
theorem lists_of_satisfies {c : Condition} {key : String}
    (h : s.Satisfies db c key) :
    db.Lists (s.firstView c) key := by
  obtain ⟨t, ht, hkey⟩ := h
  rw [← (s.ofCondition_eq_ok ht).1]
  exact Selection.lists_of_selects db hkey

variable (s db)

/-- A conjunction is satisfied by what satisfies both parts. -/
theorem satisfies_and (left right : Condition) (key : String) :
    s.Satisfies db (.and left right) key
      ↔ s.Satisfies db left key ∧ s.Satisfies db right key := by
  constructor
  · intro h
    rcases h with ⟨t, ht, hkey⟩
    obtain ⟨l, r, hl, hr, rfl⟩ := (s.ofCondition_join_eq_ok .and).1 ht
    obtain ⟨hleft, hright⟩ :=
      (Selection.selects_combine_and db
        (s.ofCondition_eq_ok hl).2 r.selection key).1 hkey
    exact ⟨⟨l, hl, hleft⟩, r, hr, hright⟩
  · intro h
    rcases h with ⟨⟨l, hl, hleft⟩, r, hr, hright⟩
    refine ⟨l.combine .and r,
      (s.ofCondition_join_eq_ok .and).2 ⟨l, r, hl, hr, rfl⟩, ?_⟩
    exact (Selection.selects_combine_and db (s.ofCondition_eq_ok hl).2 _ key).2
      ⟨hleft, hright⟩

/-- A disjunction that compiles is satisfied by what satisfies the left part,
and of the right part by what the view of the left part lists. -/
theorem satisfies_or {left right : Condition} (h : s.Compiles (.or left right))
    (key : String) :
    s.Satisfies db (.or left right) key
      ↔ s.Satisfies db left key
        ∨ db.Lists (s.firstView left) key ∧ s.Satisfies db right key := by
  obtain ⟨t, ht⟩ := h
  obtain ⟨l, r, hl, hr, rfl⟩ := (s.ofCondition_join_eq_ok .or).1 ht
  rw [satisfies_iff_selects ht, satisfies_iff_selects hl,
    satisfies_iff_selects hr, ← (s.ofCondition_eq_ok hl).1]
  exact Selection.selects_combine_or db l.selection r.selection key

/-- A compiled condition is evaluated over its leaves, each OR cut down to the
view that it begins with. -/
theorem satisfies_iff {c : Condition} (h : s.Compiles c) (key : String) :
    s.Satisfies db c key ↔
      c.Reaches (fun leaf => db.Lists (s.kind.askedView s.directory leaf) key)
        (fun leaf => s.Satisfies db (.ofLeaf leaf) key) := by
  induction c with
  | leaf p | notLeaf p => exact Iff.rfl
  | and left right hl hr =>
    obtain ⟨hleft, hright⟩ := (s.compiles_join .and).1 h
    rw [satisfies_and, Condition.Reaches, hl hleft, hr hright]
  | or left right hl hr =>
    obtain ⟨hleft, hright⟩ := (s.compiles_join .or).1 h
    rw [satisfies_or s db h, Condition.Reaches, hl hleft, hr hright]
    rfl

-- ============================================================== chains

/-- Conjuncts after a condition: it and all of them are satisfied. -/
theorem satisfies_foldl_and (c : Condition) (more : List Condition)
    (key : String) :
    s.Satisfies db (more.foldl .and c) key
      ↔ s.Satisfies db c key ∧ ∀ d ∈ more, s.Satisfies db d key := by
  induction more generalizing c with
  | nil => simp
  | cons d rest ih =>
    rw [List.foldl_cons, ih, satisfies_and, List.forall_mem_cons, and_assoc]

/-- Alternatives that are all read from one view: one of them is satisfied. -/
theorem satisfies_foldl_or {v : View} {c : Condition} {more : List Condition}
    (hc : s.Compiles c ∧ s.firstView c = v)
    (hmore : ∀ d ∈ more, s.Compiles d ∧ s.firstView d = v) (key : String) :
    s.Satisfies db (more.foldl .or c) key
      ↔ ∃ d ∈ c :: more, s.Satisfies db d key := by
  induction more generalizing c with
  | nil => simp
  | cons d rest ih =>
    rw [List.forall_mem_cons] at hmore
    have hor : s.Compiles (.or c d) :=
      (s.compiles_join .or).2 ⟨hc.1, hmore.1.1⟩
    have hcut : db.Lists (s.firstView c) key ∧ s.Satisfies db d key
        ↔ s.Satisfies db d key := by
      refine ⟨And.right, fun h => ⟨?_, h⟩⟩
      rw [hc.2, ← hmore.1.2]
      exact lists_of_satisfies h
    rw [List.foldl_cons, ih ⟨hor, hc.2⟩ hmore.2]
    simp only [List.mem_cons, exists_eq_or_imp, satisfies_or s db hor,
      hcut, or_assoc]

end Setting

end IdentitySearch
