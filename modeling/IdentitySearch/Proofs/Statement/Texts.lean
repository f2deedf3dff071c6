/-
The text of whole statements. Beside the selection of its target a statement
has the SQL of a sort plan and of a visibility, and there too names and keys
are only bound. Plans of the same shape name the same views and columns in the
same order, and restrict the same items to attributes; visibilities of the same
shape have as many realms. Then statements about selections of the same text
have the same text themselves (`SearchStatement.sameText`).

Plans are compared item by item, by `List.Forall₂`, and whatever a plan is
asked for is a function of its items: views without repetitions, the schema of
a view, sources, conditions, columns and order. Each gets a lemma that says it
is equal for both plans, or of the same text where keys are bound in it. That
plans made for two directories have the same shape rests on what their clauses
resolve to (`SortClause.SameShape`), and not on the names of the clauses.
-/
import Mathlib.Data.Option.Basic
import IdentitySearch.Statement.Basic
import IdentitySearch.Proofs.Outcome
import IdentitySearch.Proofs.Selection.Texts

namespace IdentitySearch

open Outcome

-- ========================================================== sort clauses

/-- Two sort keys are the same core field, or attributes that are alike. -/
inductive SortKey.SameShape : SortKey → SortKey → Prop
  | field (f : CoreField) : SameShape (.field f) (.field f)
  | attribute {a b : Schema} (schemas : a.SameShape b) :
      SameShape (.attribute a) (.attribute b)

/-- Two sort clauses have the same direction, and name keys of the same shape
or nothing. -/
structure SortClause.SameShape (kind : Kind) (d₁ d₂ : Directory)
    (c₁ c₂ : SortClause) : Prop where
  direction : c₁.direction = c₂.direction
  names : Relates (Option.Rel SortKey.SameShape) (kind.sortKey? d₁ c₁.property)
    (kind.sortKey? d₂ c₂.property)

/-- Two items of an ordering are read from the same column of the same view,
with a restriction to an attribute or without. -/
structure SortItem.SameShape (a b : SortItem) : Prop where
  view : a.view = b.view
  column : a.column = b.column
  direction : a.direction = b.direction
  restricted : Option.Rel (fun _ _ => True) a.schema b.schema

/-- Two plans have items of the same shape, and both an optional one or
neither. -/
structure SortPlan.SameShape (p q : SortPlan) : Prop where
  items : List.Forall₂ SortItem.SameShape p.items q.items
  optional : p.optional = q.optional

/-- Clauses of the same shape name keys of the same shape. -/
theorem Kind.relates_sortKeys {kind : Kind} {d₁ d₂ : Directory}
    {clauses₁ clauses₂ : List SortClause}
    (h : List.Forall₂ (SortClause.SameShape kind d₁ d₂) clauses₁ clauses₂) :
    Relates (List.Forall₂ fun k l => k.1.SameShape l.1 ∧ k.2 = l.2)
      (kind.sortKeys d₁ clauses₁) (kind.sortKeys d₂ clauses₂) := by
  induction h with
  | nil => exact relates_ok .nil
  | cons hclause _ ih =>
    refine relates_bind hclause.names fun key key' hkey => ?_
    refine relates_bind ih fun keys keys' hkeys => ?_
    cases hkey with
    | none => exact relates_ok hkeys
    | some hkey => exact relates_ok (.cons ⟨hkey, hclause.direction⟩ hkeys)

namespace SortPlan

/-- One of some attributes is optional exactly if one of others is that are
alike. -/
theorem any_optional {schemas schemas' : List Schema}
    (h : List.Forall₂ Schema.SameShape schemas schemas') :
    (schemas.any fun s => !s.isMandatory)
      = schemas'.any fun s => !s.isMandatory := by
  induction h with
  | nil => rfl
  | cons hab _ ih => rw [List.any_cons, List.any_cons, hab.mandatory, ih]

/-- Keys of the same shape, sorted by in the same directions, make plans of the
same shape. -/
theorem sameShape_ofKeys (kind : Kind)
    {keys keys' : List (SortKey × Direction)}
    (h : List.Forall₂ (fun k l => k.1.SameShape l.1 ∧ k.2 = l.2) keys keys') :
    (ofKeys kind keys).SameShape (ofKeys kind keys') := by
  refine ⟨?_, ?_⟩
  · refine List.forall₂_map_left_iff.2
      (List.forall₂_map_right_iff.2 (h.imp ?_))
    intro k l hkl
    obtain ⟨key, direction⟩ := k
    obtain ⟨key', direction'⟩ := l
    obtain ⟨hkey, rfl⟩ := hkl
    cases hkey with
    | field f => exact ⟨rfl, rfl, rfl, .none⟩
    | «attribute» schemas =>
      exact ⟨congrArg (View.attributes kind) schemas.unique,
        congrArg ValueType.column schemas.type,
        rfl, .some trivial⟩
  · have hschemas :
        List.Forall₂ Schema.SameShape (keys.filterMap fun k => k.1.schema?)
        (keys'.filterMap fun k => k.1.schema?) := by
      refine List.rel_filterMap (fun k l hkl => ?_) h
      obtain ⟨key, direction⟩ := k
      obtain ⟨key', direction'⟩ := l
      cases hkl.1 with
      | field f => exact .none
      | «attribute» schemas => exact .some schemas
    exact any_optional hschemas

/-- Clauses of the same shape make plans of the same shape. -/
theorem relates_make {kind : Kind} {d₁ d₂ : Directory}
    {clauses₁ clauses₂ : List SortClause}
    (h : List.Forall₂ (SortClause.SameShape kind d₁ d₂) clauses₁ clauses₂) :
    Relates SortPlan.SameShape (make kind d₁ clauses₁)
      (make kind d₂ clauses₂) := by
  refine relates_bind (Kind.relates_sortKeys h) fun keys keys' hkeys => ?_
  cases conflict? keys with
  | some asked => exact fun _ h => nomatch h
  | none =>
    cases conflict? keys' with
    | some asked => exact fun _ _ _ h => nomatch h
    | none => exact relates_ok (sameShape_ofKeys kind hkeys)

-- ============================================================ sort plans

variable {p q : SortPlan} (h : p.SameShape q)

include h

/-- Plans of the same shape read the same views. -/
theorem SameShape.views : p.views = q.views := by
  have hviews : p.items.map SortItem.view = q.items.map SortItem.view := by
    rw [← List.forall₂_eq_eq_eq, List.forall₂_map_left_iff,
      List.forall₂_map_right_iff]
    exact h.items.imp fun _ _ hitem => hitem.view
  exact congrArg List.eraseDups hviews

/-- A view is restricted to an attribute in both or in neither. -/
theorem SameShape.schemaOf? (v : View) :
    Option.Rel (fun _ _ => True) (p.schemaOf? v) (q.schemaOf? v) := by
  obtain ⟨items, optional⟩ := p
  obtain ⟨items', optional'⟩ := q
  obtain ⟨hitems, -⟩ := h
  unfold SortPlan.schemaOf?
  dsimp only at hitems ⊢
  -- the first item that reads the view stands at the same place in both plans
  induction hitems with
  | nil => exact .none
  | @cons a b _ _ hitem _ ih =>
    rw [List.find?_cons, List.find?_cons, hitem.view]
    by_cases hview : b.view = v
    · simpa [hview] using hitem.restricted
    · simpa [hview] using ih

/-- The sources of a view read the same. -/
theorem SameShape.sameText_source (identities : View) (augment : Bool)
    (v : View) :
    (p.source identities augment v).fragment.SameText
      (q.source identities augment v).fragment := by
  unfold source
  match p.schemaOf? v, q.schemaOf? v, h.schemaOf? v with
  | _, _, .none => exact .refl _
  | some key, some key', .some _ =>
    cases augment with
    | false => exact .refl _
    | true =>
      have hkey := Fragment.sameText_placeholder (.text key) (.text key')
      exact .append (.append
        (.append (.append (.append (.append (.refl _) hkey) (.refl _)) hkey)
        (.refl _)) hkey) (.refl _)

/-- So plans of the same shape join the same sources, -/
theorem SameShape.sameText_sourceList (identities : View) (augment : Bool) :
    (SearchStatement.sourceList (p.sources identities augment)).SameText
      (SearchStatement.sourceList (q.sources identities augment)) := by
  unfold sources
  rw [h.views]
  induction q.views with
  | nil => exact .refl _
  | cons v rest ih => exact .append (.append (.refl _)
    (h.sameText_source identities augment v)) ih

/-- under conditions of the same text. -/
theorem SameShape.sameText_conditions :
    List.Forall₂ Fragment.SameText p.conditions q.conditions := by
  unfold conditions
  rw [h.views]
  refine List.rel_append (List.forall₂_same.2 fun f _ => .refl f) ?_
  refine List.rel_filterMap (fun a b hab => ?_) h.items
  unfold SortItem.restriction?
  rw [hab.view]
  match a.schema, b.schema, hab.restricted with
  | _, _, .none => exact .none
  | _, _, .some _ =>
    exact .some (.append (.refl _) (Fragment.sameText_placeholder _ _))

/-- What is made of the columns, directions and places of items is the same. -/
theorem SameShape.mapIdx_items {f : SortItem → Nat → String}
    (hf : ∀ a b i, a.SameShape b → f a i = f b i) :
    (p.items.mapIdx fun i item => f item i)
      = q.items.mapIdx fun i item => f item i := by
  refine List.ext_getElem ?_ fun i hi hi' => ?_
  · simpa using h.items.length_eq
  · rw [List.getElem_mapIdx, List.getElem_mapIdx]
    exact hf _ _ i (h.items.get _ _)

/-- So the same columns are selected, -/
theorem SameShape.selectList : p.selectList = q.selectList := by
  refine congrArg (Text.joined "")
    (h.mapIdx_items (f := fun item i => ", " ++ item.selectText i) ?_)
  intro a b i hab
  show ", " ++ a.selectText i = ", " ++ b.selectText i
  unfold SortItem.selectText
  rw [hab.view, hab.column]

/-- and sorted by in the same order. -/
theorem SameShape.orderClause : p.orderClause = q.orderClause := by
  have hempty : p.isEmpty = q.isEmpty := by
    show p.items.isEmpty = q.items.isEmpty
    rw [Bool.eq_iff_iff, List.isEmpty_iff_length_eq_zero,
      List.isEmpty_iff_length_eq_zero, h.items.length_eq]
  unfold SortPlan.orderClause
  rw [hempty, h.mapIdx_items (f := SortItem.orderText)]
  intro a b i hab
  unfold SortItem.orderText
  rw [hab.direction]

end SortPlan

-- =========================================================== statements

/-- Two visibilities show everyone, nobody, or those in as many realms. -/
inductive Visibility.SameShape : Visibility → Visibility → Prop
  | everyone : SameShape .everyone .everyone
  | nobody : SameShape .nobody .nobody
  | inRealms {keys₁ keys₂ : List String}
      (length : keys₁.length = keys₂.length) : SameShape (.inRealms keys₁)
      (.inRealms keys₂)

/-- Visibilities with equally many realms have the same text. -/
theorem Visibility.SameShape.sameText {v w : Visibility} (h : v.SameShape w)
    (kind : Kind) :
    (v.fragment kind).SameText (w.fragment kind) := by
  cases h with
  | everyone => exact .refl _
  | nobody => exact .refl _
  | inRealms length =>
    exact .append (.append (.refl _) (.join (forall₂_map_of_length_eq
      (fun _ _ => Fragment.sameText_placeholder _ _) length))) (.refl _)

/-- Two targets are of one kind, with selections of the same text and
visibilities of the same shape. -/
structure Target.SameShape (t u : Target) : Prop where
  kind : t.kind = u.kind
  selection : t.selection.SameText u.selection
  visibility : t.visibility.SameShape u.visibility

/-- Targets of the same shape have visibilities of the same text. -/
theorem Target.SameShape.sameText_visibility {t u : Target}
    (h : t.SameShape u) :
    (t.visibility.fragment t.kind).SameText
      (u.visibility.fragment u.kind) := by
  rw [h.kind]
  exact h.visibility.sameText u.kind

/-- Counts of targets of the same shape have the same text. -/
theorem CountStatement.sameText {s t : CountStatement}
    (h : s.target.SameShape t.target) :
    s.fragment.SameText t.fragment :=
  .append (.append (.append (.append (.refl _) h.selection.query) (.refl _))
    h.sameText_visibility) (.refl _)

/-- Statements that sort targets of the same shape in the same way have the
same text, whatever their windows. -/
theorem SearchStatement.sameText {s t : SearchStatement}
    (htarget : s.target.SameShape t.target) (hplan : s.plan.SameShape t.plan)
    (haugmented : s.augmented = t.augmented) :
    s.fragment.SameText t.fragment := by
  have hsources : (sourceList s.sources).SameText (sourceList t.sources) := by
    unfold sources
    rw [htarget.kind, haugmented]
    exact hplan.sameText_sourceList _ _
  have hconditions : (Fragment.join " AND " s.conditions).SameText
      (.join " AND " t.conditions) :=
    .join (List.rel_append hplan.sameText_conditions
      (.cons htarget.sameText_visibility .nil))
  unfold fragment
  rw [hplan.selectList, hplan.orderClause]
  exact .append (.append (.append (.append
    (.append (.append (.refl _) htarget.selection.query) (.refl _)) hsources)
    (.refl _)) hconditions) (.refl _)

end IdentitySearch
