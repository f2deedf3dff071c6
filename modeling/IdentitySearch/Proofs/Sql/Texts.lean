/-
SQL whose text does not depend on what is bound. Every value has its
placeholder, and all placeholders read alike; so queries that are built the
same way have the same text whatever is bound in them (`Fragment.SameText`),
atom by atom, and a selection that is put together from others has the same
text if those have.

To have the same text is a congruence: it is kept by each way in which
fragments, atoms, formulas and queries are put together, and the lemmas are one
for each of these ways, named after it. Only two of them say more than that.
Placeholders read alike (`sameText_placeholder`), which is where the values are
forgotten; and lists of fragments of equal length are joined alike if their
members are related (`SameText.join`), which is why the number of values in a
list still shows in the text.

Statements are compared with these lemmas from their parts.
-/
import Mathlib.Data.List.Forall2
import IdentitySearch.Sql.Query

namespace IdentitySearch

-- ============================================================ fragments

/-- Two fragments have the same text, and as many values to bind. -/
structure Fragment.SameText (f g : Fragment) : Prop where
  text : f.text = g.text
  values : f.params.length = g.params.length

namespace Fragment

theorem SameText.refl (f : Fragment) : f.SameText f :=
  ⟨rfl, rfl⟩

/-- Fragments of the same text may be continued with such fragments. -/
theorem SameText.append {f f' g g' : Fragment} (h : f.SameText f')
    (k : g.SameText g') :
    (f ++ g).SameText (f' ++ g') := by
  refine ⟨?_, ?_⟩
  · rw [text_append, text_append, h.text, k.text]
  · rw [params_append, params_append, List.length_append, List.length_append,
      h.values, k.values]

/-- Placeholders read alike, whatever is bound to them. -/
theorem sameText_placeholder (v w : BindValue) :
    (placeholder v).SameText (placeholder w) :=
  ⟨rfl, rfl⟩

/-- Lists of fragments read alike if they are equally long and their members
read alike. -/
theorem SameText.join {separator : String} {fs gs : List Fragment}
    (h : List.Forall₂ SameText fs gs) :
    (Fragment.join separator fs).SameText (Fragment.join separator gs) := by
  induction h with
  | nil => exact .refl _
  | cons hfirst hrest ih =>
    cases hrest with
    | nil => exact hfirst
    | cons hsecond hrest => exact (hfirst.append (.refl _)).append ih

end Fragment

-- =============================================================== pieces

/-- Lists of equal length give lists that are related element by element, if
whatever they give is related. -/
theorem forall₂_map_of_length_eq {α β γ δ : Type} {R : α → β → Prop}
    {f : γ → α} {g : δ → β} (hall : ∀ c d, R (f c) (g d)) {l : List γ}
    {m : List δ} (h : l.length = m.length) :
    List.Forall₂ R (l.map f) (m.map g) :=
  List.forall₂_map_left_iff.2
    (List.forall₂_map_right_iff.2
      (List.forall₂_iff_zip.2 ⟨h, fun _ => hall _ _⟩))

/-- Two atoms have the same text. -/
def Atom.SameText (a b : Atom) : Prop :=
  a.fragment.SameText b.fragment

/-- Two conditions have the same text. -/
def Formula.SameText (f g : Formula) : Prop :=
  f.fragment.SameText g.fragment

/-- Two queries have the same text. -/
def Query.SameText (q q' : Query) : Prop :=
  q.fragment.SameText q'.fragment

/-- A comparison reads the same with any other value. -/
theorem Atom.sameText_compare (column : Column) (comparator : Comparator)
    (value₁ value₂ : BindValue) (folded escaped : Bool) :
    Atom.SameText (.compare ⟨column, comparator, value₁, folded, escaped⟩)
      (.compare ⟨column, comparator, value₂, folded, escaped⟩) := by
  have hvalue := Fragment.sameText_placeholder value₁ value₂
  show Fragment.SameText (Comparison.fragment _) (Comparison.fragment _)
  unfold Comparison.fragment
  cases folded <;> cases escaped
  · exact .append (.refl _) hvalue
  · exact .append (.append (.refl _) hvalue) (.refl _)
  · exact .append (.append (.refl _) hvalue) (.refl _)
  · exact .append (.append (.append (.refl _) hvalue) (.refl _)) (.refl _)

theorem Atom.SameText.atom {a b : Atom} (h : a.SameText b) :
    (Formula.atom a).SameText (.atom b) :=
  h

/-- Conditions read alike if they are continued alike, -/
theorem Formula.SameText.join {f g : Formula} {a b : Atom} (c : Connective)
    (h : f.SameText g) (k : a.SameText b) :
    (Formula.join f c a).SameText (.join g c b) :=
  .append (.append h (.refl _)) k

/-- and with equally many atoms. -/
theorem Formula.SameText.joinAll {a b : Atom} {rest more : List Atom}
    (c : Connective) (h : a.SameText b)
    (hrest : List.Forall₂ Atom.SameText rest more) :
    (Formula.joinAll c a rest).SameText (.joinAll c b more) :=
  List.rel_foldl (fun _ _ hfg _ _ hab => hfg.join c hab) h.atom hrest

theorem Atom.SameText.paren {f g : Formula} (h : f.SameText g) :
    (Atom.paren f).SameText (.paren g) :=
  .append (.append (.refl _) h) (.refl _)

/-- Nested queries of the same text make atoms of the same text. -/
theorem Atom.SameText.keyIn {q q' : Query} (negated : Bool)
    (h : q.SameText q') :
    (Atom.keyIn negated q).SameText (.keyIn negated q') :=
  .append (.append (.refl _) h) (.refl _)

/-- Queries that read the same column of the same view read alike if their
conditions do. -/
theorem Query.SameText.select {f g : Formula} (distinct : Bool)
    (column : Column) (v : View) (h : f.SameText g) :
    (Query.select distinct column v f).SameText
      (.select distinct column v g) :=
  .append (.refl _) h

/-- Unions read alike if both sides do. -/
theorem Query.SameText.union {l l' r r' : Query} (hl : l.SameText l')
    (hr : r.SameText r') :
    (Query.union l r).SameText (.union l' r') :=
  .append (.append hl (.refl _)) hr

-- =========================================================== selections

/-- Two selections read the same view under conditions of the same text. -/
structure Selection.SameText (s t : Selection) : Prop where
  view : s.view = t.view
  condition : s.condition.SameText t.condition

namespace Selection.SameText

variable {s s' t t' : Selection}

/-- Selections of the same text are nested as queries of the same text, -/
theorem query (h : s.SameText t) : s.query.SameText t.query := by
  unfold Selection.query
  rw [h.view]
  exact .select true .anyId _ h.condition

/-- so a selection that two are combined into reads alike if both do. -/
theorem combine (c : Connective) (hs : s.SameText s') (ht : t.SameText t') :
    (s.combine c t).SameText (s'.combine c t') :=
  ⟨hs.view,
    Atom.SameText.atom (.paren (hs.condition.join c (.keyIn false ht.query)))⟩

end Selection.SameText

end IdentitySearch
