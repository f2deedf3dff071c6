/-
SQL for another dialect. Dialects differ in one thing: whether a comparison
with a pattern is followed by the clause that makes the backslash its escape
character (`Comparison.inDialect`). A query for another dialect reads the same
views, is as high and binds the same values. It selects the same cells if each
of its comparisons says the same either way, as it does where no pattern has a
backslash (`Comparison.truth_inDialect`).

To write a query for a dialect is a map on its syntax, which changes
comparisons and nothing around them. So each of its lemmas is one induction
over formulas, atoms and queries together, and for everything but the
comparison the case is the map itself. They come in two groups:

- what a dialect leaves alone whatever the comparisons are: bound values,
  views, height and nesting (`params_inDialect`, `views_inDialect`,
  `height_inDialect`, `nesting_inDialect`);
- what it leaves alone under a condition on each comparison: the query, if they
  all stay as they are (`inDialect_eq_self`), and its cells, if they all say
  the same (`cells_inDialect`).
-/
import Mathlib.Logic.Basic
import IdentitySearch.Sql.Evaluation
import IdentitySearch.Sql.Height

namespace IdentitySearch

-- ============================================================== patterns

/-- No letter has the backslash as its other case. -/
theorem Text.mem_of_backslash_mem_lower {s : String}
    (h : '\\' ∈ (Text.lower s).toList) :
    '\\' ∈ s.toList := by
  rw [Text.lower, String.toList_ofList, List.mem_map] at h
  obtain ⟨c, hc, hlower⟩ := h
  unfold Char.toLower at hlower
  split at hlower
  · have hval : c.val + ('a'.val - 'A'.val) = '\\'.val :=
      congrArg Char.val hlower
    exfalso
    grind
  · rwa [hlower] at hc

namespace Pattern

variable {escape : Char}

/-- A character that is not the escape character stands for itself or is a
wildcard, whatever follows it. -/
theorem elements?_cons_of_ne {escape : Option Char} {c : Char}
    (h : escape ≠ some c) (rest : List Char) :
    elements? escape (c :: rest)
      = (elements? escape rest).map (plainElement c :: ·) := by
  cases rest with
  | nil => exact if_neg h
  | cons d rest => exact if_neg h

/-- Without the escape character in it a pattern has the same elements. -/
theorem elements?_of_not_mem {cs : List Char} (h : escape ∉ cs) :
    elements? (some escape) cs = elements? none cs := by
  induction cs with
  | nil => rfl
  | cons c rest ih =>
    rw [List.mem_cons, not_or] at h
    have hescape : some escape ≠ some c := fun heq => h.1 (Option.some.inj heq)
    have hplain : none ≠ some c := nofun
    rw [elements?_cons_of_ne hescape, elements?_cons_of_ne hplain, ih h.2]

/-- Where it does not come in a pattern, an escape character makes no
difference to what is like the pattern. -/
theorem isLike_of_not_mem {pattern : String} (h : escape ∉ pattern.toList)
    (text : String) :
    isLike (some escape) pattern text = isLike none pattern text := by
  -- a pattern is read up to its first NUL
  have hcut : escape ∉ upToNul pattern.toList := fun hmem =>
    h ((List.takeWhile_sublist _).subset hmem)
  rw [isLike, isLike, elements?_of_not_mem hcut]

end Pattern

/-- A comparator says the same of a pattern without the escape character. -/
theorem Comparator.truth_of_not_mem {escape : Char} {pattern : String}
    (h : escape ∉ pattern.toList) (cmp : Comparator) (c : Cell) :
    cmp.truth (some escape) c (.text pattern)
      = cmp.truth none c (.text pattern) := by
  have hlike : c.isLike (some escape) (.text pattern)
      = c.isLike none (.text pattern) := by
    unfold Cell.isLike
    cases c.text? with
    | none => rfl
    | some text =>
      exact congrArg Truth.ofBool (Pattern.isLike_of_not_mem h text)
  cases cmp with
  | like => exact hlike
  | notLike => exact congrArg Truth.not hlike
  | _ => rfl

-- =========================================================== comparisons

/-- The text that a value is, if it is one. -/
def BindValue.text? : BindValue → Option String
  | .text s => some s
  | .long _ | .double _ | .boolean _ | .date _ => none

/-- Whether a comparator takes its value for a pattern. -/
def Comparator.isLike : Comparator → Bool
  | .like | .notLike => true
  | _ => false

namespace Comparison

/-- The same comparison for a dialect: with an escape clause if there is a
pattern and the dialect asks for the clause. -/
def inDialect (d : Dialect) (c : Comparison) : Comparison :=
  { c with escaped := c.comparator.isLike && d.needsEscape }

/-- An escape clause stands after patterns only, and these are texts that are
compared with a column of texts. -/
structure InOrder (c : Comparison) : Prop where
  escaped : c.escaped = true → c.comparator.isLike = true
  column : c.comparator.isLike = true → c.column.affinity = .text
  value : c.comparator.isLike = true → ∃ s, c.value = .text s

/-- No pattern with a backslash is bound. -/
def Unescaped (c : Comparison) : Prop :=
  c.comparator.isLike = true → ∀ s ∈ c.value.text?, '\\' ∉ s.toList

instance (c : Comparison) : Decidable c.Unescaped :=
  inferInstanceAs (Decidable (_ → _))

variable {c : Comparison}

/-- Without a pattern a comparison is the same for every dialect. -/
theorem inDialect_eq_self (hc : c.InOrder) (h : c.comparator.isLike = false)
    (d : Dialect) :
    c.inDialect d = c := by
  have hescaped : c.escaped = false := by
    rw [← Bool.not_eq_true]
    exact fun hescaped => nomatch h.symm.trans (hc.escaped hescaped)
  obtain ⟨column, comparator, value, folded, escaped⟩ := c
  subst hescaped
  rw [inDialect, h]
  rfl

/-- The clause does not matter to a pattern without a backslash. -/
theorem truth_escaped {s : String} (hcolumn : c.column.affinity = .text)
    (hvalue : c.value = .text s) (hs : '\\' ∉ s.toList) (escaped : Bool) :
    ({ c with escaped := escaped } : Comparison).truth
      = ({ c with escaped := false } : Comparison).truth := by
  funext row
  cases escaped with
  | false => rfl
  | true =>
    have hlower : '\\' ∉ (Text.lower s).toList :=
      fun h => hs (Text.mem_of_backslash_mem_lower h)
    unfold truth
    simp only [hcolumn, hvalue]
    cases c.folded with
    | true => exact Comparator.truth_of_not_mem hlower _ _
    | false => exact Comparator.truth_of_not_mem hs _ _

/-- A comparison says the same in every dialect, if it binds no pattern with a
backslash. -/
theorem truth_inDialect (hc : c.InOrder) (h : c.Unescaped) (d : Dialect) :
    (c.inDialect d).truth = c.truth := by
  cases hlike : c.comparator.isLike with
  | false => rw [inDialect_eq_self hc hlike]
  | true =>
    obtain ⟨s, hs⟩ := hc.value hlike
    have hcolumn := hc.column hlike
    have hfree := h hlike s (congrArg BindValue.text? hs)
    exact (truth_escaped hcolumn hs hfree _).trans
      (truth_escaped hcolumn hs hfree c.escaped).symm

end Comparison

-- ================================================================ queries

mutual

/-- The comparisons of a condition, in the order of its text. -/
def Formula.comparisons : Formula → List Comparison
  | .atom a => a.comparisons
  | .join left _ right => left.comparisons ++ right.comparisons

def Atom.comparisons : Atom → List Comparison
  | .compare c => [c]
  | .isNull _ _ | .never => []
  | .keyIn _ q => q.comparisons
  | .paren f => f.comparisons

def Query.comparisons : Query → List Comparison
  | .select _ _ _ condition => condition.comparisons
  | .union left right => left.comparisons ++ right.comparisons

end

mutual

/-- The same condition for a dialect. -/
def Formula.inDialect (d : Dialect) : Formula → Formula
  | .atom a => .atom (a.inDialect d)
  | .join left c right => .join (left.inDialect d) c (right.inDialect d)

def Atom.inDialect (d : Dialect) : Atom → Atom
  | .compare c => .compare (c.inDialect d)
  | .isNull column negated => .isNull column negated
  | .keyIn negated q => .keyIn negated (q.inDialect d)
  | .never => .never
  | .paren f => .paren (f.inDialect d)

def Query.inDialect (d : Dialect) : Query → Query
  | .select distinct column v condition =>
    .select distinct column v (condition.inDialect d)
  | .union left right => .union (left.inDialect d) (right.inDialect d)

end

section Queries

variable (d : Dialect)

mutual

/-- What a condition binds are the values of its comparisons. -/
theorem Formula.params_fragment :
    (f : Formula) → f.fragment.params = f.comparisons.map (·.value)
  | .atom a => a.params_fragment
  | .join left c right => by
    rw [Formula.fragment, Formula.comparisons, List.map_append,
      ← left.params_fragment, ← right.params_fragment]
    simp

/-- An atom binds the values of its comparisons, in their order, -/
theorem Atom.params_fragment :
    (a : Atom) → a.fragment.params = a.comparisons.map (·.value)
  | .compare c => by
    rw [Atom.fragment, Atom.comparisons, Comparison.fragment]
    cases c.folded <;> cases c.escaped <;> rfl
  | .isNull _ _ | .never => rfl
  | .keyIn negated q => by
    rw [Atom.fragment, Atom.comparisons, ← q.params_fragment]
    simp
  | .paren f => by
    rw [Atom.fragment, Atom.comparisons, ← f.params_fragment]
    simp

/-- and so does a query. -/
theorem Query.params_fragment :
    (q : Query) → q.fragment.params = q.comparisons.map (·.value)
  | .select distinct column v condition => by
    rw [Query.fragment, Query.comparisons, ← condition.params_fragment]
    simp
  | .union left right => by
    rw [Query.fragment, Query.comparisons, List.map_append,
      ← left.params_fragment, ← right.params_fragment]
    simp

end

mutual

/-- The comparisons of a formula for a dialect are its own ones for the
dialect, -/
theorem Formula.comparisons_inDialect : (f : Formula) →
    (f.inDialect d).comparisons = f.comparisons.map (·.inDialect d)
  | .atom a => a.comparisons_inDialect
  | .join left c right => by
    rw [Formula.inDialect, Formula.comparisons, left.comparisons_inDialect,
      right.comparisons_inDialect, ← List.map_append]
    rfl

/-- as are those of an atom -/
theorem Atom.comparisons_inDialect : (a : Atom) →
    (a.inDialect d).comparisons = a.comparisons.map (·.inDialect d)
  | .compare _ | .isNull _ _ | .never => rfl
  | .keyIn _ q => q.comparisons_inDialect
  | .paren f => f.comparisons_inDialect

/-- and those of a query, however deep they stand in it. -/
theorem Query.comparisons_inDialect : (q : Query) →
    (q.inDialect d).comparisons = q.comparisons.map (·.inDialect d)
  | .select _ _ _ condition => condition.comparisons_inDialect
  | .union left right => by
    rw [Query.inDialect, Query.comparisons, left.comparisons_inDialect,
      right.comparisons_inDialect, ← List.map_append]
    rfl

end

/-- For another dialect a query binds the same values. -/
theorem Query.params_inDialect (q : Query) :
    (q.inDialect d).fragment.params = q.fragment.params := by
  rw [params_fragment, params_fragment, comparisons_inDialect, List.map_map]
  rfl

mutual

/-- A formula reads the same views for every dialect, -/
theorem Formula.views_inDialect :
    (f : Formula) → (f.inDialect d).views = f.views
  | .atom a => a.views_inDialect
  | .join left c right => by
    rw [Formula.inDialect, Formula.views, left.views_inDialect,
      right.views_inDialect]
    rfl

/-- and an atom does. -/
theorem Atom.views_inDialect : (a : Atom) → (a.inDialect d).views = a.views
  | .compare _ | .isNull _ _ | .never => rfl
  | .keyIn _ q => q.views_inDialect
  | .paren f => f.views_inDialect

/-- For another dialect a query reads the same views. -/
theorem Query.views_inDialect : (q : Query) → (q.inDialect d).views = q.views
  | .select _ _ v condition => congrArg (v :: ·) condition.views_inDialect
  | .union left right => by
    rw [Query.inDialect, Query.views, left.views_inDialect,
      right.views_inDialect]
    rfl

end

mutual

/-- A formula is as high for every dialect, before and after its last OR, -/
theorem Formula.openHeight_inDialect :
    (f : Formula) → (f.inDialect d).openHeight = f.openHeight
  | .atom a => congrArg (OpenHeight.mk 0) a.height_inDialect
  | .join left c right => by
    rw [Formula.inDialect]
    cases c <;>
      rw [Formula.openHeight, left.openHeight_inDialect,
        right.height_inDialect] <;> rfl

/-- and so is an atom. -/
theorem Atom.height_inDialect : (a : Atom) → (a.inDialect d).height = a.height
  | .compare _ | .isNull _ _ | .never => rfl
  | .keyIn negated q => by
    rw [Atom.inDialect, Atom.height, q.height_inDialect]
    rfl
  | .paren f => congrArg OpenHeight.height f.openHeight_inDialect

/-- For another dialect a query is as high. -/
theorem Query.height_inDialect :
    (q : Query) → (q.inDialect d).height = q.height
  | .select _ _ _ condition =>
    congrArg OpenHeight.height condition.openHeight_inDialect
  | .union left right =>
    congrArg₂ max left.height_inDialect right.height_inDialect

end

mutual

/-- A formula is nested as deeply for every dialect, -/
theorem Formula.nesting_inDialect :
    (f : Formula) → (f.inDialect d).nesting = f.nesting
  | .atom a => a.nesting_inDialect
  | .join left _ right =>
    congrArg₂ max left.nesting_inDialect right.nesting_inDialect

/-- an atom is, -/
theorem Atom.nesting_inDialect :
    (a : Atom) → (a.inDialect d).nesting = a.nesting
  | .compare _ | .isNull _ _ | .never => rfl
  | .keyIn _ q => q.nesting_inDialect
  | .paren f => f.nesting_inDialect

/-- and a query is, which is one level above its condition. -/
theorem Query.nesting_inDialect :
    (q : Query) → (q.inDialect d).nesting = q.nesting
  | .select _ _ _ condition =>
    congrArg₂ (· + ·) (congrArg OpenHeight.height
      (condition.openHeight_inDialect d)) condition.nesting_inDialect
  | .union left right =>
    congrArg₂ max left.nesting_inDialect right.nesting_inDialect

end

-- ================================================================ meaning

variable {d} in
mutual

/-- Where no comparison changes, the formula does not, -/
theorem Formula.inDialect_eq_self :
    {f : Formula} → (∀ c ∈ f.comparisons, c.inDialect d = c) →
    f.inDialect d = f
  | .atom a, h => congrArg Formula.atom (Atom.inDialect_eq_self h)
  | .join left c right, h => by
    rw [Formula.comparisons, List.forall_mem_append] at h
    rw [Formula.inDialect, Formula.inDialect_eq_self h.1,
      Atom.inDialect_eq_self h.2]

/-- nor does the atom. -/
theorem Atom.inDialect_eq_self :
    {a : Atom} → (∀ c ∈ a.comparisons, c.inDialect d = c) →
    a.inDialect d = a
  | .compare c, h => congrArg Atom.compare (h c List.mem_cons_self)
  | .isNull _ _, _ | .never, _ => rfl
  | .keyIn negated _, h =>
    congrArg (Atom.keyIn negated) (Query.inDialect_eq_self h)
  | .paren _, h => congrArg Atom.paren (Formula.inDialect_eq_self h)

/-- A query is the same for another dialect if all of its comparisons are. -/
theorem Query.inDialect_eq_self :
    {q : Query} → (∀ c ∈ q.comparisons, c.inDialect d = c) →
    q.inDialect d = q
  | .select distinct column v condition, h =>
    congrArg (Query.select distinct column v) (Formula.inDialect_eq_self h)
  | .union left right, h => by
    rw [Query.comparisons, List.forall_mem_append] at h
    rw [Query.inDialect, Query.inDialect_eq_self h.1,
      Query.inDialect_eq_self h.2]

end

variable {d} (db : Database)

mutual

/-- Where all comparisons say the same, a formula is tested alike, each of its
connectives with the sides it has, -/
theorem Formula.prepare_inDialect : {f : Formula} →
    (∀ c ∈ f.comparisons, (c.inDialect d).truth = c.truth) →
    (f.inDialect d).prepare db = f.prepare db
  | .atom _, h =>
    congrArg (fun t : Test => (⟨fun _ => .fails, t.on⟩ : OpenTest))
      (Atom.prepare_inDialect h)
  | .join left c right, h => by
    rw [Formula.comparisons, List.forall_mem_append] at h
    have hleft := Formula.prepare_inDialect h.1
    have hright := Atom.prepare_inDialect h.2
    cases c with
    | and =>
      exact congrArg₂ (fun (l : OpenTest) (r : Test) =>
        (⟨l.closed, fun row => (l.run row).and (r.on row)⟩ : OpenTest))
          hleft hright
    | or =>
      exact congrArg₂ (fun (l : OpenTest) (r : Test) =>
        (⟨fun row => (l.closed row).or (l.run row), r.on⟩ : OpenTest))
          hleft hright

/-- and an atom is; a nested query has the same cells by the same induction. -/
theorem Atom.prepare_inDialect : {a : Atom} →
    (∀ c ∈ a.comparisons, (c.inDialect d).truth = c.truth) →
    (a.inDialect d).prepare db = a.prepare db
  | .compare c, h => congrArg Test.mk (h c List.mem_cons_self)
  | .isNull _ _, _ | .never, _ => rfl
  | .keyIn negated q, h => by
    rw [Atom.inDialect, Atom.prepare, Atom.prepare, Query.cells_inDialect h]
  | .paren _, h => congrArg OpenTest.test (Formula.prepare_inDialect h)

/-- A query selects the same for another dialect if all of its comparisons say
the same. -/
theorem Query.cells_inDialect : {q : Query} →
    (∀ c ∈ q.comparisons, (c.inDialect d).truth = c.truth) →
      (q.inDialect d).cells db = q.cells db
  | .select distinct column v condition, h => by
    rw [Query.inDialect, Query.cells, Query.cells, Formula.prepare_inDialect h]
  | .union left right, h => by
    rw [Query.comparisons, List.forall_mem_append] at h
    rw [Query.inDialect, Query.cells, Query.cells, Query.cells_inDialect h.1,
      Query.cells_inDialect h.2]

end

end Queries

end IdentitySearch
