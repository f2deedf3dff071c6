/-
How high the conditions of a query are as trees of expressions. A database
measures a condition twice: as a tree when it reads the text, where a query
inside counts with its own condition, and again when it looks names up, where
the heights of the conditions that enclose one another add up. Both have a
limit, so a search can be too deep for a database although its text is in
order.
-/
import IdentitySearch.Sql.Query

namespace IdentitySearch

/-- The largest height that a database accepts. -/
def heightLimit : Nat := 1000

-- ============================================================== atoms

/-- The height of a comparison: a column and a value below an operator, each
below a function where case is folded. A negated pattern has a NOT on top. -/
def Comparison.height (c : Comparison) : Nat :=
  (if c.folded then 3 else 2) + (if c.comparator = .notLike then 1 else 0)

/-- A condition as a tree while it is read from left to right: the height of
the alternatives that an OR has closed, zero if there is none, and that of the
conjunction that is still open. -/
structure OpenHeight where
  closed : Nat
  run : Nat

/-- The height of the whole condition. -/
def OpenHeight.height (h : OpenHeight) : Nat :=
  if h.closed = 0 then h.run else max h.closed h.run + 1

-- ============================================================= height

mutual

/-- The height of a condition that may go on to the right. -/
def Formula.openHeight : Formula → OpenHeight
  | .atom a => ⟨0, a.height⟩
  | .join left .and right =>
    let l := left.openHeight
    ⟨l.closed, max l.run right.height + 1⟩
  | .join left .or right => ⟨left.openHeight.height, right.height⟩

/-- The height of an atom. -/
def Atom.height : Atom → Nat
  | .compare c => c.height
  | .isNull _ _ | .never => 2
  | .keyIn negated q => q.height + 1 + (if negated then 1 else 0)
  | .paren f => f.openHeight.height

/-- The height of a query: that of its condition, or the higher one of a
union. -/
def Query.height : Query → Nat
  | .select _ _ _ condition => condition.openHeight.height
  | .union left right => max left.height right.height

end

/-- The height of a condition. -/
def Formula.height (f : Formula) : Nat :=
  f.openHeight.height

-- ============================================================ nesting

mutual

/-- The largest sum of heights among the queries in a condition. -/
def Formula.nesting : Formula → Nat
  | .atom a => a.nesting
  | .join left _ right => max left.nesting right.nesting

/-- The largest sum of heights among the queries in an atom. -/
def Atom.nesting : Atom → Nat
  | .compare _ | .isNull _ _ | .never => 0
  | .keyIn _ q => q.nesting
  | .paren f => f.nesting

/-- The heights of the conditions that enclose one another, added up to the
innermost query, where that is largest. -/
def Query.nesting : Query → Nat
  | .select _ _ _ condition => condition.height + condition.nesting
  | .union left right => max left.nesting right.nesting

end

-- ======================================================= small lemmas

/-- Names are never looked up at less than the height of the text. -/
theorem Query.height_le_nesting : (q : Query) → q.height ≤ q.nesting
  | .select _ _ _ condition =>
    Nat.le_add_right condition.height condition.nesting
  | .union left right => by
    have hl := left.height_le_nesting
    have hr := right.height_le_nesting
    simp only [height, nesting]
    omega

end IdentitySearch
