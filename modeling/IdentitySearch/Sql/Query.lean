/-
Queries over the search views, as data: which column of which view is selected,
and under which condition. A condition is kept as it is written, atoms joined
one after the other without parentheses of their own, so that what binds
tighter is decided where it is evaluated and not where it is put together. From
a query come its SQL text with bound values (this file) and the cells it
selects (`Sql.Evaluation`).

Conditions, atoms and queries contain one another, by lists of keys and by
parentheses. What a condition tree is compiled to is of one form, though: a
query for the keys of one view (`Selection`). Two of these are joined within
the view of the left one, so a tree of any size is again a query on a single
view, that of its leftmost leaf.
-/
import IdentitySearch.Catalog.View
import IdentitySearch.Dialect
import IdentitySearch.Sql.Fragment

namespace IdentitySearch

-- ========================================================= comparators

/-- How a column is compared with a value. -/
inductive Comparator where
  | eq
  | ne
  | ge
  | gt
  | le
  | lt
  | like
  | notLike
deriving DecidableEq

namespace Comparator

def text : Comparator → String
  | .eq => "="
  | .ne => "<>"
  | .ge => ">="
  | .gt => ">"
  | .le => "<="
  | .lt => "<"
  | .like => " LIKE "
  | .notLike => " NOT LIKE "

/-- The comparator that holds where this one fails, NULL apart. -/
def inverse : Comparator → Comparator
  | .eq => .ne
  | .ne => .eq
  | .ge => .lt
  | .gt => .le
  | .le => .gt
  | .lt => .ge
  | .like => .notLike
  | .notLike => .like

end Comparator

/-- A column compared with a value, folding case on both sides or not, and with
the backslash as escape character of a pattern or without one. -/
structure Comparison where
  column : Column
  comparator : Comparator
  value : BindValue
  folded : Bool := false
  escaped : Bool := false
deriving DecidableEq

def Comparison.fragment (c : Comparison) : Fragment :=
  let body :=
    if c.folded then
      Fragment.ofText
        ("LOWER(" ++ c.column.sqlName ++ ")" ++ c.comparator.text ++ "LOWER(")
        ++ .placeholder c.value ++ .ofText ")"
    else .ofText (c.column.sqlName ++ c.comparator.text)
      ++ .placeholder c.value
  if c.escaped then body ++ .ofText Dialect.escapeText else body

-- ============================================================= queries

/-- What joins the atoms of a condition. -/
inductive Connective where
  | and
  | or
deriving DecidableEq

def Connective.text : Connective → String
  | .and => " AND "
  | .or => " OR "

mutual

/-- A condition on a row: atoms joined from left to right. -/
inductive Formula where
  | atom (a : Atom)
  | join (left : Formula) (c : Connective) (right : Atom)

/-- An atom of a condition. -/
inductive Atom where
  | compare (c : Comparison)
  /-- A column is NULL, or it is not. -/
  | isNull (column : Column) (negated : Bool)
  /-- The key of the row is among those a query selects, or it is not. -/
  | keyIn (negated : Bool) (q : Query)
  /-- Never holds. -/
  | never
  /-- A condition in parentheses. -/
  | paren (f : Formula)

/-- A query for one column, which it calls the key whatever its name is. -/
inductive Query where
  | select (distinct : Bool) (column : Column) (view : View)
      (condition : Formula)
  | union (left right : Query)

end

-- ============================================================ SQL text

/-- A selected column; one that is not the key is renamed to it. -/
def Column.selected (c : Column) : String :=
  if c = .anyId then c.sqlName else c.sqlName ++ " AS " ++ Column.anyId.sqlName

/-- The text of a query before its condition. -/
def Query.head (distinct : Bool) (column : Column) (view : View) : String :=
  "SELECT " ++ (if distinct then "DISTINCT " else "") ++ column.selected
    ++ " FROM " ++ view.sqlName ++ " WHERE "

mutual

def Formula.fragment : Formula → Fragment
  | .atom a => a.fragment
  | .join left c right => left.fragment ++ .ofText c.text ++ right.fragment

def Atom.fragment : Atom → Fragment
  | .compare c => c.fragment
  | .isNull column negated =>
    .ofText (column.sqlName ++ if negated then " IS NOT NULL" else " IS NULL")
  | .keyIn negated q =>
    .ofText (if negated then "any_id NOT IN (" else "any_id IN (")
      ++ q.fragment
      ++ .ofText ")"
  | .never => .ofText "1=2"
  | .paren f => .ofText "(" ++ f.fragment ++ .ofText ")"

def Query.fragment : Query → Fragment
  | .select distinct column view condition =>
    .ofText (Query.head distinct column view) ++ condition.fragment
  | .union left right => left.fragment ++ .ofText " UNION " ++ right.fragment

end

-- =============================================================== views

mutual

/-- The views that a condition reads. -/
def Formula.views : Formula → List View
  | .atom a => a.views
  | .join left _ right => left.views ++ right.views

/-- The views that an atom reads. -/
def Atom.views : Atom → List View
  | .compare _ | .isNull _ _ | .never => []
  | .keyIn _ q => q.views
  | .paren f => f.views

/-- The views that a query reads, in the order in which a database looks their
names up: a view before the queries of its condition, and of a union the right
part first. -/
def Query.views : Query → List View
  | .select _ _ view condition => view :: condition.views
  | .union left right => right.views ++ left.views

end

-- ========================================================== selections

/-- A query for the keys of identities: distinct keys of a view under a
condition. Every condition tree becomes one of these. -/
structure Selection where
  view : View
  condition : Formula

namespace Selection

/-- A selection as a query. -/
def query (s : Selection) : Query :=
  .select true .anyId s.view s.condition

def fragment (s : Selection) : Fragment :=
  s.query.fragment

/-- A selection whose condition is one atom. -/
def ofAtom (view : View) (a : Atom) : Selection :=
  ⟨view, .atom a⟩

/-- Both selections together. The left one keeps its view and has its condition
put in parentheses, joined with the question whether the right one selects the
key; so it reads `<left> AND|OR any_id IN (<right>)`. -/
def combine (left : Selection) (c : Connective)
    (right : Selection) : Selection :=
  ⟨left.view,
    .atom (.paren (.join left.condition c (.keyIn false right.query)))⟩

end Selection

/-- Atoms joined by one connective. -/
def Formula.joinAll (c : Connective) (first : Atom)
    (rest : List Atom) : Formula :=
  rest.foldl (fun f a => .join f c a) (.atom first)

end IdentitySearch
