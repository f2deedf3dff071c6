/-
The two statements of a search: one counts the identities, the other lists
their keys in some order, all of them or those in a window. Both are about the
same identities, namely those that a condition selects and that are visible. A
statement is data; from it come its SQL text with bound values (this file) and
its answer (`Statement.Evaluation`).
-/
import IdentitySearch.Scope
import IdentitySearch.Sort.Text
import IdentitySearch.Sql.Query

namespace IdentitySearch

/-- The identities that a search is about. -/
structure Target where
  kind : Kind
  selection : Selection
  visibility : Visibility

/-- The part of the rows that is asked for. -/
structure Window where
  offset : Nat
  limit : Nat
deriving DecidableEq

/-- Counts identities. -/
structure CountStatement where
  target : Target

/-- Lists the keys of identities. -/
structure SearchStatement where
  target : Target
  plan : SortPlan
  /-- Whether the sources of attributes are augmented. -/
  augmented : Bool
  window : Option Window

/-- SQL text with its bound values, and the window to apply to its rows. -/
structure Statement where
  query : Fragment
  window : Option Window
deriving DecidableEq

namespace CountStatement

/-- The SQL of a count. -/
def fragment (s : CountStatement) : Fragment :=
  Fragment.ofText "SELECT COUNT(any_id) FROM (SELECT u.any_id FROM ("
    ++ s.target.selection.fragment ++ .ofText ") u WHERE "
    ++ s.target.visibility.fragment s.target.kind ++ .ofText ") count_any_id"

/-- A count as a statement; it has one row and no window. -/
def statement (s : CountStatement) : Statement :=
  ⟨s.fragment, none⟩

end CountStatement

namespace SearchStatement

/-- The sources that are joined to the identities. -/
def sources (s : SearchStatement) : List Source :=
  s.plan.sources (.field s.target.kind) s.augmented

/-- The fragments of the sources, each after a comma. -/
def sourceList : List Source → Fragment
  | [] => .empty
  | s :: rest => Fragment.ofText ", " ++ s.fragment ++ sourceList rest

/-- The conditions on the joined rows. -/
def conditions (s : SearchStatement) : List Fragment :=
  s.plan.conditions ++ [s.target.visibility.fragment s.target.kind]

/-- The SQL of a search. -/
def fragment (s : SearchStatement) : Fragment :=
  Fragment.ofText
    ("SELECT DISTINCT u.any_id" ++ s.plan.selectList ++ " FROM (")
    ++ s.target.selection.fragment ++ .ofText ") u" ++ sourceList s.sources
    ++ .ofText " WHERE " ++ .join " AND " s.conditions
    ++ .ofText s.plan.orderClause

/-- A search as a statement. -/
def statement (s : SearchStatement) : Statement :=
  ⟨s.fragment, s.window⟩

end SearchStatement

end IdentitySearch
