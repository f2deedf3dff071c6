/-
Page and sort requests. A page is given by its number, from zero, and its size;
sort clauses name a core field or an attribute, the most significant first.
Without a page every match is asked for.
-/
import IdentitySearch.Json.Reader
import IdentitySearch.Json.Shape
import IdentitySearch.Json.Writer

namespace IdentitySearch

/-- The direction of a sort clause. -/
inductive Direction where
  | ascending
  | descending
deriving DecidableEq

namespace Direction

/-- The keyword of a direction. -/
def keyword : Direction → String
  | .ascending => "ASC"
  | .descending => "DESC"

/-- The direction with exactly this keyword. -/
def ofKeyword? (s : String) : Option Direction :=
  if s = "ASC" then some .ascending
  else if s = "DESC" then some .descending
  else none

theorem ofKeyword?_keyword (d : Direction) :
    ofKeyword? d.keyword = some d := by
  cases d <;> rfl

end Direction

/-- One clause of an ordering. -/
structure SortClause where
  property : String
  direction : Direction
deriving DecidableEq

/-- A page by number and size, both below 2^32. -/
structure Pagination where
  page : Nat
  size : Nat
deriving DecidableEq

/-- The number of matches before a page. -/
def Pagination.offset (p : Pagination) : Nat :=
  p.page * p.size

/-- What part of the matches is asked for, and in which order. -/
structure PageRequest where
  pagination : Option Pagination := none
  sort : List SortClause := []
deriving DecidableEq

namespace PageRequest

/-- Every match, in no particular order. -/
def unpaged : PageRequest := {}

/-- Whether a page is asked for. -/
def isPaged (r : PageRequest) : Bool :=
  r.pagination.isSome

end PageRequest

-- =============================================================== JSON

namespace SortClause

def toJson (c : SortClause) : Json :=
  .record [("property", .text c.property),
    ("direction", .text c.direction.keyword)]

def ofJson? (j : Json) : Option SortClause :=
  match j.fields? ["property", "direction"] with
  | some [property, direction] =>
    match Json.required? Json.text? property,
        Json.required?
          (fun v => v.name?.bind Direction.ofKeyword?) direction with
    | some p, some d => some ⟨p, d⟩
    | _, _ => none
  | _ => none

end SortClause

namespace Pagination

def toJson (p : Pagination) : Json :=
  .record [("page", .integer p.page), ("size", .integer p.size)]

def ofJson? (j : Json) : Option Pagination :=
  match j.fields? ["page", "size"] with
  | some [page, size] =>
    match Json.required? Json.count? page, Json.required? Json.count? size with
    | some p, some s => some ⟨p, s⟩
    | _, _ => none
  | _ => none

end Pagination

namespace PageRequest

/-- A page request as JSON; both fields are always written. -/
def toJson (r : PageRequest) : Json :=
  .record
    [ ("pagination", match r.pagination with
        | none => .null
        | some p => p.toJson),
      ("sort", .array (r.sort.map SortClause.toJson)) ]

def ofJson? (j : Json) : Option PageRequest :=
  match j.fields? ["pagination", "sort"] with
  | some [pagination, sort] =>
    match Json.optional? none (Json.nullable? Pagination.ofJson?) pagination,
        Json.optional? [] (Json.list? SortClause.ofJson?) sort with
    | some p, some s => some ⟨p, s⟩
    | _, _ => none
  | _ => none

/-- The page request that a text describes. Members that are passed over need
only be grammatical. -/
def read? (s : String) : Option PageRequest :=
  (Json.read? s).bind ofJson?

/-- The compact JSON text of a page request. -/
def text (r : PageRequest) : String :=
  r.toJson.compactText

end PageRequest

end IdentitySearch
