/-
How results are shown: as a table for people, as JSON, or as CSV. Rows of a
table are numbered by their place among all matches.
-/
import IdentitySearch.Engine
import IdentitySearch.Json.Writer
import IdentitySearch.Report.Table

namespace IdentitySearch

/-- A format of results. -/
inductive Format where
  | table
  | json
  | csv
deriving DecidableEq

namespace Format

def all : List Format := [.table, .json, .csv]

def name : Format → String
  | .table => "table"
  | .json => "json"
  | .csv => "csv"

def ofName? (s : String) : Option Format :=
  all.find? fun f => f.name = s

theorem ofName?_name (f : Format) : ofName? f.name = some f := by
  cases f <;> rfl

-- ================================================================ pages

/-- A field of CSV; it is quoted where a comma, a quote or a line feed would
mislead the reader. -/
def csvField (s : String) : String :=
  if s.toList.any fun c => c = ',' || c = '"' || c = '\n' then
    String.ofList
      ('"' :: s.toList.flatMap (fun c => if c = '"' then ['"', '"'] else [c])
      ++ ['"'])
  else s

/-- Records of one field each as CSV, with a header. -/
def csvText (header : String) (records : List String) : String :=
  Text.joined "" ((header :: records.map csvField).map (· ++ "\n"))

def pageJson (page : ResultPage) : Json :=
  .record [("keys", .array (page.keys.map .text)),
    ("total", .integer page.total)]

/-- The rows of a table of keys, numbered from the place after `offset`. -/
def numbered (offset : Nat) (keys : List String) : List (List String) :=
  keys.mapIdx fun i key => [toString (offset + i + 1), key]

/-- A page of keys; `offset` is the number of matches before it. -/
def page (format : Format) (page : ResultPage) (offset : Nat) : String :=
  match format with
  | .table =>
    if page.keys.isEmpty
      then "No results (" ++ toString page.total ++ " total)"
    else (Table.mk ["#", "key"] (numbered offset page.keys)).text ++ "\n"
      ++ toString page.keys.length ++ " of " ++ toString page.total ++ " shown"
  | .json => (pageJson page).indentedText
  | .csv => csvText "key" page.keys

def count (format : Format) (total : Nat) : String :=
  match format with
  | .table => toString total ++ " match(es)"
  | .json => (Json.record [("total", .integer total)]).compactText
  | .csv => csvText "total" [toString total]

end Format

/-- A statement under a label, for those who want to see it. -/
def Statement.explanation (s : Statement) (label : String) : String :=
  "-- " ++ label ++ "\n" ++ s.query.text ++ "\n-- params: ["
    ++ Text.joined ", " (s.query.params.map BindValue.display) ++ "]"
    ++ match s.window with
      | none => ""
      | some w =>
        "\n-- offset " ++ toString w.offset ++ ", limit " ++ toString w.limit

end IdentitySearch
