/-
Tables drawn with ASCII characters. A cell may have several lines; a column is
as wide as its widest line, with a blank on either side, and cells are padded
on the right. The rule below the header has no joints.
-/
import IdentitySearch.Text.Ascii
import IdentitySearch.Text.Width

namespace IdentitySearch

/-- A table: cells of text in columns, with a row of titles on top. -/
structure Table where
  header : List String
  rows : List (List String)
deriving DecidableEq

namespace Table

-- ================================================================ cells

/-- The lines of a cell. -/
def cellLines (cell : String) : List (List Char) :=
  Text.splitAll '\n' cell.toList

/-- The width of a cell: that of its widest line. -/
def cellWidth (cell : String) : Nat :=
  (cellLines cell).foldl (fun w line => max w (Text.width line)) 0

/-- The widths of the columns, as wide as the header and the rows need. -/
def widths (t : Table) : List Nat :=
  t.rows.foldl (fun ws row => List.zipWith max ws (row.map cellWidth))
    (t.header.map cellWidth)

/-- A line with blanks after it up to a width. -/
def padded (width : Nat) (line : List Char) : List Char :=
  line ++ List.replicate (width - Text.width line) ' '

-- ================================================================ lines

/-- A horizontal rule: one stroke of dashes a column, with ends and joints. -/
def rule (ends joint : Char) (ws : List Nat) : List Char :=
  ends :: [joint].intercalate
    (ws.map fun w => List.replicate (w + 2) '-') ++ [ends]

/-- The rule below the header. -/
def headerRule (ws : List Nat) : List Char :=
  '+' :: ['='].intercalate
    (ws.map fun w => List.replicate (w + 2) '=') ++ ['+']

/-- One line of a row, from what stands on it in each column. -/
def line (ws : List Nat) (parts : List (List Char)) : List Char :=
  '|' :: ['|'].intercalate
    (List.zipWith (fun w part => ' ' :: padded w part ++ [' ']) ws parts)
      ++ ['|']

/-- The lines of a row: as many as its highest cell has. -/
def rowLines (ws : List Nat) (row : List String) : List (List Char) :=
  let cells := row.map cellLines
  let height := cells.foldl (fun h c => max h c.length) 0
  (List.range height).map fun i => line ws (cells.map fun c => c.getD i [])

/-- The lines of some rows, with rules between. -/
def bodyLines (ws : List Nat) : List (List String) → List (List Char)
  | [] => []
  | [row] => rowLines ws row
  | row :: next :: rest =>
    rowLines ws row ++ rule '|' '+' ws :: bodyLines ws (next :: rest)

/-- The lines of a table. -/
def lines (t : Table) : List (List Char) :=
  let ws := t.widths
  rule '+' '+' ws :: rowLines ws t.header
    ++ headerRule ws :: bodyLines ws t.rows
    ++ [rule '+' '+' ws]

/-- The text of a table; no line feed after the last line. -/
def text (t : Table) : String :=
  String.ofList (['\n'].intercalate t.lines)

end Table

end IdentitySearch
