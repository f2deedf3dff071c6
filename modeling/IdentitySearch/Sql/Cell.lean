/-
What a column of a row holds: nothing, a number or a text. Numbers stand before
texts in every ordering and NULL before both; numbers compare by value,
exactly, whichever way they are held, and texts by their bytes. Conversions
between numbers and text happen only where a column's affinity asks for them.
-/
import IdentitySearch.Sql.Truth
import IdentitySearch.Sql.Pattern
import IdentitySearch.Catalog.Column
import IdentitySearch.Number.Rounded
import IdentitySearch.Value

namespace IdentitySearch

/-- What a column of a row holds. -/
inductive Cell where
  | null
  | integer (n : Int)
  | real (x : Double)
  | text (s : String)
deriving DecidableEq

namespace Cell

-- ======================================================= conversions

/-- A value bound to a placeholder, as a cell. Truth values are numbers, dates
are texts, and what is not a number is NULL. -/
def ofValue : BindValue → Cell
  | .text s => .text s
  | .long n => .integer n.toInt
  | .double x => if x.isNaN then .null else .real x
  | .boolean b => .integer (if b then 1 else 0)
  | .date t => .text t.text

/-- The kind of value that a cell is. -/
def storage : Cell → Storage
  | .null => .null
  | .integer _ => .integer
  | .real _ => .real
  | .text _ => .text

/-- A cell as text; NULL has none. -/
def text? : Cell → Option String
  | .null => none
  | .integer n => some (toString n)
  | .real x => some x.columnText
  | .text s => some s

/-- The number that a text writes, blanks around it allowed. -/
def readNumber? (s : String) : Option Cell :=
  let blank (c : Char) : Bool := c = ' ' || (9 ≤ c.toNat && c.toNat ≤ 13)
  let cs := ((s.toList.dropWhile blank).reverse.dropWhile blank).reverse
  match Number.readLong? cs with
  | some n => some (.integer n.toInt)
  | none =>
    let (negative, rest) := Number.splitSign cs
    (Number.readScientific? rest).map fun d =>
      .real (Double.ofDecimal negative d.coefficient d.exponent)

/-- A cell under the numeric affinity: a text that writes a number is one. -/
def numeric : Cell → Cell
  | .text s => (readNumber? s).getD (.text s)
  | c => c

/-- A real that is a whole number of 64 bits, as that number; the two ends of
the range stay real. -/
def wholeIfExact : Cell → Cell
  | .real x =>
    match x.integral? with
    | some n =>
      if Int64.minValue.toInt < n ∧ n < Int64.maxValue.toInt then .integer n
        else .real x
    | none => .real x
  | c => c

/-- A cell as a column with some affinity stores it. -/
def stored (affinity : Affinity) (c : Cell) : Cell :=
  match affinity with
  | .text =>
    match c.text? with
    | none => .null
    | some s => .text s
  | .integer => c.numeric.wholeIfExact
  | .real =>
    match c.numeric with
    | .integer n => .real (Double.ofInt n)
    | c => c

/-- A cell as it is compared with a column of some affinity. -/
def comparand (affinity : Affinity) (c : Cell) : Cell :=
  match affinity with
  | .text => c.stored .text
  | .integer | .real => c.numeric

-- ========================================================== ordering

/-- The class of a cell in an ordering: NULL, then numbers, then texts. -/
def rank : Cell → Nat
  | .null => 0
  | .integer _ | .real _ => 1
  | .text _ => 2

/-- The value of a number in units of the smallest positive double. -/
def units : Cell → Int
  | .integer n => n * Double.unitsPerOne
  | .real x => x.units
  | .null | .text _ => 0

/-- The text of a text cell. -/
def content : Cell → String
  | .text s => s
  | _ => ""

/-- Whether a cell stands before another one. -/
def before (a b : Cell) : Bool :=
  if a.rank = b.rank then
    if a.rank = 1 then a.units < b.units else a.content < b.content
  else a.rank < b.rank

/-- Whether two cells hold the same value; NULL is the same as NULL. -/
def same (a b : Cell) : Bool :=
  a.rank = b.rank && a.units = b.units && a.content = b.content

-- ======================================================= comparisons

/-- A comparison that is unknown as soon as one side is NULL. -/
def compareWith (test : Cell → Cell → Bool) (a b : Cell) : Truth :=
  if a = .null ∨ b = .null then .unknown else .ofBool (test a b)

def equals (a b : Cell) : Truth :=
  compareWith same a b

/-- The text in small letters; numbers become text, NULL stays. -/
def lowered (c : Cell) : Cell :=
  match c.text? with
  | none => .null
  | some s => .text (Text.lower s)

/-- Whether a cell is like a pattern. -/
def isLike (escape : Option Char) (c pattern : Cell) : Truth :=
  match c.text?, pattern.text? with
  | some s, some p => .ofBool (Pattern.isLike escape p s)
  | _, _ => .unknown

/-- Whether a cell is one of several: holds if it equals one of them, and else
is unknown if an answer depends on a NULL. Over none it fails. -/
def isIn (c : Cell) (cells : List Cell) : Truth :=
  cells.foldr (fun d t => (c.equals d).or t) .fails

end Cell

-- ============================================================== rows

/-- A row: the cells of the columns it has. -/
structure Row where
  cells : List (Column × Cell)
deriving DecidableEq

/-- The cell of a column; a column that a row does not have is NULL there. -/
def Row.get (r : Row) (c : Column) : Cell :=
  (r.cells.lookup c).getD .null

end IdentitySearch
