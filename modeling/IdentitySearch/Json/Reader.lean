/-
Reading JSON text by its grammar: one value, blanks around it, and nothing
after. Every reading function takes characters off the front of a text and
gives back the rest; what stops the recursion is a count of characters that no
text can outlast.

Whether a text is grammatical is all that is decided here. A string is read
piece by piece and put together afterwards, so that half of a surrogate pair
makes the string denote nothing without making the text ungrammatical. A number
is kept as it was written, whole or with a fraction, and a name that occurs
twice in an object is kept twice; what reads the value decides about them.
-/
import IdentitySearch.Json.Basic
import IdentitySearch.Number.Literal

namespace IdentitySearch.Json

open Number

-- ============================================================= blanks

/-- The four characters that may stand between the parts of a text. -/
def isSpace (c : Char) : Bool :=
  c = ' ' || c = '\n' || c = '\t' || c = '\r'

/-- A text without the blanks at its front. -/
def skipSpace (cs : List Char) : List Char :=
  cs.dropWhile isSpace

-- ============================================================ strings

/-- What a hexadecimal digit stands for. -/
def hexValue? (c : Char) : Option Nat :=
  if isDigit c then some (digitValue c)
  else if 'a' ≤ c ∧ c ≤ 'f' then some (c.toNat - 'a'.toNat + 10)
  else if 'A' ≤ c ∧ c ≤ 'F' then some (c.toNat - 'A'.toNat + 10)
  else none

/-- The code unit that four hexadecimal digits write. -/
def unit? (a b c d : Char) : Option Nat :=
  match hexValue? a, hexValue? b, hexValue? c, hexValue? d with
  | some i, some j, some k, some l => some (((i * 16 + j) * 16 + k) * 16 + l)
  | _, _, _, _ => none

/-- What an escape of one letter stands for. -/
def escaped? (c : Char) : Option Char :=
  if c = '"' ∨ c = '\\' ∨ c = '/' then some c
  else if c = 'n' then some '\n'
  else if c = 't' then some '\t'
  else if c = 'r' then some '\r'
  else if c = 'b' then some '\x08'
  else if c = 'f' then some '\x0c'
  else none

/-- One character or code unit of a string. -/
inductive Piece where
  | char (c : Char)
  /-- A surrogate, written as an escape. -/
  | surrogate (unit : Nat)

/-- The piece that a code unit stands for. -/
def Piece.ofUnit (unit : Nat) : Piece :=
  if 0xD800 ≤ unit ∧ unit < 0xE000 then .surrogate unit
    else .char (Char.ofNat unit)

/-- The pieces of a string up to its closing quote, which is taken off too. -/
def readPieces? : List Char → Option (List Piece × List Char)
  | [] => none
  | c :: rest =>
    if c = '"' then some ([], rest)
    else if c = '\\' then
      match rest with
      | [] => none
      | e :: rest =>
        if e = 'u' then
          match rest with
          | i :: j :: k :: l :: rest =>
            match unit? i j k l with
            | none => none
            | some unit =>
              (readPieces? rest).map fun (ps, after) =>
                (.ofUnit unit :: ps, after)
          | _ => none
        else
          match escaped? e with
          | none => none
          | some d =>
            (readPieces? rest).map fun (ps, after) => (.char d :: ps, after)
    else if c.toNat < 0x20 then none
    else (readPieces? rest).map fun (ps, after) => (.char c :: ps, after)

/-- The text that pieces make up: a high surrogate needs the low one after
it. -/
def pair? : List Piece → Option (List Char)
  | [] => some []
  | .char c :: rest => (pair? rest).map (c :: ·)
  | .surrogate high :: .surrogate low :: rest =>
    if high < 0xDC00 ∧ 0xDC00 ≤ low then
      (pair? rest).map
        (Char.ofNat (0x10000 + (high - 0xD800) * 0x400 + (low - 0xDC00)) :: ·)
    else none
  | .surrogate _ :: _ => none

/-- A string after its opening quote. -/
def readString? (cs : List Char) : Option (Option String × List Char) :=
  (readPieces? cs).map fun (ps, rest) =>
    ((pair? ps).map String.ofList, rest)

-- ============================================================ numbers

/-- The digits before a point: a lone zero, or digits without a zero in
front. -/
def readWhole? (cs : List Char) : Option (List Char × List Char) :=
  let (ds, rest) := spanDigits cs
  match ds with
  | [] => none
  | ['0'] => some (ds, rest)
  | '0' :: _ => none
  | _ => some (ds, rest)

/-- A point and digits, if there is a point. -/
def readFractionDigits? : List Char → Option (Option (List Char) × List Char)
  | '.' :: rest =>
    let (ds, after) := spanDigits rest
    if ds.isEmpty then none else some (some ds, after)
  | cs => some (none, cs)

/-- A letter e, a sign and digits, if there is the letter. -/
def readPower? : List Char → Option (Option Int × List Char)
  | c :: rest =>
    if c = 'e' ∨ c = 'E' then
      let (negative, rest) := splitSign rest
      let (ds, after) := spanDigits rest
      if ds.isEmpty then none
      else some (some (if negative then -(ofDigits ds : Int) else ofDigits ds),
        after)
    else some (none, c :: rest)
  | [] => some (none, [])

/-- A number without its sign. -/
def readUnsigned? (negative : Bool) (cs : List Char) :
    Option (Numeral × List Char) := do
  let (whole, rest) ← readWhole? cs
  let (fraction, rest) ← readFractionDigits? rest
  let (power, rest) ← readPower? rest
  let n := ofDigits whole
  if fraction.isNone ∧ power.isNone ∧ ¬ (negative ∧ n = 0) then
    some (.integer (if negative then -(n : Int) else n), rest)
  else
    let places := fraction.getD []
    some (.decimal negative (ofDigits (whole ++ places))
      (power.getD 0 - places.length), rest)

def readNumeral? : List Char → Option (Numeral × List Char)
  | '-' :: rest => readUnsigned? true rest
  | cs => readUnsigned? false cs

-- ============================================================= values

/-- A word that has to come first, and the value it stands for. -/
def readWord? (word : String) (value : Json) (cs : List Char) :
    Option (Json × List Char) :=
  (Text.after? word.toList cs).map fun rest => (value, rest)

mutual

/-- One value, blanks before it allowed. -/
def readValue? : (fuel : Nat) → List Char → Option (Json × List Char)
  | 0, _ => none
  | fuel + 1, cs =>
    match skipSpace cs with
    | [] => none
    | c :: rest =>
      if c = '"' then
        (readString? rest).map fun (s, after) => (.string s, after)
      else if c = '[' then
        match skipSpace rest with
        | ']' :: after => some (.array [], after)
        | inside => (readItems? fuel inside).map fun (items, after) =>
          (.array items, after)
      else if c = '\x7b' then
        match skipSpace rest with
        | '\x7d' :: after => some (.object [], after)
        | inside =>
          (readMembers? fuel inside).map fun (members, after) =>
            (.object members, after)
      else if c = 'n' then readWord? "null" .null (c :: rest)
      else if c = 't' then readWord? "true" (.bool true) (c :: rest)
      else if c = 'f' then readWord? "false" (.bool false) (c :: rest)
      else (readNumeral? (c :: rest)).map fun (n, after) => (.number n, after)

/-- The items of an array up to its closing bracket. -/
def readItems? : (fuel : Nat) → List Char → Option (List Json × List Char)
  | 0, _ => none
  | fuel + 1, cs =>
    match readValue? fuel cs with
    | none => none
    | some (item, rest) =>
      match skipSpace rest with
      | ',' :: more =>
        (readItems? fuel more).map fun (items, after) => (item :: items, after)
      | ']' :: after => some ([item], after)
      | _ => none

/-- The members of an object up to its closing brace. -/
def readMembers? : (fuel : Nat) → List Char →
    Option (List (Option String × Json) × List Char)
  | 0, _ => none
  | fuel + 1, cs =>
    match skipSpace cs with
    | '"' :: rest =>
      match readString? rest with
      | none => none
      | some (name, rest) =>
        match skipSpace rest with
        | ':' :: rest =>
          match readValue? fuel rest with
          | none => none
          | some (value, rest) =>
            match skipSpace rest with
            | ',' :: more =>
              (readMembers? fuel more).map fun (members, after) =>
                ((name, value) :: members, after)
            | '\x7d' :: after => some ([(name, value)], after)
            | _ => none
        | _ => none
    | _ => none

end

/-- The value that a whole text writes. -/
def read? (s : String) : Option Json :=
  match readValue? (2 * s.length + 2) s.toList with
  | some (value, rest) => if (skipSpace rest).isEmpty then some value else none
  | none => none

end IdentitySearch.Json
