/-
JSON text. There are two layouts: compact, on one line without blanks, and
indented, with two blanks a level and every item and member on a line of its
own. Strings escape quotes, backslashes and control characters and nothing
else.
-/
import IdentitySearch.Json.Basic

namespace IdentitySearch.Json

open Number

-- ============================================================ scalars

/-- One hexadecimal digit, small letters. -/
def hexDigit (n : Nat) : Char :=
  Nat.digitChar n

/-- One character of a string. -/
def escapedChar (c : Char) : List Char :=
  if c = '"' then ['\\', '"']
  else if c = '\\' then ['\\', '\\']
  else if c = '\n' then ['\\', 'n']
  else if c = '\r' then ['\\', 'r']
  else if c = '\t' then ['\\', 't']
  else if c = '\x08' then ['\\', 'b']
  else if c = '\x0c' then ['\\', 'f']
  else if c.toNat < 0x20 then
    ['\\', 'u', '0', '0', hexDigit (c.toNat / 16), hexDigit (c.toNat % 16)]
  else [c]

def quotedString (s : String) : List Char :=
  '"' :: s.toList.flatMap escapedChar ++ ['"']

/-- A string; one that denotes no text is written as the lone surrogate it
holds. -/
def writeString : Option String → List Char
  | some s => quotedString s
  | none => "\"\\ud800\"".toList

def writeInt (n : Int) : List Char :=
  if n < 0 then '-' :: digits n.natAbs else digits n.natAbs

def writeNumeral : Numeral → List Char
  | .integer n => writeInt n
  | .decimal negative coefficient exponent =>
    (if negative then ['-'] else []) ++ digits coefficient
      ++ 'e' :: writeInt exponent

-- ============================================================ layouts

mutual

/-- The compact text of a value. -/
def write : Json → List Char
  | .null => "null".toList
  | .bool b => if b then "true".toList else "false".toList
  | .number n => writeNumeral n
  | .string s => writeString s
  | .array items => '[' :: writeItems items ++ [']']
  | .object members => '\x7b' :: writeMembers members ++ ['\x7d']

/-- The items of an array, commas between. -/
def writeItems : List Json → List Char
  | [] => []
  | [item] => write item
  | item :: next :: rest => write item ++ ',' :: writeItems (next :: rest)

/-- The members of an object, commas between. -/
def writeMembers : List (Option String × Json) → List Char
  | [] => []
  | [(name, value)] => writeString name ++ ':' :: write value
  | (name, value) :: next :: rest =>
    writeString name ++ ':' :: write value
      ++ ',' :: writeMembers (next :: rest)

end

/-- The start of a line at a level of nesting. -/
def newLine (level : Nat) : List Char :=
  '\n' :: List.replicate (2 * level) ' '

mutual

/-- The indented text of a value that stands at a level of nesting. -/
def indent (level : Nat) : Json → List Char
  | .null => "null".toList
  | .bool b => if b then "true".toList else "false".toList
  | .number n => writeNumeral n
  | .string s => writeString s
  | .array [] => ['[', ']']
  | .array items =>
    '[' :: indentItems (level + 1) items ++ newLine level ++ [']']
  | .object [] => ['\x7b', '\x7d']
  | .object members =>
    '\x7b' :: indentMembers (level + 1) members ++ newLine level ++ ['\x7d']

/-- The items of an array, each on its line. -/
def indentItems (level : Nat) : List Json → List Char
  | [] => []
  | [item] => newLine level ++ indent level item
  | item :: next :: rest =>
    newLine level ++ indent level item
      ++ ',' :: indentItems level (next :: rest)

/-- The members of an object, each on its line. -/
def indentMembers (level : Nat) : List (Option String × Json) → List Char
  | [] => []
  | [(name, value)] =>
    newLine level ++ writeString name ++ ':' :: ' ' :: indent level value
  | (name, value) :: next :: rest =>
    newLine level ++ writeString name ++ ':' :: ' ' :: indent level value
      ++ ',' :: indentMembers level (next :: rest)

end

/-- The compact text of a value, as a string. -/
def compactText (j : Json) : String :=
  String.ofList j.write

/-- The indented text of a value, as a string. -/
def indentedText (j : Json) : String :=
  String.ofList (j.indent 0)

end IdentitySearch.Json
