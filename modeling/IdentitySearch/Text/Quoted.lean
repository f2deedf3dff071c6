/-
Quoted texts, as messages show them: between double quotes, with quotes,
backslashes and characters without a shape written as escapes, so that the
reader of a message sees exactly which text is meant.
-/
import IdentitySearch.Text.Hidden
import IdentitySearch.Text.Ascii

namespace IdentitySearch.Text

/-- One character of a quoted text. -/
def quotedChar (c : Char) : List Char :=
  if c = '\x00' then ['\\', '0']
  else if c = '\t' then ['\\', 't']
  else if c = '\r' then ['\\', 'r']
  else if c = '\n' then ['\\', 'n']
  else if c = '"' ∨ c = '\\' then ['\\', c]
  else if isHidden c then
    '\\' :: 'u' :: '\x7b' :: Nat.toDigits 16 c.toNat ++ ['\x7d']
  else [c]

/-- A text between double quotes. -/
def quoted (s : String) : String :=
  String.ofList ('"' :: s.toList.flatMap quotedChar ++ ['"'])

/-- A list of quoted texts in brackets. -/
def quotedList (ss : List String) : String :=
  "[" ++ joined ", " (ss.map quoted) ++ "]"

end IdentitySearch.Text
