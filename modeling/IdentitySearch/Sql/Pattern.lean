/-
Patterns of LIKE. A percent sign stands for any run of characters, an
underscore for any one, every other character for itself in either case of an
ASCII letter. With an escape character, the character after it stands for
itself; a pattern that ends in the escape character matches nothing. Text and
pattern end at a NUL character.
-/
import IdentitySearch.Text.Ascii

namespace IdentitySearch

/-- One element of a pattern. -/
inductive Wild where
  /-- Exactly this character, in either case. -/
  | char (c : Char)
  /-- Any one character. -/
  | one
  /-- Any run of characters. -/
  | many
deriving DecidableEq

namespace Pattern

/-- The elements of a pattern without an escape character. -/
def plainElement (c : Char) : Wild :=
  if c = '%' then .many else if c = '_' then .one else .char c

/-- The elements of a pattern; `escape` is the escape character, if there is
one. A pattern that ends in it has no elements. -/
def elements? (escape : Option Char) : List Char → Option (List Wild)
  | [] => some []
  | c :: rest =>
    if escape = some c then
      match rest with
      | [] => none
      | d :: rest => (elements? escape rest).map (.char d :: ·)
    else (elements? escape rest).map (plainElement c :: ·)

/-- Whether some end of a text, the whole and the empty one included,
passes. -/
def someEnd (passes : List Char → Bool) : List Char → Bool
  | [] => passes []
  | c :: rest => passes (c :: rest) || someEnd passes rest

/-- Whether a text matches the elements of a pattern. -/
def isMatch : List Wild → List Char → Bool
  | [], text => text.isEmpty
  | .char c :: ws, text =>
    match text with
    | [] => false
    | d :: rest => c.toLower = d.toLower && isMatch ws rest
  | .one :: ws, text =>
    match text with
    | [] => false
    | _ :: rest => isMatch ws rest
  | .many :: ws, text => someEnd (isMatch ws) text

/-- A text up to its first NUL. -/
def upToNul (cs : List Char) : List Char :=
  cs.takeWhile (· ≠ '\x00')

/-- Whether a text is like a pattern. -/
def isLike (escape : Option Char) (pattern text : String) : Bool :=
  match elements? escape (upToNul pattern.toList) with
  | none => false
  | some ws => isMatch ws (upToNul text.toList)

end Pattern

end IdentitySearch
