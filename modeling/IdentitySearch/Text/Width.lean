/-
The width of a text on a terminal, in columns. Most characters take their own
width wherever they stand. Emoji sequences are drawn as one picture of two
columns, ligatures as one sign, and selectors change the character before them,
so a text is read from its end: a context says what follows, and each character
adds its columns and becomes part of the context of the one before it.
-/
import IdentitySearch.Text.Ligature

namespace IdentitySearch.Text

-- =========================================================== contexts

/-- The start of a sequence that the character before it may belong to. -/
inductive Sequel
  /-- Nothing that joins with what stands before it. -/
  | plain
  | ligature (l : Ligature)
  /-- A picture. -/
  | picture
  /-- A skin tone. -/
  | tone
  /-- One regional letter. -/
  | regional
  /-- Several regional letters. -/
  | regionals
  /-- A joiner and a picture after it. -/
  | joined
  /-- The frame of a key, before a joiner and a picture. -/
  | joinedKey
  /-- One regional letter before a joiner and a picture. -/
  | joinedRegional
  /-- An even number of regional letters there. -/
  | joinedEven
  /-- An odd number of them, three at least. -/
  | joinedOdd
  /-- The end of a region's tags, before a joiner and a picture. -/
  | tagEnd
  /-- Some tags that are letters, before that end. -/
  | tagLetters (count : Nat)
  /-- Some tags that are digits, before these letters. -/
  | tagDigits (count : Nat)
  /-- The Kirat Rai vowel sign e, or one that ends like it. -/
  | vowelE
  /-- Two of these signs that make the sign ai. -/
  | vowelAi
deriving DecidableEq

/-- A selector asks for one form of the character before it. -/
inductive Selector
  /-- Text, for a picture. -/
  | text
  /-- A picture, for text. -/
  | picture
  /-- Double width, for a quotation mark. -/
  | doubled
deriving DecidableEq

/-- What follows a place in a text. -/
structure Context where
  sequel : Sequel
  selector : Option Selector
deriving DecidableEq

namespace Sequel

/-- What a character is to the one before it, if it does not continue what
follows. -/
def ofChar (c : Char) : Sequel :=
  if isRegionalLetter c then .regional
  else if isSkinTone c then .tone
  else if isPicture c then .picture
  else if c.toNat = 0x16D67 then .vowelE
  else if c.toNat = 0x16D68 then .vowelAi
  else match Ligature.ofLast? c with
    | some l => .ligature l
    | none => .plain

/-- The part of a ligature that stays open, if any. -/
def ofLigature : Option Ligature → Sequel
  | some l => .ligature l
  | none => .plain

/-- Whether a selector leaves a sequel in place: a ligature is not broken by
one, and a joined picture waits for the picture that the selector asks for. -/
def outlives : Selector → Sequel → Bool
  | _, .ligature _ => true
  | .picture, .joined => true
  | .picture, .joinedKey => true
  | _, _ => false

/-- What is left of a sequel when the character before its selector has no such
form. -/
def unselected : Sequel → Sequel
  | .ligature l => .ligature l
  | _ => .plain

/-- A character before a joined picture. -/
def joined? (c : Char) : Option (Int × Sequel) :=
  if c.toNat = 0x20E3 then some (0, .joinedKey)
  else if isRegionalLetter c then some (1, .joinedRegional)
  else if isSkinTone c then some (0, .tone)
  else if isTagEnd c then some (0, .tagEnd)
  else if isPicture c then some (0, .picture)
  else none

/-- A character before the tags of a region: letters, then digits, three of one
kind at least when the black flag ends them. -/
def tags? (c : Char) : Sequel → Option (Int × Sequel)
  | .tagEnd =>
    if isTagLetter c then some (0, .tagLetters 1)
    else if isTagDigit c then some (0, .tagDigits 1)
    else none
  | .tagLetters n =>
    if isTagLetter c && n < 6 then some (0, .tagLetters (n + 1))
    else if isTagDigit c && n ≤ 4 then some (0, .tagDigits 1)
    else if isBlackFlag c && 3 ≤ n then some (0, .picture)
    else none
  | .tagDigits n =>
    if isTagDigit c && n < 3 then some (0, .tagDigits (n + 1))
    else if isBlackFlag c && n = 3 then some (0, .picture)
    else none
  | _ => none

/-- A character that continues a sequel to the left: the columns that it adds,
and the longer sequel. A pair of regional letters is one flag, so behind a
joiner the second of each pair takes back a column. -/
def before? (c : Char) : Sequel → Option (Int × Sequel)
  | .plain => none
  | .ligature l =>
    (l.before? c).map fun (columns, rest) => (columns, ofLigature rest)
  | .picture => if isJoiner c then some (0, .joined) else none
  | .tone =>
    if takesSkinTone c then some (0, .picture)
    else if isJoiner c then some (0, .joined)
    else none
  | .regional => if isRegionalLetter c then some (1, .regionals) else none
  | .regionals =>
    if isRegionalLetter c then some (1, .regionals)
    else if isJoiner c then some (0, .joined)
    else none
  | .joined => joined? c
  | .joinedKey => none
  | .joinedRegional =>
    if isRegionalLetter c then some (-1, .joinedEven) else none
  | .joinedEven =>
    if isRegionalLetter c then some (3, .joinedOdd)
    else if isJoiner c then some (0, .joined)
    else none
  | .joinedOdd =>
    if isRegionalLetter c then some (-1, .joinedEven)
    else if isJoiner c then some (0, .joined)
    else none
  | .vowelE =>
    if c.toNat = 0x16D63 || c.toNat = 0x16D69 then some (0, .plain)
    else if c.toNat = 0x16D67 then some (0, .vowelAi)
    else if c.toNat = 0x16D68 then some (1, .vowelE)
    else none
  | .vowelAi => if c.toNat = 0x16D63 then some (0, .plain) else none
  | tags => tags.tags? c

/-- A character before a sequel: the columns that it adds, and the sequel that
it makes. One that does not continue what follows stands for itself. -/
def step (s : Sequel) (c : Char) : Int × Sequel :=
  if c.toNat ≤ 0xA0 then (1, .plain)
  else (s.before? c).getD (charWidth c, ofChar c)

end Sequel

namespace Selector

/-- The selector that a character is. -/
def ofChar? (c : Char) : Option Selector :=
  if c.toNat = 0xFE0E then some .text
  else if c.toNat = 0xFE0F then some .picture
  else if c.toNat = 0xFE01 then some .doubled
  else none

/-- The columns of a character in the form that a selector asks for, and what
it is to the one before it; `none` if it has no such form. -/
def form? (c : Char) (s : Sequel) : Selector → Option (Int × Sequel)
  | .text => if hasTextForm c then some (1, .plain) else none
  | .picture =>
    if !hasPictureForm c then none
    else if s = .joined || s = .joinedKey then some (0, .picture)
    else some (2, .picture)
  | .doubled =>
    if c.toNat ∈ [0x2018, 0x2019, 0x201C, 0x201D]
      then some (2, .plain) else none

end Selector

namespace Context

/-- What follows the last character. -/
def last : Context :=
  ⟨.plain, none⟩

/-- A context with a selector put before it. -/
def select (n : Context) (s : Selector) : Context :=
  ⟨if n.sequel.outlives s then n.sequel else .plain, some s⟩

/-- A context whose selector had no effect. -/
def unselected (n : Context) : Context :=
  if n.selector.isSome then ⟨n.sequel.unselected, none⟩ else n

/-- A character before a context: the columns that it adds, and the context of
the character before it. -/
def step (n : Context) (c : Char) : Int × Context :=
  match n.selector.bind (Selector.form? c n.sequel) with
  | some (columns, sequel) => (columns, ⟨sequel, none⟩)
  | none =>
    match Selector.ofChar? c with
    | some s => (0, n.unselected.select s)
    | none =>
      let (columns, sequel) := n.unselected.sequel.step c
      (columns, ⟨sequel, none⟩)

end Context

-- ============================================================== width

/-- The columns of a text and the context that it makes, read from its end. -/
def scan (cs : List Char) : Int × Context :=
  cs.foldr
    (fun c (columns, n) =>
      let (added, m) := n.step c
      (columns + added, m))
    (0, Context.last)

/-- The columns that a text takes. -/
def width (cs : List Char) : Nat :=
  (scan cs).1.toNat

end IdentitySearch.Text
