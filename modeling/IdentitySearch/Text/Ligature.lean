/-
Ligatures: letters of a script that are drawn as one sign, so that together
they take fewer columns than alone. A text is read from its end, so a ligature
is named by its last letter, and each rule says what the letters before it add.
A rule can take back a column that the later letter has been given.
-/
import IdentitySearch.Text.CharWidth

namespace IdentitySearch.Text

-- ============================================================ letters

/-- Arabic letters of the alef group. -/
def isAlef (c : Char) : Bool :=
  inRanges [(0x622, 0x623), (0x625, 0x625), (0x627, 0x627), (0x671, 0x673),
    (0x675, 0x675), (0x773, 0x774), (0x870, 0x882)] c

/-- Arabic letters of the lam group. -/
def isLam (c : Char) : Bool :=
  inRanges [(0x644, 0x644), (0x6B5, 0x6B8), (0x76A, 0x76A), (0x8A6, 0x8A6),
    (0x8C7, 0x8C7)] c

/-- Khmer letters that can be written below another one, after a coeng sign. -/
def isCoengLetter (c : Char) : Bool :=
  inRanges [(0x1780, 0x1782), (0x1784, 0x1787), (0x1789, 0x178C),
    (0x178E, 0x1793), (0x1795, 0x1798), (0x179B, 0x179D), (0x17A0, 0x17A0),
      (0x17A2, 0x17A2), (0x17A7, 0x17A7), (0x17AB, 0x17AC), (0x17AF, 0x17AF)] c

/-- Tifinagh consonants, two of which can join. -/
def isTifinaghConsonant (c : Char) : Bool :=
  inRanges [(0x2D31, 0x2D65), (0x2D6F, 0x2D6F)] c

def isJoiner (c : Char) : Bool :=
  c.toNat = 0x200D

/-- Marks that are ignored where nothing draws them; no ligature breaks at
one. -/
def isIgnoredMark (c : Char) : Bool :=
  inRanges [(0x34F, 0x34F), (0x17B4, 0x17B5), (0x180B, 0x180D),
    (0x180F, 0x180F), (0xFE00, 0xFE0F), (0xE0100, 0xE01EF)] c

/-- The ranges of the characters without a column that Arabic letters do not
join across: vowel signs and jamos with a place of their own, joiners and
fillers. -/
def unjoined : List CodeRange :=
  [
   (0x605, 0x605), (0x890, 0x891), (0x8E2, 0x8E2), (0x9BE, 0x9BE),
   (0x9D7, 0x9D7), (0xB3E, 0xB3E), (0xB57, 0xB57), (0xBBE, 0xBBE),
   (0xBD7, 0xBD7), (0xCC0, 0xCC0), (0xCC2, 0xCC2), (0xCC7, 0xCC8),
   (0xCCA, 0xCCB), (0xCD5, 0xCD6), (0xD3E, 0xD3E), (0xD4E, 0xD4E),
   (0xD57, 0xD57), (0xDCF, 0xDCF), (0xDDF, 0xDDF), (0x1160, 0x11FF),
   (0x1715, 0x1715), (0x1734, 0x1734), (0x180E, 0x180E), (0x1B35, 0x1B35),
   (0x1B3B, 0x1B3B),
   (0x1B3D, 0x1B3D), (0x1B43, 0x1B44), (0x1BAA, 0x1BAA), (0x1BF2, 0x1BF3),
   (0x200C, 0x200D), (0x2065, 0x2069), (0x302E, 0x302F), (0x3164, 0x3164),
   (0xA8FA, 0xA8FA), (0xA953, 0xA953), (0xA9C0, 0xA9C0), (0xD7B0, 0xD7C6),
   (0xD7CB, 0xD7FB), (0xFFA0, 0xFFA0), (0xFFF0, 0xFFF8), (0x111C0, 0x111C0),
   (0x111C2, 0x111C3), (0x11235, 0x11235), (0x1133E, 0x1133E), (0x1134D,
     0x1134D), (0x11357, 0x11357), (0x113B8, 0x113B8), (0x113C2, 0x113C2),
   (0x113C5, 0x113C5), (0x113C7, 0x113C9), (0x113CF, 0x113CF),
   (0x113D1, 0x113D1), (0x114B0, 0x114B0), (0x114BD, 0x114BD),
   (0x115AF, 0x115AF), (0x116B6, 0x116B6), (0x11930, 0x11930),
   (0x1193D, 0x1193D), (0x1193F, 0x1193F), (0x11941, 0x11941),
   (0x11A3A, 0x11A3A), (0x11A84, 0x11A89), (0x11D46, 0x11D46),
   (0x11F02, 0x11F02), (0x11F41, 0x11F41), (0x16FF0, 0x16FF1),
   (0x1D165, 0x1D166), (0x1D16D, 0x1D172),
   (0xE0000, 0xE0000), (0xE0002, 0xE001F), (0xE0080, 0xE00FF),
   (0xE01F0, 0xE0FFF)]

/-- Whether Arabic letters join across a character, as if it were not there. -/
def isTransparent (c : Char) : Bool :=
  isZeroWidth c && !inRanges unjoined c

-- ========================================================== ligatures

/-- The later part of a ligature that a character may complete. Where a joiner
is needed between the letters, `joined` says that one has been read. -/
inductive Ligature
  /-- An Arabic alef, for a lam. -/
  | alef
  /-- A Hebrew lamed, for an alef. -/
  | lamed (joined : Bool)
  /-- A Buginese ya, for the vowel sign i. -/
  | ya (joined : Bool)
  /-- A Buginese ya with the vowel sign i, for the letter a. -/
  | yaWithVowel
  /-- A Tifinagh consonant, for another one. -/
  | consonant (joined : Bool)
  /-- A Tifinagh consonant with the consonant joiner. -/
  | joinedConsonant
  /-- A Lisu tone letter, for one that stands before it. -/
  | toneLetter
  /-- An Old Turkic i, for the sign before it. -/
  | orkhonI (joined : Bool)
  /-- A Khmer letter, for a coeng sign that puts it below. -/
  | coengLetter
deriving DecidableEq

namespace Ligature

/-- The ligature that a character may be the last letter of. -/
def ofLast? (c : Char) : Option Ligature :=
  if isAlef c then some .alef
  else if c.toNat = 0x5DC then some (.lamed false)
  else if c.toNat = 0x1A10 then some (.ya false)
  else if isTifinaghConsonant c then some (.consonant false)
  else if c.toNat = 0xA4FC || c.toNat = 0xA4FD then some .toneLetter
  else if c.toNat = 0x10C03 then some (.orkhonI false)
  else if isCoengLetter c then some .coengLetter
  else none

/-- The ligature with a joiner before it; alone among them, that of an Arabic
alef breaks there. -/
def withJoiner? : Ligature → Option Ligature
  | .alef => none
  | .lamed _ => some (.lamed true)
  | .ya _ => some (.ya true)
  | .consonant _ => some (.consonant true)
  | .orkhonI _ => some (.orkhonI true)
  | l => some l

/-- The columns that a letter adds before the rest of its ligature, and what is
still open then; `none` if the letter is no part of it. -/
def letter? (c : Char) : Ligature → Option (Int × Option Ligature)
  | .alef =>
    if isLam c then some (0, none)
    else if isTransparent c then some (0, some .alef)
    else none
  | .lamed true => if c.toNat = 0x5D0 then some (0, none) else none
  | .ya true => if c.toNat = 0x1A17 then some (0, some .yaWithVowel) else none
  | .yaWithVowel => if c.toNat = 0x1A15 then some (0, none) else none
  | .consonant joined =>
    if c.toNat = 0x2D7F then some (1, some .joinedConsonant)
    else if joined && isTifinaghConsonant c then some (0, none)
    else none
  | .joinedConsonant => if isTifinaghConsonant c then some (-1, none) else none
  | .toneLetter =>
    if 0xA4F8 ≤ c.toNat && c.toNat ≤ 0xA4FB then some (0, none) else none
  | .orkhonI true => if c.toNat = 0x10C32 then some (0, none) else none
  | .coengLetter => if c.toNat = 0x17D2 then some (-1, none) else none
  | _ => none

/-- What a character adds before the rest of a ligature: joiners and ignored
marks change nothing that is drawn, and the letters have their rules. -/
def before? (c : Char) (l : Ligature) : Option (Int × Option Ligature) :=
  if isJoiner c then l.withJoiner?.map fun m => (0, some m)
  else if l ≠ .alef && isIgnoredMark c then some (0, some l)
  else l.letter? c

end Ligature

end IdentitySearch.Text
