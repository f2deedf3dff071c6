/-
Fragments of SQL: text with anonymous placeholders, and the values bound to
them in the order of the text. Because placeholders have no numbers, fragments
are put together by writing one after the other, and the values follow.
-/
import IdentitySearch.Value

namespace IdentitySearch

/-- SQL text with the values of its placeholders. -/
structure Fragment where
  text : String
  params : List BindValue := []
deriving DecidableEq

namespace Fragment

def empty : Fragment := ⟨"", []⟩

def ofText (s : String) : Fragment := ⟨s, []⟩

/-- One placeholder, bound to a value. -/
def placeholder (v : BindValue) : Fragment := ⟨"?", [v]⟩

/-- One fragment after the other. -/
def append (f g : Fragment) : Fragment :=
  ⟨f.text ++ g.text, f.params ++ g.params⟩

instance : Append Fragment := ⟨append⟩

/-- A fragment with text after it. -/
def push (f : Fragment) (s : String) : Fragment := f ++ ofText s

/-- A fragment with a placeholder after it. -/
def bind (f : Fragment) (v : BindValue) : Fragment := f ++ placeholder v

/-- Fragments one after the other with text between them. -/
def join (separator : String) : List Fragment → Fragment
  | [] => empty
  | [f] => f
  | f :: g :: rest => f ++ ofText separator ++ join separator (g :: rest)

/-- Whether a fragment has no text. -/
def isEmpty (f : Fragment) : Bool := f.text.isEmpty

-- ==================================================== the first WHERE

/-- The text with `insert` put in after the first `mark`, if the mark
occurs. -/
def insertAfterFirst (mark insert : List Char) : List Char → List Char
  | [] => if mark.isEmpty then insert else []
  | c :: rest =>
    if mark.isPrefixOf (c :: rest)
      then mark ++ insert ++ (c :: rest).drop mark.length
    else c :: insertAfterFirst mark insert rest

/-- Opens a parenthesis right after the first `WHERE `. -/
def openFirstWhere (f : Fragment) : Fragment :=
  { f with text :=
    String.ofList (insertAfterFirst "WHERE ".toList ['('] f.text.toList) }

-- ====================================================== small lemmas

@[simp] theorem text_append (f g : Fragment) :
    (f ++ g).text = f.text ++ g.text := rfl

@[simp] theorem params_append (f g : Fragment) :
    (f ++ g).params = f.params ++ g.params :=
  rfl

@[simp] theorem text_ofText (s : String) : (ofText s).text = s := rfl

@[simp] theorem params_ofText (s : String) : (ofText s).params = [] := rfl

@[simp] theorem text_placeholder (v : BindValue) :
    (placeholder v).text = "?" := rfl

@[simp] theorem params_placeholder (v : BindValue) :
    (placeholder v).params = [v] := rfl

theorem append_assoc (f g h : Fragment) : f ++ g ++ h = f ++ (g ++ h) := by
  show (⟨_, _⟩ : Fragment) = ⟨_, _⟩
  simp [String.append_assoc]

end Fragment

end IdentitySearch
