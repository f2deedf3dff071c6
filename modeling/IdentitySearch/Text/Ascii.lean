/-
Text rules that look at ASCII letters and nothing else: folding capitals,
comparing without regard to case, and looking for a piece of text. Names of
kinds, value types, dialects and sort directions are read by these rules, and
the database folds case by them too, so a letter outside ASCII is always
different from its other case.
-/

namespace IdentitySearch.Text

-- ================================================== case, ASCII only

/-- Capitals of ASCII become small letters; every other character stays. -/
def lower (s : String) : String :=
  String.ofList (s.toList.map Char.toLower)

/-- Whether two texts differ at most in the case of ASCII letters. -/
def sameIgnoringCase (s t : String) : Bool :=
  lower s == lower t

-- ================================================ pieces of a text

/-- Whether `piece` stands somewhere in a text. -/
def occurs (piece : List Char) : List Char → Bool
  | [] => piece.isEmpty
  | c :: rest => piece.isPrefixOf (c :: rest) || occurs piece rest

/-- What follows `start` in a text that begins with it. -/
def after? : (start text : List Char) → Option (List Char)
  | [], text => some text
  | _ :: _, [] => none
  | a :: start, c :: text => if a = c then after? start text else none

/-- The text before and after the first `mark`, if there is one. -/
def splitFirst? (mark : Char) : List Char → Option (List Char × List Char)
  | [] => none
  | c :: rest =>
    if c = mark then some ([], rest)
    else (splitFirst? mark rest).map fun (left, right) => (c :: left, right)

/-- The pieces of a text between the marks: one more than there are marks. -/
def splitAll (mark : Char) : List Char → List (List Char)
  | [] => [[]]
  | c :: rest =>
    if c = mark then [] :: splitAll mark rest
    else match splitAll mark rest with
      | [] => [[c]]
      | piece :: pieces => (c :: piece) :: pieces

/-- Texts one after the other with `separator` between them. -/
def joined (separator : String) : List String → String
  | [] => ""
  | [s] => s
  | s :: t :: rest => s ++ separator ++ joined separator (t :: rest)

-- ==================================================== small lemmas

/-- After a piece comes what was put after it, -/
theorem after?_append (start text : List Char) :
    after? start (start ++ text) = some text := by
  induction start with
  | nil => simp [after?]
  | cons a start ih => simp [after?, ih]

/-- and what is there after a piece was put after it. -/
theorem eq_append_of_after? {start text rest : List Char}
    (h : after? start text = some rest) : text = start ++ rest := by
  induction start generalizing text with
  | nil => simpa [after?] using h
  | cons a start ih =>
    cases text with
    | nil => simp [after?] at h
    | cons c text =>
      by_cases hac : a = c
      · subst hac
        simp only [after?, if_true] at h
        rw [ih h, List.cons_append]
      · simp [after?, hac] at h

/-- A text has a piece, though it may be empty. -/
theorem splitAll_ne_nil (mark : Char) (text : List Char) :
    splitAll mark text ≠ [] := by
  cases text with
  | nil => simp [splitAll]
  | cons c rest =>
    simp only [splitAll]
    split
    · simp
    · split <;> simp

/-- A character that is in neither of two texts is not in both together. -/
theorem not_mem_append {c : Char} {s t : String} (hs : c ∉ s.toList)
    (ht : c ∉ t.toList) : c ∉ (s ++ t).toList := by
  rw [String.toList_append, List.mem_append, not_or]
  exact ⟨hs, ht⟩

end IdentitySearch.Text
