/-
Sort clauses on the command line. A clause is spelled as its property with the
word of its direction after a colon, or as its property alone if the direction
is ascending. It is read at its first colon, whatever the property is. So a
clause is read from each of its spellings, and from no other text, as long as
its property has no colon; and a property that has one is never read, with a
direction after it or without (`sort_clauses_spelled`). An order can be asked
for on the command line exactly if no property of it has a colon or is empty
(`exists_sorts_iff`).

What it is to spell a clause is a relation (`SortClause.Spells`), and knows
nothing of the reader; in it the colon is the one before the direction,
wherever others are. The reader is then taken apart by where the first colon of
a text is, if there is one (`colon_cases`): without one the text is a property
(`sortClause_of_no_colon`), and with one it has to be a property and a
direction (`sortClause_at_colon`). Both ways it fails in one way only, and
names the text.

From one clause to an order is a traversal that stops at the first text it
refuses (`pageOf_eq_ok_iff`, `pageOf_eq_error_iff`), and from there to the
arguments one option for each clause (`readAfter?_sorts`).
-/
import Mathlib.Data.List.Forall2
import IdentitySearch.CommandLine.Run
import IdentitySearch.Proofs.Outcome
import IdentitySearch.Proofs.Text.Pieces

namespace IdentitySearch

open Outcome

-- ============================================================ directions

/-- The word for a direction in a sort clause. -/
def Direction.word : Direction → String
  | .ascending => "asc"
  | .descending => "desc"

namespace CommandLine

/-- A direction is read from its word in any letter case. -/
theorem direction?_eq_some_iff {word : String} {d : Direction} :
    direction? word = some d ↔ Text.sameIgnoringCase word d.word = true := by
  have hlower : Text.lower d.word = d.word := by cases d <;> rfl
  rw [Text.sameIgnoringCase, beq_iff_eq, hlower]
  unfold direction?
  split
  · next hasc =>
    rw [hasc]
    cases d <;> simp [Direction.word]
  · next hnotAsc =>
    split
    · next hdesc =>
      rw [hdesc]
      cases d <;> simp [Direction.word]
    · next hnotDesc =>
      cases d with
      | ascending => exact iff_of_false (fun h => nomatch h) hnotAsc
      | descending => exact iff_of_false (fun h => nomatch h) hnotDesc

/-- No direction has a colon in its word. -/
theorem not_mem_of_direction? {word : String} {d : Direction}
    (h : direction? word = some d) :
    ':' ∉ word.toList := by
  intro hcolon
  have hsame : Text.lower word = Text.lower d.word :=
    beq_iff_eq.1 (direction?_eq_some_iff.1 h)
  have hlower : ':' ∈ (Text.lower d.word).toList := by
    rw [← hsame, Text.lower, String.toList_ofList]
    exact List.mem_map.2 ⟨':', hcolon, rfl⟩
  cases d <;> revert hlower <;> decide

end CommandLine

-- ============================================================= spellings

namespace SortClause

/-- A text spells a clause: with the word of its direction after a colon, in
any case of letters, or without a direction, which then is ascending. -/
inductive Spells (c : SortClause) (text : String) : Prop
  | directed (word : String)
      (hword : Text.sameIgnoringCase word c.direction.word = true)
    (htext : text = c.property ++ ":" ++ word)
  | bare (hdirection : c.direction = .ascending) (htext : text = c.property)

/-- A clause can be written if its property is not empty and has no colon. -/
structure IsWritable (c : SortClause) : Prop where
  nonempty : c.property ≠ ""
  noColon : ':' ∉ c.property.toList

instance (c : SortClause) : Decidable c.IsWritable :=
  decidable_of_iff (c.property ≠ "" ∧ ':' ∉ c.property.toList)
    ⟨fun h => ⟨h.1, h.2⟩, fun h => ⟨h.1, h.2⟩⟩

/-- The spelling of a clause that has its direction in small letters. -/
def text (c : SortClause) : String :=
  c.property ++ ":" ++ c.direction.word

theorem spells_text (c : SortClause) : c.Spells c.text :=
  .directed c.direction.word (beq_iff_eq.2 rfl) rfl

end SortClause

-- =============================================================== reading

namespace CommandLine

/-- A text has no colon, or its first colon has a property before it and a word
after it. -/
theorem colon_cases (text : String) : ':' ∉ text.toList
    ∨ ∃ property word, text = property ++ ":" ++ word
      ∧ ':' ∉ property.toList := by
  cases hsplit : Text.splitFirst? ':' text.toList with
  | none => exact .inl (Text.splitFirst?_eq_none_iff.1 hsplit)
  | some sides =>
    obtain ⟨htext, hcolon⟩ := Text.splitFirst?_eq_some_iff.1 hsplit
    refine .inr ⟨String.ofList sides.1, String.ofList sides.2, ?_, ?_⟩
    · rw [← String.toList_inj]
      simpa using htext
    · rwa [String.toList_ofList]

/-- Without a colon a text is a property, ascending, -/
theorem sortClause_of_no_colon {text : String} (hcolon : ':' ∉ text.toList) :
    sortClause text
      = if text = "" then .error (.invalidSort text)
        else .ok ⟨text, .ascending⟩ := by
  have hword : direction? "asc" = some .ascending := rfl
  simp only [sortClause, Text.splitFirst?_eq_none_iff.2 hcolon,
    Option.getD_none, List.isEmpty_iff, String.toList_eq_nil_iff,
      String.ofList_toList, hword]

/-- and with one what comes before the first colon is, if a direction comes
after it. -/
theorem sortClause_at_colon {property word : String}
    (hcolon : ':' ∉ property.toList) :
    sortClause (property ++ ":" ++ word)
      = if property = "" then .error (.invalidSort (property ++ ":" ++ word))
        else match direction? word with
          | none => .error (.invalidSort (property ++ ":" ++ word))
          | some d => .ok ⟨property, d⟩ := by
  have hsplit : Text.splitFirst? ':' (property ++ ":" ++ word).toList
      = some (property.toList, word.toList) := by
    rw [Text.splitFirst?_eq_some_iff]
    exact ⟨by simp, hcolon⟩
  cases hword : direction? word <;>
    simp only [sortClause, hsplit, Option.getD_some, List.isEmpty_iff,
      String.toList_eq_nil_iff, String.ofList_toList, hword]

/-- What cannot be read is named. -/
theorem eq_of_sortClause_eq_error {text : String} {f : Failure}
    (h : sortClause text = .error f) :
    f = .invalidSort text := by
  rcases colon_cases text with hcolon | ⟨property, word, rfl, hcolon⟩
  · rw [sortClause_of_no_colon hcolon] at h
    split at h
    · exact (Except.error.inj h).symm
    · cases h
  · rw [sortClause_at_colon hcolon] at h
    split at h
    · exact (Except.error.inj h).symm
    · split at h
      · exact (Except.error.inj h).symm
      · cases h

/-- A text is read as the clauses it spells that can be written. -/
theorem sortClause_eq_ok_iff {text : String} {c : SortClause} :
    sortClause text = .ok c ↔ c.IsWritable ∧ c.Spells text := by
  constructor
  · intro h
    -- what was read says whether there was a colon: an ascending clause may
    -- have been spelled either way
    rcases colon_cases text with hcolon | ⟨property, word, rfl, hcolon⟩
    · rw [sortClause_of_no_colon hcolon] at h
      split at h
      · cases h
      · next hempty =>
        cases h
        exact ⟨⟨hempty, hcolon⟩, .bare rfl rfl⟩
    · rw [sortClause_at_colon hcolon] at h
      split at h
      · cases h
      · next hempty =>
        split at h
        · cases h
        · next d hword =>
          cases h
          exact ⟨⟨hempty, hcolon⟩,
            .directed word (direction?_eq_some_iff.1 hword) rfl⟩
  · intro h
    obtain ⟨hwritable, hspells⟩ := h
    cases hspells with
    | directed word hword htext =>
      rw [htext, sortClause_at_colon hwritable.noColon,
        if_neg hwritable.nonempty, direction?_eq_some_iff.2 hword]
    | bare hdirection htext =>
      rw [htext, sortClause_of_no_colon hwritable.noColon,
        if_neg hwritable.nonempty, ← hdirection]

/-- A text that spells no clause is refused, and names itself. -/
theorem sortClause_eq_error_iff {text : String} {f : Failure} :
    sortClause text = .error f
      ↔ f = .invalidSort text
        ∧ ∀ c : SortClause, c.IsWritable → ¬ c.Spells text := by
  constructor
  · intro h
    refine ⟨eq_of_sortClause_eq_error h, fun c hwritable hspells => ?_⟩
    cases h.symm.trans (sortClause_eq_ok_iff.2 ⟨hwritable, hspells⟩)
  · intro h
    obtain ⟨rfl, hnone⟩ := h
    cases hread : sortClause text with
    | error f => rw [eq_of_sortClause_eq_error hread]
    | ok c =>
      obtain ⟨hwritable, hspells⟩ := sortClause_eq_ok_iff.1 hread
      exact absurd hspells (hnone c hwritable)

/-- After a property with a colon no word is taken for a direction: the clause
is cut at the colon of the property, and what comes after it has the other
colon. -/
theorem sortClause_of_colon {property : String}
    (hcolon : ':' ∈ property.toList) (word : String) :
    sortClause (property ++ ":" ++ word)
      = .error (.invalidSort (property ++ ":" ++ word)) := by
  rcases colon_cases property with hnone | ⟨start, rest, rfl, hstart⟩
  · exact absurd hcolon hnone
  · have hcut : start ++ ":" ++ rest ++ ":" ++ word
        = start ++ ":" ++ (rest ++ ":" ++ word) := by
      simp only [String.append_assoc]
    have hword : direction? (rest ++ ":" ++ word) = none := by
      refine Option.eq_none_iff_forall_not_mem.2 fun d hd =>
        not_mem_of_direction? hd ?_
      simp
    rw [hcut, sortClause_at_colon hstart, hword]
    split <;> rfl

end CommandLine

open CommandLine in
/-- A text is read as the clauses that it spells, if their property is not
empty and has no colon, and as no others. With the word of its direction, in
any case of letters, a clause is read as itself if its property has no colon;
if it has one, the text is refused. -/
theorem sort_clauses_spelled (c : SortClause) (text : String) :
    (sortClause text = .ok c ↔ c.IsWritable ∧ c.Spells text)
      ∧ (∀ word, c.property ≠ "" →
        Text.sameIgnoringCase word c.direction.word = true →
          sortClause (c.property ++ ":" ++ word)
            = if ':' ∈ c.property.toList
              then .error (.invalidSort (c.property ++ ":" ++ word))
              else .ok c)
      ∧ ∀ f, sortClause text = .error f → f = .invalidSort text := by
  refine ⟨sortClause_eq_ok_iff, fun word hproperty hword => ?_,
    fun _ => eq_of_sortClause_eq_error⟩
  split
  · next hcolon => exact sortClause_of_colon hcolon word
  · next hcolon => exact sortClause_eq_ok_iff.2 ⟨⟨hproperty, hcolon⟩,
      .directed word hword rfl⟩

open CommandLine in
/-- A clause in the form that is asked for, whose property has a colon. -/
theorem colon_in_property_is_refused :
    "urn:nick" ≠ ""
      ∧ Text.sameIgnoringCase "asc" Direction.ascending.word = true
      ∧ sortClause ("urn:nick" ++ ":" ++ "asc")
        = .error (.invalidSort "urn:nick:asc")
      ∧ sortClause ("urn:nick" ++ ":" ++ "asc")
        ≠ .ok ⟨"urn:nick", .ascending⟩ := by
  decide

open CommandLine in
/-- A direction may be written in capitals; a property with a colon cannot be
asked for. -/
theorem sort_clauses_spelled_nicknames :
    Text.sameIgnoringCase "DESC" Direction.descending.word = true
      ∧ SortClause.IsWritable ⟨"nick", .descending⟩
      ∧ sortClause "nick:DESC" = .ok ⟨"nick", .descending⟩
      ∧ sortClause ("nick" ++ ":" ++ "DESC") = .ok ⟨"nick", .descending⟩
      ∧ sortClause ("urn:nick" ++ ":" ++ "DESC")
        = .error (.invalidSort "urn:nick:DESC") := by
  have hword : Text.sameIgnoringCase "DESC" Direction.descending.word
      = true := rfl
  have hwritable : SortClause.IsWritable ⟨"nick", .descending⟩ := by
    decide
  have hnick := sort_clauses_spelled ⟨"nick", .descending⟩ "nick:DESC"
  have hurn := sort_clauses_spelled ⟨"urn:nick", .descending⟩ ""
  refine ⟨hword, hwritable,
    hnick.1.2 ⟨hwritable, .directed "DESC" hword rfl⟩, ?_, ?_⟩
  · exact (hnick.2.1 "DESC" (by decide) hword).trans (if_neg hwritable.noColon)
  · exact (hurn.2.1 "DESC" (by decide) hword).trans
      (if_pos (by decide))

-- ================================================================ orders

/-- A traversal succeeds with the results of its elements, each in its
place. -/
theorem Outcome.mapM_eq_ok_iff {ε α β : Type} {f : α → Except ε β} {l : List α}
    {bs : List β} :
    l.mapM f = .ok bs ↔ List.Forall₂ (fun a b => f a = .ok b) l bs := by
  induction l generalizing bs with
  | nil =>
    rw [List.forall₂_nil_left_iff]
    exact ⟨fun h => (Except.ok.inj h).symm, fun h => h ▸ rfl⟩
  | cons a rest ih =>
    rw [List.mapM_cons, bind_eq_ok, List.forall₂_cons_left_iff]
    simp only [bind_eq_ok, ih]
    constructor
    · intro h
      obtain ⟨b, hb, cs, hcs, h⟩ := h
      exact ⟨b, cs, hb, hcs, (Except.ok.inj h).symm⟩
    · intro h
      obtain ⟨b, cs, hb, hcs, rfl⟩ := h
      exact ⟨b, hb, cs, hcs, rfl⟩

namespace CommandLine

/-- The order that arguments ask for has a clause for each of the texts, which
spells it. -/
theorem pageOf_eq_ok_iff {a : Arguments} {page : PageRequest} :
    pageOf a = .ok page ↔ page.pagination = a.page.map (⟨·, a.size⟩)
      ∧ List.Forall₂ (fun text (c : SortClause) => c.IsWritable
        ∧ c.Spells text)
          a.sorts page.sort := by
  simp only [pageOf, map_eq_ok, mapM_eq_ok_iff, sortClause_eq_ok_iff]
  constructor
  · intro h
    obtain ⟨sort, hsort, rfl⟩ := h
    exact ⟨rfl, hsort⟩
  · intro h
    obtain ⟨hpagination, hsort⟩ := h
    exact ⟨page.sort, hsort, by rw [← hpagination]⟩

/-- The first text that spells no clause that can be written is named. -/
theorem pageOf_eq_error_iff {a : Arguments} {f : Failure} :
    pageOf a = .error f
      ↔ ∃ before text after, a.sorts = before ++ text :: after
        ∧ (∀ t ∈ before, ∃ c : SortClause, c.IsWritable ∧ c.Spells t)
        ∧ f = .invalidSort text
        ∧ ∀ c : SortClause, c.IsWritable → ¬ c.Spells text := by
  simp only [pageOf, map_eq_error, mapM_eq_error, sortClause_eq_ok_iff,
    sortClause_eq_error_iff]

/-- What comes after the first equals sign of an option is its value, whatever
it is. -/
theorem Token.ofArgument_option (name value : String)
    (hname : '=' ∉ name.toList) :
    Token.ofArgument ("--" ++ name ++ "=" ++ value)
      = .long name (some value) := by
  have hargument : ("--" ++ name ++ "=" ++ value).toList
      = '-' :: '-' :: (name.toList ++ '=' :: value.toList) := by simp
  have hsplit : Text.splitFirst? '=' (name.toList ++ '=' :: value.toList)
      = some (name.toList, value.toList) :=
    Text.splitFirst?_eq_some_iff.2 ⟨rfl, hname⟩
  obtain ⟨c, rest, hrest⟩ := List.exists_cons_of_ne_nil
    (List.append_ne_nil_of_right_ne_nil name.toList
      (List.cons_ne_nil '=' value.toList))
  rw [hrest] at hargument hsplit
  simp only [Token.ofArgument, hargument, hsplit, String.ofList_toList]

/-- The option for a sort adds its text to those that were given, -/
theorem readAfter?_sort (d : Draft) (text : String) (rest : List String) :
    readAfter? d (("--sort=" ++ text) :: rest)
      = readAfter? { d with sorts := d.sorts ++ [text] } rest := by
  have htoken : Token.ofArgument ("--sort=" ++ text)
      = .long "sort" (some text) :=
    Token.ofArgument_option "sort" text (by decide)
  rw [readAfter?, htoken]
  rfl

/-- and several of them add theirs in order. -/
theorem readAfter?_sorts (d : Draft) (texts : List String) :
    readAfter? d (texts.map ("--sort=" ++ ·))
      = readAfter? { d with sorts := d.sorts ++ texts } [] := by
  induction texts generalizing d with
  | nil => rw [List.map_nil, List.append_nil]
  | cons text texts ih =>
    rw [List.map_cons, readAfter?_sort, ih, List.append_assoc,
      List.singleton_append]

end CommandLine

open CommandLine in
/-- An order can be asked for on the command line exactly if each of its
clauses can be written. -/
theorem exists_sorts_iff (clauses : List SortClause) :
    (∃ (args : List String) (a : Arguments) (page : PageRequest),
        read? args = some (.search a) ∧ pageOf a = .ok page
          ∧ page.sort = clauses)
      ↔ ∀ c ∈ clauses, c.IsWritable := by
  constructor
  · intro h
    obtain ⟨args, a, page, -, hpage, rfl⟩ := h
    intro c hc
    obtain ⟨sorts, hsorts, rfl⟩ := map_eq_ok.1 hpage
    obtain ⟨text, -, hread⟩ := (mem_mapM hsorts c).1 hc
    exact (sortClause_eq_ok_iff.1 hread).1
  · intro h
    refine ⟨"--db=ids.db" :: (clauses.map SortClause.text).map
      ("--sort=" ++ ·),
      { database := "ids.db", sorts := clauses.map SortClause.text },
      { sort := clauses }, ?_, pageOf_eq_ok_iff.2 ⟨rfl, ?_⟩, rfl⟩
    · have hdatabase : ∀ rest, read? ("--db=ids.db" :: rest)
          = readAfter? { database := some "ids.db" } rest := fun rest => rfl
      rw [hdatabase, readAfter?_sorts]
      rfl
    · rw [List.forall₂_map_left_iff, List.forall₂_same]
      exact fun c hc => ⟨h c hc, c.spells_text⟩

end IdentitySearch
