/-
Pages of keys as CSV, and what a reader of CSV finds in them. A field is either
bare, and then it ends at the next comma or line break, or between quotes, and
then it holds commas, breaks and doubled quotes as text. A line ends with a
line feed, with a carriage return before it or not. The writer quotes a key
with a comma, a quote or a line feed, but not one that ends in a carriage
return: that one becomes a part of the line break.

The reader is an automaton over characters (`Reader.step`), as RFC 4180
describes the format, and is written without a look at the writer. It is run
over a field, a line and a page in turn: over a bare field it stays bare
(`foldlM_bare`), over the doubled quotes of a quoted one it stays quoted
(`foldlM_doubled`), and over a line it comes back to the beginning with one
record more (`foldlM_csvField`). That a key is read back is thus a fact about a
single line, and pages are induction over their keys (`foldlM_lines`).

Which keys are not read back is said exactly (`LosesReturn`): those that are
written bare and end in a carriage return. Of these the reader finds the key
without it.
-/
import IdentitySearch.Report.Format

namespace IdentitySearch.Csv

-- ================================================================ reading

/-- Where a reader stands: in a bare field or before any field, between quotes,
after a quote that closes the field if no other one follows, or after the
carriage return behind a closed field. -/
inductive Place where
  | bare
  | quoted
  | closed
  | returned
deriving DecidableEq

/-- What a reader has seen: the records that have ended, the fields of the next
record that have, and what there is of its next field. -/
structure Reader where
  place : Place := .bare
  field : List Char := []
  fields : List String := []
  records : List (List String) := []
deriving DecidableEq

namespace Reader

def put (r : Reader) (c : Char) : Reader :=
  { r with field := r.field ++ [c] }

def endField (r : Reader) : Reader :=
  { fields := r.fields ++ [String.ofList r.field], records := r.records }

def endRecord (r : Reader) : Reader :=
  { records := r.records ++ [r.endField.fields] }

/-- A bare field without the carriage return that belongs to the line break
after it. -/
def withoutReturn (field : List Char) : List Char :=
  if field.getLast? = some '\r' then field.dropLast else field

/-- A reader after one more character. It gives up at a quote inside of a bare
field, and where text follows a closed one. -/
def step (r : Reader) (c : Char) : Option Reader :=
  match r.place with
  | .bare =>
    if c = ',' then some r.endField
    else if c = '\n'
      then some { r with field := withoutReturn r.field }.endRecord
    else if c = '"' then if r.field = []
      then some { r with place := .quoted } else none
    else some (r.put c)
  | .quoted =>
    if c = '"' then some { r with place := .closed } else some (r.put c)
  | .closed =>
    if c = '"' then some { r.put c with place := .quoted }
    else if c = ',' then some r.endField
    else if c = '\n' then some r.endRecord
    else if c = '\r' then some { r with place := .returned }
    else none
  | .returned => if c = '\n' then some r.endRecord else none

/-- The records at the end of a text; its last line need not be broken. -/
def finish (r : Reader) : Option (List (List String)) :=
  match r.place with
  | .bare => some
    (if r.field = [] ∧ r.fields = [] then r.records else r.endRecord.records)
  | .closed => some r.endRecord.records
  | .quoted | .returned => none

end Reader

/-- The records of a text. -/
def read (text : String) : Option (List (List String)) :=
  text.toList.foldlM Reader.step {} >>= Reader.finish

-- ================================================================= fields

/-- Whether a character ends a bare field or may not stand in it. -/
def IsMark (c : Char) : Prop :=
  c = ',' ∨ c = '"' ∨ c = '\n'

instance (c : Char) : Decidable (IsMark c) :=
  inferInstanceAs (Decidable (_ ∨ _ ∨ _))

/-- A text with its quotes doubled. -/
def doubled (cs : List Char) : List Char :=
  cs.flatMap fun c => if c = '"' then ['"', '"'] else [c]

theorem any_mark_iff (s : String) :
    (s.toList.any fun c => c = ',' || c = '"' || c = '\n') = true
      ↔ ∃ c ∈ s.toList, IsMark c := by
  simp [IsMark, or_assoc]

/-- A key with a mark is written between quotes, with its own quotes
doubled, -/
theorem csvField_of_mark {s : String} (h : ∃ c ∈ s.toList, IsMark c) :
    (Format.csvField s).toList = '"' :: doubled s.toList ++ ['"'] := by
  unfold Format.csvField
  rw [if_pos ((any_mark_iff s).2 h), String.toList_ofList]
  rfl

/-- and a key without one as it is. -/
theorem csvField_of_no_mark {s : String} (h : ∀ c ∈ s.toList, ¬ IsMark c) :
    Format.csvField s = s := by
  have hnone : ¬ ∃ c ∈ s.toList, IsMark c := fun ⟨c, hc, hmark⟩ => h c hc hmark
  unfold Format.csvField
  rw [if_neg (mt (any_mark_iff s).1 hnone)]

namespace Reader

variable {r : Reader}

/-- Over text without marks a bare field grows. -/
theorem foldlM_bare (hplace : r.place = .bare) {cs : List Char}
    (h : ∀ c ∈ cs, ¬ IsMark c) :
    cs.foldlM step r = some { r with field := r.field ++ cs } := by
  induction cs generalizing r with
  | nil => simp
  | cons c cs ih =>
    rw [List.forall_mem_cons] at h
    obtain ⟨hcomma, hquote, hbreak⟩ : c ≠ ',' ∧ c ≠ '"' ∧ c ≠ '\n' := by
      simpa [IsMark] using h.1
    have hstep : step r c = some (r.put c) := by
      simp [step, hplace, hcomma, hquote, hbreak]
    have hput : (r.put c).place = .bare := hplace
    rw [List.foldlM_cons, hstep, Option.bind_eq_bind, Option.bind_some,
      ih hput h.2]
    simp [put]

/-- Between quotes a field grows by every text, if quotes are doubled. -/
theorem foldlM_doubled (hplace : r.place = .quoted) (cs : List Char) :
    (doubled cs).foldlM step r = some { r with field := r.field ++ cs } := by
  induction cs generalizing r with
  | nil => simp [doubled]
  | cons c cs ih =>
    have hfirst : (if c = '"' then ['"', '"'] else [c]).foldlM step r
        = some (r.put c) := by
      by_cases hc : c = '"'
      · subst hc
        simp [step, hplace, put]
      · simp [step, hplace, hc]
    have hput : (r.put c).place = .quoted := hplace
    rw [doubled, List.flatMap_cons, List.foldlM_append, hfirst,
      Option.bind_eq_bind, Option.bind_some, ← doubled, ih hput]
    simp [put]

end Reader

-- ================================================================ records

/-- A key that is written bare and ends in a carriage return. -/
structure LosesReturn (key : String) : Prop where
  ends : key.toList.getLast? = some '\r'
  bare : ∀ c ∈ key.toList, ¬ IsMark c

instance (key : String) : Decidable (LosesReturn key) :=
  -- the characters of the key are tried, not all that there are
  have := List.decidableBAll (fun c => ¬ IsMark c) key.toList
  decidable_of_iff (key.toList.getLast? = some '\r'
    ∧ ∀ c ∈ key.toList, ¬ IsMark c) ⟨fun h => ⟨h.1, h.2⟩, fun h => ⟨h.1, h.2⟩⟩

/-- What is read of a key. -/
def readBack (key : String) : String :=
  if LosesReturn key then String.ofList key.toList.dropLast else key

/-- A key is read back as it was, unless it loses its carriage return. -/
theorem readBack_eq_self_iff (key : String) :
    readBack key = key ↔ ¬ LosesReturn key := by
  unfold readBack
  split
  · next h =>
    refine iff_of_false (fun heq => ?_) (not_not_intro h)
    -- the key has become shorter by its last character
    have hne : key.toList ≠ [] := fun hnil => by simpa [hnil] using h.ends
    have hlength := congrArg (·.toList.length) heq
    simp only [String.toList_ofList, List.length_dropLast] at hlength
    have hpos := List.length_pos_iff.2 hne
    omega
  · next h => exact iff_of_true rfl h

/-- A line of one field is read as a record of that field. -/
theorem foldlM_csvField (records : List (List String)) (key : String) :
    ((Format.csvField key).toList ++ ['\n']).foldlM Reader.step
      { records := records }
      = some { records := records ++ [[readBack key]] } := by
  rw [List.foldlM_append]
  by_cases h : ∃ c ∈ key.toList, IsMark c
  · have hkept : readBack key = key := by
      rw [readBack_eq_self_iff]
      obtain ⟨c, hc, hmark⟩ := h
      exact fun hloses => hloses.bare c hc hmark
    have hopen : Reader.step { records := records } '"'
        = some { place := .quoted, records := records } := rfl
    rw [csvField_of_mark h, List.cons_append, List.foldlM_cons, hopen,
      Option.bind_eq_bind, Option.bind_some, List.foldlM_append,
        Reader.foldlM_doubled rfl, hkept]
    simp [Reader.step, Reader.endRecord, Reader.endField]
  · have hbare : ∀ c ∈ key.toList, ¬ IsMark c :=
      fun c hc hmark => h ⟨c, hc, hmark⟩
    have hkept : String.ofList (Reader.withoutReturn key.toList)
        = readBack key := by
      unfold Reader.withoutReturn readBack
      by_cases hends : key.toList.getLast? = some '\r'
      · rw [if_pos hends, if_pos ⟨hends, hbare⟩]
      · rw [if_neg hends, if_neg fun hloses => hends hloses.ends,
          String.ofList_toList]
    rw [csvField_of_no_mark hbare, Reader.foldlM_bare rfl hbare]
    simp [Reader.step, Reader.endRecord, Reader.endField, hkept]

/-- Lines of one field each are read as so many records. -/
theorem foldlM_lines (records : List (List String)) (keys : List String) :
    (keys.flatMap fun key => (Format.csvField key).toList ++ ['\n']).foldlM
      Reader.step
        { records := records }
      = some { records := records ++ keys.map fun key => [readBack key] } := by
  induction keys generalizing records with
  | nil => simp
  | cons key keys ih =>
    rw [List.flatMap_cons, List.foldlM_append, foldlM_csvField,
      Option.bind_eq_bind, Option.bind_some, ih]
    simp

-- ================================================================== pages

/-- Texts that are joined by nothing follow each other. -/
theorem toList_joined (texts : List String) :
    (Text.joined "" texts).toList = texts.flatMap String.toList := by
  fun_induction Text.joined "" texts with
  | case1 => rfl
  | case2 s => simp
  | case3 s t rest ih => simp [ih]

/-- A page is the header and the keys, each on a line of its own. -/
theorem toList_csvText {header : String} (h : Format.csvField header = header)
    (keys : List String) :
    (Format.csvText header keys).toList
      = (header :: keys).flatMap fun key =>
        (Format.csvField key).toList ++ ['\n'] := by
  rw [Format.csvText, toList_joined, List.map_cons, List.flatMap_cons,
    List.flatMap_cons, h, List.map_map, List.flatMap_map]
  simp

end Csv

open Csv in
/-- A page of keys as CSV is read as the header and a record for each key, in
order. The record is the key, but for a carriage return at its end if the key
is not quoted; so a page can be read back exactly if it has no such key. -/
theorem csv_page_reads_back (page : ResultPage) (offset : Nat) :
    Csv.read (Format.csv.page page offset)
        = some (["key"] :: page.keys.map fun key => [readBack key])
      ∧ (Csv.read (Format.csv.page page offset)
        = some (["key"] :: page.keys.map fun key => [key])
          ↔ ∀ key ∈ page.keys, ¬ LosesReturn key) := by
  have hread : Csv.read (Format.csv.page page offset)
      = some (["key"] :: page.keys.map fun key => [readBack key]) := by
    show (Format.csvText "key" page.keys).toList.foldlM Reader.step {}
        >>= Reader.finish = _
    rw [toList_csvText rfl, foldlM_lines]
    have hheader : readBack "key" = "key" := rfl
    simp [Reader.finish, hheader]
  refine ⟨hread, ?_⟩
  rw [hread, Option.some.injEq, List.cons.injEq, and_iff_right rfl,
    List.map_inj_left]
  simp only [List.cons.injEq, and_true, readBack_eq_self_iff]

example :
    Csv.read (Format.csv.page ⟨["", "a,b", "\"", "a\r,\n"], 4⟩ 0)
      = some [["key"], [""], ["a,b"], ["\""], ["a\r,\n"]] := rfl

/-- The carriage return that a key ends in is lost with the line break. -/
theorem csv_loses_final_return :
    Csv.read (Format.csv.page ⟨["a\r"], 1⟩ 0) = some [["key"], ["a"]]
      ∧ Csv.read (Format.csv.page ⟨["a\r"], 1⟩ 0) ≠ some [["key"],
        ["a\r"]] := by
  refine ⟨?_, ?_⟩ <;> decide

end IdentitySearch
