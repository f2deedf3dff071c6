/-
The numbers at the left edge of a table, as a reader of its text finds them:
the digits that a line begins with, after the stroke and the blank. Rules, the
header and the further lines of a row have none there, so what is read of a
page is one number for each key and nothing else, whatever the keys are
(`numbersOf_page`).

What a reader does is defined on the text alone (`lineNumber?`, `numbersOf`),
and knows nothing of tables. So there are two things to show:

- The text comes apart into the lines that it was put together from. This needs
  that no line has a line break in it, and a cell may hold one: but a cell is
  divided at its breaks before it is padded, so its pieces have none
  (`splitAll_text`).
- Of these lines only the first one of each row begins with digits. The number
  of a row has one line, so wherever the other cells have more, theirs begin
  with an empty cell (`filterMap_rowLines_number`); a header does not begin
  with a digit.

The rows are then followed by induction, in step with the rules between them
(`filterMap_bodyLines`), and a page adds its caption below.
-/
import IdentitySearch.Report.Format
import IdentitySearch.Proofs.Json.Numerals
import IdentitySearch.Proofs.Text.Pieces

namespace IdentitySearch

open Number

namespace Table

-- ================================================================ reading

/-- The number at the left edge of a line, if there is one. -/
def lineNumber? : List Char → Option Nat
  | '|' :: ' ' :: rest =>
    if (spanDigits rest).1 = [] then none
      else some (ofDigits (spanDigits rest).1)
  | _ => none

/-- The numbers at the left edge of a text, from the top. -/
def numbersOf (text : String) : List Nat :=
  (Text.splitAll '\n' text.toList).filterMap lineNumber?

-- ================================================================== lines

variable (w : Nat) (ws : List Nat)

/-- A line begins with what its first cell has there. -/
theorem exists_line_eq (part : List Char) (parts : List (List Char)) :
    ∃ rest, line (w :: ws) (part :: parts)
      = '|' :: ' ' :: (part ++ ' ' :: rest) := by
  have hpadded : ∃ rest,
      ' ' :: padded w part ++ [' '] = ' ' :: (part ++ ' ' :: rest) := by
    refine ⟨List.replicate (w - Text.width part) ' ', ?_⟩
    rw [padded, List.cons_append, List.append_assoc, ← List.replicate_succ',
      List.replicate_succ]
  obtain ⟨rest, hrest⟩ := hpadded
  unfold line
  rw [List.zipWith_cons_cons, hrest]
  cases List.zipWith
    (fun w part => ' ' :: padded w part ++ [' ']) ws parts with
  | nil => exact ⟨rest ++ ['|'], by simp⟩
  | cons next more =>
    exact ⟨rest ++ '|' :: (['|'].intercalate (next :: more) ++ ['|']), by simp⟩

/-- A line whose first cell is a number is read as this number. -/
theorem lineNumber?_digits (n : Nat) (parts : List (List Char)) :
    lineNumber? (line (w :: ws) (digits n :: parts)) = some n := by
  obtain ⟨rest, hline⟩ := exists_line_eq w ws (digits n) parts
  have hspan : spanDigits (digits n ++ ' ' :: rest)
      = (digits n, ' ' :: rest) :=
    spanDigits_digits_append n (by simp [isDigit])
  rw [hline, lineNumber?, hspan, if_neg (digits_ne_nil n), ofDigits_digits]

/-- A line whose first cell does not begin with a digit has no number, -/
theorem lineNumber?_of_not_digit {part : List Char}
    (h : ∀ c ∈ part.head?, isDigit c = false) (parts : List (List Char)) :
    lineNumber? (line (w :: ws) (part :: parts)) = none := by
  obtain ⟨rest, hline⟩ := exists_line_eq w ws part parts
  have hspan : (spanDigits (part ++ ' ' :: rest)).1 = [] := by
    cases part with
    | nil => rfl
    | cons c more =>
      have hc : isDigit c = false := h c rfl
      simp [spanDigits, hc]
  rw [hline, lineNumber?, if_pos hspan]

/-- a rule has none, -/
theorem lineNumber?_rule (ends joint : Char) :
    lineNumber? (rule ends joint (w :: ws)) = none := by
  have hrule : ∃ rest, rule ends joint (w :: ws) = ends :: '-' :: rest := by
    unfold rule
    rw [List.map_cons, List.replicate_succ]
    -- a rule begins with a stroke and a dash, whether columns follow or not
    cases ws.map fun w => List.replicate (w + 2) '-' with
    | nil => exact ⟨List.replicate (w + 1) '-' ++ [ends], by simp⟩
    | cons next more =>
      exact ⟨List.replicate (w + 1) '-'
        ++ joint :: ([joint].intercalate (next :: more) ++ [ends]), by simp⟩
  obtain ⟨rest, hrest⟩ := hrule
  rw [hrest]
  simp [lineNumber?]

/-- and neither has the rule below the header. -/
theorem lineNumber?_headerRule (ws : List Nat) :
    lineNumber? (headerRule ws) = none :=
  rfl

-- =================================================================== rows

/-- The largest of some numbers is not below the one it starts from: a row has
as many lines as its first cell at least. -/
theorem le_foldl_max {α : Type} (f : α → Nat) (l : List α) (m : Nat) :
    m ≤ l.foldl (fun m a => max m (f a)) m := by
  induction l generalizing m with
  | nil => exact Nat.le_refl m
  | cons a l ih => exact Nat.le_trans (Nat.le_max_left m (f a)) (ih _)

/-- The lines of a row begin with those of its first cell, and with nothing
below them. -/
theorem rowLines_cons (ws : List Nat) (cell : String) (cells : List String) :
    ∃ height, (cellLines cell).length ≤ height ∧ rowLines ws (cell :: cells)
      = (List.range height).map fun i =>
          line ws ((cellLines cell).getD i [] :: cells.map fun c =>
            (cellLines c).getD i []) := by
  have hheight := le_foldl_max List.length (cells.map cellLines)
      (max 0 (cellLines cell).length)
  rw [Nat.zero_max] at hheight
  refine ⟨_, hheight, ?_⟩
  unfold rowLines
  simp only [List.map_cons, List.map_map, List.foldl_cons, Nat.zero_max]
  rfl

theorem toList_toString (n : Nat) : (toString n).toList = digits n :=
  Nat.toList_repr

theorem not_mem_toString (n : Nat) : '\n' ∉ (toString n).toList := by
  intro hmem
  rw [toList_toString] at hmem
  exact absurd (isDigit_of_mem_digits hmem) (by decide)

theorem cellLines_toString (n : Nat) :
    cellLines (toString n) = [digits n] := by
  rw [cellLines, Text.splitAll_of_not_mem (not_mem_toString n),
    toList_toString]

/-- A row that begins with a number has it at its edge, and no other one. -/
theorem filterMap_rowLines_number (n : Nat) (cells : List String) :
    (rowLines (w :: ws) (toString n :: cells)).filterMap lineNumber?
      = [n] := by
  obtain ⟨height, hheight, hlines⟩ :=
    rowLines_cons (w :: ws) (toString n) cells
  rw [cellLines_toString] at hheight hlines
  obtain ⟨below, rfl⟩ : ∃ below, height = below + 1 :=
    Nat.exists_eq_add_of_le' hheight
  have hbelow : ((List.range below).map Nat.succ).filterMap
      (fun i => lineNumber? (line (w :: ws)
      ([digits n].getD i [] :: cells.map fun c => (cellLines c).getD i [])))
        = [] := by
    rw [List.filterMap_eq_nil_iff]
    intro i hi
    obtain ⟨j, -, rfl⟩ := List.mem_map.1 hi
    show lineNumber? (line (w :: ws) ([] :: _)) = none
    exact lineNumber?_of_not_digit w ws (by simp) _
  rw [hlines, List.filterMap_map, List.range_succ_eq_map, List.filterMap_cons]
  simp only [Function.comp_def]
  rw [hbelow]
  simp only [List.getD_cons_zero, lineNumber?_digits]

/-- A row whose first cell has no digit at the edge has no number there. -/
theorem filterMap_rowLines_title {cell : String}
    (h : ∀ part ∈ cellLines cell, ∀ c ∈ part.head?, isDigit c = false)
    (cells : List String) :
    (rowLines (w :: ws) (cell :: cells)).filterMap lineNumber? = [] := by
  obtain ⟨height, -, hlines⟩ := rowLines_cons (w :: ws) cell cells
  rw [hlines, List.filterMap_map, List.filterMap_eq_nil_iff]
  intro i _
  refine lineNumber?_of_not_digit w ws (fun c hc => ?_) _
  rw [List.getD_eq_getElem?_getD] at hc
  cases hpart : (cellLines cell)[i]? with
  | none =>
    rw [hpart] at hc
    cases hc
  | some part =>
    rw [hpart] at hc
    exact h part (List.mem_of_getElem? hpart) c hc

/-- The numbers of rows that begin with them. -/
theorem filterMap_bodyLines (rows : List (Nat × List String)) :
    (bodyLines (w :: ws)
      (rows.map fun row => toString row.1 :: row.2)).filterMap lineNumber?
      = rows.map Prod.fst := by
  induction rows with
  | nil => rfl
  | cons row rows ih =>
    cases rows with
    | nil => exact filterMap_rowLines_number w ws row.1 row.2
    | cons next more =>
      simp only [List.map_cons] at ih ⊢
      rw [bodyLines, List.filterMap_append, filterMap_rowLines_number,
        List.filterMap_cons, lineNumber?_rule, ih]
      rfl

-- =================================================================== texts

/-- Strokes with marks between are one line. -/
theorem not_mem_strokes {mark stroke : Char} (hmark : '\n' ≠ mark)
    (hstroke : '\n' ≠ stroke) (ws : List Nat) :
    '\n' ∉ [mark].intercalate
      (ws.map fun w => List.replicate (w + 2) stroke) := by
  intro h
  rcases Text.mem_intercalate h with h | ⟨strokes, hstrokes, hmem⟩
  · exact hmark h
  · obtain ⟨w, -, rfl⟩ := List.mem_map.1 hstrokes
    exact hstroke (List.eq_of_mem_replicate hmem)

/-- No rule has a line break in it, -/
theorem not_mem_rule {ends joint : Char} (hends : '\n' ≠ ends)
    (hjoint : '\n' ≠ joint) (ws : List Nat) : '\n' ∉ rule ends joint ws := by
  simp [rule, hends, not_mem_strokes hjoint (by decide : '\n' ≠ '-') ws]

/-- nor has the one below the header, -/
theorem not_mem_headerRule (ws : List Nat) : '\n' ∉ headerRule ws := by
  simp [headerRule,
    not_mem_strokes (by decide : '\n' ≠ '=') (by decide : '\n' ≠ '=') ws]

/-- nor has a line of cells, if the cells have none. -/
theorem not_mem_line (ws : List Nat) {parts : List (List Char)}
    (h : ∀ part ∈ parts, '\n' ∉ part) : '\n' ∉ line ws parts := by
  intro hmem
  rw [line, List.cons_append, List.mem_cons, List.mem_append,
    List.mem_singleton] at hmem
  rcases hmem with hmem | hmem | hmem
  · exact absurd hmem (by decide)
  · rcases Text.mem_intercalate hmem with hmem | ⟨shown, hshown, hmem⟩
    · exact absurd hmem (by decide)
    · rw [← List.map_uncurry_zip_eq_zipWith] at hshown
      obtain ⟨⟨w, part⟩, hpair, rfl⟩ := List.mem_map.1 hshown
      have hpart := h part (List.of_mem_zip hpair).2
      simp [padded, hpart] at hmem
  · exact absurd hmem (by decide)

/-- The lines of a row have no breaks, since cells are divided at theirs. -/
theorem not_mem_of_mem_rowLines {ws : List Nat} {row : List String}
    {l : List Char} (h : l ∈ rowLines ws row) : '\n' ∉ l := by
  obtain ⟨i, -, rfl⟩ := List.mem_map.1 h
  refine not_mem_line ws fun part hpart => ?_
  obtain ⟨parts, hparts, rfl⟩ := List.mem_map.1 hpart
  obtain ⟨cell, -, rfl⟩ := List.mem_map.1 hparts
  rw [List.getD_eq_getElem?_getD]
  cases hline : (cellLines cell)[i]? with
  | none => exact List.not_mem_nil
  | some part =>
    exact Text.not_mem_of_mem_splitAll (List.mem_of_getElem? hline)

/-- So no line of the body has one. -/
theorem not_mem_of_mem_bodyLines {ws : List Nat} {rows : List (List String)}
    {l : List Char} (h : l ∈ bodyLines ws rows) : '\n' ∉ l := by
  fun_induction bodyLines ws rows with
  | case1 => exact absurd h List.not_mem_nil
  | case2 row => exact not_mem_of_mem_rowLines h
  | case3 row next rest ih =>
    rw [List.mem_append, List.mem_cons] at h
    rcases h with h | rfl | h
    · exact not_mem_of_mem_rowLines h
    · exact not_mem_rule (by decide) (by decide) ws
    · exact ih h

/-- The lines of a table are the lines of its text. -/
theorem splitAll_text (t : Table) :
    Text.splitAll '\n' t.text.toList = t.lines := by
  have hfree : ∀ l ∈ t.lines, '\n' ∉ l := by
    intro l hl
    simp only [lines, List.mem_append, List.mem_cons, List.not_mem_nil,
      or_false] at hl
    rcases hl with ((rfl | hl) | rfl | hl) | rfl
    · exact not_mem_rule (by decide) (by decide) _
    · exact not_mem_of_mem_rowLines hl
    · exact not_mem_headerRule _
    · exact not_mem_of_mem_bodyLines hl
    · exact not_mem_rule (by decide) (by decide) _
  have hsome : t.lines ≠ [] := by simp [lines]
  rw [text, String.toList_ofList, Text.splitAll_intercalate hfree hsome]

/-- A table is as wide as its header if all rows are. -/
theorem length_widths {t : Table}
    (h : ∀ row ∈ t.rows, row.length = t.header.length) :
    t.widths.length = t.header.length := by
  have hfold : ∀ (rows : List (List String)) (ws : List Nat),
      (∀ row ∈ rows, row.length = ws.length) →
      (rows.foldl (fun ws row => List.zipWith max ws (row.map cellWidth))
        ws).length = ws.length := by
    intro rows
    induction rows with
    | nil => exact fun _ _ => rfl
    | cons row rows ih =>
      intro ws hrows
      rw [List.forall_mem_cons] at hrows
      have hlength : (List.zipWith max ws (row.map cellWidth)).length
          = ws.length := by
        simp [hrows.1]
      rw [List.foldl_cons, ih _ (by rw [hlength]; exact hrows.2), hlength]
  have hheader : (t.header.map cellWidth).length = t.header.length :=
    List.length_map _
  rw [widths, hfold _ _ (by rw [hheader]; exact h), hheader]

/-- The numbers of a table are those that its rows begin with, if its first
title has no digit at the edge. -/
theorem filterMap_lines {title : String} {titles : List String}
    (rows : List (Nat × List String))
    (htitle : ∀ part ∈ cellLines title, ∀ c ∈ part.head?, isDigit c = false)
    (hlengths : ∀ row ∈ rows, row.2.length = titles.length) :
    (Table.mk (title :: titles)
      (rows.map fun row => toString row.1 :: row.2)).lines.filterMap
        lineNumber?
      = rows.map Prod.fst := by
  have hwidths : (Table.mk (title :: titles)
      (rows.map fun row => toString row.1 :: row.2)).widths.length
        = titles.length + 1 := by
    refine length_widths fun row hrow => ?_
    obtain ⟨given, hgiven, rfl⟩ := List.mem_map.1 hrow
    rw [List.length_cons, hlengths given hgiven]
    rfl
  obtain ⟨w, ws, hws⟩ := List.exists_cons_of_length_eq_add_one hwidths
  unfold lines
  rw [hws]
  simp only [List.filterMap_append, List.filterMap_cons, List.filterMap_nil,
    lineNumber?_rule, lineNumber?_headerRule,
    filterMap_rowLines_title w ws htitle, filterMap_bodyLines, List.nil_append,
    List.append_nil]

-- =================================================================== pages

/-- What does not begin with a stroke is no line of a table. -/
theorem lineNumber?_of_head?_ne {l : List Char} (h : l.head? ≠ some '|') :
    lineNumber? l = none := by
  unfold lineNumber?
  split
  · exact absurd rfl h
  · rfl

/-- The lines of a text and of what stands below it are read one after the
other. -/
theorem numbersOf_append (text more : String) :
    numbersOf (text ++ "\n" ++ more) = numbersOf text ++ numbersOf more := by
  have hchars : (text ++ "\n" ++ more).toList
      = text.toList ++ '\n' :: more.toList := by simp
  rw [numbersOf, hchars, Text.splitAll_append_mark, List.filterMap_append]
  rfl

/-- A line that does not begin with a stroke has no number. -/
theorem numbersOf_of_head?_ne {text : String} (hfree : '\n' ∉ text.toList)
    (hedge : text.toList.head? ≠ some '|') : numbersOf text = [] := by
  rw [numbersOf, Text.splitAll_of_not_mem hfree, List.filterMap_cons,
    lineNumber?_of_head?_ne hedge]
  rfl

end Table

open Table in
/-- In a table of numbered keys the reader finds the numbers of the keys, one
after the other. -/
theorem Format.numbersOf_table (offset : Nat) (keys : List String) :
    numbersOf (Table.mk ["#", "key"] (Format.numbered offset keys)).text
      = List.range' (offset + 1) keys.length := by
  have hrows : Format.numbered offset keys
      = (keys.mapIdx fun i key => (offset + i + 1, [key])).map fun row =>
        toString row.1 :: row.2 := by
    simp [Format.numbered, List.mapIdx_eq_zipIdx_map]
  have hnumbers :
      (keys.mapIdx fun i key => (offset + i + 1, [key])).map Prod.fst
      = List.range' (offset + 1) keys.length := by
    refine List.ext_getElem (by simp) fun i _ _ => ?_
    rw [List.getElem_map, List.getElem_mapIdx, List.getElem_range']
    omega
  have htitle : cellLines "#" = [['#']] := Text.splitAll_of_not_mem (by decide)
  rw [numbersOf, splitAll_text, hrows, filterMap_lines, hnumbers]
  · rw [htitle, List.forall_mem_singleton]
    intro c hc
    cases hc
    rfl
  · intro row hrow
    obtain ⟨i, hi, rfl⟩ := List.mem_mapIdx.1 hrow
    rfl

open Table in
/-- On a page the keys are numbered from the one after those before it. -/
theorem Format.numbersOf_page (page : ResultPage) (offset : Nat) :
    numbersOf (Format.table.page page offset ++ "\n")
      = List.range' (offset + 1) page.keys.length := by
  have hlast : numbersOf (Format.table.page page offset ++ "\n")
      = numbersOf (Format.table.page page offset) := by
    rw [← String.append_empty (s := _ ++ "\n"), numbersOf_append]
    exact List.append_nil _
  rw [hlast, Format.page]
  by_cases hnone : page.keys = []
  · -- without keys there is no table, and the caption begins with no stroke
    rw [if_pos (List.isEmpty_iff.2 hnone), hnone]
    refine numbersOf_of_head?_ne ?_ (by simp)
    exact Text.not_mem_append
      (Text.not_mem_append (by decide) (not_mem_toString _)) (by decide)
  · have hcaption : ∀ table a b c d : String, table ++ "\n" ++ a ++ b ++ c ++ d
        = table ++ "\n" ++ (a ++ (b ++ (c ++ d))) := by
      simp only [String.append_assoc, implies_true]
    rw [if_neg (mt List.isEmpty_iff.1 hnone), hcaption, numbersOf_append,
      numbersOf_table]
    -- below the table there is the caption, which begins with a digit
    refine (congrArg _ (numbersOf_of_head?_ne ?_ ?_)).trans (List.append_nil _)
    · refine Text.not_mem_append (not_mem_toString _)
        (Text.not_mem_append (by decide) ?_)
      exact Text.not_mem_append (not_mem_toString _) (by decide)
    · obtain ⟨d, more, hdigits⟩ :=
        List.exists_cons_of_ne_nil (digits_ne_nil page.keys.length)
      have hd : isDigit d = true :=
        isDigit_of_mem_digits (hdigits ▸ List.mem_cons_self)
      rw [String.toList_append, toList_toString, hdigits, List.cons_append,
        List.head?_cons, Ne, Option.some.injEq]
      rintro rfl
      exact absurd hd (by decide)

end IdentitySearch
