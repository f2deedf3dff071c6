/-
Texts in pieces. The first mark of a text, if it has one, cuts it in two, and
the left side has no mark (`splitFirst?_eq_some_iff`). A text is cut at all its
marks as the library cuts lists (`splitAll_eq_splitOn`): each side of a mark is
cut by itself, and what has no mark is one piece. So texts without the mark,
put one after the other with marks between, come back as they were
(`splitAll_intercalate`).

A scope is cut at its first at sign and a sort clause at its first colon; the
values of an enumeration are cut at all semicolons, and a printed table at the
ends of its lines. Both ways of cutting are therefore described for any mark,
by equations that say what a text must look like to be cut in a given way.
-/
import IdentitySearch.Text.Ascii

namespace IdentitySearch.Text

variable {mark : Char} {cs : List Char}

-- ============================================================ two sides

/-- The first mark splits a text into what has no mark, and the rest. -/
theorem splitFirst?_eq_some_iff {text left right : List Char} :
    splitFirst? mark text = some (left, right)
      ↔ text = left ++ mark :: right ∧ mark ∉ left := by
  induction text generalizing left with
  | nil => simp [splitFirst?]
  | cons c rest ih =>
    unfold splitFirst?
    by_cases hc : c = mark
    · rw [if_pos hc]
      cases left with
      | nil => simp [hc]
      | cons a left =>
        simp only [Option.some.injEq, Prod.mk.injEq, List.cons_append,
          List.cons.injEq, List.mem_cons, not_or]
        constructor
        · intro hgiven
          rcases hgiven with ⟨h, -⟩
          cases h
        · intro hgiven
          rcases hgiven with ⟨⟨ha, -⟩, hmark, -⟩
          exact absurd (hc.symm.trans ha) hmark
    · rw [if_neg hc, Option.map_eq_some_iff]
      cases left with
      | nil => simp [hc]
      | cons a left =>
        simp only [Prod.exists, Prod.mk.injEq, List.cons.injEq,
          List.cons_append, List.mem_cons, not_or]
        constructor
        · intro hgiven
          rcases hgiven with ⟨l, r, h, ⟨rfl, rfl⟩, rfl⟩
          obtain ⟨hrest, hmark⟩ := ih.1 h
          exact ⟨⟨rfl, hrest⟩, fun h => hc h.symm, hmark⟩
        · intro hgiven
          rcases hgiven with ⟨⟨rfl, hrest⟩, -, hmark⟩
          exact ⟨left, right, ih.2 ⟨hrest, hmark⟩, ⟨rfl, rfl⟩, rfl⟩

/-- A text without the mark is not split, and no other one is. -/
theorem splitFirst?_eq_none_iff {text : List Char} :
    splitFirst? mark text = none ↔ mark ∉ text := by
  constructor
  · intro h hmark
    obtain ⟨left, right, htext, hleft⟩ := List.eq_append_cons_of_mem hmark
    rw [splitFirst?_eq_some_iff.2 ⟨htext, hleft⟩] at h
    cases h
  · intro h
    cases hsplit : splitFirst? mark text with
    | none => rfl
    | some sides =>
      obtain ⟨htext, -⟩ := splitFirst?_eq_some_iff.1 hsplit
      rw [htext] at h
      exact absurd (List.mem_append_right _ List.mem_cons_self) h

-- =========================================================== all pieces

/-- To split a text at all marks is what the library does. -/
theorem splitAll_eq_splitOn (mark : Char) (cs : List Char) :
    splitAll mark cs = cs.splitOn mark := by
  induction cs with
  | nil => rfl
  | cons c rest ih =>
    rw [List.splitOn_cons_eq_if_modifyHead, splitAll, ih]
    by_cases hc : c = mark
    · rw [if_pos hc, if_pos (beq_iff_eq.2 hc)]
    · obtain ⟨piece, pieces, hpieces⟩ :=
        List.exists_cons_of_ne_nil (splitAll_ne_nil mark rest)
      rw [ih] at hpieces
      rw [if_neg hc, if_neg (mt beq_iff_eq.1 hc), hpieces]
      rfl

/-- A mark divides a text, and each side is split by itself. -/
theorem splitAll_append_mark (left right : List Char) :
    splitAll mark (left ++ mark :: right)
      = splitAll mark left ++ splitAll mark right := by
  simp only [splitAll_eq_splitOn, List.splitOn_append_cons_self]

theorem splitAll_of_not_mem (h : mark ∉ cs) : splitAll mark cs = [cs] := by
  rw [splitAll_eq_splitOn, List.splitOn_eq_singleton h]

/-- Marks between texts are taken out again, if there are no others. -/
theorem splitAll_intercalate {pieces : List (List Char)}
    (h : ∀ piece ∈ pieces, mark ∉ piece) (hne : pieces ≠ []) :
    splitAll mark ([mark].intercalate pieces) = pieces := by
  rw [splitAll_eq_splitOn, List.splitOn_intercalate mark h hne]

/-- No piece has the mark in it. -/
theorem not_mem_of_mem_splitAll {piece : List Char}
    (h : piece ∈ splitAll mark cs) :
    mark ∉ piece := by
  induction cs generalizing piece with
  | nil =>
    rw [List.mem_singleton.1 h]
    exact List.not_mem_nil
  | cons c rest ih =>
    by_cases hc : c = mark
    · rw [splitAll, if_pos hc] at h
      rcases List.mem_cons.1 h with rfl | h
      · exact List.not_mem_nil
      · exact ih h
    · obtain ⟨first, others, hpieces⟩ :=
        List.exists_cons_of_ne_nil (splitAll_ne_nil mark rest)
      rw [hpieces] at ih
      simp only [splitAll, if_neg hc, hpieces] at h
      rcases List.mem_cons.1 h with rfl | h
      · rw [List.mem_cons, not_or]
        exact ⟨Ne.symm hc, ih List.mem_cons_self⟩
      · exact ih (List.mem_cons_of_mem first h)

/-- What stands in texts with marks between stands in one of them or is the
mark. -/
theorem mem_intercalate {pieces : List (List Char)} {c : Char}
    (h : c ∈ [mark].intercalate pieces) :
    c = mark ∨ ∃ piece ∈ pieces, c ∈ piece := by
  induction pieces with
  | nil => exact absurd h List.not_mem_nil
  | cons piece pieces ih =>
    cases pieces with
    | nil =>
      rw [List.intercalate_singleton] at h
      exact .inr ⟨piece, List.mem_cons_self, h⟩
    | cons next more =>
      rw [List.intercalate_cons_cons, List.mem_append, List.mem_append,
        List.mem_singleton] at h
      rcases h with (h | rfl) | h
      · exact .inr ⟨piece, List.mem_cons_self, h⟩
      · exact .inl rfl
      · rcases ih h with rfl | ⟨other, hother, hc⟩
        · exact .inl rfl
        · exact .inr ⟨other, List.mem_cons_of_mem _ hother, hc⟩

end IdentitySearch.Text
