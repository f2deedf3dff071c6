/-
Where the parenthesis of a combined selection opens. A selection is text of the
form `SELECT DISTINCT any_id FROM <view> WHERE <condition>`, and no view has a
capital W in its name, so the first `WHERE ` of the text is the one before its
own condition. Hence putting the condition in parentheses together with another
atom, as `Selection.combine` does, writes the same SQL as opening a parenthesis
after the first `WHERE ` of the left text and closing it after the right one
(`Selection.fragment_combine`).
-/
import IdentitySearch.Sql.Query

namespace IdentitySearch

-- ==================================================== the first mark

namespace Fragment

/-- What comes before the first character of a mark is passed over. -/
theorem insertAfterFirst_append {first : Char} {before : List Char}
    (h : first ∉ before) (mark insert rest : List Char) :
    insertAfterFirst (first :: mark) insert (before ++ (first :: mark ++ rest))
      = before ++ (first :: mark ++ insert ++ rest) := by
  induction before with
  | nil => simp [insertAfterFirst, List.isPrefixOf_iff_prefix]
  | cons c before ih =>
    simp only [List.mem_cons, not_or] at h
    have hc : (first :: mark).isPrefixOf
        (c :: (before ++ (first :: mark ++ rest))) = false := by
      rw [List.isPrefixOf, beq_false_of_ne h.1, Bool.false_and]
    rw [List.cons_append, insertAfterFirst, hc,
      if_neg Bool.false_ne_true, ih h.2]
    rfl

/-- The parenthesis opens after the `WHERE ` that has no capital W before
it. -/
theorem openFirstWhere_append {before : String} (h : 'W' ∉ before.toList)
    (f : Fragment) :
    (ofText (before ++ "WHERE ") ++ f).openFirstWhere
      = ofText (before ++ "WHERE ") ++ ofText "(" ++ f := by
  have key := insertAfterFirst_append h "HERE ".toList ['('] f.text.toList
  have text : ((ofText (before ++ "WHERE ") ++ f).openFirstWhere).text
      = before ++ "WHERE " ++ "(" ++ f.text := by
    apply String.toList_inj.1
    simp only [openFirstWhere, text_append, text_ofText, String.toList_append,
      String.toList_ofList, List.append_assoc] at key ⊢
    exact key
  have params : ((ofText (before ++ "WHERE ") ++ f).openFirstWhere).params
      = f.params := rfl
  show (⟨_, _⟩ : Fragment) = ⟨before ++ "WHERE " ++ "(" ++ f.text, f.params⟩
  rw [← text, ← params]
  rfl

end Fragment

-- ========================================================= selections

/-- The name of a view has no capital W. -/
theorem View.not_mem_sqlName (v : View) : 'W' ∉ v.sqlName.toList := by
  cases v <;> (try rename_i k; cases k) <;> decide +kernel

namespace Selection

/-- The text of a selection before its `WHERE `. -/
def stem (s : Selection) : String :=
  "SELECT DISTINCT any_id FROM " ++ s.view.sqlName ++ " "

/-- The text of a selection before its condition has no capital W. -/
theorem not_mem_stem (s : Selection) : 'W' ∉ s.stem.toList :=
  Text.not_mem_append (Text.not_mem_append
    (by decide) s.view.not_mem_sqlName) (by decide +kernel)

/-- The stem and the `WHERE ` are the text of the query before its
condition. -/
theorem stem_append (s : Selection) :
    s.stem ++ "WHERE " = Query.head true .anyId s.view := by
  have before : "SELECT " ++ "DISTINCT " ++ "any_id" ++ " FROM "
      = "SELECT DISTINCT any_id FROM " := by decide +kernel
  have after : " " ++ "WHERE " = " WHERE " := by decide +kernel
  show "SELECT DISTINCT any_id FROM " ++ s.view.sqlName ++ " " ++ "WHERE "
    = "SELECT " ++ "DISTINCT " ++ "any_id" ++ " FROM " ++ s.view.sqlName
      ++ " WHERE "
  rw [before, String.append_assoc, after]

/-- A selection is its stem, the `WHERE ` and its condition. -/
theorem fragment_eq (s : Selection) :
    s.fragment = .ofText (s.stem ++ "WHERE ") ++ s.condition.fragment := by
  rw [stem_append, fragment, query, Query.fragment]

/-- A parenthesis after the first `WHERE ` opens before the condition. -/
theorem openFirstWhere_fragment (s : Selection) :
    s.fragment.openFirstWhere
      = .ofText (s.stem ++ "WHERE ") ++ .ofText "("
        ++ s.condition.fragment := by
  rw [fragment_eq, Fragment.openFirstWhere_append s.not_mem_stem]

/-- Both selections together, as text: the left one with a parenthesis after
its first `WHERE `, the connective, and the right one in parentheses. -/
theorem fragment_combine (left : Selection) (c : Connective)
    (right : Selection) :
    (left.combine c right).fragment
      = left.fragment.openFirstWhere ++ .ofText c.text
        ++ (.ofText "any_id IN (" ++ right.fragment ++ .ofText ")")
        ++ .ofText ")" := by
  have stem : (left.combine c right).stem = left.stem := rfl
  rw [openFirstWhere_fragment, fragment_eq (left.combine c right), stem]
  simp only [combine, Formula.fragment, Atom.fragment, Fragment.append_assoc]
  rfl

end Selection

end IdentitySearch
