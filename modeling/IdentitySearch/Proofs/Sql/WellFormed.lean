/-
SQL that a database can parse, as far as placeholders and parentheses go. A
fragment is well formed if it has one value for every placeholder, closes every
parenthesis that it opens and none that it does not (`Fragment.WellFormed`).
Pieces of a fragment need not be: a text may open a parenthesis that a later
one closes. So the pieces are followed with the number of parentheses that are
open before and after each of them (`Fragment.Nests`), and where a run of
pieces begins and ends with none, the whole is well formed.

Placeholders have no numbers, so values are bound in the order of the text. A
fragment that is written from parts, with text in between that binds nothing,
binds the values of its parts one part after the other
(`Fragment.WrittenFrom`). Both are followed at once through the pieces of a
fragment (`Fragment.Built`), up to the whole (`Fragment.Assembled`).

# How the pieces are followed

- A text without any of the three marks is `Text.Plain`. The names of views,
  columns and comparators are, whatever they are names of, so nothing that is
  put between two parts for its name alone can disturb the count.
- A literal with parentheses is followed by the count of `Text.openAfter?`,
  which runs; a piece with literals in it is then a chain of `append`, each
  with the count that the last one left.
- A part is closed in itself, and may therefore stand within any number of
  parentheses (`Nests.within`, `Nests.inside`).

Formulas, atoms and queries are built from each other, so that their fragments
are well formed is one induction over the three (`Formula.nests`, `Atom.nests`,
`Query.nests`). Statements are put together from them elsewhere.
-/
import Mathlib.Data.List.Forall2
import Mathlib.Data.List.Infix
import IdentitySearch.Sql.Parentheses

namespace IdentitySearch

-- ================================================================ texts

namespace Text

/-- A text without placeholders and parentheses. -/
def Plain (s : String) : Prop :=
  '?' ∉ s.toList ∧ '(' ∉ s.toList ∧ ')' ∉ s.toList

/-- Text without marks stays so where it is continued with such text. -/
theorem Plain.append {s t : String} (hs : Plain s) (ht : Plain t) :
    Plain (s ++ t) :=
  ⟨not_mem_append hs.1 ht.1, not_mem_append hs.2.1 ht.2.1,
    not_mem_append hs.2.2 ht.2.2⟩

/-- A literal is looked through as the list of its characters. -/
theorem not_mem_literal {c : Char} {s : String} {cs : List Char}
    (hs : s = .ofList cs) (h : c ∉ cs) : c ∉ s.toList := by
  rw [hs, String.toList_ofList]
  exact h

/-- Whether a literal is without marks is decided on its characters. -/
theorem Plain.literal {s : String} {cs : List Char} (hs : s = .ofList cs)
    (h : '?' ∉ cs ∧ '(' ∉ cs ∧ ')' ∉ cs) : Plain s :=
  ⟨not_mem_literal hs h.1, not_mem_literal hs h.2.1, not_mem_literal hs h.2.2⟩

theorem plain_empty : Plain "" :=
  .literal rfl (by decide)

/-- What is joined with commas has no marks, if the comma and the members have
none. -/
theorem plain_joined {separator : String} (hseparator : Plain separator)
    {texts : List String} (htexts : ∀ s ∈ texts, Plain s) :
    Plain (joined separator texts) := by
  induction texts with
  | nil => exact plain_empty
  | cons s rest ih =>
    rw [List.forall_mem_cons] at htexts
    cases rest with
    | nil => exact htexts.1
    | cons t rest => exact (htexts.1.append hseparator).append (ih htexts.2)

/-- A number is written in digits. -/
theorem plain_toString (n : Nat) : Plain (toString n) := by
  have hdigit : ∀ c ∈ (toString n).toList, c.isDigit = true := by
    intro c hc
    rw [Nat.toString_eq_repr, Nat.toList_repr] at hc
    exact Nat.isDigit_of_mem_toDigits (by omega) (by omega) hc
  refine ⟨fun h => ?_, fun h => ?_, fun h => ?_⟩
  all_goals
    have := hdigit _ h
    revert this
    decide

/-- A text that begins where `before` parentheses are open closes no others
than these and its own, and leaves `after` open. -/
structure Nests (before after : Nat) (text : List Char) : Prop where
  opened : ∀ start, start <+: text → start.count ')' ≤ before + start.count '('
  closed : before + text.count '(' = after + text.count ')'

/-- Counts chain: what one text leaves open, the next one may close. -/
theorem Nests.append {n m k : Nat} {text more : List Char} (h : Nests n m text)
    (hmore : Nests m k more) : Nests n k (text ++ more) := by
  refine ⟨fun start hstart => ?_, ?_⟩
  · obtain ⟨rest, hrest⟩ := hstart
    -- the start ends within the first text, or goes on into the second
    rcases List.append_eq_append_iff.1 hrest with
      ⟨left, hleft, -⟩ | ⟨right, rfl, hright⟩
    · exact h.opened start ⟨left, hleft.symm⟩
    · have := hmore.opened right ⟨rest, hright.symm⟩
      have := h.closed
      rw [List.count_append, List.count_append]
      omega
  · have := h.closed
    have := hmore.closed
    rw [List.count_append, List.count_append]
    omega

/-- Where more parentheses are open before, more stay open. -/
theorem Nests.within {n m : Nat} {text : List Char} (h : Nests n m text)
    (outer : Nat) :
    Nests (outer + n) (outer + m) text := by
  refine ⟨fun start hstart => ?_, ?_⟩
  · have := h.opened start hstart
    omega
  · have := h.closed
    omega

/-- The number of parentheses that are open behind a text, unless it closes one
too many. -/
def openAfter? : Nat → List Char → Option Nat
  | before, [] => some before
  | before, c :: rest =>
    if c = '(' then openAfter? (before + 1) rest
    else if c = ')' then
      match before with
      | 0 => none
      | before + 1 => openAfter? before rest
    else openAfter? before rest

/-- A text that opens, closes or does neither by its one character. -/
theorem nests_singleton {n m : Nat} {c : Char} (hclose : c = ')' → 0 < n)
    (hclosed : n + [c].count '(' = m + [c].count ')') : Nests n m [c] := by
  refine ⟨fun start hstart => ?_, hclosed⟩
  rcases List.prefix_cons_iff.1 hstart with rfl | ⟨rest, rfl, hrest⟩
  · exact Nat.zero_le _
  · rw [List.prefix_nil.1 hrest]
    by_cases hc : c = ')'
    · have := hclose hc
      rw [hc, List.count_singleton_self]
      omega
    · rw [List.count_eq_zero.2 fun hmem => hc (List.mem_singleton.1 hmem).symm]
      exact Nat.zero_le _

/-- Following a text character by character tells what it leaves open. Each
character is a text by itself, so the induction is `Nests.append` once more. -/
theorem nests_of_openAfter? {n m : Nat} {text : List Char}
    (h : openAfter? n text = some m) :
    Nests n m text := by
  induction text generalizing n with
  | nil =>
    cases h
    refine ⟨fun start hstart => ?_, rfl⟩
    rw [List.prefix_nil.1 hstart]
    exact Nat.zero_le _
  | cons c rest ih =>
    unfold openAfter? at h
    split at h
    · -- a parenthesis more is open
      next hopen =>
      have hfirst : Nests n (n + 1) [c] :=
        nests_singleton (fun hclose => by rw [hopen] at hclose; cases hclose)
          (by rw [hopen]; rfl)
      exact hfirst.append (ih h)
    · next hopen =>
      split at h
      · -- a parenthesis is closed, if one is open: else nothing was found
        next hclose =>
        cases n with
        | zero => cases h
        | succ k =>
          have hfirst : Nests (k + 1) k [c] :=
            nests_singleton (fun _ => Nat.succ_pos k) (by rw [hclose]; rfl)
          exact hfirst.append (ih h)
      · -- any other character leaves the count alone
        next hclose =>
        have hfirst : Nests n n [c] := by
          refine nests_singleton (fun hc => absurd hc hclose) ?_
          rw [List.count_eq_zero.2 fun hmem => hopen
            (List.mem_singleton.1 hmem).symm, List.count_eq_zero.2 fun hmem =>
              hclose (List.mem_singleton.1 hmem).symm]
        exact hfirst.append (ih h)

/-- A text without parentheses leaves open what was open before it. -/
theorem Plain.nests {s : String} (h : Plain s) : Nests 0 0 s.toList := by
  refine ⟨fun start hstart => ?_, ?_⟩
  · rw [List.count_eq_zero.2 fun hmem => h.2.2 (hstart.subset hmem)]
    exact Nat.zero_le _
  · rw [List.count_eq_zero.2 h.2.1, List.count_eq_zero.2 h.2.2]

end Text

-- ============================================================ fragments

namespace Fragment

/-- A fragment has one value for every placeholder, and of its parentheses none
is closed before it is opened and none is left open. -/
structure WellFormed (f : Fragment) : Prop where
  placeholders : f.text.toList.count '?' = f.params.length
  opened : ∀ start, start <+: f.text.toList → start.count ')' ≤ start.count '('
  closed : f.text.toList.count '(' = f.text.toList.count ')'

/-- A fragment has one value for every placeholder, and `after` parentheses are
open behind it if `before` were. -/
structure Nests (before after : Nat) (f : Fragment) : Prop where
  placeholders : f.text.toList.count '?' = f.params.length
  parentheses : Text.Nests before after f.text.toList

/-- A fragment that begins and ends with nothing open is well formed: this is
where the count is let go of. -/
theorem Nests.wellFormed {f : Fragment} (h : f.Nests 0 0) : f.WellFormed := by
  refine ⟨h.placeholders, fun start hstart => ?_, ?_⟩
  · have := h.parentheses.opened start hstart
    omega
  · have := h.parentheses.closed
    omega

/-- Fragments chain as their texts do, and the values of the second come behind
those of the first. -/
theorem Nests.append {n m k : Nat} {f g : Fragment} (hf : f.Nests n m)
    (hg : g.Nests m k) :
    (f ++ g).Nests n k := by
  refine ⟨?_, ?_⟩
  · rw [text_append, params_append, String.toList_append, List.count_append,
      List.length_append, hf.placeholders, hg.placeholders]
  · rw [text_append, String.toList_append]
    exact hf.parentheses.append hg.parentheses

/-- Around a fragment any number of parentheses may be open already. -/
theorem Nests.within {n m : Nat} {f : Fragment} (h : f.Nests n m)
    (outer : Nat) :
    f.Nests (outer + n) (outer + m) :=
  ⟨h.placeholders, h.parentheses.within outer⟩

/-- What is nested in itself may stand in a parenthesis. -/
theorem Nests.inside {f : Fragment} (h : f.Nests 0 0) : f.Nests 1 1 :=
  h.within 1

/-- A literal that binds nothing. -/
theorem Nests.literal {n m : Nat} {s : String} {cs : List Char}
    (hs : s = .ofList cs) (h : '?' ∉ cs ∧ Text.openAfter? n cs = some m) :
    (ofText s).Nests n m := by
  subst hs
  refine ⟨?_, ?_⟩
  · rw [text_ofText, String.toList_ofList]
    exact List.count_eq_zero.2 h.1
  · rw [text_ofText, String.toList_ofList]
    exact Text.nests_of_openAfter? h.2

/-- A text without marks is a fragment that binds nothing. -/
theorem Nests.plain {s : String} (h : Text.Plain s) :
    (Fragment.ofText s).Nests 0 0 :=
  ⟨List.count_eq_zero.2 h.1, h.nests⟩

/-- A value comes with the one placeholder that it is bound to. -/
theorem Nests.placeholder (v : BindValue) :
    (Fragment.placeholder v).Nests 0 0 := by
  have htext : "?" = String.ofList ['?'] := rfl
  refine ⟨?_, ?_⟩
  · rw [text_placeholder, htext, String.toList_ofList]
    rfl
  · rw [text_placeholder, htext, String.toList_ofList]
    exact Text.nests_of_openAfter? (by decide)

theorem Nests.empty : Fragment.empty.Nests 0 0 :=
  .plain Text.plain_empty

theorem ofText_append (s t : String) :
    ofText (s ++ t) = ofText s ++ ofText t := rfl

/-- Fragments that are joined with commas are closed in themselves if each of
them is. -/
theorem Nests.join {separator : String} (hseparator : Text.Plain separator)
    {fs : List Fragment} (h : ∀ f ∈ fs, f.Nests 0 0) :
    (Fragment.join separator fs).Nests 0 0 := by
  induction fs with
  | nil => exact .empty
  | cons f rest ih =>
    rw [List.forall_mem_cons] at h
    cases rest with
    | nil => exact h.1
    | cons g rest => exact (h.1.append (.plain hseparator)).append (ih h.2)

-- ================================================================ parts

/-- A fragment consists of parts in this order, and of text between them that
binds nothing. -/
inductive WrittenFrom : Fragment → List Fragment → Prop
  | text {s : String} (h : '?' ∉ s.toList) : WrittenFrom (ofText s) []
  | part (f : Fragment) : WrittenFrom f [f]
  | append {f g : Fragment} {fs gs : List Fragment} (hf : WrittenFrom f fs)
      (hg : WrittenFrom g gs) : WrittenFrom (f ++ g) (fs ++ gs)

/-- The values of the parts are bound in the order of the parts. -/
theorem WrittenFrom.params {f : Fragment} {parts : List Fragment}
    (h : f.WrittenFrom parts) :
    f.params = parts.flatMap Fragment.params := by
  induction h with
  | text hs => rfl
  | part f => simp
  | append hf hg ihf ihg => rw [params_append, ihf, ihg, List.flatMap_append]

/-- A well-formed fragment that consists of well-formed parts, and binds the
values of its parts one part after the other. -/
structure Assembled (f : Fragment) (parts : List Fragment) : Prop where
  wellFormed : f.WellFormed
  members : ∀ part ∈ parts, part.WellFormed
  written : f.WrittenFrom parts
  params : f.params = parts.flatMap Fragment.params

/-- A piece of a fragment that consists of well-formed parts. -/
structure Built (before after : Nat) (f : Fragment)
    (parts : List Fragment) : Prop where
  nests : f.Nests before after
  members : ∀ part ∈ parts, part.Nests 0 0
  written : f.WrittenFrom parts

namespace Built

variable {n m k : Nat} {f g : Fragment} {fs gs : List Fragment}

/-- What is built with nothing open at either end is assembled from its
parts. -/
theorem assembled (h : f.Built 0 0 fs) : f.Assembled fs :=
  ⟨h.nests.wellFormed, fun part hpart => (h.members part hpart).wellFormed,
    h.written, h.written.params⟩

/-- Pieces chain, and the parts of the second come behind those of the
first. -/
theorem append (hf : f.Built n m fs) (hg : g.Built m k gs) :
    (f ++ g).Built n k (fs ++ gs) :=
  ⟨hf.nests.append hg.nests, List.forall_mem_append.2 ⟨hf.members, hg.members⟩,
    .append hf.written hg.written⟩

/-- Around a piece any number of parentheses may be open already. -/
theorem within (h : f.Built n m fs) (outer : Nat) :
    f.Built (outer + n) (outer + m) fs :=
  ⟨h.nests.within outer, h.members, h.written⟩

theorem part (h : f.Nests 0 0) : f.Built 0 0 [f] :=
  ⟨h, List.forall_mem_singleton.2 h, .part f⟩

/-- A text that binds nothing is a piece without parts. -/
theorem text {s : String} (h : (ofText s).Nests n m) :
    (ofText s).Built n m [] :=
  ⟨h, List.forall_mem_nil _, .text (List.count_eq_zero.1 h.placeholders)⟩

theorem plain {s : String} (h : Text.Plain s) : (ofText s).Built 0 0 [] :=
  .text (.plain h)

/-- A literal is a piece without parts, with what it leaves open counted. -/
theorem literal {s : String} {cs : List Char} (hs : s = .ofList cs)
    (h : '?' ∉ cs ∧ Text.openAfter? n cs = some m) : (ofText s).Built n m [] :=
  .text (.literal hs h)

theorem empty : Fragment.empty.Built 0 0 [] :=
  .plain Text.plain_empty

/-- What is joined is built from what its members are built from. -/
theorem join {separator : String} (hseparator : Text.Plain separator)
    {fs : List Fragment} {parts : List (List Fragment)}
    (h : List.Forall₂ (Built 0 0) fs parts) :
    (Fragment.join separator fs).Built 0 0 parts.flatten := by
  induction h with
  | nil => exact .empty
  | cons hfirst hrest ih =>
    cases hrest with
    | nil =>
      rw [List.flatten_singleton]
      exact hfirst
    | cons hsecond hrest =>
      have hjoined := (hfirst.append (.plain hseparator)).append ih
      rw [List.append_nil] at hjoined
      exact hjoined

end Built

end Fragment

-- ================================================================ names

theorem View.plain_stem (kind : Kind) : Text.Plain (View.stem kind) := by
  cases kind <;> exact .literal rfl (by decide)

/-- Nor has the letter that stands for the kind of the members. -/
theorem View.plain_memberLetter (kind : MemberKind) :
    Text.Plain (View.memberLetter kind) := by
  cases kind <;> exact .literal rfl (by decide)

/-- No name of a view has a mark: it is put together from stems, letters and
literals that have none. -/
theorem View.plain_sqlName (v : View) : Text.Plain v.sqlName := by
  cases v with
  | field k => exact plain_stem k
  | «attribute» k | uniqueAttribute k | resource k | auxClass k =>
    exact (plain_stem k).append (.literal rfl (by decide))
  | dynGroupMembership k | groupResource k =>
    exact (plain_stem k.kind).append (.literal rfl (by decide))
  | relationship k | membership k =>
    exact (((plain_stem k.kind).append (.literal rfl (by decide))).append
      (plain_memberLetter k)).append (.literal rfl (by decide))
  | role | privilege | dynRoleMembership | dynPrivilegeMembership
  | dynRealmMembership =>
    exact .literal rfl (by decide)

/-- No alias of a view has a mark. -/
theorem View.plain_alias (v : View) : Text.Plain v.alias := by
  unfold View.alias
  cases v.viewRole <;> exact .literal rfl (by decide)

theorem Column.plain_sqlName (c : Column) : Text.Plain c.sqlName := by
  cases c <;> exact .literal rfl (by decide)

theorem Comparator.plain_text (c : Comparator) : Text.Plain c.text := by
  cases c <;> exact .literal rfl (by decide)

/-- Neither AND nor OR has a mark. -/
theorem Connective.plain_text (c : Connective) : Text.Plain c.text := by
  cases c <;> exact .literal rfl (by decide)

/-- A column that is selected has no mark, under its own name or a new one. -/
theorem Column.plain_selected (c : Column) : Text.Plain c.selected := by
  unfold Column.selected
  split
  · exact c.plain_sqlName
  · exact (c.plain_sqlName.append (.literal rfl (by decide))).append
      (Column.plain_sqlName _)

/-- Before its condition a query is without placeholders and parentheses. -/
theorem Query.plain_head (distinct : Bool) (column : Column) (view : View) :
    Text.Plain (Query.head distinct column view) := by
  have hdistinct : Text.Plain (if distinct then "DISTINCT " else "") := by
    cases distinct <;> exact .literal rfl (by decide)
  have hselect : Text.Plain "SELECT " := .literal rfl (by decide)
  exact ((((hselect.append hdistinct).append column.plain_selected).append
    (.literal rfl (by decide))).append view.plain_sqlName).append
      (.literal rfl (by decide))

-- ============================================================== queries

/-- A comparison has one placeholder for its one value, folded or not, with a
clause on escaping or without. -/
theorem Comparison.nests (c : Comparison) : c.fragment.Nests 0 0 := by
  have hcolumn := Fragment.Nests.plain c.column.plain_sqlName
  have hcomparator := Fragment.Nests.plain c.comparator.plain_text
  have hvalue := Fragment.Nests.placeholder c.value
  have hlower : (Fragment.ofText "LOWER(").Nests 0 1 :=
    .literal rfl (by decide)
  have hclose : (Fragment.ofText ")").Nests 1 0 := .literal rfl (by decide)
  have hescape : (Fragment.ofText Dialect.escapeText).Nests 0 0 :=
    .literal rfl (by decide)
  -- the parentheses of both calls of LOWER are closed where they are opened
  have hbare : (Fragment.ofText (c.column.sqlName ++ c.comparator.text)
      ++ .placeholder c.value).Nests 0 0 :=
    (hcolumn.append hcomparator).append hvalue
  have hfolded : (Fragment.ofText
      ("LOWER(" ++ c.column.sqlName ++ ")" ++ c.comparator.text
      ++ "LOWER(") ++ .placeholder c.value ++ .ofText ")").Nests 0 0 := by
    have hleft :=
      ((hlower.append hcolumn.inside).append hclose).append hcomparator
    exact ((hleft.append hlower).append hvalue.inside).append hclose
  unfold Comparison.fragment
  cases c.folded <;> cases c.escaped
  · exact hbare
  · exact hbare.append hescape
  · exact hfolded
  · exact hfolded.append hescape

mutual

/-- A formula is closed in itself if its atoms are. -/
theorem Formula.nests (f : Formula) : f.fragment.Nests 0 0 := by
  cases f with
  | atom a =>
    rw [Formula.fragment]
    exact a.nests
  | join left c right =>
    rw [Formula.fragment]
    exact (left.nests.append (Fragment.Nests.plain c.plain_text)).append
      right.nests

/-- An atom is closed in itself: the parenthesis around a query or a formula is
the only thing that it opens. -/
theorem Atom.nests (a : Atom) : a.fragment.Nests 0 0 := by
  have hclose : (Fragment.ofText ")").Nests 1 0 := .literal rfl (by decide)
  cases a with
  | compare c =>
    rw [Atom.fragment]
    exact c.nests
  | isNull column negated =>
    rw [Atom.fragment]
    cases negated
    · exact .append (Fragment.Nests.plain column.plain_sqlName)
        (.literal rfl (by decide))
    · exact .append (Fragment.Nests.plain column.plain_sqlName)
        (.literal rfl (by decide))
  | keyIn negated q =>
    rw [Atom.fragment]
    have hopen : (Fragment.ofText
        (if negated then "any_id NOT IN (" else "any_id IN (")).Nests
        0 1 := by
      cases negated <;> exact .literal rfl (by decide)
    exact (hopen.append q.nests.inside).append hclose
  | never =>
    rw [Atom.fragment]
    exact .literal rfl (by decide)
  | paren f =>
    rw [Atom.fragment]
    have hopen : (Fragment.ofText "(").Nests 0 1 := .literal rfl (by decide)
    exact (hopen.append f.nests.inside).append hclose

/-- A query is closed in itself if its condition is. -/
theorem Query.nests (q : Query) : q.fragment.Nests 0 0 := by
  cases q with
  | select distinct column view condition =>
    rw [Query.fragment]
    exact (Fragment.Nests.plain (Query.plain_head distinct column view)).append
      condition.nests
  | union left right =>
    rw [Query.fragment]
    exact (left.nests.append (.literal rfl (by decide))).append right.nests

end

/-- So every selection is closed in itself, and may be nested in a
statement. -/
theorem Selection.nests (s : Selection) : s.fragment.Nests 0 0 :=
  s.query.nests

end IdentitySearch
