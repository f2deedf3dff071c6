/-
The numbers beside the keys that a run prints. A run counts from the page and
the size that it was asked for (`offsetOf`), the engine places its window by
the size that is left within the limit (`Engine.window`). So the numbers are
the places of the keys as long as the limit leaves the size alone, or on the
first page; otherwise they run ahead of the window, and between two full pages
they jump.

# What is read, and where it comes from

- A run that prints a page has found one, and printed the text of it and
  nothing else (`run_eq_page_iff`). What it was asked for decides what it read
  (`Inputs.Of.unique`), so there is one search to speak of.
- The numbers are read off the text that is printed (`numbersOf`), as somebody
  would who has the table before him.
- The places are read off the statement that the engine builds: the window
  skips as many rows as its offset says (`SearchStatement.skipped`).

What remains is to compare two products, of the page with the size before and
after the limit (`offsetOf_eq_skipped_iff`), and to say when a run of numbers
goes on into the next one (`goOn_append_iff`).
-/
import Mathlib.Data.List.Chain
import IdentitySearch.CommandLine.Run
import IdentitySearch.Proofs.Engine.Faults
import IdentitySearch.Proofs.Engine.Pages
import IdentitySearch.Proofs.Report.Numbers

namespace IdentitySearch

open Outcome Engine

-- ================================================================ windows

/-- The number of rows before those that are listed. -/
def SearchStatement.skipped (s : SearchStatement) : Nat :=
  (s.window.map Window.offset).getD 0

/-- The window of a search is placed by its engine. -/
theorem Engine.window_of_searchStatement {e : Engine} {r : Request}
    {page : PageRequest} {s : Session} {search : SearchStatement}
    (h : (e.searchStatement r page s).1 = .ok search) :
    search.window = page.pagination.map e.window := by
  obtain ⟨p, -, hsearch⟩ := bind_eq_ok.1 h
  obtain ⟨plan, -, rfl⟩ := map_eq_ok.1 hsearch
  rfl

/-- Keys are found by a statement. -/
theorem Engine.exists_searchStatement {e : Engine} {r : Request}
    {page : PageRequest} {s : Session} {keys : List String}
    (h : (e.search r page s).1 = .ok keys) (hsome : keys ≠ []) :
    ∃ search, (e.searchStatement r page s).1 = .ok search := by
  cases hstatement : (e.searchStatement r page s).1 with
  | ok search => exact ⟨search, rfl⟩
  | error err =>
    rw [search_of_statement_error hstatement] at h
    split at h
    · cases h
    · cases h
      exact absurd rfl hsome

/-- A page that was found has the keys that a search finds. -/
theorem Engine.search_of_searchPage {e : Engine} {r : Request}
    {page : PageRequest} {s : Session} {found : ResultPage}
    (h : (e.searchPage r page s).1 = .ok found) :
    (e.search r page s).1 = .ok found.keys := by
  rcases e.searchPage_cases r page s with
    ⟨err, -, hpage⟩ | ⟨total, -, hpage, -⟩
  · rw [hpage] at h
    cases h
  · rw [hpage, search_after_count] at h
    obtain ⟨keys, hkeys, rfl⟩ := map_eq_ok.1 h
    exact hkeys

namespace CommandLine

-- ================================================================== runs

/-- What a run works on. -/
structure Inputs where
  config : Config
  content : Content
  base : Realm
  condition : Condition
  page : PageRequest

namespace Inputs

/-- The inputs that arguments and files give. -/
structure Of (i : Inputs) (a : Arguments) (files : Files) : Prop where
  config : configOf a files.config = .ok i.config
  content : files.database = .ok i.content
  base : baseOf a i.content = .ok i.base
  condition : conditionOf a.condition = .ok i.condition
  page : pageOf a = .ok i.page

def engine (i : Inputs) : Engine :=
  i.content.engine i.config

def request (i : Inputs) (a : Arguments) : Request :=
  { base := i.base, recursive := a.recursive, scopes := a.scopes,
    condition := i.condition, kind := a.kind }

end Inputs

variable {a : Arguments} {files : Files}

/-- A run comes to its output exactly if there are inputs for it. -/
theorem prepared_eq_ok_iff {output : Output} :
    prepared a files = .ok output
      ↔ ∃ i : Inputs, i.Of a files
        ∧ answer a i.engine (i.request a) i.page = output := by
  unfold prepared
  constructor
  · intro h
    obtain ⟨config, hconfig, h⟩ := bind_eq_ok.1 h
    obtain ⟨content, hcontent, h⟩ := bind_eq_ok.1 h
    obtain ⟨base, hbase, h⟩ := bind_eq_ok.1 h
    obtain ⟨condition, hcondition, h⟩ := bind_eq_ok.1 h
    obtain ⟨page, hpage, h⟩ := bind_eq_ok.1 h
    have hdatabase : files.database = .ok content := by
      cases hfile : files.database with
      | error err =>
        rw [hfile] at hcontent
        cases hcontent
      | ok stored =>
        rw [hfile] at hcontent
        cases hcontent
        rfl
    exact ⟨⟨config, content, base, condition, page⟩,
      ⟨hconfig, hdatabase, hbase, hcondition, hpage⟩, Except.ok.inj h⟩
  · rintro ⟨i, hi, rfl⟩
    rw [hi.config, hi.content]
    refine bind_eq_ok.2 ⟨_, rfl,
      bind_eq_ok.2 ⟨_, rfl, bind_eq_ok.2 ⟨_, hi.base, ?_⟩⟩⟩
    exact bind_eq_ok.2 ⟨_, hi.condition, bind_eq_ok.2 ⟨_, hi.page, rfl⟩⟩

/-- A run that is to list keys prints a text exactly if it finds a page and
this is the text of it. -/
theorem run_eq_page_iff (hcount : a.count = false)
    (hexplain : a.explain = false) {text : String} :
    run a files = ⟨text, none⟩
      ↔ ∃ (i : Inputs) (found : ResultPage), i.Of a files
      ∧ (i.engine.searchPage (i.request a) i.page .start).1 = .ok found
      ∧ a.format.page found (offsetOf a) ++ "\n" = text := by
  -- neither a count nor an explanation is asked for
  have hanswer : ∀ (e : Engine) r page, answer a e r page
      = .ofAnswer (e.searchPage r page .start).1 fun found =>
        a.format.page found (offsetOf a) := by
    intro e r page
    rw [answer, if_neg (by simp [hexplain]), if_neg (by simp [hcount])]
  constructor
  · intro h
    unfold run at h
    cases hprepared : prepared a files with
    | error err =>
      rw [hprepared] at h
      cases h
    | ok output =>
      rw [hprepared] at h
      obtain ⟨i, hi, hout⟩ := prepared_eq_ok_iff.1 hprepared
      rw [hanswer] at hout
      cases hfound : (i.engine.searchPage (i.request a) i.page .start).1 with
      | error err =>
        rw [hfound] at hout
        cases hout.trans h
      | ok found =>
        rw [hfound] at hout
        exact ⟨i, found, hi, hfound, congrArg Output.printed (hout.trans h)⟩
  · rintro ⟨i, found, hi, hfound, rfl⟩
    rw [run, prepared_eq_ok_iff.2 ⟨i, hi, rfl⟩, hanswer, hfound]
    rfl

/-- There is one way to read what a run is asked for. -/
theorem Inputs.Of.unique {i j : Inputs} (hi : i.Of a files)
    (hj : j.Of a files) : i = j := by
  obtain ⟨config, content, base, condition, page⟩ := i
  cases hi.config.symm.trans hj.config
  cases hi.content.symm.trans hj.content
  cases hi.base.symm.trans hj.base
  cases hi.condition.symm.trans hj.condition
  cases hi.page.symm.trans hj.page
  rfl

/-- Pages are asked for with the size that the command line gives. -/
theorem Inputs.Of.pagination {i : Inputs} (hi : i.Of a files) :
    i.page.pagination = a.page.map fun page => ⟨page, a.size⟩ := by
  obtain ⟨sort, -, hpage⟩ := map_eq_ok.1 hi.page
  rw [← hpage]

-- =============================================================== numbers

/-- The limit for sizes does not move the page: it leaves the size alone, or
the page is the first one. -/
def InPlace (config : Config) (a : Arguments) : Prop :=
  ∀ page ∈ a.page, page = 0 ∨ config.clampPageSize a.size = a.size

/-- The run and the engine skip as many matches exactly if the limit does not
move the page. -/
theorem offsetOf_eq_skipped_iff {i : Inputs} (hi : i.Of a files) {s : Session}
    {search : SearchStatement}
    (h : (i.engine.searchStatement (i.request a) i.page s).1 = .ok search) :
    offsetOf a = search.skipped ↔ InPlace i.config a := by
  rw [SearchStatement.skipped, window_of_searchStatement h, hi.pagination]
  unfold offsetOf InPlace
  cases a.page with
  | none => simp
  | some page =>
    show page * a.size = page * i.config.clampPageSize a.size ↔ _
    rw [mul_eq_mul_left_iff]
    simp [or_comm, eq_comm]

/-- Numbers that go on by one, without gap or overlap. -/
def GoOn (numbers : List Nat) : Prop :=
  numbers.IsChain fun m n => n = m + 1

/-- Two runs of numbers go on by one if the second one begins where the first
one ends. -/
theorem goOn_append_iff {m n k l : Nat} (hk : k ≠ 0) (hl : l ≠ 0) :
    GoOn (List.range' m k ++ List.range' n l) ↔ n = m + k := by
  have hjoint : (∀ x ∈ (List.range' m k).getLast?,
      ∀ y ∈ (List.range' n l).head?, y = x + 1)
      ↔ n = m + k - 1 + 1 := by
    simp [List.getLast?_range', List.head?_range', hk, hl]
  rw [GoOn, List.isChain_append,
    hjoint, and_iff_right (List.isChain_range' m k 1),
      and_iff_right (List.isChain_range' n l 1)]
  omega

/-- What a run prints is numbered from the place after its offset. -/
theorem numbersOf_run (htable : a.format = .table) (hcount : a.count = false)
    (hexplain : a.explain = false) {text : String}
    (hrun : run a files = ⟨text, none⟩) :
    ∃ (i : Inputs) (found : ResultPage), i.Of a files
      ∧ (i.engine.searchPage (i.request a) i.page .start).1 = .ok found
      ∧ Table.numbersOf text
        = List.range' (offsetOf a + 1) found.keys.length := by
  obtain ⟨i, found, hi, hfound, rfl⟩ :=
    (run_eq_page_iff hcount hexplain).1 hrun
  refine ⟨i, found, hi, hfound, ?_⟩
  rw [htable]
  exact Format.numbersOf_page found (offsetOf a)

end CommandLine

open CommandLine Table in
/-- A run numbers the keys of a table on from its offset. These are their
places in the window of the search exactly if the limit for sizes does not move
the page, and between two full pages the numbers go on without gap or overlap
exactly if it leaves the size alone. -/
theorem row_numbers {a : Arguments} {files : Files} {text : String}
    (htable : a.format = .table) (hcount : a.count = false)
    (hexplain : a.explain = false) (hrun : run a files = ⟨text, none⟩) :
    ∃ (i : Inputs) (found : ResultPage), i.Of a files
      ∧ (i.engine.searchPage (i.request a) i.page .start).1 = .ok found
      ∧ numbersOf text = List.range' (offsetOf a + 1) found.keys.length
      ∧ (found.keys ≠ [] → ∃ search,
          (i.engine.searchStatement (i.request a) i.page .start).1 = .ok search
          ∧ (numbersOf text
            = List.range' (search.skipped + 1) found.keys.length
              ↔ InPlace i.config a))
      ∧ ∀ page more, a.page = some page →
          run { a with page := some (page + 1) } files = ⟨more, none⟩ →
          found.keys.length = i.config.clampPageSize a.size →
            numbersOf text ≠ [] →
          numbersOf more ≠ [] →
          (GoOn (numbersOf text ++ numbersOf more)
            ↔ i.config.clampPageSize a.size = a.size) := by
  obtain ⟨i, found, hi, hfound, hnumbers⟩ :=
    numbersOf_run htable hcount hexplain hrun
  refine ⟨i, found, hi, hfound, hnumbers, fun hsome => ?_, ?_⟩
  · obtain ⟨search, hsearch⟩ :=
      exists_searchStatement (search_of_searchPage hfound) hsome
    have hlength : found.keys.length ≠ 0 :=
      mt List.eq_nil_of_length_eq_zero hsome
    refine ⟨search, hsearch, ?_⟩
    rw [hnumbers, List.range'_inj, ← offsetOf_eq_skipped_iff hi hsearch]
    simp [hlength]
  · intro page more hpage hnext hfull htext hmore
    obtain ⟨i', found', -, -, hmoreNumbers⟩ :=
      numbersOf_run
        (a := { a with page := some (page + 1) }) htable hcount hexplain hnext
    have hoffset : offsetOf a = page * a.size := by
      rw [offsetOf, hpage]
      rfl
    have hoffsetNext : offsetOf { a with page := some (page + 1) }
        = page * a.size + a.size :=
      Nat.succ_mul page a.size
    rw [hnumbers, Ne, List.range'_eq_nil_iff] at htext
    rw [hmoreNumbers, Ne, List.range'_eq_nil_iff] at hmore
    rw [hnumbers, hmoreNumbers, goOn_append_iff htext hmore, hoffset,
      hoffsetNext, hfull]
    omega

-- =========================================================== small pages

namespace SmallPages

open CommandLine

def content : Content :=
  { Nicknames.content ["u1", "u2"] [] with
    metadata := { Metadata.fresh with realms := some [⟨some "r0", "/"⟩] } }

/-- Pages hold one key at most. -/
def files : Files := ⟨.ok "\x7b\"max_page_size\":1\x7d", .ok content⟩

/-- A page of two keys is asked for. -/
def arguments (page : Nat) : Arguments :=
  { database := "ids.db", page := some page, size := 2, sorts := ["key"]
    config := some "config.json" }

def inputs (page : Nat) : Inputs where
  config := { maxPageSize := some 1 }
  content := content
  base := ⟨"r0", "/"⟩
  condition := everyIdentity
  page := { pagination := some ⟨page, 2⟩, sort := [⟨"key", .ascending⟩] }

theorem config_eq :
    configOf (arguments 0) files.config = .ok { maxPageSize := some 1 } := by
  decide +kernel

/-- The configuration sets the limit, and the tables have a root. -/
theorem inputs_of (page : Nat) : (inputs page).Of (arguments page) files where
  config := config_eq
  content := rfl
  base := rfl
  condition := rfl
  page := rfl

/-- There are two users, -/
theorem count_eq (page : Nat) :
    ((inputs page).engine.count
      ((inputs page).request (arguments page)) .start).1 = .ok 2 := by
  have hcount : ((content.engineWith content.metadata.directory
      { maxPageSize := some 1 }).count
      ((inputs 0).request (arguments 0)) .start).1 = .ok ["u1", "u2"].length :=
    (Content.answers_of_keys (r := (inputs 0).request (arguments 0))
      (Nicknames.consistent (by decide)) rfl).2
  exact hcount

/-- one on the first page -/
theorem fetch_first :
    ((inputs 0).engine.fetch ((inputs 0).request (arguments 0)) (inputs 0).page
    .start).1 = .ok ["u1"] :=
  Content.fetch_of_inOrder rfl rfl (by decide) (by decide)
    rfl

/-- and one on the second. -/
theorem fetch_second :
    ((inputs 1).engine.fetch ((inputs 1).request (arguments 1)) (inputs 1).page
    .start).1 = .ok ["u2"] :=
  Content.fetch_of_inOrder rfl rfl (by decide +kernel) (by decide)
    (by decide +kernel)

/-- What is fetched is printed. -/
theorem run_eq {page : Nat} {key : String} (h : ((inputs page).engine.fetch
    ((inputs page).request (arguments page)) (inputs page).page .start).1
      = .ok [key]) :
    run (arguments page) files
      = ⟨Format.table.page ⟨[key], 2⟩ (offsetOf (arguments page)) ++ "\n",
        none⟩ := by
  refine (run_eq_page_iff rfl rfl).2 ⟨inputs page, ⟨[key], 2⟩,
    inputs_of page, ?_, rfl⟩
  rw [Engine.searchPage_of_count (count_eq page), Engine.search_eq_ok _ _ _ h]
  rfl

/-- The only row of a page, and what stands around it. -/
def text (number key : String) : String :=
  "+---+-----+\n| # | key |\n+=========+\n| " ++ number ++ " | " ++ key
    ++ "  |\n+---+-----+\n1 of 2 shown\n"

theorem run_first : run (arguments 0) files = ⟨text "1" "u1", none⟩ := by
  rw [run_eq fetch_first]
  rfl

theorem run_second : run (arguments 1) files = ⟨text "3" "u2", none⟩ := by
  rw [run_eq fetch_second]
  rfl

end SmallPages

open CommandLine Table in
open SmallPages in
/-- The second key stands on the second page, with the number three. -/
theorem limit_puts_numbers_ahead :
    run (arguments 1) files = ⟨text "3" "u2", none⟩
      ∧ (inputs 1).Of (arguments 1) files
      ∧ ∃ search,
        ((inputs 1).engine.searchStatement ((inputs 1).request (arguments 1))
            (inputs 1).page .start).1 = .ok search
          ∧ search.window = some ⟨1, 1⟩
          ∧ numbersOf (text "3" "u2") = [3]
          ∧ numbersOf (text "3" "u2")
            ≠ List.range' (search.skipped + 1) 1 := by
  have hnumbers : numbersOf (text "3" "u2") = [3] := by decide
  refine ⟨run_second, inputs_of 1, _, rfl, rfl, hnumbers, ?_⟩
  rw [hnumbers]
  decide

open CommandLine Table in
open SmallPages in
/-- On the first page the number is the place; to the second page the numbers
do not go on. -/
theorem row_numbers_small_pages :
    run (arguments 0) files = ⟨text "1" "u1", none⟩
      ∧ run (arguments 1) files = ⟨text "3" "u2", none⟩
      ∧ (∃ search,
        ((inputs 0).engine.searchStatement ((inputs 0).request (arguments 0))
            (inputs 0).page .start).1 = .ok search
          ∧ numbersOf (text "1" "u1") = List.range' (search.skipped + 1) 1)
      ∧ ¬ GoOn (numbersOf (text "1" "u1") ++ numbersOf (text "3" "u2")) := by
  refine ⟨run_first, run_second, ?_⟩
  obtain ⟨i, found, hi, -, hnumbers, hplace, hnext⟩ :=
    row_numbers (a := arguments 0) rfl rfl rfl run_first
  have hone : numbersOf (text "1" "u1") = [1] := by decide
  have hthree : numbersOf (text "3" "u2") = [3] := by decide
  have hlength : found.keys.length = 1 := by
    have hlengths := congrArg List.length (hone.symm.trans hnumbers)
    rw [List.length_range'] at hlengths
    exact hlengths.symm
  have hi' : i = inputs 0 := hi.unique (inputs_of 0)
  subst hi'
  constructor
  · obtain ⟨search, hsearch, hiff⟩ :=
      hplace fun hnone => by simp [hnone] at hlength
    rw [hlength] at hiff
    exact ⟨search, hsearch,
      hiff.2 fun page hpage => .inl (Option.some.inj hpage).symm⟩
  · rw [hnext 0 _ rfl run_second hlength (by simp [hone]) (by simp [hthree])]
    decide

end IdentitySearch
