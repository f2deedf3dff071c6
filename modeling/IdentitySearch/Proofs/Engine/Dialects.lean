/-
What the dialect of an engine matters to. Engines that are configured with
different dialects prepare a request alike: they fail with the same error, or
their statements are the same up to the clauses after patterns, with the same
bound values and the same window (`Engine.searchStatement_forDialect`). A
request without a pattern has one statement for all dialects. On a database the
clause decides nothing about a pattern without a backslash, so unless a bound
pattern has one, counts and searches come out the same, whether in an answer or
in an error (`dialect_matters_only_to_escaped_patterns`).

# The order of the argument

- The restriction to what scopes show is a condition too, but one without
  patterns (`ScopeFilter.isPattern_of_mem_restrict`). So what holds of the
  condition of a request holds of all that is compiled.
- A target for another dialect reads the same views and is as high, and so the
  database limits it alike; its cells are the same if its selection has the
  same. Statements have more to them than their target, but none of it has to
  do with the dialect.
- From the target to the engine everything is an equation between results and
  their maps: whichever step fails for one dialect, it fails for the other one
  with the same error.

The session does not matter: an engine with a dialect of its own asks nobody.
-/
import IdentitySearch.Proofs.Engine.Faults
import IdentitySearch.Proofs.Engine.Requests
import IdentitySearch.Proofs.Scope.Visibility
import IdentitySearch.Proofs.Selection.Dialects

namespace IdentitySearch

open Outcome

-- ========================================================== restriction

namespace Condition

/-- Conditions that are joined one after the other have the leaves of all of
them. -/
theorem leaves_foldl (j : Connective) (c : Condition) (more : List Condition) :
    (more.foldl (join j) c).leaves = c.leaves ++ more.flatMap leaves := by
  induction more generalizing c with
  | nil => exact (List.append_nil _).symm
  | cons d rest ih =>
    rw [List.foldl_cons, ih, leaves_join, List.append_assoc, List.flatMap_cons]

/-- One of some predicates has these for leaves. -/
theorem leaves_any? {p : String → Predicate} {keys : List String}
    {c : Condition} (hc : c ∈ (any? (keys.map fun k => .leaf (p k))).toList) :
    c.leaves = keys.map fun k => (p k, false) := by
  cases keys with
  | nil => cases hc
  | cons k rest =>
    cases List.mem_singleton.1 hc
    refine (leaves_foldl .or _ _).trans (congrArg ((p k, false) :: ·) ?_)
    rw [List.flatMap_map, List.map_eq_flatMap]
    rfl

end Condition

namespace ScopeFilter

variable (f : ScopeFilter) (kind : Kind)

/-- What stands beside a condition compares with no pattern. -/
theorem isPattern_of_mem_conditions {c : Condition}
    (hc : c ∈ f.conditions kind) :
    ∀ leaf ∈ c.leaves, leaf.1.isPattern = false := by
  intro leaf hleaf
  rcases List.mem_append.1 hc with hc | hc
  · rw [Condition.leaves_any? hc] at hleaf
    obtain ⟨x, -, rfl⟩ := List.mem_map.1 hleaf
    rfl
  · rw [Condition.leaves_any? hc] at hleaf
    obtain ⟨group, -, rfl⟩ := List.mem_map.1 hleaf
    unfold ownedBy
    split <;> rfl

/-- A restriction adds no pattern to a condition without one. -/
theorem isPattern_of_mem_restrict {c : Condition}
    (h : ∀ leaf ∈ c.leaves, leaf.1.isPattern = false) :
    ∀ leaf ∈ (f.restrict kind c).leaves, leaf.1.isPattern = false := by
  intro leaf hleaf
  change leaf
    ∈ ((f.conditions kind).foldl (Condition.join .and) c).leaves at hleaf
  rw [Condition.leaves_foldl, List.mem_append, List.mem_flatMap] at hleaf
  rcases hleaf with hleaf | ⟨d, hd, hleaf⟩
  · exact h leaf hleaf
  · exact f.isPattern_of_mem_conditions kind hd leaf hleaf

end ScopeFilter

-- =========================================================== statements

/-- The same target for a dialect. -/
def Target.inDialect (d : Dialect) (t : Target) : Target :=
  { t with selection := t.selection.inDialect d }

namespace Target

variable (d : Dialect) (t : Target)

theorem params_inDialect :
    (t.inDialect d).selection.fragment.params = t.selection.fragment.params :=
  Query.params_inDialect d t.selection.query

theorem views_inDialect :
    (t.inDialect d).selection.query.views = t.selection.query.views :=
  Query.views_inDialect d t.selection.query

/-- A target is as high for every dialect. -/
theorem limited_inDialect {α : Type} (answer : Except Error α) :
    (t.inDialect d).limited answer = t.limited answer := by
  have hheight : (t.inDialect d).selection.query.height
      = t.selection.query.height :=
    Query.height_inDialect d t.selection.query
  have hnesting : (t.inDialect d).selection.query.nesting
      = t.selection.query.nesting :=
    Query.nesting_inDialect d t.selection.query
  unfold limited
  simp only [hheight, hnesting]

variable {d t} in
theorem cells_inDialect {db : Database}
    (h : (t.selection.inDialect d).cells db = t.selection.cells db) :
    (t.inDialect d).cells db = t.cells db :=
  congrArg (List.filter _) h

end Target

/-- The same count for a dialect. -/
def CountStatement.inDialect (d : Dialect)
    (s : CountStatement) : CountStatement :=
  ⟨s.target.inDialect d⟩

/-- The same search for a dialect. -/
def SearchStatement.inDialect (d : Dialect)
    (s : SearchStatement) : SearchStatement :=
  { s with target := s.target.inDialect d }

/-- What is given to a database beside the text of a statement: the values that
are bound and the window. -/
def Statement.given (s : Statement) : List BindValue × Option Window :=
  (s.query.params, s.window)

/-- A count is given the same values for every dialect, -/
theorem CountStatement.given_inDialect (d : Dialect) (s : CountStatement) :
    (s.inDialect d).statement.given = s.statement.given := by
  have htarget := s.target.params_inDialect d
  simp only [Statement.given, statement, fragment, inDialect,
    Fragment.params_append, htarget]
  rfl

/-- and a search the same values and the same window. -/
theorem SearchStatement.given_inDialect (d : Dialect) (s : SearchStatement) :
    (s.inDialect d).statement.given = s.statement.given := by
  have htarget := s.target.params_inDialect d
  simp only [Statement.given, statement, fragment, inDialect,
    Fragment.params_append, htarget]
  rfl

-- ============================================================== answers

namespace Content

variable (c : Content) (d : Dialect) {t : Target}
  (h : (t.selection.inDialect d).cells c.database
    = t.selection.cells c.database)

include h in
/-- Where the clauses after patterns select the same, they count the same. -/
theorem count_inDialect :
    c.store.count ⟨t.inDialect d⟩ = c.store.count ⟨t⟩ := by
  show (t.inDialect d).limited (c.database.count ⟨t.inDialect d⟩)
      = t.limited (c.database.count ⟨t⟩)
  rw [t.limited_inDialect]
  unfold Database.count
  rw [Target.cells_inDialect h, t.views_inDialect]
  rfl

include h in
/-- And they list the same, in the same order. -/
theorem fetch_inDialect {s : SearchStatement} (hs : s.target = t) :
    c.store.fetch (s.inDialect d) = c.store.fetch s := by
  subst hs
  have hcells : (s.inDialect d).target.cells c.database
      = s.target.cells c.database :=
    Target.cells_inDialect h
  have hviews : (s.inDialect d).target.selection.query.views
      = s.target.selection.query.views :=
    s.target.views_inDialect d
  have hrows : (s.inDialect d).sortedRows c.database
      = s.sortedRows c.database := by
    unfold SearchStatement.sortedRows
    rw [hcells]
    rfl
  show (s.target.inDialect d).limited (c.database.fetch (s.inDialect d))
    = s.target.limited (c.database.fetch s)
  rw [s.target.limited_inDialect]
  unfold Database.fetch
  rw [hrows, hviews]
  rfl

end Content

-- ============================================================== engines

namespace Engine

/-- The same identities for a dialect. -/
def Prepared.inDialect (d : Dialect) (p : Prepared) : Prepared :=
  { p with target := p.target.inDialect d }

/-- The same engine, configured with a dialect. -/
def forDialect (e : Engine) (d : Dialect) : Engine :=
  { e with config := { e.config with dialect := some d } }

variable (e : Engine) (d d' : Dialect) (r : Request) (page : PageRequest)
  (s s' : Session)

/-- An engine that is configured with a dialect asks nobody for it. -/
theorem dialect_forDialect : (e.forDialect d).dialect s = (.ok d, s) :=
  rfl

theorem setting_forDialect :
    (e.forDialect d').setting r d'
      = ((e.forDialect d).setting r d).withDialect d' :=
  rfl

/-- Under a filter, a request is prepared for a dialect as its condition is
compiled for it. -/
theorem prepareFor_forDialect (f : ScopeFilter) :
    (e.forDialect d').prepareFor r f d'
      = ((e.forDialect d).prepareFor r f d).map (·.inDialect d') := by
  unfold prepareFor
  rw [setting_forDialect e d d', Setting.ofCondition_withDialect]
  cases ((e.forDialect d).setting r d).ofCondition
    (f.restrict r.kind r.condition) <;> rfl

/-- Preparing is making the filter and preparing under it, since the dialect
need not be asked for. -/
theorem prepare_forDialect_eq :
    ((e.forDialect d).prepare r s).1
      = ScopeFilter.make e.directory r.base r.recursive r.scopes >>= fun f =>
        (e.forDialect d).prepareFor r f d := by
  unfold prepare
  rw [show (e.forDialect d).directory = e.directory from rfl]
  cases ScopeFilter.make e.directory r.base r.recursive r.scopes with
  | error err => rfl
  | ok f =>
    simp only [dialect_forDialect]
    rfl

/-- A request is prepared alike for two dialects. -/
theorem prepare_forDialect :
    ((e.forDialect d').prepare r s').1
      = ((e.forDialect d).prepare r s).1.map (·.inDialect d') := by
  rw [prepare_forDialect_eq, prepare_forDialect_eq, Outcome.map_bind]
  exact bind_congr_ok fun f _ => e.prepareFor_forDialect d d' r f

/-- A request without patterns is prepared for all dialects in one. -/
theorem prepare_forDialect_of_no_pattern
    (h : ∀ leaf ∈ r.condition.leaves, leaf.1.isPattern = false) :
    ((e.forDialect d').prepare r s').1 = ((e.forDialect d).prepare r s).1 := by
  rw [prepare_forDialect_eq, prepare_forDialect_eq]
  refine bind_congr_ok fun f _ => ?_
  unfold prepareFor
  rw [setting_forDialect e d d',
    Setting.ofCondition_withDialect_of_no_pattern _ _
      (f.isPattern_of_mem_restrict r.kind h)]

theorem countStatement_fst :
    (e.countStatement r s).1 = (e.prepare r s).1.map fun p => ⟨p.target⟩ :=
  rfl

theorem searchStatement_fst :
    (e.searchStatement r page s).1 = (e.prepare r s).1 >>= e.searchOf r page :=
  rfl

/-- The sort of a page has to do with no dialect. -/
theorem searchOf_forDialect (p : Prepared) :
    (e.forDialect d').searchOf r page (p.inDialect d')
      = ((e.forDialect d).searchOf r page p).map (·.inDialect d') := by
  unfold searchOf
  rw [show (e.forDialect d').directory = (e.forDialect d).directory from rfl]
  cases SortPlan.make r.kind (e.forDialect d).directory page.sort <;> rfl

/-- The counts of two dialects are the same but for the clauses after
patterns. -/
theorem countStatement_forDialect :
    ((e.forDialect d').countStatement r s').1
      = ((e.forDialect d).countStatement r s).1.map (·.inDialect d') := by
  rw [countStatement_fst, countStatement_fst, e.prepare_forDialect d d' r s s']
  cases ((e.forDialect d).prepare r s).1 <;> rfl

/-- The searches of two dialects are the same but for the clauses after
patterns. -/
theorem searchStatement_forDialect :
    ((e.forDialect d').searchStatement r page s').1
      = ((e.forDialect d).searchStatement r page s).1.map
        (·.inDialect d') := by
  rw [searchStatement_fst, searchStatement_fst,
    e.prepare_forDialect d d' r s s']
  cases ((e.forDialect d).prepare r s).1 with
  | error err => rfl
  | ok p => exact e.searchOf_forDialect d d' r page p

/-- A page is what is counted and what is searched for, and fails with the
first of them that fails. -/
theorem searchPage_fst :
    (e.searchPage r page s).1 = (e.count r s).1 >>= fun total =>
      (e.search r page s).1.map fun keys => ⟨keys, total⟩ := by
  cases h : (e.count r s).1 with
  | error err =>
    rw [searchPage_of_count_error h]
    rfl
  | ok total => exact searchPage_of_count h

end Engine

-- ============================================================ databases

namespace Content

variable {c : Content} {dir : Directory} {config : Config} {r : Request}
  {d : Dialect}
  (hfree : ((c.engineWith dir config).setting r d).BindsUnescaped r.condition)
  (d' : Dialect) (page : PageRequest) (s s' : Session)

include hfree in
/-- Unless a bound pattern has a backslash, what is prepared selects the same
for every dialect. -/
theorem cells_of_prepare {p : Engine.Prepared}
    (hp : (((c.engineWith dir config).forDialect d).prepare r s).1 = .ok p) :
    (p.target.selection.inDialect d').cells c.database
      = p.target.selection.cells c.database := by
  obtain ⟨f, dialect, t, -, hd, ht, rfl⟩ :=
    (Engine.prepare_eq_ok_iff _ r s p).1 hp
  cases hd
  have hrestricted :=
    hfree.foldl_and fun c hc => f.isPattern_of_mem_conditions r.kind hc
  exact Setting.cells_inDialect_of_bindsUnescaped d' c.database hrestricted ht

include hfree in
/-- So the same number is counted, or there is the same error; -/
theorem count_forDialect :
    (((c.engineWith dir config).forDialect d').count r s').1
      = (((c.engineWith dir config).forDialect d).count r s).1 := by
  rw [Engine.count_fst, Engine.count_fst,
    Engine.prepare_forDialect _ d d' r s s']
  cases hp : (((c.engineWith dir config).forDialect d).prepare r s).1 with
  | error err => rfl
  | ok p => exact c.count_inDialect d' (cells_of_prepare hfree d' s hp)

include hfree in
/-- the same rows come in the same order, -/
theorem fetch_forDialect :
    (((c.engineWith dir config).forDialect d').fetch r page s').1
      = (((c.engineWith dir config).forDialect d).fetch r page s).1 := by
  rw [Engine.fetch_fst, Engine.fetch_fst,
    Engine.prepare_forDialect _ d d' r s s']
  cases hp : (((c.engineWith dir config).forDialect d).prepare r s).1 with
  | error err => rfl
  | ok p =>
    have hcells := cells_of_prepare hfree d' s hp
    have hfetch := fun plan => c.fetch_inDialect d' hcells
      (s := Engine.statementFor (c.engineWith dir config) page p plan) rfl
    show (SortPlan.make r.kind dir page.sort >>= fun plan =>
        c.store.fetch ((Engine.statementFor
          (c.engineWith dir config) page p plan).inDialect d'))
      = (SortPlan.make r.kind dir page.sort >>= fun plan =>
        c.store.fetch
          (Engine.statementFor (c.engineWith dir config) page p plan))
    exact bind_congr_ok fun plan _ => hfetch plan

include hfree in
/-- the same keys are found, -/
theorem search_forDialect :
    (((c.engineWith dir config).forDialect d').search r page s').1
      = (((c.engineWith dir config).forDialect d).search r page s).1 := by
  rw [Engine.search_fst, Engine.search_fst,
    fetch_forDialect hfree d' page s s']

include hfree in
/-- and the same page. -/
theorem searchPage_forDialect :
    (((c.engineWith dir config).forDialect d').searchPage r page s').1
      = (((c.engineWith dir config).forDialect d).searchPage r page s).1 := by
  rw [Engine.searchPage_fst, Engine.searchPage_fst,
    count_forDialect hfree d' s s', search_forDialect hfree d' page s s']

end Content

/-- What is made of a request for Oracle is what is made of it otherwise. It
fails with the same error, or its statements are the same with the clause after
each pattern; what they bind and the window are the same, and without patterns
all of it is. And unless a bound pattern has a backslash, the same database is
asked to the same end: as many are counted, the same keys are found in the same
order, or it all ends in the same error. -/
theorem dialect_matters_only_to_escaped_patterns (c : Content)
    (dir : Directory) (config : Config) (r : Request) (page : PageRequest)
    (s s' : Session) :
    let generic := (c.engineWith dir config).forDialect .generic
    let oracle := (c.engineWith dir config).forDialect .oracle
    ((oracle.countStatement r s').1
      = (generic.countStatement r s).1.map (·.inDialect .oracle)
        ∧ (oracle.searchStatement r page s').1
          = (generic.searchStatement r page s).1.map (·.inDialect .oracle))
      ∧ ((oracle.countStatement r s').1.map (·.statement.given)
            = (generic.countStatement r s).1.map (·.statement.given)
          ∧ (oracle.searchStatement r page s').1.map (·.statement.given)
            = (generic.searchStatement r page s).1.map (·.statement.given))
      ∧ ((∀ leaf ∈ r.condition.leaves, leaf.1.isPattern = false) →
          (oracle.countStatement r s').1 = (generic.countStatement r s).1
            ∧ (oracle.searchStatement r page s').1
              = (generic.searchStatement r page s).1)
      ∧ ((generic.setting r .generic).BindsUnescaped r.condition →
          (oracle.count r s').1 = (generic.count r s).1
            ∧ (oracle.fetch r page s').1 = (generic.fetch r page s).1
            ∧ (oracle.search r page s').1 = (generic.search r page s).1
            ∧ (oracle.searchPage r page s').1
              = (generic.searchPage r page s).1) := by
  intro generic oracle
  have hcount :=
    (c.engineWith dir config).countStatement_forDialect .generic .oracle r s s'
  have hsearch := (c.engineWith dir config).searchStatement_forDialect .generic
      .oracle r page s s'
  refine ⟨⟨hcount, hsearch⟩, ⟨?_, ?_⟩, fun hplain => ?_, fun hfree => ?_⟩
  · rw [hcount]
    cases (generic.countStatement r s).1 with
    | error err => rfl
    | ok t => exact congrArg Except.ok (t.given_inDialect .oracle)
  · rw [hsearch]
    cases (generic.searchStatement r page s).1 with
    | error err => rfl
    | ok t => exact congrArg Except.ok (t.given_inDialect .oracle)
  · have hprepare := (c.engineWith dir config).prepare_forDialect_of_no_pattern
        .generic .oracle r s s' hplain
    constructor
    · rw [Engine.countStatement_fst, Engine.countStatement_fst, hprepare]
    · rw [Engine.searchStatement_fst, Engine.searchStatement_fst, hprepare]
      rfl
  · exact ⟨Content.count_forDialect hfree .oracle s s',
      Content.fetch_forDialect hfree .oracle page s s',
      Content.search_forDialect hfree .oracle page s s',
      Content.searchPage_forDialect hfree .oracle page s s'⟩

-- ============================================================ wildcards

namespace Wildcards

/-- Two users, one of whom has a wildcard in the name. -/
def content : Content where
  metadata := .fresh
  database := Database.blank.withTable (.field .user)
    (some [⟨[(.anyId, .text "u1"), (.username, .text "a_b")]⟩,
      ⟨[(.anyId, .text "u2"), (.username, .text "axb")]⟩])

def engine (d : Dialect) : Engine :=
  (content.engineWith content.metadata.directory {}).forDialect d

def request (c : Condition) : Request where
  base := ⟨"r0", "/"⟩
  recursive := true
  scopes := []
  condition := c
  kind := .user

/-- Who is called like a pattern, or by a name that does not end in a
letter. -/
def called (pattern : String) : Condition :=
  .or (.leaf (.field "username" .like (some pattern)))
    (.notLeaf (.field "username" .ilike (some "%B")))

/-- A condition without a pattern. -/
def plain : Condition := .leaf (.field "username" .eq (some "axb"))

end Wildcards

open Wildcards in
/-- An underscore stands for any letter in both dialects; after a backslash it
stands for itself in one of them. -/
theorem wildcards_in_both_dialects :
    (((engine .generic).setting
      (request (called "a_b")) .generic).BindsUnescaped (called "a_b")
        ∧ ((engine .oracle).count (request (called "a_b")) .start).1 = .ok 2)
      ∧ ((∀ leaf ∈ plain.leaves, leaf.1.isPattern = false)
        ∧ ∃ t, ((engine .generic).searchStatement
          (request plain) .unpaged .start).1 = .ok t
          ∧ ((engine .oracle).searchStatement
            (request plain) .unpaged .start).1 = .ok t)
      ∧ ¬ ((engine .generic).setting
        (request (called "a\\_b")) .generic).BindsUnescaped (called "a\\_b")
      ∧ ((engine .generic).count (request (called "a\\_b")) .start).1 = .ok 0
      ∧ ((engine .oracle).count (request (called "a\\_b")) .start).1
        = .ok 1 := by
  have hfree : ((engine .generic).setting
      (request (called "a_b")) .generic).BindsUnescaped
      (called "a_b") := by
    decide
  have hplain : ∀ leaf ∈ plain.leaves, leaf.1.isPattern = false := by decide
  have hcount : ((engine .generic).count (request (called "a_b")) .start).1
      = .ok 2 := rfl
  obtain ⟨t, ht⟩ : ∃ t,
      ((engine .generic).searchStatement (request plain) .unpaged .start).1
      = .ok t :=
    isOk_iff.1 rfl
  obtain ⟨-, -, -, hsame⟩ := dialect_matters_only_to_escaped_patterns content
    content.metadata.directory {}
      (request (called "a_b")) .unpaged .start .start
  obtain ⟨-, -, hone, -⟩ := dialect_matters_only_to_escaped_patterns content
    content.metadata.directory {} (request plain) .unpaged .start .start
  refine ⟨⟨hfree, (hsame hfree).1.trans hcount⟩,
    ⟨hplain, t, ht, (hone hplain).2.trans ht⟩, ?_⟩
  decide

end IdentitySearch
