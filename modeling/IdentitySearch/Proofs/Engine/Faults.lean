/-
What an engine makes of failures. A statement that cannot be built is an error
before the store is asked for anything but its dialect. A count hands on
whatever fails. A search hands on what the caller has to answer for, which is
always an error of its statement, and finds nothing where store or directory
fail (`Engine.contains_faults`). Both build their statement from the same
preparation, so what is wrong with a request to be counted is wrong with it to
be searched for, whatever the page.

The dialect is known or asked for, and known once it was answered; so what a
session has learned from a count changes no answer of a search after it
(`prepare_after_count`).

# The order of the argument

- A store that fails only by faults of its own is `Store.FaultsOnly`; a
  database is one (`Content.faultsOnly`). This is all that is assumed of a
  store.
- What was asked of a store is a list that grows with the session, and
  `Session.Asked` says of which sort all that was added is. It is transitive,
  so an engine is followed from one question to the next.
- Each of count, fetch and page ends in one of two ways, before the store is
  asked or with its answer (`count_cases`, `fetch_cases`, `searchPage_cases`).
  Everything that follows is read off these three, by whether there was a
  statement.
- The parts are put together in `ContainsFaults`, over whatever store,
  directory and session there are.
-/
import IdentitySearch.Directory.Memory
import IdentitySearch.Proofs.Engine.Requests

namespace IdentitySearch

open Outcome

-- =============================================================== stores

/-- A store that fails by faults of its own, and by nothing else. -/
structure Store.FaultsOnly (store : Store) : Prop where
  detect : ∀ err, store.detect = .error err → ∃ fault, err = .store fault
  count : ∀ statement err, store.count statement = .error err →
    ∃ fault, err = .store fault
  fetch : ∀ statement err, store.fetch statement = .error err →
    ∃ fault, err = .store fault

/-- What is too high or too deep for a database fails by a fault of the store;
where neither is, the answer itself does. -/
theorem Target.limited_eq_error {α : Type} {t : Target}
    {answer : Except Error α} {err : Error}
    (hanswer : ∀ e, answer = .error e → ∃ fault, e = .store fault)
    (h : t.limited answer = .error err) : ∃ fault, err = .store fault := by
  unfold limited at h
  by_cases hhigh : heightLimit < t.selection.query.height
  · simp only [hhigh, if_true] at h
    cases h
    exact ⟨_, rfl⟩
  · simp only [hhigh, if_false] at h
    cases answer with
    | error e =>
      cases h
      exact hanswer err rfl
    | ok a =>
      by_cases hdeep : heightLimit < t.selection.query.nesting
      · simp only [hdeep, if_true] at h
        cases h
        exact ⟨_, rfl⟩
      · simp only [hdeep, if_false] at h
        cases h

/-- A missing view is a fault of the store. -/
theorem Database.requireViews_eq_error {db : Database} {views : List View}
    {err : Error} (h : db.requireViews views = .error err) :
    ∃ fault, err = .store fault := by
  unfold requireViews at h
  split at h
  · cases h
  · cases h
    exact ⟨_, rfl⟩

/-- A database fails by missing views, and by what is too large for it. -/
theorem Content.faultsOnly (c : Content) : c.store.FaultsOnly where
  detect := nofun
  count := by
    intro statement err h
    refine Target.limited_eq_error (fun e he => ?_) h
    rcases bind_eq_error.1 he with hviews | ⟨_, -, hcells⟩
    · exact Database.requireViews_eq_error hviews
    · cases hcells
  fetch := by
    intro statement err h
    refine Target.limited_eq_error (fun e he => ?_) h
    rcases bind_eq_error.1 he with hviews | ⟨_, -, hkeys⟩
    · exact Database.requireViews_eq_error hviews
    · split at hkeys
      · cases hkeys
      · split at hkeys
        · cases hkeys
        · cases hkeys
          exact ⟨_, rfl⟩

-- ============================================================= sessions

/-- A call that lists keys. -/
def Call.IsFetch : Call → Prop
  | .fetch _ => True
  | .detect | .count _ => False

namespace Session

/-- All that a store was asked since is of some sort. -/
def Asked (sort : Call → Prop) (s s' : Session) : Prop :=
  ∃ more, s'.calls = s.calls ++ more ∧ ∀ call ∈ more, sort call

variable {sort sort' : Call → Prop} {s s' s'' : Session}

theorem Asked.refl (sort : Call → Prop) (s : Session) : s.Asked sort s :=
  ⟨[], (List.append_nil _).symm, List.forall_mem_nil _⟩

/-- What was asked in two stretches of a session was asked in the whole. -/
theorem Asked.trans (h : s.Asked sort s') (h' : s'.Asked sort s'') :
    s.Asked sort s'' := by
  obtain ⟨more, hcalls, hsort⟩ := h
  obtain ⟨more', hcalls', hsort'⟩ := h'
  refine ⟨more ++ more', ?_, List.forall_mem_append.2 ⟨hsort, hsort'⟩⟩
  rw [hcalls', hcalls, List.append_assoc]

/-- What is of one sort is of a wider one. -/
theorem Asked.imp (himp : ∀ call, sort call → sort' call)
    (h : s.Asked sort s') :
    s.Asked sort' s' := by
  obtain ⟨more, hcalls, hsort⟩ := h
  exact ⟨more, hcalls, fun call hcall => himp call (hsort call hcall)⟩

theorem asked_record {call : Call} (h : sort call) (s : Session) :
    s.Asked sort (s.record call) :=
  ⟨[call], rfl, by simpa using h⟩

end Session

-- =============================================================== dialect

namespace DialectCache

variable (c : DialectCache) (domain : String) (detected : Except Error Dialect)

/-- The dialect that is given back is the one that is known, or what the
database answers. -/
theorem getOrDetect_fst : (c.getOrDetect domain detected).1
    = match c.get? domain with
      | some known => .ok known
      | none => detected := by
  unfold getOrDetect insertIfAbsent
  cases hget : c.get? domain with
  | some known => rfl
  | none => cases detected <;> rfl

/-- What was answered is known: to ask again gives the same answer. -/
theorem getOrDetect_again :
    ((c.getOrDetect domain detected).2.getOrDetect domain detected).1
    = (c.getOrDetect domain detected).1 := by
  unfold getOrDetect insertIfAbsent
  cases hget : c.get? domain with
  | some known => simp [hget]
  | none =>
    cases detected with
    | error err => simp [hget]
    | ok dialect =>
      have hnone : c.entries.lookup domain = none := hget
      have hkept : get? ⟨c.entries ++ [(domain, dialect)]⟩ domain
          = some dialect := by
        rw [get?, List.lookup_append, hnone]
        simp
      simp [hkept]

end DialectCache

namespace Engine

variable (e : Engine) (r : Request) (page : PageRequest) (s : Session)

/-- The dialect of the engine's domain where it need not be asked for. -/
def knownDialect? : Option Dialect :=
  e.config.dialect <|> s.cache.get? e.config.domain

/-- Only an engine without a dialect of its own, and without a known one, has
to ask its store for it. -/
theorem dialect_fst : (e.dialect s).1
    = match e.knownDialect? s with
      | some known => .ok known
      | none => e.store.detect := by
  unfold dialect knownDialect?
  cases e.config.dialect with
  | some configured => rfl
  | none => exact DialectCache.getOrDetect_fst _ _ _

/-- What an engine was told about its dialect it is told again. -/
theorem dialect_again : (e.dialect (e.dialect s).2).1 = (e.dialect s).1 := by
  unfold dialect
  cases e.config.dialect with
  | some configured => rfl
  | none => exact DialectCache.getOrDetect_again _ _ _

/-- Nothing but the dialect is asked of the store for it. -/
theorem asked_dialect : s.Asked (· = .detect) (e.dialect s).2 := by
  unfold dialect
  cases e.config.dialect with
  | some configured => exact .refl _ s
  | none =>
    cases s.cache.get? e.config.domain with
    | some known => exact ⟨[], (List.append_nil _).symm, List.forall_mem_nil _⟩
    | none => exact ⟨[.detect], rfl, by simp⟩

-- ========================================================== statements

/-- Nor for a prepared request. -/
theorem asked_prepare : s.Asked (· = .detect) (e.prepare r s).2 := by
  unfold prepare
  split
  · exact .refl _ s
  · exact e.asked_dialect s

/-- A prepared request depends on the session by the dialects that are
known. -/
theorem prepare_record (call : Call) :
    (e.prepare r (s.record call)).1 = (e.prepare r s).1 := by
  unfold prepare
  cases ScopeFilter.make e.directory r.base r.recursive r.scopes with
  | error err => rfl
  | ok f =>
    show (e.dialect (s.record call)).1.bind _ = (e.dialect s).1.bind _
    rw [dialect_fst, dialect_fst]
    rfl

/-- Preparing a request changes nothing about preparing it again. -/
theorem prepare_again :
    (e.prepare r (e.prepare r s).2).1 = (e.prepare r s).1 := by
  unfold prepare
  cases ScopeFilter.make e.directory r.base r.recursive r.scopes with
  | error err => rfl
  | ok f =>
    show (e.dialect (e.dialect s).2).1.bind _ = (e.dialect s).1.bind _
    rw [dialect_again]

/-- A count fails with its statement, or asks the store for it. -/
theorem count_cases :
    (∃ err, (e.countStatement r s).1 = .error err
      ∧ e.count r s = (.error err, (e.prepare r s).2))
      ∨ ∃ statement, (e.countStatement r s).1 = .ok statement
        ∧ e.count r s = (e.store.count statement,
          (e.prepare r s).2.record (.count statement)) := by
  unfold count countStatement
  obtain ⟨p, s'⟩ := e.prepare r s
  cases p with
  | error err => exact .inl ⟨err, rfl, rfl⟩
  | ok p => exact .inr ⟨⟨p.target⟩, rfl, rfl⟩

/-- A fetch fails with its statement, or asks the store for it. -/
theorem fetch_cases :
    (∃ err, (e.searchStatement r page s).1 = .error err
        ∧ e.fetch r page s = (.error err, (e.prepare r s).2))
      ∨ ∃ statement, (e.searchStatement r page s).1 = .ok statement
        ∧ e.fetch r page s
          = (e.store.fetch statement,
            (e.prepare r s).2.record (.fetch statement)) := by
  unfold fetch searchStatement
  obtain ⟨p, s'⟩ := e.prepare r s
  cases p with
  | error err => exact .inl ⟨err, rfl, rfl⟩
  | ok p =>
    show (∃ err, e.searchOf r page p = .error err ∧ _)
      ∨ ∃ statement, e.searchOf r page p = .ok statement ∧ _
    cases hsearch : e.searchOf r page p with
    | error err => exact .inl ⟨err, rfl, by simp [Except.bind, hsearch]⟩
    | ok statement =>
      exact .inr ⟨statement, rfl, by simp [Except.bind, hsearch]⟩

/-- A page fails with its count, or is searched for after it. -/
theorem searchPage_cases :
    (∃ err, (e.count r s).1 = .error err
      ∧ e.searchPage r page s = (.error err, (e.count r s).2))
      ∨ ∃ total, (e.count r s).1 = .ok total
        ∧ (e.searchPage r page s).1
          = (e.search r page (e.count r s).2).1.map (fun keys => ⟨keys, total⟩)
        ∧ (e.searchPage r page s).2 = (e.search r page (e.count r s).2).2 := by
  unfold searchPage
  obtain ⟨total, s'⟩ := e.count r s
  cases total with
  | error err => exact .inl ⟨err, rfl, rfl⟩
  | ok total => exact .inr ⟨total, rfl, rfl, rfl⟩

/-- What was learned by counting changes nothing about preparing the request
again. -/
theorem prepare_after_count :
    (e.prepare r (e.count r s).2).1 = (e.prepare r s).1 := by
  rcases e.count_cases r s with ⟨err, -, hcount⟩ | ⟨statement, -, hcount⟩
  · rw [hcount]
    exact e.prepare_again r s
  · rw [hcount, prepare_record]
    exact e.prepare_again r s

theorem search_after_count :
    (e.search r page (e.count r s).2).1 = (e.search r page s).1 := by
  rw [search_fst, search_fst, fetch_fst, fetch_fst, prepare_after_count]

-- ============================================================== failures

variable {e r page s}

/-- Without a statement to count with the store is asked for its dialect at
most, -/
theorem asked_count {err : Error} (h : (e.countStatement r s).1 = .error err) :
    s.Asked (· = .detect) (e.count r s).2 := by
  rcases e.count_cases r s with ⟨err, -, hcount⟩ | ⟨statement, hstatement, -⟩
  · rw [hcount]
    exact e.asked_prepare r s
  · cases h.symm.trans hstatement

/-- and so it is without one to search with. -/
theorem asked_search {err : Error}
    (h : (e.searchStatement r page s).1 = .error err) :
    s.Asked (· = .detect) (e.search r page s).2 := by
  rcases e.fetch_cases r page s with
    ⟨err, -, hfetch⟩ | ⟨statement, hstatement, -⟩
  · show s.Asked _ (e.fetch r page s).2
    rw [hfetch]
    exact e.asked_prepare r s
  · cases h.symm.trans hstatement

/-- Counting lists no keys. -/
theorem not_isFetch_of_count : s.Asked (¬ ·.IsFetch) (e.count r s).2 := by
  have hprepare : s.Asked (¬ ·.IsFetch) (e.prepare r s).2 :=
    (e.asked_prepare r s).imp fun call hcall => by
      rw [hcall]
      exact id
  rcases e.count_cases r s with ⟨err, -, hcount⟩ | ⟨statement, -, hcount⟩
  · rw [hcount]
    exact hprepare
  · rw [hcount]
    exact hprepare.trans (Session.asked_record id _)

/-- A count fails with whatever is wrong with its statement. -/
theorem count_of_statement_error {err : Error}
    (h : (e.countStatement r s).1 = .error err) :
    (e.count r s).1 = .error err := by
  rcases e.count_cases r s with
    ⟨err', herr, hcount⟩ | ⟨statement, hstatement, -⟩
  · cases h.symm.trans herr
    rw [hcount]
  · cases h.symm.trans hstatement

/-- A count with a statement is what the store answers, failures included. -/
theorem count_of_statement {statement : CountStatement}
    (h : (e.countStatement r s).1 = .ok statement) :
    (e.count r s).1 = e.store.count statement := by
  rcases e.count_cases r s with
    ⟨err, herr, -⟩ | ⟨statement', hstatement, hcount⟩
  · cases h.symm.trans herr
  · cases h.symm.trans hstatement
    rw [hcount]

/-- A search without a statement fails if the caller has to answer for it, and
finds nothing if the directory or the dialect failed. -/
theorem search_of_statement_error {err : Error}
    (h : (e.searchStatement r page s).1 = .error err) :
    (e.search r page s).1 = if err.isClient then .error err else .ok [] := by
  rcases e.fetch_cases r page s with
    ⟨err', herr, hfetch⟩ | ⟨statement, hstatement, -⟩
  · cases h.symm.trans herr
    rw [search_fst, hfetch]
    rfl
  · cases h.symm.trans hstatement

/-- A search with a statement is made of what the store answers. -/
theorem search_of_statement {statement : SearchStatement}
    (h : (e.searchStatement r page s).1 = .ok statement) :
    (e.search r page s).1 = answer (e.store.fetch statement) := by
  rcases e.fetch_cases r page s with
    ⟨err, herr, -⟩ | ⟨statement', hstatement, hfetch⟩
  · cases h.symm.trans herr
  · cases h.symm.trans hstatement
    rw [search_fst, hfetch]

/-- What cannot be prepared cannot be searched for. -/
theorem searchStatement_of_prepare {err : Error}
    (h : (e.prepare r s).1 = .error err) (page : PageRequest) :
    (e.searchStatement r page s).1 = .error err := by
  show (e.prepare r s).1.bind _ = _
  rw [h]
  rfl

/-- Nor what cannot be counted. -/
theorem searchStatement_of_countStatement {err : Error}
    (h : (e.countStatement r s).1 = .error err) (page : PageRequest) :
    (e.searchStatement r page s).1 = .error err :=
  searchStatement_of_prepare (map_eq_error.1 h) page

/-- Where store or directory fail, nothing is found. -/
theorem search_of_fault {statement : SearchStatement}
    {err : Error} (hstore : e.store.FaultsOnly)
    (h : (e.searchStatement r page s).1 = .ok statement)
    (hfetch : e.store.fetch statement = .error err) :
    (e.search r page s).1 = .ok [] := by
  obtain ⟨fault, rfl⟩ := hstore.fetch statement err hfetch
  rw [search_of_statement h, hfetch]
  rfl

/-- What is fetched is found. -/
theorem search_of_keys {statement : SearchStatement} {keys : List String}
    (h : (e.searchStatement r page s).1 = .ok statement)
    (hfetch : e.store.fetch statement = .ok keys) :
    (e.search r page s).1 = .ok keys.eraseDups := by
  rw [search_of_statement h, hfetch]
  rfl

/-- A search fails with its statement, if the caller has to answer for it. -/
theorem search_eq_error_iff (hstore : e.store.FaultsOnly) (err : Error) :
    (e.search r page s).1 = .error err ↔
      err.isClient = true ∧ (e.searchStatement r page s).1 = .error err := by
  cases hstatement : (e.searchStatement r page s).1 with
  | error err' =>
    rw [search_of_statement_error hstatement]
    cases hclient : err'.isClient with
    | true =>
      rw [if_pos rfl]
      constructor
      · intro h
        cases h
        exact ⟨hclient, rfl⟩
      · intro h
        cases h.2
        rfl
    | false =>
      rw [if_neg Bool.false_ne_true]
      refine iff_of_false (fun h => nomatch h) fun h => ?_
      cases h.2
      cases hclient.symm.trans h.1
  -- a statement there is: then neither a fault nor an answer is an error
  | ok statement =>
    refine iff_of_false (fun h => ?_) fun h => nomatch h.2
    cases hfetch : e.store.fetch statement with
    | error err' =>
      cases (search_of_fault hstore hstatement hfetch).symm.trans h
    | ok keys => cases (search_of_keys hstatement hfetch).symm.trans h

/-- A count that the caller has to answer for has no statement. -/
theorem countStatement_of_count_error {err : Error}
    (hstore : e.store.FaultsOnly) (hclient : err.isClient = true)
    (h : (e.count r s).1 = .error err) :
    (e.countStatement r s).1 = .error err := by
  rcases e.count_cases r s with ⟨err', herr, hcount⟩ | ⟨statement, -, hcount⟩
  · rw [hcount] at h
    cases h
    exact herr
  · rw [hcount] at h
    obtain ⟨fault, rfl⟩ := hstore.count statement err h
    cases hclient

/-- A page that cannot be counted is not searched for. -/
theorem searchPage_of_count_error {err : Error}
    (h : (e.count r s).1 = .error err) :
    e.searchPage r page s = (.error err, (e.count r s).2) := by
  rcases e.searchPage_cases r page s with
    ⟨err', herr, hpage⟩ | ⟨total, htotal, -⟩
  · cases h.symm.trans herr
    exact hpage
  · cases h.symm.trans htotal

/-- A page is what a search would have found without the count, beside the
count. -/
theorem searchPage_of_count {total : Nat} (h : (e.count r s).1 = .ok total) :
    (e.searchPage r page s).1
      = (e.search r page s).1.map (fun keys => ⟨keys, total⟩) := by
  rcases e.searchPage_cases r page s with
    ⟨err, herr, -⟩ | ⟨total', htotal, hpage, -⟩
  · cases h.symm.trans herr
  · cases h.symm.trans htotal
    rw [hpage, search_after_count]

-- =============================================================== outcome

/-- What an engine makes of failures when it counts and searches for what a
request asks for. -/
structure ContainsFaults (e : Engine) (r : Request) (page : PageRequest)
    (s : Session) : Prop where
  /-- Without a statement the store is asked for its dialect at most. -/
  count_asks : ∀ err, (e.countStatement r s).1 = .error err →
    s.Asked (· = .detect) (e.count r s).2
  search_asks : ∀ err, (e.searchStatement r page s).1 = .error err →
    s.Asked (· = .detect) (e.search r page s).2
  page_asks : ∀ err, (e.countStatement r s).1 = .error err →
    s.Asked (· = .detect) (e.searchPage r page s).2
  /-- The errors of a search are those of its statement that the caller has to
  answer for. -/
  search_error : ∀ err, (e.search r page s).1 = .error err ↔
    err.isClient = true ∧ (e.searchStatement r page s).1 = .error err
  /-- Where store or directory fail, nothing is found. -/
  search_fault : ∀ err, err.isClient = false → (e.searchStatement r page s).1
    = .error err → (e.search r page s).1 = .ok []
  search_fetch_fault : ∀ statement err,
      (e.searchStatement r page s).1 = .ok statement →
    e.store.fetch statement = .error err → (e.search r page s).1 = .ok []
  /-- Otherwise what is fetched is found, each key where it comes first. -/
  search_ok : ∀ statement keys, (e.searchStatement r page s).1
      = .ok statement → e.store.fetch statement = .ok keys →
    ∃ kept, Distinct.KeepsFirst keys kept ∧ (e.search r page s).1 = .ok kept
  /-- A count hands on what fails. -/
  count_error : ∀ err, (e.countStatement r s).1 = .error err →
    (e.count r s).1 = .error err
  count_answer : ∀ statement, (e.countStatement r s).1 = .ok statement →
    (e.count r s).1 = e.store.count statement
  /-- What the caller has to answer for when he counts is the same when he
  searches. -/
  count_client : ∀ err, err.isClient = true → (e.count r s).1 = .error err →
    ∀ page', (e.search r page' s).1 = .error err
  /-- A page fails with its count, and then no keys are listed. -/
  page_error : ∀ err, (e.count r s).1 = .error err →
    (e.searchPage r page s).1 = .error err
      ∧ s.Asked (¬ ·.IsFetch) (e.searchPage r page s).2
  /-- Otherwise it is what is found, with the number that was counted. -/
  page_answer : ∀ total, (e.count r s).1 = .ok total →
    (e.searchPage r page s).1
      = (e.search r page s).1.map (fun keys => ⟨keys, total⟩)

/-- Over a store that fails by faults of its own, failures are contained:
whatever else fails, whenever, and whatever is known. -/
theorem contains_faults (hstore : e.store.FaultsOnly) :
    e.ContainsFaults r page s where
  count_asks := fun _ h => asked_count h
  search_asks := fun _ h => asked_search h
  page_asks := by
    intro err h
    rw [searchPage_of_count_error (count_of_statement_error h)]
    exact asked_count h
  search_error := search_eq_error_iff hstore
  search_fault := by
    intro err herr h
    rw [search_of_statement_error h, herr]
    rfl
  search_fetch_fault := fun _ _ h hfetch => search_of_fault hstore h hfetch
  search_ok := fun _ keys h hfetch =>
    ⟨keys.eraseDups, Distinct.keepsFirst_eraseDups keys,
      search_of_keys h hfetch⟩
  count_error := fun _ h => count_of_statement_error h
  count_answer := fun _ h => count_of_statement h
  count_client := by
    intro err hclient h page'
    have hstatement := countStatement_of_count_error hstore hclient h
    exact (search_eq_error_iff hstore err).2
      ⟨hclient, searchStatement_of_countStatement hstatement page'⟩
  page_error := by
    intro err h
    rw [searchPage_of_count_error h]
    exact ⟨rfl, not_isFetch_of_count⟩
  page_answer := fun _ h => searchPage_of_count h

end Engine

-- ===================================================== one broken store

namespace BrokenStore

/-- Counts, and cannot list what it counts. -/
def store : Store where
  detect := .ok .generic
  count _ := .ok 7
  fetch _ := .error (.store (.reported "disk is gone"))

def engine : Engine where
  config := {}
  directory := MemoryDirectory.empty.directory
  store := store

def request (p : Predicate) : Request where
  base := ⟨"r0", "/"⟩
  recursive := true
  scopes := []
  condition := .leaf p
  kind := .user

/-- Whoever is called Ann. -/
def ann : Request := request (.field "username" .eq (some "ann"))

/-- Whoever has shoes of some size, which is no attribute. -/
def shoes : Request := request (.attribute "shoeSize" .eq (some "42"))

theorem faultsOnly : store.FaultsOnly where
  detect _ h := nomatch (h : Except.ok Dialect.generic = .error _)
  count _ _ h := nomatch (h : Except.ok 7 = .error _)
  fetch _ _ h := ⟨_, (Except.error.inj h).symm⟩

end BrokenStore

open BrokenStore in
/-- So a search in it finds nobody, although seven are counted, and an unknown
attribute is still reported. -/
theorem contains_faults_broken_store :
    engine.store.FaultsOnly
      ∧ (engine.count ann .start).1 = .ok 7
      ∧ (engine.search ann .unpaged .start).1 = .ok []
      ∧ (engine.searchPage ann .unpaged .start).1 = .ok ⟨[], 7⟩
      ∧ (engine.count shoes .start).1 = .error (.unknownSchema "shoeSize")
      ∧ (engine.search shoes .unpaged .start).1
        = .error (.unknownSchema "shoeSize")
      ∧ Session.start.Asked (¬ ·.IsFetch)
        (engine.searchPage shoes .unpaged .start).2 := by
  have hann : engine.ContainsFaults ann .unpaged .start :=
    Engine.contains_faults faultsOnly
  have hshoes : engine.ContainsFaults shoes .unpaged .start :=
    Engine.contains_faults faultsOnly
  obtain ⟨statement, hstatement⟩ :
      ∃ statement,
        (engine.searchStatement ann .unpaged .start).1 = .ok statement :=
    isOk_iff.1 rfl
  have hsearch := hann.search_fetch_fault statement _ hstatement rfl
  have hcount : (engine.count ann .start).1 = .ok 7 := rfl
  have hfails : (engine.count shoes .start).1
      = .error (.unknownSchema "shoeSize") := rfl
  refine ⟨faultsOnly, hcount, hsearch, ?_, hfails,
    hshoes.count_client _ rfl hfails .unpaged, (hshoes.page_error _ hfails).2⟩
  rw [hann.page_answer 7 hcount, hsearch]
  rfl

end IdentitySearch
