/-
What an engine does with a request. A request is prepared in a fixed order, and
each answer that comes back says what went before it: the scopes gave a
restriction, the dialect was known, the restricted condition compiled
(`prepare_eq_ok_iff`), and the store answered the statement (`count_eq_ok_iff`,
`fetch_eq_ok_iff`).

On a database whose views are consistent the answers of the two statements
agree: a search without a page lists the identities of the target, each once,
however it is sorted, and a count is their number (`search_of_prepare`).

# What depends on what

The first two sections are about any store. An outcome depends on the session
by the dialect alone, and what follows is said of the outcomes, not of the
sessions they leave. Two stores that detect the same dialect prepare the same
(`prepare_withStore`); a store matters again only where a statement is put to
it.

The last section is about stores that are contents of a database. A request
prepared there has a target whose leftmost view is consistent
(`keyed_of_prepare`), and of such a target the statements have been shown
elsewhere to list the same identities. This is what the properties of searches
start from, and they do not look at the preparing again.
-/
import IdentitySearch.Proofs.Distinct
import IdentitySearch.Proofs.Sort.Joins

namespace IdentitySearch

open Outcome

-- ============================================================ preparing

namespace Engine

variable (e : Engine) (r : Request) (s : Session)

/-- A request is prepared where its scopes give a restriction, the dialect is
known and the restricted condition compiles. -/
theorem prepare_eq_ok_iff (p : Prepared) :
    (e.prepare r s).1 = .ok p ↔
      ∃ f d t, ScopeFilter.make e.directory r.base r.recursive r.scopes = .ok f
        ∧ (e.dialect s).1 = .ok d
        ∧ (e.setting r d).ofCondition (f.restrict r.kind r.condition) = .ok t
        ∧ p = ⟨⟨r.kind, t.selection, f.visibility⟩, t.optional⟩ := by
  unfold prepare
  cases hf : ScopeFilter.make e.directory r.base r.recursive r.scopes with
  | error err => simp
  | ok f =>
    simp only [Except.ok.injEq, exists_and_left, exists_eq_left']
    constructor
    · intro h
      obtain ⟨d, hd, h⟩ := bind_eq_ok.1 h
      obtain ⟨t, ht, rfl⟩ := map_eq_ok.1 h
      exact ⟨d, hd, t, ht, rfl⟩
    · intro hgiven
      rcases hgiven with ⟨d, hd, t, ht, rfl⟩
      exact bind_eq_ok.2 ⟨d, hd, map_eq_ok.2 ⟨t, ht, rfl⟩⟩

/-- A request fails with its scopes. -/
theorem prepare_of_make_error {err : Error}
    (h : ScopeFilter.make e.directory r.base r.recursive r.scopes
      = .error err) :
    (e.prepare r s).1 = .error err := by
  unfold prepare
  rw [h]

/-- Once the scopes are clear, it depends on the dialect and the condition. -/
theorem prepare_of_make {f : ScopeFilter}
    (h : ScopeFilter.make e.directory r.base r.recursive r.scopes = .ok f) :
    (e.prepare r s).1 = (e.dialect s).1 >>= e.prepareFor r f := by
  unfold prepare
  rw [h]
  rfl

/-- The statement for a prepared request. -/
def statementFor (page : PageRequest) (p : Prepared)
    (plan : SortPlan) : SearchStatement where
  target := p.target
  plan := plan
  augmented := plan.optional || p.optional
  window := page.pagination.map e.window

/-- A count prepares the request and asks the store. -/
theorem count_fst :
    (e.count r s).1
      = ((e.prepare r s).1 >>= fun p => e.store.count ⟨p.target⟩) := by
  unfold count countStatement
  obtain ⟨p, s'⟩ := e.prepare r s
  cases p <;> rfl

/-- A fetch prepares the request, plans the sort and asks the store. -/
theorem fetch_fst (page : PageRequest) :
    (e.fetch r page s).1 = ((e.prepare r s).1 >>= fun p =>
      SortPlan.make r.kind e.directory page.sort >>= fun plan =>
        e.store.fetch (e.statementFor page p plan)) := by
  unfold fetch searchStatement searchOf
  obtain ⟨p, s'⟩ := e.prepare r s
  cases p with
  | error err => rfl
  | ok p => cases SortPlan.make r.kind e.directory page.sort <;> rfl

/-- A count answers if the request is prepared and the store answers its
statement, -/
theorem count_eq_ok_iff (n : Nat) :
    (e.count r s).1 = .ok n ↔
      ∃ p, (e.prepare r s).1 = .ok p ∧ e.store.count ⟨p.target⟩ = .ok n := by
  rw [count_fst, bind_eq_ok]

/-- and a fetch if the sort is accepted besides. -/
theorem fetch_eq_ok_iff (page : PageRequest) (keys : List String) :
    (e.fetch r page s).1 = .ok keys ↔
      ∃ p plan, (e.prepare r s).1 = .ok p
        ∧ SortPlan.make r.kind e.directory page.sort = .ok plan
        ∧ e.store.fetch (e.statementFor page p plan) = .ok keys := by
  simp only [fetch_fst, bind_eq_ok, exists_and_left]

theorem search_fst (page : PageRequest) :
    (e.search r page s).1 = answer (e.fetch r page s).1 :=
  rfl

/-- A search that reports no failure answers the keys of the fetch, each
once. -/
theorem search_eq_ok {page : PageRequest} {keys : List String}
    (h : (e.fetch r page s).1 = .ok keys) :
    (e.search r page s).1 = .ok keys.eraseDups := by
  show answer (e.fetch r page s).1 = _
  rw [h]
  rfl

/-- A search that answers anything has reported no failure. -/
theorem fetch_of_mem_search {page : PageRequest} {keys : List String}
    {key : String} (h : (e.search r page s).1 = .ok keys) (hkey : key ∈ keys) :
    (e.fetch r page s).1.isOk = true := by
  have hanswer : answer (e.fetch r page s).1 = .ok keys := h
  cases hfetch : (e.fetch r page s).1 with
  | ok rows => rfl
  | error err =>
    rw [hfetch, answer] at hanswer
    split at hanswer
    · cases hanswer
    · cases hanswer
      cases hkey

end Engine

-- ========================================================= other stores

namespace Engine

/-- The same engine over another store. -/
def withStore (e : Engine) (store : Store) : Engine :=
  { config := e.config, directory := e.directory, store := store }

variable (e : Engine) {store : Store}

theorem setting_withStore (r : Request) (dialect : Dialect) :
    (e.withStore store).setting r dialect = e.setting r dialect :=
  rfl

/-- Which dialect there is depends on the store by what it detects. -/
theorem dialect_withStore (hdetect : store.detect = e.store.detect)
    (s : Session) :
    (e.withStore store).dialect s = e.dialect s := by
  unfold dialect
  simp only [withStore, hdetect]
  cases e.config.dialect <;> rfl

/-- What is prepared depends on the store by no more. -/
theorem prepare_withStore (hdetect : store.detect = e.store.detect)
    (r : Request) (s : Session) :
    (e.withStore store).prepare r s = e.prepare r s := by
  unfold prepare
  simp only [dialect_withStore e hdetect]
  rfl

/-- What another store is asked is what this one would be. -/
theorem fetch_withStore (hdetect : store.detect = e.store.detect) (r : Request)
    (page : PageRequest) (s : Session) :
    ((e.withStore store).fetch r page s).1
      = (e.prepare r s).1 >>= fun p =>
        SortPlan.make r.kind e.directory page.sort >>= fun plan =>
          store.fetch (e.statementFor page p plan) := by
  rw [fetch_fst, prepare_withStore e hdetect]
  rfl

end Engine

-- ============================================================ databases

/-- The engine that searches a database with the lookups of some directory. -/
def Content.engineWith (c : Content) (d : Directory)
    (config : Config) : Engine :=
  { config := config, directory := d, store := c.store }

namespace Content

variable {c : Content} {d : Directory} {config : Config} {r : Request}
  {s : Session}
  {p : Engine.Prepared}

/-- What is prepared reads the view that its condition begins with. -/
theorem view_of_prepare
    (hp : ((c.engineWith d config).prepare r s).1 = .ok p) :
    ∃ leaf, p.target.selection.view = r.kind.askedView d leaf
      ∧ p.target.kind = r.kind := by
  obtain ⟨f, dialect, t, -, -, ht, rfl⟩ :=
    (Engine.prepare_eq_ok_iff _ r s p).1 hp
  exact ⟨_, (Setting.ofCondition_eq_ok _ ht).1, rfl⟩

/-- The view that a prepared target starts from has keys in all rows. -/
theorem keyed_of_prepare (hdb : c.database.Consistent r.kind)
    (hp : ((c.engineWith d config).prepare r s).1 = .ok p) :
    c.database.Keyed p.target.selection.view := by
  obtain ⟨leaf, hview, -⟩ := view_of_prepare hp
  rw [hview]
  exact Kind.keyed_askedView hdb

/-- Whoever is found is listed among the core fields. -/
theorem lists_of_includes (hdb : c.database.Consistent r.kind)
    (hp : ((c.engineWith d config).prepare r s).1 = .ok p) {key : String}
    (hkey : p.target.Includes c.database key) :
    c.database.Lists (.field r.kind) key := by
  obtain ⟨leaf, hview, -⟩ := view_of_prepare hp
  have hlisted := Selection.lists_of_selects c.database hkey.1
  rw [hview] at hlisted
  exact Kind.lists_field hdb hlisted

/-- A count is the number of the identities of the target. -/
theorem count_of_prepare (hdb : c.database.Consistent r.kind)
    (hp : ((c.engineWith d config).prepare r s).1 = .ok p)
    (hanswer : p.target.Answerable c.database) :
    ((c.engineWith d config).count r s).1
      = .ok (p.target.keys c.database).length := by
  refine (Engine.count_eq_ok_iff _ r s _).2 ⟨p, hp,
    (c.count_eq_ok_iff _ _).2 ⟨hanswer, ?_⟩⟩
  exact Target.length_cells (keyed_of_prepare hdb hp)

/-- However a fetch without a page is sorted, its rows have the keys of the
identities of the target. -/
theorem mem_of_fetch {page : PageRequest} {rows : List String}
    (hdb : c.database.Consistent r.kind)
    (hrows : c.database.Fulfils r.kind d page.sort)
    (hpage : page.pagination = none)
    (h : ((c.engineWith d config).fetch r page s).1 = .ok rows) :
    ∃ p, ((c.engineWith d config).prepare r s).1 = .ok p
      ∧ p.target.Answerable c.database
      ∧ ∀ key, key ∈ rows ↔ p.target.Includes c.database key := by
  obtain ⟨p, plan, hp, hplan, hstore⟩ :=
    (Engine.fetch_eq_ok_iff _ r s page rows).1 h
  obtain ⟨hanswer, hkeys⟩ := (c.fetch_eq_ok_iff _ rows).1 hstore
  refine ⟨p, hp, hanswer.target, fun key => ?_⟩
  have hwindow :
        (Engine.statementFor (c.engineWith d config) page p plan).window
      = none := by
    rw [Engine.statementFor, hpage]
    rfl
  rw [SearchStatement.inWindow, hwindow] at hkeys
  subst hkeys
  rw [SearchStatement.mem_keys_iff (keyed_of_prepare hdb hp)]
  refine and_iff_left_of_imp fun hkey => ?_
  obtain ⟨-, -, hkind⟩ := view_of_prepare hp
  show ∀ source ∈ plan.sources (.field p.target.kind)
      (plan.optional || p.optional), _
  rw [hkind]
  refine SortPlan.joins_of_lists hdb hplan hrows (fun hoptional => ?_)
    (lists_of_includes hdb hp hkey)
  rw [hoptional, Bool.true_or]

/-- An unsorted fetch of everything lists the identities of the target. -/
theorem fetch_unpaged_eq_ok_iff (rows : List String) :
    ((c.engineWith d config).fetch r .unpaged s).1 = .ok rows ↔
      ∃ p, ((c.engineWith d config).prepare r s).1 = .ok p
        ∧ p.target.Answerable c.database
        ∧ p.target.keys c.database = rows := by
  rw [Engine.fetch_eq_ok_iff]
  constructor
  · intro h
    rcases h with ⟨p, plan, hp, hplan, hstore⟩
    cases hplan
    obtain ⟨hanswer, hkeys⟩ := (c.fetch_eq_ok_iff _ rows).1 hstore
    have hunsorted : ((c.engineWith d config).statementFor .unpaged p {}).keys
        c.database = _ :=
      SearchStatement.keys_of_items_eq_nil rfl
    exact ⟨p, hp, hanswer.target, hunsorted.symm.trans hkeys⟩
  · intro h
    rcases h with ⟨p, hp, hanswer, rfl⟩
    refine ⟨p, {}, hp, rfl, (c.fetch_eq_ok_iff _ _).2 ⟨⟨hanswer, ?_, ?_⟩, ?_⟩⟩
    · intro source hsource
      cases hsource
    · intro w hw
      cases hw
    · exact SearchStatement.keys_of_items_eq_nil rfl

/-- A fetch without a page succeeds if the request is prepared and its target
can be answered about. -/
theorem isOk_fetch_unpaged_iff :
    ((c.engineWith d config).fetch r .unpaged s).1.isOk = true ↔
      ∃ p, ((c.engineWith d config).prepare r s).1 = .ok p
        ∧ p.target.Answerable c.database := by
  simp only [isOk_iff, fetch_unpaged_eq_ok_iff]
  constructor
  · intro h
    rcases h with ⟨rows, p, hp, hanswer, -⟩
    exact ⟨p, hp, hanswer⟩
  · intro h
    rcases h with ⟨p, hp, hanswer⟩
    exact ⟨_, p, hp, hanswer, rfl⟩

/-- The answers to a request that is prepared and can be answered: the
identities of the target are listed, and counted. -/
theorem search_of_prepare (hdb : c.database.Consistent r.kind)
    (hp : ((c.engineWith d config).prepare r s).1 = .ok p)
    (hanswer : p.target.Answerable c.database) :
    ((c.engineWith d config).search r .unpaged s).1
      = .ok (p.target.keys c.database)
      ∧ ((c.engineWith d config).count r s).1
        = .ok (p.target.keys c.database).length := by
  have hnodup := Target.nodup_keys (keyed_of_prepare hdb hp)
  have hfetch := (fetch_unpaged_eq_ok_iff _).2 ⟨p, hp, hanswer, rfl⟩
  refine ⟨?_, count_of_prepare hdb hp hanswer⟩
  rw [Engine.search_eq_ok _ r s hfetch, Distinct.eraseDups_of_nodup hnodup]

end Content

end IdentitySearch
