/-
Searching the base alone, and all below it. Where scopes grant realms and
nothing else, a search at and below a base compiles the same condition as one
in the base alone, and the two differ by the realms that they show. So whoever
is found in the base alone is found below it too, whatever is asked for, as
long as the base alone is no more than what is granted at and below it
(`base_alone_shows_less`). A scope that is no path can make it more: the empty
text lies over every path.

Realms only is what makes the two comparable: dynamic realms and groups would
restrict the condition of the one and not of the other. With realms only,
preparing gives the same target but for its visibility
(`prepare_congr_of_realmsOnly`), so either both are prepared or neither is. A
search without a page fails only if it cannot be prepared
(`search_unpaged_cases`); hence where the base alone is answered, so is all
that lies below it, and who is found there has to be looked for among the
realms only.
-/
import IdentitySearch.Proofs.Engine.Faults
import IdentitySearch.Proofs.Engine.Scopes
import IdentitySearch.Proofs.Scope.Recursion

namespace IdentitySearch

open Outcome

-- ============================================================= requests

namespace Request

/-- The same request at and below its base, or in its base alone. -/
def withRecursive (r : Request) (recursive : Bool) : Request :=
  { r with recursive := recursive }

end Request

namespace Engine

variable (e : Engine) (r : Request) (s : Session)

/-- A request under realms alone is prepared as the condition that it asks
for. -/
theorem prepare_of_realmsOnly {recursive : Bool} {f : ScopeFilter}
    (hf : ScopeFilter.make e.directory r.base recursive r.scopes = .ok f)
    (hrealms : f.RealmsOnly) :
    (e.prepare (r.withRecursive recursive) s).1
      = (e.dialect s).1
        >>= fun d => ((e.setting r d).ofCondition r.condition).map fun t =>
        ⟨⟨r.kind, t.selection, f.visibility⟩, t.optional⟩ := by
  rw [prepare_of_make e (r.withRecursive recursive) s hf]
  unfold prepareFor
  show ((e.dialect s).1 >>= fun d =>
    ((e.setting r d).ofCondition (f.restrict r.kind r.condition)).map _) = _
  rw [ScopeFilter.restrict_of_realmsOnly hrealms]
  rfl

/-- Under other realms a request is prepared, or fails, alike. -/
theorem prepare_congr_of_realmsOnly {recursive recursive' : Bool}
    {f g : ScopeFilter}
    (hf : ScopeFilter.make e.directory r.base recursive r.scopes = .ok f)
    (hfr : f.RealmsOnly)
    (hg : ScopeFilter.make e.directory r.base recursive' r.scopes = .ok g)
    (hgr : g.RealmsOnly) :
    (e.prepare (r.withRecursive recursive') s).1
      = (e.prepare (r.withRecursive recursive) s).1.map fun p =>
        ⟨⟨p.target.kind, p.target.selection, g.visibility⟩, p.optional⟩ := by
  rw [e.prepare_of_realmsOnly r s hf hfr,
    e.prepare_of_realmsOnly r s hg hgr, map_bind]
  refine bind_congr_ok fun d _ => ?_
  cases (e.setting r d).ofCondition r.condition <;> rfl

end Engine

-- ============================================================= databases

namespace Content

variable (c : Content) {d : Directory} (config : Config) {r : Request}
  (s : Session)
  {realms : List Realm} {wide : ScopeFilter}

variable {c} in
/-- A target that reads the core fields to show someone can be answered about
however it shows him. -/
theorem answerable_of_realms {t : Target} {keys : List String} (v : Visibility)
    (hshown : t.visibility = .inRealms keys) (h : t.Answerable c.database) :
    Target.Answerable c.database ⟨t.kind, t.selection, v⟩ := by
  refine ⟨h.nesting_le, h.has, fun view hview => ?_⟩
  rw [Visibility.eq_field_of_mem_views hview]
  refine h.has_visibility _ ?_
  rw [hshown]
  exact List.mem_singleton.2 rfl

/-- A search without page answers, or fails with its preparation. -/
theorem search_unpaged_cases (d : Directory) (r : Request) :
    (∃ err, err.isClient = true
      ∧ ((c.engineWith d config).prepare r s).1 = .error err)
      ∨ ∃ keys, ((c.engineWith d config).search r .unpaged s).1
        = .ok keys := by
  cases hsearch : ((c.engineWith d config).search r .unpaged s).1 with
  | ok keys => exact .inr ⟨keys, rfl⟩
  | error err =>
    obtain ⟨hclient, hstatement⟩ :=
      (Engine.search_eq_error_iff c.faultsOnly err).1 hsearch
    rcases bind_eq_error.1 hstatement with hprepare | ⟨p, -, hplan⟩
    · exact .inl ⟨err, hclient, hprepare⟩
    · cases hplan

variable (hscopes : r.scopes ≠ [])
  (hwide : ScopeFilter.make d r.base true r.scopes = .ok wide)
  (hrealms : wide.RealmsOnly)
  (hsubset : ∀ key ∈ (ScopeFilter.inBase r.base r.scopes).grants.realms,
    key ∈ wide.grants.realms)

include hscopes hwide hrealms in
/-- At and below a base a request is prepared as in the base alone, for other
realms. -/
theorem prepare_at_or_below :
    ((c.engineWith d config).prepare (r.withRecursive true) s).1
      = ((c.engineWith d config).prepare (r.withRecursive false) s).1.map
        fun p =>
        ⟨⟨p.target.kind, p.target.selection, wide.visibility⟩, p.optional⟩ :=
  (c.engineWith d config).prepare_congr_of_realmsOnly r s
      (ScopeFilter.make_inBase hscopes d) ScopeFilter.realmsOnly_inBase
    hwide hrealms

include hscopes hwide hrealms hsubset in
/-- Whoever a fetch lists in the base alone is listed at and below it. -/
theorem fetch_at_or_below {rows : List String} {key : String}
    (h : ((c.engineWith d config).fetch (r.withRecursive false) .unpaged s).1
      = .ok rows)
    (hkey : key ∈ rows) :
    ∃ all, ((c.engineWith d config).fetch (r.withRecursive true) .unpaged s).1
      = .ok all
      ∧ key ∈ all := by
  obtain ⟨p, hp, hanswer, rfl⟩ := (fetch_unpaged_eq_ok_iff rows).1 h
  obtain ⟨f, dialect, t, hf, -, -, rfl⟩ :=
    (Engine.prepare_eq_ok_iff _ _ s p).1 hp
  cases (ScopeFilter.make_inBase hscopes d).symm.trans hf
  obtain ⟨cell, hcell, htext⟩ := List.mem_filterMap.1 hkey
  obtain ⟨hselected, hshown⟩ := List.mem_filter.1 hcell
  obtain ⟨hsome, hadmits⟩ :=
    ScopeFilter.admits_of_subset ScopeFilter.realmsOnly_inBase hsubset hshown
  have hprepare := prepare_at_or_below c config s hscopes hwide hrealms
  rw [hp] at hprepare
  refine ⟨_, (fetch_unpaged_eq_ok_iff _).2 ⟨_, hprepare, ?_, rfl⟩, ?_⟩
  · exact answerable_of_realms wide.visibility
      (ScopeFilter.visibility_of_realms hsome) hanswer
  · refine List.mem_filterMap.2 ⟨cell,
      List.mem_filter.2 ⟨hselected, ?_⟩, htext⟩
    show wide.visibility.admits c.database r.kind cell = true
    rw [ScopeFilter.visibility_of_make hscopes hwide]
    exact hadmits

include hscopes hwide hrealms hsubset in
/-- Whoever is found in the base alone is found at and below it. -/
theorem search_at_or_below {keys : List String}
    (h : ((c.engineWith d config).search (r.withRecursive false) .unpaged s).1
    = .ok keys) :
    ∃ all, ((c.engineWith d config).search (r.withRecursive true) .unpaged s).1
      = .ok all
      ∧ ∀ key ∈ keys, key ∈ all := by
  rcases search_unpaged_cases c config s d (r.withRecursive true) with
    ⟨err, hclient, herr⟩ | ⟨all, hall⟩
  · -- what cannot be prepared for all below the base cannot be prepared for
    -- the base alone
    rw [prepare_at_or_below c config s hscopes hwide hrealms,
      map_eq_error] at herr
    have hfails := (Engine.search_eq_error_iff c.faultsOnly err).2
      ⟨hclient, Engine.searchStatement_of_prepare herr .unpaged⟩
    cases hfails.symm.trans h
  · refine ⟨all, hall, fun key hkey => ?_⟩
    obtain ⟨rows, hrows⟩ :=
      isOk_iff.1 (Engine.fetch_of_mem_search _ _ _ h hkey)
    cases (Engine.search_eq_ok _ _ s hrows).symm.trans h
    obtain ⟨more, hmore, hmem⟩ :=
      fetch_at_or_below c config s hscopes hwide hrealms hsubset hrows
        (List.mem_eraseDups.1 hkey)
    cases (Engine.search_eq_ok _ _ s hmore).symm.trans hall
    exact List.mem_eraseDups.2 hmem

/-- Where scopes grant realms and nothing else, the base alone is granted
whenever it lies at or below some scope, and at and below it only if a path
grants it. As long as one does, who is found in the base alone is found at and
below it; and one does where every scope over the base is a path, so for a base
with a path wherever the empty text is no scope. -/
theorem base_alone_shows_less (hd : d.Knows realms) (hbase : r.base ∈ realms)
    (hscopes : r.scopes ≠ [])
    (hwide : ScopeFilter.make d r.base true r.scopes = .ok wide)
    (hrealms : wide.RealmsOnly) :
    ∃ narrow, ScopeFilter.make d r.base false r.scopes = .ok narrow
      ∧ ((∀ key ∈ narrow.grants.realms, key ∈ wide.grants.realms) ↔
        ((∃ scope ∈ r.scopes, Realm.isUnder r.base.fullPath scope = true) →
          ∃ scope ∈ r.scopes,
            Realm.GrantsRealm realms r.base scope r.base.key))
      ∧ ((∀ scope ∈ r.scopes, Realm.isUnder r.base.fullPath scope = true →
          Realm.isPath scope = true) →
            ∀ key ∈ narrow.grants.realms, key ∈ wide.grants.realms)
      ∧ (Realm.isPath r.base.fullPath = true → "" ∉ r.scopes →
        ∀ key ∈ narrow.grants.realms, key ∈ wide.grants.realms)
      ∧ ((∀ key ∈ narrow.grants.realms, key ∈ wide.grants.realms) → ∀ keys,
        ((c.engineWith d config).search (r.withRecursive false) .unpaged s).1
          = .ok keys →
          ∃ all, ((c.engineWith d config).search
            (r.withRecursive true) .unpaged s).1 = .ok all
            ∧ ∀ key ∈ keys, key ∈ all) := by
  have hpaths := ScopeFilter.inBase_subset hd hbase hscopes hwide hrealms
  refine ⟨_, ScopeFilter.make_inBase hscopes d,
    ScopeFilter.inBase_subset_iff hd hscopes hwide hrealms, hpaths,
    fun hpath hempty => ?_, fun hsubset keys h =>
      search_at_or_below c config s hscopes hwide hrealms hsubset h⟩
  refine hpaths fun scope hscope hover => ?_
  refine (Realm.isPath_of_isUnder hpath hover).resolve_right fun hnone => ?_
  rw [hnone] at hscope
  exact hempty hscope

end Content

-- ========================================================= two requests

namespace FourUsers

/-- Everybody but Dee in one realm, or at and below it. -/
def inEven (scope : String) : Request :=
  { request with base := ⟨"r1", "/even"⟩, scopes := [scope] }

end FourUsers

open FourUsers in
/-- In the base alone there is one user, and with what lies below it there are
two. -/
theorem base_alone_shows_less_even :
    realms.directory.Knows realms.realms
      ∧ (inEven "/even").base ∈ realms.realms
      ∧ (inEven "/even").scopes ≠ []
      ∧ ScopeFilter.make realms.directory (inEven "/even").base true ["/even"]
        = .ok ⟨{ realms := .ofList ["r1", "r2"] }, .inRealms ["r1", "r2"]⟩
      ∧ ScopeFilter.RealmsOnly ⟨{ realms := .ofList ["r1", "r2"] },
        .inRealms ["r1", "r2"]⟩
      ∧ (engine.search
        ((inEven "/even").withRecursive false) .unpaged .start).1 = .ok ["u1"]
      ∧ (engine.search ((inEven "/even").withRecursive true) .unpaged .start).1
        = .ok ["u1", "u2"]
      ∧ ∀ key ∈ ["u1"], key ∈ ["u1", "u2"] := by
  have hbase : (inEven "/even").base ∈ realms.realms := by decide
  have hscopes : (inEven "/even").scopes ≠ [] := by decide
  have hwide :
      ScopeFilter.make realms.directory (inEven "/even").base true ["/even"]
      = .ok ⟨{ realms := .ofList ["r1", "r2"] }, .inRealms ["r1", "r2"]⟩ := rfl
  have hrealms : ScopeFilter.RealmsOnly
      ⟨{ realms := .ofList ["r1", "r2"] }, .inRealms ["r1", "r2"]⟩ :=
    ⟨KeySet.not_mem_empty, KeySet.not_mem_empty⟩
  have hsearch :
      (engine.search ((inEven "/even").withRecursive false) .unpaged .start).1
      = .ok ["u1"] :=
    (Content.answers_of_keys (r := (inEven "/even").withRecursive false)
      consistent rfl).1
  have hbelow :
      (engine.search ((inEven "/even").withRecursive true) .unpaged .start).1
      = .ok ["u1", "u2"] :=
    (Content.answers_of_keys (r := (inEven "/even").withRecursive true)
      consistent rfl).1
  obtain ⟨narrow, -, -, -, hsubset, hfound⟩ := Content.base_alone_shows_less
      content {} .start realms.knows hbase hscopes hwide hrealms
  obtain ⟨all, hall, hmem⟩ :=
    hfound (hsubset (by decide) (by decide)) ["u1"] hsearch
  cases hbelow.symm.trans hall
  exact ⟨realms.knows, hbase, hscopes, hwide, hrealms, hsearch, hbelow, hmem⟩

open FourUsers in
/-- The empty text names no realm and no dynamic realm, so at and below the
base it grants nothing. But it is at the front of every path, and in the base
alone it grants the base. -/
theorem empty_scope_shows_base_alone :
    realms.directory.Knows realms.realms ∧ (inEven "").base ∈ realms.realms
      ∧ (inEven "").scopes ≠ []
      ∧ ScopeFilter.make realms.directory (inEven "").base true [""]
        = .ok ⟨.nothing, .nobody⟩
      ∧ ScopeFilter.RealmsOnly ⟨.nothing, .nobody⟩
      ∧ ScopeFilter.make realms.directory (inEven "").base false [""]
        = .ok ⟨{ realms := .ofList ["r1"] }, .inRealms ["r1"]⟩
      ∧ (engine.search ((inEven "").withRecursive true) .unpaged .start).1
        = .ok []
      ∧ (engine.search ((inEven "").withRecursive false) .unpaged .start).1
        = .ok ["u1"] := by
  refine ⟨realms.knows, by decide, by decide, rfl,
    ⟨KeySet.not_mem_empty, KeySet.not_mem_empty⟩, rfl, ?_, ?_⟩
  · exact (Content.answers_of_keys
      (r := (inEven "").withRecursive true) consistent (by rfl)).1
  · exact (Content.answers_of_keys
      (r := (inEven "").withRecursive false) consistent (by decide)).1

end IdentitySearch
