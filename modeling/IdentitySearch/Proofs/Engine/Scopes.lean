/-
Scopes only take away. A search under scopes finds those whom the same search
finds without scopes and who are visible under them, whatever the condition is;
and a count counts them (`search_under_scopes`). A condition cannot widen this,
since what the scopes restrict a search to stands beside the whole condition:
the realms as a test on the rows, dynamic realms and owned groups as conjuncts
after it.

A disjunction in the condition is harmless, since whatever is joined is put in
parentheses: a conjunct after a condition is a conjunct of all of it, and not
of its last alternative. Whoever passes the restriction and satisfies the
condition is found, and nobody else (`mem_answers_iff_passes`); who passes it
is who is visible, by the reading of the scopes.

The search without scopes need not be assumed to succeed. It asks for less than
the one under scopes, of tables and of height, so it is answered whenever that
one is (`isOk_fetch_without_scopes`).
-/
import IdentitySearch.Proofs.Engine.Trees

namespace IdentitySearch

namespace Content

variable {c : Content} {d : Directory} {config : Config} {r : Request}
  {s : Session}

/-- An identity is found if it satisfies the condition and passes the
restriction that the scopes come to. -/
theorem mem_answers_iff_passes (hdb : c.database.Consistent r.kind)
    (hfield : config.realmField ≠ "key")
    (h : ((c.engineWith d config).fetch r .unpaged s).1.isOk = true) :
    ∃ f dialect keys, ScopeFilter.make d r.base r.recursive r.scopes = .ok f
      ∧ ((c.engineWith d config).dialect s).1 = .ok dialect
      ∧ ((c.engineWith d config).search r .unpaged s).1 = .ok keys ∧ keys.Nodup
      ∧ ((c.engineWith d config).count r s).1 = .ok keys.length
      ∧ ∀ key, key ∈ keys ↔
          ((c.engineWith d config).setting r dialect).Satisfies c.database
            r.condition key
            ∧ f.Passes c.database r.kind key := by
  obtain ⟨f, dialect, keys, hf, hd, hkeys, hnodup, hcount, -, hmem⟩ :=
    answers_of_accepts hdb h
  refine ⟨f, dialect, keys, hf, hd, hkeys, hnodup, hcount, fun key => ?_⟩
  have hlisted : ((c.engineWith d config).setting r dialect).Satisfies
      c.database r.condition key →
      c.database.Lists (.field r.kind) key := fun hkey =>
    Kind.lists_field hdb (Setting.lists_of_satisfies hkey)
  have hrestrict := Setting.satisfies_restrict c.database
    ((c.engineWith d config).setting r dialect) hfield hlisted f
  rw [hmem]
  constructor
  · intro hgiven
    rcases hgiven with ⟨hkey, hshown⟩
    obtain ⟨hcond, hdyn, hgroup⟩ := hrestrict.1 hkey
    exact ⟨hcond, hshown, hdyn, hgroup⟩
  · intro hgiven
    rcases hgiven with ⟨hcond, hshown, hdyn, hgroup⟩
    exact ⟨hrestrict.2 ⟨hcond, hdyn, hgroup⟩, hshown⟩

/-- Where a search under scopes does not fail, neither does the same search
without scopes. -/
theorem isOk_fetch_without_scopes
    (h : ((c.engineWith d config).fetch r .unpaged s).1.isOk = true) :
    ((c.engineWith d config).fetch { r with scopes := [] } .unpaged s).1.isOk
      = true := by
  obtain ⟨p, hp, hanswer⟩ := isOk_fetch_unpaged_iff.1 h
  obtain ⟨f, dialect, t, hf, hd, ht, rfl⟩ :=
    (Engine.prepare_eq_ok_iff _ r s p).1 hp
  obtain ⟨u, hu, hwithin⟩ := Setting.within_foldl_and r.condition _ t ht
  refine isOk_fetch_unpaged_iff.2
    ⟨⟨⟨r.kind, u.selection, .everyone⟩, u.optional⟩, ?_, ?_⟩
  · exact (Engine.prepare_eq_ok_iff _ _ s _).2
      ⟨⟨.nothing, .everyone⟩, dialect, u, rfl, hd, hu, rfl⟩
  · refine ⟨Nat.le_trans hwithin.query_nesting_le hanswer.nesting_le,
      fun v hv => hanswer.has v (hwithin.views_subset hv), fun v hv => ?_⟩
    cases hv

/-- Under scopes those are found, and counted, who are found without scopes and
are visible. -/
theorem search_under_scopes {realms : List Realm}
    (hdb : c.database.Consistent r.kind) (hd : d.Knows realms)
    (hfield : config.realmField = CoreField.realmName)
    (hscopes : r.scopes ≠ [])
    (h : ((c.engineWith d config).fetch r .unpaged s).1.isOk = true) :
    ∃ visible all,
      ((c.engineWith d config).search r .unpaged s).1 = .ok visible
      ∧ ((c.engineWith d config).search { r with scopes := [] } .unpaged s).1
        = .ok all
      ∧ ((c.engineWith d config).count r s).1 = .ok visible.length
      ∧ visible.Nodup
      ∧ ∀ key, key ∈ visible ↔
          key ∈ all ∧ Visible c.database d realms r.kind r.base r.recursive
            r.scopes key := by
  have hkey : config.realmField ≠ "key" := by
    rw [hfield]
    decide
  obtain ⟨f, dialect, visible, hf, hdialect, hvisible, hnodup, hcount, hmem⟩ :=
    mem_answers_iff_passes hdb hkey h
  obtain ⟨f₀, dialect₀, all, hf₀, hdialect₀, hall, -, -, hmemAll⟩ :=
    mem_answers_iff_passes (r := { r with scopes := [] }) hdb hkey
      (isOk_fetch_without_scopes h)
  cases hdialect.symm.trans hdialect₀
  refine ⟨visible, all, hvisible, hall, hcount, hnodup, fun key => ?_⟩
  rw [hmem, hmemAll,
    ScopeFilter.passes_iff_visible c.database hd hscopes hf key]
  refine and_congr_left fun _ => (and_iff_left ?_).symm
  exact ScopeFilter.passes_of_scopes_nil c.database hf₀ key

end Content

-- ========================================================== four users

namespace FourUsers

/-- A user in a realm. -/
def user (key name realm : String) : Row :=
  ⟨[(.anyId, .text key), (.username, .text name), (.realmId, .text realm)]⟩

/-- Four users in three realms. Two of them are members of a group. -/
def content : Content where
  metadata := .fresh
  database :=
    (Database.blank.withTable (.field .user)
      (some [user "u1" "ann" "r1", user "u2" "bob" "r2", user "u3" "cid" "r3",
        user "u4" "dee" "r1"])).withTable (.membership .user)
      (some [⟨[(.anyId, .text "u2"), (.groupId, .text "g")]⟩,
        ⟨[(.anyId, .text "u3"), (.groupId, .text "g")]⟩])

/-- One realm below another, and one beside it. -/
def realms : MemoryDirectory :=
  ((MemoryDirectory.empty.addRealm ⟨"r1", "/even"⟩).addRealm
    ⟨"r2", "/even/two"⟩).addRealm ⟨"r3", "/odd"⟩

def engine : Engine := content.engineWith realms.directory {}

/-- Everybody but Dee, on behalf of someone who holds a realm and owns the
group. -/
def request : Request where
  base := ⟨"r0", "/"⟩
  recursive := true
  scopes := ["/even", "/even@g"]
  condition := .or (.notLeaf (.field "username" .eq (some "dee")))
    (.leaf (.field "username" .eq (some "cid")))
  kind := .user

theorem consistent : content.database.Consistent .user := by
  decide

end FourUsers

open FourUsers in
/-- Of the users whom the condition finds only one is both in a granted realm
and in the group that is owned. -/
theorem search_under_scopes_four_users :
    content.database.Consistent .user ∧ realms.directory.Knows realms.realms
      ∧ request.scopes ≠ []
      ∧ (engine.fetch request .unpaged .start).1.isOk = true
      ∧ (engine.search request .unpaged .start).1 = .ok ["u2"]
      ∧ (engine.search { request with scopes := [] } .unpaged .start).1
        = .ok ["u1", "u2", "u3"]
      ∧ (engine.count request .start).1 = .ok 1
      ∧ ∀ key, key ∈ ["u2"] ↔ key ∈ ["u1", "u2", "u3"]
          ∧ Visible content.database realms.directory realms.realms .user
            request.base true
              request.scopes key := by
  have hscopes : request.scopes ≠ [] := by decide
  have hok : (engine.fetch request .unpaged .start).1.isOk = true := by
    decide +kernel
  have hfound : (engine.search request .unpaged .start).1 = .ok ["u2"] :=
    (Content.answers_of_keys (r := request) consistent (by decide +kernel)).1
  have hall : (engine.search { request with scopes := [] } .unpaged .start).1
      = .ok ["u1", "u2", "u3"] :=
    (Content.answers_of_keys (r := { request with scopes := [] }) consistent
      rfl).1
  obtain ⟨visible, all, hvisible, hunscoped, hcount, -, hmem⟩ :=
    Content.search_under_scopes (c := content) (d := realms.directory)
      (r := request) (s := .start) consistent realms.knows rfl hscopes hok
  cases hfound.symm.trans hvisible
  cases hall.symm.trans hunscoped
  exact ⟨consistent, realms.knows, hscopes, hok, hfound, hall, hcount, hmem⟩

end IdentitySearch
