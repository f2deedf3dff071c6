/-
Sorting decides about the order and nothing else. However a search is sorted,
it lists whom the unsorted search lists, each once, and as many as are counted
(`search_sorted`): rows that a join repeats are listed once, and no join drops
an identity.

Both searches are prepared alike, as the sort is no part of what is prepared. A
sort could lose somebody by a join, and does not since every source has a row
for every identity (`SortPlan.joins_of_lists`); it could list somebody twice,
and does not since an answer drops repetitions. What remains to be seen of a
given sort is that the database fulfils its schemas (`Database.Fulfils`): an
attribute that is required of everyone is there, for else its view is joined as
it is and those without the attribute are gone.
-/
import IdentitySearch.Proofs.Engine.Trees

namespace IdentitySearch

namespace Content

variable {c : Content} {d : Directory} {config : Config} {r : Request}
  {s : Session}

/-- A fetch of everything in some order, whose rows have the keys of the
unsorted search. -/
theorem fetch_sorted (hdb : c.database.Consistent r.kind)
    {sort : List SortClause} (hrows : c.database.Fulfils r.kind d sort)
    (h : ((c.engineWith d config).fetch r { sort := sort } s).1.isOk = true) :
    ∃ rows plain,
      ((c.engineWith d config).fetch r { sort := sort } s).1 = .ok rows
      ∧ ((c.engineWith d config).search r .unpaged s).1 = .ok plain
      ∧ plain.Nodup
      ∧ ((c.engineWith d config).count r s).1 = .ok plain.length
      ∧ ∀ key, key ∈ rows ↔ key ∈ plain := by
  obtain ⟨rows, hfetch⟩ := Outcome.isOk_iff.1 h
  obtain ⟨p, hp, hanswer, hmem⟩ := mem_of_fetch hdb hrows rfl hfetch
  obtain ⟨hplain, hcount⟩ := search_of_prepare hdb hp hanswer
  have hkeyed := keyed_of_prepare hdb hp
  refine ⟨rows, _, hfetch, hplain, Target.nodup_keys hkeyed, hcount,
    fun key => ?_⟩
  rw [hmem, Target.mem_keys hkeyed]

/-- A sorted search lists whom the unsorted one lists, each once, and as many
as are counted. -/
theorem search_sorted (hdb : c.database.Consistent r.kind)
    {sort : List SortClause} (hrows : c.database.Fulfils r.kind d sort)
    (h : ((c.engineWith d config).fetch r { sort := sort } s).1.isOk = true) :
    ∃ keys plain,
      ((c.engineWith d config).search r { sort := sort } s).1 = .ok keys
      ∧ ((c.engineWith d config).count r s).1 = .ok keys.length ∧ keys.Nodup
      ∧ ((c.engineWith d config).search r .unpaged s).1 = .ok plain
      ∧ ∀ key, key ∈ keys ↔ key ∈ plain := by
  obtain ⟨rows, plain, hfetch, hplain, hnodup, hcount, hmem⟩ :=
    fetch_sorted hdb hrows h
  refine ⟨rows.eraseDups, plain, Engine.search_eq_ok _ r s hfetch, ?_,
    Distinct.nodup_eraseDups rows, hplain, fun key => ?_⟩
  · rw [Distinct.length_eraseDups_eq hnodup hmem]
    exact hcount
  · rw [List.mem_eraseDups, hmem]

end Content

-- ========================================================== three users

namespace ThreeUsers

/-- The value of an attribute. -/
def value (key schema text : String) : Row :=
  ⟨[(.anyId, .text key), (.schemaId, .text schema),
    (.stringValue, .text text)]⟩

/-- Three users, each with a code; one with two nicknames and two without
any. -/
def content : Content where
  metadata := .fresh
  database :=
    ((Database.blank.withTable (.field .user)
      (some [⟨[(.anyId, .text "u1")]⟩, ⟨[(.anyId, .text "u2")]⟩,
        ⟨[(.anyId, .text "u3")]⟩])).withTable (.attribute .user)
      (some [value "u3" "nick" "joe", value "u3" "nick" "bo"])).withTable
      (.uniqueAttribute .user)
      (some [value "u1" "code" "c", value "u2" "code" "a",
        value "u3" "code" "b"])

/-- A code, which everybody has to himself. -/
def code : Schema :=
  { key := "code", type := .string, unique := true,
    mandatoryCondition := "true" }

/-- A nickname, of which one may have none or several. -/
def nick : Schema := { key := "nick", type := .string, multivalue := true }

def directory : Directory :=
  ((MemoryDirectory.empty.addSchema code).addSchema nick).directory

def engine : Engine := content.engineWith directory {}

/-- Everybody is asked for. -/
def request : Request where
  base := ⟨"r0", "/"⟩
  recursive := true
  scopes := []
  condition := .leaf (.field "key" .isNotNull none)
  kind := .user

/-- By nickname, then by code. -/
def sort : List SortClause := [⟨"nick", .descending⟩, ⟨"code", .ascending⟩]

theorem consistent : content.database.Consistent .user := by
  decide

/-- Everyone has a code, and a nickname is not required. -/
theorem fulfils : content.database.Fulfils .user directory sort := by
  intro clause hclause schema hnamed hmandatory key hkey
  have hnick : Kind.sortKey? .user directory "nick"
      = .ok (some (.attribute nick)) := rfl
  have hcode : Kind.sortKey? .user directory "code"
      = .ok (some (.attribute code)) := rfl
  have hcodes : ∀ row ∈ content.database.rows (.field .user),
      ∃ other ∈ content.database.rows (.uniqueAttribute .user),
        other.isOf "code" = true ∧ other.get .anyId = row.get .anyId := by
          decide
  rcases List.mem_cons.1 hclause with rfl | hclause
  · cases hnick.symm.trans hnamed
    cases hmandatory
  · cases List.mem_singleton.1 hclause
    cases hcode.symm.trans hnamed
    obtain ⟨row, hrow, hanyId⟩ := hkey
    rw [← hanyId]
    exact hcodes row hrow

end ThreeUsers

open ThreeUsers in
/-- Sorted by nicknames, of which one user has two and one has none, everyone
is listed once. -/
theorem search_sorted_three_users :
    content.database.Consistent .user
      ∧ content.database.Fulfils .user directory sort
      ∧ (engine.fetch request { sort := sort } .start).1.isOk = true
      ∧ (engine.search request .unpaged .start).1 = .ok ["u1", "u2", "u3"]
      ∧ (engine.count request .start).1 = .ok 3
      ∧ ∃ keys, (engine.search request { sort := sort } .start).1 = .ok keys
        ∧ keys.Nodup
          ∧ keys.length = 3 ∧ ∀ key, key ∈ keys
            ↔ key ∈ ["u1", "u2", "u3"] := by
  have hok : (engine.fetch request { sort := sort } .start).1.isOk = true :=
    rfl
  have hplain : (engine.search request .unpaged .start).1
      = .ok ["u1", "u2", "u3"] :=
    (Content.answers_of_keys (r := request) consistent rfl).1
  obtain ⟨keys, plain, hkeys, hcount, hnodup, hunsorted, hmem⟩ :=
    Content.search_sorted (c := content) (d := directory) (r := request)
      (s := .start) consistent fulfils hok
  cases hplain.symm.trans hunsorted
  have hlength : keys.length = 3 :=
    ((List.perm_ext_iff_of_nodup hnodup (by decide)).2 hmem).length_eq
  rw [hlength] at hcount
  exact ⟨consistent, fulfils, hok, hplain, hcount, keys, hkeys, hnodup,
    hlength, hmem⟩

end IdentitySearch
