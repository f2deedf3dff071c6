/-
The order of what a search lists. Whatever rows are joined to identities,
whatever is said of an identity more than once and whatever repetitions are
dropped, the identities come in the order that is asked for, each by the first
of its picks (`search_in_order`).

The order of one statement is known; what is added here is the way to it. A
request that is prepared has a statement that sorts by the keys that the
directory finds for its clauses (`sortsBy_statementFor`). Clauses that it does
not find are skipped on both sides, so the keys named and the keys sorted by
are the same list. On consistent views whatever such a statement fetches is in
order (`fetch_in_order`), and dropping repetitions leaves it so, since the
first occurrence is the one that is kept. An answer to a failed fetch is an
empty list, and an empty list is in any order.
-/
import Mathlib.Data.List.Permutation
import IdentitySearch.Proofs.Engine.Faults
import IdentitySearch.Proofs.Engine.Pages
import IdentitySearch.Proofs.Sort.Picks

namespace IdentitySearch

namespace Content

variable {c : Content} {d : Directory} {config : Config} {r : Request}
  {s : Session}

/-- A search for prepared identities sorts by what its clauses name. -/
theorem sortsBy_statementFor {p : Engine.Prepared} {plan : SortPlan}
    {sort : List SortClause}
    (hp : ((c.engineWith d config).prepare r s).1 = .ok p)
    (hplan : SortPlan.make r.kind d sort = .ok plan) :
    ((c.engineWith d config).statementFor { sort := sort } p plan).SortsBy
      r.kind
      (r.kind.named d sort) := by
  obtain ⟨-, -, hkind⟩ := view_of_prepare hp
  obtain ⟨keys, hkeys, hconflict, rfl⟩ := SortPlan.make_eq_ok_iff.1 hplan
  rw [Kind.named_eq hkeys]
  exact ⟨hkind, rfl, hconflict⟩

/-- What is fetched, each once, is in the order that is asked for. -/
theorem fetch_in_order (hdb : c.database.Consistent r.kind)
    {sort : List SortClause} {rows : List String}
    (h : ((c.engineWith d config).fetch r { sort := sort } s).1 = .ok rows) :
    c.database.ListsInOrder r.kind (r.kind.named d sort) rows.eraseDups := by
  obtain ⟨p, plan, hp, hplan, hstore⟩ :=
    (Engine.fetch_eq_ok_iff _ r s _ rows).1 h
  obtain ⟨-, hkeys⟩ := (c.fetch_eq_ok_iff _ rows).1 hstore
  have hunpaged : ((c.engineWith d config).statementFor
      { sort := sort } p plan).keys c.database
      = rows := hkeys
  rw [← hunpaged]
  exact (sortsBy_statementFor hp hplan).keys_in_order hdb
    (keyed_of_prepare hdb hp)

/-- A search whose sort is accepted lists identities in the order that is asked
for: whenever one stands before another, the first pick of the other does not
precede its own. A request that can be prepared is answered, and whatever is
answered is in order. -/
theorem search_in_order (hdb : c.database.Consistent r.kind)
    {sort : List SortClause}
    (hsort : (SortPlan.make r.kind d sort).isOk = true) :
    (((c.engineWith d config).prepare r s).1.isOk = true →
        ∃ keys, ((c.engineWith d config).search r { sort := sort } s).1
          = .ok keys)
      ∧ ∀ keys, ((c.engineWith d config).search r { sort := sort } s).1
        = .ok keys →
          c.database.ListsInOrder r.kind (r.kind.named d sort) keys := by
  constructor
  · intro hr
    obtain ⟨plan, hplan⟩ := Outcome.isOk_iff.1 hsort
    obtain ⟨p, hp⟩ := Outcome.isOk_iff.1 hr
    have hfetch : ((c.engineWith d config).fetch r { sort := sort } s).1
        = c.store.fetch
          ((c.engineWith d config).statementFor { sort := sort } p plan) := by
      rw [Engine.fetch_fst, hp]
      show (SortPlan.make r.kind d sort >>= _) = _
      rw [hplan]
      rfl
    cases hanswer : c.store.fetch
      ((c.engineWith d config).statementFor { sort := sort } p plan) with
    | ok rows => exact ⟨_, Engine.search_eq_ok _ r s (hfetch.trans hanswer)⟩
    | error err =>
      obtain ⟨fault, rfl⟩ := c.faultsOnly.fetch _ err hanswer
      rw [Engine.search_fst, hfetch, hanswer]
      exact ⟨[], rfl⟩
  · intro keys hkeys
    cases hfetch : ((c.engineWith d config).fetch r { sort := sort } s).1 with
    | ok rows =>
      cases (Engine.search_eq_ok _ r s hfetch).symm.trans hkeys
      exact fetch_in_order hdb hfetch
    | error err =>
      have hnone : keys = [] := by
        rw [List.eq_nil_iff_forall_not_mem]
        intro key hkey
        have hok := Engine.fetch_of_mem_search _ r s hkeys hkey
        rw [hfetch] at hok
        cases hok
      subst hnone
      exact ⟨(fun _ hid => nomatch hid), .nil⟩

end Content

-- =========================================================== nicknames

namespace Nicknames

open ThreeUsers (value nick directory)

/-- One of two users has two nicknames, and the other one has none. -/
def lopsided : Content := content ["u1", "u2"] [("u2", "bo"), ("u2", "joe")]

/-- The last nicknames first. -/
def lastFirst : List SortClause := [⟨"nick", .descending⟩, ⟨"key", .ascending⟩]

/-- The users with their nicknames are consistent, -/
theorem consistent_lopsided : lopsided.database.Consistent .user :=
  consistent (by decide)

/-- and no attribute of the order is required of them. -/
theorem fulfils_lastFirst :
    lopsided.database.Fulfils .user directory lastFirst := by
  intro clause hclause
  have hsame : (⟨clause.property, .ascending⟩ : SortClause) ∈ sort := by
    rcases List.mem_cons.1 hclause with rfl | hclause
    · decide
    · cases List.mem_singleton.1 hclause
      decide
  exact fulfils lopsided ⟨clause.property, .ascending⟩ hsame

/-- The user without a nickname is sorted by NULL, -/
theorem cell_nick_eq_null {x : Pick} (hx : x.IsOf lopsided.database .user
    (Kind.named .user directory lastFirst) "u1") :
    x.cell (.attribute nick) = .null := by
  have hnobody : ∀ row ∈ lopsided.database.rows (.attribute .user),
      row.get .anyId ≠ .text "u1" := by
    decide
  rcases (hx (.attribute nick, .descending) (by decide)).cell_attribute with
    ⟨row, hheld, -⟩ | hnone
  · exact absurd hheld.anyId (hnobody row hheld.mem)
  · exact hnone.2

/-- and the other one by a nickname. -/
theorem cell_nick_ne_null {x : Pick} (hx : x.IsOf lopsided.database .user
    (Kind.named .user directory lastFirst) "u2") :
    x.cell (.attribute nick) ≠ .null := by
  have hnames : ∀ row ∈ lopsided.database.rows (.attribute .user),
      row.get .stringValue ≠ .null := by
    decide +kernel
  have hheld : lopsided.database.HoldsValue .user "u2" nick
      (value "u2" "nick" "bo") :=
    ⟨by decide +kernel, by decide, rfl⟩
  rcases (hx (.attribute nick, .descending) (by decide)).cell_attribute with
    ⟨row, hrow, hcell⟩ | hnone
  · rw [hcell]
    exact hnames row hrow.mem
  · exact absurd hheld (hnone.1 _)

end Nicknames

open ThreeUsers (nick directory request) in
open Nicknames in
/-- In descending order who has nicknames comes first, by the last of them, and
who has none comes last. -/
theorem search_in_order_nicknames :
    lopsided.database.Consistent .user
      ∧ (SortPlan.make .user directory lastFirst).isOk = true
      ∧ ((lopsided.engineWith directory {}).prepare request .start).1.isOk
        = true
      ∧ ((lopsided.engineWith directory {}).search request
        { sort := lastFirst } .start).1
          = .ok ["u2", "u1"] := by
  have hsort : (SortPlan.make .user directory lastFirst).isOk = true := rfl
  have hprepared :
        ((lopsided.engineWith directory {}).prepare request .start).1.isOk
      = true := rfl
  have hok : ((lopsided.engineWith directory {}).fetch request
      { sort := lastFirst } .start).1.isOk
      = true := rfl
  have hplain :
      ((lopsided.engineWith directory {}).search request .unpaged .start).1
      = .ok ["u1", "u2"] :=
    (Content.answers_of_keys (r := request) consistent_lopsided rfl).1
  obtain ⟨hanswers, hordered⟩ := Content.search_in_order (c := lopsided)
      (d := directory) (r := request) (s := .start) consistent_lopsided hsort
  obtain ⟨keys, hkeys⟩ := hanswers hprepared
  obtain ⟨hfirst, hpairs⟩ := hordered keys hkeys
  refine ⟨consistent_lopsided, hsort, hprepared, hkeys.trans (congrArg _ ?_)⟩
  -- both users are listed, so only their order is left to settle
  obtain ⟨rows, plain, hfetch, hunsorted, -, -, hmem⟩ :=
    Content.fetch_sorted (c := lopsided) (d := directory) (r := request)
      (s := .start) consistent_lopsided fulfils_lastFirst hok
  cases hplain.symm.trans hunsorted
  cases (Engine.search_eq_ok _ request .start hfetch).symm.trans hkeys
  have hperm : rows.eraseDups.Perm ["u1", "u2"] :=
    (List.perm_ext_iff_of_nodup (Distinct.nodup_eraseDups rows) (by decide)).2
      fun key => by
      rw [List.mem_eraseDups, hmem]
  rcases List.perm_pair.1 hperm with hlisted | hlisted
  · rw [hlisted] at hfirst hpairs
    obtain ⟨x, hx⟩ := hfirst "u1" (by decide)
    obtain ⟨y, hy⟩ := hfirst "u2" (by decide)
    have hnot := (List.pairwise_cons.1 hpairs).1 "u2" (by decide) x y hx hy
    refine absurd ⟨[], .attribute nick, .descending, _, rfl,
      (fun _ hk => nomatch hk), ?_⟩ hnot
    show (x.cell (.attribute nick)).Lower (y.cell (.attribute nick))
    rw [cell_nick_eq_null hx.isOf]
    exact .null (cell_nick_ne_null hy.isOf)
  · exact hlisted

end IdentitySearch
