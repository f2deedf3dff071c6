/-
Pages of a search. A page is a window on the rows of a search, and repetitions
are dropped from each page by itself. So pages tile the result exactly if
repetitions do not get in their way: the rows before the last page are all of
different identities, none of these comes again on the last page, and no
identity has its first row after it (`pages_tile_iff`). Where every identity
has one row, as with core fields and attributes of one value, this is so; an
attribute with several values spoils it.

# The order of the argument

- Windows first: pages of any list, put together again, are the list
  (`Window.flatten_pages`), and a page that begins within it and is not the
  last is full.
- Then repetitions. A page loses what it repeats, so all but the last have to
  be full as they are; then they are without repetitions, one by one and
  together (`tileable_of_flatten_eq`). The other way round is a calculation
  with the whole list (`flatten_eq_of_tileable`).
- How many pages there are is decided by the count, and that is the number of
  identities, not of rows. So the last page may end before the rows do, which
  is why `Tileable` asks that nothing new comes after it (`complete`).
- The rows themselves are what an unpaged search fetches, and a page of it is a
  window on them (`fetch_page`).
-/
import IdentitySearch.Proofs.Engine.Sorting
import IdentitySearch.Proofs.Sort.SingleRows

namespace IdentitySearch

-- ============================================================= windows

namespace Window

/-- A page of a list: the window of its number. -/
def page (size i : Nat) : Window := ⟨i * size, size⟩

variable {α : Type} (size : Nat) (l : List α)

theorem length_page_le (i : Nat) : ((page size i).apply l).length ≤ size := by
  simp only [apply, page, List.length_take]
  omega

/-- A page that the list reaches beyond is full. -/
theorem length_page_eq {i : Nat} (h : (i + 1) * size ≤ l.length) :
    ((page size i).apply l).length = size := by
  rw [Nat.succ_mul] at h
  simp only [apply, page, List.length_take, List.length_drop]
  omega

/-- A page after some others. -/
theorem take_succ_mul (k : Nat) :
    l.take ((k + 1) * size) = l.take (k * size) ++ (page size k).apply l := by
  rw [Nat.succ_mul, List.take_add]
  rfl

/-- Pages one after the other. -/
theorem flatten_pages (k : Nat) :
    ((List.range k).map fun i => (page size i).apply l).flatten
      = l.take (k * size) := by
  induction k with
  | zero => simp
  | succ k ih =>
    rw [List.range_succ, List.map_append, List.flatten_append, ih,
      take_succ_mul]
    simp

/-- A page is part of all that comes before a later one. -/
theorem page_sublist_take {i k : Nat} (h : i < k) :
    ((page size i).apply l).Sublist (l.take (k * size)) := by
  rw [← flatten_pages]
  exact List.sublist_flatten_of_mem
    (List.mem_map.2 ⟨i, List.mem_range.2 h, rfl⟩)

end Window

-- ============================================================== tiling

/-- The number of pages of some size that hold so many. -/
def Pagination.count (total size : Nat) : Nat :=
  (total + size - 1) / size

/-- Pages that are needed are begun. -/
theorem Pagination.lt_of_count_eq_succ {total size k : Nat} (hsize : 0 < size)
    (h : count total size = k + 1) : k * size < total := by
  have hle : (k + 1) * size ≤ total + size - 1 := by
    rw [← h]
    exact Nat.div_mul_le_self _ _
  rw [Nat.succ_mul] at hle
  omega

/-- Without pages there is nothing to be paged. -/
theorem Pagination.eq_zero_of_count_eq_zero {total size : Nat}
    (hsize : 0 < size) (h : count total size = 0) : total = 0 := by
  unfold count at h
  rw [Nat.div_eq_zero_iff] at h
  omega

/-- Repetitions in some rows do not get in the way of pages: the rows before
the last page are all different, none of them comes again on it, and nothing is
left that has not come by its end. -/
structure Tileable (rows : List String) (size pages : Nat) : Prop where
  nodup : (rows.take ((pages - 1) * size)).Nodup
  fresh : ∀ key ∈ (Window.page size (pages - 1)).apply rows,
    key ∉ rows.take ((pages - 1) * size)
  complete : ∀ key ∈ rows, key ∈ rows.take (pages * size)

variable {rows : List String} {size : Nat}

/-- Where no page before the last one repeats a key, only the last one is
shortened. -/
theorem flatten_distinct_pages (size : Nat) {k : Nat}
    (h : ∀ i < k, ((Window.page size i).apply rows).Nodup) :
    ((List.range (k + 1)).map fun i =>
      ((Window.page size i).apply rows).eraseDups).flatten
      = rows.take (k * size)
        ++ ((Window.page size k).apply rows).eraseDups := by
  have hpages :
      ((List.range k).map fun i => ((Window.page size i).apply rows).eraseDups)
      = (List.range k).map fun i => (Window.page size i).apply rows :=
    List.map_congr_left fun i hi =>
      Distinct.eraseDups_of_nodup (h i (List.mem_range.1 hi))
  rw [List.range_succ, List.map_append, List.flatten_append, hpages,
    Window.flatten_pages]
  simp

/-- Rows that pages tile are tileable: full pages repeat nothing, and all pages
together repeat nothing. -/
theorem tileable_of_flatten_eq {k : Nat}
    (hflat : ((List.range (k + 1)).map
      fun i => ((Window.page size i).apply rows).eraseDups).flatten
        = rows.eraseDups)
    (hfull : ∀ i, i + 1 < k + 1 →
      ((Window.page size i).apply rows).eraseDups.length = size) :
    Tileable rows size (k + 1) := by
  have hpages : ∀ i < k, ((Window.page size i).apply rows).Nodup := by
    intro i hi
    have hlength := Window.length_page_le size rows i
    have hdropped :=
      (Distinct.eraseDups_sublist ((Window.page size i).apply rows)).length_le
    have hsize := hfull i (by omega)
    exact Distinct.nodup_of_length_eraseDups (by omega)
  rw [flatten_distinct_pages size hpages] at hflat
  have hnodup : (rows.take (k * size)
      ++ ((Window.page size k).apply rows).eraseDups).Nodup := by
    rw [hflat]
    exact Distinct.nodup_eraseDups rows
  obtain ⟨hbefore, -, hdisjoint⟩ := List.nodup_append.1 hnodup
  refine ⟨hbefore, fun key hkey hin => ?_, fun key hkey => ?_⟩
  · exact hdisjoint key hin key (List.mem_eraseDups.2 hkey) rfl
  · rw [← List.mem_eraseDups, ← hflat, List.mem_append,
      List.mem_eraseDups] at hkey
    rw [Window.take_succ_mul, List.mem_append]
    exact hkey

/-- Tileable rows are tiled by pages, the last of which begins within them. -/
theorem flatten_eq_of_tileable {k : Nat} (h : Tileable rows size (k + 1))
    (hbegun : k * size < rows.length) :
    ((List.range (k + 1)).map fun i =>
      ((Window.page size i).apply rows).eraseDups).flatten
        = rows.eraseDups
      ∧ ∀ i, i + 1 < k + 1 →
        ((Window.page size i).apply rows).eraseDups.length = size := by
  have hpages : ∀ i < k, ((Window.page size i).apply rows).Nodup := fun i hi =>
    (Window.page_sublist_take size rows hi).nodup h.nodup
  constructor
  · -- what comes behind the last page has come before, so it may be dropped
    -- with all other repetitions
    calc ((List.range (k + 1)).map fun i =>
           ((Window.page size i).apply rows).eraseDups).flatten
        = rows.take (k * size)
          ++ ((Window.page size k).apply rows).eraseDups :=
          flatten_distinct_pages size hpages
      _ = (rows.take (k * size)).eraseDups
          ++ ((Window.page size k).apply rows).eraseDups := by
          rw [Distinct.eraseDups_of_nodup (l := rows.take (k * size)) h.nodup]
      _ = (rows.take (k * size)
          ++ (Window.page size k).apply rows).eraseDups :=
          (Distinct.eraseDups_append_of_disjoint h.fresh).symm
      _ = (rows.take ((k + 1) * size)
          ++ rows.drop ((k + 1) * size)).eraseDups := by
          rw [← Window.take_succ_mul,
            Distinct.eraseDups_append_of_subset fun key hkey =>
            h.complete key (List.mem_of_mem_drop hkey)]
      _ = rows.eraseDups := by rw [List.take_append_drop]
  · intro i hi
    have hfits : (i + 1) * size ≤ k * size :=
      Nat.mul_le_mul_right size (by omega)
    rw [Distinct.eraseDups_of_nodup (hpages i (by omega)),
      Window.length_page_eq size rows (by omega)]

/-- Pages with repetitions dropped from each tile the rows with all repetitions
dropped exactly if the rows are tileable. -/
theorem flatten_pages_eq_iff (hsize : 0 < size) :
    (((List.range (Pagination.count rows.eraseDups.length size)).map
          fun i => ((Window.page size i).apply rows).eraseDups).flatten
            = rows.eraseDups
      ∧ ∀ i, i + 1 < Pagination.count rows.eraseDups.length size →
          ((Window.page size i).apply rows).eraseDups.length = size)
      ↔ Tileable rows size (Pagination.count rows.eraseDups.length size) := by
  have hshort := (Distinct.eraseDups_sublist rows).length_le
  cases hcount : Pagination.count rows.eraseDups.length size with
  | zero =>
    have hempty := List.eq_nil_of_length_eq_zero
        (Pagination.eq_zero_of_count_eq_zero hsize hcount)
    have hrows : rows = [] :=
      List.eq_nil_iff_forall_not_mem.2 fun key hkey => by
      rw [← List.mem_eraseDups, hempty] at hkey
      cases hkey
    subst hrows
    refine iff_of_true ⟨rfl, fun i hi => absurd hi (by omega)⟩ ⟨?_, ?_, ?_⟩ <;>
      simp [Window.apply]
  | succ k =>
    have hbegun := Pagination.lt_of_count_eq_succ hsize hcount
    constructor
    · exact fun h => tileable_of_flatten_eq h.1 h.2
    · exact fun h => flatten_eq_of_tileable h (by omega)

/-- Without repetitions rows can always be tiled. -/
theorem Tileable.of_nodup (hsize : 0 < size) (h : rows.Nodup) :
    Tileable rows size (Pagination.count rows.eraseDups.length size) := by
  rw [Distinct.eraseDups_of_nodup h]
  have hcomplete : rows.length ≤ Pagination.count rows.length size * size := by
    have hdiv := Nat.lt_div_mul_add (a := rows.length + size - 1) hsize
    unfold Pagination.count
    omega
  refine ⟨h.sublist (List.take_sublist _ _), ?_, fun key hkey => ?_⟩
  · cases Pagination.count rows.length size with
    | zero => simp
    | succ k =>
      intro key hkey hin
      have hboth :
          (rows.take (k * size) ++ (Window.page size k).apply rows).Nodup := by
        rw [← Window.take_succ_mul]
        exact h.sublist (List.take_sublist _ _)
      exact (List.nodup_append.1 hboth).2.2 key hin key hkey rfl
  · rw [List.take_of_length_le hcomplete]
    exact hkey

-- ============================================================== engines

namespace Content

variable {c : Content} {d : Directory} {config : Config} {r : Request}
  {s : Session}

/-- A page of a search is a window on the rows of the whole search. -/
theorem fetch_page {sort : List SortClause} {all : List String}
    {p : Pagination}
    (hall : ((c.engineWith d config).fetch r { sort := sort } s).1 = .ok all)
    (h : ((c.engineWith d config).fetch r
      { pagination := some p, sort := sort } s).1.isOk = true) :
    ((c.engineWith d config).fetch r
        { pagination := some p, sort := sort } s).1
      = .ok ((Window.page (config.clampPageSize p.size) p.page).apply all) := by
  obtain ⟨q, plan, hq, hplan, hstore⟩ :=
    (Engine.fetch_eq_ok_iff _ r s _ all).1 hall
  obtain ⟨-, hkeys⟩ := (c.fetch_eq_ok_iff _ all).1 hstore
  obtain ⟨keys, hfetch⟩ := Outcome.isOk_iff.1 h
  obtain ⟨q', plan', hq', hplan', hstore'⟩ :=
    (Engine.fetch_eq_ok_iff _ r s _ keys).1 hfetch
  cases hq.symm.trans hq'
  cases hplan.symm.trans hplan'
  obtain ⟨-, hwindow⟩ := (c.fetch_eq_ok_iff _ keys).1 hstore'
  rw [hfetch, ← hwindow, ← hkeys]
  rfl

/-- Where sorted attributes have one value at most, no key comes twice among
the rows. -/
theorem nodup_of_singleValued (hdb : c.database.Consistent r.kind)
    {sort : List SortClause} (hsingle : c.database.SingleValued r.kind d sort)
    {rows : List String}
    (h : ((c.engineWith d config).fetch r { sort := sort } s).1 = .ok rows) :
    rows.Nodup := by
  obtain ⟨p, plan, hp, hplan, hstore⟩ :=
    (Engine.fetch_eq_ok_iff _ r s _ rows).1 h
  obtain ⟨-, hkeys⟩ := (c.fetch_eq_ok_iff _ rows).1 hstore
  obtain ⟨-, -, hkind⟩ := view_of_prepare hp
  rw [← hkeys]
  apply SearchStatement.nodup_keys_of_keysDiffer (keyed_of_prepare hdb hp)
  show ∀ source ∈ plan.sources (.field p.target.kind)
      (plan.optional || p.optional), _
  rw [hkind]
  exact SortPlan.keysDiffer_of_singleValued hplan hsingle _

/-- Pages tile the result exactly if the rows of the search are tileable, as
they are where every sorted attribute has one value at most. -/
theorem pages_tile_iff (hdb : c.database.Consistent r.kind)
    {sort : List SortClause} (hrows : c.database.Fulfils r.kind d sort)
    {size : Nat} (hsize : 0 < config.clampPageSize size)
    (h : ((c.engineWith d config).fetch r { sort := sort } s).1.isOk = true)
    {total : Nat}
    (hcount : ((c.engineWith d config).count r s).1 = .ok total)
    (hpages : ∀ i < Pagination.count total (config.clampPageSize size),
      ((c.engineWith d config).fetch r
        { pagination := some ⟨i, size⟩, sort := sort } s).1.isOk = true) :
    ∃ (rows keys : List String) (pages : Nat → List String),
      ((c.engineWith d config).fetch r { sort := sort } s).1 = .ok rows
      ∧ ((c.engineWith d config).search r { sort := sort } s).1 = .ok keys
      ∧ keys.length = total ∧ keys.Nodup
      ∧ (∀ i < Pagination.count total (config.clampPageSize size),
          ((c.engineWith d config).search r
              { pagination := some ⟨i, size⟩, sort := sort } s).1
            = .ok (pages i))
      ∧ ((((List.range (Pagination.count total
                (config.clampPageSize size))).map pages).flatten
              = keys
            ∧ ∀ i, i + 1 < Pagination.count total (config.clampPageSize size) →
                (pages i).length = config.clampPageSize size)
          ↔ Tileable rows (config.clampPageSize size)
              (Pagination.count total (config.clampPageSize size)))
      ∧ (c.database.SingleValued r.kind d sort →
          Tileable rows (config.clampPageSize size)
            (Pagination.count total (config.clampPageSize size))) := by
  obtain ⟨rows, plain, hfetch, -, hnodup, hplain, hmem⟩ :=
    fetch_sorted hdb hrows h
  have htotal : rows.eraseDups.length = total := by
    rw [Distinct.length_eraseDups_eq hnodup hmem]
    cases hplain.symm.trans hcount
    rfl
  subst htotal
  refine ⟨rows, rows.eraseDups,
    fun i => ((Window.page (config.clampPageSize size) i).apply
      rows).eraseDups, hfetch, Engine.search_eq_ok _ r s hfetch,
    rfl, Distinct.nodup_eraseDups rows, fun i hi => ?_,
      flatten_pages_eq_iff hsize, fun hsingle => ?_⟩
  · exact Engine.search_eq_ok _ r s (fetch_page hfetch (hpages i hi))
  · exact .of_nodup hsize (nodup_of_singleValued hdb hsingle hfetch)

/-- The rows of a search that joins them in order, worked out. -/
theorem fetch_of_inOrder {page : PageRequest} {keys : List String}
    {p : Engine.Prepared} {plan : SortPlan}
    (hp : ((c.engineWith d config).prepare r s).1 = .ok p)
    (hplan : SortPlan.make r.kind d page.sort = .ok plan)
    (hanswer : ((c.engineWith d config).statementFor page p plan).Answerable
      c.database)
    (horder : ((c.engineWith d config).statementFor page p plan).InOrder
      c.database)
    (hkeys : ((c.engineWith d config).statementFor page p plan).inWindow
        ((((c.engineWith d config).statementFor page p plan).distinctRows
          c.database).filterMap fun (row : SortedRow) => row.key.text?)
          = keys) :
    ((c.engineWith d config).fetch r page s).1 = .ok keys := by
  refine (Engine.fetch_eq_ok_iff _ r s page keys).2 ⟨p, plan, hp, hplan, ?_⟩
  refine (c.fetch_eq_ok_iff _ keys).2 ⟨hanswer, ?_⟩
  rw [← hkeys, SearchStatement.keys_of_inOrder horder]

end Content

-- ========================================================== nicknames

namespace Nicknames

open ThreeUsers (value nick directory request)

/-- Users with nicknames. -/
def content (users : List String)
    (names : List (String × String)) : Content where
  metadata := .fresh
  database :=
    (Database.blank.withTable (.field .user)
      (some (users.map fun key => ⟨[(.anyId, .text key)]⟩))).withTable
      (.attribute .user)
      (some (names.map fun (key, name) => value key "nick" name))

/-- The first of two users has two nicknames. -/
def early : Content :=
  content ["u1", "u2"] [("u1", "al"), ("u1", "bo"), ("u2", "cy")]

/-- The last of three users has two nicknames. -/
def late : Content :=
  content ["u1", "u2", "u3"] [("u1", "al"), ("u2", "bo"), ("u3", "cy"),
    ("u3", "di")]

/-- By nickname, then by key. -/
def sort : List SortClause := [⟨"nick", .ascending⟩, ⟨"key", .ascending⟩]

/-- A page of some size. -/
def page (size i : Nat) : PageRequest :=
  { pagination := some ⟨i, size⟩, sort := sort }

/-- Users with nicknames are consistent if nobody but users has one. -/
theorem consistent {users : List String} {names : List (String × String)}
    (h : ∀ n ∈ names, n.1 ∈ users) :
    (content users names).database.Consistent .user where
  keyed := by
    intro row hrow
    obtain ⟨key, -, rfl⟩ := List.mem_map.1 hrow
    exact ⟨key, rfl⟩
  keyed_attributes := by
    intro unique row hrow
    cases unique with
    | false =>
      obtain ⟨n, -, rfl⟩ := List.mem_map.1 hrow
      exact ⟨n.1, rfl⟩
    | true => cases hrow
  listed := by
    intro unique key hkey
    obtain ⟨row, hrow, hanyId⟩ := hkey
    cases unique with
    | false =>
      obtain ⟨n, hn, rfl⟩ := List.mem_map.1 hrow
      cases hanyId
      exact ⟨_, List.mem_map_of_mem (h n hn), rfl⟩
    | true => cases hrow

theorem consistent_early : early.database.Consistent .user :=
  consistent (by decide)

theorem consistent_late : late.database.Consistent .user :=
  consistent (by decide)

/-- Nothing that is sorted by is required of anyone. -/
theorem fulfils (c : Content) : c.database.Fulfils .user directory sort := by
  intro clause hclause schema hnamed hmandatory
  have hnick : Kind.sortKey? .user directory "nick"
      = .ok (some (.attribute nick)) := rfl
  have hkey : Kind.sortKey? .user directory "key"
      = .ok (some
        (.field { name := "key", column := .anyId, type := .string })) := rfl
  rcases List.mem_cons.1 hclause with rfl | hclause
  · cases hnick.symm.trans hnamed
    cases hmandatory
  · cases List.mem_singleton.1 hclause
    cases hkey.symm.trans hnamed

/-- Where the first user has two nicknames, his rows come first, -/
theorem fetch_early :
    ((early.engineWith directory {}).fetch request { sort := sort } .start).1
    = .ok ["u1", "u1", "u2"] :=
  Content.fetch_of_inOrder rfl rfl (by decide) (by decide)
    (by decide +kernel)

/-- and where the last one has them, his come last. -/
theorem fetch_late :
    ((late.engineWith directory {}).fetch request { sort := sort } .start).1
    = .ok ["u1", "u2", "u3", "u3"] :=
  Content.fetch_of_inOrder rfl rfl (by decide +kernel) (by decide +kernel)
    (by decide +kernel)

end Nicknames

open ThreeUsers (directory request) in
open Nicknames in
/-- In pages of one, the user with two nicknames fills both pages and the other
user is on neither. -/
theorem pages_repeat_and_miss :
    early.database.Consistent .user
      ∧ early.database.Fulfils .user directory sort
      ∧ ((early.engineWith directory {}).search request
        { sort := sort } .start).1
          = .ok ["u1", "u2"]
      ∧ ((early.engineWith directory {}).count request .start).1 = .ok 2
      ∧ Pagination.count 2 1 = 2
      ∧ ((early.engineWith directory {}).search request (page 1 0) .start).1
        = .ok ["u1"]
      ∧ ((early.engineWith directory {}).search request (page 1 1) .start).1
        = .ok ["u1"]
      ∧ [["u1"], ["u1"]].flatten ≠ ["u1", "u2"] := by
  have hfirst :
      ((early.engineWith directory {}).fetch request (page 1 0) .start).1
      = .ok ["u1"] := Content.fetch_page fetch_early (by rfl)
  have hsecond :
      ((early.engineWith directory {}).fetch request (page 1 1) .start).1
      = .ok ["u1"] := Content.fetch_page fetch_early (by rfl)
  have hcount : ((early.engineWith directory {}).count request .start).1
      = .ok ["u1", "u2"].length :=
    (Content.answers_of_keys (r := request) consistent_early rfl).2
  exact ⟨consistent_early, fulfils early,
    Engine.search_eq_ok _ request .start fetch_early, hcount,
    rfl, Engine.search_eq_ok _ request .start hfirst,
    Engine.search_eq_ok _ request .start hsecond, by decide⟩

open ThreeUsers (directory request) in
open Nicknames in
/-- In pages of two the last user has both rows on the last page, where one of
them is dropped: the pages tile the result. -/
theorem pages_tile_iff_nicknames :
    late.database.Consistent .user ∧ late.database.Fulfils .user directory sort
      ∧ 0 < ({} : Config).clampPageSize 2
      ∧ ((late.engineWith directory {}).fetch request
        { sort := sort } .start).1.isOk = true
      ∧ ((late.engineWith directory {}).count request .start).1 = .ok 3
      ∧ (∀ i < 2, ((late.engineWith directory {}).fetch request
        (page 2 i) .start).1.isOk = true)
      ∧ ∃ first second,
        ((late.engineWith directory {}).search request (page 2 0) .start).1
            = .ok first
          ∧ ((late.engineWith directory {}).search request (page 2 1) .start).1
            = .ok second
          ∧ first.length = 2 ∧ first ++ second = ["u1", "u2", "u3"] := by
  have hok : ((late.engineWith directory {}).fetch request
      { sort := sort } .start).1.isOk = true :=
    Outcome.isOk_iff.2 ⟨_, fetch_late⟩
  have hpages : ∀ i < Pagination.count 3 (({} : Config).clampPageSize 2),
      ((late.engineWith directory {}).fetch request (page 2 i) .start).1.isOk
        = true := by
    decide
  have hcount : ((late.engineWith directory {}).count request .start).1
      = .ok ["u1", "u2", "u3"].length :=
    (Content.answers_of_keys (r := request) consistent_late rfl).2
  obtain ⟨rows, keys, pages, hrows, hkeys, -, -, hsearch, htile, -⟩ :=
    Content.pages_tile_iff (c := late) (d := directory) (r := request)
      (s := .start) consistent_late (fulfils late)
        (by decide : 0 < ({} : Config).clampPageSize 2) hok hcount hpages
  cases fetch_late.symm.trans hrows
  cases (Engine.search_eq_ok _ request .start fetch_late).symm.trans hkeys
  have htileable : Tileable ["u1", "u2", "u3", "u3"] 2 2 :=
    ⟨by decide, by decide, by decide⟩
  obtain ⟨hflat, hfull⟩ := htile.2 htileable
  refine ⟨consistent_late, fulfils late, by decide, hok, hcount, hpages,
    pages 0, pages 1, hsearch 0 (by decide), hsearch 1 (by decide),
      hfull 0 (by decide), ?_⟩
  have hkeys : ["u1", "u2", "u3", "u3"].eraseDups = ["u1", "u2", "u3"] := by
    decide
  rw [hkeys] at hflat
  simpa [Pagination.count, Config.clampPageSize, List.range_succ] using hflat

end IdentitySearch
