/-
Realms looked up in tables and in memory. Tables that took some realms and
dynamic realms one after the other hold them in that order, memory holds the
realms in the order of their full paths (`Metadata.Holds` and
`MemoryDirectory.Keeps`, kept by each entry, and so by all of them); but no
path and no identifier is there twice, so both find the same. What scopes grant
rests on these lookups alone, and is then the same over either directory
(`directories_agree`). The tables take exactly the entries that differ from
each other in key, in path and in identifier (`ofEntries_eq_ok_iff`).

# The order of the argument

- Two lists of realms that are permutations of each other answer alike, as long
  as no path comes twice: a lookup by path finds the one realm there is, and a
  listing is sorted before it is read.
- Each of the two loads is followed entry by entry. For the tables the
  invariant is `Holds`, and an entry is either taken and kept or it repeats
  what is there (`insertEntry_cases`); memory takes every entry, and keeps
  `Keeps` where the entries differ (`keeps_addEntry`).
- At the end both hold permutations of one list (`Metadata.agreeOnRealms`), and
  what a filter makes of the lookups is a function of them
  (`AgreeOnRealms.make`).
-/
import Mathlib.Data.List.Nodup
import IdentitySearch.Directory.Entry
import IdentitySearch.Scope
import IdentitySearch.Proofs.Outcome

namespace IdentitySearch

open Outcome

-- ===================================================== realms in a list

namespace Realm

variable {realms more : List Realm} {path : String} {r : Realm}

/-- Where no path is there twice, a realm is found by its path wherever it
stands. -/
theorem find?_eq_some_iff (h : (realms.map fullPath).Nodup) :
    (realms.find? fun r => r.fullPath = path) = some r
      ↔ r ∈ realms ∧ r.fullPath = path := by
  constructor
  · intro hfind
    exact ⟨List.mem_of_find?_eq_some hfind, by
      simpa using List.find?_some hfind⟩
  · intro hgiven
    obtain ⟨hr, hpath⟩ := hgiven
    cases hfind : realms.find? fun r => r.fullPath = path with
    | none =>
      exact absurd hpath (by simpa using List.find?_eq_none.1 hfind r hr)
    | some s =>
      have hs : s.fullPath = path := by simpa using List.find?_some hfind
      rw [List.inj_on_of_nodup_map h (List.mem_of_find?_eq_some hfind) hr
        (hs.trans hpath.symm)]

/-- So it is found alike in whatever order the realms are. -/
theorem find?_eq_of_perm (h : (realms.map fullPath).Nodup)
    (hperm : realms.Perm more) :
    (realms.find? fun r => r.fullPath = path)
      = more.find? fun r => r.fullPath = path := by
  refine Option.ext fun r => ?_
  rw [find?_eq_some_iff h,
    find?_eq_some_iff ((hperm.map fullPath).nodup_iff.1 h), hperm.mem_iff]

/-- Ordered by their full paths, with no path there twice. -/
def Ascending (realms : List Realm) : Prop :=
  realms.Pairwise fun r s => r.fullPath < s.fullPath

/-- What ascends strictly has no path twice. -/
theorem Ascending.nodup (h : Ascending realms) :
    (realms.map fullPath).Nodup := by
  unfold List.Nodup
  rw [List.pairwise_map]
  refine h.imp fun hlt heq => ?_
  rw [heq] at hlt
  exact String.lt_irrefl _ hlt

/-- Realms ordered by their full paths are the ones that sorting them gives. -/
theorem mergeSort_eq_of_perm (h : Ascending more) (hperm : realms.Perm more) :
    (realms.mergeSort fun r s => decide (r.fullPath ≤ s.fullPath)) = more := by
  have hsorted :
      (realms.mergeSort fun r s => decide (r.fullPath ≤ s.fullPath)).Pairwise
      fun r s => decide (r.fullPath ≤ s.fullPath) = true := by
    refine List.pairwise_mergeSort (fun a b c hab hbc => ?_)
      (fun a b => ?_) realms
    · simp only [decide_eq_true_eq] at hab hbc ⊢
      exact String.le_trans hab hbc
    · simp only [Bool.or_eq_true, decide_eq_true_eq]
      exact String.le_total a.fullPath b.fullPath
  refine List.Perm.eq_of_pairwise (fun a b ha hb hab hba => ?_) hsorted
    (h.imp fun hlt => ?_) ((List.mergeSort_perm realms _).trans hperm)
  · simp only [decide_eq_true_eq] at hab hba
    have ha' : a ∈ more := hperm.mem_iff.1 (List.mem_mergeSort.1 ha)
    exact List.inj_on_of_nodup_map h.nodup ha' hb (String.le_antisymm hab hba)
  · simp only [decide_eq_true_eq]
    exact String.not_lt.1 fun hgt =>
      String.lt_irrefl _ (String.lt_trans hlt hgt)

end Realm

-- ==================================================== placing in memory

namespace MemoryDirectory

variable {realms : List Realm} {r : Realm}

/-- A realm with a new path comes to those that are there. -/
theorem perm_placeRealm (h : ∀ s ∈ realms, s.fullPath ≠ r.fullPath) :
    (placeRealm r realms).Perm (r :: realms) := by
  induction realms with
  | nil => exact .refl _
  | cons s rest ih =>
    unfold placeRealm
    split
    · exact .refl _
    · split
      · next heq => exact absurd heq.symm (h s List.mem_cons_self)
      · exact ((ih fun t ht => h t (List.mem_cons_of_mem s ht)).cons s).trans
          (.swap r s rest)

/-- A realm with a new path is placed where the order has room for it. -/
theorem ascending_placeRealm (hrealms : Realm.Ascending realms)
    (h : ∀ s ∈ realms, s.fullPath ≠ r.fullPath) :
    Realm.Ascending (placeRealm r realms) := by
  induction realms with
  | nil => exact List.pairwise_singleton _ r
  | cons s rest ih =>
    obtain ⟨hs, hrest⟩ := List.pairwise_cons.1 hrealms
    have hnew : ∀ t ∈ rest, t.fullPath ≠ r.fullPath :=
      fun t ht => h t (List.mem_cons_of_mem s ht)
    unfold placeRealm
    split
    · -- placed before the first realm of a later path: all that follow are
      -- later
      next hlt =>
      refine List.pairwise_cons.2 ⟨fun t ht => ?_, hrealms⟩
      rcases List.mem_cons.1 ht with rfl | ht
      · exact hlt
      · exact String.lt_trans hlt (hs t ht)
    · -- placed further on, so behind this one: the paths differ
      next hge =>
      have hne : s.fullPath ≠ r.fullPath := h s List.mem_cons_self
      rw [if_neg hne.symm]
      refine List.pairwise_cons.2 ⟨fun t ht => ?_, ih hrest hnew⟩
      rcases List.mem_cons.1 ((perm_placeRealm hnew).mem_iff.1 ht) with
        rfl | ht
      · refine Classical.byContradiction fun hnot => hne ?_
        exact String.le_antisymm (String.not_lt.1 hge) (String.not_lt.1 hnot)
      · exact hs t ht

/-- Rows of one identifier may be dropped where another one is looked up. -/
theorem lookup_filter_ne {rows : List (String × String)} {id other : String}
    (h : other ≠ id) :
    (rows.filter fun r => r.1 ≠ id).lookup other = rows.lookup other := by
  induction rows with
  | nil => rfl
  | cons row rest ih =>
    obtain ⟨found, key⟩ := row
    by_cases hfound : found = id
    · have hother : (other == found) = false := beq_false_of_ne (hfound ▸ h)
      rw [List.filter_cons_of_neg (by simpa using hfound), ih,
        List.lookup_cons, hother]
    · rw [List.filter_cons_of_pos (by simpa using hfound), List.lookup_cons,
        List.lookup_cons, ih]

/-- A dynamic realm that is added is found in the place of what was there, and
the others as before. -/
theorem lookup_addDynRealm (d : MemoryDirectory) (id key other : String) :
    (d.addDynRealm id key).dynRealms.lookup other
      = if other = id then some key else d.dynRealms.lookup other := by
  unfold addDynRealm
  rw [List.lookup_cons]
  by_cases h : other = id
  · rw [if_pos h, beq_iff_eq.2 h]
  · rw [if_neg h, beq_false_of_ne h]
    exact lookup_filter_ne h

end MemoryDirectory

-- ============================================================== entries

namespace DirectoryEntry

/-- The realms among entries. -/
def realmsAmong (entries : List DirectoryEntry) : List Realm :=
  entries.filterMap fun
    | .realm r => some r
    | .dynRealm _ _ => none

/-- The dynamic realms among entries, by identifier. -/
def dynRealmsAmong (entries : List DirectoryEntry) : List (String × String) :=
  entries.filterMap fun
    | .realm _ => none
    | .dynRealm id key => some (id, key)

/-- No two realms have one key or one full path, and no two dynamic realms one
identifier. -/
structure Different (entries : List DirectoryEntry) : Prop where
  keys : ((realmsAmong entries).map Realm.key).Nodup
  paths : ((realmsAmong entries).map Realm.fullPath).Nodup
  ids : ((dynRealmsAmong entries).map Prod.fst).Nodup

variable {before rest : List DirectoryEntry} {r : Realm} {id key : String}

theorem different_nil : Different [] :=
  ⟨.nil, .nil, .nil⟩

/-- Entries that do not repeat each other did not so before the last of
them. -/
theorem Different.of_append (h : Different (before ++ rest)) :
    Different before := by
  obtain ⟨hkeys, hpaths, hids⟩ := h
  unfold realmsAmong at hkeys hpaths
  unfold dynRealmsAmong at hids
  rw [List.filterMap_append, List.map_append] at hkeys hpaths hids
  exact ⟨hkeys.of_append_left, hpaths.of_append_left, hids.of_append_left⟩

/-- A realm comes behind the realms, -/
theorem realmsAmong_concat_realm :
    realmsAmong (before ++ [.realm r]) = realmsAmong before ++ [r] := by
  unfold realmsAmong
  rw [List.filterMap_append]
  rfl

/-- and leaves the dynamic realms alone, -/
theorem dynRealmsAmong_concat_realm :
    dynRealmsAmong (before ++ [.realm r]) = dynRealmsAmong before := by
  unfold dynRealmsAmong
  rw [List.filterMap_append]
  exact List.append_nil _

/-- as a dynamic realm does the realms, -/
theorem realmsAmong_concat_dynRealm :
    realmsAmong (before ++ [.dynRealm id key]) = realmsAmong before := by
  unfold realmsAmong
  rw [List.filterMap_append]
  exact List.append_nil _

/-- behind whose likes it comes. -/
theorem dynRealmsAmong_concat_dynRealm :
    dynRealmsAmong (before ++ [.dynRealm id key])
      = dynRealmsAmong before ++ [(id, key)] := by
  unfold dynRealmsAmong
  rw [List.filterMap_append]
  rfl

/-- An element comes to a list without repetitions if its image is new. -/
theorem nodup_map_concat {α β : Type} {f : α → β} {l : List α} {a : α}
    (h : (l.map f).Nodup) :
    ((l ++ [a]).map f).Nodup ↔ f a ∉ l.map f := by
  rw [List.map_append, List.map_singleton, ← List.concat_eq_append,
    List.nodup_concat]
  exact and_iff_left h

/-- A realm repeats nothing exactly if both its path and its key are new. -/
theorem Different.concat_realm_iff (h : Different before) :
    Different (before ++ [.realm r]) ↔
      r.fullPath ∉ (realmsAmong before).map Realm.fullPath
        ∧ r.key ∉ (realmsAmong before).map Realm.key := by
  constructor
  · intro hboth
    have hpaths := hboth.paths
    have hkeys := hboth.keys
    rw [realmsAmong_concat_realm] at hpaths hkeys
    exact ⟨(nodup_map_concat h.paths).1 hpaths,
      (nodup_map_concat h.keys).1 hkeys⟩
  · intro hnew
    constructor
    · rw [realmsAmong_concat_realm]
      exact (nodup_map_concat h.keys).2 hnew.2
    · rw [realmsAmong_concat_realm]
      exact (nodup_map_concat h.paths).2 hnew.1
    · rw [dynRealmsAmong_concat_realm]
      exact h.ids

/-- A dynamic realm repeats nothing exactly if its identifier is new. -/
theorem Different.concat_dynRealm_iff (h : Different before) :
    Different (before ++ [.dynRealm id key])
      ↔ id ∉ (dynRealmsAmong before).map Prod.fst := by
  constructor
  · intro hboth
    have hids := hboth.ids
    rw [dynRealmsAmong_concat_dynRealm] at hids
    exact (nodup_map_concat h.ids).1 hids
  · intro hnew
    constructor
    · rw [realmsAmong_concat_dynRealm]
      exact h.keys
    · rw [realmsAmong_concat_dynRealm]
      exact h.paths
    · rw [dynRealmsAmong_concat_dynRealm]
      exact (nodup_map_concat h.ids).2 hnew

end DirectoryEntry

-- =============================================================== tables

namespace Metadata

open DirectoryEntry

variable {m m' : Metadata} {before entries : List DirectoryEntry}

/-- The tables hold the realms and dynamic realms of some entries, in their
order. -/
structure Holds (m : Metadata) (entries : List DirectoryEntry) : Prop where
  realms : m.realms = some ((realmsAmong entries).map .ofRealm)
  dynRealms : m.dynRealms = some (dynRealmsAmong entries)

theorem holds_fresh : fresh.Holds [] :=
  ⟨rfl, rfl⟩

/-- What the table of realms is searched for before a row is taken: its
path, -/
theorem any_fullPath_iff {realms : List Realm} {path : String} :
    ((realms.map RealmRow.ofRealm).any fun r => r.fullPath = path) = true
      ↔ path ∈ realms.map Realm.fullPath := by
  rw [List.any_map]
  show (realms.any fun r => decide (r.fullPath = path)) = true ↔ _
  simp

/-- and its key, -/
theorem any_key_iff {realms : List Realm} {key : String} :
    ((realms.map RealmRow.ofRealm).any fun r => r.key = some key) = true
      ↔ key ∈ realms.map Realm.key := by
  rw [List.any_map]
  show (realms.any fun r => decide (some r.key = some key)) = true ↔ _
  simp

/-- as that of dynamic realms is for the identifier. -/
theorem any_id_iff {rows : List (String × String)} {id : String} :
    (rows.any fun r => r.1 = id) = true ↔ id ∈ rows.map Prod.fst := by
  simp

/-- A realm is taken exactly if its key and its full path are new. -/
theorem insertRealm_cases (hm : m.Holds before) (h : Different before)
    (r : Realm) :
    (Different (before ++ [.realm r])
        ∧ ∃ m', m.insertRealm r = .ok m' ∧ m'.Holds (before ++ [.realm r]))
      ∨ (¬ Different (before ++ [.realm r])
        ∧ ∃ err, m.insertRealm r = .error err) := by
  rw [h.concat_realm_iff]
  unfold insertRealm insertRealmRow
  rw [hm.realms]
  by_cases hpath : r.fullPath ∈ (realmsAmong before).map Realm.fullPath
  · refine .inr ⟨fun hnew => hnew.1 hpath, _,
      if_pos (any_fullPath_iff.2 hpath)⟩
  · by_cases hkey : r.key ∈ (realmsAmong before).map Realm.key
    · refine .inr ⟨fun hnew => hnew.2 hkey,
        .store (.notUnique realmTable "realm_key"), ?_⟩
      exact (if_neg (mt any_fullPath_iff.1 hpath)).trans
        (if_pos (any_key_iff.2 hkey))
    · refine .inl ⟨⟨hpath, hkey⟩, _,
        (if_neg (mt any_fullPath_iff.1 hpath)).trans
          (if_neg (mt any_key_iff.1 hkey)), ?_⟩
      constructor
      · rw [realmsAmong_concat_realm, List.map_append]
        rfl
      · rw [dynRealmsAmong_concat_realm]
        exact hm.dynRealms

/-- A dynamic realm is taken exactly if its identifier is new. -/
theorem insertDynRealm_cases (hm : m.Holds before) (h : Different before)
    (id key : String) :
    (Different (before ++ [.dynRealm id key])
        ∧ ∃ m', m.insertDynRealm id key = .ok m'
          ∧ m'.Holds (before ++ [.dynRealm id key]))
      ∨ (¬ Different (before ++ [.dynRealm id key])
        ∧ ∃ err, m.insertDynRealm id key = .error err) := by
  rw [h.concat_dynRealm_iff]
  unfold insertDynRealm
  rw [hm.dynRealms]
  by_cases hid : id ∈ (dynRealmsAmong before).map Prod.fst
  · exact .inr ⟨fun hnew => hnew hid, _, if_pos (any_id_iff.2 hid)⟩
  · refine .inl ⟨hid, _, if_neg (mt any_id_iff.1 hid), ?_⟩
    constructor
    · rw [realmsAmong_concat_dynRealm]
      exact hm.realms
    · rw [dynRealmsAmong_concat_dynRealm]

/-- An entry is taken exactly if it differs from those that are there. -/
theorem insertEntry_cases (hm : m.Holds before) (h : Different before)
    (e : DirectoryEntry) :
    (Different (before ++ [e]) ∧ ∃ m', m.insertEntry e = .ok m'
      ∧ m'.Holds (before ++ [e]))
      ∨ (¬ Different (before ++ [e])
        ∧ ∃ err, m.insertEntry e = .error err) := by
  cases e with
  | realm r => exact insertRealm_cases hm h r
  | dynRealm id key => exact insertDynRealm_cases hm h id key

/-- Entries are taken exactly if they differ from those that are there and from
each other. -/
theorem insertEntries_cases (hm : m.Holds before) (h : Different before)
    (entries : List DirectoryEntry) :
    (Different (before ++ entries)
        ∧ ∃ m', entries.foldlM insertEntry m = .ok m'
          ∧ m'.Holds (before ++ entries))
      ∨ (¬ Different (before ++ entries)
        ∧ ∃ err, entries.foldlM insertEntry m = .error err) := by
  induction entries generalizing m before with
  | nil =>
    rw [List.append_nil]
    exact .inl ⟨h, m, rfl, hm⟩
  | cons e rest ih =>
    rw [List.append_cons, List.foldlM_cons]
    rcases insertEntry_cases hm h e with
      ⟨hdifferent, m', hinsert, hm'⟩ | ⟨hsame, err, herr⟩
    · -- taken: the rest is loaded into tables that hold one entry more
      rw [hinsert]
      exact ih hm' hdifferent
    · -- turned down: entries that repeat each other do so with more behind
      -- them
      rw [herr]
      exact .inr ⟨fun hall => hsame hall.of_append, err, rfl⟩

/-- The tables take exactly entries that differ from each other. -/
theorem ofEntries_eq_ok_iff (entries : List DirectoryEntry) :
    (∃ m, ofEntries entries = .ok m) ↔ Different entries := by
  rcases insertEntries_cases holds_fresh different_nil entries with
    ⟨hdifferent, m, hm, -⟩ | ⟨hsame, err, herr⟩
  · exact iff_of_true ⟨m, hm⟩ hdifferent
  · refine iff_of_false (fun hgiven => ?_) hsame
    obtain ⟨m, hm⟩ := hgiven
    cases herr.symm.trans hm

/-- Loaded tables hold the entries that they were loaded with. -/
theorem holds_ofEntries (h : ofEntries entries = .ok m) : m.Holds entries := by
  rcases insertEntries_cases holds_fresh different_nil entries with
    ⟨-, m', hm', hholds⟩ | ⟨-, err, herr⟩
  · cases hm'.symm.trans h
    exact hholds
  · cases herr.symm.trans h

-- ==================================================== lookups in tables

/-- Such tables find a realm among the entries by its path. -/
theorem realm?_of_holds (hm : m.Holds entries) (path : String) :
    m.realm? path
      = .ok ((realmsAmong entries).find? fun r => r.fullPath = path) := by
  have hfind : ((realmsAmong entries).map RealmRow.ofRealm).find?
      (fun r => r.fullPath = path)
      = ((realmsAmong entries).find? fun r => r.fullPath = path).map
        .ofRealm :=
    List.find?_map ..
  unfold realm?
  rw [hm.realms]
  refine bind_eq_ok.2 ⟨(realmsAmong entries).map RealmRow.ofRealm, rfl, ?_⟩
  rw [hfind]
  cases (realmsAmong entries).find? fun r => r.fullPath = path with
  | none => rfl
  | some r => rfl

/-- Rows that were written from realms are read back as them. -/
theorem mapM_realm_ofRealm (realms : List Realm) :
    (realms.map RealmRow.ofRealm).mapM RealmRow.realm = .ok realms := by
  induction realms with
  | nil => rfl
  | cons r rest ih =>
    rw [List.map_cons, List.mapM_cons, ih]
    rfl

/-- The realms at or below two paths are found in ascending order, however they
came in. -/
theorem realmsWithin_of_holds (hm : m.Holds entries) {ascending : List Realm}
    (h : Realm.Ascending ascending)
    (hperm : (realmsAmong entries).Perm ascending) (path base : String) :
    m.realmsWithin path base = .ok ((ascending.filter fun r =>
      Realm.isUnder r.fullPath path && Realm.isUnder r.fullPath base).map
        Realm.key) := by
  have hsort : ((realmsAmong entries).map RealmRow.ofRealm).mergeSort
      (fun r s => decide (r.fullPath ≤ s.fullPath))
        = ascending.map .ofRealm := by
    rw [← Realm.mergeSort_eq_of_perm h hperm]
    refine Eq.symm (List.map_mergeSort fun r _ s _ => ?_)
    rfl
  unfold realmsWithin
  rw [hm.realms]
  show (((realmsAmong entries).map RealmRow.ofRealm).mergeSort
    (fun r s => decide (r.fullPath ≤ s.fullPath))).mapM RealmRow.realm
      >>= _ = _
  rw [hsort, mapM_realm_ofRealm]
  rfl

theorem dynRealm?_of_holds (hm : m.Holds entries) (id : String) :
    m.dynRealm? id = .ok ((dynRealmsAmong entries).lookup id) := by
  unfold dynRealm?
  rw [hm.dynRealms]
  rfl

end Metadata

-- ===================================================== kept in memory

namespace MemoryDirectory

open DirectoryEntry

variable {d : MemoryDirectory} {before entries : List DirectoryEntry}

/-- Memory keeps the realms of some entries in ascending order, and the dynamic
realms. -/
structure Keeps (d : MemoryDirectory)
    (entries : List DirectoryEntry) : Prop where
  ascending : Realm.Ascending d.realms
  perm : (realmsAmong entries).Perm d.realms
  lookup_eq : ∀ id, d.dynRealms.lookup id = (dynRealmsAmong entries).lookup id

theorem keeps_empty : empty.Keeps [] :=
  ⟨.nil, .nil, fun _ => rfl⟩

theorem keeps_addEntry (hd : d.Keeps before) (h : Different before)
    {e : DirectoryEntry} (he : Different (before ++ [e])) :
    (d.addEntry e).Keeps (before ++ [e]) := by
  cases e with
  | realm r =>
    have hnew : ∀ s ∈ d.realms, s.fullPath ≠ r.fullPath := by
      intro s hs heq
      refine (h.concat_realm_iff.1 he).1 ?_
      rw [← heq]
      exact List.mem_map_of_mem (hd.perm.mem_iff.2 hs)
    constructor
    · exact ascending_placeRealm hd.ascending hnew
    · rw [realmsAmong_concat_realm]
      exact (List.perm_append_singleton r _).trans
        ((hd.perm.cons r).trans (perm_placeRealm hnew).symm)
    · rw [dynRealmsAmong_concat_realm]
      exact hd.lookup_eq
  | dynRealm id key =>
    constructor
    · exact hd.ascending
    · rw [realmsAmong_concat_dynRealm]
      exact hd.perm
    · intro other
      rw [dynRealmsAmong_concat_dynRealm, List.lookup_append, ← hd.lookup_eq]
      refine (lookup_addDynRealm d id key other).trans ?_
      by_cases hother : other = id
      · subst hother
        have hnone : d.dynRealms.lookup other = none := by
          rw [hd.lookup_eq, List.lookup_eq_none_iff]
          intro p hp
          refine bne_iff_ne.2 fun heq => h.concat_dynRealm_iff.1 he ?_
          rw [heq]
          exact List.mem_map_of_mem hp
        simp [hnone]
      · have hbeq : (other == id) = false := beq_false_of_ne hother
        simp [List.lookup_cons, hbeq, hother]

theorem keeps_addEntries (hd : d.Keeps before)
    (h : Different (before ++ entries)) :
    (entries.foldl addEntry d).Keeps (before ++ entries) := by
  induction entries generalizing d before with
  | nil =>
    rw [List.append_nil]
    exact hd
  | cons e rest ih =>
    rw [List.append_cons] at h ⊢
    exact ih (keeps_addEntry hd h.of_append.of_append h.of_append) h

theorem keeps_ofEntries (h : Different entries) :
    (ofEntries entries).Keeps entries :=
  keeps_addEntries keeps_empty h

end MemoryDirectory

-- =============================================================== scopes

namespace Directory

variable {d d' : Directory}

/-- Two directories answer alike about realms. -/
structure AgreeOnRealms (d d' : Directory) : Prop where
  realm? : ∀ path, d.realm? path = d'.realm? path
  realmsWithin : ∀ path base,
    d.realmsWithin path base = d'.realmsWithin path base
  dynRealm? : ∀ id, d.dynRealm? id = d'.dynRealm? id

theorem AgreeOnRealms.withScope (h : d.AgreeOnRealms d') (base : Realm)
    (g : Grants) (scope : String) :
    g.withScope d base scope = g.withScope d' base scope := by
  unfold Grants.withScope Directory.realm
  simp only [h.realm?, h.realmsWithin, h.dynRealm?]

/-- What scopes grant rests on what a directory answers about realms. -/
theorem AgreeOnRealms.make (h : d.AgreeOnRealms d') (base : Realm)
    (recursive : Bool) (scopes : List String) :
    ScopeFilter.make d base recursive scopes
      = ScopeFilter.make d' base recursive scopes := by
  have hfun : Grants.withScope d base = Grants.withScope d' base :=
    funext fun g => funext fun scope => h.withScope base g scope
  unfold ScopeFilter.make Grants.atOrBelow
  rw [hfun]

end Directory

/-- Tables and memory that hold the same entries agree on realms. -/
theorem Metadata.agreeOnRealms {m : Metadata} {entries : List DirectoryEntry}
    (h : Metadata.ofEntries entries = .ok m) :
    m.directory.AgreeOnRealms
      (MemoryDirectory.ofEntries entries).directory := by
  have hm := Metadata.holds_ofEntries h
  have hdifferent := (Metadata.ofEntries_eq_ok_iff entries).1 ⟨m, h⟩
  have hd := MemoryDirectory.keeps_ofEntries hdifferent
  constructor
  · intro path
    show m.realm? path = _
    rw [Metadata.realm?_of_holds hm,
      Realm.find?_eq_of_perm hdifferent.paths hd.perm]
    rfl
  · exact Metadata.realmsWithin_of_holds hm hd.ascending hd.perm
  · intro id
    show m.dynRealm? id = _
    rw [Metadata.dynRealm?_of_holds hm, ← hd.lookup_eq]
    rfl

/-- The tables take exactly the entries in which no two realms have one key or
one full path, and no two dynamic realms one identifier. What they then answer
about realms, in content and order, memory answers too that the same entries
were put into; and scopes come to the same filter, with the same text and
parameters, or to the same error. -/
theorem directories_agree (entries : List DirectoryEntry) :
    ((∃ m, Metadata.ofEntries entries = .ok m)
      ↔ DirectoryEntry.Different entries)
      ∧ ∀ m, Metadata.ofEntries entries = .ok m →
        (∀ path, m.directory.realm? path
            = (MemoryDirectory.ofEntries entries).directory.realm? path)
          ∧ (∀ path base, m.directory.realmsWithin path base
            = (MemoryDirectory.ofEntries entries).directory.realmsWithin
              path base)
          ∧ (∀ id, m.directory.dynRealm? id
            = (MemoryDirectory.ofEntries entries).directory.dynRealm? id)
          ∧ ∀ kind base recursive scopes,
            (ScopeFilter.make m.directory base recursive scopes).map
                (fun f => (f, f.visibility.fragment kind))
              = (ScopeFilter.make
                (MemoryDirectory.ofEntries entries).directory base recursive
                  scopes).map fun f => (f, f.visibility.fragment kind) := by
  refine ⟨Metadata.ofEntries_eq_ok_iff entries, fun m hm => ?_⟩
  have h := Metadata.agreeOnRealms hm
  refine ⟨h.realm?, h.realmsWithin, h.dynRealm?,
    fun kind base recursive scopes => ?_⟩
  rw [h.make base recursive scopes]

-- ========================================================== a small tree

namespace SmallTree

/-- The lower realm comes before the one above it, and a sibling after both. -/
def entries : List DirectoryEntry :=
  [ .realm ⟨"r2", "/even/two"⟩, .dynRealm "vip" "dr-vip",
    .realm ⟨"r1", "/even"⟩, .realm ⟨"r3", "/evening"⟩ ]

def tables : Metadata where
  schemas := some []
  realms := some [⟨some "r2", "/even/two"⟩, ⟨some "r1", "/even"⟩,
    ⟨some "r3", "/evening"⟩]
  dynRealms := some [("vip", "dr-vip")]

/-- The tables take these entries, and keep them as they came. -/
theorem ofEntries_entries : Metadata.ofEntries entries = .ok tables := by
  rfl

end SmallTree

open SmallTree in
/-- So the tables list the lower realm behind the one above it, as memory
does. -/
theorem directories_agree_small_tree :
    Metadata.ofEntries entries = .ok tables
      ∧ tables.directory.realmsWithin "/even" "/" = .ok ["r1", "r2"]
      ∧ tables.directory.realm? "/even/two" = .ok (some ⟨"r2", "/even/two"⟩)
      ∧ tables.directory.dynRealm? "vip" = .ok (some "dr-vip") := by
  obtain ⟨hrealm, hwithin, hdynRealm, -⟩ :=
    (directories_agree entries).2 tables ofEntries_entries
  refine ⟨ofEntries_entries, ?_, ?_, ?_⟩
  · rw [hwithin]
    rfl
  · rw [hrealm]
    rfl
  · rw [hdynRealm]
    rfl

end IdentitySearch
