/-
What scopes grant. A recursive search reads its scopes one after the other, and
each adds what it grants by itself: the group it speaks for, the realms below
its path that are within the base, or the dynamic realm it names. So a list of
scopes grants what one of them grants, whatever their order (`adds_foldlM`).

Realms below a path are what the directory says they are. A directory that
answers from a list of realms (`Directory.Knows`) says so by full paths alone,
and both directories, the one in memory and the one in tables, do.

# Three ways to read a scope

A scope with a group after its mark speaks for that group, and for nothing
else; this is put as a statement about its characters (`SpeaksFor`), beside the
reader that finds it (`speaksFor_iff`). Otherwise it is a path if it begins
like one, and grants realms, or else the name of a dynamic realm, which grants
that one if it is known. What a scope adds is said for all three at once
(`Grants.Adds`), so the step over a scope is a case analysis (`adds_withScope`)
and the run over a list an induction that does not look into it
(`adds_foldlM_of_each`).
-/
import IdentitySearch.Scope
import IdentitySearch.Directory.Memory
import IdentitySearch.Directory.Metadata
import IdentitySearch.Proofs.Outcome
import IdentitySearch.Proofs.Text.Pieces

namespace IdentitySearch

open Outcome

-- =============================================================== scopes

namespace Realm

/-- A scope speaks for a group: it is a path, a mark and the group, with no
other mark and neither of the two empty. -/
def SpeaksFor (scope group : String) : Prop :=
  ∃ path, scope.toList = path ++ '@' :: group.toList
    ∧ path ≠ [] ∧ '@' ∉ path ∧ group.toList ≠ [] ∧ '@' ∉ group.toList

/-- The group that a scope speaks for is found at its first mark. -/
theorem speaksFor_iff {scope group : String} :
    SpeaksFor scope group
      ↔ ∃ path, ownedGroup? scope = some (path, group) := by
  unfold ownedGroup?
  constructor
  · intro hgiven
    rcases hgiven with ⟨path, hscope, hpath, hmark, hgroup, hlast⟩
    rw [Text.splitFirst?_eq_some_iff.2 ⟨hscope, hmark⟩]
    simp [hpath, hgroup, hlast]
  · intro hgiven
    rcases hgiven with ⟨path, h⟩
    split at h
    · cases h
    · next left right hsplit =>
      obtain ⟨hscope, hmark⟩ := Text.splitFirst?_eq_some_iff.1 hsplit
      split at h
      · cases h
      · next hparts =>
        cases h
        simp only [Bool.or_eq_true, List.isEmpty_iff, List.contains_eq_mem,
          decide_eq_true_eq, not_or] at hparts
        refine ⟨left, ?_, hparts.1.1, hmark, ?_, ?_⟩
        · rw [String.toList_ofList]
          exact hscope
        · rw [String.toList_ofList]
          exact hparts.1.2
        · rw [String.toList_ofList]
          exact hparts.2

/-- A scope speaks for one group at most. -/
theorem speaksFor_iff_eq {scope path group : String}
    (h : ownedGroup? scope = some (path, group)) (other : String) :
    SpeaksFor scope other ↔ other = group := by
  rw [speaksFor_iff, h]
  simp [eq_comm]

/-- A scope without such a mark speaks for no group. -/
theorem not_speaksFor {scope : String} (h : ownedGroup? scope = none)
    (group : String) :
    ¬ SpeaksFor scope group := by
  rw [speaksFor_iff, h]
  simp

end Realm

-- ========================================================== directories

/-- A directory answers about realms from a list of them. -/
structure Directory.Knows (d : Directory) (realms : List Realm) : Prop where
  fullPath_eq : ∀ {path realm}, d.realm? path = .ok (some realm) →
    realm.fullPath = path
  mem_within : ∀ {path base keys}, d.realmsWithin path base = .ok keys → ∀ key,
    key ∈ keys ↔ ∃ r ∈ realms, Realm.isUnder r.fullPath path = true
      ∧ Realm.isUnder r.fullPath base = true ∧ r.key = key

/-- A directory in memory knows the realms that it holds. -/
theorem MemoryDirectory.knows (d : MemoryDirectory) :
    d.directory.Knows d.realms where
  fullPath_eq := by
    intro path realm h
    injection h with h
    simpa using List.find?_some h
  mem_within := by
    intro path base keys h key
    cases h
    simp only [MemoryDirectory.realmsWithin, List.mem_map, List.mem_filter,
      Bool.and_eq_true, and_assoc]

namespace Metadata

/-- The realms that can be read from the tables. -/
def knownRealms (m : Metadata) : List Realm :=
  (m.realms.getD []).filterMap fun row => row.realm.toOption

/-- The realms of the tables are those that their rows can be read as, -/
theorem mem_knownRealms {m : Metadata} {rows : List RealmRow}
    (h : m.realms = some rows) (r : Realm) :
    r ∈ m.knownRealms ↔ ∃ row ∈ rows, row.realm = .ok r := by
  rw [knownRealms, h, List.mem_filterMap]
  simp only [Option.getD_some, Except.toOption]
  constructor
  · intro hgiven
    rcases hgiven with ⟨row, hrow, hr⟩
    refine ⟨row, hrow, ?_⟩
    split at hr
    · next hok =>
      cases hr
      exact hok
    · cases hr
  · intro hgiven
    rcases hgiven with ⟨row, hrow, hr⟩
    exact ⟨row, hrow, by rw [hr]⟩

/-- and the tables know them. -/
theorem knows (m : Metadata) : m.directory.Knows m.knownRealms where
  fullPath_eq := by
    intro path realm h
    obtain ⟨rows, -, h⟩ := bind_eq_ok.1 h
    split at h
    · cases h
    · next row hfind =>
      obtain ⟨r, hr, h⟩ := bind_eq_ok.1 h
      cases h
      unfold RealmRow.realm at hr
      split at hr
      · cases hr
        simpa using List.find?_some hfind
      · cases hr
  mem_within := by
    intro path base keys h key
    obtain ⟨rows, hrows, h⟩ := bind_eq_ok.1 h
    obtain ⟨read, hread, h⟩ := bind_eq_ok.1 h
    cases h
    have hsome : m.realms = some rows := by
      unfold rowsOf at hrows
      split at hrows
      · next hrealms =>
        cases hrows
        exact hrealms
      · cases hrows
    simp only [mem_knownRealms hsome, List.mem_map, List.mem_filter,
      Bool.and_eq_true, mem_mapM hread, List.mem_mergeSort, and_assoc]

end Metadata

-- =============================================================== grants

namespace KeySet

theorem mem_keys {s : KeySet} {key : String} : key ∈ s.keys ↔ key ∈ s :=
  Iff.rfl

/-- A set is empty if no key is in it, -/
theorem isEmpty_iff {s : KeySet} : s.isEmpty = true ↔ ∀ key, key ∉ s := by
  rw [isEmpty, List.isEmpty_iff, List.eq_nil_iff_forall_not_mem]
  rfl

/-- and is not if there is one. -/
theorem isEmpty_eq_false_iff {s : KeySet} :
    s.isEmpty = false ↔ ∃ key, key ∈ s := by
  rw [← Bool.not_eq_true, isEmpty_iff]
  simp

end KeySet

namespace Realm

/-- A scope grants a realm: it is a path at or below which the realm lies, and
the realm lies within the base as well. -/
def GrantsRealm (realms : List Realm) (base : Realm)
    (scope key : String) : Prop :=
  (∀ group, ¬ SpeaksFor scope group) ∧ isPath scope = true
    ∧ ∃ r ∈ realms, isUnder r.fullPath scope = true
      ∧ isUnder r.fullPath base.fullPath = true
      ∧ r.key = key

/-- A scope grants a dynamic realm: it is the identifier of it. -/
def GrantsDynRealm (d : Directory) (scope key : String) : Prop :=
  (∀ group, ¬ SpeaksFor scope group) ∧ isPath scope = false
    ∧ d.dynRealm? scope = .ok (some key)

end Realm

namespace Grants

/-- Grants with some more of each sort. -/
structure Adds (g g' : Grants)
    (realms dynRealms groups : String → Prop) : Prop where
  mem_realms : ∀ key, key ∈ g'.realms ↔ key ∈ g.realms ∨ realms key
  mem_dynRealms : ∀ key, key ∈ g'.dynRealms ↔ key ∈ g.dynRealms ∨ dynRealms key
  mem_groups : ∀ key, key ∈ g'.groups ↔ key ∈ g.groups ∨ groups key

variable {d : Directory} {realms : List Realm} {base : Realm} {g g' : Grants}

/-- One scope adds what it grants. -/
theorem adds_withScope (hd : d.Knows realms) {scope : String}
    (h : withScope d base g scope = .ok g') :
    g.Adds g' (Realm.GrantsRealm realms base scope)
      (Realm.GrantsDynRealm d scope) (Realm.SpeaksFor scope) := by
  unfold withScope at h
  split at h
  · -- it speaks for a group: then it grants no realm, whatever its path is
    next path group howned =>
    cases h
    have hspeaks := Realm.speaksFor_iff_eq howned
    have hsome : ¬ ∀ other, ¬ Realm.SpeaksFor scope other := fun h =>
      h group ((hspeaks group).2 rfl)
    constructor
    · simp [Realm.GrantsRealm, hsome]
    · simp [Realm.GrantsDynRealm, hsome]
    · intro key
      rw [KeySet.mem_insert, hspeaks, or_comm]
  · next howned =>
    have hnone := Realm.not_speaksFor howned
    split at h
    · next hpath =>
      obtain ⟨realm, hrealm, h⟩ := bind_eq_ok.1 h
      obtain ⟨keys, hkeys, h⟩ := bind_eq_ok.1 h
      cases h
      -- the realm that was found has the path of the scope
      have hfull : realm.fullPath = scope := by
        unfold Directory.realm at hrealm
        split at hrealm
        · cases hrealm
        · cases hrealm
        · next hfound =>
          cases hrealm
          exact hd.fullPath_eq hfound
      rw [hfull] at hkeys
      constructor
      · intro key
        rw [KeySet.mem_union, KeySet.mem_ofList, hd.mem_within hkeys, or_comm]
        simp [Realm.GrantsRealm, hnone, hpath]
      · simp [Realm.GrantsDynRealm, hpath]
      · simp [hnone]
    · next hpath =>
      rw [Bool.not_eq_true] at hpath
      obtain ⟨found, hfound, h⟩ := bind_eq_ok.1 h
      cases found with
      | none =>
        cases h
        constructor
        · simp [Realm.GrantsRealm, hpath]
        · simp [Realm.GrantsDynRealm, hfound]
        · simp [hnone]
      | some key =>
        cases h
        constructor
        · simp [Realm.GrantsRealm, hpath]
        · intro other
          rw [KeySet.mem_insert, or_comm]
          simp [Realm.GrantsDynRealm, hnone, hpath, hfound, eq_comm]
        · simp [hnone]

/-- Scopes add what one of them adds, where each adds something of its own. -/
theorem adds_foldlM_of_each
    {ofRealms ofDynRealms ofGroups : String → String → Prop}
    (heach : ∀ {g g' scope}, withScope d base g scope = .ok g' →
      g.Adds g' (ofRealms scope) (ofDynRealms scope) (ofGroups scope))
    {scopes : List String} (h : scopes.foldlM (withScope d base) g = .ok g') :
    g.Adds g' (fun key => ∃ scope ∈ scopes, ofRealms scope key)
      (fun key => ∃ scope ∈ scopes, ofDynRealms scope key)
      (fun key => ∃ scope ∈ scopes, ofGroups scope key) := by
  induction scopes generalizing g with
  | nil =>
    cases h
    constructor <;> simp
  | cons scope rest ih =>
    rw [List.foldlM_cons] at h
    obtain ⟨g₁, hfirst, h⟩ := bind_eq_ok.1 h
    have first := heach hfirst
    have more := ih h
    constructor
    · intro key
      rw [more.mem_realms, first.mem_realms]
      simp only [List.mem_cons, exists_eq_or_imp, or_assoc]
    · intro key
      rw [more.mem_dynRealms, first.mem_dynRealms]
      simp only [List.mem_cons, exists_eq_or_imp, or_assoc]
    · intro key
      rw [more.mem_groups, first.mem_groups]
      simp only [List.mem_cons, exists_eq_or_imp, or_assoc]

/-- Scopes add what one of them grants. -/
theorem adds_foldlM (hd : d.Knows realms) {scopes : List String}
    (h : scopes.foldlM (withScope d base) g = .ok g') :
    g.Adds g'
      (fun key => ∃ scope ∈ scopes, Realm.GrantsRealm realms base scope key)
      (fun key => ∃ scope ∈ scopes, Realm.GrantsDynRealm d scope key)
      (fun key => ∃ scope ∈ scopes, Realm.SpeaksFor scope key) :=
  adds_foldlM_of_each (adds_withScope hd) h

/-- What a recursive search is granted, before dynamic realms decide alone. -/
theorem adds_nothing (hd : d.Knows realms) {scopes : List String}
    (h : scopes.foldlM (withScope d base) nothing = .ok g) :
    (∀ key, key ∈ g.realms
      ↔ ∃ scope ∈ scopes, Realm.GrantsRealm realms base scope key)
      ∧ (∀ key, key ∈ g.dynRealms
        ↔ ∃ scope ∈ scopes, Realm.GrantsDynRealm d scope key)
      ∧ ∀ key, key ∈ g.groups
        ↔ ∃ scope ∈ scopes, Realm.SpeaksFor scope key := by
  have hadds := adds_foldlM hd h
  refine ⟨fun key => ?_, fun key => ?_, fun key => ?_⟩
  · rw [hadds.mem_realms]
    exact or_iff_right (KeySet.not_mem_empty key)
  · rw [hadds.mem_dynRealms]
    exact or_iff_right (KeySet.not_mem_empty key)
  · rw [hadds.mem_groups]
    exact or_iff_right (KeySet.not_mem_empty key)

end Grants

end IdentitySearch
