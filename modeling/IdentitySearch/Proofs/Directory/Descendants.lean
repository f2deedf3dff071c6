/-
Realms at or below two paths. Realm paths form a forest under `Realm.isUnder`,
so no realm lies under two paths unless one of them lies under the other; and
then the lower one alone decides (`Realm.LowerDecides`). Both directories
answer so. A table that cannot be read fails whatever is asked of it.

Either directory has a list of realms that does not depend on the two paths,
and answers with the keys of those below both (`Realm.keysWithin`). So the law
is proved of this one function, from the order on paths; for tables it remains
to say when that list is there (`Metadata.HasRealms`): the table has to be, and
every row in it needs a key, since rows are read before they are looked
through.

The order itself, and what it says of paths that are made of segments, is shown
with realms; here all of it is put together (`realm_paths_form_forest`).
-/
import IdentitySearch.Directory.Memory
import IdentitySearch.Directory.Metadata
import IdentitySearch.Proofs.Outcome
import IdentitySearch.Proofs.Realm

namespace IdentitySearch

open Outcome

-- ================================================================ realms

namespace Realm

/-- The keys of those of some realms that lie at or below two paths. -/
def keysWithin (realms : List Realm) (path base : String) : List String :=
  (realms.filter fun r => isUnder r.fullPath path
    && isUnder r.fullPath base).map key

variable (realms : List Realm) {path base : String}

theorem keysWithin_comm (path base : String) :
    keysWithin realms path base = keysWithin realms base path := by
  unfold keysWithin
  simp only [Bool.and_comm]

/-- Of two paths the lower one decides, -/
theorem keysWithin_of_isUnder (h : isUnder path base = true) :
    keysWithin realms path base = keysWithin realms path path := by
  unfold keysWithin
  congr 2
  funext r
  rw [Bool.and_self, Bool.and_eq_left_iff_imp]
  exact fun hr => isUnder_trans hr h

/-- and nothing lies under both of them if neither lies under the other. -/
theorem keysWithin_of_apart (hpath : isUnder path base = false)
    (hbase : isUnder base path = false) :
    keysWithin realms path base = [] := by
  have hnone : ∀ r ∈ realms,
      ¬ (isUnder r.fullPath path && isUnder r.fullPath base) = true := by
    intro r _ hr
    rw [Bool.and_eq_true] at hr
    rcases isUnder_or_isUnder hr.1 hr.2 with h | h
    · cases hpath.symm.trans h
    · cases hbase.symm.trans h
  rw [keysWithin, List.filter_eq_nil_iff.2 hnone]
  rfl

/-- The order of two paths does not matter to a lookup. The lower one of them
decides what is found, and nothing is found if neither lies under the other. -/
structure LowerDecides (find : String → String → Except Error (List String)) :
    Prop where
  comm : ∀ path base, find path base = find base path
  of_isUnder : ∀ path base, isUnder path base = true →
    find path base = find path path
  of_apart : ∀ path base, isUnder path base = false →
    isUnder base path = false → find path base = .ok []

/-- Whatever realms there are, the lower of two paths decides about them. -/
theorem lowerDecides_keysWithin :
    LowerDecides fun path base => .ok (keysWithin realms path base) where
  comm := fun path base => congrArg _ (keysWithin_comm realms path base)
  of_isUnder := fun _ _ h => congrArg _ (keysWithin_of_isUnder realms h)
  of_apart :=
    fun _ _ hpath hbase => congrArg _ (keysWithin_of_apart realms hpath hbase)

end Realm

-- ================================================================ tables

namespace Metadata

variable {m : Metadata}

/-- The table of realms is there, and all of its rows have keys. -/
def HasRealms (m : Metadata) : Prop :=
  ∃ rows, m.realms = some rows ∧ ∀ row ∈ rows, row.key ≠ none

/-- The realms of a table in the order of their paths. -/
def sortedRealms (m : Metadata) : Except Error (List Realm) := do
  let rows ← rowsOf realmTable m.realms
  (rows.mergeSort fun r s => r.fullPath ≤ s.fullPath).mapM RealmRow.realm

/-- What tables answer about two paths is read from realms that do not depend
on them. -/
theorem realmsWithin_eq (m : Metadata) (path base : String) :
    m.realmsWithin path base = m.sortedRealms.map fun realms =>
      Realm.keysWithin realms path base := by
  unfold realmsWithin sortedRealms
  rw [map_bind]
  rfl

/-- A row is read exactly if it has a key. -/
theorem exists_realm_iff (row : RealmRow) :
    (∃ r, row.realm = .ok r) ↔ row.key ≠ none := by
  unfold RealmRow.realm
  cases row.key with
  | none => exact iff_of_false (fun h => nomatch h) fun h => h rfl
  | some key => exact iff_of_true ⟨_, rfl⟩ fun h => nomatch h

/-- The realms are read exactly if they are there and all have keys. -/
theorem exists_sortedRealms_iff : (∃ realms, m.sortedRealms = .ok realms)
    ↔ m.HasRealms := by
  unfold sortedRealms HasRealms
  cases m.realms with
  | none => exact iff_of_false (fun h => nomatch h) fun h => nomatch h
  | some rows =>
    show (∃ realms, (rows.mergeSort _).mapM RealmRow.realm = .ok realms) ↔ _
    rw [exists_mapM_iff]
    simp only [List.mem_mergeSort, exists_realm_iff, Option.some.injEq,
      exists_eq_left']

/-- So the lower path decides in tables too, if they can be read, -/
theorem lowerDecides_realmsWithin (h : m.HasRealms) :
    Realm.LowerDecides m.realmsWithin := by
  obtain ⟨realms, hrealms⟩ := exists_sortedRealms_iff.2 h
  have hfind : m.realmsWithin
      = fun path base => .ok (Realm.keysWithin realms path base) := by
    funext path base
    rw [realmsWithin_eq, hrealms]
    rfl
  rw [hfind]
  exact Realm.lowerDecides_keysWithin realms

/-- and if they cannot, one error answers for all paths. -/
theorem realmsWithin_fails (h : ¬ m.HasRealms) :
    ∃ err, ∀ path base, m.realmsWithin path base = .error err := by
  rw [← exists_sortedRealms_iff] at h
  cases hrealms : m.sortedRealms with
  | ok realms => exact absurd ⟨realms, hrealms⟩ h
  | error err =>
    refine ⟨err, fun path base => ?_⟩
    rw [realmsWithin_eq, hrealms]
    rfl

end Metadata

-- ================================================================ forest

open Realm in
/-- Realm paths form a forest, whatever texts they are: to lie under each other
is an order, and the paths that one lies under form a chain. Paths made of
segments lie under each other as their segments begin with each other. So what
lies at or below two paths is what lies at or below the lower one, and nothing
if there is no lower one, in memory and in every table that holds realms; a
table that holds anything else fails whatever is asked. -/
theorem realm_paths_form_forest :
    (∀ a, isUnder a a = true)
      ∧ (∀ a b c, isUnder a b = true → isUnder b c = true → isUnder a c = true)
      ∧ (∀ a b, isUnder a b = true → isUnder b a = true → a = b)
      ∧ (∀ a b c, isUnder a b = true → isUnder a c = true →
          isUnder b c = true ∨ isUnder c b = true)
      ∧ (∀ segments others : List String, (∀ s ∈ segments, IsSegment s) →
          (∀ s ∈ others, IsSegment s) →
          (isUnder (pathTo segments) (pathTo others) = true
            ↔ others <+: segments))
      ∧ (∀ d : MemoryDirectory, LowerDecides d.directory.realmsWithin)
      ∧ ∀ m : Metadata, (m.HasRealms → LowerDecides m.directory.realmsWithin)
          ∧ (¬ m.HasRealms → ∃ err, ∀ path base,
            m.directory.realmsWithin path base = .error err) := by
  refine ⟨isUnder_refl, fun _ _ _ => isUnder_trans,
    fun _ _ => isUnder_antisymm, fun _ _ _ => isUnder_or_isUnder,
      fun _ _ => isUnder_pathTo_iff, fun d => lowerDecides_keysWithin d.realms,
        fun m => ?_⟩
  exact ⟨Metadata.lowerDecides_realmsWithin, Metadata.realmsWithin_fails⟩

-- =============================================================== evening

namespace Evening

def realms : List Realm :=
  [⟨"r0", "/"⟩, ⟨"r1", "/even"⟩, ⟨"r2", "/even/two"⟩, ⟨"r3", "/evening"⟩]

def memory : MemoryDirectory := { realms := realms }

def tables : Metadata :=
  { Metadata.fresh with realms := some (realms.map RealmRow.ofRealm) }

/-- Tables with a realm that has no key. -/
def keyless : Metadata :=
  { Metadata.fresh with realms := some [⟨some "r0", "/"⟩, ⟨none, "/even"⟩] }

end Evening

open Realm Evening in
/-- The realm /evening is not below /even, whose segment is another one. -/
theorem evening_not_within_even :
    pathTo ["even"] = "/even"
      ∧ isUnder "/even/two" "/even" = true
      ∧ isUnder "/even/two" "/" = true
      ∧ (isUnder "/even" "/" = true ∨ isUnder "/" "/even" = true)
      ∧ isUnder "/evening" "/even" = false
      ∧ memory.directory.realmsWithin "/even" "/evening" = .ok []
      ∧ memory.directory.realmsWithin "/even/two" "/even" = .ok ["r2"]
      ∧ tables.directory.realmsWithin "/even" "/evening" = .ok []
      ∧ tables.directory.realmsWithin "/even/two" "/even"
          = tables.directory.realmsWithin "/even/two" "/even/two"
      ∧ ∃ err, ∀ path base,
        keyless.directory.realmsWithin path base = .error err := by
  obtain ⟨-, htrans, hantisymm, hchain, hsegments, hmemory, htables⟩ :=
    realm_paths_form_forest
  have heven : pathTo ["even"] = "/even" :=
    hantisymm _ _ (by decide) (by decide)
  have htwo : isUnder "/even/two" "/even" = true :=
    (hsegments ["even", "two"] ["even"] (by decide +kernel)
      (by decide +kernel)).2 (by decide +kernel)
  have hroot := htrans "/even/two" "/even" "/" htwo (by decide +kernel)
  have hbelow : isUnder "/evening" "/even" = false := by
    rw [← Bool.not_eq_true]
    exact fun h => absurd
      ((hsegments ["evening"] ["even"] (by decide +kernel)
        (by decide)).1 h)
      (by decide)
  have habove : isUnder "/even" "/evening" = false := by decide
  have hheld : tables.HasRealms := ⟨_, rfl, by decide +kernel⟩
  have hkeyless : ¬ keyless.HasRealms := by
    rintro ⟨rows, hrows, hkeys⟩
    cases hrows
    exact hkeys ⟨none, "/even"⟩ (by decide +kernel) rfl
  refine ⟨heven, htwo, hroot, hchain _ _ _ htwo hroot, hbelow, ?_, ?_, ?_, ?_,
    (htables keyless).2 hkeyless⟩
  · exact (hmemory memory).of_apart _ _ habove hbelow
  · rw [(hmemory memory).of_isUnder _ _ htwo]
    decide +kernel
  · exact ((htables tables).1 hheld).of_apart _ _ habove hbelow
  · exact ((htables tables).1 hheld).of_isUnder _ _ htwo

end IdentitySearch
