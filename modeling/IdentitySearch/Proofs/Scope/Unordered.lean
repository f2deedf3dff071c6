/-
Scopes in any order. Scopes are read one after the other, but what one of them
adds does not depend on what the others have granted: it is what the scope
grants by itself (`Grants.withScope_eq`), joined to the rest. So a list of
scopes resolves if each of them does, and grants a key if one of them does; and
since a set of keys is known by its elements (`KeySet.ext`), two lists of the
same scopes come to the same restriction or both fail
(`ScopeFilter.make_cases`). Whatever a request is turned into afterwards sees
the restriction and not the scopes (`Engine.scopes_as_set`).

The induction is over the list, with any grants to begin with: whether the rest
resolves is a question about each of its scopes (`exists_foldlM_iff`), and what
it adds is the union of what each of them grants. Neither mentions the order or
the number of times a scope stands there. The errors do: the scope that is
found out first is the first that does not resolve, which may be another one in
another order. In the base alone nothing is read one by one; there it only
matters whether some scope lies over the base (`inBase_eq_of_mem_iff`).
-/
import Mathlib.Data.List.Sort
import IdentitySearch.Proofs.Engine.Requests
import IdentitySearch.Proofs.Scope.Grants

namespace IdentitySearch

open Outcome

-- ================================================================= keys

/-- Sets with the same elements are the same set. -/
theorem KeySet.ext {s t : KeySet} (h : ∀ key, key ∈ s ↔ key ∈ t) : s = t := by
  obtain ⟨keys, hkeys⟩ := s
  obtain ⟨more, hmore⟩ := t
  have hsame : keys = more := List.Pairwise.eq_of_mem_iff hkeys hmore h
  subst hsame
  rfl

-- =============================================================== grants

namespace Grants

variable {d : Directory} {base : Realm} {g g' : Grants} {scope : String}
  {scopes scopes' : List String}

/-- Grants that hold the same keys are the same. -/
theorem ext_mem (hrealms : ∀ key, key ∈ g.realms ↔ key ∈ g'.realms)
    (hdynRealms : ∀ key, key ∈ g.dynRealms ↔ key ∈ g'.dynRealms)
    (hgroups : ∀ key, key ∈ g.groups ↔ key ∈ g'.groups) : g = g' := by
  obtain ⟨r, dr, gr⟩ := g
  rw [Grants.mk.injEq]
  exact ⟨KeySet.ext hrealms, KeySet.ext hdynRealms, KeySet.ext hgroups⟩

/-- Both grants together. -/
def join (g own : Grants) : Grants where
  realms := own.realms.union g.realms
  dynRealms := own.dynRealms.union g.dynRealms
  groups := own.groups.union g.groups

/-- What a scope adds is what it grants by itself. -/
theorem withScope_eq (d : Directory) (base : Realm) (g : Grants)
    (scope : String) :
    withScope d base g scope
      = (withScope d base nothing scope).map g.join := by
  have hempty : ∀ s : KeySet, KeySet.empty.union s = s := fun s => rfl
  have hinsert : ∀ (s : KeySet) (key : String),
      (KeySet.empty.insert key).union s = s.insert key := fun s key => rfl
  have hunion : ∀ s t : KeySet,
      (s.union KeySet.empty).union t = s.union t := by
    intro s t
    refine KeySet.ext fun key => ?_
    rw [KeySet.mem_union, KeySet.mem_union, KeySet.mem_union,
      or_iff_left (KeySet.not_mem_empty key)]
  unfold withScope
  split
  · rfl
  · split
    · rw [map_bind]
      refine bind_congr_ok fun realm _ => ?_
      rw [map_bind]
      refine bind_congr_ok fun keys _ => ?_
      show Except.ok (_ : Grants) = Except.ok _
      rw [join, nothing, hunion]
      rfl
    · rw [map_bind]
      refine bind_congr_ok fun found _ => ?_
      cases found with
      | none => rfl
      | some key => rfl

/-- A scope resolves: what it names can be looked up. -/
def Resolves (d : Directory) (base : Realm) (scope : String) : Prop :=
  ∃ own, withScope d base nothing scope = .ok own

/-- Whether a scope resolves does not depend on what was granted before. -/
theorem exists_withScope_iff :
    (∃ g', withScope d base g scope = .ok g') ↔ Resolves d base scope := by
  rw [withScope_eq d base g scope, Resolves]
  simp only [map_eq_ok]
  constructor
  · intro h
    obtain ⟨-, own, hown, -⟩ := h
    exact ⟨own, hown⟩
  · intro h
    obtain ⟨own, hown⟩ := h
    exact ⟨g.join own, own, hown, rfl⟩

/-- A scope adds what it grants by itself. -/
theorem adds_own (h : withScope d base g scope = .ok g') :
    g.Adds g' (fun key => ∃ own, withScope d base nothing scope = .ok own
      ∧ key ∈ own.realms)
      (fun key => ∃ own, withScope d base nothing scope = .ok own
        ∧ key ∈ own.dynRealms)
      (fun key => ∃ own, withScope d base nothing scope = .ok own
        ∧ key ∈ own.groups) := by
  rw [withScope_eq] at h
  obtain ⟨own, hown, rfl⟩ := map_eq_ok.1 h
  constructor
  all_goals
    intro key
    rw [join, KeySet.mem_union, or_comm, hown]
    simp

/-- Scopes resolve together if each of them does. -/
theorem exists_foldlM_iff (d : Directory) (base : Realm) (g : Grants)
    (scopes : List String) :
    (∃ g', scopes.foldlM (withScope d base) g = .ok g')
      ↔ ∀ scope ∈ scopes, Resolves d base scope := by
  induction scopes generalizing g with
  | nil => exact iff_of_true ⟨g, rfl⟩ fun scope h => nomatch h
  | cons scope rest ih =>
    rw [List.forall_mem_cons, ← exists_withScope_iff (g := g)]
    simp only [List.foldlM_cons, bind_eq_ok]
    constructor
    · intro h
      obtain ⟨g', g₁, hfirst, hrest⟩ := h
      exact ⟨⟨g₁, hfirst⟩, (ih g₁).1 ⟨g', hrest⟩⟩
    · intro h
      obtain ⟨⟨g₁, hfirst⟩, hrest⟩ := h
      obtain ⟨g', hg'⟩ := (ih g₁).2 hrest
      exact ⟨g', g₁, hfirst, hg'⟩

/-- The same scopes grant the same, where they resolve. -/
theorem foldlM_eq_of_mem_iff (h : ∀ scope, scope ∈ scopes ↔ scope ∈ scopes')
    (hg : scopes.foldlM (withScope d base) nothing = .ok g)
    (hg' : scopes'.foldlM (withScope d base) nothing = .ok g') : g = g' := by
  have adds := adds_foldlM_of_each adds_own hg
  have adds' := adds_foldlM_of_each adds_own hg'
  refine ext_mem (fun key => ?_) (fun key => ?_) (fun key => ?_)
  · rw [adds.mem_realms, adds'.mem_realms]
    simp only [h]
  · rw [adds.mem_dynRealms, adds'.mem_dynRealms]
    simp only [h]
  · rw [adds.mem_groups, adds'.mem_groups]
    simp only [h]

/-- In the base alone it counts whether some scope lies over it. -/
theorem inBase_eq_of_mem_iff (h : ∀ scope, scope ∈ scopes ↔ scope ∈ scopes') :
    inBase base scopes = inBase base scopes' := by
  have hany : (scopes.any fun scope => Realm.isUnder base.fullPath scope)
      = scopes'.any fun scope => Realm.isUnder base.fullPath scope := by
    rw [Bool.eq_iff_iff, List.any_eq_true, List.any_eq_true]
    simp only [h]
  unfold inBase
  rw [hany]

end Grants

-- ========================================================== restriction

namespace ScopeFilter

variable {d : Directory} {base : Realm} {scopes scopes' : List String}

/-- The same scopes come to the same restriction, or to none. -/
theorem make_cases (d : Directory) (base : Realm) (recursive : Bool)
    (h : ∀ scope, scope ∈ scopes ↔ scope ∈ scopes') :
    (∃ f, make d base recursive scopes = .ok f
      ∧ make d base recursive scopes' = .ok f)
      ∨ ∃ err err', make d base recursive scopes = .error err
          ∧ make d base recursive scopes' = .error err' := by
  have hnone : scopes.isEmpty = scopes'.isEmpty := by
    rw [Bool.eq_iff_iff, List.isEmpty_iff, List.isEmpty_iff,
      List.eq_nil_iff_forall_not_mem, List.eq_nil_iff_forall_not_mem]
    simp only [h]
  unfold make
  rw [← hnone, ← Grants.inBase_eq_of_mem_iff h]
  cases scopes.isEmpty with
  | true => exact .inl ⟨_, rfl, rfl⟩
  | false =>
    cases recursive with
    | false => exact .inl ⟨_, rfl, rfl⟩
    | true =>
      have hresolve := Grants.exists_foldlM_iff d base .nothing scopes
      have hresolve' := Grants.exists_foldlM_iff d base .nothing scopes'
      simp only [← h] at hresolve'
      unfold Grants.atOrBelow
      cases hg : scopes.foldlM (Grants.withScope d base) .nothing with
      | ok g =>
        obtain ⟨g', hg'⟩ := hresolve'.2 (hresolve.1 ⟨g, hg⟩)
        rw [hg', Grants.foldlM_eq_of_mem_iff h hg hg']
        exact .inl ⟨_, rfl, rfl⟩
      | error err =>
        cases hg' : scopes'.foldlM (Grants.withScope d base) .nothing with
        | ok g' =>
          obtain ⟨g, hok⟩ := hresolve.2 (hresolve'.1 ⟨g', hg'⟩)
          cases hg.symm.trans hok
        | error err' => exact .inr ⟨err, err', rfl, rfl⟩

end ScopeFilter

-- =========================================================== statements

namespace Engine

variable {e : Engine} {r : Request}

/-- A request is prepared under the restriction that its scopes come to,
whichever they are. -/
theorem prepare_eq_of_make {scopes : List String}
    (h : ScopeFilter.make e.directory r.base r.recursive scopes
      = ScopeFilter.make e.directory r.base r.recursive r.scopes)
    (s : Session) :
    e.prepare { r with scopes := scopes } s = e.prepare r s := by
  unfold prepare
  rw [← h]
  rfl

/-- A request depends on the set of its scopes. With the same scopes in another
order, or repeated, it is restricted to the same, and its statements are the
same; or neither list comes to a restriction. -/
theorem scopes_as_set (e : Engine) (r : Request) {scopes : List String}
    (h : ∀ scope, scope ∈ r.scopes ↔ scope ∈ scopes) :
    (∃ f, ScopeFilter.make e.directory r.base r.recursive r.scopes = .ok f
        ∧ ScopeFilter.make e.directory r.base r.recursive scopes = .ok f
        ∧ ∀ s, e.countStatement { r with scopes := scopes } s
          = e.countStatement r s
          ∧ ∀ page, e.searchStatement { r with scopes := scopes } page s
            = e.searchStatement r page s)
      ∨ ∃ err err', ScopeFilter.make e.directory r.base r.recursive r.scopes
        = .error err
          ∧ ScopeFilter.make e.directory r.base r.recursive scopes
            = .error err' := by
  rcases ScopeFilter.make_cases e.directory r.base r.recursive h with
    hok | herr
  · obtain ⟨f, hf, hf'⟩ := hok
    have hprepare := prepare_eq_of_make (hf'.trans hf.symm)
    refine .inl ⟨f, hf, hf', fun s => ⟨?_, fun page => ?_⟩⟩
    · unfold countStatement
      rw [hprepare]
    · unfold searchStatement
      rw [hprepare]
      rfl
  · exact .inr herr

end Engine

-- ========================================================= mixed scopes

namespace MixedScopes

/-- Two realms, and a dynamic one. -/
def directory : Directory :=
  ((MemoryDirectory.empty.addRealm ⟨"r1", "/even"⟩).addRealm
    ⟨"r2", "/even/two"⟩).addDynRealm "vip" "dr" |>.directory

def engine : Engine where
  config := { dialect := some .generic }
  directory := directory
  store := { detect := .ok .generic, count := fun _ => .ok 0,
             fetch := fun _ => .ok [] }

/-- Administrators at and below a realm. -/
def request (scopes : List String) : Request where
  base := ⟨"r1", "/even"⟩
  recursive := true
  scopes := scopes
  condition := .leaf (.role "admin")
  kind := .user

/-- Scopes of every form, one of which grants nothing. -/
def scopes : List String := ["/even", "vip", "/odd@g", "ghost"]

def reordered : List String := ["/odd@g", "ghost", "/even", "/odd@g", "vip"]

/-- Two of these name no realm. -/
def unknown : List String := ["/one", "/even", "/two"]

def unknownReordered : List String := ["/two", "/one", "/even"]

end MixedScopes

open MixedScopes in
/-- A dynamic realm settles what the paths before and after it grant. A path
that names no realm is found out wherever it stands, but it may be another one
that is found out first. -/
theorem scopes_as_set_mixed :
    (∀ scope, scope ∈ scopes ↔ scope ∈ reordered)
      ∧ (∃ f, ScopeFilter.make directory ⟨"r1", "/even"⟩ true scopes = .ok f
        ∧ ScopeFilter.make directory ⟨"r1", "/even"⟩ true reordered = .ok f
        ∧ f.grants.dynRealms.keys = ["dr"] ∧ f.grants.groups.keys = ["g"]
        ∧ f.visibility = .everyone
        ∧ engine.countStatement (request reordered) .start
          = engine.countStatement (request scopes) .start)
      ∧ (∀ scope, scope ∈ unknown ↔ scope ∈ unknownReordered)
      ∧ ScopeFilter.make directory ⟨"r1", "/even"⟩ true unknown
        = .error (.unknownRealm "/one")
      ∧ ScopeFilter.make directory ⟨"r1", "/even"⟩ true unknownReordered
        = .error (.unknownRealm "/two") := by
  have hscopes : ∀ scope, scope ∈ scopes ↔ scope ∈ reordered := by
    intro scope
    simp only [scopes, reordered, List.mem_cons, List.not_mem_nil]
    tauto
  have hunknown : ∀ scope, scope ∈ unknown ↔ scope ∈ unknownReordered := by
    intro scope
    simp only [unknown, unknownReordered, List.mem_cons, List.not_mem_nil]
    tauto
  have hmade : ∃ f,
      ScopeFilter.make directory ⟨"r1", "/even"⟩ true scopes = .ok f
      ∧ f.grants.dynRealms.keys = ["dr"] ∧ f.grants.groups.keys = ["g"]
      ∧ f.visibility = .everyone :=
    ⟨_, rfl, rfl, rfl, rfl⟩
  obtain ⟨f₀, hmake, hdyn, hgroups, hshown⟩ := hmade
  refine ⟨hscopes, ?_, hunknown, rfl, rfl⟩
  rcases Engine.scopes_as_set engine (request scopes) hscopes with hok | herr
  · obtain ⟨f, hf, hf', hstatements⟩ := hok
    cases hmake.symm.trans hf
    exact ⟨f₀, hf, hf', hdyn, hgroups, hshown, (hstatements .start).1⟩
  · obtain ⟨err, err', herr, -⟩ := herr
    cases hmake.symm.trans herr

end IdentitySearch
