/-
The base alone, and all below it. A search in the base alone is granted the
base if it lies at or below some scope; the scope need not be a path, nor name
anything. A search at and below the base is granted the base if a scope does
that is a path. So where realms are all that is granted, the base alone is no
more than is granted at and below it exactly if some path grants the base
whenever some scope lies over it (`inBase_subset_iff`). This is so where every
scope over the base is a path; and over a path there is no other scope that is
not one than the empty text (`isPath_of_isUnder`).

What a subset of realms means for who is seen is in the second half. Where
realms are all that a filter grants, its restriction is the request itself and
its visibility lists its realms, or nobody if there are none. An identity seen
through fewer realms is seen through more of them (`Cell.isIn_mono`,
`Visibility.admits_mono`); where no realm is granted at all there is nobody to
compare (`visibility_of_nothing`).
-/
import IdentitySearch.Proofs.Realm
import IdentitySearch.Proofs.Scope.Visibility

namespace IdentitySearch

-- =============================================================== grants

namespace Grants

variable {d : Directory} {realms : List Realm} {base : Realm}
  {scopes : List String}

/-- In the base alone the base is granted, where it lies at or below some
scope. -/
theorem mem_realms_inBase (key : String) : key ∈ (inBase base scopes).realms ↔
    key = base.key
      ∧ ∃ scope ∈ scopes, Realm.isUnder base.fullPath scope = true := by
  unfold inBase
  rw [← List.any_eq_true]
  split
  · next hany =>
    rw [KeySet.mem_insert, or_iff_left (KeySet.not_mem_empty key), hany]
    simp
  · next hany =>
    refine iff_of_false (KeySet.not_mem_empty key) fun h => hany h.2

/-- In the base alone no dynamic realm is granted, -/
theorem not_mem_dynRealms_inBase (key : String) :
    key ∉ (inBase base scopes).dynRealms := by
  unfold inBase
  split
  · exact KeySet.not_mem_empty key
  · exact KeySet.not_mem_empty key

/-- and no group. -/
theorem not_mem_groups_inBase (key : String) :
    key ∉ (inBase base scopes).groups := by
  unfold inBase
  split
  · exact KeySet.not_mem_empty key
  · exact KeySet.not_mem_empty key

end Grants

namespace ScopeFilter

variable {d : Directory} {realms : List Realm} {base : Realm}
  {scopes : List String}
  {wide : ScopeFilter}

/-- A filter that grants realms at most. -/
structure RealmsOnly (f : ScopeFilter) : Prop where
  dynRealms : ∀ key, key ∉ f.grants.dynRealms
  groups : ∀ key, key ∉ f.grants.groups

/-- The filter for the base alone can always be made. -/
def inBase (base : Realm) (scopes : List String) : ScopeFilter :=
  ⟨Grants.inBase base scopes, (Grants.inBase base scopes).visibility⟩

/-- Some scopes grant in the base alone what lies over it, and never fail. -/
theorem make_inBase (hscopes : scopes ≠ []) (d : Directory) :
    make d base false scopes = .ok (inBase base scopes) := by
  unfold make
  rw [if_neg (by simpa using hscopes)]
  rfl

theorem realmsOnly_inBase : (inBase base scopes).RealmsOnly :=
  ⟨Grants.not_mem_dynRealms_inBase, Grants.not_mem_groups_inBase⟩

/-- Where only realms are granted at and below a base, it is by paths. -/
theorem mem_realms_of_realmsOnly (hd : d.Knows realms) (hscopes : scopes ≠ [])
    (h : make d base true scopes = .ok wide) (hwide : wide.RealmsOnly) :
    (∀ key, key ∈ wide.grants.realms
      ↔ ∃ scope ∈ scopes, Realm.GrantsRealm realms base scope key)
      ∧ ∀ scope ∈ scopes, ∀ group, ¬ Realm.SpeaksFor scope group := by
  unfold make at h
  rw [if_neg (by simpa using hscopes)] at h
  obtain ⟨settled, hsettled, rfl⟩ := Outcome.map_eq_ok.1 h
  obtain ⟨g, hg, rfl⟩ := Outcome.map_eq_ok.1 hsettled
  obtain ⟨hrealm, -, hgroup⟩ := Grants.adds_nothing hd hg
  have hdyn : ¬ ∃ x, x ∈ g.dynRealms := fun ⟨x, hx⟩ => hwide.dynRealms x (by
    rw [Grants.dynRealms_settle]
    exact hx)
  refine ⟨fun key => ?_, fun scope hscope group hspeaks => ?_⟩
  · rw [← hrealm, Grants.mem_realms_settle]
    exact and_iff_right hdyn
  · refine hwide.groups group ?_
    rw [Grants.groups_settle, hgroup]
    exact ⟨scope, hscope, hspeaks⟩

/-- The base alone is no more than what is granted at and below it, exactly if
a path grants the base whenever a scope lies over it. -/
theorem inBase_subset_iff (hd : d.Knows realms) (hscopes : scopes ≠ [])
    (h : make d base true scopes = .ok wide) (hwide : wide.RealmsOnly) :
    (∀ key ∈ (inBase base scopes).grants.realms, key ∈ wide.grants.realms) ↔
      ((∃ scope ∈ scopes, Realm.isUnder base.fullPath scope = true) →
        ∃ scope ∈ scopes, Realm.GrantsRealm realms base scope base.key) := by
  obtain ⟨hrealm, -⟩ := mem_realms_of_realmsOnly hd hscopes h hwide
  simp only [inBase, Grants.mem_realms_inBase, hrealm]
  constructor
  · intro hsubset hover
    exact hsubset base.key ⟨rfl, hover⟩
  · intro hgrants key hkey
    rw [hkey.1]
    exact hgrants hkey.2

/-- A path over a realm grants it. -/
theorem grantsRealm_of_isUnder (hbase : base ∈ realms) {scope : String}
    (hspeaks : ∀ group, ¬ Realm.SpeaksFor scope group)
    (hpath : Realm.isPath scope = true)
    (hover : Realm.isUnder base.fullPath scope = true) :
    Realm.GrantsRealm realms base scope base.key :=
  ⟨hspeaks, hpath, base, hbase, hover, Realm.isUnder_refl base.fullPath, rfl⟩

/-- Where every scope over the base is a path, the base alone is no more than
what is granted at and below it. -/
theorem inBase_subset (hd : d.Knows realms) (hbase : base ∈ realms)
    (hscopes : scopes ≠ [])
    (h : make d base true scopes = .ok wide) (hwide : wide.RealmsOnly)
    (hpaths : ∀ scope ∈ scopes, Realm.isUnder base.fullPath scope = true →
      Realm.isPath scope = true) :
    ∀ key ∈ (inBase base scopes).grants.realms, key ∈ wide.grants.realms := by
  rw [inBase_subset_iff hd hscopes h hwide]
  intro hgiven
  obtain ⟨scope, hscope, hover⟩ := hgiven
  obtain ⟨-, hspeaks⟩ := mem_realms_of_realmsOnly hd hscopes h hwide
  exact ⟨scope, hscope, grantsRealm_of_isUnder hbase (hspeaks scope hscope)
    (hpaths scope hscope hover) hover⟩

end ScopeFilter

-- =========================================================== visibility

/-- Nobody is hidden by what another view holds than that of the core
fields. -/
theorem Visibility.eq_field_of_mem_views {v : Visibility} {kind : Kind}
    {view : View} (h : view ∈ v.views kind) : view = .field kind := by
  cases v with
  | everyone => cases h
  | nobody => cases h
  | inRealms keys => exact List.mem_singleton.1 h

/-- What is in a list is in any list that contains it. -/
theorem Cell.isIn_mono {c : Cell} {cells more : List Cell}
    (h : ∀ d ∈ cells, d ∈ more) (hc : (c.isIn cells).isHolds = true) :
    (c.isIn more).isHolds = true := by
  rw [Truth.isHolds_iff, isIn_eq_holds] at hc ⊢
  obtain ⟨d, hd, hequals⟩ := hc
  exact ⟨d, h d hd, hequals⟩

/-- Whoever is in one of some realms is in one of more realms. -/
theorem Visibility.admits_mono (db : Database) (kind : Kind)
    {keys more : List String} (h : ∀ key ∈ keys, key ∈ more) {cell : Cell}
    (hcell : (inRealms keys).admits db kind cell = true) :
    (inRealms more).admits db kind cell = true := by
  refine Cell.isIn_mono (fun d hd => ?_) hcell
  obtain ⟨row, hrow, rfl⟩ := List.mem_map.1 hd
  obtain ⟨hmem, hin⟩ := List.mem_filter.1 hrow
  refine List.mem_map_of_mem
    (List.mem_filter.2 ⟨hmem, Cell.isIn_mono (fun e he => ?_) hin⟩)
  obtain ⟨key, hkey, rfl⟩ := List.mem_map.1 he
  exact List.mem_map_of_mem (h key hkey)

namespace ScopeFilter

/-- A filter that grants realms at most leaves a condition as it is. -/
theorem restrict_of_realmsOnly {f : ScopeFilter} (h : f.RealmsOnly)
    (kind : Kind) (c : Condition) : f.restrict kind c = c := by
  have hdyn : f.grants.dynRealms.keys = [] :=
    List.eq_nil_iff_forall_not_mem.2 h.dynRealms
  have hgroups : f.grants.groups.keys = [] :=
    List.eq_nil_iff_forall_not_mem.2 h.groups
  unfold restrict dynRealmCondition? groupCondition?
  rw [hdyn, hgroups]
  rfl

/-- Some realms are what is seen, if some are granted. -/
theorem visibility_of_realms {f : ScopeFilter} (h : ∃ x, x ∈ f.grants.realms) :
    f.grants.visibility = .inRealms f.grants.realms.keys := by
  unfold Grants.visibility
  rw [KeySet.isEmpty_eq_false_iff.2 h]
  rfl

/-- Nobody is shown where not even a realm is granted. -/
theorem visibility_of_nothing {f : ScopeFilter} (hrealms : f.RealmsOnly)
    (h : ¬ ∃ x, x ∈ f.grants.realms) : f.grants.visibility = .nobody := by
  unfold Grants.visibility
  rw [KeySet.isEmpty_iff.2 hrealms.dynRealms,
    KeySet.isEmpty_iff.2 hrealms.groups,
    KeySet.isEmpty_iff.2 fun x hx => h ⟨x, hx⟩]
  rfl

/-- More realms show no fewer. -/
theorem admits_of_subset {db : Database} {kind : Kind} {f g : ScopeFilter}
    (hf : f.RealmsOnly) (hsubset : ∀ x ∈ f.grants.realms, x ∈ g.grants.realms)
    {cell : Cell} (h : f.grants.visibility.admits db kind cell = true) :
    (∃ x, x ∈ f.grants.realms)
      ∧ g.grants.visibility.admits db kind cell = true := by
  by_cases hsome : ∃ x, x ∈ f.grants.realms
  · refine ⟨hsome, ?_⟩
    obtain ⟨x, hx⟩ := hsome
    rw [visibility_of_realms ⟨x, hx⟩] at h
    rw [visibility_of_realms ⟨x, hsubset x hx⟩]
    exact Visibility.admits_mono db kind hsubset h
  · rw [visibility_of_nothing hf hsome] at h
    cases h

end ScopeFilter

end IdentitySearch
