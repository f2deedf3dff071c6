/-
Who is visible. A restriction comes in two parts, a test on the rows of the
search and conditions beside the one that is asked for; together they let
exactly those pass who are in a granted realm, dynamic realm or group
(`satisfies_restrict`, `Visibility.admits_text`). What the scopes say about it
is `Visible`, and a restriction made of them says the same
(`passes_iff_visible`).

`Visible` speaks of the scopes, the realms of the directory and the tables, in
terms of paths and membership alone. A restriction speaks of sets of keys that
were collected while the scopes were read. Between the two stand the sets
themselves:

- for a search at and below its base the grants are known as sets, realm by
  realm and group by group (`passes_atOrBelow_iff`), and settling them leaves
  realms only where there is no dynamic realm (`Grants.mem_realms_settle`);
- for a search in the base alone there is one realm to grant or none
  (`passes_inBase_iff`);
- without scopes nothing is restricted (`passes_of_scopes_nil`).

In each of them the test on rows is for realms only. Where realms are granted
along with groups, who passes must pass both, and where nothing is granted
nobody passes (`Grants.shows_visibility`).
-/
import IdentitySearch.Proofs.Scope.Grants
import IdentitySearch.Proofs.Selection.Assignments
import IdentitySearch.Statement.Evaluation

namespace IdentitySearch

variable (db : Database)

-- ============================================================== visible

/-- Who is visible at and below a base: some grant is there, and the identity
is in one of the granted dynamic realms, if there are any, else in one of the
granted realms, if there are any, and belongs to one of the owned groups, if
there are any. -/
structure VisibleBelow (kind : Kind) (realms dynRealms groups : String → Prop)
    (key : String) : Prop where
  granted : (∃ x, realms x) ∨ (∃ x, dynRealms x) ∨ ∃ x, groups x
  dynRealm : (∃ x, dynRealms x) → ∃ x, dynRealms x ∧ db.InDynRealm key x
  realm : (¬ ∃ x, dynRealms x) → (∃ x, realms x) → ∃ x, realms x
    ∧ db.InRealm kind key x
  group : (∃ x, groups x) → ∃ x, groups x ∧ db.BelongsTo kind key x

/-- Who is visible in the base alone: the base is at or below one of the
scopes, and the identity is in it. -/
structure VisibleIn (kind : Kind) (base : Realm) (scopes : List String)
    (key : String) :
    Prop where
  granted : ∃ scope ∈ scopes, Realm.isUnder base.fullPath scope = true
  realm : db.InRealm kind key base.key

/-- Who is visible under scopes. -/
def Visible (d : Directory) (realms : List Realm) (kind : Kind) (base : Realm)
    (recursive : Bool) (scopes : List String) (key : String) : Prop :=
  if recursive then
    VisibleBelow db kind
      (fun x => ∃ scope ∈ scopes, Realm.GrantsRealm realms base scope x)
      (fun x => ∃ scope ∈ scopes, Realm.GrantsDynRealm d scope x)
      (fun x => ∃ scope ∈ scopes, Realm.SpeaksFor scope x) key
  else VisibleIn db kind base scopes key

-- ========================================================== restriction

/-- What the test on the rows lets pass. -/
def Visibility.Shows (kind : Kind) : Visibility → String → Prop
  | .everyone, _ => True
  | .nobody, _ => False
  | .inRealms keys, key => ∃ realm ∈ keys, db.InRealm kind key realm

/-- The test on rows admits a key if it is shown. -/
theorem Visibility.admits_text (kind : Kind) (v : Visibility) (key : String) :
    v.admits db kind (.text key) = true ↔ v.Shows db kind key := by
  cases v with
  | everyone => simp [admits, Shows]
  | nobody => simp [admits, Shows]
  | inRealms keys =>
    simp only [admits, Shows, Truth.isHolds_iff, Cell.text_isIn, List.mem_map,
      List.mem_filter, Cell.isIn_texts]
    constructor
    · intro h
      rcases h with ⟨row, ⟨hrow, realm, hrealm, hin⟩, hkey⟩
      exact ⟨realm, hrealm, row, hrow, hkey, hin⟩
    · intro h
      rcases h with ⟨realm, hrealm, row, hrow, hkey, hin⟩
      exact ⟨row, ⟨hrow, realm, hrealm, hin⟩, hkey⟩

namespace ScopeFilter

/-- The conditions that stand beside the one that is asked for. -/
def conditions (f : ScopeFilter) (kind : Kind) : List Condition :=
  f.dynRealmCondition?.toList ++ (f.groupCondition? kind).toList

/-- What a restriction lets pass. -/
structure Passes (f : ScopeFilter) (kind : Kind) (key : String) : Prop where
  shown : f.visibility.Shows db kind key
  dynRealm : (∃ x, x ∈ f.grants.dynRealms) →
    ∃ x ∈ f.grants.dynRealms, db.InDynRealm key x
  group : (∃ x, x ∈ f.grants.groups) →
    ∃ x ∈ f.grants.groups, db.BelongsTo kind key x

end ScopeFilter

namespace Setting

variable (s : Setting)

/-- One of some conditions, where all of them are read from one view: if there
are any, one of them is satisfied. -/
theorem satisfies_any? {v : View} {f : String → Condition}
    (hf : ∀ k, s.Compiles (f k) ∧ s.firstView (f k) = v) (keys : List String)
    (key : String) :
    (∀ d ∈ (Condition.any? (keys.map f)).toList, s.Satisfies db d key)
      ↔ ((∃ k, k ∈ keys) → ∃ k ∈ keys, s.Satisfies db (f k) key) := by
  cases keys with
  | nil => simp [Condition.any?]
  | cons k rest =>
    have hrest : ∀ d ∈ rest.map f, s.Compiles d ∧ s.firstView d = v := by
      intro d hd
      obtain ⟨k', -, rfl⟩ := List.mem_map.1 hd
      exact hf k'
    simp only [Condition.any?, List.map_cons, Option.toList_some,
      List.mem_singleton, forall_eq, satisfies_foldl_or s db (hf k) hrest key]
    rw [← List.map_cons]
    constructor
    · intro hgiven _
      rcases hgiven with ⟨d, hd, hkey⟩
      obtain ⟨k', hk', rfl⟩ := List.mem_map.1 hd
      exact ⟨k', hk', hkey⟩
    · intro h
      obtain ⟨k', hk', hkey⟩ := h ⟨k, List.mem_cons_self⟩
      exact ⟨f k', List.mem_map_of_mem hk', hkey⟩

/-- An identity satisfies the conditions of a restriction if it is in one of
the dynamic realms, if there are any, and belongs to one of the groups, if
there are any. -/
theorem satisfies_conditions (hfield : s.realmField ≠ "key") (f : ScopeFilter)
    {key : String} (hlisted : db.Lists s.fieldView key) :
    (∀ c ∈ f.conditions s.kind, s.Satisfies db c key) ↔
      ((∃ x, x ∈ f.grants.dynRealms) →
        ∃ x ∈ f.grants.dynRealms, db.InDynRealm key x)
        ∧ ((∃ x, x ∈ f.grants.groups) →
          ∃ x ∈ f.grants.groups, db.BelongsTo s.kind key x) := by
  have hdyn := satisfies_any? db s (v := s.fieldView)
      (f := fun x => .leaf (.dynRealm x)) (fun x =>
        ⟨⟨_, s.ofCondition_dynRealm x⟩, rfl⟩) f.grants.dynRealms.keys key
  have hgroup := satisfies_any? db s (v := s.fieldView)
    (f := fun x => .leaf (ScopeFilter.ownedBy s.kind x))
    (fun x => ⟨⟨_, s.ofCondition_ownedBy hfield x⟩, by
      unfold ScopeFilter.ownedBy
      split <;> rfl⟩) f.grants.groups.keys key
  rw [ScopeFilter.conditions, List.forall_mem_append,
    ScopeFilter.dynRealmCondition?, hdyn, ScopeFilter.groupCondition?, hgroup]
  simp only [satisfies_dynRealm, satisfies_ownedBy db s hfield, hlisted,
    true_and, KeySet.mem_keys]

/-- Under a restriction a condition is satisfied by those who satisfy it and
pass. -/
theorem satisfies_restrict (hfield : s.realmField ≠ "key") {c : Condition}
    {key : String} (hlisted : s.Satisfies db c key → db.Lists s.fieldView key)
    (f : ScopeFilter) :
    s.Satisfies db (f.restrict s.kind c) key ↔
      s.Satisfies db c key
        ∧ ((∃ x, x ∈ f.grants.dynRealms) →
          ∃ x ∈ f.grants.dynRealms, db.InDynRealm key x)
        ∧ ((∃ x, x ∈ f.grants.groups) →
          ∃ x ∈ f.grants.groups, db.BelongsTo s.kind key x) := by
  rw [ScopeFilter.restrict, satisfies_foldl_and]
  exact and_congr_right fun hkey =>
    satisfies_conditions db s hfield f (hlisted hkey)

end Setting

-- =============================================================== grants

namespace Grants

/-- Who is shown under grants: there is one, and realms that are granted show
those who are in one of them. -/
theorem shows_visibility (g : Grants) (kind : Kind) (key : String) :
    g.visibility.Shows db kind key ↔
      ((∃ x, x ∈ g.realms) ∨ (∃ x, x ∈ g.dynRealms) ∨ ∃ x, x ∈ g.groups)
        ∧ ((∃ x, x ∈ g.realms) → ∃ x ∈ g.realms, db.InRealm kind key x) := by
  unfold visibility
  cases hrealms : g.realms.isEmpty with
  | false =>
    have hsome := KeySet.isEmpty_eq_false_iff.1 hrealms
    rw [Bool.not_false, if_pos rfl]
    constructor
    · exact fun h => ⟨.inl hsome, fun _ => h⟩
    · exact fun h => h.2 hsome
  | true =>
    have hnone := KeySet.isEmpty_iff.1 hrealms
    have hno : ¬ ∃ x, x ∈ g.realms := fun ⟨x, hx⟩ => hnone x hx
    rw [Bool.not_true, if_neg Bool.false_ne_true]
    cases hdyn : g.dynRealms.isEmpty with
    | false =>
      have hsome := KeySet.isEmpty_eq_false_iff.1 hdyn
      exact iff_of_true trivial ⟨.inr (.inl hsome), fun h => absurd h hno⟩
    | true =>
      have hdynNone := KeySet.isEmpty_iff.1 hdyn
      cases hgroups : g.groups.isEmpty with
      | false =>
        have hsome := KeySet.isEmpty_eq_false_iff.1 hgroups
        exact iff_of_true trivial ⟨.inr (.inr hsome), fun h => absurd h hno⟩
      | true =>
        have hgroupsNone := KeySet.isEmpty_iff.1 hgroups
        -- nothing is granted at all
        refine iff_of_false (fun h => h) ?_
        intro hgiven
        rcases hgiven with ⟨⟨x, hx⟩ | ⟨x, hx⟩ | ⟨x, hx⟩, -⟩
        · exact hnone x hx
        · exact hdynNone x hx
        · exact hgroupsNone x hx

theorem dynRealms_settle (g : Grants) : g.settle.dynRealms = g.dynRealms := by
  unfold settle
  split <;> rfl

theorem groups_settle (g : Grants) : g.settle.groups = g.groups := by
  unfold settle
  split <;> rfl

/-- Realms are left only where there is no dynamic realm. -/
theorem mem_realms_settle (g : Grants) (key : String) :
    key ∈ g.settle.realms ↔ (¬ ∃ x, x ∈ g.dynRealms) ∧ key ∈ g.realms := by
  unfold settle
  cases hdyn : g.dynRealms.isEmpty with
  | false =>
    have hsome := KeySet.isEmpty_eq_false_iff.1 hdyn
    simp [hsome, KeySet.not_mem_empty]
  | true =>
    have hnone := KeySet.isEmpty_iff.1 hdyn
    simp [hnone]

end Grants

namespace ScopeFilter

variable {d : Directory} {realms : List Realm} {kind : Kind} {base : Realm}
  {scopes : List String} {f : ScopeFilter}

/-- Without scopes everybody passes. -/
theorem passes_of_scopes_nil {recursive : Bool}
    (h : make d base recursive [] = .ok f)
    (key : String) : f.Passes db kind key := by
  cases h
  constructor
  · trivial
  · intro hgiven
    rcases hgiven with ⟨x, hx⟩
    exact absurd hx (KeySet.not_mem_empty x)
  · intro hgiven
    rcases hgiven with ⟨x, hx⟩
    exact absurd hx (KeySet.not_mem_empty x)

/-- What is granted at and below the base lets pass who is visible there. -/
theorem passes_atOrBelow_iff {g : Grants} (hd : d.Knows realms)
    (h : Grants.atOrBelow d base scopes = .ok g) (key : String) :
    Passes db ⟨g, g.visibility⟩ kind key ↔
      VisibleBelow db kind
        (fun x => ∃ scope ∈ scopes, Realm.GrantsRealm realms base scope x)
        (fun x => ∃ scope ∈ scopes, Realm.GrantsDynRealm d scope x)
        (fun x => ∃ scope ∈ scopes, Realm.SpeaksFor scope x) key := by
  obtain ⟨g, hg, rfl⟩ := Outcome.map_eq_ok.1 h
  obtain ⟨hrealm, hdyn, hgroup⟩ := Grants.adds_nothing hd hg
  have hshown := Grants.shows_visibility db g.settle kind key
  simp only [Grants.mem_realms_settle, Grants.dynRealms_settle,
    Grants.groups_settle, hrealm, hdyn, hgroup] at hshown
  constructor
  · intro hgiven
    rcases hgiven with ⟨shown, dynRealm, group⟩
    obtain ⟨granted, realm⟩ := hshown.1 shown
    simp only [Grants.dynRealms_settle, Grants.groups_settle, hdyn,
      hgroup] at dynRealm group
    refine ⟨granted.imp_left fun ⟨x, hx⟩ => ⟨x, hx.2⟩, dynRealm,
      fun hnone ⟨x, hx⟩ => ?_, group⟩
    obtain ⟨y, hy, hin⟩ := realm ⟨x, hnone, hx⟩
    exact ⟨y, hy.2, hin⟩
  · intro hgiven
    rcases hgiven with ⟨granted, dynRealm, realm, group⟩
    refine ⟨hshown.2 ⟨?_, ?_⟩, ?_, ?_⟩
    · -- realms beside a dynamic realm are dropped, but then something else
      -- is granted
      by_cases hsome : ∃ x, ∃ scope ∈ scopes, Realm.GrantsDynRealm d scope x
      · exact .inr (.inl hsome)
      · exact granted.imp_left fun ⟨x, hx⟩ => ⟨x, hsome, hx⟩
    · intro hgiven
      rcases hgiven with ⟨x, hnone, hx⟩
      obtain ⟨y, hy, hin⟩ := realm hnone ⟨x, hx⟩
      exact ⟨y, ⟨hnone, hy⟩, hin⟩
    · simp only [Grants.dynRealms_settle, hdyn]
      exact dynRealm
    · simp only [Grants.groups_settle, hgroup]
      exact group

/-- What is granted in the base alone lets pass who is visible in it. -/
theorem passes_inBase_iff (key : String) :
    Passes db ⟨Grants.inBase base scopes,
      (Grants.inBase base scopes).visibility⟩ kind key
      ↔ VisibleIn db kind base scopes key := by
  have hshown :=
    Grants.shows_visibility db (Grants.inBase base scopes) kind key
  unfold Grants.inBase at hshown ⊢
  cases hany : scopes.any fun scope => Realm.isUnder base.fullPath scope with
  | true =>
    have hgranted := List.any_eq_true.1 hany
    have hone : ∀ x, x ∈ KeySet.empty.insert base.key
        ↔ x = base.key := fun x => by
      rw [KeySet.mem_insert]
      exact or_iff_left (KeySet.not_mem_empty x)
    simp only [hany, if_true, hone, exists_eq, true_or, true_and,
      exists_eq_left, forall_const] at hshown
    simp only [if_true]
    constructor
    · exact fun h => ⟨hgranted, hshown.1 h.shown⟩
    · intro hgiven
      rcases hgiven with ⟨-, hin⟩
      refine ⟨hshown.2 hin, ?_, ?_⟩
      · -- in the base alone there are no dynamic realms and no groups to ask
        -- for
        intro hgiven
        rcases hgiven with ⟨x, hx⟩
        exact absurd hx (KeySet.not_mem_empty x)
      · intro hgiven
        rcases hgiven with ⟨x, hx⟩
        exact absurd hx (KeySet.not_mem_empty x)
  | false =>
    simp only [Bool.false_eq_true, if_false]
    refine iff_of_false (fun h => h.shown) fun h => ?_
    rw [List.any_eq_true.2 h.granted] at hany
    cases hany

/-- Where there are scopes, they alone decide who is shown. -/
theorem visibility_of_make {recursive : Bool} (hscopes : scopes ≠ [])
    (h : make d base recursive scopes = .ok f) :
    f.visibility = f.grants.visibility := by
  unfold make at h
  rw [if_neg (by simpa using hscopes)] at h
  cases recursive with
  | true =>
    obtain ⟨g, -, rfl⟩ := Outcome.map_eq_ok.1 h
    rfl
  | false =>
    cases h
    rfl

/-- A restriction lets pass who is visible under the scopes that it is made
of. -/
theorem passes_iff_visible {recursive : Bool} (hd : d.Knows realms)
    (hscopes : scopes ≠ [])
    (h : make d base recursive scopes = .ok f) (key : String) :
    f.Passes db kind key
      ↔ Visible db d realms kind base recursive scopes key := by
  unfold make at h
  rw [if_neg (by simpa using hscopes)] at h
  cases recursive with
  | true =>
    obtain ⟨g, hg, rfl⟩ := Outcome.map_eq_ok.1 h
    exact passes_atOrBelow_iff db hd hg key
  | false =>
    cases h
    exact passes_inBase_iff db key

end ScopeFilter

end IdentitySearch
