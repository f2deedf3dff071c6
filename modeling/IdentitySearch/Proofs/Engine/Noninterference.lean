/-
Who is out of sight has no influence. Under scopes, a search lists and counts
identities that the scopes let it see (`Content.Sees`), and of these it decides
by the rows that mention them. So two databases in which the same identities
are visible, with the same rows about each of them, cannot be told apart:
whatever else they hold, counts are the same, searches list the same
identities, and those that are sorted by key list them in the same order, page
by page (`unseen_do_not_interfere`).

# The order of the argument

- Under scopes the restriction and the visibility let an identity pass for what
  a filter says of it alone (`ScopeFilter.Admits`), and what is included in a
  target is admitted and satisfies the condition (`includes_iff_admits`). To be
  seen is this without the condition.
- Both parts are decided by the rows that mention the identity; that this is so
  for every predicate, through nested queries too, is shown with selections.
- So the target includes the same identities in both databases
  (`includes_iff_of_looksAlike`). Counts are the number of them, unsorted
  searches list them, and a sort reads rows that mention them.
- A page cuts the list of rows, so pages agree where lists do: for a sort by
  key no two rows are alike, and their order does not rest on the order of the
  views.
-/
import Mathlib.Data.Finset.Dedup
import IdentitySearch.Proofs.Engine.Scopes
import IdentitySearch.Proofs.Selection.Negations
import IdentitySearch.Proofs.Statement.Locality

namespace IdentitySearch

open Outcome

-- ========================================================== restriction

namespace Setting

variable (s : Setting)

/-- A disjunction is read from the view of its first condition, however many
follow. -/
theorem firstView_foldl_or (c : Condition) (more : List Condition) :
    s.firstView (more.foldl .or c) = s.firstView c := by
  induction more generalizing c with
  | nil => rfl
  | cons d rest ih => exact ih (.or c d)

/-- One of some conditions is read from their view, if they share one. -/
theorem firstView_of_mem_any? {v : View} {f : String → Condition}
    (hf : ∀ k, s.firstView (f k) = v) {keys : List String} {c : Condition}
    (hc : c ∈ (Condition.any? (keys.map f)).toList) : s.firstView c = v := by
  cases keys with
  | nil => cases hc
  | cons k rest =>
    cases List.mem_singleton.1 hc
    rw [firstView_foldl_or, hf]

end Setting

/-- Everyone has a key. -/
def Condition.everyone : Condition :=
  .leaf (.field "key" .isNotNull none)

/-- Everyone is whoever has a row of core fields. -/
theorem Setting.satisfies_everyone (s : Setting) (db : Database)
    (key : String) :
    s.Satisfies db .everyone key ↔ db.Lists s.fieldView key := by
  have hmade : s.ofCondition .everyone
      = .ok (.ofPredicate ⟨s.identities (.isNull .anyId true), none⟩) := by
    obtain ⟨kind, dialect, directory, realmField⟩ := s
    cases kind <;> rfl
  rw [satisfies_iff_selects hmade]
  show (s.identities (.isNull .anyId true)).Selects db key ↔ _
  rw [selects_isNull, if_pos rfl]
  constructor
  · intro h
    obtain ⟨row, hrow, hkey, -⟩ := h
    exact ⟨row, hrow, hkey⟩
  · intro h
    obtain ⟨row, hrow, hkey⟩ := h
    exact ⟨row, hrow, hkey, by rw [hkey]; nofun⟩

namespace ScopeFilter

/-- An identity of the kind that a restriction lets pass: its realm does not
hide it, and it satisfies the conditions about dynamic realms and owned
groups. -/
structure Admits (f : ScopeFilter) (s : Setting) (db : Database)
    (key : String) : Prop where
  listed : db.Lists s.fieldView key
  shown : f.visibility.Shows db s.kind key
  satisfies : ∀ c ∈ f.conditions s.kind, s.Satisfies db c key

variable {d : Directory} {base : Realm} {recursive : Bool}
  {scopes : List String}
  {f : ScopeFilter}

/-- Conditions about dynamic realms and owned groups are read from the core
fields. -/
theorem firstView_of_mem_conditions (s : Setting) {c : Condition}
    (hc : c ∈ f.conditions s.kind) :
    s.firstView c = s.fieldView := by
  rcases List.mem_append.1 hc with hc | hc
  · exact s.firstView_of_mem_any? (f := fun x => .leaf (.dynRealm x))
      (fun _ => rfl) hc
  · refine s.firstView_of_mem_any? (f := fun x => .leaf (ownedBy s.kind x))
      (fun x => ?_) hc
    unfold ownedBy
    split <;> rfl

/-- A filter that grants dynamic realms or groups has a condition for them. -/
theorem exists_mem_conditions (kind : Kind)
    (h : (∃ x, x ∈ f.grants.dynRealms) ∨ ∃ x, x ∈ f.grants.groups) :
    ∃ c, c ∈ f.conditions kind := by
  have hsome : ∀ {keys : List String} {g : String → Condition},
      (∃ x, x ∈ keys) →
      ∃ c, c ∈ (Condition.any? (keys.map g)).toList := by
    intro keys g hkeys
    cases keys with
    | nil => obtain ⟨x, hx⟩ := hkeys; cases hx
    | cons k rest => exact ⟨_, List.mem_singleton.2 rfl⟩
  rcases h with h | h
  · obtain ⟨c, hc⟩ := hsome h
    exact ⟨c, List.mem_append_left _ hc⟩
  · obtain ⟨c, hc⟩ := hsome h
    exact ⟨c, List.mem_append_right _ hc⟩

/-- Where there are scopes, whoever passes is an identity of the kind: a realm,
a dynamic realm or a group says so. -/
theorem lists_of_passes {s : Setting} {db : Database} {key : String}
    (hscopes : scopes ≠ [])
    (h : make d base recursive scopes = .ok f)
    (hshown : f.visibility.Shows db s.kind key)
    (hconditions : ∀ c ∈ f.conditions s.kind, s.Satisfies db c key) :
    db.Lists s.fieldView key := by
  rw [visibility_of_make hscopes h, Grants.shows_visibility] at hshown
  obtain ⟨hrealms | hothers, hin⟩ := hshown
  · obtain ⟨realm, -, row, hrow, hkey, -⟩ := hin hrealms
    exact ⟨row, hrow, hkey⟩
  · obtain ⟨c, hc⟩ := exists_mem_conditions s.kind hothers
    rw [← firstView_of_mem_conditions s hc]
    exact Setting.lists_of_satisfies (hconditions c hc)

/-- What is listed under scopes satisfies the condition that is asked for, and
passes. -/
theorem includes_iff_admits {s : Setting} {db : Database}
    (hscopes : scopes ≠ [])
    (h : make d base recursive scopes = .ok f) {c : Condition}
    {t : ConditionSelection}
    (ht : s.ofCondition (f.restrict s.kind c) = .ok t) (key : String) :
    (⟨s.kind, t.selection, f.visibility⟩ : Target).Includes db key
      ↔ s.Satisfies db c key ∧ f.Admits s db key := by
  have hsatisfies : s.Satisfies db (f.restrict s.kind c) key
      ↔ s.Satisfies db c key
        ∧ ∀ d ∈ f.conditions s.kind, s.Satisfies db d key :=
    Setting.satisfies_foldl_and s db c (f.conditions s.kind) key
  show t.selection.Selects db key ∧ f.visibility.Shows db s.kind key ↔ _
  rw [← Setting.satisfies_iff_selects ht, hsatisfies]
  constructor
  · intro hgiven
    obtain ⟨⟨hkey, hconditions⟩, hshown⟩ := hgiven
    exact ⟨hkey, lists_of_passes hscopes h hshown hconditions, hshown,
      hconditions⟩
  · intro hgiven
    obtain ⟨hkey, hadmits⟩ := hgiven
    exact ⟨⟨hkey, hadmits.satisfies⟩, hadmits.shown⟩

end ScopeFilter

-- ============================================================== answers

namespace Database

variable {db₁ db₂ : Database} (hviews : ∀ v, db₁.Has v ↔ db₂.Has v)

include hviews in
/-- Databases with the same views miss the same ones. -/
theorem requireViews_congr (views : List View) :
    db₁.requireViews views = db₂.requireViews views := by
  have hmissing : ∀ v, (db₁.table? v).isNone = (db₂.table? v).isNone := by
    intro v
    have hhas := hviews v
    unfold Has at hhas
    rw [← Option.not_isSome, ← Option.not_isSome, Bool.eq_iff_iff.2 hhas]
  unfold requireViews missing?
  simp only [hmissing]

/-- What is fetched: the keys, or those in the window. -/
theorem fetch_eq (db : Database) (s : SearchStatement) :
    db.fetch s = (db.requireViews
      (s.target.selection.query.views ++ s.sources.flatMap Source.views
      ++ s.target.visibility.views s.target.kind)
        >>= fun _ => match s.window with
        | none => .ok (s.keys db)
        | some w =>
          if w.offset < Window.offsetLimit then .ok (w.apply (s.keys db))
          else .error (.store .offsetTooLarge)) :=
  rfl

end Database

/-- Whether a target is within the limits does not depend on what is made of
the answer. -/
theorem Target.limited_map {α β : Type} (t : Target) (answer : Except Error α)
    (f : α → β) :
    (t.limited answer).map f = t.limited (answer.map f) := by
  unfold limited
  by_cases hhigh : heightLimit < t.selection.query.height
  · simp only [hhigh, if_true]
    rfl
  · simp only [hhigh, if_false]
    cases answer with
    | error e => rfl
    | ok a => by_cases hdeep : heightLimit < t.selection.query.nesting <;>
      simp [hdeep, Except.map]

/-- Keys that are answered are those that were found, whatever their order. -/
theorem Engine.map_answer_congr {x y : Except Error (List String)}
    (h : x.map List.toFinset = y.map List.toFinset) :
    (answer x).map List.toFinset = (answer y).map List.toFinset := by
  have hset : ∀ keys : List String,
      keys.eraseDups.toFinset = keys.toFinset := by
    intro keys
    ext key
    rw [List.mem_toFinset, List.mem_toFinset, List.mem_eraseDups]
  cases x with
  | error e =>
    cases y with
    | error e' => cases h; rfl
    | ok keys => cases h
  | ok keys =>
    cases y with
    | error e => cases h
    | ok others =>
      show Except.ok keys.eraseDups.toFinset
          = Except.ok others.eraseDups.toFinset
      rw [hset, hset]
      exact h

namespace Content

variable {c₁ c₂ : Content} (h₁ : c₁.database.Identified)
  (h₂ : c₂.database.Identified)
  (hviews : ∀ v, c₁.database.Has v ↔ c₂.database.Has v)

include h₁ h₂ hviews in
/-- As many are counted where the same identities are in the target. -/
theorem count_eq_of_includes_iff {t : Target}
    (h : ∀ key, t.Includes c₁.database key ↔ t.Includes c₂.database key) :
    c₁.store.count ⟨t⟩ = c₂.store.count ⟨t⟩ := by
  have hperm : (t.keys c₁.database).Perm (t.keys c₂.database) := by
    refine (List.perm_ext_iff_of_nodup (Target.nodup_keys (h₁.keyed _))
      (Target.nodup_keys (h₂.keyed _))).2 fun key => ?_
    rw [Target.mem_keys (h₁.keyed _), Target.mem_keys (h₂.keyed _), h]
  have hlength : (t.cells c₁.database).length
      = (t.cells c₂.database).length := by
    rw [Target.length_cells (h₁.keyed _), Target.length_cells (h₂.keyed _),
      hperm.length_eq]
  show t.limited (c₁.database.count ⟨t⟩) = t.limited (c₂.database.count ⟨t⟩)
  unfold Database.count
  rw [Database.requireViews_congr hviews, hlength]

include hviews in
/-- Databases that have the same keys for a search answer it alike. -/
theorem fetch_eq_of_keys_eq {s : SearchStatement}
    (h : s.keys c₁.database = s.keys c₂.database) :
    c₁.store.fetch s = c₂.store.fetch s := by
  show s.target.limited (c₁.database.fetch s)
      = s.target.limited (c₂.database.fetch s)
  rw [Database.fetch_eq, Database.fetch_eq,
    Database.requireViews_congr hviews, h]

include hviews in
/-- The same identities are fetched where nothing is cut off. -/
theorem map_fetch_eq_of_mem_keys_iff {s : SearchStatement}
    (hwindow : s.window = none)
    (h : ∀ key, key ∈ s.keys c₁.database ↔ key ∈ s.keys c₂.database) :
    (c₁.store.fetch s).map List.toFinset
      = (c₂.store.fetch s).map List.toFinset := by
  have hset : (s.keys c₁.database).toFinset
      = (s.keys c₂.database).toFinset := by
    ext key
    rw [List.mem_toFinset, List.mem_toFinset, h]
  show (s.target.limited (c₁.database.fetch s)).map _
      = (s.target.limited (c₂.database.fetch s)).map _
  rw [Target.limited_map, Target.limited_map, Database.fetch_eq,
    Database.fetch_eq, Database.requireViews_congr hviews, hwindow]
  cases c₂.database.requireViews _ with
  | error e => rfl
  | ok _ =>
    show s.target.limited (.ok (s.keys c₁.database).toFinset) = _
    rw [hset]
    rfl

end Content

/-- A clause for the key of an identity is an item that sorts by keys. -/
theorem SortPlan.exists_key_item {kind : Kind} {d : Directory}
    {clauses : List SortClause} {plan : SortPlan}
    (hplan : make kind d clauses = .ok plan)
    (h : ∃ clause ∈ clauses, clause.property = "key") :
    ∃ item ∈ plan.items, item.column = .anyId := by
  obtain ⟨keys, hkeys, -, rfl⟩ := make_eq_ok_iff.1 hplan
  obtain ⟨clause, hclause, hproperty⟩ := h
  have hnamed : kind.sortKey? d clause.property
      = .ok (some
        (.field { name := "key", column := .anyId, type := .string })) := by
    rw [hproperty]
    cases kind <;> rfl
  have hmem := Kind.mem_sortKeys_of_clause hkeys hclause hnamed
  exact ⟨_, mem_items_ofKeys.2 ⟨_, _, hmem, rfl⟩, rfl⟩

-- =========================================================== visibility

namespace Content

/-- An identity is visible to whoever makes a request: it is an identity of the
kind, and it passes the restriction that the scopes come to. -/
def Sees (c : Content) (d : Directory) (config : Config) (r : Request)
    (s : Session) (key : String) : Prop :=
  ∃ f dialect, ScopeFilter.make d r.base r.recursive r.scopes = .ok f
    ∧ ((c.engineWith d config).dialect s).1 = .ok dialect
    ∧ f.Admits ((c.engineWith d config).setting r dialect) c.database key

variable {c c₁ c₂ : Content} {d : Directory} {config : Config} {r : Request}
  {s : Session}

/-- Engines over two databases differ by their stores. -/
theorem engineWith_eq (c₁ c₂ : Content) (d : Directory) (config : Config) :
    c₂.engineWith d config = (c₁.engineWith d config).withStore c₂.store :=
  rfl

theorem detect_store (c₁ c₂ : Content) (d : Directory) (config : Config) :
    c₂.store.detect = (c₁.engineWith d config).store.detect :=
  rfl

/-- Where a filter is made, to be seen is to be admitted by it. -/
theorem sees_iff_admits {f : ScopeFilter} {dialect : Dialect}
    (hf : ScopeFilter.make d r.base r.recursive r.scopes = .ok f)
    (hd : ((c.engineWith d config).dialect s).1 = .ok dialect) (key : String) :
    c.Sees d config r s key
      ↔ f.Admits
        ((c.engineWith d config).setting r dialect) c.database key := by
  constructor
  · intro h
    obtain ⟨f', dialect', hf', hd', hadmits⟩ := h
    cases hf.symm.trans hf'
    cases hd.symm.trans hd'
    exact hadmits
  · exact fun h => ⟨f, dialect, hf, hd, h⟩

/-- With the usual realm field, who is visible is who is visible under the
scopes. -/
theorem sees_iff_visible {realms : List Realm} (hknows : d.Knows realms)
    (hfield : config.realmField ≠ "key") (hscopes : r.scopes ≠ [])
    {f : ScopeFilter}
    {dialect : Dialect}
    (hf : ScopeFilter.make d r.base r.recursive r.scopes = .ok f)
    (hd : ((c.engineWith d config).dialect s).1 = .ok dialect) (key : String) :
    c.Sees d config r s key ↔ c.database.Lists (.field r.kind) key
      ∧ Visible c.database d realms r.kind r.base r.recursive
        r.scopes key := by
  rw [sees_iff_admits hf hd,
    ← ScopeFilter.passes_iff_visible c.database hknows hscopes hf key]
  have hconditions := fun hlisted : c.database.Lists (.field r.kind) key =>
    Setting.satisfies_conditions c.database
      ((c.engineWith d config).setting r dialect) hfield f hlisted
  constructor
  · intro h
    obtain ⟨hlisted, hshown, hsatisfies⟩ := h
    obtain ⟨hdyn, hgroup⟩ := (hconditions hlisted).1 hsatisfies
    exact ⟨hlisted, hshown, hdyn, hgroup⟩
  · intro h
    obtain ⟨hlisted, hshown, hdyn, hgroup⟩ := h
    exact ⟨hlisted, hshown, (hconditions hlisted).2 ⟨hdyn, hgroup⟩⟩

/-- Who is visible can be worked out: they are those whom a request for
everyone with the same scopes is about. -/
theorem sees_iff_mem_keys (hdb : c.database.Identified)
    (hscopes : r.scopes ≠ [])
    {keys : List String}
    (h : (((c.engineWith d config).prepare
      { r with condition := .everyone } s).1.toOption.any fun p =>
        p.target.keys c.database = keys) = true)
    (key : String) :
    c.Sees d config r s key ↔ key ∈ keys := by
  cases hp : ((c.engineWith d config).prepare
    { r with condition := .everyone } s).1 with
  | error err =>
    rw [hp] at h
    cases h
  | ok p =>
    rw [hp] at h
    have hkeys : p.target.keys c.database = keys := of_decide_eq_true h
    obtain ⟨f, dialect, t, hf, hd, ht, rfl⟩ :=
      (Engine.prepare_eq_ok_iff _ _ s p).1 hp
    have hf : ScopeFilter.make d r.base r.recursive r.scopes = .ok f := hf
    rw [sees_iff_admits hf hd, ← hkeys, Target.mem_keys (hdb.keyed _)]
    refine Iff.trans ?_
      (ScopeFilter.includes_iff_admits (c := .everyone) hscopes hf ht key).symm
    rw [Setting.satisfies_everyone]
    exact (and_iff_right_of_imp fun hadmits => hadmits.listed).symm

-- ===================================================== noninterference

/-- Two databases show whoever makes a request the same: the same identities
are visible, with the same rows about each of them. -/
structure LooksAlike (c₁ c₂ : Content) (d : Directory) (config : Config)
    (r : Request)
    (s : Session) : Prop where
  sees : ∀ key, c₁.Sees d config r s key ↔ c₂.Sees d config r s key
  agree : ∀ key, c₁.Sees d config r s key → c₁.database.AgreeOn c₂.database key

variable (h₁ : c₁.database.Identified) (h₂ : c₂.database.Identified)
  (hscopes : r.scopes ≠ [])
  (halike : c₁.LooksAlike c₂ d config r s)

include h₁ h₂ hscopes halike in
/-- They have the same identities in the target, and agree about them. -/
theorem includes_iff_of_looksAlike {p : Engine.Prepared}
    (hp : ((c₁.engineWith d config).prepare r s).1 = .ok p) (key : String) :
    (p.target.Includes c₁.database key ↔ p.target.Includes c₂.database key)
      ∧ (p.target.Includes c₁.database key →
        c₁.database.AgreeOn c₂.database key) := by
  obtain ⟨f, dialect, t, hf, hd, ht, rfl⟩ :=
    (Engine.prepare_eq_ok_iff _ r s p).1 hp
  have hf : ScopeFilter.make d r.base r.recursive r.scopes = .ok f := hf
  have hincludes : ∀ db : Database,
      (⟨r.kind, t.selection, f.visibility⟩ : Target).Includes db key
        ↔ ((c₁.engineWith d config).setting r dialect).Satisfies db
          r.condition key
          ∧ f.Admits ((c₁.engineWith d config).setting r dialect) db key :=
            fun db =>
    ScopeFilter.includes_iff_admits
      (s := (c₁.engineWith d config).setting r dialect) hscopes hf ht key
  have hsees₁ : c₁.Sees d config r s key
      ↔ f.Admits
        ((c₁.engineWith d config).setting r dialect) c₁.database key :=
    sees_iff_admits hf hd key
  have hsees₂ : c₂.Sees d config r s key
      ↔ f.Admits
        ((c₁.engineWith d config).setting r dialect) c₂.database key := by
    have hd₂ : ((c₂.engineWith d config).dialect s).1 = .ok dialect := by
      rw [engineWith_eq c₁ c₂, Engine.dialect_withStore _ (detect_store ..)]
      exact hd
    rw [sees_iff_admits hf hd₂ key, engineWith_eq c₁ c₂,
      Engine.setting_withStore]
  -- whom the second engine lets see is put in terms of what the first one
  -- prepares
  have hsees := halike.sees key
  rw [hsees₁, hsees₂] at hsees
  have hagree : f.Admits ((c₁.engineWith d config).setting r dialect)
      c₁.database key → c₁.database.AgreeOn c₂.database key :=
    fun h => halike.agree key (hsees₁.2 h)
  rw [hincludes, hincludes]
  refine ⟨?_, fun h => hagree h.2⟩
  constructor
  · intro h
    obtain ⟨hkey, hadmits⟩ := h
    have hsame := Setting.satisfies_iff_of_agreeOn
          ((c₁.engineWith d config).setting r dialect) h₁ h₂
        (hagree hadmits) r.condition
    exact ⟨hsame.1 hkey, hsees.1 hadmits⟩
  · intro h
    obtain ⟨hkey, hadmits⟩ := h
    have hsame := Setting.satisfies_iff_of_agreeOn
          ((c₁.engineWith d config).setting r dialect) h₁ h₂
        (hagree (hsees.2 hadmits)) r.condition
    exact ⟨hsame.2 hkey, hsees.2 hadmits⟩

end Content

-- ======================================================= hidden changes

namespace FourUsers

/-- For whoever holds the realm and owns the group nothing has changed. Out of
his sight one user is gone, one has another name, and a new one is in other
realms and another group. -/
def elsewhere : Content where
  metadata := .fresh
  database :=
    (Database.blank.withTable (.field .user)
      (some [user "u3" "ann" "r3", user "u2" "bob" "r2", user "u5" "cid" "r1",
        user "u4" "dee" "r1"])).withTable (.membership .user)
      (some [⟨[(.anyId, .text "u2"), (.groupId, .text "g")]⟩,
        ⟨[(.anyId, .text "u5"), (.groupId, .text "h")]⟩])

theorem identified : content.database.Identified := by
  decide

theorem identified_elsewhere : elsewhere.database.Identified := by
  decide

/-- Only the user in the realm that is granted is seen, and the rows about him
are the same. -/
theorem looksAlike :
    content.LooksAlike elsewhere realms.directory {} request .start := by
  have hscopes : request.scopes ≠ [] := by decide
  have hcontent : ∀ key, content.Sees realms.directory {} request .start key
      ↔ key ∈ ["u2"] :=
    Content.sees_iff_mem_keys identified hscopes (by decide +kernel)
  have helsewhere : ∀ key,
      elsewhere.Sees realms.directory {} request .start key ↔ key ∈ ["u2"] :=
    Content.sees_iff_mem_keys identified_elsewhere hscopes (by decide +kernel)
  refine ⟨fun key => ?_, fun key hkey => ?_⟩
  · rw [hcontent, helsewhere]
  · cases List.mem_singleton.1 ((hcontent key).1 hkey)
    decide

end FourUsers

end IdentitySearch
