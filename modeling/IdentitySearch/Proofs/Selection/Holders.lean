/-
Who has what is assigned. An assignment is recorded in one view or in several:
directly, or through a group or a role, or on either side of a relationship
(`Kind.assignment?`). Somebody has it if one of these views says so
(`Database.Assigns`).

Asked for, an assignment selects who has it; negated, it selects the other
identities of the kind, and those are the ones that no view names at all
(`selects_assignment`). That NOT IN is over whole views does no harm where no
key is NULL.

# Views, queries, selections

- A listing is a view with the column of those who have something and the
  column of what they have. Which listings an assignment has is a table by kind
  and predicate, and every listing in it fits: its holders are keys, and what
  they hold is text (`Kind.fit_of_assignment`).
- A query for a listing finds whoever is recorded in it (`mem_query_iff`).
- Queries are asked together in three ways, as the compiler has it: one by
  itself, two in a union, or several side by side in a parenthesis. In each of
  them the union of what they find is selected or, negated, the rest
  (`selects_among_listing`, `selects_among_union`,
  `selects_amongAny_listings`).

The cases of the main result only say which of the three it is.
-/
import IdentitySearch.Proofs.Selection.Assignments
import IdentitySearch.Proofs.Sql.Keys

namespace IdentitySearch

open Outcome

-- ========================================================== assignments

/-- Where assignments are recorded: a view, its column of those who have
something, and its column of what they have. -/
structure Listing where
  view : View
  holder : Column
  held : Column

/-- The query for those beside whom a listing has one of some keys. -/
def Listing.query (distinct : Bool) (key : String) (more : List String)
    (l : Listing) : Query :=
  .select distinct l.holder l.view (Setting.keyIsAny l.held key more)

/-- A listing whose holders are identities, and whose other column is text. -/
def Listing.Fit (l : Listing) : Prop :=
  l.holder ∈ l.view.keyColumns ∧ l.held.affinity = .text

/-- What a predicate about assignments asks for: one of some keys, in one of
some places. -/
structure Assignment where
  listings : List Listing
  keys : List String

/-- The assignment that a predicate of a kind asks for. -/
def Kind.assignment? (kind : Kind) : Predicate → Option Assignment
  | .auxClass key => some ⟨[⟨.auxClass kind, .anyId, .anyTypeClassId⟩], [key]⟩
  | .relationshipType key =>
    kind.member?.map fun m => ⟨[⟨.relationship m, .anyId, .relationshipType⟩,
      ⟨.relationship m, .rightAnyId, .relationshipType⟩], [key]⟩
  | .relationship targets =>
    kind.member?.map fun m => ⟨[⟨.relationship m, .anyId, .rightAnyId⟩],
      targets⟩
  | .membership groups =>
    kind.member?.map fun m => ⟨[⟨.membership m, .anyId, .groupId⟩,
      ⟨.dynGroupMembership m, .anyId, .groupId⟩], groups⟩
  | .member members =>
    if kind = .group then
      some ⟨[⟨.membership .user, .groupId, .anyId⟩, ⟨.dynGroupMembership .user,
        .groupId, .anyId⟩, ⟨.membership .anyObject, .groupId, .anyId⟩,
          ⟨.dynGroupMembership .anyObject, .groupId, .anyId⟩], members⟩
    else none
  | .role key =>
    if kind = .user then
      some ⟨[⟨.role, .anyId, .roleId⟩, ⟨.dynRoleMembership, .anyId, .roleId⟩],
        [key]⟩
    else none
  | .privilege key =>
    if kind = .user then
      some ⟨[⟨.privilege, .anyId, .privilegeId⟩,
        ⟨.dynPrivilegeMembership, .anyId, .privilegeId⟩], [key]⟩
    else none
  | .resource key =>
    some ⟨⟨.resource kind, .anyId, .resourceId⟩
      :: kind.member?.toList.map fun m => ⟨.groupResource m, .anyId,
        .resourceId⟩, [key]⟩
  | .dynRealm key => some ⟨[⟨.dynRealmMembership, .anyId, .dynRealmId⟩], [key]⟩
  | .attribute _ _ _ | .field _ _ _ | .anyType _ => none

/-- All listings of an assignment fit. -/
theorem Kind.fit_of_assignment {kind : Kind} {p : Predicate} {a : Assignment}
    (ha : kind.assignment? p = some a) : ∀ l ∈ a.listings, l.Fit := by
  cases p with
  | «attribute» _ _ _ | field _ _ _ | anyType _ => cases ha
  | auxClass _ | dynRealm _ =>
    cases ha
    simp [Listing.Fit, View.keyColumns, Column.affinity]
  | relationshipType _ | relationship _ | membership _ =>
    obtain ⟨m, -, rfl⟩ := Option.map_eq_some_iff.1 ha
    simp [Listing.Fit, View.keyColumns, Column.affinity]
  | member _ | role _ | privilege _ =>
    obtain ⟨-, ha⟩ := Option.ite_none_right_eq_some.1 ha
    cases ha
    simp [Listing.Fit, View.keyColumns, Column.affinity]
  | resource _ =>
    cases ha
    cases kind.member? <;> simp [Listing.Fit, View.keyColumns, Column.affinity]

namespace Database

/-- A view records that somebody has something. -/
def Records (db : Database) (l : Listing) (holder held : String) : Prop :=
  ∃ row ∈ db.rows l.view, row.get l.holder = .text holder
    ∧ row.get l.held = .text held

/-- Somebody has what is asked for, by one of the views that record it. -/
def Assigns (db : Database) (a : Assignment) (holder : String) : Prop :=
  ∃ l ∈ a.listings, ∃ held ∈ a.keys, db.Records l holder held

instance (db : Database) (l : Listing) (holder held : String) :
    Decidable (db.Records l holder held) :=
  inferInstanceAs (Decidable (∃ row ∈ db.rows l.view,
    row.get l.holder = .text holder ∧ row.get l.held = .text held))

instance (db : Database) (a : Assignment)
    (holder : String) : Decidable (db.Assigns a holder) :=
  inferInstanceAs
    (Decidable (∃ l ∈ a.listings, ∃ held ∈ a.keys, db.Records l holder held))

end Database

-- ============================================================== queries

section Queries

variable (db : Database)

/-- A query for one of some keys finds those beside whom one of them is
recorded. -/
theorem Setting.text_mem_select {held : Column} (h : held.affinity = .text)
    (distinct : Bool) (holder : Column) (v : View) (key : String)
    (more : List String) (found : String) :
    .text found
      ∈ (Query.select distinct holder v (keyIsAny held key more)).cells db
      ↔ ∃ k ∈ key :: more, db.Records ⟨v, holder, held⟩ found k :=
  text_mem_select_keyIsAny db h distinct holder v key more found

/-- A run of ANDs holds if all of its atoms do, -/
theorem Formula.holds_foldl_and {f : Formula} (hf : f.isRun = true)
    (more : List Atom) (row : Row) :
    (more.foldl (fun f a => .join f .and a) f).Holds db row
      ↔ f.Holds db row ∧ ∀ a ∈ more, a.Holds db row := by
  induction more generalizing f with
  | nil => simp
  | cons a rest ih =>
    have hand : (f.join .and a).isRun = true := hf
    rw [List.foldl_cons, ih hand, holds_and db hf, List.forall_mem_cons,
      and_assoc]

/-- wherever it begins. -/
theorem Formula.holds_joinAll_and (first : Atom) (more : List Atom)
    (row : Row) :
    (Formula.joinAll .and first more).Holds db row
      ↔ ∀ a ∈ first :: more, a.Holds db row := by
  rw [Formula.joinAll, holds_foldl_and db rfl, holds_atom,
    List.forall_mem_cons]

end Queries

-- =========================================================== polarities

namespace Setting

variable {db : Database} (hdb : db.Identified) (s : Setting)

include hdb in
/-- Of the identities, those that a query finds, or those that it does not. -/
theorem selects_among {q : Query} (hq : q.FindsKeys) (negate : Bool)
    (key : String) :
    (s.among negate q).Selects db key
      ↔ db.Lists s.fieldView key
        ∧ (.text key ∈ q.cells db ↔ negate = false) := by
  rw [among, selects_identities]
  constructor
  · intro h
    rcases h with ⟨row, hrow, hatom, hkey⟩
    exact ⟨⟨row, hrow, hkey⟩,
      (Atom.holds_keyIn_iff hdb hkey hq negate).1 hatom⟩
  · intro h
    rcases h with ⟨⟨row, hrow, hkey⟩, hfound⟩
    exact ⟨row, hrow, (Atom.holds_keyIn_iff hdb hkey hq negate).2 hfound, hkey⟩

include hdb in
/-- Of the identities, those that none of several queries finds. -/
theorem selects_amongAny_true {q : Query} {more : List Query}
    (hq : ∀ p ∈ q :: more, p.FindsKeys) (key : String) :
    (s.amongAny true q more).Selects db key
      ↔ db.Lists s.fieldView key
        ∧ ∀ p ∈ q :: more, .text key ∉ p.cells db := by
  have hnone : ∀ row : Row, row.get .anyId = .text key →
      ((Atom.paren
        (.joinAll .and (.keyIn true q) (more.map (.keyIn true)))).Holds db row
        ↔ ∀ p ∈ q :: more, .text key ∉ p.cells db) := by
    intro row hkey
    rw [Atom.holds_paren, Formula.holds_joinAll_and, ← List.map_cons,
      List.forall_mem_map]
    refine forall₂_congr fun p hp => ?_
    rw [Atom.holds_keyIn_iff hdb hkey (hq p hp)]
    simp
  show (s.identities (.paren (.joinAll .and _ _))).Selects db key ↔ _
  rw [selects_identities]
  constructor
  · intro h
    rcases h with ⟨row, hrow, hatom, hkey⟩
    exact ⟨⟨row, hrow, hkey⟩, (hnone row hkey).1 hatom⟩
  · intro h
    rcases h with ⟨⟨row, hrow, hkey⟩, hnot⟩
    exact ⟨row, hrow, (hnone row hkey).2 hnot, hkey⟩

include hdb in
/-- Among several queries whoever one of them finds is selected or, negated,
whoever none of them finds. -/
theorem selects_amongAny_iff {q : Query} {more : List Query}
    (hq : ∀ p ∈ q :: more, p.FindsKeys) (negate : Bool) (key : String) :
    (s.amongAny negate q more).Selects db key
      ↔ db.Lists s.fieldView key
        ∧ ((∃ p ∈ q :: more, .text key ∈ p.cells db) ↔ negate = false) := by
  cases negate with
  | false =>
    rw [selects_amongAny]
    simp
  | true =>
    rw [selects_amongAny_true hdb s hq]
    simp

-- ============================================================== holders

/-- Looking for one key finds whoever is recorded with it, -/
theorem text_mem_select_keyIs {held : Column} (h : held.affinity = .text)
    (distinct : Bool) (holder : Column) (v : View) (key found : String) :
    .text found
      ∈ (Query.select distinct holder v (.atom (keyIs held key))).cells db
      ↔ db.Records ⟨v, holder, held⟩ found key := by
  show .text found
      ∈ (Query.select distinct holder v (keyIsAny held key [])).cells db ↔ _
  rw [text_mem_select db h]
  simp

/-- and looking for several whoever is with one of them. -/
theorem mem_query_iff {l : Listing} (hl : l.Fit) (distinct : Bool)
    (key : String) (more : List String) (holder : String) :
    .text holder ∈ (l.query distinct key more).cells db
      ↔ ∃ k ∈ key :: more, db.Records l holder k :=
  text_mem_select db hl.2 distinct l.holder l.view key more holder

include hdb in
/-- An assignment that one view records, asked through IN or NOT IN. -/
theorem selects_among_listing {l : Listing} (hfit : ∀ n ∈ [l], n.Fit)
    (distinct negate : Bool) (key : String)
    (more : List String) (holder : String) :
    (s.among negate (l.query distinct key more)).Selects db holder
      ↔ db.Lists s.fieldView holder
        ∧ (db.Assigns ⟨[l], key :: more⟩ holder ↔ negate = false) := by
  have hl := hfit l List.mem_cons_self
  have hfinds : (l.query distinct key more).FindsKeys := hl.1
  rw [selects_among hdb s hfinds, mem_query_iff hl]
  simp [Database.Assigns]

include hdb in
/-- An assignment that one of two views records, both asked at once. -/
theorem selects_among_union {l m : Listing} (hfit : ∀ n ∈ [l, m], n.Fit)
    (distinct negate : Bool) (key : String) (more : List String)
    (holder : String) :
    (s.among negate (.union (l.query distinct key more)
      (m.query distinct key more))).Selects db
        holder
      ↔ db.Lists s.fieldView holder
        ∧ (db.Assigns ⟨[l, m], key :: more⟩ holder ↔ negate = false) := by
  have hl := hfit l List.mem_cons_self
  have hm := hfit m (List.mem_cons_of_mem _ List.mem_cons_self)
  have hfinds : (Query.union (l.query distinct key more)
      (m.query distinct key more)).FindsKeys :=
    ⟨hl.1, hm.1⟩
  rw [selects_among hdb s hfinds, Query.text_mem_cells_union, mem_query_iff hl,
    mem_query_iff hm]
  simp [Database.Assigns]

include hdb in
/-- An assignment that one of several views records, each asked by itself. -/
theorem selects_amongAny_listings {l : Listing} {rest : List Listing}
    (hfit : ∀ n ∈ l :: rest, n.Fit) (distinct negate : Bool) (key : String)
    (more : List String) (holder : String) :
    (s.amongAny negate (l.query distinct key more)
        (rest.map (Listing.query distinct key more))).Selects db holder
      ↔ db.Lists s.fieldView holder
        ∧ (db.Assigns ⟨l :: rest, key :: more⟩ holder ↔ negate = false) := by
  have hfinds : ∀ q ∈ (l :: rest).map (Listing.query distinct key more),
      q.FindsKeys := by
    intro q hq
    obtain ⟨m, hm, rfl⟩ := List.mem_map.1 hq
    exact (hfit m hm).1
  have hassigns : (∃ q ∈ (l :: rest).map (Listing.query distinct key more),
      .text holder ∈ q.cells db)
        ↔ db.Assigns ⟨l :: rest, key :: more⟩ holder := by
    simp only [List.mem_map, Database.Assigns]
    constructor
    · intro h
      obtain ⟨q, ⟨m, hm, rfl⟩, hq⟩ := h
      exact ⟨m, hm, (mem_query_iff (hfit m hm) distinct key more holder).1 hq⟩
    · intro h
      obtain ⟨m, hm, hheld⟩ := h
      exact ⟨_, ⟨m, hm, rfl⟩,
        (mem_query_iff (hfit m hm) distinct key more holder).2 hheld⟩
  rw [List.map_cons] at hfinds hassigns
  rw [selects_amongAny_iff hdb s hfinds, hassigns]

/-- The view of a role is the one that the kind has. -/
theorem view_eq_ok_iff {p : Predicate} {r : ViewRole} {v : View} :
    s.view p r = .ok v ↔ s.kind.view? r = some v := by
  unfold view
  cases s.kind.view? r <;> simp

/-- A list of keys is accepted if it has a first one, -/
theorem nonEmpty_eq_ok_iff {p : Predicate} {keys : List String}
    {found : String × List String} :
    nonEmpty p keys = .ok found ↔ keys = found.1 :: found.2 := by
  cases keys with
  | nil => simp [nonEmpty]
  | cons key more => simp [nonEmpty, Prod.ext_iff, eq_comm]

/-- and an assignment is asked of two views if the kind has both. -/
theorem assigned_eq_ok_iff {p : Predicate} {direct dynamic : ViewRole}
    {held : Column} {negate : Bool} {key : String} {more : List String}
    {t : Selection} :
    s.assigned p direct dynamic held negate key more = .ok t ↔
      ∃ v w, s.kind.view? direct = some v ∧ s.kind.view? dynamic = some w
        ∧ t = s.amongAny negate (listedWith v held key more)
          [listedWith w held key more] := by
  unfold assigned
  rw [bind_eq_ok]
  simp only [bind_eq_ok, view_eq_ok_iff, exists_and_left]
  refine exists_congr fun v => and_congr_right fun _ => exists_congr fun w =>
    and_congr_right fun _ => ?_
  exact ⟨fun h => by cases h; rfl, fun h => by rw [h]; rfl⟩

include hdb in
/-- Who is selected for an assignment: of the identities of the kind those who
have it or, negated, those who do not. -/
theorem selects_assignment {p : Predicate} {a : Assignment}
    (ha : s.kind.assignment? p = some a) {negate : Bool} {t : Selection}
    (ht : s.ofPlain p negate = .ok t) (key : String) :
    t.Selects db key
      ↔ db.Lists s.fieldView key ∧ (db.Assigns a key ↔ negate = false) := by
  have hfit := s.kind.fit_of_assignment ha
  cases p with
  | «attribute» _ _ _ | field _ _ _ | anyType _ => cases ha
  | auxClass cls =>
    cases ha
    cases ht
    exact selects_among_listing hdb s hfit true negate cls [] key
  | relationshipType type =>
    obtain ⟨m, hm, rfl⟩ := Option.map_eq_some_iff.1 ha
    obtain ⟨v, hv, ht⟩ := bind_eq_ok.1 ht
    rw [view_eq_ok_iff, Kind.view?, hm] at hv
    cases hv
    cases ht
    exact selects_among_union hdb s hfit false negate type [] key
  | relationship targets =>
    obtain ⟨m, hm, rfl⟩ := Option.map_eq_some_iff.1 ha
    obtain ⟨v, hv, ht⟩ := bind_eq_ok.1 ht
    rw [view_eq_ok_iff, Kind.view?, hm] at hv
    cases hv
    obtain ⟨keys, hkeys, ht⟩ := bind_eq_ok.1 ht
    cases ht
    rw [nonEmpty_eq_ok_iff.1 hkeys]
    exact selects_among_listing hdb s hfit true negate _ _ key
  | membership groups =>
    obtain ⟨m, hm, rfl⟩ := Option.map_eq_some_iff.1 ha
    obtain ⟨keys, hkeys, ht⟩ := bind_eq_ok.1 ht
    obtain ⟨v, w, hv, hw, rfl⟩ := s.assigned_eq_ok_iff.1 ht
    simp only [Kind.view?, hm, Option.map_some, Option.some.injEq] at hv hw
    subst hv hw
    rw [nonEmpty_eq_ok_iff.1 hkeys]
    exact selects_amongAny_listings hdb s hfit true negate _ _ key
  -- a group is asked for its members, so it is found on the side of what is
  -- held
  | member members =>
    obtain ⟨hgroup, ha⟩ := Option.ite_none_right_eq_some.1 ha
    cases ha
    rw [ofPlain, if_pos hgroup] at ht
    obtain ⟨keys, hkeys, ht⟩ := bind_eq_ok.1 ht
    cases ht
    rw [nonEmpty_eq_ok_iff.1 hkeys]
    exact selects_amongAny_listings hdb s hfit true negate _ _ key
  | role held | privilege held =>
    obtain ⟨huser, ha⟩ := Option.ite_none_right_eq_some.1 ha
    cases ha
    obtain ⟨v, w, hv, hw, rfl⟩ := s.assigned_eq_ok_iff.1 ht
    simp only [Kind.view?, huser, if_true, Option.some.injEq] at hv hw
    subst hv hw
    exact selects_amongAny_listings hdb s hfit true negate held [] key
  -- whether there is a second view to look into depends on the kind
  | resource resource =>
    cases ha
    obtain ⟨v, hv, ht⟩ := bind_eq_ok.1 ht
    cases hv
    simp only [Kind.view?] at ht
    cases hm : s.kind.member? with
    | none =>
      rw [hm] at ht hfit
      cases ht
      exact selects_among_listing hdb s hfit false negate resource [] key
    | some m =>
      rw [hm] at ht hfit
      cases ht
      exact selects_among_union hdb s hfit false negate resource [] key
  | dynRealm realm =>
    cases ha
    cases ht
    exact selects_amongAny_listings hdb s hfit true negate realm [] key

/-- What a predicate of the kind asks for is compiled, if it asks for
anything. -/
theorem exists_of_assignment {p : Predicate} {a : Assignment}
    (ha : s.kind.assignment? p = some a) (hkeys : a.keys ≠ [])
    (negate : Bool) : ∃ t, s.ofPlain p negate = .ok t := by
  have hsome : ∀ {keys : List String}, keys ≠ [] →
      ∃ found, nonEmpty p keys = .ok found := by
    intro keys hne
    obtain ⟨key, more, rfl⟩ := List.exists_cons_of_ne_nil hne
    exact ⟨(key, more), rfl⟩
  cases p with
  | «attribute» _ _ _ | field _ _ _ | anyType _ => cases ha
  | auxClass _ | dynRealm _ => exact ⟨_, rfl⟩
  | relationshipType key =>
    obtain ⟨m, hm, rfl⟩ := Option.map_eq_some_iff.1 ha
    have hview : s.kind.view? .relationship = some (.relationship m) := by
      rw [Kind.view?, hm, Option.map_some]
    exact ⟨_, bind_eq_ok.2 ⟨_, s.view_eq_ok_iff.2 hview, rfl⟩⟩
  | relationship targets =>
    obtain ⟨m, hm, rfl⟩ := Option.map_eq_some_iff.1 ha
    obtain ⟨found, hfound⟩ := hsome hkeys
    have hview : s.kind.view? .relationship = some (.relationship m) := by
      rw [Kind.view?, hm, Option.map_some]
    exact ⟨_, bind_eq_ok.2 ⟨_, s.view_eq_ok_iff.2 hview,
      bind_eq_ok.2 ⟨found, hfound, rfl⟩⟩⟩
  | membership groups =>
    obtain ⟨m, hm, rfl⟩ := Option.map_eq_some_iff.1 ha
    obtain ⟨found, hfound⟩ := hsome hkeys
    have hdirect : s.kind.view? .membership = some (.membership m) := by
      rw [Kind.view?, hm, Option.map_some]
    have hdynamic : s.kind.view? .dynGroupMembership
        = some (.dynGroupMembership m) := by
      rw [Kind.view?, hm, Option.map_some]
    exact ⟨_, bind_eq_ok.2 ⟨found, hfound,
      s.assigned_eq_ok_iff.2 ⟨_, _, hdirect, hdynamic, rfl⟩⟩⟩
  | member members =>
    obtain ⟨hgroup, ha⟩ := Option.ite_none_right_eq_some.1 ha
    cases ha
    obtain ⟨found, hfound⟩ := hsome hkeys
    rw [ofPlain, if_pos hgroup]
    exact ⟨_, bind_eq_ok.2 ⟨found, hfound, rfl⟩⟩
  | role key | privilege key =>
    obtain ⟨huser, -⟩ := Option.ite_none_right_eq_some.1 ha
    exact ⟨_, s.assigned_eq_ok_iff.2 ⟨_, _, if_pos huser, if_pos huser, rfl⟩⟩
  | resource key =>
    have hown : s.view (.resource key) .resource = .ok (.resource s.kind) :=
      rfl
    cases hinherited : s.kind.view? .groupResource with
    | none => exact ⟨_, bind_eq_ok.2 ⟨_, hown, by rw [hinherited]; rfl⟩⟩
    | some v => exact ⟨_, bind_eq_ok.2 ⟨_, hown, by rw [hinherited]; rfl⟩⟩

end Setting

end IdentitySearch
