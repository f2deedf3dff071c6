/-
What assignments select. An atom on the core fields selects the identities on
whose rows it holds; asking a view for one of some keys finds what the view
lists beside one of them; asking several views finds what one of them lists. So
the leaves that a restriction is made of, dynamic realms and owned groups,
select exactly the members.

The general rule is about a column that holds keys and a column that is
compared with some, whichever they are (`text_mem_select_keyIsAny`); the lists
of identities, of groups and of targets are cases of it. A comparison with
several keys is a disjunction, and it is here that an OR stands outside of
parentheses: it holds where one of its atoms does, from the first to the last
(`Formula.holds_joinAll_or`). Asking several views is a disjunction of the same
kind (`selects_amongAny`).

Owned groups are asked for in two ways. A search for groups asks for the group
itself by its key, and a search for users or any objects asks for its members
(`ofCondition_ownedBy`); the first goes through a core field, whose name must
not be that of the realm.
-/
import IdentitySearch.Proofs.Selection.Trees
import IdentitySearch.Scope

namespace IdentitySearch

open Outcome

variable (db : Database)

-- ========================================================= alternatives

/-- Alternatives in a row: one of them holds. -/
theorem Formula.holds_foldl_or (f : Formula) (more : List Atom) (row : Row) :
    (more.foldl (fun f a => .join f .or a) f).Holds db row
      ↔ f.Holds db row ∨ ∃ a ∈ more, a.Holds db row := by
  induction more generalizing f with
  | nil => simp
  | cons a rest ih =>
    rw [List.foldl_cons, ih, holds_or]
    simp only [List.mem_cons, exists_eq_or_imp, or_assoc]

/-- Alternatives hold where one of them does. -/
theorem Formula.holds_joinAll_or (first : Atom) (more : List Atom)
    (row : Row) :
    (Formula.joinAll .or first more).Holds db row
      ↔ ∃ a ∈ first :: more, a.Holds db row := by
  rw [Formula.joinAll, holds_foldl_or, holds_atom]
  simp only [List.mem_cons, exists_eq_or_imp]

namespace Setting

/-- A column of texts equals a key where the key stands in it. -/
theorem holds_keyIs {column : Column} (h : column.affinity = .text)
    (key : String) (row : Row) :
    (keyIs column key).Holds db row ↔ row.get column = .text key := by
  have hvalue : (Cell.ofValue (.text key)).comparand column.affinity
      = .text key := by
    rw [h]
    rfl
  show (row.get column).equals
      ((Cell.ofValue (.text key)).comparand column.affinity) = .holds ↔ _
  rw [hvalue, Cell.equals_text]

/-- A cell is one of some keys if it is equal to one. -/
theorem holds_keyIsAny {column : Column} (h : column.affinity = .text)
    (key : String) (more : List String) (row : Row) :
    (keyIsAny column key more).Holds db row
      ↔ ∃ k ∈ key :: more, row.get column = .text k := by
  rw [keyIsAny, Formula.holds_joinAll_or, ← List.map_cons]
  constructor
  · intro hgiven
    rcases hgiven with ⟨a, ha, hrow⟩
    obtain ⟨k, hk, rfl⟩ := List.mem_map.1 ha
    exact ⟨k, hk, (holds_keyIs db h k row).1 hrow⟩
  · intro hgiven
    rcases hgiven with ⟨k, hk, hrow⟩
    exact ⟨_, List.mem_map_of_mem hk, (holds_keyIs db h k row).2 hrow⟩

-- ============================================================== queries

/-- A query for one of some keys finds what stands in its column on a row
with one of the keys, whatever the column is and whether repetitions are
kept. -/
theorem text_mem_select_keyIsAny {held : Column} (h : held.affinity = .text)
    (distinct : Bool) (holder : Column) (v : View) (key : String)
    (more : List String) (found : String) :
    .text found
        ∈ (Query.select distinct holder v (keyIsAny held key more)).cells db
      ↔ ∃ k ∈ key :: more, ∃ row ∈ db.rows v,
          row.get holder = .text found ∧ row.get held = .text k := by
  rw [Query.text_mem_cells_select]
  simp only [holds_keyIsAny db h]
  constructor
  · intro hgiven
    rcases hgiven with ⟨row, hrow, ⟨k, hk, hheld⟩, hfound⟩
    exact ⟨k, hk, row, hrow, hfound, hheld⟩
  · intro hgiven
    rcases hgiven with ⟨k, hk, row, hrow, hfound, hheld⟩
    exact ⟨row, hrow, ⟨k, hk, hheld⟩, hfound⟩

/-- What a view lists beside one of some keys. -/
theorem text_mem_listedWith {column : Column} (h : column.affinity = .text)
    (v : View) (key : String) (more : List String) (found : String) :
    .text found ∈ (listedWith v column key more).cells db
      ↔ ∃ k ∈ key :: more, db.Pairs v column found k :=
  text_mem_select_keyIsAny db h true .anyId v key more found

variable (s : Setting)

/-- An atom on the core fields selects the identities on whose rows it
holds. -/
theorem selects_identities (a : Atom) (key : String) :
    (s.identities a).Selects db key
      ↔ ∃ row ∈ db.rows s.fieldView, a.Holds db row
        ∧ row.get .anyId = .text key := by
  rw [Selection.selects_iff]
  simp only [identities, Selection.ofAtom, Formula.holds_atom]

/-- Of the identities, those that one of several queries finds. -/
theorem selects_amongAny (q : Query) (more : List Query) (key : String) :
    (s.amongAny false q more).Selects db key
      ↔ db.Lists s.fieldView key
        ∧ ∃ p ∈ q :: more, .text key ∈ p.cells db := by
  have hholds {row : Row} (hkey : row.get .anyId = .text key) :
      (Atom.paren
        (.joinAll .or (.keyIn false q) (more.map (.keyIn false)))).Holds db row
        ↔ ∃ p ∈ q :: more, .text key ∈ p.cells db := by
    rw [Atom.holds_paren, Formula.holds_joinAll_or, ← List.map_cons]
    constructor
    · intro h
      rcases h with ⟨a, ha, hrow⟩
      obtain ⟨p, hp, rfl⟩ := List.mem_map.1 ha
      exact ⟨p, hp, (Atom.holds_keyIn db hkey p).1 hrow⟩
    · intro h
      rcases h with ⟨p, hp, hfound⟩
      exact ⟨_, List.mem_map_of_mem hp, (Atom.holds_keyIn db hkey p).2 hfound⟩
  rw [show s.amongAny false q more = s.identities _ from rfl,
    selects_identities]
  constructor
  · intro h
    rcases h with ⟨row, hrow, hatom, hkey⟩
    exact ⟨⟨row, hrow, hkey⟩, (hholds hkey).1 hatom⟩
  · intro h
    rcases h with ⟨⟨row, hrow, hkey⟩, hfound⟩
    exact ⟨row, hrow, (hholds hkey).2 hfound, hkey⟩

end Setting

-- =============================================================== leaves

namespace Database

/-- An identity is in a realm. -/
def InRealm (db : Database) (kind : Kind) (key realm : String) : Prop :=
  db.Pairs (.field kind) .realmId key realm

/-- An identity is a member of a dynamic realm. -/
def InDynRealm (db : Database) (key realm : String) : Prop :=
  db.Pairs .dynRealmMembership .dynRealmId key realm

/-- An identity belongs to a group: it is the group or, where groups have
members of its kind, a member of the group or a dynamic one. -/
def BelongsTo (db : Database) (kind : Kind) (key group : String) : Prop :=
  match kind.member? with
  | none => key = group
  | some m =>
    db.Pairs (.membership m) .groupId key group
      ∨ db.Pairs (.dynGroupMembership m) .groupId key group

end Database

namespace Setting

variable (s : Setting)

/-- A dynamic realm is asked for by one list of keys. -/
theorem ofCondition_dynRealm (realm : String) :
    s.ofCondition (.leaf (.dynRealm realm))
      = .ok (.ofPredicate
          ⟨s.amongAny false
            (listedWith .dynRealmMembership .dynRealmId realm []) [], none⟩) :=
  rfl

/-- A leaf for a dynamic realm selects its members. -/
theorem satisfies_dynRealm (realm key : String) :
    s.Satisfies db (.leaf (.dynRealm realm)) key
      ↔ db.Lists s.fieldView key ∧ db.InDynRealm key realm := by
  rw [satisfies_iff_selects (s.ofCondition_dynRealm realm)]
  show (s.amongAny false _ []).Selects db key ↔ _
  rw [selects_amongAny]
  simp only [List.mem_singleton, exists_eq_left,
    text_mem_listedWith db (show Column.affinity .dynRealmId = .text from rfl)]
  rfl

/-- The selection of what belongs to a group. -/
theorem ofCondition_ownedBy (hfield : s.realmField ≠ "key") (group : String) :
    s.ofCondition (.leaf (ScopeFilter.ownedBy s.kind group))
      = .ok (.ofPredicate ⟨match s.kind.member? with
          | none => s.identities (keyIs .anyId group)
          | some m =>
            s.amongAny false (listedWith (.membership m) .groupId group [])
              [listedWith (.dynGroupMembership m) .groupId group []],
                none⟩) := by
  obtain ⟨kind, dialect, directory, realmField⟩ := s
  cases kind with
  | user => rfl
  | anyObject => rfl
  | group =>
    have hkey : Kind.field? .group "key"
        = some { name := "key", column := .anyId, type := .string } :=
      rfl
    have hvalue : fieldValue ⟨.group, dialect, directory, realmField⟩
        { name := "key", column := .anyId, type := .string } .eq group
          = .ok (.text group) := by
      unfold fieldValue
      rw [if_neg fun h => hfield h.1.symm]
      rfl
    have hsearch : field ⟨.group, dialect, directory,
        realmField⟩ "key" .eq (some group) false
        = .ok (identities ⟨.group, dialect, directory,
          realmField⟩ (keyIs .anyId group)) := by
      simp only [field, hkey]
      exact bind_eq_ok.2 ⟨group, rfl, bind_eq_ok.2 ⟨_, hvalue, rfl⟩⟩
    show ((field _ "key" .eq (some group) false).map _).map _ = _
    rw [hsearch]
    rfl

/-- A leaf for an owned group selects what belongs to it. -/
theorem satisfies_ownedBy (hfield : s.realmField ≠ "key")
    (group key : String) :
    s.Satisfies db (.leaf (ScopeFilter.ownedBy s.kind group)) key
      ↔ db.Lists s.fieldView key ∧ db.BelongsTo s.kind key group := by
  rw [satisfies_iff_selects (s.ofCondition_ownedBy hfield group),
    selection_ofPredicate, Database.BelongsTo]
  cases s.kind.member? with
  | none =>
    simp only [selects_identities,
      holds_keyIs db (show Column.affinity .anyId = .text from rfl)]
    constructor
    · intro h
      rcases h with ⟨row, hrow, hgroup, hkey⟩
      rw [hgroup] at hkey
      cases hkey
      exact ⟨⟨row, hrow, hgroup⟩, rfl⟩
    · intro h
      rcases h with ⟨⟨row, hrow, hkey⟩, rfl⟩
      exact ⟨row, hrow, hkey, hkey⟩
  | some m =>
    simp only [selects_amongAny, List.mem_cons, List.not_mem_nil, or_false,
      exists_eq_or_imp, exists_eq_left,
      text_mem_listedWith db (show Column.affinity .groupId = .text from rfl)]

end Setting

end IdentitySearch
