/-
Members of groups and groups of members. Who belongs to which group is one
relation, kept for users and for any objects, in views of members and of
dynamic members (`Database.BelongsTo`). A search for members asks the views of
one kind for a group; a search for groups asks all four of them for a member,
with the two columns exchanged. Either reads the relation and nothing else
(`satisfies_membership`, `satisfies_member`), so they agree about it, provided
that members have core fields, and keys count as a set
(`member_converse_of_membership`).

The proviso is needed on one side only. A search for members starts at the core
fields of the kind and keeps those who are listed in a group, whereas a search
for groups starts at the groups and never looks at the fields of a member. So a
member without core fields would be found by its group and not find it
(`Database.ListsMembers` excludes it, and `listsMembers_of_rows` decides it).
On the other side it is the group that has to have core fields to be found, and
this is said in the statement.

From the two readings the rest follows by logic alone, several keys being a
disjunction.
-/
import IdentitySearch.Directory.Memory
import IdentitySearch.Proofs.Selection.Assignments
import IdentitySearch.Proofs.Selection.Holders

namespace IdentitySearch

/-- The same for another kind. -/
def Setting.forKind (s : Setting) (kind : Kind) : Setting :=
  { s with kind := kind }

/-- Whoever is a member of a group, dynamic or not, has core fields of his
kind. -/
def Database.ListsMembers (db : Database) : Prop :=
  ∀ m : MemberKind, ∀ v ∈ [View.membership m, .dynGroupMembership m], ∀ key,
    db.Lists v key → db.Lists (.field m.kind) key

namespace Database

variable {db : Database} {m : MemberKind} {key group : String}

/-- It is so where each row about a member has the key of a row of core
fields. -/
theorem listsMembers_of_rows (h : ∀ m : MemberKind,
    ∀ v ∈ [View.membership m, .dynGroupMembership m], ∀ row ∈ db.rows v,
      ∃ other ∈ db.rows (.field m.kind), other.get .anyId = row.get .anyId) :
    db.ListsMembers := by
  intro m v hv key hkey
  obtain ⟨row, hrow, hanyId⟩ := hkey
  obtain ⟨other, hother, hsame⟩ := h m v hv row hrow
  exact ⟨other, hother, hsame.trans hanyId⟩

theorem belongsTo_kind_iff : db.BelongsTo m.kind key group ↔
    db.Pairs (.membership m) .groupId key group
      ∨ db.Pairs (.dynGroupMembership m) .groupId key group := by
  cases m <;> rfl

/-- Four views say who is a member of a group. -/
theorem exists_belongsTo_iff :
    (∃ m : MemberKind, db.BelongsTo m.kind key group) ↔
    db.Pairs (.membership .user) .groupId key group
      ∨ db.Pairs (.dynGroupMembership .user) .groupId key group
      ∨ db.Pairs (.membership .anyObject) .groupId key group
      ∨ db.Pairs (.dynGroupMembership .anyObject) .groupId key group := by
  rw [← or_assoc]
  constructor
  · intro h
    obtain ⟨m, h⟩ := h
    cases m with
    | user => exact .inl h
    | anyObject => exact .inr h
  · exact fun h => h.elim (fun h => ⟨.user, h⟩) fun h => ⟨.anyObject, h⟩

/-- A pair mentions its key. -/
theorem Pairs.lists {v : View} {column : Column}
    (h : db.Pairs v column key group) :
    db.Lists v key := by
  obtain ⟨row, hrow, hkey, -⟩ := h
  exact ⟨row, hrow, hkey⟩

/-- Whoever belongs to a group has core fields. -/
theorem ListsMembers.lists (h : db.ListsMembers)
    (hmember : db.BelongsTo m.kind key group) :
    db.Lists (.field m.kind) key := by
  rcases belongsTo_kind_iff.1 hmember with hdirect | hdynamic
  · exact h m _ (by simp) key hdirect.lists
  · exact h m _ (by simp) key hdynamic.lists

/-- The listing of groups by their members is that of members by their
groups. -/
theorem records_groupId_iff {v : View} :
    db.Records ⟨v, .groupId, .anyId⟩ group key
      ↔ db.Pairs v .groupId key group :=
  exists_congr fun _ => and_congr_right fun _ => and_comm

end Database

namespace Setting

variable (db : Database) (s : Setting)

-- ============================================================== members

/-- A membership compiles to two lists of keys among those of its kind. -/
theorem ofCondition_membership (m : MemberKind) (group : String)
    (more : List String) :
    (s.forKind m.kind).ofCondition (.leaf (.membership (group :: more)))
      = .ok (.ofPredicate ⟨(s.forKind m.kind).amongAny false
          (listedWith (.membership m) .groupId group more)
          [listedWith (.dynGroupMembership m) .groupId group more],
            none⟩) := by
  cases m <;> rfl

/-- A leaf for some groups selects the identities that belong to one of
them. -/
theorem satisfies_membership (m : MemberKind) (groups : List String)
    (key : String) :
    (s.forKind m.kind).Satisfies db (.leaf (.membership groups)) key ↔
      db.Lists (.field m.kind) key
        ∧ ∃ g ∈ groups, db.BelongsTo m.kind key g := by
  cases groups with
  | nil =>
    refine iff_of_false (fun h => ?_) (by simp)
    obtain ⟨t, ht, -⟩ := h
    cases m <;> cases ht
  | cons group more =>
    have hlisted : ∀ v, .text key ∈ (listedWith v .groupId group more).cells db
        ↔ ∃ g ∈ group :: more, db.Pairs v .groupId key g := fun v =>
      text_mem_listedWith db rfl v group more key
    rw [satisfies_iff_selects (s.ofCondition_membership m group more),
      selection_ofPredicate, selects_amongAny]
    generalize group :: more = groups at hlisted
    simp only [List.mem_cons, List.not_mem_nil, or_false, exists_eq_or_imp,
      exists_eq_left, hlisted, Database.belongsTo_kind_iff, and_or_left,
        exists_or]
    rfl

-- =============================================================== groups

/-- A member compiles to four lists of groups, one for each view. -/
theorem ofCondition_member (key : String) (more : List String) :
    (s.forKind .group).ofCondition (.leaf (.member (key :: more)))
      = .ok (.ofPredicate ⟨(s.forKind .group).groupsOf false key more,
        none⟩) :=
  rfl

/-- A leaf for some members selects the groups that one of them belongs to. -/
theorem satisfies_member (members : List String) (group : String) :
    (s.forKind .group).Satisfies db (.leaf (.member members)) group ↔
      db.Lists (.field .group) group
        ∧ ∃ k ∈ members, ∃ m : MemberKind, db.BelongsTo m.kind k group := by
  cases members with
  | nil =>
    refine iff_of_false (fun h => ?_) (by simp)
    obtain ⟨t, ht, -⟩ := h
    cases ht
  | cons key more =>
    have hlisted : ∀ v, .text group
          ∈ (Query.select true .groupId v (keyIsAny .anyId key more)).cells db
        ↔ ∃ k ∈ key :: more, db.Pairs v .groupId k group := by
      intro v
      rw [text_mem_select db rfl]
      simp only [Database.records_groupId_iff]
    rw [satisfies_iff_selects (s.ofCondition_member key more),
      selection_ofPredicate]
    show (amongAny _ false _ _).Selects db group ↔ _
    rw [selects_amongAny]
    generalize key :: more = members at hlisted
    simp only [List.mem_cons, List.not_mem_nil, or_false, exists_eq_or_imp,
      exists_eq_left, hlisted, Database.exists_belongsTo_iff, and_or_left,
        exists_or]
    rfl

-- ============================================================= relation

/-- Some group has one of some members exactly if one of them, as a user or as
an any object, is a member of the group. Being a member of one of some groups
is being a member of some single one of them, and having one of some members is
having some single one; so it does not matter in which order keys come, or how
often. -/
theorem member_converse_of_membership (hdb : db.ListsMembers) :
    (∀ members ≠ [], (s.forKind .group).Compiles (.leaf (.member members)))
      ∧ (∀ (m : MemberKind), ∀ groups ≠ [],
        (s.forKind m.kind).Compiles (.leaf (.membership groups)))
      ∧ (∀ members group, db.Lists (.field .group) group →
          ((s.forKind .group).Satisfies db (.leaf (.member members)) group ↔
            ∃ k ∈ members, ∃ m : MemberKind,
              (s.forKind m.kind).Satisfies db (.leaf (.membership [group])) k))
      ∧ (∀ (m : MemberKind) groups key,
          (s.forKind m.kind).Satisfies db (.leaf (.membership groups)) key ↔
            ∃ g ∈ groups,
              (s.forKind m.kind).Satisfies db (.leaf (.membership [g])) key)
      ∧ (∀ members group, (s.forKind .group).Satisfies db
        (.leaf (.member members)) group ↔ ∃ k ∈ members,
          (s.forKind .group).Satisfies db (.leaf (.member [k])) group)
      ∧ ∀ keys others : List String, (∀ k, k ∈ keys ↔ k ∈ others) →
          (∀ group, (s.forKind .group).Satisfies db
            (.leaf (.member keys)) group
              ↔ (s.forKind .group).Satisfies db (.leaf (.member others)) group)
          ∧ ∀ (m : MemberKind) key,
            (s.forKind m.kind).Satisfies db (.leaf (.membership keys)) key ↔
            (s.forKind m.kind).Satisfies db
              (.leaf (.membership others)) key := by
  simp only [satisfies_member, satisfies_membership, List.mem_singleton,
    exists_eq_left]
  refine ⟨fun members hne => ?_, fun m groups hne => ?_,
    fun members group hgroup => ?_, fun m groups key => ?_,
      fun members group => ?_, fun keys others hsame => ⟨?_, ?_⟩⟩
  · obtain ⟨key, more, rfl⟩ := List.exists_cons_of_ne_nil hne
    exact ⟨_, s.ofCondition_member key more⟩
  · obtain ⟨group, more, rfl⟩ := List.exists_cons_of_ne_nil hne
    exact ⟨_, s.ofCondition_membership m group more⟩
  · -- a member found through its group has core fields, and that is all its
    -- own search asks for besides
    simp only [hgroup, true_and]
    refine exists_congr fun k => and_congr_right fun _ =>
      exists_congr fun m => ?_
    exact ⟨fun h => ⟨hdb.lists h, h⟩, And.right⟩
  · constructor
    · intro h
      obtain ⟨hkey, g, hg, hmember⟩ := h
      exact ⟨g, hg, hkey, hmember⟩
    · intro h
      obtain ⟨g, hg, hkey, hmember⟩ := h
      exact ⟨hkey, g, hg, hmember⟩
  · constructor
    · intro h
      obtain ⟨hgroup, k, hk, hmember⟩ := h
      exact ⟨k, hk, hgroup, hmember⟩
    · intro h
      obtain ⟨k, hk, hgroup, hmember⟩ := h
      exact ⟨hgroup, k, hk, hmember⟩
  · intro group
    simp only [hsame]
  · intro m key
    simp only [hsame]

end Setting

-- ============================================================ two groups

namespace TwoGroups

/-- A row for someone in a group. -/
def inGroup (key group : String) : Row :=
  ⟨[(.anyId, .text key), (.groupId, .text group)]⟩

/-- One group has a member and a dynamic member among the users, the other one
a printer. -/
def database : Database :=
  (((((Database.blank.withTable (.field .group)
    (some [⟨[(.anyId, .text "staff")]⟩, ⟨[(.anyId, .text "lab")]⟩])).withTable
    (.field .user)
    (some [⟨[(.anyId, .text "u1")]⟩, ⟨[(.anyId, .text "u2")]⟩])).withTable
    (.field .anyObject)
    (some [⟨[(.anyId, .text "printer")]⟩])).withTable (.membership .user)
    (some [inGroup "u1" "staff"])).withTable (.dynGroupMembership .user)
    (some [inGroup "u2" "staff"])).withTable (.membership .anyObject)
    (some [inGroup "printer" "lab"])

def setting : Setting where
  kind := .group
  dialect := .generic
  directory := MemoryDirectory.empty.directory
  realmField := CoreField.realmName

theorem listsMembers : database.ListsMembers := by
  apply Database.listsMembers_of_rows
  intro m
  cases m <;> decide

end TwoGroups

open TwoGroups in
/-- A printer is in one group as it is, and a user in the other one by a
dynamic membership. -/
theorem member_converse_of_membership_two_groups :
    database.ListsMembers ∧ database.Lists (.field .group) "lab"
      ∧ database.Lists (.field .group) "staff"
      ∧ (setting.forKind .group).Satisfies database
        (.leaf (.member ["nobody", "printer"])) "lab"
      ∧ (setting.forKind .group).Satisfies database
        (.leaf (.member ["u2"])) "staff"
      ∧ (setting.forKind .user).Satisfies database
        (.leaf (.membership ["lab", "staff", "lab"])) "u2"
      ∧ ¬ (setting.forKind .group).Satisfies database
        (.leaf (.member ["u2", "u2", "u1"])) "lab" := by
  have hlab : database.Lists (.field .group) "lab" := by decide
  have hstaff : database.Lists (.field .group) "staff" := by decide
  have hprinter : (setting.forKind .anyObject).Satisfies database
      (.leaf (.membership ["lab"])) "printer" := by
    refine ⟨_, rfl, ?_⟩
    show Cell.text "printer" ∈ _
    decide
  have hdynamic : (setting.forKind .user).Satisfies database
      (.leaf (.membership ["staff"])) "u2" := by
    refine ⟨_, rfl, ?_⟩
    show Cell.text "u2" ∈ _
    decide
  have hother : ¬ (setting.forKind .group).Satisfies database
      (.leaf (.member ["u1", "u2"])) "lab" := by
    rw [Setting.satisfies_iff_selects (t := _) rfl]
    show Cell.text "lab" ∉ _
    decide
  obtain ⟨-, -, hconverse, hgroups, -, hset⟩ :=
    Setting.member_converse_of_membership database setting listsMembers
  refine ⟨listsMembers, hlab, hstaff, ?_, ?_, ?_, fun h => hother ?_⟩
  · exact (hconverse _ _ hlab).2 ⟨"printer", by simp, .anyObject, hprinter⟩
  · exact (hconverse _ _ hstaff).2 ⟨"u2", by simp, .user, hdynamic⟩
  · exact (hgroups .user _ _).2 ⟨"staff", by simp, hdynamic⟩
  · exact ((hset ["u2", "u2", "u1"] ["u1", "u2"] (by simp [or_comm])).1
      "lab").1 h

end IdentitySearch
