/-
Negation as a complement. A comparison of a single value is negated by its
comparator (`Selection.Comparisons`); everything else is negated as a whole: an
assignment and an attribute of several values by NOT IN, the absence of an
attribute by its presence, and NULL by NOT NULL. What a predicate of these
forms says (`Setting.Says`) is true of an identity or it is not, so the
identities of the kind fall into two parts (`negation_complements`).

A null check on a core field is asked of the rows, not of the identities.
Whoever has a row with NULL and another one without is in both parts; with one
row for each identity nobody is.

# One lemma for both polarities

For each form it is shown whom the predicate selects, for whichever polarity it
is compiled in: whoever it is true of, as long as the polarity is the positive
one (`meaning key ↔ negate = false`). Said like this, a predicate and its
negation are two instances of one lemma (`exists_selects_meaning`), and that
they complement each other is propositional. Forms that are negated by NOT IN
need that no key in the query is NULL, which identities have; a null check on
an attribute needs that whoever has a value is listed among the core fields.
-/
import IdentitySearch.Proofs.Selection.Comparisons

namespace IdentitySearch

open Outcome

namespace Database

variable (db : Database) (kind : Kind) (column : Column) (key : String)

/-- An identity has a row of core fields with NULL in a column. -/
def HasNull : Prop :=
  ∃ row ∈ db.rows (.field kind), row.get .anyId = .text key
    ∧ row.get column = .null

/-- An identity has a row of core fields with something in a column. -/
def HasValue : Prop :=
  ∃ row ∈ db.rows (.field kind), row.get .anyId = .text key
    ∧ row.get column ≠ .null

/-- Whoever is listed has a row with NULL in a column, or one with something
else, or one of each. -/
theorem lists_iff_hasNull_or_hasValue :
    db.Lists (.field kind) key
      ↔ db.HasNull kind column key ∨ db.HasValue kind column key := by
  constructor
  · intro h
    rcases h with ⟨row, hrow, hkey⟩
    by_cases hnull : row.get column = .null
    · exact .inl ⟨row, hrow, hkey, hnull⟩
    · exact .inr ⟨row, hrow, hkey, hnull⟩
  · intro h
    rcases h with ⟨row, hrow, hkey, -⟩ | ⟨row, hrow, hkey, -⟩
    · exact ⟨row, hrow, hkey⟩
    · exact ⟨row, hrow, hkey⟩

end Database

namespace Setting

variable (s : Setting) (db : Database)

/-- What predicates say of an identity, where they are not negated by a
comparator: it has what is assigned, a value is there or not, one of its values
answers a comparison. -/
inductive Says : Predicate → (String → Prop) → Prop
  | assignment {p : Predicate} {a : Assignment}
      (asked : s.kind.assignment? p = some a) (keys : a.keys ≠ []) :
    Says p (db.Assigns a)
  | attributeNull {key : String} {op : Operator} {literal : Option String}
      {schema : Schema}
      (found : s.directory.schema? key = .ok (some schema))
        (check : op.isNullCheck = true) :
    Says (.attribute key op literal) fun id =>
      db.Records ⟨.attributes s.kind schema.unique, .anyId,
        .schemaId⟩ id schema.key
        ↔ op = .isNotNull
  | fieldNull {name : String} {op : Operator} {literal : Option String}
      {field : CoreField} (found : s.kind.field? name = some field)
      (check : op.isNullCheck = true) : Says (.field name op literal) fun id =>
    db.HasValue s.kind field.column id ↔ op = .isNotNull
  | values {p : Predicate} {t : ValueTest} (compares : s.Compares p t)
      (several : t.isMultivalued = true) :
    Says p fun id => ∃ row ∈ t.rowsOf db id, t.comparison.truth row = .holds

/-- The rows of an identity agree about a null check on a core field. -/
def Agrees (p : Predicate) (key : String) : Prop :=
  match p with
  | .field name _ _ => ∀ field, s.kind.field? name = some field →
    ¬ (db.HasNull s.kind field.column key
      ∧ db.HasValue s.kind field.column key)
  | _ => True

variable {s db} (hdb : db.Identified) (hkind : db.Consistent s.kind)

-- ========================================================== null checks

include hdb hkind in
/-- A null check on an attribute asks whether there is a row for it. -/
theorem exists_attributeNull {schema : Schema} {op : Operator}
    (check : op.isNullCheck = true) (subject : String)
    (literal : Option String) (negate : Bool) :
    ∃ t, s.ofAttribute schema subject op literal negate = .ok t
      ∧ ∀ key, t.Selects db key ↔ db.Lists s.fieldView key
        ∧ ((db.Records ⟨.attributes s.kind schema.unique, .anyId,
          .schemaId⟩ key schema.key
              ↔ op = .isNotNull) ↔ negate = false) := by
  have haffinity : Column.affinity .schemaId = .text := rfl
  have hpresent : ∀ key, (Selection.ofAtom (.attributes s.kind schema.unique)
      (keyIs .schemaId schema.key)).Selects db key ↔ db.Lists s.fieldView key
        ∧ db.Records ⟨.attributes s.kind schema.unique, .anyId,
          .schemaId⟩ key schema.key := by
    intro key
    rw [and_iff_right_of_imp fun hrecorded => ?_]
    · exact text_mem_select_keyIs haffinity true .anyId _ schema.key key
    · obtain ⟨row, hrow, hid, -⟩ := hrecorded
      exact hkind.listed schema.unique key ⟨row, hrow, hid⟩
  have habsent : ∀ key,
      (s.among true (.select true .anyId (.attributes s.kind schema.unique)
      (.atom (keyIs .schemaId schema.key)))).Selects db key
        ↔ db.Lists s.fieldView key
        ∧ ¬ db.Records ⟨.attributes s.kind schema.unique, .anyId,
          .schemaId⟩ key schema.key := by
    intro key
    rw [selects_among hdb s (Query.findsKeys_select _ _ _),
      text_mem_select_keyIs haffinity]
    simp
  unfold ofAttribute
  rw [if_pos check]
  -- four cases: which of the two checks it is, and whether it is negated
  cases op <;> cases check <;> cases negate
  · exact ⟨_, rfl, fun key => by simpa using habsent key⟩
  · exact ⟨_, rfl, fun key => by simpa using hpresent key⟩
  · exact ⟨_, rfl, fun key => by simpa using hpresent key⟩
  · exact ⟨_, rfl, fun key => by simpa using habsent key⟩

/-- A null check on a core field asks for a row on which it holds. -/
theorem selects_isNull (column : Column) (negated : Bool) (key : String) :
    (s.identities (.isNull column negated)).Selects db key
      ↔ if negated then db.HasValue s.kind column key
        else db.HasNull s.kind column key := by
  have hholds : ∀ row : Row, (Atom.isNull column negated).Holds db row
      ↔ (row.get column = .null ↔ negated = false) := by
    intro row
    show Truth.ofBool ((decide (row.get column = .null)) != negated) = .holds
        ↔ _
    rw [Truth.ofBool_eq_holds]
    by_cases hnull : row.get column = .null <;> cases negated <;> simp [hnull]
  rw [selects_identities]
  simp only [hholds, and_comm (b := _ = Cell.text key)]
  cases negated <;> simp [Database.HasNull, Database.HasValue, fieldView]

variable (db) in
/-- Where the rows of an identity agree, a null check is about the identity;
where they do not, it holds on some row however it is asked. -/
theorem exists_fieldNull {name : String} {op : Operator} {field : CoreField}
    (found : s.kind.field? name = some field) (check : op.isNullCheck = true)
    (literal : Option String) (negate : Bool) :
    ∃ t, s.field name op literal negate = .ok t ∧ ∀ key,
      (s.Agrees db (.field name op literal) key →
        (t.Selects db key ↔ db.Lists s.fieldView key
        ∧ ((db.HasValue s.kind field.column key ↔ op = .isNotNull)
          ↔ negate = false)))
      ∧ (¬ s.Agrees db (.field name op literal) key → t.Selects db key) := by
  have hmade : s.field name op literal negate
      = .ok
        (s.identities (.isNull field.column ((op == .isNull) == negate))) := by
    unfold Setting.field
    simp only [found, check, if_true]
  have hagrees : ∀ key, s.Agrees db (.field name op literal) key ↔
      ¬ (db.HasNull s.kind field.column key
        ∧ db.HasValue s.kind field.column key) := by
    intro key
    simp [Agrees, found]
  refine ⟨_, hmade, fun key => ?_⟩
  rw [hagrees, selects_isNull, fieldView,
    db.lists_iff_hasNull_or_hasValue s.kind field.column]
  cases op <;> cases check <;> cases negate
  all_goals
    simp
    grind

-- =============================================================== values

include hkind in
/-- Whoever has a row to compare is an identity of the kind. -/
theorem Compares.lists {p : Predicate} {t : ValueTest} (h : s.Compares p t)
    {key : String} {row : Row} (hrow : row ∈ t.rowsOf db key) :
    db.Lists s.fieldView key := by
  obtain ⟨hin, hkey, -⟩ := (t.mem_rowsOf db).1 hrow
  cases h with
  | «attribute» found compares fits read =>
    exact hkind.listed _ key ⟨row, hin, hkey⟩
  | field found compares fits read => exact ⟨row, hin, hkey⟩

include hdb hkind in
/-- A comparison with one of several values, or its negation as a whole. -/
theorem exists_values {p : Predicate} {t : ValueTest} (h : s.Compares p t)
    (several : t.isMultivalued = true) (negate : Bool) :
    ∃ u, s.ofPredicate p negate = .ok u ∧ ∀ key, u.selection.Selects db key
      ↔ db.Lists s.fieldView key
        ∧ ((∃ row ∈ t.rowsOf db key, t.comparison.truth row = .holds)
          ↔ negate = false) := by
  have hasked : ∀ key, (t.selection false).Selects db key
      ↔ ∃ row ∈ t.rowsOf db key, t.comparison.truth row = .holds := fun key =>
    t.selects_iff db false key
  refine ⟨_, ofPredicate_of_compares h negate, fun key => ?_⟩
  rw [several, Bool.and_true]
  cases negate with
  | false =>
    have hlisted : (∃ row ∈ t.rowsOf db key, t.comparison.truth row = .holds) →
        db.Lists s.fieldView key := by
      intro hgiven
      obtain ⟨row, hrow, -⟩ := hgiven
      exact h.lists hkind hrow
    rw [if_neg Bool.false_ne_true, hasked]
    simpa using hlisted
  | true =>
    rw [if_pos rfl, selects_among hdb s (Query.findsKeys_select _ _ _)]
    show _ ∧ ((t.selection false).Selects db key ↔ _) ↔ _
    rw [hasked]

-- =========================================================== complement

/-- An assignment is compiled as such, since it names no attribute. -/
theorem ofPredicate_of_assignment {p : Predicate} {a : Assignment}
    (ha : s.kind.assignment? p = some a) {negate : Bool} {t : Selection}
    (ht : s.ofPlain p negate = .ok t) :
    s.ofPredicate p negate = .ok ⟨t, none⟩ := by
  unfold ofPredicate
  split
  · cases ha
  · rw [ht]
    rfl

/-- Only of a core field rows can disagree. -/
theorem agrees_of_ne_field {p : Predicate}
    (h : ∀ name op literal, p ≠ .field name op literal) (key : String) :
    s.Agrees db p key := by
  unfold Agrees
  split
  · exact absurd rfl (h _ _ _)
  · trivial

/-- Whose rows disagree has rows. -/
theorem lists_of_not_agrees {p : Predicate} {key : String}
    (h : ¬ s.Agrees db p key) :
    db.Lists s.fieldView key := by
  unfold Agrees at h
  split at h
  · simp only [Classical.not_forall, Classical.not_not] at h
    obtain ⟨field, -, hnull, -⟩ := h
    exact (db.lists_iff_hasNull_or_hasValue s.kind field.column key).2
      (.inl hnull)
  · exact absurd trivial h

include hdb hkind in
/-- Of the identities those are selected of whom a predicate is true or,
negated, those of whom it is not. -/
theorem exists_selects_meaning {p : Predicate} {meaning : String → Prop}
    (h : s.Says db p meaning) (negate : Bool) :
    ∃ t, s.ofPredicate p negate = .ok t ∧ ∀ key,
      (s.Agrees db p key → (t.selection.Selects db key
        ↔ db.Lists s.fieldView key ∧ (meaning key ↔ negate = false)))
      ∧ (¬ s.Agrees db p key → t.selection.Selects db key) := by
  cases h with
  | assignment asked keys =>
    obtain ⟨t, ht⟩ := s.exists_of_assignment asked keys negate
    have hagrees : ∀ key, s.Agrees db p key :=
      agrees_of_ne_field fun _ _ _ hp => by rw [hp] at asked; cases asked
    exact ⟨_, ofPredicate_of_assignment asked ht, fun key =>
      ⟨fun _ => s.selects_assignment hdb asked ht key,
        fun h => absurd (hagrees key) h⟩⟩
  -- asked of the identities: nobody's rows disagree
  | attributeNull found check =>
    rename_i name op literal schema
    obtain ⟨t, ht, hselects⟩ : ∃ t,
        s.ofAttribute schema name op literal negate = .ok t ∧ _ :=
      exists_attributeNull hdb hkind check name literal negate
    refine ⟨⟨t, some schema⟩, ?_,
      fun key => ⟨fun _ => hselects key, fun h => absurd trivial h⟩⟩
    exact bind_eq_ok.2 ⟨_, found, bind_eq_ok.2 ⟨t, ht, rfl⟩⟩
  -- asked of the rows, so there may be both answers
  | fieldNull found check =>
    rename_i name op literal field
    obtain ⟨t, ht, hselects⟩ := exists_fieldNull db found check literal negate
    exact ⟨⟨t, none⟩, map_eq_ok.2 ⟨t, ht, rfl⟩, hselects⟩
  | values compares several =>
    obtain ⟨t, ht, hselects⟩ := exists_values hdb hkind compares several negate
    have hagrees : ∀ key, s.Agrees db p key :=
      agrees_of_ne_field fun _ _ _ hp => by
        rw [hp] at compares; cases compares; cases several
    exact ⟨t, ht,
      fun key => ⟨fun _ => hselects key, fun h => absurd (hagrees key) h⟩⟩

include hdb hkind in
/-- A predicate and its negation select the identities of the kind between
them. Selected by both are those whose rows of core fields disagree about a
null check, and nobody else; of all others the predicate selects those of whom
it is true. -/
theorem negation_complements {p : Predicate} {meaning : String → Prop}
    (h : s.Says db p meaning) :
    ∃ asked negated, s.ofPredicate p false = .ok asked
      ∧ s.ofPredicate p true = .ok negated
      ∧ (∀ key, asked.selection.Selects db key
        ∨ negated.selection.Selects db key
          ↔ db.Lists s.fieldView key)
      ∧ (∀ key, asked.selection.Selects db key
        ∧ negated.selection.Selects db key
          ↔ ¬ s.Agrees db p key)
      ∧ ∀ key, s.Agrees db p key →
          (asked.selection.Selects db key
            ↔ db.Lists s.fieldView key ∧ meaning key)
          ∧ (negated.selection.Selects db key
            ↔ db.Lists s.fieldView key ∧ ¬ meaning key) := by
  obtain ⟨asked, hasked, hmeaning⟩ := exists_selects_meaning hdb hkind h false
  obtain ⟨negated, hnegated, hnot⟩ := exists_selects_meaning hdb hkind h true
  simp only [iff_true, Bool.true_eq_false, iff_false] at hmeaning hnot
  refine ⟨asked, negated, hasked, hnegated, fun key => ?_, fun key => ?_,
    fun key hkey => ?_⟩
  · by_cases hagrees : s.Agrees db p key
    · rw [(hmeaning key).1 hagrees, (hnot key).1 hagrees, ← and_or_left,
        and_iff_left (Classical.em _)]
    · exact iff_of_true (.inl ((hmeaning key).2 hagrees))
        (lists_of_not_agrees hagrees)
  · by_cases hagrees : s.Agrees db p key
    · rw [(hmeaning key).1 hagrees, (hnot key).1 hagrees]
      exact iff_of_false (fun hboth => hboth.2.2 hboth.1.2)
        (not_not_intro hagrees)
    · exact iff_of_true ⟨(hmeaning key).2 hagrees,
        (hnot key).2 hagrees⟩ hagrees
  · exact ⟨(hmeaning key).1 hkey, (hnot key).1 hkey⟩

end Setting

-- ========================================================= three users

namespace Members

/-- Three users. One is a member of a group and one a dynamic member of it; the
third one has two tags. One of them has two rows of core fields. -/
def database : Database :=
  (((Database.blank.withTable (.field .user)
    (some [⟨[(.anyId, .text "u1"), (.username, .text "ann")]⟩,
      ⟨[(.anyId, .text "u1")]⟩,
      ⟨[(.anyId, .text "u2"), (.username, .text "bob")]⟩,
      ⟨[(.anyId, .text "u3"), (.username, .text "cid")]⟩])).withTable
    (.membership .user)
    (some [⟨[(.anyId, .text "u1"), (.groupId, .text "g")]⟩])).withTable
    (.dynGroupMembership .user)
    (some [⟨[(.anyId, .text "u2"), (.groupId, .text "g")]⟩])).withTable
    (.attribute .user)
    (some [⟨[(.anyId, .text "u3"), (.schemaId, .text "tag"),
        (.stringValue, .text "a")]⟩,
      ⟨[(.anyId, .text "u3"), (.schemaId, .text "tag"),
        (.stringValue, .text "b")]⟩])

/-- An attribute of several values. -/
def tag : Schema := { key := "tag", type := .string, multivalue := true }

def setting : Setting where
  kind := .user
  dialect := .generic
  directory := (MemoryDirectory.empty.addSchema tag).directory
  realmField := CoreField.realmName

theorem identified : database.Identified := by
  decide

theorem consistent : database.Consistent .user := by
  decide

/-- Membership in the group, which is recorded in two views. -/
def membership : Assignment :=
  ⟨[⟨.membership .user, .anyId, .groupId⟩,
    ⟨.dynGroupMembership .user, .anyId, .groupId⟩], ["g"]⟩

/-- The tag that is asked for. -/
def tagTest : ValueTest :=
  ⟨.attribute .user, some tag,
    { column := .stringValue, comparator := .eq, value := .text "a" }⟩

/-- To be a member is to have one of both assignments, -/
theorem says_membership :
    setting.Says database (.membership ["g"]) (database.Assigns membership) :=
  .assignment rfl (List.cons_ne_nil _ _)

/-- and to have a tag is to have a row with it. -/
theorem says_tag : setting.Says database (.attribute "tag" .eq (some "a"))
    fun id => ∃ row ∈ tagTest.rowsOf database id,
      tagTest.comparison.truth row = .holds := by
  have hfound : setting.directory.schema? "tag" = .ok (some tag) := rfl
  have hread : BindValue.forSchema tag "a" = .ok (.text "a") := rfl
  exact .values (.attribute hfound rfl (fun h => nomatch h) hread) rfl

end Members

open Members in
/-- A user with two rows of core fields, one with a name and one without, is
among those who have a name and among those who have none. -/
theorem null_check_selects_both :
    database.Identified ∧ database.Consistent .user
      ∧ setting.Says database (.field "username" .isNull none)
          (fun id => database.HasValue .user .username id
            ↔ Operator.isNull = .isNotNull)
      ∧ ∃ asked negated,
        setting.ofPredicate (.field "username" .isNull none) false = .ok asked
          ∧ setting.ofPredicate (.field "username" .isNull none) true
            = .ok negated
          ∧ asked.selection.Selects database "u1"
          ∧ negated.selection.Selects database "u1" := by
  refine ⟨identified, consistent, ?_, _, _, rfl, rfl, ?_, ?_⟩
  · have hfound : setting.kind.field? "username"
        = some { name := "username", column := .username, type := .string } :=
          rfl
    have hcheck : Operator.isNull.isNullCheck = true := rfl
    exact .fieldNull hfound hcheck
  · show Cell.text "u1" ∈ _
    decide
  · show Cell.text "u1" ∈ _
    decide

open Members in
/-- A member and a dynamic member are on one side and the third user on the
other; having another tag as well does not put him on the other side. -/
theorem negation_complements_members :
    database.Identified ∧ database.Consistent .user
      ∧ (∃ asked negated,
        setting.ofPredicate (.membership ["g"]) false = .ok asked
        ∧ setting.ofPredicate (.membership ["g"]) true = .ok negated
        ∧ asked.selection.Selects database "u1"
        ∧ asked.selection.Selects database "u2"
        ∧ ¬ negated.selection.Selects database "u1"
        ∧ ¬ negated.selection.Selects database "u2"
        ∧ negated.selection.Selects database "u3")
      ∧ ∃ asked negated,
        setting.ofPredicate (.attribute "tag" .eq (some "a")) false = .ok asked
        ∧ setting.ofPredicate (.attribute "tag" .eq (some "a")) true
          = .ok negated
        ∧ asked.selection.Selects database "u3"
        ∧ ¬ negated.selection.Selects database "u3" := by
  refine ⟨identified, consistent, ?_, ?_⟩
  · obtain ⟨asked, negated, hasked, hnegated, -, -, hmeaning⟩ :=
      Setting.negation_complements identified consistent says_membership
    have hann : database.Assigns membership "u1" := by decide
    have hbob : database.Assigns membership "u2" := by decide
    have hcid : ¬ database.Assigns membership "u3" := by decide
    refine ⟨asked, negated, hasked, hnegated, ?_, ?_, ?_, ?_, ?_⟩
    · exact (hmeaning "u1" trivial).1.2 ⟨by decide, hann⟩
    · exact (hmeaning "u2" trivial).1.2 ⟨by decide +kernel, hbob⟩
    · exact fun h => ((hmeaning "u1" trivial).2.1 h).2 hann
    · exact fun h => ((hmeaning "u2" trivial).2.1 h).2 hbob
    · exact (hmeaning "u3" trivial).2.2 ⟨by decide +kernel, hcid⟩
  · obtain ⟨asked, negated, hasked, hnegated, -, -, hmeaning⟩ :=
      Setting.negation_complements identified consistent says_tag
    have htag : ∃ row ∈ tagTest.rowsOf database "u3",
        tagTest.comparison.truth row = .holds := by
      decide
    refine ⟨asked, negated, hasked, hnegated, ?_, ?_⟩
    · exact (hmeaning "u3" trivial).1.2 ⟨by decide, htag⟩
    · exact fun h => ((hmeaning "u3" trivial).2.1 h).2 htag

end IdentitySearch
