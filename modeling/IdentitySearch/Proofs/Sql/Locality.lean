/-
What decides about one identity. A condition is local if whatever it asks
beyond its own row it asks about the identity of that row, and a query is local
if every column it selects names identities and its condition is local
(`Query.Local`). Then the rows that mention an identity decide about it, and
all other rows of a database can be exchanged
(`Query.mem_cells_iff_of_agreeOn`), even those of the views that a NOT IN runs
over.

# The induction

Formulas, atoms and queries are defined together, and locality is an induction
on the three of them. A condition is evaluated on a row of the one database as
on the same row of the other one, and the only atom that looks at the rest of a
database is that of keys. It asks whether the key of its row is found by
another query; by induction the two databases agree about that for the identity
in question, and about no other. A query may select the identities of its rows
or another key beside them, such as the group of a member. In the first case
its rows are the identity's own, and its condition may ask for keys; in the
second they are about others, and it may not. This is what `own` keeps apart.

Cells have to be texts for this, since a single NULL among the keys of another
identity would change the answer of a NOT IN for this one. That is what
`Database.Identified` is for.
-/
import IdentitySearch.Proofs.Sql.Keys

namespace IdentitySearch

-- ================================================================= rows

/-- The columns that name identities. -/
def Column.naming : List Column := [.anyId, .rightAnyId, .groupId]

/-- The columns that hold keys are the same few for all views. -/
theorem View.mem_naming {v : View} {column : Column}
    (h : column ∈ v.keyColumns) :
    column ∈ Column.naming := by
  revert h
  cases v <;> simp [keyColumns, Column.naming] <;> grind

/-- A row mentions an identity, whichever column it is in. -/
def Row.Mentions (row : Row) (key : String) : Prop :=
  ∃ column ∈ Column.naming, row.get column = .text key

/-- A row of an identity mentions it. -/
theorem Row.mentions_of_anyId {row : Row} {key : String}
    (h : row.get .anyId = .text key) :
    row.Mentions key :=
  ⟨.anyId, List.mem_cons_self, h⟩

/-- Two databases have the same rows about an identity, in every view. -/
def Database.AgreeOn (db₁ db₂ : Database) (key : String) : Prop :=
  ∀ v row, row.Mentions key → (row ∈ db₁.rows v ↔ row ∈ db₂.rows v)

instance (row : Row) (key : String) : Decidable (row.Mentions key) :=
  inferInstanceAs
    (Decidable (∃ column ∈ Column.naming, row.get column = .text key))

/-- Agreement is decided view by view. -/
theorem Database.agreeOn_iff (db₁ db₂ : Database) (key : String) :
    db₁.AgreeOn db₂ key ↔
    ∀ v ∈ View.all, (∀ row ∈ db₁.rows v, row.Mentions key → row ∈ db₂.rows v)
      ∧ ∀ row ∈ db₂.rows v, row.Mentions key → row ∈ db₁.rows v := by
  constructor
  · intro h v _
    exact ⟨fun row hrow hkey => (h v row hkey).1 hrow,
      fun row hrow hkey => (h v row hkey).2 hrow⟩
  · intro h v row hkey
    obtain ⟨hthere, hback⟩ := h v v.mem_all
    exact ⟨fun hrow => hthere row hrow hkey, fun hrow => hback row hrow hkey⟩

instance (db₁ db₂ : Database)
    (key : String) : Decidable (db₁.AgreeOn db₂ key) :=
  decidable_of_iff' _ (db₁.agreeOn_iff db₂ key)

-- ============================================================== locality

mutual

/-- A condition is local. It may ask queries only where the row is about the
identity itself. -/
def Formula.Local (own : Prop) : Formula → Prop
  | .atom a => a.Local own
  | .join left _ right => left.Local own ∧ right.Local own

def Atom.Local (own : Prop) : Atom → Prop
  | .compare _ | .isNull _ _ | .never => True
  | .keyIn _ q => own ∧ q.Local
  | .paren f => f.Local own

def Query.Local : Query → Prop
  | .select _ column v condition =>
    column ∈ v.keyColumns ∧ condition.Local (column = .anyId)
  | .union left right => left.Local ∧ right.Local

end

theorem Query.findsKeys_of_local : {q : Query} → q.Local → q.FindsKeys
  | .select _ _ _ _, h => h.1
  | .union _ _, h => ⟨findsKeys_of_local h.1, findsKeys_of_local h.2⟩

-- ================================================================ truth

section Truth

variable {db₁ db₂ : Database} {key : String}

mutual

/-- On a row about an identity, a local condition has the same truth value in
both databases. -/
theorem Formula.prepare_eq_of_local (h₁ : db₁.Identified) (h₂ : db₂.Identified)
    (hagree : db₁.AgreeOn db₂ key) {own : Prop} {f : Formula}
    (hf : f.Local own) {row : Row} (hrow : own → row.get .anyId = .text key) :
    (f.prepare db₁).closed row = (f.prepare db₂).closed row
      ∧ (f.prepare db₁).run row = (f.prepare db₂).run row :=
  match f, hf with
  | .atom a, hf => ⟨rfl, Atom.prepare_eq_of_local h₁ h₂ hagree hf hrow⟩
  | .join left c right, hf => by
    obtain ⟨hclosed, hrun⟩ :=
      Formula.prepare_eq_of_local h₁ h₂ hagree (f := left) hf.1 hrow
    have hright := Atom.prepare_eq_of_local h₁ h₂ hagree (a := right) hf.2 hrow
    cases c with
    | and =>
      refine ⟨hclosed, ?_⟩
      show ((left.prepare db₁).run row).and _
          = ((left.prepare db₂).run row).and _
      rw [hrun, hright]
    | or =>
      refine ⟨?_, hright⟩
      show ((left.prepare db₁).closed row).or _
          = ((left.prepare db₂).closed row).or _
      rw [hclosed, hrun]

/-- On such a row a local atom has the same truth value in both. -/
theorem Atom.prepare_eq_of_local (h₁ : db₁.Identified) (h₂ : db₂.Identified)
    (hagree : db₁.AgreeOn db₂ key) {own : Prop} {a : Atom} (ha : a.Local own)
    {row : Row} (hrow : own → row.get .anyId = .text key) :
    (a.prepare db₁).on row = (a.prepare db₂).on row :=
  match a, ha with
  | .compare _, _ | .isNull _ _, _ | .never, _ => rfl
  | .keyIn negated q, ha => by
    have hcells := Query.mem_cells_iff_of_agreeOn h₁ h₂ hagree (q := q) ha.2
    have hkeys := Query.findsKeys_of_local ha.2
    -- all keys that are found are texts, so only this one's being found
    -- matters
    have hin : (Cell.text key).isIn (q.cells db₁)
        = (Cell.text key).isIn (q.cells db₂) := by
      rw [Cell.text_isIn_eq fun c hc => Query.exists_eq_text h₁ hkeys hc,
        Cell.text_isIn_eq fun c hc => Query.exists_eq_text h₂ hkeys hc]
      simp only [hcells]
    show (let found := (row.get .anyId).isIn (q.cells db₁); if negated
        then found.not else found)
      = _
    rw [hrow ha.1, hin, ← hrow ha.1]
    rfl
  | .paren f, ha => by
    obtain ⟨hclosed, hrun⟩ :=
      Formula.prepare_eq_of_local h₁ h₂ hagree (f := f) ha hrow
    show ((f.prepare db₁).closed row).or _ = ((f.prepare db₂).closed row).or _
    rw [hclosed, hrun]

/-- A local query finds an identity in both databases or in neither. -/
theorem Query.mem_cells_iff_of_agreeOn (h₁ : db₁.Identified)
    (h₂ : db₂.Identified) (hagree : db₁.AgreeOn db₂ key) {q : Query}
    (hq : q.Local) :
    .text key ∈ q.cells db₁ ↔ .text key ∈ q.cells db₂ :=
  match q, hq with
  | .select distinct column v condition, hq => by
    have hholds : ∀ row : Row, row.get column = .text key →
        (condition.Holds db₁ row ↔ condition.Holds db₂ row) := by
      intro row hrow
      have hown : column = .anyId → row.get .anyId = .text key :=
        fun heq => heq ▸ hrow
      obtain ⟨hclosed, hrun⟩ :=
        Formula.prepare_eq_of_local h₁ h₂ hagree (f := condition) hq.2 hown
      show ((condition.prepare db₁).closed row).or _ = .holds
        ↔ ((condition.prepare db₂).closed row).or _ = .holds
      rw [hclosed, hrun]
    rw [Query.text_mem_cells_select, Query.text_mem_cells_select]
    refine exists_congr fun row => ?_
    by_cases hrow : row.get column = .text key
    · rw [hagree v row ⟨column, View.mem_naming hq.1, hrow⟩, hholds row hrow]
    · simp [hrow]
  | .union left right, hq => by
    rw [Query.text_mem_cells_union, Query.text_mem_cells_union,
      Query.mem_cells_iff_of_agreeOn h₁ h₂ hagree (q := left) hq.1,
      Query.mem_cells_iff_of_agreeOn h₁ h₂ hagree (q := right) hq.2]

end

end Truth

end IdentitySearch
