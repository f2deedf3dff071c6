/-
The text of what conditions compile to. Two conditions have the same shape if
they are the same tree of predicates but for the literals and keys in it, and
but for the attributes it names, which are alike in all that a schema decides
about SQL. They compile to selections of the same text
(`Setting.sameText_ofCondition`): no literal, no key and no name is ever
written into it.

Both conditions are compiled side by side, in settings that are alike
(`Setting.Alike`). A step that fails for either of them leaves nothing to say,
so a pair of results is related if both succeed and are related (`Relates`),
and the lemmas are one for each way of compiling: by a key, by several of them,
in one query or outside of it. What takes a list of keys needs as many of them
on both sides, since each has its placeholder.

The literals are never looked at: whether one can be read decides about
success, and where both can, all that remains of them is a placeholder.
-/
import IdentitySearch.Selection.OfCondition
import IdentitySearch.Proofs.Outcome
import IdentitySearch.Proofs.Sql.Texts

namespace IdentitySearch

open Outcome

-- =============================================================== shapes

/-- Two attributes are alike in what their schemas decide about SQL. -/
structure Schema.SameShape (a b : Schema) : Prop where
  type : a.type = b.type
  multivalue : a.multivalue = b.multivalue
  unique : a.unique = b.unique
  mandatory : a.isMandatory = b.isMandatory

/-- Two predicates differ in literals, keys and names of attributes at most.
The attributes are looked up in a directory each. -/
inductive Predicate.SameShape (d₁ d₂ : Directory) :
    Predicate → Predicate → Prop
  | attribute {name₁ name₂ : String} (op : Operator)
      (literal₁ literal₂ : Option String)
      (schemas : ∀ a, d₁.schema? name₁ = .ok (some a) →
        ∀ b, d₂.schema? name₂ = .ok (some b) → a.SameShape b) :
      SameShape d₁ d₂ (.attribute name₁ op literal₁)
        (.attribute name₂ op literal₂)
  | field (name : String) (op : Operator) (literal₁ literal₂ : Option String) :
      SameShape d₁ d₂ (.field name op literal₁) (.field name op literal₂)
  | anyType (key₁ key₂ : String) :
      SameShape d₁ d₂ (.anyType key₁) (.anyType key₂)
  | auxClass (key₁ key₂ : String) :
      SameShape d₁ d₂ (.auxClass key₁) (.auxClass key₂)
  | relationship {keys₁ keys₂ : List String}
      (length : keys₁.length = keys₂.length) :
      SameShape d₁ d₂ (.relationship keys₁) (.relationship keys₂)
  | relationshipType (key₁ key₂ : String) :
      SameShape d₁ d₂ (.relationshipType key₁) (.relationshipType key₂)
  | membership {keys₁ keys₂ : List String}
      (length : keys₁.length = keys₂.length) :
      SameShape d₁ d₂ (.membership keys₁) (.membership keys₂)
  | member {keys₁ keys₂ : List String} (length : keys₁.length = keys₂.length) :
      SameShape d₁ d₂ (.member keys₁) (.member keys₂)
  | role (key₁ key₂ : String) : SameShape d₁ d₂ (.role key₁) (.role key₂)
  | privilege (key₁ key₂ : String) :
      SameShape d₁ d₂ (.privilege key₁) (.privilege key₂)
  | resource (key₁ key₂ : String) :
      SameShape d₁ d₂ (.resource key₁) (.resource key₂)
  | dynRealm (key₁ key₂ : String) :
      SameShape d₁ d₂ (.dynRealm key₁) (.dynRealm key₂)

/-- Two conditions are the same tree, with predicates of the same shape at its
leaves. -/
inductive Condition.SameShape (d₁ d₂ : Directory) :
    Condition → Condition → Prop
  | leaf {p q : Predicate} (h : p.SameShape d₁ d₂ q) :
      SameShape d₁ d₂ (.leaf p) (.leaf q)
  | notLeaf {p q : Predicate} (h : p.SameShape d₁ d₂ q) :
      SameShape d₁ d₂ (.notLeaf p) (.notLeaf q)
  | and {a₁ a₂ b₁ b₂ : Condition} (left : SameShape d₁ d₂ a₁ a₂)
      (right : SameShape d₁ d₂ b₁ b₂) :
      SameShape d₁ d₂ (.and a₁ b₁) (.and a₂ b₂)
  | or {a₁ a₂ b₁ b₂ : Condition} (left : SameShape d₁ d₂ a₁ a₂)
      (right : SameShape d₁ d₂ b₁ b₂) :
      SameShape d₁ d₂ (.or a₁ b₁) (.or a₂ b₂)

namespace Setting

/-- Two settings compile for the same kind and dialect, with whatever
directories. -/
structure Alike (s₁ s₂ : Setting) : Prop where
  kind : s₁.kind = s₂.kind
  dialect : s₁.dialect = s₂.dialect

-- =============================================================== pieces

/-- A key is compared in the same text as another one, -/
theorem sameText_keyIs (column : Column) (key₁ key₂ : String) :
    (keyIs column key₁).SameText (keyIs column key₂) :=
  Atom.sameText_compare ..

/-- and so are equally many of them. -/
theorem sameText_keyIsAny (column : Column) (key₁ key₂ : String)
    {more₁ more₂ : List String} (hlength : more₁.length = more₂.length) :
    (keyIsAny column key₁ more₁).SameText (keyIsAny column key₂ more₂) :=
  .joinAll .or (sameText_keyIs column key₁ key₂)
    (forall₂_map_of_length_eq (sameText_keyIs column) hlength)

/-- Those who are listed with some keys are looked for in the same text, -/
theorem sameText_listedWith (v : View) (column : Column) (key₁ key₂ : String)
    {more₁ more₂ : List String} (hlength : more₁.length = more₂.length) :
    (listedWith v column key₁ more₁).SameText
      (listedWith v column key₂ more₂) :=
  .select true .anyId v (sameText_keyIsAny column key₁ key₂ hlength)

/-- and those who are paired with one. -/
theorem sameText_pairedWith (selected : Column) (v : View) (column : Column)
    (key₁ key₂ : String) :
    (pairedWith selected v column key₁).SameText
      (pairedWith selected v column key₂) :=
  .select false selected v (sameText_keyIs column key₁ key₂).atom

/-- Lists of keys of the same length are both empty or have both as many keys
after the first. -/
theorem relates_nonEmpty (p₁ p₂ : Predicate) {keys₁ keys₂ : List String}
    (hlength : keys₁.length = keys₂.length) :
    Relates (fun a b => a.2.length = b.2.length) (nonEmpty p₁ keys₁)
      (nonEmpty p₂ keys₂) := by
  cases keys₁ with
  | nil => exact fun _ h => nomatch h
  | cons key₁ more₁ =>
    cases keys₂ with
    | nil => exact fun _ _ _ h => nomatch h
    | cons key₂ more₂ => exact relates_ok (Nat.succ.inj hlength)

variable {s₁ s₂ : Setting} (h : s₁.Alike s₂)

include h

/-- Identities of a kind are selected by the same text if the atoms have it, -/
theorem sameText_identities {a b : Atom} (hab : a.SameText b) :
    (s₁.identities a).SameText (s₂.identities b) :=
  ⟨congrArg View.field h.kind, hab.atom⟩

/-- in a query or outside of it, -/
theorem sameText_among (negate : Bool) {q q' : Query} (hq : q.SameText q') :
    (s₁.among negate q).SameText (s₂.among negate q') :=
  sameText_identities h (.keyIn negate hq)

/-- and in several of them or outside of all. -/
theorem sameText_amongAny (negate : Bool) {q q' : Query}
    {more more' : List Query} (hq : q.SameText q')
    (hmore : List.Forall₂ Query.SameText more more') :
    (s₁.amongAny negate q more).SameText (s₂.amongAny negate q' more') := by
  have hatoms : List.Forall₂ Atom.SameText (more.map (.keyIn negate))
      (more'.map (.keyIn negate)) :=
    List.forall₂_map_left_iff.2
      (List.forall₂_map_right_iff.2 (hmore.imp fun _ _ => .keyIn negate))
  exact sameText_identities h (.paren (.joinAll _ (.keyIn negate hq) hatoms))

/-- A view depends on the kind alone; only the error does not. -/
theorem relates_view (p₁ p₂ : Predicate) (r : ViewRole) :
    Relates (fun v w => v = w) (s₁.view p₁ r) (s₂.view p₂ r) := by
  unfold view
  rw [h.kind]
  cases s₂.kind.view? r with
  | none => exact fun _ h => nomatch h
  | some v => exact relates_ok rfl

/-- Assignments are looked for in the same views, with equally many keys, -/
theorem sameText_assigned (p₁ p₂ : Predicate) (direct dynamic : ViewRole)
    (column : Column) (negate : Bool) (key₁ key₂ : String)
    {more₁ more₂ : List String} (hlength : more₁.length = more₂.length) :
    Relates Selection.SameText
      (s₁.assigned p₁ direct dynamic column negate key₁ more₁)
      (s₂.assigned p₂ direct dynamic column negate key₂ more₂) := by
  refine relates_bind (relates_view h p₁ p₂ direct) fun v v' hv => ?_
  refine relates_bind (relates_view h p₁ p₂ dynamic) fun w w' hw => ?_
  subst hv hw
  exact relates_ok (sameText_amongAny h negate
    (sameText_listedWith v column key₁ key₂ hlength)
      (.cons (sameText_listedWith w column key₁ key₂ hlength) .nil))

/-- and groups in the same four. -/
theorem sameText_groupsOf (negate : Bool) (key₁ key₂ : String)
    {more₁ more₂ : List String} (hlength : more₁.length = more₂.length) :
    (s₁.groupsOf negate key₁ more₁).SameText
      (s₂.groupsOf negate key₂ more₂) := by
  have hlisted : ∀ v : View,
      Query.SameText (.select true .groupId v (keyIsAny .anyId key₁ more₁))
      (.select true .groupId v (keyIsAny .anyId key₂ more₂)) := fun v =>
    .select true .groupId v (sameText_keyIsAny .anyId key₁ key₂ hlength)
  exact sameText_amongAny h negate (hlisted _)
    (.cons (hlisted _) (.cons (hlisted _) (.cons (hlisted _) .nil)))

-- ========================================================== comparisons

/-- The text of a comparison does not show its value, -/
theorem sameText_comparison (column : Column) (op : Operator)
    (value₁ value₂ : BindValue) (negate textual : Bool) :
    Atom.SameText (.compare (s₁.comparison column op value₁ negate textual))
      (.compare (s₂.comparison column op value₂ negate textual)) := by
  unfold comparison
  rw [h.dialect]
  exact Atom.sameText_compare ..

/-- nor that of a selection by an attribute the name of it, -/
theorem sameText_ofAttribute {a b : Schema} (hab : a.SameShape b)
    (subject₁ subject₂ : String) (op : Operator)
    (literal₁ literal₂ : Option String) (negate : Bool) :
    Relates Selection.SameText (s₁.ofAttribute a subject₁ op literal₁ negate)
      (s₂.ofAttribute b subject₂ op literal₂ negate) := by
  have hschema := sameText_keyIs .schemaId a.key b.key
  unfold ofAttribute
  simp only [h.kind, hab.type, hab.unique, hab.multivalue]
  -- operator and schema choose the branch; a literal is only bound in it, or
  -- refused
  by_cases hcheck : op.isNullCheck = true
  · simp only [hcheck, if_true]
    by_cases habsent : (op == .isNull) != negate
    · simp only [habsent, if_true]
      exact relates_ok
        (sameText_among h true (.select true .anyId _ hschema.atom))
    · simp only [habsent]
      exact relates_ok ⟨rfl, hschema.atom⟩
  · simp only [hcheck]
    by_cases hnone : op.isPattern && !b.type.isTextual
    · simp only [hnone, if_true]
      exact relates_ok (sameText_identities h (.refl _))
    · simp only [hnone]
      refine relates_bind (relates_trivial _ _) fun text₁ text₂ _ => ?_
      have hrows := fun value₁ value₂ negate =>
          Formula.SameText.join .and hschema.atom (sameText_comparison h
            b.type.column op value₁ value₂ negate b.type.isTextual)
      by_cases hseveral : negate && b.multivalue
      · simp only [hseveral, if_true]
        split
        all_goals
          refine relates_bind (relates_trivial _ _) fun _ _ _ => relates_ok ?_
          exact sameText_among h true (.select true .anyId _ (hrows _ _ false))
      · simp only [hseveral]
        split
        all_goals
          refine relates_bind (relates_trivial _ _) fun _ _ _ => relates_ok ?_
          exact ⟨rfl, hrows _ _ negate⟩

/-- nor that of one by a core field the literal. -/
theorem sameText_field (name : String) (op : Operator)
    (literal₁ literal₂ : Option String) (negate : Bool) :
    Relates Selection.SameText (s₁.field name op literal₁ negate)
      (s₂.field name op literal₂ negate) := by
  unfold field
  rw [h.kind]
  cases s₂.kind.field? name with
  | none => exact fun _ h => nomatch h
  | some field =>
    by_cases hcheck : op.isNullCheck = true
    · simp only [hcheck, if_true]
      exact relates_ok (sameText_identities h (.refl _))
    · simp only [hcheck]
      by_cases hnone : op.isPattern && !field.type.isTextual
      · simp only [hnone, if_true]
        exact relates_ok (sameText_identities h (.refl _))
      · simp only [hnone]
        refine relates_bind (relates_trivial _ _) fun text₁ text₂ _ => ?_
        refine relates_bind (relates_trivial _ _) fun value₁ value₂ _ => ?_
        exact relates_ok (sameText_identities h (sameText_comparison h ..))

-- ====================================================== every predicate

/-- Predicates of the same shape that compare no attribute select by the same
text. -/
theorem sameText_ofPlain {d₁ d₂ : Directory} {p q : Predicate}
    (hpq : p.SameShape d₁ d₂ q) (negate : Bool) :
    Relates Selection.SameText (s₁.ofPlain p negate)
      (s₂.ofPlain q negate) := by
  cases hpq with
  | «attribute» => exact relates_ok (sameText_identities h (.refl _))
  | field name op literal₁ literal₂ =>
    exact sameText_field h name op literal₁ literal₂ negate
  | anyType key₁ key₂ =>
    unfold ofPlain
    simp only [h.kind]
    by_cases hkind : s₂.kind = .anyObject
    · simp only [hkind, if_true]
      exact relates_ok (sameText_identities h (Atom.sameText_compare ..))
    · simp only [hkind, if_false]
      exact fun _ h => nomatch h
  | auxClass key₁ key₂ =>
    refine relates_bind (relates_view h _ _ .auxClass) fun v w hv => ?_
    subst hv
    exact relates_ok
      (sameText_among h negate (sameText_listedWith v _ key₁ key₂ rfl))
  | relationship length =>
    refine relates_bind (relates_view h _ _ .relationship) fun v w hv => ?_
    refine relates_bind (relates_nonEmpty _ _ length) fun keys₁ keys₂ hmore =>
      ?_
    subst hv
    exact relates_ok
      (sameText_among h negate (sameText_listedWith v _ _ _ hmore))
  | relationshipType key₁ key₂ =>
    refine relates_bind (relates_view h _ _ .relationship) fun v w hv => ?_
    subst hv
    exact relates_ok (sameText_among h negate
      (.union (sameText_pairedWith _ v _ key₁ key₂)
        (sameText_pairedWith _ v _ key₁ key₂)))
  | membership length =>
    refine relates_bind (relates_nonEmpty _ _ length) fun keys₁ keys₂ hmore =>
      ?_
    exact sameText_assigned h _ _ _ _ _ negate _ _ hmore
  -- only groups have members; any other kind is refused before a key is read
  | member length =>
    unfold ofPlain
    simp only [h.kind]
    by_cases hkind : s₂.kind = .group
    · simp only [hkind, if_true]
      refine relates_bind (relates_nonEmpty _ _ length)
        fun keys₁ keys₂ hmore => ?_
      exact relates_ok (sameText_groupsOf h negate _ _ hmore)
    · simp only [hkind, if_false]
      exact fun _ h => nomatch h
  | role key₁ key₂ => exact sameText_assigned h _ _ _ _ _ negate key₁ key₂ rfl
  | privilege key₁ key₂ =>
    exact sameText_assigned h _ _ _ _ _ negate key₁ key₂ rfl
  -- whether a resource can be held through a group is a matter of the kind
  | resource key₁ key₂ =>
    refine relates_bind (relates_view h _ _ .resource) fun v w hv => ?_
    subst hv
    have hown := sameText_pairedWith .anyId v .resourceId key₁ key₂
    simp only [h.kind]
    cases s₂.kind.view? .groupResource with
    | none => exact relates_ok (sameText_among h negate hown)
    | some inherited =>
      exact relates_ok (sameText_among h negate
        (.union hown
          (sameText_pairedWith .anyId inherited .resourceId key₁ key₂)))
  | dynRealm key₁ key₂ =>
    refine relates_bind (relates_view h _ _ .dynRealmMembership)
      fun v w hv => ?_
    subst hv
    exact relates_ok
      (sameText_amongAny h negate (sameText_listedWith v _ key₁ key₂ rfl) .nil)

end Setting

/-- Two compiled conditions have the same text, and both compare an optional
attribute or neither does. -/
structure ConditionSelection.SameText (a b : ConditionSelection) : Prop where
  selection : a.selection.SameText b.selection
  optional : a.optional = b.optional

namespace Setting

variable {s₁ s₂ : Setting} (h : s₁.Alike s₂)

include h

/-- So predicates of the same shape select by the same text, and leave
identities without a row in it alike. -/
theorem sameText_ofPredicate {p q : Predicate}
    (hpq : p.SameShape s₁.directory s₂.directory q) (negate : Bool) :
    Relates
      (fun a b => (ConditionSelection.ofPredicate a).SameText (.ofPredicate b))
      (s₁.ofPredicate p negate) (s₂.ofPredicate q negate) := by
  -- only an attribute brings a schema along, which says whether it is optional
  have hplain : Relates
      (fun a b => (ConditionSelection.ofPredicate a).SameText (.ofPredicate b))
      ((s₁.ofPlain p negate).map fun t => ⟨t, none⟩)
      ((s₂.ofPlain q negate).map fun t => ⟨t, none⟩) :=
    relates_map (sameText_ofPlain h hpq negate) fun _ _ hab => ⟨hab, rfl⟩
  cases hpq with
  | «attribute» op literal₁ literal₂ schemas =>
    intro t ht u hu
    obtain ⟨a?, ha, ht⟩ := bind_eq_ok.1 ht
    obtain ⟨b?, hb, hu⟩ := bind_eq_ok.1 hu
    cases a? with
    | none => cases ht
    | some a =>
      cases b? with
      | none => cases hu
      | some b =>
        obtain ⟨t, hleft, rfl⟩ := map_eq_ok.1 ht
        obtain ⟨u, hright, rfl⟩ := map_eq_ok.1 hu
        have hab := schemas a ha b hb
        exact ⟨sameText_ofAttribute h hab _ _ op _ _ negate t hleft u hright,
          congrArg (fun mandatory => !mandatory) hab.mandatory⟩
  | _ => exact hplain

/-- Conditions of the same shape compile to the same text. -/
theorem sameText_ofCondition {c₁ c₂ : Condition}
    (hshape : c₁.SameShape s₁.directory s₂.directory c₂) :
    Relates ConditionSelection.SameText (s₁.ofCondition c₁)
      (s₂.ofCondition c₂) := by
  have hjoin : ∀ (c : Connective) {a₁ a₂ b₁ b₂ : ConditionSelection},
      a₁.SameText a₂ →
      b₁.SameText b₂ → (a₁.combine c b₁).SameText (a₂.combine c b₂) := by
    intro c a₁ a₂ b₁ b₂ ha hb
    exact ⟨ha.selection.combine c hb.selection,
      congrArg₂ or ha.optional hb.optional⟩
  induction hshape with
  | leaf hpq =>
    exact relates_map (sameText_ofPredicate h hpq false) fun _ _ hab => hab
  | notLeaf hpq =>
    exact relates_map (sameText_ofPredicate h hpq true) fun _ _ hab => hab
  | and _ _ hleft hright =>
    refine relates_bind hleft fun a₁ a₂ ha =>
      relates_bind hright fun b₁ b₂ hb => ?_
    exact relates_ok (hjoin .and ha hb)
  | or _ _ hleft hright =>
    refine relates_bind hleft fun a₁ a₂ ha =>
      relates_bind hright fun b₁ b₂ hb => ?_
    exact relates_ok (hjoin .or ha hb)

end Setting

end IdentitySearch
