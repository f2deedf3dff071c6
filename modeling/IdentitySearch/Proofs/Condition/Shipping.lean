/-
Conditions as text. A predicate and a condition have the shape they are written
in, so what can be lost on the way is only what the reader refuses for its
nesting: a leaf nests two or three levels, and every conjunction and
disjunction two more than the deeper of its sides. Conditions joined by `all?`
and `any?` nest to the left, two levels for each operand but the first, which
leaves room for sixty-three of them.

Three things are shown one after the other. As a JSON value a condition gives
itself back (`Condition.ofJson?_toJson`), by one case for each form of a
predicate and induction over the tree. The levels of this value are those that
`Condition.nesting` counts (`isSound_toJson`), so its text is read exactly if
they do not exceed the limit (`read?_text`). And a chain of joins is as deep as
its operands plus two for each join, from below and from above
(`le_nesting_foldl`, `nesting_foldl_le`).
-/
import IdentitySearch.Condition.Wire
import IdentitySearch.Proofs.Json.RoundTrip
import IdentitySearch.Proofs.Json.Shapes

namespace IdentitySearch

open Json (record)

-- =============================================================== shapes

/-- The text of a value is read by a shape exactly as the value is, once it is
sound. -/
theorem Json.readSound?_compactText {α : Type} (shape : Json → Option α)
    (j : Json) :
    readSound? shape j.compactText = if j.isSound nestingLimit then shape j
      else none := by
  unfold readSound?
  rw [read?_compactText]

namespace Predicate

/-- A record with a form is read by that form from its other members. -/
theorem ofJson?_record {form : String} {ms : List (String × Json)}
    (h : ∀ m ∈ ms, m.1 ≠ "type") :
    ofJson? (record (("type", .text form) :: ms))
      = ofForm? form (record ms) := by
  have hother : ∀ m ∈ ms.map fun m => (some m.1, m.2), m.1 ≠ some "type" := by
    intro m hm
    obtain ⟨named, hnamed, rfl⟩ := List.mem_map.1 hm
    exact fun heq => h named hnamed (Option.some.inj heq)
  have htype : Json.valuesOf "type"
      ((some "type", .text form) :: ms.map fun m => (some m.1, m.2))
      = [.text form] := by
    unfold Json.valuesOf
    rw [List.filter_cons_of_pos (by simp),
      List.filter_eq_nil_iff.2 (by simpa using hother)]
    rfl
  have hrest :
      ((some "type", Json.text form) :: ms.map fun m => (some m.1, m.2)).filter
      (fun m => m.1 ≠ some "type") = ms.map fun m => (some m.1, m.2) := by
    rw [List.filter_cons_of_neg (by simp),
      List.filter_eq_self.2 (by simpa using hother)]
  rw [Json.record_eq, List.map_cons, ofJson?, tagged?, htype]
  show ofForm? form (.object (List.filter _ _)) = _
  rw [hrest]
  rfl

/-- A record of one field gives its field. -/
theorem only?_record {α : Type} (field : String) (shape : Json → Option α)
    (value : Json) :
    only? field shape (record [(field, value)]) = shape value := by
  rw [only?, Json.fields?_record (by simp)]
  simp [Json.required?]

theorem operator?_name (op : Operator) : operator? (.text op.name) = some op :=
  Operator.ofName?_name op

/-- A comparison is read from all that is written of it but its form. -/
theorem ofJson?_comparison (form subject : String)
    (hsubject : subject ≠ "type" ∧ subject ≠ "op" ∧ subject ≠ "expression")
    (name : String) (op : Operator) (literal : Option String) :
    ∃ j, ofJson? (record (comparisonMembers form subject name op literal))
      = ofForm? form j
      ∧ comparison? subject j = some (name, op, literal) := by
  obtain ⟨htype, hop, hexpression⟩ := hsubject
  have hop' : ("op" == subject) = false := by simpa using hop.symm
  have hexpression' : ("expression" == subject) = false := by
    simpa using hexpression.symm
  cases literal with
  | none =>
    refine ⟨record [(subject, .text name), ("op", .text op.name)],
      ofJson?_record (by simp [htype]), ?_⟩
    rw [comparison?, Json.fields?_record (by simp [hop])]
    simp [Json.required?, Json.optional?, List.lookup_cons, hop', hexpression',
      operator?_name]
    rfl
  | some s =>
    refine ⟨record [(subject, .text name), ("op", .text op.name),
      ("expression", .text s)], ofJson?_record (by simp [htype]), ?_⟩
    rw [comparison?, Json.fields?_record (by simp [hop, hexpression])]
    simp [Json.required?, Json.optional?, List.lookup_cons, hop', hexpression',
      operator?_name]
    rfl

/-- A predicate reads back from its JSON value. -/
theorem ofJson?_toJson (p : Predicate) : ofJson? p.toJson = some p := by
  match p with
  | .attribute schema op literal =>
    obtain ⟨j, hform, hread⟩ :=
      ofJson?_comparison "attr" "schema" (by decide) schema op literal
    rw [toJson, hform]
    simp [ofForm?, hread]
  | .field name op literal =>
    obtain ⟨j, hform, hread⟩ :=
      ofJson?_comparison "field" "field" (by decide) name op literal
    rw [toJson, hform]
    simp [ofForm?, hread]
  | .anyType key | .auxClass key | .relationshipType key | .role key
  | .privilege key | .resource key | .dynRealm key =>
    rw [toJson, ofJson?_record (by simp)]
    simp [ofForm?, only?_record, Json.text?]
    rfl
  | .relationship keys | .membership keys | .member keys =>
    rw [toJson, ofJson?_record (by simp)]
    simp [ofForm?, only?_record, Json.list?_texts]

end Predicate

/-- A condition reads back from its JSON value. -/
theorem Condition.ofJson?_toJson (c : Condition) :
    Condition.ofJson? c.toJson = some c := by
  induction c with
  | leaf p | notLeaf p =>
    show (Predicate.ofJson? p.toJson).map _ = _
    rw [Predicate.ofJson?_toJson]
    rfl
  | and left right hleft hright | or left right hleft hright =>
    simp [toJson, record, ofJson?, hleft, hright]

-- ============================================================== nesting

/-- How many arrays and objects enclose one another in the text of a
predicate. -/
def Predicate.nesting : Predicate → Nat
  | .relationship _ | .membership _ | .member _ => 2
  | _ => 1

/-- How many arrays and objects enclose one another in the text of a
condition. -/
def Condition.nesting : Condition → Nat
  | .leaf p | .notLeaf p => p.nesting + 1
  | .and left right | .or left right => max left.nesting right.nesting + 2

namespace Predicate

theorem nesting_eq (p : Predicate) : p.nesting = 1 ∨ p.nesting = 2 := by
  cases p <;> simp [nesting]

/-- So many levels its value has. -/
theorem isSound_toJson (p : Predicate) (levels : Nat) :
    p.toJson.isSound levels = true ↔ p.nesting ≤ levels := by
  match p with
  | .attribute schema op literal | .field name op literal =>
    cases literal with
    | none => simp [toJson, comparisonMembers, nesting, Json.isSound_record,
      Json.isSound_text]
    | some s => simp [toJson, comparisonMembers, nesting, Json.isSound_record,
      Json.isSound_text]
  | .anyType key | .auxClass key | .relationshipType key | .role key
  | .privilege key | .resource key | .dynRealm key =>
    simp [toJson, nesting, Json.isSound_record, Json.isSound_text]
  | .relationship keys | .membership keys | .member keys =>
    simp only [toJson, nesting, Json.isSound_record, List.mem_cons,
      List.not_mem_nil, or_false, forall_eq_or_imp, forall_eq,
        Json.isSound_text, Json.isSound_texts, true_and]
    omega

/-- Every predicate reads back from its text. -/
theorem read?_text (p : Predicate) : read? p.text = some p := by
  have hsound : p.toJson.isSound nestingLimit = true := by
    rw [isSound_toJson, nestingLimit]
    have hp := p.nesting_eq
    omega
  rw [read?, Predicate.text, Json.readSound?_compactText, if_pos hsound,
    ofJson?_toJson]

end Predicate

namespace Condition

/-- A condition nests two levels at least. -/
theorem two_le_nesting (c : Condition) : 2 ≤ c.nesting := by
  cases c with
  | leaf p | notLeaf p =>
    have hp := p.nesting_eq
    rw [nesting]
    omega
  | and left right | or left right => exact Nat.le_add_left 2 _

/-- A condition has a leaf. -/
theorem leafCount_pos (c : Condition) : 0 < c.leafCount := by
  induction c with
  | leaf p | notLeaf p => exact Nat.one_pos
  | and left right hleft hright | or left right hleft hright =>
    exact Nat.add_pos_left hleft _

/-- A leaf nests the object of its predicate in its own. -/
theorem nesting_le_of_leafCount {c : Condition} (h : c.leafCount = 1) :
    c.nesting ≤ 3 := by
  cases c with
  | leaf p | notLeaf p =>
    have hp := p.nesting_eq
    rw [nesting]
    omega
  | and left right | or left right =>
    have hleft := left.leafCount_pos
    have hright := right.leafCount_pos
    rw [leafCount] at h
    omega

/-- The value of a condition has as many levels as the condition nests. -/
theorem isSound_toJson (c : Condition) (levels : Nat) :
    c.toJson.isSound levels = true ↔ c.nesting ≤ levels := by
  induction c generalizing levels with
  | leaf p | notLeaf p =>
    show (Json.object [(some _, p.toJson)]).isSound levels = true
        ↔ p.nesting + 1 ≤ levels
    rw [Json.isSound_single, Predicate.isSound_toJson]
    simp only [Option.isSome_some, true_and]
    omega
  | and left right hleft hright | or left right hleft hright =>
    show (Json.object [(some _, .array [left.toJson, right.toJson])]).isSound
        levels = true
      ↔ max left.nesting right.nesting + 2 ≤ levels
    have htwo := left.two_le_nesting
    rw [Json.isSound_single, Json.isSound_pair, hleft, hright]
    simp only [Option.isSome_some, true_and]
    omega

/-- A condition reads back from its text, unless the text nests too deep to be
read at all. -/
theorem read?_text (c : Condition) :
    read? c.text = if c.nesting ≤ nestingLimit then some c else none := by
  rw [read?, Condition.text, Json.readSound?_compactText, ofJson?_toJson]
  simp only [isSound_toJson]

-- ============================================================ long joins

section Joined

variable {join : Condition → Condition → Condition}
  (hjoin : ∀ left right,
    (join left right).nesting = max left.nesting right.nesting + 2)
include hjoin

/-- Joined to the left, a condition nests two levels more for each that comes
after it. -/
theorem le_nesting_foldl (first : Condition) (rest : List Condition) :
    first.nesting + 2 * rest.length ≤ (rest.foldl join first).nesting := by
  induction rest generalizing first with
  | nil => exact Nat.le_refl _
  | cons c rest ih =>
    have hfirst := hjoin first c
    have hrest := ih (join first c)
    simp only [List.foldl_cons, List.length_cons]
    omega

/-- Joining some conditions nests two levels deeper for each of them, at
most. -/
theorem nesting_foldl_le {bound : Nat} (first : Condition)
    (rest : List Condition) (hbound : ∀ c ∈ first :: rest, c.nesting ≤ bound) :
    (rest.foldl join first).nesting ≤ bound + 2 * rest.length := by
  induction rest generalizing first bound with
  | nil => exact hbound first List.mem_cons_self
  | cons c rest ih =>
    -- the first two joined are one operand, two levels deeper
    have hjoined : ∀ d ∈ join first c :: rest, d.nesting ≤ bound + 2 := by
      intro d hd
      obtain rfl | hd := List.mem_cons.1 hd
      · have hfirst := hbound first (by simp)
        have hc := hbound c (by simp)
        rw [hjoin]
        omega
      · have hd := hbound d (by simp [hd])
        omega
    have hrest := ih (join first c) hjoined
    simp only [List.foldl_cons, List.length_cons]
    omega

end Joined

/-- Conditions joined by `all?` or `any?` nest at least two levels each, and
leaves no more than one more. -/
theorem nesting_of_joined {cs : List Condition} {c : Condition}
    (h : all? cs = some c ∨ any? cs = some c) :
    2 * cs.length ≤ c.nesting
      ∧ ((∀ d ∈ cs, d.leafCount = 1) → c.nesting ≤ 2 * cs.length + 1) := by
  obtain ⟨join, hjoin, first, rest, rfl, rfl⟩ :
      ∃ join : Condition → Condition → Condition,
        (∀ left right,
          (join left right).nesting = max left.nesting right.nesting + 2)
          ∧ ∃ first rest, cs = first :: rest ∧ c = rest.foldl join first := by
    cases cs with
    | nil => obtain h | h := h <;> cases h
    | cons first rest =>
      obtain h | h := h
      · exact ⟨.and, fun _ _ => rfl, first, rest, rfl,
          (Option.some.inj h).symm⟩
      · exact ⟨.or, fun _ _ => rfl, first, rest, rfl, (Option.some.inj h).symm⟩
  refine ⟨?_, fun hleaves => ?_⟩
  · have hfirst := first.two_le_nesting
    have hle := le_nesting_foldl hjoin first rest
    rw [List.length_cons]
    omega
  · have hle := nesting_foldl_le hjoin first rest fun d hd =>
        nesting_le_of_leafCount (hleaves d hd)
    rw [List.length_cons]
    omega

/-- A condition reads back from its text as itself exactly if the text nests no
deeper than the limit, and is refused otherwise. Of conditions joined by `all?`
or `any?` that leaves room for sixty-three, and for as many if they are
leaves. -/
theorem survives_shipping (c : Condition) :
    (read? c.text = some c ↔ c.nesting ≤ nestingLimit)
      ∧ (nestingLimit < c.nesting → read? c.text = none)
      ∧ ∀ cs : List Condition, all? cs = some c ∨ any? cs = some c →
        (63 < cs.length → read? c.text = none)
          ∧ ((∀ d ∈ cs, d.leafCount = 1) → cs.length ≤ 63 →
            read? c.text = some c) := by
  have hsome : c.nesting ≤ nestingLimit → read? c.text = some c := by
    intro hc
    rw [read?_text, if_pos hc]
  have hnone : nestingLimit < c.nesting → read? c.text = none := by
    intro hc
    rw [read?_text, if_neg (Nat.not_le.2 hc)]
  refine ⟨⟨fun hread => ?_, hsome⟩, hnone, fun cs hjoined => ?_⟩
  · refine Nat.not_lt.1 fun hc => ?_
    rw [hnone hc] at hread
    cases hread
  · obtain ⟨hdeep, hflat⟩ := nesting_of_joined hjoined
    rw [nestingLimit] at hsome hnone
    exact ⟨fun hlength => hnone (by omega), fun hleaves hlength =>
      hsome (Nat.le_trans (hflat hleaves) (by omega))⟩

end Condition

/-- Three leaves with quotes, a control character, letters outside the basic
plane and lists survive; the condition nests seven levels. -/
theorem survives_shipping_three_leaves :
    let nick : Condition :=
  .leaf (.attribute "gr\u00f6\u00dfe \"\\" .ilike (some "\x01\n😀/%"))
    let friends : Condition := .notLeaf (.relationship ["u1", "", "\t"])
    let named : Condition := .leaf (.field "username" .isNotNull none)
    let all : Condition := .and (.and nick friends) named
    Condition.all? [nick, friends, named] = some all
      ∧ (∀ d ∈ [nick, friends, named], d.leafCount = 1)
      ∧ Condition.read? all.text = some all := by
  intro nick friends named all
  have hleaves : ∀ d ∈ [nick, friends, named], d.leafCount = 1 := by
    simp [nick, friends, named, Condition.leafCount]
  have hships := (Condition.survives_shipping all).2.2 [nick, friends,
      named] (.inl rfl)
  exact ⟨rfl, hleaves, hships.2 hleaves (by decide)⟩

/-- A conjunction of sixty-four leaves is refused when its own text is read. -/
theorem long_conjunction_is_refused :
    ∃ c, Condition.all? (List.replicate 64 (.leaf (.role "a"))) = some c
      ∧ Condition.read? c.text = none := by
  obtain ⟨c, hc⟩ : ∃ c,
      Condition.all? (List.replicate 64 (.leaf (.role "a"))) = some c :=
    ⟨_, rfl⟩
  have hdeep := (Condition.nesting_of_joined (.inl hc)).1
  rw [List.length_replicate] at hdeep
  refine ⟨c, hc, ?_⟩
  rw [Condition.read?_text, if_neg (by rw [nestingLimit]; omega)]

end IdentitySearch
