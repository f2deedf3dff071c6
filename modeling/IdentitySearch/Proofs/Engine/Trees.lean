/-
What a condition tree finds. A conjunction finds what both parts find. A
disjunction reads the view that its leftmost leaf is asked of, and finds what
the left part finds and, of what the right part finds, only what that view
lists. So it is the union of both parts exactly if that view lists whatever the
right part alone finds, as the core fields always do; an attribute does not,
and then identities without any attribute of that sort are lost
(`or_loses_unlisted`).

Along a tree this gives what a whole condition finds from what its leaves find.

# Parts and wholes

The parts of a condition are asked by requests of their own, under the same
scopes and in the same session. Three things make them comparable.

- A whole that is accepted has parts that are (`accepts_of_within`), and a
  whole of accepted parts can only be refused for its height
  (`accepts_join_iff`). So the answers to the parts may be spoken of whenever
  the whole is answered.
- All of them are prepared with one restriction and in one dialect, for what
  the scopes grant does not depend on the condition. Who passes it passes it in
  all three searches (`answers_join`), and the restriction cancels.
- What is left is the rule of joining two selections, with the view of the
  leftmost leaf for that of the left selection.

For a tree this is an induction: it finds what its leaves find, with the right
side of each OR cut down to the view at its left end (`finds_iff_reaches`).
Where these views are the core fields nothing is cut, and the tree is evaluated
as it is written.
-/
import IdentitySearch.Proofs.Engine.Requests

namespace IdentitySearch

open Outcome

-- ============================================================== answers

namespace Engine

/-- A search for everything that meets a condition answers these keys. -/
def Answers (e : Engine) (r : Request) (s : Session) (c : Condition)
    (keys : List String) : Prop :=
  (e.search { r with condition := c } .unpaged s).1 = .ok keys

/-- Neither directory nor store fails in a search for what meets a condition,
and the condition fits the catalog. -/
def Accepts (e : Engine) (r : Request) (s : Session) (c : Condition) : Prop :=
  (e.fetch { r with condition := c } .unpaged s).1.isOk = true

/-- An identity is among the answers. -/
def Finds (e : Engine) (r : Request) (s : Session) (c : Condition)
    (key : String) : Prop :=
  ∃ keys, e.Answers r s c keys ∧ key ∈ keys

end Engine

namespace Content

variable {c : Content} {d : Directory} {config : Config} {r : Request}
  {s : Session}

/-- Where a condition is accepted, so is every part of it. -/
theorem accepts_of_within {part whole : Condition}
    (hwithin : ∀ st : Setting, st.Within part whole)
    (h : (c.engineWith d config).Accepts r s whole) :
    (c.engineWith d config).Accepts r s part := by
  obtain ⟨p, hp, hanswer⟩ := isOk_fetch_unpaged_iff.1 h
  obtain ⟨f, dialect, t, hf, hd, ht, rfl⟩ :=
    (Engine.prepare_eq_ok_iff _ _ s p).1 hp
  obtain ⟨u, hu, hdemand⟩ := (hwithin _).foldl_and _ t ht
  refine isOk_fetch_unpaged_iff.2
    ⟨⟨⟨r.kind, u.selection, f.visibility⟩, u.optional⟩, ?_, ?_⟩
  · exact (Engine.prepare_eq_ok_iff _ _ s _).2 ⟨f, dialect, u, hf, hd, hu, rfl⟩
  · exact ⟨Nat.le_trans hdemand.query_nesting_le hanswer.nesting_le,
      fun v hv => hanswer.has v (hdemand.views_subset hv),
        hanswer.has_visibility⟩

/-- The answers to a condition, worked out, and how many they are. -/
theorem answers_of_keys (hdb : c.database.Consistent r.kind) {cond : Condition}
    {keys : List String} (h : (((c.engineWith d config).prepare
      { r with condition := cond } s).1.toOption.any fun p =>
      p.target.Answerable c.database ∧ p.target.keys c.database = keys)
        = true) :
    (c.engineWith d config).Answers r s cond keys
      ∧ ((c.engineWith d config).count { r with condition := cond } s).1
        = .ok keys.length := by
  cases hp :
    ((c.engineWith d config).prepare { r with condition := cond } s).1 with
  | error err =>
    rw [hp] at h
    cases h
  | ok p =>
    rw [hp] at h
    obtain ⟨hanswer, rfl⟩ := of_decide_eq_true h
    exact search_of_prepare (r := { r with condition := cond }) hdb hp hanswer

/-- An accepted condition is answered, and found are those who satisfy it and
pass what the scopes restrict the search to. -/
theorem answers_of_accepts (hdb : c.database.Consistent r.kind)
    {cond : Condition} (h : (c.engineWith d config).Accepts r s cond) :
    ∃ f dialect keys, ScopeFilter.make d r.base r.recursive r.scopes = .ok f
      ∧ ((c.engineWith d config).dialect s).1 = .ok dialect
      ∧ (c.engineWith d config).Answers r s cond keys ∧ keys.Nodup
      ∧ ((c.engineWith d config).count { r with condition := cond } s).1
        = .ok keys.length
      ∧ ((c.engineWith d config).setting r dialect).Compiles cond
      ∧ ∀ key, key ∈ keys ↔
          ((c.engineWith d config).setting r dialect).Satisfies c.database
              (f.restrict r.kind cond) key
            ∧ f.visibility.Shows c.database r.kind key := by
  obtain ⟨p, hp, hanswer⟩ := isOk_fetch_unpaged_iff.1 h
  obtain ⟨hkeys, hcount⟩ :=
    search_of_prepare (r := { r with condition := cond }) hdb hp hanswer
  have hkeyed := keyed_of_prepare (r := { r with condition := cond }) hdb hp
  obtain ⟨f, dialect, t, hf, hd, ht, rfl⟩ :=
    (Engine.prepare_eq_ok_iff _ _ s p).1 hp
  refine ⟨f, dialect, _, hf, hd, hkeys, Target.nodup_keys hkeyed, hcount, ?_,
    fun key => ?_⟩
  · obtain ⟨u, hu, -⟩ := Setting.within_foldl_and cond _ t ht
    exact ⟨u, hu⟩
  · rw [Target.mem_keys hkeyed]
    exact and_congr_left' (Setting.satisfies_iff_selects ht key).symm

-- ================================================================ pairs

/-- A whole of two accepted parts is accepted unless it is higher than the
store reads: nothing else can go wrong. -/
theorem accepts_join_iff (j : Connective) {a b : Condition}
    (ha : (c.engineWith d config).Accepts r s a)
    (hb : (c.engineWith d config).Accepts r s b) :
    ∃ p, ((c.engineWith d config).prepare
      { r with condition := .join j a b } s).1 = .ok p
      ∧ ((c.engineWith d config).Accepts r s (.join j a b)
        ↔ p.target.selection.query.nesting ≤ heightLimit) := by
  obtain ⟨pa, hpa, hanswerA⟩ := isOk_fetch_unpaged_iff.1 ha
  obtain ⟨pb, hpb, hanswerB⟩ := isOk_fetch_unpaged_iff.1 hb
  obtain ⟨f, dialect, ta, hf, hd, hta, rfl⟩ :=
    (Engine.prepare_eq_ok_iff _ _ s pa).1 hpa
  obtain ⟨f', dialect', tb, hf', hd', htb, rfl⟩ :=
    (Engine.prepare_eq_ok_iff _ _ s pb).1 hpb
  cases hf.symm.trans hf'
  cases hd.symm.trans hd'
  obtain ⟨t, ht, hviews⟩ :=
    (Setting.splits_join _ j a b).foldl_and _ ta tb hta htb
  have hp :
      ((c.engineWith d config).prepare { r with condition := .join j a b } s).1
      = .ok ⟨⟨r.kind, t.selection, f.visibility⟩, t.optional⟩ :=
    (Engine.prepare_eq_ok_iff _ _ s _).2 ⟨f, dialect, t, hf, hd, ht, rfl⟩
  refine ⟨_, hp, ?_⟩
  constructor
  · intro h
    obtain ⟨p, hp', hanswer⟩ := isOk_fetch_unpaged_iff.1 h
    cases hp.symm.trans hp'
    exact hanswer.nesting_le
  · intro hlow
    refine isOk_fetch_unpaged_iff.2 ⟨_, hp, hlow, fun v hv => ?_,
      hanswerA.has_visibility⟩
    -- a table that the whole asks for is one that a part asks for
    rcases List.mem_append.1 (hviews hv) with hin | hin
    · exact hanswerA.has v hin
    · exact hanswerB.has v hin

/-- The answers to a whole and to its two parts. Whatever the scopes restrict
the search to, it restricts all three to the same. -/
theorem answers_join (hdb : c.database.Consistent r.kind) (j : Connective)
    {a b : Condition} (h : (c.engineWith d config).Accepts r s (.join j a b)) :
    ∃ dialect, ∃ passes : String → Prop, ∃ left right keys,
      (c.engineWith d config).Answers r s a left
      ∧ (c.engineWith d config).Answers r s b right
      ∧ (c.engineWith d config).Answers r s (.join j a b) keys
      ∧ ((c.engineWith d config).setting r dialect).Compiles (.join j a b)
      ∧ ∀ key,
        (key ∈ left ↔ ((c.engineWith d config).setting r dialect).Satisfies
          c.database a key
            ∧ passes key)
        ∧ (key ∈ right ↔ ((c.engineWith d config).setting r dialect).Satisfies
          c.database b key
            ∧ passes key)
        ∧ (key ∈ keys
          ↔ ((c.engineWith d config).setting r dialect).Satisfies c.database
            (.join j a b) key ∧ passes key) := by
  have ha := accepts_of_within (fun st => st.within_join_left j a b) h
  have hb := accepts_of_within (fun st => st.within_join_right j a b) h
  obtain ⟨f, dialect, keys, hf, hd, hkeys, -, -, hcompiles, hmem⟩ :=
    answers_of_accepts hdb h
  obtain ⟨f₁, d₁, left, hf₁, hd₁, hleft, -, -, -, hmemLeft⟩ :=
    answers_of_accepts hdb ha
  obtain ⟨f₂, d₂, right, hf₂, hd₂, hright, -, -, -, hmemRight⟩ :=
    answers_of_accepts hdb hb
  cases hf.symm.trans hf₁
  cases hf.symm.trans hf₂
  cases hd.symm.trans hd₁
  cases hd.symm.trans hd₂
  simp only [ScopeFilter.restrict, Setting.satisfies_foldl_and, and_assoc]
    at hmem hmemLeft hmemRight
  exact ⟨dialect, _, left, right, keys, hleft, hright, hkeys, hcompiles,
    fun key => ⟨hmemLeft key, hmemRight key, hmem key⟩⟩

/-- A conjunction finds what both parts find. -/
theorem answers_and (hdb : c.database.Consistent r.kind) {a b : Condition}
    (h : (c.engineWith d config).Accepts r s (.and a b)) :
    ∃ left right keys, (c.engineWith d config).Answers r s a left
      ∧ (c.engineWith d config).Answers r s b right
      ∧ (c.engineWith d config).Answers r s (.and a b) keys
      ∧ ∀ key, key ∈ keys ↔ key ∈ left ∧ key ∈ right := by
  obtain ⟨dialect, passes, left, right, keys, hleft, hright, hkeys, -, hmem⟩ :=
    answers_join hdb .and h
  refine ⟨left, right, keys, hleft, hright, hkeys, fun key => ?_⟩
  obtain ⟨hmemLeft, hmemRight, hmemKeys⟩ := hmem key
  have hand := Setting.satisfies_and
      ((c.engineWith d config).setting r dialect) c.database a b key
  rw [hmemKeys, hmemLeft, hmemRight, Condition.join, hand]
  exact and_and_right

/-- A disjunction finds what the left part finds, and of the right part what
the view lists that the left part begins with. -/
theorem answers_or (hdb : c.database.Consistent r.kind) {a b : Condition}
    (h : (c.engineWith d config).Accepts r s (.or a b)) :
    ∃ left right keys, (c.engineWith d config).Answers r s a left
      ∧ (c.engineWith d config).Answers r s b right
      ∧ (c.engineWith d config).Answers r s (.or a b) keys
      ∧ ∀ key, key ∈ keys ↔
          key ∈ left ∨ c.database.Lists (r.kind.askedView d a.leftmost) key
            ∧ key ∈ right := by
  obtain ⟨dialect, passes, left, right, keys, hleft, hright, hkeys,
      hcompiles, hmem⟩ :=
    answers_join hdb .or h
  refine ⟨left, right, keys, hleft, hright, hkeys, fun key => ?_⟩
  obtain ⟨hmemLeft, hmemRight, hmemKeys⟩ := hmem key
  have hor := Setting.satisfies_or _ c.database hcompiles key
  have hview : ((c.engineWith d config).setting r dialect).firstView a
      = r.kind.askedView d a.leftmost := rfl
  rw [hmemKeys, hmemLeft, hmemRight, Condition.join, hor, hview, or_and_right,
    and_assoc]

-- ================================================================ trees

/-- What is found is what the answer lists. -/
theorem finds_iff {cond : Condition} {keys : List String}
    (h : (c.engineWith d config).Answers r s cond keys) (key : String) :
    (c.engineWith d config).Finds r s cond key ↔ key ∈ keys := by
  constructor
  · intro hgiven
    rcases hgiven with ⟨others, hothers, hkey⟩
    cases h.symm.trans hothers
    exact hkey
  · exact fun hkey => ⟨keys, h, hkey⟩

/-- Whoever is found is listed among the core fields. -/
theorem lists_of_finds (hdb : c.database.Consistent r.kind) {cond : Condition}
    {key : String} (h : (c.engineWith d config).Finds r s cond key) :
    c.database.Lists (.field r.kind) key := by
  obtain ⟨keys, hkeys, hkey⟩ := h
  obtain ⟨p, hp, hanswer⟩ :=
    isOk_fetch_unpaged_iff.1 (Engine.fetch_of_mem_search _ _ s hkeys hkey)
  cases hkeys.symm.trans
    (search_of_prepare (r := { r with condition := cond }) hdb hp hanswer).1
  rw [Target.mem_keys
    (keyed_of_prepare (r := { r with condition := cond }) hdb hp)] at hkey
  exact lists_of_includes (r := { r with condition := cond }) hdb hp hkey

/-- A tree finds what its leaves find, evaluated along the tree; each OR cuts
its right side down to the view that its left side begins with. -/
theorem finds_iff_reaches (hdb : c.database.Consistent r.kind)
    {cond : Condition} (h : (c.engineWith d config).Accepts r s cond)
    (key : String) :
    (c.engineWith d config).Finds r s cond key ↔
      cond.Reaches (fun leaf => c.database.Lists (r.kind.askedView d leaf) key)
        (fun leaf =>
          (c.engineWith d config).Finds r s (.ofLeaf leaf) key) := by
  induction cond with
  | leaf p | notLeaf p => exact Iff.rfl
  | and a b iha ihb =>
    obtain ⟨left, right, keys, hleft, hright, hkeys, hmem⟩ := answers_and hdb h
    rw [finds_iff hkeys, hmem, ← finds_iff hleft, ← finds_iff hright,
      iha (accepts_of_within (fun st => st.within_join_left .and a b) h),
      ihb (accepts_of_within (fun st => st.within_join_right .and a b) h),
        Condition.Reaches]
  | or a b iha ihb =>
    obtain ⟨left, right, keys, hleft, hright, hkeys, hmem⟩ := answers_or hdb h
    rw [finds_iff hkeys, hmem, ← finds_iff hleft, ← finds_iff hright,
      iha (accepts_of_within (fun st => st.within_join_left .or a b) h),
      ihb (accepts_of_within (fun st => st.within_join_right .or a b) h),
        Condition.Reaches]

/-- A tree is answered if its parts are, unless it is higher than the store
reads, and then so are its parts. AND is the intersection of what its parts
find. OR is their union exactly if whatever the right part alone finds is
listed by the view that the left part begins with. A whole tree is evaluated
over its leaves, each OR cut down in this way, and not cut down at all if every
OR begins with a leaf that is asked of the core fields. -/
theorem search_evaluates_tree (hdb : c.database.Consistent r.kind) :
    (∀ j a b, (c.engineWith d config).Accepts r s a →
      (c.engineWith d config).Accepts r s b →
      ∃ p, ((c.engineWith d config).prepare
        { r with condition := .join j a b } s).1 = .ok p
        ∧ ((c.engineWith d config).Accepts r s (.join j a b)
          ↔ p.target.selection.query.nesting ≤ heightLimit))
    ∧ (∀ a b, (c.engineWith d config).Accepts r s (.and a b) →
      ∃ left right keys, (c.engineWith d config).Answers r s a left
        ∧ (c.engineWith d config).Answers r s b right
        ∧ (c.engineWith d config).Answers r s (.and a b) keys
        ∧ ∀ key, key ∈ keys ↔ key ∈ left ∧ key ∈ right)
    ∧ (∀ a b, (c.engineWith d config).Accepts r s (.or a b) →
      ∃ left right keys, (c.engineWith d config).Answers r s a left
        ∧ (c.engineWith d config).Answers r s b right
        ∧ (c.engineWith d config).Answers r s (.or a b) keys
        ∧ (∀ key, key ∈ keys ↔
            key ∈ left ∨ c.database.Lists (r.kind.askedView d a.leftmost) key
              ∧ key ∈ right)
        ∧ ((∀ key, key ∈ keys ↔ key ∈ left ∨ key ∈ right) ↔
            ∀ key ∈ right, key ∉ left →
              c.database.Lists (r.kind.askedView d a.leftmost) key))
    ∧ ∀ cond, (c.engineWith d config).Accepts r s cond →
      ∃ keys, (c.engineWith d config).Answers r s cond keys
        ∧ (∀ key, key ∈ keys ↔
            cond.Reaches (fun leaf =>
                c.database.Lists (r.kind.askedView d leaf) key) (fun leaf =>
              (c.engineWith d config).Finds r s (.ofLeaf leaf) key))
        ∧ (cond.OrsBegin
          (fun leaf => r.kind.askedView d leaf = .field r.kind) →
            ∀ key, key ∈ keys ↔
              cond.Evaluates fun leaf =>
                (c.engineWith d config).Finds r s (.ofLeaf leaf) key) := by
  refine ⟨fun j a b ha hb => accepts_join_iff j ha hb,
    fun a b h => answers_and hdb h, fun a b h => ?_, fun cond h => ?_⟩
  · obtain ⟨left, right, keys, hleft, hright, hkeys, hmem⟩ := answers_or hdb h
    refine ⟨left, right, keys, hleft, hright, hkeys, hmem, ?_⟩
    simp only [hmem]
    constructor
    · intro hunion key hkey hnot
      rcases (hunion key).2 (.inr hkey) with hin | hin
      · exact absurd hin hnot
      · exact hin.1
    · intro hlisted key
      by_cases hin : key ∈ left
      · exact iff_of_true (.inl hin) (.inl hin)
      · exact or_congr_right
          (and_iff_right_of_imp fun hkey => hlisted key hkey hin)
  · obtain ⟨f, dialect, keys, -, -, hkeys, -, -, -, -⟩ :=
      answers_of_accepts hdb h
    have hreaches : ∀ key, key ∈ keys ↔ _ := fun key =>
      (finds_iff hkeys key).symm.trans (finds_iff_reaches hdb h key)
    refine ⟨keys, hkeys, hreaches, fun hbegin key => ?_⟩
    rw [hreaches]
    by_cases hlisted : c.database.Lists (.field r.kind) key
    · apply Condition.reaches_iff_of_begins
      refine hbegin.imp fun leaf hleaf => ?_
      rw [hleaf]
      exact hlisted
    · -- somebody who is no identity is found by no leaf
      refine ⟨Condition.evaluates_of_reaches, fun h => ?_⟩
      obtain ⟨leaf, hfound⟩ := Condition.exists_of_evaluates h
      exact absurd (lists_of_finds hdb hfound) hlisted

end Content

-- ============================================================ two users

namespace TwoUsers

/-- Two users, of whom one has an e-mail address and the other has no
attribute. -/
def content : Content where
  metadata := .fresh
  database :=
    (Database.blank.withTable (.field .user)
      (some [⟨[(.anyId, .text "u1"), (.username, .text "ann")]⟩,
        ⟨[(.anyId, .text "u2"), (.username, .text "bob")]⟩])).withTable
      (.attribute .user)
      (some [⟨[(.anyId, .text "u1"), (.schemaId, .text "email"),
        (.stringValue, .text "ann@x")]⟩])

/-- The one attribute there is. -/
def directory : Directory :=
  (MemoryDirectory.empty.addSchema
    { key := "email", type := .string }).directory

def engine : Engine := content.engineWith directory {}

/-- The user with this e-mail address. -/
def byEmail : Condition := .leaf (.attribute "email" .eq (some "ann@x"))

/-- The user of this name. -/
def byName : Condition := .leaf (.field "username" .eq (some "bob"))

/-- All users are asked for. -/
def request (c : Condition) : Request := ⟨⟨"r", "/"⟩, true, [], c, .user⟩

theorem consistent : content.database.Consistent .user := by
  decide

end TwoUsers

open TwoUsers in
/-- Read from the attributes, OR loses the user who has none: he is found by
the right part alone, and not by both together. -/
theorem or_loses_unlisted :
    content.database.Consistent .user
      ∧ engine.Answers (request byEmail) .start byEmail ["u1"]
      ∧ engine.Answers (request byEmail) .start byName ["u2"]
      ∧ engine.Answers (request byEmail) .start (.or byEmail byName) ["u1"]
      ∧ engine.Answers (request byEmail) .start (.or byName byEmail)
        ["u1", "u2"]
      ∧ ¬ ∀ key, key ∈ ["u1"] ↔ key ∈ ["u1"] ∨ key ∈ ["u2"] := by
  refine ⟨consistent, ?_, ?_, ?_, ?_, fun h => ?_⟩
  · exact (Content.answers_of_keys consistent rfl).1
  · exact (Content.answers_of_keys consistent rfl).1
  · exact (Content.answers_of_keys consistent rfl).1
  · exact (Content.answers_of_keys consistent rfl).1
  · have hlost := (h "u2").2 (.inr (List.mem_singleton.2 rfl))
    revert hlost
    decide

open TwoUsers in
/-- With the core field to the left, the same two leaves find whom they
should. -/
theorem search_evaluates_tree_two_users :
    content.database.Consistent .user
      ∧ engine.Accepts (request byName) .start (.or byName byEmail)
      ∧ (Condition.or byName byEmail).OrsBegin
          (fun leaf => Kind.askedView .user directory leaf = .field .user)
      ∧ ∃ keys, engine.Answers (request byName) .start
        (.or byName byEmail) keys
        ∧ ∀ key, key ∈ keys ↔ (Condition.or byName byEmail).Evaluates
            fun leaf =>
              engine.Finds (request byName) .start (.ofLeaf leaf) key := by
  have haccepts :
      engine.Accepts (request byName) .start (.or byName byEmail) := rfl
  have hbegin : (Condition.or byName byEmail).OrsBegin
      fun leaf => Kind.askedView .user directory leaf = .field .user :=
    ⟨rfl, trivial, trivial⟩
  obtain ⟨keys, hkeys, -, hmem⟩ :=
    (Content.search_evaluates_tree (c := content) (d := directory)
      (r := request byName) (s := .start) consistent).2.2.2 _ haccepts
  exact ⟨consistent, haccepts, hbegin, keys, hkeys, hmem hbegin⟩

end IdentitySearch
