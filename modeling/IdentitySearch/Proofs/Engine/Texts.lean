/-
No text of a caller becomes SQL. What a request asks for has a shape: the tree
of its condition, the core fields and kinds of attributes that are compared and
sorted by, how many keys are listed where, and how many realms, dynamic realms
and groups its scopes come to. Requests of the same shape are answered by
statements of the same text (`Engine.statements_read_alike`): literals, keys,
names of attributes, paths and scopes are bound, and never written.

The shape is that of the request and of its directory together, since an
attribute is written by the type and the columns of its schema, and not by its
name. The condition that is compiled is not the one that was sent: the scopes
are joined to it, and their groups come in as conditions of their own. So it
has to be shown of the filter of some scopes that it adds the same shape and
restricts in the same way (`ScopeFilter.SameShape.restrict`,
`ScopeFilter.SameShape.visibility`), whatever realms it lists. Where they list
no realm at all, everyone passes or nobody does (`visibility_cases`), and the
shape says which.

What remains is carried by the texts of statements: targets of one shape have
one text, and so have plans of one shape.
-/
import IdentitySearch.Proofs.Engine.Requests
import IdentitySearch.Proofs.Scope.Visibility
import IdentitySearch.Proofs.Statement.Texts
import IdentitySearch.Store.Content

namespace IdentitySearch

open Outcome

-- =============================================================== scopes

/-- One of some conditions and one of as many others have the same shape, if
those have. -/
theorem Condition.sameShape_any? {d₁ d₂ : Directory} {f g : String → Condition}
    (hall : ∀ k k', (f k).SameShape d₁ d₂ (g k')) {keys keys' : List String}
    (hlength : keys.length = keys'.length) :
    List.Forall₂ (Condition.SameShape d₁ d₂) (any? (keys.map f)).toList
      (any? (keys'.map g)).toList := by
  cases keys with
  | nil =>
    rw [List.length_eq_zero_iff.1 hlength.symm]
    exact .nil
  | cons k rest =>
    cases keys' with
    | nil => cases hlength
    | cons k' rest' =>
      have hrest := forall₂_map_of_length_eq hall (Nat.succ.inj hlength)
      exact .cons
        (List.rel_foldl (fun _ _ ha _ _ hb => ha.or hb) (hall k k') hrest) .nil

namespace ScopeFilter

/-- Two restrictions are to as many realms, dynamic realms and groups, and both
or neither hide everyone. -/
structure SameShape (f g : ScopeFilter) : Prop where
  realms : f.grants.realms.keys.length = g.grants.realms.keys.length
  dynRealms : f.grants.dynRealms.keys.length = g.grants.dynRealms.keys.length
  groups : f.grants.groups.keys.length = g.grants.groups.keys.length
  denies : f.visibility = .nobody ↔ g.visibility = .nobody

/-- Filters have the same shape by how many keys they list. -/
theorem sameShape_iff (f g : ScopeFilter) : f.SameShape g ↔
    f.grants.realms.keys.length = g.grants.realms.keys.length
      ∧ f.grants.dynRealms.keys.length = g.grants.dynRealms.keys.length
      ∧ f.grants.groups.keys.length = g.grants.groups.keys.length
      ∧ (f.visibility = .nobody ↔ g.visibility = .nobody) :=
  ⟨fun h => ⟨h.realms, h.dynRealms, h.groups, h.denies⟩,
    fun h => ⟨h.1, h.2.1, h.2.2.1, h.2.2.2⟩⟩

instance (f g : ScopeFilter) : Decidable (f.SameShape g) :=
  decidable_of_iff' _ (sameShape_iff f g)

/-- The realms that are granted are tested, if there are any; else everyone is
shown or nobody. -/
theorem visibility_cases {d : Directory} {base : Realm} {recursive : Bool}
    {scopes : List String} {f : ScopeFilter}
    (h : make d base recursive scopes = .ok f) :
    (f.grants.realms.keys ≠ [] ∧ f.visibility = .inRealms f.grants.realms.keys)
      ∨ (f.grants.realms.keys = []
        ∧ (f.visibility = .everyone ∨ f.visibility = .nobody)) := by
  by_cases hscopes : scopes = []
  · subst hscopes
    cases h
    exact .inr ⟨rfl, .inl rfl⟩
  · rw [visibility_of_make hscopes h]
    unfold Grants.visibility KeySet.isEmpty
    cases f.grants.realms.keys with
    | cons key more => exact .inl ⟨List.cons_ne_nil _ _, rfl⟩
    | nil =>
      refine .inr ⟨rfl, ?_⟩
      simp only [List.isEmpty_nil, Bool.not_true, Bool.false_eq_true, if_false]
      split
      · exact .inr rfl
      · exact .inl rfl

variable {d₁ d₂ : Directory} {f g : ScopeFilter}

/-- Filters of the same shape leave visibilities of the same shape, -/
theorem SameShape.visibility {base₁ base₂ : Realm}
    {recursive₁ recursive₂ : Bool} {scopes₁ scopes₂ : List String}
    (h : f.SameShape g) (hf : make d₁ base₁ recursive₁ scopes₁ = .ok f)
    (hg : make d₂ base₂ recursive₂ scopes₂ = .ok g) :
    f.visibility.SameShape g.visibility := by
  have hrealms : f.grants.realms.keys = [] ↔ g.grants.realms.keys = [] := by
    rw [← List.length_eq_zero_iff, ← List.length_eq_zero_iff, h.realms]
  have hdenies := h.denies
  -- without realms both are everyone or nobody, and nobody is nobody in both
  rcases visibility_cases hf with ⟨hsome, hv⟩ | ⟨hnone, hv⟩
  · rcases visibility_cases hg with ⟨-, hw⟩ | ⟨hnone, -⟩
    · rw [hv, hw]
      exact .inRealms h.realms
    · exact absurd (hrealms.2 hnone) hsome
  · rcases visibility_cases hg with ⟨hsome, -⟩ | ⟨-, hw⟩
    · exact absurd (hrealms.1 hnone) hsome
    · rcases hv with hv | hv <;> rcases hw with
        hw | hw <;> rw [hv, hw] at hdenies ⊢
      · exact .everyone
      · cases hdenies.2 rfl
      · cases hdenies.1 rfl
      · exact .nobody

/-- and ask for the owners of their groups in the same shape. -/
theorem sameShape_ownedBy (kind : Kind) (group group' : String) :
    (ownedBy kind group).SameShape d₁ d₂ (ownedBy kind group') := by
  unfold ownedBy
  by_cases hkind : kind = .group
  · simp only [hkind, if_true]
    exact .field "key" .eq _ _
  · simp only [hkind, if_false]
    exact .membership rfl

/-- What stands beside a condition has the same shape too. -/
theorem SameShape.restrict (h : f.SameShape g) (kind : Kind)
    {c₁ c₂ : Condition} (hc : c₁.SameShape d₁ d₂ c₂) :
    (f.restrict kind c₁).SameShape d₁ d₂ (g.restrict kind c₂) := by
  have hdynRealm :
      List.Forall₂ (Condition.SameShape d₁ d₂) f.dynRealmCondition?.toList
      g.dynRealmCondition?.toList :=
    Condition.sameShape_any? (fun k k' => .leaf (.dynRealm k k')) h.dynRealms
  have hgroup : List.Forall₂ (Condition.SameShape d₁ d₂)
      (f.groupCondition? kind).toList
      (g.groupCondition? kind).toList :=
    Condition.sameShape_any?
      (fun k k' => .leaf (sameShape_ownedBy kind k k')) h.groups
  exact List.rel_foldl (fun _ _ ha _ _ hb => ha.and hb) hc
    (List.rel_append hdynRealm hgroup)

end ScopeFilter

-- ============================================================= requests

/-- Two requests have the same shape: they are for one kind, with conditions of
the same shape and scopes that come to restrictions of the same shape. -/
structure Request.SameShape (d₁ d₂ : Directory) (r₁ r₂ : Request) : Prop where
  kind : r₁.kind = r₂.kind
  condition : r₁.condition.SameShape d₁ d₂ r₂.condition
  restriction : Relates ScopeFilter.SameShape
    (ScopeFilter.make d₁ r₁.base r₁.recursive r₁.scopes)
    (ScopeFilter.make d₂ r₂.base r₂.recursive r₂.scopes)

namespace Engine

variable {e₁ e₂ : Engine} {r₁ r₂ : Request} {s₁ s₂ : Session}
  (hdialect : (e₁.dialect s₁).1 = (e₂.dialect s₂).1)
  (hrequest : r₁.SameShape e₁.directory e₂.directory r₂)

include hdialect hrequest in
/-- Requests of the same shape are prepared to targets of the same shape. -/
theorem relates_prepare : Relates
    (fun p q => p.target.SameShape q.target ∧ p.optional = q.optional)
    (e₁.prepare r₁ s₁).1 (e₂.prepare r₂ s₂).1 := by
  intro p hp q hq
  obtain ⟨f, dialect, t, hf, hd, ht, rfl⟩ :=
    (prepare_eq_ok_iff e₁ r₁ s₁ p).1 hp
  obtain ⟨g, dialect', u, hg, hd', hu, rfl⟩ :=
    (prepare_eq_ok_iff e₂ r₂ s₂ q).1 hq
  have halike : (e₁.setting r₁ dialect).Alike (e₂.setting r₂ dialect') := by
    refine ⟨hrequest.kind, ?_⟩
    rw [hd, hd'] at hdialect
    exact Except.ok.inj hdialect
  have hfilter := hrequest.restriction f hf g hg
  have hcondition :
      (f.restrict r₁.kind r₁.condition).SameShape e₁.directory e₂.directory
      (g.restrict r₂.kind r₂.condition) := by
    rw [← hrequest.kind]
    exact hfilter.restrict r₁.kind hrequest.condition
  have htext := Setting.sameText_ofCondition halike hcondition t ht u hu
  exact ⟨⟨hrequest.kind, htext.selection, hfilter.visibility hf hg⟩,
    htext.optional⟩

include hdialect hrequest in
/-- Requests of the same shape are counted, and searched for in the same order,
by statements of the same text; they differ at most in what is bound. -/
theorem statements_read_alike {page₁ page₂ : PageRequest} (hsort : List.Forall₂
    (SortClause.SameShape r₁.kind e₁.directory e₂.directory) page₁.sort
      page₂.sort) :
    Relates (fun s t => s.statement.query.SameText t.statement.query)
        (e₁.countStatement r₁ s₁).1 (e₂.countStatement r₂ s₂).1
      ∧ Relates (fun s t => s.statement.query.SameText t.statement.query)
        (e₁.searchStatement r₁ page₁ s₁).1
          (e₂.searchStatement r₂ page₂ s₂).1 := by
  have hprepare := relates_prepare hdialect hrequest
  refine ⟨relates_map hprepare fun p q hpq => CountStatement.sameText hpq.1,
    ?_⟩
  refine relates_bind hprepare fun p q hpq => ?_
  obtain ⟨htarget, hoptional⟩ := hpq
  have hplans : Relates SortPlan.SameShape
      (SortPlan.make r₁.kind e₁.directory page₁.sort)
      (SortPlan.make r₂.kind e₂.directory page₂.sort) := by
    rw [← hrequest.kind]
    exact SortPlan.relates_make hsort
  refine relates_map hplans fun plan plan' hplan => ?_
  exact SearchStatement.sameText htarget hplan
    (congrArg₂ or hplan.optional hoptional)

end Engine

-- ========================================================= two requests

namespace TwoRequests

/-- An optional attribute of one text value. -/
def text (key : String) : Schema := { key := key, type := .string }

/-- Two realms, one below the other, and an attribute. -/
def engine (path below name : String) : Engine :=
  (⟨.fresh, .blank⟩ : Content).engineWith
    (((MemoryDirectory.empty.addRealm ⟨"r1", path⟩).addRealm
      ⟨"r2", below⟩).addSchema (text name)).directory {}

def plainEngine : Engine := engine "/even" "/even/two" "email"

/-- Its names look like SQL. -/
def oddEngine : Engine :=
  engine "/odd OR 1=1" "/odd OR 1=1/two" ") UNION SELECT"

/-- Who has an address, and is called like something or is in none of two
groups, on behalf of someone who holds a realm and owns a group. -/
def request (path group name literal pattern one other : String) :
    Request where
  base := ⟨"r0", "/"⟩
  recursive := true
  scopes := [path, path ++ "@" ++ group]
  condition := .and (.leaf (.attribute name .eq (some literal)))
    (.or (.leaf (.field "username" .like (some pattern)))
      (.notLeaf (.membership [one, other])))
  kind := .user

def plain : Request := request "/even" "g" "email" "ann@x" "a%" "g" "h"

def odd : Request :=
  request "/odd OR 1=1" ") OR (1=1" ") UNION SELECT" "? OR" "?"
    "; DROP TABLE" "WHERE "

/-- By an attribute, by key, and by what is neither field nor attribute. -/
def page (name unknown : String) : PageRequest where
  sort := [⟨name, .descending⟩, ⟨"key", .ascending⟩, ⟨unknown, .ascending⟩]

def plainPage : PageRequest := page "email" "none"

def oddPage : PageRequest := page ") UNION SELECT" "1 DESC;"

/-- The two requests have the same shape, -/
theorem sameShape :
    plain.SameShape plainEngine.directory oddEngine.directory odd := by
  refine ⟨rfl, .and (.leaf (.attribute _ _ _ ?_))
    (.or (.leaf (.field _ _ _ _)) (.notLeaf (.membership rfl))), by
      decide⟩
  intro a ha b hb
  cases ha
  cases hb
  exact ⟨rfl, rfl, rfl, rfl⟩

/-- and the two orders too, the unknown clause in both. -/
theorem sameShape_sort : List.Forall₂
    (SortClause.SameShape plain.kind plainEngine.directory oddEngine.directory)
    plainPage.sort oddPage.sort := by
  refine .cons ⟨rfl, ?_⟩ (.cons ⟨rfl, ?_⟩ (.cons ⟨rfl, ?_⟩ .nil))
  · exact relates_ok (.some (.attribute ⟨rfl, rfl, rfl, rfl⟩))
  · exact relates_ok (.some (.field _))
  · exact relates_ok .none

end TwoRequests

open TwoRequests in
/-- A request full of pieces of SQL is answered by the text of an ordinary one,
and binds other parameters. -/
theorem statements_read_alike_two_requests :
    (plainEngine.dialect .start).1 = (oddEngine.dialect .start).1
      ∧ plain.SameShape plainEngine.directory oddEngine.directory odd
      ∧ List.Forall₂ (SortClause.SameShape plain.kind plainEngine.directory
        oddEngine.directory) plainPage.sort oddPage.sort
      ∧ (∃ c c', (plainEngine.countStatement plain .start).1 = .ok c
          ∧ (oddEngine.countStatement odd .start).1 = .ok c'
          ∧ c.statement.query.text = c'.statement.query.text)
      ∧ ∃ t t', (plainEngine.searchStatement plain plainPage .start).1 = .ok t
          ∧ (oddEngine.searchStatement odd oddPage .start).1 = .ok t'
          ∧ t.statement.query.text = t'.statement.query.text
          ∧ t.statement.query.params ≠ t'.statement.query.params := by
  have hdialect : (plainEngine.dialect .start).1
      = (oddEngine.dialect .start).1 := rfl
  obtain ⟨hcount, hsearch⟩ :=
    Engine.statements_read_alike hdialect sameShape sameShape_sort
  obtain ⟨c, hc⟩ : ∃ c, (plainEngine.countStatement plain .start).1 = .ok c :=
    isOk_iff.1 (by decide)
  obtain ⟨c', hc'⟩ : ∃ c', (oddEngine.countStatement odd .start).1 = .ok c' :=
    isOk_iff.1 (by decide +kernel)
  obtain ⟨t, ht⟩ : ∃ t,
      (plainEngine.searchStatement plain plainPage .start).1 = .ok t :=
    isOk_iff.1 (by decide +kernel)
  obtain ⟨t', ht'⟩ : ∃ t',
      (oddEngine.searchStatement odd oddPage .start).1 = .ok t' :=
    isOk_iff.1 (by decide +kernel)
  have hparams :
      ((plainEngine.searchStatement plain plainPage .start).1.toOption.map
      fun t => t.statement.query.params)
        ≠ (oddEngine.searchStatement odd oddPage .start).1.toOption.map
        fun t => t.statement.query.params := by
    decide +kernel
  rw [ht, ht'] at hparams
  exact ⟨hdialect, sameShape, sameShape_sort,
    ⟨c, c', hc, hc', (hcount c hc c' hc').text⟩, t, t', ht, ht',
      (hsearch t ht t' ht').text, fun h => hparams (congrArg some h)⟩

end IdentitySearch
