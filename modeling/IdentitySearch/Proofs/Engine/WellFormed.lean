/-
Every statement that is built can be run. Whatever is asked for, in the SQL of
a compiled condition, of a count and of a search there is a value for every
placeholder, parentheses match, and the values are bound in the order of the
text: those of a condition leaf by leaf, those of a search first for the
condition, then for the sources that are joined to it, for the restrictions of
the sort items, and for the visibility (`Engine.statements_well_formed`).

That a statement is assembled from its parts in this order has been shown part
by part. What is said here of an engine is which parts these are for a given
request (`Engine.Builds`): the restriction that its scopes come to, the
condition that the restricted condition compiles to, and the plan of its sort.
For a compiled condition the values are also traced back to its leaves, each
with the values it would bind alone, and its text is seen to begin with the
query of a view, behind which a parenthesis can be opened
(`Setting.WellFormed`).
-/
import IdentitySearch.Proofs.Engine.Requests
import IdentitySearch.Proofs.Engine.Texts
import IdentitySearch.Proofs.Statement.WellFormed

namespace IdentitySearch

open Outcome

-- =========================================================== conditions

/-- The SQL of a compiled condition is well formed. It is assembled from the
conditions of its leaves from left to right, and it begins with the text that
selects keys from a view, behind which the first parenthesis opens. -/
structure Setting.WellFormed (s : Setting) (c : Condition)
    (t : ConditionSelection) : Prop where
  wellFormed : t.selection.fragment.WellFormed
  opening : t.selection.fragment
    = .ofText ("SELECT DISTINCT any_id FROM " ++ t.selection.view.sqlName
      ++ " WHERE ")
      ++ t.selection.condition.fragment
  condition : t.selection.condition.fragment.WellFormed
  opened : t.selection.fragment.openFirstWhere
    = .ofText ("SELECT DISTINCT any_id FROM " ++ t.selection.view.sqlName
      ++ " WHERE ")
      ++ .ofText "(" ++ t.selection.condition.fragment
  leaves : ∃ leaves : List PredicateSelection, s.ofLeaves c = .ok leaves
    ∧ t.selection.fragment.Assembled
      (leaves.map fun leaf => leaf.selection.condition.fragment)
    ∧ t.selection.fragment.params
      = leaves.flatMap fun leaf => leaf.selection.fragment.params

/-- What a condition compiles to is well formed, and bound leaf by leaf. -/
theorem Setting.wellFormed_ofCondition (s : Setting) {c : Condition}
    {t : ConditionSelection} (h : s.ofCondition c = .ok t) :
    s.WellFormed c t := by
  obtain ⟨leaves, hleaves, hbuilt⟩ := s.builtFromLeaves_ofCondition h
  have hassembled := (Selection.built_of_condition hbuilt).assembled
  refine ⟨hassembled.wellFormed, t.selection.fragment_eq_opening,
    t.selection.condition.nests.wellFormed,
    t.selection.openFirstWhere_eq_opening, leaves, hleaves, hassembled, ?_⟩
  rw [hassembled.params, List.flatMap_map]
  exact List.flatMap_congr fun leaf _ => leaf.selection.params_fragment.symm

-- ============================================================= requests

namespace Engine

/-- The compiled condition and the restriction of a request, under the dialect
of the engine's domain. -/
structure Builds (e : Engine) (r : Request) (s : Session) (f : ScopeFilter)
    (t : ConditionSelection) : Prop where
  filter : ScopeFilter.make e.directory r.base r.recursive r.scopes = .ok f
  condition : ∃ d, (e.dialect s).1 = .ok d
    ∧ (e.setting r d).ofCondition (f.restrict r.kind r.condition) = .ok t

variable (e : Engine) (r : Request) (page : PageRequest) (s : Session)

/-- A request that is prepared has parts to build statements of. -/
theorem builds_of_prepare {p : Prepared} (h : (e.prepare r s).1 = .ok p) :
    ∃ f t, e.Builds r s f t ∧ p = ⟨⟨r.kind, t.selection, f.visibility⟩,
      t.optional⟩ := by
  obtain ⟨f, d, t, hf, hd, ht, rfl⟩ := (e.prepare_eq_ok_iff r s p).1 h
  exact ⟨f, t, ⟨hf, d, hd, ht⟩, rfl⟩

/-- Whatever compiles, is counted or is searched for, its SQL is well formed
and binds its values in the order of its text. -/
theorem statements_well_formed :
    (∀ (setting : Setting) (c : Condition) t, setting.ofCondition c = .ok t →
      setting.WellFormed c t)
    ∧ (∀ statement, (e.countStatement r s).1 = .ok statement →
      statement.statement.query.WellFormed
        ∧ ∃ f t, e.Builds r s f t
          ∧ statement.statement.query.Assembled
            [t.selection.fragment, f.visibility.fragment r.kind])
    ∧ ∀ statement, (e.searchStatement r page s).1 = .ok statement →
      statement.statement.query.WellFormed
        ∧ ∃ f t plan, e.Builds r s f t
          ∧ SortPlan.make r.kind e.directory page.sort = .ok plan
          ∧ statement.statement.query.Assembled
            (t.selection.fragment :: (statement.sources.map Source.fragment
              ++ (plan.restrictions ++ [f.visibility.fragment r.kind])))
          ∧ statement.statement.query.params
            = t.selection.fragment.params
              ++ (statement.sources.flatMap fun source =>
                source.fragment.params)
              ++ plan.restrictions.flatMap Fragment.params
              ++ (f.visibility.fragment r.kind).params := by
  refine ⟨fun setting c t ht => ?_, fun statement hstatement => ?_,
    fun statement hstatement => ?_⟩
  · exact setting.wellFormed_ofCondition ht
  · obtain ⟨p, hp, rfl⟩ := map_eq_ok.1 hstatement
    obtain ⟨f, t, hbuilds, rfl⟩ := e.builds_of_prepare r s hp
    have hassembled :=
      CountStatement.assembled ⟨⟨r.kind, t.selection, f.visibility⟩⟩
    exact ⟨hassembled.wellFormed, f, t, hbuilds, hassembled⟩
  · obtain ⟨p, hp, hsearch⟩ := bind_eq_ok.1 hstatement
    obtain ⟨plan, hplan, rfl⟩ := map_eq_ok.1 hsearch
    obtain ⟨f, t, hbuilds, rfl⟩ := e.builds_of_prepare r s hp
    have hassembled := SearchStatement.assembled
      (e.statementFor page ⟨⟨r.kind, t.selection, f.visibility⟩,
        t.optional⟩ plan)
    refine ⟨hassembled.wellFormed, f, t, plan, hbuilds, hplan, hassembled, ?_⟩
    refine hassembled.params.trans ?_
    simp only [List.flatMap_cons, List.flatMap_append, List.flatMap_map,
      List.flatMap_nil, List.append_nil, List.append_assoc]
    rfl

end Engine

open TwoRequests in
/-- The condition binds its values first, then the sort binds names of
attributes, and the realms come last. -/
theorem statements_well_formed_plain :
    ∃ c t, (plainEngine.countStatement plain .start).1 = .ok c
      ∧ (plainEngine.searchStatement plain plainPage .start).1 = .ok t
      ∧ c.statement.query.WellFormed ∧ t.statement.query.WellFormed
      ∧ t.statement.query.params
        = ["email", "ann@x", "a%", "g", "h", "g", "h", "g", "g", "email",
          "email", "email", "email", "r1", "r2"].map .text := by
  obtain ⟨-, hcount, hsearch⟩ :=
    Engine.statements_well_formed plainEngine plain plainPage .start
  obtain ⟨c, hc⟩ : ∃ c, (plainEngine.countStatement plain .start).1 = .ok c :=
    isOk_iff.1 rfl
  obtain ⟨t, ht⟩ : ∃ t,
      (plainEngine.searchStatement plain plainPage .start).1 = .ok t :=
    isOk_iff.1 rfl
  have hparams :
      (plainEngine.searchStatement plain plainPage .start).1.toOption.map
      (fun t => t.statement.query.params)
        = some (["email", "ann@x", "a%", "g", "h", "g", "h", "g", "g", "email",
          "email", "email", "email", "r1", "r2"].map .text) := by
    decide +kernel
  rw [ht] at hparams
  exact ⟨c, t, hc, ht, (hcount c hc).1, (hsearch t ht).1,
    Option.some.inj hparams⟩

end IdentitySearch
