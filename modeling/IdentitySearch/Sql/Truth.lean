/-
The three truth values of SQL. A comparison with NULL is unknown; a row is kept
only where the condition holds, so what is unknown drops it.
-/

namespace IdentitySearch

/-- A truth value. -/
inductive Truth where
  | holds
  | fails
  | unknown
deriving DecidableEq

namespace Truth

/-- The truth value of a decided question. -/
def ofBool (b : Bool) : Truth :=
  if b then .holds else .fails

protected def not : Truth → Truth
  | .holds => .fails
  | .fails => .holds
  | .unknown => .unknown

/-- Conjunction: one failing side settles it. -/
protected def and : Truth → Truth → Truth
  | .fails, _ | _, .fails => .fails
  | .holds, .holds => .holds
  | _, _ => .unknown

/-- Disjunction: one holding side settles it. -/
protected def or : Truth → Truth → Truth
  | .holds, _ | _, .holds => .holds
  | .fails, .fails => .fails
  | _, _ => .unknown

/-- Whether a row is kept. -/
def isHolds (t : Truth) : Bool := t = .holds

/-- A conjunction holds if both sides do, -/
theorem and_eq_holds {s t : Truth} :
    s.and t = .holds ↔ s = .holds ∧ t = .holds := by
  cases s <;> cases t <;> simp [Truth.and]

/-- a disjunction if one side does, -/
theorem or_eq_holds {s t : Truth} :
    s.or t = .holds ↔ s = .holds ∨ t = .holds := by
  cases s <;> cases t <;> simp [Truth.or]

/-- and a negation if what is negated fails, which is more than not to hold. -/
theorem not_eq_holds {t : Truth} : t.not = .holds ↔ t = .fails := by
  cases t <;> simp [Truth.not]

/-- Negated twice a truth value is what it was. -/
theorem not_not (t : Truth) : t.not.not = t := by
  cases t <;> rfl

/-- A conjunction is negated side by side, -/
theorem not_and (s t : Truth) : (s.and t).not = s.not.or t.not := by
  cases s <;> cases t <;> rfl

/-- and a disjunction too, whatever is unknown. -/
theorem not_or (s t : Truth) : (s.or t).not = s.not.and t.not := by
  cases s <;> cases t <;> rfl

end Truth

end IdentitySearch
