/-
What queries demand of a database: the views that they read, and room for the
heights of their conditions. Two selections together demand at least what each
of them demands (`Within`), and so do they with the same conjunct after each;
so a database that answers a whole answers each of its parts.

Height is counted in two parts, since ORs grow to the left and a run of ANDs at
the end is counted by itself (`OpenHeight`). What is needed of it is little:
both parts are below the height (`closed_le_height`, `run_le_height`), and the
height does not shrink where something is joined (`height_le_join`,
`right_height_le_join`). A run without OR is as high as it is long
(`height_eq_run_of_isRun`).
-/
import IdentitySearch.Sql.Height
import IdentitySearch.Proofs.Sql.Selections

namespace IdentitySearch

/-- A view is there, with rows or without. -/
def Database.Has (db : Database) (v : View) : Prop :=
  (db.table? v).isSome = true

instance (db : Database) (v : View) : Decidable (db.Has v) :=
  inferInstanceAs (Decidable ((db.table? v).isSome = true))

-- ============================================================= heights

namespace OpenHeight

/-- What goes on to the right only grows. -/
theorem height_mono (closed : Nat) {r₁ r₂ : Nat} (h : r₁ ≤ r₂) :
    OpenHeight.height ⟨closed, r₁⟩ ≤ OpenHeight.height ⟨closed, r₂⟩ := by
  simp only [height]
  split <;> omega

/-- What is closed is below the height, -/
theorem closed_le_height (closed run : Nat) :
    closed ≤ OpenHeight.height ⟨closed, run⟩ := by
  simp only [height]
  split <;> omega

/-- and so is the run at its end. -/
theorem run_le_height (closed run : Nat) :
    run ≤ OpenHeight.height ⟨closed, run⟩ := by
  simp only [height]
  split <;> omega

end OpenHeight

namespace Formula

variable (left : Formula) (c : Connective) (right : Atom)

/-- A conjunct or disjunct more makes a condition no lower. -/
theorem height_le_join : left.height ≤ (left.join c right).height := by
  cases c with
  | and =>
    show _ ≤ OpenHeight.height ⟨left.openHeight.closed,
        max left.openHeight.run right.height + 1⟩
    exact OpenHeight.height_mono left.openHeight.closed (by omega)
  | or => exact OpenHeight.closed_le_height left.height right.height

/-- Neither is the condition lower than what is joined to it. -/
theorem right_height_le_join : right.height ≤ (left.join c right).height := by
  cases c with
  | and =>
    have hrun := OpenHeight.run_le_height left.openHeight.closed
      (max left.openHeight.run right.height + 1)
    show _ ≤ OpenHeight.height ⟨left.openHeight.closed,
        max left.openHeight.run right.height + 1⟩
    omega
  | or => exact OpenHeight.run_le_height left.height right.height

/-- A conjunction has closed nothing off. -/
theorem closed_eq_zero_of_isRun {f : Formula} (h : f.isRun = true) :
    f.openHeight.closed = 0 :=
  match f, h with
  | .atom _, _ => rfl
  | .join left .and _, h => closed_eq_zero_of_isRun (f := left) h

theorem height_eq_run_of_isRun {f : Formula} (h : f.isRun = true) :
    f.height = f.openHeight.run := by
  unfold height OpenHeight.height
  rw [if_pos (closed_eq_zero_of_isRun h)]

/-- With a conjunct more, a conjunction is one higher than the higher part. -/
theorem height_join_and {f : Formula} (h : f.isRun = true) :
    (f.join .and right).height = max f.height right.height + 1 := by
  rw [height_eq_run_of_isRun (f := f.join .and right) h,
    height_eq_run_of_isRun h]
  rfl

end Formula

-- ========================================================== selections

namespace Selection

/-- A selection demands no more than another one. -/
structure Within (part whole : Selection) : Prop where
  height_le : part.condition.height ≤ whole.condition.height
  nesting_le : part.condition.nesting ≤ whole.condition.nesting
  views_subset : part.query.views ⊆ whole.query.views

namespace Within

theorem refl (s : Selection) : s.Within s :=
  ⟨Nat.le_refl _, Nat.le_refl _, fun _ h => h⟩

/-- What a part of a part demands, the whole does. -/
theorem trans {r s t : Selection} (hrs : r.Within s) (hst : s.Within t) :
    r.Within t where
  height_le := Nat.le_trans hrs.height_le hst.height_le
  nesting_le := Nat.le_trans hrs.nesting_le hst.nesting_le
  views_subset := fun _ h => hst.views_subset (hrs.views_subset h)

/-- As queries the two compare like their conditions. -/
theorem query_nesting_le {part whole : Selection} (h : part.Within whole) :
    part.query.nesting ≤ whole.query.nesting :=
  Nat.add_le_add h.height_le h.nesting_le

end Within

variable (left : Selection) (c : Connective) (right : Selection)

/-- A combination is as high as the left condition with one atom more, -/
theorem height_combine :
    (left.combine c right).condition.height
      = (left.condition.join c (.keyIn false right.query)).height :=
  rfl

/-- nested as deeply as the deeper one of the left condition and the right
query, -/
theorem nesting_combine :
    (left.combine c right).condition.nesting
      = max left.condition.nesting right.query.nesting :=
  rfl

/-- and reads the views of both. -/
theorem views_combine :
    (left.combine c right).query.views
      = left.view :: (left.condition.views ++ right.query.views) :=
  rfl

/-- Together they read no view that neither of them reads. -/
theorem views_combine_subset {left right : Selection} {c : Connective}
    {views : List View} (hleft : left.query.views ⊆ views)
    (hright : right.query.views ⊆ views) :
    (left.combine c right).query.views ⊆ views := by
  have hboth : left.view :: left.condition.views ++ right.query.views
      ⊆ views :=
    List.append_subset.2 ⟨hleft, hright⟩
  exact hboth

/-- The left side demands no more than the combination, -/
theorem within_combine_left : left.Within (left.combine c right) where
  height_le := left.condition.height_le_join c _
  nesting_le := Nat.le_max_left _ _
  views_subset := by
    rw [views_combine]
    show left.view :: left.condition.views ⊆ _
    exact List.cons_subset_cons _ (List.subset_append_left _ _)

/-- and neither does the right one, which is nested in it. -/
theorem within_combine_right : right.Within (left.combine c right) where
  height_le := by
    have hjoin :=
      left.condition.right_height_le_join c (.keyIn false right.query)
    have hkey : (Atom.keyIn false right.query).height
        = right.condition.height + 1 := rfl
    rw [height_combine]
    omega
  nesting_le := by
    have hquery : right.query.nesting
        = right.condition.height + right.condition.nesting := rfl
    rw [nesting_combine]
    omega
  views_subset := by
    rw [views_combine]
    exact List.subset_cons_of_subset _ (List.subset_append_right _ _)

variable {left c right}

/-- The same conjunct after two selections leaves the one within the other. -/
theorem Within.combine_and {whole : Selection} (h : left.Within whole)
    (hleft : left.condition.isRun = true)
    (hwhole : whole.condition.isRun = true) :
    (left.combine .and right).Within (whole.combine .and right) where
  height_le := by
    have hheight := h.height_le
    rw [height_combine, height_combine, Formula.height_join_and _ hleft,
      Formula.height_join_and _ hwhole]
    omega
  nesting_le := by
    have hnesting := h.nesting_le
    rw [nesting_combine, nesting_combine]
    omega
  views_subset := by
    have hviews : left.view :: left.condition.views
        ⊆ whole.view :: whole.condition.views :=
      h.views_subset
    rw [views_combine, views_combine, ← List.cons_append, ← List.cons_append]
    exact List.append_subset.2
      ⟨fun _ hv => List.mem_append_left _ (hviews hv),
        List.subset_append_right _ _⟩

end Selection

end IdentitySearch
