/-
The order of realm paths. Below a path lies what begins with it and a slash,
and below the root what begins with a slash (`below`); so a path lies at or
below another one if it is that one or begins so (`isUnder_iff`). Beginnings of
one text form a chain, and hence the paths that one path lies under do
(`isUnder_or_isUnder`): realms form a forest, whatever their names are. A path
that is made of segments lies under another one exactly if the segments of the
other one come first in it (`isUnder_pathTo_iff`).

The laws of the order hold for all texts, paths or not, the empty one included:
nothing but itself and what begins with a slash lies under it
(`isUnder_empty_iff`). That the order is antisymmetric needs no care about the
root, as no text begins with itself and something more.

Segments come in at the end. A path of segments is the root, or each segment
with a slash before it (`pathTo`), so below it begins what begins with its
segments and one slash more, the root included (`below_pathTo`). Since a
segment has no slash in it and is not empty, a text of segments falls apart in
one way only (`append_slash_isPrefix_iff`), and beginnings of texts become
beginnings of lists.
-/
import Mathlib.Data.List.Infix
import IdentitySearch.Realm

namespace IdentitySearch.Realm

-- ============================================================== beginnings

/-- What the paths below a path begin with. -/
def below (path : String) : List Char :=
  if path = rootPath then ['/'] else path.toList ++ ['/']

/-- A path begins with a slash. -/
theorem isPath_iff (path : String) :
    isPath path = true ↔ ['/'] <+: path.toList := by
  unfold isPath
  cases path.toList with
  | nil => simp
  | cons c rest => simp [eq_comm]

/-- What lies below a path begins with the path. -/
theorem isPrefix_below (path : String) : path.toList <+: below path := by
  unfold below
  split
  · next hroot =>
    rw [hroot]
    exact List.prefix_rfl
  · exact List.prefix_append _ _

/-- A path lies at or below another one if it is that one or begins as all do
below it. -/
theorem isUnder_iff {path ancestor : String} :
    isUnder path ancestor = true
      ↔ path = ancestor ∨ below ancestor <+: path.toList := by
  unfold isUnder below
  by_cases hroot : ancestor = rootPath
  · rw [if_pos hroot, if_pos hroot, isPath_iff]
    refine (or_iff_right_of_imp fun h => ?_).symm
    rw [h, hroot]
    exact List.prefix_rfl
  · rw [if_neg hroot, if_neg hroot]
    constructor
    · intro h
      split at h
      · cases h
      · next rest hafter =>
        have happend := Text.eq_append_of_after? hafter
        cases rest with
        | nil =>
          rw [List.append_nil] at happend
          exact .inl (String.toList_inj.1 happend)
        | cons c rest =>
          have hc : c = '/' := by simpa using h
          subst hc
          exact .inr ⟨rest, by simp [happend]⟩
    · intro h
      rcases h with rfl | ⟨rest, hrest⟩
      · have hafter := Text.after?_append path.toList []
        rw [List.append_nil] at hafter
        rw [hafter]
        rfl
      · rw [← hrest, List.append_assoc, Text.after?_append]
        rfl

/-- Over everything but the empty text this is to say that what begins the
paths below the ancestor begins those below the path. -/
theorem isUnder_iff_of_ne {path ancestor : String} (h : path ≠ "") :
    isUnder path ancestor = true ↔ below ancestor <+: below path := by
  rw [isUnder_iff]
  constructor
  · intro hgiven
    rcases hgiven with rfl | hbegins
    · exact List.prefix_rfl
    · exact hbegins.trans (isPrefix_below path)
  · intro hbegins
    by_cases hroot : path = rootPath
    · subst hroot
      exact .inr hbegins
    · have hpath : below path = path.toList ++ ['/'] := if_neg hroot
      rw [hpath, List.prefix_concat_iff] at hbegins
      rcases hbegins with heq | hbegins
      · left
        by_cases hancestor : ancestor = rootPath
        · have hempty : path.toList = [] := by
            simpa [below, hancestor] using heq
          exact absurd (String.toList_inj.1 hempty) h
        · rw [below, if_neg hancestor] at heq
          exact (String.toList_inj.1 (List.append_cancel_right heq)).symm
      · exact .inr hbegins

-- =================================================================== order

/-- A path lies at itself. -/
theorem isUnder_refl (path : String) : isUnder path path = true :=
  isUnder_iff.2 (.inl rfl)

/-- The order is transitive. -/
theorem isUnder_trans {a b c : String} (hab : isUnder a b = true)
    (hbc : isUnder b c = true) :
    isUnder a c = true := by
  rcases isUnder_iff.1 hab with rfl | hab
  · exact hbc
  · rcases isUnder_iff.1 hbc with rfl | hbc
    · exact isUnder_iff.2 (.inr hab)
    · exact isUnder_iff.2 (.inr ((hbc.trans (isPrefix_below b)).trans hab))

/-- Two paths that lie under each other are the same. -/
theorem isUnder_antisymm {a b : String} (hab : isUnder a b = true)
    (hba : isUnder b a = true) :
    a = b := by
  rcases isUnder_iff.1 hab with rfl | hab
  · rfl
  · rcases isUnder_iff.1 hba with rfl | hba
    · rfl
    · -- each begins with the other one, so neither is longer
      have hbegins : a.toList <+: b.toList := (isPrefix_below a).trans hba
      have hlonger := ((isPrefix_below b).trans hab).length_le
      exact String.toList_inj.1 (hbegins.eq_of_length_le hlonger)

/-- Under the empty text lie the paths, and itself. -/
theorem isUnder_empty_iff (path : String) :
    isUnder path "" = true ↔ path = "" ∨ isPath path = true := by
  rw [isUnder_iff, isPath_iff]
  rfl

/-- Paths are comparable if what begins the paths below them is. -/
theorem isUnder_or_of_isPrefix {a b : String} (h : below a <+: below b) :
    isUnder a b = true ∨ isUnder b a = true := by
  by_cases hb : b = ""
  · -- the empty text has the same paths below it as the root, which is one
    -- of them
    subst hb
    left
    rw [isUnder_empty_iff]
    by_cases hroot : a = rootPath
    · rw [hroot]
      exact .inr (by decide)
    · rw [below, if_neg hroot] at h
      have hlength := h.length_le
      rw [List.length_append] at hlength
      have hnone : a.toList = [] :=
        List.eq_nil_of_length_eq_zero (by simpa [below] using hlength)
      exact .inl (String.toList_inj.1 hnone)
  · exact .inr ((isUnder_iff_of_ne hb).2 h)

/-- The paths that one path lies under form a chain. -/
theorem isUnder_or_isUnder {a b c : String} (hab : isUnder a b = true)
    (hac : isUnder a c = true) : isUnder b c = true ∨ isUnder c b = true := by
  rcases isUnder_iff.1 hab with rfl | hab
  · exact .inl hac
  · rcases isUnder_iff.1 hac with rfl | hac
    · exact .inr (isUnder_iff.2 (.inr hab))
    · rcases List.prefix_or_prefix_of_prefix hab hac with h | h
      · exact isUnder_or_of_isPrefix h
      · exact (isUnder_or_of_isPrefix h).symm

/-- Over a path there are paths, and the empty text. -/
theorem isPath_of_isUnder {path scope : String} (hpath : isPath path = true)
    (h : isUnder path scope = true) : isPath scope = true ∨ scope = "" := by
  rcases isUnder_iff.1 h with rfl | h
  · exact .inl hpath
  · obtain ⟨rest, hrest⟩ := (isPrefix_below scope).trans h
    unfold isPath at hpath ⊢
    rw [← hrest] at hpath
    cases hscope : scope.toList with
    | nil => exact .inr (String.toList_inj.1 hscope)
    | cons c more =>
      rw [hscope] at hpath
      exact .inl hpath

-- ================================================================ segments

/-- A text that may stand between two slashes. -/
structure IsSegment (s : String) : Prop where
  ne_empty : s ≠ ""
  unmarked : '/' ∉ s.toList

instance (s : String) : Decidable (IsSegment s) :=
  decidable_of_iff (s ≠ "" ∧ '/' ∉ s.toList) ⟨fun h => ⟨h.1, h.2⟩,
    fun h => ⟨h.1, h.2⟩⟩

/-- Segments, each after a slash. -/
def slashed (segments : List String) : List Char :=
  segments.flatMap fun s => '/' :: s.toList

/-- The path that leads over some segments. -/
def pathTo (segments : List String) : String :=
  if segments = [] then rootPath else String.ofList (slashed segments)

/-- What is slashed begins with a slash, if another one comes after it. -/
theorem exists_slashed_eq_cons (segments : List String) :
    ∃ rest, slashed segments ++ ['/'] = '/' :: rest := by
  cases segments with
  | nil => exact ⟨[], rfl⟩
  | cons s more => exact ⟨s.toList ++ slashed more ++ ['/'], by simp [slashed]⟩

/-- Up to its first slash a text is compared on its own. -/
theorem append_slash_isPrefix_iff {s t x y : List Char} (hs : '/' ∉ s)
    (ht : '/' ∉ t) :
    s ++ '/' :: x <+: t ++ '/' :: y ↔ s = t ∧ x <+: y := by
  induction s generalizing t with
  | nil =>
    cases t with
    | nil => simp
    | cons d t =>
      rw [List.mem_cons, not_or] at ht
      simp [ht.1]
  | cons c s ih =>
    rw [List.mem_cons, not_or] at hs
    cases t with
    | nil => simp [Ne.symm hs.1]
    | cons d t =>
      rw [List.mem_cons, not_or] at ht
      simp only [List.cons_append, List.cons_prefix_cons, ih hs.2 ht.2,
        List.cons.injEq, and_assoc]

variable {segments others : List String}

/-- Below a path of segments lies what has a slash after them. -/
theorem below_pathTo (h : ∀ s ∈ segments, IsSegment s) :
    below (pathTo segments) = slashed segments ++ ['/'] := by
  unfold pathTo
  split
  · next hnone =>
    subst hnone
    rfl
  · next hsome =>
    obtain ⟨s, more, rfl⟩ := List.exists_cons_of_ne_nil hsome
    have hs : s.toList ≠ [] := fun hempty =>
      (h s List.mem_cons_self).ne_empty (String.toList_inj.1 hempty)
    have hroot : String.ofList (slashed (s :: more)) ≠ rootPath := by
      intro heq
      have hchars : slashed (s :: more) = ['/'] := by
        rw [← String.toList_ofList (l := slashed (s :: more)), heq]
        rfl
      simp [slashed, hs] at hchars
    rw [below, if_neg hroot, String.toList_ofList]

/-- Segments begin with others exactly if their slashed texts do. -/
theorem slashed_isPrefix_iff (hsegments : ∀ s ∈ segments, IsSegment s)
    (hothers : ∀ s ∈ others, IsSegment s) :
    slashed others ++ ['/'] <+: slashed segments ++ ['/']
      ↔ others <+: segments := by
  induction others generalizing segments with
  | nil =>
    obtain ⟨rest, hrest⟩ := exists_slashed_eq_cons segments
    rw [hrest]
    simp [slashed]
  | cons s others ih =>
    rw [List.forall_mem_cons] at hothers
    cases segments with
    | nil =>
      have hs : s.toList ≠ [] :=
        fun hempty => hothers.1.ne_empty (String.toList_inj.1 hempty)
      simp [slashed, hs]
    | cons t segments =>
      rw [List.forall_mem_cons] at hsegments
      obtain ⟨x, hx⟩ := exists_slashed_eq_cons others
      obtain ⟨y, hy⟩ := exists_slashed_eq_cons segments
      have hfirst : ∀ (u : String) (more : List String),
          slashed (u :: more) ++ ['/']
          = '/' :: (u.toList ++ (slashed more ++ ['/'])) :=
            fun u more => by simp [slashed]
      rw [hfirst, hfirst, List.cons_prefix_cons, List.cons_prefix_cons,
        ← ih hsegments.2 hothers.2, hx, hy,
          append_slash_isPrefix_iff hothers.1.unmarked hsegments.1.unmarked,
        List.cons_prefix_cons, String.toList_inj]
      simp

/-- What is made of segments is a path. -/
theorem isPath_pathTo (segments : List String) :
    isPath (pathTo segments) = true := by
  unfold pathTo
  split
  · decide
  · next hsome =>
    obtain ⟨s, more, rfl⟩ := List.exists_cons_of_ne_nil hsome
    simp [isPath, slashed]

/-- A path lies under another one exactly if the segments of that one come
first in it. -/
theorem isUnder_pathTo_iff (hsegments : ∀ s ∈ segments, IsSegment s)
    (hothers : ∀ s ∈ others, IsSegment s) :
    isUnder (pathTo segments) (pathTo others) = true
      ↔ others <+: segments := by
  have hne : pathTo segments ≠ "" := fun hempty => by
    have hpath := isPath_pathTo segments
    rw [hempty] at hpath
    cases hpath
  rw [isUnder_iff_of_ne hne, below_pathTo hsegments, below_pathTo hothers,
    slashed_isPrefix_iff hsegments hothers]

end IdentitySearch.Realm
