/-
Lists without repetitions. Dropping the later ones among equal elements leaves
each element once; what has no repetitions is left as it is, and a list can be
cut in two and each part dealt with alone if nothing stands in both.

What is dropped is described in three ways, as it is needed. By what is kept: a
list without repetitions, a part of the original with the same elements, of the
same length only if nothing was dropped (`nodup_of_length_eraseDups`). By the
order: a sorted list stays sorted after repetitions of some feature are
dropped, since the first of those that share it is kept and nothing before it
comes later (`pairwise_eraseDups_map`). And step by step from the left, as an
element is kept or passed over (`KeepsFirst`), which is the form that says what
dropping does without the program that does it.
-/

namespace IdentitySearch.Distinct

variable {α : Type} [DecidableEq α]

/-- Nothing is left twice, -/
theorem nodup_eraseDups (l : List α) : l.eraseDups.Nodup :=
  match l with
  | [] => .nil
  | a :: rest => by
    rw [List.eraseDups_cons, List.nodup_cons, List.mem_eraseDups,
      List.mem_filter]
    refine ⟨fun h => ?_, nodup_eraseDups _⟩
    simpa using h.2
termination_by l.length
decreasing_by exact Nat.lt_succ_of_le (List.length_filter_le _ rest)

/-- what is left stands in the order in which it stood, -/
theorem eraseDups_sublist (l : List α) : l.eraseDups.Sublist l :=
  match l with
  | [] => .slnil
  | a :: rest => by
    rw [List.eraseDups_cons]
    exact .cons_cons a ((eraseDups_sublist _).trans List.filter_sublist)
termination_by l.length
decreasing_by exact Nat.lt_succ_of_le (List.length_filter_le _ rest)

/-- and nothing is dropped where nothing stands twice. -/
theorem eraseDups_of_nodup {l : List α} (h : l.Nodup) : l.eraseDups = l := by
  induction l with
  | nil => rfl
  | cons a rest ih =>
    rw [List.nodup_cons] at h
    have hrest : (rest.filter fun b => !b == a) = rest := by
      rw [List.filter_eq_self]
      intro b hb
      have hne : b ≠ a := fun hba => h.1 (hba ▸ hb)
      simpa using hne
    rw [List.eraseDups_cons, hrest, ih h.2]

/-- Where nothing is dropped, there are no repetitions. -/
theorem nodup_of_length_eraseDups {l : List α}
    (h : l.eraseDups.length = l.length) : l.Nodup := by
  rw [← (eraseDups_sublist l).eq_of_length h]
  exact nodup_eraseDups l

section Sorted

variable {β : Type} {R : β → β → Prop} {f : β → α}

/-- Among the elements of a sorted list with the same image, some come before
all. -/
theorem exists_first_of_pairwise {l : List β} (hrefl : ∀ x, R x x)
    (h : l.Pairwise R) {a : α} (ha : a ∈ l.map f) :
    ∃ x ∈ l, f x = a ∧ ∀ y ∈ l, f y = a → R x y := by
  induction l with
  | nil => cases ha
  | cons first rest ih =>
    rw [List.pairwise_cons] at h
    by_cases hfirst : f first = a
    · refine ⟨first, List.mem_cons_self, hfirst, fun y hy _ => ?_⟩
      rcases List.mem_cons.1 hy with rfl | hy
      · exact hrefl _
      · exact h.1 y hy
    · rw [List.map_cons, List.mem_cons, eq_comm, or_iff_right hfirst] at ha
      obtain ⟨x, hx, hxa, hbefore⟩ := ih h.2 ha
      refine ⟨x, List.mem_cons_of_mem _ hx, hxa, fun y hy hya => ?_⟩
      rcases List.mem_cons.1 hy with rfl | hy
      · exact absurd hya hfirst
      · exact hbefore y hy hya

/-- The different images of a sorted list stand in the order of their first
elements: one of those with the left image comes before all with the right
one. -/
theorem pairwise_eraseDups_map {l : List β} (h : l.Pairwise R) :
    (l.map f).eraseDups.Pairwise fun a b => ∃ x ∈ l, f x = a
      ∧ ∀ y ∈ l, f y = b → R x y :=
  match l, h with
  | [], _ => .nil
  | first :: rest, h => by
    rw [List.pairwise_cons] at h
    have hdrop : (rest.map f).filter (fun a => !a == f first)
        = (rest.filter fun x => !f x == f first).map f := List.filter_map
    rw [List.map_cons, List.eraseDups_cons, hdrop, List.pairwise_cons]
    -- what is left has other images than the first element
    have hother :
        ∀ b ∈ ((rest.filter fun x => !f x == f first).map f).eraseDups,
        b ≠ f first := by
      intro b hb
      rw [List.mem_eraseDups] at hb
      obtain ⟨x, hx, rfl⟩ := List.mem_map.1 hb
      simpa using (List.mem_filter.1 hx).2
    refine ⟨fun b hb => ⟨first, List.mem_cons_self, rfl, fun y hy hyb => ?_⟩,
      ?_⟩
    · rcases List.mem_cons.1 hy with rfl | hy
      · exact absurd hyb.symm (hother b hb)
      · exact h.1 y hy
    · refine (pairwise_eraseDups_map (h.2.filter _)).imp_of_mem
        fun {a b} _ hb hab => ?_
      obtain ⟨x, hx, hxa, hbefore⟩ := hab
      refine ⟨x, List.mem_cons_of_mem _ (List.mem_filter.1 hx).1, hxa,
        fun y hy hyb => ?_⟩
      have hne : f y ≠ f first := fun heq => hother b hb (hyb.symm.trans heq)
      rcases List.mem_cons.1 hy with rfl | hy
      · exact absurd rfl hne
      · exact hbefore y (List.mem_filter.2 ⟨hy, by simpa using hne⟩) hyb
termination_by l.length
decreasing_by exact Nat.lt_succ_of_le (List.length_filter_le _ rest)

end Sorted

/-- Two lists with nothing in common. -/
theorem eraseDups_append_of_disjoint {l m : List α} (h : ∀ a ∈ m, a ∉ l) :
    (l ++ m).eraseDups = l.eraseDups ++ m.eraseDups := by
  have hrest : m.removeAll l = m := by
    rw [List.removeAll, List.filter_eq_self]
    intro a ha
    simpa using h a ha
  rw [List.eraseDups_append, hrest]

/-- A list that adds nothing. -/
theorem eraseDups_append_of_subset {l m : List α} (h : ∀ a ∈ m, a ∈ l) :
    (l ++ m).eraseDups = l.eraseDups := by
  have hrest : m.removeAll l = [] := by
    rw [List.removeAll, List.filter_eq_nil_iff]
    intro a ha
    simpa using h a ha
  rw [List.eraseDups_append, hrest, List.eraseDups_nil, List.append_nil]

/-- Lists with the same elements have the same number of different ones. -/
theorem length_eraseDups_eq {l m : List α} (hm : m.Nodup)
    (h : ∀ a, a ∈ l ↔ a ∈ m) :
    l.eraseDups.length = m.length := by
  refine List.Perm.length_eq
    ((List.perm_ext_iff_of_nodup (nodup_eraseDups l) hm).2 fun a => ?_)
  rw [List.mem_eraseDups, h]

-- ==================================================== first occurrences

/-- The elements of a list where they occur first, as one who reads it from the
left and passes over what he has seen before keeps them. -/
inductive KeepsFirst : List α → List α → Prop
  | nil : KeepsFirst [] []
  | new {l kept : List α} {a : α} (h : KeepsFirst l kept) (ha : a ∉ l) :
    KeepsFirst (l ++ [a]) (kept ++ [a])
  | seen {l kept : List α} {a : α} (h : KeepsFirst l kept) (ha : a ∈ l) :
    KeepsFirst (l ++ [a]) kept

/-- Of each element the first occurrence is kept. -/
theorem keepsFirst_eraseDups (l : List α) : KeepsFirst l l.eraseDups := by
  -- lists are read from the left, so the induction takes the last element off
  rw [← List.reverse_reverse l]
  induction l.reverse with
  | nil => exact .nil
  | cons a rest ih =>
    rw [List.reverse_cons]
    by_cases ha : a ∈ rest.reverse
    · rw [eraseDups_append_of_subset (by simpa using ha)]
      exact .seen ih ha
    · rw [eraseDups_append_of_disjoint (by simpa using ha)]
      exact .new ih ha

end IdentitySearch.Distinct
