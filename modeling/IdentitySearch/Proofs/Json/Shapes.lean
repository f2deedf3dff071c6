/-
The shapes of JSON values, from both sides. What is written as a record or as a
list of texts has that shape and gives its fields back, whatever order they are
asked for in; and what is read by a shape is part of the value it is read from,
so it is sound when the whole is, one level of nesting deeper.

The first half is about writing: fields of different names are found by their
names (`valuesOf_record`), so a record can be asked for its fields in any order
(`fields?_record`), and a list whose members have a shape has the shape of a
list of them (`list?_map`).

The second half is about reading. A value is sound if no name in it is damaged
and it is nested to no more than some levels; for arrays and objects that means
their members are, with one level less (`isSound_array`, `isSound_object`). The
fields that a shape finds are members of the value, whether it is an array or
an object (`isSound_of_fields?`).
-/
import IdentitySearch.Json.Shape

namespace IdentitySearch.Json

-- ============================================================== writing

section Written

variable {ms : List (String × Json)} {α β : Type}

theorem record_eq (ms : List (String × Json)) :
    record ms = .object (ms.map fun m => (some m.1, m.2)) :=
  rfl

/-- The values of one name in a record whose names all differ. -/
theorem valuesOf_record (h : (ms.map Prod.fst).Nodup) (n : String) :
    valuesOf n (ms.map fun m => (some m.1, m.2)) = (ms.lookup n).toList := by
  induction ms with
  | nil => rfl
  | cons m ms ih =>
    obtain ⟨name, value⟩ := m
    obtain ⟨hnew, hrest⟩ := List.nodup_cons.1 h
    have hmore := ih hrest
    unfold valuesOf at hmore ⊢
    by_cases hn : n = name
    · -- no other member has the name
      have hnone : ms.lookup n = none := by
        rw [List.lookup_eq_none_iff]
        intro other hother
        have hne : n ≠ other.1 := by
          intro heq
          have hmem : other.1 ∈ ms.map Prod.fst := List.mem_map_of_mem hother
          rw [← heq, hn] at hmem
          exact hnew hmem
        simpa using hne
      rw [hnone] at hmore
      rw [List.map_cons, List.filter_cons_of_pos (by simp [hn]),
        List.map_cons, hmore]
      simp [hn]
    · have hother : (n == name) = false := by simpa using hn
      rw [List.map_cons, List.filter_cons_of_neg (by simpa using Ne.symm hn),
        hmore, List.lookup_cons, hother]

/-- A record gives back its fields, under any names. -/
theorem fields?_record (h : (ms.map Prod.fst).Nodup) (names : List String) :
    (record ms).fields? names = some (names.map fun n => ms.lookup n) := by
  have hnamed : (ms.map fun m => (some m.1, m.2)).all (fun m => m.1.isSome)
      = true := by
    simp
  have honce : names.all (fun n =>
      (valuesOf n (ms.map fun m => (some m.1, m.2))).length ≤ 1) = true := by
    simp only [List.all_eq_true, decide_eq_true_eq]
    intro n _
    rw [valuesOf_record h]
    exact Option.length_toList_le
  rw [record_eq, fields?, hnamed, honce]
  simp only [valuesOf_record h, Option.head?_toList]
  rfl

/-- Values that read back one by one read back as a list. -/
theorem traverse?_map {f : β → Option α} {g : α → β} (xs : List α)
    (h : ∀ x ∈ xs, f (g x) = some x) : traverse? f (xs.map g) = some xs := by
  induction xs with
  | nil => rfl
  | cons x xs ih =>
    have hmore := ih fun y hy => h y (List.mem_cons_of_mem x hy)
    rw [List.map_cons, traverse?, h x List.mem_cons_self, hmore]
    rfl

/-- A list of values that each have a shape has the shape of a list, -/
theorem list?_map {shape : Json → Option α} {write : α → Json} (xs : List α)
    (h : ∀ x ∈ xs, shape (write x) = some x) :
    list? shape (.array (xs.map write)) = some xs :=
  traverse?_map xs h

/-- as a list of texts has. -/
theorem list?_texts (xs : List String) :
    list? text? (.array (xs.map .text)) = some xs :=
  list?_map xs fun _ _ => rfl

/-- A record is not null. -/
theorem nullable?_record (shape : Json → Option α)
    (ms : List (String × Json)) :
    nullable? shape (record ms) = (shape (record ms)).map some :=
  rfl

end Written

-- ============================================================== reading

section Read

variable {α : Type} {shape : Json → Option α} {field : Option Json} {a : α}

theorem required?_some (shape : Json → Option α) (value : Json) :
    required? shape (some value) = shape value :=
  rfl

theorem optional?_some (default : α) (shape : Json → Option α) (value : Json) :
    optional? default shape (some value) = shape value :=
  rfl

/-- What was read of a required field was there. -/
theorem exists_of_required? (h : required? shape field = some a) :
    ∃ value, field = some value ∧ shape value = some a := by
  cases field with
  | none => cases h
  | some value => exact ⟨value, rfl, h⟩

/-- So was what was read of a field that may be null, and it was not null. -/
theorem exists_of_nullable?
    (h : optional? none (nullable? shape) field = some (some a)) :
    ∃ value, field = some value ∧ shape value = some a := by
  cases field with
  | none => cases h
  | some value =>
    have hvalue : nullable? shape value = some (some a) := h
    unfold nullable? at hvalue
    split at hvalue
    · cases hvalue
    · obtain ⟨b, hb, heq⟩ := Option.map_eq_some_iff.1 hvalue
      cases heq
      exact ⟨_, rfl, hb⟩

end Read

-- =========================================================== soundness

section Sound

variable {levels : Nat}

/-- Values are sound if each of them is, -/
theorem areSound_iff {items : List Json} :
    areSound levels items = true ↔ ∀ j ∈ items, j.isSound levels = true := by
  induction items with
  | nil => simp [areSound]
  | cons item rest ih => simp [areSound, ih]

/-- and members are if each has a name and a sound value. -/
theorem areSoundMembers_iff {members : List (Option String × Json)} :
    areSoundMembers levels members = true
      ↔ ∀ m ∈ members, m.1.isSome = true ∧ m.2.isSound levels = true := by
  induction members with
  | nil => simp [areSoundMembers]
  | cons m rest ih => simp [areSoundMembers, ih]

/-- An array takes one level of nesting, -/
theorem isSound_array {items : List Json} :
    (array items).isSound levels = true
      ↔ 1 ≤ levels ∧ ∀ j ∈ items, j.isSound (levels - 1) = true := by
  rw [isSound, Bool.and_eq_true, decide_eq_true_eq, areSound_iff]

/-- and so does an object, whose names have to be undamaged. -/
theorem isSound_object {members : List (Option String × Json)} :
    (object members).isSound levels = true
      ↔ 1 ≤ levels
        ∧ ∀ m ∈ members, m.1.isSome = true
          ∧ m.2.isSound (levels - 1) = true := by
  rw [isSound, Bool.and_eq_true, decide_eq_true_eq, areSoundMembers_iff]

/-- An object with one member nests once more than its value. -/
theorem isSound_single {name : Option String} {value : Json} :
    (object [(name, value)]).isSound levels = true
      ↔ 1 ≤ levels ∧ name.isSome = true
        ∧ value.isSound (levels - 1) = true := by
  simp [isSound_object]

/-- An array of two is sound if both are. -/
theorem isSound_pair {left right : Json} :
    (array [left, right]).isSound levels = true
      ↔ 1 ≤ levels ∧ left.isSound (levels - 1) = true
        ∧ right.isSound (levels - 1) = true := by
  simp [isSound_array]

/-- A record is sound if its values are: its names are. -/
theorem isSound_record {ms : List (String × Json)} :
    (record ms).isSound levels = true
      ↔ 1 ≤ levels ∧ ∀ m ∈ ms, m.2.isSound (levels - 1) = true := by
  rw [record_eq, isSound_object]
  simp only [List.mem_map, forall_exists_index, and_imp,
    forall_apply_eq_imp_iff₂, Option.isSome_some, true_and]

/-- A text takes no level of nesting, -/
theorem isSound_text (s : String) : (text s).isSound levels = true :=
  rfl

/-- and a list of texts takes one. -/
theorem isSound_texts (xs : List String) :
    (array (xs.map .text)).isSound levels = true ↔ 1 ≤ levels := by
  rw [isSound_array]
  refine ⟨fun h => h.1, fun h => ⟨h, ?_⟩⟩
  intro j hj
  obtain ⟨s, -, rfl⟩ := List.mem_map.1 hj
  exact isSound_text s

/-- What is read as a record nests at least once, and its fields are sound
below. -/
theorem isSound_of_fields? {names : List String} {j : Json}
    {fs : List (Option Json)} (hfields : j.fields? names = some fs)
    (hsound : j.isSound levels = true) :
    1 ≤ levels ∧ ∀ v, some v ∈ fs → v.isSound (levels - 1) = true := by
  cases j with
  | object members =>
    obtain ⟨hlevels, hmembers⟩ := isSound_object.1 hsound
    simp only [fields?] at hfields
    split at hfields
    · cases hfields
      refine ⟨hlevels, fun v hv => ?_⟩
      obtain ⟨n, -, hhead⟩ := List.mem_map.1 hv
      obtain ⟨m, hm, rfl⟩ := List.mem_map.1 (List.mem_of_mem_head? hhead)
      exact (hmembers m (List.mem_filter.1 hm |>.1)).2
    · cases hfields
  | array items =>
    obtain ⟨hlevels, hitems⟩ := isSound_array.1 hsound
    simp only [fields?] at hfields
    split at hfields
    · cases hfields
      refine ⟨hlevels, fun v hv => ?_⟩
      obtain hv | hv := List.mem_append.1 hv
      · exact hitems v (by simpa using hv)
      · simp at hv
    · cases hfields
  | _ => simp [fields?] at hfields

/-- A list nests at least once. -/
theorem one_le_of_list? {α : Type} {shape : Json → Option α} {j : Json}
    {xs : List α} (hlist : j.list? shape = some xs)
    (hsound : j.isSound levels = true) : 1 ≤ levels := by
  cases j with
  | array items => exact (isSound_array.1 hsound).1
  | _ => simp [list?] at hlist

end Sound

end IdentitySearch.Json
