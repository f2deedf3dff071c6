/-
Sets of keys, held in ascending order without repetition. The order is part of
the type, so two sets with the same elements are the same set, however their
elements came in.

A key is put in its place from the left, and is not put in twice. Everything
else is made of this: a set of a list, and the union of two sets, which puts
the keys of one into the other. What a set holds is said by a law for each of
these, and nothing that uses sets looks at their order.
-/

namespace IdentitySearch

/-- A set of texts. -/
structure KeySet where
  keys : List String
  ascending : keys.Pairwise (· < ·)
deriving DecidableEq

namespace KeySet

def empty : KeySet := ⟨[], .nil⟩

/-- A key put at its place in an ascending list, unless it is there. -/
def place (key : String) : List String → List String
  | [] => [key]
  | k :: rest =>
    if key < k then key :: k :: rest
    else if key = k then k :: rest
    else k :: place key rest

/-- Putting a key in its place adds it and nothing else, -/
theorem mem_place {key k : String} {l : List String} :
    k ∈ place key l ↔ k = key ∨ k ∈ l := by
  induction l with
  | nil => simp [place]
  | cons a rest ih =>
    simp only [place]
    split
    · simp
    · split
      · next h => subst h; simp
      · simp only [List.mem_cons, ih]
        constructor
        · rintro (h | h | h) <;> simp [h]
        · rintro (h | h | h) <;> simp [h]

/-- and keeps the order. -/
theorem ascending_place {key : String} {l : List String}
    (h : l.Pairwise (· < ·)) : (place key l).Pairwise (· < ·) := by
  induction l with
  | nil => simp [place]
  | cons a rest ih =>
    rw [List.pairwise_cons] at h
    simp only [place]
    split
    · next hlt =>
      rw [List.pairwise_cons, List.pairwise_cons]
      refine ⟨fun b hb => ?_, h⟩
      rcases List.mem_cons.1 hb with rfl | hb
      · exact hlt
      · exact String.lt_trans hlt (h.1 b hb)
    · split
      · exact List.pairwise_cons.2 h
      · next hlt hne =>
        refine List.pairwise_cons.2 ⟨fun b hb => ?_, ih h.2⟩
        rcases mem_place.1 hb with rfl | hb
        · rcases String.le_total a b with hab | hab
          · exact Classical.byContradiction fun hn =>
              hne (String.le_antisymm (String.not_lt.1 hn) hab)
          · exact absurd (String.le_antisymm hab (String.not_lt.1 hlt)) hne
        · exact h.1 b hb

/-- A set with one more element. -/
def insert (s : KeySet) (key : String) : KeySet :=
  ⟨place key s.keys, ascending_place s.ascending⟩

/-- The set of some keys. -/
def ofList (keys : List String) : KeySet :=
  keys.foldr (fun k s => s.insert k) empty

/-- The elements of both sets. -/
def union (s t : KeySet) : KeySet :=
  s.keys.foldr (fun k u => u.insert k) t

/-- Whether a set has no elements. -/
def isEmpty (s : KeySet) : Bool :=
  s.keys.isEmpty

instance : Membership String KeySet := ⟨fun s key => key ∈ s.keys⟩

/-- Nothing is in the empty set. -/
theorem not_mem_empty (key : String) : key ∉ empty :=
  List.not_mem_nil

/-- What is inserted is in the set, beside what was. -/
theorem mem_insert {s : KeySet} {key k : String} :
    k ∈ s.insert key ↔ k = key ∨ k ∈ s :=
  mem_place

/-- The set of a list has the keys of the list. -/
theorem mem_ofList {keys : List String} {k : String} :
    k ∈ ofList keys ↔ k ∈ keys := by
  induction keys with
  | nil => exact Iff.rfl
  | cons a rest ih =>
    show k ∈ (ofList rest).insert a ↔ _
    rw [mem_insert, ih, List.mem_cons]

/-- A union has the keys of both sets. -/
theorem mem_union {s t : KeySet} {k : String} :
    k ∈ s.union t ↔ k ∈ s ∨ k ∈ t := by
  obtain ⟨keys, h⟩ := s
  show k ∈ keys.foldr (fun k u => u.insert k) t ↔ k ∈ keys ∨ k ∈ t
  clear h
  induction keys with
  | nil => simp
  | cons a rest ih =>
    rw [List.foldr_cons, mem_insert, ih, List.mem_cons, or_assoc]

end KeySet

end IdentitySearch
