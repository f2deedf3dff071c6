/-
Page requests as text. A page request is written as a record of its two fields
and reads back as itself as long as its page fits: both numbers are below two
to the thirty-second. Whatever spelling a page request is read from, its page
fits.

So reading and writing are inverse to each other on page requests that fit, and
a text that is accepted comes to one of these (`PageRequest.fits_of_read?`,
`PageRequest.read?_text`). The reader of each part is first turned into an
equivalence that lists what its fields must be (`ofJson?_eq_some_iff`); both
directions are then read off it, and a field that is missing or null falls
under the default of the part that reads it.
-/
import IdentitySearch.Page
import IdentitySearch.Proofs.Json.RoundTrip
import IdentitySearch.Proofs.Json.Shapes

namespace IdentitySearch

-- ============================================================== numbers

/-- A number that fits is read as itself, -/
theorem Json.count?_integer {n : Nat} (h : n < UInt32.size) :
    (Json.integer n).count? = some n := by
  show (if 0 ≤ (n : Int) ∧ (n : Int) < UInt32.size then some (n : Int).toNat
      else none) = some n
  rw [if_pos ⟨Int.natCast_nonneg n, Int.ofNat_lt.2 h⟩, Int.toNat_natCast]

/-- and what is read as a number fits. -/
theorem Json.lt_of_count? {j : Json} {n : Nat} (h : j.count? = some n) :
    n < UInt32.size := by
  unfold Json.count? at h
  split at h
  · split at h
    · next hbounds =>
      cases h
      exact (Int.toNat_lt hbounds.1).2 hbounds.2
    · cases h
  · cases h

-- ================================================================ parts

/-- A sort clause reads back as itself. -/
theorem SortClause.ofJson?_toJson (c : SortClause) :
    ofJson? c.toJson = some c := by
  rw [ofJson?, toJson, Json.fields?_record (by simp)]
  simp [Json.required?, List.lookup_cons, Json.text?, Json.name?, Json.text,
    Direction.ofKeyword?_keyword]

namespace Pagination

/-- Whether both numbers of a page can be read back. -/
def Fits (p : Pagination) : Prop :=
  p.page < UInt32.size ∧ p.size < UInt32.size

/-- A page is read from its two numbers, both of which are required, -/
theorem ofJson?_eq_some_iff {j : Json} {p : Pagination} :
    ofJson? j = some p
      ↔ ∃ page size, j.fields? ["page", "size"] = some [page, size]
      ∧ Json.required? Json.count? page = some p.page
      ∧ Json.required? Json.count? size = some p.size := by
  constructor
  · intro h
    unfold ofJson? at h
    split at h
    · next page size hfields =>
      split at h
      · next hpage hsize =>
        cases h
        exact ⟨page, size, hfields, hpage, hsize⟩
      · cases h
    · cases h
  · rintro ⟨page, size, hfields, hpage, hsize⟩
    simp only [ofJson?, hfields, hpage, hsize]

/-- reads back as itself if it fits, -/
theorem ofJson?_toJson {p : Pagination} (h : p.Fits) :
    ofJson? p.toJson = some p := by
  refine ofJson?_eq_some_iff.2 ⟨some (.integer p.page), some (.integer p.size),
    ?_, ?_, ?_⟩
  · rw [toJson, Json.fields?_record (by simp)]
    simp [List.lookup_cons]
  · rw [Json.required?_some, Json.count?_integer h.1]
  · rw [Json.required?_some, Json.count?_integer h.2]

/-- and fits if it was read. -/
theorem fits_of_ofJson? {j : Json} {p : Pagination} (h : ofJson? j = some p) :
    p.Fits := by
  obtain ⟨page, size, -, hpage, hsize⟩ := ofJson?_eq_some_iff.1 h
  obtain ⟨_, -, hpage⟩ := Json.exists_of_required? hpage
  obtain ⟨_, -, hsize⟩ := Json.exists_of_required? hsize
  exact ⟨Json.lt_of_count? hpage, Json.lt_of_count? hsize⟩

end Pagination

-- ============================================================= requests

namespace PageRequest

/-- A page request is read from its two fields, either of which may be
missing. -/
theorem ofJson?_eq_some_iff {j : Json} {r : PageRequest} :
    ofJson? j = some r ↔ ∃ pagination sort,
      j.fields? ["pagination", "sort"] = some [pagination, sort]
      ∧ Json.optional? none (Json.nullable? Pagination.ofJson?) pagination
        = some r.pagination
      ∧ Json.optional? [] (Json.list? SortClause.ofJson?) sort
        = some r.sort := by
  constructor
  · intro h
    unfold ofJson? at h
    split at h
    · next pagination sort hfields =>
      split at h
      · next hpage hsort =>
        cases h
        exact ⟨pagination, sort, hfields, hpage, hsort⟩
      · cases h
    · cases h
  · rintro ⟨pagination, sort, hfields, hpage, hsort⟩
    simp only [ofJson?, hfields, hpage, hsort]

/-- A page request whose page fits reads back from its text. -/
theorem read?_text {r : PageRequest} (h : ∀ p ∈ r.pagination, p.Fits) :
    read? r.text = some r := by
  have hsort :
      Json.list? SortClause.ofJson? (.array (r.sort.map SortClause.toJson))
        = some r.sort :=
    Json.list?_map r.sort fun c _ => c.ofJson?_toJson
  rw [read?, text, Json.read?_compactText, Option.bind_some]
  obtain ⟨pagination, sort⟩ := r
  cases pagination with
  | none =>
    refine ofJson?_eq_some_iff.2 ⟨some .null,
      some (.array (sort.map SortClause.toJson)), ?_, rfl, hsort⟩
    rw [toJson, Json.fields?_record (by simp)]
    simp [List.lookup_cons]
  | some p =>
    refine ofJson?_eq_some_iff.2 ⟨some p.toJson,
      some (.array (sort.map SortClause.toJson)), ?_, ?_, hsort⟩
    · rw [toJson, Json.fields?_record (by simp)]
      simp [List.lookup_cons]
    · have hread := Pagination.ofJson?_toJson (h p rfl)
      rw [Pagination.toJson] at hread ⊢
      rw [Json.optional?_some, Json.nullable?_record, hread, Option.map_some]

/-- Whatever a page request is read from, its page fits. -/
theorem fits_of_read? {s : String} {r : PageRequest} (h : read? s = some r) :
    ∀ p ∈ r.pagination, p.Fits := by
  obtain ⟨j, -, hj⟩ := Option.bind_eq_some_iff.1 h
  obtain ⟨pagination, _, -, hpage, -⟩ := ofJson?_eq_some_iff.1 hj
  intro p hp
  rw [hp] at hpage
  obtain ⟨_, -, hpage⟩ := Json.exists_of_nullable? hpage
  exact Pagination.fits_of_ofJson? hpage

end PageRequest

end IdentitySearch
