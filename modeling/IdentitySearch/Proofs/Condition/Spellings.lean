/-
The many spellings of a condition. Fields may stand in any order or as an
array, beside members that nobody reads, and an operator may be an object;
whatever the spelling, what is written again nests no deeper than the text that
was read, so a text that is accepted once is accepted again, as the same value
and in the same words.

The point is the nesting. That a value reads back from its own JSON is known
for every condition, but its text is refused beyond the limit, and a spelling
that is read could in principle stay within the limit where the canonical one
does not. It cannot: each field that is read costs the spelling a level at
least, and the canonical one at most that (`Predicate.nesting_le_of_ofJson?`,
`Condition.nesting_le_of_ofJson?`). The levels are those left to a value,
`levels` less one for each field entered, and the tree is followed as it is
read.
-/
import Mathlib.Logic.Basic
import IdentitySearch.Proofs.Condition.Shipping
import IdentitySearch.Proofs.Page

namespace IdentitySearch

variable {levels : Nat}

-- =========================================================== predicates

namespace Predicate

variable {j : Json} {p : Predicate}

/-- The fields of a predicate are part of its value. -/
theorem isSound_of_tagged? {form : String} {fields : Json}
    (h : tagged? j = some (form, fields)) (hsound : j.isSound levels = true) :
    fields.isSound levels = true := by
  unfold tagged? at h
  split at h
  · next members =>
    split at h
    · cases h
      obtain ⟨hlevels, hmembers⟩ := Json.isSound_object.1 hsound
      exact Json.isSound_object.2
        ⟨hlevels, fun m hm => hmembers m (List.mem_filter.1 hm).1⟩
    · cases h
  · cases h
    obtain ⟨hlevels, hitems⟩ := Json.isSound_array.1 hsound
    exact Json.isSound_array.2 ⟨hlevels,
      fun j hj => hitems j (List.mem_cons_of_mem _ hj)⟩
  · cases h

/-- A record of one field has a level, and its value one less. -/
theorem exists_of_only? {α : Type} {field : String} {shape : Json → Option α}
    {a : α} (h : only? field shape j = some a)
    (hsound : j.isSound levels = true) :
    1 ≤ levels ∧ ∃ value, shape value = some a
      ∧ value.isSound (levels - 1) = true := by
  unfold only? at h
  split at h
  · next value hfields =>
    obtain ⟨hlevels, hvalues⟩ := Json.isSound_of_fields? hfields hsound
    obtain ⟨value, rfl, hvalue⟩ := Json.exists_of_required? h
    exact ⟨hlevels, value, hvalue, hvalues value List.mem_cons_self⟩
  · cases h

/-- A comparison has a level. -/
theorem one_le_of_comparison? {subject : String}
    {r : String × Operator × Option String}
    (h : comparison? subject j = some r) (hsound : j.isSound levels = true) :
    1 ≤ levels := by
  unfold comparison? at h
  split at h
  · next hfields => exact (Json.isSound_of_fields? hfields hsound).1
  · cases h

/-- A predicate about one key nests once. -/
theorem nesting_le_of_key {field : String} {make : String → Predicate}
    (h : (only? field Json.text? j).map make = some p)
    (hmake : ∀ key, (make key).nesting = 1)
    (hsound : j.isSound levels = true) : p.nesting ≤ levels := by
  obtain ⟨key, hkey, rfl⟩ := Option.map_eq_some_iff.1 h
  rw [hmake]
  exact (exists_of_only? hkey hsound).1

/-- A predicate about a list of keys nests twice, as the list it is read from
does. -/
theorem nesting_le_of_keys {field : String} {make : List String → Predicate}
    (h : (only? field (Json.list? Json.text?) j).map make = some p)
    (hmake : ∀ keys, (make keys).nesting = 2)
    (hsound : j.isSound levels = true) :
    p.nesting ≤ levels := by
  obtain ⟨keys, hkeys, rfl⟩ := Option.map_eq_some_iff.1 h
  obtain ⟨hlevels, value, hlist, hvalue⟩ := exists_of_only? hkeys hsound
  have hbelow := Json.one_le_of_list? hlist hvalue
  rw [hmake]
  omega

/-- What is read as a comparison nests one level, -/
theorem nesting_le_of_comparison {subject : String}
    {make : String × Operator × Option String → Predicate}
    (h : (comparison? subject j).map make = some p)
    (hmake : ∀ r, (make r).nesting = 1) (hsound : j.isSound levels = true) :
    p.nesting ≤ levels := by
  obtain ⟨r, hr, rfl⟩ := Option.map_eq_some_iff.1 h
  rw [hmake]
  exact one_le_of_comparison? hr hsound

/-- and no form nests deeper than what it is read from. -/
theorem nesting_le_of_ofForm? {form : String} (h : ofForm? form j = some p)
    (hsound : j.isSound levels = true) : p.nesting ≤ levels := by
  unfold ofForm? at h
  obtain ⟨-, h⟩ | ⟨-, h⟩ := ite_eq_iff.1 h
  · exact nesting_le_of_comparison h (fun _ => rfl) hsound
  obtain ⟨-, h⟩ | ⟨-, h⟩ := ite_eq_iff.1 h
  · exact nesting_le_of_comparison h (fun _ => rfl) hsound
  obtain ⟨-, h⟩ | ⟨-, h⟩ := ite_eq_iff.1 h
  · exact nesting_le_of_key h (fun _ => rfl) hsound
  obtain ⟨-, h⟩ | ⟨-, h⟩ := ite_eq_iff.1 h
  · exact nesting_le_of_key h (fun _ => rfl) hsound
  obtain ⟨-, h⟩ | ⟨-, h⟩ := ite_eq_iff.1 h
  · exact nesting_le_of_keys h (fun _ => rfl) hsound
  obtain ⟨-, h⟩ | ⟨-, h⟩ := ite_eq_iff.1 h
  · exact nesting_le_of_key h (fun _ => rfl) hsound
  obtain ⟨-, h⟩ | ⟨-, h⟩ := ite_eq_iff.1 h
  · exact nesting_le_of_keys h (fun _ => rfl) hsound
  obtain ⟨-, h⟩ | ⟨-, h⟩ := ite_eq_iff.1 h
  · exact nesting_le_of_keys h (fun _ => rfl) hsound
  obtain ⟨-, h⟩ | ⟨-, h⟩ := ite_eq_iff.1 h
  · exact nesting_le_of_key h (fun _ => rfl) hsound
  obtain ⟨-, h⟩ | ⟨-, h⟩ := ite_eq_iff.1 h
  · exact nesting_le_of_key h (fun _ => rfl) hsound
  obtain ⟨-, h⟩ | ⟨-, h⟩ := ite_eq_iff.1 h
  · exact nesting_le_of_key h (fun _ => rfl) hsound
  obtain ⟨-, h⟩ | ⟨-, h⟩ := ite_eq_iff.1 h
  · exact nesting_le_of_key h (fun _ => rfl) hsound
  cases h

/-- A predicate nests no deeper than the value it is read from. -/
theorem nesting_le_of_ofJson? (h : ofJson? j = some p)
    (hsound : j.isSound levels = true) :
    p.nesting ≤ levels := by
  obtain ⟨⟨form, fields⟩, htagged, hform⟩ := Option.bind_eq_some_iff.1 h
  exact nesting_le_of_ofForm? hform (isSound_of_tagged? htagged hsound)

end Predicate

-- =========================================================== conditions

namespace Condition

/-- A condition nests no deeper than the value it is read from. -/
theorem nesting_le_of_ofJson? {j : Json} {c : Condition}
    (h : Condition.ofJson? j = some c) (hsound : j.isSound levels = true) :
    c.nesting ≤ levels := by
  fun_induction Condition.ofJson? j generalizing c levels with
  | case1 j | case2 j =>
    obtain ⟨p, hp, rfl⟩ := Option.map_eq_some_iff.1 h
    obtain ⟨hlevels, -, hbelow⟩ := Json.isSound_single.1 hsound
    have hnesting := Predicate.nesting_le_of_ofJson? hp hbelow
    rw [nesting]
    omega
  | case3 left right l r hr hl ihl ihr | case5 left right l r hr hl ihl ihr =>
    cases h
    obtain ⟨hlevels, -, hsides⟩ := Json.isSound_single.1 hsound
    obtain ⟨hbelow, hleft, hright⟩ := Json.isSound_pair.1 hsides
    have hleft := ihl hl hleft
    have hright := ihr hr hright
    rw [nesting]
    omega
  | case4 | case6 | case7 => cases h

/-- A text that is read as a condition nests deep enough for what is written
again. -/
theorem nesting_le_of_read? {t : String} {c : Condition}
    (h : read? t = some c) :
    c.nesting ≤ nestingLimit := by
  unfold read? Json.readSound? at h
  split at h
  · cases h
  · split at h
    · next hsound => exact nesting_le_of_ofJson? h hsound
    · cases h

end Condition

-- =========================================================== normal form

/-- Whatever is read from a text is read again from what is written of it, and
is then written in the same words. -/
def Normalises {α : Type} (read? : String → Option α) (write : α → String)
    (t : String) : Prop :=
  ∀ a, read? t = some a →
    read? (write a) = some a ∧ (read? (write a)).map write = some (write a)

/-- A text that reads back as what was read normalises. -/
theorem normalises_of_read? {α : Type} {read? : String → Option α}
    {write : α → String} {t : String}
    (h : ∀ a, read? t = some a → read? (write a) = some a) :
    Normalises read? write t := by
  intro a ha
  have hagain := h a ha
  refine ⟨hagain, ?_⟩
  rw [hagain, Option.map_some]

/-- Every text that is accepted as a condition, as a predicate or as a page
request normalises. -/
theorem accepted_texts_normalise (t : String) :
    Normalises Condition.read? Condition.text t
      ∧ Normalises Predicate.read? Predicate.text t
      ∧ Normalises PageRequest.read? PageRequest.text t := by
  refine ⟨normalises_of_read? fun c hc => ?_,
    normalises_of_read? fun p _ => ?_, normalises_of_read? fun r hr => ?_⟩
  · rw [Condition.read?_text, if_pos (Condition.nesting_le_of_read? hc)]
  · exact Predicate.read?_text p
  · exact PageRequest.read?_text (PageRequest.fits_of_read? hr)

/-- A disjunction of a predicate written as an array and of one with its fields
out of order beside one that nobody reads, a list with a letter written as two
escapes, and a page in an array beside half of such a letter. -/
theorem accepted_texts_normalise_odd_spellings :
    let either :=
  "\x7b \"or\":[\x7b\"leaf\":[\"attr\",\"\\u0061\",\x7b\"EQ\":null\x7d]\x7d,"
      ++ "\x7b\"not_leaf\":\x7b\"x\":[1.5],\"role\":\"b\",\"type\":\"role\"\x7d\x7d]\x7d"
    let list := "[\"relationship\",[\"\\ud83d\\ude00\",\"\\u0001\"]]"
    let request :=
      "\x7b\"sort\":[[\"key\",\x7b\"DESC\":null\x7d]],\"x\":\"\\ud800\","
      ++ "\"pagination\":[3,4294967295]\x7d"
    let c := Condition.or (.leaf (.attribute "a" .eq none))
        (.notLeaf (.role "b"))
    let p := Predicate.relationship ["😀", "\x01"]
    let r : PageRequest := ⟨some ⟨3, 4294967295⟩, [⟨"key", .descending⟩]⟩
    (Condition.read? either = some c ∧ Condition.read? c.text = some c)
      ∧ (Predicate.read? list = some p ∧ Predicate.read? p.text = some p)
      ∧ (PageRequest.read? request = some r
        ∧ PageRequest.read? r.text = some r) := by
  intro either list request c p r
  have hc : Condition.read? either = some c := by decide +kernel
  have hp : Predicate.read? list = some p := by decide +kernel
  have hr : PageRequest.read? request = some r := by decide +kernel
  exact ⟨⟨hc, ((accepted_texts_normalise either).1 c hc).1⟩,
    ⟨hp, ((accepted_texts_normalise list).2.1 p hp).1⟩,
    ⟨hr, ((accepted_texts_normalise request).2.2 r hr).1⟩⟩

end IdentitySearch
