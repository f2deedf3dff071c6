/-
Keys among cells. A key is a text, and against a text all comparisons are
plain: nothing but the same text is the same cell, equality with it is unknown
for NULL only, and being one of several cells means standing among them. So a
key is found by a query exactly if its text is one of the cells, whatever else
the query finds, and dropping repetitions loses no key.

The lemmas come in three layers: about truth with three values, about two
cells, and about a cell and a list. In each of them there is one lemma for what
holds and one for what fails, since IN asks for the first and NOT IN for the
second, and neither follows from the other where a NULL is about. Repetitions
are dropped by any relation that is given; what is said of the lists is said
for it in general, and for texts at the end.
-/
import IdentitySearch.Sql.Evaluation

namespace IdentitySearch

-- ============================================================== truth

namespace Truth

theorem isHolds_iff {t : Truth} : t.isHolds = true ↔ t = .holds := by
  cases t <;> simp [isHolds]

theorem ofBool_eq_holds {b : Bool} : ofBool b = .holds ↔ b = true := by
  cases b <;> simp [ofBool]

theorem ofBool_eq_fails {b : Bool} : ofBool b = .fails ↔ b = false := by
  cases b <;> simp [ofBool]

theorem or_eq_fails {s t : Truth} :
    s.or t = .fails ↔ s = .fails ∧ t = .fails := by
  cases s <;> cases t <;> simp [Truth.or]

end Truth

-- ============================================================== cells

namespace Cell

/-- Two cells are the same if they agree in class, value and text. -/
theorem same_iff {a b : Cell} :
    a.same b = true
      ↔ a.rank = b.rank ∧ a.units = b.units ∧ a.content = b.content := by
  simp [same, and_assoc]

/-- A cell is the same as itself, -/
theorem same_refl (a : Cell) : a.same a = true := by
  simp [same_iff]

/-- and as another one if that is the same as it. -/
theorem same_comm (a b : Cell) : a.same b = b.same a := by
  rw [Bool.eq_iff_iff, same_iff, same_iff]
  rw [eq_comm, eq_comm (a := a.units), eq_comm (a := a.content)]

/-- The only cell that is the same as a text is that text. -/
theorem same_text {c : Cell} {s : String} :
    c.same (.text s) = true ↔ c = .text s := by
  rw [same_iff]
  constructor
  · intro h
    rcases h with ⟨hrank, -, hcontent⟩
    cases c with
    | null | integer n | real x => simp [rank] at hrank
    | text t => exact congrArg Cell.text hcontent
  · intro heq
    subst heq
    exact ⟨rfl, rfl, rfl⟩

/-- Cells are equal if neither is NULL and they are the same, -/
theorem equals_eq_holds {a b : Cell} :
    a.equals b = .holds ↔ a ≠ .null ∧ b ≠ .null ∧ a.same b = true := by
  unfold equals compareWith
  split
  · next h => rcases h with rfl | rfl <;> simp
  · next h =>
    rw [not_or] at h
    simp [Truth.ofBool_eq_holds, h.1, h.2]

/-- and unequal if neither is NULL and they are not. -/
theorem equals_eq_fails {a b : Cell} :
    a.equals b = .fails ↔ a ≠ .null ∧ b ≠ .null ∧ a.same b = false := by
  unfold equals compareWith
  split
  · next h => rcases h with rfl | rfl <;> simp
  · next h =>
    rw [not_or] at h
    simp [Truth.ofBool_eq_fails, h.1, h.2]

/-- Equality with a text holds of that text only. -/
theorem equals_text {c : Cell} {s : String} :
    c.equals (.text s) = .holds ↔ c = .text s := by
  rw [equals_eq_holds, same_text]
  constructor
  · exact fun h => h.2.2
  · intro heq
    subst heq
    simp

/-- A text equals nothing but itself. -/
theorem text_equals {c : Cell} {s : String} :
    (Cell.text s).equals c = .holds ↔ c = .text s := by
  rw [equals_eq_holds, same_comm, same_text]
  constructor
  · exact fun h => h.2.2
  · intro heq
    subst heq
    simp

/-- A cell is in a list if it equals some cell there, -/
theorem isIn_eq_holds {c : Cell} {cells : List Cell} :
    c.isIn cells = .holds ↔ ∃ d ∈ cells, c.equals d = .holds := by
  induction cells with
  | nil => simp [isIn]
  | cons d rest ih =>
    rw [show c.isIn (d :: rest) = (c.equals d).or (c.isIn rest) from rfl,
      Truth.or_eq_holds, ih]
    simp

/-- and is not if it is unequal to each of them, so that one NULL leaves it
open. -/
theorem isIn_eq_fails {c : Cell} {cells : List Cell} :
    c.isIn cells = .fails ↔ ∀ d ∈ cells, c.equals d = .fails := by
  induction cells with
  | nil => simp [isIn]
  | cons d rest ih =>
    rw [show c.isIn (d :: rest) = (c.equals d).or (c.isIn rest) from rfl,
      Truth.or_eq_fails, ih]
    simp

/-- A text is in a list of cells if it stands there. -/
theorem text_isIn {s : String} {cells : List Cell} :
    (Cell.text s).isIn cells = .holds ↔ .text s ∈ cells := by
  rw [isIn_eq_holds]
  constructor
  · intro hgiven
    rcases hgiven with ⟨d, hd, heq⟩
    exact text_equals.1 heq ▸ hd
  · exact fun h => ⟨_, h, text_equals.2 rfl⟩

/-- A cell is one of some texts if it is a text among them. -/
theorem isIn_texts {c : Cell} {keys : List String} :
    c.isIn (keys.map .text) = .holds ↔ ∃ s ∈ keys, c = .text s := by
  rw [isIn_eq_holds]
  constructor
  · intro h
    rcases h with ⟨d, hd, heq⟩
    obtain ⟨s, hs, rfl⟩ := List.mem_map.1 hd
    exact ⟨s, hs, equals_text.1 heq⟩
  · intro h
    rcases h with ⟨s, hs, rfl⟩
    exact ⟨_, List.mem_map_of_mem hs, equals_text.2 rfl⟩

/-- Texts read off what holds nothing but texts. -/
theorem map_text_filterMap {α : Type} {f : α → Cell} {l : List α}
    (h : ∀ a ∈ l, ∃ s, f a = .text s) :
    (l.filterMap fun a => (f a).text?).map .text = l.map f := by
  induction l with
  | nil => rfl
  | cons a rest ih =>
    rw [List.forall_mem_cons] at h
    obtain ⟨s, hs⟩ := h.1
    have htext : (Cell.text s).text? = some s := rfl
    simp only [List.filterMap_cons, List.map_cons, hs, htext, ih h.2]

end Cell

-- ======================================================== repetitions

section Distinct

variable {α : Type} {same : α → α → Bool}

/-- What is the same as nothing else survives the dropping of repetitions. -/
theorem mem_distinctBy_iff {a : α} (ha : ∀ b, same b a = true → b = a)
    {l : List α} :
    a ∈ distinctBy same l ↔ a ∈ l := by
  refine ⟨mem_of_mem_distinctBy, fun h => ?_⟩
  induction l with
  | nil => cases h
  | cons b rest ih =>
    simp only [distinctBy, List.mem_cons, List.mem_filter]
    rcases List.mem_cons.1 h with rfl | h
    · exact .inl rfl
    · cases hba : same b a with
      | true => exact .inl (ha b hba).symm
      | false => exact .inr ⟨ih h, by simp⟩

/-- Dropping repetitions keeps the order. -/
theorem distinctBy_sublist (l : List α) : (distinctBy same l).Sublist l := by
  induction l with
  | nil => exact .slnil
  | cons a rest ih => exact .cons_cons a (List.filter_sublist.trans ih)

/-- Of what is the same, one is left: nothing is lost of what the same elements
have in common. -/
theorem exists_mem_distinctBy {β : Type} {f : α → β} {l : List α}
    (h : ∀ a ∈ l, ∀ b ∈ l, same a b = true → f a = f b) {a : α} (ha : a ∈ l) :
    ∃ b ∈ distinctBy same l, f b = f a := by
  induction l with
  | nil => cases ha
  | cons c rest ih =>
    simp only [distinctBy, List.mem_cons, List.mem_filter]
    rcases List.mem_cons.1 ha with rfl | ha
    · exact ⟨a, .inl rfl, rfl⟩
    · obtain ⟨b, hb, hba⟩ :=
        ih (fun x hx y hy =>
          h x (List.mem_cons_of_mem c hx) y (List.mem_cons_of_mem c hy)) ha
      cases hcb : same c b with
      | true =>
        have hfirst := h c List.mem_cons_self b
          (List.mem_cons_of_mem c (mem_of_mem_distinctBy hb)) hcb
        exact ⟨c, .inl rfl, hfirst.trans hba⟩
      | false => exact ⟨b, .inr ⟨hb, by simp [hcb]⟩, hba⟩

/-- No two elements that are left are the same. -/
theorem pairwise_distinctBy (l : List α) :
    (distinctBy same l).Pairwise fun a b => same a b = false := by
  induction l with
  | nil => exact .nil
  | cons a rest ih =>
    rw [distinctBy, List.pairwise_cons]
    refine ⟨fun b hb => ?_, ih.filter _⟩
    simpa using (List.mem_filter.1 hb).2

/-- Where no two elements are the same, nothing is dropped. -/
theorem distinctBy_of_pairwise {l : List α}
    (h : l.Pairwise fun a b => same a b = false) :
    distinctBy same l = l := by
  induction l with
  | nil => rfl
  | cons a rest ih =>
    rw [List.pairwise_cons] at h
    rw [distinctBy, ih h.2,
      List.filter_eq_self.2 fun b hb => by rw [h.1 b hb]; rfl]

end Distinct

/-- Dropping repeated cells keeps every text. -/
theorem text_mem_distinctBy {s : String} {cells : List Cell} :
    .text s ∈ distinctBy Cell.same cells ↔ .text s ∈ cells :=
  mem_distinctBy_iff fun _ => Cell.same_text.1

end IdentitySearch
