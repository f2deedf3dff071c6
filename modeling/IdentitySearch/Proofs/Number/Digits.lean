/-
Numbers as digits, and digits in order. A number is what its digits write, with
zeros before them or without. Runs of digits of one length are in the order of
the numbers that they write, and only behind equal ones does it count what
comes after (`append_lt_append_iff`). Of runs of different lengths the longer
one is cut first: its start alone is compared with the shorter one
(`append_mark_lt_iff_of_shorter`).

Order is that of lists of characters, and of characters it is that of their
numbers, so a digit is before another one if its value is smaller
(`lt_iff_digitValue_lt`). Everything else is induction on two runs side by
side. The value of a run is followed from its end where the run is cut
(`ofDigits_append`, `ofDigits_take`), since that is how digits are added to a
number.
-/
import Mathlib.Data.List.Induction
import Mathlib.Data.List.Lex
import Mathlib.Tactic.Ring
import IdentitySearch.Number.Digits

namespace IdentitySearch.Number

-- ============================================================== reading

/-- A number is written with nothing but digits, -/
theorem isDigit_of_mem_digits {n : Nat} {c : Char} (h : c ∈ digits n) :
    isDigit c = true := by
  have hcore : c.isDigit = true :=
    Nat.isDigit_of_mem_toDigits (by decide) (by decide) h
  exact hcore

/-- from which it is read back, -/
theorem ofDigits_digits (n : Nat) : ofDigits (digits n) = n := by
  have hcore : Nat.ofDigitChars 10 (Nat.toDigits 10 n) 0 = n :=
    Nat.ofDigitChars_ten_toDigits
  rw [Nat.ofDigitChars_eq_foldl] at hcore
  exact hcore

/-- and with one at least. -/
theorem digits_ne_nil (n : Nat) : digits n ≠ [] :=
  Nat.toDigits_ne_nil

/-- Digits, zeros before them or not. -/
theorem isDigit_of_mem_paddedDigits {width n : Nat} {c : Char}
    (h : c ∈ paddedDigits width n) :
    isDigit c = true := by
  rcases List.mem_append.1 h with hzero | hdigit
  · rw [List.eq_of_mem_replicate hzero]
    rfl
  · exact isDigit_of_mem_digits hdigit

/-- Zeros before it do not change a number. -/
theorem ofDigits_paddedDigits (width n : Nat) :
    ofDigits (paddedDigits width n) = n := by
  have hzeros : ∀ k, (List.replicate k '0').foldl
      (fun n c => 10 * n + digitValue c) 0 = 0 := by
    intro k
    induction k with
    | zero => rfl
    | succ k ih => exact ih
  rw [paddedDigits, ofDigits, List.foldl_append, hzeros]
  exact ofDigits_digits n

/-- A number has no more digits than its size asks for, and is padded to as
many. -/
theorem length_paddedDigits {width n : Nat} (hwidth : 0 < width)
    (h : n < 10 ^ width) :
    (paddedDigits width n).length = width := by
  have hlength : (digits n).length ≤ width :=
    (Nat.length_toDigits_le_iff (by decide) hwidth).2 h
  rw [paddedDigits, List.length_append, List.length_replicate,
    Nat.sub_add_cancel hlength]

-- ================================================================ order

variable {c d : Char} {ds es l k : List Char}

/-- The ten digits follow each other among the characters, -/
theorem toNat_of_isDigit (h : isDigit c = true) :
    c.toNat = digitValue c + 48 ∧ digitValue c < 10 := by
  simp only [isDigit, Bool.and_eq_true, decide_eq_true_eq, Char.le_def,
    UInt32.le_iff_toNat_le] at h
  have hlow : 48 ≤ c.toNat := h.1
  have hhigh : c.toNat ≤ 57 := h.2
  have hvalue : digitValue c = c.toNat - 48 := rfl
  omega

/-- so they are in the order of their values, -/
theorem lt_iff_digitValue_lt (hc : isDigit c = true) (hd : isDigit d = true) :
    c < d ↔ digitValue c < digitValue d := by
  have hlt : c < d
      ↔ c.toNat < d.toNat := Char.lt_def.trans UInt32.lt_iff_toNat_lt
  rw [hlt, (toNat_of_isDigit hc).1, (toNat_of_isDigit hd).1,
    Nat.add_lt_add_iff_right]

/-- and different ones have different values. -/
theorem digitValue_inj (hc : isDigit c = true) (hd : isDigit d = true) :
    c = d ↔ digitValue c = digitValue d := by
  rw [← Char.toNat_inj, (toNat_of_isDigit hc).1, (toNat_of_isDigit hd).1,
    Nat.add_right_cancel_iff]

/-- What stands before both sides does not count. -/
theorem append_left_lt_iff (cs : List Char) : cs ++ l < cs ++ k ↔ l < k := by
  induction cs with
  | nil => rfl
  | cons c cs ih =>
    rw [List.cons_append, List.cons_append, List.cons_lt_cons_iff, ih]
    simp

/-- Runs of digits of one length are compared by the numbers that they
write. -/
theorem append_lt_append_iff (hlength : ds.length = es.length)
    (hds : ∀ c ∈ ds, isDigit c = true) (hes : ∀ c ∈ es, isDigit c = true) :
    ds ++ l < es ++ k
      ↔ ofDigits ds < ofDigits es ∨ ofDigits ds = ofDigits es ∧ l < k := by
  induction ds using List.reverseRecOn generalizing es l k with
  | nil =>
    cases List.length_eq_zero_iff.1 hlength.symm
    simp
  | append_singleton ds d ih =>
    rcases List.eq_nil_or_concat' es with rfl | ⟨es, e, rfl⟩
    · simp at hlength
    · rw [List.forall_mem_append, List.forall_mem_singleton] at hds hes
      have hshorter : ds.length = es.length := by simpa using hlength
      rw [List.append_assoc, List.append_assoc, ih hshorter hds.1 hes.1]
      -- the last digits count where the digits before them are the same
      rw [List.singleton_append, List.singleton_append, List.cons_lt_cons_iff,
        lt_iff_digitValue_lt hds.2 hes.2, digitValue_inj hds.2 hes.2,
        ofDigits_append_singleton, ofDigits_append_singleton]
      have hd := (toNat_of_isDigit hds.2).2
      have he := (toNat_of_isDigit hes.2).2
      by_cases hlk : l < k
      · simp only [hlk, and_true]
        omega
      · simp only [hlk, and_false, or_false]
        omega

/-- Numbers padded to one length are compared as numbers. -/
theorem paddedDigits_append_lt_iff {width m n : Nat} (hwidth : 0 < width)
    (hm : m < 10 ^ width) (hn : n < 10 ^ width) :
    paddedDigits width m ++ l < paddedDigits width n ++ k
      ↔ m < n ∨ m = n ∧ l < k := by
  have hlength : (paddedDigits width m).length
      = (paddedDigits width n).length := by
    rw [length_paddedDigits hwidth hm, length_paddedDigits hwidth hn]
  rw [append_lt_append_iff hlength (fun _ => isDigit_of_mem_paddedDigits)
    (fun _ => isDigit_of_mem_paddedDigits), ofDigits_paddedDigits,
    ofDigits_paddedDigits]

/-- A run behind another one adds its value, and moves the other one to the
left. -/
theorem ofDigits_append (ds es : List Char) :
    ofDigits (ds ++ es) = ofDigits ds * 10 ^ es.length + ofDigits es := by
  induction es using List.reverseRecOn with
  | nil => simp [ofDigits]
  | append_singleton es e ih =>
    rw [← List.append_assoc, ofDigits_append_singleton, ih,
      ofDigits_append_singleton, List.length_append, List.length_singleton]
    ring

/-- A run is less than the power of ten of its length. -/
theorem ofDigits_lt (hds : ∀ c ∈ ds, isDigit c = true) :
    ofDigits ds < 10 ^ ds.length := by
  induction ds using List.reverseRecOn with
  | nil => exact Nat.one_pos
  | append_singleton ds d ih =>
    rw [List.forall_mem_append, List.forall_mem_singleton] at hds
    have hd := (toNat_of_isDigit hds.2).2
    have hrest := ih hds.1
    rw [ofDigits_append_singleton, List.length_append, List.length_singleton,
      Nat.pow_succ]
    omega

/-- The start of a run of digits writes the number without its last digits. -/
theorem ofDigits_take (n : Nat) (hds : ∀ c ∈ ds, isDigit c = true) :
    ofDigits (ds.take n) = ofDigits ds / 10 ^ (ds.length - n) := by
  have hlast : ofDigits (ds.drop n) < 10 ^ (ds.length - n) := by
    rw [← List.length_drop]
    exact ofDigits_lt fun c hc => hds c (List.mem_of_mem_drop hc)
  have hwhole := ofDigits_append (ds.take n) (ds.drop n)
  rw [List.take_append_drop, List.length_drop] at hwhole
  rw [hwhole, Nat.mul_comm, Nat.mul_add_div (Nat.pow_pos (by decide)),
    Nat.div_eq_of_lt hlast, Nat.add_zero]

/-- Behind runs of digits stands a mark that comes before every digit. A
shorter run comes before a longer one if it is no more than the start of
that. -/
theorem append_mark_lt_iff_of_shorter {mark : Char}
    (hmark : ∀ c, isDigit c = true → mark < c)
    (hds : ∀ c ∈ ds, isDigit c = true) (hes : ∀ c ∈ es, isDigit c = true)
    (hlength : ds.length < es.length) :
    (ds ++ mark :: l < es ++ mark :: k
        ↔ ofDigits ds ≤ ofDigits es / 10 ^ (es.length - ds.length))
      ∧ (es ++ mark :: k < ds ++ mark :: l
        ↔ ofDigits es / 10 ^ (es.length - ds.length) < ofDigits ds) := by
  have htake : (es.take ds.length).length = ds.length :=
    List.length_take_of_le (Nat.le_of_lt hlength)
  have hstart : ∀ c ∈ es.take ds.length, isDigit c = true :=
    fun c hc => hes c (List.mem_of_mem_take hc)
  obtain ⟨x, rest, hrest⟩ : ∃ x rest, es.drop ds.length = x :: rest :=
    List.exists_cons_of_ne_nil fun h =>
      Nat.not_lt.2 (List.drop_eq_nil_iff.1 h) hlength
  have hx : mark < x :=
    hmark x (hes x (List.mem_of_mem_drop (hrest ▸ List.mem_cons_self)))
  have hwhole : es = es.take ds.length ++ x :: rest := by
    rw [← hrest, List.take_append_drop]
  rw [← ofDigits_take _ hes]
  constructor
  · -- behind an equal start the mark of the shorter run comes first
    have hbehind : mark :: l < x :: rest ++ mark :: k :=
      List.cons_lt_cons_iff.2 (.inl hx)
    have horder := append_lt_append_iff (l := mark :: l)
        (k := x :: rest ++ mark :: k) htake.symm hds hstart
    rw [← List.append_assoc, ← hwhole] at horder
    rw [horder, and_iff_left hbehind, Nat.le_iff_lt_or_eq]
  · have hbehind : ¬ x :: rest ++ mark :: k < mark :: l :=
      List.lt_asymm (List.cons_lt_cons_iff.2 (.inl hx))
    have horder := append_lt_append_iff (l := x :: rest ++ mark :: k)
        (k := mark :: l) htake hstart hds
    rw [← List.append_assoc, ← hwhole] at horder
    rw [horder, or_iff_left fun h => hbehind h.2]

end IdentitySearch.Number
