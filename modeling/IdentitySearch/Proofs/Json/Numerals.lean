/-
Numbers in JSON text. The digits of a number read back as the number, without a
zero in front, and so does every numeral as it is written, as long as what
stands behind it cannot be taken for more of it (`readNumeral?_write`).

A number has no closing character, so nothing can be said about its text alone:
what follows decides where it ends. That is `Ends`, and in front of such a rest
each part of a numeral is read in turn, the digits of the whole part, the
fraction that is never written, and the power. A whole part with a zero in
front would be refused, but digits are written without one
(`eq_zero_of_digits`).
-/
import IdentitySearch.Json.Reader
import IdentitySearch.Json.Writer
import IdentitySearch.Proofs.Number.Digits

namespace IdentitySearch

-- =============================================================== digits

namespace Number

/-- Only zero is written with a zero in front. -/
theorem eq_zero_of_digits {n : Nat} {ds : List Char}
    (h : digits n = '0' :: ds) : n = 0 := by
  induction n using Nat.strongRecOn generalizing ds with
  | _ n ih =>
    unfold digits at h ih
    rw [Nat.toDigits_eq_if (by decide)] at h
    split at h
    · injection h with h
      exact Nat.digitChar_eq_zero.1 h
    · next hlarge =>
      -- the first digit is that of what is left without the last one
      cases hrest : Nat.toDigits 10 (n / 10) with
      | nil => exact absurd hrest Nat.toDigits_ne_nil
      | cons d more =>
        rw [hrest] at h
        injection h with hd
        rw [hd] at hrest
        have hzero := ih (n / 10) (by omega) hrest
        omega

/-- Digits are taken off the front of a text up to what is no digit. -/
theorem spanDigits_digits_append (n : Nat) {rest : List Char}
    (h : ∀ c ∈ rest.head?, isDigit c = false) :
    spanDigits (digits n ++ rest) = (digits n, rest) := by
  have hdigits : ∀ c ∈ digits n, isDigit c = true :=
    fun c hc => isDigit_of_mem_digits hc
  unfold spanDigits
  rw [List.takeWhile_append_of_pos hdigits,
    List.dropWhile_append_of_pos hdigits]
  cases rest with
  | nil => simp
  | cons c more =>
    have hc : ¬ isDigit c = true := by simp [h c rfl]
    rw [List.takeWhile_cons_of_neg hc, List.dropWhile_cons_of_neg hc,
      List.append_nil]

/-- Digits begin with no sign. -/
theorem splitSign_digits_append (n : Nat) (rest : List Char) :
    splitSign (digits n ++ rest) = (false, digits n ++ rest) := by
  cases hdigits : digits n with
  | nil => exact absurd hdigits (digits_ne_nil n)
  | cons d ds =>
    have hd : isDigit d = true :=
      isDigit_of_mem_digits (hdigits ▸ List.mem_cons_self)
    rw [List.cons_append]
    unfold splitSign
    split
    · next heq =>
      injection heq with heq
      exact absurd hd (by rw [heq]; decide)
    · next heq =>
      injection heq with heq
      exact absurd hd (by rw [heq]; decide)
    · rfl

end Number

-- ============================================================= numerals

namespace Json

open Number

/-- What stands behind a number and is no part of it. -/
def Ends (rest : List Char) : Prop :=
  ∀ c ∈ rest.head?, isDigit c = false ∧ c ≠ '.' ∧ c ≠ 'e' ∧ c ≠ 'E'

variable {rest : List Char}

theorem Ends.not_digit (h : Ends rest) : ∀ c ∈ rest.head?, isDigit c = false :=
  fun c hc => (h c hc).1

/-- The whole part of a number is read up to where its digits end, -/
theorem readWhole?_digits (n : Nat) (h : ∀ c ∈ rest.head?, isDigit c = false) :
    readWhole? (digits n ++ rest) = some (digits n, rest) := by
  unfold readWhole?
  rw [spanDigits_digits_append n h]
  dsimp only
  split
  · next hnil => exact absurd hnil (digits_ne_nil n)
  · rfl
  · next ds hne hzero =>
    cases eq_zero_of_digits hzero
    cases hzero
    exact absurd rfl hne
  · rfl

/-- there is no fraction without a point, -/
theorem readFractionDigits?_of_ne (h : ∀ c ∈ rest.head?, c ≠ '.') :
    readFractionDigits? rest = some (none, rest) := by
  unfold readFractionDigits?
  split
  · exact absurd rfl (h '.' rfl)
  · rfl

/-- and no power behind what ends a number. -/
theorem readPower?_of_ends (h : Ends rest) :
    readPower? rest = some (none, rest) := by
  cases rest with
  | nil => rfl
  | cons c more =>
    obtain ⟨-, -, he, hE⟩ := h c rfl
    exact if_neg (not_or.2 ⟨he, hE⟩)

/-- An integer is read as its sign and its digits. -/
theorem splitSign_writeInt (n : Int) (rest : List Char) :
    splitSign (writeInt n ++ rest)
      = (decide (n < 0), digits n.natAbs ++ rest) := by
  unfold writeInt
  by_cases h : n < 0
  · rw [if_pos h, decide_eq_true h]
    rfl
  · rw [if_neg h, splitSign_digits_append, decide_eq_false h]

/-- The absolute value with the sign is the integer. -/
theorem signed_natAbs (n : Int) :
    (if decide (n < 0) = true then -(n.natAbs : Int) else n.natAbs) = n := by
  simp only [decide_eq_true_eq]
  split
  · omega
  · omega

/-- A power is read back with its sign. -/
theorem readPower?_writeInt (n : Int) (h : Ends rest) :
    readPower? ('e' :: (writeInt n ++ rest)) = some (some n, rest) := by
  have hempty : ¬ (digits n.natAbs).isEmpty = true := by
    rw [List.isEmpty_iff]
    exact digits_ne_nil n.natAbs
  simp only [readPower?, splitSign_writeInt,
    spanDigits_digits_append _ h.not_digit, ofDigits_digits, signed_natAbs,
      if_neg hempty]
  rfl

/-- A numeral without its sign is read up to what ends it. -/
theorem readUnsigned?_integer (negative : Bool) {n : Nat}
    (hn : ¬ (negative = true ∧ n = 0)) (h : Ends rest) :
    readUnsigned? negative (digits n ++ rest)
      = some (.integer (if negative then -(n : Int) else n), rest) := by
  unfold readUnsigned?
  rw [readWhole?_digits n h.not_digit]
  show (readFractionDigits? rest >>= _) = _
  rw [readFractionDigits?_of_ne fun c hc => (h c hc).2.1]
  show (readPower? rest >>= _) = _
  rw [readPower?_of_ends h]
  show (if _ then _ else _) = _
  rw [ofDigits_digits, if_pos ⟨rfl, rfl, hn⟩]

/-- A decimal is read back as its digits and its power. -/
theorem readUnsigned?_decimal (negative : Bool) (n : Nat) (e : Int)
    (h : Ends rest) :
    readUnsigned? negative (digits n ++ 'e' :: (writeInt e ++ rest))
      = some (.decimal negative n e, rest) := by
  have hdigit : ∀ c ∈ ('e' :: (writeInt e ++ rest)).head?,
      isDigit c = false := by
    intro c hc
    cases hc
    decide
  have hpoint : ∀ c ∈ ('e' :: (writeInt e ++ rest)).head?, c ≠ '.' := by
    intro c hc
    cases hc
    decide
  simp only [readUnsigned?, readWhole?_digits n hdigit,
    readFractionDigits?_of_ne hpoint, readPower?_writeInt e h,
    Option.bind_eq_bind, Option.bind_some]
  rw [if_neg fun hplain => by simp at hplain]
  simp [ofDigits_digits]

/-- A text that begins with a digit is read as a number without a sign. -/
theorem readNumeral?_digits (n : Nat) (rest : List Char) :
    readNumeral? (digits n ++ rest)
      = readUnsigned? false (digits n ++ rest) := by
  have hsplit := splitSign_digits_append n rest
  unfold readNumeral?
  split
  · next more heq =>
    rw [heq] at hsplit
    cases hsplit
  · rfl

/-- A numeral reads back from its text. -/
theorem readNumeral?_write (n : Numeral) (h : Ends rest) :
    readNumeral? (writeNumeral n ++ rest) = some (n, rest) := by
  cases n with
  | integer n =>
    show readNumeral? (writeInt n ++ rest) = _
    unfold writeInt
    by_cases hn : n < 0
    · have hminus : readNumeral? ('-' :: (digits n.natAbs ++ rest))
          = readUnsigned? true (digits n.natAbs ++ rest) := rfl
      rw [if_pos hn, List.cons_append, hminus,
        readUnsigned?_integer true (fun hzero => by omega) h, if_pos rfl]
      have hneg : -(n.natAbs : Int) = n := by omega
      rw [hneg]
    · rw [if_neg hn, readNumeral?_digits,
        readUnsigned?_integer false (fun hfalse => nomatch hfalse.1) h]
      have hpos : (n.natAbs : Int) = n := by omega
      rw [if_neg Bool.false_ne_true, hpos]
  | decimal negative n e =>
    have hread := readUnsigned?_decimal negative n e h
    cases negative with
    | true =>
      have hminus :
          readNumeral? ('-' :: (digits n ++ 'e' :: (writeInt e ++ rest)))
          = readUnsigned? true (digits n ++ 'e' :: (writeInt e ++ rest)) := rfl
      rw [← hread, ← hminus]
      simp [writeNumeral]
    | false =>
      rw [← hread, ← readNumeral?_digits]
      simp [writeNumeral]

end Json

end IdentitySearch
