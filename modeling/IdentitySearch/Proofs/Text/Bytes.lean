/-
Texts in the order of their bytes. A text is stored as the bytes that encode
its characters, one after the other, and texts are compared by these. Since the
encoding of a smaller character is less at the first byte where they differ
(`encode_lt`), this is the order of texts by their characters (`bytes_lt_iff`).

A character is encoded in one to four bytes, by its size. Of two characters
with encodings of different lengths the longer encoding begins with the greater
byte. Where the lengths are equal, the bytes are the digits of the characters
to the base sixty-four, from the highest, each with a mark; so the first byte
that differs is the first digit that does (`div_lt_or_mod_lt`).
-/
import Mathlib.Data.List.Lex
import Mathlib.Data.String.Basic

namespace IdentitySearch.Text

/-- The bytes of a text. -/
def bytes (s : String) : List UInt8 :=
  s.toUTF8.data.toList

theorem bytes_eq (s : String) :
    bytes s = s.toList.flatMap String.utf8EncodeChar := by
  rw [bytes, String.toUTF8_eq_toByteArray, ← String.utf8Encode_toList,
    List.utf8Encode, List.toList_data_toByteArray]

/-- Bytes that start with small numbers. -/
theorem cons_ofNat_lt {m n : Nat} (hm : m < 256) (hn : n < 256)
    {l k : List UInt8} :
    UInt8.ofNat m :: l < UInt8.ofNat n :: k ↔ m < n ∨ m = n ∧ l < k := by
  rw [List.cons_lt_cons_iff, UInt8.lt_iff_toNat_lt, ← UInt8.toNat_inj,
    UInt8.toNat_ofNat', UInt8.toNat_ofNat', Nat.mod_eq_of_lt hm,
      Nat.mod_eq_of_lt hn]

/-- The smaller number is smaller without the last digit, or at the last
digit. -/
theorem div_lt_or_mod_lt {v w : Nat} (h : v < w) :
    v / 64 < w / 64 ∨ v / 64 = w / 64 ∧ v % 64 < w % 64 := by
  omega

/-- A smaller character has smaller bytes, whatever comes after it. -/
theorem encode_lt {c d : Char} (h : c < d) (l m : List UInt8) :
    String.utf8EncodeChar c ++ l < String.utf8EncodeChar d ++ m := by
  have hlt : c.val.toNat < d.val.toNat :=
    UInt32.lt_iff_toNat_lt.1 (Char.lt_def.1 h)
  have hmax : d.val.toNat < 0x110000 := by
    have hvalid := d.valid
    simp only [UInt32.isValidChar, Nat.isValidChar] at hvalid
    omega
  unfold String.utf8EncodeChar
  generalize c.val.toNat = v at hlt
  generalize d.val.toNat = w at hlt hmax
  -- the digits to the base of 64, one of which the bytes after the first one
  -- hold each
  have hdigits := div_lt_or_mod_lt hlt
  have hdigits₂ := fun h => div_lt_or_mod_lt (v := v / 64) (w := w / 64) h
  have hdigits₃ := fun h => div_lt_or_mod_lt (v := v / 4096) (w := w / 4096) h
  simp only [Nat.div_div_eq_div_mul, Nat.reduceMul] at hdigits₂ hdigits₃
  have hfirst : v / 262144 % 8 = v / 262144 := Nat.mod_eq_of_lt (by omega)
  have hfirst' : w / 262144 % 8 = w / 262144 := Nat.mod_eq_of_lt (by omega)
  dsimp only
  split_ifs <;> simp (disch := omega) only [List.cons_append, List.nil_append,
    cons_ofNat_lt] <;> omega

/-- So a smaller list of characters has smaller bytes. -/
theorem flatMap_encode_lt {l m : List Char} (h : l < m) :
    l.flatMap String.utf8EncodeChar < m.flatMap String.utf8EncodeChar := by
  induction h with
  | @nil c m =>
    obtain ⟨b, bs, hb⟩ :=
      List.exists_cons_of_ne_nil (String.utf8EncodeChar_ne_nil (c := c))
    rw [List.flatMap_cons, hb]
    exact List.Lex.nil
  | cons _ ih => exact List.Lex.append_left _ ih _
  | rel hlt => exact encode_lt hlt _ _

/-- Texts in the order of their bytes are in the order of their characters. -/
theorem bytes_lt_iff {s t : String} : bytes s < bytes t ↔ s < t := by
  rw [bytes_eq, bytes_eq, String.lt_iff_toList_lt]
  constructor
  · intro h
    rcases lt_trichotomy s.toList t.toList with hlt | heq | hlt
    · exact hlt
    · rw [heq] at h
      exact absurd h (List.lt_irrefl _)
    · exact absurd h (List.lt_asymm (flatMap_encode_lt hlt))
  · exact flatMap_encode_lt

end IdentitySearch.Text
