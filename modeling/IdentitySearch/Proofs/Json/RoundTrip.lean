/-
Every JSON value reads back from its compact text (`read?_compactText`). A
string's characters come back one by one, whether they are written as they are
or escaped; the items of an array and the members of an object come back
because what is written behind each of them, a comma or the closing character,
is no part of a number and ends it. The count that stops the reader is never
less than the characters still to be read.

The reader decides by the first character what is to come. So for each kind of
value there is a lemma about the character that its text begins with
(`writeNumeral_eq_cons`, `writeItems_eq_cons`, `writeMembers_eq_cons`): it is
no blank, and it is not taken for something else, an empty array for instance.
With these the cases of the reader are opened one at a time.

The main lemma is three statements at once, for values, items and members
(`readValue?_write`). Each is said in front of any text that ends a number
(`Ends`), since a number has no closing character of its own, and for any count
that suffices.
-/
import IdentitySearch.Proofs.Json.Numerals

namespace IdentitySearch.Json

open Number

variable {rest : List Char}

-- ============================================================== strings

theorem hexValue?_hexDigit : ∀ n < 16, hexValue? (hexDigit n) = some n := by
  decide

/-- Below the blank, two hexadecimal digits are enough. -/
theorem unit?_hexDigits {n : Nat} (h : n < 0x20) :
    unit? '0' '0' (hexDigit (n / 16)) (hexDigit (n % 16)) = some n := by
  have hzero : hexValue? '0' = some 0 := rfl
  have hhigh := hexValue?_hexDigit (n / 16) (by omega)
  have hlow := hexValue?_hexDigit (n % 16) (by omega)
  simp only [unit?, hzero, hhigh, hlow, Option.some.injEq]
  omega

/-- A quote ends a string. -/
theorem readPieces?_quote (rest : List Char) :
    readPieces? ('"' :: rest) = some ([], rest) := by
  rw [readPieces?.eq_def]
  rfl

/-- A backslash and a letter. -/
theorem readPieces?_letter {e d : Char} (h : escaped? e = some d)
    (rest : List Char) :
    readPieces? ('\\' :: e :: rest)
      = (readPieces? rest).map fun (ps, after) => (.char d :: ps, after) := by
  have he : e ≠ 'u' := by
    rintro rfl
    cases h
  rw [readPieces?.eq_def]
  simp [he, h]

/-- A backslash, the letter u and a code of four digits. -/
theorem readPieces?_unit {i j k l : Char} {unit : Nat}
    (h : unit? i j k l = some unit) (rest : List Char) :
    readPieces? ('\\' :: 'u' :: i :: j :: k :: l :: rest)
      = (readPieces? rest).map fun (ps, after) => (.ofUnit unit :: ps,
        after) := by
  rw [readPieces?.eq_def]
  simp [h]

/-- A character comes back from the way it is written in a string. -/
theorem readPieces?_escapedChar (c : Char) (rest : List Char) :
    readPieces? (escapedChar c ++ rest)
      = (readPieces? rest).map fun (ps, after) => (.char c :: ps, after) := by
  unfold escapedChar
  split
  · next h => subst h; exact readPieces?_letter rfl rest
  split
  · next h => subst h; exact readPieces?_letter rfl rest
  split
  · next h => subst h; exact readPieces?_letter rfl rest
  split
  · next h => subst h; exact readPieces?_letter rfl rest
  split
  · next h => subst h; exact readPieces?_letter rfl rest
  split
  · next h => subst h; exact readPieces?_letter rfl rest
  split
  · next h => subst h; exact readPieces?_letter rfl rest
  split
  · next hcontrol =>
    -- a control character is written by its code
    have hpiece : Piece.ofUnit c.toNat = .char c := by
      unfold Piece.ofUnit
      rw [if_neg (by omega), Char.ofNat_toNat]
    rw [← hpiece]
    exact readPieces?_unit (unit?_hexDigits hcontrol) rest
  · next hquote hback _ _ _ _ _ hcontrol =>
    rw [readPieces?.eq_def]
    simp [hquote, hback, hcontrol]

/-- A string reads back as its characters, up to the closing quote. -/
theorem readPieces?_escapedChars (cs : List Char) (rest : List Char) :
    readPieces? (cs.flatMap escapedChar ++ '"' :: rest)
      = some (cs.map .char, rest) := by
  induction cs with
  | nil => exact readPieces?_quote rest
  | cons c cs ih =>
    rw [List.flatMap_cons, List.append_assoc, readPieces?_escapedChar, ih]
    rfl

/-- Characters that were read as such are no halves of pairs. -/
theorem pair?_chars (cs : List Char) : pair? (cs.map .char) = some cs := by
  induction cs with
  | nil => rfl
  | cons c cs ih =>
    show (pair? (cs.map .char)).map (c :: ·) = some (c :: cs)
    rw [ih]
    rfl

/-- A written string stands after its opening quote, and reads back from there;
one that denotes no text is written as a lone surrogate and denotes none
again. -/
theorem readString?_write (s : Option String) :
    ∃ inside, writeString s = '"' :: inside
      ∧ ∀ rest, readString? (inside ++ rest) = some (s, rest) := by
  cases s with
  | none =>
    refine ⟨['\\', 'u', 'd', '8', '0', '0', '"'], rfl, fun rest => ?_⟩
    have hunit : unit? 'd' '8' '0' '0' = some 0xD800 := by decide
    unfold readString?
    show Option.map _ (readPieces?
        ('\\' :: 'u' :: 'd' :: '8' :: '0' :: '0' :: '"' :: rest)) = _
    rw [readPieces?_unit hunit, readPieces?_quote]
    rfl
  | some s =>
    refine ⟨s.toList.flatMap escapedChar ++ ['"'], rfl, fun rest => ?_⟩
    unfold readString?
    rw [List.append_assoc]
    show Option.map _
        (readPieces? (s.toList.flatMap escapedChar ++ '"' :: rest)) = _
    rw [readPieces?_escapedChars]
    simp [pair?_chars]

-- =============================================================== values

/-- The closing characters and the comma end a number. -/
theorem ends_cons {c : Char} (h : c = ',' ∨ c = ']' ∨ c = '\x7d')
    (rest : List Char) :
    Ends (c :: rest) := by
  intro d hd
  cases hd
  obtain rfl | rfl | rfl := h
  · decide
  · decide
  · decide

/-- A blank is taken off only where one stands. -/
theorem skipSpace_cons {c : Char} (h : isSpace c = false) (rest : List Char) :
    skipSpace (c :: rest) = c :: rest :=
  List.dropWhile_cons_of_neg (by simp [h])

/-- The first character of a numeral. -/
def BeginsNumeral (c : Char) : Prop :=
  c = '-' ∨ isDigit c = true

/-- A numeral begins like no other value, and neither with a blank nor with a
closing bracket. -/
theorem BeginsNumeral.ne_of_mem {c : Char} (h : BeginsNumeral c) :
    ∀ d ∈ ['"', '[', '\x7b', 'n', 't', 'f', ']', ' ', '\n', '\t', '\r'],
      c ≠ d := by
  have hother : ∀ d ∈ ['"', '[', '\x7b', 'n', 't', 'f', ']', ' ', '\n',
      '\t', '\r'],
      ¬ BeginsNumeral d := by
    simp [BeginsNumeral, isDigit]
  rintro d hd rfl
  exact hother c hd h

/-- A number does not begin with a blank. -/
theorem BeginsNumeral.isSpace_eq_false {c : Char} (h : BeginsNumeral c) :
    isSpace c = false := by
  have hne := h.ne_of_mem
  simp only [List.mem_cons, forall_eq_or_imp] at hne
  simp [isSpace, hne]

/-- A natural number begins with a digit, -/
theorem digits_eq_cons (n : Nat) :
    ∃ c cs, digits n = c :: cs ∧ BeginsNumeral c := by
  cases h : digits n with
  | nil => exact absurd h (digits_ne_nil n)
  | cons d ds =>
    exact ⟨d, ds, rfl, .inr (isDigit_of_mem_digits (h ▸ List.mem_cons_self))⟩

/-- and any number with a digit or a minus. -/
theorem writeNumeral_eq_cons (n : Numeral) :
    ∃ c cs, writeNumeral n = c :: cs ∧ BeginsNumeral c := by
  cases n with
  | integer n =>
    simp only [writeNumeral, writeInt]
    split
    · exact ⟨'-', _, rfl, .inl rfl⟩
    · exact digits_eq_cons n.natAbs
  | decimal negative n e =>
    cases negative with
    | true => exact ⟨'-', _, rfl, .inl rfl⟩
    | false =>
      obtain ⟨c, cs, hdigits, hc⟩ := digits_eq_cons n
      exact ⟨c, cs ++ 'e' :: writeInt e, by simp [writeNumeral, hdigits], hc⟩

/-- What begins like a number is read as one. -/
theorem readValue?_numeral {c : Char} (h : BeginsNumeral c) (fuel : Nat)
    (cs : List Char) :
    readValue? (fuel + 1) (c :: cs)
      = (readNumeral? (c :: cs)).map fun (n, after) => (.number n, after) := by
  have hne := h.ne_of_mem
  simp only [List.mem_cons, forall_eq_or_imp] at hne
  simp [readValue?, skipSpace_cons h.isSpace_eq_false, hne]

/-- No value is written with a blank or a closing bracket in front. -/
theorem write_eq_cons (j : Json) :
    ∃ c cs, j.write = c :: cs ∧ isSpace c = false ∧ c ≠ ']' := by
  cases j with
  | null => exact ⟨'n', _, rfl, rfl, by simp⟩
  | bool b =>
    cases b with
    | true => exact ⟨'t', _, rfl, rfl, by simp⟩
    | false => exact ⟨'f', _, rfl, rfl, by simp⟩
  | number n =>
    obtain ⟨c, cs, hwrite, hc⟩ := writeNumeral_eq_cons n
    exact ⟨c, cs, hwrite, hc.isSpace_eq_false, hc.ne_of_mem ']' (by simp)⟩
  | string s =>
    obtain ⟨inside, hwrite, -⟩ := readString?_write s
    exact ⟨'"', inside, hwrite, rfl, by simp⟩
  | array items => exact ⟨'[', _, rfl, rfl, by simp⟩
  | object members => exact ⟨'\x7b', _, rfl, rfl, by simp⟩

/-- Items begin neither with a blank nor with the bracket that would close
them. -/
theorem writeItems_eq_cons (item : Json) (more : List Json) :
    ∃ c cs, writeItems (item :: more) = c :: cs ∧ isSpace c = false
      ∧ c ≠ ']' := by
  obtain ⟨c, cs, hwrite, hc⟩ := write_eq_cons item
  cases more with
  | nil => exact ⟨c, cs, by simpa [writeItems] using hwrite, hc⟩
  | cons next more => exact ⟨c, _, by rw [writeItems, hwrite]; rfl, hc⟩

/-- Members begin with the quote of a name. -/
theorem writeMembers_eq_cons (m : Option String × Json)
    (more : List (Option String × Json)) :
    ∃ cs, writeMembers (m :: more) = '"' :: cs := by
  obtain ⟨name, value⟩ := m
  obtain ⟨inside, hwrite, -⟩ := readString?_write name
  cases more with
  | nil => exact ⟨inside ++ ':' :: value.write, by simp [writeMembers, hwrite]⟩
  | cons next more =>
    exact ⟨inside ++ ':' :: (value.write
      ++ ',' :: writeMembers (next :: more)), by simp [writeMembers, hwrite]⟩

-- An array or an object with something in it is read item by item or member by
-- member.

/-- So an array with items in it is not taken for an empty one, -/
theorem readValue?_items {items : List Json} (h : items ≠ []) (fuel : Nat) :
    readValue? (fuel + 1) ('[' :: (writeItems items ++ rest))
      = (readItems? fuel (writeItems items ++ rest)).map
          fun (items, after) => (.array items, after) := by
  cases items with
  | nil => exact absurd rfl h
  | cons item more =>
    obtain ⟨c, cs, hwrite, hc, hclose⟩ := writeItems_eq_cons item more
    simp [readValue?, hwrite, skipSpace_cons (rfl : isSpace '[' = false),
      skipSpace_cons hc, hclose]

/-- nor an object with members for an empty one. -/
theorem readValue?_members {members : List (Option String × Json)}
    (h : members ≠ [])
    (fuel : Nat) :
    readValue? (fuel + 1) ('\x7b' :: (writeMembers members ++ rest))
      = (readMembers? fuel (writeMembers members ++ rest)).map
          fun (members, after) => (.object members, after) := by
  cases members with
  | nil => exact absurd rfl h
  | cons m more =>
    obtain ⟨cs, hwrite⟩ := writeMembers_eq_cons m more
    simp [readValue?, hwrite, skipSpace_cons (rfl : isSpace '\x7b' = false),
      skipSpace_cons (rfl : isSpace '"' = false)]

mutual

/-- A value reads back from its text, in front of whatever ends it. -/
theorem readValue?_write (j : Json) (fuel : Nat) (rest : List Char)
    (hfuel : j.write.length ≤ fuel) (hrest : Ends rest) :
    readValue? fuel (j.write ++ rest) = some (j, rest) := by
  match j, fuel with
  | j, 0 =>
    obtain ⟨c, cs, hwrite, -⟩ := write_eq_cons j
    rw [hwrite] at hfuel
    exact absurd hfuel (Nat.not_succ_le_zero _)
  | .null, fuel + 1 => rfl
  | .bool true, fuel + 1 => rfl
  | .bool false, fuel + 1 => rfl
  | .number n, fuel + 1 =>
    obtain ⟨c, cs, hwrite, hc⟩ := writeNumeral_eq_cons n
    have hread := readNumeral?_write n hrest
    rw [hwrite, List.cons_append] at hread
    rw [write, hwrite, List.cons_append, readValue?_numeral hc, hread]
    rfl
  | .string s, fuel + 1 =>
    obtain ⟨inside, hwrite, hread⟩ := readString?_write s
    rw [write, hwrite, List.cons_append]
    show (readString? (inside ++ rest)).map _ = _
    rw [hread]
    rfl
  | .array [], fuel + 1 => rfl
  | .array (item :: more), fuel + 1 =>
    have hlength : (writeItems (item :: more)).length < fuel := by
      simp only [write, List.length_cons, List.length_append,
        List.length_nil] at hfuel
      omega
    have hread := readItems?_write (item :: more) fuel rest (by simp) hlength
    rw [write, List.cons_append, List.cons_append, List.append_assoc,
      List.cons_append, List.nil_append, readValue?_items (by simp), hread]
    rfl
  | .object [], fuel + 1 => rfl
  | .object (m :: more), fuel + 1 =>
    have hlength : (writeMembers (m :: more)).length < fuel := by
      simp only [write, List.length_cons, List.length_append,
        List.length_nil] at hfuel
      omega
    have hread := readMembers?_write (m :: more) fuel rest (by simp) hlength
    rw [write, List.cons_append, List.cons_append, List.append_assoc,
      List.cons_append, List.nil_append, readValue?_members (by simp), hread]
    rfl

theorem readItems?_write (items : List Json) (fuel : Nat) (rest : List Char)
    (hitems : items ≠ []) (hfuel : (writeItems items).length < fuel) :
    readItems? fuel (writeItems items ++ ']' :: rest)
      = some (items, rest) := by
  match items, fuel with
  | [item], fuel + 1 =>
    have hread := readValue?_write item fuel (']' :: rest)
        (Nat.le_of_lt_succ hfuel) (ends_cons (.inr (.inl rfl)) rest)
    simp [writeItems, readItems?, hread,
      skipSpace_cons (rfl : isSpace ']' = false)]
  | item :: next :: more, fuel + 1 =>
    simp only [writeItems, List.length_append, List.length_cons] at hfuel
    have hread := readValue?_write item fuel
        (',' :: (writeItems (next :: more) ++ ']' :: rest)) (by omega)
          (ends_cons (.inl rfl) _)
    have hmore :=
      readItems?_write (next :: more) fuel rest (by simp) (by omega)
    simp [writeItems, readItems?, hread, hmore,
      skipSpace_cons (rfl : isSpace ',' = false)]

theorem readMembers?_write (members : List (Option String × Json)) (fuel : Nat)
    (rest : List Char) (hmembers : members ≠ [])
    (hfuel : (writeMembers members).length < fuel) :
    readMembers? fuel (writeMembers members ++ '\x7d' :: rest)
      = some (members, rest) := by
  match members, fuel with
  | [(name, value)], fuel + 1 =>
    obtain ⟨inside, hwrite, hname⟩ := readString?_write name
    simp only [writeMembers, hwrite, List.length_append,
      List.length_cons] at hfuel
    have hread := readValue?_write value fuel ('\x7d' :: rest) (by omega)
      (ends_cons (.inr (.inr rfl)) rest)
    simp [writeMembers, hwrite, readMembers?, hname, hread,
      skipSpace_cons (rfl : isSpace '"' = false),
      skipSpace_cons (rfl : isSpace ':' = false),
      skipSpace_cons (rfl : isSpace '\x7d' = false)]
  | (name, value) :: next :: more, fuel + 1 =>
    obtain ⟨inside, hwrite, hname⟩ := readString?_write name
    simp only [writeMembers, hwrite, List.length_append,
      List.length_cons] at hfuel
    have hread := readValue?_write value fuel
      (',' :: (writeMembers (next :: more) ++ '\x7d' :: rest)) (by omega)
        (ends_cons (.inl rfl) _)
    have hmore :=
      readMembers?_write (next :: more) fuel rest (by simp) (by omega)
    simp [writeMembers, hwrite, readMembers?, hname, hread, hmore,
      skipSpace_cons (rfl : isSpace '"' = false),
      skipSpace_cons (rfl : isSpace ':' = false),
      skipSpace_cons (rfl : isSpace ',' = false)]

end

/-- A value reads back from its compact text. -/
theorem read?_compactText (j : Json) : read? j.compactText = some j := by
  have hread := readValue?_write j (2 * j.compactText.length + 2) []
    (by simp [compactText]; omega) (fun c hc => nomatch hc)
  rw [List.append_nil] at hread
  unfold read?
  rw [compactText, String.toList_ofList] at *
  rw [hread]
  rfl

end IdentitySearch.Json
