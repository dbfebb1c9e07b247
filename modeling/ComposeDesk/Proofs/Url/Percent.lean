import ComposeDesk.Proofs.Url.Form

/-!
# Escapes

A percent sign and two hexadecimal digits stand for a byte.  Encoding a text adds
escapes and leaves those that are there, so the encoded text is decoded as the text
itself is; and a text is decoded to itself exactly if it has no escape.
-/

namespace ComposeDesk

namespace Percent

def isHex (c : Char) : Bool := (Text.hexDigit? c).isSome

def startsWithDigits : List Char → Bool
  | a :: b :: _ => isHex a && isHex b
  | _ => false

def hasEscape : List Char → Bool
  | [] => false
  | c :: rest => (c == '%' && startsWithDigits rest) || hasEscape rest

def bytes (cs : List Char) : List UInt8 :=
  cs.flatMap String.utf8EncodeChar

theorem encode_ofList (cs : List Char) : Utf8.encode (String.ofList cs) = bytes cs := by
  rw [Utf8.encode_eq, String.toList_ofList, bytes]

theorem bytes_cons (c : Char) (cs : List Char) :
    bytes (c :: cs) = String.utf8EncodeChar c ++ bytes cs :=
  List.flatMap_cons

theorem bytes_append (cs others : List Char) : bytes (cs ++ others) = bytes cs ++ bytes others :=
  List.flatMap_append

/-- A percent sign is one byte. -/
theorem bytes_percent (cs : List Char) : bytes ('%' :: cs) = 37 :: bytes cs := by
  have percent : String.utf8EncodeChar '%' = [37] := by decide
  rw [bytes_cons, percent, List.singleton_append]

theorem toNat_char_of_byte {n : Nat} (small : n < 256) : (Char.ofNat n).toNat = n := by
  rw [Char.ofNat, dif_pos (Or.inl (by omega))]
  rfl

/-- Only the digits and the letters up to `f` are hexadecimal digits. -/
theorem hexDigit?_eq_none_of_lt {c : Char} (high : 102 < c.toNat) : Text.hexDigit? c = none := by
  unfold Text.hexDigit?
  have nine : '9'.toNat = 57 := rfl
  have small : 'f'.toNat = 102 := rfl
  have large : 'F'.toNat = 70 := rfl
  rw [dif_neg (by omega), dif_neg (by omega), dif_neg (by omega)]

/-- The first byte of a character is a hexadecimal digit exactly if the character is, and
then it is the only one. -/
theorem utf8EncodeChar_first (c : Char) :
    ∃ byte more, String.utf8EncodeChar c = byte :: more ∧ hexDigit? byte = Text.hexDigit? c ∧
      (isHex c = true → more = []) := by
  have valid : c.toNat < 0x110000 := by
    rcases c.valid with low | ⟨_, high⟩
    · exact Nat.lt_trans low (by decide)
    · exact high
  have code : c.val.toNat = c.toNat := rfl
  have none_of_high {n : Nat} (high : 102 < n) (small : n < 256) :
      hexDigit? (UInt8.ofNat n) = none := by
    rw [hexDigit?, Utf8.toNat_ofNat small]
    exact hexDigit?_eq_none_of_lt (by rwa [toNat_char_of_byte small])
  by_cases plain : c.toNat ≤ 127
  · refine ⟨UInt8.ofNat c.toNat, [], ?_, ?_, fun _ => rfl⟩
    · rw [String.utf8EncodeChar, code, if_pos plain]
    · rw [hexDigit?, Utf8.toNat_ofNat (by omega), Char.ofNat_toNat]
  · have other : Text.hexDigit? c = none := hexDigit?_eq_none_of_lt (by omega)
    have never : isHex c = true → False := by
      rw [isHex, other]
      exact nofun
    rw [other]
    unfold String.utf8EncodeChar
    rw [code]
    generalize c.toNat = n at valid plain
    simp only [if_neg plain]
    split_ifs
    all_goals exact ⟨_, _, rfl, none_of_high (by omega) (by omega), fun hex => (never hex).elim⟩

theorem decode_cons {byte : UInt8} (other : byte ≠ 37) (rest : List UInt8) :
    decode (byte :: rest) = byte :: decode rest := by
  rw [decode]
  intro _ _ _ sign
  exact absurd sign other

theorem decode_append {front : List UInt8} (plain : ∀ byte ∈ front, byte ≠ 37)
    (rest : List UInt8) : decode (front ++ rest) = front ++ decode rest := by
  induction front with
  | nil => rfl
  | cons byte more ih =>
      have later := ih fun other member => plain other (List.mem_cons_of_mem byte member)
      rw [List.cons_append, decode_cons (plain byte List.mem_cons_self), later, List.cons_append]

/-- The byte that two digits name, and what follows them. -/
def escaped? : List UInt8 → Option (UInt8 × List UInt8)
  | a :: b :: rest =>
      match hexDigit? a, hexDigit? b with
      | some high, some low => some (UInt8.ofNat (high.val * 16 + low.val), rest)
      | _, _ => none
  | _ => none

theorem decode_percent (rest : List UInt8) :
    decode (37 :: rest) =
      match escaped? rest with
      | some (byte, after) => byte :: decode after
      | none => 37 :: decode rest := by
  rcases rest with _ | ⟨a, _ | ⟨b, rest⟩⟩
  · rfl
  · rfl
  · rw [decode, escaped?]
    cases hexDigit? a <;> cases hexDigit? b <;> rfl

theorem escaped?_length {given after : List UInt8} {byte : UInt8}
    (found : escaped? given = some (byte, after)) : after.length + 2 = given.length := by
  rcases given with _ | ⟨a, _ | ⟨b, rest⟩⟩
  · cases found
  · cases found
  · rw [escaped?] at found
    split at found
    · cases found
      rfl
    · cases found

theorem decode_length_le (given : List UInt8) : (decode given).length ≤ given.length := by
  fun_induction decode given with
  | case1 a b rest high low _ _ ih => simp only [List.length_cons] at ih ⊢; omega
  | case2 a b rest _ ih => simp only [List.length_cons] at ih ⊢; omega
  | case3 byte rest _ ih => simpa only [List.length_cons, Nat.add_le_add_iff_right] using ih
  | case4 => exact Nat.le_refl 0

/-- A way of writing characters that keeps percent signs and hexadecimal digits, and writes
others so that they are decoded. -/
structure Writes (write : Char → List Char) : Prop where
  sign : write '%' = ['%']
  digit : ∀ c, isHex c = true → write c = [c]
  other : ∀ c, c ≠ '%' → ∀ rest, decode (bytes (write c) ++ rest) =
    String.utf8EncodeChar c ++ decode rest
  first : ∀ c, isHex c = false → ∃ d more, write c = d :: more ∧ isHex d = false

theorem writes_plain : Writes fun c => [c] where
  sign := rfl
  digit _ _ := rfl
  other c differs rest := by
    rw [bytes_cons, bytes, List.flatMap_nil, List.append_nil]
    exact decode_append (ne_of_mem_utf8EncodeChar differs) rest
  first c none := ⟨c, [], rfl, none⟩

/-- No escape starts with a character that is no digit. -/
theorem escaped?_of_first {c : Char} (none : isHex c = false) (rest : List UInt8) :
    escaped? (String.utf8EncodeChar c ++ rest) = Option.none := by
  obtain ⟨byte, more, written, same, -⟩ := utf8EncodeChar_first c
  rw [isHex, Option.isSome_eq_false_iff, Option.isNone_iff_eq_none] at none
  rw [written, List.cons_append]
  cases more ++ rest with
  | nil => rfl
  | cons second others => simp only [escaped?, same, none]

/-- A hexadecimal digit is written as its byte. -/
theorem utf8EncodeChar_hex {c : Char} (hex : isHex c = true) :
    ∃ byte, String.utf8EncodeChar c = [byte] ∧ hexDigit? byte = Text.hexDigit? c := by
  obtain ⟨byte, more, written, same, alone⟩ := utf8EncodeChar_first c
  rw [alone hex] at written
  exact ⟨byte, written, same⟩

namespace Writes

variable {write : Char → List Char}

/-- Of a text that does not start with two digits, nothing that is written is an escape. -/
theorem escaped?_none (writes : Writes write) {cs : List Char}
    (none : startsWithDigits cs = false) :
    escaped? (bytes (cs.flatMap write)) = Option.none := by
  cases cs with
  | nil => rfl
  | cons a rest =>
      rw [List.flatMap_cons, bytes_append]
      cases hexA : isHex a with
      | false =>
          obtain ⟨d, more, written, other⟩ := writes.first a hexA
          rw [written, bytes_cons, List.append_assoc]
          exact escaped?_of_first other _
      | true =>
          obtain ⟨byte, written, -⟩ := utf8EncodeChar_hex hexA
          rw [writes.digit a hexA, bytes_cons, written]
          cases rest with
          | nil => rfl
          | cons b rest =>
              have hexB : isHex b = false := by
                rw [startsWithDigits, hexA, Bool.true_and] at none
                exact none
              obtain ⟨d, more, written, other⟩ := writes.first b hexB
              obtain ⟨second, others, start, same, -⟩ := utf8EncodeChar_first d
              rw [isHex, Option.isSome_eq_false_iff, Option.isNone_iff_eq_none] at other
              rw [List.flatMap_cons, bytes_append, written, bytes_cons, start]
              simp only [bytes, List.flatMap_nil, List.append_nil, List.cons_append,
                List.nil_append, escaped?, same, other]
              cases hexDigit? byte <;> rfl

/-- Two digits are written as they are. -/
theorem escaped?_digits (writes : Writes write) {a b : Char} (hexA : isHex a = true)
    (hexB : isHex b = true) (rest : List Char) :
    ∃ byte, escaped? (bytes ((a :: b :: rest).flatMap write)) =
        some (byte, bytes (rest.flatMap write)) ∧
      escaped? (bytes (a :: b :: rest)) = some (byte, bytes rest) := by
  obtain ⟨first, writtenA, sameA⟩ := utf8EncodeChar_hex hexA
  obtain ⟨second, writtenB, sameB⟩ := utf8EncodeChar_hex hexB
  obtain ⟨high, knownA⟩ := Option.isSome_iff_exists.mp hexA
  obtain ⟨low, knownB⟩ := Option.isSome_iff_exists.mp hexB
  refine ⟨UInt8.ofNat (high.val * 16 + low.val), ?_, ?_⟩
  · simp only [List.flatMap_cons, writes.digit a hexA, writes.digit b hexB, List.singleton_append,
      bytes_cons, writtenA, writtenB, escaped?, sameA, knownA, sameB, knownB]
  · simp only [bytes_cons, writtenA, writtenB, List.singleton_append, escaped?, sameA, knownA,
      sameB, knownB]

end Writes

/-- A text that does not start with two digits starts with no escape. -/
theorem escaped?_bytes {cs : List Char} (none : startsWithDigits cs = false) :
    escaped? (bytes cs) = Option.none := by
  have plain := writes_plain.escaped?_none none
  rw [List.flatMap_singleton'] at plain
  exact plain

/-- What is written is decoded as the text is. -/
theorem Writes.decode_flatMap {write : Char → List Char} (writes : Writes write)
    (cs : List Char) :
    decode (bytes (cs.flatMap write)) = decode (bytes cs) := by
  -- An escape takes three characters at once, so the induction is on the length.
  induction size : cs.length using Nat.strongRecOn generalizing cs with
  | _ n ih =>
      cases cs with
      | nil => rfl
      | cons c rest =>
          have later := ih rest.length (by rw [← size]; exact Nat.lt_succ_self _) rest rfl
          by_cases sign : c = '%'
          · subst sign
            rw [List.flatMap_cons, writes.sign, List.singleton_append, bytes_percent,
              bytes_percent, decode_percent, decode_percent]
            cases digits : startsWithDigits rest with
            | false =>
                rw [writes.escaped?_none digits, escaped?_bytes digits]
                simp only [later]
            | true =>
                match rest, digits with
                | a :: b :: more, digits =>
                    obtain ⟨hexA, hexB⟩ := Bool.and_eq_true_iff.mp digits
                    obtain ⟨byte, left, right⟩ := writes.escaped?_digits hexA hexB more
                    rw [left, right]
                    simp only [ih more.length (by rw [← size]; simp only [List.length_cons]; omega)
                      more rfl]
          · rw [List.flatMap_cons, bytes_append, writes.other c sign, later, bytes_cons,
              decode_append (ne_of_mem_utf8EncodeChar sign)]

/-- A text is decoded to itself exactly if it has no escape. -/
theorem decode_bytes_iff (cs : List Char) :
    decode (bytes cs) = bytes cs ↔ hasEscape cs = false := by
  induction cs with
  | nil => exact iff_of_true rfl rfl
  | cons c rest ih =>
      by_cases sign : c = '%'
      · subst sign
        rw [bytes_percent, decode_percent, hasEscape, beq_self_eq_true, Bool.true_and]
        cases digits : startsWithDigits rest with
        | false =>
            simp only [escaped?_bytes digits, List.cons.injEq, true_and, ih, Bool.false_or]
        | true =>
            -- An escape is decoded to less than it takes.
            refine iff_of_false (fun same => ?_) (by simp)
            match rest, digits with
            | a :: b :: more, digits =>
                obtain ⟨hexA, hexB⟩ := Bool.and_eq_true_iff.mp digits
                obtain ⟨byte, -, found⟩ := writes_plain.escaped?_digits hexA hexB more
                have size := congrArg List.length same
                simp only [found, List.length_cons] at size
                have shorter := escaped?_length found
                have bound := decode_length_le (bytes more)
                omega
      · have differs : (c == '%') = false := beq_eq_false_iff_ne.mpr sign
        rw [bytes_cons, decode_append (ne_of_mem_utf8EncodeChar sign), hasEscape, differs,
          Bool.false_and, Bool.false_or, List.append_cancel_left_eq]
        exact ih

end Percent

end ComposeDesk
