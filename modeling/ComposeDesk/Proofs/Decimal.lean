import ComposeDesk.Decimal.Digits
import ComposeDesk.Proofs.Itemwise
import Mathlib.Algebra.Group.Nat.Defs

/-!
# Numbers through their digits

A natural number is read back from its digits wherever it is not too large.  The
reading carries the number that the digits so far mean, so it is followed from the
first digit on.
-/

namespace ComposeDesk

namespace Decimal

theorem digit?_digitChar : ∀ d < 10, digit? (digitChar d) = some d := by
  decide

theorem digitChar_ne_sign : ∀ d < 10, digitChar d ≠ '+' ∧ digitChar d ≠ '-' := by
  decide

theorem bounded_digitChar {most d : Nat} (excess : Fault) (start : Nat) (small : d < 10)
    (fits : start * 10 + d ≤ most) (rest : List Char) :
    bounded most excess start (digitChar d :: rest) =
      bounded most excess (start * 10 + d) rest := by
  simp only [bounded, digit?_digitChar d small, if_neg (Nat.not_lt.mpr fits)]

/-- The digits of a number are read as this number, and what follows continues it. -/
theorem bounded_digits {most n : Nat} (excess : Fault) (fits : n ≤ most) (rest : List Char) :
    bounded most excess 0 (digits n ++ rest) = bounded most excess n rest := by
  induction n using digits.induct generalizing rest with
  | case1 n single =>
      rw [digits, if_pos single, List.singleton_append,
        bounded_digitChar excess 0 single (by omega)]
      rw [Nat.zero_mul, Nat.zero_add]
  | case2 n several ih =>
      have whole : n / 10 * 10 + n % 10 = n := by omega
      rw [digits, if_neg several, List.append_assoc, ih (by omega), List.singleton_append,
        bounded_digitChar excess _ (by omega) (by omega), whole]

/-- The first character of a number is a digit. -/
theorem digits_first (n : Nat) : ∃ d rest, d < 10 ∧ digits n = digitChar d :: rest := by
  induction n using digits.induct with
  | case1 n single =>
      exact ⟨n, [], single, by rw [digits, if_pos single]⟩
  | case2 n several ih =>
      obtain ⟨d, rest, small, first⟩ := ih
      exact ⟨d, _, small, by rw [digits, if_neg several, first, List.cons_append]⟩

/-- A text that starts with neither sign is a number as it stands. -/
theorem integer_unsigned (least most : Nat) {c : Char} {rest : List Char} {text : String}
    (first : text.toList = c :: rest) (plus : c ≠ '+') (minus : c ≠ '-') :
    integer least most text = (bounded most .tooLarge 0 (c :: rest)).map Int.ofNat := by
  unfold integer
  rw [first]
  split
  case h_1 none => cases none
  case h_2 sign => exact absurd (List.cons.inj sign).1 plus
  case h_3 sign => exact absurd (List.cons.inj sign).1 minus
  case h_4 sign => exact absurd (List.cons.inj sign).1 plus
  case h_5 sign => exact absurd (List.cons.inj sign).1 minus
  case h_6 => rfl

theorem integer_ofNat {most n : Nat} (least : Nat) (fits : n ≤ most) :
    integer least most (ofNat n) = .ok (n : Int) := by
  have read := bounded_digits .tooLarge fits []
  obtain ⟨d, rest, small, first⟩ := digits_first n
  obtain ⟨plus, minus⟩ := digitChar_ne_sign d small
  have text : (ofNat n).toList = digitChar d :: rest := String.toList_ofList.trans first
  rw [List.append_nil, first] at read
  rw [integer_unsigned least most text plus minus, read]
  rfl

/-- A number that is neither negative nor too large is read back from its text. -/
theorem integer_ofInt {most : Nat} {n : Int} (least : Nat) (natural : 0 ≤ n) (fits : n ≤ most) :
    integer least most (ofInt n) = .ok n := by
  obtain ⟨n, rfl⟩ := Int.eq_ofNat_of_zero_le natural
  exact integer_ofNat least (Int.ofNat_le.mp fits)

theorem bounded_le {most start n : Nat} {excess : Fault} {cs : List Char} (fits : start ≤ most)
    (read : bounded most excess start cs = .ok n) : n ≤ most := by
  induction cs generalizing start with
  | nil =>
      cases read
      exact fits
  | cons c rest ih =>
      rw [bounded] at read
      cases digit : digit? c with
      | none =>
          rw [digit] at read
          cases read
      | some d =>
          rw [digit] at read
          simp only at read
          by_cases large : most < start * 10 + d
          · rw [if_pos large] at read
            cases read
          · rw [if_neg large] at read
            exact ih (Nat.not_lt.mp large) read

/-- A number that was read is not too large. -/
theorem integer_le {least most : Nat} {text : String} {n : Int}
    (read : integer least most text = .ok n) : n ≤ most := by
  have plain {cs : List Char} (read : (bounded most .tooLarge 0 cs).map Int.ofNat = .ok n) :
      n ≤ most := by
    obtain ⟨value, found, rfl⟩ := map_eq_ok read
    exact Int.ofNat_le.mpr (bounded_le (Nat.zero_le most) found)
  unfold integer at read
  split at read
  case h_1 | h_2 | h_3 => cases read
  case h_4 | h_6 => exact plain read
  case h_5 =>
    by_cases unsigned : least = 0
    · rw [if_pos unsigned] at read
      cases read
    · rw [if_neg unsigned] at read
      obtain ⟨value, -, rfl⟩ := map_eq_ok read
      show -(value : Int) ≤ most
      omega

/-- A number that is not negative is written in digits. -/
theorem mem_ofInt {n : Int} (natural : 0 ≤ n) {c : Char} (member : c ∈ (ofInt n).toList) :
    ∃ d < 10, c = digitChar d := by
  obtain ⟨n, rfl⟩ := Int.eq_ofNat_of_zero_le natural
  have text : (ofInt n).toList = digits n := String.toList_ofList
  rw [text] at member
  clear natural text
  induction n using digits.induct with
  | case1 n single =>
      rw [digits, if_pos single, List.mem_singleton] at member
      exact ⟨n, single, member⟩
  | case2 n several ih =>
      rw [digits, if_neg several, List.mem_append, List.mem_singleton] at member
      rcases member with earlier | last
      · exact ih earlier
      · exact ⟨n % 10, by omega, last⟩

/-! ## The value of digits -/

theorem isDigit_digitChar : ∀ d < 10, isDigit (digitChar d) = true := by
  decide

theorem isDigit_iff {c : Char} : isDigit c = true ↔ 48 ≤ c.toNat ∧ c.toNat ≤ 57 := by
  have bounds : ('0' ≤ c ∧ c ≤ '9') ↔ 48 ≤ c.toNat ∧ c.toNat ≤ 57 := Iff.rfl
  rw [isDigit, digit?, ← bounds]
  split
  · next inside => exact iff_of_true rfl inside
  · next outside => exact iff_of_false Bool.false_ne_true outside

theorem digit?_of_isDigit {c : Char} (digit : isDigit c = true) :
    digit? c = some (c.toNat - 48) := by
  have bounds : '0' ≤ c ∧ c ≤ '9' := isDigit_iff.mp digit
  rw [digit?, if_pos bounds]
  rfl

/-- The value of a digit is below ten. -/
theorem digit?_lt {c : Char} {d : Nat} (digit : digit? c = some d) : d < 10 := by
  have isDigit := Option.isSome_of_eq_some digit
  have inside := isDigit_iff.mp isDigit
  rw [digit?_of_isDigit isDigit] at digit
  cases digit
  omega

theorem valueFrom_append (start : Nat) (cs more : List Char) :
    valueFrom start (cs ++ more) = valueFrom (valueFrom start cs) more :=
  List.foldl_append

theorem valueFrom_lt (start : Nat) (cs : List Char) :
    valueFrom start cs < (start + 1) * 10 ^ cs.length := by
  induction cs generalizing start with
  | nil =>
      rw [List.length_nil, Nat.pow_zero, Nat.mul_one]
      exact Nat.lt_succ_self start
  | cons c cs ih =>
      have digit : (digit? c).getD 0 < 10 := by
        cases found : digit? c with
        | none => exact Nat.zero_lt_succ 9
        | some d => exact digit?_lt found
      have later := ih (start * 10 + (digit? c).getD 0)
      refine Nat.lt_of_lt_of_le later ?_
      rw [List.length_cons, Nat.pow_succ', ← Nat.mul_assoc]
      exact Nat.mul_le_mul_right _ (by omega)

/-- What two digits mean. -/
theorem value_pair {a b : Char} (first : isDigit a = true) (second : isDigit b = true) :
    value [a, b] = (a.toNat - 48) * 10 + (b.toNat - 48) := by
  have run : value [a, b] = (0 * 10 + (digit? a).getD 0) * 10 + (digit? b).getD 0 := rfl
  rw [run, digit?_of_isDigit first, digit?_of_isDigit second, Option.getD_some, Option.getD_some,
    Nat.zero_mul, Nat.zero_add]

/-- A number of some digits is below that power of ten. -/
theorem value_lt (cs : List Char) : value cs < 10 ^ cs.length := by
  have below := valueFrom_lt 0 cs
  rw [Nat.zero_add, Nat.one_mul] at below
  exact below

theorem valueFrom_digit {d : Nat} (small : d < 10) (start : Nat) :
    valueFrom start [digitChar d] = start * 10 + d := by
  rw [valueFrom, List.foldl_cons, List.foldl_nil, digit?_digitChar d small, Option.getD_some]

/-- The digits of a number mean that number. -/
theorem value_digits (n : Nat) : value (digits n) = n := by
  induction n using digits.induct with
  | case1 n single =>
      rw [digits, if_pos single, value, valueFrom_digit single, Nat.zero_mul, Nat.zero_add]
  | case2 n several ih =>
      have last : n % 10 < 10 := Nat.mod_lt n (Nat.zero_lt_succ 9)
      rw [value] at ih
      rw [digits, if_neg several, value, valueFrom_append, ih, valueFrom_digit last]
      omega

theorem isDigit_digits {n : Nat} {c : Char} (member : c ∈ digits n) : isDigit c = true := by
  have text : (ofInt n).toList = digits n := String.toList_ofList
  obtain ⟨d, small, rfl⟩ := mem_ofInt (Int.natCast_nonneg n) (text.symm ▸ member)
  exact isDigit_digitChar d small

/-- A number below a power of ten has no more digits than that. -/
theorem length_digits_le {n width : Nat} (positive : 0 < width) (fits : n < 10 ^ width) :
    (digits n).length ≤ width := by
  induction n using digits.induct generalizing width with
  | case1 n single =>
      rw [digits, if_pos single]
      exact positive
  | case2 n several ih =>
      obtain ⟨width, rfl⟩ := Nat.exists_eq_succ_of_ne_zero (Nat.pos_iff_ne_zero.mp positive)
      rw [Nat.pow_succ] at fits
      have fewer : 0 < width := by
        rcases Nat.eq_zero_or_pos width with rfl | some
        · rw [Nat.pow_zero, Nat.one_mul] at fits
          exact absurd fits several
        · exact some
      have front := ih fewer (Nat.div_lt_of_lt_mul (by rwa [Nat.mul_comm]))
      rw [digits, if_neg several, List.length_append, List.length_singleton]
      exact Nat.succ_le_succ front

theorem value_zeros (count : Nat) (cs : List Char) :
    value (List.replicate count '0' ++ cs) = value cs := by
  induction count with
  | zero => rfl
  | succ count ih =>
      rw [List.replicate_succ, List.cons_append]
      exact ih

theorem value_padded (width n : Nat) : value (padded width n) = n := by
  rw [padded, value_zeros, value_digits]

theorem isDigit_padded {width n : Nat} {c : Char} (member : c ∈ padded width n) :
    isDigit c = true := by
  rcases List.mem_append.mp member with zero | digit
  · rw [List.eq_of_mem_replicate zero]
    decide
  · exact isDigit_digits digit

theorem length_padded {width n : Nat} (positive : 0 < width) (fits : n < 10 ^ width) :
    (padded width n).length = width := by
  have shorter := length_digits_le positive fits
  rw [padded, List.length_append, List.length_replicate]
  omega

/-! ## Numbers as they are read -/

/-- The digits of a number, perhaps after zeros. -/
def Unsigned (cs : List Char) (n : Nat) : Prop :=
  ∃ zeros, cs = List.replicate zeros '0' ++ digits n

/-- The digits of a number, perhaps after zeros and after a plus sign before these. -/
inductive Written : List Char → Nat → Prop where
  | plain {cs : List Char} {n : Nat} (unsigned : Unsigned cs n) : Written cs n
  | signed {cs : List Char} {n : Nat} (unsigned : Unsigned cs n) : Written ('+' :: cs) n

theorem digitChar_of_digit? {c : Char} {d : Nat} (digit : digit? c = some d) : digitChar d = c := by
  have isDigit := Option.isSome_of_eq_some digit
  obtain ⟨above, below⟩ := isDigit_iff.mp isDigit
  rw [digit?_of_isDigit isDigit] at digit
  cases digit
  have code : '0'.toNat + (c.toNat - 48) % 10 = c.toNat := by
    rw [show '0'.toNat = 48 from rfl]
    omega
  rw [digitChar, code, Char.ofNat_toNat]

/-- Digits that are read after a number that is not zero are its further digits. -/
theorem digits_valueFrom {start : Nat} (positive : 0 < start) {cs : List Char}
    (digital : ∀ c ∈ cs, isDigit c = true) : digits (valueFrom start cs) = digits start ++ cs := by
  induction cs generalizing start with
  | nil => exact (List.append_nil _).symm
  | cons c rest ih =>
      obtain ⟨d, digit⟩ := Option.isSome_iff_exists.mp (digital c List.mem_cons_self)
      have small := digit?_lt digit
      have longer : digits (start * 10 + d) = digits start ++ [c] := by
        have front : (start * 10 + d) / 10 = start := by omega
        have last : (start * 10 + d) % 10 = d := by omega
        rw [digits, if_neg (by omega), front, last, digitChar_of_digit? digit]
      have later : digits (valueFrom (start * 10 + d) rest) = digits (start * 10 + d) ++ rest :=
        ih (by omega) fun other held => digital other (List.mem_cons_of_mem c held)
      rw [valueFrom, List.foldl_cons, digit, Option.getD_some]
      rw [longer, List.append_assoc, List.singleton_append] at later
      exact later

/-- Some digits are the digits of the number that they mean, after zeros. -/
theorem unsigned_of_digits {cs : List Char} (some : cs ≠ [])
    (digital : ∀ c ∈ cs, isDigit c = true) : Unsigned cs (value cs) := by
  induction cs with
  | nil => exact absurd rfl some
  | cons c rest ih =>
      obtain ⟨d, digit⟩ := Option.isSome_iff_exists.mp (digital c List.mem_cons_self)
      have others : ∀ other ∈ rest, isDigit other = true := fun other held =>
        digital other (List.mem_cons_of_mem c held)
      have first : value (c :: rest) = valueFrom d rest := by
        rw [value, valueFrom, List.foldl_cons, digit, Option.getD_some, Nat.zero_mul, Nat.zero_add]
        rfl
      have single : digits d = [c] := by
        rw [digits, if_pos (digit?_lt digit), digitChar_of_digit? digit]
      rcases Nat.eq_zero_or_pos d with rfl | positive
      · have zero : c = '0' := (digitChar_of_digit? digit).symm
        cases rest with
        | nil => exact ⟨0, by rw [first]; exact single.symm⟩
        | cons next more =>
            obtain ⟨zeros, form⟩ := ih (List.cons_ne_nil next more) others
            refine ⟨zeros + 1, ?_⟩
            rw [first, zero, List.replicate_succ, List.cons_append]
            exact congrArg ('0' :: ·) form
      · exact ⟨0, by rw [first, digits_valueFrom positive others, single]; rfl⟩

theorem Unsigned.digital {cs : List Char} {n : Nat} (unsigned : Unsigned cs n) {c : Char}
    (member : c ∈ cs) : isDigit c = true := by
  obtain ⟨zeros, rfl⟩ := unsigned
  rcases List.mem_append.mp member with zero | digit
  · rw [List.eq_of_mem_replicate zero]
    decide
  · exact isDigit_digits digit

theorem Unsigned.ne_nil {cs : List Char} {n : Nat} (unsigned : Unsigned cs n) : cs ≠ [] := by
  obtain ⟨zeros, rfl⟩ := unsigned
  obtain ⟨d, rest, -, first⟩ := digits_first n
  rw [first]
  exact List.append_ne_nil_of_right_ne_nil _ (List.cons_ne_nil _ _)

theorem Unsigned.value_eq {cs : List Char} {n : Nat} (unsigned : Unsigned cs n) : value cs = n := by
  obtain ⟨zeros, rfl⟩ := unsigned
  rw [value_zeros, value_digits]

/-- Further digits make a number no smaller. -/
theorem le_valueFrom (start : Nat) (cs : List Char) : start ≤ valueFrom start cs := by
  induction cs generalizing start with
  | nil => exact Nat.le_refl start
  | cons c rest ih => exact Nat.le_trans (by omega) (ih (start * 10 + (digit? c).getD 0))

/-- Digits are read as the number that they mean, unless it is too large. -/
theorem bounded_ok_iff {most start n : Nat} {excess : Fault} {cs : List Char} (fits : start ≤ most) :
    bounded most excess start cs = .ok n ↔
      (∀ c ∈ cs, isDigit c = true) ∧ n = valueFrom start cs ∧ n ≤ most := by
  induction cs generalizing start with
  | nil =>
      constructor
      · rintro ⟨⟩
        exact ⟨List.forall_mem_nil _, rfl, fits⟩
      · rintro ⟨-, rfl, -⟩
        rfl
  | cons c rest ih =>
      rw [bounded, List.forall_mem_cons, isDigit]
      cases digit : digit? c with
      | none => simp
      | some d =>
          have run : valueFrom start (c :: rest) = valueFrom (start * 10 + d) rest := by
            rw [valueFrom, List.foldl_cons, digit, Option.getD_some]
            rfl
          rw [run]
          by_cases large : most < start * 10 + d
          · have beyond := le_valueFrom (start * 10 + d) rest
            simp only [if_pos large, reduceCtorEq, false_iff]
            rintro ⟨-, rfl, small⟩
            omega
          · simp only [if_neg large, Option.isSome_some, true_and]
            exact ih (Nat.not_lt.mp large)

theorem bounded_ok_iff_unsigned {most n : Nat} {excess : Fault} {cs : List Char} (some : cs ≠ []) :
    bounded most excess 0 cs = .ok n ↔ Unsigned cs n ∧ n ≤ most := by
  rw [bounded_ok_iff (Nat.zero_le most)]
  constructor
  · rintro ⟨digital, rfl, fits⟩
    exact ⟨unsigned_of_digits some digital, fits⟩
  · rintro ⟨unsigned, fits⟩
    exact ⟨fun c held => unsigned.digital held, unsigned.value_eq.symm, fits⟩

/-- A plus sign is no digit, so a number has one only before its digits. -/
theorem written_cons_iff {c : Char} {rest : List Char} {n : Nat} :
    Written (c :: rest) n ↔ if c = '+' then Unsigned rest n else Unsigned (c :: rest) n := by
  have sign : isDigit '+' = false := by decide
  constructor
  · intro written
    cases written with
    | plain unsigned =>
        have plain : c ≠ '+' := by
          rintro rfl
          rw [unsigned.digital List.mem_cons_self] at sign
          cases sign
        rw [if_neg plain]
        exact unsigned
    | signed unsigned =>
        rw [if_pos rfl]
        exact unsigned
  · intro form
    split at form
    · next plus =>
        rw [plus]
        exact .signed form
    · exact .plain form

theorem not_written_nil {n : Nat} : ¬ Written [] n := by
  intro written
  cases written with
  | plain unsigned => exact unsigned.ne_nil rfl

/-- A natural number is read from its digits, zeros before them and one plus sign before all. -/
theorem integer_ok_iff_written {most : Nat} {text : String} {k : Int} :
    integer 0 most text = .ok k ↔ ∃ n : Nat, k = n ∧ Written text.toList n ∧ n ≤ most := by
  have bare {cs : List Char} (some : cs ≠ []) :
      (bounded most .tooLarge 0 cs).map Int.ofNat = .ok k ↔
        ∃ n : Nat, k = n ∧ Unsigned cs n ∧ n ≤ most := by
    constructor
    · intro read
      obtain ⟨n, found, rfl⟩ := map_eq_ok read
      exact ⟨n, rfl, (bounded_ok_iff_unsigned some).mp found⟩
    · rintro ⟨n, rfl, unsigned⟩
      rw [(bounded_ok_iff_unsigned some).mpr unsigned]
      rfl
  have negative (rest : List Char) (n : Nat) : ¬ Written ('-' :: rest) n := by
    rw [written_cons_iff, if_neg (by decide)]
    intro unsigned
    exact absurd (unsigned.digital List.mem_cons_self) (by decide)
  unfold integer
  split
  case h_1 form => simp [form, not_written_nil]
  case h_2 form =>
    have none (n : Nat) : ¬ Unsigned [] n := fun unsigned => unsigned.ne_nil rfl
    simp [form, written_cons_iff, none]
  case h_3 form => simp [form, negative]
  case h_4 rest lone form =>
    have some : rest ≠ [] := by
      rintro rfl
      exact lone rfl
    simp only [form, written_cons_iff, if_true, bare some]
  case h_5 form => simp [form, negative]
  case h_6 none _ _ signed _ =>
    cases chars : text.toList with
    | nil => exact absurd chars none
    | cons c rest =>
        have plain : c ≠ '+' := by
          rintro rfl
          exact signed rest chars
        simp only [written_cons_iff, if_neg plain, bare (List.cons_ne_nil c rest)]

/-- A number of 32 bits is read from all texts for it. -/
theorem uint32?_eq_some_iff {cs : List Char} {n : UInt32} :
    uint32? (String.ofList cs) = some n ↔ Written cs n.toNat := by
  have most := n.toNat_lt
  have read_iff {k : Int} : integer 0 4294967295 (String.ofList cs) = .ok k ↔
      ∃ m : Nat, k = m ∧ Written cs m ∧ m ≤ 4294967295 := by
    rw [integer_ok_iff_written, String.toList_ofList]
  unfold uint32?
  constructor
  · intro read
    split at read
    · next k found =>
        obtain ⟨m, rfl, written, fits⟩ := read_iff.mp found
        cases read
        rw [Int.toNat_natCast, UInt32.toNat_ofNat_of_lt' (Nat.lt_succ_of_le fits)]
        exact written
    · cases read
  · intro written
    rw [read_iff.mpr ⟨n.toNat, rfl, written, Nat.le_of_lt_succ most⟩]
    simp only [Int.toNat_natCast, UInt32.ofNat_toNat]

end Decimal

end ComposeDesk
