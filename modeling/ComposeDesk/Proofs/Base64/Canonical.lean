import ComposeDesk.Proofs.Base64
import ComposeDesk.Proofs.Itemwise

/-!
# What can be read is what was written

The reader of Base64 refuses whatever the writer does not produce: strange symbols, padding
in the wrong place or amount, and unused bits that are not zero.  So a text is Base64 in one
way only, and what is read determines the text.
-/

namespace ComposeDesk

namespace Base64

/-- A symbol that has bits is the symbol of these bits. -/
theorem symbol_of_bits? {s : UInt8} {n : Nat} (known : bits? s = some n) :
    symbol n = s ∧ n < 64 := by
  have below := s.toNat_lt
  have read (m : Nat) (same : m = s.toNat) : UInt8.ofNat m = s := ofNat_eq s same
  unfold bits? at known
  simp only at known
  -- One case for each range of symbols, in the order in which the writer tells them apart.
  split at known
  · cases known
    exact ⟨by rw [symbol, if_pos (by omega), read _ (by omega)], by omega⟩
  split at known
  · cases known
    exact ⟨by rw [symbol, if_neg (by omega), if_pos (by omega), read _ (by omega)], by omega⟩
  split at known
  · cases known
    exact ⟨by rw [symbol, if_neg (by omega), if_neg (by omega), if_pos (by omega),
      read _ (by omega)], by omega⟩
  split at known
  · cases known
    exact ⟨read 43 (by omega), by omega⟩
  split at known
  · cases known
    exact ⟨read 47 (by omega), by omega⟩
  · cases known

theorem readSymbols_ok {place : Nat} {symbols : List UInt8} {groups : List Nat}
    (read : readSymbols place symbols = .ok groups) :
    symbols = groups.map symbol ∧ ∀ n ∈ groups, n < 64 := by
  induction symbols generalizing place groups with
  | nil =>
      cases read
      exact ⟨rfl, List.forall_mem_nil _⟩
  | cons s rest ih =>
      rw [readSymbols] at read
      cases known : bits? s with
      | none =>
          rw [known] at read
          cases read
      | some n =>
          rw [known] at read
          obtain ⟨later, followed, rfl⟩ := map_eq_ok read
          obtain ⟨rfl, small⟩ := ih followed
          obtain ⟨rfl, first⟩ := symbol_of_bits? known
          exact ⟨rfl, List.forall_mem_cons.mpr ⟨first, small⟩⟩

/-- After padding there is nothing but padding. -/
theorem readPadded_padded {start index first : Nat} {symbols : List UInt8} {groups : List Nat}
    {count : Nat} (read : readPadded start index (some first) symbols = .ok (groups, count)) :
    groups = [] ∧ symbols = List.replicate count pad := by
  induction symbols generalizing index first groups count with
  | nil =>
      cases read
      exact ⟨rfl, rfl⟩
  | cons s rest ih =>
      rw [readPadded] at read
      by_cases padding : s = pad
      · rw [if_pos padding] at read
        by_cases early : index < 2
        · rw [if_pos early] at read
          cases read
        · rw [if_neg early] at read
          obtain ⟨⟨later, less⟩, followed, same⟩ := map_eq_ok read
          cases same
          obtain ⟨none, rfl⟩ := ih followed
          exact ⟨none, by rw [padding, List.replicate_succ]⟩
      · rw [if_neg padding] at read
        cases read

/-- Symbols with padding are the symbols of some groups and then the padding, which starts
in the third place at the earliest. -/
theorem readPadded_ok {start index : Nat} {symbols : List UInt8} {groups : List Nat}
    {count : Nat} (read : readPadded start index none symbols = .ok (groups, count)) :
    symbols = groups.map symbol ++ List.replicate count pad ∧ ∀ n ∈ groups, n < 64 := by
  induction symbols generalizing index groups count with
  | nil =>
      cases read
      exact ⟨rfl, List.forall_mem_nil _⟩
  | cons s rest ih =>
      rw [readPadded] at read
      by_cases padding : s = pad
      · rw [if_pos padding] at read
        by_cases early : index < 2
        · rw [if_pos early] at read
          cases read
        · rw [if_neg early] at read
          obtain ⟨⟨later, less⟩, followed, same⟩ := map_eq_ok read
          cases same
          obtain ⟨rfl, rfl⟩ := readPadded_padded followed
          exact ⟨by rw [padding, List.replicate_succ]; rfl, List.forall_mem_nil _⟩
      · rw [if_neg padding] at read
        cases known : bits? s with
        | none =>
            simp only [known] at read
            cases read
        | some n =>
            simp only [known] at read
            obtain ⟨⟨later, less⟩, followed, same⟩ := map_eq_ok read
            cases same
            obtain ⟨rfl, small⟩ := ih followed
            obtain ⟨rfl, first⟩ := symbol_of_bits? known
            exact ⟨rfl, List.forall_mem_cons.mpr ⟨first, small⟩⟩

/-- The first byte has all bits of the first group and two of the second. -/
theorem toNat_first_byte {a b : Nat} (first : a < 64) (second : b < 64) :
    (UInt8.ofNat (a * 4 + b / 16)).toNat = a * 4 + b / 16 := by
  apply UInt8.toNat_ofNat_of_lt'
  show a * 4 + b / 16 < 256
  omega

/-- The second byte has four bits each of the second and the third group. -/
theorem toNat_second_byte (b : Nat) {c : Nat} (third : c < 64) :
    (UInt8.ofNat (b % 16 * 16 + c / 4)).toNat = b % 16 * 16 + c / 4 := by
  apply UInt8.toNat_ofNat_of_lt'
  show b % 16 * 16 + c / 4 < 256
  omega

/-- Four groups of six bits are written as their symbols. -/
theorem encode_bytesOf {a b c d : Nat} (first : a < 64) (second : b < 64) (third : c < 64)
    (fourth : d < 64) (rest : List UInt8) :
    encode (bytesOf a b c d ++ rest) =
      [symbol a, symbol b, symbol c, symbol d] ++ encode rest := by
  have one := toNat_first_byte first second
  have two := toNat_second_byte b third
  have three : (UInt8.ofNat (c % 4 * 64 + d)).toNat = c % 4 * 64 + d :=
    UInt8.toNat_ofNat_of_lt' (show _ < 256 by omega)
  have bitsA : (a * 4 + b / 16) / 4 = a := by omega
  have bitsB : (a * 4 + b / 16) % 4 * 16 + (b % 16 * 16 + c / 4) / 16 = b := by omega
  have bitsC : (b % 16 * 16 + c / 4) % 16 * 4 + (c % 4 * 64 + d) / 64 = c := by omega
  have bitsD : (c % 4 * 64 + d) % 64 = d := by omega
  simp only [bytesOf, List.cons_append, List.nil_append, encode, one, two, three, bitsA, bitsB,
    bitsC, bitsD]

/-- Two groups whose unused bits are zero are written with two symbols of padding. -/
theorem encode_take_one {a b : Nat} (first : a < 64) (second : b < 64) (unused : b % 16 = 0) :
    encode ((bytesOf a b 0 0).take 1) = [symbol a, symbol b, pad, pad] := by
  have one := toNat_first_byte first second
  have bitsA : (a * 4 + b / 16) / 4 = a := by omega
  have bitsB : (a * 4 + b / 16) % 4 * 16 = b := by omega
  show encode [UInt8.ofNat (a * 4 + b / 16)] = _
  simp only [encode, one, bitsA, bitsB]

/-- Three groups whose unused bits are zero are written with one symbol of padding. -/
theorem encode_take_two {a b c : Nat} (first : a < 64) (second : b < 64) (third : c < 64)
    (unused : c % 4 = 0) :
    encode ((bytesOf a b c 0).take 2) = [symbol a, symbol b, symbol c, pad] := by
  have one := toNat_first_byte first second
  have two := toNat_second_byte b third
  have bitsA : (a * 4 + b / 16) / 4 = a := by omega
  have bitsB : (a * 4 + b / 16) % 4 * 16 + (b % 16 * 16 + c / 4) / 16 = b := by omega
  have bitsC : (b % 16 * 16 + c / 4) % 16 * 4 = c := by omega
  show encode [UInt8.ofNat (a * 4 + b / 16), UInt8.ofNat (b % 16 * 16 + c / 4)] = _
  simp only [encode, one, two, bitsA, bitsB, bitsC]

/-- The last groups are finished to bytes that are written as these groups, with padding
up to four symbols. -/
theorem finish_ok {start count : Nat} {symbols bytes : List UInt8} {groups : List Nat}
    (small : ∀ n ∈ groups, n < 64) (enough : 2 ≤ groups.length)
    (full : count + groups.length = 4) (done : finish start symbols groups = .ok bytes) :
    groups.map symbol ++ List.replicate count pad = encode bytes := by
  match groups, small, enough, full, done with
  | [a, b], small, _, full, done =>
      obtain rfl : count = 2 := by
        simp only [List.length_cons, List.length_nil] at full
        omega
      simp only [List.forall_mem_cons] at small
      rw [finish] at done
      split at done
      · rename_i unused
        cases done
        exact (encode_take_one small.1 small.2.1 unused).symm
      · cases done
  | [a, b, c], small, _, full, done =>
      obtain rfl : count = 1 := by
        simp only [List.length_cons, List.length_nil] at full
        omega
      simp only [List.forall_mem_cons] at small
      rw [finish] at done
      split at done
      · rename_i unused
        cases done
        exact (encode_take_two small.1 small.2.1 small.2.2.1 unused).symm
      · cases done
  | [a, b, c, d], small, _, full, done =>
      obtain rfl : count = 0 := by
        simp only [List.length_cons, List.length_nil] at full
        omega
      simp only [List.forall_mem_cons] at small
      cases done
      have whole := encode_bytesOf small.1 small.2.1 small.2.2.1 small.2.2.2.1 []
      exact whole.symm
  | [], _, enough, _, _ => exact absurd enough (Nat.not_succ_le_zero 1)
  | [_], _, enough, _, _ => exact absurd enough (Nat.not_succ_le_self 1)
  | _ :: _ :: _ :: _ :: _ :: rest, _, _, full, _ =>
      simp only [List.length_cons] at full
      omega

theorem decodeLast_ok {start : Nat} {symbols bytes : List UInt8} (short : symbols.length ≤ 4)
    (done : decodeLast start symbols = .ok bytes) : symbols = encode bytes := by
  obtain ⟨⟨groups, count⟩, read, done⟩ := bind_eq_ok done
  obtain ⟨rfl, small⟩ := readPadded_ok read
  rw [List.length_append, List.length_map, List.length_replicate] at short
  simp only at done
  split at done
  · cases done
  · rename_i enough
    split at done
    · cases done
    · rename_i full
      have full : (count + groups.length) % 4 = 0 := not_not.mp full
      by_cases nothing : groups.map symbol ++ List.replicate count pad = []
      · obtain ⟨none, _⟩ := List.append_eq_nil_iff.mp nothing
        rw [List.map_eq_nil_iff.mp none] at done
        cases done
        exact nothing
      · have some : 2 ≤ groups.length := by
          rw [List.isEmpty_eq_false_iff.mpr nothing] at enough
          exact Nat.not_lt.mp fun less => enough (decide_eq_true less)
        exact finish_ok small some (by omega) done

theorem decodeFrom_ok {start : Nat} {symbols bytes : List UInt8}
    (done : decodeFrom start symbols = .ok bytes) : symbols = encode bytes := by
  fun_induction decodeFrom start symbols generalizing bytes with
  | case1 start a b c d e rest fault read => cases done
  | case2 start a b c d e rest groups read ih =>
      obtain ⟨later, followed, rfl⟩ := map_eq_ok done
      obtain ⟨same, small⟩ := readSymbols_ok read
      match groups, same, small with
      | [n, m, k, l], same, small =>
          simp only [List.forall_mem_cons] at small
          cases same
          have written := encode_bytesOf small.1 small.2.1 small.2.2.1 small.2.2.2.1 later
          rw [← ih followed] at written
          exact written.symm
  | case3 start symbols short =>
      refine decodeLast_ok ?_ done
      match symbols, short with
      | [], _ => exact Nat.zero_le 4
      | [_], _ => exact Nat.le_add_left 1 3
      | [_, _], _ => exact Nat.le_add_left 2 2
      | [_, _, _], _ => exact Nat.le_add_left 3 1
      | [_, _, _, _], _ => exact Nat.le_refl 4
      | a :: b :: c :: d :: e :: rest, short => exact absurd rfl (short a b c d e rest)

/-- The bytes of symbols are the bytes that are written as these symbols. -/
theorem decode_ok_iff {symbols bytes : List UInt8} :
    decode symbols = .ok bytes ↔ symbols = encode bytes := by
  constructor
  · intro done
    unfold decode at done
    split at done
    · split at done
      · cases done
      · exact decodeFrom_ok done
    · rename_i none
      cases done
      exact List.getLast?_eq_none_iff.mp none
  · rintro rfl
    exact decode_encode bytes

end Base64

end ComposeDesk
