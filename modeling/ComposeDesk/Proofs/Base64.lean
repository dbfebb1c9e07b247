import ComposeDesk.Base64
import Mathlib.Data.List.Basic

/-!
# Reading back symbols

What is written as Base64 is read back, whatever the number of bytes: full groups
of three, and one or two bytes at the end with their padding.
-/

namespace ComposeDesk

namespace Base64

theorem bits?_symbol : ∀ n < 64, bits? (symbol n) = some n := by
  decide

theorem symbol_ne_pad : ∀ n < 64, symbol n ≠ pad := by
  decide

theorem readSymbols_map (place : Nat) {groups : List Nat} (small : ∀ n ∈ groups, n < 64) :
    readSymbols place (groups.map symbol) = .ok groups := by
  induction groups generalizing place with
  | nil => rfl
  | cons n rest ih =>
      have later := ih (place + 1) fun m member => small m (List.mem_cons_of_mem n member)
      simp only [List.map_cons, readSymbols, bits?_symbol n (small n List.mem_cons_self), later,
        Except.map]

theorem readPadded_pads (start : Nat) {index : Nat} (inside : 2 ≤ index) (padded : Option Nat)
    (count : Nat) : readPadded start index padded (List.replicate count pad) = .ok ([], count) := by
  induction count generalizing index padded with
  | zero => rfl
  | succ count ih =>
      have later := ih (Nat.le_succ_of_le inside) (some (padded.getD index))
      simp only [List.replicate_succ, readPadded, if_true, if_neg (Nat.not_lt.mpr inside), later,
        Except.map]

/-- Symbols are read up to the padding, which is counted. -/
theorem readPadded_map (start index : Nat) {groups : List Nat} (count : Nat)
    (small : ∀ n ∈ groups, n < 64) (inside : 2 ≤ index + groups.length) :
    readPadded start index none (groups.map symbol ++ List.replicate count pad) =
      .ok (groups, count) := by
  induction groups generalizing index with
  | nil => exact readPadded_pads start inside none count
  | cons n rest ih =>
      have first := small n List.mem_cons_self
      have later := ih (index + 1) (fun m member => small m (List.mem_cons_of_mem n member))
        (by simpa [Nat.add_comm, Nat.add_left_comm] using inside)
      simp only [List.map_cons, List.cons_append, readPadded, if_neg (symbol_ne_pad n first),
        bits?_symbol n first, later, Except.map]

theorem ofNat_eq (byte : UInt8) {n : Nat} (same : n = byte.toNat) : UInt8.ofNat n = byte := by
  rw [same, UInt8.ofNat_toNat]

theorem bytesOf_split (a b c : UInt8) :
    bytesOf (a.toNat / 4) (a.toNat % 4 * 16 + b.toNat / 16) (b.toNat % 16 * 4 + c.toNat / 64)
      (c.toNat % 64) = [a, b, c] := by
  have := b.toNat_lt
  have := c.toNat_lt
  rw [bytesOf, ofNat_eq a (by omega), ofNat_eq b (by omega), ofNat_eq c (by omega)]

theorem decodeLast_of_readPadded {start count : Nat} {symbols : List UInt8} {groups : List Nat}
    (read : readPadded start 0 none symbols = .ok (groups, count)) (enough : 2 ≤ groups.length)
    (full : (count + groups.length) % 4 = 0) :
    decodeLast start symbols = finish start symbols groups := by
  have many : decide (groups.length < 2) = false := decide_eq_false (Nat.not_lt.mpr enough)
  rw [decodeLast, read]
  simp only [bind, Except.bind, many, Bool.and_false, full, ne_eq, not_true_eq_false, ite_false]
  rfl

/-- The last group is finished from its bits and its padding. -/
theorem decodeLast_map (start : Nat) {groups : List Nat} (count : Nat)
    (small : ∀ n ∈ groups, n < 64) (enough : 2 ≤ groups.length)
    (full : (count + groups.length) % 4 = 0) :
    decodeLast start (groups.map symbol ++ List.replicate count pad) =
      finish start (groups.map symbol ++ List.replicate count pad) groups := by
  have inside : 2 ≤ 0 + groups.length := by omega
  exact decodeLast_of_readPadded (readPadded_map start 0 count small inside) enough full

theorem decodeFrom_one (start : Nat) (a : UInt8) :
    decodeFrom start (encode [a]) = .ok [a] := by
  have below := a.toNat_lt
  have small : ∀ n ∈ [a.toNat / 4, a.toNat % 4 * 16], n < 64 := by
    intro n member
    simp only [List.mem_cons, List.not_mem_nil, or_false] at member
    omega
  have last := decodeLast_map start 2 small (Nat.le_refl 2) (Nat.mod_self 4)
  have bits : a.toNat % 4 * 16 % 16 = 0 := Nat.mul_mod_left _ 16
  have back : bytesOf (a.toNat / 4) (a.toNat % 4 * 16) 0 0 = [a, 0, 0] := bytesOf_split a 0 0
  rw [finish, if_pos bits, back] at last
  exact last

theorem decodeFrom_two (start : Nat) (a b : UInt8) :
    decodeFrom start (encode [a, b]) = .ok [a, b] := by
  have := a.toNat_lt
  have := b.toNat_lt
  have small : ∀ n ∈ [a.toNat / 4, a.toNat % 4 * 16 + b.toNat / 16, b.toNat % 16 * 4], n < 64 := by
    intro n member
    simp only [List.mem_cons, List.not_mem_nil, or_false] at member
    omega
  have last := decodeLast_map start 1 small (Nat.le_succ 2) (Nat.mod_self 4)
  have bits : b.toNat % 16 * 4 % 4 = 0 := Nat.mul_mod_left _ 4
  have back : bytesOf (a.toNat / 4) (a.toNat % 4 * 16 + b.toNat / 16) (b.toNat % 16 * 4) 0 =
      [a, b, 0] := bytesOf_split a b 0
  rw [finish, if_pos bits, back] at last
  exact last

def groupsOf (a b c : UInt8) : List Nat :=
  [a.toNat / 4, a.toNat % 4 * 16 + b.toNat / 16, b.toNat % 16 * 4 + c.toNat / 64,
    c.toNat % 64]

theorem groupsOf_small (a b c : UInt8) : ∀ n ∈ groupsOf a b c, n < 64 := by
  have := a.toNat_lt
  have := b.toNat_lt
  have := c.toNat_lt
  intro n member
  simp only [groupsOf, List.mem_cons, List.not_mem_nil, or_false] at member
  omega

theorem encode_eq_nil {bytes : List UInt8} (empty : encode bytes = []) : bytes = [] := by
  fun_cases encode bytes with
  | case1 => rfl
  | case2 a => cases empty
  | case3 a b => cases empty
  | case4 a b c rest => cases empty

/-- The bytes are read back, wherever the symbols start. -/
theorem decodeFrom_encode (start : Nat) {bytes : List UInt8} (some : bytes ≠ []) :
    decodeFrom start (encode bytes) = .ok bytes := by
  fun_induction encode bytes generalizing start with
  | case1 => exact absurd rfl some
  | case2 a => exact decodeFrom_one start a
  | case3 a b => exact decodeFrom_two start a b
  | case4 a b c rest ih =>
      have small := groupsOf_small a b c
      cases follows : encode rest with
      | nil =>
          have none := encode_eq_nil follows
          subst none
          have last := decodeLast_map start 0 small (Nat.le_add_left 2 2) (Nat.mod_self 4)
          rw [groupsOf, finish, bytesOf_split] at last
          exact last
      | cons e more =>
          have others : rest ≠ [] := by
            intro none
            rw [none] at follows
            cases follows
          have later := ih (start + 4) others
          rw [follows] at later
          have full : decodeFrom start ((groupsOf a b c).map symbol ++ e :: more) =
              (decodeFrom (start + 4) (e :: more)).map ([a, b, c] ++ ·) := by
            have read := readSymbols_map start small
            rw [← bytesOf_split a b c]
            simp only [groupsOf, List.map_cons, List.map_nil, List.cons_append,
              List.nil_append] at read ⊢
            rw [decodeFrom, read]
            rfl
          exact full.trans (congrArg (Except.map ([a, b, c] ++ ·)) later)

theorem encode_length (bytes : List UInt8) :
    (encode bytes).length = (bytes.length + 2) / 3 * 4 := by
  fun_induction encode bytes with
  | case1 => rfl
  | case2 a => simp only [List.length_cons, List.length_nil]
  | case3 a b => simp only [List.length_cons, List.length_nil]
  | case4 a b c rest ih =>
      simp only [List.length_cons, ih]
      omega

/-- What is written is read back. -/
theorem decode_encode (bytes : List UInt8) : decode (encode bytes) = .ok bytes := by
  unfold decode
  cases ended : (encode bytes).getLast? with
  | none =>
      rw [encode_eq_nil (List.getLast?_eq_none_iff.mp ended)]
  | some last =>
      have groups : decide ((encode bytes).length % 4 = 1) = false := by
        rw [encode_length]
        exact decide_eq_false (by omega)
      have there : bytes ≠ [] := by
        intro none
        rw [none] at ended
        cases ended
      simp only [groups, Bool.false_and, Bool.false_eq_true, if_false, decodeFrom_encode 0 there]

/-- Bytes that show: they are plain and neither blank nor a control. -/
def Shows (byte : UInt8) : Prop :=
  0x20 < byte.toNat ∧ byte.toNat < 0x80

theorem symbol_shows : ∀ n < 64, Shows (symbol n) := by
  unfold Shows
  decide

theorem pad_shows : Shows pad := by
  unfold Shows
  decide

/-- Nothing but symbols and padding is written. -/
theorem encode_shows (bytes : List UInt8) : ∀ byte ∈ encode bytes, Shows byte := by
  have below : ∀ byte : UInt8, byte.toNat < 256 := UInt8.toNat_lt
  fun_induction encode bytes with
  | case1 => exact List.forall_mem_nil Shows
  | case2 a =>
      have := below a
      simp only [List.forall_mem_cons]
      exact ⟨symbol_shows _ (by omega), symbol_shows _ (by omega), pad_shows, pad_shows,
        List.forall_mem_nil Shows⟩
  | case3 a b =>
      have := below a
      have := below b
      simp only [List.forall_mem_cons]
      exact ⟨symbol_shows _ (by omega), symbol_shows _ (by omega), symbol_shows _ (by omega),
        pad_shows, List.forall_mem_nil Shows⟩
  | case4 a b c rest ih =>
      have := below a
      have := below b
      have := below c
      simp only [List.forall_mem_cons]
      exact ⟨symbol_shows _ (by omega), symbol_shows _ (by omega), symbol_shows _ (by omega),
        symbol_shows _ (by omega), ih⟩

end Base64

end ComposeDesk
