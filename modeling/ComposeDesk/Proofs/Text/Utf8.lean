import ComposeDesk.Text.Utf8
import Mathlib.Data.List.Basic

/-!
# Texts through their bytes

Every text is read back from its bytes.  The reader is followed through the bytes
of one character, first by the number of bytes that the character has, and then
along the text.
-/

namespace ComposeDesk

namespace Utf8

theorem byteArray_loop_eq (bytes : ByteArray) (place : Nat) (passed : List UInt8) :
    ByteArray.toList.loop bytes place passed =
      passed.reverse ++ bytes.data.toList.drop place := by
  fun_induction ByteArray.toList.loop bytes place passed with
  | case1 place passed inside ih =>
      have within : place < bytes.data.toList.length := by simpa using inside
      have byte : bytes.get! place = bytes.data[place]! := by
        cases bytes
        rfl
      rw [ih, List.drop_eq_getElem_cons within, byte, getElem!_pos bytes.data place inside,
        List.reverse_cons, List.append_assoc]
      rfl
  | case2 place passed outside =>
      have beyond : bytes.data.toList.length ≤ place := by simpa using outside
      rw [List.drop_eq_nil_of_le beyond, List.append_nil]

theorem byteArray_toList_eq (bytes : ByteArray) : bytes.toList = bytes.data.toList := by
  rw [ByteArray.toList, byteArray_loop_eq]
  rfl

theorem encode_eq (text : String) : encode text = text.toList.flatMap String.utf8EncodeChar := by
  have same : text.toByteArray = (text.toList.flatMap String.utf8EncodeChar).toByteArray :=
    String.utf8Encode_toList.symm
  rw [encode, String.toUTF8, byteArray_toList_eq, same, List.data_toByteArray]

theorem toNat_ofNat {byte : Nat} (small : byte < 256) : (UInt8.ofNat byte).toNat = byte :=
  UInt8.toNat_ofNat_of_lt' small

theorem charsFrom_single {byte : Nat} (small : byte < 0x80) (rest : List UInt8) :
    charsFrom none (UInt8.ofNat byte :: rest) =
      some (Char.ofNat byte) :: charsFrom none rest := by
  have low : UInt8.ofNat byte < 0x80 := by
    rw [UInt8.lt_iff_toNat_lt, toNat_ofNat (by omega)]
    exact small
  simp only [charsFrom, step, fresh, if_pos low, toNat_ofNat (show byte < 256 by omega),
    List.singleton_append]

theorem charsFrom_start {byte : Nat} {begun : Pending} (high : 0x80 ≤ byte) (small : byte < 256)
    (started : Pending.start byte = some begun) (rest : List UInt8) :
    charsFrom none (UInt8.ofNat byte :: rest) = charsFrom (some begun) rest := by
  have above : ¬ UInt8.ofNat byte < 0x80 := by
    rw [UInt8.lt_iff_toNat_lt, toNat_ofNat small]
    exact Nat.not_lt.mpr high
  simp only [charsFrom, step, fresh, if_neg above, toNat_ofNat small, started, List.nil_append]

theorem charsFrom_more {pending : Pending} {byte : Nat} (small : byte < 256)
    (accepts : pending.accepts byte = true) (more : 1 < pending.missing) (rest : List UInt8) :
    charsFrom (some pending) (UInt8.ofNat byte :: rest) =
      charsFrom (some (pending.extend byte)) rest := by
  have left : (pending.extend byte).missing ≠ 0 := by
    show pending.missing - 1 ≠ 0
    omega
  simp only [charsFrom, step, toNat_ofNat small, accepts, if_true, if_neg left, List.nil_append]

theorem charsFrom_last {pending : Pending} {byte : Nat} (small : byte < 256)
    (accepts : pending.accepts byte = true) (one : pending.missing = 1) (rest : List UInt8) :
    charsFrom (some pending) (UInt8.ofNat byte :: rest) =
      some (Char.ofNat (pending.extend byte).bits) :: charsFrom none rest := by
  have left : (pending.extend byte).missing = 0 := by
    show pending.missing - 1 = 0
    omega
  simp only [charsFrom, step, toNat_ofNat small, accepts, if_true, if_pos left,
    List.singleton_append]

/-- A character that was begun has its first bits, misses a number of bytes and
accepts the byte that comes next. -/
structure Pending.Expects (begun : Pending) (bits missing next : Nat) : Prop where
  bits : begun.bits = bits
  missing : begun.missing = missing
  accepts : begun.accepts next = true

theorem Pending.accepts_iff (pending : Pending) (byte : Nat) :
    pending.accepts byte = true ↔ pending.low ≤ byte ∧ byte ≤ pending.high := by
  simp only [Pending.accepts, Bool.and_eq_true, decide_eq_true_eq]

/-- After its second byte a character accepts any six bits. -/
theorem Pending.Expects.extend {begun : Pending} {bits missing six next : Nat}
    (expects : begun.Expects bits missing (six + 128)) (small : next < 64) :
    (begun.extend (six + 128)).Expects (bits * 64 + six) (missing - 1) (next + 128) := by
  have plain : six + 128 - 128 = six := Nat.add_sub_cancel six 128
  constructor
  case bits =>
    show begun.bits * 64 + (six + 128 - 128) = bits * 64 + six
    rw [expects.bits, plain]
  case missing => exact congrArg (· - 1) expects.missing
  case accepts =>
    exact (accepts_iff _ _).mpr ⟨Nat.le_add_left 128 next, show next + 128 ≤ 191 by omega⟩

theorem start_two {lead next : Nat} (low : 2 ≤ lead) (high : lead < 32) (small : next < 64) :
    ∃ begun, Pending.start (lead + 192) = some begun ∧ begun.Expects lead 1 (next + 128) := by
  have plain : lead + 192 - 192 = lead := Nat.add_sub_cancel lead 192
  rw [Pending.start, if_pos ⟨by omega, by omega⟩, plain]
  refine ⟨_, rfl, rfl, rfl, (Pending.accepts_iff _ _).mpr ?_⟩
  constructor
  all_goals
    simp only
    omega

/-- Of three bytes the second one is bounded where the character would be
shorter, and where it would be half of a pair. -/
theorem start_three {lead next : Nat} (high : lead < 16) (small : next < 64)
    (long : 32 ≤ lead * 64 + next)
    (whole : lead * 64 + next < 0x360 ∨ 0x380 ≤ lead * 64 + next) :
    ∃ begun, Pending.start (lead + 224) = some begun ∧ begun.Expects lead 2 (next + 128) := by
  have plain : lead + 224 - 224 = lead := Nat.add_sub_cancel lead 224
  rw [Pending.start, if_neg (by omega)]
  by_cases first : lead = 0
  · subst first
    rw [if_pos rfl]
    refine ⟨_, rfl, rfl, rfl, (Pending.accepts_iff _ _).mpr ?_⟩
    simp only
    omega
  · rw [if_neg (by omega)]
    by_cases paired : lead = 13
    · subst paired
      rw [if_pos rfl]
      refine ⟨_, rfl, rfl, rfl, (Pending.accepts_iff _ _).mpr ?_⟩
      simp only
      omega
    · rw [if_neg (by omega), if_pos ⟨by omega, by omega⟩, plain]
      refine ⟨_, rfl, rfl, rfl, (Pending.accepts_iff _ _).mpr ?_⟩
      simp only
      omega

/-- Of four bytes the second one is bounded where the character would be shorter,
and where it would be too large. -/
theorem start_four {lead next : Nat} (small : next < 64) (long : 16 ≤ lead * 64 + next)
    (known : lead * 64 + next < 0x110) :
    ∃ begun, Pending.start (lead + 240) = some begun ∧ begun.Expects lead 3 (next + 128) := by
  have plain : lead + 240 - 240 = lead := Nat.add_sub_cancel lead 240
  rw [Pending.start, if_neg (by omega), if_neg (by omega), if_neg (by omega),
    if_neg (by omega)]
  by_cases first : lead = 0
  · subst first
    rw [if_pos rfl]
    refine ⟨_, rfl, rfl, rfl, (Pending.accepts_iff _ _).mpr ?_⟩
    simp only
    omega
  · rw [if_neg (by omega)]
    by_cases last : lead = 4
    · subst last
      rw [if_neg (by omega), if_pos rfl]
      refine ⟨_, rfl, rfl, rfl, (Pending.accepts_iff _ _).mpr ?_⟩
      simp only
      omega
    · rw [if_pos ⟨by omega, by omega⟩, plain]
      refine ⟨_, rfl, rfl, rfl, (Pending.accepts_iff _ _).mpr ?_⟩
      simp only
      omega

theorem charsFrom_two {a b : Nat} (low : 2 ≤ a) (high : a < 32) (small : b < 64)
    (rest : List UInt8) :
    charsFrom none (UInt8.ofNat (a + 192) :: UInt8.ofNat (b + 128) :: rest) =
      some (Char.ofNat (a * 64 + b)) :: charsFrom none rest := by
  obtain ⟨begun, started, expects⟩ := start_two low high small
  rw [charsFrom_start (by omega) (by omega) started,
    charsFrom_last (by omega) expects.accepts expects.missing, (expects.extend small).bits]

theorem charsFrom_three {a b c : Nat} (high : a < 16) (second : b < 64) (third : c < 64)
    (long : 32 ≤ a * 64 + b) (whole : a * 64 + b < 0x360 ∨ 0x380 ≤ a * 64 + b)
    (rest : List UInt8) :
    charsFrom none (UInt8.ofNat (a + 224) :: UInt8.ofNat (b + 128) ::
        UInt8.ofNat (c + 128) :: rest) =
      some (Char.ofNat ((a * 64 + b) * 64 + c)) :: charsFrom none rest := by
  obtain ⟨begun, started, expects⟩ := start_three high second long whole
  have expects' := expects.extend third
  rw [charsFrom_start (by omega) (by omega) started,
    charsFrom_more (by omega) expects.accepts (by rw [expects.missing]; decide),
    charsFrom_last (by omega) expects'.accepts expects'.missing, (expects'.extend third).bits]

theorem charsFrom_four {a b c d : Nat} (second : b < 64) (third : c < 64) (fourth : d < 64)
    (long : 16 ≤ a * 64 + b) (known : a * 64 + b < 0x110) (rest : List UInt8) :
    charsFrom none (UInt8.ofNat (a + 240) :: UInt8.ofNat (b + 128) ::
        UInt8.ofNat (c + 128) :: UInt8.ofNat (d + 128) :: rest) =
      some (Char.ofNat (((a * 64 + b) * 64 + c) * 64 + d)) :: charsFrom none rest := by
  obtain ⟨begun, started, expects⟩ := start_four second long known
  have expects' := expects.extend third
  have expects'' := expects'.extend fourth
  rw [charsFrom_start (by omega) (by omega) started,
    charsFrom_more (by omega) expects.accepts (by rw [expects.missing]; decide),
    charsFrom_more (by omega) expects'.accepts (by rw [expects'.missing]; decide),
    charsFrom_last (by omega) expects''.accepts expects''.missing,
    (expects''.extend fourth).bits]

/-- The bytes of a character are read as this character, whatever follows. -/
theorem charsFrom_utf8EncodeChar (c : Char) (rest : List UInt8) :
    charsFrom none (String.utf8EncodeChar c ++ rest) = some c :: charsFrom none rest := by
  have valid : c.toNat < 0xD800 ∨ 0xDFFF < c.toNat ∧ c.toNat < 0x110000 := c.valid
  have same : Char.ofNat c.toNat = c := Char.ofNat_toNat c
  have code : c.val.toNat = c.toNat := rfl
  unfold String.utf8EncodeChar
  rw [code]
  generalize c.toNat = n at valid same
  by_cases one : n ≤ 127
  · rw [if_pos one, List.singleton_append, charsFrom_single (by omega), same]
  rw [if_neg one]
  by_cases two : n ≤ 2047
  · have bits : n / 64 % 32 * 64 + n % 64 = n := by omega
    rw [if_pos two, List.cons_append, List.singleton_append,
      charsFrom_two (by omega) (by omega) (by omega), bits, same]
  rw [if_neg two]
  by_cases three : n ≤ 65535
  · have bits : (n / 4096 % 16 * 64 + n / 64 % 64) * 64 + n % 64 = n := by omega
    rw [if_pos three, List.cons_append, List.cons_append, List.singleton_append,
      charsFrom_three (by omega) (by omega) (by omega) (by omega) (by omega), bits, same]
  · have bits : ((n / 262144 % 8 * 64 + n / 4096 % 64) * 64 + n / 64 % 64) * 64 + n % 64 = n := by
      omega
    rw [if_neg three, List.cons_append, List.cons_append, List.cons_append,
      List.singleton_append,
      charsFrom_four (by omega) (by omega) (by omega) (by omega) (by omega), bits, same]

theorem chars_encode (text : String) : chars (encode text) = text.toList.map some := by
  rw [encode_eq, chars]
  induction text.toList with
  | nil => rfl
  | cons c rest ih => rw [List.flatMap_cons, charsFrom_utf8EncodeChar, ih, List.map_cons]

/-- A text is read back from its bytes. -/
theorem decode?_encode (text : String) : decode? (encode text) = some text := by
  have all : (text.toList.map some).mapM id = some text.toList := by
    induction text.toList with
    | nil => rfl
    | cons c rest ih =>
        rw [List.map_cons, List.mapM_cons, ih]
        rfl
  rw [decode?, chars_encode, all, Option.map_some, String.ofList_toList]

theorem lossy_encode (text : String) : lossy (encode text) = text := by
  have plain : (text.toList.map some).map (·.getD '\uFFFD') = text.toList := by
    rw [List.map_map]
    exact List.map_id text.toList
  rw [lossy, chars_encode, plain, String.ofList_toList]

theorem chars_plain {bytes : List UInt8} (plain : ∀ byte ∈ bytes, byte.toNat < 0x80) :
    chars bytes = bytes.map fun byte => some (Char.ofNat byte.toNat) := by
  induction bytes with
  | nil => rfl
  | cons byte rest ih =>
      have first := charsFrom_single (plain byte List.mem_cons_self) rest
      have later := ih fun other member => plain other (List.mem_cons_of_mem byte member)
      rw [UInt8.ofNat_toNat] at first
      rw [chars] at later ⊢
      rw [first, later, List.map_cons]

theorem code_ofNat {n : Nat} (plain : n < 0x80) : (Char.ofNat n).toNat = n := by
  rw [Char.ofNat, dif_pos (Or.inl (by omega))]
  rfl

theorem utf8EncodeChar_plain {byte : UInt8} (plain : byte.toNat < 0x80) :
    String.utf8EncodeChar (Char.ofNat byte.toNat) = [byte] := by
  have code : (Char.ofNat byte.toNat).val.toNat = byte.toNat := code_ofNat plain
  rw [String.utf8EncodeChar, code, if_pos (by omega), UInt8.ofNat_toNat]

theorem lossy_plain {bytes : List UInt8} (plain : ∀ byte ∈ bytes, byte.toNat < 0x80) :
    (lossy bytes).toList = bytes.map fun byte => Char.ofNat byte.toNat := by
  rw [lossy, String.toList_ofList, chars_plain plain, List.map_map]
  rfl

/-- Plain bytes are the bytes of their text. -/
theorem encode_lossy {bytes : List UInt8} (plain : ∀ byte ∈ bytes, byte.toNat < 0x80) :
    encode (lossy bytes) = bytes := by
  rw [encode_eq, lossy_plain plain, List.flatMap_map]
  induction bytes with
  | nil => rfl
  | cons byte rest ih =>
      have later := ih fun other member => plain other (List.mem_cons_of_mem byte member)
      rw [List.flatMap_cons, utf8EncodeChar_plain (plain byte List.mem_cons_self), later]
      rfl

end Utf8

end ComposeDesk
