/-!
# Bytes as characters

The reading is a machine that carries at most one unfinished character.  A
maximal run of bytes that starts a character without finishing it, or a byte
that can start none, is read as one position without a character.
-/

namespace ComposeDesk

namespace Utf8

/-- A character of which some bytes were read. -/
structure Pending where
  /-- The code point bits read so far. -/
  bits : Nat
  /-- The number of bytes still to come. -/
  missing : Nat
  /-- The smallest byte that may come next. -/
  low : Nat
  /-- The largest byte that may come next. -/
  high : Nat

/-- The character that a first byte announces, if it can start a longer one. -/
def Pending.start (byte : Nat) : Option Pending :=
  if 0xC2 ≤ byte ∧ byte ≤ 0xDF then some ⟨byte - 0xC0, 1, 0x80, 0xBF⟩
  else if byte = 0xE0 then some ⟨0, 2, 0xA0, 0xBF⟩
  else if byte = 0xED then some ⟨0x0D, 2, 0x80, 0x9F⟩
  else if 0xE1 ≤ byte ∧ byte ≤ 0xEF then some ⟨byte - 0xE0, 2, 0x80, 0xBF⟩
  else if byte = 0xF0 then some ⟨0, 3, 0x90, 0xBF⟩
  else if 0xF1 ≤ byte ∧ byte ≤ 0xF3 then some ⟨byte - 0xF0, 3, 0x80, 0xBF⟩
  else if byte = 0xF4 then some ⟨4, 3, 0x80, 0x8F⟩
  else none

def Pending.accepts (pending : Pending) (byte : Nat) : Bool :=
  pending.low ≤ byte && byte ≤ pending.high

def Pending.extend (pending : Pending) (byte : Nat) : Pending :=
  ⟨pending.bits * 64 + (byte - 0x80), pending.missing - 1, 0x80, 0xBF⟩

/-- Read a byte that starts a character: what is finished by it, and what is
begun. -/
def fresh (byte : UInt8) : List (Option Char) × Option Pending :=
  if byte < 0x80 then ([some (Char.ofNat byte.toNat)], none)
  else match Pending.start byte.toNat with
    | some pending => ([], some pending)
    | none => ([none], none)

/-- Read one byte after an unfinished character, or after none. -/
def step : Option Pending → UInt8 → List (Option Char) × Option Pending
  | none, byte => fresh byte
  | some pending, byte =>
      if pending.accepts byte.toNat then
        let extended := pending.extend byte.toNat
        if extended.missing = 0 then ([some (Char.ofNat extended.bits)], none)
        else ([], some extended)
      else
        let (out, next) := fresh byte
        (none :: out, next)

/-- The characters of a text of bytes that follows an unfinished character. -/
def charsFrom : Option Pending → List UInt8 → List (Option Char)
  | none, [] => []
  | some _, [] => [none]
  | pending, byte :: rest =>
      let (out, next) := step pending byte
      out ++ charsFrom next rest

/-- The characters of a text of bytes; a maximal ill-formed part is `none`. -/
def chars (bytes : List UInt8) : List (Option Char) :=
  charsFrom none bytes

end Utf8

/-- The text of some bytes, with U+FFFD for each maximal ill-formed part. -/
def Utf8.lossy (bytes : List UInt8) : String :=
  String.ofList ((Utf8.chars bytes).map (·.getD '\uFFFD'))

def Utf8.decode? (bytes : List UInt8) : Option String :=
  ((Utf8.chars bytes).mapM id).map String.ofList

def Utf8.encode (text : String) : List UInt8 :=
  text.toUTF8.toList

end ComposeDesk
