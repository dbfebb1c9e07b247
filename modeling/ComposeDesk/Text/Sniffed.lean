import ComposeDesk.Text.Utf8

/-!
# Text that says how it is encoded

Bytes are UTF-8 unless they start with the mark of UTF-16.  The mark itself is
not part of the text.
-/

namespace ComposeDesk

namespace Text

/-- The code units of pairs of bytes; a byte that is left over makes none. -/
def units (first : Bool) : List UInt8 → List Nat × Bool
  | a :: b :: rest =>
      let unit := if first then a.toNat * 256 + b.toNat else b.toNat * 256 + a.toNat
      let (others, left) := units first rest
      (unit :: others, left)
  | [_] => ([], true)
  | [] => ([], false)

/-- Whether a unit starts a pair. -/
def isHigh (unit : Nat) : Bool := 0xD800 ≤ unit && unit ≤ 0xDBFF

/-- Whether a unit ends a pair. -/
def isLow (unit : Nat) : Bool := 0xDC00 ≤ unit && unit ≤ 0xDFFF

/-- The characters of code units; `left` says that a byte is left over.  A
missing half makes a replacement character. -/
def utf16 (left : Bool) : List Nat → List Char
  | [] => if left then ['\uFFFD'] else []
  | [unit] =>
      if isHigh unit then ['\uFFFD']
      else (if isLow unit then '\uFFFD' else Char.ofNat unit) ::
        (if left then ['\uFFFD'] else [])
  | unit :: next :: rest =>
      if isHigh unit then
        if isLow next then
          Char.ofNat (0x10000 + (unit - 0xD800) * 0x400 + (next - 0xDC00)) :: utf16 left rest
        else '\uFFFD' :: utf16 left (next :: rest)
      else if isLow unit then '\uFFFD' :: utf16 left (next :: rest)
      else Char.ofNat unit :: utf16 left (next :: rest)

def sniffed : List UInt8 → String
  | 0xEF :: 0xBB :: 0xBF :: rest => Utf8.lossy rest
  | 0xFE :: 0xFF :: rest =>
      let (units, left) := units true rest
      String.ofList (utf16 left units)
  | 0xFF :: 0xFE :: rest =>
      let (units, left) := units false rest
      String.ofList (utf16 left units)
  | bytes => Utf8.lossy bytes

end Text

end ComposeDesk
