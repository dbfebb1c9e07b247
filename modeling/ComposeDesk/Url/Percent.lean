import ComposeDesk.Text.Hex
import ComposeDesk.Text.Utf8

/-!
# Percent-encoding

Bytes that cannot stand in a part of a URL are written as a percent sign and
two hexadecimal digits.
-/

namespace ComposeDesk

namespace Percent

def hexChar (n : Nat) : Char :=
  if n % 16 < 10 then Char.ofNat ('0'.toNat + n % 16)
  else Char.ofNat ('A'.toNat + (n % 16 - 10))

def hexDigit? (b : UInt8) : Option (Fin 16) :=
  Text.hexDigit? (Char.ofNat b.toNat)

def encodeByte (b : UInt8) : List Char :=
  ['%', hexChar (b.toNat / 16), hexChar b.toNat]

/-- A character as it is, if it may stand for itself, else its bytes. -/
def encodeChar (keep : Char → Bool) (c : Char) : List Char :=
  if keep c then [c] else (Utf8.encode (String.singleton c)).flatMap encodeByte

def encode (keep : Char → Bool) (cs : List Char) : List Char :=
  cs.flatMap (encodeChar keep)

/-- The bytes of an encoded text; a percent sign that two digits do not follow
stands for itself. -/
def decode : List UInt8 → List UInt8
  | 37 :: a :: b :: rest =>
      match hexDigit? a, hexDigit? b with
      | some high, some low => UInt8.ofNat (high.val * 16 + low.val) :: decode rest
      | _, _ => 37 :: decode (a :: b :: rest)
  | byte :: rest => byte :: decode rest
  | [] => []

end Percent

end ComposeDesk
