import ComposeDesk.Decimal.Shortest
import ComposeDesk.Json.Basic
import ComposeDesk.Text.Hex

/-!
# Writing documents

The compact text of a document, without white space between its parts.
-/

namespace ComposeDesk

namespace Json

def writeChar (c : Char) : List Char :=
  if c = '"' then ['\\', '"']
  else if c = '\\' then ['\\', '\\']
  else if c = '\x08' then ['\\', 'b']
  else if c = '\x0c' then ['\\', 'f']
  else if c = '\n' then ['\\', 'n']
  else if c = '\r' then ['\\', 'r']
  else if c = '\t' then ['\\', 't']
  else if c.toNat < 0x20 then
    '\\' :: 'u' :: '0' :: '0' ::
      [Text.lastHexDigit (c.toNat / 16), Text.lastHexDigit c.toNat].map Text.hexChar
  else [c]

def writeString (text : String) : String :=
  String.ofList ('"' :: (text.toList.flatMap writeChar ++ ['"']))

def writeNumber : Number → String
  | .int n => Decimal.ofInt n
  | .float bits =>
      if bits.toNat / Nat.pow 2 52 % 2048 = 2047 then "null"
      else Decimal.ofBits .document bits

mutual

def compact : Json → String
  | .null => "null"
  | .bool true => "true"
  | .bool false => "false"
  | .num n => writeNumber n
  | .str text => writeString text
  | .arr items => "[" ++ ",".intercalate (compactItems items) ++ "]"
  | .obj members => "\x7b" ++ ",".intercalate (compactMembers members) ++ "\x7d"
  | .defect _ => "null"

def compactItems : List Json → List String
  | [] => []
  | item :: rest => item.compact :: compactItems rest

def compactMembers : List (String × Json) → List String
  | [] => []
  | (name, value) :: rest =>
      (writeString name ++ ":" ++ value.compact) :: compactMembers rest

end

end Json

end ComposeDesk
