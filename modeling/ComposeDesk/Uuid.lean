import ComposeDesk.Decimal.Digits
import ComposeDesk.Json.Codec
import ComposeDesk.Text.Hex

/-!
# Identifiers

An identifier is thirty-two hexadecimal digits.  It is written in lower case
in five groups, and read with or without the hyphens, in braces, or with a
prefix that names the scheme; letters are read in either case.
-/

namespace ComposeDesk

structure Uuid where
  digits : List (Fin 16)
  size : digits.length = 32
deriving DecidableEq

namespace Uuid

instance : Repr Uuid where
  reprPrec id _ := repr (id.digits.map (·.val))

instance : Inhabited Uuid where
  default := ⟨List.replicate 32 (Text.lastHexDigit 0), by simp⟩

def groupSizes : List Nat := [8, 4, 4, 4, 12]

/-- Where the groups start, with a hyphen before each but the first. -/
def groupStarts : List Nat := [0, 9, 14, 19, 24]

def groupedSize : Nat := 36

def group : List Nat → List Char → List Char
  | [], cs => cs
  | [_], cs => cs
  | size :: sizes, cs => cs.take size ++ '-' :: group sizes (cs.drop size)

def ungroup? : List Nat → List Char → Option (List Char)
  | [], cs => if cs.isEmpty then some [] else none
  | [size], cs => if cs.length = size then some cs else none
  | size :: sizes, cs =>
      match cs.drop size with
      | '-' :: rest => (ungroup? sizes rest).map (cs.take size ++ ·)
      | _ => none

def toText (id : Uuid) : String :=
  String.ofList (group groupSizes (id.digits.map Text.hexChar))

def ofDigits? (cs : List Char) : Option Uuid :=
  match cs.mapM Text.hexDigit? with
  | some digits => if h : digits.length = 32 then some ⟨digits, h⟩ else none
  | none => none

def scheme : List Char := "urn:uuid:".toList

def maxSize : Nat := scheme.length + groupedSize

def hasScheme (cs : List Char) : Bool :=
  scheme.isPrefixOf (cs.map Char.toLower)

def unbraced? (cs : List Char) : Option (List Char) :=
  match cs with
  | c :: rest =>
      if c = Char.ofNat 0x7B && rest.getLast? = some (Char.ofNat 0x7D) then some rest.dropLast
      else none
  | [] => none

/-- What stands in braces or after the scheme, and where it starts. -/
def wrapped? (cs : List Char) : Option (List Char × Nat) :=
  match unbraced? cs with
  | some inner => some (inner, 1)
  | none => if hasScheme cs then some (cs.drop scheme.length, scheme.length) else none

def body? (cs : List Char) : Option (List Char) :=
  if cs.length = 32 then some cs
  else match wrapped? cs with
    | some (inner, _) => ungroup? groupSizes inner
    | none => ungroup? groupSizes cs

def ofText? (text : String) : Option Uuid :=
  (body? text.toList).bind ofDigits?

inductive Fault where
  | character (found : Char) (place : Nat)
  | length (found : Nat)
  | groupCount (found : Nat)
  | groupLength (group found : Nat)
deriving DecidableEq, Repr

def Fault.message : Fault → String
  | .character found place =>
      "invalid character: found `" ++ found.toString ++ "` at " ++ Decimal.ofNat place
  | .length found => "invalid length: found " ++ Decimal.ofNat found
  | .groupCount found =>
      "invalid group count: expected " ++ Decimal.ofNat groupSizes.length ++ ", found " ++
        Decimal.ofNat found
  | .groupLength group found =>
      "invalid group length in group " ++ Decimal.ofNat group ++ ": expected " ++
        Decimal.ofNat (groupSizes.getD group 0) ++ ", found " ++ Decimal.ofNat found

/-- The first character that is neither a digit nor a hyphen, with its place in
bytes. -/
def strange? : Nat → List Char → Option (Char × Nat)
  | _, [] => none
  | place, c :: rest =>
      if c = '-' || (Text.hexDigit? c).isSome then strange? (place + c.utf8Size) rest
      else some (c, place)

def hyphens : Nat → List Char → List Nat
  | _, [] => []
  | place, c :: rest =>
      if c = '-' then place :: hyphens (place + 1) rest else hyphens (place + 1) rest

/-- The first group, with its length, that does not end where it should. -/
def wrongGroup? (starts : List Nat) (group : Nat) : List Nat → Option (Nat × Nat)
  | [] => none
  | hyphen :: rest =>
      match starts with
      | start :: next :: starts =>
          if hyphen + 1 = next then wrongGroup? (next :: starts) (group + 1) rest
          else some (group, hyphen - start)
      | _ => none

def byteSize (cs : List Char) : Nat :=
  (String.ofList cs).utf8ByteSize

/-- The part of a text that is judged: where the size is that of a form with
groups the groups alone, else all of the text. -/
def judged (cs : List Char) : List Char :=
  match wrapped? cs with
  | some (inner, _) => if byteSize inner = groupedSize then inner else cs
  | none => cs

/-- Why a part that is judged is no identifier: a strange character before
anything else, then the number of groups, then the length of a group. -/
def diagnosePart (cs : List Char) : Fault :=
  let (inner, offset) := (wrapped? cs).getD (cs, 0)
  match strange? offset inner with
  | some (c, place) => .character c place
  | none =>
      let places := hyphens 0 inner
      if places.isEmpty && offset = 0 && byteSize cs ≠ groupedSize then .length (byteSize cs)
      else if places.length ≠ 4 then .groupCount (places.length + 1)
      else match wrongGroup? groupStarts 0 places with
        | some (group, length) => .groupLength group length
        | none => .groupLength 4 (byteSize cs - 24)

/-- Why a text that is no identifier is none.  One that is longer than every
form is not looked into. -/
def diagnose (text : String) : Fault :=
  if maxSize < text.utf8ByteSize then .length text.utf8ByteSize
  else diagnosePart (judged text.toList)

def ofText (text : String) : Except Fault Uuid :=
  match ofText? text with
  | some id => .ok id
  | none => .error (diagnose text)

def codec : Codec Uuid where
  read
    | .str s =>
        match ofText s with
        | .ok id => .ok id
        | .error fault =>
            .error (.here (.rule ("UUID parsing failed: " ++ fault.message)))
    | other => .error (Json.refuse "a formatted UUID string" other)
  write id := .str id.toText

end Uuid

end ComposeDesk
