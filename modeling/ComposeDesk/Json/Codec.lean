import ComposeDesk.Json.Fault
import ComposeDesk.Json.Reader

/-!
# Types as documents

A codec says how the values of a type are written as documents and which
documents are read as values.  A codec is faithful if what it writes is read
back as the same value.
-/

namespace ComposeDesk

open Json

structure Codec (α : Type) where
  read : Json → Except Fault α
  write : α → Json

namespace Codec

variable {α β : Type}

/-- Every value that is written is read back. -/
def Faithful (codec : Codec α) : Prop :=
  ∀ a, codec.read (codec.write a) = .ok a

def readText (codec : Codec α) (source : Source) : Except Fault α :=
  let text := Json.read source
  match codec.read text.json with
  | .ok a => if text.ended then .ok a else .error .malformed
  | .error fault => .error fault.inText

def text : Codec String where
  read
    | .str s => .ok s
    | other => .error (refuse "a string" other)
  write := .str

def bool : Codec Bool where
  read
    | .bool b => .ok b
    | other => .error (refuse "a boolean" other)
  write := .bool

def integer (expected : String) (least most : Int) : Json → Except Fault Int
  | .num (.int n) =>
      if least ≤ n ∧ n ≤ most then .ok n
      else .error (.here (.outOfRange n expected))
  | other => .error (refuse expected other)

def uint64 : Codec UInt64 where
  read json := (integer "u64" 0 18446744073709551615 json).map fun n => UInt64.ofNat n.toNat
  write n := .int n.toNat

def int64 : Codec Int64 where
  read json :=
    (integer "i64" (-9223372036854775808) 9223372036854775807 json).map Int64.ofInt
  write n := .int n.toInt

def uint32 : Codec UInt32 where
  read json := (integer "u32" 0 4294967295 json).map fun n => UInt32.ofNat n.toNat
  write n := .int n.toNat

def int32 : Codec Int32 where
  read json := (integer "i32" (-2147483648) 2147483647 json).map Int32.ofInt
  write n := .int n.toInt

/-- Any value, with members sorted by name. -/
def value : Codec Json where
  read json := if json.readable then .ok json.sorted else .error .malformed
  write := id

/-- Read items in order; the first fault counts. -/
def readItems (read : Json → Except Fault α) : Nat → List Json → Except Fault (List α)
  | _, [] => .ok []
  | index, item :: rest =>
      match read item with
      | .error fault => .error (fault.under (.item index))
      | .ok a => (readItems read (index + 1) rest).map (a :: ·)

def list (codec : Codec α) : Codec (List α) where
  read
    | .arr items => readItems codec.read 0 items
    | other => .error (refuse "a sequence" other)
  write items := .arr (items.map codec.write)

def nullable (codec : Codec α) : Codec (Option α) where
  read
    | .null => .ok none
    | other => (codec.read other).map some
  write
    | none => .null
    | some a => codec.write a

/-- Read members in order into pairs of names and values; the first fault
counts. -/
def readMembers (read : Json → Except Fault α) :
    List (String × Json) → Except Fault (List (String × α))
  | [] => .ok []
  | (_, .defect _) :: _ => .error .malformed
  | (name, held) :: rest =>
      match read held with
      | .error fault => .error (fault.under (.member name))
      | .ok a => (readMembers read rest).map ((name, a) :: ·)

/-- Values by name, in the order of the document. -/
def table (codec : Codec α) : Codec (List (String × α)) where
  read
    | .obj members => readMembers codec.read members
    | other => .error (refuse "a map" other)
  write members := .obj (members.map fun (name, a) => (name, codec.write a))

def readName (names : List (String × α)) (name : String) : Except Fault α :=
  match names.find? (·.1 == name) with
  | some (_, a) => .ok a
  | none => .error (.here (.unknownVariant name (names.map (·.1))))

/-- One of some names.  A name may also be written as the only member of an
object, with null for its value. -/
def oneOf (names : List (String × α)) (name : α → String) : Codec α where
  read
    | .str s => readName names s
    | .obj ((_, .defect .nameless) :: _) => .error .malformed
    | .obj (("", .defect .broken) :: _) => .error .malformed
    | .obj ((s, held) :: rest) =>
        match readName names s with
        | .error fault => .error fault
        | .ok a =>
            match held with
            | .null => if rest.isEmpty then .ok a else .error .malformed
            | other => .error ((refuse "unit" other).under (.member s))
    | _ => .error .malformed
  write a := .str (name a)

/-- Values that are read and written as values of another type, under a rule
that may refuse some. -/
def via (codec : Codec α) (accept : α → Except String β) (back : β → α) : Codec β where
  read json :=
    match codec.read json with
    | .error fault => .error fault
    | .ok a =>
        match accept a with
        | .ok b => .ok b
        | .error text => .error (.here (.rule text))
  write b := codec.write (back b)

/-- Shapes that are tried one after the other on a document without defects. -/
def anyOf (type : String) (shapes : List (Json → Except Fault α)) (write : α → Json) :
    Codec α where
  read json :=
    if json.readable then
      match shapes.findSome? (fun shape => (shape json).toOption) with
      | some a => .ok a
      | none => .error (.here (.noVariant type))
    else .error .malformed
  write := write

end Codec

end ComposeDesk
