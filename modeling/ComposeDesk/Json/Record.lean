import ComposeDesk.Json.Codec

/-!
# Records as documents

A record is written as an object with a member for each field, and read from
an object or from an array of its fields.  Fields are looked up on their own;
every fault that a look-up meets carries its place in the document, and of all
faults the first in the document is reported.  Fields that are absent are
missed after the last place, in the order of declaration.
-/

namespace ComposeDesk

open Json

/-- A value read from a container, or the first fault and its place there. -/
inductive Reading (α : Type) where
  | found (a : α)
  | failed (place : Nat) (fault : Fault)

namespace Reading

variable {α β : Type}

/-- Two readings of one container: of two faults the earlier one counts, at one
place the first. -/
def both : Reading (α → β) → Reading α → Reading β
  | .found f, .found a => .found (f a)
  | .found _, .failed place fault => .failed place fault
  | .failed place fault, .found _ => .failed place fault
  | .failed place fault, .failed place' fault' =>
      if place' < place then .failed place' fault' else .failed place fault

/-- A reading that only checks, and one of the same container that counts. -/
def checked (check : Reading Unit) (reading : Reading α) : Reading α :=
  both (both (.found fun _ a => a) check) reading

def toExcept : Reading α → Except Fault α
  | .found a => .ok a
  | .failed _ fault => .error fault

end Reading

/-- The parts of a container in which fields are looked up. -/
inductive Parts where
  | members (members : List (String × Json))
  | items (items : List Json)

/-- The places and values of the members of some names, counted from a place
on. -/
def memberPlaces (names : List String) : Nat → List (String × Json) →
    List (Nat × String × Json)
  | _, [] => []
  | place, (name, value) :: rest =>
      if names.contains name then (place, name, value) :: memberPlaces names (place + 1) rest
      else memberPlaces names (place + 1) rest

/-- What a field is when its record leaves it out. -/
inductive Absent (α : Type) where
  /-- It has a value of its own. -/
  | value (a : α)
  /-- It may be left out of an object, but not of an array. -/
  | objectOnly (a : α)
  /-- It must be there. -/
  | missing

structure Field (σ α : Type) where
  /-- The name under which it is written, then others under which it is read. -/
  name : String
  aliases : List String
  read : Json → Except Fault α
  absent : Absent α
  write : σ → Option Json

structure Record (σ α : Type) where
  /-- The names of each field, in the order of declaration. -/
  names : List (List String)
  /-- Look up all fields; the text says what was expected of an array. -/
  read : String → Parts → Reading α
  write : σ → List (String × Json)

namespace Field

variable {σ α : Type}

def names (field : Field σ α) : List String :=
  field.name :: field.aliases

/-- Look up the field: by its names among members, by its index among items. -/
def look (field : Field σ α) (index : Nat) (expected : String) : Parts → Reading α
  | .members members =>
      match memberPlaces field.names 0 members with
      | [] =>
          match field.absent with
          | .value a | .objectOnly a => .found a
          | .missing => .failed members.length (.here (.missing field.name))
      | (place, name, value) :: repeated =>
          match field.read value, repeated with
          | .error fault, _ => .failed place (fault.under (.member name))
          | .ok a, [] => .found a
          | .ok _, (place, _, _) :: _ =>
              .failed place (.here (.duplicate field.name))
  | .items items =>
      match items[index]?, field.absent with
      | some value, _ =>
          match field.read value with
          | .ok a => .found a
          | .error fault => .failed index (fault.under (.item index))
      | none, .value a => .found a
      | none, _ => .failed index (.here (.wrongLength index expected))

end Field

namespace Record

variable {σ α β : Type}

def start (a : α) : Record σ α where
  names := []
  read _ _ := .found a
  write _ := []

def field (record : Record σ (α → β)) (field : Field σ α) : Record σ β where
  names := record.names ++ [field.names]
  read expected parts :=
    (record.read expected parts).both (field.look record.names.length expected parts)
  write a := record.write a ++ ((field.write a).map (field.name, ·)).toList

def required (record : Record σ (α → β)) (name : String) (codec : Codec α) (get : σ → α) :
    Record σ β :=
  record.field ⟨name, [], codec.read, .missing, fun a => some (codec.write (get a))⟩

/-- A field that may be null or left out, and is left out when there is no
value. -/
def optional (record : Record σ (Option α → β)) (name : String) (codec : Codec α)
    (get : σ → Option α) : Record σ β :=
  record.field ⟨name, [], codec.nullable.read, .value none, fun a => (get a).map codec.write⟩

/-- A field that may be null or left out, and is written as null when there is
no value. -/
def nullable (record : Record σ (Option α → β)) (name : String) (codec : Codec α)
    (get : σ → Option α) : Record σ β :=
  record.field
    ⟨name, [], codec.nullable.read, .value none, fun a => some (codec.nullable.write (get a))⟩

/-- A field that may be null, and be left out of an object but not of an array. -/
def nullableInObject (record : Record σ (Option α → β)) (name : String) (codec : Codec α)
    (get : σ → Option α) : Record σ β :=
  record.field
    ⟨name, [], codec.nullable.read, .objectOnly none,
      fun a => some (codec.nullable.write (get a))⟩

/-- A field that has a value of its own when it is left out. -/
def defaulted (record : Record σ (α → β)) (name : String) (codec : Codec α) (default : α)
    (get : σ → α) (aliases : List String := []) : Record σ β :=
  record.field ⟨name, aliases, codec.read, .value default, fun a => some (codec.write (get a))⟩

/-- The first place among members that belongs to no field and stops the
reading. -/
def stop (names : List (List String)) : Nat → List (String × Json) → Reading Unit
  | _, [] => .found ()
  | place, (name, value) :: rest =>
      match value with
      | .defect .nameless => .failed place .malformed
      | value =>
          if names.any (·.contains name) || value.skippable then stop names (place + 1) rest
          else .failed place .malformed

def expectation (record : Record σ α) (type : String) : String :=
  "struct " ++ type ++ " with " ++ Decimal.ofNat record.names.length ++
    (if record.names.length = 1 then " element" else " elements")

def readMembers (record : Record σ α) (type : String) (members : List (String × Json)) :
    Except Fault α :=
  ((stop record.names 0 members).checked
    (record.read (record.expectation type) (.members members))).toExcept

def readItems (record : Record σ α) (type : String) (items : List Json) : Except Fault α :=
  match record.read (record.expectation type) (.items items) with
  | .failed _ fault => .error fault
  | .found a =>
      if record.names.length < items.length then .error (.surplus items.length)
      else .ok a

def codec (record : Record α α) (type : String) : Codec α where
  read
    | .obj members => record.readMembers type members
    | .arr items => record.readItems type items
    | other => .error (refuse ("struct " ++ type) other)
  write a := .obj (record.write a)

/-- Read a record from an object only. -/
def shape (record : Record σ α) : Json → Except Fault α
  | .obj members => record.readMembers "" members
  | other => .error (refuse "a map" other)

end Record

def Json.object (members : List (String × Option Json)) : Json :=
  .obj (members.filterMap fun (name, value) => value.map (name, ·))

end ComposeDesk
