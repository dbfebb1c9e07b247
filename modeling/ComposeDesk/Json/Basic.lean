/-!
# Documents

A document is a tree of values.  Objects keep their members in the order of
the text, repeated names included, because readers report the first fault of
a document.  Text that is no document is read into the same tree: the place
where it stops making sense is marked, so that a fault that shows before that
place is still the one reported.
-/

namespace ComposeDesk

/-- A number: an integer that fits 64 bits, signed or not, or a binary64
given by its bits. -/
inductive Number where
  | int (value : Int)
  | float (bits : UInt64)
deriving DecidableEq, Repr, Inhabited

/-- What is wrong with a marked place of a document. -/
inductive Defect where
  /-- From here on the text is no document. -/
  | broken
  /-- A value that can be passed over but has no meaning: text that is not
  Unicode, a number that is too large, or a container nested too deeply. -/
  | unreadable
  /-- A member whose name has no meaning and whose value can be passed over. -/
  | nameless
deriving DecidableEq, Repr

inductive Json where
  | null
  | bool (value : Bool)
  | num (value : Number)
  | str (value : String)
  | arr (items : List Json)
  | obj (members : List (String × Json))
  | defect (kind : Defect)
deriving Repr, Inhabited

namespace Json

def int (value : Int) : Json := .num (.int value)

/-- The value of the first member of a name. -/
def get? (name : String) : Json → Option Json
  | .obj members => (members.find? (·.1 == name)).map (·.2)
  | _ => none

/-- The nesting depth up to which containers can be read. -/
def maxDepth : Nat := 127

mutual

/-- No place of the document stops the reading of its text. -/
def skippable : Json → Bool
  | .arr items => skippableItems items
  | .obj members => skippableMembers members
  | .defect .broken => false
  | _ => true

def skippableItems : List Json → Bool
  | [] => true
  | item :: rest => item.skippable && skippableItems rest

def skippableMembers : List (String × Json) → Bool
  | [] => true
  | (_, value) :: rest => value.skippable && skippableMembers rest

end

mutual

/-- No place of the document is marked as a defect. -/
def readable : Json → Bool
  | .arr items => readableItems items
  | .obj members => readableMembers members
  | .defect _ => false
  | _ => true

def readableItems : List Json → Bool
  | [] => true
  | item :: rest => item.readable && readableItems rest

def readableMembers : List (String × Json) → Bool
  | [] => true
  | (_, value) :: rest => value.readable && readableMembers rest

end

mutual

/-- The number of values in a document. -/
def size : Json → Nat
  | .arr items => sizeItems items + 1
  | .obj members => sizeMembers members + 1
  | _ => 1

def sizeItems : List Json → Nat
  | [] => 0
  | item :: rest => item.size + sizeItems rest

def sizeMembers : List (String × Json) → Nat
  | [] => 0
  | (_, value) :: rest => value.size + sizeMembers rest

end

/-- Put a member into a list sorted by name, in place of one of its name. -/
def insertSorted (name : String) (value : Json) :
    List (String × Json) → List (String × Json)
  | [] => [(name, value)]
  | (other, held) :: rest =>
      if name < other then (name, value) :: (other, held) :: rest
      else if name = other then (name, value) :: rest
      else (other, held) :: insertSorted name value rest

mutual

/-- The document with members sorted by name; of equal names the last one
counts. -/
def sorted : Json → Json
  | .arr items => .arr (sortedItems items)
  | .obj members => .obj (sortedMembers members [])
  | other => other

def sortedItems : List Json → List Json
  | [] => []
  | item :: rest => item.sorted :: sortedItems rest

/-- Members added one by one to members that are sorted. -/
def sortedMembers : List (String × Json) → List (String × Json) →
    List (String × Json)
  | [], held => held
  | (name, value) :: rest, held =>
      sortedMembers rest (insertSorted name value.sorted held)

end

end Json

end ComposeDesk
