import ComposeDesk.Calendar.Timestamp
import ComposeDesk.Json.Basic
import ComposeDesk.Uuid

/-!
# What the desk remembers

Composes, clones, blueprints and their versions, each in the order in which
they came.  Composes are never removed but marked as deleted, because the
quota goes on counting them.
-/

namespace ComposeDesk

/-- A compose that the build service has accepted. -/
structure ComposeRow where
  id : Uuid
  org : String
  account : String
  email : String
  imageName : Option String
  /-- The request of the caller without passwords. -/
  request : Json
  clientId : Option String
  /-- The version of a blueprint that the compose came from. -/
  versionId : Option Uuid
  createdAt : Timestamp
  deleted : Bool
deriving Repr

structure CloneRow where
  id : Uuid
  composeId : Uuid
  request : Json
  createdAt : Timestamp
deriving Repr

structure BlueprintRow where
  id : Uuid
  org : String
  account : String
  name : String
  description : String
deriving DecidableEq, Repr

structure VersionRow where
  id : Uuid
  blueprintId : Uuid
  number : Nat
  body : Json
  createdAt : Timestamp
deriving Repr

structure Store where
  composes : List ComposeRow
  clones : List CloneRow
  blueprints : List BlueprintRow
  versions : List VersionRow
deriving Repr

def Store.empty : Store := ⟨[], [], [], []⟩

inductive Stored where
  | compose
  | imageType
  | clone
  | blueprint
  | version
deriving DecidableEq, Repr

def Stored.name : Stored → String
  | .compose => "compose"
  | .imageType => "compose image type"
  | .clone => "clone"
  | .blueprint => "blueprint"
  | .version => "blueprint version"

inductive StoreFault where
  | notFound (what : Stored)
  | composeExists (id : Uuid)
  | nameTaken (name : String)
deriving DecidableEq, Repr

def StoreFault.message : StoreFault → String
  | .notFound what => what.name ++ " not found"
  | .composeExists id => "compose " ++ id.toText ++ " already exists"
  | .nameTaken name => "blueprint " ++ name ++ " already exists"

structure Range where
  limit : Int
  offset : Int
deriving DecidableEq, Repr

def Range.of {α : Type} (range : Range) (items : List α) : List α × Nat :=
  ((items.drop range.offset.toNat).take range.limit.toNat, items.length)

def newestFirst {α : Type} (time : α → Timestamp) (items : List α) : List α :=
  items.mergeSort fun a b => !(time a).before (time b)

/-- An instant as a number of nanoseconds. -/
def Timestamp.total (time : Timestamp) : Int :=
  time.seconds * 1000000000 + time.nanos

/-- Whether an instant lies within a number of nanoseconds before now. -/
def Timestamp.isWithin (time now : Timestamp) (window : Int) : Bool :=
  now.total - window ≤ time.total

end ComposeDesk
