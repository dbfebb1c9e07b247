import ComposeDesk.Store.Compose
import ComposeDesk.Text.Lowercase

/-!
# Blueprints in the store

A blueprint has a name of its own within its organization.  Its versions are
numbered from one and are never changed.
-/

namespace ComposeDesk

structure BlueprintWrite where
  id : Uuid
  versionId : Uuid
  org : String
  account : String
  name : String
  description : String
  body : Json
deriving Repr

structure BlueprintEntry where
  id : Uuid
  versionId : Uuid
  version : Nat
  name : String
  description : String
  body : Json
  modifiedAt : Timestamp
deriving Repr

structure BlueprintSummary where
  id : Uuid
  name : String
  description : String
  version : Nat
  modifiedAt : Timestamp
deriving DecidableEq, Repr

structure BlueprintFilter where
  /-- Only those of this name. -/
  name : Option String
  /-- Only those with this text in name or description, in any case. -/
  search : Option String
deriving DecidableEq, Repr

def isPart (part : List Char) : List Char → Bool
  | [] => part.isEmpty
  | c :: rest => part.isPrefixOf (c :: rest) || isPart part rest

namespace BlueprintFilter

/-- Whether a text holds another one, both in lower case. -/
def holds (text search : String) : Bool :=
  isPart (Text.lowercase search).toList (Text.lowercase text).toList

def accepts (filter : BlueprintFilter) (row : BlueprintRow) : Bool :=
  (match filter.name with
    | some name => row.name = name
    | none => true) &&
  (match filter.search with
    | some search => holds row.name search || holds row.description search
    | none => true)

end BlueprintFilter

namespace Store

def blueprint? (store : Store) (id : Uuid) : Option BlueprintRow :=
  store.blueprints.find? (·.id = id)

/-- The later of two versions; of equal numbers the second one. -/
def laterVersion (held : Option VersionRow) (row : VersionRow) : Option VersionRow :=
  match held with
  | some other => if row.number < other.number then some other else some row
  | none => some row

def latest? (store : Store) (id : Uuid) : Option VersionRow :=
  (store.versions.filter (·.blueprintId = id)).foldl laterVersion none

def versionOf? (store : Store) (id : Uuid) (number : Int) : Option VersionRow :=
  store.versions.find? fun row => row.blueprintId = id && (row.number : Int) = number

def isTaken (store : Store) (org name : String) (except : Option Uuid) : Bool :=
  store.blueprints.any fun row =>
    row.org = org && row.name = name && some row.id ≠ except

/-- Put a blueprint in the place of one of its identifier, or at the end. -/
def putBlueprint (row : BlueprintRow) : List BlueprintRow → List BlueprintRow
  | [] => [row]
  | held :: rest => if held.id = row.id then row :: rest else held :: putBlueprint row rest

def insertBlueprint (store : Store) (write : BlueprintWrite) (now : Timestamp) :
    Except StoreFault Store :=
  if store.isTaken write.org write.name none then .error (.nameTaken write.name)
  else
    .ok { store with
      blueprints := putBlueprint
        ⟨write.id, write.org, write.account, write.name, write.description⟩ store.blueprints
      versions := store.versions ++ [⟨write.versionId, write.id, 1, write.body, now⟩] }

/-- The version of a blueprint within an organization; the latest one unless a
number is asked for. -/
def getBlueprint (store : Store) (id : Uuid) (org : String) (number : Option Int) :
    Except StoreFault BlueprintEntry :=
  match store.blueprint? id with
  | none => .error (.notFound .blueprint)
  | some row =>
      if row.org ≠ org then .error (.notFound .blueprint)
      else
        let version :=
          match number with
          | some number => store.versionOf? id number
          | none => store.latest? id
        match version with
        | none => .error (.notFound .version)
        | some version =>
            .ok ⟨id, version.id, version.number, row.name, row.description, version.body,
              version.createdAt⟩

def ownsBlueprint (store : Store) (id : Uuid) (org account : String) : Bool :=
  match store.blueprint? id with
  | some row => row.org = org && row.account = account
  | none => false

/-- Give a blueprint a name, a description and a new version, whose number is
answered.  Numbers are stored in 32 bits with a sign, so this is the next number as
long as it is at most 2147483647. -/
def updateBlueprint (store : Store) (write : BlueprintWrite) (now : Timestamp) :
    Except StoreFault (Store × Nat) :=
  if !store.ownsBlueprint write.id write.org write.account then
    .error (.notFound .blueprint)
  else if store.isTaken write.org write.name (some write.id) then
    .error (.nameTaken write.name)
  else
    let number :=
      match store.latest? write.id with
      | some row => row.number + 1
      | none => 1
    let renamed := store.blueprints.map fun row =>
      if row.id = write.id then
        { row with name := write.name, description := write.description }
      else row
    let versions :=
      store.versions ++ [⟨write.versionId, write.id, number, write.body, now⟩]
    .ok ({ store with blueprints := renamed, versions }, number)

/-- Remove a blueprint with its versions; composes that came from it stay. -/
def deleteBlueprint (store : Store) (id : Uuid) (org account : String) :
    Except StoreFault Store :=
  if !store.ownsBlueprint id org account then .error (.notFound .blueprint)
  else
    let removed := (store.versions.filter (·.blueprintId = id)).map (·.id)
    .ok { store with
      blueprints := store.blueprints.filter (·.id ≠ id)
      versions := store.versions.filter (·.blueprintId ≠ id)
      composes := store.composes.map fun row =>
        if row.versionId.any removed.contains then { row with versionId := none } else row }

def findBlueprints (store : Store) (org : String) (filter : BlueprintFilter) :
    List BlueprintSummary :=
  let rows := store.blueprints.filter fun row => row.org = org && filter.accepts row
  newestFirst (·.modifiedAt) (rows.filterMap fun row =>
    (store.latest? row.id).map fun version =>
      ⟨row.id, row.name, row.description, version.number, version.createdAt⟩)

/-- The composes of an organization that came from a blueprint, or from one
version of it, within a window of time, newest first. -/
def composesOfBlueprint (store : Store) (org : String) (id : Uuid) (number : Option Int)
    (now : Timestamp) (window : Int) : List ComposeEntry :=
  (store.activeComposes org now window).filter fun entry =>
    entry.blueprintId = some id &&
      (match number with
        | some number => entry.blueprintVersion.map Int.ofNat = some number
        | none => true)

end Store

end ComposeDesk
