import ComposeDesk.Store.Basic

/-!
# Composes and clones in the store

Every look-up names an organization; what belongs to another one is missing.
A clone belongs to whom its compose belongs.
-/

namespace ComposeDesk

structure ComposeEntry where
  id : Uuid
  request : Json
  createdAt : Timestamp
  imageName : Option String
  clientId : Option String
  blueprintId : Option Uuid
  blueprintVersion : Option Nat
deriving Repr

namespace Store

def compose? (store : Store) (id : Uuid) : Option ComposeRow :=
  store.composes.find? (·.id = id)

def version? (store : Store) (id : Uuid) : Option VersionRow :=
  store.versions.find? (·.id = id)

def entry (store : Store) (row : ComposeRow) : ComposeEntry :=
  let version := row.versionId.bind store.version?
  { id := row.id
    request := row.request
    createdAt := row.createdAt
    imageName := row.imageName
    clientId := row.clientId
    blueprintId := version.map (·.blueprintId)
    blueprintVersion := version.map (·.number) }

def isActive (org : String) (row : ComposeRow) : Bool :=
  !row.deleted && row.org = org

def insertCompose (store : Store) (row : ComposeRow) : Except StoreFault Store :=
  match store.compose? row.id with
  | some _ => .error (.composeExists row.id)
  | none => .ok { store with composes := store.composes ++ [row] }

def getCompose (store : Store) (id : Uuid) (org : String) : Except StoreFault ComposeEntry :=
  match store.compose? id with
  | some row =>
      if isActive org row then .ok (store.entry row) else .error (.notFound .compose)
  | none => .error (.notFound .compose)

def activeComposes (store : Store) (org : String) (now : Timestamp) (window : Int) :
    List ComposeEntry :=
  newestFirst (·.createdAt)
    ((store.composes.filter fun row =>
      isActive org row && row.createdAt.isWithin now window).map store.entry)

/-- The number of composes of an organization within a window of time, deleted
ones included. -/
def countComposes (store : Store) (org : String) (now : Timestamp) (window : Int) : Nat :=
  (store.composes.filter fun row =>
    row.org = org && row.createdAt.isWithin now window).length

def child? (step : String) (index : Nat) : Json → Option Json
  | .obj members => (members.find? (·.1 == step)).map (·.2)
  | .arr items => items[index]?
  | _ => none

def imageTypeOf (request : Json) : Option String := do
  let requests ← request.get? "image_requests"
  let first ← child? "0" 0 requests
  match first.get? "image_type" with
  | some (.str name) => some name
  | _ => none

def composeImageType (store : Store) (id : Uuid) (org : String) :
    Except StoreFault String := do
  let entry ← store.getCompose id org
  match imageTypeOf entry.request with
  | some name => .ok name
  | none => .error (.notFound .imageType)

/-- Mark a compose as deleted. -/
def deleteCompose (store : Store) (id : Uuid) (org : String) : Except StoreFault Store :=
  match store.compose? id with
  | some row =>
      if isActive org row then
        .ok { store with
          composes := store.composes.map fun row =>
            if row.id = id then { row with deleted := true } else row }
      else .error (.notFound .compose)
  | none => .error (.notFound .compose)

/-- Add a clone of a compose, whoever it belongs to. -/
def insertClone (store : Store) (row : CloneRow) : Except StoreFault Store :=
  match store.compose? row.composeId with
  | some _ => .ok { store with clones := store.clones ++ [row] }
  | none => .error (.notFound .compose)

/-- Whether a compose is one of an organization, deleted or not. -/
def owns (store : Store) (org : String) (id : Uuid) : Bool :=
  match store.compose? id with
  | some row => row.org = org
  | none => false

def getClone (store : Store) (id : Uuid) (org : String) : Except StoreFault CloneRow :=
  match store.clones.find? fun row => row.id = id && store.owns org row.composeId with
  | some row => .ok row
  | none => .error (.notFound .clone)

/-- The clones of a compose, newest first; none if the compose belongs to
another organization. -/
def clonesOf (store : Store) (composeId : Uuid) (org : String) : List CloneRow :=
  if store.owns org composeId then
    newestFirst (·.createdAt) (store.clones.filter (·.composeId = composeId))
  else []

end Store

end ComposeDesk
