import ComposeDesk.Desk.Compose
import ComposeDesk.Response.Blueprint

/-!
# Blueprints at the desk

Blueprints are kept in versions, their passwords only as hashes.  Reading one
never shows a password; composing one submits each of its images.
-/

namespace ComposeDesk

/-- Whether a password is a hash of one of the schemes that images know. -/
def isCrypted (password : String) : Bool :=
  ["$2b$", "$5$", "$6$"].any fun scheme => scheme.toList.isPrefixOf password.toList

/-- What an update of a blueprint writes, apart from the identifiers. -/
structure BlueprintDraft where
  name : String
  description : String
  body : BlueprintBody
deriving DecidableEq, Repr

namespace Desk

variable {σ : Type}

/-- A user with the password hashed; empty passwords and hashes stay. -/
def cryptUser (desk : Desk σ) (user : User) : StateM σ User :=
  match user.password with
  | none => return user
  | some password =>
      if password = "" || isCrypted password then return user
      else do
        let hash ← desk.crypt password
        return { user with password := some hash }

def cryptPasswords (desk : Desk σ) (customizations : Customizations) :
    StateM σ Customizations :=
  match customizations.users with
  | none => return customizations
  | some users => do
      let users ← users.mapM desk.cryptUser
      return { customizations with users := some users }

/-- Refuse names of white space only. -/
def checkName (name : String) : Except Error Unit :=
  if name.toList.all Text.isBlank then
    .error (.validation ("Invalid blueprint name: it must contain at least one " ++
      "non-whitespace character"))
  else .ok ()

def checkUsers (customizations : Customizations) : Except Error Unit :=
  (customizations.users.getD []).forM fun user =>
    (user.validate.mapError Error.validation).map fun _ => ()

def writeOf (caller : Identity) (id versionId : Uuid) (draft : BlueprintDraft) :
    BlueprintWrite :=
  ⟨id, versionId, caller.org, caller.account, draft.name, draft.description,
    BlueprintBody.codec.write draft.body⟩

def createBlueprint (desk : Desk σ) (caller : Identity) (request : BlueprintRequest) :
    Work σ Created := do
  Work.of (checkName request.name)
  Work.of (checkUsers request.customizations)
  let customizations ← Work.outside (desk.cryptPasswords request.customizations)
  let id ← Work.outside desk.drawId
  let versionId ← Work.outside desk.drawId
  let now ← Work.outside desk.now
  let draft : BlueprintDraft :=
    ⟨request.name, request.description, { request.body with customizations }⟩
  Work.change StoreFault.error fun store =>
    (store.insertBlueprint (writeOf caller id versionId draft) now).map fun store => (store, ())
  return ⟨id⟩

def blueprintOf (caller : Identity) (id : Uuid) (number : Option Int) :
    Work σ BlueprintEntry := do
  let found ← Work.look (·.getBlueprint id caller.org number)
  Work.check StoreFault.error found

def storedBody (entry : BlueprintEntry) : Except Error BlueprintBody :=
  (BlueprintBody.codec.read entry.body).mapError .document

/-- The users of an update, with credentials that are not given taken from the
stored users. -/
def mergedUsers (stored : List User) (customizations : Customizations) :
    Except Error Customizations :=
  match customizations.users with
  | none => .ok customizations
  | some users =>
      match users.mapM (·.mergeForUpdate stored) with
      | .ok users => .ok { customizations with users := some users }
      | .error text => .error (.validation text)

/-- The first half of an update: what is to be written, given the latest
version as it is now. -/
def draftUpdate (desk : Desk σ) (caller : Identity) (id : Uuid) (request : BlueprintRequest) :
    Work σ BlueprintDraft := do
  Work.of (checkName request.name)
  let existing ← blueprintOf caller id none
  let stored ← Work.of (storedBody existing)
  let merged ← Work.of
    (mergedUsers (stored.customizations.users.getD []) request.customizations)
  let customizations ← Work.outside (desk.cryptPasswords merged)
  return ⟨request.name, request.description, { request.body with customizations }⟩

/-- The second half of an update: append what is to be written to the versions
as they are now. -/
def writeUpdate (desk : Desk σ) (caller : Identity) (id : Uuid) (draft : BlueprintDraft) :
    Work σ Nat := do
  let versionId ← Work.outside desk.drawId
  let now ← Work.outside desk.now
  Work.change StoreFault.error fun store =>
    store.updateBlueprint (writeOf caller id versionId draft) now

def updateBlueprint (desk : Desk σ) (caller : Identity) (id : Uuid)
    (request : BlueprintRequest) : Work σ Created := do
  let draft ← desk.draftUpdate caller id request
  let _ ← desk.writeUpdate caller id draft
  return ⟨id⟩

def deleteBlueprint (caller : Identity) (id : Uuid) : Work σ Unit :=
  Work.change StoreFault.error fun store =>
    (store.deleteBlueprint id caller.org caller.account).map fun store => (store, ())

/-- The number that stands for the latest version. -/
def latestVersion : Int := -1

/-- The version that is asked for; none is the latest one. -/
def requestedVersion : Option Int → Except Error (Option Int)
  | none => .ok none
  | some number =>
      if number = latestVersion then .ok none
      else if number ≤ 0 then .error (.validation "Invalid version number")
      else .ok (some number)

def getBlueprint (caller : Identity) (id : Uuid) (number : Option Int) :
    Work σ BlueprintView := do
  let number ← Work.of (requestedVersion number)
  let entry ← blueprintOf caller id number
  let stored ← Work.of (storedBody entry)
  let body := stored.redacted
  return {
    id := entry.id
    name := entry.name
    description := entry.description
    version := Int32.ofNat entry.version
    distribution := body.distribution
    imageRequests := body.imageRequests
    customizations := body.customizations
    modifiedAt := entry.modifiedAt }

def blankSubscription : Subscription := ⟨0, "", "", "", false, none⟩

/-- The latest version to take along, without passwords and subscription. -/
def exportBlueprint (desk : Desk σ) (caller : Identity) (id : Uuid) :
    Work σ BlueprintExport := do
  let entry ← blueprintOf caller id none
  let stored ← Work.of (storedBody entry)
  let now ← Work.outside desk.now
  let customizations := stored.customizations.redacted
  return {
    name := entry.name
    description := entry.description
    distribution := stored.distribution
    customizations := { customizations with
      subscription := customizations.subscription.map fun _ => blankSubscription }
    metadata := ⟨now, id⟩ }

def blueprintItem (summary : BlueprintSummary) : BlueprintItem :=
  ⟨summary.id, summary.name, summary.description, Int32.ofNat summary.version,
    summary.modifiedAt⟩

def blueprints (caller : Identity) (filter : BlueprintFilter) (range : Range) :
    Work σ (List BlueprintItem × Nat) := do
  let summaries ← Work.look (·.findBlueprints caller.org filter)
  let (part, total) := range.of summaries
  return (part.map blueprintItem, total)

/-- The program that composes of blueprints are sent by. -/
def blueprintClient : String := "api"

def isSelected (selection : ImageSelection) (image : ImageRequest) : Bool :=
  match selection.imageTypes with
  | some types => types.contains image.imageType
  | none => true

def blueprintRequest (entry : BlueprintEntry) (body : BlueprintBody) (image : ImageRequest) :
    ComposeRequest where
  distribution := body.distribution
  imageRequests := [image]
  customizations := some body.customizations
  clientId := some blueprintClient
  imageName := some entry.name
  imageDescription := some entry.description

/-- Submit the selected images of the latest version one by one; the first that
is not accepted ends it. -/
def composeBlueprint (desk : Desk σ) (caller : Identity) (id : Uuid)
    (selection : ImageSelection) : Work σ (List Created) := do
  let entry ← blueprintOf caller id none
  let body ← Work.of (storedBody entry)
  let selected := body.imageRequests.filter (isSelected selection)
  if selected.isEmpty then
    throw (.validation
      "No image requests of the blueprint match the requested image types")
  selected.mapM fun image =>
    desk.composeFor caller (blueprintRequest entry body image) (some entry.versionId)

def blueprintComposes (desk : Desk σ) (caller : Identity) (id : Uuid) (number : Option Int)
    (range : Range) : Work σ (List ComposeItem × Nat) := do
  let entry ← blueprintOf caller id none
  let number ←
    if number = some latestVersion then pure (some (entry.version : Int))
    else Work.of (requestedVersion number)
  let now ← Work.outside desk.now
  let entries ← Work.look (·.composesOfBlueprint caller.org id number now listingWindow)
  let (part, total) := range.of entries
  let items ← Work.of (part.mapM composeItem)
  return (items, total)

end Desk

end ComposeDesk
