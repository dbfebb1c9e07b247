import ComposeDesk.Build.Answer
import ComposeDesk.Desk.Basic
import ComposeDesk.Response.Cause
import ComposeDesk.Response.Listing

/-!
# Composes at the desk

A request for a compose is admitted, turned into an order, placed with the
build service and recorded.  Callers then ask how far it has come.
-/

namespace ComposeDesk

namespace Build

def ErrorBody.empty : ErrorBody := ⟨"", "", ""⟩

/-- Why a request was refused, as far as the reply says so. -/
def ErrorBody.ofReply (reply : Reply) : ErrorBody :=
  match reply.read ErrorBody.codec with
  | .ok body => body
  | .error _ => .empty

end Build

namespace Desk

variable {σ : Type}

def allow (desk : Desk σ) (caller : Identity) : Work σ Unit := do
  let now ← Work.outside desk.now
  let answer ← Work.look fun store => desk.quotas.allows caller.org store now
  let allowed ← Work.check QuotaFault.error answer
  if allowed then return
  else
    Work.measure Metrics.quotaRejected
    throw .quotaExceeded

def soleImage (request : ComposeRequest) : Work σ ImageRequest :=
  match request.imageRequests with
  | [image] => do
      Work.measure (Metrics.composeRequested image.imageType.name)
      return image
  | _ => throw (.validation "Exactly one image request should be included")

def architectureFor (distribution : Distribution) (request : ComposeRequest)
    (image : ImageRequest) : Except Error Architecture :=
  match distribution.architecture? image.architecture with
  | some architecture => .ok architecture
  | none =>
      .error (.validation ("Architecture " ++ image.architecture ++ " not supported for " ++
        request.distribution))

def orderFor (desk : Desk σ) (caller : Identity) (request : ComposeRequest)
    (image : ImageRequest) : Work σ Build.Order := do
  let distribution ← Work.of (desk.distributionFor caller request.distribution)
  let architecture ← Work.of (architectureFor distribution request image)
  let repositories ← Work.ask RepositoryFault.error
    (Repositories.resolve desk.services caller architecture image.imageType image.snapshotDate)
  let (upload, kind) ← Work.ask UploadFault.error
    (UploadTarget.resolve desk.services caller desk.uploads image.imageType
      image.target)
  Work.check CustomizationFault.error request.checkSize
  Work.check CustomizationFault.error request.checkInstaller
  let customizations ← Work.ask CustomizationFault.error
    (Customize.ofRequest desk.services caller distribution request)
  return {
    distribution := distribution.composerName
    image :=
      ⟨image.architecture, kind, repositories, upload, image.size, image.ostree⟩
    customizations }

/-- What is told of an order that the build service refused.  Few reasons are
for callers. -/
def refusedOrder (reply : Reply) : Error :=
  let body := Build.ErrorBody.ofReply reply
  if body.id = "10" then .downstream 400 "Error resolving OSTree repo" reply.text
  else if body.id = "24" ∨ body.id = "29" then .downstream 400 body.reason reply.text
  else reply.unexpected "Failed posting compose request to osbuild-composer"

def place (desk : Desk σ) (order : Build.Order) : Work σ Uuid := do
  let reply ← Work.ask ServiceFault.error (desk.services.build.compose order)
  if reply.status = 201 then
    let created ← Work.check ServiceFault.error (reply.decode Build.ComposeId.codec)
    return created.id
  else throw (refusedOrder reply)

def record (desk : Desk σ) (caller : Identity) (request : ComposeRequest)
    (versionId : Option Uuid) (id : Uuid) : Work σ Unit := do
  let now ← Work.outside desk.now
  Work.change StoreFault.error fun store =>
    (store.insertCompose
      { id
        org := caller.org
        account := caller.account
        email := caller.email
        imageName := request.imageName
        request := ComposeRequest.codec.write request.redacted
        clientId := request.clientId
        versionId
        createdAt := now
        deleted := false }).map fun store => (store, ())

def submit (desk : Desk σ) (caller : Identity) (request : ComposeRequest)
    (versionId : Option Uuid) : Work σ Created := do
  desk.allow caller
  let image ← soleImage request
  let order ← desk.orderFor caller request image
  let id ← desk.place order
  desk.record caller request versionId id
  return ⟨id⟩

/-- Submit a compose, and count it if it ends with an error that is not the
caller's. -/
def composeFor (desk : Desk σ) (caller : Identity) (request : ComposeRequest)
    (versionId : Option Uuid) : Work σ Created :=
  tryCatch (desk.submit caller request versionId) fun error => do
    if 500 ≤ error.status then Work.measure Metrics.composeFailed
    throw error

def compose (desk : Desk σ) (caller : Identity) (request : ComposeRequest) : Work σ Created :=
  desk.composeFor caller request none

def storedRequest (entry : ComposeEntry) : Except Error ComposeRequest :=
  match ComposeRequest.codec.read entry.request with
  | .ok request => .ok request.redacted
  | .error fault => .error (.document fault)

def composeItem (entry : ComposeEntry) : Except Error ComposeItem := do
  let request ← storedRequest entry
  return {
    id := entry.id
    createdAt := entry.createdAt
    imageName := entry.imageName
    request
    clientId := entry.clientId
    blueprintId := entry.blueprintId
    blueprintVersion := entry.blueprintVersion.map (Int32.ofNat ·) }

def composes (desk : Desk σ) (caller : Identity) (range : Range) :
    Work σ (List ComposeItem × Nat) := do
  let now ← Work.outside desk.now
  let entries ← Work.look (·.activeComposes caller.org now listingWindow)
  let (part, total) := range.of entries
  let items ← Work.of (part.mapM composeItem)
  return (items, total)

def composeOf (caller : Identity) (id : Uuid) : Work σ ComposeEntry := do
  let found ← Work.look (·.getCompose id caller.org)
  Work.check StoreFault.error found

/-- A reply about something, which the build service may not know. -/
def known (what : String) (id : Uuid) (text : String) (reply : Reply) : Except Error Reply :=
  if reply.status = 200 then .ok reply
  else if reply.status = 404 then
    .error (.notFound (what ++ " " ++ id.toText ++ " not found"))
  else .error (reply.unexpected text)

def uploadResult (options : Json) : Except Error UploadResult :=
  (UploadResult.codec.read options).mapError .document

def uploadStatus (status : Build.UploadStatus) : Except Error UploadStatus := do
  let result ← uploadResult status.options
  return ⟨status.status, status.provider, result⟩

def imageStatus (status : Build.ImageStatus) : Except Error ImageStatus := do
  let upload ← status.upload.mapM uploadStatus
  return ⟨status.status, upload, status.error.map BuildError.root⟩

def composeStatus (desk : Desk σ) (caller : Identity) (id : Uuid) : Work σ ComposeStatus := do
  let entry ← composeOf caller id
  let reply ← Work.ask ServiceFault.error (desk.services.build.composeStatus id)
  let reply ← Work.of (known "Compose" id "Failed querying compose status" reply)
  let status ← Work.check ServiceFault.error (reply.decode Build.ComposeStatus.codec)
  let image ← Work.of (imageStatus status.image)
  let request ← Work.of (storedRequest entry)
  return ⟨image, request⟩

def composeMetadata (desk : Desk σ) (caller : Identity) (id : Uuid) :
    Work σ ComposeMetadata := do
  let _ ← composeOf caller id
  let reply ← Work.ask ServiceFault.error (desk.services.build.composeMetadata id)
  let reply ← Work.of (known "Compose" id "Failed querying compose metadata" reply)
  let metadata ← Work.check ServiceFault.error (reply.decode Build.ComposeMetadata.codec)
  return ⟨metadata.ostreeCommit, metadata.packages.getD []⟩

/-- Hide a compose from lists; it goes on counting against the quota. -/
def deleteCompose (caller : Identity) (id : Uuid) : Work σ Unit :=
  Work.change StoreFault.error fun store =>
    (store.deleteCompose id caller.org).map fun store => (store, ())

def distributions (desk : Desk σ) (caller : Identity) : List DistributionItem :=
  (desk.registry.available (caller.isEntitled entitlement)).map fun (name, distribution) =>
    ⟨name, distribution.info.description⟩

def listedRepository (repository : DistributionRepository) : Repository where
  id := none
  baseurl := repository.baseurl
  metalink := repository.metalink
  mirrorlist := none
  gpgkey := repository.gpgkey
  checkGpg := repository.checkGpg
  checkRepoGpg := none
  ignoreSsl := none
  moduleHotfixes := none
  rhsm := repository.rhsm

/-- The architectures of a distribution, with the repositories that are for all
image types. -/
def architectures (desk : Desk σ) (caller : Identity) (name : String) :
    Except Error (List ArchitectureItem) := do
  let distribution ← desk.distributionFor caller name
  return distribution.architectures.map fun (arch, architecture) =>
    ⟨arch, architecture.imageTypes,
      (architecture.repositories.filter (·.tags.isEmpty)).map listedRepository⟩

def ready (desk : Desk σ) : Work σ Unit := do
  let reply ← Work.ask ServiceFault.error desk.services.build.openapi
  if reply.isSuccess then return
  else throw (reply.unexpected "Build service is not ready")

end Desk

end ComposeDesk
