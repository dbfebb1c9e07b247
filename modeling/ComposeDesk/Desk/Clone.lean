import ComposeDesk.Desk.Compose

/-!
# Clones at the desk

An EC2 image can be copied to another region and shared with more accounts.
-/

namespace ComposeDesk

namespace Desk

variable {σ : Type}

def isAwsName (name : String) : Bool :=
  match ImageType.codec.read (.str name) with
  | .ok type => type.isAws
  | .error _ => false

def allowClone (caller : Identity) (composeId : Uuid) : Work σ Unit := do
  let found ← Work.look (·.composeImageType composeId caller.org)
  let name ← Work.check StoreFault.error found
  if isAwsName name then return
  else throw (.validation "Cloning a compose is only available for AWS composes")

/-- What is told of a clone that the build service refused.  One reason is for
callers. -/
def refusedClone (reply : Reply) : Error :=
  let body := Build.ErrorBody.ofReply reply
  if body.code = "IMAGE-BUILDER-COMPOSER-31" then .downstream 400 body.reason reply.text
  else reply.unexpected "Failed posting clone request to osbuild-composer"

def recordClone (desk : Desk σ) (composeId : Uuid) (request : CloneRequest) (id : Uuid) :
    Work σ Unit := do
  let now ← Work.outside desk.now
  Work.change StoreFault.error fun store =>
    (store.insertClone ⟨id, composeId, CloneRequest.codec.write request, now⟩).map
      fun store => (store, ())

def cloneCompose (desk : Desk σ) (caller : Identity) (composeId : Uuid)
    (request : CloneRequest) : Work σ Created := do
  allowClone caller composeId
  let accounts ← Work.ask UploadFault.error
    (UploadTarget.awsAccounts desk.services caller request.shareWithAccounts
      request.shareWithSources)
  let reply ← Work.ask ServiceFault.error
    (desk.services.build.cloneCompose composeId ⟨request.region, accounts⟩)
  if reply.status = 201 then
    let created ← Work.check ServiceFault.error (reply.decode Build.ComposeId.codec)
    desk.recordClone composeId request created.id
    return ⟨created.id⟩
  else throw (refusedClone reply)

def cloneItem (row : CloneRow) : Except Error CloneItem :=
  match CloneRequest.codec.read row.request with
  | .ok request => .ok ⟨row.id, row.composeId, request, row.createdAt⟩
  | .error fault => .error (.document fault)

def clones (caller : Identity) (composeId : Uuid) (range : Range) :
    Work σ (List CloneItem × Nat) := do
  let rows ← Work.look (·.clonesOf composeId caller.org)
  let (part, total) := range.of rows
  let items ← Work.of (part.mapM cloneItem)
  return (items, total)

def cloneStatus (desk : Desk σ) (caller : Identity) (id : Uuid) : Work σ CloneStatus := do
  let found ← Work.look (·.getClone id caller.org)
  let row ← Work.check StoreFault.error found
  let reply ← Work.ask ServiceFault.error (desk.services.build.cloneStatus id)
  let reply ← Work.of (known "Clone" id "Failed querying clone status" reply)
  let status ← Work.check ServiceFault.error (reply.decode Build.CloneStatus.codec)
  let result ← Work.of (uploadResult status.options)
  return ⟨row.composeId, status.status, status.provider, result⟩

end Desk

end ComposeDesk
