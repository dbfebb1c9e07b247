import ComposeDesk.Proofs.Operation
import ComposeDesk.Proofs.Store.Change

/-!
# Plans

An operation that writes does so once and last: a plan, which leaves the store
as it is, comes to what is to be written, and one change of the store follows.
Composing a blueprint is a sequence of such operations.
-/

namespace ComposeDesk

namespace Work

variable {σ α β γ : Type}

/-- A plan, then one change of the store, then the answer. -/
def commit (plan : Work σ β) (write : β → Store → Except StoreFault (Store × γ))
    (answer : β → γ → α) : Work σ α := do
  let planned ← plan
  let written ← change StoreFault.error (write planned)
  return answer planned written

theorem outcome_commit (plan : Work σ β) (write : β → Store → Except StoreFault (Store × γ))
    (answer : β → γ → α) (state : DeskState σ) :
    outcome (commit plan write answer) state =
      match outcome plan state with
      | (.error error, left) => (.error error, left)
      | (.ok planned, left) =>
          match write planned left.store with
          | .error fault => (.error fault.error, left)
          | .ok (store, written) => (.ok (answer planned written), { left with store }) := by
  rw [commit, outcome_bind]
  rcases outcome plan state with ⟨planned, left⟩
  cases planned with
  | error error => rfl
  | ok planned =>
      simp only [outcome_bind, outcome_change]
      rcases write planned left.store with fault | ⟨store, written⟩ <;> rfl

/-- Where the plan fails, nothing is written. -/
theorem outcome_commit_error {plan : Work σ β}
    {write : β → Store → Except StoreFault (Store × γ)} {answer : β → γ → α} {error : Error}
    {state left : DeskState σ} (failed : outcome plan state = (.error error, left)) :
    outcome (commit plan write answer) state = (.error error, left) := by
  rw [outcome_commit, failed]

end Work

def silently (write : Store → Except StoreFault Store) (store : Store) :
    Except StoreFault (Store × Unit) :=
  (write store).map fun store => (store, ())

/-- The version of a blueprint of which composes are listed; none stands for all. -/
def BlueprintEntry.wanted (entry : BlueprintEntry) (number : Option Int) :
    Except Error (Option Int) :=
  if number = some Desk.latestVersion then .ok (some (entry.version : Int))
  else Desk.requestedVersion number

namespace Desk

variable {σ : Type}

/-- The order for a request, if the request is admitted. -/
def ordering (desk : Desk σ) (caller : Identity) (request : ComposeRequest) :
    Work σ Build.Order := do
  desk.allow caller
  let image ← soleImage request
  desk.orderFor caller request image

/-- The plan of a submission: the order is placed, and the identifier that the
build service gave is recorded with the time. -/
def submission (desk : Desk σ) (caller : Identity) (request : ComposeRequest) :
    Work σ (Uuid × Timestamp) := do
  let order ← desk.ordering caller request
  let id ← desk.place order
  let now ← Work.outside desk.now
  return (id, now)

theorem submit_eq_commit (desk : Desk σ) (caller : Identity) (request : ComposeRequest)
    (versionId : Option Uuid) :
    desk.submit caller request versionId =
      Work.commit (desk.submission caller request)
        (fun placed => silently (·.insertCompose
          (.ofRequest caller request versionId placed.1 placed.2)))
        (fun placed _ => ⟨placed.1⟩) := by
  simp only [submit, record, submission, ordering, Work.commit, bind_assoc, pure_bind]
  rfl

def placing (desk : Desk σ) (caller : Identity) (request : ComposeRequest) : Work σ Uuid := do
  let image ← soleImage request
  let order ← desk.orderFor caller request image
  desk.place order

/-- A submission is admitted, placed and recorded. -/
theorem submit_eq_stages (desk : Desk σ) (caller : Identity) (request : ComposeRequest)
    (versionId : Option Uuid) :
    desk.submit caller request versionId = (do
      desk.allow caller
      let id ← desk.placing caller request
      desk.record caller request versionId id
      return ⟨id⟩) := by
  simp only [submit, placing, bind_assoc]

def sharing (desk : Desk σ) (caller : Identity) (composeId : Uuid) (request : CloneRequest) :
    Work σ (List String) := do
  allowClone caller composeId
  Work.ask UploadFault.error
    (UploadTarget.awsAccounts desk.services caller request.shareWithAccounts
      request.shareWithSources)

def placeCopy (desk : Desk σ) (composeId : Uuid) (order : Build.CloneOrder) : Work σ Uuid := do
  let reply ← Work.ask ServiceFault.error (desk.services.build.cloneCompose composeId order)
  if reply.status = 201 then
    let created ← Work.check ServiceFault.error (reply.decode Build.ComposeId.codec)
    return created.id
  else throw (refusedClone reply)

def copying (desk : Desk σ) (caller : Identity) (composeId : Uuid) (request : CloneRequest) :
    Work σ (Uuid × Timestamp) := do
  let accounts ← desk.sharing caller composeId request
  let id ← desk.placeCopy composeId ⟨request.region, accounts⟩
  let now ← Work.outside desk.now
  return (id, now)

theorem cloneCompose_eq_commit (desk : Desk σ) (caller : Identity) (composeId : Uuid)
    (request : CloneRequest) :
    desk.cloneCompose caller composeId request =
      Work.commit (desk.copying caller composeId request)
        (fun placed => silently (·.insertClone (.ofRequest composeId request placed.1 placed.2)))
        (fun placed _ => ⟨placed.1⟩) := by
  simp only [cloneCompose, recordClone, copying, sharing, placeCopy, Work.commit, bind_assoc]
  refine congrArg _ (funext fun _ => congrArg _ (funext fun accounts => congrArg _
    (funext fun reply => ?_)))
  split
  · simp only [bind_assoc, pure_bind]
    rfl
  · rfl

def drafting (desk : Desk σ) (request : BlueprintRequest) : Work σ BlueprintDraft := do
  Work.of (checkName request.name)
  Work.of (checkUsers request.customizations)
  let customizations ← Work.outside (desk.cryptPasswords request.customizations)
  return ⟨request.name, request.description, { request.body with customizations }⟩

def creation (desk : Desk σ) (caller : Identity) (request : BlueprintRequest) :
    Work σ (BlueprintWrite × Timestamp) := do
  let draft ← desk.drafting request
  let id ← Work.outside desk.drawId
  let versionId ← Work.outside desk.drawId
  let now ← Work.outside desk.now
  return (writeOf caller id versionId draft, now)

theorem createBlueprint_eq_commit (desk : Desk σ) (caller : Identity)
    (request : BlueprintRequest) :
    desk.createBlueprint caller request =
      Work.commit (desk.creation caller request)
        (fun planned => silently (·.insertBlueprint planned.1 planned.2))
        (fun planned _ => ⟨planned.1.id⟩) := by
  simp only [createBlueprint, creation, drafting, Work.commit, bind_assoc, pure_bind]
  rfl

def revision (desk : Desk σ) (caller : Identity) (id : Uuid) (request : BlueprintRequest) :
    Work σ (BlueprintWrite × Timestamp) := do
  let draft ← desk.draftUpdate caller id request
  let versionId ← Work.outside desk.drawId
  let now ← Work.outside desk.now
  return (writeOf caller id versionId draft, now)

theorem updateBlueprint_eq_commit (desk : Desk σ) (caller : Identity) (id : Uuid)
    (request : BlueprintRequest) :
    desk.updateBlueprint caller id request =
      Work.commit (desk.revision caller id request)
        (fun planned store => store.updateBlueprint planned.1 planned.2)
        (fun _ _ => ⟨id⟩) := by
  simp only [updateBlueprint, writeUpdate, revision, Work.commit, bind_assoc, pure_bind]

def choosing (caller : Identity) (id : Uuid) (selection : ImageSelection) :
    Work σ ((BlueprintEntry × BlueprintBody) × List ImageRequest) := do
  let entry ← blueprintOf caller id none
  let body ← Work.of (storedBody entry)
  let selected := body.imageRequests.filter (isSelected selection)
  if selected.isEmpty then
    throw (.validation
      "No image requests of the blueprint match the requested image types")
  return ((entry, body), selected)

def submitAll (desk : Desk σ) (caller : Identity) (entry : BlueprintEntry)
    (body : BlueprintBody) (images : List ImageRequest) : Work σ (List Created) :=
  images.mapM fun image =>
    desk.composeFor caller (blueprintRequest entry body image) (some entry.versionId)

theorem composeBlueprint_eq (desk : Desk σ) (caller : Identity) (id : Uuid)
    (selection : ImageSelection) :
    desk.composeBlueprint caller id selection =
      choosing caller id selection >>= fun chosen =>
        desk.submitAll caller chosen.1.1 chosen.1.2 chosen.2 := by
  simp only [composeBlueprint, choosing, submitAll, bind_assoc]
  refine congrArg _ (funext fun entry => congrArg _ (funext fun body => ?_))
  split
  · rfl
  · simp only [pure_bind]

theorem deleteCompose_eq_commit (caller : Identity) (id : Uuid) :
    (deleteCompose caller id : Work σ Unit) =
      Work.commit (pure ()) (fun _ => silently (·.deleteCompose id caller.org))
        (fun _ _ => ()) := by
  simp only [Work.commit, pure_bind, bind_pure_unit]
  rfl

theorem deleteBlueprint_eq_commit (caller : Identity) (id : Uuid) :
    (deleteBlueprint caller id : Work σ Unit) =
      Work.commit (pure ())
        (fun _ => silently (·.deleteBlueprint id caller.org caller.account)) (fun _ _ => ()) := by
  simp only [Work.commit, pure_bind, bind_pure_unit]
  rfl

def composesOf (desk : Desk σ) (caller : Identity) (id : Uuid) (wanted : Option Int)
    (range : Range) : Work σ (List ComposeItem × Nat) := do
  let now ← Work.outside desk.now
  let entries ← Work.look (·.composesOfBlueprint caller.org id wanted now listingWindow)
  let (part, total) := range.of entries
  let items ← Work.of (part.mapM composeItem)
  return (items, total)

theorem blueprintComposes_eq (desk : Desk σ) (caller : Identity) (id : Uuid)
    (number : Option Int) (range : Range) :
    desk.blueprintComposes caller id number range =
      blueprintOf caller id none >>= fun entry =>
        Work.of (entry.wanted number) >>= fun wanted => desk.composesOf caller id wanted range := by
  unfold blueprintComposes
  refine congrArg _ (funext fun entry => ?_)
  unfold BlueprintEntry.wanted
  split <;> rfl

end Desk

end ComposeDesk
