import ComposeDesk.Proofs.Confined

/-!
# Failures of operations

With what each operation can fail.  Most fail with ordinary errors only.  An
operation that asks the build service has words of its own for a reply that the
build service is not expected to give, and tells nothing else of it, but for the few
reasons of a refusal that are for callers.
-/

namespace ComposeDesk

variable {σ α β : Type}

/-- An error of a submission, of which the quota may be the reason too. -/
def Error.Posed (words : Option String) (error : Error) : Prop :=
  error = .quotaExceeded ∨ error.Worded words

theorem Error.Posed.of_ordinary {words : Option String} {error : Error}
    (ordinary : error.Ordinary) : error.Posed words :=
  .inr (.ordinary ordinary)

theorem Confined.posed {work : Work σ α} (confined : Confined Error.Ordinary work)
    {words : Option String} : Confined (Error.Posed words) work :=
  confined.imp fun _ => .of_ordinary

namespace Desk

variable (desk : Desk σ) (caller : Identity)

theorem submit_confined (request : ComposeRequest) (versionId : Option Uuid) :
    Confined (Error.Posed (some orderWords)) (desk.submit caller request versionId) := by
  rw [submit_eq_stages]
  refine .bind ((allow_confined desk caller).imp fun _ => Or.imp_right .ordinary) fun _ => ?_
  exact (admitted_confined desk caller request versionId).imp fun _ => .inr

/-- An error that is counted is told as it is. -/
theorem composeFor_confined (request : ComposeRequest) (versionId : Option Uuid) :
    Confined (Error.Posed (some orderWords)) (desk.composeFor caller request versionId) := by
  refine .tryCatch (submit_confined desk caller request versionId) fun error posed => ?_
  exact .ite (.bind (.measure _) fun _ => .throw posed) (.throw posed)

theorem composeBlueprint_confined (id : Uuid) (selection : ImageSelection) :
    Confined (Error.Posed (some orderWords)) (desk.composeBlueprint caller id selection) := by
  rw [composeBlueprint_eq]
  refine .bind (choosing_confined caller id selection).posed fun chosen => ?_
  exact .mapM (fun image => composeFor_confined desk caller _ _) _

theorem allowClone_confined (id : Uuid) :
    Confined Error.Ordinary (allowClone caller id : Work σ Unit) := by
  refine .bind (.look _) fun found => .bind (.check StoreFault.error_ordinary _) fun name => ?_
  exact .ite (.pure _) (.throw trivial)

theorem placeCopy_confined (composeId : Uuid) (order : Build.CloneOrder) :
    Confined (Error.Worded (some cloneWords)) (desk.placeCopy composeId order) := by
  intro state
  rw [outcome_placeCopy]
  refine verdict_fails (fun reply => ?_) _
  rw [refusedClone_eq]
  exact Refusal.error_worded _ _ _

theorem copying_confined (id : Uuid) (request : CloneRequest) :
    Confined (Error.Worded (some cloneWords)) (desk.copying caller id request) := by
  have shares : Confined Error.Ordinary (desk.sharing caller id request) :=
    .bind (allowClone_confined caller id) fun _ => .ask UploadFault.error_ordinary _
  refine .bind shares.worded fun accounts => ?_
  exact .bind (placeCopy_confined desk id _) fun _ => .bind (.outside _) fun _ => .pure _

theorem cloneCompose_confined (id : Uuid) (request : CloneRequest) :
    Confined (Error.Worded (some cloneWords)) (desk.cloneCompose caller id request) := by
  rw [cloneCompose_eq_commit]
  refine .bind (copying_confined desk caller id request) fun _ => .worded ?_
  exact .bind (.change StoreFault.error_ordinary _) fun _ => .pure _

/-- What is told where the build service does not say how far a compose has come. -/
def statusWords : String := "Failed querying compose status"

def metadataWords : String := "Failed querying compose metadata"

def cloneStatusWords : String := "Failed querying clone status"

def readyWords : String := "Build service is not ready"

theorem known_fails (what : String) (id : Uuid) (words : String) (reply : Reply) :
    Fails (Error.Worded (some words)) (known what id words reply) := by
  unfold known
  split
  · exact .ok _
  · split
    · exact .error (.ordinary trivial)
    · exact .error (.unexpected rfl _)

/-- Something is asked of the build service, and what it says of it is worked on. -/
theorem known_confined (what : String) (id : Uuid) (words : String) (codec : Codec α)
    (act : Act σ ServiceFault Reply) {next : α → Work σ β}
    (rest : ∀ a, Confined Error.Ordinary (next a)) :
    Confined (Error.Worded (some words)) (do
      let reply ← Work.ask ServiceFault.error act
      let reply ← Work.of (known what id words reply)
      let told ← Work.check ServiceFault.error (reply.decode codec)
      next told) := by
  refine .bind (.worded (.ask ServiceFault.error_ordinary _)) fun reply => ?_
  refine .bind (.of (known_fails what id words reply)) fun reply => .worded ?_
  exact .bind (.check ServiceFault.error_ordinary _) rest

theorem storedRequest_fails (entry : ComposeEntry) :
    Fails Error.Ordinary (storedRequest entry) := by
  unfold storedRequest
  split
  · exact .ok _
  · exact .error trivial

theorem uploadResult_fails (options : Json) : Fails Error.Ordinary (uploadResult options) :=
  .mapError (fun _ => trivial) _

theorem imageStatus_fails (status : Build.ImageStatus) :
    Fails Error.Ordinary (imageStatus status) := by
  have uploads : Fails Error.Ordinary (status.upload.mapM uploadStatus) := by
    cases status.upload with
    | none => exact .ok _
    | some upload => exact (Fails.bind (uploadResult_fails _) fun _ => .ok _).map _
  exact .bind uploads fun _ => .ok _

theorem composeOf_confined (id : Uuid) :
    Confined Error.Ordinary (composeOf caller id : Work σ ComposeEntry) :=
  .bind (.look _) fun _ => .check StoreFault.error_ordinary _

theorem composeStatus_confined (id : Uuid) :
    Confined (Error.Worded (some statusWords)) (desk.composeStatus caller id) := by
  refine .bind (composeOf_confined caller id).worded fun entry => ?_
  refine known_confined _ _ _ _ _ fun status => ?_
  refine .bind (.of (imageStatus_fails status.image)) fun image => ?_
  exact .bind (.of (storedRequest_fails entry)) fun _ => .pure _

theorem composeMetadata_confined (id : Uuid) :
    Confined (Error.Worded (some metadataWords)) (desk.composeMetadata caller id) := by
  refine .bind (composeOf_confined caller id).worded fun _ => ?_
  exact known_confined _ _ _ _ _ fun metadata => .pure _

theorem cloneStatus_confined (id : Uuid) :
    Confined (Error.Worded (some cloneStatusWords)) (desk.cloneStatus caller id) := by
  refine .bind (.look _) fun found => ?_
  refine .bind (.worded (.check StoreFault.error_ordinary _)) fun row => ?_
  refine known_confined _ _ _ _ _ fun status => ?_
  exact .bind (.of (uploadResult_fails status.options)) fun _ => .pure _

theorem ready_confined : Confined (Error.Worded (some readyWords)) desk.ready := by
  refine .bind (.worded (.ask ServiceFault.error_ordinary _)) fun reply => ?_
  exact .ite (.pure _) (.throw (.unexpected rfl _))

theorem composeItem_fails (entry : ComposeEntry) : Fails Error.Ordinary (composeItem entry) :=
  .bind (storedRequest_fails entry) fun _ => .ok _

theorem composes_confined (range : Range) :
    Confined Error.Ordinary (desk.composes caller range) := by
  refine .bind (.outside _) fun _ => .bind (.look _) fun entries => ?_
  exact .bind (.of (.mapM composeItem_fails _)) fun _ => .pure _

theorem cloneItem_fails (row : CloneRow) : Fails Error.Ordinary (cloneItem row) := by
  unfold cloneItem
  split
  · exact .ok _
  · exact .error trivial

theorem clones_confined (id : Uuid) (range : Range) :
    Confined Error.Ordinary (clones caller id range : Work σ (List CloneItem × Nat)) :=
  .bind (.look _) fun _ => .bind (.of (.mapM cloneItem_fails _)) fun _ => .pure _

theorem blueprints_confined (filter : BlueprintFilter) (range : Range) :
    Confined Error.Ordinary
      (blueprints caller filter range : Work σ (List BlueprintItem × Nat)) :=
  .bind (.look _) fun _ => .pure _

theorem requestedVersion_fails (number : Option Int) :
    Fails Error.Ordinary (requestedVersion number) := by
  unfold requestedVersion
  split
  · exact .ok _
  · split
    · exact .ok _
    · split
      · exact .error trivial
      · exact .ok _

theorem blueprintComposes_confined (id : Uuid) (number : Option Int) (range : Range) :
    Confined Error.Ordinary (desk.blueprintComposes caller id number range) := by
  have wanted (entry : BlueprintEntry) : Fails Error.Ordinary (entry.wanted number) := by
    unfold BlueprintEntry.wanted
    split
    · exact .ok _
    · exact requestedVersion_fails number
  rw [blueprintComposes_eq]
  refine .bind (blueprintOf_confined caller id none) fun entry => .bind (.of (wanted entry)) ?_
  refine fun wanted => .bind (.outside _) fun _ => .bind (.look _) fun entries => ?_
  exact .bind (.of (.mapM composeItem_fails _)) fun _ => .pure _

theorem architectures_fails (name : String) :
    Fails Error.Ordinary (desk.architectures caller name) :=
  .bind (distributionFor_fails desk caller name) fun _ => .ok _

theorem checkName_fails (name : String) : Fails Error.Ordinary (checkName name) := by
  unfold checkName
  split
  · exact .error trivial
  · exact .ok _

theorem checkUsers_fails (customizations : Customizations) :
    Fails Error.Ordinary (checkUsers customizations) :=
  .forM (fun _ => .map (.mapError (fun _ => trivial) _) _) _

theorem mergedUsers_fails (stored : List User) (customizations : Customizations) :
    Fails Error.Ordinary (mergedUsers stored customizations) := by
  unfold mergedUsers
  split
  · exact .ok _
  · split
    · exact .ok _
    · exact .error trivial

theorem createBlueprint_confined (request : BlueprintRequest) :
    Confined Error.Ordinary (desk.createBlueprint caller request) := by
  refine .bind (.of (checkName_fails _)) fun _ => .bind (.of (checkUsers_fails _)) fun _ => ?_
  refine .bind (.outside _) fun _ => .bind (.outside _) fun _ => .bind (.outside _) fun _ => ?_
  exact .bind (.outside _) fun _ => .bind (.change StoreFault.error_ordinary _) fun _ => .pure _

theorem updateBlueprint_confined (id : Uuid) (request : BlueprintRequest) :
    Confined Error.Ordinary (desk.updateBlueprint caller id request) := by
  have drafts : Confined Error.Ordinary (desk.draftUpdate caller id request) := by
    refine .bind (.of (checkName_fails _)) fun _ => ?_
    refine .bind (blueprintOf_confined caller id none) fun existing => ?_
    refine .bind (.of (storedBody_fails existing)) fun stored => ?_
    refine .bind (.of (mergedUsers_fails _ _)) fun merged => ?_
    exact .bind (.outside _) fun _ => .pure _
  refine .bind drafts fun draft => .bind ?_ fun _ => .pure _
  exact .bind (.outside _) fun _ => .bind (.outside _) fun _ =>
    .change StoreFault.error_ordinary _

theorem getBlueprint_confined (id : Uuid) (number : Option Int) :
    Confined Error.Ordinary (getBlueprint caller id number : Work σ BlueprintView) := by
  refine .bind (.of (requestedVersion_fails number)) fun number => ?_
  refine .bind (blueprintOf_confined caller id number) fun entry => ?_
  exact .bind (.of (storedBody_fails entry)) fun _ => .pure _

theorem exportBlueprint_confined (id : Uuid) :
    Confined Error.Ordinary (desk.exportBlueprint caller id) := by
  refine .bind (blueprintOf_confined caller id none) fun entry => ?_
  exact .bind (.of (storedBody_fails entry)) fun _ => .bind (.outside _) fun _ => .pure _

theorem deleteCompose_confined (id : Uuid) :
    Confined Error.Ordinary (deleteCompose caller id : Work σ Unit) :=
  .change StoreFault.error_ordinary _

theorem deleteBlueprint_confined (id : Uuid) :
    Confined Error.Ordinary (deleteBlueprint caller id : Work σ Unit) :=
  .change StoreFault.error_ordinary _

end Desk

end ComposeDesk
