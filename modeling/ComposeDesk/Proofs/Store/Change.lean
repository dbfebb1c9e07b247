import ComposeDesk.Desk.Blueprint
import ComposeDesk.Desk.Clone

/-!
# Changes of the store

All that work for a caller can do to the store.  Each change comes with the
identifiers that were given out for it, and with what is known of its rows;
what every change keeps, every run keeps.
-/

namespace ComposeDesk

def ComposeRow.ofRequest (caller : Identity) (request : ComposeRequest)
    (versionId : Option Uuid) (id : Uuid) (now : Timestamp) : ComposeRow where
  id := id
  org := caller.org
  account := caller.account
  email := caller.email
  imageName := request.imageName
  request := ComposeRequest.codec.write request.redacted
  clientId := request.clientId
  versionId := versionId
  createdAt := now
  deleted := false

def CloneRow.ofRequest (composeId : Uuid) (request : CloneRequest) (id : Uuid)
    (now : Timestamp) : CloneRow :=
  ⟨id, composeId, CloneRequest.codec.write request, now⟩

namespace Store

/-- An identifier is that of a version of a blueprint of an organization. -/
def Links (store : Store) (org : String) (versionId : Uuid) : Prop :=
  ∃ version ∈ store.versions, version.id = versionId ∧
    ∃ blueprint ∈ store.blueprints, blueprint.id = version.blueprintId ∧ blueprint.org = org

/-- One change of the store for a caller who asked for some composes, and the
identifiers given out for it. -/
inductive Change (caller : Identity) (asked : ComposeRequest → Prop) :
    List Uuid → Store → Store → Prop where
  | unchanged (ids : List Uuid) (store : Store) : Change caller asked ids store store
  | composed {store next : Store} (request : ComposeRequest) (versionId : Option Uuid)
      (id : Uuid) (now : Timestamp)
      (wanted : asked request)
      (linked : ∀ version, versionId = some version → store.Links caller.org version)
      (inserted : store.insertCompose (.ofRequest caller request versionId id now) = .ok next) :
      Change caller asked [id] store next
  | hidden {store next : Store} (id : Uuid)
      (deleted : store.deleteCompose id caller.org = .ok next) : Change caller asked [] store next
  | cloned {store next : Store} (composeId : Uuid) (request : CloneRequest) (id : Uuid)
      (now : Timestamp) (owned : store.owns caller.org composeId = true)
      (inserted : store.insertClone (.ofRequest composeId request id now) = .ok next) :
      Change caller asked [id] store next
  | created {store next : Store} (id versionId : Uuid) (draft : BlueprintDraft)
      (now : Timestamp)
      (inserted : store.insertBlueprint (Desk.writeOf caller id versionId draft) now = .ok next) :
      Change caller asked [id, versionId] store next
  | updated {store next : Store} (id versionId : Uuid) (draft : BlueprintDraft)
      (now : Timestamp) (number : Nat)
      (written : store.updateBlueprint (Desk.writeOf caller id versionId draft) now =
        .ok (next, number)) :
      Change caller asked [versionId] store next
  | removed {store next : Store} (id : Uuid)
      (deleted : store.deleteBlueprint id caller.org caller.account = .ok next) :
      Change caller asked [] store next

theorem Change.imp {caller : Identity} {asked wider : ComposeRequest → Prop} {ids : List Uuid}
    {store next : Store} (change : Change caller asked ids store next)
    (more : ∀ request, asked request → wider request) : Change caller wider ids store next := by
  cases change with
  | unchanged => exact .unchanged ids store
  | composed request versionId id now wanted linked inserted =>
      exact .composed request versionId id now (more request wanted) linked inserted
  | hidden id deleted => exact .hidden id deleted
  | cloned composeId request id now owned inserted =>
      exact .cloned composeId request id now owned inserted
  | created id versionId draft now inserted => exact .created id versionId draft now inserted
  | updated id versionId draft now number written =>
      exact .updated id versionId draft now number written
  | removed id deleted => exact .removed id deleted

/-- Changes one after another, with all identifiers given out in their order. -/
inductive Changes (caller : Identity) (asked : ComposeRequest → Prop) :
    List Uuid → Store → Store → Prop where
  | none (store : Store) : Changes caller asked [] store store
  | step {ids more : List Uuid} {store middle next : Store}
      (before : Changes caller asked ids store middle)
      (change : Change caller asked more middle next) :
      Changes caller asked (ids ++ more) store next

namespace Changes

variable {caller : Identity} {asked wider : ComposeRequest → Prop} {ids more : List Uuid}
  {store middle next : Store}

theorem single (change : Change caller asked ids store next) :
    Changes caller asked ids store next :=
  .step (.none store) change

theorem trans (first : Changes caller asked ids store middle)
    (second : Changes caller asked more middle next) :
    Changes caller asked (ids ++ more) store next := by
  induction second with
  | none =>
      rw [List.append_nil]
      exact first
  | step before change ih =>
      rw [← List.append_assoc]
      exact .step (ih first) change

/-- Who asked for some composes asked for more of them. -/
theorem imp (changes : Changes caller asked ids store next)
    (more : ∀ request, asked request → wider request) : Changes caller wider ids store next := by
  induction changes with
  | none => exact .none _
  | step _ change ih => exact .step ih (change.imp more)

/-- What every change of a caller keeps, changes one after another keep. -/
theorem keep {kept : Store → Prop}
    (step : ∀ {ids store next}, Change caller asked ids store next → kept store → kept next)
    (changes : Changes caller asked ids store next) (held : kept store) : kept next := by
  induction changes with
  | none => exact held
  | step before change ih => exact step change (ih held)

end Changes

end Store

end ComposeDesk
