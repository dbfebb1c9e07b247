import ComposeDesk.Desk.Blueprint
import ComposeDesk.Desk.Clone
import ComposeDesk.Proofs.Outcome

/-!
# Operations and runs

All that callers can have the desk do on what it remembers.  A run is a list of
calls, served one after another.  Between two calls the world may change in any
way: each call comes with the world that it finds, which holds the readings of
the clock, the identifiers to be drawn and the answers of the services.
-/

namespace ComposeDesk

/-- What a caller has the desk do. -/
inductive Operation where
  | compose (request : ComposeRequest)
  | composes (range : Range)
  | composeStatus (id : Uuid)
  | composeMetadata (id : Uuid)
  | deleteCompose (id : Uuid)
  | cloneCompose (id : Uuid) (request : CloneRequest)
  | clones (id : Uuid) (range : Range)
  | cloneStatus (id : Uuid)
  | createBlueprint (request : BlueprintRequest)
  | getBlueprint (id : Uuid) (number : Option Int)
  | exportBlueprint (id : Uuid)
  | blueprints (filter : BlueprintFilter) (range : Range)
  | updateBlueprint (id : Uuid) (request : BlueprintRequest)
  | deleteBlueprint (id : Uuid)
  | composeBlueprint (id : Uuid) (selection : ImageSelection)
  | blueprintComposes (id : Uuid) (number : Option Int) (range : Range)

namespace Operation

/-- What the desk answers when nothing goes wrong. -/
inductive Answer where
  | done
  | created (created : Created)
  | createdAll (created : List Created)
  | composes (items : List ComposeItem) (total : Nat)
  | composeStatus (status : ComposeStatus)
  | composeMetadata (metadata : ComposeMetadata)
  | clones (items : List CloneItem) (total : Nat)
  | cloneStatus (status : CloneStatus)
  | blueprint (view : BlueprintView)
  | blueprintExport (view : BlueprintExport)
  | blueprints (items : List BlueprintItem) (total : Nat)

def isReading : Operation → Bool
  | .composes _ | .composeStatus _ | .composeMetadata _ | .clones _ _ | .cloneStatus _
  | .getBlueprint _ _ | .exportBlueprint _ | .blueprints _ _ | .blueprintComposes _ _ _ => true
  | .compose _ | .deleteCompose _ | .cloneCompose _ _ | .createBlueprint _
  | .updateBlueprint _ _ | .deleteBlueprint _ | .composeBlueprint _ _ => false

/-- The same operation on the thing of another identifier. -/
def retarget (id : Uuid) : Operation → Operation
  | .composeStatus _ => .composeStatus id
  | .composeMetadata _ => .composeMetadata id
  | .deleteCompose _ => .deleteCompose id
  | .cloneCompose _ request => .cloneCompose id request
  | .clones _ range => .clones id range
  | .cloneStatus _ => .cloneStatus id
  | .getBlueprint _ number => .getBlueprint id number
  | .exportBlueprint _ => .exportBlueprint id
  | .updateBlueprint _ request => .updateBlueprint id request
  | .deleteBlueprint _ => .deleteBlueprint id
  | .composeBlueprint _ selection => .composeBlueprint id selection
  | .blueprintComposes _ number range => .blueprintComposes id number range
  | operation => operation

/-- What an operation of a caller asks to have built: a request as it is, or the
selected images of a blueprint as it is remembered. -/
inductive Asks (store : Store) (caller : Identity) : Operation → ComposeRequest → Prop where
  | compose (request : ComposeRequest) : Asks store caller (.compose request) request
  | image {id : Uuid} {selection : ImageSelection} {entry : BlueprintEntry}
      {body : BlueprintBody} {image : ImageRequest}
      (found : store.getBlueprint id caller.org none = .ok entry)
      (stored : Desk.storedBody entry = .ok body)
      (chosen : image ∈ body.imageRequests.filter (Desk.isSelected selection)) :
      Asks store caller (.composeBlueprint id selection)
        (Desk.blueprintRequest entry body image)

end Operation

namespace Desk

variable {σ : Type}

def perform (desk : Desk σ) (caller : Identity) : Operation → Work σ Operation.Answer
  | .compose request => .created <$> desk.compose caller request
  | .composes range => (fun listed => .composes listed.1 listed.2) <$> desk.composes caller range
  | .composeStatus id => .composeStatus <$> desk.composeStatus caller id
  | .composeMetadata id => .composeMetadata <$> desk.composeMetadata caller id
  | .deleteCompose id => (fun _ => .done) <$> deleteCompose caller id
  | .cloneCompose id request => .created <$> desk.cloneCompose caller id request
  | .clones id range => (fun listed => .clones listed.1 listed.2) <$> clones caller id range
  | .cloneStatus id => .cloneStatus <$> desk.cloneStatus caller id
  | .createBlueprint request => .created <$> desk.createBlueprint caller request
  | .getBlueprint id number => .blueprint <$> getBlueprint caller id number
  | .exportBlueprint id => .blueprintExport <$> desk.exportBlueprint caller id
  | .blueprints filter range =>
      (fun listed => .blueprints listed.1 listed.2) <$> blueprints caller filter range
  | .updateBlueprint id request => .created <$> desk.updateBlueprint caller id request
  | .deleteBlueprint id => (fun _ => .done) <$> deleteBlueprint caller id
  | .composeBlueprint id selection =>
      .createdAll <$> desk.composeBlueprint caller id selection
  | .blueprintComposes id number range =>
      (fun listed => .composes listed.1 listed.2) <$>
        desk.blueprintComposes caller id number range

end Desk

/-- A caller has the desk do something, in the world of that moment. -/
structure Call (σ : Type) where
  caller : Identity
  operation : Operation
  world : σ

namespace Desk

variable {σ : Type}

/-- The answer to a call, and the state that is left. -/
def serve (desk : Desk σ) (state : DeskState σ) (call : Call σ) :
    Except Error Operation.Answer × DeskState σ :=
  outcome (desk.perform call.caller call.operation) { state with world := call.world }

/-- The calls of a run, each with its answer. -/
def trace (desk : Desk σ) :
    DeskState σ → List (Call σ) → List (Call σ × Except Error Operation.Answer)
  | _, [] => []
  | state, call :: rest =>
      (call, (desk.serve state call).1) :: desk.trace (desk.serve state call).2 rest

def start (metrics : Metrics) (world : σ) : DeskState σ :=
  ⟨.empty, metrics, world⟩

def after (desk : Desk σ) : DeskState σ → List (Call σ) → DeskState σ
  | state, [] => state
  | state, call :: rest => desk.after (desk.serve state call).2 rest

end Desk

end ComposeDesk
