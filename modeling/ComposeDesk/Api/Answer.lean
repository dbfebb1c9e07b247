import ComposeDesk.Api.Message
import ComposeDesk.Api.Query
import ComposeDesk.Api.Route
import ComposeDesk.Desk.Blueprint
import ComposeDesk.Desk.Clone
import ComposeDesk.Response.Metadata

/-!
# Answers

Each request is answered by the desk.  The caller is read first, then the
parts of the path, the query and the body.
-/

namespace ComposeDesk.Api

open ComposeDesk

variable {σ α : Type}

/-- The making of a response, which may end early with another one. -/
abbrev Answer (σ α : Type) := ExceptT Response (StateM (DeskState σ)) α

def read (part : Except Response α) : Answer σ α :=
  ExceptT.mk fun state => (part, state)

def perform (work : Work σ α) : Answer σ α :=
  work.adapt Response.ofError

def queryOf (request : Request) (known : List Parameter) : Except Response Query :=
  (Query.ofText known request.query).mapError fun fault => .refusal 400 fault.message

def rangeOf (query : Query) : Except Response Range :=
  match query.range? with
  | some range => .ok range
  | none => .error (.refusal 400 "limit and offset must not be negative")

def linkTo (path : String) (offset limit : Int) : String :=
  root ++ "v1" ++ path ++ "?offset=" ++ Decimal.ofInt offset ++ "&limit=" ++ Decimal.ofInt limit

def linksOf (path : String) (range : Range) (count : Nat) : Links where
  first := linkTo path 0 range.limit
  last := linkTo path (count - 1 : Nat) range.limit

def pageOf (path : String) (range : Range) (listed : List α × Nat) : Page α :=
  ⟨⟨Int64.ofNat listed.2⟩, linksOf path range listed.2, listed.1⟩

namespace Answer

def health : Response :=
  ⟨200, .json (.obj [("service", .str "image-builder"), ("status", .str "healthy")])⟩

def version : Response :=
  ⟨200, .json (.obj [("version", .str "1.0")])⟩

def ready (desk : Desk σ) : Answer σ Response := do
  perform desk.ready
  return ⟨200, .json (.obj [("readiness", .str "ready")])⟩

def distributions (desk : Desk σ) (request : Request) : Answer σ Response := do
  let caller ← read request.caller
  return .document 200 (.list DistributionItem.codec) (desk.distributions caller)

def architectures (desk : Desk σ) (request : Request) (name : String) :
    Answer σ Response := do
  let caller ← read request.caller
  let name ← read (Request.part "distribution" name)
  let items ← perform (Work.of (desk.architectures caller name))
  return .document 200 (.list ArchitectureItem.codec) items

def compose (desk : Desk σ) (request : Request) : Answer σ Response := do
  let caller ← read request.caller
  let body ← read (request.document ComposeRequest.codec)
  let created ← perform (desk.compose caller body)
  return .document 201 (Created.codec "ComposeResponse") created

def composes (desk : Desk σ) (request : Request) : Answer σ Response := do
  let caller ← read request.caller
  let query ← read (queryOf request [.limit, .offset])
  let range ← read (rangeOf query)
  let listed ← perform (desk.composes caller range)
  return .document 200 (Page.codec "ComposesResponse" ComposeItem.codec)
    (pageOf "/composes" range listed)

def composeStatus (desk : Desk σ) (request : Request) (id : String) : Answer σ Response := do
  let caller ← read request.caller
  let id ← read (Request.identifier id)
  let status ← perform (desk.composeStatus caller id)
  return .document 200 ComposeStatus.codec status

def deleteCompose (request : Request) (id : String) : Answer σ Response := do
  let caller ← read request.caller
  let id ← read (Request.identifier id)
  perform (Desk.deleteCompose caller id)
  return .bare 200

def metadata (desk : Desk σ) (request : Request) (id : String) : Answer σ Response := do
  let caller ← read request.caller
  let id ← read (Request.identifier id)
  let metadata ← perform (desk.composeMetadata caller id)
  return .document 200 ComposeMetadata.codec metadata

def clone (desk : Desk σ) (request : Request) (id : String) : Answer σ Response := do
  let caller ← read request.caller
  let id ← read (Request.identifier id)
  let body ← read (request.document CloneRequest.codec)
  let created ← perform (desk.cloneCompose caller id body)
  return .document 201 (Created.codec "CloneResponse") created

def clones (request : Request) (id : String) : Answer σ Response := do
  let caller ← read request.caller
  let id ← read (Request.identifier id)
  let query ← read (queryOf request [.limit, .offset])
  let range ← read (rangeOf query)
  let listed ← perform (Desk.clones caller id range)
  return .document 200 (Page.codec "ClonesResponse" CloneItem.codec)
    (pageOf ("/composes/" ++ id.toText ++ "/clones") range listed)

def cloneStatus (desk : Desk σ) (request : Request) (id : String) : Answer σ Response := do
  let caller ← read request.caller
  let id ← read (Request.identifier id)
  let status ← perform (desk.cloneStatus caller id)
  return .document 200 CloneStatus.codec status

def createBlueprint (desk : Desk σ) (request : Request) : Answer σ Response := do
  let caller ← read request.caller
  let body ← read (request.document BlueprintRequest.codec)
  let created ← perform (desk.createBlueprint caller body)
  return .document 201 (Created.codec "CreateBlueprintResponse") created

def blueprints (request : Request) : Answer σ Response := do
  let caller ← read request.caller
  let query ← read (queryOf request [.name, .search, .limit, .offset])
  let range ← read (rangeOf query)
  let listed ← perform (Desk.blueprints caller ⟨query.name, query.search⟩ range)
  return .document 200 (Page.codec "BlueprintsResponse" BlueprintItem.codec)
    (pageOf "/blueprints" range listed)

def getBlueprint (request : Request) (id : String) : Answer σ Response := do
  let caller ← read request.caller
  let id ← read (Request.identifier id)
  let query ← read (queryOf request [.version])
  let view ← perform (Desk.getBlueprint caller id query.version)
  return .document 200 BlueprintView.codec view

def updateBlueprint (desk : Desk σ) (request : Request) (id : String) :
    Answer σ Response := do
  let caller ← read request.caller
  let id ← read (Request.identifier id)
  let body ← read (request.document BlueprintRequest.codec)
  let created ← perform (desk.updateBlueprint caller id body)
  return .document 200 (Created.codec "CreateBlueprintResponse") created

def deleteBlueprint (request : Request) (id : String) : Answer σ Response := do
  let caller ← read request.caller
  let id ← read (Request.identifier id)
  perform (Desk.deleteBlueprint caller id)
  return .bare 204

def exportBlueprint (desk : Desk σ) (request : Request) (id : String) :
    Answer σ Response := do
  let caller ← read request.caller
  let id ← read (Request.identifier id)
  let exported ← perform (desk.exportBlueprint caller id)
  return .document 200 BlueprintExport.codec exported

def composeBlueprint (desk : Desk σ) (request : Request) (id : String) :
    Answer σ Response := do
  let caller ← read request.caller
  let _ ← read (Request.part "id" id)
  let body ← read (request.document? ImageSelection.codec)
  let id ← read (Request.identifier id)
  let created ← perform (desk.composeBlueprint caller id (body.getD ⟨none⟩))
  return .document 201 (.list (Created.codec "ComposeResponse")) created

def blueprintComposes (desk : Desk σ) (request : Request) (id : String) :
    Answer σ Response := do
  let caller ← read request.caller
  let id ← read (Request.identifier id)
  let query ← read (queryOf request [.version, .limit, .offset])
  let range ← read (rangeOf query)
  let listed ← perform (desk.blueprintComposes caller id query.version range)
  return .document 200 (Page.codec "ComposesResponse" ComposeItem.codec)
    (pageOf ("/blueprints/" ++ id.toText ++ "/composes") range listed)

def resource (desk : Desk σ) (request : Request) (verb : Verb) :
    Resource → Answer σ Response
  | .version => if verb = .get then return version else return .bare 405
  | .ready => if verb = .get then ready desk else return .bare 405
  | .distributions => if verb = .get then distributions desk request else return .bare 405
  | .architectures name =>
      if verb = .get then architectures desk request name else return .bare 405
  | .compose => if verb = .post then compose desk request else return .bare 405
  | .composes => if verb = .get then composes desk request else return .bare 405
  | .composeOf id =>
      if verb = .get then composeStatus desk request id
      else if verb = .delete then deleteCompose request id
      else return .bare 405
  | .metadataOf id => if verb = .get then metadata desk request id else return .bare 405
  | .cloneOf id => if verb = .post then clone desk request id else return .bare 405
  | .clonesOf id => if verb = .get then clones request id else return .bare 405
  | .clone id => if verb = .get then cloneStatus desk request id else return .bare 405
  | .blueprints =>
      if verb = .get then blueprints request
      else if verb = .post then createBlueprint desk request
      else return .bare 405
  | .blueprint id =>
      if verb = .get then getBlueprint request id
      else if verb = .put then updateBlueprint desk request id
      else if verb = .delete then deleteBlueprint request id
      else return .bare 405
  | .exportOf id => if verb = .get then exportBlueprint desk request id else return .bare 405
  | .blueprintCompose id =>
      if verb = .post then composeBlueprint desk request id else return .bare 405
  | .blueprintComposes id =>
      if verb = .get then blueprintComposes desk request id else return .bare 405

end Answer

def settle (answer : Answer σ Response) : StateM (DeskState σ) Response := do
  match ← answer.run with
  | .ok response => return response
  | .error response => return response

def secondsBetween (start stop : Timestamp) : Float :=
  Float.ofInt (stop.total - start.total) / 1000000000.0

def readClock (desk : Desk σ) : StateM (DeskState σ) Timestamp := fun state =>
  let (now, world) := desk.now state.world
  (now, { state with world })

/-- The answer to a request for a route; how long it takes is measured for each
resource. -/
def answerRoute (desk : Desk σ) (request : Request) (verb : Verb) :
    Route → StateM (DeskState σ) Response
  | .health => return if verb = .get then Answer.health else .bare 405
  | .metrics => do
      let metrics := (← get).metrics
      return if verb = .get then ⟨200, .text metrics.text⟩ else .bare 405
  | .resource version resource => do
      let start ← readClock desk
      let response ← settle (Answer.resource desk request verb resource)
      let stop ← readClock desk
      let route := root ++ version ++ resource.template
      modify fun state =>
        { state with
          metrics := state.metrics.requestServed route (secondsBetween start stop) }
      return response

/-- The answer to a request.  Pages of all origins may ask, whatever the path. -/
def answer (desk : Desk σ) (request : Request) : StateM (DeskState σ) Response := do
  if request.verb = .options then return .bare 200
  let verb := if request.verb = .head then .get else request.verb
  let response ←
    match Route.ofPath? request.path with
    | some route => answerRoute desk request verb route
    | none => pure (.bare 404)
  return if request.verb = .head then { response with content := .empty } else response

end ComposeDesk.Api
