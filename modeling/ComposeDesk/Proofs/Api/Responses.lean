import ComposeDesk.Api.Answer
import ComposeDesk.Proofs.Credentials
import ComposeDesk.Proofs.Redaction

/-!
# Responses without passwords

Two runs of requests are answered side by side.  The requests are the same one by
one, but for the passwords in documents that are to be built or stored, and what
the runs find outside is the same but for what hashing draws.  No response of the
one run differs from that of the other.
-/

namespace ComposeDesk.Api

open ComposeDesk

variable {σ α β : Type} {worlds : σ → σ → Prop} {desk : Desk σ}

section Ways

variable {related : DeskState σ → DeskState σ → Prop}

theorem read_agree (part : Except Response α) :
    Agree related (read part : Answer σ α) (read part) :=
  fun _ _ near => ⟨rfl, near⟩

theorem read_accord {told : α → β → Prop} {part : Except Response α} {other : Except Response β}
    (matching : Matching told part other) :
    Accord related told (read part : Answer σ α) (read other) :=
  fun _ _ near => ⟨matching, near⟩

/-- Work for a caller, told in a response. -/
theorem told_agree {work other : Work σ α} (agree : Agree related work other)
    (tell : α → Response) :
    Agree related (perform work >>= fun a => pure (tell a))
      (perform other >>= fun a => pure (tell a)) :=
  .bind (agree.adapt _) fun _ => .pure _

/-- What is told a caller of a thing. -/
theorem about_agree {next following : Identity → Uuid → Answer σ α}
    {callers : Except Response Identity} {ids : Except Response Uuid}
    (agree : ∀ caller id, Agree related (next caller id) (following caller id)) :
    Agree related (read callers >>= fun caller => read ids >>= next caller)
      (read callers >>= fun caller => read ids >>= following caller) :=
  .bind (read_agree _) fun caller => .bind (read_agree _) fun id => agree caller id

/-- Work on documents that are alike, if they can be read. -/
theorem written_agree {γ : Type} {like : α → α → Prop} {document other : Except Response α}
    (documents : Matching like document other) {work : α → Work σ γ}
    (agree : ∀ a b, like a b → Agree related (work a) (work b)) (tell : γ → Response) :
    Agree related
      (read document >>= fun a => perform (work a) >>= fun c => pure (tell c))
      (read other >>= fun a => perform (work a) >>= fun c => pure (tell c)) := by
  refine Accord.agree (.bind (read_accord documents) fun a b both => ?_)
  exact .of_agree (told_agree (agree a b both) tell)

/-- An early response counts as much as one in the end. -/
theorem settle_concur {answer other : Answer σ Response} (agree : Agree related answer other) :
    Concur related (settle answer) (settle other) := by
  have runs : Concur related answer.run other.run := agree
  refine .bind runs fun result => ?_
  cases result with
  | ok response => exact .pure _
  | error response => exact .pure _

end Ways

theorem readClock_concur (asks : desk.AsksAlike worlds desk) :
    Concur (DeskState.Veiled worlds) (readClock desk) (readClock desk) := by
  intro left right near
  obtain ⟨same, kept⟩ := asks.now left.world right.world near.world
  exact ⟨same, near.store, kept, near.metrics⟩

namespace Answer

theorem compose_veiled (blind : desk.Blind worlds) {request other : Request}
    (callers : request.caller = other.caller)
    (documents : Matching (ComposeRequest.Like Disguised)
      (request.document ComposeRequest.codec) (other.document ComposeRequest.codec)) :
    Agree (DeskState.Veiled worlds) (compose desk request) (compose desk other) := by
  unfold compose
  rw [callers]
  refine .bind (read_agree _) fun caller => ?_
  exact written_agree documents (fun _ _ like => Desk.compose_veiled blind like) _

theorem createBlueprint_veiled (blind : desk.Blind worlds) {request other : Request}
    (callers : request.caller = other.caller)
    (documents : Matching (BlueprintRequest.Like Disguised)
      (request.document BlueprintRequest.codec) (other.document BlueprintRequest.codec)) :
    Agree (DeskState.Veiled worlds) (createBlueprint desk request)
      (createBlueprint desk other) := by
  unfold createBlueprint
  rw [callers]
  refine .bind (read_agree _) fun caller => ?_
  exact written_agree documents (fun _ _ like => Desk.createBlueprint_veiled blind like) _

theorem updateBlueprint_veiled (blind : desk.Blind worlds) {request other : Request} (id : String)
    (callers : request.caller = other.caller)
    (documents : Matching (BlueprintRequest.Like Disguised)
      (request.document BlueprintRequest.codec) (other.document BlueprintRequest.codec)) :
    Agree (DeskState.Veiled worlds) (updateBlueprint desk request id)
      (updateBlueprint desk other id) := by
  unfold updateBlueprint
  rw [callers]
  refine .bind (read_agree _) fun caller => .bind (read_agree _) fun id => ?_
  exact written_agree documents (fun _ _ like => Desk.updateBlueprint_veiled blind id like) _

/-- The same request for a resource is answered the same. -/
theorem resource_veiled (blind : desk.Blind worlds) (request : Request) (verb : Verb)
    (asked : Resource) :
    Agree (DeskState.Veiled worlds) (resource desk request verb asked)
      (resource desk request verb asked) := by
  have refused : Agree (DeskState.Veiled worlds) (pure (.bare 405) : Answer σ Response)
      (pure (.bare 405)) := .pure _
  cases asked with
  | version => exact .ite (.pure _) refused
  | ready => exact .ite (told_agree (Desk.ready_veiled blind) _) refused
  | distributions => exact .ite (.bind (read_agree _) fun _ => .pure _) refused
  | architectures name =>
      refine .ite (.bind (read_agree _) fun caller => ?_) refused
      exact .bind (read_agree _) fun name => told_agree (Work.of_agree _) _
  | compose =>
      exact .ite (compose_veiled blind rfl (.refl (.refl Disguised.refl) _)) refused
  | composes =>
      refine .ite (.bind (read_agree _) fun caller => .bind (read_agree _) fun query => ?_) refused
      exact .bind (read_agree _) fun range => told_agree (Desk.composes_veiled blind range) _
  | composeOf id =>
      refine .ite (about_agree fun caller id => ?_) (.ite (about_agree fun caller id => ?_) refused)
      · exact told_agree (Desk.composeStatus_veiled blind id) _
      · exact told_agree (Desk.deleteCompose_veiled id) _
  | metadataOf id =>
      refine .ite (about_agree fun caller id => ?_) refused
      exact told_agree (Desk.composeMetadata_veiled blind id) _
  | cloneOf id =>
      refine .ite (about_agree fun caller id => .bind (read_agree _) fun body => ?_) refused
      exact told_agree (Desk.cloneCompose_veiled blind id body) _
  | clonesOf id =>
      refine .ite (about_agree fun caller id => .bind (read_agree _) fun query => ?_) refused
      exact .bind (read_agree _) fun range => told_agree (Desk.clones_veiled id range) _
  | clone id =>
      refine .ite (about_agree fun caller id => ?_) refused
      exact told_agree (Desk.cloneStatus_veiled blind id) _
  | blueprints =>
      refine .ite (.bind (read_agree _) fun caller => .bind (read_agree _) fun query => ?_)
        (.ite ?_ refused)
      · exact .bind (read_agree _) fun range => told_agree (Desk.blueprints_veiled _ range) _
      · exact createBlueprint_veiled blind rfl (.refl (.refl Disguised.refl) _)
  | blueprint id =>
      refine .ite (about_agree fun caller id => .bind (read_agree _) fun query => ?_)
        (.ite ?_ (.ite (about_agree fun caller id => ?_) refused))
      · exact told_agree (Desk.getBlueprint_veiled id _) _
      · exact updateBlueprint_veiled blind id rfl (.refl (.refl Disguised.refl) _)
      · exact told_agree (Desk.deleteBlueprint_veiled id) _
  | exportOf id =>
      refine .ite (about_agree fun caller id => ?_) refused
      exact told_agree (Desk.exportBlueprint_veiled blind id) _
  | blueprintCompose id =>
      refine .ite (.bind (read_agree _) fun caller => .bind (read_agree _) fun _ => ?_) refused
      refine .bind (read_agree _) fun body => .bind (read_agree _) fun id => ?_
      exact told_agree (Desk.composeBlueprint_veiled blind id _) _
  | blueprintComposes id =>
      refine .ite (about_agree fun caller id => .bind (read_agree _) fun query => ?_) refused
      refine .bind (read_agree _) fun range => ?_
      exact told_agree (Desk.blueprintComposes_veiled blind id _ range) _

end Answer

/-- The text of the metrics and the time that was taken are the same too. -/
theorem answerRoute_concur (asks : desk.AsksAlike worlds desk) {request other : Request}
    (verb : Verb) (route : Route)
    (agree : ∀ version asked, route = .resource version asked →
      Agree (DeskState.Veiled worlds) (Answer.resource desk request verb asked)
        (Answer.resource desk other verb asked)) :
    Concur (DeskState.Veiled worlds) (answerRoute desk request verb route)
      (answerRoute desk other verb route) := by
  cases route with
  | health => exact .pure _
  | metrics =>
      intro left right near
      have same : left.metrics = right.metrics := near.metrics
      constructor
      · change (if verb = .get then _ else _) = (if verb = .get then _ else _)
        rw [same]
      · exact near
  | resource version asked =>
      refine .bind (readClock_concur asks) fun start => ?_
      refine .bind (settle_concur (agree version asked rfl)) fun response => ?_
      refine .bind (readClock_concur asks) fun stop => ?_
      have measured : Concur (DeskState.Veiled worlds)
          (modify fun state : DeskState σ =>
            { state with
              metrics := state.metrics.requestServed (root ++ version ++ asked.template)
                (secondsBetween start stop) })
          (modify fun state : DeskState σ =>
            { state with
              metrics := state.metrics.requestServed (root ++ version ++ asked.template)
                (secondsBetween start stop) }) :=
        fun left right near =>
          ⟨rfl, near.store, near.world, congrArg (Metrics.requestServed _ _) near.metrics⟩
      exact .bind measured fun _ => .pure _

/-! ## Requests -/

/-- Bodies whose documents are related.  A body past the limit is refused by its size, so
both are past it or neither is. -/
structure Request.Bodies (codec : Codec α) (like : α → α → Prop) (body other : List UInt8) :
    Prop where
  documents : ∃ asked held, codec.readText (.ofBytes body) = .ok asked ∧
    codec.readText (.ofBytes other) = .ok held ∧ like asked held
  sizes : bodyLimit < body.length ↔ bodyLimit < other.length

/-- Requests that are the same, or that differ in the passwords of a document which is
to be built or stored.  Of these passwords the same ones are empty. -/
inductive Request.Veiled : Request → Request → Prop where
  | same (request : Request) : Request.Veiled request request
  | compose {request : Request} {version : String} {body : List UInt8}
      (verb : request.verb = .post)
      (route : Route.ofPath? request.path = some (.resource version .compose))
      (bodies : Request.Bodies ComposeRequest.codec (ComposeRequest.Like Disguised)
        request.body body) : Request.Veiled request { request with body }
  | createBlueprint {request : Request} {version : String} {body : List UInt8}
      (verb : request.verb = .post)
      (route : Route.ofPath? request.path = some (.resource version .blueprints))
      (bodies : Request.Bodies BlueprintRequest.codec (BlueprintRequest.Like Disguised)
        request.body body) : Request.Veiled request { request with body }
  | updateBlueprint {request : Request} {version id : String} {body : List UInt8}
      (verb : request.verb = .put)
      (route : Route.ofPath? request.path = some (.resource version (.blueprint id)))
      (bodies : Request.Bodies BlueprintRequest.codec (BlueprintRequest.Like Disguised)
        request.body body) : Request.Veiled request { request with body }

theorem Request.readBody_oversized {request : Request} (type : request.isJson = true)
    (beyond : bodyLimit < request.body.length) (codec : Codec α) :
    request.readBody codec = .error .oversized := by
  unfold readBody
  rw [if_pos type, if_pos beyond]

theorem Request.readBody_within {request : Request} {codec : Codec α} {asked : α}
    (type : request.isJson = true) (within : ¬bodyLimit < request.body.length)
    (reads : codec.readText (.ofBytes request.body) = .ok asked) :
    request.readBody codec = .ok asked := by
  unfold readBody
  rw [if_pos type, if_neg within, reads]
  rfl

theorem Request.readBody_matching {codec : Codec α} {like : α → α → Prop} {request : Request}
    {body : List UInt8} (bodies : Request.Bodies codec like request.body body) :
    Matching like (request.readBody codec) ({ request with body }.readBody codec) := by
  obtain ⟨asked, held, reads, readsToo, both⟩ := bodies.documents
  cases type : request.isJson with
  | false =>
      unfold readBody
      have typeToo : isJson { request with body } = false := type
      rw [type, typeToo]
      exact .error _
  | true =>
      have typeToo : isJson { request with body } = true := type
      by_cases beyond : bodyLimit < request.body.length
      · rw [readBody_oversized type beyond, readBody_oversized typeToo (bodies.sizes.mp beyond)]
        exact .error _
      · have within : ¬bodyLimit < body.length := fun above => beyond (bodies.sizes.mpr above)
        rw [readBody_within type beyond reads, readBody_within typeToo within readsToo]
        exact .ok both

theorem Request.document_matching {codec : Codec α} {like : α → α → Prop} {request : Request}
    {body : List UInt8} (bodies : Request.Bodies codec like request.body body) :
    Matching like (request.document codec) ({ request with body }.document codec) := by
  unfold document
  obtain ⟨fault, fails, failsToo⟩ | ⟨asked, held, reads, readsToo, both⟩ :=
    (readBody_matching bodies).cases
  · rw [fails, failsToo]
    exact .error _
  · rw [reads, readsToo]
    exact .ok both

/-- What is asked of a resource: to look at the head is to get. -/
def Request.asks (request : Request) : Verb :=
  if request.verb = .head then .get else request.verb

theorem Request.asks_eq {request : Request} (whole : request.verb ≠ .head) :
    request.asks = request.verb := by
  rw [asks, if_neg whole]

def routed (desk : Desk σ) (request : Request) : StateM (DeskState σ) Response :=
  match Route.ofPath? request.path with
  | some route => answerRoute desk request request.asks route
  | none => pure (.bare 404)

theorem answer_eq (desk : Desk σ) (request : Request) :
    answer desk request =
      if request.verb = .options then pure (.bare 200)
      else routed desk request >>= fun response =>
        pure (if request.verb = .head then { response with content := .empty } else response) := by
  unfold answer routed Request.asks
  split
  · rfl
  · cases Route.ofPath? request.path with
    | none => rfl
    | some route => rfl

/-- With another body, a request is answered the same if its resource answers it the
same. -/
theorem answer_concur (asks : desk.AsksAlike worlds desk) {request : Request} (body : List UInt8)
    (agree : ∀ version asked, Route.ofPath? request.path = some (.resource version asked) →
      Agree (DeskState.Veiled worlds) (Answer.resource desk request request.asks asked)
        (Answer.resource desk { request with body } request.asks asked)) :
    Concur (DeskState.Veiled worlds) (answer desk request) (answer desk { request with body }) := by
  have same : Concur (DeskState.Veiled worlds) (routed desk request)
      (routed desk { request with body }) := by
    have path : Request.path { request with body } = request.path := rfl
    unfold routed
    rw [path]
    cases found : Route.ofPath? request.path with
    | none => exact .pure _
    | some route =>
        refine answerRoute_concur asks request.asks route ?_
        rintro version asked rfl
        exact agree version asked found
  rw [answer_eq, answer_eq]
  simp only
  split
  · exact .pure _
  · exact .bind same fun _ => .pure _

/-- Where the route and the verb are known, it is one resource that has to answer the same. -/
theorem answer_concur_at (asks : desk.AsksAlike worlds desk) {request : Request}
    {body : List UInt8} {version : String} {asked : Resource} {verb : Verb}
    (method : request.verb = verb) (whole : verb ≠ .head)
    (route : Route.ofPath? request.path = some (.resource version asked))
    (agree : Agree (DeskState.Veiled worlds) (Answer.resource desk request verb asked)
      (Answer.resource desk { request with body } verb asked)) :
    Concur (DeskState.Veiled worlds) (answer desk request) (answer desk { request with body }) := by
  refine answer_concur asks body fun version other found => ?_
  cases route.symm.trans found
  subst method
  rw [Request.asks_eq whole]
  exact agree

theorem answer_veiled (blind : desk.Blind worlds) {request other : Request}
    (veiled : request.Veiled other) :
    Concur (DeskState.Veiled worlds) (answer desk request) (answer desk other) := by
  -- A request with other passwords goes the same route, and there it is the document
  -- alone that differs.
  cases veiled with
  | same =>
      refine answer_concur blind.asks request.body fun version asked _ => ?_
      exact Answer.resource_veiled blind request _ asked
  | compose verb route bodies =>
      refine answer_concur_at blind.asks verb (by decide) route ?_
      exact Answer.compose_veiled blind rfl (Request.document_matching bodies)
  | createBlueprint verb route bodies =>
      refine answer_concur_at blind.asks verb (by decide) route ?_
      exact Answer.createBlueprint_veiled blind rfl (Request.document_matching bodies)
  | updateBlueprint verb route bodies =>
      refine answer_concur_at blind.asks verb (by decide) route ?_
      exact Answer.updateBlueprint_veiled blind _ rfl (Request.document_matching bodies)

/-! ## Runs -/

/-- A request in the world of that moment. -/
structure Visit (σ : Type) where
  request : Request
  world : σ

def serve (desk : Desk σ) (state : DeskState σ) (visit : Visit σ) : Response × DeskState σ :=
  answer desk visit.request { state with world := visit.world }

def responses (desk : Desk σ) : DeskState σ → List (Visit σ) → List Response
  | _, [] => []
  | state, visit :: rest =>
      (serve desk state visit).1 :: responses desk (serve desk state visit).2 rest

/-- The same request but for passwords, in worlds that are related. -/
structure Visit.Veiled (worlds : σ → σ → Prop) (visit other : Visit σ) : Prop where
  request : visit.request.Veiled other.request
  world : worlds visit.world other.world

/-- One request is answered the same, and leaves states that are the same but for
passwords. -/
theorem serve_veiled (blind : desk.Blind worlds) {state held : DeskState σ}
    (near : DeskState.Veiled (fun _ _ => True) state held) {visit other : Visit σ}
    (veiled : visit.Veiled worlds other) :
    (serve desk state visit).1 = (serve desk held other).1 ∧
      DeskState.Veiled (fun _ _ => True) (serve desk state visit).2 (serve desk held other).2 := by
  have found : DeskState.Veiled worlds { state with world := visit.world }
      { held with world := other.world } := ⟨near.store, veiled.world, near.metrics⟩
  obtain ⟨same, kept⟩ := answer_veiled blind veiled.request _ _ found
  exact ⟨same, kept.store, trivial, kept.metrics⟩

theorem responses_eq (blind : desk.Blind worlds) {state held : DeskState σ}
    (near : DeskState.Veiled (fun _ _ => True) state held) {visits others : List (Visit σ)}
    (veiled : visits.Forall₂ (Visit.Veiled worlds) others) :
    responses desk state visits = responses desk held others := by
  induction veiled generalizing state held with
  | nil => rfl
  | @cons visit other rest more both _ ih =>
      obtain ⟨same, kept⟩ := serve_veiled blind near both
      unfold responses
      rw [same, ih kept]

/-- From the same state, requests that differ in passwords only get the same
responses, all along. -/
theorem passwords_unseen (blind : desk.Blind worlds) (state : DeskState σ)
    {visits others : List (Visit σ)} (veiled : visits.Forall₂ (Visit.Veiled worlds) others) :
    responses desk state visits = responses desk state others := by
  have near : DeskState.Veiled (fun _ _ => True) state state :=
    ⟨.refl VersionRow.Like.refl state.store, trivial, rfl⟩
  exact responses_eq blind near veiled

def header : String :=
  Identity.headerOf (.obj [("identity", .obj [("org_id", .str "1")])])

def making (password : String) : Request where
  verb := .post
  target := "/api/image-builder/v1/blueprints"
  identity := some header
  contentType := some "application/json"
  body := Utf8.encode
    (BlueprintRequest.codec.write (Desk.adminRequest (some password))).compact

def reading : Request where
  verb := .get
  target := "/api/image-builder/v1/blueprints/" ++ (Desk.uniform 1).toText
  identity := some header
  contentType := none
  body := []

def exchange (password : String) : List (Visit (List Uuid)) :=
  [⟨making password, [Desk.uniform 1, Desk.uniform 2]⟩, ⟨reading, []⟩]

/-- The sealing desk draws no salts, so the world is the same after hashing. -/
theorem sealing_blind : Desk.sealing.Blind Eq where
  asks := Desk.sealing.alike_self.toAsksAlike
  openapi := .throw _
  compose _ := .throw _
  cloneCompose _ _ := .throw _
  drawId := Desk.sealing.actsAlike_self.drawId
  cryptFirst _ _ _ same := same
  cryptSecond _ _ _ same := same
  hashed password world empty := by
    have hash := Desk.sealing_hashes password world
    rw [empty] at hash
    exact absurd hash (by decide)

theorem making_veiled : (making "secret").Veiled (making "$6$known") := by
  have reads : BlueprintRequest.codec.readText (.ofBytes (making "secret").body) =
      .ok (Desk.adminRequest (some "secret")) := by decide +kernel
  have readsToo : BlueprintRequest.codec.readText (.ofBytes (making "$6$known").body) =
      .ok (Desk.adminRequest (some "$6$known")) := by decide +kernel
  have sizes : Request.bodyLimit < (making "secret").body.length ↔
      Request.bodyLimit < (making "$6$known").body.length :=
    iff_of_false (by decide +kernel) (by decide +kernel)
  have user : (Desk.admin (some "secret")).Like Disguised (Desk.admin (some "$6$known")) :=
    ⟨rfl, .some (iff_of_false (by decide) (by decide))⟩
  have like : (Desk.adminRequest (some "secret")).Like Disguised
      (Desk.adminRequest (some "$6$known")) :=
    ⟨rfl, rfl, rfl, rfl, rfl, .some (.cons user .nil)⟩
  exact .createBlueprint rfl rfl ⟨⟨_, _, reads, readsToo, like⟩, sizes⟩

theorem passwords_unseen_exchange :
    Desk.sealing.Blind Eq ∧
      (exchange "secret").Forall₂ (Visit.Veiled Eq) (exchange "$6$known") ∧
      (responses Desk.sealing (Desk.start .empty []) (exchange "secret")).map (·.status) =
        [201, 200] ∧
      responses Desk.sealing (Desk.start .empty []) (exchange "secret") =
        responses Desk.sealing (Desk.start .empty []) (exchange "$6$known") := by
  have veiled : (exchange "secret").Forall₂ (Visit.Veiled Eq) (exchange "$6$known") :=
    .cons ⟨making_veiled, rfl⟩ (.cons ⟨.same reading, rfl⟩ .nil)
  have answered : (responses Desk.sealing (Desk.start .empty []) (exchange "secret")).map
      (·.status) = [201, 200] := by decide +kernel
  exact ⟨sealing_blind, veiled, answered, passwords_unseen sealing_blind _ veiled⟩

end ComposeDesk.Api
