import ComposeDesk.Proofs.Api.Calls
import ComposeDesk.Proofs.Counters

/-!
# Counters of a run of requests

The metrics show how many submissions were refused for the quota, how many failed, and
how many passed the quota with an image of each type.  They do so after every request,
and requests that submit nothing leave these numbers.
-/

namespace ComposeDesk

variable {σ : Type}

namespace Api

variable {α β γ : Type} {desk : Desk σ}

namespace Request

def composed (request : Request) : Except Response (Identity × ComposeRequest) := do
  let caller ← request.caller
  let body ← request.document ComposeRequest.codec
  return (caller, body)

def composedBlueprint (request : Request) (id : String) :
    Except Response (Identity × Uuid × ImageSelection) := do
  let caller ← request.caller
  let _ ← part "id" id
  let body ← request.document? ImageSelection.codec
  let id ← identifier id
  return (caller, id, body.getD ⟨none⟩)

/-- What a request submits, and for whom.  Most requests submit nothing, and so does one
that cannot be read. -/
def submits? (request : Request) : Option (Identity × Operation) :=
  if request.verb = .post then
    match Route.ofPath? request.path with
    | some (.resource _ .compose) =>
        request.composed.toOption.map fun said => (said.1, .compose said.2)
    | some (.resource _ (.blueprintCompose id)) =>
        (request.composedBlueprint id).toOption.map fun said =>
          (said.1, .composeBlueprint said.2.1 said.2.2)
    | _ => none
  else none

end Request

def submissionsFor (desk : Desk σ) (state : DeskState σ) (request : Request) (world : σ) :
    List (Submission σ) :=
  match request.submits? with
  | some (caller, operation) => desk.submissionsOf state ⟨caller, operation, world⟩
  | none => []

/-- The submissions that are made for a request, after the clock was read. -/
def submissionsOf (desk : Desk σ) (state : DeskState σ) (visit : Visit σ) :
    List (Submission σ) :=
  submissionsFor desk state visit.request (desk.now visit.world).2

def submissions (desk : Desk σ) : DeskState σ → List (Visit σ) → List (Submission σ)
  | _, [] => []
  | state, visit :: rest =>
      submissionsOf desk state visit ++ submissions desk (serve desk state visit).2 rest

namespace Answer

/-- Of all resources, only those that compose are counted, and only if they are posted. -/
theorem resource_unmetered (desk : Desk σ) (request : Request) (verb : Verb) (asked : Resource)
    (other : verb = .post → asked.isComposing = false) :
    Keeps DeskState.metrics (resource desk request verb asked) := by
  intro state
  have performed := resource_performs desk request verb asked state
  generalize (outcome (resource desk request verb asked) state).2 = left at performed ⊢
  cases performed with
  | nothing => rfl
  | ready => exact Desk.ready_unmetered desk state
  | operation caller operation allowed =>
      refine Desk.perform_unmetered desk caller (Bool.eq_false_iff.mpr fun composing => ?_) state
      obtain ⟨posts, composes⟩ := allowed composing
      exact Bool.false_ne_true ((other posts).symm.trans composes)

end Answer

/-! ## Single requests -/

namespace Answer

/-- A compose is submitted if the request says one. -/
theorem outcome_compose (desk : Desk σ) (request : Request) (state : DeskState σ) :
    outcome (compose desk request) state =
      match request.composed with
      | .error response => (.error response, state)
      | .ok (caller, body) =>
          (((outcome (desk.compose caller body) state).1.mapError Response.ofError).map
              (.document 201 (Created.codec "ComposeResponse")),
            (outcome (desk.compose caller body) state).2) := by
  unfold compose Request.composed
  cases request.caller with
  | error response => rfl
  | ok caller =>
      cases request.document ComposeRequest.codec with
      | error response => rfl
      | ok body => exact outcome_told (desk.compose caller body) _ state

/-- The images of a blueprint are submitted if the request says one. -/
theorem outcome_composeBlueprint (desk : Desk σ) (request : Request) (segment : String)
    (state : DeskState σ) :
    outcome (composeBlueprint desk request segment) state =
      match request.composedBlueprint segment with
      | .error response => (.error response, state)
      | .ok (caller, id, selection) =>
          (((outcome (desk.composeBlueprint caller id selection) state).1.mapError
              Response.ofError).map (.document 201 (.list (Created.codec "ComposeResponse"))),
            (outcome (desk.composeBlueprint caller id selection) state).2) := by
  unfold composeBlueprint Request.composedBlueprint
  cases request.caller with
  | error response => rfl
  | ok caller =>
      cases Request.part "id" segment with
      | error response => rfl
      | ok text =>
          cases request.document? ImageSelection.codec with
          | error response => rfl
          | ok body =>
              cases Request.identifier segment with
              | error response => rfl
              | ok id => exact outcome_told (desk.composeBlueprint caller id _) _ state

/-- A request for a resource adds what its submissions add. -/
theorem resource_metrics (desk : Desk σ) {request : Request} {version : String} {asked : Resource}
    (route : Route.ofPath? request.path = some (.resource version asked)) (state : DeskState σ) :
    (outcome (resource desk request request.asks asked) state).2.metrics =
      state.metrics.counting desk (submissionsFor desk state request state.world) := by
  unfold submissionsFor
  by_cases posts : request.verb = .post
  · have whole : request.verb ≠ .head := by
      rw [posts]
      decide
    rw [Request.asks_eq whole, posts]
    unfold Request.submits?
    rw [if_pos posts, route]
    cases asked with
    | compose =>
        have served (caller : Identity) (body : ComposeRequest) :=
          Desk.serve_metrics desk state ⟨caller, .compose body, state.world⟩
        simp only [Desk.serve, Desk.perform, outcome_map] at served
        change (outcome (compose desk request) state).2.metrics = _
        rw [outcome_compose]
        rcases request.composed with response | ⟨caller, body⟩
        · rfl
        · exact served caller body
    | blueprintCompose id =>
        have served (caller : Identity) (id : Uuid) (selection : ImageSelection) :=
          Desk.serve_metrics desk state ⟨caller, .composeBlueprint id selection, state.world⟩
        simp only [Desk.serve, Desk.perform, outcome_map] at served
        change (outcome (composeBlueprint desk request id) state).2.metrics = _
        rw [outcome_composeBlueprint]
        simp only
        rcases request.composedBlueprint id with response | ⟨caller, id, selection⟩
        · rfl
        · exact served caller id selection
    | version | ready | distributions | architectures | composes | composeOf | metadataOf
    | cloneOf | clonesOf | clone | blueprints | blueprint | exportOf | blueprintComposes =>
        exact resource_unmetered desk request _ _ (fun _ => rfl) state
  · have unposted : request.asks ≠ .post := by
      unfold Request.asks
      split
      · decide
      · exact posts
    unfold Request.submits?
    rw [if_neg posts]
    exact resource_unmetered desk request _ _ (fun posted => absurd posted unposted) state

end Answer

/-- The counters alone, without what is measured. -/
def untimed (metrics : Metrics) : Metrics :=
  { metrics with durations := [] }

theorem counting_untimed (metrics : Metrics) (submissions : List (Submission σ)) :
    untimed (metrics.counting desk submissions) = (untimed metrics).counting desk submissions := by
  induction submissions generalizing metrics with
  | nil => rfl
  | cons submission rest ih => exact ih _

/-- What is left after a request for a resource, but for the time that it took. -/
theorem answerRoute_untimed (desk : Desk σ) (request : Request) (verb : Verb) (version : String)
    (asked : Resource) (state : DeskState σ) :
    untimed (answerRoute desk request verb (.resource version asked) state).2.metrics =
      untimed (outcome (Answer.resource desk request verb asked)
        { state with world := (desk.now state.world).2 }).2.metrics := by
  have settled := settle_eq (Answer.resource desk request verb asked)
    { state with world := (desk.now state.world).2 }
  exact congrArg (fun done : Response × DeskState σ => untimed done.2.metrics) settled

/-- A request adds what its submissions add, and nothing else. -/
theorem serve_untimed (desk : Desk σ) (state : DeskState σ) (visit : Visit σ) :
    untimed (serve desk state visit).2.metrics =
      (untimed state.metrics).counting desk (submissionsOf desk state visit) := by
  have idle (none : visit.request.submits? = none) : submissionsOf desk state visit = [] := by
    rw [submissionsOf, submissionsFor, none]
  rw [serve, answer_snd]
  split
  · rename_i options
    rw [idle (by rw [Request.submits?, options]; rfl)]
    rfl
  · unfold routed
    cases route : Route.ofPath? visit.request.path with
    | none =>
        rw [idle (by unfold Request.submits?; rw [route]; exact ite_self _)]
        rfl
    | some found =>
        cases found with
        | health | metrics =>
            rw [idle (by unfold Request.submits?; rw [route]; exact ite_self _)]
            rfl
        | resource version asked =>
            simp only
            rw [answerRoute_untimed, Answer.resource_metrics desk route, counting_untimed]
            rfl

theorem after_untimed (desk : Desk σ) (state : DeskState σ) (visits : List (Visit σ)) :
    untimed (after desk state visits).metrics =
      (untimed state.metrics).counting desk (submissions desk state visits) := by
  induction visits generalizing state with
  | nil => rfl
  | cons visit rest ih =>
      rw [after, ih, serve_untimed, submissions, Metrics.counting_append]

/-! ## What callers are told -/

section Told

variable {request : Request} {caller : Identity} {state : DeskState σ} {world : σ}

def toldAs (tell : α → Response) (result : Except Error α) : Response :=
  madeOf ((result.mapError Response.ofError).map tell)

theorem composed_of_submits {asked : ComposeRequest}
    (submits : request.submits? = some (caller, .compose asked)) :
    request.verb = .post ∧ ∃ version,
      Route.ofPath? request.path = some (.resource version .compose) ∧
        request.composed = .ok (caller, asked) := by
  unfold Request.submits? at submits
  split at submits
  · rename_i posts
    split at submits
    · rename_i version route
      rcases said : request.composed with response | ⟨other, body⟩
      · rw [said] at submits
        cases submits
      · rw [said] at submits
        cases submits
        exact ⟨posts, version, route, rfl⟩
    · rename_i segment route
      cases said : request.composedBlueprint segment with
      | error response =>
          rw [said] at submits
          cases submits
      | ok answered =>
          rw [said] at submits
          cases submits
    · cases submits
  · cases submits

theorem composedBlueprint_of_submits {id : Uuid} {selection : ImageSelection}
    (submits : request.submits? = some (caller, .composeBlueprint id selection)) :
    request.verb = .post ∧ ∃ version segment,
      Route.ofPath? request.path = some (.resource version (.blueprintCompose segment)) ∧
        request.composedBlueprint segment = .ok (caller, id, selection) := by
  unfold Request.submits? at submits
  split at submits
  · rename_i posts
    split at submits
    · rcases said : request.composed with response | ⟨other, body⟩
      · rw [said] at submits
        cases submits
      · rw [said] at submits
        cases submits
    · rename_i version segment route
      rcases said : request.composedBlueprint segment with response | ⟨other, found, chosen⟩
      · rw [said] at submits
        cases submits
      · rw [said] at submits
        cases submits
        exact ⟨posts, version, segment, route, said⟩
    · cases submits
  · cases submits

/-- The response to a request for a resource that is shown with its content. -/
theorem answer_fst_of_resource (desk : Desk σ) {version : String} {asked : Resource}
    {verb : Verb} (method : request.verb = verb) (whole : verb ≠ .head) (asking : verb ≠ .options)
    (route : Route.ofPath? request.path = some (.resource version asked)) (state : DeskState σ) :
    (answer desk request state).1 =
      madeOf (outcome (Answer.resource desk request verb asked)
        { state with world := (desk.now state.world).2 }).1 := by
  subst method
  have settled := settle_eq (Answer.resource desk request request.verb asked)
    { state with world := (desk.now state.world).2 }
  rw [answer_fst, if_neg asking, Request.shown, if_neg whole]
  unfold routed
  rw [route, Request.asks_eq whole]
  exact congrArg Prod.fst settled

/-- The response to what is posted to a resource. -/
theorem serve_fst_of_posted (desk : Desk σ) {version : String} {asked : Resource}
    (posts : request.verb = .post)
    (route : Route.ofPath? request.path = some (.resource version asked))
    (state : DeskState σ) (world : σ) :
    (serve desk state ⟨request, world⟩).1 =
      madeOf (outcome (Answer.resource desk request .post asked)
        { state with world := (desk.now world).2 }).1 := by
  rw [serve, answer_fst_of_resource desk posts (by decide) (by decide) route]

/-- Who submits a compose is told what its submission is answered. -/
theorem serve_compose_told {asked : ComposeRequest}
    (submits : request.submits? = some (caller, .compose asked)) :
    (serve desk state ⟨request, world⟩).1 =
      toldAs (.document 201 (Created.codec "ComposeResponse"))
        (Submission.answer desk
          ⟨caller, asked, none, { state with world := (desk.now world).2 }⟩) := by
  obtain ⟨posts, version, route, said⟩ := composed_of_submits submits
  rw [serve_fst_of_posted desk posts route]
  change madeOf (outcome (Answer.compose desk request) _).1 = _
  rw [Answer.outcome_compose, said]
  rfl

/-- Who submits a blueprint is told what all submissions of its images are answered. -/
theorem serve_composeBlueprint_told {id : Uuid} {selection : ImageSelection}
    (submits : request.submits? = some (caller, .composeBlueprint id selection))
    (some : submissionsOf desk state ⟨request, world⟩ ≠ []) :
    (serve desk state ⟨request, world⟩).1 =
      toldAs (.document 201 (.list (Created.codec "ComposeResponse")))
        ((submissionsOf desk state ⟨request, world⟩).mapM (Submission.answer desk)) := by
  obtain ⟨posts, version, segment, route, said⟩ := composedBlueprint_of_submits submits
  simp only [submissionsOf, submissionsFor, submits] at some ⊢
  rcases chosen : outcome (Desk.choosing caller id selection)
      { state with world := (desk.now world).2 } with ⟨error | ⟨⟨entry, body⟩, images⟩, left⟩
  · exact absurd (Desk.submissionsOf_of_error chosen) some
  · have answered : (outcome (desk.composeBlueprint caller id selection)
          { state with world := (desk.now world).2 }).1 =
        (desk.submissionsOf state ⟨caller, .composeBlueprint id selection, (desk.now world).2⟩).mapM
          (Submission.answer desk) := by
      obtain ⟨rfl, -⟩ := Desk.choosing_ok chosen
      rw [Desk.composeBlueprint_eq, outcome_bind_ok chosen, Desk.submissionsOf_of_chosen chosen,
        Desk.submitAll_answer]
    rw [serve_fst_of_posted desk posts route]
    change madeOf (outcome (Answer.composeBlueprint desk request segment) _).1 = _
    rw [Answer.outcome_composeBlueprint, said]
    simp only [answered]
    rfl

end Told

/-- The metrics show how the submissions of a run ended. -/
structure ShowsOutcomes (desk : Desk σ) (state : DeskState σ) (visits : List (Visit σ)) :
    Prop where
  rejections : (after desk state visits).metrics.value?
      "image_builder_quota_rejections_total" [] =
    some (Decimal.ofNat ((submissions desk state visits).countP (·.isRejected desk)))
  errors : (after desk state visits).metrics.value? "image_builder_compose_errors_total" [] =
    some (Decimal.ofNat ((submissions desk state visits).countP (·.isFailed desk)))
  /-- A type for which nothing is shown has not been counted yet. -/
  requests : ∀ type : ImageType,
    ((after desk state visits).metrics.value? "image_builder_compose_requests_total"
        [("image_type", type.name)]).getD (Decimal.ofNat 0) =
      Decimal.ofNat ((submissions desk state visits).countP (·.isAdmitted desk type))
  /-- Whoever asks for a compose makes one submission and is told its answer. -/
  single : ∀ visit caller asked, visit.request.submits? = some (caller, .compose asked) →
    ∃ submission : Submission σ,
      submissionsOf desk (after desk state visits) visit = [submission] ∧
        submission.caller = caller ∧ submission.request = asked ∧
          (serve desk (after desk state visits) visit).1 =
            toldAs (.document 201 (Created.codec "ComposeResponse")) (submission.answer desk)
  /-- Whoever asks for images of a blueprint is told the answers to all submissions that
  are made, or the first error. -/
  several : ∀ visit caller id selection,
    visit.request.submits? = some (caller, .composeBlueprint id selection) →
      submissionsOf desk (after desk state visits) visit ≠ [] →
        (serve desk (after desk state visits) visit).1 =
          toldAs (.document 201 (.list (Created.codec "ComposeResponse")))
            ((submissionsOf desk (after desk state visits) visit).mapM (Submission.answer desk))
  /-- No other request changes a counter. -/
  others : ∀ visit, submissionsOf desk (after desk state visits) visit = [] →
    untimed (serve desk (after desk state visits) visit).2.metrics =
      untimed (after desk state visits).metrics

/-- After every request since the start, the counters are the numbers of submissions that
ended in the ways that they stand for. -/
theorem counters_match (desk : Desk σ) (world : σ) (visits : List (Visit σ)) :
    ShowsOutcomes desk (Desk.start .empty world) visits := by
  have counted := after_untimed desk (Desk.start .empty world) visits
  constructor
  case rejections =>
    have number := congrArg Metrics.quotaRejections counted
    rw [Metrics.counting_rejections] at number
    rw [Metrics.value?_rejections]
    exact congrArg (some ∘ Decimal.ofNat) (number.trans (Nat.zero_add _))
  case errors =>
    have number := congrArg Metrics.composeErrors counted
    rw [Metrics.counting_errors] at number
    rw [Metrics.value?_errors]
    exact congrArg (some ∘ Decimal.ofNat) (number.trans (Nat.zero_add _))
  case requests =>
    intro type
    have sorted : (untimed (Desk.start .empty world).metrics).composeRequests.Sorted := .nil
    have number := congrArg (fun metrics : Metrics => metrics.requestsOf type.name) counted
    rw [Metrics.counting_requests sorted] at number
    rw [Metrics.value?_requests]
    have shown := congrArg Decimal.ofNat (number.trans (Nat.zero_add _))
    rw [← shown]
    unfold untimed Metrics.requestsOf
    cases Series.get? (after desk (Desk.start .empty world) visits).metrics.composeRequests
      type.name with
    | none => rfl
    | some count => rfl
  case single =>
    rintro ⟨request, present⟩ caller asked submits
    refine ⟨⟨caller, asked, none, _⟩, ?_, rfl, rfl, serve_compose_told submits⟩
    simp only [submissionsOf, submissionsFor, submits]
    rfl
  case several =>
    rintro ⟨request, present⟩ caller id selection submits made
    exact serve_composeBlueprint_told submits made
  case others =>
    intro visit nothing
    rw [serve_untimed, nothing]
    rfl

end Api

end ComposeDesk
