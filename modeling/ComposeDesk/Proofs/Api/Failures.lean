import ComposeDesk.Proofs.Api.Responses
import ComposeDesk.Proofs.Discretion
import ComposeDesk.Proofs.Failures

/-!
# Responses of failures

What callers are told when the desk fails.  A response of the status 500 says that
there was an internal error, or in the words of the operation that the build service
did not answer as expected, and nothing else; what the services said is in none of
them.  Of a reply that refuses an order or a copy, a reason that is for callers is
told, with the status 400.
-/

namespace ComposeDesk.Api

open ComposeDesk

variable {σ τ α β : Type} {desk : Desk σ}

def Response.internal : Response := .refusal 500 "Internal server error"

/-- A response of a failure says that there was an error, or these words. -/
def Response.Masked (words : Option String) (response : Response) : Prop :=
  500 ≤ response.status →
    response = .internal ∨ ∃ text, words = some text ∧ response = .refusal 500 text

theorem Response.masked_of_lt {words : Option String} {response : Response}
    (small : response.status < 500) : response.Masked words :=
  fun large => absurd large (Nat.not_le.mpr small)

theorem Response.ofError_masked {words : Option String} {error : Error}
    (posed : error.Posed words) : (ofError error).Masked words := by
  rcases posed with rfl | worded
  · exact masked_of_lt (show 403 < 500 by decide)
  · cases worded with
    | refused text detail => exact masked_of_lt (show 400 < 500 by decide)
    | @unexpected text own detail => exact fun _ => .inr ⟨text, own, rfl⟩
    | ordinary ordinary =>
        cases error with
        | notFound => exact masked_of_lt (show 404 < 500 by decide)
        | validation => exact masked_of_lt (show 400 < 500 by decide)
        | forbidden => exact masked_of_lt (show 403 < 500 by decide)
        | conflict => exact masked_of_lt (show 422 < 500 by decide)
        | aborted => exact masked_of_lt (show 0 < 500 by decide)
        | internal | document | other => exact fun _ => .inl rfl
        | quotaExceeded | downstream => exact absurd ordinary id

/-- A response that is the caller's fault. -/
def Response.Early (response : Response) : Prop := response.status < 500

/-- Such a response tells what is wrong, and shows nothing. -/
inductive Response.Fault : Response → Prop where
  | refusal {status : Nat} (small : status < 500) (message : String) :
      Fault (.refusal status message)
  | text {status : Nat} (small : status < 500) (message : String) :
      Fault ⟨status, .text message⟩

theorem Response.Fault.early {response : Response} (fault : response.Fault) :
    response.Early := by
  cases fault with
  | refusal small message => exact small
  | text small message => exact small

namespace Request

theorem caller_fails (request : Request) : Fails Response.Fault request.caller := by
  unfold caller
  split
  · exact .ok _
  · refine .error ?_
    unfold faultStatus
    split
    · exact .refusal (by decide) _
    · exact .refusal (by decide) _

theorem document_fails (request : Request) (codec : Codec α) :
    Fails Response.Fault (request.document codec) := by
  unfold document
  split
  · exact .ok _
  · exact .error (.refusal (by decide) _)

theorem document?_fails (request : Request) (codec : Codec α) :
    Fails Response.Fault (request.document? codec) := by
  unfold document?
  split
  · exact .ok _
  · split
    · exact .ok _
    · refine .error (.text ?_ _)
      unfold BodyFault.status
      split
      · decide
      · decide
      · decide
      · decide

theorem part_fails (name segment : String) : Fails Response.Fault (part name segment) := by
  unfold part
  split
  · exact .ok _
  · exact .error (.text (by decide) _)

theorem identifier_fails (segment : String) : Fails Response.Fault (identifier segment) := by
  refine .bind (part_fails "id" segment) fun text => ?_
  split
  · exact .ok _
  · exact .error (.refusal (by decide) _)

end Request

theorem queryOf_fails (request : Request) (known : List Parameter) :
    Fails Response.Fault (queryOf request known) :=
  .mapError (fun _ => .refusal (by decide) _) _

theorem rangeOf_fails (query : Query) : Fails Response.Fault (rangeOf query) := by
  unfold rangeOf
  split
  · exact .ok _
  · exact .error (.refusal (by decide) _)

def madeOf : Except Response Response → Response
  | .ok response => response
  | .error response => response

theorem settle_eq (answer : Answer σ Response) (state : DeskState σ) :
    settle answer state = (madeOf (outcome answer state).1, (outcome answer state).2) := by
  simp only [settle, outcome, bind, StateT.bind]
  rcases answer.run state with ⟨result, left⟩
  cases result <;> rfl

/-- Whatever an answer comes to, the response is one of a kind. -/
def Answers (good : Response → Prop) (answer : Answer σ Response) : Prop :=
  ∀ state, good (settle answer state).1

namespace Answers

variable {good : Response → Prop}

theorem pure {response : Response} (fits : good response) :
    Answers good (pure response : Answer σ Response) :=
  fun _ => fits

theorem ite {condition : Prop} [Decidable condition] {answer other : Answer σ Response}
    (holds : Answers good answer) (fails : Answers good other) :
    Answers good (if condition then answer else other) := by
  split
  · exact holds
  · exact fails

/-- A part that cannot be read is told early. -/
theorem read {part : Except Response α} {next : α → Answer σ Response} (early : Fails good part)
    (rest : ∀ a, Answers good (next a)) : Answers good (Api.read part >>= next) := by
  intro state
  rw [settle_eq]
  cases part with
  | error response => exact early response rfl
  | ok a =>
      have told := rest a state
      rw [settle_eq] at told
      exact told

/-- Work is told, or else how it fails. -/
theorem told {fits : Error → Prop} {work : Work σ α} (confined : Confined fits work)
    (failed : ∀ error, fits error → good (.ofError error)) {tell : α → Response}
    (done : ∀ a, good (tell a)) :
    Answers good (perform work >>= fun a => Pure.pure (tell a)) := by
  intro state
  have performed : outcome (perform work) state =
      ((outcome work state).1.mapError Response.ofError, (outcome work state).2) := rfl
  rw [settle_eq, outcome_bind, performed]
  cases result : (outcome work state).1 with
  | error error => exact failed error (confined state error result)
  | ok a => exact done a

variable {words : Option String}

/-- A part of a request is read, and otherwise that is the caller's fault. -/
theorem part {part : Except Response α} {next : α → Answer σ Response}
    (fails : Fails Response.Fault part) (rest : ∀ a, Answers (Response.Masked words) (next a)) :
    Answers (Response.Masked words) (Api.read part >>= next) :=
  .read (fails.imp fun _ fault => Response.masked_of_lt fault.early) rest

/-- Something is done for a caller with a thing. -/
theorem about {request : Request} {segment : String}
    {next : Identity → Uuid → Answer σ Response}
    (rest : ∀ caller id, Answers (Response.Masked words) (next caller id)) :
    Answers (Response.Masked words)
      (Api.read request.caller >>= fun caller =>
        Api.read (Request.identifier segment) >>= next caller) :=
  .part request.caller_fails fun caller => .part (Request.identifier_fails segment) (rest caller)

/-- Something is done for a caller who asks for a part of a list. -/
theorem ranged {request : Request} {known : List Parameter}
    {next : Query → Range → Answer σ Response}
    (rest : ∀ query range, Answers (Response.Masked words) (next query range)) :
    Answers (Response.Masked words)
      (Api.read (queryOf request known) >>= fun query =>
        Api.read (rangeOf query) >>= next query) :=
  .part (queryOf_fails request known) fun query => .part (rangeOf_fails query) (rest query)

theorem posed {work : Work σ α} (confined : Confined (Error.Posed words) work)
    {tell : α → Response} (done : ∀ a, (tell a).status < 500) :
    Answers (Response.Masked words) (perform work >>= fun a => Pure.pure (tell a)) :=
  .told confined (fun _ => Response.ofError_masked) fun a => Response.masked_of_lt (done a)

theorem worded {work : Work σ α} (confined : Confined (Error.Worded words) work)
    {tell : α → Response} (done : ∀ a, (tell a).status < 500) :
    Answers (Response.Masked words) (perform work >>= fun a => Pure.pure (tell a)) :=
  .posed (confined.imp fun _ => .inr) done

theorem ordinary {work : Work σ α} (confined : Confined Error.Ordinary work)
    {tell : α → Response} (done : ∀ a, (tell a).status < 500) :
    Answers (Response.Masked words) (perform work >>= fun a => Pure.pure (tell a)) :=
  .posed confined.posed done

end Answers

/-! ## Resources -/

/-- The words that an operation on a resource has for what the build service is not
expected to answer; most operations do not ask it. -/
def Resource.words (verb : Verb) : Resource → Option String
  | .ready => some Desk.readyWords
  | .compose | .blueprintCompose _ => some Desk.orderWords
  | .composeOf _ => if verb = .get then some Desk.statusWords else none
  | .metadataOf _ => some Desk.metadataWords
  | .cloneOf _ => some Desk.cloneWords
  | .clone _ => some Desk.cloneStatusWords
  | _ => none

/-- The status of a document. -/
theorem Response.document_lt {status : Nat} (small : status < 500) (codec : Codec α) (value : α) :
    (document status codec value).status < 500 := small

namespace Answer

/-- Whatever is asked of a resource, a failure is masked. -/
theorem resource_masked (desk : Desk σ) (request : Request) (verb : Verb) (asked : Resource) :
    Answers (Response.Masked (asked.words verb)) (resource desk request verb asked) := by
  have refused {words : Option String} :
      Answers (Response.Masked words) (pure (.bare 405) : Answer σ Response) :=
    .pure (Response.masked_of_lt (show 405 < 500 by decide))
  cases asked with
  | version => exact .ite (.pure (Response.masked_of_lt (show 200 < 500 by decide))) refused
  | ready =>
      exact .ite (.worded (Desk.ready_confined desk) fun _ => show 200 < 500 by decide) refused
  | distributions =>
      refine .ite (.part request.caller_fails fun caller => ?_) refused
      exact .pure (Response.masked_of_lt (Response.document_lt (by decide) _ _))
  | architectures name =>
      refine .ite (.part request.caller_fails fun caller => ?_) refused
      refine .part (Request.part_fails _ name) fun name => ?_
      exact .ordinary (.of (Desk.architectures_fails desk caller name)) fun _ =>
        Response.document_lt (by decide) _ _
  | compose =>
      refine .ite (.part request.caller_fails fun caller => ?_) refused
      refine .part (request.document_fails _) fun body => ?_
      exact .posed (Desk.composeFor_confined desk caller body none) fun _ =>
        Response.document_lt (by decide) _ _
  | composes =>
      refine .ite (.part request.caller_fails fun caller => .ranged fun query range => ?_) refused
      exact .ordinary (Desk.composes_confined desk caller range) fun _ =>
        Response.document_lt (by decide) _ _
  | composeOf id =>
      by_cases got : verb = .get
      · rw [Resource.words, if_pos got, resource, if_pos got]
        refine .about fun caller id => ?_
        exact .worded (Desk.composeStatus_confined desk caller id) fun _ =>
          Response.document_lt (by decide) _ _
      · rw [Resource.words, if_neg got, resource, if_neg got]
        refine .ite (.about fun caller id => ?_) refused
        exact .ordinary (Desk.deleteCompose_confined caller id) fun _ => show 200 < 500 by decide
  | metadataOf id =>
      refine .ite (.about fun caller id => ?_) refused
      exact .worded (Desk.composeMetadata_confined desk caller id) fun _ =>
        Response.document_lt (by decide) _ _
  | cloneOf id =>
      refine .ite (.about fun caller id => .part (request.document_fails _) fun body => ?_) refused
      exact .worded (Desk.cloneCompose_confined desk caller id body) fun _ =>
        Response.document_lt (by decide) _ _
  | clonesOf id =>
      refine .ite (.about fun caller id => .ranged fun query range => ?_) refused
      exact .ordinary (Desk.clones_confined caller id range) fun _ =>
        Response.document_lt (by decide) _ _
  | clone id =>
      refine .ite (.about fun caller id => ?_) refused
      exact .worded (Desk.cloneStatus_confined desk caller id) fun _ =>
        Response.document_lt (by decide) _ _
  | blueprints =>
      refine .ite (.part request.caller_fails fun caller => .ranged fun query range => ?_)
        (.ite (.part request.caller_fails fun caller => ?_) refused)
      · exact .ordinary (Desk.blueprints_confined caller _ range) fun _ =>
          Response.document_lt (by decide) _ _
      · refine .part (request.document_fails _) fun body => ?_
        exact .ordinary (Desk.createBlueprint_confined desk caller body) fun _ =>
          Response.document_lt (by decide) _ _
  | blueprint id =>
      refine .ite (.about fun caller id => .part (queryOf_fails request _) fun query => ?_)
        (.ite (.about fun caller id => .part (request.document_fails _) fun body => ?_)
          (.ite (.about fun caller id => ?_) refused))
      · exact .ordinary (Desk.getBlueprint_confined caller id _) fun _ =>
          Response.document_lt (by decide) _ _
      · exact .ordinary (Desk.updateBlueprint_confined desk caller id body) fun _ =>
          Response.document_lt (by decide) _ _
      · exact .ordinary (Desk.deleteBlueprint_confined caller id) fun _ => show 204 < 500 by decide
  | exportOf id =>
      refine .ite (.about fun caller id => ?_) refused
      exact .ordinary (Desk.exportBlueprint_confined desk caller id) fun _ =>
        Response.document_lt (by decide) _ _
  | blueprintCompose id =>
      refine .ite (.part request.caller_fails fun caller => ?_) refused
      refine .part (Request.part_fails _ id) fun _ => ?_
      refine .part (request.document?_fails _) fun body => ?_
      refine .part (Request.identifier_fails id) fun id => ?_
      exact .posed (Desk.composeBlueprint_confined desk caller id _) fun _ =>
        Response.document_lt (by decide) _ _
  | blueprintComposes id =>
      refine .ite (.about fun caller id => .ranged fun query range => ?_) refused
      exact .ordinary (Desk.blueprintComposes_confined desk caller id _ range) fun _ =>
        Response.document_lt (by decide) _ _

end Answer

def Request.words (request : Request) : Option String :=
  match Route.ofPath? request.path with
  | some (.resource _ asked) => asked.words request.asks
  | _ => none

/-- A response as it is sent; to a look at the head the body is left out. -/
def Request.shown (request : Request) (response : Response) : Response :=
  if request.verb = .head then { response with content := .empty } else response

theorem Request.shown_status (request : Request) (response : Response) :
    (request.shown response).status = response.status := by
  unfold shown
  split <;> rfl

theorem answerRoute_resource (desk : Desk σ) (request : Request) (verb : Verb) (version : String)
    (asked : Resource) (state : DeskState σ) :
    (answerRoute desk request verb (.resource version asked) state).1 =
      (settle (Answer.resource desk request verb asked) (readClock desk state).2).1 := rfl

/-- A failure is masked on every route. -/
theorem routed_masked (desk : Desk σ) (request : Request) (state : DeskState σ) :
    (routed desk request state).1.Masked request.words := by
  unfold routed Request.words
  cases Route.ofPath? request.path with
  | none => exact Response.masked_of_lt (show 404 < 500 by decide)
  | some route =>
      cases route with
      | health =>
          simp only [answerRoute]
          split
          · exact Response.masked_of_lt (show 200 < 500 by decide)
          · exact Response.masked_of_lt (show 405 < 500 by decide)
      | metrics =>
          refine Response.masked_of_lt ?_
          change (if request.asks = .get then _ else _ : Response).status < 500
          split
          · exact (show 200 < 500 by decide)
          · exact (show 405 < 500 by decide)
      | resource version asked =>
          simp only [answerRoute_resource]
          exact Answer.resource_masked desk request request.asks asked _

theorem answer_fst (desk : Desk σ) (request : Request) (state : DeskState σ) :
    (answer desk request state).1 =
      if request.verb = .options then .bare 200
      else request.shown (routed desk request state).1 := by
  rw [answer_eq]
  split
  · rfl
  · rfl

/-- A response of a failure says that there was an error, or the words of the operation. -/
theorem answer_masked (desk : Desk σ) (request : Request) (state : DeskState σ)
    (failed : 500 ≤ (answer desk request state).1.status) :
    (answer desk request state).1 = request.shown .internal ∨
      ∃ words, request.words = some words ∧
        (answer desk request state).1 = request.shown (.refusal 500 words) := by
  rw [answer_fst] at failed ⊢
  by_cases options : request.verb = .options
  · rw [if_pos options] at failed
    exact absurd failed (by decide)
  · rw [if_neg options] at failed ⊢
    rw [Request.shown_status] at failed
    rcases routed_masked desk request state failed with same | ⟨words, own, same⟩
    · exact .inl (congrArg request.shown same)
    · exact .inr ⟨words, own, congrArg request.shown same⟩

/-! ## Two build services -/

/-- The same response, or two that tell reasons for which the same was refused. -/
inductive Response.Kin (reasons : String → String → Prop) : Response → Response → Prop where
  | same (response : Response) : Kin reasons response response
  | reason {text told : String} (both : reasons text told) :
      Kin reasons (.refusal 400 text) (.refusal 400 told)

section Reasons

variable {reasons : String → String → Prop} {build : BuildService σ}

theorem Response.ofError_kin {error other : Error} (kin : error.Kin reasons other) :
    (ofError error).Kin reasons (ofError other) := by
  cases kin with
  | same error => exact .same _
  | detail status text detail other => exact .same _
  | reason both detail other => exact .reason both

theorem told_parallel {work other : Work σ α} (parallel : Parallel (Error.Kin reasons) work other)
    (tell : α → Response) :
    Parallel (Response.Kin reasons) (perform work >>= fun a => pure (tell a))
      (perform other >>= fun a => pure (tell a)) :=
  .bind (parallel.adapt fun _ _ => Response.ofError_kin) fun _ => .refl .same _

/-- Only the resources for which the build service is asked are answered differently. -/
theorem Answer.resource_parallel (resembles : desk.services.build.Resembles build)
    (request : Request) (verb : Verb) (asked : Resource) :
    Parallel (Response.Kin (desk.services.build.Reasons build))
      (resource desk request verb asked) (resource (desk.behind build) request verb asked) := by
  cases asked with
  | ready => exact .ite (told_parallel (Desk.ready_parallel resembles) _) (.refl .same _)
  | compose =>
      refine .ite (.bind (.refl .same _) fun caller => .bind (.refl .same _) fun body => ?_)
        (.refl .same _)
      exact told_parallel (Desk.composeFor_parallel resembles body none) _
  | composeOf id =>
      refine .ite (.bind (.refl .same _) fun caller => .bind (.refl .same _) fun id => ?_)
        (.refl .same _)
      exact told_parallel (Desk.composeStatus_parallel resembles id) _
  | metadataOf id =>
      refine .ite (.bind (.refl .same _) fun caller => .bind (.refl .same _) fun id => ?_)
        (.refl .same _)
      exact told_parallel (Desk.composeMetadata_parallel resembles id) _
  | cloneOf id =>
      refine .ite (.bind (.refl .same _) fun caller => .bind (.refl .same _) fun id => ?_)
        (.refl .same _)
      exact .bind (.refl .same _) fun body =>
        told_parallel (Desk.cloneCompose_parallel resembles id body) _
  | clone id =>
      refine .ite (.bind (.refl .same _) fun caller => .bind (.refl .same _) fun id => ?_)
        (.refl .same _)
      exact told_parallel (Desk.cloneStatus_parallel resembles id) _
  | blueprintCompose id =>
      refine .ite (.bind (.refl .same _) fun caller => .bind (.refl .same _) fun _ => ?_)
        (.refl .same _)
      refine .bind (.refl .same _) fun body => .bind (.refl .same _) fun id => ?_
      exact told_parallel (Desk.composeBlueprint_parallel resembles id _) _
  | version | distributions | architectures | composes | clonesOf | blueprints | blueprint
  | exportOf | blueprintComposes => exact .refl .same _

theorem madeOf_kin {result told : Except Response Response}
    (kindred : Kindred (Response.Kin reasons) result told) :
    (madeOf result).Kin reasons (madeOf told) := by
  cases kindred with
  | ok response => exact .same response
  | error both => exact both

theorem settle_tally {answer other : Answer σ Response}
    (parallel : Parallel (Response.Kin reasons) answer other) :
    Tally Eq (Response.Kin reasons) (settle answer) (settle other) := by
  rintro state _ rfl
  rw [settle_eq, settle_eq]
  exact ⟨madeOf_kin (parallel state).1, (parallel state).2⟩

theorem tally_refl (making : StateM (DeskState σ) Response) :
    Tally Eq (Response.Kin reasons) making making := by
  rintro state _ rfl
  exact ⟨.same _, rfl⟩

/-- What happens before and after a response is made is the same. -/
theorem answerRoute_tally (resembles : desk.services.build.Resembles build) (request : Request)
    (verb : Verb) (route : Route) :
    Tally Eq (Response.Kin (desk.services.build.Reasons build))
      (answerRoute desk request verb route)
      (answerRoute (desk.behind build) request verb route) := by
  have clock : Tally (Eq : DeskState σ → DeskState σ → Prop) Eq (readClock desk)
      (readClock (desk.behind build)) := by
    rintro state _ rfl
    exact ⟨rfl, rfl⟩
  cases route with
  | health => exact tally_refl _
  | metrics => exact tally_refl _
  | resource version asked =>
      refine .bind clock fun start _ same => ?_
      subst same
      refine .bind (settle_tally (Answer.resource_parallel resembles request verb asked)) ?_
      intro response told both
      refine .bind clock fun stop _ same => ?_
      subst same
      rintro state _ rfl
      exact ⟨both, rfl⟩

theorem answer_tally (resembles : desk.services.build.Resembles build) (request : Request) :
    Tally Eq (Response.Kin (desk.services.build.Reasons build))
      (answer desk request) (answer (desk.behind build) request) := by
  rw [answer_eq, answer_eq]
  split
  · exact tally_refl _
  · have routes : Tally Eq (Response.Kin (desk.services.build.Reasons build))
        (routed desk request) (routed (desk.behind build) request) := by
      unfold routed
      split
      · exact answerRoute_tally resembles request _ _
      · exact tally_refl _
    refine .bind routes fun response told both => .pure ?_
    -- Without their bodies, two refusals for a reason are the same.
    split
    · cases both with
      | same response => exact .same _
      | reason both => exact .same _
    · exact both

/-- Whatever two build services reply, if it is the same but for bodies that hold nothing
that was asked for, all requests of a run are answered the same, but for reasons that are
for callers. -/
theorem responses_kin (resembles : desk.services.build.Resembles build) (state : DeskState σ)
    (visits : List (Visit σ)) :
    (responses desk state visits).Forall₂ (Response.Kin (desk.services.build.Reasons build))
      (responses (desk.behind build) state visits) := by
  induction visits generalizing state with
  | nil => exact .nil
  | cons visit rest ih =>
      obtain ⟨kin, same⟩ := answer_tally resembles visit.request
        { state with world := visit.world } _ rfl
      refine .cons kin ?_
      have next : (serve desk state visit).2 = (serve (desk.behind build) state visit).2 := same
      rw [← next]
      exact ih _

/-- With the same reasons, the responses are the same. -/
theorem responses_eq_of_reasons (resembles : desk.services.build.Resembles build)
    (agree : ∀ text told, desk.services.build.Reasons build text told → text = told)
    (state : DeskState σ) (visits : List (Visit σ)) :
    responses desk state visits = responses (desk.behind build) state visits := by
  have same : (responses desk state visits).Forall₂ Eq
      (responses (desk.behind build) state visits) := by
    refine (responses_kin resembles state visits).imp ?_
    rintro _ _ (_ | both)
    · rfl
    · rw [agree _ _ both]
  rw [List.forall₂_eq_eq_eq] at same
  exact same

end Reasons

/-- What callers are told of a refusal; the words are those for what was not expected. -/
def refusalResponse (words : String) (reply : Reply) : Refusal → Response
  | .unresolved => .refusal 400 "Error resolving OSTree repo"
  | .reasoned => .refusal 400 (Build.ErrorBody.ofReply reply).reason
  | .unexpected => .refusal 500 words

theorem ofError_error (words : String) (reply : Reply) (refusal : Refusal) :
    Response.ofError (refusal.error words reply) = refusalResponse words reply refusal := by
  cases refusal <;> rfl

/-- How work fails is told early. -/
theorem outcome_perform_error {work : Work σ α} {state : DeskState σ} {error : Error}
    (failed : (outcome work state).1 = .error error) :
    (outcome (perform work) state).1 = .error (.ofError error) := by
  change (outcome work state).1.mapError Response.ofError = _
  rw [failed, mapError_error]

/-! ## Nothing leaks -/

/-- A desk tells callers of failures only what is for them. -/
structure Discreet (desk : Desk σ) : Prop where
  /-- Of a failure callers learn that there was an error, or that the build service did not
  answer as expected, in the words of the operation. -/
  masked : ∀ request state, 500 ≤ (answer desk request state).1.status →
    (answer desk request state).1 = request.shown .internal ∨
      ∃ words, request.words = some words ∧
        (answer desk request state).1 = request.shown (.refusal 500 words)
  /-- However the services behave, and whatever is remembered: two failures at the same
  request look the same, if neither or both of them are told as internal ones. -/
  indistinct : ∀ {τ : Type} (other : Desk τ) request state held,
    500 ≤ (answer desk request state).1.status → 500 ≤ (answer other request held).1.status →
      ((answer desk request state).1 = request.shown .internal ↔
        (answer other request held).1 = request.shown .internal) →
      (answer desk request state).1 = (answer other request held).1
  /-- Of bodies in which two build services differ, nothing is seen in a run but the reasons
  for which they refuse an order or a copy; these have the status 400. -/
  released : ∀ build, desk.services.build.Resembles build → ∀ state visits,
    (responses desk state visits).Forall₂ (Response.Kin (desk.services.build.Reasons build))
      (responses (desk.behind build) state visits)
  /-- If these reasons are the same too, so are all responses. -/
  unseen : ∀ build, desk.services.build.Resembles build →
    (∀ text told, desk.services.build.Reasons build text told → text = told) →
      ∀ state visits, responses desk state visits = responses (desk.behind build) state visits
  /-- A run is answered as if the build service gave no bodies but those that hold what was
  asked for, or from which callers learn how it was refused. -/
  hushed : ∀ state visits, responses desk state visits =
    responses (desk.behind desk.services.build.hushed) state visits
  /-- The response to an order that is admitted and that the build service refuses. -/
  orders : ∀ {caller request order state middle reply},
    outcome (desk.ordering caller request) state = (.ok order, middle) →
      (outcome (desk.services.build.compose order) middle.world).1 = .ok reply →
        reply.status ≠ 201 →
          (outcome (perform (desk.compose caller request)) state).1 =
            .error (refusalResponse Desk.orderWords reply
              (Build.ErrorBody.ofReply reply).orderRefusal)
  /-- The response to a copy that may be made and that the build service refuses. -/
  copies : ∀ {caller id request accounts state middle reply},
    outcome (desk.sharing caller id request) state = (.ok accounts, middle) →
      (outcome (desk.services.build.cloneCompose id ⟨request.region, accounts⟩)
        middle.world).1 = .ok reply →
        reply.status ≠ 201 →
          (outcome (perform (desk.cloneCompose caller id request)) state).1 =
            .error (refusalResponse Desk.cloneWords reply
              (Build.ErrorBody.ofReply reply).cloneRefusal)

theorem failures_masked (desk : Desk σ) : Discreet desk where
  masked := answer_masked desk
  indistinct other request state held failed failedToo both := by
    rcases answer_masked desk request state failed with one | ⟨words, own, one⟩
    · rw [one, both.mp one]
    · rcases answer_masked other request held failedToo with two | ⟨text, ownToo, two⟩
      · rw [two, both.mpr two]
      · rw [one, two, Option.some.inj (own.symm.trans ownToo)]
  released build resembles := responses_kin resembles
  orders ordered replied rejected := by
    rw [outcome_perform_error (Desk.compose_of_rejected ordered replied rejected), ofError_error]
  copies shared replied rejected := by
    rw [outcome_perform_error (Desk.cloneCompose_of_rejected shared replied rejected),
      ofError_error]
  unseen _ := responses_eq_of_reasons
  hushed := responses_eq_of_reasons desk.services.build.resembles_hushed fun _ _ =>
    BuildService.reasons_hushed

end ComposeDesk.Api
