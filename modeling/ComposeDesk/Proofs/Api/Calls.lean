import ComposeDesk.Proofs.Api.Failures
import ComposeDesk.Proofs.Ledger
import ComposeDesk.Proofs.Remembered

/-!
# Requests as operations of the desk

Each request for a resource performs one operation of the desk at most.  What is said of
all operations is said of all requests, then, and of their runs.
-/

namespace ComposeDesk.Api

variable {σ α β : Type} {desk : Desk σ} {may : Operation → Prop}

def Resource.isComposing : Resource → Bool
  | .compose | .blueprintCompose _ => true
  | _ => false

/-- What may be left of a state: what it was, what is left when the build service was
asked whether it is ready, or what one of some operations leaves. -/
inductive Performed (desk : Desk σ) (may : Operation → Prop) (state : DeskState σ) :
    DeskState σ → Prop where
  | nothing : Performed desk may state state
  | ready : Performed desk may state (outcome desk.ready state).2
  | operation (caller : Identity) (operation : Operation) (allowed : may operation) :
      Performed desk may state (outcome (desk.perform caller operation) state).2

/-- An answer performs one of some operations at most. -/
def Performs (desk : Desk σ) (may : Operation → Prop) (answer : Answer σ α) : Prop :=
  ∀ state, Performed desk may state (outcome answer state).2

theorem outcome_read (part : Except Response α) (state : DeskState σ) :
    outcome (read part : Answer σ α) state = (part, state) := rfl

/-- Work is told, or else how it failed. -/
theorem outcome_told (work : Work σ α) (tell : α → Response) (state : DeskState σ) :
    outcome (perform work >>= fun a => (pure (tell a) : Answer σ Response)) state =
      (((outcome work state).1.mapError Response.ofError).map tell, (outcome work state).2) := by
  have performed : outcome (perform work) state =
      ((outcome work state).1.mapError Response.ofError, (outcome work state).2) := rfl
  rw [outcome_bind, performed]
  cases (outcome work state).1 with
  | error error => rfl
  | ok a => rfl

namespace Performs

theorem pure (a : α) : Performs desk may (Pure.pure a : Answer σ α) :=
  fun _ => .nothing

theorem ite {condition : Prop} [Decidable condition] {answer other : Answer σ α}
    (holds : Performs desk may answer) (fails : Performs desk may other) :
    Performs desk may (if condition then answer else other) := by
  split
  · exact holds
  · exact fails

/-- A part of a request is read first. -/
theorem read {part : Except Response α} {next : α → Answer σ β}
    (each : ∀ a, Performs desk may (next a)) : Performs desk may (Api.read part >>= next) := by
  intro state
  rw [outcome_bind, outcome_read]
  cases part with
  | error response => exact .nothing
  | ok a => exact each a state

/-- A thing is looked up for a caller. -/
theorem about {callers : Except Response Identity} {ids : Except Response Uuid}
    {next : Identity → Uuid → Answer σ β}
    (each : ∀ caller id, Performs desk may (next caller id)) :
    Performs desk may (Api.read callers >>= fun caller => Api.read ids >>= next caller) :=
  .read fun caller => .read fun id => each caller id

/-- An operation is told. -/
theorem told {caller : Identity} (operation : Operation) (allowed : may operation)
    {work : Work σ α} {f : α → Operation.Answer} (same : desk.perform caller operation = f <$> work)
    (tell : α → Response) :
    Performs desk may (perform work >>= fun a => Pure.pure (tell a)) := by
  intro state
  have performed : Performed desk may state (outcome (desk.perform caller operation) state).2 :=
    .operation caller operation allowed
  rw [same, outcome_map] at performed
  rw [outcome_told]
  exact performed

end Performs

namespace Answer

/-- Of all requests, only posting to a resource that composes asks for composes. -/
theorem resource_performs (desk : Desk σ) (request : Request) (verb : Verb) (asked : Resource) :
    Performs desk
      (fun operation => operation.isComposing = true → verb = .post ∧ asked.isComposing = true)
      (resource desk request verb asked) := by
  have idle {operation : Operation} (other : operation.isComposing = false) :
      operation.isComposing = true → verb = .post ∧ asked.isComposing = true :=
    fun composing => absurd (other.symm.trans composing) Bool.false_ne_true
  cases asked with
  | version => exact .ite (.pure _) (.pure _)
  | ready =>
      refine .ite (fun state => ?_) (.pure _)
      rw [ready, outcome_told]
      exact .ready
  | distributions => exact .ite (.read fun _ => .pure _) (.pure _)
  | architectures name =>
      refine .ite (.read fun caller => .read fun name state => ?_) (.pure _)
      rw [outcome_told]
      exact .nothing
  | compose =>
      by_cases posts : verb = .post
      · simp only [resource, if_pos posts]
        exact .read fun caller => .read fun body =>
          .told (.compose body) (fun _ => ⟨posts, rfl⟩) rfl _
      · simp only [resource, if_neg posts]
        exact .pure _
  | composes =>
      refine .ite (.read fun caller => .read fun query => .read fun range => ?_) (.pure _)
      exact .told (.composes range) (idle rfl) rfl _
  | composeOf id =>
      refine .ite (.about fun caller id => ?_) (.ite (.about fun caller id => ?_) (.pure _))
      · exact .told (.composeStatus id) (idle rfl) rfl _
      · exact .told (.deleteCompose id) (idle rfl) rfl _
  | metadataOf id =>
      exact .ite (.about fun caller id => .told (.composeMetadata id) (idle rfl) rfl _) (.pure _)
  | cloneOf id =>
      refine .ite (.about fun caller id => .read fun body => ?_) (.pure _)
      exact .told (.cloneCompose id body) (idle rfl) rfl _
  | clonesOf id =>
      refine .ite (.about fun caller id => .read fun query => .read fun range => ?_) (.pure _)
      exact .told (.clones id range) (idle rfl) rfl _
  | clone id =>
      exact .ite (.about fun caller id => .told (.cloneStatus id) (idle rfl) rfl _) (.pure _)
  | blueprints =>
      refine .ite (.read fun caller => .read fun query => .read fun range => ?_)
        (.ite (.read fun caller => .read fun body => ?_) (.pure _))
      · exact .told (.blueprints ⟨query.name, query.search⟩ range) (idle rfl) rfl _
      · exact .told (.createBlueprint body) (idle rfl) rfl _
  | blueprint id =>
      refine .ite (.about fun caller id => .read fun query => ?_)
        (.ite (.about fun caller id => .read fun body => ?_)
          (.ite (.about fun caller id => ?_) (.pure _)))
      · exact .told (.getBlueprint id query.version) (idle rfl) rfl _
      · exact .told (.updateBlueprint id body) (idle rfl) rfl _
      · exact .told (.deleteBlueprint id) (idle rfl) rfl _
  | exportOf id =>
      exact .ite (.about fun caller id => .told (.exportBlueprint id) (idle rfl) rfl _) (.pure _)
  | blueprintCompose segment =>
      by_cases posts : verb = .post
      · simp only [resource, if_pos posts]
        refine .read fun caller => .read fun text => .read fun body => .read fun id => ?_
        exact .told (.composeBlueprint id (body.getD ⟨none⟩)) (fun _ => ⟨posts, rfl⟩) rfl _
      · simp only [resource, if_neg posts]
        exact .pure _
  | blueprintComposes id =>
      refine .ite (.about fun caller id => .read fun query => .read fun range => ?_) (.pure _)
      exact .told (.blueprintComposes id query.version range) (idle rfl) rfl _

end Answer

theorem ready_keeps_store : Keeps DeskState.store desk.ready :=
  .bind (fun _ => rfl) fun _ => .ite (.pure _) (.throw _)

/-- What changes of the store keep, a request for a resource keeps. -/
theorem Performed.keep {kept : Store → Prop}
    (keep : ∀ {caller asked ids store next}, Store.Changes caller asked ids store next →
      kept store → kept next)
    {state left : DeskState σ} (performed : Performed desk may state left)
    (held : kept state.store) : kept left.store := by
  cases performed with
  | nothing => exact held
  | ready =>
      rw [ready_keeps_store]
      exact held
  | operation caller operation allowed =>
      obtain ⟨ids, changes⟩ := Desk.perform_changes desk caller operation state
      exact keep changes held

theorem answer_snd (desk : Desk σ) (request : Request) (state : DeskState σ) :
    (answer desk request state).2 =
      if request.verb = .options then state else (routed desk request state).2 := by
  rw [answer_eq]
  split
  · rfl
  · generalize routed desk request = making
    rfl

/-- What is in the store after a request for a resource; the clock and the metrics are not. -/
theorem answerRoute_store (desk : Desk σ) (request : Request) (verb : Verb) (version : String)
    (asked : Resource) (state : DeskState σ) :
    (answerRoute desk request verb (.resource version asked) state).2.store =
      (outcome (Answer.resource desk request verb asked)
        { state with world := (desk.now state.world).2 }).2.store := by
  have settled := settle_eq (Answer.resource desk request verb asked)
    { state with world := (desk.now state.world).2 }
  exact congrArg (fun done : Response × DeskState σ => done.2.store) settled

/-- What changes of the store keep, requests keep. -/
theorem serve_keep {kept : Store → Prop}
    (keep : ∀ {caller asked ids store next}, Store.Changes caller asked ids store next →
      kept store → kept next)
    {state : DeskState σ} (held : kept state.store) (visit : Visit σ) :
    kept (serve desk state visit).2.store := by
  rw [serve, answer_snd]
  split
  · exact held
  · unfold routed
    cases Route.ofPath? visit.request.path with
    | none => exact held
    | some route =>
        cases route with
        | health | metrics => exact held
        | resource version asked =>
            simp only
            rw [answerRoute_store]
            exact (Answer.resource_performs desk visit.request visit.request.asks asked _).keep
              keep held

def after (desk : Desk σ) : DeskState σ → List (Visit σ) → DeskState σ
  | state, [] => state
  | state, visit :: rest => after desk (serve desk state visit).2 rest

/-- What changes of the store keep, runs of requests keep. -/
theorem after_keep {kept : Store → Prop}
    (keep : ∀ {caller asked ids store next}, Store.Changes caller asked ids store next →
      kept store → kept next)
    {state : DeskState σ} (held : kept state.store) (visits : List (Visit σ)) :
    kept (after desk state visits).store := by
  induction visits generalizing state with
  | nil => exact held
  | cons visit rest ih => exact ih (serve_keep keep held visit)

end ComposeDesk.Api
