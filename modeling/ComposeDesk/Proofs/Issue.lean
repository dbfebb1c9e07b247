import ComposeDesk.Proofs.Reading

/-!
# Identifiers that are given out

A plan that ends well has given out the identifiers of what is to be written,
each of them once: the build service gives those of composes and clones, those
of blueprints and versions are drawn.  A plan that fails may have given out
identifiers too, but nothing is written under them.
-/

namespace ComposeDesk

variable {σ α β : Type} {desk : Desk σ}

namespace Desk

/-- What the answer to an order comes to: the identifier that is given out, or
the error that is told. -/
def verdict (refused : Reply → Error) : Except ServiceFault Reply → Except Error Uuid
  | .error fault => .error fault.error
  | .ok reply =>
      if reply.status = 201 then
        match reply.decode Build.ComposeId.codec with
        | .ok created => .ok created.id
        | .error fault => .error fault.error
      else .error (refused reply)

theorem verdict_ok_iff (refused : Reply → Error) (answer : Except ServiceFault Reply) (id : Uuid) :
    verdict refused answer = .ok id ↔
      ∃ reply, answer = .ok reply ∧ reply.status = 201 ∧
        reply.decode Build.ComposeId.codec = .ok ⟨id⟩ := by
  cases answer with
  | error fault => simp [verdict]
  | ok reply =>
      simp only [verdict]
      by_cases accepted : reply.status = 201
      · rcases decoded : reply.decode Build.ComposeId.codec with fault | given
        · simp [accepted, decoded]
        · cases given
          simp [accepted, decoded]
      · simp [accepted]

/-- An accepted reply gives out the identifier that the verdict tells. -/
theorem issued_of_verdict (refused : Reply → Error) (reply : Reply) :
    reply.issued? = (verdict refused (.ok reply)).toOption := by
  simp only [Reply.issued?, verdict]
  split
  · cases reply.decode Build.ComposeId.codec <;> rfl
  · rfl

theorem issued_ordered (order : Build.Order) (answer : Except ServiceFault Reply) :
    (Event.ordered order answer).issued? = (verdict refusedOrder answer).toOption := by
  cases answer with
  | error fault => rfl
  | ok reply => exact issued_of_verdict _ reply

theorem issued_copied (composeId : Uuid) (order : Build.CloneOrder)
    (answer : Except ServiceFault Reply) :
    (Event.copied composeId order answer).issued? = (verdict refusedClone answer).toOption := by
  cases answer with
  | error fault => rfl
  | ok reply => exact issued_of_verdict _ reply

def answerTo (desk : Desk σ) (order : Build.Order) (world : σ) :
    Except ServiceFault Reply × σ :=
  outcome (desk.services.build.compose order) world

/-- Asking and looking at the reply is what placing an order comes to. -/
theorem outcome_verdict (refused : Reply → Error) (act : Act σ ServiceFault Reply)
    (state : DeskState σ) :
    outcome (do
      let reply ← Work.ask ServiceFault.error act
      if reply.status = 201 then
        let created ← Work.check ServiceFault.error (reply.decode Build.ComposeId.codec)
        return created.id
      else throw (refused reply)) state =
      (verdict refused (outcome act state.world).1,
        { state with world := (outcome act state.world).2 }) := by
  simp only [outcome_bind, Work.outcome_ask]
  rcases outcome act state.world with ⟨fault | reply, left⟩
  · rfl
  · simp only [mapError_ok, verdict]
    split
    · simp only [bind_pure_comp, outcome_map, Work.outcome_check]
      cases reply.decode Build.ComposeId.codec <;> rfl
    · rfl

theorem outcome_place (order : Build.Order) (state : DeskState σ) :
    outcome (desk.place order) state =
      (verdict refusedOrder (desk.answerTo order state.world).1,
        { state with world := (desk.answerTo order state.world).2 }) :=
  outcome_verdict _ _ _

theorem outcome_placeCopy (composeId : Uuid) (order : Build.CloneOrder)
    (state : DeskState σ) :
    outcome (desk.placeCopy composeId order) state =
      (verdict refusedClone
          (outcome (desk.services.build.cloneCompose composeId order) state.world).1,
        { state with
          world := (outcome (desk.services.build.cloneCompose composeId order) state.world).2 }) :=
  outcome_verdict _ _ _

section Submission

variable {caller : Identity} {request : ComposeRequest} {state middle : DeskState σ}

/-- Without an order nothing is placed. -/
theorem outcome_submission_error {error : Error}
    (refused : outcome (desk.ordering caller request) state = (.error error, middle)) :
    outcome (desk.submission caller request) state = (.error error, middle) :=
  outcome_bind_error refused _

/-- An order is placed once; what comes of it is up to the answer. -/
theorem outcome_submission_ok {order : Build.Order}
    (ordered : outcome (desk.ordering caller request) state = (.ok order, middle)) :
    outcome (desk.submission caller request) state =
      match verdict refusedOrder (desk.answerTo order middle.world).1 with
      | .error error =>
          (.error error, { middle with world := (desk.answerTo order middle.world).2 })
      | .ok id =>
          (.ok (id, (desk.now (desk.answerTo order middle.world).2).1),
            { middle with world := (desk.now (desk.answerTo order middle.world).2).2 }) := by
  rw [submission, outcome_bind_ok ordered, outcome_bind, outcome_place]
  cases verdict refusedOrder (desk.answerTo order middle.world).1 with
  | error error => rfl
  | ok id => rfl

end Submission

/-- Work gives out identifiers; if it ends well, they are in a relation to what
it yields. -/
def Issues (journal : Journal desk) (work : Work σ α) (told : α → List Uuid → Prop) : Prop :=
  ∀ state, ∃ ids,
    journal.issued (outcome work state).2.world = journal.issued state.world ++ ids ∧
      ∀ a, (outcome work state).1 = .ok a → told a ids

theorem issued_eq (journal : Journal desk) {world left : σ}
    (same : journal.events left = journal.events world) :
    journal.issued left = journal.issued world := by
  rw [Journal.issued, same, Journal.issued]

theorem issued_append (journal : Journal desk) {world left : σ} {event : Event}
    (added : journal.events left = journal.events world ++ [event]) :
    journal.issued left = journal.issued world ++ event.issued?.toList := by
  rw [Journal.issued, added, List.filterMap_append]
  cases issued : event.issued? <;> simp [Journal.issued, issued]

namespace Issues

variable {journal : Journal desk}

/-- What leaves no trace gives out nothing. -/
theorem quiet {work : Work σ α} (keeps : Keeps (DeskState.beside journal.events) work) :
    Issues journal work fun _ ids => ids = [] := by
  intro state
  exact ⟨[], by rw [List.append_nil, issued_eq journal (keeps.part_eq state)], fun _ _ => rfl⟩

/-- What leaves no trace may go first. -/
theorem after {work : Work σ α} {next : α → Work σ β} {told : β → List Uuid → Prop}
    (keeps : Keeps (DeskState.beside journal.events) work)
    (rest : ∀ a, Issues journal (next a) told) : Issues journal (work >>= next) told := by
  intro state
  have same := issued_eq journal (keeps.part_eq state)
  rcases done : outcome work state with ⟨error | a, left⟩
  · rw [done] at same
    rw [outcome_bind_error done]
    exact ⟨[], by rw [List.append_nil, same], by simp⟩
  · rw [done] at same
    rw [outcome_bind_ok done]
    obtain ⟨ids, issued, yields⟩ := rest a left
    exact ⟨ids, by rw [issued, same], yields⟩

/-- One identifier is given out before all others. -/
theorem issue {work : Work σ Uuid} {next : Uuid → Work σ β} {told : β → List Uuid → Prop}
    (first : Issues journal work fun id ids => ids = [id])
    (rest : ∀ id, Issues journal (next id) fun b ids => told b (id :: ids)) :
    Issues journal (work >>= next) told := by
  intro state
  obtain ⟨given, issued, single⟩ := first state
  rcases done : outcome work state with ⟨error | id, left⟩
  · rw [done] at issued
    rw [outcome_bind_error done]
    exact ⟨given, issued, by simp⟩
  · rw [done] at issued single
    rw [outcome_bind_ok done]
    obtain ⟨ids, more, yields⟩ := rest id left
    rw [single id rfl] at issued
    exact ⟨id :: ids, by rw [more, issued, List.append_assoc]; rfl, yields⟩

/-- The time comes last. -/
theorem dated {f : Timestamp → β} {told : β → List Uuid → Prop} (holds : ∀ now, told (f now) []) :
    Issues journal (do
      let now ← Work.outside desk.now
      return f now) told := by
  refine .after (now_keeps journal) fun now state => ?_
  refine ⟨[], (List.append_nil _).symm, ?_⟩
  rintro _ ⟨rfl⟩
  exact holds now

end Issues

/-- Doing nothing gives out nothing. -/
theorem idle_issues (journal : Journal desk) :
    Issues journal (pure () : Work σ Unit) fun _ ids => ids = [] :=
  .quiet (.pure ())

theorem answerTo_issued (journal : Journal desk) (order : Build.Order) (world : σ) :
    journal.issued (desk.answerTo order world).2 =
      journal.issued world ++
        (verdict refusedOrder (desk.answerTo order world).1).toOption.toList := by
  have added := issued_append journal (journal.compose order world)
  rwa [issued_ordered] at added

theorem place_issues (journal : Journal desk) (order : Build.Order) :
    Issues journal (desk.place order) fun id ids => ids = [id] := by
  intro state
  rw [outcome_place]
  refine ⟨_, answerTo_issued journal order state.world, fun id yields => ?_⟩
  simp only at yields
  rw [yields]
  rfl

theorem placeCopy_issues (journal : Journal desk) (composeId : Uuid)
    (order : Build.CloneOrder) :
    Issues journal (desk.placeCopy composeId order) fun id ids => ids = [id] := by
  intro state
  have added := issued_append journal (journal.cloneCompose composeId order state.world)
  rw [issued_copied] at added
  rw [outcome_placeCopy]
  refine ⟨_, added, fun id yields => ?_⟩
  simp only at yields
  rw [yields]
  rfl

theorem drawId_issues (journal : Journal desk) :
    Issues journal (Work.outside desk.drawId) fun id ids => ids = [id] := by
  intro state
  refine ⟨_, issued_append journal (journal.drawId state.world), ?_⟩
  rintro _ ⟨rfl⟩
  rfl

theorem submission_issues (journal : Journal desk) (caller : Identity)
    (request : ComposeRequest) :
    Issues journal (desk.submission caller request) fun placed ids => ids = [placed.1] :=
  .after (ordering_keeps journal caller request) fun order =>
    .issue (place_issues journal order) fun _ => .dated fun _ => rfl

theorem copying_issues (journal : Journal desk) (caller : Identity) (composeId : Uuid)
    (request : CloneRequest) :
    Issues journal (desk.copying caller composeId request) fun placed ids =>
      ids = [placed.1] :=
  .after (sharing_keeps journal caller composeId request) fun _ =>
    .issue (placeCopy_issues journal composeId _) fun _ => .dated fun _ => rfl

/-- A new blueprint takes an identifier for itself and one for its version. -/
theorem creation_issues (journal : Journal desk) (caller : Identity)
    (request : BlueprintRequest) :
    Issues journal (desk.creation caller request) fun planned ids =>
      ∃ id versionId draft, planned.1 = writeOf caller id versionId draft ∧
        ids = [id, versionId] :=
  .after (drafting_keeps journal request) fun draft =>
    .issue (drawId_issues journal) fun id => .issue (drawId_issues journal) fun versionId =>
      .dated fun _ => ⟨id, versionId, draft, rfl, rfl⟩

/-- A new version of a blueprint takes an identifier for itself. -/
theorem revision_issues (journal : Journal desk) (caller : Identity) (id : Uuid)
    (request : BlueprintRequest) :
    Issues journal (desk.revision caller id request) fun planned ids =>
      ∃ versionId draft, planned.1 = writeOf caller id versionId draft ∧ ids = [versionId] :=
  .after (draftUpdate_keeps journal caller id request) fun draft =>
    .issue (drawId_issues journal) fun versionId => .dated fun _ => ⟨versionId, draft, rfl, rfl⟩

end Desk

end ComposeDesk
