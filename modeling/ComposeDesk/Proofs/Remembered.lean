import ComposeDesk.Proofs.Store.Legible
import ComposeDesk.Proofs.Watching
import ComposeDesk.Proofs.Writing

/-!
# What runs leave in the store

A run from the empty store leaves one that can be read.  Each compose in it was
asked for by a call of the run, and one that was answered for stays with the
request of its call.
-/

namespace ComposeDesk

variable {σ : Type} {desk : Desk σ}

namespace Desk

/-- All that an operation does to the store is a sequence of changes, for what
its caller asked. -/
theorem perform_changes (desk : Desk σ) (caller : Identity) (operation : Operation)
    (state : DeskState σ) :
    ∃ ids, Store.Changes caller (operation.Asks state.store caller) ids state.store
      (outcome (desk.perform caller operation) state).2.store := by
  -- The changes are those of the watched desk, which needs no journal to be given.
  have watched : DeskState.Related .same Eq Beside state
      ⟨state.store, state.metrics, (state.world, [])⟩ := ⟨rfl, rfl, rfl⟩
  obtain ⟨-, same, -⟩ := perform_watched desk caller operation _ _ watched
  obtain ⟨ids, -, changes⟩ := perform_alters desk.watchedJournal caller operation
    ⟨state.store, state.metrics, (state.world, [])⟩
  rw [← same] at changes
  exact ⟨ids, changes⟩

theorem after_append (desk : Desk σ) (state : DeskState σ) (earlier later : List (Call σ)) :
    desk.after state (earlier ++ later) = desk.after (desk.after state earlier) later := by
  induction earlier generalizing state with
  | nil => rfl
  | cons call rest ih => exact ih (desk.serve state call).2

/-- What changes of the store keep, runs keep. -/
theorem after_keep {kept : Store → Prop}
    (keep : ∀ {caller asked ids store next}, Store.Changes caller asked ids store next →
      kept store → kept next)
    {state : DeskState σ} (held : kept state.store) (calls : List (Call σ)) :
    kept (desk.after state calls).store := by
  induction calls generalizing state with
  | nil => exact held
  | cons call rest ih =>
      obtain ⟨ids, changes⟩ := perform_changes desk call.caller call.operation
        { state with world := call.world }
      have next : kept (desk.serve state call).2.store := keep changes held
      exact ih next

theorem after_legible {state : DeskState σ} (legible : state.store.Legible)
    (calls : List (Call σ)) : (desk.after state calls).store.Legible :=
  after_keep Store.Changes.legible legible calls

theorem after_tells {state : DeskState σ} {org : String} {id : Uuid} {request : ComposeRequest}
    (told : state.store.Tells org id request) (calls : List (Call σ)) :
    (desk.after state calls).store.Tells org id request :=
  after_keep Store.Changes.tells told calls

/-- A call of a run asked for a compose of an organization. -/
def Asked (desk : Desk σ) (state : DeskState σ) (calls : List (Call σ)) (org : String)
    (request : ComposeRequest) : Prop :=
  ∃ earlier call later, calls = earlier ++ call :: later ∧ call.caller.org = org ∧
    call.operation.Asks (desk.after state earlier).store call.caller request

/-- What is stored of a compose after a run was stored before, or was asked for. -/
theorem after_of_fixed {state : DeskState σ} {calls : List (Call σ)}
    {part : Uuid × String × Json} (held : part ∈ (desk.after state calls).store.fixed) :
    part ∈ state.store.fixed ∨ ∃ request, desk.Asked state calls part.2.1 request ∧
      part.2.2 = ComposeRequest.codec.write request.redacted := by
  induction calls generalizing state with
  | nil => exact .inl held
  | cons call rest ih =>
      rcases ih held with soon | ⟨request, ⟨earlier, later, others, split, owner, asks⟩, document⟩
      · obtain ⟨ids, changes⟩ := perform_changes desk call.caller call.operation
          { state with world := call.world }
        rcases changes.of_fixed soon with before | ⟨request, asks, same⟩
        · exact .inl before
        · refine .inr ⟨request, ⟨[], call, rest, rfl, ?_, asks⟩, congrArg Prod.snd same⟩
          exact (congrArg Prod.fst same).symm
      · refine .inr ⟨request, ⟨call :: earlier, later, others, ?_, owner, asks⟩, document⟩
        rw [split, List.cons_append]

/-- A submission leaves what is told of other composes, and one that is accepted is
told of with its request. -/
theorem composeFor_tells (desk : Desk σ) (caller : Identity) (request : ComposeRequest)
    (versionId : Option Uuid) (state : DeskState σ) :
    (∀ org id wanted, state.store.Tells org id wanted →
      (outcome (desk.composeFor caller request versionId) state).2.store.Tells org id wanted) ∧
    ∀ created left,
      outcome (desk.composeFor caller request versionId) state = (.ok created, left) →
        left.store.Tells caller.org created.id request := by
  rcases composeFor_cases desk caller request versionId state with
    ⟨error, left, failed, kept⟩ | ⟨id, now, left, done, -, stored⟩
  · rw [failed]
    constructor
    · intro org id wanted told
      simp only [kept]
      exact told
    · rintro created _ ⟨⟩
  · rw [done]
    unfold Store.Tells Store.fixed
    constructor
    · intro org id wanted told
      simp only [stored, List.map_append]
      exact List.mem_append_left _ told
    · rintro created _ ⟨⟩
      simp only [stored, List.map_append]
      exact List.mem_append_right _ (List.mem_singleton_self _)

theorem submitAll_tells (desk : Desk σ) (caller : Identity) (entry : BlueprintEntry)
    (body : BlueprintBody) (images : List ImageRequest) (state : DeskState σ) :
    (∀ org id wanted, state.store.Tells org id wanted →
      (outcome (desk.submitAll caller entry body images) state).2.store.Tells org id wanted) ∧
    ∀ created left, outcome (desk.submitAll caller entry body images) state = (.ok created, left) →
      images.Forall₂ (fun image made =>
        left.store.Tells caller.org made.id (blueprintRequest entry body image)) created := by
  induction images generalizing state with
  | nil =>
      constructor
      · intro org id wanted told
        exact told
      · rintro created left ⟨⟩
        exact .nil
  | cons image rest ih =>
      have first := composeFor_tells desk caller (blueprintRequest entry body image)
        (some entry.versionId) state
      unfold submitAll at ih ⊢
      rw [List.mapM_cons]
      rcases done : outcome (desk.composeFor caller (blueprintRequest entry body image)
          (some entry.versionId)) state with ⟨error | made, middle⟩
      · rw [done] at first
        rw [outcome_bind_error done]
        exact ⟨first.1, by rintro created left ⟨⟩⟩
      · rw [done] at first
        rw [outcome_bind_ok done]
        obtain ⟨kept, answered⟩ := ih middle
        rcases more : outcome (rest.mapM fun image =>
            desk.composeFor caller (blueprintRequest entry body image) (some entry.versionId))
          middle with ⟨error | others, last⟩
        · rw [more] at kept
          rw [outcome_bind_error more]
          refine ⟨?_, by rintro created left ⟨⟩⟩
          intro org id wanted told
          exact kept org id wanted (first.1 org id wanted told)
        · rw [more] at kept
          rw [outcome_bind_ok more]
          constructor
          · intro org id wanted told
            exact kept org id wanted (first.1 org id wanted told)
          · rintro created left ⟨⟩
            exact .cons (kept _ _ _ (first.2 made middle rfl)) (answered others last more)

/-- A compose that is answered for is stored with its request. -/
theorem tells_of_compose {state : DeskState σ} {call : Call σ} {request : ComposeRequest}
    {created : Created} (operation : call.operation = .compose request)
    (answered : (desk.serve state call).1 = .ok (.created created)) :
    (desk.serve state call).2.store.Tells call.caller.org created.id request := by
  unfold serve at answered ⊢
  rw [operation, perform, outcome_map, compose] at answered ⊢
  have told := (composeFor_tells desk call.caller request none
    { state with world := call.world }).2
  rcases done : outcome (desk.composeFor call.caller request none)
      { state with world := call.world } with ⟨error | made, left⟩
  · rw [done] at answered
    cases answered
  · rw [done] at answered
    cases answered
    exact told _ left done

/-- Composes of a blueprint that are answered for are stored with the requests for
the images of the latest version, in their order. -/
theorem tells_of_composeBlueprint {state : DeskState σ} {call : Call σ} {id : Uuid}
    {selection : ImageSelection} {created : List Created}
    (operation : call.operation = .composeBlueprint id selection)
    (answered : (desk.serve state call).1 = .ok (.createdAll created)) :
    ∃ entry body, state.store.getBlueprint id call.caller.org none = .ok entry ∧
      storedBody entry = .ok body ∧
      (body.imageRequests.filter (isSelected selection)).Forall₂ (fun image made =>
        (desk.serve state call).2.store.Tells call.caller.org made.id
          (blueprintRequest entry body image)) created := by
  unfold serve at answered ⊢
  rw [operation, perform, outcome_map, composeBlueprint_eq] at answered ⊢
  rcases done : outcome (choosing call.caller id selection >>= fun chosen =>
      desk.submitAll call.caller chosen.1.1 chosen.1.2 chosen.2)
      { state with world := call.world } with ⟨error | made, left⟩
  · rw [done] at answered
    cases answered
  · rw [done] at answered
    cases answered
    obtain ⟨⟨⟨entry, body⟩, images⟩, middle, chosen, submitted⟩ := outcome_bind_eq_ok done
    obtain ⟨rfl, found, stored, rfl, -⟩ := choosing_ok chosen
    exact ⟨entry, body, found, stored,
      (submitAll_tells desk call.caller entry body _ _).2 created left submitted⟩

end Desk

end ComposeDesk
