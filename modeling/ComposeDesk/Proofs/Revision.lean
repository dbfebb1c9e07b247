import ComposeDesk.Proofs.Writing

/-!
# What becomes of blueprints

Of all operations three change blueprints and versions: making, updating and
removing a blueprint.  One inversion says what each of them drafted and wrote, and
that all others leave blueprints and versions as they are.
-/

namespace ComposeDesk

variable {σ α β γ : Type}

/-- Whether an operation is about to change blueprints. -/
def Operation.isRevising : Operation → Bool
  | .createBlueprint _ | .updateBlueprint _ _ | .deleteBlueprint _ => true
  | _ => false

/-- The blueprints and the versions of them. -/
def Store.shelf (store : Store) : List BlueprintRow × List VersionRow :=
  (store.blueprints, store.versions)

def DeskState.shelf (state : DeskState σ) : List BlueprintRow × List VersionRow :=
  state.store.shelf

namespace Desk

variable {desk : Desk σ} {caller : Identity}

/-- A new blueprint is drafted under the name that is asked for, which shows. -/
theorem drafting_titled {request : BlueprintRequest} {state left : DeskState σ}
    {draft : BlueprintDraft}
    (done : outcome (desk.drafting request) state = (.ok draft, left)) :
    checkName request.name = .ok () ∧ draft.name = request.name ∧
      draft.description = request.description := by
  obtain ⟨_, named, name, rest⟩ := outcome_bind_eq_ok done
  obtain ⟨passed, rfl⟩ := Work.of_ok name
  obtain ⟨_, checked, users, crypted⟩ := outcome_bind_eq_ok rest
  cases crypted
  exact ⟨passed, rfl, rfl⟩

/-- An update is drafted under the name that is asked for too. -/
theorem draftUpdate_titled {id : Uuid} {request : BlueprintRequest} {state left : DeskState σ}
    {draft : BlueprintDraft}
    (done : outcome (desk.draftUpdate caller id request) state = (.ok draft, left)) :
    checkName request.name = .ok () ∧ draft.name = request.name ∧
      draft.description = request.description := by
  obtain ⟨_, named, name, toEntry⟩ := outcome_bind_eq_ok done
  obtain ⟨passed, rfl⟩ := Work.of_ok name
  obtain ⟨entry, looked, -, toBody⟩ := outcome_bind_eq_ok toEntry
  obtain ⟨stored, read, -, toMerge⟩ := outcome_bind_eq_ok toBody
  obtain ⟨merged, joined, -, crypted⟩ := outcome_bind_eq_ok toMerge
  cases crypted
  exact ⟨passed, rfl, rfl⟩

/-- What is written of a new blueprint is its draft. -/
theorem creation_ok {request : BlueprintRequest} {state left : DeskState σ}
    {write : BlueprintWrite} {now : Timestamp}
    (done : outcome (desk.creation caller request) state = (.ok (write, now), left)) :
    ∃ draft middle id versionId, outcome (desk.drafting request) state = (.ok draft, middle) ∧
      write = writeOf caller id versionId draft := by
  obtain ⟨draft, middle, drafted, toId⟩ := outcome_bind_eq_ok done
  cases toId
  exact ⟨draft, middle, _, _, drafted, rfl⟩

/-- What is written of an update is its draft. -/
theorem revision_ok {id : Uuid} {request : BlueprintRequest} {state left : DeskState σ}
    {write : BlueprintWrite} {now : Timestamp}
    (done : outcome (desk.revision caller id request) state = (.ok (write, now), left)) :
    ∃ draft middle versionId,
      outcome (desk.draftUpdate caller id request) state = (.ok draft, middle) ∧
        write = writeOf caller id versionId draft := by
  obtain ⟨draft, middle, drafted, toId⟩ := outcome_bind_eq_ok done
  cases toId
  exact ⟨draft, middle, _, drafted, rfl⟩

theorem composeFor_keeps_shelf (desk : Desk σ) (caller : Identity) (request : ComposeRequest)
    (versionId : Option Uuid) :
    Keeps DeskState.shelf (desk.composeFor caller request versionId) := by
  intro state
  rcases composeFor_cases desk caller request versionId state with
    ⟨error, left, failed, kept⟩ | ⟨id, now, left, done, -, stored⟩
  · rw [failed]
    exact congrArg Store.shelf kept
  · rw [done, DeskState.shelf, stored]
    rfl

theorem composeBlueprint_keeps_shelf (desk : Desk σ) (caller : Identity) (id : Uuid)
    (selection : ImageSelection) :
    Keeps DeskState.shelf (desk.composeBlueprint caller id selection) := by
  rw [composeBlueprint_eq]
  refine .bind (fun state => congrArg Store.shelf (choosing_keeps_store caller id selection state))
    fun chosen => ?_
  exact .mapM (fun image => composeFor_keeps_shelf desk caller _ _) _

/-- What an operation does to blueprints and versions, given what it answers. -/
inductive Revises (desk : Desk σ) (caller : Identity) (state : DeskState σ) :
    Operation → Except Error Operation.Answer → Store → Prop where
  | kept {operation : Operation} {answer : Except Error Operation.Answer} {next : Store}
      (other : operation.isRevising = false) (same : next.shelf = state.store.shelf) :
      Revises desk caller state operation answer next
  | failed {operation : Operation} {error : Error} {next : Store}
      (same : next = state.store) : Revises desk caller state operation (.error error) next
  | created {request : BlueprintRequest} {draft : BlueprintDraft} {left : DeskState σ}
      {id versionId : Uuid} {now : Timestamp} {next : Store}
      (drafted : outcome (desk.drafting request) state = (.ok draft, left))
      (inserted : state.store.insertBlueprint (writeOf caller id versionId draft) now = .ok next) :
      Revises desk caller state (.createBlueprint request) (.ok (.created ⟨id⟩)) next
  | updated {id : Uuid} {request : BlueprintRequest} {draft : BlueprintDraft}
      {left : DeskState σ} {versionId : Uuid} {now : Timestamp} {next : Store} {number : Nat}
      (drafted : outcome (desk.draftUpdate caller id request) state = (.ok draft, left))
      (written : state.store.updateBlueprint (writeOf caller id versionId draft) now =
        .ok (next, number)) :
      Revises desk caller state (.updateBlueprint id request) (.ok (.created ⟨id⟩)) next
  | removed {id : Uuid} {next : Store}
      (deleted : state.store.deleteBlueprint id caller.org caller.account = .ok next) :
      Revises desk caller state (.deleteBlueprint id) (.ok .done) next

/-- An operation that plans and writes does what its write does, if anything. -/
theorem commit_revises {plan : Work σ β} {write : β → Store → Except StoreFault (Store × γ)}
    {answer : β → γ → α} {operation : Operation} {state : DeskState σ}
    {told : α → Operation.Answer} (keeps : Keeps DeskState.store plan)
    (revises : ∀ planned left next written, outcome plan state = (.ok planned, left) →
      write planned state.store = .ok (next, written) →
        Revises desk caller state operation (.ok (told (answer planned written))) next) :
    Revises desk caller state operation
      (outcome (told <$> Work.commit plan write answer) state).1
      (outcome (told <$> Work.commit plan write answer) state).2.store := by
  rw [outcome_map]
  rcases Work.commit_cases write answer keeps state with
    ⟨error, left, failed, same⟩ | ⟨planned, left, next, written, ready, wrote, done⟩
  · rw [failed]
    exact .failed same
  · rw [done]
    exact revises planned left next written ready wrote

theorem perform_revises (desk : Desk σ) (caller : Identity) (operation : Operation)
    (state : DeskState σ) :
    Revises desk caller state operation (outcome (desk.perform caller operation) state).1
      (outcome (desk.perform caller operation) state).2.store := by
  by_cases looks : operation.isReading = true
  · refine .kept ?_ (congrArg Store.shelf (perform_keeps_store desk caller looks state))
    cases operation <;> first | rfl | cases looks
  · cases operation with
    | compose request =>
        refine .kept rfl ?_
        rw [perform, outcome_map]
        exact composeFor_keeps_shelf desk caller request none state
    | deleteCompose id =>
        rw [perform, deleteCompose_eq_commit]
        refine commit_revises (.pure _) fun _ _ next _ _ written => .kept rfl ?_
        obtain ⟨-, rfl⟩ := Store.deleteCompose_ok (silently_ok written)
        rfl
    | cloneCompose id request =>
        rw [perform, cloneCompose_eq_commit]
        refine commit_revises (copying_keeps desk caller id request)
          fun _ _ next _ _ written => .kept rfl ?_
        obtain ⟨-, rfl⟩ := Store.insertClone_ok (silently_ok written)
        rfl
    | createBlueprint request =>
        rw [perform, createBlueprint_eq_commit]
        refine commit_revises (creation_keeps desk caller request) ?_
        rintro ⟨write, now⟩ left next _ planned written
        obtain ⟨draft, middle, id, versionId, drafted, rfl⟩ := creation_ok planned
        exact .created drafted (silently_ok written)
    | updateBlueprint id request =>
        rw [perform, updateBlueprint_eq_commit]
        refine commit_revises (revision_keeps desk caller id request) ?_
        rintro ⟨write, now⟩ left next number planned written
        obtain ⟨draft, middle, versionId, drafted, rfl⟩ := revision_ok planned
        exact .updated drafted written
    | deleteBlueprint id =>
        rw [perform, deleteBlueprint_eq_commit]
        refine commit_revises (.pure _) fun _ _ next _ _ written => ?_
        exact .removed (silently_ok written)
    | composeBlueprint id selection =>
        refine .kept rfl ?_
        rw [perform, outcome_map]
        exact composeBlueprint_keeps_shelf desk caller id selection state
    | composes | composeStatus | composeMetadata | clones | cloneStatus | getBlueprint
    | exportBlueprint | blueprints | blueprintComposes => exact absurd rfl looks

end Desk

end ComposeDesk
