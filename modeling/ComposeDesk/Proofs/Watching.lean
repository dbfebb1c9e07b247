import ComposeDesk.Proofs.Reading

/-!
# Watching changes nothing

A desk that is watched answers as the desk does, and leaves the same store and
the same world, beside a list of events.  So whatever a journal tells of
watched desks, it tells of all desks.
-/

namespace ComposeDesk

variable {σ τ ε α β γ : Type} {meters : Meters} {worlds : σ → τ → Prop}

/-- The same write on the same store comes to the same. -/
theorem Work.commit_agree_eq {plan : Work σ β} {other : Work τ β}
    (agree : Agree (DeskState.Related meters Eq worlds) plan other)
    (write : β → Store → Except StoreFault (Store × γ)) (answer : β → γ → α) :
    Agree (DeskState.Related meters Eq worlds) (commit plan write answer)
      (commit other write answer) := by
  refine Work.commit_agree (.of_agree agree) ?_ ?_
  · rintro planned _ rfl store _ rfl
    exact .refl (fun _ => ⟨rfl, rfl⟩) _
  · rintro planned _ rfl _
    rfl

theorem Store.views_eq (org : String) : Store.Views Eq org where
  countComposes same _ _ := by rw [same]
  activeComposes same _ _ := by rw [same]
  getCompose same _ := by rw [same]
  clonesOf same _ := by rw [same]
  getClone same _ := by rw [same]
  getBlueprint same _ _ := by rw [same]
  findBlueprints same _ := by rw [same]

namespace Desk

variable {desk : Desk σ} {other : Desk τ}

theorem composeFor_agree (alike : desk.Alike worlds other) (acts : desk.ActsAlike worlds other)
    (caller : Identity) (request : ComposeRequest) (versionId : Option Uuid) :
    Agree (DeskState.Related meters Eq worlds) (desk.composeFor caller request versionId)
      (other.composeFor caller request versionId) := by
  refine composeFor_agree_of ?_
  rw [submit_eq_commit, submit_eq_commit]
  exact Work.commit_agree_eq
    (submission_agree (Store.views_eq _).toLists alike.toAsksAlike acts request) _ _

/-- Desks whose services answer alike do all the same. -/
theorem perform_agree_eq (alike : desk.Alike worlds other) (acts : desk.ActsAlike worlds other)
    (caller : Identity) (operation : Operation) :
    Agree (DeskState.Related meters Eq worlds) (desk.perform caller operation)
      (other.perform caller operation) := by
  have views := Store.views_eq caller.org
  by_cases looks : operation.isReading = true
  · exact perform_agree views alike.toAsksAlike looks
  · cases operation with
    | compose request => exact (composeFor_agree alike acts caller request none).map _
    | deleteCompose id =>
        refine Agree.map ?_ _
        rw [deleteCompose_eq_commit, deleteCompose_eq_commit]
        exact Work.commit_agree_eq (.pure _) _ _
    | cloneCompose id request =>
        refine Agree.map ?_ _
        rw [cloneCompose_eq_commit, cloneCompose_eq_commit]
        exact Work.commit_agree_eq
          (copying_agree views.toLists alike.toAsksAlike acts id request) _ _
    | createBlueprint request =>
        refine Agree.map ?_ _
        rw [createBlueprint_eq_commit, createBlueprint_eq_commit]
        exact Work.commit_agree_eq (creation_agree alike acts request) _ _
    | updateBlueprint id request =>
        refine Agree.map ?_ _
        rw [updateBlueprint_eq_commit, updateBlueprint_eq_commit]
        exact Work.commit_agree_eq (revision_agree views alike acts id request) _ _
    | deleteBlueprint id =>
        refine Agree.map ?_ _
        rw [deleteBlueprint_eq_commit, deleteBlueprint_eq_commit]
        exact Work.commit_agree_eq (.pure _) _ _
    | composeBlueprint id selection =>
        refine Agree.map ?_ _
        rw [composeBlueprint_eq, composeBlueprint_eq]
        exact .bind (choosing_agree views id selection) fun chosen =>
          .mapM (fun image => composeFor_agree alike acts caller _ _) _
    | composes | composeStatus | composeMetadata | clones | cloneStatus | getBlueprint
    | exportBlueprint | blueprints | blueprintComposes => exact absurd rfl looks

/-- A world, and the same world beside a list of events. -/
def Beside (world : σ) (watched : σ × List Event) : Prop :=
  world = watched.1

theorem noted_concur (note : α → List Event) (act : StateM σ α) :
    Concur Beside act (noted note act) := by
  rintro world ⟨_, events⟩ rfl
  exact ⟨rfl, rfl⟩

theorem notedAct_agree (note : Except ε α → List Event) (act : Act σ ε α) :
    Agree Beside act (notedAct note act) := by
  rintro world ⟨_, events⟩ rfl
  exact ⟨rfl, rfl⟩

/-- What a desk does is what it does while it is watched. -/
theorem perform_watched (desk : Desk σ) (caller : Identity) (operation : Operation) :
    Agree (DeskState.Related meters Eq Beside) (desk.perform caller operation)
      (desk.watched.perform caller operation) := by
  refine perform_agree_eq ?_ ?_ caller operation
  · exact {
      services := ⟨fun _ _ => notedAct_agree _ _, fun _ _ _ _ => notedAct_agree _ _,
        fun _ _ _ => notedAct_agree _ _, fun _ _ _ _ => notedAct_agree _ _⟩
      registry := rfl
      quotas := rfl
      uploads := rfl
      now := noted_concur _ _
      crypt := fun _ => noted_concur _ _
      composeStatus := fun _ => notedAct_agree _ _
      composeMetadata := fun _ => notedAct_agree _ _
      cloneStatus := fun _ => notedAct_agree _ _ }
  · exact ⟨noted_concur _ _, fun _ => notedAct_agree _ _, fun _ _ => notedAct_agree _ _⟩

end Desk

end ComposeDesk
