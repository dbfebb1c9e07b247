import Mathlib.Data.List.Forall2
import ComposeDesk.Proofs.Submission

/-!
# Atomicity of failures

An operation that fails leaves the store as it was.  Only composing a blueprint
may get part of the way: then its images were submitted up to the one that was
not accepted, and nothing was done for those after it.
-/

namespace ComposeDesk

variable {σ : Type}

namespace BlueprintEntry

/-- A compose of an image of the version, as it is remembered. -/
def HasCompose (caller : Identity) (entry : BlueprintEntry) (body : BlueprintBody)
    (image : ImageRequest) (row : ComposeRow) : Prop :=
  ∃ id now, row = .ofRequest caller (Desk.blueprintRequest entry body image)
    (some entry.versionId) id now

/-- An order that was placed for an image of the version, with the answer to it. -/
def HasOrder (desk : Desk σ) (caller : Identity) (entry : BlueprintEntry) (body : BlueprintBody)
    (image : ImageRequest) (placed : Build.Order × Except ServiceFault Reply) : Prop :=
  ∃ (before : DeskState σ)
    (admission : Admission desk caller (Desk.blueprintRequest entry body image) before),
    placed = (admission.order, admission.answer)

end BlueprintEntry

namespace Desk

variable {desk : Desk σ} {caller : Identity}

/-- What is planned and written in one go is all or nothing. -/
theorem commit_atomic {α β γ : Type} {plan : Work σ β}
    {write : β → Store → Except StoreFault (Store × γ)} {answer : β → γ → α}
    (keeps : Keeps DeskState.store plan) {state left : DeskState σ} {error : Error}
    (failed : outcome (Work.commit plan write answer) state = (.error error, left)) :
    left.store = state.store := by
  rcases Work.commit_cases write answer keeps state with
    ⟨told, kept, done, same⟩ | ⟨planned, kept, next, written, -, -, done⟩
  · rw [failed] at done
    cases done
    exact same
  · rw [failed] at done
    cases done

theorem composeFor_atomic {request : ComposeRequest} {versionId : Option Uuid}
    {state left : DeskState σ} {error : Error}
    (failed : outcome (desk.composeFor caller request versionId) state = (.error error, left)) :
    left.store = state.store := by
  rcases composeFor_cases desk caller request versionId state with
    ⟨told, kept, done, same⟩ | ⟨id, now, kept, done, -, -⟩
  · rw [failed] at done
    cases done
    exact same
  · rw [failed] at done
    cases done

theorem perform_atomic {operation : Operation} {state left : DeskState σ} {error : Error}
    (single : ∀ id selection, operation ≠ .composeBlueprint id selection)
    (failed : outcome (desk.perform caller operation) state = (.error error, left)) :
    left.store = state.store := by
  by_cases looks : operation.isReading = true
  · have kept := perform_keeps_store desk caller looks state
    rw [failed] at kept
    exact kept
  · cases operation with
    | compose request => exact composeFor_atomic (outcome_map_eq_error failed)
    | deleteCompose id =>
        have failed := outcome_map_eq_error failed
        rw [deleteCompose_eq_commit] at failed
        exact commit_atomic (.pure _) failed
    | cloneCompose id request =>
        have failed := outcome_map_eq_error failed
        rw [cloneCompose_eq_commit] at failed
        exact commit_atomic (copying_keeps desk caller id request) failed
    | createBlueprint request =>
        have failed := outcome_map_eq_error failed
        rw [createBlueprint_eq_commit] at failed
        exact commit_atomic (creation_keeps desk caller request) failed
    | updateBlueprint id request =>
        have failed := outcome_map_eq_error failed
        rw [updateBlueprint_eq_commit] at failed
        exact commit_atomic (revision_keeps desk caller id request) failed
    | deleteBlueprint id =>
        have failed := outcome_map_eq_error failed
        rw [deleteBlueprint_eq_commit] at failed
        exact commit_atomic (.pure _) failed
    | composeBlueprint id selection => exact absurd rfl (single id selection)
    | composes | composeStatus | composeMetadata | clones | cloneStatus | getBlueprint
    | exportBlueprint | blueprints | blueprintComposes => exact absurd rfl looks

section Images

variable (journal : Journal desk) {entry : BlueprintEntry} {body : BlueprintBody}
  {state left : DeskState σ}

variable (caller entry body) in
/-- At most one order is placed for an image, and one if it is accepted. -/
theorem image_placed (image : ImageRequest) (versionId : Option Uuid) (state : DeskState σ) :
    ∃ orders,
      journal.placed (outcome (desk.composeFor caller (blueprintRequest entry body image)
          versionId) state).2.world = journal.placed state.world ++ orders ∧
        orders.length ≤ 1 ∧ (∀ placed ∈ orders, entry.HasOrder desk caller body image placed) ∧
          ∀ created, (outcome (desk.composeFor caller (blueprintRequest entry body image)
            versionId) state).1 = .ok created → orders.length = 1 := by
  rw [composeFor_world]
  rcases submission_cases journal caller (blueprintRequest entry body image) state with
    ⟨error, left, refused, same⟩ | ⟨admission, added, -⟩
  · refine ⟨[], by rw [refused, List.append_nil, same], by simp, by simp, ?_⟩
    rintro ⟨id⟩ accepted
    obtain ⟨metrics, counted⟩ := outcome_composeFor desk caller
      (blueprintRequest entry body image) versionId state
    rw [counted] at accepted
    have told := (submit_ok_iff.mp accepted).1
    rw [refused] at told
    cases told
  · refine ⟨_, added, Nat.le_refl 1, ?_, fun _ _ => rfl⟩
    intro placed member
    exact ⟨state, admission, List.mem_singleton.mp member⟩

/-- An image that is accepted was ordered once and is remembered. -/
theorem image_ok {image : ImageRequest} {created : Created}
    (done : outcome (desk.composeFor caller (blueprintRequest entry body image)
      (some entry.versionId)) state = (.ok created, left)) :
    ∃ row placed, left.store = { state.store with composes := state.store.composes ++ [row] } ∧
      created.id = row.id ∧ entry.HasCompose caller body image row ∧
      journal.placed left.world = journal.placed state.world ++ [placed] ∧
      entry.HasOrder desk caller body image placed := by
  obtain ⟨orders, added, -, each, accepted⟩ := image_placed caller journal entry body
    image (some entry.versionId) state
  rw [done] at added accepted
  obtain ⟨placed, rfl⟩ := List.length_eq_one_iff.mp (accepted created rfl)
  rcases composeFor_cases desk caller (blueprintRequest entry body image)
      (some entry.versionId) state with
    ⟨error, kept, failed, -⟩ | ⟨id, now, kept, succeeded, -, stored⟩
  · rw [done] at failed
    cases failed
  · rw [done] at succeeded
    cases succeeded
    exact ⟨_, placed, stored, rfl, ⟨id, now, rfl⟩, added, each placed (List.mem_singleton_self _)⟩

/-- Images that are all accepted were ordered one by one and are remembered in
their order. -/
theorem submitAll_ok {images : List ImageRequest} {created : List Created}
    (done : outcome (desk.submitAll caller entry body images) state = (.ok created, left)) :
    ∃ rows orders, left.store = { state.store with composes := state.store.composes ++ rows } ∧
      created.map (·.id) = rows.map (·.id) ∧
      images.Forall₂ (entry.HasCompose caller body) rows ∧
      journal.placed left.world = journal.placed state.world ++ orders ∧
      images.Forall₂ (entry.HasOrder desk caller body) orders := by
  induction images generalizing state created with
  | nil =>
      cases done
      exact ⟨[], [], by simp, rfl, .nil, by simp, .nil⟩
  | cons image rest ih =>
      unfold submitAll at done
      rw [List.mapM_cons] at done
      obtain ⟨first, middle, accepted, following⟩ := outcome_bind_eq_ok done
      obtain ⟨others, last, succeeded, told⟩ := outcome_bind_eq_ok following
      cases told
      obtain ⟨row, placed, stored, same, remembered, added, ordered⟩ := image_ok journal accepted
      obtain ⟨rows, orders, storedAll, sameAll, rememberedAll, addedAll, orderedAll⟩ :=
        ih succeeded
      refine ⟨row :: rows, placed :: orders, ?_, ?_, .cons remembered rememberedAll, ?_,
        .cons ordered orderedAll⟩
      · rw [storedAll, stored, List.append_assoc]
        rfl
      · rw [List.map_cons, List.map_cons, same, sameAll]
      · rw [addedAll, added, List.append_assoc]
        rfl

end Images

/-- The first image that is not accepted ends it; those before it were
accepted. -/
theorem submitAll_error {entry : BlueprintEntry} {body : BlueprintBody}
    {images : List ImageRequest} {state left : DeskState σ} {error : Error}
    (failed : outcome (desk.submitAll caller entry body images) state = (.error error, left)) :
    ∃ done image rest created middle, images = done ++ image :: rest ∧
      outcome (desk.submitAll caller entry body done) state = (.ok created, middle) ∧
      outcome (desk.composeFor caller (blueprintRequest entry body image)
        (some entry.versionId)) middle = (.error error, left) := by
  induction images generalizing state with
  | nil => cases failed
  | cons image rest ih =>
      unfold submitAll at failed
      rw [List.mapM_cons] at failed
      rcases outcome_bind_eq_error failed with first | ⟨created, middle, accepted, following⟩
      · exact ⟨[], image, rest, [], state, rfl, rfl, first⟩
      · rcases outcome_bind_eq_error following with others | ⟨more, last, -, impossible⟩
        · obtain ⟨done, failing, after, ids, final, same, succeeded, told⟩ := ih others
          refine ⟨image :: done, failing, after, created :: ids, final, ?_, ?_, told⟩
          · rw [same, List.cons_append]
          · unfold submitAll
            rw [List.mapM_cons, outcome_bind_ok accepted]
            exact outcome_bind_ok succeeded _
        · cases impossible

/-- An operation that fails leaves the store as it was, and one that only looks
always does.  Composing a blueprint either does nothing for lack of images, or
submits the selected images of the latest version in their order up to the
first that is not accepted, whose error it tells. -/
theorem atomicity (journal : Journal desk) (caller : Identity) (state : DeskState σ) :
    (∀ operation error, (∀ id selection, operation ≠ .composeBlueprint id selection) →
      (outcome (desk.perform caller operation) state).1 = .error error →
        (outcome (desk.perform caller operation) state).2.store = state.store) ∧
    (∀ operation : Operation, operation.isReading = true →
      (outcome (desk.perform caller operation) state).2.store = state.store) ∧
    (∀ id selection created left,
      outcome (desk.composeBlueprint caller id selection) state = (.ok created, left) →
        ∃ entry body rows orders,
          state.store.getBlueprint id caller.org none = .ok entry ∧
          storedBody entry = .ok body ∧
          left.store = { state.store with composes := state.store.composes ++ rows } ∧
          (body.imageRequests.filter (isSelected selection)).Forall₂
            (entry.HasCompose caller body) rows ∧
          created.map (·.id) = rows.map (·.id) ∧
          journal.placed left.world = journal.placed state.world ++ orders ∧
          (body.imageRequests.filter (isSelected selection)).Forall₂
            (entry.HasOrder desk caller body) orders) ∧
    (∀ id selection error left,
      outcome (desk.composeBlueprint caller id selection) state = (.error error, left) →
        (left.store = state.store ∧ journal.placed left.world = journal.placed state.world ∧
          ∀ entry body, state.store.getBlueprint id caller.org none = .ok entry →
            storedBody entry = .ok body → body.imageRequests.filter (isSelected selection) = []) ∨
        ∃ entry body done image rest rows orders last middle,
          state.store.getBlueprint id caller.org none = .ok entry ∧
          storedBody entry = .ok body ∧
          body.imageRequests.filter (isSelected selection) = done ++ image :: rest ∧
          left.store = { state.store with composes := state.store.composes ++ rows } ∧
          done.Forall₂ (entry.HasCompose caller body) rows ∧
          journal.placed left.world = journal.placed state.world ++ orders ++ last ∧
          done.Forall₂ (entry.HasOrder desk caller body) orders ∧
          last.length ≤ 1 ∧ (∀ placed ∈ last, entry.HasOrder desk caller body image placed) ∧
          outcome (desk.composeFor caller (blueprintRequest entry body image)
            (some entry.versionId)) middle = (.error error, left)) := by
  refine ⟨?single, ?reading, ?all, ?part⟩
  case single =>
    intro operation error single failed
    have stopped : outcome (desk.perform caller operation) state =
        (.error error, (outcome (desk.perform caller operation) state).2) := Prod.ext failed rfl
    exact perform_atomic single stopped
  case reading =>
    intro operation reading
    exact perform_keeps_store desk caller reading state
  case all =>
    intro id selection created left done
    rw [composeBlueprint_eq] at done
    obtain ⟨⟨⟨entry, body⟩, images⟩, middle, chosen, submitted⟩ := outcome_bind_eq_ok done
    obtain ⟨rfl, found, stored, rfl, -⟩ := choosing_ok chosen
    obtain ⟨rows, orders, added, same, remembered, placed, ordered⟩ :=
      submitAll_ok journal submitted
    exact ⟨entry, body, rows, orders, found, stored, added, remembered, same, placed, ordered⟩
  case part =>
    intro id selection error left failed
    rw [composeBlueprint_eq] at failed
    rcases outcome_bind_eq_error failed with
      refused | ⟨⟨⟨entry, body⟩, images⟩, before, chosen, submitted⟩
    · have kept := choosing_keeps journal caller id selection
      have store := kept.store_eq state
      have events := kept.part_eq state
      rw [refused] at store events
      refine .inl ⟨store, placed_eq journal events, fun entry body found stored => ?_⟩
      by_contra some
      rw [outcome_choosing found stored some] at refused
      cases refused
    · obtain ⟨rfl, found, stored, rfl, -⟩ := choosing_ok chosen
      obtain ⟨done, image, rest, created, middle, same, succeeded, told⟩ :=
        submitAll_error submitted
      obtain ⟨rows, orders, added, -, remembered, placed, ordered⟩ :=
        submitAll_ok journal succeeded
      obtain ⟨last, placedLast, few, each, -⟩ := image_placed caller
        journal entry body image (some entry.versionId) middle
      rw [told] at placedLast
      refine .inr ⟨entry, body, done, image, rest, rows, orders, last, middle, found, stored,
        same, ?_, remembered, ?_, ordered, few, each, told⟩
      · rw [composeFor_atomic told, added]
      · rw [placedLast, placed]

end Desk

end ComposeDesk
