import ComposeDesk.Proofs.Store.Own
import ComposeDesk.Proofs.Writing

/-!
# Identifiers that a caller does not know

An identifier is unknown to an organization if no row of the organization has
it.  Whatever is asked of such an identifier, the answer is the same for all of
them, whether they are those of others or of nobody.
-/

namespace ComposeDesk

namespace Store

variable {store : Store} {org other : String} {id : Uuid}

/-- An identifier is that of a row of an organization. -/
def Owned (store : Store) (org : String) (id : Uuid) : Prop :=
  id ∈ (store.only org).ids

/-- Rows that are kept by one of two filters at most are counted once. -/
theorem count_filter_add_le {α : Type} (key : α → Uuid) (first second : α → Bool)
    (apart : ∀ row, first row = true → second row = false) (rows : List α) (id : Uuid) :
    ((rows.filter first).map key).count id + ((rows.filter second).map key).count id ≤
      (rows.map key).count id := by
  induction rows with
  | nil => simp
  | cons row rest ih =>
      cases kept : first row with
      | false =>
          cases held : second row <;>
            simp only [List.filter_cons, kept, held, List.map_cons, List.count_cons, if_true,
              Bool.false_eq_true, if_false] <;> omega
      | true =>
          have gone := apart row kept
          simp only [List.filter_cons, kept, gone, List.map_cons, List.count_cons, if_true,
            Bool.false_eq_true, if_false]
          omega

/-- Nobody owns a row of another organization. -/
theorem not_owned_of_other (sound : store.Sound) (apart : other ≠ org)
    (owned : store.Owned other id) : ¬ store.Owned org id := by
  intro mine
  have once := List.nodup_iff_count.mp sound.unique id
  have composes := count_filter_add_le (·.id)
    (fun row : ComposeRow => row.org = other) (fun row => row.org = org)
    (fun row held => by
      rw [of_decide_eq_true held]
      exact decide_eq_false apart) store.composes id
  have clones := count_filter_add_le (·.id)
    (fun row : CloneRow => store.owns other row.composeId)
    (fun row => store.owns org row.composeId)
    (fun row held => by
      obtain ⟨parent, found, owner⟩ := owns_iff.mp held
      simp [owns, found, owner, apart]) store.clones id
  have blueprints := count_filter_add_le (·.id)
    (fun row : BlueprintRow => row.org = other) (fun row => row.org = org)
    (fun row held => by
      rw [of_decide_eq_true held]
      exact decide_eq_false apart) store.blueprints id
  have versions := count_filter_add_le (·.id)
    (fun row : VersionRow => store.holds other row.blueprintId)
    (fun row => store.holds org row.blueprintId)
    (fun row held => by
      obtain ⟨home, found, owner⟩ := holds_iff.mp held
      simp [holds, found, owner, apart]) store.versions id
  have theirs := List.count_pos_iff.mpr owned
  have ours := List.count_pos_iff.mpr mine
  rw [count_ids] at once theirs ours
  simp only [only] at theirs ours
  omega

/-- Nobody owns a row of no identifier. -/
theorem not_owned_of_new (new : id ∉ store.ids) : ¬ store.Owned org id := by
  intro owned
  refine new (mem_ids.mpr ?_)
  rcases mem_ids.mp owned with ⟨row, held, same⟩ | ⟨row, held, same⟩ | ⟨row, held, same⟩ |
    ⟨row, held, same⟩
  · exact .inl ⟨row, (List.mem_filter.mp held).1, same⟩
  · exact .inr (.inl ⟨row, (List.mem_filter.mp held).1, same⟩)
  · exact .inr (.inr (.inl ⟨row, (List.mem_filter.mp held).1, same⟩))
  · exact .inr (.inr (.inr ⟨row, (List.mem_filter.mp held).1, same⟩))

/-- What cannot be looked up cannot be deleted. -/
theorem deleteCompose_of_missing (missing : store.getCompose id org = .error (.notFound .compose)) :
    store.deleteCompose id org = .error (.notFound .compose) := by
  unfold getCompose at missing
  unfold deleteCompose
  split at missing
  · split at missing
    · cases missing
    · rename_i hidden
      simp only [hidden, Bool.false_eq_true, if_false]
  · rfl

section Unknown

variable (unknown : ¬ store.Owned org id)

include unknown

theorem compose?_of_unknown {row : ComposeRow} (found : store.compose? id = some row) :
    row.org ≠ org := by
  intro owned
  obtain ⟨held, same⟩ := compose?_mem found
  exact unknown (mem_ids.mpr
    (.inl ⟨row, List.mem_filter.mpr ⟨held, decide_eq_true owned⟩, same⟩))

theorem blueprint?_of_unknown {row : BlueprintRow} (found : store.blueprint? id = some row) :
    row.org ≠ org := by
  intro owned
  obtain ⟨held, same⟩ := blueprint?_mem found
  exact unknown (mem_ids.mpr
    (.inr (.inr (.inl ⟨row, List.mem_filter.mpr ⟨held, decide_eq_true owned⟩, same⟩))))

theorem getCompose_of_unknown : store.getCompose id org = .error (.notFound .compose) := by
  unfold getCompose
  rcases found : store.compose? id with _ | row
  · rfl
  · have theirs := compose?_of_unknown unknown found
    simp [isActive, theirs]

theorem clonesOf_of_unknown : store.clonesOf id org = [] := by
  unfold clonesOf owns
  rcases found : store.compose? id with _ | row
  · rfl
  · have theirs := compose?_of_unknown unknown found
    simp [theirs]

theorem getClone_of_unknown : store.getClone id org = .error (.notFound .clone) := by
  rcases found : store.getClone id org with fault | row
  · unfold getClone at found
    split at found <;> cases found
    rfl
  · obtain ⟨held, same, owned⟩ := getClone_ok found
    exact absurd (mem_ids.mpr (.inr (.inl ⟨row, List.mem_filter.mpr ⟨held, owned⟩, same⟩))) unknown

theorem getBlueprint_of_unknown (number : Option Int) :
    store.getBlueprint id org number = .error (.notFound .blueprint) := by
  unfold getBlueprint
  rcases found : store.blueprint? id with _ | row
  · rfl
  · have theirs := blueprint?_of_unknown unknown found
    simp [theirs]

theorem deleteBlueprint_of_unknown (account : String) :
    store.deleteBlueprint id org account = .error (.notFound .blueprint) := by
  have owned : store.ownsBlueprint id org account = false := by
    unfold ownsBlueprint
    rcases found : store.blueprint? id with _ | row
    · rfl
    · have theirs := blueprint?_of_unknown unknown found
      simp [theirs]
  rw [deleteBlueprint_eq, owned]
  rfl

end Unknown

end Store

namespace Desk

variable {σ : Type} {desk : Desk σ} {caller : Identity} {state : DeskState σ} {id : Uuid}

section Missing

variable (missing : state.store.getCompose id caller.org = .error (.notFound .compose))

include missing

theorem composeOf_of_missing :
    outcome (composeOf caller id : Work σ ComposeEntry) state =
      (.error (StoreFault.notFound .compose).error, state) := by
  simp only [composeOf, outcome_bind, Work.outcome_look, Work.outcome_check, missing,
    mapError_error]

theorem deleteCompose_of_missing :
    outcome (deleteCompose caller id : Work σ Unit) state =
      (.error (StoreFault.notFound .compose).error, state) := by
  rw [deleteCompose, Work.outcome_change, Store.deleteCompose_of_missing missing]
  rfl

theorem cloneCompose_of_missing (request : CloneRequest) :
    outcome (desk.cloneCompose caller id request) state =
      (.error (StoreFault.notFound .compose).error, state) := by
  have refused : outcome (allowClone caller id : Work σ Unit) state =
      (.error (StoreFault.notFound .compose).error, state) := by
    simp only [allowClone, outcome_bind, Work.outcome_look, Work.outcome_check,
      Store.composeImageType, missing]
    rfl
  exact outcome_bind_error refused _

end Missing

section Unknown

variable (unknown : ¬ state.store.Owned caller.org id)

include unknown

theorem blueprintOf_of_unknown (number : Option Int) :
    outcome (blueprintOf caller id number : Work σ BlueprintEntry) state =
      (.error (StoreFault.notFound .blueprint).error, state) := by
  simp only [blueprintOf, outcome_bind, Work.outcome_look, Work.outcome_check,
    Store.getBlueprint_of_unknown unknown, mapError_error]

theorem clones_of_unknown (range : Range) :
    outcome (clones caller id range : Work σ (List CloneItem × Nat)) state =
      (.ok ([], 0), state) := by
  rw [clones, outcome_bind_ok (Work.outcome_look _ _), Store.clonesOf_of_unknown unknown]
  simp only [Range.of, List.drop_nil, List.take_nil, List.length_nil]
  rfl

theorem cloneStatus_of_unknown :
    outcome (desk.cloneStatus caller id) state =
      (.error (StoreFault.notFound .clone).error, state) := by
  rw [cloneStatus, outcome_bind_ok (Work.outcome_look _ _)]
  refine outcome_bind_error ?_ _
  rw [Work.outcome_check, Store.getClone_of_unknown unknown]
  rfl

theorem deleteBlueprint_of_unknown :
    outcome (deleteBlueprint caller id : Work σ Unit) state =
      (.error (StoreFault.notFound .blueprint).error, state) := by
  rw [deleteBlueprint, Work.outcome_change, Store.deleteBlueprint_of_unknown unknown]
  rfl

end Unknown

/-- An update of an unknown blueprint fails, for its name or for lack of it. -/
theorem revision_of_unknown (desk : Desk σ) (caller : Identity) (request : BlueprintRequest)
    (state : DeskState σ) :
    ∃ error, ∀ id, ¬ state.store.Owned caller.org id →
      outcome (desk.revision caller id request) state = (.error error, state) := by
  rcases named : checkName request.name with error | ok
  · refine ⟨error, fun id _ => outcome_bind_error (outcome_bind_error ?_ _) _⟩
    rw [named]
    rfl
  · refine ⟨(StoreFault.notFound .blueprint).error, fun id unknown => outcome_bind_error ?_ _⟩
    rw [draftUpdate, named, outcome_bind_ok (Work.outcome_of _ _)]
    exact outcome_bind_error (blueprintOf_of_unknown unknown none) _

/-- All identifiers that the caller does not know get the same answer. -/
theorem perform_of_unknown (desk : Desk σ) (caller : Identity) (operation : Operation)
    (state : DeskState σ) :
    ∃ result, ∀ id, ¬ state.store.Owned caller.org id →
      outcome (desk.perform caller (operation.retarget id)) state = result := by
  have fixed (same : ∀ id, operation.retarget id = operation) : ∃ result, ∀ id,
      ¬ state.store.Owned caller.org id →
        outcome (desk.perform caller (operation.retarget id)) state = result :=
    ⟨outcome (desk.perform caller operation) state, fun id _ => by rw [same id]⟩
  cases operation with
  | compose | composes | createBlueprint | blueprints => exact fixed fun _ => rfl
  | composeStatus _ =>
      exact ⟨_, fun id unknown => outcome_map_error
        (outcome_bind_error (composeOf_of_missing (Store.getCompose_of_unknown unknown)) _) _⟩
  | composeMetadata _ =>
      exact ⟨_, fun id unknown => outcome_map_error
        (outcome_bind_error (composeOf_of_missing (Store.getCompose_of_unknown unknown)) _) _⟩
  | deleteCompose _ =>
      exact ⟨_, fun id unknown => outcome_map_error
        (deleteCompose_of_missing (Store.getCompose_of_unknown unknown)) _⟩
  | cloneCompose _ request =>
      exact ⟨_, fun id unknown => outcome_map_error
        (cloneCompose_of_missing (Store.getCompose_of_unknown unknown) request) _⟩
  | clones _ range =>
      refine ⟨(.ok (.clones [] 0), state), fun id unknown => ?_⟩
      refine (outcome_map _ _ _).trans ?_
      rw [clones_of_unknown unknown]
      rfl
  | cloneStatus _ =>
      exact ⟨_, fun id unknown => outcome_map_error (cloneStatus_of_unknown unknown) _⟩
  | getBlueprint _ number =>
      rcases read : requestedVersion number with error | chosen
      · have checked : outcome (Work.of (requestedVersion number) : Work σ _) state =
            (.error error, state) := Prod.ext read rfl
        exact ⟨_, fun id unknown => outcome_map_error (outcome_bind_error checked _) _⟩
      · have checked : outcome (Work.of (requestedVersion number) : Work σ _) state =
            (.ok chosen, state) := Prod.ext read rfl
        exact ⟨_, fun id unknown => outcome_map_error ((outcome_bind_ok checked _).trans
          (outcome_bind_error (blueprintOf_of_unknown unknown chosen) _)) _⟩
  | exportBlueprint _ =>
      exact ⟨_, fun id unknown => outcome_map_error
        (outcome_bind_error (blueprintOf_of_unknown unknown none) _) _⟩
  | updateBlueprint _ request =>
      obtain ⟨error, failed⟩ := revision_of_unknown desk caller request state
      refine ⟨(.error error, state), fun id unknown => outcome_map_error ?_ _⟩
      rw [updateBlueprint_eq_commit]
      exact Work.outcome_commit_error (failed id unknown)
  | deleteBlueprint _ =>
      exact ⟨_, fun id unknown => outcome_map_error (deleteBlueprint_of_unknown unknown) _⟩
  | composeBlueprint _ selection =>
      exact ⟨_, fun id unknown => outcome_map_error
        (outcome_bind_error (blueprintOf_of_unknown unknown none) _) _⟩
  | blueprintComposes _ number range =>
      exact ⟨_, fun id unknown => outcome_map_error
        (outcome_bind_error (blueprintOf_of_unknown unknown none) _) _⟩

end Desk

end ComposeDesk
