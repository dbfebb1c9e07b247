import ComposeDesk.Proofs.Request.Body
import ComposeDesk.Proofs.Store.Change
import ComposeDesk.Proofs.Store.Write
import Mathlib.Data.List.Nodup

/-!
# Stores that can be read

Every stored document was written for a value: the request of a caller without
passwords, a request to copy, the body of a version.  Rows are added, hidden and
unlinked, but their documents are never written again.
-/

namespace ComposeDesk

/-- The part of a compose that is never written again. -/
def ComposeRow.fixed (row : ComposeRow) : Uuid × String × Json :=
  (row.id, row.org, row.request)

@[simp]
theorem ComposeRow.hide_fixed (id : Uuid) (row : ComposeRow) : (row.hide id).fixed = row.fixed := by
  simp [fixed]

@[simp]
theorem ComposeRow.unlink_fixed (removed : List Uuid) (row : ComposeRow) :
    (row.unlink removed).fixed = row.fixed := by
  simp [fixed]

namespace Store

def fixed (store : Store) : List (Uuid × String × Json) :=
  store.composes.map (·.fixed)

/-- A compose of an organization is stored with a request. -/
def Tells (store : Store) (org : String) (id : Uuid) (request : ComposeRequest) : Prop :=
  (id, org, ComposeRequest.codec.write request.redacted) ∈ store.fixed

/-- Every stored document is that of a value, and no two composes share an
identifier. -/
structure Legible (store : Store) : Prop where
  composes : ∀ part ∈ store.fixed, ∃ request : ComposeRequest,
    part.2.2 = ComposeRequest.codec.write request.redacted
  clones : ∀ row ∈ store.clones, ∃ request : CloneRequest,
    row.request = CloneRequest.codec.write request
  versions : ∀ row ∈ store.versions, ∃ body : BlueprintBody,
    row.body = BlueprintBody.codec.write body
  once : (store.composes.map (·.id)).Nodup

theorem legible_empty : Store.empty.Legible where
  composes _ held := nomatch held
  clones _ held := nomatch held
  versions _ held := nomatch held
  once := List.nodup_nil

theorem ids_eq_fixed (store : Store) : store.composes.map (·.id) = store.fixed.map (·.1) := by
  unfold Store.fixed
  rw [List.map_map]
  rfl

section Look

variable {store : Store} {org : String} {id : Uuid} {request : ComposeRequest}

/-- What is told of a compose is in its row. -/
theorem Legible.request_eq (legible : store.Legible) (told : store.Tells org id request)
    {row : ComposeRow} (held : row ∈ store.composes) (same : row.id = id) :
    row.request = ComposeRequest.codec.write request.redacted := by
  obtain ⟨other, member, facts⟩ := List.mem_map.mp told
  have both : other = row :=
    List.inj_on_of_nodup_map legible.once member held ((congrArg (·.1) facts).trans same.symm)
  rw [← both]
  exact congrArg (·.2.2) facts

end Look

section Changes

variable {caller : Identity} {asked : ComposeRequest → Prop} {given : List Uuid}
  {store next : Store} {org : String} {id : Uuid} {request : ComposeRequest}

/-- A change leaves what is fixed of all composes, or adds one that the caller
asked for. -/
theorem Change.fixed_cases (change : Change caller asked given store next) :
    next.fixed = store.fixed ∨
      ∃ request id, asked request ∧ (∀ held ∈ store.composes, held.id ≠ id) ∧
        next.fixed = store.fixed ++
          [(id, caller.org, ComposeRequest.codec.write request.redacted)] := by
  unfold Store.fixed
  cases change with
  | unchanged => exact .inl rfl
  | composed request versionId id now wanted linked inserted =>
      obtain ⟨free, rfl⟩ := insertCompose_ok_iff.mp inserted
      refine .inr ⟨request, id, wanted, free, ?_⟩
      rw [List.map_append]
      rfl
  | hidden id deleted =>
      obtain ⟨-, rfl⟩ := deleteCompose_ok deleted
      simp [Function.comp_def]
  | cloned composeId request id now owned inserted =>
      obtain ⟨-, rfl⟩ := insertClone_ok inserted
      exact .inl rfl
  | created id versionId draft now inserted =>
      obtain ⟨-, rfl⟩ := insertBlueprint_ok inserted
      exact .inl rfl
  | updated id versionId draft now number written =>
      obtain ⟨-, -, -, rfl⟩ := updateBlueprint_ok written
      exact .inl rfl
  | removed id deleted =>
      obtain ⟨-, rfl⟩ := deleteBlueprint_ok deleted
      simp [Function.comp_def]

/-- What is told of a compose stays. -/
theorem Change.tells (change : Change caller asked given store next)
    (told : store.Tells org id request) : next.Tells org id request := by
  unfold Tells at told ⊢
  rcases change.fixed_cases with same | ⟨_, _, -, -, added⟩
  · rw [same]
    exact told
  · rw [added]
    exact List.mem_append_left _ told

/-- What is told of a compose after a change was told before, or was asked for. -/
theorem Change.of_fixed (change : Change caller asked given store next)
    {part : Uuid × String × Json} (held : part ∈ next.fixed) :
    part ∈ store.fixed ∨ ∃ request, asked request ∧
      part.2 = (caller.org, ComposeRequest.codec.write request.redacted) := by
  rcases change.fixed_cases with same | ⟨request, id, wanted, -, added⟩
  · rw [same] at held
    exact .inl held
  · rw [added] at held
    rcases List.mem_append.mp held with before | new
    · exact .inl before
    · rw [List.mem_singleton.mp new]
      exact .inr ⟨request, wanted, rfl⟩

/-- A clone after a change was there before, or is the caller's new one of a compose that
is there. -/
theorem Change.of_clones (change : Change caller asked given store next) {row : CloneRow}
    (held : row ∈ next.clones) :
    row ∈ store.clones ∨ ∃ composeId request id now,
      (∃ parent, store.compose? composeId = some parent) ∧
        row = .ofRequest composeId request id now := by
  cases change with
  | unchanged => exact .inl held
  | composed request versionId id now wanted linked inserted =>
      obtain ⟨-, rfl⟩ := insertCompose_ok_iff.mp inserted
      exact .inl held
  | hidden id deleted =>
      obtain ⟨-, rfl⟩ := deleteCompose_ok deleted
      exact .inl held
  | cloned composeId request id now owned inserted =>
      obtain ⟨parent, rfl⟩ := insertClone_ok inserted
      rcases List.mem_append.mp held with kept | new
      · exact .inl kept
      · exact .inr ⟨composeId, request, id, now, parent, List.mem_singleton.mp new⟩
  | created id versionId draft now inserted =>
      obtain ⟨-, rfl⟩ := insertBlueprint_ok inserted
      exact .inl held
  | updated id versionId draft now number written =>
      obtain ⟨-, -, -, rfl⟩ := updateBlueprint_ok written
      exact .inl held
  | removed id deleted =>
      obtain ⟨-, rfl⟩ := deleteBlueprint_ok deleted
      exact .inl held

/-- A version after a change was there before, or has the body of a draft. -/
theorem Change.of_versions (change : Change caller asked given store next) {row : VersionRow}
    (held : row ∈ next.versions) :
    row ∈ store.versions ∨
      ∃ draft : BlueprintDraft, row.body = BlueprintBody.codec.write draft.body := by
  cases change with
  | unchanged => exact .inl held
  | composed request versionId id now wanted linked inserted =>
      obtain ⟨-, rfl⟩ := insertCompose_ok_iff.mp inserted
      exact .inl held
  | hidden id deleted =>
      obtain ⟨-, rfl⟩ := deleteCompose_ok deleted
      exact .inl held
  | cloned composeId request id now owned inserted =>
      obtain ⟨-, rfl⟩ := insertClone_ok inserted
      exact .inl held
  | created id versionId draft now inserted =>
      obtain ⟨-, rfl⟩ := insertBlueprint_ok inserted
      rcases List.mem_append.mp held with kept | new
      · exact .inl kept
      · rw [List.mem_singleton.mp new]
        exact .inr ⟨draft, rfl⟩
  | updated id versionId draft now number written =>
      obtain ⟨-, -, -, rfl⟩ := updateBlueprint_ok written
      rcases List.mem_append.mp held with kept | new
      · exact .inl kept
      · rw [List.mem_singleton.mp new]
        exact .inr ⟨draft, rfl⟩
  | removed id deleted =>
      obtain ⟨-, rfl⟩ := deleteBlueprint_ok deleted
      exact .inl (List.mem_filter.mp held).1

/-- A change gives no compose the identifier of another one. -/
theorem Change.ids_nodup (change : Change caller asked given store next)
    (once : (store.composes.map (·.id)).Nodup) : (next.composes.map (·.id)).Nodup := by
  rw [ids_eq_fixed] at once ⊢
  rcases change.fixed_cases with same | ⟨request, id, -, free, added⟩
  · rw [same]
    exact once
  · rw [added, List.map_append, List.nodup_append]
    refine ⟨once, List.nodup_singleton id, ?_⟩
    intro first member second own same
    rw [← ids_eq_fixed] at member
    obtain ⟨held, among, rfl⟩ := List.mem_map.mp member
    exact free held among (same.trans (List.mem_singleton.mp own))

theorem Change.legible (change : Change caller asked given store next)
    (before : store.Legible) : next.Legible where
  composes part held := by
    rcases change.of_fixed held with kept | ⟨request, -, document⟩
    · exact before.composes part kept
    · exact ⟨request, congrArg Prod.snd document⟩
  clones row held := by
    rcases change.of_clones held with kept | ⟨_, request, _, _, -, rfl⟩
    · exact before.clones row kept
    · exact ⟨request, rfl⟩
  versions row held := by
    rcases change.of_versions held with kept | ⟨draft, document⟩
    · exact before.versions row kept
    · exact ⟨draft.body, document⟩
  once := change.ids_nodup before.once

theorem Changes.legible (changes : Changes caller asked given store next)
    (before : store.Legible) : next.Legible :=
  changes.keep Change.legible before

theorem Changes.tells (changes : Changes caller asked given store next)
    (told : store.Tells org id request) : next.Tells org id request :=
  changes.keep Change.tells told

theorem Changes.of_fixed (changes : Changes caller asked given store next)
    {part : Uuid × String × Json} (held : part ∈ next.fixed) :
    part ∈ store.fixed ∨ ∃ request, asked request ∧
      part.2 = (caller.org, ComposeRequest.codec.write request.redacted) := by
  induction changes with
  | none => exact .inl held
  | step _ change ih =>
      rcases change.of_fixed held with before | new
      · exact ih before
      · exact .inr new

end Changes

end Store

end ComposeDesk
