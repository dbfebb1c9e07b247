import ComposeDesk.Proofs.Store.Change
import ComposeDesk.Proofs.Store.Write

/-!
# Instants of composes

The quota of an organization is about the instants at which its composes were
recorded.  No change takes one of them away, and only an organization itself adds to
its own.
-/

namespace ComposeDesk.Store

/-- The instants at which the composes of an organization were recorded, those of
deleted ones included. -/
def stamps (store : Store) (org : String) : List Timestamp :=
  (store.composes.filter (·.org = org)).map (·.createdAt)

/-- Composes are counted by their instants. -/
theorem countComposes_eq (store : Store) (org : String) (now : Timestamp) (window : Int) :
    store.countComposes org now window =
      ((store.stamps org).filter (·.isWithin now window)).length := by
  unfold countComposes stamps
  rw [List.filter_map, List.length_map, List.filter_filter]
  refine congrArg List.length (List.filter_congr fun row _ => ?_)
  exact Bool.and_comm _ _

section Stamps

variable {store next : Store} {org : String}

/-- An instant is added for the organization of a new compose. -/
theorem stamps_concat (row : ComposeRow) :
    ({ store with composes := store.composes ++ [row] } : Store).stamps org =
      store.stamps org ++ if row.org = org then [row.createdAt] else [] := by
  unfold stamps
  rw [List.filter_append, List.map_append]
  by_cases own : row.org = org <;> simp [own]

/-- What leaves organizations and instants of all composes leaves the instants. -/
theorem stamps_map {change : ComposeRow → ComposeRow}
    (orgs : ∀ row, (change row).org = row.org)
    (instants : ∀ row, (change row).createdAt = row.createdAt) (rows : List ComposeRow) :
    ((rows.map change).filter (·.org = org)).map (·.createdAt) =
      (rows.filter (·.org = org)).map (·.createdAt) := by
  rw [List.filter_map, List.map_map]
  simp only [Function.comp_def, orgs, instants]

variable {caller : Identity} {asked : ComposeRequest → Prop} {given : List Uuid}

/-- A change adds at most one instant, and that for its caller who asked for it. -/
theorem Change.stamps_cases (change : Change caller asked given store next) (org : String) :
    next.stamps org = store.stamps org ∨
      caller.org = org ∧ (∃ request, asked request) ∧
        ∃ now, next.stamps org = store.stamps org ++ [now] := by
  cases change with
  | unchanged => exact .inl rfl
  | composed request versionId id now wanted linked inserted =>
      obtain ⟨-, rfl⟩ := insertCompose_ok_iff.mp inserted
      rw [stamps_concat]
      by_cases own : caller.org = org
      · exact .inr ⟨own, ⟨request, wanted⟩, now, by rw [ComposeRow.ofRequest, if_pos own]⟩
      · exact .inl (by rw [ComposeRow.ofRequest, if_neg own, List.append_nil])
  | hidden id deleted =>
      obtain ⟨-, rfl⟩ := deleteCompose_ok deleted
      exact .inl (stamps_map (ComposeRow.hide_org id) (ComposeRow.hide_createdAt id) store.composes)
  | cloned composeId request id now owned inserted =>
      obtain ⟨-, rfl⟩ := insertClone_ok inserted
      exact .inl rfl
  | created id versionId draft now inserted =>
      obtain ⟨-, rfl⟩ := insertBlueprint_ok inserted
      exact .inl rfl
  | updated id versionId draft now number written =>
      obtain ⟨-, -, -, rfl⟩ := updateBlueprint_ok written
      exact .inl rfl
  | removed id deleted =>
      obtain ⟨-, rfl⟩ := deleteBlueprint_ok deleted
      exact .inl (stamps_map (ComposeRow.unlink_org _) (ComposeRow.unlink_createdAt _) store.composes)

/-- Changes of other organizations, and changes without a compose that was asked for,
leave the instants of an organization as they are. -/
theorem Changes.stamps_eq (changes : Changes caller asked given store next)
    (unable : caller.org ≠ org ∨ ∀ request, ¬ asked request) :
    next.stamps org = store.stamps org := by
  induction changes with
  | none => rfl
  | step before change ih =>
      rcases change.stamps_cases org with same | ⟨own, ⟨request, wanted⟩, -⟩
      · exact same.trans ih
      · rcases unable with other | none
        · exact absurd own other
        · exact absurd wanted (none request)

end Stamps

end ComposeDesk.Store
