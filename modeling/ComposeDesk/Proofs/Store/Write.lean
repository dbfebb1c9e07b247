import ComposeDesk.Store.Blueprint

/-!
# What writes do to the store

Each write either refuses or leaves one certain store.  These are the only
places where the definitions of the writes are opened.
-/

namespace ComposeDesk

def ComposeRow.hide (id : Uuid) (row : ComposeRow) : ComposeRow :=
  if row.id = id then { row with deleted := true } else row

def ComposeRow.unlink (removed : List Uuid) (row : ComposeRow) : ComposeRow :=
  if row.versionId.any removed.contains then { row with versionId := none } else row

def BlueprintRow.rename (write : BlueprintWrite) (row : BlueprintRow) : BlueprintRow :=
  if row.id = write.id then
    { row with name := write.name, description := write.description }
  else row

def BlueprintWrite.row (write : BlueprintWrite) : BlueprintRow :=
  ⟨write.id, write.org, write.account, write.name, write.description⟩

def BlueprintWrite.version (write : BlueprintWrite) (number : Nat) (now : Timestamp) :
    VersionRow :=
  ⟨write.versionId, write.id, number, write.body, now⟩

section Rows

variable (id : Uuid) (removed : List Uuid) (write : BlueprintWrite)

@[simp]
theorem ComposeRow.hide_id (row : ComposeRow) : (row.hide id).id = row.id := by
  unfold hide
  split <;> rfl

@[simp]
theorem ComposeRow.hide_org (row : ComposeRow) : (row.hide id).org = row.org := by
  unfold hide
  split <;> rfl

@[simp]
theorem ComposeRow.hide_request (row : ComposeRow) : (row.hide id).request = row.request := by
  unfold hide
  split <;> rfl

@[simp]
theorem ComposeRow.hide_versionId (row : ComposeRow) :
    (row.hide id).versionId = row.versionId := by
  unfold hide
  split <;> rfl

@[simp]
theorem ComposeRow.hide_createdAt (row : ComposeRow) : (row.hide id).createdAt = row.createdAt := by
  unfold hide
  split <;> rfl

@[simp]
theorem ComposeRow.unlink_id (row : ComposeRow) : (row.unlink removed).id = row.id := by
  unfold unlink
  split <;> rfl

@[simp]
theorem ComposeRow.unlink_org (row : ComposeRow) : (row.unlink removed).org = row.org := by
  unfold unlink
  split <;> rfl

@[simp]
theorem ComposeRow.unlink_request (row : ComposeRow) :
    (row.unlink removed).request = row.request := by
  unfold unlink
  split <;> rfl

@[simp]
theorem ComposeRow.unlink_createdAt (row : ComposeRow) :
    (row.unlink removed).createdAt = row.createdAt := by
  unfold unlink
  split <;> rfl

/-- A link that is left is an old one to a version that was not removed. -/
theorem ComposeRow.unlink_versionId_eq_some {row : ComposeRow} {version : Uuid}
    (linked : (row.unlink removed).versionId = some version) :
    row.versionId = some version ∧ version ∉ removed := by
  unfold unlink at linked
  split at linked
  · cases linked
  · refine ⟨linked, fun member => ?_⟩
    rename_i kept
    exact kept (by simp [linked, member])

@[simp]
theorem BlueprintRow.rename_id (row : BlueprintRow) : (row.rename write).id = row.id := by
  unfold rename
  split <;> rfl

@[simp]
theorem BlueprintRow.rename_org (row : BlueprintRow) : (row.rename write).org = row.org := by
  unfold rename
  split <;> rfl

end Rows

namespace Store

variable {store next : Store} {id : Uuid} {org account : String} {now : Timestamp}

theorem compose?_eq_none_iff :
    store.compose? id = none ↔ ∀ row ∈ store.composes, row.id ≠ id := by
  simp [compose?, List.find?_eq_none]

/-- A compose is added exactly if its identifier is not taken, by a deleted one
either. -/
theorem insertCompose_ok_iff {row : ComposeRow} :
    store.insertCompose row = .ok next ↔
      (∀ held ∈ store.composes, held.id ≠ row.id) ∧
        next = { store with composes := store.composes ++ [row] } := by
  rw [← compose?_eq_none_iff, insertCompose]
  cases store.compose? row.id with
  | some held => simp
  | none => simp [eq_comm]

theorem deleteCompose_ok (deleted : store.deleteCompose id org = .ok next) :
    (∃ row, store.compose? id = some row ∧ isActive org row = true) ∧
      next = { store with composes := store.composes.map (·.hide id) } := by
  unfold deleteCompose at deleted
  split at deleted
  · rename_i row found
    split at deleted
    · rename_i active
      cases deleted
      exact ⟨⟨row, found, active⟩, rfl⟩
    · cases deleted
  · cases deleted

theorem insertClone_ok {row : CloneRow} (inserted : store.insertClone row = .ok next) :
    (∃ parent, store.compose? row.composeId = some parent) ∧
      next = { store with clones := store.clones ++ [row] } := by
  unfold insertClone at inserted
  split at inserted
  · rename_i parent found
    cases inserted
    exact ⟨⟨parent, found⟩, rfl⟩
  · cases inserted

theorem insertBlueprint_eq (store : Store) (write : BlueprintWrite) (now : Timestamp) :
    store.insertBlueprint write now =
      if store.isTaken write.org write.name none then .error (.nameTaken write.name)
      else
        .ok { store with
          blueprints := putBlueprint write.row store.blueprints
          versions := store.versions ++ [write.version 1 now] } := rfl

theorem insertBlueprint_ok {write : BlueprintWrite}
    (inserted : store.insertBlueprint write now = .ok next) :
    store.isTaken write.org write.name none = false ∧
      next = { store with
        blueprints := putBlueprint write.row store.blueprints
        versions := store.versions ++ [write.version 1 now] } := by
  rw [insertBlueprint_eq] at inserted
  split at inserted
  · cases inserted
  · rename_i free
    cases inserted
    exact ⟨Bool.eq_false_iff.mpr free, rfl⟩

def nextNumber (store : Store) (id : Uuid) : Nat :=
  match store.latest? id with
  | some row => row.number + 1
  | none => 1

theorem updateBlueprint_eq (store : Store) (write : BlueprintWrite) (now : Timestamp) :
    store.updateBlueprint write now =
      if !store.ownsBlueprint write.id write.org write.account then
        .error (.notFound .blueprint)
      else if store.isTaken write.org write.name (some write.id) then
        .error (.nameTaken write.name)
      else
        .ok ({ store with
          blueprints := store.blueprints.map (·.rename write)
          versions := store.versions ++ [write.version (store.nextNumber write.id) now] },
          store.nextNumber write.id) := rfl

theorem updateBlueprint_ok {write : BlueprintWrite} {number : Nat}
    (written : store.updateBlueprint write now = .ok (next, number)) :
    store.ownsBlueprint write.id write.org write.account = true ∧
      store.isTaken write.org write.name (some write.id) = false ∧
      number = store.nextNumber write.id ∧
      next = { store with
        blueprints := store.blueprints.map (·.rename write)
        versions := store.versions ++ [write.version number now] } := by
  rw [updateBlueprint_eq] at written
  split at written
  · cases written
  · rename_i owned
    split at written
    · cases written
    · rename_i free
      cases written
      exact ⟨by simpa using owned, Bool.eq_false_iff.mpr free, rfl, rfl⟩

def versionIds (store : Store) (id : Uuid) : List Uuid :=
  (store.versions.filter (·.blueprintId = id)).map (·.id)

theorem deleteBlueprint_eq (store : Store) (id : Uuid) (org account : String) :
    store.deleteBlueprint id org account =
      if !store.ownsBlueprint id org account then .error (.notFound .blueprint)
      else
        .ok { store with
          blueprints := store.blueprints.filter (·.id ≠ id)
          versions := store.versions.filter (·.blueprintId ≠ id)
          composes := store.composes.map (·.unlink (store.versionIds id)) } := rfl

theorem deleteBlueprint_ok (deleted : store.deleteBlueprint id org account = .ok next) :
    store.ownsBlueprint id org account = true ∧
      next = { store with
        blueprints := store.blueprints.filter (·.id ≠ id)
        versions := store.versions.filter (·.blueprintId ≠ id)
        composes := store.composes.map (·.unlink (store.versionIds id)) } := by
  rw [deleteBlueprint_eq] at deleted
  split at deleted
  · cases deleted
  · rename_i owned
    cases deleted
    exact ⟨by simpa using owned, rfl⟩

/-- Who owns a blueprint is its organization. -/
theorem blueprint_of_owns (owned : store.ownsBlueprint id org account = true) :
    ∃ row, store.blueprint? id = some row ∧ row.org = org ∧ row.account = account := by
  unfold ownsBlueprint at owned
  split at owned
  · rename_i row found
    exact ⟨row, found, by simpa using owned⟩
  · cases owned

end Store

end ComposeDesk
