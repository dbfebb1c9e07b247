import ComposeDesk.Proofs.Keyed
import ComposeDesk.Proofs.Store.Change
import ComposeDesk.Proofs.Store.Look
import ComposeDesk.Proofs.Store.Write

/-!
# Sound stores

In a sound store every identifier is that of one row, clones and versions have
what they belong to, and composes are linked to versions of their own
organization only.  Changes under new identifiers keep a store sound.
-/

namespace ComposeDesk.Store

def ids (store : Store) : List Uuid :=
  store.composes.map (·.id) ++ store.clones.map (·.id) ++ store.blueprints.map (·.id) ++
    store.versions.map (·.id)

/-- No identifier is that of two rows, and nothing is missing that rows name. -/
structure Sound (store : Store) : Prop where
  unique : store.ids.Nodup
  parents : ∀ row ∈ store.clones, ∃ parent ∈ store.composes, parent.id = row.composeId
  homes : ∀ row ∈ store.versions, ∃ blueprint ∈ store.blueprints,
    blueprint.id = row.blueprintId
  links : ∀ row ∈ store.composes, ∀ version, row.versionId = some version →
    store.Links row.org version

/-- Every blueprint has an identifier of its own, and every version a blueprint. -/
structure Housed (store : Store) : Prop where
  unique : (store.blueprints.map (·.id)).Nodup
  homes : ∀ row ∈ store.versions, ∃ blueprint ∈ store.blueprints,
    blueprint.id = row.blueprintId

theorem mem_ids {store : Store} {id : Uuid} :
    id ∈ store.ids ↔ (∃ row ∈ store.composes, row.id = id) ∨ (∃ row ∈ store.clones, row.id = id) ∨
      (∃ row ∈ store.blueprints, row.id = id) ∨ ∃ row ∈ store.versions, row.id = id := by
  simp [ids]

/-- Links stay while versions and their blueprints stay. -/
theorem Links.mono {store next : Store} {org : String} {version : Uuid}
    (links : store.Links org version) (versions : ∀ row ∈ store.versions, row ∈ next.versions)
    (blueprints : ∀ row ∈ store.blueprints, ∃ kept ∈ next.blueprints,
      kept.id = row.id ∧ kept.org = row.org) : next.Links org version := by
  obtain ⟨row, member, same, blueprint, held, home, owned⟩ := links
  obtain ⟨kept, remains, sameId, sameOrg⟩ := blueprints blueprint held
  exact ⟨row, versions row member, same, kept, remains, sameId.trans home, sameOrg.trans owned⟩

theorem sound_empty : empty.Sound where
  unique := .nil
  parents _ member := by cases member
  homes _ member := by cases member
  links _ member := by cases member

theorem housed_empty : empty.Housed where
  unique := .nil
  homes _ member := by cases member

namespace Sound

variable {store : Store}

theorem composes_unique (sound : store.Sound) : (store.composes.map (·.id)).Nodup :=
  (List.nodup_append.mp (List.nodup_append.mp (List.nodup_append.mp sound.unique).1).1).1

theorem blueprints_unique (sound : store.Sound) : (store.blueprints.map (·.id)).Nodup :=
  (List.nodup_append.mp (List.nodup_append.mp sound.unique).1).2.1

theorem versions_unique (sound : store.Sound) : (store.versions.map (·.id)).Nodup :=
  (List.nodup_append.mp sound.unique).2.1

theorem housed (sound : store.Sound) : store.Housed :=
  ⟨sound.blueprints_unique, sound.homes⟩

end Sound

/-- Composes and clones make no difference. -/
theorem Housed.congr {store next : Store} (housed : store.Housed)
    (blueprints : next.blueprints = store.blueprints)
    (versions : next.versions = store.versions) : next.Housed := by
  constructor
  · rw [blueprints]
    exact housed.unique
  · rw [blueprints, versions]
    exact housed.homes

theorem Housed.blueprint? {store : Store} (housed : store.Housed) {row : BlueprintRow}
    (member : row ∈ store.blueprints) : store.blueprint? row.id = some row :=
  find?_of_mem housed.unique member

theorem putBlueprint_of_new {row : BlueprintRow} {rows : List BlueprintRow}
    (fresh : row.id ∉ rows.map (·.id)) : putBlueprint row rows = rows ++ [row] := by
  induction rows with
  | nil => rfl
  | cons held rest ih =>
      simp only [List.map_cons, List.mem_cons, not_or] at fresh
      rw [putBlueprint, if_neg (Ne.symm fresh.1), ih fresh.2, List.cons_append]

theorem mem_putBlueprint {row held : BlueprintRow} {rows : List BlueprintRow}
    (member : held ∈ putBlueprint row rows) : held = row ∨ held ∈ rows := by
  induction rows with
  | nil => exact .inl (List.mem_singleton.mp member)
  | cons first rest ih =>
      unfold putBlueprint at member
      split at member
      · exact (List.mem_cons.mp member).imp_right (List.mem_cons_of_mem first)
      · rcases List.mem_cons.mp member with rfl | later
        · exact .inr List.mem_cons_self
        · exact (ih later).imp_right (List.mem_cons_of_mem first)

theorem mem_putBlueprint_self (row : BlueprintRow) (rows : List BlueprintRow) :
    row ∈ putBlueprint row rows := by
  induction rows with
  | nil => exact List.mem_singleton_self row
  | cons first rest ih =>
      unfold putBlueprint
      split
      · exact List.mem_cons_self
      · exact List.mem_cons_of_mem first ih

/-- Of each identifier that there was, there is a blueprint afterwards. -/
theorem putBlueprint_keeps (row : BlueprintRow) {rows : List BlueprintRow} {held : BlueprintRow}
    (member : held ∈ rows) : ∃ kept ∈ putBlueprint row rows, kept.id = held.id := by
  induction rows with
  | nil => cases member
  | cons first rest ih =>
      unfold putBlueprint
      split
      · rename_i same
        rcases List.mem_cons.mp member with rfl | later
        · exact ⟨row, List.mem_cons_self, same.symm⟩
        · exact ⟨held, List.mem_cons_of_mem row later, rfl⟩
      · rcases List.mem_cons.mp member with rfl | later
        · exact ⟨held, List.mem_cons_self, rfl⟩
        · obtain ⟨kept, among, same⟩ := ih later
          exact ⟨kept, List.mem_cons_of_mem first among, same⟩

/-- A key stays unique if that of the blueprint that is put is not taken. -/
theorem putBlueprint_nodup {κ : Type} {key : BlueprintRow → κ} {row : BlueprintRow}
    {rows : List BlueprintRow} (unique : (rows.map key).Nodup) (free : key row ∉ rows.map key) :
    ((putBlueprint row rows).map key).Nodup := by
  induction rows with
  | nil => exact List.nodup_singleton _
  | cons first rest ih =>
      obtain ⟨apart, others⟩ := List.nodup_cons.mp unique
      rw [List.map_cons, List.mem_cons, not_or] at free
      unfold putBlueprint
      split
      · exact List.nodup_cons.mpr ⟨free.2, others⟩
      · refine List.nodup_cons.mpr ⟨fun taken => ?_, ih others free.2⟩
        obtain ⟨held, member, same⟩ := List.mem_map.mp taken
        rcases mem_putBlueprint member with rfl | later
        · exact free.1 same
        · exact apart (List.mem_map.mpr ⟨held, later, same⟩)

/-- Identifiers stay unique, since a blueprint of the same one is replaced. -/
theorem putBlueprint_ids_nodup (row : BlueprintRow) {rows : List BlueprintRow}
    (unique : (rows.map (·.id)).Nodup) : ((putBlueprint row rows).map (·.id)).Nodup := by
  induction rows with
  | nil => exact List.nodup_singleton _
  | cons first rest ih =>
      obtain ⟨apart, others⟩ := List.nodup_cons.mp unique
      unfold putBlueprint
      split
      · rename_i same
        refine List.nodup_cons.mpr ⟨fun taken => apart ?_, others⟩
        change first.id ∈ rest.map (·.id)
        rw [same]
        exact taken
      · rename_i other
        refine List.nodup_cons.mpr ⟨fun taken => ?_, ih others⟩
        obtain ⟨held, member, same⟩ := List.mem_map.mp taken
        rcases mem_putBlueprint member with rfl | later
        · exact other same.symm
        · exact apart (List.mem_map.mpr ⟨held, later, same⟩)

theorem putBlueprint_count_le (row : BlueprintRow) (rows : List BlueprintRow) (id : Uuid) :
    ((putBlueprint row rows).map (·.id)).count id ≤
      (rows.map (·.id)).count id + [row.id].count id := by
  induction rows with
  | nil => simp [putBlueprint]
  | cons held rest ih =>
      unfold putBlueprint
      split
      · rename_i same
        simp [List.count_cons, same]
      · rw [List.map_cons, List.map_cons, List.count_cons, List.count_cons]
        omega

/-! ## What changes keep -/

section Change

variable {caller : Identity} {asked : ComposeRequest → Prop} {given : List Uuid}
  {store next : Store}

theorem count_ids (store : Store) (id : Uuid) :
    store.ids.count id = (store.composes.map (·.id)).count id +
      (store.clones.map (·.id)).count id + (store.blueprints.map (·.id)).count id +
        (store.versions.map (·.id)).count id := by
  simp only [ids, List.count_append]

theorem new_of_fresh (fresh : (store.ids ++ given).Nodup) {id : Uuid} (member : id ∈ given) :
    id ∉ store.ids :=
  fun held => (List.nodup_append.mp fresh).2.2 id held id member rfl

/-- A new blueprint is under no identifier of a blueprint. -/
theorem blueprint_new (fresh : (store.ids ++ given).Nodup) {id : Uuid} (member : id ∈ given) :
    id ∉ store.blueprints.map (·.id) :=
  fun held => new_of_fresh fresh member (mem_ids.mpr (.inr (.inr (.inl (List.mem_map.mp held)))))

/-- A change adds rows only under identifiers that were given out for it, each
at most once. -/
theorem Change.count_ids_le (change : Change caller asked given store next) (id : Uuid) :
    next.ids.count id ≤ store.ids.count id + given.count id := by
  cases change with
  | unchanged => exact Nat.le_add_right _ _
  | composed request versionId composeId now wanted linked inserted =>
      obtain ⟨-, rfl⟩ := insertCompose_ok_iff.mp inserted
      simp only [count_ids, List.map_append, List.count_append, List.map_cons, List.map_nil,
        ComposeRow.ofRequest]
      omega
  | hidden composeId deleted =>
      obtain ⟨-, rfl⟩ := deleteCompose_ok deleted
      simp [count_ids, Function.comp_def]
  | cloned composeId request cloneId now owned inserted =>
      obtain ⟨-, rfl⟩ := insertClone_ok inserted
      simp only [count_ids, List.map_append, List.count_append, List.map_cons, List.map_nil,
        CloneRow.ofRequest]
      omega
  | created blueprintId versionId draft now inserted =>
      obtain ⟨-, rfl⟩ := insertBlueprint_ok inserted
      have added := putBlueprint_count_le
        (Desk.writeOf caller blueprintId versionId draft).row store.blueprints id
      simp only [count_ids, List.map_append, List.count_append, List.map_cons, List.map_nil,
        BlueprintWrite.row, BlueprintWrite.version, Desk.writeOf, List.count_cons,
        List.count_nil] at added ⊢
      omega
  | updated blueprintId versionId draft now number written =>
      obtain ⟨-, -, -, rfl⟩ := updateBlueprint_ok written
      simp only [count_ids, List.map_append, List.count_append, List.map_cons, List.map_nil,
        List.map_map, Function.comp_def, BlueprintRow.rename_id, BlueprintWrite.version,
        Desk.writeOf]
      omega
  | removed blueprintId deleted =>
      obtain ⟨-, rfl⟩ := deleteBlueprint_ok deleted
      have blueprints := (List.filter_sublist
        (p := fun row : BlueprintRow => row.id ≠ blueprintId) (l := store.blueprints)).map (·.id)
      have versions := (List.filter_sublist
        (p := fun row : VersionRow => row.blueprintId ≠ blueprintId)
        (l := store.versions)).map (·.id)
      have fewer := blueprints.count_le id
      have less := versions.count_le id
      simp only [count_ids, List.map_map, Function.comp_def, ComposeRow.unlink_id]
      omega

section Writes

variable {now : Timestamp}

theorem Housed.insertBlueprint {write : BlueprintWrite} (housed : store.Housed)
    (inserted : store.insertBlueprint write now = .ok next) : next.Housed := by
  obtain ⟨-, rfl⟩ := insertBlueprint_ok inserted
  constructor
  · exact putBlueprint_ids_nodup write.row housed.unique
  · intro row member
    rcases List.mem_append.mp member with held | new
    · obtain ⟨blueprint, among, same⟩ := housed.homes row held
      obtain ⟨kept, remains, sameId⟩ := putBlueprint_keeps write.row among
      exact ⟨kept, remains, sameId.trans same⟩
    · rw [List.mem_singleton.mp new]
      exact ⟨write.row, mem_putBlueprint_self write.row store.blueprints, rfl⟩

theorem rename_ids (write : BlueprintWrite) (rows : List BlueprintRow) :
    (rows.map (·.rename write)).map (·.id) = rows.map (·.id) := by
  simp [Function.comp_def]

theorem Housed.updateBlueprint {write : BlueprintWrite} {number : Nat} (housed : store.Housed)
    (written : store.updateBlueprint write now = .ok (next, number)) : next.Housed := by
  obtain ⟨owned, -, -, rfl⟩ := updateBlueprint_ok written
  constructor
  · rw [rename_ids]
    exact housed.unique
  · intro row member
    rcases List.mem_append.mp member with held | new
    · obtain ⟨blueprint, among, same⟩ := housed.homes row held
      exact ⟨_, List.mem_map_of_mem among, by rw [BlueprintRow.rename_id, same]⟩
    · obtain ⟨blueprint, found, -⟩ := blueprint_of_owns owned
      obtain ⟨among, same⟩ := blueprint?_mem found
      rw [List.mem_singleton.mp new]
      exact ⟨_, List.mem_map_of_mem among, by rw [BlueprintRow.rename_id, same]; rfl⟩

theorem Housed.deleteBlueprint {id : Uuid} {org account : String} (housed : store.Housed)
    (deleted : store.deleteBlueprint id org account = .ok next) : next.Housed := by
  obtain ⟨-, rfl⟩ := deleteBlueprint_ok deleted
  constructor
  · exact housed.unique.sublist (List.filter_sublist.map _)
  · intro row member
    obtain ⟨held, elsewhere⟩ := List.mem_filter.mp member
    obtain ⟨blueprint, among, same⟩ := housed.homes row held
    exact ⟨blueprint, List.mem_filter.mpr ⟨among, by simpa [same] using elsewhere⟩, same⟩

theorem Sound.insertCompose {row : ComposeRow} (sound : store.Sound) (unique : next.ids.Nodup)
    (linked : ∀ version, row.versionId = some version → store.Links row.org version)
    (inserted : store.insertCompose row = .ok next) : next.Sound := by
  obtain ⟨-, rfl⟩ := insertCompose_ok_iff.mp inserted
  refine ⟨unique, ?_, sound.homes, ?_⟩
  · intro row member
    obtain ⟨parent, held, same⟩ := sound.parents row member
    exact ⟨parent, List.mem_append_left _ held, same⟩
  · intro row member version linkedTo
    rcases List.mem_append.mp member with held | new
    · exact sound.links row held version linkedTo
    · rw [List.mem_singleton.mp new] at linkedTo ⊢
      exact linked version linkedTo

theorem Sound.deleteCompose {id : Uuid} {org : String} (sound : store.Sound)
    (unique : next.ids.Nodup) (deleted : store.deleteCompose id org = .ok next) : next.Sound := by
  obtain ⟨-, rfl⟩ := deleteCompose_ok deleted
  refine ⟨unique, ?_, sound.homes, ?_⟩
  · intro row member
    obtain ⟨parent, held, same⟩ := sound.parents row member
    exact ⟨parent.hide id, List.mem_map_of_mem held, by rw [ComposeRow.hide_id, same]⟩
  · intro row member version linkedTo
    obtain ⟨before, held, rfl⟩ := List.mem_map.mp member
    rw [ComposeRow.hide_versionId] at linkedTo
    rw [ComposeRow.hide_org]
    exact sound.links before held version linkedTo

theorem Sound.insertClone {row : CloneRow} (sound : store.Sound) (unique : next.ids.Nodup)
    (inserted : store.insertClone row = .ok next) : next.Sound := by
  obtain ⟨⟨parent, found⟩, rfl⟩ := insertClone_ok inserted
  refine ⟨unique, ?_, sound.homes, sound.links⟩
  intro row member
  rcases List.mem_append.mp member with held | new
  · exact sound.parents row held
  · rw [List.mem_singleton.mp new]
    exact ⟨parent, compose?_mem found⟩

theorem Sound.insertBlueprint {write : BlueprintWrite} (sound : store.Sound)
    (unique : next.ids.Nodup) (fresh : write.id ∉ store.blueprints.map (·.id))
    (inserted : store.insertBlueprint write now = .ok next) : next.Sound := by
  have homes := (sound.housed.insertBlueprint inserted).homes
  obtain ⟨-, rfl⟩ := insertBlueprint_ok inserted
  refine ⟨unique, sound.parents, homes, ?_⟩
  intro row member version linkedTo
  have put : putBlueprint write.row store.blueprints = store.blueprints ++ [write.row] :=
    putBlueprint_of_new fresh
  rw [put]
  refine (sound.links row member version linkedTo).mono ?_ ?_
  · exact fun row held => List.mem_append_left _ held
  · exact fun row held => ⟨row, List.mem_append_left _ held, rfl, rfl⟩

theorem Sound.updateBlueprint {write : BlueprintWrite} {number : Nat} (sound : store.Sound)
    (unique : next.ids.Nodup) (written : store.updateBlueprint write now = .ok (next, number)) :
    next.Sound := by
  have homes := (sound.housed.updateBlueprint written).homes
  obtain ⟨-, -, -, rfl⟩ := updateBlueprint_ok written
  refine ⟨unique, sound.parents, homes, ?_⟩
  intro row member version linkedTo
  refine (sound.links row member version linkedTo).mono ?_ ?_
  · exact fun row held => List.mem_append_left _ held
  · exact fun row held => ⟨_, List.mem_map_of_mem held, BlueprintRow.rename_id _ _,
      BlueprintRow.rename_org _ _⟩

theorem Sound.deleteBlueprint {id : Uuid} {org account : String} (sound : store.Sound)
    (unique : next.ids.Nodup) (deleted : store.deleteBlueprint id org account = .ok next) :
    next.Sound := by
  have homes := (sound.housed.deleteBlueprint deleted).homes
  obtain ⟨-, rfl⟩ := deleteBlueprint_ok deleted
  refine ⟨unique, ?_, homes, ?_⟩
  · intro row member
    obtain ⟨parent, held, same⟩ := sound.parents row member
    exact ⟨_, List.mem_map_of_mem held, by rw [ComposeRow.unlink_id, same]⟩
  · intro row member version linkedTo
    obtain ⟨before, held, rfl⟩ := List.mem_map.mp member
    obtain ⟨linkedBefore, kept⟩ := ComposeRow.unlink_versionId_eq_some _ linkedTo
    obtain ⟨target, among, same, blueprint, home, of, owned⟩ :=
      sound.links before held version linkedBefore
    -- A version that was not removed is one of another blueprint.
    have elsewhere : target.blueprintId ≠ id := by
      intro inside
      refine kept (List.mem_map.mpr ⟨target, List.mem_filter.mpr ⟨among, ?_⟩, same⟩)
      exact decide_eq_true inside
    rw [ComposeRow.unlink_org]
    refine ⟨target, List.mem_filter.mpr ⟨among, by simpa using elsewhere⟩, same, blueprint,
      List.mem_filter.mpr ⟨home, by simpa [of] using elsewhere⟩, of, owned⟩

end Writes

theorem Change.sound (change : Change caller asked given store next) (sound : store.Sound)
    (fresh : (store.ids ++ given).Nodup) : next.Sound := by
  have unique : next.ids.Nodup := by
    rw [List.nodup_iff_count] at fresh ⊢
    intro id
    have once := fresh id
    rw [List.count_append] at once
    exact Nat.le_trans (change.count_ids_le id) once
  cases change with
  | unchanged => exact sound
  | composed request versionId id now wanted linked inserted =>
      exact sound.insertCompose unique linked inserted
  | hidden id deleted => exact sound.deleteCompose unique deleted
  | cloned composeId request id now owned inserted => exact sound.insertClone unique inserted
  | created id versionId draft now inserted =>
      exact sound.insertBlueprint unique (blueprint_new fresh List.mem_cons_self) inserted
  | updated id versionId draft now number written => exact sound.updateBlueprint unique written
  | removed id deleted => exact sound.deleteBlueprint unique deleted

/-- The store holds no identifier more often than it was given out. -/
def Within (store : Store) (issued : List Uuid) : Prop :=
  ∀ id, store.ids.count id ≤ issued.count id

theorem Within.fresh {issued : List Uuid} (within : store.Within issued)
    (nodup : (issued ++ given).Nodup) : (store.ids ++ given).Nodup := by
  rw [List.nodup_iff_count] at nodup ⊢
  intro id
  have once := nodup id
  have held := within id
  rw [List.count_append] at once ⊢
  omega

/-- Changes under identifiers that are given out only once keep a store sound. -/
theorem Changes.sound {issued : List Uuid} (changes : Changes caller asked given store next)
    (nodup : (issued ++ given).Nodup) (sound : store.Sound) (within : store.Within issued) :
    next.Sound ∧ next.Within (issued ++ given) := by
  induction changes with
  | none => exact ⟨sound, by rwa [List.append_nil]⟩
  | @step ids more _ middle next before change ih =>
      rw [← List.append_assoc] at nodup ⊢
      obtain ⟨sound, within⟩ := ih (List.nodup_append.mp nodup).1 sound within
      refine ⟨change.sound sound (within.fresh nodup), fun id => ?_⟩
      rw [List.count_append]
      exact Nat.le_trans (change.count_ids_le id) (Nat.add_le_add_right (within id) _)

end Change

end ComposeDesk.Store
