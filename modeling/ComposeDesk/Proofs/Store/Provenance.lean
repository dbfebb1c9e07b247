import ComposeDesk.Proofs.Store.Listings
import ComposeDesk.Proofs.Store.Own

/-!
# Where composes come from

A compose that was made from a blueprint is linked to the version that it was made
from, as long as the blueprint is there.  When the blueprint is removed the links to
its versions go with it, and no other link is touched.
-/

namespace ComposeDesk

/-- Where a compose comes from: a blueprint, and the number of the version that was
its latest one. -/
structure Origin where
  id : Uuid
  blueprintId : Uuid
  number : Nat
deriving DecidableEq, Repr

/-- A compose comes from a blueprint, and from the version of a number if one is
given. -/
def Origin.isOf (id : Uuid) (number : Option Int) (origin : Origin) : Bool :=
  origin.blueprintId = id && number.all fun wanted => (origin.number : Int) = wanted

namespace Store

/-- A compose is linked to a version of its origin. -/
def Stems (store : Store) (row : ComposeRow) (origin : Origin) : Prop :=
  ∃ version ∈ store.versions, row.versionId = some version.id ∧
    version.blueprintId = origin.blueprintId ∧ version.number = origin.number

/-- Composes are linked to what they come from, and all that came from blueprints are
linked, except to blueprints that are gone. -/
structure Traces (store : Store) (origins : List Origin) : Prop where
  unique : (origins.map (·.id)).Nodup
  linked : ∀ row ∈ store.composes, ∀ id, row.versionId = some id →
    ∃ origin ∈ origins, origin.id = row.id ∧ store.Stems row origin
  kept : ∀ origin ∈ origins, ∃ row ∈ store.composes, row.id = origin.id ∧
    (store.Stems row origin ∨
      row.versionId = none ∧ origin.blueprintId ∉ store.blueprints.map (·.id))

theorem traces_empty : empty.Traces [] where
  unique := .nil
  linked _ member := by cases member
  kept _ member := by cases member

section Submitted

variable {store : Store} {origins : List Origin} {row : ComposeRow}

/-- A compose of no blueprint has no origin. -/
theorem Traces.append_unlinked (traces : store.Traces origins) (unlinked : row.versionId = none) :
    ({ store with composes := store.composes ++ [row] } : Store).Traces origins where
  unique := traces.unique
  linked held member id linked := by
    rcases List.mem_append.mp member with before | new
    · exact traces.linked held before id linked
    · rw [List.mem_singleton.mp new, unlinked] at linked
      cases linked
  kept origin member := by
    obtain ⟨held, among, rest⟩ := traces.kept origin member
    exact ⟨held, List.mem_append_left _ among, rest⟩

/-- A compose of a version has an origin of its own. -/
theorem Traces.append (traces : store.Traces origins) {version : VersionRow}
    (new : ∀ held ∈ store.composes, held.id ≠ row.id) (member : version ∈ store.versions)
    (linked : row.versionId = some version.id) :
    ({ store with composes := store.composes ++ [row] } : Store).Traces
      (origins ++ [⟨row.id, version.blueprintId, version.number⟩]) where
  unique := by
    rw [List.map_append, List.map_singleton, ← List.concat_eq_append]
    refine traces.unique.concat fun taken => ?_
    obtain ⟨origin, held, same⟩ := List.mem_map.mp taken
    obtain ⟨other, among, sameId, -⟩ := traces.kept origin held
    exact new other among (sameId.trans same)
  linked held among id linkedTo := by
    rcases List.mem_append.mp among with before | last
    · obtain ⟨origin, held, rest⟩ := traces.linked held before id linkedTo
      exact ⟨origin, List.mem_append_left _ held, rest⟩
    · rw [List.mem_singleton.mp last]
      exact ⟨_, List.mem_append_right _ (List.mem_singleton_self _), rfl,
        version, member, linked, rfl, rfl⟩
  kept origin held := by
    rcases List.mem_append.mp held with before | last
    · obtain ⟨other, among, rest⟩ := traces.kept origin before
      exact ⟨other, List.mem_append_left _ among, rest⟩
    · rw [List.mem_singleton.mp last]
      exact ⟨row, List.mem_append_right _ (List.mem_singleton_self _), rfl,
        .inl ⟨version, member, linked, rfl, rfl⟩⟩

end Submitted

section Change

variable {caller : Identity} {asked : ComposeRequest → Prop} {given : List Uuid}
  {store next : Store} {origins : List Origin}

/-- More versions leave what composes come from. -/
theorem Traces.grow (traces : store.Traces origins) {version : VersionRow}
    {blueprints : List BlueprintRow}
    (apart : ∀ origin ∈ origins, origin.blueprintId ∉ store.blueprints.map (·.id) →
      origin.blueprintId ∉ blueprints.map (·.id)) :
    ({ store with versions := store.versions ++ [version], blueprints } : Store).Traces
      origins where
  unique := traces.unique
  linked row member id linked := by
    obtain ⟨origin, held, same, target, among, rest⟩ := traces.linked row member id linked
    exact ⟨origin, held, same, target, List.mem_append_left _ among, rest⟩
  kept origin held := by
    obtain ⟨row, member, same, ⟨target, among, rest⟩ | ⟨unlinked, gone⟩⟩ := traces.kept origin held
    · exact ⟨row, member, same, .inl ⟨target, List.mem_append_left _ among, rest⟩⟩
    · exact ⟨row, member, same, .inr ⟨unlinked, apart origin held gone⟩⟩

/-- Deleting a compose leaves what it comes from. -/
theorem Traces.hide (traces : store.Traces origins) (id : Uuid) :
    ({ store with composes := store.composes.map (·.hide id) } : Store).Traces origins where
  unique := traces.unique
  linked row member versionId linked := by
    obtain ⟨before, held, rfl⟩ := List.mem_map.mp member
    rw [ComposeRow.hide_versionId] at linked
    simp only [Stems, ComposeRow.hide_id, ComposeRow.hide_versionId]
    exact traces.linked before held versionId linked
  kept origin held := by
    obtain ⟨row, member, rest⟩ := traces.kept origin held
    refine ⟨row.hide id, List.mem_map_of_mem member, ?_⟩
    simp only [Stems, ComposeRow.hide_id, ComposeRow.hide_versionId]
    exact rest

theorem mem_versionIds {id versionId : Uuid} :
    versionId ∈ store.versionIds id ↔
      ∃ version ∈ store.versions, version.blueprintId = id ∧ version.id = versionId := by
  simp [versionIds, and_assoc]

/-- Composes lose their links to the versions of a blueprint that is removed, and no
others. -/
theorem Traces.unlink (traces : store.Traces origins) (sound : store.Sound) (id : Uuid) :
    ({ store with
      blueprints := store.blueprints.filter (·.id ≠ id)
      versions := store.versions.filter (·.blueprintId ≠ id)
      composes := store.composes.map (·.unlink (store.versionIds id)) } : Store).Traces
        origins where
  unique := traces.unique
  linked row member versionId linked := by
    obtain ⟨before, held, rfl⟩ := List.mem_map.mp member
    obtain ⟨linkedBefore, spared⟩ := ComposeRow.unlink_versionId_eq_some _ linked
    obtain ⟨origin, among, same, version, target, linkedTo, home, number⟩ :=
      traces.linked before held versionId linkedBefore
    cases linkedBefore.symm.trans linkedTo
    have elsewhere : version.blueprintId ≠ id := fun inside =>
      spared (mem_versionIds.mpr ⟨version, target, inside, rfl⟩)
    rw [ComposeRow.unlink_id]
    exact ⟨origin, among, same, version, List.mem_filter.mpr ⟨target, by simpa using elsewhere⟩,
      linked, home, number⟩
  kept origin held := by
    obtain ⟨row, member, same, ⟨version, target, linked, home, number⟩ | ⟨unlinked, gone⟩⟩ :=
      traces.kept origin held
    · refine ⟨row.unlink _, List.mem_map_of_mem member, by rw [ComposeRow.unlink_id, same], ?_⟩
      by_cases inside : version.blueprintId = id
      · have removed : version.id ∈ store.versionIds id :=
          mem_versionIds.mpr ⟨version, target, inside, rfl⟩
        refine .inr ⟨?_, ?_⟩
        · simp [ComposeRow.unlink, linked, removed]
        · simp [← home, inside]
      · have spared : version.id ∉ store.versionIds id := by
          intro removed
          obtain ⟨other, among, of, sameId⟩ := mem_versionIds.mp removed
          cases List.inj_on_of_nodup_map sound.versions_unique among target sameId
          exact inside of
        refine .inl ⟨version, List.mem_filter.mpr ⟨target, by simpa using inside⟩, ?_, home, number⟩
        simp [ComposeRow.unlink, linked, spared]
    · refine ⟨row.unlink _, List.mem_map_of_mem member, by rw [ComposeRow.unlink_id, same],
        .inr ⟨?_, fun there => ?_⟩⟩
      · simp [ComposeRow.unlink, unlinked]
      · obtain ⟨blueprint, among, sameId⟩ := List.mem_map.mp there
        exact gone (List.mem_map.mpr ⟨blueprint, (List.mem_filter.mp among).1, sameId⟩)

/-- What adds no compose leaves what composes come from, if it does not bring back a
blueprint. -/
theorem Change.traces (change : Change caller asked given store next)
    (unable : ∀ request, ¬ asked request) (sound : store.Sound)
    (fresh : (store.ids ++ given).Nodup)
    (heard : ∀ origin ∈ origins, origin.blueprintId ∉ given) (traces : store.Traces origins) :
    next.Traces origins := by
  cases change with
  | unchanged => exact traces
  | composed request versionId id now wanted linked inserted => exact absurd wanted (unable request)
  | hidden id deleted =>
      obtain ⟨-, rfl⟩ := deleteCompose_ok deleted
      exact traces.hide id
  | cloned composeId request id now owned inserted =>
      obtain ⟨-, rfl⟩ := insertClone_ok inserted
      exact ⟨traces.unique, traces.linked, traces.kept⟩
  | created id versionId draft now inserted =>
      obtain ⟨-, rfl⟩ := insertBlueprint_ok inserted
      refine traces.grow fun origin held gone there => ?_
      obtain ⟨blueprint, member, same⟩ := List.mem_map.mp there
      rcases mem_putBlueprint member with rfl | before
      · exact heard origin held (same ▸ List.mem_cons_self)
      · exact gone (List.mem_map.mpr ⟨blueprint, before, same⟩)
  | updated id versionId draft now number written =>
      obtain ⟨-, -, -, rfl⟩ := updateBlueprint_ok written
      refine traces.grow fun origin held gone => ?_
      rw [rename_ids]
      exact gone
  | removed id deleted =>
      obtain ⟨-, rfl⟩ := deleteBlueprint_ok deleted
      exact traces.unlink sound id

theorem Changes.traces {issued : List Uuid} (changes : Changes caller asked given store next)
    (unable : ∀ request, ¬ asked request) (nodup : (issued ++ given).Nodup) (sound : store.Sound)
    (within : store.Within issued) (heard : ∀ origin ∈ origins, origin.blueprintId ∈ issued)
    (traces : store.Traces origins) : next.Traces origins := by
  induction changes with
  | none => exact traces
  | step before change ih =>
      rw [← List.append_assoc] at nodup
      have earlier := (List.nodup_append.mp nodup).1
      obtain ⟨soundThen, withinThen⟩ := before.sound earlier sound within
      refine change.traces unable soundThen (withinThen.fresh nodup) (fun origin held again => ?_)
        (ih earlier sound within traces)
      exact (List.nodup_append.mp nodup).2.2 _ (List.mem_append_left _ (heard origin held)) _ again
        rfl

end Change

end Store

end ComposeDesk
