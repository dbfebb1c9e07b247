import ComposeDesk.Proofs.Store.Numbered
import ComposeDesk.Proofs.Store.Provenance

/-!
# Lists of blueprints and where composes come from

The composes that are listed for a blueprint are those that came from it, each with
the version that it came from.  Those of a blueprint that is gone stay in the list of
all composes and are in no other one.
-/

namespace ComposeDesk

def ComposeEntry.tag (entry : ComposeEntry) : Uuid × Option Uuid × Option Nat :=
  (entry.id, entry.blueprintId, entry.blueprintVersion)

def Origin.tag (origin : Origin) : Uuid × Option Uuid × Option Nat :=
  (origin.id, some origin.blueprintId, some origin.number)

/-- A compose in a list, apart from its blueprint. -/
def ComposeEntry.unlinked (entry : ComposeEntry) : ComposeEntry :=
  { entry with blueprintId := none, blueprintVersion := none }

namespace Store

/-- The compose of an identifier is not deleted and was created within a window. -/
def isShown (store : Store) (now : Timestamp) (window : Int) (id : Uuid) : Bool :=
  store.composes.any fun row => row.id = id && !row.deleted && row.createdAt.isWithin now window

/-- The lists of a blueprint are what came from it: all of it, and what came from each
version.  The lists of its versions make up that of the blueprint. -/
structure Recounts (store : Store) (origins : List Origin) (blueprint : BlueprintRow)
    (now : Timestamp) (window : Int) : Prop where
  lists : ∀ number,
    ((store.composesOfBlueprint blueprint.org blueprint.id number now window).map
      ComposeEntry.tag).Perm
    ((origins.filter fun origin =>
      origin.isOf blueprint.id number && store.isShown now window origin.id).map Origin.tag)
  parts : (store.composesOfBlueprint blueprint.org blueprint.id none now window).Perm
    ((store.numbers blueprint.id).flatMap fun number : Nat =>
      store.composesOfBlueprint blueprint.org blueprint.id (some number) now window)

/-- What came from a blueprint that is gone is listed with all composes, without a
blueprint, and among the composes of no blueprint. -/
structure Orphans (store : Store) (origin : Origin) (now : Timestamp) (window : Int) :
    Prop where
  stays : ∃ row ∈ store.composes, row.id = origin.id ∧ (row.deleted = false →
    row.createdAt.isWithin now window = true →
    ∃ entry ∈ store.activeComposes row.org now window, entry.tag = (origin.id, none, none))
  apart : ∀ org id number, ∀ entry ∈ store.composesOfBlueprint org id number now window,
    entry.id ≠ origin.id

section Entries

variable {store : Store} {origins : List Origin} {row : ComposeRow} {origin : Origin} {id : Uuid}
  {number : Option Int} {org : String} {now : Timestamp} {window : Int}

/-- An entry carries the origin of its compose. -/
theorem Stems.tag (sound : store.Sound) (stems : store.Stems row origin)
    (same : origin.id = row.id) : (store.entry row).tag = origin.tag := by
  obtain ⟨version, member, linked, home, numbered⟩ := stems
  have found := version?_of_mem sound member
  simp [ComposeEntry.tag, Origin.tag, entry, linked, found, home, numbered, same]

theorem Stems.comesFrom (sound : store.Sound) (stems : store.Stems row origin) :
    store.comesFrom id number row = origin.isOf id number := by
  obtain ⟨version, member, linked, home, numbered⟩ := stems
  have found := version?_of_mem sound member
  simp [Store.comesFrom, Origin.isOf, linked, found, home, numbered]

theorem exists_version_of_comesFrom (comes : store.comesFrom id number row = true) :
    ∃ version ∈ store.versions, row.versionId = some version.id ∧ version.blueprintId = id ∧
      (store.entry row).blueprintVersion = some version.number := by
  obtain ⟨version, linked, holds⟩ := Option.any_eq_true _ _ |>.mp comes
  obtain ⟨versionId, named, found⟩ := Option.bind_eq_some_iff.mp linked
  have same : version.id = versionId := by simpa using List.find?_some found
  refine ⟨version, List.mem_of_find?_eq_some found, by rw [named, same], ?_, ?_⟩
  · exact of_decide_eq_true (Bool.and_eq_true_iff.mp holds).1
  · rw [entry, linked]
    rfl

/-- A compose that is listed for a blueprint has an origin there. -/
theorem Traces.origin_of_comesFrom (traces : store.Traces origins) (sound : store.Sound)
    (member : row ∈ store.composes) (comes : store.comesFrom id number row = true) :
    ∃ origin ∈ origins, origin.isOf id number = true ∧ origin.id = row.id ∧
      (store.entry row).tag = origin.tag := by
  obtain ⟨version, -, linked, -, -⟩ := exists_version_of_comesFrom comes
  obtain ⟨origin, held, same, stems⟩ := traces.linked row member version.id linked
  exact ⟨origin, held, (stems.comesFrom sound).symm.trans comes, same, stems.tag sound same⟩

theorem composesOfBlueprint_mem_iff {entry : ComposeEntry} :
    entry ∈ store.composesOfBlueprint org id number now window ↔
      ∃ row ∈ store.composes, isListed org now window row = true ∧
        store.comesFrom id number row = true ∧ entry = store.entry row := by
  rw [(store.composesOfBlueprint_perm org id number now window).mem_iff]
  constructor
  · intro listed
    obtain ⟨row, held, rfl⟩ := List.mem_map.mp listed
    obtain ⟨member, both⟩ := List.mem_filter.mp held
    obtain ⟨shown, comes⟩ := Bool.and_eq_true_iff.mp both
    exact ⟨row, member, shown, comes, rfl⟩
  · rintro ⟨row, member, shown, comes, rfl⟩
    exact List.mem_map_of_mem (List.mem_filter.mpr
      ⟨member, Bool.and_eq_true_iff.mpr ⟨shown, comes⟩⟩)

/-- No compose is listed twice. -/
theorem composesOfBlueprint_ids_nodup (sound : store.Sound) (org : String) (id : Uuid)
    (number : Option Int) (now : Timestamp) (window : Int) :
    ((store.composesOfBlueprint org id number now window).map (·.id)).Nodup := by
  have ids := (store.composesOfBlueprint_perm org id number now window).map (·.id)
  rw [List.map_map] at ids
  exact ids.nodup_iff.mpr (sound.composes_unique.sublist (List.filter_sublist.map _))

end Entries

section Present

variable {store : Store} {origins : List Origin} {blueprint : BlueprintRow}

/-- A compose that comes from a blueprint that is there is linked to it, and belongs to
its organization. -/
theorem Traces.stems_of_present (traces : store.Traces origins) (sound : store.Sound)
    (present : blueprint ∈ store.blueprints) {origin : Origin} (held : origin ∈ origins)
    (home : origin.blueprintId = blueprint.id) {row : ComposeRow} (member : row ∈ store.composes)
    (same : row.id = origin.id) : store.Stems row origin ∧ row.org = blueprint.org := by
  obtain ⟨other, among, sameId, stems | ⟨-, gone⟩⟩ := traces.kept origin held
  · cases List.inj_on_of_nodup_map sound.composes_unique among member (sameId.trans same.symm)
    refine ⟨stems, ?_⟩
    obtain ⟨version, target, linked, of, -⟩ := stems
    obtain ⟨found, held, sameVersion, owner, there, house, owned⟩ :=
      sound.links row member version.id linked
    cases List.inj_on_of_nodup_map sound.versions_unique held target sameVersion
    have one : owner.id = blueprint.id := house.trans (of.trans home)
    rw [List.inj_on_of_nodup_map sound.blueprints_unique there present one] at owned
    exact owned.symm
  · exact absurd (List.mem_map.mpr ⟨blueprint, present, home.symm⟩) gone

/-- The list of a blueprint, or of a version of it, is what came from it. -/
theorem Traces.lists (traces : store.Traces origins) (sound : store.Sound)
    (present : blueprint ∈ store.blueprints) (number : Option Int) (now : Timestamp)
    (window : Int) :
    ((store.composesOfBlueprint blueprint.org blueprint.id number now window).map
      ComposeEntry.tag).Perm
    ((origins.filter fun origin =>
      origin.isOf blueprint.id number && store.isShown now window origin.id).map Origin.tag) := by
  have left : ((store.composesOfBlueprint blueprint.org blueprint.id number now window).map
      ComposeEntry.tag).Nodup := by
    refine .of_map Prod.fst ?_
    rw [List.map_map]
    exact composesOfBlueprint_ids_nodup sound _ _ _ _ _
  have right : ((origins.filter fun origin =>
      origin.isOf blueprint.id number && store.isShown now window origin.id).map
        Origin.tag).Nodup := by
    refine .of_map Prod.fst ?_
    rw [List.map_map]
    exact traces.unique.sublist (List.filter_sublist.map _)
  refine (List.perm_ext_iff_of_nodup left right).mpr fun tag => ⟨fun listed => ?_, fun made => ?_⟩
  · obtain ⟨entry, held, rfl⟩ := List.mem_map.mp listed
    obtain ⟨row, member, shown, comes, rfl⟩ := composesOfBlueprint_mem_iff.mp held
    obtain ⟨origin, among, of, same, tagged⟩ := traces.origin_of_comesFrom sound member comes
    simp only [isListed, Bool.and_eq_true] at shown
    refine List.mem_map.mpr ⟨origin, List.mem_filter.mpr ⟨among, ?_⟩, tagged.symm⟩
    rw [of, Bool.true_and, isShown, List.any_eq_true]
    exact ⟨row, member, by simp [same, shown]⟩
  · obtain ⟨origin, held, rfl⟩ := List.mem_map.mp made
    obtain ⟨among, holds⟩ := List.mem_filter.mp held
    obtain ⟨of, shown⟩ := Bool.and_eq_true_iff.mp holds
    obtain ⟨row, member, alive⟩ := List.any_eq_true.mp shown
    simp only [Bool.and_eq_true, decide_eq_true_eq] at alive
    have home : origin.blueprintId = blueprint.id :=
      of_decide_eq_true (Bool.and_eq_true_iff.mp of).1
    obtain ⟨stems, owned⟩ :=
      traces.stems_of_present sound present among home member alive.1.1
    refine List.mem_map.mpr ⟨store.entry row, composesOfBlueprint_mem_iff.mpr ⟨row, member, ?_,
      (stems.comesFrom sound).trans of, rfl⟩, stems.tag sound alive.1.1.symm⟩
    simp [isListed, owned, alive]

/-- The lists of the versions of a blueprint make up its list. -/
theorem composesOfBlueprint_parts (sound : store.Sound) (org : String) {id : Uuid}
    (numbered : (store.numbers id).Nodup) (now : Timestamp) (window : Int) :
    (store.composesOfBlueprint org id none now window).Perm
      ((store.numbers id).flatMap fun number : Nat =>
        store.composesOfBlueprint org id (some number) now window) := by
  have single : ∀ number, (store.composesOfBlueprint org id number now window).Nodup :=
    fun number => .of_map _ (composesOfBlueprint_ids_nodup sound org id number now window)
  have carries : ∀ {number : Nat} {entry : ComposeEntry},
      entry ∈ store.composesOfBlueprint org id (some number) now window →
      entry.blueprintVersion.map Int.ofNat = some (number : Int) := by
    intro number entry listed
    have held := (List.mem_filter.mp listed).2
    simpa using (Bool.and_eq_true_iff.mp held).2
  have disjoint : (store.numbers id).Pairwise (Function.onFun List.Disjoint fun number : Nat =>
      store.composesOfBlueprint org id (some number) now window) := by
    refine numbered.imp fun {first second} differs entry one two => differs ?_
    exact Int.ofNat.inj (Option.some.inj ((carries one).symm.trans (carries two)))
  refine (List.perm_ext_iff_of_nodup (single none)
    (List.nodup_flatMap.mpr ⟨fun number _ => single _, disjoint⟩)).mpr fun entry => ?_
  rw [List.mem_flatMap]
  constructor
  · intro listed
    obtain ⟨row, member, shown, comes, rfl⟩ := composesOfBlueprint_mem_iff.mp listed
    obtain ⟨version, target, linked, home, numbered⟩ := exists_version_of_comesFrom comes
    refine ⟨version.number, List.mem_map_of_mem (List.mem_filter.mpr ⟨target,
      decide_eq_true home⟩), List.mem_filter.mpr ⟨(List.mem_filter.mp listed).1, ?_⟩⟩
    have of := (Bool.and_eq_true_iff.mp (List.mem_filter.mp listed).2).1
    simp [of_decide_eq_true of, numbered]
  · rintro ⟨number, -, listed⟩
    obtain ⟨among, of⟩ := List.mem_filter.mp listed
    refine List.mem_filter.mpr ⟨among, ?_⟩
    simpa using (Bool.and_eq_true_iff.mp of).1

theorem Traces.recounts (traces : store.Traces origins) (sound : store.Sound)
    (numbered : store.Numbered) (present : blueprint ∈ store.blueprints) (now : Timestamp)
    (window : Int) : store.Recounts origins blueprint now window where
  lists number := traces.lists sound present number now window
  parts := by
    obtain ⟨count, -, counted⟩ := numbered.counted blueprint present
    refine composesOfBlueprint_parts sound _ ?_ now window
    rw [counted]
    exact List.nodup_range'

end Present

section Gone

variable {store next : Store} {origins : List Origin}

theorem Traces.orphans (traces : store.Traces origins) (sound : store.Sound) {origin : Origin}
    (held : origin ∈ origins) (gone : ∀ blueprint ∈ store.blueprints,
      blueprint.id ≠ origin.blueprintId) (now : Timestamp) (window : Int) :
    store.Orphans origin now window := by
  obtain ⟨row, member, same, stems | ⟨unlinked, -⟩⟩ := traces.kept origin held
  · obtain ⟨version, target, -, home, -⟩ := stems
    obtain ⟨blueprint, there, house⟩ := sound.homes version target
    exact absurd (house.trans home) (gone blueprint there)
  · constructor
    case stays =>
      refine ⟨row, member, same, fun alive recent => ⟨store.entry row, ?_, ?_⟩⟩
      · refine (store.activeComposes_perm row.org now window).mem_iff.mpr
          (List.mem_map_of_mem (List.mem_filter.mpr ⟨member, ?_⟩))
        simp [isListed, alive, recent]
      · simp [ComposeEntry.tag, entry, unlinked, same]
    case apart =>
      intro org id number entry listed sameId
      obtain ⟨other, among, -, comes, rfl⟩ := composesOfBlueprint_mem_iff.mp listed
      obtain ⟨version, -, linked, -⟩ := exists_version_of_comesFrom comes
      cases List.inj_on_of_nodup_map sound.composes_unique among member (sameId.trans same.symm)
      cases unlinked.symm.trans linked

/-- Removing a blueprint leaves the list of all composes, apart from the links to it. -/
theorem activeComposes_deleteBlueprint {id : Uuid} {owner account : String}
    (deleted : store.deleteBlueprint id owner account = .ok next) (org : String)
    (now : Timestamp) (window : Int) :
    (next.activeComposes org now window).map ComposeEntry.unlinked =
      (store.activeComposes org now window).map ComposeEntry.unlinked := by
  obtain ⟨-, rfl⟩ := deleteBlueprint_ok deleted
  have alike : ∀ (row : ComposeRow) (removed : List Uuid),
      (row.unlink removed).deleted = row.deleted ∧
      (row.unlink removed).imageName = row.imageName ∧
      (row.unlink removed).clientId = row.clientId := by
    intro row removed
    unfold ComposeRow.unlink
    split <;> exact ⟨rfl, rfl, rfl⟩
  have sorted (items : List ComposeEntry) :
      (newestFirst (·.createdAt) items).map ComposeEntry.unlinked =
        newestFirst (·.createdAt) (items.map ComposeEntry.unlinked) := by
    apply newestFirst_map
    exact fun _ => rfl
  unfold activeComposes
  rw [sorted, sorted]
  refine congrArg (newestFirst _) ?_
  simp only [List.filter_map, List.map_map, Function.comp_def, isActive, ComposeEntry.unlinked,
    entry, ComposeRow.unlink_id, ComposeRow.unlink_org, ComposeRow.unlink_request,
    ComposeRow.unlink_createdAt, alike]

end Gone

end Store

end ComposeDesk
