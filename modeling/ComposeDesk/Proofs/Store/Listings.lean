import ComposeDesk.Proofs.Paging
import ComposeDesk.Proofs.Store.Change
import ComposeDesk.Proofs.Store.History

/-!
# Lists of an organization

The composes, the clones of a compose, the blueprints, and the composes of a
blueprint are each listed exactly: every row that belongs to a list stands in it
once, wherever the store keeps it.
-/

namespace ComposeDesk.Store

def Versioned (store : Store) : Prop :=
  ∀ row ∈ store.blueprints, ∃ version ∈ store.versions, version.blueprintId = row.id

theorem versioned_empty : empty.Versioned := by
  intro row member
  cases member

section Versioned

variable {caller : Identity} {asked : ComposeRequest → Prop} {given : List Uuid}
  {store next : Store}

theorem Change.versioned (change : Change caller asked given store next)
    (versioned : store.Versioned) : next.Versioned := by
  cases change with
  | unchanged => exact versioned
  | composed request versionId id now wanted linked inserted =>
      obtain ⟨-, rfl⟩ := insertCompose_ok_iff.mp inserted
      exact versioned
  | hidden id deleted =>
      obtain ⟨-, rfl⟩ := deleteCompose_ok deleted
      exact versioned
  | cloned composeId request id now owned inserted =>
      obtain ⟨-, rfl⟩ := insertClone_ok inserted
      exact versioned
  | created id versionId draft now inserted =>
      obtain ⟨-, rfl⟩ := insertBlueprint_ok inserted
      intro row member
      rcases mem_putBlueprint member with rfl | held
      · exact ⟨_, List.mem_append_right _ (List.mem_singleton_self _), rfl⟩
      · obtain ⟨version, among, home⟩ := versioned row held
        exact ⟨version, List.mem_append_left _ among, home⟩
  | updated id versionId draft now number written =>
      obtain ⟨-, -, -, rfl⟩ := updateBlueprint_ok written
      intro row member
      obtain ⟨held, before, rfl⟩ := List.mem_map.mp member
      obtain ⟨version, among, home⟩ := versioned held before
      exact ⟨version, List.mem_append_left _ among, home.trans (BlueprintRow.rename_id _ _).symm⟩
  | removed id deleted =>
      obtain ⟨-, rfl⟩ := deleteBlueprint_ok deleted
      intro row member
      obtain ⟨held, other⟩ := List.mem_filter.mp member
      obtain ⟨version, among, home⟩ := versioned row held
      refine ⟨version, List.mem_filter.mpr ⟨among, ?_⟩, home⟩
      rw [home]
      exact other

theorem Changes.versioned (changes : Changes caller asked given store next)
    (versioned : store.Versioned) : next.Versioned :=
  changes.keep Change.versioned versioned

/-- Of some versions, one is the latest. -/
theorem exists_latest {id : Uuid} (some : ∃ version ∈ store.versions, version.blueprintId = id) :
    ∃ version, store.latest? id = .some version := by
  obtain ⟨version, member, home⟩ := some
  have among : version ∈ store.versions.filter (·.blueprintId = id) :=
    List.mem_filter.mpr ⟨member, decide_eq_true home⟩
  obtain ⟨earlier, last, split⟩ := (List.eq_nil_or_concat _).resolve_left (List.ne_nil_of_mem among)
  unfold latest?
  rw [split, List.concat_eq_append, List.foldl_append, List.foldl_cons, List.foldl_nil]
  unfold laterVersion
  split
  · split
    · exact ⟨_, rfl⟩
    · exact ⟨_, rfl⟩
  · exact ⟨_, rfl⟩

end Versioned

section Lists

variable {store : Store} {org : String} {now : Timestamp} {window : Int}

/-- A compose comes from a blueprint, and from the version of a number if one is
given. -/
def comesFrom (store : Store) (id : Uuid) (number : Option Int) (row : ComposeRow) : Bool :=
  (row.versionId.bind store.version?).any fun version =>
    version.blueprintId = id && number.all fun wanted => (version.number : Int) = wanted

/-- What an entry tells of its blueprint is where its compose comes from. -/
theorem entry_comesFrom (store : Store) (id : Uuid) (number : Option Int) (row : ComposeRow) :
    (decide ((store.entry row).blueprintId = some id) &&
      (match number with
        | some number => decide ((store.entry row).blueprintVersion.map Int.ofNat = some number)
        | none => true)) = store.comesFrom id number row := by
  unfold entry comesFrom
  cases row.versionId.bind store.version? with
  | none => cases number <;> simp
  | some version => cases number <;> simp

/-- A compose is listed: it belongs to the organization, is not deleted, and was
created within the window. -/
def isListed (org : String) (now : Timestamp) (window : Int) (row : ComposeRow) : Bool :=
  row.org = org && !row.deleted && row.createdAt.isWithin now window

theorem activeComposes_perm (store : Store) (org : String) (now : Timestamp) (window : Int) :
    (store.activeComposes org now window).Perm
      ((store.composes.filter (isListed org now window)).map store.entry) := by
  have same : store.composes.filter (isListed org now window) =
      store.composes.filter fun row => isActive org row && row.createdAt.isWithin now window := by
    refine List.filter_congr fun row _ => ?_
    rw [isListed, isActive, Bool.and_comm (!row.deleted)]
  rw [same]
  exact newestFirst_perm _ _

theorem composesOfBlueprint_perm (store : Store) (org : String) (id : Uuid) (number : Option Int)
    (now : Timestamp) (window : Int) :
    (store.composesOfBlueprint org id number now window).Perm
      ((store.composes.filter fun row =>
        isListed org now window row && store.comesFrom id number row).map store.entry) := by
  refine ((store.activeComposes_perm org now window).filter _).trans (.of_eq ?_)
  rw [List.filter_map, List.filter_filter]
  refine congrArg (List.map store.entry) (List.filter_congr fun row _ => ?_)
  rw [Function.comp_apply, Bool.and_comm]
  exact congrArg _ (entry_comesFrom store id number row)

theorem clonesOf_perm (store : Store) (id : Uuid) (org : String) :
    (store.clonesOf id org).Perm
      (store.clones.filter fun row => store.owns org id && row.composeId = id) := by
  unfold clonesOf
  split
  · rename_i owned
    simp only [owned, Bool.true_and]
    exact newestFirst_perm _ _
  · rename_i foreign
    simp [foreign]

/-- A blueprint is listed with its latest version. -/
def Summarizes (store : Store) (row : BlueprintRow) (summary : BlueprintSummary) : Prop :=
  ∃ version, store.latest? row.id = some version ∧
    summary = ⟨row.id, row.name, row.description, version.number, version.createdAt⟩

/-- Every list of an organization is exact. -/
structure Listings (store : Store) (org : String) (now : Timestamp) (window : Int) : Prop where
  composes : ∃ list, Paged (fun row entry => entry = store.entry row) (·.createdAt)
    (store.composes.filter (isListed org now window))
    (fun range => range.of (store.activeComposes org now window)) list
  clones : ∀ id, ∃ list, Paged (fun row clone => clone = row) (·.createdAt)
    (store.clones.filter fun row => store.owns org id && row.composeId = id)
    (fun range => range.of (store.clonesOf id org)) list
  blueprints : ∀ filter : BlueprintFilter, ∃ list, Paged store.Summarizes (·.modifiedAt)
    (store.blueprints.filter fun row => row.org = org && filter.accepts row)
    (fun range => range.of (store.findBlueprints org filter)) list
  blueprintComposes : ∀ id number, ∃ list,
    Paged (fun row entry => entry = store.entry row) (·.createdAt)
      (store.composes.filter fun row =>
        isListed org now window row && store.comesFrom id number row)
      (fun range => range.of (store.composesOfBlueprint org id number now window)) list

theorem listings (versioned : store.Versioned) (org : String) (now : Timestamp) (window : Int) :
    store.Listings org now window where
  composes :=
    ⟨_, paged (fun _ _ _ first second => first.trans second.symm) (forall₂_map_self _ _)
      (store.activeComposes_perm org now window) (newestFirst_pairwise _ _)⟩
  clones id := by
    have shown := forall₂_map_self (fun row : CloneRow => row)
      (store.clones.filter fun row => store.owns org id && row.composeId = id)
    rw [List.map_id'] at shown
    refine ⟨_, paged (fun _ _ _ first second => first.trans second.symm) shown
      (store.clonesOf_perm id org) ?_⟩
    unfold clonesOf
    split
    · exact newestFirst_pairwise _ _
    · exact .nil
  blueprints filter := by
    have each : ∀ row ∈ store.blueprints.filter (fun row => row.org = org && filter.accepts row),
        ∃ summary, store.summary? row = some summary := by
      intro row held
      obtain ⟨version, latest⟩ := exists_latest (versioned row (List.mem_filter.mp held).1)
      exact ⟨_, congrArg _ latest⟩
    have shown := forall₂_filterMap each
    refine ⟨_, paged ?_ (shown.imp ?_) (store.findBlueprints_perm org filter)
      (newestFirst_pairwise _ _)⟩
    · rintro row _ _ ⟨version, latest, rfl⟩ ⟨other, same, rfl⟩
      cases latest.symm.trans same
      rfl
    · intro row summary told
      obtain ⟨version, latest, rfl⟩ := Option.map_eq_some_iff.mp told
      exact ⟨version, latest, rfl⟩
  blueprintComposes id number :=
    ⟨_, paged (fun _ _ _ first second => first.trans second.symm) (forall₂_map_self _ _)
      (store.composesOfBlueprint_perm org id number now window)
      ((newestFirst_pairwise _ _).filter _)⟩

end Lists

end ComposeDesk.Store
