import ComposeDesk.Proofs.Store.Own

/-!
# Writes to the rows of an organization

What a write of an organization does to the whole store it does to the rows of
that organization alone, and to the rows of another one it does nothing.  Each
kind of change is followed once; the two sides are read off it.
-/

namespace ComposeDesk.Store

variable {store : Store} {org : String}

theorem only_append_compose (sound : store.Sound) (org : String) (row : ComposeRow) :
    ({ store with composes := store.composes ++ [row] } : Store).only org =
      { store.only org with
        composes := (store.only org).composes ++ [row].filter (·.org = org) } := by
  have clones : store.clones.filter (fun clone =>
        ({ store with composes := store.composes ++ [row] } : Store).owns org clone.composeId) =
      store.clones.filter fun clone => store.owns org clone.composeId := by
    refine List.filter_congr fun clone member => ?_
    obtain ⟨parent, held, same⟩ := sound.parents clone member
    have found := compose?_of_mem sound held
    rw [same] at found
    have still : ({ store with composes := store.composes ++ [row] } : Store).compose?
        clone.composeId = some parent := by
      unfold compose? at found ⊢
      rw [List.find?_append, found]
      rfl
    simp only [owns, found, still]
  simp only [only, List.filter_append, clones]
  rfl

variable (store) in
/-- Composes may change, but not their identifiers and organizations. -/
theorem only_map_composes (change : ComposeRow → ComposeRow)
    (sameId : ∀ row, (change row).id = row.id) (sameOrg : ∀ row, (change row).org = row.org)
    (org : String) :
    ({ store with composes := store.composes.map change } : Store).only org =
      { store.only org with composes := (store.only org).composes.map change } := by
  have owns (id : Uuid) :
      ({ store with composes := store.composes.map change } : Store).owns org id =
        store.owns org id := by
    unfold Store.owns compose?
    rw [List.find?_map]
    simp only [Function.comp_def, sameId]
    cases store.composes.find? (·.id = id) with
    | none => rfl
    | some row => simp [sameOrg]
  simp only [only, List.filter_map, Function.comp_def, sameOrg, owns]
  rfl

theorem only_append_clone (org : String) (row : CloneRow) :
    ({ store with clones := store.clones ++ [row] } : Store).only org =
      { store.only org with
        clones := (store.only org).clones ++
          [row].filter fun row => store.owns org row.composeId } := by
  simp only [only, List.filter_append]
  rfl

theorem only_append_blueprint (sound : store.Sound) (org : String) {row : BlueprintRow} :
    ({ store with blueprints := store.blueprints ++ [row] } : Store).only org =
      { store.only org with
        blueprints := (store.only org).blueprints ++ [row].filter (·.org = org) } := by
  have versions : store.versions.filter (fun version =>
        ({ store with blueprints := store.blueprints ++ [row] } : Store).holds org
          version.blueprintId) =
      store.versions.filter fun version => store.holds org version.blueprintId := by
    refine List.filter_congr fun version member => ?_
    obtain ⟨home, held, same⟩ := sound.homes version member
    have found := sound.housed.blueprint? held
    rw [same] at found
    have still : ({ store with blueprints := store.blueprints ++ [row] } : Store).blueprint?
        version.blueprintId = some home := by
      unfold blueprint? at found ⊢
      rw [List.find?_append, found]
      rfl
    simp only [holds, found, still]
  simp only [only, List.filter_append, versions]
  rfl

variable (store) in
/-- Blueprints may change, but not their identifiers and organizations. -/
theorem holds_map_blueprints (change : BlueprintRow → BlueprintRow)
    (sameId : ∀ row, (change row).id = row.id) (sameOrg : ∀ row, (change row).org = row.org)
    (org : String) (id : Uuid) :
    ({ store with blueprints := store.blueprints.map change } : Store).holds org id =
      store.holds org id := by
  unfold holds blueprint?
  rw [List.find?_map]
  simp only [Function.comp_def, sameId]
  cases store.blueprints.find? (·.id = id) with
  | none => rfl
  | some row => simp [sameOrg]

theorem only_map_blueprints (change : BlueprintRow → BlueprintRow)
    (sameId : ∀ row, (change row).id = row.id) (sameOrg : ∀ row, (change row).org = row.org)
    (org : String) :
    ({ store with blueprints := store.blueprints.map change } : Store).only org =
      { store.only org with blueprints := (store.only org).blueprints.map change } := by
  simp only [only, List.filter_map, Function.comp_def, sameOrg,
    holds_map_blueprints store change sameId sameOrg]
  rfl

variable (store) in
theorem only_append_version (org : String) (row : VersionRow) :
    ({ store with versions := store.versions ++ [row] } : Store).only org =
      { store.only org with
        versions := (store.only org).versions ++
          [row].filter fun row => store.holds org row.blueprintId } := by
  simp only [only, List.filter_append]
  rfl

variable (store) in
theorem only_filter_versions (keep : VersionRow → Bool) (org : String) :
    ({ store with versions := store.versions.filter keep } : Store).only org =
      { store.only org with versions := (store.only org).versions.filter keep } := by
  simp only [only, List.filter_comm keep]
  rfl

variable (store) in
/-- A blueprint without versions may be removed. -/
theorem only_remove_blueprint (org : String) (id : Uuid)
    (bare : ∀ row ∈ store.versions, row.blueprintId ≠ id) :
    ({ store with blueprints := store.blueprints.filter (·.id ≠ id) } : Store).only org =
      { store.only org with
        blueprints := (store.only org).blueprints.filter (·.id ≠ id) } := by
  have versions : store.versions.filter (fun version =>
        ({ store with blueprints := store.blueprints.filter (·.id ≠ id) } : Store).holds org
          version.blueprintId) =
      store.versions.filter fun version => store.holds org version.blueprintId := by
    refine List.filter_congr fun version member => ?_
    have elsewhere := bare version member
    have found : ({ store with
        blueprints := store.blueprints.filter (·.id ≠ id) } : Store).blueprint?
          version.blueprintId = store.blueprint? version.blueprintId := by
      unfold blueprint?
      rw [List.find?_filter]
      congr 1
      funext row
      by_cases same : row.id = version.blueprintId
      · simp [same, elsewhere]
      · simp [same]
    simp only [holds, found]
  simp only [only, versions,
    List.filter_comm (fun row : BlueprintRow => decide (row.id ≠ id))]
  rfl

theorem holds_append_new {row : BlueprintRow} (new : row.id ∉ store.blueprints.map (·.id))
    (org : String) :
    ({ store with blueprints := store.blueprints ++ [row] } : Store).holds org row.id =
      decide (row.org = org) := by
  have none : store.blueprints.find? (fun other => other.id = row.id) = none := by
    rw [List.find?_eq_none]
    intro other member
    simp only [decide_eq_true_eq]
    exact fun same => new (List.mem_map.mpr ⟨other, member, same⟩)
  unfold holds blueprint?
  rw [List.find?_append, none]
  simp

/-- A new blueprint and its version belong to one organization. -/
theorem only_insert (sound : store.Sound) (org : String) {row : BlueprintRow}
    {version : VersionRow} (new : row.id ∉ store.blueprints.map (·.id))
    (home : version.blueprintId = row.id) :
    ({ store with
        blueprints := store.blueprints ++ [row]
        versions := store.versions ++ [version] } : Store).only org =
      if row.org = org then
        { store.only org with
          blueprints := (store.only org).blueprints ++ [row]
          versions := (store.only org).versions ++ [version] }
      else store.only org := by
  refine (only_append_version { store with blueprints := store.blueprints ++ [row] }
    org version).trans ?_
  have held := holds_append_new new org
  rw [only_append_blueprint sound]
  by_cases owned : row.org = org
  · rw [if_pos owned]
    simp [home, held, owned]
  · rw [if_neg owned]
    simp [home, held, owned]

theorem only_update (org : String) (write : BlueprintWrite) {version : VersionRow}
    (home : version.blueprintId = write.id) :
    ({ store with
        blueprints := store.blueprints.map (·.rename write)
        versions := store.versions ++ [version] } : Store).only org =
      { store.only org with
        blueprints := (store.only org).blueprints.map (·.rename write)
        versions := (store.only org).versions ++
          if store.holds org write.id then [version] else [] } := by
  have held := holds_map_blueprints store (·.rename write)
    (BlueprintRow.rename_id write) (BlueprintRow.rename_org write) org write.id
  refine (only_append_version { store with blueprints := store.blueprints.map (·.rename write) }
    org version).trans ?_
  rw [only_map_blueprints _ (BlueprintRow.rename_id write) (BlueprintRow.rename_org write)]
  simp only [List.filter_cons, List.filter_nil, home, held]

theorem only_remove (org : String) (id : Uuid) (removed : List Uuid) :
    ({ store with
        blueprints := store.blueprints.filter (·.id ≠ id)
        versions := store.versions.filter (·.blueprintId ≠ id)
        composes := store.composes.map (·.unlink removed) } : Store).only org =
      { store.only org with
        blueprints := (store.only org).blueprints.filter (·.id ≠ id)
        versions := (store.only org).versions.filter (·.blueprintId ≠ id)
        composes := (store.only org).composes.map (·.unlink removed) } := by
  have linked := only_map_composes store (·.unlink removed)
    (ComposeRow.unlink_id removed) (ComposeRow.unlink_org removed) org
  have bare := only_filter_versions
    { store with composes := store.composes.map (·.unlink removed) }
    (fun row => row.blueprintId ≠ id) org
  refine (only_remove_blueprint { store with
    composes := store.composes.map (·.unlink removed)
    versions := store.versions.filter (·.blueprintId ≠ id) } org id ?_).trans ?_
  · intro row member
    simpa using (List.mem_filter.mp member).2
  · rw [bare, linked]

/-! ## Changes for another organization -/

section Other

variable {caller : Identity} {asked : ComposeRequest → Prop} {given : List Uuid} {next : Store}

/-- A row that no other one shares its identifier with belongs to one organization. -/
theorem compose_id_ne (sound : store.Sound) {id : Uuid} {held row : ComposeRow}
    (found : store.compose? id = some held) (member : row ∈ store.composes)
    (apart : held.org ≠ row.org) : row.id ≠ id := by
  rintro rfl
  rw [compose?_of_mem sound member] at found
  exact apart (congrArg ComposeRow.org (Option.some.inj found)).symm

theorem blueprint_id_ne (sound : store.Sound) {id : Uuid} {held row : BlueprintRow}
    (found : store.blueprint? id = some held) (member : row ∈ store.blueprints)
    (apart : held.org ≠ row.org) : row.id ≠ id := by
  rintro rfl
  rw [sound.housed.blueprint? member] at found
  exact apart (congrArg BlueprintRow.org (Option.some.inj found)).symm

/-- The versions of another organization's blueprint are not linked to. -/
theorem unlink_of_other (sound : store.Sound) {id : Uuid} {held : BlueprintRow}
    {row : ComposeRow} (found : store.blueprint? id = some held) (member : row ∈ store.composes)
    (apart : held.org ≠ row.org) : row.unlink (store.versionIds id) = row := by
  unfold ComposeRow.unlink
  refine if_neg fun linked => ?_
  cases named : row.versionId with
  | none =>
      rw [named] at linked
      cases linked
  | some version =>
      rw [named] at linked
      have removed : version ∈ store.versionIds id := by simpa using linked
      obtain ⟨gone, among, same⟩ := List.mem_map.mp removed
      obtain ⟨present, of⟩ := List.mem_filter.mp among
      obtain ⟨target, linkedTo, sameTarget, home, kept, homeOf, owner⟩ :=
        sound.links row member version named
      have one := List.inj_on_of_nodup_map sound.versions_unique present linkedTo
        (same.trans sameTarget.symm)
      rw [← one] at homeOf
      exact blueprint_id_ne sound found kept (by rw [owner]; exact apart)
        (homeOf.trans (of_decide_eq_true of))

theorem insertCompose_other (sound : store.Sound) {row : ComposeRow} (other : row.org ≠ org)
    (inserted : store.insertCompose row = .ok next) : next.only org = store.only org := by
  obtain ⟨-, rfl⟩ := insertCompose_ok_iff.mp inserted
  rw [only_append_compose sound]
  simp [other]

theorem deleteCompose_other (sound : store.Sound) {id : Uuid} {owner : String}
    (other : owner ≠ org) (deleted : store.deleteCompose id owner = .ok next) :
    next.only org = store.only org := by
  obtain ⟨⟨held, found, active⟩, rfl⟩ := deleteCompose_ok deleted
  simp only [isActive, Bool.and_eq_true, decide_eq_true_eq] at active
  have same : (store.only org).composes.map (·.hide id) = (store.only org).composes := by
    refine (List.map_congr_left fun row member => ?_).trans (List.map_id _)
    obtain ⟨among, owned⟩ := List.mem_filter.mp member
    refine if_neg (compose_id_ne sound found among ?_)
    rw [active.2, of_decide_eq_true owned]
    exact other
  rw [only_map_composes _ _ (ComposeRow.hide_id _) (ComposeRow.hide_org _), same]

theorem insertClone_other {row : CloneRow} {owner : String}
    (owned : store.owns owner row.composeId = true) (other : owner ≠ org)
    (inserted : store.insertClone row = .ok next) : next.only org = store.only org := by
  obtain ⟨-, rfl⟩ := insertClone_ok inserted
  obtain ⟨parent, found, same⟩ := owns_iff.mp owned
  rw [only_append_clone]
  simp [owns, found, same, other]

theorem insertBlueprint_other (sound : store.Sound) {write : BlueprintWrite} {now : Timestamp}
    (new : write.id ∉ store.blueprints.map (·.id)) (other : write.org ≠ org)
    (inserted : store.insertBlueprint write now = .ok next) :
    next.only org = store.only org := by
  obtain ⟨-, rfl⟩ := insertBlueprint_ok inserted
  have newRow : write.row.id ∉ store.blueprints.map (·.id) := new
  rw [putBlueprint_of_new newRow, only_insert sound org newRow rfl]
  exact if_neg other

theorem updateBlueprint_other (sound : store.Sound) {write : BlueprintWrite} {now : Timestamp}
    {number : Nat} (other : write.org ≠ org)
    (written : store.updateBlueprint write now = .ok (next, number)) :
    next.only org = store.only org := by
  obtain ⟨owned, -, -, rfl⟩ := updateBlueprint_ok written
  obtain ⟨held, found, owner, -⟩ := blueprint_of_owns owned
  have apart : held.org ≠ org := by
    rw [owner]
    exact other
  have kept : store.holds org write.id = false := by
    simp [holds, found, apart]
  have same : (store.only org).blueprints.map (·.rename write) =
      (store.only org).blueprints := by
    refine (List.map_congr_left fun row member => ?_).trans (List.map_id _)
    obtain ⟨among, mine⟩ := List.mem_filter.mp member
    refine if_neg (blueprint_id_ne sound found among ?_)
    rw [of_decide_eq_true mine]
    exact apart
  rw [only_update org write rfl, same]
  simp [kept]

theorem deleteBlueprint_other (sound : store.Sound) {id : Uuid} {owner account : String}
    (other : owner ≠ org) (deleted : store.deleteBlueprint id owner account = .ok next) :
    next.only org = store.only org := by
  obtain ⟨owned, rfl⟩ := deleteBlueprint_ok deleted
  obtain ⟨held, found, same, -⟩ := blueprint_of_owns owned
  have apart : held.org ≠ org := by
    rw [same]
    exact other
  have blueprints : (store.only org).blueprints.filter (·.id ≠ id) =
      (store.only org).blueprints := by
    refine List.filter_eq_self.mpr fun row member => decide_eq_true ?_
    obtain ⟨among, mine⟩ := List.mem_filter.mp member
    refine blueprint_id_ne sound found among ?_
    rw [of_decide_eq_true mine]
    exact apart
  have versions : (store.only org).versions.filter (·.blueprintId ≠ id) =
      (store.only org).versions := by
    refine List.filter_eq_self.mpr fun row member => decide_eq_true ?_
    rintro rfl
    obtain ⟨home, homeFound, mine⟩ := holds_iff.mp (List.mem_filter.mp member).2
    rw [found] at homeFound
    cases homeFound
    exact apart mine
  have composes : (store.only org).composes.map (·.unlink (store.versionIds id)) =
      (store.only org).composes := by
    refine (List.map_congr_left fun row member => ?_).trans (List.map_id _)
    obtain ⟨among, mine⟩ := List.mem_filter.mp member
    refine unlink_of_other sound found among ?_
    rw [of_decide_eq_true mine]
    exact apart
  rw [only_remove, blueprints, versions, composes]

/-- A change for an organization leaves the rows of every other one. -/
theorem Change.only_of_ne (change : Change caller asked given store next) (sound : store.Sound)
    (fresh : (store.ids ++ given).Nodup) (other : caller.org ≠ org) :
    next.only org = store.only org := by
  cases change with
  | unchanged => rfl
  | composed request versionId composeId now wanted linked inserted =>
      exact insertCompose_other sound other inserted
  | hidden composeId deleted => exact deleteCompose_other sound other deleted
  | cloned composeId request cloneId now owned inserted =>
      exact insertClone_other owned other inserted
  | created blueprintId versionId draft now inserted =>
      have new := blueprint_new fresh (List.mem_cons_self (a := blueprintId) (l := [versionId]))
      exact insertBlueprint_other sound new other inserted
  | updated blueprintId versionId draft now number written =>
      exact updateBlueprint_other sound other written
  | removed blueprintId deleted => exact deleteBlueprint_other sound other deleted

end Other

/-! ## Writes of the organization -/

/-- The rows of an organization beside what a write answers. -/
def onlyOf (org : String) {α : Type} (written : Store × α) : Store × α :=
  (written.1.only org, written.2)

theorem insertCompose_only (sound : store.Sound) {row : ComposeRow} (owned : row.org = org)
    (new : ∀ held ∈ store.composes, held.id ≠ row.id) :
    (store.only org).insertCompose row = (store.insertCompose row).map (·.only org) := by
  rw [insertCompose_ok_iff.mpr ⟨new, rfl⟩]
  refine insertCompose_ok_iff.mpr ⟨?_, ?_⟩
  · exact fun held member => new held (List.mem_filter.mp member).1
  · refine (only_append_compose sound org row).trans ?_
    simp [owned]

theorem deleteCompose_only (sound : store.Sound) (id : Uuid) :
    (store.only org).deleteCompose id org = (store.deleteCompose id org).map (·.only org) := by
  unfold deleteCompose
  rw [compose?_only org sound]
  rcases found : store.compose? id with _ | row
  · rfl
  · by_cases owned : row.org = org
    · rw [Option.filter_some_pos (by simpa using owned)]
      by_cases active : isActive org row = true
      · simp only [active, if_true, Except.map]
        refine congrArg Except.ok (Eq.symm ?_)
        exact only_map_composes _ _ (ComposeRow.hide_id id) (ComposeRow.hide_org id) org
      · simp only [active, Except.map]
        rfl
    · rw [Option.filter_some_neg (by simpa using owned)]
      simp [isActive, owned, Except.map]

theorem insertClone_only (sound : store.Sound) {row : CloneRow}
    (owned : store.owns org row.composeId = true) :
    (store.only org).insertClone row = (store.insertClone row).map (·.only org) := by
  obtain ⟨parent, found, owner⟩ := owns_iff.mp owned
  have mine : (store.only org).compose? row.composeId = some parent := by
    rw [compose?_only org sound, found]
    exact Option.filter_some_pos (by simpa using owner)
  unfold insertClone
  rw [mine, found]
  simp only [Except.map]
  rw [only_append_clone]
  simp [owned]

theorem isTaken_only (name : String) (except : Option Uuid) :
    (store.only org).isTaken org name except = store.isTaken org name except := by
  unfold isTaken only
  rw [List.any_filter]
  congr 1
  funext row
  cases decide (row.org = org) <;> simp

theorem insertBlueprint_only (sound : store.Sound) {write : BlueprintWrite}
    (owned : write.org = org) (new : write.id ∉ store.blueprints.map (·.id)) (now : Timestamp) :
    (store.only org).insertBlueprint write now =
      (store.insertBlueprint write now).map (·.only org) := by
  subst owned
  have newOwn : write.id ∉ (store.only write.org).blueprints.map (·.id) :=
    fun held => new ((List.filter_sublist.map _).subset held)
  rw [insertBlueprint_eq, insertBlueprint_eq, isTaken_only,
    putBlueprint_of_new (show write.row.id ∉ _ from new),
    putBlueprint_of_new (show write.row.id ∉ _ from newOwn)]
  by_cases taken : store.isTaken write.org write.name none = true
  · rw [if_pos taken, if_pos taken]
    rfl
  · rw [if_neg taken, if_neg taken]
    refine congrArg Except.ok (Eq.symm ?_)
    exact (only_insert sound write.org new rfl).trans (if_pos rfl)

theorem ownsBlueprint_only (sound : store.Sound) (id : Uuid) (account : String) :
    (store.only org).ownsBlueprint id org account = store.ownsBlueprint id org account := by
  unfold ownsBlueprint
  rw [blueprint?_only org sound]
  cases store.blueprint? id with
  | none => rfl
  | some row => by_cases owned : row.org = org <;> simp [Option.filter, owned]

/-- Who owns a blueprint holds it. -/
theorem holds_of_ownsBlueprint {id : Uuid} {account : String}
    (owned : store.ownsBlueprint id org account = true) : store.holds org id = true := by
  obtain ⟨row, found, owner, -⟩ := blueprint_of_owns owned
  exact holds_iff.mpr ⟨row, found, owner⟩

theorem updateBlueprint_only (sound : store.Sound) {write : BlueprintWrite}
    (owned : write.org = org) (now : Timestamp) :
    (store.only org).updateBlueprint write now =
      (store.updateBlueprint write now).map (onlyOf org) := by
  subst owned
  rw [updateBlueprint_eq, updateBlueprint_eq, ownsBlueprint_only sound, isTaken_only]
  by_cases owns : store.ownsBlueprint write.id write.org write.account = true
  · have held := holds_of_ownsBlueprint owns
    have number : (store.only write.org).nextNumber write.id = store.nextNumber write.id := by
      unfold nextNumber
      rw [latest?_only held]
    rw [number]
    by_cases taken : store.isTaken write.org write.name (some write.id) = true
    · simp [owns, taken, Except.map]
    · simp only [owns, taken, Bool.not_true, Bool.false_eq_true, if_false, Except.map, onlyOf]
      rw [only_update write.org write rfl]
      simp [held]
  · simp [owns, Except.map]

theorem deleteBlueprint_only (sound : store.Sound) (id : Uuid) (account : String) :
    (store.only org).deleteBlueprint id org account =
      (store.deleteBlueprint id org account).map (·.only org) := by
  rw [deleteBlueprint_eq, deleteBlueprint_eq, ownsBlueprint_only sound]
  by_cases owns : store.ownsBlueprint id org account = true
  · have held := holds_of_ownsBlueprint owns
    have same : (store.only org).versionIds id = store.versionIds id := by
      unfold versionIds
      congr 1
      refine filter_filter_of_imp (fun row selected => ?_) store.versions
      rw [of_decide_eq_true selected]
      exact held
    simp only [owns, Bool.not_true, Bool.false_eq_true, if_false, Except.map, same]
    rw [only_remove]
  · simp [owns, Except.map]

end ComposeDesk.Store
