import ComposeDesk.Proofs.Alike
import ComposeDesk.Proofs.Store.Sound

/-!
# What an organization has in the store

Of a sound store an organization sees only its own rows: every look-up finds in
them what it finds in the whole store.  Clones belong to it through their
compose, and versions through their blueprint.
-/

namespace ComposeDesk.Store

def holds (store : Store) (org : String) (id : Uuid) : Bool :=
  match store.blueprint? id with
  | some row => row.org = org
  | none => false

def only (store : Store) (org : String) : Store where
  composes := store.composes.filter (·.org = org)
  clones := store.clones.filter fun row => store.owns org row.composeId
  blueprints := store.blueprints.filter (·.org = org)
  versions := store.versions.filter fun row => store.holds org row.blueprintId

variable {store : Store} {org : String}

theorem holds_iff {id : Uuid} :
    store.holds org id = true ↔ ∃ row, store.blueprint? id = some row ∧ row.org = org := by
  unfold holds
  cases store.blueprint? id <;> simp

/-- The versions of a blueprint belong to whom it belongs. -/
theorem latest?_only {id : Uuid} (held : store.holds org id = true) :
    (store.only org).latest? id = store.latest? id := by
  unfold latest? only
  rw [List.filter_filter]
  congr 1
  refine List.filter_congr fun row _ => ?_
  by_cases same : row.blueprintId = id <;> simp [same, held]

theorem versionOf?_only {id : Uuid} (held : store.holds org id = true) (number : Int) :
    (store.only org).versionOf? id number = store.versionOf? id number := by
  unfold versionOf? only
  rw [List.find?_filter]
  congr 1
  funext row
  by_cases same : row.blueprintId = id <;> simp [same, held]

section Lookup

variable (sound : store.Sound) (org)

include sound

theorem compose?_only (id : Uuid) :
    (store.only org).compose? id = (store.compose? id).filter (·.org = org) :=
  find?_filter_of_unique sound.composes_unique _ id

theorem blueprint?_only (id : Uuid) :
    (store.only org).blueprint? id = (store.blueprint? id).filter (·.org = org) :=
  find?_filter_of_unique sound.blueprints_unique _ id

theorem version?_only (id : Uuid) :
    (store.only org).version? id =
      (store.version? id).filter fun row => store.holds org row.blueprintId :=
  find?_filter_of_unique sound.versions_unique _ id

theorem owns_only (id : Uuid) : (store.only org).owns org id = store.owns org id := by
  unfold owns
  rw [compose?_only org sound]
  cases store.compose? id with
  | none => rfl
  | some row => by_cases owned : row.org = org <;> simp [Option.filter, owned]

theorem compose?_of_mem {row : ComposeRow} (member : row ∈ store.composes) :
    store.compose? row.id = some row :=
  find?_of_mem sound.composes_unique member

theorem version?_of_mem {row : VersionRow} (member : row ∈ store.versions) :
    store.version? row.id = some row :=
  find?_of_mem sound.versions_unique member

/-- A linked version is one of the organization of the compose. -/
theorem version?_only_of_links {id : Uuid} (links : store.Links org id) :
    (store.only org).version? id = store.version? id := by
  obtain ⟨row, member, rfl, blueprint, home, of, owned⟩ := links
  rw [version?_only org sound, version?_of_mem sound member]
  refine Option.filter_some_pos (holds_iff.mpr ⟨blueprint, ?_, owned⟩)
  rw [← of, sound.housed.blueprint? home]

/-- A compose is shown with the blueprint that it came from. -/
theorem entry_only {row : ComposeRow} (member : row ∈ store.composes) (owned : row.org = org) :
    (store.only org).entry row = store.entry row := by
  have same : row.versionId.bind (store.only org).version? =
      row.versionId.bind store.version? := by
    cases linked : row.versionId with
    | none => rfl
    | some version =>
        have links := sound.links row member version linked
        rw [owned] at links
        exact version?_only_of_links org sound links
  simp only [entry, same]

end Lookup

/-- Rows that are selected by their organization are selected among its rows. -/
theorem filter_filter_of_imp {α : Type} {keep select : α → Bool}
    (implies : ∀ row, select row = true → keep row = true) (rows : List α) :
    (rows.filter keep).filter select = rows.filter select := by
  rw [List.filter_filter]
  refine List.filter_congr fun row _ => ?_
  cases selected : select row with
  | false => rfl
  | true => rw [implies row selected]; rfl

theorem getCompose_only (sound : store.Sound) (id : Uuid) :
    (store.only org).getCompose id org = store.getCompose id org := by
  unfold getCompose
  rw [compose?_only org sound]
  rcases found : store.compose? id with _ | row
  · rfl
  · by_cases owned : row.org = org
    · rw [Option.filter_some_pos (by simpa using owned)]
      simp only [entry_only org sound (compose?_mem found).1 owned]
    · rw [Option.filter_some_neg (by simpa using owned)]
      simp [isActive, owned]

theorem activeComposes_only (sound : store.Sound) (now : Timestamp) (window : Int) :
    (store.only org).activeComposes org now window = store.activeComposes org now window := by
  unfold activeComposes
  congr 1
  have same : ((store.only org).composes.filter fun row =>
      isActive org row && row.createdAt.isWithin now window) =
      store.composes.filter fun row => isActive org row && row.createdAt.isWithin now window := by
    refine filter_filter_of_imp (fun row selected => ?_) store.composes
    simp only [isActive, Bool.and_eq_true] at selected
    exact selected.1.2
  rw [same]
  refine List.map_congr_left fun row member => ?_
  obtain ⟨held, selected⟩ := List.mem_filter.mp member
  simp only [isActive, Bool.and_eq_true, decide_eq_true_eq] at selected
  exact entry_only org sound held selected.1.2

theorem clonesOf_only (sound : store.Sound) (composeId : Uuid) :
    (store.only org).clonesOf composeId org = store.clonesOf composeId org := by
  unfold clonesOf
  rw [owns_only org sound]
  by_cases owned : store.owns org composeId = true
  · rw [if_pos owned, if_pos owned]
    congr 1
    refine filter_filter_of_imp (fun row selected => ?_) store.clones
    rw [of_decide_eq_true selected]
    exact owned
  · rw [if_neg owned, if_neg owned]

theorem getClone_only (sound : store.Sound) (id : Uuid) :
    (store.only org).getClone id org = store.getClone id org := by
  have same : (store.only org).clones.find?
        (fun row => row.id = id && (store.only org).owns org row.composeId) =
      store.clones.find? fun row => row.id = id && store.owns org row.composeId := by
    simp only [only, List.find?_filter]
    congr 1
    funext row
    have owned := owns_only org sound row.composeId
    simp only [only] at owned
    rw [owned]
    cases store.owns org row.composeId <;> simp
  unfold getClone
  rw [same]

theorem getBlueprint_only (sound : store.Sound) (id : Uuid) (number : Option Int) :
    (store.only org).getBlueprint id org number = store.getBlueprint id org number := by
  unfold getBlueprint
  rw [blueprint?_only org sound]
  rcases found : store.blueprint? id with _ | row
  · rfl
  · by_cases owned : row.org = org
    · have held : store.holds org id = true := holds_iff.mpr ⟨row, found, owned⟩
      rw [Option.filter_some_pos (by simpa using owned)]
      cases number with
      | none => simp only [latest?_only held]
      | some number => simp only [versionOf?_only held]
    · rw [Option.filter_some_neg (by simpa using owned)]
      simp [owned]

theorem findBlueprints_only (sound : store.Sound) (filter : BlueprintFilter) :
    (store.only org).findBlueprints org filter = store.findBlueprints org filter := by
  unfold findBlueprints
  have same : ((store.only org).blueprints.filter fun row => row.org = org && filter.accepts row) =
      store.blueprints.filter fun row => row.org = org && filter.accepts row := by
    refine filter_filter_of_imp (fun row selected => ?_) store.blueprints
    simp only [Bool.and_eq_true] at selected
    exact selected.1
  simp only [same]
  congr 1
  refine List.filterMap_congr fun row member => ?_
  obtain ⟨among, selected⟩ := List.mem_filter.mp member
  simp only [Bool.and_eq_true, decide_eq_true_eq] at selected
  rw [latest?_only (holds_iff.mpr ⟨row, sound.housed.blueprint? among, selected.1⟩)]

/-- A sound store beside the rows of an organization. -/
def Mirror (org : String) (full own : Store) : Prop :=
  full.Sound ∧ own = full.only org

/-- Organizations see of a sound store what they see of their own rows. -/
theorem views_mirror (org : String) : Views (Mirror org) org where
  countComposes := by
    rintro full _ ⟨sound, rfl⟩ now window
    unfold countComposes
    refine congrArg List.length (Eq.symm (filter_filter_of_imp (fun row selected => ?_) _))
    simp only [Bool.and_eq_true] at selected
    exact selected.1
  activeComposes := by
    rintro full _ ⟨sound, rfl⟩ now window
    exact (activeComposes_only sound now window).symm
  getCompose := by
    rintro full _ ⟨sound, rfl⟩ id
    exact (getCompose_only sound id).symm
  clonesOf := by
    rintro full _ ⟨sound, rfl⟩ composeId
    exact (clonesOf_only sound composeId).symm
  getClone := by
    rintro full _ ⟨sound, rfl⟩ id
    exact (getClone_only sound id).symm
  getBlueprint := by
    rintro full _ ⟨sound, rfl⟩ id number
    exact (getBlueprint_only sound id number).symm
  findBlueprints := by
    rintro full _ ⟨sound, rfl⟩ filter
    exact (findBlueprints_only sound filter).symm

end ComposeDesk.Store
