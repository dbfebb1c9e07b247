import ComposeDesk.Proofs.Drafting
import ComposeDesk.Proofs.Request.Body
import ComposeDesk.Proofs.Store.Look
import ComposeDesk.Proofs.Store.Write

/-!
# Stores alike but for passwords

Stores that differ in the rows of versions only, row by row, where rows that belong
together have the same blueprint and number.  Looking up a blueprint and writing one
give the same on both, but for those rows.
-/

namespace ComposeDesk

/-- Rows that belong together are versions of the same blueprint with the same number. -/
structure RowsMatch (rows : VersionRow → VersionRow → Prop) : Prop where
  blueprintId : ∀ {row other}, rows row other → row.blueprintId = other.blueprintId
  number : ∀ {row other}, rows row other → row.number = other.number

/-- Stores that are the same but for the rows of versions. -/
structure Store.Like (rows : VersionRow → VersionRow → Prop) (store other : Store) : Prop where
  composes : store.composes = other.composes
  clones : store.clones = other.clones
  blueprints : store.blueprints = other.blueprints
  versions : store.versions.Forall₂ rows other.versions

inductive BodiesLike (related : String → String → Prop) : Json → Json → Prop where
  | same (document : Json) : BodiesLike related document document
  | written {body other : BlueprintBody} (like : body.Like related other) :
      BodiesLike related (BlueprintBody.codec.write body) (BlueprintBody.codec.write other)

/-- What is read of stored bodies that are alike is alike. -/
theorem BodiesLike.reads {related : String → String → Prop}
    (refl : ∀ password, related password password) {document other : Json}
    (like : BodiesLike related document other) :
    Matching (BlueprintBody.Like related) (BlueprintBody.codec.read document)
      (BlueprintBody.codec.read other) := by
  cases like with
  | same => exact .refl (.refl refl) _
  | written like =>
      rw [BlueprintBody.codec_sound.faithful, BlueprintBody.codec_sound.faithful]
      exact .ok like

namespace Store.Like

variable {rows : VersionRow → VersionRow → Prop} {store other next left : Store} {id : Uuid}

theorem refl (same : ∀ row, rows row row) (store : Store) : store.Like rows store :=
  ⟨rfl, rfl, rfl, List.forall₂_same.mpr fun _ _ => same _⟩

/-- The later one of versions that belong together. -/
theorem laterVersion (rowsMatch : RowsMatch rows) {held known : Option VersionRow}
    (before : Option.Rel rows held known) {row version : VersionRow} (both : rows row version) :
    Option.Rel rows (Store.laterVersion held row) (Store.laterVersion known version) := by
  unfold Store.laterVersion
  -- Numbers are the same on both sides, so both keep the held one or neither does.
  cases before with
  | none => exact .some both
  | @some first second bound =>
      simp only [rowsMatch.number bound, rowsMatch.number both]
      split
      · exact .some bound
      · exact .some both

/-- The versions of some blueprints belong together. -/
theorem filterVersions (like : store.Like rows other) (rowsMatch : RowsMatch rows)
    (p : Uuid → Bool) :
    (store.versions.filter fun row => p row.blueprintId).Forall₂ rows
      (other.versions.filter fun row => p row.blueprintId) := by
  refine List.rel_filter ?_ like.versions
  intro row version both
  simp only [rowsMatch.blueprintId both]

theorem latest? (like : store.Like rows other) (rowsMatch : RowsMatch rows) (id : Uuid) :
    Option.Rel rows (store.latest? id) (other.latest? id) := by
  refine List.rel_foldl ?_ .none (like.filterVersions rowsMatch (· = id))
  intro held known before row version both
  exact laterVersion rowsMatch before both

theorem chosenVersion? (like : store.Like rows other) (rowsMatch : RowsMatch rows) (id : Uuid)
    (number : Option Int) :
    Option.Rel rows (store.chosenVersion? id number) (other.chosenVersion? id number) := by
  cases number with
  | none => exact like.latest? rowsMatch id
  | some number =>
      exact find?_forall₂ (fun _ _ both => by
        rw [rowsMatch.blueprintId both, rowsMatch.number both]) like.versions

theorem nextNumber (like : store.Like rows other) (rowsMatch : RowsMatch rows) (id : Uuid) :
    store.nextNumber id = other.nextNumber id := by
  unfold Store.nextNumber
  rcases optionRel_cases (like.latest? rowsMatch id) with
    ⟨left, right⟩ | ⟨row, version, left, right, both⟩
  · rw [left, right]
  · rw [left, right]
    exact congrArg (· + 1) (rowsMatch.number both)

/-- Two entries are of one blueprint and of versions that belong together. -/
def Entries (rows : VersionRow → VersionRow → Prop) (entry held : BlueprintEntry) : Prop :=
  ∃ blueprint row version, rows row version ∧ entry = blueprintEntry blueprint row ∧
    held = blueprintEntry blueprint version

theorem blueprint? (like : store.Like rows other) (id : Uuid) :
    store.blueprint? id = other.blueprint? id := by
  unfold Store.blueprint?
  rw [like.blueprints]

theorem getBlueprint (like : store.Like rows other) (rowsMatch : RowsMatch rows) (id : Uuid)
    (org : String) (number : Option Int) :
    Matching (Entries rows) (store.getBlueprint id org number)
      (other.getBlueprint id org number) := by
  rw [getBlueprint_eq, getBlueprint_eq, like.blueprint? id]
  cases other.blueprint? id with
  | none => exact .error _
  | some row =>
      simp only
      split
      · exact .error _
      · rcases optionRel_cases (like.chosenVersion? rowsMatch id number) with
          ⟨left, right⟩ | ⟨version, known, left, right, both⟩
        · rw [left, right]
          exact .error _
        · rw [left, right]
          exact .ok ⟨_, version, known, both, rfl, rfl⟩

/-- Found versions have bodies that are alike if the rows have. -/
theorem bodyLike {related : String → String → Prop} (refl : ∀ password, related password password)
    (bodies : ∀ {row version}, rows row version → BodiesLike related row.body version.body)
    {entry held : BlueprintEntry} (entries : Entries rows entry held) :
    entry.BodyLike related held := by
  obtain ⟨blueprint, row, version, both, rfl, rfl⟩ := entries
  exact ((bodies both).reads refl).mapError _

theorem compose? (like : store.Like rows other) (id : Uuid) :
    store.compose? id = other.compose? id := by
  unfold Store.compose?
  rw [like.composes]

theorem insertCompose (like : store.Like rows other) (row : ComposeRow) :
    Matching (Store.Like rows) (store.insertCompose row) (other.insertCompose row) := by
  unfold Store.insertCompose
  rw [like.compose? row.id, like.composes]
  cases other.compose? row.id with
  | some held => exact .error _
  | none => exact .ok ⟨rfl, like.clones, like.blueprints, like.versions⟩

theorem deleteCompose (like : store.Like rows other) (id : Uuid) (org : String) :
    Matching (Store.Like rows) (store.deleteCompose id org) (other.deleteCompose id org) := by
  unfold Store.deleteCompose
  rw [like.compose? id, like.composes]
  cases other.compose? id with
  | none => exact .error _
  | some held =>
      simp only
      split
      · exact .ok ⟨rfl, like.clones, like.blueprints, like.versions⟩
      · exact .error _

theorem insertClone (like : store.Like rows other) (row : CloneRow) :
    Matching (Store.Like rows) (store.insertClone row) (other.insertClone row) := by
  unfold Store.insertClone
  rw [like.compose? row.composeId, like.clones]
  cases other.compose? row.composeId with
  | some held => exact .ok ⟨like.composes, rfl, like.blueprints, like.versions⟩
  | none => exact .error _

theorem isTaken (like : store.Like rows other) (org name : String) (except : Option Uuid) :
    store.isTaken org name except = other.isTaken org name except := by
  unfold Store.isTaken
  rw [like.blueprints]

theorem ownsBlueprint (like : store.Like rows other) (id : Uuid) (org account : String) :
    store.ownsBlueprint id org account = other.ownsBlueprint id org account := by
  unfold Store.ownsBlueprint
  rw [like.blueprint? id]

/-- One more version on both sides. -/
theorem append (like : store.Like rows other) {row version : VersionRow}
    (both : rows row version) (blueprints : List BlueprintRow) :
    ({ store with blueprints, versions := store.versions ++ [row] } : Store).Like rows
      { other with blueprints, versions := other.versions ++ [version] } :=
  ⟨like.composes, like.clones, rfl,
    List.rel_append like.versions (.cons both .nil)⟩

theorem insertBlueprint (like : store.Like rows other) {write written : BlueprintWrite}
    {now later : Timestamp} (same : write.row = written.row)
    (both : rows (write.version 1 now) (written.version 1 later)) :
    Matching (Store.Like rows) (store.insertBlueprint write now)
      (other.insertBlueprint written later) := by
  obtain ⟨id, versionId, org, account, name, description, body⟩ := write
  obtain ⟨id', versionId', org', account', name', description', body'⟩ := written
  cases same
  rw [insertBlueprint_eq, insertBlueprint_eq]
  simp only
  rw [like.isTaken, like.blueprints]
  split
  · exact .error _
  · exact .ok (like.append both _)

theorem updateBlueprint (like : store.Like rows other) (rowsMatch : RowsMatch rows)
    {write written : BlueprintWrite} {now later : Timestamp} (same : write.row = written.row)
    (both : ∀ number, rows (write.version number now) (written.version number later)) :
    Matching (fun made left => made.2 = left.2 ∧ made.1.Like rows left.1)
      (store.updateBlueprint write now) (other.updateBlueprint written later) := by
  obtain ⟨id, versionId, org, account, name, description, body⟩ := write
  obtain ⟨id', versionId', org', account', name', description', body'⟩ := written
  cases same
  rw [updateBlueprint_eq, updateBlueprint_eq]
  simp only
  rw [like.ownsBlueprint, like.isTaken, like.nextNumber rowsMatch, like.blueprints]
  split
  · exact .error _
  · split
    · exact .error _
    · exact .ok ⟨rfl, like.append (both _) _⟩

/-- Versions that are removed together are unlinked alike if they have the same
identifiers. -/
theorem deleteBlueprint (like : store.Like rows other) (rowsMatch : RowsMatch rows)
    (ids : ∀ {row version}, rows row version → row.id = version.id) (id : Uuid)
    (org account : String) :
    Matching (Store.Like rows) (store.deleteBlueprint id org account)
      (other.deleteBlueprint id org account) := by
  have removed : store.versionIds id = other.versionIds id := by
    unfold Store.versionIds
    exact map_eq_of_forall₂ (fun _ _ both => ids both) (like.filterVersions rowsMatch (· = id))
  rw [deleteBlueprint_eq, deleteBlueprint_eq, like.ownsBlueprint, removed, like.composes,
    like.blueprints]
  split
  · exact .error _
  · exact .ok ⟨rfl, like.clones, rfl, like.filterVersions rowsMatch (· ≠ id)⟩

end Store.Like

/-! ## Rows alike but for passwords -/

variable (related : String → String → Prop)

structure VersionRow.Like (row other : VersionRow) : Prop where
  rest : { row with body := .null } = { other with body := .null }
  body : BodiesLike related row.body other.body

/-- Versions as they are looked up that are the same but for the passwords in their
bodies. -/
structure BlueprintEntry.Like (entry other : BlueprintEntry) : Prop where
  rest : { entry with body := .null } = { other with body := .null }
  body : entry.BodyLike related other

variable {related} {row version : VersionRow} {store other : Store} {org : String}

theorem VersionRow.Like.refl (row : VersionRow) : row.Like related row :=
  ⟨rfl, .same _⟩

theorem VersionRow.Like.id_eq (like : row.Like related version) : row.id = version.id := by
  have same := congrArg VersionRow.id like.rest
  exact same

theorem VersionRow.Like.blueprintId_eq (like : row.Like related version) :
    row.blueprintId = version.blueprintId := by
  have same := congrArg VersionRow.blueprintId like.rest
  exact same

theorem VersionRow.Like.number_eq (like : row.Like related version) :
    row.number = version.number := by
  have same := congrArg VersionRow.number like.rest
  exact same

theorem VersionRow.Like.createdAt_eq (like : row.Like related version) :
    row.createdAt = version.createdAt := by
  have same := congrArg VersionRow.createdAt like.rest
  exact same

theorem VersionRow.like_match : RowsMatch (VersionRow.Like related) where
  blueprintId like := like.blueprintId_eq
  number like := like.number_eq

namespace Store.Like

theorem version? (like : store.Like (VersionRow.Like related) other) (id : Uuid) :
    Option.Rel (VersionRow.Like related) (store.version? id) (other.version? id) :=
  find?_forall₂ (fun _ _ both => by rw [both.id_eq]) like.versions

/-- A compose came from the same version on both sides. -/
theorem entry_eq (like : store.Like (VersionRow.Like related) other) (row : ComposeRow) :
    store.entry row = other.entry row := by
  have found : Option.Rel (VersionRow.Like related) (row.versionId.bind store.version?)
      (row.versionId.bind other.version?) := by
    cases row.versionId with
    | none => exact .none
    | some id => exact like.version? id
  unfold Store.entry
  rcases optionRel_cases found with ⟨left, right⟩ | ⟨version, held, left, right, both⟩
  · rw [left, right]
  · simp only [left, right, Option.map_some, both.blueprintId_eq, both.number_eq]

theorem owns_eq (like : store.Like (VersionRow.Like related) other) (id : Uuid) :
    store.owns org id = other.owns org id := by
  unfold Store.owns
  rw [like.compose? id]

/-- A blueprint is listed with the number and the time of its latest version, which
have nothing to do with passwords. -/
theorem summaries_eq (like : store.Like (VersionRow.Like related) other)
    (filter : BlueprintFilter) :
    store.findBlueprints org filter = other.findBlueprints org filter := by
  have summary (row : BlueprintRow) :
      (store.latest? row.id).map (fun version =>
        (⟨row.id, row.name, row.description, version.number, version.createdAt⟩ :
          BlueprintSummary)) =
      (other.latest? row.id).map fun version =>
        ⟨row.id, row.name, row.description, version.number, version.createdAt⟩ := by
    rcases optionRel_cases (like.latest? VersionRow.like_match row.id) with
      ⟨left, right⟩ | ⟨version, held, left, right, both⟩
    · rw [left, right]
    · rw [left, right, Option.map_some, Option.map_some, both.number_eq, both.createdAt_eq]
  unfold Store.findBlueprints
  rw [like.blueprints, funext summary]

/-- Lists and counts do not look into bodies. -/
theorem lists (org : String) : Store.Lists (Store.Like (VersionRow.Like related)) org where
  countComposes like now window := by
    unfold Store.countComposes
    rw [like.composes]
  activeComposes like now window := by
    unfold Store.activeComposes
    rw [like.composes, funext like.entry_eq]
  getCompose like id := by
    unfold Store.getCompose
    rw [like.compose? id, funext like.entry_eq]
  clonesOf like id := by
    unfold Store.clonesOf
    rw [like.owns_eq, like.clones]
  getClone like id := by
    unfold Store.getClone
    rw [like.clones, funext like.owns_eq]
  findBlueprints like filter := like.summaries_eq filter

/-- What is found of a blueprint is the same but for passwords. -/
theorem getBlueprint_like (refl : ∀ password, related password password)
    (like : store.Like (VersionRow.Like related) other) (id : Uuid) (org : String)
    (number : Option Int) :
    Matching (BlueprintEntry.Like related) (store.getBlueprint id org number)
      (other.getBlueprint id org number) := by
  refine (like.getBlueprint VersionRow.like_match id org number).imp ?_
  intro entry held entries
  constructor
  · obtain ⟨blueprint, row, version, both, rfl, rfl⟩ := entries
    simp only [blueprintEntry, both.id_eq, both.number_eq, both.createdAt_eq]
  · exact bodyLike refl (fun both => both.body) entries

end Store.Like

end ComposeDesk
