import Mathlib.Data.List.Perm.Basic
import ComposeDesk.Proofs.Store.Run

/-!
# Histories of blueprints

The versions of a blueprint are a history: an update adds one version at its end,
no version is ever changed, and all ways of reading a blueprint tell the same of
it.
-/

namespace ComposeDesk

def BlueprintEntry.summary (entry : BlueprintEntry) : BlueprintSummary :=
  ⟨entry.id, entry.name, entry.description, entry.version, entry.modifiedAt⟩

def BlueprintEntry.titled (name description : String) (entry : BlueprintEntry) :
    BlueprintEntry :=
  { entry with name, description }

def BlueprintRow.titled (name description : String) (row : BlueprintRow) : BlueprintRow :=
  { row with name, description }

namespace Store

/-- The versions of a blueprint have the numbers from one up to that of the latest
one, and whichever way the blueprint is read, it is read alike. -/
structure Chronicle (store : Store) (row : BlueprintRow) (count : Nat) : Prop where
  latest : (store.latest? row.id).map (·.number) = some count
  numbers : store.numbers row.id = List.range' 1 count
  reads : ∀ number : Nat, 1 ≤ number → number ≤ count →
    ∃ version ∈ store.versions, version.blueprintId = row.id ∧ version.number = number ∧
      store.getBlueprint row.id row.org (some number) = .ok (blueprintEntry row version)
  missing : ∀ number : Int, number < 1 ∨ (count : Int) < number →
    store.getBlueprint row.id row.org (some number) = .error (.notFound .version)
  current : store.getBlueprint row.id row.org none =
    store.getBlueprint row.id row.org (some count)
  listed : ∀ filter : BlueprintFilter, filter.accepts row = true →
    ∃ entry, store.getBlueprint row.id row.org none = .ok entry ∧ entry.version = count ∧
      (store.findBlueprints row.org filter).filter (·.id = row.id) = [entry.summary]

/-- A blueprint that is listed is read as it is listed, with the version that the
list names and without one. -/
def Confirms (store : Store) (org : String) (summary : BlueprintSummary) : Prop :=
  ∃ entry, store.getBlueprint summary.id org none = .ok entry ∧
    store.getBlueprint summary.id org (some summary.version) = .ok entry ∧
    entry.summary = summary

/-- A version is added to a blueprint, which gets a new name and description; all
else is as it was. -/
structure Appends (store next : Store) (row : BlueprintRow) (count : Nat)
    (write : BlueprintWrite) (now : Timestamp) : Prop where
  versions : next.versions = store.versions ++ [write.version (count + 1) now]
  renamed : next.blueprint? row.id = some (row.titled write.name write.description)
  earlier : ∀ (number : Int) (entry : BlueprintEntry),
    store.getBlueprint row.id row.org (some number) = .ok entry →
    next.getBlueprint row.id row.org (some number) =
      .ok (entry.titled write.name write.description)
  latest : next.getBlueprint row.id row.org none =
    .ok (blueprintEntry (row.titled write.name write.description) (write.version (count + 1) now))
  others : ∀ id, id ≠ row.id → next.blueprint? id = store.blueprint? id ∧
    ∀ org number, next.getBlueprint id org number = store.getBlueprint id org number
  composes : next.composes = store.composes
  clones : next.clones = store.clones

/-- What becomes of an update of a blueprint. -/
structure Updates (store : Store) (row : BlueprintRow) (count : Nat) (write : BlueprintWrite)
    (now : Timestamp) : Prop where
  foreign : row.org ≠ write.org ∨ row.account ≠ write.account →
    store.updateBlueprint write now = .error (.notFound .blueprint)
  taken : row.org = write.org → row.account = write.account →
    (∃ other ∈ store.blueprints, other.org = write.org ∧ other.name = write.name ∧
      other.id ≠ row.id) →
    store.updateBlueprint write now = .error (.nameTaken write.name)
  done : row.org = write.org → row.account = write.account →
    (∀ other ∈ store.blueprints, other.org = write.org → other.name = write.name →
      other.id = row.id) →
    ∃ next, store.updateBlueprint write now = .ok (next, count + 1)
  appends : ∀ next number, store.updateBlueprint write now = .ok (next, number) →
    number = count + 1 ∧ store.Appends next row count write now

section Look

variable {store : Store} {id : Uuid} {count : Nat} {row : BlueprintRow}

theorem versionOf?_eq_find? (store : Store) (id : Uuid) (number : Int) :
    store.versionOf? id number =
      (store.versions.filter (·.blueprintId = id)).find? fun row => (row.number : Int) = number := by
  simp [versionOf?, List.find?_filter]

/-- A version is found by its number. -/
theorem versionOf?_of_mem (counted : store.numbers id = List.range' 1 count)
    {version : VersionRow} (member : version ∈ store.versions) (home : version.blueprintId = id) :
    store.versionOf? id version.number = some version := by
  have among : version ∈ store.versions.filter (·.blueprintId = id) :=
    List.mem_filter.mpr ⟨member, decide_eq_true home⟩
  have numbers : (store.numbers id).Nodup := by
    rw [counted]
    exact List.nodup_range'
  have unique : ((store.versions.filter (·.blueprintId = id)).map
      fun row => (row.number : Int)).Nodup := by
    have cast : ((store.numbers id).map Int.ofNat).Nodup :=
      numbers.map fun _ _ same => Int.ofNat.inj same
    rw [Store.numbers, List.map_map] at cast
    exact cast
  rw [versionOf?_eq_find?]
  exact find?_of_mem unique among

theorem exists_version (counted : store.numbers id = List.range' 1 count) {number : Nat}
    (low : 1 ≤ number) (high : number ≤ count) :
    ∃ version ∈ store.versions, version.blueprintId = id ∧ version.number = number := by
  have among : number ∈ store.numbers id := by
    rw [counted, List.mem_range'_1]
    omega
  obtain ⟨version, held, numbered⟩ := List.mem_map.mp among
  obtain ⟨member, home⟩ := List.mem_filter.mp held
  exact ⟨version, member, of_decide_eq_true home, numbered⟩

theorem versionOf?_eq_none (counted : store.numbers id = List.range' 1 count) {number : Int}
    (beyond : number < 1 ∨ (count : Int) < number) : store.versionOf? id number = none := by
  rw [versionOf?_eq_find?, List.find?_eq_none]
  intro version held same
  have among : version.number ∈ List.range' 1 count := by
    rw [← counted]
    exact List.mem_map_of_mem held
  have bounds := List.mem_range'_1.mp among
  have equal : (version.number : Int) = number := of_decide_eq_true same
  omega

theorem getBlueprint_of_chosen {number : Option Int} {version : VersionRow}
    (found : store.blueprint? id = some row)
    (chosen : store.chosenVersion? id number = some version) :
    store.getBlueprint id row.org number = .ok (blueprintEntry row version) := by
  obtain ⟨-, rfl⟩ := blueprint?_mem found
  rw [getBlueprint_eq, found]
  simp only [ne_eq, not_true_eq_false, if_false, chosen]

def summary? (store : Store) (row : BlueprintRow) : Option BlueprintSummary :=
  (store.latest? row.id).map fun version => (blueprintEntry row version).summary

theorem findBlueprints_perm (store : Store) (org : String) (filter : BlueprintFilter) :
    (store.findBlueprints org filter).Perm
      ((store.blueprints.filter fun row => row.org = org && filter.accepts row).filterMap
        store.summary?) :=
  List.mergeSort_perm _ _

/-- A blueprint is listed once if the filter accepts it. -/
theorem filter_findBlueprints (housed : store.Housed) (member : row ∈ store.blueprints)
    {version : VersionRow} (latest : store.latest? row.id = some version)
    {filter : BlueprintFilter} (accepted : filter.accepts row = true) :
    (store.findBlueprints row.org filter).filter (·.id = row.id) =
      [(blueprintEntry row version).summary] := by
  have named : ∀ other summary, store.summary? other = some summary →
      decide (summary.id = row.id) = decide (other.id = row.id) := by
    intro other summary made
    obtain ⟨held, -, rfl⟩ := Option.map_eq_some_iff.mp made
    rfl
  have own : (store.blueprints.filter fun other =>
      other.org = row.org && filter.accepts other).filter (fun other => other.id = row.id) =
        [row] := by
    rw [List.filter_comm, filter_key housed.unique member]
    simp [accepted]
  refine List.perm_singleton.mp (((store.findBlueprints_perm row.org filter).filter _).trans ?_)
  rw [filter_filterMap_eq named, own]
  simp [summary?, latest]

theorem findBlueprints_mem {org : String} {filter : BlueprintFilter} {summary : BlueprintSummary}
    (listed : summary ∈ store.findBlueprints org filter) :
    ∃ row ∈ store.blueprints, row.org = org ∧ ∃ version, store.latest? row.id = some version ∧
      summary = (blueprintEntry row version).summary := by
  obtain ⟨row, held, made⟩ :=
    List.mem_filterMap.mp ((store.findBlueprints_perm org filter).mem_iff.mp listed)
  obtain ⟨member, selected⟩ := List.mem_filter.mp held
  obtain ⟨version, latest, rfl⟩ := Option.map_eq_some_iff.mp made
  simp only [Bool.and_eq_true, decide_eq_true_eq] at selected
  exact ⟨row, member, selected.1, version, latest, rfl⟩

end Look

/-! ## Chronicles -/

section Chronicle

variable {store : Store} {row : BlueprintRow} {count : Nat}

/-- The latest version of numbered ones is the one with the highest number. -/
theorem latest_version (counted : store.numbers row.id = List.range' 1 count) (some : 0 < count) :
    ∃ version, store.latest? row.id = .some version ∧ version.number = count ∧
      store.versionOf? row.id count = .some version := by
  obtain ⟨last, rfl⟩ := Nat.exists_eq_add_one.mpr some
  obtain ⟨version, latest, numbered⟩ := latest?_of_numbers counted
  obtain ⟨member, home⟩ := latest?_mem latest
  refine ⟨version, latest, numbered, ?_⟩
  rw [← numbered]
  exact versionOf?_of_mem counted member home

theorem chronicle (housed : store.Housed) (member : row ∈ store.blueprints)
    (counted : store.numbers row.id = List.range' 1 count) (some : 0 < count) :
    store.Chronicle row count := by
  have found := housed.blueprint? member
  obtain ⟨version, latest, numbered, same⟩ := latest_version counted some
  have newest : store.getBlueprint row.id row.org none = .ok (blueprintEntry row version) :=
    getBlueprint_of_chosen found latest
  constructor
  case latest => rw [latest, Option.map_some, numbered]
  case numbers => exact counted
  case reads =>
    intro number low high
    obtain ⟨wanted, held, home, rfl⟩ := exists_version counted low high
    exact ⟨wanted, held, home, rfl,
      getBlueprint_of_chosen found (versionOf?_of_mem counted held home)⟩
  case missing =>
    intro number beyond
    have none : store.chosenVersion? row.id (.some number) = .none :=
      versionOf?_eq_none counted beyond
    rw [getBlueprint_eq, found]
    simp only [ne_eq, not_true_eq_false, if_false, none]
  case current =>
    have last : store.getBlueprint row.id row.org (.some (count : Int)) =
        .ok (blueprintEntry row version) :=
      getBlueprint_of_chosen found same
    rw [newest, last]
  case listed =>
    intro filter accepted
    exact ⟨_, newest, numbered, filter_findBlueprints housed member latest accepted⟩

/-- All lists agree with what is read. -/
theorem confirms (housed : store.Housed) (numbered : store.Numbered) {org : String}
    {filter : BlueprintFilter} {summary : BlueprintSummary}
    (listed : summary ∈ store.findBlueprints org filter) : store.Confirms org summary := by
  obtain ⟨row, member, rfl, version, latest, rfl⟩ := findBlueprints_mem listed
  obtain ⟨count, some, counted⟩ := numbered.counted row member
  obtain ⟨last, same, number, found⟩ := latest_version counted some
  cases latest.symm.trans same
  have home := housed.blueprint? member
  refine ⟨blueprintEntry row version, getBlueprint_of_chosen home latest, ?_, rfl⟩
  refine getBlueprint_of_chosen home ?_
  change store.versionOf? row.id (version.number : Int) = _
  rw [number]
  exact found

end Chronicle

section Added

variable {store next : Store} {id : Uuid} {version : VersionRow}

/-- A version stays found when others come after it. -/
theorem versionOf?_of_added (added : next.versions = store.versions ++ [version]) {number : Int}
    {held : VersionRow} (found : store.versionOf? id number = some held) :
    next.versionOf? id number = some held := by
  unfold versionOf? at found ⊢
  rw [added, List.find?_append, found]
  rfl

/-- A version of another blueprint makes no difference. -/
theorem chosenVersion?_of_added (added : next.versions = store.versions ++ [version])
    (other : version.blueprintId ≠ id) (number : Option Int) :
    next.chosenVersion? id number = store.chosenVersion? id number := by
  cases number with
  | none =>
      change next.latest? id = store.latest? id
      unfold latest?
      rw [added, List.filter_append]
      simp [other]
  | some number =>
      change next.versionOf? id number = store.versionOf? id number
      unfold versionOf?
      rw [added, List.find?_append]
      simp [other]

/-- A version with a higher number than the latest one is the latest one. -/
theorem latest?_of_added (added : next.versions = store.versions ++ [version])
    (home : version.blueprintId = id) {held : VersionRow} (latest : store.latest? id = some held)
    (higher : held.number < version.number) : next.latest? id = some version := by
  have notLower : ¬ version.number < held.number := by omega
  unfold latest? at latest ⊢
  rw [added, List.filter_append, List.foldl_append, latest]
  simp [home, laterVersion, notLower]

theorem getBlueprint_congr (blueprints : next.blueprint? id = store.blueprint? id)
    {number : Option Int} (versions : next.chosenVersion? id number = store.chosenVersion? id number)
    (org : String) : next.getBlueprint id org number = store.getBlueprint id org number := by
  rw [getBlueprint_eq, getBlueprint_eq, blueprints, versions]

end Added

/-! ## Updates -/

section Update

variable {store next : Store} {row : BlueprintRow} {count number : Nat} {write : BlueprintWrite}
  {now : Timestamp}

theorem owns_of_matching (housed : store.Housed) (member : row ∈ store.blueprints)
    {org account : String} :
    store.ownsBlueprint row.id org account = true ↔ row.org = org ∧ row.account = account := by
  rw [ownsBlueprint, housed.blueprint? member, Bool.and_eq_true, decide_eq_true_eq,
    decide_eq_true_eq]

/-- A name is taken exactly if another blueprint of the organization carries it. -/
theorem isTaken_eq_true_iff {org name : String} {id : Uuid} :
    store.isTaken org name (some id) = true ↔
      ∃ other ∈ store.blueprints, other.org = org ∧ other.name = name ∧ other.id ≠ id := by
  simp only [isTaken, List.any_eq_true, Bool.and_eq_true, decide_eq_true_eq, ne_eq,
    decide_not, Bool.not_eq_true', decide_eq_false_iff_not, Option.some.injEq, and_assoc]

/-- Blueprints are found under their identifiers after an update. -/
theorem blueprint?_rename (store : Store) (write : BlueprintWrite) (id : Uuid) :
    (store.blueprints.map (·.rename write)).find? (fun row => row.id = id) =
      (store.blueprint? id).map (·.rename write) := by
  rw [List.find?_map, blueprint?]
  simp only [Function.comp_def, BlueprintRow.rename_id]

/-- Only the blueprint that is updated is renamed. -/
theorem blueprint?_rename_of_ne (store : Store) (write : BlueprintWrite) {id : Uuid}
    (other : id ≠ write.id) :
    (store.blueprints.map (·.rename write)).find? (fun row => row.id = id) =
      store.blueprint? id := by
  rw [blueprint?_rename]
  rcases found : store.blueprint? id with _ | row
  · rfl
  · have apart : row.id ≠ write.id := (blueprint?_mem found).2.trans_ne other
    rw [Option.map_some, BlueprintRow.rename, if_neg apart]

theorem appends_of_updated (housed : store.Housed) (member : row ∈ store.blueprints)
    (chronicle : store.Chronicle row count) (same : write.id = row.id)
    (written : store.updateBlueprint write now = .ok (next, number)) :
    number = count + 1 ∧ store.Appends next row count write now := by
  obtain ⟨-, -, numbered, stored⟩ := updateBlueprint_ok written
  have found := housed.blueprint? member
  have nextIs : number = count + 1 := by
    rw [numbered, same]
    exact nextNumber_of_numbers chronicle.numbers
  subst nextIs
  have added : next.versions = store.versions ++ [write.version (count + 1) now] := by
    rw [stored]
  have renamed : next.blueprint? row.id = some (row.titled write.name write.description) := by
    rw [stored]
    refine (blueprint?_rename store write row.id).trans ?_
    rw [found, Option.map_some, BlueprintRow.rename, if_pos same.symm]
    rfl
  refine ⟨rfl, added, renamed, ?_, ?_, ?_, by rw [stored], by rw [stored]⟩
  · intro number entry got
    obtain ⟨held, version, home, -, chosen, rfl⟩ := getBlueprint_ok got
    cases found.symm.trans home
    have still : next.chosenVersion? row.id (some number) = some version :=
      versionOf?_of_added added chosen
    have read := getBlueprint_of_chosen renamed still
    exact read
  · obtain ⟨held, latest, numbered⟩ := Option.map_eq_some_iff.mp chronicle.latest
    have higher : held.number < (write.version (count + 1) now).number := by
      rw [numbered]
      exact Nat.lt_succ_self count
    have newest : next.chosenVersion? row.id none = some (write.version (count + 1) now) :=
      latest?_of_added added same latest higher
    have read := getBlueprint_of_chosen renamed newest
    exact read
  · intro id other
    have apart : write.id ≠ id := same.trans_ne other.symm
    have kept : next.blueprint? id = store.blueprint? id := by
      rw [stored]
      exact blueprint?_rename_of_ne store write apart.symm
    exact ⟨kept, fun org number =>
      getBlueprint_congr kept (chosenVersion?_of_added added apart number) org⟩

theorem updates (housed : store.Housed) (member : row ∈ store.blueprints)
    (chronicle : store.Chronicle row count) (same : write.id = row.id) (now : Timestamp) :
    store.Updates row count write now := by
  have owner : store.ownsBlueprint write.id write.org write.account = true ↔
      row.org = write.org ∧ row.account = write.account := by
    rw [same]
    exact owns_of_matching housed member
  have reserved : store.isTaken write.org write.name (some write.id) = true ↔
      ∃ other ∈ store.blueprints, other.org = write.org ∧ other.name = write.name ∧
        other.id ≠ row.id := by
    rw [same]
    exact isTaken_eq_true_iff
  constructor
  case foreign =>
    intro differs
    have foreign : store.ownsBlueprint write.id write.org write.account = false := by
      rw [Bool.eq_false_iff, ne_eq, owner, not_and_or]
      exact differs
    simp [updateBlueprint_eq, foreign]
  case taken =>
    intro org account other
    simp [updateBlueprint_eq, owner.mpr ⟨org, account⟩, reserved.mpr other]
  case done =>
    intro org account free
    have untaken : store.isTaken write.org write.name (some write.id) = false := by
      rw [Bool.eq_false_iff, ne_eq, reserved]
      rintro ⟨other, held, sameOrg, sameName, apart⟩
      exact apart (free other held sameOrg sameName)
    have number : store.nextNumber write.id = count + 1 := by
      rw [same]
      exact nextNumber_of_numbers chronicle.numbers
    rw [updateBlueprint_eq, owner.mpr ⟨org, account⟩, untaken, number]
    exact ⟨_, rfl⟩
  case appends =>
    intro next number written
    exact appends_of_updated housed member chronicle same written

end Update

section Run

variable {store next later : Store} {id : Uuid} {write : Write}

/-- A blueprint and a version of it are found. -/
def Keeps (store : Store) (id : Uuid) (org : String) (number : Int) (version : VersionRow) :
    Prop :=
  (∃ row, store.blueprint? id = some row ∧ row.org = org) ∧
    store.versionOf? id number = some version

/-- No write but the removal of its blueprint takes a version away. -/
theorem Affects.keeps (affects : store.Affects next write) (admitted : store.Admits write)
    (spares : write.Spares id) {org : String} {number : Int} {version : VersionRow}
    (keeps : store.Keeps id org number version) : next.Keeps id org number version := by
  obtain ⟨⟨row, found, owned⟩, chosen⟩ := keeps
  cases affects with
  | nothing blueprints versions =>
      refine ⟨⟨row, ?_, owned⟩, ?_⟩
      · rw [blueprint?, blueprints]
        exact found
      · rw [versionOf?, versions]
        exact chosen
  | @blueprint write now inserted =>
      obtain ⟨-, rfl⟩ := insertBlueprint_ok inserted
      have put : putBlueprint write.row store.blueprints = store.blueprints ++ [write.row] :=
        putBlueprint_of_new admitted
      refine ⟨⟨row, ?_, owned⟩, versionOf?_of_added rfl chosen⟩
      unfold blueprint? at found ⊢
      rw [put, List.find?_append, found]
      rfl
  | @revise write now number written =>
      obtain ⟨-, -, -, rfl⟩ := updateBlueprint_ok written
      refine ⟨⟨row.rename write, ?_, ?_⟩, versionOf?_of_added rfl chosen⟩
      · refine (blueprint?_rename store write id).trans ?_
        rw [found]
        rfl
      · rw [BlueprintRow.rename_org, owned]
  | @remove other org account deleted =>
      obtain ⟨-, rfl⟩ := deleteBlueprint_ok deleted
      have apart : id ≠ other := Ne.symm spares
      refine ⟨⟨row, ?_, owned⟩, ?_⟩
      · rw [← found]
        refine find?_filter_of_imp (fun row wanted => ?_) store.blueprints
        exact decide_eq_true ((of_decide_eq_true wanted).trans_ne apart)
      · rw [← chosen]
        refine find?_filter_of_imp (fun row wanted => ?_) store.versions
        have home := of_decide_eq_true (Bool.and_eq_true_iff.mp wanted).1
        exact decide_eq_true (home.trans_ne apart)

theorem Leads.keeps (leads : Leads (Write.Spares id) store later) {org : String} {number : Int}
    {version : VersionRow} (keeps : store.Keeps id org number version) :
    later.Keeps id org number version := by
  induction leads with
  | refl => exact keeps
  | step write _ spares admitted ih => exact (take_affects _ write).keeps admitted spares ih

/-- As long as a blueprint is not removed, each version of it is read as it was
written, under the name that the blueprint then has. -/
theorem Leads.reads (leads : Leads (Write.Spares id) store later) {org : String} {number : Int}
    {entry : BlueprintEntry} (got : store.getBlueprint id org (some number) = .ok entry) :
    ∃ name description,
      later.getBlueprint id org (some number) = .ok (entry.titled name description) := by
  obtain ⟨row, version, found, owned, chosen, rfl⟩ := getBlueprint_ok got
  obtain ⟨⟨held, still, rfl⟩, kept⟩ := leads.keeps ⟨⟨row, found, owned⟩, chosen⟩
  have same : held.id = row.id := (blueprint?_mem still).2.trans (blueprint?_mem found).2.symm
  have chosenLater : later.chosenVersion? id (some number) = some version := kept
  refine ⟨held.name, held.description, ?_⟩
  rw [getBlueprint_of_chosen still chosenLater]
  simp only [blueprintEntry, BlueprintEntry.titled, same]

end Run

end Store

end ComposeDesk
