import ComposeDesk.Store.Blueprint

/-!
# What look-ups find

What is looked up within an organization is a row that belongs to it.
-/

namespace ComposeDesk.Store

variable {store : Store} {id : Uuid} {org : String}

theorem compose?_mem {row : ComposeRow} (found : store.compose? id = some row) :
    row ∈ store.composes ∧ row.id = id :=
  ⟨List.mem_of_find?_eq_some found, by simpa using List.find?_some found⟩

theorem blueprint?_mem {row : BlueprintRow} (found : store.blueprint? id = some row) :
    row ∈ store.blueprints ∧ row.id = id :=
  ⟨List.mem_of_find?_eq_some found, by simpa using List.find?_some found⟩

theorem getCompose_ok {entry : ComposeEntry} (found : store.getCompose id org = .ok entry) :
    ∃ row ∈ store.composes, row.id = id ∧ row.org = org ∧ store.compose? id = some row ∧
      entry = store.entry row := by
  unfold getCompose at found
  split at found
  · rename_i row held
    split at found
    · rename_i active
      cases found
      simp only [isActive, Bool.and_eq_true, decide_eq_true_eq] at active
      exact ⟨row, (compose?_mem held).1, (compose?_mem held).2, active.2, held, rfl⟩
    · cases found
  · cases found

theorem owns_iff :
    store.owns org id = true ↔ ∃ row, store.compose? id = some row ∧ row.org = org := by
  unfold owns
  cases store.compose? id <;> simp

theorem owns_of_composeImageType {name : String}
    (found : store.composeImageType id org = .ok name) : store.owns org id = true := by
  unfold composeImageType at found
  rcases held : store.getCompose id org with fault | entry
  · rw [held] at found
    cases found
  · obtain ⟨row, -, -, owned, some, -⟩ := getCompose_ok held
    exact owns_iff.mpr ⟨row, some, owned⟩

theorem getClone_ok {row : CloneRow} (found : store.getClone id org = .ok row) :
    row ∈ store.clones ∧ row.id = id ∧ store.owns org row.composeId = true := by
  unfold getClone at found
  split at found
  · rename_i held some
    cases found
    have holds := List.find?_some some
    simp only [Bool.and_eq_true, decide_eq_true_eq] at holds
    exact ⟨List.mem_of_find?_eq_some some, holds⟩
  · cases found

/-- The latest version is one of those that are compared. -/
theorem laterVersion_mem (rows : List VersionRow) (held : Option VersionRow) {row : VersionRow}
    (latest : rows.foldl laterVersion held = some row) : held = some row ∨ row ∈ rows := by
  induction rows generalizing held with
  | nil => exact .inl latest
  | cons first rest ih =>
      rcases ih _ latest with chosen | later
      · unfold laterVersion at chosen
        split at chosen
        · split at chosen
          · exact .inl chosen
          · exact .inr (List.mem_cons.mpr (.inl (Option.some.inj chosen).symm))
        · exact .inr (List.mem_cons.mpr (.inl (Option.some.inj chosen).symm))
      · exact .inr (List.mem_cons_of_mem _ later)

theorem latest?_mem {row : VersionRow} (found : store.latest? id = some row) :
    row ∈ store.versions ∧ row.blueprintId = id := by
  rcases laterVersion_mem _ _ found with impossible | member
  · cases impossible
  · simpa using member

theorem versionOf?_mem {row : VersionRow} {number : Int}
    (found : store.versionOf? id number = some row) :
    row ∈ store.versions ∧ row.blueprintId = id := by
  have holds := List.find?_some found
  simp only [Bool.and_eq_true, decide_eq_true_eq] at holds
  exact ⟨List.mem_of_find?_eq_some found, holds.1⟩

def chosenVersion? (store : Store) (id : Uuid) : Option Int → Option VersionRow
  | some number => store.versionOf? id number
  | none => store.latest? id

theorem chosenVersion?_mem {row : VersionRow} {number : Option Int}
    (found : store.chosenVersion? id number = some row) :
    row ∈ store.versions ∧ row.blueprintId = id := by
  cases number with
  | none => exact latest?_mem found
  | some number => exact versionOf?_mem found

def blueprintEntry (row : BlueprintRow) (version : VersionRow) : BlueprintEntry :=
  ⟨row.id, version.id, version.number, row.name, row.description, version.body,
    version.createdAt⟩

/-- The blueprint is looked up first, then its organization is compared, then the
version is chosen. -/
theorem getBlueprint_eq (store : Store) (id : Uuid) (org : String) (number : Option Int) :
    store.getBlueprint id org number =
      match store.blueprint? id with
      | none => .error (.notFound .blueprint)
      | some row =>
          if row.org ≠ org then .error (.notFound .blueprint)
          else
            match store.chosenVersion? id number with
            | none => .error (.notFound .version)
            | some version => .ok (blueprintEntry { row with id } version) := by
  cases number <;> rfl

theorem getBlueprint_ok {number : Option Int} {entry : BlueprintEntry}
    (found : store.getBlueprint id org number = .ok entry) :
    ∃ row version, store.blueprint? id = some row ∧ row.org = org ∧
      store.chosenVersion? id number = some version ∧ entry = blueprintEntry row version := by
  unfold getBlueprint at found
  split at found
  · cases found
  · rename_i row held
    split at found
    · cases found
    · rename_i owned
      have same := (blueprint?_mem held).2
      simp only at found
      split at found
      · cases found
      · rename_i version picked
        cases found
        exact ⟨row, version, held, by simpa using owned, picked, by rw [blueprintEntry, same]⟩

end ComposeDesk.Store
