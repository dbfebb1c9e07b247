import Mathlib.Data.List.Nodup
import ComposeDesk.Proofs.Store.Sound

/-!
# Numbers of versions and names of blueprints

The versions of a blueprint carry the numbers from one on, in the order in which
they came, and no two blueprints of an organization carry the same name.  Changes
under new identifiers keep both.
-/

namespace ComposeDesk.Store

/-- The numbers of the versions of a blueprint, in the order in which they came. -/
def numbers (store : Store) (id : Uuid) : List Nat :=
  (store.versions.filter (·.blueprintId = id)).map (·.number)

/-- The names that are taken, each within an organization. -/
def names (store : Store) : List (String × String) :=
  store.blueprints.map fun row => (row.org, row.name)

/-- Every blueprint has versions, numbered from one on, and a name of its own. -/
structure Numbered (store : Store) : Prop where
  counted : ∀ row ∈ store.blueprints, ∃ count, 0 < count ∧
    store.numbers row.id = List.range' 1 count
  named : store.names.Nodup

theorem numbered_empty : empty.Numbered where
  counted _ member := by cases member
  named := .nil

section Look

variable {store : Store} {id : Uuid}

/-- A version of the highest number is the latest one if it comes last. -/
theorem foldl_laterVersion_concat (rows : List VersionRow) (last : VersionRow)
    (most : ∀ row ∈ rows, row.number ≤ last.number) :
    (rows ++ [last]).foldl laterVersion none = some last := by
  rw [List.foldl_append, List.foldl_cons, List.foldl_nil]
  cases latest : rows.foldl laterVersion none with
  | none => rfl
  | some other =>
      rcases laterVersion_mem rows none latest with impossible | member
      · cases impossible
      · have below := most other member
        have notLater : ¬ last.number < other.number := by omega
        rw [laterVersion, if_neg notLater]

/-- The latest of versions that are numbered from one on carries their number. -/
theorem latest?_of_numbers {count : Nat} (numbers : store.numbers id = List.range' 1 (count + 1)) :
    ∃ row, store.latest? id = some row ∧ row.number = count + 1 := by
  have split : store.numbers id = List.range' 1 count ++ [count + 1] := by
    rw [numbers, List.range'_concat, Nat.one_mul, Nat.add_comm 1 count]
  obtain ⟨earlier, single, rows, before, after⟩ := List.map_eq_append_iff.mp split
  obtain ⟨last, rfl, numbered⟩ := List.map_eq_singleton_iff.mp after
  refine ⟨last, ?_, numbered⟩
  unfold latest?
  rw [rows]
  apply foldl_laterVersion_concat
  intro row member
  have among : row.number ∈ List.range' 1 count := by
    rw [← before]
    exact List.mem_map_of_mem member
  have bound := (List.mem_range'_1.mp among).2
  omega

/-- The next version gets the next number. -/
theorem nextNumber_of_numbers {count : Nat} (numbers : store.numbers id = List.range' 1 count) :
    store.nextNumber id = count + 1 := by
  cases count with
  | zero =>
      have none : store.versions.filter (·.blueprintId = id) = [] := List.map_eq_nil_iff.mp numbers
      rw [nextNumber, latest?, none]
      rfl
  | succ count =>
      obtain ⟨row, latest, numbered⟩ := latest?_of_numbers numbers
      rw [nextNumber, latest]
      exact congrArg (· + 1) numbered

/-- A name is free if no other blueprint of the organization carries it. -/
theorem isTaken_eq_false_iff {org name : String} {except : Option Uuid} :
    store.isTaken org name except = false ↔
      ∀ row ∈ store.blueprints, row.org = org → row.name = name → some row.id = except := by
  unfold isTaken
  rw [List.any_eq_false]
  simp only [Bool.and_eq_true, decide_eq_true_eq, and_imp, not_and, ne_eq, not_not,
    decide_not, Bool.not_eq_true', decide_eq_false_iff_not]

end Look

section Write

variable {store next : Store} {id : Uuid} {now : Timestamp} {write : BlueprintWrite}

/-- The number of a version is added to those of its blueprint. -/
theorem filter_concat (row : VersionRow) :
    ((store.versions ++ [row]).filter (·.blueprintId = id)).map (·.number) =
      store.numbers id ++ if row.blueprintId = id then [row.number] else [] := by
  rw [List.filter_append, List.map_append, numbers]
  by_cases same : row.blueprintId = id <;> simp [same]

/-- A new blueprint has no versions yet. -/
theorem numbers_of_new (housed : store.Housed) (fresh : id ∉ store.blueprints.map (·.id)) :
    store.numbers id = [] := by
  rw [numbers, List.map_eq_nil_iff, List.filter_eq_nil_iff]
  intro row member same
  obtain ⟨blueprint, held, home⟩ := housed.homes row member
  apply fresh
  rw [← of_decide_eq_true same, ← home]
  exact List.mem_map_of_mem held

/-- A blueprint is made under a name that is not taken, whatever it takes the place of. -/
theorem insertBlueprint_names (named : store.names.Nodup)
    (inserted : store.insertBlueprint write now = .ok next) : next.names.Nodup := by
  obtain ⟨free, rfl⟩ := insertBlueprint_ok inserted
  refine putBlueprint_nodup named fun taken => ?_
  obtain ⟨row, held, same⟩ := List.mem_map.mp taken
  obtain ⟨org, name⟩ := Prod.mk.inj same
  cases isTaken_eq_false_iff.mp free row held org name

/-- Only the blueprint that is updated has a new name, and that name is free. -/
theorem updateBlueprint_names {number : Nat} (housed : store.Housed) (named : store.names.Nodup)
    (written : store.updateBlueprint write now = .ok (next, number)) : next.names.Nodup := by
  obtain ⟨owned, free, -, rfl⟩ := updateBlueprint_ok written
  have rows : store.blueprints.Nodup := .of_map _ housed.unique
  have distinct := List.inj_on_of_nodup_map named
  obtain ⟨target, found, home, -⟩ := blueprint_of_owns owned
  obtain ⟨among, targetId⟩ := blueprint?_mem found
  have unique := List.inj_on_of_nodup_map housed.unique
  have renamed : ∀ row ∈ store.blueprints, row.id = write.id → row.org = write.org := by
    intro row held same
    rw [unique held among (same.trans targetId.symm), home]
  have apart : ∀ row ∈ store.blueprints, row.org = write.org → row.name = write.name →
      row.id = write.id := by
    intro row held org name
    exact Option.some.inj (isTaken_eq_false_iff.mp free row held org name)
  rw [names, List.map_map]
  refine rows.map_on ?_
  intro first held second also same
  obtain ⟨org, name⟩ := Prod.mk.inj same
  simp only [BlueprintRow.rename] at org name
  split at name <;> split at name <;> rename_i one two <;>
    simp only [one, two, if_true, if_false] at org name
  · exact unique held also (one.trans two.symm)
  · have org := org.symm.trans (renamed first held one)
    exact absurd (apart second also org name.symm) two
  · have org := org.trans (renamed second also two)
    exact absurd (apart first held org name) one
  · exact distinct held also (Prod.ext org name)

theorem deleteBlueprint_names {org account : String} (named : store.names.Nodup)
    (deleted : store.deleteBlueprint id org account = .ok next) : next.names.Nodup := by
  obtain ⟨-, rfl⟩ := deleteBlueprint_ok deleted
  exact named.sublist (List.filter_sublist.map _)

theorem Numbered.insertBlueprint (numbered : store.Numbered) (housed : store.Housed)
    (fresh : write.id ∉ store.blueprints.map (·.id))
    (inserted : store.insertBlueprint write now = .ok next) : next.Numbered := by
  have named := insertBlueprint_names numbered.named inserted
  obtain ⟨-, rfl⟩ := insertBlueprint_ok inserted
  have put : putBlueprint write.row store.blueprints = store.blueprints ++ [write.row] :=
    putBlueprint_of_new fresh
  refine ⟨?_, named⟩
  rw [put]
  intro row member
  rw [numbers, filter_concat]
  rcases List.mem_append.mp member with held | new
  · have other : (write.version 1 now).blueprintId ≠ row.id := by
      intro same
      exact fresh (List.mem_map.mpr ⟨row, held, same.symm⟩)
    rw [if_neg other, List.append_nil]
    exact numbered.counted row held
  · rw [List.mem_singleton.mp new]
    refine ⟨1, Nat.one_pos, ?_⟩
    have none : store.numbers write.row.id = [] := numbers_of_new housed fresh
    rw [if_pos (show (write.version 1 now).blueprintId = write.row.id from rfl), none]
    rfl

theorem Numbered.updateBlueprint {number : Nat} (numbered : store.Numbered)
    (housed : store.Housed) (written : store.updateBlueprint write now = .ok (next, number)) :
    next.Numbered := by
  have named := updateBlueprint_names housed numbered.named written
  obtain ⟨-, -, rfl, rfl⟩ := updateBlueprint_ok written
  refine ⟨?_, named⟩
  intro row member
  obtain ⟨before, held, rfl⟩ := List.mem_map.mp member
  obtain ⟨count, some, counted⟩ := numbered.counted before held
  rw [numbers, filter_concat, BlueprintRow.rename_id, counted]
  by_cases same : (write.version (store.nextNumber write.id) now).blueprintId = before.id
  · have sameId : write.id = before.id := same
    refine ⟨count + 1, Nat.succ_pos count, ?_⟩
    rw [if_pos same, List.range'_concat, Nat.one_mul, Nat.add_comm 1 count, sameId,
      ← nextNumber_of_numbers counted]
    rfl
  · refine ⟨count, some, ?_⟩
    rw [if_neg same, List.append_nil]

theorem Numbered.deleteBlueprint {org account : String} (numbered : store.Numbered)
    (deleted : store.deleteBlueprint id org account = .ok next) : next.Numbered := by
  have named := deleteBlueprint_names numbered.named deleted
  obtain ⟨-, rfl⟩ := deleteBlueprint_ok deleted
  refine ⟨?_, named⟩
  intro row member
  obtain ⟨held, kept⟩ := List.mem_filter.mp member
  obtain ⟨count, some, counted⟩ := numbered.counted row held
  refine ⟨count, some, ?_⟩
  rw [← counted, numbers, numbers, List.filter_filter]
  congr 1
  refine List.filter_congr fun version _ => ?_
  by_cases same : version.blueprintId = row.id
  · simpa [same] using kept
  · simp [same]

end Write

end ComposeDesk.Store
