import ComposeDesk.Proofs.Store.Numbered

/-!
# Runs of writes

Whatever is done at the desk, one after another or at the same time, reaches the
store as writes, each taken as a whole or refused.  A run of writes keeps versions
and names in order as long as no blueprint is made under an identifier that one
carries already.
-/

namespace ComposeDesk.Store

inductive Write where
  | compose (row : ComposeRow)
  | hide (id : Uuid) (org : String)
  | clone (row : CloneRow)
  | blueprint (write : BlueprintWrite) (now : Timestamp)
  | revise (write : BlueprintWrite) (now : Timestamp)
  | remove (id : Uuid) (org account : String)

def apply (store : Store) : Write → Except StoreFault Store
  | .compose row => store.insertCompose row
  | .hide id org => store.deleteCompose id org
  | .clone row => store.insertClone row
  | .blueprint write now => store.insertBlueprint write now
  | .revise write now => (store.updateBlueprint write now).map (·.1)
  | .remove id org account => store.deleteBlueprint id org account

/-- The store after a write; one that is refused changes nothing. -/
def take (store : Store) (write : Write) : Store :=
  match store.apply write with
  | .ok next => next
  | .error _ => store

/-- No blueprint is made under the identifier of another one. -/
def Admits (store : Store) : Write → Prop
  | .blueprint write _ => write.id ∉ store.blueprints.map (·.id)
  | _ => True

/-- Writes of some kind lead from a store to another one. -/
inductive Leads (allowed : Write → Prop) (store : Store) : Store → Prop where
  | refl : Leads allowed store store
  | step {middle : Store} (write : Write) (before : Leads allowed store middle)
      (kind : allowed write) (admitted : middle.Admits write) :
      Leads allowed store (middle.take write)

/-- Any writes may have led to a store. -/
def Reached (store : Store) : Prop :=
  Leads (fun _ => True) empty store

/-- A write is no removal of a blueprint. -/
def Write.Spares (id : Uuid) : Write → Prop
  | .remove other _ _ => other ≠ id
  | _ => True

/-- What a write may do to blueprints and their versions. -/
inductive Affects (store next : Store) : Write → Prop where
  | nothing {write : Write} (blueprints : next.blueprints = store.blueprints)
      (versions : next.versions = store.versions) : Affects store next write
  | blueprint {write : BlueprintWrite} {now : Timestamp}
      (inserted : store.insertBlueprint write now = .ok next) :
      Affects store next (.blueprint write now)
  | revise {write : BlueprintWrite} {now : Timestamp} {number : Nat}
      (written : store.updateBlueprint write now = .ok (next, number)) :
      Affects store next (.revise write now)
  | remove {id : Uuid} {org account : String}
      (deleted : store.deleteBlueprint id org account = .ok next) :
      Affects store next (.remove id org account)

section Take

variable {store next : Store} {write : Write}

theorem apply_affects (taken : store.apply write = .ok next) : store.Affects next write := by
  cases write with
  | compose row =>
      obtain ⟨-, rfl⟩ := insertCompose_ok_iff.mp taken
      exact .nothing rfl rfl
  | hide id org =>
      obtain ⟨-, rfl⟩ := deleteCompose_ok taken
      exact .nothing rfl rfl
  | clone row =>
      obtain ⟨-, rfl⟩ := insertClone_ok taken
      exact .nothing rfl rfl
  | blueprint write now => exact .blueprint taken
  | revise write now =>
      change (store.updateBlueprint write now).map (·.1) = .ok next at taken
      rcases written : store.updateBlueprint write now with fault | ⟨left, number⟩
      · rw [written] at taken
        cases taken
      · rw [written] at taken
        cases taken
        exact .revise written
  | remove id org account => exact .remove taken

theorem take_affects (store : Store) (write : Write) :
    store.Affects (store.take write) write := by
  unfold take
  split
  · rename_i next taken
    exact apply_affects taken
  · exact .nothing rfl rfl

namespace Affects

/-- Every write keeps blueprints and versions together. -/
theorem housed (affects : store.Affects next write) (housed : store.Housed) : next.Housed := by
  cases affects with
  | nothing blueprints versions => exact housed.congr blueprints versions
  | blueprint inserted => exact housed.insertBlueprint inserted
  | revise written => exact housed.updateBlueprint written
  | remove deleted => exact housed.deleteBlueprint deleted

theorem numbered (affects : store.Affects next write) (admitted : store.Admits write)
    (housed : store.Housed) (numbered : store.Numbered) : next.Numbered := by
  cases affects with
  | nothing blueprints versions =>
      constructor
      · unfold numbers
        rw [blueprints, versions]
        exact numbered.counted
      · rw [names, blueprints]
        exact numbered.named
  | blueprint inserted => exact numbered.insertBlueprint housed admitted inserted
  | revise written => exact numbered.updateBlueprint housed written
  | remove deleted => exact numbered.deleteBlueprint deleted

end Affects

end Take

section Run

variable {allowed wider : Write → Prop} {store middle next : Store}

theorem Leads.housed (leads : Leads allowed store next) (housed : store.Housed) :
    next.Housed := by
  induction leads with
  | refl => exact housed
  | step write _ _ _ ih => exact (take_affects _ write).housed ih

theorem Leads.numbered (leads : Leads allowed store next) (numbered : store.Numbered)
    (housed : store.Housed) : next.Numbered := by
  induction leads with
  | refl => exact numbered
  | step write before _ admitted ih =>
      exact (take_affects _ write).numbered admitted (before.housed housed) ih

theorem Reached.housed (reached : store.Reached) : store.Housed :=
  Leads.housed reached housed_empty

theorem Reached.numbered (reached : store.Reached) : store.Numbered :=
  Leads.numbered reached numbered_empty housed_empty

theorem Leads.trans (first : Leads allowed store middle) (second : Leads allowed middle next) :
    Leads allowed store next := by
  induction second with
  | refl => exact first
  | step write _ kind admitted ih => exact ih.step write kind admitted

theorem Leads.taken (write : Write) (kind : allowed write) (admitted : store.Admits write)
    (taken : store.apply write = .ok next) : Leads allowed store next := by
  have same : store.take write = next := by
    unfold take
    rw [taken]
  rw [← same]
  exact .step write .refl kind admitted

end Run

section Change

variable {caller : Identity} {asked : ComposeRequest → Prop} {given : List Uuid}
  {store next : Store}

/-- Every change is a write. -/
theorem Change.leads (change : Change caller asked given store next)
    (fresh : (store.ids ++ given).Nodup) : Leads (fun _ => True) store next := by
  cases change with
  | unchanged => exact .refl
  | composed request versionId id now wanted linked inserted =>
      exact .taken (.compose _) trivial trivial inserted
  | hidden id deleted => exact .taken (.hide id caller.org) trivial trivial deleted
  | cloned composeId request id now owned inserted =>
      exact .taken (.clone _) trivial trivial inserted
  | created id versionId draft now inserted =>
      have new := blueprint_new fresh List.mem_cons_self
      exact .taken (.blueprint (Desk.writeOf caller id versionId draft) now) trivial new inserted
  | updated id versionId draft now number written =>
      refine .taken (.revise (Desk.writeOf caller id versionId draft) now) trivial trivial ?_
      change (store.updateBlueprint (Desk.writeOf caller id versionId draft) now).map (·.1) = _
      rw [written]
      rfl
  | removed id deleted =>
      exact .taken (.remove id caller.org caller.account) trivial trivial deleted

/-- Changes under identifiers that are given out only once are runs of writes. -/
theorem Changes.leads {issued : List Uuid} (changes : Changes caller asked given store next)
    (nodup : (issued ++ given).Nodup) (sound : store.Sound) (within : store.Within issued) :
    Leads (fun _ => True) store next := by
  induction changes with
  | none => exact .refl
  | step before change ih =>
      rw [← List.append_assoc] at nodup
      have earlier := (List.nodup_append.mp nodup).1
      obtain ⟨-, withinThen⟩ := before.sound earlier sound within
      exact (ih earlier sound within).trans (change.leads (withinThen.fresh nodup))

end Change

end ComposeDesk.Store
