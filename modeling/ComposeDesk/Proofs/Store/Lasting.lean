import Mathlib.Data.List.Find
import ComposeDesk.Proofs.Itemwise
import ComposeDesk.Proofs.Keyed
import ComposeDesk.Proofs.Store.Legible
import ComposeDesk.Proofs.Store.Listings

/-!
# Composes last

No change takes a compose away.  It may be marked as deleted and may lose its
blueprint, and that is all that ever becomes of it; clones do not change at all.
-/

namespace ComposeDesk

/-- What may become of a compose: it may be deleted and lose its blueprint. -/
structure ComposeRow.Becomes (row later : ComposeRow) : Prop where
  same : later = { row with deleted := later.deleted, versionId := later.versionId }
  deleted : row.deleted = true → later.deleted = true
  versionId : later.versionId = row.versionId ∨ later.versionId = none

namespace ComposeRow

variable {row middle later : ComposeRow}

theorem Becomes.refl (row : ComposeRow) : row.Becomes row where
  same := rfl
  deleted held := held
  versionId := .inl rfl

theorem Becomes.trans (first : row.Becomes middle) (second : middle.Becomes later) :
    row.Becomes later where
  same := second.same.trans (by rw [first.same])
  deleted held := second.deleted (first.deleted held)
  versionId := by
    rcases second.versionId with kept | lost
    · rw [kept]
      exact first.versionId
    · exact .inr lost

theorem Becomes.id_eq (becomes : row.Becomes later) : later.id = row.id := by
  rw [becomes.same]

theorem Becomes.org_eq (becomes : row.Becomes later) : later.org = row.org := by
  rw [becomes.same]

theorem becomes_hide (id : Uuid) (row : ComposeRow) : row.Becomes (row.hide id) := by
  unfold hide
  split
  · exact ⟨rfl, fun _ => rfl, .inl rfl⟩
  · exact .refl row

theorem becomes_unlink (removed : List Uuid) (row : ComposeRow) :
    row.Becomes (row.unlink removed) := by
  unfold unlink
  split
  · exact ⟨rfl, fun held => held, .inr rfl⟩
  · exact .refl row

end ComposeRow

namespace Store

/-- All composes are still there, apart from what may become of them, and all clones
as they were. -/
structure Lasts (store later : Store) : Prop where
  composes : ∃ kept added, later.composes = kept ++ added ∧
    store.composes.Forall₂ ComposeRow.Becomes kept
  clones : store.clones <+: later.clones

/-- Every compose has an identifier of its own, and every clone the compose that it
was made from. -/
structure Anchored (store : Store) : Prop where
  unique : (store.composes.map (·.id)).Nodup
  parents : ∀ clone ∈ store.clones, ∃ parent, store.compose? clone.composeId = some parent

theorem anchored_empty : empty.Anchored where
  unique := .nil
  parents _ member := by cases member

section Lasts

variable {store middle later : Store} {row : ComposeRow} {id : Uuid} {org : String}

theorem Lasts.refl (store : Store) : store.Lasts store where
  composes := ⟨_, [], (List.append_nil _).symm, List.forall₂_same.mpr fun row _ => .refl row⟩
  clones := List.prefix_rfl

theorem Lasts.trans (first : store.Lasts middle) (second : middle.Lasts later) :
    store.Lasts later := by
  obtain ⟨kept, added, same, becomes⟩ := first.composes
  obtain ⟨still, more, split, after⟩ := second.composes
  rw [same] at after
  obtain ⟨front, back, rfl, former⟩ := forall₂_of_append after
  refine ⟨⟨front, back ++ more, ?_, ?_⟩, first.clones.trans second.clones⟩
  · rw [split, List.append_assoc]
  · exact forall₂_trans (fun _ _ _ => .trans) becomes former

/-- Each compose has become one that is there. -/
theorem Lasts.exists_row (lasts : store.Lasts later) (member : row ∈ store.composes) :
    ∃ last ∈ later.composes, row.Becomes last := by
  obtain ⟨kept, added, same, becomes⟩ := lasts.composes
  obtain ⟨index, bound, rfl⟩ := List.getElem_of_mem member
  have long : index < kept.length := becomes.length_eq ▸ bound
  refine ⟨kept[index], ?_, List.forall₂_iff_get.mp becomes |>.2 index bound long⟩
  rw [same]
  exact List.mem_append_left _ (List.getElem_mem long)

/-- A compose is found as what it has become. -/
theorem Lasts.compose? (lasts : store.Lasts later) (found : store.compose? id = some row) :
    ∃ last, later.compose? id = some last ∧ row.Becomes last := by
  obtain ⟨kept, added, same, becomes⟩ := lasts.composes
  have both := find?_forall₂ (p := fun row : ComposeRow => decide (row.id = id))
    (q := fun row : ComposeRow => decide (row.id = id))
    (fun row last became => by rw [became.id_eq]) becomes
  rcases optionRel_cases both with ⟨missing, -⟩ | ⟨first, last, held, still, became⟩
  · cases found.symm.trans missing
  · cases found.symm.trans held
    refine ⟨last, ?_, became⟩
    unfold Store.compose?
    rw [same, List.find?_append, still]
    rfl

/-- Who owns a compose goes on owning it. -/
theorem Lasts.owns (lasts : store.Lasts later) (found : store.compose? id = some row) :
    later.owns org id = store.owns org id := by
  obtain ⟨last, still, becomes⟩ := lasts.compose? found
  rw [Store.owns, Store.owns, found, still]
  exact congrArg (fun owner => decide (owner = org)) becomes.org_eq

/-- A clone that is found is found ever after. -/
theorem Lasts.getClone (lasts : store.Lasts later) (anchored : store.Anchored)
    {clone : CloneRow} (found : store.getClone id org = .ok clone) :
    later.getClone id org = .ok clone := by
  obtain ⟨more, split⟩ := lasts.clones
  have same : store.clones.find? (fun row => row.id = id && later.owns org row.composeId) =
      store.clones.find? (fun row => row.id = id && store.owns org row.composeId) := by
    refine List.find?_congr fun row member => ?_
    obtain ⟨parent, held⟩ := anchored.parents row member
    rw [lasts.owns held]
  unfold Store.getClone at found ⊢
  rw [← split, List.find?_append, same]
  split at found
  · rename_i held first
    rw [first]
    exact found
  · cases found

/-- A clone that is listed is listed ever after. -/
theorem Lasts.mem_clonesOf (lasts : store.Lasts later) {clone : CloneRow}
    (listed : clone ∈ store.clonesOf id org) : clone ∈ later.clonesOf id org := by
  have member := List.mem_filter.mp ((store.clonesOf_perm id org).mem_iff.mp listed)
  obtain ⟨owned, parent⟩ := Bool.and_eq_true_iff.mp member.2
  obtain ⟨row, found, -⟩ := owns_iff.mp owned
  refine (later.clonesOf_perm id org).mem_iff.mpr (List.mem_filter.mpr ⟨?_, ?_⟩)
  · exact lasts.clones.subset member.1
  · rw [lasts.owns found, owned, parent]
    rfl

end Lasts

section Change

variable {caller : Identity} {asked : ComposeRequest → Prop} {given : List Uuid}
  {store next : Store}

/-- What changes each compose into one that it may become takes none away. -/
theorem lasts_map {change : ComposeRow → ComposeRow}
    (becomes : ∀ row : ComposeRow, row.Becomes (change row))
    (same : next.composes = store.composes.map change) (clones : next.clones = store.clones) :
    store.Lasts next where
  composes := by
    refine ⟨_, [], same.trans (List.append_nil _).symm, ?_⟩
    rw [List.forall₂_map_right_iff]
    exact List.forall₂_same.mpr fun row _ => becomes row
  clones := clones ▸ List.prefix_rfl

theorem Change.lasts (change : Change caller asked given store next) : store.Lasts next := by
  cases change with
  | unchanged => exact .refl store
  | composed request versionId id now wanted linked inserted =>
      obtain ⟨-, rfl⟩ := insertCompose_ok_iff.mp inserted
      exact ⟨⟨_, _, rfl, List.forall₂_same.mpr fun row _ => .refl row⟩, List.prefix_rfl⟩
  | hidden id deleted =>
      obtain ⟨-, rfl⟩ := deleteCompose_ok deleted
      exact lasts_map (ComposeRow.becomes_hide id) rfl rfl
  | cloned composeId request id now owned inserted =>
      obtain ⟨-, rfl⟩ := insertClone_ok inserted
      exact ⟨(Lasts.refl store).composes, List.prefix_append _ _⟩
  | created id versionId draft now inserted =>
      obtain ⟨-, rfl⟩ := insertBlueprint_ok inserted
      exact ⟨(Lasts.refl store).composes, List.prefix_rfl⟩
  | updated id versionId draft now number written =>
      obtain ⟨-, -, -, rfl⟩ := updateBlueprint_ok written
      exact ⟨(Lasts.refl store).composes, List.prefix_rfl⟩
  | removed id deleted =>
      obtain ⟨-, rfl⟩ := deleteBlueprint_ok deleted
      exact lasts_map (ComposeRow.becomes_unlink _) rfl rfl

theorem Changes.lasts (changes : Changes caller asked given store next) : store.Lasts next :=
  changes.keep (fun change before => before.trans change.lasts) (.refl store)

theorem Change.anchored (change : Change caller asked given store next)
    (anchored : store.Anchored) : next.Anchored where
  unique := change.ids_nodup anchored.unique
  parents clone member := by
    have found : ∃ parent, store.compose? clone.composeId = some parent := by
      rcases change.of_clones member with before | ⟨_, _, _, _, parent, rfl⟩
      · exact anchored.parents clone before
      · exact parent
    obtain ⟨parent, held⟩ := found
    obtain ⟨last, still, -⟩ := change.lasts.compose? held
    exact ⟨last, still⟩

theorem Changes.anchored (changes : Changes caller asked given store next)
    (anchored : store.Anchored) : next.Anchored :=
  changes.keep Change.anchored anchored

end Change

section Deleted

variable {store : Store} {row : ComposeRow}

theorem Anchored.compose? (anchored : store.Anchored) (member : row ∈ store.composes) :
    store.compose? row.id = some row :=
  find?_of_mem anchored.unique member

/-- A deleted compose is missing for every organization. -/
theorem getCompose_of_deleted (anchored : store.Anchored) (member : row ∈ store.composes)
    (deleted : row.deleted = true) (org : String) :
    store.getCompose row.id org = .error (.notFound .compose) := by
  have hidden : isActive org row = false := by
    rw [isActive, deleted]
    rfl
  rw [getCompose, anchored.compose? member]
  simp only [hidden, Bool.false_eq_true, if_false]

/-- What is listed is not deleted. -/
theorem activeComposes_ne (anchored : store.Anchored) (member : row ∈ store.composes)
    (deleted : row.deleted = true) {org : String} {now : Timestamp} {window : Int}
    {entry : ComposeEntry} (listed : entry ∈ store.activeComposes org now window) :
    entry.id ≠ row.id := by
  obtain ⟨other, held, rfl⟩ :=
    List.mem_map.mp ((store.activeComposes_perm org now window).mem_iff.mp listed)
  obtain ⟨among, active⟩ := List.mem_filter.mp held
  intro same
  cases List.inj_on_of_nodup_map anchored.unique among member same
  rw [isListed, deleted] at active
  simp at active

/-- Every compose that was created within the window counts, a deleted one too. -/
theorem countComposes_of_mem (anchored : store.Anchored) (member : row ∈ store.composes)
    {now : Timestamp} {window : Int} (recent : row.createdAt.isWithin now window = true) :
    store.countComposes row.org now window =
      ({ store with composes := store.composes.filter (·.id ≠ row.id) } : Store).countComposes
        row.org now window + 1 := by
  have single := filter_key anchored.unique member
  have split := (List.filter_append_perm (fun other : ComposeRow => decide (other.id = row.id))
    (store.composes)).filter fun other =>
      other.org = row.org && other.createdAt.isWithin now window
  rw [List.filter_append, single, List.filter_cons_of_pos (by simpa using recent),
    List.filter_nil] at split
  have sizes := split.length_eq
  rw [List.length_append, List.length_singleton, Nat.add_comm] at sizes
  simpa only [countComposes, ne_eq, decide_not] using sizes.symm

/-- The clones of a compose can be looked up, a deleted one's too. -/
theorem readable_of_parent (found : store.compose? row.id = some row) {clone : CloneRow}
    (member : clone ∈ store.clones) (parent : clone.composeId = row.id) :
    clone ∈ store.clonesOf row.id row.org ∧
      ∃ first, store.getClone clone.id row.org = .ok first := by
  have owned : store.owns row.org row.id = true := owns_iff.mpr ⟨row, found, rfl⟩
  constructor
  · refine (store.clonesOf_perm row.id row.org).mem_iff.mpr (List.mem_filter.mpr ⟨member, ?_⟩)
    simp [owned, parent]
  · unfold getClone
    split
    · exact ⟨_, rfl⟩
    · rename_i none
      exact absurd (by simp [parent, owned]) (List.find?_eq_none.mp none clone member)

end Deleted

end Store

end ComposeDesk
