import ComposeDesk.Proofs.Json.Reordered
import Mathlib.Data.String.Basic
import Mathlib.Logic.Relation

/-!
# Documents in order

A document is in order if the members of each of its objects are sorted by their names, no
name twice.  Sorting brings every document in order and leaves one in order as it is, so what
was read once is not changed by being read again.  Sorted or not, the parts of a document are
smaller than the document.
-/

namespace ComposeDesk.Json

mutual

/-- The members of all objects are sorted by name, and no name comes twice in one. -/
def Ordered : Json → Prop
  | .arr items => OrderedItems items
  | .obj members => (members.map (·.1)).Pairwise (· < ·) ∧ OrderedMembers members
  | _ => True

def OrderedItems : List Json → Prop
  | [] => True
  | item :: rest => item.Ordered ∧ OrderedItems rest

def OrderedMembers : List (String × Json) → Prop
  | [] => True
  | (_, value) :: rest => value.Ordered ∧ OrderedMembers rest

end

theorem orderedItems_iff {items : List Json} :
    OrderedItems items ↔ ∀ item ∈ items, item.Ordered := by
  induction items with
  | nil => simp [OrderedItems]
  | cons item rest ih => simp [OrderedItems, ih]

theorem orderedMembers_iff {members : List (String × Json)} :
    OrderedMembers members ↔ ∀ member ∈ members, member.2.Ordered := by
  induction members with
  | nil => simp [OrderedMembers]
  | cons member rest ih => simp [OrderedMembers, ih]

variable {name : String} {value : Json} {held : List (String × Json)}

theorem mem_insertSorted {member : String × Json} (among : member ∈ insertSorted name value held) :
    member = (name, value) ∨ member ∈ held := by
  induction held with
  | nil => exact .inl (List.mem_singleton.mp among)
  | cons first rest ih =>
      obtain ⟨other, kept⟩ := first
      rw [insertSorted] at among
      split at among
      · exact List.mem_cons.mp among
      · split at among
        · exact (List.mem_cons.mp among).imp_right (List.mem_cons_of_mem _)
        · rcases List.mem_cons.mp among with rfl | later
          · exact .inr List.mem_cons_self
          · exact (ih later).imp_right (List.mem_cons_of_mem _)

/-- What is put into its place leaves the names sorted. -/
theorem pairwise_insertSorted (sorted : (held.map (·.1)).Pairwise (· < ·)) :
    ((insertSorted name value held).map (·.1)).Pairwise (· < ·) := by
  induction held with
  | nil => exact List.pairwise_singleton _ _
  | cons first rest ih =>
      obtain ⟨other, kept⟩ := first
      obtain ⟨least, later⟩ := List.pairwise_cons.mp sorted
      rw [insertSorted]
      split_ifs with before same
      · refine List.pairwise_cons.mpr ⟨fun next among => ?_, sorted⟩
        rcases List.mem_cons.mp among with rfl | after
        · exact before
        · exact before.trans (least next after)
      · rw [same]
        exact List.pairwise_cons.mpr ⟨least, later⟩
      · refine List.pairwise_cons.mpr ⟨fun next among => ?_, ih later⟩
        obtain ⟨member, inserted, rfl⟩ := List.mem_map.mp among
        rcases mem_insertSorted inserted with rfl | after
        · exact lt_of_le_of_ne (not_lt.mp before) (Ne.symm same)
        · exact least _ (List.mem_map_of_mem after)

mutual

/-- What is sorted is in order. -/
theorem ordered_sorted : ∀ json : Json, json.sorted.Ordered
  | .null | .bool _ | .num _ | .str _ | .defect _ => trivial
  | .arr items => ordered_sortedItems items
  | .obj members => ordered_sortedMembers members [] .nil trivial

theorem ordered_sortedItems : ∀ items : List Json, OrderedItems (sortedItems items)
  | [] => trivial
  | item :: rest => ⟨ordered_sorted item, ordered_sortedItems rest⟩

theorem ordered_sortedMembers : ∀ members held : List (String × Json),
    (held.map (·.1)).Pairwise (· < ·) → OrderedMembers held →
      (Json.obj (sortedMembers members held)).Ordered
  | [], _, sorted, each => ⟨sorted, each⟩
  | (name, value) :: rest, held, sorted, each => by
      rw [sortedMembers]
      refine ordered_sortedMembers rest _ (pairwise_insertSorted sorted) ?_
      refine orderedMembers_iff.mpr fun member among => ?_
      rcases mem_insertSorted among with rfl | before
      · exact ordered_sorted value
      · exact orderedMembers_iff.mp each member before

end

/-- A name after all others is put at the end. -/
theorem insertSorted_last (least : ∀ other ∈ held.map (·.1), other < name) :
    insertSorted name value held = held ++ [(name, value)] := by
  induction held with
  | nil => rfl
  | cons first rest ih =>
      obtain ⟨other, kept⟩ := first
      rw [List.map_cons, List.forall_mem_cons] at least
      rw [insertSorted, if_neg least.1.asymm, if_neg least.1.ne', ih least.2]
      rfl

mutual

/-- What is in order is not changed by sorting. -/
theorem sorted_of_ordered : ∀ json : Json, json.Ordered → json.sorted = json
  | .null, _ | .bool _, _ | .num _, _ | .str _, _ | .defect _, _ => rfl
  | .arr items, ordered => congrArg Json.arr (sortedItems_of_ordered items ordered)
  | .obj members, ordered =>
      congrArg Json.obj (sortedMembers_of_ordered members [] ordered.1 ordered.2)

theorem sortedItems_of_ordered : ∀ items : List Json, OrderedItems items →
    sortedItems items = items
  | [], _ => rfl
  | item :: rest, ordered => by
      rw [sortedItems, sorted_of_ordered item ordered.1, sortedItems_of_ordered rest ordered.2]

theorem sortedMembers_of_ordered : ∀ members held : List (String × Json),
    ((held ++ members).map (·.1)).Pairwise (· < ·) → OrderedMembers members →
      sortedMembers members held = held ++ members
  | [], held, _, _ => (List.append_nil held).symm
  | (name, value) :: rest, held, sorted, each => by
      have least : ∀ other ∈ held.map (·.1), other < name := by
        rw [List.map_append, List.pairwise_append] at sorted
        exact fun other before => sorted.2.2 other before name List.mem_cons_self
      have moved : held ++ (name, value) :: rest = (held ++ [(name, value)]) ++ rest :=
        List.append_cons ..
      rw [moved] at sorted ⊢
      rw [sortedMembers, sorted_of_ordered value each.1, insertSorted_last least]
      exact sortedMembers_of_ordered rest _ sorted each.2

end

/-- The values that a document holds at once. -/
def parts : Json → List Json
  | .arr items => items
  | .obj members => members.map (·.2)
  | _ => []

/-- One document holds another one, at any depth. -/
def Holds : Json → Json → Prop :=
  Relation.ReflTransGen fun json part => part ∈ json.parts

theorem Ordered.part {json part : Json} (ordered : json.Ordered) (held : part ∈ json.parts) :
    part.Ordered := by
  cases json with
  | arr items => exact orderedItems_iff.mp ordered part held
  | obj members =>
      obtain ⟨member, among, rfl⟩ := List.mem_map.mp held
      exact orderedMembers_iff.mp ordered.2 member among
  | _ => cases held

theorem size_pos (json : Json) : 0 < json.size := by
  cases json <;> exact Nat.succ_pos _

theorem size_le_sizeItems {item : Json} {items : List Json} (among : item ∈ items) :
    item.size ≤ sizeItems items := by
  induction items with
  | nil => cases among
  | cons first rest ih =>
      rw [sizeItems]
      rcases List.mem_cons.mp among with rfl | later
      · exact Nat.le_add_right ..
      · exact (ih later).trans (Nat.le_add_left ..)

theorem size_le_sizeMembers {member : String × Json} {members : List (String × Json)}
    (among : member ∈ members) : member.2.size ≤ sizeMembers members := by
  induction members with
  | nil => cases among
  | cons first rest ih =>
      rw [sizeMembers]
      rcases List.mem_cons.mp among with rfl | later
      · exact Nat.le_add_right ..
      · exact (ih later).trans (Nat.le_add_left ..)

/-- A part is smaller than what holds it. -/
theorem size_part_lt {json part : Json} (held : part ∈ json.parts) : part.size < json.size := by
  cases json with
  | arr items => exact Nat.lt_succ_of_le (size_le_sizeItems held)
  | obj members =>
      obtain ⟨member, among, rfl⟩ := List.mem_map.mp held
      exact Nat.lt_succ_of_le (size_le_sizeMembers among)
  | _ => cases held

theorem sizeMembers_insertSorted_le (name : String) (value : Json) (held : List (String × Json)) :
    sizeMembers (insertSorted name value held) ≤ value.size + sizeMembers held := by
  induction held with
  | nil => exact le_rfl
  | cons first rest ih =>
      obtain ⟨other, kept⟩ := first
      rw [insertSorted]
      split_ifs
      · exact le_rfl
      · simp only [sizeMembers]
        omega
      · simp only [sizeMembers]
        omega

mutual

/-- Sorting only leaves members out. -/
theorem size_sorted_le : ∀ json : Json, json.sorted.size ≤ json.size
  | .null | .bool _ | .num _ | .str _ | .defect _ => le_rfl
  | .arr items => Nat.succ_le_succ (sizeItems_sorted_le items)
  | .obj members => Nat.succ_le_succ (sizeMembers_sorted_le members [])

theorem sizeItems_sorted_le : ∀ items : List Json, sizeItems (sortedItems items) ≤ sizeItems items
  | [] => le_rfl
  | item :: rest => Nat.add_le_add (size_sorted_le item) (sizeItems_sorted_le rest)

theorem sizeMembers_sorted_le : ∀ members held : List (String × Json),
    sizeMembers (sortedMembers members held) ≤ sizeMembers members + sizeMembers held
  | [], _ => Nat.le_add_left ..
  | (name, value) :: rest, held => by
      have later := sizeMembers_sorted_le rest (insertSorted name value.sorted held)
      have inserted := sizeMembers_insertSorted_le name value.sorted held
      have smaller := size_sorted_le value
      rw [sortedMembers, sizeMembers]
      omega

end

end ComposeDesk.Json
