import ComposeDesk.Json.Basic
import Mathlib.Data.List.Forall2
import Mathlib.Data.List.Nodup

/-!
# Documents in another order

A document may come back with the members of its objects sorted by name.  Where
no name is repeated in an object, sorting loses nothing: the same members come
back in another order, each with its value sorted.
-/

namespace ComposeDesk.Json

theorem insertSorted_perm {name : String} (value : Json) {held : List (String × Json)}
    (new : name ∉ held.map (·.1)) :
    (insertSorted name value held).Perm ((name, value) :: held) := by
  induction held with
  | nil => exact .refl _
  | cons member rest ih =>
      obtain ⟨other, kept⟩ := member
      simp only [List.map_cons, List.mem_cons, not_or] at new
      rw [insertSorted]
      split
      · exact .refl _
      · rw [if_neg new.1]
        exact ((ih new.2).cons (other, kept)).trans (.swap (name, value) (other, kept) rest)

theorem sortedMembers_perm {members held : List (String × Json)}
    (unique : ((members ++ held).map (·.1)).Nodup) :
    (sortedMembers members held).Perm
      (members.map (fun member => (member.1, member.2.sorted)) ++ held) := by
  induction members generalizing held with
  | nil => exact .refl _
  | cons member rest ih =>
      obtain ⟨name, value⟩ := member
      simp only [List.cons_append, List.map_cons, List.nodup_cons] at unique
      obtain ⟨new, others⟩ := unique
      have apart : name ∉ held.map (·.1) := by
        intro taken
        apply new
        rw [List.map_append]
        exact List.mem_append_right _ taken
      have inserted := insertSorted_perm value.sorted apart
      have still : ((rest ++ insertSorted name value.sorted held).map (·.1)).Nodup := by
        have moved := (inserted.append_left rest).map Prod.fst
        rw [moved.nodup_iff, (List.perm_middle.map Prod.fst).nodup_iff]
        exact List.nodup_cons.mpr ⟨new, others⟩
      rw [sortedMembers]
      refine (ih still).trans ((inserted.append_left _).trans ?_)
      exact List.perm_middle

theorem sortedItems_eq (items : List Json) : sortedItems items = items.map sorted := by
  induction items with
  | nil => rfl
  | cons item rest ih => rw [sortedItems, ih, List.map_cons]

theorem readableItems_iff {items : List Json} :
    readableItems items = true ↔ ∀ item ∈ items, item.readable = true := by
  induction items with
  | nil => simp [readableItems]
  | cons item rest ih => simp [readableItems, ih]

theorem readableMembers_iff {members : List (String × Json)} :
    readableMembers members = true ↔ ∀ member ∈ members, member.2.readable = true := by
  induction members with
  | nil => simp [readableMembers]
  | cons member rest ih => simp [readableMembers, ih]

theorem readable_insertSorted {name : String} {value : Json} {held : List (String × Json)}
    (first : value.readable = true) (others : readableMembers held = true) :
    readableMembers (insertSorted name value held) = true := by
  induction held with
  | nil => simp [insertSorted, readableMembers, first]
  | cons member rest ih =>
      obtain ⟨other, kept⟩ := member
      simp only [readableMembers, Bool.and_eq_true] at others
      obtain ⟨head, tail⟩ := others
      rw [insertSorted]
      split
      · simp [readableMembers, first, head, tail]
      · split
        · simp [readableMembers, first, tail]
        · simp [readableMembers, head, ih tail]

mutual

/-- Sorting marks nothing as a defect. -/
theorem readable_sorted : ∀ json : Json, json.readable = true → json.sorted.readable = true
  | .null, _ | .bool _, _ | .num _, _ | .str _, _ => rfl
  | .arr items, readable => readable_sortedItems items readable
  | .obj members, readable => readable_sortedMembers members [] readable rfl
  | .defect _, readable => readable

theorem readable_sortedItems : ∀ items : List Json,
    readableItems items = true → readableItems (sortedItems items) = true
  | [], _ => rfl
  | item :: rest, readable => by
      simp only [readableItems, sortedItems, Bool.and_eq_true] at readable ⊢
      exact ⟨readable_sorted item readable.1, readable_sortedItems rest readable.2⟩

theorem readable_sortedMembers : ∀ members held : List (String × Json),
    readableMembers members = true → readableMembers held = true →
      readableMembers (sortedMembers members held) = true
  | [], _, _, others => others
  | (_, value) :: rest, _, readable, others => by
      simp only [readableMembers, Bool.and_eq_true] at readable
      rw [sortedMembers]
      apply readable_sortedMembers rest _ readable.2
      exact readable_insertSorted (readable_sorted value readable.1) others

end

/-- A document as it comes back: as it was, or with the members of its objects
sorted, once or more often. -/
inductive Reordered : Json → Json → Prop where
  | kept (json : Json) : Reordered json json
  | sorted {json other : Json} (before : Reordered json other) : Reordered json other.sorted

/-- Members as they come back, each with its value as it comes back. -/
def Returned (members found : List (String × Json)) : Prop :=
  ∃ middle, members.Forall₂ (fun given kept => kept.1 = given.1 ∧ given.2.Reordered kept.2) middle ∧
    middle.Perm found

theorem Returned.names {members found : List (String × Json)} (returned : Returned members found) :
    (found.map (·.1)).Perm (members.map (·.1)) := by
  obtain ⟨middle, each, moved⟩ := returned
  refine (moved.map _).symm.trans (.of_eq ?_)
  clear moved
  induction each with
  | nil => rfl
  | cons same _ rest => rw [List.map_cons, List.map_cons, same.1, rest]

namespace Reordered

variable {json other doc : Json}

theorem readable (reordered : Reordered json other) (before : json.readable = true) :
    other.readable = true := by
  induction reordered with
  | kept => exact before
  | sorted _ ih => exact readable_sorted _ ih

/-- What has no parts comes back as it is. -/
theorem eq_of_sorted (same : json.sorted = json) (reordered : Reordered json other) :
    other = json := by
  induction reordered with
  | kept => rfl
  | sorted _ ih => rw [ih, same]

theorem ne_null (reordered : Reordered json other) (present : json ≠ .null) : other ≠ .null := by
  induction reordered with
  | kept => exact present
  | @sorted before _ ih =>
      cases before with
      | null => exact absurd rfl ih
      | _ => rintro ⟨⟩

theorem arr {items : List Json} (reordered : Reordered (.arr items) doc) :
    ∃ found, doc = .arr found ∧ items.Forall₂ Reordered found := by
  induction reordered with
  | kept => exact ⟨items, rfl, List.forall₂_same.mpr fun item _ => .kept item⟩
  | sorted _ ih =>
      obtain ⟨found, rfl, each⟩ := ih
      refine ⟨found.map Json.sorted, by rw [Json.sorted, sortedItems_eq], ?_⟩
      rw [List.forall₂_map_right_iff]
      exact each.imp fun _ _ before => before.sorted

theorem obj {members : List (String × Json)} (reordered : Reordered (.obj members) doc)
    (unique : (members.map (·.1)).Nodup) : ∃ found, doc = .obj found ∧ Returned members found := by
  induction reordered with
  | kept =>
      exact ⟨members, rfl, members, List.forall₂_same.mpr fun member _ => ⟨rfl, .kept _⟩, .refl _⟩
  | sorted _ ih =>
      obtain ⟨found, rfl, returned⟩ := ih
      have once : (((found ++ []) : List (String × Json)).map (·.1)).Nodup := by
        rw [List.append_nil, returned.names.nodup_iff]
        exact unique
      obtain ⟨middle, each, moved⟩ := returned
      have sorted := sortedMembers_perm once
      rw [List.append_nil] at sorted
      refine ⟨sortedMembers found [], rfl,
        middle.map fun member => (member.1, member.2.sorted), ?_,
        (moved.map _).trans sorted.symm⟩
      rw [List.forall₂_map_right_iff]
      exact each.imp fun _ _ before => ⟨before.1, before.2.sorted⟩

end Reordered

namespace Returned

variable {members found : List (String × Json)}

/-- Members of some names come back as the members of these names. -/
theorem filter (returned : Returned members found) (keep : String → Bool) :
    Returned (members.filter (keep ·.1)) (found.filter (keep ·.1)) := by
  obtain ⟨middle, each, moved⟩ := returned
  refine ⟨middle.filter (keep ·.1), ?_, moved.filter _⟩
  clear moved
  induction each with
  | nil => exact .nil
  | @cons given kept _ _ same _ ih =>
      cases known : keep given.1 with
      | false =>
          rw [List.filter_cons_of_neg (by simp [known]),
            List.filter_cons_of_neg (by simp [same.1, known])]
          exact ih
      | true =>
          rw [List.filter_cons_of_pos (by simp [known]),
            List.filter_cons_of_pos (by simp [same.1, known])]
          exact .cons same ih

theorem eq_nil (returned : Returned [] found) : found = [] := by
  obtain ⟨middle, each, moved⟩ := returned
  cases each
  exact moved.nil_eq.symm

theorem eq_singleton {name : String} {value : Json} (returned : Returned [(name, value)] found) :
    ∃ other, found = [(name, other)] ∧ value.Reordered other := by
  obtain ⟨middle, each, moved⟩ := returned
  cases each with
  | @cons _ kept _ _ same rest =>
      cases rest
      obtain ⟨same, reordered⟩ := same
      refine ⟨kept.2, ?_, reordered⟩
      rw [List.perm_singleton.mp moved.symm]
      exact congrArg (fun shown => [(shown, kept.2)]) same

theorem mem (returned : Returned members found) {member : String × Json} (held : member ∈ found) :
    ∃ value, (member.1, value) ∈ members ∧ value.Reordered member.2 := by
  obtain ⟨middle, each, moved⟩ := returned
  replace held := moved.symm.subset held
  clear moved
  induction each with
  | nil => cases held
  | @cons given kept _ _ same _ ih =>
      cases held with
      | head => exact ⟨given.2, by rw [same.1]; exact List.mem_cons_self, same.2⟩
      | tail _ later =>
          obtain ⟨value, among, reordered⟩ := ih later
          exact ⟨value, List.mem_cons_of_mem _ among, reordered⟩

end Returned

end ComposeDesk.Json
