import Mathlib.Data.List.Nodup

/-!
# Items by their keys

What is found in a list whose items have keys of their own, and what is found in
parts of a list.
-/

namespace ComposeDesk

section Keys

variable {α κ : Type} [DecidableEq κ] {key : α → κ} {rows : List α}

/-- Looking up a row by a key of its own finds it. -/
theorem find?_of_mem (unique : (rows.map key).Nodup) {row : α} (member : row ∈ rows) :
    rows.find? (fun other => key other = key row) = some row := by
  rcases found : rows.find? (fun other => key other = key row) with _ | other
  · rw [List.find?_eq_none] at found
    exact absurd (decide_eq_true rfl) (found row member)
  · have same := List.find?_some found
    rw [List.inj_on_of_nodup_map unique (List.mem_of_find?_eq_some found) member
      (by simpa using same)]

/-- What is looked up among some of the rows is what is looked up among all, if
it is one of them. -/
theorem find?_filter_of_unique (unique : (rows.map key).Nodup) (keep : α → Bool) (id : κ) :
    (rows.filter keep).find? (fun row => key row = id) =
      (rows.find? fun row => key row = id).filter keep := by
  rcases found : rows.find? (fun row => key row = id) with _ | row
  · rw [Option.filter_none, List.find?_eq_none]
    intro row member
    exact List.find?_eq_none.mp found row (List.mem_filter.mp member).1
  · have same : key row = id := by simpa using List.find?_some found
    have held := List.mem_of_find?_eq_some found
    by_cases kept : keep row = true
    · have sub : ((rows.filter keep).map key).Nodup :=
        unique.sublist (List.filter_sublist.map key)
      rw [Option.filter_some_pos kept, ← same]
      exact find?_of_mem sub (List.mem_filter.mpr ⟨held, kept⟩)
    · rw [Option.filter_some_neg (by simpa using kept), List.find?_eq_none]
      intro other member
      obtain ⟨among, keeps⟩ := List.mem_filter.mp member
      simp only [decide_eq_true_eq]
      intro sameOther
      rw [List.inj_on_of_nodup_map unique among held (sameOther.trans same.symm)] at keeps
      exact kept keeps

/-- Only the row itself has its key. -/
theorem filter_key (unique : (rows.map key).Nodup) {row : α} (member : row ∈ rows) :
    rows.filter (fun other => key other = key row) = [row] := by
  induction rows with
  | nil => cases member
  | cons first rest ih =>
      obtain ⟨apart, others⟩ := List.nodup_cons.mp unique
      rcases List.mem_cons.mp member with rfl | later
      · have none : rest.filter (fun other => key other = key row) = [] := by
          rw [List.filter_eq_nil_iff]
          intro other held same
          exact apart (List.mem_map.mpr ⟨other, held, of_decide_eq_true same⟩)
        have self : decide (key row = key row) = true := decide_eq_true rfl
        rw [List.filter_cons, if_pos self, none]
      · have other : key first ≠ key row := fun same =>
          apart (List.mem_map.mpr ⟨row, later, same.symm⟩)
        have differs : ¬ decide (key first = key row) = true := by simpa using other
        rw [List.filter_cons, if_neg differs, ih others later]

end Keys

/-- Where at most one item is looked for, it is found in any order. -/
theorem find?_perm {α : Type} {want : α → Bool} {items others : List α}
    (moved : items.Perm others)
    (only : ∀ a ∈ items, ∀ b ∈ items, want a = true → want b = true → a = b) :
    items.find? want = others.find? want := by
  rcases found : items.find? want with _ | a
  · symm
    rw [List.find?_eq_none] at found ⊢
    exact fun b held => found b (moved.symm.subset held)
  · have held := List.mem_of_find?_eq_some found
    have wanted := List.find?_some found
    rcases met : others.find? want with _ | b
    · exact absurd wanted (List.find?_eq_none.mp met a (moved.subset held))
    · have same := only a held b (moved.symm.subset (List.mem_of_find?_eq_some met)) wanted
        (List.find?_some met)
      rw [same]

/-- What is looked for stays found where only other things are taken away. -/
theorem find?_filter_of_imp {α : Type} {want keep : α → Bool}
    (wanted : ∀ a, want a = true → keep a = true) (items : List α) :
    (items.filter keep).find? want = items.find? want := by
  rw [List.find?_filter]
  refine congrArg (items.find? ·) (funext fun a => ?_)
  cases held : want a with
  | false => simp
  | true => simp [wanted a held]

/-- What is kept of some results comes from what is kept of the items. -/
theorem filter_filterMap_eq {α β : Type} {f : α → Option β} {keep : β → Bool} {choose : α → Bool}
    (same : ∀ a b, f a = some b → keep b = choose a) (items : List α) :
    (items.filterMap f).filter keep = (items.filter choose).filterMap f := by
  induction items with
  | nil => rfl
  | cons a rest ih =>
      rcases result : f a with _ | b
      · rw [List.filterMap_cons_none result, ih, List.filter_cons]
        split
        · rw [List.filterMap_cons_none result]
        · rfl
      · rw [List.filterMap_cons_some result, List.filter_cons, List.filter_cons, ih,
          same a b result]
        split
        · rw [List.filterMap_cons_some result]
        · rfl

end ComposeDesk
