import ComposeDesk.Proofs.Itemwise
import ComposeDesk.Store.Basic

/-!
# Pages of lists

Rows are listed the newest first, and callers ask for a part of the list.  What it
is for rows to be listed exactly is said here once for all lists: there is one list
of them, and the parts of it that follow one another make up the whole.
-/

namespace ComposeDesk

namespace Timestamp

variable {a b c : Timestamp}

theorem before_iff :
    a.before b = true ↔ a.seconds < b.seconds ∨ a.seconds = b.seconds ∧ a.nanos < b.nanos := by
  simp [before]

theorem before_eq_false_iff :
    a.before b = false ↔ b.seconds < a.seconds ∨ b.seconds = a.seconds ∧ b.nanos ≤ a.nanos := by
  rw [← Bool.not_eq_true, before_iff]
  omega

theorem before_asymm (earlier : a.before b = true) : b.before a = false := by
  rw [before_iff] at earlier
  rw [before_eq_false_iff]
  omega

/-- Of two instants that differ, one is before the other one. -/
theorem before_of_ne (differs : a ≠ b) (notBefore : a.before b = false) : b.before a = true := by
  have apart : ¬ (a.seconds = b.seconds ∧ a.nanos = b.nanos) := fun ⟨seconds, nanos⟩ =>
    differs (by
      cases a
      cases b
      cases seconds
      cases nanos
      rfl)
  rw [before_eq_false_iff] at notBefore
  rw [before_iff]
  omega

end Timestamp

section Sorted

variable {α : Type} (time : α → Timestamp)

/-- Each item of a list is newer than all that follow it. -/
def Descending (list : List α) : Prop :=
  list.Pairwise fun newer older => (time older).before (time newer) = true

theorem newestFirst_perm (items : List α) : (newestFirst time items).Perm items :=
  List.mergeSort_perm items _

/-- Items that keep their instants keep their order. -/
theorem newestFirst_map {β : Type} (other : β → Timestamp) {f : α → β}
    (same : ∀ a, other (f a) = time a) (items : List α) :
    (newestFirst time items).map f = newestFirst other (items.map f) := by
  unfold newestFirst
  refine List.map_mergeSort fun a _ b _ => ?_
  rw [same, same]

/-- No item is older than one that follows it. -/
theorem newestFirst_pairwise (items : List α) :
    (newestFirst time items).Pairwise fun newer older =>
      (time newer).before (time older) = false := by
  have sorted : (newestFirst time items).Pairwise fun newer older =>
      (!(time newer).before (time older)) = true := by
    refine List.pairwise_mergeSort (fun a b c first second => ?_) (fun a b => ?_) items
    · rw [Bool.not_eq_true', Timestamp.before_eq_false_iff] at *
      omega
    · rw [Bool.or_eq_true, Bool.not_eq_true', Bool.not_eq_true']
      rcases told : (time a).before (time b) with _ | _
      · exact .inl rfl
      · exact .inr (Timestamp.before_asymm told)
  exact sorted.imp fun ordered => by simpa using ordered

variable {time}

/-- Sorted items with instants of their own come strictly one after another. -/
theorem descending_of_nodup {list : List α}
    (sorted : list.Pairwise fun newer older => (time newer).before (time older) = false)
    (distinct : (list.map time).Nodup) : Descending time list := by
  have differ : list.Pairwise fun newer older => time newer ≠ time older :=
    List.pairwise_map.mp distinct
  exact (sorted.and differ).imp fun ordered => Timestamp.before_of_ne ordered.2 ordered.1

/-- Items can be put strictly one after another in one way only. -/
theorem Descending.unique {list other : List α} (sorted : Descending time list)
    (also : Descending time other) (same : list.Perm other) : list = other := by
  refine same.eq_of_pairwise (fun a b _ _ newer older => ?_) sorted also
  cases newer.symm.trans (Timestamp.before_asymm older)

end Sorted

/-- Parts that follow one another make up the beginning of a list. -/
theorem flatMap_parts {α : Type} (items : List α) (limit count : Nat) :
    (List.range count).flatMap (fun index => (items.drop (index * limit)).take limit) =
      items.take (count * limit) := by
  induction count with
  | zero => simp
  | succ count ih =>
      rw [List.range_succ, List.flatMap_append, ih, Nat.succ_mul, List.take_add,
        List.flatMap_singleton]

section Paged

variable {ρ ι : Type} {shows : ρ → ι → Prop} {time : ι → Timestamp} {rows : List ρ}
  {page : Range → List ι × Nat} {list items : List ι}

/-- A list holds exactly one item for each of some rows, and nothing else. -/
def Holds (shows : ρ → ι → Prop) (rows : List ρ) (list : List ι) : Prop :=
  ∃ items, rows.Forall₂ shows items ∧ list.Perm items

/-- Pages show one list of some rows.  It is the only list of them that is sorted, and
the pages that follow one another, from the first one on, make it up. -/
structure Paged (shows : ρ → ι → Prop) (time : ι → Timestamp) (rows : List ρ)
    (page : Range → List ι × Nat) (list : List ι) : Prop where
  holds : Holds shows rows list
  part : ∀ range : Range, 0 ≤ range.limit → 0 ≤ range.offset →
    page range = ((list.drop range.offset.toNat).take range.limit.toNat, list.length)
  whole : ∀ limit count : Nat, 1 ≤ limit → list.length ≤ count * limit →
    (List.range count).flatMap (fun index : Nat => (page ⟨limit, (index * limit : Nat)⟩).1) = list
  newest : list.Pairwise fun newer older => (time newer).before (time older) = false
  strict : (list.map time).Nodup → Descending time list
  only : (list.map time).Nodup →
    ∀ other, Descending time other → Holds shows rows other → other = list

/-- A row shows in one way only. -/
theorem eq_of_forall₂ (one : ∀ row a b, shows row a → shows row b → a = b) {others : List ι}
    (all : rows.Forall₂ shows items) (also : rows.Forall₂ shows others) : items = others := by
  induction all generalizing others with
  | nil =>
      cases also
      rfl
  | cons first _ ih =>
      cases also with
      | cons second rest => rw [one _ _ _ first second, ih rest]

/-- Parts of a sorted list of the items that rows show are pages of it. -/
theorem paged (one : ∀ row a b, shows row a → shows row b → a = b)
    (shown : rows.Forall₂ shows items) (perm : list.Perm items)
    (newest : list.Pairwise fun newer older => (time newer).before (time older) = false) :
    Paged shows time rows (fun range => range.of list) list where
  holds := ⟨items, shown, perm⟩
  part _ _ _ := rfl
  whole limit count _ enough := by
    have parts := flatMap_parts list limit count
    rw [List.take_of_length_le enough] at parts
    exact parts
  newest := newest
  strict := descending_of_nodup newest
  only := by
    rintro distinct other sorted ⟨others, also, same⟩
    cases eq_of_forall₂ one shown also
    exact sorted.unique (descending_of_nodup newest distinct) (same.trans perm.symm)

end Paged

end ComposeDesk
