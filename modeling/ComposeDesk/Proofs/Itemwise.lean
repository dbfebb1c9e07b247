import Mathlib.Data.List.Forall2

/-!
# Item by item

Options and lists whose items are related one by one.
-/

namespace ComposeDesk

variable {α β γ ε : Type} {related : α → β → Prop}

theorem optionRel_refl {related : α → α → Prop} (refl : ∀ a, related a a)
    (value : Option α) : Option.Rel related value value := by
  cases value with
  | none => exact .none
  | some a => exact .some (refl a)

theorem optionRel_cases {value : Option α}
    {other : Option β} (bound : Option.Rel related value other) :
    (value = none ∧ other = none) ∨ ∃ a b, value = some a ∧ other = some b ∧ related a b := by
  cases bound with
  | none => exact .inl ⟨rfl, rfl⟩
  | some both => exact .inr ⟨_, _, rfl, rfl, both⟩

/-- What is made of each item is the same where it is the same of items that belong
together. -/
theorem map_eq_of_forall₂ {f : α → γ} {g : β → γ}
    (same : ∀ a b, related a b → f a = g b) {items : List α} {others : List β}
    (all : items.Forall₂ related others) : items.map f = others.map g := by
  induction all with
  | nil => rfl
  | cons one _ ih => rw [List.map_cons, List.map_cons, same _ _ one, ih]

/-- What is found first in lists that belong together belongs together. -/
theorem find?_forall₂ {p : α → Bool} {q : β → Bool}
    (same : ∀ a b, related a b → p a = q b) {items : List α} {others : List β}
    (all : items.Forall₂ related others) :
    Option.Rel related (items.find? p) (others.find? q) := by
  induction all with
  | nil => exact .none
  | @cons a b rest more one _ ih =>
      rw [List.find?_cons, List.find?_cons, same a b one]
      cases q b with
      | true => exact .some one
      | false => exact ih

theorem forall₂_trans {first : α → β → Prop} {second : β → γ → Prop} {both : α → γ → Prop}
    (step : ∀ a b c, first a b → second b c → both a c) {items : List α} {middle : List β}
    {results : List γ} (before : items.Forall₂ first middle)
    (after : middle.Forall₂ second results) : items.Forall₂ both results := by
  induction before generalizing results with
  | nil =>
      cases after
      exact .nil
  | cons one _ ih =>
      cases after with
      | cons other rest => exact .cons (step _ _ _ one other) (ih rest)

/-- Where each item on the first side says something of its partner, it holds of all
partners. -/
theorem forall_of_forall₂ {holds : β → Prop}
    (each : ∀ a b, related a b → holds b) {items : List α} {results : List β}
    (all : items.Forall₂ related results) : ∀ b ∈ results, holds b := by
  induction all with
  | nil => exact fun _ held => nomatch held
  | cons one _ ih =>
      intro b held
      rcases List.mem_cons.mp held with rfl | later
      · exact each _ _ one
      · exact ih b later

/-- Each item on the first side has a partner. -/
theorem exists_of_forall₂ {items : List α} {results : List β}
    (all : items.Forall₂ related results) {a : α} (member : a ∈ items) :
    ∃ b ∈ results, related a b := by
  induction all with
  | nil => cases member
  | @cons first partner rest results one _ ih =>
      rcases List.mem_cons.mp member with rfl | later
      · exact ⟨partner, List.mem_cons_self, one⟩
      · obtain ⟨b, held, relates⟩ := ih later
        exact ⟨b, List.mem_cons_of_mem partner held, relates⟩

/-- What belongs to the first items of a list are the first of what belongs to all. -/
theorem forall₂_of_append {items more : List α} {results : List β}
    (all : (items ++ more).Forall₂ related results) :
    ∃ front back, results = front ++ back ∧ items.Forall₂ related front := by
  have first := List.forall₂_take items.length all
  rw [List.take_left] at first
  exact ⟨_, _, (List.take_append_drop items.length results).symm, first⟩

theorem forall₂_map_self (f : α → β) (items : List α) :
    items.Forall₂ (fun a b => b = f a) (items.map f) := by
  rw [List.forall₂_map_right_iff]
  exact List.forall₂_same.mpr fun _ _ => rfl

/-- Where each item has a result, the results are those of the items in their order. -/
theorem forall₂_filterMap {f : α → Option β} {items : List α}
    (each : ∀ a ∈ items, ∃ b, f a = some b) :
    items.Forall₂ (fun a b => f a = some b) (items.filterMap f) := by
  induction items with
  | nil => exact .nil
  | cons a rest ih =>
      obtain ⟨b, result⟩ := each a List.mem_cons_self
      rw [List.filterMap_cons_some result]
      exact .cons result (ih fun other held => each other (List.mem_cons_of_mem a held))

theorem eq_ok_of_toOption {read : Except ε α} {a : α} (found : read.toOption = some a) :
    read = .ok a := by
  cases read with
  | error fault => cases found
  | ok b => exact congrArg Except.ok (Option.some.inj found)

theorem toOption_eq_some_iff {read : Except ε α} {a : α} :
    read.toOption = some a ↔ read = .ok a :=
  ⟨eq_ok_of_toOption, fun done => congrArg Except.toOption done⟩

theorem map_eq_ok {f : α → β} {result : Except ε α} {b : β} (done : result.map f = .ok b) :
    ∃ a, result = .ok a ∧ f a = b := by
  cases result with
  | error fault => cases done
  | ok a =>
      cases done
      exact ⟨a, rfl, rfl⟩

theorem bind_eq_ok {result : Except ε α} {next : α → Except ε β} {b : β}
    (done : result >>= next = .ok b) : ∃ a, result = .ok a ∧ next a = .ok b := by
  cases result with
  | error fault => cases done
  | ok a => exact ⟨a, rfl, done⟩

/-- If all items have results, these are the results of the items in their order. -/
theorem forall₂_of_mapM_ok {f : α → Except ε β} {items : List α} {results : List β}
    (done : items.mapM f = .ok results) : items.Forall₂ (fun a b => f a = .ok b) results := by
  induction items generalizing results with
  | nil =>
      cases done
      exact .nil
  | cons a rest ih =>
      rw [List.mapM_cons] at done
      rcases first : f a with error | b
      · rw [first] at done
        cases done
      · rcases later : rest.mapM f with error | others
        · rw [first, later] at done
          cases done
        · rw [first, later] at done
          cases done
          exact .cons first (ih later)

theorem mapM_of_forall₂ {f : α → Except ε β} {items : List α} {results : List β}
    (each : items.Forall₂ (fun a b => f a = .ok b) results) : items.mapM f = .ok results := by
  induction each with
  | nil => rfl
  | cons first _ ih =>
      rw [List.mapM_cons, first, ih]
      rfl

/-- If each item has a result of some kind, all of them have. -/
theorem mapM_ok {f : α → Except ε β} {items : List α}
    (each : ∀ a ∈ items, ∃ b, f a = .ok b ∧ related a b) :
    ∃ results, items.mapM f = .ok results ∧ items.Forall₂ related results := by
  induction items with
  | nil => exact ⟨[], rfl, .nil⟩
  | cons a rest ih =>
      obtain ⟨b, first, relates⟩ := each a List.mem_cons_self
      obtain ⟨results, later, all⟩ := ih fun other held => each other (List.mem_cons_of_mem a held)
      refine ⟨b :: results, ?_, .cons relates all⟩
      rw [List.mapM_cons, first, later]
      rfl

/-- Items are made into results one by one, or the first that is refused tells the fault. -/
inductive Traversed (makes : α → β → Prop) (refuses : α → ε → Prop) (items : List α) :
    Except ε (List β) → Prop where
  | whole {results : List β} (made : items.Forall₂ makes results)
      (fit : ∀ item ∈ items, ∀ fault, ¬ refuses item fault) :
      Traversed makes refuses items (.ok results)
  | stopped {before after : List α} {item : α} {fault : ε}
      (split : items = before ++ item :: after)
      (fit : ∀ earlier ∈ before, ∀ fault, ¬ refuses earlier fault) (refused : refuses item fault) :
      Traversed makes refuses items (.error fault)

/-- Where one item is made or refused, a list of items is traversed. -/
theorem traversed_mapM {makes : α → β → Prop} {refuses : α → ε → Prop} {f : α → Except ε β}
    (made : ∀ a b, f a = .ok b → makes a b)
    (refused : ∀ a fault, f a = .error fault ↔ refuses a fault) (items : List α) :
    Traversed makes refuses items (items.mapM f) := by
  induction items with
  | nil => exact .whole .nil (List.forall_mem_nil _)
  | cons a rest ih =>
      rw [List.mapM_cons]
      rcases first : f a with fault | b
      · have split : a :: rest = [] ++ a :: rest := rfl
        exact .stopped split (List.forall_mem_nil _) ((refused a fault).mp first)
      · have fit (fault : ε) : ¬ refuses a fault := by
          intro unfit
          rw [(refused a fault).mpr unfit] at first
          cases first
        rcases later : rest.mapM f with fault | results
        · rw [later] at ih
          cases ih with
          | @stopped before after item _ split others last =>
              have longer : a :: rest = (a :: before) ++ item :: after := congrArg (a :: ·) split
              exact .stopped longer (List.forall_mem_cons.mpr ⟨fit, others⟩) last
        · rw [later] at ih
          cases ih with
          | whole all others =>
              exact .whole (.cons (made a b first) all) (List.forall_mem_cons.mpr ⟨fit, others⟩)

end ComposeDesk
