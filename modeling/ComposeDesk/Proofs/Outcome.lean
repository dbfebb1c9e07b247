import ComposeDesk.Desk.Basic
import Mathlib.Data.List.Forall2

/-!
# Outcomes

The outcome of an act is what it answers and the state that it leaves.  One
equation runs each way of acting, the work of the desk included, so that no
later proof looks into the layers of the monads.
-/

namespace ComposeDesk

/-- What an act answers in a state, and the state that it leaves. -/
def outcome {σ ε α : Type} (act : Act σ ε α) (state : σ) : Except ε α × σ :=
  act.run state

section Acts

variable {σ ε α β : Type}

@[simp]
theorem outcome_pure (a : α) (state : σ) :
    outcome (pure a : Act σ ε α) state = (.ok a, state) := rfl

/-- What follows runs in the state that is left, unless there was a fault. -/
theorem outcome_bind (act : Act σ ε α) (next : α → Act σ ε β) (state : σ) :
    outcome (act >>= next) state =
      match outcome act state with
      | (.ok a, left) => outcome (next a) left
      | (.error fault, left) => (.error fault, left) := by
  simp only [outcome, bind, ExceptT.run, ExceptT.bind, ExceptT.mk, StateT.bind]
  rcases act state with ⟨answer, left⟩
  cases answer <;> rfl

theorem outcome_bind_ok {act : Act σ ε α} {state left : σ} {a : α}
    (done : outcome act state = (.ok a, left)) (next : α → Act σ ε β) :
    outcome (act >>= next) state = outcome (next a) left := by
  rw [outcome_bind, done]

theorem outcome_bind_error {act : Act σ ε α} {state left : σ} {fault : ε}
    (failed : outcome act state = (.error fault, left)) (next : α → Act σ ε β) :
    outcome (act >>= next) state = (.error fault, left) := by
  rw [outcome_bind, failed]

/-- What ends well has gone well at first and after that. -/
theorem outcome_bind_eq_ok {act : Act σ ε α} {next : α → Act σ ε β} {state left : σ} {b : β}
    (done : outcome (act >>= next) state = (.ok b, left)) :
    ∃ a middle, outcome act state = (.ok a, middle) ∧ outcome (next a) middle = (.ok b, left) := by
  rw [outcome_bind] at done
  rcases ran : outcome act state with ⟨fault | a, middle⟩
  · rw [ran] at done
    cases done
  · rw [ran] at done
    exact ⟨a, middle, rfl, done⟩

/-- What fails has failed at first or after that. -/
theorem outcome_bind_eq_error {act : Act σ ε α} {next : α → Act σ ε β} {state left : σ}
    {fault : ε} (failed : outcome (act >>= next) state = (.error fault, left)) :
    outcome act state = (.error fault, left) ∨
      ∃ a middle, outcome act state = (.ok a, middle) ∧
        outcome (next a) middle = (.error fault, left) := by
  rw [outcome_bind] at failed
  rcases ran : outcome act state with ⟨told | a, middle⟩
  · rw [ran] at failed
    cases failed
    exact .inl rfl
  · rw [ran] at failed
    exact .inr ⟨a, middle, rfl, failed⟩

theorem outcome_map (f : α → β) (act : Act σ ε α) (state : σ) :
    outcome (f <$> act) state = ((outcome act state).1.map f, (outcome act state).2) := by
  simp only [outcome, Functor.map, ExceptT.run, ExceptT.map, ExceptT.mk, bind, StateT.bind]
  rcases act state with ⟨answer, left⟩
  cases answer <;> rfl

theorem outcome_map_error {act : Act σ ε α} {state left : σ} {fault : ε}
    (failed : outcome act state = (.error fault, left)) (f : α → β) :
    outcome (f <$> act) state = (.error fault, left) := by
  rw [outcome_map, failed]
  rfl

/-- Turning an answer into another one does not make it fail. -/
theorem outcome_map_eq_error {act : Act σ ε α} {f : α → β} {state left : σ} {fault : ε}
    (failed : outcome (f <$> act) state = (.error fault, left)) :
    outcome act state = (.error fault, left) := by
  rw [outcome_map] at failed
  rcases done : outcome act state with ⟨told | a, kept⟩
  · rw [done] at failed
    cases failed
    rfl
  · rw [done] at failed
    cases failed

/-- An answer that is told was made of an answer. -/
theorem outcome_map_eq_ok {act : Act σ ε α} {f : α → β} {state : σ} {b : β}
    (told : (outcome (f <$> act) state).1 = .ok b) :
    ∃ a left, outcome act state = (.ok a, left) ∧ f a = b := by
  rw [outcome_map] at told
  rcases done : outcome act state with ⟨fault | a, left⟩
  · rw [done] at told
    cases told
  · rw [done] at told
    cases told
    exact ⟨a, left, rfl, rfl⟩

theorem outcome_tryCatch (act : Act σ ε α) (handle : ε → Act σ ε α) (state : σ) :
    outcome (tryCatch act handle) state =
      match outcome act state with
      | (.ok a, left) => (.ok a, left)
      | (.error fault, left) => outcome (handle fault) left := by
  simp only [outcome, tryCatch, tryCatchThe, MonadExceptOf.tryCatch, ExceptT.run,
    ExceptT.tryCatch, ExceptT.mk, bind, StateT.bind]
  rcases act state with ⟨answer, left⟩
  cases answer <;> rfl

end Acts

section Told

variable {ε δ α β : Type} {tell : ε → δ}

@[simp]
theorem mapError_error (fault : ε) :
    (.error fault : Except ε α).mapError tell = .error (tell fault) := rfl

@[simp]
theorem mapError_ok (a : α) : (.ok a : Except ε α).mapError tell = .ok a := rfl

/-- Telling a fault otherwise does not make a result of it. -/
theorem mapError_eq_ok_iff {result : Except ε α} {a : α} :
    result.mapError tell = .ok a ↔ result = .ok a := by
  cases result with
  | error fault => simp
  | ok b => simp

/-- What is made of a result does not change how it fails. -/
theorem map_eq_error_iff {f : α → β} {result : Except ε α} {fault : ε} :
    result.map f = .error fault ↔ result = .error fault := by
  cases result with
  | error told => simp [Except.map]
  | ok a => simp [Except.map]

end Told

section Adapted

variable {σ ε δ α : Type} {tell : ε → δ} {act : Act σ ε α} {state left : σ} {a : α}

theorem outcome_adapt (tell : ε → δ) (act : Act σ ε α) (state : σ) :
    outcome (act.adapt tell : Act σ δ α) state =
      ((outcome act state).1.mapError tell, (outcome act state).2) := rfl

/-- An act whose faults are told otherwise goes well where it did, and as it did. -/
theorem outcome_adapt_ok_iff :
    outcome (act.adapt tell : Act σ δ α) state = (.ok a, left) ↔
      outcome act state = (.ok a, left) := by
  rw [outcome_adapt]
  constructor
  · intro done
    obtain ⟨told, rfl⟩ := Prod.mk.inj done
    exact Prod.ext (mapError_eq_ok_iff.mp told) rfl
  · intro done
    rw [done]
    rfl

end Adapted

namespace Work

variable {σ ε α : Type}

@[simp]
theorem outcome_outside (act : StateM σ α) (state : DeskState σ) :
    outcome (outside act) state =
      (.ok (act state.world).1, { state with world := (act state.world).2 }) := rfl

@[simp]
theorem outcome_ask (tell : ε → Error) (act : Act σ ε α) (state : DeskState σ) :
    outcome (ask tell act) state =
      ((outcome act state.world).1.mapError tell,
        { state with world := (outcome act state.world).2 }) := rfl

@[simp]
theorem outcome_check (tell : ε → Error) (result : Except ε α) (state : DeskState σ) :
    outcome (check tell result : Work σ α) state = (result.mapError tell, state) := rfl

@[simp]
theorem outcome_of (result : Except Error α) (state : DeskState σ) :
    outcome (of result : Work σ α) state = (result, state) := rfl

@[simp]
theorem outcome_look (find : Store → α) (state : DeskState σ) :
    outcome (look find : Work σ α) state = (.ok (find state.store), state) := rfl

theorem outcome_change (tell : ε → Error) (write : Store → Except ε (Store × α))
    (state : DeskState σ) :
    outcome (change tell write : Work σ α) state =
      match write state.store with
      | .ok (store, value) => (.ok value, { state with store })
      | .error fault => (.error (tell fault), state) := rfl

theorem ask_ok {tell : ε → Error} {act : Act σ ε α} {state left : DeskState σ} {a : α}
    (done : outcome (ask tell act) state = (.ok a, left)) :
    outcome act state.world = (.ok a, left.world) := by
  rw [outcome_ask] at done
  obtain ⟨told, rfl⟩ := Prod.mk.inj done
  exact Prod.ext (mapError_eq_ok_iff.mp told) rfl

theorem check_ok {tell : ε → Error} {result : Except ε α} {state left : DeskState σ} {a : α}
    (done : outcome (check tell result : Work σ α) state = (.ok a, left)) :
    result = .ok a ∧ left = state := by
  obtain ⟨told, rfl⟩ := Prod.mk.inj done
  exact ⟨mapError_eq_ok_iff.mp told, rfl⟩

theorem of_ok {result : Except Error α} {state left : DeskState σ} {a : α}
    (done : outcome (of result : Work σ α) state = (.ok a, left)) :
    result = .ok a ∧ left = state := by
  obtain ⟨told, rfl⟩ := Prod.mk.inj done
  exact ⟨told, rfl⟩

theorem look_ok {find : Store → α} {state left : DeskState σ} {a : α}
    (done : outcome (look find : Work σ α) state = (.ok a, left)) :
    a = find state.store ∧ left = state := by
  cases done
  exact ⟨rfl, rfl⟩

end Work

/-! ## Results side by side -/

/-- Two results are both values that are related, or the same fault. -/
inductive Matching {ε α β : Type} (told : α → β → Prop) : Except ε α → Except ε β → Prop where
  | ok {a : α} {b : β} (related : told a b) : Matching told (.ok a) (.ok b)
  | error (fault : ε) : Matching told (.error fault) (.error fault)

namespace Matching

variable {ε δ α β γ : Type} {told : α → β → Prop} {result : Except ε α} {other : Except ε β}

theorem cases (matching : Matching told result other) :
    (∃ fault, result = .error fault ∧ other = .error fault) ∨
      ∃ a b, result = .ok a ∧ other = .ok b ∧ told a b := by
  cases matching with
  | ok related => exact .inr ⟨_, _, rfl, rfl, related⟩
  | error fault => exact .inl ⟨fault, rfl, rfl⟩

theorem of_eq {result other : Except ε α} (same : result = other) :
    Matching Eq result other := by
  subst same
  cases result with
  | error fault => exact .error fault
  | ok a => exact .ok rfl

theorem refl {told : α → α → Prop} (same : ∀ a, told a a) (result : Except ε α) :
    Matching told result result := by
  cases result with
  | error fault => exact .error fault
  | ok a => exact .ok (same a)

theorem eq {result other : Except ε α} (matching : Matching Eq result other) :
    result = other := by
  cases matching with
  | ok same => rw [same]
  | error fault => rfl

theorem imp {wider : α → β → Prop} (matching : Matching told result other)
    (more : ∀ a b, told a b → wider a b) : Matching wider result other := by
  cases matching with
  | ok related => exact .ok (more _ _ related)
  | error fault => exact .error fault

theorem mapError (matching : Matching told result other) (tell : ε → δ) :
    Matching told (result.mapError tell) (other.mapError tell) := by
  cases matching with
  | ok related => exact .ok related
  | error fault => exact .error (tell fault)

/-- Items that match one by one match together. -/
theorem mapM {α' β' : Type} {before : α' → β' → Prop} {f : α' → Except ε α} {g : β' → Except ε β}
    (each : ∀ a b, before a b → Matching told (f a) (g b)) {items : List α'} {others : List β'}
    (all : items.Forall₂ before others) :
    Matching (List.Forall₂ told) (items.mapM f) (others.mapM g) := by
  induction all with
  | nil => exact .ok .nil
  | @cons a b rest more one _ ih =>
      rw [List.mapM_cons, List.mapM_cons]
      rcases (each a b one).cases with ⟨fault, left, right⟩ | ⟨c, d, left, right, first⟩
      · rw [left, right]
        exact .error fault
      · rw [left, right]
        rcases ih.cases with ⟨fault, left, right⟩ | ⟨cs, ds, left, right, later⟩
        · rw [left, right]
          exact .error fault
        · rw [left, right]
          exact .ok (.cons first later)

end Matching

/-- An act that does not fail leaves a part of every state as it was. -/
def Spares {σ α β : Type} (part : σ → β) (act : StateM σ α) : Prop :=
  ∀ state, part (act state).2 = part state

/-- An act leaves a part of every state as it was, whether it fails or not. -/
def Keeps {σ ε α β : Type} (part : σ → β) (act : Act σ ε α) : Prop :=
  ∀ state, part (outcome act state).2 = part state

theorem Keeps.pure {σ ε α β : Type} {part : σ → β} (a : α) :
    Keeps part (pure a : Act σ ε α) := fun _ => rfl

theorem Keeps.bind {σ ε α β γ : Type} {part : σ → γ} {act : Act σ ε α} {next : α → Act σ ε β}
    (first : Keeps part act) (rest : ∀ a, Keeps part (next a)) : Keeps part (act >>= next) := by
  intro state
  have kept := first state
  rcases done : outcome act state with ⟨fault | a, left⟩
  · rw [done] at kept
    rw [outcome_bind_error done]
    exact kept
  · rw [done] at kept
    rw [outcome_bind_ok done]
    exact (rest a left).trans kept

theorem Keeps.map {σ ε α β γ : Type} {part : σ → γ} {act : Act σ ε α} (keeps : Keeps part act)
    (f : α → β) : Keeps part (f <$> act) := by
  intro state
  rw [outcome_map]
  exact keeps state

theorem Keeps.throw {σ ε α β : Type} {part : σ → β} (fault : ε) :
    Keeps part (throw fault : Act σ ε α) := fun _ => rfl

theorem Keeps.ite {σ ε α β : Type} {part : σ → β} {condition : Prop} [Decidable condition]
    {act other : Act σ ε α} (holds : Keeps part act) (fails : Keeps part other) :
    Keeps part (if condition then act else other) := by
  split
  · exact holds
  · exact fails

theorem Keeps.mapM {σ ε α β γ : Type} {part : σ → γ} {act : α → Act σ ε β}
    (each : ∀ a, Keeps part (act a)) (items : List α) : Keeps part (items.mapM act) := by
  induction items with
  | nil => exact .pure _
  | cons item rest ih =>
      rw [List.mapM_cons]
      exact (each item).bind fun _ => ih.bind fun _ => .pure _

/-! ## Acts side by side -/

/-- From related states, two acts that do not fail yield the same and leave
related states. -/
def Concur {σ τ α : Type} (related : σ → τ → Prop) (act : StateM σ α) (other : StateM τ α) :
    Prop :=
  ∀ left right, related left right →
    (act left).1 = (other right).1 ∧ related (act left).2 (other right).2

/-- From related states, two acts answer the same and leave related states. -/
def Agree {σ τ ε α : Type} (related : σ → τ → Prop) (act : Act σ ε α) (other : Act τ ε α) :
    Prop :=
  ∀ left right, related left right →
    (outcome act left).1 = (outcome other right).1 ∧
      related (outcome act left).2 (outcome other right).2

namespace Concur

variable {σ τ α β : Type} {related : σ → τ → Prop}

theorem pure (a : α) : Concur related (pure a : StateM σ α) (pure a : StateM τ α) :=
  fun _ _ bound => ⟨rfl, bound⟩

theorem bind {act : StateM σ α} {other : StateM τ α} {next : α → StateM σ β}
    {following : α → StateM τ β} (first : Concur related act other)
    (rest : ∀ a, Concur related (next a) (following a)) :
    Concur related (act >>= next) (other >>= following) := by
  intro left right bound
  obtain ⟨same, kept⟩ := first left right bound
  have told := rest (act left).1 _ _ kept
  change (next (act left).1 (act left).2).1 = (following (other right).1 (other right).2).1 ∧
    related (next (act left).1 (act left).2).2 (following (other right).1 (other right).2).2
  rw [← same]
  exact told

theorem mapM {act : α → StateM σ β} {other : α → StateM τ β}
    (each : ∀ a, Concur related (act a) (other a)) (items : List α) :
    Concur related (items.mapM act) (items.mapM other) := by
  induction items with
  | nil => exact .pure _
  | cons item rest ih =>
      rw [List.mapM_cons, List.mapM_cons]
      exact (each item).bind fun _ => ih.bind fun _ => .pure _

end Concur

namespace Agree

variable {σ τ ε δ α β : Type} {related : σ → τ → Prop}

theorem pure (a : α) : Agree related (pure a : Act σ ε α) (pure a : Act τ ε α) :=
  fun _ _ bound => ⟨rfl, bound⟩

theorem throw (fault : ε) :
    Agree related (throw fault : Act σ ε α) (throw fault : Act τ ε α) :=
  fun _ _ bound => ⟨rfl, bound⟩

theorem lift (result : Except ε α) :
    Agree related (liftM result : Act σ ε α) (liftM result : Act τ ε α) :=
  fun _ _ bound => ⟨rfl, bound⟩

theorem bind {act : Act σ ε α} {other : Act τ ε α} {next : α → Act σ ε β}
    {following : α → Act τ ε β} (first : Agree related act other)
    (rest : ∀ a, Agree related (next a) (following a)) :
    Agree related (act >>= next) (other >>= following) := by
  intro left right bound
  have agreed := first left right bound
  rw [outcome_bind, outcome_bind]
  revert agreed
  rcases outcome act left with ⟨answer, left⟩
  rcases outcome other right with ⟨told, right⟩
  rintro ⟨same, kept⟩
  cases same
  cases answer with
  | error fault => exact ⟨rfl, kept⟩
  | ok a => exact rest a left right kept

theorem map {act : Act σ ε α} {other : Act τ ε α} (agree : Agree related act other)
    (f : α → β) : Agree related (f <$> act) (f <$> other) := by
  intro left right bound
  obtain ⟨same, kept⟩ := agree left right bound
  rw [outcome_map, outcome_map]
  exact ⟨congrArg (Except.map f) same, kept⟩

theorem adapt {act : Act σ ε α} {other : Act τ ε α} (agree : Agree related act other)
    (tell : ε → δ) : Agree related (act.adapt tell : Act σ δ α) (other.adapt tell) :=
  fun left right bound =>
    ⟨congrArg (Except.mapError tell) (agree left right bound).1, (agree left right bound).2⟩

theorem tryCatch {act : Act σ ε α} {other : Act τ ε α} {handle : ε → Act σ ε α}
    {treat : ε → Act τ ε α} (first : Agree related act other)
    (rest : ∀ fault, Agree related (handle fault) (treat fault)) :
    Agree related (tryCatch act handle) (tryCatch other treat) := by
  intro left right bound
  have agreed := first left right bound
  rw [outcome_tryCatch, outcome_tryCatch]
  revert agreed
  rcases outcome act left with ⟨answer, left⟩
  rcases outcome other right with ⟨told, right⟩
  rintro ⟨same, kept⟩
  cases same
  cases answer with
  | ok a => exact ⟨rfl, kept⟩
  | error fault => exact rest fault left right kept

theorem ite {condition : Prop} [Decidable condition] {act first : Act σ ε α}
    {other second : Act τ ε α} (holds : Agree related act other)
    (fails : Agree related first second) :
    Agree related (if condition then act else first) (if condition then other else second) := by
  split
  · exact holds
  · exact fails

theorem mapM {act : α → Act σ ε β} {other : α → Act τ ε β}
    (each : ∀ a, Agree related (act a) (other a)) (items : List α) :
    Agree related (items.mapM act) (items.mapM other) := by
  induction items with
  | nil => exact .pure _
  | cons item rest ih =>
      rw [List.mapM_cons, List.mapM_cons]
      exact (each item).bind fun _ => ih.bind fun _ => .pure _

end Agree

/-- From related states, two acts that do not fail yield related values and leave
related states. -/
def Tally {σ τ α β : Type} (related : σ → τ → Prop) (told : α → β → Prop) (act : StateM σ α)
    (other : StateM τ β) : Prop :=
  ∀ left right, related left right →
    told (act left).1 (other right).1 ∧ related (act left).2 (other right).2

/-- From related states, two acts answer with related values, or fail with the same
fault, and leave related states. -/
def Accord {σ τ ε α β : Type} (related : σ → τ → Prop) (told : α → β → Prop) (act : Act σ ε α)
    (other : Act τ ε β) : Prop :=
  ∀ left right, related left right →
    Matching told (outcome act left).1 (outcome other right).1 ∧
      related (outcome act left).2 (outcome other right).2

namespace Tally

variable {σ τ α β γ δ : Type} {related : σ → τ → Prop} {told : α → β → Prop}
  {after : γ → δ → Prop}

theorem pure {a : α} {b : β} (both : told a b) :
    Tally related told (pure a : StateM σ α) (pure b : StateM τ β) :=
  fun _ _ bound => ⟨both, bound⟩

theorem bind {act : StateM σ α} {other : StateM τ β} {next : α → StateM σ γ}
    {following : β → StateM τ δ} (first : Tally related told act other)
    (rest : ∀ a b, told a b → Tally related after (next a) (following b)) :
    Tally related after (act >>= next) (other >>= following) := by
  intro left right bound
  obtain ⟨both, kept⟩ := first left right bound
  exact rest _ _ both _ _ kept

theorem mapM {act : α → StateM σ γ} {other : β → StateM τ δ}
    (each : ∀ a b, told a b → Tally related after (act a) (other b)) {items : List α}
    {others : List β} (all : items.Forall₂ told others) :
    Tally related (List.Forall₂ after) (items.mapM act) (others.mapM other) := by
  induction all with
  | nil => exact .pure .nil
  | cons one _ ih =>
      rw [List.mapM_cons, List.mapM_cons]
      exact (each _ _ one).bind fun _ _ first => ih.bind fun _ _ later => .pure (.cons first later)

end Tally

namespace Accord

variable {σ τ ε α β γ δ : Type} {related : σ → τ → Prop} {told : α → β → Prop}
  {after : γ → δ → Prop}

theorem of_agree {act : Act σ ε α} {other : Act τ ε α} (agree : Agree related act other) :
    Accord related Eq act other :=
  fun left right bound =>
    ⟨.of_eq (agree left right bound).1, (agree left right bound).2⟩

theorem agree {act : Act σ ε α} {other : Act τ ε α} (accord : Accord related Eq act other) :
    Agree related act other :=
  fun left right bound =>
    ⟨(accord left right bound).1.eq, (accord left right bound).2⟩

theorem pure {a : α} {b : β} (both : told a b) :
    Accord related told (pure a : Act σ ε α) (pure b : Act τ ε β) :=
  fun _ _ bound => ⟨.ok both, bound⟩

theorem bind {act : Act σ ε α} {other : Act τ ε β} {next : α → Act σ ε γ}
    {following : β → Act τ ε δ} (first : Accord related told act other)
    (rest : ∀ a b, told a b → Accord related after (next a) (following b)) :
    Accord related after (act >>= next) (other >>= following) := by
  intro left right bound
  obtain ⟨matching, kept⟩ := first left right bound
  rcases done : outcome act left with ⟨result, middle⟩
  rcases ran : outcome other right with ⟨answer, last⟩
  rw [done, ran] at matching kept
  rcases matching.cases with ⟨fault, rfl, rfl⟩ | ⟨a, b, rfl, rfl, both⟩
  · rw [outcome_bind_error done, outcome_bind_error ran]
    exact ⟨.error fault, kept⟩
  · rw [outcome_bind_ok done, outcome_bind_ok ran]
    exact rest a b both middle last kept

/-- What follows acts that agree runs on the same answer. -/
theorem bind_agree {act : Act σ ε α} {other : Act τ ε α} {next : α → Act σ ε γ}
    {following : α → Act τ ε δ} (first : Agree related act other)
    (rest : ∀ a, Accord related after (next a) (following a)) :
    Accord related after (act >>= next) (other >>= following) := by
  refine .bind (.of_agree first) ?_
  rintro a _ rfl
  exact rest a

theorem throw (fault : ε) :
    Accord related told (throw fault : Act σ ε α) (throw fault : Act τ ε β) :=
  fun _ _ bound => ⟨.error fault, bound⟩

theorem lift {result : Except ε α} {other : Except ε β} (matching : Matching told result other) :
    Accord related told (liftM result : Act σ ε α) (liftM other : Act τ ε β) :=
  fun _ _ bound => ⟨matching, bound⟩

theorem adapt {act : Act σ ε α} {other : Act τ ε β} (accord : Accord related told act other)
    {ν : Type} (tell : ε → ν) :
    Accord related told (act.adapt tell : Act σ ν α) (other.adapt tell) :=
  fun left right bound =>
    ⟨(accord left right bound).1.mapError tell, (accord left right bound).2⟩

theorem ite {condition : Prop} [Decidable condition] {act first : Act σ ε α}
    {other second : Act τ ε β} (holds : Accord related told act other)
    (fails : Accord related told first second) :
    Accord related told (if condition then act else first)
      (if condition then other else second) := by
  split
  · exact holds
  · exact fails

end Accord

end ComposeDesk
