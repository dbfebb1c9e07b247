import ComposeDesk.Proofs.Alike
import ComposeDesk.Proofs.Journal

/-!
# Work that leaves the store

Everything that the desk does before it writes leaves the store as it is.  What
does not place orders or draw identifiers leaves no trace in a journal either.
Both follow from running a desk beside itself.
-/

namespace ComposeDesk

variable {σ ε α γ : Type}

def DeskState.beside (part : σ → γ) (state : DeskState σ) : Store × γ :=
  (state.store, part state.world)

/-- Things that are the same, with a certain part. -/
def Pinned {σ γ : Type} (part : σ → γ) (value : γ) (left right : σ) : Prop :=
  left = right ∧ part left = value

theorem Spares.concur {part : σ → γ} {act : StateM σ α} (spares : Spares part act) (value : γ) :
    Concur (Pinned part value) act act := by
  rintro world _ ⟨rfl, held⟩
  exact ⟨rfl, rfl, (spares world).trans held⟩

theorem Keeps.agree {part : σ → γ} {act : Act σ ε α} (keeps : Keeps part act) (value : γ) :
    Agree (Pinned part value) act act := by
  rintro world _ ⟨rfl, held⟩
  exact ⟨rfl, rfl, (keeps world).trans held⟩

/-- Equal stores look the same to everybody. -/
theorem Store.views_pinned (store : Store) (org : String) :
    Store.Views (Pinned id store) org where
  countComposes bound _ _ := by rw [bound.1]
  activeComposes bound _ _ := by rw [bound.1]
  getCompose bound _ := by rw [bound.1]
  clonesOf bound _ := by rw [bound.1]
  getClone bound _ := by rw [bound.1]
  getBlueprint bound _ _ := by rw [bound.1]
  findBlueprints bound _ := by rw [bound.1]

/-- A desk is like itself, and leaves no trace while it only asks. -/
theorem Journal.alike {desk : Desk σ} (journal : Journal desk) (value : List Event) :
    desk.Alike (Pinned journal.events value) desk where
  services := ⟨fun _ _ => (journal.uploadInfo _ _).agree value,
    fun _ _ _ _ => (journal.repositories _ _ _ _).agree value,
    fun _ _ _ => (journal.snapshotsForDate _ _ _).agree value,
    fun _ _ _ _ => (journal.policyData _ _ _ _).agree value⟩
  registry := rfl
  quotas := rfl
  uploads := rfl
  now := journal.now.concur value
  crypt password := (journal.crypt password).concur value
  composeStatus id := (journal.composeStatus id).agree value
  composeMetadata id := (journal.composeMetadata id).agree value
  cloneStatus id := (journal.cloneStatus id).agree value

theorem concur_self (act : StateM σ α) : Concur Eq act act := by
  rintro world _ rfl
  exact ⟨rfl, rfl⟩

theorem agree_self (act : Act σ ε α) : Agree Eq act act := by
  rintro world _ rfl
  exact ⟨rfl, rfl⟩

namespace Desk

theorem alike_self (desk : Desk σ) : desk.Alike Eq desk where
  services := ⟨fun _ _ => agree_self _, fun _ _ _ _ => agree_self _, fun _ _ _ => agree_self _,
    fun _ _ _ _ => agree_self _⟩
  registry := rfl
  quotas := rfl
  uploads := rfl
  now := concur_self _
  crypt _ := concur_self _
  composeStatus _ := agree_self _
  composeMetadata _ := agree_self _
  cloneStatus _ := agree_self _

theorem actsAlike_self (desk : Desk σ) : desk.ActsAlike Eq desk where
  drawId := concur_self _
  compose _ := agree_self _
  cloneCompose _ _ := agree_self _

end Desk

/-- Work that agrees with itself at every store keeps the store. -/
theorem keeps_store_of_agree {work : Work σ α}
    (agree : ∀ store, Agree (DeskState.Related .ignored (Pinned id store) Eq) work work) :
    Keeps DeskState.store work :=
  fun state => (agree state.store state state ⟨⟨rfl, rfl⟩, rfl, trivial⟩).2.store.2

/-- Work that agrees with itself at every store and every journal keeps both. -/
theorem keeps_of_agree {part : σ → γ} {work : Work σ α}
    (agree : ∀ store value,
      Agree (DeskState.Related .ignored (Pinned id store) (Pinned part value)) work work) :
    Keeps (DeskState.beside part) work := by
  intro state
  obtain ⟨-, ⟨-, store⟩, ⟨-, value⟩, -⟩ :=
    agree state.store (part state.world) state state ⟨⟨rfl, rfl⟩, ⟨rfl, rfl⟩, trivial⟩
  exact Prod.ext store value

theorem Keeps.store_eq {part : σ → γ} {work : Work σ α}
    (keeps : Keeps (DeskState.beside part) work) (state : DeskState σ) :
    (outcome work state).2.store = state.store :=
  congrArg Prod.fst (keeps state)

theorem Keeps.part_eq {part : σ → γ} {work : Work σ α}
    (keeps : Keeps (DeskState.beside part) work) (state : DeskState σ) :
    part (outcome work state).2.world = part state.world :=
  congrArg Prod.snd (keeps state)

namespace Desk

variable {desk : Desk σ}

section Quiet

variable (journal : Journal desk) (caller : Identity)

/-- An operation that only looks keeps the store, and leaves no trace. -/
theorem perform_keeps {operation : Operation} (reading : operation.isReading = true) :
    Keeps (DeskState.beside journal.events) (desk.perform caller operation) :=
  keeps_of_agree fun _ value =>
    perform_agree (Store.views_pinned _ _) (journal.alike value).toAsksAlike reading

theorem ordering_keeps (request : ComposeRequest) :
    Keeps (DeskState.beside journal.events) (desk.ordering caller request) :=
  keeps_of_agree fun _ value =>
    ordering_agree (Store.views_pinned _ _).toLists (journal.alike value).toAsksAlike request

theorem sharing_keeps (composeId : Uuid) (request : CloneRequest) :
    Keeps (DeskState.beside journal.events) (desk.sharing caller composeId request) :=
  keeps_of_agree fun _ value =>
    sharing_agree (Store.views_pinned _ _).toLists (journal.alike value).toAsksAlike composeId request

theorem drafting_keeps (request : BlueprintRequest) :
    Keeps (DeskState.beside journal.events) (desk.drafting request) :=
  keeps_of_agree fun _ value => drafting_agree (journal.alike value) request

theorem draftUpdate_keeps (id : Uuid) (request : BlueprintRequest) :
    Keeps (DeskState.beside journal.events) (desk.draftUpdate caller id request) :=
  keeps_of_agree fun _ value =>
    draftUpdate_agree (Store.views_pinned _ _) (journal.alike value) id request

theorem choosing_keeps (id : Uuid) (selection : ImageSelection) :
    Keeps (DeskState.beside journal.events)
      (choosing caller id selection :
        Work σ ((BlueprintEntry × BlueprintBody) × List ImageRequest)) :=
  keeps_of_agree fun _ _ => choosing_agree (Store.views_pinned _ _) id selection

theorem now_keeps : Keeps (DeskState.beside journal.events) (Work.outside desk.now) :=
  keeps_of_agree fun _ value => Work.outside_agree (journal.now.concur value)

end Quiet

section Planning

variable (desk : Desk σ) (caller : Identity)

theorem perform_keeps_store {operation : Operation} (reading : operation.isReading = true) :
    Keeps DeskState.store (desk.perform caller operation) :=
  keeps_store_of_agree fun _ =>
    perform_agree (Store.views_pinned _ _) desk.alike_self.toAsksAlike reading

theorem draftUpdate_keeps_store (id : Uuid) (request : BlueprintRequest) :
    Keeps DeskState.store (desk.draftUpdate caller id request) :=
  keeps_store_of_agree fun _ =>
    draftUpdate_agree (Store.views_pinned _ _) desk.alike_self id request

theorem choosing_keeps_store (id : Uuid) (selection : ImageSelection) :
    Keeps DeskState.store (choosing caller id selection :
      Work σ ((BlueprintEntry × BlueprintBody) × List ImageRequest)) :=
  keeps_store_of_agree fun _ => choosing_agree (Store.views_pinned _ _) id selection

theorem submission_keeps (request : ComposeRequest) :
    Keeps DeskState.store (desk.submission caller request) :=
  keeps_store_of_agree fun _ =>
    submission_agree (Store.views_pinned _ _).toLists desk.alike_self.toAsksAlike desk.actsAlike_self request

theorem copying_keeps (composeId : Uuid) (request : CloneRequest) :
    Keeps DeskState.store (desk.copying caller composeId request) :=
  keeps_store_of_agree fun _ =>
    copying_agree (Store.views_pinned _ _).toLists desk.alike_self.toAsksAlike desk.actsAlike_self composeId request

theorem creation_keeps (request : BlueprintRequest) :
    Keeps DeskState.store (desk.creation caller request) :=
  keeps_store_of_agree fun _ =>
    creation_agree desk.alike_self desk.actsAlike_self request

theorem revision_keeps (id : Uuid) (request : BlueprintRequest) :
    Keeps DeskState.store (desk.revision caller id request) :=
  keeps_store_of_agree fun _ =>
    revision_agree (Store.views_pinned _ _) desk.alike_self desk.actsAlike_self id request

end Planning

end Desk

end ComposeDesk
