import ComposeDesk.Build.Answer
import ComposeDesk.Proofs.Outcome

/-!
# Journals

What the desk does outside is seen by a journal: the identifiers that were
drawn, and the orders that were placed with the build service with the answers
to them.  Every desk can be watched, so that theorems about journals are about
all desks.  Looking things up, asking how far something has come, hashing and
reading the clock leave no trace.
-/

namespace ComposeDesk

/-- The identifier that a reply to an order gives out, if the order was accepted. -/
def Reply.issued? (reply : Reply) : Option Uuid :=
  if reply.status = 201 then
    ((reply.decode Build.ComposeId.codec).toOption).map (·.id)
  else none

/-- Something that the desk did outside. -/
inductive Event where
  | drew (id : Uuid)
  | ordered (order : Build.Order) (answer : Except ServiceFault Reply)
  | copied (composeId : Uuid) (order : Build.CloneOrder) (answer : Except ServiceFault Reply)

namespace Event

def issued? : Event → Option Uuid
  | .drew id => some id
  | .ordered _ (.ok reply) => reply.issued?
  | .copied _ _ (.ok reply) => reply.issued?
  | _ => none

def placed? : Event → Option (Build.Order × Except ServiceFault Reply)
  | .ordered order answer => some (order, answer)
  | _ => none

end Event

/-- What a world tells of the dealings that a desk had in it. -/
structure Journal {σ : Type} (desk : Desk σ) where
  events : σ → List Event
  drawId : ∀ world, events (desk.drawId world).2 = events world ++ [.drew (desk.drawId world).1]
  compose : ∀ order world, events (outcome (desk.services.build.compose order) world).2 =
    events world ++ [.ordered order (outcome (desk.services.build.compose order) world).1]
  cloneCompose : ∀ id order world,
    events (outcome (desk.services.build.cloneCompose id order) world).2 = events world ++
      [.copied id order (outcome (desk.services.build.cloneCompose id order) world).1]
  now : Spares events desk.now
  crypt : ∀ password, Spares events (desk.crypt password)
  composeStatus : ∀ id, Keeps events (desk.services.build.composeStatus id)
  composeMetadata : ∀ id, Keeps events (desk.services.build.composeMetadata id)
  cloneStatus : ∀ id, Keeps events (desk.services.build.cloneStatus id)
  uploadInfo : ∀ caller source, Keeps events (desk.services.uploadInfo caller source)
  repositories : ∀ caller urls ids external,
    Keeps events (desk.services.repositories caller urls ids external)
  snapshotsForDate : ∀ caller date uuids,
    Keeps events (desk.services.snapshotsForDate caller date uuids)
  policyData : ∀ caller major minor policy,
    Keeps events (desk.services.policyData caller major minor policy)

namespace Journal

variable {σ : Type} {desk : Desk σ}

def issued (journal : Journal desk) (world : σ) : List Uuid :=
  (journal.events world).filterMap Event.issued?

def placed (journal : Journal desk) (world : σ) :
    List (Build.Order × Except ServiceFault Reply) :=
  (journal.events world).filterMap Event.placed?

end Journal

namespace Desk

variable {σ ε α : Type}

/-- An act in a world with a list of events, to which one may be added. -/
def noted (note : α → List Event) (act : StateM σ α) : StateM (σ × List Event) α :=
  fun (world, events) => ((act world).1, ((act world).2, events ++ note (act world).1))

def notedAct (note : Except ε α → List Event) (act : Act σ ε α) :
    Act (σ × List Event) ε α :=
  ExceptT.mk (noted note act.run)

/-- The desk in a world that lists the events. -/
def watched (desk : Desk σ) : Desk (σ × List Event) where
  services :=
    { build :=
        { compose := fun order =>
            notedAct (fun answer => [.ordered order answer]) (desk.services.build.compose order)
          composeStatus := fun id =>
            notedAct (fun _ => []) (desk.services.build.composeStatus id)
          composeMetadata := fun id =>
            notedAct (fun _ => []) (desk.services.build.composeMetadata id)
          cloneCompose := fun id order =>
            notedAct (fun answer => [.copied id order answer])
              (desk.services.build.cloneCompose id order)
          cloneStatus := fun id =>
            notedAct (fun _ => []) (desk.services.build.cloneStatus id)
          openapi := notedAct (fun _ => []) desk.services.build.openapi }
      uploadInfo := fun caller source =>
        notedAct (fun _ => []) (desk.services.uploadInfo caller source)
      repositories := fun caller urls ids external =>
        notedAct (fun _ => []) (desk.services.repositories caller urls ids external)
      snapshotsForDate := fun caller date uuids =>
        notedAct (fun _ => []) (desk.services.snapshotsForDate caller date uuids)
      policyData := fun caller major minor policy =>
        notedAct (fun _ => []) (desk.services.policyData caller major minor policy) }
  registry := desk.registry
  quotas := desk.quotas
  uploads := desk.uploads
  now := noted (fun _ => []) desk.now
  drawId := noted (fun id => [.drew id]) desk.drawId
  crypt := fun password => noted (fun _ => []) (desk.crypt password)

theorem noted_nil_spares (act : StateM σ α) : Spares Prod.snd (noted (fun _ => []) act) :=
  fun state => List.append_nil state.2

theorem notedAct_nil_keeps (act : Act σ ε α) : Keeps Prod.snd (notedAct (fun _ => []) act) :=
  fun state => List.append_nil state.2

def watchedJournal (desk : Desk σ) : Journal desk.watched where
  events := Prod.snd
  drawId _ := rfl
  compose _ _ := rfl
  cloneCompose _ _ _ := rfl
  now := noted_nil_spares _
  crypt _ := noted_nil_spares _
  composeStatus _ := notedAct_nil_keeps _
  composeMetadata _ := notedAct_nil_keeps _
  cloneStatus _ := notedAct_nil_keeps _
  uploadInfo _ _ := notedAct_nil_keeps _
  repositories _ _ _ _ := notedAct_nil_keeps _
  snapshotsForDate _ _ _ := notedAct_nil_keeps _
  policyData _ _ _ _ := notedAct_nil_keeps _

end Desk

end ComposeDesk
