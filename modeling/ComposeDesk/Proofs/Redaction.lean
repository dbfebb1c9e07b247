import ComposeDesk.Proofs.Ordering
import ComposeDesk.Proofs.Store.Likeness

/-!
# Passwords do not show

Two desks work side by side on requests that differ in passwords only, where empty
passwords stay empty.  The stores that they leave differ in the bodies of versions
only, and whatever is read of those is redacted first.  So each operation answers
the same on both sides, as long as the services do not answer by passwords.
-/

namespace ComposeDesk

variable {σ : Type}

/-- Of two passwords no more can be told apart than whether they are empty. -/
def Disguised (password other : String) : Prop :=
  password = "" ↔ other = ""

theorem Disguised.refl (password : String) : Disguised password password :=
  Iff.rfl

theorem disguised_keepsEmpty : KeepsEmpty Disguised :=
  fun _ _ both => both

/-- States that are the same but for passwords in blueprints. -/
abbrev DeskState.Veiled (worlds : σ → σ → Prop) : DeskState σ → DeskState σ → Prop :=
  DeskState.Related .same (Store.Like (VersionRow.Like Disguised)) worlds

/-- From related worlds, the services answer alike whatever the passwords in orders
are, the clock and the identifiers are the same, and hashing leaves no trace. -/
structure Desk.Blind (worlds : σ → σ → Prop) (desk : Desk σ) : Prop where
  asks : desk.AsksAlike worlds desk
  openapi : Agree worlds desk.services.build.openapi desk.services.build.openapi
  compose : ∀ {order other : Build.Order}, order.Like Disguised other →
    Agree worlds (desk.services.build.compose order) (desk.services.build.compose other)
  cloneCompose : ∀ id order, Agree worlds (desk.services.build.cloneCompose id order)
    (desk.services.build.cloneCompose id order)
  drawId : Concur worlds desk.drawId desk.drawId
  cryptFirst : ∀ password {world other}, worlds world other →
    worlds (desk.crypt password world).2 other
  cryptSecond : ∀ password {world other}, worlds world other →
    worlds world (desk.crypt password other).2
  hashed : ∀ password world, (desk.crypt password world).1 ≠ ""

theorem silently_matching {stores : Store → Store → Prop}
    {write wrote : Store → Except StoreFault Store} {store other : Store}
    (matching : Matching stores (write store) (wrote other)) :
    Matching (fun made left => stores made.1 left.1 ∧ made.2 = left.2) (silently write store)
      (silently wrote other) := by
  unfold silently
  rcases matching.cases with ⟨fault, left, right⟩ | ⟨next, following, left, right, both⟩
  · rw [left, right]
    exact .error fault
  · rw [left, right]
    exact .ok ⟨both, rfl⟩

namespace Desk

variable {desk : Desk σ} {worlds : σ → σ → Prop} {caller : Identity}

namespace Blind

theorem acts (blind : desk.Blind worlds) : desk.ActsAlike worlds desk where
  drawId := blind.drawId
  compose order := blind.compose (.refl Disguised.refl order)
  cloneCompose := blind.cloneCompose

/-- Securing a password does not show on the first side. -/
theorem secureFirst (blind : desk.Blind worlds) (password : String) {world other : σ}
    (near : worlds world other) : worlds (desk.secure password world).2 other := by
  unfold secure
  split
  · exact near
  · exact blind.cryptFirst password near

/-- Securing a password does not show on the second side. -/
theorem secureSecond (blind : desk.Blind worlds) (password : String) {world other : σ}
    (near : worlds world other) : worlds world (desk.secure password other).2 := by
  unfold secure
  split
  · exact near
  · exact blind.cryptSecond password near

/-- A password that is secured is empty only if it was. -/
theorem secure_disguised (blind : desk.Blind worlds) (password : String) (world : σ) :
    Disguised (desk.secure password world).1 password := by
  unfold secure
  split
  · exact Iff.rfl
  · rename_i clear
    have some : password ≠ "" := fun empty => clear (by simp [empty])
    exact iff_of_false (blind.hashed password world) some

theorem secures (blind : desk.Blind worlds) : desk.SecuresAlike Disguised worlds := by
  intro password other both left right near
  -- One side may hash where the other one keeps a hash, so each side is taken alone.
  constructor
  · exact (blind.secure_disguised password left).trans
      (both.trans (blind.secure_disguised other right).symm)
  · exact blind.secureFirst password (blind.secureSecond other near)

end Blind

theorem composes_veiled (blind : desk.Blind worlds) (range : Range) :
    Agree (DeskState.Veiled worlds) (desk.composes caller range) (desk.composes caller range) :=
  composes_agree (Store.Like.lists _) blind.asks range

theorem composeStatus_veiled (blind : desk.Blind worlds) (id : Uuid) :
    Agree (DeskState.Veiled worlds) (desk.composeStatus caller id)
      (desk.composeStatus caller id) :=
  composeStatus_agree (Store.Like.lists _) blind.asks id

theorem composeMetadata_veiled (blind : desk.Blind worlds) (id : Uuid) :
    Agree (DeskState.Veiled worlds) (desk.composeMetadata caller id)
      (desk.composeMetadata caller id) :=
  composeMetadata_agree (Store.Like.lists _) blind.asks id

theorem ready_veiled (blind : desk.Blind worlds) :
    Agree (DeskState.Veiled worlds) desk.ready desk.ready :=
  .bind (Work.ask_agree blind.openapi _) fun _ => .ite (.pure _) (.throw _)

/-- A compose is remembered without passwords. -/
theorem ofRequest_like {request other : ComposeRequest} (like : request.Like Disguised other)
    (versionId : Option Uuid) (id : Uuid) (now : Timestamp) :
    ComposeRow.ofRequest caller request versionId id now =
      ComposeRow.ofRequest caller other versionId id now := by
  have imageName := congrArg ComposeRequest.imageName like.rest
  have clientId := congrArg ComposeRequest.clientId like.rest
  simp only at imageName clientId
  unfold ComposeRow.ofRequest
  rw [like.redacted, imageName, clientId]

theorem submit_veiled (blind : desk.Blind worlds) {request other : ComposeRequest}
    (like : request.Like Disguised other) (versionId : Option Uuid) :
    Agree (DeskState.Veiled worlds) (desk.submit caller request versionId)
      (desk.submit caller other versionId) := by
  rw [submit_eq_commit, submit_eq_commit]
  have submissions : Agree (DeskState.Veiled worlds) (desk.submission caller request)
      (desk.submission caller other) :=
    submission_agree_of_like (Store.Like.lists _) blind.asks blind.compose like
  refine Work.commit_agree (.of_agree submissions) ?_ ?_
  · rintro placed _ rfl store held near
    rw [ofRequest_like like]
    exact silently_matching (near.insertCompose _)
  · rintro placed _ rfl _
    rfl

theorem composeFor_veiled (blind : desk.Blind worlds) {request other : ComposeRequest}
    (like : request.Like Disguised other) (versionId : Option Uuid) :
    Agree (DeskState.Veiled worlds) (desk.composeFor caller request versionId)
      (desk.composeFor caller other versionId) :=
  composeFor_agree_of (submit_veiled blind like versionId)

theorem compose_veiled (blind : desk.Blind worlds) {request other : ComposeRequest}
    (like : request.Like Disguised other) :
    Agree (DeskState.Veiled worlds) (desk.compose caller request) (desk.compose caller other) :=
  composeFor_veiled blind like none

theorem deleteCompose_veiled (id : Uuid) :
    Agree (DeskState.Veiled worlds) (deleteCompose caller id) (deleteCompose caller id) := by
  rw [deleteCompose_eq_commit]
  refine Work.commit_agree (.of_agree (.pure ())) ?_ ?_
  · intro _ _ _ store held near
    exact silently_matching (near.deleteCompose id caller.org)
  · intro _ _ _ _
    rfl

theorem cloneCompose_veiled (blind : desk.Blind worlds) (composeId : Uuid)
    (request : CloneRequest) :
    Agree (DeskState.Veiled worlds) (desk.cloneCompose caller composeId request)
      (desk.cloneCompose caller composeId request) := by
  rw [cloneCompose_eq_commit]
  have plans : Agree (DeskState.Veiled worlds) (desk.copying caller composeId request)
      (desk.copying caller composeId request) :=
    copying_agree (Store.Like.lists _) blind.asks blind.acts composeId request
  refine Work.commit_agree (.of_agree plans) ?_ ?_
  · rintro placed _ rfl store held near
    exact silently_matching (near.insertClone _)
  · rintro placed _ rfl _
    rfl

theorem clones_veiled (composeId : Uuid) (range : Range) :
    Agree (DeskState.Veiled worlds) (clones caller composeId range)
      (clones caller composeId range) :=
  clones_agree (Store.Like.lists _) composeId range

theorem cloneStatus_veiled (blind : desk.Blind worlds) (id : Uuid) :
    Agree (DeskState.Veiled worlds) (desk.cloneStatus caller id) (desk.cloneStatus caller id) :=
  cloneStatus_agree (Store.Like.lists _) blind.asks id

theorem blueprintOf_veiled (id : Uuid) (number : Option Int) :
    Accord (DeskState.Veiled worlds) (BlueprintEntry.Like Disguised)
      (blueprintOf caller id number) (blueprintOf caller id number) :=
  .bind (Work.look_accord fun near => near.getBlueprint_like Disguised.refl id caller.org number)
    fun _ _ found => Work.check_accord _ found

/-- What is shown of a version has nothing to do with passwords. -/
theorem getBlueprint_veiled (id : Uuid) (number : Option Int) :
    Agree (DeskState.Veiled worlds) (getBlueprint caller id number)
      (getBlueprint caller id number) := by
  refine Accord.agree (.bind_agree (Work.of_agree _) fun number => ?_)
  refine .bind (blueprintOf_veiled id number) ?_
  rintro entry held ⟨rest, bodies⟩
  refine .bind (Work.of_accord bodies) fun body known alike => .pure ?_
  -- All but the stored bodies is equal now, and those differ in what is redacted.
  cases entry
  cases held
  cases rest
  simp only [alike.redacted]

theorem exportBlueprint_veiled (blind : desk.Blind worlds) (id : Uuid) :
    Agree (DeskState.Veiled worlds) (desk.exportBlueprint caller id)
      (desk.exportBlueprint caller id) := by
  refine Accord.agree (.bind (blueprintOf_veiled id none) ?_)
  rintro entry held ⟨rest, bodies⟩
  refine .bind (Work.of_accord bodies) fun body known alike => ?_
  refine .bind_agree (Work.outside_agree blind.asks.now) fun now => ?_
  refine .pure ?_
  cases entry
  cases held
  cases rest
  simp only [alike.distribution, alike.customizations.redacted]

theorem blueprints_veiled (filter : BlueprintFilter) (range : Range) :
    Agree (DeskState.Veiled worlds) (blueprints caller filter range)
      (blueprints caller filter range) :=
  blueprints_agree (Store.Like.lists _) filter range

theorem blueprintComposes_veiled (blind : desk.Blind worlds) (id : Uuid) (number : Option Int)
    (range : Range) :
    Agree (DeskState.Veiled worlds) (desk.blueprintComposes caller id number range)
      (desk.blueprintComposes caller id number range) := by
  rw [blueprintComposes_eq]
  refine Accord.agree (.bind (blueprintOf_veiled id none) ?_)
  rintro entry held ⟨rest, -⟩
  have version := congrArg BlueprintEntry.version rest
  simp only at version
  unfold BlueprintEntry.wanted
  rw [version]
  refine .bind_agree (Work.of_agree _) fun wanted => ?_
  exact .of_agree (composesOf_agree (Store.Like.lists _) blind.asks id wanted range)

/-! ## Writing blueprints -/

structure WritesLike (planned other : BlueprintWrite × Timestamp) : Prop where
  row : planned.1.row = other.1.row
  version : ∀ number, (planned.1.version number planned.2).Like Disguised
    (other.1.version number other.2)

theorem writeOf_like {draft other : BlueprintDraft} (like : draft.Like Disguised other)
    (id versionId : Uuid) (now : Timestamp) :
    WritesLike (writeOf caller id versionId draft, now) (writeOf caller id versionId other, now) where
  row := by
    unfold writeOf BlueprintWrite.row
    rw [like.name, like.description]
  version _ := ⟨rfl, .written like.body⟩

theorem creation_veiled (blind : desk.Blind worlds) {request other : BlueprintRequest}
    (like : request.Like Disguised other) :
    Accord (DeskState.Veiled worlds) WritesLike (desk.creation caller request)
      (desk.creation caller other) := by
  refine .bind (drafting_accord blind.secures disguised_keepsEmpty like) fun draft known both => ?_
  refine .bind_agree (Work.outside_agree blind.drawId) fun id => ?_
  refine .bind_agree (Work.outside_agree blind.drawId) fun versionId => ?_
  refine .bind_agree (Work.outside_agree blind.asks.now) fun now => ?_
  exact .pure (writeOf_like both id versionId now)

theorem createBlueprint_veiled (blind : desk.Blind worlds) {request other : BlueprintRequest}
    (like : request.Like Disguised other) :
    Agree (DeskState.Veiled worlds) (desk.createBlueprint caller request)
      (desk.createBlueprint caller other) := by
  rw [createBlueprint_eq_commit, createBlueprint_eq_commit]
  refine Work.commit_agree (creation_veiled blind like) ?_ ?_
  · intro planned known both store held near
    exact silently_matching (near.insertBlueprint both.row (both.version 1))
  · intro planned known both _
    exact congrArg (fun row => (⟨row.id⟩ : Created)) both.row

theorem revision_veiled (blind : desk.Blind worlds) (id : Uuid)
    {request other : BlueprintRequest} (like : request.Like Disguised other) :
    Accord (DeskState.Veiled worlds) WritesLike (desk.revision caller id request)
      (desk.revision caller id other) := by
  have finds {store held : Store} (near : store.Like (VersionRow.Like Disguised) held) :
      Matching (BlueprintEntry.BodyLike Disguised) (store.getBlueprint id caller.org none)
        (held.getBlueprint id caller.org none) :=
    (near.getBlueprint_like Disguised.refl id caller.org none).imp fun _ _ both => both.body
  refine .bind (draftUpdate_accord blind.secures disguised_keepsEmpty finds like) ?_
  intro draft known both
  refine .bind_agree (Work.outside_agree blind.drawId) fun versionId => ?_
  refine .bind_agree (Work.outside_agree blind.asks.now) fun now => ?_
  exact .pure (writeOf_like both id versionId now)

theorem updateBlueprint_veiled (blind : desk.Blind worlds) (id : Uuid)
    {request other : BlueprintRequest} (like : request.Like Disguised other) :
    Agree (DeskState.Veiled worlds) (desk.updateBlueprint caller id request)
      (desk.updateBlueprint caller id other) := by
  rw [updateBlueprint_eq_commit, updateBlueprint_eq_commit]
  refine Work.commit_agree (revision_veiled blind id like) ?_ ?_
  · intro planned known both store held near
    have writes := near.updateBlueprint VersionRow.like_match both.row both.version
    exact writes.imp fun _ _ made => made.symm
  · intro _ _ _ _
    rfl

theorem deleteBlueprint_veiled (id : Uuid) :
    Agree (DeskState.Veiled worlds) (deleteBlueprint caller id) (deleteBlueprint caller id) := by
  rw [deleteBlueprint_eq_commit]
  refine Work.commit_agree (.of_agree (.pure ())) ?_ ?_
  · intro _ _ _ store held near
    exact silently_matching (near.deleteBlueprint VersionRow.like_match
      (fun both => both.id_eq) id caller.org caller.account)
  · intro _ _ _ _
    rfl

structure ChoicesLike (chosen other : (BlueprintEntry × BlueprintBody) × List ImageRequest) :
    Prop where
  entry : { chosen.1.1 with body := .null } = { other.1.1 with body := .null }
  body : chosen.1.2.Like Disguised other.1.2
  images : chosen.2 = other.2

theorem choosing_veiled (id : Uuid) (selection : ImageSelection) :
    Accord (DeskState.Veiled worlds) ChoicesLike (choosing caller id selection)
      (choosing caller id selection) := by
  refine .bind (blueprintOf_veiled id none) ?_
  rintro entry held ⟨rest, bodies⟩
  refine .bind (Work.of_accord bodies) fun body known alike => ?_
  rw [alike.imageRequests]
  exact .ite (.bind_agree (.throw _) fun _ => .pure ⟨rest, alike, rfl⟩)
    (.pure ⟨rest, alike, rfl⟩)

/-- The request for an image of a blueprint is the same but for passwords. -/
theorem blueprintRequest_like {entry held : BlueprintEntry} {body known : BlueprintBody}
    (rest : { entry with body := .null } = { held with body := .null })
    (alike : body.Like Disguised known) (image : ImageRequest) :
    (blueprintRequest entry body image).Like Disguised (blueprintRequest held known image) := by
  cases entry
  cases held
  cases rest
  constructor
  · simp only [blueprintRequest, alike.distribution]
  · exact .some alike.customizations

theorem composeBlueprint_veiled (blind : desk.Blind worlds) (id : Uuid)
    (selection : ImageSelection) :
    Agree (DeskState.Veiled worlds) (desk.composeBlueprint caller id selection)
      (desk.composeBlueprint caller id selection) := by
  rw [composeBlueprint_eq]
  refine Accord.agree (.bind (choosing_veiled id selection) ?_)
  rintro ⟨⟨entry, body⟩, images⟩ ⟨⟨held, known⟩, _⟩ ⟨rest, alike, rfl⟩
  have versionId := congrArg BlueprintEntry.versionId rest
  simp only at versionId
  refine .of_agree (.mapM (fun image => ?_) images)
  rw [versionId]
  exact composeFor_veiled blind (blueprintRequest_like rest alike image) _

end Desk

end ComposeDesk
