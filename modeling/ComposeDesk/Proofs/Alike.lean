import ComposeDesk.Proofs.Lookup
import ComposeDesk.Proofs.Plan

/-!
# Desks side by side

Two desks are run from states whose stores look the same to the caller's
organization and whose worlds are related.  As long as the services answer
alike, all that the desks do before they write is the same, and their states
stay related.  That looking leaves the store as it was, that looking leaves no
trace, and that organizations do not see one another are instances.
-/

namespace ComposeDesk

variable {σ τ ε α β γ : Type}

/-- Stores that are related list and count the same for an organization, and hold
the same composes and clones. -/
structure Store.Lists (stores : Store → Store → Prop) (org : String) : Prop where
  countComposes : ∀ {store other}, stores store other → ∀ now window,
    store.countComposes org now window = other.countComposes org now window
  activeComposes : ∀ {store other}, stores store other → ∀ now window,
    store.activeComposes org now window = other.activeComposes org now window
  getCompose : ∀ {store other}, stores store other → ∀ id,
    store.getCompose id org = other.getCompose id org
  clonesOf : ∀ {store other}, stores store other → ∀ composeId,
    store.clonesOf composeId org = other.clonesOf composeId org
  getClone : ∀ {store other}, stores store other → ∀ id,
    store.getClone id org = other.getClone id org
  findBlueprints : ∀ {store other}, stores store other → ∀ filter,
    store.findBlueprints org filter = other.findBlueprints org filter

/-- Stores that are related look the same to an organization. -/
structure Store.Views (stores : Store → Store → Prop) (org : String) : Prop
    extends Store.Lists stores org where
  getBlueprint : ∀ {store other}, stores store other → ∀ id number,
    store.getBlueprint id org number = other.getBlueprint id org number

/-- From related worlds, two desks ask and read the clock alike. -/
structure Desk.AsksAlike (related : σ → τ → Prop) (desk : Desk σ) (other : Desk τ) : Prop where
  services : desk.services.Alike related other.services
  registry : desk.registry = other.registry
  quotas : desk.quotas = other.quotas
  uploads : desk.uploads = other.uploads
  now : Concur related desk.now other.now
  composeStatus : ∀ id, Agree related (desk.services.build.composeStatus id)
    (other.services.build.composeStatus id)
  composeMetadata : ∀ id, Agree related (desk.services.build.composeMetadata id)
    (other.services.build.composeMetadata id)
  cloneStatus : ∀ id, Agree related (desk.services.build.cloneStatus id)
    (other.services.build.cloneStatus id)

/-- From related worlds, two desks ask, hash and read the clock alike. -/
structure Desk.Alike (related : σ → τ → Prop) (desk : Desk σ) (other : Desk τ) : Prop
    extends Desk.AsksAlike related desk other where
  crypt : ∀ password, Concur related (desk.crypt password) (other.crypt password)

/-- From related worlds, two desks place orders and draw identifiers alike. -/
structure Desk.ActsAlike (related : σ → τ → Prop) (desk : Desk σ) (other : Desk τ) : Prop where
  drawId : Concur related desk.drawId other.drawId
  compose : ∀ order, Agree related (desk.services.build.compose order)
    (other.services.build.compose order)
  cloneCompose : ∀ id order, Agree related (desk.services.build.cloneCompose id order)
    (other.services.build.cloneCompose id order)

/-- How metrics are compared; counting the same on both sides changes nothing. -/
structure Meters where
  related : Metrics → Metrics → Prop
  counted : ∀ (update : Metrics → Metrics) {metrics other : Metrics}, related metrics other →
    related (update metrics) (update other)

def Meters.ignored : Meters :=
  ⟨fun _ _ => True, fun _ _ _ _ => trivial⟩

def Meters.same : Meters :=
  ⟨Eq, fun update _ _ bound => congrArg update bound⟩

/-- States whose stores, worlds and metrics are related. -/
structure DeskState.Related (meters : Meters) (stores : Store → Store → Prop)
    (worlds : σ → τ → Prop) (state : DeskState σ) (other : DeskState τ) : Prop where
  store : stores state.store other.store
  world : worlds state.world other.world
  metrics : meters.related state.metrics other.metrics

variable {meters : Meters} {stores : Store → Store → Prop} {worlds : σ → τ → Prop}

/-! ## Ways of working -/

namespace Work

theorem outside_agree {act : StateM σ α} {other : StateM τ α} (concur : Concur worlds act other) :
    Agree (DeskState.Related meters stores worlds) (outside act) (outside other) :=
  fun left right bound =>
    have told := concur left.world right.world bound.world
    ⟨congrArg Except.ok told.1, bound.store, told.2, bound.metrics⟩

theorem ask_agree {act : Act σ ε α} {other : Act τ ε α} (agree : Agree worlds act other)
    (tell : ε → Error) :
    Agree (DeskState.Related meters stores worlds) (ask tell act) (ask tell other) :=
  fun left right bound =>
    have told := agree left.world right.world bound.world
    ⟨congrArg (Except.mapError tell) told.1, bound.store, told.2, bound.metrics⟩

theorem check_agree (tell : ε → Error) (result : Except ε α) :
    Agree (DeskState.Related meters stores worlds) (check tell result : Work σ α)
      (check tell result : Work τ α) :=
  fun _ _ bound => ⟨rfl, bound⟩

theorem of_agree (result : Except Error α) :
    Agree (DeskState.Related meters stores worlds) (of result : Work σ α) (of result : Work τ α) :=
  fun _ _ bound => ⟨rfl, bound⟩

theorem look_agree {find : Store → α}
    (same : ∀ {store other}, stores store other → find store = find other) :
    Agree (DeskState.Related meters stores worlds) (look find : Work σ α) (look find : Work τ α) :=
  fun _ _ bound => ⟨congrArg Except.ok (same bound.store), bound⟩

theorem measure_agree (update : Metrics → Metrics) :
    Agree (DeskState.Related meters stores worlds) (measure update : Work σ Unit)
      (measure update : Work τ Unit) :=
  fun _ _ bound => ⟨rfl, bound.store, bound.world, meters.counted update bound.metrics⟩

theorem outside_accord {told : α → β → Prop} {act : StateM σ α} {other : StateM τ β}
    (tally : Tally worlds told act other) :
    Accord (DeskState.Related meters stores worlds) told (outside act) (outside other) :=
  fun left right bound =>
    have both := tally left.world right.world bound.world
    ⟨.ok both.1, bound.store, both.2, bound.metrics⟩

theorem ask_accord {told : α → β → Prop} {act : Act σ ε α} {other : Act τ ε β}
    (accord : Accord worlds told act other) (tell : ε → Error) :
    Accord (DeskState.Related meters stores worlds) told (ask tell act) (ask tell other) :=
  fun left right bound =>
    have both := accord left.world right.world bound.world
    ⟨both.1.mapError tell, bound.store, both.2, bound.metrics⟩

theorem check_accord {told : α → β → Prop} (tell : ε → Error) {result : Except ε α}
    {other : Except ε β} (matching : Matching told result other) :
    Accord (DeskState.Related meters stores worlds) told (check tell result : Work σ α)
      (check tell other : Work τ β) :=
  fun _ _ bound => ⟨matching.mapError tell, bound⟩

theorem of_accord {told : α → β → Prop} {result : Except Error α} {other : Except Error β}
    (matching : Matching told result other) :
    Accord (DeskState.Related meters stores worlds) told (of result : Work σ α)
      (of other : Work τ β) :=
  fun _ _ bound => ⟨matching, bound⟩

theorem look_accord {told : α → β → Prop} {find : Store → α} {search : Store → β}
    (both : ∀ {store other}, stores store other → told (find store) (search other)) :
    Accord (DeskState.Related meters stores worlds) told (look find : Work σ α)
      (look search : Work τ β) :=
  fun _ _ bound => ⟨.ok (both bound.store), bound⟩

/-- Two changes of stores that are related, as long as they are refused alike. -/
theorem change_accord {told : α → β → Prop} (tell : ε → Error)
    {write : Store → Except ε (Store × α)} {other : Store → Except ε (Store × β)}
    (writes : ∀ {store held}, stores store held →
      Matching (fun made left => stores made.1 left.1 ∧ told made.2 left.2) (write store)
        (other held)) :
    Accord (DeskState.Related meters stores worlds) told (change tell write : Work σ α)
      (change tell other : Work τ β) := by
  intro left right bound
  rw [outcome_change, outcome_change]
  rcases (writes bound.store).cases with ⟨fault, one, two⟩ | ⟨made, held, one, two, kept, both⟩
  · rw [one, two]
    exact ⟨.error _, bound⟩
  · rw [one, two]
    exact ⟨.ok both, kept, bound.world, bound.metrics⟩

/-- Plans with related results, each followed by a write of what was planned. -/
theorem commit_agree {δ : Type} {planned : β → δ → Prop} {plan : Work σ β} {other : Work τ δ}
    {write : β → Store → Except StoreFault (Store × γ)}
    {store : δ → Store → Except StoreFault (Store × γ)} {answer : β → γ → α} {reply : δ → γ → α}
    (plans : Accord (DeskState.Related meters stores worlds) planned plan other)
    (writes : ∀ a b, planned a b → ∀ {seen held}, stores seen held →
      Matching (fun made left => stores made.1 left.1 ∧ made.2 = left.2) (write a seen)
        (store b held))
    (answers : ∀ a b, planned a b → ∀ made, answer a made = reply b made) :
    Agree (DeskState.Related meters stores worlds) (commit plan write answer)
      (commit other store reply) := by
  refine Accord.agree (.bind plans fun a b both => ?_)
  refine .bind (change_accord _ (writes a b both)) fun made _ same => .pure ?_
  subst same
  exact answers a b both made

end Work

namespace Desk

variable {desk : Desk σ} {other : Desk τ} {caller : Identity}

theorem composes_agree (lists : Store.Lists stores caller.org) (alike : desk.AsksAlike worlds other)
    (range : Range) :
    Agree (DeskState.Related meters stores worlds) (desk.composes caller range)
      (other.composes caller range) :=
  .bind (Work.outside_agree alike.now) fun _ =>
    .bind (Work.look_agree fun bound => lists.activeComposes bound _ _) fun _ =>
      .bind (Work.of_agree _) fun _ => .pure _

theorem composeOf_agree (lists : Store.Lists stores caller.org) (id : Uuid) :
    Agree (DeskState.Related meters stores worlds) (composeOf caller id : Work σ ComposeEntry)
      (composeOf caller id) :=
  .bind (Work.look_agree fun bound => lists.getCompose bound id) fun _ => Work.check_agree _ _

theorem composeStatus_agree (lists : Store.Lists stores caller.org)
    (alike : desk.AsksAlike worlds other) (id : Uuid) :
    Agree (DeskState.Related meters stores worlds) (desk.composeStatus caller id)
      (other.composeStatus caller id) :=
  .bind (composeOf_agree lists id) fun _ =>
    .bind (Work.ask_agree (alike.composeStatus id) _) fun _ =>
      .bind (Work.of_agree _) fun _ => .bind (Work.check_agree _ _) fun _ =>
        .bind (Work.of_agree _) fun _ => .bind (Work.of_agree _) fun _ => .pure _

theorem composeMetadata_agree (lists : Store.Lists stores caller.org)
    (alike : desk.AsksAlike worlds other) (id : Uuid) :
    Agree (DeskState.Related meters stores worlds) (desk.composeMetadata caller id)
      (other.composeMetadata caller id) :=
  .bind (composeOf_agree lists id) fun _ =>
    .bind (Work.ask_agree (alike.composeMetadata id) _) fun _ =>
      .bind (Work.of_agree _) fun _ => .bind (Work.check_agree _ _) fun _ => .pure _

theorem clones_agree (lists : Store.Lists stores caller.org) (composeId : Uuid) (range : Range) :
    Agree (DeskState.Related meters stores worlds)
      (clones caller composeId range : Work σ (List CloneItem × Nat))
      (clones caller composeId range) :=
  .bind (Work.look_agree fun bound => lists.clonesOf bound composeId) fun _ =>
    .bind (Work.of_agree _) fun _ => .pure _

theorem cloneStatus_agree (lists : Store.Lists stores caller.org)
    (alike : desk.AsksAlike worlds other) (id : Uuid) :
    Agree (DeskState.Related meters stores worlds) (desk.cloneStatus caller id)
      (other.cloneStatus caller id) :=
  .bind (Work.look_agree fun bound => lists.getClone bound id) fun _ =>
    .bind (Work.check_agree _ _) fun _ => .bind (Work.ask_agree (alike.cloneStatus id) _) fun _ =>
      .bind (Work.of_agree _) fun _ => .bind (Work.check_agree _ _) fun _ =>
        .bind (Work.of_agree _) fun _ => .pure _

theorem blueprintOf_agree (views : Store.Views stores caller.org) (id : Uuid)
    (number : Option Int) :
    Agree (DeskState.Related meters stores worlds)
      (blueprintOf caller id number : Work σ BlueprintEntry) (blueprintOf caller id number) :=
  .bind (Work.look_agree fun bound => views.getBlueprint bound id number) fun _ =>
    Work.check_agree _ _

theorem getBlueprint_agree (views : Store.Views stores caller.org) (id : Uuid)
    (number : Option Int) :
    Agree (DeskState.Related meters stores worlds)
      (getBlueprint caller id number : Work σ BlueprintView) (getBlueprint caller id number) :=
  .bind (Work.of_agree _) fun _ => .bind (blueprintOf_agree views id _) fun _ =>
    .bind (Work.of_agree _) fun _ => .pure _

theorem exportBlueprint_agree (views : Store.Views stores caller.org)
    (alike : desk.AsksAlike worlds other) (id : Uuid) :
    Agree (DeskState.Related meters stores worlds) (desk.exportBlueprint caller id)
      (other.exportBlueprint caller id) :=
  .bind (blueprintOf_agree views id _) fun _ => .bind (Work.of_agree _) fun _ =>
    .bind (Work.outside_agree alike.now) fun _ => .pure _

theorem blueprints_agree (lists : Store.Lists stores caller.org) (filter : BlueprintFilter)
    (range : Range) :
    Agree (DeskState.Related meters stores worlds)
      (blueprints caller filter range : Work σ (List BlueprintItem × Nat))
      (blueprints caller filter range) :=
  .bind (Work.look_agree fun bound => lists.findBlueprints bound filter) fun _ => .pure _

theorem composesOf_agree (lists : Store.Lists stores caller.org)
    (alike : desk.AsksAlike worlds other) (id : Uuid) (wanted : Option Int) (range : Range) :
    Agree (DeskState.Related meters stores worlds) (desk.composesOf caller id wanted range)
      (other.composesOf caller id wanted range) :=
  .bind (Work.outside_agree alike.now) fun now =>
    .bind (Work.look_agree fun bound => by
      rw [Store.composesOfBlueprint, lists.activeComposes bound, Store.composesOfBlueprint])
      fun _ => .bind (Work.of_agree _) fun _ => .pure _

theorem blueprintComposes_agree (views : Store.Views stores caller.org)
    (alike : desk.AsksAlike worlds other) (id : Uuid) (number : Option Int) (range : Range) :
    Agree (DeskState.Related meters stores worlds) (desk.blueprintComposes caller id number range)
      (other.blueprintComposes caller id number range) := by
  rw [blueprintComposes_eq, blueprintComposes_eq]
  exact .bind (blueprintOf_agree views id _) fun entry => .bind (Work.of_agree _) fun wanted =>
    composesOf_agree views.toLists alike id wanted range

/-- What an operation that only looks answers is up to what the caller sees. -/
theorem perform_agree (views : Store.Views stores caller.org) (alike : desk.AsksAlike worlds other)
    {operation : Operation} (reading : operation.isReading = true) :
    Agree (DeskState.Related meters stores worlds) (desk.perform caller operation)
      (other.perform caller operation) := by
  cases operation with
  | composes range => exact (composes_agree views.toLists alike range).map _
  | composeStatus id => exact (composeStatus_agree views.toLists alike id).map _
  | composeMetadata id => exact (composeMetadata_agree views.toLists alike id).map _
  | clones id range => exact (clones_agree views.toLists id range).map _
  | cloneStatus id => exact (cloneStatus_agree views.toLists alike id).map _
  | getBlueprint id number => exact (getBlueprint_agree views id number).map _
  | exportBlueprint id => exact (exportBlueprint_agree views alike id).map _
  | blueprints filter range => exact (blueprints_agree views.toLists filter range).map _
  | blueprintComposes id number range =>
      exact (blueprintComposes_agree views alike id number range).map _
  | compose | deleteCompose | cloneCompose | createBlueprint | updateBlueprint
  | deleteBlueprint | composeBlueprint => cases reading

/-! ## Plans -/

/-- Whether one more compose is allowed is up to the number of composes. -/
theorem allows_eq (lists : Store.Lists stores caller.org) (guard : QuotaGuard)
    {store seen : Store} (bound : stores store seen) (now : Timestamp) :
    guard.allows caller.org store now = guard.allows caller.org seen now := by
  unfold QuotaGuard.allows
  refine congrArg _ (funext fun quota => ?_)
  cases quota with
  | none => rfl
  | some quota => simp only [lists.countComposes bound]

theorem allow_agree (lists : Store.Lists stores caller.org) (alike : desk.AsksAlike worlds other) :
    Agree (DeskState.Related meters stores worlds) (desk.allow caller) (other.allow caller) := by
  unfold allow
  rw [alike.quotas]
  exact .bind (Work.outside_agree alike.now) fun now =>
    .bind (Work.look_agree fun bound => allows_eq lists _ bound now) fun _ =>
      .bind (Work.check_agree _ _) fun _ =>
        .ite (.pure _) (.bind (Work.measure_agree _) fun _ => .throw _)

theorem soleImage_agree (request : ComposeRequest) :
    Agree (DeskState.Related meters stores worlds) (soleImage request : Work σ ImageRequest)
      (soleImage request) := by
  unfold soleImage
  split
  · exact .bind (Work.measure_agree _) fun _ => .pure _
  · exact .throw _

theorem orderFor_agree (alike : desk.AsksAlike worlds other) (request : ComposeRequest)
    (image : ImageRequest) :
    Agree (DeskState.Related meters stores worlds) (desk.orderFor caller request image)
      (other.orderFor caller request image) := by
  unfold orderFor distributionFor
  rw [alike.registry, alike.uploads]
  refine .bind (Work.of_agree _) fun distribution => ?_
  refine .bind (Work.of_agree _) fun architecture => ?_
  refine .bind (Work.ask_agree
    (Repositories.resolve_agree alike.services caller _ _ _) _) fun repositories => ?_
  refine .bind (Work.ask_agree
    (UploadTarget.resolve_agree alike.services caller _ _ _) _) fun target => ?_
  refine .bind (Work.check_agree _ _) fun _ => .bind (Work.check_agree _ _) fun _ => ?_
  exact .bind (Work.ask_agree
    (Customize.ofRequest_agree alike.services caller _ _) _) fun _ => .pure _

theorem ordering_agree (lists : Store.Lists stores caller.org) (alike : desk.AsksAlike worlds other)
    (request : ComposeRequest) :
    Agree (DeskState.Related meters stores worlds) (desk.ordering caller request)
      (other.ordering caller request) :=
  .bind (allow_agree lists alike) fun _ => .bind (soleImage_agree request) fun _ =>
    orderFor_agree alike request _

theorem place_agree {order held : Build.Order} (agree : Agree worlds
    (desk.services.build.compose order) (other.services.build.compose held)) :
    Agree (DeskState.Related meters stores worlds) (desk.place order) (other.place held) :=
  .bind (Work.ask_agree agree _) fun _ =>
    .ite (.bind (Work.check_agree _ _) fun _ => .pure _) (.throw _)

theorem submission_agree (lists : Store.Lists stores caller.org)
    (alike : desk.AsksAlike worlds other) (acts : desk.ActsAlike worlds other)
    (request : ComposeRequest) :
    Agree (DeskState.Related meters stores worlds) (desk.submission caller request)
      (other.submission caller request) :=
  .bind (ordering_agree lists alike request) fun order =>
    .bind (place_agree (acts.compose order)) fun _ =>
      .bind (Work.outside_agree alike.now) fun _ => .pure _

/-- What fails is counted on both sides. -/
theorem composeFor_agree_of {request held : ComposeRequest} {versionId : Option Uuid}
    (submits : Agree (DeskState.Related meters stores worlds)
      (desk.submit caller request versionId) (other.submit caller held versionId)) :
    Agree (DeskState.Related meters stores worlds) (desk.composeFor caller request versionId)
      (other.composeFor caller held versionId) := by
  refine .tryCatch submits fun error => ?_
  exact .ite (.bind (Work.measure_agree _) fun _ => .throw _) (.throw _)

theorem allowClone_agree (lists : Store.Lists stores caller.org) (composeId : Uuid) :
    Agree (DeskState.Related meters stores worlds) (allowClone caller composeId : Work σ Unit)
      (allowClone caller composeId) :=
  .bind (Work.look_agree fun bound => by
    rw [Store.composeImageType, lists.getCompose bound, Store.composeImageType]) fun _ =>
    .bind (Work.check_agree _ _) fun _ => .ite (.pure _) (.throw _)

theorem sharing_agree (lists : Store.Lists stores caller.org) (alike : desk.AsksAlike worlds other)
    (composeId : Uuid) (request : CloneRequest) :
    Agree (DeskState.Related meters stores worlds) (desk.sharing caller composeId request)
      (other.sharing caller composeId request) :=
  .bind (allowClone_agree lists composeId) fun _ =>
    Work.ask_agree (UploadTarget.awsAccounts_agree alike.services caller _ _) _

theorem copying_agree (lists : Store.Lists stores caller.org) (alike : desk.AsksAlike worlds other)
    (acts : desk.ActsAlike worlds other) (composeId : Uuid) (request : CloneRequest) :
    Agree (DeskState.Related meters stores worlds) (desk.copying caller composeId request)
      (other.copying caller composeId request) :=
  .bind (sharing_agree lists alike composeId request) fun _ =>
    .bind (.bind (Work.ask_agree (acts.cloneCompose composeId _) _) fun _ =>
      .ite (.bind (Work.check_agree _ _) fun _ => .pure _) (.throw _)) fun _ =>
      .bind (Work.outside_agree alike.now) fun _ => .pure _

theorem cryptPasswords_concur (alike : desk.Alike worlds other)
    (customizations : Customizations) :
    Concur worlds (desk.cryptPasswords customizations) (other.cryptPasswords customizations) := by
  have user (user : User) : Concur worlds (desk.cryptUser user) (other.cryptUser user) := by
    unfold cryptUser
    split
    · exact .pure _
    · split
      · exact .pure _
      · exact .bind (alike.crypt _) fun _ => .pure _
  unfold cryptPasswords
  split
  · exact .pure _
  · exact .bind (.mapM user _) fun _ => .pure _

theorem drafting_agree (alike : desk.Alike worlds other) (request : BlueprintRequest) :
    Agree (DeskState.Related meters stores worlds) (desk.drafting request) (other.drafting request) :=
  .bind (Work.of_agree _) fun _ => .bind (Work.of_agree _) fun _ =>
    .bind (Work.outside_agree (cryptPasswords_concur alike _)) fun _ => .pure _

theorem creation_agree (alike : desk.Alike worlds other) (acts : desk.ActsAlike worlds other)
    (request : BlueprintRequest) :
    Agree (DeskState.Related meters stores worlds) (desk.creation caller request)
      (other.creation caller request) :=
  .bind (drafting_agree alike request) fun _ =>
    .bind (Work.outside_agree acts.drawId) fun _ =>
      .bind (Work.outside_agree acts.drawId) fun _ =>
        .bind (Work.outside_agree alike.now) fun _ => .pure _

theorem draftUpdate_agree (views : Store.Views stores caller.org)
    (alike : desk.Alike worlds other) (id : Uuid) (request : BlueprintRequest) :
    Agree (DeskState.Related meters stores worlds) (desk.draftUpdate caller id request)
      (other.draftUpdate caller id request) :=
  .bind (Work.of_agree _) fun _ => .bind (blueprintOf_agree views id _) fun _ =>
    .bind (Work.of_agree _) fun _ => .bind (Work.of_agree _) fun _ =>
      .bind (Work.outside_agree (cryptPasswords_concur alike _)) fun _ => .pure _

theorem revision_agree (views : Store.Views stores caller.org) (alike : desk.Alike worlds other)
    (acts : desk.ActsAlike worlds other) (id : Uuid) (request : BlueprintRequest) :
    Agree (DeskState.Related meters stores worlds) (desk.revision caller id request)
      (other.revision caller id request) :=
  .bind (draftUpdate_agree views alike id request) fun _ =>
    .bind (Work.outside_agree acts.drawId) fun _ =>
      .bind (Work.outside_agree alike.now) fun _ => .pure _

theorem choosing_agree (views : Store.Views stores caller.org) (id : Uuid)
    (selection : ImageSelection) :
    Agree (DeskState.Related meters stores worlds)
      (choosing caller id selection :
        Work σ ((BlueprintEntry × BlueprintBody) × List ImageRequest))
      (choosing caller id selection) := by
  refine .bind (blueprintOf_agree views id none) fun entry =>
    .bind (Work.of_agree _) fun body => ?_
  exact .ite (.bind (.throw _) fun _ => .pure _) (.pure _)

end Desk

end ComposeDesk
