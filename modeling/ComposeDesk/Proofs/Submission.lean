import ComposeDesk.Proofs.Writing

/-!
# The guard of submissions

A compose is placed with the build service at most once, and only after every
check has passed.  What is remembered is exactly what the build service has
accepted.
-/

namespace ComposeDesk

variable {σ : Type}

/-- What has to hold for an order to be placed: the findings of all checks, and
the worlds that the services leave one after another. -/
structure Admission (desk : Desk σ) (caller : Identity) (request : ComposeRequest)
    (before : DeskState σ) where
  image : ImageRequest
  distribution : Distribution
  architecture : Architecture
  repositories : List Build.Repository
  upload : Build.Upload
  kind : Build.ImageKind
  customizations : Option Build.Customizations
  /-- The world in which all repositories are known. -/
  pinned : σ
  /-- The world in which the upload target is known too. -/
  provisioned : σ
  /-- The world in which the order is placed. -/
  world : σ
  allowed : desk.quotas.allows caller.org before.store (desk.now before.world).1 = .ok true
  sole : request.imageRequests = [image]
  registered : desk.registry.entries.find? (·.1 == request.distribution) =
    some (request.distribution, distribution)
  unrestricted : distribution.info.restricted = false
  entitled : caller.isEntitled "rhel" = true ∨
    ∀ offer ∈ distribution.architectures, ∀ repository ∈ offer.2.repositories,
      repository.rhsm = false
  offered : distribution.architecture? image.architecture = some architecture
  dated : ∀ date, image.snapshotDate = some date → (snapshotDate? date).isSome
  resolved : outcome (Repositories.resolve desk.services caller architecture image.imageType
    image.snapshotDate) (desk.now before.world).2 = (.ok repositories, pinned)
  complete : repositories.length = (Repositories.baseOf architecture image.imageType).length
  uploaded : outcome (UploadTarget.resolve desk.services caller desk.uploads image.imageType
    image.target) pinned = (.ok (upload, kind), provisioned)
  fitting : request.checkSize = .ok ()
  installable : request.checkInstaller = .ok ()
  translated : outcome (Customize.ofRequest desk.services caller distribution request)
    provisioned = (.ok customizations, world)

namespace Admission

variable {desk : Desk σ} {caller : Identity} {request : ComposeRequest} {before : DeskState σ}

def order (admission : Admission desk caller request before) : Build.Order where
  distribution := admission.distribution.composerName
  image :=
    ⟨admission.image.architecture, admission.kind, admission.repositories, admission.upload,
      admission.image.size, admission.image.ostree⟩
  customizations := admission.customizations

def answer (admission : Admission desk caller request before) : Except ServiceFault Reply :=
  (desk.answerTo admission.order admission.world).1

end Admission

namespace Desk

variable {desk : Desk σ} {caller : Identity} {request : ComposeRequest}

theorem allow_ok {before left : DeskState σ} (done : outcome (desk.allow caller) before =
    (.ok (), left)) :
    desk.quotas.allows caller.org before.store (desk.now before.world).1 = .ok true ∧
      left.world = (desk.now before.world).2 := by
  obtain ⟨now, clocked, read, counted⟩ := outcome_bind_eq_ok done
  obtain ⟨answer, _, found, checked⟩ := outcome_bind_eq_ok counted
  obtain ⟨allowed, _, passed, decided⟩ := outcome_bind_eq_ok checked
  obtain ⟨rfl, rfl⟩ := Work.look_ok found
  obtain ⟨within, rfl⟩ := Work.check_ok passed
  cases read
  cases allowed with
  | false =>
      obtain ⟨_, _, _, refused⟩ := outcome_bind_eq_ok decided
      cases refused
  | true =>
      cases decided
      exact ⟨within, rfl⟩

theorem soleImage_ok {state left : DeskState σ} {image : ImageRequest}
    (done : outcome (soleImage request) state = (.ok image, left)) :
    request.imageRequests = [image] ∧ left.world = state.world := by
  unfold soleImage at done
  split at done
  · rename_i single only
    cases done
    exact ⟨only, rfl⟩
  · cases done

theorem distributionFor_ok {name : String} {distribution : Distribution}
    (found : desk.distributionFor caller name = .ok distribution) :
    desk.registry.entries.find? (·.1 == name) = some (name, distribution) ∧
      distribution.isVisible (caller.isEntitled entitlement) = true := by
  unfold distributionFor Registry.get? at found
  rcases held : desk.registry.entries.find? (·.1 == name) with _ | ⟨key, entry⟩
  · simp [held] at found
  · have named : key = name := by simpa using List.find?_some held
    cases named
    by_cases visible : entry.isVisible (caller.isEntitled entitlement) = true
    · simp only [held, visible, if_true] at found
      cases found
      exact ⟨held, visible⟩
    · simp [held, visible] at found

/-- Who sees a distribution is entitled, or all its repositories are free. -/
theorem entitled_of_isVisible {distribution : Distribution} {entitled : Bool}
    (visible : distribution.isVisible entitled = true) :
    distribution.info.restricted = false ∧
      (entitled = true ∨ ∀ offer ∈ distribution.architectures,
        ∀ repository ∈ offer.2.repositories, repository.rhsm = false) := by
  simpa [Distribution.isVisible, Distribution.needsEntitlement] using visible

theorem architectureFor_ok {distribution : Distribution} {image : ImageRequest}
    {architecture : Architecture}
    (found : architectureFor distribution request image = .ok architecture) :
    distribution.architecture? image.architecture = some architecture := by
  unfold architectureFor at found
  split at found
  · rename_i offered known
    cases found
    exact known
  · cases found

theorem resolve_ok {services : Downstream σ} {architecture : Architecture} {type : ImageType}
    {date : Option String} {repositories : List Build.Repository} {world left : σ}
    (done : outcome (Repositories.resolve services caller architecture type date) world =
      (.ok repositories, left)) :
    (∀ text, date = some text → (snapshotDate? text).isSome) ∧
      repositories.length = (Repositories.baseOf architecture type).length := by
  cases date with
  | none =>
      cases done
      exact ⟨by simp, rfl⟩
  | some text =>
      obtain ⟨pinned, _, snapped, counted⟩ := outcome_bind_eq_ok done
      constructor
      · rintro _ ⟨rfl⟩
        unfold Repositories.snapshots at snapped
        split at snapped
        · cases snapped
        · rename_i time read
          rw [read]
          rfl
      · simp only at counted
        split at counted
        · obtain ⟨_, _, thrown, _⟩ := outcome_bind_eq_ok counted
          cases thrown
        · rename_i full
          cases counted
          exact Decidable.of_not_not full

/-! ## Admission -/

/-- Whoever gets an order has passed every check. -/
theorem ordering_ok {before middle : DeskState σ} {order : Build.Order}
    (done : outcome (desk.ordering caller request) before = (.ok order, middle)) :
    ∃ admission : Admission desk caller request before,
      admission.order = order ∧ admission.world = middle.world := by
  obtain ⟨_, counted, passed, toImage⟩ := outcome_bind_eq_ok done
  obtain ⟨allowed, clocked⟩ := allow_ok passed
  obtain ⟨image, chosen, single, toDistribution⟩ := outcome_bind_eq_ok toImage
  obtain ⟨sole, unmoved⟩ := soleImage_ok single
  obtain ⟨distribution, _, named, toArchitecture⟩ := outcome_bind_eq_ok toDistribution
  obtain ⟨found, rfl⟩ := Work.of_ok named
  obtain ⟨registered, visible⟩ := distributionFor_ok found
  obtain ⟨unrestricted, entitled⟩ := entitled_of_isVisible visible
  obtain ⟨architecture, _, built, toRepositories⟩ := outcome_bind_eq_ok toArchitecture
  obtain ⟨offer, rfl⟩ := Work.of_ok built
  obtain ⟨repositories, pinned, asked, toUpload⟩ := outcome_bind_eq_ok toRepositories
  have resolved := Work.ask_ok asked
  rw [unmoved, clocked] at resolved
  obtain ⟨dated, complete⟩ := resolve_ok resolved
  obtain ⟨⟨upload, kind⟩, provisioned, uploaded, toSize⟩ := outcome_bind_eq_ok toUpload
  obtain ⟨_, _, sized, toInstaller⟩ := outcome_bind_eq_ok toSize
  obtain ⟨fitting, rfl⟩ := Work.check_ok sized
  obtain ⟨_, _, installed, toCustomizations⟩ := outcome_bind_eq_ok toInstaller
  obtain ⟨installable, rfl⟩ := Work.check_ok installed
  obtain ⟨customizations, _, translated, told⟩ := outcome_bind_eq_ok toCustomizations
  cases told
  exact ⟨{
    image, distribution, architecture, repositories, upload, kind, customizations
    pinned := pinned.world
    provisioned := _
    world := middle.world
    allowed, sole, registered, unrestricted, entitled
    offered := architectureFor_ok offer
    dated, resolved, complete
    uploaded := Work.ask_ok uploaded
    fitting, installable
    translated := Work.ask_ok translated }, rfl, rfl⟩

theorem placed_append (journal : Journal desk) {world left : σ} {event : Event}
    (added : journal.events left = journal.events world ++ [event]) :
    journal.placed left = journal.placed world ++ event.placed?.toList := by
  rw [Journal.placed, added, List.filterMap_append]
  cases placed : event.placed? <;> simp [Journal.placed, placed]

theorem placed_eq (journal : Journal desk) {world left : σ}
    (same : journal.events left = journal.events world) :
    journal.placed left = journal.placed world := by
  rw [Journal.placed, same, Journal.placed]

theorem answerTo_placed (journal : Journal desk) (order : Build.Order) (world : σ) :
    journal.placed (desk.answerTo order world).2 =
      journal.placed world ++ [(order, (desk.answerTo order world).1)] :=
  placed_append journal (journal.compose order world)

/-- Either no order is placed, or the one of an admission is, and what comes of
it is up to the answer. -/
theorem submission_cases (journal : Journal desk) (caller : Identity) (request : ComposeRequest)
    (before : DeskState σ) :
    (∃ error left, outcome (desk.submission caller request) before = (.error error, left) ∧
      journal.placed left.world = journal.placed before.world) ∨
    ∃ admission : Admission desk caller request before,
      journal.placed (outcome (desk.submission caller request) before).2.world =
        journal.placed before.world ++ [(admission.order, admission.answer)] ∧
      ((outcome (desk.submission caller request) before).1.map fun placed => placed.1) =
        verdict refusedOrder admission.answer := by
  have kept := (ordering_keeps journal caller request).part_eq before
  rcases ordered : outcome (desk.ordering caller request) before with ⟨error | order, middle⟩
  · rw [ordered] at kept
    exact .inl ⟨error, middle, outcome_submission_error ordered, placed_eq journal kept⟩
  · rw [ordered] at kept
    obtain ⟨admission, rfl, found⟩ := ordering_ok ordered
    have answered : admission.answer = (desk.answerTo admission.order middle.world).1 := by
      rw [Admission.answer, found]
    have added := answerTo_placed journal admission.order middle.world
    rw [placed_eq journal kept] at added
    refine .inr ⟨admission, ?_⟩
    rw [outcome_submission_ok ordered, answered]
    cases verdict refusedOrder (desk.answerTo admission.order middle.world).1 with
    | error error => exact ⟨added, rfl⟩
    | ok id => exact ⟨(placed_eq journal (journal.now _)).trans added, rfl⟩

/-- A compose is remembered exactly if it was placed under a new identifier. -/
theorem submit_ok_iff {versionId : Option Uuid} {before : DeskState σ} {id : Uuid} :
    (outcome (desk.submit caller request versionId) before).1 = .ok ⟨id⟩ ↔
      ((outcome (desk.submission caller request) before).1.map fun placed => placed.1) =
          .ok id ∧
        ∀ row ∈ before.store.composes, row.id ≠ id := by
  have kept := submission_keeps desk caller request before
  rw [submit_eq_commit, Work.outcome_commit]
  rcases placed : outcome (desk.submission caller request) before with
    ⟨error | ⟨given, now⟩, left⟩
  · simp [Except.map]
  · rw [placed] at kept
    simp only at kept
    simp only [silently, kept, Except.map]
    rcases inserted : before.store.insertCompose
      (.ofRequest caller request versionId given now) with fault | next
    · simp only [reduceCtorEq, false_iff, Except.ok.injEq]
      rintro ⟨rfl, free⟩
      rw [Store.insertCompose_ok_iff.mpr ⟨free, rfl⟩] at inserted
      cases inserted
    · obtain ⟨free, -⟩ := Store.insertCompose_ok_iff.mp inserted
      simp only [Except.ok.injEq, Created.mk.injEq]
      exact ⟨fun same => ⟨same, same ▸ free⟩, fun same => same.1⟩

/-- The service that builds images is asked at most once, and only after every
check has passed.  A submission ends well exactly if the order was accepted
under an identifier that no compose has; then exactly its row is added, and
else the store is left as it was. -/
theorem submit_guarded (journal : Journal desk) (caller : Identity) (request : ComposeRequest)
    (versionId : Option Uuid) (before : DeskState σ) :
    let result := outcome (desk.submit caller request versionId) before
    (∃ orders, journal.placed result.2.world = journal.placed before.world ++ orders ∧
      orders.length ≤ 1 ∧
      (∀ placed ∈ orders, ∃ admission : Admission desk caller request before,
        placed = (admission.order, admission.answer)) ∧
      (∀ id, result.1 = .ok ⟨id⟩ ↔
        ∃ order reply, orders = [(order, .ok reply)] ∧ reply.status = 201 ∧
          reply.decode Build.ComposeId.codec = .ok ⟨id⟩ ∧
          ∀ row ∈ before.store.composes, row.id ≠ id)) ∧
    (∀ id, result.1 = .ok ⟨id⟩ → ∃ row : ComposeRow,
      result.2.store = { before.store with composes := before.store.composes ++ [row] } ∧
      row.id = id ∧ row.org = caller.org ∧ row.account = caller.account ∧
      row.email = caller.email ∧ row.versionId = versionId ∧
      row.request = ComposeRequest.codec.write { request with
        customizations := request.customizations.map fun customizations =>
          { customizations with
            users := customizations.users.map (·.map ({ · with password := none })) } }) ∧
    (∀ error, result.1 = .error error → result.2.store = before.store) := by
  intro result
  have world : result.2.world = (outcome (desk.submission caller request) before).2.world := by
    simp only [result, submit_eq_commit, Work.commit_world]
  refine ⟨?placing, ?stored, ?failed⟩
  case placing =>
    rw [world]
    simp only [result, submit_ok_iff]
    rcases submission_cases journal caller request before with
      ⟨error, left, refused, same⟩ | ⟨admission, added, told⟩
    · rw [refused]
      exact ⟨[], by rw [List.append_nil, same], by simp, by simp, by simp [Except.map]⟩
    · rw [told]
      refine ⟨_, added, Nat.le_refl 1, ?_, fun id => ?_⟩
      · intro placed member
        exact ⟨admission, List.mem_singleton.mp member⟩
      · rw [verdict_ok_iff]
        constructor
        · rintro ⟨⟨reply, answered, accepted, decoded⟩, free⟩
          exact ⟨_, reply, by rw [answered], accepted, decoded, free⟩
        · rintro ⟨order, reply, same, accepted, decoded, free⟩
          simp only [List.cons.injEq, Prod.mk.injEq, and_true] at same
          exact ⟨⟨reply, same.2, accepted, decoded⟩, free⟩
  case stored =>
    intro given yields
    rcases submit_cases desk caller request versionId before with
      ⟨error, left, failed, -⟩ | ⟨id, now, left, done, -, added⟩
    · simp only [result, failed] at yields
      cases yields
    · simp only [result, done, Except.ok.injEq, Created.mk.injEq] at yields ⊢
      cases yields
      exact ⟨_, added, rfl, rfl, rfl, rfl, rfl, rfl⟩
  case failed =>
    intro told yields
    rcases submit_cases desk caller request versionId before with
      ⟨error, left, failed, kept⟩ | ⟨id, now, left, done, -, -⟩
    · simp only [result, failed]
      exact kept
    · simp only [result, done] at yields
      cases yields

end Desk

end ComposeDesk
