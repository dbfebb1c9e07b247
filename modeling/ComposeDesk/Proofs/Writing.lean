import ComposeDesk.Proofs.Issue
import ComposeDesk.Proofs.Store.Look
import ComposeDesk.Proofs.Store.Write

/-!
# Work that changes the store

An operation that writes either fails and leaves the store, or does the one
write that it planned.  So all that an operation does to the store is a
sequence of changes, each with the identifiers that were given out for it.
-/

namespace ComposeDesk

variable {σ α β γ : Type}

namespace Work

variable {plan : Work σ β} {write : β → Store → Except StoreFault (Store × γ)}
  {answer : β → γ → α}

variable (write answer) in
/-- Either nothing is written and an error is told, or what was planned is
written. -/
theorem commit_cases (keeps : Keeps DeskState.store plan) (state : DeskState σ) :
    (∃ error left, outcome (commit plan write answer) state = (.error error, left) ∧
      left.store = state.store) ∨
    ∃ planned left next written, outcome plan state = (.ok planned, left) ∧
      write planned state.store = .ok (next, written) ∧
      outcome (commit plan write answer) state =
        (.ok (answer planned written), { left with store := next }) := by
  have kept := keeps state
  rw [outcome_commit]
  rcases done : outcome plan state with ⟨error | planned, left⟩
  · rw [done] at kept
    exact .inl ⟨error, left, rfl, kept⟩
  · rw [done] at kept
    simp only at kept ⊢
    rw [kept]
    rcases wrote : write planned state.store with fault | ⟨next, written⟩
    · exact .inl ⟨fault.error, left, rfl, kept⟩
    · exact .inr ⟨planned, left, next, written, rfl, wrote, rfl⟩

/-- The world is left by the plan; the write does not touch it. -/
theorem commit_world (state : DeskState σ) :
    (outcome (commit plan write answer) state).2.world = (outcome plan state).2.world := by
  rw [outcome_commit]
  rcases outcome plan state with ⟨error | planned, left⟩
  · rfl
  · simp only
    rcases write planned left.store with fault | ⟨next, written⟩ <;> rfl

end Work

theorem silently_ok {write : Store → Except StoreFault Store} {store next : Store} {told : Unit}
    (written : silently write store = .ok (next, told)) : write store = .ok next := by
  unfold silently at written
  rcases wrote : write store with fault | left
  · rw [wrote] at written
    cases written
  · rw [wrote] at written
    cases written
    rfl

namespace Desk

variable {desk : Desk σ} {caller : Identity}

/-- A submission either fails and leaves the store, or adds one compose under an
identifier that was not taken. -/
theorem submit_cases (desk : Desk σ) (caller : Identity) (request : ComposeRequest)
    (versionId : Option Uuid) (state : DeskState σ) :
    (∃ error left, outcome (desk.submit caller request versionId) state = (.error error, left) ∧
      left.store = state.store) ∨
    ∃ id now left, outcome (desk.submit caller request versionId) state = (.ok ⟨id⟩, left) ∧
      (∀ held ∈ state.store.composes, held.id ≠ id) ∧
      left.store = { state.store with
        composes := state.store.composes ++ [.ofRequest caller request versionId id now] } := by
  rw [submit_eq_commit]
  rcases Work.commit_cases _ _ (submission_keeps desk caller request) state with
    ⟨error, left, failed, kept⟩ | ⟨⟨id, now⟩, planned, next, _, placed, written, done⟩
  · exact .inl ⟨error, left, failed, kept⟩
  · obtain ⟨free, rfl⟩ := Store.insertCompose_ok_iff.mp (silently_ok written)
    exact .inr ⟨id, now, _, done, free, rfl⟩

/-- Counting a failure does not change the answer, the store or the world. -/
theorem outcome_composeFor (desk : Desk σ) (caller : Identity) (request : ComposeRequest)
    (versionId : Option Uuid) (state : DeskState σ) :
    ∃ metrics, outcome (desk.composeFor caller request versionId) state =
      ((outcome (desk.submit caller request versionId) state).1,
        { (outcome (desk.submit caller request versionId) state).2 with metrics }) := by
  rw [composeFor, outcome_tryCatch]
  rcases outcome (desk.submit caller request versionId) state with ⟨error | created, left⟩
  · simp only
    by_cases severe : 500 ≤ error.status
    · exact ⟨left.metrics.composeFailed, by simp only [severe, if_true]; rfl⟩
    · exact ⟨left.metrics, by simp only [severe, if_false]; rfl⟩
  · exact ⟨left.metrics, rfl⟩

/-- The world is left by the plan of the submission. -/
theorem composeFor_world (desk : Desk σ) (caller : Identity) (request : ComposeRequest)
    (versionId : Option Uuid) (state : DeskState σ) :
    (outcome (desk.composeFor caller request versionId) state).2.world =
      (outcome (desk.submission caller request) state).2.world := by
  obtain ⟨metrics, same⟩ := outcome_composeFor desk caller request versionId state
  rw [same, submit_eq_commit]
  exact Work.commit_world state

theorem composeFor_cases (desk : Desk σ) (caller : Identity) (request : ComposeRequest)
    (versionId : Option Uuid) (state : DeskState σ) :
    (∃ error left, outcome (desk.composeFor caller request versionId) state =
      (.error error, left) ∧ left.store = state.store) ∨
    ∃ id now left, outcome (desk.composeFor caller request versionId) state = (.ok ⟨id⟩, left) ∧
      (∀ held ∈ state.store.composes, held.id ≠ id) ∧
      left.store = { state.store with
        composes := state.store.composes ++ [.ofRequest caller request versionId id now] } := by
  obtain ⟨metrics, same⟩ := outcome_composeFor desk caller request versionId state
  rw [same]
  rcases submit_cases desk caller request versionId state with
    ⟨error, left, failed, kept⟩ | ⟨id, now, left, done, free, stored⟩
  · rw [failed]
    exact .inl ⟨error, _, rfl, kept⟩
  · rw [done]
    exact .inr ⟨id, now, _, rfl, free, stored⟩

/-! ## Operations as changes -/

/-- Work for a caller who asked for some composes gives out identifiers and
changes the store with them. -/
def Alters (journal : Journal desk) (caller : Identity) (asked : ComposeRequest → Prop)
    (work : Work σ α) (state : DeskState σ) : Prop :=
  ∃ ids, journal.issued (outcome work state).2.world = journal.issued state.world ++ ids ∧
    Store.Changes caller asked ids state.store (outcome work state).2.store

namespace Alters

variable {journal : Journal desk} {asked wider : ComposeRequest → Prop} {state : DeskState σ}

theorem imp {work : Work σ α} (alters : Alters journal caller asked work state)
    (more : ∀ request, asked request → wider request) :
    Alters journal caller wider work state := by
  obtain ⟨ids, issued, changes⟩ := alters
  exact ⟨ids, issued, changes.imp more⟩

theorem map {work : Work σ α} (alters : Alters journal caller asked work state) (f : α → β) :
    Alters journal caller asked (f <$> work) state := by
  unfold Alters
  rw [outcome_map]
  exact alters

theorem reading {work : Work σ α} (keeps : Keeps (DeskState.beside journal.events) work) :
    Alters journal caller asked work state := by
  refine ⟨[], ?_, ?_⟩
  · rw [List.append_nil, issued_eq journal (keeps.part_eq state)]
  · rw [keeps.store_eq state]
    exact .none _

theorem bind {work : Work σ α} {next : α → Work σ β}
    (first : Alters journal caller asked work state)
    (rest : ∀ a left, outcome work state = (.ok a, left) →
      Alters journal caller asked (next a) left) :
    Alters journal caller asked (work >>= next) state := by
  obtain ⟨ids, issued, changes⟩ := first
  rcases done : outcome work state with ⟨error | a, left⟩
  · rw [done] at issued changes
    unfold Alters
    rw [outcome_bind_error done]
    exact ⟨ids, issued, changes⟩
  · rw [done] at issued changes
    obtain ⟨more, issuedMore, changesMore⟩ := rest a left done
    unfold Alters
    rw [outcome_bind_ok done]
    exact ⟨ids ++ more, by rw [issuedMore, issued, List.append_assoc],
      changes.trans changesMore⟩

theorem commit {plan : Work σ β} {write : β → Store → Except StoreFault (Store × γ)}
    {answer : β → γ → α} {told : β → List Uuid → Prop} (issues : Issues journal plan told)
    (keeps : Keeps DeskState.store plan)
    (changes : ∀ planned left ids next written, outcome plan state = (.ok planned, left) →
      told planned ids → write planned state.store = .ok (next, written) →
        Store.Change caller asked ids state.store next) :
    Alters journal caller asked (Work.commit plan write answer) state := by
  obtain ⟨ids, issued, yields⟩ := issues state
  refine ⟨ids, by rw [Work.commit_world, issued], ?_⟩
  rcases Work.commit_cases write answer keeps state with
    ⟨error, left, failed, kept⟩ | ⟨planned, left, next, written, placed, wrote, done⟩
  · rw [failed]
    simp only [kept]
    exact .single (.unchanged ids _)
  · rw [done]
    exact .single (changes planned left ids next written placed
      (yields planned (by rw [placed])) wrote)

end Alters

/-- A compose may be copied only by its organization. -/
theorem owns_of_copying {composeId : Uuid} {request : CloneRequest} {state left : DeskState σ}
    {placed : Uuid × Timestamp}
    (done : outcome (desk.copying caller composeId request) state = (.ok placed, left)) :
    state.store.owns caller.org composeId = true := by
  obtain ⟨accounts, middle, shared, -⟩ := outcome_bind_eq_ok done
  obtain ⟨_, allowed, passed, -⟩ := outcome_bind_eq_ok shared
  obtain ⟨found, _, looked, checked⟩ := outcome_bind_eq_ok passed
  obtain ⟨name, _, named, -⟩ := outcome_bind_eq_ok checked
  cases looked
  exact Store.owns_of_composeImageType (mapError_eq_ok_iff.mp (congrArg Prod.fst named))

theorem composeFor_alters (journal : Journal desk) (caller : Identity)
    (request : ComposeRequest) (versionId : Option Uuid) (state : DeskState σ)
    (linked : ∀ version, versionId = some version → state.store.Links caller.org version) :
    Alters journal caller (· = request) (desk.composeFor caller request versionId) state := by
  have submitted : Alters journal caller (· = request)
      (desk.submit caller request versionId) state := by
    rw [submit_eq_commit]
    refine .commit (submission_issues journal caller request)
      (submission_keeps desk caller request) ?_
    rintro ⟨id, now⟩ left ids next _ _ rfl written
    exact .composed request versionId id now rfl linked (silently_ok written)
  obtain ⟨metrics, same⟩ := outcome_composeFor desk caller request versionId state
  unfold Alters
  rw [same]
  exact submitted

/-- A submission leaves blueprints and versions, and all links to them. -/
theorem composeFor_links (desk : Desk σ) (caller : Identity) (request : ComposeRequest)
    (versionId : Option Uuid) (state : DeskState σ) {org : String} {version : Uuid}
    (linked : state.store.Links org version) :
    (outcome (desk.composeFor caller request versionId) state).2.store.Links org version := by
  rcases composeFor_cases desk caller request versionId state with
    ⟨error, left, failed, kept⟩ | ⟨id, now, left, done, -, stored⟩
  · rw [failed]
    simp only [kept]
    exact linked
  · rw [done]
    simp only [stored]
    exact linked

theorem submitAll_alters (journal : Journal desk) (caller : Identity) (entry : BlueprintEntry)
    (body : BlueprintBody) (images : List ImageRequest) (state : DeskState σ)
    (linked : state.store.Links caller.org entry.versionId) :
    Alters journal caller (fun request => ∃ image ∈ images,
      request = blueprintRequest entry body image)
      (desk.submitAll caller entry body images) state := by
  unfold submitAll
  induction images generalizing state with
  | nil => exact .reading (.pure _)
  | cons image rest ih =>
      rw [List.mapM_cons]
      refine .bind (.imp (composeFor_alters journal caller _ _ state ?_) ?_)
        fun created left done => ?_
      · rintro _ ⟨rfl⟩
        exact linked
      · intro request same
        exact ⟨image, List.mem_cons_self, same⟩
      · have kept := composeFor_links desk caller (blueprintRequest entry body image)
          (some entry.versionId) state linked
        rw [done] at kept
        refine .bind ((ih left kept).imp ?_) fun _ _ _ => .reading (.pure _)
        rintro request ⟨other, member, same⟩
        exact ⟨other, List.mem_cons_of_mem image member, same⟩

/-- The versions of a blueprint that is looked up are those of its organization. -/
theorem links_of_getBlueprint {store : Store} {org : String} {id : Uuid} {number : Option Int}
    {entry : BlueprintEntry} (found : store.getBlueprint id org number = .ok entry) :
    store.Links org entry.versionId := by
  obtain ⟨row, version, held, owned, chosen, rfl⟩ := Store.getBlueprint_ok found
  obtain ⟨member, of⟩ := Store.chosenVersion?_mem chosen
  exact ⟨version, member, rfl, row, (Store.blueprint?_mem held).1,
    (Store.blueprint?_mem held).2.trans of.symm, owned⟩

/-- A blueprint that is found is one of the store, which is left as it is. -/
theorem blueprintOf_ok {id : Uuid} {number : Option Int} {state left : DeskState σ}
    {entry : BlueprintEntry}
    (done : outcome (blueprintOf caller id number : Work σ BlueprintEntry) state =
      (.ok entry, left)) :
    left = state ∧ state.store.getBlueprint id caller.org number = .ok entry := by
  obtain ⟨found, middle, looked, checked⟩ := outcome_bind_eq_ok done
  cases looked
  exact ⟨(congrArg Prod.snd checked).symm,
    mapError_eq_ok_iff.mp (congrArg Prod.fst checked)⟩

/-- What is chosen comes from the latest version of the blueprint. -/
theorem choosing_ok {id : Uuid} {selection : ImageSelection} {state left : DeskState σ}
    {entry : BlueprintEntry} {body : BlueprintBody} {images : List ImageRequest}
    (done : outcome (choosing caller id selection : Work σ _) state =
      (.ok ((entry, body), images), left)) :
    left = state ∧ state.store.getBlueprint id caller.org none = .ok entry ∧
      storedBody entry = .ok body ∧ images = body.imageRequests.filter (isSelected selection) ∧
      images ≠ [] := by
  obtain ⟨held, middle, found, read⟩ := outcome_bind_eq_ok done
  obtain ⟨rfl, got⟩ := blueprintOf_ok found
  obtain ⟨stored, last, decoded, picked⟩ := outcome_bind_eq_ok read
  rcases form : storedBody held with error | known
  · rw [form] at decoded
    cases decoded
  · rw [form] at decoded
    cases decoded
    simp only at picked
    split at picked
    · cases picked
    · rename_i some
      cases picked
      exact ⟨rfl, got, form, rfl, by simpa using some⟩

/-- Images are chosen whenever the latest version has selected ones. -/
theorem outcome_choosing {id : Uuid} {selection : ImageSelection} {state : DeskState σ}
    {entry : BlueprintEntry} {body : BlueprintBody}
    (found : state.store.getBlueprint id caller.org none = .ok entry)
    (stored : storedBody entry = .ok body)
    (some : body.imageRequests.filter (isSelected selection) ≠ []) :
    outcome (choosing caller id selection : Work σ _) state =
      (.ok ((entry, body), body.imageRequests.filter (isSelected selection)), state) := by
  have looked : outcome (blueprintOf caller id none : Work σ BlueprintEntry) state =
      (.ok entry, state) :=
    Prod.ext (mapError_eq_ok_iff.mpr found) rfl
  have read : outcome (Work.of (storedBody entry) : Work σ BlueprintBody) state =
      (.ok body, state) :=
    Prod.ext stored rfl
  rw [choosing, outcome_bind_ok looked, outcome_bind_ok read]
  simp [some]

theorem composeBlueprint_alters (journal : Journal desk) (caller : Identity) (id : Uuid)
    (selection : ImageSelection) (state : DeskState σ) :
    Alters journal caller (Operation.Asks state.store caller (.composeBlueprint id selection))
      (desk.composeBlueprint caller id selection) state := by
  rw [composeBlueprint_eq]
  refine .bind (.reading (choosing_keeps journal caller id selection)) ?_
  rintro ⟨⟨entry, body⟩, images⟩ left chosen
  obtain ⟨rfl, got, stored, rfl, -⟩ := choosing_ok chosen
  refine (submitAll_alters journal caller entry body _ left (links_of_getBlueprint got)).imp ?_
  rintro _ ⟨image, member, rfl⟩
  exact .image got stored member

/-- All that an operation does to the store is a sequence of changes. -/
theorem perform_alters (journal : Journal desk) (caller : Identity) (operation : Operation)
    (state : DeskState σ) :
    Alters journal caller (operation.Asks state.store caller)
      (desk.perform caller operation) state := by
  by_cases looks : operation.isReading = true
  · exact .reading (perform_keeps journal caller looks)
  · cases operation with
    | compose request =>
        refine ((composeFor_alters journal caller request none state ?_).imp ?_).map _
        · rintro _ ⟨⟩
        · rintro _ rfl
          exact .compose _
    | deleteCompose id =>
        refine Alters.map ?_ _
        rw [deleteCompose_eq_commit]
        refine .commit (idle_issues journal) (.pure _) ?_
        rintro _ _ _ next _ _ rfl written
        exact .hidden id (silently_ok written)
    | cloneCompose id request =>
        refine Alters.map ?_ _
        rw [cloneCompose_eq_commit]
        refine .commit (copying_issues journal caller id request)
          (copying_keeps desk caller id request) ?_
        rintro ⟨cloneId, now⟩ left ids next _ done rfl written
        exact .cloned id request cloneId now (owns_of_copying done) (silently_ok written)
    | createBlueprint request =>
        refine Alters.map ?_ _
        rw [createBlueprint_eq_commit]
        refine .commit (creation_issues journal caller request)
          (creation_keeps desk caller request) ?_
        rintro ⟨write, now⟩ left ids next _ _ ⟨id, versionId, draft, rfl, rfl⟩ written
        exact .created id versionId draft now (silently_ok written)
    | updateBlueprint id request =>
        refine Alters.map ?_ _
        rw [updateBlueprint_eq_commit]
        refine .commit (revision_issues journal caller id request)
          (revision_keeps desk caller id request) ?_
        rintro ⟨write, now⟩ left ids next number _ ⟨versionId, draft, rfl, rfl⟩ written
        exact .updated id versionId draft now number written
    | deleteBlueprint id =>
        refine Alters.map ?_ _
        rw [deleteBlueprint_eq_commit]
        refine .commit (idle_issues journal) (.pure _) ?_
        rintro _ _ _ next _ _ rfl written
        exact .removed id (silently_ok written)
    | composeBlueprint id selection =>
        exact (composeBlueprint_alters journal caller id selection state).map _
    | composes | composeStatus | composeMetadata | clones | cloneStatus | getBlueprint
    | exportBlueprint | blueprints | blueprintComposes => exact absurd rfl looks

end Desk

end ComposeDesk
