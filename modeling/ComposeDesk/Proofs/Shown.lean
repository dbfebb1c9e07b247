import ComposeDesk.Proofs.Itemwise
import ComposeDesk.Proofs.Remembered

/-!
# Stored documents are shown

Whatever callers are shown of what is stored is read from the stored documents,
and all of these can be read.  So a list never fails for a row, and a compose is
always shown with the request of its caller, but for passwords.
-/

namespace ComposeDesk

def ComposeEntry.item (entry : ComposeEntry) (request : ComposeRequest) : ComposeItem where
  id := entry.id
  createdAt := entry.createdAt
  imageName := entry.imageName
  request := request
  clientId := entry.clientId
  blueprintId := entry.blueprintId
  blueprintVersion := entry.blueprintVersion.map (Int32.ofNat ·)

/-- An item shows the request of which the document is stored. -/
def ComposeEntry.ShownAs (entry : ComposeEntry) (item : ComposeItem) : Prop :=
  ∃ request : ComposeRequest, entry.request = ComposeRequest.codec.write request.redacted ∧
    item = entry.item request.redacted

def CloneRow.ShownAs (row : CloneRow) (item : CloneItem) : Prop :=
  ∃ request : CloneRequest, row.request = CloneRequest.codec.write request ∧
    item = ⟨row.id, row.composeId, request, row.createdAt⟩

def BlueprintEntry.view (entry : BlueprintEntry) (body : BlueprintBody) : BlueprintView where
  id := entry.id
  name := entry.name
  description := entry.description
  version := Int32.ofNat entry.version
  distribution := body.distribution
  imageRequests := body.imageRequests
  customizations := body.customizations
  modifiedAt := entry.modifiedAt

namespace Desk

theorem storedRequest_ok {entry : ComposeEntry} {request : ComposeRequest}
    (document : entry.request = ComposeRequest.codec.write request.redacted) :
    storedRequest entry = .ok request.redacted := by
  simp only [storedRequest, document, ComposeRequest.codec_sound.faithful request.redacted,
    ComposeRequest.redacted_redacted]

theorem composeItem_ok {entry : ComposeEntry} {request : ComposeRequest}
    (document : entry.request = ComposeRequest.codec.write request.redacted) :
    composeItem entry = .ok (entry.item request.redacted) := by
  rw [composeItem, storedRequest_ok document]
  rfl

theorem cloneItem_ok {row : CloneRow} {request : CloneRequest}
    (document : row.request = CloneRequest.codec.write request) :
    cloneItem row = .ok ⟨row.id, row.composeId, request, row.createdAt⟩ := by
  simp only [cloneItem, document, CloneRequest.codec_sound.faithful request]

theorem storedBody_ok {entry : BlueprintEntry} {body : BlueprintBody}
    (document : entry.body = BlueprintBody.codec.write body) : storedBody entry = .ok body := by
  rw [storedBody, document, BlueprintBody.codec_sound.faithful body]
  rfl

end Desk

theorem mem_range {α : Type} (range : Range) {items : List α} {a : α}
    (held : a ∈ (range.of items).1) : a ∈ items :=
  List.mem_of_mem_drop (List.mem_of_mem_take held)

namespace Store

variable {store : Store} {org : String} {now : Timestamp} {window : Int}

/-- What is listed are composes of the store. -/
theorem activeComposes_mem {entry : ComposeEntry}
    (listed : entry ∈ store.activeComposes org now window) :
    ∃ row ∈ store.composes, entry = store.entry row := by
  unfold activeComposes newestFirst at listed
  obtain ⟨row, held, rfl⟩ := List.mem_map.mp (List.mem_mergeSort.mp listed)
  exact ⟨row, (List.mem_filter.mp held).1, rfl⟩

theorem composesOfBlueprint_mem {id : Uuid} {number : Option Int} {entry : ComposeEntry}
    (listed : entry ∈ store.composesOfBlueprint org id number now window) :
    ∃ row ∈ store.composes, entry = store.entry row :=
  activeComposes_mem (List.mem_filter.mp listed).1

theorem clonesOf_mem {id : Uuid} {row : CloneRow} (listed : row ∈ store.clonesOf id org) :
    row ∈ store.clones := by
  unfold clonesOf at listed
  split at listed
  · exact (List.mem_filter.mp (List.mem_mergeSort.mp listed)).1
  · cases listed

/-- Of every compose in the store there is an item. -/
theorem Legible.composeItem (legible : store.Legible) {entry : ComposeEntry}
    (held : ∃ row ∈ store.composes, entry = store.entry row) :
    ∃ item, Desk.composeItem entry = .ok item ∧ entry.ShownAs item := by
  obtain ⟨row, member, rfl⟩ := held
  obtain ⟨request, document⟩ := legible.composes row.fixed (List.mem_map_of_mem member)
  exact ⟨_, Desk.composeItem_ok document, request, document, rfl⟩

theorem Legible.cloneItem (legible : store.Legible) {row : CloneRow} (held : row ∈ store.clones) :
    ∃ item, Desk.cloneItem row = .ok item ∧ row.ShownAs item := by
  obtain ⟨request, document⟩ := legible.clones row held
  exact ⟨_, Desk.cloneItem_ok document, request, document, rfl⟩

theorem Legible.body (legible : store.Legible) {id : Uuid} {number : Option Int}
    {entry : BlueprintEntry} (found : store.getBlueprint id org number = .ok entry) :
    ∃ body, entry.body = BlueprintBody.codec.write body := by
  obtain ⟨row, version, -, -, chosen, rfl⟩ := getBlueprint_ok found
  exact legible.versions version (chosenVersion?_mem chosen).1

end Store

namespace Desk

variable {σ : Type} {desk : Desk σ} {state : DeskState σ}

/-- How far the image of a compose has come, as the build service tells. -/
def progress (desk : Desk σ) (id : Uuid) : Work σ ImageStatus := do
  let reply ← Work.ask ServiceFault.error (desk.services.build.composeStatus id)
  let reply ← Work.of (known "Compose" id "Failed querying compose status" reply)
  let status ← Work.check ServiceFault.error (reply.decode Build.ComposeStatus.codec)
  Work.of (imageStatus status.image)

/-- Work lists the part of some rows that is asked for, each as an item that shows
it, with the number of all rows. -/
def Lists {ρ ι : Type} (work : Work σ (List ι × Nat)) (state left : DeskState σ) (range : Range)
    (rows : List ρ) (shown : ρ → ι → Prop) : Prop :=
  ∃ items, outcome work state = (.ok (items, rows.length), left) ∧
    (range.of rows).1.Forall₂ shown items

/-- Nothing fails for a document that is stored: all rows that are asked for are
shown, each with what was written for it. -/
structure Displays (desk : Desk σ) (state : DeskState σ) : Prop where
  composes : ∀ (caller : Identity) (range : Range),
    Lists (desk.composes caller range) state { state with world := (desk.now state.world).2 } range
      (state.store.activeComposes caller.org (desk.now state.world).1 listingWindow)
      ComposeEntry.ShownAs
  blueprintComposes : ∀ (caller : Identity) (id : Uuid) (number wanted : Option Int)
      (range : Range) (entry : BlueprintEntry),
    state.store.getBlueprint id caller.org none = .ok entry → entry.wanted number = .ok wanted →
    Lists (desk.blueprintComposes caller id number range) state
      { state with world := (desk.now state.world).2 } range
      (state.store.composesOfBlueprint caller.org id wanted (desk.now state.world).1 listingWindow)
      ComposeEntry.ShownAs
  clones : ∀ (caller : Identity) (id : Uuid) (range : Range),
    Lists (clones caller id range) state state range (state.store.clonesOf id caller.org)
      CloneRow.ShownAs
  blueprint : ∀ (caller : Identity) (id : Uuid) (number wanted : Option Int)
      (entry : BlueprintEntry),
    requestedVersion number = .ok wanted →
    state.store.getBlueprint id caller.org wanted = .ok entry →
    ∃ body, entry.body = BlueprintBody.codec.write body ∧
      outcome (getBlueprint caller id number) state = (.ok (entry.view body.redacted), state)

/-- Wherever a compose is shown, it is shown with a request. -/
structure Shows (desk : Desk σ) (state : DeskState σ) (id : Uuid) (request : ComposeRequest) :
    Prop where
  status : ∀ (caller : Identity) (entry : ComposeEntry),
    state.store.getCompose id caller.org = .ok entry →
    outcome (desk.composeStatus caller id) state =
      outcome ((fun image => ⟨image, request⟩) <$> desk.progress id) state
  composes : ∀ (caller : Identity) (range : Range) (items : List ComposeItem) (total : Nat)
      (left : DeskState σ),
    outcome (desk.composes caller range) state = (.ok (items, total), left) →
    ∀ item ∈ items, item.id = id → item.request = request
  blueprintComposes : ∀ (caller : Identity) (blueprint : Uuid) (number : Option Int)
      (range : Range) (items : List ComposeItem) (total : Nat) (left : DeskState σ),
    outcome (desk.blueprintComposes caller blueprint number range) state =
      (.ok (items, total), left) →
    ∀ item ∈ items, item.id = id → item.request = request

theorem composes_lists (desk : Desk σ) (legible : state.store.Legible) (caller : Identity)
    (range : Range) :
    Lists (desk.composes caller range) state { state with world := (desk.now state.world).2 } range
      (state.store.activeComposes caller.org (desk.now state.world).1 listingWindow)
      ComposeEntry.ShownAs := by
  obtain ⟨items, read, each⟩ := mapM_ok fun entry held =>
    legible.composeItem (Store.activeComposes_mem (mem_range range held))
  refine ⟨items, ?_, each⟩
  simp only [composes, outcome_bind, Work.outcome_outside, Work.outcome_look, Work.outcome_of, read]
  rfl

theorem outcome_blueprintOf {caller : Identity} {id : Uuid} {number : Option Int}
    {entry : BlueprintEntry} (found : state.store.getBlueprint id caller.org number = .ok entry) :
    outcome (blueprintOf caller id number : Work σ BlueprintEntry) state = (.ok entry, state) :=
  Prod.ext (mapError_eq_ok_iff.mpr found) rfl

theorem blueprintComposes_lists (desk : Desk σ) (legible : state.store.Legible)
    {caller : Identity} {id : Uuid} {number wanted : Option Int} (range : Range)
    {entry : BlueprintEntry} (found : state.store.getBlueprint id caller.org none = .ok entry)
    (asked : entry.wanted number = .ok wanted) :
    Lists (desk.blueprintComposes caller id number range) state
      { state with world := (desk.now state.world).2 } range
      (state.store.composesOfBlueprint caller.org id wanted (desk.now state.world).1 listingWindow)
      ComposeEntry.ShownAs := by
  obtain ⟨items, read, each⟩ := mapM_ok fun entry held =>
    legible.composeItem (Store.composesOfBlueprint_mem (mem_range range held))
  refine ⟨items, ?_, each⟩
  have chosen : outcome (Work.of (entry.wanted number) : Work σ (Option Int)) state =
      (.ok wanted, state) := Prod.ext asked rfl
  rw [blueprintComposes_eq, outcome_bind_ok (outcome_blueprintOf found), outcome_bind_ok chosen]
  simp only [composesOf, outcome_bind, Work.outcome_outside, Work.outcome_look, Work.outcome_of,
    read]
  rfl

/-- Composes of a blueprint are listed only if it is found, for a version that may
be asked for. -/
theorem of_blueprintComposes_ok {caller : Identity} {id : Uuid} {number : Option Int}
    {range : Range} {listed : List ComposeItem × Nat} {left : DeskState σ}
    (done : outcome (desk.blueprintComposes caller id number range) state = (.ok listed, left)) :
    ∃ entry wanted, state.store.getBlueprint id caller.org none = .ok entry ∧
      entry.wanted number = .ok wanted := by
  rw [blueprintComposes_eq] at done
  obtain ⟨entry, middle, found, following⟩ := outcome_bind_eq_ok done
  obtain ⟨rfl, got⟩ := blueprintOf_ok found
  obtain ⟨wanted, _, chosen, -⟩ := outcome_bind_eq_ok following
  exact ⟨entry, wanted, got, (Work.of_ok chosen).1⟩

theorem clones_lists (legible : state.store.Legible) (caller : Identity) (id : Uuid)
    (range : Range) :
    Lists (clones caller id range) state state range (state.store.clonesOf id caller.org)
      CloneRow.ShownAs := by
  obtain ⟨items, read, each⟩ := mapM_ok fun row held =>
    legible.cloneItem (Store.clonesOf_mem (mem_range range held))
  refine ⟨items, ?_, each⟩
  simp only [clones, outcome_bind, Work.outcome_look, Work.outcome_of, read]
  rfl

theorem outcome_getBlueprint (legible : state.store.Legible) {caller : Identity} {id : Uuid}
    {number wanted : Option Int} {entry : BlueprintEntry}
    (asked : requestedVersion number = .ok wanted)
    (found : state.store.getBlueprint id caller.org wanted = .ok entry) :
    ∃ body, entry.body = BlueprintBody.codec.write body ∧
      outcome (getBlueprint caller id number) state = (.ok (entry.view body.redacted), state) := by
  obtain ⟨body, document⟩ := legible.body found
  refine ⟨body, document, ?_⟩
  have chosen : outcome (Work.of (requestedVersion number) : Work σ (Option Int)) state =
      (.ok wanted, state) := Prod.ext asked rfl
  have stored : outcome (Work.of (storedBody entry) : Work σ BlueprintBody) state =
      (.ok body, state) := Prod.ext (storedBody_ok document) rfl
  rw [getBlueprint, outcome_bind_ok chosen, outcome_bind_ok (outcome_blueprintOf found),
    outcome_bind_ok stored]
  rfl

theorem displays_of_legible (desk : Desk σ) (legible : state.store.Legible) :
    desk.Displays state where
  composes := composes_lists desk legible
  blueprintComposes _ _ _ _ range _ found asked :=
    blueprintComposes_lists desk legible range found asked
  clones := clones_lists legible
  blueprint _ _ _ _ _ asked found := outcome_getBlueprint legible asked found

variable {org : String} {id : Uuid} {request : ComposeRequest}

/-- An item of a stored compose has the request that is told of it. -/
theorem request_of_shownAs (legible : state.store.Legible)
    (told : state.store.Tells org id request) {entries : List ComposeEntry}
    {items : List ComposeItem} (each : entries.Forall₂ ComposeEntry.ShownAs items)
    (stored : ∀ entry ∈ entries, ∃ row ∈ state.store.composes, entry = state.store.entry row)
    {item : ComposeItem} (held : item ∈ items) (same : item.id = id) :
    item.request = request.redacted := by
  induction each with
  | nil => cases held
  | @cons entry first _ _ shown _ ih =>
      cases held with
      | tail _ later => exact ih (fun other member => stored other (.tail entry member)) later
      | head =>
          obtain ⟨row, member, rfl⟩ := stored entry List.mem_cons_self
          obtain ⟨wanted, document, rfl⟩ := shown
          have kept : row.request = _ := legible.request_eq told member same
          exact ComposeRequest.codec_sound.injective (document.symm.trans kept)

theorem shows_of_tells (desk : Desk σ) (legible : state.store.Legible)
    (told : state.store.Tells org id request) : desk.Shows state id request.redacted where
  status caller entry found := by
    obtain ⟨row, member, same, -, -, rfl⟩ := Store.getCompose_ok found
    have document : (state.store.entry row).request = _ := legible.request_eq told member same
    have looked : outcome (composeOf caller id : Work σ ComposeEntry) state =
        (.ok (state.store.entry row), state) := Prod.ext (mapError_eq_ok_iff.mpr found) rfl
    have read : (Work.of (storedRequest (state.store.entry row)) : Work σ ComposeRequest) =
        pure request.redacted := by
      rw [storedRequest_ok document]
      rfl
    rw [composeStatus, outcome_bind_ok looked, progress, map_eq_pure_bind]
    simp only [bind_assoc, read, pure_bind]
  composes caller range items total left listed item held same := by
    obtain ⟨others, done, each⟩ := composes_lists desk legible caller range
    rw [listed] at done
    cases done
    exact request_of_shownAs legible told each
      (fun entry member => Store.activeComposes_mem (mem_range range member)) held same
  blueprintComposes caller blueprint number range items total left listed item held same := by
    obtain ⟨entry, wanted, found, asked⟩ := of_blueprintComposes_ok listed
    obtain ⟨others, done, each⟩ := blueprintComposes_lists desk legible range found asked
    rw [listed] at done
    cases done
    exact request_of_shownAs legible told each
      (fun entry member => Store.composesOfBlueprint_mem (mem_range range member)) held same

/-! ### Runs -/

/-- Requests without passwords, bodies of blueprints and requests to copy are read
back from their documents, in whatever order these keep the members of objects.
So in every state that a run leads to, all stored documents are shown.  Each
compose is shown with a request that a call of the run asked for, and one that was
answered for with the request of its call, without the passwords of users. -/
theorem stored_bodies (desk : Desk σ) (metrics : Metrics) (world : σ) :
    (∀ (request : ComposeRequest) (doc : Json),
      (ComposeRequest.codec.write request.redacted).Reordered doc →
        ComposeRequest.codec.read doc = .ok request.redacted) ∧
    (∀ (body : BlueprintBody) (doc : Json), (BlueprintBody.codec.write body).Reordered doc →
      BlueprintBody.codec.read doc = .ok body) ∧
    (∀ (request : CloneRequest) (doc : Json), (CloneRequest.codec.write request).Reordered doc →
      CloneRequest.codec.read doc = .ok request) ∧
    ∀ (calls : List (Call σ)) (state : DeskState σ),
      state.store = (desk.after (start metrics world) calls).store →
        desk.Displays state ∧
        (∀ row ∈ state.store.composes, ∃ request,
          desk.Asked (start metrics world) calls row.org request ∧
          desk.Shows state row.id request.redacted) ∧
        ∀ earlier call later, calls = earlier ++ call :: later →
          (∀ request created, call.operation = .compose request →
            (desk.serve (desk.after (start metrics world) earlier) call).1 =
              .ok (.created created) →
            desk.Shows state created.id request.redacted) ∧
          ∀ id selection created, call.operation = .composeBlueprint id selection →
            (desk.serve (desk.after (start metrics world) earlier) call).1 =
              .ok (.createdAll created) →
            ∃ entry body,
              (desk.after (start metrics world) earlier).store.getBlueprint id
                call.caller.org none = .ok entry ∧
              storedBody entry = .ok body ∧
              (body.imageRequests.filter (isSelected selection)).Forall₂ (fun image made =>
                desk.Shows state made.id (blueprintRequest entry body image).redacted) created := by
  refine ⟨fun request => ComposeRequest.codec_sound.reads request.redacted,
    BlueprintBody.codec_sound.reads, CloneRequest.codec_sound.reads, ?_⟩
  intro calls state reached
  have legible : state.store.Legible := by
    rw [reached]
    exact after_legible Store.legible_empty calls
  have later_tells (earlier : List (Call σ)) (call : Call σ) (later : List (Call σ))
      (split : calls = earlier ++ call :: later) {org : String} {id : Uuid}
      {request : ComposeRequest}
      (told : (desk.serve (desk.after (start metrics world) earlier) call).2.store.Tells org id
        request) : state.store.Tells org id request := by
    rw [reached, split, after_append]
    exact after_tells told later
  refine ⟨displays_of_legible desk legible, ?rows, ?answers⟩
  case rows =>
    intro row held
    have part : row.fixed ∈ (desk.after (start metrics world) calls).store.fixed := by
      rw [← reached]
      exact List.mem_map_of_mem held
    rcases after_of_fixed part with none | ⟨request, asked, document⟩
    · cases none
    · have told : state.store.Tells row.org row.id request := by
        unfold Store.Tells
        rw [← document, reached]
        exact part
      exact ⟨request, asked, shows_of_tells desk legible told⟩
  case answers =>
    intro earlier call later split
    constructor
    · intro request created operation answered
      have told := tells_of_compose operation answered
      exact shows_of_tells desk legible (later_tells earlier call later split told)
    · intro id selection created operation answered
      obtain ⟨entry, body, found, stored, each⟩ := tells_of_composeBlueprint operation answered
      refine ⟨entry, body, found, stored, each.imp fun image made told => ?_⟩
      exact shows_of_tells desk legible (later_tells earlier call later split told)

end Desk

end ComposeDesk
