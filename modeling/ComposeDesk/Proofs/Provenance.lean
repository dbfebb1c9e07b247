import ComposeDesk.Proofs.Consistency
import ComposeDesk.Proofs.Ledger
import ComposeDesk.Proofs.Shown
import ComposeDesk.Proofs.Store.Recount

/-!
# Lists of blueprints and their history

A run tells which composes were made from which blueprint, and from which version of
it: those of the submissions that were accepted while the version was the latest one.
What is listed for a blueprint agrees with that, whatever was composed, written and
removed in between.
-/

namespace ComposeDesk

variable {σ : Type}

/-- Where the compose of an accepted submission comes from. -/
def Submission.origin? (desk : Desk σ) (id : Uuid) (number : Nat) (submission : Submission σ) :
    Option Origin :=
  match submission.answer desk with
  | .ok created => some ⟨created.id, id, number⟩
  | .error _ => none

namespace Desk

/-- The composes that a call made from a blueprint, with its latest version then. -/
def originsOf (desk : Desk σ) (state : DeskState σ) (call : Call σ) : List Origin :=
  match call.operation with
  | .composeBlueprint id _ =>
      match state.store.getBlueprint id call.caller.org none with
      | .ok entry => (desk.submissionsOf state call).filterMap (·.origin? desk id entry.version)
      | .error _ => []
  | _ => []

/-- All composes that a run made from blueprints, in their order. -/
def origins (desk : Desk σ) : DeskState σ → List (Call σ) → List Origin
  | _, [] => []
  | state, call :: rest => desk.originsOf state call ++ desk.origins (desk.serve state call).2 rest

variable {desk : Desk σ} {caller : Identity}

section Submitted

variable {state : DeskState σ} {origins : List Origin}

/-- A submission of no blueprint leaves what composes come from. -/
theorem compose_traces (desk : Desk σ) (caller : Identity) (request : ComposeRequest)
    (traces : state.store.Traces origins) :
    (outcome (desk.composeFor caller request none) state).2.store.Traces origins := by
  rcases composeFor_cases desk caller request none state with
    ⟨error, left, failed, kept⟩ | ⟨id, now, left, done, -, stored⟩
  · rw [failed]
    simp only [kept]
    exact traces
  · rw [done]
    simp only [stored]
    exact traces.append_unlinked rfl

/-- The accepted submissions of images of a version are where their composes come
from. -/
theorem submitAll_traces (desk : Desk σ) (caller : Identity) {entry : BlueprintEntry}
    (body : BlueprintBody) {version : VersionRow} (member : version ∈ state.store.versions)
    (same : version.id = entry.versionId) (traces : state.store.Traces origins)
    (images : List ImageRequest) :
    (outcome (desk.submitAll caller entry body images) state).2.store.Traces
      (origins ++ (desk.submissionsOfImages caller entry body images state).filterMap
        (·.origin? desk version.blueprintId version.number)) := by
  unfold submitAll
  induction images generalizing state origins with
  | nil =>
      rw [submissionsOfImages, List.filterMap_nil, List.append_nil]
      exact traces
  | cons image rest ih =>
      rw [List.mapM_cons]
      have told (answer : Except Error Created) (left : DeskState σ)
          (ran : outcome (desk.composeFor caller (blueprintRequest entry body image)
            (some entry.versionId)) state = (answer, left)) :
          Submission.answer desk ⟨caller, blueprintRequest entry body image,
            some entry.versionId, state⟩ = answer := congrArg Prod.fst ran
      rcases composeFor_cases desk caller (blueprintRequest entry body image)
          (some entry.versionId) state with
        ⟨error, left, failed, kept⟩ | ⟨id, now, left, done, free, stored⟩
      · rw [outcome_bind_error failed, submissionsOfImages_of_error failed, List.filterMap_cons,
          Submission.origin?, told _ _ failed, List.filterMap_nil, List.append_nil]
        simp only [kept]
        exact traces
      · have versions : left.store.versions = state.store.versions := by rw [stored]
        have new : ∀ held ∈ state.store.composes, held.id ≠ (ComposeRow.ofRequest caller
          (blueprintRequest entry body image) (some entry.versionId) id now).id := free
        have added := traces.append new member (congrArg some same.symm)
        have following := ih (versions ▸ member) (stored ▸ added)
        rw [outcome_bind_ok done, submissionsOfImages_of_ok done, List.filterMap_cons,
          Submission.origin?, told _ _ done, List.append_cons, outcome_bind]
        rcases ran : outcome (rest.mapM fun image => desk.composeFor caller
          (blueprintRequest entry body image) (some entry.versionId)) left with
          ⟨error | others, last⟩
        · rw [ran] at following
          exact following
        · rw [ran] at following
          exact following

end Submitted

section Run

variable {journal : Journal desk} {state : DeskState σ} {call : Call σ} {origins : List Origin}

/-- What a call adds to the origins is what it made, if it makes composes of a
blueprint. -/
theorem originsOf_of_chosen {id : Uuid} {selection : ImageSelection} {world : σ}
    {entry : BlueprintEntry} {body : BlueprintBody} {images : List ImageRequest}
    (chosen : outcome (choosing caller id selection) { state with world } =
      (.ok ((entry, body), images), { state with world })) :
    desk.originsOf state ⟨caller, .composeBlueprint id selection, world⟩ =
      (desk.submissionsOfImages caller entry body images { state with world }).filterMap
        (·.origin? desk id entry.version) := by
  obtain ⟨-, found, -⟩ := choosing_ok chosen
  have held : state.store.getBlueprint id caller.org none = .ok entry := found
  simp only [originsOf, held, submissionsOf_of_chosen chosen]

theorem originsOf_of_error {id : Uuid} {selection : ImageSelection} {world : σ} {error : Error}
    {left : DeskState σ}
    (failed : outcome (choosing caller id selection) { state with world } = (.error error, left)) :
    desk.originsOf state ⟨caller, .composeBlueprint id selection, world⟩ = [] := by
  simp only [originsOf, submissionsOf_of_error failed, List.filterMap_nil]
  split <;> rfl

/-- A call that asks for no compose makes none of a blueprint. -/
theorem serve_traces_of_unable (tidy : journal.Tidy state)
    (grown : journal.events state.world <+: journal.events call.world)
    (fresh : (journal.issued (desk.serve state call).2.world).Nodup)
    (heard : ∀ origin ∈ origins, origin.blueprintId ∈ journal.issued state.world)
    (traces : state.store.Traces origins)
    (unable : ∀ request, ¬ call.operation.Asks state.store call.caller request) :
    (desk.serve state call).2.store.Traces origins := by
  have found := tidy_found tidy grown
  obtain ⟨ids, issued, changes⟩ := serve_alters journal state call
  have nodup : (journal.issued call.world ++ ids).Nodup := by
    rw [← issued]
    exact fresh
  exact changes.traces unable nodup found.sound found.within
    (fun origin held => (issued_grows_of_events grown).subset (heard origin held)) traces

/-- After a call composes come from where they came from before, and from what the
call made. -/
theorem serve_traces (tidy : journal.Tidy state)
    (grown : journal.events state.world <+: journal.events call.world)
    (fresh : (journal.issued (desk.serve state call).2.world).Nodup)
    (heard : ∀ origin ∈ origins, origin.blueprintId ∈ journal.issued state.world)
    (traces : state.store.Traces origins) :
    (desk.serve state call).2.store.Traces (origins ++ desk.originsOf state call) := by
  have unable := serve_traces_of_unable tidy grown fresh heard traces
  obtain ⟨caller, operation, world⟩ := call
  cases operation with
  | compose request =>
      rw [originsOf, List.append_nil, serve, perform, outcome_map]
      exact compose_traces desk caller request traces
  | composeBlueprint id selection =>
      rw [serve, perform, outcome_map, composeBlueprint_eq]
      rcases chosen : outcome (choosing caller id selection) { state with world } with
        ⟨error | ⟨⟨entry, body⟩, images⟩, left⟩
      · have kept : left.store = state.store := by
          have keeps := choosing_keeps_store caller id selection { state with world }
          rw [chosen] at keeps
          exact keeps
        rw [outcome_bind_error chosen, originsOf_of_error chosen, List.append_nil]
        exact kept ▸ traces
      · obtain ⟨rfl, found, -⟩ := choosing_ok chosen
        obtain ⟨row, version, -, -, latest, rfl⟩ := Store.getBlueprint_ok found
        obtain ⟨member, home⟩ := Store.latest?_mem latest
        have same : version.id = (Store.blueprintEntry row version).versionId := rfl
        have made := submitAll_traces desk caller body member same traces images
        rw [home] at made
        rw [outcome_bind_ok chosen, originsOf_of_chosen chosen]
        exact made
  | composes | composeStatus | composeMetadata | deleteCompose | cloneCompose | clones
  | cloneStatus | createBlueprint | getBlueprint | exportBlueprint | blueprints
  | updateBlueprint | deleteBlueprint | blueprintComposes =>
      rw [originsOf, List.append_nil]
      refine unable fun request asked => ?_
      cases asked

/-- Composes are made from blueprints that are there. -/
theorem originsOf_heard (tidy : journal.Tidy state) :
    ∀ origin ∈ desk.originsOf state call, origin.blueprintId ∈ journal.issued state.world := by
  intro origin made
  unfold originsOf at made
  split at made
  · rename_i id selection _
    split at made
    · rename_i entry found
      obtain ⟨submission, -, told⟩ := List.mem_filterMap.mp made
      obtain ⟨row, version, held, -⟩ := Store.getBlueprint_ok found
      obtain ⟨member, same⟩ := Store.blueprint?_mem held
      unfold Submission.origin? at told
      split at told
      · cases told
        have there : id ∈ state.store.ids :=
          Store.mem_ids.mpr (.inr (.inr (.inl ⟨row, member, same⟩)))
        exact List.count_pos_iff.mp
          (Nat.lt_of_lt_of_le (List.count_pos_iff.mpr there) (tidy.within id))
      · cases told
    · cases made
  · cases made

theorem after_traces {calls : List (Call σ)} (tidy : journal.Tidy state)
    (follows : journal.Follows state calls)
    (fresh : (journal.issued (desk.after state calls).world).Nodup)
    (heard : ∀ origin ∈ origins, origin.blueprintId ∈ journal.issued state.world)
    (traces : state.store.Traces origins) :
    (desk.after state calls).store.Traces (origins ++ desk.origins state calls) := by
  -- The blueprints of earlier origins stay in the journal, so that none of them is made again.
  induction calls generalizing state origins with
  | nil =>
      rw [Desk.origins, List.append_nil]
      exact traces
  | cons call rest ih =>
      obtain ⟨grown, following⟩ := follows
      have soon := fresh.sublist (issued_grows_after following).sublist
      have next := (serve_alters journal state call).tidy (tidy_found tidy grown) soon
      have later : journal.issued state.world <+:
          journal.issued (desk.serve state call).2.world :=
        (issued_grows_of_events grown).trans (serve_alters journal state call).issued_grows
      rw [Desk.origins, ← List.append_assoc]
      refine ih next following fresh (fun origin held => later.subset ?_)
        (serve_traces tidy grown soon heard traces)
      rcases List.mem_append.mp held with before | made
      · exact heard origin before
      · exact originsOf_heard tidy origin made

end Run

/-! ## Lists -/

/-- Members of the organization of a blueprint get the pages of its lists: of all that
came from it, of what came from the version of a number, and, for minus one, from the
latest version. -/
structure Unrolls (desk : Desk σ) (state : DeskState σ) (blueprint : BlueprintRow) : Prop where
  all : ∀ (caller : Identity) (range : Range), caller.org = blueprint.org →
    Lists (desk.blueprintComposes caller blueprint.id none range) state
      { state with world := (desk.now state.world).2 } range
      (state.store.composesOfBlueprint blueprint.org blueprint.id none
        (desk.now state.world).1 listingWindow) ComposeEntry.ShownAs
  version : ∀ (caller : Identity) (range : Range) (number : Int), caller.org = blueprint.org →
    0 < number →
    Lists (desk.blueprintComposes caller blueprint.id (some number) range) state
      { state with world := (desk.now state.world).2 } range
      (state.store.composesOfBlueprint blueprint.org blueprint.id (some number)
        (desk.now state.world).1 listingWindow) ComposeEntry.ShownAs
  current : ∃ version, state.store.latest? blueprint.id = some version ∧
    ∀ (caller : Identity) (range : Range), caller.org = blueprint.org →
    Lists (desk.blueprintComposes caller blueprint.id (some (-1)) range) state
      { state with world := (desk.now state.world).2 } range
      (state.store.composesOfBlueprint blueprint.org blueprint.id (some version.number)
        (desk.now state.world).1 listingWindow) ComposeEntry.ShownAs

/-- The lists of blueprints match the history of what was made from them. -/
structure Matches (desk : Desk σ) (state : DeskState σ) (origins : List Origin) : Prop where
  unique : (origins.map (·.id)).Nodup
  recounts : ∀ blueprint ∈ state.store.blueprints, ∀ now window,
    state.store.Recounts origins blueprint now window
  orphans : ∀ origin ∈ origins,
    (∀ blueprint ∈ state.store.blueprints, blueprint.id ≠ origin.blueprintId) →
    ∀ now window, state.store.Orphans origin now window
  removal : ∀ (caller : Identity) (id : Uuid) (present : σ) (org : String) (now : Timestamp)
      (window : Int),
    ((desk.serve state ⟨caller, .deleteBlueprint id, present⟩).2.store.activeComposes org now
      window).map ComposeEntry.unlinked =
      (state.store.activeComposes org now window).map ComposeEntry.unlinked
  unrolls : ∀ blueprint ∈ state.store.blueprints, ∀ present : σ,
    desk.Unrolls { state with world := present } blueprint

section Lists

variable {state : DeskState σ} {blueprint : BlueprintRow}

theorem unrolls (desk : Desk σ) (legible : state.store.Legible) (housed : state.store.Housed)
    (numbered : state.store.Numbered) (there : blueprint ∈ state.store.blueprints) :
    desk.Unrolls state blueprint := by
  obtain ⟨count, some, counted⟩ := numbered.counted blueprint there
  obtain ⟨version, latest, -, -⟩ := Store.latest_version counted some
  have found : state.store.getBlueprint blueprint.id blueprint.org none =
      .ok (Store.blueprintEntry blueprint version) :=
    Store.getBlueprint_of_chosen (housed.blueprint? there) latest
  have lists (caller : Identity) (range : Range) (number wanted : Option Int)
      (member : caller.org = blueprint.org)
      (asked : (Store.blueprintEntry blueprint version).wanted number = .ok wanted) :
      Lists (desk.blueprintComposes caller blueprint.id number range) state
        { state with world := (desk.now state.world).2 } range
        (state.store.composesOfBlueprint blueprint.org blueprint.id wanted
          (desk.now state.world).1 listingWindow) ComposeEntry.ShownAs := by
    rw [← member] at found ⊢
    exact blueprintComposes_lists desk legible range found asked
  constructor
  case all => exact fun caller range member => lists caller range none none member rfl
  case version =>
    intro caller range number member positive
    refine lists caller range (.some number) (.some number) member ?_
    have other : number ≠ -1 := by omega
    have least : ¬ number ≤ 0 := by omega
    simp [BlueprintEntry.wanted, requestedVersion, latestVersion, other, least]
  case current =>
    exact ⟨version, latest, fun caller range member => lists caller range _ _ member rfl⟩

/-- Removing a blueprint leaves the list of all composes, apart from the links to it. -/
theorem activeComposes_of_removal (desk : Desk σ) (state : DeskState σ) (caller : Identity)
    (id : Uuid) (present : σ) (org : String) (now : Timestamp) (window : Int) :
    ((desk.serve state ⟨caller, .deleteBlueprint id, present⟩).2.store.activeComposes org now
      window).map ComposeEntry.unlinked =
      (state.store.activeComposes org now window).map ComposeEntry.unlinked := by
  rw [serve, perform, outcome_map, deleteBlueprint, Work.outcome_change]
  rcases deleted : state.store.deleteBlueprint id caller.org caller.account with fault | next
  · rfl
  · exact Store.activeComposes_deleteBlueprint deleted org now window

end Lists

/-- After every run in which no identifier is given out twice, the lists of each blueprint
are what was made from it in the run, version by version, and what was made from
blueprints that are gone is in no list but that of all composes. -/
theorem blueprint_lists_match (journal : Journal desk) (metrics : Metrics) (world : σ)
    (calls : List (Call σ)) (follows : journal.Follows (start metrics world) calls)
    (fresh : (journal.issued (desk.after (start metrics world) calls).world).Nodup) :
    desk.Matches (desk.after (start metrics world) calls)
      (desk.origins (start metrics world) calls) := by
  have tidy := tidy_start journal metrics world
  have sound := (tidy_after tidy follows fresh).sound
  have numbered := after_numbered tidy Store.numbered_empty follows fresh
  have legible : (desk.after (start metrics world) calls).store.Legible :=
    after_legible Store.legible_empty calls
  have traces := after_traces tidy follows fresh
    (fun _ held => absurd held List.not_mem_nil) Store.traces_empty
  rw [List.nil_append] at traces
  constructor
  case unique => exact traces.unique
  case recounts =>
    exact fun blueprint there now window => traces.recounts sound numbered there now window
  case orphans => exact fun origin held gone now window => traces.orphans sound held gone now window
  case removal => exact activeComposes_of_removal desk _
  case unrolls =>
    exact fun blueprint there present => unrolls desk legible sound.housed numbered there

/-- A run in which each call finds the world as the one before has left it. -/
def relay (desk : Desk σ) : DeskState σ → List (Identity × Operation) → List (Call σ)
  | _, [] => []
  | state, (caller, operation) :: rest =>
      ⟨caller, operation, state.world⟩ ::
        desk.relay (desk.serve state ⟨caller, operation, state.world⟩).2 rest

theorem relay_follows (journal : Journal desk) (state : DeskState σ)
    (asked : List (Identity × Operation)) : journal.Follows state (desk.relay state asked) := by
  induction asked generalizing state with
  | nil => trivial
  | cons _ rest ih => exact ⟨List.prefix_rfl, ih _⟩

/-- A desk whose build service takes every order; identifiers come from one list. -/
def supplied : Desk (List Uuid) where
  services :=
    { secluded.services with
      build :=
        { secluded.services.build with
          compose := fun _ => do
            let ids ← get
            set ids.tail
            return ⟨201, ("\x7b\"id\": \"" ++ (ids.headD default).toText ++
              "\"\x7d").toUTF8.toList⟩ } }
  registry :=
    ⟨[("rhel-9", ⟨none, ⟨"rhel-9", "", none, false⟩, some ⟨["guest-image"], []⟩, none⟩)]⟩
  quotas := secluded.quotas
  uploads := secluded.uploads
  now := secluded.now
  drawId := secluded.drawId
  crypt := secluded.crypt

def assembly : List (Call (List Uuid × List Event)) :=
  let member : Identity := ⟨"1", "", "", "User", [], ""⟩
  let request : BlueprintRequest :=
    ⟨"web", "", "rhel-9", [⟨"x86_64", .guestImage, .awsS3, none, none, none⟩], .empty⟩
  supplied.watched.relay (start .empty ([1, 2, 3, 4, 5].map uniform, []))
    [(member, .createBlueprint request), (member, .composeBlueprint (uniform 1) ⟨none⟩),
      (member, .updateBlueprint (uniform 1) request),
      (member, .composeBlueprint (uniform 1) ⟨none⟩)]

theorem blueprint_lists_match_assembly :
    supplied.watchedJournal.Follows (start .empty ([1, 2, 3, 4, 5].map uniform, [])) assembly ∧
      (supplied.watchedJournal.issued (supplied.watched.after
        (start .empty ([1, 2, 3, 4, 5].map uniform, [])) assembly).world).Nodup ∧
      supplied.watched.origins (start .empty ([1, 2, 3, 4, 5].map uniform, [])) assembly =
        [⟨uniform 3, uniform 1, 1⟩, ⟨uniform 5, uniform 1, 2⟩] ∧
      supplied.watched.Matches
        (supplied.watched.after (start .empty ([1, 2, 3, 4, 5].map uniform, [])) assembly)
        (supplied.watched.origins (start .empty ([1, 2, 3, 4, 5].map uniform, [])) assembly) := by
  have follows : supplied.watchedJournal.Follows
      (start .empty ([1, 2, 3, 4, 5].map uniform, [])) assembly :=
    relay_follows supplied.watchedJournal _ _
  have fresh : (supplied.watchedJournal.issued (supplied.watched.after
      (start .empty ([1, 2, 3, 4, 5].map uniform, [])) assembly).world).Nodup := by
    decide +kernel
  have made : supplied.watched.origins (start .empty ([1, 2, 3, 4, 5].map uniform, [])) assembly =
      [⟨uniform 3, uniform 1, 1⟩, ⟨uniform 5, uniform 1, 2⟩] := by
    decide +kernel
  exact ⟨follows, fresh, made,
    blueprint_lists_match supplied.watchedJournal .empty _ assembly follows fresh⟩

end Desk

end ComposeDesk
