import ComposeDesk.Proofs.Store.Mirror
import ComposeDesk.Proofs.Unknown

/-!
# Isolation of organizations

What an organization is answered in a run does not depend on what others do in
it.  A run is followed beside the run of one organization alone: the store of
the second holds the rows of that organization in the first.  Nothing is asked
of the identifiers but that none is given out twice.
-/

namespace ComposeDesk

variable {σ α β γ : Type} {desk : Desk σ}

/-- A state whose store is sound and holds only what was given out. -/
structure Journal.Tidy (journal : Journal desk) (state : DeskState σ) : Prop where
  sound : state.store.Sound
  within : state.store.Within (journal.issued state.world)

/-- A state beside that of an organization alone. -/
structure DeskState.Shadow (org : String) (full own : DeskState σ) : Prop where
  store : own.store = full.store.only org
  world : full.world = own.world

/-- In a run the journal is only added to, between calls as well. -/
def Journal.Follows (journal : Journal desk) : DeskState σ → List (Call σ) → Prop
  | _, [] => True
  | state, call :: rest =>
      journal.events state.world <+: journal.events call.world ∧
        journal.Follows (desk.serve state call).2 rest

namespace Store

variable {caller : Identity} {asked : ComposeRequest → Prop} {given : List Uuid}
  {store next : Store} {org : String}

/-- Changes for an organization leave the rows of every other one. -/
theorem Changes.only_of_ne {issued : List Uuid} (changes : Changes caller asked given store next)
    (nodup : (issued ++ given).Nodup) (sound : store.Sound) (within : store.Within issued)
    (other : caller.org ≠ org) : next.only org = store.only org := by
  induction changes with
  | none => rfl
  | step before change ih =>
      rw [← List.append_assoc] at nodup
      have earlier := (List.nodup_append.mp nodup).1
      obtain ⟨soundThen, withinThen⟩ := before.sound earlier sound within
      rw [change.only_of_ne soundThen (withinThen.fresh nodup) other]
      exact ih earlier sound within

end Store

namespace Desk

variable {journal : Journal desk} {caller : Identity} {org : String} {full own : DeskState σ}

namespace Alters

variable {asked : ComposeRequest → Prop} {work : Work σ α} {state : DeskState σ}

theorem tidy (alters : Alters journal caller asked work state) (before : journal.Tidy state)
    (nodup : (journal.issued (outcome work state).2.world).Nodup) :
    journal.Tidy (outcome work state).2 := by
  obtain ⟨ids, issued, changes⟩ := alters
  rw [issued] at nodup
  obtain ⟨sound, within⟩ := changes.sound nodup before.sound before.within
  exact ⟨sound, by rwa [issued]⟩

theorem only_of_ne (alters : Alters journal caller asked work state) (before : journal.Tidy state)
    (nodup : (journal.issued (outcome work state).2.world).Nodup) (other : caller.org ≠ org) :
    (outcome work state).2.store.only org = state.store.only org := by
  obtain ⟨ids, issued, changes⟩ := alters
  rw [issued] at nodup
  exact changes.only_of_ne nodup before.sound before.within other

/-- What was given out stays in the journal. -/
theorem issued_grows (alters : Alters journal caller asked work state) :
    journal.issued state.world <+: journal.issued (outcome work state).2.world := by
  obtain ⟨ids, issued, -⟩ := alters
  rw [issued]
  exact List.prefix_append _ _

end Alters

theorem silently_only {write : Store → Except StoreFault Store} {store : Store}
    (same : write (store.only org) = (write store).map (·.only org)) :
    silently write (store.only org) = (silently write store).map (Store.onlyOf org) := by
  unfold silently
  rw [same]
  cases write store <;> rfl

/-- Work answers the same in a state and in that of the caller's organization
alone, as long as no identifier is given out twice. -/
def Mirrored (journal : Journal desk) (caller : Identity) (work : Work σ α)
    (full own : DeskState σ) : Prop :=
  (journal.issued (outcome work full).2.world).Nodup →
    (outcome work full).1 = (outcome work own).1 ∧
      DeskState.Shadow caller.org (outcome work full).2 (outcome work own).2

namespace Mirrored

theorem of_agree {work : Work σ α}
    (agree : Agree (DeskState.Related .ignored (Store.Mirror caller.org) Eq) work work)
    (tidy : journal.Tidy full) (shadow : DeskState.Shadow caller.org full own) :
    Mirrored journal caller work full own := by
  intro _
  obtain ⟨same, ⟨-, store⟩, world, -⟩ :=
    agree full own ⟨⟨tidy.sound, shadow.store⟩, shadow.world, trivial⟩
  exact ⟨same, store, world⟩

theorem map {work : Work σ α} (mirrored : Mirrored journal caller work full own) (f : α → β) :
    Mirrored journal caller (f <$> work) full own := by
  unfold Mirrored
  rw [outcome_map, outcome_map]
  intro nodup
  obtain ⟨same, shadow⟩ := mirrored nodup
  exact ⟨congrArg (Except.map f) same, shadow⟩

theorem bind {work : Work σ α} {next : α → Work σ β}
    (first : Mirrored journal caller work full own)
    (grows : ∀ a left, outcome work full = (.ok a, left) →
      journal.issued left.world <+: journal.issued (outcome (next a) left).2.world)
    (rest : ∀ a left right, outcome work full = (.ok a, left) →
      (journal.issued left.world).Nodup → DeskState.Shadow caller.org left right →
        Mirrored journal caller (next a) left right) :
    Mirrored journal caller (work >>= next) full own := by
  unfold Mirrored at first ⊢
  rcases done : outcome work full with ⟨error | a, left⟩
  · rcases ran : outcome work own with ⟨answered, right⟩
    rw [done, ran] at first
    rw [outcome_bind_error done]
    intro nodup
    obtain ⟨rfl, shadow⟩ := first nodup
    rw [outcome_bind_error ran]
    exact ⟨rfl, shadow⟩
  · rcases ran : outcome work own with ⟨answered, right⟩
    rw [done, ran] at first
    rw [outcome_bind_ok done]
    intro nodup
    have earlier := nodup.sublist (grows a left done).sublist
    obtain ⟨rfl, shadow⟩ := first earlier
    rw [outcome_bind_ok ran]
    exact rest a left right done earlier shadow nodup

theorem commit {plan : Work σ β} {write : β → Store → Except StoreFault (Store × γ)}
    {answer : β → γ → α} {told : β → List Uuid → Prop}
    (agree : Agree (DeskState.Related .ignored (Store.Mirror caller.org) Eq) plan plan)
    (keeps : Keeps DeskState.store plan) (issues : Issues journal plan told)
    (tidy : journal.Tidy full) (shadow : DeskState.Shadow caller.org full own)
    (same : ∀ planned left ids, outcome plan full = (.ok planned, left) → told planned ids →
      (full.store.ids ++ ids).Nodup →
        write planned (full.store.only caller.org) =
          (write planned full.store).map (Store.onlyOf caller.org)) :
    Mirrored journal caller (Work.commit plan write answer) full own := by
  intro nodup
  rw [Work.commit_world] at nodup
  obtain ⟨ids, issued, yields⟩ := issues full
  rw [issued] at nodup
  have agreed := agree full own ⟨⟨tidy.sound, shadow.store⟩, shadow.world, trivial⟩
  have kept := keeps full
  rw [Work.outcome_commit, Work.outcome_commit]
  rcases done : outcome plan full with ⟨error | planned, left⟩
  · rcases ran : outcome plan own with ⟨answered, right⟩
    rw [done, ran] at agreed
    obtain ⟨rfl, ⟨-, store⟩, world, -⟩ := agreed
    exact ⟨rfl, store, world⟩
  · rcases ran : outcome plan own with ⟨answered, right⟩
    rw [done, ran] at agreed
    rw [done] at kept yields
    obtain ⟨rfl, ⟨-, store⟩, world, -⟩ := agreed
    have wrote := same planned left ids done (yields planned rfl) (tidy.within.fresh nodup)
    simp only at kept store ⊢
    rw [store, kept, wrote]
    rcases write planned full.store with fault | ⟨next, written⟩
    · exact ⟨rfl, store, world⟩
    · exact ⟨rfl, rfl, world⟩

end Mirrored

/-! ## Operations of the organization -/

theorem composeFor_mirrored (request : ComposeRequest) (versionId : Option Uuid)
    (tidy : journal.Tidy full) (shadow : DeskState.Shadow caller.org full own) :
    Mirrored journal caller (desk.composeFor caller request versionId) full own := by
  have submitted : Mirrored journal caller (desk.submit caller request versionId) full own := by
    rw [submit_eq_commit]
    refine .commit (submission_agree (Store.views_mirror _).toLists desk.alike_self.toAsksAlike
      desk.actsAlike_self request) (submission_keeps desk caller request) (submission_issues journal caller request)
      tidy shadow ?_
    rintro ⟨id, now⟩ left ids - rfl fresh
    refine silently_only (Store.insertCompose_only tidy.sound rfl fun held member taken => ?_)
    have new := Store.new_of_fresh fresh (List.mem_singleton_self id)
    exact new (Store.mem_ids.mpr (.inl ⟨held, member, taken⟩))
  obtain ⟨metrics, counted⟩ := outcome_composeFor desk caller request versionId full
  obtain ⟨others, countedOwn⟩ := outcome_composeFor desk caller request versionId own
  unfold Mirrored
  rw [counted, countedOwn]
  intro nodup
  obtain ⟨same, store, world⟩ := submitted nodup
  exact ⟨same, store, world⟩

/-- Images are submitted one by one, each in states beside one another. -/
theorem submitAll_mirrored (entry : BlueprintEntry) (body : BlueprintBody)
    (images : List ImageRequest) (tidy : journal.Tidy full)
    (shadow : DeskState.Shadow caller.org full own)
    (linked : full.store.Links caller.org entry.versionId) :
    Mirrored journal caller (desk.submitAll caller entry body images) full own := by
  induction images generalizing full own with
  | nil => exact fun _ => ⟨rfl, shadow⟩
  | cons image rest ih =>
      unfold submitAll
      rw [List.mapM_cons]
      have linkedTo : ∀ version, some entry.versionId = some version →
          full.store.Links caller.org version := by
        rintro _ ⟨rfl⟩
        exact linked
      have alters := composeFor_alters journal caller (blueprintRequest entry body image)
        (some entry.versionId) full linkedTo
      have links := composeFor_links desk caller (blueprintRequest entry body image)
        (some entry.versionId) full linked
      refine .bind (composeFor_mirrored _ _ tidy shadow) ?_ ?_
      · intro created left done
        rw [done] at links
        exact (Alters.bind (submitAll_alters journal caller entry body rest left links)
          fun _ _ _ => .reading (.pure _)).issued_grows
      · intro created left right done earlier shadow
        have tidyThen := alters.tidy tidy
        rw [done] at links tidyThen
        refine .bind (ih (tidyThen earlier) shadow links) ?_ ?_
        · exact fun _ _ _ => List.prefix_refl _
        · exact fun _ _ _ _ _ shadow _ => ⟨rfl, shadow⟩

/-- What an organization does, it does to its own rows alone. -/
theorem perform_mirrored (operation : Operation) (tidy : journal.Tidy full)
    (shadow : DeskState.Shadow caller.org full own) :
    Mirrored journal caller (desk.perform caller operation) full own := by
  have views := Store.views_mirror caller.org
  by_cases looks : operation.isReading = true
  · exact .of_agree (perform_agree views desk.alike_self.toAsksAlike looks) tidy shadow
  · cases operation with
    | compose request => exact (composeFor_mirrored request none tidy shadow).map _
    | deleteCompose id =>
        refine Mirrored.map ?_ _
        rw [deleteCompose_eq_commit]
        refine .commit (.pure _) (.pure _) (idle_issues journal) tidy shadow ?_
        exact fun _ _ _ _ _ _ => silently_only (Store.deleteCompose_only tidy.sound id)
    | cloneCompose id request =>
        refine Mirrored.map ?_ _
        rw [cloneCompose_eq_commit]
        refine .commit (copying_agree views.toLists desk.alike_self.toAsksAlike desk.actsAlike_self id
          request)
          (copying_keeps desk caller id request) (copying_issues journal caller id request)
          tidy shadow ?_
        rintro ⟨cloneId, now⟩ left ids done - -
        exact silently_only (Store.insertClone_only tidy.sound (owns_of_copying done))
    | createBlueprint request =>
        refine Mirrored.map ?_ _
        rw [createBlueprint_eq_commit]
        refine .commit (creation_agree desk.alike_self desk.actsAlike_self request)
          (creation_keeps desk caller request) (creation_issues journal caller request)
          tidy shadow ?_
        rintro ⟨write, now⟩ left ids - ⟨id, versionId, draft, rfl, rfl⟩ fresh
        exact silently_only (Store.insertBlueprint_only tidy.sound
          (rfl : (writeOf caller id versionId draft).org = caller.org)
          (Store.blueprint_new fresh List.mem_cons_self) now)
    | updateBlueprint id request =>
        refine Mirrored.map ?_ _
        rw [updateBlueprint_eq_commit]
        refine .commit (revision_agree views desk.alike_self desk.actsAlike_self id request)
          (revision_keeps desk caller id request) (revision_issues journal caller id request)
          tidy shadow ?_
        rintro ⟨write, now⟩ left ids - ⟨versionId, draft, rfl, rfl⟩ -
        exact Store.updateBlueprint_only tidy.sound rfl now
    | deleteBlueprint id =>
        refine Mirrored.map ?_ _
        rw [deleteBlueprint_eq_commit]
        refine .commit (.pure _) (.pure _) (idle_issues journal) tidy shadow ?_
        exact fun _ _ _ _ _ _ =>
          silently_only (Store.deleteBlueprint_only tidy.sound id caller.account)
    | composeBlueprint id selection =>
        refine Mirrored.map ?_ _
        rw [composeBlueprint_eq]
        refine .bind (.of_agree (choosing_agree views id selection) tidy shadow) ?_ ?_
        · rintro ⟨⟨entry, body⟩, images⟩ left chosen
          obtain ⟨rfl, got, -⟩ := choosing_ok chosen
          exact (submitAll_alters journal caller entry body images left
            (links_of_getBlueprint got)).issued_grows
        · rintro ⟨⟨entry, body⟩, images⟩ left right chosen - beside
          obtain ⟨rfl, got, -⟩ := choosing_ok chosen
          exact submitAll_mirrored entry body images tidy beside (links_of_getBlueprint got)
    | composes | composeStatus | composeMetadata | clones | cloneStatus | getBlueprint
    | exportBlueprint | blueprints | blueprintComposes => exact absurd rfl looks

/-! ## Runs -/

theorem issued_grows_of_events {world left : σ}
    (grown : journal.events world <+: journal.events left) :
    journal.issued world <+: journal.issued left := by
  obtain ⟨more, same⟩ := grown
  rw [Journal.issued, Journal.issued, ← same, List.filterMap_append]
  exact List.prefix_append _ _

/-- Between two calls the world may change, but nothing is taken back. -/
theorem tidy_found {state : DeskState σ} {call : Call σ} (tidy : journal.Tidy state)
    (grown : journal.events state.world <+: journal.events call.world) :
    journal.Tidy { state with world := call.world } where
  sound := tidy.sound
  within id := Nat.le_trans (tidy.within id)
    ((issued_grows_of_events grown).sublist.count_le id)

theorem serve_alters (journal : Journal desk) (state : DeskState σ) (call : Call σ) :
    Alters journal call.caller (call.operation.Asks state.store call.caller)
      (desk.perform call.caller call.operation)
      { state with world := call.world } :=
  perform_alters journal call.caller call.operation _

/-- What was given out before a run is in the journal after it. -/
theorem issued_grows_after {state : DeskState σ} {calls : List (Call σ)}
    (follows : journal.Follows state calls) :
    journal.issued state.world <+: journal.issued (desk.after state calls).world := by
  induction calls generalizing state with
  | nil => exact List.prefix_refl _
  | cons call rest ih =>
      obtain ⟨grown, following⟩ := follows
      exact (issued_grows_of_events grown).trans
        ((serve_alters journal state call).issued_grows.trans (ih following))

/-- Every run under identifiers that are given out only once ends in a tidy
state. -/
theorem tidy_after {state : DeskState σ} {calls : List (Call σ)} (tidy : journal.Tidy state)
    (follows : journal.Follows state calls)
    (fresh : (journal.issued (desk.after state calls).world).Nodup) :
    journal.Tidy (desk.after state calls) := by
  induction calls generalizing state with
  | nil => exact tidy
  | cons call rest ih =>
      obtain ⟨grown, following⟩ := follows
      have soon := fresh.sublist (issued_grows_after following).sublist
      exact ih ((serve_alters journal state call).tidy (tidy_found tidy grown) soon) following fresh

/-- The answers to an organization in a run are those in the run of its calls
alone, beside the state of that organization alone. -/
theorem trace_filter {calls : List (Call σ)} (tidy : journal.Tidy full)
    (follows : journal.Follows full calls)
    (fresh : (journal.issued (desk.after full calls).world).Nodup)
    (same : own.store = full.store.only org) :
    (desk.trace full calls).filter (fun answered => answered.1.caller.org = org) =
      desk.trace own (calls.filter fun call => call.caller.org = org) := by
  induction calls generalizing full own with
  | nil => rfl
  | cons call rest ih =>
      obtain ⟨grown, following⟩ := follows
      have found := tidy_found tidy grown
      have alters := serve_alters journal full call
      have soon := fresh.sublist (issued_grows_after following).sublist
      have next := alters.tidy found soon
      by_cases mine : call.caller.org = org
      · subst mine
        have shadow : DeskState.Shadow call.caller.org { full with world := call.world }
            { own with world := call.world } := ⟨same, rfl⟩
        obtain ⟨answered, kept⟩ := perform_mirrored call.operation found shadow soon
        rw [trace, List.filter_cons_of_pos (by simp), List.filter_cons_of_pos (by simp), trace]
        refine congr (congrArg List.cons (Prod.ext rfl answered)) ?_
        exact ih next following fresh kept.store
      · rw [trace, List.filter_cons_of_neg (by simpa using mine),
          List.filter_cons_of_neg (by simpa using mine)]
        refine ih next following fresh ?_
        rw [same]
        exact (alters.only_of_ne found soon mine).symm

theorem tidy_start (journal : Journal desk) (metrics : Metrics) (world : σ) :
    journal.Tidy (start metrics world) :=
  ⟨Store.sound_empty, fun _ => Nat.zero_le _⟩

/-- Taking the calls of all other organizations out of a run leaves the answers
to an organization as they were, as long as no identifier is given out twice.
In particular an identifier of another organization gets the answer that one
gets which was never given out. -/
theorem isolation (journal : Journal desk) (metrics : Metrics) (world : σ)
    (calls : List (Call σ)) (org : String)
    (follows : journal.Follows (start metrics world) calls)
    (fresh : (journal.issued (desk.after (start metrics world) calls).world).Nodup) :
    (desk.trace (start metrics world) calls).filter
        (fun answered => answered.1.caller.org = org) =
      desk.trace (start metrics world) (calls.filter fun call => call.caller.org = org) ∧
    ∀ (call : Call σ) (other : String) (theirs never : Uuid),
      other ≠ call.caller.org →
      (desk.after (start metrics world) calls).store.Owned other theirs →
      never ∉ journal.issued (desk.after (start metrics world) calls).world →
        (desk.serve (desk.after (start metrics world) calls)
            { call with operation := call.operation.retarget theirs }).1 =
          (desk.serve (desk.after (start metrics world) calls)
            { call with operation := call.operation.retarget never }).1 := by
  have tidy := tidy_start journal metrics world
  refine ⟨trace_filter tidy follows fresh rfl, ?_⟩
  intro call other theirs never apart owned new
  have reached := tidy_after tidy follows fresh
  obtain ⟨result, same⟩ := perform_of_unknown desk call.caller call.operation
    { desk.after (start metrics world) calls with world := call.world }
  have foreign := Store.not_owned_of_other reached.sound apart owned
  have unheard : ¬ (desk.after (start metrics world) calls).store.Owned call.caller.org never := by
    refine Store.not_owned_of_new fun held => new ?_
    exact List.count_pos_iff.mp
      (Nat.lt_of_lt_of_le (List.count_pos_iff.mpr held) (reached.within never))
  exact congrArg Prod.fst ((same theirs foreign).trans (same never unheard).symm)

/-- A desk whose services are out of reach; identifiers are drawn from a list. -/
def secluded : Desk (List Uuid) where
  services :=
    { build :=
        { compose := fun _ => throw .http
          composeStatus := fun _ => throw .http
          composeMetadata := fun _ => throw .http
          cloneCompose := fun _ _ => throw .http
          cloneStatus := fun _ => throw .http
          openapi := throw .http }
      uploadInfo := fun _ _ => throw .http
      repositories := fun _ _ _ _ => throw .http
      snapshotsForDate := fun _ _ _ => throw .http
      policyData := fun _ _ _ _ => throw .http }
  registry := ⟨[]⟩
  quotas := .disabled
  uploads := ⟨"us-east-1", "us", none⟩
  now := pure ⟨0, 0⟩
  drawId := fun ids => (ids.headD default, ids.tail)
  crypt := pure

def uniform (digit : Nat) : Uuid :=
  ⟨List.replicate 32 (Text.lastHexDigit digit), by simp⟩

def firstCall (operation : Operation) (drawn : List Uuid) (before : List Event) :
    Call (List Uuid × List Event) :=
  ⟨⟨"1", "", "", "User", [], ""⟩, operation, drawn, before⟩

/-- Two organizations take the same name, and both try to delete what the first
one made. -/
def visits : List (Call (List Uuid × List Event)) :=
  let second : Identity := ⟨"2", "", "", "User", [], ""⟩
  let request : BlueprintRequest := ⟨"web", "", "rhel-9", [], .empty⟩
  let early := [.drew (uniform 1), .drew (uniform 2)]
  let late := early ++ [.drew (uniform 3), .drew (uniform 4)]
  [firstCall (.createBlueprint request) [uniform 1, uniform 2] [],
    ⟨second, .createBlueprint request, [uniform 3, uniform 4], early⟩,
    ⟨second, .deleteBlueprint (uniform 1), [], late⟩,
    firstCall (.deleteBlueprint (uniform 1)) [] late]

theorem isolation_visits :
    secluded.watchedJournal.Follows (start .empty ([], [])) visits ∧
      (secluded.watchedJournal.issued
        (secluded.watched.after (start .empty ([], [])) visits).world).Nodup ∧
      (secluded.watched.trace (start .empty ([], [])) visits).filter
          (fun answered => answered.1.caller.org = "1") =
        secluded.watched.trace (start .empty ([], []))
          (visits.filter fun call => call.caller.org = "1") ∧
      (secluded.watched.after (start .empty ([], [])) visits).store.Owned "2" (uniform 3) ∧
      uniform 9 ∉ secluded.watchedJournal.issued
        (secluded.watched.after (start .empty ([], [])) visits).world ∧
      (secluded.watched.serve (secluded.watched.after (start .empty ([], [])) visits)
          (firstCall (.deleteBlueprint (uniform 3)) [] [])).1 =
        (secluded.watched.serve (secluded.watched.after (start .empty ([], [])) visits)
          (firstCall (.deleteBlueprint (uniform 9)) [] [])).1 := by
  have follows : secluded.watchedJournal.Follows (start .empty ([], [])) visits :=
    ⟨⟨_, rfl⟩, ⟨[], rfl⟩, ⟨[], rfl⟩, ⟨[], rfl⟩, trivial⟩
  have fresh : (secluded.watchedJournal.issued
      (secluded.watched.after (start .empty ([], [])) visits).world).Nodup := by decide
  have owned : (secluded.watched.after (start .empty ([], [])) visits).store.Owned "2"
      (uniform 3) := by
    unfold Store.Owned
    decide
  have never : uniform 9 ∉ secluded.watchedJournal.issued
      (secluded.watched.after (start .empty ([], [])) visits).world := by decide
  obtain ⟨alone, unknown⟩ := isolation secluded.watchedJournal .empty ([], []) visits "1"
    follows fresh
  exact ⟨follows, fresh, alone, owned, never,
    unknown (firstCall (.deleteBlueprint (uniform 3)) [] []) "2" (uniform 3) (uniform 9)
      (by decide) owned never⟩

end Desk

end ComposeDesk
