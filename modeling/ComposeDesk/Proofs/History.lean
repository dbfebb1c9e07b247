import ComposeDesk.Proofs.Consistency
import ComposeDesk.Proofs.Revision
import ComposeDesk.Proofs.Store.History

/-!
# Histories are kept

Whatever the store was asked to write, and in whatever order, each blueprint has a
history: updates of its owner add to it, all others are refused, and what was
written once is read ever after.
-/

namespace ComposeDesk

variable {σ α β γ : Type}

/-- A caller may not give a blueprint a name: it is not the owner, or another
blueprint of the organization has that name. -/
def Store.Denies (store : Store) (row : BlueprintRow) (caller : Identity) (name : String) : Prop :=
  (row.org ≠ caller.org ∨ row.account ≠ caller.account) ∨
    ∃ other ∈ store.blueprints, other.org = caller.org ∧ other.name = name ∧ other.id ≠ row.id

namespace Desk

/-- Work fails and leaves the store as it is. -/
def Declines (work : Work σ α) (state : DeskState σ) : Prop :=
  ∃ error left, outcome work state = (.error error, left) ∧ left.store = state.store

/-- Work fails if what it comes to write is refused. -/
theorem commit_declines {plan : Work σ β} {write : β → Store → Except StoreFault (Store × γ)}
    {answer : β → γ → α} {state : DeskState σ} (keeps : Keeps DeskState.store plan)
    (refused : ∀ planned left, outcome plan state = (.ok planned, left) →
      ∃ fault, write planned state.store = .error fault) :
    Declines (Work.commit plan write answer) state := by
  rcases Work.commit_cases write answer keeps state with
    ⟨error, left, failed, same⟩ | ⟨planned, left, next, written, ready, wrote, -⟩
  · exact ⟨error, left, failed, same⟩
  · obtain ⟨fault, denied⟩ := refused planned left ready
    cases wrote.symm.trans denied

variable {desk : Desk σ} {caller : Identity} {state : DeskState σ} {row : BlueprintRow}
  {count : Nat}

theorem updateBlueprint_declines (desk : Desk σ) {request : BlueprintRequest}
    (updates : ∀ write now, write.id = row.id → state.store.Updates row count write now)
    (denied : state.store.Denies row caller request.name) :
    Declines (desk.updateBlueprint caller row.id request) state := by
  rw [updateBlueprint_eq_commit]
  refine commit_declines (revision_keeps desk caller row.id request) ?_
  rintro ⟨write, now⟩ left planned
  obtain ⟨draft, middle, versionId, drafted, rfl⟩ := revision_ok planned
  obtain ⟨-, name, -⟩ := draftUpdate_titled drafted
  have becomes := updates (writeOf caller row.id versionId draft) now rfl
  by_cases foreign : row.org ≠ caller.org ∨ row.account ≠ caller.account
  · exact ⟨_, becomes.foreign foreign⟩
  · obtain ⟨org, account⟩ := not_or.mp foreign
    have other := denied.resolve_left foreign
    rw [← name] at other
    exact ⟨_, becomes.taken (not_not.mp org) (not_not.mp account) other⟩

theorem deleteBlueprint_declines
    (refused : state.store.deleteBlueprint row.id caller.org caller.account =
      .error (.notFound .blueprint)) :
    Declines (deleteBlueprint caller row.id : Work σ Unit) state := by
  rw [deleteBlueprint_eq_commit]
  refine commit_declines (.pure _) fun _ _ _ => ⟨.notFound .blueprint, ?_⟩
  rw [silently, refused]
  rfl

end Desk

/-- All that holds of the history of a blueprint. -/
structure Store.History (store : Store) (row : BlueprintRow) (count : Nat) : Prop where
  chronicle : store.Chronicle row count
  updates : ∀ write now, write.id = row.id → store.Updates row count write now
  removal : ∀ org account, row.org ≠ org ∨ row.account ≠ account →
    store.deleteBlueprint row.id org account = .error (.notFound .blueprint)
  declines : ∀ {σ : Type} (desk : Desk σ) (caller : Identity) (state : DeskState σ),
    state.store = store →
    (∀ request : BlueprintRequest, store.Denies row caller request.name →
      Desk.Declines (desk.updateBlueprint caller row.id request) state) ∧
    (row.org ≠ caller.org ∨ row.account ≠ caller.account →
      Desk.Declines (Desk.deleteBlueprint caller row.id : Work σ Unit) state)
  later : ∀ later, Leads (Write.Spares row.id) store later →
    ∀ (number : Int) (entry : BlueprintEntry),
      store.getBlueprint row.id row.org (some number) = .ok entry →
      ∃ name description, later.getBlueprint row.id row.org (some number) =
        .ok (entry.titled name description)

/-- Whatever led to a store, each of its blueprints has a history, and lists agree
with what is read. -/
theorem Store.history_append_only {store : Store} (reached : store.Reached) :
    (∀ row ∈ store.blueprints, ∃ count, store.History row count) ∧
      ∀ org filter, ∀ summary ∈ store.findBlueprints org filter, store.Confirms org summary := by
  have housed := reached.housed
  have numbered := reached.numbered
  refine ⟨fun row member => ?_, fun org filter summary listed => confirms housed numbered listed⟩
  obtain ⟨count, some, counted⟩ := numbered.counted row member
  have told := Store.chronicle housed member counted some
  have becomes : ∀ write now, write.id = row.id → store.Updates row count write now :=
    fun write now same => Store.updates housed member told same now
  have kept : ∀ org account, row.org ≠ org ∨ row.account ≠ account →
      store.deleteBlueprint row.id org account = .error (.notFound .blueprint) := by
    intro org account differs
    have foreign : store.ownsBlueprint row.id org account = false := by
      rw [Bool.eq_false_iff, ne_eq, owns_of_matching housed member, not_and_or]
      exact differs
    simp [deleteBlueprint_eq, foreign]
  refine ⟨count, told, becomes, kept, ?_, fun later leads number entry got => leads.reads got⟩
  rintro σ desk caller state rfl
  exact ⟨fun request denied => Desk.updateBlueprint_declines desk becomes denied,
    fun differs => Desk.deleteBlueprint_declines (kept _ _ differs)⟩

namespace Desk

variable {desk : Desk σ} {journal : Journal desk}

/-- Runs of the desk in which no identifier is given out twice reach their stores by
such writes. -/
theorem reached_after (journal : Journal desk) (metrics : Metrics) (world : σ)
    (calls : List (Call σ)) (follows : journal.Follows (start metrics world) calls)
    (fresh : (journal.issued (desk.after (start metrics world) calls).world).Nodup) :
    (desk.after (start metrics world) calls).store.Reached :=
  after_leads (tidy_start journal metrics world) follows fresh

/-- The store in which a blueprint of an organization has two versions, and another
organization has a blueprint of the same name. -/
def revised : Store := (secluded.watched.after (start .empty ([], [])) revisions).store

theorem history_append_only_revised :
    revised.Reached ∧ revised.numbers (uniform 1) = [1, 2] ∧
      (∀ row ∈ revised.blueprints, ∃ count, revised.History row count) ∧
      ∀ org filter, ∀ summary ∈ revised.findBlueprints org filter,
        revised.Confirms org summary := by
  have follows : secluded.watchedJournal.Follows (start .empty ([], [])) revisions :=
    ⟨⟨_, rfl⟩, ⟨[], rfl⟩, ⟨[], rfl⟩, trivial⟩
  have fresh : (secluded.watchedJournal.issued
      (secluded.watched.after (start .empty ([], [])) revisions).world).Nodup := by decide
  have reached : revised.Reached :=
    reached_after secluded.watchedJournal .empty ([], []) revisions follows fresh
  exact ⟨reached, rfl, Store.history_append_only reached⟩

end Desk

end ComposeDesk
