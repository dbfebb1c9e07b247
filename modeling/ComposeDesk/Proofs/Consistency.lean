import ComposeDesk.Proofs.Isolation
import ComposeDesk.Proofs.Store.Run

/-!
# Consistency of the store

The tables of the store know nothing of one another, and no table declares a key.
What holds between them all the same is kept by each operation, and so by every
run in which no identifier is given out twice.
-/

namespace ComposeDesk

/-- What holds within and between the tables of a store. -/
structure Store.Consistent (store : Store) : Prop where
  /-- The versions of a blueprint are numbered from one on, and there is one. -/
  versioned : ∀ blueprint ∈ store.blueprints, ∃ count, 0 < count ∧
    store.numbers blueprint.id = List.range' 1 count
  housed : ∀ version ∈ store.versions, ∃ blueprint ∈ store.blueprints,
    blueprint.id = version.blueprintId
  blueprintIds : (store.blueprints.map (·.id)).Nodup
  versionIds : (store.versions.map (·.id)).Nodup
  /-- No two blueprints of an organization have one name. -/
  named : store.names.Nodup
  parented : ∀ clone ∈ store.clones, ∃ compose ∈ store.composes, compose.id = clone.composeId
  /-- A compose is linked to a version of a blueprint of its own organization. -/
  linked : ∀ compose ∈ store.composes, ∀ version, compose.versionId = some version →
    store.Links compose.org version

theorem Store.Sound.consistent {store : Store} (sound : store.Sound)
    (numbered : store.Numbered) : store.Consistent where
  versioned := numbered.counted
  housed := sound.homes
  blueprintIds := sound.blueprints_unique
  versionIds := sound.versions_unique
  named := numbered.named
  parented := sound.parents
  linked := sound.links

namespace Desk

variable {σ : Type} {desk : Desk σ} {journal : Journal desk}

/-- A call that gives out no identifier twice is a run of writes. -/
theorem serve_leads {state : DeskState σ} {call : Call σ} (tidy : journal.Tidy state)
    (grown : journal.events state.world <+: journal.events call.world)
    (fresh : (journal.issued (desk.serve state call).2.world).Nodup) :
    Store.Leads (fun _ => True) state.store (desk.serve state call).2.store := by
  have found := tidy_found tidy grown
  obtain ⟨ids, issued, changes⟩ := serve_alters journal state call
  have given : (journal.issued call.world ++ ids).Nodup := by
    rw [← issued]
    exact fresh
  exact changes.leads given found.sound found.within

theorem after_leads {state : DeskState σ} {calls : List (Call σ)} (tidy : journal.Tidy state)
    (follows : journal.Follows state calls)
    (fresh : (journal.issued (desk.after state calls).world).Nodup) :
    Store.Leads (fun _ => True) state.store (desk.after state calls).store := by
  -- Fresh identifiers at the end of the run were fresh after each call of it.
  induction calls generalizing state with
  | nil => exact .refl
  | cons call rest ih =>
      obtain ⟨grown, following⟩ := follows
      have soon := fresh.sublist (issued_grows_after following).sublist
      have next := (serve_alters journal state call).tidy (tidy_found tidy grown) soon
      exact (serve_leads tidy grown soon).trans (ih next following fresh)

theorem after_numbered {state : DeskState σ} {calls : List (Call σ)} (tidy : journal.Tidy state)
    (numbered : state.store.Numbered) (follows : journal.Follows state calls)
    (fresh : (journal.issued (desk.after state calls).world).Nodup) :
    (desk.after state calls).store.Numbered :=
  (after_leads tidy follows fresh).numbered numbered tidy.sound.housed

/-- Every run from the empty store in which no identifier is given out twice leaves
a consistent store. -/
theorem tables_consistent (journal : Journal desk) (metrics : Metrics) (world : σ)
    (calls : List (Call σ)) (follows : journal.Follows (start metrics world) calls)
    (fresh : (journal.issued (desk.after (start metrics world) calls).world).Nodup) :
    (desk.after (start metrics world) calls).store.Consistent := by
  have tidy := tidy_after (tidy_start journal metrics world) follows fresh
  have numbered := after_numbered (tidy_start journal metrics world) Store.numbered_empty
    follows fresh
  exact tidy.sound.consistent numbered

/-- Two organizations take the same name, and the first one makes a new version of
its blueprint. -/
def revisions : List (Call (List Uuid × List Event)) :=
  let second : Identity := ⟨"2", "", "", "User", [], ""⟩
  let request : BlueprintRequest := ⟨"web", "", "rhel-9", [], .empty⟩
  let early := [.drew (uniform 1), .drew (uniform 2)]
  [firstCall (.createBlueprint request) [uniform 1, uniform 2] [],
    ⟨second, .createBlueprint request, [uniform 3, uniform 4], early⟩,
    firstCall (.updateBlueprint (uniform 1) request) [uniform 5]
      (early ++ [.drew (uniform 3), .drew (uniform 4)])]

theorem tables_consistent_revisions :
    secluded.watchedJournal.Follows (start .empty ([], [])) revisions ∧
      (secluded.watchedJournal.issued
        (secluded.watched.after (start .empty ([], [])) revisions).world).Nodup ∧
      (secluded.watched.after (start .empty ([], [])) revisions).store.numbers (uniform 1) =
        [1, 2] ∧
      (secluded.watched.after (start .empty ([], [])) revisions).store.names =
        [("1", "web"), ("2", "web")] ∧
      (secluded.watched.after (start .empty ([], [])) revisions).store.Consistent := by
  have follows : secluded.watchedJournal.Follows (start .empty ([], [])) revisions :=
    ⟨⟨_, rfl⟩, ⟨[], rfl⟩, ⟨[], rfl⟩, trivial⟩
  have fresh : (secluded.watchedJournal.issued
      (secluded.watched.after (start .empty ([], [])) revisions).world).Nodup := by decide
  refine ⟨follows, fresh, ?_, ?_, ?_⟩
  · rfl
  · rfl
  · exact tables_consistent secluded.watchedJournal .empty ([], []) revisions follows fresh

end Desk

end ComposeDesk
