import ComposeDesk.Proofs.Lookup
import ComposeDesk.Proofs.Repositories.Ordered

/-!
# Repositories pinned to a date

Two questions pin repositories: one for their entries in the catalog, one for the
snapshots of these.  All that the answers have to meet for the pinning to succeed is
kept together as one record, and from it is made what is pinned.
-/

namespace ComposeDesk

namespace Repositories

/-- The snapshot of an entry is one of those that were answered, under its identifier. -/
theorem snapshotOf?_some {answers : List SnapshotForDate} {uuid : String} {snapshot : SnapshotMatch}
    (found : snapshotOf? answers uuid = some snapshot) : ⟨uuid, some snapshot⟩ ∈ answers := by
  unfold snapshotOf? at found
  obtain ⟨⟨key, held⟩, among, rfl⟩ := Option.bind_eq_some_iff.mp found
  have matching := List.find?_some among
  simp only [Bool.and_eq_true, beq_iff_eq] at matching
  obtain ⟨rfl, -⟩ := matching
  exact List.mem_reverse.mp (List.mem_of_find?_eq_some among)

structure Pin where
  repository : CatalogRepository
  snapshot : SnapshotMatch
deriving DecidableEq, Repr

def Pin.build (pin : Pin) : Build.Repository :=
  pinnedBuild pin.repository pin.snapshot

def Pin.configured (pin : Pin) : CustomRepository :=
  pinnedCustom pin.repository pin.snapshot

/-- A pinned repository needs no entitlement. -/
@[simp]
theorem Pin.build_rhsm (pin : Pin) : pin.build.rhsm = some false := rfl

@[simp]
theorem Pin.build_baseurl (pin : Pin) : pin.build.baseurl = some pin.snapshot.url := rfl

/-- Signatures are checked where the catalog has a key that is not empty. -/
theorem Pin.build_checkGpg_iff (pin : Pin) :
    pin.build.checkGpg = some true ↔ ∃ key, pin.repository.gpgKeyText = some key ∧ key ≠ "" := by
  have made : pin.build.checkGpg = pin.repository.gpgKey.map fun _ => true := rfl
  rw [made, Option.map_eq_some_iff]
  constructor
  · rintro ⟨key, held, -⟩
    obtain ⟨text, filled⟩ := Option.filter_eq_some_iff.mp held
    exact ⟨key, text, of_decide_eq_true filled⟩
  · rintro ⟨key, text, filled⟩
    exact ⟨key, Option.filter_eq_some_iff.mpr ⟨text, decide_eq_true filled⟩, rfl⟩

def pinnedBy (pins : List Pin) : Pinned :=
  ⟨pins.map Pin.build, pins.map Pin.configured⟩

/-- All entries are pinned, in their order, if all have snapshots. -/
theorem pin_ok_iff {answers : List SnapshotForDate} {expected done : Nat}
    {repositories : List CatalogRepository} {pinned : Pinned} :
    pin answers expected done repositories = .ok pinned ↔
      ∃ pins : List Pin, pins.map Pin.repository = repositories ∧
        (∀ pin ∈ pins, snapshotOf? answers pin.repository.uuid = some pin.snapshot) ∧
        pinned = pinnedBy pins := by
  induction repositories generalizing done pinned with
  | nil =>
      constructor
      · intro made
        cases made
        exact ⟨[], rfl, (fun _ held => nomatch held), rfl⟩
      · rintro ⟨pins, none, -, rfl⟩
        rw [List.map_eq_nil_iff.mp none]
        rfl
  | cons repository rest ih =>
      constructor
      · intro made
        rcases found : snapshotOf? answers repository.uuid with _ | snapshot
        · rw [pin, found] at made
          cases made
        · rw [pin, found] at made
          obtain ⟨later, rested, rfl⟩ := map_eq_ok made
          obtain ⟨pins, rfl, snapped, rfl⟩ := ih.mp rested
          refine ⟨⟨repository, snapshot⟩ :: pins, rfl, ?_, rfl⟩
          exact List.forall_mem_cons.mpr ⟨found, snapped⟩
      · rintro ⟨pins, all, snapped, rfl⟩
        obtain ⟨⟨known, snapshot⟩, pins, rfl, rfl, rfl⟩ := List.map_eq_cons_iff.mp all
        obtain ⟨first, later⟩ := List.forall_mem_cons.mp snapped
        have rested : pin answers expected (done + 1) (pins.map Pin.repository) =
            .ok (pinnedBy pins) := ih.mpr ⟨pins, rfl, later, rfl⟩
        rw [pin, first]
        simp only [rested]
        rfl

theorem unpinnable?_eq_none_iff {repositories : List CatalogRepository} :
    unpinnable? repositories = none ↔
      ∀ repository ∈ repositories, repository.snapshot = true := by
  unfold unpinnable?
  rw [Option.map_eq_none_iff, List.find?_eq_none]
  simp

variable {σ : Type}

/-- A question that is answered is answered by the catalog. -/
theorem ask_ok_iff {α : Type} {act : Act σ ServiceFault α} {world left : σ} {a : α} :
    outcome (ask act) world = (.ok a, left) ↔ outcome act world = (.ok a, left) :=
  outcome_adapt_ok_iff

/-- All that has to hold for repositories to be pinned: the answers to both questions,
and the worlds before, between and after them. -/
structure Pinning (services : Downstream σ) (caller : Identity) (urls ids : List String)
    (external : Bool) (date : String) (before after : σ) where
  time : Timestamp
  catalog : Catalog
  /-- The world in which the entries of the catalog are known. -/
  middle : σ
  answers : List SnapshotForDate
  pins : List Pin
  dated : snapshotDate? date = some time
  looked : outcome (services.repositories caller urls ids external) before = (.ok catalog, middle)
  mentioned : ordered catalog urls ids = .ok (pins.map Pin.repository)
  enabled : ∀ pin ∈ pins, pin.repository.snapshot = true
  answered : outcome (services.snapshotsForDate caller time.toSecondText
    ((pins.map Pin.repository).map (·.uuid))) middle = (.ok answers, after)
  snapped : ∀ pin ∈ pins, snapshotOf? answers pin.repository.uuid = some pin.snapshot

variable {services : Downstream σ} {caller : Identity} {urls ids : List String}
  {external : Bool} {date : String} {before after : σ} {pinned : Pinned}

/-- Nothing is pinned without a date. -/
theorem snapshots_undated (undated : snapshotDate? date = none) (world : σ) :
    outcome (snapshots services caller urls ids external date) world =
      (.error (.invalidDate date), world) := by
  unfold snapshots
  rw [undated]
  rfl

/-- Nothing has to be asked if nothing is asked for. -/
theorem snapshots_nil {time : Timestamp} (dated : snapshotDate? date = some time) (world : σ) :
    outcome (snapshots services caller [] [] external date) world = (.ok ⟨[], []⟩, world) := by
  unfold snapshots
  rw [dated]
  rfl

/-- A date that can be read and something to ask for make two questions, one after the
other. -/
theorem snapshots_eq {time : Timestamp} (dated : snapshotDate? date = some time)
    (wanted : urls ≠ [] ∨ ids ≠ []) :
    snapshots services caller urls ids external date =
      (do
        let catalog ← ask (services.repositories caller urls ids external)
        let repositories ← (ordered catalog urls ids : Act σ RepositoryFault _)
        match unpinnable? repositories with
        | some fault => throw fault
        | none =>
            let uuids := repositories.map (·.uuid)
            let found ← ask (services.snapshotsForDate caller time.toSecondText uuids)
            pin found uuids.length 0 repositories) := by
  have some : (urls.isEmpty && ids.isEmpty) = false := by
    rcases wanted with url | id
    · simp [url]
    · simp [id]
  unfold snapshots
  rw [dated]
  simp only [some]
  rfl

namespace Pinning

/-- The two questions of a pinning succeed with its pins. -/
theorem snapshots (pinning : Pinning services caller urls ids external date before after)
    (wanted : urls ≠ [] ∨ ids ≠ []) :
    outcome (Repositories.snapshots services caller urls ids external date) before =
      (.ok (pinnedBy pinning.pins), after) := by
  rw [snapshots_eq pinning.dated wanted, outcome_bind_ok (ask_ok_iff.mpr pinning.looked)]
  have known : outcome (ordered pinning.catalog urls ids : Act σ RepositoryFault _)
      pinning.middle = (.ok (pinning.pins.map Pin.repository), pinning.middle) := by
    rw [pinning.mentioned]
    rfl
  rw [outcome_bind_ok known]
  have all : unpinnable? (pinning.pins.map Pin.repository) = none := by
    rw [unpinnable?_eq_none_iff]
    intro repository held
    obtain ⟨pin, among, rfl⟩ := List.mem_map.mp held
    exact pinning.enabled pin among
  simp only [all]
  rw [outcome_bind_ok (ask_ok_iff.mpr pinning.answered),
    pin_ok_iff.mpr ⟨pinning.pins, rfl, pinning.snapped, rfl⟩]
  rfl

end Pinning

/-- What is pinned is pinned by a pinning, unless nothing was asked for. -/
theorem snapshots_ok_iff :
    outcome (snapshots services caller urls ids external date) before = (.ok pinned, after) ↔
      (urls = [] ∧ ids = [] ∧ (snapshotDate? date).isSome = true ∧
        pinned = ⟨[], []⟩ ∧ after = before) ∨
      ((urls ≠ [] ∨ ids ≠ []) ∧
        ∃ pinning : Pinning services caller urls ids external date before after,
          pinned = pinnedBy pinning.pins) := by
  constructor
  · intro done
    rcases dated : snapshotDate? date with _ | time
    · rw [snapshots_undated dated] at done
      cases done
    · by_cases nothing : urls = [] ∧ ids = []
      · obtain ⟨rfl, rfl⟩ := nothing
        rw [snapshots_nil dated] at done
        cases done
        exact .inl ⟨rfl, rfl, rfl, rfl, rfl⟩
      · have wanted := not_and_or.mp nothing
        rw [snapshots_eq dated wanted] at done
        obtain ⟨catalog, middle, looked, done⟩ := outcome_bind_eq_ok done
        obtain ⟨repositories, _, known, done⟩ := outcome_bind_eq_ok done
        cases all : unpinnable? repositories with
        | some fault =>
            rw [all] at done
            cases done
        | none =>
            rw [all] at done
            obtain ⟨answers, _, answered, made⟩ := outcome_bind_eq_ok done
            obtain ⟨mentioned, rfl⟩ := Prod.mk.inj known
            obtain ⟨pinning, rfl⟩ := Prod.mk.inj made
            obtain ⟨pins, rfl, snapped, rfl⟩ := pin_ok_iff.mp pinning
            refine .inr ⟨wanted, ⟨time, catalog, middle, answers, pins, dated,
              ask_ok_iff.mp looked, mentioned, ?_, ask_ok_iff.mp answered, snapped⟩, rfl⟩
            intro pin among
            exact unpinnable?_eq_none_iff.mp all _ (List.mem_map_of_mem among)
  · rintro (⟨rfl, rfl, dated, rfl, rfl⟩ | ⟨wanted, pinning, rfl⟩)
    · obtain ⟨time, read⟩ := Option.isSome_iff_exists.mp dated
      exact snapshots_nil read after
    · exact pinning.snapshots wanted

end Repositories

/-- Services of which only the catalog answers: it knows some repositories, and a
snapshot of each at every date. -/
def Downstream.mirroring (known : List CatalogRepository) : Downstream Unit :=
  { Downstream.unreachable with
    repositories := fun _ _ _ _ => pure (Catalog.ofList known)
    snapshotsForDate := fun _ _ uuids =>
      pure (uuids.map fun uuid => ⟨uuid, some ⟨"", "https://snap/" ++ uuid, none⟩⟩) }

def CatalogRepository.mirrored (uuid url : String) : CatalogRepository :=
  ⟨uuid, none, some url, some "external", true, some "key", none, none, none⟩

end ComposeDesk
