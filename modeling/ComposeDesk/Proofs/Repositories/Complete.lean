import ComposeDesk.Proofs.Repositories.Pinning
import Mathlib.Data.List.Permutation

/-!
# Pinned base repositories are complete

The base repositories of an image are pinned one for one.  What is compared is only
how many were found and how many apply; but each of them adds at most one entry of
the catalog, and so the numbers agree only if each has added one of its own.
-/

namespace ComposeDesk

namespace Repositories

def pinnedOf (architecture : Architecture) (type : ImageType) : List DistributionRepository :=
  architecture.repositories.filter fun repository =>
    repository.appliesTo type && !(repository.isTaggedFor type && !repository.rhsm)

variable {architecture : Architecture} {type : ImageType}

/-- The URLs that are looked up are those that the repositories to be pinned have. -/
theorem pinnedUrls_eq :
    pinnedUrls architecture type =
      (pinnedOf architecture type).filterMap DistributionRepository.baseurl := by
  unfold pinnedUrls pinnedOf
  rw [List.filterMap_filter]
  apply List.filterMap_congr
  intro repository _
  cases repository.isTaggedFor type && !repository.rhsm <;>
    cases repository.appliesTo type <;> rfl

theorem appliesTo_of_isTaggedFor {repository : DistributionRepository}
    (tagged : repository.isTaggedFor type = true) : repository.appliesTo type = true := by
  unfold DistributionRepository.appliesTo
  rw [tagged, Bool.or_true]

/-- Each repository that is for an image type is either one of others or to be pinned. -/
theorem perm_applicable (architecture : Architecture) (type : ImageType) :
    (thirdParty architecture type ++ pinnedOf architecture type).Perm
      (architecture.repositories.filter (·.appliesTo type)) := by
  have others : thirdParty architecture type =
      (architecture.repositories.filter (·.appliesTo type)).filter fun repository =>
        repository.isTaggedFor type && !repository.rhsm := by
    unfold thirdParty
    rw [List.filter_filter]
    apply List.filter_congr
    intro repository _
    cases tagged : repository.isTaggedFor type with
    | false => rfl
    | true => rw [appliesTo_of_isTaggedFor tagged, Bool.and_true]
  have rest : pinnedOf architecture type =
      (architecture.repositories.filter (·.appliesTo type)).filter fun repository =>
        !(repository.isTaggedFor type && !repository.rhsm) := by
    unfold pinnedOf
    rw [List.filter_filter]
    apply List.filter_congr
    intro repository _
    exact Bool.and_comm _ _
  rw [others, rest]
  exact List.filter_append_perm _ _

theorem length_baseOf (architecture : Architecture) (type : ImageType) :
    (baseOf architecture type).length =
      (thirdParty architecture type).length + (pinnedOf architecture type).length := by
  unfold baseOf
  rw [List.length_map, ← (perm_applicable architecture type).length_eq, List.length_append]

/-- A repository is pinned to the snapshot of an enabled entry of the catalog that has
its URL. -/
structure PinnedTo (catalog : Catalog) (answers : List SnapshotForDate)
    (repository : DistributionRepository) (pin : Pin) : Prop where
  found : ∃ url held, repository.baseurl = some url ∧
    findUrl? catalog url = some pin.repository ∧
    pin.repository.url = some held ∧ SameButSlashes held url
  known : pin.repository ∈ catalog.map (·.2)
  enabled : pin.repository.snapshot = true
  answered : ⟨pin.repository.uuid, some pin.snapshot⟩ ∈ answers

/-- Entries are as many as the repositories that are looked for by URL only if each of
these has a URL and has added the entry of it. -/
theorem forall₂_of_length {catalog : Catalog} {repositories : List DistributionRepository}
    {entries : List CatalogRepository}
    (listed : ordered catalog (repositories.filterMap DistributionRepository.baseurl) [] =
      .ok entries)
    (full : entries.length = repositories.length) :
    repositories.Forall₂ (fun repository known =>
      ∃ url, repository.baseurl = some url ∧ findUrl? catalog url = some known) entries := by
  obtain ⟨byUrl, byId, urls, none, rfl⟩ := ordered_ok_iff.mp listed
  cases none
  rw [List.append_nil] at full ⊢
  have addressed := List.length_filterMap_le DistributionRepository.baseurl repositories
  have added := length_foldl_addNew_le [] byUrl
  have looked := urls.length_eq
  rw [List.length_nil, Nat.zero_add] at added
  have each : ∀ repository ∈ repositories, repository.baseurl.isSome = true :=
    List.filterMap_length_eq_length.mp (by omega)
  have kept : byUrl.foldl addNew [] = [] ++ byUrl := by
    apply foldl_addNew_of_length
    rw [List.length_nil]
    omega
  rw [kept, List.nil_append]
  have own := forall₂_filterMap fun repository held =>
    Option.isSome_iff_exists.mp (each repository held)
  exact forall₂_trans (fun _ url _ given known => ⟨url, given, known⟩) own urls

variable {σ : Type} {services : Downstream σ} {caller : Identity} {date : String}
  {before after : σ} {result : List Build.Repository}

/-- The pinning of all repositories that are to be pinned, which is one of each. -/
structure Completion (services : Downstream σ) (caller : Identity) (architecture : Architecture)
    (type : ImageType) (date : String) (before after : σ) extends
    Pinning services caller (pinnedUrls architecture type) [] false date before after where
  complete : (pinnedOf architecture type).Forall₂ (PinnedTo catalog answers) pins
  distinct : (pins.map (·.repository.uuid)).Nodup

/-- A pinning with as many pins as there are repositories to be pinned is complete. -/
def Pinning.completion
    (pinning : Pinning services caller (pinnedUrls architecture type) [] false date before after)
    (full : pinning.pins.length = (pinnedOf architecture type).length) :
    Completion services caller architecture type date before after where
  toPinning := pinning
  complete := by
    have listed : ordered pinning.catalog
        ((pinnedOf architecture type).filterMap DistributionRepository.baseurl) [] =
          .ok (pinning.pins.map Pin.repository) := by
      rw [← pinnedUrls_eq]
      exact pinning.mentioned
    have each := forall₂_of_length listed (by rw [List.length_map, full])
    rw [List.forall₂_map_right_iff] at each
    have facts : ∀ pin ∈ pinning.pins, pin.repository.snapshot = true ∧
        snapshotOf? pinning.answers pin.repository.uuid = some pin.snapshot := fun pin held =>
      ⟨pinning.enabled pin held, pinning.snapped pin held⟩
    have both := ((List.forall₂_and_left _ _).mpr ⟨facts, each.flip⟩).flip
    refine both.imp ?_
    rintro repository pin ⟨⟨enabled, snapped⟩, url, given, found⟩
    obtain ⟨known, held, form, same⟩ := findUrl?_some found
    exact ⟨⟨url, held, given, found, form, same⟩, known, enabled, snapshotOf?_some snapped⟩
  distinct := by
    have listed := ordered_nodup pinning.mentioned
    rw [List.map_map] at listed
    exact listed

namespace Completion

variable (completion : Completion services caller architecture type date before after)

def repositories : List Build.Repository :=
  (thirdParty architecture type).map base ++ completion.pins.map Pin.build

theorem length_repositories :
    completion.repositories.length = (baseOf architecture type).length := by
  unfold repositories
  rw [List.length_append, List.length_map, List.length_map, length_baseOf,
    completion.complete.length_eq]

/-- Each repository to be pinned has its pin. -/
theorem pinned {repository : DistributionRepository}
    (member : repository ∈ pinnedOf architecture type) :
    ∃ pin, PinnedTo completion.catalog completion.answers repository pin := by
  obtain ⟨pin, -, pinned⟩ := exists_of_forall₂ completion.complete member
  exact ⟨pin, pinned⟩

include completion in
theorem pinnedUrls_ne_nil (some : pinnedOf architecture type ≠ []) :
    pinnedUrls architecture type ≠ [] := by
  obtain ⟨repository, member⟩ := List.exists_mem_of_ne_nil _ some
  obtain ⟨pin, pinned⟩ := completion.pinned member
  obtain ⟨url, _, given, -⟩ := pinned.found
  rw [pinnedUrls_eq]
  exact List.ne_nil_of_mem (List.mem_filterMap.mpr ⟨repository, member, given⟩)

end Completion

/-! ## Resolution -/

/-- The repositories of others and the snapshots must be as many as apply. -/
theorem outcome_resolve {pinned : Pinned}
    (snapped : outcome (snapshots services caller (pinnedUrls architecture type) [] false date)
      before = (.ok pinned, after)) :
    outcome (resolve services caller architecture type (some date)) before =
      if ((thirdParty architecture type).map base ++ pinned.build).length =
          (baseOf architecture type).length then
        (.ok ((thirdParty architecture type).map base ++ pinned.build), after)
      else
        (.error (.missingSnapshots
          ((thirdParty architecture type).map base ++ pinned.build).length
          (baseOf architecture type).length), after) := by
  refine (outcome_bind_ok snapped _).trans ?_
  by_cases full : ((thirdParty architecture type).map base ++ pinned.build).length =
      (baseOf architecture type).length
  · simp only [full, ne_eq, not_true_eq_false, if_false, if_true]
    rfl
  · simp only [full, ne_eq, not_false_eq_true, if_true, if_false]
    rfl

theorem resolve_undated (undated : snapshotDate? date = none) (world : σ) :
    outcome (resolve services caller architecture type (some date)) world =
      (.error (.invalidDate date), world) :=
  outcome_bind_error (snapshots_undated undated world) _

/-- With a date, resolution succeeds exactly if nothing is to be pinned or all that is
to be pinned is pinned. -/
theorem resolve_ok_iff :
    outcome (resolve services caller architecture type (some date)) before =
        (.ok result, after) ↔
      (pinnedOf architecture type = [] ∧ (snapshotDate? date).isSome = true ∧
        result = (thirdParty architecture type).map base ∧ after = before) ∨
      (pinnedOf architecture type ≠ [] ∧
        ∃ completion : Completion services caller architecture type date before after,
          result = completion.repositories) := by
  constructor
  · intro done
    obtain ⟨pinned, middle, snapped, -⟩ := outcome_bind_eq_ok done
    rw [outcome_resolve snapped] at done
    split at done
    · rename_i full
      cases done
      rw [List.length_append, List.length_map, length_baseOf, Nat.add_left_cancel_iff] at full
      rcases snapshots_ok_iff.mp snapped with ⟨none, -, dated, rfl, rfl⟩ | ⟨wanted, pinning, rfl⟩
      · have nothing := List.eq_nil_of_length_eq_zero full.symm
        exact .inl ⟨nothing, dated, List.append_nil _, rfl⟩
      · have pins : pinning.pins.length = (pinnedOf architecture type).length := by
          rw [← full]
          exact (List.length_map Pin.build).symm
        refine .inr ⟨?_, pinning.completion pins, rfl⟩
        intro nothing
        rw [pinnedUrls_eq, nothing] at wanted
        simp at wanted
    · cases done
  · rintro (⟨nothing, dated, rfl, rfl⟩ | ⟨some, completion, rfl⟩)
    · have none : pinnedUrls architecture type = [] := by
        rw [pinnedUrls_eq, nothing]
        rfl
      have snapped : outcome (snapshots services caller (pinnedUrls architecture type) [] false
          date) after = (.ok ⟨[], []⟩, after) :=
        snapshots_ok_iff.mpr (.inl ⟨none, rfl, dated, rfl, rfl⟩)
      have full : ((thirdParty architecture type).map base ++ []).length =
          (baseOf architecture type).length := by
        rw [List.append_nil, List.length_map, length_baseOf, nothing]
        rfl
      rw [outcome_resolve snapped, if_pos full, List.append_nil]
    · have urls := completion.pinnedUrls_ne_nil some
      have snapped := completion.snapshots (.inl urls)
      have full := completion.length_repositories
      unfold Completion.repositories at full
      rw [outcome_resolve snapped]
      exact if_pos full

/-- Why a repository cannot be pinned: it has no URL, the catalog does not know the
URL, or what it knows under the URL has no snapshots, or none that is answered. -/
inductive Unpinnable (services : Downstream σ) (caller : Identity) (architecture : Architecture)
    (type : ImageType) (date : String) (before : σ) (repository : DistributionRepository) :
    Prop where
  | baseless (none : repository.baseurl = none)
  | unknown {catalog : Catalog} {middle : σ} {url : String}
      (looked : outcome (services.repositories caller (pinnedUrls architecture type) [] false)
        before = (.ok catalog, middle))
      (given : repository.baseurl = some url)
      (none : ∀ known ∈ catalog.map (·.2), ∀ held, known.url = some held →
        ¬ SameButSlashes held url)
  | disabled {catalog : Catalog} {middle : σ} {url : String} {known : CatalogRepository}
      (looked : outcome (services.repositories caller (pinnedUrls architecture type) [] false)
        before = (.ok catalog, middle))
      (given : repository.baseurl = some url) (found : findUrl? catalog url = some known)
      (off : known.snapshot = false)
  | missing {catalog : Catalog} {middle : σ} {url : String} {known : CatalogRepository}
      (looked : outcome (services.repositories caller (pinnedUrls architecture type) [] false)
        before = (.ok catalog, middle))
      (given : repository.baseurl = some url) (found : findUrl? catalog url = some known)
      (none : ∀ time entries answers after, snapshotDate? date = some time →
        ordered catalog (pinnedUrls architecture type) [] = .ok entries →
        outcome (services.snapshotsForDate caller time.toSecondText (entries.map (·.uuid)))
          middle = (.ok answers, after) →
        ∀ snapshot, ⟨known.uuid, some snapshot⟩ ∉ answers)

/-- Where one repository cannot be pinned, not all are. -/
theorem Completion.not_unpinnable
    (completion : Completion services caller architecture type date before after)
    {repository : DistributionRepository} (member : repository ∈ pinnedOf architecture type) :
    ¬ Unpinnable services caller architecture type date before repository := by
  obtain ⟨pin, pinned⟩ := completion.pinned member
  obtain ⟨url, _, given, found, -⟩ := pinned.found
  intro unpinnable
  cases unpinnable with
  | baseless none =>
      rw [none] at given
      cases given
  | unknown looked named none =>
      cases looked.symm.trans completion.looked
      cases named.symm.trans given
      cases (findUrl?_eq_none_iff.mpr none).symm.trans found
  | disabled looked named known off =>
      cases looked.symm.trans completion.looked
      cases named.symm.trans given
      cases known.symm.trans found
      rw [pinned.enabled] at off
      cases off
  | missing looked named known none =>
      cases looked.symm.trans completion.looked
      cases named.symm.trans given
      cases known.symm.trans found
      exact none _ _ _ _ completion.dated completion.mentioned completion.answered _
        pinned.answered

/-- Pinned base repositories are complete.  Resolution with a date succeeds exactly if
nothing is to be pinned or each repository to be pinned has a pin of its own, in their
order; together with those of others these are all that apply.  A date that cannot be
read and a repository that cannot be pinned are errors. -/
theorem resolve_complete (services : Downstream σ) (caller : Identity)
    (architecture : Architecture) (type : ImageType) (date : String) (before : σ) :
    (∀ result after,
      outcome (resolve services caller architecture type (some date)) before =
          (.ok result, after) ↔
        (pinnedOf architecture type = [] ∧ (snapshotDate? date).isSome = true ∧
          result = (thirdParty architecture type).map base ∧ after = before) ∨
        (pinnedOf architecture type ≠ [] ∧
          ∃ completion : Completion services caller architecture type date before after,
            result = (thirdParty architecture type).map base ++
              completion.pins.map Pin.build)) ∧
      (∀ pin : Pin, pin.build.baseurl = some pin.snapshot.url ∧ pin.build.rhsm = some false ∧
        (pin.build.checkGpg = some true ↔
          ∃ key, pin.repository.gpgKeyText = some key ∧ key ≠ "")) ∧
      (thirdParty architecture type ++ pinnedOf architecture type).Perm
        (architecture.repositories.filter (·.appliesTo type)) ∧
      (snapshotDate? date = none →
        outcome (resolve services caller architecture type (some date)) before =
          (.error (.invalidDate date), before)) ∧
      (∀ repository ∈ pinnedOf architecture type,
        Unpinnable services caller architecture type date before repository →
        ∃ fault after, outcome (resolve services caller architecture type (some date)) before =
          (.error fault, after)) := by
  refine ⟨fun result after => resolve_ok_iff, ?_, perm_applicable architecture type, ?_, ?_⟩
  · intro pin
    exact ⟨pin.build_baseurl, pin.build_rhsm, pin.build_checkGpg_iff⟩
  · intro undated
    exact resolve_undated undated before
  · intro repository member unpinnable
    rcases ran : outcome (resolve services caller architecture type (some date)) before
      with ⟨fault | result, after⟩
    · exact ⟨fault, after, rfl⟩
    · rcases resolve_ok_iff.mp ran with ⟨nothing, -⟩ | ⟨-, completion, -⟩
      · rw [nothing] at member
        cases member
      · exact absurd unpinnable (completion.not_unpinnable member)

def offer : Architecture :=
  ⟨["gcp"],
    [⟨"baseos", some "https://cdn/baseos", none, true, none, none, []⟩,
      ⟨"tools", some "https://tools/yum", none, false, none, none, ["gcp"]⟩]⟩

theorem resolve_complete_offer :
    let caller : Identity := ⟨"1", "", "", "User", [], ""⟩
    let known : CatalogRepository := .mirrored "a" "https://cdn/baseos/"
    let pinned : Pin := ⟨known, ⟨"", "https://snap/a", none⟩⟩
    let result := (thirdParty offer .gcp).map base ++ [pinned.build]
    outcome (resolve (.mirroring [known]) caller offer .gcp (some "2024-01-02")) () =
        (.ok result, ()) ∧
      (∃ completion : Completion (.mirroring [known]) caller offer .gcp "2024-01-02" () (),
        result = (thirdParty offer .gcp).map base ++ completion.pins.map Pin.build) ∧
      (∃ fault after, outcome (resolve (.mirroring []) caller offer .gcp (some "2024-01-02")) () =
        (.error fault, after)) ∧
      outcome (resolve (.mirroring [known]) caller offer .gcp (some "tomorrow")) () =
        (.error (.invalidDate "tomorrow"), ()) := by
  intro caller known pinned result
  have done : outcome (resolve (.mirroring [known]) caller offer .gcp (some "2024-01-02")) () =
      (.ok result, ()) := by decide
  obtain ⟨complete, -⟩ :=
    resolve_complete (.mirroring [known]) caller offer .gcp "2024-01-02" ()
  obtain ⟨-, -, -, unread, -⟩ :=
    resolve_complete (.mirroring [known]) caller offer .gcp "tomorrow" ()
  obtain ⟨-, -, -, -, unpinned⟩ :=
    resolve_complete (.mirroring []) caller offer .gcp "2024-01-02" ()
  refine ⟨done, ?_, ?_, unread (by decide)⟩
  · rcases (complete result ()).mp done with ⟨nothing, -⟩ | ⟨-, completion⟩
    · exact absurd nothing (by decide)
    · exact completion
  · apply unpinned ⟨"baseos", some "https://cdn/baseos", none, true, none, none, []⟩ (by decide)
    exact .unknown rfl rfl fun _ held => nomatch held

end Repositories

end ComposeDesk
