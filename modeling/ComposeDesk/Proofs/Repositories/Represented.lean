import ComposeDesk.Customize
import ComposeDesk.Proofs.Repositories.Pinning

/-!
# Repositories of a caller that are pinned

A caller's repository is looked up by its URL or else by its identifier.  Whatever is
looked up is pinned, under one entry if several mean the same one; a repository with
neither is not looked up at all, and only the first of several URLs is.
-/

namespace ComposeDesk

def Repository.mention? (repository : Repository) : Option Mention :=
  match repository.baseurl, repository.id with
  | some url, _ => some (.url url)
  | none, some id => some (.id id)
  | none, none => none

/-- A configured repository is looked up by the first of its URLs, or else by its
identifier if that is not empty. -/
def CustomRepository.mention? (repository : CustomRepository) : Option Mention :=
  match (repository.baseurl.getD []).head? with
  | some url => some (.url url)
  | none => if repository.id = "" then none else some (.id repository.id)

/-- The URLs that are looked up are those of the mentions. -/
theorem Repository.urls_eq (repositories : List Repository) :
    (repositories.filterMap Repository.mention?).filterMap Mention.url? =
      repositories.filterMap (·.baseurl) := by
  rw [List.filterMap_filterMap]
  apply List.filterMap_congr
  intro repository _
  unfold Repository.mention?
  cases repository.baseurl with
  | some url => rfl
  | none => cases repository.id <;> rfl

theorem Repository.ids_eq (repositories : List Repository) :
    (repositories.filterMap Repository.mention?).filterMap Mention.id? =
      repositories.filterMap fun repository =>
        if repository.baseurl.isSome then none else repository.id := by
  rw [List.filterMap_filterMap]
  apply List.filterMap_congr
  intro repository _
  unfold Repository.mention?
  cases repository.baseurl with
  | some url => rfl
  | none => cases repository.id <;> rfl

theorem CustomRepository.urls_eq (repositories : List CustomRepository) :
    (repositories.filterMap CustomRepository.mention?).filterMap Mention.url? =
      repositories.filterMap fun repository => (repository.baseurl.getD []).head? := by
  rw [List.filterMap_filterMap]
  apply List.filterMap_congr
  intro repository _
  unfold CustomRepository.mention?
  cases (repository.baseurl.getD []).head? with
  | some url => rfl
  | none =>
      by_cases empty : repository.id = ""
      · simp [empty]
      · simp [empty, Mention.url?]

theorem CustomRepository.ids_eq (repositories : List CustomRepository) :
    (repositories.filterMap CustomRepository.mention?).filterMap Mention.id? =
      repositories.filterMap fun repository =>
        if (repository.baseurl.getD []).head?.isSome || repository.id = "" then none
        else some repository.id := by
  rw [List.filterMap_filterMap]
  apply List.filterMap_congr
  intro repository _
  unfold CustomRepository.mention?
  cases (repository.baseurl.getD []).head? with
  | some url => rfl
  | none =>
      by_cases empty : repository.id = ""
      · simp [empty]
      · simp [empty, Mention.id?]

/-- A catalog holds each entry once, under its own identifier. -/
structure Catalog.Keyed (catalog : Catalog) : Prop where
  own : ∀ entry ∈ catalog, entry.1 = entry.2.uuid
  distinct : (catalog.map (·.1)).Nodup

theorem Catalog.Keyed.eq_of_uuid {catalog : Catalog} (keyed : catalog.Keyed)
    {known other : CatalogRepository} (held : known ∈ catalog.map (·.2))
    (among : other ∈ catalog.map (·.2)) (same : known.uuid = other.uuid) : known = other := by
  have keys : (catalog.map (·.2)).map (·.uuid) = catalog.map (·.1) := by
    rw [List.map_map]
    apply List.map_congr_left
    intro entry member
    exact (keyed.own entry member).symm
  have distinct := keyed.distinct
  rw [← keys] at distinct
  exact List.inj_on_of_nodup_map distinct held among same

/-- A pin stands for what is mentioned: it is an enabled entry of the catalog with its
snapshot, the very entry that is meant if the catalog is keyed, and else one of the same
identifier. -/
structure Represents (catalog : Catalog) (answers : List SnapshotForDate) (mention : Mention)
    (pin : Repositories.Pin) : Prop where
  named : ∃ known, mention.entry? catalog = some known ∧ known.uuid = pin.repository.uuid ∧
    (catalog.Keyed → known = pin.repository)
  held : pin.repository ∈ catalog.map (·.2)
  enabled : pin.repository.snapshot = true
  answered : ⟨pin.repository.uuid, some pin.snapshot⟩ ∈ answers

/-- Some mentions are pinned: each is represented by a pin, and each pin represents one. -/
inductive PinnedAs {σ : Type} (services : Downstream σ) (caller : Identity) (date : String)
    (mentions : List Mention) : List Repositories.Pin → Prop where
  | nothing (none : mentions = []) : PinnedAs services caller date mentions []
  | looked {before after : σ}
      (pinning : Repositories.Pinning services caller (mentions.filterMap Mention.url?)
        (mentions.filterMap Mention.id?) true date before after)
      (each : ∀ mention ∈ mentions, ∃ pin ∈ pinning.pins,
        Represents pinning.catalog pinning.answers mention pin)
      (only : ∀ pin ∈ pinning.pins, ∃ mention ∈ mentions,
        Represents pinning.catalog pinning.answers mention pin) :
      PinnedAs services caller date mentions pinning.pins

namespace Mention

theorem eq_nil_of_filterMap {mentions : List Mention} (urls : mentions.filterMap url? = [])
    (ids : mentions.filterMap id? = []) : mentions = [] := by
  cases mentions with
  | nil => rfl
  | cons mention rest =>
      cases mention with
      | url text => cases urls
      | id uuid => cases ids

end Mention

section Pinned

open Repositories

variable {σ : Type} {services : Downstream σ} {caller : Identity} {date : String}
  {mentions : List Mention} {before after : σ}

/-- What is pinned by a pinning represents what is meant by an identifier of its own. -/
theorem Represents.of_pinning
    (pinning : Pinning services caller (mentions.filterMap Mention.url?)
      (mentions.filterMap Mention.id?) true date before after)
    {mention : Mention} {known : CatalogRepository} {pin : Pin} (member : pin ∈ pinning.pins)
    (found : mention.entry? pinning.catalog = some known)
    (same : known.uuid = pin.repository.uuid) :
    Represents pinning.catalog pinning.answers mention pin := by
  have listed : pin.repository ∈ pinning.pins.map Pin.repository := List.mem_map_of_mem member
  obtain ⟨_, _, own⟩ := mention_of_mem pinning.mentioned listed
  have held := Mention.entry?_mem own
  constructor
  · exact ⟨known, found, same, fun keyed => keyed.eq_of_uuid (Mention.entry?_mem found) held same⟩
  · exact held
  · exact pinning.enabled pin member
  · exact snapshotOf?_some (pinning.snapped pin member)

/-- Whatever is mentioned is pinned, and nothing else. -/
theorem pinnedAs_of_snapshots {pinned : Pinned}
    (done : outcome (snapshots services caller (mentions.filterMap Mention.url?)
      (mentions.filterMap Mention.id?) true date) before = (.ok pinned, after)) :
    ∃ pins, PinnedAs services caller date mentions pins ∧ pinned = pinnedBy pins := by
  rcases snapshots_ok_iff.mp done with ⟨urls, ids, -, rfl, -⟩ | ⟨-, pinning, rfl⟩
  · exact ⟨[], .nothing (Mention.eq_nil_of_filterMap urls ids), rfl⟩
  · refine ⟨pinning.pins, .looked pinning ?_ ?_, rfl⟩
    · intro mention member
      obtain ⟨known, found, entry, listed, same⟩ := exists_of_mention pinning.mentioned member
      obtain ⟨pin, among, rfl⟩ := List.mem_map.mp listed
      exact ⟨pin, among, .of_pinning pinning among found same.symm⟩
    · intro pin among
      obtain ⟨mention, member, found⟩ :=
        mention_of_mem pinning.mentioned (List.mem_map_of_mem among)
      exact ⟨mention, member, .of_pinning pinning among found rfl⟩

end Pinned

namespace Customize

open Repositories

variable {σ : Type} {services : Downstream σ} {caller : Identity} {date : String}
  {before after : σ}

theorem ask_ok {α : Type} {act : Act σ RepositoryFault α} {world left : σ} {a : α}
    (done : outcome (ask act) world = (.ok a, left)) : outcome act world = (.ok a, left) :=
  outcome_adapt_ok_iff.mp done

/-- The build-time repositories are the pins of all that are looked up. -/
theorem payload_pinned {repositories : List Repository} {result : Option (List Build.Repository)}
    (done : outcome (payload services caller (some date) (some repositories)) before =
      (.ok result, after)) :
    ∃ pins, PinnedAs services caller date (repositories.filterMap Repository.mention?) pins ∧
      result = some (pins.map Pin.build) := by
  obtain ⟨pinned, middle, asked, made⟩ := outcome_bind_eq_ok done
  cases made
  have snapped := ask_ok asked
  rw [← Repository.urls_eq, ← Repository.ids_eq] at snapped
  obtain ⟨pins, represented, rfl⟩ := pinnedAs_of_snapshots snapped
  exact ⟨pins, represented, rfl⟩

/-- The configured repositories are the pins of all that are looked up. -/
theorem custom_pinned {repositories : List CustomRepository}
    {result : Option (List CustomRepository)}
    (done : outcome (custom services caller (some date) (some repositories)) before =
      (.ok result, after)) :
    ∃ pins, PinnedAs services caller date (repositories.filterMap CustomRepository.mention?) pins ∧
      result = some (pins.map Pin.configured) := by
  obtain ⟨pinned, middle, asked, made⟩ := outcome_bind_eq_ok done
  cases made
  have snapped := ask_ok asked
  rw [← CustomRepository.urls_eq, ← CustomRepository.ids_eq] at snapped
  obtain ⟨pins, represented, rfl⟩ := pinnedAs_of_snapshots snapped
  exact ⟨pins, represented, rfl⟩

/-- Repositories that are looked up are not dropped.  If the customizations of a request
with a date can be used, each repository that has a URL or an identifier is represented by
a pin, a configured one with several URLs by that of the first; the repositories that go
out are those of these pins and no others. -/
theorem ofRequest_represents (services : Downstream σ) (caller : Identity)
    (distribution : Distribution) (request : ComposeRequest) (customizations : Customizations)
    (date : String) (before after : σ) (result : Option Build.Customizations)
    (given : request.customizations = some customizations)
    (dated : request.imageRequests.head?.bind (·.snapshotDate) = some date)
    (done : outcome (ofRequest services caller distribution request) before =
      (.ok result, after)) :
    ∃ prepared, result = some prepared ∧
      (∀ repositories, customizations.payloadRepositories = some repositories →
        ∃ pins,
          PinnedAs services caller date (repositories.filterMap Repository.mention?) pins ∧
            prepared.payloadRepositories = some (pins.map Pin.build)) ∧
      (∀ repositories, customizations.customRepositories = some repositories →
        ∃ pins,
          PinnedAs services caller date (repositories.filterMap CustomRepository.mention?) pins ∧
            prepared.customRepositories = some (pins.map Pin.configured)) := by
  unfold ofRequest at done
  rw [given] at done
  simp only [dated] at done
  obtain ⟨prepared, _, preparing, made⟩ := outcome_bind_eq_ok done
  cases made
  obtain ⟨build, _, pinnedBuild, preparing⟩ := outcome_bind_eq_ok preparing
  obtain ⟨configured, _, pinnedCustom, preparing⟩ := outcome_bind_eq_ok preparing
  obtain ⟨hardening, _, _, preparing⟩ := outcome_bind_eq_ok preparing
  obtain ⟨files, _, _, preparing⟩ := outcome_bind_eq_ok preparing
  cases preparing
  refine ⟨_, rfl, ?_, ?_⟩
  · intro repositories held
    rw [held] at pinnedBuild
    exact payload_pinned pinnedBuild
  · intro repositories held
    rw [held] at pinnedCustom
    exact custom_pinned pinnedCustom

def bare : Distribution :=
  ⟨none, ⟨"rhel-9", "", none, false⟩, none, none⟩

def datedRequest (payload : List Repository) (custom : List CustomRepository) : ComposeRequest :=
  ⟨"rhel-9", [⟨"x86_64", .guestImage, .awsS3, none, some "2024-01-02", none⟩],
    some { Customizations.empty with
      payloadRepositories := some payload
      customRepositories := some custom },
    none, none, none⟩

def addressed (id baseurl metalink : Option String) : Repository :=
  ⟨id, baseurl, metalink, none, none, none, none, none, none, false⟩

def configured (id : String) (urls : List String) : CustomRepository :=
  ⟨id, none, none, some urls, none, none, none, none, none, none, none, none, none⟩

theorem ofRequest_represents_dated :
    let caller : Identity := ⟨"1", "", "", "User", [], ""⟩
    let services := Downstream.mirroring [.mirrored "a" "https://a/", .mirrored "b" "https://b"]
    let payload := [addressed (some "a") none none, addressed none (some "https://b/") none]
    let custom := [configured "b" []]
    ∃ prepared after,
      outcome (ofRequest services caller bare (datedRequest payload custom)) () =
          (.ok (some prepared), after) ∧
        (∃ pins, PinnedAs services caller "2024-01-02" [.id "a", .url "https://b/"] pins ∧
          prepared.payloadRepositories = some (pins.map Pin.build)) ∧
        (∃ pins, PinnedAs services caller "2024-01-02" [.id "b"] pins ∧
          prepared.customRepositories = some (pins.map Pin.configured)) := by
  intro caller services payload custom
  have done : ∃ result after,
      outcome (ofRequest services caller bare (datedRequest payload custom)) () =
        (.ok result, after) := ⟨_, _, rfl⟩
  obtain ⟨result, after, done⟩ := done
  obtain ⟨prepared, rfl, build, configured⟩ := ofRequest_represents services caller bare
    (datedRequest payload custom) _ "2024-01-02" () after result rfl rfl done
  exact ⟨prepared, after, done, build payload rfl, configured custom rfl⟩

/-- A repository that has only a metalink is dropped, and so are the URLs of a configured
repository after the first. -/
theorem metalink_dropped :
    let caller : Identity := ⟨"1", "", "", "User", [], ""⟩
    let services := Downstream.mirroring [.mirrored "a" "https://a", .mirrored "b" "https://b"]
    (∃ prepared after,
      outcome (ofRequest services caller bare
          (datedRequest [addressed none none (some "https://m")] [])) () =
        (.ok (some prepared), after) ∧ prepared.payloadRepositories = some []) ∧
      (∃ prepared after,
        outcome (ofRequest services caller bare
            (datedRequest [] [configured "" ["https://a", "https://b"]])) () =
          (.ok (some prepared), after) ∧
        prepared.customRepositories =
          some [pinnedCustom (.mirrored "a" "https://a") ⟨"", "https://snap/a", none⟩]) := by
  intro caller services
  constructor
  · exact ⟨_, _, rfl, rfl⟩
  · exact ⟨_, _, rfl, rfl⟩

end Customize

end ComposeDesk
