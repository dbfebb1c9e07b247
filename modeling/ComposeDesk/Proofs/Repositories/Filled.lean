import ComposeDesk.Client.Services
import ComposeDesk.Proofs.Itemwise
import ComposeDesk.Proofs.Outcome

/-!
# Repositories that are filled in

Without a date, the repositories of a caller are completed from the catalog one by one.
What the caller says goes first, field by field; a field that was left out is that of the
catalog's entry for the identifier, if there is one.  The two kinds of repositories share
the choice of the URL and the fields about trust, which are therefore treated once.
-/

namespace ComposeDesk

namespace CatalogRepository

variable {entry : CatalogRepository} {url text key : String}

/-- Images are built from the latest snapshot of an uploaded repository, and from the URL of
an external one and of one of Red Hat. -/
inductive BuiltFrom (entry : CatalogRepository) : String → Prop where
  | upload {url : String} (origin : entry.origin = some "upload")
      (latest : entry.latestSnapshotUrl = some url) : BuiltFrom entry url
  | external {url : String} (origin : entry.origin = some "external")
      (own : entry.url = some url) : BuiltFrom entry url
  | redHat {url : String} (origin : entry.origin = some "red_hat")
      (own : entry.url = some url) : BuiltFrom entry url

/-- Why no image is built from a repository. -/
inductive Unbuilt (entry : CatalogRepository) : String → Prop where
  | unread (origin : entry.origin = none) :
      Unbuilt entry ("unable to read origin from repository " ++ entry.uuid)
  | unsnapped (origin : entry.origin = some "upload") (latest : entry.latestSnapshotUrl = none) :
      Unbuilt entry ("upload repository " ++ entry.uuid ++ " has no snapshot yet")
  | unplaced (origin : entry.origin = some "external" ∨ entry.origin = some "red_hat")
      (own : entry.url = none) : Unbuilt entry ("repository " ++ entry.uuid ++ " has no url")
  | strange {origin : String} (held : entry.origin = some origin) (upload : origin ≠ "upload")
      (other : ¬ (origin = "external" ∨ origin = "red_hat")) :
      Unbuilt entry ("unknown origin on content sources repository " ++ entry.uuid ++
        ", origin: " ++ origin)

theorem BuiltFrom.baseUrl (built : entry.BuiltFrom url) : entry.baseUrl = .ok url := by
  cases built with
  | upload origin latest => simp only [CatalogRepository.baseUrl, origin, latest, if_true]
  | external origin own => simp [CatalogRepository.baseUrl, origin, own]
  | redHat origin own => simp [CatalogRepository.baseUrl, origin, own]

theorem Unbuilt.baseUrl (unbuilt : entry.Unbuilt text) : entry.baseUrl = .error text := by
  cases unbuilt with
  | unread origin => simp only [CatalogRepository.baseUrl, origin]
  | unsnapped origin latest => simp only [CatalogRepository.baseUrl, origin, latest, if_true]
  | unplaced origin own =>
      rcases origin with external | redHat
      · simp [CatalogRepository.baseUrl, external, own]
      · simp [CatalogRepository.baseUrl, redHat, own]
  | strange held upload other =>
      simp only [CatalogRepository.baseUrl, held, if_neg upload, if_neg other]

/-- Each entry has a URL that images are built from, or a reason why it has none. -/
theorem built_or_unbuilt (entry : CatalogRepository) :
    (∃ url, entry.BuiltFrom url) ∨ ∃ text, entry.Unbuilt text := by
  cases held : entry.origin with
  | none => exact .inr ⟨_, .unread held⟩
  | some origin =>
      by_cases upload : origin = "upload"
      · subst upload
        cases latest : entry.latestSnapshotUrl with
        | none => exact .inr ⟨_, .unsnapped held latest⟩
        | some url => exact .inl ⟨url, .upload held latest⟩
      · by_cases plain : origin = "external" ∨ origin = "red_hat"
        · cases own : entry.url with
          | none =>
              refine .inr ⟨_, .unplaced ?_ own⟩
              rcases plain with rfl | rfl
              · exact .inl held
              · exact .inr held
          | some url =>
              rcases plain with rfl | rfl
              · exact .inl ⟨url, .external held own⟩
              · exact .inl ⟨url, .redHat held own⟩
        · exact .inr ⟨_, .strange held upload plain⟩

theorem baseUrl_ok_iff : entry.baseUrl = .ok url ↔ entry.BuiltFrom url := by
  constructor
  · intro read
    rcases built_or_unbuilt entry with ⟨other, built⟩ | ⟨text, unbuilt⟩
    · rw [built.baseUrl] at read
      cases read
      exact built
    · rw [unbuilt.baseUrl] at read
      cases read
  · exact BuiltFrom.baseUrl

theorem baseUrl_error_iff : entry.baseUrl = .error text ↔ entry.Unbuilt text := by
  constructor
  · intro failed
    rcases built_or_unbuilt entry with ⟨url, built⟩ | ⟨other, unbuilt⟩
    · rw [built.baseUrl] at failed
      cases failed
    · rw [unbuilt.baseUrl] at failed
      cases failed
      exact unbuilt
  · exact Unbuilt.baseUrl

/-- The catalog has a key for a repository: a text that is not empty. -/
structure HasKey (entry : CatalogRepository) (key : String) : Prop where
  held : entry.gpgKeyText = some key
  filled : key ≠ ""

theorem gpgKey_eq_some_iff : entry.gpgKey = some key ↔ entry.HasKey key := by
  rw [gpgKey, Option.filter_eq_some_iff]
  constructor
  · rintro ⟨held, filled⟩
    exact ⟨held, of_decide_eq_true filled⟩
  · rintro ⟨held, filled⟩
    exact ⟨held, decide_eq_true filled⟩

end CatalogRepository

/-- What is sent of a field: the value that the caller gives, or else the value that is on
offer, or nothing. -/
inductive Completed {α : Type} (given : Option α) (offered : α → Prop) : Option α → Prop where
  | own {value : α} (said : given = some value) : Completed given offered (some value)
  | filled {value : α} (unsaid : given = none) (offer : offered value) :
      Completed given offered (some value)
  | absent (unsaid : given = none) (nothing : ∀ value, ¬ offered value) :
      Completed given offered none

/-- Choosing between what is given and what is known completes a field. -/
theorem completed_orElse {α : Type} {given known : Option α} {offered : α → Prop}
    (offers : ∀ value, known = some value ↔ offered value) :
    Completed given offered (given <|> known) := by
  cases given with
  | some value => exact .own rfl
  | none =>
      cases known with
      | some value => exact .filled rfl ((offers value).mp rfl)
      | none => exact .absent rfl fun value offer => nomatch (offers value).mpr offer

namespace Repositories

section Url

variable {α : Type} {wrap : String → α} {given sent : Option α}
  {known : Option CatalogRepository} {lost fault : RepositoryFault} {told : Option RepositoryFault}

/-- The URL that is given, or that of the known entry; without either, some fault may be
told. -/
def chooseUrl (wrap : String → α) (given : Option α) (known : Option CatalogRepository)
    (told : Option RepositoryFault) : Except RepositoryFault (Option α) :=
  match given, known, told with
  | some value, _, _ => .ok (some value)
  | none, some entry, _ => (entry.baseUrl.map fun url => some (wrap url)).mapError .unexpected
  | none, none, some fault => .error fault
  | none, none, none => .ok none

/-- The URL that a known entry offers, in the form of the field. -/
def OffersUrl (known : Option CatalogRepository) (wrap : String → α) (value : α) : Prop :=
  ∃ entry ∈ known, ∃ url, entry.BuiltFrom url ∧ value = wrap url

/-- Why a repository without a URL is refused: nothing is known of it where something must
be, or no image is built from the entry that is known. -/
inductive Unaddressed (given : Option α) (known : Option CatalogRepository)
    (told : Option RepositoryFault) : RepositoryFault → Prop where
  | unknown {fault : RepositoryFault} (unsaid : given = none) (missing : known = none)
      (tells : told = some fault) : Unaddressed given known told fault
  | unusable {entry : CatalogRepository} {text : String} (unsaid : given = none)
      (found : known = some entry) (unbuilt : entry.Unbuilt text) :
      Unaddressed given known told (.unexpected text)

theorem chooseUrl_ok (chosen : chooseUrl wrap given known told = .ok sent) :
    Completed given (OffersUrl known wrap) sent := by
  cases given with
  | some value =>
      cases chosen
      exact .own rfl
  | none =>
      cases known with
      | some entry =>
          obtain ⟨url, read, rfl⟩ := map_eq_ok (mapError_eq_ok_iff.mp chosen)
          have built := CatalogRepository.baseUrl_ok_iff.mp read
          exact .filled rfl ⟨entry, rfl, url, built, rfl⟩
      | none =>
          cases told with
          | some fault => cases chosen
          | none =>
              cases chosen
              refine .absent rfl ?_
              rintro _ ⟨entry, found, -⟩
              cases found

theorem chooseUrl_error_iff :
    chooseUrl wrap given known told = .error fault ↔ Unaddressed given known told fault := by
  constructor
  · intro failed
    cases given with
    | some value => cases failed
    | none =>
        cases known with
        | some entry =>
            cases read : entry.baseUrl with
            | ok url =>
                simp only [chooseUrl, read] at failed
                cases failed
            | error text =>
                simp only [chooseUrl, read] at failed
                cases failed
                exact .unusable rfl rfl (CatalogRepository.baseUrl_error_iff.mp read)
        | none =>
            cases told with
            | none => cases failed
            | some other =>
                cases failed
                exact .unknown rfl rfl rfl
  · rintro (⟨rfl, rfl, rfl⟩ | ⟨rfl, rfl, unbuilt⟩)
    · rfl
    · rw [chooseUrl, unbuilt.baseUrl]
      rfl

end Url

structure Trust (κ : Type) where
  gpgkey : Option κ
  checkGpg : Option Bool
  checkRepoGpg : Option Bool
  moduleHotfixes : Option Bool

/-- The fields about trust are completed from an entry.  Checks are on offer only where the
entry has a key: a check of packages then, and a check of metadata as the entry says. -/
structure TrustCompleted {κ : Type} (known : Option CatalogRepository) (wrap : String → κ)
    (given sent : Trust κ) : Prop where
  gpgkey : Completed given.gpgkey
    (fun value => ∃ entry ∈ known, ∃ key, entry.HasKey key ∧ value = wrap key) sent.gpgkey
  checkGpg : Completed given.checkGpg
    (fun check => check = true ∧ ∃ entry ∈ known, ∃ key, entry.HasKey key) sent.checkGpg
  checkRepoGpg : Completed given.checkRepoGpg
    (fun check => ∃ entry ∈ known, (∃ key, entry.HasKey key) ∧
      entry.metadataVerification = some check) sent.checkRepoGpg
  moduleHotfixes : Completed given.moduleHotfixes
    (fun hotfixes => ∃ entry ∈ known, entry.moduleHotfixes = some hotfixes) sent.moduleHotfixes

/-- The fields about trust with what an entry adds to them. -/
def completeTrust {κ : Type} (known : Option CatalogRepository) (wrap : String → κ)
    (given : Trust κ) : Trust κ where
  gpgkey := given.gpgkey <|> (known.bind (·.gpgKey)).map wrap
  checkGpg := given.checkGpg <|> (known.bind (·.gpgKey)).map fun _ => true
  checkRepoGpg := given.checkRepoGpg <|> verification known
  moduleHotfixes := given.moduleHotfixes <|> known.bind (·.moduleHotfixes)

theorem knownKey_iff {known : Option CatalogRepository} {key : String} :
    known.bind (·.gpgKey) = some key ↔ ∃ entry ∈ known, entry.HasKey key := by
  simp only [Option.bind_eq_some_iff, Option.mem_def, CatalogRepository.gpgKey_eq_some_iff]

theorem trustCompleted {κ : Type} (known : Option CatalogRepository) (wrap : String → κ)
    (given : Trust κ) : TrustCompleted known wrap given (completeTrust known wrap given) := by
  constructor
  case gpgkey =>
    apply completed_orElse
    intro value
    rw [Option.map_eq_some_iff]
    constructor
    · rintro ⟨key, held, rfl⟩
      obtain ⟨entry, found, has⟩ := knownKey_iff.mp held
      exact ⟨entry, found, key, has, rfl⟩
    · rintro ⟨entry, found, key, has, rfl⟩
      exact ⟨key, knownKey_iff.mpr ⟨entry, found, has⟩, rfl⟩
  case checkGpg =>
    apply completed_orElse
    intro check
    rw [Option.map_eq_some_iff]
    constructor
    · rintro ⟨key, held, rfl⟩
      obtain ⟨entry, found, has⟩ := knownKey_iff.mp held
      exact ⟨rfl, entry, found, key, has⟩
    · rintro ⟨rfl, entry, found, key, has⟩
      exact ⟨key, knownKey_iff.mpr ⟨entry, found, has⟩, rfl⟩
  case checkRepoGpg =>
    apply completed_orElse
    intro check
    rw [verification, Option.bind_eq_some_iff]
    constructor
    · rintro ⟨key, held, said⟩
      obtain ⟨entry, found, has⟩ := knownKey_iff.mp held
      rw [Option.mem_def.mp found] at said
      exact ⟨entry, found, ⟨key, has⟩, said⟩
    · rintro ⟨entry, found, ⟨key, has⟩, said⟩
      refine ⟨key, knownKey_iff.mpr ⟨entry, found, has⟩, ?_⟩
      rw [Option.mem_def.mp found]
      exact said
  case moduleHotfixes =>
    apply completed_orElse
    intro hotfixes
    exact Option.bind_eq_some_iff

/-! ## Repositories to build from -/

section Build

variable {catalog : Catalog} {given : Repository} {sent : Build.Repository}
  {fault : RepositoryFault}

def givenTrust (given : Repository) : Trust String :=
  ⟨given.gpgkey, given.checkGpg, given.checkRepoGpg, given.moduleHotfixes⟩

def sentTrust (sent : Build.Repository) : Trust String :=
  ⟨sent.gpgkey, sent.checkGpg, sent.checkRepoGpg, sent.moduleHotfixes⟩

def knownBuild (catalog : Catalog) (given : Repository) : Option CatalogRepository :=
  given.id.bind catalog.get?

/-- A repository to build from is that of the caller, completed from the catalog. -/
structure FilledBuild (catalog : Catalog) (given : Repository) (sent : Build.Repository) :
    Prop where
  baseurl : Completed given.baseurl (OffersUrl (knownBuild catalog given) id) sent.baseurl
  trust : TrustCompleted (knownBuild catalog given) id (givenTrust given) (sentTrust sent)
  metalink : sent.metalink = given.metalink
  mirrorlist : sent.mirrorlist = given.mirrorlist
  rhsm : sent.rhsm = some given.rhsm
  ignoreSsl : sent.ignoreSsl = given.ignoreSsl

/-- A repository to build from is refused: it has no URL, and it has an identifier that is
unknown or one of an entry without a usable URL. -/
def RefusedBuild (catalog : Catalog) (given : Repository) : RepositoryFault → Prop :=
  Unaddressed given.baseurl (knownBuild catalog given) (given.id.map .unresolved)

/-- Filling in is choosing the URL and completing the fields about trust. -/
theorem fillBuild_eq (catalog : Catalog) (given : Repository) :
    fillBuild catalog given =
      (chooseUrl id given.baseurl (knownBuild catalog given) (given.id.map .unresolved)).map
        fun baseurl =>
          let trust := completeTrust (knownBuild catalog given) id (givenTrust given)
          ⟨baseurl, given.metalink, given.mirrorlist, some given.rhsm, trust.gpgkey,
            trust.checkGpg, trust.checkRepoGpg, given.ignoreSsl, trust.moduleHotfixes⟩ := by
  unfold fillBuild
  simp only [completeTrust, Option.map_id_fun, id_eq, knownBuild]
  cases given.baseurl with
  | some url => rfl
  | none =>
      cases given.id.bind catalog.get? with
      | some entry =>
          cases entry.baseUrl with
          | ok url => rfl
          | error text => rfl
      | none =>
          cases given.id with
          | some id => rfl
          | none => rfl

theorem filledBuild (filled : fillBuild catalog given = .ok sent) :
    FilledBuild catalog given sent := by
  rw [fillBuild_eq] at filled
  obtain ⟨baseurl, chosen, rfl⟩ := map_eq_ok filled
  exact ⟨chooseUrl_ok chosen, trustCompleted _ _ _, rfl, rfl, rfl, rfl⟩

theorem fillBuild_error_iff :
    fillBuild catalog given = .error fault ↔ RefusedBuild catalog given fault := by
  rw [fillBuild_eq, map_eq_error_iff, chooseUrl_error_iff]
  rfl

end Build

/-! ## Repositories to configure -/

section Configured

variable {catalog : Catalog} {given sent : CustomRepository} {fault : RepositoryFault}

def configuredTrust (repository : CustomRepository) : Trust (List String) :=
  ⟨repository.gpgkey, repository.checkGpg, repository.checkRepoGpg, repository.moduleHotfixes⟩

/-- What is told of a repository that the catalog does not know, unless it has a metalink or
a list of mirrors. -/
def unresolved? (given : CustomRepository) : Option RepositoryFault :=
  if given.metalink = none ∧ given.mirrorlist = none then some (.unresolved given.id) else none

/-- A repository to configure is that of the caller, completed from the catalog. -/
structure FilledCustom (catalog : Catalog) (given sent : CustomRepository) : Prop where
  baseurl : Completed given.baseurl (OffersUrl (catalog.get? given.id) ([·])) sent.baseurl
  trust : TrustCompleted (catalog.get? given.id) ([·]) (configuredTrust given)
    (configuredTrust sent)
  name : Completed given.name (fun name => ∃ entry ∈ catalog.get? given.id, entry.name = some name)
    sent.name
  id : sent.id = given.id
  filename : sent.filename = given.filename
  mirrorlist : sent.mirrorlist = given.mirrorlist
  metalink : sent.metalink = given.metalink
  enabled : sent.enabled = given.enabled
  priority : sent.priority = given.priority
  sslVerify : sent.sslVerify = given.sslVerify

/-- A repository to configure is refused: it has no URL, and the catalog either does not know
it, when it has neither a metalink nor a list of mirrors, or has no usable URL for it. -/
def RefusedCustom (catalog : Catalog) (given : CustomRepository) : RepositoryFault → Prop :=
  Unaddressed given.baseurl (catalog.get? given.id) (unresolved? given)

theorem fillCustom_eq (catalog : Catalog) (given : CustomRepository) :
    fillCustom catalog given =
      (chooseUrl ([·]) given.baseurl (catalog.get? given.id) (unresolved? given)).map
        fun baseurl =>
          let trust := completeTrust (catalog.get? given.id) ([·]) (configuredTrust given)
          { given with
            name := given.name <|> (catalog.get? given.id).bind (·.name)
            baseurl
            gpgkey := trust.gpgkey
            checkGpg := trust.checkGpg
            checkRepoGpg := trust.checkRepoGpg
            moduleHotfixes := trust.moduleHotfixes } := by
  unfold fillCustom
  cases given.baseurl with
  | some urls => rfl
  | none =>
      cases catalog.get? given.id with
      | some entry =>
          cases entry.baseUrl with
          | ok url => rfl
          | error text => rfl
      | none =>
          unfold unresolved?
          cases given.metalink with
          | some link => rfl
          | none =>
              cases given.mirrorlist with
              | some mirrors => rfl
              | none => rfl

theorem filledCustom (filled : fillCustom catalog given = .ok sent) :
    FilledCustom catalog given sent := by
  rw [fillCustom_eq] at filled
  obtain ⟨baseurl, chosen, rfl⟩ := map_eq_ok filled
  have named : Completed given.name
      (fun name => ∃ entry ∈ catalog.get? given.id, entry.name = some name)
      (given.name <|> (catalog.get? given.id).bind (·.name)) := by
    apply completed_orElse
    intro name
    exact Option.bind_eq_some_iff
  exact ⟨chooseUrl_ok chosen, trustCompleted _ _ _, named, rfl, rfl, rfl, rfl, rfl, rfl, rfl⟩

theorem fillCustom_error_iff :
    fillCustom catalog given = .error fault ↔ RefusedCustom catalog given fault := by
  rw [fillCustom_eq, map_eq_error_iff, chooseUrl_error_iff]
  rfl

end Configured

section All

variable {σ α β : Type}

/-- What comes of filling in: the fault of the catalog if it does not answer, and otherwise
the repositories one by one, or the fault of the first that is refused. -/
inductive Filling (looked : Except ServiceFault Catalog × σ) (fills : Catalog → α → β → Prop)
    (refuses : Catalog → α → RepositoryFault → Prop) (given : List α) :
    Except RepositoryFault (List β) × σ → Prop where
  | unanswered {fault : ServiceFault} {left : σ} (failed : looked = (.error fault, left)) :
      Filling looked fills refuses given (.error (.catalog fault), left)
  | answered {catalog : Catalog} {left : σ} {result : Except RepositoryFault (List β)}
      (found : looked = (.ok catalog, left))
      (each : Traversed (fills catalog) (refuses catalog) given result) :
      Filling looked fills refuses given (result, left)

theorem filling {fill : Catalog → α → Except RepositoryFault β} {fills : Catalog → α → β → Prop}
    {refuses : Catalog → α → RepositoryFault → Prop}
    (filled : ∀ {catalog a b}, fill catalog a = .ok b → fills catalog a b)
    (refused : ∀ {catalog a fault}, fill catalog a = .error fault ↔ refuses catalog a fault)
    (lookup : Act σ ServiceFault Catalog) (given : List α) (state : σ) :
    Filling (outcome lookup state) fills refuses given
      (outcome (do
        let catalog ← ask lookup
        (given.mapM (fill catalog) : Except RepositoryFault (List β))) state) := by
  rw [outcome_bind, ask, outcome_adapt]
  rcases outcome lookup state with ⟨fault | catalog, left⟩
  · exact .unanswered rfl
  · apply Filling.answered rfl
    apply traversed_mapM
    · exact fun _ _ => filled
    · exact fun _ _ => refused

/-- A repository without an identifier needs no catalog. -/
theorem not_refusedBuild {catalog : Catalog} {given : Repository} (unnamed : given.id = none)
    (fault : RepositoryFault) : ¬ RefusedBuild catalog given fault := by
  intro refused
  cases refused with
  | unknown _ _ tells =>
      rw [unnamed] at tells
      cases tells
  | unusable _ found _ =>
      rw [knownBuild, unnamed] at found
      cases found

/-- The repositories of a caller are completed one by one from what the catalog answers.  If
no repository has an identifier, the catalog is not even asked. -/
theorem caller_filled {ν : Type} (services : Downstream σ) (caller : Identity)
    (built : List Repository) (configured : List CustomRepository) (state : σ) (link : Link ν)
    (addresses : Addresses) (session : Session ν) :
    Filling (outcome (services.repositories caller [] (built.filterMap (·.id)) true) state)
        FilledBuild RefusedBuild built (outcome (payload services caller built) state) ∧
      Filling (outcome (services.repositories caller [] (configured.map (·.id)) true) state)
        FilledCustom RefusedCustom configured
        (outcome (custom services caller configured) state) ∧
      ((∀ repository ∈ built, repository.id = none) →
        ∃ sent, outcome (payload (link.services addresses) caller built) session =
            (.ok sent, session) ∧ built.Forall₂ (FilledBuild []) sent) := by
  refine ⟨filling filledBuild fillBuild_error_iff _ _ _,
    filling filledCustom fillCustom_error_iff _ _ _, ?_⟩
  intro unnamed
  have none : built.filterMap (·.id) = [] := List.filterMap_eq_nil_iff.mpr unnamed
  obtain ⟨sent, made, all⟩ : ∃ sent, built.mapM (fillBuild []) = .ok sent ∧
      built.Forall₂ (FilledBuild []) sent := by
    apply mapM_ok
    intro repository held
    cases filled : fillBuild [] repository with
    | ok sent => exact ⟨sent, rfl, filledBuild filled⟩
    | error fault =>
        have refused := fillBuild_error_iff.mp filled
        exact absurd refused (not_refusedBuild (unnamed repository held) fault)
  refine ⟨sent, ?_, all⟩
  have asked : outcome (ask ((link.services addresses).repositories caller [] [] true)) session =
      (.ok [], session) := rfl
  rw [payload, none, outcome_bind_ok asked, made]
  rfl

end All

end Repositories

end ComposeDesk
