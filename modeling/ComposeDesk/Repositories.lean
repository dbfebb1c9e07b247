import ComposeDesk.Calendar.Reader
import ComposeDesk.Distribution
import ComposeDesk.Downstream.Basic

/-!
# Repositories of an image

An image is built from the repositories of its distribution and from those of
the caller.  Both can be looked up in the catalog, and pinned to a date by
taking the snapshots of that date in their place.
-/

namespace ComposeDesk

/-- The instant that a snapshot date means; a plain date means its midnight. -/
def snapshotDate? (text : String) : Option Timestamp :=
  match Calendar.strict text with
  | .ok time => some time
  | .error _ =>
      (Calendar.date? text).map fun date =>
        ⟨date.toDays * Timestamp.daySeconds, 0⟩

inductive RepositoryFault where
  | invalidDate (date : String)
  | snapshotDisabled (url id : String)
  | unresolved (name : String)
  | missingSnapshots (found expected : Nat)
  | catalog (fault : ServiceFault)
  | unexpected (text : String)
deriving DecidableEq, Repr

def RepositoryFault.message : RepositoryFault → String
  | .invalidDate date =>
      "Snapshot date " ++ date ++
        " is not in DateOnly (yyyy-mm-dd) or RFC3339 (yyyy-mm-ddThh:mm:ssZ) format"
  | .snapshotDisabled url id =>
      "Repository " ++ url ++ " (id: " ++ id ++ ") has snapshotting disabled"
  | .unresolved name => "Repository " ++ name ++ " could not be resolved"
  | .missingSnapshots found expected =>
      "no snapshots found for all repositories (found " ++ Decimal.ofNat found ++
        ", expected " ++ Decimal.ofNat expected ++ ")"
  | .catalog fault => "unable to retrieve repositories: " ++ fault.message
  | .unexpected text => text

namespace Repositories

def base (repository : DistributionRepository) : Build.Repository :=
  { Build.Repository.empty with
    baseurl := repository.baseurl
    metalink := repository.metalink
    rhsm := some repository.rhsm
    gpgkey := repository.gpgkey
    checkGpg := repository.checkGpg }

def baseOf (architecture : Architecture) (type : ImageType) : List Build.Repository :=
  (architecture.repositories.filter (·.appliesTo type)).map base

def withoutSlashes (url : String) : List Char :=
  (url.toList.reverse.dropWhile (· == '/')).reverse

def sameUrl (a b : String) : Bool :=
  withoutSlashes a == withoutSlashes b

def addNew (ordered : List CatalogRepository) (repository : CatalogRepository) :
    List CatalogRepository :=
  if ordered.any (·.uuid == repository.uuid) then ordered else ordered ++ [repository]

def findUrl? (catalog : Catalog) (url : String) : Option CatalogRepository :=
  (catalog.map (·.2)).find? fun repository =>
    match repository.url with
    | some held => sameUrl held url
    | none => false

/-- Add the repositories of some names, each of which must be known. -/
def addAll (find : String → Option CatalogRepository) :
    List CatalogRepository → List String → Except RepositoryFault (List CatalogRepository)
  | ordered, [] => .ok ordered
  | ordered, name :: rest =>
      match find name with
      | some repository => addAll find (addNew ordered repository) rest
      | none => .error (.unresolved name)

/-- The repositories that are asked for, in the order of first mention, URLs
before identifiers. -/
def ordered (catalog : Catalog) (urls ids : List String) :
    Except RepositoryFault (List CatalogRepository) :=
  match addAll (findUrl? catalog) [] urls with
  | .ok byUrl => addAll catalog.get? byUrl ids
  | .error fault => .error fault

structure Pinned where
  build : List Build.Repository
  configured : List CustomRepository
deriving DecidableEq, Repr

def pinnedBuild (repository : CatalogRepository) (snapshot : SnapshotMatch) :
    Build.Repository :=
  { Build.Repository.empty with
    baseurl := some snapshot.url
    rhsm := some false
    checkGpg := repository.gpgKey.map fun _ => true
    gpgkey := repository.gpgKey
    moduleHotfixes := repository.moduleHotfixes
    checkRepoGpg := repository.metadataVerification }

/-- A snapshot of a repository to configure.  It is disabled, because it needs
to be set up further on the running system. -/
def pinnedCustom (repository : CatalogRepository) (snapshot : SnapshotMatch) :
    CustomRepository where
  id := repository.uuid
  name := repository.name
  filename := none
  baseurl := some [snapshot.url]
  mirrorlist := none
  metalink := none
  gpgkey := repository.gpgKey.map fun key => [key]
  checkGpg := repository.gpgKey.map fun _ => true
  checkRepoGpg := repository.metadataVerification
  enabled := some false
  priority := none
  sslVerify := none
  moduleHotfixes := repository.moduleHotfixes

/-- The snapshot of a repository; of several the last one counts. -/
def snapshotOf? (snapshots : List SnapshotForDate) (uuid : String) : Option SnapshotMatch :=
  (snapshots.reverse.find? fun s => s.repositoryUuid == uuid && s.snapshot.isSome).bind (·.snapshot)

/-- Pin each repository; `done` were pinned before of `expected` in all. -/
def pin (snapshots : List SnapshotForDate) (expected : Nat) :
    Nat → List CatalogRepository → Except RepositoryFault Pinned
  | _, [] => .ok ⟨[], []⟩
  | done, repository :: rest =>
      match snapshotOf? snapshots repository.uuid with
      | none => .error (.missingSnapshots done expected)
      | some snapshot =>
          (pin snapshots expected (done + 1) rest).map fun pinned =>
            ⟨pinnedBuild repository snapshot :: pinned.build,
              pinnedCustom repository snapshot :: pinned.configured⟩

/-- The first repository that has no snapshots. -/
def unpinnable? (repositories : List CatalogRepository) : Option RepositoryFault :=
  (repositories.find? (!·.snapshot)).map fun repository =>
    .snapshotDisabled (repository.url.getD "") repository.uuid

variable {σ : Type}

def ask {α : Type} (act : Act σ ServiceFault α) : Act σ RepositoryFault α :=
  act.adapt .catalog

def snapshots (services : Downstream σ) (caller : Identity) (urls ids : List String)
    (external : Bool) (date : String) : Act σ RepositoryFault Pinned := do
  match snapshotDate? date with
  | none => throw (.invalidDate date)
  | some time =>
      if urls.isEmpty && ids.isEmpty then return ⟨[], []⟩
      let catalog ← ask (services.repositories caller urls ids external)
      let repositories ← ordered catalog urls ids
      match unpinnable? repositories with
      | some fault => throw fault
      | none =>
          let uuids := repositories.map (·.uuid)
          let found ← ask (services.snapshotsForDate caller time.toSecondText uuids)
          pin found uuids.length 0 repositories

/-- The repositories of others that are for an image type; they have no
snapshots. -/
def thirdParty (architecture : Architecture) (type : ImageType) :
    List DistributionRepository :=
  architecture.repositories.filter fun repository =>
    repository.isTaggedFor type && !repository.rhsm

def pinnedUrls (architecture : Architecture) (type : ImageType) : List String :=
  architecture.repositories.filterMap fun repository =>
    if repository.isTaggedFor type && !repository.rhsm then none
    else if repository.appliesTo type then repository.baseurl
    else none

/-- The repositories of an architecture for an image type, pinned if there is
a date. -/
def resolve (services : Downstream σ) (caller : Identity) (architecture : Architecture)
    (type : ImageType) : Option String → Act σ RepositoryFault (List Build.Repository)
  | none => pure (baseOf architecture type)
  | some date => do
      let pinned ← snapshots services caller (pinnedUrls architecture type) [] false date
      let repositories := (thirdParty architecture type).map base ++ pinned.build
      let expected := (baseOf architecture type).length
      if repositories.length ≠ expected then
        throw (.missingSnapshots repositories.length expected)
      return repositories

/-- What the catalog says of metadata, where it also has a key. -/
def verification (known : Option CatalogRepository) : Option Bool :=
  (known.bind (·.gpgKey)).bind fun _ => known.bind (·.metadataVerification)

/-- A build-time repository of the caller, filled in from the catalog; what the
caller says goes first. -/
def fillBuild (catalog : Catalog) (repository : Repository) :
    Except RepositoryFault Build.Repository := do
  let known := repository.id.bind catalog.get?
  let baseurl ←
    match repository.baseurl, known with
    | some url, _ => pure (some url)
    | none, some known => (known.baseUrl.map some).mapError .unexpected
    | none, none =>
        match repository.id with
        | some id => throw (.unresolved id)
        | none => pure none
  let key := known.bind (·.gpgKey)
  return {
    baseurl
    metalink := repository.metalink
    mirrorlist := repository.mirrorlist
    rhsm := some repository.rhsm
    gpgkey := repository.gpgkey <|> key
    checkGpg := repository.checkGpg <|> key.map fun _ => true
    checkRepoGpg := repository.checkRepoGpg <|> verification known
    ignoreSsl := repository.ignoreSsl
    moduleHotfixes := repository.moduleHotfixes <|> known.bind (·.moduleHotfixes) }

def fillCustom (catalog : Catalog) (repository : CustomRepository) :
    Except RepositoryFault CustomRepository := do
  let known := catalog.get? repository.id
  let baseurl ←
    match repository.baseurl, known with
    | some urls, _ => pure (some urls)
    | none, some known => (known.baseUrl.map fun url => some [url]).mapError .unexpected
    | none, none =>
        if repository.metalink.isNone && repository.mirrorlist.isNone then
          throw (.unresolved repository.id)
        else pure none
  let key := known.bind (·.gpgKey)
  return { repository with
    name := repository.name <|> known.bind (·.name)
    baseurl
    gpgkey := repository.gpgkey <|> key.map fun key => [key]
    checkGpg := repository.checkGpg <|> key.map fun _ => true
    checkRepoGpg := repository.checkRepoGpg <|> verification known
    moduleHotfixes := repository.moduleHotfixes <|> known.bind (·.moduleHotfixes) }

/-- The build-time repositories of a caller. -/
def payload (services : Downstream σ) (caller : Identity) (repositories : List Repository) :
    Act σ RepositoryFault (List Build.Repository) := do
  let catalog ← ask (services.repositories caller [] (repositories.filterMap (·.id)) true)
  (repositories.mapM (fillBuild catalog) : Except RepositoryFault _)

/-- The configured repositories of a caller. -/
def custom (services : Downstream σ) (caller : Identity)
    (repositories : List CustomRepository) :
    Act σ RepositoryFault (List CustomRepository) := do
  let catalog ← ask (services.repositories caller [] (repositories.map (·.id)) true)
  (repositories.mapM (fillCustom catalog) : Except RepositoryFault _)

end Repositories

end ComposeDesk
