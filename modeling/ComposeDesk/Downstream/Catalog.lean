import ComposeDesk.Json.Record

/-!
# The catalog

Repositories and their snapshots as the content catalog knows them.
-/

namespace ComposeDesk

structure CatalogRepository where
  uuid : String
  name : Option String
  url : Option String
  /-- `red_hat`, `external` or `upload`. -/
  origin : Option String
  snapshot : Bool
  gpgKeyText : Option String
  metadataVerification : Option Bool
  moduleHotfixes : Option Bool
  latestSnapshotUrl : Option String
deriving DecidableEq, Repr

def CatalogRepository.record : Record CatalogRepository CatalogRepository :=
  Record.start CatalogRepository.mk
    |>.required "uuid" .text (·.uuid)
    |>.optional "name" .text (·.name)
    |>.optional "url" .text (·.url)
    |>.optional "origin" .text (·.origin)
    |>.defaulted "snapshot" .bool false (·.snapshot)
    |>.optional "gpg_key" .text (·.gpgKeyText)
    |>.optional "metadata_verification" .bool (·.metadataVerification)
    |>.optional "module_hotfixes" .bool (·.moduleHotfixes)
    |>.optional "latest_snapshot_url" .text (·.latestSnapshotUrl)

def CatalogRepository.codec : Codec CatalogRepository :=
  CatalogRepository.record.codec "ContentRepository"

namespace CatalogRepository

/-- The key, unless it is empty. -/
def gpgKey (repository : CatalogRepository) : Option String :=
  repository.gpgKeyText.filter (· ≠ "")

/-- The URL from which images are built: the latest snapshot of an uploaded
repository, the repository itself otherwise. -/
def baseUrl (repository : CatalogRepository) : Except String String :=
  match repository.origin with
  | none => .error ("unable to read origin from repository " ++ repository.uuid)
  | some origin =>
      if origin = "upload" then
        match repository.latestSnapshotUrl with
        | some url => .ok url
        | none =>
            .error ("upload repository " ++ repository.uuid ++ " has no snapshot yet")
      else if origin = "external" ∨ origin = "red_hat" then
        match repository.url with
        | some url => .ok url
        | none => .error ("repository " ++ repository.uuid ++ " has no url")
      else
        .error ("unknown origin on content sources repository " ++ repository.uuid ++
          ", origin: " ++ origin)

end CatalogRepository

abbrev Catalog := List (String × CatalogRepository)

namespace Catalog

def insert (repository : CatalogRepository) : Catalog → Catalog
  | [] => [(repository.uuid, repository)]
  | (uuid, held) :: rest =>
      if uuid = repository.uuid then (uuid, repository) :: rest
      else (uuid, held) :: insert repository rest

/-- The catalog of some repositories; of equal identifiers the last one counts. -/
def ofList (repositories : List CatalogRepository) : Catalog :=
  repositories.foldl (fun held repository => insert repository held) []

def get? (catalog : Catalog) (uuid : String) : Option CatalogRepository :=
  (catalog.find? (·.1 == uuid)).map (·.2)

end Catalog

structure SnapshotMatch where
  uuid : String
  url : String
  repositoryPath : Option String
deriving DecidableEq, Repr

def SnapshotMatch.record : Record SnapshotMatch SnapshotMatch :=
  Record.start SnapshotMatch.mk
    |>.required "uuid" .text (·.uuid)
    |>.required "url" .text (·.url)
    |>.optional "repository_path" .text (·.repositoryPath)

def SnapshotMatch.codec : Codec SnapshotMatch :=
  SnapshotMatch.record.codec "SnapshotMatch"

structure SnapshotForDate where
  repositoryUuid : String
  snapshot : Option SnapshotMatch
deriving DecidableEq, Repr

def SnapshotForDate.record : Record SnapshotForDate SnapshotForDate :=
  Record.start SnapshotForDate.mk
    |>.required "repository_uuid" .text (·.repositoryUuid)
    |>.nullableInObject "match" SnapshotMatch.codec (·.snapshot)

def SnapshotForDate.codec : Codec SnapshotForDate :=
  SnapshotForDate.record.codec "SnapshotForDate"

end ComposeDesk
