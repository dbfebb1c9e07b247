import ComposeDesk.Client.Http

/-!
# The client of the content catalog
-/

namespace ComposeDesk

namespace CatalogClient

variable {ν : Type}

def collection {α : Type} (item : Codec α) : Codec (List α) :=
  (Record.start id |>.required "data" (.list item) id).codec "Collection"

/-- What is asked of the catalog: where repositories come from, how many there
can be, and their URLs and identifiers joined by commas. -/
def query (urls ids : List String) (external : Bool) : List (String × String) :=
  [("origin", if external then "external,upload" else "red_hat"),
      ("limit", Decimal.ofNat (urls.length + ids.length))] ++
    (if urls.isEmpty then [] else [("url", ",".intercalate urls)]) ++
    (if ids.isEmpty then [] else [("uuid", ",".intercalate ids)])

/-- Ask for repositories; without URLs and identifiers there is nothing to ask. -/
def repositories (link : Link ν) (base : String) (caller : Identity)
    (urls ids : List String) (external : Bool) : Act ν ServiceFault Catalog := do
  if urls.isEmpty && ids.isEmpty then return []
  let found ← link.fetch .get (Url.join base "repositories/") (query urls ids external) caller
    .none (collection CatalogRepository.codec)
  return Catalog.ofList found

def snapshotsForDate (link : Link ν) (base : String) (caller : Identity) (date : String)
    (uuids : List String) : Act ν ServiceFault (List SnapshotForDate) :=
  link.fetch .post (Url.join base "snapshots/for_date/") [] caller
    (.json (.obj [("date", .str date), ("repository_uuids", .arr (uuids.map .str))]))
    (collection SnapshotForDate.codec)

end CatalogClient

end ComposeDesk
