import ComposeDesk.Calendar.Reader
import ComposeDesk.Request.Compose
import ComposeDesk.Uuid

/-!
# Lists

Answers that list what there is.
-/

namespace ComposeDesk

structure Created where
  id : Uuid
deriving DecidableEq, Repr

def Created.record : Record Created Created :=
  Record.start Created.mk
    |>.required "id" Uuid.codec (·.id)

def Created.codec (type : String) : Codec Created :=
  Created.record.codec type

/-- How many entries there are in all. -/
structure ListMeta where
  count : Int64
deriving DecidableEq, Repr

def ListMeta.record : Record ListMeta ListMeta :=
  Record.start ListMeta.mk
    |>.required "count" .int64 (·.count)

def ListMeta.codec : Codec ListMeta :=
  ListMeta.record.codec "ListMeta"

structure Links where
  first : String
  last : String
deriving DecidableEq, Repr

def Links.record : Record Links Links :=
  Record.start Links.mk
    |>.required "first" .text (·.first)
    |>.required "last" .text (·.last)

def Links.codec : Codec Links :=
  Links.record.codec "Links"

structure Page (α : Type) where
  size : ListMeta
  links : Links
  data : List α
deriving Repr

def Page.record {α : Type} (item : Codec α) : Record (Page α) (Page α) :=
  Record.start Page.mk
    |>.required "meta" ListMeta.codec (·.size)
    |>.required "links" Links.codec (·.links)
    |>.required "data" (.list item) (·.data)

def Page.codec {α : Type} (type : String) (item : Codec α) : Codec (Page α) :=
  (Page.record item).codec type

structure ComposeItem where
  id : Uuid
  createdAt : Timestamp
  imageName : Option String
  request : ComposeRequest
  clientId : Option String
  blueprintId : Option Uuid
  blueprintVersion : Option Int32
deriving DecidableEq, Repr

def ComposeItem.record : Record ComposeItem ComposeItem :=
  Record.start ComposeItem.mk
    |>.required "id" Uuid.codec (·.id)
    |>.required "created_at" Timestamp.codec (·.createdAt)
    |>.optional "image_name" .text (·.imageName)
    |>.required "request" ComposeRequest.codec (·.request)
    |>.optional "client_id" .text (·.clientId)
    |>.optional "blueprint_id" Uuid.codec (·.blueprintId)
    |>.optional "blueprint_version" .int32 (·.blueprintVersion)

def ComposeItem.codec : Codec ComposeItem :=
  ComposeItem.record.codec "ComposesResponseItem"

structure CloneItem where
  id : Uuid
  composeId : Uuid
  request : CloneRequest
  createdAt : Timestamp
deriving DecidableEq, Repr

def CloneItem.record : Record CloneItem CloneItem :=
  Record.start CloneItem.mk
    |>.required "id" Uuid.codec (·.id)
    |>.required "compose_id" Uuid.codec (·.composeId)
    |>.required "request" CloneRequest.codec (·.request)
    |>.required "created_at" Timestamp.codec (·.createdAt)

def CloneItem.codec : Codec CloneItem :=
  CloneItem.record.codec "ClonesResponseItem"

structure BlueprintItem where
  id : Uuid
  name : String
  description : String
  version : Int32
  modifiedAt : Timestamp
deriving DecidableEq, Repr

def BlueprintItem.record : Record BlueprintItem BlueprintItem :=
  Record.start BlueprintItem.mk
    |>.required "id" Uuid.codec (·.id)
    |>.required "name" .text (·.name)
    |>.required "description" .text (·.description)
    |>.required "version" .int32 (·.version)
    |>.required "last_modified_at" Timestamp.codec (·.modifiedAt)

def BlueprintItem.codec : Codec BlueprintItem :=
  BlueprintItem.record.codec "BlueprintItem"

structure DistributionItem where
  name : String
  description : String
deriving DecidableEq, Repr

def DistributionItem.record : Record DistributionItem DistributionItem :=
  Record.start DistributionItem.mk
    |>.required "name" .text (·.name)
    |>.required "description" .text (·.description)

def DistributionItem.codec : Codec DistributionItem :=
  DistributionItem.record.codec "DistributionItem"

structure ArchitectureItem where
  arch : String
  imageTypes : List String
  repositories : List Repository
deriving DecidableEq, Repr

def ArchitectureItem.record : Record ArchitectureItem ArchitectureItem :=
  Record.start ArchitectureItem.mk
    |>.required "arch" .text (·.arch)
    |>.required "image_types" (.list .text) (·.imageTypes)
    |>.required "repositories" (.list Repository.codec) (·.repositories)

def ArchitectureItem.codec : Codec ArchitectureItem :=
  ArchitectureItem.record.codec "ArchitectureItem"

end ComposeDesk
