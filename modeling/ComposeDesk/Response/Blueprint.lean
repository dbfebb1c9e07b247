import ComposeDesk.Calendar.Reader
import ComposeDesk.Request.Blueprint
import ComposeDesk.Uuid

/-!
# Blueprint answers

Blueprints as callers see and export them.
-/

namespace ComposeDesk

structure BlueprintView where
  id : Uuid
  name : String
  description : String
  version : Int32
  distribution : String
  imageRequests : List ImageRequest
  customizations : Customizations
  modifiedAt : Timestamp
deriving DecidableEq, Repr

def BlueprintView.record : Record BlueprintView BlueprintView :=
  Record.start BlueprintView.mk
    |>.required "id" Uuid.codec (·.id)
    |>.required "name" .text (·.name)
    |>.required "description" .text (·.description)
    |>.required "version" .int32 (·.version)
    |>.required "distribution" .text (·.distribution)
    |>.required "image_requests" (.list ImageRequest.codec) (·.imageRequests)
    |>.required "customizations" Customizations.codec (·.customizations)
    |>.required "last_modified_at" Timestamp.codec (·.modifiedAt)

def BlueprintView.codec : Codec BlueprintView :=
  BlueprintView.record.codec "BlueprintResponse"

/-- Where an exported blueprint came from, and when. -/
structure ExportMetadata where
  exportedAt : Timestamp
  parentId : Uuid
deriving DecidableEq, Repr

def ExportMetadata.record : Record ExportMetadata ExportMetadata :=
  Record.start ExportMetadata.mk
    |>.required "exported_at" Timestamp.codec (·.exportedAt)
    |>.required "parent_id" Uuid.codec (·.parentId)

def ExportMetadata.codec : Codec ExportMetadata :=
  ExportMetadata.record.codec "BlueprintMetadata"

/-- A copy of a blueprint to take along: no image requests, no secrets. -/
structure BlueprintExport where
  name : String
  description : String
  distribution : String
  customizations : Customizations
  metadata : ExportMetadata
deriving DecidableEq, Repr

def BlueprintExport.record : Record BlueprintExport BlueprintExport :=
  Record.start BlueprintExport.mk
    |>.required "name" .text (·.name)
    |>.required "description" .text (·.description)
    |>.required "distribution" .text (·.distribution)
    |>.required "customizations" Customizations.codec (·.customizations)
    |>.required "metadata" ExportMetadata.codec (·.metadata)

def BlueprintExport.codec : Codec BlueprintExport :=
  BlueprintExport.record.codec "BlueprintExportResponse"

end ComposeDesk
